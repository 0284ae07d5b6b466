import Rostering.Config.Load
import Rostering.Proofs.Config.Overlaying

namespace Rostering.Config

open Toml (IsBare IsPlain Tidy)

def Tree.entry? (name : String) (entries : List (String × Tree)) : Option Tree :=
  (entries.find? (fun entry => entry.1 = name)).map (·.2)

theorem get?_shownEntries (name : String) (entries : List (String × Tree)) :
    Entries.get? name (Tree.shownEntries entries) = (Tree.entry? name entries).map Tree.shown := by
  simp [Entries.get?, Tree.shownEntries, Tree.entry?, List.find?_map, Function.comp_def]

section

variable (name : String)

@[simp] theorem entry?_nil : Tree.entry? name [] = none := by simp [Tree.entry?]

@[simp] theorem entry?_cons (entry : String × Tree) (entries : List (String × Tree)) :
    Tree.entry? name (entry :: entries) =
      if entry.1 = name then some entry.2 else Tree.entry? name entries := by
  by_cases h : entry.1 = name <;> simp [Tree.entry?, h]

@[simp] theorem entry?_append (xs ys : List (String × Tree)) :
    Tree.entry? name (xs ++ ys) = (Tree.entry? name xs).or (Tree.entry? name ys) := by
  simp [Tree.entry?, List.find?_append, Option.map_or]

@[simp] theorem entry?_optional {α : Type} (field : String) (write : α → Tree) (value : Option α) :
    Tree.entry? name (Tree.optional field write value) =
      if field = name then value.map write else none := by
  cases value with
  | none => simp [Tree.optional]
  | some v => simp [Tree.optional]

end

def sectionOf (entries : List (String × Tree)) : View Value :=
  .named fun name => (Tree.entry? name entries).map Tree.shown

@[simp] theorem part_shown (count : Nat) (entries : List (String × Tree)) :
    looseSource.part count (Tree.part entries).shown = some (sectionOf entries) := by
  rw [Tree.shown_part]
  simp only [looseSource, get?_shownEntries, sectionOf]

@[simp] theorem field_sectionOf {α : Type} (entries : List (String × Tree)) (index : Nat)
    (name : String) (read : Value → Option α) (default : α) :
    (sectionOf entries).field index name read default =
      ((Tree.entry? name entries).map fun tree => read tree.shown).getD (some default) := by
  simp only [View.field, View.entry?, sectionOf]
  cases Tree.entry? name entries <;> rfl

@[simp] theorem text_shown (s : String) : looseSource.text (Tree.text s).shown = some s := by
  simp [looseSource, Tree.shown, Toml.content, Value.ofToml, looseText]

@[simp] theorem flag_shown (b : Bool) : looseSource.flag (Tree.flag b).shown = some b := by
  simp [looseSource, Tree.shown, Toml.content, Value.ofToml, looseFlag]

theorem number_shown {bound n : Nat} (h : n < bound) :
    looseSource.number bound (Tree.number n).shown = some n := by
  simp [looseSource, Tree.shown, Toml.content, Value.ofToml, looseNumber, h]

theorem optional_shown {α : Type} (read : Value → Option α) (tree : Tree) :
    looseSource.optional read tree.shown = (read tree.shown).map some := by
  cases tree <;> rfl

theorem optionalField {α : Type} {value : Option α} {write : α → Tree} {read : Value → Option α}
    (h : ∀ v ∈ value, read (write v).shown = some v) :
    (value.map ((fun tree => looseSource.optional read tree.shown) ∘ write)).getD (some none) =
      some value := by
  cases value with
  | none => rfl
  | some v => simp [optional_shown, h]

theorem optionalText (value : Option String) :
    (value.map ((fun tree => looseSource.optional looseSource.text tree.shown) ∘ Tree.text)).getD
      (some none) = some value :=
  optionalField fun _ _ => rfl

theorem u64_of_i64 {n : Nat} (h : n < Text.i64Limit) : n < Text.u64Limit :=
  Nat.lt_trans h (by decide)

theorem optionalNumber {value : Option Nat} (h : ∀ n ∈ value, n < Text.i64Limit) :
    (value.map ((fun tree => looseSource.optional (looseSource.number Text.u64Limit) tree.shown) ∘
      Tree.number)).getD (some none) = some value :=
  optionalField fun n hn => number_shown (u64_of_i64 (h n hn))

structure ServerSettings.Fits (s : ServerSettings) : Prop where
  port : s.port < limit16
  requestTimeoutMs : s.requestTimeoutMs < Text.i64Limit

structure PostgresSettings.Fits (s : PostgresSettings) : Prop where
  port : s.port < limit16
  poolSize : s.poolSize < limit32
  connectTimeoutMs : s.connectTimeoutMs < Text.i64Limit
  idleTimeoutMs : ∀ n ∈ s.idleTimeoutMs, n < Text.i64Limit
  minConnections : s.minConnections < limit32
  maxLifetimeSecs : ∀ n ∈ s.maxLifetimeSecs, n < Text.i64Limit
  statementTimeoutMs : ∀ n ∈ s.statementTimeoutMs, n < Text.i64Limit

structure MssqlSettings.Fits (s : MssqlSettings) : Prop where
  port : s.port < limit16
  poolSize : s.poolSize < limit32
  connectTimeoutMs : s.connectTimeoutMs < Text.i64Limit
  idleTimeoutMs : ∀ n ∈ s.idleTimeoutMs, n < Text.i64Limit

structure StorageSettings.Fits (s : StorageSettings) : Prop where
  postgres : ∀ pg ∈ s.postgres, pg.Fits
  mssql : ∀ ms ∈ s.mssql, ms.Fits

structure QuerySettings.Fits (s : QuerySettings) : Prop where
  defaultLimit : s.defaultLimit < Text.i64Limit
  maxLimit : ∀ n ∈ s.maxLimit, n < Text.i64Limit

structure AppConfig.Fits (c : AppConfig) : Prop where
  server : c.server.Fits
  storage : c.storage.Fits
  query : c.query.Fits

theorem ServerSettings.read_shown {s : ServerSettings} (h : s.Fits) :
    read looseSource s.tree.shown = some s := by
  simp [read, tree, number_shown h.port, number_shown (u64_of_i64 h.requestTimeoutMs), optionalText]

theorem PostgresSettings.read_shown {s : PostgresSettings} (h : s.Fits) :
    read looseSource s.tree.shown = some s := by
  -- One field at a time: the bindings lie too deep to be simplified as a whole.
  refine (Text.bind_of_eq_some (part_shown ..) _).trans ?_
  refine (Text.bind_of_eq_some (a := s.url) (by simp [optionalText]) _).trans ?_
  refine (Text.bind_of_eq_some (a := s.host) (by simp) _).trans ?_
  refine (Text.bind_of_eq_some (a := s.port) (by simp [number_shown h.port]) _).trans ?_
  refine (Text.bind_of_eq_some (a := s.user) (by simp) _).trans ?_
  refine (Text.bind_of_eq_some (a := s.password) (by simp [optionalText]) _).trans ?_
  refine (Text.bind_of_eq_some (a := s.database) (by simp) _).trans ?_
  refine (Text.bind_of_eq_some (a := s.poolSize) (by simp [number_shown h.poolSize]) _).trans ?_
  refine (Text.bind_of_eq_some (a := s.connectTimeoutMs)
    (by simp [number_shown (u64_of_i64 h.connectTimeoutMs)]) _).trans ?_
  refine (Text.bind_of_eq_some (a := s.idleTimeoutMs)
    (by simp [optionalNumber h.idleTimeoutMs]) _).trans ?_
  refine (Text.bind_of_eq_some (a := s.minConnections)
    (by simp [number_shown h.minConnections]) _).trans ?_
  refine (Text.bind_of_eq_some (a := s.maxLifetimeSecs)
    (by simp [optionalNumber h.maxLifetimeSecs]) _).trans ?_
  refine (Text.bind_of_eq_some (a := s.statementTimeoutMs)
    (by simp [optionalNumber h.statementTimeoutMs]) _).trans ?_
  exact Text.bind_of_eq_some (a := s.applicationName) (by simp) _

theorem MssqlSettings.read_shown {s : MssqlSettings} (h : s.Fits) :
    read looseSource s.tree.shown = some s := by
  refine (Text.bind_of_eq_some (part_shown ..) _).trans ?_
  refine (Text.bind_of_eq_some (a := s.connectionString) (by simp [optionalText]) _).trans ?_
  refine (Text.bind_of_eq_some (a := s.host) (by simp) _).trans ?_
  refine (Text.bind_of_eq_some (a := s.port) (by simp [number_shown h.port]) _).trans ?_
  refine (Text.bind_of_eq_some (a := s.user) (by simp) _).trans ?_
  refine (Text.bind_of_eq_some (a := s.password) (by simp [optionalText]) _).trans ?_
  refine (Text.bind_of_eq_some (a := s.database) (by simp) _).trans ?_
  refine (Text.bind_of_eq_some (a := s.trustServerCertificate) (by simp) _).trans ?_
  refine (Text.bind_of_eq_some (a := s.poolSize) (by simp [number_shown h.poolSize]) _).trans ?_
  refine (Text.bind_of_eq_some (a := s.connectTimeoutMs)
    (by simp [number_shown (u64_of_i64 h.connectTimeoutMs)]) _).trans ?_
  exact Text.bind_of_eq_some (a := s.idleTimeoutMs) (by simp [optionalNumber h.idleTimeoutMs]) _

theorem choice_shown (d : Sql.Dialect) :
    (looseSource.choice (Tree.text d.name).shown).bind Sql.Dialect.ofName? = some d := by
  cases d <;> rfl

theorem StorageSettings.read_shown {s : StorageSettings} (h : s.Fits) :
    read looseSource s.tree.shown = some s := by
  have hpostgres := optionalField fun pg hpg => PostgresSettings.read_shown (h.postgres pg hpg)
  have hmssql := optionalField fun ms hms => MssqlSettings.read_shown (h.mssql ms hms)
  simp [read, tree, choice_shown, hpostgres, hmssql]

theorem QuerySettings.read_shown {s : QuerySettings} (h : s.Fits) :
    read looseSource s.tree.shown = some s := by
  simp [read, tree, number_shown (u64_of_i64 h.defaultLimit), optionalNumber h.maxLimit]

theorem AppConfig.read_shown {c : AppConfig} (h : c.Fits) :
    read looseSource c.tree.shown = some c := by
  simp [read, tree, ServerSettings.read_shown h.server, StorageSettings.read_shown h.storage,
    QuerySettings.read_shown h.query, LoggingSettings.read, AuthSettings.read]

theorem names_optional {α : Type} (field : String) (write : α → Tree) (value : Option α) :
    ((Tree.optional field write value).map (·.1)).Sublist [field] := by
  cases value with
  | none => exact List.nil_sublist _
  | some v => exact List.Sublist.refl _

def AllPlain (entries : List (String × Tree)) : Prop := ∀ entry ∈ entries, IsPlain entry.2

theorem allPlain_nil : AllPlain [] := by simp [AllPlain]

theorem allPlain_cons {entry : String × Tree} {entries : List (String × Tree)} :
    AllPlain (entry :: entries) ↔ IsPlain entry.2 ∧ AllPlain entries := List.forall_mem_cons

theorem allPlain_append {xs ys : List (String × Tree)} :
    AllPlain (xs ++ ys) ↔ AllPlain xs ∧ AllPlain ys := List.forall_mem_append

theorem forall_mem_optional {α : Type} {field : String} {write : α → Tree} {value : Option α}
    {p : String × Tree → Prop} :
    (∀ entry ∈ Tree.optional field write value, p entry) ↔ ∀ v ∈ value, p (field, write v) := by
  cases value <;> simp [Tree.optional]

theorem allPlain_optional {α : Type} {field : String} {write : α → Tree} {value : Option α} :
    AllPlain (Tree.optional field write value) ↔ ∀ v ∈ value, IsPlain (write v) :=
  forall_mem_optional

theorem isPlain_text (s : String) : IsPlain (.text s) := trivial

theorem isPlain_flag (b : Bool) : IsPlain (.flag b) := trivial

theorem isPlain_number {n : Nat} : IsPlain (.number n) ↔ n < Text.i64Limit := Iff.rfl

theorem i64_of_limit16 {n : Nat} (h : n < limit16) : n < Text.i64Limit :=
  Nat.lt_trans h (by decide)

theorem i64_of_limit32 {n : Nat} (h : n < limit32) : n < Text.i64Limit :=
  Nat.lt_trans h (by decide)

theorem tidySection {depth : Nat} (names : List String) (hbare : ∀ name ∈ names, IsBare name)
    (hnodup : names.Nodup) {values parts : List (String × Tree)}
    (hnames : ((values ++ parts).map (·.1)).Sublist names) (plain : AllPlain values)
    (sections : ∀ entry ∈ parts, Tidy depth entry.2) :
    Tidy (depth + 1) (.part (values ++ parts)) := by
  refine .part (fun entry hentry => ?_) (hnames.nodup hnodup) plain sections
  exact hbare entry.1 (hnames.subset (List.mem_map_of_mem hentry))

theorem tidyValues {depth : Nat} (names : List String) (hbare : ∀ name ∈ names, IsBare name)
    (hnodup : names.Nodup) {values : List (String × Tree)}
    (hnames : (values.map (·.1)).Sublist names) (plain : AllPlain values) :
    Tidy (depth + 1) (.part values) := by
  rw [← List.append_nil values] at hnames ⊢
  exact tidySection names hbare hnodup hnames plain (by simp)

theorem ServerSettings.Fits.tidy {s : ServerSettings} (h : s.Fits) (depth : Nat) :
    Tidy (depth + 1) s.tree := by
  refine tidyValues (["host", "port"] ++ ["base_url"] ++ ["request_timeout_ms"]) (by decide)
    (by decide) ?_ ?_
  · simp only [List.map_append, List.map_cons, List.map_nil]
    apply_rules [List.Sublist.append, names_optional, List.Sublist.refl]
  · simp only [allPlain_append, allPlain_cons, allPlain_nil, allPlain_optional, isPlain_text,
      isPlain_number, i64_of_limit16 h.port, h.requestTimeoutMs, implies_true, and_true]

theorem PostgresSettings.Fits.tidy {s : PostgresSettings} (h : s.Fits) (depth : Nat) :
    Tidy (depth + 1) s.tree := by
  refine tidyValues (["url"] ++ ["host", "port", "user"] ++ ["password"] ++
    ["database", "pool_size", "connect_timeout_ms"] ++ ["idle_timeout_ms"] ++
    ["min_connections"] ++ ["max_lifetime_secs"] ++ ["statement_timeout_ms"] ++
    ["application_name"]) (by decide) (by decide) ?_ ?_
  · simp only [List.map_append, List.map_cons, List.map_nil]
    apply_rules [List.Sublist.append, names_optional, List.Sublist.refl]
  · simp +contextual only [allPlain_append, allPlain_cons, allPlain_nil, allPlain_optional,
      isPlain_text, isPlain_number, i64_of_limit16 h.port, i64_of_limit32 h.poolSize,
      h.connectTimeoutMs, h.idleTimeoutMs, i64_of_limit32 h.minConnections, h.maxLifetimeSecs,
      h.statementTimeoutMs, implies_true, and_true]

theorem MssqlSettings.Fits.tidy {s : MssqlSettings} (h : s.Fits) (depth : Nat) :
    Tidy (depth + 1) s.tree := by
  refine tidyValues (["connection_string"] ++ ["host", "port", "user"] ++ ["password"] ++
    ["database", "trust_server_certificate", "pool_size", "connect_timeout_ms"] ++
    ["idle_timeout_ms"]) (by decide) (by decide) ?_ ?_
  · simp only [List.map_append, List.map_cons, List.map_nil]
    apply_rules [List.Sublist.append, names_optional, List.Sublist.refl]
  · simp +contextual only [allPlain_append, allPlain_cons, allPlain_nil, allPlain_optional,
      isPlain_text, isPlain_flag, isPlain_number, i64_of_limit16 h.port, i64_of_limit32 h.poolSize,
      h.connectTimeoutMs, h.idleTimeoutMs, implies_true, and_true]

theorem StorageSettings.Fits.tidy {s : StorageSettings} (h : s.Fits) (depth : Nat) :
    Tidy (depth + 2) s.tree := by
  rw [StorageSettings.tree, List.append_assoc]
  refine tidySection (["backend", "schema"] ++ (["postgres"] ++ ["mssql"])) (by decide)
    (by decide) ?_ ?_ ?_
  · simp only [List.map_append, List.map_cons, List.map_nil]
    apply_rules [List.Sublist.append, names_optional, List.Sublist.refl]
  · simp only [allPlain_cons, allPlain_nil, isPlain_text, and_true]
  · refine List.forall_mem_append.mpr ⟨?_, ?_⟩
    · exact forall_mem_optional.mpr fun pg hpg => (h.postgres pg hpg).tidy depth
    · exact forall_mem_optional.mpr fun ms hms => (h.mssql ms hms).tidy depth

theorem QuerySettings.Fits.tidy {s : QuerySettings} (h : s.Fits) (depth : Nat) :
    Tidy (depth + 1) s.tree := by
  refine tidyValues ["default_limit", "max_limit"] (by decide) (by decide) ?_ ?_
  · exact (names_optional ..).cons_cons _
  · simp +contextual only [allPlain_cons, allPlain_optional, isPlain_number, h.defaultLimit,
      h.maxLimit, implies_true, and_true]

theorem AppConfig.Fits.tidy {c : AppConfig} (h : c.Fits) (depth : Nat) :
    Tidy (depth + 3) c.tree := by
  have hlogging : Tidy (depth + 2) (.part [("level", .text c.logging.level)]) :=
    tidyValues ["level"] (by decide) (by decide) (.refl _)
      (allPlain_cons.mpr ⟨isPlain_text _, allPlain_nil⟩)
  have hauth : Tidy (depth + 2) (.part [("enforce_scopes", .flag c.auth.enforceScopes)]) :=
    tidyValues ["enforce_scopes"] (by decide) (by decide) (.refl _)
      (allPlain_cons.mpr ⟨isPlain_flag _, allPlain_nil⟩)
  refine tidySection ["server", "storage", "query", "logging", "auth"] (by decide) (by decide)
    (.refl _) allPlain_nil ?_
  simp only [List.forall_mem_cons, h.server.tidy, h.storage.tidy, h.query.tidy, hlogging, hauth]
  simp

end Rostering.Config
