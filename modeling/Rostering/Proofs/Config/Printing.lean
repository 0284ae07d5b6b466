import Rostering.CommandLine
import Rostering.Proofs.Config.Sections

namespace Rostering.Config

open Toml (Tidy)

theorem readEntries_write {entries : List (String × Tree)}
    (h : Tidy (Toml.maxDepth + 1) (.part entries)) (breaks : Nat) :
    readEntries (Toml.write (.part entries) ++ String.ofList (List.replicate breaks '\n')) =
      .ok (Tree.shownEntries entries) := by
  simp only [readEntries, h.dropByteOrderMark_write, String.ofList_toList, Toml.read_write h,
    entriesOfToml_contents]

theorem settings_eq_nil {env : Environment} (h : ∀ v ∈ env, settingKey? v.1 = none) :
    env.settings = [] :=
  List.filterMap_eq_nil_iff.mpr fun v hv => Option.map_eq_none_iff.mpr (h v hv)

theorem load_write {c : AppConfig} (hvalid : c.Valid) (hfits : c.Fits)
    {lookUp : String → Found} {path : String} {env : Environment} (breaks : Nat)
    (hpath : extension? path = some "toml")
    (hfile : lookUp path =
      .file (Toml.write c.tree ++ String.ofList (List.replicate breaks '\n')))
    (henv : ∀ v ∈ env, settingKey? v.1 = none) : load lookUp path env = .ok c := by
  have htidy : Tidy (Toml.maxDepth + 1) c.tree := hfits.tidy 78
  have hread := AppConfig.read_shown hfits
  obtain ⟨entries, htree⟩ := htidy.exists_part
  rw [htree] at htidy hread hfile
  rw [Tree.shown_part] at hread
  have hentries : fileEntries lookUp path = .ok (Tree.shownEntries entries) := by
    simp only [fileEntries, hfile, hpath, if_true, readEntries_write htidy]
  have hsettings : Entries.overlay env.settings (Entries.overlay (Tree.shownEntries entries) []) =
      Tree.shownEntries entries := by
    rw [settings_eq_nil henv, overlay_shownEntries htidy]
    rfl
  have hnone : c.fault? = none := hvalid
  simp only [load, hentries, bind, Except.bind, hsettings, hread, hnone]
  rfl

structure PostgresSettings.SameButSecrets (s t : PostgresSettings) : Prop where
  shown : { s with url := none, password := none } = { t with url := none, password := none }
  url : s.url.isSome = t.url.isSome
  password : s.password.isSome = t.password.isSome

structure MssqlSettings.SameButSecrets (s t : MssqlSettings) : Prop where
  shown : { s with connectionString := none, password := none } =
    { t with connectionString := none, password := none }
  connectionString : s.connectionString.isSome = t.connectionString.isSome
  password : s.password.isSome = t.password.isSome

structure AppConfig.SameButSecrets (c c' : AppConfig) : Prop where
  server : c.server = c'.server
  backend : c.storage.backend = c'.storage.backend
  schema : c.storage.schema = c'.storage.schema
  postgres : Option.Rel PostgresSettings.SameButSecrets c.storage.postgres c'.storage.postgres
  mssql : Option.Rel MssqlSettings.SameButSecrets c.storage.mssql c'.storage.mssql
  query : c.query = c'.query
  logging : c.logging = c'.logging
  auth : c.auth = c'.auth

structure AppConfig.NoSecrets (c : AppConfig) : Prop where
  postgres : ∀ pg ∈ c.storage.postgres, pg.url = none ∧ pg.password = none
  mssql : ∀ ms ∈ c.storage.mssql, ms.connectionString = none ∧ ms.password = none

theorem map_const_congr {α β : Type} {o o' : Option α} (h : o.isSome = o'.isSome) (b : β) :
    (o.map fun _ => b) = o'.map fun _ => b := by
  cases o <;> cases o' <;> simp_all

theorem map_eq_of_rel {α β : Type} {r : α → α → Prop} {f : α → β}
    {o o' : Option α} (h : Option.Rel r o o') (hf : ∀ a b, r a b → f a = f b) :
    o.map f = o'.map f := by
  cases h with
  | none => rfl
  | some h => exact congrArg some (hf _ _ h)

theorem map_eq_self {α : Type} {f : α → α} {o : Option α} (h : ∀ a ∈ o, f a = a) :
    o.map f = o := by
  cases o with
  | none => rfl
  | some a => exact congrArg some (h a rfl)

def PostgresSettings.redacted (s : PostgresSettings) : PostgresSettings :=
  { s with
    password := s.password.map fun _ => AppConfig.hidden
    url := s.url.map fun _ => AppConfig.hidden }

def MssqlSettings.redacted (s : MssqlSettings) : MssqlSettings :=
  { s with
    password := s.password.map fun _ => AppConfig.hidden
    connectionString := s.connectionString.map fun _ => AppConfig.hidden }

theorem PostgresSettings.SameButSecrets.redacted_eq {s t : PostgresSettings}
    (h : s.SameButSecrets t) : s.redacted = t.redacted := by
  rw [redacted, redacted, map_const_congr h.url, map_const_congr h.password]
  -- The secrets, which alone tell the two apart, are overwritten.
  exact congrArg (fun pg : PostgresSettings =>
    { pg with
      password := t.password.map fun _ => AppConfig.hidden
      url := t.url.map fun _ => AppConfig.hidden }) h.shown

theorem MssqlSettings.SameButSecrets.redacted_eq {s t : MssqlSettings}
    (h : s.SameButSecrets t) : s.redacted = t.redacted := by
  rw [redacted, redacted, map_const_congr h.connectionString, map_const_congr h.password]
  exact congrArg (fun ms : MssqlSettings =>
    { ms with
      password := t.password.map fun _ => AppConfig.hidden
      connectionString := t.connectionString.map fun _ => AppConfig.hidden }) h.shown

theorem PostgresSettings.redacted_eq_self {s : PostgresSettings} (hurl : s.url = none)
    (hpassword : s.password = none) : s.redacted = s := by
  have hurl : (s.url.map fun _ => AppConfig.hidden) = s.url := by rw [hurl, Option.map_none]
  have hpassword : (s.password.map fun _ => AppConfig.hidden) = s.password := by
    rw [hpassword, Option.map_none]
  rw [redacted, hurl, hpassword]

theorem MssqlSettings.redacted_eq_self {s : MssqlSettings} (hstring : s.connectionString = none)
    (hpassword : s.password = none) : s.redacted = s := by
  have hstring : (s.connectionString.map fun _ => AppConfig.hidden) = s.connectionString := by
    rw [hstring, Option.map_none]
  have hpassword : (s.password.map fun _ => AppConfig.hidden) = s.password := by
    rw [hpassword, Option.map_none]
  rw [redacted, hstring, hpassword]

namespace AppConfig

theorem redacted_eq (c : AppConfig) :
    c.redacted = { c with storage := { c.storage with
      postgres := c.storage.postgres.map PostgresSettings.redacted
      mssql := c.storage.mssql.map MssqlSettings.redacted } } := rfl

theorem SameButSecrets.redacted_eq {c c' : AppConfig} (h : c.SameButSecrets c') :
    c.redacted = c'.redacted := by
  have hpostgres := map_eq_of_rel h.postgres fun _ _ => PostgresSettings.SameButSecrets.redacted_eq
  have hmssql := map_eq_of_rel h.mssql fun _ _ => MssqlSettings.SameButSecrets.redacted_eq
  simp only [AppConfig.redacted_eq, hpostgres, hmssql, h.server, h.backend, h.schema, h.query,
    h.logging, h.auth]

theorem NoSecrets.redacted_eq {c : AppConfig} (h : c.NoSecrets) : c.redacted = c := by
  have hpostgres : c.storage.postgres.map PostgresSettings.redacted = c.storage.postgres :=
    map_eq_self fun pg hpg =>
      PostgresSettings.redacted_eq_self (h.postgres pg hpg).1 (h.postgres pg hpg).2
  have hmssql : c.storage.mssql.map MssqlSettings.redacted = c.storage.mssql :=
    map_eq_self fun ms hms => MssqlSettings.redacted_eq_self (h.mssql ms hms).1 (h.mssql ms hms).2
  rw [AppConfig.redacted_eq, hpostgres, hmssql]

end AppConfig

theorem printed_config_faithful :
    (∀ c c' : AppConfig, c.SameButSecrets c' → c.redactedToml = c'.redactedToml) ∧
    ∀ c : AppConfig, c.Valid → c.Fits → c.NoSecrets →
      ∀ (lookUp : String → Found) (path : String) (env : Environment),
        extension? path = some "toml" →
        (lookUp path = .file c.redactedToml ∨
          lookUp path = .file (CommandLine.Outcome.printed c).shown) →
        (∀ v ∈ env, settingKey? v.1 = none) →
        load lookUp path env = .ok c := by
  refine ⟨fun c c' h => ?_, fun c hvalid hfits hsecrets lookUp path env hpath hfile henv => ?_⟩
  · rw [AppConfig.redactedToml, h.redacted_eq, AppConfig.redactedToml]
  · have htext : c.redactedToml = Toml.write c.tree := by
      rw [AppConfig.redactedToml, hsecrets.redacted_eq]
    rcases hfile with hfile | hfile
    · refine load_write hvalid hfits 0 hpath ?_ henv
      rw [hfile, htext]
      simp
    · refine load_write hvalid hfits 1 hpath ?_ henv
      rw [hfile, CommandLine.Outcome.shown, htext]
      rfl

theorem awkward_config_faithful :
    let ms := { MssqlSettings.usual with
      user := "it's \"sa\"\\"
      database := "\"\"\"\n'''\r\t\x1b\x7f€"
      idleTimeoutMs := some 9223372036854775807 }
    let c := { AppConfig.usual with storage := ⟨.tsql, "\\n", none, some ms⟩, logging := ⟨"INFO"⟩ }
    let withPassword (password : String) : AppConfig :=
      { c with storage := ⟨.tsql, "\\n", none, some { ms with password := some password }⟩ }
    (withPassword "hunter2").redactedToml = (withPassword "\"").redactedToml ∧
      c.Valid ∧ load (Folder.ofFiles [("oneroster.toml", c.redactedToml)]).lookUp "oneroster.toml"
        [("PATH", "/bin"), ("ONEROSTER_CONFIG", "x")] = .ok c := by
  intro ms c withPassword
  have hsame : (withPassword "hunter2").SameButSecrets (withPassword "\"") :=
    ⟨rfl, rfl, rfl, .none, .some ⟨rfl, rfl, rfl⟩, rfl, rfl, rfl⟩
  have hvalid : c.Valid := by decide
  have hfits : c.Fits := by
    refine ⟨⟨by decide, by decide⟩, ⟨by simp [c], ?_⟩, ⟨by decide, by decide⟩⟩
    rintro _ ⟨⟩
    exact ⟨by decide, by decide, by decide, by decide⟩
  have hsecrets : c.NoSecrets := ⟨by simp [c], by rintro _ ⟨⟩; exact ⟨rfl, rfl⟩⟩
  have hnames : Folder.names "oneroster.toml" = ["oneroster.toml"] := by decide
  have hfile (text : String) :
      (Folder.ofFiles [("oneroster.toml", text)]).lookUp "oneroster.toml" = .file text := by
    simp [Folder.ofFiles, Folder.lookUp, hnames, Folder.follow, Folder.isIdle, Folder.isDirectory,
      Folder.stands, Folder.file?]
  exact ⟨printed_config_faithful.1 _ _ hsame, hvalid,
    printed_config_faithful.2 c hvalid hfits hsecrets _ _ _ (by decide) (.inl (hfile _))
      (by decide)⟩

end Rostering.Config
