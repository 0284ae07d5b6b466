import Rostering.Proofs.Json.Numbers
import Rostering.Proofs.Json.Strings

namespace Rostering.Json

def Space (cs : List Char) : Prop := ∀ c ∈ cs, isSpace c = true

inductive SpellsScalar : List Char → Json → Prop where
  | null : SpellsScalar "null".toList .null
  | yes : SpellsScalar "true".toList (.bool true)
  | no : SpellsScalar "false".toList (.bool false)
  | number {text : List Char} {json : Json} (h : NumberText text json) : SpellsScalar text json
  | string {body text : List Char} (h : Characters body text) :
      SpellsScalar ('"' :: (body ++ ['"'])) (.str (String.ofList text))

section Parts

variable {α : Type} (close : Char) (Part : List Char → α → Prop)

inductive Separated : List Char → List α → Prop where
  | last {cs : List Char} {a : α} (h : Part cs a) : Separated cs [a]
  | more {cs blanks rest : List Char} {a : α} {as : List α} (h : Part cs a) (space : Space blanks)
      (others : Separated rest as) : Separated (cs ++ ',' :: (blanks ++ rest)) (a :: as)

inductive Bracketed : List Char → List α → Prop where
  | nothing {blanks : List Char} (space : Space blanks) : Bracketed (blanks ++ [close]) []
  | parts {blanks cs : List Char} {as : List α} (space : Space blanks)
      (inside : Separated Part cs as) : Bracketed (blanks ++ (cs ++ [close])) as

end Parts

section Documents

variable (Inner : List Char → Json → Prop)

-- Blanks go with what stands in front of them, so that a part starts on its first character.
inductive Item : List Char → Json → Prop where
  | mk {text blanks : List Char} {json : Json} (h : Inner text json) (space : Space blanks) :
      Item (text ++ blanks) json

inductive Member : List Char → String × Json → Prop where
  | mk {body name blanks blanks' text : List Char} {json : Json} (hname : Characters body name)
      (space : Space blanks) (space' : Space blanks') (h : Item Inner text json) :
      Member ('"' :: (body ++ '"' :: (blanks ++ ':' :: (blanks' ++ text))))
        (String.ofList name, json)

inductive Level : List Char → Json → Prop where
  | scalar {text : List Char} {json : Json} (h : SpellsScalar text json) : Level text json
  | arr {cs : List Char} {items : List Json} (h : Bracketed ']' (Item Inner) cs items) :
      Level ('[' :: cs) (.arr items)
  | obj {cs : List Char} {members : List (String × Json)}
      (h : Bracketed '\x7d' (Member Inner) cs members) :
      Level ('\x7b' :: cs) (.obj (Fields.collect members))

end Documents

def Spells : Nat → List Char → Json → Prop
  | 0 => SpellsScalar
  | levels + 1 => Level (Spells levels)

inductive DocumentText : List Char → Json → Prop where
  | mk {blanks cs : List Char} {json : Json} (space : Space blanks)
      (h : Item (Spells maxDepth) cs json) : DocumentText (blanks ++ cs) json

theorem space_nil : Space [] := by simp [Space]

theorem space_append {as bs : List Char} (ha : Space as) (hb : Space bs) : Space (as ++ bs) := by
  intro c hc
  rcases List.mem_append.mp hc with hc | hc
  · exact ha c hc
  · exact hb c hc

theorem skipSpace_cons {c : Char} (h : isSpace c = false) (rest : List Char) :
    skipSpace (c :: rest) = c :: rest := by
  simp [skipSpace, h]

theorem skipSpace_append {blanks : List Char} (h : Space blanks) (rest : List Char) :
    skipSpace (blanks ++ rest) = skipSpace rest :=
  List.dropWhile_append_of_pos h

theorem exists_space (cs : List Char) : ∃ blanks, Space blanks ∧ cs = blanks ++ skipSpace cs :=
  ⟨cs.takeWhile isSpace, fun _ hc => List.mem_takeWhile_imp hc,
    List.takeWhile_append_dropWhile.symm⟩

theorem Ends.append {rest blanks : List Char} (h : Ends rest) (space : Space blanks) :
    Ends (blanks ++ rest) := by
  intro c hc
  cases blanks with
  | nil => exact h c hc
  | cons d blanks =>
      obtain rfl := Option.some.inj hc
      have hspace := space d (by simp)
      simp only [isSpace, Bool.or_eq_true, beq_iff_eq] at hspace
      obtain ((rfl | rfl) | rfl) | rfl := hspace <;> decide

section Separated

variable {α : Type} {close : Char} {Part : List Char → α → Prop}
  {read : List Char → Option (α × List Char)}

def readOthers (close : Char) (more : List Char → Option (List α × List Char)) (a : α)
    (unread : List Char) : Option (List α × List Char) :=
  match skipSpace unread with
  | [] => none
  | c :: rest =>
      if c = ',' then (more rest).map fun (as, rest) => (a :: as, rest)
      else if c = close then some ([a], rest)
      else none

def readSeparated (close : Char) (read : List Char → Option (α × List Char)) :
    Nat → List Char → Option (List α × List Char)
  | 0, _ => none
  | fuel + 1, cs =>
      (read cs).bind fun (a, unread) => readOthers close (readSeparated close read fuel) a unread

def readBracketed (close : Char) (read : List Char → Option (α × List Char)) (cs : List Char) :
    Option (List α × List Char) :=
  match skipSpace cs with
  | [] => none
  | c :: rest =>
      if c = close then some ([], rest)
      else readSeparated close read (c :: rest).length (c :: rest)

structure ReadsPart (close : Char) (read : List Char → Option (α × List Char))
    (Part : List Char → α → Prop) : Prop where
  opens : ∀ {cs a}, Part cs a → ∃ c rest, cs = c :: rest ∧ isSpace c = false ∧ c ≠ close
  complete : ∀ {blanks cs a c}, Space blanks → Part cs a → isSpace c = false →
    extendsNumber c = false → ∀ rest, ∃ unread,
      read (blanks ++ (cs ++ c :: rest)) = some (a, unread) ∧ skipSpace unread = c :: rest
  sound : ∀ {cs a unread}, read cs = some (a, unread) →
    ∃ blanks text, Space blanks ∧ cs = blanks ++ (text ++ skipSpace unread) ∧ Part text a

structure Closing (close : Char) : Prop where
  separate : close ≠ ','
  space : isSpace close = false
  ends : extendsNumber close = false

-- Reading a part takes one of the reader's fuel and at least a character of the text.
theorem Separated.length_le {cs : List Char} {as : List α} (h : Separated Part cs as) :
    as.length ≤ cs.length + 1 := by
  induction h with
  | last _ => simp
  | more _ _ _ ih =>
      simp only [List.length_cons, List.length_append]
      omega

theorem ReadsPart.readSeparated (h : ReadsPart close read Part) (hclose : Closing close)
    {cs : List Char} {as : List α} (hcs : Separated Part cs as) {blanks : List Char}
    (space : Space blanks) {fuel : Nat} (hfuel : as.length ≤ fuel) (rest : List Char) :
    Json.readSeparated close read fuel (blanks ++ (cs ++ close :: rest)) = some (as, rest) := by
  induction hcs generalizing blanks fuel with
  | last hpart =>
      obtain ⟨fuel, rfl⟩ := Nat.exists_eq_add_one.mpr hfuel
      obtain ⟨unread, hread, hunread⟩ := h.complete space hpart hclose.space hclose.ends rest
      simp [Json.readSeparated, readOthers, hread, hunread, hclose.separate]
  | more hpart space' _ ih =>
      obtain ⟨fuel, rfl⟩ := Nat.exists_eq_add_one.mpr (Nat.zero_lt_of_lt hfuel)
      have hothers := ih space' (Nat.le_of_succ_le_succ hfuel)
      obtain ⟨unread, hread, hunread⟩ := h.complete (c := ',') space hpart (by decide) (by decide) _
      rw [List.append_assoc, List.cons_append, List.append_assoc, Json.readSeparated, hread]
      simp only [Option.bind_some, readOthers, hunread, if_true, hothers, Option.map_some]

theorem ReadsPart.exists_of_readSeparated (h : ReadsPart close read Part) {fuel : Nat}
    {cs rest : List Char} {as : List α}
    (hread : Json.readSeparated close read fuel cs = some (as, rest)) :
    ∃ blanks text, Space blanks ∧ cs = blanks ++ (text ++ close :: rest) ∧
      Separated Part text as := by
  induction fuel generalizing cs as with
  | zero => contradiction
  | succ fuel ih =>
      obtain ⟨⟨a, unread⟩, hpart, hrest⟩ := Option.bind_eq_some_iff.mp hread
      obtain ⟨blanks, text, space, hcs, htext⟩ := h.sound hpart
      simp only [readOthers] at hrest
      split at hrest
      next => contradiction
      next c more hunread =>
        rw [hunread] at hcs
        split at hrest
        next hcomma =>
          subst hcomma
          obtain ⟨⟨as', rest'⟩, hmore, heq⟩ := Option.map_eq_some_iff.mp hrest
          obtain ⟨rfl, rfl⟩ := Prod.mk.inj heq
          obtain ⟨blanks', text', space', rfl, htext'⟩ := ih hmore
          exact ⟨blanks, _, space, by simp [hcs], .more htext space' htext'⟩
        next =>
          split at hrest
          next hclose =>
            subst hclose
            obtain ⟨rfl, rfl⟩ := Prod.mk.inj (Option.some.inj hrest)
            exact ⟨blanks, text, space, hcs, .last htext⟩
          next => contradiction

theorem ReadsPart.opens_separated (h : ReadsPart close read Part) {cs : List Char} {as : List α}
    (hcs : Separated Part cs as) :
    ∃ c rest, cs = c :: rest ∧ isSpace c = false ∧ c ≠ close := by
  cases hcs with
  | last hpart => exact h.opens hpart
  | more hpart _ _ =>
      obtain ⟨c, rest, rfl, hspace, hclose⟩ := h.opens hpart
      exact ⟨c, _, rfl, hspace, hclose⟩

theorem ReadsPart.readBracketed (h : ReadsPart close read Part) (hclose : Closing close)
    {cs : List Char} {as : List α} (hcs : Bracketed close Part cs as) (rest : List Char) :
    Json.readBracketed close read (cs ++ rest) = some (as, rest) := by
  cases hcs with
  | nothing space =>
      rw [List.append_assoc, Json.readBracketed, skipSpace_append space, List.singleton_append,
        skipSpace_cons hclose.space]
      simp
  | @parts blanks cs as space inside =>
      have hfuel : as.length ≤ (cs ++ close :: rest).length := by
        have hlength := inside.length_le
        simp only [List.length_append, List.length_cons]
        omega
      have hread := h.readSeparated hclose inside space_nil hfuel rest
      obtain ⟨c, cs', rfl, hspace, hopen⟩ := h.opens_separated inside
      simp only [List.nil_append, List.cons_append] at hread
      rw [List.append_assoc, List.append_assoc, List.singleton_append, Json.readBracketed,
        skipSpace_append space, List.cons_append, skipSpace_cons hspace]
      simp only [if_neg hopen, hread]

theorem ReadsPart.exists_of_readBracketed (h : ReadsPart close read Part) {cs rest : List Char}
    {as : List α} (hread : Json.readBracketed close read cs = some (as, rest)) :
    ∃ text, cs = text ++ rest ∧ Bracketed close Part text as := by
  obtain ⟨blanks, space, hcs⟩ := exists_space cs
  unfold Json.readBracketed at hread
  split at hread
  next => contradiction
  next c more hskip =>
    rw [hskip] at hcs
    split at hread
    next hclose =>
      subst hclose
      obtain ⟨rfl, rfl⟩ := Prod.mk.inj (Option.some.inj hread)
      exact ⟨_, by simp [hcs], .nothing space⟩
    next =>
      obtain ⟨blanks', text, space', htext, hparts⟩ := h.exists_of_readSeparated hread
      exact ⟨_, by simp [hcs, htext], .parts (space_append space space') hparts⟩

end Separated

structure Reads (value : List Char → Option (Json × List Char)) (Inner : List Char → Json → Prop) :
    Prop where
  opens : ∀ {text json}, Inner text json →
    ∃ c cs, text = c :: cs ∧ isSpace c = false ∧ c ≠ ']'
  complete : ∀ {text json}, Inner text json → ∀ {rest}, Ends rest →
    value (text ++ rest) = some (json, rest)
  sound : ∀ {cs json rest}, value cs = some (json, rest) →
    ∃ text, cs = text ++ rest ∧ Inner text json

section Inside

variable {value : List Char → Option (Json × List Char)} {Inner : List Char → Json → Prop}

theorem closing_bracket : Closing ']' := ⟨by decide, by decide, by decide⟩

theorem closing_brace : Closing '\x7d' := ⟨by decide, by decide, by decide⟩

theorem Reads.readsPart_item (h : Reads value Inner) :
    ReadsPart ']' (fun cs => value (skipSpace cs)) (Item Inner) where
  opens := by
    rintro _ json ⟨htext, -⟩
    obtain ⟨c, cs, rfl, hspace, hclose⟩ := h.opens htext
    exact ⟨c, _, rfl, hspace, hclose⟩
  complete := by
    -- What follows is a blank, a comma or a bracket, none of which a number would take in.
    rintro blanks _ json c space ⟨htext, space'⟩ hspace hends rest
    refine ⟨_, ?_, (skipSpace_append space' _).trans (skipSpace_cons hspace rest)⟩
    have hread := h.complete htext ((ends_cons hends rest).append space')
    obtain ⟨d, cs, rfl, hopen, -⟩ := h.opens htext
    rwa [List.append_assoc, skipSpace_append space, List.cons_append, skipSpace_cons hopen,
      ← List.cons_append]
  sound := by
    intro cs json unread hread
    obtain ⟨blanks, space, hcs⟩ := exists_space cs
    obtain ⟨blanks', space', hunread⟩ := exists_space unread
    obtain ⟨text, hskip, htext⟩ := h.sound hread
    refine ⟨blanks, text ++ blanks', space, ?_, htext, space'⟩
    rw [List.append_assoc, ← hunread, ← hskip, ← hcs]

def readMember (value : List Char → Option (Json × List Char)) (cs : List Char) :
    Option ((String × Json) × List Char) :=
  match skipSpace cs with
  | '"' :: body =>
      (readString .text body).bind fun (name, unread) =>
        match skipSpace unread with
        | ':' :: rest =>
            (value (skipSpace rest)).map fun (item, rest) => ((String.ofList name, item), rest)
        | _ => none
  | _ => none

theorem readItems_eq (fuel : Nat) (cs : List Char) :
    readItems value fuel cs = readSeparated ']' (fun cs => value (skipSpace cs)) fuel cs := by
  induction fuel generalizing cs with
  | zero => rfl
  | succ fuel ih =>
      rw [readItems, readSeparated]
      cases value (skipSpace cs) with
      | none => rfl
      | some item =>
          simp only [Option.bind_some, readOthers]
          cases skipSpace item.2 with
          | nil => rfl
          | cons c rest =>
              by_cases hcomma : c = ','
              · simp [hcomma, ih]
              · by_cases hclose : c = ']' <;> simp [hcomma, hclose]

theorem readFields_succ (fuel : Nat) (cs : List Char) :
    readFields value (fuel + 1) cs = (readMember value cs).bind fun (member, unread) =>
      readOthers '\x7d' (readFields value fuel) member unread := by
  rw [readFields, readMember]
  cases skipSpace cs with
  | nil => rfl
  | cons c body =>
      by_cases hquote : c = '"'
      · subst hquote
        cases hname : readString .text body with
        | none => simp [hname]
        | some name =>
            cases hunread : skipSpace name.2 with
            | nil => simp [hname, hunread]
            | cons d rest =>
                by_cases hcolon : d = ':'
                · subst hcolon
                  cases hvalue : value (skipSpace rest) with
                  | none => simp [hname, hunread, hvalue]
                  | some item =>
                      simp only [hname, hunread, hvalue, Option.bind_some, Option.map_some,
                        readOthers]
                      cases skipSpace item.2 with
                      | nil => rfl
                      | cons e more =>
                          by_cases hcomma : e = ','
                          · simp [hcomma]
                          · by_cases hclose : e = '\x7d' <;> simp [hcomma, hclose]
                · simp [hname, hunread, hcolon]
      · simp [hquote]

theorem readFields_eq (fuel : Nat) (cs : List Char) :
    readFields value fuel cs = readSeparated '\x7d' (readMember value) fuel cs := by
  induction fuel generalizing cs with
  | zero => rfl
  | succ fuel ih =>
      have hmore : readFields value fuel = readSeparated '\x7d' (readMember value) fuel := funext ih
      rw [readFields_succ, hmore]
      rfl

theorem Reads.readsPart_member (h : Reads value Inner) :
    ReadsPart '\x7d' (readMember value) (Member Inner) where
  opens := by
    rintro _ _ ⟨-, -, -, -⟩
    exact ⟨'"', _, rfl, by decide, by decide⟩
  complete := by
    rintro blanks _ _ c space (@⟨body, name, blanks₁, blanks₂, text, item, hname, space₁, space₂, h'⟩)
      hspace hends rest
    obtain ⟨unread, hread, hunread⟩ := h.readsPart_item.complete space₂ h' hspace hends rest
    have hstring := hname.readString (blanks₁ ++ ':' :: (blanks₂ ++ (text ++ c :: rest)))
    have hcolon : skipSpace (blanks₁ ++ ':' :: (blanks₂ ++ (text ++ c :: rest))) =
        ':' :: (blanks₂ ++ (text ++ c :: rest)) :=
      (skipSpace_append space₁ _).trans (skipSpace_cons (by decide) _)
    refine ⟨unread, ?_, hunread⟩
    rw [readMember, skipSpace_append space, List.cons_append, skipSpace_cons (by decide)]
    simp only [List.append_assoc, List.cons_append, hstring, Option.bind_some, hcolon, hread,
      Option.map_some]
  sound := by
    intro cs member unread hread
    obtain ⟨blanks, space, hcs⟩ := exists_space cs
    unfold readMember at hread
    split at hread
    next body hskip =>
      obtain ⟨⟨name, unread'⟩, hname, hrest⟩ := Option.bind_eq_some_iff.mp hread
      dsimp only at hrest
      split at hrest
      next rest hcolon =>
        obtain ⟨⟨item, unread''⟩, hitem, heq⟩ := Option.map_eq_some_iff.mp hrest
        obtain ⟨rfl, rfl⟩ := Prod.mk.inj heq
        obtain ⟨body', rfl, hbody⟩ := readString_eq_some_iff.mp hname
        obtain ⟨blanks', space', hunread'⟩ := exists_space unread'
        obtain ⟨blanks'', text, space'', hrest', htext⟩ := h.readsPart_item.sound hitem
        refine ⟨blanks, _, space, ?_, .mk hbody space' space'' htext⟩
        rw [hskip, hunread', hcolon, hrest'] at hcs
        simpa using hcs
      next => contradiction
    next => contradiction

theorem readValue_scalar (levels : Nat) {cs : List Char} (harr : ∀ rest, cs ≠ '[' :: rest)
    (hobj : ∀ rest, cs ≠ '\x7b' :: rest) : readValue levels cs = readScalar cs := by
  cases levels with
  | zero => rfl
  | succ levels =>
      rw [readValue]
      · exact harr
      · exact hobj

theorem readValue_arr (levels : Nat) (cs : List Char) :
    readValue (levels + 1) ('[' :: cs) =
      (readBracketed ']' (fun cs => readValue levels (skipSpace cs)) cs).map
        fun (items, rest) => (.arr items, rest) := by
  rw [readValue, readBracketed]
  split
  next hskip => simp [hskip]
  next hclose =>
    split
    next hskip => simp [hskip, readItems]
    next c rest hskip =>
      have hc : c ≠ ']' := fun heq => hclose rest (heq ▸ hskip)
      rw [if_neg hc, hskip, readItems_eq]

theorem readValue_obj (levels : Nat) (cs : List Char) :
    readValue (levels + 1) ('\x7b' :: cs) =
      (readBracketed '\x7d' (readMember (readValue levels)) cs).map
        fun (fields, rest) => (.obj (Fields.collect fields), rest) := by
  rw [readValue, readBracketed]
  split
  next hskip =>
    simp only [hskip, if_true, Option.map_some]
    rfl
  next hclose =>
    split
    next hskip => simp [hskip, readFields]
    next c rest hskip =>
      have hc : c ≠ '\x7d' := fun heq => hclose rest (heq ▸ hskip)
      rw [if_neg hc, hskip, readFields_eq]

end Inside

theorem eq_append_of_keyword? {word : String} {value json : Json} {cs rest : List Char}
    (h : keyword? word value cs = some (json, rest)) : cs = word.toList ++ rest ∧ json = value := by
  unfold keyword? at h
  split at h
  next hword =>
    obtain ⟨rfl, rfl⟩ := Prod.mk.inj (Option.some.inj h)
    have hcs := List.prefix_iff_eq_append.mp (List.isPrefixOf_iff_prefix.mp hword)
    rw [String.length_toList] at hcs
    exact ⟨hcs.symm, rfl⟩
  next => contradiction

theorem readScalar_number {c : Char} (h : opensNumber c = true) (cs : List Char) :
    readScalar (c :: cs) = readNumber (c :: cs) := by
  have hquote : c ≠ '"' := ne_of_opensNumber h (by decide)
  have hn : c ≠ 'n' := ne_of_opensNumber h (by decide)
  have ht : c ≠ 't' := ne_of_opensNumber h (by decide)
  have hf : c ≠ 'f' := ne_of_opensNumber h (by decide)
  simp [readScalar, hquote, hn, ht, hf]

theorem SpellsScalar.opens {text : List Char} {json : Json} (h : SpellsScalar text json) :
    ∃ c cs, text = c :: cs ∧ isSpace c = false ∧ c ∉ [']', '[', '\x7b'] := by
  cases h with
  | null => exact ⟨'n', _, rfl, by decide, by decide⟩
  | yes => exact ⟨'t', _, rfl, by decide, by decide⟩
  | no => exact ⟨'f', _, rfl, by decide, by decide⟩
  | string _ => exact ⟨'"', _, rfl, by decide, by decide⟩
  | number h =>
      obtain ⟨c, cs, rfl, hc⟩ := h.opens
      have hnone : [' ', '\t', '\n', '\r', ']', '[', '\x7b'].any opensNumber = false := by decide
      have hne : ∀ d ∈ [' ', '\t', '\n', '\r', ']', '[', '\x7b'], c ≠ d := fun d hd =>
        ne_of_opensNumber hc (by simpa using List.any_eq_false.mp hnone d hd)
      refine ⟨c, cs, rfl, ?_, fun hmem => hne c (by simp_all) rfl⟩
      simp [isSpace, hne]

theorem SpellsScalar.spells {text : List Char} {json : Json} (h : SpellsScalar text json)
    (levels : Nat) : Spells levels text json := by
  cases levels with
  | zero => exact h
  | succ levels => exact .scalar h

theorem reads_scalar : Reads readScalar SpellsScalar where
  opens := by
    intro text json h
    obtain ⟨c, cs, rfl, hspace, hc⟩ := h.opens
    exact ⟨c, cs, rfl, hspace, fun heq => hc (by simp [heq])⟩
  complete := by
    intro text json h rest hends
    cases h with
    | null => rfl
    | yes => rfl
    | no => rfl
    | string h =>
        rw [List.cons_append, List.append_assoc, List.singleton_append, readScalar,
          h.readString rest]
        rfl
    | number h =>
        have hread := h.readNumber_append hends
        obtain ⟨c, cs, rfl, hc⟩ := h.opens
        rw [List.cons_append] at hread ⊢
        rw [readScalar_number hc, hread]
  sound := by
    intro cs json rest h
    unfold readScalar at h
    split at h
    next =>
      obtain ⟨⟨text, rest'⟩, htext, heq⟩ := Option.map_eq_some_iff.mp h
      obtain ⟨rfl, rfl⟩ := Prod.mk.inj heq
      obtain ⟨body, rfl, hbody⟩ := readString_eq_some_iff.mp htext
      exact ⟨_, by simp, .string hbody⟩
    next =>
      obtain ⟨hcs, rfl⟩ := eq_append_of_keyword? h
      exact ⟨_, hcs, .null⟩
    next =>
      obtain ⟨hcs, rfl⟩ := eq_append_of_keyword? h
      exact ⟨_, hcs, .yes⟩
    next =>
      obtain ⟨hcs, rfl⟩ := eq_append_of_keyword? h
      exact ⟨_, hcs, .no⟩
    next =>
      obtain ⟨text, hcs, htext⟩ := exists_of_readNumber h
      exact ⟨text, hcs, .number htext⟩

theorem Reads.level {levels : Nat} {Inner : List Char → Json → Prop}
    (h : Reads (readValue levels) Inner) : Reads (readValue (levels + 1)) (Level Inner) where
  opens := by
    intro text json htext
    cases htext with
    | scalar h => exact reads_scalar.opens h
    | arr _ => exact ⟨'[', _, rfl, by decide, by decide⟩
    | obj _ => exact ⟨'\x7b', _, rfl, by decide, by decide⟩
  complete := by
    intro text json htext rest hends
    cases htext with
    | scalar hscalar =>
        have hread := reads_scalar.complete hscalar hends
        obtain ⟨c, cs, rfl, -, hc⟩ := hscalar.opens
        rw [readValue_scalar, hread]
        · rintro rest ⟨⟩
          simp at hc
        · rintro rest ⟨⟩
          simp at hc
    | arr hitems =>
        rw [List.cons_append, readValue_arr,
          h.readsPart_item.readBracketed closing_bracket hitems rest]
        rfl
    | obj hmembers =>
        rw [List.cons_append, readValue_obj,
          h.readsPart_member.readBracketed closing_brace hmembers rest]
        rfl
  sound := by
    intro cs json rest hread
    by_cases harr : ∃ more, cs = '[' :: more
    · obtain ⟨more, rfl⟩ := harr
      rw [readValue_arr] at hread
      obtain ⟨⟨items, rest'⟩, hitems, heq⟩ := Option.map_eq_some_iff.mp hread
      obtain ⟨rfl, rfl⟩ := Prod.mk.inj heq
      obtain ⟨text, rfl, htext⟩ := h.readsPart_item.exists_of_readBracketed hitems
      exact ⟨_, rfl, .arr htext⟩
    by_cases hobj : ∃ more, cs = '\x7b' :: more
    · obtain ⟨more, rfl⟩ := hobj
      rw [readValue_obj] at hread
      obtain ⟨⟨members, rest'⟩, hmembers, heq⟩ := Option.map_eq_some_iff.mp hread
      obtain ⟨rfl, rfl⟩ := Prod.mk.inj heq
      obtain ⟨text, rfl, htext⟩ := h.readsPart_member.exists_of_readBracketed hmembers
      exact ⟨_, rfl, .obj htext⟩
    · rw [readValue_scalar (levels + 1) (not_exists.mp harr) (not_exists.mp hobj)] at hread
      obtain ⟨text, hcs, htext⟩ := reads_scalar.sound hread
      exact ⟨text, hcs, .scalar htext⟩

theorem reads_value (levels : Nat) : Reads (readValue levels) (Spells levels) := by
  induction levels with
  | zero => exact reads_scalar
  | succ levels ih => exact ih.level

theorem skipSpace_eq_nil {blanks : List Char} (h : Space blanks) : skipSpace blanks = [] := by
  simpa [skipSpace] using skipSpace_append h []

theorem DocumentText.parseChars {cs : List Char} {json : Json} (h : DocumentText cs json) :
    parseChars cs = some json := by
  obtain ⟨space, htext, space'⟩ := h
  have hends : Ends _ := ends_nil.append space'
  have hread := (reads_value maxDepth).complete htext hends
  obtain ⟨c, cs, rfl, hc, -⟩ := (reads_value maxDepth).opens htext
  rw [List.append_nil, List.cons_append] at hread
  rw [Json.parseChars, skipSpace_append space, List.cons_append, skipSpace_cons hc, hread]
  simp [skipSpace_eq_nil space']

theorem parseChars_eq_some_iff {cs : List Char} {json : Json} :
    parseChars cs = some json ↔ DocumentText cs json := by
  refine ⟨fun hread => ?_, DocumentText.parseChars⟩
  obtain ⟨blanks, space, hcs⟩ := exists_space cs
  unfold parseChars at hread
  split at hread
  next json' rest hvalue =>
    split at hread
    next hrest =>
      obtain rfl := Option.some.inj hread
      obtain ⟨text, hskip, htext⟩ := (reads_value maxDepth).sound hvalue
      obtain ⟨blanks', space', hblanks⟩ := exists_space rest
      rw [List.isEmpty_iff.mp hrest, List.append_nil] at hblanks
      rw [hcs, hskip, hblanks]
      exact ⟨space, htext, space'⟩
    next => contradiction
  next => contradiction

end Rostering.Json
