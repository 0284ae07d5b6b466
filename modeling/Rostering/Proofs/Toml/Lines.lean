import Rostering.Proofs.Json.Numbers
import Rostering.Proofs.Text.Splitting
import Rostering.Proofs.Toml.Strings
import Rostering.Toml.Read

namespace Rostering.Toml

def IsBare (name : String) : Prop := name ≠ "" ∧ ∀ c ∈ name.toList, isBareChar c = true

instance (name : String) : Decidable (IsBare name) :=
  decidable_of_iff (name ≠ "" ∧ name.toList.all isBareChar = true) (by simp [IsBare])

theorem IsBare.chars_ne_nil {name : String} (h : IsBare name) : name.toList ≠ [] := by
  simpa using h.1

theorem IsBare.exists_head {name : String} (h : IsBare name) :
    ∃ c cs, name.toList = c :: cs ∧ isBareChar c = true := by
  obtain ⟨c, cs, hchars⟩ := List.exists_cons_of_ne_nil h.chars_ne_nil
  exact ⟨c, cs, hchars, h.2 c (by simp [hchars])⟩

theorem isBareChar_ne {c d : Char} (h : isBareChar c = true) (hd : isBareChar d = false) :
    c ≠ d := by
  rintro rfl
  exact Bool.false_ne_true (hd.symm.trans h)

theorem isBareChar_of_isDigit {c : Char} (h : c.isDigit = true) : isBareChar c = true := by
  simp [isBareChar, Char.isAlphanum, h]

theorem isScalarChar_of_isBareChar {c : Char} (h : isBareChar c = true) :
    isScalarChar c = true := by
  simp only [isBareChar, Bool.or_eq_true] at h
  rcases h with (h | h) | h <;> simp [isScalarChar, h]

section

variable {cs rest : List Char}

theorem skipGap_bare (h : ∀ c ∈ cs, isBareChar c = true) (hne : cs ≠ []) :
    skipGap (cs ++ rest) = cs ++ rest := by
  obtain ⟨c, cs, rfl⟩ := List.exists_cons_of_ne_nil hne
  have hc := h c (by simp)
  have hspace : c ≠ ' ' := isBareChar_ne hc (by decide)
  have htab : c ≠ '\t' := isBareChar_ne hc (by decide)
  simp [skipGap, hspace, htab]

theorem takeWhile_bare (h : ∀ c ∈ cs, isBareChar c = true) {d : Char} (hd : isBareChar d = false)
    (rest : List Char) :
    (cs ++ d :: rest).takeWhile isBareChar = cs ∧
      (cs ++ d :: rest).dropWhile isBareChar = d :: rest := by
  rw [List.takeWhile_append_of_pos h, List.dropWhile_append_of_pos h, List.takeWhile_cons,
    List.dropWhile_cons, hd]
  simp

theorem readSimpleKey_bare {name : String} (h : IsBare name) {d : Char}
    (hd : isBareChar d = false) :
    readSimpleKey (name.toList ++ d :: rest) = some (name, d :: rest) := by
  obtain ⟨htake, hdrop⟩ := takeWhile_bare h.2 hd rest
  have hempty : name.toList.isEmpty = false := by simpa using h.chars_ne_nil
  obtain ⟨c, cs, hchars, hc⟩ := h.exists_head
  unfold readSimpleKey
  split
  · rename_i heq
    rw [hchars] at heq
    exact absurd (List.cons.inj heq).1 (isBareChar_ne hc (by decide))
  · rename_i heq
    rw [hchars] at heq
    exact absurd (List.cons.inj heq).1 (isBareChar_ne hc (by decide))
  · simp [htake, hdrop, hempty]

theorem readSimpleKey_skipGap {name : String} (h : IsBare name) {d : Char}
    (hd : isBareChar d = false) :
    readSimpleKey (skipGap (name.toList ++ d :: rest)) = some (name, d :: rest) := by
  rw [skipGap_bare h.2 h.chars_ne_nil, readSimpleKey_bare h hd]

theorem readNames_last {name : String} (h : IsBare name) {c d : Char} (hc : isBareChar c = false)
    (hd : d ≠ '.') (hgap : skipGap (c :: cs) = d :: rest) (count : Nat) :
    readNames (count + 1) (name.toList ++ c :: cs) = some ([name], d :: rest) := by
  simp [readNames, readSimpleKey_skipGap h hc, hgap, hd]

theorem readNames_point {name : String} (h : IsBare name) (count : Nat) :
    readNames (count + 1) (name.toList ++ '.' :: cs) =
      (readNames count cs).map fun (names, rest) => (name :: names, rest) := by
  have hpoint : skipGap ('.' :: cs) = '.' :: cs := rfl
  have hkey : readSimpleKey (skipGap (name.toList ++ '.' :: cs)) = some (name, '.' :: cs) :=
    readSimpleKey_skipGap h (by decide)
  simp only [readNames, hkey, hpoint, Option.bind_eq_bind, Option.bind_some]
  cases readNames count cs <;> rfl

theorem readNames_bare {names : List String} (hbare : ∀ name ∈ names, IsBare name)
    (hne : names ≠ []) {count : Nat} (hcount : names.length ≤ count) {c d : Char}
    (hc : isBareChar c = false) (hd : d ≠ '.') (hgap : skipGap (c :: cs) = d :: rest) :
    readNames count (List.intercalate ['.'] (names.map String.toList) ++ c :: cs) =
      some (names, d :: rest) := by
  induction names generalizing count with
  | nil => exact absurd rfl hne
  | cons name names ih =>
      obtain ⟨hname, hnames⟩ := List.forall_mem_cons.mp hbare
      obtain ⟨count, rfl⟩ : ∃ n, count = n + 1 := Nat.exists_eq_add_one.mpr (by
        simp only [List.length_cons] at hcount
        omega)
      cases names with
      | nil =>
          rw [List.map_singleton, List.intercalate_singleton]
          exact readNames_last hname hc hd hgap count
      | cons next names =>
          have hlater := ih hnames (by simp) (Nat.le_of_succ_le_succ hcount)
          rw [List.map_cons, List.intercalate_cons_of_ne_nil (by simp), List.append_assoc,
            List.append_assoc, List.singleton_append, readNames_point hname, hlater,
            Option.map_some]

end

theorem stringChars_head (cs : List Char) :
    ∃ mark rest, stringChars cs = mark :: rest ∧ (mark = '"' ∨ mark = '\'') := by
  unfold stringChars opener
  split
  · exact ⟨_, _, rfl, .inl rfl⟩
  · exact ⟨_, _, rfl, .inr rfl⟩
  · split
    · exact ⟨_, _, rfl, .inl rfl⟩
    · exact ⟨_, _, rfl, .inl rfl⟩
  · split
    · exact ⟨_, _, rfl, .inr rfl⟩
    · exact ⟨_, _, rfl, .inr rfl⟩

theorem readValue_scalar {c : Char} (hbracket : c ≠ '[') (hbrace : c ≠ '\x7b') (depth : Nat)
    (cs : List Char) : readValue depth (c :: cs) = readScalar (c :: cs) := by
  cases depth with
  | zero => rfl
  | succ depth =>
      unfold readValue
      split
      · rename_i heq
        exact absurd (List.cons.inj heq).1 hbracket
      · rename_i heq
        exact absurd (List.cons.inj heq).1 hbrace
      · rfl

theorem readValue_text (depth : Nat) (s : String) (rest : List Char) :
    readValue depth (stringChars s.toList ++ '\n' :: rest) = some (.text s, '\n' :: rest) := by
  have hread := readQuoted_stringChars s.toList rest
  obtain ⟨mark, more, hchars, hmark⟩ := stringChars_head s.toList
  rw [hchars, List.cons_append] at hread ⊢
  rcases hmark with rfl | rfl
  · rw [readValue_scalar (by decide) (by decide), readScalar, hread]
    simp only [Option.map_some, String.ofList_toList]
  · rw [readValue_scalar (by decide) (by decide), readScalar, hread]
    simp only [Option.map_some, String.ofList_toList]

theorem takeScalar_bare {cs : List Char} (h : ∀ c ∈ cs, isBareChar c = true) (rest : List Char) :
    takeScalar (cs ++ '\n' :: rest) = (cs, '\n' :: rest) := by
  have hscalar : ∀ c ∈ cs, isScalarChar c = true := fun c hc => isScalarChar_of_isBareChar (h c hc)
  have hbreak : isScalarChar '\n' = false := by decide
  simp [takeScalar, List.takeWhile_append_of_pos hscalar, List.dropWhile_append_of_pos hscalar,
    hbreak]

theorem readValue_bare {cs : List Char} (h : ∀ c ∈ cs, isBareChar c = true) (hne : cs ≠ [])
    (depth : Nat) (rest : List Char) :
    readValue depth (cs ++ '\n' :: rest) = (scalar? cs).map (·, '\n' :: rest) := by
  have htake := takeScalar_bare h rest
  obtain ⟨c, cs, rfl⟩ := List.exists_cons_of_ne_nil hne
  have hc := h c (by simp)
  rw [List.cons_append] at htake ⊢
  rw [readValue_scalar (isBareChar_ne hc (by decide)) (isBareChar_ne hc (by decide))]
  unfold readScalar
  split
  · rename_i heq
    exact absurd (List.cons.inj heq).1 (isBareChar_ne hc (by decide))
  · rename_i heq
    exact absurd (List.cons.inj heq).1 (isBareChar_ne hc (by decide))
  · rw [htake]

section

variable {ds : List Char} (h : Json.WholeDigits ds)

include h

theorem not_mem_digits {c : Char} (hc : c.isDigit = false) : c ∉ ds :=
  fun hmem => Bool.false_ne_true (hc.symm.trans (h.digit c hmem))

theorem localDate?_digits (k : Nat) : localDate? (ds.take k) = none := by
  have hone : Text.pieces (· == '-') (ds.take k) = [ds.take k] := by
    refine Text.pieces_of_no_separator fun c hc => ?_
    have hdash := ne_of_mem_of_not_mem (List.mem_of_mem_take hc) (not_mem_digits h (c := '-') rfl)
    simpa using hdash
  simp [localDate?, hone]

theorem localTime?_digits : localTime? ds = none := by
  have hpoint : Text.cut? ['.'] ds = none := Text.cut?_eq_none_iff.mpr (not_mem_digits h rfl)
  have hone : Text.pieces (· == ':') ds = [ds] := by
    refine Text.pieces_of_no_separator fun c hc => ?_
    simpa using ne_of_mem_of_not_mem hc (not_mem_digits h (c := ':') rfl)
  simp [localTime?, hpoint, hone]

theorem moment?_digits : moment? ds = none := by
  have hall := localDate?_digits h ds.length
  rw [List.take_length] at hall
  simp [moment?, hall, localTime?_digits h, localDate?_digits h 10]

theorem wholeDigits?_digits : wholeDigits? ds = some ds := by
  have hungroup (after : Bool) {cs : List Char} (hcs : ∀ c ∈ cs, c.isDigit = true)
      (hafter : cs = [] → after = true) : ungroup Char.isDigit after cs = some cs := by
    induction cs generalizing after with
    | nil => simp [ungroup, hafter rfl]
    | cons c cs ih =>
        obtain ⟨hc, hcs⟩ := List.forall_mem_cons.mp hcs
        simp [ungroup, hc, ih true hcs fun _ => rfl]
  have hread : decimalDigits? ds = some ds :=
    hungroup false h.digit fun hnil => absurd hnil h.nonempty
  have hzero : ¬ (ds.head? = some '0' ∧ ds.length ≠ 1) := fun hbad => hbad.2 (h.leading hbad.1)
  rw [wholeDigits?, hread, Option.bind_some, if_neg hzero]

theorem integer?_digits : integer? ds = inRange (Json.valueOf ds) := by
  have hsign : splitSign ds = (false, ds) := by
    unfold splitSign
    split
    · exact absurd List.mem_cons_self (not_mem_digits h (c := '+') rfl)
    · exact absurd List.mem_cons_self (not_mem_digits h (c := '-') rfl)
    · rfl
  have hbase (c : Char) (hc : c.isDigit = false) (cs : List Char) : ds ≠ '0' :: c :: cs := by
    rintro rfl
    exact not_mem_digits h hc (by simp)
  unfold integer?
  split
  · exact absurd rfl (hbase 'x' rfl _)
  · exact absurd rfl (hbase 'o' rfl _)
  · exact absurd rfl (hbase 'b' rfl _)
  · rw [hsign]
    dsimp only
    rw [wholeDigits?_digits h, Option.bind_eq_bind, Option.bind_some, if_neg Bool.false_ne_true]

end

theorem scalar?_digits {n : Nat} (h : n < Text.i64Limit) :
    scalar? (Text.digits n) = some (.integer n) := by
  have hwhole := Json.wholeDigits_digits n
  have hword (word : String) (hletter : ∃ c ∈ word.toList, c.isDigit = false) :
      Text.digits n ≠ word.toList := by
    rintro heq
    obtain ⟨c, hc, hnot⟩ := hletter
    exact not_mem_digits hwhole hnot (heq ▸ hc)
  have hlow : -(Text.i64Limit : Int) ≤ n :=
    Int.le_trans (Int.neg_nonpos_of_nonneg (Int.natCast_nonneg _)) (Int.natCast_nonneg n)
  have hrange : inRange (n : Int) = some (.integer n) := if_pos ⟨hlow, Int.ofNat_lt.mpr h⟩
  have htrue := hword "true" ⟨'t', by decide, rfl⟩
  have hfalse := hword "false" ⟨'f', by decide, rfl⟩
  rw [scalar?, if_neg htrue, if_neg hfalse, moment?_digits hwhole, integer?_digits hwhole,
    Json.valueOf_digits, hrange]
  rfl

end Rostering.Toml
