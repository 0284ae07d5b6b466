import Rostering.Toml.Quoted
import Rostering.Toml.Write

namespace Rostering.Toml

def standsForItself (c : Char) : Bool := isPrintable c && c != '"' && c != '\\'

def letters : List (Char × Char) :=
  [('"', '"'), ('\\', '\\'), ('b', '\x08'), ('t', '\t'), ('n', '\n'), ('f', '\x0c'), ('r', '\r')]

inductive Spells : List Char → Char → Prop where
  | plain {c : Char} (h : standsForItself c = true) : Spells [c] c
  | letter {e c : Char} (h : (e, c) ∈ letters) : Spells ['\\', e] c
  | unit {c : Char} (h : c.toNat < 0x80) : Spells ('\\' :: 'u' :: upperHex4 c.toNat) c

theorem spells_escapeControl {c : Char} (hbreak : c ≠ '\n') (hquote : c ≠ '"') :
    Spells (escapeControl c) c := by
  by_cases hletter : c = '\x08' ∨ c = '\t' ∨ c = '\x0c' ∨ c = '\r' ∨ c = '\\'
  · obtain rfl | rfl | rfl | rfl | rfl := hletter <;> exact .letter (by decide)
  simp only [not_or] at hletter
  obtain ⟨hback, htab, hfeed, hreturn, hslash⟩ := hletter
  cases hcontrol : needsEscape c with
  | true =>
      have hescape : escapeControl c = '\\' :: 'u' :: upperHex4 c.toNat := by
        simp [escapeControl, *]
      rw [hescape]
      refine .unit ?_
      simp only [needsEscape, Bool.or_eq_true, Bool.and_eq_true, decide_eq_true_eq,
        beq_iff_eq] at hcontrol
      omega
  | false =>
      have hescape : escapeControl c = [c] := by simp [escapeControl, *]
      rw [hescape]
      refine .plain ?_
      simpa [needsEscape, standsForItself, isPrintable, htab, hbreak, hquote, hslash] using hcontrol

theorem spells_basicChar (c : Char) : Spells (basicChar c) c := by
  by_cases hbreak : c = '\n'
  · subst hbreak
    exact .letter (by decide)
  · by_cases hquote : c = '"'
    · subst hquote
      exact .letter (by decide)
    · rw [basicChar, if_neg hbreak, if_neg hquote]
      exact spells_escapeControl hbreak hquote

theorem upperHex4_eq : ∀ n < 0x80, upperHex4 n =
    ['0', '0', Text.upperHex (n / 16), Text.upperHex (n % 16)] := by
  decide

theorem hexValue?_upperHex : ∀ n < 16, Text.hexValue? (Text.upperHex n) = some n := by
  decide

theorem standsForItself_upperHex : ∀ n < 16, standsForItself (Text.upperHex n) = true := by
  decide

theorem standsForItself_upperHex4 {n : Nat} (h : n < 0x80) :
    ∀ c ∈ upperHex4 n, standsForItself c = true := by
  have hhigh := standsForItself_upperHex (n / 16) (by omega)
  have hlow := standsForItself_upperHex (n % 16) (by omega)
  have hzero : standsForItself '0' = true := by decide
  rw [upperHex4_eq n h]
  simp [hhigh, hlow, hzero]

theorem escaped?_letters : ∀ p ∈ letters, escaped? p.1 = some p.2 := by
  decide

theorem unescape_letter {e c : Char} (h : (e, c) ∈ letters) (long : Bool) (rest : List Char) :
    unescape long .text ('\\' :: e :: rest) = (unescape long .text rest).map (c :: ·) := by
  have hread : escaped? e = some c := escaped?_letters (e, c) h
  have hne {d : Char} (hd : escaped? d = none) : e ≠ d := by
    rintro rfl
    rw [hd] at hread
    contradiction
  have hx : e ≠ 'x' := hne rfl
  have hu : e ≠ 'u' := hne rfl
  have hU : e ≠ 'U' := hne rfl
  have hbreak : e ≠ '\n' := hne rfl
  have hspace : e ≠ ' ' := hne rfl
  have htab : e ≠ '\t' := hne rfl
  have hreturn : e ≠ '\r' := hne rfl
  simp [unescape, hx, hu, hU, hbreak, hspace, htab, hreturn, hread]

theorem unescape_unit {c : Char} (h : c.toNat < 0x80) (long : Bool) (rest : List Char) :
    unescape long .text ('\\' :: 'u' :: (upperHex4 c.toNat ++ rest)) =
      (unescape long .text rest).map (c :: ·) := by
  have hhigh := hexValue?_upperHex (c.toNat / 16) (by omega)
  have hlow := hexValue?_upperHex (c.toNat % 16) (by omega)
  have hzero : Text.hexValue? '0' = some 0 := by decide
  have hvalue : c.toNat / 16 * 16 + c.toNat % 16 = c.toNat := by omega
  have hpoint : isScalarPoint c.toNat = true := by
    simp only [isScalarPoint, Bool.or_eq_true, decide_eq_true_eq]
    omega
  rw [upperHex4_eq _ h]
  simp [unescape, hzero, hhigh, hlow, hvalue, hpoint]

theorem ne_backslash_of_standsForItself {c : Char} (h : standsForItself c = true) : c ≠ '\\' := by
  rintro rfl
  contradiction

theorem ne_quote_of_standsForItself {c : Char} (h : standsForItself c = true) : c ≠ '"' := by
  rintro rfl
  contradiction

theorem Spells.unescape_append {piece : List Char} {c : Char} (h : Spells piece c) (long : Bool)
    (rest : List Char) :
    unescape long .text (piece ++ rest) = (unescape long .text rest).map (c :: ·) := by
  cases h with
  | plain h => simp [unescape, ne_backslash_of_standsForItself h]
  | letter h => exact unescape_letter h long rest
  | unit h => exact unescape_unit h long rest

theorem Spells.printable {piece : List Char} {c : Char} (h : Spells piece c) :
    ∀ e ∈ piece, isPrintable e = true := by
  have hself {c : Char} (h : standsForItself c = true) : isPrintable c = true := by
    simp only [standsForItself, Bool.and_eq_true] at h
    exact h.1.1
  have hletter : ∀ p ∈ letters, isPrintable p.1 = true := by decide
  have hslash : isPrintable '\\' = true := by decide
  have hmark : isPrintable 'u' = true := by decide
  intro e he
  cases h with
  | plain h => exact List.mem_singleton.mp he ▸ hself h
  | @letter e' _ h =>
      obtain rfl | rfl : e = '\\' ∨ e = e' := by simpa using he
      · exact hslash
      · exact hletter _ h
  | unit h =>
      obtain rfl | rfl | he := by simpa using he
      · exact hslash
      · exact hmark
      · exact hself (standsForItself_upperHex4 h e he)

def marksWithin (long : Bool) : Nat := if long then 2 else 0

inductive Written (long : Bool) : Nat → List Char → List Char → Prop where
  | nil {run : Nat} : Written long run [] []
  | spelled {run : Nat} {piece es cs : List Char} {c : Char} (h : Spells piece c)
      (rest : Written long 0 es cs) : Written long run (piece ++ es) (c :: cs)
  | quote {run : Nat} {es cs : List Char} (hrun : run < marksWithin long)
      (rest : Written long (run + 1) es cs) : Written long run ('"' :: es) ('"' :: cs)
  | lineBreak {run : Nat} {es cs : List Char} (hlong : long = true)
      (rest : Written long 0 es cs) : Written long run ('\n' :: es) ('\n' :: cs)

theorem written_basicChars (cs : List Char) : Written false 0 (cs.flatMap basicChar) cs := by
  induction cs with
  | nil => exact .nil
  | cons c cs ih => exact .spelled (spells_basicChar c) ih

theorem written_longBasicChars {run : Nat} (hrun : run ≤ 2) (cs : List Char) :
    Written true run (longBasicChars run cs) cs := by
  have hzero : 0 ≤ 2 := by decide
  induction cs generalizing run with
  | nil => exact .nil
  | cons c cs ih =>
      rw [longBasicChars]
      split
      · rename_i hquote
        subst hquote
        split
        · have hpiece : Spells ['\\', '"'] '"' := .letter (by decide)
          exact .spelled hpiece (ih hzero)
        · have hlimit : run < marksWithin true := by
            change run < 2
            omega
          exact .quote hlimit (ih hlimit)
      · rename_i hquote
        split
        · rename_i hbreak
          subst hbreak
          exact .lineBreak rfl (ih hzero)
        · rename_i hbreak
          exact .spelled (spells_escapeControl hbreak hquote) (ih hzero)

section

variable {long : Bool} {run : Nat} {es cs : List Char}

theorem Written.unescape_eq (h : Written long run es cs) : unescape long .text es = some cs := by
  induction h with
  | nil => rfl
  | spelled h _ ih => rw [h.unescape_append, ih, Option.map_some]
  | quote _ _ ih => simp [unescape, ih]
  | lineBreak _ _ ih => simp [unescape, ih]

theorem Written.printable (h : Written long run es cs) :
    ∀ e ∈ es, isPrintable e = true ∨ long = true ∧ e = '\n' := by
  induction h with
  | nil => simp
  | spelled h _ ih =>
      intro e he
      rcases List.mem_append.mp he with he | he
      · exact .inl (h.printable e he)
      · exact ih e he
  | quote _ _ ih => exact List.forall_mem_cons.mpr ⟨.inl (by decide), ih⟩
  | lineBreak hlong _ ih => exact List.forall_mem_cons.mpr ⟨.inr ⟨hlong, rfl⟩, ih⟩

end

inductive Enclosed (mark : Char) (escapes : Bool) (within : Nat) : Nat → List Char → Prop where
  | nil {run : Nat} : Enclosed mark escapes within run []
  | mark {run : Nat} {es : List Char} (hrun : run < within)
      (rest : Enclosed mark escapes within (run + 1) es) :
      Enclosed mark escapes within run (mark :: es)
  | plain {run : Nat} {c : Char} {es : List Char} (hmark : c ≠ mark)
      (hescape : escapes = true → c ≠ '\\') (rest : Enclosed mark escapes within 0 es) :
      Enclosed mark escapes within run (c :: es)
  | escape {run : Nat} {e : Char} {es : List Char} (hmark : mark ≠ '\\') (hescapes : escapes = true)
      (rest : Enclosed mark escapes within 0 es) :
      Enclosed mark escapes within run ('\\' :: e :: es)

section

variable {mark : Char} {escapes : Bool} {within run : Nat} {es cs : List Char}

theorem Enclosed.rawShort_append (h : Enclosed mark escapes 0 run es) (rest : List Char) :
    rawShort mark escapes false (es ++ mark :: rest) = some (es, rest) := by
  induction h with
  | nil => simp [rawShort]
  | mark hrun => exact absurd hrun (Nat.not_lt_zero _)
  | @plain _ c es hmark hescape _ ih =>
      have hnext : (escapes && c == '\\') = false := by simpa using hescape
      rw [List.cons_append, rawShort, if_neg hmark, hnext, ih]
      rfl
  | escape hmark hescapes _ ih =>
      rw [List.cons_append, rawShort, if_neg hmark.symm, hescapes, beq_self_eq_true,
        Bool.and_true, List.cons_append, rawShort, ← hescapes, ih]
      rfl

theorem rawLong_end (h : 3 ≤ run) {rest : List Char} (hrest : rest.head? ≠ some mark) :
    rawLong mark escapes false run rest = some (List.replicate (run - 3) mark, rest) := by
  cases rest with
  | nil => simp [rawLong, h]
  | cons c rest =>
      have hc : c ≠ mark := by simpa using hrest
      rw [rawLong, if_neg hc, if_pos h]

theorem rawLong_closing (hrun : run ≤ 2) {rest : List Char} (hrest : rest.head? ≠ some mark) :
    rawLong mark escapes false run (mark :: mark :: mark :: rest) =
      some (List.replicate run mark, rest) := by
  have hfirst : run ≠ 4 := by omega
  have hsecond : run + 1 ≠ 4 := by omega
  rw [rawLong, if_pos rfl, if_neg hfirst, rawLong, if_pos rfl, if_neg hsecond, rawLong, if_pos rfl]
  split
  · obtain rfl : run = 2 := by omega
    rfl
  · exact rawLong_end (by omega) hrest

theorem Enclosed.rawLong_append (h : Enclosed mark escapes 2 run es) (hrun : run ≤ 2)
    {rest : List Char} (hrest : rest.head? ≠ some mark) :
    rawLong mark escapes false run (es ++ mark :: mark :: mark :: rest) =
      some (List.replicate run mark ++ es, rest) := by
  induction h with
  | nil =>
      rw [List.append_nil]
      exact rawLong_closing hrun hrest
  | @mark run es hlimit _ ih =>
      have hmore : run ≠ 4 := by omega
      rw [List.cons_append, rawLong, if_pos rfl, if_neg hmore, ih hlimit, List.replicate_succ',
        List.append_assoc]
      rfl
  | @plain run c es hmark hescape _ ih =>
      have hnext : (escapes && c == '\\') = false := by simpa using hescape
      have hopen : ¬ 3 ≤ run := by omega
      rw [List.cons_append, rawLong, if_neg hmark, if_neg hopen, hnext, ih (Nat.zero_le 2)]
      rfl
  | @escape run e es hmark hescapes _ ih =>
      have hopen : ¬ 3 ≤ run := by omega
      rw [List.cons_append, rawLong, if_neg hmark.symm, if_neg hopen, hescapes, beq_self_eq_true,
        Bool.and_true, List.cons_append, rawLong, ← hescapes, ih (Nat.zero_le 2)]
      rfl

theorem enclosed_of_longestRun (h : longestRun mark run cs ≤ within) :
    Enclosed mark false within run cs := by
  induction cs generalizing run with
  | nil => exact .nil
  | cons c cs ih =>
      rw [longestRun] at h
      split at h
      · rename_i hmark
        subst hmark
        obtain ⟨hrun, hrest⟩ := Nat.max_le.mp h
        exact .mark hrun (ih hrest)
      · rename_i hmark
        exact .plain hmark (by simp) (ih h)

theorem enclosed_append {ds : List Char} (hds : ∀ d ∈ ds, standsForItself d = true)
    (h : Enclosed '"' true within 0 es) : Enclosed '"' true within 0 (ds ++ es) := by
  induction ds with
  | nil => exact h
  | cons d ds ih =>
      obtain ⟨hd, hds⟩ := List.forall_mem_cons.mp hds
      exact .plain (ne_quote_of_standsForItself hd) (fun _ => ne_backslash_of_standsForItself hd)
        (ih hds)

theorem Spells.enclosed_append {piece : List Char} {c : Char} (h : Spells piece c)
    (rest : Enclosed '"' true within 0 es) : Enclosed '"' true within run (piece ++ es) := by
  cases h with
  | plain h =>
      exact .plain (ne_quote_of_standsForItself h) (fun _ => ne_backslash_of_standsForItself h) rest
  | letter => exact .escape (by decide) rfl rest
  | unit h =>
      exact .escape (by decide) rfl (Toml.enclosed_append (standsForItself_upperHex4 h) rest)

theorem Written.enclosed {long : Bool} (h : Written long run es cs) :
    Enclosed '"' true (marksWithin long) run es := by
  induction h with
  | nil => exact .nil
  | spelled h _ ih => exact h.enclosed_append ih
  | quote hrun _ ih => exact .mark hrun ih
  | lineBreak _ _ ih => exact .plain (by decide) (fun _ => by decide) ih

theorem isLongText_of_printable (h : ∀ c ∈ cs, isPrintable c = true ∨ c = '\n') :
    isLongText cs = true := by
  induction cs with
  | nil => rfl
  | cons c cs ih =>
      obtain ⟨hc, hcs⟩ := List.forall_mem_cons.mp h
      have hreturn : c ≠ '\r' := by
        rintro rfl
        revert hc
        decide
      rw [isLongText]
      · rw [ih hcs, Bool.and_true, Bool.or_eq_true, beq_iff_eq]
        exact hc.symm
      · rintro rfl
        exact absurd rfl hreturn
      · rintro _ rfl
        exact absurd rfl hreturn

end

theorem isPrintable_of_not_needsEscape {c : Char} (h : needsEscape c = false) (hbreak : c ≠ '\n') :
    isPrintable c = true := by
  by_cases htab : c = '\t'
  · simp [isPrintable, htab]
  · simpa [needsEscape, isPrintable, htab, hbreak] using h

theorem of_quoting_literal {cs : List Char} (h : quoting cs = .literal) :
    (∀ c ∈ cs, isPrintable c = true) ∧ longestRun '\'' 0 cs ≤ 0 := by
  obtain ⟨hescapes, hbreak, hrun⟩ : cs.any needsEscape = false ∧ cs.contains '\n' = false ∧
      longestRun '\'' 0 cs = 0 := by
    grind [quoting]
  refine ⟨fun c hc => ?_, Nat.le_of_eq hrun⟩
  refine isPrintable_of_not_needsEscape (by simpa using List.any_eq_false.mp hescapes c hc) ?_
  rintro rfl
  simp [hc] at hbreak

theorem of_quoting_longLiteral {cs : List Char} (h : quoting cs = .longLiteral) :
    (∀ c ∈ cs, isPrintable c = true ∨ c = '\n') ∧ longestRun '\'' 0 cs ≤ 2 := by
  obtain ⟨hescapes, hrun⟩ : cs.any needsEscape = false ∧ longestRun '\'' 0 cs ≤ 2 := by
    grind [quoting]
  refine ⟨fun c hc => ?_, hrun⟩
  by_cases hbreak : c = '\n'
  · exact .inr hbreak
  · exact .inl (isPrintable_of_not_needsEscape
      (by simpa using List.any_eq_false.mp hescapes c hc) hbreak)

theorem readQuoted_short {mark : Char} (hmark : mark = '"' ∨ mark = '\'') {cs : List Char}
    (h : ∀ rest, cs ≠ mark :: mark :: rest) : readQuoted (mark :: cs) = readShort mark cs := by
  unfold readQuoted
  rcases hmark with rfl | rfl
  · split <;> simp_all
  · split <;> simp_all

theorem readQuoted_enclosed {mark : Char} (hmark : mark = '"' ∨ mark = '\'') {escapes : Bool}
    {es : List Char} (h : Enclosed mark escapes 0 0 es) (rest : List Char) :
    readQuoted (mark :: (es ++ mark :: '\n' :: rest)) =
      readShort mark (es ++ mark :: '\n' :: rest) := by
  refine readQuoted_short hmark fun more hmore => ?_
  cases h with
  | nil =>
      obtain ⟨-, hbreak⟩ := List.cons.inj hmore
      obtain ⟨hbreak, -⟩ := List.cons.inj hbreak
      rcases hmark with rfl | rfl <;> contradiction
  | mark hrun => exact absurd hrun (Nat.not_lt_zero _)
  | plain hc => exact hc (List.cons.inj hmore).1
  | escape hslash => exact hslash (List.cons.inj hmore).1.symm

theorem dropFirstBreak_eq {cs : List Char} (h : ∀ c, cs.head? = some c → c ≠ '\n' ∧ c ≠ '\r') :
    dropFirstBreak cs = cs := by
  unfold dropFirstBreak
  split
  · exact absurd rfl (h '\n' rfl).1
  · exact absurd rfl (h '\r' rfl).2
  · rfl

theorem Written.readShort_append {es cs : List Char} (h : Written false 0 es cs)
    (rest : List Char) : readShort '"' (es ++ '"' :: rest) = some (cs, rest) := by
  have hraw : rawShort '"' true false (es ++ '"' :: rest) = some (es, rest) :=
    h.enclosed.rawShort_append rest
  have hprintable : es.all isPrintable = true :=
    List.all_eq_true.mpr fun e he => by simpa using h.printable e he
  simp only [readShort, beq_self_eq_true, hraw, Option.bind_eq_bind, Option.bind_some, hprintable,
    if_true, h.unescape_eq]

theorem readShort_literal {cs : List Char} (hprintable : ∀ c ∈ cs, isPrintable c = true)
    (h : Enclosed '\'' false 0 0 cs) (rest : List Char) :
    readShort '\'' (cs ++ '\'' :: rest) = some (cs, rest) := by
  have hmark : ('\'' == '"') = false := rfl
  have hraw := h.rawShort_append rest
  simp only [readShort, hmark, hraw, Option.bind_eq_bind, Option.bind_some,
    List.all_eq_true.mpr hprintable, if_true]
  rfl

theorem Written.readLong_append {es cs : List Char} (h : Written true 0 es cs) {rest : List Char}
    (hrest : rest.head? ≠ some '"') {start : List Char}
    (hstart : dropFirstBreak start = es ++ '"' :: '"' :: '"' :: rest) :
    readLong '"' start = some (cs, rest) := by
  have hraw : rawLong '"' true false 0 (es ++ '"' :: '"' :: '"' :: rest) = some (es, rest) :=
    h.enclosed.rawLong_append (Nat.zero_le 2) hrest
  have htext : isLongText es = true :=
    isLongText_of_printable fun e he => by simpa using h.printable e he
  simp [readLong, hstart, hraw, htext, h.unescape_eq]

theorem readLong_literal {cs : List Char} (htext : ∀ c ∈ cs, isPrintable c = true ∨ c = '\n')
    (h : Enclosed '\'' false 2 0 cs) {rest : List Char} (hrest : rest.head? ≠ some '\'')
    {start : List Char} (hstart : dropFirstBreak start = cs ++ '\'' :: '\'' :: '\'' :: rest) :
    readLong '\'' start = some (cs, rest) := by
  have hraw := h.rawLong_append (Nat.zero_le 2) hrest
  rw [List.replicate_zero, List.nil_append] at hraw
  simp [readLong, hstart, hraw, isLongText_of_printable htext]

theorem Written.lineBreak_mem {long : Bool} {run : Nat} {es cs : List Char}
    (h : Written long run es cs) : '\n' ∈ es → '\n' ∈ cs := by
  have hcontrol : isPrintable '\n' = false := by decide
  induction h with
  | nil => simp
  | spelled h _ ih =>
      intro hmem
      rcases List.mem_append.mp hmem with hmem | hmem
      · have hprintable := h.printable '\n' hmem
        rw [hcontrol] at hprintable
        contradiction
      · exact List.mem_cons_of_mem _ (ih hmem)
  | quote _ _ ih => simpa using ih
  | lineBreak => simp

theorem exists_start {mark : Char} (hmark : mark = '"' ∨ mark = '\'') {es cs : List Char}
    (htext : ∀ e ∈ es, isPrintable e = true ∨ e = '\n') (hbreak : '\n' ∈ es → '\n' ∈ cs)
    (rest : List Char) : ∃ start,
      opener [mark, mark, mark] cs ++ es ++ [mark, mark, mark] ++ rest =
        mark :: mark :: mark :: start ∧
      dropFirstBreak start = es ++ mark :: mark :: mark :: rest := by
  by_cases hlines : '\n' ∈ cs
  · exact ⟨'\n' :: (es ++ mark :: mark :: mark :: rest), by simp [opener, hlines], rfl⟩
  · refine ⟨es ++ mark :: mark :: mark :: rest, by simp [opener, hlines], ?_⟩
    refine dropFirstBreak_eq fun c hc => ?_
    cases es with
    | nil =>
        obtain rfl : mark = c := by simpa using hc
        rcases hmark with rfl | rfl <;> decide
    | cons e es =>
        obtain rfl : e = c := by simpa using hc
        have hline : e ≠ '\n' := by
          rintro rfl
          exact hlines (hbreak (by simp))
        refine ⟨hline, ?_⟩
        rintro rfl
        have hreturn := htext '\r' (by simp)
        revert hreturn
        decide

theorem readQuoted_stringChars (cs rest : List Char) :
    readQuoted (stringChars cs ++ '\n' :: rest) = some (cs, '\n' :: rest) := by
  unfold stringChars
  cases hquoting : quoting cs with
  | basic =>
      have hwritten := written_basicChars cs
      simp only [List.cons_append, List.append_assoc, List.nil_append]
      rw [readQuoted_enclosed (.inl rfl) hwritten.enclosed, hwritten.readShort_append]
  | literal =>
      obtain ⟨hprintable, hrun⟩ := of_quoting_literal hquoting
      have hclosed : Enclosed '\'' false 0 0 cs := enclosed_of_longestRun hrun
      simp only [List.cons_append, List.append_assoc, List.nil_append]
      rw [readQuoted_enclosed (.inr rfl) hclosed, readShort_literal hprintable hclosed]
  | longBasic =>
      have hwritten := written_longBasicChars (Nat.zero_le 2) cs
      have htext : ∀ e ∈ longBasicChars 0 cs, isPrintable e = true ∨ e = '\n' := by
        simpa using hwritten.printable
      obtain ⟨start, hopen, hstart⟩ :=
        exists_start (.inl rfl) htext hwritten.lineBreak_mem ('\n' :: rest)
      rw [hopen]
      exact hwritten.readLong_append (by simp) hstart
  | longLiteral =>
      obtain ⟨htext, hrun⟩ := of_quoting_longLiteral hquoting
      obtain ⟨start, hopen, hstart⟩ := exists_start (.inr rfl) htext id ('\n' :: rest)
      rw [hopen]
      exact readLong_literal htext (enclosed_of_longestRun hrun) (by simp) hstart

end Rostering.Toml
