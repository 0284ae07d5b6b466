import Rostering.Json.Parse
import Rostering.Json.Value

namespace Rostering.Json

open Text (hexValue?)

def shortEscapes : List (Char × Char) :=
  [('"', '"'), ('\\', '\\'), ('/', '/'), ('b', '\x08'), ('f', '\x0c'), ('n', '\n'), ('r', '\r'),
   ('t', '\t')]

def hexNumber? : Nat → List Char → Option Nat
  | value, [] => some value
  | value, c :: cs => (hexValue? c).bind fun digit => hexNumber? (value * 16 + digit) cs

structure CodeUnit (digits : List Char) (n : Nat) : Prop where
  four : digits.length = 4
  number : hexNumber? 0 digits = some n

inductive Characters : List Char → List Char → Prop where
  | nil : Characters [] []
  | plain {c : Char} {cs text : List Char} (hquote : c ≠ '"') (hslash : c ≠ '\\')
      (hcontrol : 0x20 ≤ c.toNat) (rest : Characters cs text) : Characters (c :: cs) (c :: text)
  | short {c e : Char} {cs text : List Char} (h : (c, e) ∈ shortEscapes)
      (rest : Characters cs text) : Characters ('\\' :: c :: cs) (e :: text)
  | unit {digits cs text : List Char} {n : Nat} (h : CodeUnit digits n)
      (hwhole : n < 0xD800 ∨ 0xDFFF < n) (rest : Characters cs text) :
      Characters ('\\' :: 'u' :: (digits ++ cs)) (Char.ofNat n :: text)
  | pair {digits digits' cs text : List Char} {high low : Nat} (h : CodeUnit digits high)
      (hhigh : 0xD800 ≤ high ∧ high ≤ 0xDBFF) (h' : CodeUnit digits' low)
      (hlow : 0xDC00 ≤ low ∧ low ≤ 0xDFFF) (rest : Characters cs text) :
      Characters ('\\' :: 'u' :: (digits ++ '\\' :: 'u' :: (digits' ++ cs)))
        (Char.ofNat (0x10000 + (high - 0xD800) * 0x400 + (low - 0xDC00)) :: text)

theorem simpleEscape?_eq_some_iff {c e : Char} :
    simpleEscape? c = some e ↔ (c, e) ∈ shortEscapes := by
  simp only [shortEscapes, List.mem_cons, List.not_mem_nil, or_false, Prod.mk.injEq]
  constructor
  · intro h
    unfold simpleEscape? at h
    repeat' split at h
    all_goals grind
  · rintro (⟨rfl, rfl⟩ | ⟨rfl, rfl⟩ | ⟨rfl, rfl⟩ | ⟨rfl, rfl⟩ | ⟨rfl, rfl⟩ | ⟨rfl, rfl⟩ |
      ⟨rfl, rfl⟩ | ⟨rfl, rfl⟩) <;> rfl

def readOn (c : Char) (cs : List Char) : Option (List Char × List Char) :=
  (readString .text cs).map fun (text, rest) => (c :: text, rest)

def afterUnit (n : Nat) (cs : List Char) : Option (List Char × List Char) :=
  if 0xD800 ≤ n ∧ n ≤ 0xDBFF then readString (.secondMark n) cs
  else if 0xDC00 ≤ n ∧ n ≤ 0xDFFF then none
  else readOn (Char.ofNat n) cs

def afterPair (high low : Nat) (cs : List Char) : Option (List Char × List Char) :=
  if 0xDC00 ≤ low ∧ low ≤ 0xDFFF then
    readOn (Char.ofNat (0x10000 + (high - 0xD800) * 0x400 + (low - 0xDC00))) cs
  else none

theorem readString_nil (mode : StringMode) : readString mode [] = none := by
  cases mode <;> rfl

theorem readString_text (c : Char) (cs : List Char) :
    readString .text (c :: cs) =
      if c = '"' then some ([], cs)
      else if c = '\\' then readString .escape cs
      else if c.toNat < 0x20 then none
      else readOn c cs := rfl

theorem readString_escape (c : Char) (cs : List Char) :
    readString .escape (c :: cs) =
      if c = 'u' then readString (.unit 4 0) cs else (simpleEscape? c).bind (readOn · cs) := by
  rw [readString]
  cases simpleEscape? c <;> rfl

theorem readString_secondMark (high : Nat) (c : Char) (cs : List Char) :
    readString (.secondMark high) (c :: cs) =
      if c = '\\' then readString (.secondLetter high) cs else none := rfl

structure TakesDigits (mode : Nat → Nat → StringMode)
    (after : Nat → List Char → Option (List Char × List Char)) : Prop where
  ended : ∀ due value, readString (mode due value) [] = none
  step : ∀ due value c cs, readString (mode due value) (c :: cs) =
    (hexValue? c).bind fun digit =>
      if 1 < due then readString (mode (due - 1) (value * 16 + digit)) cs
      else after (value * 16 + digit) cs

theorem takesDigits_unit : TakesDigits .unit afterUnit := by
  refine ⟨fun _ _ => rfl, fun due value c cs => ?_⟩
  rw [readString]
  cases hexValue? c <;> rfl

theorem takesDigits_secondUnit (high : Nat) :
    TakesDigits (.secondUnit high) (afterPair high) := by
  refine ⟨fun _ _ => rfl, fun due value c cs => ?_⟩
  rw [readString]
  cases hexValue? c <;> rfl

section Digits

variable {mode : Nat → Nat → StringMode}
  {after : Nat → List Char → Option (List Char × List Char)} {value n : Nat}

theorem TakesDigits.read_append (h : TakesDigits mode after) {due : Nat} {digits : List Char}
    (hlength : digits.length = due + 1) (hn : hexNumber? value digits = some n)
    (rest : List Char) : readString (mode (due + 1) value) (digits ++ rest) = after n rest := by
  induction due generalizing value digits with
  | zero =>
      obtain ⟨c, rfl⟩ := List.length_eq_one_iff.mp hlength
      obtain ⟨digit, hdigit, hn⟩ := Option.bind_eq_some_iff.mp hn
      obtain rfl : value * 16 + digit = n := by simpa [hexNumber?] using hn
      rw [List.singleton_append, h.step, hdigit]
      rfl
  | succ due ih =>
      obtain ⟨c, digits, rfl⟩ := List.exists_cons_of_length_eq_add_one hlength
      obtain ⟨digit, hdigit, hn⟩ := Option.bind_eq_some_iff.mp hn
      rw [List.cons_append, h.step, hdigit, Option.bind_some, if_pos (by omega)]
      exact ih (by simpa using hlength) hn

theorem TakesDigits.exists_of_read (h : TakesDigits mode after) (due : Nat) {cs : List Char}
    {result : List Char × List Char} (hread : readString (mode (due + 1) value) cs = some result) :
    ∃ digits n rest, cs = digits ++ rest ∧ digits.length = due + 1 ∧
      hexNumber? value digits = some n ∧ after n rest = some result := by
  induction due generalizing value cs with
  | zero =>
      cases cs with
      | nil => simp [h.ended] at hread
      | cons c cs =>
          rw [h.step, Option.bind_eq_some_iff] at hread
          obtain ⟨digit, hdigit, hread⟩ := hread
          rw [if_neg (by omega)] at hread
          exact ⟨[c], _, cs, rfl, rfl, by simp [hexNumber?, hdigit], hread⟩
  | succ due ih =>
      cases cs with
      | nil => simp [h.ended] at hread
      | cons c cs =>
          rw [h.step, Option.bind_eq_some_iff] at hread
          obtain ⟨digit, hdigit, hread⟩ := hread
          rw [if_pos (by omega)] at hread
          obtain ⟨digits, n, rest, rfl, hlength, hn, hafter⟩ := ih hread
          exact ⟨c :: digits, n, rest, rfl, by simp [hlength], by simp [hexNumber?, hdigit, hn],
            hafter⟩

end Digits

theorem CodeUnit.readString_unit {digits : List Char} {n : Nat} (h : CodeUnit digits n)
    (cs : List Char) :
    readString .text ('\\' :: 'u' :: (digits ++ cs)) = afterUnit n cs :=
  takesDigits_unit.read_append h.four h.number cs

theorem CodeUnit.readString_secondUnit {digits : List Char} {low : Nat} (h : CodeUnit digits low)
    (high : Nat) (cs : List Char) :
    readString (.secondMark high) ('\\' :: 'u' :: (digits ++ cs)) = afterPair high low cs :=
  (takesDigits_secondUnit high).read_append h.four h.number cs

theorem Characters.readString {cs text : List Char} (h : Characters cs text) (rest : List Char) :
    readString .text (cs ++ '"' :: rest) = some (text, rest) := by
  induction h with
  | nil => rfl
  | plain hquote hslash hcontrol _ ih =>
      rw [List.cons_append, readString_text, if_neg hquote, if_neg hslash,
        if_neg (Nat.not_lt.mpr hcontrol), readOn, ih]
      rfl
  | @short c e cs text h _ ih =>
      have hunit : c ≠ 'u' := by
        rintro rfl
        simp [shortEscapes] at h
      rw [List.cons_append, List.cons_append, readString_text, if_neg (by decide), if_pos rfl,
        readString_escape, if_neg hunit, simpleEscape?_eq_some_iff.mpr h, Option.bind_some, readOn,
        ih]
      rfl
  | unit h hwhole _ ih =>
      rw [List.cons_append, List.cons_append, List.append_assoc, h.readString_unit, afterUnit,
        if_neg (by omega), if_neg (by omega), readOn, ih]
      rfl
  | pair h hhigh h' hlow _ ih =>
      rw [List.cons_append, List.cons_append, List.append_assoc, List.cons_append,
        List.cons_append, List.append_assoc, h.readString_unit, afterUnit, if_pos hhigh,
        h'.readString_secondUnit, afterPair, if_pos hlow, readOn, ih]
      rfl

theorem exists_of_secondMark {high : Nat} {cs : List Char} {result : List Char × List Char}
    (h : readString (.secondMark high) cs = some result) :
    ∃ digits low rest, cs = '\\' :: 'u' :: (digits ++ rest) ∧ CodeUnit digits low ∧
      afterPair high low rest = some result := by
  cases cs with
  | nil => simp [readString_nil] at h
  | cons c cs =>
      by_cases hslash : c = '\\'
      · rw [readString_secondMark, if_pos hslash] at h
        cases cs with
        | nil => simp [readString_nil] at h
        | cons d cs =>
            by_cases hunit : d = 'u'
            · subst hslash hunit
              obtain ⟨digits, low, rest, rfl, hfour, hnumber, hafter⟩ :=
                (takesDigits_secondUnit high).exists_of_read 3 h
              exact ⟨digits, low, rest, rfl, ⟨hfour, hnumber⟩, hafter⟩
            · simp [readString, hunit] at h
      · simp [readString_secondMark, hslash] at h

def Closes (cs : List Char) : Prop :=
  ∀ text rest, readString .text cs = some (text, rest) →
    ∃ body, cs = body ++ '"' :: rest ∧ Characters body text

theorem Closes.readOn {cs : List Char} (h : Closes cs) {c : Char} {text rest : List Char}
    (hread : readOn c cs = some (text, rest)) :
    ∃ body text', text = c :: text' ∧ cs = body ++ '"' :: rest ∧ Characters body text' := by
  obtain ⟨⟨text', rest'⟩, htext, heq⟩ := Option.map_eq_some_iff.mp hread
  obtain ⟨rfl, rfl⟩ := Prod.mk.inj heq
  obtain ⟨body, hbody, hcharacters⟩ := h text' rest' htext
  exact ⟨body, text', rfl, hbody, hcharacters⟩

theorem closes_afterUnit {digits cs text rest : List Char} {n : Nat} (h : CodeUnit digits n)
    (hcs : ∀ cs', cs'.length ≤ cs.length → Closes cs')
    (hread : afterUnit n cs = some (text, rest)) :
    ∃ body, '\\' :: 'u' :: (digits ++ cs) = body ++ '"' :: rest ∧ Characters body text := by
  unfold afterUnit at hread
  split at hread
  next hhigh =>
    obtain ⟨digits', low, cs', rfl, h', hafter⟩ := exists_of_secondMark hread
    have hcloses : Closes cs' := hcs cs' (by simp; omega)
    unfold afterPair at hafter
    split at hafter
    next hlow =>
      obtain ⟨body, text', rfl, rfl, hbody⟩ := hcloses.readOn hafter
      exact ⟨_, by simp, .pair h hhigh h' hlow hbody⟩
    next => contradiction
  next hhigh =>
    split at hread
    next => contradiction
    next hlow =>
      obtain ⟨body, text', rfl, rfl, hbody⟩ := (hcs cs (Nat.le_refl _)).readOn hread
      exact ⟨_, by simp, .unit h (by omega) hbody⟩

theorem closes_escape {cs text rest : List Char}
    (hcs : ∀ cs', cs'.length ≤ cs.length → Closes cs')
    (hread : readString .text ('\\' :: cs) = some (text, rest)) :
    ∃ body, '\\' :: cs = body ++ '"' :: rest ∧ Characters body text := by
  cases cs with
  | nil => simp [readString_text, readString_nil] at hread
  | cons c cs =>
      by_cases hunit : c = 'u'
      · subst hunit
        obtain ⟨digits, n, cs', rfl, hfour, hnumber, hafter⟩ :=
          takesDigits_unit.exists_of_read 3 hread
        refine closes_afterUnit ⟨hfour, hnumber⟩ (fun cs'' h => hcs cs'' ?_) hafter
        simp only [List.length_cons, List.length_append]
        omega
      · cases hshort : simpleEscape? c with
        | none => simp [readString_text, readString_escape, hunit, hshort] at hread
        | some e =>
            have hread' : readOn e cs = some (text, rest) := by
              simpa [readString_text, readString_escape, hunit, hshort] using hread
            obtain ⟨body, text', rfl, rfl, hbody⟩ := (hcs cs (by simp)).readOn hread'
            exact ⟨_, rfl, .short (simpleEscape?_eq_some_iff.mp hshort) hbody⟩

-- By induction on the length: an escape takes up to twelve characters before the text goes on.
theorem closes (cs : List Char) : Closes cs := by
  induction hlength : cs.length using Nat.strongRecOn generalizing cs with
  | ind length ih =>
      subst hlength
      intro text rest hread
      cases cs with
      | nil => simp [readString_nil] at hread
      | cons c cs =>
          have hcs : ∀ cs', cs'.length ≤ cs.length → Closes cs' := fun cs' h =>
            ih cs'.length (Nat.lt_succ_of_le h) cs' rfl
          by_cases hquote : c = '"'
          · subst hquote
            obtain ⟨rfl, rfl⟩ : [] = text ∧ cs = rest := by simpa [readString_text] using hread
            exact ⟨[], rfl, .nil⟩
          by_cases hslash : c = '\\'
          · subst hslash
            exact closes_escape hcs hread
          · by_cases hcontrol : c.toNat < 0x20
            · simp [readString_text, hquote, hslash, hcontrol] at hread
            · have hread' : readOn c cs = some (text, rest) := by
                simpa [readString_text, hquote, hslash, hcontrol] using hread
              obtain ⟨body, text', rfl, rfl, hbody⟩ := (hcs cs (Nat.le_refl _)).readOn hread'
              exact ⟨c :: body, rfl, .plain hquote hslash (Nat.not_lt.mp hcontrol) hbody⟩

theorem readString_eq_some_iff {cs text rest : List Char} :
    readString .text cs = some (text, rest) ↔
      ∃ body, cs = body ++ '"' :: rest ∧ Characters body text := by
  constructor
  · exact closes cs text rest
  · rintro ⟨body, rfl, hbody⟩
    exact hbody.readString rest

theorem hexValue?_lowerHex : ∀ n < 16, hexValue? (lowerHex n) = some n := by
  decide

theorem codeUnit_control {n : Nat} (h : n < 0x20) :
    CodeUnit ['0', '0', lowerHex (n / 16), lowerHex (n % 16)] n := by
  have hhigh := hexValue?_lowerHex (n / 16) (by omega)
  have hlow := hexValue?_lowerHex (n % 16) (by omega)
  have hzero : hexValue? '0' = some 0 := by decide
  have hvalue : n / 16 * 16 + n % 16 = n := by omega
  refine ⟨rfl, ?_⟩
  simp [hexNumber?, hzero, hhigh, hlow, hvalue]

theorem Characters.escapeChar {cs text : List Char} (h : Characters cs text) (c : Char) :
    Characters (Json.escapeChar c ++ cs) (c :: text) := by
  by_cases hshort : c = '"' ∨ c = '\\' ∨ c = '\x08' ∨ c = '\x0c' ∨ c = '\n' ∨ c = '\r' ∨ c = '\t'
  · obtain rfl | rfl | rfl | rfl | rfl | rfl | rfl := hshort <;> exact .short (by decide) h
  simp only [not_or] at hshort
  obtain ⟨hquote, hslash, hback, hfeed, hline, hreturn, htab⟩ := hshort
  by_cases hcontrol : c.toNat < 0x20
  · have hunit : Characters _ (Char.ofNat c.toNat :: text) :=
      .unit (codeUnit_control hcontrol) (.inl (by omega)) h
    have hescape : Json.escapeChar c =
        ['\\', 'u', '0', '0', lowerHex (c.toNat / 16), lowerHex (c.toNat % 16)] := by
      simp [Json.escapeChar, *]
    rw [Char.ofNat_toNat] at hunit
    rwa [hescape]
  · have hescape : Json.escapeChar c = [c] := by simp [Json.escapeChar, *]
    rw [hescape]
    exact h.plain hquote hslash (Nat.not_lt.mp hcontrol)

theorem characters_escaped (cs : List Char) : Characters (cs.flatMap Json.escapeChar) cs := by
  induction cs with
  | nil => exact .nil
  | cons c cs ih => exact ih.escapeChar c

end Rostering.Json
