import Mathlib.Data.List.Chain
import Rostering.Proofs.Sql.Lexer
import Rostering.Proofs.Text.Trimming

namespace Rostering.Sql

namespace Token

def isGap : Token → Bool
  | .gap => true
  | _ => false

def isMark : Token → Bool
  | .mark _ => true
  | _ => false

def delimits : Token → Bool
  | .gap => true
  | .mark m => m = "(" || m = ")" || m = ","
  | _ => false

def meets (t u : Token) : Bool := t.delimits || u.delimits || t.isMark != u.isMark

def sound : Token → Bool
  | .word w =>
      match w.toList with
      | [] => false
      | c :: cs => !c.isDigit && (c :: cs).all isWordChar
  | .mark m => decide (m ∈ marks)
  | _ => true

def endsBefore (d : Dialect) : Token → Char → Bool
  | .word _, c | .number _, c | .param _, c => !isWordChar c
  | .literal _, c => c != '\''
  | .name _, c => match d with
      | .postgres => c != '"'
      | .tsql => c != ']'
  | .mark m, c => !(m = "<" || m = ">") || !(c == '=' || c == '>')
  | .gap, _ => true

end Token

theorem isWordChar_of_isDigit {c : Char} (h : c.isDigit = true) : isWordChar c = true := by
  simp [isWordChar, Char.isAlphanum, h]

theorem isWordChar_ne {c x : Char} (h : isWordChar c = true) (hx : isWordChar x = false) :
    c ≠ x := by
  rintro rfl
  simp [h] at hx

theorem isWordChar_digits {c : Char} {n : Nat} (h : c ∈ Text.digits n) : isWordChar c = true :=
  isWordChar_of_isDigit (List.all_eq_true.mp (Text.digits_all_isDigit n) c h)

theorem Token.exists_of_sound_word {w : String} (h : (Token.word w).sound = true) :
    ∃ c cs, w.toList = c :: cs ∧ c.isDigit = false ∧ ∀ x ∈ c :: cs, isWordChar x = true := by
  simp only [Token.sound] at h
  split at h
  · simp at h
  · rename_i c cs hw
    simp only [Bool.and_eq_true, Bool.not_eq_true', List.all_eq_true] at h
    exact ⟨c, cs, hw, h.1, h.2⟩

theorem marks_first {m : String} (h : m ∈ marks) : ∃ c cs, m.toList = c :: cs ∧
    isWordChar c = false ∧ c.isWhitespace = false ∧ c ∉ ['\'', '"', ']', '[', '$', '@'] ∧
    (m = "(" ∨ m = ")" ∨ m = "," → c ≠ '=' ∧ c ≠ '>') := by
  have hall : marks.all (fun m => m.toList.head?.any fun c =>
      !isWordChar c && !c.isWhitespace && !(['\'', '"', ']', '[', '$', '@'].contains c) &&
        (!(["(", ")", ","].contains m) || (c != '=' && c != '>'))) = true := by
    decide
  have hm := List.all_eq_true.mp hall m h
  cases hc : m.toList with
  | nil => simp [hc] at hm
  | cons c cs =>
      simp only [hc, List.head?_cons, Option.any_some, Bool.and_eq_true, Bool.not_eq_true'] at hm
      obtain ⟨⟨⟨hword, hblank⟩, hquote⟩, hdelim⟩ := hm
      refine ⟨c, cs, rfl, hword, hblank, by simpa using hquote, fun hmark => ?_⟩
      have hin : ["(", ")", ","].contains m = true := by simpa using hmark
      rw [hin] at hdelim
      simpa using hdelim

theorem Token.chars_first (d : Dialect) {u : Token} (h : u.sound = true) :
    ∃ c cs, u.chars d = c :: cs ∧
      (u.isMark = true ∨ u.isGap = true →
        isWordChar c = false ∧ c ≠ '\'' ∧ c ≠ '"' ∧ c ≠ ']') ∧
      (u.isMark = false ∨ u.delimits = true → c ≠ '=' ∧ c ≠ '>') := by
  cases u with
  | word w =>
      obtain ⟨c, cs, hw, -, hall⟩ := exists_of_sound_word h
      have hc := hall c (by simp)
      exact ⟨c, cs, hw, by simp [isMark, isGap],
        fun _ => ⟨isWordChar_ne hc (by decide), isWordChar_ne hc (by decide)⟩⟩
  | mark m =>
      have hm : m ∈ marks := by simpa [sound] using h
      obtain ⟨c, cs, hc, hw, -, hq, hdelim⟩ := marks_first hm
      refine ⟨c, cs, hc, fun _ => ⟨hw, ?_⟩, ?_⟩
      · simp only [List.mem_cons, not_or] at hq
        exact ⟨hq.1, hq.2.1, hq.2.2.1⟩
      · simpa [isMark, delimits, or_assoc] using hdelim
  | number n =>
      obtain ⟨c, cs, hc⟩ := List.exists_cons_of_ne_nil (Text.digits_ne_nil n)
      have hword : isWordChar c = true := isWordChar_digits (n := n) (by simp [hc])
      exact ⟨c, cs, hc, by simp [isMark, isGap],
        fun _ => ⟨isWordChar_ne hword (by decide), isWordChar_ne hword (by decide)⟩⟩
  | literal text => exact ⟨_, _, rfl, by simp [isMark, isGap], fun _ => by decide⟩
  | name ident => cases d <;> exact ⟨_, _, rfl, by simp [isMark, isGap], fun _ => by decide⟩
  | param position => cases d <;> exact ⟨_, _, rfl, by simp [isMark, isGap], fun _ => by decide⟩
  | gap => exact ⟨_, _, rfl, by decide, by decide⟩

theorem Token.endsBefore_of_meets (d : Dialect) {t u : Token} (h : t.meets u = true)
    (hu : u.sound = true) {c : Char} {cs : List Char} (hc : u.chars d = c :: cs) :
    t.endsBefore d c = true := by
  obtain ⟨c', cs', hc', hbreak, hplain⟩ := u.chars_first d hu
  obtain ⟨rfl, rfl⟩ := List.cons.inj (hc.symm.trans hc')
  cases t with
  | gap => rfl
  | mark m =>
      by_cases hd : (Token.mark m).delimits = true
      · have hm : ¬ (m = "<" ∨ m = ">") := by
          rintro (rfl | rfl) <;> simp [delimits] at hd
        simp only [not_or] at hm
        simp [endsBefore, hm]
      · have hu : u.isMark = false ∨ u.delimits = true := by
          cases hm : u.isMark <;> simp_all [meets, isMark]
        simp [endsBefore, hplain hu]
  | word _ | number _ | param _ | literal _ | name _ =>
      have hu : u.isMark = true ∨ u.isGap = true := by
        cases u <;> simp_all [meets, isMark, isGap, delimits]
      cases d <;> simp [endsBefore, hbreak hu]

theorem nameClose?_eq_none {d : Dialect} {c : Char} (h : c ∉ ['"', '[']) :
    nameClose? d c = none := by
  simp only [List.mem_cons, List.not_mem_nil, or_false, not_or] at h
  unfold nameClose?
  split <;> simp_all

theorem wordOrNumber?_word {w : String} (h : (Token.word w).sound = true) :
    wordOrNumber? w.toList = some (.word w) := by
  obtain ⟨c, cs, hw, hc, -⟩ := Token.exists_of_sound_word h
  have hnat : Text.natural? (c :: cs) = none := by simp [Text.natural?, hc]
  have hback : String.ofList (c :: cs) = w := by rw [← hw, String.ofList_toList]
  simp [wordOrNumber?, hw, hnat, hc, hback]

theorem mark?_append {m : String} (h : m ∈ marks) {d : Dialect} {rest : List Char}
    (hr : ∀ c, rest.head? = some c → (Token.mark m).endsBefore d c = true) :
    mark? (m.toList ++ rest) = some (.mark m, rest) := by
  have hlong (c : Char) (cs : List Char) (hcs : rest = c :: cs) (hm : m = "<" ∨ m = ">") :
      '=' ≠ c ∧ '>' ≠ c := by
    have hc := hr c (by simp [hcs])
    rcases hm with rfl | rfl <;> simp [Token.endsBefore] at hc <;>
      exact ⟨Ne.symm hc.1, Ne.symm hc.2⟩
  simp only [marks, List.mem_cons, List.not_mem_nil, or_false] at h
  cases rest with
  | nil =>
      rcases h with rfl | rfl | rfl | rfl | rfl | rfl | rfl | rfl | rfl | rfl | rfl | rfl <;> rfl
  | cons c rest =>
      have hc := hlong c rest rfl
      rcases h with rfl | rfl | rfl | rfl | rfl | rfl | rfl | rfl | rfl | rfl | rfl | rfl <;>
        simp_all [mark?, marks, List.isPrefixOf]

theorem token?_run {run rest : List Char} {t : Token} (hall : ∀ c ∈ run, isWordChar c = true)
    (hr : ∀ c, rest.head? = some c → isWordChar c = false) (d : Dialect)
    (hrun : wordOrNumber? run = some t) : token? d (run ++ rest) = some (t, rest) := by
  obtain ⟨htake, hdrop⟩ := Text.span_append hall hr
  cases run with
  | nil => simp [wordOrNumber?, Text.natural?] at hrun
  | cons c cs =>
      have hc := hall c (by simp)
      have hquote : c ≠ '\'' := isWordChar_ne hc (by decide)
      have hclose : nameClose? d c = none := nameClose?_eq_none (by
        simp [isWordChar_ne hc (x := '"') (by decide), isWordChar_ne hc (x := '[') (by decide)])
      rw [List.cons_append] at htake hdrop ⊢
      simp [token?, hquote, hclose, hc, htake, hdrop, hrun]

theorem token?_chars (d : Dialect) {t : Token} (ht : t.sound = true) (hgap : t.isGap = false)
    {rest : List Char} (hr : ∀ c, rest.head? = some c → t.endsBefore d c = true) :
    token? d (t.chars d ++ rest) = some (t, rest) := by
  cases t with
  | gap => simp [Token.isGap] at hgap
  | literal text =>
      have hend : rest.head? ≠ some '\'' := fun h => by simpa [Token.endsBefore] using hr _ h
      have hread := quoted?_doubled hend text.toList
      simp [Token.chars, token?, hread]
  | name ident =>
      cases d with
      | postgres =>
          have hend : rest.head? ≠ some '"' := fun h => by simpa [Token.endsBefore] using hr _ h
          have hread := quoted?_doubled hend ident.toList
          simp [Token.chars, token?, quoteName, nameClose?, hread]
      | tsql =>
          have hend : rest.head? ≠ some ']' := fun h => by simpa [Token.endsBefore] using hr _ h
          have hread := quoted?_doubled hend ident.toList
          simp [Token.chars, token?, quoteName, nameClose?, hread]
  | word w =>
      obtain ⟨c, cs, hw, -, hall⟩ := Token.exists_of_sound_word ht
      exact token?_run (by simpa [Token.chars, hw] using hall)
        (fun x hx => by simpa [Token.endsBefore] using hr x hx) d (wordOrNumber?_word ht)
  | number n =>
      exact token?_run (fun x hx => isWordChar_digits hx)
        (fun x hx => by simpa [Token.endsBefore] using hr x hx) d
        (by simp [wordOrNumber?, Text.natural?_digits])
  | param n =>
      have hall : ∀ x ∈ Text.digits n, isWordChar x = true := fun x hx => isWordChar_digits hx
      have hend : ∀ x, rest.head? = some x → isWordChar x = false := fun x hx => by
        simpa [Token.endsBefore] using hr x hx
      cases d with
      | postgres =>
          obtain ⟨htake, hdrop⟩ := Text.span_append hall hend
          have hsigil : isWordChar '$' = false := by decide
          simp [Token.chars, placeholder, token?, nameClose?, hsigil, isSigil, position?, htake,
            hdrop, Text.natural?_digits]
      | tsql =>
          have hrun : ∀ x ∈ 'P' :: Text.digits n, isWordChar x = true := by
            simpa using ⟨by decide, hall⟩
          obtain ⟨htake, hdrop⟩ := Text.span_append hrun hend
          have hsigil : isWordChar '@' = false := by decide
          rw [List.cons_append] at htake hdrop
          simp [Token.chars, placeholder, token?, nameClose?, hsigil, isSigil, position?, htake,
            hdrop, Text.natural?_digits]
  | mark m =>
      have hm : m ∈ marks := by simpa [Token.sound] using ht
      obtain ⟨c, cs, hc, hword, -, hq, -⟩ := marks_first hm
      have hread := mark?_append hm hr
      simp only [List.mem_cons, List.not_mem_nil, or_false, not_or] at hq
      obtain ⟨hquote, hname, -, hbracket, hdollar, hat⟩ := hq
      have hclose : nameClose? d c = none := nameClose?_eq_none (by simp [hname, hbracket])
      have hsigil : isSigil d c = false := by cases d <;> simp [isSigil, hdollar, hat]
      rw [hc, List.cons_append] at hread
      simp [Token.chars, hc, token?, hquote, hclose, hword, hsigil, hread]

theorem not_blank_of_isWordChar {c : Char} (h : isWordChar c = true) : c.isWhitespace = false := by
  by_contra hc
  simp only [Bool.not_eq_false, Char.isWhitespace, Bool.or_eq_true, decide_eq_true_eq] at hc
  rcases hc with ((rfl | rfl) | rfl) | rfl <;> exact absurd h (by decide)

theorem Token.chars_not_blank (d : Dialect) {t : Token} (ht : t.sound = true)
    (hgap : t.isGap = false) : ∃ c cs, t.chars d = c :: cs ∧ c.isWhitespace = false := by
  cases t with
  | gap => simp [isGap] at hgap
  | word w =>
      obtain ⟨c, cs, hw, -, hall⟩ := exists_of_sound_word ht
      exact ⟨c, cs, hw, not_blank_of_isWordChar (hall c (by simp))⟩
  | mark m =>
      obtain ⟨c, cs, hc, -, hblank, -⟩ := marks_first (by simpa [sound] using ht)
      exact ⟨c, cs, hc, hblank⟩
  | number n =>
      obtain ⟨c, cs, hc⟩ := List.exists_cons_of_ne_nil (Text.digits_ne_nil n)
      exact ⟨c, cs, hc, not_blank_of_isWordChar (isWordChar_digits (n := n) (by simp [hc]))⟩
  | literal _ => exact ⟨_, _, rfl, by decide⟩
  | name _ | param _ => cases d <;> exact ⟨_, _, rfl, by decide⟩

structure Spaced (ts : List Token) : Prop where
  sound : ∀ t ∈ ts, t.sound = true
  meets : ts.IsChain (fun t u => t.meets u = true)

def lexemes (ts : List Token) : List Token := ts.filter (fun t => !t.isGap)

theorem spell_head (d : Dialect) {t : Token} {ts : List Token} (h : Spaced (t :: ts)) (c : Char)
    (hc : (spell d ts).head? = some c) : t.endsBefore d c = true := by
  cases ts with
  | nil => simp [spell] at hc
  | cons u us =>
      have hu : u.sound = true := h.sound u (by simp)
      obtain ⟨x, xs, hx, -⟩ := u.chars_first d hu
      have hmeet : t.meets u = true := (List.isChain_cons_cons.mp h.meets).1
      have hxc : x = c := by simpa [spell_cons, hx] using hc
      exact hxc ▸ Token.endsBefore_of_meets d hmeet hu hx

theorem Spaced.tail {t : Token} {ts : List Token} (h : Spaced (t :: ts)) : Spaced ts :=
  ⟨fun u hu => h.sound u (List.mem_cons_of_mem t hu), h.meets.tail⟩

theorem lex_spell (d : Dialect) {ts : List Token} (h : Spaced ts) :
    lex d (spell d ts) = some (lexemes ts) := by
  induction ts with
  | nil => exact lex_nil d
  | cons t ts ih =>
      have hrest := ih h.tail
      cases hgap : t.isGap with
      | true =>
          obtain rfl : t = .gap := by cases t <;> simp_all [Token.isGap]
          rw [spell_cons]
          change lex d (' ' :: spell d ts) = _
          rw [lex_blank, hrest]
          rfl
      | false =>
          have ht : t.sound = true := h.sound t (by simp)
          have hread := token?_chars d ht hgap (spell_head d h)
          obtain ⟨c, cs, hc, hblank⟩ := Token.chars_not_blank d ht hgap
          rw [hc, List.cons_append] at hread
          rw [spell_cons, hc, List.cons_append, lex_token hblank hread, hrest]
          simp [lexemes, hgap]

end Rostering.Sql
