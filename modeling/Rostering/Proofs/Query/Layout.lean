import Rostering.Proofs.Query.RoundTrip
import Rostering.Proofs.Text.Words

namespace Rostering.Query

open Text (Stands)

abbrev Spaces := { cs : List Char // Text.Blank cs }

inductive Quotation where
  | single | double | bare
deriving DecidableEq, Repr

def Quotation.around : Quotation → List Char → List Char
  | .single, value => '\'' :: (value ++ ['\''])
  | .double, value => '"' :: (value ++ ['"'])
  | .bare, value => value

theorem mem_around {q : Quotation} {value : List Char} {c : Char} (h : c ∈ q.around value) :
    c ∈ ['\'', '"'] ∨ c ∈ value := by
  cases q with
  | single | double =>
      simp only [Quotation.around, List.mem_cons, List.mem_append, List.not_mem_nil,
        or_false] at h ⊢
      tauto
  | bare => exact .inr h

structure Clause.Plain (c : Clause) : Prop where
  named : c.field.toList ≠ []
  letters : ∀ x ∈ c.field.toList, x.isAlphanum = true
  noWord : ∀ d : Connective, c.field ≠ d.word
  noOperator : ∀ x ∈ c.value.toList, x ∉ ['=', '<', '>', '~']
  noWords : ∀ d : Connective, d.word.toList ∉ Text.pieces (· == ' ') c.value.toList

instance {p : Connective → Prop} [DecidablePred p] : Decidable (∀ d, p d) :=
  decidable_of_iff (p .and ∧ p .or) ⟨fun h d => by cases d; exacts [h.1, h.2], fun h => ⟨h _, h _⟩⟩

theorem Clause.plain_iff {c : Clause} : c.Plain ↔
    c.field.toList ≠ [] ∧ c.field.toList.all Char.isAlphanum = true ∧
      (∀ d : Connective, c.field ≠ d.word) ∧
      c.value.toList.all (· ∉ ['=', '<', '>', '~']) = true ∧
      ∀ d : Connective, d.word.toList ∉ Text.pieces (· == ' ') c.value.toList := by
  simp only [List.all_eq_true, decide_eq_true_eq]
  exact ⟨fun ⟨h1, h2, h3, h4, h5⟩ => ⟨h1, h2, h3, h4, h5⟩,
    fun ⟨h1, h2, h3, h4, h5⟩ => ⟨h1, h2, h3, h4, h5⟩⟩

instance (c : Clause) : Decidable c.Plain := decidable_of_iff _ Clause.plain_iff.symm

structure Written where
  clause : Clause
  plain : clause.Plain
  quotation : Quotation
  bare : quotation = .bare →
    Text.trim clause.value.toList = clause.value.toList ∧ ¬ Enclosed clause.value.toList
  beforeField : Spaces
  beforeToken : Spaces
  beforeValue : Spaces
  afterValue : Spaces

theorem isAlphanum_not_operator {c : Char} (h : c.isAlphanum = true) :
    isOperatorChar c = false :=
  Operator.not_operator_of_class (by decide) h

namespace Operator

theorem count_eq_zero_of_marks {op : Operator} {cs : List Char}
    (h : ∀ c ∈ cs, c ∉ ['=', '<', '>', '~']) : op.count cs = 0 := by
  have hany : op.token.toList.any (· ∈ ['=', '<', '>', '~']) = true := by cases op <;> decide
  obtain ⟨t, htoken, ht⟩ := List.any_eq_true.mp hany
  exact count_eq_zero_of_not_mem htoken fun hmem => h t hmem (of_decide_eq_true ht)

end Operator

namespace Connective

theorem isAlphanum_of_mem_word {d : Connective} {x : Char} (h : x ∈ d.word.toList) :
    x.isAlphanum = true := by
  have hall : d.word.toList.all Char.isAlphanum = true := by cases d <;> decide
  exact List.all_eq_true.mp hall x h

theorem word_ne_nil (d : Connective) : d.word.toList ≠ [] := by
  cases d <;> decide

theorem eq_of_word_eq {c d : Connective} (h : d.word.toList = c.word.toList) : d = c := by
  revert h
  cases c <;> cases d <;> decide

theorem not_mem_word {d : Connective} {x : Char} (h : x.isAlphanum = false) :
    x ∉ d.word.toList := by
  intro hmem
  rw [isAlphanum_of_mem_word hmem] at h
  contradiction

end Connective

theorem not_space_of_isAlphanum {c : Char} (h : c.isAlphanum = true) : (c == ' ') = false := by
  by_contra hspace
  obtain rfl : c = ' ' := by simpa using hspace
  exact absurd h (by decide)

theorem Spaces.not_mem_word (ws : Spaces) (d : Connective) : ∀ x ∈ ws.1, x ∉ d.word.toList := by
  intro x hx hword
  have hblank := Text.isBlank_of_isAlphanum (Connective.isAlphanum_of_mem_word hword)
  simp [ws.2 x hx] at hblank

namespace Written

def before (w : Written) : List Char :=
  w.beforeField.1 ++ (w.clause.field.toList ++ w.beforeToken.1)

def after (w : Written) : List Char :=
  w.beforeValue.1 ++ (w.quotation.around w.clause.value.toList ++ w.afterValue.1)

def chars (w : Written) : List Char := w.before ++ (w.clause.operator.token.toList ++ w.after)

theorem trim_around (w : Written) : Text.trim (w.quotation.around w.clause.value.toList) =
    w.quotation.around w.clause.value.toList := by
  have hquoted {quote : Char} (hquote : Text.isBlank quote = false) (value : List Char) :
      Text.trim (quote :: (value ++ [quote])) = quote :: (value ++ [quote]) := by
    apply Text.trim_eq_self
    · simpa using hquote
    · rw [← List.cons_append, List.getLast?_concat]
      simpa using hquote
  cases hq : w.quotation with
  | single => exact hquoted (by decide) _
  | double => exact hquoted (by decide) _
  | bare => exact (w.bare hq).1

theorem unquote_around (w : Written) :
    unquote (w.quotation.around w.clause.value.toList) = w.clause.value.toList := by
  cases hq : w.quotation with
  | single => exact unquote_enclosed (by simp) _
  | double => exact unquote_enclosed (by simp) _
  | bare => exact unquote_of_not_enclosed (w.bare hq).2

theorem before_not_operator (w : Written) : ∀ c ∈ w.before, isOperatorChar c = false := by
  intro c hc
  simp only [before, List.mem_append] at hc
  rcases hc with hc | hc | hc
  · exact Operator.isBlank_not_operator (w.beforeField.2 c hc)
  · exact isAlphanum_not_operator (w.plain.letters c hc)
  · exact Operator.isBlank_not_operator (w.beforeToken.2 c hc)

theorem after_not_mark (w : Written) : ∀ c ∈ w.after, c ∉ ['=', '<', '>', '~'] := by
  have hspaces {ws : Spaces} : ∀ c ∈ ws.1, c ∉ ['=', '<', '>', '~'] := by
    intro c hc hop
    have hplain := Operator.isBlank_not_operator (ws.2 c hc)
    simp only [isOperatorChar, decide_eq_false_iff_not] at hplain
    exact hplain (List.mem_cons_of_mem '!' hop)
  intro c hc
  simp only [after, List.mem_append] at hc
  rcases hc with hc | hc | hc
  · exact hspaces c hc
  · rcases mem_around hc with hquote | hvalue
    · simp only [List.mem_cons, List.not_mem_nil, or_false] at hquote
      rcases hquote with rfl | rfl <;> decide
    · exact w.plain.noOperator c hvalue
  · exact hspaces c hc

theorem count_chars (w : Written) (other : Operator) :
    other.count w.chars = other.count w.clause.operator.token.toList := by
  have hfront : other.bridges w.before w.clause.operator.token.toList = 0 := by
    apply Operator.bridges_eq_zero_of_last
    intro c hc
    have hplain := w.before_not_operator c (List.mem_of_getLast? hc)
    exact (Operator.joinsEquals_of_not_operator hplain).1
  have hback : other.bridges w.clause.operator.token.toList w.after = 0 := by
    apply Operator.bridges_eq_zero_of_head
    intro hhead
    exact w.after_not_mark '=' (List.mem_of_head? hhead) (by simp)
  rw [chars, Operator.count_around, Operator.count_eq_zero w.before_not_operator,
    Operator.count_eq_zero_of_marks w.after_not_mark, hfront, hback]
  omega

theorem parse_chars (w : Written) : Clause.parse w.chars = .ok w.clause := by
  have hfield : Text.trim w.clause.field.toList = w.clause.field.toList := by
    apply Text.trim_eq_self
    · intro c hc
      exact Text.isBlank_of_isAlphanum (w.plain.letters c (List.mem_of_head? hc))
    · intro c hc
      exact Text.isBlank_of_isAlphanum (w.plain.letters c (List.mem_of_getLast? hc))
  refine Clause.parse_eq_ok_iff.mpr ⟨_, _, ⟨rfl, ?_, ?_⟩, ?_, w.plain.named, ?_⟩
  · rw [w.count_chars, Operator.count_token]
  · intro other hother
    rw [w.count_chars, Operator.count_earlier_token hother]
    decide
  · rw [before, Text.trim_framed w.beforeField.2 w.beforeToken.2 hfield]
  · rw [after, Text.trim_framed w.beforeValue.2 w.afterValue.2 w.trim_around, w.unquote_around]

section words

variable (w : Written) (d : Connective)

theorem not_stands_before : ¬ Stands (· == ' ') d.word.toList w.before := by
  intro h
  have hfield := Stands.of_framed d.word_ne_nil (w.beforeField.not_mem_word d)
    (w.beforeToken.not_mem_word d) h
  have heq := hfield.eq_of_no_separator
    fun c hc => not_space_of_isAlphanum (w.plain.letters c hc)
  exact w.plain.noWord d (String.toList_inj.mp heq.symm)

theorem not_stands_around :
    ¬ Stands (· == ' ') d.word.toList (w.quotation.around w.clause.value.toList) := by
  have hvalue : ¬ Stands (· == ' ') d.word.toList w.clause.value.toList := by
    intro h
    have hword : ∀ c ∈ d.word.toList, (c == ' ') = false :=
      fun c hc => not_space_of_isAlphanum (Connective.isAlphanum_of_mem_word hc)
    exact w.plain.noWords d (Text.mem_pieces_of_stands hword h)
  have hquoted {quote : Char} (hquote : quote.isAlphanum = false) :
      ¬ Stands (· == ' ') d.word.toList (quote :: (w.clause.value.toList ++ [quote])) := by
    have hout : ∀ c ∈ [quote], c ∉ d.word.toList :=
      List.forall_mem_singleton.mpr (Connective.not_mem_word hquote)
    intro h
    exact hvalue (Stands.of_framed d.word_ne_nil hout hout h)
  cases w.quotation with
  | single => exact hquoted (by decide)
  | double => exact hquoted (by decide)
  | bare => exact hvalue

theorem not_stands : ¬ Stands (· == ' ') d.word.toList w.chars := by
  obtain ⟨t, ts, htoken⟩ := List.exists_cons_of_ne_nil w.clause.operator.token_ne_nil
  have hop : ∀ c ∈ w.clause.operator.token.toList, c ∉ d.word.toList := by
    intro c hc hword
    have hchar := isAlphanum_not_operator (Connective.isAlphanum_of_mem_word hword)
    rw [Operator.isOperatorChar_of_mem_token hc] at hchar
    contradiction
  rw [htoken] at hop
  intro h
  rw [chars, htoken, List.cons_append] at h
  -- The first character of the token belongs to no word, so a word stands on one side of it.
  rcases Stands.of_append_cons d.word_ne_nil (hop t (by simp)) h with h | h
  · exact w.not_stands_before d h
  · rw [after, ← List.append_assoc] at h
    refine w.not_stands_around d
      (Stands.of_framed d.word_ne_nil ?_ (w.afterValue.not_mem_word d) h)
    intro c hc
    rcases List.mem_append.mp hc with hc | hc
    · exact hop c (List.mem_cons_of_mem t hc)
    · exact w.beforeValue.not_mem_word d c hc

end words

end Written

theorem exists_stands_of_intercalate {c d : Connective} (hne : d ≠ c) {ps : List (List Char)}
    (h : Stands (· == ' ') d.word.toList (List.intercalate c.token ps)) :
    ∃ p ∈ ps, Stands (· == ' ') d.word.toList p := by
  have hspace : ' ' ∉ d.word.toList := Connective.not_mem_word (by decide)
  have hother : ¬ Stands (· == ' ') d.word.toList c.word.toList := by
    intro h
    have heq := h.eq_of_no_separator
      fun x hx => not_space_of_isAlphanum (Connective.isAlphanum_of_mem_word hx)
    exact hne (Connective.eq_of_word_eq heq)
  induction ps with
  | nil =>
      obtain ⟨x, xs, hx⟩ := List.exists_cons_of_ne_nil d.word_ne_nil
      have hmem : x ∈ d.word.toList := by simp [hx]
      exact absurd (h.subset hmem) (by simp [List.intercalate])
  | cons p ps ih =>
      cases ps with
      | nil => exact ⟨p, by simp, by simpa [List.intercalate] using h⟩
      | cons q qs =>
          rw [List.intercalate_cons_of_ne_nil (List.cons_ne_nil q qs), List.append_assoc,
            Connective.token, List.cons_append, List.append_assoc, List.singleton_append] at h
          rcases Stands.of_append_cons d.word_ne_nil hspace h with h | h
          · exact ⟨p, by simp, h⟩
          · obtain ⟨x, hx, hstands⟩ :=
              ih ((Stands.of_append_cons d.word_ne_nil hspace h).resolve_left hother)
            exact ⟨x, List.mem_cons_of_mem p hx, hstands⟩

namespace Filter

variable (connective : Connective)

theorem splitOn_written {ws : List Written} (hne : ws ≠ []) :
    Text.splitOn connective.token (List.intercalate connective.token (ws.map Written.chars)) =
      ws.map Written.chars := by
  have hlast : connective.token.dropLast = ' ' :: connective.word.toList := by
    cases connective <;> rfl
  apply Text.splitOn_intercalate connective.token_ne_nil (by simpa using hne)
  intro p hp hin
  obtain ⟨w, -, rfl⟩ := List.mem_map.mp hp
  rw [hlast] at hin
  exact w.not_stands connective
    (Text.stands_of_infix_append (Connective.not_mem_word (by decide)) hin)

theorem parseChars_written {ws : List Written} (hne : ws ≠ [])
    (hor : connective = .or → ws.tail ≠ []) :
    parseChars (List.intercalate connective.token (ws.map Written.chars)) =
      .ok ⟨connective, ws.map Written.clause⟩ := by
  obtain ⟨w, rest, rfl⟩ := List.exists_cons_of_ne_nil hne
  have hblank : (List.intercalate connective.token ((w :: rest).map Written.chars)).all
      Text.isBlank = false := by
    obtain ⟨x, xs, hx⟩ := List.exists_cons_of_ne_nil w.plain.named
    have hfield : x ∈ w.clause.field.toList := by simp [hx]
    have hfirst : w.chars <+: List.intercalate connective.token ((w :: rest).map Written.chars) :=
      Text.prefix_intercalate w.chars (rest.map Written.chars)
    have hmem : x ∈ w.chars := by simp [Written.chars, Written.before, hfield]
    exact List.all_eq_false.mpr ⟨x, hfirst.subset hmem,
      by simp [Text.isBlank_of_isAlphanum (w.plain.letters x hfield)]⟩
  refine (parseChars_eq_ok_iff hblank).mpr ⟨?_, ?_, ?_⟩
  · intro hin
    have hne : connective.other ≠ connective := by cases connective <;> simp [Connective.other]
    obtain ⟨p, hp, hstands⟩ := exists_stands_of_intercalate hne (Text.stands_of_infix hin)
    obtain ⟨v, -, rfl⟩ := List.mem_map.mp hp
    exact v.not_stands connective.other hstands
  · intro hconn
    obtain ⟨next, more, rfl⟩ := List.exists_cons_of_ne_nil (hor hconn)
    change connective.token <:+:
      List.intercalate connective.token (w.chars :: next.chars :: more.map Written.chars)
    rw [List.intercalate_cons_of_ne_nil (List.cons_ne_nil _ _)]
    exact ⟨w.chars, _, rfl⟩
  · rw [splitOn_written connective hne]
    apply mapM_eq_ok_of_forall₂
    rw [List.forall₂_map_left_iff, List.forall₂_map_right_iff, List.forall₂_same]
    exact fun v _ => v.parse_chars

theorem parse_written (ws : List Written) (hne : ws ≠ []) :
    parse (String.ofList (List.intercalate connective.token (ws.map Written.chars))) =
      .ok ⟨if ws.length = 1 then .and else connective, ws.map Written.clause⟩ := by
  rw [parse, String.toList_ofList]
  obtain ⟨w, rest, rfl⟩ := List.exists_cons_of_ne_nil hne
  cases rest with
  | nil => exact parseChars_written .and hne (by simp)
  | cons next rest =>
      rw [if_neg (by simp)]
      exact parseChars_written connective hne (by simp)

theorem parse_stray_quotes :
    parse "\u3000name\t!=\u00a0\"ORs 'n! \"  OR type~'AND" =
      .ok ⟨.or, [⟨"name", .notEq, "ORs 'n! "⟩, ⟨"type", .contains, "'AND"⟩]⟩ := by
  obtain ⟨ws, hchars, hclauses⟩ : ∃ ws : List Written,
      ws.map Written.chars = ["\u3000name\t!=\u00a0\"ORs 'n! \" ".toList, "type~'AND".toList] ∧
      ws.map Written.clause = [⟨"name", .notEq, "ORs 'n! "⟩, ⟨"type", .contains, "'AND"⟩] := by
    refine ⟨[⟨⟨"name", .notEq, "ORs 'n! "⟩, ?_, .double, nofun, ⟨['\u3000'], ?_⟩, ⟨['\t'], ?_⟩,
        ⟨['\u00a0'], ?_⟩, ⟨[' '], ?_⟩⟩,
      ⟨⟨"type", .contains, "'AND"⟩, ?_, .bare, fun _ => ?_, ⟨[], ?_⟩, ⟨[], ?_⟩, ⟨[], ?_⟩,
        ⟨[], ?_⟩⟩], ?_, ?_⟩
    all_goals decide
  have hlength : ws.length = 2 := by simpa using congrArg List.length hclauses
  have hread := parse_written .or ws (by rintro rfl; simp at hlength)
  rw [hchars, hclauses, hlength] at hread
  exact hread

end Filter
end Rostering.Query
