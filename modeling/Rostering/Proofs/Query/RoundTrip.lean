import Rostering.Proofs.Query.Checking
import Rostering.Proofs.Query.ClauseText

namespace Rostering.Query

open Roster (Catalogue Resource)

namespace Connective

def other : Connective → Connective
  | .and => .or
  | .or => .and

theorem eq_or_eq_other (c d : Connective) : d = c ∨ d = c.other := by
  cases c <;> cases d <;> simp [other]

def lead (c : Connective) : List Char := c.word.toList ++ [' ']

theorem token_ne_nil (c : Connective) : c.token ≠ [] := List.cons_ne_nil _ _

theorem not_operatorChar_of_mem_token (c : Connective) {x : Char} (h : x ∈ c.token) :
    isOperatorChar x = false := by
  have hall : c.token.all (fun x => !isOperatorChar x) = true := by cases c <;> decide
  simpa using List.all_eq_true.mp hall x h

theorem quote_not_mem_token (c : Connective) : '\'' ∉ c.token := by
  cases c <;> decide

theorem other_infix_token_append (c : Connective) (rest : List Char) :
    c.other.token <:+: c.token ++ rest ↔ c.other.lead <+: rest ∨ c.other.token <:+: rest := by
  have hspace : c.other.token <:+: ' ' :: rest ↔
      c.other.lead <+: rest ∨ c.other.token <:+: rest := by
    rw [List.infix_cons_iff, token, List.cons_prefix_cons]
    simp [lead]
  rw [← hspace]
  cases c with
  | and =>
      have hparted : Connective.or.token <:+: [' ', 'A', 'N'] ++ 'D' :: ' ' :: rest ↔
          Connective.or.token <:+: [' ', 'A', 'N'] ∨ Connective.or.token <:+: ' ' :: rest :=
        Text.infix_append_cons_iff (by decide)
      have hstart : ¬ Connective.or.token <:+: [' ', 'A', 'N'] := by decide
      exact hparted.trans (or_iff_right hstart)
  | or =>
      have hparted : Connective.and.token <:+: [' ', 'O'] ++ 'R' :: ' ' :: rest ↔
          Connective.and.token <:+: [' ', 'O'] ∨ Connective.and.token <:+: ' ' :: rest :=
        Text.infix_append_cons_iff (by decide)
      have hstart : ¬ Connective.and.token <:+: [' ', 'O'] := by decide
      exact hparted.trans (or_iff_right hstart)

end Connective

namespace Clause

theorem exists_chars_eq (c : Clause) : ∃ t ts, isOperatorChar t = true ∧
    (∀ x ∈ ts, isOperatorChar x = true) ∧
      c.chars = c.field.toList ++ t :: (ts ++ '\'' :: (c.value.toList ++ ['\''])) := by
  obtain ⟨t, ts, hts⟩ := List.exists_cons_of_ne_nil c.operator.token_ne_nil
  have hop : ∀ x ∈ c.operator.token.toList, isOperatorChar x = true :=
    fun _ => Operator.isOperatorChar_of_mem_token
  rw [hts] at hop
  exact ⟨t, ts, hop t (by simp), fun x hx => hop x (List.mem_cons_of_mem t hx), by
    rw [chars, hts, List.cons_append]⟩

theorem exists_chars_quoted (c : Clause) : ∃ init, c.chars = init ++ ['\''] :=
  ⟨c.field.toList ++ (c.operator.token.toList ++ '\'' :: c.value.toList), by simp [chars]⟩

theorem not_infix_chars_of_parts {c : Clause} {connective : Connective}
    (hfield : ¬ connective.token <:+: c.field.toList)
    (hvalue : ¬ connective.token <:+: c.value.toList) : ¬ connective.token <:+: c.chars := by
  obtain ⟨t, ts, ht, hts, hchars⟩ := c.exists_chars_eq
  have hnot {x : Char} (hx : isOperatorChar x = true) : x ∉ connective.token := by
    intro hmem
    simp [connective.not_operatorChar_of_mem_token hmem] at hx
  have htsfree : ¬ connective.token <:+: ts := by
    intro hin
    obtain ⟨y, ys, hy⟩ := List.exists_cons_of_ne_nil connective.token_ne_nil
    have hmem : y ∈ connective.token := by simp [hy]
    exact hnot (hts y (hin.subset hmem)) hmem
  have hquote := connective.quote_not_mem_token
  rw [hchars, Text.infix_append_cons_iff (hnot ht), Text.infix_append_cons_iff hquote,
    Text.infix_append_cons_iff hquote, List.infix_nil]
  simp [hfield, htsfree, hvalue, connective.token_ne_nil]

theorem not_infix_chars {segment : List Char} {c : Clause} (h : Clause.parse segment = .ok c)
    {connective : Connective} (hfree : ¬ connective.token <:+: segment) :
    ¬ connective.token <:+: c.chars := by
  obtain ⟨before, after, hcut, hfield, -, hvalue⟩ := Clause.parse_eq_ok_iff.mp h
  apply not_infix_chars_of_parts
  · intro hin
    apply hfree
    have hpart := hin.trans (hfield ▸ Text.trim_infix before)
    rw [hcut.parts]
    exact hpart.trans (List.prefix_append before _).isInfix
  · intro hin
    apply hfree
    have hpart := hin.trans (hvalue ▸ (unquote_infix_self _).trans (Text.trim_infix after))
    rw [hcut.parts]
    exact hpart.trans ⟨before ++ c.operator.token.toList, [], by simp⟩

theorem lead_prefix_chars_iff (connective : Connective) (c : Clause) :
    connective.lead <+: c.chars ↔ connective.lead <+: c.field.toList := by
  obtain ⟨t, ts, ht, -, hchars⟩ := c.exists_chars_eq
  have hnot : t ∉ connective.lead := by
    intro hmem
    have hchar := connective.not_operatorChar_of_mem_token (List.mem_cons_of_mem ' ' hmem)
    simp [ht] at hchar
  rw [hchars, Text.prefix_append_cons_iff hnot]

end Clause

namespace Filter

/-- The filters that are read back from their own text: no field runs together with its operator,
and none of a later clause begins like the connective that the filter does not use. -/
structure Legible (f : Filter) : Prop where
  clear : ∀ c ∈ f.clauses, ¬ c.Blurred
  unmixed : ∀ c ∈ f.clauses.tail, ¬ f.connective.other.lead <+: c.field.toList

theorem parseChars_eq_ok_iff {cs : List Char} (h : cs.all Text.isBlank = false) {f : Filter} :
    parseChars cs = .ok f ↔ ¬ f.connective.other.token <:+: cs ∧
      (f.connective = .or → f.connective.token <:+: cs) ∧
        (Text.splitOn f.connective.token cs).mapM Clause.parse = .ok f.clauses := by
  obtain ⟨connective, clauses⟩ := f
  rw [← Text.occursIn_iff connective.other.token_ne_nil, ← Text.occursIn_iff connective.token_ne_nil]
  unfold parseChars
  cases hasAnd : Text.occursIn Connective.and.token cs with
  | false =>
      cases hasOr : Text.occursIn Connective.or.token cs with
      | false =>
          cases hmapM : (Text.splitOn Connective.and.token cs).mapM Clause.parse <;>
            cases connective <;> simp [h, hasAnd, hasOr, hmapM, Connective.other]
      | true =>
          cases hmapM : (Text.splitOn Connective.or.token cs).mapM Clause.parse <;>
            cases connective <;> simp [h, hasAnd, hasOr, hmapM, Connective.other]
  | true =>
      cases hasOr : Text.occursIn Connective.or.token cs with
      | false =>
          cases hmapM : (Text.splitOn Connective.and.token cs).mapM Clause.parse <;>
            cases connective <;> simp [h, hasAnd, hasOr, hmapM, Connective.other]
      | true => cases connective <;> simp [h, hasAnd, hasOr, Connective.other]

theorem other_infix_intercalate_iff (connective : Connective) {c : Clause} {cs : List Clause}
    (h : ∀ x ∈ c :: cs, ¬ connective.other.token <:+: x.chars) :
    connective.other.token <:+: List.intercalate connective.token ((c :: cs).map Clause.chars) ↔
      ∃ x ∈ cs, connective.other.lead <+: x.field.toList := by
  induction cs generalizing c with
  | nil => simpa [List.intercalate] using h c (by simp)
  | cons next rest ih =>
      have hrest := ih fun x hx => h x (List.mem_cons_of_mem c hx)
      obtain ⟨init, hinit⟩ := c.exists_chars_quoted
      have hfree : ¬ connective.other.token <:+: init := fun hin =>
        h c (by simp) (hinit ▸ hin.trans (List.prefix_append init ['\'']).isInfix)
      have hstart : connective.other.lead <+:
          List.intercalate connective.token ((next :: rest).map Clause.chars) ↔
            connective.other.lead <+: next.field.toList := by
        obtain ⟨init, hinit⟩ := next.exists_chars_quoted
        obtain ⟨more, hmore⟩ : next.chars <+:
            List.intercalate connective.token (next.chars :: rest.map Clause.chars) :=
          Text.prefix_intercalate _ _
        have hquote : '\'' ∉ connective.other.lead := fun hmem =>
          connective.other.quote_not_mem_token (List.mem_cons_of_mem ' ' hmem)
        rw [List.map_cons, ← hmore, ← Clause.lead_prefix_chars_iff, hinit, List.append_assoc,
          List.singleton_append, Text.prefix_append_cons_iff hquote,
          Text.prefix_append_cons_iff hquote]
      rw [List.map_cons, List.intercalate_cons_of_ne_nil (by simp), hinit, List.append_assoc,
        List.append_assoc, List.singleton_append,
        Text.infix_append_cons_iff connective.other.quote_not_mem_token, or_iff_right hfree,
        Connective.other_infix_token_append, hstart, hrest]
      simp

theorem splitOn_chars {f : Filter} (hne : f.clauses ≠ [])
    (h : ∀ c ∈ f.clauses, ¬ f.connective.token <:+: c.chars) :
    Text.splitOn f.connective.token f.chars = f.clauses.map Clause.chars := by
  apply Text.splitOn_intercalate f.connective.token_ne_nil (by simpa using hne)
  intro p hp
  obtain ⟨c, hc, rfl⟩ := List.mem_map.mp hp
  obtain ⟨init, hinit⟩ := c.exists_chars_quoted
  rw [hinit, List.append_assoc, List.singleton_append,
    Text.infix_append_cons_iff f.connective.quote_not_mem_token, not_or]
  constructor
  · exact fun hin => h c hc (hinit ▸ hin.trans (List.prefix_append init ['\'']).isInfix)
  · intro hin
    have hlength := hin.length_le
    have hpos := List.length_pos_of_ne_nil f.connective.token_ne_nil
    rw [List.length_dropLast] at hlength
    omega

theorem parse_segments {s : String} {f : Filter} (h : parse s = .ok f) : f = none ∨
    f.clauses ≠ [] ∧ (f.connective = .or → f.clauses.tail ≠ []) ∧ ∀ c ∈ f.clauses, ∃ segment,
      Clause.parse segment = .ok c ∧ ∀ connective : Connective, ¬ connective.token <:+: segment := by
  cases hblank : s.toList.all Text.isBlank with
  | true => exact .inl (Except.ok.inj (h.symm.trans (parse_of_blank hblank)))
  | false =>
      obtain ⟨hother, hor, hclauses⟩ := (parseChars_eq_ok_iff hblank).mp h
      have hall := forall₂_of_mapM_eq_ok hclauses
      have hlength := hall.length_eq
      refine .inr ⟨?_, fun hconn => ?_, fun c hc => ?_⟩
      · have hne := List.length_pos_of_ne_nil (Text.splitOn_ne_nil f.connective.token s.toList)
        exact List.ne_nil_of_length_pos (by omega)
      · have hmany := Text.one_lt_length_splitOn f.connective.token_ne_nil (hor hconn)
        exact List.ne_nil_of_length_pos (by rw [List.length_tail]; omega)
      · obtain ⟨segment, hsegment, hparse⟩ := exists_of_mem_forall₂ hall hc
        have hin := Text.infix_of_mem_splitOn f.connective.token_ne_nil hsegment
        refine ⟨segment, hparse, fun connective hfound => ?_⟩
        rcases f.connective.eq_or_eq_other connective with rfl | rfl
        · exact Text.not_infix_of_mem_splitOn f.connective.token_ne_nil hsegment hfound
        · exact hother (hfound.trans hin)

theorem mapM_chars_iff (cs : List Clause) :
    (cs.map Clause.chars).mapM Clause.parse = .ok cs ↔
      ∀ c ∈ cs, Clause.parse c.chars = .ok c := by
  have hsame : (∀ c ∈ cs, Clause.parse c.chars = .ok c) ↔
      List.Forall₂ (fun segment c => Clause.parse segment = .ok c) (cs.map Clause.chars) cs := by
    rw [List.forall₂_map_left_iff, List.forall₂_same]
  rw [hsame]
  exact ⟨forall₂_of_mapM_eq_ok, mapM_eq_ok_of_forall₂⟩

theorem parse_text_of_clauses {f : Filter} (hne : f.clauses ≠ [])
    (hor : f.connective = .or → f.clauses.tail ≠ []) (hread : ∀ c ∈ f.clauses, ∃ segment,
      Clause.parse segment = .ok c ∧ ∀ connective : Connective, ¬ connective.token <:+: segment) :
    parse f.text = .ok f ↔ f.Legible := by
  obtain ⟨c, cs, hcs⟩ := List.exists_cons_of_ne_nil hne
  have hchars : f.chars = List.intercalate f.connective.token ((c :: cs).map Clause.chars) := by
    rw [chars, hcs]
  have hfree (connective : Connective) : ∀ x ∈ f.clauses, ¬ connective.token <:+: x.chars := by
    intro x hx
    obtain ⟨segment, hparse, hsegment⟩ := hread x hx
    exact Clause.not_infix_chars hparse (hsegment connective)
  have hblank : f.chars.all Text.isBlank = false := by
    obtain ⟨init, hinit⟩ := c.exists_chars_quoted
    have hin : c.chars <+: f.chars := hchars ▸ Text.prefix_intercalate c.chars (cs.map Clause.chars)
    exact List.all_eq_false.mpr ⟨'\'', hin.subset (by simp [hinit]), by decide⟩
  -- An `or` that no clause is left to be joined by would be read back as an `and`.
  have hused : f.connective = .or → f.connective.token <:+: f.chars := by
    intro hconn
    obtain ⟨next, rest, rfl⟩ := List.exists_cons_of_ne_nil (by simpa [hcs] using hor hconn)
    rw [hchars, List.map_cons, List.intercalate_cons_of_ne_nil (by simp)]
    exact ⟨c.chars, _, rfl⟩
  have hother := other_infix_intercalate_iff f.connective (hcs ▸ hfree f.connective.other)
  rw [← hchars] at hother
  have hclear : (f.clauses.map Clause.chars).mapM Clause.parse = .ok f.clauses ↔
      ∀ x ∈ f.clauses, ¬ x.Blurred := by
    rw [mapM_chars_iff]
    refine forall₂_congr fun x hx => ?_
    obtain ⟨segment, hparse, -⟩ := hread x hx
    exact Clause.parse_chars_iff hparse
  rw [parse, text, String.toList_ofList, parseChars_eq_ok_iff hblank,
    splitOn_chars hne (hfree f.connective), hclear, hother]
  constructor
  · rintro ⟨hunmixed, -, hclear⟩
    exact ⟨hclear, fun x hx hlead => hunmixed ⟨x, by simpa [hcs] using hx, hlead⟩⟩
  · rintro ⟨hclear, hunmixed⟩
    refine ⟨?_, hused, hclear⟩
    rintro ⟨x, hx, hlead⟩
    exact hunmixed x (by simpa [hcs] using hx) hlead

theorem allowed_letters (resource : Resource) :
    ∀ field ∈ (Roster.catalogue resource).filterable ++ (Roster.catalogue resource).selectable,
      field.toList.all Char.isAlpha = true := by
  cases resource <;> decide

theorem legible_of_allowed {f : Filter} (h : ∀ c ∈ f.clauses, ∃ resource,
    c.field ∈ (Roster.catalogue resource).filterable ∨
      c.field ∈ (Roster.catalogue resource).selectable) : f.Legible := by
  have hletters : ∀ c ∈ f.clauses, ∀ x ∈ c.field.toList, x.isAlpha = true := by
    intro c hc
    obtain ⟨resource, hfield⟩ := h c hc
    exact List.all_eq_true.mp (allowed_letters resource c.field (List.mem_append.mpr hfield))
  constructor
  · rintro c hc ⟨-, x, hlast, hx⟩
    have hletter := hletters c hc x (List.mem_of_getLast? hlast)
    simp only [joinsEquals, decide_eq_true_eq, List.mem_cons, List.not_mem_nil, or_false] at hx
    rcases hx with rfl | rfl | rfl <;> exact absurd hletter (by decide)
  · intro c hc hlead
    have hspace : ' ' ∈ c.field.toList := hlead.subset (by simp [Connective.lead])
    exact absurd (hletters c (List.mem_of_mem_tail hc) ' ' hspace) (by decide)

theorem parse_text_iff (s : String) (f : Filter) (h : parse s = .ok f) :
    (parse f.text = .ok f ↔ f.Legible) ∧
      ((∀ c ∈ f.clauses, ∃ resource, c.field ∈ (Roster.catalogue resource).filterable ∨
        c.field ∈ (Roster.catalogue resource).selectable) → parse f.text = .ok f) := by
  have hiff : parse f.text = .ok f ↔ f.Legible := by
    rcases parse_segments h with rfl | ⟨hne, hor, hread⟩
    · exact ⟨fun _ => ⟨by simp [none], by simp [none]⟩, fun _ => rfl⟩
    · exact parse_text_of_clauses hne hor hread
  exact ⟨hiff, fun hallowed => hiff.mpr (legible_of_allowed hallowed)⟩

theorem quoted_names_reread :
    parse "name~\"'it's'\" OR type!=OR" =
      .ok ⟨.or, [⟨"name", .contains, "'it's'"⟩, ⟨"type", .notEq, "OR"⟩]⟩ ∧
    parse "name~''it's'' OR type!='OR'" =
      .ok ⟨.or, [⟨"name", .contains, "'it's'"⟩, ⟨"type", .notEq, "OR"⟩]⟩ ∧
    parse "name! = x" = .ok ⟨.and, [⟨"name!", .eq, "x"⟩]⟩ ∧
    parse "name!='x'" ≠ .ok ⟨.and, [⟨"name!", .eq, "x"⟩]⟩ := by
  have hallowed := parse_text_iff "name~\"'it's'\" OR type!=OR"
    ⟨.or, [⟨"name", .contains, "'it's'"⟩, ⟨"type", .notEq, "OR"⟩]⟩ (by decide)
  have hblurred := parse_text_iff "name! = x" ⟨.and, [⟨"name!", .eq, "x"⟩]⟩ (by decide)
  refine ⟨by decide, hallowed.2 ?_, by decide, fun hsame => ?_⟩
  · intro c hc
    exact ⟨.orgs, .inl ((by decide : ∀ c ∈ ([⟨"name", .contains, "'it's'"⟩,
      ⟨"type", .notEq, "OR"⟩] : List Clause), c.field ∈ (Roster.catalogue .orgs).filterable) c hc)⟩
  · have hjoined : Clause.Blurred ⟨"name!", .eq, "x"⟩ := ⟨rfl, '!', by decide, rfl⟩
    exact (hblurred.1.mp hsame).clear ⟨"name!", .eq, "x"⟩ (by simp) hjoined

end Filter
end Rostering.Query
