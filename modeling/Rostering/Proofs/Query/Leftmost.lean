import Rostering.Proofs.Query.RoundTrip

namespace Rostering.Query

structure LeftmostCut (segment : List Char) (op : Operator) (before after : List Char) : Prop where
  parts : segment = before ++ (op.token.toList ++ after)
  leftmost : before = segment.takeWhile fun c => !isOperatorChar c
  longest : ∀ other : Operator, other.token.toList <+: op.token.toList ++ after →
    other.token.toList.length ≤ op.token.toList.length

def Unquoted (text inner : List Char) : Prop :=
  (∃ quote ∈ ['\'', '"'], text = quote :: (inner ++ [quote])) ∨ (inner = text ∧ ¬ Enclosed text)

namespace Clause

def Clean (c : Clause) : Prop := ∀ x ∈ c.field.toList, isOperatorChar x = false

def ReadLeftmost (segment : List Char) (c : Clause) : Prop :=
  ∃ before after, LeftmostCut segment c.operator before after ∧
    c.field.toList = Text.trim before ∧ Unquoted (Text.trim after) c.value.toList

end Clause

theorem unquoted_unquote (text : List Char) : Unquoted text (unquote text) := by
  by_cases h : Enclosed text
  · obtain ⟨quote, hquote, inner, rfl⟩ := h
    rw [unquote_enclosed hquote]
    exact .inl ⟨quote, hquote, rfl⟩
  · exact .inr ⟨unquote_of_not_enclosed h, h⟩

namespace Operator

theorem bridges_of_longer {op other : Operator} {after : List Char}
    (h : other.token.toList <+: op.token.toList ++ after)
    (hlonger : op.token.toList.length < other.token.toList.length) :
    other ∈ op.earlier ∧ other.bridges op.token.toList after ≠ 0 := by
  have hlist : ∀ op other : Operator, op.token.toList <+: other.token.toList →
      op.token.toList.length < other.token.toList.length → other ∈ op.earlier ∧
        op.token.toList.length = 1 ∧ other.token.toList = op.token.toList ++ ['='] := by
    intro op other
    cases op <;> cases other <;> decide
  have hshort : op.token.toList <+: other.token.toList :=
    List.prefix_of_prefix_length_le (List.prefix_append _ after) h hlonger.le
  obtain ⟨hearlier, hone, htoken⟩ := hlist op other hshort hlonger
  obtain ⟨x, hx⟩ := List.length_eq_one_iff.mp hone
  rw [htoken, List.prefix_append_right_inj] at h
  obtain ⟨rest, rfl⟩ := h
  rw [hx] at htoken
  refine ⟨hearlier, bridges_ne_zero_iff.mpr ⟨x, htoken, ?_, rfl⟩⟩
  rw [hx]
  rfl

end Operator

theorem not_operatorChar_of_clean {before : List Char}
    (h : ∀ c ∈ Text.trim before, isOperatorChar c = false) :
    ∀ c ∈ before, isOperatorChar c = false := by
  obtain ⟨ws, ws', hws, hws', hbefore⟩ := Text.trim_parts before
  intro c hc
  rw [hbefore] at hc
  simp only [List.mem_append] at hc
  rcases hc with hc | hc | hc
  · exact Operator.isBlank_not_operator (hws c hc)
  · exact h c hc
  · exact Operator.isBlank_not_operator (hws' c hc)

theorem Cut.leftmostCut {segment before after : List Char} {op : Operator}
    (h : Cut segment op before after) (hclean : ∀ c ∈ before, isOperatorChar c = false) :
    LeftmostCut segment op before after := by
  refine ⟨h.parts, ?_, fun other hprefix => ?_⟩
  · obtain ⟨t, ts, htoken⟩ := List.exists_cons_of_ne_nil op.token_ne_nil
    have hmem : t ∈ op.token.toList := by simp [htoken]
    have ht := Operator.isOperatorChar_of_mem_token hmem
    rw [h.parts, htoken, List.cons_append,
      List.takeWhile_append_of_pos (by simpa using hclean), List.takeWhile_cons_of_neg (by simp [ht]),
      List.append_nil]
  · by_contra hlonger
    obtain ⟨hearlier, hbridges⟩ := Operator.bridges_of_longer hprefix (not_le.mp hlonger)
    exact hbridges (h.bridges_eq_zero (List.mem_cons_of_mem op hearlier)).2

theorem Clause.readLeftmost_of_parse {segment : List Char} {c : Clause}
    (h : Clause.parse segment = .ok c) (hclean : c.Clean) : c.ReadLeftmost segment := by
  obtain ⟨before, after, hcut, hfield, -, hvalue⟩ := Clause.parse_eq_ok_iff.mp h
  have hbefore : ∀ x ∈ before, isOperatorChar x = false := by
    apply not_operatorChar_of_clean
    rw [← hfield]
    exact hclean
  refine ⟨before, after, hcut.leftmostCut hbefore, hfield, ?_⟩
  rw [hvalue]
  exact unquoted_unquote _

theorem Clause.clean_of_allowed {c : Clause} {resource : Roster.Resource}
    (h : c.field ∈ (Roster.catalogue resource).filterable) : c.Clean := by
  intro x hx
  have hletter : x.isAlpha = true := List.all_eq_true.mp
    (Filter.allowed_letters resource c.field (List.mem_append_left _ h)) x hx
  exact Operator.not_operator_of_class (by decide) hletter

namespace Filter

theorem parse_reads_leftmost (s : String) (f : Filter) (h : parse s = .ok f) :
    (Text.Blank s.toList ∧ f = none ∨
      List.Forall₂ (fun segment c => c.Clean → c.ReadLeftmost segment)
        (Text.splitOn f.connective.token s.toList) f.clauses) ∧
      ∀ c ∈ f.clauses, (∃ resource, c.field ∈ (Roster.catalogue resource).filterable) →
        c.Clean := by
  constructor
  · cases hblank : s.toList.all Text.isBlank with
    | true =>
        left
        exact ⟨List.all_eq_true.mp hblank, Except.ok.inj (h.symm.trans (parse_of_blank hblank))⟩
    | false =>
        right
        obtain ⟨-, -, hclauses⟩ := (parseChars_eq_ok_iff hblank).mp h
        exact (forall₂_of_mapM_eq_ok hclauses).imp fun _ _ => Clause.readLeftmost_of_parse
  · rintro c - ⟨resource, hfield⟩
    exact Clause.clean_of_allowed hfield

theorem parsed_past_repeated_operators :
    parse "name ~ 'a<b<c=d=e' AND dateLastModified>=\"x=\"" = .ok ⟨.and,
      [⟨"name", .contains, "a<b<c=d=e"⟩, ⟨"dateLastModified", .gte, "x="⟩]⟩ ∧
    Clause.ReadLeftmost "name ~ 'a<b<c=d=e'".toList ⟨"name", .contains, "a<b<c=d=e"⟩ ∧
    Clause.ReadLeftmost "dateLastModified>=\"x=\"".toList ⟨"dateLastModified", .gte, "x="⟩ := by
  have hparse : parse "name ~ 'a<b<c=d=e' AND dateLastModified>=\"x=\"" = .ok ⟨.and,
      [⟨"name", .contains, "a<b<c=d=e"⟩, ⟨"dateLastModified", .gte, "x="⟩]⟩ := by decide
  obtain ⟨hread, hclean⟩ := parse_reads_leftmost _ _ hparse
  have hsegments : Text.splitOn Connective.and.token
      "name ~ 'a<b<c=d=e' AND dateLastModified>=\"x=\"".toList =
        ["name ~ 'a<b<c=d=e'".toList, "dateLastModified>=\"x=\"".toList] := by decide
  obtain ⟨hname, hdate⟩ := List.forall₂_cons.mp
    (hsegments ▸ hread.resolve_left fun hblank => absurd hblank.2 (by decide))
  refine ⟨hparse, hname (hclean _ (by simp) ⟨.orgs, by decide⟩), ?_⟩
  exact (List.forall₂_cons.mp hdate).1 (hclean _ (by simp) ⟨.orgs, by decide⟩)

end Filter
end Rostering.Query
