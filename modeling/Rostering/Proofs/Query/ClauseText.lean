import Rostering.Proofs.Query.Operators

namespace Rostering.Query

structure Cut (segment : List Char) (op : Operator) (before after : List Char) : Prop where
  parts : segment = before ++ (op.token.toList ++ after)
  once : op.count segment = 1
  first : ∀ other ∈ op.earlier, other.count segment ≠ 1

theorem cutAt_eq_some_iff {segment before after : List Char} {op other : Operator} :
    cutAt segment op = some (other, before, after) ↔
      other = op ∧ segment = before ++ (op.token.toList ++ after) ∧ op.count segment = 1 := by
  constructor
  · intro h
    unfold cutAt at h
    split at h
    · rename_i field value hsplit
      simp only [Option.some.injEq, Prod.mk.injEq] at h
      obtain ⟨rfl, rfl, rfl⟩ := h
      have hparts := Text.intercalate_splitOn op.token_ne_nil segment
      have hlength := op.length_splitOn segment
      rw [hsplit] at hparts hlength
      refine ⟨rfl, ?_, by simpa using hlength.symm⟩
      rw [← hparts, List.intercalate_cons_of_ne_nil (List.cons_ne_nil value [])]
      simp [List.intercalate]
    · simp at h
  · rintro ⟨rfl, hparts, honce⟩
    rw [hparts] at honce
    simp [cutAt, hparts, Text.splitOn_of_tally_eq_one other.token_ne_nil honce]

theorem exists_cutAt {segment : List Char} {op : Operator} (h : op.count segment = 1) :
    cutAt segment op ≠ none := by
  have hlength := op.length_splitOn segment
  rw [h] at hlength
  obtain ⟨field, value, hsplit⟩ := List.length_eq_two.mp hlength
  simp [cutAt, hsplit]

theorem earlier_eq {op : Operator} {before after : List Operator}
    (h : Operator.priority = before ++ op :: after) : op.earlier = before := by
  have hnodup : Operator.priority.Nodup := by decide
  rw [h, List.nodup_append] at hnodup
  have hne : ∀ x ∈ before, x ≠ op := fun x hx => hnodup.2.2 x hx op (by simp)
  rw [Operator.earlier, h, List.takeWhile_append_of_pos (by simpa using hne)]
  simp

theorem findSome?_cutAt_iff {segment before after : List Char} {op : Operator} :
    Operator.priority.findSome? (cutAt segment) = some (op, before, after) ↔
      Cut segment op before after := by
  rw [List.findSome?_eq_some_iff]
  constructor
  · rintro ⟨pre, found, post, hpriority, hcut, hnone⟩
    obtain ⟨rfl, hparts, honce⟩ := cutAt_eq_some_iff.mp hcut
    refine ⟨hparts, honce, fun other hother hone => ?_⟩
    rw [earlier_eq hpriority] at hother
    exact exists_cutAt hone (hnone other hother)
  · rintro ⟨hparts, honce, hfirst⟩
    obtain ⟨pre, post, hpriority⟩ := List.append_of_mem op.mem_priority
    refine ⟨pre, op, post, hpriority, cutAt_eq_some_iff.mpr ⟨rfl, hparts, honce⟩, ?_⟩
    intro other hother
    rw [← earlier_eq hpriority] at hother
    cases hcut : cutAt segment other with
    | none => rfl
    | some cut =>
        obtain ⟨-, -, hone⟩ := cutAt_eq_some_iff.mp (show _ = some (cut.1, cut.2.1, cut.2.2) from hcut)
        exact absurd hone (hfirst other hother)

theorem Clause.parse_eq_ok_iff {segment : List Char} {c : Clause} :
    Clause.parse segment = .ok c ↔ ∃ before after, Cut segment c.operator before after ∧
      c.field.toList = Text.trim before ∧ c.field.toList ≠ [] ∧
        c.value.toList = unquote (Text.trim after) := by
  unfold Clause.parse
  cases hfind : Operator.priority.findSome? (cutAt segment) with
  | none =>
      refine ⟨fun h => by simp at h, ?_⟩
      rintro ⟨before, after, hcut, -⟩
      simp [findSome?_cutAt_iff.mpr hcut] at hfind
  | some cut =>
      obtain ⟨op, before, after⟩ := cut
      have hcut := findSome?_cutAt_iff.mp hfind
      by_cases hfield : Text.trim before = []
      · refine ⟨fun h => by simp [hfield] at h, ?_⟩
        rintro ⟨before', after', hcut', hbefore, hne, -⟩
        have heq := hfind.symm.trans (findSome?_cutAt_iff.mpr hcut')
        obtain ⟨-, rfl, -⟩ : op = c.operator ∧ before = before' ∧ after = after' := by simpa using heq
        exact absurd (hbefore.trans hfield) hne
      · simp only [List.isEmpty_iff, hfield, if_false, Except.ok.injEq]
        constructor
        · rintro rfl
          exact ⟨before, after, hcut, by simp, by simpa using hfield, by simp⟩
        · rintro ⟨before', after', hcut', hbefore, -, hafter⟩
          have heq := hfind.symm.trans (findSome?_cutAt_iff.mpr hcut')
          obtain ⟨rfl, rfl, rfl⟩ : op = c.operator ∧ before = before' ∧ after = after' := by
            simpa using heq
          rw [← hbefore, ← hafter]
          simp

namespace Operator

theorem count_around (other op : Operator) (before after : List Char) :
    other.count (before ++ (op.token.toList ++ after)) =
      other.count before + other.count op.token.toList + other.count after +
        other.bridges before op.token.toList + other.bridges op.token.toList after := by
  have hhead : (op.token.toList ++ after).head? = op.token.toList.head? := by
    cases op <;> rfl
  have hmeet : other.bridges before (op.token.toList ++ after) =
      other.bridges before op.token.toList := by
    simp only [bridges, hhead]
  rw [count_append, count_append, hmeet]
  omega

theorem count_earlier_token {op other : Operator} (h : other ∈ op.earlier) :
    other.count op.token.toList = 0 := by
  revert other
  cases op <;> decide

theorem count_token (op : Operator) : op.count op.token.toList = 1 := by
  cases op <;> decide

theorem eq_of_bridges_token {op other : Operator} {before : List Char}
    (h : other.bridges before op.token.toList ≠ 0) : op = .eq := by
  obtain ⟨x, -, -, hhead⟩ := bridges_ne_zero_iff.mp h
  cases op with
  | eq => rfl
  | notEq | gt | gte | lt | lte | contains => exact absurd hhead (by simp [token])

theorem token_of_token_bridges {op other : Operator} {after : List Char}
    (h : other.bridges op.token.toList after ≠ 0) :
    ∃ x, op.token.toList = [x] ∧ other.token.toList = [x, '='] := by
  obtain ⟨x, htoken, hlast, -⟩ := bridges_ne_zero_iff.mp h
  have hx := joinsEquals_of_token htoken
  refine ⟨x, ?_, htoken⟩
  cases op with
  | gt =>
      obtain rfl : '>' = x := by simpa [token] using hlast
      rfl
  | lt =>
      obtain rfl : '<' = x := by simpa [token] using hlast
      rfl
  | eq | notEq | gte | lte =>
      obtain rfl : '=' = x := by simpa [token] using hlast
      exact absurd hx (by decide)
  | contains =>
      obtain rfl : '~' = x := by simpa [token] using hlast
      exact absurd hx (by decide)

theorem count_le_eq {other : Operator} {x : Char} (h : other.token.toList = [x, '='])
    (cs : List Char) : other.count cs ≤ Operator.eq.count cs := by
  have hpair := Text.tally_pair_le_right x '=' cs
  rw [← h] at hpair
  exact Nat.le_of_add_right_le hpair

theorem count_le_of_token {op other : Operator} {x : Char} (hop : op.token.toList = [x])
    (h : other.token.toList = [x, '=']) (cs : List Char) : other.count cs ≤ op.count cs := by
  have hpair := Text.tally_pair_le_left x '=' cs
  rwa [← h, ← hop] at hpair

end Operator

namespace Cut

variable {segment before after : List Char} {op : Operator}

theorem count_eq_zero (h : Cut segment op before after) {other : Operator}
    (hother : other ∈ op.earlier) (hle : other.count segment ≤ op.count segment) :
    other.count segment = 0 := by
  have hone := h.once
  have hnot := h.first other hother
  omega

theorem bridges_eq_zero (h : Cut segment op before after) {other : Operator}
    (hother : other ∈ op :: op.earlier) :
    other.bridges before op.token.toList = 0 ∧ other.bridges op.token.toList after = 0 := by
  have hcount := other.count_around op before after
  rw [← h.parts] at hcount
  constructor
  · by_contra hne
    obtain ⟨x, htoken, -, -⟩ := Operator.bridges_ne_zero_iff.mp hne
    obtain rfl := Operator.eq_of_bridges_token hne
    rcases List.mem_cons.mp hother with rfl | hother
    · simp [Operator.token] at htoken
    · have hzero := h.count_eq_zero hother (Operator.count_le_eq htoken segment)
      omega
  · by_contra hne
    obtain ⟨x, hop, htoken⟩ := Operator.token_of_token_bridges hne
    rcases List.mem_cons.mp hother with rfl | hother
    · simp [hop] at htoken
    · have hzero := h.count_eq_zero hother (Operator.count_le_of_token hop htoken segment)
      omega

end Cut

theorem Clause.count_chars (other : Operator) (c : Clause) :
    other.count c.chars = other.count c.field.toList + other.count c.operator.token.toList +
      other.count c.value.toList + other.bridges c.field.toList c.operator.token.toList := by
  have hplain : ∀ x ∈ ['\''], isOperatorChar x = false :=
    List.forall_mem_singleton.mpr (by decide)
  have hquoted := other.count_framed c.value.toList hplain hplain
  have hmeet : other.bridges c.operator.token.toList ('\'' :: (c.value.toList ++ ['\''])) = 0 :=
    Operator.bridges_eq_zero_of_head (by simp) _
  rw [List.singleton_append] at hquoted
  rw [chars, Operator.count_around, hquoted, hmeet, Nat.add_zero]

theorem Clause.count_chars_of_parse {segment : List Char} {c : Clause}
    (h : Clause.parse segment = .ok c) {other : Operator}
    (hother : other ∈ c.operator :: c.operator.earlier) :
    other.count c.chars =
      other.count segment + other.bridges c.field.toList c.operator.token.toList := by
  obtain ⟨before, after, hcut, hfield, -, hvalue⟩ := Clause.parse_eq_ok_iff.mp h
  obtain ⟨hbefore, hafter⟩ := hcut.bridges_eq_zero hother
  rw [count_chars, hfield, hvalue, other.count_trim, other.count_unquote, other.count_trim,
    hcut.parts, Operator.count_around, hbefore, hafter]
  omega

def Clause.Blurred (c : Clause) : Prop :=
  c.operator = .eq ∧ ∃ x, c.field.toList.getLast? = some x ∧ joinsEquals x = true

theorem exists_earlier_token {x : Char} (h : joinsEquals x = true) :
    ∃ other ∈ Operator.eq.earlier, other.token.toList = [x, '='] := by
  simp only [joinsEquals, decide_eq_true_eq, List.mem_cons, List.not_mem_nil, or_false] at h
  rcases h with rfl | rfl | rfl
  · exact ⟨.notEq, by decide, rfl⟩
  · exact ⟨.lte, by decide, rfl⟩
  · exact ⟨.gte, by decide, rfl⟩

theorem Clause.parse_chars_of_cut {c : Clause} (htrim : Text.trim c.field.toList = c.field.toList)
    (hne : c.field.toList ≠ [])
    (hcut : Cut c.chars c.operator c.field.toList ('\'' :: (c.value.toList ++ ['\'']))) :
    Clause.parse c.chars = .ok c := by
  have hlast : ('\'' :: (c.value.toList ++ ['\''])).getLast? = some '\'' := by
    rw [← List.cons_append, List.getLast?_concat]
  have hquoted : Text.trim ('\'' :: (c.value.toList ++ ['\''])) =
      '\'' :: (c.value.toList ++ ['\'']) :=
    Text.trim_eq_self (by simp; decide) (by rw [hlast]; simp; decide)
  refine Clause.parse_eq_ok_iff.mpr ⟨_, _, hcut, htrim.symm, hne, ?_⟩
  rw [hquoted, unquote_enclosed (by simp)]

theorem Clause.parse_chars_of_not_blurred {segment : List Char} {c : Clause}
    (h : Clause.parse segment = .ok c) (hclear : ¬ c.Blurred) : Clause.parse c.chars = .ok c := by
  obtain ⟨before, after, hcut, hfield, hne, -⟩ := Clause.parse_eq_ok_iff.mp h
  have hcount {other : Operator} (hother : other ∈ c.operator :: c.operator.earlier) :
      other.count c.chars = other.count segment := by
    have hmeet : other.bridges c.field.toList c.operator.token.toList = 0 := by
      by_contra hne
      obtain ⟨x, htoken, hlast, -⟩ := Operator.bridges_ne_zero_iff.mp hne
      exact hclear ⟨Operator.eq_of_bridges_token hne, x, hlast,
        Operator.joinsEquals_of_token htoken⟩
    rw [count_chars_of_parse h hother, hmeet, Nat.add_zero]
  refine Clause.parse_chars_of_cut (by rw [hfield, Text.trim_trim]) hne ⟨rfl, ?_, ?_⟩
  · rw [hcount (by simp), hcut.once]
  · intro other hother
    rw [hcount (List.mem_cons_of_mem c.operator hother)]
    exact hcut.first other hother

theorem Clause.parse_chars_of_blurred {segment : List Char} {c : Clause}
    (h : Clause.parse segment = .ok c) (hblurred : c.Blurred) : Clause.parse c.chars ≠ .ok c := by
  obtain ⟨hop, x, hlast, hx⟩ := hblurred
  obtain ⟨other, hother, htoken⟩ := exists_earlier_token hx
  rw [← hop] at hother
  obtain ⟨before, after, hcut, -⟩ := Clause.parse_eq_ok_iff.mp h
  have hzero : other.count segment = 0 := by
    apply hcut.count_eq_zero hother
    rw [hop]
    exact Operator.count_le_eq htoken segment
  have hmeet : other.bridges c.field.toList c.operator.token.toList = 1 := by
    have hhead : Operator.eq.token.toList.head? = some '=' := rfl
    simp [hop, Operator.bridges, htoken, hlast, hhead]
  intro hparse
  obtain ⟨before', after', hcut', -⟩ := Clause.parse_eq_ok_iff.mp hparse
  apply hcut'.first other hother
  rw [count_chars_of_parse h (List.mem_cons_of_mem c.operator hother), hzero, hmeet]

theorem Clause.parse_chars_iff {segment : List Char} {c : Clause}
    (h : Clause.parse segment = .ok c) : Clause.parse c.chars = .ok c ↔ ¬ c.Blurred :=
  ⟨fun hparse hblurred => Clause.parse_chars_of_blurred h hblurred hparse,
    Clause.parse_chars_of_not_blurred h⟩

end Rostering.Query
