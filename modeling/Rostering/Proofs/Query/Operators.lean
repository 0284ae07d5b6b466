import Rostering.Proofs.Text.Splitting
import Rostering.Proofs.Text.Trimming
import Rostering.Query.Filter

namespace Rostering

namespace Text

theorem tally_singleton_append (x : Char) (as bs : List Char) :
    tally [x] (as ++ bs) = tally [x] as + tally [x] bs := by
  induction as with
  | nil => simp [tally]
  | cons a as ih =>
      have hp : [x].isPrefixOf (a :: (as ++ bs)) = [x].isPrefixOf (a :: as) := rfl
      rw [List.cons_append, tally, tally, ih, hp, Nat.add_assoc]

theorem pair_prefix_cons_iff {x y a : Char} {bs : List Char} :
    [x, y] <+: a :: bs ↔ a = x ∧ bs.head? = some y := by
  cases bs with
  | nil => simp [List.cons_prefix_cons]
  | cons b bs => simp [List.cons_prefix_cons, eq_comm]

theorem tally_pair_cons (x y a : Char) (bs : List Char) :
    tally [x, y] (a :: bs) =
      (if a = x ∧ bs.head? = some y then 1 else 0) + tally [x, y] bs := by
  by_cases h : a = x ∧ bs.head? = some y
  · rw [tally_cons_of_prefixed (pair_prefix_cons_iff.mpr h), if_pos h, Nat.add_comm]
  · rw [tally_cons_of_not_prefixed (mt pair_prefix_cons_iff.mp h), if_neg h, Nat.zero_add]

theorem tally_pair_append (x y : Char) (as bs : List Char) :
    tally [x, y] (as ++ bs) = tally [x, y] as + tally [x, y] bs +
      if as.getLast? = some x ∧ bs.head? = some y then 1 else 0 := by
  induction as with
  | nil => simp [tally]
  | cons a as ih =>
      rw [List.cons_append, tally_pair_cons, tally_pair_cons, ih]
      cases as with
      | nil => simp [tally, Nat.add_comm]
      | cons c cs =>
          rw [List.cons_append, List.head?_cons, List.head?_cons, List.getLast?_cons_cons]
          omega

theorem tally_pair_le_left (x y : Char) (cs : List Char) : tally [x, y] cs ≤ tally [x] cs := by
  induction cs with
  | nil => exact Nat.le_refl _
  | cons c cs ih =>
      rw [tally_pair_cons]
      by_cases hc : c = x
      · subst hc
        rw [tally_cons_of_prefixed (by simp [List.cons_prefix_cons])]
        split <;> omega
      · rw [tally_cons_of_not_prefixed (by simpa [List.cons_prefix_cons, eq_comm] using hc)]
        simp [hc, ih]

-- each occurrence of the pair has its own second character, and none of these comes first
theorem tally_pair_le_right (x y : Char) (cs : List Char) :
    tally [x, y] cs + (if cs.head? = some y then 1 else 0) ≤ tally [y] cs := by
  induction cs with
  | nil => simp [tally]
  | cons c cs ih =>
      have hfirst : (if c = x ∧ cs.head? = some y then 1 else 0) ≤
          (if cs.head? = some y then 1 else 0) := by
        split <;> split <;> simp_all
      simp only [tally_pair_cons, List.head?_cons, Option.some.injEq]
      by_cases hc : c = y
      · subst hc
        rw [tally_cons_of_prefixed (by simp [List.cons_prefix_cons]), if_pos rfl]
        omega
      · rw [tally_cons_of_not_prefixed (by simpa [List.cons_prefix_cons, eq_comm] using hc),
          if_neg hc]
        omega

end Text

namespace Query

open Text (tally Blank)

def isOperatorChar (c : Char) : Bool := c ∈ ['!', '=', '<', '>', '~']

def joinsEquals (c : Char) : Bool := c ∈ ['!', '<', '>']

namespace Operator

def count (op : Operator) (cs : List Char) : Nat := tally op.token.toList cs

def bridges (op : Operator) (as bs : List Char) : Nat :=
  match op.token.toList with
  | [x, y] => if as.getLast? = some x ∧ bs.head? = some y then 1 else 0
  | _ => 0

def earlier (op : Operator) : List Operator := priority.takeWhile (· ≠ op)

theorem count_append (op : Operator) (as bs : List Char) :
    op.count (as ++ bs) = op.count as + op.count bs + op.bridges as bs := by
  cases op
  case eq | gt | lt | contains => exact Text.tally_singleton_append _ as bs
  case notEq | gte | lte => exact Text.tally_pair_append _ _ as bs

theorem count_token_append (op : Operator) (cs : List Char) :
    op.count (op.token.toList ++ cs) = op.count cs + 1 := by
  cases op <;> simp [count, token, Text.tally, List.isPrefixOf, Nat.add_comm]

theorem isOperatorChar_of_mem_token {op : Operator} {x : Char} (h : x ∈ op.token.toList) :
    isOperatorChar x = true := by
  have hall : op.token.toList.all isOperatorChar = true := by cases op <;> decide
  exact List.all_eq_true.mp hall x h

theorem length_splitOn (op : Operator) (cs : List Char) :
    (Text.splitOn op.token.toList cs).length = op.count cs + 1 :=
  Text.length_splitOn op.token_ne_nil op.count_token_append cs

theorem bridges_ne_zero_iff {op : Operator} {as bs : List Char} : op.bridges as bs ≠ 0 ↔
    ∃ x, op.token.toList = [x, '='] ∧ as.getLast? = some x ∧ bs.head? = some '=' := by
  cases op <;> simp [bridges, token]

theorem joinsEquals_of_token {op : Operator} {x : Char} (h : op.token.toList = [x, '=']) :
    joinsEquals x = true := by
  cases op <;> simp [token] at h <;> subst h <;> rfl

theorem bridges_eq_zero_of_last {op : Operator} {as : List Char}
    (h : ∀ c, as.getLast? = some c → joinsEquals c = false) (bs : List Char) :
    op.bridges as bs = 0 := by
  by_contra hne
  obtain ⟨x, htoken, hlast, -⟩ := bridges_ne_zero_iff.mp hne
  have hx := joinsEquals_of_token htoken
  simp [h x hlast] at hx

theorem bridges_eq_zero_of_head {op : Operator} {bs : List Char} (h : bs.head? ≠ some '=')
    (as : List Char) : op.bridges as bs = 0 := by
  by_contra hne
  obtain ⟨x, -, -, hhead⟩ := bridges_ne_zero_iff.mp hne
  exact h hhead

theorem count_eq_zero_of_not_mem {op : Operator} {x : Char} (hx : x ∈ op.token.toList)
    {cs : List Char} (h : x ∉ cs) : op.count cs = 0 := by
  rw [count, Text.tally_eq_zero_iff op.token_ne_nil]
  exact fun hin => h (hin.subset hx)

theorem count_eq_zero {op : Operator} {cs : List Char} (h : ∀ c ∈ cs, isOperatorChar c = false) :
    op.count cs = 0 := by
  obtain ⟨t, ts, ht⟩ := List.exists_cons_of_ne_nil op.token_ne_nil
  have htoken : t ∈ op.token.toList := by simp [ht]
  refine count_eq_zero_of_not_mem htoken fun hmem => ?_
  have hchar := isOperatorChar_of_mem_token htoken
  simp [h t hmem] at hchar

theorem not_operator_of_class {p : Char → Bool}
    (hclass : ['!', '=', '<', '>', '~'].all (fun c => !p c) = true) {c : Char} (h : p c = true) :
    isOperatorChar c = false := by
  by_contra hop
  rw [Bool.not_eq_false, isOperatorChar, decide_eq_true_eq] at hop
  have hnot := List.all_eq_true.mp hclass c hop
  simp [h] at hnot

theorem isBlank_not_operator {c : Char} (h : Text.isBlank c = true) :
    isOperatorChar c = false :=
  not_operator_of_class (by decide) h

theorem joinsEquals_of_not_operator {c : Char} (h : isOperatorChar c = false) :
    joinsEquals c = false ∧ c ≠ '=' := by
  simp only [isOperatorChar, joinsEquals, decide_eq_false_iff_not, List.mem_cons,
    List.not_mem_nil, or_false, not_or] at h ⊢
  exact ⟨⟨h.1, h.2.2.1, h.2.2.2.1⟩, h.2.1⟩

theorem count_framed (op : Operator) {as bs : List Char} (cs : List Char)
    (has : ∀ c ∈ as, isOperatorChar c = false) (hbs : ∀ c ∈ bs, isOperatorChar c = false) :
    op.count (as ++ (cs ++ bs)) = op.count cs := by
  have hlast : op.bridges as (cs ++ bs) = 0 := bridges_eq_zero_of_last
    (fun c hc => (joinsEquals_of_not_operator (has c (List.mem_of_getLast? hc))).1) _
  have hhead : op.bridges cs bs = 0 := bridges_eq_zero_of_head
    (fun heq => (joinsEquals_of_not_operator (hbs '=' (List.mem_of_head? heq))).2 rfl) _
  rw [count_append, count_append, hlast, hhead, count_eq_zero has, count_eq_zero hbs]
  omega

theorem count_trim (op : Operator) (cs : List Char) : op.count (Text.trim cs) = op.count cs := by
  obtain ⟨ws, ws', hws, hws', hcs⟩ := Text.trim_parts cs
  have hframed := op.count_framed (Text.trim cs) (fun c hc => isBlank_not_operator (hws c hc))
    (fun c hc => isBlank_not_operator (hws' c hc))
  rw [← hframed, ← hcs]

end Operator

theorem isQuotedBy_iff {quote : Char} {cs : List Char} :
    isQuotedBy quote cs = true ↔ ∃ inner, cs = quote :: (inner ++ [quote]) := by
  constructor
  · intro h
    simp only [isQuotedBy, Bool.and_eq_true, decide_eq_true_eq, beq_iff_eq] at h
    obtain ⟨⟨hlen, hhead⟩, hlast⟩ := h
    cases cs with
    | nil => simp at hhead
    | cons c cs =>
        obtain rfl : c = quote := by simpa using hhead
        have hne : cs ≠ [] := by
          rintro rfl
          simp at hlen
        obtain ⟨inner, rfl⟩ := List.getLast?_eq_some_iff.mp
          ((List.getLast?_cons_of_ne_nil hne).symm.trans hlast)
        exact ⟨inner, rfl⟩
  · rintro ⟨inner, rfl⟩
    have hlast : (quote :: (inner ++ [quote])).getLast? = some quote := by
      rw [← List.cons_append, List.getLast?_concat]
    simp [isQuotedBy, hlast]

theorem unquote_enclosed {quote : Char} (h : quote ∈ ['\'', '"']) (inner : List Char) :
    unquote (quote :: (inner ++ [quote])) = inner := by
  have hquoted : isQuotedBy quote (quote :: (inner ++ [quote])) = true :=
    isQuotedBy_iff.mpr ⟨inner, rfl⟩
  simp only [List.mem_cons, List.not_mem_nil, or_false] at h
  rcases h with rfl | rfl
  · simp [unquote, hquoted]
  · simp [unquote, hquoted]

theorem unquote_cases (cs : List Char) : unquote cs = cs ∨
    ∃ quote, (quote = '\'' ∨ quote = '"') ∧ cs = quote :: (unquote cs ++ [quote]) := by
  by_cases h : (isQuotedBy '\'' cs || isQuotedBy '"' cs) = true
  · obtain ⟨quote, hquote, hquoted⟩ :
        ∃ quote, (quote = '\'' ∨ quote = '"') ∧ isQuotedBy quote cs = true := by
      rcases (Bool.or_eq_true _ _).mp h with h | h
      · exact ⟨'\'', .inl rfl, h⟩
      · exact ⟨'"', .inr rfl, h⟩
    obtain ⟨inner, rfl⟩ := isQuotedBy_iff.mp hquoted
    exact .inr ⟨quote, hquote, by simp [unquote, h]⟩
  · exact .inl (by simp [unquote, h])

def Enclosed (cs : List Char) : Prop :=
  ∃ quote ∈ ['\'', '"'], ∃ inner, cs = quote :: (inner ++ [quote])

theorem enclosed_iff {cs : List Char} :
    Enclosed cs ↔ (isQuotedBy '\'' cs || isQuotedBy '"' cs) = true := by
  simp [Enclosed, isQuotedBy_iff]

instance (cs : List Char) : Decidable (Enclosed cs) := decidable_of_iff' _ enclosed_iff

theorem unquote_of_not_enclosed {cs : List Char} (h : ¬ Enclosed cs) : unquote cs = cs := by
  rcases unquote_cases cs with hsame | ⟨quote, hquote, hcs⟩
  · exact hsame
  · exact absurd ⟨quote, by simpa using hquote, unquote cs, hcs⟩ h

theorem unquote_infix_self (cs : List Char) : unquote cs <:+: cs := by
  rcases unquote_cases cs with h | ⟨quote, -, h⟩
  · rw [h]
  · exact ⟨[quote], [quote], by simpa using h.symm⟩

theorem Operator.count_unquote (op : Operator) (cs : List Char) :
    op.count (unquote cs) = op.count cs := by
  rcases unquote_cases cs with h | ⟨quote, hquote, h⟩
  · rw [h]
  · have hplain : ∀ c ∈ [quote], isOperatorChar c = false := by
      rw [List.forall_mem_singleton]
      rcases hquote with rfl | rfl <;> decide
    have hframed := op.count_framed (unquote cs) hplain hplain
    rw [← hframed, List.singleton_append, ← h]

end Query
end Rostering
