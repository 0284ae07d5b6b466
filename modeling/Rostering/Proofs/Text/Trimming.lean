import Mathlib.Data.List.TakeWhile
import Rostering.Text.Basic

namespace Rostering.Text

def Blank (cs : List Char) : Prop := ∀ c ∈ cs, isBlank c = true

instance (cs : List Char) : Decidable (Blank cs) := decidable_of_iff _ List.all_eq_true

theorem toNat_of_isAlphanum {c : Char} (h : c.isAlphanum = true) :
    (65 ≤ c.toNat ∧ c.toNat ≤ 90) ∨ (97 ≤ c.toNat ∧ c.toNat ≤ 122) ∨
      48 ≤ c.toNat ∧ c.toNat ≤ 57 := by
  have hrange : (65 ≤ c.val ∧ c.val ≤ 90) ∨ (97 ≤ c.val ∧ c.val ≤ 122) ∨
      48 ≤ c.val ∧ c.val ≤ 57 := by
    rcases Bool.or_eq_true_iff.mp h with halpha | hdigit
    · rcases Bool.or_eq_true_iff.mp halpha with hupper | hlower
      · exact .inl (of_decide_eq_true hupper)
      · exact .inr (.inl (by simpa using Bool.and_eq_true_iff.mp hlower))
    · exact .inr (.inr (by simpa using Bool.and_eq_true_iff.mp hdigit))
  simp only [UInt32.le_iff_toNat_le] at hrange
  exact hrange

theorem isBlank_of_isAlphanum {c : Char} (h : c.isAlphanum = true) : isBlank c = false := by
  have hrange := toNat_of_isAlphanum h
  simp only [isBlank, Bool.or_eq_false_iff, Bool.and_eq_false_iff, decide_eq_false_iff_not,
    beq_eq_false_iff_ne]
  omega

theorem span_append {p : Char → Bool} {run rest : List Char} (hrun : ∀ c ∈ run, p c = true)
    (hrest : ∀ c, rest.head? = some c → p c = false) :
    (run ++ rest).takeWhile p = run ∧ (run ++ rest).dropWhile p = rest := by
  rw [List.takeWhile_append_of_pos hrun, List.dropWhile_append_of_pos hrun]
  cases rest with
  | nil => simp
  | cons c rest => simp [hrest c rfl]

theorem bind_of_eq_some {α β : Type} {o : Option α} {a : α} (h : o = some a) (f : α → Option β) :
    (o >>= f) = f a := by
  rw [h, Option.bind_eq_bind, Option.bind_some]

theorem trimStart_parts (cs : List Char) : ∃ ws, Blank ws ∧ cs = ws ++ trimStart cs :=
  ⟨cs.takeWhile isBlank, fun _ hc => List.mem_takeWhile_imp hc, List.takeWhile_append_dropWhile.symm⟩

theorem trimEnd_parts (cs : List Char) : ∃ ws, Blank ws ∧ cs = trimEnd cs ++ ws := by
  obtain ⟨ws, hws, hcs⟩ := trimStart_parts cs.reverse
  refine ⟨ws.reverse, fun c hc => hws c (List.mem_reverse.mp hc), ?_⟩
  change cs = (trimStart cs.reverse).reverse ++ ws.reverse
  rw [← List.reverse_append, ← hcs, List.reverse_reverse]

theorem trim_parts (cs : List Char) :
    ∃ ws ws', Blank ws ∧ Blank ws' ∧ cs = ws ++ (trim cs ++ ws') := by
  obtain ⟨ws, hws, hstart⟩ := trimStart_parts cs
  obtain ⟨ws', hws', hend⟩ := trimEnd_parts (trimStart cs)
  exact ⟨ws, ws', hws, hws', by rw [trim, ← hend, ← hstart]⟩

theorem trim_infix (cs : List Char) : trim cs <:+: cs := by
  obtain ⟨ws, ws', -, -, hcs⟩ := trim_parts cs
  exact ⟨ws, ws', by rw [List.append_assoc, ← hcs]⟩

theorem head?_trimStart {cs : List Char} {c : Char} (h : (trimStart cs).head? = some c) :
    isBlank c = false := by
  have hall := List.head?_dropWhile_not isBlank cs
  rw [trimStart] at h
  simpa [h] using hall

theorem getLast?_trimEnd {cs : List Char} {c : Char} (h : (trimEnd cs).getLast? = some c) :
    isBlank c = false := by
  rw [trimEnd, List.getLast?_reverse] at h
  exact head?_trimStart h

theorem getLast?_trim {cs : List Char} {c : Char} (h : (trim cs).getLast? = some c) :
    isBlank c = false :=
  getLast?_trimEnd h

theorem head?_trim {cs : List Char} {c : Char} (h : (trim cs).head? = some c) :
    isBlank c = false := by
  obtain ⟨ws, -, hcs⟩ := trimEnd_parts (trimStart cs)
  refine head?_trimStart (?_ : (trimStart cs).head? = some c)
  rw [hcs, List.head?_append, ← trim, h]
  rfl

theorem trimStart_eq_self {cs : List Char} (h : ∀ c, cs.head? = some c → isBlank c = false) :
    trimStart cs = cs := by
  cases cs with
  | nil => rfl
  | cons c cs => exact trimStart_cons_of_not_blank cs (h c rfl)

theorem trim_eq_self {cs : List Char} (hhead : ∀ c, cs.head? = some c → isBlank c = false)
    (hlast : ∀ c, cs.getLast? = some c → isBlank c = false) : trim cs = cs := by
  have hrev : trimStart cs.reverse = cs.reverse :=
    trimStart_eq_self fun c hc => hlast c (by rwa [List.head?_reverse] at hc)
  rw [trim, trimStart_eq_self hhead, trimEnd, ← trimStart, hrev, List.reverse_reverse]

theorem trim_trim (cs : List Char) : trim (trim cs) = trim cs :=
  trim_eq_self (fun _ => head?_trim) (fun _ => getLast?_trim)

theorem trim_framed {ws ws' cs : List Char} (hws : Blank ws) (hws' : Blank ws')
    (h : trim cs = cs) : trim (ws ++ (cs ++ ws')) = cs := by
  rw [trim, trimStart_append_of_blank _ hws]
  cases cs with
  | nil =>
      rw [List.nil_append, trimStart_eq_nil_iff.mpr hws']
      rfl
  | cons c cs =>
      have hfirst : (trim (c :: cs)).head? = some c := by rw [h]; rfl
      have hback : trimStart (c :: cs).reverse = (c :: cs).reverse := by
        apply trimStart_eq_self
        intro d hd
        rw [List.head?_reverse, ← h] at hd
        exact getLast?_trim hd
      have hend : trimStart ((c :: cs) ++ ws').reverse = (c :: cs).reverse := by
        rw [List.reverse_append, trimStart_append_of_blank _ (by simpa [Blank] using hws'), hback]
      rw [List.cons_append, trimStart_cons_of_not_blank _ (head?_trim hfirst), ← List.cons_append, trimEnd,
        ← trimStart, hend, List.reverse_reverse]

end Rostering.Text
