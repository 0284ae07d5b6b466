import Mathlib.Data.List.Infix
import Rostering.Proofs.Text.FormQuery

namespace Rostering.Text

def Unescaped (cs : List Char) : Prop := ∀ rest, '%' :: rest <:+ cs → opensEscape rest = false

theorem Unescaped.tail {c : Char} {cs : List Char} (h : Unescaped (c :: cs)) : Unescaped cs :=
  fun rest hrest => h rest (hrest.trans (List.suffix_cons c cs))

theorem unescaped_of_not_mem {cs : List Char} (h : '%' ∉ cs) : Unescaped cs :=
  fun _ hrest => absurd (hrest.subset List.mem_cons_self) h

theorem unescape_plain {c : Char} {cs : List Char} (h : c = '%' → opensEscape cs = false) :
    unescape (c :: cs) = String.utf8EncodeChar c ++ unescape cs := by
  by_cases hc : c = '%'
  · subst hc
    exact unescape_percent (h rfl)
  · exact unescape_cons hc cs

theorem opensEscape_iff {cs : List Char} :
    opensEscape cs = true ↔ ∃ a b rest high low, cs = a :: b :: rest ∧ hexValue? a = some high ∧
      hexValue? b = some low := by
  match cs with
  | [] => simp [opensEscape]
  | [a] => simp [opensEscape]
  | a :: b :: rest => simp [opensEscape, Option.isSome_iff_exists]

theorem unescape_escape {a b : Char} {high low : Nat} (ha : hexValue? a = some high)
    (hb : hexValue? b = some low) (rest : List Char) :
    unescape ('%' :: a :: b :: rest) = UInt8.ofNat (16 * high + low) :: unescape rest := by
  simp [unescape, ha, hb]

theorem Unescaped.unescape_eq {cs : List Char} (h : Unescaped cs) :
    unescape cs = Utf8.encode cs := by
  induction cs with
  | nil => rfl
  | cons c cs ih =>
      have hplain : c = '%' → opensEscape cs = false := by
        rintro rfl
        exact h cs (List.suffix_refl _)
      rw [unescape_plain hplain, ih h.tail]
      rfl

theorem Unescaped.cons {c : Char} {cs : List Char} (hplain : c = '%' → opensEscape cs = false)
    (h : Unescaped cs) : Unescaped (c :: cs) := by
  intro rest hrest
  rcases List.suffix_cons_iff.mp hrest with heq | hrest
  · obtain ⟨rfl, rfl⟩ := List.cons.inj heq
    exact hplain rfl
  · exact h rest hrest

theorem leads_unescape_le (cs : List Char) :
    Utf8.leads (unescape cs) ≤ cs.length ∧
      (Utf8.leads (unescape cs) = cs.length → Unescaped cs) := by
  induction hn : cs.length using Nat.strong_induction_on generalizing cs with
  | _ n ih =>
      cases cs with
      | nil => exact ⟨Nat.zero_le _, fun _ => unescaped_of_not_mem List.not_mem_nil⟩
      | cons c cs =>
          by_cases hplain : c = '%' → opensEscape cs = false
          · obtain ⟨hle, heq⟩ := ih cs.length (by simp at hn; omega) cs rfl
            rw [unescape_plain hplain, Utf8.leads_append, Utf8.leads_utf8EncodeChar, ← hn,
              List.length_cons]
            exact ⟨by omega, fun h => (heq (by omega)).cons hplain⟩
          · obtain ⟨rfl, hopens⟩ := Classical.not_imp.mp hplain
            obtain ⟨a, b, rest, high, low, rfl, ha, hb⟩ :=
              opensEscape_iff.mp (Bool.not_eq_false _ ▸ hopens)
            obtain ⟨hle, -⟩ := ih rest.length (by simp at hn; omega) rest rfl
            have hone := Utf8.leads_cons_le (UInt8.ofNat (16 * high + low)) (unescape rest)
            simp only [List.length_cons] at hn
            rw [unescape_escape ha hb]
            exact ⟨by omega, fun h => by omega⟩

theorem unescaped_iff {cs : List Char} : Unescaped cs ↔ unescape cs = Utf8.encode cs := by
  refine ⟨Unescaped.unescape_eq, fun h => (leads_unescape_le cs).2 ?_⟩
  rw [h, Utf8.leads_encode]

instance : DecidablePred Unescaped := fun _ => decidable_of_iff _ unescaped_iff.symm

theorem length_le_of_unescape {cs text : List Char}
    (h : Utf8.strict? (unescape cs) = some text) :
    text.length ≤ cs.length ∧ (text.length = cs.length → Unescaped cs) := by
  have hread := Utf8.length_le_of_strict? h
  obtain ⟨hle, heq⟩ := leads_unescape_le cs
  exact ⟨hread.trans hle, fun hlength => heq (by omega)⟩

end Rostering.Text
