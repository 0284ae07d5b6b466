import Mathlib.Data.List.TakeWhile
import Rostering.Roster.Resource

namespace Rostering

namespace Text

theorem eq_separated_or_cons (sep : Char → Bool) (cs : List Char) :
    (∀ c ∈ cs, sep c = false) ∨
      ∃ as c bs, (∀ a ∈ as, sep a = false) ∧ sep c = true ∧ cs = as ++ c :: bs := by
  induction cs with
  | nil => exact .inl (by simp)
  | cons d ds ih =>
      cases hd : sep d with
      | true => exact .inr ⟨[], d, ds, by simp, hd, rfl⟩
      | false =>
          rcases ih with hnone | ⟨as, c, bs, has, hc, rfl⟩
          · exact .inl (by simpa [hd] using hnone)
          · exact .inr ⟨d :: as, c, bs, by simpa [hd] using has, hc, rfl⟩

def Stands (sep : Char → Bool) (word cs : List Char) : Prop :=
  ∃ before after, cs = before ++ (word ++ after) ∧
    (∀ c, before.getLast? = some c → sep c = true) ∧ ∀ c, after.head? = some c → sep c = true

theorem mem_pieces_of_stands {sep : Char → Bool} {word cs : List Char}
    (hword : ∀ c ∈ word, sep c = false) (h : Stands sep word cs) : word ∈ pieces sep cs := by
  obtain ⟨before, after, rfl, hbefore, hafter⟩ := h
  have htail : word ∈ pieces sep (word ++ after) := by
    cases after with
    | nil => simp [pieces_of_no_separator hword]
    | cons c after =>
        rw [pieces_append_cons (hafter c rfl), pieces_of_no_separator hword]
        simp
  rcases List.eq_nil_or_concat before with rfl | ⟨front, c, rfl⟩
  · exact htail
  · rw [List.concat_eq_append, List.append_assoc, List.singleton_append,
      pieces_append_cons (hbefore c (by simp))]
    exact List.mem_append_right _ htail

theorem stands_of_mem_pieces {sep : Char → Bool} {word cs : List Char}
    (h : word ∈ pieces sep cs) : (∀ c ∈ word, sep c = false) ∧ Stands sep word cs := by
  -- On the length: the pieces of a text with a separator are the part before it and the pieces of
  -- what is behind it.
  induction hn : cs.length using Nat.strong_induction_on generalizing cs with
  | _ n ih =>
      rcases eq_separated_or_cons sep cs with hnone | ⟨as, c, bs, has, hc, rfl⟩
      · rw [pieces_of_no_separator hnone] at h
        obtain rfl := List.mem_singleton.mp h
        exact ⟨hnone, [], [], by simp, by simp, by simp⟩
      · rw [pieces_append_cons hc, pieces_of_no_separator has] at h
        rcases List.mem_cons.mp h with rfl | hrest
        · exact ⟨has, [], c :: bs, by simp, by simp, by simp [hc]⟩
        · obtain ⟨hword, before, after, rfl, hbefore, hafter⟩ :=
            ih bs.length (by simp at hn; omega) hrest rfl
          refine ⟨hword, as ++ c :: before, after, by simp, ?_, hafter⟩
          intro d hd
          rcases List.eq_nil_or_concat before with rfl | ⟨front, e, rfl⟩
          · obtain rfl : c = d := by simpa using hd
            exact hc
          · have hlast : (as ++ c :: front.concat e).getLast? = some e := by
              rw [List.concat_eq_append, ← List.cons_append, ← List.append_assoc,
                List.getLast?_append]
              rfl
            rw [hlast] at hd
            exact hbefore d (by simpa using hd)

theorem Stands.subset {sep : Char → Bool} {word cs : List Char} (h : Stands sep word cs) :
    word ⊆ cs := by
  obtain ⟨before, after, rfl, -, -⟩ := h
  intro c hc
  simp [hc]

theorem Stands.eq_of_no_separator {sep : Char → Bool} {word cs : List Char}
    (h : Stands sep word cs) (hcs : ∀ c ∈ cs, sep c = false) : word = cs := by
  obtain ⟨before, after, rfl, hbefore, hafter⟩ := h
  have hnone : before = [] := by
    rw [← List.getLast?_eq_none_iff, Option.eq_none_iff_forall_ne_some]
    intro c hc
    have hplain := hcs c (by simp [List.mem_of_getLast? hc])
    rw [hbefore c hc] at hplain
    contradiction
  have hend : after = [] := by
    rw [← List.head?_eq_none_iff, Option.eq_none_iff_forall_ne_some]
    intro c hc
    have hplain := hcs c (by simp [List.mem_of_head? hc])
    rw [hafter c hc] at hplain
    contradiction
  rw [hnone, hend, List.nil_append, List.append_nil]

section

variable {sep : Char → Bool} {word : List Char} (hne : word ≠ [])

include hne

theorem Stands.of_append_cons {c : Char} (hc : c ∉ word) {as bs : List Char}
    (h : Stands sep word (as ++ c :: bs)) : Stands sep word as ∨ Stands sep word bs := by
  obtain ⟨before, after, hcs, hbefore, hafter⟩ := h
  rcases List.append_eq_append_iff.mp hcs with ⟨front, rfl, hrest⟩ | ⟨back, rfl, hrest⟩
  · cases front with
    | nil =>
        obtain ⟨w, ws, rfl⟩ := List.exists_cons_of_ne_nil hne
        obtain ⟨rfl, -⟩ := List.cons.inj hrest
        simp at hc
    | cons d front =>
        obtain ⟨rfl, rfl⟩ := List.cons.inj hrest
        right
        refine ⟨front, after, rfl, fun x hx => hbefore x ?_, hafter⟩
        rw [List.getLast?_append, List.getLast?_cons, hx]
        rfl
  · left
    rcases List.append_eq_append_iff.mp hrest with ⟨more, rfl, hmore⟩ | ⟨more, rfl, hmore⟩
    · refine ⟨before, more, rfl, hbefore, fun x hx => hafter x ?_⟩
      rw [hmore, List.head?_append, hx]
      rfl
    · cases more with
      | nil => exact ⟨before, [], by simp, hbefore, by simp⟩
      | cons d more =>
          obtain ⟨rfl, -⟩ := List.cons.inj hmore
          simp at hc

theorem Stands.of_framed {as cs bs : List Char} (has : ∀ c ∈ as, c ∉ word)
    (hbs : ∀ c ∈ bs, c ∉ word) (h : Stands sep word (as ++ (cs ++ bs))) : Stands sep word cs := by
  have hfree {ds : List Char} (hds : ∀ c ∈ ds, c ∉ word) : ¬ Stands sep word ds := by
    intro hstands
    obtain ⟨w, ws, rfl⟩ := List.exists_cons_of_ne_nil hne
    have hw : w ∈ w :: ws := by simp
    exact hds w (hstands.subset hw) hw
  have hright : Stands sep word (cs ++ bs) := by
    rcases List.eq_nil_or_concat as with rfl | ⟨front, a, rfl⟩
    · exact h
    · rw [List.concat_eq_append, List.append_assoc, List.singleton_append] at h
      refine (Stands.of_append_cons hne (has a (by simp)) h).resolve_left (hfree fun c hc => ?_)
      exact has c (by simp [hc])
  cases bs with
  | nil => rwa [List.append_nil] at hright
  | cons b bs =>
      refine (Stands.of_append_cons hne (hbs b (by simp)) hright).resolve_right (hfree fun c hc => ?_)
      exact hbs c (List.mem_cons_of_mem b hc)

end

theorem stands_of_infix {sep : Char} {word cs : List Char}
    (h : sep :: (word ++ [sep]) <:+: cs) : Stands (· == sep) word cs := by
  obtain ⟨before, after, rfl⟩ := h
  exact ⟨before ++ [sep], sep :: after, by simp, by simp, by simp⟩

theorem stands_of_infix_append {sep : Char} {word cs : List Char} (hword : sep ∉ word)
    (h : sep :: (word ++ [sep]) <:+: cs ++ sep :: word) : Stands (· == sep) word cs := by
  obtain ⟨before, after, hcs⟩ := h
  have hends : (before ++ sep :: word) ++ sep :: after = cs ++ sep :: word := by
    rw [← hcs]
    simp
  rcases List.append_eq_append_iff.mp hends with ⟨more, rfl, hmore⟩ | ⟨more, hmore, hafter⟩
  · refine ⟨before ++ [sep], more, by simp, by simp, fun c hc => ?_⟩
    have hfirst := congrArg List.head? hmore
    rw [List.head?_append, hc] at hfirst
    simpa using hfirst.symm
  · cases more with
    | nil =>
        rw [List.append_nil] at hmore
        exact ⟨before ++ [sep], [], by simp [← hmore], by simp, by simp⟩
    | cons c more =>
        obtain ⟨-, hinside⟩ := List.cons.inj hafter
        exact absurd (by simp [hinside]) hword

def IsWord (word cs : List Char) : Prop :=
  word ≠ [] ∧ (∀ c ∈ word, isBlank c = false) ∧ Stands isBlank word cs

theorem mem_words_iff {word cs : List Char} : word ∈ words cs ↔ IsWord word cs := by
  simp only [words, List.mem_filter, Bool.not_eq_true', List.isEmpty_eq_false_iff]
  constructor
  · rintro ⟨hmem, hne⟩
    exact ⟨hne, stands_of_mem_pieces hmem⟩
  · rintro ⟨hne, hword, hstands⟩
    exact ⟨mem_pieces_of_stands hword hstands, hne⟩

end Text

namespace Roster

theorem mem_ofClaim_iff {claim scope : String} :
    scope ∈ (Grant.ofClaim claim).scopes ↔ Text.IsWord scope.toList claim.toList := by
  simp only [Grant.ofClaim, List.mem_map, ← Text.mem_words_iff]
  constructor
  · rintro ⟨word, hword, rfl⟩
    rwa [String.toList_ofList]
  · intro hword
    exact ⟨scope.toList, hword, String.ofList_toList⟩

end Roster
end Rostering
