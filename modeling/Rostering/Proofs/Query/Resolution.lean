import Mathlib.Data.List.Induction
import Rostering.Proofs.Text.Occurrences
import Rostering.Query.Request

namespace Rostering.Query

open Text (OnceInOrder firstOccurrences)

structure Refused (selectable asked invalid : List String) : Prop where
  inOrder : invalid.Sublist asked
  count_eq : ∀ name, invalid.count name = if name ∈ selectable then 0 else asked.count name

theorem refused_filter (selectable asked : List String) :
    Refused selectable asked (asked.filter (· ∉ selectable)) := by
  refine ⟨List.filter_sublist, fun name => ?_⟩
  by_cases h : name ∈ selectable
  · rw [if_pos h, List.count_eq_zero]
    simp [h]
  · rw [if_neg h, List.count_filter (by simpa using h)]

namespace Resolution

theorem read_of_mem {selectable : List String} {name : String} (h : name ∈ selectable)
    (r : Resolution) :
    r.read selectable name = { r with fields := Text.pushNew r.fields name } := by
  have hfind : selectable.find? (fun known => known = name) = some name := by
    cases hfound : selectable.find? (fun known => known = name) with
    | none => exact absurd (decide_eq_true rfl) (List.find?_eq_none.mp hfound name h)
    | some known =>
        obtain rfl : known = name := by simpa using List.find?_some hfound
        rfl
  simp only [read, hfind]

theorem read_of_not_mem {selectable : List String} {name : String} (h : name ∉ selectable)
    (r : Resolution) : r.read selectable name = { r with invalid := r.invalid ++ [name] } := by
  have hfind : selectable.find? (fun known => known = name) = none := by
    rw [List.find?_eq_none]
    intro known hknown
    simpa using ne_of_mem_of_not_mem hknown h
  simp only [read, hfind]

theorem ofNames_eq (selectable names : List String) :
    ofNames selectable names =
      ⟨firstOccurrences (names.filter (· ∈ selectable)), names.filter (· ∉ selectable)⟩ := by
  induction names using List.reverseRecOn with
  | nil => rfl
  | append_singleton names name ih =>
      rw [ofNames] at ih ⊢
      rw [List.foldl_append, ih, List.foldl_cons, List.foldl_nil]
      by_cases h : name ∈ selectable
      · rw [read_of_mem h]
        simp [h, Text.firstOccurrences_concat]
      · rw [read_of_not_mem h]
        simp [h]

end Resolution

namespace Selection

variable {selectable : List String}

theorem resolve_everything (h : selectable.Nodup) :
    everything.resolve selectable = (listed selectable).resolve selectable := by
  have hnone : selectable.filter (· ∉ selectable) = [] := by simp [List.filter_eq_nil_iff]
  simp only [resolve, hnone, Text.firstOccurrences_of_nodup h]

theorem resolve_of_forall_mem {names : List String} (h : ∀ name ∈ names, name ∈ selectable) :
    (listed names).resolve selectable = .ok (firstOccurrences names) := by
  have hnone : names.filter (· ∉ selectable) = [] := by simpa [List.filter_eq_nil_iff] using h
  simp only [resolve, hnone]

theorem resolve_of_exists_not_mem {names : List String} (h : ∃ name ∈ names, name ∉ selectable) :
    (listed names).resolve selectable =
      .error (.selection (names.filter (· ∉ selectable)) selectable) := by
  obtain ⟨name, hname, hinvalid⟩ := h
  have hsome : names.filter (· ∉ selectable) ≠ [] :=
    List.ne_nil_of_mem (List.mem_filter.mpr ⟨hname, by simpa using hinvalid⟩)
  rw [resolve]
  split
  · contradiction
  · rfl

theorem resolve_eq_outcome (h : selectable.Nodup) (selection : Selection) :
    selection.resolve selectable =
      (Resolution.ofNames selectable (selection.asked selectable)).outcome selectable := by
  have hlisted (names : List String) : (listed names).resolve selectable =
      (Resolution.ofNames selectable names).outcome selectable := by
    rw [Resolution.ofNames_eq, Resolution.outcome]
    by_cases hall : ∀ name ∈ names, name ∈ selectable
    · have hfilter : names.filter (· ∈ selectable) = names := by
        simpa [List.filter_eq_self] using hall
      have hnone : names.filter (· ∉ selectable) = [] := by
        simpa [List.filter_eq_nil_iff] using hall
      rw [resolve_of_forall_mem hall, hfilter, hnone]
      rfl
    · push Not at hall
      rw [resolve_of_exists_not_mem hall, if_neg]
      simpa using hall
  cases selection with
  | everything => exact (resolve_everything h).trans (hlisted selectable)
  | listed names => exact hlisted names

theorem resolve_names (selectable : List String) (hnodup : selectable.Nodup)
    (selection : Selection) :
    selection.resolve selectable =
        (Resolution.ofNames selectable (selection.asked selectable)).outcome selectable ∧
      ((∃ fields, selection.resolve selectable = .ok fields) ↔
        ∀ name ∈ selection.asked selectable, name ∈ selectable) ∧
      (∀ fields, selection.resolve selectable = .ok fields →
        OnceInOrder (selection.asked selectable) fields ∧
          (listed fields).resolve selectable = .ok fields) ∧
      ∀ fault, selection.resolve selectable = .error fault →
        ∃ invalid, fault = .selection invalid selectable ∧ invalid ≠ [] ∧
          Refused selectable (selection.asked selectable) invalid := by
  have hlisted : selection.resolve selectable =
      (listed (selection.asked selectable)).resolve selectable := by
    cases selection with
    | everything => exact resolve_everything hnodup
    | listed names => rfl
  refine ⟨resolve_eq_outcome hnodup selection, ?_⟩
  rw [hlisted]
  by_cases hall : ∀ name ∈ selection.asked selectable, name ∈ selectable
  · rw [resolve_of_forall_mem hall]
    refine ⟨iff_of_true ⟨_, rfl⟩ hall, ?_, by simp⟩
    intro fields hfields
    obtain rfl := Except.ok.inj hfields
    have honce := Text.onceInOrder_firstOccurrences (selection.asked selectable)
    have hfields : ∀ name ∈ firstOccurrences (selection.asked selectable), name ∈ selectable :=
      fun name hname => hall name ((honce.mem_iff name).mp hname)
    exact ⟨honce, by rw [resolve_of_forall_mem hfields, Text.firstOccurrences_of_nodup honce.nodup]⟩
  · have hsome : ∃ name ∈ selection.asked selectable, name ∉ selectable := by simpa using hall
    rw [resolve_of_exists_not_mem hsome]
    refine ⟨iff_of_false (by simp) hall, by simp, ?_⟩
    intro fault hfault
    refine ⟨_, (Except.error.inj hfault).symm, ?_, refused_filter _ _⟩
    obtain ⟨name, hname, hinvalid⟩ := hsome
    exact List.ne_nil_of_mem (List.mem_filter.mpr ⟨hname, by simpa using hinvalid⟩)

theorem resolve_names_of_orgs :
    let selectable := ["sourcedId", "status", "name", "type"]
    let repeated := listed ["type", "name", "type", "sourcedId", "name"]
    let mixed := listed ["name", "bogus", "sourcedId", "other", "bogus", "name"]
    selectable.Nodup ∧
      (OnceInOrder (repeated.asked selectable) ["type", "name", "sourcedId"] ∧
        (listed ["type", "name", "sourcedId"]).resolve selectable =
          .ok ["type", "name", "sourcedId"]) ∧
      mixed.resolve selectable = .error (.selection ["bogus", "other", "bogus"] selectable) ∧
      Refused selectable (mixed.asked selectable) ["bogus", "other", "bogus"] := by
  intro selectable repeated mixed
  have hnodup : selectable.Nodup := by decide
  have hrepeated : repeated.resolve selectable = .ok ["type", "name", "sourcedId"] := by decide
  have hmixed : mixed.resolve selectable =
      .error (.selection ["bogus", "other", "bogus"] selectable) := by decide
  obtain ⟨-, -, hfields, -⟩ := resolve_names selectable hnodup repeated
  obtain ⟨-, -, -, hfault⟩ := resolve_names selectable hnodup mixed
  obtain ⟨invalid, hinvalid, -, hrefused⟩ := hfault _ hmixed
  obtain rfl : ["bogus", "other", "bogus"] = invalid := by injection hinvalid
  exact ⟨hnodup, hfields _ hrepeated, hmixed, hrefused⟩

end Selection
end Rostering.Query
