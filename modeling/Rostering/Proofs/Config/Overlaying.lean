import Mathlib.Data.List.TakeWhile
import Rostering.Config.Overlay
import Rostering.Proofs.Toml.Documents

namespace Rostering.Config

open Toml (IsBare IsPlain Tidy content contents)

theorem KeyPath.read_bare {name : String} (h : IsBare name) : read name = ⟨name, []⟩ := by
  have hempty : name.toList.isEmpty = false := by simpa using h.chars_ne_nil
  have htake : name.toList.takeWhile isNameChar = name.toList := List.takeWhile_eq_self_iff.mpr h.2
  have hdrop : name.toList.dropWhile isNameChar = [] := List.dropWhile_eq_nil_iff.mpr h.2
  have hname : readName name.toList = some (name, []) := by simp [readName, htake, hdrop, hempty]
  simp [read, hname, readSteps]

namespace Entries

variable {name : String} {entries : Entries}

theorem get?_fresh (h : ∀ entry ∈ entries, entry.1 ≠ name) : entries.get? name = none := by
  rw [get?, List.find?_eq_none.mpr fun entry hentry => by simpa using h entry hentry,
    Option.map_none]

theorem set_fresh (h : ∀ entry ∈ entries, entry.1 ≠ name) (value : Value) :
    entries.set name value = entries ++ [(name, value)] := by
  induction entries with
  | nil => rfl
  | cons entry entries ih =>
      obtain ⟨hentry, hentries⟩ := List.forall_mem_cons.mp h
      rw [set, if_neg hentry, ih hentries, List.cons_append]

theorem set_laidOver {value : Value} {names : List String}
    (hnodup : (entries.map (·.1) ++ name :: names).Nodup)
    (h : Value.laidOver .nothing value = value) :
    entries.set name (Value.laidOver ((entries.get? name).getD .nothing) value) =
      entries ++ [(name, value)] := by
  have hfresh : ∀ entry ∈ entries, entry.1 ≠ name := fun entry hentry =>
    (List.nodup_append.mp hnodup).2.2 _ (List.mem_map_of_mem hentry) _ List.mem_cons_self
  rw [get?_fresh hfresh, Option.getD_none, h, set_fresh hfresh]

end Entries

section

variable {added before : Entries} (hnodup : (before.map (·.1) ++ added.map (·.1)).Nodup)
  (hsettled : ∀ entry ∈ added, Value.laidOver .nothing entry.2 = entry.2)

include hnodup hsettled

theorem Value.withEntries_fresh : withEntries before added = before ++ added := by
  induction added generalizing before with
  | nil => rw [withEntries, List.append_nil]
  | cons entry added ih =>
      obtain ⟨hentry, hadded⟩ := List.forall_mem_cons.mp hsettled
      rw [withEntries, Entries.set_laidOver hnodup hentry, ih (by simpa using hnodup) hadded,
        List.append_assoc, List.singleton_append]

theorem Entries.overlay_fresh (hbare : ∀ entry ∈ added, IsBare entry.1) :
    overlay added before = before ++ added := by
  induction added generalizing before with
  | nil => rw [overlay, List.foldl_nil, List.append_nil]
  | cons entry added ih =>
      obtain ⟨hentry, hadded⟩ := List.forall_mem_cons.mp hsettled
      obtain ⟨hname, hbare⟩ := List.forall_mem_cons.mp hbare
      have hput : before.put (KeyPath.read entry.1) entry.2 = before ++ [entry] := by
        rw [KeyPath.read_bare hname]
        exact set_laidOver hnodup hentry
      rw [overlay, List.foldl_cons, hput, ← overlay, ih (by simpa using hnodup) hadded hbare,
        List.append_assoc, List.singleton_append]

end

def Tree.shown (tree : Tree) : Value := .ofToml (content tree)

def Tree.shownEntries (entries : List (String × Tree)) : Entries :=
  entries.map fun entry => (entry.1, entry.2.shown)

theorem entriesOfToml_contents (entries : List (String × Tree)) :
    Value.entriesOfToml (contents entries) = Tree.shownEntries entries := by
  induction entries with
  | nil => rfl
  | cons entry rest ih =>
      rw [contents, Value.entriesOfToml, ih, Tree.shownEntries, Tree.shownEntries, List.map_cons,
        Tree.shown]

theorem Tree.shown_part (entries : List (String × Tree)) :
    (part entries).shown = .table (shownEntries entries) := by
  rw [shown, content, Value.ofToml, entriesOfToml_contents]

theorem Tree.names_shownEntries (entries : List (String × Tree)) :
    (shownEntries entries).map (·.1) = entries.map (·.1) := by
  simp [shownEntries]

theorem laidOver_plain {tree : Tree} (h : IsPlain tree) :
    Value.laidOver .nothing tree.shown = tree.shown := by
  cases tree with
  | part entries => exact absurd h id
  | text s => rfl
  | number n => rfl
  | flag b => rfl

theorem settled_shownEntries {values parts : List (String × Tree)}
    (plain : ∀ entry ∈ values, IsPlain entry.2)
    (sections : ∀ entry ∈ parts, Value.laidOver .nothing entry.2.shown = entry.2.shown) :
    ∀ entry ∈ Tree.shownEntries (values ++ parts), Value.laidOver .nothing entry.2 = entry.2 := by
  intro entry hentry
  obtain ⟨source, hsource, rfl⟩ := List.mem_map.mp hentry
  rcases List.mem_append.mp hsource with hvalue | hpart
  · exact laidOver_plain (plain source hvalue)
  · exact sections source hpart

theorem nodup_shownEntries {depth : Nat} {entries : List (String × Tree)}
    (h : Tidy depth (.part entries)) : ((Tree.shownEntries entries).map (·.1)).Nodup := by
  rw [Tree.names_shownEntries]
  exact h.nodup

theorem laidOver_shown {depth : Nat} {tree : Tree} (h : Tidy depth tree) :
    Value.laidOver .nothing tree.shown = tree.shown := by
  induction h with
  | @part depth values parts bare nodup plain sections ih =>
      have hadded : Value.withEntries [] (Tree.shownEntries (values ++ parts)) =
          Tree.shownEntries (values ++ parts) :=
        Value.withEntries_fresh (nodup_shownEntries (.part bare nodup plain sections))
          (settled_shownEntries plain ih)
      rw [Tree.shown_part, Value.laidOver]
      exact congrArg Value.table hadded

theorem overlay_shownEntries {depth : Nat} {entries : List (String × Tree)}
    (h : Tidy depth (.part entries)) :
    Entries.overlay (Tree.shownEntries entries) [] = Tree.shownEntries entries := by
  have hbare : ∀ entry ∈ Tree.shownEntries entries, IsBare entry.1 := by
    intro entry hentry
    obtain ⟨source, hsource, rfl⟩ := List.mem_map.mp hentry
    exact h.bare source hsource
  have hnodup := nodup_shownEntries h
  cases h with
  | part bare nodup plain sections =>
      exact Entries.overlay_fresh hnodup (settled_shownEntries plain fun entry hentry =>
        laidOver_shown (sections entry hentry)) hbare

end Rostering.Config
