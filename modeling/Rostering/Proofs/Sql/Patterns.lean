import Mathlib.Data.List.Infix
import Rostering.Sql.Select

namespace Rostering.Sql

open Roster (FieldKind)

inductive Piece where
  | any
  | one
  | exact (c : Char)
  | oneOf (negated : Bool) (ranges : List (Char × Char))
deriving DecidableEq, Repr

namespace Piece

def accepts : Piece → Char → Bool
  | .any, _ => true
  | .one, _ => true
  | .exact c, x => c = x
  | .oneOf negated ranges, x => ranges.any (fun r => r.1 ≤ x && x ≤ r.2) != negated

def classRanges : List (Char × Bool) → List (Char × Char)
  | (low, _) :: ('-', false) :: (high, _) :: marks => (low, high) :: classRanges marks
  | (c, _) :: marks => (c, c) :: classRanges marks
  | [] => []

def ofClass : List (Char × Bool) → Piece
  | ('^', false) :: marks => .oneOf true (classRanges marks)
  | marks => .oneOf false (classRanges marks)

end Piece

/-- Reads a pattern by the rules of an engine, the backslash being the escape character. The first
argument is what has been read of a class that is open. -/
def readPattern (d : Dialect) : Option (List (Char × Bool)) → List Char → Option (List Piece)
  | none, [] => some []
  | some _, [] => none
  | _, ['\\'] => none
  | none, '\\' :: c :: cs => (readPattern d none cs).map (.exact c :: ·)
  | some marks, '\\' :: c :: cs => readPattern d (some (marks ++ [(c, true)])) cs
  | none, c :: cs =>
      if c = '%' then (readPattern d none cs).map (.any :: ·)
      else if c = '_' then (readPattern d none cs).map (.one :: ·)
      else if c = '[' ∧ d = .tsql then readPattern d (some []) cs
      else (readPattern d none cs).map (.exact c :: ·)
  | some marks, c :: cs =>
      if c = ']' then (readPattern d none cs).map (Piece.ofClass marks :: ·)
      else readPattern d (some (marks ++ [(c, false)])) cs

def like : List Piece → List Char → Bool
  | [], text => text.isEmpty
  | .any :: pieces, text => text.tails.any (like pieces)
  | _ :: _, [] => false
  | piece :: pieces, x :: text => piece.accepts x && like pieces text

theorem readPattern_plain {d : Dialect} {c : Char} (h : isPatternMark d c = false)
    (cs : List Char) : readPattern d none (c :: cs) = (readPattern d none cs).map (.exact c :: ·) := by
  have hslash : c ≠ '\\' := by rintro rfl; cases d <;> simp [isPatternMark] at h
  have hpercent : c ≠ '%' := by rintro rfl; cases d <;> simp [isPatternMark] at h
  have hunderscore : c ≠ '_' := by rintro rfl; cases d <;> simp [isPatternMark] at h
  have hclass : ¬ (c = '[' ∧ d = .tsql) := by
    rintro ⟨rfl, rfl⟩
    simp [isPatternMark] at h
  rw [readPattern]
  · rw [if_neg hpercent, if_neg hunderscore, if_neg hclass]
  all_goals simp [hslash]

theorem readPattern_escaped (d : Dialect) (cs rest : List Char) :
    readPattern d none (escapePattern d cs ++ rest) =
      (readPattern d none rest).map (cs.map Piece.exact ++ ·) := by
  induction cs with
  | nil => simp [escapePattern]
  | cons c cs ih =>
      have hcons : escapePattern d (c :: cs) =
          (if isPatternMark d c then ['\\', c] else [c]) ++ escapePattern d cs := by
        simp [escapePattern]
      rw [hcons]
      by_cases hc : isPatternMark d c = true
      · simp [hc, readPattern, ih, Function.comp_def]
      · simp [hc, readPattern_plain (Bool.not_eq_true _ ▸ hc), ih, Function.comp_def]

theorem readPattern_containsPattern (d : Dialect) (needle : List Char) :
    readPattern d none (containsPattern d needle) =
      some (.any :: (needle.map Piece.exact ++ [.any])) := by
  have hlast : readPattern d none ['%'] = some [.any] := rfl
  have hfirst : readPattern d none (containsPattern d needle) =
      (readPattern d none (escapePattern d needle ++ ['%'])).map (.any :: ·) := rfl
  rw [hfirst, readPattern_escaped, hlast]
  rfl

theorem like_any_iff {pieces : List Piece} {text : List Char} :
    like (.any :: pieces) text = true ↔ ∃ rest, rest <:+ text ∧ like pieces rest = true := by
  simp [like]

theorem like_any_end (text : List Char) : like [.any] text = true :=
  like_any_iff.mpr ⟨[], List.nil_suffix, rfl⟩

theorem like_exact_iff {needle : List Char} {pieces : List Piece} {text : List Char} :
    like (needle.map Piece.exact ++ pieces) text = true ↔
      ∃ rest, text = needle ++ rest ∧ like pieces rest = true := by
  induction needle generalizing text with
  | nil => simp
  | cons c needle ih =>
      cases text with
      | nil => simp [like]
      | cons x text =>
          have hstep : like ((c :: needle).map Piece.exact ++ pieces) (x :: text) = true ↔
              c = x ∧ like (needle.map Piece.exact ++ pieces) text = true := by
            simp [like, Piece.accepts]
          rw [hstep, ih]
          constructor
          · rintro ⟨rfl, rest, rfl, hrest⟩
            exact ⟨rest, rfl, hrest⟩
          · rintro ⟨rest, heq, hrest⟩
            obtain ⟨rfl, rfl⟩ := List.cons.inj heq
            exact ⟨rfl, rest, rfl, hrest⟩

theorem like_contains_iff {needle text : List Char} :
    like (.any :: (needle.map Piece.exact ++ [.any])) text = true ↔ needle <:+: text := by
  rw [like_any_iff, List.infix_iff_prefix_suffix]
  constructor
  · rintro ⟨rest, hsuffix, hlike⟩
    obtain ⟨after, rfl, -⟩ := like_exact_iff.mp hlike
    exact ⟨_, List.prefix_append _ _, hsuffix⟩
  · rintro ⟨rest, ⟨after, rfl⟩, hsuffix⟩
    exact ⟨_, hsuffix, like_exact_iff.mpr ⟨after, rfl, like_any_end after⟩⟩

theorem search_finds_occurrences (d : Dialect) (field : String) (kind : FieldKind)
    (value : String) : ∃ pattern pieces,
      boundOf d ⟨field, kind, .contains, value⟩ = .text pattern ∧
      readPattern d none pattern.toList = some pieces ∧
      ∀ text : String, like pieces text.toList = true ↔ value.toList <:+: text.toList := by
  refine ⟨String.ofList (containsPattern d value.toList), _, rfl, ?_, fun _ => like_contains_iff⟩
  rw [String.toList_ofList]
  exact readPattern_containsPattern d value.toList

end Rostering.Sql
