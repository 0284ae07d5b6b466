import Rostering.Text.Integer

namespace Rostering.Config

/-- A step from a value into it: to an entry of a table or to an item of a list. A negative index
counts from the end. -/
inductive Step where
  | name (name : String)
  | index (index : Int)
deriving DecidableEq, Repr

structure KeyPath where
  root : String
  steps : List Step
deriving DecidableEq, Repr

namespace KeyPath

def isNameChar (c : Char) : Bool := c.isAlphanum || c == '_' || c == '-'

def isGap (c : Char) : Bool := c == ' ' || c == '\t'

def readName (cs : List Char) : Option (String × List Char) :=
  let word := cs.takeWhile isNameChar
  if word.isEmpty then none else some (String.ofList word, cs.dropWhile isNameChar)

def splitMinus : List Char → List Char × List Char
  | '-' :: rest => (['-'], rest)
  | cs => ([], cs)

def readIndex (cs : List Char) : Option (Int × List Char) :=
  let start := splitMinus (cs.dropWhile isGap)
  match (start.2.dropWhile Char.isDigit).dropWhile isGap with
  | ']' :: rest => (Text.i64? (start.1 ++ start.2.takeWhile Char.isDigit)).map fun n => (n, rest)
  | _ => none

theorem readName_length {cs rest : List Char} {name : String}
    (h : readName cs = some (name, rest)) : rest.length ≤ cs.length := by
  unfold readName at h
  simp only at h
  split at h
  · cases h
  · cases h
    exact (List.dropWhile_suffix _).length_le

theorem splitMinus_length (cs : List Char) : (splitMinus cs).2.length ≤ cs.length := by
  unfold splitMinus
  split <;> simp

theorem readIndex_length {cs rest : List Char} {n : Int}
    (h : readIndex cs = some (n, rest)) : rest.length ≤ cs.length := by
  have hstart : (cs.dropWhile isGap).length ≤ cs.length := (List.dropWhile_suffix isGap).length_le
  have hminus := splitMinus_length (cs.dropWhile isGap)
  have hdigits := (List.dropWhile_suffix Char.isDigit
    (l := (splitMinus (cs.dropWhile isGap)).2)).length_le
  have hgap := (List.dropWhile_suffix isGap
    (l := (splitMinus (cs.dropWhile isGap)).2.dropWhile Char.isDigit)).length_le
  simp only [readIndex] at h
  split at h
  · rename_i tail htail
    rw [htail] at hgap
    simp only [Option.map_eq_some_iff, Prod.mk.injEq] at h
    obtain ⟨_, _, _, heq⟩ := h
    rw [← heq]
    simp only [List.length_cons] at hgap
    omega
  · cases h

def readSteps (cs : List Char) : Option (List Step) :=
  match cs with
  | [] => some []
  | '.' :: rest =>
      match _h : readName rest with
      | some (name, more) => (readSteps more).map (.name name :: ·)
      | none => none
  | '[' :: rest =>
      match _h : readIndex rest with
      | some (n, more) => (readSteps more).map (.index n :: ·)
      | none => none
  | _ => none
termination_by cs.length
decreasing_by
  · have := readName_length _h
    simp only [List.length_cons]
    omega
  · have := readIndex_length _h
    simp only [List.length_cons]
    omega

def read (key : String) : KeyPath :=
  match readName key.toList with
  | some (root, rest) =>
      match readSteps rest with
      | some steps => ⟨root, steps⟩
      | none => ⟨key, []⟩
  | none => ⟨key, []⟩

end KeyPath
end Rostering.Config
