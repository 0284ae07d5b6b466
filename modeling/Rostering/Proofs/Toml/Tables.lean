import Rostering.Config.Tree
import Rostering.Toml.Read

namespace Rostering.Toml

open Config (Tree)

mutual

def content : Tree → Value
  | .text s => .text s
  | .number n => .integer n
  | .flag b => .flag b
  | .part entries => .table (contents entries)

def contents : List (String × Tree) → Entries
  | [] => []
  | (name, tree) :: rest => (name, content tree) :: contents rest

end

mutual

def nodeOf : Tree → Node
  | .part entries => .table false false (nodesOf entries)
  | tree => .value (content tree)

def nodesOf : List (String × Tree) → Nodes
  | [] => []
  | (name, tree) :: rest => (name, nodeOf tree) :: nodesOf rest

end

theorem entriesOf_nodesOf (entries : List (String × Tree)) :
    entriesOf (nodesOf entries) = contents entries := by
  refine nodesOf.induct (fun tree => (nodeOf tree).toValue = content tree)
    (fun entries => entriesOf (nodesOf entries) = contents entries) ?part ?value ?nil ?cons entries
  case part =>
    intro entries ih
    rw [nodeOf, Node.toValue, ih, content]
  case value =>
    intro tree htree
    cases tree with
    | part entries => exact absurd rfl (htree entries)
    | _ => rfl
  case nil => rfl
  case cons =>
    intro name tree rest htree hrest
    rw [nodesOf, entriesOf, htree, hrest, contents]

theorem nodesOf_eq_map (entries : List (String × Tree)) :
    nodesOf entries = entries.map fun entry => (entry.1, nodeOf entry.2) := by
  induction entries with
  | nil => rfl
  | cons entry rest ih => rw [nodesOf, ih, List.map_cons]

theorem nodesOf_append (values parts : List (String × Tree)) :
    nodesOf (values ++ parts) = nodesOf values ++ nodesOf parts := by
  simp only [nodesOf_eq_map, List.map_append]

theorem names_nodesOf (entries : List (String × Tree)) :
    (nodesOf entries).map (·.1) = entries.map (·.1) := by
  simp [nodesOf_eq_map]

def Fresh (name : String) (nodes : Nodes) : Prop := ∀ node ∈ nodes, node.1 ≠ name

theorem findNode?_fresh {name : String} {nodes : Nodes} (h : Fresh name nodes) :
    findNode? name nodes = none := by
  rw [findNode?, List.find?_eq_none.mpr fun node hnode => by simpa using h node hnode,
    Option.map_none]

section

variable {name : String} {before : Nodes} (h : Fresh name before)

include h

theorem findNode?_append_singleton (node : Node) :
    findNode? name (before ++ [(name, node)]) = some node := by
  have hbefore : before.find? (fun node => node.1 = name) = none :=
    List.find?_eq_none.mpr fun node hnode => by simpa using h node hnode
  simp [findNode?, List.find?_append, hbefore]

theorem setNode_append_singleton (old new : Node) :
    setNode name new (before ++ [(name, old)]) = before ++ [(name, new)] := by
  induction before with
  | nil => simp [setNode]
  | cons node before ih =>
      obtain ⟨hnode, hbefore⟩ := List.forall_mem_cons.mp h
      rw [List.cons_append, setNode, if_neg hnode, ih hbefore, List.cons_append]

end

abbrev Spine := List (Nodes × String)

def pathOf (spine : Spine) : List String := spine.map (·.2)

def along : Spine → Nodes → Nodes
  | [], inner => inner
  | (before, name) :: spine, inner => before ++ [(name, .table false false (along spine inner))]

def Clear (spine : Spine) : Prop := ∀ level ∈ spine, Fresh level.2 level.1

theorem pathOf_concat (spine : Spine) (before : Nodes) (name : String) :
    pathOf (spine ++ [(before, name)]) = pathOf spine ++ [name] := by
  simp [pathOf]

theorem along_concat (spine : Spine) (before : Nodes) (name : String) (inner : Nodes) :
    along (spine ++ [(before, name)]) inner =
      along spine (before ++ [(name, .table false false inner)]) := by
  induction spine with
  | nil => rfl
  | cons level spine ih => rw [List.cons_append, along, ih, along]

section

variable {spine : Spine} (hclear : Clear spine) {inner inner' : Nodes}

include hclear

theorem changeAt_along {change : Nodes → Option Nodes} (h : change inner = some inner') :
    changeAt change (pathOf spine) (along spine inner) = some (along spine inner') := by
  induction spine with
  | nil => exact h
  | cons level spine ih =>
      obtain ⟨hlevel, hspine⟩ := List.forall_mem_cons.mp hclear
      rw [pathOf, List.map_cons, ← pathOf, along, changeAt, findNode?_append_singleton hlevel]
      simp only [ih hspine, Option.map_some, setNode_append_singleton hlevel, along]

theorem follow_along {change : String → Nodes → Option Nodes} {name : String}
    (h : change name inner = some inner') :
    follow change (pathOf spine ++ [name]) (along spine inner) = some (along spine inner') := by
  induction spine with
  | nil => exact h
  | cons level spine ih =>
      obtain ⟨hlevel, hspine⟩ := List.forall_mem_cons.mp hclear
      have hnext := ih hspine
      obtain ⟨next, rest, hpath⟩ := List.exists_cons_of_ne_nil
        (show pathOf spine ++ [name] ≠ [] by simp)
      rw [pathOf, List.map_cons, ← pathOf, List.cons_append, hpath, along, follow,
        findNode?_append_singleton hlevel]
      rw [hpath] at hnext
      simp only [hnext, Option.map_some, setNode_append_singleton hlevel, along]

end

theorem openTable_fresh {name : String} {nodes : Nodes} (h : Fresh name nodes) :
    openTable name nodes = some (nodes ++ [(name, .table false false [])]) := by
  rw [openTable, findNode?_fresh h]

theorem insertKey_fresh {name : String} {nodes : Nodes} (h : Fresh name nodes) (value : Value) :
    insertKey value [name] nodes = some (nodes ++ [(name, .value value)]) := by
  rw [insertKey, findNode?_fresh h]

theorem fresh_of_nodup {name : String} {names : List String} {before : Nodes}
    (h : (before.map (·.1) ++ name :: names).Nodup) : Fresh name before := by
  rintro node hnode rfl
  have hapart := (List.nodup_append.mp h).2.2
  exact hapart node.1 (List.mem_map_of_mem hnode) node.1 (by simp) rfl

end Rostering.Toml
