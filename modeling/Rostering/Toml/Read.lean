import Rostering.Toml.Quoted
import Rostering.Toml.Scalar

namespace Rostering.Toml

/-- What a name stands for while a document is read. Tables remember whether only a longer path has
brought them about and whether that path was a dotted key. -/
inductive Node where
  | value (value : Value)
  | table (implicit dotted : Bool) (entries : List (String × Node))
  | tables (items : List (List (String × Node)))

abbrev Nodes := List (String × Node)

def findNode? (name : String) (nodes : Nodes) : Option Node :=
  (nodes.find? (fun node => node.1 = name)).map (·.2)

def setNode (name : String) (node : Node) : Nodes → Nodes
  | [] => [(name, node)]
  | (n, v) :: rest => if n = name then (n, node) :: rest else (n, v) :: setNode name node rest

def changeLast (change : Nodes → Option Nodes) (items : List Nodes) : Option (List Nodes) :=
  match items.getLast? with
  | none => none
  | some last => (change last).map fun last => items.dropLast ++ [last]

def insertKey (value : Value) : List String → Nodes → Option Nodes
  | [], _ => none
  | [name], nodes =>
      match findNode? name nodes with
      | some _ => none
      | none => some (nodes ++ [(name, .value value)])
  | name :: next :: rest, nodes =>
      match findNode? name nodes with
      | none => (insertKey value (next :: rest) []).map fun inner =>
          nodes ++ [(name, .table true true inner)]
      | some (.table implicit _ inner) =>
          if implicit then (insertKey value (next :: rest) inner).map fun inner =>
            setNode name (.table true true inner) nodes
          else none
      | some (.tables items) =>
          if rest.isEmpty then none
          else (changeLast (insertKey value (next :: rest)) items).map fun items =>
            setNode name (.tables items) nodes
      | some (.value _) => none

def follow (change : String → Nodes → Option Nodes) : List String → Nodes → Option Nodes
  | [], _ => none
  | [name], nodes => change name nodes
  | name :: next :: rest, nodes =>
      match findNode? name nodes with
      | none => (follow change (next :: rest) []).map fun inner =>
          nodes ++ [(name, .table true false inner)]
      | some (.table implicit dotted inner) =>
          (follow change (next :: rest) inner).map fun inner =>
            setNode name (.table implicit dotted inner) nodes
      | some (.tables items) =>
          (changeLast (follow change (next :: rest)) items).map fun items =>
            setNode name (.tables items) nodes
      | some (.value _) => none

def openTable (name : String) (nodes : Nodes) : Option Nodes :=
  match findNode? name nodes with
  | none => some (nodes ++ [(name, .table false false [])])
  | some (.table true false inner) => some (setNode name (.table false false inner) nodes)
  | _ => none

def openItem (name : String) (nodes : Nodes) : Option Nodes :=
  match findNode? name nodes with
  | none => some (nodes ++ [(name, .tables [[]])])
  | some (.tables items) => some (setNode name (.tables (items ++ [[]])) nodes)
  | _ => none

def changeAt (change : Nodes → Option Nodes) : List String → Nodes → Option Nodes
  | [], nodes => change nodes
  | name :: rest, nodes =>
      match findNode? name nodes with
      | some (.table implicit dotted inner) =>
          (changeAt change rest inner).map fun inner =>
            setNode name (.table implicit dotted inner) nodes
      | some (.tables items) =>
          (changeLast (changeAt change rest) items).map fun items =>
            setNode name (.tables items) nodes
      | _ => none

mutual

def Node.toValue : Node → Value
  | .value v => v
  | .table _ _ inner => .table (entriesOf inner)
  | .tables items => .array (itemsOf items)

def entriesOf : List (String × Node) → List (String × Value)
  | [] => []
  | (name, node) :: rest => (name, node.toValue) :: entriesOf rest

def itemsOf : List (List (String × Node)) → List Value
  | [] => []
  | item :: rest => .table (entriesOf item) :: itemsOf rest

end

def skipGap (cs : List Char) : List Char := cs.dropWhile fun c => c == ' ' || c == '\t'

def skipComment (cs : List Char) : Option (List Char) :=
  match cs with
  | '#' :: rest =>
      let body := rest.takeWhile (fun c => c != '\n' && c != '\r')
      if body.all isPrintable then some (rest.dropWhile (fun c => c != '\n' && c != '\r')) else none
  | _ => some cs

def lineBreak? : List Char → Option (List Char)
  | '\n' :: rest => some rest
  | '\r' :: '\n' :: rest => some rest
  | _ => none

def endLine (cs : List Char) : Option (List Char) := do
  let rest ← skipComment (skipGap cs)
  if rest.isEmpty then some [] else lineBreak? rest

def skipLines : Nat → List Char → Option (List Char)
  | 0, _ => none
  | fuel + 1, cs => do
      let rest ← skipComment (skipGap cs)
      match lineBreak? rest with
      | some more => skipLines fuel more
      | none => some rest

def isBareChar (c : Char) : Bool := c.isAlphanum || c == '_' || c == '-'

def readSimpleKey (cs : List Char) : Option (String × List Char) :=
  match cs with
  | '"' :: rest => (readShort '"' rest).map fun (s, rest) => (String.ofList s, rest)
  | '\'' :: rest => (readShort '\'' rest).map fun (s, rest) => (String.ofList s, rest)
  | _ =>
      let word := cs.takeWhile isBareChar
      if word.isEmpty then none else some (String.ofList word, cs.dropWhile isBareChar)

def readNames : Nat → List Char → Option (List String × List Char)
  | 0, _ => none
  | count + 1, cs => do
      let (name, rest) ← readSimpleKey (skipGap cs)
      match skipGap rest with
      | '.' :: more =>
          let (names, rest) ← readNames count more
          some (name :: names, rest)
      | rest => some ([name], rest)

def maxDepth : Nat := 80

def readKey (cs : List Char) : Option (List String × List Char) := readNames maxDepth cs

def readItems (value : List Char → Option (Value × List Char)) :
    Nat → List Char → Option (List Value × List Char)
  | 0, _ => none
  | fuel + 1, cs => do
      match ← skipLines (cs.length + 1) cs with
      | ']' :: rest => some ([], rest)
      | start =>
          let (item, rest) ← value start
          match ← skipLines (rest.length + 1) rest with
          | ',' :: more =>
              let (items, rest) ← readItems value fuel more
              some (item :: items, rest)
          | ']' :: rest => some ([item], rest)
          | _ => none

def readPair (value : List Char → Option (Value × List Char)) (cs : List Char) :
    Option (List String × Value × List Char) := do
  let (path, rest) ← readKey cs
  match rest with
  | '=' :: more =>
      let (v, rest) ← value (skipGap more)
      some (path, v, rest)
  | _ => none

def readInlinePair (value : List Char → Option (Value × List Char)) (cs : List Char) :
    Option (List String × Value × List Char) := do
  let (path, rest) ← readKey cs
  match ← skipLines (rest.length + 1) rest with
  | '=' :: more =>
      let (v, rest) ← value (← skipLines (more.length + 1) more)
      some (path, v, rest)
  | _ => none

def readPairs (value : List Char → Option (Value × List Char)) :
    Nat → Nodes → List Char → Option (Nodes × List Char)
  | 0, _, _ => none
  | fuel + 1, nodes, cs => do
      match ← skipLines (cs.length + 1) cs with
      | '\x7d' :: rest => some (nodes, rest)
      | start =>
          let (path, v, rest) ← readInlinePair value start
          let nodes ← insertKey v path nodes
          match ← skipLines (rest.length + 1) rest with
          | ',' :: more => readPairs value fuel nodes more
          | '\x7d' :: rest => some (nodes, rest)
          | _ => none

def readScalar (cs : List Char) : Option (Value × List Char) :=
  match cs with
  | '"' :: _ => (readQuoted cs).map fun (s, rest) => (.text (String.ofList s), rest)
  | '\'' :: _ => (readQuoted cs).map fun (s, rest) => (.text (String.ofList s), rest)
  | _ =>
      let (word, rest) := takeScalar cs
      (scalar? word).map (·, rest)

def readValue : Nat → List Char → Option (Value × List Char)
  | 0, cs => readScalar cs
  | depth + 1, cs =>
      match cs with
      | '[' :: rest =>
          (readItems (readValue depth) (rest.length + 1) rest).map fun (items, rest) =>
            (.array items, rest)
      | '\x7b' :: rest =>
          (readPairs (readValue depth) (rest.length + 1) [] rest).map fun (nodes, rest) =>
            (.table (entriesOf nodes), rest)
      | _ => readScalar cs

def readHeading (close : List Char) (cs : List Char) : Option (List String × List Char) := do
  let (path, rest) ← readKey cs
  if close.isPrefixOf rest then some (path, ← endLine (rest.drop close.length)) else none

def readLines : Nat → List String → Nodes → List Char → Option Nodes
  | 0, _, _, _ => none
  | fuel + 1, here, nodes, cs =>
      match skipGap cs with
      | [] => some nodes
      | '[' :: '[' :: rest => do
          let (path, rest) ← readHeading [']', ']'] rest
          readLines fuel path (← follow openItem path nodes) rest
      | '[' :: rest => do
          let (path, rest) ← readHeading [']'] rest
          readLines fuel path (← follow openTable path nodes) rest
      | '#' :: rest => do readLines fuel here nodes (← endLine ('#' :: rest))
      | '\n' :: rest => readLines fuel here nodes rest
      | '\r' :: '\n' :: rest => readLines fuel here nodes rest
      | start => do
          let (path, v, rest) ← readPair (readValue maxDepth) start
          readLines fuel here (← changeAt (insertKey v path) here nodes) (← endLine rest)

def momentMark : String := "$__toml_private_datetime"

def isMoment (entries : Entries) : Bool :=
  entries.any (fun entry => entry.1 = momentMark) &&
    !entries.any (fun entry => entry.1 < momentMark)

mutual

def withMoments : Value → Option Value
  | .array items => (itemsWithMoments items).map .array
  | .table entries =>
      if isMoment entries then
        match Entries.get? momentMark entries with
        | some (.text s) => moment? s.toList
        | _ => none
      else (entriesWithMoments entries).map .table
  | v => some v

def itemsWithMoments : List Value → Option (List Value)
  | [] => some []
  | v :: vs => do return (← withMoments v) :: (← itemsWithMoments vs)

def entriesWithMoments : List (String × Value) → Option (List (String × Value))
  | [] => some []
  | (name, v) :: rest => do return (name, ← withMoments v) :: (← entriesWithMoments rest)

end

def read (s : String) : Option Entries := do
  let cs := Text.dropByteOrderMark s.toList
  match ← withMoments (.table (entriesOf (← readLines (cs.length + 1) [] [] cs))) with
  | .table entries => some entries
  | _ => none

end Rostering.Toml
