import Rostering.Json.Value
import Rostering.Roster.Resource
import Rostering.Text.Basic

namespace Rostering.Http

structure Target where
  path : String
  query : Option String
deriving DecidableEq, Repr

def isTokenChar (c : Char) : Bool := c.isAlphanum || "!#$%&'*+-.^_\x60|~".toList.contains c

def isToken (s : String) : Bool := !s.isEmpty && s.toList.all isTokenChar

def isHeaderValue (s : String) : Bool :=
  s.toList.all fun c => c == '\t' || (' ' ≤ c && c != '\x7F')

namespace Target

def isQueryChar (c : Char) : Bool := '!' ≤ c && !("\"<>".toList.contains c)

def isPathChar (c : Char) : Bool := '!' ≤ c && !("<>\x60".toList.contains c)

def isAuthorityChar (c : Char) : Bool := c.isAlphanum || "!$&'()*+,-.;=_~".toList.contains c

structure Progress where
  colons : Nat
  hasPercent : Bool
  opened : Bool
  closed : Bool

def Progress.step (p : Progress) (c : Char) : Option Progress :=
  match c with
  | ':' => if p.colons < 8 then some { p with colons := p.colons + 1 } else none
  | '[' => if p.hasPercent || p.opened then none else some { p with opened := true }
  | ']' =>
      if !p.opened || p.closed then none
      else some { p with colons := 0, hasPercent := false, closed := true }
  | '@' => some { p with colons := 0, hasPercent := false }
  | '%' => some { p with hasPercent := true }
  | _ => if isAuthorityChar c then some p else none

def isAuthority (cs : List Char) : Bool :=
  match cs.foldlM Progress.step ⟨0, false, false, false⟩ with
  | none => false
  | some p => p.opened == p.closed && p.colons ≤ 1 && !p.hasPercent && cs.getLast? != some '@'

def endsAuthority (c : Char) : Bool := c == '/' || c == '?' || c == '#'

def isSchemeChar (c : Char) : Bool := c.isAlphanum || c == '+' || c == '-' || c == '.'

def afterScheme? (cs : List Char) : Option (List Char) :=
  match Text.cut? [':', '/', '/'] cs with
  | some (scheme, rest) => if scheme.all isSchemeChar then some rest else none
  | none => none

def readPath? (cs : List Char) : Option Target :=
  let path := cs.takeWhile fun c => c != '?' && c != '#'
  let shown := if path.isEmpty then "/" else String.ofList path
  if !path.all isPathChar then none
  else
    match cs.dropWhile fun c => c != '?' && c != '#' with
    | '?' :: rest =>
        let query := rest.takeWhile (· != '#')
        if query.all isQueryChar then some ⟨shown, some (String.ofList query)⟩ else none
    | _ => some ⟨shown, none⟩

def read? (s : String) : Option Target :=
  let cs := s.toList
  if s.utf8ByteSize > 65534 then none
  else if cs = ['*'] then some ⟨"*", none⟩
  else if cs.head? = some '/' then readPath? cs
  else
    let (absolute, rest) := match afterScheme? cs with
      | some rest => (true, rest)
      | none => (false, cs)
    let authority := rest.takeWhile (fun c => !endsAuthority c)
    let more := rest.dropWhile (fun c => !endsAuthority c)
    if authority.isEmpty || !isAuthority authority then none
    else if absolute then readPath? more
    else if more.isEmpty then some ⟨"", none⟩
    else none

end Target

abbrev Header := String × String

def header? (name : String) (headers : List Header) : Option String :=
  (headers.find? (fun h => Text.sameIgnoringCase h.1 name)).map (·.2)

def setHeader (headers : List Header) (name value : String) : List Header :=
  let name := Text.lowerAscii name
  headers.filter (fun h => h.1 ≠ name) ++ [(name, value)]

structure Request where
  method : String
  target : Target
  headers : List Header
  grant : Option Roster.Grant

structure Response where
  status : Nat
  headers : List Header
  body : String
deriving DecidableEq, Repr

namespace Response

def empty (status : Nat) : Response := ⟨status, [], ""⟩

def json (status : Nat) (body : Json) : Response :=
  ⟨status, [("content-type", "application/json")], body.compact⟩

def withHeader (r : Response) (name value : String) : Response :=
  { r with headers := setHeader r.headers name value }

end Response
end Rostering.Http
