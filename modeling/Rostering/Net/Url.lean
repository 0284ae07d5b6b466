import Rostering.Net.Address
import Rostering.Text.Basic

namespace Rostering.Net

inductive UrlFault where
  | noScheme
  | emptyHost
  | badPort
  | badV4
  | badV6
  | badHostCharacter
  | badDomain
deriving DecidableEq, Repr

def UrlFault.message : UrlFault → String
  | .noScheme => "relative URL without a base"
  | .emptyHost => "empty host"
  | .badPort => "invalid port number"
  | .badV4 => "invalid IPv4 address"
  | .badV6 => "invalid IPv6 address"
  | .badHostCharacter => "invalid domain character"
  | .badDomain => "invalid international domain name"

structure Url where
  scheme : String
  user : List Char
  password : Option (List Char)
  host : List Char
  port : Option Nat
  path : List Char
  query : Option (List Char)
deriving DecidableEq, Repr

namespace Url

def webSchemes : List String := ["http", "https", "ws", "wss", "ftp"]

def isSchemeChar (c : Char) : Bool := c.isAlphanum || c == '+' || c == '-' || c == '.'

def splitScheme? (cs : List Char) : Option (String × List Char) :=
  match Text.cut? [':'] cs with
  | some (name, rest) =>
      if name.head?.any Char.isAlpha && name.all isSchemeChar then
        some (Text.lowerAscii (String.ofList name), rest)
      else none
  | none => none

def endsAuthority (web : Bool) (c : Char) : Bool :=
  c == '/' || c == '?' || c == '#' || (web && c == '\\')

def splitHost : Bool → List Char → List Char × List Char
  | _, [] => ([], [])
  | bracketed, c :: cs =>
      if c = ':' ∧ bracketed = false then ([], c :: cs)
      else
        let (host, rest) := splitHost (c == '[' || (bracketed && c != ']')) cs
        (c :: host, rest)

def isForbiddenInHost (c : Char) : Bool :=
  "\x00\t\n\r #/:<>?@[\\]^|".toList.contains c

def webNumber? (cs : List Char) : Option Nat :=
  let read (base : Nat) (ds : List Char) : Option Nat :=
    (ds.mapM fun c => (Text.hexValue? c).bind fun d => if d < base then some d else none).map
      fun values => values.foldl (fun n d => n * base + d) 0
  match cs with
  | [] => none
  | '0' :: 'x' :: rest => read 16 rest
  | '0' :: 'X' :: rest => read 16 rest
  | '0' :: d :: rest => read 8 (d :: rest)
  | _ => read 10 cs

def dottedParts (host : List Char) : List (List Char) :=
  let parts := Text.pieces (· == '.') host
  if parts.getLast? = some [] then parts.dropLast else parts

def endsInNumber (host : List Char) : Bool :=
  match (dottedParts host).getLast? with
  | none => false
  | some part => (!part.isEmpty && part.all Char.isDigit) || (webNumber? part).isSome

def isWebV4 (host : List Char) : Bool :=
  match (dottedParts host).mapM webNumber? with
  | none => false
  | some numbers =>
      match numbers.reverse with
      | [] => false
      | last :: front =>
          front.length ≤ 3 && front.all (· ≤ 255) && last < Nat.pow 256 (4 - front.length)

def v6Fault? (host : List Char) : Option UrlFault :=
  if host.getLast? = some ']' ∧ (readV6 (host.drop 1).dropLast).isSome then none else some .badV6

def webHostFault? (host : List Char) : Option UrlFault :=
  if host.head? = some '[' then v6Fault? host
  else
    let domain := Text.Utf8.lossy (Text.unescape host)
    if domain.isEmpty then some .emptyHost
    else if domain.any (fun c => isForbiddenInHost c || c == '%' || c.toNat < 0x20 || c == '\x7F' ||
      c == Text.Utf8.replacement)
    then some .badDomain
    else if endsInNumber domain ∧ isWebV4 domain = false then some .badV4
    else none

def hostFault? (web : Bool) (host : List Char) : Option UrlFault :=
  if web then webHostFault? host
  else if host.head? = some '[' then v6Fault? host
  else if host.any isForbiddenInHost then some .badHostCharacter
  else none

def readPort (cs : List Char) : Except UrlFault (Option Nat × List Char) :=
  let digits := cs.takeWhile Char.isDigit
  match cs.dropWhile Char.isDigit with
  | [] | '\\' :: _ =>
      match Text.readUnsigned 65536 digits with
      | .ok port => .ok (some port, cs.dropWhile Char.isDigit)
      | .error .empty => .ok (none, cs.dropWhile Char.isDigit)
      | .error _ => .error .badPort
  | _ => .error .badPort

def plainDots : List Char → List Char
  | '%' :: '2' :: 'e' :: rest => '.' :: plainDots rest
  | '%' :: '2' :: 'E' :: rest => '.' :: plainDots rest
  | c :: rest => c :: plainDots rest
  | [] => []

def follow : List (List Char) → List (List Char) → List (List Char)
  | seen, [] => seen.reverse
  | seen, segment :: rest =>
      let seen :=
        if plainDots segment = ['.', '.'] then seen.tail
        else if plainDots segment = ['.'] then seen
        else segment :: seen
      let ends := rest.isEmpty && (plainDots segment = ['.', '.'] || plainDots segment = ['.'])
      follow (if ends then [] :: seen else seen) rest

def straightened (web : Bool) (path : List Char) : List Char :=
  match path with
  | first :: rest =>
      if first = '/' ∨ (web ∧ first = '\\') then
        '/' :: List.intercalate ['/']
          (follow [] (Text.pieces (fun c => c == '/' || (web && c == '\\')) rest))
      else path
  | [] => []

def splitPath (web : Bool) (cs : List Char) : List Char × Option (List Char) :=
  let cs := cs.takeWhile (· != '#')
  match Text.cut? ['?'] cs with
  | some (path, query) => (straightened web path, some query)
  | none => (straightened web cs, none)

def splitUser (authority rest : List Char) : Except UrlFault (List Char × List Char) :=
  match Text.cutLast? '@' authority with
  | none => .ok ([], authority)
  | some ([], address) =>
      if address.isEmpty ∧ rest.isEmpty = false then .error .emptyHost else .ok ([], address)
  | some (user, address) => .ok (user, address)

def readAuthority (web : Bool) (scheme : String) (cs : List Char) : Except UrlFault Url := do
  let authority := cs.takeWhile (fun c => !endsAuthority web c)
  let rest := cs.dropWhile (fun c => !endsAuthority web c)
  let (userInfo, address) ← splitUser authority rest
  let (host, afterHost) := splitHost false address
  if web ∧ host.isEmpty then throw .emptyHost
  match hostFault? web host with
  | some fault => throw fault
  | none => pure ()
  let (port, afterPort) ← match afterHost with
    | [] => pure (none, [])
    | _ :: portText => if host.isEmpty then throw .emptyHost else readPort portText
  if host.isEmpty ∧ userInfo ≠ [] ∧ userInfo ≠ [':'] then throw .emptyHost
  let (user, password) := match Text.cut? [':'] userInfo with
    | some (user, password) => (user, if password.isEmpty then none else some password)
    | none => (userInfo, none)
  let (path, query) := splitPath web (afterPort ++ rest)
  return ⟨scheme, user, password, host, port, path, query⟩

def isDrive (host : List Char) : Bool :=
  match host with
  | [letter, mark] => letter.isAlpha && (mark == ':' || mark == '|')
  | _ => false

def readFile (scheme : String) (cs : List Char) : Except UrlFault Url :=
  let isSlash (c : Char) : Bool := c == '/' || c == '\\'
  let (host, rest) := match cs with
    | a :: b :: more =>
        if isSlash a && isSlash b then
          let host := more.takeWhile (fun c => !endsAuthority true c)
          if isDrive host then ([], more)
          else (host, more.dropWhile (fun c => !endsAuthority true c))
        else ([], cs)
    | _ => ([], cs)
  let (path, query) := splitPath true rest
  match if host.isEmpty then none else webHostFault? host with
  | some fault => .error fault
  | none => .ok ⟨scheme, [], none, host, none, path, query⟩

def read (s : String) : Except UrlFault Url :=
  let blank (c : Char) : Bool := c ≤ ' '
  let cs := ((s.toList.dropWhile blank).reverse.dropWhile blank).reverse.filter
    (fun c => c != '\t' && c != '\n' && c != '\r')
  match splitScheme? cs with
  | none => .error .noScheme
  | some (scheme, rest) =>
      if scheme = "file" then readFile scheme rest
      else if scheme ∈ webSchemes then
        readAuthority true scheme (rest.dropWhile (fun c => c == '/' || c == '\\'))
      else
        match rest with
        | '/' :: '/' :: authority => readAuthority false scheme authority
        | _ =>
            let (path, query) := splitPath false rest
            .ok ⟨scheme, [], none, [], none, path, query⟩

end Url
end Rostering.Net
