import Rostering.Net.Address
import Rostering.Net.Url
import Rostering.Postgres.Error
import Rostering.Text.Characters

namespace Rostering.Postgres

def sslModes : List String := ["disable", "allow", "prefer", "require", "verify-ca", "verify-full"]

def quotedChar (c : Char) : List Char :=
  match c with
  | '"' => ['\\', '"']
  | '\\' => ['\\', '\\']
  | '\n' => ['\\', 'n']
  | '\r' => ['\\', 'r']
  | '\t' => ['\\', 't']
  | '\x00' => ['\\', '0']
  | _ =>
      if Text.isHidden c then
        "\\u\x7b".toList ++ Nat.toDigits 16 c.toNat ++ ['\x7d']
      else [c]

def quoted (s : String) : String := "\"" ++ String.ofList (s.toList.flatMap quotedChar) ++ "\""

def badSetting (reason : String) : DriverError := .configuration reason []

def sslModeFault? (value : String) : Option DriverError :=
  if Text.lowerAscii value ∈ sslModes then none
  else
    let reason := badSetting ("unknown value " ++ quoted value ++ " for \x60ssl_mode\x60")
    some (.configuration reason.message reason.causes)

def numberFault? (limit : Nat) (value : String) : Option DriverError :=
  match Text.readUnsigned limit value.toList with
  | .ok _ => none
  | .error fault => some (badSetting fault.message)

def parameterFault? (name value : String) : Option DriverError :=
  if name = "sslmode" ∨ name = "ssl-mode" then sslModeFault? value
  else if name = "statement-cache-capacity" then numberFault? Text.u64Limit value
  else if name = "port" then numberFault? 65536 value
  else if name = "hostaddr" ∧ (Net.Address.read value).isNone then
    some (badSetting "invalid IP address syntax")
  else none

def escapeFault? (part : List Char) : Option DriverError :=
  (Text.Utf8.fault? (Text.unescape part)).map fun
    | (index, some length) => badSetting ("invalid utf-8 sequence of " ++ Text.natText length ++
        " bytes from index " ++ Text.natText index)
    | (index, none) =>
        badSetting ("incomplete utf-8 byte sequence from index " ++ Text.natText index)

def socketFault? (host : List Char) : Option DriverError :=
  if (Text.unescape host).head? = some 0x2F then escapeFault? host else none

def parameters (url : Net.Url) : List (String × String) :=
  Text.formPairs (String.ofList (url.query.getD []))

def partFault? (url : Net.Url) : Option DriverError :=
  socketFault? url.host <|> escapeFault? url.user <|> escapeFault? (url.password.getD []) <|>
    escapeFault? (url.path.dropWhile (· == '/')) <|>
    (parameters url).findSome? fun (name, value) => parameterFault? name value

def hosts (url : Net.Url) : List String :=
  let decoded := Text.Utf8.lossy (Text.unescape url.host)
  let own := if decoded.head? = some '/' then decoded else url.host
  (if own.isEmpty then [] else [String.ofList own]) ++
    (parameters url).filterMap fun (name, value) =>
      if name = "host" ∨ name = "hostaddr" then some value else none

def target (url : Net.Url) : Net.Target :=
  if (hosts url).any fun host => host.toList.head? = some '/' then .socket
  else .host ((hosts url).getLast?.getD Net.thisHost)

def readUrl (text : String) : Except DriverError Net.Target :=
  match Net.Url.read text with
  | .error fault => .error (badSetting fault.message)
  | .ok url =>
      match partFault? url with
      | some fault => .error fault
      | none => .ok (target url)

end Rostering.Postgres
