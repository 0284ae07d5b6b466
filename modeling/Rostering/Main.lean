import Rostering.CommandLine

namespace Rostering

open Config (Environment Found)

def findFile (path : String) : IO Found := do
  try
    return .file (← IO.FS.readFile path)
  catch
    | .noFileOrDirectory .. => return .nothing
    | _ => return .unreadable

def processEnvironment : IO Environment := do
  let text ← try IO.FS.readFile "/proc/self/environ" catch _ => pure ""
  return (Text.pieces (· == '\x00') text.toList).filterMap fun entry =>
    (Text.cut? ['='] entry).map fun (name, value) => (String.ofList name, String.ofList value)

end Rostering

def main (args : List String) : IO UInt32 := do
  let env ← Rostering.processEnvironment
  let settings ← Rostering.findFile ".env"
  let start : Rostering.CommandLine.Launch := ⟨args, env, fun _ => settings, .away⟩
  let path := Rostering.CommandLine.configPath args (Rostering.CommandLine.environment start).1
  let file ← Rostering.findFile path
  let beside ← Rostering.findFile (Rostering.Config.fileBeside path)
  let setting : Rostering.CommandLine.Launch :=
    { start with lookUp := fun p =>
        if p = ".env" then settings else if p = path then file else beside }
  let outcome := Rostering.CommandLine.run setting
  IO.eprint (Rostering.CommandLine.warning setting)
  IO.print outcome.shown
  IO.eprint outcome.complaint
  return UInt32.ofNat outcome.code
