import Rostering.Config.Tree
import Rostering.Toml.Scalar

namespace Rostering.Toml

inductive Quoting where
  | basic | literal | longBasic | longLiteral
deriving DecidableEq, Repr

def longestRun (mark : Char) : Nat → List Char → Nat
  | _, [] => 0
  | run, c :: cs =>
      if c = mark then max (run + 1) (longestRun mark (run + 1) cs) else longestRun mark 0 cs

def isPlain (c : Char) : Bool :=
  c.isAlphanum || c == '_' || c == '-' || c == '.' || c == '/' || c == ':' || c == ' '

def needsEscape (c : Char) : Bool :=
  (c.toNat < 0x20 && c != '\t' && c != '\n') || c.toNat == 0x7F

def quoting (cs : List Char) : Quoting :=
  let escapes := cs.any needsEscape
  let backslash := cs.contains '\\'
  let newline := cs.contains '\n'
  let singles := longestRun '\'' 0 cs
  let doubles := longestRun '"' 0 cs
  if cs.all isPlain then .basic
  else if !escapes && !backslash && doubles == 0 && !newline then .basic
  else if !escapes && !newline && singles == 0 then .literal
  else if !escapes && !backslash && doubles ≤ 2 then .longBasic
  else if !escapes && singles ≤ 2 then .longLiteral
  else if newline then .longBasic
  else .basic

def upperHex4 (n : Nat) : List Char :=
  let ds := (Nat.toDigits 16 n).map Char.toUpper
  List.replicate (4 - ds.length) '0' ++ ds

def escapeControl (c : Char) : List Char :=
  if c = '\x08' then ['\\', 'b']
  else if c = '\t' then ['\\', 't']
  else if c = '\x0c' then ['\\', 'f']
  else if c = '\r' then ['\\', 'r']
  else if c = '\\' then ['\\', '\\']
  else if needsEscape c then '\\' :: 'u' :: upperHex4 c.toNat
  else [c]

def basicChar (c : Char) : List Char :=
  if c = '\n' then ['\\', 'n'] else if c = '"' then ['\\', '"'] else escapeControl c

def longBasicChars : Nat → List Char → List Char
  | _, [] => []
  | run, c :: cs =>
      if c = '"' then
        if run = 2 then '\\' :: '"' :: longBasicChars 0 cs else '"' :: longBasicChars (run + 1) cs
      else if c = '\n' then '\n' :: longBasicChars 0 cs
      else escapeControl c ++ longBasicChars 0 cs

def opener (mark : List Char) (cs : List Char) : List Char :=
  if cs.contains '\n' then mark ++ ['\n'] else mark

def stringChars (cs : List Char) : List Char :=
  match quoting cs with
  | .basic => '"' :: (cs.flatMap basicChar ++ ['"'])
  | .literal => '\'' :: (cs ++ ['\''])
  | .longBasic => opener ['"', '"', '"'] cs ++ longBasicChars 0 cs ++ ['"', '"', '"']
  | .longLiteral => opener ['\'', '\'', '\''] cs ++ cs ++ ['\'', '\'', '\'']

open Config (Tree)

def scalarLine (entry : String × Tree) : List Char :=
  let line (value : List Char) : List Char := entry.1.toList ++ [' ', '=', ' '] ++ value ++ ['\n']
  match entry.2 with
  | .text value => line (stringChars value.toList)
  | .number value => line (Text.digits value)
  | .flag value => line (if value then "true" else "false").toList
  | .part _ => []

def scalarLines (entries : List (String × Tree)) : List Char := entries.flatMap scalarLine

def heading (path : List String) : List Char :=
  '[' :: (List.intercalate ['.'] (path.map String.toList) ++ [']', '\n'])

mutual

def blocks (path : List String) : Tree → List (List Char)
  | .part entries => (heading path ++ scalarLines entries) :: partBlocks path entries
  | _ => []

def partBlocks (path : List String) : List (String × Tree) → List (List Char)
  | [] => []
  | (name, value) :: rest => blocks (path ++ [name]) value ++ partBlocks path rest

end

def write (tree : Tree) : String :=
  match tree with
  | .part entries =>
      let top := scalarLines entries
      let all := (if top.isEmpty then [] else [top]) ++ partBlocks [] entries
      String.ofList (List.intercalate ['\n'] all)
  | _ => ""

end Rostering.Toml

namespace Rostering.Config

def AppConfig.redactedToml (c : AppConfig) : String := Toml.write c.redacted.tree

end Rostering.Config
