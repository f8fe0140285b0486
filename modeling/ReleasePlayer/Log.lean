/-
This file holds what the program tells about its work: entries of four levels, in the order in
which they arise.
-/

import ReleasePlayer.Text.Blank
import ReleasePlayer.Text.Quoted

namespace ReleasePlayer.Log

inductive Level where
  | debug
  | info
  | warn
  | error
deriving DecidableEq, Repr

/-- The name under which a level is written. -/
def Level.name : Level → String
  | .debug => "DEBUG"
  | .info => "INFO"
  | .warn => "WARN"
  | .error => "ERROR"

/-- One thing told. -/
structure Entry where
  level : Level
  text : String
deriving DecidableEq, Repr

def debug (text : String) : Entry := ⟨.debug, text⟩

def info (text : String) : Entry := ⟨.info, text⟩

def warn (text : String) : Entry := ⟨.warn, text⟩

def error (text : String) : Entry := ⟨.error, text⟩

/-- An entry as one line. -/
def Entry.line (entry : Entry) : String := entry.level.name ++ " " ++ entry.text

/-- A character as it stands in a line that may end up on a terminal: those that would steer the
terminal are spelled out. -/
def harmless (c : Char) : List Char :=
  if c ∈ ['\x07', '\x08', '\x0c', '\x1b', '\x7f'] then
    ['\\', 'x'] ++ (if c.toNat < 16 then ['0'] else []) ++ Nat.toDigits 16 c.toNat
  else if 0x80 ≤ c.toNat ∧ c.toNat ≤ 0x9f then Text.spellNumber c
  else [c]

/-- An entry as one line whose level takes five columns, so that the texts stand below each
other. The line does not end in a blank. -/
def Entry.column (entry : Entry) : String :=
  let text := String.ofList (entry.text.toList.flatMap harmless)
  Text.trimEnd ("".pushn ' ' (5 - entry.level.name.length) ++ entry.level.name ++ " " ++ text)

end ReleasePlayer.Log
