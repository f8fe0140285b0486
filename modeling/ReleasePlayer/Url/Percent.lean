/-
This file holds percent encoding. A character that may not stand for itself at its place in a URL is
written byte by byte in UTF-8, each byte as `%` and two digits; every place has its own set of such
characters. The form encoding of a query is a variant that writes a space as `+`.
-/

import ReleasePlayer.Text.Hexadecimal

namespace ReleasePlayer.Percent

/-! ### Single bytes -/

/-- The digit of a number below sixteen. -/
def digit (value : Nat) : Char := Char.ofNat (if value < 10 then 48 + value else 55 + value)

/-- A byte as `%` and two digits. -/
def byte (value : UInt8) : List Char :=
  ['%', digit (value.toNat / 16), digit (value.toNat % 16)]

/-! ### Texts -/

/-- Writes a character, byte by byte if it is in the set or beyond ASCII. -/
def encodeChar (escapes : Char → Bool) (c : Char) : List Char :=
  if escapes c || 0x7f ≤ c.toNat then (String.utf8EncodeChar c).flatMap byte else [c]

/-- Writes a text. -/
def encode (escapes : Char → Bool) (text : List Char) : List Char :=
  text.flatMap (encodeChar escapes)

/-- Reads the bytes of a text; a `%` without two digits after it stands for itself. -/
def decode : List Char → List UInt8
  | '%' :: high :: low :: rest =>
    match Text.hexValue? high, Text.hexValue? low with
    | some h, some l => UInt8.ofNat (16 * h + l) :: decode rest
    | _, _ => String.utf8EncodeChar '%' ++ decode (high :: low :: rest)
  | c :: rest => String.utf8EncodeChar c ++ decode rest
  | [] => []

/-- The text of bytes in UTF-8. -/
def text? (bytes : List UInt8) : Option String := String.fromUTF8? ⟨bytes.toArray⟩

/-! ### What may not stand for itself -/

/-- Control characters. -/
def isControl (c : Char) : Bool := c.toNat < 0x20 || c.toNat == 0x7f

/-- In a fragment. -/
def inFragment (c : Char) : Bool :=
  isControl c || c ∈ [' ', '"', '<', '>', '\x60']

/-- In a path. -/
def inPath (c : Char) : Bool := inFragment c || c ∈ ['#', '?', '\x7b', '\x7d']

/-- In a single segment of a path, which may hold any text: the separators and the percent sign
count among the escaped. -/
def inSegment (isSpecial : Bool) (c : Char) : Bool :=
  inPath c || c ∈ ['/', '%'] || (isSpecial && c == '\\')

/-- In a user name and a password. -/
def inCredentials (c : Char) : Bool :=
  inPath c || c ∈ ['/', ':', ';', '=', '@', '[', '\\', ']', '^', '|']

/-- In a query. -/
def inQuery (isSpecial : Bool) (c : Char) : Bool :=
  isControl c || c ∈ [' ', '"', '#', '<', '>'] || (isSpecial && c == '\'')

/-! ### Forms -/

/-- Characters that a form writes as they are. -/
def isFormPlain (c : Char) : Bool := c.isAlphanum || c ∈ ['*', '-', '.', '_']

/-- Writes a character of a form. -/
def encodeFormChar (c : Char) : List Char :=
  if c = ' ' then ['+']
  else if isFormPlain c then [c]
  else (String.utf8EncodeChar c).flatMap byte

/-- Writes a text in a form. -/
def encodeForm (text : List Char) : List Char := text.flatMap encodeFormChar

/-- Writes one pair of a form. -/
def formPair (name value : List Char) : List Char := encodeForm name ++ '=' :: encodeForm value

/-- Reads a text in a form. -/
def decodeForm? (text : List Char) : Option String :=
  text? (decode (text.map fun c => if c = '+' then ' ' else c))

end ReleasePlayer.Percent
