/-
This file reads the host of a URL. A host is a name, an address of four numbers, or an address of
eight groups in square brackets. Addresses come out in one spelling: four plain numbers, or groups
without leading zeros whose longest run of zeros is left out.
-/

import ReleasePlayer.Text.Fields
import ReleasePlayer.Url.Percent

namespace ReleasePlayer.Url

/-- What a URL is refused for. -/
inductive Fault where
  | emptyHost
  | badDomain
  | badPort
  | badAddress4
  | badAddress6
  | badHostCharacter
  | relativeWithoutBase
  | relativeToUnsplit
deriving DecidableEq, Repr

/-- The wording of a fault. -/
def Fault.message : Fault → String
  | emptyHost => "empty host"
  | badDomain => "invalid international domain name"
  | badPort => "invalid port number"
  | badAddress4 => "invalid IPv4 address"
  | badAddress6 => "invalid IPv6 address"
  | badHostCharacter => "invalid domain character"
  | relativeWithoutBase => "relative URL without a base"
  | relativeToUnsplit => "relative URL with a cannot-be-a-base base"

/-! ### Numbers -/

/-- Reads digits in a base; there may be none. -/
def number? (base : Nat) (digits : List Char) : Option Nat :=
  digits.foldlM (fun value c => do
    let digit ← Text.hexValue? c
    if digit < base then some (value * base + digit) else none) 0

/-- Writes a number in base sixteen, in small letters. -/
def hexText (value : Nat) : List Char := Nat.toDigits 16 value

/-! ### Addresses of four numbers -/

/-- Reads a number of an address: octal after a zero, in base sixteen after `0x`. -/
def addressNumber? : List Char → Option Nat
  | [] => none
  | '0' :: 'x' :: rest => number? 16 rest
  | '0' :: 'X' :: rest => number? 16 rest
  | '0' :: c :: rest => number? 8 (c :: rest)
  | digits => number? 10 digits

/-- The fields of a dotted text without the empty one after a last dot. -/
def dotted (text : List Char) : List (List Char) :=
  let fields := Text.fields (· == '.') text
  if fields.length > 1 ∧ fields.getLast? = some [] then fields.dropLast else fields

/-- Whether a name ends in a number, so that it has to be an address. -/
def endsInNumber (name : List Char) : Bool :=
  match (dotted name).getLast? with
  | none => false
  | some last =>
    (!last.isEmpty && last.all Char.isDigit) || (addressNumber? last).isSome

/-- Reads an address: every number but the last is one byte, the last one fills the rest. -/
def address4? (name : List Char) : Option Nat := do
  let numbers ← (dotted name).mapM addressNumber?
  let last ← numbers.getLast?
  let first := numbers.dropLast
  if first.length ≤ 3 ∧ first.all (· ≤ 255) ∧ last < 1 <<< (8 * (4 - first.length)) then
    some (first.foldl (fun value part => value * 256 + part) 0 <<< (8 * (4 - first.length)) + last)
  else none

/-- Writes an address as four numbers. -/
def address4Text (address : Nat) : List Char :=
  ['.'].intercalate <| [3, 2, 1, 0].map fun place => Nat.toDigits 10 (address >>> (8 * place) % 256)

/-! ### Addresses of eight groups -/

/-- Reads one group. -/
def group? (digits : List Char) : Option Nat :=
  if digits.isEmpty ∨ digits.length > 4 then none else number? 16 digits

/-- Reads one of the four numbers that may stand for the last two groups. -/
def byte? (digits : List Char) : Option Nat :=
  match digits with
  | [] => none
  | '0' :: _ :: _ => none
  | _ => (if digits.all Char.isDigit then number? 10 digits else none).filter (· ≤ 255)

/-- Reads groups; the last field may be four numbers, which count as two groups. -/
def groups? (mayEndInBytes : Bool) : List (List Char) → Option (List Nat)
  | [] => some []
  | [last] =>
    if mayEndInBytes ∧ last.contains '.' then do
      match ← (Text.fields (· == '.') last).mapM byte? with
      | [a, b, c, d] => some [a * 256 + b, c * 256 + d]
      | _ => none
    else do return [← group? last]
  | field :: more => do return (← group? field) :: (← groups? mayEndInBytes more)

/-- The text before and after the first pair of colons. -/
def splitAtGap : List Char → Option (List Char × List Char)
  | ':' :: ':' :: rest => some ([], rest)
  | c :: rest => (splitAtGap rest).map fun (before, after) => (c :: before, after)
  | [] => none

/-- The fields between colons, none in an empty text. -/
def colonFields (text : List Char) : List (List Char) :=
  if text.isEmpty then [] else Text.fields (· == ':') text

/-- Reads an address; a pair of colons stands for one or more groups of zeros. -/
def address6? (text : List Char) : Option (List Nat) :=
  match splitAtGap text with
  | some (before, after) => do
    let left ← groups? false (colonFields before)
    let right ← groups? true (colonFields after)
    if left.length + right.length ≤ 7 then
      some (left ++ List.replicate (8 - left.length - right.length) 0 ++ right)
    else none
  | none => do
    let groups ← groups? true (colonFields text)
    if groups.length = 8 then some groups else none

/-- The number of zeros at the front. -/
def zerosInFront (groups : List Nat) : Nat := (groups.takeWhile (· == 0)).length

/-- The place and length of the first of the longest runs of zeros. -/
def longestGap (groups : List Nat) : Nat × Nat :=
  (List.range groups.length).foldl (fun best start =>
    let length := zerosInFront (groups.drop start)
    if length > best.2 then (start, length) else best) (0, 0)

/-- Writes groups with colons between them. -/
def groupsText (groups : List Nat) : List Char := [':'].intercalate (groups.map hexText)

/-- Writes an address in its brackets. -/
def address6Text (groups : List Nat) : List Char :=
  let (start, length) := longestGap groups
  let body :=
    if length < 2 then groupsText groups
    else groupsText (groups.take start) ++ [':', ':'] ++ groupsText (groups.drop (start + length))
  '[' :: body ++ [']']

/-! ### Hosts -/

/-- Reads the text of a host in brackets. -/
def bracketed (text : List Char) : Except Fault (List Char) :=
  if text.getLast? = some ']' then
    match address6? (text.drop 1).dropLast with
    | some groups => .ok (address6Text groups)
    | none => .error .badAddress6
  else .error .badAddress6

/-- Characters that no name of a host may hold. -/
def isForbiddenInDomain (c : Char) : Bool :=
  c.toNat ≤ 0x20 || 0x7f ≤ c.toNat ||
    c ∈ ['%', '#', '/', ':', '<', '>', '?', '@', '[', '\\', ']', '^', '|']

/-- Characters that no host of an unknown scheme may hold. -/
def isForbiddenInHost (c : Char) : Bool :=
  c ∈ ['\x00', '\t', '\n', '\r', ' ', '#', '/', ':', '<', '>', '?', '@', '[', '\\', ']', '^', '|']

/-- Reads a host that names a place on the net. Names are ASCII here, in small letters. -/
def domain (text : List Char) : Except Fault (List Char) :=
  if text.head? = some '[' then bracketed text
  else
    match Percent.text? (Percent.decode text) with
    | none => .error .badDomain
    | some decoded =>
      let name := decoded.toList.map Char.toLower
      if name.any isForbiddenInDomain then .error .badDomain
      else if name.isEmpty then .error .emptyHost
      else if endsInNumber name then
        match address4? name with
        | some address => .ok (address4Text address)
        | none => .error .badAddress4
      else .ok name

/-- Reads a host of a scheme about which nothing is known. -/
def unknownHost (text : List Char) : Except Fault (List Char) :=
  if text.head? = some '[' then bracketed text
  else if text.any isForbiddenInHost then .error .badHostCharacter
  else .ok (Percent.encode Percent.isControl text)

end ReleasePlayer.Url
