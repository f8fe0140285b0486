/-
This file holds URLs: their parts and their text. Every part is kept as it is written, with percent
encoding in place, so that the text of a URL is the parts put together.
-/

import ReleasePlayer.Url.Host

namespace ReleasePlayer

/-- The server that a URL names. -/
structure Url.Authority where
  username : List Char
  password : List Char
  host : List Char
  /-- The port, unless it is the usual one of the scheme. -/
  port : Option Nat
deriving DecidableEq, Repr

/-- The path of a URL. -/
inductive Url.Path where
  /-- Text after the scheme that is not split into segments. -/
  | unsplit (text : List Char)
  /-- Segments, each with a slash before it. -/
  | segments (list : List (List Char))
deriving DecidableEq, Repr

/-- A URL in its parts. -/
structure Url where
  scheme : List Char
  authority : Option Url.Authority
  path : Url.Path
  query : Option (List Char)
  fragment : Option (List Char)
deriving DecidableEq, Repr

namespace Url

/-! ### Schemes -/

/-- The schemes that name files. -/
def isFile (scheme : List Char) : Bool := scheme = "file".toList

/-- The schemes of the web, which always name a server. -/
def isWeb (scheme : List Char) : Bool :=
  ["http", "https", "ws", "wss", "ftp"].any fun name => scheme = name.toList

/-- The schemes whose URLs take a backslash for a slash and always have a path. -/
def isSpecial (scheme : List Char) : Bool := isFile scheme || isWeb scheme

/-- The usual port of a scheme. -/
def usualPort? (scheme : List Char) : Option Nat :=
  if scheme = "http".toList ∨ scheme = "ws".toList then some 80
  else if scheme = "https".toList ∨ scheme = "wss".toList then some 443
  else if scheme = "ftp".toList then some 21
  else none

/-! ### The text of a URL -/

/-- The user name and the password with the sign after them. -/
def Authority.credentialsText (authority : Authority) : List Char :=
  if authority.username.isEmpty ∧ authority.password.isEmpty then []
  else
    authority.username ++
      (if authority.password.isEmpty then [] else ':' :: authority.password) ++ ['@']

/-- The text of an authority with the slashes before it. -/
def Authority.text (authority : Authority) : List Char :=
  ['/', '/'] ++ authority.credentialsText ++ authority.host ++
    match authority.port with
    | some port => ':' :: Nat.toDigits 10 port
    | none => []

/-- The text of a path. -/
def Path.text : Path → List Char
  | unsplit text => text
  | segments list => list.flatMap fun segment => '/' :: segment

/-- What stands between a scheme and a path: the authority, or a dot segment where the path would
otherwise be read as one. -/
def lead : Option Authority → Path → List Char
  | some authority, _ => authority.text
  | none, .segments ([] :: _ :: _) => ['/', '.']
  | none, _ => []

/-- A part after the sign that starts it. -/
def partText (sign : Char) : Option (List Char) → List Char
  | some text => sign :: text
  | none => []

/-- The text of a URL. -/
def text (url : Url) : List Char :=
  url.scheme ++ [':'] ++ lead url.authority url.path ++ url.path.text ++ partText '?' url.query ++
    partText '#' url.fragment

/-! ### Paths -/

/-- Whether a segment stands for its own place. -/
def isDot (segment : List Char) : Bool :=
  segment.map Char.toLower ∈ [".".toList, "%2e".toList]

/-- Whether a segment stands for the place above. -/
def isDoubleDot (segment : List Char) : Bool :=
  segment.map Char.toLower ∈
    ["..".toList, ".%2e".toList, "%2e.".toList, "%2e%2e".toList]

/-- Whether a segment names a drive, in either of its spellings. -/
def isDrive : List Char → Bool
  | [letter, mark] => letter.isAlpha && (mark == ':' || mark == '|')
  | _ => false

/-- Whether a segment names a drive in its normal spelling. -/
def isNormalDrive (segment : List Char) : Bool := isDrive segment && segment.getLast? == some ':'

/-- A path without its last segment. The drive at the top of a file path stays. -/
def parent (scheme : List Char) (path : List (List Char)) : List (List Char) :=
  match path with
  | [drive] => if isFile scheme ∧ isNormalDrive drive then [drive] else []
  | _ => path.dropLast

/-- A path without its last segment, as two dots ask for. What looks like a drive stays, in paths
that have nothing to do with files too. -/
def above (path : List (List Char)) : List (List Char) :=
  if path.getLast?.any isDrive then path else path.dropLast

/-- Puts one more segment, already encoded, at the end of a path. Dots are followed: one dot adds
nothing, two take the last segment away, and at the very end they leave an empty segment. -/
def addSegment (scheme : List Char) (path : List (List Char)) (segment : List Char)
    (isLast : Bool) : List (List Char) :=
  if isDoubleDot segment then above path ++ (if isLast then [[]] else [])
  else if isDot segment then path ++ (if isLast then [[]] else [])
  else if isFile scheme ∧ path.isEmpty ∧ isDrive segment then [segment.take 1 ++ [':']]
  else path ++ [segment]

/-- Puts segments at the end of a path. -/
def addSegments (scheme : List Char) (path : List (List Char)) :
    List (List Char) → List (List Char)
  | [] => path
  | [last] => addSegment scheme path last true
  | segment :: more => addSegments scheme (addSegment scheme path segment false) more

/-- A file path without empty segments at its front. -/
def withoutLead (scheme : List Char) (path : List (List Char)) : List (List Char) :=
  if isFile scheme then
    match path.dropWhile List.isEmpty with
    | [] => [[]]
    | rest => rest
  else path

/-- Reads the text of a path, relative to the segments before it. -/
def readPath (scheme : List Char) (before : List (List Char)) (text : List Char) :
    List (List Char) :=
  let isSeparator (c : Char) : Bool := c == '/' || (isSpecial scheme && c == '\\')
  withoutLead scheme <|
    addSegments scheme before <| (Text.fields isSeparator text).map (Percent.encode Percent.inPath)

end Url

end ReleasePlayer
