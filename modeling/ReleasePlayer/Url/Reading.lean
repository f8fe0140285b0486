/-
This file reads URLs, on their own or relative to a base. The text is cut at its fragment and its
query first, since both end whatever stands before them; what is left is a scheme, an authority and
a path, each of which may be missing if there is a base to take it from.
-/

import ReleasePlayer.Url

namespace ReleasePlayer.Url

/-! ### Cutting -/

/-- A text cut at its query and its fragment. -/
structure Cut where
  head : List Char
  query : Option (List Char)
  fragment : Option (List Char)

/-- Cuts a text at the first such character, which belongs to neither part. -/
def cutAt (sign : Char) (text : List Char) : List Char × Option (List Char) :=
  match text.dropWhile (· != sign) with
  | [] => (text, none)
  | _ :: rest => (text.takeWhile (· != sign), some rest)

/-- Cuts a text. -/
def cut (text : List Char) : Cut :=
  let (rest, fragment) := cutAt '#' text
  let (head, query) := cutAt '?' rest
  { head, query, fragment }

/-- A text without tabs and line ends. -/
def withoutBreaks (text : List Char) : List Char :=
  text.filter fun c => !(c == '\t' || c == '\n' || c == '\r')

/-- A text as it is read: blanks and control characters at its ends do not count, nor do tabs and
line ends anywhere. -/
def readable (text : String) : List Char :=
  let isEdge (c : Char) : Bool := decide (c.toNat ≤ 0x20)
  withoutBreaks ((text.toList.dropWhile isEdge).reverse.dropWhile isEdge).reverse

/-- The scheme of a text in small letters, and what follows its colon. -/
def schemeOf? (head : List Char) : Option (List Char × List Char) :=
  match cutAt ':' head with
  | (first :: more, some rest) =>
    if first.isAlpha ∧ more.all (fun c => c.isAlphanum || c ∈ ['+', '-', '.']) then
      some ((first :: more).map Char.toLower, rest)
    else none
  | _ => none

/-- Slashes, backslashes among them. -/
def isSlash (c : Char) : Bool := c == '/' || c == '\\'

/-! ### Assembling -/

/-- Encodes a query. -/
def encodeQuery (scheme : List Char) (query : Option (List Char)) : Option (List Char) :=
  query.map (Percent.encode (Percent.inQuery (isSpecial scheme)))

/-- Puts a URL together from its authority, its path and what the text says of the rest. -/
def assemble (scheme : List Char) (authority : Option Authority) (path : Path) (cut : Cut) : Url :=
  { scheme, authority, path
    query := encodeQuery scheme cut.query
    fragment := cut.fragment.map (Percent.encode Percent.inFragment) }

/-! ### Authorities -/

/-- The last part of a text after a sign, and all that stands before it. -/
def cutAtLast (sign : Char) (text : List Char) : Option (List Char) × List Char :=
  match cutAt sign text.reverse with
  | (after, some before) => (some before.reverse, after.reverse)
  | (_, none) => (none, text)

/-- Splits a host from a port; colons within brackets belong to the host. -/
def splitPort (inBrackets : Bool) : List Char → List Char × Option (List Char)
  | [] => ([], none)
  | c :: rest =>
    if c = ':' ∧ !inBrackets then ([], some rest)
    else
      let (host, port) := splitPort (c = '[' || (inBrackets && c != ']')) rest
      (c :: host, port)

/-- Reads a port. Digits are all it may hold; the usual port of the scheme, as well as an empty
one, counts as none. -/
def readPort (scheme : List Char) (digits : List Char) : Except Fault (Option Nat) :=
  if digits.all Char.isDigit then
    let port := digits.foldl (fun value c => value * 10 + (c.toNat - 48)) 0
    if 65535 < port then .error .badPort
    else if digits.isEmpty ∨ usualPort? scheme = some port then .ok none
    else .ok (some port)
  else .error .badPort

/-- Reads the authority of a URL that is not one of a file, and what a backslash cuts off behind the
port. Credentials need a host, unless they are as good as none: a lone colon, or nothing at the very
end of a text. -/
def readAuthority (scheme text : List Char) (isAtEnd : Bool) :
    Except Fault (Authority × List Char) := do
  let (credentials, place) := cutAtLast '@' text
  let (username, password) := cutAt ':' (credentials.getD [])
  let encode := Percent.encode Percent.inCredentials
  let (hostText, portText) := splitPort false place
  if hostText.isEmpty ∧ isWeb scheme then throw .emptyHost
  let needsHost : Bool := match credentials with
    | none => false
    | some [] => !isAtEnd
    | some text => text != [':']
  if place.isEmpty ∧ needsHost then throw .emptyHost
  let host ← if isSpecial scheme then domain hostText else unknownHost hostText
  if host.isEmpty ∧ portText.isSome then throw .emptyHost
  let digits := (portText.getD []).takeWhile (· != '\\')
  let port ← readPort scheme digits
  return ({ username := encode username, password := encode (password.getD []), host, port },
    (portText.getD []).drop digits.length)

/-- Reads a URL from its authority on. -/
def readFromAuthority (scheme : List Char) (cut : Cut) : Except Fault Url := do
  let isEnd (c : Char) : Bool := c == '/' || (isSpecial scheme && c == '\\')
  let after := cut.head.dropWhile fun c => !isEnd c
  let isAtEnd := after.isEmpty && cut.query.isNone && cut.fragment.isNone
  let (authority, behindPort) ←
    readAuthority scheme (cut.head.takeWhile fun c => !isEnd c) isAtEnd
  let path := match behindPort ++ after with
    | [] => if isSpecial scheme then [[]] else []
    | first :: more => readPath scheme [] (if isEnd first then more else first :: more)
  return assemble scheme (some authority) (.segments path) cut

/-! ### Files -/

/-- The authority of a file on the machine itself. -/
def Authority.empty : Authority := ⟨[], [], [], none⟩

/-- The segments of a path. -/
def Path.list : Path → List (List Char)
  | unsplit _ => []
  | segments list => list

/-- Whether a text starts with a drive. -/
def startsWithDrive (head : List Char) : Bool :=
  isDrive (head.take 2) &&
    match head.drop 2 with
    | [] => true
    | c :: _ => isSlash c

/-- Reads the server and the path of a file. A drive is a path, and the machine itself goes without
a name. -/
def readFileHost (head : List Char) : Except Fault (Authority × Path) := do
  let file := "file".toList
  let hostText := head.takeWhile fun c => !isSlash c
  let rest := head.dropWhile fun c => !isSlash c
  if isDrive hostText then return (.empty, .segments (readPath file [] head))
  let host ← if hostText.isEmpty then pure [] else domain hostText
  let host := if host = "localhost".toList then [] else host
  let path := readPath file [] (rest.drop 1)
  let hasDrive := (path.head?.map isNormalDrive).getD false
  return ({ Authority.empty with host := if hasDrive then [] else host }, .segments path)

/-- Reads the authority and the path of a file, relative to a base if there is one. -/
def readFile (base : Option Url) (head : List Char) : Except Fault (Authority × Path) :=
  let file := "file".toList
  let baseAuthority := (base.bind Url.authority).getD .empty
  let basePath := (base.map fun url => url.path.list).getD []
  match head with
  | first :: rest =>
    if isSlash first then
      match rest with
      | second :: host =>
        if isSlash second then readFileHost host else afterSlash baseAuthority basePath rest
      | [] => afterSlash baseAuthority basePath rest
    else if startsWithDrive head then .ok (.empty, .segments (readPath file [] head))
    else .ok (baseAuthority, .segments (readPath file (parent file basePath) head))
  | [] => .ok (baseAuthority, .segments (withoutLead file basePath))
where
  afterSlash (authority : Authority) (path : List (List Char)) (rest : List Char) :
      Except Fault (Authority × Path) :=
    let file := "file".toList
    if startsWithDrive rest then .ok (.empty, .segments (readPath file [] rest))
    else
      match path.head? with
      | some first =>
        if isNormalDrive first then .ok (.empty, .segments (readPath file [first] rest))
        else .ok (authority, .segments (readPath file [] rest))
      | none => .ok (authority, .segments (readPath file [] rest))

/-! ### URLs -/

/-- Reads a text without a scheme against a base with segments: whatever the text leaves out, up to
the first thing it says, is taken from the base. -/
def resolveWithin (base : Url) (cut : Cut) : Except Fault Url :=
  let scheme := base.scheme
  let path := base.path.list
  match cut.head with
  | [] =>
    let url := assemble scheme base.authority base.path cut
    .ok (if cut.query.isSome then url else { url with query := base.query })
  | first :: rest =>
    if isSlash first then
      match rest with
      | second :: afterTwo =>
        if isSlash second then
          let isPlain : Bool := first = '/' ∧ second = '/'
          readFromAuthority scheme
            { cut with head := if isPlain then afterTwo else cut.head.dropWhile isSlash }
        else .ok (assemble scheme base.authority (.segments (readPath scheme [] rest)) cut)
      | [] => .ok (assemble scheme base.authority (.segments (readPath scheme [] rest)) cut)
    else
      .ok (assemble scheme base.authority
        (.segments (readPath scheme (parent scheme path) cut.head)) cut)

/-- Reads what follows the scheme of a file. -/
def resolveFile (base : Option Url) (cut : Cut) : Except Fault Url :=
  match base, cut.head with
  | some base, [] => resolveWithin base cut
  | _, head => do
    let (authority, path) ← readFile base head
    return assemble "file".toList (some authority) path cut

/-- Reads what follows a scheme. -/
def resolveScheme (base : Option Url) (scheme : List Char) (cut : Cut) : Except Fault Url :=
  if isFile scheme then resolveFile (base.filter fun url => isFile url.scheme) cut
  else if isWeb scheme then
    match base.filter fun url => url.scheme = scheme ∧ (cut.head.takeWhile isSlash).length < 2 with
    | some base => resolveWithin base cut
    | none => readFromAuthority scheme { cut with head := cut.head.dropWhile isSlash }
  else
    match cut.head with
    | '/' :: '/' :: rest => readFromAuthority scheme { cut with head := rest }
    | '/' :: rest => .ok (assemble scheme none (.segments (readPath scheme [] rest)) cut)
    | text => .ok (assemble scheme none (.unsplit (Percent.encode Percent.isControl text)) cut)

/-- Reads a URL, relative to a base if it has no scheme. -/
def resolve (base : Option Url) (text : String) : Except Fault Url :=
  let cut := cut (readable text)
  match schemeOf? cut.head with
  | some (scheme, rest) => resolveScheme base scheme { cut with head := rest }
  | none =>
    match base with
    | none => .error .relativeWithoutBase
    | some base =>
      if cut.head.isEmpty ∧ cut.query.isNone ∧ cut.fragment.isSome then resolveWithin base cut
      else
        match base.path with
        | .unsplit _ => .error .relativeToUnsplit
        | .segments _ =>
          if isFile base.scheme then resolveFile (some base) cut else resolveWithin base cut

/-- Reads a URL that stands on its own. -/
def parse (text : String) : Except Fault Url := resolve none text

/-- Reads a URL relative to a base. -/
def join (base : Url) (text : String) : Except Fault Url := resolve (some base) text

/-- The text of a URL as a string. -/
def toString (url : Url) : String := String.ofList url.text

/-! ### Building -/

/-- A URL whose path ends in a slash, so that it can be joined to. -/
def closed (url : Url) : Url :=
  match url.path with
  | .unsplit text =>
    { url with path := .unsplit (if text.getLast? = some '/' then text else text ++ ['/']) }
  | .segments list =>
    { url with path := .segments (if list.getLast? = some [] then list else list ++ [[]]) }

/-- A path whose last segment is not empty. -/
def withoutEnd (path : List (List Char)) : List (List Char) :=
  if path.getLast? = some [] then path.dropLast else path

/-- Puts any text at the end of a path as a segment of its own. Dots, which would name no such
segment, are left out. -/
def pushSegment (scheme : List Char) (path : List (List Char)) (text : String) :
    List (List Char) :=
  if text = "." ∨ text = ".." then path
  else
    let segment := Percent.encode (Percent.inSegment (isSpecial scheme)) (withoutBreaks text.toList)
    addSegment scheme (if path = [[]] then [] else path) segment true

end Url

end ReleasePlayer
