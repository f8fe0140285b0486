/-
This file finds elements of a document by selectors: alternatives with commas between them, each a
chain of descriptions with blanks between them. The last description is of the element itself, and
the ones before it are of elements around it, from the outside in.
-/

import ReleasePlayer.Page.Document

namespace ReleasePlayer.Page

/-- What is asked of an element. -/
inductive Trait where
  | tag (name : String)
  | id (name : String)
  | hasClass (name : String)
  | hasAttribute (name : String)
deriving DecidableEq, Repr

/-- A chain of descriptions, that of the element itself first. -/
abbrev Chain := List (List Trait)

/-- A list of alternatives. -/
abbrev Selector := List Chain

namespace Selector

/-! ### Reading a selector -/

/-- Whether a character starts a trait. -/
def startsTrait (c : Char) : Bool := c == '#' || c == '.' || c == '['

/-- Reads a trait from its sign and its name. -/
def traitOf (sign : Char) (name : List Char) : Trait :=
  if sign = '#' then .id (String.ofList name)
  else if sign = '.' then .hasClass (String.ofList name)
  else .hasAttribute (String.ofList (name.takeWhile (· != ']')))

/-- Reads a description; a name without a sign before it is that of a tag. -/
def traits (text : List Char) : List Trait :=
  let (tag, found) := text.foldr (fun c (name, found) =>
    if startsTrait c then ([], traitOf c name :: found) else (c :: name, found)) ([], [])
  if tag.isEmpty then found else .tag (String.ofList tag) :: found

/-- Reads a selector. -/
def parse (text : String) : Selector :=
  (Text.fields (· == ',') text.toList).map fun chain =>
    ((Text.words Classes.isSeparator chain).map traits).reverse

/-! ### Finding elements -/

/-- Whether an element has a trait. -/
def hasTrait (element : Element) : Trait → Bool
  | .tag name => element.tag == name
  | .id name => element.attribute? "id" == some name
  | .hasClass name => element.classes.contains name
  | .hasAttribute name => (element.attribute? name).isSome

/-- Whether an element fits a description. -/
def fits (document : Document) (traits : List Trait) (id : Nat) : Bool :=
  (document.get? id).any fun element => traits.all (hasTrait element)

/-- Whether the elements around an element fit descriptions, the inner ones first. -/
def fitsAround (document : Document) : List Nat → Chain → Bool
  | _, [] => true
  | [], _ :: _ => false
  | id :: outer, traits :: more =>
    if fits document traits id then fitsAround document outer more
    else fitsAround document outer (traits :: more)

/-- Whether an element fits a chain. -/
def fitsChain (document : Document) (id : Nat) : Chain → Bool
  | [] => false
  | traits :: more =>
    fits document traits id && fitsAround document (document.ancestors id) more

/-- Whether an element fits a selector. -/
def selects (selector : Selector) (document : Document) (id : Nat) : Bool :=
  selector.any (fitsChain document id)

end Selector

namespace Document

/-- The elements in the document that a selector picks, in the order of the document. -/
def selectAll (document : Document) (selector : String) : List Nat :=
  (List.range document.elements.length).filter fun id =>
    (document.ancestors id).getLast?.getD id == 0 &&
      (Selector.parse selector).selects document id

/-- The first element in the document that a selector picks. -/
def select? (document : Document) (selector : String) : Option Nat :=
  (document.selectAll selector).head?

/-- The first element within another that a selector picks. -/
def selectWithin? (document : Document) (outer : Nat) (selector : String) : Option Nat :=
  (List.range document.elements.length).find? fun id =>
    (document.ancestors id).contains outer && (Selector.parse selector).selects document id

end Document

end ReleasePlayer.Page
