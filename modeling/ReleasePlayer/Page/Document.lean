/-
This file holds the document of a page: its elements, numbered in the order of the document from the
outermost one on. An element keeps its number for good. Replacing what an element holds by a text
takes its children out of the document, but whoever knows their numbers can still change them.
-/

import ReleasePlayer.Keyed
import ReleasePlayer.Page.Classes
import ReleasePlayer.Scalar.Double

namespace ReleasePlayer.Page

/-! ### Elements -/

/-- What an element holds. -/
inductive Child where
  | text (content : String)
  | element (id : Nat)
deriving DecidableEq, Repr

structure Element where
  tag : String
  parent : Option Nat
  attributes : List (String × String)
  style : List (String × String)
  children : List Child
  /-- The rectangle in which it is shown. -/
  bar : Bar Float

/-- Whether two lists hold the same values under the same names. -/
def sameEntries (left right : List (String × String)) : Bool :=
  left.length == right.length && left.all fun entry => right.contains entry

namespace Element

def attribute? (element : Element) (name : String) : Option String :=
  element.attributes.lookup name

def setAttribute (element : Element) (name value : String) : Element :=
  { element with attributes := Keyed.put element.attributes name value }

def removeAttribute (element : Element) (name : String) : Element :=
  { element with attributes := element.attributes.filter (·.1 != name) }

def setStyle (element : Element) (name value : String) : Element :=
  { element with style := Keyed.put element.style name value }

/-- The classes of an element. -/
def classes (element : Element) : Classes :=
  Classes.ofText ((element.attribute? "class").getD "")

/-- Gives an element other classes. One that has no such attribute gets none for no classes. -/
def setClasses (element : Element) (classes : Classes) : Element :=
  if classes.isEmpty ∧ (element.attribute? "class").isNone then element
  else element.setAttribute "class" classes.text

def addClass (element : Element) (name : String) : Element :=
  element.setClasses (element.classes.add name)

def removeClass (element : Element) (name : String) : Element :=
  element.setClasses (element.classes.remove name)

/-- Switches a class on or off. Nothing changes if it is on or off already. -/
def switchClass (element : Element) (name : String) (isOn : Bool) : Element :=
  if element.classes.contains name = isOn then element
  else if isOn then element.addClass name
  else element.removeClass name

/-- Whether a panel of details is open. -/
def isOpen (element : Element) : Bool := (element.attribute? "open").isSome

/-- Opens or closes a panel of details. -/
def setOpen (element : Element) (isOpen : Bool) : Element :=
  if isOpen then element.setAttribute "open" "" else element.removeAttribute "open"

/-- The text that an element holds itself. -/
def ownText (element : Element) : String :=
  String.join <| element.children.filterMap fun child =>
    match child with
    | .text content => some content
    | .element _ => none

/-- Whether two elements look the same. -/
def looksLike (left right : Element) : Bool :=
  left.tag == right.tag && left.parent == right.parent &&
    sameEntries left.attributes right.attributes && sameEntries left.style right.style &&
    left.ownText == right.ownText

end Element

/-! ### Markup -/

/-- A page as it is written down. -/
inductive Markup where
  | text (content : String)
  | element (tag : String) (attributes : List (String × String)) (bar : Bar Float)
    (children : List Markup)

mutual

/-- The number of elements in a piece of markup. -/
def Markup.count : Markup → Nat
  | .text _ => 0
  | .element _ _ _ children => countAll children + 1

/-- The number of elements in several pieces. -/
def countAll : List Markup → Nat
  | [] => 0
  | markup :: more => markup.count + countAll more

end

/-- The children that pieces of markup make, the first element among them with the number `id`. -/
def childrenOf (id : Nat) : List Markup → List Child
  | [] => []
  | .text content :: more => .text content :: childrenOf id more
  | markup :: more => .element id :: childrenOf (id + markup.count) more

mutual

/-- The elements of a piece of markup, the outermost one with the number `id`. -/
def Markup.elements (parent : Option Nat) (id : Nat) : Markup → List Element
  | .text _ => []
  | .element tag attributes bar children =>
    { tag, parent, attributes, style := [], children := childrenOf (id + 1) children, bar } ::
      elementsOf (some id) (id + 1) children

/-- The elements of several pieces. -/
def elementsOf (parent : Option Nat) (id : Nat) : List Markup → List Element
  | [] => []
  | markup :: more =>
    markup.elements parent id ++ elementsOf parent (id + markup.count) more

end

/-! ### Documents -/

structure Document where
  elements : List Element

namespace Document

/-- The document with a page in its body, or right below its root if it has no body. -/
def ofPage (hasBody : Bool) (page : List Markup) : Document :=
  let content := if hasBody then [Markup.element "body" [] Bar.zero page] else page
  ⟨(Markup.element "html" [] Bar.zero content).elements none 0⟩

def get? (document : Document) (id : Nat) : Option Element := document.elements[id]?

/-- The body, if there is one. -/
def body? (document : Document) : Option Nat :=
  document.elements.findIdx? fun element => element.tag == "body" && element.parent == some 0

/-- Changes one element. -/
def update (document : Document) (id : Nat) (change : Element → Element) : Document :=
  ⟨document.elements.modify id change⟩

/-- Changes an element if there is one to change. -/
def update? (document : Document) (id : Option Nat) (change : Element → Element) : Document :=
  match id with
  | some id => document.update id change
  | none => document

/-- Replaces what an element holds by a text. -/
def setText (document : Document) (id : Nat) (content : String) : Document :=
  ⟨document.elements.mapIdx fun place element =>
    if place = id then { element with children := [.text content] }
    else if element.parent = some id then { element with parent := none }
    else element⟩

/-- Replaces what an element holds, if there is one. -/
def setText? (document : Document) (id : Option Nat) (content : String) : Document :=
  match id with
  | some id => document.setText id content
  | none => document

/-- The elements around an element from the inside out, at most so many. -/
def around (document : Document) : Nat → Nat → List Nat
  | 0, _ => []
  | limit + 1, id =>
    match (document.get? id).bind Element.parent with
    | some parent => parent :: document.around limit parent
    | none => []

/-- The elements around an element from the inside out. -/
def ancestors (document : Document) (id : Nat) : List Nat :=
  document.around document.elements.length id

/-- The elements that changed since an earlier document. -/
def changesSince (document earlier : Document) : List (Nat × Element) :=
  (document.elements.zipIdx.filter fun (element, id) =>
    !((earlier.get? id).any element.looksLike)).map fun (element, id) => (id, element)

end Document

end ReleasePlayer.Page
