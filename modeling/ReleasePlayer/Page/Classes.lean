/-
This file holds the classes of an element: names without repetition, in the order in which they were
added. It also holds the swap of one class of a button for another, which goes in two steps: the
button is marked as in transition at once, and changes its class some time later. A button that does
not have the class to be swapped is left alone.
-/

import ReleasePlayer.Effect
import ReleasePlayer.Text.Fields

namespace ReleasePlayer.Page

/-- The classes of an element. -/
abbrev Classes := List String

namespace Classes

/-- Blanks between classes. -/
def isSeparator (c : Char) : Bool := c ∈ [' ', '\t', '\n', '\x0c', '\r']

/-- Adds a class at the end, unless it is there. -/
def add (classes : Classes) (name : String) : Classes :=
  if classes.contains name then classes else classes ++ [name]

/-- Takes a class away. -/
def remove (classes : Classes) (name : String) : Classes := classes.filter (· != name)

/-- The classes that an attribute lists. -/
def ofText (text : String) : Classes :=
  let names := (Text.words isSeparator text.toList).map String.ofList
  names.foldl add []

/-- The attribute that lists classes. -/
def text (classes : Classes) : String := " ".intercalate classes

/-! ### Swapping a class -/

/-- The class of an element in transition. -/
def transition : String := "trans"

/-- Starts a swap, if the class to be swapped is there. -/
def startSwap? (classes : Classes) (before : ControlClass) : Option Classes :=
  if classes.contains before.name then some (classes.add transition) else none

/-- Ends a swap. -/
def endSwap (classes : Classes) (before after : ControlClass) : Classes :=
  ((classes.remove before.name).add after.name).remove transition

end Classes

end ReleasePlayer.Page
