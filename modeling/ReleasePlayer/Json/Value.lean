/-
This file holds the values of a document: what a text in JSON says, and what the library says in
JSON. A number without a point or an exponent is kept whole as long as it fits into 64 bits.
-/

import ReleasePlayer.Decimal.Layout
import ReleasePlayer.Text.Quoted

namespace ReleasePlayer.Json

inductive Value where
  | null
  | bool (value : Bool)
  | whole (value : Int)
  | real (value : Float)
  | text (value : String)
  | list (items : List Value)
  | object (fields : List (String × Value))
deriving Inhabited

/-- Names a value in a message about its type. -/
def Value.describe : Value → String
  | .null => "null"
  | .bool value => "boolean `" ++ (if value then "true" else "false") ++ "`"
  | .whole value => "integer `" ++ toString value ++ "`"
  | .real value => "floating point `" ++ Double.document value ++ "`"
  | .text value => "string " ++ Text.quoted value
  | .list _ => "sequence"
  | .object _ => "map"

/-- An optional value, `null` where there is none. -/
def Value.ofOption {β : Type} (f : β → Value) : Option β → Value
  | none => .null
  | some value => f value

/-! ### Taking values -/

/-- The text of a text value. -/
def Value.text? : Value → Option String
  | .text value => some value
  | _ => none

/-- The double of a number value. -/
def Value.real? : Value → Option Float
  | .real value => some value
  | _ => none

/-- The truth of a truth value. -/
def Value.bool? : Value → Option Bool
  | .bool value => some value
  | _ => none

/-- The count of a whole number. -/
def Value.count? : Value → Option Nat
  | .whole value => if 0 ≤ value then some value.toNat else none
  | _ => none

/-- The items of a list, each taken by `f`. -/
def Value.listOf? {β : Type} (f : Value → Option β) : Value → Option (List β)
  | .list values => values.mapM f
  | _ => none

/-- Nothing for `null`, and any other value taken by `f`. -/
def Value.optional? {β : Type} (f : Value → Option β) : Value → Option (Option β)
  | .null => some none
  | value => (f value).map some

/-- The item of a list whose name is a text value. -/
def Value.named? {β : Type} (all : List β) (name : β → String) : Value → Option β
  | .text content => all.find? (name · == content)
  | _ => none

end ReleasePlayer.Json
