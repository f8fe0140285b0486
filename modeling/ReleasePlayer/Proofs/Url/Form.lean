/-
This file reads the query of a URL as a form: pairs of a name and a value, with `&` between the pairs
and `=` behind each name. Between two `&` there may be nothing, and a name may go without a value.
-/

import ReleasePlayer.Text.Fields
import ReleasePlayer.Url.Percent

namespace ReleasePlayer.Percent

/-- The name of a field, up to its first `=`. -/
def fieldName (field : List Char) : List Char := field.takeWhile (· != '=')

/-- The value of a field, behind its first `=`. -/
def fieldValue (field : List Char) : List Char := (field.dropWhile (· != '=')).drop 1

/-- The pair that a field says, if its name and its value are texts. -/
def fieldPair? (field : List Char) : Option (String × String) :=
  match decodeForm? (fieldName field), decodeForm? (fieldValue field) with
  | some name, some value => some (name, value)
  | _, _ => none

/-- The pairs that a query says. -/
def formPairs? (query : List Char) : Option (List (String × String)) :=
  (Text.words (· == '&') query).mapM fieldPair?

end ReleasePlayer.Percent
