/-
This file splits a text into its fields. There is always one field more than there are separators,
so that the fields joined again give the text back.
-/

namespace ReleasePlayer.Text

/-- Splits a text at every character that separates. -/
def fields (separates : Char → Bool) : List Char → List (List Char)
  | [] => [[]]
  | c :: rest =>
    if separates c then [] :: fields separates rest
    else
      match fields separates rest with
      | [] => [[c]]
      | field :: more => (c :: field) :: more

/-- The fields of a text that hold something. -/
def words (separates : Char → Bool) (text : List Char) : List (List Char) :=
  (fields separates text).filter fun field => !field.isEmpty

end ReleasePlayer.Text
