/-
This file says which characters are blank, and compares names regardless of blanks around them and
of the case of their letters.
-/

namespace ReleasePlayer.Text

/-- The blank characters of all scripts: the controls from tab to carriage return, the space, the
next-line control and every space and separator that counts as white space. -/
def isBlank (c : Char) : Bool :=
  let code := c.toNat
  (9 ≤ code && code ≤ 13) || code = 0x20 || code = 0x85 || code = 0xa0 || code = 0x1680 ||
    (0x2000 ≤ code && code ≤ 0x200a) || code = 0x2028 || code = 0x2029 || code = 0x202f ||
    code = 0x205f || code = 0x3000

/-- Drops the elements that satisfy `p` from the end. -/
def trimEndWhere (p : Char → Bool) (text : List Char) : List Char :=
  (text.reverse.dropWhile p).reverse

/-- Drops the elements that satisfy `p` from both ends. -/
def trimWhere (p : Char → Bool) (text : List Char) : List Char :=
  trimEndWhere p (text.dropWhile p)

/-- A text without the blanks at its ends. -/
def trim (text : String) : String := String.ofList (trimWhere isBlank text.toList)

/-- A text without the blanks at its end. -/
def trimEnd (text : String) : String := String.ofList (trimEndWhere isBlank text.toList)

/-- Whether there is nothing but blanks. -/
def isBlankText (text : String) : Bool := text.toList.all isBlank

/-- The small form of a character as far as it is an ASCII letter. Of the characters beyond ASCII
the Kelvin sign alone has one. -/
def smallLetter (c : Char) : Char := if c.toNat = 0x212a then 'k' else c.toLower

/-- The form in which names of a fixed list of ASCII names are compared: without blanks around it
and in small letters. -/
def nameForm (text : String) : String :=
  String.ofList ((trimWhere isBlank text.toList).map smallLetter)

end ReleasePlayer.Text
