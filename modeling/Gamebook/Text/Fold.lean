/-!
# Comparing without case

The small letter that a character counts as when case does not matter. Besides the ASCII capitals
these are the long s, the two Turkish forms of i and the Kelvin sign.
-/

namespace Gamebook.Text

/-- The small letter that a character counts as. -/
def foldCase (c : Char) : Char :=
  if c = 'ſ' then 's'
  else if c = 'ı' || c = 'İ' then 'i'
  else if c = '\u212A' then 'k'
  else c.toLower

/-- Does the text begin with a word of small letters, in any case? -/
def startsWith : List Char → List Char → Bool
  | [], _ => true
  | _ :: _, [] => false
  | w :: word, c :: cs => w = foldCase c && startsWith word cs

end Gamebook.Text
