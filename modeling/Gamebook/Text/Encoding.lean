/-!
# Encoded text

Files hold text in UTF-8. A table may begin with a byte order mark, which is no part of its text.
-/

namespace Gamebook.Text

def encode (s : String) : ByteArray := s.toUTF8

def decode? (bytes : ByteArray) : Option String := String.fromUTF8? bytes

def byteOrderMark : Char := '\ufeff'

def dropMark : List Char → List Char
  | [] => []
  | c :: cs => if c = byteOrderMark then cs else c :: cs

/-- Does a file end inside the byte order mark? -/
def endsInMark (bytes : ByteArray) : Bool :=
  match bytes.data.toList with
  | [a] => a == 0xEF
  | [a, b] => a == 0xEF && b == 0xBB
  | _ => false

/-- The characters of a file that may begin with a byte order mark. A file that ends inside the mark
holds nothing. -/
def decodeMarked? (bytes : ByteArray) : Option (List Char) :=
  if endsInMark bytes then some []
  else (decode? bytes).map fun s => dropMark s.toList

@[simp] theorem decode?_encode (s : String) : decode? (encode s) = some s := by
  simp [decode?, encode, String.fromUTF8?, s.isValidUTF8, String.fromUTF8]

end Gamebook.Text
