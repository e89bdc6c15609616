import Gamebook.Json.Basic
import Gamebook.Text.Blank
import Gamebook.Text.Fold
import Gamebook.Text.Word

/-!
# Cleaning imported text

Three kinds of payloads are deleted, one kind after the other: script blocks, the script scheme and
inline event handlers. Each pass goes through the text once from left to right and deletes every
match that it meets. A cleaned story has the same shape: only its free texts are cleaned. It is a
copy of the given one, and no copy can be made of a story that is nested too deep.
-/

namespace Gamebook.Package

/-- A pattern tells how many characters match at the head of a text, zero without a match. -/
abbrev Pattern := List Char → Nat

/-- The text without the matches of a pattern, after the first `n` characters, which belong to a
match already. -/
def deleteFrom (p : Pattern) : Nat → List Char → List Char
  | _, [] => []
  | n + 1, _ :: cs => deleteFrom p n cs
  | 0, c :: cs =>
    match p (c :: cs) with
    | 0 => c :: deleteFrom p 0 cs
    | n + 1 => deleteFrom p n cs

def delete (p : Pattern) (cs : List Char) : List Char := deleteFrom p 0 cs

def scriptOpening : List Char := "<script".toList

def scriptClosing : List Char := "</script>".toList

/-- The number of characters up to and with the first closing tag, and `n` characters before. -/
def throughClosing (n : Nat) : List Char → Option Nat
  | [] => none
  | c :: cs =>
    if Text.startsWith scriptClosing (c :: cs) then some (n + scriptClosing.length)
    else throughClosing (n + 1) cs

/-- A script block: an opening tag whose name ends there, and all through the first closing tag. -/
def scriptBlock : Pattern := fun cs =>
  if Text.startsWith scriptOpening cs then
    let rest := cs.drop scriptOpening.length
    if rest.head?.any Text.isWord then 0
    else
      (throughClosing scriptOpening.length rest).getD 0
  else 0

def scriptSchemeText : List Char := "javascript:".toList

def scriptScheme : Pattern := fun cs =>
  if Text.startsWith scriptSchemeText cs then scriptSchemeText.length else 0

/-- An inline event handler: `on`, word characters, maybe white space, and an equals sign. -/
def inlineHandler : Pattern := fun cs =>
  if Text.startsWith ['o', 'n'] cs then
    let rest := cs.drop 2
    let word := rest.takeWhile Text.isWord
    let behind := rest.drop word.length
    let blanks := behind.takeWhile Text.isBlank
    if !word.isEmpty && (behind.drop blanks.length).head? = some '=' then
      2 + word.length + blanks.length + 1
    else 0
  else 0

def cleanChars (cs : List Char) : List Char :=
  delete inlineHandler (delete scriptScheme (delete scriptBlock cs))

def cleanText (s : String) : String := String.ofList (cleanChars s.toList)

/-! ## Garbled texts

A surrogate is part of no payload but as any other character is that is neither a word character nor
white space. So a pattern finds in pieces what it finds in the text that is shown for them. -/

/-- The pieces without the matches of a pattern, after the first `n` of them. -/
def deletePiecesFrom (p : Pattern) : Nat → List Text.Piece → List Text.Piece
  | _, [] => []
  | n + 1, _ :: pieces => deletePiecesFrom p n pieces
  | 0, piece :: pieces =>
    match p ((piece :: pieces).map Text.Piece.shown) with
    | 0 => piece :: deletePiecesFrom p 0 pieces
    | n + 1 => deletePiecesFrom p n pieces

def deletePieces (p : Pattern) (pieces : List Text.Piece) : List Text.Piece :=
  deletePiecesFrom p 0 pieces

def cleanPieces (pieces : List Text.Piece) : List Text.Piece :=
  deletePieces inlineHandler (deletePieces scriptScheme (deletePieces scriptBlock pieces))

/-- A cleaned text; one that was garbled need not be so any more. -/
def cleanValue : Json → Json
  | .string s => .string (cleanText s)
  | .garbled g => .ofPieces (cleanPieces g.pieces)
  | j => j

/-! ## Stories -/

def onField (name : String) (f : Json → Json) : Json → Json
  | .object fields => .object (fields.map fun (key, j) => (key, if key = name then f j else j))
  | j => j

def onFields (names : List String) (f : Json → Json) (j : Json) : Json :=
  names.foldl (fun j name => onField name f j) j

/-- Changes the value of a field, whatever its key is. -/
def underKey (f : Json → Json) : Json → Json
  | .keyed key j => .keyed key (f j)
  | j => f j

def onValues (f : Json → Json) : Json → Json
  | .object fields => .object (fields.map fun (key, j) => (key, underKey f j))
  | j => j

def onItems (f : Json → Json) : Json → Json
  | .array items => .array (items.map f)
  | j => j

section

variable (f : Json → Json)

/-- Changes the text and the id of a node and the label and the id of each of its choices. -/
def onNodeTexts (j : Json) : Json :=
  onField "choices" (onItems (onFields ["label", "id"] f)) (onFields ["text", "id"] f j)

/-- Changes the free texts of a story of any shape. -/
def onFreeTexts (j : Json) : Json :=
  let named := onValues (onFields ["name"] f)
  onField "encounters" named (onField "enemies" named (onField "items" named
    (onField "nodes" (onValues (onNodeTexts f)) j)))

end

/-- Cleans the free texts of a copy of a story; what is no object counts as an empty one. -/
def cleanStory (room : Nat) : Json → Except Json.TooDeep Json
  | .object fields => return onFreeTexts cleanValue (← (Json.object fields).copy room)
  | _ => return .object []

end Gamebook.Package
