import Gamebook.Schema.Problem
import Gamebook.Story.Basic
import Gamebook.Story.Warning
import Gamebook.Text.Split

/-!
# Tokens in table cells

A token is a name and arguments joined with colons. This module holds what the kinds of tokens
share: cutting cells and tokens, and reading numbers and truth values with a fallback.
-/

namespace Gamebook

/-- A name and the arguments behind it, all trimmed. -/
structure Token where
  name : String
  arguments : List String

namespace Token

def ofText (s : String) : Token :=
  match Text.colonParts s with
  | [] => ⟨"", []⟩
  | name :: arguments => ⟨name, arguments⟩

def argument (t : Token) (i : Nat) : String := t.arguments.getD i ""

def field (name text : String) : Except TokenFault Arg :=
  match Arg.ofText? text with
  | some a => .ok a
  | none => .error (.invalid name)

end Token

/-- A token of a cell that is dropped with a warning when it has a fault. -/
def noteFault {α : Type} (kind : TokenKind) (token : Scalar) :
    Except TokenFault α → Noted (Option α)
  | .ok a => ⟨some a, []⟩
  | .error fault => ⟨none, [.token kind fault token]⟩

/-- Reads the segments of a cell one after the other and keeps what reads. -/
def noteSegments {α : Type} (kind : TokenKind) (read : Token → Except TokenFault α)
    (segments : List String) : Noted (List α) :=
  let notes := segments.map fun s => noteFault kind (.text s) (read (.ofText s))
  ⟨notes.filterMap (·.value), notes.flatMap (·.warnings)⟩

/-- A list, or nothing in the place of the empty list. -/
def nonempty? {α : Type} (l : List α) : Option (List α) := if l.isEmpty then none else some l

/-- A cell that joins tokens, without those that are empty. -/
def joinCell (tokens : List String) : String := " | ".intercalate (tokens.filter (· ≠ ""))

namespace Scalar

/-- The segments of a cell; what is not truthy has none. -/
def segments (s : Scalar) : List String := if s.truthy then Text.barSegments s.plain else []

def token (s : Scalar) : Token := .ofText s.content

def numberOr (s : Scalar) (fallback : Number) : Number :=
  match s with
  | absent => fallback
  | s => (Number.ofText? (Text.trimBy Text.isBlank s.plain.toList)).getD fallback

def truthOr (s : Scalar) (fallback : Bool) : Bool :=
  if s.truthy then
    let word := (Text.trim s.plain).toLower
    if word = "true" then true else if word = "false" then false else fallback
  else fallback

end Scalar

end Gamebook
