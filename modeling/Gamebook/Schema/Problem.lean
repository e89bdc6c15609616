/-!
# Problems of a value

What is wrong with a value that should describe an entity, and where. All problems of a value are
collected.
-/

namespace Gamebook

inductive ProblemKind where
  | missing
  | extra
  | notString
  /-- A text is garbled. -/
  | notUnicode
  | tooShort
  | malformed
  | notBool
  | unreadableBool
  | notInt
  | unreadableInt
  | oversizedInt
  | fractionalInt
  | notFinite
  | notDouble
  | unreadableDouble
  | otherLiteral
  | notList
  | notMap
  | notObject
  | tagMissing
  | tagUnknown
  /-- Entities stand under keys that are not their ids. -/
  | keyMismatch (message : String)
deriving DecidableEq

def ProblemKind.name : ProblemKind → String
  | missing => "missing"
  | extra => "extra_forbidden"
  | notString => "string_type"
  | notUnicode => "string_unicode"
  | tooShort => "string_too_short"
  | malformed => "string_pattern_mismatch"
  | notBool => "bool_type"
  | unreadableBool => "bool_parsing"
  | notInt => "int_type"
  | unreadableInt => "int_parsing"
  | oversizedInt => "int_parsing_size"
  | fractionalInt => "int_from_float"
  | notFinite => "finite_number"
  | notDouble => "float_type"
  | unreadableDouble => "float_parsing"
  | otherLiteral => "literal_error"
  | notList => "list_type"
  | notMap => "dict_type"
  | notObject => "model_type"
  | tagMissing => "union_tag_not_found"
  | tagUnknown => "union_tag_invalid"
  | keyMismatch _ => "value_error"

/-- What is wrong, and the path that leads there from the whole value. -/
structure Problem where
  path : List String
  kind : ProblemKind
deriving DecidableEq

def Problem.location (p : Problem) : String := "/".intercalate p.path

/-- The order in which problems are reported: by location, then by name. -/
def Problem.before (a b : Problem) : Bool :=
  a.location < b.location || (a.location = b.location && a.kind.name ≤ b.kind.name)

/-- A result, or all problems that were found. -/
inductive Checked (α : Type) where
  | ok (value : α)
  | refused (problems : List Problem)

namespace Checked

variable {α β : Type}

def map (f : α → β) : Checked α → Checked β
  | ok a => ok (f a)
  | refused ps => refused ps

/-- Both results, or the problems of both. -/
def both : Checked (α → β) → Checked α → Checked β
  | ok f, ok a => ok (f a)
  | ok _, refused ps => refused ps
  | refused ps, ok _ => refused ps
  | refused ps, refused qs => refused (ps ++ qs)

instance : Applicative Checked where
  pure := ok
  map := map
  seq f a := both f (a ())

/-- One problem at the place itself. -/
def fail (kind : ProblemKind) : Checked α := refused [⟨[], kind⟩]

/-- Moves the problems to the place that `step` leads to. -/
def under (step : String) : Checked α → Checked α
  | ok a => ok a
  | refused ps => refused (ps.map fun p => { p with path := step :: p.path })

/-- Goes on with a result, after which further problems may show. -/
def andThen (c : Checked α) (f : α → Checked β) : Checked β :=
  match c with
  | ok a => f a
  | refused ps => refused ps

def toOption : Checked α → Option α
  | ok a => some a
  | refused _ => none

/-- All results, or the problems of all. -/
def all : List (Checked α) → Checked (List α)
  | [] => ok []
  | c :: cs => both (map List.cons c) (all cs)

end Checked

end Gamebook
