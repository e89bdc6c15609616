import Gamebook.Text.Display
import Gamebook.Text.Split

/-!
# Paths

A path is the list of the names along it, seen from the working directory, which is the empty path.
Empty names and names that are a single dot lead nowhere and are left out of a path; only an empty
name at the front stays, for it tells that the path starts at the root. A name of two dots stays as
well: it leads back, but only from a directory that is there. A place is a path on which two dots
stand at the front only, for they lead out of the working directory.
-/

namespace Gamebook

structure Path where
  names : List String
deriving DecidableEq

namespace Path

/-- The working directory. -/
def here : Path := ⟨[]⟩

def root : Path := ⟨[""]⟩

def isRooted (p : Path) : Bool := p.names.head? = some ""

/-- Is the place the working directory or one above it? -/
def isAbove (p : Path) : Bool := p = root || p.names.all (· = "..")

def isInside (p : Path) : Bool := !p.isRooted && p.names.head? ≠ some ".."

def ofText (s : String) : Path :=
  let names := ((Text.splitAt '/' s.toList).map String.ofList).filter fun name =>
    name ≠ "" && name ≠ "."
  if s.toList.head? = some '/' then ⟨"" :: names⟩ else ⟨names⟩

def text (p : Path) : String :=
  match p.names with
  | [] => "."
  | [""] => "/"
  | names => "/".intercalate names

def display (p : Path) : String := Text.display p.text

def name (p : Path) : String := p.names.getLastD ""

def parent (p : Path) : Path := ⟨p.names.dropLast⟩

def child (p : Path) (name : String) : Path := ⟨p.names ++ [name]⟩

/-- A path seen from the end of another one. -/
def join (p q : Path) : Path := if q.isRooted then q else ⟨p.names ++ q.names⟩

/-- The neighbour whose name has an ending more. -/
def withEnding (p : Path) (ending : String) : Path := p.parent.child (p.name ++ ending)

/-- The place that a name leads to from a place. -/
def step (p : Path) (name : String) : Path :=
  if name = ".." then
    if p = root then root
    else if p.isAbove then p.child ".."
    else p.parent
  else p.child name

/-- The places that names lead to one after the other. -/
def steps (p : Path) : List String → List Path
  | [] => []
  | name :: names => p.step name :: (p.step name).steps names

/-- The places on the way of a path, from the working directory on. -/
def way (p : Path) : List Path := here.steps p.names

/-- Is the first place the second one, or a directory on the way to it? -/
def leadsTo (p q : Path) : Bool := p.names.isPrefixOf q.names

end Path

end Gamebook
