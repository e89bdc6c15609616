import Gamebook.Entries
import Gamebook.Workspace.Path

/-!
# Workspaces

A workspace holds files and directories at places. A path leads to a place if it leads through
directories only. An operation on a path fails only because something is missing or of the wrong
kind, at its place or on the way there. A failing operation changes nothing, but for making a
directory, which may leave some on the way to it.
-/

namespace Gamebook

inductive Entry where
  | file (content : ByteArray)
  | directory

def Entry.isDirectory : Entry → Bool
  | file _ => false
  | directory => true

inductive FileCause where
  | missing
  /-- A file stands where a directory is to be made. -/
  | occupied
  /-- A file stands on the way. -/
  | notDirectory
  | isDirectory
deriving DecidableEq

/-- Why an operation on a path fails; moving is an operation on two paths. -/
structure FileFault where
  cause : FileCause
  path : Path
  target : Option Path
deriving DecidableEq

namespace FileFault

def message (f : FileFault) : String :=
  let words := match f.cause with
    | .missing => "[Errno 2] No such file or directory: "
    | .occupied => "[Errno 17] File exists: "
    | .notDirectory => "[Errno 20] Not a directory: "
    | .isDirectory => "[Errno 21] Is a directory: "
  words ++ f.path.display ++ match f.target with
    | some target => " -> " ++ target.display
    | none => ""

end FileFault

/-- Files and directories at places. The working directory and those above it have no entry. -/
structure Workspace where
  entries : List (Path × Entry)

namespace Workspace

def empty : Workspace := ⟨[]⟩

/-! ## Places -/

def entryAt? (w : Workspace) (p : Path) : Option Entry :=
  if p.isAbove then some .directory else Entries.get? p w.entries

def put (w : Workspace) (p : Path) (e : Entry) : Workspace := ⟨Entries.put p e w.entries⟩

def erase (w : Workspace) (p : Path) : Workspace := ⟨w.entries.filter fun (q, _) => q ≠ p⟩

/-- The directory that names lead to from a directory, or why they lead to none. -/
def enter (w : Workspace) (p : Path) : List String → Except FileCause Path
  | [] => .ok p
  | name :: names =>
    match w.entryAt? (p.step name) with
    | some .directory => w.enter (p.step name) names
    | some (.file _) => .error .notDirectory
    | none => .error .missing

/-- The place of a path, at which nothing need stand. -/
def locate (w : Workspace) (p : Path) : Except FileCause Path :=
  if p = .here then .ok .here else (w.enter .here p.parent.names).map fun q => q.step p.name

/-! ## Paths -/

/-- What stands at a path, or why nothing does. -/
def find (w : Workspace) (p : Path) : Except FileFault Entry :=
  match w.locate p with
  | .error cause => .error ⟨cause, p, none⟩
  | .ok q =>
    match w.entryAt? q with
    | some e => .ok e
    | none => .error ⟨.missing, p, none⟩

def contains (w : Workspace) (p : Path) : Bool :=
  match w.find p with
  | .ok _ => true
  | .error _ => false

def isDirectory (w : Workspace) (p : Path) : Bool :=
  match w.find p with
  | .ok e => e.isDirectory
  | .error _ => false

def read (w : Workspace) (p : Path) : Except FileFault ByteArray :=
  match w.find p with
  | .ok (.file content) => .ok content
  | .ok .directory => .error ⟨.isDirectory, p, none⟩
  | .error fault => .error fault

/-- Writes a file, in the place of one that stands there. -/
def write (w : Workspace) (p : Path) (content : ByteArray) : Except FileFault Workspace :=
  match w.locate p with
  | .error cause => .error ⟨cause, p, none⟩
  | .ok q =>
    if (w.entryAt? q).any Entry.isDirectory then .error ⟨.isDirectory, p, none⟩
    else .ok (w.put q (.file content))

/-- Takes a file away, if there is one. -/
def discard (w : Workspace) (p : Path) : Workspace :=
  match w.locate p with
  | .error _ => w
  | .ok q => w.erase q

/-- Makes a directory, unless it is there, in a directory that is there. -/
def makeOne (w : Workspace) (p : Path) : Except FileFault Workspace :=
  match w.locate p with
  | .error cause => .error ⟨cause, p, none⟩
  | .ok q =>
    match w.entryAt? q with
    | some .directory => .ok w
    | some (.file _) => .error ⟨.occupied, p, none⟩
    | none => .ok (w.put q .directory)

/-- Makes the directory of a path that is given by its names, the last one first, and those that
are missing on the way to it. A failure comes with what is left. -/
def makeWay (w : Workspace) : List String → Except (FileFault × Workspace) Workspace
  | [] => .ok w
  | name :: names =>
    let p : Path := ⟨(name :: names).reverse⟩
    match w.makeOne p with
    | .ok w => .ok w
    | .error fault =>
      if fault.cause = .missing then
        match w.makeWay names with
        | .error failure => .error failure
        | .ok w => (w.makeOne p).mapError fun fault => (fault, w)
      else .error (fault, w)

/-- Makes a directory and those on the way to it, unless they are there. A failure comes with what
is left. -/
def makeDirectory (w : Workspace) (p : Path) : Except (FileFault × Workspace) Workspace :=
  w.makeWay p.names.reverse

/-- Moves a file, in the place of one that stands at the target. -/
def rename (w : Workspace) (source target : Path) : Except FileFault Workspace :=
  match w.read source with
  | .error fault => .error { fault with target := some target }
  | .ok content =>
    match w.locate target with
    | .error cause => .error ⟨cause, source, some target⟩
    | .ok q =>
      if (w.entryAt? q).any Entry.isDirectory then .error ⟨.isDirectory, source, some target⟩
      else .ok ((w.discard source).put q (.file content))

/-- Copies a file, in the place of one that stands at the target; if a directory stands there, into
the directory. -/
def copy (w : Workspace) (source target : Path) : Except FileFault Workspace :=
  match w.read source with
  | .error fault => .error fault
  | .ok content =>
    w.write (if w.isDirectory target then target.child source.name else target) content

/-- Takes a file or a directory with all that is in it away. -/
def remove (w : Workspace) (p : Path) : Except FileFault Workspace :=
  match w.locate p with
  | .error cause => .error ⟨cause, p, none⟩
  | .ok q =>
    if (w.entryAt? q).isSome then .ok ⟨w.entries.filter fun (r, _) => !q.leadsTo r⟩
    else .error ⟨.missing, p, none⟩

/-- All places in the working directory in order, the directories with a slash at the end. -/
def listing (w : Workspace) : List String :=
  ((w.entries.filter fun (p, _) => p.isInside).map fun (p, e) =>
    if e.isDirectory then p.text ++ "/" else p.text).mergeSort fun a b => decide (a ≤ b)

end Workspace

end Gamebook
