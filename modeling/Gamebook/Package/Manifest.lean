import Gamebook.Json.Basic
import Gamebook.Text.Blank

/-!
# Manifests

A package names its story, version, title and author, each by a text that is not blank.
-/

namespace Gamebook.Package

def manifestFields : List String := ["storyId", "version", "title", "author"]

inductive ManifestFault where
  | notObject (j : Json)
  | missing (name : String)
  | notText (j : Json)
  | blank (text : String)

namespace ManifestFault

def message : ManifestFault → String
  | notObject j => j.display ++ " is not of type 'object'"
  | missing name => Text.display name ++ " is a required property"
  | notText j => j.display ++ " is not of type 'string'"
  | blank text => Text.display text ++ " does not match '\\\\S'"

/-- The value that a message shows. -/
def value? : ManifestFault → Option Json
  | notObject j | notText j => some j
  | missing _ | blank _ => none

/-- The message, unless its value cannot be shown. -/
def tell (room : Nat) (f : ManifestFault) : Except Json.Unshown String :=
  match f.value?.bind (Json.unshown? room) with
  | some unshown => .error unshown
  | none => .ok f.message

end ManifestFault

/-- What is wrong with the value of a field. A surrogate is no white space, so a garbled text is not
blank. -/
def fieldFault? : Json → Option ManifestFault
  | .string s => if Text.isBlankText s then some (.blank s) else none
  | .garbled _ => none
  | j => some (.notText j)

/-- What is wrong with a manifest: first the missing fields, then the unfit ones. -/
def manifestFaults : Json → List ManifestFault
  | .object fields =>
    ((manifestFields.filter fun name => (Entries.get? name fields).isNone).map .missing) ++
    manifestFields.filterMap fun name => (Entries.get? name fields).bind fieldFault?
  | j => [.notObject j]

/-- The messages on a manifest, all of which are made before one is told. -/
def manifestProblems (room : Nat) (j : Json) : Except Json.Unshown (List String) :=
  (manifestFaults j).mapM (ManifestFault.tell room)

def isManifest (j : Json) : Bool := (manifestFaults j).isEmpty

end Gamebook.Package
