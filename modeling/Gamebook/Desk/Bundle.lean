import Gamebook.Clock
import Gamebook.Desk.Load
import Gamebook.Package.Assets
import Gamebook.Package.Manifest
import Gamebook.Package.Sanitize

/-!
# Packages

A package is exported with the story in the tables and without assets. An imported package is
cleaned and judged, unless it is nested too deep for that or a dice text of it cannot be read;
nothing of it is written anywhere.
-/

namespace Gamebook

structure Credits where
  storyId : String
  version : String
  title : String
  author : String

def Credits.manifest (c : Credits) (now : Instant) : Json :=
  .object [("storyId", .string c.storyId), ("version", .string c.version),
    ("title", .string c.title), ("author", .string c.author), ("exportedAt", .string now.iso)]

structure Bundle where
  manifest : Json
  story : Story

def Bundle.toJson (b : Bundle) : Json :=
  .object [("manifest", b.manifest), ("model", b.story.toJson), ("assets", .array [])]

structure Imported where
  manifest : Json
  story : Story
  verdict : Verdict
  assetFaults : List Package.AssetFault

namespace Imported

/-- A package is accepted without errors and without faults of its assets. -/
def isAccepted (i : Imported) : Bool := i.verdict.isSound && i.assetFaults.isEmpty

def toJson (i : Imported) : Json :=
  .object [
    ("accepted", .bool i.isAccepted),
    ("manifest", i.manifest),
    ("model", i.story.toJson),
    ("errors", .array (i.verdict.attributed.errors.map Diagnostic.toJson)),
    ("warnings", .array (i.verdict.attributed.warnings.map Diagnostic.toJson)),
    ("assetDiagnostics",
      .array (i.assetFaults.map fun f => (Package.AssetFault.diagnostic f).toJson))]

end Imported

namespace Desk

def exportBundle (s : Settings) (now : Instant) (c : Credits) : Service Bundle := do
  if Package.isManifest (c.manifest now) then
    let (story, _) ← compiled s.tables
    return ⟨c.manifest now, story⟩
  else Service.fail .blankManifest

def importBundle (s : Settings) (manifest story : Json) (assets : List Json) :
    Except Stop Imported :=
  match Package.manifestProblems s.maxShown manifest with
  | .error .tooDeep => .error .tooDeep
  | .error .oversized => .error .oversized
  | .ok (problem :: _) => .error (.failure (.unfitManifest problem))
  | .ok [] =>
    match Package.cleanStory s.maxCopied story with
    | .error _ => .error .tooDeep
    | .ok cleaned =>
      match Story.ofJson cleaned with
      | .refused problems => .error (.failure (.unfitStory problems.length))
      | .ok story =>
        match s.check story with
        | .error _ => .error .oversized
        | .ok verdict =>
          .ok ⟨manifest, story, verdict, Package.assetFaults s.maxAssetBytes assets⟩

end Desk

end Gamebook
