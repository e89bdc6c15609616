import Gamebook.Check.Diagnostic
import Gamebook.Package.Base64

/-!
# Assets

An asset of a package is an object with a name and data in base64. The data must not be too large
and must begin like an image or a sound of a known kind.
-/

namespace Gamebook.Package

/-- The bytes that data of the known image and sound formats begin with. At least twelve bytes are
needed to tell. -/
def hasKnownSignature (data : List UInt8) : Bool :=
  let starts (bytes : List UInt8) := bytes.isPrefixOf data
  let fromEighth (bytes : List UInt8) := bytes.isPrefixOf (data.drop 8)
  if (data.take 12).length < 12 then false
  else
    starts [0x89, 0x50, 0x4E, 0x47, 0x0D, 0x0A, 0x1A, 0x0A] ||
    starts [0xFF, 0xD8, 0xFF] ||
    starts [0x47, 0x49, 0x46, 0x38, 0x37, 0x61] || starts [0x47, 0x49, 0x46, 0x38, 0x39, 0x61] ||
    (starts [0x52, 0x49, 0x46, 0x46] &&
      (fromEighth [0x57, 0x45, 0x42, 0x50] || fromEighth [0x57, 0x41, 0x56, 0x45])) ||
    starts [0x4F, 0x67, 0x67, 0x53] || starts [0x49, 0x44, 0x33] ||
    match data with
    | first :: second :: _ => first == 0xFF && second.toNat / 32 == 7
    | _ => false

inductive AssetFault where
  /-- No object with a name and data. -/
  | shape (index : Nat)
  | encoding (name : String)
  | tooLarge (name : String) (size : Nat) (limit : Int)
  | signature (name : String)

namespace AssetFault

def error (code message : String) (context : List (String × Json)) : Diagnostic :=
  ⟨code, .error, none, none, none, message, none, some context⟩

def diagnostic : AssetFault → Diagnostic
  | shape index => error "asset_shape" "Invalid asset payload shape" [("index", .int index)]
  | encoding name =>
    error "asset_shape" ("Asset is not valid base64: " ++ name) [("asset", name)]
  | tooLarge name size limit =>
    error "asset_too_large" ("Asset too large: " ++ name)
      [("asset", name), ("bytes", .int size), ("maxBytes", .int limit)]
  | signature name =>
    error "asset_signature" ("Unsupported or unsafe asset type: " ++ name) [("asset", name)]

end AssetFault

def assetFault? (limit : Int) (index : Nat) (asset : Json) : Option AssetFault :=
  match (asset.field? "name").bind Json.text?, (asset.field? "base64").bind Json.text? with
  | some name, some text =>
    match decode64? text with
    | none => some (.encoding name)
    | some data =>
      if limit < data.length then some (.tooLarge name data.length limit)
      else if hasKnownSignature data then none
      else some (.signature name)
  | _, _ => some (.shape index)

def assetFaults (limit : Int) (assets : List Json) : List AssetFault :=
  (assets.mapIdx (assetFault? limit)).filterMap id

end Gamebook.Package
