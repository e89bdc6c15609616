import Gamebook.Api.Target
import Gamebook.Json.Basic
import Gamebook.Schema.Problem

/-!
# Requests and responses

Requests and responses carry JSON, in which every number is finite and not too long to be written,
and no text is garbled. A response leaves out the fields whose names mark them as private.
-/

namespace Gamebook

namespace Json

mutual

/-- Can all numbers be written, are they finite, and is no text garbled? -/
def isSendable : Json → Bool
  | number (.int n) => isShort (.int n)
  | number (.double x) => x.isFinite
  | garbled _ | keyed _ _ => false
  | array items => areSendable items
  | object fields => fieldsAreSendable fields
  | _ => true

def areSendable : List Json → Bool
  | [] => true
  | j :: items => isSendable j && areSendable items

def fieldsAreSendable : List (String × Json) → Bool
  | [] => true
  | (_, j) :: fields => isSendable j && fieldsAreSendable fields

end

def isPrivate (key : String) : Bool := ['_', 's', 'a'].isPrefixOf key.toList

mutual

def withoutPrivate : Json → Json
  | array items => array (itemsWithoutPrivate items)
  | object fields => object (fieldsWithoutPrivate fields)
  | keyed key j => keyed key (withoutPrivate j)
  | j => j

def itemsWithoutPrivate : List Json → List Json
  | [] => []
  | j :: items => withoutPrivate j :: itemsWithoutPrivate items

def fieldsWithoutPrivate : List (String × Json) → List (String × Json)
  | [] => []
  | (key, j) :: fields =>
    if isPrivate key then fieldsWithoutPrivate fields
    else (key, withoutPrivate j) :: fieldsWithoutPrivate fields

end

end Json

structure Request where
  method : String
  path : String
  query : Entries String
  body : Option Json

/-- The request for a target. A query that is given apart takes the place of its own. -/
def Request.ofTarget (method target : String) (query? : Option (Entries String))
    (body : Option Json) : Request :=
  let t := Target.ofText target
  ⟨method, t.path, query?.getD t.query, body⟩

inductive Content where
  | json (j : Json)
  | problems (ps : List Problem)

structure Response where
  status : Nat
  content : Content

namespace Response

def error (status : Nat) (detail : Json) : Response :=
  ⟨status, .json (.object [("detail", detail)])⟩

/-- The request is understood, but not what it carries. -/
def unprocessable (problems : List Problem) : Response := ⟨422, .problems problems⟩

end Response

end Gamebook
