import Gamebook.Proofs.ImportedTexts

/-!
# Places of cleaned texts

A story is cleaned before anything is known of its shape: at each level, from the collections down
to the labels of choices, there may be a value of any kind. Here its free texts are told by where
they stand. A place is given by indices, and the steps to it tell which of them are keys. Cleaning
changes the texts behind certain steps and keeps all else, the keys and the order of the parts
included. Only nesting that is too deep for a copy keeps a story from being cleaned.
-/

namespace Gamebook.Proofs

open Package

/-! ## Places -/

/-- A step from a value to one of its parts. To the value of a field whose key is garbled there are
two steps: to the key as it is shown, and from there to the value. -/
inductive Step where
  | item
  | field (key : String)
  | garbledKey (key : Text.Garbled)

/-- The part at an index, with the step to it. -/
def part? : Json → ℕ → Option (Step × Json)
  | .array items, i => items[i]?.map fun j => (.item, j)
  | .object fields, i => fields[i]?.map fun (key, j) => (.field key, j)
  | .keyed g j, 0 => some (.garbledKey g, j)
  | _, _ => none

/-- The value at a place, with the steps to it. -/
def at? : Json → List ℕ → Option (List Step × Json)
  | j, [] => some ([], j)
  | j, i :: place => (part? j i).bind fun (step, part) =>
      (at? part place).map fun (steps, value) => (step :: steps, value)

/-- What a value is, leaving out the values of its parts. -/
inductive Shape where
  | null
  | bool (b : Bool)
  | number (n : Number)
  | text (s : String)
  | garbled (g : Text.Garbled)
  | array (length : ℕ)
  | object (keys : List String)
  | keyed (key : Text.Garbled)

/-- The shape of a value. -/
def shape : Json → Shape
  | .null => .null
  | .bool b => .bool b
  | .number n => .number n
  | .string s => .text s
  | .garbled g => .garbled g
  | .array items => .array items.length
  | .object fields => .object (Entries.keys fields)
  | .keyed g _ => .keyed g

/-- The shape of the value at a place, with the steps to it. -/
def shapeAt? (j : Json) (place : List ℕ) : Option (List Step × Shape) :=
  (at? j place).map fun (steps, value) => (steps, shape value)

/-- A text is cleaned, garbled or not, and anything else stays. -/
def Shape.cleaned : Shape → Shape
  | text s => text (cleanText s)
  | garbled g => shape (.ofPieces (cleanPieces g.pieces))
  | other => other

/-! ## Cleaning behind steps -/

mutual

/-- Cleans each text that stands behind steps of the kind. -/
def cleanAt (free : List Step → Bool) : Json → Json
  | .string s => .string (if free [] then cleanText s else s)
  | .garbled g => if free [] then .ofPieces (cleanPieces g.pieces) else .garbled g
  | .array items => .array (cleanItemsAt (fun steps => free (.item :: steps)) items)
  | .object fields => .object (cleanFieldsAt (fun key steps => free (.field key :: steps)) fields)
  | .keyed g j => .keyed g (cleanAt (fun steps => free (.garbledKey g :: steps)) j)
  | j => j

def cleanItemsAt (free : List Step → Bool) : List Json → List Json
  | [] => []
  | j :: items => cleanAt free j :: cleanItemsAt free items

def cleanFieldsAt (free : String → List Step → Bool) :
    List (String × Json) → List (String × Json)
  | [] => []
  | (key, j) :: fields => (key, cleanAt (free key) j) :: cleanFieldsAt free fields

end

variable {free : List Step → Bool} {fields : Entries Json} {names : List String}

lemma cleanAt_array (items : List Json) :
    cleanAt free (.array items) =
      .array (items.map (cleanAt fun steps => free (.item :: steps))) := by
  have hitems : ∀ (free : List Step → Bool) (items : List Json),
      cleanItemsAt free items = items.map (cleanAt free) := by
    intro free items
    induction items with
    | nil => rw [cleanItemsAt, List.map_nil]
    | cons j items ih => rw [cleanItemsAt, List.map_cons, ih]
  rw [cleanAt, hitems]

lemma cleanAt_object (fields : Entries Json) :
    cleanAt free (.object fields) =
      .object (onEntries (fun key => cleanAt fun steps => free (.field key :: steps)) fields) := by
  have hfields : ∀ (free : String → List Step → Bool) (fields : Entries Json),
      cleanFieldsAt free fields = onEntries (fun key => cleanAt (free key)) fields := by
    intro free fields
    induction fields with
    | nil => rw [cleanFieldsAt, onEntries, List.map_nil]
    | cons field fields ih =>
      obtain ⟨key, j⟩ := field
      rw [cleanFieldsAt, ih]
      rfl
  rw [cleanAt, hfields]

mutual

lemma cleanAt_none : ∀ j : Json, cleanAt (fun _ => false) j = j
  | .null | .bool _ | .number _ | .string _ | .garbled _ => by simp [cleanAt]
  | .array items => by rw [cleanAt, cleanItemsAt_none items]
  | .object fields => by rw [cleanAt, cleanFieldsAt_none fields]
  | .keyed g j => by rw [cleanAt, cleanAt_none j]

lemma cleanItemsAt_none : ∀ items : List Json, cleanItemsAt (fun _ => false) items = items
  | [] => by rw [cleanItemsAt]
  | j :: items => by rw [cleanItemsAt, cleanAt_none j, cleanItemsAt_none items]

lemma cleanFieldsAt_none :
    ∀ fields : List (String × Json), cleanFieldsAt (fun _ _ => false) fields = fields
  | [] => by rw [cleanFieldsAt]
  | (key, j) :: fields => by rw [cleanFieldsAt, cleanAt_none j, cleanFieldsAt_none fields]

end

/-! ### Places of cleaned values -/

/-- A text that was garbled has no parts once it is cleaned either. -/
lemma part?_ofPieces (pieces : List Text.Piece) (i : ℕ) : part? (.ofPieces pieces) i = none := by
  rcases ofPieces_cases pieces with ⟨s, hs, -⟩ | ⟨g, hg, -⟩
  · rw [hs]
    rfl
  · rw [hg]
    rfl

lemma part?_cleanAt (j : Json) (i : ℕ) :
    part? (cleanAt free j) i =
      (part? j i).map fun (step, part) =>
        (step, cleanAt (fun steps => free (step :: steps)) part) := by
  cases j with
  | array items =>
    rw [cleanAt_array]
    simp only [part?, List.getElem?_map, Option.map_map]
    rfl
  | object fields =>
    rw [cleanAt_object]
    simp only [part?, onEntries, List.getElem?_map, Option.map_map]
    rfl
  | keyed g j =>
    rw [cleanAt]
    cases i <;> rfl
  | garbled g =>
    rw [cleanAt]
    split
    · exact part?_ofPieces _ i
    · rfl
  | _ => rfl

lemma at?_cleanAt (j : Json) (place : List ℕ) :
    at? (cleanAt free j) place =
      (at? j place).map fun (steps, value) =>
        (steps, cleanAt (fun rest => free (steps ++ rest)) value) := by
  induction place generalizing free j with
  | nil => rfl
  | cons i place ih =>
    rw [at?, at?, part?_cleanAt]
    cases part? j i with
    | none => rfl
    | some found =>
      obtain ⟨step, part⟩ := found
      simp only [Option.map_some, Option.bind_some, ih, Option.map_map]
      rfl

lemma shape_cleanAt (j : Json) :
    shape (cleanAt free j) = if free [] then (shape j).cleaned else shape j := by
  cases j with
  | string s => cases hfree : free [] <;> simp [cleanAt, hfree, shape, Shape.cleaned]
  | garbled g => cases hfree : free [] <;> simp [cleanAt, hfree, shape, Shape.cleaned]
  | array items =>
    rw [cleanAt_array]
    simp [shape, Shape.cleaned]
  | object fields =>
    rw [cleanAt_object]
    simp [shape, Shape.cleaned, Entries.keys, onEntries]
  | _ => simp [cleanAt, shape, Shape.cleaned]

/-- Behind free steps texts are cleaned; the steps and all other shapes stay. -/
lemma shapeAt?_cleanAt (j : Json) (place : List ℕ) :
    shapeAt? (cleanAt free j) place =
      (shapeAt? j place).map fun (steps, s) => (steps, if free steps then s.cleaned else s) := by
  unfold shapeAt?
  rw [at?_cleanAt, Option.map_map, Option.map_map]
  congr 1
  funext found
  obtain ⟨steps, value⟩ := found
  simp only [Function.comp_apply, shape_cleanAt, List.append_nil]

/-! ## Stories -/

/-- Is this the step to a field of one of the names? -/
def isFieldOf (names : List String) : List Step → Bool
  | [.field name] => names.contains name
  | _ => false

/-- Do these steps lead from a node to its text or its id, or to the label or the id of a choice? -/
def isNodeText : List Step → Bool
  | .field list :: .item :: steps => list = "choices" && isFieldOf ["label", "id"] steps
  | steps => isFieldOf ["text", "id"] steps

/-- Are these steps of the kind, once a garbled key is behind? -/
def behindKey (free : List Step → Bool) : List Step → Bool
  | .garbledKey _ :: steps => free steps
  | steps => free steps

/-- Do these steps lead from a story to a free text? -/
def isFreeText : List Step → Bool
  | .field collection :: .field _ :: steps =>
    if collection = "nodes" then behindKey isNodeText steps
    else ["items", "enemies", "encounters"].contains collection &&
      behindKey (isFieldOf ["name"]) steps
  | _ => false

lemma cleanAt_eq_self (h : ∀ steps, free steps = false) (j : Json) : cleanAt free j = j := by
  obtain rfl : free = fun _ => false := funext h
  exact cleanAt_none j

lemma cleanAt_array_eq_self (h : ∀ steps, free (.item :: steps) = false) (items : List Json) :
    cleanAt free (.array items) = .array items := by
  have hkeep : (cleanAt fun steps => free (.item :: steps)) = id :=
    funext (cleanAt_eq_self h)
  rw [cleanAt_array, hkeep, List.map_id]

lemma cleanAt_object_eq_self (h : ∀ key steps, free (.field key :: steps) = false)
    (fields : Entries Json) : cleanAt free (.object fields) = .object fields := by
  have hkeep : (fun key => cleanAt fun steps => free (.field key :: steps)) = fun _ => id :=
    funext fun key => funext (cleanAt_eq_self (h key))
  rw [cleanAt_object, hkeep, onEntries_id]

lemma cleanAt_keyed_eq_self {g : Text.Garbled}
    (h : ∀ steps, free (.garbledKey g :: steps) = false) (j : Json) :
    cleanAt free (.keyed g j) = .keyed g j := by
  rw [cleanAt, cleanAt_eq_self h]

lemma cleanValue_eq (j : Json) : cleanValue j = cleanAt (fun steps => steps.isEmpty) j := by
  cases j with
  | array items => exact (cleanAt_array_eq_self (fun _ => rfl) items).symm
  | object fields => exact (cleanAt_object_eq_self (fun _ _ => rfl) fields).symm
  | keyed g j => exact (cleanAt_keyed_eq_self (fun _ => rfl) j).symm
  | _ => rfl

lemma changedIn_eq (hnodup : names.Nodup) (f : Json → Json) (key : String) (j : Json) :
    changedIn names f key j = if key ∈ names then f j else j := by
  unfold changedIn
  induction names generalizing j with
  | nil => rfl
  | cons name names ih =>
    obtain ⟨hfresh, hnodup⟩ := List.nodup_cons.mp hnodup
    rw [List.foldl_cons, ih hnodup]
    by_cases hkey : key = name
    · subst hkey
      simp [hfresh]
    · simp [hkey]

lemma changedIn_eq_cleanAt (hnodup : names.Nodup) (key : String) (j : Json) :
    changedIn names cleanValue key j =
      cleanAt (fun steps => isFieldOf names (.field key :: steps)) j := by
  rw [changedIn_eq hnodup]
  by_cases hkey : key ∈ names
  · have hfree : (fun steps => isFieldOf names (.field key :: steps)) =
        fun steps => steps.isEmpty := by
      funext steps
      cases steps <;> simp [isFieldOf, hkey]
    rw [if_pos hkey, hfree, cleanValue_eq]
  · rw [if_neg hkey, cleanAt_eq_self]
    intro steps
    cases steps <;> simp [isFieldOf, hkey]

lemma eq_cleanAt_of_object {g : Json → Json} {changes : String → Json → Json}
    (hobject : ∀ fields, g (.object fields) = .object (onEntries changes fields))
    (hother : ∀ j, (∀ fields, j ≠ .object fields) → g j = j)
    (hself : free [] = false) (hitem : ∀ steps, free (.item :: steps) = false)
    (hkey : ∀ g steps, free (.garbledKey g :: steps) = false)
    (hchanges : ∀ key j, changes key j = cleanAt (fun steps => free (.field key :: steps)) j)
    (j : Json) : g j = cleanAt free j := by
  cases j with
  | object fields =>
    obtain rfl : changes = fun key => cleanAt fun steps => free (.field key :: steps) :=
      funext fun key => funext (hchanges key)
    rw [hobject, cleanAt_object]
  | array items => rw [hother _ (by simp), cleanAt_array_eq_self hitem]
  | keyed g j => rw [hother _ (by simp), cleanAt_keyed_eq_self (hkey g)]
  | _ => simp [hother, cleanAt, hself]

lemma cleanFields_eq (hnodup : names.Nodup) (j : Json) :
    onFields names cleanValue j = cleanAt (isFieldOf names) j :=
  eq_cleanAt_of_object (onFields_object names cleanValue) (fun _ => onFields_of_ne_object) rfl
    (fun _ => rfl) (fun _ _ => rfl) (changedIn_eq_cleanAt hnodup) j

lemma cleanChoices_eq (j : Json) :
    onItems (onFields ["label", "id"] cleanValue) j =
      cleanAt (fun steps => isNodeText (.field "choices" :: steps)) j := by
  cases j with
  | array items =>
    rw [cleanAt_array]
    exact congrArg Json.array (List.map_congr_left fun item _ => cleanFields_eq (by decide) item)
  | object fields => exact (cleanAt_object_eq_self (fun _ _ => rfl) fields).symm
  | keyed g j => exact (cleanAt_keyed_eq_self (fun _ => rfl) j).symm
  | _ => rfl

lemma changedInNode_eq (key : String) (j : Json) :
    changedInNode cleanValue key j =
      cleanAt (fun steps => isNodeText (.field key :: steps)) j := by
  unfold changedInNode
  split
  · rename_i hkey
    subst hkey
    rw [changedIn_eq (by decide), if_neg (by decide), cleanChoices_eq]
  · rename_i hkey
    have hfree : (fun steps => isNodeText (.field key :: steps)) =
        fun steps => isFieldOf ["text", "id"] (.field key :: steps) := by
      funext steps
      cases steps with
      | nil => rfl
      | cons step steps => cases step <;> simp [isNodeText, isFieldOf, hkey]
    rw [changedIn_eq_cleanAt (by decide), hfree]

lemma cleanNode_eq (j : Json) : onNodeTexts cleanValue j = cleanAt isNodeText j := by
  refine eq_cleanAt_of_object (onNodeTexts_object cleanValue) (fun j hj => ?_) rfl (fun _ => rfl)
    (fun _ _ => rfl) changedInNode_eq j
  unfold onNodeTexts
  rw [onFields_of_ne_object hj, onField_of_ne_object hj]

lemma underKey_eq {clean : Json → Json} {entity : List Step → Bool}
    (hclean : ∀ j, clean j = cleanAt entity j) (j : Json) :
    underKey clean j = cleanAt (behindKey entity) j := by
  cases j with
  | keyed g j => exact congrArg (Json.keyed g) (hclean j)
  | _ => exact hclean _

lemma onValues_eq {clean : Json → Json} {entity : List Step → Bool}
    (hclean : ∀ j, clean j = cleanAt entity j)
    (hfree : ∀ key steps, free (.field key :: steps) = behindKey entity steps)
    (hself : free [] = false) (hitem : ∀ steps, free (.item :: steps) = false)
    (hkey : ∀ g steps, free (.garbledKey g :: steps) = false) (j : Json) :
    onValues clean j = cleanAt free j := by
  have hobject : ∀ fields,
      onValues clean (.object fields) = .object (onEntries (fun _ => underKey clean) fields) :=
    fun _ => rfl
  refine eq_cleanAt_of_object hobject (fun j hj => ?_) hself hitem hkey (fun key j => ?_) j
  · cases j with
    | object fields => exact absurd rfl (hj fields)
    | _ => rfl
  · rw [underKey_eq hclean]
    simp only [hfree]

lemma changedInStory_eq (key : String) (j : Json) :
    changedInStory cleanValue key j =
      cleanAt (fun steps => isFreeText (.field key :: steps)) j := by
  by_cases hnodes : key = "nodes"
  · subst hnodes
    exact onValues_eq cleanNode_eq (fun _ _ => rfl) rfl (fun _ => rfl) (fun _ _ => rfl) j
  · by_cases hnamed : key ∈ ["items", "enemies", "encounters"]
    · have hchange : changedInStory cleanValue key j =
          onValues (onFields ["name"] cleanValue) j := by
        simp only [List.mem_cons, List.not_mem_nil, or_false] at hnamed
        rcases hnamed with rfl | rfl | rfl <;> rfl
      have hfree : ∀ entity steps, isFreeText (.field key :: .field entity :: steps) =
          behindKey (isFieldOf ["name"]) steps := by
        intro entity steps
        rw [isFreeText, if_neg hnodes, List.contains_iff_mem.mpr hnamed, Bool.true_and]
      rw [hchange]
      exact onValues_eq (cleanFields_eq (by decide)) hfree rfl (fun _ => rfl) (fun _ _ => rfl) j
    · have hfree : ∀ steps, isFreeText (.field key :: steps) = false := by
        intro steps
        rcases steps with _ | ⟨_ | entity | g, steps⟩
        case cons.field =>
          rw [isFreeText, if_neg hnodes, Bool.and_eq_false_iff]
          exact .inl (by simpa using hnamed)
        all_goals rfl
      have hkeep : changedInStory cleanValue key j = j := by
        simp only [List.mem_cons, List.not_mem_nil, or_false, not_or] at hnamed
        obtain ⟨hitems, henemies, hencounters⟩ := hnamed
        simp [changedInStory, hnodes, hitems, henemies, hencounters]
      rw [hkeep, cleanAt_eq_self hfree]

/-- Whatever a story looks like that is not nested too deep, cleaning it changes its free texts and
nothing else. At each place stands what stood there, behind the same steps; a text behind the steps
to a free text is cleaned, and every other value keeps its length, its keys in their order, or what
it is. A story that is nested too deep is refused. -/
theorem cleanStory_places (room : ℕ) (fields : Entries Json) :
    ((Json.object fields).height ≤ room → ∃ cleaned,
      cleanStory room (.object fields) = .ok cleaned ∧
      cleaned = cleanAt isFreeText (.object fields) ∧
      ∀ place, shapeAt? cleaned place =
        (shapeAt? (.object fields) place).map fun (steps, s) =>
          (steps, if isFreeText steps then s.cleaned else s)) ∧
    (room < (Json.object fields).height → cleanStory room (.object fields) = .error ⟨⟩) := by
  have hall : onFreeTexts cleanValue (.object fields) = cleanAt isFreeText (.object fields) := by
    rw [onFreeTexts_object, cleanAt_object]
    congr
    funext key j
    exact changedInStory_eq key j
  rw [cleanStory_object]
  refine ⟨fun hroom => ⟨_, by rw [if_pos hroom, hall], rfl, fun place => ?_⟩, fun hroom => ?_⟩
  · exact shapeAt?_cleanAt _ place
  · rw [if_neg (Nat.not_le.mpr hroom)]

/-- A list of nodes is no collection, and a note is no free text. -/
example : cleanStory 9 (.object [("nodes", .array [.object [("id", "javascript:")]]),
      ("items", .object [("rope",
        .object [("name", "javascript:rope"), ("note", "javascript:")])])]) =
    .ok (.object [("nodes", .array [.object [("id", "javascript:")]]),
      ("items", .object [("rope", .object [("name", "rope"), ("note", "javascript:")])])]) := by
  rfl

/-! ## Deep stories -/

/-- An empty array in so many others. -/
def nested : ℕ → Json
  | 0 => .array []
  | n + 1 => .array [nested n]

lemma height_nested (n : ℕ) : (nested n).height = n + 1 := by
  induction n with
  | zero => rfl
  | succ n ih =>
    rw [nested, Json.height, Json.itemsHeight, Json.itemsHeight, ih]
    omega

/-- The fields of a story with a note that is nested deep. -/
def deepNote : Entries Json := [("nodes", .object []), ("note", nested 520)]

lemma height_deepNote : (Json.object deepNote).height = 522 := by
  unfold deepNote
  rw [Json.height, Json.fieldsHeight, Json.fieldsHeight, Json.fieldsHeight, height_nested]
  rfl

/-- A story need not be cleaned at all. -/
theorem cleanStory_deepNote :
    cleanStory Settings.standard.maxCopied (.object deepNote) = .error ⟨⟩ := by
  rw [cleanStory_object, height_deepNote]
  rfl

end Gamebook.Proofs
