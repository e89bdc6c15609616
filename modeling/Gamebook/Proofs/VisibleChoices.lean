import Gamebook.Play.Visibility
import Gamebook.Proofs.NumberLine
import Gamebook.Proofs.Play
import Gamebook.Proofs.SegmentReading

/-!
# Choices on offer

In a story without errors a player is offered the choices whose requirements hold, and no others.
In any story the offer depends on no more of the player than the requirements name, and a further
requirement can only narrow it.
-/

namespace Gamebook.Proofs

/-! ## When requirements hold -/

/-- Values that count as unset. -/
inductive Unset : Json → Prop
  | null : Unset .null
  | no : Unset (.bool false)
  | zero {n : Number} (h : value? n = some 0) : Unset (.number n)
  | string : Unset (.string "")
  | array : Unset (.array [])
  | object : Unset (.object [])
  | keyed {key : Text.Garbled} {value : Json} (h : Unset value) : Unset (.keyed key value)

def HasFlag (st : PlayerState) (key : String) : Prop :=
  ∃ value, Entries.get? key st.flags = some value ∧ ¬Unset value

/-- The player has more than none of the item. -/
def HasItem (st : PlayerState) (itemId : String) : Prop :=
  ∃ quantity x, Entries.get? itemId st.items = some quantity ∧ value? quantity = some x ∧ 0 < x

inductive HasStat (st : PlayerState) : String → Number → Prop
  | hp : HasStat st "hpCurrent" st.hp
  | currency : HasStat st "currency" st.currency

inductive Compares : String → Line → Line → Prop
  | atLeast {x y : Line} (h : y ≤ x) : Compares ">=" x y
  | atMost {x y : Line} (h : x ≤ y) : Compares "<=" x y
  | above {x y : Line} (h : y < x) : Compares ">" x y
  | below {x y : Line} (h : x < y) : Compares "<" x y
  | same (x : Line) : Compares "==" x x

inductive IsMet (st : PlayerState) : Requirement → Prop
  | hasFlag {key : Arg} (h : HasFlag st key.text) : IsMet st (.hasFlag key)
  | notHasFlag {key : Arg} (h : ¬HasFlag st key.text) : IsMet st (.notHasFlag key)
  | hasItem {itemId : Arg} (h : HasItem st itemId.text) : IsMet st (.hasItem itemId)
  | statCheck {stat operator : Arg} {value number : Number} {x y : Line}
      (hstat : HasStat st stat.text number) (hx : value? number = some x)
      (hy : value? value = some y) (h : Compares operator.text x y) :
      IsMet st (.statCheck stat operator value)

section

variable {st st' : PlayerState}

lemma truthy_iff {value : Json} : value.truthy = true ↔ ¬Unset value := by
  cases value with
  | null => exact iff_of_false Bool.false_ne_true (not_not_intro .null)
  | bool b =>
    cases b with
    | false => exact iff_of_false Bool.false_ne_true (not_not_intro .no)
    | true => exact iff_of_true rfl nofun
  | number n =>
    rw [Json.truthy, Bool.not_eq_true', ← Bool.not_eq_true, isZero_iff]
    exact not_congr ⟨.zero, fun | .zero h => h⟩
  | string s =>
    rw [Json.truthy, decide_eq_true_iff]
    exact not_congr ⟨fun h => h ▸ .string, fun | .string => rfl⟩
  | garbled => exact iff_of_true rfl nofun
  | array items =>
    cases items with
    | nil => exact iff_of_false Bool.false_ne_true (not_not_intro .array)
    | cons => exact iff_of_true rfl nofun
  | object fields =>
    cases fields with
    | nil => exact iff_of_false Bool.false_ne_true (not_not_intro .object)
    | cons => exact iff_of_true rfl nofun
  | keyed key value =>
    rw [Json.truthy, truthy_iff]
    exact not_congr ⟨.keyed, fun | .keyed h => h⟩

lemma flag_iff (st : PlayerState) (key : String) : st.flag key = true ↔ HasFlag st key := by
  unfold PlayerState.flag HasFlag
  cases Entries.get? key st.flags with
  | none => simp
  | some value => simp [truthy_iff]

lemma quantity_iff (st : PlayerState) (itemId : String) :
    Number.lt 0 (st.quantity itemId) = true ↔ HasItem st itemId := by
  have hzero : value? 0 = some 0 := rfl
  unfold PlayerState.quantity HasItem
  rw [lt_iff, hzero]
  cases Entries.get? itemId st.items with
  | none => simp [hzero]
  | some quantity => simp

lemma stat_of_hasStat {stat : String} {number : Number} (h : HasStat st stat number) :
    st.stat stat = number := by
  cases h <;> rfl

lemma hasStat_stat {stat : String} (h : stat ∈ statNames) : HasStat st stat (st.stat stat) := by
  simp only [statNames, List.mem_cons, List.not_mem_nil, or_false] at h
  rcases h with rfl | rfl
  · exact .hp
  · exact .currency

lemma compares_iff {operator : String} {a b : Number} :
    (∃ x y, value? a = some x ∧ value? b = some y ∧ Compares operator x y) ↔
      ∃ compare, comparison? operator = some compare ∧ compare a b = true := by
  constructor
  · rintro ⟨x, y, ha, hb, h⟩
    cases h with
    | atLeast h => exact ⟨_, rfl, le_iff.mpr ⟨y, x, hb, ha, h⟩⟩
    | atMost h => exact ⟨_, rfl, le_iff.mpr ⟨x, y, ha, hb, h⟩⟩
    | above h => exact ⟨_, rfl, lt_iff.mpr ⟨y, x, hb, ha, h⟩⟩
    | below h => exact ⟨_, rfl, lt_iff.mpr ⟨x, y, ha, hb, h⟩⟩
    | same => exact ⟨_, rfl, eq_iff.mpr ⟨x, ha, hb⟩⟩
  · rintro ⟨compare, hcompare, h⟩
    unfold comparison? at hcompare
    split at hcompare <;> cases hcompare
    · obtain ⟨y, x, hb, ha, hle⟩ := le_iff.mp h
      exact ⟨x, y, ha, hb, .atLeast hle⟩
    · obtain ⟨x, y, ha, hb, hle⟩ := le_iff.mp h
      exact ⟨x, y, ha, hb, .atMost hle⟩
    · obtain ⟨y, x, hb, ha, hlt⟩ := lt_iff.mp h
      exact ⟨x, y, ha, hb, .above hlt⟩
    · obtain ⟨x, y, ha, hb, hlt⟩ := lt_iff.mp h
      exact ⟨x, y, ha, hb, .below hlt⟩
    · obtain ⟨x, ha, hb⟩ := eq_iff.mp h
      exact ⟨x, x, ha, hb, .same x⟩

lemma holds_statCheck {stat operator : Arg} {value : Number} :
    (Requirement.statCheck stat operator value).holds st = true ↔
      ∃ x y, value? (st.stat stat.text) = some x ∧ value? value = some y ∧
        Compares operator.text x y := by
  rw [compares_iff, Requirement.holds]
  cases comparison? operator.text with
  | none => simp
  | some compare => simp

lemma isMet_iff {q : Requirement}
    (hknown : ∀ stat operator value, q = .statCheck stat operator value → stat.text ∈ statNames) :
    q.holds st = true ↔ IsMet st q := by
  cases q with
  | hasFlag key =>
    rw [Requirement.holds, flag_iff]
    exact ⟨.hasFlag, fun | .hasFlag h => h⟩
  | notHasFlag key =>
    rw [Requirement.holds, Bool.not_eq_true', ← Bool.not_eq_true, flag_iff]
    exact ⟨.notHasFlag, fun | .notHasFlag h => h⟩
  | hasItem itemId =>
    rw [Requirement.holds, quantity_iff]
    exact ⟨.hasItem, fun | .hasItem h => h⟩
  | statCheck stat operator value =>
    rw [holds_statCheck]
    constructor
    · rintro ⟨x, y, hx, hy, h⟩
      exact .statCheck (hasStat_stat (hknown stat operator value rfl)) hx hy h
    · rintro (_ | _ | _ | ⟨hstat, hx, hy, h⟩)
      exact ⟨_, _, (stat_of_hasStat hstat).symm ▸ hx, hy, h⟩

lemma requirementsHold_iff {c : Choice} :
    requirementsHold st c.requirements = true ↔ ∀ q ∈ c.requirementList, q.holds st = true :=
  List.all_eq_true

/-! ## Sound stories -/

/-- A node offers the choices whose requirements hold, in their order, and compares known stats by
known operators only. -/
structure OffersExactly (st : PlayerState) (n : Node) : Prop where
  known : ∀ c ∈ n.choiceList, ∀ stat operator value,
    .statCheck stat operator value ∈ c.requirementList →
      operator.text ∈ statOperators ∧ stat.text ∈ statNames
  offered : ∃ keep : Choice → Bool, visibleChoices st n.choiceList = n.choiceList.filter keep ∧
    ∀ c ∈ n.choiceList, keep c = true ↔ ∀ q ∈ c.requirementList, IsMet st q
  free : ∀ c ∈ n.choiceList, c.requirementList = [] → c ∈ visibleChoices st n.choiceList

lemma known_of_sound {s : Story} (hsound : s.entityVerdict.isSound = true) {n : Node}
    (hn : n ∈ s.nodes.toList) {c : Choice} (hc : c ∈ n.choiceList) {stat operator : Arg}
    {value : Number} (hq : .statCheck stat operator value ∈ c.requirementList) :
    operator.text ∈ statOperators ∧ stat.text ∈ statNames := by
  obtain ⟨i, hi⟩ := List.mem_iff_getElem?.mp hn
  obtain ⟨j, hj⟩ := List.mem_iff_getElem?.mp hc
  obtain ⟨k, hk⟩ := List.mem_iff_getElem?.mp hq
  constructor
  · by_contra hmissing
    exact severity_ne_error hsound (.requirement i j k .operator)
      ⟨n, hi, c, hj, _, hk, stat, operator, value, rfl, hmissing, rfl⟩ rfl
  · by_contra hmissing
    exact severity_ne_error hsound (.requirement i j k .stat)
      ⟨n, hi, c, hj, _, hk, stat, operator, value, rfl, hmissing, rfl⟩ rfl

lemma offersExactly_of_sound {s : Story} (hsound : s.entityVerdict.isSound = true) {n : Node}
    (hn : n ∈ s.nodes.toList) (st : PlayerState) : OffersExactly st n := by
  refine ⟨fun c hc stat operator value => known_of_sound hsound hn hc, ⟨_, rfl, fun c hc => ?_⟩,
    fun c hc hnone => ?_⟩
  · rw [requirementsHold_iff]
    refine forall₂_congr fun q hq => isMet_iff fun stat operator value hstat => ?_
    exact (known_of_sound hsound hn hc (hstat ▸ hq)).2
  · refine List.mem_filter.mpr ⟨hc, requirementsHold_iff.mpr ?_⟩
    rw [hnone]
    exact List.forall_mem_nil _

/-! ## What visibility depends on -/

def Names (choices : List Choice) (q : Requirement) : Prop :=
  ∃ c ∈ choices, q ∈ c.requirementList

/-- Two players are alike in what the choices name. Every stat but the hit points is the
currency. -/
structure AlikeFor (choices : List Choice) (st st' : PlayerState) : Prop where
  flags : ∀ key, Names choices (.hasFlag key) ∨ Names choices (.notHasFlag key) →
    (HasFlag st key.text ↔ HasFlag st' key.text)
  items : ∀ itemId, Names choices (.hasItem itemId) →
    (HasItem st itemId.text ↔ HasItem st' itemId.text)
  hp : ∀ stat operator value, Names choices (.statCheck stat operator value) →
    stat.text = "hpCurrent" → value? st.hp = value? st'.hp
  currency : ∀ stat operator value, Names choices (.statCheck stat operator value) →
    stat.text ≠ "hpCurrent" → value? st.currency = value? st'.currency

lemma holds_congr {choices : List Choice} (h : AlikeFor choices st st') {q : Requirement}
    (hq : Names choices q) : q.holds st = q.holds st' := by
  rw [Bool.eq_iff_iff]
  cases q with
  | hasFlag key =>
    rw [Requirement.holds, Requirement.holds, flag_iff, flag_iff]
    exact h.flags key (.inl hq)
  | notHasFlag key =>
    rw [Requirement.holds, Requirement.holds, Bool.not_eq_true', Bool.not_eq_true',
      ← Bool.not_eq_true, ← Bool.not_eq_true, flag_iff, flag_iff]
    exact not_congr (h.flags key (.inr hq))
  | hasItem itemId =>
    rw [Requirement.holds, Requirement.holds, quantity_iff, quantity_iff]
    exact h.items itemId hq
  | statCheck stat operator value =>
    have hstat : value? (st.stat stat.text) = value? (st'.stat stat.text) := by
      unfold PlayerState.stat
      by_cases hname : stat.text = "hpCurrent"
      · rw [if_pos hname, if_pos hname]
        exact h.hp stat operator value hq hname
      · rw [if_neg hname, if_neg hname]
        exact h.currency stat operator value hq hname
    rw [holds_statCheck, holds_statCheck, hstat]

lemma visibleChoices_congr {choices : List Choice} (h : AlikeFor choices st st') :
    visibleChoices st choices = visibleChoices st' choices := by
  apply List.filter_congr
  intro c hc
  rw [Bool.eq_iff_iff, requirementsHold_iff, requirementsHold_iff]
  refine forall₂_congr fun q hq => ?_
  rw [holds_congr h ⟨c, hc, hq⟩]

/-! ## Further requirements -/

lemma requirementsHold_append (st : PlayerState) (rs : Option (List Requirement))
    (q : Requirement) : requirementsHold st (some (rs.getD [] ++ [q])) =
      (requirementsHold st rs && q.holds st) := by
  unfold requirementsHold
  rw [Option.getD_some, List.all_append, List.all_cons, List.all_nil, Bool.and_true]

lemma requirementsHold_bar (st : PlayerState) (c d : String) :
    requirementsHold st (Requirement.parseCell (c ++ "|" ++ d)).value =
      (requirementsHold st (Requirement.parseCell c).value &&
        requirementsHold st (Requirement.parseCell d).value) := by
  -- a cell without any requirement counts as the empty list, which holds
  have hcells : Segmentwise (readToken .requirement Requirement.ofToken)
      fun c => listed (Requirement.parseCell (Scalar.text c)) :=
    segmentwise_tokens fun c s hs => requirement_ne_invalid hs
  have hvalues : (Requirement.parseCell (c ++ "|" ++ d)).value.getD [] =
      (Requirement.parseCell c).value.getD [] ++ (Requirement.parseCell d).value.getD [] :=
    hcells.values c d
  unfold requirementsHold
  rw [hvalues, List.all_append]

end

/-- In a story without errors every node offers exactly what its requirements say, in every state of
the player. What any choices offer depends only on what they name. A further requirement never opens
a choice, and a cell of requirements between bars opens a choice where both of its parts do. -/
theorem visibleChoices_exact :
    (∀ s : Story, s.entityVerdict.isSound = true → ∀ n ∈ s.nodes.toList, ∀ st,
      OffersExactly st n) ∧
    (∀ choices st st', AlikeFor choices st st' →
      visibleChoices st choices = visibleChoices st' choices) ∧
    (∀ st rs q, requirementsHold st rs = false →
      requirementsHold st (some (rs.getD [] ++ [q])) = false) ∧
    ∀ st (c d : String), requirementsHold st (Requirement.parseCell (c ++ "|" ++ d)).value = true ↔
      requirementsHold st (Requirement.parseCell c).value = true ∧
        requirementsHold st (Requirement.parseCell d).value = true := by
  refine ⟨fun s hsound n hn st => offersExactly_of_sound hsound hn st,
    fun choices st st' h => visibleChoices_congr h, fun st rs q hhidden => ?_, fun st c d => ?_⟩
  · rw [requirementsHold_append, hhidden, Bool.false_and]
  · rw [requirementsHold_bar, Bool.and_eq_true]

/-- The choices of the cellar. They ask for a lamp and for strength. -/
def cellarChoices : List Choice := cellarStory.nodes.toList.flatMap Node.choiceList

def weak : PlayerState := ⟨[], [("lamp", 1)], 3, 0⟩

/-- A player who differs in what the cellar does not ask for. -/
def weakAndRich : PlayerState := ⟨[("map", .bool true)], [("rope", 1), ("lamp", 2)], 3, 90⟩

lemma named_cellarChoices {q : Requirement} (h : Names cellarChoices q) :
    (∃ itemId, q = .hasItem itemId ∧ itemId.text = "lamp") ∨
      ∃ stat operator value, q = .statCheck stat operator value ∧ stat.text = "hpCurrent" := by
  obtain ⟨c, hc, hq⟩ := h
  have hmem : q ∈ cellarChoices.flatMap Choice.requirementList :=
    List.mem_flatMap.mpr ⟨c, hc, hq⟩
  rcases List.mem_cons.mp hmem with rfl | hmem
  · exact .inl ⟨_, rfl, rfl⟩
  · obtain rfl := List.mem_singleton.mp hmem
    exact .inr ⟨_, _, _, rfl, rfl⟩

lemma alikeFor_cellarChoices : AlikeFor cellarChoices weak weakAndRich := by
  constructor
  · intro key hkey
    rcases hkey with h | h <;> simpa using named_cellarChoices h
  · intro itemId h
    have hlamp : itemId.text = "lamp" := by simpa using named_cellarChoices h
    rw [hlamp, ← quantity_iff, ← quantity_iff]
    exact iff_of_true (by decide +kernel) (by decide +kernel)
  · exact fun stat operator value h hname => rfl
  · intro stat operator value h hname
    have hhp : stat.text = "hpCurrent" := by simpa using named_cellarChoices h
    exact absurd hhp hname

theorem visibleChoices_exact_cellar :
    cellarStory.entityVerdict.isSound = true ∧
      (∀ n ∈ cellarStory.nodes.toList, ∀ st, OffersExactly st n) ∧
      AlikeFor cellarChoices weak weakAndRich ∧
      visibleChoices weak cellarChoices = visibleChoices weakAndRich cellarChoices ∧
      requirementsHold weak (some (cellarChoices.flatMap Choice.requirementList)) = false ∧
      ∀ q, requirementsHold weak
        (some (cellarChoices.flatMap Choice.requirementList ++ [q])) = false := by
  have hsound : cellarStory.entityVerdict.isSound = true := by decide +kernel
  have hhidden : requirementsHold weak
      (some (cellarChoices.flatMap Choice.requirementList)) = false := by decide +kernel
  obtain ⟨hoffers, halike, hfurther, -⟩ := visibleChoices_exact
  exact ⟨hsound, hoffers cellarStory hsound, alikeFor_cellarChoices,
    halike _ _ _ alikeFor_cellarChoices, hhidden, fun q => hfurther weak (some _) q hhidden⟩

end Gamebook.Proofs
