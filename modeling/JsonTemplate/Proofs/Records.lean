import JsonTemplate.Walk
import Mathlib.Data.List.Basic

set_option autoImplicit false

/-! What picking a record depends on. Under conditions it depends on the records that fit,
that is, satisfy all of them: the first of these is picked, and how many there are decides
what is reported. Only the array that is kept when none fits is that of the call. Without
conditions the first record is picked whose wanted member says something. -/

namespace JsonTemplate

open JsonTemplate.Json (Value)

namespace Condition

private theorem allHold_iff (conditions : List Condition) (record : Value) :
    allHold conditions record = true ↔
      ∀ condition ∈ conditions, condition.holds record = true :=
  List.all_eq_true

private theorem allHold_of_subset {conditions more : List Condition}
    (subset : ∀ condition ∈ conditions, condition ∈ more) {record : Value}
    (holds : allHold more record = true) : allHold conditions record = true := by
  rw [allHold_iff] at holds ⊢
  intro condition member
  exact holds condition (subset condition member)

/-- Neither the order nor the number of times matters in which conditions are stated. -/
theorem allHold_congr {conditions others : List Condition}
    (same : ∀ condition, condition ∈ others ↔ condition ∈ conditions) :
    allHold others = allHold conditions := by
  funext record
  rw [Bool.eq_iff_iff]
  constructor
  · exact allHold_of_subset (fun condition member => (same condition).mpr member)
  · exact allHold_of_subset (fun condition member => (same condition).mp member)

end Condition

namespace Records

def fitting (conditions : List Condition) (items : List Value) : List Value :=
  items.filter (Condition.allHold conditions)

def isWanted (extract : Text) : List Condition → Value → Bool
  | [] => fun record => (record.member? extract).any Value.isTruthy
  | first :: rest => Condition.allHold (first :: rest)

def position? (items : List Value) (extract : Text) (conditions : List Condition) : Option Nat :=
  items.findIdx? (isWanted extract conditions)

section Positions

variable {items : List Value} {extract : Text} {conditions more : List Condition} {index : Nat}

private theorem isWanted_of_ne_nil (given : conditions ≠ []) :
    isWanted extract conditions = Condition.allHold conditions := by
  cases conditions with
  | nil => exact absurd rfl given
  | cons first rest => rfl

private theorem exists_getElem?_of_position?
    (picked : position? items extract conditions = some index) :
    ∃ record, items[index]? = some record ∧ isWanted extract conditions record = true := by
  obtain ⟨inside, wanted, -⟩ := List.findIdx?_eq_some_iff_getElem.mp picked
  exact ⟨items[index], List.getElem?_eq_getElem inside, wanted⟩

private theorem find?_isWanted_of_position?
    (picked : position? items extract conditions = some index) :
    items.find? (isWanted extract conditions) = items[index]? := by
  rw [List.find?_eq_bind_findIdx?_getElem?]
  rw [position?] at picked
  rw [picked]
  rfl

/-- More conditions never move the choice to an earlier record. -/
theorem exists_position?_le (given : conditions ≠ [])
    (subset : ∀ condition ∈ conditions, condition ∈ more)
    (picked : position? items extract more = some index) :
    ∃ earlier, earlier ≤ index ∧ position? items extract conditions = some earlier := by
  have moreGiven : more ≠ [] := by
    obtain ⟨condition, member⟩ := List.exists_mem_of_ne_nil conditions given
    exact List.ne_nil_of_mem (subset condition member)
  have weaker : ∀ record ∈ items, isWanted extract more record = true →
      isWanted extract conditions record = true := by
    intro record _ wanted
    rw [isWanted_of_ne_nil moreGiven] at wanted
    rw [isWanted_of_ne_nil given]
    exact Condition.allHold_of_subset subset wanted
  obtain ⟨inside, first⟩ := List.findIdx?_eq_some_iff_findIdx_eq.mp picked
  have notLater := List.findIdx_le_findIdx weaker
  rw [first] at notLater
  refine ⟨_, notLater, ?_⟩
  rw [position?, List.findIdx?_eq_some_iff_findIdx_eq]
  exact ⟨Nat.lt_of_le_of_lt notLater inside, rfl⟩

end Positions

/-- What is picked, kept and reported, by the records that fit. -/
inductive ByFitting (items : List Value) (extract : Text) :
    List Value → Reported Choice → Prop where
  | none {notice : Notice} (kind : notice.kind = .noMatch) :
      ByFitting items extract [] ⟨.kept (.array items), [notice]⟩
  | one {only : Value} : ByFitting items extract [only] ⟨.picked (only.member? extract), []⟩
  | several {first second : Value} {rest : List Value} {notice : Notice}
      (kind : notice.kind = .severalMatches) :
      ByFitting items extract (first :: second :: rest)
        ⟨.picked (first.member? extract), [notice]⟩

namespace ByFitting

variable {items fits : List Value} {extract : Text} {choice : Reported Choice}

private theorem eq_nil_of_kept {searched : Value} (outcome : ByFitting items extract fits choice)
    (kept : choice.value = .kept searched) : fits = [] := by
  cases outcome with
  | none kind => rfl
  | one => cases kept
  | several kind => cases kept

private theorem kept_of_nil (outcome : ByFitting items extract [] choice) :
    choice.value = .kept (.array items) := by
  cases outcome with
  | none kind => rfl

end ByFitting

/-- Whether two calls report the same and pick the same, if one of them picks something. If
they keep something, it may differ. -/
structure SamePick (left right : Reported Choice) : Prop where
  notices : left.notices = right.notices
  picked : ∀ wanted, left.value = .picked wanted ↔ right.value = .picked wanted

section ByConditions

variable {items others : List Value} {extract accessor : Text} {conditions : List Condition}

private theorem choose_of_ne_nil (given : conditions ≠ []) :
    choose (.array items) extract conditions accessor =
      select items extract conditions accessor := by
  cases conditions with
  | nil => exact absurd rfl given
  | cons first rest => rfl

theorem byFitting_select (items : List Value) (extract : Text) (conditions : List Condition)
    (accessor : Text) :
    ByFitting items extract (fitting conditions items)
      (select items extract conditions accessor) := by
  rw [fitting, select]
  cases fits : items.filter (Condition.allHold conditions) with
  | nil => exact .none rfl
  | cons first rest =>
      cases rest with
      | nil => exact .one
      | cons second rest => exact .several rfl

private theorem samePick_select (same : fitting conditions others = fitting conditions items) :
    SamePick (select others extract conditions accessor)
      (select items extract conditions accessor) := by
  rw [fitting, fitting] at same
  rw [select, select, same]
  cases items.filter (Condition.allHold conditions) with
  | nil => exact ⟨rfl, fun wanted => ⟨nofun, nofun⟩⟩
  | cons first rest =>
      cases rest with
      | nil => exact ⟨rfl, fun wanted => Iff.rfl⟩
      | cons second rest => exact ⟨rfl, fun wanted => Iff.rfl⟩

theorem fitting_insert {before unfit after : List Value}
    (fails : ∀ record ∈ unfit, Condition.allHold conditions record = false) :
    fitting conditions (before ++ unfit ++ after) = fitting conditions (before ++ after) := by
  have dropped : unfit.filter (Condition.allHold conditions) = [] := by
    rw [List.filter_eq_nil_iff]
    intro record member
    rw [fails record member]
    exact Bool.false_ne_true
  rw [fitting, fitting, List.filter_append, List.filter_append, List.filter_append, dropped,
    List.append_nil]

end ByConditions

theorem choose_value (items : List Value) (extract : Text) (conditions : List Condition)
    (accessor : Text) :
    (choose (.array items) extract conditions accessor).value =
      match items.find? (isWanted extract conditions) with
      | some record => .picked (record.member? extract)
      | none => .kept (.array items) := by
  cases conditions with
  | nil =>
      change (guess items extract accessor).value = _
      unfold guess isWanted
      cases items.find? (fun record => (record.member? extract).any Value.isTruthy) with
      | none => rfl
      | some record => rfl
  | cons first rest =>
      change (select items extract (first :: rest) accessor).value = _
      have head : (items.filter (Condition.allHold (first :: rest))).head? =
          items.find? (isWanted extract (first :: rest)) := List.head?_filter
      rw [← head, select]
      cases items.filter (Condition.allHold (first :: rest)) with
      | nil => rfl
      | cons found others =>
          cases others with
          | nil => rfl
          | cons second others => rfl

theorem choose_value_of_position? {items : List Value} {extract : Text}
    {conditions : List Condition} {index : Nat}
    (picked : position? items extract conditions = some index) (accessor : Text) :
    ∃ record, items[index]? = some record ∧
      (choose (.array items) extract conditions accessor).value =
        .picked (record.member? extract) := by
  obtain ⟨record, there, -⟩ := exists_getElem?_of_position? picked
  refine ⟨record, there, ?_⟩
  rw [choose_value, find?_isWanted_of_position? picked, there]

theorem choose_value_of_position?_eq_none {items : List Value} {extract : Text}
    {conditions : List Condition} (unpicked : position? items extract conditions = none)
    (accessor : Text) :
    (choose (.array items) extract conditions accessor).value = .kept (.array items) := by
  have none : items.find? (isWanted extract conditions) = none := by
    rw [List.find?_eq_bind_findIdx?_getElem?]
    rw [position?] at unpicked
    rw [unpicked]
    rfl
  rw [choose_value, none]

theorem isArray_or_choose_value (searched : Value) (extract : Text) (conditions : List Condition)
    (accessor : Text) :
    (∃ items, searched = .array items) ∨
      (choose searched extract conditions accessor).value = .kept searched := by
  cases searched with
  | array items => exact Or.inl ⟨items, rfl⟩
  | null => exact Or.inr rfl
  | bool flag => exact Or.inr rfl
  | number figure => exact Or.inr rfl
  | string text => exact Or.inr rfl
  | object members => exact Or.inr rfl

/-- What is picked, kept and reported without conditions: the first record is picked whose
wanted member says something. -/
inductive ByGuess (extract : Text) : List Value → Reported Choice → Prop where
  | found {before after : List Value} {record wanted : Value} {notice : Notice}
      (earlier : ∀ other ∈ before, ∀ value,
        other.member? extract = some value → value.isTruthy = false)
      (has : record.member? extract = some wanted) (truthy : wanted.isTruthy = true)
      (kind : notice.kind = .bestGuess) :
      ByGuess extract (before ++ record :: after) ⟨.picked (some wanted), [notice]⟩
  | none {items : List Value} {notice : Notice}
      (without : ∀ record ∈ items, ∀ value,
        record.member? extract = some value → value.isTruthy = false)
      (kind : notice.kind = .noMatch) :
      ByGuess extract items ⟨.kept (.array items), [notice]⟩

theorem byGuess_guess (items : List Value) (extract accessor : Text) :
    ByGuess extract items (guess items extract accessor) := by
  have silent : ∀ record : Value, ¬ (record.member? extract).any Value.isTruthy = true →
      ∀ value, record.member? extract = some value → value.isTruthy = false := by
    intro record fails value has
    rw [has] at fails
    exact (Bool.not_eq_true _).mp fails
  unfold guess
  split
  · rename_i record picked
    obtain ⟨passes, before, after, whole, earlier⟩ := List.find?_eq_some_iff_append.mp picked
    obtain ⟨wanted, has, truthy⟩ := (Option.any_eq_true _ _).mp passes
    rw [whole, has]
    refine .found ?_ has truthy rfl
    intro other member
    exact silent other ((Bool.not_eq_true' _).mp (earlier other member) ▸ Bool.false_ne_true)
  · rename_i unpicked
    rw [List.find?_eq_none] at unpicked
    exact .none (fun record member => silent record (unpicked record member)) rfl

/-- How picking one record of an array depends on the conditions and the records. -/
structure ByConditions (items : List Value) (extract accessor : Text)
    (conditions : List Condition) : Prop where
  /-- Neither the order of the conditions nor their repetition matters. -/
  asSet : ∀ others, (∀ condition, condition ∈ others ↔ condition ∈ conditions) →
    choose (.array items) extract others accessor =
      choose (.array items) extract conditions accessor
  /-- The records that fit decide what is picked and reported. -/
  onFitting : ∀ others, fitting conditions others = fitting conditions items →
    SamePick (choose (.array others) extract conditions accessor)
      (choose (.array items) extract conditions accessor)
  /-- So records that do not fit may be put in or left out anywhere. -/
  unfit : ∀ before between after, items = before ++ after →
    (∀ record ∈ between, Condition.allHold conditions record = false) →
      SamePick (choose (.array (before ++ between ++ after)) extract conditions accessor)
        (choose (.array items) extract conditions accessor)
  kept_iff : (∃ searched, (choose (.array items) extract conditions accessor).value =
    .kept searched) ↔ fitting conditions items = []
  outcome : ByFitting items extract (fitting conditions items)
    (choose (.array items) extract conditions accessor)
  /-- The record picked is the one at the position picked. -/
  position : ∀ index, position? items extract conditions = some index →
    ∃ record, items[index]? = some record ∧
      (choose (.array items) extract conditions accessor).value =
        .picked (record.member? extract)
  /-- Where nothing is picked, nothing is picked under more conditions. -/
  kept_of_more : ∀ more, (∀ condition ∈ conditions, condition ∈ more) →
    (choose (.array items) extract conditions accessor).value = .kept (.array items) →
      (choose (.array items) extract more accessor).value = .kept (.array items)
  /-- Under more conditions no earlier record is picked. -/
  notEarlier : ∀ more, (∀ condition ∈ conditions, condition ∈ more) →
    ∀ index, position? items extract more = some index →
      ∃ earlier, earlier ≤ index ∧ position? items extract conditions = some earlier

/-- Picking by conditions depends on the records that satisfy all of them, whatever else the
array holds and however the conditions are arranged; picking without conditions is a guess,
and reported as one. -/
theorem choose_dependsOnFitting (items : List Value) (extract accessor : Text)
    (conditions : List Condition) (given : conditions ≠ []) :
    ByConditions items extract accessor conditions ∧
      ByGuess extract items (choose (.array items) extract [] accessor) := by
  refine ⟨?_, byGuess_guess items extract accessor⟩
  constructor
  case asSet =>
    intro others same
    have othersGiven : others ≠ [] := by
      obtain ⟨condition, member⟩ := List.exists_mem_of_ne_nil conditions given
      exact List.ne_nil_of_mem ((same condition).mpr member)
    rw [choose_of_ne_nil othersGiven, choose_of_ne_nil given, select, select,
      Condition.allHold_congr same]
  case onFitting =>
    intro others same
    rw [choose_of_ne_nil given, choose_of_ne_nil given]
    exact samePick_select same
  case unfit =>
    intro before between after whole fails
    rw [choose_of_ne_nil given, choose_of_ne_nil given]
    apply samePick_select
    rw [whole]
    exact fitting_insert fails
  case kept_iff =>
    rw [choose_of_ne_nil given]
    have outcome := byFitting_select items extract conditions accessor
    constructor
    · rintro ⟨searched, kept⟩
      exact outcome.eq_nil_of_kept kept
    · intro none
      rw [none] at outcome
      exact ⟨_, outcome.kept_of_nil⟩
  case outcome =>
    rw [choose_of_ne_nil given]
    exact byFitting_select items extract conditions accessor
  case position =>
    intro index picked
    exact choose_value_of_position? picked accessor
  case kept_of_more =>
    intro more subset kept
    cases picked : position? items extract more with
    | none => exact choose_value_of_position?_eq_none picked accessor
    | some index =>
        obtain ⟨earlier, -, alreadyPicked⟩ := exists_position?_le given subset picked
        obtain ⟨record, -, value⟩ := choose_value_of_position? alreadyPicked accessor
        rw [value] at kept
        cases kept
  case notEarlier =>
    intro more subset index picked
    exact exists_position?_le given subset picked

/-- Two of four records fit, one of them without the member that is wanted, and one that does
not fit is not an object at all. -/
theorem choose_dependsOnFitting_sample :
    let record (members : List (Text × Value)) : Value :=
      .object ((['k'], .string ['x']) :: members)
    let items : List Value :=
      [.bool true, record [(['z'], .null)], record [], record [(['v'], .bool true)]]
    let conditions : List Condition := [.equals ['k'] ['x'], .lacks ['z']]
    conditions ≠ [] ∧
      (ByConditions items ['v'] [] conditions ∧
        ByGuess ['v'] items (choose (.array items) ['v'] [] [])) ∧
      fitting conditions items = [record [], record [(['v'], .bool true)]] ∧
      position? items ['v'] conditions = some 2 ∧ position? items ['v'] [] = some 3 := by
  intro record items conditions
  have given : conditions ≠ [] := List.cons_ne_nil _ _
  exact ⟨given, choose_dependsOnFitting items ['v'] [] conditions given, rfl, rfl, rfl⟩

end Records
end JsonTemplate
