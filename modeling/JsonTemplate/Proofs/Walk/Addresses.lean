import JsonTemplate.Proofs.Json.Addresses
import JsonTemplate.Proofs.Records
import JsonTemplate.Proofs.Walk.Composition

set_option autoImplicit false

/-! Where the values lie that a walk comes to. All of them are taken from the document: the
value at the goal lies at the address that the steps and the records picked spell out, and a
value that only stands in lies somewhere in the document, or is the whole of it where a step
was to be read from null. -/

namespace JsonTemplate

open JsonTemplate.Json (Value Key Address)

/-- What a reason tells of the value that stands in. -/
def StandInReason.Describes (root : Value) : StandInReason → Value → Prop
  | .arrayWithoutFilter, stand => stand.isArray = true
  | .noMatch, stand => stand.isArray = true
  | .notAnArray, stand => stand.isArray = false
  | .readThroughNull, stand => stand = root
  | .noAccessor, _ => False

namespace Walk

/-- Where a step from a value leads: a plain step to the member that it names, a record step
to the wanted member of the record that is picked. -/
inductive StepLeads (value : Value) : Access → Address → Prop where
  | member (name : Text) : StepLeads value (.member name) [.member name]
  | record {name extract : Text} {conditions : List Condition} {items : List Value} {index : Nat}
      (array : value.member? name = some (.array items))
      (picked : Records.position? items extract conditions = some index) :
      StepLeads value (.record name extract conditions)
        [.member name, .item index, .member extract]

inductive Leads : Value → List Access → Address → Prop where
  | nil (value : Value) : Leads value [] []
  | cons {value next : Value} {access : Access} {rest : List Access} {first later : Address}
      (step : StepLeads value access first) (there : value.at? first = some next)
      (further : Leads next rest later) : Leads value (access :: rest) (first ++ later)

section Steps

variable {accessor : Text} {value next stand : Value} {access : Access} {reason : StandInReason}

private theorem exists_picked_of_reached {searched : Value} {extract : Text}
    {conditions : List Condition}
    (reached : afterChoice (Records.choose searched extract conditions accessor).value =
      .reached next) :
    ∃ items index, searched = .array items ∧
      Records.position? items extract conditions = some index ∧
      searched.at? [.item index, .member extract] = some next := by
  rcases Records.isArray_or_choose_value searched extract conditions accessor with
    ⟨items, rfl⟩ | kept
  · cases picked : Records.position? items extract conditions with
    | none =>
        rw [Records.choose_value_of_position?_eq_none picked] at reached
        cases reached
    | some index =>
        obtain ⟨record, there, choice⟩ := Records.choose_value_of_position? picked accessor
        rw [choice] at reached
        cases member : record.member? extract with
        | none =>
            rw [member] at reached
            cases reached
        | some wanted =>
            rw [member] at reached
            cases reached
            refine ⟨items, index, rfl, picked, ?_⟩
            have below : (Value.array items).child? (.item index) = some record := there
            rw [Value.at?_cons below, Value.at?_member]
            exact member
  · rw [kept] at reached
    cases reached

private theorem exists_stepLeads_of_reached {root : Value}
    (reached : (stepFrom root accessor value access).value = .reached next) :
    ∃ address, StepLeads value access address ∧ value.at? address = some next := by
  unfold stepFrom at reached
  split at reached
  · cases reached
  · cases access with
    | member name =>
        refine ⟨[.member name], .member name, ?_⟩
        rw [read_member] at reached
        split at reached
        · cases reached
        · split at reached
          · cases reached
          · rename_i below
            split at reached
            · cases reached
            · cases reached
              exact (Value.at?_member value name).trans below
    | record name extract conditions =>
        rw [read_record] at reached
        split at reached
        · cases reached
        · rename_i searched below
          obtain ⟨items, index, array, picked, there⟩ := exists_picked_of_reached reached
          rw [array] at below there
          have child : value.child? (.member name) = some (.array items) := below
          exact ⟨_, .record below picked, (Value.at?_cons child _).trans there⟩

private theorem eq_of_kept {searched kept : Value} {extract : Text} {conditions : List Condition}
    (choice : (Records.choose searched extract conditions accessor).value = .kept kept) :
    kept = searched := by
  rcases Records.isArray_or_choose_value searched extract conditions accessor with
    ⟨items, rfl⟩ | keeps
  · rw [Records.choose_value] at choice
    split at choice
    · cases choice
    · exact (Choice.kept.inj choice).symm
  · rw [keeps] at choice
    exact (Choice.kept.inj choice).symm

private theorem kept_of_afterChoice {choice : Choice}
    (ended : afterChoice choice = .ended (.standIn stand reason)) :
    choice = .kept stand ∧ reason = if stand.isArray then .noMatch else .notAnArray := by
  cases choice with
  | picked wanted =>
      cases wanted with
      | none => cases ended
      | some value => cases ended
  | kept searched =>
      cases ended
      exact ⟨rfl, rfl⟩

private theorem standIn_of_endAtArray {array : Value}
    (ended : (endAtArray array accessor access).value = .ended (.standIn stand reason)) :
    stand = array ∧ reason = .arrayWithoutFilter := by
  cases ended
  exact ⟨rfl, rfl⟩

/-- The value that stands in for a step was there to be read, and its reason describes it. -/
theorem standIn_of_read (root : Value)
    (ended : (read accessor value access).value = .ended (.standIn stand reason)) :
    (∃ address, value.at? address = some stand) ∧ reason ≠ .readThroughNull ∧
      reason.Describes root stand := by
  cases access with
  | member name =>
      rw [read_member] at ended
      split at ended
      · rename_i array
        obtain ⟨rfl, rfl⟩ := standIn_of_endAtArray ended
        exact ⟨⟨[], rfl⟩, nofun, array⟩
      · split at ended
        · cases ended
        · rename_i next below
          split at ended
          · rename_i array
            obtain ⟨rfl, rfl⟩ := standIn_of_endAtArray ended
            exact ⟨⟨[.member name], (Value.at?_member value name).trans below⟩, nofun, array⟩
          · cases ended
  | record name extract conditions =>
      rw [read_record] at ended
      split at ended
      · cases ended
      · rename_i searched below
        obtain ⟨kept, told⟩ := kept_of_afterChoice ended
        obtain rfl := eq_of_kept kept
        refine ⟨⟨[.member name], (Value.at?_member value name).trans below⟩, ?_⟩
        rw [told]
        cases array : stand.isArray with
        | true => exact ⟨nofun, array⟩
        | false => exact ⟨nofun, array⟩

private theorem eq_null_of_isNull {value : Value} (null : value.isNull = true) : value = .null := by
  cases value with
  | null => rfl
  | bool flag => cases null
  | number figure => cases null
  | string text => cases null
  | array items => cases null
  | object members => cases null

end Steps

section Runs

variable {root value goal stand : Value} {accessor : Text} {accesses : List Access}
  {reason : StandInReason}

theorem exists_leads_of_found
    (found : (along root accessor value accesses).value = .found goal) :
    ∃ address, Leads value accesses address ∧ value.at? address = some goal := by
  induction accesses generalizing value with
  | nil =>
      cases found
      exact ⟨[], .nil _, rfl⟩
  | cons access rest ih =>
      cases progress : (stepFrom root accessor value access).value with
      | reached next =>
          rw [along_cons_reached progress] at found
          obtain ⟨first, step, there⟩ := exists_stepLeads_of_reached progress
          obtain ⟨later, further, atGoal⟩ := ih found
          exact ⟨first ++ later, .cons step there further,
            Value.at?_append_eq_some_iff.mpr ⟨next, there, atGoal⟩⟩
      | ended outcome =>
          have unfound := isFound_of_ended progress
          rw [along_cons_ended progress] at found
          change outcome = .found goal at found
          rw [found] at unfound
          cases unfound

/-- What is known where a value stands in for the goal of a walk. -/
structure EndsBefore (root : Value) (accessor : Text) (value : Value) (accesses : List Access)
    (stand : Value) (reason : StandInReason) : Prop where
  describes : reason.Describes root stand
  /-- The value lies below the one at which the walk began, unless it is the root. -/
  inside : reason ≠ .readThroughNull → ∃ address, value.at? address = some stand
  /-- A step was to be read from null only if the steps before it lead to null. -/
  passesNull : reason = .readThroughNull → ∃ before access after,
    accesses = before ++ access :: after ∧ (along root accessor value before).value = .found .null

theorem endsBefore_of_standIn
    (ended : (along root accessor value accesses).value = .standIn stand reason) :
    EndsBefore root accessor value accesses stand reason := by
  induction accesses generalizing value with
  | nil => cases ended
  | cons access rest ih =>
      cases progress : (stepFrom root accessor value access).value with
      | reached next =>
          rw [along_cons_reached progress] at ended
          have later := ih ended
          obtain ⟨first, -, there⟩ := exists_stepLeads_of_reached progress
          refine ⟨later.describes, ?_, ?_⟩
          · intro other
            obtain ⟨address, atStand⟩ := later.inside other
            exact ⟨first ++ address, Value.at?_append_eq_some_iff.mpr ⟨next, there, atStand⟩⟩
          · intro throughNull
            obtain ⟨before, last, after, whole, null⟩ := later.passesNull throughNull
            refine ⟨access :: before, last, after, congrArg (access :: ·) whole, ?_⟩
            rw [along_cons_reached progress]
            exact null
      | ended outcome =>
          rw [along_cons_ended progress] at ended
          change outcome = .standIn stand reason at ended
          rw [ended] at progress
          unfold stepFrom at progress
          split at progress
          · rename_i null
            cases progress
            refine ⟨rfl, fun other => absurd rfl other, fun _ => ⟨[], access, rest, rfl, ?_⟩⟩
            rw [eq_null_of_isNull null]
            rfl
          · obtain ⟨inside, notNull, describes⟩ := standIn_of_read root progress
            exact ⟨describes, fun _ => inside, fun throughNull => absurd throughNull notNull⟩

end Runs
end Walk

namespace Path

/-- What a path without calls comes to is taken from the document: its goal lies where the
steps lead, and a value that stands in lies in the document and is what its reason tells. -/
theorem resolve_ofAccesses_within (accesses : List Access) (root : Value) (accessor : Text)
    (registry : Registry) :
    let resolved (accesses : List Access) :=
      ((ofAccesses accesses).resolve root accessor registry).value
    (∃ outcome, resolved accesses = .ok outcome) ∧
      (∀ goal, resolved accesses = .ok (.found goal) →
        ∃ address, Walk.Leads root accesses address ∧ root.at? address = some goal) ∧
      (∀ stand reason, resolved accesses = .ok (.standIn stand reason) →
        (∃ address, root.at? address = some stand) ∧ reason.Describes root stand) ∧
      (∀ stand, resolved accesses = .ok (.standIn stand .readThroughNull) →
        ∃ before access after, accesses = before ++ access :: after ∧
          resolved before = .ok (.found .null)) ∧
      ∀ before name items, accesses = before ++ [.member name] →
        resolved accesses ≠ .ok (.found (.array items)) := by
  intro resolved
  have walked : ∀ accesses, resolved accesses =
      .ok (Walk.along root accessor root accesses).value := by
    intro accesses
    change ((ofAccesses accesses).resolve root accessor registry).value = _
    rw [resolve_ofAccesses]
    rfl
  have outcome : ∀ {accesses : List Access} {outcome : Outcome},
      resolved accesses = .ok outcome →
        (Walk.along root accessor root accesses).value = outcome := by
    intro accesses outcome came
    rw [walked] at came
    exact Except.ok.inj came
  refine ⟨⟨_, walked accesses⟩, ?_, ?_, ?_, ?_⟩
  · intro goal found
    exact Walk.exists_leads_of_found (outcome found)
  · intro stand reason ended
    have ends := Walk.endsBefore_of_standIn (outcome ended)
    refine ⟨?_, ends.describes⟩
    by_cases throughNull : reason = .readThroughNull
    · have describes := ends.describes
      rw [throughNull] at describes
      rw [show stand = root from describes]
      exact ⟨[], rfl⟩
    · exact ends.inside throughNull
  · intro stand ended
    obtain ⟨before, access, after, whole, null⟩ :=
      (Walk.endsBefore_of_standIn (outcome ended)).passesNull rfl
    exact ⟨before, access, after, whole, by rw [walked, null]⟩
  · intro before name items whole found
    rcases Walk.nil_or_record_of_found_array (outcome found) with
      empty | ⟨first, name, extract, conditions, behindRecord⟩
    · rw [whole] at empty
      exact List.append_ne_nil_of_right_ne_nil before (List.cons_ne_nil _ _) empty
    · rw [whole] at behindRecord
      have last := (List.append_inj' behindRecord rfl).2
      cases last

/-- The second of two records is picked, and its wanted member is null; a plain step comes to
the array of the records, and a record step to something else. -/
theorem resolve_ofAccesses_within_sample :
    let records : Value := .array
      [.bool false, .object [(['k'], .string ['x']), (['v'], .null)]]
    let root : Value := .object [(['l'], records)]
    let resolved (accesses : List Access) :=
      ((ofAccesses accesses).resolve root [] Registry.empty).value
    let picks : List Access := [.record ['l'] ['v'] [.equals ['k'] ['x']]]
    (resolved picks = .ok (.found .null) ∧
        ∃ address, Walk.Leads root picks address ∧ root.at? address = some .null) ∧
      (resolved [.member ['l']] = .ok (.standIn records .arrayWithoutFilter) ∧
        (∃ address, root.at? address = some records) ∧
          StandInReason.arrayWithoutFilter.Describes root records) ∧
      (resolved (picks ++ [.member ['b']]) = .ok (.standIn root .readThroughNull) ∧
        ∃ before access after, picks ++ [.member ['b']] = before ++ access :: after ∧
          resolved before = .ok (.found .null)) ∧
      root.at? [.member ['l'], .item 1, .member ['v']] = some .null := by
  intro records root resolved picks
  have within := fun accesses => resolve_ofAccesses_within accesses root [] Registry.empty
  have found : resolved picks = .ok (.found .null) := rfl
  have array : resolved [.member ['l']] = .ok (.standIn records .arrayWithoutFilter) := rfl
  have null : resolved (picks ++ [.member ['b']]) = .ok (.standIn root .readThroughNull) := rfl
  exact ⟨⟨found, (within picks).2.1 .null found⟩,
    ⟨array, (within [.member ['l']]).2.2.1 records .arrayWithoutFilter array⟩,
    ⟨null, (within (picks ++ [.member ['b']])).2.2.2.1 root null⟩, rfl⟩

end Path
end JsonTemplate
