import JsonTemplate.Proofs.Walk.Notices

set_option autoImplicit false

/-! A walk in two parts. The first part of a walk leads to a value from which the second
part goes on as if the walk had begun there, or it ends the walk, and then the second part
is not looked at. Only the root is remembered: it stands in where a step is to be read from
null, however far the walk has come. If the first part leads to an array, at its root or by a
record step, the next step decides what becomes of it: a plain step lets it stand in and tells so,
but a record step looks for its name in the array, finds nothing and ends without a value or an
error. -/

namespace JsonTemplate

open JsonTemplate.Json (Value)

/-- The outcome with another root to stand in where a step was to be read from null. -/
def Outcome.withRoot (root : Value) : Outcome → Outcome
  | .found value => .found value
  | .absent => .absent
  | .standIn value reason =>
      .standIn (if reason = .readThroughNull then root else value) reason

namespace Walk

def Progress.withRoot (root : Value) : Progress → Progress
  | .reached value => .reached value
  | .ended outcome => .ended (outcome.withRoot root)

private theorem map_withRoot_of_reading (root : Value) {progress : Reported Progress}
    (reading : Reading progress) : progress.map (Progress.withRoot root) = progress := by
  cases reading with
  | reached chosen => rfl
  | absent chosen => rfl
  | standIn tells notNull =>
      rw [Reported.map, Progress.withRoot, Outcome.withRoot, if_neg notNull]

/-- The root is seen only where a step is to be read from null. -/
theorem stepFrom_withRoot (root other : Value) (accessor : Text) (value : Value)
    (access : Access) :
    stepFrom root accessor value access =
      (stepFrom other accessor value access).map (Progress.withRoot root) := by
  unfold stepFrom
  split
  · rfl
  · exact (map_withRoot_of_reading root (reading_read accessor value access)).symm

private theorem isFound_of_reading {progress : Reported Progress} (reading : Reading progress)
    {outcome : Outcome} (ended : progress.value = .ended outcome) : outcome.isFound = false := by
  cases reading with
  | reached chosen => cases ended
  | absent chosen =>
      cases ended
      rfl
  | standIn tells notNull =>
      cases ended
      rfl

theorem isFound_of_ended {root : Value} {accessor : Text} {value : Value} {access : Access}
    {outcome : Outcome}
    (ended : (stepFrom root accessor value access).value = .ended outcome) :
    outcome.isFound = false := by
  unfold stepFrom at ended
  split at ended
  · cases ended
    rfl
  · exact isFound_of_reading (reading_read accessor value access) ended

theorem along_append_of_found {root : Value} {accessor : Text} {value found : Value}
    {first : List Access} (reached : (along root accessor value first).value = .found found)
    (second : List Access) :
    along root accessor value (first ++ second) =
      ⟨(along root accessor found second).value,
        (along root accessor value first).notices ++
          (along root accessor found second).notices⟩ := by
  induction first generalizing value with
  | nil =>
      cases reached
      rfl
  | cons access rest ih =>
      cases progress : (stepFrom root accessor value access).value with
      | reached next =>
          rw [along_cons_reached progress] at reached
          rw [List.cons_append, along_cons_reached progress, along_cons_reached progress,
            ih reached, List.append_assoc]
      | ended outcome =>
          -- A step never ends a walk at its goal.
          have unfound := isFound_of_ended progress
          rw [along_cons_ended progress] at reached
          cases reached
          cases unfound

theorem along_append_of_not_found {root : Value} {accessor : Text} {value : Value}
    {first : List Access} (unfound : (along root accessor value first).value.isFound = false)
    (second : List Access) :
    along root accessor value (first ++ second) = along root accessor value first := by
  induction first generalizing value with
  | nil => cases unfound
  | cons access rest ih =>
      cases progress : (stepFrom root accessor value access).value with
      | reached next =>
          rw [along_cons_reached progress] at unfound
          rw [List.cons_append, along_cons_reached progress, along_cons_reached progress,
            ih unfound]
      | ended outcome =>
          rw [List.cons_append, along_cons_ended progress, along_cons_ended progress]

theorem along_withRoot (root other : Value) (accessor : Text) (value : Value)
    (accesses : List Access) :
    along root accessor value accesses =
      (along other accessor value accesses).map (Outcome.withRoot root) := by
  induction accesses generalizing value with
  | nil => rfl
  | cons access rest ih =>
      have step := stepFrom_withRoot root other accessor value access
      have sameNotices := congrArg Reported.notices step
      have sameValue := congrArg Reported.value step
      cases progress : (stepFrom other accessor value access).value with
      | reached next =>
          rw [Reported.map, progress] at sameValue
          rw [along_cons_reached progress, along_cons_reached sameValue, ih next, sameNotices]
          rfl
      | ended outcome =>
          rw [Reported.map, progress] at sameValue
          rw [along_cons_ended progress, along_cons_ended sameValue, sameNotices]
          rfl

end Walk

namespace Path

def ofAccesses (accesses : List Access) : Path := ⟨accesses.map .access⟩

theorem resolve_ofAccesses (accesses : List Access) (root : Value) (accessor : Text)
    (registry : Registry) :
    (ofAccesses accesses).resolve root accessor registry =
      (Walk.along root accessor root accesses).map Except.ok := by
  have noCall : ¬ (ofAccesses accesses).HasCall := by
    rintro ⟨name, params, member⟩
    obtain ⟨access, -, impossible⟩ := List.mem_map.mp member
    cases impossible
  have same : (ofAccesses accesses).accesses = accesses := by
    rw [ofAccesses, Path.accesses, List.filterMap_map]
    exact List.filterMap_some
  rw [resolve_of_not_hasCall noCall, same]

/-- Paths without calls compose. If the first part of a path resolves to a value, the rest
is resolved from that value, except that the root of the whole stands in where a step was to
be read from null; if it does not, the rest is not read. -/
theorem resolve_ofAccesses_append (root : Value) (accessor : Text) (registry : Registry)
    (first second : List Access) :
    let resolved (root : Value) (accesses : List Access) :=
      (ofAccesses accesses).resolve root accessor registry
    (∃ outcome, (resolved root first).value = .ok outcome) ∧
      (∀ value, (resolved root first).value = .ok (.found value) →
        resolved root (first ++ second) =
          ⟨(resolved value second).value.map (Outcome.withRoot root),
            (resolved root first).notices ++ (resolved value second).notices⟩) ∧
      ∀ outcome, (resolved root first).value = .ok outcome → outcome.isFound = false →
        resolved root (first ++ second) = resolved root first := by
  intro resolved
  have walked : ∀ root accesses, resolved root accesses =
      (Walk.along root accessor root accesses).map Except.ok :=
    fun root accesses => resolve_ofAccesses accesses root accessor registry
  refine ⟨?_, ?_, ?_⟩
  · rw [walked]
    exact ⟨_, rfl⟩
  · intro value found
    rw [walked] at found
    have reached : (Walk.along root accessor root first).value = .found value :=
      Except.ok.inj found
    rw [walked, walked, walked, Walk.along_append_of_found reached,
      Walk.along_withRoot root value accessor value second]
    rfl
  · intro outcome ended unfound
    rw [walked] at ended
    cases ended
    rw [walked, walked, Walk.along_append_of_not_found unfound]

/-- The first part warns that it chose between two records and finds null, from which the
second part cannot be read. -/
theorem resolve_ofAccesses_append_sample :
    let record (value : Value) : Value := .object [(['k'], .string ['x']), (['v'], value)]
    let root : Value :=
      .object [(['a'], .object [(['l'], .array [record .null, record (.bool true)])])]
    let resolved (root : Value) (accesses : List Access) :=
      (ofAccesses accesses).resolve root [] Registry.empty
    let first : List Access := [.member ['a'], .record ['l'] ['v'] [.equals ['k'] ['x']]]
    let second : List Access := [.member ['b']]
    let astray : List Access := [.member ['z']]
    ((resolved root first).value = .ok (.found .null) ∧
        resolved root (first ++ second) =
          ⟨(resolved .null second).value.map (Outcome.withRoot root),
            (resolved root first).notices ++ (resolved .null second).notices⟩) ∧
      ((resolved root astray).value = .ok .absent ∧
        resolved root (astray ++ second) = resolved root astray) ∧
      (resolved root (first ++ second)).value = .ok (.standIn root .readThroughNull) ∧
      (resolved root (first ++ second)).notices.map Notice.kind =
        [.severalMatches, .readThroughNull] := by
  intro record root resolved first second astray
  have parts := resolve_ofAccesses_append root [] Registry.empty first second
  have partsAstray := resolve_ofAccesses_append root [] Registry.empty astray second
  have found : (resolved root first).value = .ok (.found .null) := rfl
  have absent : (resolved root astray).value = .ok .absent := rfl
  exact ⟨⟨found, parts.2.1 .null found⟩, ⟨absent, partsAstray.2.2 .absent absent rfl⟩, rfl, rfl⟩

end Path

namespace Walk

private theorem not_isArray_of_reached_member {root : Value} {accessor : Text} {value next : Value}
    {name : Text}
    (reached : (stepFrom root accessor value (.member name)).value = .reached next) :
    next.isArray = false := by
  unfold stepFrom at reached
  split at reached
  · cases reached
  · rw [read_member] at reached
    split at reached
    · cases reached
    · split at reached
      · cases reached
      · split at reached
        · cases reached
        · rename_i notArray
          cases reached
          exact (Bool.not_eq_true _).mp notArray

variable (root : Value) (accessor : Text) (items : List Value)

theorem along_array_member (name : Text) (rest : List Access) :
    ∃ notice, notice.Tells .arrayWithoutFilter ∧ notice.accessor = accessor ∧
      along root accessor (.array items) (.member name :: rest) =
        .noted (.standIn (.array items) .arrayWithoutFilter) notice := by
  obtain ⟨notice, tells, label, step⟩ : ∃ notice,
      notice.Tells .arrayWithoutFilter ∧ notice.accessor = accessor ∧
        stepFrom root accessor (.array items) (.member name) =
          .noted (.ended (.standIn (.array items) .arrayWithoutFilter)) notice :=
    ⟨_, ⟨rfl, rfl⟩, rfl, rfl⟩
  have ended : (stepFrom root accessor (.array items) (.member name)).value =
      .ended (.standIn (.array items) .arrayWithoutFilter) := congrArg Reported.value step
  refine ⟨notice, tells, label, ?_⟩
  rw [along_cons_ended ended, step]
  rfl

theorem along_array_record (name extract : Text) (conditions : List Condition)
    (rest : List Access) :
    along root accessor (.array items) (.record name extract conditions :: rest) =
      .silent .absent := by
  have step : stepFrom root accessor (.array items) (.record name extract conditions) =
      .silent (.ended .absent) := rfl
  have ended : (stepFrom root accessor (.array items) (.record name extract conditions)).value =
      .ended .absent := congrArg Reported.value step
  rw [along_cons_ended ended, step]
  rfl

variable {root accessor items} {value found : Value}

private theorem exists_found_of_found_append {first second : List Access}
    (goal : (along root accessor value (first ++ second)).value = .found found) :
    ∃ between, (along root accessor value first).value = .found between ∧
      (along root accessor between second).value = .found found := by
  cases isFound : (along root accessor value first).value.isFound with
  | false =>
      rw [along_append_of_not_found isFound] at goal
      rw [goal] at isFound
      cases isFound
  | true =>
      cases outcome : (along root accessor value first).value with
      | found between =>
          rw [along_append_of_found outcome] at goal
          exact ⟨between, rfl, goal⟩
      | absent =>
          rw [outcome] at isFound
          cases isFound
      | standIn stand reason =>
          rw [outcome] at isFound
          cases isFound

private theorem reached_of_found_singleton {access : Access}
    (goal : (along root accessor value [access]).value = .found found) :
    (stepFrom root accessor value access).value = .reached found := by
  cases progress : (stepFrom root accessor value access).value with
  | reached next =>
      rw [along_cons_reached progress] at goal
      have same : next = found := Outcome.found.inj goal
      rw [same]
  | ended outcome =>
      have unfound := isFound_of_ended progress
      rw [along_cons_ended progress] at goal
      change outcome = .found found at goal
      rw [goal] at unfound
      cases unfound

theorem nil_or_record_of_found_array {accesses : List Access}
    (stands : (along root accessor value accesses).value = .found (.array items)) :
    accesses = [] ∨ ∃ before name extract conditions,
      accesses = before ++ [.record name extract conditions] := by
  rcases List.eq_nil_or_concat accesses with empty | ⟨before, last, whole⟩
  · exact Or.inl empty
  · rw [List.concat_eq_append] at whole
    cases last with
    | record name extract conditions => exact Or.inr ⟨before, name, extract, conditions, whole⟩
    | member name =>
        rw [whole] at stands
        obtain ⟨between, -, lastStep⟩ := exists_found_of_found_append stands
        have notArray := not_isArray_of_reached_member (reached_of_found_singleton lastStep)
        cases notArray

end Walk

namespace Path

/-- A walk that stands on an array stands at its root or behind a record step. If the next
step is plain, the array stands in, and one more notice, an error, tells so. If it is a
record step, nothing stands in, and no error is reported. -/
theorem resolve_from_array (before : List Access) (access : Access) (after : List Access)
    (root : Value) (accessor : Text) (registry : Registry) (items : List Value)
    (stands : ((ofAccesses before).resolve root accessor registry).value =
      .ok (.found (.array items))) :
    let resolved (accesses : List Access) := (ofAccesses accesses).resolve root accessor registry
    (before = [] ∨ ∃ first name extract conditions,
        before = first ++ [.record name extract conditions]) ∧
      (∀ name, access = .member name →
        ∃ notice, notice.Tells .arrayWithoutFilter ∧ notice.accessor = accessor ∧
          resolved (before ++ access :: after) =
            ⟨.ok (.standIn (.array items) .arrayWithoutFilter),
              (resolved before).notices ++ [notice]⟩) ∧
      ∀ name extract conditions, access = .record name extract conditions →
        resolved (before ++ access :: after) = ⟨.ok .absent, (resolved before).notices⟩ ∧
        (resolved before).notices.any Notice.isError = false := by
  intro resolved
  have walked : ∀ accesses, resolved accesses =
      (Walk.along root accessor root accesses).map Except.ok :=
    fun accesses => resolve_ofAccesses accesses root accessor registry
  have standsThere : (Walk.along root accessor root before).value = .found (.array items) := by
    change (resolved before).value = _ at stands
    rw [walked] at stands
    exact Except.ok.inj stands
  have onwards := Walk.along_append_of_found standsThere (access :: after)
  refine ⟨Walk.nil_or_record_of_found_array standsThere, ?_, ?_⟩
  · intro name plain
    obtain ⟨notice, tells, label, ended⟩ :=
      Walk.along_array_member root accessor items name after
    refine ⟨notice, tells, label, ?_⟩
    rw [walked, walked, onwards, plain, ended]
    rfl
  · intro name extract conditions picks
    constructor
    · rw [walked, walked, onwards, picks, Walk.along_array_record]
      dsimp only [Reported.map, Reported.silent]
      rw [List.append_nil]
    · have matching := Walk.matches_along root accessor root before
      rw [standsThere] at matching
      rw [walked]
      rw [← Bool.not_eq_true]
      intro someError
      exact matching.any_isError_iff.mp someError rfl

/-- The walk stands on the array in a record that it chose out of two. -/
theorem resolve_from_array_sample :
    let record : Value := .object [(['k'], .string ['x']), (['v'], .array [.bool true])]
    let root : Value := .object [(['l'], .array [record, record])]
    let resolved (accesses : List Access) := (ofAccesses accesses).resolve root [] Registry.empty
    let before : List Access := [.record ['l'] ['v'] [.equals ['k'] ['x']]]
    (resolved before).value = .ok (.found (.array [.bool true])) ∧
      (∃ notice, notice.Tells .arrayWithoutFilter ∧ notice.accessor = [] ∧
        resolved (before ++ [.member ['a'], .member ['b']]) =
          ⟨.ok (.standIn (.array [.bool true]) .arrayWithoutFilter),
            (resolved before).notices ++ [notice]⟩) ∧
      resolved (before ++ [.record ['a'] ['b'] [.lacks ['c']]]) =
        ⟨.ok .absent, (resolved before).notices⟩ ∧
      (resolved before).notices.map Notice.kind = [.severalMatches] := by
  intro record root resolved before
  have stands : (resolved before).value = .ok (.found (.array [.bool true])) := rfl
  have plain := resolve_from_array before (.member ['a']) [.member ['b']] root [] Registry.empty
    [.bool true] stands
  have picks := resolve_from_array before (.record ['a'] ['b'] [.lacks ['c']]) [] root []
    Registry.empty [.bool true] stands
  exact ⟨stands, plain.2.1 ['a'] rfl, (picks.2.2 ['a'] ['b'] [.lacks ['c']] rfl).1, rfl⟩

/-- It is not so that an array from which any further step is to be read stands in and is
reported: a record step from a root that is an array ends in silence. -/
theorem array_not_always_standIn :
    ¬ ∀ (before : List Access) (access : Access) (after : List Access) (root : Value)
        (accessor : Text) (registry : Registry) (items : List Value),
      ((ofAccesses before).resolve root accessor registry).value =
          .ok (.found (.array items)) →
        let resolved := (ofAccesses (before ++ access :: after)).resolve root accessor registry
        (∃ reason, resolved.value = .ok (.standIn (.array items) reason)) ∧
          resolved.notices.any Notice.isError = true := by
  intro always
  have reported := (always [] (.record ['a'] ['b'] [.equals ['k'] ['x']]) []
    (.array [.object [(['a'], .bool true)]]) [] Registry.empty _ rfl).2
  cases reported

end Path
end JsonTemplate
