import JsonTemplate.Walk

set_option autoImplicit false

/-! What the notices of a walk say about its outcome. As long as a walk goes on, and where
it ends without a value or at its goal, it has reported only which record it chose. Where a
value only stands in, one more notice has been reported, an error and the last of all, and
its kind tells the reason. -/

namespace JsonTemplate

open JsonTemplate.Json (Value)

/-- Whether a notice warns that a record was chosen where another one might have been. -/
structure Notice.IsChoice (notice : Notice) : Prop where
  warning : notice.severity = .warning
  kind : notice.kind = .bestGuess ∨ notice.kind = .severalMatches

/-- The kind of the notice by which a walk tells a reason. The last reason is not one of a
walk. -/
def StandInReason.noticeKind? : StandInReason → Option NoticeKind
  | .arrayWithoutFilter => some .arrayWithoutFilter
  | .noMatch => some .noMatch
  | .notAnArray => some .notAnArray
  | .readThroughNull => some .readThroughNull
  | .noAccessor => none

structure Notice.Tells (notice : Notice) (reason : StandInReason) : Prop where
  error : notice.severity = .error
  kind : reason.noticeKind? = some notice.kind

theorem Notice.IsChoice.graded {notice : Notice} (chosen : notice.IsChoice) : notice.Graded := by
  rw [Graded, chosen.warning]
  rcases chosen.kind with guess | several
  · rw [guess]
    rfl
  · rw [several]
    rfl

theorem Notice.Tells.graded {notice : Notice} {reason : StandInReason}
    (tells : notice.Tells reason) : notice.Graded := by
  have kind := tells.kind
  rw [Graded, tells.error]
  cases reason with
  | noAccessor => cases kind
  | _ => rw [← Option.some.inj kind]; rfl

def Outcome.reason? : Outcome → Option StandInReason
  | .found _ => none
  | .absent => none
  | .standIn _ reason => some reason

namespace Walk

/-- Notices that match a reason: choices, and behind them the one error that tells it. -/
inductive Matches : Option StandInReason → List Notice → Prop where
  | resolved {choices : List Notice} (chosen : ∀ notice ∈ choices, notice.IsChoice) :
      Matches none choices
  | standIn {choices : List Notice} {last : Notice} {reason : StandInReason}
      (chosen : ∀ notice ∈ choices, notice.IsChoice) (tells : last.Tells reason) :
      Matches (some reason) (choices ++ [last])

namespace Matches

variable {reason : Option StandInReason} {notices : List Notice}

theorem error {notice : Notice} {reason : StandInReason} (tells : notice.Tells reason) :
    Matches (some reason) [notice] := by
  show Matches (some reason) ([] ++ [notice])
  exact .standIn nofun tells

theorem after {choices : List Notice} (earlier : Matches none choices)
    (later : Matches reason notices) : Matches reason (choices ++ notices) := by
  cases earlier with
  | resolved chosen =>
      cases later with
      | resolved chosenLater => exact .resolved (List.forall_mem_append.mpr ⟨chosen, chosenLater⟩)
      | standIn chosenLater tells =>
          rw [← List.append_assoc]
          exact .standIn (List.forall_mem_append.mpr ⟨chosen, chosenLater⟩) tells

private theorem not_isError_of_isChoice {notice : Notice} (chosen : notice.IsChoice) :
    notice.isError = false := by
  rw [Notice.isError, chosen.warning]
  rfl

theorem any_isError_iff (matching : Matches reason notices) :
    notices.any Notice.isError = true ↔ reason ≠ none := by
  cases matching with
  | resolved chosen =>
      have none : notices.any Notice.isError = false := by
        rw [List.any_eq_false]
        intro notice member
        rw [not_isError_of_isChoice (chosen notice member)]
        exact Bool.false_ne_true
      simp [none]
  | standIn chosen tells =>
      have last := tells.error
      simp [Notice.isError, last]

theorem graded (matching : Matches reason notices) : ∀ notice ∈ notices, notice.Graded := by
  cases matching with
  | resolved chosen => exact fun notice member => (chosen notice member).graded
  | standIn chosen tells =>
      rw [List.forall_mem_append, List.forall_mem_singleton]
      exact ⟨fun notice member => (chosen notice member).graded, tells.graded⟩

theorem ne_noAccessor (matching : Matches reason notices) : reason ≠ some .noAccessor := by
  rintro rfl
  cases matching with
  | standIn chosen tells => cases tells.kind

end Matches

/-- What picking a record comes to: a record, with nothing but a choice reported, or the
error that nothing could be picked. -/
inductive Picking : Reported Choice → Prop where
  | picked {wanted : Option Value} {notices : List Notice}
      (chosen : ∀ notice ∈ notices, notice.IsChoice) : Picking ⟨.picked wanted, notices⟩
  | kept {searched : Value} {notice : Notice}
      (tells : notice.Tells (if searched.isArray then .noMatch else .notAnArray)) :
      Picking ⟨.kept searched, [notice]⟩

/-- What a step from a value other than null comes to: it goes on or ends without a value,
with nothing but a choice reported, or it ends with a value that stands in and one error. -/
inductive Reading : Reported Progress → Prop where
  | reached {next : Value} {notices : List Notice}
      (chosen : ∀ notice ∈ notices, notice.IsChoice) : Reading ⟨.reached next, notices⟩
  | absent {notices : List Notice} (chosen : ∀ notice ∈ notices, notice.IsChoice) :
      Reading ⟨.ended .absent, notices⟩
  | standIn {value : Value} {reason : StandInReason} {notice : Notice}
      (tells : notice.Tells reason) (notNull : reason ≠ .readThroughNull) :
      Reading ⟨.ended (.standIn value reason), [notice]⟩

private theorem forall_mem_singleton_isChoice {notice : Notice} (chosen : notice.IsChoice) :
    ∀ other ∈ [notice], other.IsChoice := by
  intro other member
  rw [List.mem_singleton.mp member]
  exact chosen

theorem picking_choose (searched : Value) (extract : Text) (conditions : List Condition)
    (accessor : Text) : Picking (Records.choose searched extract conditions accessor) := by
  cases searched with
  | array items =>
      cases conditions with
      | nil =>
          unfold Records.choose Records.guess
          dsimp only
          split
          · exact .picked (forall_mem_singleton_isChoice ⟨rfl, Or.inl rfl⟩)
          · exact .kept ⟨rfl, rfl⟩
      | cons first rest =>
          unfold Records.choose Records.select
          dsimp only
          split
          · exact .kept ⟨rfl, rfl⟩
          · exact .picked nofun
          · exact .picked (forall_mem_singleton_isChoice ⟨rfl, Or.inr rfl⟩)
  | null => exact .kept ⟨rfl, rfl⟩
  | bool value => exact .kept ⟨rfl, rfl⟩
  | number value => exact .kept ⟨rfl, rfl⟩
  | string value => exact .kept ⟨rfl, rfl⟩
  | object members => exact .kept ⟨rfl, rfl⟩

private theorem reading_of_picking {choice : Reported Choice} (picking : Picking choice) :
    Reading (choice.map afterChoice) := by
  cases picking with
  | @picked wanted notices chosen =>
      cases wanted with
      | none => exact .absent chosen
      | some next => exact .reached chosen
  | @kept searched notice tells =>
      refine .standIn tells ?_
      cases searched.isArray <;> decide

theorem read_member (accessor : Text) (value : Value) (name : Text) :
    read accessor value (.member name) =
      if value.isArray then endAtArray value accessor (.member name)
      else
        match value.member? name with
        | none => .silent (.ended .absent)
        | some next =>
            if next.isArray then endAtArray next accessor (.member name)
            else .silent (.reached next) := rfl

theorem read_record (accessor : Text) (value : Value) (name extract : Text)
    (conditions : List Condition) :
    read accessor value (.record name extract conditions) =
      match value.member? name with
      | none => .silent (.ended .absent)
      | some searched =>
          (Records.choose searched extract conditions
            (accessor ++ " (".toList ++ (Access.record name extract conditions).text ++ [')'])).map
              afterChoice := rfl

theorem reading_read (accessor : Text) (value : Value) (access : Access) :
    Reading (read accessor value access) := by
  cases access with
  | member name =>
      rw [read_member]
      split
      · exact .standIn ⟨rfl, rfl⟩ (by decide)
      · split
        · exact .absent nofun
        · split
          · exact .standIn ⟨rfl, rfl⟩ (by decide)
          · exact .reached nofun
  | record name extract conditions =>
      rw [read_record]
      split
      · exact .absent nofun
      · exact reading_of_picking (picking_choose _ extract conditions _)

theorem along_cons_reached {root : Value} {accessor : Text} {value next : Value} {access : Access}
    (reached : (stepFrom root accessor value access).value = .reached next)
    (rest : List Access) :
    along root accessor value (access :: rest) =
      ⟨(along root accessor next rest).value,
        (stepFrom root accessor value access).notices ++
          (along root accessor next rest).notices⟩ := by
  rw [along, Reported.andThen, reached]

theorem along_cons_ended {root : Value} {accessor : Text} {value : Value} {access : Access}
    {outcome : Outcome}
    (ended : (stepFrom root accessor value access).value = .ended outcome)
    (rest : List Access) :
    along root accessor value (access :: rest) =
      ⟨outcome, (stepFrom root accessor value access).notices⟩ := by
  rw [along, Reported.andThen, ended]
  dsimp only [Reported.silent]
  rw [List.append_nil]

def Progress.reason? : Progress → Option StandInReason
  | .reached _ => none
  | .ended outcome => outcome.reason?

private theorem matches_of_reading {progress : Reported Progress} (reading : Reading progress) :
    Matches progress.value.reason? progress.notices := by
  cases reading with
  | reached chosen => exact .resolved chosen
  | absent chosen => exact .resolved chosen
  | standIn tells notNull => exact .error tells

theorem matches_stepFrom (root : Value) (accessor : Text) (value : Value) (access : Access) :
    Matches (stepFrom root accessor value access).value.reason?
      (stepFrom root accessor value access).notices := by
  unfold stepFrom
  split
  · exact .error ⟨rfl, rfl⟩
  · exact matches_of_reading (reading_read accessor value access)

theorem matches_along (root : Value) (accessor : Text) (value : Value) (accesses : List Access) :
    Matches (along root accessor value accesses).value.reason?
      (along root accessor value accesses).notices := by
  -- While the walk goes on, all it has reported are choices, so only the last step decides.
  induction accesses generalizing value with
  | nil => exact .resolved nofun
  | cons access rest ih =>
      have step := matches_stepFrom root accessor value access
      cases progress : (stepFrom root accessor value access).value with
      | reached next =>
          rw [progress] at step
          rw [along_cons_reached progress]
          exact step.after (ih next)
      | ended outcome =>
          rw [progress] at step
          rw [along_cons_ended progress]
          exact step

end Walk

namespace Path

def HasCall (path : Path) : Prop := ∃ name params, .call name params ∈ path.steps

theorem firstCall?_eq_none_iff (path : Path) : path.firstCall? = none ↔ ¬ path.HasCall := by
  rw [firstCall?, List.findSome?_eq_none_iff]
  constructor
  · rintro none ⟨name, params, member⟩
    cases none _ member
  · intro without step member
    cases step with
    | access reading => rfl
    | call name params => exact absurd ⟨name, params, member⟩ without

theorem resolve_of_hasCall {path : Path} (call : path.HasCall) (root : Value) (accessor : Text)
    (registry : Registry) : (path.resolve root accessor registry).notices = [] := by
  cases first : path.firstCall? with
  | none => exact absurd call ((firstCall?_eq_none_iff path).mp first)
  | some found => simp only [resolve, first, Reported.silent]

theorem resolve_of_not_hasCall {path : Path} (noCall : ¬ path.HasCall) (root : Value)
    (accessor : Text) (registry : Registry) :
    path.resolve root accessor registry =
      (Walk.along root accessor root path.accesses).map Except.ok := by
  rw [resolve, (firstCall?_eq_none_iff path).mpr noCall]

theorem graded_resolve (path : Path) (root : Value) (accessor : Text) (registry : Registry) :
    ∀ notice ∈ (path.resolve root accessor registry).notices, notice.Graded := by
  by_cases call : path.HasCall
  · rw [resolve_of_hasCall call]
    exact nofun
  · rw [resolve_of_not_hasCall call]
    exact (Walk.matches_along root accessor root path.accesses).graded

theorem matches_resolve {path : Path} {root : Value} {accessor : Text} {registry : Registry}
    {outcome : Outcome} (resolved : (path.resolve root accessor registry).value = .ok outcome) :
    Walk.Matches outcome.reason? (path.resolve root accessor registry).notices := by
  by_cases call : path.HasCall
  · rw [resolve_of_hasCall call]
    cases first : path.firstCall? with
    | none => exact absurd call ((firstCall?_eq_none_iff path).mp first)
    | some found =>
        simp only [resolve, first, Reported.silent] at resolved
        cases called : registry.call found.1 root found.2 with
        | error failure =>
            rw [called] at resolved
            cases resolved
        | ok value =>
            rw [called] at resolved
            cases resolved
            exact .resolved nofun
  · rw [resolve_of_not_hasCall call] at resolved ⊢
    cases resolved
    exact Walk.matches_along root accessor root path.accesses

end Path

theorem Records.choose_value_congr (searched : Value) (extract : Text)
    (conditions : List Condition) (accessor other : Text) :
    (choose searched extract conditions accessor).value =
      (choose searched extract conditions other).value := by
  cases searched with
  | array items =>
      cases conditions with
      | nil =>
          unfold choose guess
          dsimp only
          split <;> rfl
      | cons first rest =>
          unfold choose select
          dsimp only
          split <;> rfl
  | null => rfl
  | bool value => rfl
  | number value => rfl
  | string value => rfl
  | object members => rfl

namespace Walk

private theorem read_value_congr (accessor other : Text) (value : Value) (access : Access) :
    (read accessor value access).value = (read other value access).value := by
  cases access with
  | member name =>
      rw [read_member, read_member]
      split
      · rfl
      · split
        · rfl
        · split <;> rfl
  | record name extract conditions =>
      rw [read_record, read_record]
      split
      · rfl
      · exact congrArg afterChoice (Records.choose_value_congr _ _ _ _ _)

private theorem stepFrom_value_congr (root : Value) (accessor other : Text) (value : Value)
    (access : Access) :
    (stepFrom root accessor value access).value = (stepFrom root other value access).value := by
  unfold stepFrom
  split
  · rfl
  · exact read_value_congr accessor other value access

theorem along_value_congr (root : Value) (accessor other : Text) (value : Value)
    (accesses : List Access) :
    (along root accessor value accesses).value = (along root other value accesses).value := by
  induction accesses generalizing value with
  | nil => rfl
  | cons access rest ih =>
      have step := stepFrom_value_congr root accessor other value access
      cases progress : (stepFrom root other value access).value with
      | reached next =>
          rw [progress] at step
          rw [along_cons_reached step, along_cons_reached progress]
          exact ih next
      | ended outcome =>
          rw [progress] at step
          rw [along_cons_ended step, along_cons_ended progress]

end Walk

theorem Path.resolve_value_congr (path : Path) (root : Value) (accessor other : Text)
    (registry : Registry) :
    (path.resolve root accessor registry).value = (path.resolve root other registry).value := by
  unfold resolve
  split
  · rfl
  · exact congrArg Except.ok (Walk.along_value_congr root accessor other root path.accesses)

end JsonTemplate
