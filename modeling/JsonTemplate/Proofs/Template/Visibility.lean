import JsonTemplate.Proofs.Template.Verdict
import JsonTemplate.Proofs.Walk.Composition

set_option autoImplicit false

/-! What a template without calls sees of the object that it is rendered for. A placeholder
begins with one member of the root and sees no other, unless a step is to be read from null
and the root stands in as a whole. So two roots with the same members under these names are
reported on alike, and they are rendered alike as long as no root stands in. -/

namespace JsonTemplate

open JsonTemplate.Json (Value)

def Access.name : Access → Text
  | .member name => name
  | .record name _ _ => name

private theorem Outcome.withRoot_of_reason?_ne (root : Value) {outcome : Outcome}
    (hidden : outcome.reason? ≠ some .readThroughNull) : outcome.withRoot root = outcome := by
  cases outcome with
  | found value => rfl
  | absent => rfl
  | standIn value reason =>
      have other : reason ≠ .readThroughNull := by
        intro same
        exact hidden (congrArg some same)
      rw [Outcome.withRoot, if_neg other]

namespace Walk

private theorem along_eq_standIn_root {root : Value} {accessor : Text} {value : Value}
    {accesses : List Access}
    (shown : (along root accessor value accesses).value.reason? = some .readThroughNull) :
    (along root accessor value accesses).value = .standIn root .readThroughNull := by
  have rooted := congrArg Reported.value (along_withRoot root root accessor value accesses)
  rw [Reported.map] at rooted
  cases outcome : (along root accessor value accesses).value with
  | found found =>
      rw [outcome] at shown
      cases shown
  | absent =>
      rw [outcome] at shown
      cases shown
  | standIn stand reason =>
      rw [outcome] at shown rooted
      have same : reason = .readThroughNull := Option.some.inj shown
      rw [Outcome.withRoot, if_pos same] at rooted
      rw [rooted, same]

/-- An error that tells of null is reported exactly where the root stands in. -/
private theorem Matches.exists_readThroughNull {notices : List Notice}
    (matching : Matches (some .readThroughNull) notices) :
    ∃ notice ∈ notices, notice.kind = .readThroughNull := by
  cases matching with
  | @standIn choices last _ chosen tells =>
      refine ⟨last, List.mem_append_right _ (List.mem_singleton_self last), ?_⟩
      exact (Option.some.inj tells.kind).symm

variable {members others : List (Text × Value)} {access : Access}

private theorem read_object (accessor : Text)
    (same : Value.lookup access.name members = Value.lookup access.name others) :
    read accessor (.object members) access = read accessor (.object others) access := by
  cases access with
  | member name =>
      change Value.lookup name members = Value.lookup name others at same
      rw [read_member, read_member, Value.member?_object, Value.member?_object, same]
      rfl
  | record name extract conditions =>
      change Value.lookup name members = Value.lookup name others at same
      rw [read_record, read_record, Value.member?_object, Value.member?_object, same]

private theorem along_object (root : Value) (accessor : Text) (rest : List Access)
    (same : Value.lookup access.name members = Value.lookup access.name others) :
    along root accessor (.object members) (access :: rest) =
      along root accessor (.object others) (access :: rest) := by
  have step : stepFrom root accessor (.object members) access =
      stepFrom root accessor (.object others) access := read_object accessor same
  rw [along, along, step]

end Walk

namespace Path

def BeginsWith (path : Path) (name : Text) : Prop :=
  ∃ first rest, path.steps = .access first :: rest ∧ first.name = name

private theorem exists_first_access {path : Path} (nonempty : path.steps ≠ [])
    (noCall : ¬ path.HasCall) :
    ∃ first rest, path.accesses = first :: rest ∧ path.BeginsWith first.name := by
  obtain ⟨steps⟩ := path
  cases steps with
  | nil => exact absurd rfl nonempty
  | cons step rest =>
      cases step with
      | access first => exact ⟨first, _, rfl, first, rest, rfl, rfl⟩
      | call name params => exact absurd ⟨name, params, List.mem_cons_self⟩ noCall

variable {path : Path} {members others : List (Text × Value)}

/-- A path sees the member with which it begins, and of the rest of the root only that it
stands in. -/
theorem resolve_object (nonempty : path.steps ≠ []) (noCall : ¬ path.HasCall)
    (agree : ∀ name, path.BeginsWith name →
      Value.lookup name members = Value.lookup name others)
    (accessor : Text) (registry : Registry) :
    path.resolve (.object members) accessor registry =
      Attempt.map (Outcome.withRoot (.object members))
        (path.resolve (.object others) accessor registry) := by
  obtain ⟨first, rest, accesses, begins⟩ := exists_first_access nonempty noCall
  have same := agree first.name begins
  rw [resolve_of_not_hasCall noCall, resolve_of_not_hasCall noCall, accesses,
    Walk.along_object _ accessor rest same,
    Walk.along_withRoot (.object members) (.object others)]
  rfl

theorem resolve_eq_standIn_root {root : Value} {accessor : Text} {registry : Registry}
    {outcome : Outcome} (noCall : ¬ path.HasCall)
    (resolved : (path.resolve root accessor registry).value = .ok outcome)
    (shown : outcome.reason? = some .readThroughNull) :
    outcome = .standIn root .readThroughNull := by
  rw [resolve_of_not_hasCall noCall] at resolved
  cases resolved
  exact Walk.along_eq_standIn_root shown

end Path

namespace Attempt

variable {α β : Type}

private theorem forEach_congr {attempt other : α → Attempt β} {items : List α}
    (same : ∀ item ∈ items, attempt item = other item) :
    forEach attempt items = forEach other items := by
  induction items with
  | nil => rfl
  | cons item rest ih =>
      rw [List.forall_mem_cons] at same
      rw [forEach, forEach, same.1, ih same.2]

private theorem map_eq_self {change : α → α} {attempt : Attempt α}
    (kept : ∀ result, attempt.value = .ok result → change result = result) :
    map change attempt = attempt := by
  obtain ⟨value, notices⟩ := attempt
  cases value with
  | error failure => rfl
  | ok result => rw [map, Except.map, kept result rfl]

end Attempt

namespace Template

open JsonTemplate.Attempt (verdict)

def CallFree (template : Text) : Prop :=
  ∀ entry ∈ (Decoding.ofText template).entries, ¬ entry.path.HasCall

def BeginsWith (template name : Text) : Prop :=
  ∃ entry ∈ (Decoding.ofText template).entries, entry.path.BeginsWith name

/-- Whether two objects have the same members, or none, under the names with which the
placeholders of a template begin. -/
def Agree (template : Text) (members others : List (Text × Value)) : Prop :=
  ∀ name, BeginsWith template name → Value.lookup name members = Value.lookup name others

def ShowsRoot (template : Text) (root : Value) (registry : Registry) : Prop :=
  ∃ entry ∈ (Decoding.ofText template).entries,
    (resolved root registry entry).value = .ok (.standIn root .readThroughNull)

variable {template : Text} {members others : List (Text × Value)}

theorem Agree.symm (agree : Agree template members others) : Agree template others members :=
  fun name begins => (agree name begins).symm

private theorem steps_ne_nil_of_mem_entries {entry : Entry}
    (member : entry ∈ (Decoding.ofText template).entries) : entry.path.steps ≠ [] := by
  rw [entries_ofText] at member
  obtain ⟨inner, -, same⟩ := List.mem_map.mp member
  rw [← same]
  exact Path.steps_ofText_ne_nil inner

theorem exists_render_of_callFree (callFree : CallFree template) (root : Value)
    (registry : Registry) (options : Options) :
    ∃ text, (render template root registry options).value = .ok text := by
  cases rendered : (render template root registry options).value with
  | ok text => exact ⟨text, rfl⟩
  | error failure =>
      rw [render_value_eq_error_iff] at rendered
      obtain ⟨done, -, entry, rest, same, refused⟩ := rendered
      have listed : entry ∈ (Decoding.ofText template).entries := by
        rw [same]
        exact List.mem_append_right _ List.mem_cons_self
      exact absurd (Path.hasCall_of_refused refused) (callFree entry listed)

private theorem resolved_object (callFree : CallFree template)
    (agree : Agree template members others) (registry : Registry) {entry : Entry}
    (member : entry ∈ (Decoding.ofText template).entries) :
    resolved (.object members) registry entry =
      Attempt.map (Outcome.withRoot (.object members))
        (resolved (.object others) registry entry) := by
  apply Path.resolve_object (steps_ne_nil_of_mem_entries member) (callFree entry member)
  intro name begins
  exact agree name ⟨entry, member, begins⟩

theorem notices_render_object (callFree : CallFree template)
    (agree : Agree template members others) (registry : Registry) (options : Options) :
    (render template (.object members) registry options).notices =
      (render template (.object others) registry options).notices := by
  have verdicts : verdict (render template (.object members) registry options) =
      verdict (render template (.object others) registry options) := by
    rw [verdict_render, verdict_render]
    apply Attempt.verdict_forEach_congr
    intro entry member
    rw [resolved_object callFree agree registry member, Attempt.verdict_map]
  exact congrArg Prod.snd verdicts

theorem render_object_of_not_showsRoot (callFree : CallFree template)
    (agree : Agree template members others)
    {registry : Registry} (hidden : ¬ ShowsRoot template (.object members) registry)
    (options : Options) :
    render template (.object members) registry options =
      render template (.object others) registry options := by
  have sameResolved : ∀ entry ∈ (Decoding.ofText template).entries,
      resolved (.object others) registry entry = resolved (.object members) registry entry := by
    intro entry member
    rw [resolved_object callFree agree.symm registry member]
    apply Attempt.map_eq_self
    intro outcome made
    apply Outcome.withRoot_of_reason?_ne
    intro shown
    rw [Path.resolve_eq_standIn_root (callFree entry member) made shown] at made
    exact hidden ⟨entry, member, made⟩
  have sameTexts : Attempt.forEach (entryText (.object members) registry options.undefinedText)
        (Decoding.ofText template).entries =
      Attempt.forEach (entryText (.object others) registry options.undefinedText)
        (Decoding.ofText template).entries := by
    apply Attempt.forEach_congr
    intro entry member
    have same := sameResolved entry member
    unfold resolved at same
    rw [entryText, entryText, same]
  unfold render
  dsimp only
  rw [sameTexts]

theorem exists_notice_of_showsRoot {root : Value} {registry : Registry}
    (callFree : CallFree template) (shown : ShowsRoot template root registry)
    (options : Options) :
    ∃ notice ∈ (render template root registry options).notices,
      notice.kind = .readThroughNull := by
  obtain ⟨entry, member, standsIn⟩ := shown
  obtain ⟨text, rendered⟩ := exists_render_of_callFree callFree root registry options
  obtain ⟨notice, reported, kind⟩ := (matches_resolved standsIn).exists_readThroughNull
  refine ⟨notice, ?_, kind⟩
  rw [notices_of_render rendered, reportsOf, List.mem_flatMap]
  exact ⟨entry, member, reported⟩

private theorem showsRoot_of_render_ne (callFree : CallFree template)
    (agree : Agree template members others) {registry : Registry} {options : Options}
    (different : (render template (.object members) registry options).value ≠
      (render template (.object others) registry options).value) :
    ShowsRoot template (.object members) registry := by
  by_contra hidden
  exact different (congrArg Reported.value
    (render_object_of_not_showsRoot callFree agree hidden options))

/-- Two objects with the same members under the names with which the placeholders of a
template begin are rendered with the same notices, and to the same text if no notice tells
that the root stands in. So no other member is seen in the text, unless the root stands in
for a placeholder. -/
theorem render_sees_first_members (template : Text) (callFree : CallFree template)
    (registry : Registry) (options : Options) :
    let rendered (members : List (Text × Value)) :=
      render template (.object members) registry options
    (∀ members others, Agree template members others →
      ((∃ text, (rendered members).value = .ok text) ∧
          ∃ text, (rendered others).value = .ok text) ∧
        (rendered members).notices = (rendered others).notices ∧
        ((∀ notice ∈ (rendered members).notices, notice.kind ≠ .readThroughNull) →
          (rendered members).value = (rendered others).value)) ∧
    ∀ unseen members others, ¬ BeginsWith template unseen →
      (∀ name, name ≠ unseen → Value.lookup name members = Value.lookup name others) →
      (rendered members).value ≠ (rendered others).value →
        ShowsRoot template (.object members) registry ∧
          ShowsRoot template (.object others) registry := by
  intro rendered
  constructor
  · intro members others agree
    refine ⟨⟨exists_render_of_callFree callFree _ registry options,
      exists_render_of_callFree callFree _ registry options⟩,
      notices_render_object callFree agree registry options, ?_⟩
    intro quiet
    by_contra different
    have shown : ShowsRoot template (.object members) registry :=
      showsRoot_of_render_ne callFree agree different
    obtain ⟨notice, reported, kind⟩ := exists_notice_of_showsRoot callFree shown options
    exact quiet notice reported kind
  · intro unseen members others notSeen elsewhere different
    have agree : Agree template members others := by
      intro name begins
      apply elsewhere
      intro same
      rw [same] at begins
      exact notSeen begins
    exact ⟨showsRoot_of_render_ne callFree agree different,
      showsRoot_of_render_ne callFree agree.symm different.symm⟩

/-- Two objects that differ in one member and in the order of the others, in a template that
reads two members, of which one is missing, and in one that comes to null. -/
theorem render_sees_first_members_sample :
    let members : List (Text × Value) :=
      [(['s'], .bool true), (['a'], .object [(['b'], .null)])]
    let others : List (Text × Value) :=
      [(['a'], .object [(['b'], .null)]), (['s'], .string ['x'])]
    let rendered (template : Text) (members : List (Text × Value)) :=
      render template (.object members) Registry.empty Options.standard
    let template := "%(a.b)%(l:v[k=x])".toList
    let throughNull := "%(a.b.c)".toList
    CallFree template ∧
      Agree template members others ∧
      (∀ notice ∈ (rendered template members).notices, notice.kind ≠ .readThroughNull) ∧
      (rendered template members).value = (rendered template others).value ∧
      (CallFree throughNull ∧ ¬ BeginsWith throughNull ['s']) ∧
      (rendered throughNull members).value ≠ (rendered throughNull others).value ∧
      ShowsRoot throughNull (.object members) Registry.empty := by
  intro members others rendered template throughNull
  have listed : (Decoding.ofText template).entries =
      [entryOf "a.b".toList, entryOf "l:v[k=x]".toList] := by decide
  have listedThroughNull : (Decoding.ofText throughNull).entries =
      [entryOf "a.b.c".toList] := by decide
  have callFree : CallFree template := by
    intro entry member
    rw [listed] at member
    rw [← Path.firstCall?_eq_none_iff]
    revert entry
    decide
  have callFreeThroughNull : CallFree throughNull := by
    intro entry member
    rw [listedThroughNull] at member
    rw [← Path.firstCall?_eq_none_iff]
    revert entry
    decide
  have agree : Agree template members others := by
    intro name begins
    obtain ⟨entry, member, first, rest, steps, same⟩ := begins
    rw [listed, List.mem_cons, List.mem_singleton] at member
    rcases member with atFirst | atSecond
    · rw [atFirst] at steps
      cases steps
      cases same
      rfl
    · rw [atSecond] at steps
      cases steps
      cases same
      rfl
  have notSeen : ¬ BeginsWith throughNull ['s'] := by
    intro begins
    obtain ⟨entry, member, first, rest, steps, same⟩ := begins
    rw [listedThroughNull, List.mem_singleton] at member
    rw [member] at steps
    cases steps
    cases same
  have elsewhere : ∀ name, name ≠ ['s'] →
      Value.lookup name members = Value.lookup name others := by
    intro name different
    simp only [members, others, Value.lookup, if_neg (Ne.symm different)]
  have silent : (rendered template members).notices = [] := rfl
  have quiet : ∀ notice ∈ (rendered template members).notices,
      notice.kind ≠ .readThroughNull := by
    rw [silent]
    exact List.forall_mem_nil _
  have different : (rendered throughNull members).value ≠
      (rendered throughNull others).value := by
    intro same
    have texts := Except.ok.inj same
    revert texts
    decide
  have seen := render_sees_first_members template callFree Registry.empty Options.standard
  have seenThroughNull :=
    render_sees_first_members throughNull callFreeThroughNull Registry.empty Options.standard
  exact ⟨callFree, agree, quiet, (seen.1 members others agree).2.2 quiet,
    ⟨callFreeThroughNull, notSeen⟩, different,
    (seenThroughNull.2 ['s'] members others notSeen elsewhere different).1⟩

end Template
end JsonTemplate
