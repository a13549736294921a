import JsonTemplate.Proofs.Function.Calls
import JsonTemplate.Proofs.Notice
import JsonTemplate.Proofs.Placeholder.Assembly

set_option autoImplicit false

/-! What decides whether a template is rendered, and what is reported. Both are decided
entry by entry: the first entry whose call is refused stops the rendering, and the notices
are those of the entries before it. Nothing else about the template matters, so neither
repeated placeholders nor the text between placeholders do, and neither do the options.
What a path reports tells whether it resolved to a value of its own, and so the collector of a
rendered template holds an error exactly if a value stands in for one of the placeholders. -/

namespace JsonTemplate

open JsonTemplate.Json (Value)

namespace Attempt

variable {α β γ : Type}

/-- How an attempt fails, if it does, and what it reports. -/
def verdict (attempt : Attempt α) : Option Failure × List Notice :=
  (failure? attempt.value, attempt.notices)

private theorem failure?_eq_some_iff (value : Except Failure α) (failure : Failure) :
    failure? value = some failure ↔ value = .error failure := by
  cases value <;> simp

theorem verdict_map (change : α → β) (attempt : Attempt α) :
    verdict (map change attempt) = verdict attempt := by
  unfold verdict map
  cases attempt.value <;> rfl

/-- The verdict on two attempts, the second made only if the first did not fail. -/
def inTurn (first second : Option Failure × List Notice) : Option Failure × List Notice :=
  match first.1 with
  | some failure => (some failure, first.2)
  | none => (second.1, first.2 ++ second.2)

private theorem verdict_forEach_cons (attempt : α → Attempt β) (item : α) (rest : List α) :
    verdict (forEach attempt (item :: rest)) =
      inTurn (verdict (attempt item)) (verdict (forEach attempt rest)) := by
  rw [forEach, andThen]
  unfold verdict
  cases (attempt item).value with
  | error failure => rfl
  | ok result =>
      dsimp only [map]
      cases (forEach attempt rest).value <;> rfl

theorem verdict_forEach_congr {attempt : α → Attempt β} {other : α → Attempt γ} {items : List α}
    (same : ∀ item ∈ items, verdict (attempt item) = verdict (other item)) :
    verdict (forEach attempt items) = verdict (forEach other items) := by
  induction items with
  | nil => rfl
  | cons item rest ih =>
      rw [List.forall_mem_cons] at same
      rw [verdict_forEach_cons, verdict_forEach_cons, same.1, ih same.2]

end Attempt

namespace Template

open JsonTemplate.Placeholder
open JsonTemplate.Attempt (verdict failure?)

def resolved (root : Value) (registry : Registry) (entry : Entry) : Attempt Outcome :=
  entry.path.resolve root entry.token registry

theorem verdict_render (template : Text) (root : Value) (registry : Registry) (options : Options) :
    verdict (render template root registry options) =
      verdict (Attempt.forEach (resolved root registry) (Decoding.ofText template).entries) := by
  rw [render, Attempt.verdict_map]
  apply Attempt.verdict_forEach_congr
  intro entry _
  exact Attempt.verdict_map _ _

/-- Whether rendering stops among entries, behind those that are done: the next one is the
first whose call is refused. -/
structure StopsAfter (root : Value) (registry : Registry) (entries done : List Entry)
    (failure : Failure) : Prop where
  passed : ∀ entry ∈ done, ∀ failure, ¬ entry.path.Refused root registry failure
  refused : ∃ entry rest, entries = done ++ entry :: rest ∧
    entry.path.Refused root registry failure

variable {root : Value} {registry : Registry}

def reportsOf (root : Value) (registry : Registry) (entries : List Entry) : List Notice :=
  entries.flatMap (fun entry => (resolved root registry entry).notices)

theorem exists_ok_of_not_refused {entry : Entry}
    (passed : ∀ failure, ¬ entry.path.Refused root registry failure) :
    ∃ outcome, (resolved root registry entry).value = .ok outcome := by
  cases made : (resolved root registry entry).value with
  | ok outcome => exact ⟨outcome, rfl⟩
  | error failure =>
      exact absurd ((Path.resolve_value_eq_error_iff _ _ _ _ _).mp made) (passed failure)

private theorem verdict_resolved_of_not_refused {entry : Entry}
    (passed : ∀ failure, ¬ entry.path.Refused root registry failure) :
    verdict (resolved root registry entry) = (none, (resolved root registry entry).notices) := by
  obtain ⟨outcome, made⟩ := exists_ok_of_not_refused passed
  rw [verdict, made]
  rfl

private theorem verdict_resolved_of_refused {entry : Entry} {failure : Failure}
    (refused : entry.path.Refused root registry failure) :
    verdict (resolved root registry entry) = (some failure, []) := by
  have failed : (resolved root registry entry).value = .error failure :=
    (Path.resolve_value_eq_error_iff _ _ _ _ _).mpr refused
  have quiet : (resolved root registry entry).notices = [] :=
    Path.resolve_notices_of_refused refused _
  rw [verdict, failed, quiet]
  rfl

theorem verdict_forEach_append {done : List Entry}
    (passed : ∀ entry ∈ done, ∀ failure, ¬ entry.path.Refused root registry failure)
    (rest : List Entry) :
    verdict (Attempt.forEach (resolved root registry) (done ++ rest)) =
      Attempt.inTurn (none, reportsOf root registry done)
        (verdict (Attempt.forEach (resolved root registry) rest)) := by
  induction done with
  | nil => rfl
  | cons entry done ih =>
      rw [List.forall_mem_cons] at passed
      rw [List.cons_append, Attempt.verdict_forEach_cons, ih passed.2,
        verdict_resolved_of_not_refused passed.1]
      dsimp only [Attempt.inTurn, reportsOf]
      rw [List.flatMap_cons, List.append_assoc]

theorem verdict_of_stopsAfter {entries done : List Entry} {failure : Failure}
    (stops : StopsAfter root registry entries done failure) :
    verdict (Attempt.forEach (resolved root registry) entries) =
      (some failure, reportsOf root registry done) := by
  obtain ⟨passed, entry, rest, rfl, refused⟩ := stops
  rw [verdict_forEach_append passed, Attempt.verdict_forEach_cons,
    verdict_resolved_of_refused refused]
  dsimp only [Attempt.inTurn]
  rw [List.append_nil]

theorem verdict_of_passed {entries : List Entry}
    (passed : ∀ entry ∈ entries, ∀ failure, ¬ entry.path.Refused root registry failure) :
    verdict (Attempt.forEach (resolved root registry) entries) =
      (none, reportsOf root registry entries) := by
  have whole := verdict_forEach_append passed []
  have nothing : verdict (Attempt.forEach (resolved root registry) []) = (none, []) := rfl
  rw [List.append_nil, nothing] at whole
  dsimp only [Attempt.inTurn] at whole
  rw [whole, List.append_nil]

theorem passed_or_stopsAfter (root : Value) (registry : Registry) (entries : List Entry) :
    (∀ entry ∈ entries, ∀ failure, ¬ entry.path.Refused root registry failure) ∨
      ∃ done failure, StopsAfter root registry entries done failure := by
  induction entries with
  | nil => exact Or.inl nofun
  | cons entry rest ih =>
      by_cases refused : ∃ failure, entry.path.Refused root registry failure
      · obtain ⟨failure, refused⟩ := refused
        exact Or.inr ⟨[], failure, nofun, entry, rest, rfl, refused⟩
      · rw [not_exists] at refused
        rcases ih with passed | ⟨done, failure, passed, next, later, same, refusedNext⟩
        · exact Or.inl (List.forall_mem_cons.mpr ⟨refused, passed⟩)
        · refine Or.inr ⟨entry :: done, failure, ?_, next, later, ?_, refusedNext⟩
          · exact List.forall_mem_cons.mpr ⟨refused, passed⟩
          · rw [same, List.cons_append]

theorem render_value_eq_error_iff (template : Text) (root : Value) (registry : Registry)
    (options : Options) (failure : Failure) :
    (render template root registry options).value = .error failure ↔
      ∃ done, StopsAfter root registry (Decoding.ofText template).entries done failure := by
  have whole := verdict_render template root registry options
  rw [← Attempt.failure?_eq_some_iff]
  constructor
  · intro failed
    rcases passed_or_stopsAfter root registry (Decoding.ofText template).entries with
      passed | ⟨done, other, stops⟩
    · have none := whole.trans (verdict_of_passed passed)
      cases failed.symm.trans (congrArg Prod.fst none)
    · have some := whole.trans (verdict_of_stopsAfter stops)
      cases failed.symm.trans (congrArg Prod.fst some)
      exact ⟨done, stops⟩
  · rintro ⟨done, stops⟩
    rw [verdict_of_stopsAfter stops] at whole
    exact congrArg Prod.fst whole

private theorem entries_eq_of_tokens_eq {template other : Text}
    (same : (Decoding.ofText template).tokens = (Decoding.ofText other).tokens) :
    (Decoding.ofText template).entries = (Decoding.ofText other).entries := by
  have tokens : ∀ text, (Decoding.ofText text).tokens = (distinctInners text).map token := by
    intro text
    rw [Decoding.tokens, entries_ofText, List.map_map]
    rfl
  rw [tokens, tokens] at same
  rw [entries_ofText, entries_ofText, List.map_injective_iff.mpr token_injective same]

private theorem entries_eq_of_distinctInners_eq {template other : Text}
    (same : distinctInners template = distinctInners other) :
    (Decoding.ofText template).entries = (Decoding.ofText other).entries := by
  rw [entries_ofText, entries_ofText, same]

private theorem distinctInners_repeated {left inner right : Text} (valid : IsPathText inner)
    (earlier : ∃ before after, left = before ++ token inner ++ after) (apart : Apart left right) :
    distinctInners (left ++ token inner ++ right) = distinctInners (left ++ right) := by
  have member : inner ∈ inners left := (mem_inners_iff left inner).mpr ⟨valid, earlier⟩
  rw [distinctInners, inners_around valid, Text.firstAppearances_append_cons member,
    ← inners_append apart, distinctInners]

/-- Without functions that give up, a call is refused for every document or for none. -/
theorem refused_of_refused (obliging : registry.Obliging) (otherRoot : Value) {path : Path}
    {failure : Failure} (refused : path.Refused root registry failure) :
    path.Refused otherRoot registry failure := by
  obtain ⟨name, params, call, refuses⟩ := refused
  cases refuses with
  | unknown unregistered => exact ⟨name, params, call, .unknown unregistered⟩
  | @failed function failure registered gaveUp =>
      have member := Registry.mem_functions_of_function? registered
      obtain ⟨value, called⟩ := obliging function member root params
      rw [called] at gaveUp
      cases gaveUp

/-- What the verdict on a template depends on, and what it does not. -/
structure DecidedByEntries (root : Value) (registry : Registry) : Prop where
  /-- The first entry whose call is refused decides the failure, and the entries before it
  decide what is reported. -/
  stopped : ∀ template options done failure,
    StopsAfter root registry (Decoding.ofText template).entries done failure →
      verdict (render template root registry options) =
        (some failure, reportsOf root registry done)
  /-- If there is none, all entries decide what is reported. -/
  passed : ∀ template options,
    (∀ entry ∈ (Decoding.ofText template).entries, ∀ failure,
      ¬ entry.path.Refused root registry failure) →
        verdict (render template root registry options) =
          (none, reportsOf root registry (Decoding.ofText template).entries)
  fails_iff : ∀ template options,
    (∃ failure, (render template root registry options).value = .error failure) ↔
      ∃ entry ∈ (Decoding.ofText template).entries, ∃ failure,
        entry.path.Refused root registry failure
  options : ∀ template options otherOptions,
    verdict (render template root registry options) =
      verdict (render template root registry otherOptions)
  /-- A placeholder may stand once more behind its first occurrence, unless that tears
  another one apart. -/
  repeated : ∀ left inner right options, IsPathText inner →
    (∃ before after, left = before ++ token inner ++ after) → Apart left right →
      verdict (render (left ++ token inner ++ right) root registry options) =
        verdict (render (left ++ right) root registry options)
  /-- More generally, only the distinct placeholders and their order matter. -/
  tokens : ∀ template other options,
    (Decoding.ofText template).tokens = (Decoding.ofText other).tokens →
      verdict (render template root registry options) =
        verdict (render other root registry options)
  /-- A template is made of gaps and placeholders, and other gaps may take the place of its
  own. -/
  gaps : ∀ template, ∃ pieces last, Assembles pieces last ∧ template = assembled pieces last ∧
    ∀ others otherLast options, Assembles others otherLast →
      others.map Prod.snd = pieces.map Prod.snd →
        verdict (render (assembled others otherLast) root registry options) =
          verdict (render template root registry options)
  /-- A function that is not registered is missed in every document alike. -/
  unknown : registry.Obliging → ∀ template options name,
    (render template root registry options).value = .error (.unknownFunction name) →
      ∀ otherRoot,
        (render template otherRoot registry options).value = .error (.unknownFunction name)

theorem render_decidedByEntries (root : Value) (registry : Registry) :
    DecidedByEntries root registry where
  stopped := by
    intro template options done failure stops
    rw [verdict_render]
    exact verdict_of_stopsAfter stops
  passed := by
    intro template options passed
    rw [verdict_render]
    exact verdict_of_passed passed
  fails_iff := by
    intro template options
    simp only [render_value_eq_error_iff]
    constructor
    · rintro ⟨failure, done, -, entry, rest, same, refused⟩
      rw [same]
      exact ⟨entry, List.mem_append_right _ List.mem_cons_self, failure, refused⟩
    · rintro ⟨entry, member, failure, refused⟩
      rcases passed_or_stopsAfter root registry (Decoding.ofText template).entries with
        passed | ⟨done, first, stops⟩
      · exact absurd refused (passed entry member failure)
      · exact ⟨first, done, stops⟩
  options := by
    intro template options otherOptions
    rw [verdict_render, verdict_render]
  repeated := by
    intro left inner right options valid earlier apart
    rw [verdict_render, verdict_render,
      entries_eq_of_distinctInners_eq (distinctInners_repeated valid earlier apart)]
  tokens := by
    intro template other options same
    rw [verdict_render, verdict_render, entries_eq_of_tokens_eq same]
  gaps := by
    intro template
    obtain ⟨pieces, last, assembles, made⟩ := exists_assembled template
    refine ⟨pieces, last, assembles, made, ?_⟩
    intro others otherLast options assemblesOthers same
    have sameInners : distinctInners (assembled others otherLast) = distinctInners template := by
      rw [made, distinctInners, distinctInners, inners_assembled assembles,
        inners_assembled assemblesOthers, same]
    rw [verdict_render, verdict_render, entries_eq_of_distinctInners_eq sameInners]
  unknown := by
    intro obliging template options name failed otherRoot
    rw [render_value_eq_error_iff] at failed ⊢
    obtain ⟨done, passed, entry, rest, same, refused⟩ := failed
    refine ⟨done, ?_, entry, rest, same, refused_of_refused obliging otherRoot refused⟩
    intro earlier member failure refusedThere
    exact passed earlier member failure (refused_of_refused obliging root refusedThere)

/-- An array without a filter, a function that is registered and two that are not, the first
of them behind a member that is missing. -/
theorem render_decidedByEntries_sample :
    let root : Value := .object [(['l'], .array [])]
    let registry := Registry.empty.register ⟨['f'], fun root _ => .ok root⟩
    let left := "%(l)%(__function:f)".toList
    let right := "(%(a.__function:g)%(__function:h)%".toList
    let template := left ++ token ['l'] ++ right
    let done := [entryOf ['l'], entryOf "__function:f".toList]
    StopsAfter root registry (Decoding.ofText template).entries done (.unknownFunction ['g']) ∧
      verdict (render template root registry Options.standard) =
        (some (.unknownFunction ['g']), reportsOf root registry done) ∧
      (reportsOf root registry done).map Notice.kind = [.arrayWithoutFilter] ∧
      (Apart left right ∧ verdict (render template root registry Options.standard) =
        verdict (render (left ++ right) root registry Options.standard)) ∧
      (render template .null registry Options.standard).value =
        .error (.unknownFunction ['g']) := by
  intro root registry left right template done
  have laws := render_decidedByEntries root registry
  have passed : ∀ entry ∈ done, ∀ failure, ¬ entry.path.Refused root registry failure := by
    have resolves : ∀ entry ∈ done, ∃ outcome,
        (resolved root registry entry).value = .ok outcome := by
      refine List.forall_mem_cons.mpr ⟨⟨_, rfl⟩, List.forall_mem_singleton.mpr ⟨_, rfl⟩⟩
    intro entry member failure refused
    obtain ⟨outcome, made⟩ := resolves entry member
    have failed := (Path.resolve_value_eq_error_iff _ _ entry.token _ _).mpr refused
    cases made.symm.trans failed
  have refused : (Path.ofText "a.__function:g".toList).Refused root registry
      (.unknownFunction ['g']) :=
    (Path.resolve_value_eq_error_iff _ _ [] _ _).mp rfl
  have listed : (Decoding.ofText template).entries =
      done ++ [entryOf "a.__function:g".toList, entryOf "__function:h".toList] := by
    decide
  have stops : StopsAfter root registry (Decoding.ofText template).entries done
      (.unknownFunction ['g']) := ⟨passed, _, _, listed, refused⟩
  have verdict := laws.stopped template Options.standard done _ stops
  have apart : Apart left right := by decide
  have obliging : registry.Obliging := by
    refine List.forall_mem_singleton.mpr ?_
    intro root params
    exact ⟨root, rfl⟩
  refine ⟨stops, verdict, rfl, ⟨apart, ?_⟩, ?_⟩
  · exact laws.repeated left ['l'] right _ (by decide) ⟨[], "%(__function:f)".toList, rfl⟩ apart
  · exact laws.unknown obliging template _ ['g']
      ((render_value_eq_error_iff _ _ _ _ _).mpr ⟨done, stops⟩) .null

theorem matches_resolved {entry : Entry} {outcome : Outcome}
    (made : (resolved root registry entry).value = .ok outcome) :
    Walk.Matches outcome.reason? (resolved root registry entry).notices :=
  Path.matches_resolve made

private theorem reason?_ne_none_iff (outcome : Outcome) :
    outcome.reason? ≠ none ↔ ∃ value reason, outcome = .standIn value reason := by
  cases outcome <;> simp [Outcome.reason?]

private theorem any_isError_resolved_iff {entry : Entry}
    (passed : ∀ failure, ¬ entry.path.Refused root registry failure) :
    (resolved root registry entry).notices.any Notice.isError = true ↔
      ∃ value reason, (resolved root registry entry).value = .ok (.standIn value reason) := by
  obtain ⟨outcome, made⟩ := exists_ok_of_not_refused passed
  rw [(matches_resolved made).any_isError_iff, reason?_ne_none_iff, made]
  simp only [Except.ok.injEq]

theorem any_isError_reportsOf_iff {entries : List Entry}
    (passed : ∀ entry ∈ entries, ∀ failure, ¬ entry.path.Refused root registry failure) :
    (reportsOf root registry entries).any Notice.isError = true ↔
      ∃ entry ∈ entries, ∃ value reason,
        (resolved root registry entry).value = .ok (.standIn value reason) := by
  rw [reportsOf, List.any_flatMap, List.any_eq_true]
  refine exists_congr ?_
  intro entry
  refine and_congr_right ?_
  intro member
  exact any_isError_resolved_iff (passed entry member)

theorem passed_of_render {template text : Text} {options : Options}
    (rendered : (render template root registry options).value = .ok text) :
    ∀ entry ∈ (Decoding.ofText template).entries, ∀ failure,
      ¬ entry.path.Refused root registry failure := by
  rcases passed_or_stopsAfter root registry (Decoding.ofText template).entries with
    passed | ⟨done, failure, stops⟩
  · exact passed
  · have failed := (render_value_eq_error_iff template root registry options failure).mpr
      ⟨done, stops⟩
    cases rendered.symm.trans failed

theorem notices_of_render {template text : Text} {options : Options}
    (rendered : (render template root registry options).value = .ok text) :
    (render template root registry options).notices =
      reportsOf root registry (Decoding.ofText template).entries := by
  have verdict := verdict_render template root registry options
  rw [verdict_of_passed (passed_of_render rendered)] at verdict
  exact congrArg Prod.snd verdict

/-- The notices of a path match its outcome, and a path with a call reports nothing. So the
collector of a template that is rendered holds an error exactly if a value stands in for one
of its distinct placeholders. -/
theorem notices_match_outcomes (root : Value) (registry : Registry) :
    (∀ path accessor, Path.HasCall path →
      (path.resolve root accessor registry).notices = []) ∧
    (∀ path accessor outcome, (Path.resolve path root accessor registry).value = .ok outcome →
      Walk.Matches outcome.reason? (path.resolve root accessor registry).notices ∧
        outcome.reason? ≠ some .noAccessor) ∧
    (∀ path accessor, ¬ Path.HasCall path →
      ∃ outcome, (path.resolve root accessor registry).value = .ok outcome) ∧
    ∀ template options text, (render template root registry options).value = .ok text →
      ∀ (collectors : Collectors) (handle : Nat), collectors.WellFormed →
        handle < collectors.handles.length → collectors.isEmpty handle = true →
          ((collectors.reportAll handle (render template root registry options).notices).hasErrors
              handle = true ↔
            ∃ entry ∈ (Decoding.ofText template).entries, ∃ value reason,
              (entry.path.resolve root entry.token registry).value =
                .ok (.standIn value reason)) := by
  refine ⟨?_, ?_, ?_, ?_⟩
  · intro path accessor call
    exact Path.resolve_of_hasCall call root accessor registry
  · intro path accessor outcome made
    have matching := Path.matches_resolve made
    exact ⟨matching, matching.ne_noAccessor⟩
  · intro path accessor noCall
    rw [Path.resolve_of_not_hasCall noCall]
    exact ⟨_, rfl⟩
  · intro template options text rendered collectors handle wellFormed inRange empty
    have started : collectors.notices handle = [] := List.isEmpty_iff.mp empty
    rw [Collectors.hasErrors, Collectors.notices_reportAll wellFormed inRange, started,
      List.nil_append, notices_of_render rendered]
    exact any_isError_reportsOf_iff (passed_of_render rendered)

/-- The walk chooses the first of two records, reads null from it and cannot go on. -/
theorem notices_match_outcomes_sample :
    let record : Value := .object [(['k'], .string ['x']), (['v'], .null)]
    let root : Value := .object [(['l'], .array [record, record])]
    let registry := Registry.empty.register ⟨['f'], fun root _ => .ok root⟩
    let path := Path.ofText "l:v[k=x].b".toList
    let resolved := path.resolve root [] registry
    let template := "%(l:v[k=x])%(l:v[k=x].b)".toList
    let rendered := render template root registry Options.standard
    let collectors := Collectors.empty.fresh
    (resolved.value = .ok (.standIn root .readThroughNull) ∧
        Walk.Matches (some .readThroughNull) resolved.notices ∧
        resolved.notices.map Notice.kind = [.severalMatches, .readThroughNull]) ∧
      (∃ outcome, ((Path.ofText "l:v[]".toList).resolve root [] registry).value = .ok outcome) ∧
      (Path.HasCall (Path.ofText "l.__function:f".toList) ∧
        ((Path.ofText "l.__function:f".toList).resolve root [] registry).notices = []) ∧
      (∃ text, rendered.value = .ok text) ∧ collectors.WellFormed ∧
      (collectors.reportAll 0 rendered.notices).hasErrors 0 = true := by
  intro record root registry path resolved template rendered collectors
  have laws := notices_match_outcomes root registry
  have made : resolved.value = .ok (.standIn root .readThroughNull) := rfl
  have call : Path.HasCall (Path.ofText "l.__function:f".toList) :=
    ⟨['f'], none, by decide⟩
  have noCall : ¬ Path.HasCall (Path.ofText "l:v[]".toList) := by
    rw [← Path.firstCall?_eq_none_iff]
    rfl
  have wellFormed : collectors.WellFormed := by
    intro buffer member
    rw [List.mem_singleton.mp member]
    exact Nat.zero_lt_one
  have second : entryOf "l:v[k=x].b".toList ∈ (Decoding.ofText template).entries := by decide
  refine ⟨⟨made, (laws.2.1 path [] _ made).1, rfl⟩, laws.2.2.1 _ _ noCall,
    ⟨call, laws.1 _ _ call⟩, ⟨_, rfl⟩, wellFormed, ?_⟩
  exact (laws.2.2.2 template Options.standard _ rfl collectors 0 wellFormed Nat.zero_lt_one
    rfl).mpr ⟨_, second, root, .readThroughNull, rfl⟩

end Template
end JsonTemplate
