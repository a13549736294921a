import JsonTemplate.Function
import JsonTemplate.Proofs.Template.Verdict
import JsonTemplate.Renderer

set_option autoImplicit false

/-! Calls of functions that nobody registered. The first call of a path decides it, so a
missing function is reported unless a call of a registered one stands in front of it; what
stands in front otherwise, or behind, does not hide it. -/

namespace JsonTemplate

open JsonTemplate.Json (Value)

namespace Path

/-- Whether a call of a path names no registered function, and neither does any call in front
of it. -/
def Misses (path : Path) (registry : Registry) : Prop :=
  ∃ before name params after, path.steps = before ++ .call name params :: after ∧
    registry.function? name = none ∧
      ∀ earlier earlierParams, .call earlier earlierParams ∈ before →
        registry.function? earlier = none

def MissesFirst (path : Path) (registry : Registry) (name : Text) : Prop :=
  registry.function? name = none ∧ ∃ params, path.FirstCall name params

private theorem FirstCall.eq_or_mem {path : Path} {first name : Text}
    {firstParams params : Option Text}
    {before after : List Step} (call : path.FirstCall first firstParams)
    (steps : path.steps = before ++ .call name params :: after) :
    first = name ∨ .call first firstParams ∈ before := by
  obtain ⟨front, back, whole, accesses⟩ := call
  rcases List.append_eq_append_iff.mp (whole.symm.trans steps) with
    ⟨between, rfl, tail⟩ | ⟨between, rfl, tail⟩
  · cases between with
    | nil =>
        cases tail
        exact Or.inl rfl
    | cons step between =>
        obtain ⟨rfl, -⟩ := List.cons.inj tail
        exact Or.inr (List.mem_append_right _ List.mem_cons_self)
  · cases between with
    | nil =>
        cases tail
        exact Or.inl rfl
    | cons step between =>
        obtain ⟨rfl, -⟩ := List.cons.inj tail
        obtain ⟨access, read⟩ := accesses _ (List.mem_append_right _ List.mem_cons_self)
        cases read

theorem misses_iff (path : Path) (registry : Registry) :
    path.Misses registry ↔ ∃ name, path.MissesFirst registry name := by
  constructor
  · rintro ⟨before, name, params, after, steps, unregistered, earlier⟩
    have call : path.HasCall :=
      ⟨name, params, steps ▸ List.mem_append_right _ List.mem_cons_self⟩
    obtain ⟨first, firstParams, firstCall⟩ := exists_firstCall call
    refine ⟨first, ?_, firstParams, firstCall⟩
    rcases firstCall.eq_or_mem steps with rfl | inFront
    · exact unregistered
    · exact earlier first firstParams inFront
  · rintro ⟨name, unregistered, params, before, after, steps, accesses⟩
    refine ⟨before, name, params, after, steps, unregistered, ?_⟩
    intro earlier earlierParams listed
    obtain ⟨access, read⟩ := accesses _ listed
    cases read

variable {path : Path} {registry : Registry} {name : Text}

theorem MissesFirst.refused (misses : path.MissesFirst registry name) (root : Value) :
    path.Refused root registry (.unknownFunction name) := by
  obtain ⟨unregistered, params, call⟩ := misses
  exact ⟨name, params, call, .unknown unregistered⟩

theorem MissesFirst.resolve (misses : path.MissesFirst registry name) (root : Value)
    (accessor : Text) :
    path.resolve root accessor registry = .silent (.error (.unknownFunction name)) := by
  obtain ⟨unregistered, params, call⟩ := misses
  rw [resolve_eq_call call, Registry.call, unregistered]
  rfl

/-- Where no function gives up, a path is refused for a missing function only. -/
theorem exists_missesFirst_of_refused (obliging : registry.Obliging) {root : Value}
    {failure : Failure} (refused : path.Refused root registry failure) :
    ∃ name, failure = .unknownFunction name ∧ path.MissesFirst registry name := by
  obtain ⟨name, params, call, refuses⟩ := refused
  cases refuses with
  | unknown unregistered => exact ⟨name, rfl, unregistered, params, call⟩
  | @failed function failure registered gaveUp =>
      have member := Registry.mem_functions_of_function? registered
      obtain ⟨value, called⟩ := obliging function member root params
      rw [called] at gaveUp
      cases gaveUp

end Path

private theorem Definition.resolve_value {definition : Text} {first : Entry} {rest : List Entry}
    (entries : (Decoding.ofText definition).entries = first :: rest) (root : Value)
    (registry : Registry) :
    (resolve definition root registry).value =
      (first.path.resolve root first.token registry).value := by
  rw [resolve]
  dsimp only
  rw [entries]

namespace Template

open JsonTemplate.Attempt (verdict)

variable {registry : Registry}

/-- Among entries of which one misses its function, rendering stops at the first such entry,
unless some function gives up before. -/
theorem exists_stopsAfter_of_misses (obliging : registry.Obliging) (root : Value)
    {entries : List Entry} {entry : Entry} (listed : entry ∈ entries)
    (misses : entry.path.Misses registry) :
    ∃ done first rest name, entries = done ++ first :: rest ∧
      first.path.MissesFirst registry name ∧
      (∀ earlier ∈ done, ¬ earlier.path.Misses registry) ∧
      StopsAfter root registry entries done (.unknownFunction name) := by
  obtain ⟨name, missesFirst⟩ := (Path.misses_iff _ _).mp misses
  rcases passed_or_stopsAfter root registry entries with passed | ⟨done, failure, stops⟩
  · exact absurd (missesFirst.refused root) (passed entry listed _)
  · obtain ⟨passed, first, rest, whole, refused⟩ := stops
    obtain ⟨missed, rfl, missesThere⟩ := Path.exists_missesFirst_of_refused obliging refused
    refine ⟨done, first, rest, missed, whole, missesThere, ?_, passed, first, rest, whole, refused⟩
    intro earlier before missesEarlier
    obtain ⟨other, missesOther⟩ := (Path.misses_iff _ _).mp missesEarlier
    exact passed earlier before _ (missesOther.refused root)

end Template

structure ReportsMissing (root : Value) (registry : Registry) : Prop where
  /-- A path that misses a function is refused, by the name of its first call. -/
  path : ∀ (path : Path) accessor, path.Misses registry →
    ∃ name, path.MissesFirst registry name ∧
      path.resolve root accessor registry = .silent (.error (.unknownFunction name))
  /-- Nothing else is refused where no function gives up. -/
  only : registry.Obliging → ∀ (path : Path) accessor failure,
    (path.resolve root accessor registry).value = .error failure → path.Misses registry
  /-- A registered function that is called first decides a path by itself. -/
  decided : ∀ (path : Path) accessor name params function, path.FirstCall name params →
    registry.function? name = some function →
      path.resolve root accessor registry =
        .silent ((function.call root params).map Outcome.found)
  definition : ∀ definition first rest,
    (Decoding.ofText definition).entries = first :: rest → first.path.Misses registry →
      ∃ name, first.path.MissesFirst registry name ∧
        (Definition.resolve definition root registry).value = .error (.unknownFunction name)
  /-- The first placeholder that misses a function leaves a template without a text. -/
  template : registry.Obliging → ∀ template options,
    ∀ entry ∈ (Decoding.ofText template).entries, entry.path.Misses registry →
      ∃ done first rest name, (Decoding.ofText template).entries = done ++ first :: rest ∧
        (∀ earlier ∈ done, ¬ earlier.path.Misses registry) ∧
        first.path.MissesFirst registry name ∧
        (Template.render template root registry options).value = .error (.unknownFunction name)

theorem missing_functions_reported (root : Value) (registry : Registry) :
    ReportsMissing root registry where
  path := by
    intro path accessor misses
    obtain ⟨name, missesFirst⟩ := (Path.misses_iff path registry).mp misses
    exact ⟨name, missesFirst, missesFirst.resolve root accessor⟩
  only := by
    intro obliging path accessor failure failed
    have refused := (Path.resolve_value_eq_error_iff path root accessor registry failure).mp failed
    obtain ⟨name, -, missesFirst⟩ := Path.exists_missesFirst_of_refused obliging refused
    exact (Path.misses_iff path registry).mpr ⟨name, missesFirst⟩
  decided := by
    intro path accessor name params function call registered
    exact Path.resolve_of_firstCall call registered root accessor
  definition := by
    intro definition first rest entries misses
    obtain ⟨name, missesFirst⟩ := (Path.misses_iff _ _).mp misses
    refine ⟨name, missesFirst, ?_⟩
    rw [Definition.resolve_value entries, missesFirst.resolve root first.token]
    rfl
  template := by
    intro obliging template options entry listed misses
    obtain ⟨done, first, rest, name, whole, missesFirst, earlier, stops⟩ :=
      Template.exists_stopsAfter_of_misses obliging root listed misses
    refine ⟨done, first, rest, name, whole, earlier, missesFirst, ?_⟩
    exact (Template.render_value_eq_error_iff template root registry options _).mpr ⟨done, stops⟩

/-- The missing function is called behind a record step and in front of a registered one, in
the second placeholder of a template. -/
theorem missing_functions_reported_sample :
    let root : Value := .object [(['a'], .null)]
    let registry := Registry.empty.register ⟨['f'], fun root _ => .ok root⟩
    let inner := "a:b[c=d].__function:g[p].e.__function:f".toList
    let path := Path.ofText inner
    registry.Obliging ∧ path.Misses registry ∧
      path.resolve root [] registry = .silent (.error (.unknownFunction ['g'])) ∧
      (Definition.resolve (Placeholder.token inner) root registry).value =
        .error (.unknownFunction ['g']) ∧
      ∃ done first rest name,
        (Decoding.ofText ("%(a)".toList ++ Placeholder.token inner)).entries =
          done ++ first :: rest ∧ first.path.MissesFirst registry name ∧
        (Template.render ("%(a)".toList ++ Placeholder.token inner) root registry
          Options.standard).value = .error (.unknownFunction name) := by
  intro root registry inner path
  have reports := missing_functions_reported root registry
  have obliging : registry.Obliging := List.forall_mem_singleton.mpr fun root _ => ⟨root, rfl⟩
  have misses : path.Misses registry :=
    ⟨[.access (.record ['a'] ['b'] [.equals ['c'] ['d']])], ['g'], some ['p'],
      [.access (.member ['e']), .call ['f'] none], by decide, rfl,
      fun _ _ listed => nomatch List.mem_singleton.mp listed⟩
  have only : ∀ {name}, path.MissesFirst registry name → name = ['g'] := by
    rintro name ⟨-, params, call⟩
    have first := (Path.firstCall?_eq_some_iff path name params).mpr call
    have found : path.firstCall? = some (['g'], some ['p']) := by decide
    exact (congrArg Prod.fst (Option.some.inj (found.symm.trans first))).symm
  refine ⟨obliging, misses, ?_, ?_, ?_⟩
  · obtain ⟨name, missesFirst, resolved⟩ := reports.path path [] misses
    rw [resolved, only missesFirst]
  · obtain ⟨name, missesFirst, resolved⟩ := reports.definition (Placeholder.token inner)
      ⟨Placeholder.token inner, path⟩ [] (by decide) misses
    rw [resolved, only missesFirst]
  · obtain ⟨done, first, rest, name, whole, -, missesFirst, resolved⟩ := reports.template obliging
      ("%(a)".toList ++ Placeholder.token inner) Options.standard ⟨Placeholder.token inner, path⟩
      (by decide) misses
    exact ⟨done, first, rest, name, whole, missesFirst, resolved⟩

/-- A registered function that is called first hides a missing one. -/
theorem registered_call_hides_missing :
    let root : Value := .null
    let inner := "__function:json.__function:nope".toList
    let path := Path.ofText inner
    let hidden : Outcome := .found (.string "null".toList)
    .call "nope".toList none ∈ path.steps ∧
      Builtin.registry.function? "nope".toList = none ∧
      path.resolve root [] Builtin.registry = .silent (.ok hidden) ∧
      Definition.resolve (Placeholder.token inner) root Builtin.registry = .silent (.ok hidden) ∧
      Template.render (Placeholder.token inner) root Builtin.registry Options.standard =
        .silent (.ok "null".toList) :=
  ⟨by decide, rfl, rfl, rfl, rfl⟩

end JsonTemplate
