import JsonTemplate.Proofs.Text.Utf8
import JsonTemplate.Proofs.Walk.Notices
import Mathlib.Data.List.Basic
import Mathlib.Data.List.Induction

set_option autoImplicit false

/-! Which call decides a path, and which function a call reaches. The first call of a path is made
with the root, whatever stands before it, and a path is left without an outcome exactly if that
call is refused. After functions were registered one after the other a registry has under every
name the function that was registered last, and its names are listed once each, in the order of
their bytes. -/

namespace JsonTemplate

open JsonTemplate.Json (Value)

def Registry.Obliging (registry : Registry) : Prop :=
  ∀ function ∈ registry.functions, ∀ root params, ∃ value, function.call root params = .ok value

theorem Registry.mem_functions_of_function? {registry : Registry} {name : Text}
    {function : Function} (found : registry.function? name = some function) :
    function ∈ registry.functions := by
  rw [function?, Option.map_eq_some_iff] at found
  obtain ⟨entry, there, rfl⟩ := found
  exact List.mem_map_of_mem (List.mem_of_find?_eq_some there)

/-- How a call by name is refused: no function has the name, or the one that has it gives
up. -/
inductive Registry.Refuses (registry : Registry) (name : Text) (root : Value)
    (params : Option Text) : Failure → Prop where
  | unknown (unregistered : registry.function? name = none) :
      Refuses registry name root params (.unknownFunction name)
  | failed {function : Function} {failure : Failure}
      (registered : registry.function? name = some function)
      (gaveUp : function.call root params = .error failure) :
      Refuses registry name root params failure

theorem Registry.call_eq_error_iff (registry : Registry) (name : Text) (root : Value)
    (params : Option Text) (failure : Failure) :
    registry.call name root params = .error failure ↔
      registry.Refuses name root params failure := by
  unfold Registry.call
  cases found : registry.function? name with
  | none =>
      constructor
      · intro refused
        cases refused
        exact .unknown found
      · intro refuses
        cases refuses with
        | unknown => rfl
        | failed registered =>
            rw [found] at registered
            cases registered
  | some function =>
      constructor
      · exact .failed found
      · intro refuses
        cases refuses with
        | unknown unregistered =>
            rw [found] at unregistered
            cases unregistered
        | failed registered gaveUp =>
            rw [found] at registered
            cases registered
            exact gaveUp

namespace Path

def FirstCall (path : Path) (name : Text) (params : Option Text) : Prop :=
  ∃ before after, path.steps = before ++ .call name params :: after ∧
    ∀ step ∈ before, ∃ access, step = .access access

theorem firstCall?_eq_some_iff (path : Path) (name : Text) (params : Option Text) :
    path.firstCall? = some (name, params) ↔ path.FirstCall name params := by
  rw [firstCall?, List.findSome?_eq_some_iff]
  constructor
  · rintro ⟨before, step, after, steps, calls, passed⟩
    cases step with
    | access reading => cases calls
    | call other otherParams =>
        cases calls
        refine ⟨before, after, steps, ?_⟩
        intro step member
        cases step with
        | access reading => exact ⟨reading, rfl⟩
        | call other otherParams => cases passed _ member
  · rintro ⟨before, after, steps, accesses⟩
    refine ⟨before, .call name params, after, steps, rfl, ?_⟩
    intro step member
    obtain ⟨reading, rfl⟩ := accesses step member
    rfl

theorem exists_firstCall {path : Path} (call : path.HasCall) :
    ∃ name params, path.FirstCall name params := by
  cases first : path.firstCall? with
  | none => exact absurd call ((firstCall?_eq_none_iff path).mp first)
  | some found => exact ⟨found.1, found.2, (firstCall?_eq_some_iff path _ _).mp first⟩

theorem resolve_eq_call {path : Path} {name : Text} {params : Option Text}
    (call : path.FirstCall name params) (root : Value) (accessor : Text) (registry : Registry) :
    path.resolve root accessor registry =
      .silent ((registry.call name root params).map Outcome.found) := by
  rw [← firstCall?_eq_some_iff] at call
  simp only [resolve, call]

theorem resolve_of_firstCall {path : Path} {name : Text} {params : Option Text}
    (call : path.FirstCall name params) {registry : Registry} {function : Function}
    (registered : registry.function? name = some function) (root : Value) (accessor : Text) :
    path.resolve root accessor registry =
      .silent ((function.call root params).map Outcome.found) := by
  rw [resolve_eq_call call, Registry.call, registered]

def Refused (path : Path) (root : Value) (registry : Registry) (failure : Failure) : Prop :=
  ∃ name params, path.FirstCall name params ∧ registry.Refuses name root params failure

theorem resolve_value_eq_error_iff (path : Path) (root : Value) (accessor : Text)
    (registry : Registry) (failure : Failure) :
    (path.resolve root accessor registry).value = .error failure ↔
      path.Refused root registry failure := by
  cases first : path.firstCall? with
  | none =>
      constructor
      · intro failed
        simp only [resolve, first] at failed
        cases failed
      · rintro ⟨name, params, call, -⟩
        rw [← firstCall?_eq_some_iff, first] at call
        cases call
  | some found =>
      obtain ⟨name, params⟩ := found
      have resolved : (path.resolve root accessor registry).value =
          (registry.call name root params).map Outcome.found := by
        rw [resolve_eq_call ((firstCall?_eq_some_iff path name params).mp first)]
        rfl
      have same : (registry.call name root params).map Outcome.found = .error failure ↔
          registry.call name root params = .error failure := by
        cases registry.call name root params <;> simp [Except.map]
      rw [resolved, same, Registry.call_eq_error_iff]
      constructor
      · intro refuses
        exact ⟨name, params, (firstCall?_eq_some_iff path name params).mp first, refuses⟩
      · rintro ⟨other, otherParams, call, refuses⟩
        rw [← firstCall?_eq_some_iff, first] at call
        cases call
        exact refuses

theorem hasCall_of_refused {path : Path} {root : Value} {registry : Registry}
    {failure : Failure} (refused : path.Refused root registry failure) : path.HasCall := by
  obtain ⟨name, params, ⟨before, after, steps, -⟩, -⟩ := refused
  refine ⟨name, params, ?_⟩
  rw [steps]
  exact List.mem_append_right _ List.mem_cons_self

theorem resolve_notices_of_refused {path : Path} {root : Value} {registry : Registry}
    {failure : Failure} (refused : path.Refused root registry failure) (accessor : Text) :
    (path.resolve root accessor registry).notices = [] :=
  resolve_of_hasCall (hasCall_of_refused refused) root accessor registry

end Path

namespace Registry

def Latest (history : List Function) (name : Text) (function : Function) : Prop :=
  ∃ before after, history = before ++ function :: after ∧ function.name = name ∧
    ∀ later ∈ after, later.name ≠ name

variable {history : List Function} {name : Text} {function : Function}

private theorem Latest.mem (latest : Latest history name function) : function ∈ history := by
  obtain ⟨before, after, same, -⟩ := latest
  rw [same]
  exact List.mem_append_right before List.mem_cons_self

private theorem Latest.name_eq (latest : Latest history name function) : function.name = name := by
  obtain ⟨before, after, -, named, -⟩ := latest
  exact named

/-- The last registration of a row decides its own name and no other one. -/
theorem latest_append_singleton_iff (history : List Function) (last function : Function)
    (name : Text) :
    Latest (history ++ [last]) name function ↔
      last = function ∧ last.name = name ∨ last.name ≠ name ∧ Latest history name function := by
  constructor
  · intro latest
    obtain ⟨before, after, same, named, others⟩ := latest
    rcases List.eq_nil_or_concat' after with rfl | ⟨middle, final, rfl⟩
    · obtain ⟨-, single⟩ := List.append_inj' same rfl
      obtain ⟨rfl, -⟩ := List.cons.inj single
      exact Or.inl ⟨rfl, named⟩
    · rw [← List.cons_append, ← List.append_assoc] at same
      obtain ⟨rfl, single⟩ := List.append_inj' same rfl
      obtain ⟨rfl, -⟩ := List.cons.inj single
      rw [List.forall_mem_append, List.forall_mem_singleton] at others
      exact Or.inr ⟨others.2, before, middle, rfl, named, others.1⟩
  · intro either
    rcases either with ⟨rfl, named⟩ | ⟨different, before, after, rfl, named, others⟩
    · exact ⟨history, [], rfl, named, nofun⟩
    · refine ⟨before, after ++ [last], ?_, named, ?_⟩
      · rw [List.append_assoc, List.cons_append]
      · rw [List.forall_mem_append, List.forall_mem_singleton]
        exact ⟨others, different⟩

private theorem exists_latest (registered : ∃ function ∈ history, function.name = name) :
    ∃ function, Latest history name function := by
  induction history using List.reverseRecOn with
  | nil =>
      obtain ⟨function, member, -⟩ := registered
      cases member
  | append_singleton history last ih =>
      simp only [latest_append_singleton_iff]
      by_cases named : last.name = name
      · exact ⟨last, Or.inl ⟨rfl, named⟩⟩
      · obtain ⟨function, member, same⟩ := registered
        rcases List.mem_append.mp member with earlier | isLast
        · obtain ⟨found, latest⟩ := ih ⟨function, earlier, same⟩
          exact ⟨found, Or.inr ⟨named, latest⟩⟩
        · rw [List.mem_singleton.mp isLast] at same
          exact absurd same named

theorem registerAll_append_singleton (registry : Registry) (history : List Function)
    (last : Function) :
    registry.registerAll (history ++ [last]) = (registry.registerAll history).register last :=
  List.foldl_append

theorem function?_registerAll_iff (history : List Function) (name : Text) (function : Function) :
    (empty.registerAll history).function? name = some function ↔ Latest history name function := by
  induction history using List.reverseRecOn with
  | nil =>
      constructor
      · intro found
        cases found
      · intro latest
        cases latest.mem
  | append_singleton history last ih =>
      rw [registerAll_append_singleton, latest_append_singleton_iff]
      by_cases named : last.name = name
      · rw [← named, function?_register_self, Option.some_inj]
        simp
      · rw [function?_register_other _ _ _ (Ne.symm named), ih]
        simp [named]

theorem mem_names_iff (registry : Registry) (name : Text) :
    name ∈ registry.names ↔ registry.contains name = true := by
  rw [names, (List.mergeSort_perm _ _).mem_iff, contains, function?, Option.isSome_map,
    List.find?_isSome, List.mem_map]
  simp only [decide_eq_true_eq]

theorem names_pairwise (registry : Registry) : registry.names.Pairwise Text.Precedes := by
  have sorted := List.pairwise_mergeSort Text.bytesNotAfter_trans Text.bytesNotAfter_total
    (registry.entries.map Prod.fst)
  have distinct : registry.names.Nodup :=
    (List.mergeSort_perm _ _).nodup_iff.mpr registry.distinct
  refine (sorted.and distinct).imp ?_
  intro left right both
  exact Text.precedes_of_bytesNotAfter both.2 both.1

/-- The failure that names an unknown function comes of a name that is not registered, unless
the function of the name gives it as its own. -/
theorem call_eq_unknownFunction_iff (registry : Registry) (name : Text) (root : Json.Value)
    (params : Option Text) :
    registry.call name root params = .error (.unknownFunction name) ↔
      name ∉ registry.names ∨ ∃ function, registry.function? name = some function ∧
        function.call root params = .error (.unknownFunction name) := by
  have unlisted : name ∉ registry.names ↔ registry.function? name = none := by
    rw [mem_names_iff, contains, Bool.not_eq_true, Option.isSome_eq_false_iff,
      Option.isNone_iff_eq_none]
  rw [call_eq_error_iff, unlisted]
  constructor
  · intro refuses
    cases refuses with
    | unknown unregistered => exact Or.inl unregistered
    | failed registered gaveUp => exact Or.inr ⟨_, registered, gaveUp⟩
  · intro either
    rcases either with unregistered | ⟨function, registered, gaveUp⟩
    · exact .unknown unregistered
    · exact .failed registered gaveUp

structure Reflects (registry : Registry) (history : List Function) : Prop where
  /-- Under a name it has the function that was registered last. -/
  found : ∀ name function,
    registry.function? name = some function ↔ Latest history name function
  contained : ∀ name, registry.contains name = true ↔ ∃ function ∈ history, function.name = name
  /-- A call by name is a call of this function, or is refused if there is none. -/
  called : ∀ name function, Latest history name function → ∀ root params,
    registry.call name root params = function.call root params
  unknown : ∀ name, (∀ function ∈ history, function.name ≠ name) → ∀ root params,
    registry.call name root params = .error (.unknownFunction name)
  ordered : registry.names.Pairwise Text.Precedes
  listed : ∀ name, name ∈ registry.names ↔ registry.contains name = true
  named : ∀ name function, registry.function? name = some function → function.name = name
  refused : ∀ name root params,
    registry.call name root params = .error (.unknownFunction name) ↔
      name ∉ registry.names ∨ ∃ function, registry.function? name = some function ∧
        function.call root params = .error (.unknownFunction name)

theorem contains_registerAll_iff (history : List Function) (name : Text) :
    (empty.registerAll history).contains name = true ↔
      ∃ function ∈ history, function.name = name := by
  rw [contains, Option.isSome_iff_exists]
  simp only [function?_registerAll_iff]
  constructor
  · intro found
    obtain ⟨function, latest⟩ := found
    exact ⟨function, latest.mem, latest.name_eq⟩
  · exact exists_latest

theorem reflects_registerAll (history : List Function) :
    (empty.registerAll history).Reflects history where
  found := function?_registerAll_iff history
  contained := contains_registerAll_iff history
  called := by
    intro name function latest root params
    rw [call, (function?_registerAll_iff history name function).mpr latest]
  unknown := by
    intro name absent root params
    rw [call_eq_unknownFunction_iff, mem_names_iff, contains_registerAll_iff]
    refine Or.inl ?_
    intro registered
    obtain ⟨function, member, same⟩ := registered
    exact absent function member same
  ordered := names_pairwise _
  listed := mem_names_iff _
  named := fun _ _ => (named_empty.registerAll history).name_of_function?
  refused := call_eq_unknownFunction_iff _

end Registry
end JsonTemplate
