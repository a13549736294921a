import JsonTemplate.Function
import JsonTemplate.Proofs.Function.Calls
import Mathlib.Data.List.NodupEquivFin

set_option autoImplicit false

/-! Handles of registries that share their storage behave as if each had a registry of its
own. The history of a handle is the row of the registrations that were made through it or
that it got as a copy; nothing that is done through another handle enters it. After every
run of operations each handle holds what its own history says. -/

namespace JsonTemplate.Registries

open Registry (Reflects)

inductive Operation where
  /-- A new handle to an empty registry. -/
  | fresh
  /-- A new handle to the functions that come with the library. -/
  | builtin
  | share (handle : Nat)
  | register (handle : Nat) (function : Function)

def perform (registries : Registries) : Operation → Registries
  | .fresh => registries.fresh Registry.empty
  | .builtin => registries.fresh Builtin.registry
  | .share handle => registries.share handle
  | .register handle function => registries.register handle function

def performAll (registries : Registries) (operations : List Operation) : Registries :=
  operations.foldl perform registries

def run (operations : List Operation) : Registries := empty.performAll operations

def recorded (histories : List (List Function)) : Operation → List (List Function)
  | .fresh => histories ++ [[]]
  | .builtin => histories ++ [Builtin.all]
  | .share handle =>
      match histories[handle]? with
      | some history => histories ++ [history]
      | none => histories
  | .register handle function =>
      histories.modify handle (fun history => history ++ [function])

def recordedAll (histories : List (List Function)) (operations : List Operation) :
    List (List Function) :=
  operations.foldl recorded histories

def history (operations : List Operation) (handle : Nat) : List Function :=
  (recordedAll [] operations)[handle]?.getD []

def WellFormed (registries : Registries) : Prop :=
  ∀ cell ∈ registries.handles, cell < registries.cells.length

def held (cells : List Registry) (cell : Nat) : Registry := cells[cell]?.getD Registry.empty

/-- The registry of each handle, without the cells that they share. -/
def shown (registries : Registries) : List Registry :=
  registries.handles.map (held registries.cells)

private theorem getElem?_shown (registries : Registries) (handle : Nat) :
    registries.shown[handle]? = registries.handles[handle]?.map (held registries.cells) :=
  List.getElem?_map

private theorem registry_eq (registries : Registries) (handle : Nat) :
    registries.registry handle = registries.shown[handle]?.getD Registry.empty := by
  rw [registry, getElem?_shown]
  cases registries.handles[handle]? with
  | none => rfl
  | some cell => rfl

variable {registries : Registries}

private theorem held_append (cells : List Registry) (last : Registry) {cell : Nat}
    (present : cell < cells.length) : held (cells ++ [last]) cell = held cells cell := by
  rw [held, held, List.getElem?_append_left present]

private theorem held_append_length (cells : List Registry) (last : Registry) :
    held (cells ++ [last]) cells.length = last := by
  rw [held, List.getElem?_concat_length]
  rfl

private theorem map_held_append (wellFormed : registries.WellFormed) (last : Registry) :
    registries.handles.map (held (registries.cells ++ [last])) = registries.shown :=
  List.map_congr_left (fun cell member => held_append _ _ (wellFormed cell member))

private theorem shown_fresh (wellFormed : registries.WellFormed) (registry : Registry) :
    (registries.fresh registry).shown = registries.shown ++ [registry] := by
  rw [fresh, shown, List.map_append, map_held_append wellFormed, List.map_singleton,
    held_append_length]

private theorem shown_share (registries : Registries) (handle : Nat) :
    (registries.share handle).shown =
      match registries.shown[handle]? with
      | some registry => registries.shown ++ [registry]
      | none => registries.shown := by
  rw [share, getElem?_shown]
  cases registries.handles[handle]? with
  | none => rfl
  | some cell => exact List.map_append

private theorem not_lt_of_count_eq_one {handles : List Nat} {cell first second : Nat}
    (single : handles.count cell = 1) (points : handles[first]? = some cell)
    (pointsToo : handles[second]? = some cell) : ¬ first < second := by
  intro before
  obtain ⟨inRange, atFirst⟩ := List.getElem?_eq_some_iff.mp points
  obtain ⟨inRangeToo, atSecond⟩ := List.getElem?_eq_some_iff.mp pointsToo
  have twice : List.Duplicate cell handles :=
    List.duplicate_iff_exists_distinct_get.mpr
      ⟨⟨first, inRange⟩, ⟨second, inRangeToo⟩, before, atFirst.symm, atSecond.symm⟩
  have least := List.duplicate_iff_two_le_count.mp twice
  omega

private theorem eq_of_count_eq_one {handles : List Nat} {cell first second : Nat}
    (single : handles.count cell = 1) (points : handles[first]? = some cell)
    (pointsToo : handles[second]? = some cell) : first = second :=
  Nat.le_antisymm (Nat.not_lt.mp (not_lt_of_count_eq_one single pointsToo points))
    (Nat.not_lt.mp (not_lt_of_count_eq_one single points pointsToo))

private theorem held_modify (cells : List Registry) (change : Registry → Registry) {cell : Nat}
    (present : cell < cells.length) (other : Nat) :
    held (cells.modify cell change) other =
      if cell = other then change (held cells other) else held cells other := by
  rw [held, held, List.getElem?_modify]
  by_cases same : cell = other
  · subst same
    rw [List.getElem?_eq_getElem present]
    simp
  · simp [same]

private theorem shown_inPlace {handle cell : Nat} (change : Registry → Registry)
    (wellFormed : registries.WellFormed) (points : registries.handles[handle]? = some cell)
    (single : registries.handles.count cell = 1) :
    registries.handles.map (held (registries.cells.modify cell change)) =
      registries.shown.modify handle change := by
  have present : cell < registries.cells.length :=
    wellFormed cell (List.mem_of_getElem? points)
  refine List.ext_getElem? ?_
  intro position
  rw [List.getElem?_modify, getElem?_shown, List.getElem?_map]
  cases found : registries.handles[position]? with
  | none => rfl
  | some other =>
      -- no other handle points to the cell, so writing to it is writing through this handle
      have sameHandle : cell = other ↔ handle = position := by
        constructor
        · intro sameCell
          rw [← sameCell] at found
          exact eq_of_count_eq_one single points found
        · intro sameHandle
          rw [← sameHandle] at found
          exact Option.some.inj (points.symm.trans found)
      simp only [Option.map_some, Option.map_eq_map, held_modify _ _ present, sameHandle]

variable {handle : Nat}

theorem register_of_absent (absent : registries.handles[handle]? = none) (function : Function) :
    registries.register handle function = registries := by
  rw [register, absent]

theorem register_of_alone {cell : Nat} (points : registries.handles[handle]? = some cell)
    (single : registries.handles.count cell = 1) (function : Function) :
    registries.register handle function =
      ⟨registries.cells.modify cell (fun registry => registry.register function),
        registries.handles⟩ := by
  rw [register, points]
  exact if_pos single

theorem register_of_shared {cell : Nat} (points : registries.handles[handle]? = some cell)
    (several : registries.handles.count cell ≠ 1) (function : Function) :
    registries.register handle function =
      ⟨registries.cells ++ [(held registries.cells cell).register function],
        registries.handles.set handle registries.cells.length⟩ := by
  have own : registries.registry handle = held registries.cells cell := by
    rw [registry, points]
    rfl
  rw [register, points, own]
  exact if_neg several

theorem shown_register (wellFormed : registries.WellFormed) (handle : Nat)
    (function : Function) :
    (registries.register handle function).shown =
      registries.shown.modify handle (fun registry => registry.register function) := by
  have seen := getElem?_shown registries handle
  cases points : registries.handles[handle]? with
  | none =>
      rw [points] at seen
      rw [register_of_absent points, List.modify_eq_self (List.getElem?_eq_none_iff.mp seen)]
  | some cell =>
      by_cases single : registries.handles.count cell = 1
      · rw [register_of_alone points single]
        exact shown_inPlace _ wellFormed points single
      · -- the others keep the old cell, and the new one holds a copy of it
        rw [register_of_shared points single, List.modify_eq_set_getElem?, seen, points, shown,
          List.map_set, map_held_append wellFormed, held_append_length]
        rfl

private theorem wellFormed_fresh (wellFormed : registries.WellFormed) (registry : Registry) :
    (registries.fresh registry).WellFormed := by
  rw [WellFormed, fresh, List.length_append, List.length_singleton, List.forall_mem_append,
    List.forall_mem_singleton]
  exact ⟨fun cell old => Nat.lt_succ_of_lt (wellFormed cell old), Nat.lt_succ_self _⟩

private theorem wellFormed_share (wellFormed : registries.WellFormed) (handle : Nat) :
    (registries.share handle).WellFormed := by
  rw [share]
  cases points : registries.handles[handle]? with
  | none => exact wellFormed
  | some copied =>
      rw [WellFormed, List.forall_mem_append, List.forall_mem_singleton]
      exact ⟨wellFormed, wellFormed copied (List.mem_of_getElem? points)⟩

private theorem wellFormed_register (wellFormed : registries.WellFormed) (handle : Nat)
    (function : Function) : (registries.register handle function).WellFormed := by
  cases points : registries.handles[handle]? with
  | none =>
      rw [register_of_absent points]
      exact wellFormed
  | some shared =>
      by_cases single : registries.handles.count shared = 1
      · rw [register_of_alone points single, WellFormed, List.length_modify]
        exact wellFormed
      · rw [register_of_shared points single, WellFormed, List.length_append,
          List.length_singleton]
        intro cell member
        rcases List.mem_or_eq_of_mem_set member with old | moved
        · exact Nat.lt_succ_of_lt (wellFormed cell old)
        · rw [moved]
          exact Nat.lt_succ_self _

structure Follows (registries : Registries) (histories : List (List Function)) : Prop where
  wellFormed : registries.WellFormed
  shown : registries.shown = histories.map Registry.empty.registerAll

theorem follows_empty : Follows empty [] := ⟨nofun, rfl⟩

private theorem map_modify_registerAll (histories : List (List Function)) (handle : Nat)
    (function : Function) :
    (histories.modify handle (fun history => history ++ [function])).map
        Registry.empty.registerAll =
      (histories.map Registry.empty.registerAll).modify handle
        (fun registry => registry.register function) := by
  refine List.ext_getElem? ?_
  intro position
  rw [List.getElem?_map, List.getElem?_modify, List.getElem?_modify, List.getElem?_map]
  cases histories[position]? with
  | none => rfl
  | some history =>
      simp only [Option.map_some, Option.map_eq_map]
      split
      · rw [Registry.registerAll_append_singleton]
      · rfl

theorem Follows.perform {histories : List (List Function)} (follows : Follows registries histories)
    (operation : Operation) :
    Follows (registries.perform operation) (recorded histories operation) := by
  obtain ⟨wellFormed, shows⟩ := follows
  cases operation with
  | fresh =>
      refine ⟨wellFormed_fresh wellFormed _, ?_⟩
      rw [Registries.perform, shown_fresh wellFormed, shows, recorded, List.map_append]
      rfl
  | builtin =>
      refine ⟨wellFormed_fresh wellFormed _, ?_⟩
      rw [Registries.perform, shown_fresh wellFormed, shows, recorded, List.map_append]
      rfl
  | share handle =>
      refine ⟨wellFormed_share wellFormed handle, ?_⟩
      rw [Registries.perform, shown_share, shows, recorded, List.getElem?_map]
      cases histories[handle]? with
      | none => rfl
      | some history =>
          rw [List.map_append]
          rfl
  | register handle function =>
      refine ⟨wellFormed_register wellFormed handle function, ?_⟩
      rw [Registries.perform, shown_register wellFormed, shows, recorded, map_modify_registerAll]

theorem Follows.performAll {histories : List (List Function)}
    (follows : Follows registries histories) (operations : List Operation) :
    Follows (registries.performAll operations) (recordedAll histories operations) := by
  induction operations generalizing registries histories with
  | nil => exact follows
  | cons operation rest ih => exact ih (follows.perform operation)

theorem follows_run (operations : List Operation) :
    Follows (run operations) (recordedAll [] operations) :=
  follows_empty.performAll operations

theorem registry_run (operations : List Operation) (handle : Nat) :
    (run operations).registry handle = Registry.empty.registerAll (history operations handle) := by
  rw [registry_eq, (follows_run operations).shown, List.getElem?_map, history]
  cases (recordedAll [] operations)[handle]? with
  | none => rfl
  | some history => rfl

private theorem length_recordedAll (operations : List Operation) :
    (recordedAll [] operations).length = (run operations).handles.length := by
  have shows := congrArg List.length (follows_run operations).shown
  rw [shown, List.length_map, List.length_map] at shows
  exact shows.symm

/-- An operation leaves a history alone, unless it is a registration through its handle. -/
theorem getElem?_recorded {histories : List (List Function)} (present : handle < histories.length)
    {operation : Operation} (elsewhere : ∀ function, operation ≠ .register handle function) :
    (recorded histories operation)[handle]? = histories[handle]? := by
  cases operation with
  | fresh => exact List.getElem?_append_left present
  | builtin => exact List.getElem?_append_left present
  | share copied =>
      rw [recorded]
      cases histories[copied]? with
      | none => rfl
      | some history => exact List.getElem?_append_left present
  | register other function =>
      have apart : other ≠ handle := by
        intro same
        exact elsewhere function (by rw [same])
      exact List.getElem?_modify_ne _ _ apart

private theorem getElem?_recordedAll {histories : List (List Function)}
    (present : handle < histories.length) {operations : List Operation}
    (elsewhere : ∀ function, .register handle function ∉ operations) :
    (recordedAll histories operations)[handle]? = histories[handle]? := by
  induction operations generalizing histories with
  | nil => rfl
  | cons operation rest ih =>
      have later : ∀ function, .register handle function ∉ rest :=
        fun function member => elsewhere function (List.mem_cons_of_mem _ member)
      have first : (recorded histories operation)[handle]? = histories[handle]? := by
        refine getElem?_recorded present ?_
        intro function same
        rw [same] at elsewhere
        exact elsewhere function List.mem_cons_self
      have presentAfter : handle < (recorded histories operation).length := by
        rw [List.getElem?_eq_getElem present] at first
        exact (List.getElem?_eq_some_iff.mp first).1
      exact (ih presentAfter later).trans first

/-- After every run a handle shows what was registered through it or came to it as a copy, and
whatever is done afterwards without a registration through it does not change what it shows. -/
theorem handles_independent (operations : List Operation) :
    (∀ handle, ((run operations).registry handle).Reflects (history operations handle)) ∧
      ∀ handle more, handle < (run operations).handles.length →
        (∀ function, .register handle function ∉ more) →
          (run (operations ++ more)).registry handle = (run operations).registry handle := by
  constructor
  · intro handle
    rw [registry_run]
    exact Registry.reflects_registerAll _
  · intro handle more present elsewhere
    rw [← length_recordedAll] at present
    have further : recordedAll [] (operations ++ more) =
        recordedAll (recordedAll [] operations) more := List.foldl_append
    rw [registry_run, registry_run, history, history, further,
      getElem?_recordedAll present elsewhere]

/-- A copy of a handle that goes on by itself, and a copy of the copy. -/
theorem handles_independent_sample :
    let first : Function := ⟨['f'], fun _ _ => .ok .null⟩
    let second : Function := ⟨['f'], fun root _ => .ok root⟩
    let operations : List Operation := [.builtin, .share 0, .register 1 first]
    let more : List Operation := [.share 1, .register 1 second, .share 0]
    0 < (run operations).handles.length ∧ (∀ function, .register 0 function ∉ more) ∧
      (run (operations ++ more)).registry 0 = (run operations).registry 0 ∧
      ((run (operations ++ more)).registry 0).contains ['f'] = false ∧
      ((run (operations ++ more)).registry 1).function? ['f'] = some second ∧
      ((run (operations ++ more)).registry 2).function? ['f'] = some first ∧
      ∀ root, ((run (operations ++ more)).registry 3).call ['f'] root none =
        .error (.unknownFunction ['f']) := by
  intro first second operations more
  have elsewhere : ∀ function, .register 0 function ∉ more := by
    intro function member
    simp [more] at member
  have present : 0 < (run operations).handles.length := by decide
  have frame := (handles_independent operations).2 0 more present elsewhere
  have reflects := (handles_independent (operations ++ more)).1
  refine ⟨present, elsewhere, frame, ?_, ?_, ?_, ?_⟩
  · have unnamed : ¬ ∃ function ∈ Builtin.all, function.name = ['f'] := by decide
    exact Bool.eq_false_iff.mpr (mt ((reflects 0).contained ['f']).mp unnamed)
  · exact ((reflects 1).found ['f'] second).mpr ⟨Builtin.all ++ [first], [], rfl, rfl, nofun⟩
  · exact ((reflects 2).found ['f'] first).mpr ⟨Builtin.all, [], rfl, rfl, nofun⟩
  · intro root
    exact (reflects 3).unknown ['f'] (by decide) root none

end JsonTemplate.Registries
