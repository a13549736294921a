import JsonTemplate.Reported
import JsonTemplate.Text.Characters
import JsonTemplate.Text.Replace

set_option autoImplicit false

/-! Functions that an application makes known to its templates under a name, and those that
come with the library. A registry holds at most one function of each name; registering another
one of the same name replaces it. Handles of registries share their storage until one of them
is written to: a handle is a position in the list of handles and points to a cell that holds a
registry, a copy of it points to the same cell, and a handle that registers a function changes its
cell in place if no other handle points to it, and moves to a cell of its own otherwise. -/

namespace JsonTemplate

structure Function where
  name : Text
  call : Json.Value → Option Text → Except Failure Json.Value

structure Registry where
  entries : List (Text × Function)
  distinct : (entries.map Prod.fst).Nodup

namespace Registry

def empty : Registry := ⟨[], List.nodup_nil⟩

def others (entries : List (Text × Function)) (key : Text) : List (Text × Function) :=
  entries.filter (fun entry => decide (entry.1 ≠ key))

private theorem key_not_mem_others (entries : List (Text × Function)) (key : Text) :
    key ∉ (others entries key).map Prod.fst := by
  simp only [others, List.mem_map, List.mem_filter, decide_eq_true_eq, not_exists, not_and]
  intro entry kept same
  exact kept.2 same

private theorem others_distinct (entries : List (Text × Function)) (key : Text)
    (distinct : (entries.map Prod.fst).Nodup) : ((others entries key).map Prod.fst).Nodup :=
  List.Pairwise.sublist (List.Sublist.map _ List.filter_sublist) distinct

def register (registry : Registry) (function : Function) : Registry where
  entries := (function.name, function) :: others registry.entries function.name
  distinct := by
    rw [List.map_cons, List.nodup_cons]
    exact ⟨key_not_mem_others _ _, others_distinct _ _ registry.distinct⟩

def registerAll (registry : Registry) (functions : List Function) : Registry :=
  functions.foldl register registry

def function? (registry : Registry) (name : Text) : Option Function :=
  (registry.entries.find? (fun entry => decide (entry.1 = name))).map Prod.snd

def functions (registry : Registry) : List Function := registry.entries.map Prod.snd

def contains (registry : Registry) (name : Text) : Bool := (registry.function? name).isSome

/-- The keys, in the order of their bytes. -/
def names (registry : Registry) : List Text :=
  (registry.entries.map Prod.fst).mergeSort
    (fun left right => Text.bytesNotAfter (Text.utf8 left) (Text.utf8 right))

def call (registry : Registry) (name : Text) (root : Json.Value) (params : Option Text) :
    Except Failure Json.Value :=
  match registry.function? name with
  | some function => function.call root params
  | none => .error (.unknownFunction name)

def text (registry : Registry) : Text :=
  "Registry \x7b functions: [".toList ++
    Text.joined [',', ' '] (registry.names.map Text.quoted) ++ "] \x7d".toList

theorem function?_register_self (registry : Registry) (function : Function) :
    (registry.register function).function? function.name = some function := by
  simp [function?, register]

theorem function?_register_other (registry : Registry) (function : Function) (name : Text)
    (different : name ≠ function.name) :
    (registry.register function).function? name = registry.function? name := by
  have skipped : (fun entry : Text × Function =>
      decide (decide (entry.1 ≠ function.name) = true ∧ decide (entry.1 = name) = true)) =
        fun entry => decide (entry.1 = name) := by
    funext entry
    by_cases found : entry.1 = name
    · simp [found, different]
    · simp [found]
  rw [function?, register, List.find?_cons_of_neg (by simp [Ne.symm different]), others,
    List.find?_filter, skipped]
  rfl

/-- Whether what is found under a key bears it as its name. -/
def Named (registry : Registry) : Prop := ∀ entry ∈ registry.entries, entry.2.name = entry.1

theorem named_empty : empty.Named := nofun

theorem Named.register {registry : Registry} (named : registry.Named) (function : Function) :
    (registry.register function).Named := by
  rw [Named, Registry.register, List.forall_mem_cons]
  exact ⟨rfl, fun entry kept => named entry (List.mem_filter.mp kept).1⟩

theorem Named.registerAll {registry : Registry} (named : registry.Named)
    (functions : List Function) : (registry.registerAll functions).Named := by
  induction functions generalizing registry with
  | nil => exact named
  | cons function rest ih => exact ih (named.register function)

theorem Named.name_of_function? {registry : Registry} (named : registry.Named) {name : Text}
    {function : Function} (found : registry.function? name = some function) :
    function.name = name := by
  rw [function?, Option.map_eq_some_iff] at found
  obtain ⟨entry, there, rfl⟩ := found
  have key := List.find?_some there
  rw [decide_eq_true_eq] at key
  rw [named entry (List.mem_of_find?_eq_some there), key]

end Registry

/-- All cells, and for each handle the position of its cell. -/
structure Registries where
  cells : List Registry
  handles : List Nat

namespace Registries

def empty : Registries := ⟨[], []⟩

def fresh (registries : Registries) (registry : Registry) : Registries :=
  ⟨registries.cells ++ [registry], registries.handles ++ [registries.cells.length]⟩

def share (registries : Registries) (handle : Nat) : Registries :=
  match registries.handles[handle]? with
  | some cell => { registries with handles := registries.handles ++ [cell] }
  | none => registries

def registry (registries : Registries) (handle : Nat) : Registry :=
  match registries.handles[handle]? with
  | some cell => registries.cells[cell]?.getD Registry.empty
  | none => Registry.empty

def register (registries : Registries) (handle : Nat) (function : Function) : Registries :=
  match registries.handles[handle]? with
  | none => registries
  | some cell =>
      if registries.handles.count cell = 1 then
        { registries with
          cells := registries.cells.modify cell (fun registry => registry.register function) }
      else
        { cells := registries.cells ++ [(registries.registry handle).register function]
          handles := registries.handles.set handle registries.cells.length }

def names (registries : Registries) : List (List Text) :=
  (List.range registries.handles.length).map (fun handle => (registries.registry handle).names)

end Registries

namespace Builtin

open JsonTemplate.Json (Value)

/-- What a call works on: the member that the parameters name, null if there is none, or
the document itself. -/
def subject (root : Value) (params : Option Text) : Value :=
  match params with
  | none => root
  | some [] => root
  | some field => (root.member? field).getD .null

def onString (change : Text → Text) : Value → Value
  | .string text => .string (change text)
  | other => other

def stringFunction (name : Text) (change : Text → Text) : Function :=
  ⟨name, fun root params => .ok (onString change (subject root params))⟩

def json : Function :=
  ⟨"json".toList, fun root params => .ok (.string (subject root params).compact)⟩

def lower : Function := stringFunction "lower".toList Text.lower

def upper : Function := stringFunction "upper".toList Text.upper

def escapeMarkup : Function := stringFunction "escape_xml".toList Text.Entities.escape

def escapeTags : Function := stringFunction "escape_tags".toList Text.Entities.escapeTags

def all : List Function := [json, lower, upper, escapeMarkup, escapeTags]

def registry : Registry := Registry.empty.registerAll all

end Builtin
end JsonTemplate
