import JsonTemplate.Json.Value

set_option autoImplicit false

/-! Where a value lies in a document: the keys and positions that lead down to it. What lies
below the top of a document is smaller than the document, so it is never the whole of it. -/

namespace JsonTemplate.Json

inductive Key where
  | member (name : Text)
  | item (index : Nat)
  deriving DecidableEq

abbrev Address := List Key

namespace Value

def child? : Key → Value → Option Value
  | .member name, value => value.member? name
  | .item index, .array items => items[index]?
  | .item _, _ => none

/-- The value that lies at an address, if the document reaches that far. -/
def at? (value : Value) : Address → Option Value
  | [] => some value
  | key :: rest => (value.child? key).bind (fun child => child.at? rest)

theorem at?_cons {value child : Value} {key : Key} (below : value.child? key = some child)
    (rest : Address) : value.at? (key :: rest) = child.at? rest := by
  rw [at?, below]
  rfl

theorem at?_member (value : Value) (name : Text) :
    value.at? [.member name] = value.member? name :=
  Option.bind_fun_some _

theorem at?_append_eq_some_iff {value found : Value} {first second : Address} :
    value.at? (first ++ second) = some found ↔
      ∃ between, value.at? first = some between ∧ between.at? second = some found := by
  induction first generalizing value with
  | nil =>
      constructor
      · intro there
        exact ⟨value, rfl, there⟩
      · rintro ⟨between, same, there⟩
        cases same
        exact there
  | cons key rest ih =>
      rw [List.cons_append, at?, at?]
      cases value.child? key with
      | none => exact ⟨nofun, fun ⟨_, there, _⟩ => nomatch there⟩
      | some child => exact ih

private theorem sizeOf_lt_of_lookup {key : Text} {members : List (Text × Value)} {found : Value}
    (there : lookup key members = some found) : sizeOf found < sizeOf members := by
  induction members with
  | nil => cases there
  | cons entry rest ih =>
      obtain ⟨name, value⟩ := entry
      rw [lookup] at there
      simp only [List.cons.sizeOf_spec, Prod.mk.sizeOf_spec]
      split at there
      · cases there
        omega
      · have later := ih there
        omega

private theorem sizeOf_lt_of_child? {key : Key} {value child : Value}
    (below : value.child? key = some child) : sizeOf child < sizeOf value := by
  cases key with
  | member name =>
      change value.member? name = some child at below
      cases value with
      | object members =>
          have inside := sizeOf_lt_of_lookup below
          rw [object.sizeOf_spec]
          omega
      | null => cases below
      | bool flag => cases below
      | number figure => cases below
      | string text => cases below
      | array items => cases below
  | item index =>
      cases value with
      | array items =>
          have inside := List.sizeOf_lt_of_mem (List.mem_of_getElem? below)
          rw [array.sizeOf_spec]
          omega
      | null => cases below
      | bool flag => cases below
      | number figure => cases below
      | string text => cases below
      | object members => cases below

private theorem sizeOf_le_of_at? {value found : Value} {address : Address}
    (there : value.at? address = some found) : sizeOf found ≤ sizeOf value := by
  induction address generalizing value with
  | nil =>
      cases there
      exact Nat.le_refl _
  | cons key rest ih =>
      obtain ⟨child, below, further⟩ := Option.bind_eq_some_iff.mp there
      exact Nat.le_of_lt (Nat.lt_of_le_of_lt (ih further) (sizeOf_lt_of_child? below))

/-- A document does not lie inside itself. -/
theorem ne_of_at?_cons {value found : Value} {key : Key} {rest : Address}
    (there : value.at? (key :: rest) = some found) : found ≠ value := by
  obtain ⟨child, below, further⟩ := Option.bind_eq_some_iff.mp there
  have smaller := Nat.lt_of_le_of_lt (sizeOf_le_of_at? further) (sizeOf_lt_of_child? below)
  intro same
  rw [same] at smaller
  exact Nat.lt_irrefl _ smaller

end Value
end JsonTemplate.Json
