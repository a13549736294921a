import JsonTemplate.Proofs.Function.Escaping
import JsonTemplate.Proofs.Json.RoundTrip
import JsonTemplate.Proofs.Walk.Addresses
import Mathlib

set_option autoImplicit false

/-! Documents that are written and read again. What was read as a document of integers is
written by the function for JSON text as a text that is read as the same document, and so is
every array or object in it that a path comes to. -/

namespace JsonTemplate

open JsonTemplate.Json (Value Address)
open JsonTemplate.Placeholder

def Json.Value.Within (root value : Value) : Prop := ∃ address, root.at? address = some value

theorem Json.Value.read_compact_of_within {text : Text} {root value : Value}
    (accepted : Json.read text = .ok root) (integral : root.Integral)
    (within : root.Within value) : Json.read value.compact = .ok value := by
  obtain ⟨address, there⟩ := within
  exact Json.read_compact ((Json.readable_of_read accepted).at there) (integral.at there)

private theorem Outcome.text_structure {outcome : Outcome} {value : Value}
    (held : outcome.value? = some value) (structured : value.isStructure = true)
    (undefinedText : Text) : outcome.text undefinedText = value.compact := by
  rw [Outcome.text, held]
  cases value with
  | array items => rfl
  | object members => rfl
  | _ => cases structured

namespace Builtin

open JsonTemplate.Template (Writes writes_of_entryText)

theorem writes_json (root : Value) (undefinedText : Text) :
    Writes root registry undefinedText "__function:json".toList root.compact :=
  writes_of_entryText (by decide) rfl

private theorem within_subject {root : Value} {params : Option Text}
    (structured : (subject root params).isStructure = true) :
    root.Within (subject root params) := by
  unfold subject at structured ⊢
  split at structured
  · exact ⟨[], rfl⟩
  · exact ⟨[], rfl⟩
  · rename_i field named
    cases member : root.member? field with
    | none =>
        rw [member] at structured
        cases structured
    | some value => exact ⟨[.member field], (Value.at?_member root field).trans member⟩

private theorem eq_of_onString {change : Text → Text} {value : Value}
    (structured : (onString change value).isStructure = true) : onString change value = value := by
  cases value with
  | string text => cases structured
  | _ => rfl

private theorem eq_subject_of_stringFunction {name : Text} {change : Text → Text}
    {root value : Value}
    {params : Option Text} (made : (stringFunction name change).call root params = .ok value)
    (structured : value.isStructure = true) : value = subject root params := by
  cases made
  exact eq_of_onString structured

/-- No function that comes with the library makes an array or an object: what it gives is what
it was called for. -/
private theorem eq_subject_of_call {name : Text} {root value : Value} {params : Option Text}
    (called : registry.call name root params = .ok value) (structured : value.isStructure = true) :
    value = subject root params := by
  unfold Registry.call at called
  split at called
  · rename_i function found
    have listed : function ∈ [escapeTags, escapeMarkup, upper, lower, json] :=
      Registry.mem_functions_of_function? found
    simp only [List.mem_cons, List.not_mem_nil, or_false] at listed
    rcases listed with rfl | rfl | rfl | rfl | rfl
    · exact eq_subject_of_stringFunction called structured
    · exact eq_subject_of_stringFunction called structured
    · exact eq_subject_of_stringFunction called structured
    · exact eq_subject_of_stringFunction called structured
    · cases called
      cases structured
  · cases called

end Builtin

namespace Path

private theorem within_of_along {root value : Value} {accessor : Text} {accesses : List Access}
    (held : (Walk.along root accessor root accesses).value.value? = some value) :
    root.Within value := by
  cases came : (Walk.along root accessor root accesses).value with
  | absent =>
      rw [came] at held
      cases held
  | found goal =>
      rw [came] at held
      cases held
      obtain ⟨address, -, there⟩ := Walk.exists_leads_of_found came
      exact ⟨address, there⟩
  | standIn stand reason =>
      rw [came] at held
      cases held
      have ends := Walk.endsBefore_of_standIn came
      by_cases throughNull : reason = .readThroughNull
      · have describes := ends.describes
        rw [throughNull] at describes
        exact ⟨[], congrArg some (Eq.symm describes)⟩
      · exact ends.inside throughNull

theorem within_of_resolve {path : Path} {root value : Value} {accessor : Text}
    {registry : Registry} {outcome : Outcome}
    (builtin : path.HasCall → registry = Builtin.registry)
    (resolved : (path.resolve root accessor registry).value = .ok outcome)
    (held : outcome.value? = some value) (structured : value.isStructure = true) :
    root.Within value := by
  by_cases call : path.HasCall
  · obtain ⟨name, params, first⟩ := exists_firstCall call
    rw [resolve_eq_call first, builtin call] at resolved
    dsimp only [Reported.silent] at resolved
    cases called : Builtin.registry.call name root params with
    | error failure =>
        rw [called] at resolved
        cases resolved
    | ok made =>
        rw [called] at resolved
        cases resolved
        cases held
        obtain rfl := Builtin.eq_subject_of_call called structured
        exact Builtin.within_subject structured
  · rw [resolve_of_not_hasCall call] at resolved
    cases resolved
    exact within_of_along held

end Path

structure ReadBack (root : Value) : Prop where
  rendered : ∀ options, ∃ written,
    Template.render (token "__function:json".toList) root Builtin.registry options =
      .silent (.ok written) ∧ Json.read written = .ok root
  /-- A path to an array or an object may call the functions that come with the library. -/
  resolved : ∀ (path : Path) accessor registry outcome value undefinedText,
    (path.HasCall → registry = Builtin.registry) →
      (path.resolve root accessor registry).value = .ok outcome →
        outcome.value? = some value → value.isStructure = true →
          Json.read (outcome.text undefinedText) = .ok value

theorem documents_readBack {text : Text} {root : Value} (accepted : Json.read text = .ok root)
    (integral : root.Integral) : ReadBack root where
  rendered := by
    intro options
    refine ⟨root.compact, (Builtin.writes_json root options.undefinedText).alone _, ?_⟩
    exact Value.read_compact_of_within accepted integral ⟨[], rfl⟩
  resolved := by
    intro path accessor registry outcome value undefinedText builtin resolved held structured
    rw [Outcome.text_structure held structured]
    exact Value.read_compact_of_within accepted integral
      (Path.within_of_resolve builtin resolved held structured)

/-- The least and the greatest integer, a key that is written twice, characters that need an
escape, and a record whose member is an array. -/
theorem documents_readBack_sample :
    let text := "\x7b\"k\":0, \"l\":[\x7b\"v\":[-9223372036854775808,".toList ++
      "18446744073709551615]\x7d],\"k\":\"\\u001f\\/\\\"\"\x7d".toList
    let array : Value := .array
      [.number (.integer (-9223372036854775808) (by decide)),
        .number (.integer 18446744073709551615 (by decide))]
    let root : Value := .object
      [(['k'], .string ['\x1f', '/', '"']), (['l'], .array [.object [(['v'], array)]])]
    Json.read text = .ok root ∧ root.Integral ∧
      (∃ written, Template.render (token "__function:json".toList) root Builtin.registry
        Options.standard = .silent (.ok written) ∧ Json.read written = .ok root) ∧
      Json.read ((Outcome.found array).text []) = .ok array := by
  intro text array root
  have accepted : Json.read text = .ok root := by
    unfold text root array
    cbv
  have integral : root.Integral := by
    unfold Value.Integral
    decide
  have back := documents_readBack accepted integral
  have picked : ((Path.ofText "l:v[]".toList).resolve root [] Registry.empty).value =
      .ok (.found array) := rfl
  have noCall : (Path.ofText "l:v[]".toList).HasCall → Registry.empty = Builtin.registry := by
    rintro ⟨name, params, call⟩
    cases call with
    | tail _ call => cases call
  exact ⟨accepted, integral, back.rendered _,
    back.resolved _ _ _ _ array [] noCall picked rfl rfl⟩

end JsonTemplate
