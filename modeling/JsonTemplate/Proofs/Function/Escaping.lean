import JsonTemplate.Function
import JsonTemplate.Proofs.Function.Calls
import JsonTemplate.Proofs.Json.Texts
import JsonTemplate.Proofs.Path.Canonical
import JsonTemplate.Proofs.Template.SinglePass
import JsonTemplate.Proofs.Text.Entities

set_option autoImplicit false

/-! What the escaping functions protect. A string is escaped, and no other value that is
written without quotes needs to be. An array or an object is not escaped: it is written as
the compact document that it is, with the quotes of its strings and keys and whatever stands
between them. -/

namespace JsonTemplate

open JsonTemplate.Json (Value AllMarks isMark)
open JsonTemplate.Placeholder
open JsonTemplate.Brackets

def Json.Value.isStructure : Value → Bool
  | .array _ => true
  | .object _ => true
  | _ => false

namespace Path

/-- A call by itself is read as the call, with points in its parameters or without. -/
private theorem firstCall_ofText_call {name : Text} {params : Option Text} (unopened : '[' ∉ name)
    (uncut : '.' ∉ name) (unclosed : ']' ∉ params.getD []) :
    (ofText (Step.call name params).text).FirstCall name params := by
  have marked : Undivided '.' 0 (callMark ++ name) := by
    apply undivided_of_not_mem
    rw [List.mem_append, not_or]
    exact ⟨by decide, uncut⟩
  have undivided : Undivided '.' 0 (Step.call name params).text := by
    rw [Step.text_call, ← List.append_assoc, undivided_append]
    exact ⟨marked, undivided_bracketed_of_not_mem rfl _ unclosed⟩
  have canonical : Canonical ⟨[.call name params]⟩ :=
    { nonempty := List.cons_ne_nil _ _
      steps := List.forall_mem_singleton.mpr unopened
      undivided := List.forall_mem_singleton.mpr undivided
      closed := nofun }
  have same : ofText (Step.call name params).text = ⟨[.call name params]⟩ := ofText_text canonical
  exact ⟨[], [], by rw [same]; rfl, nofun⟩

end Path

namespace Builtin

open JsonTemplate.Template (Writes writes_of_entryText entryText)
open JsonTemplate.Text.Entities

variable {root : Value} {undefinedText inner : Text} {params : Option Text}

def textOnString (change : Text → Text) (undefinedText : Text) (value : Value) : Text :=
  (Outcome.found (onString change value)).text undefinedText

theorem writes_textOnString {name : Text} {change : Text → Text}
    (registered : registry.function? name = some (stringFunction name change))
    (valid : IsPathText inner) (call : (Path.ofText inner).FirstCall name params) :
    Writes root registry undefinedText inner
      (textOnString change undefinedText (subject root params)) := by
  apply writes_of_entryText valid
  unfold entryText
  dsimp only [Template.entryOf]
  rw [Path.resolve_of_firstCall call registered]
  rfl

private theorem textOnString_structure (change : Text → Text) (undefinedText : Text) {value : Value}
    (structured : value.isStructure = true) :
    textOnString change undefinedText value = value.compact := by
  cases value with
  | array items => rfl
  | object members => rfl
  | _ => cases structured

private theorem textOnString_scalar {change : Text → Text} {undefinedText : Text}
    {safe : Text → Prop} (changed : ∀ text, safe (change text)) (undefined : safe undefinedText)
    (marks : ∀ text, AllMarks text → safe text) {value : Value}
    (scalar : value.isStructure = false) : safe (textOnString change undefinedText value) := by
  cases value with
  | null => exact undefined
  | bool value => exact marks _ (Json.Value.allMarks_compact rfl)
  | number value => exact marks _ (Json.Value.allMarks_compact rfl)
  | string text => exact changed text
  | array items => cases scalar
  | object members => cases scalar

/-- What a call of a function on strings writes, for a property that such a function gives
to every string and that marks do not take away. -/
theorem exists_writes_textOnString {name : Text} {change : Text → Text} {safe : Text → Prop}
    {clean : Value → Prop}
    (registered : registry.function? name = some (stringFunction name change))
    (changed : ∀ text, safe (change text)) (undefined : safe undefinedText)
    (marks : ∀ text, AllMarks text → safe text)
    (compact : ∀ value : Value, safe value.compact ↔ clean value)
    (valid : IsPathText inner) (call : (Path.ofText inner).FirstCall name params) :
    let value := subject root params
    ∃ text, Writes root registry undefinedText inner text ∧
      (value.isStructure = false → safe text) ∧
      (value.isStructure = true → text = value.compact ∧ (safe text ↔ clean value)) := by
  intro value
  refine ⟨textOnString change undefinedText value, writes_textOnString registered valid call,
    ?_, ?_⟩
  · exact textOnString_scalar changed undefined marks
  · intro structured
    rw [textOnString_structure change undefinedText structured]
    exact ⟨rfl, compact value⟩

private theorem escaped_of_allMarks {text : Text} (marks : AllMarks text) : Escaped text := by
  have noMarks : ∀ entry ∈ entities, isMark entry.1 = false := by decide
  apply escaped_of_disjoint
  intro entry listed
  exact marks.not_mem (noMarks entry listed)

theorem escaped_compact_iff (value : Value) : Escaped value.compact ↔ value.texts = [] := by
  constructor
  · intro escaped
    have absent : '"' ∉ value.compact := escaped.unreserved '"' (by decide)
    rw [Json.Value.quote_mem_compact_iff, not_not] at absent
    exact absent
  · intro none
    exact escaped_of_allMarks (Json.Value.allMarks_compact none)

def Untagged (text : Text) : Prop := '<' ∉ text ∧ '>' ∉ text

instance (text : Text) : Decidable (Untagged text) := inferInstanceAs (Decidable (_ ∧ _))

private theorem untagged_of_allMarks {text : Text} (marks : AllMarks text) : Untagged text :=
  ⟨marks.not_mem (by decide), marks.not_mem (by decide)⟩

theorem untagged_compact_iff (value : Value) :
    Untagged value.compact ↔ ∀ text ∈ value.texts, Untagged text := by
  rw [Untagged, Json.Value.mem_compact_iff rfl (by decide),
    Json.Value.mem_compact_iff rfl (by decide)]
  simp only [not_exists, not_and, Untagged]
  constructor
  · rintro ⟨noOpening, noClosing⟩ text listed
    exact ⟨noOpening text listed, noClosing text listed⟩
  · intro untagged
    exact ⟨fun text listed => (untagged text listed).1, fun text listed => (untagged text listed).2⟩

/-- The text written for an escaping call can stand in markup, or holds no tags, unless the
call is about an array or an object. These are written as compact documents, where the
strings and keys are not escaped and stand in quotes. -/
theorem escaping_calls_write (root : Value) (undefinedText inner : Text) (params : Option Text)
    (valid : IsPathText inner) :
    let value := subject root params
    ((Path.ofText inner).FirstCall escapeMarkup.name params →
      (∀ entry ∈ entities, entry.1 ∉ undefinedText) →
        ∃ text, Writes root registry undefinedText inner text ∧
          (value.isStructure = false → Escaped text) ∧
          (value.isStructure = true →
            text = value.compact ∧ (Escaped text ↔ value.texts = []))) ∧
      ((Path.ofText inner).FirstCall escapeTags.name params →
        (∀ entry ∈ tagEntities, entry.1 ∉ undefinedText) →
          ∃ text, Writes root registry undefinedText inner text ∧
            (value.isStructure = false → Untagged text) ∧
            (value.isStructure = true →
              text = value.compact ∧ (Untagged text ↔ ∀ part ∈ value.texts, Untagged part))) := by
  intro value
  constructor
  · intro call disjoint
    exact exists_writes_textOnString rfl escaped_escape (escaped_of_disjoint disjoint)
      (fun _ marks => escaped_of_allMarks marks) escaped_compact_iff valid call
  · intro call disjoint
    have untagged : Untagged undefinedText :=
      ⟨disjoint ('<', "&lt;".toList) (by decide), disjoint ('>', "&gt;".toList) (by decide)⟩
    exact exists_writes_textOnString rfl not_mem_escapeTags untagged
      (fun _ marks => untagged_of_allMarks marks) untagged_compact_iff valid call

theorem escaping_calls_write_sample :
    let root : Value := .object
      [(['t'], .string "R&D <b>".toList), (['f'], .array [.bool true, .array []])]
    let call (name field : Text) : Text := (Step.call name (some field)).text
    (∃ text, Writes root registry [] (call escapeMarkup.name ['t']) text ∧ Escaped text) ∧
      ∃ text, Writes root registry [] (call escapeTags.name ['f']) text ∧
        text = "[true,[]]".toList ∧ Untagged text := by
  intro root call
  have escaped := (escaping_calls_write root [] (call escapeMarkup.name ['t']) (some ['t'])
    (by decide)).1 (Path.firstCall_ofText_call (by decide) (by decide) (by decide))
    (fun _ _ => List.not_mem_nil)
  have untagged := (escaping_calls_write root [] (call escapeTags.name ['f']) (some ['f'])
    (by decide)).2 (Path.firstCall_ofText_call (by decide) (by decide) (by decide))
    (fun _ _ => List.not_mem_nil)
  obtain ⟨text, writes, plain, -⟩ := escaped
  obtain ⟨compact, writesCompact, -, structured⟩ := untagged
  obtain ⟨same, noTags⟩ := structured rfl
  exact ⟨⟨text, writes, plain rfl⟩,
    compact, writesCompact, same.trans (by decide), noTags.mpr (by decide)⟩

/-- The strings of an array are written as they are. -/
theorem escaping_calls_leave_arrays :
    let root : Value := .object [(['a'], .array [.string ['<']])]
    let undefinedText : Text := "undefined".toList
    (∀ entry ∈ entities, entry.1 ∉ undefinedText) ∧
      ∀ name ∈ [escapeMarkup.name, escapeTags.name],
        let inner : Text := (Step.call name (some ['a'])).text
        (Path.ofText inner).FirstCall name (some ['a']) ∧
          Template.render (token inner) root registry ⟨.singlePass, undefinedText⟩ =
            .silent (.ok "[\"<\"]".toList) ∧
          ¬ Escaped "[\"<\"]".toList ∧ ¬ Untagged "[\"<\"]".toList := by
  intro root undefinedText
  have notEscaped : ¬ Escaped "[\"<\"]".toList := fun escaped =>
    escaped.unreserved '<' (by decide) (by decide)
  have notUntagged : ¬ Untagged "[\"<\"]".toList := by decide
  have firstCall : ∀ name : Text, '[' ∉ name → '.' ∉ name →
      (Path.ofText (Step.call name (some ['a'])).text).FirstCall name (some ['a']) :=
    fun _ unopened uncut => Path.firstCall_ofText_call unopened uncut (by decide)
  refine ⟨by decide, List.forall_mem_cons.mpr ⟨?_, List.forall_mem_singleton.mpr ?_⟩⟩
  · have call := firstCall escapeMarkup.name (by decide) (by decide)
    exact ⟨call, (writes_textOnString rfl (by decide) call).alone _, notEscaped, notUntagged⟩
  · have call := firstCall escapeTags.name (by decide) (by decide)
    exact ⟨call, (writes_textOnString rfl (by decide) call).alone _, notEscaped, notUntagged⟩

end Builtin
end JsonTemplate
