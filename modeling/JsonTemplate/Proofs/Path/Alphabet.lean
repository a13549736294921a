import JsonTemplate.Proofs.Path.Canonical
import JsonTemplate.Proofs.Placeholder.Segments

set_option autoImplicit false

/-! A path that was read from a placeholder can be written in one. What is written has no
characters but those of the source and closing brackets, points and ampersands, which may
all stand in a placeholder, and it is not empty if the source was not. -/

namespace JsonTemplate.Placeholder

def InAlphabet (text : Text) : Prop := ∀ char ∈ text, isPathChar char = true

private theorem inAlphabet_append (left right : Text) :
    InAlphabet (left ++ right) ↔ InAlphabet left ∧ InAlphabet right :=
  List.forall_mem_append

private theorem inAlphabet_cons (char : Char) (rest : Text) :
    InAlphabet (char :: rest) ↔ isPathChar char = true ∧ InAlphabet rest :=
  List.forall_mem_cons

private theorem inAlphabet_nil : InAlphabet [] := nofun

private theorem inAlphabet_joined {separator : Text} (inside : InAlphabet separator)
    {texts : List Text}
    (all : ∀ text ∈ texts, InAlphabet text) : InAlphabet (Text.joined separator texts) := by
  induction texts with
  | nil => exact inAlphabet_nil
  | cons first more ih =>
      rw [List.forall_mem_cons] at all
      cases more with
      | nil => exact all.1
      | cons second rest =>
          rw [Brackets.joined_cons_cons, inAlphabet_append, inAlphabet_append]
          exact ⟨⟨all.1, inside⟩, ih all.2⟩

private theorem inAlphabet_of_joined {separator : Text} {texts : List Text}
    (inside : InAlphabet (Text.joined separator texts)) : ∀ text ∈ texts, InAlphabet text := by
  induction texts with
  | nil => exact nofun
  | cons first more ih =>
      cases more with
      | nil =>
          intro text member
          rw [List.mem_singleton.mp member]
          exact inside
      | cons second rest =>
          rw [Brackets.joined_cons_cons, inAlphabet_append, inAlphabet_append] at inside
          exact List.forall_mem_cons.mpr ⟨inside.1.1, ih inside.2⟩

end JsonTemplate.Placeholder

namespace JsonTemplate

open Brackets
open Placeholder (IsPathText InAlphabet inAlphabet_append inAlphabet_cons inAlphabet_nil
  inAlphabet_joined inAlphabet_of_joined)

private theorem Brackets.inAlphabet_content {group content : Text}
    (found : content? group = some content) (inside : InAlphabet group) : InAlphabet content := by
  rcases content?_cases found with same | ⟨tail, -, same⟩
  · rw [same, inAlphabet_cons] at inside
    exact inside.2
  · rw [same, inAlphabet_append, inAlphabet_cons, inAlphabet_append] at inside
    exact inside.1.2.1

private theorem Brackets.inAlphabet_bracketed {content : Text} (inside : InAlphabet content) :
    InAlphabet ('[' :: (content ++ [']'])) := by
  rw [inAlphabet_cons, inAlphabet_append, inAlphabet_cons]
  exact ⟨by decide, inside, by decide, inAlphabet_nil⟩

private theorem Brackets.inAlphabet_bracketed_content? {group : Text} (inside : InAlphabet group) :
    InAlphabet (bracketed (content? group)) := by
  cases found : content? group with
  | none => exact inAlphabet_nil
  | some content => exact inAlphabet_bracketed (inAlphabet_content found inside)

namespace Condition

private theorem inAlphabet_joined_listOfText {content : Text} (inside : InAlphabet content) :
    InAlphabet (Text.joined ['&'] ((listOfText content).map text)) := by
  have pieces : ∀ piece ∈ content.splitOn '&', InAlphabet piece := by
    apply inAlphabet_of_joined
    rw [Text.joined_eq_intercalate, List.intercalate_splitOn]
    exact inside
  apply inAlphabet_joined
  · rw [inAlphabet_cons]
    exact ⟨by decide, inAlphabet_nil⟩
  · intro written member
    unfold listOfText at member
    rw [List.map_map, List.mem_map] at member
    obtain ⟨piece, kept, same⟩ := member
    rw [← same, Function.comp, text_ofText]
    exact pieces piece (List.mem_filter.mp kept).1

private theorem inAlphabet_group {group : Text} (inside : InAlphabet group) :
    InAlphabet (Condition.group (listOfGroup group)) := by
  unfold listOfGroup
  cases found : content? group with
  | none => exact inAlphabet_nil
  | some content =>
      have written := inAlphabet_joined_listOfText (inAlphabet_content found inside)
      dsimp only
      cases read : listOfText content with
      | nil => exact inAlphabet_nil
      | cons first more =>
          rw [read] at written
          exact inAlphabet_bracketed written

end Condition

private theorem Step.inAlphabet_text_of_spells {text : Text} {step : Step}
    (spells : Spells text step) (inside : InAlphabet text) : InAlphabet step.text := by
  cases spells with
  | call cut =>
      rw [inAlphabet_append, inAlphabet_append] at inside
      rw [text_call, inAlphabet_append, inAlphabet_append]
      exact ⟨inside.1, inside.2.1, inAlphabet_bracketed_content? inside.2.2⟩
  | member absent => exact inside
  | record absent unmarked cut =>
      rw [inAlphabet_append, inAlphabet_cons, inAlphabet_append] at inside
      rw [text_record, inAlphabet_append, inAlphabet_cons, inAlphabet_append]
      exact ⟨inside.1, inside.2.1, inside.2.2.1, Condition.inAlphabet_group inside.2.2.2⟩

namespace Path

theorem inAlphabet_text_ofText {source : Text} (inside : InAlphabet source) :
    InAlphabet (ofText source).text := by
  have pieces : ∀ piece ∈ split '.' source, InAlphabet piece := by
    apply inAlphabet_of_joined
    rw [joined_split]
    exact inside
  unfold text ofText
  apply inAlphabet_joined
  · rw [inAlphabet_cons]
    exact ⟨by decide, inAlphabet_nil⟩
  · rw [List.map_map, List.forall_mem_map]
    intro piece member
    exact Step.inAlphabet_text_of_spells (Step.spells_ofText piece) (pieces piece member)

private theorem ofText_eq_ofText_nil {source : Text} (same : ofText source = ofText []) :
    source = [] := by
  have steps : (split '.' source).map Step.ofText = [.access (.member [])] :=
    congrArg Path.steps same
  obtain ⟨piece, single, read⟩ := List.map_eq_singleton_iff.mp steps
  have whole := joined_split '.' source
  rw [single] at whole
  have spells := Step.spells_ofText piece
  rw [read] at spells
  cases spells with
  | member absent => exact whole.symm

/-- What is written for the path of a placeholder may stand in a placeholder. -/
theorem isPathText_text_ofText {inner : Text} (valid : IsPathText inner) :
    IsPathText (ofText inner).text := by
  refine ⟨?_, inAlphabet_text_ofText valid.2⟩
  intro empty
  have again := ofText_text (canonical_ofText inner)
  rw [empty] at again
  exact valid.1 (ofText_eq_ofText_nil again.symm)

end Path
end JsonTemplate
