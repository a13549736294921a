import JsonTemplate.Path
import JsonTemplate.Proofs.Path.Brackets
import Mathlib.Data.List.Basic

set_option autoImplicit false

/-! Which paths there are to read. A path that was read is often not written as its source
was: a bracket that was open is closed, text behind a bracket and empty conditions are
gone. It is still read as the same path, and the paths of this kind are known by their
names alone and by where their steps have points and brackets. Reading
and writing are inverse on the conditions that can be read at all. -/

namespace JsonTemplate

open Brackets

namespace Condition

/-- Whether a condition is the reading of some piece between ampersands. -/
def Canonical : Condition → Prop
  | .equals key value => '=' ∉ key ∧ '&' ∉ key ∧ '&' ∉ value
  | .lacks key => key ≠ [] ∧ '=' ∉ key ∧ '&' ∉ key

private theorem ofText_equals {key : Text} (absent : '=' ∉ key) (value : Text) :
    ofText (key ++ '=' :: value) = .equals key value := by
  have cut := Text.cutAt_cons absent value
  rw [ofText, cut.takeWhile, cut.dropWhile]

private theorem ofText_lacks {piece : Text} (absent : '=' ∉ piece) :
    ofText piece = .lacks piece := by
  have nothing := (Text.cutAt_nil absent).dropWhile
  rw [List.append_nil] at nothing
  rw [ofText, nothing]

theorem text_ofText (piece : Text) : (ofText piece).text = piece := by
  obtain ⟨key, after, same, cut⟩ := Text.exists_cutAt '=' piece
  rcases cut.cases with empty | ⟨value, begins⟩
  · rw [same, empty, List.append_nil, ofText_lacks cut.absent]
    rfl
  · rw [same, begins, ofText_equals cut.absent]
    rfl

theorem canonical_ofText {piece : Text} (nonempty : piece ≠ []) (absent : '&' ∉ piece) :
    (ofText piece).Canonical := by
  obtain ⟨key, after, same, cut⟩ := Text.exists_cutAt '=' piece
  rcases cut.cases with empty | ⟨value, begins⟩
  · rw [empty, List.append_nil] at same
    rw [same] at nonempty absent ⊢
    rw [ofText_lacks cut.absent]
    exact ⟨nonempty, cut.absent, absent⟩
  · rw [begins] at same
    rw [same, List.mem_append, List.mem_cons, not_or, not_or] at absent
    rw [same, ofText_equals cut.absent]
    exact ⟨cut.absent, absent.1, absent.2.2⟩

variable {condition : Condition}

theorem ofText_text (canonical : condition.Canonical) : ofText condition.text = condition := by
  cases condition with
  | equals key value => exact ofText_equals canonical.1 value
  | lacks key => exact ofText_lacks canonical.2.1

private theorem text_ne_nil (canonical : condition.Canonical) : condition.text ≠ [] := by
  cases condition with
  | equals key value => exact List.append_ne_nil_of_right_ne_nil _ (List.cons_ne_nil _ _)
  | lacks key => exact canonical.1

private theorem ampersand_not_mem_text (canonical : condition.Canonical) :
    '&' ∉ condition.text := by
  cases condition with
  | equals key value =>
      obtain ⟨-, key, value⟩ := canonical
      simp [text, key, value]
  | lacks key => exact canonical.2.2

private theorem canonical_of_mem_listOfText {content : Text}
    (member : condition ∈ listOfText content) :
    condition.Canonical := by
  unfold listOfText at member
  obtain ⟨piece, kept, same⟩ := List.mem_map.mp member
  obtain ⟨found, nonempty⟩ := List.mem_filter.mp kept
  rw [← same]
  apply canonical_ofText
  · intro empty
    rw [empty] at nonempty
    cases nonempty
  · exact Text.not_mem_of_mem_splitOn found

theorem canonical_of_mem_listOfGroup {group : Text} (member : condition ∈ listOfGroup group) :
    condition.Canonical := by
  unfold listOfGroup at member
  split at member
  · exact canonical_of_mem_listOfText member
  · cases member

variable {conditions : List Condition}

theorem listOfText_joined (canonical : ∀ condition ∈ conditions, condition.Canonical) :
    listOfText (Text.joined ['&'] (conditions.map text)) = conditions := by
  cases conditions with
  | nil => rfl
  | cons first more =>
      have separate : ∀ piece ∈ (first :: more).map text, '&' ∉ piece := by
        intro piece member
        obtain ⟨condition, listed, same⟩ := List.mem_map.mp member
        rw [← same]
        exact ampersand_not_mem_text (canonical condition listed)
      have nonempty : ∀ piece ∈ (first :: more).map text, (!piece.isEmpty) = true := by
        intro piece member
        obtain ⟨condition, listed, same⟩ := List.mem_map.mp member
        rw [← same, Bool.not_eq_true', List.isEmpty_eq_false_iff]
        exact text_ne_nil (canonical condition listed)
      have read : ((first :: more).map text).map ofText = first :: more := by
        rw [List.map_map]
        refine Eq.trans (List.map_congr_left ?_) (List.map_id _)
        intro condition listed
        exact ofText_text (canonical condition listed)
      rw [listOfText, Text.joined_eq_intercalate,
        List.splitOn_intercalate '&' separate (List.cons_ne_nil _ _),
        List.filter_eq_self.mpr nonempty, read]

theorem listOfGroup_group (canonical : ∀ condition ∈ conditions, condition.Canonical) :
    listOfGroup (group conditions) = conditions := by
  cases conditions with
  | nil => rfl
  | cons first more =>
      have bracketed : content? (group (first :: more)) = some _ := content?_bracketed (some _)
      rw [listOfGroup, bracketed]
      exact listOfText_joined canonical

theorem filter_joined_listOfText (content : Text) :
    (Text.joined ['&'] ((listOfText content).map text)).filter (counts '.') =
      content.filter (counts '.') := by
  have dropped : counts '.' '&' = false := by decide
  have unread : (text ∘ ofText) = id := funext text_ofText
  calc (Text.joined ['&'] ((listOfText content).map text)).filter (counts '.')
      = ((content.splitOn '&').filter (fun piece => !piece.isEmpty)).flatMap
          (List.filter (counts '.')) := by
        rw [listOfText, List.map_map, unread, List.map_id, Text.filter_joined dropped]
    _ = (content.splitOn '&').flatMap (List.filter (counts '.')) :=
        Text.flatMap_filter_nonempty _ _
    _ = (Text.joined ['&'] (content.splitOn '&')).filter (counts '.') :=
        (Text.filter_joined dropped _).symm
    _ = content.filter (counts '.') := by
        rw [Text.joined_eq_intercalate, List.intercalate_splitOn]

/-- A group that is written again is left out, if its content had nothing but ampersands, or
has the same characters that count. -/
theorem group_listOfText (content : Text) :
    (group (listOfText content) = [] ∧ content.filter (counts '.') = []) ∨
      ∃ written, group (listOfText content) = '[' :: (written ++ [']']) ∧
        written.filter (counts '.') = content.filter (counts '.') := by
  have same := filter_joined_listOfText content
  cases read : listOfText content with
  | nil =>
      rw [read] at same
      exact Or.inl ⟨rfl, same.symm⟩
  | cons first more =>
      rw [read] at same
      refine Or.inr ⟨_, ?_, same⟩
      rw [group, List.cons_append]
      exact nofun

theorem depthOf_group {depth : Nat} {before text : Text} (cut : Text.CutAt '[' before text)
    (closed : depthOf depth text = 0) : depthOf depth (group (listOfGroup text)) = 0 := by
  have again := depthOf_bracketed cut closed
  unfold listOfGroup
  cases found : content? text with
  | none =>
      rw [found] at again
      exact again
  | some content =>
      rw [found, bracketed, depthOf_cons, depthOf_append, ← depthOf_filter '.' _ content] at again
      rcases group_listOfText content with ⟨gone, nothing⟩ | ⟨written, kept, same⟩
      · rw [nothing] at again
        rw [gone]
        exact again
      · rw [kept, depthOf_cons, depthOf_append, ← depthOf_filter '.' _ written, same]
        exact again

theorem undivided_group {depth : Nat} {text : Text} (undivided : Undivided '.' depth text) :
    Undivided '.' depth (group (listOfGroup text)) := by
  have again := undivided_bracketed (by decide) undivided
  unfold listOfGroup
  cases found : content? text with
  | none => exact undivided_nil depth
  | some content =>
      rw [found, bracketed, undivided_cons, undivided_append, ← undivided_filter _ content,
        ← depthOf_filter '.' _ content] at again
      rcases group_listOfText content with ⟨gone, -⟩ | ⟨written, kept, same⟩
      · rw [gone]
        exact undivided_nil depth
      · rw [kept, undivided_cons, undivided_append, ← undivided_filter _ written,
          ← depthOf_filter '.' _ written, same]
        exact again

end Condition

/-- How the text of a step is spelled, and the step that it spells. -/
inductive Step.Spells : Text → Step → Prop where
  | call {name group : Text} (cut : Text.CutAt '[' name group) :
      Spells (callMark ++ (name ++ group)) (.call name (content? group))
  | member {name : Text} (absent : ':' ∉ name) : Spells name (.access (.member name))
  | record {name extract group : Text} (absent : ':' ∉ name)
      (unmarked : name ≠ "__function".toList) (cut : Text.CutAt '[' extract group) :
      Spells (name ++ ':' :: (extract ++ group))
        (.access (.record name extract (Condition.listOfGroup group)))

namespace Step

theorem text_call (name : Text) (params : Option Text) :
    (call name params).text = callMark ++ (name ++ bracketed params) := by
  cases params with
  | none =>
      rw [bracketed, List.append_nil]
      rfl
  | some params =>
      rw [bracketed, ← List.append_assoc, ← List.cons_append, ← List.append_assoc]
      rfl

theorem text_record (name extract : Text) (conditions : List Condition) :
    (access (.record name extract conditions)).text =
      name ++ ':' :: (extract ++ Condition.group conditions) := by
  rw [← List.cons_append, ← List.append_assoc]
  rfl

private theorem callMark_eq : callMark = "__function".toList ++ [':'] := rfl

private theorem isPrefixOf?_callMark_append (rest : Text) :
    callMark.isPrefixOf? (callMark ++ rest) = some rest :=
  List.isPrefixOf?_eq_some_iff_append_eq.mpr rfl

private theorem isPrefixOf?_callMark_of_not_mem {text : Text} (absent : ':' ∉ text) :
    callMark.isPrefixOf? text = none := by
  cases found : callMark.isPrefixOf? text with
  | none => rfl
  | some rest =>
      have same := List.isPrefixOf?_eq_some_iff_append_eq.mp found
      rw [← same, List.mem_append, not_or] at absent
      exact absurd (by decide) absent.1

private theorem isPrefixOf?_callMark_of_ne {name : Text} (absent : ':' ∉ name)
    (unmarked : name ≠ "__function".toList) (rest : Text) :
    callMark.isPrefixOf? (name ++ ':' :: rest) = none := by
  cases found : callMark.isPrefixOf? (name ++ ':' :: rest) with
  | none => rfl
  | some after =>
      -- Both spellings are cut at their first colon, so the names before it are the same.
      have same := List.isPrefixOf?_eq_some_iff_append_eq.mp found
      rw [callMark_eq, List.append_assoc, List.singleton_append] at same
      have marked : Text.CutAt ':' "__function".toList (':' :: after) :=
        Text.cutAt_cons (by decide) after
      have equal := marked.takeWhile
      rw [same, (Text.cutAt_cons absent rest).takeWhile] at equal
      exact absurd equal unmarked

theorem ofText_of_spells {text : Text} {step : Step} (spells : Spells text step) :
    ofText text = step := by
  cases spells with
  | call cut =>
      rw [ofText, isPrefixOf?_callMark_append]
      dsimp only
      rw [cut.takeWhile, cut.dropWhile]
  | member absent =>
      have nothing := (Text.cutAt_nil absent).dropWhile
      rw [List.append_nil] at nothing
      rw [ofText, isPrefixOf?_callMark_of_not_mem absent, nothing]
  | record absent unmarked cut =>
      have first := Text.cutAt_cons absent
      rw [ofText, isPrefixOf?_callMark_of_ne absent unmarked, (first _).dropWhile,
        (first _).takeWhile]
      dsimp only
      rw [cut.takeWhile, cut.dropWhile]

theorem spells_ofText (text : Text) : Spells text (ofText text) := by
  suffices spelled : ∃ step, Spells text step by
    obtain ⟨step, spells⟩ := spelled
    rw [ofText_of_spells spells]
    exact spells
  obtain ⟨name, after, same, first⟩ := Text.exists_cutAt ':' text
  rcases first.cases with empty | ⟨rest, begins⟩
  · rw [empty, List.append_nil] at same
    rw [same]
    exact ⟨_, .member first.absent⟩
  · obtain ⟨inner, group, split, cut⟩ := Text.exists_cutAt '[' rest
    rw [same, begins, split]
    by_cases marked : name = "__function".toList
    · rw [marked]
      exact ⟨_, .call cut⟩
    · exact ⟨_, .record first.absent marked cut⟩

/-- Whether a step is the reading of some text. -/
def Canonical : Step → Prop
  | .access (.member name) => ':' ∉ name
  | .access (.record name extract conditions) =>
      (':' ∉ name ∧ name ≠ "__function".toList) ∧ '[' ∉ extract ∧
        ∀ condition ∈ conditions, condition.Canonical
  | .call name _ => '[' ∉ name

theorem canonical_of_spells {text : Text} {step : Step} (spells : Spells text step) :
    step.Canonical := by
  cases spells with
  | call cut => exact cut.absent
  | member absent => exact absent
  | record absent unmarked cut =>
      refine ⟨⟨absent, unmarked⟩, cut.absent, ?_⟩
      intro condition member
      exact Condition.canonical_of_mem_listOfGroup member

private theorem cutAt_bracketed {name : Text} (absent : '[' ∉ name) (params : Option Text) :
    Text.CutAt '[' name (bracketed params) := by
  cases params with
  | none => exact Text.cutAt_nil absent
  | some params => exact Text.cutAt_cons absent _

private theorem cutAt_group {extract : Text} (absent : '[' ∉ extract)
    (conditions : List Condition) : Text.CutAt '[' extract (Condition.group conditions) := by
  cases conditions with
  | nil => exact Text.cutAt_nil absent
  | cons first more => exact Text.cutAt_cons absent _

theorem spells_text {step : Step} (canonical : step.Canonical) : Spells step.text step := by
  cases step with
  | access reading =>
      cases reading with
      | member name => exact .member canonical
      | record name extract conditions =>
          obtain ⟨⟨absent, unmarked⟩, unopened, all⟩ := canonical
          have spells := Spells.record absent unmarked (cutAt_group unopened conditions)
          rw [Condition.listOfGroup_group all, ← text_record] at spells
          exact spells
  | call name params =>
      have spells := Spells.call (cutAt_bracketed canonical params)
      rw [content?_bracketed, ← text_call] at spells
      exact spells

theorem ofText_text {step : Step} (canonical : step.Canonical) : ofText step.text = step :=
  ofText_of_spells (spells_text canonical)

theorem canonical_ofText (text : Text) : (ofText text).Canonical :=
  canonical_of_spells (spells_ofText text)

private theorem undivided_text_of_spells {text : Text} {step : Step} (spells : Spells text step)
    (undivided : Undivided '.' 0 text) : Undivided '.' 0 step.text := by
  cases spells with
  | call cut =>
      rw [← List.append_assoc, undivided_append] at undivided
      rw [text_call, ← List.append_assoc, undivided_append]
      exact ⟨undivided.1, undivided_bracketed (by decide) undivided.2⟩
  | member absent => exact undivided
  | record absent unmarked cut =>
      rw [← List.cons_append, ← List.append_assoc, undivided_append] at undivided
      rw [text_record, ← List.cons_append, ← List.append_assoc, undivided_append]
      exact ⟨undivided.1, Condition.undivided_group undivided.2⟩

private theorem depthOf_text_of_spells {text : Text} {step : Step} (spells : Spells text step)
    (closed : depthOf 0 text = 0) : depthOf 0 step.text = 0 := by
  cases spells with
  | call cut =>
      rw [← List.append_assoc, depthOf_append] at closed
      rw [text_call, ← List.append_assoc, depthOf_append]
      exact depthOf_bracketed cut closed
  | member absent => exact closed
  | record absent unmarked cut =>
      rw [← List.cons_append, ← List.append_assoc, depthOf_append] at closed
      rw [text_record, ← List.cons_append, ← List.append_assoc, depthOf_append]
      exact Condition.depthOf_group cut closed

end Step

namespace Path

/-- Whether a path is the reading of some text. Its steps are, and where they are written
one after another they are cut apart again. -/
structure Canonical (path : Path) : Prop where
  nonempty : path.steps ≠ []
  steps : ∀ step ∈ path.steps, step.Canonical
  undivided : ∀ step ∈ path.steps, Undivided '.' 0 step.text
  closed : ∀ step ∈ path.steps.dropLast, depthOf 0 step.text = 0

theorem Canonical.cutting {path : Path} (canonical : path.Canonical) :
    Cutting '.' (path.steps.map Step.text) := by
  refine ⟨?_, ?_, ?_⟩
  · intro empty
    exact canonical.nonempty (List.map_eq_nil_iff.mp empty)
  · exact List.forall_mem_map.mpr canonical.undivided
  · rw [← List.map_dropLast]
    exact List.forall_mem_map.mpr canonical.closed

theorem ofText_text {path : Path} (canonical : path.Canonical) : ofText path.text = path := by
  have again : (path.steps.map Step.text).map Step.ofText = path.steps := by
    rw [List.map_map]
    refine Eq.trans (List.map_congr_left ?_) (List.map_id _)
    intro step member
    exact Step.ofText_text (canonical.steps step member)
  rw [ofText, text, split_joined rfl canonical.cutting, again]

theorem canonical_ofText (text : Text) : (ofText text).Canonical := by
  have cutting : Cutting '.' (split '.' text) := cutting_split rfl text
  refine ⟨steps_ofText_ne_nil text, ?_, ?_, ?_⟩
  · rw [ofText, List.forall_mem_map]
    intro piece _
    exact Step.canonical_ofText piece
  · rw [ofText, List.forall_mem_map]
    intro piece member
    exact Step.undivided_text_of_spells (Step.spells_ofText piece) (cutting.undivided piece member)
  · rw [ofText, ← List.map_dropLast, List.forall_mem_map]
    intro piece member
    exact Step.depthOf_text_of_spells (Step.spells_ofText piece) (cutting.closed piece member)

/-- The paths that some text states are those that are read again from their own text, and
they are the canonical ones. Reading what a read path is written as changes nothing. -/
theorem stated_iff_fixed_iff_canonical :
    (∀ path : Path,
      ((∃ text, path = ofText text) ↔ ofText path.text = path) ∧
        (ofText path.text = path ↔ path.Canonical)) ∧
      ∀ text, ofText (ofText text).text = ofText text := by
  refine ⟨?_, fun text => ofText_text (canonical_ofText text)⟩
  intro path
  constructor
  · constructor
    · rintro ⟨text, same⟩
      rw [same]
      exact ofText_text (canonical_ofText text)
    · intro fixed
      exact ⟨path.text, fixed.symm⟩
  · constructor
    · intro fixed
      rw [← fixed]
      exact canonical_ofText path.text
    · exact ofText_text

end Path
end JsonTemplate
