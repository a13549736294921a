import JsonTemplate.Proofs.Placeholder.Segments
import JsonTemplate.Proofs.Text.FirstAppearances
import JsonTemplate.Template

set_option autoImplicit false

/-! What a rendered template is, segment by segment: characters outside placeholders stand
for themselves, and every placeholder gives way to its own value. Which attempt fails first
does not depend on whether each distinct placeholder is resolved once or each occurrence
anew. -/

namespace JsonTemplate

namespace Template

open JsonTemplate.Placeholder

def occurrenceAt (position : Text → Nat) (place : Place) : Occurrence :=
  ⟨place.start, place.stop, position place.inner⟩

private theorem sliceBytes_self (offset : Nat) (text : Text) :
    Text.sliceBytes offset offset text = [] := by
  rw [Text.sliceBytes, Nat.sub_self]
  cases Text.dropBytes offset text with
  | nil => rfl
  | cons char rest =>
      have positive := char.utf8Size_pos
      rw [Text.takeBytes, if_neg (by omega)]

theorem sliceBytes_between (before inside after : Text) :
    Text.sliceBytes before.utf8Length (before ++ inside).utf8Length (before ++ inside ++ after) =
      inside := by
  rw [Text.sliceBytes, List.append_assoc, Text.dropBytes_utf8Length_append,
    Text.utf8Length_append, Nat.add_sub_cancel_left, Text.takeBytes_utf8Length_append]

private theorem splice_cons (before : Text) (char : Char) (rest : Text) (texts : List Text)
    (occurrences : List Occurrence)
    (later : ∀ occurrence ∈ occurrences, (before ++ [char]).utf8Length ≤ occurrence.start) :
    splice (before ++ char :: rest) texts before.utf8Length occurrences =
      char :: splice (before ++ char :: rest) texts (before ++ [char]).utf8Length occurrences := by
  have regrouped : before ++ char :: rest = (before ++ [char]) ++ rest := by simp
  have dropped : Text.dropBytes (before ++ [char]).utf8Length (before ++ char :: rest) = rest := by
    rw [regrouped]
    exact Text.dropBytes_utf8Length_append _ _
  cases occurrences with
  | nil => rw [splice, splice, Text.dropBytes_utf8Length_append, dropped]
  | cons occurrence others =>
      have bound := later occurrence List.mem_cons_self
      have longer : (before ++ [char]).utf8Length = before.utf8Length + char.utf8Size := by simp
      have fits : char.utf8Size ≤ occurrence.start - before.utf8Length := by omega
      have left : occurrence.start - before.utf8Length - char.utf8Size =
          occurrence.start - (before ++ [char]).utf8Length := by omega
      rw [splice, splice, Text.sliceBytes, Text.sliceBytes, Text.dropBytes_utf8Length_append,
        dropped, Text.takeBytes, if_pos fits, left]
      rfl

private theorem splice_from (position : Text → Nat) (texts : List Text) (before rest : Text) :
    splice (before ++ rest) texts before.utf8Length
        ((Segment.places before.utf8Length (segments rest)).map (occurrenceAt position)) =
      (segments rest).flatMap (Segment.filled (fun inner => texts[position inner]?.getD [])) := by
  induction rest using scan_induction generalizing before with
  | nil =>
      rw [segments_nil, Segment.places, List.map_nil, splice, Text.dropBytes_utf8Length_append]
      rfl
  | placeholder inner rest valid ih =>
      have later := ih (before ++ token inner)
      rw [List.append_assoc, Text.utf8Length_append] at later
      rw [segments_token_append valid, Segment.places, List.map_cons, splice, List.flatMap_cons]
      simp only [occurrenceAt, Place.stop, sliceBytes_self, List.nil_append, Segment.filled]
      rw [later]
  | kept char rest elsewhere ih =>
      have later := ih (before ++ [char])
      have longer : before.utf8Length + char.utf8Size = (before ++ [char]).utf8Length := by simp
      rw [List.append_assoc, List.singleton_append] at later
      rw [segments_cons elsewhere, Segment.places, longer, splice_cons, later, List.flatMap_cons]
      · rfl
      · intro occurrence member
        obtain ⟨place, placed, rfl⟩ := List.mem_map.mp member
        exact le_start_of_mem_places placed

theorem splice_places (position : Text → Nat) (texts : List Text) (template : Text) :
    splice template texts 0 ((places template).map (occurrenceAt position)) =
      (segments template).flatMap
        (Segment.filled (fun inner => texts[position inner]?.getD [])) := by
  rw [places_eq]
  exact splice_from position texts [] template

end Template

namespace Attempt

variable {α β : Type}

def failure? : Except Failure α → Option Failure
  | .error failure => some failure
  | .ok _ => none

@[simp] theorem failure?_error (failure : Failure) :
    failure? (.error failure : Except Failure α) = some failure := rfl

@[simp] theorem failure?_ok (result : α) : failure? (.ok result) = none := rfl

/-- Attempts on a list fail as the first of them that fails; otherwise they have all their
results. -/
theorem forEach_value (attempt : α → Attempt β) (otherwise : β) (items : List α) :
    (forEach attempt items).value =
      match items.findSome? (fun item => failure? (attempt item).value) with
      | some failure => .error failure
      | none => .ok (items.map (fun item => (attempt item).value.toOption.getD otherwise)) := by
  induction items with
  | nil => rfl
  | cons head rest ih =>
      rw [forEach, List.findSome?_cons]
      unfold andThen
      cases first : (attempt head).value with
      | error failure => rfl
      | ok result =>
          simp only [map, ih, failure?_ok, List.map_cons, first]
          cases rest.findSome? (fun item => failure? (attempt item).value) with
          | some failure => rfl
          | none => rfl

end Attempt

namespace Template

open JsonTemplate.Json (Value)
open JsonTemplate.Placeholder
open JsonTemplate.Attempt (failure? failure?_ok)

def valueOf (root : Value) (registry : Registry) (undefinedText inner : Text) :
    Except Failure Text :=
  ((Path.ofText inner).resolve root (token inner) registry).value.map
    (fun outcome => outcome.text undefinedText)

/-- Segments with values in the place of placeholders, if all of these have one. -/
def filling (value : Text → Except Failure Text) : List Segment → Except Failure Text
  | [] => .ok []
  | .kept char :: rest => (filling value rest).map (fun out => char :: out)
  | .placeholder inner :: rest =>
      (value inner).bind (fun text => (filling value rest).map (fun out => text ++ out))

variable (value : Text → Except Failure Text)

def followedBy (left right : Except Failure Text) : Except Failure Text :=
  left.bind (fun first => right.map (fun second => first ++ second))

theorem filling_append (left right : List Segment) :
    filling value (left ++ right) = followedBy (filling value left) (filling value right) := by
  induction left with
  | nil =>
      cases rest : filling value right with
      | error failure => simp [filling, followedBy, Except.bind, Except.map, rest]
      | ok out => simp [filling, followedBy, Except.bind, Except.map, rest]
  | cons segment rest ih =>
      cases segment with
      | kept char =>
          rw [List.cons_append, filling, filling, ih]
          cases filling value rest with
          | error failure => rfl
          | ok first => cases filling value right <;> rfl
      | placeholder inner =>
          rw [List.cons_append, filling, filling, ih]
          cases value inner with
          | error failure => rfl
          | ok text =>
              cases filling value rest with
              | error failure => rfl
              | ok first =>
                  cases filling value right with
                  | error failure => rfl
                  | ok second => simp [followedBy, Except.bind, Except.map]

/-- Filling fails as the first placeholder without a value; otherwise every placeholder has
its value. -/
theorem filling_eq (row : List Segment) :
    filling value row =
      match (row.filterMap Segment.inner?).findSome? (fun inner => failure? (value inner)) with
      | some failure => .error failure
      | none =>
          .ok (row.flatMap (Segment.filled (fun inner => (value inner).toOption.getD []))) := by
  induction row with
  | nil => rfl
  | cons segment rest ih =>
      cases segment with
      | kept char =>
          rw [filling, ih]
          simp only [Segment.inner?, List.filterMap_cons, List.flatMap_cons]
          cases (rest.filterMap Segment.inner?).findSome? (fun inner => failure? (value inner)) with
          | some failure => rfl
          | none => rfl
      | placeholder inner =>
          rw [filling, ih]
          simp only [Segment.inner?, List.filterMap_cons, List.flatMap_cons, List.findSome?_cons]
          cases first : value inner with
          | error failure => rfl
          | ok text =>
              simp only [failure?_ok]
              cases (rest.filterMap Segment.inner?).findSome?
                  (fun inner => failure? (value inner)) with
              | some failure => rfl
              | none => simp [Except.bind, Except.map, Except.toOption, Segment.filled, first]

def distinctInners (template : Text) : List Text := Text.firstAppearances (inners template)

def entryOf (inner : Text) : Entry := ⟨token inner, Path.ofText inner⟩

theorem map_inner_places (template : Text) :
    (places template).map Place.inner = inners template := by
  rw [places_eq, inner_places]
  rfl

theorem entries_ofText (template : Text) :
    (Decoding.ofText template).entries = (distinctInners template).map entryOf := by
  rw [distinctInners, ← map_inner_places]
  rfl

theorem occurrences_ofText (template : Text) :
    (Decoding.ofText template).occurrences =
      (places template).map (occurrenceAt (distinctInners template).idxOf) := by
  rw [distinctInners, ← map_inner_places]
  rfl

private theorem getD_idxOf_distinctInners (content : Text → Text) {template inner : Text}
    (member : inner ∈ inners template) :
    ((distinctInners template).map content)[(distinctInners template).idxOf inner]?.getD [] =
      content inner := by
  have distinct := (Text.mem_firstAppearances_iff (inners template) inner).mpr member
  rw [List.getElem?_map, distinctInners, List.getElem?_idxOf distinct]
  rfl

theorem splice_occurrences (content : Text → Text) (template : Text) :
    splice template ((distinctInners template).map content) 0
        (Decoding.ofText template).occurrences =
      (segments template).flatMap (Segment.filled content) := by
  rw [occurrences_ofText, splice_places]
  apply List.flatMap_congr
  intro segment member
  cases segment with
  | kept char => rfl
  | placeholder inner =>
      exact getD_idxOf_distinctInners content
        (List.mem_filterMap.mpr ⟨.placeholder inner, member, rfl⟩)

/-- Rendering fails as the first placeholder without a value; otherwise the values of the
distinct placeholders are put into the template. -/
theorem render_value (template : Text) (root : Value) (registry : Registry) (options : Options) :
    (render template root registry options).value =
      match (inners template).findSome?
          (fun inner => failure? (valueOf root registry options.undefinedText inner)) with
      | some failure => .error failure
      | none =>
          .ok (substitute template (Decoding.ofText template)
            ((distinctInners template).map (fun inner =>
              (valueOf root registry options.undefinedText inner).toOption.getD []))
            options.substitution) := by
  have resolved : ∀ inner, (entryText root registry options.undefinedText (entryOf inner)).value =
      valueOf root registry options.undefinedText inner := fun _ => rfl
  unfold render
  simp only [Attempt.map, Attempt.forEach_value _ [], entries_ofText, List.findSome?_map,
    List.map_map, Function.comp_def, resolved]
  rw [distinctInners, Text.findSome?_firstAppearances]
  cases (inners template).findSome?
      (fun inner => failure? (valueOf root registry options.undefinedText inner)) with
  | some failure => rfl
  | none => rfl

theorem render_of_free {text : Text} (free : Free text) (root : Value) (registry : Registry)
    (options : Options) : render text root registry options = .silent (.ok text) := by
  have none : distinctInners text = [] := by
    rw [distinctInners, (free_iff_inners_eq_nil text).mp free]
    rfl
  have noEntries : (Decoding.ofText text).entries = [] := by
    rw [entries_ofText, none]
    rfl
  have copied : substitute text (Decoding.ofText text) [] options.substitution = text := by
    cases options.substitution with
    | singlePass =>
        have filled := splice_occurrences token text
        rw [none, List.map_nil] at filled
        rw [substitute, filled]
        exact flatMap_text_segments text
    | replaceAll => simp [substitute, replaceInTurn, Decoding.tokens, noEntries]
  unfold render
  dsimp only
  rw [noEntries]
  change Reported.silent (Except.ok (substitute text (Decoding.ofText text) []
    options.substitution)) = _
  rw [copied]

theorem render_singlePass_value (template : Text) (root : Value) (registry : Registry)
    (undefinedText : Text) :
    (render template root registry ⟨.singlePass, undefinedText⟩).value =
      filling (valueOf root registry undefinedText) (segments template) := by
  rw [render_value, filling_eq]
  simp only [substitute, splice_occurrences]
  rfl

end Template
end JsonTemplate
