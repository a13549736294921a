import JsonTemplate.Proofs.Template.Filling

set_option autoImplicit false

/-! Rendering in one pass is a scan of the template from left to right. The scan is stated
on texts alone, without entries, positions or offsets: at a placeholder it writes the text
of the value and goes on behind the placeholder, and elsewhere it copies one character. -/

namespace JsonTemplate.Template

open JsonTemplate.Json (Value)
open JsonTemplate.Placeholder

/-- What a scan from left to right makes of a text, if every placeholder in it has a
value. -/
inductive Scanned (value : Text → Except Failure Text) : Text → Text → Prop where
  | done : Scanned value [] []
  | placeholder {inner text rest out : Text} (valid : IsPathText inner)
      (resolved : value inner = .ok text) (later : Scanned value rest out) :
      Scanned value (token inner ++ rest) (text ++ out)
  | copied {char : Char} {rest out : Text} (elsewhere : ¬ Begins (char :: rest))
      (later : Scanned value rest out) : Scanned value (char :: rest) (char :: out)

variable (value : Text → Except Failure Text)

private theorem filling_of_scanned {template out : Text} (scanned : Scanned value template out) :
    filling value (segments template) = .ok out := by
  induction scanned with
  | done => rfl
  | placeholder valid resolved later ih =>
      rw [segments_token_append valid, filling, ih, resolved]
      rfl
  | copied elsewhere later ih =>
      rw [segments_cons elsewhere, filling, ih]
      rfl

private theorem scanned_of_filling {template out : Text}
    (filled : filling value (segments template) = .ok out) : Scanned value template out := by
  induction template using scan_induction generalizing out with
  | nil =>
      cases filled
      exact .done
  | placeholder inner rest valid ih =>
      rw [segments_token_append valid, filling] at filled
      cases resolved : value inner with
      | error failure =>
          rw [resolved] at filled
          cases filled
      | ok text =>
          cases later : filling value (segments rest) with
          | error failure =>
              rw [resolved, later] at filled
              cases filled
          | ok outRest =>
              rw [resolved, later] at filled
              cases filled
              exact .placeholder valid resolved (ih later)
  | kept char rest elsewhere ih =>
      rw [segments_cons elsewhere, filling] at filled
      cases later : filling value (segments rest) with
      | error failure =>
          rw [later] at filled
          cases filled
      | ok outRest =>
          rw [later] at filled
          cases filled
          exact .copied elsewhere (ih later)

theorem filling_segments_eq_ok_iff (template out : Text) :
    filling value (segments template) = .ok out ↔ Scanned value template out :=
  ⟨scanned_of_filling value, filling_of_scanned value⟩

/-- Wherever a placeholder stands, its value is written between what is made of the texts
before and after it. -/
theorem filling_segments_around {inner : Text} (valid : IsPathText inner) (before after : Text) :
    filling value (segments (before ++ token inner ++ after)) =
      followedBy (filling value (segments before))
        (followedBy (value inner) (filling value (segments after))) := by
  rw [segments_around valid, filling_append]
  rfl

/-- In one pass a template is rendered as it is scanned from left to right. So a text
without placeholders is copied, the value of a placeholder is written as it is wherever the
placeholder stands, and two templates in a row are rendered one after the other unless a
placeholder crosses from the first into the second. -/
theorem render_singlePass_scanned (root : Value) (registry : Registry) (undefinedText : Text) :
    let rendered (template : Text) :=
      (render template root registry ⟨.singlePass, undefinedText⟩).value
    let value := valueOf root registry undefinedText
    (∀ template out, rendered template = .ok out ↔ Scanned value template out) ∧
      (∀ text, Free text → rendered text = .ok text) ∧
      (∀ before inner after, IsPathText inner →
        rendered (before ++ token inner ++ after) =
          followedBy (rendered before) (followedBy (value inner) (rendered after))) ∧
      ∀ left right, Apart left right →
        rendered (left ++ right) = followedBy (rendered left) (rendered right) := by
  intro rendered value
  have filled : ∀ template, rendered template = filling value (segments template) := by
    intro template
    exact render_singlePass_value template root registry undefinedText
  refine ⟨?_, ?_, ?_, ?_⟩
  · intro template out
    rw [filled]
    exact filling_segments_eq_ok_iff value template out
  · intro text free
    exact congrArg Reported.value (render_of_free free root registry ⟨.singlePass, undefinedText⟩)
  · intro before inner after valid
    rw [filled, filled, filled]
    exact filling_segments_around value valid before after
  · intro left right apart
    rw [filled, filled, filled, segments_append apart]
    exact filling_append value _ _

/-- A percent sign before a placeholder, a placeholder that is not closed, and a value that
looks like a placeholder. -/
theorem render_singlePass_scanned_sample :
    let root : Value := .object [(['a'], .string "%(b)".toList), (['b'], .bool true)]
    let rendered (template : Text) :=
      (render template root Registry.empty ⟨.singlePass, []⟩).value
    let left := "é%%(a)%(c".toList
    let right := "%(b)%(a)".toList
    (Free ['%', '('] ∧ rendered ['%', '('] = .ok ['%', '(']) ∧
      (IsPathText ['a'] ∧
        rendered (['é', '%'] ++ token ['a'] ++ ['%', '(', 'c']) =
          followedBy (rendered ['é', '%'])
            (followedBy (.ok "%(b)".toList) (rendered ['%', '(', 'c']))) ∧
      (Apart left right ∧ rendered (left ++ right) = followedBy (rendered left) (rendered right)) ∧
      rendered (left ++ right) = .ok "é%%(b)%(ctrue%(b)".toList := by
  intro root rendered left right
  have scan := render_singlePass_scanned root Registry.empty []
  have apart : Apart left right := by decide
  refine ⟨⟨by decide, scan.2.1 _ (by decide)⟩, ⟨by decide, ?_⟩, ⟨apart, ?_⟩, rfl⟩
  · exact scan.2.2.1 ['é', '%'] ['a'] ['%', '(', 'c'] (by decide)
  · exact scan.2.2.2 left right apart

/-- Whether rendering writes a text in the place of a placeholder, without a notice. -/
structure Writes (root : Value) (registry : Registry) (undefinedText inner text : Text) :
    Prop where
  entry : entryText root registry undefinedText (entryOf inner) = .silent (.ok text)
  /-- A template that is the placeholder alone is rendered as the text. -/
  alone : ∀ substitution,
    render (token inner) root registry ⟨substitution, undefinedText⟩ = .silent (.ok text)
  /-- In one pass, the text is what stands between the texts before and after it. -/
  among : ∀ before after,
    let rendered (template : Text) :=
      (render template root registry ⟨.singlePass, undefinedText⟩).value
    rendered (before ++ token inner ++ after) =
      followedBy (rendered before) (followedBy (.ok text) (rendered after))

variable {root : Value} {registry : Registry} {undefinedText inner text : Text}

theorem segments_token (valid : IsPathText inner) :
    segments (token inner) = [.placeholder inner] := by
  have single := segments_token_append valid []
  rw [List.append_nil] at single
  exact single

theorem distinctInners_token (valid : IsPathText inner) :
    distinctInners (token inner) = [inner] := by
  rw [distinctInners, inners, segments_token valid]
  rfl

private theorem substitute_token (valid : IsPathText inner) (text : Text)
    (substitution : Substitution) :
    substitute (token inner) (Decoding.ofText (token inner)) [text] substitution = text := by
  cases substitution with
  | singlePass =>
      have spliced := splice_occurrences (fun _ => text) (token inner)
      rw [distinctInners_token valid, segments_token valid] at spliced
      rw [substitute]
      exact spliced.trans (List.append_nil text)
  | replaceAll =>
      have replaced := Text.replaceAll_append (token inner) text [] (token_ne_nil inner)
      rw [List.append_nil, Text.replaceAll_nil, List.append_nil] at replaced
      rw [substitute, Decoding.tokens, entries_ofText, distinctInners_token valid]
      exact replaced

theorem writes_of_entryText (valid : IsPathText inner)
    (made : entryText root registry undefinedText (entryOf inner) = .silent (.ok text)) :
    Writes root registry undefinedText inner text where
  entry := made
  alone := by
    intro substitution
    have only : Attempt.forEach (entryText root registry undefinedText) [entryOf inner] =
        .silent (.ok [text]) := by
      rw [Attempt.forEach, made]
      rfl
    have substituted := substitute_token valid text substitution
    rw [render, entries_ofText, distinctInners_token valid, List.map_singleton, only]
    dsimp only [Attempt.map, Reported.silent, Except.map]
    rw [substituted]
  among := by
    intro before after rendered
    have value : valueOf root registry undefinedText inner = .ok text :=
      congrArg Reported.value made
    have filled : ∀ template, rendered template =
        filling (valueOf root registry undefinedText) (segments template) := fun template =>
      render_singlePass_value template root registry undefinedText
    rw [filled, filled, filled, filling_segments_around _ valid, value]

end JsonTemplate.Template
