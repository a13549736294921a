import JsonTemplate.Proofs.Template.Filling

set_option autoImplicit false

/-! When the two ways of substitution agree. Replacing one placeholder after the other goes
wrong where a value, or a value next to the text around it, spells another placeholder. It
does not if no value holds a percent sign and the percent signs of the template outside
placeholders cannot open one: then every text on the way is the template with some of its
placeholders filled and the others untouched. -/

namespace JsonTemplate.Template

open JsonTemplate.Json (Value)
open JsonTemplate.Placeholder
open JsonTemplate.Attempt (failure?)

/-- Whether every percent sign of a template begins a placeholder, stands last, or stands
before a character that neither is a parenthesis nor begins a placeholder. -/
def PercentsSettled (template : Text) : Prop :=
  ∀ rest, '%' :: rest <:+ template →
    Begins ('%' :: rest) ∨ rest = [] ∨ (rest.head? ≠ some '(' ∧ ¬ Begins rest)

instance (template : Text) : Decidable (PercentsSettled template) :=
  decidable_of_iff
    (∀ suffix ∈ template.tails, suffix.head? = some '%' →
      Begins suffix ∨ suffix.tail = [] ∨ (suffix.tail.head? ≠ some '(' ∧ ¬ Begins suffix.tail))
    (by
      constructor
      · intro settled rest suffix
        exact settled ('%' :: rest) ((List.mem_tails _ _).mpr suffix) rfl
      · intro settled suffix member percent
        obtain ⟨rest, rfl⟩ := List.head?_eq_some_iff.mp percent
        exact settled rest ((List.mem_tails _ _).mp member))

theorem PercentsSettled.of_suffix {template tail : Text} (settled : PercentsSettled template)
    (suffix : tail <:+ template) : PercentsSettled tail := by
  intro rest inside
  exact settled rest (inside.trans suffix)

/-- Whether a kept percent sign among segments always stands last or before another kept
character, and never before a parenthesis. -/
def Quiet : List Segment → Prop
  | [] => True
  | .placeholder _ :: rest => Quiet rest
  | .kept char :: rest =>
      (char = '%' → ∀ next ∈ rest.head?, ∃ other, next = .kept other ∧ other ≠ '(') ∧ Quiet rest

private theorem quiet_segments {template : Text} (settled : PercentsSettled template) :
    Quiet (segments template) := by
  induction template using scan_induction with
  | nil => trivial
  | placeholder inner rest valid ih =>
      rw [segments_token_append valid]
      exact ih (settled.of_suffix (List.suffix_append _ _))
  | kept char rest elsewhere ih =>
      rw [segments_cons elsewhere]
      refine ⟨?_, ih (settled.of_suffix (List.suffix_cons _ _))⟩
      rintro rfl next atHead
      rcases settled rest List.suffix_rfl with begins | empty | ⟨noParenthesis, notBegins⟩
      · exact absurd begins elsewhere
      · rw [empty] at atHead
        cases atHead
      · cases rest with
        | nil => cases atHead
        | cons other more =>
            rw [segments_cons notBegins] at atHead
            refine ⟨other, (Option.some.inj atHead).symm, ?_⟩
            intro same
            exact noParenthesis (congrArg some same)

variable (content : Text → Text)

private theorem head?_filled_ne {rest : List Segment}
    (quiet : ∀ next ∈ rest.head?, ∃ other, next = .kept other ∧ other ≠ '(') :
    (rest.flatMap (Segment.filled content)).head? ≠ some '(' := by
  cases rest with
  | nil => exact nofun
  | cons segment more =>
      obtain ⟨other, rfl, different⟩ := quiet segment rfl
      intro same
      exact different (Option.some.inj same)

private theorem not_isPrefixOf_token {inner text : Text} (absent : ¬ token inner <+: text) :
    (token inner).isPrefixOf text = false := by
  rw [Bool.eq_false_iff]
  intro begins
  exact absent (List.isPrefixOf_iff_prefix.mp begins)

private theorem replaceAll_append_of_not_mem (inner replacement rest : Text) {before : Text}
    (absent : '%' ∉ before) :
    Text.replaceAll (token inner) replacement (before ++ rest) =
      before ++ Text.replaceAll (token inner) replacement rest := by
  induction before with
  | nil => rfl
  | cons char before ih =>
      rw [List.mem_cons, not_or] at absent
      have elsewhere : ¬ token inner <+: char :: (before ++ rest) := by
        intro begins
        exact absent.1 (List.cons_prefix_cons.mp begins).1
      rw [List.cons_append, Text.replaceAll_cons _ _ _ _ (not_isPrefixOf_token elsewhere),
        ih absent.2]
      rfl

private theorem replaceAll_percent (inner replacement : Text) {rest : Text}
    (noParenthesis : rest.head? ≠ some '(') :
    Text.replaceAll (token inner) replacement ('%' :: rest) =
      '%' :: Text.replaceAll (token inner) replacement rest := by
  have elsewhere : ¬ token inner <+: '%' :: rest := by
    intro begins
    obtain ⟨after, same⟩ := (List.cons_prefix_cons.mp begins).2
    rw [← same] at noParenthesis
    exact noParenthesis rfl
  exact Text.replaceAll_cons _ _ _ _ (not_isPrefixOf_token elsewhere)

private theorem replaceAll_token_of_ne {inner other : Text} (replacement rest : Text)
    (valid : IsPathText inner) (otherValid : IsPathText other) (different : other ≠ inner) :
    Text.replaceAll (token inner) replacement (token other ++ rest) =
      token other ++ Text.replaceAll (token inner) replacement rest := by
  have elsewhere : ¬ token inner <+: token other ++ rest := by
    rintro ⟨after, same⟩
    exact different (token_append_inj valid otherValid same).1.symm
  have absent : '%' ∉ (token other).tail := percent_not_mem_tail otherValid
  have whole : token other = '%' :: (token other).tail := rfl
  rw [whole, List.cons_append] at elsewhere ⊢
  rw [Text.replaceAll_cons _ _ _ _ (not_isPrefixOf_token elsewhere),
    replaceAll_append_of_not_mem _ _ _ absent]
  rfl

/-- What a placeholder stands for once some inner texts have been dealt with. -/
def contentAfter (done : List Text) (inner : Text) : Text :=
  if inner ∈ done then content inner else token inner

/-- A row of segments whose placeholders may be replaced one after the other. -/
structure Replaceable (row : List Segment) : Prop where
  quiet : Quiet row
  valid : ∀ inner ∈ row.filterMap Segment.inner?, IsPathText inner
  withoutPercent : ∀ inner ∈ row.filterMap Segment.inner?, '%' ∉ content inner

theorem replaceAll_filled {row : List Segment} (replaceable : Replaceable content row)
    (done : List Text) {inner : Text} (innerValid : IsPathText inner) :
    Text.replaceAll (token inner) (content inner)
        (row.flatMap (Segment.filled (contentAfter content done))) =
      row.flatMap (Segment.filled (contentAfter content (done ++ [inner]))) := by
  obtain ⟨quiet, valid, withoutPercent⟩ := replaceable
  induction row with
  | nil => rfl
  | cons segment rest ih =>
      rw [List.flatMap_cons, List.flatMap_cons]
      cases segment with
      | kept char =>
          have later := ih quiet.2 valid withoutPercent
          simp only [Segment.filled, List.singleton_append]
          by_cases percent : char = '%'
          · rw [percent, replaceAll_percent, later]
            exact head?_filled_ne _ (quiet.1 percent)
          · have absent : '%' ∉ [char] := by
              rw [List.mem_singleton]
              exact Ne.symm percent
            rw [← List.singleton_append, replaceAll_append_of_not_mem _ _ _ absent, later]
            rfl
      | placeholder other =>
          change ∀ inner ∈ other :: rest.filterMap Segment.inner?, _ at valid withoutPercent
          rw [List.forall_mem_cons] at valid withoutPercent
          have later := ih quiet valid.2 withoutPercent.2
          simp only [Segment.filled, contentAfter, List.mem_append, List.mem_singleton]
          by_cases replaced : other ∈ done
          · rw [if_pos replaced, if_pos (Or.inl replaced),
              replaceAll_append_of_not_mem _ _ _ withoutPercent.1, later]
          · by_cases same : other = inner
            · rw [if_neg replaced, if_pos (Or.inr same), same,
                Text.replaceAll_append _ _ _ (token_ne_nil inner), later]
            · rw [if_neg replaced, if_neg (not_or.mpr ⟨replaced, same⟩),
                replaceAll_token_of_ne _ _ innerValid valid.1 same, later]

private theorem foldl_replaceAll_filled {row : List Segment} (replaceable : Replaceable content row)
    (todo done : List Text) (todoValid : ∀ inner ∈ todo, IsPathText inner) :
    todo.foldl (fun text inner => Text.replaceAll (token inner) (content inner) text)
        (row.flatMap (Segment.filled (contentAfter content done))) =
      row.flatMap (Segment.filled (contentAfter content (done ++ todo))) := by
  induction todo generalizing done with
  | nil => rw [List.append_nil, List.foldl_nil]
  | cons inner todo ih =>
      rw [List.forall_mem_cons] at todoValid
      rw [List.foldl_cons, replaceAll_filled content replaceable done todoValid.1,
        ih (done ++ [inner]) todoValid.2, List.append_assoc, List.singleton_append]

theorem replaceInTurn_filled {template : Text}
    (replaceable : Replaceable content (segments template)) :
    replaceInTurn template (Decoding.ofText template).tokens
        ((distinctInners template).map content) =
      (segments template).flatMap (Segment.filled content) := by
  have listed : ∀ inner, inner ∈ distinctInners template ↔ inner ∈ inners template :=
    Text.mem_firstAppearances_iff (inners template)
  have started : (segments template).flatMap (Segment.filled (contentAfter content [])) =
      template := by
    have untouched : contentAfter content [] = token := by
      funext inner
      exact if_neg List.not_mem_nil
    rw [untouched]
    exact flatMap_text_segments template
  have replaced := foldl_replaceAll_filled content replaceable (distinctInners template) []
    (fun inner member => replaceable.valid inner ((listed inner).mp member))
  rw [started, List.nil_append] at replaced
  rw [replaceInTurn, Decoding.tokens, entries_ofText, List.map_map, List.zip_map', List.foldl_map]
  refine Eq.trans replaced ?_
  apply List.flatMap_congr
  intro segment member
  cases segment with
  | kept char => rfl
  | placeholder inner =>
      have found : inner ∈ inners template := List.mem_filterMap.mpr ⟨_, member, rfl⟩
      exact if_pos ((listed inner).mpr found)

private theorem not_infix_append_of_not_mem {before rest : Text} (absent : '%' ∉ before)
    (none : ¬ ['%', '('] <:+: rest) : ¬ ['%', '('] <:+: before ++ rest := by
  induction before with
  | nil => exact none
  | cons char before ih =>
      rw [List.mem_cons, not_or] at absent
      rw [List.cons_append, List.infix_cons_iff, List.cons_prefix_cons]
      rintro (⟨same, -⟩ | later)
      · exact absent.1 same
      · exact ih absent.2 later

private theorem not_infix_filled {row : List Segment} (quiet : Quiet row)
    (withoutPercent : ∀ inner ∈ row.filterMap Segment.inner?, '%' ∉ content inner) :
    ¬ ['%', '('] <:+: row.flatMap (Segment.filled content) := by
  induction row with
  | nil => simp
  | cons segment rest ih =>
      rw [List.flatMap_cons]
      cases segment with
      | kept char =>
          have later := ih quiet.2 withoutPercent
          rw [Segment.filled, List.singleton_append, List.infix_cons_iff, List.cons_prefix_cons]
          rintro (⟨percent, ⟨more, opens⟩⟩ | inside)
          · have noParenthesis := head?_filled_ne content (quiet.1 percent.symm)
            rw [← opens] at noParenthesis
            exact noParenthesis rfl
          · exact later inside
      | placeholder inner =>
          change ∀ other ∈ inner :: rest.filterMap Segment.inner?, _ at withoutPercent
          rw [List.forall_mem_cons] at withoutPercent
          exact not_infix_append_of_not_mem withoutPercent.1 (ih quiet withoutPercent.2)

theorem free_of_not_infix {text : Text} (none : ¬ ['%', '('] <:+: text) : Free text := by
  intro before inner after valid same
  refine none ⟨before, inner ++ ')' :: after, ?_⟩
  rw [same, token]
  simp

/-- If the percent signs of a template are settled and no value of its placeholders holds
one, both ways of substitution render it alike, and what comes out is left as it is by
any further rendering. -/
theorem render_replaceAll_eq_singlePass (template : Text) (root : Value) (registry : Registry)
    (undefinedText : Text) (settled : PercentsSettled template)
    (withoutPercent : ∀ entry ∈ (Decoding.ofText template).entries, ∀ text,
      (entryText root registry undefinedText entry).value = .ok text → '%' ∉ text) :
    render template root registry ⟨.replaceAll, undefinedText⟩ =
        render template root registry ⟨.singlePass, undefinedText⟩ ∧
      ∀ substitution out,
        (render template root registry ⟨substitution, undefinedText⟩).value = .ok out →
          Free out ∧
            ∀ otherRoot otherRegistry options,
              render out otherRoot otherRegistry options = .silent (.ok out) := by
  let value := valueOf root registry undefinedText
  let content := fun inner => (value inner).toOption.getD []
  have quiet : Quiet (segments template) := quiet_segments settled
  have contentWithoutPercent : ∀ inner ∈ inners template, '%' ∉ content inner := by
    intro inner member
    have listed : entryOf inner ∈ (Decoding.ofText template).entries := by
      rw [entries_ofText]
      exact List.mem_map_of_mem ((Text.mem_firstAppearances_iff _ _).mpr member)
    cases resolved : value inner with
    | error failure => simp [content, resolved, Except.toOption]
    | ok text =>
        have absent := withoutPercent (entryOf inner) listed text resolved
        simpa [content, resolved, Except.toOption] using absent
  have replaceable : Replaceable content (segments template) :=
    { quiet := quiet
      valid := fun inner member => ((mem_inners_iff template inner).mp member).1
      withoutPercent := contentWithoutPercent }
  have substituted := (replaceInTurn_filled content replaceable).trans
    (splice_occurrences content template).symm
  have sameValue : (render template root registry ⟨.replaceAll, undefinedText⟩).value =
      (render template root registry ⟨.singlePass, undefinedText⟩).value := by
    rw [render_value, render_value]
    cases (inners template).findSome? (fun inner => failure? (value inner)) with
    | some failure => rfl
    | none => exact congrArg Except.ok substituted
  refine ⟨congrArg₂ Reported.mk sameValue rfl, ?_⟩
  intro substitution out rendered
  have filled : filling value (segments template) = .ok out := by
    rw [← render_singlePass_value]
    cases substitution with
    | singlePass => exact rendered
    | replaceAll => exact sameValue.symm.trans rendered
  have free : Free out := by
    rw [filling_eq] at filled
    cases found : (inners template).findSome? (fun inner => failure? (value inner)) with
    | some failure =>
        rw [inners] at found
        rw [found] at filled
        cases filled
    | none =>
        rw [inners] at found
        rw [found] at filled
        cases filled
        exact free_of_not_infix (not_infix_filled content quiet contentWithoutPercent)
  exact ⟨free, render_of_free free⟩

/-- An empty value between two texts that would spell a placeholder, were it not for the
space. -/
theorem render_replaceAll_eq_singlePass_sample :
    let root : Value := .object [(['a'], .string []), (['b'], .string ['('])]
    let template := "5% %(a)(b)%(b)%(a)%".toList
    let out := "5% (b)(%".toList
    PercentsSettled template ∧
      (∀ entry ∈ (Decoding.ofText template).entries, ∀ text,
        (entryText root Registry.empty [] entry).value = .ok text → '%' ∉ text) ∧
      render template root Registry.empty ⟨.replaceAll, []⟩ =
        render template root Registry.empty ⟨.singlePass, []⟩ ∧
      (render template root Registry.empty ⟨.replaceAll, []⟩).value = .ok out ∧ Free out := by
  intro root template out
  have settled : PercentsSettled template := by decide
  have withoutPercent : ∀ entry ∈ (Decoding.ofText template).entries, ∀ text,
      (entryText root Registry.empty [] entry).value = .ok text → '%' ∉ text := by
    have listed : (Decoding.ofText template).entries = [entryOf ['a'], entryOf ['b']] := by
      decide
    intro entry member text resolved
    rw [listed, List.mem_cons, List.mem_singleton] at member
    rcases member with rfl | rfl
    · cases resolved
      decide
    · cases resolved
      decide
  have alike :=
    render_replaceAll_eq_singlePass template root Registry.empty [] settled withoutPercent
  have rendered : (render template root Registry.empty ⟨.replaceAll, []⟩).value = .ok out := rfl
  exact ⟨settled, withoutPercent, alike.1, rendered, (alike.2 .replaceAll out rendered).1⟩

end JsonTemplate.Template
