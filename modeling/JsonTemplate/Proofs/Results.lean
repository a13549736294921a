import JsonTemplate.Proofs.Placeholder.Assembly
import JsonTemplate.Proofs.Walk.Addresses
import JsonTemplate.Results

set_option autoImplicit false

/-! Selecting the results of a response, against resolving the same path. Both go down by
the members that the plain steps name. They differ at an array: a walk that reads one ends
there, while a selection takes it for the results if no step is left. -/

namespace JsonTemplate

open JsonTemplate.Json (Value Key Address)
open JsonTemplate.Placeholder (IsPathText token)

def Path.plain (names : List Text) : Path := Path.ofAccesses (names.map .member)

def Json.Address.plain (names : List Text) : Address := names.map .member

namespace Walk

variable {root value part : Value} {accessor : Text} {names : List Text}

private theorem eq_plain_of_leads {address : Address}
    (leads : Leads value (names.map .member) address) : address = Address.plain names := by
  induction names generalizing value address with
  | nil =>
      cases leads
      rfl
  | cons name rest ih =>
      cases leads with
      | cons step there further =>
          cases step
          rw [ih further]
          rfl

private theorem at?_plain_of_found
    (found : (along root accessor value (names.map .member)).value = .found part) :
    value.at? (Address.plain names) = some part := by
  obtain ⟨address, leads, there⟩ := exists_leads_of_found found
  rw [← eq_plain_of_leads leads]
  exact there

/-- Whether the last of some plain steps reads an array out of an object. -/
def ReadsArrayLast (root : Value) (accessor : Text) (value : Value) (names : List Text)
    (array : Value) : Prop :=
  array.isArray = true ∧ ∃ before last members, names = before ++ [last] ∧
    (along root accessor value (before.map .member)).value = .found (.object members) ∧
    Value.lookup last members = some array

private theorem stepFrom_object_member (root : Value) (accessor : Text)
    {members : List (Text × Value)} {name : Text}
    (there : Value.lookup name members = some part) :
    (stepFrom root accessor (.object members) (.member name)).value =
      if part.isArray then .ended (.standIn part .arrayWithoutFilter) else .reached part := by
  have notArray : ¬ (Value.object members).isArray = true := Bool.false_ne_true
  change (read accessor (.object members) (.member name)).value = _
  rw [read_member, Value.member?_object, there, if_neg notArray]
  dsimp only
  split <;> rfl

private theorem along_last_member {before : List Text} {last : Text} {members : List (Text × Value)}
    (reached : (along root accessor value (before.map .member)).value = .found (.object members))
    (there : Value.lookup last members = some part) :
    (along root accessor value ((before ++ [last]).map .member)).value =
      if part.isArray then .standIn part .arrayWithoutFilter else .found part := by
  have step := stepFrom_object_member root accessor there
  rw [List.map_append, along_append_of_found reached, List.map_singleton]
  cases array : part.isArray with
  | true =>
      rw [array] at step
      exact congrArg Reported.value (along_cons_ended step [])
  | false =>
      rw [array] at step
      exact congrArg Reported.value (along_cons_reached step [])

private theorem standIn_of_readsArrayLast (reads : ReadsArrayLast root accessor value names part) :
    (along root accessor value (names.map .member)).value =
      .standIn part .arrayWithoutFilter := by
  obtain ⟨array, before, last, members, rfl, reached, there⟩ := reads
  rw [along_last_member reached there, if_pos array]

/-- A part of a document lies where plain steps lead if the walk finds it there, or if it is
an array, at which the walk ends with the last step. -/
theorem at?_plain_iff :
    value.at? (Address.plain names) = some part ↔
      (along root accessor value (names.map .member)).value = .found part ∨
        ReadsArrayLast root accessor value names part := by
  constructor
  · intro there
    -- The last step is split off, because only there an array is taken for the part.
    induction names using List.reverseRecOn generalizing part with
    | nil =>
        cases there
        exact Or.inl rfl
    | append_singleton before last ih =>
        obtain ⟨parent, reached, below⟩ :
            ∃ parent, value.at? (Address.plain before) = some parent ∧
              parent.member? last = some part := by
          rw [Address.plain, List.map_append, Value.at?_append_eq_some_iff] at there
          obtain ⟨parent, reached, below⟩ := there
          exact ⟨parent, reached, (Value.at?_member parent last).symm.trans below⟩
        cases parent with
        | object members =>
            have found : (along root accessor value (before.map .member)).value =
                .found (.object members) :=
              (ih reached).resolve_right (fun reads => nomatch reads.1)
            cases array : part.isArray with
            | true => exact Or.inr ⟨array, before, last, members, rfl, found, below⟩
            | false =>
                left
                rw [along_last_member found below, if_neg (by rw [array]; exact Bool.false_ne_true)]
        | null => cases below
        | bool flag => cases below
        | number figure => cases below
        | string text => cases below
        | array items => cases below
  · rintro (found | ⟨-, before, last, members, rfl, reached, there⟩)
    · exact at?_plain_of_found found
    · rw [Address.plain, List.map_append, Value.at?_append_eq_some_iff]
      exact ⟨_, at?_plain_of_found reached, (Value.at?_member _ last).trans there⟩

end Walk

namespace Results

def Names (identifier : Text) (names : List Text) : Prop :=
  ∃ inner, IsPathText inner ∧ identifier = token inner ∧ Path.ofText inner = Path.plain names

theorem path?_ofText_self_iff (identifier : Text) (path : Path) :
    (Decoding.ofText identifier).path? identifier = some path ↔
      ∃ inner, IsPathText inner ∧ identifier = token inner ∧ Path.ofText inner = path := by
  rw [Decoding.path?_ofText_eq_some_iff]
  constructor
  · rintro ⟨inner, member, same, samePath⟩
    exact ⟨inner, ((Placeholder.mem_inners_iff _ inner).mp member).1, same, samePath.symm⟩
  · rintro ⟨inner, valid, same, samePath⟩
    refine ⟨inner, (Placeholder.mem_inners_iff _ inner).mpr ⟨valid, [], [], ?_⟩, same,
      samePath.symm⟩
    rw [same, List.nil_append, List.append_nil]

private theorem plain_injective : Function.Injective Path.plain := by
  intro names others same
  have sameSteps := congrArg Path.steps same
  have sameAccesses : names.map Access.member = others.map Access.member :=
    List.map_injective_iff.mpr (fun _ _ => Step.access.inj) sameSteps
  exact List.map_injective_iff.mpr (fun _ _ => Access.member.inj) sameAccesses

theorem names_unique {identifier : Text} {names others : List Text}
    (named : Names identifier names) (alsoNamed : Names identifier others) : names = others := by
  obtain ⟨inner, -, same, path⟩ := named
  obtain ⟨other, -, sameOther, pathOther⟩ := alsoNamed
  have equal : inner = other := Placeholder.token_injective (same.symm.trans sameOther)
  rw [equal, pathOther] at path
  exact (plain_injective path).symm

private theorem names_ne_nil {identifier : Text} {names : List Text}
    (named : Names identifier names) :
    names ≠ [] := by
  obtain ⟨inner, -, -, path⟩ := named
  rintro rfl
  exact Path.steps_ofText_ne_nil inner (congrArg Path.steps path)

theorem follow_eq_ok_iff (value part : Value) (steps : List Step) :
    follow value steps = .ok part ↔
      ∃ names, steps = (Path.plain names).steps ∧ value.at? (Address.plain names) = some part := by
  induction steps generalizing value with
  | nil =>
      constructor
      · intro followed
        cases followed
        exact ⟨[], rfl, rfl⟩
      · rintro ⟨names, none, there⟩
        cases names with
        | nil =>
            cases there
            rfl
        | cons name rest => cases none
  | cons step rest ih =>
      constructor
      · intro followed
        rw [follow] at followed
        split at followed
        · rename_i next leads
          obtain ⟨names, plain, there⟩ := (ih next).mp followed
          cases step with
          | call name params => cases leads
          | access access =>
              cases access with
              | record name extract conditions => cases leads
              | member name =>
                  have child : value.child? (.member name) = some next := leads
                  exact ⟨name :: names, congrArg (.access (.member name) :: ·) plain,
                    (Value.at?_cons child _).trans there⟩
        · cases followed
      · rintro ⟨names, plain, there⟩
        cases names with
        | nil => cases plain
        | cons name names =>
            obtain ⟨rfl, plainRest⟩ := List.cons.inj plain
            obtain ⟨next, leads, further⟩ := Option.bind_eq_some_iff.mp there
            have next?_eq : next? value (.access (.member name)) = some next := leads
            rw [follow, next?_eq]
            exact (ih next).mpr ⟨names, plainRest, further⟩

/-- A selection by an identifier: the part to which its plain steps lead, or the whole
document and one notice. -/
inductive Selects (document : Value) (identifier : Text) : Reported Selection → Prop where
  | part {names : List Text} {part : Value} (named : Names identifier names)
      (there : document.at? (Address.plain names) = some part) :
      Selects document identifier (.silent (.part part))
  | whole {message : Text}
      (nowhere : ∀ names part, Names identifier names →
        document.at? (Address.plain names) ≠ some part) :
      Selects document identifier (.noted .whole (notFound identifier message))

theorem selects_selectBy (document : Value) (identifier : Text) :
    Selects document identifier (selectBy document identifier) := by
  unfold selectBy
  split
  · rename_i unknown
    refine .whole ?_
    rintro names part ⟨inner, valid, same, path⟩
    rw [(path?_ofText_self_iff identifier (Path.plain names)).mpr ⟨inner, valid, same, path⟩]
      at unknown
    cases unknown
  · rename_i path known
    obtain ⟨inner, valid, same, rfl⟩ := (path?_ofText_self_iff identifier path).mp known
    split
    · rename_i part followed
      obtain ⟨names, plain, there⟩ := (follow_eq_ok_iff document part _).mp followed
      exact .part ⟨inner, valid, same, congrArg Path.mk plain⟩ there
    · rename_i step stuck
      refine .whole ?_
      rintro names part ⟨other, -, sameOther, pathOther⟩ there
      have equal : other = inner := Placeholder.token_injective (sameOther.symm.trans same)
      have followed := (follow_eq_ok_iff document part _).mpr ⟨names, rfl, there⟩
      rw [← pathOther, equal, stuck] at followed
      cases followed

private theorem select_of_not_blank {text : Text} (notBlank : Text.trimmed text ≠ [])
    (document : Value) :
    select document (some text) = selectBy document (Text.trimmed text) := by
  unfold select
  dsimp only
  split
  · contradiction
  · rename_i same
    rw [same]

/-- Whether a selection falls back to the whole document and says so, and nothing else. -/
structure Refuses (document : Value) (identifier : Text) (selection : Reported Selection) :
    Prop where
  returned : selection.value.value document = document
  told : ∃ notice, selection.notices = [notice] ∧ notice.kind = .resultsNotFound ∧
    notice.accessor = identifier

namespace Selects

variable {document : Value} {identifier : Text} {selection : Reported Selection}

private theorem of_there {names : List Text} {part : Value}
    (selects : Selects document identifier selection)
    (named : Names identifier names) (there : document.at? (Address.plain names) = some part) :
    selection.value.value document = part ∧ selection.notices = [] := by
  cases selects with
  | part alsoNamed alsoThere =>
      rw [names_unique named alsoNamed, alsoThere] at there
      exact ⟨Option.some.inj there, rfl⟩
  | whole nowhere => exact absurd there (nowhere names part named)

theorem refuses (selects : Selects document identifier selection)
    (nowhere : ∀ names part, Names identifier names →
      document.at? (Address.plain names) ≠ some part) : Refuses document identifier selection := by
  cases selects with
  | part named there => exact absurd there (nowhere _ _ named)
  | whole _ => exact ⟨rfl, _, rfl, rfl, rfl⟩

/-- The whole document is returned only with the notice: a part of it is never the whole. -/
theorem returned_iff (selects : Selects document identifier selection) :
    selection.value.value document = document ↔
      ∃ notice ∈ selection.notices, notice.kind = .resultsNotFound := by
  cases selects with
  | @part names part named there =>
      constructor
      · intro whole
        cases names with
        | nil => exact absurd rfl (names_ne_nil named)
        | cons name rest => exact absurd whole (Value.ne_of_at?_cons there)
      · rintro ⟨notice, member, -⟩
        cases member
  | whole nowhere => exact ⟨fun _ => ⟨_, List.mem_singleton_self _, rfl⟩, fun _ => rfl⟩

end Selects

/-- Selecting by an identifier agrees with resolving the path that it names. What the path
resolves to is selected, and so is an array that its last step reads out of an object, where
resolving asks for a record step; in all other cases the selection is refused. -/
theorem select_agrees_with_resolve (document : Value) (text : Text)
    (notBlank : Text.trimmed text ≠ []) (accessor : Text) (registry : Registry) :
    let identifier := Text.trimmed text
    let selection := select document (some text)
    let returned := selection.value.value document
    let outcome (names : List Text) :=
      ((Path.plain names).resolve document accessor registry).value
    let readsArrayLast (names : List Text) (array : Value) :=
      outcome names = .ok (.standIn array .arrayWithoutFilter) ∧
        ∃ before last members, names = before ++ [last] ∧
          outcome before = .ok (.found (.object members)) ∧ Value.lookup last members = some array
    (∀ names, Names identifier names →
        (∀ part, outcome names = .ok (.found part) →
          returned = part ∧ selection.notices = []) ∧
        (∀ array, readsArrayLast names array → returned = array ∧ selection.notices = []) ∧
        ((∀ part, outcome names ≠ .ok (.found part) ∧ ¬ readsArrayLast names part) →
          Refuses document identifier selection)) ∧
      ((∀ names, ¬ Names identifier names) → Refuses document identifier selection) ∧
      (returned = document ↔ ∃ notice ∈ selection.notices, notice.kind = .resultsNotFound) := by
  intro identifier selection returned outcome readsArrayLast
  have selects : Selects document identifier selection := by
    change Selects document identifier (select document (some text))
    rw [select_of_not_blank notBlank]
    exact selects_selectBy document identifier
  have outcome_iff : ∀ names other, outcome names = .ok other ↔
      (Walk.along document accessor document (names.map .member)).value = other := by
    intro names other
    change ((Path.plain names).resolve document accessor registry).value = _ ↔ _
    rw [Path.plain, Path.resolve_ofAccesses]
    exact ⟨Except.ok.inj, congrArg Except.ok⟩
  have readsArrayLast_iff : ∀ names array, readsArrayLast names array ↔
      Walk.ReadsArrayLast document accessor document names array := by
    intro names array
    constructor
    · rintro ⟨ended, before, last, members, whole, reached, there⟩
      have isArray := (Walk.endsBefore_of_standIn ((outcome_iff _ _).mp ended)).describes
      exact ⟨isArray, before, last, members, whole, (outcome_iff _ _).mp reached, there⟩
    · intro reads
      have ended := Walk.standIn_of_readsArrayLast reads
      obtain ⟨-, before, last, members, whole, reached, there⟩ := reads
      exact ⟨(outcome_iff _ _).mpr ended, before, last, members, whole,
        (outcome_iff _ _).mpr reached, there⟩
  refine ⟨?_, ?_, selects.returned_iff⟩
  · intro names named
    refine ⟨?_, ?_, ?_⟩
    · intro part found
      exact selects.of_there named
        (Walk.at?_plain_iff.mpr (Or.inl ((outcome_iff names _).mp found)))
    · intro array reads
      exact selects.of_there named
        (Walk.at?_plain_iff.mpr (Or.inr ((readsArrayLast_iff names array).mp reads)))
    · intro neither
      apply selects.refuses
      intro others part alsoNamed there
      rw [← names_unique named alsoNamed] at there
      rcases Walk.at?_plain_iff.mp there with found | reads
      · exact (neither part).1 ((outcome_iff names _).mpr found)
      · exact (neither part).2 ((readsArrayLast_iff names part).mpr reads)
  · intro unnamed
    exact selects.refuses (fun names part named => absurd named (unnamed names))

/-- Two steps lead to an array in an object; one more step leads nowhere, since it would have
to be read from the array. -/
theorem select_agrees_with_resolve_sample :
    let document : Value := .object [(['f'], .object [(['e'], .array [.bool true])])]
    let outcome (names : List Text) :=
      ((Path.plain names).resolve document [] Registry.empty).value
    let given (inner : Text) := " ".toList ++ token inner ++ "\n".toList
    let selected (inner : Text) := select document (some (given inner))
    (Text.trimmed (given "f.e".toList) ≠ [] ∧
        Names (Text.trimmed (given "f.e".toList)) [['f'], ['e']] ∧
        outcome [['f'], ['e']] = .ok (.standIn (.array [.bool true]) .arrayWithoutFilter) ∧
        (selected "f.e".toList).value.value document = .array [.bool true] ∧
        (selected "f.e".toList).notices = []) ∧
      (outcome [['f'], ['e'], ['b']] = .ok (.standIn (.array [.bool true]) .arrayWithoutFilter) ∧
        ((selected "f.e.b".toList).value.value document = document ↔
          ∃ notice ∈ (selected "f.e.b".toList).notices, notice.kind = .resultsNotFound)) := by
  intro document outcome given selected
  have notBlank : Text.trimmed (given "f.e".toList) ≠ [] := by decide
  have named : Names (Text.trimmed (given "f.e".toList)) [['f'], ['e']] :=
    ⟨"f.e".toList, by decide, by decide, by decide⟩
  have ended : outcome [['f'], ['e']] =
      .ok (.standIn (.array [.bool true]) .arrayWithoutFilter) := rfl
  have agrees := select_agrees_with_resolve document _ notBlank [] Registry.empty
  have agreesFurther := select_agrees_with_resolve document (given "f.e.b".toList) (by decide) []
    Registry.empty
  exact ⟨⟨notBlank, named, ended,
      (agrees.1 _ named).2.1 (.array [.bool true]) ⟨ended, [['f']], ['e'], _, rfl, rfl, rfl⟩⟩,
    rfl, agreesFurther.2.2⟩

end Results
end JsonTemplate
