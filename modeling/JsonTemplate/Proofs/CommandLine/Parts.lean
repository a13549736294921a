import JsonTemplate.CommandLine.Run
import JsonTemplate.Proofs.Text.Utf8
import Mathlib.Data.List.Forall2

set_option autoImplicit false

/-! What the parts of a command line come to: the document that it is given, the options, the
listing of a decoded text, the value of a definition and the items of the results. Each is said
without the function that a command line calls for it, and that function is shown to come to
it and to nothing else. -/

namespace JsonTemplate

open JsonTemplate.Json (Value)

namespace Attempt

variable {α β : Type} {attempt : α → Attempt β}

private theorem andThen_of_ok {first : Attempt α} {result : α} (done : first.value = .ok result)
    (next : α → Attempt β) :
    first.andThen next = ⟨(next result).value, first.notices ++ (next result).notices⟩ := by
  rw [andThen, done]

private theorem andThen_of_error {first : Attempt α} {failure : Failure}
    (failed : first.value = .error failure) (next : α → Attempt β) :
    first.andThen next = ⟨.error failure, first.notices⟩ := by
  rw [andThen, failed]

private theorem forEach_of_ok {items : List α} {results : List β}
    (each : List.Forall₂ (fun item result => (attempt item).value = .ok result) items results) :
    forEach attempt items = ⟨.ok results, items.flatMap (fun item => (attempt item).notices)⟩ := by
  induction each with
  | nil => rfl
  | cons done _ ih =>
      rw [forEach, andThen_of_ok done, ih]
      rfl

private theorem forEach_of_error {done rest : List α} {item : α} {failure : Failure}
    (passed : ∀ other ∈ done, ∃ result, (attempt other).value = .ok result)
    (failed : (attempt item).value = .error failure) :
    forEach attempt (done ++ item :: rest) =
      ⟨.error failure, (done ++ [item]).flatMap (fun item => (attempt item).notices)⟩ := by
  induction done with
  | nil =>
      rw [List.nil_append, forEach, andThen_of_error failed, List.nil_append,
        List.flatMap_singleton]
  | cons first done ih =>
      rw [List.forall_mem_cons] at passed
      obtain ⟨⟨result, made⟩, passed⟩ := passed
      rw [List.cons_append, forEach, andThen_of_ok made, ih passed]
      rfl

private theorem results_or_failure (attempt : α → Attempt β) (items : List α) :
    (∃ results,
        List.Forall₂ (fun item result => (attempt item).value = .ok result) items results) ∨
      ∃ done item rest failure, items = done ++ item :: rest ∧
        (∀ other ∈ done, ∃ result, (attempt other).value = .ok result) ∧
        (attempt item).value = .error failure := by
  induction items with
  | nil => exact Or.inl ⟨[], .nil⟩
  | cons item rest ih =>
      cases made : (attempt item).value with
      | error failure => exact Or.inr ⟨[], item, rest, failure, rfl, nofun, made⟩
      | ok result =>
          rcases ih with ⟨results, each⟩ | ⟨done, next, later, failure, rfl, passed, failed⟩
          · exact Or.inl ⟨result :: results, .cons made each⟩
          · exact Or.inr ⟨item :: done, next, later, failure, rfl,
              List.forall_mem_cons.mpr ⟨⟨result, made⟩, passed⟩, failed⟩

end Attempt

inductive Condition.ShownAs : Condition → Value → Prop where
  | equals (key value : Text) :
      ShownAs (.equals key value)
        (.object [("key".toList, .string key), ("value".toList, .string value)])
  | lacks (key : Text) :
      ShownAs (.lacks key) (.object [("key".toList, .string key), ("value".toList, .null)])

/-- An object with the kind of a step and all that the step states. -/
inductive Step.ShownAs : Step → Value → Prop where
  | member (name : Text) :
      ShownAs (.access (.member name))
        (.object [("step".toList, .string "field".toList), ("name".toList, .string name)])
  | record (name extract : Text) {conditions : List Condition} {shown : List Value}
      (each : List.Forall₂ Condition.ShownAs conditions shown) :
      ShownAs (.access (.record name extract conditions))
        (.object [("step".toList, .string "filtered".toList), ("name".toList, .string name),
          ("extract".toList, .string extract), ("conditions".toList, .array shown)])
  | call (name : Text) :
      ShownAs (.call name none)
        (.object [("step".toList, .string "function".toList), ("name".toList, .string name),
          ("params".toList, .null)])
  | callWith (name params : Text) :
      ShownAs (.call name (some params))
        (.object [("step".toList, .string "function".toList), ("name".toList, .string name),
          ("params".toList, .string params)])

inductive Entry.ShownAs : Entry → Text × Value → Prop where
  | intro (token : Text) {steps : List Step} {shown : List Value}
      (each : List.Forall₂ Step.ShownAs steps shown) :
      ShownAs ⟨token, ⟨steps⟩⟩ (token, .array shown)

inductive Decoding.ShownAs (decoding : Decoding) : Value → Prop where
  | intro {members : List (Text × Value)}
      (each : List.Forall₂ Entry.ShownAs decoding.entries members) :
      ShownAs decoding (.object members)

private theorem forall₂_iff_map {α β : Type} {shown : α → β → Prop} {document : α → β}
    (shows : ∀ item result, shown item result ↔ document item = result) (items : List α)
    (results : List β) : List.Forall₂ shown items results ↔ items.map document = results := by
  have same : shown = fun item result => document item = result := by
    funext item result
    exact propext (shows item result)
  rw [same, ← List.forall₂_map_left_iff (f := document) (R := Eq), List.forall₂_eq_eq_eq]

private theorem Condition.shownAs_iff (condition : Condition) (shown : Value) :
    condition.ShownAs shown ↔ condition.document = shown := by
  constructor
  · intro shows
    cases shows with
    | equals key value => rfl
    | lacks key => rfl
  · intro same
    subst same
    cases condition with
    | equals key value => exact .equals key value
    | lacks key => exact .lacks key

private theorem Step.shownAs_iff (step : Step) (shown : Value) :
    step.ShownAs shown ↔ step.document = shown := by
  constructor
  · intro shows
    cases shows with
    | member name => rfl
    | @record name extract conditions shown each =>
        rw [Step.document, (forall₂_iff_map Condition.shownAs_iff _ _).mp each]
    | call name => rfl
    | callWith name params => rfl
  · intro same
    subst same
    cases step with
    | access access =>
        cases access with
        | member name => exact .member name
        | record name extract conditions =>
            exact .record name extract ((forall₂_iff_map Condition.shownAs_iff _ _).mpr rfl)
    | call name params =>
        cases params with
        | none => exact .call name
        | some params => exact .callWith name params

private theorem Entry.shownAs_iff (entry : Entry) (shown : Text × Value) :
    entry.ShownAs shown ↔ (entry.token, entry.path.document) = shown := by
  constructor
  · intro shows
    cases shows with
    | intro token each => rw [Path.document, (forall₂_iff_map Step.shownAs_iff _ _).mp each]
  · intro same
    subst same
    exact .intro entry.token ((forall₂_iff_map Step.shownAs_iff _ _).mpr rfl)

theorem Decoding.shownAs_iff (decoding : Decoding) (shown : Value) :
    decoding.ShownAs shown ↔ decoding.document = shown := by
  constructor
  · intro shows
    cases shows with
    | intro each => rw [document, (forall₂_iff_map Entry.shownAs_iff _ _).mp each]
  · intro same
    subst same
    exact .intro ((forall₂_iff_map Entry.shownAs_iff _ _).mpr rfl)

/-- The value that the path of an entry leads to: the one found, the one that stands in for it,
or null where there is none. -/
inductive Entry.LeadsTo (entry : Entry) (registry : Registry) (root : Value) :
    Except Failure Value → Prop where
  | found {value : Value}
      (resolved : (entry.path.resolve root entry.token registry).value = .ok (.found value)) :
      LeadsTo entry registry root (.ok value)
  | standIn {value : Value} {reason : StandInReason}
      (resolved : (entry.path.resolve root entry.token registry).value =
        .ok (.standIn value reason)) :
      LeadsTo entry registry root (.ok value)
  | absent (resolved : (entry.path.resolve root entry.token registry).value = .ok .absent) :
      LeadsTo entry registry root (.ok .null)
  | failed {failure : Failure}
      (refused : (entry.path.resolve root entry.token registry).value = .error failure) :
      LeadsTo entry registry root (.error failure)

/-- The value of a definition and what is reported on the way to it: the value of its first
placeholder, with a notice in front if there are more, or the document if there is none. -/
inductive Definition.ComesTo (definition : Text) (registry : Registry) (root : Value) :
    Except Failure Value → List Notice → Prop where
  | whole (none : (Decoding.ofText definition).entries = []) :
      ComesTo definition registry root (.ok root) []
  | only {entry : Entry} {result : Except Failure Value}
      (entries : (Decoding.ofText definition).entries = [entry])
      (leads : entry.LeadsTo registry root result) :
      ComesTo definition registry root result
        (entry.path.resolve root entry.token registry).notices
  | first {entry second : Entry} {rest : List Entry} {result : Except Failure Value}
      (entries : (Decoding.ofText definition).entries = entry :: second :: rest)
      (leads : entry.LeadsTo registry root result) :
      ComesTo definition registry root result
        (.of .severalAccessors definition ("expected a single accessor definition but found ".toList
            ++ Text.ofNat (rest.length + 2) ++ ", using the first".toList) ::
          (entry.path.resolve root entry.token registry).notices)

private theorem Entry.leadsTo_iff (entry : Entry) (registry : Registry) (root : Value)
    (result : Except Failure Value) :
    entry.LeadsTo registry root result ↔
      (entry.path.resolve root entry.token registry).value.map Outcome.value = result := by
  constructor
  · intro leads
    cases leads with
    | found resolved => rw [resolved]; rfl
    | standIn resolved => rw [resolved]; rfl
    | absent resolved => rw [resolved]; rfl
    | failed refused => rw [refused]; rfl
  · intro same
    subst same
    cases resolved : (entry.path.resolve root entry.token registry).value with
    | error failure => exact .failed resolved
    | ok outcome =>
        cases outcome with
        | found value => exact .found resolved
        | absent => exact .absent resolved
        | standIn value reason => exact .standIn resolved

private theorem Definition.resolve_eq (definition : Text) (registry : Registry) (root : Value) :
    resolve definition root registry =
      match (Decoding.ofText definition).entries with
      | [] => .silent (.ok (.standIn root .noAccessor))
      | [entry] => entry.path.resolve root entry.token registry
      | entry :: _ :: rest =>
          ⟨(entry.path.resolve root entry.token registry).value,
            severalAccessors definition (rest.length + 2) ::
              (entry.path.resolve root entry.token registry).notices⟩ := by
  unfold resolve
  cases (Decoding.ofText definition).entries with
  | nil => rfl
  | cons entry rest =>
      cases rest with
      | nil => rfl
      | cons second rest =>
          have several : 1 < (entry :: second :: rest).length := Nat.succ_lt_succ (Nat.succ_pos _)
          dsimp only
          rw [if_pos several]
          rfl

theorem Definition.comesTo_iff (definition : Text) (registry : Registry) (root : Value)
    (result : Except Failure Value) (notices : List Notice) :
    ComesTo definition registry root result notices ↔
      (resolve definition root registry).map Outcome.value = ⟨result, notices⟩ := by
  constructor
  · intro comes
    cases comes with
    | whole none =>
        rw [resolve_eq, none]
        rfl
    | only entries leads =>
        rw [resolve_eq, entries, ← (Entry.leadsTo_iff _ _ _ _).mp leads]
        rfl
    | first entries leads =>
        rw [resolve_eq, entries, ← (Entry.leadsTo_iff _ _ _ _).mp leads]
        rfl
  · intro resolved
    rw [resolve_eq] at resolved
    split at resolved
    · rename_i none
      cases resolved
      exact .whole none
    · rename_i entry entries
      cases resolved
      exact .only entries ((Entry.leadsTo_iff _ _ _ _).mpr rfl)
    · rename_i entry second rest entries
      cases resolved
      exact .first entries ((Entry.leadsTo_iff _ _ _ _).mpr rfl)

namespace CommandLine

inductive Selects (document : Value) (results : Option Text) : Value → Prop where
  | whole (kept : (Results.select document results).value = .whole) :
      Selects document results document
  | part {value : Value} (reached : (Results.select document results).value = .part value) :
      Selects document results value

inductive Items : Value → List Value → Prop where
  | array (items : List Value) : Items (.array items) items
  | single {value : Value} (other : value.isArray = false) : Items value [value]

theorem items_iff (value : Value) (items : List Value) :
    Items value items ↔ Results.items value = items := by
  constructor
  · intro split
    cases split with
    | array items => rfl
    | single other =>
        cases value with
        | array items => cases other
        | _ => rfl
  · intro same
    subst same
    cases value with
    | array items => exact .array items
    | null => exact .single rfl
    | bool value => exact .single rfl
    | number value => exact .single rfl
    | string value => exact .single rfl
    | object members => exact .single rfl

theorem selects_iff (document : Value) (results : Option Text) (selected : Value) :
    Selects document results selected ↔
      (Results.select document results).value.value document = selected := by
  constructor
  · intro selects
    cases selects with
    | whole kept => rw [kept]; rfl
    | part reached => rw [reached]; rfl
  · intro same
    subst same
    cases selected : (Results.select document results).value with
    | whole => exact .whole selected
    | part value => exact .part selected

def renderNotices (renderer : Renderer) (template : Text) (items : List Value) : List Notice :=
  items.flatMap (fun item => (renderer.render item template).notices)

/-- The texts of the items rendered one after the other, or the failure of the first that cannot
be rendered, which is the last that reports. -/
inductive Renders (renderer : Renderer) (template : Text) (items : List Value) :
    Except Failure (List Text) → List Notice → Prop where
  | texts {texts : List Text}
      (each : List.Forall₂ (fun item text => (renderer.render item template).value = .ok text)
        items texts) :
      Renders renderer template items (.ok texts) (renderNotices renderer template items)
  | failed {done rest : List Value} {item : Value} {failure : Failure}
      (split : items = done ++ item :: rest)
      (passed : ∀ other ∈ done, ∃ text, (renderer.render other template).value = .ok text)
      (refused : (renderer.render item template).value = .error failure) :
      Renders renderer template items (.error failure)
        (renderNotices renderer template (done ++ [item]))

theorem renders_iff (renderer : Renderer) (template : Text) (items : List Value)
    (result : Except Failure (List Text)) (notices : List Notice) :
    Renders renderer template items result notices ↔
      Attempt.forEach (fun item => renderer.render item template) items = ⟨result, notices⟩ := by
  constructor
  · intro renders
    cases renders with
    | texts each => exact Attempt.forEach_of_ok each
    | failed split passed refused =>
        rw [split]
        exact Attempt.forEach_of_error passed refused
  · intro made
    rcases Attempt.results_or_failure (fun item => renderer.render item template) items with
      ⟨texts, each⟩ | ⟨done, item, rest, failure, split, passed, refused⟩
    · rw [Attempt.forEach_of_ok each] at made
      cases made
      exact .texts each
    · rw [split, Attempt.forEach_of_error passed refused] at made
      cases made
      exact .failed split passed refused

inductive Holds (world : World) : Source → Except SourceFault (List UInt8) → Prop where
  | stdin : Holds world .stdin world.stdin
  | file (path : Text) : Holds world (.file path) (world.file path)

/-- The text that a source gives: the one that stands in the argument, or the one whose bytes
it holds. -/
inductive Delivers (world : World) : Source → Except Failure Text → Prop where
  | inline (text : Text) : Delivers world (.inline text) (.ok text)
  | encoded {source : Source} {text : Text} (held : Holds world source (.ok text.utf8)) :
      Delivers world source (.ok text)
  | notText {source : Source} {bytes : List UInt8} (held : Holds world source (.ok bytes))
      (other : ∀ text : Text, text.utf8 ≠ bytes) :
      Delivers world source (.error (.notFetched .notText))
  | unread {source : Source} {fault : SourceFault} (held : Holds world source (.error fault)) :
      Delivers world source (.error (.notFetched fault))

inductive Gives (world : World) (source : Source) : Except Failure Value → Prop where
  | document {text : Text} {document : Value} (delivers : Delivers world source (.ok text))
      (read : Json.read text = .ok document) : Gives world source (.ok document)
  | notJson {text : Text} {fault : Json.Fault} (delivers : Delivers world source (.ok text))
      (refused : Json.read text = .error fault) : Gives world source (.error (.notJson fault))
  | undelivered {failure : Failure} (delivers : Delivers world source (.error failure)) :
      Gives world source (.error failure)

inductive Configured : Option Text → Except Failure Options → Prop where
  | standard : Configured none (.ok ⟨.singlePass, "undefined".toList⟩)
  | given {text : Text} {options : Options} (read : Options.read text = .ok options) :
      Configured (some text) (.ok options)
  | refused {text : Text} {fault : Json.Fault} (refused : Options.read text = .error fault) :
      Configured (some text) (.error (.notJson fault))

inductive Registers : Bool → Registry → Prop where
  | builtins : Registers true Builtin.registry
  | nothing : Registers false Registry.empty

/-- The options of rendering, by whether the older way of substitution is asked for. -/
inductive Renews (options : Options) : Bool → Options → Prop where
  | replaceAll : Renews options true ⟨.replaceAll, options.undefinedText⟩
  | unchanged : Renews options false options

private theorem text_of_holds {world : World} {source : Source}
    {bytes : Except SourceFault (List UInt8)} (held : Holds world source bytes) :
    source.text world = decoded bytes := by
  cases held with
  | stdin => rfl
  | file path => rfl

private theorem decoded_utf8 (text : Text) : decoded (.ok text.utf8) = .ok text := by
  rw [decoded, (Text.ofUtf8?_eq_some_iff text.utf8 text).mpr rfl]

private theorem decoded_of_notText {bytes : List UInt8} (other : ∀ text : Text, text.utf8 ≠ bytes) :
    decoded (.ok bytes) = .error (.notFetched .notText) := by
  have none : Text.ofUtf8? bytes = none := by
    rw [Option.eq_none_iff_forall_ne_some]
    intro text made
    exact other text ((Text.ofUtf8?_eq_some_iff bytes text).mp made)
  rw [decoded, none]

private theorem delivers_of_holds {world : World} {source : Source}
    {bytes : Except SourceFault (List UInt8)} (held : Holds world source bytes) :
    Delivers world source (decoded bytes) := by
  cases bytes with
  | error fault => exact .unread held
  | ok bytes =>
      by_cases encoded : ∃ text : Text, text.utf8 = bytes
      · obtain ⟨text, rfl⟩ := encoded
        rw [decoded_utf8]
        exact .encoded held
      · have other : ∀ text : Text, text.utf8 ≠ bytes := not_exists.mp encoded
        rw [decoded_of_notText other]
        exact .notText held other

theorem delivers_iff (world : World) (source : Source) (result : Except Failure Text) :
    Delivers world source result ↔ source.text world = result := by
  constructor
  · intro delivers
    cases delivers with
    | inline text => rfl
    | encoded held => rw [text_of_holds held, decoded_utf8]
    | notText held other => rw [text_of_holds held, decoded_of_notText other]
    | unread held => rw [text_of_holds held]; rfl
  · intro same
    subst same
    cases source with
    | inline text => exact .inline text
    | stdin => exact delivers_of_holds .stdin
    | file path => exact delivers_of_holds (.file path)

theorem gives_iff (world : World) (source : Source) (result : Except Failure Value) :
    Gives world source result ↔ source.document world = result := by
  constructor
  · intro gives
    cases gives with
    | document delivers read =>
        rw [Source.document, (delivers_iff _ _ _).mp delivers, Except.bind, read]
        rfl
    | notJson delivers refused =>
        rw [Source.document, (delivers_iff _ _ _).mp delivers, Except.bind, refused]
        rfl
    | undelivered delivers =>
        rw [Source.document, (delivers_iff _ _ _).mp delivers]
        rfl
  · intro same
    subst same
    rw [Source.document]
    cases delivered : source.text world with
    | error failure => exact .undelivered ((delivers_iff _ _ _).mpr delivered)
    | ok text =>
        have delivers := (delivers_iff world source (.ok text)).mpr delivered
        rw [Except.bind]
        cases read : Json.read text with
        | error fault => exact .notJson delivers read
        | ok document => exact .document delivers read

theorem configured_iff (config : Option Text) (result : Except Failure Options) :
    Configured config result ↔ optionsOf config = result := by
  constructor
  · intro configured
    cases configured with
    | standard => rfl
    | given read => rw [optionsOf, read]; rfl
    | refused refused => rw [optionsOf, refused]; rfl
  · intro same
    subst same
    cases config with
    | none => exact .standard
    | some text =>
        rw [optionsOf]
        cases read : Options.read text with
        | error fault => exact .refused read
        | ok options => exact .given read

theorem registers_iff (builtins : Bool) (registry : Registry) :
    Registers builtins registry ↔ registryOf builtins = registry := by
  constructor
  · intro registers
    cases registers with
    | builtins => rfl
    | nothing => rfl
  · intro same
    subst same
    cases builtins with
    | false => exact .nothing
    | true => exact .builtins

theorem renderer_of_renews {options used : Options} {replaceAll : Bool}
    (renews : Renews options replaceAll used) (registry : Registry) (source : Source)
    (template : Text) (results : Option Text) :
    (Command.render source template results replaceAll).renderer registry options =
      ⟨registry, used⟩ := by
  cases renews with
  | replaceAll => rfl
  | unchanged => rfl

end CommandLine
end JsonTemplate
