import JsonTemplate.Proofs.CommandLine.Parts
import JsonTemplate.Proofs.CommandLine.Strictness
import JsonTemplate.Proofs.Json.RoundTrip
import JsonTemplate.Proofs.Placeholder.Decoding

set_option autoImplicit false

/-! How a command line ends. Whatever fails does so before anything is printed, so the output
is there as a whole or not at all; and strictness changes nothing but the exit code, which
the notices of the whole run decide. What is listed or resolved is written as a document, which
is read back from the output. -/

namespace JsonTemplate

open JsonTemplate.Json (Value)

private theorem Condition.restorable_document (depth : Nat) (condition : Condition) :
    condition.document.Restorable (depth + 1) := by
  have keys : ["key".toList, "value".toList].Nodup := by decide
  cases condition with
  | equals key value =>
      exact .object keys (List.forall_mem_cons.mpr
        ⟨.string _ _, List.forall_mem_singleton.mpr (.string _ _)⟩)
  | lacks key =>
      exact .object keys (List.forall_mem_cons.mpr
        ⟨.string _ _, List.forall_mem_singleton.mpr (.null _)⟩)

private theorem Step.restorable_document (depth : Nat) (step : Step) :
    step.document.Restorable (depth + 3) := by
  cases step with
  | access access =>
      cases access with
      | member name =>
          have keys : ["step".toList, "name".toList].Nodup := by decide
          exact .object keys (List.forall_mem_cons.mpr
            ⟨.string _ _, List.forall_mem_singleton.mpr (.string _ _)⟩)
      | record name extract conditions =>
          have each : ∀ shown ∈ conditions.map Condition.document,
              shown.Restorable (depth + 1) :=
            List.forall_mem_map.mpr fun condition _ => condition.restorable_document depth
          have keys : ["step".toList, "name".toList, "extract".toList,
              "conditions".toList].Nodup := by decide
          exact .object keys (List.forall_mem_cons.mpr ⟨.string _ _,
            List.forall_mem_cons.mpr ⟨.string _ _, List.forall_mem_cons.mpr ⟨.string _ _,
              List.forall_mem_singleton.mpr (.array each)⟩⟩⟩)
  | call name params =>
      have shown : (optionalText params).Restorable (depth + 2) := by
        cases params with
        | none => exact .null _
        | some params => exact .string _ params
      have keys : ["step".toList, "name".toList, "params".toList].Nodup := by decide
      exact .object keys (List.forall_mem_cons.mpr ⟨.string _ _,
        List.forall_mem_cons.mpr ⟨.string _ _, List.forall_mem_singleton.mpr shown⟩⟩)

theorem Decoding.restorable_document (text : Text) :
    (Decoding.ofText text).document.Restorable Json.depthLimit := by
  have keys : ((Decoding.ofText text).entries.map
      (fun entry => (entry.token, entry.path.document))).map Prod.fst =
        (Decoding.ofText text).tokens := by
    rw [List.map_map]
    rfl
  refine .object ?_ (List.forall_mem_map.mpr ?_)
  · rw [keys]
    exact Decoding.tokens_nodup text
  · intro entry _
    exact .array (List.forall_mem_map.mpr fun step _ => step.restorable_document _)
namespace CommandLine

def lines (texts : List Text) : Text := texts.flatMap (fun text => text ++ ['\n'])

/-- What a command line comes to: the whole output or the failure, and the notices reported
in the whole run. -/
inductive ComesTo (world : World) (arguments : Arguments) :
    Except Failure Text → List Notice → Prop where
  | unconfigured {failure : Failure} (refused : Configured arguments.config (.error failure)) :
      ComesTo world arguments (.error failure) []
  | decoded {options : Options} {text : Text} {shown : Value}
      (configured : Configured arguments.config (.ok options))
      (command : arguments.command = .decode text)
      (shows : (Decoding.ofText text).ShownAs shown) :
      ComesTo world arguments (.ok (lines [shown.indented])) []
  | notRendered {options : Options} {source : Source} {template : Text} {results : Option Text}
      {replaceAll : Bool} {failure : Failure}
      (configured : Configured arguments.config (.ok options))
      (command : arguments.command = .render source template results replaceAll)
      (refused : Gives world source (.error failure)) :
      ComesTo world arguments (.error failure) []
  /-- Every item of the part selected is rendered, on a line of its own. -/
  | rendered {options used : Options} {registry : Registry} {source : Source} {template : Text}
      {results : Option Text} {replaceAll : Bool} {document selected : Value}
      {items : List Value} {result : Except Failure (List Text)} {notices : List Notice}
      (configured : Configured arguments.config (.ok options))
      (registers : Registers arguments.builtins registry)
      (command : arguments.command = .render source template results replaceAll)
      (renews : Renews options replaceAll used)
      (gives : Gives world source (.ok document))
      (selects : Selects document results selected) (split : Items selected items)
      (renders : Renders ⟨registry, used⟩ template items result notices) :
      ComesTo world arguments (result.map lines)
        ((Results.select document results).notices ++ notices)
  | notResolved {options : Options} {source : Source} {definition : Text} {failure : Failure}
      (configured : Configured arguments.config (.ok options))
      (command : arguments.command = .resolve source definition)
      (refused : Gives world source (.error failure)) :
      ComesTo world arguments (.error failure) []
  | resolved {options : Options} {registry : Registry} {source : Source} {definition : Text}
      {document : Value} {result : Except Failure Value} {notices : List Notice}
      (configured : Configured arguments.config (.ok options))
      (registers : Registers arguments.builtins registry)
      (command : arguments.command = .resolve source definition)
      (gives : Gives world source (.ok document))
      (comes : Definition.ComesTo definition registry document result notices) :
      ComesTo world arguments (result.map (fun value => lines [value.indented])) notices

def actionOf (notices : List Notice) : Except Failure Text → Action Unit
  | .ok output => ⟨⟨.ok (), notices⟩, output⟩
  | .error failure => ⟨⟨.error failure, notices⟩, []⟩

private theorem printLines_eq (texts : List Text) :
    Action.printLines texts = ⟨.silent (.ok ()), lines texts⟩ := by
  induction texts with
  | nil => rfl
  | cons text rest ih =>
      rw [Action.printLines, ih]
      rfl

private theorem printLine_eq (text : Text) :
    Action.printLine text = ⟨.silent (.ok ()), lines [text]⟩ := by
  rw [lines, List.flatMap_singleton]
  rfl

private theorem quiet_andThen_prints {α : Type} (attempt : Attempt α) {next : α → Action Unit}
    {shown : α → Text} (prints : ∀ found, next found = ⟨.silent (.ok ()), shown found⟩) :
    (Action.quiet attempt).andThen next =
      actionOf attempt.notices (attempt.value.map shown) := by
  rw [Action.andThen, Action.quiet]
  cases attempt.value with
  | error failure => rfl
  | ok found =>
      dsimp only
      rw [prints]
      dsimp only [Reported.silent]
      rw [List.append_nil]
      rfl

section Runs

variable {world : World} {arguments : Arguments} {result : Except Failure Text}
  {notices : List Notice}

private theorem perform_of_unconfigured {failure : Failure}
    (refused : Configured arguments.config (.error failure)) :
    perform world arguments = actionOf [] (.error failure) := by
  rw [perform, (configured_iff _ _).mp refused]
  rfl

private theorem perform_of_configured {options : Options}
    (configured : Configured arguments.config (.ok options)) {registry : Registry}
    (registers : Registers arguments.builtins registry) :
    perform world arguments =
      arguments.command.action world (arguments.command.renderer registry options) := by
  rw [perform, (configured_iff _ _).mp configured, (registers_iff _ _).mp registers]
  rfl

private theorem render_of_gives {renderer : Renderer} {source : Source} {template : Text}
    {results : Option Text} {replaceAll : Bool} {document selected : Value} {items : List Value}
    {made : Except Failure (List Text)} (gives : Gives world source (.ok document))
    (selects : Selects document results selected) (split : Items selected items)
    (renders : Renders renderer template items made notices) :
    (Command.render source template results replaceAll).action world renderer =
      actionOf ((Results.select document results).notices ++ notices) (made.map lines) := by
  have rendered : renderer.renderResults document results template =
      ⟨made, (Results.select document results).notices ++ notices⟩ := by
    rw [Renderer.renderResults, (selects_iff _ _ _).mp selects, (items_iff _ _).mp split,
      (renders_iff _ _ _ _ _).mp renders]
  rw [Command.action, (gives_iff _ _ _).mp gives]
  -- With the document read, what is left of the attempt is the rendering.
  change (Action.quiet (renderer.renderResults document results template)).andThen _ = _
  rw [rendered]
  exact quiet_andThen_prints _ printLines_eq

private theorem resolve_of_gives {renderer : Renderer} {source : Source} {definition : Text}
    {document : Value} {made : Except Failure Value} (gives : Gives world source (.ok document))
    (comes : Definition.ComesTo definition renderer.registry document made notices) :
    (Command.resolve source definition).action world renderer =
      actionOf notices (made.map (fun value => lines [value.indented])) := by
  have resolved : renderer.resolveValue document definition = ⟨made, notices⟩ :=
    (Definition.comesTo_iff _ _ _ _ _).mp comes
  rw [Command.action, (gives_iff _ _ _).mp gives]
  change (Action.quiet (renderer.resolveValue document definition)).andThen _ = _
  rw [resolved]
  exact quiet_andThen_prints _ (fun value => printLine_eq value.indented)

theorem perform_of_comesTo (comes : ComesTo world arguments result notices) :
    perform world arguments = actionOf notices result := by
  have registers := (registers_iff arguments.builtins _).mpr rfl
  cases comes with
  | unconfigured refused => exact perform_of_unconfigured refused
  | @decoded options text shown configured command shows =>
      rw [perform_of_configured configured registers, command, Command.action,
        (Decoding.shownAs_iff _ _).mp shows]
      exact printLine_eq shown.indented
  | notRendered configured command refused =>
      rw [perform_of_configured configured registers, command, Command.action,
        (gives_iff _ _ _).mp refused]
      rfl
  | rendered configured registers command renews gives selects split renders =>
      rw [perform_of_configured configured registers, command, renderer_of_renews renews]
      exact render_of_gives gives selects split renders
  | notResolved configured command refused =>
      rw [perform_of_configured configured registers, command, Command.action,
        (gives_iff _ _ _).mp refused]
      rfl
  | resolved configured registers command gives comes =>
      rw [perform_of_configured configured registers, command]
      exact resolve_of_gives gives comes

theorem exists_comesTo (world : World) (arguments : Arguments) :
    ∃ result notices, ComesTo world arguments result notices := by
  have registers := (registers_iff arguments.builtins _).mpr rfl
  cases asked : optionsOf arguments.config with
  | error failure => exact ⟨_, _, .unconfigured ((configured_iff _ _).mpr asked)⟩
  | ok options =>
      have configured := (configured_iff arguments.config (.ok options)).mpr asked
      cases command : arguments.command with
      | decode text =>
          exact ⟨_, _, .decoded configured command ((Decoding.shownAs_iff _ _).mpr rfl)⟩
      | render source template results replaceAll =>
          cases read : source.document world with
          | error failure =>
              exact ⟨_, _, .notRendered configured command ((gives_iff _ _ _).mpr read)⟩
          | ok document =>
              obtain ⟨used, renews⟩ : ∃ used, Renews options replaceAll used := by
                cases replaceAll with
                | false => exact ⟨_, .unchanged⟩
                | true => exact ⟨_, .replaceAll⟩
              exact ⟨_, _, .rendered configured registers command renews
                ((gives_iff _ _ _).mpr read) ((selects_iff _ _ _).mpr rfl)
                ((items_iff _ _).mpr rfl) ((renders_iff _ _ _ _ _).mpr rfl)⟩
      | resolve source definition =>
          cases read : source.document world with
          | error failure =>
              exact ⟨_, _, .notResolved configured command ((gives_iff _ _ _).mpr read)⟩
          | ok document =>
              exact ⟨_, _, .resolved configured registers command
                ((gives_iff _ _ _).mpr read) ((Definition.comesTo_iff _ _ _ _ _).mpr rfl)⟩

end Runs

/-- How a command line ends that comes to a result: with nothing but the failure, or with the
whole output and a code that depends on strictness and the notices. -/
structure EndsWith (strict : Bool) (result : Except Failure Text) (notices : List Notice)
    (ending : Ending) : Prop where
  log : ending.log = notices.map logRecord
  failed : ∀ failure, result = .error failure →
    ending.output = [] ∧ ending.code = 1 ∧ ending.failure = some failure.message
  done : ∀ output, result = .ok output → ending.output = output ∧ ending.failure = none
  code : ∀ output, result = .ok output →
    (ending.code = 1 ↔ strict = true ∧ ∃ notice ∈ notices, notice.severity = .error) ∧
      (ending.code = 0 ↔ ¬ (strict = true ∧ ∃ notice ∈ notices, notice.severity = .error))

theorem any_isError_iff (notices : List Notice) :
    notices.any Notice.isError = true ↔ ∃ notice ∈ notices, notice.severity = .error := by
  rw [List.any_eq_true]
  simp only [Notice.isError, beq_iff_eq]

private theorem endsWith_endingOf (strict : Bool) (notices : List Notice)
    (result : Except Failure Text) :
    EndsWith strict result notices (endingOf strict (actionOf notices result)) := by
  cases result with
  | error failure =>
      refine ⟨rfl, ?_, nofun, nofun⟩
      intro other same
      cases same
      exact ⟨rfl, rfl, rfl⟩
  | ok output =>
      have ending : endingOf strict (actionOf notices (.ok output)) =
          ⟨if strict && notices.any Notice.isError then 1 else 0, output, none,
            notices.map logRecord⟩ := rfl
      rw [ending]
      refine ⟨rfl, ?_, ?_, ?_⟩
      · intro failure different
        cases different
      · intro other same
        cases same
        exact ⟨rfl, rfl⟩
      · intro other _
        rw [← any_isError_iff, ← Bool.and_eq_true]
        dsimp only
        cases strict && notices.any Notice.isError with
        | false => decide
        | true => decide

private theorem run_of_accepted (world : World) {texts : List Text} {arguments : Arguments}
    (accepted : request? texts = some (.run arguments)) :
    run world texts = endingOf arguments.strict (perform world arguments) := by
  rw [run, accepted]
  rfl

theorem endingOf_strict (strict other : Bool) (action : Action Unit) :
    (endingOf other action).output = (endingOf strict action).output ∧
      (endingOf other action).log = (endingOf strict action).log ∧
      (endingOf other action).failure = (endingOf strict action).failure := by
  unfold endingOf
  cases action.attempt.value with
  | error failure => exact ⟨rfl, rfl, rfl⟩
  | ok result => exact ⟨rfl, rfl, rfl⟩

theorem read_lines {value : Value} (restorable : value.Restorable Json.depthLimit) :
    Json.read (lines [value.indented]) = .ok value := by
  rw [lines, List.flatMap_singleton]
  exact Json.read_indented restorable (List.forall_mem_singleton.mpr rfl)

structure AllOrNothing (world : World) (texts : List Text) (arguments : Arguments) : Prop where
  comes : ∃ result notices, ComesTo world arguments result notices
  /-- The output is there as a whole or not at all. -/
  ends : ∀ result notices, ComesTo world arguments result notices →
    EndsWith arguments.strict result notices (run world texts)
  /-- What is listed is read back from the output. -/
  listed : ∀ {options : Options} {text : Text} {shown : Value},
    Configured arguments.config (.ok options) → arguments.command = .decode text →
      (Decoding.ofText text).ShownAs shown → Json.read (run world texts).output = .ok shown
  /-- So is what a definition comes to, if its numbers are integers and it nests as deep as a
  document may. -/
  resolved : ∀ {options : Options} {registry : Registry} {source : Source} {definition : Text}
    {document value : Value} {notices : List Notice},
    Configured arguments.config (.ok options) → Registers arguments.builtins registry →
      arguments.command = .resolve source definition → Gives world source (.ok document) →
        Definition.ComesTo definition registry document (.ok value) notices →
          value.Restorable Json.depthLimit → Json.read (run world texts).output = .ok value
  /-- Asking for strictness as well, wherever the command line takes it, changes nothing but the
  exit code. -/
  strict : ∀ (before after : List Text) (other : Arguments), texts = before ++ after →
    request? (before ++ strictWord :: after) = some (.run other) →
      other = { arguments with strict := true } ∧
      (run world (before ++ strictWord :: after)).output = (run world texts).output ∧
      (run world (before ++ strictWord :: after)).log = (run world texts).log ∧
      (run world (before ++ strictWord :: after)).failure = (run world texts).failure

/-- A command line that is accepted is carried out, with one output or failure, or asks for the
help or the version, which cannot fail. -/
theorem run_allOrNothing (world : World) (texts : List Text) (request : Request)
    (accepted : request? texts = some request) :
    (∀ arguments, request = .run arguments → AllOrNothing world texts arguments) ∧
      ((∀ arguments, request ≠ .run arguments) →
        (run world texts).code = 0 ∧ (run world texts).failure = none ∧
          (run world texts).log = []) := by
  constructor
  · intro arguments same
    rw [same] at accepted
    have ends : ∀ result notices, ComesTo world arguments result notices →
        EndsWith arguments.strict result notices (run world texts) := by
      intro result notices comes
      rw [run_of_accepted world accepted, perform_of_comesTo comes]
      exact endsWith_endingOf arguments.strict notices result
    refine ⟨exists_comesTo world arguments, ends, ?_, ?_, ?_⟩
    · intro options text shown configured command shows
      rw [((ends _ _ (.decoded configured command shows)).done _ rfl).1,
        ← (Decoding.shownAs_iff _ _).mp shows]
      exact read_lines (Decoding.restorable_document text)
    · intro options registry source definition document value notices configured registers command
        gives comes restorable
      rw [((ends _ _ (.resolved configured registers command gives comes)).done _ rfl).1]
      exact read_lines restorable
    · intro before after other split acceptedOther
      rw [split] at accepted ⊢
      have stricter := eq_strict_of_insert accepted acceptedOther
      rw [stricter] at acceptedOther
      refine ⟨stricter, ?_⟩
      rw [run_of_accepted world accepted, run_of_accepted world acceptedOther]
      exact endingOf_strict arguments.strict true (perform world arguments)
  · intro otherwise
    cases request with
    | run arguments => exact absurd rfl (otherwise arguments)
    | help =>
        rw [run, accepted]
        exact ⟨rfl, rfl, rfl⟩
    | version =>
        rw [run, accepted]
        exact ⟨rfl, rfl, rfl⟩

private theorem read_of_compact {text : Text} {document : Value}
    (written : document.compact = text) (readable : document.Readable Json.depthLimit)
    (integral : document.Integral) : Json.read text = .ok document := by
  rw [← written]
  exact Json.read_compact readable integral

/-- Of two results rendered, the second shows an array, which is an error for a strict command
line only. The other command lines list a placeholder, resolve the first of two, miss a
function, are configured, are not, find no file and ask for help. -/
theorem run_allOrNothing_sample :
    let response : Text := "\x7b\"l\":[\x7b\"a\":\"x\"\x7d,\x7b\"a\":[]\x7d]\x7d".toList
    let world : World :=
      ⟨.ok response.utf8, fun _ => .error .notFound, fun _ => ['?'], fun _ => []⟩
    let before := ["render".toList, ['-'], "%(a)".toList]
    let after := ["--results".toList, "%(l)".toList]
    let plain := run world (before ++ after)
    let strict := run world (before ++ strictWord :: after)
    let decoded := run world ["decode".toList, "%(a)".toList]
    let resolved := run world
      ["resolve".toList, strictWord, "\x7b\"a\":\"x\"\x7d".toList, "%(a)%(b)".toList]
    let missed := run world
      ["render".toList, "\x7b\x7d".toList, "%(a)%(__function:f)".toList]
    let configured := run world ["--config".toList, "\x7b\"undefined_text\":\"-\"\x7d".toList,
      "render".toList, "\x7b\x7d".toList, "%(a)".toList]
    let unconfigured := run world
      ["--config".toList, ['['], "decode".toList, "%(a)".toList]
    let unread := run world ["resolve".toList, "@f".toList, "%(a)".toList]
    let help := run world ["help".toList, "render".toList]
    let listing : Value := .object [("%(a)".toList, .array [.object
      [("step".toList, .string "field".toList), ("name".toList, .string ['a'])]])]
    ((plain.output = "x\n[]\n".toList ∧ plain.code = 0) ∧
        strict.output = "x\n[]\n".toList ∧ strict.log = plain.log ∧ strict.code = 1) ∧
      (decoded.output = ("\x7b\n  \"%(a)\": [\n    \x7b\n      \"step\": \"field\",\n" ++
        "      \"name\": \"a\"\n    \x7d\n  ]\n\x7d\n").toList ∧
        Json.read decoded.output = .ok listing ∧ decoded.code = 0) ∧
      (resolved.output = "\"x\"\n".toList ∧ Json.read resolved.output = .ok (.string ['x']) ∧
        resolved.log ≠ [] ∧ resolved.code = 0) ∧
      (missed.output = [] ∧ missed.code = 1 ∧
        missed.failure = some "unknown function: f".toList) ∧
      (configured.output = "-\n".toList ∧ configured.code = 0) ∧
      (unconfigured.output = [] ∧ unconfigured.code = 1) ∧
      (unread.output = [] ∧ unread.code = 1) ∧
      (help.output = ['?'] ∧ help.code = 0) := by
  intro response world before after plain strict decoded resolved missed configured unconfigured
    unread help listing
  have law : ∀ {texts : List Text} {arguments : Arguments},
      request? texts = some (.run arguments) → AllOrNothing world texts arguments :=
    fun accepted => (run_allOrNothing world _ _ accepted).1 _ rfl
  have loose : ∀ {others : Prop}, ¬ (false = true ∧ others) := fun both =>
    Bool.false_ne_true both.1
  have nothingRead : Json.read "\x7b\x7d".toList = .ok (.object []) :=
    read_of_compact rfl (.object List.nodup_nil (List.forall_mem_nil _)) (List.forall_mem_nil _)
  refine ⟨?_, ?_, ?_, ?_, ?_, ?_, ?_, ?_⟩
  · -- Two results are rendered, and the second reports.
    let items : List Value := [.object [(['a'], .string ['x'])], .object [(['a'], .array [])]]
    let arguments (strict : Bool) : Arguments :=
      ⟨false, none, strict, .render .stdin "%(a)".toList (some "%(l)".toList) false⟩
    let notices := renderNotices Renderer.standard "%(a)".toList items
    have readable : (Value.object [(['l'], .array items)]).Readable Json.depthLimit :=
      .object (by decide) (List.forall_mem_singleton.mpr (.array (List.forall_mem_cons.mpr
        ⟨.object (by decide) (List.forall_mem_singleton.mpr (.string _)),
          List.forall_mem_singleton.mpr (.object (by decide) (List.forall_mem_singleton.mpr
            (.array (List.forall_mem_nil _))))⟩)))
    have read : Json.read response = .ok (.object [(['l'], .array items)]) :=
      read_of_compact rfl readable (List.forall_mem_nil _)
    have gives : Gives world .stdin (.ok (.object [(['l'], .array items)])) :=
      .document (.encoded .stdin) read
    have selects : Selects (.object [(['l'], .array items)]) (some "%(l)".toList)
        (.array items) := .part rfl
    have renders : Renders Renderer.standard "%(a)".toList items (.ok [['x'], ['[', ']']])
        notices := .texts (.cons rfl (.cons rfl .nil))
    have comes (strict : Bool) : ComesTo world (arguments strict) _ _ :=
      .rendered .standard .nothing rfl .unchanged gives selects (.array items) renders
    have reported : ∃ notice ∈ notices, notice.severity = .error :=
      ⟨_, List.mem_cons_self, rfl⟩
    have accepted : request? (before ++ after) = some (.run (arguments false)) := by decide
    have acceptedStrict : request? (before ++ strictWord :: after) =
        some (.run (arguments true)) := by decide
    have ends := (law accepted).ends _ _ (comes false)
    have endsStrict := (law acceptedStrict).ends _ _ (comes true)
    obtain ⟨-, -, sameLog, -⟩ := (law accepted).strict before after _ rfl acceptedStrict
    exact ⟨⟨(ends.done _ rfl).1, (ends.code _ rfl).2.mpr loose⟩, (endsStrict.done _ rfl).1,
      sameLog, (endsStrict.code _ rfl).1.mpr ⟨rfl, reported⟩⟩
  · have accepted : request? ["decode".toList, "%(a)".toList] =
        some (.run ⟨false, none, false, .decode "%(a)".toList⟩) := by decide
    have shows : (Decoding.ofText "%(a)".toList).ShownAs listing :=
      .intro (.cons (.intro _ (.cons (.member ['a']) .nil)) .nil)
    have ends := (law accepted).ends _ _ (.decoded .standard rfl shows)
    exact ⟨(ends.done _ rfl).1, (law accepted).listed .standard rfl shows,
      (ends.code _ rfl).2.mpr loose⟩
  · -- The second placeholder is passed over with a notice, which is only a warning.
    have accepted : request? ["resolve".toList, strictWord, "\x7b\"a\":\"x\"\x7d".toList,
        "%(a)%(b)".toList] = some (.run ⟨false, none, true,
          .resolve (.inline "\x7b\"a\":\"x\"\x7d".toList) "%(a)%(b)".toList⟩) := by decide
    have read : Json.read "\x7b\"a\":\"x\"\x7d".toList =
        .ok (.object [(['a'], .string ['x'])]) :=
      read_of_compact rfl (.object (by decide) (List.forall_mem_singleton.mpr (.string _)))
        (List.forall_mem_nil _)
    have entries : (Decoding.ofText "%(a)%(b)".toList).entries =
        [⟨"%(a)".toList, Path.ofText ['a']⟩, ⟨"%(b)".toList, Path.ofText ['b']⟩] := by decide
    have gives : Gives world (.inline "\x7b\"a\":\"x\"\x7d".toList)
        (.ok (.object [(['a'], .string ['x'])])) := .document (.inline _) read
    have comes : Definition.ComesTo "%(a)%(b)".toList Registry.empty
        (.object [(['a'], .string ['x'])]) (.ok (.string ['x'])) _ := .first entries (.found rfl)
    have ends := (law accepted).ends _ _ (.resolved .standard .nothing rfl gives comes)
    have calm : ¬ ∃ notice ∈ [Definition.severalAccessors "%(a)%(b)".toList 2],
        notice.severity = .error := by decide
    refine ⟨(ends.done _ rfl).1, (law accepted).resolved .standard .nothing rfl gives comes
      (.string _ _), ?_, (ends.code _ rfl).2.mpr fun strict => calm strict.2⟩
    rw [ends.log]
    exact List.cons_ne_nil _ _
  · have accepted : request? ["render".toList, "\x7b\x7d".toList,
        "%(a)%(__function:f)".toList] = some (.run ⟨false, none, false,
          .render (.inline "\x7b\x7d".toList) "%(a)%(__function:f)".toList none false⟩) := by
      decide
    have refused : Renders Renderer.standard "%(a)%(__function:f)".toList [.object []]
        (.error (.unknownFunction ['f']))
        (renderNotices Renderer.standard _ ([] ++ [.object []])) :=
      .failed rfl (List.forall_mem_nil _) rfl
    have ends := (law accepted).ends _ _ (.rendered .standard .nothing rfl .unchanged
      (.document (.inline _) nothingRead) (.whole rfl) (.single rfl) refused)
    exact ends.failed _ rfl
  · have accepted : request? ["--config".toList, "\x7b\"undefined_text\":\"-\"\x7d".toList,
        "render".toList, "\x7b\x7d".toList, "%(a)".toList] = some (.run ⟨false,
          some "\x7b\"undefined_text\":\"-\"\x7d".toList, false,
          .render (.inline "\x7b\x7d".toList) "%(a)".toList none false⟩) := by decide
    have renders : Renders ⟨Registry.empty, ⟨.singlePass, ['-']⟩⟩ "%(a)".toList [.object []]
        (.ok [['-']]) [] := .texts (.cons rfl .nil)
    have ends := (law accepted).ends _ _ (.rendered (.given rfl) .nothing rfl .unchanged
      (.document (.inline _) nothingRead) (.whole rfl) (.single rfl) renders)
    exact ⟨(ends.done _ rfl).1, (ends.code _ rfl).2.mpr loose⟩
  · have accepted : request? ["--config".toList, ['['], "decode".toList, "%(a)".toList] =
        some (.run ⟨false, some ['['], false, .decode "%(a)".toList⟩) := by decide
    obtain ⟨printed, failed, -⟩ :=
      ((law accepted).ends _ _ (.unconfigured (.refused rfl))).failed _ rfl
    exact ⟨printed, failed⟩
  · have accepted : request? ["resolve".toList, "@f".toList, "%(a)".toList] =
        some (.run ⟨false, none, false, .resolve (.file ['f']) "%(a)".toList⟩) := by decide
    obtain ⟨printed, failed, -⟩ := ((law accepted).ends _ _
      (.notResolved .standard rfl (.undelivered (.unread (.file ['f']))))).failed _ rfl
    exact ⟨printed, failed⟩
  · have accepted : request? ["help".toList, "render".toList] = some .help := by decide
    have otherwise : ∀ arguments, Request.help ≠ .run arguments := by
      intro arguments same
      cases same
    exact ⟨rfl, ((run_allOrNothing world _ _ accepted).2 otherwise).1⟩

end CommandLine
end JsonTemplate
