import JsonTemplate.CommandLine.Arguments
import JsonTemplate.Renderer

set_option autoImplicit false

/-! What a command line does, as a function of its arguments and of what it may read. The options
are read first, then the document; then the command does its work, and what comes of it is
printed line by line. What was printed stays when a later action fails; the actions after a
failure are not taken. -/

namespace JsonTemplate.CommandLine

/-- An attempt, and the text printed on the way to its result or its failure. -/
structure Action (α : Type) where
  attempt : Attempt α
  printed : Text

namespace Action

variable {α β : Type}

def quiet (attempt : Attempt α) : Action α := ⟨attempt, []⟩

def printLine (line : Text) : Action Unit := ⟨.silent (.ok ()), line ++ ['\n']⟩

def andThen (action : Action α) (next : α → Action β) : Action β :=
  match action.attempt.value with
  | .error failure => ⟨⟨.error failure, action.attempt.notices⟩, action.printed⟩
  | .ok result =>
      ⟨⟨(next result).attempt.value, action.attempt.notices ++ (next result).attempt.notices⟩,
        action.printed ++ (next result).printed⟩

def printLines : List Text → Action Unit
  | [] => quiet (.silent (.ok ()))
  | line :: rest => (printLine line).andThen (fun _ => printLines rest)

end Action

/-- The bytes that a command line may read, or why it cannot; and, in the words of the library
that reads the arguments, the help that they ask for and what is wrong with them. -/
structure World where
  stdin : Except SourceFault (List UInt8)
  file : Text → Except SourceFault (List UInt8)
  help : List Text → Text
  complaint : List Text → Text

structure Ending where
  code : Nat
  output : Text
  failure : Option Text
  /-- The notices, one record each. -/
  log : List Text
  deriving DecidableEq

def decoded (bytes : Except SourceFault (List UInt8)) : Except Failure Text :=
  match bytes with
  | .error fault => .error (.notFetched fault)
  | .ok bytes =>
      match Text.ofUtf8? bytes with
      | some text => .ok text
      | none => .error (.notFetched .notText)

def Source.text (world : World) : Source → Except Failure Text
  | .stdin => decoded world.stdin
  | .file path => decoded (world.file path)
  | .inline text => .ok text

def Source.document (world : World) (source : Source) : Except Failure Json.Value :=
  (source.text world).bind (fun text => (Json.read text).mapError Failure.notJson)

def optionsOf (config : Option Text) : Except Failure Options :=
  match config with
  | none => .ok Options.standard
  | some text => (Options.read text).mapError Failure.notJson

def registryOf (builtins : Bool) : Registry :=
  if builtins then Builtin.registry else Registry.empty

def afterResult {α β : Type} (result : Except Failure α) (next : α → Attempt β) : Attempt β :=
  Attempt.andThen (Reported.silent result) next

def Command.renderer (registry : Registry) (options : Options) : Command → Renderer
  | .render _ _ _ true => ⟨registry, { options with substitution := .replaceAll }⟩
  | _ => ⟨registry, options⟩

/-- Carry out a command. All results of a document are rendered before the first is
printed. -/
def Command.action (world : World) (renderer : Renderer) : Command → Action Unit
  | .render source template results _ =>
      (Action.quiet (afterResult (source.document world) (fun document =>
        renderer.renderResults document results template))).andThen Action.printLines
  | .resolve source definition =>
      (Action.quiet (afterResult (source.document world) (fun document =>
        renderer.resolveValue document definition))).andThen
          (fun value => Action.printLine value.indented)
  | .decode text => Action.printLine (Decoding.ofText text).document.indented

def perform (world : World) (arguments : Arguments) : Action Unit :=
  (Action.quiet (Reported.silent (optionsOf arguments.config))).andThen (fun options =>
    arguments.command.action world
      (arguments.command.renderer (registryOf arguments.builtins) options))

/-- A message as the log shows it: characters that a terminal would obey are written by
their code. -/
def logged (message : Text) : Text :=
  message.flatMap (fun char =>
    if char = '\x1b' ∨ char = '\x07' ∨ char = '\x08' ∨ char = '\x0c' ∨ char = '\x7f' then
      ['\\', 'x', Nat.digitChar (char.toNat / 16), Nat.digitChar (char.toNat % 16)]
    else if 0x80 ≤ char.toNat ∧ char.toNat ≤ 0x9f then
      ['\\', 'u', '\x7b'] ++ Text.hexadecimal char.toNat ++ ['\x7d']
    else [char])

def logRecord (notice : Notice) : Text :=
  (match notice.severity with
    | .warning => "WARN".toList
    | .error => "ERROR".toList) ++
    " accessor_template::diagnostics: ".toList ++ logged notice.message ++ " kind=".toList ++
    notice.kind.label ++ " accessor=".toList ++ notice.accessor

def endingOf (strict : Bool) (action : Action Unit) : Ending :=
  let notices := action.attempt.notices
  let log := notices.map logRecord
  match action.attempt.value with
  | .error failure => ⟨1, action.printed, some failure.message, log⟩
  | .ok _ => ⟨if strict && notices.any Notice.isError then 1 else 0, action.printed, none, log⟩

def versionText : Text := "accessor-template 0.1.0\n".toList

def Request.ending (world : World) (arguments : List Text) : Request → Ending
  | .run given => endingOf given.strict (perform world given)
  | .help => ⟨0, world.help arguments, none, []⟩
  | .version => ⟨0, versionText, none, []⟩

def usageCode : Nat := 2

def run (world : World) (arguments : List Text) : Ending :=
  match request? arguments with
  | some request => request.ending world arguments
  | none => ⟨usageCode, [], some (world.complaint arguments), []⟩

end JsonTemplate.CommandLine
