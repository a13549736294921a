import JsonTemplate.Text.Basic

set_option autoImplicit false

/-! The arguments of the command line. Global options may stand on either side of the
command, each at most once on a side; the options of a command stand after it. An
option that takes a value takes the next argument unless that begins with a hyphen, or
what follows an equals sign. A double hyphen makes arguments of everything after it. -/

namespace JsonTemplate.CommandLine

inductive Flag where
  | builtins
  | config
  | verbose
  | results
  | replaceAll
  | strict
  | help
  | version
  deriving DecidableEq

inductive Usage where
  /-- At most once, without a value. -/
  | switch
  /-- As often as one likes, without a value. -/
  | counter
  /-- At most once, with a value. -/
  | valued
  /-- Ends the reading of arguments at once. -/
  | request
  deriving DecidableEq

structure Rule where
  name : Text
  letter : Option Char
  flag : Flag
  usage : Usage

/-- The options that may stand on either side of the command. -/
def globalRules : List Rule :=
  [⟨"builtins".toList, none, .builtins, .switch⟩, ⟨"config".toList, none, .config, .valued⟩,
    ⟨"verbose".toList, some 'v', .verbose, .counter⟩, ⟨"help".toList, some 'h', .help, .request⟩]

def topRules : List Rule :=
  globalRules ++ [⟨"version".toList, some 'V', .version, .request⟩]

def strictRule : Rule := ⟨"strict".toList, none, .strict, .switch⟩

inductive CommandName where
  | render
  | resolve
  | decode
  deriving DecidableEq

def commandNames : List (Text × CommandName) :=
  [("render".toList, .render), ("resolve".toList, .resolve), ("decode".toList, .decode)]

def CommandName.rules : CommandName → List Rule
  | .render => globalRules ++ [⟨"results".toList, none, .results, .valued⟩,
      ⟨"legacy".toList, none, .replaceAll, .switch⟩, strictRule]
  | .resolve => globalRules ++ [strictRule]
  | .decode => globalRules

inductive Word where
  | plain (text : Text)
  /-- Two hyphens, a name, and perhaps an equals sign and a value. -/
  | long (name : Text) (value : Option Text)
  /-- A hyphen and letters. -/
  | short (letters : Text)
  | terminator
  deriving DecidableEq

/-- Tell the look of an argument. A single hyphen is a plain one. -/
def Word.ofText (text : Text) : Word :=
  match text with
  | ['-', '-'] => .terminator
  | '-' :: '-' :: rest =>
      match rest.dropWhile (· != '=') with
      | [] => .long rest none
      | _ :: value => .long (rest.takeWhile (· != '=')) (some value)
  | '-' :: letter :: rest => .short (letter :: rest)
  | _ => .plain text

structure Seen where
  flags : List Flag
  values : List (Flag × Text)
  plains : List Text

def Seen.nothing : Seen := ⟨[], [], []⟩

def Seen.has (seen : Seen) (flag : Flag) : Bool := seen.flags.contains flag

def Seen.value? (seen : Seen) (flag : Flag) : Option Text := seen.values.lookup flag

inductive Scan where
  | refused
  /-- Something else was asked for than a command. -/
  | requested (flag : Flag)
  | ended (seen : Seen)
  /-- A plain argument that is the name of a command, and the arguments after it. -/
  | command (seen : Seen) (name : Text) (rest : List Text)

inductive Given where
  | refused
  | requested (flag : Flag)
  | noted (seen : Seen)
  /-- The option has its value in the next argument. -/
  | pending (flag : Flag) (seen : Seen)

def giveFlag (rule : Rule) (value : Option Text) (seen : Seen) : Given :=
  match rule.usage, value with
  | .switch, none =>
      if seen.has rule.flag then .refused
      else .noted { seen with flags := rule.flag :: seen.flags }
  | .counter, none => .noted { seen with flags := rule.flag :: seen.flags }
  | .request, none => .requested rule.flag
  | .valued, some text =>
      if seen.has rule.flag then .refused
      else .noted { seen with
        flags := rule.flag :: seen.flags
        values := (rule.flag, text) :: seen.values }
  | .valued, none => if seen.has rule.flag then .refused else .pending rule.flag seen
  | _, some _ => .refused

def giveLetters (rules : List Rule) : Seen → Text → Given
  | seen, [] => .noted seen
  | seen, letter :: rest =>
      match rules.find? (fun rule => decide (rule.letter = some letter)) with
      | none => .refused
      | some rule =>
          match giveFlag rule none seen with
          | .noted seen => giveLetters rules seen rest
          | other => other

def giveWord (rules : List Rule) (seen : Seen) : Word → Given
  | .long name value =>
      match rules.find? (fun rule => decide (rule.name = name)) with
      | none => .refused
      | some rule => giveFlag rule value seen
  | .short letters => giveLetters rules seen letters
  | _ => .refused

/-- Read the arguments of one side. The second argument says how many plain ones there may
be, if the first of them is not the name of a command; the third is the option whose value
comes next. -/
def scan (rules : List Rule) (room : Option Nat) : Option Flag → Seen → List Text → Scan
  | none, seen, [] => .ended seen
  | some _, _, [] => .refused
  | some flag, seen, argument :: rest =>
      match Word.ofText argument with
      | .plain text =>
          scan rules room none { seen with
            flags := flag :: seen.flags
            values := (flag, text) :: seen.values } rest
      | _ => .refused
  | none, seen, argument :: rest =>
      match Word.ofText argument with
      | .plain text =>
          match room with
          | none => .command seen text rest
          | some limit =>
              if seen.plains.length < limit then
                scan rules room none { seen with plains := seen.plains ++ [text] } rest
              else .refused
      | .terminator =>
          match room with
          | none => if rest.isEmpty then .ended seen else .refused
          | some limit =>
              if seen.plains.length + rest.length ≤ limit then
                .ended { seen with plains := seen.plains ++ rest }
              else .refused
      | word =>
          match giveWord rules seen word with
          | .refused => .refused
          | .requested flag => .requested flag
          | .noted seen => scan rules room none seen rest
          | .pending flag seen => scan rules room (some flag) seen rest

inductive Source where
  | stdin
  | file (path : Text)
  | inline (text : Text)
  deriving DecidableEq

def Source.ofText : Text → Source
  | ['-'] => .stdin
  | '@' :: path => .file path
  | text => .inline text

inductive Command where
  /-- Render a template for each result of a document, if asked by replacing in turn whatever
  the options say. -/
  | render (document : Source) (template : Text) (results : Option Text) (replaceAll : Bool)
  | resolve (document : Source) (definition : Text)
  | decode (text : Text)
  deriving DecidableEq

structure Arguments where
  builtins : Bool
  config : Option Text
  strict : Bool
  command : Command
  deriving DecidableEq

inductive Request where
  | run (arguments : Arguments)
  | help
  | version
  deriving DecidableEq

def CommandName.arity : CommandName → Nat
  | .render => 2
  | .resolve => 2
  | .decode => 1

def CommandName.command? (name : CommandName) (seen : Seen) : Option Command :=
  match name, seen.plains with
  | .render, [document, template] =>
      some (.render (Source.ofText document) template (seen.value? .results) (seen.has .replaceAll))
  | .resolve, [document, definition] => some (.resolve (Source.ofText document) definition)
  | .decode, [text] => some (.decode text)
  | _, _ => none

/-- The arguments read on the two sides of a command. What is given after the command goes
before what is given in front of it. -/
def Arguments.ofSides (before after : Seen) (command : Command) : Arguments :=
  { builtins := before.has .builtins || after.has .builtins
    config := (after.value? .config).or (before.value? .config)
    strict := after.has .strict
    command := command }

def requestOf : Flag → Option Request
  | .help => some .help
  | .version => some .version
  | _ => none

def afterCommand (before : Seen) (name : CommandName) (rest : List Text) : Option Request :=
  match scan name.rules (some name.arity) none .nothing rest with
  | .ended seen =>
      (name.command? seen).map (fun command => .run (Arguments.ofSides before seen command))
  | .requested flag => requestOf flag
  | _ => none

/-- The command that asks for help. It takes the names of commands and no options. -/
def helpName : Text := "help".toList

/-- Whether there is help on a row of names: on the whole, or on one command. No command has
commands of its own. -/
def hasHelpOn : List Text → Bool
  | [] => true
  | [name] => name == helpName || (commandNames.lookup name).isSome
  | _ => false

def request? (arguments : List Text) : Option Request :=
  match scan topRules none none .nothing arguments with
  | .command seen name rest =>
      match commandNames.lookup name with
      | some name => afterCommand seen name rest
      | none => if name = helpName ∧ hasHelpOn rest then some .help else none
  | .requested flag => requestOf flag
  | _ => none

end JsonTemplate.CommandLine
