import JsonTemplate.Json.Reader

set_option autoImplicit false

/-! How a template is rendered, and how that is read from JSON text. Options are an object with
at most the two known fields, or an array with their values in order; what is not given keeps
its standard value. The text is read as options directly, not as a document first, so of two
mistakes the one that stands first is found. -/

namespace JsonTemplate

inductive Substitution where
  /-- In one pass over the places found in the template. What was put in is not looked at
  again. -/
  | singlePass
  /-- One distinct placeholder after the other, each everywhere in the text so far. A value
  that holds a later placeholder is changed, too. -/
  | replaceAll
  deriving DecidableEq

structure Options where
  substitution : Substitution
  /-- What is written for values that are absent or null. -/
  undefinedText : Text
  deriving DecidableEq

def Options.standard : Options := ⟨.singlePass, "undefined".toList⟩

namespace Options

open JsonTemplate.Json

/-- A halt because something of another type was wanted than the value that the unread text
begins with. A constant, a number or a string is read before the halt. -/
def refuse {α : Type} (wanted : Text) (unread : Text) : Except Stop α :=
  match unread with
  | [] => stopHere .endInValue []
  | char :: rest =>
      if char = 'n' then do
        let unread ← word ['u', 'l', 'l'] rest
        stopHere (.wrongType .null wanted) unread
      else if char = 't' then do
        let unread ← word ['r', 'u', 'e'] rest
        stopHere (.wrongType (.bool true) wanted) unread
      else if char = 'f' then do
        let unread ← word ['a', 'l', 's', 'e'] rest
        stopHere (.wrongType (.bool false) wanted) unread
      else if char = '-' then
        match number true rest with
        | .error stop => .error stop
        | .ok (found, unread) => stopHere (.wrongType (.number found) wanted) unread
      else if char.isDigit then
        match number false (char :: rest) with
        | .error stop => .error stop
        | .ok (found, unread) => stopHere (.wrongType (.number found) wanted) unread
      else if char = '"' then
        match stringFrom 0 rest with
        | .error stop => .error stop
        | .ok (found, unread) => stopHere (.wrongType (.string found) wanted) unread
      else if char = '[' then stopHere (.wrongType .sequence wanted) (char :: rest)
      else if char = '\x7b' then stopHere (.wrongType .map wanted) (char :: rest)
      else stopAtNext .valueExpected (char :: rest)

def stringValue (unread : Text) : Except Stop (Text × Text) :=
  match skipSpace unread with
  | '"' :: rest => stringFrom 0 rest
  | rest => refuse "a string".toList rest

def unitValue (unread : Text) : Except Stop Text :=
  match skipSpace unread with
  | 'n' :: rest => word ['u', 'l', 'l'] rest
  | rest => refuse "unit".toList rest

def substitutionNames : List (Text × Substitution) :=
  [("single_pass".toList, .singlePass), ("replace_all".toList, .replaceAll)]

def substitutionName (unread : Text) : Except Stop (Substitution × Text) := do
  let (name, unread) ← stringFrom 0 unread
  match substitutionNames.lookup name with
  | some substitution => return (substitution, unread)
  | none => stopHere (.unknownVariant name (substitutionNames.map Prod.fst)) unread

def onlyKey (unread : Text) : Except Stop Text :=
  match skipSpace unread with
  | [] => stopHere .endInObject []
  | char :: rest =>
      if char = '"' then .ok rest
      else if char = '\x7d' then stopAtNext .valueExpected (char :: rest)
      else stopAtNext .keyNotString (char :: rest)

def objectEnd (unread : Text) : Except Stop Text :=
  match skipSpace unread with
  | [] => stopHere .endInObject []
  | char :: rest => if char = '\x7d' then .ok rest else stopHere .valueExpected (char :: rest)

/-- Read a way of substitution: its name, or an object that maps its name to null. -/
def substitutionValue (unread : Text) : Except Stop (Substitution × Text) :=
  match skipSpace unread with
  | [] => stopHere .endInValue []
  | char :: rest =>
      if char = '"' then substitutionName rest
      else if char = '\x7b' then do
        let unread ← onlyKey rest
        let (substitution, unread) ← substitutionName unread
        let unread ← colon unread
        let unread ← unitValue unread
        let unread ← objectEnd unread
        return (substitution, unread)
      else stopAtNext .valueExpected (char :: rest)

def substitutionField : Text := "substitution".toList

def undefinedTextField : Text := "undefined_text".toList

structure Given where
  substitution : Option Substitution
  undefinedText : Option Text

def Given.options (given : Given) : Options :=
  { substitution := given.substitution.getD standard.substitution
    undefinedText := given.undefinedText.getD standard.undefinedText }

/-- A halt at a key that is not allowed: at what follows it, after the end of the object if
that is what follows. -/
def refuseKey {α : Type} (cause : Cause) (unread : Text) : Except Stop α :=
  match skipSpace unread with
  | '\x7d' :: rest => stopHere cause rest
  | rest => stopHere cause rest

def fieldValue (given : Given) (key unread : Text) : Except Stop (Given × Text) :=
  if key = substitutionField then
    if given.substitution.isSome then refuseKey (.duplicateField key) unread
    else do
      let unread ← colon unread
      let (value, unread) ← substitutionValue unread
      return ({ given with substitution := some value }, unread)
  else if key = undefinedTextField then
    if given.undefinedText.isSome then refuseKey (.duplicateField key) unread
    else do
      let unread ← colon unread
      let (value, unread) ← stringValue unread
      return ({ given with undefinedText := some value }, unread)
  else refuseKey (.unknownField key [substitutionField, undefinedTextField]) unread

/-- Read the fields of an object from the first or from a later one on, and its end. Two
fields can be given, so the third round at the latest is the last. -/
def fields : Nat → Given → Bool → Text → Except Stop (Given × Text)
  | 0, _, _, unread => stopHere .endInObject unread
  | rounds + 1, given, first, unread => do
      let (more, unread) ← nextKey first unread
      if more then
        let (key, unread) ← stringFrom 0 unread
        let (given, unread) ← fieldValue given key unread
        fields rounds given false unread
      else return (given, unread)

def arrayEnd (unread : Text) : Except Stop Text :=
  match skipSpace unread with
  | [] => stopHere .endInList []
  | char :: rest =>
      if char = ']' then .ok rest
      else if char = ',' then
        match skipSpace rest with
        | ']' :: rest => stopAtNext .trailingComma (']' :: rest)
        | rest => stopAtNext .trailingCharacters rest
      else stopAtNext .trailingCharacters (char :: rest)

def sequence (unread : Text) : Except Stop (Given × Text) := do
  let (more, unread) ← nextItem true unread
  if more then
    let (substitution, unread) ← substitutionValue unread
    let (more, unread) ← nextItem false unread
    if more then
      let (undefinedText, unread) ← stringValue unread
      let unread ← arrayEnd unread
      return (⟨some substitution, some undefinedText⟩, unread)
    else return (⟨some substitution, none⟩, unread)
  else return (⟨none, none⟩, unread)

def fromFront (text : Text) : Except Stop (Given × Text) :=
  match skipSpace text with
  | '[' :: rest => sequence rest
  | '\x7b' :: rest => fields 3 ⟨none, none⟩ true rest
  | rest => refuse "struct Options".toList rest

def read (text : Text) : Except Fault Options :=
  let result : Except Stop Options := do
    let (given, unread) ← fromFront text
    finished given.options unread
  match result with
  | .error stop => .error (stop.fault text)
  | .ok options => .ok options

end Options
end JsonTemplate
