import JsonTemplate.Json.Printer
import JsonTemplate.Text.Characters

set_option autoImplicit false

/-! Why a text is not the JSON document that was asked for, and where that shows. A
place in a text is a line, counted from one, and the number of bytes on that line up to
the place. -/

namespace JsonTemplate.Json

inductive Found where
  | null
  | bool (value : Bool)
  | number (value : Number)
  | string (value : Text)
  | sequence
  | map

def Found.description : Found → Text
  | .null => "null".toList
  | .bool true => "boolean `true`".toList
  | .bool false => "boolean `false`".toList
  | .number (.integer value _) => "integer ".toList ++ Text.ticked (Text.ofInt value)
  | .number (.float value) => "floating point ".toList ++ Text.ticked (floatText value)
  | .string value => "string ".toList ++ Text.quoted value
  | .sequence => "sequence".toList
  | .map => "map".toList

inductive Cause where
  /-- The text ends where a value should begin or go on. -/
  | endInValue
  | endInList
  | endInObject
  | endInString
  | valueExpected
  /-- A word begins like one of the three constants and goes on otherwise. -/
  | wordExpected
  | colonExpected
  | itemEndExpected
  | memberEndExpected
  | keyNotString
  | trailingComma
  | trailingCharacters
  | invalidNumber
  | numberOutOfRange
  | invalidEscape
  /-- The first half of a surrogate pair is not followed by an escape. -/
  | surrogateUnfinished
  /-- A half of a surrogate pair stands where it cannot. -/
  | surrogateAlone
  | controlCharacter
  | tooDeep
  | unknownField (name : Text) (known : List Text)
  | unknownVariant (name : Text) (known : List Text)
  | duplicateField (name : Text)
  | wrongType (found : Found) (wanted : Text)

def alternatives (names : List Text) : Text :=
  Text.joined " or ".toList (names.map Text.ticked)

def Cause.message : Cause → Text
  | .endInValue => "EOF while parsing a value".toList
  | .endInList => "EOF while parsing a list".toList
  | .endInObject => "EOF while parsing an object".toList
  | .endInString => "EOF while parsing a string".toList
  | .valueExpected => "expected value".toList
  | .wordExpected => "expected ident".toList
  | .colonExpected => "expected `:`".toList
  | .itemEndExpected => "expected `,` or `]`".toList
  | .memberEndExpected => "expected `,` or `\x7d`".toList
  | .keyNotString => "key must be a string".toList
  | .trailingComma => "trailing comma".toList
  | .trailingCharacters => "trailing characters".toList
  | .invalidNumber => "invalid number".toList
  | .numberOutOfRange => "number out of range".toList
  | .invalidEscape => "invalid escape".toList
  | .surrogateUnfinished => "unexpected end of hex escape".toList
  | .surrogateAlone => "lone leading surrogate in hex escape".toList
  | .controlCharacter =>
      "control character (\\u0000-\\u001F) found while parsing a string".toList
  | .tooDeep => "recursion limit exceeded".toList
  | .unknownField name known =>
      "unknown field ".toList ++ Text.ticked name ++ ", expected ".toList ++ alternatives known
  | .unknownVariant name known =>
      "unknown variant ".toList ++ Text.ticked name ++ ", expected ".toList ++ alternatives known
  | .duplicateField name => "duplicate field ".toList ++ Text.ticked name
  | .wrongType found wanted =>
      "invalid type: ".toList ++ found.description ++ ", expected ".toList ++ wanted

structure Location where
  line : Nat
  column : Nat
  deriving DecidableEq

namespace Location

def start : Location := ⟨1, 0⟩

/-- The place `count` bytes further on in the text that follows. The end of the text is
the last place there is. -/
def advance (place : Location) : Nat → Text → Location
  | _, [] => place
  | count, char :: rest =>
      if count = 0 then place
      else if char = '\n' then advance ⟨place.line + 1, 0⟩ (count - 1) rest
      else if count < char.utf8Size then ⟨place.line, place.column + count⟩
      else advance ⟨place.line, place.column + char.utf8Size⟩ (count - char.utf8Size) rest

end Location

structure Fault where
  cause : Cause
  location : Location

def Fault.message (fault : Fault) : Text :=
  fault.cause.message ++ " at line ".toList ++ Text.ofNat fault.location.line ++
    " column ".toList ++ Text.ofNat fault.location.column

/-- Where and why reading came to a halt: `beyond` bytes after the beginning of the text
that was still unread. -/
structure Stop where
  cause : Cause
  unread : Text
  beyond : Nat

def Stop.fault (stop : Stop) (text : Text) : Fault :=
  ⟨stop.cause, Location.start.advance
    (Text.utf8Length text - Text.utf8Length stop.unread + stop.beyond) text⟩

end JsonTemplate.Json
