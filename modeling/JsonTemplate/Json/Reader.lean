import JsonTemplate.Json.Fault

set_option autoImplicit false

/-! Reading a JSON document from a text. Each function reads one kind of thing at the
front of a text and returns it with the text left unread, or says where it stopped and
why. A repeated key keeps the place of its first and the value of its last appearance,
and at most 127 arrays and objects may be nested. -/

namespace JsonTemplate.Json

/-- What was read, and the text left; or the halt. -/
abbrev Reading (α : Type) := Except Stop (α × Text)

def stopHere {α : Type} (cause : Cause) (unread : Text) : Except Stop α :=
  .error ⟨cause, unread, 0⟩

/-- A halt at the next byte of the unread text, which is counted in. -/
def stopAtNext {α : Type} (cause : Cause) (unread : Text) : Except Stop α :=
  .error ⟨cause, unread, 1⟩

def isSpace (char : Char) : Bool :=
  char == ' ' || char == '\n' || char == '\t' || char == '\r'

def skipSpace (text : Text) : Text := text.dropWhile isSpace

def word : Text → Text → Except Stop Text
  | [], unread => .ok unread
  | _ :: _, [] => stopHere .endInValue []
  | expected :: more, char :: unread =>
      if char = expected then word more unread else stopAtNext .wordExpected (char :: unread)

def hexDigitValue? (char : Char) : Option Nat :=
  if '0' ≤ char ∧ char ≤ '9' then some (char.toNat - '0'.toNat)
  else if 'a' ≤ char ∧ char ≤ 'f' then some (char.toNat - 'a'.toNat + 10)
  else if 'A' ≤ char ∧ char ≤ 'F' then some (char.toNat - 'A'.toNat + 10)
  else none

def codeUnit (unread : Text) : Except Stop Nat :=
  let refused : Except Stop Nat :=
    if Text.utf8Length unread < 4 then stopHere .endInString []
    else .error ⟨.invalidEscape, unread, 4⟩
  match unread with
  | first :: second :: third :: fourth :: _ =>
      match hexDigitValue? first, hexDigitValue? second, hexDigitValue? third,
        hexDigitValue? fourth with
      | some a, some b, some c, some d => .ok (((a * 16 + b) * 16 + c) * 16 + d)
      | _, _, _, _ => refused
  | _ => refused

def isLeading (code : Nat) : Bool := decide (0xD800 ≤ code) && decide (code ≤ 0xDBFF)

def isTrailing (code : Nat) : Bool := decide (0xDC00 ≤ code) && decide (code ≤ 0xDFFF)

def ofSurrogates (leading trailing : Nat) : Char :=
  Char.ofNat ((leading - 0xD800) * 0x400 + (trailing - 0xDC00) + 0x10000)

def trailingEscape (leading : Nat) : Text → Except Stop Char
  | [] => stopHere .endInString []
  | ['\\'] => stopHere .endInString []
  | '\\' :: 'u' :: unread =>
      match codeUnit unread with
      | .error stop => .error stop
      | .ok code =>
          if isTrailing code then .ok (ofSurrogates leading code)
          else stopHere .surrogateAlone (unread.drop 4)
  | '\\' :: unread => stopAtNext .surrogateUnfinished unread
  | unread => stopAtNext .surrogateUnfinished unread

def escapedLetter? (letter : Char) : Option Char :=
  if letter = '"' ∨ letter = '\\' ∨ letter = '/' then some letter
  else if letter = 'b' then some '\x08'
  else if letter = 'f' then some '\x0c'
  else if letter = 'n' then some '\n'
  else if letter = 'r' then some '\r'
  else if letter = 't' then some '\t'
  else none

/-- Read what follows a backslash: the character meant, and how many characters that
took. -/
def escape : Text → Except Stop (Char × Nat)
  | [] => stopHere .endInString []
  | 'u' :: unread =>
      match codeUnit unread with
      | .error stop => .error stop
      | .ok code =>
          if isTrailing code then stopHere .surrogateAlone (unread.drop 4)
          else if isLeading code then
            match trailingEscape code (unread.drop 4) with
            | .error stop => .error stop
            | .ok char => .ok (char, 11)
          else .ok (Char.ofNat code, 5)
  | letter :: unread =>
      match escapedLetter? letter with
      | some char => .ok (char, 1)
      | none => stopAtNext .invalidEscape (letter :: unread)

def consChar (char : Char) : Reading Text → Reading Text
  | .error stop => .error stop
  | .ok (text, unread) => .ok (char :: text, unread)

/-- Read a string after its opening quote, with `passing` characters still to leave out
because they belong to an escape that has been read. -/
def stringFrom : Nat → Text → Reading Text
  | _, [] => stopHere .endInString []
  | passing + 1, _ :: rest => stringFrom passing rest
  | 0, char :: rest =>
      if char = '"' then .ok ([], rest)
      else if char = '\\' then
        match escape rest with
        | .error stop => .error stop
        | .ok (meant, taken) => consChar meant (stringFrom taken rest)
      else if char.toNat < 0x20 then stopAtNext .controlCharacter (char :: rest)
      else consChar char (stringFrom 0 rest)

def digitValue (char : Char) : Nat := char.toNat - '0'.toNat

def startsWithDigit : Text → Bool
  | [] => false
  | char :: _ => char.isDigit

/-- Go on with a number by the digits in front of a text, as long as the number stays
within a bound. -/
def digitsWithin (bound : Nat) : Nat → Text → Nat × Text
  | value, [] => (value, [])
  | value, char :: rest =>
      if char.isDigit && decide (value * 10 + digitValue char ≤ bound) then
        digitsWithin bound (value * 10 + digitValue char) rest
      else (value, char :: rest)

/-- The greatest significand that is kept exactly, of 64 bits; further digits only count. -/
def significandBound : Nat := 18446744073709551615

/-- The greatest exponent that is kept exactly, of 31 bits. -/
def exponentBound : Nat := 2147483647

def scaled (negative : Bool) (significand : Nat) (exponent : Int) (unread : Text) :
    Reading Number :=
  match Binary64.ofDecimal? negative significand exponent with
  | some value => .ok (.float value, unread)
  | none => stopHere .numberOutOfRange unread

def exponentPart (negative : Bool) (significand : Nat) (exponent : Int) (unread : Text) :
    Reading Number :=
  let signed : Bool × Text :=
    match unread with
    | '+' :: rest => (false, rest)
    | '-' :: rest => (true, rest)
    | rest => (false, rest)
  match signed with
  | (_, []) => stopHere .endInValue []
  | (down, char :: rest) =>
      if char.isDigit then
        let (value, rest) := digitsWithin exponentBound (digitValue char) rest
        if startsWithDigit rest then
          if significand ≠ 0 ∧ down = false then stopAtNext .numberOutOfRange rest
          else .ok (.float (Binary64.zero negative), rest.dropWhile Char.isDigit)
        else scaled negative significand (if down then exponent - value else exponent + value) rest
      else stopAtNext .invalidNumber (char :: rest)

def scaledBy (negative : Bool) (significand : Nat) (exponent : Int) (unread : Text) :
    Reading Number :=
  match unread with
  | 'e' :: rest => exponentPart negative significand exponent rest
  | 'E' :: rest => exponentPart negative significand exponent rest
  | _ => scaled negative significand exponent unread

def fractionPart (negative : Bool) (significand : Nat) (exponent : Int) (unread : Text) :
    Reading Number :=
  let (value, rest) := digitsWithin significandBound significand unread
  if startsWithDigit unread then
    scaledBy negative value (exponent - (unread.length - rest.length : Nat))
      (rest.dropWhile Char.isDigit)
  else if unread.isEmpty then stopHere .endInValue []
  else stopAtNext .invalidNumber unread

/-- The integer with a sign and a magnitude if it is one, else the nearest floating-point
number. Zero with a minus sign is no integer. -/
def integral (negative : Bool) (magnitude : Nat) (unread : Text) : Reading Number :=
  let value : Int := if negative then -(magnitude : Int) else magnitude
  if inRange : leastInteger ≤ value ∧ value ≤ greatestInteger then
    if negative = true ∧ magnitude = 0 then scaled negative 0 0 unread
    else .ok (.integer value inRange, unread)
  else scaled negative magnitude 0 unread

def afterInteger (negative : Bool) (significand : Nat) (unread : Text) : Reading Number :=
  match unread with
  | '.' :: rest => fractionPart negative significand 0 rest
  | 'e' :: rest => exponentPart negative significand 0 rest
  | 'E' :: rest => exponentPart negative significand 0 rest
  | _ => integral negative significand unread

/-- Read what follows a significand that can take no further digit. -/
def afterLongInteger (negative : Bool) (significand : Nat) (unread : Text) : Reading Number :=
  let rest := unread.dropWhile Char.isDigit
  let dropped : Int := (unread.length - rest.length : Nat)
  match rest with
  | '.' :: rest => fractionPart negative significand dropped rest
  | _ => scaledBy negative significand dropped rest

def number (negative : Bool) : Text → Reading Number
  | [] => stopHere .endInValue []
  | char :: rest =>
      if char = '0' then
        if startsWithDigit rest then stopAtNext .invalidNumber rest
        else afterInteger negative 0 rest
      else if char.isDigit then
        let (significand, rest) := digitsWithin significandBound (digitValue char) rest
        if startsWithDigit rest then afterLongInteger negative significand rest
        else afterInteger negative significand rest
      else stopAtNext .invalidNumber (char :: rest)

/-- Look for the next item of an array: whether there is one, and the text where it begins
or, if the array is closed, goes on. -/
def nextItem (first : Bool) (unread : Text) : Reading Bool :=
  match skipSpace unread with
  | [] => stopHere .endInList []
  | char :: rest =>
      if char = ']' then .ok (false, rest)
      else if first then .ok (true, char :: rest)
      else if char = ',' then
        match skipSpace rest with
        | [] => stopHere .endInValue []
        | char :: rest =>
            if char = ']' then stopAtNext .trailingComma (char :: rest)
            else .ok (true, char :: rest)
      else stopAtNext .itemEndExpected (char :: rest)

/-- Look for the next key of an object: whether there is one, and the text after its
opening quote or, if the object is closed, the text that goes on. -/
def nextKey (first : Bool) (unread : Text) : Reading Bool :=
  match skipSpace unread with
  | [] => stopHere .endInObject []
  | char :: rest =>
      if char = '\x7d' then .ok (false, rest)
      else if first then
        if char = '"' then .ok (true, rest) else stopAtNext .keyNotString (char :: rest)
      else if char = ',' then
        match skipSpace rest with
        | [] => stopHere .endInValue []
        | char :: rest =>
            if char = '"' then .ok (true, rest)
            else if char = '\x7d' then stopAtNext .trailingComma (char :: rest)
            else stopAtNext .keyNotString (char :: rest)
      else stopAtNext .memberEndExpected (char :: rest)

def colon (unread : Text) : Except Stop Text :=
  match skipSpace unread with
  | [] => stopHere .endInObject []
  | char :: rest => if char = ':' then .ok rest else stopAtNext .colonExpected (char :: rest)

def depthLimit : Nat := 127

mutual

/-- Read a value. The first argument bounds the number of calls, the second the number of
levels that may still be opened. -/
def value : Nat → Nat → Text → Except Stop (Value × Text)
  | 0, _, unread => stopHere .endInValue unread
  | calls + 1, depth, unread =>
      match skipSpace unread with
      | [] => stopHere .endInValue []
      | char :: rest =>
          if char = 'n' then do
            let unread ← word ['u', 'l', 'l'] rest
            return (.null, unread)
          else if char = 't' then do
            let unread ← word ['r', 'u', 'e'] rest
            return (.bool true, unread)
          else if char = 'f' then do
            let unread ← word ['a', 'l', 's', 'e'] rest
            return (.bool false, unread)
          else if char = '-' then do
            let (read, unread) ← number true rest
            return (.number read, unread)
          else if char.isDigit then do
            let (read, unread) ← number false (char :: rest)
            return (.number read, unread)
          else if char = '"' then do
            let (read, unread) ← stringFrom 0 rest
            return (.string read, unread)
          else if char = '[' then
            match depth with
            | 0 => stopAtNext .tooDeep (char :: rest)
            | depth + 1 => do
                let (read, unread) ← items calls depth true rest
                return (.array read, unread)
          else if char = '\x7b' then
            match depth with
            | 0 => stopAtNext .tooDeep (char :: rest)
            | depth + 1 => do
                let (read, unread) ← members calls depth true rest
                return (.object (Value.collect read), unread)
          else stopAtNext .valueExpected (char :: rest)

def items : Nat → Nat → Bool → Text → Except Stop (List Value × Text)
  | 0, _, _, unread => stopHere .endInList unread
  | calls + 1, depth, first, unread => do
      let (more, unread) ← nextItem first unread
      if more then
        let (item, unread) ← value calls depth unread
        let (rest, unread) ← items calls depth false unread
        return (item :: rest, unread)
      else return ([], unread)

def members : Nat → Nat → Bool → Text → Except Stop (List (Text × Value) × Text)
  | 0, _, _, unread => stopHere .endInObject unread
  | calls + 1, depth, first, unread => do
      let (more, unread) ← nextKey first unread
      if more then
        let (key, unread) ← stringFrom 0 unread
        let unread ← colon unread
        let (read, unread) ← value calls depth unread
        let (rest, unread) ← members calls depth false unread
        return ((key, read) :: rest, unread)
      else return ([], unread)

end

/-- A bound on the calls it takes to read a value from a text: a call that opens no
bracket takes a character, and two calls follow each other for a bracket. -/
def callBound (text : Text) : Nat := 2 * text.length + 1

def finished {α : Type} (read : α) (unread : Text) : Except Stop α :=
  match skipSpace unread with
  | [] => .ok read
  | rest => stopAtNext .trailingCharacters rest

def read (text : Text) : Except Fault Value :=
  match value (callBound text) depthLimit text with
  | .error stop => .error (stop.fault text)
  | .ok (document, unread) =>
      match finished document unread with
      | .error stop => .error (stop.fault text)
      | .ok document => .ok document

end JsonTemplate.Json
