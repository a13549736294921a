import JsonTemplate.Binary64
import JsonTemplate.Json.Value

set_option autoImplicit false

/-! The text of a JSON document, in two layouts: compact, without any blank, and
indented, with every item and member on a line of its own. Strings escape the quote,
the backslash and the control characters below U+0020 only. -/

namespace JsonTemplate.Json

structure FloatLayout where
  /-- The least exponent of ten that is written without an exponent part. -/
  leastPlain : Int
  /-- The least exponent of ten from which an exponent part is written again. -/
  plainLimit : Int
  /-- What follows the digits of a whole number. -/
  wholeEnd : Text
  /-- What separates the digits from the exponent. -/
  exponentMark : Text
  /-- What marks an exponent that is not negative. -/
  plusMark : Text

/-- Numbers from 0.00001 up to below 10 000 000 000 000 000 are written out, with a zero
after the point if they are whole; the exponent of others carries its sign. -/
def floatLayout : FloatLayout :=
  { leastPlain := -5, plainLimit := 16, wholeEnd := ['.', '0'], exponentMark := ['e'],
    plusMark := ['+'] }

/-- The text of the digits of a number whose first digit stands for `10 ^ exponent`. -/
def FloatLayout.arrange (layout : FloatLayout) (digits : Text) (exponent : Int) : Text :=
  if layout.leastPlain ≤ exponent ∧ exponent < layout.plainLimit then
    if exponent < 0 then
      ['0', '.'] ++ List.replicate (-exponent - 1).toNat '0' ++ digits
    else
      let whole := exponent.toNat + 1
      if digits.length ≤ whole then
        digits ++ List.replicate (whole - digits.length) '0' ++ layout.wholeEnd
      else
        digits.take whole ++ ['.'] ++ digits.drop whole
  else
    let fraction := digits.drop 1
    digits.take 1 ++ (if fraction.isEmpty then [] else '.' :: fraction) ++ layout.exponentMark ++
      (if exponent < 0 then [] else layout.plusMark) ++ Text.ofInt exponent

/-- The text of a floating-point number: the fewest digits that read back. -/
def floatText (number : Binary64) : Text :=
  (if number.negative then ['-'] else []) ++
    if number.isZero then '0' :: floatLayout.wholeEnd
    else
      let decimal := Binary64.shortest number.code
      let digits := Text.ofNat decimal.digits
      floatLayout.arrange digits (decimal.exponent + digits.length - 1)

def Number.text : Number → Text
  | .integer value _ => Text.ofInt value
  | .float value => floatText value

def hexDigit (digit : Nat) : Char := Nat.digitChar digit

def escapedChar (char : Char) : Text :=
  if char = '"' then ['\\', '"']
  else if char = '\\' then ['\\', '\\']
  else if char = '\x08' then ['\\', 'b']
  else if char = '\x0c' then ['\\', 'f']
  else if char = '\n' then ['\\', 'n']
  else if char = '\r' then ['\\', 'r']
  else if char = '\t' then ['\\', 't']
  else if char.toNat < 0x20 then
    ['\\', 'u', '0', '0', hexDigit (char.toNat / 16), hexDigit (char.toNat % 16)]
  else [char]

def stringText (value : Text) : Text := '"' :: value.flatMap escapedChar ++ ['"']

namespace Value

mutual

def compact : Value → Text
  | .null => ['n', 'u', 'l', 'l']
  | .bool true => ['t', 'r', 'u', 'e']
  | .bool false => ['f', 'a', 'l', 's', 'e']
  | .number value => value.text
  | .string value => stringText value
  | .array [] => ['[', ']']
  | .array (first :: rest) => '[' :: (compact first ++ compactItems rest)
  | .object [] => ['\x7b', '\x7d']
  | .object ((key, first) :: rest) =>
      '\x7b' :: (stringText key ++ ':' :: (compact first ++ compactMembers rest))

/-- The items of an array after the first, with the bracket that closes it. -/
def compactItems : List Value → Text
  | [] => [']']
  | item :: rest => ',' :: (compact item ++ compactItems rest)

/-- The members of an object after the first, with the brace that closes it. -/
def compactMembers : List (Text × Value) → Text
  | [] => ['\x7d']
  | (key, value) :: rest =>
      ',' :: (stringText key ++ ':' :: (compact value ++ compactMembers rest))

end

def lineBreak (level : Nat) : Text := '\n' :: List.replicate (2 * level) ' '

mutual

/-- The text of a document whose first line stands at a level of indentation. -/
def indentedAt (level : Nat) : Value → Text
  | .null => ['n', 'u', 'l', 'l']
  | .bool true => ['t', 'r', 'u', 'e']
  | .bool false => ['f', 'a', 'l', 's', 'e']
  | .number value => value.text
  | .string value => stringText value
  | .array [] => ['[', ']']
  | .array (first :: rest) =>
      '[' :: (lineBreak (level + 1) ++ (indentedAt (level + 1) first ++ indentedItems level rest))
  | .object [] => ['\x7b', '\x7d']
  | .object ((key, first) :: rest) =>
      '\x7b' :: (lineBreak (level + 1) ++ (stringText key ++ ':' :: ' ' ::
        (indentedAt (level + 1) first ++ indentedMembers level rest)))

def indentedItems (level : Nat) : List Value → Text
  | [] => lineBreak level ++ [']']
  | item :: rest =>
      ',' :: (lineBreak (level + 1) ++ (indentedAt (level + 1) item ++ indentedItems level rest))

def indentedMembers (level : Nat) : List (Text × Value) → Text
  | [] => lineBreak level ++ ['\x7d']
  | (key, value) :: rest =>
      ',' :: (lineBreak (level + 1) ++ (stringText key ++ ':' :: ' ' ::
        (indentedAt (level + 1) value ++ indentedMembers level rest)))

end

def indented (value : Value) : Text := indentedAt 0 value

end Value
end JsonTemplate.Json
