import JsonTemplate.Text.Basic
import JsonTemplate.Text.CaseTable
import JsonTemplate.Text.UnprintableTable

set_option autoImplicit false

/-! Classes and forms of characters, by the tables of Unicode. Blanks are left out at the two
ends of a text. Lower and upper case follow the full case mapping without the rules of any one
language; one rule looks beyond a single character: the capital sigma has another lower form at
the end of a word. Between double quotes, as a message shows a text, the quote and the backslash
are marked with a backslash, four control characters have a letter of their own, and every other
character that would not be seen as itself is written by its code point. -/

namespace JsonTemplate.Text

/-- The ranges of characters with the Unicode property White_Space. -/
def blankRanges : List (Nat × Nat) :=
  [(0x9, 0xD), (0x20, 0x20), (0x85, 0x85), (0xA0, 0xA0), (0x1680, 0x1680), (0x2000, 0x200A),
    (0x2028, 0x2029), (0x202F, 0x202F), (0x205F, 0x205F), (0x3000, 0x3000)]

def inRanges (ranges : List (Nat × Nat)) (code : Nat) : Bool :=
  ranges.any (fun range => decide (range.1 ≤ code) && decide (code ≤ range.2))

def isBlank (char : Char) : Bool := inRanges blankRanges char.toNat

def trimmed (text : Text) : Text :=
  ((text.dropWhile isBlank).reverse.dropWhile isBlank).reverse

def shifted? (runs : List CaseRun) (code : Nat) : Option Char :=
  (runs.find? (fun run =>
      decide (run.first ≤ code) && decide (code ≤ run.last) &&
        (code - run.first) % run.stride == 0)).map
    (fun run => Char.ofNat ((code : Int) + run.shift).toNat)

def caseForm (long : List (Nat × List Nat)) (runs : List CaseRun) (char : Char) : Text :=
  match long.lookup char.toNat with
  | some codes => codes.map Char.ofNat
  | none => [(shifted? runs char.toNat).getD char]

def upperChar (char : Char) : Text := caseForm longUppers upperRuns char

def lowerChar (char : Char) : Text := caseForm longLowers lowerRuns char

/-- Whether the first character that is not passed over is cased. -/
def reachesCased (text : Text) : Bool :=
  match text.dropWhile (fun char => inRanges caseIgnorableRanges char.toNat) with
  | [] => false
  | char :: _ => inRanges casedRanges char.toNat

/-- The lower form of the capital sigma between the text before it, read backwards, and
the text after it: the final sigma if the word has begun and does not go on. -/
def lowerSigma (before after : Text) : Char :=
  if reachesCased before && !reachesCased after then '\u03c2' else '\u03c3'

/-- The lower form of a text that follows `before`, which is given backwards. -/
def lowerAfter (before : Text) : Text → Text
  | [] => []
  | char :: rest =>
      (if char = '\u03a3' then [lowerSigma before rest] else lowerChar char) ++
        lowerAfter (char :: before) rest

def lower (text : Text) : Text := lowerAfter [] text

def upper (text : Text) : Text := text.flatMap upperChar

def hexadecimal (number : Nat) : Text := Nat.toDigits 16 number

def quotedChar (char : Char) : Text :=
  if char = '\x00' then ['\\', '0']
  else if char = '\t' then ['\\', 't']
  else if char = '\r' then ['\\', 'r']
  else if char = '\n' then ['\\', 'n']
  else if char = '"' then ['\\', '"']
  else if char = '\\' then ['\\', '\\']
  else if inRanges unprintableRanges char.toNat then
    ['\\', 'u', '\x7b'] ++ hexadecimal char.toNat ++ ['\x7d']
  else [char]

def quoted (text : Text) : Text := '"' :: text.flatMap quotedChar ++ ['"']

end JsonTemplate.Text
