import JsonTemplate.Json.Value
import JsonTemplate.Path

set_option autoImplicit false

/-! The placeholders of a text: a percent sign and the text of a path in parentheses,
the path made of ASCII letters and digits and the characters `_.:[]=&`. Placeholders are
found from left to right and do not overlap. A decoded text lists the distinct ones in
the order in which they first appear, each with its path, and every place where one of
them stands, as a range of UTF-8 bytes. As a JSON document it shows each placeholder with
its steps; a value that a condition or a call does not state is null there. -/

namespace JsonTemplate

open JsonTemplate.Json (Value)

namespace Placeholder

def isPathChar (char : Char) : Bool :=
  char.isAlphanum || ['_', '.', ':', '[', ']', '=', '&'].contains char

def token (inner : Text) : Text := '%' :: '(' :: inner ++ [')']

/-- The inner text of the placeholder that a text begins with, if it does. The characters of
a path do not include the parenthesis, so there is at most one. -/
def inner? : Text → Option Text
  | '%' :: '(' :: rest =>
      let inner := rest.takeWhile isPathChar
      if inner ≠ [] ∧ (rest.drop inner.length).head? = some ')' then some inner else none
  | _ => none

structure Place where
  start : Nat
  inner : Text
  deriving DecidableEq

def Place.stop (place : Place) : Nat := place.start + Text.utf8Length (token place.inner)

/-- The places in the rest of a text that goes on at a byte offset, with `passing`
characters still to leave out because they belong to a placeholder that was found. -/
def placesFrom : Nat → Nat → Text → List Place
  | _, _, [] => []
  | offset, passing + 1, char :: rest => placesFrom (offset + char.utf8Size) passing rest
  | offset, 0, char :: rest =>
      match inner? (char :: rest) with
      | some inner => ⟨offset, inner⟩ :: placesFrom (offset + char.utf8Size) (inner.length + 2) rest
      | none => placesFrom (offset + char.utf8Size) 0 rest

def places (text : Text) : List Place := placesFrom 0 0 text

end Placeholder

structure Entry where
  token : Text
  path : Path
  deriving DecidableEq

/-- A range of bytes in which a placeholder stands, and the position of its entry. -/
structure Occurrence where
  start : Nat
  stop : Nat
  entry : Nat
  deriving DecidableEq

structure Decoding where
  entries : List Entry
  occurrences : List Occurrence
  deriving DecidableEq

namespace Decoding

def ofText (text : Text) : Decoding :=
  let places := Placeholder.places text
  let inners := Text.firstAppearances (places.map Placeholder.Place.inner)
  { entries := inners.map (fun inner => ⟨Placeholder.token inner, Path.ofText inner⟩)
    occurrences := places.map (fun place => ⟨place.start, place.stop, inners.idxOf place.inner⟩) }

def tokens (decoding : Decoding) : List Text := decoding.entries.map Entry.token

def path? (decoding : Decoding) (token : Text) : Option Path :=
  (decoding.entries.find? (fun entry => decide (entry.token = token))).map Entry.path

end Decoding

def optionalText : Option Text → Value
  | some text => .string text
  | none => .null

def Condition.document : Condition → Value
  | .equals key value => .object [("key".toList, .string key), ("value".toList, .string value)]
  | .lacks key => .object [("key".toList, .string key), ("value".toList, .null)]

def Step.document : Step → Value
  | .access (.member name) =>
      .object [("step".toList, .string "field".toList), ("name".toList, .string name)]
  | .access (.record name extract conditions) =>
      .object [("step".toList, .string "filtered".toList), ("name".toList, .string name),
        ("extract".toList, .string extract),
        ("conditions".toList, .array (conditions.map Condition.document))]
  | .call name params =>
      .object [("step".toList, .string "function".toList), ("name".toList, .string name),
        ("params".toList, optionalText params)]

def Path.document (path : Path) : Value := .array (path.steps.map Step.document)

def Decoding.document (decoding : Decoding) : Value :=
  .object (decoding.entries.map (fun entry => (entry.token, entry.path.document)))

end JsonTemplate
