import JsonTemplate.Placeholder
import JsonTemplate.Reported
import JsonTemplate.Text.Characters

set_option autoImplicit false

/-! The part of a response that holds its results. An identifier names it: a single
placeholder of plain member steps, with nothing but blanks around it. A blank identifier
stands for the whole response, and so does one that leads nowhere, with a notice. -/

namespace JsonTemplate.Results

open JsonTemplate.Json (Value)

inductive Selection where
  | whole
  | part (value : Value)

namespace Selection

def value (document : Value) : Selection → Value
  | .whole => document
  | .part value => value

def isWhole : Selection → Bool
  | .whole => true
  | .part _ => false

end Selection

def notFound (identifier message : Text) : Notice := .of .resultsNotFound identifier message

/-- Where a step leads from a value. Only plain member steps lead anywhere. -/
def next? (value : Value) : Step → Option Value
  | .access (.member name) => value.member? name
  | _ => none

def follow : Value → List Step → Except Step Value
  | value, [] => .ok value
  | value, step :: rest =>
      match next? value step with
      | some next => follow next rest
      | none => .error step

/-- Select by an identifier that is not blank and has no blanks around it. -/
def selectBy (document : Value) (identifier : Text) : Reported Selection :=
  match (Decoding.ofText identifier).path? identifier with
  | none => .noted .whole
      (notFound identifier "results identifier is not a single accessor definition".toList)
  | some path =>
      match follow document path.steps with
      | .ok value => .silent (.part value)
      | .error step => .noted .whole
          (notFound identifier ("unable to step down into ".toList ++ Text.ticked step.text ++
            ", keeping the whole response".toList))

def select (document : Value) (identifier : Option Text) : Reported Selection :=
  match identifier with
  | none => .silent .whole
  | some text =>
      match Text.trimmed text with
      | [] => .silent .whole
      | char :: rest => selectBy document (char :: rest)

def items : Value → List Value
  | .array items => items
  | other => [other]

end JsonTemplate.Results
