import JsonTemplate.Options
import JsonTemplate.Placeholder
import JsonTemplate.Text.Replace
import JsonTemplate.Walk

set_option autoImplicit false

/-! Rendering a template: every placeholder gives way to the text of the value that its
path resolves to in a document. Each distinct placeholder is resolved once, in the order
in which they first appear, and the first failure leaves the template without a result. -/

namespace JsonTemplate

/-- The text of an outcome: a string as it stands, another value as JSON, and a text of its
own for what is absent or null. -/
def Outcome.text (outcome : Outcome) (undefinedText : Text) : Text :=
  match outcome.value? with
  | none => undefinedText
  | some .null => undefinedText
  | some (.string text) => text
  | some other => other.compact

namespace Template

open JsonTemplate.Json (Value)

def entryText (root : Value) (registry : Registry) (undefinedText : Text) (entry : Entry) :
    Attempt Text :=
  (entry.path.resolve root entry.token registry).map (fun outcome => outcome.text undefinedText)

/-- The rest of a template from a byte offset on, with each occurrence replaced by the text
of its entry. -/
def splice (template : Text) (texts : List Text) : Nat → List Occurrence → Text
  | offset, [] => Text.dropBytes offset template
  | offset, occurrence :: rest =>
      Text.sliceBytes offset occurrence.start template ++ texts[occurrence.entry]?.getD [] ++
        splice template texts occurrence.stop rest

def replaceInTurn (template : Text) (tokens texts : List Text) : Text :=
  (tokens.zip texts).foldl (fun done entry => Text.replaceAll entry.1 entry.2 done) template

def substitute (template : Text) (decoding : Decoding) (texts : List Text) :
    Substitution → Text
  | .singlePass => splice template texts 0 decoding.occurrences
  | .replaceAll => replaceInTurn template decoding.tokens texts

def render (template : Text) (root : Value) (registry : Registry) (options : Options) :
    Attempt Text :=
  let decoding := Decoding.ofText template
  (Attempt.forEach (entryText root registry options.undefinedText) decoding.entries).map
    (fun texts => substitute template decoding texts options.substitution)

end Template
end JsonTemplate
