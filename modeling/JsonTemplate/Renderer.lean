import JsonTemplate.Results
import JsonTemplate.Template

set_option autoImplicit false

/-! A renderer: a registry of functions and the options of rendering, for any number of documents
and templates. It also resolves definitions: texts that should hold exactly one placeholder.
Further placeholders are passed over with a notice, and a definition without any stands for the
document itself. A session is one renderer at work on a current document, with all notices
reported since the last time they were cleared; an operation that fails changes nothing but the
notices. -/

namespace JsonTemplate

open JsonTemplate.Json (Value)

namespace Definition

def severalAccessors (definition : Text) (count : Nat) : Notice :=
  .of .severalAccessors definition ("expected a single accessor definition but found ".toList ++
    Text.ofNat count ++ ", using the first".toList)

def resolve (definition : Text) (root : Value) (registry : Registry) : Attempt Outcome :=
  let entries := (Decoding.ofText definition).entries
  let surplus : List Notice :=
    if 1 < entries.length then [severalAccessors definition entries.length] else []
  let resolved : Attempt Outcome :=
    match entries with
    | [] => .silent (.ok (.standIn root .noAccessor))
    | first :: _ => first.path.resolve root first.token registry
  ⟨resolved.value, surplus ++ resolved.notices⟩

end Definition

structure Renderer where
  registry : Registry
  options : Options

namespace Renderer

def standard : Renderer := ⟨Registry.empty, Options.standard⟩

def render (renderer : Renderer) (root : Value) (template : Text) : Attempt Text :=
  Template.render template root renderer.registry renderer.options

def resolve (renderer : Renderer) (root : Value) (definition : Text) : Attempt Outcome :=
  Definition.resolve definition root renderer.registry

def resolveValue (renderer : Renderer) (root : Value) (definition : Text) : Attempt Value :=
  (renderer.resolve root definition).map Outcome.value

def renderResults (renderer : Renderer) (response : Value) (results : Option Text)
    (template : Text) : Attempt (List Text) :=
  let selection := Results.select response results
  let rendered := Attempt.forEach (fun item => renderer.render item template)
    (Results.items (selection.value.value response))
  ⟨rendered.value, selection.notices ++ rendered.notices⟩

end Renderer

structure Session where
  renderer : Renderer
  document : Value
  notices : List Notice

namespace Session

def start (registry : Registry) : Session := ⟨⟨registry, Options.standard⟩, .null, []⟩

def observe {α : Type} (session : Session) (reported : Reported α) : α × Session :=
  (reported.value, { session with notices := session.notices ++ reported.notices })

def load (session : Session) (text : Text) : Except Failure Unit × Session :=
  match Json.read text with
  | .ok document => (.ok (), { session with document := document })
  | .error fault => (.error (.notJson fault), session)

def drill (session : Session) (identifier : Option Text) : Value × Session :=
  let selection := Results.select session.document identifier
  let document := selection.value.value session.document
  (document, { (session.observe selection).2 with document := document })

def configure (session : Session) (text : Text) : Except Failure Options × Session :=
  match Options.read text with
  | .ok options =>
      (.ok options, { session with renderer := { session.renderer with options := options } })
  | .error fault => (.error (.notJson fault), session)

def register (session : Session) (function : Function) : List Text × Session :=
  let registry := session.renderer.registry.register function
  (registry.names, { session with renderer := { session.renderer with registry := registry } })

def clear (session : Session) : Session := { session with notices := [] }

def render (session : Session) (template : Text) : Except Failure Text × Session :=
  session.observe (session.renderer.render session.document template)

def renderResults (session : Session) (results : Option Text) (template : Text) :
    Except Failure (List Text) × Session :=
  session.observe (session.renderer.renderResults session.document results template)

def resolve (session : Session) (definition : Text) : Except Failure Outcome × Session :=
  session.observe (session.renderer.resolve session.document definition)

def resolveValue (session : Session) (definition : Text) : Except Failure Value × Session :=
  session.observe (session.renderer.resolveValue session.document definition)

def select (session : Session) (identifier : Option Text) : Results.Selection × Session :=
  session.observe (Results.select session.document identifier)

end Session
end JsonTemplate
