import JsonTemplate.Text.Basic

set_option autoImplicit false

/-! Notices: what an application is told when something did not resolve as it was meant to,
although a result came out. They are reported into collectors, which handles name. A handle is a
position in the list of handles; it points to a buffer. A copy of a handle points to the same
buffer, so what is reported or cleared through one is reported or cleared for all of them. -/

namespace JsonTemplate

inductive Severity where
  | warning
  | error
  deriving DecidableEq

def Severity.worse : Severity → Severity → Severity
  | .error, _ => .error
  | .warning, other => other

inductive NoticeKind where
  /-- A plain member step came to an array. -/
  | arrayWithoutFilter
  /-- Several records satisfied the conditions; the first one was used. -/
  | severalMatches
  /-- No record satisfied the conditions. -/
  | noMatch
  /-- There were no conditions; the first record that says something was used. -/
  | bestGuess
  /-- A record was to be picked from something that is not an array. -/
  | notAnArray
  /-- A definition that should hold one placeholder held several. -/
  | severalAccessors
  /-- A step was to be read from null. -/
  | readThroughNull
  /-- The identifier of the results led nowhere. -/
  | resultsNotFound
  deriving DecidableEq

namespace NoticeKind

def severity : NoticeKind → Severity
  | .severalMatches | .bestGuess | .severalAccessors => .warning
  | .arrayWithoutFilter | .noMatch | .notAnArray | .readThroughNull | .resultsNotFound => .error

def label : NoticeKind → Text
  | .arrayWithoutFilter => "MissingFilter".toList
  | .severalMatches => "AmbiguousFilter".toList
  | .noMatch => "NoFilterMatch".toList
  | .bestGuess => "BestGuess".toList
  | .notAnArray => "MalformedArrayInput".toList
  | .severalAccessors => "MultipleAccessors".toList
  | .readThroughNull => "TraversalFailed".toList
  | .resultsNotFound => "ResultsNotFound".toList

end NoticeKind

/-- A notice carries a severity of its own, which is not always that of its kind. -/
structure Notice where
  kind : NoticeKind
  severity : Severity
  accessor : Text
  message : Text
  deriving DecidableEq

namespace Notice

def of (kind : NoticeKind) (accessor message : Text) : Notice :=
  ⟨kind, kind.severity, accessor, message⟩

def Graded (notice : Notice) : Prop := notice.severity = notice.kind.severity

def isError (notice : Notice) : Bool := notice.severity == .error

def text (notice : Notice) : Text :=
  notice.kind.label ++ " in ".toList ++ Text.ticked notice.accessor ++ ": ".toList ++ notice.message

def worst? (notices : List Notice) : Option Severity :=
  notices.foldr (fun notice worst =>
    match worst with
    | none => some notice.severity
    | some severity => some (notice.severity.worse severity)) none

end Notice

/-- All buffers, and for each handle the position of its buffer. -/
structure Collectors where
  buffers : List (List Notice)
  handles : List Nat

namespace Collectors

def empty : Collectors := ⟨[], []⟩

def fresh (collectors : Collectors) : Collectors :=
  ⟨collectors.buffers ++ [[]], collectors.handles ++ [collectors.buffers.length]⟩

def buffer? (collectors : Collectors) (handle : Nat) : Option Nat := collectors.handles[handle]?

def share (collectors : Collectors) (handle : Nat) : Collectors :=
  match collectors.buffer? handle with
  | some buffer => { collectors with handles := collectors.handles ++ [buffer] }
  | none => collectors

def update (collectors : Collectors) (handle : Nat) (change : List Notice → List Notice) :
    Collectors :=
  match collectors.buffer? handle with
  | some buffer => { collectors with buffers := collectors.buffers.modify buffer change }
  | none => collectors

def report (collectors : Collectors) (handle : Nat) (notice : Notice) : Collectors :=
  collectors.update handle (fun notices => notices ++ [notice])

def clear (collectors : Collectors) (handle : Nat) : Collectors :=
  collectors.update handle (fun _ => [])

/-- The notices that a handle shows, in the order of their reports. -/
def notices (collectors : Collectors) (handle : Nat) : List Notice :=
  match collectors.buffer? handle with
  | some buffer => collectors.buffers[buffer]?.getD []
  | none => []

def hasErrors (collectors : Collectors) (handle : Nat) : Bool :=
  (collectors.notices handle).any Notice.isError

def isEmpty (collectors : Collectors) (handle : Nat) : Bool :=
  (collectors.notices handle).isEmpty

end Collectors
end JsonTemplate
