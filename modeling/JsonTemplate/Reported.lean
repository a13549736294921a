import JsonTemplate.Json.Fault
import JsonTemplate.Notice

set_option autoImplicit false

/-! What comes of an operation: a result with the notices that were reported on the way to it, or
a failure that leaves it without one. The attempts after a failure are not made, but the notices
reported before it stay. -/

namespace JsonTemplate

inductive SourceFault where
  | notFound
  | notADirectory
  | isADirectory
  /-- Its bytes are not the encoding of a text. -/
  | notText
  /-- Anything else, as the system words it. -/
  | other (message : Text)

def SourceFault.message : SourceFault → Text
  | .notFound => "No such file or directory (os error 2)".toList
  | .notADirectory => "Not a directory (os error 20)".toList
  | .isADirectory => "Is a directory (os error 21)".toList
  | .notText => "stream did not contain valid UTF-8".toList
  | .other message => message

inductive Failure where
  | unknownFunction (name : Text)
  /-- A registered function gave up. -/
  | functionFailed (name message : Text)
  | notJson (fault : Json.Fault)
  | notFetched (fault : SourceFault)

def Failure.message : Failure → Text
  | .unknownFunction name => "unknown function: ".toList ++ name
  | .functionFailed name message =>
      "function ".toList ++ Text.ticked name ++ " failed: ".toList ++ message
  | .notJson fault => "invalid JSON: ".toList ++ fault.message
  | .notFetched fault => "I/O error: ".toList ++ fault.message

/-- A value and the notices reported on the way to it, the earliest first. -/
structure Reported (α : Type) where
  value : α
  notices : List Notice

abbrev Attempt (α : Type) := Reported (Except Failure α)

namespace Reported

variable {α β : Type}

def silent (value : α) : Reported α := ⟨value, []⟩

def noted (value : α) (notice : Notice) : Reported α := ⟨value, [notice]⟩

def map (change : α → β) (reported : Reported α) : Reported β :=
  ⟨change reported.value, reported.notices⟩

def andThen (reported : Reported α) (next : α → Reported β) : Reported β :=
  ⟨(next reported.value).value, reported.notices ++ (next reported.value).notices⟩

end Reported

namespace Attempt

variable {α β : Type}

def map (change : α → β) (attempt : Attempt α) : Attempt β :=
  ⟨attempt.value.map change, attempt.notices⟩

def andThen (attempt : Attempt α) (next : α → Attempt β) : Attempt β :=
  match attempt.value with
  | .error failure => ⟨.error failure, attempt.notices⟩
  | .ok result => ⟨(next result).value, attempt.notices ++ (next result).notices⟩

/-- Make an attempt for each member of a list, in order and up to the first failure. -/
def forEach (attempt : α → Attempt β) : List α → Attempt (List β)
  | [] => .silent (.ok [])
  | item :: rest =>
      andThen (attempt item) (fun result =>
        map (fun results => result :: results) (forEach attempt rest))

end Attempt
end JsonTemplate
