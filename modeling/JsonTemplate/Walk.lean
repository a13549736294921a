import JsonTemplate.Function
import JsonTemplate.Path

set_option autoImplicit false

/-! Resolving a path in a document. A path with a call is resolved by the first call, whatever
stands around it. Any other path is walked from the root, and the walk ends early where a step
cannot be read: without a value if the step leads out of the document, else with a value that
stands in for the result. A record step picks one record of an array: with conditions the first
that satisfies all of them, without conditions the first whose wanted member says something. What
was picked stands for its wanted member; when nothing can be picked, the value that was to be
searched is kept. -/

namespace JsonTemplate

open JsonTemplate.Json (Value)

inductive Choice where
  /-- The wanted member of the record picked, if the record has it. -/
  | picked (wanted : Option Value)
  /-- Nothing could be picked from this value. -/
  | kept (searched : Value)

def Choice.value? : Choice → Option Value
  | .picked wanted => wanted
  | .kept searched => some searched

/-- Whether a record satisfies a condition. Equality is equality of strings, so no number
equals a text. What is not an object lacks every key. -/
def Condition.holds (record : Value) : Condition → Bool
  | .equals key value =>
      match record.member? key with
      | some (.string found) => decide (found = value)
      | _ => false
  | .lacks key => (record.member? key).isNone

def Condition.allHold (conditions : List Condition) (record : Value) : Bool :=
  conditions.all (fun condition => condition.holds record)

namespace Records

def shown : Option Value → Text
  | some value => value.compact
  | none => "undefined".toList

def guess (items : List Value) (extract accessor : Text) : Reported Choice :=
  match items.find? (fun record => (record.member? extract).any Value.isTruthy) with
  | some record =>
      .noted (.picked (record.member? extract))
        (.of .bestGuess accessor ("no conditionals given, returning best guess ".toList ++
          shown (record.member? extract)))
  | none =>
      .noted (.kept (.array items))
        (.of .noMatch accessor ("no record carries a value for ".toList ++ Text.ticked extract))

def select (items : List Value) (extract : Text) (conditions : List Condition)
    (accessor : Text) : Reported Choice :=
  match items.filter (Condition.allHold conditions) with
  | [] => .noted (.kept (.array items))
      (.of .noMatch accessor "no records matched the filter".toList)
  | [only] => .silent (.picked (only.member? extract))
  | first :: _ :: rest =>
      .noted (.picked (first.member? extract))
        (.of .severalMatches accessor (Text.ofNat (rest.length + 2) ++
          " records matched, returning first match ".toList ++ shown (first.member? extract)))

/-- Pick a record of a value that should be an array, for its member `extract`. The accessor
labels the notices. -/
def choose (searched : Value) (extract : Text) (conditions : List Condition)
    (accessor : Text) : Reported Choice :=
  match searched with
  | .array items =>
      match conditions with
      | [] => guess items extract accessor
      | _ :: _ => select items extract conditions accessor
  | other =>
      .noted (.kept other)
        (.of .notAnArray accessor ("cannot filter non-array value ".toList ++ other.compact))

end Records

inductive StandInReason where
  /-- A plain step came to an array, which stands in. -/
  | arrayWithoutFilter
  /-- No record could be picked from an array, which stands in. -/
  | noMatch
  /-- A record was to be picked from something else than an array, which stands in. -/
  | notAnArray
  /-- A step was to be read from null; the root stands in. -/
  | readThroughNull
  /-- A definition holds no placeholder; the root stands in. -/
  | noAccessor
  deriving DecidableEq

inductive Outcome where
  | found (value : Value)
  | absent
  | standIn (value : Value) (reason : StandInReason)

namespace Outcome

def value? : Outcome → Option Value
  | .found value => some value
  | .absent => none
  | .standIn value _ => some value

def value (outcome : Outcome) : Value := outcome.value?.getD .null

def isFound : Outcome → Bool
  | .found _ => true
  | _ => false

end Outcome

namespace Walk

/-- Where a step leads: to another value, or to the end of the walk. -/
inductive Progress where
  | reached (value : Value)
  | ended (outcome : Outcome)

def endAtArray (array : Value) (accessor : Text) (access : Access) : Reported Progress :=
  .noted (.ended (.standIn array .arrayWithoutFilter))
    (.of .arrayWithoutFilter accessor (Text.ticked access.text ++
      " addresses an array; a conditional filter like ".toList ++
      Text.ticked (access.text ++ ":field[key=value]".toList) ++ " is required".toList))

def endAtNull (root : Value) (accessor : Text) (access : Access) : Reported Progress :=
  .noted (.ended (.standIn root .readThroughNull))
    (.of .readThroughNull accessor ("cannot read ".toList ++ Text.ticked access.text ++
      " of null, returning the root".toList))

def afterChoice : Choice → Progress
  | .picked (some value) => .reached value
  | .picked none => .ended .absent
  | .kept searched =>
      .ended (.standIn searched (if searched.isArray then .noMatch else .notAnArray))

def read (accessor : Text) (value : Value) (access : Access) : Reported Progress :=
  match access with
  | .member name =>
      if value.isArray then endAtArray value accessor access
      else
        match value.member? name with
        | none => .silent (.ended .absent)
        | some next =>
            if next.isArray then endAtArray next accessor access else .silent (.reached next)
  | .record name extract conditions =>
      match value.member? name with
      | none => .silent (.ended .absent)
      | some searched =>
          (Records.choose searched extract conditions
            (accessor ++ " (".toList ++ access.text ++ [')'])).map afterChoice

def stepFrom (root : Value) (accessor : Text) (value : Value) (access : Access) :
    Reported Progress :=
  if value.isNull then endAtNull root accessor access else read accessor value access

def along (root : Value) (accessor : Text) : Value → List Access → Reported Outcome
  | value, [] => .silent (.found value)
  | value, access :: rest =>
      (stepFrom root accessor value access).andThen (fun progress =>
        match progress with
        | .reached next => along root accessor next rest
        | .ended outcome => .silent outcome)

end Walk

def Path.resolve (path : Path) (root : Value) (accessor : Text) (registry : Registry) :
    Attempt Outcome :=
  match path.firstCall? with
  | some (name, params) => .silent ((registry.call name root params).map Outcome.found)
  | none => (Walk.along root accessor root path.accesses).map Except.ok

end JsonTemplate
