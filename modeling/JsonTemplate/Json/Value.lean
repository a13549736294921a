import JsonTemplate.Binary64
import JsonTemplate.Text.Basic

set_option autoImplicit false

/-! JSON documents. The members of an object keep the order in which their keys were
first written, and an integer stays an integer as long as 64 bits hold it, with a sign
or without; every other number is a floating-point number. -/

namespace JsonTemplate.Json

def leastInteger : Int := -9223372036854775808

def greatestInteger : Int := 18446744073709551615

/-- A number is an integer in the range of 64 bits or a floating-point number. -/
inductive Number where
  | integer (value : Int) (inRange : leastInteger ≤ value ∧ value ≤ greatestInteger)
  | float (value : Binary64)
  deriving DecidableEq

def Number.isZero : Number → Bool
  | .integer value _ => value == 0
  | .float value => value.isZero

inductive Value where
  | null
  | bool (value : Bool)
  | number (value : Number)
  | string (value : Text)
  | array (items : List Value)
  | object (members : List (Text × Value))

namespace Value

instance : Inhabited Value := ⟨.null⟩

def isNull : Value → Bool
  | .null => true
  | _ => false

def isArray : Value → Bool
  | .array _ => true
  | _ => false

def lookup (key : Text) : List (Text × Value) → Option Value
  | [] => none
  | (name, value) :: rest => if name = key then some value else lookup key rest

/-- The member of an object under a key. Nothing but an object has members. -/
def member? (key : Text) : Value → Option Value
  | .object members => lookup key members
  | _ => none

/-- Set a key: a key that is there already keeps its place and changes its value, a new
one comes last. -/
def put (key : Text) (value : Value) : List (Text × Value) → List (Text × Value)
  | [] => [(key, value)]
  | (name, old) :: rest =>
      if name = key then (name, value) :: rest else (name, old) :: put key value rest

/-- The members of an object in which these were written one after the other. -/
def collect (written : List (Text × Value)) : List (Text × Value) :=
  written.foldl (fun members entry => put entry.1 entry.2 members) []

/-- Whether a value says something: null, false, zero and whatever is empty do not. -/
def isTruthy : Value → Bool
  | .null => false
  | .bool value => value
  | .number value => !value.isZero
  | .string value => !value.isEmpty
  | .array items => !items.isEmpty
  | .object members => !members.isEmpty

@[simp] theorem member?_object (key : Text) (members : List (Text × Value)) :
    member? key (.object members) = lookup key members := rfl

end Value
end JsonTemplate.Json
