import JsonTemplate.Text.Basic

set_option autoImplicit false

/-! The paths that a placeholder names: what to read from a document, step by step, or which
function to call instead. Steps are separated by points that stand outside square brackets,
conditions by ampersands. Every text is the text of some path: what has no meaning is taken as
part of a name, and a closing bracket that closes nothing is a character like any other. -/

namespace JsonTemplate

inductive Condition where
  /-- Its member under the key is this string. -/
  | equals (key value : Text)
  /-- It has no member under the key. -/
  | lacks (key : Text)
  deriving DecidableEq

inductive Access where
  | member (name : Text)
  /-- The member `extract` of one record of the array under a name. -/
  | record (name extract : Text) (conditions : List Condition)
  deriving DecidableEq

inductive Step where
  | access (access : Access)
  /-- A call of the function with a name; the parameters are passed on as they stand. -/
  | call (name : Text) (params : Option Text)
  deriving DecidableEq

structure Path where
  steps : List Step
  deriving DecidableEq

namespace Path

def firstCall? (path : Path) : Option (Text × Option Text) :=
  path.steps.findSome? (fun step =>
    match step with
    | .call name params => some (name, params)
    | .access _ => none)

def accesses (path : Path) : List Access :=
  path.steps.filterMap (fun step =>
    match step with
    | .access access => some access
    | .call _ _ => none)

end Path

def callMark : Text := "__function:".toList

def Condition.text : Condition → Text
  | .equals key value => key ++ '=' :: value
  | .lacks key => key

def Condition.group : List Condition → Text
  | [] => []
  | conditions => '[' :: Text.joined ['&'] (conditions.map Condition.text) ++ [']']

def Access.text : Access → Text
  | .member name => name
  | .record name extract conditions => name ++ ':' :: extract ++ Condition.group conditions

def Step.text : Step → Text
  | .access reading => reading.text
  | .call name none => callMark ++ name
  | .call name (some params) => callMark ++ name ++ '[' :: params ++ [']']

def Path.text (path : Path) : Text := Text.joined ['.'] (path.steps.map Step.text)

namespace Brackets

def isBracket (char : Char) : Bool := char == '[' || char == ']'

def depthAfter (depth : Nat) (char : Char) : Nat :=
  if char = '[' then depth + 1 else if char = ']' then depth - 1 else depth

def depthOf (depth : Nat) (text : Text) : Nat := text.foldl depthAfter depth

def isCut (separator : Char) (depth : Nat) (char : Char) : Bool :=
  char == separator && depth == 0 && !isBracket char

/-- The first piece and the others of a text that begins at a depth. -/
def pieces (separator : Char) : Nat → Text → Text × List Text
  | _, [] => ([], [])
  | depth, char :: rest =>
      let later := pieces separator (depthAfter depth char) rest
      if isCut separator depth char then ([], later.1 :: later.2)
      else (char :: later.1, later.2)

def split (separator : Char) (text : Text) : List Text :=
  (pieces separator 0 text).1 :: (pieces separator 0 text).2

theorem depthAfter_of_isCut {separator : Char} {depth : Nat} {char : Char}
    (cut : isCut separator depth char = true) : depthAfter depth char = 0 := by
  simp only [isCut, isBracket, Bool.and_eq_true, beq_iff_eq, Bool.not_eq_true',
    Bool.or_eq_false_iff, beq_eq_false_iff_ne] at cut
  simp [depthAfter, cut.1.2, cut.2.1, cut.2.2]

/-- The text inside a bracket that the text begins with: up to its last closing bracket, or
all of it if there is none. -/
def content? : Text → Option Text
  | '[' :: rest => some ((Text.beforeLast? ']' rest).getD rest)
  | _ => none

end Brackets

def Condition.ofText (piece : Text) : Condition :=
  match piece.dropWhile (· != '=') with
  | [] => .lacks piece
  | _ :: value => .equals (piece.takeWhile (· != '=')) value

/-- The conditions between two brackets. Empty pieces state nothing. -/
def Condition.listOfText (text : Text) : List Condition :=
  ((text.splitOn '&').filter (fun piece => !piece.isEmpty)).map Condition.ofText

def Condition.listOfGroup (text : Text) : List Condition :=
  match Brackets.content? text with
  | some content => Condition.listOfText content
  | none => []

def Step.ofText (text : Text) : Step :=
  match callMark.isPrefixOf? text with
  | some rest =>
      .call (rest.takeWhile (· != '[')) (Brackets.content? (rest.dropWhile (· != '[')))
  | none =>
      match text.dropWhile (· != ':') with
      | [] => .access (.member text)
      | _ :: rest =>
          .access (.record (text.takeWhile (· != ':')) (rest.takeWhile (· != '['))
            (Condition.listOfGroup (rest.dropWhile (· != '['))))

def Path.ofText (text : Text) : Path := ⟨(Brackets.split '.' text).map Step.ofText⟩

theorem Path.steps_ofText_ne_nil (text : Text) : (Path.ofText text).steps ≠ [] := by
  simp [Path.ofText, Brackets.split]

end JsonTemplate
