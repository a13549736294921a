set_option autoImplicit false

/-! Text as a list of Unicode characters. Besides the list operations this module
has the units that other parts of the library count in: the UTF-8 bytes of a text,
cuts at byte offsets, and the decimal form of a natural number. A cut never splits
a character: a character belongs to the part in which all of its bytes lie. -/

namespace JsonTemplate

abbrev Text := List Char

namespace Text

def utf8 (text : Text) : List UInt8 := text.flatMap String.utf8EncodeChar

def utf8Length : Text → Nat
  | [] => 0
  | char :: rest => char.utf8Size + utf8Length rest

@[simp] theorem utf8Length_nil : utf8Length [] = 0 := rfl

@[simp] theorem utf8Length_cons (char : Char) (rest : Text) :
    utf8Length (char :: rest) = char.utf8Size + utf8Length rest := rfl

@[simp] theorem utf8Length_append (left right : Text) :
    utf8Length (left ++ right) = utf8Length left + utf8Length right := by
  induction left with
  | nil => exact (Nat.zero_add _).symm
  | cons char rest ih =>
      rw [List.cons_append, utf8Length_cons, utf8Length_cons, ih, Nat.add_assoc]

theorem length_utf8 (text : Text) : text.utf8.length = text.utf8Length := by
  induction text with
  | nil => rfl
  | cons char rest ih =>
      simp only [utf8, List.flatMap_cons, List.length_append, String.length_utf8EncodeChar] at ih ⊢
      rw [ih, utf8Length_cons]

/-- What follows the first `count` bytes. -/
def dropBytes : Nat → Text → Text
  | 0, text => text
  | _ + 1, [] => []
  | count + 1, char :: rest => dropBytes (count + 1 - char.utf8Size) rest

/-- The characters that lie within the first `count` bytes. -/
def takeBytes : Nat → Text → Text
  | _, [] => []
  | count, char :: rest =>
      if char.utf8Size ≤ count then char :: takeBytes (count - char.utf8Size) rest else []

def sliceBytes (start stop : Nat) (text : Text) : Text :=
  takeBytes (stop - start) (dropBytes start text)

theorem dropBytes_utf8Length_append (before after : Text) :
    dropBytes (utf8Length before) (before ++ after) = after := by
  induction before with
  | nil => simp [dropBytes]
  | cons char rest ih =>
      have positive := char.utf8Size_pos
      rw [utf8Length_cons, List.cons_append]
      obtain ⟨count, same⟩ : ∃ count, char.utf8Size + utf8Length rest = count + 1 :=
        ⟨char.utf8Size + utf8Length rest - 1, by omega⟩
      rw [same, dropBytes, ← same, Nat.add_sub_cancel_left]
      exact ih

theorem takeBytes_utf8Length_append (before after : Text) :
    takeBytes (utf8Length before) (before ++ after) = before := by
  induction before with
  | nil =>
      cases after with
      | nil => rfl
      | cons char rest =>
          have positive := char.utf8Size_pos
          simp only [utf8Length_nil, List.nil_append, takeBytes]
          exact if_neg (by omega)
  | cons char rest ih =>
      rw [utf8Length_cons, List.cons_append, takeBytes, if_pos (Nat.le_add_right _ _),
        Nat.add_sub_cancel_left, ih]

/-- The order of byte strings: the first difference decides, and a text comes
before all texts that continue it. -/
def bytesNotAfter : List UInt8 → List UInt8 → Bool
  | [], _ => true
  | _ :: _, [] => false
  | left :: lefts, right :: rights =>
      if left = right then bytesNotAfter lefts rights else left.toNat < right.toNat

def joined (separator : Text) : List Text → Text
  | [] => []
  | [only] => only
  | first :: second :: rest => first ++ separator ++ joined separator (second :: rest)

def ticked (text : Text) : Text := "`".toList ++ text ++ "`".toList

def ofNat (number : Nat) : Text := Nat.toDigits 10 number

def ofInt : Int → Text
  | .ofNat number => ofNat number
  | .negSucc number => '-' :: ofNat (number + 1)

def ofUtf8? (bytes : List UInt8) : Option Text :=
  (String.fromUTF8? ⟨bytes.toArray⟩).map String.toList

/-- What stands before the last occurrence of a character, if there is one. -/
def beforeLast? (char : Char) : Text → Option Text
  | [] => none
  | head :: rest =>
      match beforeLast? char rest with
      | some before => some (head :: before)
      | none => if head = char then some [] else none

def firstAppearances {α : Type} [DecidableEq α] : List α → List α
  | [] => []
  | item :: rest => item :: (firstAppearances rest).filter (fun other => decide (other ≠ item))

end Text
end JsonTemplate
