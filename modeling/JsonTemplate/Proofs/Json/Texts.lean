import JsonTemplate.Json.Printer
import Mathlib.Data.List.Infix
import Mathlib.Tactic.SplitIfs

set_option autoImplicit false

/-! What a compact document is made of: the strings of its keys and of its string values,
and between them nothing but marks, which are digits, the letters of the literals and the
characters of the syntax. -/

namespace JsonTemplate.Json

def isMark (char : Char) : Bool :=
  char.isAlphanum || ['[', ']', '\x7b', '\x7d', ',', ':', '-', '+', '.'].contains char

def AllMarks (text : Text) : Prop := ∀ char ∈ text, isMark char = true

instance (text : Text) : Decidable (AllMarks text) :=
  List.decidableBAll (fun char => isMark char = true) text

theorem AllMarks.append {left right : Text} (leftMarks : AllMarks left)
    (rightMarks : AllMarks right) : AllMarks (left ++ right) :=
  List.forall_mem_append.mpr ⟨leftMarks, rightMarks⟩

theorem AllMarks.not_mem {text : Text} (marks : AllMarks text) {char : Char}
    (noMark : isMark char = false) : char ∉ text := by
  intro member
  rw [marks char member] at noMark
  cases noMark

private theorem AllMarks.of_subset {text other : Text} (marks : AllMarks text)
    (subset : other ⊆ text) :
    AllMarks other := fun char member => marks char (subset member)

private theorem allMarks_replicate (count : Nat) {char : Char} (mark : isMark char = true) :
    AllMarks (List.replicate count char) := by
  intro other member
  rw [List.eq_of_mem_replicate member]
  exact mark

private theorem allMarks_ofNat (number : Nat) : AllMarks (Text.ofNat number) := by
  intro char member
  have digit : char.isDigit = true :=
    Nat.isDigit_of_mem_toDigits (by decide) (Nat.le_refl 10) member
  simp [isMark, Char.isAlphanum, digit]

private theorem allMarks_ofInt (number : Int) : AllMarks (Text.ofInt number) := by
  cases number with
  | ofNat number => exact allMarks_ofNat number
  | negSucc number => exact List.forall_mem_cons.mpr ⟨by decide, allMarks_ofNat _⟩

private theorem allMarks_arrange {digits : Text} (marks : AllMarks digits) (exponent : Int) :
    AllMarks (floatLayout.arrange digits exponent) := by
  have zeros : ∀ count, AllMarks (List.replicate count '0') :=
    fun count => allMarks_replicate count (by decide)
  have taken : ∀ count, AllMarks (digits.take count) :=
    fun count => marks.of_subset (List.take_subset _ _)
  have dropped : ∀ count, AllMarks (digits.drop count) :=
    fun count => marks.of_subset (List.drop_subset _ _)
  have wholeEnd : AllMarks floatLayout.wholeEnd := by decide
  have exponentMark : AllMarks floatLayout.exponentMark := by decide
  have plusMark : AllMarks floatLayout.plusMark := by decide
  have point : AllMarks ['.'] := by decide
  have zeroPoint : AllMarks ['0', '.'] := by decide
  unfold FloatLayout.arrange
  split
  · split
    · exact (zeroPoint.append (zeros _)).append marks
    · dsimp only
      split
      · exact (marks.append (zeros _)).append wholeEnd
      · exact ((taken _).append point).append (dropped _)
  · dsimp only
    refine ((((taken _).append ?_).append exponentMark).append ?_).append (allMarks_ofInt _)
    · split
      · exact nofun
      · exact List.forall_mem_cons.mpr ⟨by decide, dropped _⟩
    · split
      · exact nofun
      · exact plusMark

private theorem allMarks_number (number : Number) : AllMarks number.text := by
  cases number with
  | integer value inRange => exact allMarks_ofInt value
  | float value =>
      refine AllMarks.append ?_ ?_
      · split
        · decide
        · exact nofun
      · split
        · decide
        · exact allMarks_arrange (allMarks_ofNat _) _

/-- A character is escaped by a backslash and one character, by its code, or not at all. -/
theorem escapedChar_cases (char : Char) :
    (∃ second, escapedChar char = ['\\', second] ∧ (second = char ∨ isMark second = true)) ∨
      (∃ high low, escapedChar char = ['\\', 'u', '0', '0', hexDigit high, hexDigit low] ∧
        high < 16 ∧ low < 16) ∨
      escapedChar char = [char] := by
  unfold escapedChar
  split_ifs with quote backslash backspace feed line back tab control
  · exact Or.inl ⟨_, rfl, Or.inl quote.symm⟩
  · exact Or.inl ⟨_, rfl, Or.inl backslash.symm⟩
  · exact Or.inl ⟨_, rfl, Or.inr (by decide)⟩
  · exact Or.inl ⟨_, rfl, Or.inr (by decide)⟩
  · exact Or.inl ⟨_, rfl, Or.inr (by decide)⟩
  · exact Or.inl ⟨_, rfl, Or.inr (by decide)⟩
  · exact Or.inl ⟨_, rfl, Or.inr (by decide)⟩
  · exact Or.inr (Or.inl ⟨_, _, rfl, by omega, by omega⟩)
  · exact Or.inr (Or.inr rfl)

private theorem mem_escapedChar {char escaped : Char} (member : escaped ∈ escapedChar char) :
    escaped = char ∨ escaped = '\\' ∨ isMark escaped = true := by
  have hexDigits : ∀ digit < 16, isMark (hexDigit digit) = true := by decide
  rcases escapedChar_cases char with ⟨second, same, kind⟩ | ⟨high, low, same, highBound, lowBound⟩ |
    same
  · rw [same, List.mem_cons, List.mem_singleton] at member
    rcases member with rfl | rfl
    · exact Or.inr (Or.inl rfl)
    · exact kind.imp_right Or.inr
  · rw [same] at member
    simp only [List.mem_cons, List.not_mem_nil, or_false] at member
    refine Or.inr ?_
    rcases member with rfl | rfl | rfl | rfl | rfl | rfl
    · exact Or.inl rfl
    · exact Or.inr (by decide)
    · exact Or.inr (by decide)
    · exact Or.inr (by decide)
    · exact Or.inr (hexDigits high highBound)
    · exact Or.inr (hexDigits low lowBound)
  · rw [same, List.mem_singleton] at member
    exact Or.inl member

private theorem mem_stringText {char : Char} {text : Text} (member : char ∈ stringText text) :
    char = '"' ∨ char = '\\' ∨ isMark char = true ∨ char ∈ text := by
  simp only [stringText, List.cons_append, List.mem_cons, List.mem_append, List.mem_flatMap,
    List.not_mem_nil, or_false] at member
  rcases member with quote | ⟨source, inside, escaped⟩ | quote
  · exact Or.inl quote
  · rcases mem_escapedChar escaped with rfl | backslash | mark
    · exact Or.inr (Or.inr (Or.inr inside))
    · exact Or.inr (Or.inl backslash)
    · exact Or.inr (Or.inr (Or.inl mark))
  · exact Or.inl quote

private theorem quote_mem_stringText (text : Text) : '"' ∈ stringText text := List.mem_cons_self

private theorem mem_stringText_of_mem {char : Char} (plain : escapedChar char = [char])
    {text : Text} (member : char ∈ text) : char ∈ stringText text := by
  have written : char ∈ text.flatMap escapedChar :=
    List.mem_flatMap.mpr ⟨char, member, by rw [plain]; exact List.mem_singleton_self char⟩
  exact List.mem_cons_of_mem _ (List.mem_append_left _ written)

namespace Value

mutual

def texts : Value → List Text
  | .null => []
  | .bool _ => []
  | .number _ => []
  | .string text => [text]
  | .array items => itemTexts items
  | .object members => memberTexts members

def itemTexts : List Value → List Text
  | [] => []
  | item :: rest => texts item ++ itemTexts rest

def memberTexts : List (Text × Value) → List Text
  | [] => []
  | (key, value) :: rest => key :: (texts value ++ memberTexts rest)

end

/-- A text in which some strings are written, with nothing but marks outside of them. -/
structure Spells (written : Text) (texts : List Text) : Prop where
  quoted : ∀ text ∈ texts, stringText text <:+: written
  rest : ∀ char ∈ written, isMark char = true ∨ ∃ text ∈ texts, char ∈ stringText text

namespace Spells

private theorem of_marks {written : Text} (marks : AllMarks written) : Spells written [] where
  quoted := nofun
  rest := fun char member => Or.inl (marks char member)

theorem string (text : Text) : Spells (stringText text) [text] where
  quoted := by
    intro other member
    rw [List.mem_singleton.mp member]
  rest := fun char member => Or.inr ⟨text, List.mem_singleton_self _, member⟩

theorem append {left right : Text} {leftTexts rightTexts : List Text}
    (leftSpells : Spells left leftTexts) (rightSpells : Spells right rightTexts) :
    Spells (left ++ right) (leftTexts ++ rightTexts) where
  quoted := by
    intro text member
    rcases List.mem_append.mp member with before | after
    · exact (leftSpells.quoted text before).trans (List.prefix_append _ _).isInfix
    · exact (rightSpells.quoted text after).trans (List.suffix_append _ _).isInfix
  rest := by
    intro char member
    rcases List.mem_append.mp member with before | after
    · refine (leftSpells.rest char before).imp_right ?_
      rintro ⟨text, listed, inside⟩
      exact ⟨text, List.mem_append_left _ listed, inside⟩
    · refine (rightSpells.rest char after).imp_right ?_
      rintro ⟨text, listed, inside⟩
      exact ⟨text, List.mem_append_right _ listed, inside⟩

theorem cons {char : Char} {written : Text} {texts : List Text} (mark : isMark char = true)
    (spells : Spells written texts) : Spells (char :: written) texts :=
  append (of_marks (List.forall_mem_singleton.mpr mark)) spells

end Spells

mutual

theorem spells_compact : ∀ value : Value, Spells value.compact value.texts
  | .null => .of_marks (by decide)
  | .bool true => .of_marks (by decide)
  | .bool false => .of_marks (by decide)
  | .number value => .of_marks (allMarks_number value)
  | .string text => .string text
  | .array [] => .of_marks (by decide)
  | .array (first :: rest) =>
      .cons (by decide) ((spells_compact first).append (spells_compactItems rest))
  | .object [] => .of_marks (by decide)
  | .object ((key, first) :: rest) =>
      .cons (by decide) ((Spells.string key).append
        (.cons (by decide) ((spells_compact first).append (spells_compactMembers rest))))

theorem spells_compactItems : ∀ items : List Value, Spells (compactItems items) (itemTexts items)
  | [] => .of_marks (by decide)
  | item :: rest => .cons (by decide) ((spells_compact item).append (spells_compactItems rest))

theorem spells_compactMembers : ∀ members : List (Text × Value),
    Spells (compactMembers members) (memberTexts members)
  | [] => .of_marks (by decide)
  | (key, value) :: rest =>
      .cons (by decide) ((Spells.string key).append
        (.cons (by decide) ((spells_compact value).append (spells_compactMembers rest))))

end

theorem quote_mem_compact_iff (value : Value) : '"' ∈ value.compact ↔ value.texts ≠ [] := by
  constructor
  · intro member empty
    rcases (spells_compact value).rest _ member with mark | ⟨text, listed, -⟩
    · exact absurd mark (by decide)
    · rw [empty] at listed
      cases listed
  · intro nonempty
    obtain ⟨text, rest, listed⟩ := List.exists_cons_of_ne_nil nonempty
    have member : text ∈ value.texts := by
      rw [listed]
      exact List.mem_cons_self
    exact ((spells_compact value).quoted text member).subset (quote_mem_stringText text)

/-- A character that is no mark and needs no escape stands in a compact document exactly if
it stands in one of its strings or keys. -/
theorem mem_compact_iff {char : Char} (plain : escapedChar char = [char])
    (noMark : isMark char = false) (value : Value) :
    char ∈ value.compact ↔ ∃ text ∈ value.texts, char ∈ text := by
  have noQuote : char ≠ '"' := by
    rintro rfl
    cases plain
  have noBackslash : char ≠ '\\' := by
    rintro rfl
    cases plain
  constructor
  · intro member
    rcases (spells_compact value).rest _ member with mark | ⟨text, listed, inside⟩
    · rw [noMark] at mark
      cases mark
    · rcases mem_stringText inside with quote | backslash | mark | found
      · exact absurd quote noQuote
      · exact absurd backslash noBackslash
      · rw [noMark] at mark
        cases mark
      · exact ⟨text, listed, found⟩
  · rintro ⟨text, listed, inside⟩
    exact ((spells_compact value).quoted text listed).subset (mem_stringText_of_mem plain inside)

theorem allMarks_compact {value : Value} (none : value.texts = []) : AllMarks value.compact := by
  intro char member
  rcases (spells_compact value).rest char member with mark | ⟨text, listed, -⟩
  · exact mark
  · rw [none] at listed
    cases listed

end Value
end JsonTemplate.Json
