import JsonTemplate.Proofs.Json.Readable
import JsonTemplate.Proofs.Json.Scalars
import Mathlib.Data.List.DropRight

set_option autoImplicit false

/-! Reading what was printed. However the blanks stand between the parts of a document that
could be read, and whose numbers are integers, it is read back from its text: each part is read
from its own text, and the reading goes on with the text behind it. Without blanks this is the
compact text, and with line breaks the indented one. -/

namespace JsonTemplate.Json

def Number.IsInteger : Number → Prop
  | .integer _ _ => True
  | .float _ => False

instance : (number : Number) → Decidable number.IsInteger
  | .integer _ _ => .isTrue trivial
  | .float _ => .isFalse id

namespace Value

mutual

def numbers : Value → List Number
  | .null => []
  | .bool _ => []
  | .number figure => [figure]
  | .string _ => []
  | .array items => itemNumbers items
  | .object members => memberNumbers members

def itemNumbers : List Value → List Number
  | [] => []
  | item :: rest => numbers item ++ itemNumbers rest

def memberNumbers : List (Text × Value) → List Number
  | [] => []
  | (_, value) :: rest => numbers value ++ memberNumbers rest

end

def Integral (value : Value) : Prop := ∀ number ∈ value.numbers, number.IsInteger

private theorem itemNumbers_eq (items : List Value) :
    itemNumbers items = items.flatMap numbers := by
  induction items with
  | nil => rfl
  | cons item rest ih => rw [itemNumbers, ih, List.flatMap_cons]

private theorem memberNumbers_eq (members : List (Text × Value)) :
    memberNumbers members = members.flatMap (fun entry => entry.2.numbers) := by
  induction members with
  | nil => rfl
  | cons entry rest ih => rw [memberNumbers, ih, List.flatMap_cons]

theorem integral_array_iff {parts : List Value} :
    Integral (.array parts) ↔ ∀ item ∈ parts, Integral item := by
  rw [Integral, numbers, itemNumbers_eq]
  constructor
  · intro integral item listed number inside
    exact integral number (List.mem_flatMap.mpr ⟨item, listed, inside⟩)
  · intro each number inside
    obtain ⟨item, listed, inside⟩ := List.mem_flatMap.mp inside
    exact each item listed number inside

theorem integral_object_iff {parts : List (Text × Value)} :
    Integral (.object parts) ↔ ∀ entry ∈ parts, Integral entry.2 := by
  rw [Integral, numbers, memberNumbers_eq]
  constructor
  · intro integral entry listed number inside
    exact integral number (List.mem_flatMap.mpr ⟨entry, listed, inside⟩)
  · intro each number inside
    obtain ⟨entry, listed, inside⟩ := List.mem_flatMap.mp inside
    exact each entry listed number inside

theorem Integral.child {key : Key} {value child : Value} (integral : Integral value)
    (below : value.child? key = some child) : Integral child := by
  rcases child?_cases below with ⟨parts, rfl, inside⟩ | ⟨parts, name, rfl, inside⟩
  · exact integral_array_iff.mp integral child inside
  · exact integral_object_iff.mp integral (name, child) inside

theorem Integral.at {address : Address} {value found : Value} (integral : Integral value)
    (there : value.at? address = some found) : Integral found := by
  induction address generalizing value with
  | nil =>
      cases there
      exact integral
  | cons key rest ih =>
      obtain ⟨child, below, further⟩ := Option.bind_eq_some_iff.mp there
      exact ih (integral.child below) further

end Value

/-- Blanks, which may stand between the parts of a document. -/
def Spaces (text : Text) : Prop := ∀ char ∈ text, isSpace char = true

mutual

/-- How a document is written, with blanks between its parts or without them. -/
inductive Written : Value → Text → Prop where
  | null : Written .null ['n', 'u', 'l', 'l']
  | true : Written (.bool true) ['t', 'r', 'u', 'e']
  | false : Written (.bool false) ['f', 'a', 'l', 's', 'e']
  | number (figure : Number) : Written (.number figure) figure.text
  | string (text : Text) : Written (.string text) (stringText text)
  | emptyArray {blanks : Text} (spaces : Spaces blanks) :
      Written (.array []) ('[' :: (blanks ++ [']']))
  | array {item : Value} {others : List Value} {blanks text more : Text} (spaces : Spaces blanks)
      (first : Written item text) (later : WrittenItems others more) :
      Written (.array (item :: others)) ('[' :: (blanks ++ (text ++ more)))
  | emptyObject {blanks : Text} (spaces : Spaces blanks) :
      Written (.object []) ('\x7b' :: (blanks ++ ['\x7d']))
  | object {key : Text} {item : Value} {others : List (Text × Value)}
      {blanks before after text more : Text} (spaces : Spaces blanks) (gap : Spaces before)
      (space : Spaces after) (first : Written item text) (later : WrittenMembers others more) :
      Written (.object ((key, item) :: others)) ('\x7b' :: (blanks ++
        (stringText key ++ (before ++ ':' :: (after ++ (text ++ more))))))

/-- The items of an array after the first, with the bracket that closes it. -/
inductive WrittenItems : List Value → Text → Prop where
  | closed {blanks : Text} (spaces : Spaces blanks) : WrittenItems [] (blanks ++ [']'])
  | next {item : Value} {others : List Value} {front blanks text more : Text}
      (leading : Spaces front) (spaces : Spaces blanks) (first : Written item text)
      (later : WrittenItems others more) :
      WrittenItems (item :: others) (front ++ ',' :: (blanks ++ (text ++ more)))

/-- The members of an object after the first, with the brace that closes it. -/
inductive WrittenMembers : List (Text × Value) → Text → Prop where
  | closed {blanks : Text} (spaces : Spaces blanks) : WrittenMembers [] (blanks ++ ['\x7d'])
  | next {key : Text} {item : Value} {others : List (Text × Value)}
      {front blanks before after text more : Text} (leading : Spaces front)
      (spaces : Spaces blanks) (gap : Spaces before) (space : Spaces after)
      (first : Written item text) (later : WrittenMembers others more) :
      WrittenMembers ((key, item) :: others) (front ++ ',' :: (blanks ++
        (stringText key ++ (before ++ ':' :: (after ++ (text ++ more))))))

end

theorem spaces_nil : Spaces [] := List.forall_mem_nil _

theorem spaces_lineBreak (level : Nat) : Spaces (Value.lineBreak level) := by
  rw [Spaces, Value.lineBreak, List.forall_mem_cons]
  refine ⟨rfl, ?_⟩
  intro char indentation
  rw [List.eq_of_mem_replicate indentation]
  rfl

namespace Value

mutual

theorem written_compact : ∀ document : Value, Written document document.compact
  | .null => .null
  | .bool true => .true
  | .bool false => .false
  | .number figure => .number figure
  | .string text => .string text
  | .array [] => .emptyArray spaces_nil
  | .array (item :: others) =>
      .array spaces_nil (written_compact item) (written_compactItems others)
  | .object [] => .emptyObject spaces_nil
  | .object ((_, item) :: others) =>
      .object spaces_nil spaces_nil spaces_nil (written_compact item)
        (written_compactMembers others)

theorem written_compactItems : ∀ items : List Value, WrittenItems items (compactItems items)
  | [] => .closed spaces_nil
  | item :: others =>
      .next spaces_nil spaces_nil (written_compact item) (written_compactItems others)

theorem written_compactMembers : ∀ members : List (Text × Value),
    WrittenMembers members (compactMembers members)
  | [] => .closed spaces_nil
  | (_, item) :: others =>
      .next spaces_nil spaces_nil spaces_nil spaces_nil (written_compact item)
        (written_compactMembers others)

end

mutual

theorem written_indentedAt (level : Nat) : ∀ document : Value,
    Written document (document.indentedAt level)
  | .null => .null
  | .bool true => .true
  | .bool false => .false
  | .number figure => .number figure
  | .string text => .string text
  | .array [] => .emptyArray spaces_nil
  | .array (item :: others) =>
      .array (spaces_lineBreak _) (written_indentedAt (level + 1) item)
        (written_indentedItems level others)
  | .object [] => .emptyObject spaces_nil
  | .object ((_, item) :: others) =>
      .object (spaces_lineBreak _) spaces_nil (List.forall_mem_singleton.mpr rfl)
        (written_indentedAt (level + 1) item) (written_indentedMembers level others)

theorem written_indentedItems (level : Nat) : ∀ items : List Value,
    WrittenItems items (indentedItems level items)
  | [] => .closed (spaces_lineBreak _)
  | item :: others =>
      .next spaces_nil (spaces_lineBreak _) (written_indentedAt (level + 1) item)
        (written_indentedItems level others)

theorem written_indentedMembers (level : Nat) : ∀ members : List (Text × Value),
    WrittenMembers members (indentedMembers level members)
  | [] => .closed (spaces_lineBreak _)
  | (_, item) :: others =>
      .next spaces_nil (spaces_lineBreak _) spaces_nil (List.forall_mem_singleton.mpr rfl)
        (written_indentedAt (level + 1) item) (written_indentedMembers level others)

end

end Value

section Steps

variable {calls depth : Nat} {first : Bool} {unread start after rest : Text}

private theorem skipSpace_cons {char : Char} (dark : isSpace char = false) (rest : Text) :
    skipSpace (char :: rest) = char :: rest := by
  rw [skipSpace, List.dropWhile_cons, dark]
  rfl

private theorem skipSpace_append {blanks : Text} (spaces : Spaces blanks) (rest : Text) :
    skipSpace (blanks ++ rest) = skipSpace rest :=
  List.dropWhile_append_of_pos spaces

private theorem value_append {blanks : Text} (spaces : Spaces blanks) {result : Value × Text}
    (read : value calls depth unread = .ok result) :
    value calls depth (blanks ++ unread) = .ok result := by
  cases calls with
  | zero => cases read
  | succ calls =>
      rw [value, skipSpace_append spaces]
      rw [value] at read
      exact read

private theorem nextItem_append {blanks : Text} (spaces : Spaces blanks) :
    nextItem first (blanks ++ unread) = nextItem first unread := by
  rw [nextItem, nextItem, skipSpace_append spaces]

private theorem nextKey_append {blanks : Text} (spaces : Spaces blanks) :
    nextKey first (blanks ++ unread) = nextKey first unread := by
  rw [nextKey, nextKey, skipSpace_append spaces]

private theorem value_array {parts : List Value}
    (inside : items calls depth true unread = .ok (parts, rest)) :
    value (calls + 1) (depth + 1) ('[' :: unread) = .ok (.array parts, rest) := by
  rw [value, skipSpace_cons (by decide)]
  simp [inside, bind, Except.bind, pure, Except.pure]

private theorem value_object {parts : List (Text × Value)}
    (inside : members calls depth true unread = .ok (parts, rest)) :
    value (calls + 1) (depth + 1) ('\x7b' :: unread) =
      .ok (.object (Value.collect parts), rest) := by
  rw [value, skipSpace_cons (by decide)]
  simp [inside, bind, Except.bind, pure, Except.pure]

private theorem value_string {text : Text} (inside : stringFrom 0 unread = .ok (text, rest)) :
    value (calls + 1) depth ('"' :: unread) = .ok (.string text, rest) := by
  rw [value, skipSpace_cons (by decide)]
  simp [inside, bind, Except.bind, pure, Except.pure]

private theorem value_minus {figure : Number} (inside : number true unread = .ok (figure, rest)) :
    value (calls + 1) depth ('-' :: unread) = .ok (.number figure, rest) := by
  rw [value, skipSpace_cons (by decide)]
  simp [inside, bind, Except.bind, pure, Except.pure]

private theorem value_digit {char : Char} {figure : Number} (digit : char.isDigit = true)
    (inside : number false (char :: unread) = .ok (figure, rest)) :
    value (calls + 1) depth (char :: unread) = .ok (.number figure, rest) := by
  have other : ∀ mark : Char, mark.isDigit = false → char ≠ mark := by
    rintro mark noDigit rfl
    rw [digit] at noDigit
    cases noDigit
  have dark : isSpace char = false := by
    simp [isSpace, other ' ' rfl, other '\n' rfl, other '\t' rfl, other '\r' rfl]
  rw [value, skipSpace_cons dark]
  dsimp only
  rw [if_neg (other 'n' rfl), if_neg (other 't' rfl), if_neg (other 'f' rfl),
    if_neg (other '-' rfl), if_pos digit, inside]
  rfl

private theorem items_of_nextItem {item : Value} {others : List Value}
    (more : nextItem first unread = .ok (true, start))
    (inside : value calls depth start = .ok (item, after))
    (later : items calls depth false after = .ok (others, rest)) :
    items (calls + 1) depth first unread = .ok (item :: others, rest) := by
  rw [items]
  simp [more, inside, later, bind, Except.bind, pure, Except.pure]

private theorem items_of_closed (enough : 0 < calls)
    (closed : nextItem first unread = .ok (false, rest)) :
    items calls depth first unread = .ok ([], rest) := by
  obtain ⟨fewer, rfl⟩ := Nat.exists_eq_succ_of_ne_zero (Nat.ne_of_gt enough)
  rw [items]
  simp [closed, bind, Except.bind, pure, Except.pure]

private theorem members_of_nextKey {key afterKey afterColon : Text} {item : Value}
    {others : List (Text × Value)} (more : nextKey first unread = .ok (true, start))
    (named : stringFrom 0 start = .ok (key, afterKey)) (divided : colon afterKey = .ok afterColon)
    (inside : value calls depth afterColon = .ok (item, after))
    (later : members calls depth false after = .ok (others, rest)) :
    members (calls + 1) depth first unread = .ok ((key, item) :: others, rest) := by
  rw [members]
  simp [more, named, divided, inside, later, bind, Except.bind, pure, Except.pure]

private theorem members_of_closed (enough : 0 < calls)
    (closed : nextKey first unread = .ok (false, rest)) :
    members calls depth first unread = .ok ([], rest) := by
  obtain ⟨fewer, rfl⟩ := Nat.exists_eq_succ_of_ne_zero (Nat.ne_of_gt enough)
  rw [members]
  simp [closed, bind, Except.bind, pure, Except.pure]

/-- A value does not begin with the bracket that closes an array, and may follow blanks. -/
private theorem value_start {document : Value}
    (read : value calls depth unread = .ok (document, rest)) :
    ∃ char later, skipSpace unread = char :: later ∧ char ≠ ']' ∧
      value calls depth (char :: later) = .ok (document, rest) := by
  cases calls with
  | zero => cases read
  | succ calls =>
      have again : skipSpace (skipSpace unread) = skipSpace unread := List.dropWhile_idempotent _ _
      cases begins : skipSpace unread with
      | nil =>
          rw [value, begins] at read
          cases read
      | cons char later =>
          rw [begins] at again
          refine ⟨char, later, rfl, ?_, ?_⟩
          · rintro rfl
            rw [value, begins] at read
            cases read
          · rw [value, begins] at read
            rw [value, again]
            exact read

private theorem items_first {item : Value} {others : List Value}
    (inside : value calls depth unread = .ok (item, after))
    (later : items calls depth false after = .ok (others, rest)) :
    items (calls + 1) depth true unread = .ok (item :: others, rest) := by
  obtain ⟨char, tail, begins, notClosed, inside⟩ := value_start inside
  refine items_of_nextItem ?_ inside later
  rw [nextItem, begins]
  dsimp only
  rw [if_neg notClosed, if_pos rfl]

private theorem items_next {front : Text} (leading : Spaces front) {item : Value}
    {others : List Value} (inside : value calls depth unread = .ok (item, after))
    (later : items calls depth false after = .ok (others, rest)) :
    items (calls + 1) depth false (front ++ ',' :: unread) = .ok (item :: others, rest) := by
  obtain ⟨char, tail, begins, notClosed, inside⟩ := value_start inside
  refine items_of_nextItem ?_ inside later
  rw [nextItem_append leading, nextItem, skipSpace_cons (by decide)]
  simp [begins, notClosed]

private theorem colon_append {before : Text} (gap : Spaces before) (rest : Text) :
    colon (before ++ ':' :: rest) = .ok rest := by
  rw [colon, skipSpace_append gap, skipSpace_cons (by decide)]
  rfl

private theorem members_entry {key before : Text} (gap : Spaces before) {item : Value}
    {others : List (Text × Value)}
    (named : nextKey first unread =
      .ok (true, key.flatMap escapedChar ++ '"' :: (before ++ ':' :: start)))
    (inside : value calls depth start = .ok (item, after))
    (later : members calls depth false after = .ok (others, rest)) :
    members (calls + 1) depth first unread = .ok ((key, item) :: others, rest) :=
  members_of_nextKey named (stringFrom_stringText key _) (colon_append gap start) inside later

private theorem nextKey_first {blanks : Text} (spaces : Spaces blanks) (key : Text) :
    nextKey true (blanks ++ (stringText key ++ start)) =
      .ok (true, key.flatMap escapedChar ++ '"' :: start) := by
  rw [nextKey_append spaces, nextKey, stringText, List.append_assoc, List.cons_append,
    skipSpace_cons (by decide)]
  rfl

private theorem nextKey_next {front blanks : Text} (leading : Spaces front)
    (spaces : Spaces blanks) (key : Text) :
    nextKey false (front ++ ',' :: (blanks ++ (stringText key ++ start))) =
      .ok (true, key.flatMap escapedChar ++ '"' :: start) := by
  rw [nextKey_append leading, nextKey, skipSpace_cons (by decide), stringText, List.append_assoc,
    List.cons_append]
  dsimp only
  rw [skipSpace_append spaces, skipSpace_cons (by decide)]
  rfl

end Steps

namespace Value

private theorem value_ofNat {magnitude : Nat} {rest : Text}
    (inRange : leastInteger ≤ (magnitude : Int) ∧ (magnitude : Int) ≤ greatestInteger)
    (calls depth : Nat) (follows : Follows rest) :
    Json.value (calls + 1) depth (Text.ofNat magnitude ++ rest) =
      .ok (.number (.integer magnitude inRange), rest) := by
  have bounded : magnitude ≤ significandBound := by
    have greatest := inRange.2
    unfold greatestInteger at greatest
    unfold significandBound
    omega
  have made : Json.number false (Text.ofNat magnitude ++ rest) =
      .ok (.integer magnitude inRange, rest) := by
    have same : (if false then -(magnitude : Int) else magnitude) = magnitude := rfl
    rw [number_ofNat bounded follows]
    exact integral_of_inRange rest same inRange (by simp)
  have areDigits : ∀ char ∈ Text.ofNat magnitude, char.isDigit = true :=
    fun char => Nat.isDigit_of_mem_toDigits (by decide) (Nat.le_refl 10)
  cases written : Text.ofNat magnitude with
  | nil => exact absurd written Nat.toDigits_ne_nil
  | cons char digits =>
      rw [written] at made areDigits
      exact value_digit (areDigits char List.mem_cons_self) made

private theorem value_number {figure : Number} (integer : figure.IsInteger) (calls depth : Nat)
    {rest : Text} (follows : Follows rest) :
    Json.value (calls + 1) depth (figure.text ++ rest) = .ok (.number figure, rest) := by
  cases figure with
  | float value => cases integer
  | integer value inRange =>
      cases value with
      | ofNat magnitude => exact value_ofNat inRange calls depth follows
      | negSucc less =>
          have bounded : less + 1 ≤ significandBound := by
            have least := inRange.1
            unfold leastInteger at least
            unfold significandBound
            omega
          have same : (if true then -((less + 1 : Nat) : Int) else (less + 1 : Nat)) =
              Int.negSucc less := rfl
          have made : Json.number true (Text.ofNat (less + 1) ++ rest) =
              .ok (.integer (Int.negSucc less) inRange, rest) := by
            rw [number_ofNat bounded follows]
            exact integral_of_inRange rest same inRange (by simp)
          exact value_minus made

end Value

private theorem follows_append {blanks rest : Text} (spaces : Spaces blanks)
    (follows : Follows rest) : Follows (blanks ++ rest) := by
  cases blanks with
  | nil => exact follows
  | cons char blanks => exact .blank (spaces char List.mem_cons_self) _

private theorem WrittenItems.follows {parts : List Value} {text : Text}
    (written : WrittenItems parts text) (rest : Text) : Follows (text ++ rest) := by
  cases written with
  | closed spaces =>
      rw [List.append_assoc]
      exact follows_append spaces (.bracket _)
  | next leading =>
      rw [List.append_assoc]
      exact follows_append leading (.comma _)

private theorem WrittenMembers.follows {parts : List (Text × Value)} {text : Text}
    (written : WrittenMembers parts text) (rest : Text) : Follows (text ++ rest) := by
  cases written with
  | closed spaces =>
      rw [List.append_assoc]
      exact follows_append spaces (.brace _)
  | next leading =>
      rw [List.append_assoc]
      exact follows_append leading (.comma _)

-- The induction is on the document and its parts. The bound on the calls and the levels that
-- may be opened shrink along with the text, and what is left of the text is arbitrary.
mutual

theorem value_written : ∀ {document : Value} {text : Text} {calls depth : Nat} {rest : Text},
    Written document text → document.Readable depth → document.Integral →
      2 * text.length + 1 ≤ calls → Follows rest →
        value calls depth (text ++ rest) = .ok (document, rest)
  | _, _, calls + 1, _, _, .null, _, _, _, _ => rfl
  | _, _, calls + 1, _, _, .true, _, _, _, _ => rfl
  | _, _, calls + 1, _, _, .false, _, _, _, _ => rfl
  | _, _, calls + 1, depth, rest, .number figure, _, integers, _, follows =>
      Value.value_number (integers figure (List.mem_singleton_self _)) calls depth follows
  | _, _, calls + 1, depth, rest, .string text, _, _, _, _ => by
      have inside := stringFrom_stringText text rest
      rw [stringText, List.append_assoc]
      exact value_string inside
  | _, _, calls + 1, depth + 1, rest, .emptyArray spaces, _, _, enough, _ => by
      simp only [List.length_cons, List.length_append] at enough
      rw [List.cons_append, List.append_assoc]
      exact value_array (items_of_closed (by omega) (nextItem_append spaces))
  | _, _, calls + 2, depth + 1, rest, .array spaces first later, readable, integers, enough, _ => by
      cases readable with
      | array each =>
          have inside := Value.integral_array_iff.mp integers
          rw [List.forall_mem_cons] at each inside
          simp only [List.length_cons, List.length_append] at enough
          have firstRead := value_written first each.1 inside.1 (by omega : _ ≤ calls)
            (later.follows rest)
          have laterRead := items_written later rest each.2 inside.2 (by omega : _ ≤ calls)
          rw [List.cons_append, List.append_assoc, List.append_assoc]
          exact value_array (items_first (value_append spaces firstRead) laterRead)
  | _, _, calls + 1, depth + 1, rest, .emptyObject spaces, _, _, enough, _ => by
      simp only [List.length_cons, List.length_append] at enough
      rw [List.cons_append, List.append_assoc]
      exact value_object (members_of_closed (by omega) (nextKey_append spaces))
  | _, _, calls + 2, depth + 1, rest, .object spaces gap space first later, readable, integers,
      enough, _ => by
      cases readable with
      | object distinct each =>
          have inside := Value.integral_object_iff.mp integers
          rw [List.forall_mem_cons] at each inside
          simp only [List.length_cons, List.length_append] at enough
          have firstRead := value_written first each.1 inside.1 (by omega : _ ≤ calls)
            (later.follows rest)
          have laterRead := members_written later rest each.2 inside.2 (by omega : _ ≤ calls)
          simp only [List.cons_append, List.append_assoc]
          rw [value_object (members_entry gap (nextKey_first spaces _)
            (value_append space firstRead) laterRead), Value.collect_of_nodup distinct]

theorem items_written : ∀ {parts : List Value} {text : Text} {calls depth : Nat},
    WrittenItems parts text → ∀ rest, (∀ item ∈ parts, item.Readable depth) →
      (∀ item ∈ parts, item.Integral) → 2 * text.length + 1 ≤ calls →
        items calls depth false (text ++ rest) = .ok (parts, rest)
  | _, _, calls, depth, .closed spaces, rest, _, _, enough => by
      rw [List.append_assoc]
      exact items_of_closed (by omega) (nextItem_append spaces)
  | _, _, calls + 1, depth, .next leading spaces first later, rest, readable, integers, enough => by
      rw [List.forall_mem_cons] at readable integers
      simp only [List.length_cons, List.length_append] at enough
      have firstRead := value_written first readable.1 integers.1 (by omega : _ ≤ calls)
        (later.follows rest)
      have laterRead := items_written later rest readable.2 integers.2 (by omega : _ ≤ calls)
      simp only [List.cons_append, List.append_assoc]
      exact items_next leading (value_append spaces firstRead) laterRead

theorem members_written : ∀ {parts : List (Text × Value)} {text : Text} {calls depth : Nat},
    WrittenMembers parts text → ∀ rest, (∀ entry ∈ parts, entry.2.Readable depth) →
      (∀ entry ∈ parts, entry.2.Integral) → 2 * text.length + 1 ≤ calls →
        members calls depth false (text ++ rest) = .ok (parts, rest)
  | _, _, calls, depth, .closed spaces, rest, _, _, enough => by
      rw [List.append_assoc]
      exact members_of_closed (by omega) (nextKey_append spaces)
  | _, _, calls + 1, depth, .next leading spaces gap space first later, rest, readable, integers,
      enough => by
      rw [List.forall_mem_cons] at readable integers
      simp only [List.length_cons, List.length_append] at enough
      have firstRead := value_written first readable.1 integers.1 (by omega : _ ≤ calls)
        (later.follows rest)
      have laterRead := members_written later rest readable.2 integers.2
        (by omega : _ ≤ calls)
      simp only [List.cons_append, List.append_assoc]
      exact members_entry gap (nextKey_next leading spaces _) (value_append space firstRead)
        laterRead

end

/-- A document is read back from the way it is written, with blanks behind it or without. -/
theorem read_of_written {document : Value} {text blanks : Text} (written : Written document text)
    (spaces : Spaces blanks) (readable : document.Readable depthLimit)
    (integers : document.Integral) : read (text ++ blanks) = .ok document := by
  have enough : 2 * text.length + 1 ≤ callBound (text ++ blanks) := by
    rw [callBound, List.length_append]
    omega
  have follows := follows_append spaces .nothing
  have ended := skipSpace_append spaces []
  rw [List.append_nil] at follows ended
  rw [read, value_written written readable integers enough follows]
  dsimp only
  rw [finished, ended]
  rfl

/-- Whether a document is read back from its text, where so many levels may be opened. -/
def Value.Restorable (depth : Nat) (value : Value) : Prop :=
  value.Readable depth ∧ value.Integral

namespace Value.Restorable

theorem null (depth : Nat) : Restorable depth .null := ⟨.null, List.forall_mem_nil _⟩

theorem string (depth : Nat) (text : Text) : Restorable depth (.string text) :=
  ⟨.string text, List.forall_mem_nil _⟩

theorem array {depth : Nat} {items : List Value} (each : ∀ item ∈ items, Restorable depth item) :
    Restorable (depth + 1) (.array items) :=
  ⟨.array fun item listed => (each item listed).1,
    integral_array_iff.mpr fun item listed => (each item listed).2⟩

theorem object {depth : Nat} {members : List (Text × Value)}
    (distinct : (members.map Prod.fst).Nodup)
    (each : ∀ entry ∈ members, Restorable depth entry.2) :
    Restorable (depth + 1) (.object members) :=
  ⟨.object distinct fun entry listed => (each entry listed).1,
    integral_object_iff.mpr fun entry listed => (each entry listed).2⟩

end Value.Restorable

theorem read_indented {document : Value} (restorable : document.Restorable depthLimit)
    {blanks : Text} (spaces : Spaces blanks) :
    read (document.indented ++ blanks) = .ok document :=
  read_of_written (Value.written_indentedAt 0 document) spaces restorable.1 restorable.2

theorem read_compact {document : Value} (readable : document.Readable depthLimit)
    (integers : document.Integral) : read document.compact = .ok document := by
  have made := read_of_written document.written_compact spaces_nil readable integers
  rw [List.append_nil] at made
  exact made

end JsonTemplate.Json
