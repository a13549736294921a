import JsonTemplate.Placeholder
import Mathlib.Data.List.Infix
import Mathlib.Data.List.TakeWhile

set_option autoImplicit false

/-! The grammar of placeholders as a property of texts, apart from any scan, and a text as the row
of its segments: the placeholders found from left to right, and the characters between them. A
percent sign is always the first character of a placeholder, so that no two of them overlap, and
where one begins only one does. The segments of two texts in a row are the segments of the one and
then those of the other, unless a placeholder crosses from the first into the second; so a
placeholder is found wherever it stands. -/

namespace JsonTemplate.Placeholder

def IsPathText (inner : Text) : Prop :=
  inner ≠ [] ∧ ∀ char ∈ inner, isPathChar char = true

def IsPlaceholder (text : Text) : Prop := ∃ inner, IsPathText inner ∧ text = token inner

def Begins (text : Text) : Prop := ∃ inner rest, IsPathText inner ∧ text = token inner ++ rest

def Free (text : Text) : Prop :=
  ∀ before inner after, IsPathText inner → text ≠ before ++ token inner ++ after

/-- Whether no placeholder begins in one text and ends in the text that follows it. -/
def Apart (left right : Text) : Prop :=
  ∀ before after, before <:+ left → after <+: right → IsPlaceholder (before ++ after) →
    before = [] ∨ after = []

theorem token_append (inner rest : Text) :
    token inner ++ rest = '%' :: '(' :: (inner ++ ')' :: rest) := by
  simp [token]

theorem length_token (inner : Text) : (token inner).length = inner.length + 3 := by
  simp [token]

theorem token_ne_nil (inner : Text) : token inner ≠ [] := List.cons_ne_nil _ _

theorem token_injective : Function.Injective token := by
  intro left right same
  simpa [token] using same

private theorem not_mem_of_not_isPathChar {inner : Text} (valid : IsPathText inner) {char : Char}
    (outside : isPathChar char = false) : char ∉ inner := by
  intro member
  have inside := valid.2 char member
  rw [outside] at inside
  cases inside

theorem percent_not_mem {inner : Text} (valid : IsPathText inner) : '%' ∉ inner :=
  not_mem_of_not_isPathChar valid (by decide)

theorem percent_not_mem_tail {inner : Text} (valid : IsPathText inner) :
    '%' ∉ (token inner).tail := by
  have absent := percent_not_mem valid
  simp [token, absent]

/-- The longest run of path characters is the inner text, because the parenthesis after it
is not one of them. -/
private theorem takeWhile_inner {inner : Text} (valid : IsPathText inner) (rest : Text) :
    (inner ++ ')' :: rest).takeWhile isPathChar = inner := by
  rw [List.takeWhile_append_of_pos valid.2, List.takeWhile_cons_of_neg (by decide),
    List.append_nil]

theorem inner?_token_append {inner : Text} (valid : IsPathText inner) (rest : Text) :
    inner? (token inner ++ rest) = some inner := by
  rw [token_append]
  simp only [inner?, takeWhile_inner valid rest, List.drop_left, List.head?_cons]
  exact if_pos ⟨valid.1, trivial⟩

theorem eq_token_append_of_inner? {text inner : Text} (found : inner? text = some inner) :
    IsPathText inner ∧ ∃ rest, text = token inner ++ rest := by
  unfold inner? at found
  split at found
  · rename_i rest
    dsimp only at found
    split at found
    · rename_i holds
      cases found
      have valid : IsPathText (rest.takeWhile isPathChar) := by
        constructor
        · exact holds.1
        · intro char member
          exact List.mem_takeWhile_imp member
      obtain ⟨after, dropped⟩ := List.head?_eq_some_iff.mp holds.2
      refine ⟨valid, after, ?_⟩
      have whole : rest.takeWhile isPathChar ++ rest.drop (rest.takeWhile isPathChar).length =
          rest :=
        List.prefix_iff_eq_append.mp (List.takeWhile_prefix isPathChar)
      rw [token_append, ← dropped, whole]
    · cases found
  · cases found

theorem begins_iff_isSome_inner? (text : Text) : Begins text ↔ (inner? text).isSome = true := by
  rw [Option.isSome_iff_exists]
  constructor
  · rintro ⟨inner, rest, valid, rfl⟩
    exact ⟨inner, inner?_token_append valid rest⟩
  · rintro ⟨inner, found⟩
    obtain ⟨valid, rest, same⟩ := eq_token_append_of_inner? found
    exact ⟨inner, rest, valid, same⟩

theorem inner?_eq_none_iff (text : Text) : inner? text = none ↔ ¬ Begins text := by
  rw [begins_iff_isSome_inner?, Bool.not_eq_true, Option.isSome_eq_false_iff,
    Option.isNone_iff_eq_none]

theorem token_append_inj {left right leftRest rightRest : Text} (leftValid : IsPathText left)
    (rightValid : IsPathText right) (same : token left ++ leftRest = token right ++ rightRest) :
    left = right ∧ leftRest = rightRest := by
  have sameInner : left = right := by
    have found := inner?_token_append leftValid leftRest
    rw [same, inner?_token_append rightValid rightRest] at found
    exact (Option.some.inj found).symm
  subst sameInner
  exact ⟨rfl, List.append_cancel_left same⟩

/-- A placeholder at the beginning of two texts in a row lies in the first of them, if none
crosses from the first into the second. -/
theorem begins_left_of_apart {left right inner rest : Text} (apart : Apart left right)
    (nonempty : left ≠ []) (valid : IsPathText inner)
    (same : left ++ right = token inner ++ rest) :
    ∃ more, left = token inner ++ more ∧ rest = more ++ right := by
  rcases List.append_eq_append_iff.mp same with ⟨crossing, inside, after⟩ | ⟨more, whole, after⟩
  · have whole : IsPlaceholder (left ++ crossing) := ⟨inner, valid, inside.symm⟩
    rcases apart left crossing List.suffix_rfl ⟨rest, after.symm⟩ whole with empty | empty
    · exact absurd empty nonempty
    · subst empty
      refine ⟨[], ?_, ?_⟩
      · rw [List.append_nil, inside, List.append_nil]
      · rw [List.nil_append, after, List.nil_append]
  · exact ⟨more, whole, after⟩

theorem Apart.of_suffix {left right tail : Text} (apart : Apart left right)
    (suffix : tail <:+ left) : Apart tail right := by
  intro before after atEnd atStart whole
  exact apart before after (atEnd.trans suffix) atStart whole

theorem apart_of_percent (left rest : Text) : Apart left ('%' :: rest) := by
  intro before after _ atStart whole
  obtain ⟨inner, valid, same⟩ := whole
  cases before with
  | nil => exact Or.inl rfl
  | cons char before =>
      cases after with
      | nil => exact Or.inr rfl
      | cons other after =>
          have first : other = '%' := (List.cons_prefix_cons.mp atStart).1
          have tailed : before ++ other :: after = (token inner).tail := by
            rw [← same]
            rfl
          have inside : '%' ∈ (token inner).tail := by
            rw [← tailed, first]
            simp
          exact absurd inside (percent_not_mem_tail valid)

theorem isPlaceholder_iff (text : Text) :
    IsPlaceholder text ↔ (inner? text).any (fun inner => decide (token inner = text)) = true := by
  rw [Option.any_eq_true]
  constructor
  · rintro ⟨inner, valid, rfl⟩
    have found := inner?_token_append valid []
    rw [List.append_nil] at found
    exact ⟨inner, found, decide_eq_true rfl⟩
  · rintro ⟨inner, found, same⟩
    exact ⟨inner, (eq_token_append_of_inner? found).1, (of_decide_eq_true same).symm⟩

instance (inner : Text) : Decidable (IsPathText inner) :=
  decidable_of_iff (inner ≠ [] ∧ inner.all isPathChar = true) (by rw [IsPathText, List.all_eq_true])

instance (text : Text) : Decidable (IsPlaceholder text) :=
  decidable_of_iff _ (isPlaceholder_iff text).symm

instance (text : Text) : Decidable (Begins text) :=
  decidable_of_iff _ (begins_iff_isSome_inner? text).symm

instance (left right : Text) : Decidable (Apart left right) :=
  decidable_of_iff
    (∀ before ∈ left.tails, ∀ after ∈ right.inits, IsPlaceholder (before ++ after) →
      before = [] ∨ after = [])
    (by simp only [List.mem_tails, List.mem_inits, Apart]; exact forall_congr' fun _ => forall_comm)

/-- A segment of a text: a character outside all placeholders, or a placeholder. -/
inductive Segment where
  | kept (char : Char)
  | placeholder (inner : Text)
  deriving DecidableEq

namespace Segment

def filled (value : Text → Text) : Segment → Text
  | .kept char => [char]
  | .placeholder inner => value inner

def text : Segment → Text := filled token

def inner? : Segment → Option Text
  | .kept _ => none
  | .placeholder inner => some inner

def places : Nat → List Segment → List Place
  | _, [] => []
  | offset, .kept char :: rest => places (offset + char.utf8Size) rest
  | offset, .placeholder inner :: rest =>
      ⟨offset, inner⟩ :: places (offset + Text.utf8Length (token inner)) rest

end Segment

/-- The segments of the rest of a text, with `passing` characters still to leave out because
they belong to a placeholder that was found. -/
def segmentsFrom : Nat → Text → List Segment
  | _, [] => []
  | passing + 1, _ :: rest => segmentsFrom passing rest
  | 0, char :: rest =>
      match inner? (char :: rest) with
      | some inner => .placeholder inner :: segmentsFrom (inner.length + 2) rest
      | none => .kept char :: segmentsFrom 0 rest

def segments (text : Text) : List Segment := segmentsFrom 0 text

def inners (text : Text) : List Text := (segments text).filterMap Segment.inner?

private theorem segmentsFrom_eq_drop (passing : Nat) (text : Text) :
    segmentsFrom passing text = segments (text.drop passing) := by
  induction text generalizing passing with
  | nil => cases passing <;> rfl
  | cons char rest ih =>
      cases passing with
      | zero => rfl
      | succ passing => exact ih passing

@[simp] theorem segments_nil : segments [] = [] := rfl

theorem segments_token_append {inner : Text} (valid : IsPathText inner) (rest : Text) :
    segments (token inner ++ rest) = .placeholder inner :: segments rest := by
  have found := inner?_token_append valid rest
  have passed : (('(' :: (inner ++ ')' :: rest)).drop (inner.length + 2)) = rest := by
    have split : '(' :: (inner ++ ')' :: rest) = ('(' :: inner ++ [')']) ++ rest := by simp
    rw [split]
    exact List.drop_left' (by simp)
  rw [token_append] at found ⊢
  rw [segments, segmentsFrom, found]
  dsimp only
  rw [segmentsFrom_eq_drop, passed]

theorem segments_cons {char : Char} {rest : Text} (elsewhere : ¬ Begins (char :: rest)) :
    segments (char :: rest) = .kept char :: segments rest := by
  rw [segments, segmentsFrom, (inner?_eq_none_iff _).mpr elsewhere]
  rfl

/-- Induction along the scan of a text from left to right: past a placeholder where one
begins, else past one character. -/
theorem scan_induction {motive : Text → Prop} (nil : motive [])
    (placeholder : ∀ inner rest, IsPathText inner → motive rest → motive (token inner ++ rest))
    (kept : ∀ char rest, ¬ Begins (char :: rest) → motive rest → motive (char :: rest))
    (text : Text) : motive text := by
  induction bound : text.length using Nat.strongRecOn generalizing text with
  | ind size shorter =>
      cases text with
      | nil => exact nil
      | cons char rest =>
          by_cases begins : Begins (char :: rest)
          · obtain ⟨inner, after, valid, same⟩ := begins
            have isShorter : after.length < size := by
              rw [← bound, same, List.length_append, length_token]
              omega
            rw [same]
            exact placeholder inner after valid (shorter _ isShorter after rfl)
          · have isShorter : rest.length < size := by
              rw [← bound, List.length_cons]
              omega
            exact kept char rest begins (shorter _ isShorter rest rfl)

theorem flatMap_text_segments (text : Text) : (segments text).flatMap Segment.text = text := by
  induction text using scan_induction with
  | nil => rfl
  | placeholder inner rest valid ih =>
      rw [segments_token_append valid, List.flatMap_cons, ih]
      rfl
  | kept char rest elsewhere ih =>
      rw [segments_cons elsewhere, List.flatMap_cons, ih]
      rfl

theorem segments_append {left right : Text} (apart : Apart left right) :
    segments (left ++ right) = segments left ++ segments right := by
  induction left using scan_induction with
  | nil => rfl
  | placeholder inner rest valid ih =>
      have later := ih (apart.of_suffix (List.suffix_append _ _))
      rw [List.append_assoc, segments_token_append valid, segments_token_append valid, later]
      rfl
  | kept char rest elsewhere ih =>
      have later := ih (apart.of_suffix (List.suffix_cons _ _))
      have stillElsewhere : ¬ Begins (char :: (rest ++ right)) := by
        rintro ⟨inner, after, valid, same⟩
        rw [← List.cons_append] at same
        obtain ⟨more, whole, _⟩ :=
          begins_left_of_apart apart (List.cons_ne_nil _ _) valid same
        exact elsewhere ⟨inner, more, valid, whole⟩
      rw [List.cons_append, segments_cons stillElsewhere, segments_cons elsewhere, later]
      rfl

theorem segments_around {inner : Text} (valid : IsPathText inner) (before after : Text) :
    segments (before ++ token inner ++ after) =
      segments before ++ .placeholder inner :: segments after := by
  rw [List.append_assoc, segments_append, segments_token_append valid]
  rw [token_append]
  exact apart_of_percent _ _

theorem inners_token_append {inner : Text} (valid : IsPathText inner) (rest : Text) :
    inners (token inner ++ rest) = inner :: inners rest := by
  rw [inners, segments_token_append valid]
  rfl

theorem inners_cons {char : Char} {rest : Text} (elsewhere : ¬ Begins (char :: rest)) :
    inners (char :: rest) = inners rest := by
  rw [inners, segments_cons elsewhere]
  rfl

theorem mem_inners_iff (text inner : Text) :
    inner ∈ inners text ↔
      IsPathText inner ∧ ∃ before after, text = before ++ token inner ++ after := by
  constructor
  · intro member
    induction text using scan_induction with
    | nil => cases member
    | placeholder head rest valid ih =>
        rw [inners_token_append valid, List.mem_cons] at member
        rcases member with rfl | later
        · exact ⟨valid, [], rest, rfl⟩
        · obtain ⟨validInner, before, after, same⟩ := ih later
          refine ⟨validInner, token head ++ before, after, ?_⟩
          rw [same]
          simp only [List.append_assoc]
    | kept char rest elsewhere ih =>
        rw [inners_cons elsewhere] at member
        obtain ⟨valid, before, after, same⟩ := ih member
        exact ⟨valid, char :: before, after, by rw [same]; rfl⟩
  · rintro ⟨valid, before, after, rfl⟩
    rw [inners, segments_around valid]
    simp [Segment.inner?]

theorem free_iff_inners_eq_nil (text : Text) : Free text ↔ inners text = [] := by
  rw [List.eq_nil_iff_forall_not_mem]
  constructor
  · intro free inner member
    obtain ⟨valid, before, after, same⟩ := (mem_inners_iff text inner).mp member
    exact free before inner after valid same
  · intro none before inner after valid same
    exact none inner ((mem_inners_iff text inner).mpr ⟨valid, before, after, same⟩)

instance (text : Text) : Decidable (Free text) :=
  decidable_of_iff _ (free_iff_inners_eq_nil text).symm

private theorem placesFrom_eq (offset passing : Nat) (text : Text) :
    placesFrom offset passing text =
      Segment.places (offset + Text.utf8Length (text.take passing))
        (segmentsFrom passing text) := by
  induction text generalizing offset passing with
  | nil => cases passing <;> rfl
  | cons char rest ih =>
      cases passing with
      | succ passing =>
          rw [placesFrom, ih, segmentsFrom, List.take_succ_cons, Text.utf8Length_cons,
            Nat.add_assoc]
      | zero =>
          rw [placesFrom, segmentsFrom]
          cases found : inner? (char :: rest) with
          | none =>
              dsimp only
              rw [ih]
              rfl
          | some inner =>
              obtain ⟨_, after, same⟩ := eq_token_append_of_inner? found
              have whole : char :: rest.take (inner.length + 2) = token inner := by
                rw [← List.take_succ_cons, same]
                exact List.take_left' (length_token inner)
              dsimp only
              rw [ih, Segment.places, ← whole, Text.utf8Length_cons, Nat.add_assoc]
              rfl

theorem places_eq (text : Text) : places text = Segment.places 0 (segments text) :=
  placesFrom_eq 0 0 text

theorem inner_places (offset : Nat) (row : List Segment) :
    (Segment.places offset row).map Place.inner = row.filterMap Segment.inner? := by
  induction row generalizing offset with
  | nil => rfl
  | cons segment rest ih =>
      cases segment with
      | kept char => exact ih _
      | placeholder inner => exact congrArg (inner :: ·) (ih _)

theorem le_start_of_mem_places {offset : Nat} {row : List Segment} {place : Place}
    (member : place ∈ Segment.places offset row) : offset ≤ place.start := by
  induction row generalizing offset with
  | nil => cases member
  | cons segment rest ih =>
      cases segment with
      | kept char => exact Nat.le_trans (Nat.le_add_right _ _) (ih member)
      | placeholder inner =>
          rcases List.mem_cons.mp member with rfl | later
          · exact Nat.le_refl _
          · exact Nat.le_trans (Nat.le_add_right _ _) (ih later)

theorem places_append (offset : Nat) (left right : List Segment) :
    Segment.places offset (left ++ right) =
      Segment.places offset left ++
        Segment.places (offset + Text.utf8Length (left.flatMap Segment.text)) right := by
  induction left generalizing offset with
  | nil => rfl
  | cons segment rest ih =>
      cases segment with
      | kept char =>
          simp only [List.cons_append, Segment.places, ih, List.flatMap_cons, Segment.text,
            Segment.filled, Text.utf8Length_append, Text.utf8Length_cons, Text.utf8Length_nil,
            Nat.zero_add, Nat.add_assoc]
      | placeholder inner =>
          simp only [List.cons_append, Segment.places, ih, List.flatMap_cons, Segment.text,
            Segment.filled, Text.utf8Length_append, Nat.add_assoc]

end JsonTemplate.Placeholder
