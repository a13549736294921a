import JsonTemplate.Text.Basic
import Mathlib.Data.List.TakeWhile

set_option autoImplicit false

/-! Where a character cuts a text: at its first occurrence, at its last one and at all of
them. Each cut is described by the parts it leaves, and the parts determine it. -/

namespace JsonTemplate.Text

/-- Whether the second text begins at the first occurrence of a character, or is empty if
there is none. -/
structure CutAt (char : Char) (before after : Text) : Prop where
  absent : char ∉ before
  next : ∀ head ∈ after.head?, head = char

variable {char : Char} {before after : Text}

theorem cutAt_nil (absent : char ∉ before) : CutAt char before [] :=
  ⟨absent, nofun⟩

theorem cutAt_cons (absent : char ∉ before) (rest : Text) :
    CutAt char before (char :: rest) := by
  refine ⟨absent, ?_⟩
  intro head found
  rw [List.head?_cons, Option.mem_some_iff] at found
  exact found.symm

theorem CutAt.cases (cut : CutAt char before after) :
    after = [] ∨ ∃ rest, after = char :: rest := by
  cases after with
  | nil => exact Or.inl rfl
  | cons head rest =>
      have same : head = char := cut.next head rfl
      exact Or.inr ⟨rest, by rw [same]⟩

theorem exists_cutAt (char : Char) (text : Text) :
    ∃ before after, text = before ++ after ∧ CutAt char before after := by
  by_cases present : char ∈ text
  · obtain ⟨before, rest, same, absent⟩ := List.eq_append_cons_of_mem present
    exact ⟨before, char :: rest, same, cutAt_cons absent rest⟩
  · exact ⟨text, [], (List.append_nil text).symm, cutAt_nil present⟩

private theorem all_differ (absent : char ∉ before) :
    ∀ other ∈ before, (other != char) = true := by
  intro other member
  rw [bne_iff_ne]
  intro same
  rw [same] at member
  exact absent member

theorem CutAt.takeWhile (cut : CutAt char before after) :
    (before ++ after).takeWhile (· != char) = before := by
  rw [List.takeWhile_append_of_pos (all_differ cut.absent)]
  rcases cut.cases with empty | ⟨rest, begins⟩
  · rw [empty, List.takeWhile_nil, List.append_nil]
  · rw [begins, List.takeWhile_cons_of_neg (by simp), List.append_nil]

theorem CutAt.dropWhile (cut : CutAt char before after) :
    (before ++ after).dropWhile (· != char) = after := by
  rw [List.dropWhile_append_of_pos (all_differ cut.absent)]
  rcases cut.cases with empty | ⟨rest, begins⟩
  · rw [empty, List.dropWhile_nil]
  · rw [begins, List.dropWhile_cons_of_neg (by simp)]

theorem beforeLast?_of_not_mem {text : Text} (absent : char ∉ text) :
    beforeLast? char text = none := by
  induction text with
  | nil => rfl
  | cons head rest ih =>
      rw [List.mem_cons, not_or] at absent
      rw [beforeLast?, ih absent.2]
      exact if_neg (Ne.symm absent.1)

theorem beforeLast?_append (before : Text) {tail : Text} (absent : char ∉ tail) :
    beforeLast? char (before ++ char :: tail) = some before := by
  induction before with
  | nil =>
      rw [List.nil_append, beforeLast?, beforeLast?_of_not_mem absent]
      exact if_pos rfl
  | cons head rest ih => rw [List.cons_append, beforeLast?, ih]

theorem exists_last {text : Text} (present : char ∈ text) :
    ∃ before tail, text = before ++ char :: tail ∧ char ∉ tail := by
  induction text with
  | nil => cases present
  | cons head rest ih =>
      by_cases later : char ∈ rest
      · obtain ⟨before, tail, same, absent⟩ := ih later
        exact ⟨head :: before, tail, by rw [same, List.cons_append], absent⟩
      · rcases List.mem_cons.mp present with first | impossible
        · exact ⟨[], rest, by rw [first]; rfl, later⟩
        · exact absurd impossible later

theorem joined_eq_intercalate (separator : Text) (texts : List Text) :
    joined separator texts = separator.intercalate texts := by
  induction texts with
  | nil => rfl
  | cons first more ih =>
      cases more with
      | nil => exact List.intercalate_singleton.symm
      | cons second rest => rw [joined, ih, List.intercalate_cons_cons, List.append_assoc]

theorem not_mem_of_mem_splitOn {text piece : Text} (member : piece ∈ text.splitOn char) :
    char ∉ piece := by
  induction text generalizing piece with
  | nil =>
      rw [List.splitOn_nil, List.mem_singleton] at member
      rw [member]
      exact List.not_mem_nil
  | cons head rest ih =>
      rw [List.splitOn_cons_eq_if_modifyHead] at member
      split at member
      · rcases List.mem_cons.mp member with first | later
        · rw [first]
          exact List.not_mem_nil
        · exact ih later
      · rename_i differs
        obtain ⟨first, others, pieces⟩ :=
          List.exists_cons_of_ne_nil (List.splitOn_ne_nil char rest)
        rw [pieces, List.modifyHead_cons] at member
        rw [pieces] at ih
        rcases List.mem_cons.mp member with extended | later
        · rw [extended, List.mem_cons, not_or]
          refine ⟨?_, ih List.mem_cons_self⟩
          intro same
          exact differs (by rw [same, beq_self_eq_true])
        · exact ih (List.mem_cons_of_mem _ later)

/-- A filter that drops the separator sees only the texts that were joined. -/
theorem filter_joined {keeps : Char → Bool} (dropped : keeps char = false) (texts : List Text) :
    (joined [char] texts).filter keeps = texts.flatMap (List.filter keeps) := by
  induction texts with
  | nil => rfl
  | cons first more ih =>
      cases more with
      | nil => simp [joined]
      | cons second rest =>
          have alone : [char].filter keeps = [] :=
            List.filter_cons_of_neg (by rw [dropped]; exact Bool.false_ne_true)
          rw [joined, List.filter_append, List.filter_append, ih, alone, List.append_nil]
          rfl

theorem flatMap_filter_nonempty (keeps : Char → Bool) (texts : List Text) :
    (texts.filter (fun piece => !piece.isEmpty)).flatMap (List.filter keeps) =
      texts.flatMap (List.filter keeps) := by
  induction texts with
  | nil => rfl
  | cons first more ih =>
      cases first with
      | nil =>
          rw [List.filter_cons_of_neg (by simp), ih]
          rfl
      | cons head rest =>
          rw [List.filter_cons_of_pos (by simp), List.flatMap_cons, List.flatMap_cons, ih]

end JsonTemplate.Text
