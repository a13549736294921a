import JsonTemplate.Proofs.Placeholder.Decoding

set_option autoImplicit false

/-! Texts put together from gaps and placeholders, and decoding undoes it. The segments of an
assembled text are the characters of its gaps and the placeholders between them, because no gap can
begin a placeholder that ends in the next one, or end one that began before. So the pieces can be
read back from the text, and decoding finds every placeholder where it was put. -/

namespace JsonTemplate.Placeholder

/-- Pieces one after the other, each a gap and the placeholder behind it, and a last gap. -/
def assembled : List (Text × Text) → Text → Text
  | [], last => last
  | (gap, inner) :: rest, last => gap ++ token inner ++ assembled rest last

def Assembles (pieces : List (Text × Text)) (last : Text) : Prop :=
  (∀ piece ∈ pieces, Free piece.1 ∧ IsPathText piece.2) ∧ Free last

theorem inners_around {inner : Text} (valid : IsPathText inner) (before after : Text) :
    inners (before ++ token inner ++ after) = inners before ++ inner :: inners after := by
  rw [inners, segments_around valid, List.filterMap_append]
  rfl

theorem inners_append {left right : Text} (apart : Apart left right) :
    inners (left ++ right) = inners left ++ inners right := by
  rw [inners, segments_append apart, List.filterMap_append]
  rfl

private theorem segments_of_free {text : Text} (free : Free text) :
    segments text = text.map .kept := by
  rw [free_iff_inners_eq_nil] at free
  induction text using scan_induction with
  | nil => rfl
  | placeholder inner rest valid ih =>
      rw [inners_token_append valid] at free
      cases free
  | kept char rest elsewhere ih =>
      rw [inners_cons elsewhere] at free
      rw [segments_cons elsewhere, ih free, List.map_cons]

def row : List (Text × Text) → Text → List Segment
  | [], last => last.map .kept
  | (gap, inner) :: rest, last => gap.map .kept ++ .placeholder inner :: row rest last

theorem segments_assembled {pieces : List (Text × Text)} {last : Text}
    (assembles : Assembles pieces last) : segments (assembled pieces last) = row pieces last := by
  obtain ⟨parts, free⟩ := assembles
  induction pieces with
  | nil => exact segments_of_free free
  | cons piece rest ih =>
      obtain ⟨gap, inner⟩ := piece
      rw [List.forall_mem_cons] at parts
      obtain ⟨⟨gapFree, valid⟩, later⟩ := parts
      rw [assembled, segments_around valid, segments_of_free gapFree, ih later, row]

theorem row_append (before : List (Text × Text)) (gap inner : Text) (after : List (Text × Text))
    (last : Text) :
    row (before ++ (gap, inner) :: after) last =
      row before gap ++ .placeholder inner :: row after last := by
  induction before with
  | nil => rfl
  | cons piece before ih =>
      rw [List.cons_append, row, row, ih, List.append_assoc, List.cons_append]

private theorem flatMap_filled_kept (value : Text → Text) (text : Text) :
    (text.map Segment.kept).flatMap (Segment.filled value) = text := by
  induction text with
  | nil => rfl
  | cons char rest ih =>
      rw [List.map_cons, List.flatMap_cons, ih]
      rfl

theorem flatMap_filled_row (change : Text → Text) (pieces : List (Text × Text)) (last : Text) :
    (row pieces last).flatMap (Segment.filled (fun inner => token (change inner))) =
      assembled (pieces.map (fun piece => (piece.1, change piece.2))) last := by
  induction pieces with
  | nil => exact flatMap_filled_kept _ last
  | cons piece rest ih =>
      obtain ⟨gap, inner⟩ := piece
      rw [row, List.flatMap_append, List.flatMap_cons, flatMap_filled_kept, ih, List.map_cons,
        assembled, List.append_assoc]
      rfl

theorem flatMap_text_row (pieces : List (Text × Text)) (last : Text) :
    (row pieces last).flatMap Segment.text = assembled pieces last := by
  have same := flatMap_filled_row id pieces last
  have unchanged : pieces.map (fun piece => (piece.1, id piece.2)) = pieces := List.map_id pieces
  rw [unchanged] at same
  exact same

private theorem filterMap_inner?_kept (text : Text) :
    (text.map Segment.kept).filterMap Segment.inner? = [] := by
  induction text with
  | nil => rfl
  | cons char rest ih => exact ih

theorem filterMap_inner?_row (pieces : List (Text × Text)) (last : Text) :
    (row pieces last).filterMap Segment.inner? = pieces.map Prod.snd := by
  induction pieces with
  | nil => exact filterMap_inner?_kept last
  | cons piece rest ih =>
      obtain ⟨gap, inner⟩ := piece
      rw [row, List.filterMap_append, filterMap_inner?_kept, List.nil_append, List.map_cons, ← ih]
      rfl

theorem inners_assembled {pieces : List (Text × Text)} {last : Text}
    (assembles : Assembles pieces last) :
    inners (assembled pieces last) = pieces.map Prod.snd := by
  rw [inners, segments_assembled assembles, filterMap_inner?_row]

private theorem free_cons {char : Char} {rest : Text} (free : Free rest)
    (elsewhere : ¬ Begins (char :: rest)) : Free (char :: rest) := by
  rw [free_iff_inners_eq_nil, inners_cons elsewhere]
  exact (free_iff_inners_eq_nil rest).mp free

theorem Begins.append {left : Text} (begins : Begins left) (right : Text) :
    Begins (left ++ right) := by
  obtain ⟨inner, rest, valid, same⟩ := begins
  exact ⟨inner, rest ++ right, valid, by rw [same, List.append_assoc]⟩

theorem exists_assembled (text : Text) :
    ∃ pieces last, Assembles pieces last ∧ text = assembled pieces last := by
  induction text using scan_induction with
  | nil => exact ⟨[], [], ⟨nofun, (free_iff_inners_eq_nil []).mpr rfl⟩, rfl⟩
  | placeholder inner rest valid ih =>
      obtain ⟨pieces, last, ⟨parts, lastFree⟩, same⟩ := ih
      refine ⟨([], inner) :: pieces, last, ⟨?_, lastFree⟩, ?_⟩
      · have empty : Free [] := (free_iff_inners_eq_nil []).mpr rfl
        exact List.forall_mem_cons.mpr ⟨⟨empty, valid⟩, parts⟩
      · rw [same]
        rfl
  | kept char rest elsewhere ih =>
      obtain ⟨pieces, last, ⟨parts, lastFree⟩, same⟩ := ih
      -- The character joins the first gap, which is the last one if there is no piece.
      cases pieces with
      | nil =>
          rw [same] at elsewhere ⊢
          exact ⟨[], char :: last, ⟨nofun, free_cons lastFree elsewhere⟩, rfl⟩
      | cons piece pieces =>
          obtain ⟨gap, inner⟩ := piece
          rw [List.forall_mem_cons] at parts
          have apart : ¬ Begins (char :: gap) := by
            intro begins
            have whole := begins.append (token inner ++ assembled pieces last)
            rw [List.cons_append, ← List.append_assoc] at whole
            rw [same] at elsewhere
            exact elsewhere whole
          refine ⟨(char :: gap, inner) :: pieces, last, ⟨?_, lastFree⟩, ?_⟩
          · exact List.forall_mem_cons.mpr ⟨⟨free_cons parts.1.1 apart, parts.1.2⟩, parts.2⟩
          · rw [same]
            rfl

def preceded (text : Text) : List (Text × Text) × Text → List (Text × Text) × Text
  | ([], last) => ([], text ++ last)
  | ((gap, inner) :: rest, last) => ((text ++ gap, inner) :: rest, last)

def gathered : List Segment → List (Text × Text) × Text
  | [] => ([], [])
  | .kept char :: rest => preceded [char] (gathered rest)
  | .placeholder inner :: rest => (([], inner) :: (gathered rest).1, (gathered rest).2)

private theorem preceded_cons (char : Char) (text : Text) (found : List (Text × Text) × Text) :
    preceded [char] (preceded text found) = preceded (char :: text) found := by
  obtain ⟨pieces, last⟩ := found
  cases pieces <;> rfl

private theorem gathered_kept_append (gap : Text) (rest : List Segment) :
    gathered (gap.map .kept ++ rest) = preceded gap (gathered rest) := by
  induction gap with
  | nil =>
      rw [List.map_nil, List.nil_append]
      obtain ⟨pieces, last⟩ := gathered rest
      cases pieces <;> rfl
  | cons char gap ih =>
      rw [List.map_cons, List.cons_append, gathered, ih, preceded_cons]

private theorem gathered_row (pieces : List (Text × Text)) (last : Text) :
    gathered (row pieces last) = (pieces, last) := by
  induction pieces with
  | nil =>
      have whole := gathered_kept_append last []
      rw [List.append_nil] at whole
      rw [row, whole, gathered, preceded, List.append_nil]
  | cons piece rest ih =>
      obtain ⟨gap, inner⟩ := piece
      rw [row, gathered_kept_append, gathered, ih, preceded, List.append_nil]

private theorem gathered_segments_assembled {pieces : List (Text × Text)} {last : Text}
    (assembles : Assembles pieces last) :
    gathered (segments (assembled pieces last)) = (pieces, last) := by
  rw [segments_assembled assembles, gathered_row]

private theorem length_places_row (offset : Nat) (pieces : List (Text × Text)) (last : Text) :
    (Segment.places offset (row pieces last)).length = pieces.length := by
  have found := inner_places offset (row pieces last)
  rw [filterMap_inner?_row] at found
  have lengths := congrArg List.length found
  rw [List.length_map, List.length_map] at lengths
  exact lengths

private theorem getElem?_places_row (before : List (Text × Text)) (gap inner : Text)
    (after : List (Text × Text)) (last : Text) :
    (Segment.places 0 (row (before ++ (gap, inner) :: after) last))[before.length]? =
      some ⟨(assembled before gap).utf8Length, inner⟩ := by
  have passed := length_places_row 0 before gap
  rw [row_append, places_append, flatMap_text_row, Nat.zero_add, List.getElem?_append_right,
    passed, Nat.sub_self]
  · rfl
  · exact Nat.le_of_eq passed

end JsonTemplate.Placeholder

namespace JsonTemplate.Decoding

open JsonTemplate.Placeholder
open JsonTemplate.Template (distinctInners occurrenceAt)

theorem path?_ofText_eq_some_iff (text given : Text) (path : Path) :
    (ofText text).path? given = some path ↔
      ∃ inner ∈ inners text, given = token inner ∧ path = Path.ofText inner := by
  have searched : (ofText text).path? given =
      ((distinctInners text).find? (fun inner => decide (token inner = given))).map
        Path.ofText := by
    rw [path?, Template.entries_ofText, List.find?_map, Option.map_map]
    rfl
  rw [searched, Option.map_eq_some_iff]
  constructor
  · intro found
    obtain ⟨inner, first, same⟩ := found
    have member := List.mem_of_find?_eq_some first
    have sameToken := List.find?_some first
    rw [distinctInners, Text.mem_firstAppearances_iff] at member
    rw [decide_eq_true_eq] at sameToken
    exact ⟨inner, member, sameToken.symm, same.symm⟩
  · intro listed
    obtain ⟨inner, member, sameToken, samePath⟩ := listed
    have distinct : inner ∈ distinctInners text :=
      (Text.mem_firstAppearances_iff (inners text) inner).mpr member
    cases first : (distinctInners text).find? (fun inner => decide (token inner = given)) with
    | none =>
        have missed := List.find?_eq_none.mp first inner distinct
        exact absurd (decide_eq_true sameToken.symm) missed
    | some other =>
        have sameOther := List.find?_some first
        rw [decide_eq_true_eq] at sameOther
        have equal : other = inner := token_injective (sameOther.trans sameToken)
        exact ⟨other, rfl, by rw [equal, samePath]⟩

/-- What a decoding finds in a text that was put together from pieces. -/
structure Recovers (pieces : List (Text × Text)) (decoding : Decoding) : Prop where
  count : decoding.occurrences.length = pieces.length
  /-- The placeholder of every piece is found behind the pieces before it and its gap. -/
  places : ∀ before gap inner after, pieces = before ++ (gap, inner) :: after →
    ∃ entry, decoding.tokens[entry]? = some (token inner) ∧
      decoding.occurrences[before.length]? =
        some ⟨(assembled before gap).utf8Length,
          (assembled before gap ++ token inner).utf8Length, entry⟩
  entries : decoding.entries =
    (Text.firstAppearances (pieces.map Prod.snd)).map
      (fun inner => ⟨token inner, Path.ofText inner⟩)
  paths : ∀ given path, decoding.path? given = some path ↔
    ∃ inner ∈ pieces.map Prod.snd, given = token inner ∧ path = Path.ofText inner

variable {pieces : List (Text × Text)} {last : Text}

theorem occurrences_assembled (assembles : Assembles pieces last) :
    (ofText (assembled pieces last)).occurrences =
      (Segment.places 0 (row pieces last)).map
        (occurrenceAt (distinctInners (assembled pieces last)).idxOf) := by
  rw [Template.occurrences_ofText, places_eq, segments_assembled assembles]

theorem recovers_assembled (assembles : Assembles pieces last) :
    Recovers pieces (ofText (assembled pieces last)) where
  count := by
    rw [occurrences_assembled assembles, List.length_map, length_places_row]
  places := by
    intro before gap inner after whole
    have found : inner ∈ distinctInners (assembled pieces last) := by
      rw [distinctInners, Text.mem_firstAppearances_iff, inners_assembled assembles, whole,
        List.map_append]
      exact List.mem_append_right _ List.mem_cons_self
    refine ⟨(distinctInners (assembled pieces last)).idxOf inner, ?_, ?_⟩
    · rw [tokens_ofText, List.getElem?_map, List.getElem?_idxOf found, Option.map_some]
    · have place := getElem?_places_row before gap inner after last
      rw [← whole] at place
      rw [occurrences_assembled assembles, List.getElem?_map, place, Option.map_some,
        occurrenceAt, Place.stop, Text.utf8Length_append]
  entries := by
    rw [Template.entries_ofText, distinctInners, inners_assembled assembles]
    rfl
  paths := by
    intro given path
    rw [path?_ofText_eq_some_iff, inners_assembled assembles]

/-- Decoding finds in an assembled text the placeholders that were put into it, where they
were put. Different pieces never make the same text. -/
theorem ofText_assembled :
    (∀ pieces last, Assembles pieces last →
      Recovers pieces (ofText (assembled pieces last))) ∧
    ∀ pieces last others otherLast, Assembles pieces last → Assembles others otherLast →
      (pieces, last) ≠ (others, otherLast) →
        assembled pieces last ≠ assembled others otherLast := by
  constructor
  · intro pieces last assembles
    exact recovers_assembled assembles
  · intro pieces last others otherLast assembles assemblesOthers different sameText
    apply different
    rw [← gathered_segments_assembled assembles, sameText,
      gathered_segments_assembled assemblesOthers]

/-- Gaps that end before a placeholder in the beginning of another one, and the end of one
behind a placeholder. -/
theorem ofText_assembled_sample :
    let pieces : List (Text × Text) :=
      [("é%(".toList, "b[".toList), ("a)%(abc".toList, "b.c".toList), ("%".toList, "b[".toList)]
    let others : List (Text × Text) := [("é%(".toList, "b[".toList)]
    let text := assembled pieces ")".toList
    (Assembles pieces ")".toList ∧ Recovers pieces (ofText text)) ∧
      (Assembles others [] ∧ text ≠ assembled others []) ∧
      (ofText text).occurrences = [⟨4, 9, 0⟩, ⟨16, 22, 1⟩, ⟨23, 28, 0⟩] := by
  intro pieces others text
  have assembles : Assembles pieces ")".toList := ⟨by decide, by decide⟩
  have assemblesOthers : Assembles others [] := ⟨by decide, by decide⟩
  exact ⟨⟨assembles, ofText_assembled.1 pieces _ assembles⟩,
    ⟨assemblesOthers,
      ofText_assembled.2 pieces _ others [] assembles assemblesOthers (by decide)⟩,
    by decide⟩

end JsonTemplate.Decoding
