import JsonTemplate.Proofs.Template.Filling
import JsonTemplate.Proofs.Text.Utf8

set_option autoImplicit false

/-! Decoding a text loses nothing and lists nothing else. What a decoding has to say is
stated on the bytes of the text, without a scan: every range of bytes that spells a
placeholder is listed. That the scan from left to right finds them all comes from the
grammar, where no placeholder begins inside another one. -/

namespace JsonTemplate.Placeholder

private theorem exists_of_mem_places {text : Text} {offset : Nat} {place : Place}
    (member : place ∈ Segment.places offset (segments text)) :
    IsPathText place.inner ∧
      ∃ before after, text = before ++ token place.inner ++ after ∧
        place.start = offset + before.utf8Length := by
  induction text using scan_induction generalizing offset with
  | nil => cases member
  | placeholder inner rest valid ih =>
      rw [segments_token_append valid, Segment.places, List.mem_cons] at member
      rcases member with rfl | later
      · exact ⟨valid, [], rest, rfl, rfl⟩
      · obtain ⟨validPlace, before, after, same, start⟩ := ih later
        refine ⟨validPlace, token inner ++ before, after, ?_, ?_⟩
        · rw [same]
          simp only [List.append_assoc]
        · rw [start, Text.utf8Length_append, Nat.add_assoc]
  | kept char rest elsewhere ih =>
      rw [segments_cons elsewhere, Segment.places] at member
      obtain ⟨validPlace, before, after, same, start⟩ := ih member
      refine ⟨validPlace, char :: before, after, by rw [same]; rfl, ?_⟩
      rw [start, Text.utf8Length_cons, Nat.add_assoc]

theorem mem_places_iff (text : Text) (place : Place) :
    place ∈ places text ↔
      IsPathText place.inner ∧
        ∃ before after, text = before ++ token place.inner ++ after ∧
          place.start = before.utf8Length := by
  rw [places_eq]
  constructor
  · intro member
    have around := exists_of_mem_places member
    simpa only [Nat.zero_add] using around
  · rintro ⟨valid, before, after, same, start⟩
    rw [same, segments_around valid, places_append, flatMap_text_segments, Nat.zero_add,
      List.mem_append, Segment.places, List.mem_cons, ← start]
    exact Or.inr (Or.inl rfl)

private theorem places_pairwise (offset : Nat) (row : List Segment) :
    (Segment.places offset row).Pairwise (fun left right => left.stop ≤ right.start) := by
  induction row generalizing offset with
  | nil => exact List.Pairwise.nil
  | cons segment rest ih =>
      cases segment with
      | kept char => exact ih _
      | placeholder inner =>
          rw [Segment.places, List.pairwise_cons]
          constructor
          · intro later member
            exact le_start_of_mem_places member
          · exact ih _

private theorem start_lt_stop (place : Place) : place.start < place.stop := by
  have positive : 0 < Text.utf8Length (token place.inner) := by
    have first := Char.utf8Size_pos '%'
    simp only [token, List.cons_append, Text.utf8Length_cons]
    omega
  rw [Place.stop]
  omega

private theorem ascii_of_isPathChar {char : Char} (inside : isPathChar char = true) :
    char.toNat < 128 := by
  rw [isPathChar, Bool.or_eq_true] at inside
  rcases inside with alphanumeric | listed
  · have kinds : (char.isUpper = true ∨ char.isLower = true) ∨ char.isDigit = true := by
      rw [← Bool.or_eq_true, ← Bool.or_eq_true]
      exact alphanumeric
    have atMost : ∀ last : Char, char.val ≤ last.val → char.toNat ≤ last.toNat :=
      fun last bound => UInt32.le_iff_toNat_le.mp bound
    rcases kinds with (upper | lower) | digit
    · have bound := atMost 'Z' (of_decide_eq_true upper).2
      exact Nat.lt_of_le_of_lt bound (by decide)
    · have bound := atMost 'z' (of_decide_eq_true ((Bool.and_eq_true _ _).mp lower).2)
      exact Nat.lt_of_le_of_lt bound (by decide)
    · have bound := atMost '9' (of_decide_eq_true ((Bool.and_eq_true _ _).mp digit).2)
      exact Nat.lt_of_le_of_lt bound (by decide)
  · rw [List.contains_iff_mem] at listed
    simp only [List.mem_cons, List.not_mem_nil, or_false] at listed
    rcases listed with rfl | rfl | rfl | rfl | rfl | rfl | rfl <;> decide

private theorem ascii_token {inner : Text} (valid : IsPathText inner) :
    ∀ char ∈ token inner, char.toNat < 128 := by
  intro char member
  simp only [token, List.cons_append, List.mem_cons, List.mem_append, List.not_mem_nil,
    or_false] at member
  rcases member with rfl | rfl | inside | rfl
  · decide
  · decide
  · exact ascii_of_isPathChar (valid.2 char inside)
  · decide

def SpellsAt (text : Text) (start stop : Nat) : Prop :=
  ∃ before inner after, IsPathText inner ∧
    text.utf8 = before ++ (token inner).utf8 ++ after ∧
    start = before.length ∧ stop = (before ++ (token inner).utf8).length

/-- A range of bytes that spells a placeholder begins and ends between characters. -/
theorem spellsAt_iff (text : Text) (start stop : Nat) :
    SpellsAt text start stop ↔
      ∃ before inner after, IsPathText inner ∧ text = before ++ token inner ++ after ∧
        start = before.utf8Length ∧ stop = (before ++ token inner).utf8Length := by
  constructor
  · rintro ⟨beforeBytes, inner, afterBytes, valid, bytes, begins, ends⟩
    obtain ⟨before, after, same, rfl, -⟩ :=
      Text.exists_append_of_utf8 (token_ne_nil inner) (ascii_token valid) bytes
    refine ⟨before, inner, after, valid, same, ?_, ?_⟩
    · rw [begins, Text.length_utf8]
    · rw [ends, List.length_append, Text.length_utf8, Text.length_utf8, Text.utf8Length_append]
  · rintro ⟨before, inner, after, valid, rfl, begins, ends⟩
    refine ⟨before.utf8, inner, after.utf8, valid, ?_, ?_, ?_⟩
    · rw [Text.utf8_append, Text.utf8_append]
    · rw [begins, Text.length_utf8]
    · rw [ends, List.length_append, Text.length_utf8, Text.length_utf8, Text.utf8Length_append]

end JsonTemplate.Placeholder

namespace JsonTemplate.Decoding

open JsonTemplate.Placeholder
open JsonTemplate.Template (distinctInners entryOf occurrenceAt)

def textAt (text : Text) (occurrence : Occurrence) : Text :=
  Text.sliceBytes occurrence.start occurrence.stop text

structure Exact (text : Text) (decoding : Decoding) : Prop where
  /-- The ranges of the occurrences are those that spell a placeholder. -/
  ranges : ∀ start stop,
    (∃ entry, ⟨start, stop, entry⟩ ∈ decoding.occurrences) ↔ SpellsAt text start stop
  /-- They stand in increasing order and do not overlap, so that each is listed once. -/
  ordered : decoding.occurrences.Pairwise (fun left right => left.stop ≤ right.start)
  nonempty : ∀ occurrence ∈ decoding.occurrences, occurrence.start < occurrence.stop
  /-- They begin and end between two characters of the text. -/
  boundaries : ∀ occurrence ∈ decoding.occurrences, ∃ before after,
    text = before ++ textAt text occurrence ++ after ∧
      occurrence.start = before.utf8Length ∧
      occurrence.stop = (before ++ textAt text occurrence).utf8Length
  /-- The gaps between them with the tokens put between the gaps are the text. -/
  gaps : Template.splice text decoding.tokens 0 decoding.occurrences = text
  distinct : decoding.tokens.Nodup
  /-- The tokens are the texts of the occurrences. -/
  tokens : ∀ token, token ∈ decoding.tokens ↔ token ∈ decoding.occurrences.map (textAt text)
  /-- Of two tokens the one that appears first stands first. -/
  order : decoding.tokens.Pairwise (fun left right =>
    (decoding.occurrences.map (textAt text)).idxOf left <
      (decoding.occurrences.map (textAt text)).idxOf right)
  /-- The position that an occurrence states is that of its own token. -/
  positions : ∀ occurrence ∈ decoding.occurrences,
    decoding.tokens[occurrence.entry]? = some (textAt text occurrence)
  /-- The path of an entry is the one that stands between the parentheses of its token. -/
  paths : ∀ entry ∈ decoding.entries, entry.path.steps ≠ [] ∧
    ∃ inner, entry.token = token inner ∧ entry.path = Path.ofText inner

theorem tokens_ofText (text : Text) :
    (ofText text).tokens = (distinctInners text).map token := by
  rw [tokens, Template.entries_ofText, List.map_map]
  rfl

theorem tokens_nodup (text : Text) : (ofText text).tokens.Nodup := by
  rw [tokens_ofText]
  refine List.Pairwise.map token ?_ (Text.firstAppearances_nodup (inners text))
  intro left right different same
  exact different (token_injective same)

private theorem textAt_occurrenceAt (position : Text → Nat) {text : Text} {place : Place}
    (member : place ∈ places text) :
    textAt text (occurrenceAt position place) = token place.inner := by
  obtain ⟨-, before, after, same, start⟩ := (mem_places_iff text place).mp member
  have cut := Template.sliceBytes_between before (token place.inner) after
  rw [← same, Text.utf8Length_append, ← start] at cut
  exact cut

private theorem map_textAt_occurrences (text : Text) :
    (ofText text).occurrences.map (textAt text) = (inners text).map token := by
  rw [Template.occurrences_ofText, List.map_map, ← Template.map_inner_places, List.map_map]
  apply List.map_congr_left
  intro place member
  exact textAt_occurrenceAt _ member

private theorem idxOf_map_token (inners : List Text) (inner : Text) :
    (inners.map token).idxOf (token inner) = inners.idxOf inner := by
  induction inners with
  | nil => rfl
  | cons head rest ih =>
      by_cases same : head = inner
      · rw [same, List.map_cons, List.idxOf_cons_self, List.idxOf_cons_self]
      · have different : token head ≠ token inner := fun equal => same (token_injective equal)
        rw [List.map_cons, List.idxOf_cons_ne _ different, List.idxOf_cons_ne _ same, ih]

/-- The decoding of a text says what there is to say about it, and nothing else. -/
theorem ofText_exact (text : Text) : (ofText text).Exact text where
  ranges := by
    intro start stop
    rw [spellsAt_iff, Template.occurrences_ofText]
    constructor
    · rintro ⟨entry, member⟩
      obtain ⟨place, placed, same⟩ := List.mem_map.mp member
      obtain ⟨valid, before, after, whole, begins⟩ := (mem_places_iff text place).mp placed
      obtain ⟨rfl, rfl, -⟩ := Occurrence.mk.inj same
      refine ⟨before, place.inner, after, valid, whole, begins, ?_⟩
      rw [Place.stop, begins, Text.utf8Length_append]
    · rintro ⟨before, inner, after, valid, whole, rfl, rfl⟩
      have placed : ⟨before.utf8Length, inner⟩ ∈ places text :=
        (mem_places_iff text ⟨_, inner⟩).mpr ⟨valid, before, after, whole, rfl⟩
      refine ⟨(distinctInners text).idxOf inner, List.mem_map.mpr ⟨_, placed, ?_⟩⟩
      rw [occurrenceAt, Place.stop, Text.utf8Length_append]
  ordered := by
    rw [Template.occurrences_ofText, places_eq]
    exact (places_pairwise 0 (segments text)).map _ (fun _ _ before => before)
  nonempty := by
    intro occurrence member
    rw [Template.occurrences_ofText] at member
    obtain ⟨place, -, rfl⟩ := List.mem_map.mp member
    exact start_lt_stop place
  boundaries := by
    intro occurrence member
    rw [Template.occurrences_ofText] at member
    obtain ⟨place, placed, rfl⟩ := List.mem_map.mp member
    rw [textAt_occurrenceAt _ placed]
    obtain ⟨-, before, after, whole, begins⟩ := (mem_places_iff text place).mp placed
    refine ⟨before, after, whole, begins, ?_⟩
    rw [occurrenceAt, Place.stop, begins, Text.utf8Length_append]
  gaps := by
    rw [tokens_ofText, Template.splice_occurrences]
    exact flatMap_text_segments text
  distinct := tokens_nodup text
  tokens := by
    intro found
    rw [tokens_ofText, map_textAt_occurrences, List.mem_map, List.mem_map]
    simp only [distinctInners, Text.mem_firstAppearances_iff]
  order := by
    rw [tokens_ofText, map_textAt_occurrences]
    refine List.Pairwise.map token ?_ (Text.firstAppearances_pairwise (inners text))
    intro left right before
    rw [idxOf_map_token, idxOf_map_token]
    exact before
  positions := by
    intro occurrence member
    rw [Template.occurrences_ofText] at member
    obtain ⟨place, placed, rfl⟩ := List.mem_map.mp member
    have found : place.inner ∈ distinctInners text := by
      rw [distinctInners, Text.mem_firstAppearances_iff, ← Template.map_inner_places]
      exact List.mem_map_of_mem placed
    rw [textAt_occurrenceAt _ placed, tokens_ofText, List.getElem?_map]
    simp only [occurrenceAt, List.getElem?_idxOf found, Option.map_some]
  paths := by
    intro entry member
    rw [Template.entries_ofText] at member
    obtain ⟨inner, -, rfl⟩ := List.mem_map.mp member
    exact ⟨Path.steps_ofText_ne_nil inner, inner, rfl, rfl⟩

end JsonTemplate.Decoding
