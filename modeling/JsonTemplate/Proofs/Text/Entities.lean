import JsonTemplate.Text.Replace
import Mathlib.Data.List.Infix

set_option autoImplicit false

/-! Escaping and unescaping as one pass each. The rows of replacements come to the same as writing,
for each character by itself, its entity or the character as it stands, because no entity holds a
character that is replaced after it. So an escaped text can stand in markup: its reserved
characters are gone, and what looks like the beginning of an entity is one. Replacing one entity
after the other everywhere comes to the same as reading the text once from left to right, because
no replacement makes a new entity. Escaping is undone by unescaping, and unescaping by escaping
exactly on the texts that can stand in markup. -/

namespace JsonTemplate.Text.Entities

def written (table : List (Char × Text)) (char : Char) : Text :=
  (table.lookup char).getD [char]

/-- Whether no entity of a table holds a character that comes later in the table. -/
def Settled (table : List (Char × Text)) : Prop :=
  table.Pairwise (fun earlier later => later.1 ∉ earlier.2)

instance (table : List (Char × Text)) : Decidable (Settled table) :=
  inferInstanceAs (Decidable (table.Pairwise _))

private theorem written_cons_self (char : Char) (entity : Text) (table : List (Char × Text)) :
    written ((char, entity) :: table) char = entity := by
  rw [written, List.lookup_cons_self, Option.getD_some]

private theorem written_cons_ne {char other : Char} (different : other ≠ char) (entity : Text)
    (table : List (Char × Text)) :
    written ((char, entity) :: table) other = written table other := by
  rw [written, List.lookup_cons, beq_false_of_ne different]
  rfl

theorem written_cases (table : List (Char × Text)) (char : Char) :
    (∃ entry ∈ table, entry.1 = char ∧ written table char = entry.2) ∨
      (char ∉ table.map Prod.fst ∧ written table char = [char]) := by
  induction table with
  | nil => exact Or.inr ⟨List.not_mem_nil, rfl⟩
  | cons entry table ih =>
      by_cases same : char = entry.1
      · rw [same]
        exact Or.inl ⟨entry, List.mem_cons_self, rfl, written_cons_self _ _ _⟩
      · rw [written_cons_ne same, List.map_cons, List.mem_cons, not_or]
        rcases ih with ⟨found, member, key, writes⟩ | ⟨absent, writes⟩
        · exact Or.inl ⟨found, List.mem_cons_of_mem _ member, key, writes⟩
        · exact Or.inr ⟨⟨same, absent⟩, writes⟩

private theorem flatMap_written_of_disjoint {table : List (Char × Text)} {text : Text}
    (disjoint : ∀ entry ∈ table, entry.1 ∉ text) : text.flatMap (written table) = text := by
  have single : ∀ char ∈ text, written table char = [char] := by
    intro char member
    rcases written_cases table char with ⟨entry, listed, rfl, -⟩ | ⟨-, writes⟩
    · exact absurd member (disjoint entry listed)
    · exact writes
  rw [List.flatMap_congr single]
  exact List.flatMap_pure_eq_map _ _ |>.trans (List.map_id _)

/-- Escaping one character after the other everywhere writes each character by itself. -/
theorem escapeWith_eq_flatMap {table : List (Char × Text)} (settled : Settled table)
    (text : Text) : escapeWith table text = text.flatMap (written table) := by
  induction table generalizing text with
  | nil =>
      have none : ∀ entry ∈ ([] : List (Char × Text)), entry.1 ∉ text := by simp
      exact (flatMap_written_of_disjoint none).symm
  | cons entry table ih =>
      obtain ⟨char, entity⟩ := entry
      obtain ⟨disjoint, later⟩ := List.pairwise_cons.mp settled
      change escapeWith table (replaceAll [char] entity text) = _
      rw [ih later, replaceAll_singleton, List.flatMap_assoc]
      apply List.flatMap_congr
      intro other _
      by_cases same : other = char
      · rw [if_pos same, same, written_cons_self, flatMap_written_of_disjoint disjoint]
      · rw [if_neg same, written_cons_ne same, List.flatMap_singleton]

private theorem settled_entities : Settled entities := by decide

private theorem settled_tagEntities : Settled tagEntities := by decide

theorem escape_eq_flatMap (text : Text) : escape text = text.flatMap (written entities) :=
  escapeWith_eq_flatMap settled_entities text

theorem escapeTags_eq_flatMap (text : Text) :
    escapeTags text = text.flatMap (written tagEntities) :=
  escapeWith_eq_flatMap settled_tagEntities text

/-- Whether a text can stand in markup: only the ampersand of the reserved characters is in
it, and every ampersand begins an entity. -/
structure Escaped (text : Text) : Prop where
  unreserved : ∀ char ∈ ['<', '>', '"', '\''], char ∉ text
  entities : ∀ rest, '&' :: rest <:+ text → ∃ entity ∈ entities, entity.2 <+: '&' :: rest

theorem escaped_of_disjoint {text : Text} (disjoint : ∀ entry ∈ entities, entry.1 ∉ text) :
    Escaped text where
  unreserved := by
    intro char reserved
    have listed : ∀ char ∈ ['<', '>', '"', '\''], ∃ entry ∈ entities, entry.1 = char := by
      simp [entities, ampersand, others]
    obtain ⟨entry, member, rfl⟩ := listed char reserved
    exact disjoint entry member
  entities := by
    intro rest suffix
    have absent : '&' ∉ text := disjoint ('&', "&amp;".toList) List.mem_cons_self
    exact absurd (suffix.subset List.mem_cons_self) absent

theorem Escaped.append {left right : Text} (leftEscaped : Escaped left)
    (rightEscaped : Escaped right) : Escaped (left ++ right) where
  unreserved := by
    intro char reserved
    rw [List.mem_append, not_or]
    exact ⟨leftEscaped.unreserved char reserved, rightEscaped.unreserved char reserved⟩
  entities := by
    intro rest suffix
    obtain ⟨before, same⟩ := suffix
    rcases List.append_eq_append_iff.mp same with ⟨tail, leftSame, rightSame⟩ | ⟨more, -, inside⟩
    · -- The ampersand stands in the left text, unless that text ends right before it.
      cases tail with
      | nil => exact rightEscaped.entities rest ⟨[], rightSame⟩
      | cons char tail =>
          obtain ⟨rfl, rfl⟩ := List.cons.inj rightSame
          obtain ⟨entity, member, begins⟩ := leftEscaped.entities tail ⟨before, leftSame.symm⟩
          exact ⟨entity, member, begins.trans (List.prefix_append _ _)⟩
    · exact rightEscaped.entities rest ⟨more, inside.symm⟩

private theorem escaped_flatMap {pieces : Char → Text} (each : ∀ char, Escaped (pieces char))
    (text : Text) : Escaped (text.flatMap pieces) := by
  induction text with
  | nil => exact escaped_of_disjoint (by simp)
  | cons char rest ih => exact (each char).append ih

private theorem escaped_of_mem_entities {entity : Char × Text} (member : entity ∈ entities) :
    Escaped entity.2 where
  unreserved := by
    have all : ∀ entity ∈ entities, ∀ char ∈ ['<', '>', '"', '\''], char ∉ entity.2 := by
      simp [entities, ampersand, others]
    exact all entity member
  entities := by
    -- The ampersand of an entity is its first character, so that the suffix is all of it.
    have first : ∀ entity ∈ entities, ∃ tail, entity.2 = '&' :: tail ∧ '&' ∉ tail := by
      have headed : ∀ entity ∈ entities,
          entity.2 = '&' :: entity.2.tail ∧ '&' ∉ entity.2.tail := by decide
      intro entity member
      exact ⟨_, headed entity member⟩
    obtain ⟨tail, whole, absent⟩ := first entity member
    intro rest suffix
    refine ⟨entity, member, ?_⟩
    rw [whole] at suffix ⊢
    rcases List.suffix_cons_iff.mp suffix with same | inside
    · rw [same]
    · exact absurd (inside.subset List.mem_cons_self) absent

private theorem escaped_written (char : Char) : Escaped (written entities char) := by
  rcases written_cases entities char with ⟨entry, listed, -, writes⟩ | ⟨absent, writes⟩
  · rw [writes]
    exact escaped_of_mem_entities listed
  · rw [writes]
    apply escaped_of_disjoint
    intro entry listed inside
    rw [← List.mem_singleton.mp inside] at absent
    exact absent (List.mem_map_of_mem listed)

theorem escaped_escape (text : Text) : Escaped (escape text) := by
  rw [escape_eq_flatMap]
  exact escaped_flatMap escaped_written text

private theorem not_mem_flatMap_written {table : List (Char × Text)} {char : Char}
    (replaced : char ∈ table.map Prod.fst) (unwritten : ∀ entry ∈ table, char ∉ entry.2)
    (text : Text) : char ∉ text.flatMap (written table) := by
  intro member
  obtain ⟨source, -, inside⟩ := List.mem_flatMap.mp member
  rcases written_cases table source with ⟨entry, listed, -, writes⟩ | ⟨absent, writes⟩
  · rw [writes] at inside
    exact unwritten entry listed inside
  · rw [writes, List.mem_singleton] at inside
    rw [inside] at replaced
    exact absent replaced

theorem not_mem_escapeTags (text : Text) :
    '<' ∉ escapeTags text ∧ '>' ∉ escapeTags text := by
  rw [escapeTags_eq_flatMap]
  exact ⟨not_mem_flatMap_written (by decide) (by decide) text,
    not_mem_flatMap_written (by decide) (by decide) text⟩

/-- A character as it is written in markup. -/
def markup : Char → Text
  | '&' => "&amp;".toList
  | '"' => "&quot;".toList
  | '\'' => "&apos;".toList
  | '<' => "&lt;".toList
  | '>' => "&gt;".toList
  | char => [char]

/-- What a text of markup says, read once from left to right. -/
def readOnce : Text → Text
  | '&' :: 'q' :: 'u' :: 'o' :: 't' :: ';' :: rest => '"' :: readOnce rest
  | '&' :: 'a' :: 'p' :: 'o' :: 's' :: ';' :: rest => '\'' :: readOnce rest
  | '&' :: 'l' :: 't' :: ';' :: rest => '<' :: readOnce rest
  | '&' :: 'g' :: 't' :: ';' :: rest => '>' :: readOnce rest
  | '&' :: 'a' :: 'm' :: 'p' :: ';' :: rest => '&' :: readOnce rest
  | char :: rest => char :: readOnce rest
  | [] => []

private theorem written_of_not_mem {table : List (Char × Text)} {char : Char}
    (absent : char ∉ table.map Prod.fst) : written table char = [char] := by
  rcases written_cases table char with ⟨entry, listed, rfl, -⟩ | ⟨-, writes⟩
  · exact absurd (List.mem_map_of_mem listed) absent
  · exact writes

private theorem written_entities (char : Char) : written entities char = markup char := by
  unfold markup
  split <;> try rfl
  rename_i amp quot apos lt gt
  have absent : char ∉ entities.map Prod.fst := by
    simp only [entities, ampersand, others, List.map_cons, List.map_nil, List.mem_cons,
      List.not_mem_nil, or_false, not_or]
    exact ⟨amp, quot, apos, lt, gt⟩
  exact written_of_not_mem absent

/-- How a text is read from left to right with a table: an entity of the table where one
begins, else a character as it stands. -/
inductive Reads (table : List (Char × Text)) : Text → Text → Prop where
  | nil : Reads table [] []
  | entity {entry : Char × Text} {rest read : Text} (listed : entry ∈ table)
      (further : Reads table rest read) : Reads table (entry.2 ++ rest) (entry.1 :: read)
  | plain {char : Char} {rest read : Text} (none : ∀ entry ∈ table, ¬ entry.2 <+: char :: rest)
      (further : Reads table rest read) : Reads table (char :: rest) (char :: read)

def Headed (table : List (Char × Text)) : Prop :=
  ∀ entry ∈ table, entry.2.head? = some '&' ∧ '&' ∉ entry.2.tail

instance (table : List (Char × Text)) : Decidable (Headed table) :=
  inferInstanceAs (Decidable (∀ entry ∈ table, entry.2.head? = some '&' ∧ '&' ∉ entry.2.tail))

private theorem Headed.exists_tail {table : List (Char × Text)} (headed : Headed table)
    {entry : Char × Text} (listed : entry ∈ table) :
    ∃ tail, entry.2 = '&' :: tail ∧ '&' ∉ tail := by
  obtain ⟨head, absent⟩ := headed entry listed
  exact ⟨entry.2.tail, (List.cons_head?_tail head).symm, absent⟩

private theorem Headed.of_cons {table : List (Char × Text)} {entry : Char × Text}
    (headed : Headed (entry :: table)) : Headed table := fun other listed =>
  headed other (List.mem_cons_of_mem _ listed)

private theorem Headed.not_begins {table : List (Char × Text)} (headed : Headed table) {char : Char}
    (other : char ≠ '&') (rest : Text) : ∀ entry ∈ table, ¬ entry.2 <+: char :: rest := by
  intro entry listed begins
  obtain ⟨tail, whole, -⟩ := headed.exists_tail listed
  rw [whole, List.cons_prefix_cons] at begins
  exact other begins.1.symm

/-- Text without ampersands is read as it stands, and the reading goes on after it. -/
theorem Reads.of_append {table : List (Char × Text)} (headed : Headed table)
    {first rest read : Text} (absent : '&' ∉ first) (reads : Reads table (first ++ rest) read) :
    ∃ later, read = first ++ later ∧ Reads table rest later := by
  induction first generalizing read with
  | nil => exact ⟨read, rfl, reads⟩
  | cons char first ih =>
      rw [List.mem_cons, not_or] at absent
      rw [List.cons_append] at reads
      generalize whole : char :: (first ++ rest) = text at reads
      cases reads with
      | nil => cases whole
      | entity listed further =>
          obtain ⟨tail, begins, -⟩ := headed.exists_tail listed
          rw [begins, List.cons_append] at whole
          exact absurd (List.cons.inj whole).1.symm absent.1
      | plain none further =>
          obtain ⟨rfl, rfl⟩ := List.cons.inj whole
          obtain ⟨later, same, reads⟩ := ih absent.2 further
          exact ⟨later, by rw [same, List.cons_append], reads⟩

/-- What a reading begins with stood in the text already, if it holds no character that an
entity was read as. -/
private theorem Reads.begins_of_begins {table : List (Char × Text)} {text read pattern : Text}
    (reads : Reads table text read) (unread : ∀ entry ∈ table, entry.1 ∉ pattern)
    (begins : pattern <+: read) : pattern <+: text := by
  induction reads generalizing pattern with
  | nil => exact begins
  | @entity entry rest read listed further ih =>
      cases pattern with
      | nil => exact List.nil_prefix
      | cons char pattern =>
          rw [List.cons_prefix_cons] at begins
          rw [begins.1] at unread
          exact absurd List.mem_cons_self (unread entry listed)
  | @plain head rest read none further ih =>
      cases pattern with
      | nil => exact List.nil_prefix
      | cons char pattern =>
          rw [List.cons_prefix_cons] at begins ⊢
          have later : ∀ entry ∈ table, entry.1 ∉ pattern := fun entry listed inside =>
            unread entry listed (List.mem_cons_of_mem _ inside)
          exact ⟨begins.1, ih later begins.2⟩

private theorem Reads.congr {table other : List (Char × Text)}
    (same : ∀ entry, entry ∈ table ↔ entry ∈ other) {text read : Text}
    (reads : Reads table text read) : Reads other text read := by
  induction reads with
  | nil => exact .nil
  | @entity entry rest read listed further ih => exact .entity ((same entry).mp listed) ih
  | plain none further ih =>
      exact .plain (fun entry listed => none entry ((same entry).mpr listed)) ih

private theorem replaceAll_of_not_begins {pattern replacement rest : Text} {char : Char}
    (elsewhere : ¬ pattern <+: char :: rest) :
    replaceAll pattern replacement (char :: rest) =
      char :: replaceAll pattern replacement rest := by
  rw [← List.isPrefixOf_iff_prefix, Bool.not_eq_true] at elsewhere
  exact replaceAll_cons _ _ _ _ elsewhere

private theorem replaceAll_append_of_head_not_mem {head : Char} {tail replacement first rest : Text}
    (absent : head ∉ first) :
    replaceAll (head :: tail) replacement (first ++ rest) =
      first ++ replaceAll (head :: tail) replacement rest := by
  induction first with
  | nil => rfl
  | cons char first ih =>
      rw [List.mem_cons, not_or] at absent
      have elsewhere : ¬ head :: tail <+: char :: (first ++ rest) := by
        rw [List.cons_prefix_cons]
        exact fun begins => absent.1 begins.1
      rw [List.cons_append, replaceAll_of_not_begins elsewhere, ih absent.2, List.cons_append]

/-- Replacing one more entity in what was read is reading with one more entity. -/
theorem Reads.replaceAll {table : List (Char × Text)} {entry : Char × Text}
    (headed : Headed (entry :: table)) (unread : ∀ later ∈ table, later.1 ∉ entry.2)
    {text read : Text} (reads : Reads table text read) :
    Reads (entry :: table) text (replaceAll entry.2 [entry.1] read) := by
  obtain ⟨tail, whole, absent⟩ := headed.exists_tail List.mem_cons_self
  induction reads with
  | nil => exact .nil
  | @entity other rest read listed further ih =>
      have elsewhere : ¬ entry.2 <+: other.1 :: read := by
        intro begins
        rw [whole, List.cons_prefix_cons] at begins
        apply unread other listed
        rw [whole, begins.1]
        exact List.mem_cons_self
      rw [replaceAll_of_not_begins elsewhere]
      exact .entity (List.mem_cons_of_mem _ listed) ih
  | @plain char rest read none further ih =>
      by_cases begins : entry.2 <+: char :: rest
      · -- The entity stands in the text: the rest of it was read as it stands.
        obtain ⟨more, same⟩ := begins
        rw [whole, List.cons_append] at same
        obtain ⟨rfl, rfl⟩ := List.cons.inj same
        obtain ⟨later, rfl, -⟩ := further.of_append headed.of_cons absent
        rw [whole, replaceAll_append_of_head_not_mem absent, ← whole] at ih
        obtain ⟨last, sameLast, reads⟩ := ih.of_append headed absent
        obtain rfl := List.append_cancel_left sameLast
        rw [← List.cons_append, ← List.cons_append, ← whole,
          replaceAll_append entry.2 [entry.1] later (by rw [whole]; exact List.cons_ne_nil _ _)]
        exact .entity List.mem_cons_self reads
      · -- No entity stands there, and none has come about in what was read.
        have elsewhere : ¬ entry.2 <+: char :: read := fun prefixed =>
          begins ((Reads.plain none further).begins_of_begins unread prefixed)
        rw [replaceAll_of_not_begins elsewhere]
        exact .plain (List.forall_mem_cons.mpr ⟨begins, none⟩) ih

/-- The entity that is replaced last comes first in the table of what was read. -/
theorem reads_unescapeWith {table : List (Char × Text)} (headed : Headed table.reverse)
    (settled : Settled table.reverse) (text : Text) :
    Reads table.reverse text (unescapeWith table text) := by
  rw [unescapeWith, List.foldl_eq_foldr_reverse]
  generalize table.reverse = read at headed settled ⊢
  induction read with
  | nil =>
      induction text with
      | nil => exact .nil
      | cons char rest ih => exact .plain nofun ih
  | cons entry table ih =>
      obtain ⟨unread, later⟩ := List.pairwise_cons.mp settled
      exact (ih headed.of_cons later).replaceAll headed unread

private theorem headed_entities : Headed entities := by decide

private theorem readOnce_entity {entry : Char × Text} (listed : entry ∈ entities) (rest : Text) :
    readOnce (entry.2 ++ rest) = entry.1 :: readOnce rest := by
  simp only [entities, ampersand, others, List.mem_cons, List.not_mem_nil, or_false] at listed
  rcases listed with rfl | rfl | rfl | rfl | rfl <;> rfl

private theorem readOnce_plain {char : Char} {rest : Text}
    (none : ∀ entry ∈ entities, ¬ entry.2 <+: char :: rest) :
    readOnce (char :: rest) = char :: readOnce rest := by
  rw [readOnce]
  all_goals rintro later rfl rfl
  · exact none ('"', "&quot;".toList) (by decide) ⟨later, rfl⟩
  · exact none ('\'', "&apos;".toList) (by decide) ⟨later, rfl⟩
  · exact none ('<', "&lt;".toList) (by decide) ⟨later, rfl⟩
  · exact none ('>', "&gt;".toList) (by decide) ⟨later, rfl⟩
  · exact none ('&', "&amp;".toList) (by decide) ⟨later, rfl⟩

private theorem readOnce_of_reads {text read : Text} (reads : Reads entities text read) :
    readOnce text = read := by
  induction reads with
  | nil => rfl
  | entity listed further ih => rw [readOnce_entity listed, ih]
  | plain none further ih => rw [readOnce_plain none, ih]

/-- The ampersand has to come last, and the others may be replaced in any order. -/
theorem reads_unescapeWith_of_perm {order : List (Char × Text)} (ordered : order.Perm others)
    (text : Text) : Reads entities text (unescapeWith (order ++ [ampersand]) text) := by
  have reversed : (order ++ [ampersand]).reverse = ampersand :: order.reverse :=
    List.reverse_concat
  have same : (order ++ [ampersand]).reverse.Perm entities := by
    rw [reversed]
    exact (order.reverse_perm.trans ordered).cons ampersand
  have headed : Headed (order ++ [ampersand]).reverse := fun entry listed =>
    headed_entities entry (same.subset listed)
  have unwritten : ∀ later ∈ others, ∀ earlier ∈ entities, later.1 ∉ earlier.2 := by decide
  have among : ∀ entry ∈ order.reverse, entry ∈ others := fun entry listed =>
    ordered.subset (List.mem_reverse.mp listed)
  have settled : Settled (order ++ [ampersand]).reverse := by
    rw [reversed]
    refine List.pairwise_cons.mpr ⟨?_, List.pairwise_of_forall_mem_list ?_⟩
    · intro later listed
      exact unwritten later (among later listed) ampersand List.mem_cons_self
    · intro earlier before later listed
      exact unwritten later (among later listed) earlier
        (List.mem_cons_of_mem ampersand (among earlier before))
  exact (reads_unescapeWith headed settled text).congr fun entry => same.mem_iff

private theorem reads_unescape (text : Text) : Reads entities text (unescape text) :=
  reads_unescapeWith_of_perm (List.Perm.refl others) text

theorem unescape_eq_readOnce (text : Text) : unescape text = readOnce text :=
  (readOnce_of_reads (reads_unescape text)).symm

theorem reads_escape (text : Text) : Reads entities (escape text) text := by
  rw [escape_eq_flatMap]
  induction text with
  | nil => exact .nil
  | cons char rest ih =>
      rw [List.flatMap_cons]
      rcases written_cases entities char with ⟨entry, listed, rfl, writes⟩ | ⟨absent, writes⟩
      · rw [writes]
        exact .entity listed ih
      · rw [writes]
        have other : char ≠ '&' := by
          rintro rfl
          exact absent (by decide)
        exact .plain (headed_entities.not_begins other _) ih

theorem Escaped.of_suffix {text rest : Text} (escaped : Escaped text) (suffix : rest <:+ text) :
    Escaped rest where
  unreserved := fun char reserved inside =>
    escaped.unreserved char reserved (suffix.subset inside)
  entities := fun later inside => escaped.entities later (inside.trans suffix)

private theorem written_of_mem : ∀ entry ∈ entities, written entities entry.1 = entry.2 := by decide

private theorem not_mem_of_escaped {char : Char} {rest : Text} (escaped : Escaped (char :: rest))
    (none : ∀ entry ∈ entities, ¬ entry.2 <+: char :: rest) : char ∉ entities.map Prod.fst := by
  intro reserved
  by_cases ampersand : char = '&'
  · subst ampersand
    obtain ⟨entry, listed, begins⟩ := escaped.entities rest (List.suffix_refl _)
    exact none entry listed begins
  · have others : char ∈ ['<', '>', '"', '\''] := by
      simp only [entities, others, List.map_cons, List.map_nil, List.mem_cons, List.not_mem_nil,
        or_false]
        at reserved ⊢
      tauto
    exact escaped.unreserved char others List.mem_cons_self

private theorem escape_of_reads {text read : Text} (reads : Reads entities text read)
    (escaped : Escaped text) : escape read = text := by
  rw [escape_eq_flatMap]
  induction reads with
  | nil => rfl
  | @entity entry rest read listed further ih =>
      rw [List.flatMap_cons, written_of_mem entry listed,
        ih (escaped.of_suffix (List.suffix_append _ _))]
  | @plain char rest read none further ih =>
      rw [List.flatMap_cons, written_of_not_mem (not_mem_of_escaped escaped none),
        ih (escaped.of_suffix (List.suffix_cons _ _))]
      rfl

theorem escape_unescape_iff (text : Text) : escape (unescape text) = text ↔ Escaped text := by
  constructor
  · intro same
    rw [← same]
    exact escaped_escape _
  · exact escape_of_reads (reads_unescape text)

theorem unescape_escape (text : Text) : unescape (escape text) = text := by
  rw [unescape_eq_readOnce]
  exact readOnce_of_reads (reads_escape text)

/-- Escaping is one pass that writes each character by itself, and unescaping undoes it. -/
theorem escape_isOnePass :
    (∀ text, escape text = text.flatMap markup) ∧
      (∀ left right, escape (left ++ right) = escape left ++ escape right) ∧
      (∀ text, Escaped (escape text)) ∧
      ∀ text, unescape (escape text) = text := by
  have characterwise : ∀ text, escape text = text.flatMap markup := fun text => by
    rw [escape_eq_flatMap, funext written_entities]
  refine ⟨characterwise, ?_, escaped_escape, unescape_escape⟩
  intro left right
  rw [characterwise, characterwise, characterwise, List.flatMap_append]

/-- Unescaping is one pass that does not look at what it has read, whichever order the
entities other than that of the ampersand are replaced in, and escaping undoes it exactly on
the texts that can stand in markup. -/
theorem unescape_isOnePass (text : Text) :
    unescape text = readOnce text ∧
      (∀ order, order.Perm others →
        unescapeWith (order ++ [ampersand]) text = readOnce text) ∧
      (escape (unescape text) = text ↔ Escaped text) := by
  refine ⟨unescape_eq_readOnce text, ?_, escape_unescape_iff text⟩
  intro order ordered
  exact (readOnce_of_reads (reads_unescapeWith_of_perm ordered text)).symm

/-- A torn entity does not come together, and what an ampersand was read from is not read
again. -/
theorem unescape_isOnePass_sample :
    let order := others.reverse
    let text := "&am&quot;p; &amp;amp;lt; &amp;".toList
    order.Perm others ∧ unescapeWith (order ++ [ampersand]) text = readOnce text ∧
      readOnce text = "&am\"p; &amp;lt; &".toList := by
  intro order text
  have ordered : order.Perm others := others.reverse_perm
  exact ⟨ordered, (unescape_isOnePass text).2.1 order ordered, by decide⟩

end JsonTemplate.Text.Entities
