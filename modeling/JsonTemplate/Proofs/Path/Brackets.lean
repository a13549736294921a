import JsonTemplate.Path
import JsonTemplate.Proofs.Text.Cuts

set_option autoImplicit false

/-! Cutting a text outside brackets, without the running depth. The cut counts the depth
over the whole text; here every piece is judged on its own, from depth zero. Both agree,
because a cut is only made where the depth is zero. -/

namespace JsonTemplate.Brackets

/-- Whether no separator stands at depth zero in a text that begins at a depth. -/
def Undivided (separator : Char) (depth : Nat) (text : Text) : Prop :=
  ∀ before after, text = before ++ separator :: after → depthOf depth before ≠ 0

/-- Whether texts are the pieces of a text: no separator stands outside brackets in any of
them, and every bracket is closed in all but the last. -/
structure Cutting (separator : Char) (texts : List Text) : Prop where
  nonempty : texts ≠ []
  undivided : ∀ text ∈ texts, Undivided separator 0 text
  closed : ∀ text ∈ texts.dropLast, depthOf 0 text = 0

theorem depthOf_cons (depth : Nat) (char : Char) (rest : Text) :
    depthOf depth (char :: rest) = depthOf (depthAfter depth char) rest := rfl

theorem depthOf_append (depth : Nat) (left right : Text) :
    depthOf depth (left ++ right) = depthOf (depthOf depth left) right :=
  List.foldl_append

private theorem le_depthOf {text : Text} (absent : ']' ∉ text) (depth : Nat) :
    depth ≤ depthOf depth text := by
  induction text generalizing depth with
  | nil => exact Nat.le_refl depth
  | cons char rest ih =>
      rw [List.mem_cons, not_or] at absent
      have step : depth ≤ depthAfter depth char := by
        unfold depthAfter
        rw [if_neg (Ne.symm absent.1)]
        split
        · exact Nat.le_succ depth
        · exact Nat.le_refl depth
      exact Nat.le_trans step (ih absent.2 _)

variable {separator : Char}

theorem undivided_nil (depth : Nat) : Undivided separator depth [] := by
  intro before after same
  cases before with
  | nil => cases same
  | cons char before => cases same

theorem undivided_of_not_mem {text : Text} (absent : separator ∉ text) (depth : Nat) :
    Undivided separator depth text := by
  intro before after same
  rw [same] at absent
  exact absurd (List.mem_append_right before List.mem_cons_self) absent

theorem undivided_cons (depth : Nat) (char : Char) (rest : Text) :
    Undivided separator depth (char :: rest) ↔
      (char = separator → depth ≠ 0) ∧ Undivided separator (depthAfter depth char) rest := by
  constructor
  · intro undivided
    constructor
    · intro same
      exact undivided [] rest (by rw [same]; rfl)
    · intro before after same
      exact undivided (char :: before) after (by rw [same]; rfl)
  · rintro ⟨first, later⟩ before after same
    cases before with
    | nil => exact first (List.cons.inj same).1
    | cons other before =>
        obtain ⟨sameChar, sameRest⟩ := List.cons.inj same
        rw [← sameChar]
        exact later before after sameRest

theorem undivided_append (depth : Nat) (left right : Text) :
    Undivided separator depth (left ++ right) ↔
      Undivided separator depth left ∧ Undivided separator (depthOf depth left) right := by
  induction left generalizing depth with
  | nil =>
      constructor
      · intro undivided
        exact ⟨undivided_nil depth, undivided⟩
      · intro both
        exact both.2
  | cons char rest ih =>
      rw [List.cons_append, undivided_cons, undivided_cons, ih, depthOf_cons, and_assoc]

theorem joined_cons_cons (separator first second : Text) (rest : List Text) :
    Text.joined separator (first :: second :: rest) =
      first ++ separator ++ Text.joined separator (second :: rest) := rfl

private theorem joined_pieces (separator : Char) (depth : Nat) (text : Text) :
    Text.joined [separator] ((pieces separator depth text).1 :: (pieces separator depth text).2) =
      text := by
  induction text generalizing depth with
  | nil => rfl
  | cons char rest ih =>
      have later := ih (depthAfter depth char)
      rw [pieces]
      split
      · rename_i cut
        have same : char = separator := by
          simp only [isCut, Bool.and_eq_true, beq_iff_eq] at cut
          exact cut.1.1
        rw [joined_cons_cons, later, same]
        rfl
      · cases others : (pieces separator (depthAfter depth char) rest).2 with
        | nil =>
            rw [others] at later
            exact congrArg (char :: ·) later
        | cons second more =>
            rw [others, joined_cons_cons] at later
            rw [joined_cons_cons, List.cons_append, List.cons_append, later]

theorem joined_split (separator : Char) (text : Text) :
    Text.joined [separator] (split separator text) = text :=
  joined_pieces separator 0 text

theorem cutting_cons (first : Text) (more : List Text) :
    Cutting separator (first :: more) ↔
      Undivided separator 0 first ∧
        (more = [] ∨ depthOf 0 first = 0 ∧ Cutting separator more) := by
  cases more with
  | nil =>
      constructor
      · intro cutting
        exact ⟨cutting.undivided first List.mem_cons_self, Or.inl rfl⟩
      · rintro ⟨undivided, -⟩
        refine ⟨List.cons_ne_nil _ _, ?_, nofun⟩
        intro text member
        rw [List.mem_singleton] at member
        rw [member]
        exact undivided
  | cons second rest =>
      constructor
      · intro cutting
        have undivided := List.forall_mem_cons.mp cutting.undivided
        have closed := cutting.closed
        rw [List.dropLast_cons_cons, List.forall_mem_cons] at closed
        exact ⟨undivided.1, Or.inr ⟨closed.1, List.cons_ne_nil _ _, undivided.2, closed.2⟩⟩
      · rintro ⟨undivided, impossible | ⟨closed, later⟩⟩
        · cases impossible
        · refine ⟨List.cons_ne_nil _ _, List.forall_mem_cons.mpr ⟨undivided, later.undivided⟩, ?_⟩
          rw [List.dropLast_cons_cons, List.forall_mem_cons]
          exact ⟨closed, later.closed⟩

/-- The invariant of the cut: the first piece is judged from the depth at which the text
begins, all others from zero. -/
private theorem cutting_pieces (plain : isBracket separator = false) (depth : Nat) (text : Text) :
    Undivided separator depth (pieces separator depth text).1 ∧
      ((pieces separator depth text).2 = [] ∨
        depthOf depth (pieces separator depth text).1 = 0 ∧
          Cutting separator (pieces separator depth text).2) := by
  induction text generalizing depth with
  | nil => exact ⟨undivided_nil depth, Or.inl rfl⟩
  | cons char rest ih =>
      have later := ih (depthAfter depth char)
      rw [pieces]
      split
      · rename_i cut
        have atZero : depth = 0 := by
          simp only [isCut, Bool.and_eq_true, beq_iff_eq] at cut
          exact cut.1.2
        rw [depthAfter_of_isCut cut] at later ⊢
        exact ⟨undivided_nil depth, Or.inr ⟨atZero, (cutting_cons _ _).mpr later⟩⟩
      · rename_i notCut
        refine ⟨(undivided_cons _ _ _).mpr ⟨?_, later.1⟩, later.2⟩
        intro same atZero
        apply notCut
        simp [isCut, same, atZero, plain]

theorem cutting_split (plain : isBracket separator = false) (text : Text) :
    Cutting separator (split separator text) :=
  (cutting_cons _ _).mpr (cutting_pieces plain 0 text)

private theorem pieces_append (depth : Nat) {left : Text}
    (undivided : Undivided separator depth left) (right : Text) :
    pieces separator depth (left ++ right) =
      (left ++ (pieces separator (depthOf depth left) right).1,
        (pieces separator (depthOf depth left) right).2) := by
  induction left generalizing depth with
  | nil => rfl
  | cons char rest ih =>
      obtain ⟨first, later⟩ := (undivided_cons _ _ _).mp undivided
      have notCut : ¬ isCut separator depth char = true := by
        intro cut
        simp only [isCut, Bool.and_eq_true, beq_iff_eq] at cut
        exact first cut.1.1 cut.1.2
      rw [List.cons_append, pieces, if_neg notCut, ih _ later]
      rfl

private theorem pieces_separator (plain : isBracket separator = false) (rest : Text) :
    pieces separator 0 (separator :: rest) = ([], split separator rest) := by
  have cut : isCut separator 0 separator = true := by simp [isCut, plain]
  rw [pieces, if_pos cut, depthAfter_of_isCut cut]
  rfl

theorem split_joined (plain : isBracket separator = false) {texts : List Text}
    (cutting : Cutting separator texts) :
    split separator (Text.joined [separator] texts) = texts := by
  induction texts with
  | nil => exact absurd rfl cutting.nonempty
  | cons first more ih =>
      obtain ⟨undivided, last | ⟨closed, later⟩⟩ := (cutting_cons _ _).mp cutting
      · subst last
        have whole := pieces_append 0 undivided []
        rw [List.append_nil] at whole
        rw [Text.joined, split, whole]
        simp [pieces]
      · cases more with
        | nil => exact absurd rfl later.nonempty
        | cons second rest =>
            rw [joined_cons_cons, List.append_assoc, List.singleton_append, split,
              pieces_append 0 undivided, closed, pieces_separator plain, List.append_nil, ih later]

def counts (separator char : Char) : Bool := isBracket char || char == separator

theorem depthOf_filter (separator : Char) (depth : Nat) (text : Text) :
    depthOf depth (text.filter (counts separator)) = depthOf depth text := by
  induction text generalizing depth with
  | nil => rfl
  | cons char rest ih =>
      by_cases counted : counts separator char = true
      · rw [List.filter_cons_of_pos counted, depthOf_cons, depthOf_cons, ih]
      · have idle : depthAfter depth char = depth := by
          simp only [counts, isBracket, Bool.or_eq_true, beq_iff_eq, not_or] at counted
          rw [depthAfter, if_neg counted.1.1, if_neg counted.1.2]
        rw [List.filter_cons_of_neg counted, depthOf_cons, idle, ih]

theorem undivided_filter (depth : Nat) (text : Text) :
    Undivided separator depth (text.filter (counts separator)) ↔
      Undivided separator depth text := by
  induction text generalizing depth with
  | nil => rfl
  | cons char rest ih =>
      by_cases counted : counts separator char = true
      · rw [List.filter_cons_of_pos counted, undivided_cons, undivided_cons, ih]
      · have parts : (¬ char = '[' ∧ ¬ char = ']') ∧ ¬ char = separator := by
          simpa only [counts, isBracket, Bool.or_eq_true, beq_iff_eq, not_or] using counted
        have idle : depthAfter depth char = depth := by
          rw [depthAfter, if_neg parts.1.1, if_neg parts.1.2]
        rw [List.filter_cons_of_neg counted, undivided_cons, idle, ih]
        constructor
        · intro undivided
          exact ⟨fun same => absurd same parts.2, undivided⟩
        · intro both
          exact both.2

def bracketed : Option Text → Text
  | none => []
  | some content => '[' :: (content ++ [']'])

theorem content?_bracketed (content : Option Text) : content? (bracketed content) = content := by
  cases content with
  | none => rfl
  | some content =>
      rw [bracketed, content?, Text.beforeLast?_append content List.not_mem_nil]
      rfl

/-- A text with a content opens a bracket before it. Either nothing closes this bracket, or
the content goes up to the last closing bracket. -/
theorem content?_cases {group content : Text} (found : content? group = some content) :
    group = '[' :: content ∨
      ∃ tail, ']' ∉ tail ∧ group = '[' :: (content ++ [']']) ++ tail := by
  unfold content? at found
  split at found
  · rename_i inside
    rw [Option.some_inj] at found
    by_cases present : ']' ∈ inside
    · obtain ⟨before, tail, same, absent⟩ := Text.exists_last present
      rw [same, Text.beforeLast?_append before absent] at found
      have equal : before = content := found
      refine Or.inr ⟨tail, absent, ?_⟩
      rw [same, equal, List.cons_append, List.append_cons]
    · rw [Text.beforeLast?_of_not_mem present] at found
      have equal : inside = content := found
      exact Or.inl (by rw [equal])
  · cases found

/-- Writing a content in brackets again makes no cut where there was none: what is lost is
at the end, and what is added closes a bracket. -/
theorem undivided_bracketed (other : separator ≠ ']') {depth : Nat} {group : Text}
    (undivided : Undivided separator depth group) :
    Undivided separator depth (bracketed (content? group)) := by
  cases found : content? group with
  | none => exact undivided_nil depth
  | some content =>
      rw [bracketed]
      rcases content?_cases found with same | ⟨tail, -, same⟩
      · rw [← List.cons_append, ← same, undivided_append]
        refine ⟨undivided, (undivided_cons _ _ _).mpr ⟨?_, undivided_nil _⟩⟩
        intro equal
        exact absurd equal.symm other
      · rw [same, undivided_append] at undivided
        exact undivided.1

theorem undivided_bracketed_of_not_mem (plain : isBracket separator = false) (depth : Nat)
    {params : Option Text} (unclosed : ']' ∉ params.getD []) :
    Undivided separator depth (bracketed params) := by
  simp only [isBracket, Bool.or_eq_false_iff, beq_eq_false_iff_ne] at plain
  cases params with
  | none => exact undivided_nil depth
  | some params =>
      have inside : ∀ deeper, deeper ≠ 0 → Undivided separator deeper params := by
        intro deeper inside before after same
        have unclosedBefore : ']' ∉ before := fun member =>
          unclosed (same ▸ List.mem_append_left _ member)
        have deep := le_depthOf unclosedBefore deeper
        omega
      have closing : separator ∉ [']'] := by
        rw [List.mem_singleton]
        exact plain.2
      rw [bracketed, undivided_cons, undivided_append]
      exact ⟨fun same => absurd same.symm plain.1, inside _ (Nat.succ_ne_zero depth),
        undivided_of_not_mem closing _⟩

theorem depthOf_bracketed {depth : Nat} {before group : Text}
    (cut : Text.CutAt '[' before group) (closed : depthOf depth group = 0) :
    depthOf depth (bracketed (content? group)) = 0 := by
  rcases cut.cases with empty | ⟨rest, begins⟩
  · rw [empty] at closed ⊢
    exact closed
  · have found : content? group = some ((Text.beforeLast? ']' rest).getD rest) := by
      rw [begins, content?]
    rw [found, bracketed]
    rcases content?_cases found with same | ⟨tail, absent, same⟩
    · rw [← List.cons_append, ← same, depthOf_append, closed]
      rfl
    · rw [same, depthOf_append] at closed
      exact Nat.le_zero.mp (closed ▸ le_depthOf absent _)

end JsonTemplate.Brackets
