import JsonTemplate.Proofs.Path.Brackets

set_option autoImplicit false

/-! The pieces of a text are the only ones there are. They give the text back with the
separators between them, each is whole when it is judged on its own, and no other pieces do
the same. A cut that goes through the bytes of the text, with nothing but offsets to tell
where it stands and where the piece at hand begins, finds the same pieces and never looks
inside a character. -/

namespace JsonTemplate.Text

def divided? : Nat → Text → Option (Text × Text)
  | 0, text => some ([], text)
  | _ + 1, [] => none
  | offset + 1, char :: rest =>
      if char.utf8Size ≤ offset + 1 then
        (divided? (offset + 1 - char.utf8Size) rest).map (fun parts => (char :: parts.1, parts.2))
      else none

def slice? (start stop : Nat) (text : Text) : Option Text :=
  match divided? stop text with
  | none => none
  | some (upTo, _) => (divided? start upTo).map Prod.snd

variable {text before after piece : Text} {offset start stop : Nat}

private theorem divided?_append (before after : Text) :
    divided? before.utf8Length (before ++ after) = some (before, after) := by
  induction before with
  | nil => rw [utf8Length_nil, List.nil_append, divided?]
  | cons char rest ih =>
      have positive := char.utf8Size_pos
      obtain ⟨count, same⟩ : ∃ count, char.utf8Size + utf8Length rest = count + 1 :=
        ⟨char.utf8Size + utf8Length rest - 1, by omega⟩
      rw [utf8Length_cons, List.cons_append, same, divided?, ← same,
        if_pos (Nat.le_add_right _ _), Nat.add_sub_cancel_left, ih]
      rfl

theorem divided?_eq_some_iff :
    divided? offset text = some (before, after) ↔
      text = before ++ after ∧ offset = before.utf8Length := by
  constructor
  · intro divided
    fun_induction divided? offset text generalizing before with
    | case1 text =>
        cases divided
        exact ⟨rfl, rfl⟩
    | case2 offset => cases divided
    | case3 offset char rest fits ih =>
        obtain ⟨parts, later, same⟩ := Option.map_eq_some_iff.mp divided
        obtain ⟨rfl, rfl⟩ := Prod.mk.inj same
        obtain ⟨whole, length⟩ := ih later
        refine ⟨congrArg (char :: ·) whole, ?_⟩
        rw [utf8Length_cons, ← length]
        omega
    | case4 offset char rest exceeds => cases divided
  · rintro ⟨rfl, rfl⟩
    exact divided?_append before after

theorem slice?_eq_some_iff :
    slice? start stop text = some piece ↔
      ∃ before after, text = before ++ piece ++ after ∧ start = before.utf8Length ∧
        stop = (before ++ piece).utf8Length := by
  unfold slice?
  constructor
  · intro sliced
    split at sliced
    · cases sliced
    · rename_i upTo after divided
      obtain ⟨⟨before, _⟩, cut, rfl⟩ := Option.map_eq_some_iff.mp sliced
      obtain ⟨whole, length⟩ := divided?_eq_some_iff.mp divided
      obtain ⟨rfl, begins⟩ := divided?_eq_some_iff.mp cut
      exact ⟨before, after, whole, begins, length⟩
  · rintro ⟨before, after, rfl, rfl, rfl⟩
    rw [divided?_append]
    change (divided? before.utf8Length (before ++ piece)).map Prod.snd = some piece
    rw [divided?_append]
    rfl

end JsonTemplate.Text

namespace JsonTemplate.Brackets

variable {separator : Char}

private theorem cutting_singleton {piece : Text} (undivided : Undivided separator 0 piece) :
    Cutting separator [piece] :=
  (cutting_cons piece []).mpr ⟨undivided, Or.inl rfl⟩

theorem split_of_undivided (plain : isBracket separator = false) {piece : Text}
    (undivided : Undivided separator 0 piece) : split separator piece = [piece] :=
  split_joined plain (cutting_singleton undivided)

theorem joined_and_cutting_iff (plain : isBracket separator = false) (text : Text)
    (texts : List Text) :
    Text.joined [separator] texts = text ∧ Cutting separator texts ↔
      texts = split separator text := by
  constructor
  · rintro ⟨rfl, cutting⟩
    exact (split_joined plain cutting).symm
  · rintro rfl
    exact ⟨joined_split separator text, cutting_split plain text⟩

private theorem split_cons_of_not_isBracket {char : Char} (outside : isBracket char = false)
    (rest : Text) :
    split separator (char :: rest) =
      if char == separator then [] :: split separator rest
      else (split separator rest).modifyHead (char :: ·) := by
  have idle : depthAfter 0 char = 0 := by
    simp only [isBracket, Bool.or_eq_false_iff, beq_eq_false_iff_ne] at outside
    rw [depthAfter, if_neg outside.1, if_neg outside.2]
  have cut : isCut separator 0 char = (char == separator) := by
    rw [isCut, outside]
    simp
  rw [split, pieces, idle, cut]
  split <;> rfl

theorem split_eq_splitOn (text : Text) (outside : ∀ char ∈ text, isBracket char = false) :
    split separator text = text.splitOn separator := by
  induction text with
  | nil => rfl
  | cons char rest ih =>
      obtain ⟨first, later⟩ := List.forall_mem_cons.mp outside
      rw [split_cons_of_not_isBracket first, List.splitOn_cons_eq_if_modifyHead, ih later]

/-- The pieces of a text from the one that begins at `start`, cut by looking at the character
at `position`, where the brackets are at a depth. There is no answer if anything is read or
sliced out at an offset that is not between two characters. -/
def cutFrom? (separator : Char) (text : Text) (start position depth : Nat) :
    Option (List Text) :=
  match _ : Text.divided? position text with
  | none => none
  | some (_, []) => (Text.divided? start text).map (fun parts => [parts.2])
  | some (_, char :: _) =>
      if isCut separator depth char then
        match Text.slice? start position text with
        | none => none
        | some piece =>
            (cutFrom? separator text (position + char.utf8Size) (position + char.utf8Size)
              (depthAfter depth char)).map (piece :: ·)
      else cutFrom? separator text start (position + char.utf8Size) (depthAfter depth char)
termination_by text.utf8Length - position
decreasing_by
  all_goals
    rename_i standing _
    obtain ⟨rfl, rfl⟩ := Text.divided?_eq_some_iff.mp standing
    have positive := char.utf8Size_pos
    rw [Text.utf8Length_append, Text.utf8Length_cons]
    omega

private theorem cutFrom?_at_end (before piece : Text) (depth : Nat) :
    cutFrom? separator (before ++ piece) before.utf8Length (before ++ piece).utf8Length depth =
      some [piece] := by
  have standing := Text.divided?_append (before ++ piece) []
  rw [List.append_nil] at standing
  rw [cutFrom?]
  split
  · rename_i absent
    cases standing.symm.trans absent
  · rw [Text.divided?_append]
    rfl
  · rename_i ahead
    cases standing.symm.trans ahead

private theorem cutFrom?_at_char (before piece : Text) (char : Char) (rest : Text) (depth : Nat) :
    cutFrom? separator (before ++ piece ++ char :: rest) before.utf8Length
        (before ++ piece).utf8Length depth =
      if isCut separator depth char then
        (cutFrom? separator (before ++ piece ++ char :: rest) (before ++ piece ++ [char]).utf8Length
          (before ++ piece ++ [char]).utf8Length (depthAfter depth char)).map (piece :: ·)
      else
        cutFrom? separator (before ++ piece ++ char :: rest) before.utf8Length
          (before ++ piece ++ [char]).utf8Length (depthAfter depth char) := by
  have standing := Text.divided?_append (before ++ piece) (char :: rest)
  have sliced : Text.slice? before.utf8Length (before ++ piece).utf8Length
      (before ++ piece ++ char :: rest) = some piece :=
    Text.slice?_eq_some_iff.mpr ⟨before, char :: rest, rfl, rfl, rfl⟩
  have next : (before ++ piece ++ [char]).utf8Length =
      (before ++ piece).utf8Length + char.utf8Size := Text.utf8Length_append _ _
  rw [cutFrom?, next]
  split
  · rename_i absent
    cases standing.symm.trans absent
  · rename_i ended
    cases standing.symm.trans ended
  · rename_i ahead
    cases standing.symm.trans ahead
    rw [sliced]

/-- The invariant of the cut by offsets: what stands before the piece at hand gives its start,
with what was read of the piece it gives the position, and the rest is cut from the depth that
was reached. -/
private theorem cutFrom?_between (before piece rest : Text) (depth : Nat) :
    cutFrom? separator (before ++ piece ++ rest) before.utf8Length
        (before ++ piece).utf8Length depth =
      some ((piece ++ (pieces separator depth rest).1) :: (pieces separator depth rest).2) := by
  induction rest generalizing before piece depth with
  | nil =>
      rw [List.append_nil, cutFrom?_at_end]
      simp only [pieces, List.append_nil]
  | cons char rest ih =>
      rw [cutFrom?_at_char, pieces]
      by_cases cut : isCut separator depth char = true
      · -- the next piece begins behind the separator, and nothing of it was read
        have later := ih (before ++ piece ++ [char]) [] (depthAfter depth char)
        rw [List.append_nil, List.append_assoc, List.singleton_append, List.nil_append] at later
        rw [if_pos cut, if_pos cut, later, List.append_nil]
        rfl
      · have later := ih before (piece ++ [char]) (depthAfter depth char)
        rw [← List.append_assoc, List.append_assoc _ [char], List.singleton_append] at later
        rw [if_neg cut, if_neg cut, later, List.append_assoc, List.singleton_append]

theorem cutFrom?_eq_split (separator : Char) (text : Text) :
    cutFrom? separator text 0 0 0 = some (split separator text) :=
  cutFrom?_between [] [] text 0

/-- Cutting a text finds its only cutting, in which no piece is cut again. Without brackets
this is the cut at every separator, and the cut by byte offsets finds the same pieces, so that
all its offsets are between two characters. -/
theorem split_isOnlyCutting (plain : isBracket separator = false) (text : Text) :
    (∀ texts, Text.joined [separator] texts = text ∧ Cutting separator texts ↔
      texts = split separator text) ∧
      (∀ piece ∈ split separator text, split separator piece = [piece]) ∧
      ((∀ char ∈ text, isBracket char = false) →
        split separator text = text.splitOn separator) ∧
      cutFrom? separator text 0 0 0 = some (split separator text) := by
  refine ⟨joined_and_cutting_iff plain text, ?_, split_eq_splitOn text,
    cutFrom?_eq_split separator text⟩
  intro piece member
  exact split_of_undivided plain ((cutting_split plain text).undivided piece member)

theorem split_isOnlyCutting_sample :
    let text := "]é.[x.y]].ü[".toList
    let texts := ["]é".toList, "[x.y]]".toList, "ü[".toList]
    let outside := ['é', '.', 'x']
    isBracket '.' = false ∧ (∀ char ∈ outside, isBracket char = false) ∧
      split '.' text = texts ∧ Cutting '.' texts ∧
      (∀ others, Text.joined ['.'] others = text ∧ Cutting '.' others → others = texts) ∧
      split '.' "[x.y]]".toList = ["[x.y]]".toList] ∧
      split '.' outside = outside.splitOn '.' ∧ cutFrom? '.' text 0 0 0 = some texts := by
  intro text texts outside
  have plain : isBracket '.' = false := rfl
  have withoutBrackets : ∀ char ∈ outside, isBracket char = false := by
    simp [outside, isBracket]
  have found : split '.' text = texts := by decide
  obtain ⟨only, again, -, offsets⟩ := split_isOnlyCutting plain text
  obtain ⟨-, -, everywhere, -⟩ := split_isOnlyCutting plain outside
  rw [found] at again offsets
  exact ⟨plain, withoutBrackets, found, ((only texts).mpr found.symm).2,
    fun others cuts => ((only others).mp cuts).trans found, again _ (by decide),
    everywhere withoutBrackets, offsets⟩

end JsonTemplate.Brackets
