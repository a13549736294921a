import JsonTemplate.CommandLine.Arguments

set_option autoImplicit false

/-! What the option for strictness changes in the arguments of a command. Wherever it is put
in, either the arguments make no sense any more, or they ask for the same as before, and
strictly. -/

namespace JsonTemplate.CommandLine

def strictWord : Text := "--strict".toList

/-- What was read with the option for strictness is what was read without it, and
strictness. -/
structure WithStrict (seen marked : Seen) : Prop where
  flags : ∀ flag, flag ≠ .strict → marked.has flag = seen.has flag
  strict : marked.has .strict = true
  values : marked.values = seen.values
  plains : marked.plains = seen.plains

/-- What comes of an argument without strictness and with it. A second time strictness is
refused. -/
inductive Alike : Given → Given → Prop where
  | refused (given : Given) : Alike given .refused
  | requested (flag : Flag) : Alike (.requested flag) (.requested flag)
  | noted {seen marked : Seen} (marks : WithStrict seen marked) :
      Alike (.noted seen) (.noted marked)
  | pending {seen marked : Seen} (flag : Flag) (marks : WithStrict seen marked) :
      Alike (.pending flag seen) (.pending flag marked)

private theorem has_cons (seen : Seen) (first flag : Flag) (values : List (Flag × Text)) :
    Seen.has { seen with flags := first :: seen.flags, values := values } flag =
      (flag == first || seen.has flag) :=
  List.contains_cons

private theorem withStrict_strict (seen : Seen) :
    WithStrict seen { seen with flags := .strict :: seen.flags } where
  flags := by
    intro flag different
    rw [has_cons, beq_false_of_ne different, Bool.false_or]
  strict := has_cons seen .strict .strict seen.values
  values := rfl
  plains := rfl

section OneArgument

variable {seen marked : Seen}

theorem WithStrict.cons (marks : WithStrict seen marked) (flag : Flag)
    (more : List (Flag × Text)) :
    WithStrict { seen with flags := flag :: seen.flags, values := more ++ seen.values }
      { marked with flags := flag :: marked.flags, values := more ++ marked.values } where
  flags := by
    intro other different
    rw [has_cons, has_cons, marks.flags other different]
  strict := by
    rw [has_cons, marks.strict, Bool.or_true]
  values := congrArg (more ++ ·) marks.values
  plains := marks.plains

private theorem WithStrict.alike_once (marks : WithStrict seen marked) (flag : Flag)
    {given givenMarked : Given} (alike : Alike given givenMarked) :
    Alike (if seen.has flag then .refused else given)
      (if marked.has flag then .refused else givenMarked) := by
  by_cases strict : flag = .strict
  · rw [strict, if_pos marks.strict]
    exact .refused _
  · rw [marks.flags flag strict]
    split
    · exact .refused _
    · exact alike

private theorem alike_giveFlag (marks : WithStrict seen marked) (rule : Rule)
    (value : Option Text) :
    Alike (giveFlag rule value seen) (giveFlag rule value marked) := by
  unfold giveFlag
  cases rule.usage with
  | switch =>
      cases value with
      | some text => exact .refused _
      | none => exact marks.alike_once rule.flag (.noted (marks.cons rule.flag []))
  | counter =>
      cases value with
      | some text => exact .refused _
      | none => exact .noted (marks.cons rule.flag [])
  | valued =>
      cases value with
      | some text =>
          exact marks.alike_once rule.flag (.noted (marks.cons rule.flag [(rule.flag, text)]))
      | none => exact marks.alike_once rule.flag (.pending rule.flag marks)
  | request =>
      cases value with
      | some text => exact .refused _
      | none => exact .requested rule.flag

def andLetters (rules : List Rule) (rest : Text) : Given → Given
  | .noted seen => giveLetters rules seen rest
  | other => other

private theorem giveLetters_cons (rules : List Rule) (seen : Seen) (letter : Char) (rest : Text) :
    giveLetters rules seen (letter :: rest) =
      match rules.find? (fun rule => decide (rule.letter = some letter)) with
      | none => .refused
      | some rule => andLetters rules rest (giveFlag rule none seen) := by
  rw [giveLetters]
  cases rules.find? (fun rule => decide (rule.letter = some letter)) with
  | none => rfl
  | some rule =>
      dsimp only
      cases giveFlag rule none seen <;> rfl

theorem Alike.letters {given givenMarked : Given} (alike : Alike given givenMarked)
    {rules : List Rule} {rest : Text}
    (further : ∀ seen marked, WithStrict seen marked →
      Alike (giveLetters rules seen rest) (giveLetters rules marked rest)) :
    Alike (andLetters rules rest given) (andLetters rules rest givenMarked) := by
  cases alike with
  | refused given => exact .refused _
  | requested flag => exact .requested flag
  | noted still => exact further _ _ still
  | pending flag still => exact .pending flag still

private theorem alike_giveLetters (marks : WithStrict seen marked) (rules : List Rule)
    (letters : Text) :
    Alike (giveLetters rules seen letters) (giveLetters rules marked letters) := by
  induction letters generalizing seen marked with
  | nil => exact .noted marks
  | cons letter rest ih =>
      rw [giveLetters_cons, giveLetters_cons]
      cases rules.find? (fun rule => decide (rule.letter = some letter)) with
      | none => exact .refused _
      | some rule => exact (alike_giveFlag marks rule none).letters (fun _ _ => ih)

private theorem alike_giveWord (marks : WithStrict seen marked) (rules : List Rule) (word : Word) :
    Alike (giveWord rules seen word) (giveWord rules marked word) := by
  cases word with
  | plain text => exact .refused _
  | terminator => exact .refused _
  | short letters => exact alike_giveLetters marks rules letters
  | long name value =>
      rw [giveWord, giveWord]
      cases rules.find? (fun rule => decide (rule.name = name)) with
      | none => exact .refused _
      | some rule => exact alike_giveFlag marks rule value

end OneArgument

def readWord (rules : List Rule) (room : Option Nat) : Option Flag → Seen → Word → Given
  | some flag, seen, .plain text =>
      .noted { seen with flags := flag :: seen.flags, values := (flag, text) :: seen.values }
  | some _, _, _ => .refused
  | none, seen, .plain text =>
      match room with
      | none => .refused
      | some limit =>
          if seen.plains.length < limit then .noted { seen with plains := seen.plains ++ [text] }
          else .refused
  | none, seen, word => giveWord rules seen word

def goOn (rules : List Rule) (room : Option Nat) (rest : List Text) : Given → Scan
  | .refused => .refused
  | .requested flag => .requested flag
  | .noted seen => scan rules room none seen rest
  | .pending flag seen => scan rules room (some flag) seen rest

def Word.GoesOn (room : Option Nat) (word : Word) : Prop :=
  word ≠ .terminator ∧ (room = none → ∀ text, word ≠ .plain text)

private theorem scan_cons {rules : List Rule} {room : Option Nat} {pending : Option Flag}
    {seen : Seen} (argument : Text) (rest : List Text)
    (goesOn : pending = none → (Word.ofText argument).GoesOn room) :
    scan rules room pending seen (argument :: rest) =
      goOn rules room rest (readWord rules room pending seen (Word.ofText argument)) := by
  cases pending with
  | some flag =>
      rw [scan]
      cases Word.ofText argument <;> rfl
  | none =>
      obtain ⟨notTerminator, notCommand⟩ := goesOn rfl
      rw [scan.eq_def]
      dsimp only
      cases look : Word.ofText argument with
      | terminator => exact absurd look notTerminator
      | plain text =>
          cases room with
          | none => exact absurd look (notCommand rfl text)
          | some limit =>
              dsimp only [readWord]
              split <;> rfl
      | long name value =>
          dsimp only [readWord]
          cases giveWord rules seen (.long name value) <;> rfl
      | short letters =>
          dsimp only [readWord]
          cases giveWord rules seen (.short letters) <;> rfl

section AfterCommand

variable {rules : List Rule} {limit : Nat} {pending : Option Flag} {seen marked full other : Seen}

private theorem goesOn_of_not {argument : Text}
    (further : ¬ (pending = none ∧ Word.ofText argument = .terminator)) :
    pending = none → (Word.ofText argument).GoesOn (some limit) :=
  fun none => ⟨fun look => further ⟨none, look⟩, nofun⟩

private theorem scan_terminator {argument : Text} (rest : List Text)
    (look : Word.ofText argument = .terminator) :
    scan rules (some limit) none seen (argument :: rest) =
      if seen.plains.length + rest.length ≤ limit then
        .ended { seen with plains := seen.plains ++ rest }
      else .refused := by
  rw [scan, look]

private theorem alike_readWord (marks : WithStrict seen marked) (word : Word) :
    Alike (readWord rules (some limit) pending seen word)
      (readWord rules (some limit) pending marked word) := by
  cases pending with
  | some flag =>
      cases word with
      | plain text => exact .noted (marks.cons flag [(flag, text)])
      | long name value => exact .refused _
      | short letters => exact .refused _
      | terminator => exact .refused _
  | none =>
      cases word with
      | plain text =>
          unfold readWord
          dsimp only
          rw [marks.plains]
          split
          · exact .noted ⟨marks.flags, marks.strict, marks.values, rfl⟩
          · exact .refused _
      | long name value => exact alike_giveWord marks rules (.long name value)
      | short letters => exact alike_giveWord marks rules (.short letters)
      | terminator => exact .refused _

private theorem Alike.withStrict_goOn {given givenMarked : Given} (alike : Alike given givenMarked)
    {rest : List Text}
    (further : ∀ pending seen marked, WithStrict seen marked →
      scan rules (some limit) pending seen rest = .ended full →
        scan rules (some limit) pending marked rest = .ended other → WithStrict full other)
    (ended : goOn rules (some limit) rest given = .ended full)
    (endedMarked : goOn rules (some limit) rest givenMarked = .ended other) :
    WithStrict full other := by
  cases alike with
  | refused given => cases endedMarked
  | requested flag => cases ended
  | noted still => exact further _ _ _ still ended endedMarked
  | pending flag still => exact further _ _ _ still ended endedMarked

/-- Strictness asked for before some arguments makes no difference to what is read from
them. -/
theorem withStrict_scan (marks : WithStrict seen marked) {arguments : List Text}
    (ended : scan rules (some limit) pending seen arguments = .ended full)
    (endedMarked : scan rules (some limit) pending marked arguments = .ended other) :
    WithStrict full other := by
  induction arguments generalizing pending seen marked with
  | nil =>
      cases pending with
      | some flag => cases ended
      | none =>
          cases ended
          cases endedMarked
          exact marks
  | cons argument rest ih =>
      by_cases terminates : pending = none ∧ Word.ofText argument = .terminator
      · obtain ⟨rfl, look⟩ := terminates
        rw [scan_terminator rest look] at ended endedMarked
        split at ended
        · split at endedMarked
          · cases ended
            cases endedMarked
            exact ⟨marks.flags, marks.strict, marks.values, congrArg (· ++ rest) marks.plains⟩
          · cases endedMarked
        · cases ended
      · rw [scan_cons argument rest (goesOn_of_not terminates)] at ended endedMarked
        exact (alike_readWord marks (Word.ofText argument)).withStrict_goOn
          (fun _ _ _ still => ih still) ended endedMarked

private theorem ofText_strictWord : Word.ofText strictWord = .long "strict".toList none := by decide

private theorem goesOn_strictWord (room : Option Nat) : (Word.ofText strictWord).GoesOn room := by
  rw [ofText_strictWord]
  exact ⟨nofun, nofun⟩

private theorem find?_strict (name : CommandName) :
    name.rules.find? (fun rule => decide (rule.name = "strict".toList)) = none ∨
      name.rules.find? (fun rule => decide (rule.name = "strict".toList)) = some strictRule := by
  cases name with
  | render => exact Or.inr rfl
  | resolve => exact Or.inr rfl
  | decode => exact Or.inl rfl

private theorem alike_strict (name : CommandName) (seen : Seen) :
    Alike (.noted seen) (giveWord name.rules seen (.long "strict".toList none)) := by
  rw [giveWord]
  rcases find?_strict name with unknown | known
  · rw [unknown]
    exact .refused _
  · rw [known]
    unfold giveFlag
    dsimp only [strictRule]
    split
    · exact .refused _
    · exact .noted (withStrict_strict seen)

/-- Wherever strictness is asked for among the arguments after a command, it makes no other
difference, if all plain arguments are given without it. -/
theorem withStrict_scan_insert (name : CommandName) {before after : List Text}
    (ended : scan name.rules (some limit) pending seen (before ++ after) = .ended full)
    (complete : full.plains.length = limit)
    (endedOther : scan name.rules (some limit) pending seen (before ++ strictWord :: after) =
      .ended other) : WithStrict full other := by
  induction before generalizing pending seen with
  | nil =>
      rw [List.nil_append] at ended endedOther
      rw [scan_cons strictWord after (fun _ => goesOn_strictWord _), ofText_strictWord]
        at endedOther
      cases pending with
      | some flag => cases endedOther
      | none =>
          have alike := alike_strict name seen
          exact alike.withStrict_goOn (fun _ _ _ still => withStrict_scan still) ended endedOther
  | cons argument before ih =>
      rw [List.cons_append] at ended endedOther
      by_cases terminates : pending = none ∧ Word.ofText argument = .terminator
      · -- Behind the terminator strictness would be one more plain argument than there may be.
        obtain ⟨rfl, look⟩ := terminates
        rw [scan_terminator _ look] at ended endedOther
        split at endedOther
        · rename_i fits
          split at ended
          · cases ended
            rw [List.length_append, List.length_cons] at fits
            rw [List.length_append, List.length_append] at complete
            omega
          · cases ended
        · cases endedOther
      · rw [scan_cons argument _ (goesOn_of_not terminates)] at ended endedOther
        cases given : readWord name.rules (some limit) pending seen (Word.ofText argument) with
        | refused =>
            rw [given] at ended
            cases ended
        | requested flag =>
            rw [given] at ended
            cases ended
        | noted next =>
            rw [given] at ended endedOther
            exact ih ended endedOther
        | pending flag next =>
            rw [given] at ended endedOther
            exact ih ended endedOther

end AfterCommand

/-- In front of the name of a command strictness is refused, so it stands behind the name. -/
theorem exists_between_of_scan_insert {pending : Option Flag} {seen front frontOther : Seen}
    {before after rest restOther : List Text} {word wordOther : Text}
    (scanned : scan topRules none pending seen (before ++ after) = .command front word rest)
    (scannedOther : scan topRules none pending seen (before ++ strictWord :: after) =
      .command frontOther wordOther restOther) :
    frontOther = front ∧ wordOther = word ∧
      ∃ between, rest = between ++ after ∧ restOther = between ++ strictWord :: after := by
  induction before generalizing pending seen with
  | nil =>
      rw [List.nil_append, scan_cons strictWord after (fun _ => goesOn_strictWord none),
        ofText_strictWord] at scannedOther
      cases pending with
      | some flag => cases scannedOther
      | none => cases scannedOther
  | cons argument before ih =>
      rw [List.cons_append] at scanned scannedOther
      by_cases goesOn : pending = none → (Word.ofText argument).GoesOn none
      · rw [scan_cons argument _ goesOn] at scanned scannedOther
        cases given : readWord topRules none pending seen (Word.ofText argument) with
        | refused =>
            rw [given] at scanned
            cases scanned
        | requested flag =>
            rw [given] at scanned
            cases scanned
        | noted next =>
            rw [given] at scanned scannedOther
            exact ih scanned scannedOther
        | pending flag next =>
            rw [given] at scanned scannedOther
            exact ih scanned scannedOther
      · cases pending with
        | some flag => exact absurd nofun goesOn
        | none =>
            rw [scan] at scanned scannedOther
            cases look : Word.ofText argument with
            | plain text =>
                rw [look] at scanned scannedOther
                cases scanned
                cases scannedOther
                exact ⟨rfl, rfl, before, rfl, rfl⟩
            | terminator =>
                rw [look] at scanned
                dsimp only at scanned
                split at scanned
                · cases scanned
                · cases scanned
            | long name value => exact absurd (fun _ => look ▸ ⟨nofun, nofun⟩) goesOn
            | short letters => exact absurd (fun _ => look ▸ ⟨nofun, nofun⟩) goesOn

private theorem requestOf_ne_run (flag : Flag) (arguments : Arguments) :
    requestOf flag ≠ some (.run arguments) := by
  cases flag <;> nofun

/-- A command line that is carried out, by its parts: what stands in front of the name of the
command, the name, and what stands behind it. -/
structure Parsed (texts : List Text) (front back : Seen) (word : Text) (rest : List Text)
    (name : CommandName) (command : Command) : Prop where
  scanned : scan topRules none none .nothing texts = .command front word rest
  known : commandNames.lookup word = some name
  ended : scan name.rules (some name.arity) none .nothing rest = .ended back
  given : name.command? back = some command

private theorem exists_parsed {texts : List Text} {arguments : Arguments}
    (accepted : request? texts = some (.run arguments)) :
    ∃ front back word rest name command, Parsed texts front back word rest name command ∧
      arguments = Arguments.ofSides front back command := by
  unfold request? at accepted
  split at accepted
  · rename_i front word rest scanned
    split at accepted
    · rename_i name known
      unfold afterCommand at accepted
      split at accepted
      · rename_i back ended
        obtain ⟨command, given, same⟩ := Option.map_eq_some_iff.mp accepted
        exact ⟨front, back, word, rest, name, command, ⟨scanned, known, ended, given⟩,
          (Request.run.inj same).symm⟩
      · exact absurd accepted (requestOf_ne_run _ _)
      · cases accepted
    · split at accepted
      · cases accepted
      · cases accepted
  · exact absurd accepted (requestOf_ne_run _ _)
  · cases accepted

private theorem length_plains_of_command? {name : CommandName} {seen : Seen} {command : Command}
    (given : name.command? seen = some command) : seen.plains.length = name.arity := by
  unfold CommandName.command? at given
  split at given
  · rename_i plains
    rw [plains]
    rfl
  · rename_i plains
    rw [plains]
    rfl
  · rename_i plains
    rw [plains]
    rfl
  · cases given

private theorem WithStrict.command?_eq {seen marked : Seen} (marks : WithStrict seen marked)
    (name : CommandName) : name.command? marked = name.command? seen := by
  have results : marked.value? .results = seen.value? .results := by
    rw [Seen.value?, Seen.value?, marks.values]
  unfold CommandName.command?
  rw [marks.plains, results, marks.flags .replaceAll (by decide)]

/-- Wherever strictness is put into a command line that is carried out, the command line still
asks for the same, and strictly, unless it is refused. -/
theorem eq_strict_of_insert {before after : List Text} {arguments other : Arguments}
    (accepted : request? (before ++ after) = some (.run arguments))
    (acceptedOther : request? (before ++ strictWord :: after) = some (.run other)) :
    other = { arguments with strict := true } := by
  obtain ⟨front, back, word, rest, name, command, parsed, rfl⟩ := exists_parsed accepted
  obtain ⟨frontOther, backOther, wordOther, restOther, nameOther, commandOther, parsedOther,
    rfl⟩ := exists_parsed acceptedOther
  obtain ⟨rfl, rfl, between, rfl, rfl⟩ :=
    exists_between_of_scan_insert parsed.scanned parsedOther.scanned
  obtain rfl : nameOther = name := Option.some.inj (parsedOther.known.symm.trans parsed.known)
  have complete := length_plains_of_command? parsed.given
  have marks : WithStrict back backOther :=
    withStrict_scan_insert nameOther parsed.ended complete parsedOther.ended
  have sameCommand := marks.command?_eq nameOther
  rw [parsed.given, parsedOther.given] at sameCommand
  cases sameCommand
  have config : backOther.value? .config = back.value? .config := by
    rw [Seen.value?, Seen.value?, marks.values]
  rw [Arguments.ofSides, Arguments.ofSides, config, marks.flags .builtins (by decide),
    marks.strict]

end JsonTemplate.CommandLine
