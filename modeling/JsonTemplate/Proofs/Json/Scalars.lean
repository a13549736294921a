import JsonTemplate.Json.Printer
import JsonTemplate.Json.Reader
import Mathlib.Tactic.SplitIfs

set_option autoImplicit false

/-! Strings and integers are read back from the text in which they are written. Every
character of a string is read back from its own escape, and an integer is read whole if what
follows it cannot go on with a number. -/

namespace JsonTemplate.Json

private theorem hexDigitValue?_hexDigit :
    ∀ digit < 16, hexDigitValue? (hexDigit digit) = some digit := by
  decide

private theorem codeUnit_hexDigit {high low : Nat} (highBound : high < 16) (lowBound : low < 16)
    (rest : Text) :
    codeUnit ('0' :: '0' :: hexDigit high :: hexDigit low :: rest) = .ok (high * 16 + low) := by
  have zero : hexDigitValue? '0' = some 0 := by decide
  simp only [codeUnit, zero, hexDigitValue?_hexDigit high highBound,
    hexDigitValue?_hexDigit low lowBound]
  simp

private theorem escape_code {char : Char} (control : char.toNat < 0x20) (rest : Text) :
    escape ('u' :: '0' :: '0' :: hexDigit (char.toNat / 16) :: hexDigit (char.toNat % 16) :: rest) =
      .ok (char, 5) := by
  have code : char.toNat / 16 * 16 + char.toNat % 16 = char.toNat := by omega
  have notTrailing : isTrailing char.toNat = false := by
    simp [isTrailing]
    omega
  have notLeading : isLeading char.toNat = false := by
    simp [isLeading]
    omega
  rw [escape, codeUnit_hexDigit (by omega) (by omega), code]
  simp [notTrailing, notLeading, Char.ofNat_toNat]

private theorem escape_letter {letter char : Char} (meant : escapedLetter? letter = some char)
    (rest : Text) : escape (letter :: rest) = .ok (char, 1) := by
  have other : letter ≠ 'u' := by
    rintro rfl
    cases meant
  rw [escape, meant]
  exact fun same => other same

private theorem stringFrom_append (skipped rest : Text) :
    stringFrom skipped.length (skipped ++ rest) = stringFrom 0 rest := by
  induction skipped with
  | nil => rfl
  | cons char skipped ih => exact ih

private theorem stringFrom_escape {char : Char} (escaped : Text) {rest : Text}
    (meant : escape (escaped ++ rest) = .ok (char, escaped.length)) :
    stringFrom 0 ('\\' :: (escaped ++ rest)) = consChar char (stringFrom 0 rest) := by
  rw [stringFrom, if_neg (by decide), if_pos rfl, meant]
  dsimp only
  rw [stringFrom_append]

theorem stringFrom_escapedChar (char : Char) (rest : Text) :
    stringFrom 0 (escapedChar char ++ rest) = consChar char (stringFrom 0 rest) := by
  have letter : ∀ {second : Char}, escapedLetter? second = some char →
      stringFrom 0 (['\\', second] ++ rest) = consChar char (stringFrom 0 rest) :=
    fun {second} meant => stringFrom_escape [second] (escape_letter meant rest)
  unfold escapedChar
  split_ifs with quote backslash backspace feed line back tab control
  · exact letter (by rw [quote]; rfl)
  · exact letter (by rw [backslash]; rfl)
  · exact letter (by rw [backspace]; rfl)
  · exact letter (by rw [feed]; rfl)
  · exact letter (by rw [line]; rfl)
  · exact letter (by rw [back]; rfl)
  · exact letter (by rw [tab]; rfl)
  · exact stringFrom_escape ['u', '0', '0', _, _] (escape_code control rest)
  · rw [List.singleton_append, stringFrom, if_neg quote, if_neg backslash, if_neg control]

theorem stringFrom_stringText (value rest : Text) :
    stringFrom 0 (value.flatMap escapedChar ++ '"' :: rest) = .ok (value, rest) := by
  induction value with
  | nil => rfl
  | cons char value ih =>
      rw [List.flatMap_cons, List.append_assoc, stringFrom_escapedChar, ih]
      rfl

/-- What may follow a value in a document: nothing, a blank, or a character that goes on
after it. -/
inductive Follows : Text → Prop where
  | nothing : Follows []
  | blank {char : Char} (space : isSpace char = true) (rest : Text) : Follows (char :: rest)
  | comma (rest : Text) : Follows (',' :: rest)
  | bracket (rest : Text) : Follows (']' :: rest)
  | brace (rest : Text) : Follows ('\x7d' :: rest)

private theorem isSpace_cases {char : Char} (space : isSpace char = true) :
    char = ' ' ∨ char = '\n' ∨ char = '\t' ∨ char = '\r' := by
  simp only [isSpace, Bool.or_eq_true, beq_iff_eq, or_assoc] at space
  exact space

private theorem startsWithDigit_of_follows {rest : Text} (follows : Follows rest) :
    startsWithDigit rest = false := by
  cases follows with
  | blank space rest => rcases isSpace_cases space with rfl | rfl | rfl | rfl <;> rfl
  | nothing => rfl
  | comma rest => rfl
  | bracket rest => rfl
  | brace rest => rfl

private theorem afterInteger_of_follows {rest : Text} (follows : Follows rest) (negative : Bool)
    (significand : Nat) :
    afterInteger negative significand rest = integral negative significand rest := by
  cases follows with
  | blank space rest => rcases isSpace_cases space with rfl | rfl | rfl | rfl <;> rfl
  | nothing => rfl
  | comma rest => rfl
  | bracket rest => rfl
  | brace rest => rfl

private theorem le_ofDigitChars (digits : Text) (value : Nat) :
    value ≤ Nat.ofDigitChars 10 digits value := by
  induction digits generalizing value with
  | nil => exact Nat.le_refl _
  | cons char digits ih =>
      rw [Nat.ofDigitChars_cons]
      have further := ih (10 * value + (char.toNat - '0'.toNat))
      omega

/-- Digits are read to their end, if the number they make is within the bound. -/
theorem digitsWithin_append {bound value : Nat} {digits rest : Text}
    (areDigits : ∀ char ∈ digits, char.isDigit = true)
    (within : Nat.ofDigitChars 10 digits value ≤ bound) (ended : startsWithDigit rest = false) :
    digitsWithin bound value (digits ++ rest) = (Nat.ofDigitChars 10 digits value, rest) := by
  induction digits generalizing value with
  | nil =>
      cases rest with
      | nil => rfl
      | cons char rest =>
          have noDigit : char.isDigit = false := ended
          rw [List.nil_append, digitsWithin, noDigit]
          rfl
  | cons char digits ih =>
      rw [List.forall_mem_cons] at areDigits
      rw [Nat.ofDigitChars_cons, Nat.mul_comm] at within ⊢
      have small : value * 10 + digitValue char ≤ bound :=
        Nat.le_trans (le_ofDigitChars digits _) within
      rw [List.cons_append, digitsWithin, areDigits.1, decide_eq_true small, Bool.and_self,
        if_pos rfl]
      exact ih areDigits.2 within

private theorem head?_ofNat_ne_zero {number : Nat} (positive : number ≠ 0) :
    (Text.ofNat number).head? ≠ some '0' := by
  induction number using Nat.strongRecOn with
  | ind number ih =>
      unfold Text.ofNat
      by_cases single : number < 10
      · rw [Nat.toDigits_of_lt_base single]
        have digits : ∀ digit < 10, digit ≠ 0 → Nat.digitChar digit ≠ '0' := by decide
        intro head
        exact digits number single positive (Option.some.inj head)
      · rw [Nat.toDigits_of_base_le (by decide) (by omega), List.head?_append]
        have front := ih (number / 10) (by omega) (by omega)
        unfold Text.ofNat at front
        cases digits : (Nat.toDigits 10 (number / 10)).head? with
        | none => exact absurd (List.head?_eq_none_iff.mp digits) Nat.toDigits_ne_nil
        | some digit =>
            rw [digits] at front
            exact front

theorem number_ofNat {negative : Bool} {magnitude : Nat} {rest : Text}
    (bounded : magnitude ≤ significandBound) (follows : Follows rest) :
    number negative (Text.ofNat magnitude ++ rest) = integral negative magnitude rest := by
  have ended := startsWithDigit_of_follows follows
  by_cases zero : magnitude = 0
  · subst zero
    change number negative ('0' :: rest) = _
    rw [number, if_pos rfl, ended, afterInteger_of_follows follows]
    rfl
  · have areDigits : ∀ char ∈ Text.ofNat magnitude, char.isDigit = true :=
      fun char => Nat.isDigit_of_mem_toDigits (by decide) (Nat.le_refl 10)
    have value : Nat.ofDigitChars 10 (Text.ofNat magnitude) 0 = magnitude :=
      Nat.ofDigitChars_toDigits (by decide) (Nat.le_refl 10)
    have first := head?_ofNat_ne_zero zero
    cases written : Text.ofNat magnitude with
    | nil => exact absurd written Nat.toDigits_ne_nil
    | cons char digits =>
        rw [written] at areDigits value first
        rw [List.forall_mem_cons] at areDigits
        have notZero : char ≠ '0' := fun same => first (congrArg some same)
        have whole : Nat.ofDigitChars 10 digits (digitValue char) = magnitude := by
          rw [Nat.ofDigitChars_cons, Nat.mul_zero, Nat.zero_add] at value
          exact value
        rw [List.cons_append, number, if_neg notZero, if_pos areDigits.1,
          digitsWithin_append areDigits.2 (Nat.le_trans (Nat.le_of_eq whole) bounded) ended, whole]
        dsimp only
        rw [ended, afterInteger_of_follows follows]
        rfl

theorem integral_of_inRange {negative : Bool} {magnitude : Nat} {value : Int} (rest : Text)
    (same : (if negative then -(magnitude : Int) else magnitude) = value)
    (inRange : leastInteger ≤ value ∧ value ≤ greatestInteger)
    (notMinusZero : ¬ (negative = true ∧ magnitude = 0)) :
    integral negative magnitude rest = .ok (.integer value inRange, rest) := by
  subst same
  unfold integral
  dsimp only
  rw [dif_pos inRange, if_neg notMinusZero]

end JsonTemplate.Json
