import JsonTemplate.Text.Basic

set_option autoImplicit false

/-! ASCII characters among the bytes of a text. No byte of any other character looks like
one of them, so a pattern of ASCII characters that is found among the bytes is found among
the characters, and begins and ends between two of these. -/

namespace JsonTemplate.Text

theorem utf8_cons (char : Char) (rest : Text) :
    utf8 (char :: rest) = String.utf8EncodeChar char ++ utf8 rest := rfl

theorem utf8_append (left right : Text) : utf8 (left ++ right) = utf8 left ++ utf8 right :=
  List.flatMap_append

private theorem utf8_eq_nil {text : Text} (empty : utf8 text = []) : text = [] := by
  cases text with
  | nil => rfl
  | cons char rest =>
      rw [utf8_cons, List.append_eq_nil_iff] at empty
      exact absurd empty.1 String.utf8EncodeChar_ne_nil

private theorem utf8Encode_eq_iff (text : Text) (bytes : List UInt8) :
    text.utf8Encode = ⟨bytes.toArray⟩ ↔ text.utf8 = bytes := by
  rw [ByteArray.ext_iff, List.utf8Encode, List.data_toByteArray]
  exact ⟨List.toArray_inj, congrArg List.toArray⟩

/-- Decoding bytes is finding the text that has them. -/
theorem ofUtf8?_eq_some_iff (bytes : List UInt8) (text : Text) :
    ofUtf8? bytes = some text ↔ text.utf8 = bytes := by
  rw [← utf8Encode_eq_iff, ofUtf8?, Option.map_eq_some_iff]
  constructor
  · intro decoded
    obtain ⟨string, accepted, rfl⟩ := decoded
    rw [String.fromUTF8?, Option.dite_none_right_eq_some] at accepted
    obtain ⟨valid, made⟩ := accepted
    rw [String.utf8Encode_toList, ← Option.some.inj made]
    rfl
  · intro encoded
    have valid : ByteArray.IsValidUTF8 ⟨bytes.toArray⟩ := ⟨text, encoded.symm⟩
    refine ⟨String.ofList text, ?_, String.toList_ofList⟩
    rw [String.fromUTF8?, dif_pos valid, Option.some_inj]
    exact String.toByteArray_inj.mp (encoded.symm.trans String.toByteArray_ofList.symm)

theorem utf8_injective {left right : Text} (same : left.utf8 = right.utf8) : left = right := by
  have decoded := (ofUtf8?_eq_some_iff right.utf8 left).mpr same
  rw [(ofUtf8?_eq_some_iff right.utf8 right).mpr rfl] at decoded
  exact (Option.some.inj decoded).symm

private theorem utf8EncodeChar_of_ascii {char : Char} (ascii : char.toNat < 128) :
    String.utf8EncodeChar char = [UInt8.ofNat char.toNat] := by
  have small : char.val.toNat ≤ 127 := Nat.le_of_lt_succ ascii
  rw [String.utf8EncodeChar]
  exact if_pos small

private theorem utf8EncodeChar_of_mem {char : Char} {byte : UInt8} (small : byte.toNat < 128)
    (member : byte ∈ String.utf8EncodeChar char) :
    String.utf8EncodeChar char = [byte] ∧ char.toNat = byte.toNat := by
  have code : char.val.toNat = char.toNat := rfl
  unfold String.utf8EncodeChar at member ⊢
  dsimp only at member ⊢
  split at member
  · rename_i ascii
    rw [List.mem_singleton] at member
    rw [if_pos ascii, member]
    refine ⟨rfl, ?_⟩
    rw [UInt8.toNat_ofNat']
    omega
  · -- every byte of a longer encoding is 128 or more
    exfalso
    split at member
    · simp only [List.mem_cons, List.not_mem_nil, or_false] at member
      rcases member with rfl | rfl <;> rw [UInt8.toNat_ofNat'] at small <;> omega
    · split at member
      · simp only [List.mem_cons, List.not_mem_nil, or_false] at member
        rcases member with rfl | rfl | rfl <;> rw [UInt8.toNat_ofNat'] at small <;> omega
      · simp only [List.mem_cons, List.not_mem_nil, or_false] at member
        rcases member with rfl | rfl | rfl | rfl <;> rw [UInt8.toNat_ofNat'] at small <;> omega

private theorem split_at_ascii {char : Char} (ascii : char.toNat < 128) {text : Text}
    {before after : List UInt8} (found : utf8 text = before ++ (utf8 [char] ++ after)) :
    ∃ left right, text = left ++ char :: right ∧ utf8 left = before ∧ utf8 right = after := by
  have encoded : utf8 [char] = [UInt8.ofNat char.toNat] := by
    rw [utf8_cons, utf8EncodeChar_of_ascii ascii]
    rfl
  have byteValue : (UInt8.ofNat char.toNat).toNat = char.toNat := by
    rw [UInt8.toNat_ofNat']
    omega
  rw [encoded, List.singleton_append] at found
  induction text generalizing before with
  | nil =>
      have impossible := congrArg List.length found
      simp [utf8] at impossible
  | cons head rest ih =>
      rw [utf8_cons] at found
      rcases List.append_eq_append_iff.mp found with ⟨more, whole, later⟩ | ⟨more, whole, later⟩
      · obtain ⟨left, right, same, leftBytes, rightBytes⟩ := ih later
        refine ⟨head :: left, right, by rw [same]; rfl, ?_, rightBytes⟩
        rw [utf8_cons, leftBytes, whole]
      · cases more with
        | nil =>
            rw [List.append_nil] at whole
            rw [List.nil_append] at later
            have remaining : utf8 rest = [] ++ UInt8.ofNat char.toNat :: after := later.symm
            obtain ⟨left, right, same, leftBytes, rightBytes⟩ := ih remaining
            refine ⟨head :: left, right, by rw [same]; rfl, ?_, rightBytes⟩
            rw [utf8_cons, leftBytes, whole, List.append_nil]
        | cons byte more =>
            obtain ⟨sameByte, sameLater⟩ := List.cons.inj later
            have member : UInt8.ofNat char.toNat ∈ String.utf8EncodeChar head := by
              rw [whole, ← sameByte]
              simp
            obtain ⟨single, code⟩ := utf8EncodeChar_of_mem (by omega) member
            have sameChar : head = char := Char.toNat_inj.mp (code.trans byteValue)
            rw [single] at whole
            cases before with
            | nil =>
                obtain ⟨_, nothing⟩ := List.cons.inj whole
                refine ⟨[], rest, by rw [sameChar]; rfl, rfl, ?_⟩
                rw [sameLater, ← nothing]
                rfl
            | cons first others =>
                have impossible := congrArg List.length whole
                simp at impossible

private theorem prefix_of_ascii {pattern : Text} (ascii : ∀ char ∈ pattern, char.toNat < 128)
    {text : Text} {after : List UInt8} (found : utf8 text = utf8 pattern ++ after) :
    ∃ right, text = pattern ++ right ∧ utf8 right = after := by
  induction pattern generalizing text with
  | nil => exact ⟨text, rfl, found⟩
  | cons char pattern ih =>
      have whole : utf8 (char :: pattern) = utf8 [char] ++ utf8 pattern :=
        utf8_append [char] pattern
      have first : utf8 text = [] ++ (utf8 [char] ++ (utf8 pattern ++ after)) := by
        rw [found, whole, List.append_assoc, List.nil_append]
      obtain ⟨left, right, same, leftBytes, rightBytes⟩ :=
        split_at_ascii (ascii char List.mem_cons_self) first
      obtain ⟨last, sameRight, lastBytes⟩ :=
        ih (fun other member => ascii other (List.mem_cons_of_mem _ member)) rightBytes
      refine ⟨last, ?_, lastBytes⟩
      rw [same, utf8_eq_nil leftBytes, sameRight]
      rfl

/-- A pattern of ASCII characters among the bytes of a text stands in the text. -/
theorem exists_append_of_utf8 {pattern : Text} (nonempty : pattern ≠ [])
    (ascii : ∀ char ∈ pattern, char.toNat < 128) {text : Text} {before after : List UInt8}
    (found : utf8 text = before ++ utf8 pattern ++ after) :
    ∃ left right, text = left ++ pattern ++ right ∧ utf8 left = before ∧ utf8 right = after := by
  cases pattern with
  | nil => exact absurd rfl nonempty
  | cons char pattern =>
      have whole : utf8 (char :: pattern) = utf8 [char] ++ utf8 pattern :=
        utf8_append [char] pattern
      have first : utf8 text = before ++ (utf8 [char] ++ (utf8 pattern ++ after)) := by
        rw [found, whole, List.append_assoc, List.append_assoc]
      obtain ⟨left, right, same, leftBytes, rightBytes⟩ :=
        split_at_ascii (ascii char List.mem_cons_self) first
      obtain ⟨last, sameRight, lastBytes⟩ :=
        prefix_of_ascii (fun other member => ascii other (List.mem_cons_of_mem _ member))
          rightBytes
      refine ⟨left, last, ?_, leftBytes, lastBytes⟩
      rw [same, sameRight]
      simp

theorem bytesNotAfter_iff (left right : List UInt8) :
    bytesNotAfter left right = true ↔ left ≤ right := by
  induction left generalizing right with
  | nil =>
      constructor
      · intro _
        exact List.nil_le right
      · intro _
        rfl
  | cons first lefts ih =>
      cases right with
      | nil =>
          constructor
          · intro impossible
            cases impossible
          · intro below
            exact absurd (List.le_nil.mp below) (List.cons_ne_nil _ _)
      | cons second rights =>
          rw [bytesNotAfter, List.cons_le_cons_iff]
          by_cases same : first = second
          · rw [if_pos same, ih]
            constructor
            · intro below
              exact Or.inr ⟨same, below⟩
            · rintro (smaller | ⟨-, below⟩)
              · rw [same] at smaller
                exact absurd smaller (UInt8.lt_irrefl second)
              · exact below
          · rw [if_neg same, decide_eq_true_iff, ← UInt8.lt_iff_toNat_lt]
            constructor
            · exact Or.inl
            · rintro (smaller | ⟨equal, -⟩)
              · exact smaller
              · exact absurd equal same

def Precedes (left right : Text) : Prop := left.utf8 < right.utf8

theorem precedes_of_bytesNotAfter {left right : Text} (different : left ≠ right)
    (sorted : bytesNotAfter left.utf8 right.utf8 = true) : Precedes left right := by
  refine List.not_le.mp ?_
  intro above
  have below := (bytesNotAfter_iff _ _).mp sorted
  exact different (utf8_injective (List.le_antisymm below above))

theorem bytesNotAfter_trans (first second third : Text)
    (lower : bytesNotAfter first.utf8 second.utf8 = true)
    (upper : bytesNotAfter second.utf8 third.utf8 = true) :
    bytesNotAfter first.utf8 third.utf8 = true := by
  rw [bytesNotAfter_iff] at lower upper ⊢
  exact List.le_trans lower upper

theorem bytesNotAfter_total (left right : Text) :
    (bytesNotAfter left.utf8 right.utf8 || bytesNotAfter right.utf8 left.utf8) = true := by
  rw [Bool.or_eq_true, bytesNotAfter_iff, bytesNotAfter_iff]
  exact List.le_total _ _

end JsonTemplate.Text
