import JsonTemplate.Json.Reader
import JsonTemplate.Proofs.Json.Addresses
import Mathlib.Data.List.Nodup
import Mathlib.Tactic.SplitIfs

set_option autoImplicit false

/-! What a document that was read is like: arrays and objects are nested within the levels
that may be opened, and no object holds a key twice. What lies inside such a document is like
that, too. -/

namespace JsonTemplate.Json

namespace Value

/-- Whether a document nests no more than so many arrays and objects, and no object in it
holds a key twice. -/
inductive Readable : Nat → Value → Prop where
  | null {depth : Nat} : Readable depth .null
  | bool {depth : Nat} (flag : Bool) : Readable depth (.bool flag)
  | number {depth : Nat} (figure : Number) : Readable depth (.number figure)
  | string {depth : Nat} (text : Text) : Readable depth (.string text)
  | array {depth : Nat} {items : List Value} (each : ∀ item ∈ items, Readable depth item) :
      Readable (depth + 1) (.array items)
  | object {depth : Nat} {members : List (Text × Value)}
      (distinct : (members.map Prod.fst).Nodup)
      (each : ∀ entry ∈ members, Readable depth entry.2) : Readable (depth + 1) (.object members)

private theorem put_of_not_mem {key : Text} {members : List (Text × Value)}
    (absent : key ∉ members.map Prod.fst) (value : Value) :
    put key value members = members ++ [(key, value)] := by
  induction members with
  | nil => rfl
  | cons entry rest ih =>
      rw [List.map_cons, List.mem_cons, not_or] at absent
      rw [put, if_neg (Ne.symm absent.1), ih absent.2]
      rfl

private theorem keys_put_of_mem {key : Text} {members : List (Text × Value)}
    (present : key ∈ members.map Prod.fst) (value : Value) :
    (put key value members).map Prod.fst = members.map Prod.fst := by
  induction members with
  | nil => cases present
  | cons entry rest ih =>
      rw [put]
      split
      · rfl
      · rename_i different
        rw [List.map_cons, List.mem_cons] at present
        have later := present.resolve_left fun same => different same.symm
        rw [List.map_cons, List.map_cons, ih later]

private theorem keys_put_nodup {members : List (Text × Value)}
    (distinct : (members.map Prod.fst).Nodup)
    (key : Text) (value : Value) : ((put key value members).map Prod.fst).Nodup := by
  by_cases present : key ∈ members.map Prod.fst
  · rw [keys_put_of_mem present]
    exact distinct
  · rw [put_of_not_mem present, List.map_append, List.nodup_append]
    refine ⟨distinct, List.nodup_singleton _, ?_⟩
    intro name listed other single same
    rw [List.map_singleton, List.mem_singleton] at single
    rw [same, single] at listed
    exact present listed

private theorem eq_or_mem_of_mem_put {key : Text} {value : Value} {members : List (Text × Value)}
    {entry : Text × Value} (member : entry ∈ put key value members) :
    entry.2 = value ∨ entry ∈ members := by
  induction members with
  | nil =>
      rw [put, List.mem_singleton] at member
      exact Or.inl (congrArg Prod.snd member)
  | cons first rest ih =>
      rw [put] at member
      split at member
      · rcases List.mem_cons.mp member with same | later
        · exact Or.inl (congrArg Prod.snd same)
        · exact Or.inr (List.mem_cons_of_mem _ later)
      · rcases List.mem_cons.mp member with same | later
        · exact Or.inr (same ▸ List.mem_cons_self)
        · exact (ih later).imp_right (List.mem_cons_of_mem _)

/-- Setting keys one after the other keeps them distinct, and puts in no other values. -/
theorem foldl_put {holds : Value → Prop} {written : List (Text × Value)}
    (each : ∀ entry ∈ written, holds entry.2) (members : List (Text × Value))
    (distinct : (members.map Prod.fst).Nodup) (before : ∀ entry ∈ members, holds entry.2) :
    let all := written.foldl (fun members entry => put entry.1 entry.2 members) members
    (all.map Prod.fst).Nodup ∧ ∀ entry ∈ all, holds entry.2 := by
  induction written generalizing members with
  | nil => exact ⟨distinct, before⟩
  | cons entry rest ih =>
      rw [List.forall_mem_cons] at each
      refine ih each.2 _ (keys_put_nodup distinct _ _) ?_
      intro other member
      rcases eq_or_mem_of_mem_put member with same | earlier
      · rw [same]
        exact each.1
      · exact before other earlier

private theorem foldl_put_of_nodup {members written : List (Text × Value)}
    (distinct : ((members ++ written).map Prod.fst).Nodup) :
    written.foldl (fun members entry => put entry.1 entry.2 members) members =
      members ++ written := by
  induction written generalizing members with
  | nil => exact (List.append_nil members).symm
  | cons entry rest ih =>
      have absent : entry.1 ∉ members.map Prod.fst := by
        intro present
        rw [List.map_append, List.nodup_append] at distinct
        exact distinct.2.2 _ present _ List.mem_cons_self rfl
      rw [List.foldl_cons, put_of_not_mem absent, ih, List.append_assoc, List.singleton_append]
      rw [List.append_assoc, List.singleton_append]
      exact distinct

theorem collect_of_nodup {written : List (Text × Value)}
    (distinct : (written.map Prod.fst).Nodup) : collect written = written :=
  foldl_put_of_nodup distinct

theorem readable_collect {depth : Nat} {written : List (Text × Value)}
    (each : ∀ entry ∈ written, Readable depth entry.2) :
    Readable (depth + 1) (.object (collect written)) := by
  obtain ⟨distinct, holds⟩ := foldl_put each [] List.nodup_nil nofun
  exact .object distinct holds

private theorem Readable.mono {depth : Nat} {value : Value} (readable : Readable depth value) :
    ∀ {more : Nat}, depth ≤ more → Readable more value := by
  induction readable with
  | null => exact fun _ => .null
  | bool flag => exact fun _ => .bool flag
  | number figure => exact fun _ => .number figure
  | string text => exact fun _ => .string text
  | array each ih =>
      intro more deeper
      obtain ⟨less, rfl⟩ := Nat.exists_eq_add_of_le' (Nat.le_trans (Nat.le_add_left 1 _) deeper)
      exact .array fun item listed => ih item listed (Nat.le_of_succ_le_succ deeper)
  | object distinct each ih =>
      intro more deeper
      obtain ⟨less, rfl⟩ := Nat.exists_eq_add_of_le' (Nat.le_trans (Nat.le_add_left 1 _) deeper)
      exact .object distinct fun entry listed =>
        ih entry listed (Nat.le_of_succ_le_succ deeper)

private theorem mem_of_lookup {key : Text} {members : List (Text × Value)} {found : Value}
    (there : lookup key members = some found) : (key, found) ∈ members := by
  induction members with
  | nil => cases there
  | cons entry rest ih =>
      obtain ⟨name, value⟩ := entry
      rw [lookup] at there
      split at there
      · rename_i same
        cases there
        rw [same]
        exact List.mem_cons_self
      · exact List.mem_cons_of_mem _ (ih there)

theorem child?_cases {key : Key} {value child : Value} (below : value.child? key = some child) :
    (∃ items, value = .array items ∧ child ∈ items) ∨
      ∃ members name, value = .object members ∧ (name, child) ∈ members := by
  cases key with
  | member name =>
      cases value with
      | object members => exact Or.inr ⟨members, name, rfl, mem_of_lookup below⟩
      | null => cases below
      | bool flag => cases below
      | number figure => cases below
      | string text => cases below
      | array items => cases below
  | item index =>
      cases value with
      | array items => exact Or.inl ⟨items, rfl, List.mem_of_getElem? below⟩
      | null => cases below
      | bool flag => cases below
      | number figure => cases below
      | string text => cases below
      | object members => cases below

theorem Readable.child {depth : Nat} {key : Key} {value child : Value}
    (readable : Readable depth value) (below : value.child? key = some child) :
    Readable depth child := by
  rcases child?_cases below with ⟨items, rfl, listed⟩ | ⟨members, name, rfl, listed⟩
  · cases readable with
    | array each => exact (each child listed).mono (Nat.le_succ _)
  · cases readable with
    | object distinct each => exact (each (name, child) listed).mono (Nat.le_succ _)

theorem Readable.at {depth : Nat} {address : Address} {value found : Value}
    (readable : Readable depth value) (there : value.at? address = some found) :
    Readable depth found := by
  induction address generalizing value with
  | nil =>
      cases there
      exact readable
  | cons key rest ih =>
      obtain ⟨child, below, further⟩ := Option.bind_eq_some_iff.mp there
      exact ih (readable.child below) further

end Value

private theorem bind_eq_ok_iff {α β : Type} {first : Except Stop α} {next : α → Except Stop β}
    {result : β} : (first >>= next) = .ok result ↔
      ∃ between, first = .ok between ∧ next between = .ok result := by
  cases first with
  | error stop =>
      constructor
      · intro done
        cases done
      · rintro ⟨between, failed, -⟩
        cases failed
  | ok between =>
      constructor
      · intro done
        exact ⟨between, rfl, done⟩
      · rintro ⟨other, same, done⟩
        cases same
        exact done

open Value (Readable collect readable_collect)

/-- What a value is that was read: a value without parts, or an array or object whose parts
were read one level further down. -/
private theorem value_cases {calls depth : Nat} {unread rest : Text} {document : Value}
    (read : value (calls + 1) depth unread = .ok (document, rest)) :
    (∀ depth, Readable depth document) ∨
      ∃ below start, depth = below + 1 ∧
        ((∃ parts, document = .array parts ∧ items calls below true start = .ok (parts, rest)) ∨
          ∃ parts, document = .object (collect parts) ∧
            members calls below true start = .ok (parts, rest)) := by
  rw [value] at read
  split at read
  · cases read
  · split_ifs at read with n t f minus digit quote bracket brace
    · obtain ⟨_, -, same⟩ := bind_eq_ok_iff.mp read
      cases same
      exact Or.inl fun _ => .null
    · obtain ⟨_, -, same⟩ := bind_eq_ok_iff.mp read
      cases same
      exact Or.inl fun _ => .bool true
    · obtain ⟨_, -, same⟩ := bind_eq_ok_iff.mp read
      cases same
      exact Or.inl fun _ => .bool false
    · obtain ⟨_, -, same⟩ := bind_eq_ok_iff.mp read
      cases same
      exact Or.inl fun _ => .number _
    · obtain ⟨_, -, same⟩ := bind_eq_ok_iff.mp read
      cases same
      exact Or.inl fun _ => .number _
    · obtain ⟨_, -, same⟩ := bind_eq_ok_iff.mp read
      cases same
      exact Or.inl fun _ => .string _
    · cases depth with
      | zero => cases read
      | succ below =>
          obtain ⟨⟨parts, after⟩, inside, same⟩ := bind_eq_ok_iff.mp read
          cases same
          exact Or.inr ⟨below, _, rfl, Or.inl ⟨parts, rfl, inside⟩⟩
    · cases depth with
      | zero => cases read
      | succ below =>
          obtain ⟨⟨parts, after⟩, inside, same⟩ := bind_eq_ok_iff.mp read
          cases same
          exact Or.inr ⟨below, _, rfl, Or.inr ⟨parts, rfl, inside⟩⟩
    · cases read

private theorem items_cases {calls depth : Nat} {first : Bool} {unread rest : Text}
    {parts : List Value} (read : items (calls + 1) depth first unread = .ok (parts, rest)) :
    parts = [] ∨ ∃ item others start after, parts = item :: others ∧
      value calls depth start = .ok (item, after) ∧
      items calls depth false after = .ok (others, rest) := by
  rw [items] at read
  obtain ⟨⟨more, start⟩, -, read⟩ := bind_eq_ok_iff.mp read
  cases more with
  | false =>
      cases read
      exact Or.inl rfl
  | true =>
      obtain ⟨⟨item, after⟩, inside, read⟩ := bind_eq_ok_iff.mp read
      obtain ⟨⟨others, last⟩, later, same⟩ := bind_eq_ok_iff.mp read
      cases same
      exact Or.inr ⟨item, others, start, after, rfl, inside, later⟩

private theorem members_cases {calls depth : Nat} {first : Bool} {unread rest : Text}
    {parts : List (Text × Value)}
    (read : members (calls + 1) depth first unread = .ok (parts, rest)) :
    parts = [] ∨ ∃ key item others start after, parts = (key, item) :: others ∧
      value calls depth start = .ok (item, after) ∧
      members calls depth false after = .ok (others, rest) := by
  rw [members] at read
  obtain ⟨⟨more, start⟩, -, read⟩ := bind_eq_ok_iff.mp read
  cases more with
  | false =>
      cases read
      exact Or.inl rfl
  | true =>
      obtain ⟨⟨key, afterKey⟩, -, read⟩ := bind_eq_ok_iff.mp read
      obtain ⟨afterColon, -, read⟩ := bind_eq_ok_iff.mp read
      obtain ⟨⟨item, after⟩, inside, read⟩ := bind_eq_ok_iff.mp read
      obtain ⟨⟨others, last⟩, later, same⟩ := bind_eq_ok_iff.mp read
      cases same
      exact Or.inr ⟨key, item, others, afterColon, after, rfl, inside, later⟩

/-- What a number of calls makes of a text is within the levels that may be opened. -/
structure ReadsWithin (calls : Nat) : Prop where
  value : ∀ {depth unread document rest},
    value calls depth unread = .ok (document, rest) → Readable depth document
  items : ∀ {depth first unread parts rest},
    items calls depth first unread = .ok (parts, rest) → ∀ item ∈ parts, Readable depth item
  members : ∀ {depth first unread parts rest},
    members calls depth first unread = .ok (parts, rest) →
      ∀ entry ∈ parts, Readable depth entry.2

theorem readsWithin (calls : Nat) : ReadsWithin calls := by
  induction calls with
  | zero => exact ⟨nofun, nofun, nofun⟩
  | succ calls ih =>
      constructor
      · intro depth unread document rest read
        rcases value_cases read with flat | ⟨below, start, rfl, ⟨parts, rfl, inside⟩ |
          ⟨parts, rfl, inside⟩⟩
        · exact flat depth
        · exact .array (ih.items inside)
        · exact readable_collect (ih.members inside)
      · intro depth first unread parts rest read
        rcases items_cases read with rfl | ⟨item, others, start, after, rfl, inside, later⟩
        · exact nofun
        · exact List.forall_mem_cons.mpr ⟨ih.value inside, ih.items later⟩
      · intro depth first unread parts rest read
        rcases members_cases read with rfl |
          ⟨key, item, others, start, after, rfl, inside, later⟩
        · exact nofun
        · exact List.forall_mem_cons.mpr ⟨ih.value inside, ih.members later⟩

theorem readable_of_read {text : Text} {document : Value} (accepted : read text = .ok document) :
    Readable depthLimit document := by
  unfold read at accepted
  split at accepted
  · cases accepted
  · rename_i came unread made
    split at accepted
    · cases accepted
    · rename_i finished done
      cases accepted
      unfold Json.finished at done
      split at done
      · cases done
        exact (readsWithin _).value made
      · cases done

end JsonTemplate.Json
