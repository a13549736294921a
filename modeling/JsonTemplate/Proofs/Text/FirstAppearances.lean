import JsonTemplate.Text.Basic
import Mathlib.Data.List.Basic

set_option autoImplicit false

/-! The list of first appearances: it has the members of the list, each once, in the order
in which they first appear, and a search among them finds what a search in the list finds. -/

namespace JsonTemplate.Text

variable {α β : Type} [DecidableEq α]

theorem mem_firstAppearances_iff (items : List α) (item : α) :
    item ∈ firstAppearances items ↔ item ∈ items := by
  induction items with
  | nil => rfl
  | cons head rest ih =>
      rw [firstAppearances, List.mem_cons, List.mem_filter, ih, List.mem_cons, decide_eq_true_eq]
      by_cases same : item = head
      · simp [same]
      · simp [same]

/-- Of two first appearances the earlier one is the one whose first index is smaller. -/
theorem firstAppearances_pairwise [BEq α] [LawfulBEq α] (items : List α) :
    (firstAppearances items).Pairwise
      (fun left right => items.idxOf left < items.idxOf right) := by
  induction items with
  | nil => exact List.Pairwise.nil
  | cons head rest ih =>
      rw [firstAppearances, List.pairwise_cons]
      constructor
      · intro item member
        have different : item ≠ head := of_decide_eq_true (List.mem_filter.mp member).2
        rw [List.idxOf_cons_self, List.idxOf_cons_ne _ different.symm]
        exact Nat.succ_pos _
      · refine (ih.sublist List.filter_sublist).imp_of_mem ?_
        intro left right leftMember rightMember before
        have leftDifferent : left ≠ head := of_decide_eq_true (List.mem_filter.mp leftMember).2
        have rightDifferent : right ≠ head := of_decide_eq_true (List.mem_filter.mp rightMember).2
        rw [List.idxOf_cons_ne _ leftDifferent.symm, List.idxOf_cons_ne _ rightDifferent.symm]
        exact Nat.succ_lt_succ before

theorem firstAppearances_nodup (items : List α) : (firstAppearances items).Nodup :=
  (firstAppearances_pairwise items).imp (fun before same => by
    rw [same] at before
    exact Nat.lt_irrefl _ before)

private theorem findSome?_filter_ne (search : α → Option β) (items : List α) (refused : α)
    (nothing : search refused = none) :
    (items.filter (fun item => decide (item ≠ refused))).findSome? search =
      items.findSome? search := by
  induction items with
  | nil => rfl
  | cons head rest ih =>
      by_cases same : head = refused
      · rw [List.filter_cons_of_neg (by simp [same]), ih, List.findSome?_cons, same, nothing]
      · rw [List.filter_cons_of_pos (by simp [same]), List.findSome?_cons, List.findSome?_cons, ih]

theorem findSome?_firstAppearances (search : α → Option β) (items : List α) :
    (firstAppearances items).findSome? search = items.findSome? search := by
  induction items with
  | nil => rfl
  | cons head rest ih =>
      rw [firstAppearances, List.findSome?_cons, List.findSome?_cons]
      cases found : search head with
      | some result => rfl
      | none => rw [findSome?_filter_ne search _ head found, ih]

theorem firstAppearances_filter (keeps : α → Bool) (items : List α) :
    firstAppearances (items.filter keeps) = (firstAppearances items).filter keeps := by
  induction items with
  | nil => rfl
  | cons head rest ih =>
      cases kept : keeps head with
      | true =>
          rw [List.filter_cons_of_pos kept, firstAppearances, firstAppearances,
            List.filter_cons_of_pos kept, ih, List.filter_filter, List.filter_filter]
          simp only [Bool.and_comm]
      | false =>
          rw [List.filter_cons_of_neg (by simp [kept]), firstAppearances,
            List.filter_cons_of_neg (by simp [kept]), ih, List.filter_filter]
          apply List.filter_congr
          intro item _
          by_cases same : item = head
          · rw [same, kept, Bool.false_and]
          · rw [decide_eq_true same, Bool.and_true]

theorem firstAppearances_append_cons {items : List α} {item : α} (member : item ∈ items)
    (rest : List α) :
    firstAppearances (items ++ item :: rest) = firstAppearances (items ++ rest) := by
  induction items with
  | nil => cases member
  | cons head items ih =>
      rw [List.cons_append, List.cons_append, firstAppearances, firstAppearances]
      by_cases same : item = head
      · -- The later appearance is filtered out together with all others of the head.
        rw [← firstAppearances_filter, ← firstAppearances_filter, List.filter_append,
          List.filter_append, List.filter_cons_of_neg (by simp [same])]
      · rw [ih (List.mem_of_ne_of_mem same member)]

end JsonTemplate.Text
