import Mathlib.Data.Finset.Insert
import Mathlib.Data.Finset.Erase
import Mathlib.Data.List.Count
import Mathlib.Tactic.Common

/-!
# Handles that are created, used and deleted

A library hands out handles and takes them back. What may be done with them is
a property of the log of what was done: a handle that is created is a new one,
and one that is used or deleted was created and not deleted since. `WellUsed`
says so of a log, from the handles that are live when it begins, and `after`
says which are live when it ends. The handle that is used may also be missing
altogether, which is never proper.

The rules compose logs, and say what a log is like that only uses one handle.
`WellUsed.count_deleted_le` is what is left of it when the order is forgotten:
no handle is deleted more often than it was created.
-/

variable {α : Type*} [DecidableEq α]

/-- **What is done with a handle.** -/
inductive HandleUse (α : Type*) where
  | created (a : α)
  | used (a : Option α)
  | deleted (a : α)
  deriving DecidableEq

namespace HandleUse

/-- The live handles after a use. -/
def next (live : Finset α) : HandleUse α → Finset α
  | created a => insert a live
  | used _ => live
  | deleted a => live.erase a

/-- **When a use is proper**, given the live handles. -/
def Proper (live : Finset α) : HandleUse α → Prop
  | created a => a ∉ live
  | used a => ∃ b ∈ live, a = some b
  | deleted a => a ∈ live

/-- The live handles after a log. -/
def after (live : Finset α) (log : List (HandleUse α)) : Finset α := log.foldl next live

/-- **Every use of a log is proper** when it is made. -/
def WellUsed (live : Finset α) : List (HandleUse α) → Prop
  | [] => True
  | x :: log => x.Proper live ∧ WellUsed (x.next live) log

variable {live : Finset α} {log log' : List (HandleUse α)} {a : α}

@[simp] theorem after_nil : after live [] = live := rfl

theorem after_append : after live (log ++ log') = after (after live log) log' :=
  List.foldl_append

theorem wellUsed_append :
    WellUsed live (log ++ log') ↔ WellUsed live log ∧ WellUsed (after live log) log' := by
  induction log generalizing live with
  | nil => exact (iff_of_eq (true_and _)).symm
  | cons x log ih =>
    show x.Proper live ∧ WellUsed (x.next live) (log ++ log') ↔
      (x.Proper live ∧ WellUsed (x.next live) log) ∧ WellUsed (after (x.next live) log) log'
    rw [ih, and_assoc]

/-- A log that uses one live handle is proper. -/
theorem wellUsed_of_used (ha : a ∈ live) (h : ∀ x ∈ log, x = used (some a)) :
    WellUsed live log ∧ after live log = live := by
  induction log with
  | nil => exact ⟨trivial, rfl⟩
  | cons x log ih =>
    obtain ⟨hlog, hlive⟩ := ih fun y hy => h y (List.mem_cons_of_mem x hy)
    obtain rfl := h x List.mem_cons_self
    exact ⟨⟨⟨a, ha, rfl⟩, hlog⟩, hlive⟩

/-- What was not live at the beginning was created before it was deleted. -/
theorem WellUsed.count_deleted_le (h : WellUsed live log) (a : α) :
    log.count (deleted a) ≤ log.count (created a) + if a ∈ live then 1 else 0 := by
  induction log generalizing live with
  | nil => exact Nat.zero_le _
  | cons x log ih =>
    obtain ⟨hx, hlog⟩ := h
    have hcount := ih hlog
    cases x with
    | created b =>
      by_cases hb : b = a
      · subst hb
        have hfresh : b ∉ live := hx
        simp [next, hfresh] at hcount ⊢
        exact hcount
      · by_cases ha : a ∈ live <;> simpa [next, hb, Ne.symm hb, ha] using hcount
    | used b => by_cases ha : a ∈ live <;> simpa [next, ha] using hcount
    | deleted b =>
      by_cases hb : b = a
      · subst hb
        have hlive : b ∈ live := hx
        simp [next, hlive] at hcount ⊢
        exact hcount
      · by_cases ha : a ∈ live <;> simpa [next, hb, Ne.symm hb, ha] using hcount

end HandleUse
