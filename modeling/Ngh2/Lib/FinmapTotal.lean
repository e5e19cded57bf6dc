import Mathlib.Algebra.BigOperators.Group.Finset.Basic
import Mathlib.Algebra.Order.BigOperators.Group.Finset
import Mathlib.Data.Finmap
import Mathlib.Tactic.Common

/-!
# The total of a weight over a finite map

A counter that is kept beside a dictionary – how many bytes all queues hold,
how much all accounts are owed – agrees with it when it is the sum, over the
keys, of a weight of what the key has. `Finmap.total` is that sum. Its rules
say by how much it moves when one key is assigned to or erased, as equations
in the natural numbers without subtraction, so that a caller's own truncated
subtraction is forced to be exact.
-/

namespace Finmap

variable {α β : Type} [DecidableEq α]

/-- The weight of what a key has; of a missing key, none. -/
def weight (f : β → ℕ) (d : Finmap fun _ : α => β) (k : α) : ℕ := (d.lookup k).elim 0 f

/-- **The total of a weight** over a finite map. -/
def total (f : β → ℕ) (d : Finmap fun _ : α => β) : ℕ := ∑ k ∈ d.keys, d.weight f k

variable {f : β → ℕ} {d : Finmap fun _ : α => β} {k : α}

@[simp] theorem total_empty : total f (∅ : Finmap fun _ : α => β) = 0 := by
  rw [total, keys_empty, Finset.sum_empty]

theorem weight_of_lookup {b : β} (h : d.lookup k = some b) : d.weight f k = f b := by
  rw [weight, h]
  rfl

theorem weight_of_none (h : d.lookup k = none) : d.weight f k = 0 := by
  rw [weight, h]
  rfl

/-- A key weighs no more than all of them. -/
theorem weight_le_total : d.weight f k ≤ d.total f := by
  by_cases hk : k ∈ d.keys
  · exact Finset.single_le_sum (f := d.weight f) (fun _ _ => Nat.zero_le _) hk
  · rw [weight_of_none (lookup_eq_none.mpr (mem_keys.not.mp hk))]
    exact Nat.zero_le _

/-- **Erasing a key takes its weight off the total.** -/
theorem total_erase : (d.erase k).total f + d.weight f k = d.total f := by
  have hsame : ∀ i ∈ d.keys.erase k, (d.erase k).weight f i = d.weight f i := by
    intro i hi
    rw [weight, lookup_erase_ne (Finset.ne_of_mem_erase hi), weight]
  rw [total, keys_erase, Finset.sum_congr rfl hsame]
  by_cases hk : k ∈ d.keys
  · exact Finset.sum_erase_add _ _ hk
  · rw [Finset.erase_eq_of_notMem hk, weight_of_none (lookup_eq_none.mpr (mem_keys.not.mp hk)),
      add_zero]
    rfl

/-- **Assigning to a key exchanges its weight.** -/
theorem total_insert (b : β) : (d.insert k b).total f + d.weight f k = d.total f + f b := by
  have herase : (d.insert k b).erase k = d.erase k := by
    refine ext_lookup fun i => ?_
    by_cases hi : i = k
    · rw [hi, lookup_erase, lookup_erase]
    · rw [lookup_erase_ne hi, lookup_erase_ne hi, lookup_insert_of_ne _ hi]
  have hnew := total_erase (f := f) (d := d.insert k b) (k := k)
  have hold := total_erase (f := f) (d := d) (k := k)
  rw [herase, weight_of_lookup (lookup_insert d)] at hnew
  omega

/-- Weights that agree on what the keys have agree in total. -/
theorem total_congr {g : β → ℕ} (h : ∀ k b, d.lookup k = some b → f b = g b) :
    d.total f = d.total g := by
  refine Finset.sum_congr rfl fun k _ => ?_
  rw [weight, weight]
  cases hk : d.lookup k with
  | none => rfl
  | some b => exact h k b hk

/-- Assigning a value of the same weight changes nothing. -/
theorem total_insert_eq {b b' : β} (h : d.lookup k = some b) (hf : f b' = f b) :
    (d.insert k b').total f = d.total f := by
  have hinsert := total_insert (f := f) (d := d) (k := k) b'
  rw [weight_of_lookup h] at hinsert
  omega

end Finmap
