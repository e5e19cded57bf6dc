import Mathlib.Data.Nat.ModEq
import Mathlib.Tactic.Common

/-!
# Counters that wrap

An unsigned machine integer adds and subtracts modulo the number `M` of its
values. Two questions are asked of a counter kept in one: what it says, and
when what it says is what it counts.

A counter *stands for* a number when it is its remainder. Both operations keep
that (`Wrapping.add_mod`, `Wrapping.sub_mod`), whatever the counter has wrapped
to in between, so a counter that is updated with every change of what it counts
stands for it for ever. It is equal to it exactly while that is below `M`
(`Wrapping.mod_eq_iff`).
-/

namespace Wrapping

variable {M a b n : Nat}

/-- `a + b`. -/
def add (M a b : Nat) : Nat := (a + b) % M

/-- `a - b`: what is missing wraps around. -/
def sub (M a b : Nat) : Nat := (a + (M - b % M)) % M

theorem sub_lt (h : 0 < M) (a b : Nat) : sub M a b < M := Nat.mod_lt _ h

/-- **Adding keeps what a counter stands for.** -/
theorem add_mod (n b : Nat) : add M (n % M) b = (n + b) % M := Nat.mod_add_mod n M b

/-- **Subtracting keeps what a counter stands for**: no more is taken off it
than what it stands for, which may be more than what it says. -/
theorem sub_mod (hM : 0 < M) (h : b ≤ n) : sub M (n % M) b = (n - b) % M := by
  have hb : b % M < M := Nat.mod_lt b hM
  have hsplit : n + (M - b % M) = (n - b) + M * (b / M + 1) := by
    have hdiv : b = M * (b / M) + b % M := (Nat.div_add_mod b M).symm
    rw [Nat.mul_add, Nat.mul_one]
    omega
  rw [sub, Nat.mod_add_mod, hsplit, Nat.add_mul_mod_self_left]

/-- It does not matter whether what is subtracted has wrapped. -/
theorem sub_mod_mod (hM : 0 < M) (h : b ≤ n) : sub M (n % M) (b % M) = (n - b) % M := by
  rw [← sub_mod hM h, sub, sub, Nat.mod_mod]

/-- **Subtracting twice is subtracting once**, whatever wraps in between. -/
theorem sub_sub (hM : 0 < M) (n a b : Nat) : sub M (sub M n a) b = sub M n (a + b) := by
  have ha : a % M < M := Nat.mod_lt a hM
  have hb : b % M < M := Nat.mod_lt b hM
  rw [sub, sub, sub, Nat.mod_add_mod, Nat.add_mod a b M]
  by_cases h : a % M + b % M < M
  · rw [Nat.mod_eq_of_lt h, show n + (M - a % M) + (M - b % M)
      = n + (M - (a % M + b % M)) + M by omega, Nat.add_mod_right]
  · have hle : M ≤ a % M + b % M := not_lt.mp h
    rw [Nat.mod_eq_sub_mod hle, Nat.mod_eq_of_lt (a := a % M + b % M - M) (by omega)]
    congr 1
    omega

/-- Two numbers are added in either order. -/
theorem add_right_comm (a b c : Nat) : add M (add M a b) c = add M (add M a c) b := by
  rw [add, add, add, add, Nat.mod_add_mod, Nat.mod_add_mod, Nat.add_right_comm]

/-- A counter says what it counts exactly while that is below the modulus. -/
theorem mod_eq_iff (hM : 0 < M) : n % M = n ↔ n < M := by
  constructor
  · intro h
    rw [← h]
    exact Nat.mod_lt n hM
  · exact Nat.mod_eq_of_lt

end Wrapping
