import Mathlib.Algebra.Ring.Nat
import Ngh2.Lib.Run

/-!
# Amortized costs

A step of a system can be expensive if other steps have paid for it. The usual
argument gives each state a potential, which is what has been paid and not been
used, and shows of a single step that its cost and the potential it leaves are
within the potential it found and what it is charged. Then the costs of a whole
run are within its charges (`Run.amortized`).

Nothing is said of a run that breaks something on the way. The accounts are
kept in the states of interest only, where a state of interest comes from
another one.
-/

variable {σ ℓ ω : Type}

/-- What a quantity of a step comes to over a history. -/
def overall (quantity : Entry σ ℓ ω → Nat) (h : List (Entry σ ℓ ω)) : Nat := (h.map quantity).sum

@[simp]
theorem overall_nil (quantity : Entry σ ℓ ω → Nat) : overall quantity [] = 0 := rfl

theorem overall_cons (quantity : Entry σ ℓ ω → Nat) (e : Entry σ ℓ ω) (h : List (Entry σ ℓ ω)) :
    overall quantity (e :: h) = quantity e + overall quantity h := by
  rw [overall, List.map_cons, List.sum_cons, overall]

/-- What two quantities come to together. -/
theorem overall_add (f g : Entry σ ℓ ω → Nat) (h : List (Entry σ ℓ ω)) :
    overall (fun e => f e + g e) h = overall f h + overall g h := by
  induction h with
  | nil => rfl
  | cons e h ih =>
    simp only [overall_cons, ih]
    omega

/-- What a multiple of a quantity comes to. -/
theorem overall_mul (n : Nat) (f : Entry σ ℓ ω → Nat) (h : List (Entry σ ℓ ω)) :
    overall (fun e => n * f e) h = n * overall f h := by
  induction h with
  | nil => rfl
  | cons e h ih => rw [overall_cons, overall_cons, ih, Nat.mul_add]

/-- Counting steps is adding one for each. -/
theorem overall_ite (p : Entry σ ℓ ω → Bool) (h : List (Entry σ ℓ ω)) :
    overall (fun e => if p e then 1 else 0) h = h.countP p := by
  induction h with
  | nil => rfl
  | cons e h ih =>
    rw [overall_cons, ih, List.countP_cons, Nat.add_comm]

namespace Run

variable {step : σ → ℓ → Option (ω × σ)} {Allowed : List (Entry σ ℓ ω) → σ → ℓ → Prop}
  {init : σ}

/-- **The potential method**, over the runs that end in a good state, where a
good state comes from a good one. If the cost of a step and the potential it
leaves are within the potential it found and its charge, the costs of a run and
the potential it leaves are within the potential it started with and its
charges. -/
theorem amortized (Good : σ → Prop) (Φ : σ → Nat) {cost charge : Entry σ ℓ ω → Nat}
    (hgood : ∀ {h s l o s'}, Run step Allowed init h s → Allowed h s l →
      step s l = some (o, s') → Good s' → Good s)
    (hpay : ∀ {h s l o s'}, Run step Allowed init h s → Good s → Allowed h s l →
      step s l = some (o, s') → Good s' →
        cost ⟨s, l, o, s'⟩ + Φ s' ≤ Φ s + charge ⟨s, l, o, s'⟩)
    {h : List (Entry σ ℓ ω)} {s : σ} (hrun : Run step Allowed init h s) (hs : Good s) :
    overall cost h + Φ s ≤ Φ init + overall charge h := by
  induction hrun with
  | start => exact Nat.le_of_eq (by rw [overall_nil, overall_nil, Nat.zero_add, Nat.add_zero])
  | extend prior allowed taken ih =>
    have hbefore := hgood prior allowed taken hs
    have hprior := ih hbefore
    have hstep := hpay prior hbefore allowed taken hs
    rw [overall_cons, overall_cons]
    omega

end Run
