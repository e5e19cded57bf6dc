import Ngh2.Lib.Effect

/-!
# Two computations side by side

That something does not matter to a program is a statement about two of its
runs: started from states that differ in it, they do the same. `Relates R Q x y`
says so of two computations: run in one environment from states that `R` relates
there, they raise the same exception or return values related by `Q`, and they
leave states related by `R` again.

The notion composes along every construct a body is written with, so that a
long body is shown to agree with another, or with itself, one line at a time.
What is not assumed is that the two are the same: where the states are
represented differently, so may be what is read from them.
-/

namespace Effect

variable {ε ρ σ τ α β γ δ : Type}

/-- **Two results that agree**: the same exception, or related values. -/
inductive Agree (Q : α → β → Prop) : Except ε α → Except ε β → Prop
  | raised (e : ε) : Agree Q (.error e) (.error e)
  | returned {a : α} {b : β} (related : Q a b) : Agree Q (.ok a) (.ok b)

/-- Results that agree on equal values are equal. -/
theorem Agree.eq {x y : Except ε α} (h : Agree Eq x y) : x = y := by
  cases h with
  | raised e => rfl
  | returned related => rw [related]

/-- **Two computations that agree** on related states, and leave related
states. -/
def Relates (R : ρ → σ → τ → Prop) (Q : α → β → Prop) (x : Effect ε ρ σ α)
    (y : Effect ε ρ τ β) : Prop :=
  ∀ r s t, R r s t → Agree Q (x.run r s).1 (y.run r t).1 ∧ R r (x.run r s).2 (y.run r t).2

section Rules

variable {R : ρ → σ → τ → Prop} {Q : α → β → Prop} {Q' : γ → δ → Prop}

theorem relates_pure {a : α} {b : β} (h : Q a b) :
    Relates R Q (pure a : Effect ε ρ σ α) (pure b) := fun _ _ _ hR => ⟨.returned h, hR⟩

theorem relates_raise (e : ε) : Relates R Q (raise e : Effect ε ρ σ α) (raise e) :=
  fun _ _ _ hR => ⟨.raised e, hR⟩

theorem relates_read : Relates R Eq (read : Effect ε ρ σ ρ) read :=
  fun _ _ _ hR => ⟨.returned rfl, hR⟩

theorem relates_modify {f : σ → σ} {g : τ → τ} (h : ∀ r s t, R r s t → R r (f s) (g t)) :
    Relates R Eq (modify f : Effect ε ρ σ Unit) (modify g) :=
  fun r s t hR => ⟨.returned rfl, h r s t hR⟩

/-- **Sequencing composes.** -/
theorem relates_bind {x : Effect ε ρ σ α} {y : Effect ε ρ τ β} {f : α → Effect ε ρ σ γ}
    {g : β → Effect ε ρ τ δ} (hx : Relates R Q x y)
    (hf : ∀ a b, Q a b → Relates R Q' (f a) (g b)) : Relates R Q' (x >>= f) (y >>= g) := by
  intro r s t hR
  obtain ⟨hagree, hR'⟩ := hx r s t hR
  rw [run_bind, run_bind]
  rcases hrun : x.run r s with ⟨result, s'⟩
  rcases hrun' : y.run r t with ⟨result', t'⟩
  rw [hrun, hrun'] at hagree hR'
  cases hagree with
  | raised e => exact ⟨.raised e, hR'⟩
  | returned related => exact hf _ _ related r s' t' hR'

/-- Sequencing after a value that is the same on both sides. -/
theorem relates_then {x : Effect ε ρ σ α} {y : Effect ε ρ τ α} {f : α → Effect ε ρ σ γ}
    {g : α → Effect ε ρ τ δ} (hx : Relates R Eq x y)
    (hf : ∀ a, Relates R Q' (f a) (g a)) : Relates R Q' (x >>= f) (y >>= g) :=
  relates_bind hx fun a _ hab => hab ▸ hf a

/-- Reading the state: what follows is to agree for every related pair. -/
theorem relates_get_bind {f : σ → Effect ε ρ σ α} {g : τ → Effect ε ρ τ β}
    (h : ∀ r s t, R r s t → Relates R Q (f s) (g t)) :
    Relates R Q ((get : Effect ε ρ σ σ) >>= f) ((get : Effect ε ρ τ τ) >>= g) :=
  fun r s t hR => h r s t hR r s t hR

/-- A test that comes out the same on both sides. -/
theorem relates_ite {c c' : Prop} [Decidable c] [Decidable c'] (hc : c ↔ c')
    {x x' : Effect ε ρ σ α} {y y' : Effect ε ρ τ β} (hx : c → Relates R Q x y)
    (hy : ¬ c → Relates R Q x' y') :
    Relates R Q (if c then x else x') (if c' then y else y') := by
  by_cases h : c
  · rw [if_pos h, if_pos (hc.mp h)]
    exact hx h
  · rw [if_neg h, if_neg fun h' => h (hc.mpr h')]
    exact hy h

theorem relates_attempt {x : Effect ε ρ σ α} {y : Effect ε ρ τ β} {handler : ε → Effect ε ρ σ α}
    {handler' : ε → Effect ε ρ τ β} (hx : Relates R Q x y)
    (hh : ∀ e, Relates R Q (handler e) (handler' e)) :
    Relates R Q (attempt x handler) (attempt y handler') := by
  intro r s t hR
  obtain ⟨hagree, hR'⟩ := hx r s t hR
  rw [run_attempt, run_attempt]
  rcases hrun : x.run r s with ⟨result, s'⟩
  rcases hrun' : y.run r t with ⟨result', t'⟩
  rw [hrun, hrun'] at hagree hR'
  cases hagree with
  | raised e => exact hh e r s' t' hR'
  | returned related => exact ⟨.returned related, hR'⟩

theorem relates_lift (a : Except ε α) :
    Relates R Eq (lift a : Effect ε ρ σ α) (lift a) := by
  cases a with
  | ok a => exact relates_pure rfl
  | error e => exact relates_raise e

/-- A loop whose turns agree. -/
theorem relates_forM {f : α → Effect ε ρ σ Unit} {g : α → Effect ε ρ τ Unit}
    (h : ∀ a, Relates R Eq (f a) (g a)) (as : List α) :
    Relates R Eq (as.forM f) (as.forM g) := by
  induction as with
  | nil => exact relates_pure rfl
  | cons a as ih => exact relates_then (h a) fun _ => ih

/-- A loop that collects what its turns return. -/
theorem relates_mapM {f : α → Effect ε ρ σ γ} {g : α → Effect ε ρ τ γ}
    (h : ∀ a, Relates R Eq (f a) (g a)) (as : List α) :
    Relates R Eq (as.mapM f) (as.mapM g) := by
  have hloop (done : List γ) :
    Relates R Eq (List.mapM.loop f as done) (List.mapM.loop g as done) := by
    induction as generalizing done with
    | nil => exact relates_pure rfl
    | cons a as ih => exact relates_then (h a) fun c => ih (c :: done)
  exact hloop []

end Rules

end Effect
