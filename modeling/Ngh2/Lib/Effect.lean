import Mathlib.Logic.Basic
import Mathlib.Tactic.Common

/-!
# Computations that read an environment, update a state and may raise

A method of an object with mutable fields does three things that a pure
function does not: it consults values it does not own (the answers of a
library it calls, whether an allocation succeeds), it changes the object, and
it leaves early by raising. `Effect` has the three and nothing else, and what
it keeps apart from the usual stack of monad transformers is the state at the
moment of a raise: an exception does not undo the writes made before it, and
whoever catches it starts from them.

The two notions proved about here are the ones an invariant needs.
`Effect.Moves R x` says that, whatever `x` returns or raises, the state it
leaves is related by `R` to the state it found; it composes along `bind` for
any preorder `R`, so a relation is established for a long body one line at a
time. `Effect.run` with its rewriting rules evaluates a body symbolically
where the exact final state matters.
-/

/-- **A computation** that reads an environment `ρ`, updates a state `σ`, and
either returns an `α` or raises an `ε`. The state survives a raise. -/
def Effect (ε ρ σ α : Type) : Type := ρ → σ → Except ε α × σ

namespace Effect

variable {ε ρ σ α β : Type}

/-- Running a computation in an environment and a state. -/
def run (x : Effect ε ρ σ α) (r : ρ) (s : σ) : Except ε α × σ := x r s

instance : Monad (Effect ε ρ σ) where
  pure a := fun _ s => (.ok a, s)
  bind x f := fun r s =>
    match x r s with
    | (.ok a, s') => f a r s'
    | (.error e, s') => (.error e, s')

/-- Raise an exception. -/
def raise (e : ε) : Effect ε ρ σ α := fun _ s => (.error e, s)

/-- The environment. -/
def read : Effect ε ρ σ ρ := fun r s => (.ok r, s)

/-- The current state. -/
def get : Effect ε ρ σ σ := fun _ s => (.ok s, s)

/-- Update the state. -/
def modify (f : σ → σ) : Effect ε ρ σ Unit := fun _ s => (.ok (), f s)

/-- **Catch every exception.** The handler starts from the state the raising
computation left, with its partial writes in place. -/
def attempt (x : Effect ε ρ σ α) (handler : ε → Effect ε ρ σ α) :
    Effect ε ρ σ α := fun r s =>
  match x r s with
  | (.ok a, s') => (.ok a, s')
  | (.error e, s') => handler e r s'

/-- A value that was computed outside, or the exception that computing it
raised. -/
def lift : Except ε α → Effect ε ρ σ α
  | .ok a => pure a
  | .error e => raise e

/-- Sequencing is associative. -/
theorem bind_assoc {γ : Type} (x : Effect ε ρ σ α) (f : α → Effect ε ρ σ β)
    (g : β → Effect ε ρ σ γ) : ((x >>= f) >>= g) = (x >>= fun a => f a >>= g) := by
  funext r s
  change (match (match x r s with
      | (.ok a, s') => f a r s'
      | (.error e, s') => (.error e, s') : Except ε β × σ) with
    | (.ok b, s') => g b r s'
    | (.error e, s') => (.error e, s')) = match x r s with
      | (.ok a, s') => (f a >>= g) r s'
      | (.error e, s') => (.error e, s')
  rcases x r s with ⟨_ | a, s'⟩ <;> rfl

/-! ## Symbolic evaluation -/

@[simp] theorem run_pure (a : α) (r : ρ) (s : σ) :
    (pure a : Effect ε ρ σ α).run r s = (.ok a, s) := rfl

@[simp] theorem run_raise (e : ε) (r : ρ) (s : σ) :
    (raise e : Effect ε ρ σ α).run r s = (.error e, s) := rfl

@[simp] theorem run_read (r : ρ) (s : σ) :
    (read : Effect ε ρ σ ρ).run r s = (.ok r, s) := rfl

@[simp] theorem run_get (r : ρ) (s : σ) :
    (get : Effect ε ρ σ σ).run r s = (.ok s, s) := rfl

@[simp] theorem run_modify (f : σ → σ) (r : ρ) (s : σ) :
    (modify f : Effect ε ρ σ Unit).run r s = (.ok (), f s) := rfl

@[simp] theorem run_lift_ok (a : α) (r : ρ) (s : σ) :
    (lift (.ok a) : Effect ε ρ σ α).run r s = (.ok a, s) := rfl

@[simp] theorem run_lift_error (e : ε) (r : ρ) (s : σ) :
    (lift (.error e) : Effect ε ρ σ α).run r s = (.error e, s) := rfl

@[simp] theorem run_bind (x : Effect ε ρ σ α) (f : α → Effect ε ρ σ β) (r : ρ) (s : σ) :
    (x >>= f).run r s
      = match x.run r s with
        | (.ok a, s') => (f a).run r s'
        | (.error e, s') => (.error e, s') := rfl

/-- **What it takes to return**: a sequence that returned did so in both its
parts. -/
theorem bind_returned {x : Effect ε ρ σ α} {f : α → Effect ε ρ σ β} {r : ρ} {s s'' : σ} {b : β}
    (h : (x >>= f).run r s = (.ok b, s'')) :
    ∃ a s', x.run r s = (.ok a, s') ∧ (f a).run r s' = (.ok b, s'') := by
  rw [run_bind] at h
  rcases hrun : x.run r s with ⟨_ | a, s'⟩
  · rw [hrun] at h
    exact absurd (congrArg Prod.fst h) (by simp)
  · rw [hrun] at h
    exact ⟨a, s', rfl, h⟩

/-- **What it takes to raise**: a sequence that raised did so in its first
part, or in its second after the first had returned. -/
theorem bind_raised {x : Effect ε ρ σ α} {f : α → Effect ε ρ σ β} {r : ρ} {s s'' : σ} {e : ε}
    (h : (x >>= f).run r s = (.error e, s'')) :
    x.run r s = (.error e, s'') ∨
      ∃ a s', x.run r s = (.ok a, s') ∧ (f a).run r s' = (.error e, s'') := by
  rw [run_bind] at h
  rcases hrun : x.run r s with ⟨e' | a, s'⟩
  · rw [hrun] at h
    obtain ⟨he, rfl⟩ := Prod.mk.inj h
    obtain rfl := Except.error.inj he
    exact .inl rfl
  · rw [hrun] at h
    exact .inr ⟨a, s', rfl, h⟩

@[simp] theorem run_attempt (x : Effect ε ρ σ α) (handler : ε → Effect ε ρ σ α)
    (r : ρ) (s : σ) :
    (attempt x handler).run r s
      = match x.run r s with
        | (.ok a, s') => (.ok a, s')
        | (.error e, s') => (handler e).run r s' := rfl

@[simp] theorem run_ite (c : Prop) [Decidable c] (x y : Effect ε ρ σ α) (r : ρ) (s : σ) :
    (if c then x else y).run r s = if c then x.run r s else y.run r s := by
  split <;> rfl

/-! ## Relations between the state found and the state left -/

/-- **The state left is related to the state found**, whatever the computation
returns or raises. -/
def Moves (R : σ → σ → Prop) (x : Effect ε ρ σ α) : Prop :=
  ∀ r s, R s (x.run r s).2

section Moves

variable {R : σ → σ → Prop}

theorem moves_pure (hrefl : ∀ s, R s s) (a : α) :
    Moves R (pure a : Effect ε ρ σ α) := fun _ s => hrefl s

theorem moves_raise (hrefl : ∀ s, R s s) (e : ε) :
    Moves R (raise e : Effect ε ρ σ α) := fun _ s => hrefl s

theorem moves_get (hrefl : ∀ s, R s s) :
    Moves R (get : Effect ε ρ σ σ) := fun _ s => hrefl s

theorem moves_read (hrefl : ∀ s, R s s) :
    Moves R (read : Effect ε ρ σ ρ) := fun _ s => hrefl s

theorem moves_modify {f : σ → σ} (hf : ∀ s, R s (f s)) :
    Moves R (modify f : Effect ε ρ σ Unit) := fun _ s => hf s

/-- **Sequencing composes**, for a transitive relation: a raise in the first
part stops there, and the state it left is already related. -/
theorem moves_bind (htrans : ∀ {a b c}, R a b → R b c → R a c)
    {x : Effect ε ρ σ α} {f : α → Effect ε ρ σ β}
    (hx : Moves R x) (hf : ∀ a, Moves R (f a)) : Moves R (x >>= f) := by
  intro r s
  have hs := hx r s
  rw [run_bind]
  rcases hrun : x.run r s with ⟨res, s'⟩
  rw [hrun] at hs
  cases res with
  | ok a => exact htrans hs (hf a r s')
  | error e => exact hs

theorem moves_ite {c : Prop} [Decidable c] {x y : Effect ε ρ σ α}
    (hx : c → Moves R x) (hy : ¬ c → Moves R y) : Moves R (if c then x else y) := by
  split
  · exact hx ‹_›
  · exact hy ‹_›

/-- Catching composes as sequencing does: the handler starts from the state of
the raise. -/
theorem moves_attempt (htrans : ∀ {a b c}, R a b → R b c → R a c)
    {x : Effect ε ρ σ α} {handler : ε → Effect ε ρ σ α}
    (hx : Moves R x) (hh : ∀ e, Moves R (handler e)) : Moves R (attempt x handler) := by
  intro r s
  have hs := hx r s
  rw [run_attempt]
  rcases hrun : x.run r s with ⟨res, s'⟩
  rw [hrun] at hs
  cases res with
  | ok a => exact hs
  | error e => exact htrans hs (hh e r s')

/-- A weaker relation is established a fortiori. -/
theorem Moves.mono {R' : σ → σ → Prop} {x : Effect ε ρ σ α} (hx : Moves R x)
    (h : ∀ s s', R s s' → R' s s') : Moves R' x := fun r s => h _ _ (hx r s)

end Moves

/-- **The state left is related to the state found** by a computation that
returns. Nothing is said of one that raises. -/
def Returns (R : σ → σ → Prop) (x : Effect ε ρ σ α) : Prop :=
  ∀ {r s a s'}, x.run r s = (.ok a, s') → R s s'

section Returns

variable {R : σ → σ → Prop}

/-- What holds of every end of a computation holds where it returns. -/
theorem Moves.returns {x : Effect ε ρ σ α} (hx : Moves R x) : Returns R x := by
  intro r s a s' hrun
  have hs := hx r s
  rw [hrun] at hs
  exact hs

/-- Sequencing composes, for a transitive relation. -/
theorem returns_bind (htrans : ∀ {a b c}, R a b → R b c → R a c)
    {x : Effect ε ρ σ α} {f : α → Effect ε ρ σ β}
    (hx : Returns R x) (hf : ∀ a, Returns R (f a)) : Returns R (x >>= f) := by
  intro r s b s'' hrun
  obtain ⟨a, s', hfirst, hsecond⟩ := bind_returned hrun
  exact htrans (hx hfirst) (hf a hsecond)

end Returns

/-! ## Parts of the state left alone -/

section Keeps

variable {τ : Type}

/-- **The frame of a computation**: a part of the state, given by what one sees
of it, is as it was found. -/
def Keeps (view : σ → τ) (x : Effect ε ρ σ α) : Prop :=
  Moves (fun s s' => view s' = view s) x

variable {view : σ → τ}

theorem keeps_pure (a : α) : Keeps view (pure a : Effect ε ρ σ α) := fun _ _ => rfl

theorem keeps_raise (e : ε) : Keeps view (raise e : Effect ε ρ σ α) :=
  fun _ _ => rfl

theorem keeps_get : Keeps view (get : Effect ε ρ σ σ) := fun _ _ => rfl

theorem keeps_read : Keeps view (read : Effect ε ρ σ ρ) := fun _ _ => rfl

theorem keeps_modify {f : σ → σ} (hf : ∀ s, view (f s) = view s) :
    Keeps view (modify f : Effect ε ρ σ Unit) := moves_modify hf

theorem keeps_bind {x : Effect ε ρ σ α} {f : α → Effect ε ρ σ β} (hx : Keeps view x)
    (hf : ∀ a, Keeps view (f a)) : Keeps view (x >>= f) :=
  moves_bind (fun h₁ h₂ => h₂.trans h₁) hx hf

theorem keeps_ite {c : Prop} [Decidable c] {x y : Effect ε ρ σ α} (hx : c → Keeps view x)
    (hy : ¬ c → Keeps view y) : Keeps view (if c then x else y) := moves_ite hx hy

theorem keeps_attempt {x : Effect ε ρ σ α} {handler : ε → Effect ε ρ σ α} (hx : Keeps view x)
    (hh : ∀ e, Keeps view (handler e)) : Keeps view (attempt x handler) :=
  moves_attempt (fun h₁ h₂ => h₂.trans h₁) hx hh

theorem keeps_lift (a : Except ε α) : Keeps view (lift a : Effect ε ρ σ α) := by
  cases a with
  | ok a => exact keeps_pure a
  | error e => exact keeps_raise e

/-- A relation that only concerns what is kept. -/
theorem Keeps.returns {R : σ → σ → Prop} {x : Effect ε ρ σ α} (hx : Keeps view x)
    (h : ∀ {s s'}, view s' = view s → R s s') : Returns R x :=
  (hx.mono fun _ _ hview => h hview).returns

/-- What is seen of the state after a computation that keeps it. -/
theorem Keeps.eq {x : Effect ε ρ σ α} (hx : Keeps view x) (r : ρ) (s : σ) :
    view (x.run r s).2 = view s := hx r s

end Keeps

/-! ## What may be raised -/

section RaisesOnly

variable {P : ε → Prop}

/-- **The exceptions of a computation**: whatever it raises has a property. -/
def RaisesOnly (P : ε → Prop) (x : Effect ε ρ σ α) : Prop :=
  ∀ r s e, (x.run r s).1 = .error e → P e

theorem raisesOnly_pure (a : α) : RaisesOnly P (pure a : Effect ε ρ σ α) :=
  fun _ _ _ h => absurd h (by simp)

theorem raisesOnly_raise {e : ε} (he : P e) : RaisesOnly P (raise e : Effect ε ρ σ α) :=
  fun _ _ _ h => Except.error.inj h ▸ he

theorem raisesOnly_read : RaisesOnly P (read : Effect ε ρ σ ρ) :=
  fun _ _ _ h => absurd h (by simp)

theorem raisesOnly_get : RaisesOnly P (get : Effect ε ρ σ σ) :=
  fun _ _ _ h => absurd h (by simp)

theorem raisesOnly_modify (f : σ → σ) : RaisesOnly P (modify f : Effect ε ρ σ Unit) :=
  fun _ _ _ h => absurd h (by simp)

theorem raisesOnly_bind {x : Effect ε ρ σ α} {f : α → Effect ε ρ σ β} (hx : RaisesOnly P x)
    (hf : ∀ a, RaisesOnly P (f a)) : RaisesOnly P (x >>= f) := by
  intro r s e h
  rw [run_bind] at h
  rcases hrun : x.run r s with ⟨res, s'⟩
  rw [hrun] at h
  cases res with
  | ok a => exact hf a r s' e h
  | error e' =>
    obtain rfl : e' = e := Except.error.inj h
    exact hx r s e' (congrArg Prod.fst hrun)

theorem raisesOnly_ite {c : Prop} [Decidable c] {x y : Effect ε ρ σ α}
    (hx : c → RaisesOnly P x) (hy : ¬ c → RaisesOnly P y) :
    RaisesOnly P (if c then x else y) := by
  split
  · exact hx ‹_›
  · exact hy ‹_›

end RaisesOnly

/-! ## What a computation does not see -/

section Ignores

variable {g : σ → σ}

/-- **A computation ignores a change of the state**: it does the same with it as
without, and keeps it. -/
def Ignores (g : σ → σ) (x : Effect ε ρ σ α) : Prop :=
  ∀ r s, x.run r (g s) = ((x.run r s).1, g (x.run r s).2)

theorem ignores_pure (a : α) : Ignores g (pure a : Effect ε ρ σ α) := fun _ _ => rfl

theorem ignores_raise (e : ε) : Ignores g (raise e : Effect ε ρ σ α) := fun _ _ => rfl

theorem ignores_read : Ignores g (read : Effect ε ρ σ ρ) := fun _ _ => rfl

theorem ignores_modify {f : σ → σ} (hf : ∀ s, f (g s) = g (f s)) :
    Ignores g (modify f : Effect ε ρ σ Unit) :=
  fun _ s => congrArg (Prod.mk (Except.ok ())) (hf s)

theorem ignores_bind {x : Effect ε ρ σ α} {f : α → Effect ε ρ σ β} (hx : Ignores g x)
    (hf : ∀ a, Ignores g (f a)) : Ignores g (x >>= f) := by
  intro r s
  rw [run_bind, run_bind, hx r s]
  rcases x.run r s with ⟨e | a, s'⟩
  · rfl
  · exact hf a r s'

/-- Reading the state is no seeing, where what is read is not used. -/
theorem ignores_get_bind {f : σ → Effect ε ρ σ α} (hsame : ∀ s, f (g s) = f s)
    (hf : ∀ s, Ignores g (f s)) : Ignores g (get >>= f) := by
  intro r s
  show (f (g s)).run r (g s) = (((f s).run r s).1, g ((f s).run r s).2)
  rw [hsame s]
  exact hf s r s

theorem ignores_ite {c : Prop} [Decidable c] {x y : Effect ε ρ σ α} (hx : c → Ignores g x)
    (hy : ¬ c → Ignores g y) : Ignores g (if c then x else y) := by
  split
  · exact hx ‹_›
  · exact hy ‹_›

theorem ignores_attempt {x : Effect ε ρ σ α} {handler : ε → Effect ε ρ σ α} (hx : Ignores g x)
    (hh : ∀ e, Ignores g (handler e)) : Ignores g (attempt x handler) := by
  intro r s
  rw [run_attempt, run_attempt, hx r s]
  rcases x.run r s with ⟨e | a, s'⟩
  · exact hh e r s'
  · rfl

end Ignores

/-! ## Better environments -/

section Improves

variable {better : ρ → ρ}

/-- **What returns also returns in a better environment**, with the same value
and the same state. -/
def Improves (better : ρ → ρ) (x : Effect ε ρ σ α) : Prop :=
  ∀ r s a s', x.run r s = (.ok a, s') → x.run (better r) s = (.ok a, s')

theorem improves_pure (a : α) : Improves better (pure a : Effect ε ρ σ α) := fun _ _ _ _ h => h

theorem improves_raise (e : ε) : Improves better (raise e : Effect ε ρ σ α) :=
  fun _ _ _ _ h => h

theorem improves_modify (f : σ → σ) : Improves better (modify f : Effect ε ρ σ Unit) :=
  fun _ _ _ _ h => h

theorem improves_bind {x : Effect ε ρ σ α} {f : α → Effect ε ρ σ β} (hx : Improves better x)
    (hf : ∀ a, Improves better (f a)) : Improves better (x >>= f) := by
  intro r s b s'' h
  obtain ⟨a, s', hrun, h⟩ := bind_returned h
  rw [run_bind, hx r s a s' hrun]
  exact hf a r s' b s'' h

theorem improves_ite {c : Prop} [Decidable c] {x y : Effect ε ρ σ α}
    (hx : c → Improves better x) (hy : ¬ c → Improves better y) :
    Improves better (if c then x else y) := by
  split
  · exact hx ‹_›
  · exact hy ‹_›

end Improves

end Effect
