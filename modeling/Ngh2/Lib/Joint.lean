import Ngh2.Lib.Run

/-!
# Two systems that take turns

Two copies of a system, each with a history of its own, run side by side. In
every step one of them moves, and what is assumed of the move may mention the
history of the other: that is how messages between the two are spoken of
without a third party that keeps them.

A joint run is an arbitrary interleaving. Either side of it is a run of its own
(`Joint.run`), the two sides can be exchanged (`Joint.symm`), and what one side
has taken from the other is shown by induction over the joint run, where a step
of the other can only add to what there is to take (`Joint.invariant`).
-/

variable {σ ℓ ω : Type}

/-- **The joint runs of two copies of a system**, with their histories, newest
entry first. What is assumed of a step is said of the history, the state and the
label of the side that moves, and of the history of the other. -/
inductive Joint (step : σ → ℓ → Option (ω × σ))
    (Allowed : List (Entry σ ℓ ω) → σ → ℓ → List (Entry σ ℓ ω) → Prop) (init init' : σ) :
    List (Entry σ ℓ ω) → σ → List (Entry σ ℓ ω) → σ → Prop
  | start : Joint step Allowed init init' [] init [] init'
  | left {h k : List (Entry σ ℓ ω)} {s s₁ t : σ} {l : ℓ} {o : ω}
      (prior : Joint step Allowed init init' h s k t) (allowed : Allowed h s l k)
      (taken : step s l = some (o, s₁)) :
      Joint step Allowed init init' (⟨s, l, o, s₁⟩ :: h) s₁ k t
  | right {h k : List (Entry σ ℓ ω)} {s t t₁ : σ} {l : ℓ} {o : ω}
      (prior : Joint step Allowed init init' h s k t) (allowed : Allowed k t l h)
      (taken : step t l = some (o, t₁)) :
      Joint step Allowed init init' h s (⟨t, l, o, t₁⟩ :: k) t₁

namespace Joint

variable {step : σ → ℓ → Option (ω × σ)}
  {Allowed : List (Entry σ ℓ ω) → σ → ℓ → List (Entry σ ℓ ω) → Prop}
  {P : List (Entry σ ℓ ω) → σ → ℓ → Prop} {init init' s t : σ} {h k : List (Entry σ ℓ ω)}

/-- The two sides can be exchanged. -/
theorem symm (hjoint : Joint step Allowed init init' h s k t) :
    Joint step Allowed init' init k t h s := by
  induction hjoint with
  | start => exact .start
  | left _ allowed taken ih => exact .right ih allowed taken
  | right _ allowed taken ih => exact .left ih allowed taken

/-- **Either side is a run of its own.** -/
theorem run (hw : ∀ {h s l k}, Allowed h s l k → P h s l)
    (hjoint : Joint step Allowed init init' h s k t) : Run step P init h s := by
  induction hjoint with
  | start => exact .start
  | left _ allowed taken ih => exact .extend ih (hw allowed) taken
  | right _ _ _ ih => exact ih

/-- **Induction over joint runs**, for what concerns both histories: it holds
before anything happens, and a step of either side preserves it. -/
theorem invariant {I : List (Entry σ ℓ ω) → List (Entry σ ℓ ω) → Prop} (hinit : I [] [])
    (hleft : ∀ {h s l o s₁ k}, I h k → step s l = some (o, s₁) → I (⟨s, l, o, s₁⟩ :: h) k)
    (hright : ∀ {h k t l o t₁}, Run step P init' k t → I h k → Allowed k t l h →
      step t l = some (o, t₁) → I h (⟨t, l, o, t₁⟩ :: k))
    (hw : ∀ {h s l k}, Allowed h s l k → P h s l)
    (hjoint : Joint step Allowed init init' h s k t) : I h k := by
  induction hjoint with
  | start => exact hinit
  | left _ _ taken ih => exact hleft ih taken
  | right prior allowed taken ih => exact hright (prior.symm.run hw) ih allowed taken

/-- Take the steps of a list of labels, each on its side, checking what is
assumed of each; the result is the histories and states reached. -/
def execute (step : σ → ℓ → Option (ω × σ))
    (Allowed : List (Entry σ ℓ ω) → σ → ℓ → List (Entry σ ℓ ω) → Prop)
    [∀ h s l k, Decidable (Allowed h s l k)] :
    (List (Entry σ ℓ ω) × σ) × (List (Entry σ ℓ ω) × σ) → List (ℓ ⊕ ℓ) →
      Option ((List (Entry σ ℓ ω) × σ) × (List (Entry σ ℓ ω) × σ))
  | c, [] => some c
  | ((h, s), (k, t)), .inl l :: ls =>
    if Allowed h s l k then
      match step s l with
      | some (o, s') => execute step Allowed ((⟨s, l, o, s'⟩ :: h, s'), (k, t)) ls
      | none => none
    else none
  | ((h, s), (k, t)), .inr l :: ls =>
    if Allowed k t l h then
      match step t l with
      | some (o, t') => execute step Allowed ((h, s), (⟨t, l, o, t'⟩ :: k, t')) ls
      | none => none
    else none

/-- Executing labels from a joint run extends it to a joint run. -/
theorem of_execute [∀ h s l k, Decidable (Allowed h s l k)] {ls : List (ℓ ⊕ ℓ)}
    {c c' : (List (Entry σ ℓ ω) × σ) × (List (Entry σ ℓ ω) × σ)}
    (hjoint : Joint step Allowed init init' c.1.1 c.1.2 c.2.1 c.2.2)
    (hexec : execute step Allowed c ls = some c') :
    Joint step Allowed init init' c'.1.1 c'.1.2 c'.2.1 c'.2.2 := by
  induction ls generalizing c with
  | nil =>
    rw [execute, Option.some_inj] at hexec
    exact hexec ▸ hjoint
  | cons l ls ih =>
    obtain ⟨⟨h, s⟩, k, t⟩ := c
    cases l with
    | inl l | inr l =>
      rw [execute] at hexec
      split at hexec
      · next hallowed =>
        split at hexec
        · next o s' htaken =>
          first
          | exact ih (.left hjoint hallowed htaken) hexec
          | exact ih (.right hjoint hallowed htaken) hexec
        · exact absurd hexec (by simp)
      · exact absurd hexec (by simp)

end Joint
