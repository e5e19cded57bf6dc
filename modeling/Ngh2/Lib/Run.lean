import Mathlib.Logic.Basic
import Mathlib.Tactic.Common

/-!
# Runs of a labelled transition function, with their histories

A system that reacts to its surroundings is a partial function `step` from a
state and a label – what the surroundings did – to an outcome and a new state.
A run is a sequence of such steps, and what one wants to say about a run is
rarely a property of its last state: it relates the state to everything that
happened on the way there. So a run carries its history, one `Entry` per step
with the states on both sides of it, newest first, and every quantity that a
specification needs (what was sent, what was accepted, what was promised) is a
function of the history.

The surroundings are not arbitrary either. What is assumed of them is a
predicate `Allowed` on the history so far, the state and the next label, and
the runs of a system are the runs whose every label was allowed when it was
taken.

`Run.invariant` is the induction principle. `Run.of_mem` recovers, for an
entry of a history, the run that led to it.
-/

variable {σ ℓ ω : Type}

/-- One step of a run: the state it found, the label, the outcome, and the
state it left. -/
structure Entry (σ ℓ ω : Type) where
  /-- The state the step found. -/
  before : σ
  /-- What the surroundings did. -/
  label : ℓ
  /-- What they were given back. -/
  outcome : ω
  /-- The state the step left. -/
  after : σ

/-- **The runs of a transition function**, with their histories, newest entry
first, under an assumption on the surroundings. -/
inductive Run (step : σ → ℓ → Option (ω × σ))
    (Allowed : List (Entry σ ℓ ω) → σ → ℓ → Prop) (init : σ) :
    List (Entry σ ℓ ω) → σ → Prop
  | start : Run step Allowed init [] init
  | extend {h : List (Entry σ ℓ ω)} {s s' : σ} {l : ℓ} {o : ω}
      (prior : Run step Allowed init h s) (allowed : Allowed h s l)
      (taken : step s l = some (o, s')) :
      Run step Allowed init (⟨s, l, o, s'⟩ :: h) s'

namespace Run

variable {step : σ → ℓ → Option (ω × σ)}
variable {Allowed Allowed' : List (Entry σ ℓ ω) → σ → ℓ → Prop} {init : σ}

/-- **Induction over runs**: what holds of the initial state with the empty
history, and is preserved by every allowed step, holds along every run. -/
theorem invariant {I : List (Entry σ ℓ ω) → σ → Prop} (hinit : I [] init)
    (hstep : ∀ {h s l o s'}, Run step Allowed init h s → I h s → Allowed h s l →
      step s l = some (o, s') → I (⟨s, l, o, s'⟩ :: h) s')
    {h : List (Entry σ ℓ ω)} {s : σ} (hrun : Run step Allowed init h s) : I h s := by
  induction hrun with
  | start => exact hinit
  | extend prior allowed taken ih => exact hstep prior ih allowed taken

/-- A run under an assumption is a run under any weaker one. -/
theorem mono (hw : ∀ {h s l}, Allowed h s l → Allowed' h s l)
    {h : List (Entry σ ℓ ω)} {s : σ} (hrun : Run step Allowed init h s) :
    Run step Allowed' init h s := by
  induction hrun with
  | start => exact .start
  | extend _ allowed taken ih => exact .extend ih (hw allowed) taken

/-- The state a run ends in is the one its newest entry left. -/
theorem state_eq {e : Entry σ ℓ ω} {h : List (Entry σ ℓ ω)} {s : σ}
    (hrun : Run step Allowed init (e :: h) s) : s = e.after := by
  cases hrun with
  | extend _ _ _ => rfl

/-- Dropping the newest entry leaves a run, to the state that entry found. -/
theorem tail {e : Entry σ ℓ ω} {h : List (Entry σ ℓ ω)} {s : σ}
    (hrun : Run step Allowed init (e :: h) s) : Run step Allowed init h e.before := by
  cases hrun with
  | extend prior _ _ => exact prior

/-- **Every entry of a history was a step of the system**, taken at the end of
a run whose history is the part below it. -/
theorem of_mem {e : Entry σ ℓ ω} {h : List (Entry σ ℓ ω)} {s : σ}
    (hrun : Run step Allowed init h s) (he : e ∈ h) :
    ∃ h', (e :: h') <:+ h ∧ Run step Allowed init h' e.before ∧
      Allowed h' e.before e.label ∧ step e.before e.label = some (e.outcome, e.after) := by
  induction hrun with
  | start => exact absurd he List.not_mem_nil
  | @extend h s s' l o prior allowed taken ih =>
    rcases List.mem_cons.mp he with rfl | he
    · exact ⟨h, List.suffix_refl _, prior, allowed, taken⟩
    · obtain ⟨h', hsuf, hprior⟩ := ih he
      exact ⟨h', hsuf.trans (List.suffix_cons _ _), hprior⟩

/-- The same, for the entry on top of a given part of the history. -/
theorem of_suffix {e : Entry σ ℓ ω} {h h' : List (Entry σ ℓ ω)} {s : σ}
    (hrun : Run step Allowed init h s) (hsuf : (e :: h') <:+ h) :
    Run step Allowed init h' e.before ∧ Allowed h' e.before e.label ∧
      step e.before e.label = some (e.outcome, e.after) := by
  induction hrun with
  | start => exact absurd (List.suffix_nil.mp hsuf) (List.cons_ne_nil _ _)
  | @extend h s s' l o prior allowed taken ih =>
    rcases List.suffix_cons_iff.mp hsuf with heq | hsuf
    · obtain ⟨rfl, rfl⟩ := List.cons.inj heq
      exact ⟨prior, allowed, taken⟩
    · exact ih hsuf

/-- Take the steps of a list of labels, checking what is assumed of each; the
result is the history and the state reached. -/
def execute (step : σ → ℓ → Option (ω × σ))
    (Allowed : List (Entry σ ℓ ω) → σ → ℓ → Prop)
    [∀ h s l, Decidable (Allowed h s l)] :
    List (Entry σ ℓ ω) × σ → List ℓ → Option (List (Entry σ ℓ ω) × σ)
  | c, [] => some c
  | (h, s), l :: ls =>
    if Allowed h s l then
      match step s l with
      | some (o, s') => execute step Allowed (⟨s, l, o, s'⟩ :: h, s') ls
      | none => none
    else none

/-- Executing labels from a run extends it to a run. -/
theorem of_execute [∀ h s l, Decidable (Allowed h s l)] {ls : List ℓ}
    {c c' : List (Entry σ ℓ ω) × σ} (hrun : Run step Allowed init c.1 c.2)
    (hexec : execute step Allowed c ls = some c') : Run step Allowed init c'.1 c'.2 := by
  induction ls generalizing c with
  | nil =>
    rw [execute, Option.some_inj] at hexec
    exact hexec ▸ hrun
  | cons l ls ih =>
    rw [execute] at hexec
    split at hexec
    · next hallowed =>
      split at hexec
      · next o s' htaken => exact ih (.extend hrun hallowed htaken) hexec
      · exact absurd hexec (by simp)
    · exact absurd hexec (by simp)

end Run
