import Mathlib.Data.List.Basic
import Mathlib.Tactic.Common

/-!
# First-in first-out queues and what implements them

A queue of values is a list: it grows at its end and shrinks at its front, by
as much as is asked for or as much as there is. An implementation is anything
with a step function and a relation `R` that says which queue a state stands
for. `Fifo.refines` lifts the one condition on it – a step gives what the queue
gives, and leaves a state that stands for what is left – from one call to every
sequence of calls.

`Fifo.outputs_append_queueAfter` is what a queue is for: nothing is lost,
duplicated or reordered.
-/

namespace Fifo

variable {α σ κ : Type}

/-- A call on a queue. -/
inductive Call (α : Type) where
  /-- Add values at the end. -/
  | push (values : List α)
  /-- Take values from the front, as many as there are up to a number. -/
  | pull (count : Nat)
  deriving DecidableEq, Repr

/-- What a call gives. -/
def Call.output (q : List α) : Call α → List α
  | .push _ => []
  | .pull count => q.take count

/-- The queue a call leaves. -/
def Call.next (q : List α) : Call α → List α
  | .push values => q ++ values
  | .pull count => q.drop count

/-- The values a call adds. -/
def Call.added : Call α → List α
  | .push values => values
  | .pull _ => []

/-- **The outputs of a sequence of calls.** -/
def outputs (q : List α) : List (Call α) → List (List α)
  | [] => []
  | c :: cs => c.output q :: outputs (c.next q) cs

/-- The queue after a sequence of calls. -/
def queueAfter (q : List α) (calls : List (Call α)) : List α := calls.foldl Call.next q

/-- One call loses nothing. -/
theorem Call.output_append_next (q : List α) (c : Call α) :
    c.output q ++ c.next q = q ++ c.added := by
  cases c with
  | push values => rfl
  | pull count =>
    rw [added, List.append_nil]
    exact List.take_append_drop count q

/-- **Nothing is lost, duplicated or reordered**: what came out, and then what
is left, is what was there, and then what was added. -/
theorem outputs_append_queueAfter (q : List α) (calls : List (Call α)) :
    (outputs q calls).flatten ++ queueAfter q calls = q ++ calls.flatMap Call.added := by
  induction calls generalizing q with
  | nil => simp [outputs, queueAfter]
  | cons c cs ih =>
    show (c.output q ++ (outputs (c.next q) cs).flatten) ++ queueAfter (c.next q) cs = _
    rw [List.append_assoc, ih, ← List.append_assoc, c.output_append_next, List.append_assoc,
      List.flatMap_cons]

/-! ## Implementations -/

/-- The outputs of a sequence of calls on an implementation, and the state it
is left in; nothing where a call fails. -/
def execute (step : σ → κ → Option (List α × σ)) : σ → List κ → Option (List (List α) × σ)
  | s, [] => some ([], s)
  | s, c :: cs => do
    let (output, s') ← step s c
    let (outputs, s'') ← execute step s' cs
    return (output :: outputs, s'')

/-- **An implementation that is right for one call is right for every sequence
of calls.** -/
theorem refines {step : σ → κ → Option (List α × σ)} {call : κ → Call α}
    {R : σ → List α → Prop}
    (hstep : ∀ {s q} (c : κ), R s q →
      ∃ s', step s c = some ((call c).output q, s') ∧ R s' ((call c).next q))
    (cs : List κ) {s : σ} {q : List α} (h : R s q) :
    ∃ s', execute step s cs = some (outputs q (cs.map call), s') ∧
      R s' (queueAfter q (cs.map call)) := by
  induction cs generalizing s q with
  | nil => exact ⟨s, rfl, h⟩
  | cons c cs ih =>
    obtain ⟨s', htaken, hnext⟩ := hstep c h
    obtain ⟨s'', hrest, hlast⟩ := ih hnext
    exact ⟨s'', by rw [execute, htaken]; simp only [Option.bind_eq_bind, Option.bind_some, hrest,
      List.map_cons, outputs]; rfl, hlast⟩

end Fifo
