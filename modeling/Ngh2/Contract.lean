import Ngh2.MachineSteps

/-!
# What is assumed of the engine

The engine is a parameter, and what a result needs of it is a condition on the
next label given the history, one definition for each rule of its interface.
A result names the rules it needs and no others. All of them are decidable, so
that a concrete run can be checked against them.

The rules of this module are about the life of a stream: the engine reports
the closure of a stream once, says afterwards that it does not know it, reports
nothing more about it, and never gives its identifier to another stream.
-/

namespace Ngh2

/-- What is outside the binding during a step. -/
def Label.env : Label → Env
  | .request _ env => env
  | .callback _ env => env
  | .ret _ env => env

/-- The stream whose closure a label reports. -/
def Label.closes : Label → Option StreamId
  | .callback (.streamClosed s _) _ => some s
  | _ => none

/-- Whether a label is a callback. -/
def Label.isCallback : Label → Bool
  | .callback _ _ => true
  | _ => false

/-- The body a label asks for: its stream, and how many bytes at most. -/
def Label.reads : Label → Option (StreamId × Nat)
  | .callback (.readBody s length) _ => some (s, length)
  | _ => none

/-- The frame a label asks to have written: its stream and its length. -/
def Label.writes : Label → Option (StreamId × Nat)
  | .callback (.sendBody s _ _ length) _ => some (s, length)
  | _ => none

/-- The bytes a label offers for the output. -/
def Label.offers : Label → Option Bytes
  | .callback (.collectOutput data) _ => some data
  | _ => none

theorem Label.of_closes {l : Label} {s : StreamId} (h : l.closes = some s) :
    ∃ errorCode env, l = .callback (.streamClosed s errorCode) env := by
  unfold Label.closes at h
  split at h
  · obtain rfl := Option.some_inj.mp h
    exact ⟨_, _, rfl⟩
  · exact absurd h (by simp)

/-- The streams whose closure has been reported. -/
def closedStreams (h : History) : List StreamId := h.filterMap fun e => e.label.closes

/-- The stream of a request that the engine took, whether or not the call that
submitted it returned. -/
def Entry.requested (e : Entry Machine Label Outcome) : Option StreamId :=
  match e.label with
  | .request (.sendRequest headers endStream) env =>
    if e.outcome.took env (.submitRequest2 headers !endStream) then
      some (env.reply (.submitRequest2 headers !endStream)) else none
  | _ => none

/-- The streams of the requests submitted so far. -/
def requestedStreams (h : History) : List StreamId := h.filterMap Entry.requested

/-- The stream that was asked about, where the engine said it tracks it. -/
def Issued.tracked (env : Env) : Issued → Option StreamId
  | .call _ (.sessionGetStreamLocalClose s) =>
    if 0 ≤ env.reply (.sessionGetStreamLocalClose s) then some s else none
  | _ => none

/-- The streams the engine has said it tracks. -/
def trackedStreams (h : History) : List StreamId :=
  h.flatMap fun e => e.outcome.issued.filterMap (Issued.tracked e.label.env)

theorem mem_trackedStreams_cons {e : Entry Machine Label Outcome} {h : History} {s : StreamId} :
    s ∈ trackedStreams (e :: h) ↔
      s ∈ e.outcome.issued.filterMap (Issued.tracked e.label.env) ∨ s ∈ trackedStreams h := by
  simp [trackedStreams]

theorem mem_closedStreams_cons {e : Entry Machine Label Outcome} {h : History} {s : StreamId} :
    s ∈ closedStreams (e :: h) ↔ e.label.closes = some s ∨ s ∈ closedStreams h := by
  simp [closedStreams]

/-! ## The rules -/

/-- The least that is assumed of the engine: a callback that failed ends its
drive. -/
def EndsOnFailure (h : History) (_ : Machine) (l : Label) : Prop := FailureEndsDrive h l

instance (h : History) (m : Machine) (l : Label) : Decidable (EndsOnFailure h m l) :=
  inferInstanceAs (Decidable (FailureEndsDrive h l))

/-- **A closure is reported once.** -/
def ClosedOnce (h : History) (l : Label) : Prop :=
  ∀ s ∈ l.closes, s ∉ closedStreams h

/-- **A closed stream is not tracked**: `nghttp2_session_get_stream_local_close`
answers `-1` for it. -/
def ClosedUntracked (h : History) (l : Label) : Prop :=
  ∀ s ∈ closedStreams h, l.env.reply (.sessionGetStreamLocalClose s) < 0

/-- **A closed stream is not reported about**: a frame that is dropped because
its stream is gone is dropped with one of the codes that say so. -/
def ClosedUnreported (h : History) (l : Label) : Prop :=
  match l with
  | .callback (.frameNotSent frame errorCode) _ =>
    ∀ s ∈ frame.recordedFailure errorCode, s ∉ closedStreams h
  | _ => True

/-- **Identifiers are not reused**: a new request gets a stream that no request
had, that was not closed, and that the engine never said it tracked. -/
def FreshIds (h : History) (l : Label) : Prop :=
  match l with
  | .request (.sendRequest headers endStream) env =>
    let s := env.reply (.submitRequest2 headers !endStream)
    0 ≤ s → s ∉ closedStreams h ∧ s ∉ requestedStreams h ∧ s ∉ trackedStreams h
  | _ => True

section Decidability

variable (h : History) (l : Label)

instance : Decidable (ClosedOnce h l) :=
  inferInstanceAs (Decidable (∀ s ∈ l.closes, s ∉ closedStreams h))

instance : Decidable (ClosedUntracked h l) :=
  inferInstanceAs (Decidable (∀ s ∈ closedStreams h, _))

instance : Decidable (ClosedUnreported h l) := by
  unfold ClosedUnreported
  split <;> infer_instance

instance : Decidable (FreshIds h l) := by
  unfold FreshIds
  split
  · exact inferInstanceAs (Decidable (_ → _))
  · infer_instance

end Decidability

/-! ## An engine for concrete runs -/

/-- An engine that accepts everything: it answers zero, except to the calls of
a list. -/
def Env.accepting (answers : List (EngineCall × Int)) : Env where
  reply q := (answers.lookup q).getD 0
  sessionNew := (0, 1)

end Ngh2
