import Ngh2.MachineSteps

/-!
# The events a run publishes

The owner takes the events away whenever it likes, so the list the connection
holds says little. What counts is what was ever appended to it: `emitted` is
what one step appended, `eventsOf` what a run did. A step appends at most one
event, and `Stepped.emits` lists the reasons it may have.
-/

namespace Ngh2

open Nghttp2

/-- The events one step appended. Taking the events appends none. -/
def emitted (e : Entry Machine Label Outcome) : List Event :=
  e.after.conn.events.drop e.before.conn.events.length

/-- **The events of a run**, oldest first. -/
def eventsOf : History → List Event
  | [] => []
  | e :: h => eventsOf h ++ emitted e

/-- **What a step may append to the events.** -/
inductive Emits (m : Machine) : Label → List Event → Prop
  /-- Most steps append nothing. -/
  | nothing {l : Label} : Emits m l []
  /-- A complete DATA frame. -/
  | data {frame : Frame} {env : Env} (kind : frame.payload = .data) :
      Emits m (.callback (.frameReceived frame) env)
        [.dataReceived frame.streamId m.conn.payload frame.endStream]
  /-- A GOAWAY of the peer. -/
  | goaway {frame : Frame} {env : Env} {lastStreamId : StreamId} {errorCode : Nat}
      {opaqueData : Bytes} (kind : frame.payload = .goaway lastStreamId errorCode opaqueData) :
      Emits m (.callback (.frameReceived frame) env)
        [.goAwayReceived lastStreamId errorCode opaqueData]
  /-- Another frame. -/
  | frame {frame : Frame} {env : Env} {event : Event} (kind : frame.isPlain = true)
      (plain : event.isPlain = true) : Emits m (.callback (.frameReceived frame) env) [event]
  /-- The event of a callback that failed after publishing it. -/
  | spoiled {cb : Callback} {env : Env} {event : Event} (plain : event.isPlain = true) :
      Emits m (.callback cb env) [event]
  /-- The closure of a stream. -/
  | streamClosed {s : StreamId} {errorCode : Nat} {env : Env} :
      Emits m (.callback (.streamClosed s errorCode) env)
        [.streamClosed s errorCode (m.conn.localStreamErrors.lookup s)]
  /-- The end of the connection. -/
  | connectionClosed {result : Int} {env : Env} (nonnegative : 0 ≤ result)
      (finished : m.conn.Finished env) :
      Emits m (.ret result env)
        [.connectionClosed m.conn.closeErrorCode m.conn.closeDebugData]

/-- A `StreamClosed` event comes of the closure callback, and names the error
recorded for the stream. -/
theorem Emits.of_streamClosed {m : Machine} {l : Label} {events : List Event} {s : StreamId}
    {errorCode : Nat} {error : Option PyError} (h : Emits m l events)
    (hmem : .streamClosed s errorCode error ∈ events) :
    ∃ env, l = .callback (.streamClosed s errorCode) env ∧
      error = m.conn.localStreamErrors.lookup s := by
  cases h with
  | nothing => exact absurd hmem List.not_mem_nil
  | frame kind plain =>
    rw [← List.mem_singleton.mp hmem] at plain
    exact absurd plain (by simp [Event.isPlain])
  | spoiled plain =>
    rw [← List.mem_singleton.mp hmem] at plain
    exact absurd plain (by simp [Event.isPlain])
  | streamClosed =>
    simp only [List.mem_singleton, Event.streamClosed.injEq] at hmem
    obtain ⟨rfl, rfl, rfl⟩ := hmem
    exact ⟨_, rfl, rfl⟩
  | _ => simp at hmem

/-- A `ConnectionClosed` event comes of a return that finds the protocol
finished. -/
theorem Emits.of_connectionClosed {m : Machine} {l : Label} {events : List Event}
    {errorCode : Nat} {debugData : Bytes} (h : Emits m l events)
    (hmem : .connectionClosed errorCode debugData ∈ events) :
    ∃ result env, l = .ret result env ∧ m.conn.Finished env := by
  cases h with
  | nothing => exact absurd hmem List.not_mem_nil
  | frame kind plain =>
    rw [← List.mem_singleton.mp hmem] at plain
    exact absurd plain (by simp [Event.isPlain])
  | spoiled plain =>
    rw [← List.mem_singleton.mp hmem] at plain
    exact absurd plain (by simp [Event.isPlain])
  | connectionClosed nonnegative finished => exact ⟨_, _, rfl, finished⟩
  | _ => simp at hmem

section Steps

variable {m : Machine} {l : Label} {p : Outcome × Machine}

/-- A step that leaves the events alone appends none. -/
theorem Emits.of_events_eq (h : p.2.conn.events = m.conn.events) :
    Emits m l (emitted ⟨m, l, p.1, p.2⟩) := by
  rw [emitted, h, List.drop_length]
  exact .nothing

/-- A step that leaves no event appends none. -/
theorem Emits.of_nil (h : p.2.conn.events = []) : Emits m l (emitted ⟨m, l, p.1, p.2⟩) := by
  rw [emitted, h, List.drop_nil]
  exact .nothing

/-- What a step appended, where it appended. -/
theorem emitted_of_append {events : List Event} (h : p.2.conn.events = m.conn.events ++ events) :
    emitted ⟨m, l, p.1, p.2⟩ = events := by
  rw [emitted, h, List.drop_left]

/-- **A step appends at most one event, for one of the reasons listed.** -/
theorem Stepped.emits (h : Stepped m l p) : Emits m l (emitted ⟨m, l, p.1, p.2⟩) := by
  cases h with
  | request idle hr =>
    cases hr with
    | tookEvents => exact .of_nil rfl
    | _ => exact .of_events_eq rfl
  | callback driven hc =>
    cases hc with
    | failed spoiled =>
      rcases spoiled.events with hsame | ⟨event, plain, happended⟩
      · exact .of_events_eq hsame
      · rw [emitted_of_append happended]
        exact .spoiled plain
    | dataReceived kind =>
      rw [emitted_of_append rfl]
      exact .data kind
    | goawayReceived kind =>
      rw [emitted_of_append rfl]
      exact .goaway kind
    | frameReceived kind plain =>
      rw [emitted_of_append rfl]
      exact .frame kind plain
    | streamClosed =>
      rw [emitted_of_append rfl]
      exact .streamClosed
    | _ => exact .of_events_eq rfl
  | ret driven hr =>
    cases hr with
    | receivedLast finished =>
      rw [emitted_of_append rfl]
      exact .connectionClosed (by omega) finished
    | sentLast nonnegative finished =>
      rw [emitted_of_append rfl]
      exact .connectionClosed nonnegative finished
    | sentThenFailed nonnegative finished =>
      rw [emitted_of_append rfl]
      exact .connectionClosed nonnegative finished
    | _ => exact .of_events_eq rfl

/-- **The end is announced last**: the step that announces it leaves the
connection terminated, or failed. -/
theorem Stepped.over_of_connectionClosed (h : Stepped m l p) {errorCode : Nat}
    {debugData : Bytes} (hmem : .connectionClosed errorCode debugData ∈ emitted ⟨m, l, p.1, p.2⟩) :
    p.2.conn.Over := by
  obtain ⟨result, env, rfl, hfinished⟩ := h.emits.of_connectionClosed hmem
  have hnothing (heq : p.2.conn.events = m.conn.events) : False := by
    rw [emitted, heq, List.drop_length] at hmem
    exact absurd hmem List.not_mem_nil
  cases h with
  | ret driven hr =>
    rw [Machine.afterReturn_conn] at hnothing ⊢
    cases hr with
    | failed => exact .inr rfl
    | sentThenFailed => exact .inr rfl
    | receivedLast => exact .inl rfl
    | receivedUnannounced => exact .inl rfl
    | sentLast => exact .inl rfl
    | received going => exact absurd hfinished going
    | sent nonnegative going => exact absurd hfinished going
    | _ => exact (hnothing rfl).elim

end Steps

end Ngh2
