import Ngh2.Hygiene

/-!
# A deferred reset, from its acceptance to its end

`reset_stream(after_end_stream=True)` may be accepted long before the reset it
stands for is submitted: the frames that end the local direction are still
queued somewhere, and submitting at once would drop them. In between, the
stream may be reset or closed, the frame may be dropped, the connection may
end.

What is waiting is read off the history (`pendingReset`): the code last
accepted for a stream, until the frame that ends its local direction is
reported sent, the stream is reported closed, or the pending state is
discarded. The dictionary `_deferred_resets` is that function, the reset
submitted when the frame is reported is that code, and no entry waits for
a local direction that is still open.
-/

namespace Ngh2

open Nghttp2 Effect

/-- **The reset waiting for a stream**: the code most recently accepted, if
nothing has carried it out or made it void since. -/
def pendingReset : History → StreamId → Option Nat
  | [], _ => none
  | e :: h, s =>
    match happening e with
    | .resetDeferred t errorCode => if s = t then some errorCode else pendingReset h s
    | .localEnd t => if s = t then none else pendingReset h s
    | .closed t => if s = t then none else pendingReset h s
    | .discarded => none
    | _ => pendingReset h s

/-- The record of a waiting reset is the one its history says. -/
theorem recordsAfter_reset (h : History) (s : StreamId) :
    (recordsAfter h).reset s = pendingReset h s := by
  induction h with
  | nil => rfl
  | cons e h ih =>
    change ((recordsAfter h).record (happening e)).reset s = _
    rw [pendingReset]
    cases happening e with
    | message t message =>
      cases message with
      | request endStream => cases endStream <;> exact ih
      | response endStream => cases endStream <;> exact ih
      | _ => exact ih
    | stuck t message =>
      cases message with
      | request endStream => cases endStream <;> exact ih
      | _ => exact ih
    | resetDeferred t errorCode =>
      by_cases ht : s = t
      · simp [Records.record, ht]
      · simpa [Records.record, ht] using ih
    | localEnd t =>
      by_cases ht : s = t
      · simp [Records.record, ht]
      · simpa [Records.record, ht] using ih
    | closed t =>
      by_cases ht : s = t
      · simp [Records.record, ht]
      · simpa [Records.record, ht] using ih
    | discarded => rfl
    | _ => exact ih

section Runs

variable {host : Host} {h : History} {m : Machine} {l : Label} {p : Outcome × Machine}

/-- The record of a request is that of a `send_request` the engine took. -/
theorem Origin.of_requests {x : Happening} (h : Origin m l x) {s : StreamId}
    (hx : x.requests = some s) : ∃ headers endStream env,
      l = .request (.sendRequest headers endStream) env ∧
        env.reply (.submitRequest2 headers !endStream) = s ∧ 0 ≤ s := by
  cases h with
  | request submitted accepted =>
    obtain rfl := Option.some_inj.mp hx
    exact ⟨_, _, _, rfl, submitted, accepted⟩
  | requestStuck submitted accepted =>
    obtain rfl := Option.some_inj.mp hx
    exact ⟨_, _, _, rfl, submitted, accepted⟩
  | _ => exact absurd hx (by simp [Happening.requests])

/-- A deferred reset was accepted for a stream the engine said it tracks, and
submitted nothing. -/
theorem Stepped.tracked_of_deferred {s : StreamId} {errorCode : Nat} (hstep : Stepped m l p)
    (hsound : p.2.conn.Sound)
    (hx : happening ⟨m, l, p.1, p.2⟩ = .resetDeferred s errorCode) :
    s ∈ p.1.issued.filterMap (Issued.tracked l.env) ∧
      p.1.issued.filterMap Issued.reset = [] := by
  have horigin := hstep.origin hsound
  rw [hx] at horigin
  cases horigin with
  | @resetDeferred _ _ env localOpen =>
    cases hstep with
    | request idle hr =>
      rw [Machine.afterRequest_conn] at hsound
      cases hr with
      | rejected calls =>
        simp only [happening, Machine.afterRequest, Request.happening_rejected calls] at hx
        exact absurd hx (by simp)
      | failed => exact absurd hsound.1 (by simp [World.failed, Connection.invalidate])
      | unreported quiet => exact absurd quiet (by simp [Request.isQuiet])
      | answered quiet => exact absurd quiet (by simp [Request.isQuiet])
      | resetDeferred usable localOpen ended =>
        refine ⟨List.mem_filterMap.mpr ⟨_, List.mem_cons_self, ?_⟩, rfl⟩
        simp [Issued.tracked, Label.env, localOpen]
      | resetSubmitted usable immediate => exact absurd (immediate rfl) (by simp [localOpen])

/-- A reset waits for streams the engine said it tracks. -/
theorem Runs.tracked_of_pending (hrun : Runs host ClosesCleanly h m) (hsound : m.conn.Sound) :
    ∀ s, pendingReset h s ≠ none → s ∈ trackedStreams h := by
  refine Runs.induct_sound
    (I := fun h _ => ∀ s, pendingReset h s ≠ none → s ∈ trackedStreams h)
    (fun ha => ha.1) (fun s hs => absurd rfl hs) ?_ hrun hsound
  intro h m l p _ _ ih _ hstep hsound s hs
  rw [mem_trackedStreams_cons]
  rw [pendingReset] at hs
  split at hs
  · next t errorCode hx =>
    split at hs
    · next ht => exact .inl (ht ▸ (hstep.tracked_of_deferred hsound hx).1)
    · exact .inr (ih s hs)
  · split at hs
    · exact absurd rfl hs
    · exact .inr (ih s hs)
  · split at hs
    · exact absurd rfl hs
    · exact .inr (ih s hs)
  · exact absurd rfl hs
  · exact .inr (ih s hs)

/-- **No waiting reset is stuck**, in any sound state. -/
theorem Runs.ending (hrun : Runs host ClosesCleanly h m) (hsound : m.conn.Sound) :
    (recordsAfter h).Ending m.conn.server := by
  refine Runs.induct_sound (I := fun h m => (recordsAfter h).Ending m.conn.server)
    (fun ha => ha.1) Records.ending_empty ?_ hrun hsound
  intro h m l p hrun hbefore ih hallowed hstep hsound
  change ((recordsAfter h).record (happening ⟨m, l, p.1, p.2⟩)).Ending p.2.conn.server
  have hends : ∀ {h m l}, ClosesCleanly h m l → FailureEndsDrive h l := fun ha => ha.1
  cases hi : m.conn.initialized with
  | true =>
    rw [(hstep.role hi).2]
    refine ih.record (Runs.permits hends hrun hbefore hstep hsound) fun s hx => ?_
    obtain ⟨headers, endStream, env, rfl, rfl, haccepted⟩ := (hstep.origin hsound).of_requests hx
    have hfresh := hallowed.2.2.2.2 haccepted
    rw [recordsAfter_reset]
    by_contra hpending
    exact hfresh.2.2 (Runs.tracked_of_pending hrun hbefore _ hpending)
  | false =>
    obtain ⟨hdrive, hactive⟩ := Runs.idle hrun hi
    rw [hstep.happening_inactive hdrive hactive hsound,
      Runs.records_uninitialized hends hrun hbefore hi]
    exact Records.ending_empty

end Runs

/-- **The lifecycle of a deferred reset.** Along every run:

* a failed connection has no deferred reset, and while nothing has failed the
  deferred resets are the waiting ones, each for a stream that was not
  reported closed and whose local direction is certain to end: its body is
  ended, or it has none and the headers of a client or the response of a
  server ended it;
* when a frame is reported sent, the waiting reset of its stream is submitted,
  if the frame ends the local direction and the peer has not ended its own,
  and nothing else is;
* no step but that one, a call that asks for the reset itself and the report
  that a frame was not sent submits any reset, and accepting a deferred one
  submits none. -/
theorem deferred_reset_lifecycle {host : Host} {h : History} {m : Machine}
    (hrun : Runs host ClosesCleanly h m) :
    (m.conn.failed = true → m.conn.deferredResets = ∅) ∧
    (m.conn.Sound →
      (∀ s, m.conn.deferredResets.lookup s = pendingReset h s) ∧
      ∀ s ∈ m.conn.deferredResets, s ∉ closedStreams h ∧
        (∀ body, m.conn.bodies.lookup s = some body → body.ended = true) ∧
        (s ∉ m.conn.bodies → m.conn.server = false ∨ s ∈ m.conn.responses)) ∧
    (∀ e h', (e :: h') <:+ h → ∀ frame env, e.label = .callback (.frameSent frame) env →
      resetsOf e =
        if frame.endStream = true ∧ frame.isDataOrHeaders = true ∧
            env.reply (.sessionGetStreamRemoteClose frame.streamId) = 0 then
          (pendingReset h' frame.streamId).toList.map fun errorCode => (frame.streamId, errorCode)
        else []) ∧
    (∀ e ∈ h, ∀ s errorCode, (s, errorCode) ∈ resetsOf e → ResetOrigin s errorCode e.label) ∧
    (∀ e ∈ h, e.after.conn.Sound → ∀ s errorCode, happening e = .resetDeferred s errorCode →
      resetsOf e = []) := by
  have hends : ∀ {h m l}, ClosesCleanly h m l → FailureEndsDrive h l := fun ha => ha.1
  have hlookup {h m} (hrun : Runs host ClosesCleanly h m) (hsound : m.conn.Sound)
      (s : StreamId) : m.conn.deferredResets.lookup s = pendingReset h s := by
    rw [← recordsAfter_reset, ← (Runs.records_eq hends hrun hsound).2]
    rfl
  refine ⟨fun hfailed => ?_, fun hsound => ⟨hlookup hrun hsound, fun s hs => ?_⟩, ?_, ?_, ?_⟩
  · rw [← (Runs.void hrun hfailed).empty]
    rfl
  · have hwaiting : m.conn.records.reset s ≠ none := by
      obtain ⟨errorCode, hcode⟩ := Finmap.mem_iff.mp hs
      simp [Connection.records, hcode]
    rw [(Runs.records_eq hends hrun hsound).2] at hwaiting
    have hended := (Runs.ending hrun hsound).ended s hwaiting
    rw [← (Runs.records_eq hends hrun hsound).2] at hended
    refine ⟨fun hclosed => hwaiting (Runs.blank_of_closed hrun hsound s hclosed).reset, ?_, ?_⟩
    · intro body hbody
      simpa [Records.locallyEnded, Connection.records, viewBodies, hbody, BodySource.view]
        using hended
    · intro hnone
      have hbody : m.conn.bodies.lookup s = none := Finmap.lookup_eq_none.mpr hnone
      simpa [Records.locallyEnded, Connection.records, viewBodies, hbody] using hended
  · intro e h' hsuf frame env hlabel
    obtain ⟨hprior, hallowed, htaken⟩ := hrun.of_suffix hsuf
    rw [resetsOf_frameSent htaken hlabel]
    rw [hlabel] at hallowed htaken
    have hsound := Runs.sound_of_callback hends hprior hallowed
      (Machine.stepped htaken).callback_driven
    rw [hlookup hprior hsound]
  · intro e he s errorCode hmem
    obtain ⟨h', -, -, -, htaken⟩ := hrun.of_mem he
    exact (Machine.stepped htaken).reset_origin hmem
  · intro e he hsound s errorCode hx
    obtain ⟨h', -, -, -, htaken⟩ := hrun.of_mem he
    exact ((Machine.stepped htaken).tracked_of_deferred hsound hx).2

/-- A client that defers the reset of a request whose body is ended, and has
it submitted when the last frame is sent. -/
def resetAfterLastFrame : List Label := [
  .request (.init .client {}) (.accepting []),
  .request (.initiateConnection []) (.accepting []),
  .request (.sendRequest [] true) (.accepting [(.sessionCheckRequestAllowed, 1),
    (.submitRequest2 [] false, 1)]),
  .request (.resetStream 1 8 true) (.accepting []),
  .request (.dataToSend none) (.accepting []),
  .callback (.frameSent { streamId := 1, flags := 1, payload := .headers .request })
    (.accepting [])]

set_option maxRecDepth 4000 in
theorem deferred_reset_lifecycle_resetAfterLastFrame :
    ∃ c, Run.execute Machine.step ClosesCleanly ([], Machine.fresh {}) resetAfterLastFrame
        = some c ∧
      c.2.conn.Sound ∧ c.1.head?.map resetsOf = some [(1, 8)] ∧
      ∀ s, c.2.conn.deferredResets.lookup s = pendingReset c.1 s := by
  obtain ⟨c, hc, hsound, hresets⟩ : ∃ c, Run.execute Machine.step ClosesCleanly
      ([], Machine.fresh {}) resetAfterLastFrame = some c ∧
      c.2.conn.Sound ∧ c.1.head?.map resetsOf = some [(1, 8)] := ⟨_, rfl, by decide, by decide⟩
  have hlookup := ((deferred_reset_lifecycle (Run.of_execute .start hc)).2.1 hsound).1
  exact ⟨c, hc, hsound, hresets, hlookup⟩

end Ngh2
