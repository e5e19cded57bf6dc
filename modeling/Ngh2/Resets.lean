import Ngh2.MachineSteps

/-!
# Where a reset comes from

A step submits a reset for one of three reasons: the owner asked for it, a
frame that could not be prepared left its stream half open, or a frame ended
the local direction of a stream whose reset was deferred. `Stepped.reset_origin`
says that there is no fourth. What the two callbacks submit is stated exactly,
and whether or not they fail: what was passed to the engine before an
exception stays passed.
-/

namespace Ngh2

open Nghttp2 Effect

/-- The reset a use of a session submits. -/
def Issued.reset : Issued → Option (StreamId × Nat)
  | .call _ (.submitRstStream s errorCode) => some (s, errorCode)
  | _ => none

/-- The resets one step submitted: stream and code. -/
def resetsOf (e : Entry Machine Label Outcome) : List (StreamId × Nat) :=
  e.outcome.issued.filterMap Issued.reset

theorem Issued.of_reset {i : Issued} {s : StreamId} {errorCode : Nat}
    (h : i.reset = some (s, errorCode)) :
    ∃ session, i = .call session (.submitRstStream s errorCode) := by
  unfold Issued.reset at h
  split at h
  · simp only [Option.some.injEq, Prod.mk.injEq] at h
    obtain ⟨rfl, rfl⟩ := h
    exact ⟨_, rfl⟩
  · exact absurd h (by simp)

/-- **The reasons to submit a reset.** -/
inductive ResetOrigin (s : StreamId) (errorCode : Nat) : Label → Prop
  /-- The owner asked for it. -/
  | asked {afterEndStream : Bool} {env : Env} :
      ResetOrigin s errorCode (.request (.resetStream s errorCode afterEndStream) env)
  /-- A frame of the stream was sent. -/
  | frameSent {frame : Frame} {env : Env} (stream : frame.streamId = s) :
      ResetOrigin s errorCode (.callback (.frameSent frame) env)
  /-- A frame was not sent. -/
  | frameNotSent {frame : Frame} {code : Int} {env : Env} (internal : errorCode = internalError) :
      ResetOrigin s errorCode (.callback (.frameNotSent frame code) env)

theorem Request.Submits.of_reset {r : Request} {s : StreamId} {errorCode : Nat}
    (h : r.Submits (.submitRstStream s errorCode)) :
    ∃ afterEndStream, r = .resetStream s errorCode afterEndStream := by
  cases r with
  | resetStream t code afterEndStream =>
    obtain ⟨rfl, rfl⟩ := EngineCall.submitRstStream.inj h
    exact ⟨afterEndStream, rfl⟩
  | _ => simp [Request.Submits] at h

/-- **A step submits a reset for one of the three reasons.** -/
theorem Stepped.reset_origin {m : Machine} {l : Label} {p : Outcome × Machine}
    (h : Stepped m l p) {s : StreamId} {errorCode : Nat}
    (hr : (s, errorCode) ∈ p.1.issued.filterMap Issued.reset) : ResetOrigin s errorCode l := by
  obtain ⟨i, hi, hreset⟩ := List.mem_filterMap.mp hr
  obtain ⟨session, rfl⟩ := Issued.of_reset hreset
  have hasks := h.asks hi
  cases l with
  | request r env =>
    rcases hasks with hq | hs | hq | hq
    · simp [EngineCall.isQuery] at hq
    · obtain ⟨afterEndStream, rfl⟩ := hs.of_reset
      exact .asked
    · simp [EngineCall.isResume] at hq
    · simp [EngineCall.isDrive] at hq
  | callback cb env =>
    cases cb with
    | frameSent frame =>
      rcases hasks with hq | ⟨code, hq⟩
      · simp at hq
      · obtain ⟨rfl, rfl⟩ := EngineCall.submitRstStream.inj hq
        exact .frameSent rfl
    | frameNotSent frame code =>
      obtain ⟨t, hq⟩ := hasks
      obtain ⟨rfl, rfl⟩ := EngineCall.submitRstStream.inj hq
      exact .frameNotSent rfl
    | _ => simp [Label.Asks, Callback.Asks] at hasks
  | ret result env =>
    rcases hasks with hq | ⟨entries, hq⟩
    · simp [EngineCall.isQuery] at hq
    · simp at hq

/-- What a callback asks is what its body asks. -/
theorem issued_of_callback {e : Entry Machine Label Outcome} {cb : Callback} {env : Env}
    (htaken : e.before.step e.label = some (e.outcome, e.after))
    (hlabel : e.label = .callback cb env) :
    ∃ session, e.outcome.issued = ((cb.body session).run env e.before.world).2.issued := by
  rw [hlabel, Machine.step] at htaken
  split at htaken
  · exact absurd htaken (by simp)
  · next d session _ =>
    refine ⟨session, ?_⟩
    have hissued := congrArg (fun o : Outcome × Machine => o.1.issued) (Option.some_inj.mp htaken)
    rw [Machine.afterCallback_issued] at hissued
    exact hissued.symm

/-! ## The reset of a failed stream -/

section Resets

variable {env : Env} {session : Option SessionId}

/-- A frame that needs a reset is about its own stream. -/
theorem Frame.failedStream_of_needsReset {frame : Frame} (h : frame.needsReset = true) :
    frame.failedStream = some frame.streamId := by
  unfold Frame.needsReset at h
  unfold Frame.failedStream
  cases hp : frame.payload <;> simp_all

/-- **What `_frame_not_sent` asks of the engine**, whether or not it fails:
one reset of the stream, for a recorded HEADERS frame that is no request. -/
theorem issued_frameNotSent (frame : Frame) (errorCode : Int) (w : World) :
    ((frameNotSent session frame errorCode).run env w).2.issued
      = w.issued ++
        if frame.needsReset = true ∧ expectedNotSent errorCode = false ∧ env.alloc .object = true
        then [.call session (.submitRstStream frame.streamId internalError)] else [] := by
  unfold frameNotSent recordFailure
  cases hn : frame.needsReset with
  | false =>
    cases hs : frame.failedStream with
    | none => simp
    | some streamId =>
      cases he : expectedNotSent errorCode with
      | true => simp
      | false => cases ha : env.alloc .object <;> simp [ha]
  | true =>
    rw [Frame.failedStream_of_needsReset hn]
    cases he : expectedNotSent errorCode with
    | true => simp
    | false =>
      cases ha : env.alloc .object with
      | false => simp [ha]
      | true =>
        by_cases hr : env.reply (.submitRstStream frame.streamId internalError) < 0 ∧
            resetUnneeded (env.reply (.submitRstStream frame.streamId internalError)) = false
        · simp [ha, hr]
        · simp [ha, hr]

/-- **What `_frame_sent` asks of the engine**, whether or not it fails: for a
frame that ends the local direction of a stream with a deferred reset, whether
the peer has ended its direction, and the reset if it has not. -/
theorem issued_frameSent (frame : Frame) (w : World) :
    ((frameSent session frame).run env w).2.issued
      = w.issued ++
        if endsStream w.conn frame then
          match w.conn.deferredResets.lookup frame.streamId with
          | none => []
          | some errorCode =>
            .call session (.sessionGetStreamRemoteClose frame.streamId) ::
              if env.reply (.sessionGetStreamRemoteClose frame.streamId) = 0 then
                [.call session (.submitRstStream frame.streamId errorCode)] else []
        else [] := by
  unfold frameSent submitDeferredReset
  cases hends : endsStream w.conn frame with
  | true =>
    cases hl : w.conn.deferredResets.lookup frame.streamId with
    | none => simp [hends, hl]
    | some errorCode =>
      by_cases h0 : env.reply (.sessionGetStreamRemoteClose frame.streamId) = 0
      · by_cases hr : env.reply (.submitRstStream frame.streamId errorCode) < 0
        · simp [hends, hl, h0, hr]
        · simp [hends, hl, h0, hr]
      · simp [hends, hl, h0]
  | false =>
    cases hp : frame.payload with
    | goaway l code opaqueData =>
      cases ha : env.alloc (.bytes opaqueData.length) <;>
        simp [hends, run_rememberGoaway, ha]
    | _ => simp [hends]

/-- A callback that gives back a code asks what computing the code asks. -/
theorem issued_code (f : M Int) (w : World) :
    (Effect.run (do return ({ code := ← f } : Reply)) env w).2.issued = (f.run env w).2.issued := by
  rw [run_bind]
  rcases f.run env w with ⟨_ | _, w'⟩ <;> rfl

/-- The resets of a report that a frame was not sent. -/
theorem resetsOf_frameNotSent {e : Entry Machine Label Outcome} {frame : Frame} {errorCode : Int}
    (htaken : e.before.step e.label = some (e.outcome, e.after))
    (hlabel : e.label = .callback (.frameNotSent frame errorCode) env) :
    resetsOf e =
      if frame.needsReset = true ∧ expectedNotSent errorCode = false ∧ env.alloc .object = true
      then [(frame.streamId, internalError)] else [] := by
  obtain ⟨session, hissued⟩ := issued_of_callback htaken hlabel
  rw [Callback.body, issued_code, issued_frameNotSent] at hissued
  rw [resetsOf, hissued]
  split <;> simp [Machine.world, Issued.reset]

/-- The resets of a report that a frame was sent. -/
theorem resetsOf_frameSent {e : Entry Machine Label Outcome} {frame : Frame}
    (htaken : e.before.step e.label = some (e.outcome, e.after))
    (hlabel : e.label = .callback (.frameSent frame) env) :
    resetsOf e =
      if frame.endStream = true ∧ frame.isDataOrHeaders = true ∧
          env.reply (.sessionGetStreamRemoteClose frame.streamId) = 0 then
        (e.before.conn.deferredResets.lookup frame.streamId).toList.map fun errorCode =>
          (frame.streamId, errorCode)
      else [] := by
  obtain ⟨session, hissued⟩ := issued_of_callback htaken hlabel
  rw [Callback.body, issued_code, issued_frameSent] at hissued
  rw [resetsOf, hissued]
  cases hl : e.before.conn.deferredResets.lookup frame.streamId with
  | none => simp [Machine.world, hl]
  | some errorCode =>
    have hkeys : e.before.conn.deferredResets.keys ≠ ∅ := by
      intro hempty
      have hmem := Finmap.mem_keys.mpr (Finmap.mem_of_lookup_eq_some hl)
      simp [hempty] at hmem
    have hends : endsStream e.before.world.conn frame
        = (frame.endStream && frame.isDataOrHeaders) := by
      simp [Machine.world, endsStream, hkeys]
    have hlookup : e.before.world.conn.deferredResets.lookup frame.streamId = some errorCode := hl
    rw [hends, hlookup]
    by_cases hend : frame.endStream = true ∧ frame.isDataOrHeaders = true
    · rw [if_pos (by simp [hend])]
      by_cases h0 : env.reply (.sessionGetStreamRemoteClose frame.streamId) = 0
      · rw [if_pos ⟨hend.1, hend.2, h0⟩]
        dsimp only
        rw [if_pos h0]
        rfl
      · rw [if_neg fun h => h0 h.2.2]
        dsimp only
        rw [if_neg h0]
        rfl
    · rw [if_neg (by simpa using hend), if_neg fun h => hend ⟨h.1, h.2.1⟩]
      rfl

/-- A report that needs no reset, or has an excluded code, submits none. -/
theorem resetsOf_unneeded {e : Entry Machine Label Outcome} {frame : Frame} {errorCode : Int}
    (htaken : e.before.step e.label = some (e.outcome, e.after))
    (hlabel : e.label = .callback (.frameNotSent frame errorCode) env)
    (h : frame.needsReset = false ∨ expectedNotSent errorCode = true) : resetsOf e = [] := by
  rw [resetsOf_frameNotSent htaken hlabel, if_neg (by rcases h with h | h <;> simp [h])]

/-- A report of any other HEADERS frame submits one, unless it fails. -/
theorem resetsOf_needed {m : Machine} {p : Outcome × Machine} {frame : Frame} {errorCode : Int}
    (hstep : Stepped m (.callback (.frameNotSent frame errorCode) env) p)
    (hsound : p.2.conn.Sound) (hneeds : frame.needsReset = true)
    (hcode : expectedNotSent errorCode = false) :
    p.1.issued.filterMap Issued.reset = [(frame.streamId, internalError)] := by
  have hrecorded : frame.recordedFailure errorCode = some frame.streamId := by
    simp [Frame.recordedFailure, hcode, Frame.failedStream_of_needsReset hneeds]
  cases hstep with
  | callback driven hc =>
    rw [Machine.afterCallback_conn] at hsound
    rw [Machine.afterCallback_issued]
    cases hc with
    | failed spoiled deferred => exact absurd (deferred.symm.trans hsound.2) (by simp)
    | headerBlock kind => simp at kind
    | notSentIgnored unrecorded => rw [hrecorded] at unrecorded; exact absurd unrecorded (by simp)
    | notSentRecorded recorded =>
      rw [hrecorded, Option.some_inj] at recorded
      simp [hneeds, recorded, Issued.reset]

end Resets

end Ngh2
