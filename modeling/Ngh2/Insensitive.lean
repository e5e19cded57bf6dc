import Ngh2.DrivenEngine

/-!
# What a callback does not depend on

Two calls of `data_to_send` with different limits differ in what is staged, in
what is left of the limit, and in which buffers are allocated. This module says
of what a callback does that it does not depend on these.

A callback that reports something does not look at the staging buffer and the
limit (`Unseeing`), so that it does the same in both. And a callback that came
to its end although an allocation might have failed does the same where all of
them succeed (`Improves`).
-/

namespace Ngh2

open Effect Nghttp2

/-! ## The connection without its staging buffer -/

/-- A connection with another staging buffer and limit. -/
def Connection.withOutput (c : Connection) (output : Option Buffer) (size : Nat) (remaining : Int) :
    Connection :=
  { c with output, outputSize := size, outputRemaining := remaining }

/-- A world whose connection has another staging buffer and limit. -/
def World.withOutput (output : Option Buffer) (size : Nat) (remaining : Int) (w : World) : World :=
  { w with conn := w.conn.withOutput output size remaining }

section Ignoring

variable {output : Option Buffer} {size : Nat} {remaining : Int}

/-- **A body does not look at the staging buffer**, and leaves it alone. -/
abbrev Unseeing {α : Type} (x : M α) : Prop :=
  ∀ output size remaining, Ignores (World.withOutput output size remaining) x

theorem unseeing_pure {α : Type} (a : α) : Unseeing (pure a) := fun _ _ _ => ignores_pure a

theorem unseeing_raise {α : Type} (e : PyError) : Unseeing (raise e : M α) :=
  fun _ _ _ => ignores_raise e

theorem unseeing_bind {α β : Type} {x : M α} {f : α → M β} (hx : Unseeing x)
    (hf : ∀ a, Unseeing (f a)) : Unseeing (x >>= f) :=
  fun o n r => ignores_bind (hx o n r) fun a => hf a o n r

theorem unseeing_ite {α : Type} {p : Prop} [Decidable p] {x y : M α} (hx : Unseeing x)
    (hy : Unseeing y) : Unseeing (if p then x else y) :=
  fun o n r => ignores_ite (fun _ => hx o n r) fun _ => hy o n r

theorem unseeing_attempt {α : Type} {x : M α} {handler : PyError → M α} (hx : Unseeing x)
    (hh : ∀ e, Unseeing (handler e)) : Unseeing (attempt x handler) :=
  fun o n r => ignores_attempt (hx o n r) fun e => hh e o n r

theorem unseeing_read : Unseeing (read : M Env) := fun _ _ _ => ignores_read

theorem unseeing_host : Unseeing host := fun _ _ _ _ _ => rfl

theorem unseeing_conn {α : Type} {f : Connection → M α}
    (hsame : ∀ c o n r, f (c.withOutput o n r) = f c) (hf : ∀ c, Unseeing (f c)) :
    Unseeing (conn >>= f) :=
  fun o n r => ignores_get_bind (fun w => hsame w.conn o n r) fun w => hf w.conn o n r

theorem unseeing_update {f : Connection → Connection}
    (hf : ∀ c o n r, f (c.withOutput o n r) = (f c).withOutput o n r) : Unseeing (update f) :=
  fun o n r => ignores_modify fun w => congrArg (fun c => { w with conn := c }) (hf w.conn o n r)

theorem unseeing_askOn (session : Option SessionId) (q : EngineCall) : Unseeing (askOn session q) :=
  fun _ _ _ _ _ => rfl

theorem unseeing_raiseIf (p : Prop) [Decidable p] (e : PyError) : Unseeing (raiseIf p e) :=
  unseeing_ite (unseeing_raise e) (unseeing_pure ())

theorem unseeing_allocate (a : Alloc) : Unseeing (allocate a) :=
  unseeing_bind unseeing_read fun _ => unseeing_raiseIf _ _

theorem unseeing_publish (event : Event) : Unseeing (publish event) :=
  unseeing_bind (unseeing_allocate _) fun _ => unseeing_update fun _ _ _ _ => rfl

theorem unseeing_callbackFailed (e : PyError) : Unseeing (callbackFailed e) :=
  unseeing_bind (unseeing_update fun _ _ _ _ => rfl) fun _ => unseeing_pure _

theorem unseeing_submitDeferredReset (session : Option SessionId) (s : StreamId) :
    Unseeing (submitDeferredReset session s) := by
  refine unseeing_conn (fun _ _ _ _ => rfl) fun c =>
    unseeing_bind (unseeing_update fun _ _ _ _ => rfl) fun _ => ?_
  cases c.deferredResets.lookup s with
  | none => exact unseeing_pure _
  | some errorCode =>
    refine unseeing_bind (unseeing_askOn _ _) fun _ => ?_
    split
    · exact unseeing_bind (unseeing_askOn _ _) fun _ =>
        unseeing_bind unseeing_host fun _ => unseeing_bind (unseeing_raiseIf _ _) fun _ =>
          unseeing_pure _
    · exact unseeing_pure _

theorem unseeing_rememberGoaway (errorCode : Nat) (opaqueData : Bytes) :
    Unseeing (rememberGoaway errorCode opaqueData) :=
  unseeing_bind (unseeing_update fun _ _ _ _ => rfl) fun _ =>
    unseeing_bind (unseeing_allocate _) fun _ => unseeing_update fun _ _ _ _ => rfl

theorem unseeing_frameSent (session : Option SessionId) (frame : Frame) :
    Unseeing (frameSent session frame) := by
  refine unseeing_conn (fun _ _ _ _ => rfl) fun c => unseeing_ite
    (unseeing_attempt (unseeing_submitDeferredReset _ _) unseeing_callbackFailed) ?_
  split
  · exact unseeing_attempt (unseeing_bind (unseeing_rememberGoaway _ _) fun _ => unseeing_pure _)
      unseeing_callbackFailed
  · exact unseeing_pure _

theorem unseeing_recordFailure (session : Option SessionId) (frame : Frame) (errorCode : Int) :
    Unseeing (recordFailure session frame errorCode) := by
  unfold recordFailure
  split
  · exact unseeing_pure _
  · refine unseeing_ite (unseeing_pure _) <| unseeing_bind (unseeing_allocate _) fun _ =>
      unseeing_bind unseeing_host fun _ =>
        unseeing_bind (unseeing_update fun _ _ _ _ => rfl) fun _ => ?_
    refine unseeing_ite ?_ (unseeing_pure _)
    exact unseeing_bind (unseeing_askOn _ _) fun _ => unseeing_bind unseeing_host fun _ =>
      unseeing_bind (unseeing_raiseIf _ _) fun _ => unseeing_pure _

theorem unseeing_discardDataPayload : Unseeing discardDataPayload := by
  refine unseeing_conn (fun _ _ _ _ => rfl) fun c =>
    unseeing_bind (unseeing_update fun _ _ _ _ => rfl) fun _ => unseeing_ite ?_ (unseeing_pure _)
  refine unseeing_bind (unseeing_conn (fun _ _ _ _ => rfl) fun _ => unseeing_askOn _ _) fun _ => ?_
  exact unseeing_bind unseeing_host fun _ => unseeing_raiseIf _ _

theorem unseeing_releaseStream (streamId : StreamId) (errorCode : Nat) :
    Unseeing (releaseStream streamId errorCode) := by
  have hrest : Unseeing (do
      update fun c => { c with
        responses := c.responses.erase streamId
        deferredResets := c.deferredResets.erase streamId }
      let localError := (← conn).localStreamErrors.lookup streamId
      update fun c => { c with localStreamErrors := c.localStreamErrors.erase streamId }
      publish (.streamClosed streamId errorCode localError)
      return (0 : Int)) :=
    unseeing_bind (unseeing_update fun _ _ _ _ => rfl) fun _ =>
      unseeing_conn (fun _ _ _ _ => rfl) fun _ =>
        unseeing_bind (unseeing_update fun _ _ _ _ => rfl) fun _ =>
          unseeing_bind (unseeing_publish _) fun _ => unseeing_pure _
  refine unseeing_bind unseeing_host fun _ => unseeing_conn (fun _ _ _ _ => rfl) fun c =>
    unseeing_bind (unseeing_update fun _ _ _ _ => rfl) fun _ =>
      unseeing_conn (fun _ _ _ _ => rfl) fun c => ?_
  exact unseeing_ite (unseeing_bind unseeing_discardDataPayload fun _ => hrest) hrest

/-- **A report does not look at the staging buffer.** -/
theorem unseeing_report {cb : Callback} (h : cb.isReport = true) (session : Option SessionId) :
    Unseeing (cb.body session) := by
  have hcode {f : M Int} (hf : Unseeing f) : Unseeing (do return ({ code := ← f } : Reply)) :=
    unseeing_bind hf fun _ => unseeing_pure _
  cases cb with
  | streamClosed s errorCode =>
    exact hcode (unseeing_attempt (unseeing_releaseStream _ _) unseeing_callbackFailed)
  | frameSent frame => exact hcode (unseeing_frameSent _ _)
  | frameNotSent frame errorCode =>
    exact hcode (unseeing_attempt (unseeing_recordFailure _ _ _) unseeing_callbackFailed)
  | _ => exact absurd h (by simp [Callback.isReport])

end Ignoring

/-! ## Allocations that succeeded -/

/-- The same surroundings, in which every allocation succeeds. -/
def Env.lasting (env : Env) : Env := { env with alloc := fun _ => true }

/-- **A body that returned would have returned** where every allocation
succeeds, with the same value. -/
abbrev Lasts {α : Type} (x : M α) : Prop := Improves Env.lasting x

section Lasting

theorem lasts_conn {α : Type} {f : Connection → M α} (hf : ∀ c, Lasts (f c)) :
    Lasts (conn >>= f) :=
  improves_bind (fun _ _ _ _ h => h) hf

theorem lasts_update (f : Connection → Connection) : Lasts (update f) := improves_modify _

theorem lasts_askOn (session : Option SessionId) (q : EngineCall) : Lasts (askOn session q) :=
  fun _ _ _ _ h => h

theorem lasts_host : Lasts host := fun _ _ _ _ h => h

theorem lasts_raiseIf (p : Prop) [Decidable p] (e : PyError) : Lasts (raiseIf p e) :=
  improves_ite (fun _ => improves_raise e) fun _ => improves_pure ()

theorem lasts_allocate (a : Alloc) : Lasts (allocate a) := by
  intro env w u w' h
  rw [run_allocate] at h ⊢
  rw [← (Prod.mk.inj h).2]
  rfl

theorem lasts_lift {α : Type} (res : Except PyError α) : Lasts (lift res : M α) := by
  cases res with
  | ok a => exact improves_pure a
  | error e => exact improves_raise e

theorem lasts_publish (event : Event) : Lasts (publish event) :=
  improves_bind (lasts_allocate _) fun _ => lasts_update _

theorem lasts_bodyOf (s : StreamId) : Lasts (bodyOf s) := by
  refine lasts_conn fun c => ?_
  cases c.bodies.lookup s with
  | some body => exact improves_pure body
  | none => exact improves_raise _

theorem lasts_resizeOutput (target : Nat) : Lasts (resizeOutput target) := by
  intro env w u w' h
  unfold resizeOutput at h ⊢
  rw [run_bind, run_read] at h ⊢
  dsimp only at h ⊢
  split at h
  · exact h
  · exact absurd (congrArg Prod.fst h) (by simp)

theorem lasts_reserveOutput (length : Nat) : Lasts (reserveOutput length) := by
  refine lasts_conn fun c => improves_bind lasts_host fun _ =>
    improves_bind (lasts_raiseIf _ _) fun _ => ?_
  exact improves_ite
    (fun _ => improves_bind (lasts_resizeOutput _) fun _ =>
      improves_bind (lasts_update _) fun _ => improves_pure _)
    fun _ => improves_bind (lasts_update _) fun _ => improves_pure _

theorem lasts_takeOutput : Lasts takeOutput := by
  intro env w output w' h
  rw [run_takeOutput] at h ⊢
  split at h
  · exact absurd (congrArg Prod.fst h) (by simp)
  · rw [if_neg (by simp [Env.lasting])]
    exact h

theorem lasts_copyBody (s : StreamId) (body : BodySource) (length : Nat) :
    Lasts (copyBody s body length) := by
  refine improves_bind lasts_host fun _ => lasts_conn fun c => ?_
  refine improves_bind (lasts_update _) fun _ => improves_bind (lasts_update _) fun _ =>
    improves_bind (lasts_lift _) fun _ => ?_
  exact improves_bind (lasts_update _) fun _ => improves_pure _

theorem lasts_finishRead (session : Option SessionId) (s : StreamId) (reply : Reply)
    (complete : Bool) : Lasts (finishRead session s reply complete) := by
  refine improves_bind (lasts_bodyOf s) fun body => improves_ite (fun _ => ?_) fun _ => ?_
  · cases body.trailers with
    | none => exact improves_pure _
    | some trailers =>
      exact improves_bind (lasts_allocate _) fun _ => improves_bind (lasts_askOn _ _) fun _ =>
        improves_bind lasts_host fun _ => improves_bind (lasts_raiseIf _ _) fun _ =>
          improves_bind (lasts_update _) fun _ => improves_pure _
  · exact improves_ite (fun _ => improves_pure _) fun _ =>
      improves_bind (lasts_update _) fun _ => improves_pure _

theorem lasts_prepareBody (session : Option SessionId) (s : StreamId) (length : Nat) :
    Lasts (prepareBody session s length) := by
  refine lasts_conn fun c => improves_bind (lasts_bodyOf s) fun body =>
    improves_ite (fun _ => lasts_finishRead _ _ _ _) fun _ => ?_
  exact improves_bind (lasts_copyBody _ _ _) fun _ => improves_bind (lasts_bodyOf s) fun _ =>
    lasts_finishRead _ _ _ _

theorem lasts_stageBytes (data : Bytes) (accepted : Nat) : Lasts (stageBytes data accepted) :=
  improves_bind (lasts_reserveOutput _) fun _ => improves_bind (lasts_update _) fun _ =>
    improves_bind (lasts_update _) fun _ => improves_pure _

theorem lasts_stageFrame (s : StreamId) (padlen : Nat) (header : FrameHeader) (length : Nat) :
    Lasts (stageFrame s padlen header length) := by
  refine lasts_conn fun c => improves_bind (lasts_raiseIf _ _) fun _ =>
    improves_bind (lasts_bodyOf s) fun _ => improves_bind lasts_host fun _ =>
      improves_bind (lasts_raiseIf _ _) fun _ => improves_bind (lasts_reserveOutput _) fun _ => ?_
  exact improves_bind (lasts_update _) fun _ => improves_bind (lasts_copyBody _ _ _) fun _ =>
    improves_bind (lasts_update _) fun _ => improves_bind (lasts_raiseIf _ _) fun _ =>
      improves_bind (lasts_update _) fun _ => improves_pure _

theorem lasts_submitDeferredReset (session : Option SessionId) (s : StreamId) :
    Lasts (submitDeferredReset session s) := by
  refine lasts_conn fun c => improves_bind (lasts_update _) fun _ => ?_
  cases c.deferredResets.lookup s with
  | none => exact improves_pure _
  | some errorCode =>
    refine improves_bind (lasts_askOn _ _) fun _ => improves_ite (fun _ => ?_) fun _ =>
      improves_pure _
    exact improves_bind (lasts_askOn _ _) fun _ => improves_bind lasts_host fun _ =>
      improves_bind (lasts_raiseIf _ _) fun _ => improves_pure _

theorem lasts_rememberGoaway (errorCode : Nat) (opaqueData : Bytes) :
    Lasts (rememberGoaway errorCode opaqueData) :=
  improves_bind (lasts_update _) fun _ => improves_bind (lasts_allocate _) fun _ => lasts_update _

theorem lasts_recordFailure (session : Option SessionId) (frame : Frame) (errorCode : Int) :
    Lasts (recordFailure session frame errorCode) := by
  unfold recordFailure
  split
  · exact improves_pure _
  · refine improves_ite (fun _ => improves_pure _) fun _ =>
      improves_bind (lasts_allocate _) fun _ => improves_bind lasts_host fun _ =>
        improves_bind (lasts_update _) fun _ => ?_
    exact improves_ite
      (fun _ => improves_bind (lasts_askOn _ _) fun _ => improves_bind lasts_host fun _ =>
        improves_bind (lasts_raiseIf _ _) fun _ => improves_pure _)
      fun _ => improves_pure _

theorem lasts_releaseStream (s : StreamId) (errorCode : Nat) :
    Lasts (releaseStream s errorCode) := by
  have hrest : Lasts (do
      update fun c => { c with
        responses := c.responses.erase s
        deferredResets := c.deferredResets.erase s }
      let localError := (← conn).localStreamErrors.lookup s
      update fun c => { c with localStreamErrors := c.localStreamErrors.erase s }
      publish (.streamClosed s errorCode localError)
      return (0 : Int)) :=
    improves_bind (lasts_update _) fun _ => lasts_conn fun _ => improves_bind (lasts_update _)
      fun _ => improves_bind (lasts_publish _) fun _ => improves_pure _
  have hdiscard : Lasts discardDataPayload := by
    intro env w u w' h
    rw [run_discardDataPayload] at h ⊢
    exact h
  refine improves_bind lasts_host fun _ => lasts_conn fun c =>
    improves_bind (lasts_update _) fun _ => lasts_conn fun c => ?_
  exact improves_ite (fun _ => improves_bind hdiscard fun _ => hrest) fun _ => hrest

/-- The same of a callback, unless it failed. -/
theorem lasts_deferring {f : M Int} (hf : Lasts f) {env : Env} {w w' : World} {code : Int}
    (h : (attempt f callbackFailed).run env w = (.ok code, w'))
    (hcode : code ≠ errCallbackFailure) :
    (attempt f callbackFailed).run env.lasting w = (.ok code, w') := by
  rw [run_attempt] at h ⊢
  rcases hrun : f.run env w with ⟨e | a, v⟩
  · rw [hrun] at h
    dsimp only at h
    rw [run_callbackFailed] at h
    exact absurd (Except.ok.inj (congrArg Prod.fst h)).symm hcode
  · rw [hrun] at h
    rw [hf env w a v hrun]
    exact h

/-- Whether a callback is one that the engine makes while it is driven to send. -/
def Callback.isOutbound : Callback → Bool
  | .collectOutput _ => true
  | .sendBody _ _ _ _ => true
  | .dataFrameLength _ _ _ _ => true
  | .readBody _ _ => true
  | cb => cb.isReport

/-- **An outbound callback that did not fail** would have done the same where
every allocation succeeds. -/
theorem lasts_reply {cb : Callback} (hcb : cb.isOutbound = true) {session : Option SessionId}
    {env : Env} {w w' : World} {reply : Reply}
    (h : (cb.body session).run env w = (.ok reply, w')) (hcode : reply.code ≠ errCallbackFailure) :
    (cb.body session).run env.lasting w = (.ok reply, w') := by
  have hreply {f : M Int}
    (h : Effect.run (do return ({ code := ← f } : Reply)) env w = (.ok reply, w'))
      (hf : ∀ code, f.run env w = (.ok code, w') → code ≠ errCallbackFailure →
        f.run env.lasting w = (.ok code, w')) :
      Effect.run (do return ({ code := ← f } : Reply)) env.lasting w = (.ok reply, w') := by
    obtain ⟨code, v, hrun, hpure⟩ := bind_returned h
    obtain ⟨heq, rfl⟩ := Prod.mk.inj hpure
    obtain rfl := Except.ok.inj heq
    rw [run_bind, hf code hrun hcode]
    rfl
  have hattempt {f : M Int} (hf : Lasts f)
      (h : Effect.run (do return ({ code := ← attempt f callbackFailed } : Reply)) env w
        = (.ok reply, w')) :
      Effect.run (do return ({ code := ← attempt f callbackFailed } : Reply)) env.lasting w
        = (.ok reply, w') :=
    hreply h fun _ hrun hc => lasts_deferring hf hrun hc
  cases cb with
  | collectOutput data =>
    refine hreply h fun code hrun hc => ?_
    unfold collectOutput at hrun ⊢
    rw [run_bind, run_conn] at hrun ⊢
    dsimp only at hrun ⊢
    by_cases hspent : w.conn.outputRemaining = 0
    · rw [if_pos hspent] at hrun ⊢
      exact hrun
    · rw [if_neg hspent] at hrun ⊢
      exact lasts_deferring (lasts_stageBytes _ _) hrun hc
  | sendBody => exact hattempt (lasts_stageFrame _ _ _ _) h
  | dataFrameLength s _ _ frameSize =>
    refine hreply h fun code hrun _ => ?_
    have hlasts : Lasts (dataFrameLength s frameSize) := by
      refine lasts_conn fun c => ?_
      cases c.bodies.lookup s <;> exact improves_pure _
    exact hlasts env w code w' hrun
  | readBody s length =>
    rw [Callback.body, readBody, run_bind, run_conn] at h ⊢
    dsimp only at h ⊢
    by_cases hspent : w.conn.outputRemaining = 0
    · rw [if_pos hspent] at h ⊢
      exact h
    · rw [if_neg hspent, run_attempt] at h ⊢
      rcases hrun : (prepareBody session s length).run env w with ⟨e | a, v⟩
      · rw [hrun] at h
        obtain ⟨heq, -⟩ := Prod.mk.inj h
        obtain rfl := Except.ok.inj heq
        exact absurd rfl hcode
      · rw [hrun] at h
        rw [lasts_prepareBody session s length env w a v hrun]
        exact h
  | streamClosed => exact hattempt (lasts_releaseStream _ _) h
  | frameSent frame =>
    refine hreply h fun code hrun hc => ?_
    unfold frameSent at hrun ⊢
    rw [run_bind, run_conn] at hrun ⊢
    dsimp only at hrun ⊢
    by_cases hends : endsStream w.conn frame = true
    · rw [if_pos hends] at hrun ⊢
      exact lasts_deferring (lasts_submitDeferredReset _ _) hrun hc
    · rw [if_neg hends] at hrun ⊢
      cases hpayload : frame.payload with
      | goaway =>
        rw [hpayload] at hrun
        exact lasts_deferring
          (improves_bind (lasts_rememberGoaway _ _) fun _ => improves_pure _) hrun hc
      | _ =>
        rw [hpayload] at hrun
        exact hrun
  | frameNotSent => exact hattempt (lasts_recordFailure _ _ _) h
  | _ => exact absurd hcb (by simp [Callback.isOutbound, Callback.isReport])

theorem lasts_fail : Lasts fail := by
  intro env w u w' h
  rw [run_fail] at h ⊢
  exact h

theorem lasts_updateTerminalState : Lasts updateTerminalState := by
  refine lasts_conn fun c => improves_ite (fun _ => ?_) fun _ => improves_pure _
  refine improves_bind (lasts_conn fun _ => lasts_askOn _ _) fun _ =>
    improves_ite (fun _ => ?_) fun _ => improves_pure _
  refine improves_bind (lasts_conn fun _ => lasts_askOn _ _) fun _ =>
    improves_ite (fun _ => ?_) fun _ => improves_pure _
  exact improves_bind (lasts_update _) fun _ => lasts_publish _

theorem lasts_raiseCallbackOrNative (result : Int) : Lasts (raiseCallbackOrNative result) := by
  refine improves_ite (fun _ => lasts_conn fun c => ?_) fun _ => improves_pure _
  cases c.callbackError with
  | some error => exact improves_bind lasts_fail fun _ => improves_raise _
  | none =>
    exact improves_bind (lasts_allocate _) fun _ => improves_bind lasts_host fun _ =>
      improves_ite (fun _ => improves_bind lasts_fail fun _ => improves_raise _)
        fun _ => improves_raise _

/-- **So would `data_to_send`** at its end. -/
theorem lasts_finishSend (result : Int) : Lasts (finishSend result) := by
  have hbody : Lasts (do
      raiseCallbackOrNative result
      if (← conn).closing then updateTerminalState
      takeOutput) :=
    improves_bind (lasts_raiseCallbackOrNative _) fun _ => lasts_conn fun _ =>
      improves_ite (fun _ => improves_bind lasts_updateTerminalState fun _ => lasts_takeOutput)
        fun _ => lasts_takeOutput
  intro env w v w' h
  rw [run_finishSend] at h ⊢
  rcases hrun : Effect.run (do
      raiseCallbackOrNative result
      if (← conn).closing then updateTerminalState
      takeOutput) env w with ⟨e | output, u⟩
  · rw [hrun] at h
    exact absurd (congrArg Prod.fst h) (by simp)
  · rw [hrun] at h
    rw [hbody env w output u hrun]
    exact h

end Lasting

end Ngh2
