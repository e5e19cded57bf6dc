import Ngh2.Failure
import Ngh2.Providers

/-!
# The defences of the outbound DATA callbacks

`_read_body` and `_send_body` look up a body that could be missing, and
`_send_body` checks that the frame fits the caller's limit and that the queue
gave as many bytes as were announced. The last two checks never fail: they held
when the frame was announced, one callback earlier, and nothing has changed
since (`Stepped.announced`). The lookups succeed if a provider that is read has
a body, and so in every run in which there was memory for the bodies of the
messages the engine took (`data_defences_unreachable`). What the two callbacks
can raise is then little: an exhausted memory, and a refusal of the engine to
take the trailers.

A provider is submitted before its body is recorded, though, and where the
record finds no memory the engine keeps the provider. The next call that drives
it takes the missing-body lookup (`data_defences_unreachable_bodiless`).
-/

namespace Ngh2

open Nghttp2 Effect

/-! ## What is known when a frame is to be written -/

/-- **The frame of an announcement**: there is a body with that many bytes, and
the limit leaves room for them and a frame header. -/
structure Connection.Announced (w : PointerWidth) (c : Connection) (s : StreamId) (length : Nat) :
    Prop where
  room : ¬ (0 ≤ c.outputRemaining ∧ c.outputRemaining < length + 9)
  body : ∃ body, c.bodies.lookup s = some body ∧ body.Sound w ∧ length ≤ body.queue.length

/-- **What `_read_body` announces can be written.** -/
theorem Stepped.announced {m : Machine} {l : Label} {p : Outcome × Machine}
    (hstep : Stepped m l p) (hq : m.conn.Queued m.host.pointerWidth) (hsound : p.2.conn.Sound)
    {s : StreamId}
    {length : Nat} (h : Entry.announces ⟨m, l, p.1, p.2⟩ = some (s, length)) :
    p.2.conn.Announced m.host.pointerWidth s length := by
  cases hstep with
  | request => simp [Entry.announces] at h
  | ret => simp [Entry.announces] at h
  | @callback cb env d session q driven hc =>
    rw [Machine.afterCallback_conn] at hsound ⊢
    cases hc with
    | failed spoiled deferred => exact absurd (deferred.symm.trans hsound.2) (by simp)
    | paused => simp [Entry.announces, Machine.afterCallback] at h
    | @readCopied t n body body' s' reply is unspent opened limited copied finished =>
      have hanswer := (finished.copied (hq t body opened) copied).1
      simp only [Entry.announces, Machine.afterCallback, hanswer] at h
      rw [if_neg fun hno => absurd hno.1 (by simp [Body.answer_noCopy])] at h
      exact absurd h (by simp)
    | @readWhole t n body body' reply is unspent opened whole finished =>
      have hbody := hq t body opened
      obtain ⟨hanswer, hview, hsound'⟩ := finished.whole hbody
      simp only [Entry.announces, Machine.afterCallback] at h
      split at h
      · next hcode =>
        obtain ⟨rfl, rfl⟩ := Prod.mk.inj (Option.some_inj.mp h)
        have hlength : reply.code.toNat = min n body.queuedSize := by
          rcases finished.code_eq with heq | heq
          · rw [heq]
            exact Int.toNat_natCast _
          · exact absurd hcode.2 (by rw [heq]; decide)
        have hqueue : body'.queue = body.queue := by
          have heq := congrArg Body.queue hview
          rw [hanswer] at heq
          simpa [Body.answered, Body.answer_buffer] using heq
        refine ⟨?_, body', by simp, hsound', ?_⟩
        · rw [hlength]
          rintro ⟨hlimited, hshort⟩
          rcases whole with hfree | hfits
          · exact absurd hlimited (not_le.mpr hfree)
          · exact absurd hshort (not_lt.mpr hfits)
        · rw [hlength, hqueue]
          exact (min_le_right _ _).trans hbody.queuedSize_le
      · exact absurd h (by simp)
    | headerBlock kind =>
      rcases kind with ⟨rfl, -⟩ | ⟨rfl, -⟩ | ⟨_, _, _, rfl, -⟩ <;> simp [Entry.announces] at h
    | _ => simp [Entry.announces] at h

/-! ## What the two callbacks raise -/

/-- An exhausted memory, or a size that no memory could hold. -/
def PyError.isMemoryError : PyError → Bool
  | .memoryError _ => true
  | _ => false

/-- **The exceptions of `_read_body`**: an exhausted memory, or the engine's
refusal of the trailers. -/
def Host.Refuses (host : Host) (e : PyError) : Prop :=
  e.isMemoryError = true ∨ ∃ code < 0, e = nghttp2Error host code

/-- No refusal is a failed lookup. -/
theorem Host.Refuses.ne_keyError {host : Host} {e : PyError} (h : host.Refuses e)
    (s : StreamId) : e ≠ .keyError s := by
  rintro rfl
  obtain hmemory | ⟨code, -, hcode⟩ := h
  · exact absurd hmemory (by simp [PyError.isMemoryError])
  · unfold nghttp2Error at hcode
    repeat' split at hcode
    all_goals exact PyError.noConfusion hcode

section Raising

variable {env : Env} {w : World} {e : PyError} {s : StreamId} {body : BodySource} {length : Nat}

/-- The staging buffer is not extended for want of memory only. -/
theorem raisesOnly_reserveOutput :
    RaisesOnly (fun e => e.isMemoryError = true) (reserveOutput length) := by
  have hupdate (f : Connection → Connection) :
      RaisesOnly (fun e => e.isMemoryError = true) (update f) := raisesOnly_modify _
  have hconn : RaisesOnly (fun e => e.isMemoryError = true) conn :=
    raisesOnly_bind raisesOnly_get fun _ => raisesOnly_pure _
  have hhost : RaisesOnly (fun e => e.isMemoryError = true) host :=
    raisesOnly_bind raisesOnly_get fun _ => raisesOnly_pure _
  have hresize (target : Nat) :
      RaisesOnly (fun e => e.isMemoryError = true) (resizeOutput target) :=
    raisesOnly_bind raisesOnly_read fun _ =>
      raisesOnly_ite (fun _ => hupdate _) fun _ =>
        raisesOnly_bind (hupdate _) fun _ => raisesOnly_raise rfl
  refine raisesOnly_bind hconn fun c => raisesOnly_bind hhost fun _ => raisesOnly_bind
    (raisesOnly_ite (fun _ => raisesOnly_raise rfl) fun _ => raisesOnly_pure _) fun _ => ?_
  have hspend (f : Connection → Connection) (used : Nat) :
      RaisesOnly (fun e => e.isMemoryError = true) (do update f; return used) :=
    raisesOnly_bind (hupdate f) fun _ => raisesOnly_pure used
  exact raisesOnly_ite (fun _ => raisesOnly_bind (hresize _) fun _ => hspend _ _)
    fun _ => hspend _ _

/-- **The queue gives what is asked of it**, as far as it goes, without
raising. -/
theorem run_copyBody_sound (hbody : body.Sound w.host.pointerWidth) :
    ∃ w', (copyBody s body length).run env w = (.ok (body.queue.take length), w') ∧
      w'.host = w.host ∧ w'.conn.bodies.lookup s ≠ none := by
  obtain ⟨t, hloop, htaken⟩ := hbody.copyLoop length w.conn.queuedBodySize
  refine ⟨{ w with conn := { w.conn with
    bodies := w.conn.bodies.insert s t.body.compact, queuedBodySize := t.queued } }, ?_, rfl, ?_⟩
  · rw [run_copyBody, hloop]
    dsimp only
    rw [show t.copied = body.queue.take length from htaken.copied]
  · simp

/-- **An announced frame is staged**, unless memory is exhausted. -/
theorem stageFrame_raises {frameHeader : FrameHeader}
    (hc : w.conn.Announced w.host.pointerWidth s length)
    (h : ((stageFrame s 0 frameHeader length).run env w).1 = .error e) :
    e.isMemoryError = true := by
  obtain ⟨hroom, body, hbody, hsound, hlength⟩ := hc
  unfold stageFrame at h
  rw [run_bind, run_conn] at h
  dsimp only at h
  rw [run_bind, run_raiseIf, if_neg (fun hor => hor.elim (fun hne => hne rfl) hroom)] at h
  dsimp only at h
  rw [run_bind, run_bodyOf _ _ hbody] at h
  dsimp only at h
  rw [run_bind, run_host] at h
  dsimp only at h
  rw [run_bind, run_raiseIf] at h
  by_cases hlarge : w.host.pointerWidth.ssizeMax - 9 < length
  · rw [if_pos hlarge] at h
    obtain rfl := Except.error.inj h
    rfl
  · rw [if_neg hlarge] at h
    dsimp only at h
    rw [run_bind] at h
    rcases hreserve : (reserveOutput (length + 9)).run env w with ⟨_ | offset, w'⟩
    · rw [hreserve] at h
      obtain rfl := Except.error.inj h
      exact raisesOnly_reserveOutput env w _ (congrArg Prod.fst hreserve)
    · rw [hreserve] at h
      have hhost : w'.host = w.host := by
        obtain ⟨output, heq, -⟩ | ⟨e, output, heq⟩ := run_reserveOutput env w (length + 9)
        · exact congrArg (fun p => p.2.host) (hreserve.symm.trans heq)
        · exact congrArg (fun p => p.2.host) (hreserve.symm.trans heq)
      dsimp only at h
      rw [run_bind, writeOutput, run_update] at h
      dsimp only at h
      rw [run_bind] at h
      obtain ⟨w'', hcopy, -, -⟩ := @run_copyBody_sound env { w' with conn := { w'.conn with
        output := w'.conn.output.map (·.memcpy offset frameHeader.val) } } s body length
        (hhost.symm ▸ hsound)
      rw [hcopy] at h
      -- the queue held what was announced, so the length is right
      have hfull : (body.queue.take length).length = length := by
        rw [List.length_take, min_eq_left hlength]
      simp [writeOutput, hfull] at h

/-- What ends a read raises a refusal only. -/
theorem finishRead_raises {session : Option SessionId} {reply : Reply} {complete : Bool}
    (hb : w.conn.bodies.lookup s ≠ none)
    (h : ((finishRead session s reply complete).run env w).1 = .error e) :
    w.host.Refuses e := by
  obtain ⟨body, hbody⟩ := Option.ne_none_iff_exists'.mp hb
  unfold finishRead at h
  rw [run_bind, run_bodyOf _ _ hbody] at h
  dsimp only at h
  cases complete with
  | false =>
    by_cases hcode : reply.code = 0 <;> simp [hcode] at h
  | true =>
    cases htrailers : body.trailers with
    | none => simp [htrailers] at h
    | some trailers =>
      simp only [htrailers, if_true, run_bind, run_allocate] at h
      cases halloc : env.alloc .object with
      | false =>
        simp only [halloc, Bool.false_eq_true, if_false] at h
        obtain rfl := Except.error.inj h
        exact .inl rfl
      | true =>
        simp only [halloc, if_true, run_askOn, run_host, run_raiseIf] at h
        by_cases hneg : env.reply (.submitTrailer s trailers) < 0
        · simp only [hneg, if_true] at h
          obtain rfl := Except.error.inj h
          exact .inr ⟨_, hneg, rfl⟩
        · simp [hneg] at h

/-- **A body that is there is read**, unless memory is exhausted or the engine
refuses its trailers. -/
theorem prepareBody_raises {session : Option SessionId}
    (hbody : w.conn.bodies.lookup s = some body) (hsound : body.Sound w.host.pointerWidth)
    (h : ((prepareBody session s length).run env w).1 = .error e) : w.host.Refuses e := by
  unfold prepareBody at h
  rw [run_bind, run_conn] at h
  dsimp only at h
  rw [run_bind, run_bodyOf _ _ hbody] at h
  dsimp only at h
  rw [run_ite] at h
  split at h
  · exact finishRead_raises (by simp [hbody]) h
  · obtain ⟨w', hcopy, hhost, hlookup⟩ :=
      @run_copyBody_sound env w s body length hsound
    obtain ⟨body', hbody'⟩ := Option.ne_none_iff_exists'.mp hlookup
    rw [run_bind, hcopy] at h
    dsimp only at h
    rw [run_bind, run_bodyOf _ _ hbody'] at h
    rw [← hhost]
    exact finishRead_raises hlookup h

end Raising

/-! ## What the two callbacks find -/

/-- What is assumed of the engine where it reads bodies, and memory for the body
of every message it takes. -/
def ReadsAfforded (h : History) (m : Machine) (l : Label) : Prop :=
  ReadsBodies h m l ∧ m.BodyAfforded l

instance (h : History) (m : Machine) (l : Label) : Decidable (ReadsAfforded h m l) :=
  inferInstanceAs (Decidable (_ ∧ _))

section Runs

variable {host : Host} {h : History} {m : Machine} {env : Env}

/-- **`_send_body` finds what was announced.** -/
theorem Runs.announced (hrun : Runs host ReadsAfforded h m) {s : StreamId} {padlen length : Nat}
    {frameHeader : FrameHeader} (hdriven : m.drive ≠ none)
    (hallowed : ReadsAfforded h m (.callback (.sendBody s padlen frameHeader length) env)) :
    padlen = 0 ∧ m.conn.Announced host.pointerWidth s length := by
  have hends : ∀ {h m l}, ReadsAfforded h m l → FailureEndsDrive h l := fun ha => ha.1.ends
  obtain ⟨hpadlen, hannounces⟩ := hallowed.1.writes
  refine ⟨hpadlen, ?_⟩
  have hsound := Runs.sound_of_callback hends hrun hallowed hdriven
  cases h with
  | nil => exact absurd hannounces (by simp)
  | cons e h' =>
    obtain ⟨hprior, hbefore, htaken⟩ := hrun.of_suffix (List.suffix_refl _)
    have hafter : m = e.after := hrun.state_eq
    rw [hafter] at hsound ⊢
    have hstep := Machine.stepped htaken
    have hq := Runs.queued hends hprior (Runs.sound_before hends hprior hbefore hstep hsound)
    rw [← Runs.host_eq hprior]
    exact hstep.announced hq hsound hannounces

/-- **`_read_body` finds a body**, unless the limit is spent and it looks for
none. -/
theorem Runs.body_of_read (hrun : Runs host ReadsAfforded h m) {s : StreamId} {length : Nat}
    (hdriven : m.drive ≠ none)
    (hallowed : ReadsAfforded h m (.callback (.readBody s length) env)) :
    m.conn.outputRemaining = 0 ∨
      ∃ body, m.conn.bodies.lookup s = some body ∧ body.Sound host.pointerWidth := by
  have hends : ∀ {h m l}, ReadsAfforded h m l → FailureEndsDrive h l := fun ha => ha.1.ends
  have hsound := Runs.sound_of_callback hends hrun hallowed hdriven
  obtain ⟨hprovided, hclosed, hrequested⟩ := hallowed.1.reads
  have hstaging := Runs.staging hends hrun hsound
  by_cases hsending : m.sending = true
  · -- a connection that terminates was told to, or has an engine that rests
    have hterminating : m.conn.terminating = false := by
      refine Bool.eq_false_iff.mpr fun hterminating => ?_
      obtain hasked | ⟨hresting, -⟩ :=
        Runs.ended hends (fun ha => ha.1.rests) hrun hsound hterminating
      · exact absurd hasked (by simp [hrequested])
      · exact absurd (hallowed.1.rests hsending) (by simp [hresting])
    obtain ⟨body, hbody⟩ := Option.ne_none_iff_exists'.mp
      (Runs.body_of_provided hends And.right hrun hsound hterminating s hprovided hclosed)
    exact .inr ⟨body, hbody, (Runs.records_eq hends hrun hsound).1 s body hbody⟩
  · left
    unfold Machine.Staging at hstaging
    split at hstaging
    · next hdrive => exact absurd (by simp [Machine.sending, hdrive]) hsending
    · exact hstaging.2

end Runs

/-! ## The theorem -/

/-- **The defences are not reached** in a step:

* `_send_body` finds the body that was announced and room for its frame, and
  raises nothing but an exhausted memory: neither the failed lookup, nor
  'unexpected DATA output mode', nor 'DATA source did not provide the prepared
  body';
* `_read_body` finds a body unless the limit is spent, and raises nothing but
  an exhausted memory or the engine's refusal of the trailers, never the failed
  lookup. -/
structure DefencesHold (host : Host) (e : Entry Machine Label Outcome) : Prop where
  written : ∀ s padlen frameHeader length env,
    e.label = .callback (.sendBody s padlen frameHeader length) env →
    padlen = 0 ∧ e.before.conn.Announced host.pointerWidth s length ∧
      ∀ x, Raises e x → x.isMemoryError = true
  read : ∀ s length env, e.label = .callback (.readBody s length) env →
    (e.before.conn.outputRemaining = 0 ∨
      ∃ body, e.before.conn.bodies.lookup s = some body ∧ body.Sound host.pointerWidth) ∧
    ∀ x, Raises e x → host.Refuses x ∧ x ≠ .keyError s

/-- **The defences of the outbound DATA callbacks are unreachable**, with any
limits, in every run in which each message that the engine takes with a body
finds memory for the body. -/
theorem data_defences_unreachable {host : Host} {h : History} {m : Machine}
    (hrun : Runs host ReadsAfforded h m) {e : Entry Machine Label Outcome} (he : e ∈ h) :
    DefencesHold host e := by
  obtain ⟨h', -, hprior, hallowed, htaken⟩ := hrun.of_mem he
  have hstep := Machine.stepped htaken
  have hhost : e.before.world.host = host := Runs.host_eq hprior
  constructor
  · intro s padlen frameHeader length env hlabel
    rw [hlabel] at hallowed hstep
    have hdriven := hstep.callback_driven
    obtain ⟨rfl, hannounced⟩ := Runs.announced hprior hdriven hallowed
    refine ⟨rfl, hannounced, fun x hraises => ?_⟩
    obtain ⟨cb, env', d, session, hcb, -, htried⟩ := hraises
    obtain ⟨rfl, rfl⟩ := Label.callback.inj (hlabel.symm.trans hcb)
    rw [Callback.tried, run_bind] at htried
    rcases hrunFrame : (stageFrame s 0 frameHeader length).run env e.before.world with ⟨_ | _, w⟩
    · rw [hrunFrame] at htried
      obtain rfl := Except.error.inj htried
      rw [← hhost] at hannounced
      exact stageFrame_raises (w := e.before.world) hannounced (congrArg Prod.fst hrunFrame)
    · rw [hrunFrame] at htried
      simp at htried
  · intro s length env hlabel
    rw [hlabel] at hallowed hstep
    have hfound := Runs.body_of_read hprior hstep.callback_driven hallowed
    refine ⟨hfound, fun x hraises => ?_⟩
    obtain ⟨cb, env', d, session, hcb, -, htried⟩ := hraises
    obtain ⟨rfl, rfl⟩ := Label.callback.inj (hlabel.symm.trans hcb)
    rw [Callback.tried, run_bind, run_conn] at htried
    dsimp only at htried
    rw [run_ite] at htried
    split at htried
    · simp at htried
    · next hunspent =>
      obtain ⟨body, hbody, hsound⟩ := hfound.resolve_left hunspent
      have hrefuses := prepareBody_raises (w := e.before.world) hbody (hhost.symm ▸ hsound) htried
      rw [hhost] at hrefuses
      exact ⟨hrefuses, hrefuses.ne_keyError s⟩

/-- A client that is asked for a frame, and then for its bytes. -/
def writtenFrame : List Label := [
  .request (.init .client {}) (.accepting []),
  .request (.initiateConnection []) (.accepting []),
  .request (.sendRequest [] false) (.accepting [(.sessionCheckRequestAllowed, 1),
    (.submitRequest2 [] true, 1)]),
  .request (.sendData 1 [1, 2, 3] true) (.accepting []),
  .request (.dataToSend (some 12)) (.accepting []),
  .callback (.readBody 1 16384) (.accepting []),
  .callback (.sendBody 1 0 ⟨[0, 0, 3, 0, 1, 0, 0, 0, 1], rfl⟩ 3) (.accepting [])]

set_option maxRecDepth 4000 in
theorem data_defences_unreachable_writtenFrame :
    ∃ c, Run.execute Machine.step ReadsAfforded ([], Machine.fresh {}) writtenFrame = some c ∧
      ∃ e ∈ c.1, e.before.conn.outputRemaining = 12 ∧ e.before.conn.Announced .w64 1 3 := by
  obtain ⟨c, hc, e, he, hlabel, hremaining⟩ : ∃ c,
      Run.execute Machine.step ReadsAfforded ([], Machine.fresh {}) writtenFrame = some c ∧
      ∃ e ∈ c.1, e.label = .callback (.sendBody 1 0 ⟨[0, 0, 3, 0, 1, 0, 0, 0, 1], rfl⟩ 3)
        (.accepting []) ∧ e.before.conn.outputRemaining = 12 :=
    ⟨_, rfl, _, List.mem_cons_self, rfl, rfl⟩
  have hholds := data_defences_unreachable (Run.of_execute .start hc) he
  exact ⟨c, hc, e, he, hremaining, (hholds.written 1 0 _ 3 _ hlabel).2.1⟩

/-- A client whose request the engine takes, while there is no memory for its
body. The call raises, and the next drive reads the provider. -/
def bodilessRequest : List Label := [
  .request (.init .client {}) (.accepting []),
  .request (.initiateConnection []) (.accepting []),
  .request (.sendRequest [] false) { Env.accepting [(.sessionCheckRequestAllowed, 1),
    (.submitRequest2 [] true, 1)] with alloc := fun a => decide (a ≠ .body) },
  .request (.dataToSend none) (.accepting []),
  .callback (.readBody 1 16384) (.accepting [])]

set_option maxRecDepth 4000 in
/-- **Without memory for a body the missing-body lookup is taken**, and the
connection fails where the callback returns. -/
theorem data_defences_unreachable_bodiless :
    ∃ c, Run.execute Machine.step ReadsBodies ([], Machine.fresh {}) bodilessRequest = some c ∧
      ∃ e ∈ c.1, ¬ DefencesHold {} e := by
  obtain ⟨c, hc, e, he, hlabel, hraises⟩ : ∃ c,
      Run.execute Machine.step ReadsBodies ([], Machine.fresh {}) bodilessRequest = some c ∧
      ∃ e ∈ c.1, e.label = .callback (.readBody 1 16384) (.accepting []) ∧
        Raises e (.keyError 1) :=
    ⟨_, rfl, _, List.mem_cons_self, rfl, _, _, _, _, rfl, rfl, rfl⟩
  refine ⟨c, hc, e, he, fun hholds => ?_⟩
  exact ((hholds.read 1 16384 _ hlabel).2 _ hraises).2 rfl

end Ngh2
