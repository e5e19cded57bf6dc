import Ngh2.Contract
import Ngh2.Events
import Ngh2.Failure
import Ngh2.RecordSteps

/-!
# The output is a stream without gaps

What the engine hands over for the transport comes in two forms: bytes it
offers, of which `_collect_output` accepts a prefix, and whole DATA frames,
which `_send_body` puts together. It never hands them over twice. So they must
all reach the caller, in their order, or the connection must be over: a byte
that is lost cannot be asked for again.

`handedOver` reads these bytes off the history without looking at the staging
buffer. What was returned, followed by what is staged, is what was handed over
(`Runs.returned_append`), and nothing is staged between two calls.
-/

namespace Ngh2

open Nghttp2 Effect

/-! ## The two streams -/

/-- The bytes the engine handed over in a step: the prefix that was accepted
of those it offered, or a frame header and as many bytes off the queue. -/
def handedOver (e : Entry Machine Label Outcome) : Bytes :=
  match e.label, e.outcome.response with
  | .callback (.collectOutput data) _, .replied reply => data.take reply.code.toNat
  | .callback (.sendBody s _ frameHeader length) _, .replied reply =>
    if reply.code = 0 then
      frameHeader.val ++ (((e.before.conn.bodies.lookup s).map BodySource.queue).getD []).take
        length
    else []
  | _, _ => []

/-- **Everything the engine has handed over**, in order. -/
def handedOverBytes : History → Bytes
  | [] => []
  | e :: h => handedOverBytes h ++ handedOver e

/-- The bytes a step returned to the caller of `data_to_send`: at once, or when
it came back from the engine. -/
def returnedBy (e : Entry Machine Label Outcome) : Option Bytes :=
  match e.label, e.outcome.response with
  | .request (.dataToSend _) _, .returned (.bytes data) => some data
  | .ret _ _, .returned (.bytes data) => some data
  | _, _ => none

/-- **Everything `data_to_send` has returned**, in order. -/
def returnedBytes : History → Bytes
  | [] => []
  | e :: h => returnedBytes h ++ (returnedBy e).getD []

/-! ## One step -/

section Steps

variable {m : Machine} {l : Label} {p : Outcome × Machine}

/-- A call that raised returned no bytes. -/
theorem returnedBy_raised (m m' : Machine) (r : Request) (env : Env) (x : PyError)
    (is : List Issued) : returnedBy ⟨m, .request r env, ⟨.raised x, is⟩, m'⟩ = none := by
  cases r <;> rfl

/-- A quiet operation returns no bytes. -/
theorem returnedBy_quiet {r : Request} (h : r.isQuiet = true) (m m' : Machine) (env : Env)
    (o : Outcome) : returnedBy ⟨m, .request r env, o, m'⟩ = none := by
  cases r <;> first | rfl | simp [Request.isQuiet] at h

/-- A step that neither returns bytes nor is handed any. -/
theorem balance_of_none {e : Entry Machine Label Outcome} (hr : returnedBy e = none)
    (hh : handedOver e = []) (hs : staged e.after.conn.output = staged e.before.conn.output) :
    (returnedBy e).getD [] ++ staged e.after.conn.output
      = staged e.before.conn.output ++ handedOver e := by
  rw [hr, hh, hs, List.append_nil]
  rfl

/-- **What a step returns and leaves staged is what was staged and what it was
handed.** -/
theorem Stepped.balance (h : Stepped m l p) (hs : m.Staging)
    (hq : m.conn.Queued m.host.pointerWidth) (hsound : p.2.conn.Sound) :
    (returnedBy ⟨m, l, p.1, p.2⟩).getD [] ++ staged p.2.conn.output
      = staged m.conn.output ++ handedOver ⟨m, l, p.1, p.2⟩ := by
  cases h with
  | @request r env q idle hr =>
    have hsame (hr : returnedBy ⟨m, .request r env, (m.afterRequest q).1, (m.afterRequest q).2⟩
      = none)
        (ho : q.2.conn.output = m.conn.output) := balance_of_none hr rfl
          (show staged (m.afterRequest q).2.conn.output = _ by rw [Machine.afterRequest_conn, ho])
    cases hr with
    | failed => exact absurd hsound.1 (by simp [World.failed, Connection.invalidate])
    | nothingToSend => exact (List.append_nil _).symm
    | rejected => exact hsame (returnedBy_raised _ _ _ _ _ _) rfl
    | unreported => exact hsame (returnedBy_raised _ _ _ _ _ _) rfl
    | answered quiet => exact hsame (returnedBy_quiet quiet _ _ _ _) rfl
    | _ => exact hsame rfl rfl
  | @callback cb env d session q driven hc =>
    rw [Machine.afterCallback_conn] at hsound
    have hsame (hh : handedOver ⟨m, .callback cb env, ⟨.replied q.1, q.2.issued⟩,
        { m with conn := q.2.conn }⟩ = []) (ho : q.2.conn.output = m.conn.output) :=
      balance_of_none rfl hh (congrArg staged ho)
    cases hc with
    | failed spoiled deferred => exact absurd (deferred.symm.trans hsound.2) (by simp)
    | @blocked data => exact hsame (show data.take errWouldblock.toNat = [] from List.take_zero) rfl
    | @collected data accepted output unspent amount written fits =>
      obtain ⟨rfl, hlen⟩ := hs.sending driven unspent
      exact staged_collected hlen written fits
    | @bodySent streamId frameHeader length body s output limit opened written fits copied full =>
      obtain ⟨rfl, hlen⟩ := hs.sending driven (by omega)
      obtain ⟨s', heq, htaken⟩ := (hq streamId body opened).copyLoop length m.conn.queuedBodySize
      obtain rfl : s = s' := congrArg Prod.snd (copied.symm.trans heq)
      rw [← full] at fits
      change staged (output.map _) = staged m.conn.output ++
        (frameHeader.val ++ (((m.conn.bodies.lookup streamId).map BodySource.queue).getD []).take
          length)
      rw [staged_bodySent hlen written fits, opened, List.append_assoc,
        show s.copied = body.queue.take length from htaken.copied]
      rfl
    | headerBlock kind =>
      rcases kind with ⟨rfl, -⟩ | ⟨rfl, -⟩ | ⟨_, _, _, rfl, -⟩
      all_goals exact hsame rfl rfl
    | _ => exact hsame rfl rfl
  | @ret result env d session q driven hr =>
    rw [Machine.afterReturn_conn] at hsound
    have htaken (hlen : (staged m.conn.output).length = m.conn.outputSize) :
        (staged m.conn.output).take m.conn.outputSize ++ [] = staged m.conn.output ++ [] := by
      rw [List.take_of_length_le hlen.le]
    rw [Machine.Staging, driven] at hs
    cases hr with
    | failed => exact absurd hsound.1 (by simp [World.failed, Connection.invalidate])
    | sentThenFailed => exact absurd hsound.1 (by simp [World.failed, Connection.invalidate])
    | sent => exact htaken hs
    | sentLast => exact htaken hs
    | _ => exact balance_of_none rfl rfl rfl

/-- **A `data_to_send` that comes back with an exception fails the
connection.** -/
theorem Stepped.failed_of_sendRaised {result : Int} {env : Env} {session : Option SessionId}
    {x : PyError} (h : Stepped m (.ret result env) p) (hdrive : m.drive = some (.send, session))
    (hraised : p.1.response = .raised x) : p.2.conn.failed = true := by
  cases h with
  | @ret _ _ d _ q driven hr =>
    obtain ⟨rfl, -⟩ := Prod.mk.inj (Option.some_inj.mp (hdrive.symm.trans driven))
    rw [Machine.afterReturn_conn]
    cases hr with
    | failed => rfl
    | sentThenFailed => rfl
    | rejected negative mild clean kind => exact absurd rfl kind
    | sent => exact absurd hraised (by simp [Machine.afterReturn])
    | sentLast => exact absurd hraised (by simp [Machine.afterReturn])

/-- **Nothing is returned on a failed connection**: `data_to_send` raises. -/
theorem Stepped.silent_of_failed (h : Stepped m l p)
    (hlive : m.drive ≠ none → m.conn.failed = false) (hf : m.conn.failed = true) :
    returnedBy ⟨m, l, p.1, p.2⟩ = none := by
  have hidle : m.drive = none := by
    by_contra hne
    exact absurd (hlive hne) (by simp [hf])
  cases h with
  | @request r env q idle hr =>
    cases hr with
    | nothingToSend live => exact absurd live (by simp [hf])
    | rejected => exact returnedBy_raised _ _ _ _ _ _
    | failed => exact returnedBy_raised _ _ _ _ _ _
    | unreported => exact returnedBy_raised _ _ _ _ _ _
    | answered quiet => exact returnedBy_quiet quiet _ _ _ _
    | _ => rfl
  | callback driven => exact absurd driven (by simp [hidle])
  | ret driven => exact absurd driven (by simp [hidle])

/-- Where bytes were returned, no engine function is left on the stack, and the
connection is not failed. -/
theorem Stepped.idle_of_returned (h : Stepped m l p) {data : Bytes}
    (hr : returnedBy ⟨m, l, p.1, p.2⟩ = some data) (hs : m.drive ≠ none → m.conn.failed = false) :
    p.2.drive = none ∧ p.2.conn.failed = false := by
  cases h with
  | @request r env q idle hrequest =>
    cases hrequest with
    | nothingToSend live => exact ⟨idle, live⟩
    | rejected => exact absurd ((returnedBy_raised _ _ _ _ _ _).symm.trans hr) (by simp)
    | failed => exact absurd ((returnedBy_raised _ _ _ _ _ _).symm.trans hr) (by simp)
    | unreported => exact absurd ((returnedBy_raised _ _ _ _ _ _).symm.trans hr) (by simp)
    | answered quiet => exact absurd ((returnedBy_quiet quiet _ _ _ _).symm.trans hr) (by simp)
    | _ => exact absurd hr (by simp [returnedBy, Machine.afterRequest])
  | callback => exact absurd hr (by simp [returnedBy])
  | ret driven hret =>
    have hlive : m.conn.failed = false := hs (by simp [driven])
    refine ⟨Machine.afterReturn_drive _ _, ?_⟩
    rw [Machine.afterReturn_conn]
    cases hret with
    | sent => exact hlive
    | sentLast => exact hlive
    | _ => exact absurd hr (by simp [returnedBy, Machine.afterReturn])

end Steps

/-! ## Runs -/

section Runs

variable {host : Host} {Allowed : History → Machine → Label → Prop} {h : History} {m : Machine}

/-- **What was returned, followed by what is staged, is what the engine handed
over.** -/
theorem Runs.returned_append (hends : ∀ {h m l}, Allowed h m l → FailureEndsDrive h l)
    (hrun : Runs host Allowed h m) (hsound : m.conn.Sound) :
    returnedBytes h ++ staged m.conn.output = handedOverBytes h := by
  refine Runs.induct_sound
    (I := fun h m => returnedBytes h ++ staged m.conn.output = handedOverBytes h)
    hends rfl ?_ hrun hsound
  intro h m l p hrun hbefore ih _ hstep hsound
  have hbalance := hstep.balance (Runs.staging hends hrun hbefore)
    (Runs.queued hends hrun hbefore) hsound
  change returnedBytes h ++ (returnedBy ⟨m, l, p.1, p.2⟩).getD [] ++ staged p.2.conn.output
    = handedOverBytes h ++ handedOver ⟨m, l, p.1, p.2⟩
  rw [List.append_assoc, hbalance, ← List.append_assoc, ih]

/-- Outside a drive, everything that was handed over was returned. -/
theorem Runs.returned_eq (hends : ∀ {h m l}, Allowed h m l → FailureEndsDrive h l)
    (hrun : Runs host Allowed h m) (hidle : m.drive = none) (hlive : m.conn.failed = false) :
    returnedBytes h = handedOverBytes h := by
  have hsound := Runs.sound_of_idle hends hrun hidle hlive
  have hstaging := Runs.staging hends hrun hsound
  rw [Machine.Staging, hidle] at hstaging
  rw [← Runs.returned_append hends hrun hsound, hstaging.1]
  exact (List.append_nil _).symm

/-- **Nothing is returned after a failure.** -/
theorem Runs.returned_of_failed (hrun : Runs host Allowed h m) :
    ∀ e h', (e :: h') <:+ h → e.after.conn.failed = true →
      returnedBytes h = returnedBytes (e :: h') := by
  refine Run.invariant (I := fun h _ => ∀ e h', (e :: h') <:+ h → e.after.conn.failed = true →
    returnedBytes h = returnedBytes (e :: h')) ?_ ?_ hrun
  · intro e h' hsuf
    exact absurd (List.suffix_nil.mp hsuf) (List.cons_ne_nil _ _)
  · intro h m l o m' hprior ih _ htaken e h' hsuf hfailed
    rcases List.suffix_cons_iff.mp hsuf with heq | hsuf
    · rw [heq]
    · have hbefore : m.conn.failed = true :=
        Runs.failed_of_mem hprior (hsuf.subset List.mem_cons_self) hfailed
      have hsilent : returnedBy ⟨m, l, o, m'⟩ = none :=
        (Machine.stepped htaken).silent_of_failed (Runs.live hprior) hbefore
      rw [returnedBytes, hsilent, ← ih e h' hsuf hfailed]
      exact List.append_nil _

end Runs

/-! ## The argument of `data_to_send` -/

/-- `data_to_send`, with the conversion of its argument. -/
def dataToSendOf (amount : Option Index) : M Started := do
  match amount with
  | none => dataToSend none
  | some value =>
    let n ← lift (nonnegativeSize (← host).pointerWidth value "amount")
    dataToSend (some n)

section Amount

variable (env : Env) (w : World) {value : Index}

/-- **A rejected amount changes nothing.** -/
theorem run_dataToSendOf_rejected {x : PyError}
    (h : nonnegativeSize w.host.pointerWidth value "amount" = .error x) :
    (dataToSendOf (some value)).run env w = (.error x, w) := by
  rw [dataToSendOf, run_bind, run_host]
  dsimp only
  rw [run_bind, h, run_lift_error]

/-- An accepted amount is the limit. -/
theorem run_dataToSendOf_accepted {n : Nat}
    (h : nonnegativeSize w.host.pointerWidth value "amount" = .ok n) :
    (dataToSendOf (some value)).run env w = (dataToSend (some n)).run env w := by
  rw [dataToSendOf, run_bind, run_host]
  dsimp only
  rw [run_bind, h, run_lift_ok]

end Amount

/-! ## The theorem -/

/-- **The output has no gap, even on failure.** In every run:

* whenever `data_to_send` has returned, everything returned so far is
  everything the engine has handed over;
* where it raises after it entered the engine, the connection is failed, no
  byte is returned from then on, and every later call raises;
* where its argument is rejected, nothing has changed, and where it is
  accepted, the argument is the limit. -/
theorem no_output_gap {host : Host} {h : History} {m : Machine}
    (hrun : Runs host EndsOnFailure h m) :
    (∀ e h', (e :: h') <:+ h → ∀ data, returnedBy e = some data →
      returnedBytes (e :: h') = handedOverBytes (e :: h')) ∧
    (∀ e h', (e :: h') <:+ h → ∀ result env session x, e.label = .ret result env →
      e.before.drive = some (.send, session) → e.outcome.response = .raised x →
      e.after.conn.failed = true ∧ returnedBytes h = returnedBytes h' ∧
        ∀ amount env', ((Request.dataToSend amount).body.run env' m.world).1
          = .error m.conn.stateError) ∧
    (∀ value env,
      (∀ x, nonnegativeSize host.pointerWidth value "amount" = .error x →
        (dataToSendOf (some value)).run env m.world = (.error x, m.world)) ∧
      ∀ n, nonnegativeSize host.pointerWidth value "amount" = .ok n →
        (dataToSendOf (some value)).run env m.world
          = (Request.dataToSend (some n)).body.run env m.world) := by
  have hends : ∀ {h m l}, EndsOnFailure h m l → FailureEndsDrive h l := fun ha => ha
  have hhost : m.world.host = host := Runs.host_eq hrun
  refine ⟨?_, ?_, fun value env => ⟨fun x hx => ?_, fun n hn => ?_⟩⟩
  · intro e h' hsuf data hreturned
    obtain ⟨hprior, hallowed, htaken⟩ := hrun.of_suffix hsuf
    obtain ⟨hidle, hlive⟩ := (Machine.stepped htaken).idle_of_returned hreturned (Runs.live hprior)
    exact Runs.returned_eq hends (.extend hprior hallowed htaken) hidle hlive
  · intro e h' hsuf result env session x hlabel hdrive hraised
    obtain ⟨-, -, htaken⟩ := hrun.of_suffix hsuf
    rw [hlabel] at htaken
    have hfailed := (Machine.stepped htaken).failed_of_sendRaised hdrive hraised
    refine ⟨hfailed, ?_, fun amount env' => ?_⟩
    · rw [Runs.returned_of_failed hrun e h' hsuf hfailed, returnedBytes]
      simp [returnedBy, hlabel, hraised]
    · have hf := Runs.failed_of_mem hrun (hsuf.subset List.mem_cons_self) hfailed
      rw [Connection.stateError, hf]
      simp [Request.body, dataToSend, Machine.world, hf]
  · exact run_dataToSendOf_rejected env m.world (by rw [hhost]; exact hx)
  · exact run_dataToSendOf_accepted env m.world (by rw [hhost]; exact hn)

/-- A client whose second output cannot be trimmed. -/
def untrimmedOutput : List Label := [
  .request (.init .client {}) (.accepting []),
  .request (.initiateConnection []) (.accepting []),
  .request (.dataToSend none) (.accepting []),
  .callback (.collectOutput [1, 2, 3]) (.accepting []),
  .ret 0 (.accepting []),
  .request (.dataToSend (some 2)) (.accepting []),
  .callback (.collectOutput [4, 5, 6]) (.accepting []),
  .ret 0 { Env.accepting [] with alloc := fun a => decide (a ≠ .trim 2) }]

set_option maxRecDepth 4000 in
theorem no_output_gap_untrimmedOutput :
    ∃ c, Run.execute Machine.step EndsOnFailure ([], Machine.fresh {}) untrimmedOutput = some c ∧
      handedOverBytes c.1 = [1, 2, 3, 4, 5] ∧ returnedBytes c.1 = [1, 2, 3] ∧
      c.2.conn.failed = true := by
  obtain ⟨c, hc, e, h', heq, hlabel, hdrive, hraised, hhanded, hreturned⟩ : ∃ c,
      Run.execute Machine.step EndsOnFailure ([], Machine.fresh {}) untrimmedOutput = some c ∧
      ∃ e h', c.1 = e :: h' ∧
      e.label = .ret 0 { Env.accepting [] with alloc := fun a => decide (a ≠ .trim 2) } ∧
      e.before.drive = some (.send, some 1) ∧
      e.outcome.response = .raised (.memoryError "") ∧
      handedOverBytes c.1 = [1, 2, 3, 4, 5] ∧ returnedBytes h' = [1, 2, 3] :=
    ⟨_, rfl, _, _, rfl, rfl, rfl, rfl, rfl, rfl⟩
  have hrun := Run.of_execute .start hc
  obtain ⟨hfailed, hsilent, -⟩ := (no_output_gap hrun).2.1 e h' (heq ▸ List.suffix_refl _) _ _ _ _
    hlabel hdrive hraised
  refine ⟨c, hc, hhanded, hsilent.trans hreturned, ?_⟩
  exact Runs.failed_of_mem hrun (heq ▸ List.mem_cons_self) hfailed

end Ngh2
