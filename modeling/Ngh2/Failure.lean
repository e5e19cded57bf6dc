import Ngh2.Contract
import Ngh2.Events
import Ngh2.Resources

/-!
# Failure is reported, and final

An exception cannot cross the C boundary. A callback that raises stores it in
`_callback_error`, tells the engine that it failed, and the operation that
called the engine raises it when the engine comes back. `Callback.tried` is
what a callback does inside its `try`, so that whether it raised, and what,
can be said without looking at the field that carries the exception.

What follows a failure is simple to say: nothing. `Connection.Void` lists what
is gone, and only the events that were published before are still there to be
taken away.

One failure is not reported. `_raise_native_error` and
`_raise_callback_or_native` make the exception of a fatal code before they
invalidate the connection, and where there is no memory for the exception the
connection stays as it is. `failure_is_final` is about the runs where there is.
-/

namespace Ngh2

open Nghttp2 Effect

/-! ## What a callback tries -/

/-- **A callback without its `except` clause**: the same lines, raising what
they raise. -/
def Callback.tried (session : Option SessionId) : Callback → M Reply
  | .collectOutput data => do
    let c ← conn
    if c.outputRemaining = 0 then return { code := errWouldblock }
    return { code := ← stageBytes data (c.acceptable data.length) }
  | .sendBody streamId padlen frameHeader length => do
    return { code := ← stageFrame streamId padlen frameHeader length }
  | .dataFrameLength streamId _ _ remoteMaxFrameSize => do
    return { code := ← Ngh2.dataFrameLength streamId remoteMaxFrameSize }
  | .readBody streamId length => do
    if (← conn).outputRemaining = 0 then return { code := errPause }
    prepareBody session streamId length
  | .beginFrame isData streamId length => do
    if !isData then return { code := 0 }
    return { code := ← openPayload streamId length }
  | .beginHeaders => do return { code := ← startBlock }
  | .header name value noIndex => do return { code := ← addField name value noIndex }
  | .invalidHeader => do return { code := ← Ngh2.invalidHeader }
  | .dataChunk streamId data => do return { code := ← copyFragment streamId data }
  | .frameReceived frame => do
    dispatchFrame frame
    return { code := 0 }
  | .streamClosed streamId errorCode => do return { code := ← releaseStream streamId errorCode }
  | .frameSent frame => do
    if endsStream (← conn) frame then
      return { code := ← submitDeferredReset session frame.streamId }
    match frame.payload with
    | .goaway _ errorCode opaqueData =>
      rememberGoaway errorCode opaqueData
      return { code := 0 }
    | _ => return { code := 0 }
  | .frameNotSent frame errorCode => do
    return { code := ← recordFailure session frame errorCode }

/-- The `except` clause of a callback: `_callback_failed`. -/
def deferring : Except PyError Reply × World → Except PyError Reply × World
  | (.ok reply, w) => (.ok reply, w)
  | (.error e, w) =>
    (.ok { code := errCallbackFailure },
      { w with conn := { w.conn with callbackError := some e } })

section Tried

variable {session : Option SessionId} (env : Env) (w : World)

/-- A code computed under an `except` clause. -/
theorem run_attempt_code (f : M Int) :
    (Effect.run (do return ({ code := ← attempt f callbackFailed } : Reply)) env w)
      = deferring (Effect.run (do return ({ code := ← f } : Reply)) env w) := by
  rw [run_bind, run_attempt, run_bind]
  rcases f.run env w with ⟨_ | _, w'⟩ <;> rfl

/-- **A callback is what it tries, with its exception deferred.** -/
theorem run_body_eq_deferring (cb : Callback) :
    (cb.body session).run env w = deferring ((cb.tried session).run env w) := by
  cases cb with
  | collectOutput data =>
    by_cases h0 : w.conn.outputRemaining = 0
    · simp [Callback.body, Callback.tried, collectOutput, h0, deferring]
    · have hattempt := run_attempt_code env w (stageBytes data (w.conn.acceptable data.length))
      rw [Callback.body, Callback.tried, collectOutput, run_bind, run_bind, run_conn]
      dsimp only
      rw [if_neg h0, run_bind, run_conn]
      dsimp only
      rw [if_neg h0]
      exact hattempt
  | sendBody streamId padlen frameHeader length => exact run_attempt_code env w _
  | dataFrameLength streamId sessionWindow streamWindow frameSize =>
    rw [Callback.body, Callback.tried, Ngh2.dataFrameLength, run_bind, run_bind, run_conn]
    dsimp only
    cases w.conn.bodies.lookup streamId <;> rfl
  | readBody streamId length =>
    by_cases h0 : w.conn.outputRemaining = 0
    · simp [Callback.body, Callback.tried, readBody, h0, deferring]
    · rw [Callback.body, Callback.tried, readBody, run_bind, run_conn]
      dsimp only
      rw [if_neg h0, run_attempt, run_bind, run_conn]
      dsimp only
      rw [if_neg h0]
      rcases (prepareBody session streamId length).run env w with ⟨_ | _, w'⟩ <;> rfl
  | beginFrame isData streamId length =>
    cases isData with
    | false => rfl
    | true => exact run_attempt_code env w (openPayload streamId length)
  | beginHeaders => exact run_attempt_code env w _
  | header name value noIndex => exact run_attempt_code env w _
  | invalidHeader => rfl
  | dataChunk streamId data => exact run_attempt_code env w _
  | frameReceived frame =>
    rw [Callback.body, Callback.tried, frameReceived, run_attempt_code, run_bind, run_bind,
      run_bind]
    rcases (dispatchFrame frame).run env w with ⟨_ | _, w'⟩ <;> rfl
  | streamClosed streamId errorCode => exact run_attempt_code env w _
  | frameSent frame =>
    cases hends : endsStream w.conn frame with
    | true =>
      have hattempt := run_attempt_code env w (submitDeferredReset session frame.streamId)
      rw [Callback.body, Callback.tried, frameSent, run_bind, run_bind, run_conn]
      dsimp only
      rw [if_pos hends, run_bind, run_conn]
      dsimp only
      rw [if_pos hends]
      exact hattempt
    | false =>
      rw [Callback.body, Callback.tried, frameSent, run_bind, run_bind, run_conn]
      dsimp only
      rw [if_neg (by simp [hends]), run_bind, run_conn]
      dsimp only
      rw [if_neg (by simp [hends])]
      cases frame.payload with
      | goaway lastStreamId errorCode opaqueData =>
        dsimp only
        rw [run_attempt, run_bind, run_bind]
        rcases (rememberGoaway errorCode opaqueData).run env w with ⟨_ | _, w'⟩ <;> rfl
      | _ => rfl
  | frameNotSent frame errorCode => exact run_attempt_code env w _

end Tried

/-! ## What the operation raises -/

section Finish

variable {env : Env} {w : World} {result : Int} (d : Drive)

/-- **A deferred exception is raised as it is**, by every operation that calls
the engine. -/
theorem run_finish_deferred (hn : result < 0) {x : PyError}
    (hx : w.conn.callbackError = some x) : (d.finish result).run env w = (.error x, w.failed) := by
  have hraise := run_raiseCallbackOrNative_deferred env w hn hx
  cases d with
  | send =>
    rw [Drive.finish, run_finishSend, run_bind, hraise]
    dsimp only
    rw [World.failed_failed]
  | receive length =>
    rw [Drive.finish, finishReceive, run_bind, hraise]
  | upgrade entries =>
    rw [Drive.finish, finishUpgrade, run_bind, hraise]

/-- Without one, a fatal code is raised in translation, where there is memory
for the exception. -/
theorem run_finish_fatal (hf : isFatal result = true) (hx : w.conn.callbackError = none)
    (ha : env.alloc .exception = true) :
    (d.finish result).run env w = (.error (nghttp2Error w.host result), w.failed) := by
  have hraise := run_raiseCallbackOrNative_native env w (neg_of_isFatal hf) hx
  rw [if_pos ha, hf, if_pos rfl] at hraise
  cases d with
  | send =>
    rw [Drive.finish, run_finishSend, run_bind, hraise]
    dsimp only
    rw [World.failed_failed]
  | receive length =>
    rw [Drive.finish, finishReceive, run_bind, hraise]
  | upgrade entries =>
    rw [Drive.finish, finishUpgrade, run_bind, hraise]

end Finish

/-- **An entry is a callback that raised** an exception. -/
def Raises (e : Entry Machine Label Outcome) (x : PyError) : Prop :=
  ∃ cb env d session, e.label = .callback cb env ∧ e.before.drive = some (d, session) ∧
    ((cb.tried session).run env e.before.world).1 = .error x

/-- A callback that raised told the engine that it failed, and its exception
waits for the operation. -/
theorem Raises.deferred {e : Entry Machine Label Outcome} {x : PyError} (h : Raises e x)
    (htaken : e.before.step e.label = some (e.outcome, e.after)) :
    e.after.conn.callbackError = some x ∧ e.after.drive = e.before.drive ∧
      ∀ h', spoiled (e :: h') = true := by
  obtain ⟨cb, env, d, session, hlabel, hdrive, htried⟩ := h
  have hbody := @run_body_eq_deferring session env e.before.world cb
  rw [hlabel, Machine.step, hdrive] at htaken
  dsimp only at htaken
  rw [hbody] at htaken
  rcases hrun : (cb.tried session).run env e.before.world with ⟨res, w⟩
  rw [hrun] at htaken htried
  obtain rfl : res = .error x := htried
  obtain ⟨houtcome, hafter⟩ := Prod.mk.inj (Option.some_inj.mp htaken)
  refine ⟨by rw [← hafter], by rw [← hafter, hdrive], fun h' => ?_⟩
  rw [spoiled, ← houtcome]
  rfl

/-- **What a callback raised, the operation raises**, in the next step, and the
connection is failed. -/
theorem Runs.raised_of_raises {host : Host} {Allowed : History → Machine → Label → Prop}
    (hends : ∀ {h m l}, Allowed h m l → FailureEndsDrive h l) {h h' : History} {m : Machine}
    (hrun : Runs host Allowed h m) {e' e : Entry Machine Label Outcome}
    (hsuf : (e' :: e :: h') <:+ h) {x : PyError} (hraises : Raises e x) :
    (∃ result env, e'.label = .ret result env) ∧ e'.outcome.response = .raised x ∧
      e'.after.conn.failed = true := by
  obtain ⟨hprior, hallowed, htaken'⟩ := hrun.of_suffix hsuf
  obtain ⟨-, -, htaken⟩ := hrun.of_suffix ((List.suffix_cons _ _).trans hsuf)
  obtain ⟨hdeferred, hdrive, hspoiled⟩ := hraises.deferred htaken
  have hend := hends hallowed (hspoiled h')
  obtain ⟨cb, env, d, session, hlabel, hdriven, -⟩ := hraises
  have hbefore : e'.before = e.after := hprior.state_eq
  cases hl : e'.label with
  | request r env => rw [hl] at hend; exact hend.elim
  | callback cb env => rw [hl] at hend; exact hend.elim
  | ret result env =>
    rw [hl] at hend
    rw [hl, hbefore, Machine.step, hdrive, hdriven] at htaken'
    dsimp only at htaken'
    rw [run_finish_deferred (w := e.after.world) d (neg_of_isFatal hend) hdeferred] at htaken'
    obtain ⟨houtcome, hafter⟩ := Prod.mk.inj (Option.some_inj.mp htaken')
    exact ⟨⟨result, env, rfl⟩, by rw [← houtcome], by rw [← hafter]; rfl⟩

/-! ## The events that are left -/

/-- The events one step gave to the owner. -/
def delivered (e : Entry Machine Label Outcome) : List Event :=
  match e.label, e.outcome.response with
  | .request .takeEvents _, .returned (.events events) => events
  | _, _ => []

/-- **The events the owner has been given**, in the order given. -/
def deliveredEvents : History → List Event
  | [] => []
  | e :: h => deliveredEvents h ++ delivered e

section Events

variable {m : Machine} {l : Label} {p : Outcome × Machine}

/-- A step that is no taking of events adds what it appended. -/
theorem Stepped.events_append (h : Stepped m l p) :
    (p.2.conn.events = m.conn.events ++ emitted ⟨m, l, p.1, p.2⟩ ∧
      delivered ⟨m, l, p.1, p.2⟩ = []) ∨
    (p.2.conn.events = [] ∧ delivered ⟨m, l, p.1, p.2⟩ = m.conn.events) := by
  have hsame (heq : p.2.conn.events = m.conn.events) :
      p.2.conn.events = m.conn.events ++ emitted ⟨m, l, p.1, p.2⟩ := by
    rw [emitted, heq, List.drop_length, List.append_nil]
  have hmore {events : List Event} (heq : p.2.conn.events = m.conn.events ++ events) :
      p.2.conn.events = m.conn.events ++ emitted ⟨m, l, p.1, p.2⟩ := by
    rw [emitted_of_append heq, heq]
  cases h with
  | @request r env q idle hr =>
    have hnone (hother : ∀ env', Label.request r env = .request .takeEvents env' → ∀ events,
        (m.afterRequest q).1.response ≠ .returned (.events events)) :
        delivered ⟨m, .request r env, (m.afterRequest q).1, (m.afterRequest q).2⟩ = [] := by
      unfold delivered
      split
      · next hl hresponse => exact absurd hresponse (hother _ hl _)
      · rfl
    cases hr with
    | tookEvents => exact .inr ⟨rfl, rfl⟩
    | rejected => exact .inl ⟨hsame rfl, hnone fun _ _ _ => by simp [Machine.afterRequest]⟩
    | failed => exact .inl ⟨hsame rfl, hnone fun _ _ _ => by simp [Machine.afterRequest]⟩
    | unreported => exact .inl ⟨hsame rfl, hnone fun _ _ _ => by simp [Machine.afterRequest]⟩
    | answered quiet =>
      refine .inl ⟨hsame rfl, hnone fun _ hl _ => ?_⟩
      obtain ⟨rfl, -⟩ := Label.request.inj hl
      exact absurd quiet (by simp [Request.isQuiet])
    | _ => exact .inl ⟨hsame rfl, rfl⟩
  | callback driven hc =>
    cases hc with
    | failed spoiled =>
      rcases spoiled.events with heq | ⟨event, -, heq⟩
      · exact .inl ⟨hsame heq, rfl⟩
      · exact .inl ⟨hmore heq, rfl⟩
    | dataReceived => exact .inl ⟨hmore rfl, rfl⟩
    | goawayReceived => exact .inl ⟨hmore rfl, rfl⟩
    | frameReceived => exact .inl ⟨hmore rfl, rfl⟩
    | streamClosed => exact .inl ⟨hmore rfl, rfl⟩
    | _ => exact .inl ⟨hsame rfl, rfl⟩
  | ret driven hr =>
    cases hr with
    | receivedLast => exact .inl ⟨hmore rfl, rfl⟩
    | sentLast => exact .inl ⟨hmore rfl, rfl⟩
    | sentThenFailed => exact .inl ⟨hmore rfl, rfl⟩
    | _ => exact .inl ⟨hsame rfl, rfl⟩

/-- Nothing is published on a failed connection. -/
theorem Stepped.emitted_of_failed (h : Stepped m l p)
    (hlive : m.drive ≠ none → m.conn.failed = false) (hf : m.conn.failed = true) :
    emitted ⟨m, l, p.1, p.2⟩ = [] := by
  have hidle : m.drive = none := by
    by_contra hne
    exact absurd (hlive hne) (by simp [hf])
  have hemits := h.emits
  cases h with
  | request idle hr =>
    generalize emitted ⟨m, _, _, _⟩ = events at hemits
    cases hemits with
    | nothing => rfl
  | callback driven => exact absurd driven (by simp [hidle])
  | ret driven => exact absurd driven (by simp [hidle])

variable {host : Host} {Allowed : History → Machine → Label → Prop} {h : History}

/-- **Every event is given to the owner once, in order**: what was given,
followed by what waits, is what was published. -/
theorem Runs.deliveredEvents_append (hrun : Runs host Allowed h m) :
    deliveredEvents h ++ m.conn.events = eventsOf h := by
  refine Run.invariant (I := fun h m => deliveredEvents h ++ m.conn.events = eventsOf h) rfl ?_
    hrun
  intro h m l o m' _ ih _ htaken
  have hstep := Machine.stepped htaken
  rw [deliveredEvents, eventsOf, ← ih]
  rcases hstep.events_append with ⟨hevents, hdelivered⟩ | ⟨hevents, hdelivered⟩
  · rw [hdelivered, List.append_nil, List.append_assoc]
    exact congrArg _ hevents
  · have hemitted : emitted ⟨m, l, o, m'⟩ = [] := by
      rw [emitted, show m'.conn.events = [] from hevents, List.drop_nil]
    rw [hdelivered, hemitted, show m'.conn.events = [] from hevents]

end Events

/-! ## The theorem -/

/-- **The failures of a run are reported, and final.** -/
structure FailureIsFinal (host : Host) (h : History) (m : Machine) : Prop where
  /-- The step after a callback that raised is the return of the engine function
  on the stack: its operation raises that exception and fails the connection. -/
  reraised : ∀ e' e h', (e' :: e :: h') <:+ h → ∀ x, Raises e x →
    (∃ result env, e'.label = .ret result env) ∧ e'.outcome.response = .raised x ∧
      e'.after.conn.failed = true
  /-- Where no callback failed, no exception of an earlier call is waiting, and
  a fatal code is raised in translation and fails the connection. -/
  translated : ∀ e h', (e :: h') <:+ h → spoiled h' = false →
    e.before.conn.callbackError = none ∧
    ∀ result env, e.label = .ret result env → isFatal result = true →
      e.outcome.response = .raised (nghttp2Error host result) ∧ e.after.conn.failed = true
  /-- No exception waits between two calls. -/
  cleared : m.drive = none → m.conn.callbackError = none
  /-- A failed connection stays failed, without a session, with nothing queued
  and nothing recorded. -/
  void : ∀ e ∈ h, e.after.conn.failed = true →
    m.conn.failed = true ∧ m.conn.session = none ∧ m.conn.discardPendingState = m.conn ∧
      ∀ s env, ((Request.queuedBodySize s).body.run env m.world).1 = .ok (.value (.number 0))
  /-- It publishes nothing. -/
  silent : ∀ e ∈ h, e.before.conn.failed = true → emitted e = []
  /-- What was published is given to the owner exactly once, in order, whatever
  fails. -/
  delivered : deliveredEvents h ++ m.conn.events = eventsOf h

/-- A callback that failed ends its drive, and the exception of a fatal return
finds memory. -/
def ReportsFailures (h : History) (m : Machine) (l : Label) : Prop :=
  EndsOnFailure h m l ∧ m.FatalReported l

instance (h : History) (m : Machine) (l : Label) : Decidable (ReportsFailures h m l) :=
  inferInstanceAs (Decidable (_ ∧ _))

/-- **Failures are reported, and final**, along every run whose fatal returns
find memory for their exception. -/
theorem failure_is_final {host : Host} {h : History} {m : Machine}
    (hrun : Runs host ReportsFailures h m) : FailureIsFinal host h m := by
  have hends : ∀ {h m l}, ReportsFailures h m l → FailureEndsDrive h l := fun ha => ha.1
  constructor
  case reraised => exact fun e' e h' hsuf x hraises => Runs.raised_of_raises hends hrun hsuf hraises
  case translated =>
    intro e h' hsuf hclean
    obtain ⟨hprior, hallowed, htaken⟩ := hrun.of_suffix hsuf
    have hnone : e.before.conn.callbackError = none := by
      by_contra hne
      exact absurd (Runs.deferred hends hprior hne).2 (by simp [hclean])
    refine ⟨hnone, fun result env hlabel hfatal => ?_⟩
    have hmemory : env.alloc .exception = true := by
      have hreported := hallowed.2
      rw [hlabel] at hreported
      exact hreported hnone hfatal
    rw [hlabel, Machine.step] at htaken
    split at htaken
    · exact absurd htaken (by simp)
    · next d session _ =>
      rw [run_finish_fatal (w := e.before.world) d hfatal hnone hmemory] at htaken
      obtain ⟨houtcome, hafter⟩ := Prod.mk.inj (Option.some_inj.mp htaken)
      rw [← houtcome, ← hafter]
      refine ⟨?_, rfl⟩
      rw [← Runs.host_eq hprior]
      rfl
  case cleared =>
    intro hidle
    by_contra hne
    exact (Runs.deferred hends hrun hne).1 hidle
  case void =>
    intro e he hfailed
    have hf : m.conn.failed = true := Runs.failed_of_mem hrun he hfailed
    have hvoid := Runs.void hrun hf
    refine ⟨hf, hvoid.session, hvoid.empty, fun s env => ?_⟩
    rw [show m.world = ⟨m.host, m.conn, []⟩ from rfl, ← hvoid.empty]
    cases s with
    | none => rfl
    | some s => rfl
  case silent =>
    intro e he hfailed
    obtain ⟨h', -, hprior, -, htaken⟩ := hrun.of_mem he
    exact (Machine.stepped htaken).emitted_of_failed (Runs.live hprior) hfailed
  case delivered => exact Runs.deliveredEvents_append hrun

/-- A server that runs out of memory inside a callback, after one event. -/
def exhaustedCallback : List Label := [
  .request (.init .server {}) (.accepting []),
  .request (.initiateConnection []) (.accepting []),
  .request (.receiveData [0]) (.accepting []),
  .callback (.frameReceived { streamId := 0, payload := .settings [] }) (.accepting []),
  .callback (.frameReceived { streamId := 1, payload := .rstStream 8 })
    { Env.accepting [] with alloc := fun _ => false },
  .ret errCallbackFailure (.accepting [])]

set_option maxRecDepth 4000 in
theorem failure_is_final_exhaustedCallback :
    ∃ c, Run.execute Machine.step ReportsFailures ([], Machine.fresh {}) exhaustedCallback
        = some c ∧
      c.1.head?.map (fun e => e.outcome.response) = some (.raised (.memoryError "")) ∧
      c.2.conn.discardPendingState = c.2.conn ∧
      deliveredEvents c.1 ++ c.2.conn.events = [.settingsReceived []] := by
  obtain ⟨c, hc, hresponse, hfailed, hevents⟩ : ∃ c, Run.execute Machine.step ReportsFailures
      ([], Machine.fresh {}) exhaustedCallback = some c ∧
      c.1.head?.map (fun e => e.outcome.response) = some (.raised (.memoryError "")) ∧
      (∃ e ∈ c.1, e.after.conn.failed = true) ∧ eventsOf c.1 = [.settingsReceived []] :=
    ⟨_, rfl, rfl, ⟨_, List.mem_cons_self, rfl⟩, rfl⟩
  have hfinal := failure_is_final (Run.of_execute .start hc)
  obtain ⟨e, he, hf⟩ := hfailed
  exact ⟨c, hc, hresponse, (hfinal.void e he hf).2.2.1, hfinal.delivered.trans hevents⟩

/-- A server whose engine runs out of memory, and that has none left for the
exception. -/
def unreportedFailure : List Label := [
  .request (.init .server {}) (.accepting []),
  .request (.initiateConnection []) (.accepting []),
  .request (.receiveData [1]) (.accepting []),
  .ret errNomem { Env.accepting [] with alloc := fun a => decide (a ≠ .exception) }]

set_option maxRecDepth 4000 in
/-- **A fatal code may leave the connection alive.** -/
theorem failure_is_final_unreportedFailure :
    ∃ c, Run.execute Machine.step EndsOnFailure ([], Machine.fresh {}) unreportedFailure
        = some c ∧ ¬ FailureIsFinal {} c.1 c.2 := by
  obtain ⟨e, h', m, hc, hclean, env, hlabel, halive⟩ : ∃ e h' m, Run.execute Machine.step
      EndsOnFailure ([], Machine.fresh {}) unreportedFailure = some (e :: h', m) ∧
      spoiled h' = false ∧ ∃ env, e.label = .ret errNomem env ∧ e.after.conn.failed = false :=
    ⟨_, _, _, rfl, rfl, _, rfl, rfl⟩
  refine ⟨_, hc, fun hfinal => ?_⟩
  have hfailed := ((hfinal.translated e h' List.suffix_rfl hclean).2 _ env hlabel rfl).2
  exact absurd (hfailed.symm.trans halive) (by decide)

end Ngh2
