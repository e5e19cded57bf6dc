import Ngh2.Events
import Ngh2.Quiescence
import Ngh2.Staging

/-!
# The end of a connection is announced

`ConnectionClosed` is the last event of a connection that ends in good order:
a GOAWAY was exchanged, or the connection was terminated, and the engine wants
neither to read nor to write. Two calls look for this when they come back from
the engine, and the first one that finds it publishes the event.

The fields the announcement is made of say what the run says of itself:
`closing` that it may end, `closeErrorCode` and `closeDebugData` what the newest
GOAWAY gave as reason, `closed` that it was announced. Afterwards the connection
is spent (`Connection.Ended`): every operation that could create work raises,
and the output of the engine is driven to nothing.

The announcement is two things, the flags and the event, and an allocation may
fail between them or right behind them. `data_to_send` treats that as a failure
of the connection, `receive_data` does not. `Machine.Affords` leaves these steps
out, and `connectionClosed_once_starved` is what happens in one of them.
-/

namespace Ngh2

open Nghttp2 Effect

/-! ## What a run says of its end -/

/-- The reason a GOAWAY frame gives: its error code and its debug data. -/
def Frame.reason (frame : Frame) : Option (Nat × Bytes) :=
  match frame.payload with
  | .goaway _ errorCode opaqueData => some (errorCode, opaqueData)
  | _ => none

/-- The reason of the GOAWAY a label reports, in either direction. -/
def Label.reason : Label → Option (Nat × Bytes)
  | .callback (.frameReceived frame) _ => frame.reason
  | .callback (.frameSent frame) _ => frame.reason
  | _ => none

/-- Whether a label reports that a GOAWAY was sent. -/
def Label.sendsGoaway : Label → Bool
  | .callback (.frameSent frame) _ => frame.reason.isSome
  | _ => false

/-- **The reason of the newest GOAWAY**, sent or received. -/
def lastReason (h : History) : Option (Nat × Bytes) := h.findSome? fun e => e.label.reason

/-- Whether a GOAWAY was sent. -/
def goawaySent (h : History) : Bool := h.any fun e => e.label.sendsGoaway

/-- **The connection may end**: a GOAWAY was sent or received, or
`terminate_connection` was accepted. -/
def mayEnd (h : History) : Bool := (lastReason h).isSome || terminationRequested h

/-- Whether an event is the announcement of the end. -/
def Event.isEnd : Event → Bool
  | .connectionClosed _ _ => true
  | _ => false

/-- Whether the end was announced. -/
def endAnnounced (h : History) : Bool := (eventsOf h).any Event.isEnd

/-- Whether an entry is the normal completion of `receive_data`, or of a
`data_to_send` that drove the engine. -/
def Entry.completes (e : Entry Machine Label Outcome) : Bool :=
  match e.before.drive, e.outcome.response with
  | some (.send, _), .returned _ => !e.label.isCallback
  | some (.receive _, _), .returned _ => !e.label.isCallback
  | _, _ => false

/-- Whether `terminate_connection` was accepted in a step. -/
def Entry.terminates (e : Entry Machine Label Outcome) : Bool :=
  match e.label, e.outcome.response with
  | .request (.terminateConnection _ _) _, .returned _ => true
  | _, _ => false

theorem terminationRequested_cons_eq {e : Entry Machine Label Outcome} {h : History} :
    terminationRequested (e :: h) = (Entry.terminates e || terminationRequested h) := rfl

theorem lastReason_cons {e : Entry Machine Label Outcome} {h : History} :
    lastReason (e :: h) = e.label.reason.or (lastReason h) := by
  rw [lastReason, List.findSome?_cons]
  cases e.label.reason <;> rfl

theorem endAnnounced_cons {e : Entry Machine Label Outcome} {h : History} :
    endAnnounced (e :: h) = (endAnnounced h || (emitted e).any Event.isEnd) :=
  List.any_append

/-- A GOAWAY that was sent was reported. -/
theorem goawaySent_of_lastReason {h : History} (hnone : lastReason h = none) :
    goawaySent h = false := by
  rw [lastReason, List.findSome?_eq_none_iff] at hnone
  refine List.any_eq_false.mpr fun e he hsent => ?_
  have hreason := hnone e he
  unfold Label.sendsGoaway at hsent
  split at hsent
  · next frame env heq =>
    rw [heq] at hreason
    simp [show frame.reason = none from hreason] at hsent
  · exact absurd hsent (by simp)

/-! ## What is assumed of the engine -/

/-- What the engine function returns, where it does. -/
def Label.result : Label → Option Int
  | .ret result _ => some result
  | _ => none

/-- **An engine at rest drives to nothing**: `nghttp2_session_send` returns
zero. -/
def SendsNothing (h : History) (m : Machine) (l : Label) : Prop :=
  m.sending = true → resting h = true → ∀ result ∈ l.result, result = 0

instance (h : History) (m : Machine) (l : Label) : Decidable (SendsNothing h m l) :=
  inferInstanceAs (Decidable (_ → _ → ∀ result ∈ l.result, result = 0))

/-- **A terminated engine wants to write** until a GOAWAY was sent. -/
def WritesGoaway (h : History) (l : Label) : Prop :=
  terminationRequested h = true → goawaySent h = false → l.env.reply .sessionWantWrite ≠ 0

instance (h : History) (l : Label) : Decidable (WritesGoaway h l) :=
  inferInstanceAs (Decidable (_ → _ → _ ≠ _))

/-- **What the announcement rests on.** -/
structure ComesToRest (h : History) (m : Machine) (l : Label) : Prop where
  /-- A callback that failed ends its drive. -/
  ends : FailureEndsDrive h l
  /-- An engine at rest makes no callback. -/
  rests : RestsQuietly h m l
  /-- It has nothing to send. -/
  sends : SendsNothing h m l
  /-- A terminated engine does not rest before its GOAWAY was sent. -/
  writes : WritesGoaway h l

theorem comesToRest_iff {h : History} {m : Machine} {l : Label} :
    ComesToRest h m l ↔
      FailureEndsDrive h l ∧ RestsQuietly h m l ∧ SendsNothing h m l ∧ WritesGoaway h l :=
  ⟨fun ha => ⟨ha.ends, ha.rests, ha.sends, ha.writes⟩,
    fun ha => ⟨ha.1, ha.2.1, ha.2.2.1, ha.2.2.2⟩⟩

instance (h : History) (m : Machine) (l : Label) : Decidable (ComesToRest h m l) :=
  decidable_of_iff _ comesToRest_iff.symm

/-- The input `receive_data` gave the engine, while it is inside. -/
def Machine.inputLength (m : Machine) : Option Nat :=
  match m.drive with
  | some (.receive length, _) => some length
  | _ => none

/-- **The announcement can be afforded**: where `receive_data` finds the
protocol finished the event can be created, and where `data_to_send` does and
the event was created its output can be trimmed. -/
def Machine.Affords (m : Machine) (l : Label) : Prop :=
  (∀ length ∈ m.inputLength, l.result = some (length : Int) → m.conn.Finished l.env →
    l.env.alloc .object = true) ∧
  (m.sending = true → ∀ result ∈ l.result, 0 ≤ result → m.conn.Finished l.env →
    l.env.alloc .object = true → m.conn.output ≠ none →
      l.env.alloc (.trim m.conn.outputSize) = true)

instance (m : Machine) (l : Label) : Decidable (m.Affords l) :=
  inferInstanceAs (Decidable ((∀ length ∈ m.inputLength, _ → _ → _) ∧
    (_ → ∀ result ∈ l.result, 0 ≤ result → _ → _ → _ → _)))

/-- The event of `receive_data` can be created. -/
theorem Machine.Affords.event {m : Machine} {env : Env} {length : Nat}
    {session : Option SessionId} (h : m.Affords (.ret length env))
    (driven : m.drive = some (.receive length, session)) (finished : m.conn.Finished env) :
    env.alloc .object = true :=
  h.1 length (by rw [Machine.inputLength, driven]; rfl) rfl finished

/-- The output of `data_to_send` can be trimmed. -/
theorem Machine.Affords.trim {m : Machine} {result : Int} {env : Env}
    {session : Option SessionId} (h : m.Affords (.ret result env))
    (driven : m.drive = some (.send, session)) (nonnegative : 0 ≤ result)
    (finished : m.conn.Finished env) (created : env.alloc .object = true)
    (staging : m.conn.output ≠ none) : env.alloc (.trim m.conn.outputSize) = true :=
  h.2 (by rw [Machine.sending, driven]) result rfl nonnegative finished created staging

/-! ## The fields of the announcement -/

section Fields

variable {m : Machine} {l : Label} {p : Outcome × Machine}

/-- A frame gives no reason unless it is a GOAWAY. -/
theorem Frame.reason_eq_none {frame : Frame} (h : ∀ s e d, frame.payload ≠ .goaway s e d) :
    frame.reason = none := by
  unfold Frame.reason
  split
  · next heq => exact absurd heq (h _ _ _)
  · rfl

/-- A frame that ends a stream is no GOAWAY. -/
theorem Frame.reason_of_endsStream {c : Connection} {frame : Frame}
    (h : endsStream c frame = true) : frame.reason = none := by
  refine Frame.reason_eq_none fun s e d heq => ?_
  simp [endsStream, Frame.isDataOrHeaders, heq] at h

/-- A frame that only announces something is no GOAWAY. -/
theorem Frame.reason_of_isPlain {frame : Frame} (h : frame.isPlain = true) :
    frame.reason = none := by
  refine Frame.reason_eq_none fun s e d heq => ?_
  simp [Frame.isPlain, heq] at h

/-- What a callback leaves of the reason and of the wish to close. -/
theorem Called.closing {host : Host} {env : Env} {session : Option SessionId} {c : Connection}
    {cb : Callback} {q : Reply × World} (h : Called host env session c cb q)
    (hclean : q.2.conn.callbackError = none) (l : Label) (hl : l = .callback cb env) :
    (q.2.conn.closeErrorCode, q.2.conn.closeDebugData)
        = l.reason.getD (c.closeErrorCode, c.closeDebugData) ∧
      q.2.conn.closing = (l.reason.isSome || c.closing) := by
  subst hl
  cases h with
  | failed spoiled deferred => exact absurd (deferred.symm.trans hclean) (by simp)
  | goawayReceived kind => simp [Label.reason, Frame.reason, kind]
  | goawaySent kind => simp [Label.reason, Frame.reason, kind]
  | dataReceived kind =>
    rw [Label.reason, Frame.reason, kind]
    exact ⟨rfl, rfl⟩
  | frameReceived kind =>
    rw [Label.reason, Frame.reason_of_isPlain kind]
    exact ⟨rfl, rfl⟩
  | frameIgnored kind =>
    rw [Label.reason, Frame.reason, kind]
    exact ⟨rfl, rfl⟩
  | sentQuietly quiet kind =>
    rw [Label.reason, Frame.reason_eq_none kind]
    exact ⟨rfl, rfl⟩
  | streamEnded ends =>
    rw [Label.reason, Frame.reason_of_endsStream ends]
    exact ⟨rfl, rfl⟩
  | headerBlock kind =>
    obtain ⟨rfl, -⟩ | ⟨rfl, -⟩ | ⟨name, value, noIndex, rfl, -⟩ := kind <;> exact ⟨rfl, rfl⟩
  | _ => exact ⟨rfl, rfl⟩

/-- A return that raised nothing wrong leaves both. -/
theorem Returned.closing {host : Host} {env : Env} {c : Connection} {d : Drive} {result : Int}
    {q : Except PyError Value × World} (h : Returned host env c d result q)
    (hlive : q.2.conn.failed = false) :
    (q.2.conn.closeErrorCode, q.2.conn.closeDebugData) = (c.closeErrorCode, c.closeDebugData) ∧
      q.2.conn.closing = c.closing := by
  cases h with
  | failed => exact absurd hlive (by simp [World.failed, Connection.invalidate])
  | sentThenFailed => exact absurd hlive (by simp [World.failed, Connection.invalidate])
  | _ => exact ⟨rfl, rfl⟩

/-- A termination was accepted by an operation of that name. -/
theorem Entry.of_terminates {e : Entry Machine Label Outcome} (h : Entry.terminates e = true) :
    ∃ errorCode lastStreamId env v,
      e.label = .request (.terminateConnection errorCode lastStreamId) env ∧
        e.outcome.response = .returned v := by
  unfold Entry.terminates at h
  split at h
  · next hlabel hresponse => exact ⟨_, _, _, _, hlabel, hresponse⟩
  · exact absurd h (by simp)

/-- What was raised accepted nothing. -/
theorem Entry.terminates_of_raised {e : Entry Machine Label Outcome} {x : PyError}
    (h : e.outcome.response = .raised x) : Entry.terminates e = false := by
  refine Bool.eq_false_iff.mpr fun ht => ?_
  obtain ⟨_, _, _, _, -, hresponse⟩ := Entry.of_terminates ht
  exact absurd (hresponse.symm.trans h) (by simp)

/-- **A step remembers the GOAWAY it reports** and a termination it accepts,
and keeps what it found otherwise. -/
theorem Stepped.closing (h : Stepped m l p) (hsound : p.2.conn.Sound) :
    (p.2.conn.closeErrorCode, p.2.conn.closeDebugData)
        = l.reason.getD (m.conn.closeErrorCode, m.conn.closeDebugData) ∧
      p.2.conn.closing
        = (l.reason.isSome || (Entry.terminates ⟨m, l, p.1, p.2⟩ || m.conn.closing)) := by
  cases h with
  | @request r env q idle hr =>
    rw [Machine.afterRequest_conn] at hsound ⊢
    have hkept (hsame : (q.2.conn.closeErrorCode, q.2.conn.closeDebugData)
          = (m.conn.closeErrorCode, m.conn.closeDebugData) ∧ q.2.conn.closing = m.conn.closing)
        (hno : Entry.terminates ⟨m, .request r env, (m.afterRequest q).1,
          (m.afterRequest q).2⟩ = false) :
        (q.2.conn.closeErrorCode, q.2.conn.closeDebugData)
            = (m.conn.closeErrorCode, m.conn.closeDebugData) ∧
          q.2.conn.closing = (false || (Entry.terminates ⟨m, .request r env,
            (m.afterRequest q).1, (m.afterRequest q).2⟩ || m.conn.closing)) :=
      ⟨hsame.1, by rw [hno, hsame.2, Bool.false_or, Bool.false_or]⟩
    cases hr with
    | failed => exact absurd hsound.1 (by simp [World.failed, Connection.invalidate])
    | terminated => exact ⟨rfl, rfl⟩
    | rejected => exact hkept ⟨rfl, rfl⟩ (Entry.terminates_of_raised rfl)
    | unreported => exact hkept ⟨rfl, rfl⟩ (Entry.terminates_of_raised rfl)
    | answered quiet =>
      refine hkept ⟨rfl, rfl⟩ (Bool.eq_false_iff.mpr fun ht => ?_)
      obtain ⟨_, _, _, _, hlabel, -⟩ := Entry.of_terminates ht
      obtain ⟨rfl, -⟩ := Label.request.inj hlabel
      simp [Request.isQuiet] at quiet
    | _ => exact hkept ⟨rfl, rfl⟩ rfl
  | callback driven hc =>
    rw [Machine.afterCallback_conn] at hsound ⊢
    exact hc.closing hsound.2 _ rfl
  | ret driven hr =>
    rw [Machine.afterReturn_conn] at hsound ⊢
    exact hr.closing hsound.1

/-- An accepted termination, or a GOAWAY, is all that lets a connection end. -/
theorem mayEnd_cons {e : Entry Machine Label Outcome} {h : History} :
    mayEnd (e :: h) = (e.label.reason.isSome || (Entry.terminates e || mayEnd h)) := by
  rw [mayEnd, mayEnd, lastReason_cons, terminationRequested_cons_eq]
  cases e.label.reason <;> cases (lastReason h) <;> cases Entry.terminates e <;> simp

/-- Only a return announces the end. -/
theorem Stepped.not_end (h : Stepped m l p) (hl : ∀ result env, l ≠ .ret result env) :
    (emitted ⟨m, l, p.1, p.2⟩).any Event.isEnd = false := by
  refine List.any_eq_false.mpr fun event hmem hend => ?_
  cases event with
  | connectionClosed errorCode debugData =>
    obtain ⟨result, env, rfl, -⟩ := h.emits.of_connectionClosed hmem
    exact hl _ _ rfl
  | _ => exact absurd hend (by simp [Event.isEnd])

/-- **A step that can afford the announcement closes the connection and
announces it**, or does neither. -/
theorem Stepped.closed (h : Stepped m l p) (haffords : m.Affords l) (hsound : p.2.conn.Sound) :
    p.2.conn.closed = (m.conn.closed || (emitted ⟨m, l, p.1, p.2⟩).any Event.isEnd) := by
  cases h with
  | request idle hr =>
    rw [Stepped.not_end (.request idle hr) (by simp), Bool.or_false]
    rw [Machine.afterRequest_conn] at hsound ⊢
    cases hr with
    | failed => exact absurd hsound.1 (by simp [World.failed, Connection.invalidate])
    | _ => rfl
  | callback driven hc =>
    rw [Stepped.not_end (.callback driven hc) (by simp), Bool.or_false]
    rw [Machine.afterCallback_conn] at hsound ⊢
    cases hc with
    | failed spoiled => exact spoiled.closed
    | _ => rfl
  | @ret result env d session q driven hr =>
    have hsilent (heq : q.2.conn.events = m.conn.events) :
        emitted ⟨m, .ret result env, (m.afterReturn q).1, (m.afterReturn q).2⟩ = [] := by
      rw [emitted, Machine.afterReturn_conn, heq, List.drop_length]
    have hspoken {event : Event} (heq : q.2.conn.events = m.conn.events ++ [event]) :
        emitted ⟨m, .ret result env, (m.afterReturn q).1, (m.afterReturn q).2⟩ = [event] :=
      emitted_of_append ((congrArg Connection.events (Machine.afterReturn_conn _ _)).trans heq)
    rw [Machine.afterReturn_conn] at hsound ⊢
    cases hr with
    | failed => exact absurd hsound.1 (by simp [World.failed, Connection.invalidate])
    | sentThenFailed => exact absurd hsound.1 (by simp [World.failed, Connection.invalidate])
    | receivedUnannounced finished exhausted =>
      exact absurd (haffords.event driven finished) (by simp [exhausted])
    | receivedLast =>
      rw [hspoken rfl]
      exact (Bool.or_true _).symm
    | sentLast =>
      rw [hspoken rfl]
      exact (Bool.or_true _).symm
    | _ =>
      rw [hsilent rfl]
      exact (Bool.or_false _).symm

/-- **A return that announces the end.** -/
structure Announcing (m : Machine) (result : Int) (env : Env) (p : Outcome × Machine) : Prop where
  nonnegative : 0 ≤ result
  finished : m.conn.Finished env
  completes : Entry.completes ⟨m, .ret result env, p.1, p.2⟩ = true
  emits : emitted ⟨m, .ret result env, p.1, p.2⟩
    = [.connectionClosed m.conn.closeErrorCode m.conn.closeDebugData]
  /-- The output is taken where there can be some. -/
  conn : m.sending = false ∧ p.2.conn = m.conn.announced ∨ p.2.conn = m.conn.announced.outputTaken
  out : p.2.drive = none
  calls : p.1.issued.any (Issued.stirs env) = false

/-- **A return that completes and finds the protocol finished announces the
end.** -/
theorem Stepped.announcing_of_finished {result : Int} {env : Env}
    (h : Stepped m (.ret result env) p)
    (hcompletes : Entry.completes ⟨m, .ret result env, p.1, p.2⟩ = true)
    (hfinished : m.conn.Finished env) : Announcing m result env p := by
  have hcompleted := hcompletes
  cases h with
  | @ret result env d session q driven hr =>
    have hraised {e : PyError} (hresponse : (m.afterReturn q).1.response = .raised e) : False := by
      rw [Entry.completes, driven, hresponse] at hcompleted
      cases d <;> exact absurd hcompleted (by simp)
    have hsending (hd : d ≠ .send) : m.sending = false := by
      rw [Machine.sending, driven]
      cases d with
      | send => exact absurd rfl hd
      | _ => rfl
    cases hr with
    | failed => exact (hraised rfl).elim
    | rejected => exact (hraised rfl).elim
    | upgraded =>
      rw [Entry.completes, driven] at hcompleted
      exact absurd hcompleted (by simp)
    | received going => exact absurd hfinished going
    | sent nonnegative going => exact absurd hfinished going
    | receivedUnannounced => exact (hraised rfl).elim
    | sentThenFailed => exact (hraised rfl).elim
    | receivedLast finished calls =>
      exact ⟨by omega, finished, hcompletes, emitted_of_append rfl,
        .inl ⟨hsending (by simp), rfl⟩, rfl, calls.not_stirs⟩
    | sentLast nonnegative finished calls =>
      exact ⟨nonnegative, finished, hcompletes, emitted_of_append rfl, .inr rfl, rfl,
        calls.not_stirs⟩

/-- What completes is the return of a drive that raised nothing. -/
theorem Stepped.of_completes (h : Stepped m l p)
    (hcompletes : Entry.completes ⟨m, l, p.1, p.2⟩ = true) :
    ∃ result env d session, l = .ret result env ∧ m.drive = some (d, session) ∧
      (∀ entries, d ≠ .upgrade entries) ∧ 0 ≤ result := by
  cases h with
  | request idle =>
    rw [Entry.completes, idle] at hcompletes
    exact absurd hcompletes (by simp)
  | @callback cb env d session q driven hc =>
    rw [Entry.completes, driven] at hcompletes
    cases d <;> exact absurd hcompletes (by simp [Machine.afterCallback])
  | @ret result env d session q driven hr =>
    rw [Entry.completes, driven] at hcompletes
    refine ⟨result, env, d, session, rfl, driven, ?_, ?_⟩
    · rintro entries rfl
      exact absurd hcompletes (by simp)
    · have hraised {e : PyError} (hresponse : (m.afterReturn q).1.response = .raised e) :
          False := by
        rw [hresponse] at hcompletes
        cases d <;> exact absurd hcompletes (by simp)
      cases hr with
      | failed => exact (hraised rfl).elim
      | rejected => exact (hraised rfl).elim
      | receivedUnannounced => exact (hraised rfl).elim
      | sentThenFailed => exact (hraised rfl).elim
      | upgraded nonnegative => exact nonnegative
      | received => exact Int.natCast_nonneg _
      | receivedLast => exact Int.natCast_nonneg _
      | sent nonnegative => exact nonnegative
      | sentLast nonnegative => exact nonnegative

/-- **The end is announced by such a return, and by nothing else.** -/
theorem Stepped.announcing (h : Stepped m l p) (haffords : m.Affords l)
    (hend : (emitted ⟨m, l, p.1, p.2⟩).any Event.isEnd = true) :
    ∃ result env, l = .ret result env ∧ Announcing m result env p := by
  cases l with
  | request r env => exact absurd hend (by simp [h.not_end])
  | callback cb env => exact absurd hend (by simp [h.not_end])
  | ret result env =>
    refine ⟨result, env, rfl, ?_⟩
    obtain ⟨event, hmem, hisEnd⟩ := List.any_eq_true.mp hend
    have hfinished : m.conn.Finished env := by
      cases event with
      | connectionClosed errorCode debugData =>
        obtain ⟨_, _, hlabel, hfinished⟩ := h.emits.of_connectionClosed hmem
        obtain ⟨-, rfl⟩ := Label.ret.inj hlabel
        exact hfinished
      | _ => exact absurd hisEnd (by simp [Event.isEnd])
    refine h.announcing_of_finished ?_ hfinished
    have hnothing (heq : p.2.conn.events = m.conn.events) : False := by
      rw [emitted, heq, List.drop_length] at hmem
      exact absurd hmem List.not_mem_nil
    cases h with
    | @ret result env d session q driven hr =>
      rw [Machine.afterReturn_conn] at hnothing
      cases hr with
      | receivedLast => simp [Entry.completes, driven, Machine.afterReturn, Label.isCallback]
      | sentLast => simp [Entry.completes, driven, Machine.afterReturn, Label.isCallback]
      | sentThenFailed nonnegative finished staging exhausted calls created =>
        exact absurd (haffords.trim driven nonnegative finished created staging)
          (by simp [exhausted])
      | received going => exact absurd hfinished going
      | sent nonnegative going => exact absurd hfinished going
      | _ => exact (hnothing rfl).elim

end Fields

/-! ## A spent connection -/

/-- **A spent connection**: its end was announced and nothing has failed. -/
structure Connection.Ended (c : Connection) : Prop where
  sound : c.Sound
  initialized : c.initialized = true
  active : c.active = true
  terminating : c.terminating = true
  closed : c.closed = true
  output : c.output = none

/-- The operations that could create work: those that need an active
connection, and those that make one. -/
def Request.createsWork (r : Request) : Bool :=
  match r with
  | .init _ _ => true
  | .initiateConnection _ => true
  | .initiateUpgrade _ _ _ => true
  | r => r.needsActive

theorem Request.createsWork_of_needsActive {r : Request} (h : r.needsActive = true) :
    r.createsWork = true := by
  cases r <;> first | rfl | exact h

/-- **What calling an operation does on a spent connection.** -/
inductive Spent (c : Connection) : Request → Except PyError Started × World → Prop
  /-- It is refused. -/
  | refused {r : Request} {e : PyError} {w : World} (works : r.createsWork = true)
      (conn : w.conn = c) (issued : w.issued = []) (state : e.isConnectionStateError = true) :
      Spent c r (.error e, w)
  /-- It is a question, and changes nothing. -/
  | answered {r : Request} {v : Value} {w : World} (idle : r.createsWork = false)
      (conn : w.conn = c)
      (questions : Wanting c w.issued)
      (closed : r = .canSendRequest → v = .bool false)
      (nothing : ∀ amount, r = .dataToSend amount → v = .bytes []) :
      Spent c r (.ok (.value v), w)
  /-- The events are taken. -/
  | tookEvents {w : World} (conn : w.conn = { c with events := [] }) (issued : w.issued = []) :
      Spent c .takeEvents (.ok (.value (.events c.events)), w)
  /-- The output is driven. -/
  | sending {amount : Option Nat} {w : World} (positive : amount ≠ some 0)
      (conn : w.conn = { c with
        outputSize := 0
        outputRemaining := (amount.map Int.ofNat).getD (-1)
        callbackError := none })
      (issued : w.issued = [.call c.session .sessionSend]) :
      Spent c (.dataToSend amount) (.ok (.enter .send), w)

theorem Connection.Ended.not_usable {c : Connection} (hc : c.Ended) : ¬ c.Usable :=
  fun hu => hu.not_over (.inl hc.terminating)

/-- A spent connection does each of these things, and no other. -/
theorem spent_of_ended {host : Host} {c : Connection} (hc : c.Ended) (env : Env)
    (r : Request) : Spent c r (r.body.run env ⟨host, c, []⟩) := by
  cases hneeds : r.needsActive with
  | true =>
    rw [run_of_not_usable hneeds hc.not_usable]
    exact .refused (Request.createsWork_of_needsActive hneeds) rfl rfl
      c.stateError_isConnectionStateError
  | false =>
    have hasked (q : EngineCall) (hq : q.isQuery = true) : Wanting c [.call c.session q] := by
      intro i hi
      exact ⟨q, List.mem_singleton.mp hi, hq⟩
    cases r with
    | init role config =>
      have hrun : (init role config).run env ⟨host, c, []⟩
          = (.error (.ngh2 .connectionState "Connection is already initialized"),
            ⟨host, c, []⟩) := by
        simp [init, requireUninitialized, hc.initialized]
      exact hrun ▸ .refused rfl rfl rfl rfl
    | initiateConnection entries =>
      have hrun : (initiateConnection entries).run env ⟨host, c, []⟩
          = (.error (.ngh2 .connectionState "Connection is already initiated"), ⟨host, c, []⟩) := by
        simp [initiateConnection, requireCreated, hc.initialized, hc.sound.1, hc.active]
      exact hrun ▸ .refused rfl rfl rfl rfl
    | initiateUpgrade payload entries headRequest =>
      have hrun : (initiateUpgrade payload entries headRequest).run env ⟨host, c, []⟩
          = (.error (.ngh2 .connectionState "Connection is already initiated"), ⟨host, c, []⟩) := by
        simp [initiateUpgrade, requireCreated, hc.initialized, hc.sound.1, hc.active]
      exact hrun ▸ .refused rfl rfl rfl rfl
    | takeEvents => exact .tookEvents rfl rfl
    | dataToSend amount =>
      by_cases hlimit : amount = some 0
      · have hrun : (dataToSend amount).run env ⟨host, c, []⟩
            = (.ok (.value (.bytes [])), ⟨host, c, []⟩) := by
          simp [dataToSend, hlimit, hc.sound.1]
        refine hrun ▸ .answered rfl rfl (.nil c) (by simp) fun _ _ => rfl
      · have hrun : (dataToSend amount).run env ⟨host, c, []⟩
            = (.ok (.enter .send), ⟨host, { c with
                outputSize := 0
                outputRemaining := (amount.map Int.ofNat).getD (-1)
                callbackError := none }, [.call c.session .sessionSend]⟩) := by
          cases amount with
          | none => simp [dataToSend, hc.sound.1, hc.active]
          | some n =>
            have hn : n ≠ 0 := fun h => hlimit (congrArg some h)
            simp [dataToSend, hc.sound.1, hc.active, hn]
        exact hrun ▸ .sending hlimit rfl rfl
    | wantRead =>
      have hrun : (wants .sessionWantRead).run env ⟨host, c, []⟩
          = (.ok (.value (.bool (decide (env.reply .sessionWantRead ≠ 0)))),
            ⟨host, c, [.call c.session .sessionWantRead]⟩) := by
        simp [wants, hc.sound.1, hc.active]
      exact hrun ▸ .answered rfl rfl (hasked _ rfl) (by simp) (by simp)
    | wantWrite =>
      have hrun : (wants .sessionWantWrite).run env ⟨host, c, []⟩
          = (.ok (.value (.bool (decide (env.reply .sessionWantWrite ≠ 0)))),
            ⟨host, c, [.call c.session .sessionWantWrite]⟩) := by
        simp [wants, hc.sound.1, hc.active]
      exact hrun ▸ .answered rfl rfl (hasked _ rfl) (by simp) (by simp)
    | canSendRequest =>
      have hrun : canSendRequest.run env ⟨host, c, []⟩
          = (.ok (.value (.bool false)), ⟨host, c, []⟩) := by
        simp [canSendRequest, hc.sound.1, hc.active, hc.terminating]
      exact hrun ▸ .answered rfl rfl (.nil c) (fun _ => rfl) (by simp)
    | queuedBodySize s =>
      obtain ⟨v, hrun⟩ : ∃ v, (queuedBodySize s).run env ⟨host, c, []⟩
          = (.ok (.value v), ⟨host, c, []⟩) := by
        cases s with
        | none => exact ⟨_, rfl⟩
        | some s => cases hb : c.bodies.lookup s <;> simp [queuedBodySize, hb]
      exact hrun ▸ .answered rfl rfl (.nil c) (by simp) (by simp)
    | _ => simp [Request.needsActive] at hneeds

/-- The output of a spent connection is nothing. -/
theorem run_finishSend_ended {host : Host} {c : Connection} (hc : c.Ended) (env : Env) :
    (finishSend 0).run env ⟨host, c, []⟩ = (.ok (.bytes []), ⟨host, c.outputTaken, []⟩) := by
  have hquiet : updateTerminalState.run env ⟨host, c, []⟩ = (.ok (), ⟨host, c, []⟩) := by
    simp [updateTerminalState, hc.closed]
  rw [run_finishSend, run_bind, run_raiseCallbackOrNative_ok env _ le_rfl]
  dsimp only
  rw [run_bind, run_conn]
  dsimp only
  cases c.closing with
  | true => simp [hquiet, run_takeOutput, hc.output, staged, Connection.outputTaken]
  | false => simp [run_takeOutput, hc.output, staged, Connection.outputTaken]

/-- **What may be given back once the end was announced**: an operation that
could create work raises `ConnectionStateError`, no request can be sent, there
is no output, and the engine makes no callback. -/
def Label.GivenBack : Label → Response → Prop
  | .request r _, response =>
    (r.createsWork = true → ∃ x, response = .raised x ∧ x.isConnectionStateError = true) ∧
    (r = .canSendRequest → response = .returned (.bool false)) ∧
    ∀ amount, r = .dataToSend amount →
      response = .returned (.bytes []) ∨ amount ≠ some 0 ∧ response = .entered
  | .callback _ _, _ => False
  | .ret _ _, response => response = .returned (.bytes [])

/-- **What a step does once the end was announced**: it publishes nothing, fails
nothing, and gives back what it may. -/
structure Entry.Over (e : Entry Machine Label Outcome) : Prop where
  silent : emitted e = []
  live : e.after.conn.failed = false
  given : e.label.GivenBack e.outcome.response

section SpentSteps

variable {m m' : Machine} {o : Outcome} {env : Env}

/-- **An operation on a spent connection leaves it spent**, and gives the engine
no work. -/
theorem Connection.Ended.request {r : Request} (hc : m.conn.Ended)
    (htaken : m.step (.request r env) = some (o, m')) :
    Entry.Over ⟨m, .request r env, o, m'⟩ ∧ m'.conn.Ended ∧
      o.issued.any (Issued.stirs env) = false ∧ (m'.drive = none ∨ m'.sending = true) := by
  obtain ⟨hidle, hafter⟩ := Machine.request_taken htaken
  have hspent : Spent m.conn r (r.body.run env ⟨m.host, m.conn, []⟩) := spent_of_ended hc env r
  rw [Machine.world] at hafter
  generalize r.body.run env ⟨m.host, m.conn, []⟩ = q at hafter hspent
  have hsilent {o : Outcome} {m' : Machine} (heq : m'.conn.events = m.conn.events) :
      emitted ⟨m, .request r env, o, m'⟩ = [] := by
    rw [emitted, heq, List.drop_length]
  cases hspent with
  | @refused r e w works conn issued state =>
    obtain ⟨rfl, rfl⟩ := Prod.mk.inj hafter
    have hgiven : Label.GivenBack (.request r env) (.raised e) := by
      refine ⟨fun _ => ⟨e, rfl, state⟩, ?_, ?_⟩
      · rintro rfl
        simp [Request.createsWork, Request.needsActive] at works
      · rintro amount rfl
        simp [Request.createsWork, Request.needsActive] at works
    refine ⟨⟨hsilent (congrArg Connection.events conn), ?_, hgiven⟩, ?_, ?_, .inl hidle⟩
    · exact (congrArg Connection.failed conn).trans hc.sound.1
    · exact conn.symm ▸ hc
    · simp [issued]
  | @answered r v w idle conn questions closed nothing =>
    obtain ⟨rfl, rfl⟩ := Prod.mk.inj hafter
    have hgiven : Label.GivenBack (.request r env) (.returned v) := by
      refine ⟨fun works => absurd works (by simp [idle]), ?_, ?_⟩
      · exact fun hr => congrArg Response.returned (closed hr)
      · exact fun amount hr => .inl (congrArg Response.returned (nothing amount hr))
    refine ⟨⟨hsilent (congrArg Connection.events conn), ?_, hgiven⟩, ?_, ?_, .inl hidle⟩
    · exact (congrArg Connection.failed conn).trans hc.sound.1
    · exact conn.symm ▸ hc
    · exact questions.not_stirs
  | @tookEvents w conn issued =>
    obtain ⟨rfl, rfl⟩ := Prod.mk.inj hafter
    have hevents : w.conn.events = [] := congrArg Connection.events conn
    refine ⟨⟨?_, ?_, ?_⟩, ?_, ?_, .inl hidle⟩
    · show w.conn.events.drop m.conn.events.length = []
      rw [hevents, List.drop_nil]
    · exact (congrArg Connection.failed conn).trans hc.sound.1
    · simp [Label.GivenBack, Request.createsWork, Request.needsActive]
    · show w.conn.Ended
      rw [conn]
      exact ⟨hc.sound, hc.initialized, hc.active, hc.terminating, hc.closed, hc.output⟩
    · simp [issued]
  | @sending amount w positive conn issued =>
    obtain ⟨rfl, rfl⟩ := Prod.mk.inj hafter
    have hevents : w.conn.events = m.conn.events := by rw [conn]
    refine ⟨⟨hsilent hevents, ?_, ?_⟩, ?_, ?_, .inr rfl⟩
    · show w.conn.failed = false
      rw [conn]
      exact hc.sound.1
    · refine ⟨fun works => absurd works (by simp [Request.createsWork, Request.needsActive]),
        by simp, fun amount hr => .inr ⟨?_, rfl⟩⟩
      exact Request.dataToSend.inj hr ▸ positive
    · show w.conn.Ended
      rw [conn]
      exact ⟨⟨hc.sound.1, rfl⟩, hc.initialized, hc.active, hc.terminating, hc.closed, hc.output⟩
    · simp [issued, Issued.stirs]

/-- **An engine that is driven to nothing leaves a spent connection spent.** -/
theorem Connection.Ended.ret (hc : m.conn.Ended) (hsending : m.sending = true)
    (htaken : m.step (.ret 0 env) = some (o, m')) :
    Entry.Over ⟨m, .ret 0 env, o, m'⟩ ∧ m'.conn.Ended ∧
      o.issued.any (Issued.stirs env) = false ∧ m'.drive = none := by
  obtain ⟨session, hdrive⟩ : ∃ session, m.drive = some (.send, session) := by
    unfold Machine.sending at hsending
    split at hsending
    · next session heq => exact ⟨session, heq⟩
    · exact absurd hsending (by simp)
  rw [Machine.step, hdrive] at htaken
  simp only [Drive.finish, Machine.world, run_finishSend_ended hc, Option.some_inj,
    Machine.afterReturn, Prod.mk.injEq] at htaken
  obtain ⟨rfl, rfl⟩ := htaken
  refine ⟨⟨?_, hc.sound.1, rfl⟩, ?_, rfl, rfl⟩
  · exact List.drop_length
  · exact ⟨hc.sound, hc.initialized, hc.active, hc.terminating, hc.closed, rfl⟩

end SpentSteps

/-! ## What the fields say, in every run -/

/-- **The fields of the announcement account for the run.** -/
structure Accounts (h : History) (c : Connection) : Prop where
  /-- The reason is that of the newest GOAWAY. -/
  reason : (c.closeErrorCode, c.closeDebugData) = (lastReason h).getD (0, [])
  /-- The connection is closing once it may end. -/
  closing : c.closing = mayEnd h
  /-- It is closed once the end was announced. -/
  closed : c.closed = endAnnounced h

/-- The runs of the results below: the engine comes to rest, and the
announcement can be afforded. -/
def EndsAffordably (h : History) (m : Machine) (l : Label) : Prop :=
  ComesToRest h m l ∧ m.Affords l

instance (h : History) (m : Machine) (l : Label) : Decidable (EndsAffordably h m l) :=
  inferInstanceAs (Decidable (_ ∧ _))

section Runs

variable {host : Host} {h : History} {m : Machine}

/-- The fields account for every run, while nothing has failed. -/
theorem Runs.accounts (hrun : Runs host EndsAffordably h m) (hsound : m.conn.Sound) :
    Accounts h m.conn := by
  refine Runs.induct_sound (I := fun h m => Accounts h m.conn) (fun ha => ha.1.ends)
    ⟨rfl, rfl, rfl⟩ ?_ hrun hsound
  intro h m l p hprior hbefore ih hallowed hstep hsound
  obtain ⟨hreason, hclosing⟩ := hstep.closing hsound
  refine ⟨?_, ?_, ?_⟩
  · rw [hreason, ih.reason, lastReason_cons]
    cases l.reason <;> rfl
  · rw [hclosing, ih.closing, mayEnd_cons]
  · rw [hstep.closed hallowed.2 hsound, ih.closed, endAnnounced_cons]

/-- **The engine is entered on an active connection**, but for an upgrade. -/
theorem Runs.active_of_driven {Allowed : History → Machine → Label → Prop}
    (hrun : Runs host Allowed h m) : ∀ d session, m.drive = some (d, session) →
      (∀ entries, d ≠ .upgrade entries) → m.conn.active = true := by
  refine Run.invariant (I := fun _ m => ∀ d session, m.drive = some (d, session) →
    (∀ entries, d ≠ .upgrade entries) → m.conn.active = true)
    (fun _ _ hdrive => absurd hdrive (by simp [Machine.fresh])) ?_ hrun
  intro h m l o m' _ ih _ htaken d session hdrive hkind
  have hstep := Machine.stepped htaken
  generalize hp : (o, m') = p at hstep
  obtain ⟨rfl, rfl⟩ : o = p.1 ∧ m' = p.2 := ⟨congrArg Prod.fst hp, congrArg Prod.snd hp⟩
  clear hp
  cases hstep with
  | request idle hr =>
    have hnone {d : Drive} {session : Option SessionId} (h : m.drive = some (d, session)) :
        False := by simp [idle] at h
    cases hr with
    | receiving usable => exact usable.2.1
    | sending live active => exact active
    | upgrading =>
      obtain ⟨rfl, -⟩ := Prod.mk.inj (Option.some.inj hdrive)
      exact absurd rfl (hkind _)
    | _ => exact (hnone hdrive).elim
  | callback driven hc =>
    rw [Machine.afterCallback_drive] at hdrive
    rw [Machine.afterCallback_conn]
    cases hc with
    | failed spoiled => exact spoiled.active.trans (ih d session hdrive hkind)
    | _ => exact ih d session hdrive hkind
  | ret driven hr => exact absurd hdrive (by simp)

/-- **What holds once the end was announced**: the connection is spent, the
engine at rest, and nothing but the output is driven. -/
structure Machine.AtEnd (h : History) (m : Machine) : Prop where
  ended : m.conn.Ended
  atRest : resting h = true
  quiet : m.drive = none ∨ m.sending = true

/-- **A step after the announcement**: it does nothing, and leaves the end as it
is. -/
theorem Machine.AtEnd.step {l : Label} {m' : Machine} {o : Outcome} (hend : m.AtEnd h)
    (hallowed : ComesToRest h m l) (htaken : m.step l = some (o, m')) :
    Entry.Over ⟨m, l, o, m'⟩ ∧ m'.AtEnd (⟨m, l, o, m'⟩ :: h) := by
  have hrests (hcalls : o.issued.any (Issued.stirs l.env) = false) :
      resting (⟨m, l, o, m'⟩ :: h) = true := by
    rw [resting, hend.atRest, hcalls, Bool.or_true]
    rfl
  cases l with
  | request r env =>
    obtain ⟨hover, hended, hcalls, hdrive⟩ := hend.ended.request htaken
    exact ⟨hover, hended, hrests hcalls, hdrive⟩
  | callback cb env =>
    have hdriven := (Machine.stepped htaken).callback_driven
    have hquiet : resting h = false := hallowed.rests (hend.quiet.resolve_left hdriven)
    exact absurd hend.atRest (by simp [hquiet])
  | ret result env =>
    have hdriven : m.drive ≠ none := by
      rintro hnone
      simp [Machine.step, hnone] at htaken
    have hsending := hend.quiet.resolve_left hdriven
    obtain rfl : result = 0 := hallowed.sends hsending hend.atRest _ rfl
    obtain ⟨hover, hended, hcalls, hdrive⟩ := hend.ended.ret hsending htaken
    exact ⟨hover, hended, hrests hcalls, .inl hdrive⟩

/-- A drive that returns no error was made on a sound connection. -/
theorem Runs.sound_of_nonnegative {result : Int} {env : Env} (hrun : Runs host EndsAffordably h m)
    (hallowed : EndsAffordably h m (.ret result env)) (hdriven : m.drive ≠ none)
    (hresult : 0 ≤ result) : m.conn.Sound := by
  refine ⟨Runs.live hrun hdriven, ?_⟩
  by_contra hne
  have hfatal := hallowed.1.ends (Runs.deferred (fun ha => ha.1.ends) hrun hne).2
  have hneg : result < 0 := neg_of_isFatal hfatal
  omega

/-- **The announcement leaves the connection at its end.** -/
theorem Announcing.atEnd {result : Int} {env : Env} {p : Outcome × Machine}
    (h' : Announcing m result env p) (hrun : Runs host EndsAffordably h m)
    (hsound : m.conn.Sound) : p.2.AtEnd (⟨m, .ret result env, p.1, p.2⟩ :: h) := by
  have hinitialized : m.conn.initialized = true := by
    cases hi : m.conn.initialized with
    | true => rfl
    | false => exact absurd (Runs.idle hrun hi).2 (by simp [h'.finished.2.1])
  refine ⟨?_, ?_, .inl h'.out⟩
  · rcases h'.conn with ⟨hsending, hconn⟩ | hconn
    · have hout : m.conn.output = none := by
        have hstaging := Runs.staging (fun ha => ha.1.ends) hrun hsound
        unfold Machine.Staging at hstaging
        split at hstaging
        · next session hdrive => exact absurd hsending (by simp [Machine.sending, hdrive])
        · exact hstaging.1
      rw [hconn]
      exact ⟨hsound, hinitialized, h'.finished.2.1, rfl, rfl, hout⟩
    · rw [hconn]
      exact ⟨hsound, hinitialized, h'.finished.2.1, rfl, rfl, rfl⟩
  · simp [resting, Entry.rests, h'.finished.2.2.2.1, h'.finished.2.2.2.2, Label.env, h'.calls]

/-- **Once the end was announced the connection is at its end**, in every
run. -/
theorem Runs.atEnd (hrun : Runs host EndsAffordably h m) (hend : endAnnounced h = true) :
    m.AtEnd h := by
  revert hend
  refine Run.invariant (I := fun h m => endAnnounced h = true → m.AtEnd h)
    (fun hend => absurd hend (by simp [endAnnounced, eventsOf])) ?_ hrun
  intro h m l o m' hprior ih hallowed htaken hend
  cases hbefore : endAnnounced h with
  | true => exact ((ih hbefore).step hallowed.1 htaken).2
  | false =>
    rw [endAnnounced_cons, hbefore, Bool.false_or] at hend
    obtain ⟨result, env, rfl, hannouncing⟩ :=
      (Machine.stepped htaken).announcing hallowed.2 hend
    have hdriven : m.drive ≠ none := by
      rintro hnone
      simp [Machine.step, hnone] at htaken
    exact hannouncing.atEnd hprior
      (Runs.sound_of_nonnegative hprior hallowed hdriven hannouncing.nonnegative)

/-- An engine at rest has reported the GOAWAY the connection may end for. -/
theorem lastReason_of_mayEnd {result : Int} {env : Env}
    (hwrites : WritesGoaway h (.ret result env)) (hquiet : env.reply .sessionWantWrite = 0)
    (hmay : mayEnd h = true) : ∃ reason, lastReason h = some reason := by
  rcases Bool.or_eq_true_iff.mp hmay with hreason | hrequested
  · exact Option.isSome_iff_exists.mp hreason
  · refine Option.ne_none_iff_exists'.mp fun hnone => ?_
    exact hwrites hrequested (goawaySent_of_lastReason hnone) hquiet

/-- The reason of an announcement is that of the newest GOAWAY. -/
theorem Accounts.reason_eq {c : Connection} {errorCode : Nat} {debugData : Bytes}
    (ha : Accounts h c) (hlast : lastReason h = some (errorCode, debugData)) :
    c.closeErrorCode = errorCode ∧ c.closeDebugData = debugData := by
  have hreason := ha.reason
  rw [hlast] at hreason
  exact Prod.mk.inj hreason

/-- **The end is announced exactly when the protocol is finished, once, and
last**, in every run that comes to rest and can afford it.

The first return that completes with the engine at rest and a reason to end
announces it. An announcement is made by such a return and gives the newest
reason. Afterwards nothing is published, nothing fails, and what could create
work is refused. -/
theorem connectionClosed_once (hrun : Runs host EndsAffordably h m) :
    ∀ e h', (e :: h') <:+ h →
      (Entry.completes e = true → Entry.rests e = true → mayEnd h' = true →
        endAnnounced h' = false →
          ∃ errorCode debugData, lastReason h' = some (errorCode, debugData) ∧
            emitted e = [.connectionClosed errorCode debugData] ∧ e.after.conn.failed = false) ∧
      (∀ errorCode debugData, .connectionClosed errorCode debugData ∈ emitted e →
        Entry.completes e = true ∧ Entry.rests e = true ∧ mayEnd h' = true ∧
          endAnnounced h' = false ∧ lastReason h' = some (errorCode, debugData) ∧
          e.before.conn.failed = false) ∧
      (endAnnounced h' = true → Entry.Over e) := by
  intro e h' hsuf
  obtain ⟨hprior, hallowed, htaken⟩ := hrun.of_suffix hsuf
  obtain ⟨m, l, o, m'⟩ := e
  have hstep := Machine.stepped htaken
  refine ⟨fun hcompletes hrests hmay hfirst => ?_, fun errorCode debugData hmem => ?_,
    fun hend => ((Runs.atEnd hprior hend).step hallowed.1 htaken).1⟩
  · obtain ⟨result, env, d, session, rfl, hdrive, hkind, hresult⟩ := hstep.of_completes hcompletes
    have hdriven : m.drive ≠ none := by
      rw [show m.drive = some (d, session) from hdrive]
      simp
    have hsound := Runs.sound_of_nonnegative hprior hallowed hdriven hresult
    have haccounts := Runs.accounts hprior hsound
    obtain ⟨hread, hwrite⟩ : env.reply .sessionWantRead = 0 ∧ env.reply .sessionWantWrite = 0 :=
      of_decide_eq_true hrests
    have hfinished : m.conn.Finished env :=
      ⟨haccounts.closing.trans hmay, Runs.active_of_driven hprior d session hdrive hkind,
        haccounts.closed.trans hfirst, hread, hwrite⟩
    have hannouncing := hstep.announcing_of_finished hcompletes hfinished
    obtain ⟨⟨errorCode, debugData⟩, hlast⟩ := lastReason_of_mayEnd hallowed.1.writes hwrite hmay
    obtain ⟨hcode, hdata⟩ := haccounts.reason_eq hlast
    refine ⟨errorCode, debugData, hlast, ?_, (hannouncing.atEnd hprior hsound).ended.sound.1⟩
    rw [← hcode, ← hdata]
    exact hannouncing.emits
  · have hend : (emitted ⟨m, l, o, m'⟩).any Event.isEnd = true :=
      List.any_eq_true.mpr ⟨_, hmem, rfl⟩
    obtain ⟨result, env, rfl, hannouncing⟩ := hstep.announcing hallowed.2 hend
    have hdriven : m.drive ≠ none := by
      rintro hnone
      simp [Machine.step, hnone] at htaken
    have hsound := Runs.sound_of_nonnegative hprior hallowed hdriven hannouncing.nonnegative
    have haccounts := Runs.accounts hprior hsound
    obtain ⟨hclosing, hactive, hopen, hread, hwrite⟩ := hannouncing.finished
    have hmay : mayEnd h' = true := haccounts.closing.symm.trans hclosing
    obtain ⟨⟨code, data⟩, hlast⟩ := lastReason_of_mayEnd hallowed.1.writes hwrite hmay
    obtain ⟨hcode, hdata⟩ := haccounts.reason_eq hlast
    have hmem : (.connectionClosed errorCode debugData : Event)
        ∈ [.connectionClosed m.conn.closeErrorCode m.conn.closeDebugData] :=
      hannouncing.emits ▸ hmem
    obtain ⟨rfl, rfl⟩ := Event.connectionClosed.inj (List.mem_singleton.mp hmem)
    refine ⟨hannouncing.completes, by simp [Entry.rests, hread, hwrite], hmay,
      haccounts.closed.symm.trans hopen, ?_, hsound.1⟩
    rw [hlast, hcode, hdata]

end Runs

/-- A client that is sent a GOAWAY, by an engine that comes to rest over it; the
event of the end can be created as `alloc` says. Its output is driven
afterwards. -/
def sentAway (alloc : Alloc → Bool) : List Label := [
  .request (.init .client {}) (.accepting []),
  .request (.initiateConnection []) (.accepting []),
  .request (.receiveData [0]) (.accepting []),
  .callback (.frameReceived { streamId := 0, payload := .goaway 0 2 [111] }) (.accepting []),
  .ret 1 { Env.accepting [] with alloc := alloc },
  .request (.dataToSend none) (.accepting []),
  .ret 0 (.accepting [])]

set_option maxRecDepth 4000 in
theorem connectionClosed_once_sentAway :
    ∃ e h', Run.execute Machine.step EndsAffordably ([], Machine.fresh {})
        ((sentAway fun _ => true).take 5) = some (e :: h', e.after) ∧
      emitted e = [.connectionClosed 2 [111]] := by
  obtain ⟨e, h', hc, hcompletes, hrests, hmay, hfirst, hlast⟩ : ∃ e h',
      Run.execute Machine.step EndsAffordably ([], Machine.fresh {})
        ((sentAway fun _ => true).take 5) = some (e :: h', e.after) ∧
      Entry.completes e = true ∧ Entry.rests e = true ∧ mayEnd h' = true ∧
      endAnnounced h' = false ∧ lastReason h' = some (2, [111]) :=
    ⟨_, _, rfl, rfl, rfl, rfl, rfl, rfl⟩
  have hrun : Runs {} EndsAffordably (e :: h') e.after := Run.of_execute .start hc
  obtain ⟨errorCode, debugData, hreason, hemitted, -⟩ :=
    (connectionClosed_once hrun e h' (List.suffix_refl _)).1 hcompletes hrests hmay hfirst
  obtain ⟨rfl, rfl⟩ := Prod.mk.inj (Option.some.inj (hlast.symm.trans hreason))
  exact ⟨e, h', hc, hemitted⟩

set_option maxRecDepth 4000 in
/-- **Where the event cannot be created the end is never announced.**
`receive_data` raises and leaves the connection closed and not failed, and the
first call that completes afterwards, with everything finished, announces
nothing. -/
theorem connectionClosed_once_starved :
    ∃ e h', Runs {} ComesToRest (e :: h') e.after ∧
      (∀ e' ∈ h', Entry.completes e' = false) ∧ Entry.completes e = true ∧
      Entry.rests e = true ∧ mayEnd h' = true ∧ endAnnounced h' = false ∧ emitted e = [] ∧
      e.after.conn.closed = true ∧ e.after.conn.failed = false := by
  obtain ⟨e, h', hc, hothers, hcompletes, hrests, hmay, hfirst, hemitted, hclosed, hlive⟩ : ∃ e h',
      Run.execute Machine.step ComesToRest ([], Machine.fresh {})
        (sentAway fun a => decide (a ≠ .object)) = some (e :: h', e.after) ∧
      (∀ e' ∈ h', Entry.completes e' = false) ∧ Entry.completes e = true ∧
      Entry.rests e = true ∧ mayEnd h' = true ∧ endAnnounced h' = false ∧ emitted e = [] ∧
      e.after.conn.closed = true ∧ e.after.conn.failed = false :=
    ⟨_, _, rfl, by decide, rfl, rfl, rfl, rfl, rfl, rfl, rfl⟩
  exact ⟨e, h', Run.of_execute .start hc, hothers, hcompletes, hrests, hmay, hfirst, hemitted,
    hclosed, hlive⟩

end Ngh2
