import Ngh2.Contract
import Ngh2.Events

/-!
# Inbound DATA, step by step

Three fields describe the one DATA frame that may be open – its buffer, how
many bytes of it are application data, its stream – and a dictionary the bytes
that were published and not yet consumed. Four callbacks and one operation
touch them, and everything else leaves them alone. `DataStep` lists what a
step may do to them, with the credit it gives back to the engine and the DATA
it publishes; the results about reassembly and about credit read off that list
and never look at a body again.
-/

namespace Ngh2

open Nghttp2

/-! ## What a label says of DATA -/

/-- The DATA frame a label begins: its stream and its length. -/
def Label.begins : Label → Option (StreamId × Nat)
  | .callback (.beginFrame true s length) _ => some (s, length)
  | _ => none

/-- The fragment a label delivers: its stream and its bytes. -/
def Label.delivers : Label → Option (StreamId × Bytes)
  | .callback (.dataChunk s data) _ => some (s, data)
  | _ => none

/-- The DATA frame a label completes. -/
def Label.completes : Label → Option Frame
  | .callback (.frameReceived frame) _ => if frame.payload = .data then some frame else none
  | _ => none

theorem Label.of_begins {l : Label} {s : StreamId} {length : Nat}
    (h : l.begins = some (s, length)) : ∃ env, l = .callback (.beginFrame true s length) env := by
  unfold Label.begins at h
  split at h
  · obtain ⟨rfl, rfl⟩ := Prod.mk.inj (Option.some.inj h)
    exact ⟨_, rfl⟩
  · exact absurd h (by simp)

theorem Label.of_delivers {l : Label} {s : StreamId} {data : Bytes}
    (h : l.delivers = some (s, data)) : ∃ env, l = .callback (.dataChunk s data) env := by
  unfold Label.delivers at h
  split at h
  · obtain ⟨rfl, rfl⟩ := Prod.mk.inj (Option.some.inj h)
    exact ⟨_, rfl⟩
  · exact absurd h (by simp)

theorem Label.of_completes {l : Label} {frame : Frame} (h : l.completes = some frame) :
    ∃ env, l = .callback (.frameReceived frame) env ∧ frame.payload = .data := by
  unfold Label.completes at h
  split at h
  · split at h
    · next hdata =>
      obtain rfl := Option.some.inj h
      exact ⟨_, rfl, hdata⟩
    · exact absurd h (by simp)
  · exact absurd h (by simp)

/-- The DATA an event publishes: its stream, its bytes, and whether they are
the last. -/
def Event.data : Event → Option (StreamId × Bytes × Bool)
  | .dataReceived s bytes endStream => some (s, bytes, endStream)
  | _ => none

/-- **The DATA a run published**, oldest first. -/
def publishedData (h : History) :
    List (StreamId × Bytes × Bool) := (eventsOf h).filterMap Event.data

theorem publishedData_cons {e : Entry Machine Label Outcome} {h : History} :
    publishedData (e :: h) = publishedData h ++ (emitted e).filterMap Event.data :=
  List.filterMap_append

/-! ## The credit a step gives back -/

/-- **Credit given back to the engine**, for the connection alone or for a
stream and the connection. -/
inductive Credit where
  | connection (size : Nat)
  | stream (s : StreamId) (size : Nat)
  deriving DecidableEq

/-- The credit the engine accepted in a use of a session. -/
def Issued.credit (env : Env) : Issued → Option Credit
  | .call _ (.sessionConsumeConnection size) =>
    if 0 ≤ env.reply (.sessionConsumeConnection size) then some (.connection size) else none
  | .call _ (.sessionConsume s size) =>
    if 0 ≤ env.reply (.sessionConsume s size) then some (.stream s size) else none
  | _ => none

/-! ## The fields -/

/-- **What a connection holds of inbound DATA.** -/
structure Inbound where
  /-- The buffer of the open frame. -/
  payload : Option Buffer := none
  /-- How many of its bytes are application data. -/
  size : Nat := 0
  /-- The stream of the open frame, or of an earlier one. -/
  streamId : StreamId := 0
  /-- The published bytes that were not consumed. -/
  unconsumed : Dict Nat := ∅
  /-- Whether the engine updates its windows by itself. -/
  automatic : Bool := false

/-- The inbound DATA of a connection. -/
def Connection.inbound (c : Connection) : Inbound where
  payload := c.dataPayload
  size := c.dataSize
  streamId := c.dataStreamId
  unconsumed := c.unconsumed
  automatic := c.autoWindowUpdate

namespace Inbound

/-- The application bytes of the open frame. -/
def bytes (i : Inbound) : Bytes := ((i.payload.map Buffer.written).getD []).take i.size

/-- The credit of a frame that is dropped. -/
def credit (i : Inbound) : List Credit :=
  if i.size ≠ 0 ∧ i.automatic = false then [.connection i.size] else []

/-- Without the open frame. -/
def dropped (i : Inbound) : Inbound := { i with payload := none, size := 0 }

/-- With a new frame open. -/
def opened (i : Inbound) (s : StreamId) (length : Nat) : Inbound :=
  { i with payload := some { capacity := length }, size := 0, streamId := s }

/-- With a fragment in the open frame. -/
def appended (i : Inbound) (payload : Buffer) (data : Bytes) : Inbound :=
  { i with payload := some (payload.memcpy i.size data), size := i.size + data.length }

/-- With the open frame published. -/
def published (i : Inbound) (s : StreamId) : Inbound :=
  { i.dropped with
    unconsumed := if i.bytes ≠ [] ∧ i.automatic = false then
        i.unconsumed.insert s ((i.unconsumed.lookup s).getD 0 + i.bytes.length)
      else i.unconsumed }

/-- With published bytes consumed. -/
def consumed (i : Inbound) (s : StreamId) (amount : Nat) : Inbound :=
  { i with
    unconsumed :=
      if (i.unconsumed.lookup s).getD 0 - amount ≠ 0 then
        i.unconsumed.insert s ((i.unconsumed.lookup s).getD 0 - amount)
      else i.unconsumed.erase s }

end Inbound

/-- **What a step does to inbound DATA**: the fields it leaves, the credit it
gives back, and the DATA it publishes. -/
inductive DataStep (m : Machine) (l : Label) (i : Inbound) (credits : List Credit)
    (published : List (StreamId × Bytes × Bool)) : Prop
  /-- Nothing. -/
  | kept (begins : l.begins = none) (delivers : l.delivers = none)
      (completes : l.completes = none) (closes : l.closes ≠ some m.conn.dataStreamId)
      (inbound : i = m.conn.inbound) (credited : credits = []) (events : published = [])
  /-- `__init__` assigned how the windows are updated. -/
  | configured {automatic : Bool} (begins : l.begins = none) (delivers : l.delivers = none)
      (completes : l.completes = none) (closes : l.closes = none)
      (uninitialized : m.conn.initialized = false)
      (inbound : i = { m.conn.inbound with automatic }) (credited : credits = [])
      (events : published = [])
  /-- `_begin_frame` dropped what was open, and opened a frame. -/
  | begun {s : StreamId} {length : Nat} (driven : m.drive ≠ none)
      (begins : l.begins = some (s, length))
      (inbound : i = m.conn.inbound.opened s length) (credited : credits = m.conn.inbound.credit)
      (events : published = [])
  /-- `_data_chunk` copied a fragment. -/
  | delivered {data : Bytes} {payload : Buffer} (driven : m.drive ≠ none)
      (delivers : l.delivers = some (m.conn.dataStreamId, data))
      (opened : m.conn.dataPayload = some payload)
      (fits : m.conn.dataSize + data.length ≤ payload.capacity)
      (inbound : i = m.conn.inbound.appended payload data) (credited : credits = [])
      (events : published = [])
  /-- `_frame_received` published a frame. -/
  | completed {frame : Frame} (driven : m.drive ≠ none) (completes : l.completes = some frame)
      (inbound : i = m.conn.inbound.published frame.streamId) (credited : credits = [])
      (events : published = [(frame.streamId, m.conn.inbound.bytes, frame.endStream)])
  /-- `_stream_closed` dropped the frame of the stream. -/
  | closed (driven : m.drive ≠ none) (closes : l.closes = some m.conn.dataStreamId)
      (inbound : i = m.conn.inbound.dropped) (credited : credits = m.conn.inbound.credit)
      (events : published = [])
  /-- `consume_received_data` consumed published bytes. -/
  | consumed {s : StreamId} {amount : Nat} (begins : l.begins = none)
      (delivers : l.delivers = none) (completes : l.completes = none) (closes : l.closes = none)
      (usable : m.conn.Usable) (manual : m.conn.autoWindowUpdate = false)
      (enough : amount ≤ (m.conn.unconsumed.lookup s).getD 0)
      (inbound : i = m.conn.inbound.consumed s amount) (credited : credits = [.stream s amount])
      (events : published = [])

/-! ## Inversion -/

section Inversion

variable {env : Env} {c : Connection}

/-- A question gives no credit back. -/
theorem Issued.credit_query {session : Option SessionId} {q : EngineCall} (h : q.isQuery = true) :
    Issued.credit env (.call session q) = none := by
  cases q <;> first | rfl | simp [EngineCall.isQuery] at h

/-- What the engine refused gave no credit back. -/
theorem Issued.credit_refused {session : Option SessionId} {q : EngineCall}
    (h : env.reply q < 0) : Issued.credit env (.call session q) = none := by
  cases q with
  | sessionConsumeConnection size => exact if_neg (by omega)
  | sessionConsume s size => exact if_neg (by omega)
  | _ => rfl

theorem Declined.no_credit {r : Request} {is : List Issued} (h : Declined env c r is) :
    is.filterMap (Issued.credit env) = [] := by
  refine List.filterMap_eq_nil_iff.mpr fun i hi => ?_
  obtain ⟨q, rfl, hq | ⟨hneg, -⟩⟩ := h i hi
  · exact Issued.credit_query hq
  · exact Issued.credit_refused hneg

theorem Wanting.no_credit {is : List Issued} (h : Wanting c is) :
    is.filterMap (Issued.credit env) = [] := by
  refine List.filterMap_eq_nil_iff.mpr fun i hi => ?_
  obtain ⟨q, rfl, hq⟩ := h i hi
  exact Issued.credit_query hq

/-- A quiet operation gives no credit back. -/
theorem Quiet.no_credit {r : Request} {is : List Issued} (h : Quiet c r is)
    (hquiet : r.isQuiet = true) : is.filterMap (Issued.credit env) = [] := by
  refine List.filterMap_eq_nil_iff.mpr fun i hi => ?_
  obtain ⟨q, rfl, hq | hq⟩ := h i hi
  · exact Issued.credit_query hq
  · cases r with
    | consumeReceivedData => simp [Request.isQuiet] at hquiet
    | sendPing | sendGoaway | sendPriorityUpdate =>
      obtain ⟨_, rfl⟩ := hq
      rfl
    | terminateConnection => obtain rfl | ⟨_, rfl⟩ := hq <;> rfl
    | _ => first | exact False.elim hq | (obtain rfl := hq; rfl)

/-- The calls of a read give no credit back. -/
theorem FinishedRead.no_credit {session : Option SessionId} {s : StreamId}
    {body body' : BodySource} {reply reply' : Reply} {complete : Bool} {is : List Issued}
    (h : FinishedRead env session s body reply complete reply' is body') :
    is.filterMap (Issued.credit env) = [] := by
  cases h <;> rfl

/-- An event that only announces something carries no DATA. -/
theorem Event.data_of_isPlain {event : Event} (h : event.isPlain = true) : event.data = none := by
  cases event with
  | dataReceived => simp [Event.isPlain] at h
  | _ => rfl

/-- A step that completes no DATA frame publishes no DATA. -/
theorem Emits.no_data {m : Machine} {l : Label} {events : List Event} (h : Emits m l events)
    (hl : l.completes = none) : events.filterMap Event.data = [] := by
  cases h with
  | data kind => simp [Label.completes, kind] at hl
  | frame kind plain =>
    refine List.filterMap_eq_nil_iff.mpr fun event hevent => ?_
    rw [List.mem_singleton.mp hevent]
    exact Event.data_of_isPlain plain
  | spoiled plain =>
    refine List.filterMap_eq_nil_iff.mpr fun event hevent => ?_
    rw [List.mem_singleton.mp hevent]
    exact Event.data_of_isPlain plain
  | _ => rfl

/-- The credit of an open frame, as the call that gives it back. -/
theorem Connection.credit_credits
    (h : c.credit ≠ [] → 0 ≤ env.reply (.sessionConsumeConnection c.dataSize)) :
    c.credit.filterMap (Issued.credit env) = c.inbound.credit := by
  show c.credit.filterMap (Issued.credit env)
    = if c.dataSize ≠ 0 ∧ c.autoWindowUpdate = false then [.connection c.dataSize] else []
  by_cases hcredit : c.dataSize ≠ 0 ∧ c.autoWindowUpdate = false
  · have hcall : c.credit = [.call c.session (.sessionConsumeConnection c.dataSize)] :=
      if_pos hcredit
    have haccepted := h (by rw [hcall]; simp)
    rw [if_pos hcredit, hcall]
    simp [Issued.credit, haccepted]
  · rw [if_neg hcredit, show c.credit = [] from if_neg hcredit]
    rfl

/-- **A step does one of these to inbound DATA**, while nothing has failed and
the connection is not terminating. -/
theorem Stepped.data {m : Machine} {l : Label} {p : Outcome × Machine} (h : Stepped m l p)
    (hsound : p.2.conn.Sound) (hopen : p.2.conn.terminating = false) :
    DataStep m l p.2.conn.inbound (p.1.issued.filterMap (Issued.credit l.env))
      ((emitted ⟨m, l, p.1, p.2⟩).filterMap Event.data) := by
  have hsilent (hl : l.completes = none) :
      (emitted ⟨m, l, p.1, p.2⟩).filterMap Event.data = [] := h.emits.no_data hl
  cases h with
  | @request r env q idle hr =>
    rw [Machine.afterRequest_conn] at hsound hopen ⊢
    rw [Machine.afterRequest_issued]
    have hkept (hinbound : q.2.conn.inbound = m.conn.inbound)
        (hcredit : q.2.issued.filterMap (Issued.credit env) = []) :
        DataStep m (.request r env) q.2.conn.inbound (q.2.issued.filterMap (Issued.credit env))
          ((emitted ⟨m, .request r env, (m.afterRequest q).1, (m.afterRequest q).2⟩).filterMap
            Event.data) :=
      .kept rfl rfl rfl (by simp [Label.closes]) hinbound hcredit (hsilent rfl)
    cases hr with
    | failed => exact absurd hsound.1 (by simp [World.failed, Connection.invalidate])
    | terminated => exact absurd (show true = false from hopen) (by simp)
    | rejected calls => exact hkept rfl calls.no_credit
    | unreported quiet calls => exact hkept rfl (calls.no_credit quiet)
    | answered quiet calls => exact hkept rfl (calls.no_credit quiet)
    | configured uninitialized =>
      exact .configured rfl rfl rfl rfl uninitialized rfl rfl (hsilent rfl)
    | installed uninitialized =>
      exact .configured rfl rfl rfl rfl uninitialized rfl rfl (hsilent rfl)
    | trailersQueued => exact hkept rfl (by dsimp only; split <;> rfl)
    | dataQueued => exact hkept rfl (by dsimp only; split <;> rfl)
    | resetSubmitted => exact hkept rfl (by dsimp only; split <;> rfl)
    | @consumed s amount unconsumed usable manual positive outstanding enough accepted =>
      subst outstanding
      refine .consumed (s := s) rfl rfl rfl rfl usable manual enough rfl ?_ (hsilent rfl)
      simp [Issued.credit, Label.env, accepted]
    | _ => exact hkept rfl rfl
  | @callback cb env d session q driven hc =>
    rw [Machine.afterCallback_conn] at hsound hopen ⊢
    rw [Machine.afterCallback_issued]
    have hkept (hb : (Label.callback cb env).begins = none)
        (hd : (Label.callback cb env).delivers = none)
        (hp : (Label.callback cb env).completes = none)
        (hs : (Label.callback cb env).closes ≠ some m.conn.dataStreamId)
        (hinbound : q.2.conn.inbound = m.conn.inbound)
        (hcredit : q.2.issued.filterMap (Issued.credit env) = []) :
        DataStep m (.callback cb env) q.2.conn.inbound (q.2.issued.filterMap (Issued.credit env))
          ((emitted ⟨m, .callback cb env, (m.afterCallback (.ok q.1, q.2)).1,
            (m.afterCallback (.ok q.1, q.2)).2⟩).filterMap Event.data) :=
      .kept hb hd hp hs hinbound hcredit (hsilent hp)
    have hdriven : m.drive ≠ none := by simp [driven]
    cases hc with
    | failed spoiled deferred => exact absurd (deferred.symm.trans hsound.2) (by simp)
    | readWhole unspent opened whole finished =>
      exact hkept rfl rfl rfl (by simp [Label.closes]) rfl finished.no_credit
    | readCopied unspent opened limited copied finished =>
      exact hkept rfl rfl rfl (by simp [Label.closes]) rfl finished.no_credit
    | dataFrameBegun credited =>
      exact .begun hdriven rfl rfl (Connection.credit_credits credited) (hsilent rfl)
    | headerBlock kind =>
      obtain ⟨rfl, -⟩ | ⟨rfl, -⟩ | ⟨name, value, noIndex, rfl, -⟩ := kind <;>
        exact hkept rfl rfl rfl (by simp [Label.closes]) rfl rfl
    | dataCopied opened fits => exact .delivered hdriven rfl opened fits rfl rfl (hsilent rfl)
    | dataReceived kind =>
      refine .completed hdriven (by simp [Label.completes, kind]) rfl rfl ?_
      rw [emitted_of_append rfl]
      rfl
    | goawayReceived kind =>
      exact hkept rfl rfl (by simp [Label.completes, kind]) (by simp [Label.closes]) rfl rfl
    | frameReceived kind plain =>
      have hdata (frame : Frame) (h : frame.isPlain = true) : frame.payload ≠ .data := by
        intro heq
        simp [Frame.isPlain, heq] at h
      exact hkept rfl rfl (if_neg (hdata _ kind)) (by simp [Label.closes]) rfl rfl
    | frameIgnored kind =>
      exact hkept rfl rfl (by simp [Label.completes, kind]) (by simp [Label.closes]) rfl rfl
    | @streamClosed s errorCode credited =>
      by_cases hs : m.conn.dataStreamId = s
      · refine .closed hdriven (congrArg some hs.symm) ?_ ?_ (hsilent rfl)
        · simp [Connection.inbound, Inbound.dropped, hs]
        · simp only [if_pos hs]
          exact Connection.credit_credits (credited hs)
      · refine hkept rfl rfl rfl ?_ ?_ ?_
        · exact fun h => hs (Option.some.inj h).symm
        · simp [Connection.inbound, hs]
        · simp [hs]
    | streamEnded ends calls =>
      refine hkept rfl rfl rfl (by simp [Label.closes]) rfl ?_
      subst calls
      dsimp only
      split
      · rfl
      · split <;> rfl
    | notSentRecorded recorded =>
      exact hkept rfl rfl rfl (by simp [Label.closes]) rfl (by dsimp only; split <;> rfl)
    | _ => exact hkept rfl rfl rfl (by simp [Label.closes]) rfl rfl
  | @ret result env d session q driven hr =>
    rw [Machine.afterReturn_conn] at hsound hopen ⊢
    rw [Machine.afterReturn_issued]
    have hkept (hinbound : q.2.conn.inbound = m.conn.inbound)
        (hcredit : q.2.issued.filterMap (Issued.credit env) = []) :
        DataStep m (.ret result env) q.2.conn.inbound (q.2.issued.filterMap (Issued.credit env))
          ((emitted ⟨m, .ret result env, (m.afterReturn q).1, (m.afterReturn q).2⟩).filterMap
            Event.data) :=
      .kept rfl rfl rfl (by simp [Label.closes]) hinbound hcredit (hsilent rfl)
    cases hr with
    | failed => exact absurd hsound.1 (by simp [World.failed, Connection.invalidate])
    | sentThenFailed => exact absurd hsound.1 (by simp [World.failed, Connection.invalidate])
    | receivedLast => exact absurd (show true = false from hopen) (by simp)
    | receivedUnannounced => exact absurd (show true = false from hopen) (by simp)
    | sentLast => exact absurd (show true = false from hopen) (by simp)
    | rejected => exact hkept rfl rfl
    | upgraded => exact hkept rfl (by split <;> rfl)
    | received going calls => exact hkept rfl calls.no_credit
    | sent nonnegative going calls => exact hkept rfl calls.no_credit

end Inversion

end Ngh2
