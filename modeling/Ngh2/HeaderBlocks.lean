import Mathlib.Algebra.Ring.Nat
import Ngh2.Contract
import Ngh2.Failure

/-!
# Inbound header blocks

A header block arrives field by field: `on_begin_headers` opens it, each field
is added after both limits were enforced, and its frame completes it. Nothing
marks the end of an abandoned block, so the list is emptied when a block is
completed and when one is begun, and the running size only when one is begun.

What is collected is compared with what was delivered. `openBlock` reads off a
history the block the engine is delivering, with its fields so far, and what
the connection retains of it is exactly that. No other callback touches it,
which is a statement about the bodies of the callbacks (`Callback.keeps`), not
about their results, since it has to hold of a callback that fails too.
-/

namespace Ngh2

open Nghttp2 Effect

/-! ## What is collected -/

/-- The header block an event publishes. -/
def Event.headers : Event → Option (List Header)
  | .requestReceived _ headers _ => some headers
  | .responseReceived _ headers _ => some headers
  | .informationalResponseReceived _ headers => some headers
  | .trailersReceived _ headers => some headers
  | .pushedStreamReceived _ _ headers => some headers
  | _ => none

/-- What is seen of a connection in the collection of header blocks: the block
with its running size, the two limits, and the blocks among the events. -/
structure Collected where
  fields : List Header
  size : Nat
  listSize : Nat
  count : Nat
  published : List (List Header)

/-- The header block a connection is collecting. -/
def Connection.collected (c : Connection) : Collected where
  fields := c.currentHeaders
  size := c.currentHeaderSize
  listSize := c.maxInboundHeaderListSize
  count := c.maxInboundHeaderCount
  published := c.events.filterMap Event.headers

/-- A frame that completes a header block. -/
def Frame.completesBlock (frame : Frame) : Bool :=
  match frame.payload with
  | .headers _ => true
  | .pushPromise _ => true
  | _ => false

/-- The callbacks that collect header blocks. -/
def Callback.collects : Callback → Bool
  | .beginHeaders => true
  | .header _ _ _ => true
  | .frameReceived frame => frame.completesBlock
  | _ => false

/-- The size a field counts for. -/
def Header.size (field : Header) : Nat := field.name.length + field.value.length + 32

/-- The size of a block. -/
def blockSize (fields : List Header) : Nat := (fields.map Header.size).sum

@[simp] theorem blockSize_nil : blockSize [] = 0 := rfl

@[simp] theorem blockSize_append (fields : List Header) (field : Header) :
    blockSize (fields ++ [field]) = blockSize fields + field.size := by
  simp [blockSize]

/-! ## What leaves it alone -/

/-- A computation leaves the collected block alone. -/
abbrev KeepsBlock {α : Type} (x : M α) : Prop := Keeps (fun w : World => w.conn.collected) x

section Keeps

theorem keepsBlock_conn : KeepsBlock conn := keeps_bind keeps_get fun _ => keeps_pure _

theorem keepsBlock_host : KeepsBlock host := keeps_bind keeps_get fun _ => keeps_pure _

theorem keepsBlock_update {f : Connection → Connection}
    (hf : ∀ c, (f c).collected = c.collected) : KeepsBlock (update f) :=
  keeps_modify fun w => hf w.conn

theorem keepsBlock_askOn (session : Option SessionId) (q : EngineCall) :
    KeepsBlock (askOn session q) :=
  keeps_bind (keeps_modify fun _ => rfl) fun _ => keeps_bind keeps_read fun _ => keeps_pure _

theorem keepsBlock_ask (q : EngineCall) : KeepsBlock (ask q) :=
  keeps_bind keepsBlock_conn fun _ => keepsBlock_askOn _ _

theorem keepsBlock_raiseIf (p : Prop) [Decidable p] (error : PyError) :
    KeepsBlock (raiseIf p error) :=
  keeps_ite (fun _ => keeps_raise _) fun _ => keeps_pure _

theorem keepsBlock_allocate (a : Alloc) : KeepsBlock (allocate a) :=
  keeps_bind keeps_read fun _ => keepsBlock_raiseIf _ _

theorem keepsBlock_publish {event : Event} (h : event.headers = none) :
    KeepsBlock (publish event) := by
  refine keeps_bind (keepsBlock_allocate _) fun _ => keepsBlock_update fun c => ?_
  simp [Connection.collected, h]

theorem keepsBlock_bodyOf (streamId : StreamId) : KeepsBlock (bodyOf streamId) := by
  refine keeps_bind keepsBlock_conn fun c => ?_
  split
  · exact keeps_pure _
  · exact keeps_raise _

theorem keepsBlock_setBody (streamId : StreamId) (body : BodySource) :
    KeepsBlock (setBody streamId body) := keepsBlock_update fun _ => rfl

theorem keepsBlock_callbackFailed (error : PyError) : KeepsBlock (callbackFailed error) :=
  keeps_bind (keepsBlock_update fun _ => rfl) fun _ => keeps_pure _

/-! The outbound callbacks. -/

theorem keepsBlock_reserveOutput (length : Nat) : KeepsBlock (reserveOutput length) := by
  have hresize (target : Nat) : KeepsBlock (resizeOutput target) :=
    keeps_bind keeps_read fun _ => keeps_ite (fun _ => keepsBlock_update fun _ => rfl) fun _ =>
      keeps_bind (keepsBlock_update fun _ => rfl) fun _ => keeps_raise _
  refine keeps_bind keepsBlock_conn fun c => keeps_bind keepsBlock_host fun h =>
    keeps_bind (keepsBlock_raiseIf _ _) fun _ => ?_
  dsimp only
  split
  · exact keeps_bind (hresize _) fun _ =>
      keeps_bind (keepsBlock_update fun _ => rfl) fun _ => keeps_pure _
  · exact keeps_bind (keepsBlock_update fun _ => rfl) fun _ => keeps_pure _

theorem keepsBlock_writeOutput (offset : Nat) (data : Bytes) :
    KeepsBlock (writeOutput offset data) := keepsBlock_update fun _ => rfl

theorem keepsBlock_collectOutput (data : Bytes) : KeepsBlock (collectOutput data) := by
  refine keeps_bind keepsBlock_conn fun c => keeps_ite (fun _ => keeps_pure _) fun _ =>
    keeps_attempt ?_ keepsBlock_callbackFailed
  exact keeps_bind (keepsBlock_reserveOutput _) fun _ =>
    keeps_bind (keepsBlock_writeOutput _ _) fun _ =>
      keeps_bind (keepsBlock_update fun _ => rfl) fun _ => keeps_pure _

theorem keepsBlock_copyBody (streamId : StreamId) (body : BodySource) (length : Nat) :
    KeepsBlock (copyBody streamId body length) :=
  keeps_bind keepsBlock_host fun _ => keeps_bind keepsBlock_conn fun _ =>
    keeps_bind (keepsBlock_update fun _ => rfl) fun _ =>
    keeps_bind (keepsBlock_setBody _ _) fun _ => keeps_bind (keeps_lift _) fun _ =>
      keeps_bind (keepsBlock_setBody _ _) fun _ => keeps_pure _

theorem keepsBlock_sendBody (streamId : StreamId) (padlen : Nat) (frameHeader : FrameHeader)
    (length : Nat) : KeepsBlock (sendBody streamId padlen frameHeader length) := by
  refine keeps_attempt ?_ keepsBlock_callbackFailed
  refine keeps_bind keepsBlock_conn fun c => keeps_bind (keepsBlock_raiseIf _ _) fun _ =>
    keeps_bind (keepsBlock_bodyOf _) fun body => keeps_bind keepsBlock_host fun h =>
    keeps_bind (keepsBlock_raiseIf _ _) fun _ => ?_
  exact keeps_bind (keepsBlock_reserveOutput _) fun _ =>
    keeps_bind (keepsBlock_writeOutput _ _) fun _ =>
    keeps_bind (keepsBlock_copyBody _ _ _) fun _ =>
    keeps_bind (keepsBlock_writeOutput _ _) fun _ =>
    keeps_bind (keepsBlock_raiseIf _ _) fun _ =>
    keeps_bind (keepsBlock_update fun _ => rfl) fun _ => keeps_pure _

theorem keepsBlock_dataFrameLength (streamId : StreamId) (frameSize : Nat) :
    KeepsBlock (dataFrameLength streamId frameSize) := by
  refine keeps_bind keepsBlock_conn fun c => ?_
  dsimp only
  split <;> exact keeps_pure _

theorem keepsBlock_finishRead (session : Option SessionId) (streamId : StreamId) (reply : Reply)
    (complete : Bool) : KeepsBlock (finishRead session streamId reply complete) := by
  refine keeps_bind (keepsBlock_bodyOf _) fun body => keeps_ite (fun _ => ?_) fun _ =>
    keeps_ite (fun _ => keeps_pure _) fun _ =>
      keeps_bind (keepsBlock_setBody _ _) fun _ => keeps_pure _
  split
  · exact keeps_pure _
  · exact keeps_bind (keepsBlock_allocate _) fun _ => keeps_bind (keepsBlock_askOn _ _) fun _ =>
      keeps_bind keepsBlock_host fun _ => keeps_bind (keepsBlock_raiseIf _ _) fun _ =>
      keeps_bind (keepsBlock_setBody _ _) fun _ => keeps_pure _

theorem keepsBlock_readBody (session : Option SessionId) (streamId : StreamId) (length : Nat) :
    KeepsBlock (readBody session streamId length) := by
  have hprepare : KeepsBlock (prepareBody session streamId length) := by
    refine keeps_bind keepsBlock_conn fun c => keeps_bind (keepsBlock_bodyOf _) fun body => ?_
    exact keeps_ite (fun _ => keepsBlock_finishRead _ _ _ _) fun _ =>
      keeps_bind (keepsBlock_copyBody _ _ _) fun _ => keeps_bind (keepsBlock_bodyOf _) fun _ =>
        keepsBlock_finishRead _ _ _ _
  exact keeps_bind keepsBlock_conn fun c => keeps_ite (fun _ => keeps_pure _) fun _ =>
    keeps_attempt hprepare fun _ => keeps_bind (keepsBlock_callbackFailed _) fun _ => keeps_pure _

/-! The inbound callbacks, apart from those that collect. -/

theorem keepsBlock_discardDataPayload : KeepsBlock discardDataPayload := by
  refine keeps_bind keepsBlock_conn fun c => keeps_bind (keepsBlock_update fun _ => rfl) fun _ => ?_
  exact keeps_ite (fun _ => keeps_bind (keepsBlock_ask _) fun _ =>
    keeps_bind keepsBlock_host fun _ => keepsBlock_raiseIf _ _) fun _ => keeps_pure _

theorem keepsBlock_beginFrame (isData : Bool) (streamId : StreamId) (length : Nat) :
    KeepsBlock (beginFrame isData streamId length) := by
  refine keeps_ite (fun _ => keeps_pure _) fun _ => keeps_attempt ?_ keepsBlock_callbackFailed
  exact keeps_bind keepsBlock_discardDataPayload fun _ =>
    keeps_bind (keepsBlock_allocate _) fun _ =>
    keeps_bind (keepsBlock_update fun _ => rfl) fun _ => keeps_pure _

theorem keepsBlock_dataChunk (streamId : StreamId) (data : Bytes) :
    KeepsBlock (dataChunk streamId data) := by
  refine keeps_attempt (keeps_bind keepsBlock_conn fun c => ?_) keepsBlock_callbackFailed
  split
  · exact keeps_raise _
  · exact keeps_bind (keepsBlock_raiseIf _ _) fun _ =>
      keeps_bind (keepsBlock_update fun _ => rfl) fun _ => keeps_pure _

theorem keepsBlock_rememberGoaway (errorCode : Nat) (opaqueData : Bytes) :
    KeepsBlock (rememberGoaway errorCode opaqueData) :=
  keeps_bind (keepsBlock_update fun _ => rfl) fun _ => keeps_bind (keepsBlock_allocate _) fun _ =>
    keepsBlock_update fun _ => rfl

theorem keepsBlock_dataFrameReceived (frame : Frame) : KeepsBlock (dataFrameReceived frame) := by
  have htake : KeepsBlock takePayload := by
    refine keeps_bind keepsBlock_conn fun c => keeps_bind (keepsBlock_update fun _ => rfl) fun _ =>
      ?_
    split
    · exact keeps_pure _
    · refine keeps_ite (fun _ => keeps_pure _) fun _ => ?_
      dsimp only
      split
      · exact keeps_bind (keepsBlock_allocate _) fun _ => keeps_pure _
      · exact keeps_pure _
  refine keeps_bind htake fun payload => keeps_bind keepsBlock_conn fun c => ?_
  dsimp only
  split
  · exact keeps_bind (keepsBlock_update fun _ => rfl) fun _ => keepsBlock_publish rfl
  · exact keepsBlock_publish rfl

theorem keepsBlock_originReceived (origins : List Bytes) :
    KeepsBlock (originReceived origins) := by
  refine keeps_bind ?_ fun _ => keepsBlock_publish rfl
  induction origins with
  | nil => exact keeps_pure _
  | cons origin origins ih => exact keeps_bind (keepsBlock_allocate _) fun _ => ih

theorem keepsBlock_dispatchFrame {frame : Frame} (h : frame.completesBlock = false) :
    KeepsBlock (dispatchFrame frame) := by
  unfold dispatchFrame
  unfold Frame.completesBlock at h
  cases hp : frame.payload with
  | headers category => simp [hp] at h
  | pushPromise promisedStreamId => simp [hp] at h
  | data => exact keepsBlock_dataFrameReceived frame
  | settings entries =>
    exact keeps_ite (fun _ => keepsBlock_publish rfl) fun _ => keepsBlock_publish rfl
  | rstStream errorCode => exact keepsBlock_publish rfl
  | ping opaqueData =>
    exact keeps_bind (keepsBlock_allocate _) fun _ =>
      keeps_ite (fun _ => keepsBlock_publish rfl) fun _ => keepsBlock_publish rfl
  | windowUpdate increment => exact keepsBlock_publish rfl
  | goaway lastStreamId errorCode opaqueData =>
    exact keeps_bind (keepsBlock_rememberGoaway _ _) fun _ => keepsBlock_publish rfl
  | altsvc origin fieldValue =>
    exact keeps_bind (keepsBlock_allocate _) fun _ => keeps_bind (keepsBlock_allocate _) fun _ =>
      keepsBlock_publish rfl
  | origin origins => exact keepsBlock_originReceived origins
  | priorityUpdate streamId fieldValue =>
    exact keeps_bind (keepsBlock_allocate _) fun _ => keepsBlock_publish rfl
  | other type => exact keeps_pure _

/-! The lifecycle callbacks. -/

theorem keepsBlock_streamClosed (streamId : StreamId) (errorCode : Nat) :
    KeepsBlock (streamClosed streamId errorCode) := by
  refine keeps_attempt ?_ keepsBlock_callbackFailed
  refine keeps_bind keepsBlock_host fun h => keeps_bind keepsBlock_conn fun c => ?_
  dsimp only
  refine keeps_bind (keepsBlock_update fun _ => rfl) fun _ => keeps_bind keepsBlock_conn fun c => ?_
  have hrest : KeepsBlock (do
      update fun c => { c with
        responses := c.responses.erase streamId
        deferredResets := c.deferredResets.erase streamId }
      let localError := (← conn).localStreamErrors.lookup streamId
      update fun c => { c with localStreamErrors := c.localStreamErrors.erase streamId }
      publish (.streamClosed streamId errorCode localError)
      return 0 : M Int) :=
    keeps_bind (keepsBlock_update fun _ => rfl) fun _ => keeps_bind keepsBlock_conn fun c =>
      keeps_bind (keepsBlock_update fun _ => rfl) fun _ =>
        keeps_bind (keepsBlock_publish rfl) fun _ =>
      keeps_pure _
  split
  · exact keeps_bind keepsBlock_discardDataPayload fun _ => hrest
  · exact hrest

theorem keepsBlock_frameSent (session : Option SessionId) (frame : Frame) :
    KeepsBlock (frameSent session frame) := by
  refine keeps_bind keepsBlock_conn fun c => keeps_ite (fun _ => ?_) fun _ => ?_
  · refine keeps_attempt ?_ keepsBlock_callbackFailed
    refine keeps_bind keepsBlock_conn fun c => ?_
    dsimp only
    refine keeps_bind (keepsBlock_update fun _ => rfl) fun _ => ?_
    split
    · exact keeps_pure _
    · refine keeps_bind (keepsBlock_askOn _ _) fun _ => keeps_ite (fun _ => ?_) fun _ =>
        keeps_pure _
      exact keeps_bind (keepsBlock_askOn _ _) fun _ => keeps_bind keepsBlock_host fun _ =>
        keeps_bind (keepsBlock_raiseIf _ _) fun _ => keeps_pure _
  · split
    · exact keeps_attempt (keeps_bind (keepsBlock_rememberGoaway _ _) fun _ => keeps_pure _)
        keepsBlock_callbackFailed
    · exact keeps_pure _

theorem keepsBlock_frameNotSent (session : Option SessionId) (frame : Frame) (errorCode : Int) :
    KeepsBlock (frameNotSent session frame errorCode) := by
  refine keeps_attempt ?_ keepsBlock_callbackFailed
  unfold recordFailure
  split
  · exact keeps_pure _
  · refine keeps_ite (fun _ => keeps_pure _) fun _ => keeps_bind (keepsBlock_allocate _) fun _ =>
      keeps_bind keepsBlock_host fun _ => ?_
    dsimp only
    refine keeps_bind (keepsBlock_update fun _ => rfl) fun _ => keeps_ite (fun _ => ?_) fun _ =>
      keeps_pure _
    exact keeps_bind (keepsBlock_askOn _ _) fun _ => keeps_bind keepsBlock_host fun _ =>
      keeps_bind (keepsBlock_raiseIf _ _) fun _ => keeps_pure _

/-- **Only the callbacks that collect touch the collected block**, whatever
becomes of the others. -/
theorem Callback.keeps (session : Option SessionId) {cb : Callback} (h : cb.collects = false) :
    KeepsBlock (cb.body session) := by
  cases cb with
  | collectOutput data => exact keeps_bind (keepsBlock_collectOutput _) fun _ => keeps_pure _
  | sendBody streamId padlen frameHeader length =>
    exact keeps_bind (keepsBlock_sendBody _ _ _ _) fun _ => keeps_pure _
  | dataFrameLength streamId sessionWindow streamWindow frameSize =>
    exact keeps_bind (keepsBlock_dataFrameLength _ _) fun _ => keeps_pure _
  | readBody streamId length => exact keepsBlock_readBody _ _ _
  | beginFrame isData streamId length =>
    exact keeps_bind (keepsBlock_beginFrame _ _ _) fun _ => keeps_pure _
  | beginHeaders => simp [Callback.collects] at h
  | header name value noIndex => simp [Callback.collects] at h
  | invalidHeader => exact keeps_bind (keeps_pure _) fun _ => keeps_pure _
  | dataChunk streamId data => exact keeps_bind (keepsBlock_dataChunk _ _) fun _ => keeps_pure _
  | frameReceived frame =>
    refine keeps_bind (keeps_attempt ?_ keepsBlock_callbackFailed) fun _ => keeps_pure _
    exact keeps_bind (keepsBlock_dispatchFrame h) fun _ => keeps_pure _
  | streamClosed streamId errorCode =>
    exact keeps_bind (keepsBlock_streamClosed _ _) fun _ => keeps_pure _
  | frameSent frame => exact keeps_bind (keepsBlock_frameSent _ _) fun _ => keeps_pure _
  | frameNotSent frame errorCode =>
    exact keeps_bind (keepsBlock_frameNotSent _ _ _) fun _ => keeps_pure _

end Keeps

/-! ## What the callbacks that collect do -/

/-- The event by which a completed block is published. -/
def Frame.blockEvent (frame : Frame) (fields : List Header) : Event :=
  match frame.payload with
  | .headers category => headersEvent frame category fields
  | .pushPromise promisedStreamId =>
    .pushedStreamReceived frame.streamId promisedStreamId fields
  | _ => .pushedStreamReceived frame.streamId 0 fields

/-- Whatever its kind, the event carries the whole block. -/
theorem Frame.headers_blockEvent (frame : Frame) (fields : List Header) :
    (frame.blockEvent fields).headers = some fields := by
  unfold Frame.blockEvent
  split
  · next category _ =>
    unfold headersEvent
    cases category with
    | request => rfl
    | _ =>
      dsimp only
      split
      · rfl
      · split <;> rfl
  · rfl
  · rfl

/-- **A field that does not fit**: it exceeds the size limit, or the block
already holds as many fields as are allowed. -/
def Connection.Denies (c : Connection) (fields : List Header) (field : Header) : Prop :=
  c.maxInboundHeaderListSize < blockSize fields + field.size ∨
    c.maxInboundHeaderCount ≤ fields.length

instance (c : Connection) (fields : List Header) (field : Header) :
    Decidable (c.Denies fields field) := inferInstanceAs (Decidable (_ ∨ _))

/-- The connection after the running size was increased. -/
def Connection.sized (c : Connection) (field : Header) : Connection :=
  { c with currentHeaderSize := c.currentHeaderSize + field.size }

section Collecting

variable (env : Env) (w : World)

/-- `_header` before the exception it raises is deferred: the size is checked
before the count, and both before anything is copied. -/
theorem run_addField (name value : Bytes) (noIndex : Bool) :
    (addField name value noIndex).run env w
      = if w.conn.maxInboundHeaderListSize
            < w.conn.currentHeaderSize + (name.length + value.length + 32) then
          (.error (.ngh2 .denialOfService "received header list exceeds configured size"),
            { w with conn := w.conn.sized ⟨name, value, noIndex⟩ })
        else if w.conn.maxInboundHeaderCount ≤ w.conn.currentHeaders.length then
          (.error (.ngh2 .denialOfService "received header list exceeds configured count"),
            { w with conn := w.conn.sized ⟨name, value, noIndex⟩ })
        else if env.alloc (.bytes name.length) = true ∧ env.alloc (.bytes value.length) = true ∧
            env.alloc .object = true then
          (.ok 0, { w with conn := { w.conn.sized ⟨name, value, noIndex⟩ with
            currentHeaders := w.conn.currentHeaders ++ [⟨name, value, noIndex⟩] } })
        else (.error (.memoryError ""),
          { w with conn := w.conn.sized ⟨name, value, noIndex⟩ }) := by
  unfold addField
  rw [run_bind, run_update]
  dsimp only
  rw [run_bind, run_conn]
  dsimp only
  rw [run_bind, run_raiseIf]
  by_cases hsize : w.conn.maxInboundHeaderListSize
      < w.conn.currentHeaderSize + (name.length + value.length + 32)
  · rw [if_pos hsize, if_pos hsize]
    rfl
  · rw [if_neg hsize, if_neg hsize]
    dsimp only
    rw [run_bind, run_raiseIf]
    by_cases hcount : w.conn.maxInboundHeaderCount ≤ w.conn.currentHeaders.length
    · rw [if_pos hcount, if_pos hcount]
      rfl
    · rw [if_neg hcount, if_neg hcount]
      dsimp only
      simp only [run_bind, run_allocate]
      cases env.alloc (.bytes name.length) <;> cases env.alloc (.bytes value.length) <;>
        cases env.alloc .object <;> rfl

/-- A header block is published whole, and then replaced by an empty one. -/
theorem run_publishBlock (event : Event) :
    (publishBlock event).run env w
      = if env.alloc .object then
          if env.alloc .list then
            (.ok (), { w with conn := { w.conn with
              events := w.conn.events ++ [event], currentHeaders := [] } })
          else (.error (.memoryError ""),
            { w with conn := { w.conn with events := w.conn.events ++ [event] } })
        else (.error (.memoryError ""), w) := by
  unfold publishBlock
  rw [run_bind, run_publish]
  cases env.alloc .object with
  | false => rfl
  | true =>
    rw [if_pos rfl]
    dsimp only
    rw [run_bind, run_allocate]
    cases env.alloc .list <;> rfl

/-- A frame that completes a header block publishes its event. -/
theorem run_dispatchFrame_completes {frame : Frame} (h : frame.completesBlock = true) :
    (dispatchFrame frame).run env w
      = (publishBlock (frame.blockEvent w.conn.currentHeaders)).run env w := by
  unfold dispatchFrame Frame.blockEvent
  unfold Frame.completesBlock at h
  cases hp : frame.payload with
  | headers category =>
    dsimp only
    unfold headersReceived
    rw [run_bind, run_conn]
  | pushPromise promisedStreamId =>
    dsimp only
    unfold pushPromiseReceived
    rw [run_bind, run_conn]
  | _ => simp [hp] at h

end Collecting

/-! ## One step -/

section Steps

variable {m m' : Machine} {o : Outcome} {env : Env}

/-- A step of another callback leaves the collected block alone. -/
theorem Machine.collected_eq {cb : Callback} (h : cb.collects = false)
    (htaken : m.step (.callback cb env) = some (o, m')) :
    m'.conn.collected = m.conn.collected := by
  obtain ⟨d, session, -, hafter⟩ := Machine.callback_taken htaken
  have hconn := congrArg (fun p : Outcome × Machine => p.2.conn) hafter
  dsimp only at hconn
  rw [Machine.afterCallback_conn] at hconn
  rw [← hconn]
  exact (Callback.keeps session h).eq env m.world

/-- A step of `_begin_headers` empties the block and its size, or changes
nothing but the deferred exception. -/
theorem Machine.begun (htaken : m.step (.callback .beginHeaders env) = some (o, m')) :
    m'.conn = { m.conn with currentHeaders := [], currentHeaderSize := 0 } ∨
      ∃ e, m'.conn = { m.conn with callbackError := some e } := by
  obtain ⟨d, session, -, hafter⟩ := Machine.callback_taken htaken
  have hconn := congrArg (fun p : Outcome × Machine => p.2.conn) hafter
  dsimp only at hconn
  rw [Machine.afterCallback_conn, run_body_eq_deferring, Callback.tried] at hconn
  unfold startBlock at hconn
  rw [run_bind, run_bind, run_allocate] at hconn
  rw [← hconn]
  cases env.alloc .list with
  | true => exact .inl rfl
  | false => exact .inr ⟨_, rfl⟩

/-- **A field is added or denied.** It is added where it exceeds neither limit;
where it is not, the block is what it was. -/
theorem Machine.fielded {name value : Bytes} {noIndex : Bool}
    (htaken : m.step (.callback (.header name value noIndex) env) = some (o, m')) :
    (m.conn.currentHeaderSize + (name.length + value.length + 32)
        ≤ m.conn.maxInboundHeaderListSize ∧
      m.conn.currentHeaders.length < m.conn.maxInboundHeaderCount ∧
      m'.conn = { m.conn.sized ⟨name, value, noIndex⟩ with
        currentHeaders := m.conn.currentHeaders ++ [⟨name, value, noIndex⟩] }) ∨
    ∃ e, m'.conn = { m.conn.sized ⟨name, value, noIndex⟩ with callbackError := some e } := by
  obtain ⟨d, session, -, hafter⟩ := Machine.callback_taken htaken
  have hconn := congrArg (fun p : Outcome × Machine => p.2.conn) hafter
  dsimp only at hconn
  rw [Machine.afterCallback_conn, run_body_eq_deferring, Callback.tried, run_bind,
    run_addField] at hconn
  rw [← hconn]
  split
  · next hlist hsize =>
    split at hsize
    · exact absurd hsize (by simp)
    · next hlist =>
      split at hsize
      · exact absurd hsize (by simp)
      · next hcount =>
        split at hsize
        · obtain ⟨-, rfl⟩ := Prod.mk.inj hsize
          exact .inl ⟨not_lt.mp hlist, not_le.mp hcount, rfl⟩
        · exact absurd hsize (by simp)
  · next e w hraised =>
    refine .inr ⟨e, ?_⟩
    split at hraised
    · obtain ⟨-, rfl⟩ := Prod.mk.inj hraised
      rfl
    · split at hraised
      · obtain ⟨-, rfl⟩ := Prod.mk.inj hraised
        rfl
      · split at hraised
        · exact absurd hraised (by simp)
        · obtain ⟨-, rfl⟩ := Prod.mk.inj hraised
          rfl

/-- **A completed block is published** where its event finds memory, and nothing
is changed but the deferred exception where it does not. The event stays where
the empty list finds none. -/
theorem Machine.completed {frame : Frame} (hc : frame.completesBlock = true)
    (htaken : m.step (.callback (.frameReceived frame) env) = some (o, m')) :
    (env.alloc .object = true ∧ o.response = .replied { code := 0 } ∧
      m'.conn = { m.conn with
        events := m.conn.events ++ [frame.blockEvent m.conn.currentHeaders]
        currentHeaders := [] }) ∨
    (env.alloc .object = true ∧ o.response = .replied { code := errCallbackFailure } ∧
      ∃ e, m'.conn = { m.conn with
        events := m.conn.events ++ [frame.blockEvent m.conn.currentHeaders]
        callbackError := some e }) ∨
    (env.alloc .object = false ∧ o.response = .replied { code := errCallbackFailure } ∧
      ∃ e, m'.conn = { m.conn with callbackError := some e }) := by
  obtain ⟨d, session, -, hafter⟩ := Machine.callback_taken htaken
  rw [run_body_eq_deferring, Callback.tried, run_bind, run_dispatchFrame_completes _ _ hc,
    run_publishBlock] at hafter
  have hresponse := congrArg (fun p : Outcome × Machine => p.1.response) hafter
  have hconn := congrArg (fun p : Outcome × Machine => p.2.conn) hafter
  dsimp only at hresponse hconn
  rw [← hresponse, ← hconn]
  cases env.alloc .object with
  | true =>
    cases env.alloc .list with
    | true => exact .inl ⟨rfl, rfl, rfl⟩
    | false => exact .inr (.inl ⟨rfl, rfl, _, rfl⟩)
  | false => exact .inr (.inr ⟨rfl, rfl, _, rfl⟩)

end Steps

/-! ## The retained block is bounded -/

/-- **The retained block is within both limits**, and its size within the
running size. -/
structure Connection.Bounded (c : Connection) : Prop where
  unused : c.initialized = false → c.currentHeaders = []
  running : blockSize c.currentHeaders ≤ c.currentHeaderSize
  listSize : blockSize c.currentHeaders ≤ c.maxInboundHeaderListSize
  count : c.currentHeaders.length ≤ c.maxInboundHeaderCount

/-- An empty block is within any limits. -/
theorem Connection.Bounded.of_nil {c : Connection} (h : c.currentHeaders = []) : c.Bounded :=
  ⟨fun _ => h, by simp [h], by simp [h], by simp [h]⟩

/-- A block that did not change stays within limits that did not change. -/
theorem Connection.Bounded.of_eq {c c' : Connection} (h : c.Bounded)
    (hcollected : c'.collected = c.collected)
    (hinitialized : c'.initialized = false → c.initialized = false) : c'.Bounded := by
  obtain ⟨hfields, hsize, hlist, hcount, -⟩ := Collected.mk.inj hcollected
  refine ⟨fun hi => hfields.trans (h.unused (hinitialized hi)), ?_, ?_, ?_⟩
  · rw [hfields, hsize]
    exact h.running
  · rw [hfields, hlist]
    exact h.listSize
  · rw [hfields, hcount]
    exact h.count

/-- **Every step keeps the retained block within the limits.** -/
theorem Machine.bounded {m m' : Machine} {l : Label} {o : Outcome}
    (htaken : m.step l = some (o, m')) (hidle : m.Idle) (h : m.conn.Bounded) :
    m'.conn.Bounded := by
  have hstep := Machine.stepped htaken
  cases l with
  | request r env =>
    generalize hp : (o, m') = p at hstep
    obtain rfl : m' = p.2 := congrArg Prod.snd hp
    cases hstep with
    | request idle hr =>
      rw [Machine.afterRequest_conn]
      cases hr with
      | failed => exact .of_nil rfl
      | configured uninitialized => exact .of_nil (h.unused uninitialized)
      | installed uninitialized => exact .of_nil (h.unused uninitialized)
      | terminated => exact .of_nil rfl
      | tookEvents => exact ⟨h.unused, h.running, h.listSize, h.count⟩
      | _ => exact h.of_eq rfl id
  | ret result env =>
    generalize hp : (o, m') = p at hstep
    obtain rfl : m' = p.2 := congrArg Prod.snd hp
    cases hstep with
    | ret driven hr =>
      rw [Machine.afterReturn_conn]
      cases hr with
      | failed => exact .of_nil rfl
      | receivedLast => exact .of_nil rfl
      | receivedUnannounced => exact .of_nil rfl
      | sentLast => exact .of_nil rfl
      | sentThenFailed => exact .of_nil rfl
      | _ => exact h.of_eq rfl id
  | callback cb env =>
    have hinitialized : m.conn.initialized = true := by
      by_contra hne
      exact hstep.callback_driven (hidle (by simpa using hne)).1
    have hunused : m'.conn.initialized = false → m.conn.initialized = false := fun hi =>
      absurd (hstep.role hinitialized).1 (by simp [show m'.conn.initialized = false from hi])
    cases hc : cb.collects with
    | false => exact h.of_eq (Machine.collected_eq hc htaken) hunused
    | true =>
      cases cb with
      | beginHeaders =>
        rcases Machine.begun htaken with hconn | ⟨e, hconn⟩
        · exact .of_nil (by rw [hconn])
        · rw [hconn]
          exact ⟨h.unused, h.running, h.listSize, h.count⟩
      | header name value noIndex =>
        rcases Machine.fielded htaken with ⟨hlist, hcount, hconn⟩ | ⟨e, hconn⟩
        · have hsize : blockSize (m.conn.currentHeaders ++ [⟨name, value, noIndex⟩])
              ≤ m.conn.currentHeaderSize + (name.length + value.length + 32) := by
            rw [blockSize_append]
            exact Nat.add_le_add_right h.running _
          refine ⟨fun hi => ?_, ?_, ?_, ?_⟩
          · exact absurd (hunused hi) (by simp [hinitialized])
          · rw [hconn]
            exact hsize
          · rw [hconn]
            exact hsize.trans hlist
          · rw [hconn]
            change (m.conn.currentHeaders ++ [_]).length ≤ m.conn.maxInboundHeaderCount
            rw [List.length_append]
            exact hcount
        · rw [hconn]
          exact ⟨h.unused, h.running.trans (Nat.le_add_right _ _), h.listSize, h.count⟩
      | frameReceived frame =>
        rcases Machine.completed hc htaken with ⟨-, -, hconn⟩ | ⟨-, -, e, hconn⟩ | ⟨-, -, e, hconn⟩
        · exact .of_nil (by rw [hconn])
        · rw [hconn]
          exact ⟨h.unused, h.running, h.listSize, h.count⟩
        · rw [hconn]
          exact ⟨h.unused, h.running, h.listSize, h.count⟩
      | _ => simp [Callback.collects] at hc

/-! ## The block being delivered -/

/-- **The block the engine is delivering**, with its fields so far, oldest
first; a completed block is not being delivered any more. -/
def openBlock : History → Option (List Header)
  | [] => none
  | e :: h =>
    match e.label with
    | .callback .beginHeaders _ => some []
    | .callback (.header name value noIndex) _ =>
      (openBlock h).map (· ++ [⟨name, value, noIndex⟩])
    | .callback (.frameReceived frame) _ =>
      if frame.completesBlock then none else openBlock h
    | _ => openBlock h

/-- Whether input is being processed. -/
def Machine.receiving (m : Machine) : Bool :=
  match m.drive with
  | some (.receive _, _) => true
  | _ => false

/-- **A block is begun before its fields and its end**, and delivered while
input is processed. -/
def BlocksBegun (h : History) (m : Machine) (l : Label) : Prop :=
  match l with
  | .callback .beginHeaders _ => m.receiving = true
  | .callback (.header _ _ _) _ => m.receiving = true ∧ openBlock h ≠ none
  | .callback (.frameReceived frame) _ =>
    frame.completesBlock = true → m.receiving = true ∧ openBlock h ≠ none
  | _ => True

instance (h : History) (m : Machine) (l : Label) : Decidable (BlocksBegun h m l) := by
  unfold BlocksBegun
  split <;> infer_instance

/-- What is assumed of the engine here: a callback that failed ends its drive,
and a block is begun before it has fields or an end. -/
def DeliversBlocks (h : History) (m : Machine) (l : Label) : Prop :=
  FailureEndsDrive h l ∧ BlocksBegun h m l

instance (h : History) (m : Machine) (l : Label) : Decidable (DeliversBlocks h m l) :=
  inferInstanceAs (Decidable (_ ∧ _))

/-- **Input is processed before termination**: `receive_data` does not begin on
a terminating connection, and no callback terminates one. -/
theorem Runs.unterminated {host : Host} {Allowed : History → Machine → Label → Prop}
    {h : History} {m : Machine} (hrun : Runs host Allowed h m) :
    m.receiving = true → m.conn.terminating = false := by
  refine Run.invariant (I := fun _ m => m.receiving = true → m.conn.terminating = false)
    (fun h => absurd h (by simp [Machine.receiving, Machine.fresh])) ?_ hrun
  intro h m l o m' _ ih _ htaken hreceiving
  have hstep := Machine.stepped htaken
  generalize hp : (o, m') = p at hstep
  obtain rfl : m' = p.2 := congrArg Prod.snd hp
  cases hstep with
  | request idle hr =>
    have hno (w : World) : Machine.receiving { m with conn := w.conn } = false := by
      simp [Machine.receiving, idle]
    cases hr with
    | receiving usable => exact usable.2.2
    | upgrading => simp [Machine.receiving, Machine.afterRequest] at hreceiving
    | sending => simp [Machine.receiving, Machine.afterRequest] at hreceiving
    | _ => exact absurd ((hno _).symm.trans hreceiving) (by simp)
  | callback driven hc =>
    have hbefore : m.receiving = true := by
      rw [Machine.receiving, Machine.afterCallback_drive] at hreceiving
      exact hreceiving
    rw [Machine.afterCallback_conn]
    cases hc with
    | failed spoiled => exact spoiled.terminating.trans (ih hbefore)
    | _ => exact ih hbefore
  | ret driven hr =>
    rw [Machine.receiving, Machine.afterReturn_drive] at hreceiving
    exact absurd hreceiving (by simp)

section Runs

variable {host : Host} {h : History} {m : Machine}

/-- **What is retained is what was delivered** of the open block. -/
theorem Runs.openBlock_collected (hrun : Runs host DeliversBlocks h m) :
    m.conn.Sound → m.conn.terminating = false → ∀ b, openBlock h = some b →
      m.conn.currentHeaders = b ∧ m.conn.currentHeaderSize = blockSize b := by
  refine Run.invariant (I := fun h m => m.conn.Sound → m.conn.terminating = false →
    ∀ b, openBlock h = some b →
      m.conn.currentHeaders = b ∧ m.conn.currentHeaderSize = blockSize b)
    (fun _ _ b hb => absurd hb (by simp [openBlock])) ?_ hrun
  intro h m l o m' hprior ih hallowed htaken hsound hterminating
  have hstep := Machine.stepped htaken
  have hbefore := Runs.sound_before (fun ha => ha.1) hprior hallowed hstep hsound
  have ih := ih hbefore (hstep.unterminated hsound hterminating)
  have hsame (hfields : m'.conn.currentHeaders = m.conn.currentHeaders)
      (hsize : m'.conn.currentHeaderSize = m.conn.currentHeaderSize) (b : List Header)
      (hb : openBlock h = some b) :
      m'.conn.currentHeaders = b ∧ m'.conn.currentHeaderSize = blockSize b := by
    rw [hfields, hsize]
    exact ih b hb
  cases l with
  | request r env =>
    generalize hp : (o, m') = p at hstep
    obtain rfl : m' = p.2 := congrArg Prod.snd hp
    clear hp
    cases hstep with
    | request idle hr =>
      rw [Machine.afterRequest_conn] at hsame hterminating hsound ⊢
      cases hr with
      | failed => exact absurd hsound.1 (by simp [World.failed, Connection.invalidate])
      | terminated => exact absurd hterminating (by simp [Connection.discardPendingState])
      | _ => exact hsame rfl rfl
  | ret result env =>
    generalize hp : (o, m') = p at hstep
    obtain rfl : m' = p.2 := congrArg Prod.snd hp
    clear hp
    cases hstep with
    | ret driven hr =>
      rw [Machine.afterReturn_conn] at hsame hterminating hsound ⊢
      cases hr with
      | rejected => exact hsame rfl rfl
      | upgraded => exact hsame rfl rfl
      | received => exact hsame rfl rfl
      | sent => exact hsame rfl rfl
      | failed => exact absurd hsound.1 (by simp [World.failed, Connection.invalidate])
      | sentThenFailed => exact absurd hsound.1 (by simp [World.failed, Connection.invalidate])
      | receivedLast => exact absurd hterminating (by simp [Connection.announced,
          Connection.terminate, Connection.discardPendingState])
      | receivedUnannounced => exact absurd hterminating (by simp [Connection.terminate,
          Connection.discardPendingState])
      | sentLast => exact absurd hterminating (by simp [Connection.outputTaken,
          Connection.announced, Connection.terminate, Connection.discardPendingState])
  | callback cb env =>
    cases hc : cb.collects with
    | false =>
      obtain ⟨hfields, hsize, -, -, -⟩ := Collected.mk.inj (Machine.collected_eq hc htaken)
      cases cb with
      | beginHeaders => simp [Callback.collects] at hc
      | header name value noIndex => simp [Callback.collects] at hc
      | frameReceived frame =>
        have hc : frame.completesBlock = false := hc
        intro b hb
        rw [openBlock] at hb
        dsimp only at hb
        rw [hc, if_neg (by simp)] at hb
        exact hsame hfields hsize b hb
      | _ => exact hsame hfields hsize
    | true =>
      cases cb with
      | beginHeaders =>
        intro b hb
        obtain rfl : [] = b := Option.some_inj.mp hb
        rcases Machine.begun htaken with hconn | ⟨e, hconn⟩
        · rw [hconn]
          exact ⟨rfl, rfl⟩
        · rw [hconn] at hsound
          exact absurd hsound.2 (by simp)
      | header name value noIndex =>
        intro b hb
        obtain ⟨b', hb', rfl⟩ := Option.map_eq_some_iff.mp hb
        obtain ⟨hfields, hsize⟩ := ih b' hb'
        rcases Machine.fielded htaken with ⟨-, -, hconn⟩ | ⟨e, hconn⟩
        · rw [hconn, blockSize_append, ← hsize, ← hfields]
          exact ⟨rfl, rfl⟩
        · rw [hconn] at hsound
          exact absurd hsound.2 (by simp)
      | frameReceived frame =>
        intro b hb
        rw [openBlock] at hb
        dsimp only at hb
        rw [show frame.completesBlock = true from hc, if_pos rfl] at hb
        exact absurd hb (by simp)
      | _ => simp [Callback.collects] at hc

/-- While a callback that collects is made, the block the engine is delivering
is the one that is retained. -/
theorem Runs.openBlock_delivering (hrun : Runs host DeliversBlocks h m) {cb : Callback} {env : Env}
    {o : Outcome} {m' : Machine} (hallowed : DeliversBlocks h m (.callback cb env))
    (htaken : m.step (.callback cb env) = some (o, m')) (hreceiving : m.receiving = true)
    (hopen : openBlock h ≠ none) :
    ∃ b, openBlock h = some b ∧ m.conn.currentHeaders = b ∧
      m.conn.currentHeaderSize = blockSize b := by
  obtain ⟨b, hb⟩ := Option.ne_none_iff_exists'.mp hopen
  have hsound := Runs.sound_of_callback (fun ha => ha.1) hrun hallowed
    (Machine.stepped htaken).callback_driven
  exact ⟨b, hb, Runs.openBlock_collected hrun hsound (Runs.unterminated hrun hreceiving) b hb⟩

/-- The blocks that were completed, oldest first, where their event found
memory. -/
def completedBlocks : History → List (List Header)
  | [] => []
  | e :: h => completedBlocks h ++
    match e.label with
    | .callback (.frameReceived frame) _ =>
      if frame.completesBlock ∧ e.label.env.alloc .object = true then (openBlock h).toList else []
    | _ => []

/-- What a step appends to the blocks among the events. -/
theorem filterMap_emitted_of_published {m m' : Machine} {l : Label} {o : Outcome}
    (hevents : m'.conn.events = m.conn.events ++ emitted ⟨m, l, o, m'⟩)
    (h : m'.conn.collected.published = m.conn.collected.published) :
    (emitted ⟨m, l, o, m'⟩).filterMap Event.headers = [] := by
  have heq : (m.conn.events ++ emitted ⟨m, l, o, m'⟩).filterMap Event.headers
      = m.conn.events.filterMap Event.headers := by
    rw [← hevents]
    exact h
  rw [List.filterMap_append] at heq
  exact List.append_right_eq_self.mp heq

/-- **The blocks that were published are those that were completed**, along
every run. -/
theorem Runs.published_eq (hrun : Runs host DeliversBlocks h m) :
    (eventsOf h).filterMap Event.headers = completedBlocks h := by
  refine Run.invariant (I := fun h _ => (eventsOf h).filterMap Event.headers = completedBlocks h)
    rfl ?_ hrun
  intro h m l o m' hprior ih hallowed htaken
  rw [eventsOf, List.filterMap_append, ih, completedBlocks]
  refine congrArg (completedBlocks h ++ ·) ?_
  have hstep := Machine.stepped htaken
  have hemits := hstep.emits
  cases l with
  | request r env =>
    generalize emitted ⟨m, .request r env, (o, m').1, (o, m').2⟩ = events at hemits
    cases hemits with
    | nothing => rfl
  | ret result env =>
    generalize emitted ⟨m, .ret result env, (o, m').1, (o, m').2⟩ = events at hemits
    cases hemits <;> rfl
  | callback cb env =>
    have hevents : m'.conn.events = m.conn.events ++ emitted ⟨m, .callback cb env, o, m'⟩ := by
      rcases hstep.events_append with ⟨hevents, -⟩ | ⟨hnil, hdelivered⟩
      · exact hevents
      · have hnone : m.conn.events = [] := hdelivered.symm
        rw [emitted, hnone, show m'.conn.events = [] from hnil]
        rfl
    have hquiet (h : m'.conn.collected.published = m.conn.collected.published) :=
      filterMap_emitted_of_published hevents h
    cases hc : cb.collects with
    | false =>
      have hpublished := congrArg Collected.published (Machine.collected_eq hc htaken)
      cases cb with
      | frameReceived frame =>
        have hc : frame.completesBlock = false := hc
        dsimp only
        rw [if_neg (by simp [hc])]
        exact hquiet hpublished
      | _ => exact hquiet hpublished
    | true =>
      cases cb with
      | beginHeaders =>
        refine hquiet ?_
        rcases Machine.begun htaken with hconn | ⟨e, hconn⟩ <;>
          rw [hconn] <;> rfl
      | header name value noIndex =>
        refine hquiet ?_
        rcases Machine.fielded htaken with ⟨-, -, hconn⟩ | ⟨e, hconn⟩ <;>
          rw [hconn] <;> rfl
      | frameReceived frame =>
        have hc : frame.completesBlock = true := hc
        dsimp only
        have hpublished (ha : env.alloc .object = true)
            (hmore : m'.conn.events
              = m.conn.events ++ [frame.blockEvent m.conn.currentHeaders]) :
            (emitted ⟨m, .callback (.frameReceived frame) env, o, m'⟩).filterMap Event.headers
              = if frame.completesBlock ∧ env.alloc .object = true then (openBlock h).toList
                else [] := by
          obtain ⟨hreceiving, hopen⟩ := hallowed.2 hc
          obtain ⟨b, hb, hfields, -⟩ :=
            Runs.openBlock_delivering hprior hallowed htaken hreceiving hopen
          rw [if_pos ⟨hc, ha⟩, hb, ← hfields, emitted, hmore, List.drop_left,
            List.filterMap_cons, Frame.headers_blockEvent]
          rfl
        rcases Machine.completed hc htaken with
          ⟨ha, -, hconn⟩ | ⟨ha, -, e, hconn⟩ | ⟨ha, -, e, hconn⟩
        · exact hpublished ha (by rw [hconn])
        · exact hpublished ha (by rw [hconn])
        · rw [if_neg (by simp [Label.env, ha])]
          exact hquiet (by rw [hconn]; rfl)
      | _ => simp [Callback.collects] at hc

end Runs

/-! ## The theorem -/

/-- What `_header` raises is what adding the field raises. -/
theorem raises_field_iff {e : Entry Machine Label Outcome} {name value : Bytes} {noIndex : Bool}
    {env : Env} (hlabel : e.label = .callback (.header name value noIndex) env)
    (hdriven : e.before.drive ≠ none) :
    (∃ message, Raises e (.ngh2 .denialOfService message)) ↔
      e.before.conn.maxInboundHeaderListSize
          < e.before.conn.currentHeaderSize + (name.length + value.length + 32) ∨
        e.before.conn.maxInboundHeaderCount ≤ e.before.conn.currentHeaders.length := by
  have hrun (session : Option SessionId) :
      (Effect.run ((Callback.header name value noIndex).tried session) env e.before.world).1
        = Except.map (fun code => ({ code } : Reply))
          ((addField name value noIndex).run env e.before.world).1 := by
    rw [Callback.tried, run_bind]
    rcases (addField name value noIndex).run env e.before.world with ⟨_ | _, w⟩ <;> rfl
  rw [run_addField, show e.before.world.conn = e.before.conn from rfl] at hrun
  constructor
  · rintro ⟨message, cb, env', d, session, hlabel', -, htried⟩
    obtain ⟨rfl, rfl⟩ := Label.callback.inj (hlabel.symm.trans hlabel')
    rw [hrun] at htried
    split at htried
    · next hsize => exact .inl hsize
    · split at htried
      · next hcount => exact .inr hcount
      · split at htried <;> simp [Except.map] at htried
  · intro hdenies
    obtain ⟨⟨d, session⟩, hd⟩ := Option.ne_none_iff_exists'.mp hdriven
    by_cases hsize : e.before.conn.maxInboundHeaderListSize
        < e.before.conn.currentHeaderSize + (name.length + value.length + 32)
    · refine ⟨"received header list exceeds configured size", _, env, d, session, hlabel, hd, ?_⟩
      rw [hrun, if_pos hsize]
      rfl
    · refine ⟨"received header list exceeds configured count", _, env, d, session, hlabel, hd, ?_⟩
      rw [hrun, if_neg hsize, if_pos (hdenies.resolve_left hsize)]
      rfl

/-- **Header blocks are bounded and isolated.** Along every run of an engine
that begins a block before it delivers its fields or its end:

* what is retained of a block never exceeds either limit, at no moment;
* a field makes its callback raise `DenialOfServiceError` if and only if the
  fields delivered since the block was begun exceed the size limit with it, or
  are already as many as the count limit;
* the step after is the return of `receive_data`, which raises that error and
  fails the connection;
* a completed block is published by exactly one event, with exactly the fields
  delivered since it was begun, in order, and as they were flagged;
* and no other block is published. -/
theorem header_blocks {host : Host} {h : History} {m : Machine}
    (hrun : Runs host DeliversBlocks h m) :
    (blockSize m.conn.currentHeaders ≤ m.conn.maxInboundHeaderListSize ∧
      m.conn.currentHeaders.length ≤ m.conn.maxInboundHeaderCount) ∧
    (∀ e h', (e :: h') <:+ h → ∀ name value noIndex env,
      e.label = .callback (.header name value noIndex) env →
      ∃ b, openBlock h' = some b ∧
        ((∃ message, Raises e (.ngh2 .denialOfService message)) ↔
          e.before.conn.Denies b ⟨name, value, noIndex⟩)) ∧
    (∀ e' e h', (e' :: e :: h') <:+ h → ∀ message,
      Raises e (.ngh2 .denialOfService message) →
      e'.outcome.response = .raised (.ngh2 .denialOfService message) ∧
        e'.after.conn.failed = true) ∧
    (∀ e h', (e :: h') <:+ h → ∀ frame env, e.label = .callback (.frameReceived frame) env →
      frame.completesBlock = true → e.outcome.response = .replied { code := 0 } →
      ∃ b event, openBlock h' = some b ∧ event.headers = some b ∧ emitted e = [event]) ∧
    (eventsOf h).filterMap Event.headers = completedBlocks h := by
  refine ⟨?_, ?_, ?_, ?_, Runs.published_eq hrun⟩
  · have hbounded : m.conn.Bounded := by
      refine Run.invariant (I := fun _ m => m.conn.Bounded) (.of_nil rfl) ?_ hrun
      intro h m l o m' hprior ih _ htaken
      exact Machine.bounded htaken (Runs.idle hprior) ih
    exact ⟨hbounded.listSize, hbounded.count⟩
  · intro e h' hsuf name value noIndex env hlabel
    obtain ⟨hprior, hallowed, htaken⟩ := hrun.of_suffix hsuf
    rw [hlabel] at hallowed htaken
    obtain ⟨b, hb, hfields, hsize⟩ := Runs.openBlock_delivering hprior hallowed htaken
      hallowed.2.1 hallowed.2.2
    refine ⟨b, hb, ?_⟩
    rw [raises_field_iff hlabel (Machine.stepped htaken).callback_driven, hfields, hsize]
    exact Iff.rfl
  · intro e' e h' hsuf message hraises
    exact (Runs.raised_of_raises (fun ha => ha.1) hrun hsuf hraises).2
  · intro e h' hsuf frame env hlabel hc hresponse
    obtain ⟨hprior, hallowed, htaken⟩ := hrun.of_suffix hsuf
    rw [hlabel] at hallowed htaken
    obtain ⟨b, hb, hfields, -⟩ := Runs.openBlock_delivering hprior hallowed htaken
      (hallowed.2 hc).1 (hallowed.2 hc).2
    rcases Machine.completed hc htaken with ⟨-, -, hconn⟩ | ⟨-, hfailed, -⟩ | ⟨-, hfailed, -⟩
    · refine ⟨b, frame.blockEvent b, hb, frame.headers_blockEvent b, ?_⟩
      rw [emitted, hconn, hfields, List.drop_left]
    · exact absurd (hresponse.symm.trans hfailed) (by simp [errCallbackFailure])
    · exact absurd (hresponse.symm.trans hfailed) (by simp [errCallbackFailure])

/-- A client with room for one field, which receives a response, and then one
field too many. -/
def secondField : List Label := [
  .request (.init .client { maxInboundHeaderCount := 1 }) (.accepting []),
  .request (.initiateConnection []) (.accepting []),
  .request (.receiveData [0]) (.accepting []),
  .callback .beginHeaders (.accepting []),
  .callback (.header [58, 115] [50] true) (.accepting []),
  .callback (.frameReceived { streamId := 1, payload := .headers .response }) (.accepting []),
  .callback .beginHeaders (.accepting []),
  .callback (.header [97] [98] false) (.accepting []),
  .callback (.header [99] [100] false) (.accepting []),
  .ret errCallbackFailure (.accepting [])]

set_option maxRecDepth 4000 in
theorem header_blocks_secondField :
    ∃ c, Run.execute Machine.step DeliversBlocks ([], Machine.fresh {}) secondField = some c ∧
      (eventsOf c.1).filterMap Event.headers = [[⟨[58, 115], [50], true⟩]] ∧
      c.1.head?.map (fun e => e.outcome.response) = some (.raised
        (.ngh2 .denialOfService "received header list exceeds configured count")) := by
  obtain ⟨c, hc, hblocks, hresponse⟩ : ∃ c,
      Run.execute Machine.step DeliversBlocks ([], Machine.fresh {}) secondField = some c ∧
      completedBlocks c.1 = [[⟨[58, 115], [50], true⟩]] ∧
      c.1.head?.map (fun e => e.outcome.response) = some (.raised
        (.ngh2 .denialOfService "received header list exceeds configured count")) :=
    ⟨_, rfl, by decide, by decide⟩
  exact ⟨c, hc, (header_blocks (Run.of_execute .start hc)).2.2.2.2.trans hblocks, hresponse⟩

end Ngh2
