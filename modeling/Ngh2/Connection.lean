import Ngh2.Lib.Effect
import Ngh2.Lib.Wrapping
import Ngh2.Errors

/-!
# The connection object and its state checks

The record of the extension type `Connection`, field for field, together with
the queue of one outbound body (`_BodySource`), and the private methods every
other part of the module goes through: the checks that stand between an
argument conversion and the first engine call (`_require_created`,
`_require_active`, `_require_drivable`, `_require_stream`), the two ways an
engine result becomes an exception (`_raise_native_error`,
`_raise_callback_or_native`), and the three transitions that end something
(`_fail`, `_discard_pending_state`, `_update_terminal_state`).

A method body is an `Effect` on a `World`: the connection, the platform, and
the uses of native sessions made so far. Every engine call is recorded with
the session it was given, which is what lets a later statement say that no
call was ever given a session that was not alive.
-/

namespace Ngh2

/-- An object of the C heap that is filled from its start: its size, and the
part that has been written. What lies beyond is uninitialised. -/
structure Buffer where
  /-- The size of the object. -/
  capacity : Nat
  /-- The bytes written so far, from the start. -/
  written : Bytes := []
  deriving DecidableEq, Repr

/-- `memcpy` to an offset of a buffer: what was written before the offset
stays. -/
def Buffer.memcpy (b : Buffer) (offset : Nat) (data : Bytes) : Buffer :=
  { b with written := b.written.take offset ++ data }

/-- **The queue of an outbound body**, `_BodySource`. A slot whose chunk has
been sent holds `none` until the list is compacted. The counter is a `size_t`,
and is never checked. -/
structure BodySource where
  chunks : List (Option Bytes) := []
  head : Nat := 0
  offset : Nat := 0
  queuedSize : Nat := 0
  ended : Bool := false
  deferred : Bool := false
  trailers : Option (List Header) := none
  deriving DecidableEq, Repr

/-- **The connection**: the fields of the extension type, with the values
`__cinit__` gives them. -/
structure Connection where
  role : Option Role := none
  config : Option Configuration := none
  server : Bool := false
  session : Option SessionId := none
  output : Option Buffer := none
  outputSize : Nat := 0
  outputRemaining : Int := 0
  callbackError : Option PyError := none
  initialized : Bool := false
  active : Bool := false
  failed : Bool := false
  terminating : Bool := false
  closing : Bool := false
  closed : Bool := false
  closeErrorCode : Nat := 0
  closeDebugData : Bytes := []
  localExtensiblePriority : Bool := false
  autoWindowUpdate : Bool := false
  maxSettings : Nat := 0
  maxInboundHeaderListSize : Nat := 0
  maxInboundHeaderCount : Nat := 0
  events : List Event := []
  bodies : Dict BodySource := ∅
  queuedBodySize : Nat := 0
  currentHeaders : List Header := []
  currentHeaderSize : Nat := 0
  maxSendDataFrameSize : Nat := 0
  dataPayload : Option Buffer := none
  dataSize : Nat := 0
  dataStreamId : StreamId := 0
  responses : Finset StreamId := ∅
  unconsumed : Dict Nat := ∅
  localStreamErrors : Dict PyError := ∅
  deferredResets : Dict Nat := ∅

/-- What a method body acts on. -/
structure World where
  /-- The platform and the engine's texts. -/
  host : Host := {}
  /-- The connection. -/
  conn : Connection := {}
  /-- The uses of native sessions made so far, oldest first. -/
  issued : List Issued := []

/-- A method body, or a part of one. -/
abbrev M : Type → Type := Effect PyError Env World

open Effect

/-! ## The primitive actions of a body -/

/-- The connection as it is now. -/
def conn : M Connection := do return (← get).conn

/-- The platform. -/
def host : M Host := do return (← get).host

/-- Assign fields of the connection. -/
def update (f : Connection → Connection) : M Unit :=
  modify fun w => { w with conn := f w.conn }

/-- Record a use of a native session. -/
def note (i : Issued) : M Unit :=
  modify fun w => { w with issued := w.issued ++ [i] }

/-- Call an engine function on a given session. -/
def askOn (session : Option SessionId) (q : EngineCall) : M Int := do
  note (.call session q)
  return (← read).reply q

/-- Call an engine function on the connection's own session. -/
def ask (q : EngineCall) : M Int := do
  askOn (← conn).session q

/-- `if ...: raise ...`. -/
def raiseIf (p : Prop) [Decidable p] (error : PyError) : M Unit :=
  if p then raise error else pure ()

/-- An allocation: it succeeds, or raises `MemoryError`. -/
def allocate (a : Alloc) : M Unit := do
  raiseIf ((← read).alloc a = false) (.memoryError "")

/-- `self._events.append(...)`: the event object is created first. -/
def publish (event : Event) : M Unit := do
  allocate .object
  update fun c => { c with events := c.events ++ [event] }

/-- `self._bodies[stream_id]`, which raises `KeyError` for a missing key. -/
def bodyOf (streamId : StreamId) : M BodySource := do
  match (← conn).bodies.lookup streamId with
  | some body => return body
  | none => raise (.keyError streamId)

/-- The body of a stream after its object has been assigned to. -/
def setBody (streamId : StreamId) (body : BodySource) : M Unit :=
  update fun c => { c with bodies := c.bodies.insert streamId body }

/-- `_callback_failed`: defer the exception until control returns across the C
boundary, and tell the engine that the callback failed. -/
def callbackFailed (error : PyError) : M Int := do
  update fun c => { c with callbackError := some error }
  return Nghttp2.errCallbackFailure

section Run

variable (env : Env) (w : World)

@[simp] theorem run_conn : conn.run env w = (.ok w.conn, w) := rfl

@[simp] theorem run_host : host.run env w = (.ok w.host, w) := rfl

@[simp] theorem run_update (f : Connection → Connection) :
    (update f).run env w = (.ok (), { w with conn := f w.conn }) := rfl

@[simp] theorem run_note (i : Issued) :
    (note i).run env w = (.ok (), { w with issued := w.issued ++ [i] }) := rfl

@[simp] theorem run_askOn (session : Option SessionId) (q : EngineCall) :
    (askOn session q).run env w
      = (.ok (env.reply q), { w with issued := w.issued ++ [.call session q] }) := rfl

@[simp] theorem run_ask (q : EngineCall) :
    (ask q).run env w
      = (.ok (env.reply q), { w with issued := w.issued ++ [.call w.conn.session q] }) := rfl

@[simp] theorem run_raiseIf (p : Prop) [Decidable p] (error : PyError) :
    (raiseIf p error).run env w = (if p then .error error else .ok (), w) := by
  unfold raiseIf
  split <;> rfl

@[simp] theorem run_allocate (a : Alloc) :
    (allocate a).run env w
      = (if env.alloc a then .ok () else .error (.memoryError ""), w) := by
  unfold allocate
  cases h : env.alloc a <;> simp [h]

@[simp] theorem run_publish (event : Event) :
    (publish event).run env w
      = if env.alloc .object then
          (.ok (), { w with conn := { w.conn with events := w.conn.events ++ [event] } })
        else (.error (.memoryError ""), w) := by
  unfold publish
  by_cases h : env.alloc .object = true <;> simp [h]

theorem run_bodyOf {streamId : StreamId} {body : BodySource}
    (h : w.conn.bodies.lookup streamId = some body) :
    (bodyOf streamId).run env w = (.ok body, w) := by
  simp [bodyOf, h]

theorem run_bodyOf_none {streamId : StreamId} (h : w.conn.bodies.lookup streamId = none) :
    (bodyOf streamId).run env w = (.error (.keyError streamId), w) := by
  simp [bodyOf, h]

@[simp] theorem run_setBody (streamId : StreamId) (body : BodySource) :
    (setBody streamId body).run env w
      = (.ok (), { w with
          conn := { w.conn with bodies := w.conn.bodies.insert streamId body } }) := rfl

@[simp] theorem run_callbackFailed (error : PyError) :
    (callbackFailed error).run env w
      = (.ok Nghttp2.errCallbackFailure,
          { w with conn := { w.conn with callbackError := some error } }) := rfl

end Run

/-! ## Ending things -/

namespace Connection

/-- `_discard_pending_state`: release the protocol state that can no longer
progress. -/
def discardPendingState (c : Connection) : Connection :=
  { c with
    bodies := ∅
    queuedBodySize := 0
    currentHeaders := []
    currentHeaderSize := 0
    dataPayload := none
    dataSize := 0
    responses := ∅
    unconsumed := ∅
    localStreamErrors := ∅
    deferredResets := ∅ }

/-- The assignments of `_fail`, once the session has been deleted. -/
def invalidate (c : Connection) : Connection :=
  { c.discardPendingState with
    session := none
    output := none
    outputRemaining := 0
    callbackError := none
    failed := true
    active := false
    terminating := false
    closing := false
    closed := true }

/-- What `_update_terminal_state` assigns before it publishes the event. -/
def terminate (c : Connection) : Connection :=
  { ({ c with terminating := true } : Connection).discardPendingState with closed := true }

/-- **The connection accepts work**: what `_require_active` asks. -/
def Usable (c : Connection) : Prop :=
  c.failed = false ∧ c.active = true ∧ c.terminating = false

instance (c : Connection) : Decidable c.Usable := inferInstanceAs (Decidable (_ ∧ _ ∧ _))

end Connection

/-- `_fail`: release what the connection owns and invalidate it for good. -/
def fail : M Unit := do
  match (← conn).session with
  | some session => note (.deleted session)
  | none => pure ()
  update Connection.invalidate

/-- `_update_terminal_state`: stop accepting work once the engine wants no
I/O. -/
def updateTerminalState : M Unit := do
  let c ← conn
  if c.active && !c.closed then
    if (← ask .sessionWantRead) = 0 then
      if (← ask .sessionWantWrite) = 0 then
        update Connection.terminate
        publish (.connectionClosed c.closeErrorCode c.closeDebugData)

/-! ## Checks -/

/-- `_require_created`: a usable connection that has not been initiated. -/
def requireCreated : M Unit := do
  let c ← conn
  raiseIf (c.initialized = false) (.ngh2 .connectionState "Connection is not initialized")
  raiseIf c.failed (.ngh2 .connectionState "Connection is no longer usable")
  raiseIf c.active (.ngh2 .connectionState "Connection is already initiated")

/-- `_require_drivable`: an initiated session that may still expose final
output. -/
def requireDrivable : M Unit := do
  let c ← conn
  raiseIf c.failed (.ngh2 .connectionState "Connection is no longer usable")
  raiseIf (c.active = false) (.ngh2 .connectionState "Connection is not initiated")

/-- `_require_active`. -/
def requireActive : M Unit := do
  requireDrivable
  raiseIf (← conn).terminating (.ngh2 .connectionState "Connection is terminating")

/-- `_require_stream`: a stream the engine still tracks. -/
def requireStream (streamId : StreamId) : M Unit := do
  raiseIf ((← ask (.sessionGetStreamLocalClose streamId)) < 0)
    (.ngh2 .streamUnavailable "stream does not exist")

/-! ## From engine results to exceptions -/

/-- `_raise_native_error`: raise the translated error, invalidating the
connection when it is fatal. The error object is made first: where that fails,
`MemoryError` is raised and nothing is invalidated. -/
def raiseNativeError {α : Type} (code : Int) : M α := do
  allocate .exception
  let error := nghttp2Error (← host) code
  if Nghttp2.isFatal code then fail
  raise error

/-- `_raise_callback_or_native`: raise the exception a callback deferred, or
the translated engine error. -/
def raiseCallbackOrNative (result : Int) : M Unit := do
  if result < 0 then
    match (← conn).callbackError with
    | some error =>
      fail
      raise error
    | none => raiseNativeError result

/-! ## What the private methods do -/

/-- The world `_fail` leaves: the session deleted, if there was one, and the
connection invalidated. -/
def World.failed (w : World) : World :=
  { w with
    conn := w.conn.invalidate
    issued := w.issued ++ w.conn.session.toList.map Issued.deleted }

@[simp] theorem World.failed_conn (w : World) : w.failed.conn = w.conn.invalidate := rfl

@[simp] theorem Connection.invalidate_server (c : Connection) :
    c.invalidate.server = c.server := rfl

@[simp] theorem Connection.invalidate_initialized (c : Connection) :
    c.invalidate.initialized = c.initialized := rfl

@[simp] theorem Connection.invalidate_maxSendDataFrameSize (c : Connection) :
    c.invalidate.maxSendDataFrameSize = c.maxSendDataFrameSize := rfl

@[simp] theorem Connection.invalidate_events (c : Connection) :
    c.invalidate.events = c.events := rfl

/-- The exception `_require_active` raises when it raises one. -/
def Connection.stateError (c : Connection) : PyError :=
  if c.failed then .ngh2 .connectionState "Connection is no longer usable"
  else if c.active = false then .ngh2 .connectionState "Connection is not initiated"
  else .ngh2 .connectionState "Connection is terminating"

/-- Every exception of the state checks is a `ConnectionStateError`. -/
theorem Connection.stateError_isConnectionStateError (c : Connection) :
    c.stateError.isConnectionStateError = true := by
  unfold Connection.stateError
  split
  · rfl
  · split <;> rfl

section Specs

variable (env : Env) (w : World)

/-- `_fail` does not raise. -/
@[simp] theorem run_fail : fail.run env w = (.ok (), w.failed) := by
  unfold fail World.failed
  rw [run_bind, run_conn]
  cases h : w.conn.session with
  | none => simp [h]
  | some session => simp [h]

/-- `_require_active` raises on a connection that does not accept work, and
does nothing on one that does. -/
@[simp] theorem run_requireActive :
    requireActive.run env w
      = if w.conn.Usable then (.ok (), w) else (.error w.conn.stateError, w) := by
  unfold requireActive requireDrivable Connection.Usable Connection.stateError
  by_cases hf : w.conn.failed = true
  · simp [hf]
  · by_cases ha : w.conn.active = true
    · by_cases ht : w.conn.terminating = true <;> simp [hf, ha, ht]
    · simp [hf, ha]

/-- `_require_drivable` does not ask whether the connection is terminating. -/
@[simp] theorem run_requireDrivable :
    requireDrivable.run env w
      = if w.conn.failed = false ∧ w.conn.active = true then (.ok (), w)
        else (.error w.conn.stateError, w) := by
  unfold requireDrivable Connection.stateError
  by_cases hf : w.conn.failed = true
  · simp [hf]
  · by_cases ha : w.conn.active = true <;> simp [hf, ha]

@[simp] theorem run_requireStream (streamId : StreamId) :
    (requireStream streamId).run env w
      = (if env.reply (.sessionGetStreamLocalClose streamId) < 0 then
            .error (.ngh2 .streamUnavailable "stream does not exist") else .ok (),
          { w with issued := w.issued ++
            [.call w.conn.session (.sessionGetStreamLocalClose streamId)] }) := by
  unfold requireStream
  by_cases h : env.reply (.sessionGetStreamLocalClose streamId) < 0 <;> simp [h]

@[simp] theorem run_raiseNativeError {α : Type} (code : Int) :
    (raiseNativeError code : M α).run env w
      = if env.alloc .exception then
          (.error (nghttp2Error w.host code), if Nghttp2.isFatal code then w.failed else w)
        else (.error (.memoryError ""), w) := by
  unfold raiseNativeError
  cases ha : env.alloc .exception with
  | false => simp [ha]
  | true => cases Nghttp2.isFatal code <;> simp [ha]

/-- A nonnegative result raises nothing. -/
theorem run_raiseCallbackOrNative_ok {result : Int} (h : 0 ≤ result) :
    (raiseCallbackOrNative result).run env w = (.ok (), w) := by
  have : ¬ result < 0 := by omega
  simp [raiseCallbackOrNative, this]

/-- A negative one raises the deferred exception, if there is one, and
invalidates the connection. -/
theorem run_raiseCallbackOrNative_deferred {result : Int} (h : result < 0) {error : PyError}
    (he : w.conn.callbackError = some error) :
    (raiseCallbackOrNative result).run env w = (.error error, w.failed) := by
  simp [raiseCallbackOrNative, h, he]

/-- Without one it raises the translated engine error, and a fatal code
invalidates the connection, if the error can be made. -/
theorem run_raiseCallbackOrNative_native {result : Int} (h : result < 0)
    (he : w.conn.callbackError = none) :
    (raiseCallbackOrNative result).run env w
      = if env.alloc .exception then
          (.error (nghttp2Error w.host result),
            if Nghttp2.isFatal result then w.failed else w)
        else (.error (.memoryError ""), w) := by
  simp [raiseCallbackOrNative, h, he]

end Specs

end Ngh2
