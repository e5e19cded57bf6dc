import Ngh2.Connection
import Ngh2.Convert

/-!
# The public operations

Every public method is, after the conversion of its arguments, one body on the
connection: its state checks in their order, its engine calls, and the fields
it assigns when they succeed. Three of them hand control to the engine, which
calls back: they are split at that point into what comes before
(`Started.enter`) and what comes after, which needs the engine's result
(`finishSend`, `finishReceive`, `finishUpgrade`).

`Request` names the operations with their converted arguments. Where the
conversions stand, and what a caller's own code may do during one, is not said
here.
-/

namespace Ngh2

open Effect Nghttp2

/-- What a public operation returns. -/
inductive Value where
  | none
  | streamId (streamId : StreamId)
  | bool (value : Bool)
  | number (value : Int)
  | bytes (data : Bytes)
  | events (events : List Event)
  | priority (urgency : Nat) (incremental : Bool)
  | settings (values : List (Nat × Int))
  deriving DecidableEq, Repr

/-- **An engine function on the stack**, with what the operation that called
it still needs afterwards. -/
inductive Drive where
  /-- `nghttp2_session_send`, for `data_to_send`. -/
  | send
  /-- `nghttp2_session_mem_recv2`, for `receive_data` with that many bytes. -/
  | receive (length : Nat)
  /-- `nghttp2_session_upgrade2`, for `initiate_upgrade` with the settings a
  server is to submit. -/
  | upgrade (entries : List (Nat × Nat))
  deriving DecidableEq, Repr

/-- How far an operation gets by itself: to its end, or into the engine. -/
inductive Started where
  | value (value : Value)
  | enter (drive : Drive)
  deriving DecidableEq, Repr

/-! ## Construction -/

/-- `_apply_configuration`: validate the limits and keep the ones the binding
enforces. The conversions stand in the order of the source, and the two last
ones come after the first assignments. -/
def applyConfiguration (config : Configuration) : M Unit := do
  let w := (← host).pointerWidth
  let _ ← lift (uint32 (.ok config.initialPeerMaxConcurrentStreams)
    "initial_peer_max_concurrent_streams")
  let _ ← lift (uint32 (.ok config.maxReservedRemoteStreams) "max_reserved_remote_streams")
  let _ ← lift (size w (.ok config.maxSendHeaderBlockLength) "max_send_header_block_length")
  let _ ← lift (size w (.ok config.maxDeflateDynamicTableSize) "max_deflate_dynamic_table_size")
  let _ ← lift (size w (.ok config.maxOutboundAck) "max_outbound_ack")
  let maxSettings ← lift (positiveSize w (.ok config.maxSettings) "max_settings")
  let _ ← lift (size w (.ok config.maxContinuations) "max_continuations")
  let maxSendDataFrameSize ← lift (uint32 (.ok config.maxSendDataFrameSize)
    "max_send_data_frame_size")
  let _ ← lift (uint64 (.ok config.streamResetRateLimit.1) "stream_reset_rate_limit burst")
  let _ ← lift (uint64 (.ok config.streamResetRateLimit.2) "stream_reset_rate_limit rate")
  let _ ← lift (uint64 (.ok config.glitchRateLimit.1) "glitch_rate_limit burst")
  let _ ← lift (uint64 (.ok config.glitchRateLimit.2) "glitch_rate_limit rate")
  raiseIf (maxSendDataFrameSize < 1 ∨ 0xFFFFFF < maxSendDataFrameSize)
    (.valueError "max_send_data_frame_size is out of range")
  update fun c => { c with
    autoWindowUpdate := config.autoWindowUpdate, maxSendDataFrameSize, maxSettings }
  let maxInboundHeaderListSize ← lift (nonnegativeSize w (.ok config.maxInboundHeaderListSize)
    "max_inbound_header_list_size")
  update fun c => { c with maxInboundHeaderListSize }
  let maxInboundHeaderCount ← lift (nonnegativeSize w (.ok config.maxInboundHeaderCount)
    "max_inbound_header_count")
  update fun c => { c with maxInboundHeaderCount }

/-- An engine result that is an error raises the translated exception without
invalidating anything, `_raise_nghttp2_error`. -/
def raiseIfNegative (result : Int) : M Unit := do
  raiseIf (result < 0) (nghttp2Error (← host) result)

/-- The check `__init__` begins with. -/
def requireUninitialized : M Unit := do
  raiseIf (← conn).initialized (.ngh2 .connectionState "Connection is already initialized")

/-- The end of `__init__`: create the session and install it. -/
def install (role : Role) (config : Configuration) : M Unit := do
  let (result, session) := (← read).sessionNew
  raiseIfNegative result
  note (.created session)
  update fun c => { c with
    role := some role
    server := decide (role = .server)
    config := some config
    session := some session
    initialized := true }

/-- `__init__`. -/
def init (role : Role) (config : Configuration) : M Started := do
  requireUninitialized
  raiseIfNegative (← read).callbacksNew
  raiseIfNegative (← read).optionNew
  applyConfiguration config
  install role config
  return .value .none

/-! ## Shared shapes -/

/-- Call an engine function and raise, with `_raise_native_error`, if it
failed. -/
def submit (q : EngineCall) : M Int := do
  let result ← ask q
  if result < 0 then raiseNativeError result
  return result

/-- Raise `ConnectionStateError` on a client. -/
def requireServer (message : String) : M Unit := do
  raiseIf ((← conn).server = false) (.ngh2 .connectionState message)

/-- Raise `ConnectionStateError` on a server. -/
def requireClient (message : String) : M Unit := do
  raiseIf (← conn).server (.ngh2 .connectionState message)

/-- The limit on the entries of one SETTINGS frame, and the temporary array
for them. -/
def makeSettings (entries : List (Nat × Nat)) : M Unit := do
  raiseIf ((← conn).maxSettings < entries.length)
    (.valueError "settings exceed the configured entry limit")
  if entries ≠ [] then allocate .object

/-! ## Initiation -/

/-- `initiate_connection`: submit the initial SETTINGS frame. -/
def initiateConnection (entries : List (Nat × Nat)) : M Started := do
  requireCreated
  makeSettings entries
  let _ ← submit (.submitSettings entries)
  update fun c => { c with
    localExtensiblePriority := decide ((9, 1) ∈ entries), active := true }
  return .value .none

/-- `initiate_upgrade`, up to `nghttp2_session_upgrade2`. The settings are
those of a server; a client passes none. -/
def initiateUpgrade (settingsPayload : Bytes) (entries : List (Nat × Nat))
    (headRequest : Bool) : M Started := do
  requireCreated
  if (← conn).server then makeSettings entries
  update fun c => { c with callbackError := none }
  note (.call (← conn).session (.sessionUpgrade2 settingsPayload headRequest))
  return .enter (.upgrade entries)

/-- `initiate_upgrade`, after `nghttp2_session_upgrade2`. -/
def finishUpgrade (entries : List (Nat × Nat)) (result : Int) : M Value := do
  raiseCallbackOrNative result
  if (← conn).server then
    let result ← ask (.submitSettings entries)
    if result < 0 then
      fail
      raise (nghttp2Error (← host) result)
    update fun c => { c with localExtensiblePriority := decide ((9, 1) ∈ entries) }
  update fun c => { c with active := true }
  return .none

/-! ## Input and output -/

/-- `receive_data`, up to `nghttp2_session_mem_recv2`. -/
def receiveData (data : Bytes) : M Started := do
  requireActive
  update fun c => { c with callbackError := none }
  note (.call (← conn).session (.sessionMemRecv2 data))
  return .enter (.receive data.length)

/-- `receive_data`, after `nghttp2_session_mem_recv2`. -/
def finishReceive (length : Nat) (result : Int) : M Value := do
  raiseCallbackOrNative result
  if result ≠ length then
    fail
    raise (.ngh2 .internal "HTTP/2 engine did not consume all input")
  if (← conn).closing then updateTerminalState
  return .none

/-- `events`: return and clear the events. -/
def takeEvents : M Started := do
  let c ← conn
  update fun c => { c with events := [] }
  return .value (.events c.events)

/-- `data_to_send`, up to `nghttp2_session_send`. -/
def dataToSend (amount : Option Nat) : M Started := do
  let limit : Int := match amount with
    | none => -1
    | some n => n
  let c ← conn
  raiseIf c.failed (.ngh2 .connectionState "Connection is no longer usable")
  if limit = 0 ∨ c.active = false then return .value (.bytes [])
  update fun c => { c with outputSize := 0, outputRemaining := limit, callbackError := none }
  note (.call (← conn).session .sessionSend)
  return .enter .send

/-- Trim the staged output to its size and take it: an empty stage is no
output. -/
def takeOutput : M Bytes := do
  let c ← conn
  match c.output with
  | none => return []
  | some buffer =>
    if (← read).alloc (.trim c.outputSize) then
      update fun c => { c with output := none }
      return buffer.written.take c.outputSize
    else
      -- a failed resize has released the buffer
      update fun c => { c with output := none }
      raise (.memoryError "")

/-- `data_to_send`, after `nghttp2_session_send`. Whatever is raised, the
native output has advanced, and the connection is invalidated. -/
def finishSend (result : Int) : M Value := do
  let output ← attempt (do
    raiseCallbackOrNative result
    if (← conn).closing then updateTerminalState
    takeOutput) (fun error => do
      fail
      raise error)
  update fun c => { c with outputRemaining := 0 }
  return .bytes output

/-! ## Messages -/

/-- Record a new body, `self._bodies[stream_id] = _BodySource()`. -/
def recordBody (streamId : StreamId) : M Unit := do
  allocate .body
  setBody streamId {}

/-- `send_request`. -/
def sendRequest (headers : List Header) (endStream : Bool) : M Started := do
  requireActive
  requireClient "a server cannot send requests"
  raiseIf ((← ask .sessionCheckRequestAllowed) = 0)
    (.ngh2 .connectionClosing "the connection cannot create another request stream")
  let streamId ← submit (.submitRequest2 headers (!endStream))
  if !endStream then recordBody streamId
  allocate .identifier
  return .value (.streamId streamId)

/-- `send_response`. -/
def sendResponse (streamId : StreamId) (headers : List Header) (endStream : Bool) :
    M Started := do
  requireActive
  requireServer "a client cannot send responses"
  requireStream streamId
  raiseIf (streamId ∈ (← conn).responses) (.ngh2 .streamState "a response is already pending")
  let _ ← submit (.submitResponse2 streamId headers (!endStream))
  allocate .response
  update fun c => { c with responses := insert streamId c.responses }
  if !endStream then recordBody streamId
  return .value .none

/-- `send_informational_response`. -/
def sendInformationalResponse (streamId : StreamId) (headers : List Header) : M Started := do
  requireActive
  requireServer "a client cannot send informational responses"
  requireStream streamId
  raiseIf (streamId ∈ (← conn).responses)
    (.ngh2 .streamState "informational responses must precede the final response")
  let _ ← submit (.submitHeaders streamId headers)
  return .value .none

/-- Resume the DATA source of a deferred body. -/
def resumeBody (streamId : StreamId) (body : BodySource) : M Unit := do
  let _ ← submit (.sessionResumeData streamId)
  setBody streamId { body with deferred := false }

/-- The body that `send_data` and `send_trailers` may add to: open, and not
ended. -/
def openBody (streamId : StreamId) : M BodySource := do
  match (← conn).bodies.lookup streamId with
  | none => raise (.ngh2 .streamState "stream has no open body")
  | some body =>
    raiseIf body.ended (.ngh2 .streamState "stream body is already ended")
    return body

/-- `send_trailers`. -/
def sendTrailers (streamId : StreamId) (headers : List Header) : M Started := do
  requireActive
  let body ← openBody streamId
  let body := { body with trailers := some headers, ended := true }
  setBody streamId body
  if body.deferred then resumeBody streamId body
  return .value .none

/-- `send_push_promise`. -/
def sendPushPromise (streamId : StreamId) (headers : List Header) : M Started := do
  requireActive
  requireServer "a client cannot send push promises"
  requireStream streamId
  let promisedStreamId ← submit (.submitPushPromise streamId headers)
  allocate .identifier
  return .value (.streamId promisedStreamId)

/-- Append a chunk to the queue of a body, and set its end. The counter wraps
where the queue is longer than a `size_t` can say. -/
def BodySource.append (width : PointerWidth) (body : BodySource) (chunk : Bytes)
    (endStream : Bool) : BodySource :=
  if chunk = [] then { body with ended := endStream }
  else { body with
    chunks := body.chunks ++ [some chunk]
    queuedSize := Wrapping.add width.modulus body.queuedSize chunk.length
    ended := endStream }

/-- The counter of all queued bytes after a chunk was queued. -/
def countQueued (width : PointerWidth) (queued : Nat) (chunk : Bytes) : Nat :=
  if chunk = [] then queued else Wrapping.add width.modulus queued chunk.length

/-- Queue a chunk on the body of a stream, and count it. -/
def queueChunk (streamId : StreamId) (body : BodySource) (chunk : Bytes) (endStream : Bool) :
    M BodySource := do
  let width := (← host).pointerWidth
  let body := body.append width chunk endStream
  setBody streamId body
  update fun c => { c with queuedBodySize := countQueued width c.queuedBodySize chunk }
  return body

/-- `send_data`; `end_stream` is `send_data` with an empty chunk. -/
def sendData (streamId : StreamId) (chunk : Bytes) (endStream : Bool) : M Started := do
  requireActive
  let body ← queueChunk streamId (← openBody streamId) chunk endStream
  if body.deferred ∧ (chunk ≠ [] ∨ endStream) then resumeBody streamId body
  return .value .none

/-- Whether the local direction of a stream is certain to end: its body is
ended, or it has none and the headers ended it. -/
def Connection.locallyEnded (c : Connection) (streamId : StreamId) : Bool :=
  match c.bodies.lookup streamId with
  | some body => body.ended
  -- a server stream without a body ended with its response
  | none => !c.server || decide (streamId ∈ c.responses)

/-- `reset_stream`. -/
def resetStream (streamId : StreamId) (errorCode : Nat) (afterEndStream : Bool) :
    M Started := do
  requireActive
  if afterEndStream then
    requireStream streamId
    if (← ask (.sessionGetStreamLocalClose streamId)) = 0 then
      raiseIf ((← conn).locallyEnded streamId = false)
        (.ngh2 .streamState "stream local direction is not ended")
      -- submitting now would drop the queued frames of the stream
      update fun c => { c with deferredResets := c.deferredResets.insert streamId errorCode }
      return .value .none
  let _ ← submit (.submitRstStream streamId errorCode)
  return .value .none

/-! ## Connection control -/

/-- `update_settings`. -/
def updateSettings (entries : List (Nat × Nat)) : M Started := do
  requireActive
  makeSettings entries
  let _ ← submit (.submitSettings entries)
  return .value .none

/-- `send_ping`: the payload is checked after the state, and an argument that
is no byte string is `none`. -/
def sendPing (opaqueData : Option Bytes) : M Started := do
  requireActive
  match opaqueData with
  | none => raise (.typeError "opaque_data must be bytes")
  | some opaqueData =>
    raiseIf (opaqueData.length ≠ 8)
      (.valueError "opaque_data must contain exactly 8 bytes")
    let _ ← submit (.submitPing opaqueData)
    return .value .none

/-- `send_goaway`. -/
def sendGoaway (errorCode : Nat) (lastStreamId : Option StreamId) (debugData : Bytes) :
    M Started := do
  requireActive
  let lastStreamId ← match lastStreamId with
    | some lastStreamId => pure lastStreamId
    | none => ask .sessionGetLastProcStreamId
  let _ ← submit (.submitGoaway lastStreamId errorCode debugData)
  return .value .none

/-- `send_shutdown_notice`. -/
def sendShutdownNotice : M Started := do
  requireActive
  requireServer "a client cannot send shutdown notices"
  let _ ← submit .submitShutdownNotice
  return .value .none

/-- `terminate_connection`. -/
def terminateConnection (errorCode : Nat) (lastStreamId : Option StreamId) : M Started := do
  requireActive
  let _ ← submit (match lastStreamId with
    | none => .sessionTerminateSession errorCode
    | some lastStreamId => .sessionTerminateSession2 lastStreamId errorCode)
  update fun c => ({ c with terminating := true, closing := true } :
    Connection).discardPendingState
  return .value .none

/-! ## Flow control -/

/-- `consume_received_data`. -/
def consumeReceivedData (streamId : StreamId) (amount : Nat) : M Started := do
  requireActive
  let c ← conn
  raiseIf c.autoWindowUpdate
    (.ngh2 .connectionState "manual consumption requires auto_window_update=False")
  if amount = 0 then return .value .none
  let unconsumed := (c.unconsumed.lookup streamId).getD 0
  raiseIf (unconsumed < amount) (.valueError "amount exceeds unconsumed received data")
  let _ ← submit (.sessionConsume streamId amount)
  let remaining := unconsumed - amount
  update fun c => { c with
    unconsumed := if remaining ≠ 0 then c.unconsumed.insert streamId remaining
      else c.unconsumed.erase streamId }
  return .value .none

/-- `set_local_window_size`; stream zero is the connection. -/
def setLocalWindowSize (windowSize : Nat) (streamId : StreamId) : M Started := do
  requireActive
  if streamId ≠ 0 then requireStream streamId
  let _ ← submit (.sessionSetLocalWindowSize streamId windowSize)
  return .value .none

/-! ## Extensions -/

/-- `send_priority_update`: the field value is checked last, and a value that
is no byte string is `none`. -/
def sendPriorityUpdate (streamId : StreamId) (fieldValue : Option Bytes) : M Started := do
  requireActive
  requireClient "a server cannot send PRIORITY_UPDATE frames"
  if (← ask (.sessionGetRemoteSettings 9)) = 0 then return .value (.bool false)
  match fieldValue with
  | none => raise (.typeError "field_value must be bytes")
  | some fieldValue =>
    let _ ← submit (.submitPriorityUpdate streamId fieldValue)
    return .value (.bool true)

/-- `set_stream_priority`. -/
def setStreamPriority (streamId : StreamId) (urgency : Nat)
    (incremental ignoreClientSignal : Bool) : M Started := do
  requireActive
  requireServer "a client cannot set server scheduling priority"
  if (← conn).localExtensiblePriority = false then return .value (.bool false)
  requireStream streamId
  let _ ← submit (.sessionChangeExtpriStreamPriority streamId urgency incremental
    ignoreClientSignal)
  return .value (.bool true)

/-- `get_stream_priority`. -/
def getStreamPriority (streamId : StreamId) : M Started := do
  requireActive
  requireServer "a client cannot query server scheduling priority"
  if (← conn).localExtensiblePriority = false then return .value .none
  requireStream streamId
  let _ ← ask (.sessionGetExtpriStreamPriority streamId)
  let (urgency, incremental) := (← read).extpri streamId
  return .value (.priority urgency incremental)

/-- `send_alt_svc`. -/
def sendAltSvc (streamId : StreamId) (origin fieldValue : Bytes) : M Started := do
  requireActive
  requireServer "a client cannot send ALTSVC frames"
  let _ ← submit (.submitAltsvc streamId origin fieldValue)
  return .value .none

/-- `send_origins`. -/
def sendOrigins (origins : List Bytes) : M Started := do
  requireActive
  requireServer "a client cannot send ORIGIN frames"
  if origins ≠ [] then allocate .object
  let _ ← submit (.submitOrigin origins)
  return .value .none

/-! ## Queries -/

/-- `want_read` and `want_write`. -/
def wants (q : EngineCall) : M Started := do
  requireDrivable
  return .value (.bool (decide ((← ask q) ≠ 0)))

/-- `next_stream_id`. -/
def nextStreamId : M Started := do
  requireActive
  return .value (.number (← ask .sessionGetNextStreamId))

/-- `can_send_request`. -/
def canSendRequest : M Started := do
  requireDrivable
  if (← conn).terminating then return .value (.bool false)
  return .value (.bool (decide ((← ask .sessionCheckRequestAllowed) ≠ 0)))

/-- `queued_body_size`. -/
def queuedBodySize (streamId : Option StreamId) : M Started := do
  let c ← conn
  match streamId with
  | none => return .value (.number c.queuedBodySize)
  | some streamId =>
    match c.bodies.lookup streamId with
    | none => return .value (.number 0)
    | some body => return .value (.number body.queuedSize)

/-- `remote_window_size` and `local_window_size`: the window of the
connection, or of a stream the engine tracks. -/
def windowSize (connection : EngineCall) (stream : StreamId → EngineCall)
    (streamId : StreamId) : M Started := do
  requireActive
  if streamId = 0 then return .value (.number (← ask connection))
  requireStream streamId
  return .value (.number (← ask (stream streamId)))

/-- The members of the enumeration `Setting`. -/
def settingIds : List Nat := [1, 2, 3, 4, 5, 6, 8, 9]

/-- `local_settings` and `remote_settings`: a snapshot of the known
settings. -/
def settingsSnapshot (q : Nat → EngineCall) : M Started := do
  requireActive
  let values ← settingIds.mapM fun setting => do return (setting, ← ask (q setting))
  return .value (.settings values)

/-! ## The operations by name -/

/-- **A public operation** with its converted arguments. -/
inductive Request where
  | init (role : Role) (config : Configuration)
  | initiateConnection (entries : List (Nat × Nat))
  | initiateUpgrade (settingsPayload : Bytes) (entries : List (Nat × Nat)) (headRequest : Bool)
  | receiveData (data : Bytes)
  | takeEvents
  | dataToSend (amount : Option Nat)
  | sendRequest (headers : List Header) (endStream : Bool)
  | sendResponse (streamId : StreamId) (headers : List Header) (endStream : Bool)
  | sendInformationalResponse (streamId : StreamId) (headers : List Header)
  | sendTrailers (streamId : StreamId) (headers : List Header)
  | sendPushPromise (streamId : StreamId) (headers : List Header)
  | sendData (streamId : StreamId) (chunk : Bytes) (endStream : Bool)
  | resetStream (streamId : StreamId) (errorCode : Nat) (afterEndStream : Bool)
  | updateSettings (entries : List (Nat × Nat))
  | sendPing (opaqueData : Option Bytes)
  | sendGoaway (errorCode : Nat) (lastStreamId : Option StreamId) (debugData : Bytes)
  | sendShutdownNotice
  | terminateConnection (errorCode : Nat) (lastStreamId : Option StreamId)
  | consumeReceivedData (streamId : StreamId) (amount : Nat)
  | setLocalWindowSize (windowSize : Nat) (streamId : StreamId)
  | sendPriorityUpdate (streamId : StreamId) (fieldValue : Option Bytes)
  | setStreamPriority (streamId : StreamId) (urgency : Nat)
      (incremental ignoreClientSignal : Bool)
  | getStreamPriority (streamId : StreamId)
  | sendAltSvc (streamId : StreamId) (origin fieldValue : Bytes)
  | sendOrigins (origins : List Bytes)
  | wantRead
  | wantWrite
  | nextStreamId
  | canSendRequest
  | queuedBodySize (streamId : Option StreamId)
  | remoteWindowSize (streamId : StreamId)
  | localWindowSize (streamId : StreamId)
  | localSettings
  | remoteSettings
  deriving DecidableEq, Repr

/-- The body of an operation. -/
def Request.body : Request → M Started
  | .init role config => Ngh2.init role config
  | .initiateConnection entries => Ngh2.initiateConnection entries
  | .initiateUpgrade settingsPayload entries headRequest =>
    Ngh2.initiateUpgrade settingsPayload entries headRequest
  | .receiveData data => Ngh2.receiveData data
  | .takeEvents => Ngh2.takeEvents
  | .dataToSend amount => Ngh2.dataToSend amount
  | .sendRequest headers endStream => Ngh2.sendRequest headers endStream
  | .sendResponse streamId headers endStream => Ngh2.sendResponse streamId headers endStream
  | .sendInformationalResponse streamId headers =>
    Ngh2.sendInformationalResponse streamId headers
  | .sendTrailers streamId headers => Ngh2.sendTrailers streamId headers
  | .sendPushPromise streamId headers => Ngh2.sendPushPromise streamId headers
  | .sendData streamId chunk endStream => Ngh2.sendData streamId chunk endStream
  | .resetStream streamId errorCode afterEndStream =>
    Ngh2.resetStream streamId errorCode afterEndStream
  | .updateSettings entries => Ngh2.updateSettings entries
  | .sendPing opaqueData => Ngh2.sendPing opaqueData
  | .sendGoaway errorCode lastStreamId debugData =>
    Ngh2.sendGoaway errorCode lastStreamId debugData
  | .sendShutdownNotice => Ngh2.sendShutdownNotice
  | .terminateConnection errorCode lastStreamId =>
    Ngh2.terminateConnection errorCode lastStreamId
  | .consumeReceivedData streamId amount => Ngh2.consumeReceivedData streamId amount
  | .setLocalWindowSize windowSize streamId => Ngh2.setLocalWindowSize windowSize streamId
  | .sendPriorityUpdate streamId fieldValue => Ngh2.sendPriorityUpdate streamId fieldValue
  | .setStreamPriority streamId urgency incremental ignoreClientSignal =>
    Ngh2.setStreamPriority streamId urgency incremental ignoreClientSignal
  | .getStreamPriority streamId => Ngh2.getStreamPriority streamId
  | .sendAltSvc streamId origin fieldValue => Ngh2.sendAltSvc streamId origin fieldValue
  | .sendOrigins origins => Ngh2.sendOrigins origins
  | .wantRead => wants .sessionWantRead
  | .wantWrite => wants .sessionWantWrite
  | .nextStreamId => Ngh2.nextStreamId
  | .canSendRequest => Ngh2.canSendRequest
  | .queuedBodySize streamId => Ngh2.queuedBodySize streamId
  | .remoteWindowSize streamId =>
    windowSize .sessionGetRemoteWindowSize .sessionGetStreamRemoteWindowSize streamId
  | .localWindowSize streamId =>
    windowSize .sessionGetLocalWindowSize .sessionGetStreamLocalWindowSize streamId
  | .localSettings => settingsSnapshot .sessionGetLocalSettings
  | .remoteSettings => settingsSnapshot .sessionGetRemoteSettings

/-- What an operation does once the engine function it called has returned. -/
def Drive.finish (d : Drive) (result : Int) : M Value :=
  match d with
  | .send => finishSend result
  | .receive length => finishReceive length result
  | .upgrade entries => finishUpgrade entries result

end Ngh2
