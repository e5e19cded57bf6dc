import Ngh2.Connection

/-!
# The inbound callbacks

Header blocks are collected field by field under two configured limits and
published when their frame is complete. DATA is different: the payload of a
frame is allocated once, when the frame begins, and its fragments are copied
into it as they arrive, so that three fields – `_data_payload`, `_data_size`
and `_data_stream_id` – describe the one frame that may be open. What is
dropped unpublished gives its credit back to the connection window, because
the engine has already counted it (`_discard_data_payload`).
-/

namespace Ngh2

open Effect Nghttp2

/-! ## Header blocks -/

/-- Replace the header block by a new one. -/
def startBlock : M Int := do
  allocate .list
  update fun c => { c with currentHeaders := [], currentHeaderSize := 0 }
  return 0

/-- `_begin_headers`: start collecting one decoded header block. -/
def beginHeaders : M Int := attempt startBlock callbackFailed

/-- Add one field to the block, after enforcing both limits. -/
def addField (name value : Bytes) (noIndex : Bool) : M Int := do
  update fun c => { c with
    currentHeaderSize := c.currentHeaderSize + (name.length + value.length + 32) }
  let c ← conn
  raiseIf (c.maxInboundHeaderListSize < c.currentHeaderSize)
    (.ngh2 .denialOfService "received header list exceeds configured size")
  raiseIf (c.maxInboundHeaderCount ≤ c.currentHeaders.length)
    (.ngh2 .denialOfService "received header list exceeds configured count")
  allocate (.bytes name.length)
  allocate (.bytes value.length)
  allocate .object
  update fun c => { c with
    currentHeaders := c.currentHeaders ++ [{ name, value, neverIndexed := noIndex }] }
  return 0

/-- `_header`: copy one decoded field. -/
def header (name value : Bytes) (noIndex : Bool) : M Int :=
  attempt (addField name value noIndex) callbackFailed

/-- `_invalid_header`: reject invalid regular fields. -/
def invalidHeader : M Int := return errTemporalCallbackFailure

/-! ## DATA frames -/

/-- The connection without its open DATA payload. -/
def Connection.withoutPayload (c : Connection) : Connection :=
  { c with dataPayload := none, dataSize := 0 }

/-- `_discard_data_payload`: drop an unpublished DATA payload and release its
flow-control credit. -/
def discardDataPayload : M Unit := do
  let c ← conn
  let size := c.dataSize
  update Connection.withoutPayload
  if size ≠ 0 ∧ c.autoWindowUpdate = false then
    let result ← ask (.sessionConsumeConnection size)
    raiseIf (result < 0) (nghttp2Error (← host) result)

/-- Drop an unfinished payload and allocate the one of a new frame. -/
def openPayload (streamId : StreamId) (length : Nat) : M Int := do
  discardDataPayload
  allocate (.bytes length)
  update fun c => { c with
    dataPayload := some { capacity := length }, dataStreamId := streamId }
  return 0

/-- `_begin_frame`: allocate a DATA payload once, before its fragments. -/
def beginFrame (isData : Bool) (streamId : StreamId) (length : Nat) : M Int := do
  if !isData then return 0
  attempt (openPayload streamId length) callbackFailed

/-- Copy a fragment into the open payload, if it belongs there and fits. -/
def copyFragment (streamId : StreamId) (data : Bytes) : M Int := do
  let c ← conn
  match c.dataPayload with
  | none => raise (.ngh2 .internal "DATA fragment does not fit an open frame")
  | some payload =>
    raiseIf (streamId ≠ c.dataStreamId ∨ payload.capacity < c.dataSize + data.length)
      (.ngh2 .internal "DATA fragment does not fit an open frame")
    update fun c => { c with
      dataPayload := some (payload.memcpy c.dataSize data)
      dataSize := c.dataSize + data.length }
    return 0

/-- `_data_chunk`: copy one fragment into the payload of its frame. -/
def dataChunk (streamId : StreamId) (data : Bytes) : M Int :=
  attempt (copyFragment streamId data) callbackFailed

/-- Detach the open payload: its application bytes, without padding. -/
def takePayload : M Bytes := do
  let c ← conn
  -- published bytes are accounted in `_unconsumed`, never discarded again
  update Connection.withoutPayload
  match c.dataPayload with
  | none => return []
  | some buffer =>
    if c.dataSize = 0 then return []
    if c.dataSize ≠ buffer.capacity then allocate (.bytes c.dataSize)
    return buffer.written.take c.dataSize

/-- `_data_frame_received`: publish one complete DATA frame and update the
receive accounting. -/
def dataFrameReceived (frame : Frame) : M Unit := do
  let payload ← takePayload
  if payload ≠ [] ∧ (← conn).autoWindowUpdate = false then
    update fun c => { c with
      unconsumed := c.unconsumed.insert frame.streamId
        ((c.unconsumed.lookup frame.streamId).getD 0 + payload.length) }
  publish (.dataReceived frame.streamId payload frame.endStream)

/-! ## The other frames -/

/-- The field name `:status`. -/
def statusName : Bytes := [58, 115, 116, 97, 116, 117, 115]

/-- The value of the first `:status` field, or the empty string. -/
def statusOf (headers : List Header) : Bytes :=
  match headers.find? fun h => decide (h.name = statusName) with
  | some h => h.value
  | none => []

/-- The event of a complete header block, as `_headers_received` chooses it. -/
def headersEvent (frame : Frame) (category : HeadersCategory) (headers : List Header) : Event :=
  match category with
  | .request => .requestReceived frame.streamId headers frame.endStream
  | _ =>
    match statusOf headers with
    | [] => .trailersReceived frame.streamId headers
    | digit :: _ =>
      if digit = 49 then .informationalResponseReceived frame.streamId headers
      else .responseReceived frame.streamId headers frame.endStream

/-- Publish the event of a header block, and let go of the block. -/
def publishBlock (event : Event) : M Unit := do
  publish event
  allocate .list
  update fun c => { c with currentHeaders := [] }

/-- `_headers_received`: publish the event of one complete header block. -/
def headersReceived (frame : Frame) (category : HeadersCategory) : M Unit := do
  publishBlock (headersEvent frame category (← conn).currentHeaders)

/-- `_push_promise_received`. -/
def pushPromiseReceived (frame : Frame) (promisedStreamId : StreamId) : M Unit := do
  publishBlock (.pushedStreamReceived frame.streamId promisedStreamId (← conn).currentHeaders)

/-- Assigning to a key of a dictionary: a known key keeps its place. -/
def settingsInsert (settings : List (Nat × Nat)) (entry : Nat × Nat) : List (Nat × Nat) :=
  if settings.any fun e => decide (e.1 = entry.1) then
    settings.map fun e => if e.1 = entry.1 then entry else e
  else settings ++ [entry]

/-- `_settings_received`: one SETTINGS frame or its acknowledgement. -/
def settingsReceived (frame : Frame) (entries : List (Nat × Nat)) : M Unit :=
  if frame.ack then publish .settingsAcknowledged
  else publish (.settingsReceived (entries.foldl settingsInsert []))

/-- `_ping_received`: one PING request or acknowledgement. -/
def pingReceived (frame : Frame) (opaqueData : Bytes) : M Unit := do
  allocate (.bytes 8)
  if frame.ack then publish (.pingAcknowledged opaqueData)
  else publish (.pingReceived opaqueData)

/-- The assignments that `_goaway_received` and `_frame_sent` share: remember
the reason of the most recent GOAWAY. The flag and the code are set before the
debug data is copied. -/
def rememberGoaway (errorCode : Nat) (opaqueData : Bytes) : M Unit := do
  update fun c => { c with closing := true, closeErrorCode := errorCode }
  allocate (.bytes opaqueData.length)
  update fun c => { c with closeDebugData := opaqueData }

/-- `_goaway_received`. -/
def goawayReceived (lastStreamId : StreamId) (errorCode : Nat) (opaqueData : Bytes) :
    M Unit := do
  rememberGoaway errorCode opaqueData
  publish (.goAwayReceived lastStreamId errorCode opaqueData)

/-- `_altsvc_received`. -/
def altsvcReceived (frame : Frame) (origin fieldValue : Bytes) : M Unit := do
  allocate (.bytes origin.length)
  allocate (.bytes fieldValue.length)
  publish (.altSvcReceived frame.streamId origin fieldValue)

/-- `_origin_received`. -/
def originReceived (origins : List Bytes) : M Unit := do
  origins.forM fun origin => allocate (.bytes origin.length)
  publish (.originReceived origins)

/-- `_priority_update_received`. -/
def priorityUpdateReceived (streamId : StreamId) (fieldValue : Bytes) : M Unit := do
  allocate (.bytes fieldValue.length)
  publish (.priorityUpdateReceived streamId fieldValue)

/-- The dispatch of `_frame_received`. -/
def dispatchFrame (frame : Frame) : M Unit :=
  match frame.payload with
  | .headers category => headersReceived frame category
  | .pushPromise promisedStreamId => pushPromiseReceived frame promisedStreamId
  | .data => dataFrameReceived frame
  | .settings entries => settingsReceived frame entries
  | .rstStream errorCode => publish (.streamReset frame.streamId errorCode)
  | .ping opaqueData => pingReceived frame opaqueData
  | .windowUpdate increment => publish (.windowUpdated frame.streamId increment)
  | .goaway lastStreamId errorCode opaqueData =>
    goawayReceived lastStreamId errorCode opaqueData
  | .altsvc origin fieldValue => altsvcReceived frame origin fieldValue
  | .origin origins => originReceived origins
  | .priorityUpdate streamId fieldValue => priorityUpdateReceived streamId fieldValue
  | .other _ => pure ()

/-- `_frame_received`: dispatch one fully processed frame. -/
def frameReceived (frame : Frame) : M Int :=
  attempt (do
    dispatchFrame frame
    return 0) callbackFailed

end Ngh2
