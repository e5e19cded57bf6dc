import Ngh2.Connection

/-!
# The outbound callbacks

While `nghttp2_session_send` runs, the engine calls back for two things: to
hand over serialized bytes, and to obtain the payload of a DATA frame. The
bytes are staged in one buffer that grows geometrically and is trimmed when
`data_to_send` returns (`_reserve_output`, `_collect_output`).

A payload travels by one of two paths, chosen frame by frame in `_read_body`.
When the whole frame fits what is left of the caller's limit, the callback
returns the length with `NO_COPY` and the engine asks `_send_body` to write
the frame straight into the staging buffer. Otherwise the callback copies the
bytes into the engine's own frame buffer, and they come back through
`_collect_output` as the limit allows. Either way they leave the stream's
chunk queue through `_copy_body`.
-/

namespace Ngh2

open Effect Nghttp2

/-! ## The staging buffer -/

/-- The bytes written to the staging buffer, if there is one. -/
def staged (output : Option Buffer) : Bytes := (output.map Buffer.written).getD []

/-- The size of the staging buffer, if there is one. -/
def room (output : Option Buffer) : Nat := (output.map Buffer.capacity).getD 0

/-- The size a staging buffer of a given size grows to. Doubling a large one
could overflow `Py_ssize_t`. -/
def grownSize (width : PointerWidth) (capacity target : Nat) : Nat :=
  if capacity < width.sizeMax / 4 then max target (max (2 * capacity) 4096) else target

/-- Create or resize the staging buffer. A failed resize has released it. -/
def resizeOutput (target : Nat) : M Unit := do
  if (← read).alloc (.output target) then
    update fun c => { c with output := some { capacity := target, written := staged c.output } }
  else
    update fun c => { c with output := none }
    raise (.memoryError "")

/-- `_reserve_output`: room for `length` more bytes, growing the staging
buffer geometrically. The result is the offset of the room. -/
def reserveOutput (length : Nat) : M Nat := do
  let c ← conn
  let width := (← host).pointerWidth
  let used := c.outputSize
  let capacity := room c.output
  raiseIf (width.ssizeMax - used < length) (.memoryError "outbound data is too large")
  let target := used + length
  if capacity < target then resizeOutput (grownSize width capacity target)
  update fun c => { c with outputSize := used + length }
  return used

/-- `memcpy` into the staging buffer. -/
def writeOutput (offset : Nat) (data : Bytes) : M Unit :=
  update fun c => { c with output := c.output.map (·.memcpy offset data) }

/-- Take `length` bytes off the caller's limit, if there is one. -/
def Connection.spendOutput (c : Connection) (length : Nat) : Connection :=
  { c with outputRemaining :=
      if 0 ≤ c.outputRemaining then c.outputRemaining - length else c.outputRemaining }

/-- Stage the first bytes of what the engine offers, as many as were
accepted. -/
def stageBytes (data : Bytes) (accepted : Nat) : M Int := do
  let offset ← reserveOutput accepted
  writeOutput offset (data.take accepted)
  update fun c => c.spendOutput accepted
  return accepted

/-- How many of the offered bytes the caller's limit accepts. -/
def Connection.acceptable (c : Connection) (length : Nat) : Nat :=
  if 0 ≤ c.outputRemaining then min length c.outputRemaining.toNat else length

/-- `_collect_output`: append serialized bytes within the caller's limit. -/
def collectOutput (data : Bytes) : M Int := do
  let c ← conn
  if c.outputRemaining = 0 then return errWouldblock
  attempt (stageBytes data (c.acceptable data.length)) callbackFailed

/-! ## Taking bytes off a body -/

/-- The variables of the loop of `_copy_body`. -/
structure CopyState where
  /-- The body, as assigned so far. -/
  body : BodySource
  /-- The connection's counter of queued bytes. -/
  queued : Nat
  /-- What has been written to the destination. -/
  copied : Bytes := []
  deriving DecidableEq, Repr

/-- One turn of the loop of `_copy_body`, on the chunk at the head. Both
counters are `size_t`. -/
def copyTurn (width : PointerWidth) (length : Nat) (chunk : Bytes) (s : CopyState) : CopyState :=
  let available := chunk.length - s.body.offset
  let take := min available (length - s.copied.length)
  let copied := s.copied ++ (chunk.drop s.body.offset).take take
  let body := { s.body with
    offset := s.body.offset + take
    queuedSize := Wrapping.sub width.modulus s.body.queuedSize take }
  let body := if body.offset = chunk.length then
      { body with
        chunks := body.chunks.set body.head none
        head := body.head + 1
        offset := 0 }
    else body
  { body, queued := Wrapping.sub width.modulus s.queued take, copied }

/-- The loop of `_copy_body`. A turn moves to the next slot or fills the
request, so there are at most as many turns as slots from the head on, which
is what the first argument counts. A slot already released has no length:
taking it raises. -/
def copyLoop (width : PointerWidth) (length : Nat) :
    Nat → CopyState → Except PyError Unit × CopyState
  | 0, s => (.ok (), s)
  | n + 1, s =>
    if s.body.head < s.body.chunks.length ∧ s.copied.length < length then
      match s.body.chunks[s.body.head]? with
      | some (some chunk) => copyLoop width length n (copyTurn width length chunk s)
      | _ => (.error (.typeError "object of type 'NoneType' has no len()"), s)
    else (.ok (), s)

/-- Reclaim the slots of the chunks that were sent: all of them when the queue
is empty, and otherwise once they are at least half of the list. -/
def BodySource.compact (body : BodySource) : BodySource :=
  if body.head = body.chunks.length then { body with chunks := [], head := 0 }
  else if 32 ≤ body.head ∧ body.chunks.length ≤ 2 * body.head then
    { body with chunks := body.chunks.drop body.head, head := 0 }
  else body

/-- `_copy_body`: take up to `length` bytes off the queue of a stream. The
result is what was written to the destination. -/
def copyBody (streamId : StreamId) (body : BodySource) (length : Nat) : M Bytes := do
  let (result, s) := copyLoop (← host).pointerWidth length (body.chunks.length - body.head)
    { body, queued := (← conn).queuedBodySize }
  update fun c => { c with queuedBodySize := s.queued }
  setBody streamId s.body
  lift result
  setBody streamId s.body.compact
  return s.copied

/-! ## DATA frames -/

/-- Write a whole DATA frame into the staging buffer. -/
def stageFrame (streamId : StreamId) (padlen : Nat) (frameHeader : FrameHeader) (length : Nat) :
    M Int := do
  let c ← conn
  raiseIf (padlen ≠ 0 ∨ (0 ≤ c.outputRemaining ∧ c.outputRemaining < length + 9))
    (.ngh2 .internal "unexpected DATA output mode")
  let body ← bodyOf streamId
  raiseIf ((← host).pointerWidth.ssizeMax - 9 < length)
    (.memoryError "outbound data is too large")
  let offset ← reserveOutput (length + 9)
  writeOutput offset frameHeader.val
  let copied ← copyBody streamId body length
  writeOutput (offset + 9) copied
  raiseIf (copied.length ≠ length)
    (.ngh2 .internal "DATA source did not provide the prepared body")
  update fun c => c.spendOutput (length + 9)
  return 0

/-- `_send_body`: collect a whole DATA frame without an intermediate copy. -/
def sendBody (streamId : StreamId) (padlen : Nat) (frameHeader : FrameHeader) (length : Nat) :
    M Int :=
  attempt (stageFrame streamId padlen frameHeader length) callbackFailed

/-- `_data_frame_length`: size DATA frames up to the configured and
peer-advertised limits, and no larger than the queued body; 1 still lets an
empty queue defer or end the stream. -/
def dataFrameLength (streamId : StreamId) (remoteMaxFrameSize : Nat) : M Int := do
  let c ← conn
  let length := min c.maxSendDataFrameSize remoteMaxFrameSize
  match c.bodies.lookup streamId with
  | none => return length
  | some body => return (max 1 (min length body.queuedSize) : Nat)

/-- The end of `_read_body`, from the point where `copied` and `complete` are
known: emit the terminal marker of a complete body, or defer an empty one. -/
def finishRead (session : Option SessionId) (streamId : StreamId) (reply : Reply)
    (complete : Bool) : M Reply := do
  let body ← bodyOf streamId
  if complete then
    match body.trailers with
    | none => return { reply with eof := true }
    | some trailers =>
      allocate .object
      let result ← askOn session (.submitTrailer streamId trailers)
      raiseIf (result < 0) (nghttp2Error (← host) result)
      setBody streamId { body with trailers := none }
      return { reply with eof := true, noEndStream := true }
  else if reply.code ≠ 0 then return reply
  else
    setBody streamId { body with deferred := true }
    return { reply with code := errDeferred }

/-- Choose the path of a DATA frame, and prepare its bytes. -/
def prepareBody (session : Option SessionId) (streamId : StreamId) (length : Nat) :
    M Reply := do
  let remaining := (← conn).outputRemaining
  let body ← bodyOf streamId
  let copied := min length body.queuedSize
  if remaining < 0 ∨ (copied : Int) + 9 ≤ remaining then
    finishRead session streamId { code := copied, noCopy := true }
      (body.ended && decide (copied = body.queuedSize))
  else
    let buffer ← copyBody streamId body length
    let body ← bodyOf streamId
    finishRead session streamId { code := buffer.length, buffer }
      (body.ended && decide (body.head = body.chunks.length))

/-- `_read_body`: prepare queued body bytes. At a spent limit the body stays
queued for the next call. -/
def readBody (session : Option SessionId) (streamId : StreamId) (length : Nat) : M Reply := do
  if (← conn).outputRemaining = 0 then return { code := errPause }
  attempt (prepareBody session streamId length)
    (fun error => do return { code := ← callbackFailed error })

end Ngh2
