import Ngh2.Receive

/-!
# The stream lifecycle callbacks

Three callbacks carry a stream to its end. `_stream_closed` takes everything
recorded for the stream out of the maps and publishes the closure with the
local error recorded for it, if any. `_frame_sent` watches for the frame that
ends the local direction of a stream with a deferred reset, and for GOAWAY.
`_frame_not_sent` records the reason when the engine drops a HEADERS or
PUSH_PROMISE frame it could not prepare, and resets the stream where the
engine would not close it by itself.
-/

namespace Ngh2

open Effect Nghttp2

/-- The counter of all queued bytes after a body was removed, where there was
one. -/
def uncountQueued (width : PointerWidth) (queued : Nat) : Option BodySource → Nat
  | none => queued
  | some body => Wrapping.sub width.modulus queued body.queuedSize

/-- Take everything recorded for a stream out of the maps, and publish its
closure. -/
def releaseStream (streamId : StreamId) (errorCode : Nat) : M Int := do
  let width := (← host).pointerWidth
  let body := (← conn).bodies.lookup streamId
  update fun c => { c with
    bodies := c.bodies.erase streamId
    queuedBodySize := uncountQueued width c.queuedBodySize body }
  if (← conn).dataStreamId = streamId then discardDataPayload
  update fun c => { c with
    responses := c.responses.erase streamId
    deferredResets := c.deferredResets.erase streamId }
  let localError := (← conn).localStreamErrors.lookup streamId
  update fun c => { c with localStreamErrors := c.localStreamErrors.erase streamId }
  publish (.streamClosed streamId errorCode localError)
  return 0

/-- `_stream_closed`: release per-stream state and publish the closure. -/
def streamClosed (streamId : StreamId) (errorCode : Nat) : M Int :=
  attempt (releaseStream streamId errorCode) callbackFailed

/-- Whether a sent frame ends the local direction of a stream, and some stream
has a deferred reset: the local `ends_stream` of `_frame_sent`. -/
def endsStream (c : Connection) (frame : Frame) : Bool :=
  decide (c.deferredResets.keys ≠ ∅) && frame.endStream && frame.isDataOrHeaders

/-- Take the deferred reset of a stream, and submit it unless the peer has
ended its direction too. -/
def submitDeferredReset (session : Option SessionId) (streamId : StreamId) : M Int := do
  let errorCode := (← conn).deferredResets.lookup streamId
  update fun c => { c with deferredResets := c.deferredResets.erase streamId }
  match errorCode with
  | none => return 0
  | some errorCode =>
    if (← askOn session (.sessionGetStreamRemoteClose streamId)) = 0 then
      let result ← askOn session (.submitRstStream streamId errorCode)
      raiseIf (result < 0) (nghttp2Error (← host) result)
    return 0

/-- `_frame_sent`: submit a deferred reset, or remember the reason of a final
GOAWAY. -/
def frameSent (session : Option SessionId) (frame : Frame) : M Int := do
  if endsStream (← conn) frame then
    attempt (submitDeferredReset session frame.streamId) callbackFailed
  else
    match frame.payload with
    | .goaway _ errorCode opaqueData =>
      attempt (do
        rememberGoaway errorCode opaqueData
        return 0) callbackFailed
    | _ => return 0

/-- The stream a failed frame is about: the stream of a HEADERS frame, the
promised stream of a PUSH_PROMISE frame. -/
def Frame.failedStream (frame : Frame) : Option StreamId :=
  match frame.payload with
  | .headers _ => some frame.streamId
  | .pushPromise promisedStreamId => some promisedStreamId
  | _ => none

/-- Whether the frame is HEADERS of a category other than request: the engine
closes the stream of a failed request or promise itself. -/
def Frame.needsReset (frame : Frame) : Bool :=
  match frame.payload with
  | .headers .request => false
  | .headers _ => true
  | _ => false

/-- The codes of a frame dropped because its stream or the session is going
away anyway. -/
def expectedNotSent (errorCode : Int) : Bool :=
  decide (errorCode = errStreamClosed ∨ errorCode = errStreamClosing
    ∨ errorCode = errStreamShutWr ∨ errorCode = errSessionClosing)

/-- The failures of the reset that `_frame_not_sent` tolerates. -/
def resetUnneeded (result : Int) : Bool :=
  decide (result = errStreamClosed ∨ result = errStreamClosing ∨ result = errSessionClosing)

/-- Record the failure of a frame, and reset its stream where the engine does
not close it. -/
def recordFailure (session : Option SessionId) (frame : Frame) (errorCode : Int) : M Int := do
  match frame.failedStream with
  | none => return 0
  | some streamId =>
    if expectedNotSent errorCode then return 0
    allocate .object
    let error := frameNotSentError (← host) errorCode
    update fun c => { c with localStreamErrors := c.localStreamErrors.insert streamId error }
    if frame.needsReset then
      let result ← askOn session (.submitRstStream streamId internalError)
      raiseIf (result < 0 ∧ resetUnneeded result = false) (nghttp2Error (← host) result)
    return 0

/-- `_frame_not_sent`: fold delayed frame-preparation failures into the stream
lifecycle. -/
def frameNotSent (session : Option SessionId) (frame : Frame) (errorCode : Int) : M Int :=
  attempt (recordFailure session frame errorCode) callbackFailed

end Ngh2
