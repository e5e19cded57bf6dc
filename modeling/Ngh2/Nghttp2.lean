import Ngh2.Types

/-!
# The engine's side of the interface

libnghttp2 is linked, not modelled. What the binding sees of it is a set of
functions that take the session and answer with an integer, and a set of
callbacks it makes while one of three of them – `nghttp2_session_send`,
`nghttp2_session_mem_recv2`, `nghttp2_session_upgrade2` – is on the stack. The
first set is `EngineCall`, a datum per function with the arguments it was
given; the second is `Callback`, with the arguments the engine gives it.

The result codes are those of the public header. A code strictly below
`NGHTTP2_ERR_FATAL` is fatal.
-/

namespace Ngh2

namespace Nghttp2

/-! ## Result codes -/

def errInvalidArgument : Int := -501
def errWouldblock : Int := -504
def errProto : Int := -505
def errDeferred : Int := -508
def errStreamIdNotAvailable : Int := -509
def errStreamClosed : Int := -510
def errStreamClosing : Int := -511
def errStreamShutWr : Int := -512
def errInvalidStreamId : Int := -513
def errInvalidStreamState : Int := -514
def errStartStreamNotAllowed : Int := -516
def errTemporalCallbackFailure : Int := -521
def errFrameSizeError : Int := -522
def errPause : Int := -526
def errPushDisabled : Int := -528
def errDataExist : Int := -529
def errSessionClosing : Int := -530
def errTooManySettings : Int := -537
def errFatal : Int := -900
def errNomem : Int := -901
def errCallbackFailure : Int := -902
def errBadClientMagic : Int := -903
def errFlooded : Int := -904
def errTooManyContinuations : Int := -905

/-- The wire code `NGHTTP2_INTERNAL_ERROR`. -/
def internalError : Nat := 2

/-- `nghttp2_is_fatal`: strictly below `NGHTTP2_ERR_FATAL`. -/
def isFatal (code : Int) : Bool := decide (code < errFatal)

/-- A fatal code is negative. -/
theorem neg_of_isFatal {code : Int} (h : isFatal code = true) : code < 0 := by
  have : code < -900 := of_decide_eq_true h
  omega

end Nghttp2

/-- What distinguishes one native session from another: its address. -/
abbrev SessionId : Type := Nat

/-- **The engine functions that take the session**, each with its arguments.
`sessionUpgrade2`, `sessionMemRecv2` and `sessionSend` are the three that may
call back. -/
inductive EngineCall where
  | submitSettings (entries : List (Nat × Nat))
  | sessionUpgrade2 (settingsPayload : Bytes) (headRequest : Bool)
  | sessionMemRecv2 (data : Bytes)
  | sessionSend
  | sessionCheckRequestAllowed
  | submitRequest2 (headers : List Header) (hasProvider : Bool)
  | submitResponse2 (streamId : StreamId) (headers : List Header) (hasProvider : Bool)
  | submitHeaders (streamId : StreamId) (headers : List Header)
  | submitTrailer (streamId : StreamId) (headers : List Header)
  | submitPushPromise (streamId : StreamId) (headers : List Header)
  | sessionResumeData (streamId : StreamId)
  | sessionGetStreamLocalClose (streamId : StreamId)
  | sessionGetStreamRemoteClose (streamId : StreamId)
  | submitRstStream (streamId : StreamId) (errorCode : Nat)
  | submitPing (opaqueData : Bytes)
  | sessionGetLastProcStreamId
  | submitGoaway (lastStreamId : StreamId) (errorCode : Nat) (debugData : Bytes)
  | submitShutdownNotice
  | sessionTerminateSession (errorCode : Nat)
  | sessionTerminateSession2 (lastStreamId : StreamId) (errorCode : Nat)
  | sessionConsume (streamId : StreamId) (size : Nat)
  | sessionConsumeConnection (size : Nat)
  | sessionSetLocalWindowSize (streamId : StreamId) (windowSize : Nat)
  | submitPriorityUpdate (streamId : StreamId) (fieldValue : Bytes)
  | sessionChangeExtpriStreamPriority (streamId : StreamId) (urgency : Nat)
      (incremental ignoreClientSignal : Bool)
  | sessionGetExtpriStreamPriority (streamId : StreamId)
  | submitAltsvc (streamId : StreamId) (origin fieldValue : Bytes)
  | submitOrigin (origins : List Bytes)
  | sessionWantRead
  | sessionWantWrite
  | sessionGetNextStreamId
  | sessionGetRemoteWindowSize
  | sessionGetStreamRemoteWindowSize (streamId : StreamId)
  | sessionGetLocalWindowSize
  | sessionGetStreamLocalWindowSize (streamId : StreamId)
  | sessionGetLocalSettings (setting : Nat)
  | sessionGetRemoteSettings (setting : Nat)
  deriving DecidableEq, Repr

/-- **A use of a native session**, in the order in which they happen: it is
created, it is passed to an engine function, or it is deleted. The session
passed may be `NULL`, which is what the binding must never let happen. -/
inductive Issued where
  | created (session : SessionId)
  | call (session : Option SessionId) (query : EngineCall)
  | deleted (session : SessionId)
  deriving DecidableEq, Repr

/-- A serialized frame header: nine bytes, which is how many
`nghttp2_send_data_callback` may read. -/
abbrev FrameHeader : Type := { bytes : Bytes // bytes.length = 9 }

/-- **The callbacks the engine makes**, each with the arguments it gives. The
session and the user data are left out: the one is the session being driven,
the other is the connection. -/
inductive Callback where
  | collectOutput (data : Bytes)
  | sendBody (streamId : StreamId) (padlen : Nat) (frameHeader : FrameHeader) (length : Nat)
  | dataFrameLength (streamId : StreamId) (sessionRemoteWindowSize streamRemoteWindowSize : Int)
      (remoteMaxFrameSize : Nat)
  | readBody (streamId : StreamId) (length : Nat)
  | beginFrame (isData : Bool) (streamId : StreamId) (length : Nat)
  | beginHeaders
  | header (name value : Bytes) (noIndex : Bool)
  | invalidHeader
  | dataChunk (streamId : StreamId) (data : Bytes)
  | frameReceived (frame : Frame)
  | streamClosed (streamId : StreamId) (errorCode : Nat)
  | frameSent (frame : Frame)
  | frameNotSent (frame : Frame) (errorCode : Int)
  deriving DecidableEq, Repr

/-- **What a callback gives back to the engine**: its integer result, and for
`data_source_read_callback2` the flags it set and the bytes it copied into the
engine's frame buffer. -/
structure Reply where
  /-- The integer the callback returns. -/
  code : Int
  /-- `NGHTTP2_DATA_FLAG_NO_COPY`. -/
  noCopy : Bool := false
  /-- `NGHTTP2_DATA_FLAG_EOF`. -/
  eof : Bool := false
  /-- `NGHTTP2_DATA_FLAG_NO_END_STREAM`. -/
  noEndStream : Bool := false
  /-- The bytes copied into the engine's buffer. -/
  buffer : Bytes := []
  deriving DecidableEq, Repr

/-- **The allocations of a step that may fail.** One is modelled where its
failure leaves something that a call refused before its submission, or a
callback that does nothing, does not leave. The others are taken to succeed:
the exception of a check, and the arrays and integer objects made before the
engine is called, whose failure raises `MemoryError` in place of what the check
or the engine would have said and changes nothing; and the copy a list makes of
the slots deleted from its front, whose failure is one more way for a callback
to fail. -/
inductive Alloc where
  /-- The staging buffer of the output, when it is created or grown. -/
  | output (size : Nat)
  /-- The final trimming of the staged output. -/
  | trim (size : Nat)
  /-- A byte string. -/
  | bytes (size : Nat)
  /-- An event, the error recorded for a stream, an array of the engine. -/
  | object
  /-- The empty list that replaces the header block. -/
  | list
  /-- The `_BodySource` of an accepted message, and its entry. -/
  | body
  /-- The entry of an accepted response. -/
  | response
  /-- The stream identifier an operation returns. -/
  | identifier
  /-- The exception that translates an engine code. -/
  | exception
  deriving DecidableEq, Repr

/-- **What is outside the binding during one step**: the engine's answer to
each call made in it, what constructing a session gives, and which allocations
succeed. The engine does not run between two calls of one step, so its answer
to a call is a function of the call. -/
structure Env where
  /-- The engine's answer to a call. -/
  reply : EngineCall → Int
  /-- Whether an allocation succeeds. -/
  alloc : Alloc → Bool := fun _ => true
  /-- `nghttp2_session_callbacks_new`. -/
  callbacksNew : Int := 0
  /-- `nghttp2_option_new`. -/
  optionNew : Int := 0
  /-- `nghttp2_session_client_new2` or `nghttp2_session_server_new2`: the
  result and the session stored through the pointer. -/
  sessionNew : Int × SessionId := (0, 0)
  /-- The structure `nghttp2_session_get_extpri_stream_priority` fills. -/
  extpri : StreamId → Nat × Bool := fun _ => (3, false)

/-- The width of a C pointer, and so of `size_t` and `Py_ssize_t`. -/
inductive PointerWidth where
  | w32
  | w64
  deriving DecidableEq, Repr

namespace PointerWidth

/-- The width in bits. -/
def bits : PointerWidth → Nat
  | .w32 => 32
  | .w64 => 64

/-- The number of values of a `size_t`, modulo which it counts. -/
def modulus (w : PointerWidth) : Nat := 2 ^ w.bits

theorem modulus_pos (w : PointerWidth) : 0 < w.modulus := Nat.two_pow_pos w.bits

/-- `<size_t>-1`. -/
def sizeMax (w : PointerWidth) : Nat := 2 ^ w.bits - 1

/-- `(<size_t>-1) >> 1`, the largest `Py_ssize_t`. -/
def ssizeMax (w : PointerWidth) : Nat := w.sizeMax / 2

end PointerWidth

/-- What the platform and the linked engine fix once for all: the pointer
width and the engine's diagnostic texts. -/
structure Host where
  pointerWidth : PointerWidth := .w64
  /-- `nghttp2_strerror`. -/
  strerror : Int → String := fun _ => ""

end Ngh2
