import Mathlib.Data.Finmap
import Mathlib.Data.Finset.Insert
import Mathlib.Data.Finset.Erase

/-!
# The values a connection handles

The public vocabulary of the package – roles, configuration, header fields,
exceptions and events – and the frames the engine hands to its callbacks.
Byte strings are lists, integers that come from Python are unbounded, and a
stream identifier is an `Int`, since what the engine returns where an
identifier is expected may also be a negative error code.
-/

namespace Ngh2

/-- A byte string. -/
abbrev Bytes : Type := List UInt8

/-- A stream identifier. -/
abbrev StreamId : Type := Int

/-- A Python dictionary keyed by stream identifiers. Its order is never read. -/
abbrev Dict (α : Type) : Type := Finmap (fun _ : StreamId => α)

/-- The local endpoint's HTTP/2 role. -/
inductive Role where
  | client
  | server
  deriving DecidableEq, Repr

/-- A header field as `ngh2` stores it: the pair, and whether it is a
`NeverIndexedHeader`. -/
structure Header where
  /-- The field name. -/
  name : Bytes
  /-- The field value. -/
  value : Bytes
  /-- Whether HPACK must encode the field as never indexed. -/
  neverIndexed : Bool := false
  deriving DecidableEq, Repr

/-! ## Exceptions -/

/-- The classes below `NGH2Error`. -/
inductive ErrorKind where
  | connectionState
  | connectionClosing
  | noAvailableStreamID
  | streamState
  | streamUnavailable
  | pushDisabled
  | connectionProtocol
  | streamProtocol
  | denialOfService
  | internal
  deriving DecidableEq, Repr

/-- **An exception**: one of the package's own, or one of the built-in ones
its code raises or lets through. `other` is whatever the caller's own code
raised while an argument was converted. -/
inductive PyError where
  | ngh2 (kind : ErrorKind) (message : String)
  | typeError (message : String)
  | valueError (message : String)
  | memoryError (message : String)
  | bufferError
  | keyError (key : StreamId)
  | other (tag : Nat)
  deriving DecidableEq, Repr

namespace PyError

/-- `isinstance(error, NGH2Error)`. -/
def isNGH2Error : PyError → Bool
  | .ngh2 _ _ => true
  | _ => false

/-- `isinstance(error, ConnectionStateError)`: the class and its two
subclasses. -/
def isConnectionStateError : PyError → Bool
  | .ngh2 .connectionState _ => true
  | .ngh2 .connectionClosing _ => true
  | .ngh2 .noAvailableStreamID _ => true
  | _ => false

/-- `str(error)`, as far as the package uses it. -/
def message : PyError → String
  | .ngh2 _ m => m
  | .typeError m => m
  | .valueError m => m
  | .memoryError m => m
  | _ => ""

end PyError

/-! ## Configuration -/

/-- Connection options. The integers are unbounded, as they are until the
constructor validates them. -/
structure Configuration where
  autoWindowUpdate : Bool := true
  initialPeerMaxConcurrentStreams : Int := 100
  maxReservedRemoteStreams : Int := 200
  maxSendHeaderBlockLength : Int := 65536
  maxSendDataFrameSize : Int := 65536
  maxDeflateDynamicTableSize : Int := 4096
  maxOutboundAck : Int := 1000
  maxSettings : Int := 32
  streamResetRateLimit : Int × Int := (1000, 33)
  maxContinuations : Int := 8
  glitchRateLimit : Int × Int := (10000, 330)
  maxInboundHeaderListSize : Int := 65536
  maxInboundHeaderCount : Int := 1024
  deriving DecidableEq, Repr

/-! ## Events -/

/-- The events of `ngh2.events`, with their public fields. -/
inductive Event where
  | requestReceived (streamId : StreamId) (headers : List Header) (endStream : Bool)
  | responseReceived (streamId : StreamId) (headers : List Header) (endStream : Bool)
  | informationalResponseReceived (streamId : StreamId) (headers : List Header)
  | trailersReceived (streamId : StreamId) (headers : List Header)
  | pushedStreamReceived (streamId promisedStreamId : StreamId) (headers : List Header)
  | dataReceived (streamId : StreamId) (data : Bytes) (endStream : Bool)
  | streamReset (streamId : StreamId) (errorCode : Nat)
  | streamClosed (streamId : StreamId) (errorCode : Nat) (localError : Option PyError)
  | settingsReceived (settings : List (Nat × Nat))
  | settingsAcknowledged
  | pingReceived (opaqueData : Bytes)
  | pingAcknowledged (opaqueData : Bytes)
  | windowUpdated (streamId : StreamId) (increment : Int)
  | goAwayReceived (lastStreamId : StreamId) (errorCode : Nat) (debugData : Bytes)
  | connectionClosed (errorCode : Nat) (debugData : Bytes)
  | altSvcReceived (streamId : StreamId) (origin fieldValue : Bytes)
  | originReceived (origins : List Bytes)
  | priorityUpdateReceived (prioritizedStreamId : StreamId) (fieldValue : Bytes)
  deriving DecidableEq, Repr

/-! ## Frames -/

/-- The category of a HEADERS frame, `NGHTTP2_HCAT_*`. -/
inductive HeadersCategory where
  | request
  | response
  | pushResponse
  | headers
  deriving DecidableEq, Repr

/-- The type of a frame together with the fields of that type that the
callbacks read. -/
inductive FramePayload where
  | data
  | headers (category : HeadersCategory)
  | rstStream (errorCode : Nat)
  | settings (entries : List (Nat × Nat))
  | pushPromise (promisedStreamId : StreamId)
  | ping (opaqueData : Bytes)
  | goaway (lastStreamId : StreamId) (errorCode : Nat) (opaqueData : Bytes)
  | windowUpdate (increment : Int)
  | altsvc (origin fieldValue : Bytes)
  | origin (origins : List Bytes)
  | priorityUpdate (streamId : StreamId) (fieldValue : Bytes)
  | other (type : Nat)
  deriving DecidableEq, Repr

/-- A frame as a callback sees it: the header's stream identifier and flag
byte, and the payload. -/
structure Frame where
  streamId : StreamId
  flags : Nat := 0
  payload : FramePayload
  deriving DecidableEq, Repr

namespace Frame

/-- `frame.hd.flags & NGHTTP2_FLAG_END_STREAM`. -/
def endStream (f : Frame) : Bool := f.flags.testBit 0

/-- `frame.hd.flags & NGHTTP2_FLAG_ACK`: the same bit, read on other frame
types. -/
def ack (f : Frame) : Bool := f.flags.testBit 0

/-- `frame.hd.type in (NGHTTP2_DATA, NGHTTP2_HEADERS)`. -/
def isDataOrHeaders (f : Frame) : Bool :=
  match f.payload with
  | .data => true
  | .headers _ => true
  | _ => false

end Frame

end Ngh2
