import Ngh2.Construction
import Ngh2.HeaderFields

/-!
# Public calls, and the code of their arguments

A public method converts its arguments before it does anything else, and most
conversions may run code of the caller: `__index__`, `__bool__`, `__bytes__`,
the acquisition of a buffer, the iteration of a producer, the unpacking of an
item. `Operation.convert` is this first part of a method, in its order; what it
ends in is the operation of `Ngh2.Machine` with converted arguments.

What caller's code finds depends on the caller, and while it runs, it may call
the connection again. A conversion is therefore run on the findings there are
so far (`Replay`): it is cut short where it needs one that is missing, and when
the code has come back with it, the conversion is run again on one finding
more. Between two findings nothing happens but the conversion, which reads no
field of the connection except `_server`, and that as it was at the time.
-/

namespace Ngh2

open Effect Conversion

/-! ## What caller's code finds -/

/-- **What caller's code comes back with.** -/
inductive Finding where
  | raised (error : PyError)
  /-- It is done, and its result does not matter. -/
  | done
  /-- `bool(value)`, and every other question that is answered by yes or no. -/
  | truth (value : Bool)
  /-- `operator.index(value)`. -/
  | index (value : Int)
  /-- The bytes of a buffer, or `bytes(value)`. -/
  | bytes (data : Bytes)
  /-- The iterator of a header producer. -/
  | iterator (ref : Ref)
  /-- Its next item, or its end. -/
  | item (item : Option Pair)
  /-- What an item unpacks into. -/
  | pair (name value : Object)
  /-- The next value of a producer of byte strings, or its end. -/
  | element (element : Option Object)
  /-- The exact `bytes` that a copy was put into. -/
  | copied (address : Address)
  deriving DecidableEq, Repr

namespace Finding

def asDone : Finding → Option Unit
  | done => some ()
  | _ => none

def asTruth : Finding → Option Bool
  | truth value => some value
  | _ => none

def asIndex : Finding → Option Int
  | index value => some value
  | _ => none

def asBytes : Finding → Option Bytes
  | bytes data => some data
  | _ => none

def asIterator : Finding → Option Ref
  | iterator ref => some ref
  | _ => none

def asItem : Finding → Option (Option Pair)
  | item x => some x
  | _ => none

def asPair : Finding → Option (Object × Object)
  | pair name value => some (name, value)
  | _ => none

def asElement : Finding → Option (Option Object)
  | element x => some x
  | _ => none

def asCopied : Finding → Option Address
  | copied address => some address
  | _ => none

end Finding

/-- What the binding sees when it goes on: what the exact lists and tuples of
the caller hold, and `_server`. -/
structure Moment where
  contents : Ref → List Pair := fun _ => []
  server : Bool := false

/-- **The findings of a conversion**, those that were not used yet, and the
moment it has reached. -/
structure Replay where
  moment : Moment
  given : List (Finding × Moment) := []
  /-- Whether the conversion was cut short. -/
  waits : Bool := false

/-- Cut a conversion short. The exception carries nothing, and is caught
nowhere. -/
def cutShort {α : Type} : Code Replay α := fun _ w => (.error (.other 0), { w with waits := true })

/-- Use the next finding. -/
def await {α : Type} (view : Finding → Option α) : Code Replay α := fun held w =>
  match w.given with
  | [] => cutShort held w
  | (finding, moment) :: given =>
    match finding with
    | .raised e => (.error e, { w with moment, given })
    | finding =>
      match view finding with
      | some a => (.ok a, { w with moment, given })
      | none => cutShort held w

/-- **The caller that is known by its findings.** Where its objects are stored
is not among them. -/
def replaying : Caller Replay where
  memory _ _ := none
  contents ref w := w.moment.contents ref
  iter _ := await Finding.asIterator
  next _ := await Finding.asItem
  unpack _ := await Finding.asPair
  isInstance _ := await Finding.asTruth
  release _ := await Finding.asDone
  copy data := fun held w =>
    match await Finding.asCopied held w with
    | (.ok address, w) => (.ok { address, content := data }, w)
    | (.error e, w) => (.error e, w)
  allocate := await Finding.asDone

/-! ## Converting one argument -/

/-- The data argument of `send_data`. -/
inductive DataArgument where
  /-- An instance of `bytes`. -/
  | bytes (b : BytesObject)
  /-- A `bytearray` or a `memoryview`, of which `bytes()` makes a copy. -/
  | buffer
  /-- Anything else. -/
  | other
  deriving DecidableEq, Repr

/-- The bytes of an argument whose type is checked later. -/
def Object.content : Object → Option Bytes
  | .bytes b => some b.content
  | .other => none

namespace Replay

/-- Run caller's code for its finding. -/
def find {α : Type} (view : Finding → Option α) : Conversion Replay α :=
  call [] (fun _ => await view) fun _ => []

/-- The conversion of a `bint` argument. -/
def truth : Conversion Replay Bool := find Finding.asTruth

/-- `operator.index`, as the seven conversions of integers take it. -/
def index : Conversion Replay Index :=
  attempt (do return .ok (← find Finding.asIndex)) fun e => return .error e

/-- An integer argument. -/
def integerArg {α : Type} (convert : Index → Except PyError α) : Conversion Replay α := do
  lift (convert (← index))

/-- An integer argument that may be `None`. -/
def optionalArg {α : Type} (given : Bool) (convert : Index → Except PyError α) :
    Conversion Replay (Option α) :=
  if given then do return some (← integerArg convert) else return none

/-- An argument that must be an instance of `bytes`. -/
def bytesArg (value : Object) (message : String) : Conversion Replay Bytes :=
  match value with
  | .bytes b => return b.content
  | .other => raise (.typeError message)

/-- A number of turns no loop of a conversion takes: each of them uses a
finding. -/
def turns : Conversion Replay Nat := look (fun _ w => w.given.length + 1) fun _ => []

/-- The loop over a producer, for at most so many turns. -/
def collect {α : Type} (next : Conversion Replay (Option α)) : Nat → List α →
    Conversion Replay (List α)
  | 0, _ => perform [] fun _ => cutShort
  | turns + 1, found => do
    match ← next with
    | none => return found
    | some a => collect next turns (found ++ [a])

/-! ## Settings, origins and header fields -/

/-- A key or a value of a mapping of settings. -/
def settingInteger : Conversion Replay Int := do
  match ← index with
  | .ok v => return v
  | .error (.typeError _) => raise (.typeError "settings must map integers to integers")
  | .error e => raise e

/-- One turn of the loop of `_normalize_settings`. -/
def nextSetting : Conversion Replay (Option (Nat × Nat)) := do
  -- whether there is another item
  if ← find Finding.asTruth then
    find Finding.asDone
    let key ← settingInteger
    let value ← settingInteger
    if key < 0 ∨ 0xFFFF < key ∨ value < 0 ∨ 0xFFFFFFFF < value then
      raise (.valueError "setting identifiers or values are out of range")
    return some (key.toNat, value.toNat)
  else return none

/-- **`_normalize_settings`**, where the argument is not `None`. -/
def normalizeSettings (given : Bool) : Conversion Replay (List (Nat × Nat)) := do
  if given then
    -- `settings.items()`, for an object that has the attribute
    if !(← find Finding.asTruth) then raise (.typeError "settings must be a mapping")
    find Finding.asDone
    collect nextSetting (← turns) []
  else return []

/-- One turn of the loop of `send_origins`. -/
def nextOrigin : Conversion Replay (Option Bytes) := do
  match ← find Finding.asElement with
  | none => return none
  | some value => return some (← bytesArg value "each origin must be bytes")

/-- The header fields of an operation that submits them at once. -/
def headersArg (headers : Headers) : Conversion Replay (List Header) := do
  match ← snapshotHeaders (← turns) headers with
  | some (fields, _) => return fields.filterMap Pair.header
  | none => perform [] fun _ => cutShort

/-- The fields of trailers, which are queued. -/
def trailersArg (headers : Headers) : Conversion Replay (List Header) := do
  match ← snapshotTrailers (← turns) headers with
  | some fields => return fields.filterMap Pair.header
  | none => perform [] fun _ => cutShort

/-- The chunk of `send_data`. -/
def chunkArg : DataArgument → Conversion Replay Bytes
  | .bytes b => return b.content
  | .buffer => find Finding.asBytes
  | .other => raise (.typeError "data must be a bytes-like object")

end Replay

/-! ## The methods -/

/-- **A public method**, with what is known of its arguments before any code of
the caller has run. A flag says whether an argument that may be `None` is
something else. -/
inductive Operation where
  | initiateConnection (settings : Bool)
  | initiateUpgrade (settingsPayload : Object) (localSettings : Bool)
  | receiveData
  | events
  | dataToSend (amount : Bool)
  | sendRequest (headers : Headers)
  | sendResponse (headers : Headers)
  | sendInformationalResponse (headers : Headers)
  | sendTrailers (headers : Headers)
  | sendPushPromise (headers : Headers)
  | sendData (data : DataArgument)
  | endStream
  | resetStream
  | updateSettings (settings : Bool)
  | sendPing (opaqueData : Object)
  | sendGoaway (lastStreamId : Bool) (debugData : Object)
  | sendShutdownNotice
  | terminateConnection (lastStreamId : Bool)
  | consumeReceivedData
  | setLocalWindowSize
  | sendPriorityUpdate (fieldValue : Object)
  | setStreamPriority
  | getStreamPriority
  | sendAltSvc (fieldValue origin : Object)
  | sendOrigins
  | wantRead
  | wantWrite
  | nextStreamId
  | canSendRequest
  | queuedBodySize (streamId : Bool)
  | remoteWindowSize
  | localWindowSize
  | localSettings
  | remoteSettings
  deriving DecidableEq, Repr

open Replay in
/-- **What a method does before its body**: the flags among its arguments are
converted when it is called, and the others in the order of its lines. -/
def Operation.convert (width : PointerWidth) : Operation → Conversion Replay Request
  | .initiateConnection settings => do
    return .initiateConnection (← normalizeSettings settings)
  | .initiateUpgrade settingsPayload settings => do
    let headRequest ← truth
    let server ← look (fun _ w => w.moment.server) fun _ => []
    if !server && settings then
      raise (.valueError "client upgrade does not accept local_settings")
    let payload ← bytesArg settingsPayload "settings_payload must be bytes"
    let entries ← if server then normalizeSettings settings else pure []
    return .initiateUpgrade payload entries headRequest
  | .receiveData => do return .receiveData (← find Finding.asBytes)
  | .events => return .takeEvents
  | .dataToSend amount => do
    return .dataToSend (← optionalArg amount (nonnegativeSize width · "amount"))
  | .sendRequest headers => do
    let endStream ← truth
    return .sendRequest (← headersArg headers) endStream
  | .sendResponse headers => do
    let endStream ← truth
    let streamId ← integerArg streamIdArg
    return .sendResponse streamId (← headersArg headers) endStream
  | .sendInformationalResponse headers => do
    let streamId ← integerArg streamIdArg
    return .sendInformationalResponse streamId (← headersArg headers)
  | .sendTrailers headers => do
    let streamId ← integerArg streamIdArg
    return .sendTrailers streamId (← trailersArg headers)
  | .sendPushPromise headers => do
    let streamId ← integerArg streamIdArg
    return .sendPushPromise streamId (← headersArg headers)
  | .sendData data => do
    let endStream ← truth
    let streamId ← integerArg streamIdArg
    return .sendData streamId (← chunkArg data) endStream
  | .endStream => do return .sendData (← integerArg streamIdArg) [] true
  | .resetStream => do
    let afterEndStream ← truth
    let streamId ← integerArg streamIdArg
    let errorCode ← integerArg (uint32 · "error_code")
    return .resetStream streamId errorCode afterEndStream
  | .updateSettings settings => do return .updateSettings (← normalizeSettings settings)
  | .sendPing opaqueData => return .sendPing opaqueData.content
  | .sendGoaway lastStreamId debugData => do
    let errorCode ← integerArg (uint32 · "error_code")
    let lastStreamId ← optionalArg lastStreamId (uint31 · "last_stream_id")
    let debugData ← bytesArg debugData "debug_data must be bytes"
    return .sendGoaway errorCode (lastStreamId.map Int.ofNat) debugData
  | .sendShutdownNotice => return .sendShutdownNotice
  | .terminateConnection lastStreamId => do
    let errorCode ← integerArg (uint32 · "error_code")
    let lastStreamId ← optionalArg lastStreamId (uint31 · "last_stream_id")
    return .terminateConnection errorCode (lastStreamId.map Int.ofNat)
  | .consumeReceivedData => do
    let streamId ← integerArg streamIdArg
    return .consumeReceivedData streamId (← integerArg (nonnegativeSize width · "amount"))
  | .setLocalWindowSize => do
    let windowSize ← integerArg (uint31 · "window_size")
    let streamId ← integerArg (uint31 · "stream_id")
    return .setLocalWindowSize windowSize streamId
  | .sendPriorityUpdate fieldValue => do
    return .sendPriorityUpdate (← integerArg streamIdArg) fieldValue.content
  | .setStreamPriority => do
    let ignoreClientSignal ← truth
    let streamId ← integerArg streamIdArg
    -- `isinstance(priority, Priority)`, then the two attributes
    if !(← truth) then raise (.typeError "priority must be a Priority")
    find Finding.asDone
    let urgency ← integerArg (uint32 · "priority.urgency")
    let incremental ← truth
    return .setStreamPriority streamId urgency incremental ignoreClientSignal
  | .getStreamPriority => do return .getStreamPriority (← integerArg streamIdArg)
  | .sendAltSvc fieldValue origin => do
    let streamId ← integerArg (uint31 · "stream_id")
    let fieldValue ← bytesArg fieldValue "field_value must be bytes"
    let origin ← bytesArg origin "origin must be bytes"
    return .sendAltSvc streamId origin fieldValue
  | .sendOrigins => do
    -- `iter(origins)`
    find Finding.asDone
    return .sendOrigins (← collect nextOrigin (← turns) [])
  | .wantRead => return .wantRead
  | .wantWrite => return .wantWrite
  | .nextStreamId => return .nextStreamId
  | .canSendRequest => return .canSendRequest
  | .queuedBodySize streamId => do
    return .queuedBodySize (← optionalArg streamId streamIdArg)
  | .remoteWindowSize => do return .remoteWindowSize (← integerArg (uint31 · "stream_id"))
  | .localWindowSize => do return .localWindowSize (← integerArg (uint31 · "stream_id"))
  | .localSettings => return .localSettings
  | .remoteSettings => return .remoteSettings

/-! ## A call that waits for caller's code -/

/-- **A call inside of caller's code**: its method, the moment it began at, and
the findings so far, oldest first. -/
structure Pending where
  operation : Operation
  begun : Moment
  given : List (Finding × Moment) := []

/-- How far a call gets with its findings. -/
inductive Advance where
  /-- It waits for another. -/
  | waiting
  /-- An argument was refused. -/
  | rejected (error : PyError)
  /-- Its arguments are converted. -/
  | ready (request : Request)
  deriving DecidableEq

/-- **How far a call gets**; nothing, if it did not ask for its last finding. -/
def Pending.advance (width : PointerWidth) (call : Pending) : Option Advance :=
  let p := (call.operation.convert width).run replaying
    { world := { moment := call.begun, given := call.given } }
  if p.2.world.given ≠ [] then none
  else
    match p.1 with
    | .ok request => some (.ready request)
    | .error e => some (if p.2.world.waits then .waiting else .rejected e)

end Ngh2
