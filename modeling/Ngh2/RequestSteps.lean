import Ngh2.Machine

/-!
# What calling an operation does

`Requested host env c r` relates an operation to the result it may have on a
connection `c` and the world it may leave, with one case for each thing an
operation can do: raise and change nothing, raise and invalidate, answer a
question, or make the one change it is for. Whoever proves something of every
step looks at these cases and never at a body.

The cases are established body by body (`requested`), with one rule for each
kind of line a body begins with: a check, a query, a submission. A rule turns
the line into its raising case and leaves the rest of the body, which is why
most operations take two or three lines.
-/

namespace Ngh2

open Nghttp2 Effect

/-- The engine functions that only read. -/
def EngineCall.isQuery : EngineCall → Bool
  | .sessionCheckRequestAllowed => true
  | .sessionGetStreamLocalClose _ => true
  | .sessionGetStreamRemoteClose _ => true
  | .sessionGetLastProcStreamId => true
  | .sessionGetExtpriStreamPriority _ => true
  | .sessionWantRead => true
  | .sessionWantWrite => true
  | .sessionGetNextStreamId => true
  | .sessionGetRemoteWindowSize => true
  | .sessionGetStreamRemoteWindowSize _ => true
  | .sessionGetLocalWindowSize => true
  | .sessionGetStreamLocalWindowSize _ => true
  | .sessionGetLocalSettings _ => true
  | .sessionGetRemoteSettings _ => true
  | _ => false

/-- The operations that change nothing in the connection when they succeed:
the control frames and the queries. -/
def Request.isQuiet : Request → Bool
  | .sendPushPromise _ _ => true
  | .updateSettings _ => true
  | .sendPing _ => true
  | .sendGoaway _ _ _ => true
  | .sendShutdownNotice => true
  | .setLocalWindowSize _ _ => true
  | .sendPriorityUpdate _ _ => true
  | .setStreamPriority _ _ _ _ => true
  | .getStreamPriority _ => true
  | .sendAltSvc _ _ _ => true
  | .sendOrigins _ => true
  | .wantRead => true
  | .wantWrite => true
  | .nextStreamId => true
  | .canSendRequest => true
  | .queuedBodySize _ => true
  | .remoteWindowSize _ => true
  | .localWindowSize _ => true
  | .localSettings => true
  | .remoteSettings => true
  | _ => false

/-- The call that wakes a deferred source. -/
def EngineCall.isResume : EngineCall → Bool
  | .sessionResumeData _ => true
  | _ => false

/-- The three functions that may call back. -/
def EngineCall.isDrive : EngineCall → Bool
  | .sessionUpgrade2 _ _ => true
  | .sessionMemRecv2 _ => true
  | .sessionSend => true
  | _ => false

/-- **The submission of an operation**: what it may ask of the engine besides
questions and the waking of a source. -/
def Request.Submits : Request → EngineCall → Prop
  | .initiateConnection entries => (· = .submitSettings entries)
  | .sendRequest headers endStream => (· = .submitRequest2 headers !endStream)
  | .sendResponse s headers endStream => (· = .submitResponse2 s headers !endStream)
  | .sendInformationalResponse s headers => (· = .submitHeaders s headers)
  | .sendPushPromise s headers => (· = .submitPushPromise s headers)
  | .resetStream s errorCode _ => (· = .submitRstStream s errorCode)
  | .updateSettings entries => (· = .submitSettings entries)
  | .sendPing _ => fun q => ∃ opaqueData, q = .submitPing opaqueData
  | .sendGoaway errorCode _ debugData => fun q => ∃ s, q = .submitGoaway s errorCode debugData
  | .sendShutdownNotice => (· = .submitShutdownNotice)
  | .terminateConnection errorCode _ => fun q =>
    q = .sessionTerminateSession errorCode ∨ ∃ s, q = .sessionTerminateSession2 s errorCode
  | .consumeReceivedData s amount => (· = .sessionConsume s amount)
  | .setLocalWindowSize size s => (· = .sessionSetLocalWindowSize s size)
  | .sendPriorityUpdate s _ => fun q => ∃ fieldValue, q = .submitPriorityUpdate s fieldValue
  | .setStreamPriority s urgency incremental ignoreClientSignal =>
    (· = .sessionChangeExtpriStreamPriority s urgency incremental ignoreClientSignal)
  | .sendAltSvc s origin fieldValue => (· = .submitAltsvc s origin fieldValue)
  | .sendOrigins origins => (· = .submitOrigin origins)
  | _ => fun _ => False

/-- No submission is the waking of a source. -/
theorem Request.Submits.not_resume {r : Request} {q : EngineCall} (h : r.Submits q) :
    q.isResume = false := by
  cases r with
  | sendPing | sendGoaway | sendPriorityUpdate =>
    obtain ⟨_, rfl⟩ := h
    rfl
  | terminateConnection => obtain rfl | ⟨_, rfl⟩ := h <;> rfl
  | _ => first | exact False.elim h | (obtain rfl := h; rfl)

/-- **What an operation may ask of the engine.** -/
def Request.Asks (r : Request) (q : EngineCall) : Prop :=
  q.isQuery = true ∨ r.Submits q ∨ q.isResume = true ∨ q.isDrive = true

/-- The calls of an operation that failed: queries, and a submission the engine
refused. -/
def Tried (env : Env) (c : Connection) (r : Request) (issued : List Issued) : Prop :=
  ∀ i ∈ issued, ∃ q, i = .call c.session q ∧
    (q.isQuery = true ∨ env.reply q < 0 ∧ (r.Submits q ∨ q.isResume = true))

/-- The calls of an operation that changed nothing: queries, and a submission
the engine refused. A refusal to wake a source is not among them, since what
was to be sent stays queued. -/
def Declined (env : Env) (c : Connection) (r : Request) (issued : List Issued) : Prop :=
  ∀ i ∈ issued, ∃ q, i = .call c.session q ∧
    (q.isQuery = true ∨ env.reply q < 0 ∧ r.Submits q)

/-- The calls of a quiet operation. -/
def Quiet (c : Connection) (r : Request) (issued : List Issued) : Prop :=
  ∀ i ∈ issued, ∃ q, i = .call c.session q ∧ (q.isQuery = true ∨ r.Submits q)

/-- The connection is alive, and no longer what `__cinit__` left. -/
def Connection.Started (c : Connection) : Prop :=
  c.failed = false ∧ (c.initialized = true ∨ c.active = true)

theorem Connection.Usable.started {c : Connection} (h : c.Usable) : c.Started := ⟨h.1, .inr h.2.1⟩

/-- A connection with the limits of a configuration. -/
def Connection.withLimits (c : Connection) (autoWindowUpdate : Bool)
    (maxSendDataFrameSize maxSettings maxInboundHeaderListSize maxInboundHeaderCount : Nat) :
    Connection :=
  { c with
    autoWindowUpdate, maxSendDataFrameSize, maxSettings
    maxInboundHeaderListSize, maxInboundHeaderCount }

/-- A body after its trailers were queued. -/
def BodySource.withTrailers (body : BodySource) (headers : List Header) : BodySource :=
  { body with trailers := some headers, ended := true }

/-- A body whose source is not deferred. -/
def BodySource.resumed (body : BodySource) : BodySource := { body with deferred := false }

/-- **What calling an operation does**: its result, and the world it leaves. -/
inductive Requested (host : Host) (env : Env) (c : Connection) :
    Request → Except PyError Started × World → Prop
  /-- It raised, and changed nothing. -/
  | rejected {r : Request} {e : PyError} {is : List Issued} (calls : Declined env c r is) :
      Requested host env c r (.error e, ⟨host, c, is⟩)
  /-- It raised the translation of a fatal code, and invalidated the
  connection. -/
  | failed {r : Request} {code : Int} {is : List Issued} (started : c.Started)
      (calls : Tried env c r is)
      (fatal : isFatal code = true) :
      Requested host env c r (.error (nghttp2Error host code), (World.mk host c is).failed)
  /-- It raised, changed nothing, and the engine had taken its submission: the
  stream identifier to return could not be made. -/
  | unreported {r : Request} {is : List Issued} (quiet : r.isQuiet = true)
      (calls : Quiet c r is) (exhausted : env.alloc .identifier = false) :
      Requested host env c r (.error (.memoryError ""), ⟨host, c, is⟩)
  /-- It returned, and changed nothing. -/
  | answered {r : Request} {v : Value} {is : List Issued} (quiet : r.isQuiet = true)
      (calls : Quiet c r is) :
      Requested host env c r (.ok (.value v), ⟨host, c, is⟩)
  /-- `__init__` raised after it had assigned some of the limits. -/
  | configured {role : Role} {config : Configuration} {e : PyError} {auto : Bool}
      {frameSize settings listSize count : Nat} (uninitialized : c.initialized = false) :
      Requested host env c (.init role config)
        (.error e, ⟨host, c.withLimits auto frameSize settings listSize count, []⟩)
  /-- `__init__` installed the session. -/
  | installed {role : Role} {config : Configuration} {auto : Bool}
      {frameSize settings listSize count : Nat} (uninitialized : c.initialized = false)
      (created : 0 ≤ env.sessionNew.1) (auto_eq : auto = config.autoWindowUpdate)
      (frameSize_le : 1 ≤ frameSize ∧ frameSize ≤ 0xFFFFFF) :
      Requested host env c (.init role config)
        (.ok (.value .none),
          ⟨host, { c.withLimits auto frameSize settings listSize count with
              role := some role, server := decide (role = .server), config := some config
              session := some env.sessionNew.2, initialized := true },
            [.created env.sessionNew.2]⟩)
  /-- `initiate_connection` activated the connection. -/
  | initiated {entries : List (Nat × Nat)} (initialized : c.initialized = true)
      (live : c.failed = false) (inactive : c.active = false) :
      Requested host env c (.initiateConnection entries)
        (.ok (.value .none),
          ⟨host, { c with
              localExtensiblePriority := decide ((9, 1) ∈ entries), active := true },
            [.call c.session (.submitSettings entries)]⟩)
  /-- `initiate_upgrade` entered the engine. -/
  | upgrading {settingsPayload : Bytes} {entries : List (Nat × Nat)} {headRequest : Bool}
      (initialized : c.initialized = true) (live : c.failed = false)
      (inactive : c.active = false) :
      Requested host env c (.initiateUpgrade settingsPayload entries headRequest)
        (.ok (.enter (.upgrade entries)),
          ⟨host, { c with callbackError := none },
            [.call c.session (.sessionUpgrade2 settingsPayload headRequest)]⟩)
  /-- `receive_data` entered the engine. -/
  | receiving {data : Bytes} (usable : c.Usable) :
      Requested host env c (.receiveData data)
        (.ok (.enter (.receive data.length)),
          ⟨host, { c with callbackError := none }, [.call c.session (.sessionMemRecv2 data)]⟩)
  /-- `events` returned the events. -/
  | tookEvents :
      Requested host env c .takeEvents
        (.ok (.value (.events c.events)), ⟨host, { c with events := [] }, []⟩)
  /-- `data_to_send` had nothing to ask the engine for. -/
  | nothingToSend {amount : Option Nat} (live : c.failed = false)
      (idle : amount = some 0 ∨ c.active = false) :
      Requested host env c (.dataToSend amount) (.ok (.value (.bytes [])), ⟨host, c, []⟩)
  /-- `data_to_send` entered the engine. -/
  | sending {amount : Option Nat} (live : c.failed = false) (active : c.active = true)
      (positive : amount ≠ some 0) :
      Requested host env c (.dataToSend amount)
        (.ok (.enter .send),
          ⟨host, { c with
              outputSize := 0
              outputRemaining := (amount.map Int.ofNat).getD (-1)
              callbackError := none },
            [.call c.session .sessionSend]⟩)
  /-- `send_request` submitted a request; an open one has a body. -/
  | requested {headers : List Header} {endStream : Bool} {streamId : StreamId}
      (usable : c.Usable) (client : c.server = false)
      (submitted : env.reply (.submitRequest2 headers !endStream) = streamId)
      (accepted : 0 ≤ streamId) :
      Requested host env c (.sendRequest headers endStream)
        (.ok (.value (.streamId streamId)),
          ⟨host, { c with
              bodies := if endStream then c.bodies else c.bodies.insert streamId {} },
            [.call c.session .sessionCheckRequestAllowed,
              .call c.session (.submitRequest2 headers !endStream)]⟩)
  /-- `send_request` submitted an open request and could not record its body:
  it raised, and the engine holds a provider with nothing behind it. -/
  | requestBodiless {headers : List Header} {streamId : StreamId}
      (usable : c.Usable) (client : c.server = false)
      (allowed : env.reply .sessionCheckRequestAllowed ≠ 0)
      (submitted : env.reply (.submitRequest2 headers true) = streamId)
      (accepted : 0 ≤ streamId) (exhausted : env.alloc .body = false) :
      Requested host env c (.sendRequest headers false)
        (.error (.memoryError ""),
          ⟨host, c,
            [.call c.session .sessionCheckRequestAllowed,
              .call c.session (.submitRequest2 headers true)]⟩)
  /-- `send_request` submitted and recorded a request, and raised: the stream
  identifier to return could not be made. -/
  | requestUnreported {headers : List Header} {endStream : Bool} {streamId : StreamId}
      (usable : c.Usable) (client : c.server = false)
      (allowed : env.reply .sessionCheckRequestAllowed ≠ 0)
      (submitted : env.reply (.submitRequest2 headers !endStream) = streamId)
      (accepted : 0 ≤ streamId) (recorded : endStream = false → env.alloc .body = true)
      (exhausted : env.alloc .identifier = false) :
      Requested host env c (.sendRequest headers endStream)
        (.error (.memoryError ""),
          ⟨host, { c with
              bodies := if endStream then c.bodies else c.bodies.insert streamId {} },
            [.call c.session .sessionCheckRequestAllowed,
              .call c.session (.submitRequest2 headers !endStream)]⟩)
  /-- `send_response` submitted the final response of a stream. -/
  | responded {streamId : StreamId} {headers : List Header} {endStream : Bool}
      (usable : c.Usable) (server : c.server = true)
      (tracked : 0 ≤ env.reply (.sessionGetStreamLocalClose streamId))
      (first : streamId ∉ c.responses) :
      Requested host env c (.sendResponse streamId headers endStream)
        (.ok (.value .none),
          ⟨host, { c with
              responses := insert streamId c.responses
              bodies := if endStream then c.bodies else c.bodies.insert streamId {} },
            [.call c.session (.sessionGetStreamLocalClose streamId),
              .call c.session (.submitResponse2 streamId headers !endStream)]⟩)
  /-- `send_response` submitted the final response of a stream and could not
  record it: it raised. -/
  | responseUnrecorded {streamId : StreamId} {headers : List Header} {endStream : Bool}
      (usable : c.Usable) (server : c.server = true)
      (tracked : 0 ≤ env.reply (.sessionGetStreamLocalClose streamId))
      (first : streamId ∉ c.responses)
      (accepted : 0 ≤ env.reply (.submitResponse2 streamId headers !endStream))
      (exhausted : env.alloc .response = false) :
      Requested host env c (.sendResponse streamId headers endStream)
        (.error (.memoryError ""),
          ⟨host, c,
            [.call c.session (.sessionGetStreamLocalClose streamId),
              .call c.session (.submitResponse2 streamId headers !endStream)]⟩)
  /-- `send_response` submitted and recorded the final response of a stream and
  could not record its body: it raised. -/
  | responseBodiless {streamId : StreamId} {headers : List Header}
      (usable : c.Usable) (server : c.server = true)
      (tracked : 0 ≤ env.reply (.sessionGetStreamLocalClose streamId))
      (first : streamId ∉ c.responses)
      (accepted : 0 ≤ env.reply (.submitResponse2 streamId headers true))
      (recorded : env.alloc .response = true) (exhausted : env.alloc .body = false) :
      Requested host env c (.sendResponse streamId headers false)
        (.error (.memoryError ""),
          ⟨host, { c with responses := insert streamId c.responses },
            [.call c.session (.sessionGetStreamLocalClose streamId),
              .call c.session (.submitResponse2 streamId headers true)]⟩)
  /-- `send_informational_response` submitted one. -/
  | informed {streamId : StreamId} {headers : List Header} (usable : c.Usable)
      (server : c.server = true)
      (tracked : 0 ≤ env.reply (.sessionGetStreamLocalClose streamId))
      (first : streamId ∉ c.responses) :
      Requested host env c (.sendInformationalResponse streamId headers)
        (.ok (.value .none),
          ⟨host, c,
            [.call c.session (.sessionGetStreamLocalClose streamId),
              .call c.session (.submitHeaders streamId headers)]⟩)
  /-- `send_trailers` queued trailers behind an open body. -/
  | trailersQueued {streamId : StreamId} {headers : List Header} {body : BodySource}
      (usable : c.Usable) (opened : c.bodies.lookup streamId = some body)
      (unended : body.ended = false)
      (resumes : body.deferred = true → 0 ≤ env.reply (.sessionResumeData streamId)) :
      Requested host env c (.sendTrailers streamId headers)
        (.ok (.value .none),
          ⟨host, { c with bodies := c.bodies.insert streamId (body.withTrailers headers).resumed },
            if body.deferred then [.call c.session (.sessionResumeData streamId)] else []⟩)
  /-- `send_trailers` could not resume the source; the trailers stay. The code
  was not fatal, or its exception could not be made. -/
  | trailersStuck {streamId : StreamId} {headers : List Header} {body : BodySource} {e : PyError}
      (usable : c.Usable) (opened : c.bodies.lookup streamId = some body)
      (unended : body.ended = false) (deferred : body.deferred = true)
      (refused : env.reply (.sessionResumeData streamId) < 0)
      (mild : isFatal (env.reply (.sessionResumeData streamId)) = true →
        env.alloc .exception = false) :
      Requested host env c (.sendTrailers streamId headers)
        (.error e,
          ⟨host, { c with bodies := c.bodies.insert streamId (body.withTrailers headers) },
            [.call c.session (.sessionResumeData streamId)]⟩)
  /-- `send_data` queued a chunk on an open body. -/
  | dataQueued {streamId : StreamId} {chunk : Bytes} {endStream : Bool} {body : BodySource}
      (usable : c.Usable) (opened : c.bodies.lookup streamId = some body)
      (unended : body.ended = false)
      (resumes : body.deferred = true → (chunk ≠ [] ∨ endStream = true) →
        0 ≤ env.reply (.sessionResumeData streamId)) :
      Requested host env c (.sendData streamId chunk endStream)
        (.ok (.value .none),
          ⟨host, { c with
              bodies := c.bodies.insert streamId
                (if chunk ≠ [] ∨ endStream = true then
                  (body.append host.pointerWidth chunk endStream).resumed
                  else body.append host.pointerWidth chunk endStream)
              queuedBodySize := countQueued host.pointerWidth c.queuedBodySize chunk },
            if body.deferred = true ∧ (chunk ≠ [] ∨ endStream = true) then
              [.call c.session (.sessionResumeData streamId)] else []⟩)
  /-- `send_data` could not resume the source; the chunk stays. The code was
  not fatal, or its exception could not be made. -/
  | dataStuck {streamId : StreamId} {chunk : Bytes} {endStream : Bool} {body : BodySource}
      {e : PyError}
      (usable : c.Usable) (opened : c.bodies.lookup streamId = some body)
      (unended : body.ended = false) (deferred : body.deferred = true)
      (wakes : chunk ≠ [] ∨ endStream = true)
      (refused : env.reply (.sessionResumeData streamId) < 0)
      (mild : isFatal (env.reply (.sessionResumeData streamId)) = true →
        env.alloc .exception = false) :
      Requested host env c (.sendData streamId chunk endStream)
        (.error e,
          ⟨host, { c with
              bodies := c.bodies.insert streamId (body.append host.pointerWidth chunk endStream)
              queuedBodySize := countQueued host.pointerWidth c.queuedBodySize chunk },
            [.call c.session (.sessionResumeData streamId)]⟩)
  /-- `reset_stream` deferred the reset until the local direction ends. -/
  | resetDeferred {streamId : StreamId} {errorCode : Nat} (usable : c.Usable)
      (localOpen : env.reply (.sessionGetStreamLocalClose streamId) = 0)
      (ended : c.locallyEnded streamId = true) :
      Requested host env c (.resetStream streamId errorCode true)
        (.ok (.value .none),
          ⟨host, { c with deferredResets := c.deferredResets.insert streamId errorCode },
            [.call c.session (.sessionGetStreamLocalClose streamId),
              .call c.session (.sessionGetStreamLocalClose streamId)]⟩)
  /-- `reset_stream` submitted the reset at once. -/
  | resetSubmitted {streamId : StreamId} {errorCode : Nat} {afterEndStream : Bool}
      (usable : c.Usable)
      (immediate : afterEndStream = true →
        0 < env.reply (.sessionGetStreamLocalClose streamId)) :
      Requested host env c (.resetStream streamId errorCode afterEndStream)
        (.ok (.value .none),
          ⟨host, c,
            (if afterEndStream then
              [.call c.session (.sessionGetStreamLocalClose streamId),
                .call c.session (.sessionGetStreamLocalClose streamId)] else []) ++
            [.call c.session (.submitRstStream streamId errorCode)]⟩)
  /-- `terminate_connection` discarded what can no longer progress. -/
  | terminated {errorCode : Nat} {lastStreamId : Option StreamId}
      (usable : c.Usable) :
      Requested host env c (.terminateConnection errorCode lastStreamId)
        (.ok (.value .none),
          ⟨host, ({ c with terminating := true, closing := true } :
              Connection).discardPendingState,
            [.call c.session (match lastStreamId with
              | none => .sessionTerminateSession errorCode
              | some lastStreamId => .sessionTerminateSession2 lastStreamId errorCode)]⟩)
  /-- `consume_received_data` was asked to consume nothing. -/
  | consumedNothing {streamId : StreamId} (usable : c.Usable)
      (manual : c.autoWindowUpdate = false) :
      Requested host env c (.consumeReceivedData streamId 0) (.ok (.value .none), ⟨host, c, []⟩)
  /-- `consume_received_data` consumed received bytes of a stream. -/
  | consumed {streamId : StreamId} {amount unconsumed : Nat} (usable : c.Usable)
      (manual : c.autoWindowUpdate = false) (positive : amount ≠ 0)
      (outstanding : (c.unconsumed.lookup streamId).getD 0 = unconsumed)
      (enough : amount ≤ unconsumed)
      (accepted : 0 ≤ env.reply (.sessionConsume streamId amount)) :
      Requested host env c (.consumeReceivedData streamId amount)
        (.ok (.value .none),
          ⟨host, { c with unconsumed :=
              if unconsumed - amount ≠ 0 then c.unconsumed.insert streamId (unconsumed - amount)
              else c.unconsumed.erase streamId },
            [.call c.session (.sessionConsume streamId amount)]⟩)

section Lines

variable {host : Host} {env : Env} {c : Connection} {r : Request} {is : List Issued}

theorem Declined.nil : Declined env c r [] := fun _ hi => absurd hi List.not_mem_nil

theorem Declined.snoc {q : EngineCall} (h : Declined env c r is)
    (hq : q.isQuery = true ∨ env.reply q < 0 ∧ r.Submits q) :
    Declined env c r (is ++ [.call c.session q]) := by
  intro i hi
  rcases List.mem_append.mp hi with hi | hi
  · exact h i hi
  · exact ⟨q, List.mem_singleton.mp hi, hq⟩

/-- An operation that failed at a submission had changed nothing before. -/
theorem Declined.tried {q : EngineCall} (h : Declined env c r is) (hq : env.reply q < 0)
    (hr : r.Submits q ∨ q.isResume = true) : Tried env c r (is ++ [.call c.session q]) := by
  intro i hi
  rcases List.mem_append.mp hi with hi | hi
  · obtain ⟨q', heq, hq'⟩ := h i hi
    exact ⟨q', heq, hq'.imp_right fun h => ⟨h.1, .inl h.2⟩⟩
  · exact ⟨q, List.mem_singleton.mp hi, .inr ⟨hq, hr⟩⟩

theorem Quiet.nil : Quiet c r [] := fun _ hi => absurd hi List.not_mem_nil

theorem Quiet.snoc {q : EngineCall} (h : Quiet c r is)
    (hq : q.isQuery = true ∨ r.Submits q) : Quiet c r (is ++ [.call c.session q]) := by
  intro i hi
  rcases List.mem_append.mp hi with hi | hi
  · exact h i hi
  · exact ⟨q, List.mem_singleton.mp hi, hq⟩

namespace Requested

/-- A conditional raise: the rest of the body runs where the condition
fails. -/
theorem after_raiseIf (calls : Declined env c r is) {p : Prop} [Decidable p] {e : PyError}
    {f : Unit → M Started}
    (h : ¬ p → Requested host env c r ((f ()).run env ⟨host, c, is⟩)) :
    Requested host env c r ((raiseIf p e >>= f).run env ⟨host, c, is⟩) := by
  by_cases hp : p
  · simpa [hp] using .rejected calls
  · simpa [hp] using h hp

/-- A query: the rest of the body runs with the answer. -/
theorem after_ask {q : EngineCall} {f : Int → M Started}
    (h : Requested host env c r ((f (env.reply q)).run env
      ⟨host, c, is ++ [.call c.session q]⟩)) :
    Requested host env c r ((ask q >>= f).run env ⟨host, c, is⟩) := h

/-- `_require_active`: the rest of the body runs on a connection that accepts
work. -/
theorem after_requireActive (calls : Declined env c r is) {f : Unit → M Started}
    (h : c.Usable → Requested host env c r ((f ()).run env ⟨host, c, is⟩)) :
    Requested host env c r ((requireActive >>= f).run env ⟨host, c, is⟩) := by
  by_cases hu : c.Usable
  · simpa [hu] using h hu
  · simpa [hu] using .rejected calls

theorem after_requireServer (calls : Declined env c r is) {m : String} {f : Unit → M Started}
    (h : c.server = true → Requested host env c r ((f ()).run env ⟨host, c, is⟩)) :
    Requested host env c r ((requireServer m >>= f).run env ⟨host, c, is⟩) :=
  after_raiseIf calls fun hs => h (by simpa using hs)

theorem after_requireClient (calls : Declined env c r is) {m : String} {f : Unit → M Started}
    (h : c.server = false → Requested host env c r ((f ()).run env ⟨host, c, is⟩)) :
    Requested host env c r ((requireClient m >>= f).run env ⟨host, c, is⟩) :=
  after_raiseIf calls fun hs => h (by simpa using hs)

/-- `_require_drivable`: the rest of the body runs on an active connection. -/
theorem after_requireDrivable (calls : Declined env c r is) {f : Unit → M Started}
    (h : c.active = true → Requested host env c r ((f ()).run env ⟨host, c, is⟩)) :
    Requested host env c r ((requireDrivable >>= f).run env ⟨host, c, is⟩) := by
  by_cases hd : c.failed = false ∧ c.active = true
  · simpa [hd] using h hd.2
  · simpa [hd] using .rejected calls

/-- `_require_stream`: the rest of the body runs for a stream the engine
tracks. -/
theorem after_requireStream (calls : Declined env c r is) {streamId : StreamId}
    {f : Unit → M Started}
    (h : 0 ≤ env.reply (.sessionGetStreamLocalClose streamId) →
      Requested host env c r ((f ()).run env
        ⟨host, c, is ++ [.call c.session (.sessionGetStreamLocalClose streamId)]⟩)) :
    Requested host env c r ((requireStream streamId >>= f).run env ⟨host, c, is⟩) := by
  by_cases hn : env.reply (.sessionGetStreamLocalClose streamId) < 0
  · simpa [hn] using .rejected (calls.snoc (.inl rfl))
  · simpa [hn] using h (not_lt.mp hn)

/-- A submission: a refusal raises, a fatal one invalidates, and the rest of
the body runs with a nonnegative answer. -/
theorem after_submit {q : EngineCall} (started : c.Started) (hq : r.Submits q)
    (calls : Declined env c r is)
    {f : Int → M Started}
    (h : 0 ≤ env.reply q → Requested host env c r ((f (env.reply q)).run env
      ⟨host, c, is ++ [.call c.session q]⟩)) :
    Requested host env c r ((submit q >>= f).run env ⟨host, c, is⟩) := by
  unfold submit
  by_cases hn : env.reply q < 0
  · cases ha : env.alloc .exception with
    | false => simpa [hn, ha] using .rejected (calls.snoc (.inr ⟨hn, hq⟩))
    | true =>
      cases hf : isFatal (env.reply q) with
      | true => simpa [hn, ha, hf] using .failed started (calls.tried hn (.inl hq)) hf
      | false => simpa [hn, ha, hf] using .rejected (calls.snoc (.inr ⟨hn, hq⟩))
  · simpa [hn] using h (not_lt.mp hn)

/-- The body that may be added to: the rest runs with an open body that is not
ended. -/
theorem after_openBody (calls : Declined env c r is) {streamId : StreamId}
    {f : BodySource → M Started}
    (h : ∀ body, c.bodies.lookup streamId = some body → body.ended = false →
      Requested host env c r ((f body).run env ⟨host, c, is⟩)) :
    Requested host env c r ((openBody streamId >>= f).run env ⟨host, c, is⟩) := by
  unfold openBody
  cases hb : c.bodies.lookup streamId with
  | none => simpa [hb] using .rejected calls
  | some body =>
    cases he : body.ended with
    | true => simpa [hb, he] using .rejected calls
    | false => simpa [hb, he] using h body hb he

/-- `_require_created`: the rest of the body runs on a connection that is
initialized, live and not active. -/
theorem after_requireCreated (calls : Declined env c r is) {f : Unit → M Started}
    (h : c.initialized = true → c.failed = false → c.active = false →
      Requested host env c r ((f ()).run env ⟨host, c, is⟩)) :
    Requested host env c r ((requireCreated >>= f).run env ⟨host, c, is⟩) := by
  unfold requireCreated
  by_cases hi : c.initialized = true
  · by_cases hf : c.failed = true
    · simpa [hi, hf] using .rejected calls
    · by_cases ha : c.active = true
      · simpa [hi, hf, ha] using .rejected calls
      · simpa [hi, hf, ha] using h hi (by simpa using hf) (by simpa using ha)
  · simpa [hi] using .rejected calls

/-- The temporary array of settings. -/
theorem after_makeSettings (calls : Declined env c r is) {entries : List (Nat × Nat)}
    {f : Unit → M Started} (h : Requested host env c r ((f ()).run env ⟨host, c, is⟩)) :
    Requested host env c r ((makeSettings entries >>= f).run env ⟨host, c, is⟩) := by
  unfold makeSettings
  by_cases hl : c.maxSettings < entries.length
  · simpa [hl] using .rejected calls
  · by_cases he : entries = []
    · simpa [hl, he] using h
    · cases ha : env.alloc .object with
      | true => simpa [hl, he, ha] using h
      | false => simpa [hl, he, ha] using .rejected calls

/-- The end of a quiet operation. -/
theorem at_end (quiet : r.isQuiet = true) (calls : Quiet c r is) {v : Value} :
    Requested host env c r ((pure (.value v) : M Started).run env ⟨host, c, is⟩) :=
  .answered quiet calls

/-- The end of a quiet operation that returns a stream identifier. -/
theorem at_report (quiet : r.isQuiet = true) (calls : Quiet c r is) {v : Value} :
    Requested host env c r ((allocate .identifier >>= fun _ => (pure (.value v) : M Started)).run
      env ⟨host, c, is⟩) := by
  cases hi : env.alloc .identifier with
  | true => simpa [hi] using at_end quiet calls
  | false => simpa [hi] using .unreported quiet calls hi

end Requested

end Lines

/-! ## The operations, one by one -/

section Bodies

variable (host : Host) (env : Env) (c : Connection)

open Requested

/-- What `_apply_configuration` leaves: some of the limits assigned, and all of
them, in their ranges, if it did not raise. -/
def Configured (config : Configuration) (p : Except PyError Unit × World) : Prop :=
  ∃ (auto : Bool) (frameSize settings listSize count : Nat),
    p.2 = ⟨host, c.withLimits auto frameSize settings listSize count, []⟩ ∧
    (p.1 = .ok () → auto = config.autoWindowUpdate ∧ 1 ≤ frameSize ∧ frameSize ≤ 0xFFFFFF)

variable {host c} in
/-- A conversion of `_apply_configuration`: where it raises, nothing more is
assigned. -/
theorem Configured.after_lift {α : Type} {config : Configuration} {x : Except PyError α}
    {f : α → M Unit} {auto : Bool} {frameSize settings listSize count : Nat}
    (h : ∀ a, Configured host c config ((f a).run env
      ⟨host, c.withLimits auto frameSize settings listSize count, []⟩)) :
    Configured host c config ((lift x >>= f).run env
      ⟨host, c.withLimits auto frameSize settings listSize count, []⟩) := by
  cases x with
  | ok a => exact h a
  | error e => exact ⟨auto, frameSize, settings, listSize, count, rfl, nofun⟩

/-- Converting the limits may raise between the assignments; otherwise all of
them are assigned. -/
theorem configured_applyConfiguration (config : Configuration) :
    Configured host c config ((applyConfiguration config).run env ⟨host, c, []⟩) := by
  unfold applyConfiguration
  change Configured host c config (Effect.run (_ >>= _) env
    ⟨host, c.withLimits c.autoWindowUpdate c.maxSendDataFrameSize c.maxSettings
      c.maxInboundHeaderListSize c.maxInboundHeaderCount, []⟩)
  rw [run_bind, run_host]
  refine .after_lift env fun _ => .after_lift env fun _ => .after_lift env fun _ =>
    .after_lift env fun _ => .after_lift env fun _ => .after_lift env fun settings =>
    .after_lift env fun _ => .after_lift env fun frameSize => .after_lift env fun _ =>
    .after_lift env fun _ => .after_lift env fun _ => .after_lift env fun _ => ?_
  by_cases hr : frameSize < 1 ∨ 0xFFFFFF < frameSize
  · rw [run_bind, run_raiseIf, if_pos hr]
    exact ⟨_, _, _, _, _, rfl, nofun⟩
  · have hr' : 1 ≤ frameSize ∧ frameSize ≤ 0xFFFFFF := by omega
    rw [run_bind, run_raiseIf, if_neg hr]
    change Configured host c config (Effect.run (lift _ >>= _) env
      ⟨host, c.withLimits config.autoWindowUpdate frameSize settings
        c.maxInboundHeaderListSize c.maxInboundHeaderCount, []⟩)
    refine .after_lift env fun listSize => ?_
    change Configured host c config (Effect.run (lift _ >>= _) env
      ⟨host, c.withLimits config.autoWindowUpdate frameSize settings
        listSize c.maxInboundHeaderCount, []⟩)
    exact .after_lift env fun count => ⟨_, _, _, _, count, rfl, fun _ => ⟨rfl, hr'⟩⟩

theorem requested_init (role : Role) (config : Configuration) :
    Requested host env c (.init role config) ((init role config).run env ⟨host, c, []⟩) := by
  unfold init requireUninitialized raiseIfNegative
  refine after_raiseIf .nil fun hi => ?_
  have hi : c.initialized = false := by simpa using hi
  refine after_raiseIf .nil fun _ => after_raiseIf .nil fun _ => ?_
  obtain ⟨auto, frameSize, settings, listSize, count, hw, hok⟩ :=
    configured_applyConfiguration host env c config
  rw [run_bind]
  rcases hrun : (applyConfiguration config).run env ⟨host, c, []⟩ with ⟨res, w⟩
  rw [hrun] at hw hok
  obtain rfl : w = ⟨host, c.withLimits auto frameSize settings listSize count, []⟩ := hw
  cases res with
  | error e => exact .configured hi
  | ok u =>
    obtain ⟨hauto, hframe⟩ := hok rfl
    unfold install raiseIfNegative
    by_cases hn : env.sessionNew.1 < 0
    · simpa [hn] using .configured hi
    · simpa [hn] using .installed hi (not_lt.mp hn) hauto hframe

theorem requested_initiateConnection (entries : List (Nat × Nat)) :
    Requested host env c (.initiateConnection entries)
      ((initiateConnection entries).run env ⟨host, c, []⟩) := by
  unfold initiateConnection
  refine after_requireCreated .nil fun hi hf ha => ?_
  refine after_makeSettings .nil ?_
  exact after_submit ⟨hf, .inl hi⟩ (by exact rfl) .nil fun _ => .initiated hi hf ha

theorem requested_initiateUpgrade (settingsPayload : Bytes) (entries : List (Nat × Nat))
    (headRequest : Bool) :
    Requested host env c (.initiateUpgrade settingsPayload entries headRequest)
      ((initiateUpgrade settingsPayload entries headRequest).run env ⟨host, c, []⟩) := by
  unfold initiateUpgrade
  refine after_requireCreated .nil fun hi hf ha => ?_
  have hdone : Requested host env c (.initiateUpgrade settingsPayload entries headRequest) _ :=
    .upgrading hi hf ha
  cases hs : c.server with
  | true =>
    rw [run_bind, run_conn]
    simp only [hs, if_true]
    refine after_makeSettings .nil ?_
    exact hdone
  | false =>
    simp only [run_bind, run_conn, hs, Bool.false_eq_true, if_false]
    exact hdone

theorem requested_receiveData (data : Bytes) :
    Requested host env c (.receiveData data) ((receiveData data).run env ⟨host, c, []⟩) := by
  unfold receiveData
  exact after_requireActive .nil fun hu => .receiving hu

theorem requested_dataToSend (amount : Option Nat) :
    Requested host env c (.dataToSend amount)
      ((dataToSend amount).run env ⟨host, c, []⟩) := by
  unfold dataToSend
  refine after_raiseIf .nil fun hf => ?_
  have hf : c.failed = false := by simpa using hf
  by_cases hidle : amount = some 0 ∨ c.active = false
  · have hdone : Requested host env c (.dataToSend amount) _ := .nothingToSend hf hidle
    rcases hidle with rfl | ha
    · exact hdone
    · simpa [ha] using hdone
  · obtain ⟨hpos, ha⟩ := not_or.mp hidle
    have hdone : Requested host env c (.dataToSend amount) _ :=
      .sending hf (by simpa using ha) hpos
    cases amount with
    | none => simpa [ha] using hdone
    | some n =>
      have hn : n ≠ 0 := fun h => hpos (h ▸ rfl)
      simpa [ha, hn] using hdone

theorem requested_sendRequest (headers : List Header) (endStream : Bool) :
    Requested host env c (.sendRequest headers endStream)
      ((sendRequest headers endStream).run env ⟨host, c, []⟩) := by
  unfold sendRequest
  refine after_requireActive .nil fun hu => ?_
  refine after_requireClient .nil fun hs => ?_
  refine after_ask (after_raiseIf (.snoc .nil (.inl rfl)) fun hallowed => ?_)
  refine after_submit hu.started (by exact rfl) (.snoc .nil (.inl rfl)) fun hr => ?_
  have hdone : Requested host env c (.sendRequest headers endStream) _ :=
    .requested hu hs rfl hr
  have hunreported (hb : endStream = false → env.alloc .body = true)
      (hi : env.alloc .identifier = false) :
      Requested host env c (.sendRequest headers endStream) _ :=
    .requestUnreported hu hs hallowed rfl hr hb hi
  cases endStream with
  | true =>
    cases hi : env.alloc .identifier with
    | true => simpa [hi] using hdone
    | false => simpa [hi] using hunreported nofun hi
  | false =>
    cases hb : env.alloc .body with
    | false => simpa [recordBody, hb] using .requestBodiless hu hs hallowed rfl hr hb
    | true =>
      cases hi : env.alloc .identifier with
      | true => simpa [recordBody, hb, hi] using hdone
      | false => simpa [recordBody, hb, hi] using hunreported (fun _ => hb) hi

theorem requested_sendResponse (streamId : StreamId) (headers : List Header)
    (endStream : Bool) :
    Requested host env c (.sendResponse streamId headers endStream)
      ((sendResponse streamId headers endStream).run env ⟨host, c, []⟩) := by
  unfold sendResponse
  refine after_requireActive .nil fun hu => ?_
  refine after_requireServer .nil fun hs => ?_
  refine after_requireStream .nil fun ht => ?_
  refine after_raiseIf (.snoc .nil (.inl rfl)) fun hr => ?_
  refine after_submit hu.started (by exact rfl) (.snoc .nil (.inl rfl)) fun ha => ?_
  have hdone : Requested host env c (.sendResponse streamId headers endStream) _ :=
    .responded hu hs ht hr
  cases hrec : env.alloc .response with
  | false => simpa [hrec] using .responseUnrecorded hu hs ht hr ha hrec
  | true =>
    cases endStream with
    | true => simpa [hrec] using hdone
    | false =>
      cases hb : env.alloc .body with
      | false => simpa [recordBody, hrec, hb] using .responseBodiless hu hs ht hr ha hrec hb
      | true => simpa [recordBody, hrec, hb] using hdone

theorem requested_sendInformationalResponse (streamId : StreamId) (headers : List Header) :
    Requested host env c (.sendInformationalResponse streamId headers)
      ((sendInformationalResponse streamId headers).run env ⟨host, c, []⟩) := by
  unfold sendInformationalResponse
  refine after_requireActive .nil fun hu => ?_
  refine after_requireServer .nil fun hs => ?_
  refine after_requireStream .nil fun ht => ?_
  refine after_raiseIf (.snoc .nil (.inl rfl)) fun hr => ?_
  exact after_submit hu.started (by exact rfl) (.snoc .nil (.inl rfl)) fun _ =>
    .informed hu hs ht hr

/-- The last line of `send_trailers` and `send_data`, once the body has been
assigned to: resume its source, if it is deferred. -/
theorem run_resumeBody (w : World) (streamId : StreamId) (body : BodySource) :
    (resumeBody streamId body).run env w
      = let w' : World := { w with
            issued := w.issued ++ [.call w.conn.session (.sessionResumeData streamId)] }
        let result := env.reply (.sessionResumeData streamId)
        if result < 0 then
          if env.alloc .exception then
            (.error (nghttp2Error w.host result), if isFatal result then w'.failed else w')
          else (.error (.memoryError ""), w')
        else (.ok (), { w' with conn := { w.conn with
          bodies := w.conn.bodies.insert streamId body.resumed } }) := by
  unfold resumeBody submit
  by_cases hn : env.reply (.sessionResumeData streamId) < 0
  · cases ha : env.alloc .exception <;> simp [hn, ha]
  · simp [hn]
    rfl

theorem requested_sendTrailers (streamId : StreamId) (headers : List Header) :
    Requested host env c (.sendTrailers streamId headers)
      ((sendTrailers streamId headers).run env ⟨host, c, []⟩) := by
  unfold sendTrailers
  refine after_requireActive .nil fun hu => after_openBody .nil fun body hb he => ?_
  change Requested host env c _ (Effect.run (do
    setBody streamId (body.withTrailers headers)
    if body.deferred then resumeBody streamId (body.withTrailers headers)
    return Started.value Value.none) env ⟨host, c, []⟩)
  cases hd : body.deferred with
  | false =>
    have hdone : Requested host env c (.sendTrailers streamId headers) _ :=
      .trailersQueued hu hb he (by simp [hd])
    have heq : (body.withTrailers headers).resumed = body.withTrailers headers := by
      simp only [BodySource.resumed, BodySource.withTrailers, ← hd]
    simpa [hd, heq] using hdone
  | true =>
    by_cases hn : env.reply (.sessionResumeData streamId) < 0
    · have hstuck (e : PyError) (hm : isFatal (env.reply (.sessionResumeData streamId)) = true →
          env.alloc .exception = false) :
          Requested host env c (.sendTrailers streamId headers) _ :=
        .trailersStuck (e := e) hu hb he hd hn hm
      cases ha : env.alloc .exception with
      | false => simpa [run_resumeBody, hn, ha] using hstuck _ fun _ => ha
      | true =>
        cases hf : isFatal (env.reply (.sessionResumeData streamId)) with
        | true =>
          have hdone : Requested host env c (.sendTrailers streamId headers) _ :=
            .failed hu.started (Declined.nil.tried hn (.inr rfl)) hf
          simp only [if_true, run_bind, run_setBody, run_resumeBody, hn, hf, ha]
          exact hdone
        | false =>
          simpa [run_resumeBody, hn, hf, ha] using hstuck _ fun h => absurd h (by simp [hf])
    · have hdone : Requested host env c (.sendTrailers streamId headers) _ :=
        .trailersQueued hu hb he (fun _ => not_lt.mp hn)
      simpa [run_resumeBody, hn, hd, Finmap.insert_insert] using hdone

/-- Queueing a chunk does not raise. -/
@[simp] theorem run_queueChunk (w : World) (streamId : StreamId) (body : BodySource)
    (chunk : Bytes) (endStream : Bool) :
    (queueChunk streamId body chunk endStream).run env w
      = (.ok (body.append w.host.pointerWidth chunk endStream), { w with conn := { w.conn with
          bodies := w.conn.bodies.insert streamId
            (body.append w.host.pointerWidth chunk endStream)
          queuedBodySize := countQueued w.host.pointerWidth w.conn.queuedBodySize chunk } }) :=
  rfl

theorem requested_sendData (streamId : StreamId) (chunk : Bytes) (endStream : Bool) :
    Requested host env c (.sendData streamId chunk endStream)
      ((sendData streamId chunk endStream).run env ⟨host, c, []⟩) := by
  unfold sendData
  refine after_requireActive .nil fun hu => after_openBody .nil fun body hb he => ?_
  have hdef : (body.append host.pointerWidth chunk endStream).deferred = body.deferred := by
    unfold BodySource.append
    split <;> rfl
  by_cases hwake : body.deferred = true ∧ (chunk ≠ [] ∨ endStream = true)
  · obtain ⟨hd, hw⟩ := hwake
    by_cases hn : env.reply (.sessionResumeData streamId) < 0
    · have hstuck (e : PyError) (hm : isFatal (env.reply (.sessionResumeData streamId)) = true →
          env.alloc .exception = false) :
          Requested host env c (.sendData streamId chunk endStream) _ :=
        .dataStuck (e := e) hu hb he hd hw hn hm
      cases ha : env.alloc .exception with
      | false => simpa [run_resumeBody, hdef, hd, hw, hn, ha] using hstuck _ fun _ => ha
      | true =>
        cases hf : isFatal (env.reply (.sessionResumeData streamId)) with
        | true =>
          have hdone : Requested host env c (.sendData streamId chunk endStream) _ :=
            .failed hu.started (Declined.nil.tried hn (.inr rfl)) hf
          simp only [run_bind, run_queueChunk, run_resumeBody, hdef, hd, hw, hn, hf, ha, and_self,
            if_true]
          exact hdone
        | false =>
          simpa [run_resumeBody, hdef, hd, hw, hn, hf, ha] using
            hstuck _ fun h => absurd h (by simp [hf])
    · have hdone : Requested host env c (.sendData streamId chunk endStream) _ :=
        .dataQueued hu hb he (fun _ _ => not_lt.mp hn)
      simpa [run_resumeBody, hdef, hd, hw, hn, Finmap.insert_insert] using hdone
  · have hdone : Requested host env c (.sendData streamId chunk endStream) _ :=
      .dataQueued hu hb he (fun hd hw => absurd ⟨hd, hw⟩ hwake)
    have heq : (chunk ≠ [] ∨ endStream = true) →
        (body.append host.pointerWidth chunk endStream).resumed
          = body.append host.pointerWidth chunk endStream := by
      intro hw
      have hd : body.deferred = false := by simpa [hw] using hwake
      simp only [BodySource.resumed, ← hdef.trans hd]
    have hif : (if chunk ≠ [] ∨ endStream = true then
          (body.append host.pointerWidth chunk endStream).resumed
        else body.append host.pointerWidth chunk endStream)
          = body.append host.pointerWidth chunk endStream := by
      split
      · exact heq ‹_›
      · rfl
    rw [hif, if_neg hwake] at hdone
    simpa [hdef, hwake] using hdone

theorem requested_resetStream (streamId : StreamId) (errorCode : Nat)
    (afterEndStream : Bool) :
    Requested host env c (.resetStream streamId errorCode afterEndStream)
      ((resetStream streamId errorCode afterEndStream).run env ⟨host, c, []⟩) := by
  unfold resetStream
  refine after_requireActive .nil fun hu => ?_
  have hdone (himm : afterEndStream = true →
      0 < env.reply (.sessionGetStreamLocalClose streamId)) :
      Requested host env c (.resetStream streamId errorCode afterEndStream) _ :=
    .resetSubmitted hu himm
  cases afterEndStream with
  | false => exact after_submit hu.started (by exact rfl) .nil fun _ => hdone nofun
  | true =>
    simp only [if_true]
    refine after_requireStream .nil fun ht => after_ask ?_
    by_cases hl : env.reply (.sessionGetStreamLocalClose streamId) = 0
    · simp only [hl, if_true]
      refine after_raiseIf (.snoc (.snoc .nil (.inl rfl)) (.inl rfl)) fun he => ?_
      exact .resetDeferred hu hl (by simpa using he)
    · simp only [hl, if_false]
      refine after_submit hu.started (by exact rfl) (.snoc (.snoc .nil (.inl rfl)) (.inl rfl))
        fun _ => ?_
      exact hdone fun _ => lt_of_le_of_ne ht (Ne.symm hl)

theorem requested_terminateConnection (errorCode : Nat) (lastStreamId : Option StreamId) :
    Requested host env c (.terminateConnection errorCode lastStreamId)
      ((terminateConnection errorCode lastStreamId).run env ⟨host, c, []⟩) := by
  unfold terminateConnection
  refine after_requireActive .nil fun hu => ?_
  cases lastStreamId with
  | none => exact after_submit hu.started (by exact .inl rfl) .nil fun _ => .terminated hu
  | some lastStreamId =>
    exact after_submit hu.started (by exact .inr ⟨_, rfl⟩) .nil fun _ => .terminated hu

theorem requested_consumeReceivedData (streamId : StreamId) (amount : Nat) :
    Requested host env c (.consumeReceivedData streamId amount)
      ((consumeReceivedData streamId amount).run env ⟨host, c, []⟩) := by
  unfold consumeReceivedData
  refine after_requireActive .nil fun hu => ?_
  refine after_raiseIf .nil fun hm => ?_
  have hm : c.autoWindowUpdate = false := by simpa using hm
  by_cases h0 : amount = 0
  · subst h0
    exact .consumedNothing hu hm
  · simp only [h0, if_false]
    refine after_raiseIf .nil fun henough => ?_
    refine after_submit hu.started (by exact rfl) .nil fun hr => ?_
    exact .consumed hu hm h0 rfl (not_lt.mp henough) hr

/-! ### The quiet operations -/

theorem requested_sendPushPromise (streamId : StreamId) (headers : List Header) :
    Requested host env c (.sendPushPromise streamId headers)
      ((sendPushPromise streamId headers).run env ⟨host, c, []⟩) := by
  unfold sendPushPromise
  refine after_requireActive .nil fun hu => after_requireServer .nil fun _ => ?_
  refine after_requireStream .nil fun _ =>
    after_submit hu.started (by exact rfl) (.snoc .nil (.inl rfl)) fun _ => ?_
  exact at_report rfl (.snoc (.snoc .nil (.inl rfl)) (.inr (by exact rfl)))

theorem requested_updateSettings (entries : List (Nat × Nat)) :
    Requested host env c (.updateSettings entries)
      ((updateSettings entries).run env ⟨host, c, []⟩) := by
  unfold updateSettings
  refine after_requireActive .nil fun hu => after_makeSettings .nil ?_
  exact after_submit hu.started (by exact rfl) .nil fun _ =>
    at_end rfl (.snoc .nil (.inr (by exact rfl)))

theorem requested_sendPing (opaqueData : Option Bytes) :
    Requested host env c (.sendPing opaqueData)
      ((sendPing opaqueData).run env ⟨host, c, []⟩) := by
  unfold sendPing
  refine after_requireActive .nil fun hu => ?_
  cases opaqueData with
  | none => exact .rejected .nil
  | some opaqueData =>
    refine after_raiseIf .nil fun _ => after_submit hu.started (by exact ⟨_, rfl⟩) .nil fun _ => ?_
    exact at_end rfl (.snoc .nil (.inr (by exact ⟨_, rfl⟩)))

theorem requested_sendGoaway (errorCode : Nat) (lastStreamId : Option StreamId)
    (debugData : Bytes) :
    Requested host env c (.sendGoaway errorCode lastStreamId debugData)
      ((sendGoaway errorCode lastStreamId debugData).run env ⟨host, c, []⟩) := by
  unfold sendGoaway
  refine after_requireActive .nil fun hu => ?_
  cases lastStreamId with
  | some lastStreamId =>
    exact after_submit hu.started (by exact ⟨_, rfl⟩) .nil fun _ =>
      at_end rfl (.snoc .nil (.inr (by exact ⟨_, rfl⟩)))
  | none =>
    refine after_ask (after_submit hu.started (by exact ⟨_, rfl⟩) (.snoc .nil (.inl rfl)) fun _ =>
      ?_)
    exact at_end rfl (.snoc (.snoc .nil (.inl rfl)) (.inr (by exact ⟨_, rfl⟩)))

theorem requested_sendShutdownNotice :
    Requested host env c .sendShutdownNotice (sendShutdownNotice.run env ⟨host, c, []⟩) := by
  unfold sendShutdownNotice
  refine after_requireActive .nil fun hu => after_requireServer .nil fun _ => ?_
  exact after_submit hu.started (by exact rfl) .nil fun _ =>
    at_end rfl (.snoc .nil (.inr (by exact rfl)))

theorem requested_setLocalWindowSize (size : Nat) (streamId : StreamId) :
    Requested host env c (.setLocalWindowSize size streamId)
      ((setLocalWindowSize size streamId).run env ⟨host, c, []⟩) := by
  unfold setLocalWindowSize
  refine after_requireActive .nil fun hu => ?_
  by_cases h0 : streamId = 0
  · simp only [h0, ne_eq, not_true_eq_false, if_false]
    exact after_submit hu.started (by exact rfl) .nil fun _ =>
      at_end rfl (.snoc .nil (.inr (by exact rfl)))
  · simp only [h0, ne_eq, not_false_eq_true, if_true]
    refine after_requireStream .nil fun _ =>
      after_submit hu.started (by exact rfl) (.snoc .nil (.inl rfl)) fun _ => ?_
    exact at_end rfl (.snoc (.snoc .nil (.inl rfl)) (.inr (by exact rfl)))

theorem requested_sendPriorityUpdate (streamId : StreamId) (fieldValue : Option Bytes) :
    Requested host env c (.sendPriorityUpdate streamId fieldValue)
      ((sendPriorityUpdate streamId fieldValue).run env ⟨host, c, []⟩) := by
  unfold sendPriorityUpdate
  refine after_requireActive .nil fun hu => after_requireClient .nil fun _ => after_ask ?_
  by_cases h0 : env.reply (.sessionGetRemoteSettings 9) = 0
  · simp only [h0, if_true]
    exact at_end rfl (.snoc .nil (.inl rfl))
  · simp only [h0, if_false]
    cases fieldValue with
    | none => exact .rejected (.snoc .nil (.inl rfl))
    | some fieldValue =>
      refine after_submit hu.started (by exact ⟨_, rfl⟩) (.snoc .nil (.inl rfl)) fun _ => ?_
      exact at_end rfl (.snoc (.snoc .nil (.inl rfl)) (.inr (by exact ⟨_, rfl⟩)))

theorem requested_setStreamPriority (streamId : StreamId) (urgency : Nat)
    (incremental ignoreClientSignal : Bool) :
    Requested host env c (.setStreamPriority streamId urgency incremental ignoreClientSignal)
      ((setStreamPriority streamId urgency incremental ignoreClientSignal).run env
        ⟨host, c, []⟩) := by
  unfold setStreamPriority
  refine after_requireActive .nil fun hu => after_requireServer .nil fun _ => ?_
  by_cases hp : c.localExtensiblePriority = false
  · simp only [run_bind, run_conn, hp, if_true]
    exact at_end rfl .nil
  · simp only [run_bind, run_conn, hp]
    refine after_requireStream .nil fun _ =>
      after_submit hu.started (by exact rfl) (.snoc .nil (.inl rfl)) fun _ => ?_
    exact at_end rfl (.snoc (.snoc .nil (.inl rfl)) (.inr (by exact rfl)))

theorem requested_getStreamPriority (streamId : StreamId) :
    Requested host env c (.getStreamPriority streamId)
      ((getStreamPriority streamId).run env ⟨host, c, []⟩) := by
  unfold getStreamPriority
  refine after_requireActive .nil fun hu => after_requireServer .nil fun _ => ?_
  by_cases hp : c.localExtensiblePriority = false
  · simp only [run_bind, run_conn, hp, if_true]
    exact at_end rfl .nil
  · simp only [run_bind, run_conn, hp]
    refine after_requireStream .nil fun _ => after_ask ?_
    exact at_end rfl (.snoc (.snoc .nil (.inl rfl)) (.inl rfl))

theorem requested_sendAltSvc (streamId : StreamId) (origin fieldValue : Bytes) :
    Requested host env c (.sendAltSvc streamId origin fieldValue)
      ((sendAltSvc streamId origin fieldValue).run env ⟨host, c, []⟩) := by
  unfold sendAltSvc
  refine after_requireActive .nil fun hu => after_requireServer .nil fun _ => ?_
  exact after_submit hu.started (by exact rfl) .nil fun _ =>
    at_end rfl (.snoc .nil (.inr (by exact rfl)))

theorem requested_sendOrigins (origins : List Bytes) :
    Requested host env c (.sendOrigins origins)
      ((sendOrigins origins).run env ⟨host, c, []⟩) := by
  unfold sendOrigins
  refine after_requireActive .nil fun hu => after_requireServer .nil fun _ => ?_
  by_cases ho : origins = []
  · simp only [ho, ne_eq, not_true_eq_false, if_false]
    exact after_submit hu.started (by exact rfl) .nil fun _ =>
      at_end rfl (.snoc .nil (.inr (by exact rfl)))
  · simp only [ho, ne_eq, not_false_eq_true, if_true]
    exact after_raiseIf .nil fun _ =>
      after_submit hu.started (by exact rfl) .nil fun _ =>
        at_end rfl (.snoc .nil (.inr (by exact rfl)))

/-- The queries of a drivable connection raise or answer. -/
theorem requested_wants {q : EngineCall} {r : Request} (hr : r.isQuiet = true)
    (hq : q.isQuery = true) :
    Requested host env c r ((wants q).run env ⟨host, c, []⟩) := by
  unfold wants
  refine after_requireDrivable .nil fun _ => after_ask ?_
  exact at_end hr (.snoc .nil (.inl hq))

theorem requested_nextStreamId :
    Requested host env c .nextStreamId (nextStreamId.run env ⟨host, c, []⟩) := by
  unfold nextStreamId
  refine after_requireActive .nil fun hu => after_ask ?_
  exact at_end rfl (.snoc .nil (.inl rfl))

theorem requested_canSendRequest :
    Requested host env c .canSendRequest (canSendRequest.run env ⟨host, c, []⟩) := by
  unfold canSendRequest
  refine after_requireDrivable .nil fun _ => ?_
  cases ht : c.terminating with
  | true =>
    simp only [run_bind, run_conn, ht, if_true]
    exact at_end rfl .nil
  | false =>
    rw [run_bind, run_conn]
    simp only [ht, Bool.false_eq_true, if_false]
    refine after_ask ?_
    exact at_end rfl (.snoc .nil (.inl rfl))

theorem requested_queuedBodySize (streamId : Option StreamId) :
    Requested host env c (.queuedBodySize streamId)
      ((queuedBodySize streamId).run env ⟨host, c, []⟩) := by
  unfold queuedBodySize
  cases streamId with
  | none => exact at_end rfl .nil
  | some streamId =>
    simp only [run_bind, run_conn]
    cases c.bodies.lookup streamId <;> exact at_end rfl .nil

theorem requested_windowSize {connection : EngineCall} {stream : StreamId → EngineCall}
    {r : Request} (hr : r.isQuiet = true) (hc : connection.isQuery = true)
    (hs : ∀ s, (stream s).isQuery = true) (streamId : StreamId) :
    Requested host env c r
      ((windowSize connection stream streamId).run env ⟨host, c, []⟩) := by
  unfold windowSize
  refine after_requireActive .nil fun hu => ?_
  by_cases h0 : streamId = 0
  · simp only [h0, if_true]
    exact after_ask (at_end hr (.snoc .nil (.inl hc)))
  · simp only [h0, if_false]
    refine after_requireStream .nil fun _ => after_ask ?_
    exact at_end hr (.snoc (.snoc .nil (.inl rfl)) (.inl (hs streamId)))

theorem requested_settingsSnapshot {q : Nat → EngineCall} {r : Request}
    (hr : r.isQuiet = true) (hq : ∀ n, (q n).isQuery = true) :
    Requested host env c r ((settingsSnapshot q).run env ⟨host, c, []⟩) := by
  unfold settingsSnapshot
  refine after_requireActive .nil fun hu => ?_
  have hquiet : Quiet c r (settingIds.map fun n => .call c.session (q n)) := by
    intro i hi
    obtain ⟨n, -, rfl⟩ := List.mem_map.mp hi
    exact ⟨q n, rfl, .inl (hq n)⟩
  exact Requested.answered hr hquiet (v := .settings (settingIds.map fun n => (n, env.reply (q n))))

/-- **Calling an operation does one of the things listed.** -/
theorem requested (r : Request) :
    Requested host env c r (r.body.run env ⟨host, c, []⟩) := by
  cases r with
  | init role config => exact requested_init host env c role config
  | initiateConnection entries => exact requested_initiateConnection host env c entries
  | initiateUpgrade settingsPayload entries headRequest =>
    exact requested_initiateUpgrade host env c settingsPayload entries headRequest
  | receiveData data => exact requested_receiveData host env c data
  | takeEvents => exact .tookEvents
  | dataToSend amount => exact requested_dataToSend host env c amount
  | sendRequest headers endStream => exact requested_sendRequest host env c headers endStream
  | sendResponse streamId headers endStream =>
    exact requested_sendResponse host env c streamId headers endStream
  | sendInformationalResponse streamId headers =>
    exact requested_sendInformationalResponse host env c streamId headers
  | sendTrailers streamId headers => exact requested_sendTrailers host env c streamId headers
  | sendPushPromise streamId headers =>
    exact requested_sendPushPromise host env c streamId headers
  | sendData streamId chunk endStream =>
    exact requested_sendData host env c streamId chunk endStream
  | resetStream streamId errorCode afterEndStream =>
    exact requested_resetStream host env c streamId errorCode afterEndStream
  | updateSettings entries => exact requested_updateSettings host env c entries
  | sendPing opaqueData => exact requested_sendPing host env c opaqueData
  | sendGoaway errorCode lastStreamId debugData =>
    exact requested_sendGoaway host env c errorCode lastStreamId debugData
  | sendShutdownNotice => exact requested_sendShutdownNotice host env c
  | terminateConnection errorCode lastStreamId =>
    exact requested_terminateConnection host env c errorCode lastStreamId
  | consumeReceivedData streamId amount =>
    exact requested_consumeReceivedData host env c streamId amount
  | setLocalWindowSize size streamId =>
    exact requested_setLocalWindowSize host env c size streamId
  | sendPriorityUpdate streamId fieldValue =>
    exact requested_sendPriorityUpdate host env c streamId fieldValue
  | setStreamPriority streamId urgency incremental ignoreClientSignal =>
    exact requested_setStreamPriority host env c streamId urgency incremental ignoreClientSignal
  | getStreamPriority streamId => exact requested_getStreamPriority host env c streamId
  | sendAltSvc streamId origin fieldValue =>
    exact requested_sendAltSvc host env c streamId origin fieldValue
  | sendOrigins origins => exact requested_sendOrigins host env c origins
  | wantRead => exact requested_wants host env c rfl rfl
  | wantWrite => exact requested_wants host env c rfl rfl
  | nextStreamId => exact requested_nextStreamId host env c
  | canSendRequest => exact requested_canSendRequest host env c
  | queuedBodySize streamId => exact requested_queuedBodySize host env c streamId
  | remoteWindowSize streamId =>
    exact requested_windowSize host env c rfl rfl (fun _ => rfl) streamId
  | localWindowSize streamId =>
    exact requested_windowSize host env c rfl rfl (fun _ => rfl) streamId
  | localSettings => exact requested_settingsSnapshot host env c rfl fun _ => rfl
  | remoteSettings => exact requested_settingsSnapshot host env c rfl fun _ => rfl

end Bodies

/-! ## What an operation asks -/

/-- The calls of an operation are on the session of the connection, and of
those it may make. -/
def Asking (c : Connection) (r : Request) (issued : List Issued) : Prop :=
  ∀ session q, .call session q ∈ issued → session = c.session ∧ r.Asks q

section Asking

variable {host : Host} {env : Env} {c : Connection} {r : Request} {is : List Issued}
  {p : Except PyError Started × World}

theorem Asking.nil : Asking c r [] := fun _ _ h => absurd h List.not_mem_nil

theorem Asking.cons {q : EngineCall} (hq : r.Asks q) (h : Asking c r is) :
    Asking c r (.call c.session q :: is) := by
  intro session q' hi
  rcases List.mem_cons.mp hi with heq | hi
  · obtain ⟨rfl, rfl⟩ := Issued.call.inj heq
    exact ⟨rfl, hq⟩
  · exact h session q' hi

/-- Calls that are each of a kind the operation may make. -/
theorem Asking.of_forall {P : EngineCall → Prop} (h : ∀ i ∈ is, ∃ q, i = .call c.session q ∧ P q)
    (hP : ∀ q, P q → r.Asks q) : Asking c r is := by
  intro session q hi
  obtain ⟨q', heq, hq⟩ := h _ hi
  obtain ⟨rfl, rfl⟩ := Issued.call.inj heq
  exact ⟨rfl, hP q hq⟩

/-- **An operation calls the engine on the session of the connection**, and
asks it nothing that it is not for. -/
theorem Requested.asks (h : Requested host env c r p) : Asking c r p.2.issued := by
  have hquery {q : EngineCall} (h : q.isQuery = true) : r.Asks q := .inl h
  have hsubmits {q : EngineCall} (h : r.Submits q) : r.Asks q := .inr (.inl h)
  have hresume (s : StreamId) : r.Asks (.sessionResumeData s) := .inr (.inr (.inl rfl))
  have hdrive {q : EngineCall} (h : q.isDrive = true) : r.Asks q := .inr (.inr (.inr h))
  cases h with
  | rejected calls => exact .of_forall calls fun _ hq => hq.imp_right fun hq => .inl hq.2
  | @failed r code is started calls =>
    intro session q hi
    refine Asking.of_forall calls (fun _ hq => hq.imp_right fun hq => hq.2.imp_right .inl)
      session q ((List.mem_append.mp hi).resolve_right fun hd => ?_)
    obtain ⟨_, -, heq⟩ := List.mem_map.mp hd
    exact absurd heq (by simp)
  | unreported quiet calls => exact .of_forall calls fun _ hq => hq.imp_right .inl
  | answered quiet calls => exact .of_forall calls fun _ hq => hq.imp_right .inl
  | configured => exact .nil
  | installed => exact fun _ _ hi => absurd hi (by simp)
  | initiated => exact .cons (hsubmits rfl) .nil
  | upgrading => exact .cons (hdrive rfl) .nil
  | receiving => exact .cons (hdrive rfl) .nil
  | tookEvents => exact .nil
  | nothingToSend => exact .nil
  | sending => exact .cons (hdrive rfl) .nil
  | requested => exact .cons (hquery rfl) (.cons (hsubmits rfl) .nil)
  | requestBodiless => exact .cons (hquery rfl) (.cons (hsubmits rfl) .nil)
  | requestUnreported => exact .cons (hquery rfl) (.cons (hsubmits rfl) .nil)
  | responded => exact .cons (hquery rfl) (.cons (hsubmits rfl) .nil)
  | responseUnrecorded => exact .cons (hquery rfl) (.cons (hsubmits rfl) .nil)
  | responseBodiless => exact .cons (hquery rfl) (.cons (hsubmits rfl) .nil)
  | informed => exact .cons (hquery rfl) (.cons (hsubmits rfl) .nil)
  | @trailersQueued streamId headers body =>
    cases body.deferred with
    | true => exact .cons (hresume _) .nil
    | false => exact .nil
  | trailersStuck => exact .cons (hresume _) .nil
  | @dataQueued streamId chunk endStream body =>
    dsimp only
    split
    · exact .cons (hresume _) .nil
    · exact .nil
  | dataStuck => exact .cons (hresume _) .nil
  | resetDeferred => exact .cons (hquery rfl) (.cons (hquery rfl) .nil)
  | @resetSubmitted streamId errorCode afterEndStream =>
    cases afterEndStream with
    | true => exact .cons (hquery rfl) (.cons (hquery rfl) (.cons (hsubmits rfl) .nil))
    | false => exact .cons (hsubmits rfl) .nil
  | @terminated errorCode lastStreamId =>
    cases lastStreamId with
    | none => exact .cons (hsubmits (.inl rfl)) .nil
    | some s => exact .cons (hsubmits (.inr ⟨s, rfl⟩)) .nil
  | consumedNothing => exact .nil
  | consumed => exact .cons (hsubmits rfl) .nil

end Asking

end Ngh2
