import Ngh2.RequestSteps

/-!
# What a callback does

The counterpart of `Requested` for the callbacks. `Called host env session c cb`
relates a callback to the reply it gives and the world it leaves. A callback
that raises is a case of its own: the exception is deferred, the reply is
`NGHTTP2_ERR_CALLBACK_FAILURE`, and of the connection no more is said than
that what outlives it is untouched (`Spoiled`), since the engine function on
the stack is about to fail and the connection with it.
-/

namespace Ngh2

open Nghttp2 Effect

/-- What `_frame_received` publishes for the frames that only announce
something. -/
def Event.isPlain : Event → Bool
  | .dataReceived _ _ _ => false
  | .streamClosed _ _ _ => false
  | .connectionClosed _ _ => false
  | .goAwayReceived _ _ _ => false
  | _ => true

/-- **The connection a failed callback leaves.** What it was about to do may be
half done; what survives the invalidation that follows is as it was, but for
the event of a header block, which is published before the block is replaced
by an empty list. -/
structure Spoiled (c c' : Connection) : Prop where
  role : c'.role = c.role
  config : c'.config = c.config
  server : c'.server = c.server
  session : c'.session = c.session
  initialized : c'.initialized = c.initialized
  active : c'.active = c.active
  failed : c'.failed = c.failed
  terminating : c'.terminating = c.terminating
  closed : c'.closed = c.closed
  autoWindowUpdate : c'.autoWindowUpdate = c.autoWindowUpdate
  maxSendDataFrameSize : c'.maxSendDataFrameSize = c.maxSendDataFrameSize
  maxSettings : c'.maxSettings = c.maxSettings
  maxInboundHeaderListSize : c'.maxInboundHeaderListSize = c.maxInboundHeaderListSize
  maxInboundHeaderCount : c'.maxInboundHeaderCount = c.maxInboundHeaderCount
  events : c'.events = c.events ∨ ∃ event, event.isPlain = true ∧ c'.events = c.events ++ [event]

theorem Spoiled.refl (c : Connection) : Spoiled c c := by
  constructor <;> first | rfl | exact .inl rfl

/-- The call by which `_discard_data_payload` returns the credit of an
unpublished payload. -/
def Connection.credit (c : Connection) : List Issued :=
  if c.dataSize ≠ 0 ∧ c.autoWindowUpdate = false then
    [.call c.session (.sessionConsumeConnection c.dataSize)] else []

/-- The application bytes of the open DATA payload. -/
def Connection.payload (c : Connection) : Bytes :=
  ((c.dataPayload.map Buffer.written).getD []).take c.dataSize

/-- The staged bytes and the staging buffer are no larger than a `Py_ssize_t`
can say. -/
def Connection.Addressable (c : Connection) (width : PointerWidth) : Prop :=
  c.outputSize ≤ width.ssizeMax ∧ room c.output ≤ width.ssizeMax

/-- Whether a frame only announces something when it is received. -/
def Frame.isPlain (frame : Frame) : Bool :=
  match frame.payload with
  | .data => false
  | .goaway _ _ _ => false
  | .other _ => false
  | _ => true

/-- Whether `_frame_not_sent` records a failure: the stream of the frame, and
a code that is not excluded. -/
def Frame.recordedFailure (frame : Frame) (errorCode : Int) : Option StreamId :=
  if expectedNotSent errorCode then none else frame.failedStream

/-- What the end of `_read_body` does to the body, the reply and the engine. -/
inductive FinishedRead (env : Env) (session : Option SessionId) (streamId : StreamId)
    (body : BodySource) (reply : Reply) (complete : Bool) :
    Reply → List Issued → BodySource → Prop
  /-- The body is complete and has no trailers: the frame ends the stream. -/
  | ended (hc : complete = true) (ht : body.trailers = none) :
      FinishedRead env session streamId body reply complete { reply with eof := true } [] body
  /-- The body is complete and has trailers: they are submitted, and end the
  stream in place of the frame. -/
  | trailers {headers : List Header} (hc : complete = true) (ht : body.trailers = some headers)
      (accepted : 0 ≤ env.reply (.submitTrailer streamId headers)) :
      FinishedRead env session streamId body reply complete
        { reply with eof := true, noEndStream := true }
        [.call session (.submitTrailer streamId headers)] { body with trailers := none }
  /-- More bytes may follow. -/
  | continued (hc : complete = false) (hn : reply.code ≠ 0) :
      FinishedRead env session streamId body reply complete reply [] body
  /-- There is nothing to send, and nothing to end. -/
  | deferred (hc : complete = false) (hn : reply.code = 0) :
      FinishedRead env session streamId body reply complete
        { reply with code := errDeferred } [] { body with deferred := true }

/-- **What a callback may ask of the engine.** -/
def Callback.Asks : Callback → EngineCall → Prop
  | .readBody s _ => fun q => ∃ headers, q = .submitTrailer s headers
  | .beginFrame _ _ _ => fun q => ∃ size, q = .sessionConsumeConnection size
  | .streamClosed _ _ => fun q => ∃ size, q = .sessionConsumeConnection size
  | .frameSent frame => fun q =>
    q = .sessionGetStreamRemoteClose frame.streamId ∨
      ∃ errorCode, q = .submitRstStream frame.streamId errorCode
  | .frameNotSent _ _ => fun q => ∃ s, q = .submitRstStream s internalError
  | _ => fun _ => False

/-- The calls of a callback, each on the session of the connection or on the
one the engine passed. -/
def Driven (session : Option SessionId) (c : Connection) (cb : Callback)
    (issued : List Issued) : Prop :=
  ∀ i ∈ issued, ∃ q, (i = .call c.session q ∨ i = .call session q) ∧ cb.Asks q

/-- **What a callback does**: its reply, and the world it leaves. -/
inductive Called (host : Host) (env : Env) (session : Option SessionId) (c : Connection) :
    Callback → Reply × World → Prop
  /-- It raised. -/
  | failed {cb : Callback} {c' : Connection} {e : PyError} {is : List Issued}
      (spoiled : Spoiled c c') (deferred : c'.callbackError = some e)
      (calls : Driven session c cb is) :
      Called host env session c cb ({ code := errCallbackFailure }, ⟨host, c', is⟩)
  /-- `_collect_output` at a spent limit. -/
  | blocked {data : Bytes} (spent : c.outputRemaining = 0) :
      Called host env session c (.collectOutput data)
        ({ code := errWouldblock }, ⟨host, c, []⟩)
  /-- `_collect_output` staged the bytes the limit allows. -/
  | collected {data : Bytes} {accepted : Nat} {output : Option Buffer}
      (unspent : c.outputRemaining ≠ 0)
      (amount : c.acceptable data.length = accepted)
      (written : staged c.output = staged output)
      (fits : c.outputSize + accepted ≤ room output)
      (addressable : c.Addressable host.pointerWidth →
        room output ≤ host.pointerWidth.ssizeMax) :
      Called host env session c (.collectOutput data)
        ({ code := accepted },
          ⟨host, Connection.spendOutput { c with
            output := output.map (·.memcpy c.outputSize (data.take accepted))
            outputSize := c.outputSize + accepted } accepted, []⟩)
  /-- `_send_body` staged a whole frame. -/
  | bodySent {streamId : StreamId} {frameHeader : FrameHeader} {length : Nat} {body : BodySource}
      {s : CopyState} {output : Option Buffer}
      (limit : ¬ (0 ≤ c.outputRemaining ∧ c.outputRemaining < length + 9))
      (opened : c.bodies.lookup streamId = some body)
      (written : staged c.output = staged output)
      (fits : c.outputSize + (length + 9) ≤ room output)
      (copied : copyLoop host.pointerWidth length (body.chunks.length - body.head)
        { body, queued := c.queuedBodySize } = (.ok (), s))
      (full : s.copied.length = length)
      (addressable : c.Addressable host.pointerWidth →
        room output ≤ host.pointerWidth.ssizeMax) :
      Called host env session c (.sendBody streamId 0 frameHeader length)
        ({ code := 0 },
          ⟨host, Connection.spendOutput { c with
            output := output.map fun b => (b.memcpy c.outputSize frameHeader.val).memcpy
              (c.outputSize + 9) s.copied
            outputSize := c.outputSize + (length + 9)
            bodies := c.bodies.insert streamId s.body.compact
            queuedBodySize := s.queued } (length + 9), []⟩)
  /-- `_data_frame_length`. -/
  | sized {streamId : StreamId} {sessionWindow streamWindow : Int} {frameSize : Nat} {n : Nat}
      (size : n = match c.bodies.lookup streamId with
        | none => min c.maxSendDataFrameSize frameSize
        | some body => max 1 (min (min c.maxSendDataFrameSize frameSize) body.queuedSize)) :
      Called host env session c
        (.dataFrameLength streamId sessionWindow streamWindow frameSize)
        ({ code := n }, ⟨host, c, []⟩)
  /-- `_read_body` at a spent limit. -/
  | paused {streamId : StreamId} {length : Nat} (spent : c.outputRemaining = 0) :
      Called host env session c (.readBody streamId length)
        ({ code := errPause }, ⟨host, c, []⟩)
  /-- `_read_body` left the bytes queued for `_send_body`. -/
  | readWhole {streamId : StreamId} {length : Nat} {body body' : BodySource} {reply : Reply}
      {is : List Issued} (unspent : c.outputRemaining ≠ 0)
      (opened : c.bodies.lookup streamId = some body)
      (whole : c.outputRemaining < 0 ∨
        ((min length body.queuedSize : Nat) : Int) + 9 ≤ c.outputRemaining)
      (finished : FinishedRead env session streamId body
        { code := (min length body.queuedSize : Nat), noCopy := true }
        (body.ended && decide (min length body.queuedSize = body.queuedSize)) reply is body') :
      Called host env session c (.readBody streamId length)
        (reply, ⟨host, { c with bodies := c.bodies.insert streamId body' }, is⟩)
  /-- `_read_body` copied the bytes into the engine's frame buffer. -/
  | readCopied {streamId : StreamId} {length : Nat} {body body' : BodySource} {s : CopyState}
      {reply : Reply} {is : List Issued} (unspent : c.outputRemaining ≠ 0)
      (opened : c.bodies.lookup streamId = some body)
      (limited : ¬ (c.outputRemaining < 0 ∨
        ((min length body.queuedSize : Nat) : Int) + 9 ≤ c.outputRemaining))
      (copied : copyLoop host.pointerWidth length (body.chunks.length - body.head)
        { body, queued := c.queuedBodySize } = (.ok (), s))
      (finished : FinishedRead env session streamId s.body.compact
        { code := s.copied.length, buffer := s.copied }
        (s.body.compact.ended && decide (s.body.compact.head = s.body.compact.chunks.length))
        reply is body') :
      Called host env session c (.readBody streamId length)
        (reply, ⟨host, { c with
          bodies := c.bodies.insert streamId body', queuedBodySize := s.queued }, is⟩)
  /-- `_begin_frame` of a frame that is not DATA. -/
  | otherFrameBegun {streamId : StreamId} {length : Nat} :
      Called host env session c (.beginFrame false streamId length)
        ({ code := 0 }, ⟨host, c, []⟩)
  /-- `_begin_frame` dropped an unfinished payload and allocated a new one. -/
  | dataFrameBegun {streamId : StreamId} {length : Nat}
      (credited : c.credit ≠ [] → 0 ≤ env.reply (.sessionConsumeConnection c.dataSize)) :
      Called host env session c (.beginFrame true streamId length)
        ({ code := 0 },
          ⟨host, { c with
            dataPayload := some { capacity := length }, dataSize := 0, dataStreamId := streamId },
            c.credit⟩)
  /-- `_begin_headers`, `_header` and `_invalid_header` change nothing but the
  block being collected. -/
  | headerBlock {cb : Callback} {code : Int} {headers : List Header} {size : Nat}
      (kind : cb = .beginHeaders ∧ headers = [] ∧ size = 0 ∧ code = 0
        ∨ cb = .invalidHeader ∧ headers = c.currentHeaders ∧ size = c.currentHeaderSize
          ∧ code = errTemporalCallbackFailure
        ∨ ∃ name value noIndex, cb = .header name value noIndex
          ∧ headers = c.currentHeaders ++ [{ name, value, neverIndexed := noIndex }]
          ∧ size = c.currentHeaderSize + (name.length + value.length + 32)
          ∧ size ≤ c.maxInboundHeaderListSize
          ∧ c.currentHeaders.length < c.maxInboundHeaderCount ∧ code = 0) :
      Called host env session c cb
        ({ code := code },
          ⟨host, { c with currentHeaders := headers, currentHeaderSize := size }, []⟩)
  /-- `_data_chunk` copied a fragment into the open payload. -/
  | dataCopied {data : Bytes} {payload : Buffer} (opened : c.dataPayload = some payload)
      (fits : c.dataSize + data.length ≤ payload.capacity) :
      Called host env session c (.dataChunk c.dataStreamId data)
        ({ code := 0 },
          ⟨host, { c with
            dataPayload := some (payload.memcpy c.dataSize data)
            dataSize := c.dataSize + data.length }, []⟩)
  /-- `_frame_received` published a complete DATA frame. -/
  | dataReceived {frame : Frame} (kind : frame.payload = .data) :
      Called host env session c (.frameReceived frame)
        ({ code := 0 },
          ⟨host, { c.withoutPayload with
            unconsumed := if c.payload ≠ [] ∧ c.autoWindowUpdate = false then
                c.unconsumed.insert frame.streamId
                  ((c.unconsumed.lookup frame.streamId).getD 0 + c.payload.length)
              else c.unconsumed
            events := c.events ++ [.dataReceived frame.streamId c.payload frame.endStream] }, []⟩)
  /-- `_frame_received` published and remembered a GOAWAY. -/
  | goawayReceived {frame : Frame} {lastStreamId : StreamId} {errorCode : Nat}
      {opaqueData : Bytes} (kind : frame.payload = .goaway lastStreamId errorCode opaqueData) :
      Called host env session c (.frameReceived frame)
        ({ code := 0 },
          ⟨host, { c with
            closing := true, closeErrorCode := errorCode, closeDebugData := opaqueData
            events := c.events ++ [.goAwayReceived lastStreamId errorCode opaqueData] }, []⟩)
  /-- `_frame_received` published another frame. -/
  | frameReceived {frame : Frame} {event : Event} {headers : List Header}
      (kind : frame.isPlain = true) (plain : event.isPlain = true) :
      Called host env session c (.frameReceived frame)
        ({ code := 0 },
          ⟨host, { c with events := c.events ++ [event], currentHeaders := headers }, []⟩)
  /-- `_frame_received` of a type it does not know. -/
  | frameIgnored {frame : Frame} {type : Nat} (kind : frame.payload = .other type) :
      Called host env session c (.frameReceived frame) ({ code := 0 }, ⟨host, c, []⟩)
  /-- `_stream_closed` released the state of a stream. -/
  | streamClosed {streamId : StreamId} {errorCode : Nat}
      (credited : c.dataStreamId = streamId → c.credit ≠ [] →
        0 ≤ env.reply (.sessionConsumeConnection c.dataSize)) :
      Called host env session c (.streamClosed streamId errorCode)
        ({ code := 0 },
          ⟨host, { c with
            dataPayload := if c.dataStreamId = streamId then none else c.dataPayload
            dataSize := if c.dataStreamId = streamId then 0 else c.dataSize
            bodies := c.bodies.erase streamId
            queuedBodySize := uncountQueued host.pointerWidth c.queuedBodySize
              (c.bodies.lookup streamId)
            responses := c.responses.erase streamId
            deferredResets := c.deferredResets.erase streamId
            localStreamErrors := c.localStreamErrors.erase streamId
            events := c.events ++
              [.streamClosed streamId errorCode (c.localStreamErrors.lookup streamId)] },
            if c.dataStreamId = streamId then c.credit else []⟩)
  /-- `_frame_sent` had nothing to do. -/
  | sentQuietly {frame : Frame} (quiet : endsStream c frame = false)
      (kind : ∀ l e d, frame.payload ≠ .goaway l e d) :
      Called host env session c (.frameSent frame) ({ code := 0 }, ⟨host, c, []⟩)
  /-- `_frame_sent` saw the end of a stream; the deferred reset, if there is
  one, was dropped or submitted. -/
  | streamEnded {frame : Frame} {is : List Issued} (ends : endsStream c frame = true)
      (calls : is = match c.deferredResets.lookup frame.streamId with
        | none => []
        | some errorCode =>
          .call session (.sessionGetStreamRemoteClose frame.streamId) ::
            if env.reply (.sessionGetStreamRemoteClose frame.streamId) = 0 then
              [.call session (.submitRstStream frame.streamId errorCode)] else []) :
      Called host env session c (.frameSent frame)
        ({ code := 0 },
          ⟨host, { c with deferredResets := c.deferredResets.erase frame.streamId }, is⟩)
  /-- `_frame_sent` remembered a GOAWAY. -/
  | goawaySent {frame : Frame} {lastStreamId : StreamId} {errorCode : Nat}
      {opaqueData : Bytes} (kind : frame.payload = .goaway lastStreamId errorCode opaqueData) :
      Called host env session c (.frameSent frame)
        ({ code := 0 },
          ⟨host, { c with
            closing := true, closeErrorCode := errorCode, closeDebugData := opaqueData }, []⟩)
  /-- `_frame_not_sent` of a frame or a code it ignores. -/
  | notSentIgnored {frame : Frame} {errorCode : Int}
      (unrecorded : frame.recordedFailure errorCode = none) :
      Called host env session c (.frameNotSent frame errorCode) ({ code := 0 }, ⟨host, c, []⟩)
  /-- `_frame_not_sent` recorded a failure, and reset the stream where the
  engine does not close it. -/
  | notSentRecorded {frame : Frame} {errorCode : Int} {streamId : StreamId}
      (recorded : frame.recordedFailure errorCode = some streamId) :
      Called host env session c (.frameNotSent frame errorCode)
        ({ code := 0 },
          ⟨host, { c with localStreamErrors :=
              c.localStreamErrors.insert streamId (frameNotSentError host errorCode) },
            if frame.needsReset then
              [.call session (.submitRstStream streamId internalError)] else []⟩)

/-! ## The pieces -/

section Pieces

variable (host : Host) (env : Env)

/-- A grown buffer has room for what it was grown for. -/
theorem le_grownSize (width : PointerWidth) (capacity target : Nat) :
    target ≤ grownSize width capacity target := by
  unfold grownSize
  split
  · exact le_max_left _ _
  · exact le_rfl

/-- Growing does not leave the range of a `Py_ssize_t`. -/
theorem grownSize_le {width : PointerWidth} {capacity target : Nat}
    (h : target ≤ width.ssizeMax) : grownSize width capacity target ≤ width.ssizeMax := by
  unfold grownSize
  split
  · next hsmall =>
    have hdoubled : 2 * capacity ≤ width.ssizeMax := by
      unfold PointerWidth.ssizeMax
      omega
    have hfloor : 4096 ≤ width.ssizeMax := by cases width <;> decide
    exact max_le h (max_le hdoubled hfloor)
  · exact h

/-- `_reserve_output` makes room behind the staged bytes and keeps them, or it
raises, perhaps having released the buffer. -/
theorem run_reserveOutput (w : World) (length : Nat) :
    (∃ output, (reserveOutput length).run env w
        = (.ok w.conn.outputSize, { w with conn := { w.conn with
            output, outputSize := w.conn.outputSize + length } }) ∧
      staged w.conn.output = staged output ∧ w.conn.outputSize + length ≤ room output ∧
      (w.conn.Addressable w.host.pointerWidth → room output ≤ w.host.pointerWidth.ssizeMax)) ∨
    ∃ e output, (reserveOutput length).run env w
      = (.error e, { w with conn := { w.conn with output } }) := by
  unfold reserveOutput
  by_cases hlarge : w.host.pointerWidth.ssizeMax - w.conn.outputSize < length
  · exact .inr ⟨_, w.conn.output, by simp [hlarge]; rfl⟩
  · by_cases hgrow : room w.conn.output < w.conn.outputSize + length
    · let size := grownSize w.host.pointerWidth (room w.conn.output) (w.conn.outputSize + length)
      cases halloc : env.alloc (.output size) with
      | true =>
        refine .inl ⟨some { capacity := size, written := staged w.conn.output }, ?_, rfl,
          le_grownSize _ _ _, fun h => grownSize_le ?_⟩
        · simp [resizeOutput, hlarge, hgrow, size, halloc]
        · have hused := h.1
          omega
      | false => exact .inr ⟨_, none, by simp [resizeOutput, hlarge, hgrow, size, halloc]; rfl⟩
    · exact .inl ⟨w.conn.output, by simp [hlarge, hgrow], rfl, not_lt.mp hgrow, fun h => h.2⟩

/-- `_discard_data_payload` drops the open payload and returns its credit; a
refusal raises. -/
theorem run_discardDataPayload (w : World) :
    discardDataPayload.run env w
      = (if w.conn.credit ≠ [] ∧ env.reply (.sessionConsumeConnection w.conn.dataSize) < 0 then
            .error (nghttp2Error w.host (env.reply (.sessionConsumeConnection w.conn.dataSize)))
          else .ok (),
          { w with conn := w.conn.withoutPayload, issued := w.issued ++ w.conn.credit }) := by
  unfold discardDataPayload Connection.credit Connection.withoutPayload
  by_cases hs : w.conn.dataSize = 0
  · simp [hs]
  · by_cases hm : w.conn.autoWindowUpdate = false
    · by_cases hr : env.reply (.sessionConsumeConnection w.conn.dataSize) < 0 <;>
        simp [hs, hm, hr]
    · simp [hm]

/-- Remembering a GOAWAY may fail to copy its debug data. -/
theorem run_rememberGoaway (w : World) (errorCode : Nat) (opaqueData : Bytes) :
    (rememberGoaway errorCode opaqueData).run env w
      = if env.alloc (.bytes opaqueData.length) then
          (.ok (), { w with conn := { w.conn with
            closing := true, closeErrorCode := errorCode, closeDebugData := opaqueData } })
        else (.error (.memoryError ""), { w with conn := { w.conn with
            closing := true, closeErrorCode := errorCode } }) := by
  unfold rememberGoaway
  cases h : env.alloc (.bytes opaqueData.length) <;> simp [h]

/-- `_copy_body` takes bytes off the queue, or raises on the way. -/
theorem run_copyBody (w : World) (streamId : StreamId) (body : BodySource) (length : Nat) :
    (copyBody streamId body length).run env w
      = match copyLoop w.host.pointerWidth length (body.chunks.length - body.head)
          { body, queued := w.conn.queuedBodySize } with
        | (.ok (), s) => (.ok s.copied, { w with conn := { w.conn with
            bodies := w.conn.bodies.insert streamId s.body.compact, queuedBodySize := s.queued } })
        | (.error e, s) => (.error e, { w with conn := { w.conn with
            bodies := w.conn.bodies.insert streamId s.body, queuedBodySize := s.queued } }) := by
  unfold copyBody
  rw [run_bind, run_host]
  dsimp only
  rw [run_bind, run_conn]
  dsimp only
  generalize copyLoop w.host.pointerWidth length (body.chunks.length - body.head)
    { body, queued := w.conn.queuedBodySize } = p
  obtain ⟨res, s⟩ := p
  cases res with
  | ok u => simp [Finmap.insert_insert]
  | error e => simp

/-- The end of `_read_body` raises or does what it does. -/
theorem run_finishRead (w : World) (session : Option SessionId) (streamId : StreamId)
    {body : BodySource} (hb : w.conn.bodies.lookup streamId = some body) (reply : Reply)
    (complete : Bool) :
    (∃ reply' is body', (finishRead session streamId reply complete).run env w
        = (.ok reply', { w with
            conn := { w.conn with bodies := w.conn.bodies.insert streamId body' }
            issued := w.issued ++ is }) ∧
      FinishedRead env session streamId body reply complete reply' is body') ∨
    ∃ e is, (finishRead session streamId reply complete).run env w
        = (.error e, { w with issued := w.issued ++ is }) ∧
      ∀ i ∈ is, ∃ headers, i = .call session (.submitTrailer streamId headers) := by
  have hsame : w.conn.bodies.insert streamId body = w.conn.bodies := by
    refine Finmap.ext_lookup fun s => ?_
    by_cases hs : s = streamId
    · rw [hs, Finmap.lookup_insert, hb]
    · rw [Finmap.lookup_insert_of_ne _ hs]
  unfold finishRead
  rw [run_bind, run_bodyOf env w hb]
  cases complete with
  | true =>
    cases ht : body.trailers with
    | none =>
      exact .inl ⟨_, [], body, by simp [hsame, ht], .ended rfl ht⟩
    | some headers =>
      cases ha : env.alloc .object with
      | false => exact .inr ⟨_, [], by simp [ha, ht]; rfl, by simp⟩
      | true =>
        by_cases hr : env.reply (.submitTrailer streamId headers) < 0
        · exact .inr ⟨_, [.call session (.submitTrailer streamId headers)],
            by simp [ha, hr, ht]; rfl, by simp⟩
        · exact .inl ⟨_, _, _, by simp [ha, hr, ht], .trailers rfl ht (not_lt.mp hr)⟩
  | false =>
    by_cases hn : reply.code = 0
    · exact .inl ⟨_, [], _, by simp [hn], .deferred rfl hn⟩
    · exact .inl ⟨_, [], body, by simp [hn, hsame], .continued rfl hn⟩

end Pieces

/-! ## The callbacks, one by one -/

section Callbacks

variable (host : Host) (env : Env) (session : Option SessionId) (c : Connection)

/-- The result of the body of a callback: a reply, never an exception. -/
inductive Replied (cb : Callback) : Except PyError Reply × World → Prop
  | intro {reply : Reply} {w : World} (called : Called host env session c cb (reply, w)) :
      Replied cb (.ok reply, w)

/-- The result of what a callback attempts: a code that is its reply, or an
exception that leaves the connection as a failed callback may. -/
inductive Attempted (cb : Callback) : Except PyError Int × World → Prop
  | returned {code : Int} {w : World}
      (called : Called host env session c cb ({ code := code }, w)) :
      Attempted cb (.ok code, w)
  | raised {e : PyError} {c' : Connection} {is : List Issued} (spoiled : Spoiled c c')
      (calls : Driven session c cb is) : Attempted cb (.error e, ⟨host, c', is⟩)

variable {host env session c} {cb : Callback} {c' : Connection} {is : List Issued}

theorem Spoiled.deferring (h : Spoiled c c') (e : Option PyError) :
    Spoiled c { c' with callbackError := e } := by
  cases h
  constructor <;> assumption

theorem Driven.nil : Driven session c cb [] := fun _ hi => absurd hi List.not_mem_nil

theorem Driven.snoc (h : Driven session c cb is) {q : EngineCall} (hq : cb.Asks q) :
    Driven session c cb (is ++ [.call session q]) := by
  intro i hi
  rcases List.mem_append.mp hi with hi | hi
  · exact h i hi
  · exact ⟨q, .inr (List.mem_singleton.mp hi), hq⟩

theorem Driven.credit (c : Connection)
    (hq : ∀ size, cb.Asks (.sessionConsumeConnection size)) : Driven session c cb c.credit := by
  intro i hi
  unfold Connection.credit at hi
  split at hi
  · exact ⟨_, .inl (List.mem_singleton.mp hi), hq _⟩
  · exact absurd hi List.not_mem_nil

theorem FinishedRead.code_eq {env : Env} {streamId : StreamId} {body body' : BodySource}
    {reply reply' : Reply} {complete : Bool}
    (h : FinishedRead env session streamId body reply complete reply' is body') :
    reply'.code = reply.code ∨ reply'.code = errDeferred := by
  cases h <;> simp

/-- The end of `_read_body` asks for trailers only. -/
theorem FinishedRead.asks {env : Env} {s : StreamId} {length : Nat} {body body' : BodySource}
    {reply reply' : Reply} {complete : Bool}
    (h : FinishedRead env session s body reply complete reply' is body') :
    Driven session c (.readBody s length) is := by
  cases h with
  | trailers => exact Driven.nil.snoc ⟨_, rfl⟩
  | _ => exact .nil

/-- The code of a callback that has no exception to defer. -/
theorem Replied.of_code {f : M Int} {code : Int} {w v : World}
    (h : f.run env w = (.ok code, v))
    (called : Called host env session c cb ({ code := code }, v)) :
    Replied host env session c cb (Effect.run (do return { code := ← f }) env w) := by
  rw [run_bind, h]
  exact .intro called

/-- A callback that defers what its body raises. -/
theorem Replied.of_attempted {f : M Int} {w : World}
    (h : Attempted host env session c cb (f.run env w)) :
    Replied host env session c cb
      (Effect.run (do return { code := ← attempt f callbackFailed }) env w) := by
  rw [run_bind, run_attempt]
  generalize f.run env w = p at h
  cases h with
  | returned called => exact .intro called
  | raised spoiled calls => exact .intro (.failed (spoiled.deferring _) rfl calls)

namespace Attempted

theorem after_raiseIf (spoiled : Spoiled c c') (calls : Driven session c cb is) {p : Prop}
    [Decidable p] {e : PyError} {f : Unit → M Int}
    (h : ¬ p → Attempted host env session c cb ((f ()).run env ⟨host, c', is⟩)) :
    Attempted host env session c cb ((raiseIf p e >>= f).run env ⟨host, c', is⟩) := by
  by_cases hp : p
  · rw [run_bind, run_raiseIf, if_pos hp]
    exact .raised spoiled calls
  · rw [run_bind, run_raiseIf, if_neg hp]
    exact h hp

theorem after_allocate (spoiled : Spoiled c c') (calls : Driven session c cb is) {a : Alloc}
    {f : Unit → M Int}
    (h : Attempted host env session c cb ((f ()).run env ⟨host, c', is⟩)) :
    Attempted host env session c cb ((allocate a >>= f).run env ⟨host, c', is⟩) :=
  after_raiseIf spoiled calls fun _ => h

theorem after_bodyOf (spoiled : Spoiled c c') (calls : Driven session c cb is)
    {streamId : StreamId} {f : BodySource → M Int}
    (h : ∀ body, c'.bodies.lookup streamId = some body →
      Attempted host env session c cb ((f body).run env ⟨host, c', is⟩)) :
    Attempted host env session c cb ((bodyOf streamId >>= f).run env ⟨host, c', is⟩) := by
  cases hb : c'.bodies.lookup streamId with
  | none =>
    rw [run_bind, run_bodyOf_none env ⟨host, c', is⟩ hb]
    exact .raised spoiled calls
  | some body =>
    rw [run_bind, run_bodyOf env ⟨host, c', is⟩ hb]
    exact h body hb

theorem after_reserveOutput (spoiled : Spoiled c c') (calls : Driven session c cb is)
    {length : Nat} {f : Nat → M Int}
    (h : ∀ output, staged c'.output = staged output → c'.outputSize + length ≤ room output →
      (c'.Addressable host.pointerWidth → room output ≤ host.pointerWidth.ssizeMax) →
      Attempted host env session c cb ((f c'.outputSize).run env
        ⟨host, { c' with output, outputSize := c'.outputSize + length }, is⟩)) :
    Attempted host env session c cb ((reserveOutput length >>= f).run env ⟨host, c', is⟩) := by
  rw [run_bind]
  obtain ⟨output, hres, hstaged, hroom, haddress⟩ | ⟨e, output, hres⟩ :=
    run_reserveOutput env ⟨host, c', is⟩ length
  · rw [hres]
    exact h output hstaged hroom haddress
  · rw [hres]
    refine .raised ?_ calls
    cases spoiled
    constructor <;> assumption

theorem after_copyBody (spoiled : Spoiled c c') (calls : Driven session c cb is)
    {streamId : StreamId} {body : BodySource} {length : Nat} {f : Bytes → M Int}
    (h : ∀ s, copyLoop host.pointerWidth length (body.chunks.length - body.head)
        { body, queued := c'.queuedBodySize } = (.ok (), s) →
      Attempted host env session c cb ((f s.copied).run env
        ⟨host, { c' with
          bodies := c'.bodies.insert streamId s.body.compact, queuedBodySize := s.queued }, is⟩)) :
    Attempted host env session c cb
      ((copyBody streamId body length >>= f).run env ⟨host, c', is⟩) := by
  rw [run_bind, run_copyBody]
  rcases hcopy : copyLoop host.pointerWidth length (body.chunks.length - body.head)
    { body, queued := c'.queuedBodySize } with ⟨res, s⟩
  cases res with
  | ok u => exact h s hcopy
  | error e =>
    refine .raised ?_ calls
    cases spoiled
    constructor <;> assumption

/-- The end of a body that publishes: the exception of a failed allocation, or
the event. -/
theorem at_publish (spoiled : Spoiled c c') (calls : Driven session c cb is) {event : Event}
    {code : Int}
    (called : Called host env session c cb ({ code := code },
      ⟨host, { c' with events := c'.events ++ [event] }, is⟩)) :
    Attempted host env session c cb (Effect.run (do
      publish event
      return code) env ⟨host, c', is⟩) := by
  rw [run_bind, run_publish]
  cases env.alloc .object with
  | true => exact .returned called
  | false => exact .raised spoiled calls

end Attempted

open Attempted

variable (host env session c)

theorem replied_collectOutput (data : Bytes) :
    Replied host env session c (.collectOutput data)
      (((Callback.collectOutput data).body session).run env ⟨host, c, []⟩) := by
  by_cases h0 : c.outputRemaining = 0
  · exact .of_code (by simp [collectOutput, h0]) (.blocked h0)
  · have hbody : (collectOutput data).run env ⟨host, c, []⟩
        = (attempt (stageBytes data (c.acceptable data.length)) callbackFailed).run env
          ⟨host, c, []⟩ := by simp [collectOutput, h0]
    change Replied host env session c _ (Effect.run (do
      return { code := ← collectOutput data }) env ⟨host, c, []⟩)
    rw [run_bind, hbody, ← run_bind]
    refine .of_attempted ?_
    unfold stageBytes
    refine after_reserveOutput (.refl c) .nil fun output hstaged hroom haddress => ?_
    exact .returned (.collected h0 rfl hstaged hroom haddress)

theorem replied_sendBody (streamId : StreamId) (padlen : Nat) (frameHeader : FrameHeader)
    (length : Nat) :
    Replied host env session c (.sendBody streamId padlen frameHeader length)
      (((Callback.sendBody streamId padlen frameHeader length).body session).run env
        ⟨host, c, []⟩) := by
  refine .of_attempted ?_
  unfold stageFrame
  refine after_raiseIf (.refl c) .nil fun hmode => ?_
  obtain ⟨hpad, hlimit⟩ := not_or.mp hmode
  obtain rfl : padlen = 0 := not_not.mp hpad
  refine after_bodyOf (.refl c) .nil fun body hb => ?_
  refine after_raiseIf (.refl c) .nil fun _ => ?_
  refine after_reserveOutput (.refl c) .nil fun output hstaged hroom haddress => ?_
  have hheader : Spoiled c { c with
      output := output.map (·.memcpy c.outputSize frameHeader.val)
      outputSize := c.outputSize + (length + 9) } := by constructor <;> first | rfl | exact .inl rfl
  refine after_copyBody hheader .nil fun s hcopy => ?_
  have hpayload : Spoiled c { c with
      output := (output.map (·.memcpy c.outputSize frameHeader.val)).map
        (·.memcpy (c.outputSize + 9) s.copied)
      outputSize := c.outputSize + (length + 9)
      bodies := c.bodies.insert streamId s.body.compact
      queuedBodySize := s.queued } := by constructor <;> first | rfl | exact .inl rfl
  refine after_raiseIf hpayload .nil fun hfull => ?_
  have hdone : Called host env session c (.sendBody streamId 0 frameHeader length) _ :=
    .bodySent hlimit hb hstaged hroom hcopy (not_not.mp hfull) haddress
  rw [show (output.map fun b => (b.memcpy c.outputSize frameHeader.val).memcpy
      (c.outputSize + 9) s.copied)
    = (output.map (·.memcpy c.outputSize frameHeader.val)).map
      (·.memcpy (c.outputSize + 9) s.copied) from by cases output <;> rfl] at hdone
  exact .returned hdone

theorem replied_dataFrameLength (streamId : StreamId) (sessionWindow streamWindow : Int)
    (frameSize : Nat) :
    Replied host env session c (.dataFrameLength streamId sessionWindow streamWindow frameSize)
      (((Callback.dataFrameLength streamId sessionWindow streamWindow frameSize).body
        session).run env ⟨host, c, []⟩) := by
  have hrun (n : Nat) (hn : n = match c.bodies.lookup streamId with
      | none => min c.maxSendDataFrameSize frameSize
      | some body => max 1 (min (min c.maxSendDataFrameSize frameSize) body.queuedSize)) :
      (dataFrameLength streamId frameSize).run env ⟨host, c, []⟩
        = (.ok (n : Int), ⟨host, c, []⟩) := by
    unfold dataFrameLength
    rw [run_bind, run_conn, hn]
    dsimp only
    cases c.bodies.lookup streamId <;> rfl
  exact .of_code (hrun _ rfl) (.sized rfl)

/-- The end of `_read_body`, on either path. -/
theorem replied_finishRead {w : World} {streamId : StreamId} {length : Nat} {body : BodySource}
    (hw : w.host = host ∧ w.issued = []) (spoiled : Spoiled c w.conn)
    (hb : w.conn.bodies.lookup streamId = some body) (reply : Reply) (complete : Bool)
    (called : ∀ reply' is body',
      FinishedRead env session streamId body reply complete reply' is body' →
      Called host env session c (.readBody streamId length)
        (reply', ⟨host, { w.conn with bodies := w.conn.bodies.insert streamId body' }, is⟩)) :
    Replied host env session c (.readBody streamId length)
      (Effect.run (attempt (finishRead session streamId reply complete)
        fun error => do return { code := ← callbackFailed error }) env w) := by
  obtain ⟨h, c', is⟩ := w
  obtain ⟨rfl, rfl⟩ := hw
  rw [run_attempt]
  obtain ⟨reply', is, body', hres, hfin⟩ | ⟨e, is, hres, hcalls⟩ :=
    run_finishRead env ⟨h, c', []⟩ session streamId hb reply complete
  · rw [hres]
    exact .intro (called _ _ _ hfin)
  · rw [hres]
    refine .intro (.failed (spoiled.deferring _) rfl fun i hi => ?_)
    obtain ⟨headers, hq⟩ := hcalls i hi
    exact ⟨_, .inr hq, headers, rfl⟩

theorem replied_readBody (streamId : StreamId) (length : Nat) :
    Replied host env session c (.readBody streamId length)
      (((Callback.readBody streamId length).body session).run env ⟨host, c, []⟩) := by
  change Replied host env session c _ ((readBody session streamId length).run env ⟨host, c, []⟩)
  by_cases h0 : c.outputRemaining = 0
  · have hrun : (readBody session streamId length).run env ⟨host, c, []⟩
        = (.ok { code := errPause }, ⟨host, c, []⟩) := by simp [readBody, h0]
    rw [hrun]
    exact .intro (.paused h0)
  have hread : (readBody session streamId length).run env ⟨host, c, []⟩
      = (attempt (prepareBody session streamId length)
          fun error => do return { code := ← callbackFailed error }).run env ⟨host, c, []⟩ := by
    simp [readBody, h0]
  rw [hread]
  cases hb : c.bodies.lookup streamId with
  | none =>
    have hrun : (prepareBody session streamId length).run env ⟨host, c, []⟩
        = (.error (.keyError streamId), ⟨host, c, []⟩) := by
      simp [prepareBody, run_bodyOf_none _ ⟨host, c, []⟩ hb]
    rw [run_attempt, hrun]
    exact .intro (.failed (.deferring (.refl c) _) rfl Driven.nil)
  | some body =>
    by_cases hwhole : c.outputRemaining < 0 ∨
        ((min length body.queuedSize : Nat) : Int) + 9 ≤ c.outputRemaining
    · have hrun : (prepareBody session streamId length).run env ⟨host, c, []⟩
          = (finishRead session streamId
              { code := (min length body.queuedSize : Nat), noCopy := true }
              (body.ended && decide (min length body.queuedSize = body.queuedSize))).run env
            ⟨host, c, []⟩ := by
        unfold prepareBody
        rw [run_bind, run_conn]
        dsimp only
        rw [run_bind, run_bodyOf env ⟨host, c, []⟩ hb]
        dsimp only
        rw [if_pos hwhole]
      rw [run_attempt, hrun, ← run_attempt]
      exact replied_finishRead host env session c ⟨rfl, rfl⟩ (.refl c) hb _ _
        fun _ _ _ hfin => .readWhole h0 hb hwhole hfin
    · have hlimited : (prepareBody session streamId length).run env ⟨host, c, []⟩
          = Effect.run (do
              let buffer ← copyBody streamId body length
              let body ← bodyOf streamId
              finishRead session streamId { code := buffer.length, buffer }
                (body.ended && decide (body.head = body.chunks.length))) env ⟨host, c, []⟩ := by
        unfold prepareBody
        rw [run_bind, run_conn]
        dsimp only
        rw [run_bind, run_bodyOf env ⟨host, c, []⟩ hb]
        dsimp only
        rw [if_neg hwhole]
      rw [run_bind, run_copyBody] at hlimited
      dsimp only at hlimited
      rcases hcopy : copyLoop host.pointerWidth length (body.chunks.length - body.head)
        { body, queued := c.queuedBodySize } with ⟨res, s⟩
      rw [hcopy] at hlimited
      cases res with
      | ok u =>
        have hb' : (c.bodies.insert streamId s.body.compact).lookup streamId
            = some s.body.compact := Finmap.lookup_insert _
        dsimp only at hlimited
        rw [run_bind, run_bodyOf _ _ hb'] at hlimited
        rw [run_attempt, hlimited, ← run_attempt]
        refine replied_finishRead host env session c ⟨rfl, rfl⟩
          (by constructor <;> first | rfl | exact .inl rfl) hb' _ _ fun _ _ _ hfin => ?_
        have hdone : Called host env session c (.readBody streamId length) _ :=
          .readCopied h0 hb hwhole hcopy hfin
        simpa only [Finmap.insert_insert] using hdone
      | error e =>
        rw [run_attempt, hlimited]
        refine .intro (.failed (.deferring ?_ _) rfl Driven.nil)
        constructor <;> first | rfl | exact .inl rfl

theorem replied_beginFrame (isData : Bool) (streamId : StreamId) (length : Nat) :
    Replied host env session c (.beginFrame isData streamId length)
      (((Callback.beginFrame isData streamId length).body session).run env ⟨host, c, []⟩) := by
  cases isData with
  | false => exact .of_code (v := ⟨host, c, []⟩) rfl .otherFrameBegun
  | true =>
    change Replied host env session c _ (Effect.run (do
      return { code := ← attempt (openPayload streamId length) callbackFailed }) env ⟨host, c, []⟩)
    refine .of_attempted ?_
    unfold openPayload
    have hspoiled : Spoiled c c.withoutPayload := by constructor <;> first | rfl | exact .inl rfl
    have hcredit : Driven session c (.beginFrame true streamId length) c.credit :=
      .credit c fun _ => ⟨_, rfl⟩
    rw [run_bind, run_discardDataPayload]
    by_cases hr : c.credit ≠ [] ∧ env.reply (.sessionConsumeConnection c.dataSize) < 0
    · rw [if_pos hr]
      exact .raised hspoiled hcredit
    · rw [if_neg hr]
      refine after_raiseIf hspoiled hcredit fun _ => ?_
      exact .returned (.dataFrameBegun fun hc => not_lt.mp fun hn => hr ⟨hc, hn⟩)

theorem replied_beginHeaders :
    Replied host env session c .beginHeaders
      ((Callback.beginHeaders.body session).run env ⟨host, c, []⟩) := by
  refine .of_attempted ?_
  unfold startBlock
  refine after_allocate (.refl c) .nil ?_
  exact .returned (.headerBlock (.inl ⟨rfl, rfl, rfl, rfl⟩))

theorem replied_header (name value : Bytes) (noIndex : Bool) :
    Replied host env session c (.header name value noIndex)
      (((Callback.header name value noIndex).body session).run env ⟨host, c, []⟩) := by
  refine .of_attempted ?_
  unfold addField
  have hspoiled : Spoiled c { c with
      currentHeaderSize := c.currentHeaderSize + (name.length + value.length + 32) } := by
    constructor <;> first | rfl | exact .inl rfl
  refine after_raiseIf hspoiled .nil fun hsize => ?_
  refine after_raiseIf hspoiled .nil fun hcount => ?_
  refine after_allocate hspoiled .nil (after_allocate hspoiled .nil
    (after_allocate hspoiled .nil ?_))
  exact .returned (.headerBlock (.inr (.inr ⟨name, value, noIndex, rfl, rfl, rfl,
    not_lt.mp hsize, not_le.mp hcount, rfl⟩)))

theorem replied_dataChunk (streamId : StreamId) (data : Bytes) :
    Replied host env session c (.dataChunk streamId data)
      (((Callback.dataChunk streamId data).body session).run env ⟨host, c, []⟩) := by
  refine .of_attempted ?_
  unfold copyFragment
  rw [run_bind, run_conn]
  dsimp only
  cases hp : c.dataPayload with
  | none => exact .raised (.refl c) .nil
  | some payload =>
    refine after_raiseIf (.refl c) .nil fun hfit => ?_
    obtain ⟨hs, hlen⟩ := not_or.mp hfit
    obtain rfl : streamId = c.dataStreamId := not_not.mp hs
    exact .returned (.dataCopied hp (not_lt.mp hlen))

/-! ### Frames received -/

/-- A handler that publishes one event. -/
theorem attempted_publish {frame : Frame} (kind : frame.isPlain = true) {event : Event}
    (plain : event.isPlain = true) :
    Attempted host env session c (.frameReceived frame) (Effect.run (do
      publish event
      return 0) env ⟨host, c, []⟩) :=
  at_publish (.refl c) .nil (@Called.frameReceived _ _ _ _ _ _ c.currentHeaders kind plain)

/-- A handler that publishes the header block and releases it: the event stays
where there is no memory for the empty list. -/
theorem attempted_block {frame : Frame} (kind : frame.isPlain = true) {event : Event}
    (plain : event.isPlain = true) :
    Attempted host env session c (.frameReceived frame) (Effect.run (do
      publishBlock event
      return 0) env ⟨host, c, []⟩) := by
  have hpublished : Spoiled c { c with events := c.events ++ [event] } := by
    constructor <;> first | rfl | exact .inr ⟨event, plain, rfl⟩
  rw [publishBlock, Effect.bind_assoc, run_bind, run_publish]
  cases env.alloc .object with
  | true =>
    rw [if_pos rfl]
    dsimp only
    rw [Effect.bind_assoc]
    refine after_allocate hpublished .nil ?_
    exact .returned (.frameReceived kind plain)
  | false => exact .raised (.refl c) .nil

/-- Every event of a header block is one of the announcements. -/
theorem headersEvent_isPlain (frame : Frame) (category : HeadersCategory)
    (headers : List Header) : (headersEvent frame category headers).isPlain = true := by
  unfold headersEvent
  split
  · rfl
  · split
    · rfl
    · split <;> rfl

/-- Copying the origins of an ORIGIN frame succeeds or raises, and changes
nothing. -/
theorem run_forM_allocate (w : World) (origins : List Bytes) :
    ∃ res, (origins.forM fun origin => allocate (.bytes origin.length)).run env w = (res, w) := by
  induction origins with
  | nil => exact ⟨.ok (), rfl⟩
  | cons origin origins ih =>
    obtain ⟨res, hres⟩ := ih
    change ∃ res, (allocate (.bytes origin.length) >>= fun _ =>
      origins.forM fun origin => allocate (.bytes origin.length)).run env w = (res, w)
    rw [run_bind, run_allocate]
    cases env.alloc (.bytes origin.length) with
    | true => exact ⟨res, hres⟩
    | false => exact ⟨_, rfl⟩

/-- Detaching the open payload gives its bytes, or raises. -/
theorem run_takePayload (w : World) :
    ∃ res, takePayload.run env w = (res, { w with conn := w.conn.withoutPayload }) ∧
      (res = .ok w.conn.payload ∨ ∃ e, res = .error e) := by
  unfold takePayload Connection.payload
  cases hp : w.conn.dataPayload with
  | none => exact ⟨.ok [], by simp [hp], .inl (by simp)⟩
  | some buffer =>
    by_cases h0 : w.conn.dataSize = 0
    · exact ⟨.ok [], by simp [hp, h0], .inl (by simp [h0])⟩
    · have hok : ∀ res, (res = .ok (buffer.written.take w.conn.dataSize) ∨
          ∃ e, res = .error e) → takePayload.run env w = (res, { w with
            conn := w.conn.withoutPayload }) → ∃ res, takePayload.run env w
          = (res, { w with conn := w.conn.withoutPayload }) ∧
            (res = .ok (buffer.written.take w.conn.dataSize) ∨ ∃ e, res = .error e) :=
        fun res h hrun => ⟨res, hrun, h⟩
      by_cases hpad : w.conn.dataSize = buffer.capacity
      · have h0' : buffer.capacity ≠ 0 := hpad ▸ h0
        exact ⟨.ok (buffer.written.take w.conn.dataSize), by simp [hp, h0', hpad], .inl rfl⟩
      · cases ha : env.alloc (.bytes w.conn.dataSize) with
        | true =>
          exact ⟨.ok (buffer.written.take w.conn.dataSize), by simp [hp, h0, hpad, ha], .inl rfl⟩
        | false =>
          exact ⟨.error (.memoryError ""), by simp [hp, h0, hpad, ha], .inr ⟨_, rfl⟩⟩

theorem attempted_dataFrameReceived {frame : Frame} (kind : frame.payload = .data) :
    Attempted host env session c (.frameReceived frame) (Effect.run (do
      dataFrameReceived frame
      return 0) env ⟨host, c, []⟩) := by
  unfold dataFrameReceived
  rw [run_bind, run_bind]
  obtain ⟨res, hres, rfl | ⟨e, rfl⟩⟩ := run_takePayload env ⟨host, c, []⟩
  · rw [hres]
    dsimp only
    rw [run_bind, run_conn]
    dsimp only
    have hdone : Called host env session c (.frameReceived frame) _ := .dataReceived kind
    by_cases hm : c.payload ≠ [] ∧ c.withoutPayload.autoWindowUpdate = false
    · rw [if_pos hm]
      rw [if_pos (c := c.payload ≠ [] ∧ c.autoWindowUpdate = false) hm] at hdone
      exact at_publish (by constructor <;> first | rfl | exact .inl rfl) .nil hdone
    · rw [if_neg hm]
      rw [if_neg (c := c.payload ≠ [] ∧ c.autoWindowUpdate = false) hm] at hdone
      exact at_publish (by constructor <;> first | rfl | exact .inl rfl) .nil hdone
  · rw [hres]
    exact .raised (by constructor <;> first | rfl | exact .inl rfl) .nil

theorem attempted_goawayReceived {frame : Frame} {lastStreamId : StreamId} {errorCode : Nat}
    {opaqueData : Bytes} (kind : frame.payload = .goaway lastStreamId errorCode opaqueData) :
    Attempted host env session c (.frameReceived frame) (Effect.run (do
      goawayReceived lastStreamId errorCode opaqueData
      return 0) env ⟨host, c, []⟩) := by
  unfold goawayReceived
  rw [run_bind, run_bind, run_rememberGoaway]
  cases env.alloc (.bytes opaqueData.length) with
  | true =>
    rw [if_pos rfl]
    dsimp only
    rw [run_publish]
    cases env.alloc .object with
    | true => exact .returned (.goawayReceived kind)
    | false => exact .raised (by constructor <;> first | rfl | exact .inl rfl) .nil
  | false => exact .raised (by constructor <;> first | rfl | exact .inl rfl) .nil

theorem replied_frameReceived (frame : Frame) :
    Replied host env session c (.frameReceived frame)
      (((Callback.frameReceived frame).body session).run env ⟨host, c, []⟩) := by
  refine .of_attempted ?_
  rcases hk : frame.payload with _ | category | errorCode | entries | promisedStreamId |
    opaqueData | ⟨lastStreamId, errorCode, opaqueData⟩ | increment | ⟨origin, fieldValue⟩ |
    origins | ⟨streamId, fieldValue⟩ | type
  case data =>
    have hd : dispatchFrame frame = dataFrameReceived frame := by rw [dispatchFrame, hk]
    rw [hd]
    exact attempted_dataFrameReceived _ _ _ _ hk
  case goaway =>
    have hd : dispatchFrame frame = goawayReceived lastStreamId errorCode opaqueData := by
      rw [dispatchFrame, hk]
    rw [hd]
    exact attempted_goawayReceived _ _ _ _ hk
  case other =>
    have hd : dispatchFrame frame = pure () := by rw [dispatchFrame, hk]
    rw [hd]
    exact .returned (.frameIgnored hk)
  all_goals
    have hplain : frame.isPlain = true := by rw [Frame.isPlain, hk]
    rw [dispatchFrame, hk]
    dsimp only
  case headers =>
    rw [headersReceived, Effect.bind_assoc, run_bind, run_conn]
    dsimp only
    exact attempted_block _ _ _ _ hplain (headersEvent_isPlain frame category c.currentHeaders)
  case pushPromise =>
    rw [pushPromiseReceived, Effect.bind_assoc, run_bind, run_conn]
    dsimp only
    exact attempted_block _ _ _ _ hplain rfl
  case rstStream => exact attempted_publish _ _ _ _ hplain rfl
  case windowUpdate => exact attempted_publish _ _ _ _ hplain rfl
  case settings =>
    unfold settingsReceived
    split
    · exact attempted_publish _ _ _ _ hplain rfl
    · exact attempted_publish _ _ _ _ hplain rfl
  case ping =>
    rw [pingReceived, Effect.bind_assoc]
    refine after_allocate (.refl c) .nil ?_
    split
    · exact attempted_publish _ _ _ _ hplain rfl
    · exact attempted_publish _ _ _ _ hplain rfl
  case altsvc =>
    rw [altsvcReceived, Effect.bind_assoc, Effect.bind_assoc]
    refine after_allocate (.refl c) .nil (after_allocate (.refl c) .nil ?_)
    exact attempted_publish _ _ _ _ hplain rfl
  case origin =>
    obtain ⟨res, hres⟩ := run_forM_allocate env ⟨host, c, []⟩ origins
    rw [originReceived, Effect.bind_assoc, run_bind, hres]
    cases res with
    | error e => exact .raised (.refl c) .nil
    | ok u => exact attempted_publish _ _ _ _ hplain rfl
  case priorityUpdate =>
    rw [priorityUpdateReceived, Effect.bind_assoc]
    refine after_allocate (.refl c) .nil ?_
    exact attempted_publish _ _ _ _ hplain rfl

/-! ### The lifecycle of a stream -/

theorem replied_streamClosed (streamId : StreamId) (errorCode : Nat) :
    Replied host env session c (.streamClosed streamId errorCode)
      (((Callback.streamClosed streamId errorCode).body session).run env ⟨host, c, []⟩) := by
  refine .of_attempted ?_
  -- the state after the body of the stream has been removed
  let c₁ : Connection := { c with
    bodies := c.bodies.erase streamId
    queuedBodySize := uncountQueued host.pointerWidth c.queuedBodySize
      (c.bodies.lookup streamId) }
  have hspoiled : Spoiled c c₁.withoutPayload := by constructor <;> first | rfl | exact .inl rfl
  have hcredit : Driven session c (.streamClosed streamId errorCode) c.credit :=
    .credit c fun _ => ⟨_, rfl⟩
  have hdone := @Called.streamClosed host env session c streamId errorCode
  unfold releaseStream
  rw [run_bind, run_host]
  dsimp only
  rw [run_bind, run_conn]
  dsimp only
  rw [run_bind, run_update]
  dsimp only
  rw [run_bind, run_conn]
  dsimp only
  by_cases hd : c.dataStreamId = streamId
  · rw [if_pos hd, run_bind, run_discardDataPayload]
    rw [if_pos hd, if_pos hd, if_pos hd] at hdone
    dsimp only
    by_cases hr : c.credit ≠ [] ∧ env.reply (.sessionConsumeConnection c.dataSize) < 0
    · rw [if_pos (c := c₁.credit ≠ [] ∧ env.reply (.sessionConsumeConnection c₁.dataSize) < 0) hr]
      exact .raised hspoiled hcredit
    · rw [if_neg (c := c₁.credit ≠ [] ∧ env.reply (.sessionConsumeConnection c₁.dataSize) < 0) hr]
      have hreleased : Spoiled c { c₁.withoutPayload with
          responses := c.responses.erase streamId
          deferredResets := c.deferredResets.erase streamId
          localStreamErrors := c.localStreamErrors.erase streamId } := by
        constructor <;> first | rfl | exact .inl rfl
      exact at_publish hreleased hcredit
        (hdone fun _ hc => not_lt.mp fun hn => hr ⟨hc, hn⟩)
  · rw [if_neg hd]
    rw [if_neg hd, if_neg hd, if_neg hd] at hdone
    have hreleased : Spoiled c { c₁ with
        responses := c.responses.erase streamId
        deferredResets := c.deferredResets.erase streamId
        localStreamErrors := c.localStreamErrors.erase streamId } := by
      constructor <;> first | rfl | exact .inl rfl
    exact at_publish hreleased .nil (hdone fun h => absurd h hd)

theorem replied_frameSent (frame : Frame) :
    Replied host env session c (.frameSent frame)
      (((Callback.frameSent frame).body session).run env ⟨host, c, []⟩) := by
  cases hends : endsStream c frame with
  | true =>
    have hrun : (frameSent session frame).run env ⟨host, c, []⟩
        = (attempt (submitDeferredReset session frame.streamId) callbackFailed).run env
          ⟨host, c, []⟩ := by
      unfold frameSent
      rw [run_bind, run_conn]
      dsimp only
      rw [if_pos hends]
    change Replied host env session c _ (Effect.run (do
      return { code := ← frameSent session frame }) env ⟨host, c, []⟩)
    rw [run_bind, hrun, ← run_bind]
    refine .of_attempted ?_
    have hspoiled : Spoiled c { c with
        deferredResets := c.deferredResets.erase frame.streamId } := by
      constructor <;> first | rfl | exact .inl rfl
    have hdone : Called host env session c (.frameSent frame) _ := .streamEnded hends rfl
    unfold submitDeferredReset
    rw [run_bind, run_conn]
    dsimp only
    rw [run_bind, run_update]
    dsimp only
    cases he : c.deferredResets.lookup frame.streamId with
    | none =>
      rw [he] at hdone
      exact .returned hdone
    | some errorCode =>
      rw [he] at hdone
      dsimp only at hdone ⊢
      rw [run_bind, run_askOn]
      dsimp only
      by_cases h0 : env.reply (.sessionGetStreamRemoteClose frame.streamId) = 0
      · rw [if_pos h0] at hdone ⊢
        rw [run_bind, run_askOn]
        dsimp only
        rw [run_bind, run_host]
        have hasked : Driven session c (.frameSent frame) _ := Driven.nil.snoc (.inl rfl)
        have hcalls : Driven session c (.frameSent frame) _ := hasked.snoc (.inr ⟨errorCode, rfl⟩)
        refine after_raiseIf hspoiled hcalls fun _ => ?_
        exact .returned hdone
      · rw [if_neg h0] at hdone ⊢
        exact .returned hdone
  | false =>
    by_cases hg : ∃ l e d, frame.payload = .goaway l e d
    · obtain ⟨l, e, d, hk⟩ := hg
      have hrun : (frameSent session frame).run env ⟨host, c, []⟩
          = (attempt (do rememberGoaway e d; return 0) callbackFailed).run env
            ⟨host, c, []⟩ := by
        unfold frameSent
        rw [run_bind, run_conn]
        dsimp only
        rw [if_neg (by simp [hends]), hk]
      change Replied host env session c _ (Effect.run (do
        return { code := ← frameSent session frame }) env ⟨host, c, []⟩)
      rw [run_bind, hrun, ← run_bind]
      refine .of_attempted ?_
      rw [run_bind, run_rememberGoaway]
      cases env.alloc (.bytes d.length) with
      | true => exact .returned (.goawaySent hk)
      | false => exact .raised (by constructor <;> first | rfl | exact .inl rfl) .nil
    · have hnot : ∀ l e d, frame.payload ≠ .goaway l e d := fun l e d h => hg ⟨l, e, d, h⟩
      refine .of_code (f := frameSent session frame) (v := ⟨host, c, []⟩) ?_
        (.sentQuietly hends hnot)
      unfold frameSent
      rw [run_bind, run_conn]
      dsimp only
      rw [if_neg (by simp [hends])]
      split
      · exact absurd ‹_› (hnot _ _ _)
      · rfl

theorem replied_frameNotSent (frame : Frame) (errorCode : Int) :
    Replied host env session c (.frameNotSent frame errorCode)
      (((Callback.frameNotSent frame errorCode).body session).run env ⟨host, c, []⟩) := by
  refine .of_attempted ?_
  unfold recordFailure
  cases hs : frame.failedStream with
  | none => exact .returned (.notSentIgnored (by simp [Frame.recordedFailure, hs]))
  | some streamId =>
    cases he : expectedNotSent errorCode with
    | true => exact .returned (.notSentIgnored (by simp [Frame.recordedFailure, he]))
    | false =>
      have hrec : frame.recordedFailure errorCode = some streamId := by
        simp [Frame.recordedFailure, he, hs]
      let errors := c.localStreamErrors.insert streamId (frameNotSentError host errorCode)
      have hspoiled : Spoiled c { c with localStreamErrors := errors } := by
        constructor <;> first | rfl | exact .inl rfl
      have hdone : Called host env session c (.frameNotSent frame errorCode) _ :=
        .notSentRecorded hrec
      refine after_allocate (.refl c) .nil ?_
      rw [run_bind, run_host]
      dsimp only
      rw [run_bind, run_update]
      dsimp only
      cases hn : frame.needsReset with
      | false =>
        rw [hn] at hdone
        exact .returned hdone
      | true =>
        rw [hn] at hdone
        rw [if_pos rfl] at hdone ⊢
        rw [run_bind, run_askOn]
        dsimp only
        rw [run_bind, run_host]
        have hcalls : Driven session c (.frameNotSent frame errorCode) _ :=
          Driven.nil.snoc ⟨streamId, rfl⟩
        refine after_raiseIf hspoiled hcalls fun _ => ?_
        exact .returned hdone

/-- **A callback does one of the things listed**, and never raises. -/
theorem replied (cb : Callback) :
    Replied host env session c cb ((cb.body session).run env ⟨host, c, []⟩) := by
  cases cb with
  | collectOutput data => exact replied_collectOutput host env session c data
  | sendBody streamId padlen frameHeader length =>
    exact replied_sendBody host env session c streamId padlen frameHeader length
  | dataFrameLength streamId sessionWindow streamWindow frameSize =>
    exact replied_dataFrameLength host env session c streamId sessionWindow streamWindow frameSize
  | readBody streamId length => exact replied_readBody host env session c streamId length
  | beginFrame isData streamId length =>
    exact replied_beginFrame host env session c isData streamId length
  | beginHeaders => exact replied_beginHeaders host env session c
  | header name value noIndex => exact replied_header host env session c name value noIndex
  | invalidHeader =>
    exact .of_code (v := ⟨host, c, []⟩) rfl (.headerBlock (.inr (.inl ⟨rfl, rfl, rfl, rfl⟩)))
  | dataChunk streamId data => exact replied_dataChunk host env session c streamId data
  | frameReceived frame => exact replied_frameReceived host env session c frame
  | streamClosed streamId errorCode =>
    exact replied_streamClosed host env session c streamId errorCode
  | frameSent frame => exact replied_frameSent host env session c frame
  | frameNotSent frame errorCode => exact replied_frameNotSent host env session c frame errorCode

variable {host env session c} in
/-- **A callback asks the engine nothing that it is not for.** -/
theorem Called.asks {p : Reply × World} (h : Called host env session c cb p) :
    Driven session c cb p.2.issued := by
  cases h with
  | failed spoiled deferred calls => exact calls
  | readWhole unspent opened whole finished => exact finished.asks
  | readCopied unspent opened limited copied finished => exact finished.asks
  | dataFrameBegun => exact .credit c fun _ => ⟨_, rfl⟩
  | @streamClosed streamId errorCode =>
    dsimp only
    split
    · exact .credit c fun _ => ⟨_, rfl⟩
    · exact .nil
  | @streamEnded frame is ends calls =>
    have hasked : Driven session c (.frameSent frame) _ := Driven.nil.snoc (.inl rfl)
    subst calls
    dsimp only
    split
    · exact .nil
    · split
      · exact hasked.snoc (.inr ⟨_, rfl⟩)
      · exact hasked
  | @notSentRecorded frame errorCode streamId =>
    dsimp only
    split
    · exact Driven.nil.snoc ⟨streamId, rfl⟩
    · exact .nil
  | _ => exact .nil

end Callbacks

end Ngh2
