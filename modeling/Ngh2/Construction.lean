import Ngh2.MachineSteps

/-!
# Construction, and configuration code that calls back

`__init__` asks once whether the object is initialized, at its start, and
stores the session at its end. In between it reads and converts the values of
the configuration, and each of these may run code of the caller: an attribute
that is a property, an `__index__`. That code may call any method of the same
object, `__init__` included.

So a call of `__init__` is not one step. It goes from one value to the next
(`Reading`), what it keeps between two of them is a `Constructing`, and calls
that are inside of configuration code form a stack. `Reentrant` is the machine
of `Ngh2.Machine` with that stack; with nothing between the readings, a call is
the operation of the machine (`construct_uninterrupted`).
-/

namespace Ngh2

open Effect Nghttp2

/-! ## The values of a configuration -/

/-- **Where `__init__` runs code of the configuration**, in its order: the
attributes with their conversions, and the parts of the two that are pairs. -/
inductive Reading where
  | autoWindowUpdate
  | initialPeerMaxConcurrentStreams
  | maxReservedRemoteStreams
  | maxSendHeaderBlockLength
  | maxDeflateDynamicTableSize
  | maxOutboundAck
  | maxSettings
  | maxContinuations
  | maxSendDataFrameSize
  | streamResetRateLimit
  | glitchRateLimit
  | resetBurst
  | resetRate
  | glitchBurst
  | glitchRate
  | maxInboundHeaderListSize
  | maxInboundHeaderCount
  deriving DecidableEq, Repr

/-- **What configuration code gives.** -/
inductive Answer where
  /-- Reading the attribute raised. -/
  | raised (error : PyError)
  /-- An object for a flag; `none` is one that is no `bool`. -/
  | flag (value : Option Bool)
  /-- An object that unpacks into two. -/
  | pair
  /-- What the conversion of the object finds. -/
  | index (value : Index)
  deriving DecidableEq

/-- Which answers there are to a reading. The parts of a pair are objects
already, and are only converted. -/
def Reading.takes : Reading → Answer → Bool
  | .autoWindowUpdate, .raised _ => true
  | .autoWindowUpdate, .flag _ => true
  | .autoWindowUpdate, _ => false
  | .streamResetRateLimit, .raised _ => true
  | .streamResetRateLimit, .pair => true
  | .streamResetRateLimit, _ => false
  | .glitchRateLimit, .raised _ => true
  | .glitchRateLimit, .pair => true
  | .glitchRateLimit, _ => false
  | .resetBurst, .raised _ => false
  | .resetRate, .raised _ => false
  | .glitchBurst, .raised _ => false
  | .glitchRate, .raised _ => false
  | _, .raised _ => true
  | _, .index _ => true
  | _, _ => false

/-- The conversion of a value. -/
def Reading.convert (w : PointerWidth) (reading : Reading) (value : Index) : Except PyError Nat :=
  match reading with
  | .initialPeerMaxConcurrentStreams => uint32 value "initial_peer_max_concurrent_streams"
  | .maxReservedRemoteStreams => uint32 value "max_reserved_remote_streams"
  | .maxSendHeaderBlockLength => size w value "max_send_header_block_length"
  | .maxDeflateDynamicTableSize => size w value "max_deflate_dynamic_table_size"
  | .maxOutboundAck => size w value "max_outbound_ack"
  | .maxSettings => positiveSize w value "max_settings"
  | .maxContinuations => size w value "max_continuations"
  | .maxSendDataFrameSize => uint32 value "max_send_data_frame_size"
  | .resetBurst => uint64 value "stream_reset_rate_limit burst"
  | .resetRate => uint64 value "stream_reset_rate_limit rate"
  | .glitchBurst => uint64 value "glitch_rate_limit burst"
  | .glitchRate => uint64 value "glitch_rate_limit rate"
  | .maxInboundHeaderListSize => nonnegativeSize w value "max_inbound_header_list_size"
  | .maxInboundHeaderCount => nonnegativeSize w value "max_inbound_header_count"
  -- these three are not converted
  | .autoWindowUpdate => .ok 0
  | .streamResetRateLimit => .ok 0
  | .glitchRateLimit => .ok 0

/-- The reading after another. -/
def Reading.following : Reading → Reading
  | .autoWindowUpdate => .initialPeerMaxConcurrentStreams
  | .initialPeerMaxConcurrentStreams => .maxReservedRemoteStreams
  | .maxReservedRemoteStreams => .maxSendHeaderBlockLength
  | .maxSendHeaderBlockLength => .maxDeflateDynamicTableSize
  | .maxDeflateDynamicTableSize => .maxOutboundAck
  | .maxOutboundAck => .maxSettings
  | .maxSettings => .maxContinuations
  | .maxContinuations => .maxSendDataFrameSize
  | .maxSendDataFrameSize => .streamResetRateLimit
  | .streamResetRateLimit => .glitchRateLimit
  | .glitchRateLimit => .resetBurst
  | .resetBurst => .resetRate
  | .resetRate => .glitchBurst
  | .glitchBurst => .glitchRate
  | .glitchRate => .maxInboundHeaderListSize
  | .maxInboundHeaderListSize => .maxInboundHeaderCount
  | .maxInboundHeaderCount => .maxInboundHeaderCount

/-! ## A call of `__init__` -/

/-- The limits the binding enforces itself. -/
structure Limits where
  autoWindowUpdate : Bool := false
  maxSendDataFrameSize : Nat := 0
  maxSettings : Nat := 0
  maxInboundHeaderListSize : Nat := 0
  maxInboundHeaderCount : Nat := 0
  deriving DecidableEq, Repr

/-- The limits of a connection. -/
def Connection.ownLimits (c : Connection) : Limits where
  autoWindowUpdate := c.autoWindowUpdate
  maxSendDataFrameSize := c.maxSendDataFrameSize
  maxSettings := c.maxSettings
  maxInboundHeaderListSize := c.maxInboundHeaderListSize
  maxInboundHeaderCount := c.maxInboundHeaderCount

/-- The configuration argument of `__init__`. An object is known by the values
it was created with; what reading them gives is up to its class. -/
inductive ConfigArgument where
  /-- `None`. -/
  | default
  | given (config : Configuration)
  /-- An object that is no `Configuration`. -/
  | other
  deriving DecidableEq

/-- **A call of `__init__` inside of configuration code**: its arguments, what
it waits for, and what it has converted so far. -/
structure Constructing where
  role : Role
  config : Configuration
  next : Reading := .autoWindowUpdate
  /-- The object read for `auto_window_update`, whose type is checked later. -/
  flag : Option Bool := none
  /-- The limits converted so far. -/
  limits : Limits := {}
  deriving DecidableEq

/-- How far a call gets with an answer. -/
inductive Progress where
  /-- It waits for another. -/
  | reading (call : Constructing)
  /-- It has installed the session. -/
  | over (call : Constructing)
  deriving DecidableEq

/-- `__init__`, up to the first value of the configuration. -/
def beginConstruction (role : Option Role) (config : ConfigArgument) : M Constructing := do
  requireUninitialized
  match role, config with
  | none, _ => raise (.typeError "role must be a Role")
  | some _, .other => raise (.typeError "config must be a Configuration")
  | some role, .default => do
    raiseIfNegative (← read).callbacksNew
    raiseIfNegative (← read).optionNew
    return { role, config := {} }
  | some role, .given config => do
    raiseIfNegative (← read).callbacksNew
    raiseIfNegative (← read).optionNew
    return { role, config }

/-- What a call does with a converted value. -/
def Constructing.store (call : Constructing) (n : Nat) : M Progress :=
  match call.next with
  | .maxSettings =>
    return .reading { call with
      next := .maxContinuations, limits := { call.limits with maxSettings := n } }
  | .maxSendDataFrameSize => do
    match call.flag with
    | none => raise (.typeError "auto_window_update must be a bool")
    | some autoWindowUpdate =>
      return .reading { call with
        next := .streamResetRateLimit
        limits := { call.limits with autoWindowUpdate, maxSendDataFrameSize := n } }
  | .glitchRate => do
    let limits := call.limits
    raiseIf (limits.maxSendDataFrameSize < 1 ∨ 0xFFFFFF < limits.maxSendDataFrameSize)
      (.valueError "max_send_data_frame_size is out of range")
    update fun c => { c with
      autoWindowUpdate := limits.autoWindowUpdate
      maxSendDataFrameSize := limits.maxSendDataFrameSize
      maxSettings := limits.maxSettings }
    return .reading { call with next := .maxInboundHeaderListSize }
  | .maxInboundHeaderListSize => do
    update fun c => { c with maxInboundHeaderListSize := n }
    return .reading { call with
      next := .maxInboundHeaderCount
      limits := { call.limits with maxInboundHeaderListSize := n } }
  | .maxInboundHeaderCount => do
    update fun c => { c with maxInboundHeaderCount := n }
    install call.role call.config
    return .over { call with limits := { call.limits with maxInboundHeaderCount := n } }
  | reading => return .reading { call with next := reading.following }

/-- The exception of a pair that does not unpack. -/
def rateLimitError (name : String) : PyError → PyError
  | .typeError _ => .typeError (name ++ " must contain two integers")
  | .valueError _ => .typeError (name ++ " must contain two integers")
  | e => e

/-- **`__init__`, with the answer of configuration code**, up to the next value
or to its end. -/
def Constructing.resume (call : Constructing) (answer : Answer) : M Progress := do
  match answer with
  | .raised e =>
    match call.next with
    | .streamResetRateLimit => raise (rateLimitError "stream_reset_rate_limit" e)
    | .glitchRateLimit => raise (rateLimitError "glitch_rate_limit" e)
    | _ => raise e
  | .flag value => return .reading { call with next := call.next.following, flag := value }
  | .pair => return .reading { call with next := call.next.following }
  | .index value => do
    let n ← lift (call.next.convert (← host).pointerWidth value)
    call.store n

/-! ## The machine with calls inside of configuration code -/

/-- **The state of the machine**, and the calls of `__init__` that are inside of
configuration code, innermost first. -/
structure Reentrant where
  inner : Machine
  calls : List Constructing := []

/-- What happens to the object. -/
inductive ReentrantLabel where
  /-- What happens to the machine, other than a call of `__init__`. -/
  | inner (label : Label)
  /-- `__init__` is called. -/
  | construct (role : Option Role) (config : ConfigArgument) (env : Env)
  /-- Configuration code gives the innermost call its answer. -/
  | answer (answer : Answer) (env : Env)

/-- What the one who took the step is given. -/
inductive ReentrantOutcome where
  | inner (outcome : Outcome)
  /-- A call of `__init__` is inside of configuration code. -/
  | reading
  /-- A call of `__init__` returned. -/
  | constructed (call : Constructing)
  /-- A call of `__init__` raised. -/
  | raised (error : PyError)

/-- A call of `__init__` that is not split up. -/
def Label.isInit : Label → Bool
  | .request (.init _ _) _ => true
  | _ => false

namespace Reentrant

/-- The object after a part of a call of `__init__`, with the calls below it. -/
def afterPart (m : Reentrant) (below : List Constructing) :
    Except PyError Progress × World → ReentrantOutcome × Reentrant
  | (.ok (.reading call), w) => (.reading, ⟨{ m.inner with conn := w.conn }, call :: below⟩)
  | (.ok (.over call), w) => (.constructed call, ⟨{ m.inner with conn := w.conn }, below⟩)
  | (.error e, w) => (.raised e, ⟨{ m.inner with conn := w.conn }, below⟩)

/-- **One step of the machine.** No code of a configuration runs inside the
engine. -/
def step (m : Reentrant) : ReentrantLabel → Option (ReentrantOutcome × Reentrant)
  | .inner label =>
    if label.isInit then none
    else (m.inner.step label).map fun p => (.inner p.1, { m with inner := p.2 })
  | .construct role config env =>
    match m.inner.drive with
    | some _ => none
    | none => some (m.afterPart m.calls
        (Effect.run (do
          return Progress.reading (← beginConstruction role config)) env m.inner.world))
  | .answer answer env =>
    match m.inner.drive, m.calls with
    | none, call :: below =>
      if call.next.takes answer then
        some (m.afterPart below ((call.resume answer).run env m.inner.world))
      else none
    | _, _ => none

end Reentrant

/-- A history of the machine, newest entry first. -/
abbrev ReentrantHistory : Type := List (Entry Reentrant ReentrantLabel ReentrantOutcome)

/-- The runs of a fresh object. -/
abbrev ReentrantRuns (host : Host)
    (Allowed : ReentrantHistory → Reentrant → ReentrantLabel → Prop) :
    ReentrantHistory → Reentrant → Prop :=
  Run Reentrant.step Allowed { inner := Machine.fresh host }

/-! ## A call that is not interrupted -/

/-- The answers of a configuration that is what it was created as. -/
def Configuration.answers (config : Configuration) : List Answer := [
  .flag (some config.autoWindowUpdate),
  .index (.ok config.initialPeerMaxConcurrentStreams),
  .index (.ok config.maxReservedRemoteStreams),
  .index (.ok config.maxSendHeaderBlockLength),
  .index (.ok config.maxDeflateDynamicTableSize),
  .index (.ok config.maxOutboundAck),
  .index (.ok config.maxSettings),
  .index (.ok config.maxContinuations),
  .index (.ok config.maxSendDataFrameSize),
  .pair,
  .pair,
  .index (.ok config.streamResetRateLimit.1),
  .index (.ok config.streamResetRateLimit.2),
  .index (.ok config.glitchRateLimit.1),
  .index (.ok config.glitchRateLimit.2),
  .index (.ok config.maxInboundHeaderListSize),
  .index (.ok config.maxInboundHeaderCount)]

/-- A call with its answers one after the other. -/
def Constructing.finish (call : Constructing) : List Answer → M Progress
  | [] => return .reading call
  | answer :: answers => do
    match ← call.resume answer with
    | .reading call => call.finish answers
    | .over call => return .over call

/-- A call that was given all its answers returns `None`. -/
def construct (role : Role) (config : Configuration) : M Started := do
  let call ← beginConstruction (some role) (.given config)
  let _ ← call.finish config.answers
  return .value .none

/-- What follows a part of a body need only be compared where it returns. -/
theorem run_bind_congr {α β : Type} {x : M α} {f g : α → M β} {env : Env} {w : World}
    (h : ∀ a w, (f a).run env w = (g a).run env w) :
    (x >>= f).run env w = (x >>= g).run env w := by
  rw [run_bind, run_bind]
  rcases x.run env w with ⟨e | a, w'⟩
  · rfl
  · exact h a w'

/-- What follows a conversion need only be compared where it succeeds. -/
theorem run_lift_congr {α β : Type} {x : Except PyError α} {f g : α → M β} {env : Env} {w : World}
    (h : ∀ a, (f a).run env w = (g a).run env w) :
    (lift x >>= f).run env w = (lift x >>= g).run env w := by
  cases x with
  | error e => rfl
  | ok a => exact h a

/-- What follows a check need only be compared where it passes. -/
theorem run_raiseIf_congr {β : Type} {p : Prop} [Decidable p] {e : PyError} {f g : Unit → M β}
    {env : Env} {w : World} (h : ¬ p → (f ()).run env w = (g ()).run env w) :
    (raiseIf p e >>= f).run env w = (raiseIf p e >>= g).run env w := by
  rw [run_bind, run_bind, run_raiseIf]
  by_cases hp : p
  · rw [if_pos hp]
  · rw [if_neg hp]
    exact h hp

/-- A converted value, and what the call does with it. -/
theorem Constructing.run_finish_index (call : Constructing) (value : Index)
    (answers : List Answer) {β : Type} (f : Progress → M β) (env : Env) (w : World) :
    (call.finish (.index value :: answers) >>= f).run env w
      = (lift (call.next.convert w.host.pointerWidth value) >>= fun n => do
          match ← call.store n with
          | .reading call => call.finish answers >>= f
          | .over call => f (.over call)).run env w := by
  rw [Constructing.finish, Constructing.resume]
  simp only [bind_assoc]
  rw [run_bind, run_host]
  refine run_lift_congr fun n => ?_
  rw [run_bind, run_bind]
  rcases (call.store n).run env w with ⟨e | progress, w'⟩
  · rfl
  · cases progress <;> rfl

/-- **Without interruption a call is the operation of the machine.** -/
theorem construct_uninterrupted (role : Role) (config : Configuration) (env : Env) (w : World) :
    (construct role config).run env w = (init role config).run env w := by
  have hfinish (w : World) :
      (Constructing.finish { role, config } config.answers >>= fun _ =>
          (return Started.value .none : M Started)).run env w
        = (applyConfiguration config >>= fun _ => install role config >>= fun _ =>
          (return Started.value .none : M Started)).run env w := by
    unfold applyConfiguration
    simp only [bind_assoc]
    rw [run_bind host, run_host]
    show (Constructing.finish ⟨role, config, .initialPeerMaxConcurrentStreams,
      some config.autoWindowUpdate, {}⟩ config.answers.tail >>= fun _ =>
        (return Started.value .none : M Started)).run env w = _
    refine (Constructing.run_finish_index _ _ _ _ _ _).trans (run_lift_congr fun _ => ?_)
    refine (Constructing.run_finish_index _ _ _ _ _ _).trans (run_lift_congr fun _ => ?_)
    refine (Constructing.run_finish_index _ _ _ _ _ _).trans (run_lift_congr fun _ => ?_)
    refine (Constructing.run_finish_index _ _ _ _ _ _).trans (run_lift_congr fun _ => ?_)
    refine (Constructing.run_finish_index _ _ _ _ _ _).trans (run_lift_congr fun _ => ?_)
    refine (Constructing.run_finish_index _ _ _ _ _ _).trans (run_lift_congr fun maxSettings => ?_)
    refine (Constructing.run_finish_index _ _ _ _ _ _).trans (run_lift_congr fun _ => ?_)
    refine (Constructing.run_finish_index _ _ _ _ _ _).trans (run_lift_congr fun frameSize => ?_)
    show (Constructing.finish ⟨role, config, .resetBurst, some config.autoWindowUpdate,
      ⟨config.autoWindowUpdate, frameSize, maxSettings, 0, 0⟩⟩ (config.answers.drop 11) >>= fun _ =>
        (return Started.value .none : M Started)).run env w = _
    refine (Constructing.run_finish_index _ _ _ _ _ _).trans (run_lift_congr fun _ => ?_)
    refine (Constructing.run_finish_index _ _ _ _ _ _).trans (run_lift_congr fun _ => ?_)
    refine (Constructing.run_finish_index _ _ _ _ _ _).trans (run_lift_congr fun _ => ?_)
    refine (Constructing.run_finish_index _ _ _ _ _ _).trans (run_lift_congr fun _ => ?_)
    show ((raiseIf (frameSize < 1 ∨ 0xFFFFFF < frameSize) _ >>= fun _ =>
      (update _ >>= fun _ => (return Progress.reading _))) >>= _).run env w = _
    rw [Effect.bind_assoc]
    refine run_raiseIf_congr fun _ => ?_
    show (Constructing.finish ⟨role, config, .maxInboundHeaderListSize,
      some config.autoWindowUpdate, ⟨config.autoWindowUpdate, frameSize, maxSettings, 0, 0⟩⟩
      (config.answers.drop 15) >>= fun _ => (return Started.value .none : M Started)).run env _
        = (lift _ >>= _).run env _
    refine (Constructing.run_finish_index _ _ _ _ _ _).trans (run_lift_congr fun listSize => ?_)
    show (Constructing.finish ⟨role, config, .maxInboundHeaderCount,
      some config.autoWindowUpdate,
      ⟨config.autoWindowUpdate, frameSize, maxSettings, listSize, 0⟩⟩
      (config.answers.drop 16) >>= fun _ => (return Started.value .none : M Started)).run env _
        = (lift _ >>= _).run env _
    refine (Constructing.run_finish_index _ _ _ _ _ _).trans (run_lift_congr fun count => ?_)
    show ((update _ >>= fun _ => (install role config >>= fun _ =>
      (return Progress.over _))) >>= _).run env _ = (update _ >>= fun _ =>
        (install role config >>= _)).run env _
    rw [Effect.bind_assoc, run_bind (update _), run_update, run_bind (update _), run_update]
    dsimp only
    rw [Effect.bind_assoc, run_bind (install role config), run_bind (install role config)]
    rcases (install role config).run env _ with ⟨_ | _, _⟩ <;> rfl
  unfold construct beginConstruction init
  simp only [Effect.bind_assoc]
  refine run_bind_congr fun _ w => ?_
  show (Effect.run (read >>= fun env => raiseIfNegative env.callbacksNew >>= fun _ =>
    read >>= fun env => raiseIfNegative env.optionNew >>= fun _ =>
    Constructing.finish { role, config } config.answers >>= fun _ =>
      (return Started.value .none : M Started)) env w) = _
  refine run_bind_congr fun _ w => run_bind_congr fun _ w => ?_
  exact run_bind_congr fun _ w => run_bind_congr fun _ w => hfinish w

end Ngh2
