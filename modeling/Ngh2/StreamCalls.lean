import Ngh2.Contract
import Ngh2.Lib.Interleavings
import Ngh2.MachineSteps
import Ngh2.SideBySide

/-!
# Calls on different streams

What a connection holds of one stream is a slice of its tables: the body, the
mark that a response was submitted, the reset held back, and the received bytes
still to be consumed. An operation that is given a stream reads the rest of the
connection without changing it, reads and changes the slice of that stream, and
counts chunks in one counter. So two of them on different streams do not see
each other through the binding: where every call keeps the answers the engine
gave it, what each call returns or raises, what it asks of the engine, and the
connection that is left depend on the order within each stream only
(`streams_independent`).

The engine itself is not part of the statement, and it may well answer another
order of calls differently. It does so where a push is among them, since the
stream that it promises is answered for only once it was promised: a push is on
two streams, and is left out. Of the answers it is assumed that none is fatal,
since a fatal answer ends the connection for all streams.
-/

namespace Ngh2

open Effect Nghttp2 Interleaving

/-- **The stream an operation is on**, unless it is on none, or on two as a push
is. -/
def Request.stream : Request → Option StreamId
  | .sendResponse streamId _ _ => some streamId
  | .sendInformationalResponse streamId _ => some streamId
  | .sendTrailers streamId _ => some streamId
  | .sendData streamId _ _ => some streamId
  | .resetStream streamId _ _ => some streamId
  | .consumeReceivedData streamId _ => some streamId
  | .setLocalWindowSize _ streamId => some streamId
  | .sendPriorityUpdate streamId _ => some streamId
  | .setStreamPriority streamId _ _ _ => some streamId
  | .getStreamPriority streamId => some streamId
  | .sendAltSvc streamId _ _ => some streamId
  | .queuedBodySize streamId => streamId
  | .remoteWindowSize streamId => some streamId
  | .localWindowSize streamId => some streamId
  | _ => none

/-- No answer of the engine is fatal. -/
def Env.Mild (env : Env) : Prop := ∀ q, isFatal (env.reply q) = false

/-- The stream that a call is on, if that is what a label is. -/
def Label.stream : Label → Option StreamId
  | .request r _ => r.stream
  | _ => none

/-- **A call on a stream** that no fatal answer ends. -/
def Label.OnStream : Label → Prop
  | .request r env => r.stream.isSome = true ∧ env.Mild
  | _ => False

/-! ## The slices of a connection -/

/-- Chunks count the same in either order. -/
instance (width : PointerWidth) : RightCommutative (countQueued width) where
  right_comm queued chunk chunk' := by
    unfold countQueued
    by_cases hchunk : chunk = []
    · rw [if_pos hchunk, if_pos hchunk]
    · by_cases hchunk' : chunk' = []
      · rw [if_pos hchunk', if_pos hchunk']
      · rw [if_neg hchunk, if_neg hchunk', if_neg hchunk', if_neg hchunk]
        exact Wrapping.add_right_comm ..

namespace Connection

/-- What a connection holds apart from its streams. -/
def shared (c : Connection) : Connection :=
  { c with bodies := ∅, queuedBodySize := 0, responses := ∅, unconsumed := ∅, deferredResets := ∅ }

/-- **Two connections hold the same of a stream.** -/
structure AgreeOn (s : StreamId) (c d : Connection) : Prop where
  body : d.bodies.lookup s = c.bodies.lookup s
  response : s ∈ d.responses ↔ s ∈ c.responses
  reset : d.deferredResets.lookup s = c.deferredResets.lookup s
  unconsumed : d.unconsumed.lookup s = c.unconsumed.lookup s

section

variable {s : StreamId} {c d e : Connection}

theorem AgreeOn.refl (s : StreamId) (c : Connection) : AgreeOn s c c := ⟨rfl, Iff.rfl, rfl, rfl⟩

theorem AgreeOn.symm (h : AgreeOn s c d) : AgreeOn s d c :=
  ⟨h.body.symm, h.response.symm, h.reset.symm, h.unconsumed.symm⟩

theorem AgreeOn.trans (h : AgreeOn s c d) (h' : AgreeOn s d e) : AgreeOn s c e :=
  ⟨h'.body.trans h.body, h'.response.trans h.response, h'.reset.trans h.reset,
    h'.unconsumed.trans h.unconsumed⟩

/-- **A connection is its slices, its counter and the rest.** -/
theorem eq_of_slices (hshared : d.shared = c.shared)
    (hcount : d.queuedBodySize = c.queuedBodySize) (hslices : ∀ s, AgreeOn s c d) : d = c := by
  have hbodies : d.bodies = c.bodies := Finmap.ext_lookup fun s => (hslices s).body
  have hresponses : d.responses = c.responses := Finset.ext fun s => (hslices s).response
  have hresets : d.deferredResets = c.deferredResets := Finmap.ext_lookup fun s => (hslices s).reset
  have hunconsumed : d.unconsumed = c.unconsumed :=
    Finmap.ext_lookup fun s => (hslices s).unconsumed
  have hrebuilt (e : Connection) : e = { e.shared with
      bodies := e.bodies, queuedBodySize := e.queuedBodySize, responses := e.responses
      unconsumed := e.unconsumed, deferredResets := e.deferredResets } := rfl
  rw [hrebuilt d, hshared, hbodies, hcount, hresponses, hresets, hunconsumed]
  exact (hrebuilt c).symm

end

/-- **Two connections on which the same was done to a stream**: they still hold
the same of it, what else they hold is what they began with, and the same
chunks were counted on both. -/
structure Beside (width : PointerWidth) (s : StreamId) (c₀ d₀ c d : Connection) : Prop where
  same : d.shared = c.shared
  kept : c.shared = c₀.shared
  here : AgreeOn s c d
  away : ∀ t, t ≠ s → AgreeOn t c₀ c ∧ AgreeOn t d₀ d
  counted : ∃ chunks : List Bytes,
    c.queuedBodySize = chunks.foldl (countQueued width) c₀.queuedBodySize ∧
      d.queuedBodySize = chunks.foldl (countQueued width) d₀.queuedBodySize

/-- What is not of a stream is the same on both. -/
theorem Beside.field {α : Type} {width : PointerWidth} {s : StreamId} {c₀ d₀ c d : Connection}
    (h : Beside width s c₀ d₀ c d) (f : Connection → α) (hf : ∀ c, f c.shared = f c) :
    f d = f c := by
  rw [← hf d, h.same, hf]

/-- Before anything is done. -/
theorem Beside.start {width : PointerWidth} {s : StreamId} {c d : Connection}
    (hshared : d.shared = c.shared) (hhere : AgreeOn s c d) : Beside width s c d c d :=
  ⟨hshared, rfl, hhere, fun t _ => ⟨.refl t c, .refl t d⟩, [], rfl, rfl⟩

end Connection

section Bodies

variable {host : Host} {s : StreamId} {c₀ d₀ : Connection} {α β : Type}

/-- Two worlds in which the same was done to a stream, by steps that no fatal
answer ended. -/
structure World.Beside (host : Host) (s : StreamId) (c₀ d₀ : Connection) (env : Env)
    (w v : World) : Prop where
  mild : env.Mild
  here : w.host = host
  there : v.host = host
  issued : v.issued = w.issued
  conn : Connection.Beside host.pointerWidth s c₀ d₀ w.conn v.conn

/-- **A computation concerns one stream**: it does the same wherever the same is
held of that stream, and changes nothing else. -/
abbrev Concerns (host : Host) (s : StreamId) (c₀ d₀ : Connection) (x : M α) : Prop :=
  Relates (World.Beside host s c₀ d₀) Eq x x

/-! ## The primitive actions -/

/-- Looking at what is not of a stream. -/
theorem concerns_look {f : Connection → M α} (hshared : ∀ c, f c.shared = f c)
    (hf : ∀ c, Concerns host s c₀ d₀ (f c)) : Concerns host s c₀ d₀ (conn >>= f) := by
  refine relates_get_bind fun r w v h => ?_
  show Relates _ _ (f w.conn) (f v.conn)
  rw [← hshared v.conn, h.conn.same, hshared]
  exact hf w.conn

/-- Looking at what is held of the stream. -/
theorem concerns_conn {f : Connection → M α}
    (h : ∀ c d, Connection.Beside host.pointerWidth s c₀ d₀ c d →
      Relates (World.Beside host s c₀ d₀) Eq (f c) (f d)) :
    Concerns host s c₀ d₀ (conn >>= f) :=
  relates_get_bind fun _ w v hbeside => h w.conn v.conn hbeside.conn

/-- Looking at the host. -/
theorem concerns_host {f : Host → M α} (hf : Concerns host s c₀ d₀ (f host)) :
    Concerns host s c₀ d₀ (Ngh2.host >>= f) := by
  refine relates_get_bind fun r w v h => ?_
  show Relates _ _ (f w.host) (f v.host)
  rw [h.here, h.there]
  exact hf

/-- Assigning to what is held of the stream. -/
theorem concerns_update (counts : List Bytes) {f : Connection → Connection}
    (hshared : ∀ c, (f c).shared = c.shared)
    (hhere : ∀ c d, Connection.AgreeOn s c d → Connection.AgreeOn s (f c) (f d))
    (haway : ∀ c t, t ≠ s → Connection.AgreeOn t c (f c))
    (hcount : ∀ c, (f c).queuedBodySize
      = counts.foldl (countQueued host.pointerWidth) c.queuedBodySize) :
    Concerns host s c₀ d₀ (update f) := by
  refine relates_modify fun r w v h => ⟨h.mild, h.here, h.there, h.issued, ?_⟩
  obtain ⟨-, -, -, -, same, kept, here, away, chunks, hcounted, hcounted'⟩ := h
  refine ⟨?_, ?_, hhere _ _ here, fun t ht => ⟨?_, ?_⟩, chunks ++ counts, ?_, ?_⟩
  · show (f v.conn).shared = (f w.conn).shared
    rw [hshared, hshared, same]
  · show (f w.conn).shared = c₀.shared
    rw [hshared, kept]
  · exact (away t ht).1.trans (haway w.conn t ht)
  · exact (away t ht).2.trans (haway v.conn t ht)
  · show (f w.conn).queuedBodySize = _
    rw [hcount, hcounted, List.foldl_append]
  · show (f v.conn).queuedBodySize = _
    rw [hcount, hcounted', List.foldl_append]

theorem concerns_setBody (b : BodySource) : Concerns host s c₀ d₀ (setBody s b) := by
  refine concerns_update [] (fun _ => rfl) (fun c d h => ?_) (fun c t ht => ?_) fun _ => rfl
  · refine ⟨?_, h.response, h.reset, h.unconsumed⟩
    show (d.bodies.insert s b).lookup s = (c.bodies.insert s b).lookup s
    rw [Finmap.lookup_insert, Finmap.lookup_insert]
  · exact ⟨Finmap.lookup_insert_of_ne _ ht, Iff.rfl, rfl, rfl⟩

theorem concerns_note (i : Issued) : Concerns host s c₀ d₀ (note i) := by
  refine relates_modify fun r w v h => ⟨h.mild, h.here, h.there, ?_, h.conn⟩
  show v.issued ++ [i] = w.issued ++ [i]
  rw [h.issued]

theorem concerns_ask (q : EngineCall) : Concerns host s c₀ d₀ (ask q) :=
  concerns_look (fun _ => rfl) fun _ => relates_then (concerns_note _) fun _ =>
    relates_then relates_read fun _ => relates_pure rfl

/-- **A submission that fails raises**, and is not fatal. -/
theorem concerns_submit (q : EngineCall) : Concerns host s c₀ d₀ (submit q) := by
  have hreply : Relates (World.Beside host s c₀ d₀) (fun a b => b = a ∧ isFatal a = false) (ask q)
    (ask q) := by
    refine fun r w v h => ⟨.returned ⟨rfl, h.mild q⟩, ((concerns_ask q) r w v h).2⟩
  refine relates_bind hreply fun a b hab => ?_
  obtain ⟨rfl, hmild⟩ := hab
  have hraise : Concerns host s c₀ d₀ (raiseNativeError b : M PUnit) := by
    refine relates_then (relates_allocate _) fun _ => concerns_host ?_
    rw [hmild]
    exact relates_raise _
  exact relates_ite Iff.rfl (fun _ => relates_then hraise fun _ => relates_pure rfl)
    fun _ => relates_pure rfl

/-! ## The private methods -/

theorem concerns_requireActive : Concerns host s c₀ d₀ requireActive :=
  relates_then (concerns_look (fun _ => rfl) fun _ => relates_then (relates_raiseIf Iff.rfl _)
    fun _ => relates_raiseIf Iff.rfl _) fun _ =>
      concerns_look (fun _ => rfl) fun _ => relates_raiseIf Iff.rfl _

theorem concerns_requireStream (t : StreamId) : Concerns host s c₀ d₀ (requireStream t) :=
  relates_then (concerns_ask _) fun _ => relates_raiseIf Iff.rfl _

theorem concerns_requireServer (message : String) : Concerns host s c₀ d₀ (requireServer message) :=
  concerns_look (fun _ => rfl) fun _ => relates_raiseIf Iff.rfl _

theorem concerns_requireClient (message : String) : Concerns host s c₀ d₀ (requireClient message) :=
  concerns_look (fun _ => rfl) fun _ => relates_raiseIf Iff.rfl _

theorem concerns_openBody : Concerns host s c₀ d₀ (openBody s) := by
  refine concerns_conn fun c d h => ?_
  rw [h.here.body]
  cases c.bodies.lookup s with
  | none => exact relates_raise _
  | some b => exact relates_then (relates_raiseIf Iff.rfl _) fun _ => relates_pure rfl

theorem concerns_resumeBody (b : BodySource) : Concerns host s c₀ d₀ (resumeBody s b) :=
  relates_then (concerns_submit _) fun _ => concerns_setBody _

theorem concerns_recordBody : Concerns host s c₀ d₀ (recordBody s) :=
  relates_then (relates_allocate _) fun _ => concerns_setBody _

/-- A chunk is counted on both sides. -/
theorem concerns_queueChunk (b : BodySource) (chunk : Bytes) (endStream : Bool) :
    Concerns host s c₀ d₀ (queueChunk s b chunk endStream) := by
  refine concerns_host (relates_then (concerns_setBody _) fun _ => relates_then ?_ fun _ =>
    relates_pure rfl)
  exact concerns_update [chunk] (fun _ => rfl)
    (fun _ _ h => ⟨h.body, h.response, h.reset, h.unconsumed⟩)
    (fun c t _ => ⟨rfl, Iff.rfl, rfl, rfl⟩) fun _ => rfl

/-- Nothing more is to be done. -/
theorem concerns_return (a : α) : Concerns host s c₀ d₀ (pure a) := relates_pure rfl

theorem Connection.AgreeOn.locallyEnded {c d : Connection} (h : Connection.AgreeOn s c d)
    (hserver : d.server = c.server) : d.locallyEnded s = c.locallyEnded s := by
  unfold Connection.locallyEnded
  rw [h.body, hserver, decide_eq_decide.mpr h.response]

/-! ## The calls -/

theorem concerns_sendResponse (headers : List Header) (endStream : Bool) :
    Concerns host s c₀ d₀ (sendResponse s headers endStream) := by
  refine relates_then concerns_requireActive fun _ => relates_then (concerns_requireServer _)
    fun _ => relates_then (concerns_requireStream _) fun _ => concerns_conn fun c d h => ?_
  refine relates_then (relates_raiseIf h.here.response.symm _) fun _ =>
    relates_then (concerns_submit _) fun _ => relates_then (relates_allocate _) fun _ =>
      relates_then ?_ fun _ => relates_ite Iff.rfl
        (fun _ => relates_then (concerns_recordBody) fun _ => concerns_return _)
        fun _ => concerns_return _
  refine concerns_update [] (fun _ => rfl) (fun c d h => ?_) (fun c t ht => ?_) fun _ => rfl
  · refine ⟨h.body, ?_, h.reset, h.unconsumed⟩
    show s ∈ insert s d.responses ↔ s ∈ insert s c.responses
    simp only [Finset.mem_insert_self]
  · refine ⟨rfl, ?_, rfl, rfl⟩
    show t ∈ insert s c.responses ↔ t ∈ c.responses
    rw [Finset.mem_insert, or_iff_right ht]

theorem concerns_sendInformationalResponse (headers : List Header) :
    Concerns host s c₀ d₀ (sendInformationalResponse s headers) :=
  relates_then concerns_requireActive fun _ => relates_then (concerns_requireServer _) fun _ =>
    relates_then (concerns_requireStream _) fun _ => concerns_conn fun _ _ h =>
      relates_then (relates_raiseIf h.here.response.symm _) fun _ =>
        relates_then (concerns_submit _) fun _ => concerns_return _

theorem concerns_sendTrailers (headers : List Header) :
    Concerns host s c₀ d₀ (sendTrailers s headers) :=
  relates_then concerns_requireActive fun _ => relates_then concerns_openBody fun _ =>
    relates_then (concerns_setBody _) fun _ => relates_ite Iff.rfl
      (fun _ => relates_then (concerns_resumeBody _) fun _ => concerns_return _)
      fun _ => concerns_return _

theorem concerns_sendData (chunk : Bytes) (endStream : Bool) :
    Concerns host s c₀ d₀ (sendData s chunk endStream) :=
  relates_then concerns_requireActive fun _ => relates_then concerns_openBody fun _ =>
    relates_then (concerns_queueChunk _ _ _) fun _ => relates_ite Iff.rfl
      (fun _ => relates_then (concerns_resumeBody _) fun _ => concerns_return _)
      fun _ => concerns_return _

theorem concerns_resetStream (errorCode : Nat) (afterEndStream : Bool) :
    Concerns host s c₀ d₀ (resetStream s errorCode afterEndStream) := by
  have hsubmit : Concerns host s c₀ d₀ (do
      let _ ← submit (.submitRstStream s errorCode)
      return Started.value .none) := relates_then (concerns_submit _) fun _ => concerns_return _
  refine relates_then concerns_requireActive fun _ =>
    relates_ite Iff.rfl (fun _ => ?_) fun _ => hsubmit
  refine relates_then (concerns_requireStream _) fun _ => relates_then (concerns_ask _) fun _ =>
    relates_ite Iff.rfl (fun _ => concerns_conn fun c d h => ?_) fun _ => hsubmit
  have hended : d.locallyEnded s = c.locallyEnded s :=
    h.here.locallyEnded (h.field Connection.server fun _ => rfl)
  refine relates_then (relates_raiseIf (by rw [hended]) _) fun _ => relates_then ?_ fun _ =>
    concerns_return _
  refine concerns_update [] (fun _ => rfl) (fun c d h => ?_) (fun c t ht => ?_) fun _ => rfl
  · refine ⟨h.body, h.response, ?_, h.unconsumed⟩
    show (d.deferredResets.insert s errorCode).lookup s
      = (c.deferredResets.insert s errorCode).lookup s
    rw [Finmap.lookup_insert, Finmap.lookup_insert]
  · exact ⟨rfl, Iff.rfl, Finmap.lookup_insert_of_ne _ ht, rfl⟩

theorem concerns_consumeReceivedData (amount : Nat) :
    Concerns host s c₀ d₀ (consumeReceivedData s amount) := by
  refine relates_then concerns_requireActive fun _ => concerns_conn fun c d h => ?_
  have hwindow : d.autoWindowUpdate = c.autoWindowUpdate :=
    h.field Connection.autoWindowUpdate fun _ => rfl
  rw [h.here.unconsumed, hwindow]
  refine relates_then (relates_raiseIf Iff.rfl _) fun _ =>
    relates_ite Iff.rfl (fun _ => concerns_return _) fun _ => ?_
  refine relates_then (relates_raiseIf Iff.rfl _) fun _ => relates_then (concerns_submit _)
    fun _ => relates_then ?_ fun _ => concerns_return _
  refine concerns_update [] (fun _ => rfl) (fun c d h => ?_) (fun c t ht => ?_) fun _ => rfl
  · refine ⟨h.body, h.response, h.reset, ?_⟩
    show Finmap.lookup s (if _ then _ else _) = Finmap.lookup s (if _ then _ else _)
    split
    · rw [Finmap.lookup_insert, Finmap.lookup_insert]
    · rw [Finmap.lookup_erase, Finmap.lookup_erase]
  · refine ⟨rfl, Iff.rfl, rfl, ?_⟩
    show Finmap.lookup t (if _ then _ else _) = _
    split
    · exact Finmap.lookup_insert_of_ne _ ht
    · exact Finmap.lookup_erase_ne ht

theorem concerns_setLocalWindowSize (windowSize : Nat) :
    Concerns host s c₀ d₀ (setLocalWindowSize windowSize s) := by
  have hsubmit : Concerns host s c₀ d₀ (do
      let _ ← submit (.sessionSetLocalWindowSize s windowSize)
      return Started.value .none) := relates_then (concerns_submit _) fun _ => concerns_return _
  exact relates_then concerns_requireActive fun _ => relates_ite Iff.rfl
    (fun _ => relates_then (concerns_requireStream _) fun _ => hsubmit) fun _ => hsubmit

theorem concerns_sendPriorityUpdate (fieldValue : Option Bytes) :
    Concerns host s c₀ d₀ (sendPriorityUpdate s fieldValue) := by
  refine relates_then concerns_requireActive fun _ => relates_then (concerns_requireClient _)
    fun _ => relates_then (concerns_ask _) fun _ =>
      relates_ite Iff.rfl (fun _ => concerns_return _) fun _ => ?_
  cases fieldValue with
  | none => exact relates_raise _
  | some value => exact relates_then (concerns_submit _) fun _ => concerns_return _

theorem concerns_setStreamPriority (urgency : Nat) (incremental ignoreClientSignal : Bool) :
    Concerns host s c₀ d₀ (setStreamPriority s urgency incremental ignoreClientSignal) :=
  relates_then concerns_requireActive fun _ => relates_then (concerns_requireServer _) fun _ =>
    concerns_look (fun _ => rfl) fun _ => relates_ite Iff.rfl (fun _ => concerns_return _) fun _ =>
      relates_then (concerns_requireStream _) fun _ =>
        relates_then (concerns_submit _) fun _ => concerns_return _

theorem concerns_getStreamPriority : Concerns host s c₀ d₀ (getStreamPriority s) :=
  relates_then concerns_requireActive fun _ => relates_then (concerns_requireServer _) fun _ =>
    concerns_look (fun _ => rfl) fun _ => relates_ite Iff.rfl (fun _ => concerns_return _) fun _ =>
      relates_then (concerns_requireStream _) fun _ => relates_then (concerns_ask _) fun _ =>
        relates_then relates_read fun _ => concerns_return _

theorem concerns_sendAltSvc (origin fieldValue : Bytes) :
    Concerns host s c₀ d₀ (sendAltSvc s origin fieldValue) :=
  relates_then concerns_requireActive fun _ => relates_then (concerns_requireServer _) fun _ =>
    relates_then (concerns_submit _) fun _ => concerns_return _

theorem concerns_queuedBodySize : Concerns host s c₀ d₀ (queuedBodySize (some s)) := by
  refine concerns_conn fun c d h => ?_
  dsimp only
  rw [h.here.body]
  cases c.bodies.lookup s with
  | none => exact concerns_return _
  | some b => exact concerns_return _

theorem concerns_windowSize (connection : EngineCall) (stream : StreamId → EngineCall) :
    Concerns host s c₀ d₀ (windowSize connection stream s) :=
  relates_then concerns_requireActive fun _ => relates_ite Iff.rfl
    (fun _ => relates_then (concerns_ask _) fun _ => concerns_return _)
    fun _ => relates_then (concerns_requireStream _) fun _ =>
      relates_then (concerns_ask _) fun _ => concerns_return _

/-- **A call on a stream concerns that stream.** -/
theorem concerns_body {r : Request} (h : r.stream = some s) : Concerns host s c₀ d₀ r.body := by
  cases r <;> cases h
  case sendResponse headers endStream => exact concerns_sendResponse headers endStream
  case sendInformationalResponse headers => exact concerns_sendInformationalResponse headers
  case sendTrailers headers => exact concerns_sendTrailers headers
  case sendData chunk endStream => exact concerns_sendData chunk endStream
  case resetStream errorCode after => exact concerns_resetStream errorCode after
  case consumeReceivedData amount => exact concerns_consumeReceivedData amount
  case setLocalWindowSize windowSize => exact concerns_setLocalWindowSize windowSize
  case sendPriorityUpdate fieldValue => exact concerns_sendPriorityUpdate fieldValue
  case setStreamPriority urgency incremental ignore =>
    exact concerns_setStreamPriority urgency incremental ignore
  case getStreamPriority => exact concerns_getStreamPriority
  case sendAltSvc origin fieldValue => exact concerns_sendAltSvc origin fieldValue
  case queuedBodySize => exact concerns_queuedBodySize
  case remoteWindowSize => exact concerns_windowSize _ _
  case localWindowSize => exact concerns_windowSize _ _

/-- A call on a stream is over when it returns: it does not enter the engine. -/
theorem Requested.not_entered {host : Host} {env : Env} {c : Connection} {r : Request} {d : Drive}
    {w : World} (h : Requested host env c r (.ok (.enter d), w)) : r.stream = none := by
  cases h <;> rfl

end Bodies

/-! ## The order of the calls -/

section Order

variable {host : Host} {c c' : Connection} {m m₁ m₂ : Machine} {s t : StreamId} {o : Outcome}

/-- **One call on a stream, wherever the same is held of it**: it has the same
outcome, and does the same. -/
theorem Machine.step_beside {r : Request} {env : Env} (hs : r.stream = some s) (hmild : env.Mild)
    (hshared : c'.shared = c.shared) (hhere : Connection.AgreeOn s c c')
    (hstep : Machine.step ⟨host, c, none⟩ (.request r env) = some (o, m₁)) :
    ∃ d d', m₁ = ⟨host, d, none⟩ ∧
      Machine.step ⟨host, c', none⟩ (.request r env) = some (o, ⟨host, d', none⟩) ∧
      Connection.Beside host.pointerWidth s c c' d d' := by
  obtain ⟨hagree, hafter⟩ := concerns_body hs env ⟨host, c, []⟩ ⟨host, c', []⟩
    ⟨hmild, rfl, rfl, rfl, .start hshared hhere⟩
  have hinside (d : Drive) (w : World) : r.body.run env ⟨host, c, []⟩ ≠ (.ok (.enter d), w) := by
    intro hrun
    have hreq := requested host env c r
    rw [hrun] at hreq
    exact absurd (hs.symm.trans hreq.not_entered) (Option.some_ne_none s)
  replace hstep : Machine.afterRequest _ (r.body.run env ⟨host, c, []⟩) = (o, m₁) :=
    Option.some.inj hstep
  show ∃ d d', _ ∧ some (Machine.afterRequest ⟨host, c', none⟩ (r.body.run env ⟨host, c', []⟩))
    = some (o, ⟨host, d', none⟩) ∧ _
  generalize r.body.run env ⟨host, c, []⟩ = p, r.body.run env ⟨host, c', []⟩ = p'
    at hagree hafter hinside hstep ⊢
  obtain ⟨x, w⟩ := p
  obtain ⟨x', w'⟩ := p'
  obtain rfl : x = x' := hagree.eq
  have hissued : w'.issued = w.issued := hafter.issued
  rcases x with e | value | d
  · cases hstep
    exact ⟨w.conn, w'.conn, rfl, congrArg (fun is => some (Outcome.mk (.raised e) is, _)) hissued,
      hafter.conn⟩
  · cases hstep
    exact ⟨w.conn, w'.conn, rfl,
      congrArg (fun is => some (Outcome.mk (.returned value) is, _)) hissued, hafter.conn⟩
  · exact absurd rfl (hinside d w)

/-- **Calls on different streams can be swapped.** -/
theorem Machine.step_commutes :
    Commutes Machine.step (fun x => x.1.OnStream) fun x => x.1.stream := by
  rintro ⟨host, c, drive⟩ m₁ m₂ ⟨l, o⟩ ⟨l', o'⟩ hx hy hne hstep hstep'
  cases l with
  | callback | ret => exact absurd hx id
  | request r env =>
  cases l' with
  | callback | ret => exact absurd hy id
  | request r' env' =>
  obtain ⟨hr, hmild⟩ := hx
  obtain ⟨hr', hmild'⟩ := hy
  obtain ⟨s, hs⟩ := Option.isSome_iff_exists.mp hr
  obtain ⟨t, ht⟩ := Option.isSome_iff_exists.mp hr'
  have hst : s ≠ t := fun heq => hne (hs.trans (heq ▸ ht.symm))
  obtain rfl : drive = none := (Machine.request_taken hstep).1
  -- the first call leaves what is held of the stream of the second
  obtain ⟨d, _, rfl, -, hfirst⟩ := Machine.step_beside hs hmild rfl (.refl s c) hstep
  have hkept : Connection.AgreeOn t c d := (hfirst.away t hst.symm).1
  obtain ⟨e, d', rfl, hstep'', hsecond⟩ :=
    Machine.step_beside ht hmild' hfirst.kept.symm hkept.symm hstep'
  -- and the second, taken alone, leaves what is held of the stream of the first
  have hshared : d'.shared = c.shared := hsecond.same.trans (hsecond.kept.trans hfirst.kept)
  obtain ⟨d₁, e', heq, hstep''', hthird⟩ :=
    Machine.step_beside hs hmild hshared (hsecond.away s hst).2 hstep
  obtain rfl : d = d₁ := congrArg Machine.conn heq
  have hsame : e' = e := by
    refine Connection.eq_of_slices ?_ ?_ fun u => ?_
    · rw [hthird.same, hsecond.kept]
    · obtain ⟨chunks, hd, he'⟩ := hthird.counted
      obtain ⟨chunks', he, hd'⟩ := hsecond.counted
      rw [he', hd', he, hd, ← List.foldl_append, ← List.foldl_append]
      exact List.perm_append_comm.foldl_eq _
    · by_cases hus : u = s
      · subst hus
        exact (hsecond.away u hst).1.symm.trans hthird.here
      · have hmoved : Connection.AgreeOn u d' e' := (hthird.away u hus).2
        by_cases hut : u = t
        · subst hut
          exact hsecond.here.trans hmoved
        · obtain ⟨hkept, hkept'⟩ := hsecond.away u hut
          exact (hkept.symm.trans (hfirst.away u hus).1.symm).trans (hkept'.trans hmoved)
  exact ⟨⟨host, d', none⟩, hstep'', hsame ▸ hstep'''⟩

end Order

/-- **Streams do not see each other.** Whatever machine some calls on streams
were made on, make them in any other order that leaves the order on each stream
as it was, and let every call find the answers it found: it returns or raises
what it did and asks the engine what it did, and the machine they lead to is the
same. -/
theorem streams_independent {m m' : Machine} {calls calls' : List (Label × Outcome)}
    (hcalls : ∀ x ∈ calls, x.1.OnStream)
    (hsame : ∀ s, part (fun x => x.1.stream) s calls = part (fun x => x.1.stream) s calls')
    (htrace : Trace Machine.step m calls m') : Trace Machine.step m calls' m' :=
  htrace.of_parts Machine.step_commutes hcalls hsame

/-- A server that answers two streams with bodies. -/
def twoBodies : Machine where
  conn := { server := true, session := some 0, initialized := true, active := true }

/-- A call that was accepted. -/
def answeredCall (r : Request) (is : List Issued) : Label × Outcome :=
  (.request r (.accepting []), ⟨.returned .none, is⟩)

/-- The response to a stream, and a byte of its body. -/
def answering (s : StreamId) (byte : UInt8) : List (Label × Outcome) := [
  answeredCall (.sendResponse s [] false)
    [.call (some 0) (.sessionGetStreamLocalClose s), .call (some 0) (.submitResponse2 s [] true)],
  answeredCall (.sendData s [byte] true) []]

/-- One stream after the other, or both in turns. -/
theorem streams_independent_twoBodies :
    ∃ m', Trace Machine.step twoBodies (answering 1 7 ++ answering 3 9) m' ∧
      ∀ a b c d, answering 1 7 = [a, b] → answering 3 9 = [c, d] →
        Trace Machine.step twoBodies [c, a, d, b] m' := by
  have hmild : (Env.accepting []).Mild := fun q => rfl
  obtain ⟨m', htrace⟩ : ∃ m', Trace Machine.step twoBodies (answering 1 7 ++ answering 3 9) m' :=
    ⟨_, .more rfl (.more rfl (.more rfl (.more rfl (.done _))))⟩
  refine ⟨m', htrace, fun a b c d hone hthree => ?_⟩
  cases hone
  cases hthree
  refine streams_independent (fun x hx => ?_) (fun s => ?_) htrace
  · simp only [answering, List.mem_cons, List.mem_append, List.not_mem_nil, or_false] at hx
    rcases hx with (rfl | rfl) | rfl | rfl <;> exact ⟨rfl, hmild⟩
  · by_cases hone : some 1 = s
    · subst hone
      rfl
    · by_cases hthree : some 3 = s
      · subst hthree
        rfl
      · simp [part, answering, answeredCall, Label.stream, Request.stream, hone, hthree]

end Ngh2
