import Ngh2.Contract
import Ngh2.Convert
import Ngh2.Slots
import Ngh2.Snapshots

/-!
# The types of the objects that callbacks find

While the engine is on the stack, none of the caller's code may run: it could
re-enter the connection, fail it, and free the session that is executing. A
callback runs the caller's code as soon as it touches an object whose type the
caller wrote. Hashing or comparing such an object is enough, and so is dropping
the last reference to it. So what an operation stores has to be of a built-in
type exactly, whatever the caller passed.

This module runs the machine on Python objects. An operation converts its
arguments first (`ObjectCall.request`), with each conversion's result kept as
an object with its type, and then does what the machine does with the values.
What callbacks find (`Finds`) is what the operations stored.

Integers become C integers on the way and are boxed again, trailers are frozen
with their fields copied, and a `bytes` object of a subclass is copied. One
conversion does not make its own result: `bytes(data)` of a `bytearray` gives
whatever instance of `bytes` the object's `__bytes__` returns, and since the
compiler takes the call of a built-in type for an instance of it, the
assignment to the typed local checks nothing.
-/

namespace Ngh2

open Nghttp2 Effect

/-! ## Objects with their types -/

/-- An instance of `int`, and whether its type is `int` itself. -/
structure IntObject where
  exact : Bool := true
  value : Int
  deriving DecidableEq, Repr

/-- A C integer as a Python object. -/
def boxed (value : Int) : IntObject := { value }

/-- The argument `data` of `send_data`: an instance of `bytes`, with the
address at which a copy of it would be; a `bytearray` or a `memoryview`, with
what `bytes(data)` gives; or anything else. -/
inductive Data where
  | bytes (b : BytesObject) (copy : Except PyError Address)
  | buffer (converted : Except PyError BytesObject)
  | other
  deriving DecidableEq

/-- The conversion of `data` to a chunk. -/
def chunkOf : Data → Except PyError BytesObject
  | .bytes b copy =>
    if b.exact then .ok b else copy.map fun address => { address, content := b.content }
  | .buffer converted => converted
  | .other => .error (.typeError "data must be a bytes-like object")

/-- **The trailers that `send_trailers` queues**: a list that freezing some
header argument gave. -/
structure QueuedFields where
  fields : List Pair
  taken : ∃ (σ : Type) (C : Caller σ) (turns : Nat) (argument : Headers) (s s' : Exchange σ),
    C.Safe ∧ (snapshotTrailers turns argument).run C s = (.ok (some fields), s')

/-- The trailers as values. -/
def QueuedFields.headers (q : QueuedFields) : List Header := q.fields.filterMap Pair.header

/-! ## Operations on objects -/

/-- The operations whose argument is stored as it was converted. -/
def Request.keepsArgument : Request → Bool
  | .sendData _ _ _ => true
  | .sendTrailers _ _ => true
  | .resetStream _ _ _ => true
  | _ => false

/-- **A call of a public operation with Python objects.** An operation that
stores nothing it was given is called with values. -/
inductive ObjectCall where
  | sendData (streamId : Index) (data : Data) (endStream : Bool)
  | endStream (streamId : Index)
  | sendTrailers (streamId : Index) (trailers : QueuedFields)
  | resetStream (streamId errorCode : Index) (afterEndStream : Bool)
  | other (request : Request) (plain : request.keepsArgument = false)

/-- The operation on the converted arguments, or what a conversion raised. -/
def ObjectCall.request : ObjectCall → Except PyError Request
  | .sendData streamId data ends => do
    let s ← streamIdArg streamId
    let chunk ← chunkOf data
    return .sendData s chunk.content ends
  | .endStream streamId => do return .sendData (← streamIdArg streamId) [] true
  | .sendTrailers streamId trailers => do
    return .sendTrailers (← streamIdArg streamId) trailers.headers
  | .resetStream streamId errorCode afterEndStream => do
    let s ← streamIdArg streamId
    return .resetStream s (← uint32 errorCode "error_code") afterEndStream
  | .other request _ => return request

/-- What happens to the connection, with objects for arguments. -/
inductive ObjectLabel where
  | call (operation : ObjectCall) (env : Env)
  | callback (callback : Callback) (env : Env)
  | ret (result : Int) (env : Env)

/-- What happens to the connection, with values for arguments: nothing, when a
conversion raised. -/
def ObjectLabel.values : ObjectLabel → Option Label
  | .call operation env =>
    match operation.request with
    | .ok request => some (.request request env)
    | .error _ => none
  | .callback cb env => some (.callback cb env)
  | .ret result env => some (.ret result env)

/-- **One step of the machine on objects.** A call whose conversion raises is
over, and has not touched the connection. -/
def Machine.objectStep (m : Machine) : ObjectLabel → Option (Outcome × Machine)
  | .call operation env =>
    match operation.request with
    | .ok request => m.step (.request request env)
    | .error e => if m.drive.isNone then some (⟨.raised e, []⟩, m) else none
  | .callback cb env => m.step (.callback cb env)
  | .ret result env => m.step (.ret result env)

/-- A history of the machine on objects. -/
abbrev ObjectHistory : Type := List (Entry Machine ObjectLabel Outcome)

/-- The history with values for arguments. -/
def valuesOf (h : ObjectHistory) : History :=
  h.filterMap fun e => e.label.values.map fun l => ⟨e.before, l, e.outcome, e.after⟩

/-- What is assumed of the engine: a callback that failed ends its drive. -/
def ObjectEndsOnFailure (h : ObjectHistory) (_ : Machine) (l : ObjectLabel) : Prop :=
  ∀ l' ∈ l.values, FailureEndsDrive (valuesOf h) l'

instance (h : ObjectHistory) (m : Machine) (l : ObjectLabel) :
    Decidable (ObjectEndsOnFailure h m l) :=
  inferInstanceAs (Decidable (∀ l' ∈ l.values, _))

/-- The runs of the machine on objects. -/
abbrev ObjectRuns (host : Host) : ObjectHistory → Machine → Prop :=
  Run Machine.objectStep ObjectEndsOnFailure (Machine.fresh host)

/-! ## What callbacks find -/

/-- **An object that callbacks read, compare or release.** -/
inductive Kept where
  /-- A chunk of a body queue. -/
  | chunk (streamId : StreamId) (b : BytesObject)
  /-- Queued trailers. -/
  | trailers (streamId : StreamId) (fields : List Pair)
  /-- The code of a deferred reset. -/
  | resetCode (streamId : StreamId) (errorCode : IntObject)
  /-- The key of an entry of a per-stream map. -/
  | key (streamId : IntObject)
  /-- A limit taken from the configuration. -/
  | limit (value : IntObject)

/-- A frozen pair of two objects of type `bytes`. -/
def Pair.Exact (item : Pair) : Prop :=
  ∃ (neverIndexed : Bool) (n v : BytesObject),
    item = frozenPair neverIndexed n v ∧ n.exact = true ∧ v.exact = true

/-- **The object and all that it holds are of exact built-in types**, or
`NeverIndexedHeader`. -/
def Kept.Exact : Kept → Prop
  | .chunk _ b => b.exact = true
  | .trailers _ fields => ∀ item ∈ fields, item.Exact
  | .resetCode _ errorCode => errorCode.exact = true
  | .key s => s.exact = true
  | .limit n => n.exact = true

/-- What an operation stores of its converted arguments, on the connection it
finds. -/
def ObjectLabel.Puts (c : Connection) : ObjectLabel → Kept → Prop
  | .call (.sendData streamId data _) _, x => ∃ s b, streamIdArg streamId = .ok s ∧
      chunkOf data = .ok b ∧ b.content ≠ [] ∧ c.Accepts s ∧ x = .chunk s b
  | .call (.sendTrailers streamId trailers) _, x => ∃ s, streamIdArg streamId = .ok s ∧
      c.Accepts s ∧ x = .trailers s trailers.fields
  | .call (.resetStream streamId errorCode true) _, x => ∃ s n, streamIdArg streamId = .ok s ∧
      uint32 errorCode "error_code" = .ok n ∧ c.Usable ∧ x = .resetCode s (boxed n)
  | _, _ => False

/-- The keys of the per-stream maps. -/
def Connection.streamKeys (c : Connection) : Finset StreamId :=
  c.bodies.keys ∪ c.responses ∪ c.unconsumed.keys ∪ c.localStreamErrors.keys
    ∪ c.deferredResets.keys

/-- The limits the callbacks compare with. -/
def Connection.limits (c : Connection) : List Nat :=
  [c.maxSendDataFrameSize, c.maxInboundHeaderListSize, c.maxInboundHeaderCount]

/-- **What callbacks find after a history**: what the operations have stored,
whether or not it is still there, and the C integers that serve as keys and
limits. -/
inductive Finds (h : ObjectHistory) (m : Machine) : Kept → Prop
  | put {e : Entry Machine ObjectLabel Outcome} {x : Kept} (he : e ∈ h)
      (hx : e.label.Puts e.before.conn x) : Finds h m x
  | key {s : StreamId} (hs : s ∈ m.conn.streamKeys) : Finds h m (.key (boxed s))
  | limit {n : Nat} (hn : n ∈ m.conn.limits) : Finds h m (.limit (boxed n))

/-- **The conversion that is not exact**: `send_data` queues what the
`__bytes__` of a `bytearray` returned, and its type is a subclass. -/
def QueuesSubclass (e : Entry Machine ObjectLabel Outcome) : Prop :=
  ∃ streamId s b endStream env,
    e.label = .call (.sendData streamId (.buffer (.ok b)) endStream) env ∧
      streamIdArg streamId = .ok s ∧ e.before.conn.Accepts s ∧ b.content ≠ [] ∧ b.exact = false

/-! ## The conversions -/

/-- Queued trailers are frozen pairs of exact fields. -/
theorem QueuedFields.exact (q : QueuedFields) : ∀ item ∈ q.fields, item.Exact := by
  obtain ⟨fields, σ, C, turns, argument, s, s', hsafe, htaken⟩ := q
  have hloop : (iterate [] argument >>= fun iterator =>
      normalizeLoop true turns iterator []).run C s = (.ok (some fields), s') := by
    cases argument <;> exact htaken
  obtain ⟨items, calls, hfrozen, -⟩ := normalizeHeaders_returned_loop hsafe hloop
  obtain ⟨headers, -, hstores⟩ := hfrozen.reads
  intro item hitem
  obtain ⟨header, n, v, heq, -⟩ := exists_stores_of_mem hstores hitem
  have hexact : ∀ b ∈ item.holds, b.exact = true := fun b hb =>
    hfrozen.exact rfl b (List.mem_flatMap.2 ⟨item, hitem, hb⟩)
  rw [heq, holds_frozenPair] at hexact
  exact ⟨header.neverIndexed, n, v, heq, hexact n (by simp), hexact v (by simp)⟩

/-- A chunk is of a subclass only if the conversion of a `bytearray` gave it. -/
theorem exact_of_chunkOf {data : Data} {b : BytesObject} (h : chunkOf data = .ok b)
    (hdata : data ≠ .buffer (.ok b)) : b.exact = true := by
  cases data with
  | bytes b' copy =>
    rw [chunkOf] at h
    split at h
    · next hexact => exact Except.ok.inj h ▸ hexact
    · cases copy with
      | error e => exact absurd h (by simp [Except.map])
      | ok address => rw [← Except.ok.inj h]
  | buffer converted => exact absurd (congrArg Data.buffer h) hdata
  | other => exact absurd h (by simp [chunkOf])

/-- **An operation stores exact objects** unless it queues an instance of a
subclass. -/
theorem ObjectLabel.Puts.exact {e : Entry Machine ObjectLabel Outcome} {x : Kept}
    (h : e.label.Puts e.before.conn x) (hsubclass : ¬ QueuesSubclass e) : x.Exact := by
  unfold ObjectLabel.Puts at h
  split at h
  · next streamId data ends env hlabel =>
    obtain ⟨s, b, hs, hb, hne, haccepts, rfl⟩ := h
    by_cases hdata : data = .buffer (.ok b)
    · subst hdata
      exact Bool.of_not_eq_false fun hexact =>
        hsubclass ⟨streamId, s, b, ends, env, hlabel, hs, haccepts, hne, hexact⟩
    · exact exact_of_chunkOf hb hdata
  · next streamId trailers env hlabel =>
    obtain ⟨s, -, -, rfl⟩ := h
    exact trailers.exact
  · obtain ⟨s, n, -, -, -, rfl⟩ := h
    rfl
  · exact h.elim

/-- What an instance of a subclass is found as. -/
theorem QueuesSubclass.puts {e : Entry Machine ObjectLabel Outcome} (h : QueuesSubclass e) :
    ∃ s b, e.label.Puts e.before.conn (.chunk s b) ∧ b.exact = false := by
  obtain ⟨streamId, s, b, ends, env, hlabel, hs, haccepts, hne, hexact⟩ := h
  rw [hlabel]
  exact ⟨s, b, ⟨s, b, hs, rfl, hne, haccepts, rfl⟩, hexact⟩

/-- Everything that callbacks find is exact, if and only if no operation queued
an instance of a subclass. -/
theorem finds_exact_iff (h : ObjectHistory) (m : Machine) :
    (∀ x, Finds h m x → x.Exact) ↔ ∀ e ∈ h, ¬ QueuesSubclass e := by
  constructor
  · intro hexact e he hsubclass
    obtain ⟨s, b, hputs, hb⟩ := hsubclass.puts
    have hfound : b.exact = true := hexact _ (.put he hputs)
    rw [hb] at hfound
    exact absurd hfound (by simp)
  · intro hclean x hx
    cases hx with
    | put he hputs => exact hputs.exact (hclean _ he)
    | key => rfl
    | limit => rfl

/-! ## The objects and the record -/

/-- The object is what the record holds there, as a value. -/
def Kept.Denotes : Kept → Slot → Prop
  | .chunk s b, .chunk s' data => s = s' ∧ b.content = data
  | .trailers s fields, .trailers s' headers => s = s' ∧ List.Forall₂ Pair.Stores fields headers
  | .resetCode s code, .reset s' errorCode => s = s' ∧ code.value = errorCode
  | _, _ => False

/-- The values of queued trailers are what they store. -/
theorem QueuedFields.stores (q : QueuedFields) : List.Forall₂ Pair.Stores q.fields q.headers := by
  have hexact := q.exact
  unfold QueuedFields.headers
  generalize q.fields = fields at hexact
  induction fields with
  | nil => exact .nil
  | cons item items ih =>
    obtain ⟨neverIndexed, n, v, rfl, -⟩ := hexact item List.mem_cons_self
    have hheader : (frozenPair neverIndexed n v).header
        = some ⟨n.content, v.content, neverIndexed⟩ := by
      cases neverIndexed <;> rfl
    rw [List.filterMap_cons_some hheader]
    exact .cons ⟨n, v, rfl, rfl, rfl⟩ (ih fun item h => hexact item (List.mem_cons_of_mem _ h))

/-- Two steps of a conversion that succeeded. -/
theorem except_bind_ok {α β : Type} {x : Except PyError α} {f : α → Except PyError β} {b : β}
    (h : (x >>= f) = .ok b) : ∃ a, x = .ok a ∧ f a = .ok b := by
  cases x with
  | error e => exact absurd h (by simp [bind, Except.bind])
  | ok a => exact ⟨a, rfl, h⟩

/-- **What a call of values stores, the call of objects stores as an object.** -/
theorem ObjectCall.puts_of_stores {c : Connection} {operation : ObjectCall} {r : Request}
    {env : Env} (hrequest : operation.request = .ok r) {slot : Slot}
    (h : (Label.request r env).Stores c slot) :
    ∃ x, (ObjectLabel.call operation env).Puts c x ∧ x.Denotes slot := by
  cases operation with
  | sendData streamId data ends =>
    obtain ⟨s, hs, hrequest⟩ := except_bind_ok hrequest
    obtain ⟨b, hb, hrequest⟩ := except_bind_ok hrequest
    obtain rfl : Request.sendData s b.content ends = r := Except.ok.inj hrequest
    obtain ⟨rfl, hne, haccepts⟩ := h
    exact ⟨_, ⟨s, b, hs, hb, hne, haccepts, rfl⟩, rfl, rfl⟩
  | endStream streamId =>
    obtain ⟨s, hs, hrequest⟩ := except_bind_ok hrequest
    obtain rfl : Request.sendData s [] true = r := Except.ok.inj hrequest
    exact absurd rfl h.2.1
  | sendTrailers streamId trailers =>
    obtain ⟨s, hs, hrequest⟩ := except_bind_ok hrequest
    obtain rfl : Request.sendTrailers s trailers.headers = r := Except.ok.inj hrequest
    obtain ⟨rfl, haccepts⟩ := h
    exact ⟨_, ⟨s, hs, haccepts, rfl⟩, rfl, trailers.stores⟩
  | resetStream streamId errorCode afterEndStream =>
    obtain ⟨s, hs, hrequest⟩ := except_bind_ok hrequest
    obtain ⟨n, hn, hrequest⟩ := except_bind_ok hrequest
    obtain rfl : Request.resetStream s n afterEndStream = r := Except.ok.inj hrequest
    cases afterEndStream with
    | false => exact h.elim
    | true =>
      obtain ⟨rfl, husable⟩ := h
      exact ⟨_, ⟨s, n, hs, hn, husable, rfl⟩, rfl, rfl⟩
  | other request plain =>
    obtain rfl : request = r := Except.ok.inj hrequest
    cases request with
    | sendData | sendTrailers | resetStream => exact absurd plain (by simp [Request.keepsArgument])
    | _ => exact h.elim

/-- The same for every label: callbacks store nothing. -/
theorem ObjectLabel.puts_of_stores {c : Connection} {l : ObjectLabel} {l' : Label}
    (hl : l.values = some l') {slot : Slot} (h : l'.Stores c slot) :
    ∃ x, l.Puts c x ∧ x.Denotes slot := by
  cases l with
  | callback cb env =>
    obtain rfl : Label.callback cb env = l' := Option.some.inj hl
    exact h.elim
  | ret result env =>
    obtain rfl : Label.ret result env = l' := Option.some.inj hl
    exact h.elim
  | call operation env =>
    cases hrequest : operation.request with
    | error e => exact absurd hl (by simp [ObjectLabel.values, hrequest])
    | ok r =>
      obtain rfl : Label.request r env = l' := by
        simpa [ObjectLabel.values, hrequest] using hl
      exact ObjectCall.puts_of_stores hrequest h

section Runs

variable {host : Host} {h : ObjectHistory} {m : Machine}

/-- **A step on objects is a step on values**, or a conversion raised and
nothing happened. -/
theorem Machine.objectStep_values {m m' : Machine} {l : ObjectLabel} {o : Outcome}
    (h : m.objectStep l = some (o, m')) :
    (∃ l', l.values = some l' ∧ m.step l' = some (o, m')) ∨ l.values = none ∧ m' = m := by
  cases l with
  | callback cb env => exact .inl ⟨_, rfl, h⟩
  | ret result env => exact .inl ⟨_, rfl, h⟩
  | call operation env =>
    cases hrequest : operation.request with
    | ok r =>
      refine .inl ⟨.request r env, by simp [ObjectLabel.values, hrequest], ?_⟩
      simpa [Machine.objectStep, hrequest] using h
    | error e =>
      refine .inr ⟨by simp [ObjectLabel.values, hrequest], ?_⟩
      simp only [Machine.objectStep, hrequest] at h
      split at h
      · exact (congrArg Prod.snd (Option.some.inj h)).symm
      · exact absurd h (by simp)

/-- **A run on objects is a run on values.** -/
theorem ObjectRuns.values (hrun : ObjectRuns host h m) :
    Runs host EndsOnFailure (valuesOf h) m := by
  refine Run.invariant (I := fun h m => Runs host EndsOnFailure (valuesOf h) m)
    .start ?_ hrun
  intro h m l o m' _ ih hallowed htaken
  rcases Machine.objectStep_values htaken with ⟨l', hl, hstep⟩ | ⟨hl, rfl⟩
  · have hvalues : valuesOf (⟨m, l, o, m'⟩ :: h) = ⟨m, l', o, m'⟩ :: valuesOf h := by
      simp [valuesOf, hl]
    rw [hvalues]
    exact .extend ih (hallowed l' hl) hstep
  · have hvalues : valuesOf (⟨m', l, o, m'⟩ :: h) = valuesOf h := by
      simp [valuesOf, hl]
    rw [hvalues]
    exact ih

/-- **What the record holds is found**, in every run: each chunk, each list of
trailers and each reset code is the value of an object that was stored. -/
theorem ObjectRuns.finds_of_has (hrun : ObjectRuns host h m) (hsound : m.conn.Sound) {slot : Slot}
    (hslot : m.conn.Has slot) : ∃ x, Finds h m x ∧ x.Denotes slot := by
  have hputs : ∀ slot, m.conn.Has slot →
      ∃ e ∈ h, ∃ x, e.label.Puts e.before.conn x ∧ x.Denotes slot := by
    revert hsound
    refine Run.invariant (I := fun h m => m.conn.Sound → ∀ slot, m.conn.Has slot →
      ∃ e ∈ h, ∃ x, ObjectLabel.Puts e.before.conn e.label x ∧ x.Denotes slot) ?_ ?_ hrun
    · exact fun _ slot hslot => absurd hslot (Connection.not_has_of_empty rfl rfl)
    · intro h m l o m' hprior ih hallowed htaken hsound slot hslot
      have hearlier (hbefore : m.conn.Sound) (hslot : m.conn.Has slot) :
          ∃ e ∈ ⟨m, l, o, m'⟩ :: h, ∃ x, ObjectLabel.Puts e.before.conn e.label x ∧
            x.Denotes slot := by
        obtain ⟨e, he, hx⟩ := ih hbefore slot hslot
        exact ⟨e, List.mem_cons_of_mem _ he, hx⟩
      rcases Machine.objectStep_values htaken with ⟨l', hl, hstep⟩ | ⟨hl, rfl⟩
      · have hstepped := Machine.stepped hstep
        have hbefore := Runs.sound_before (fun ha => ha) (ObjectRuns.values hprior)
          (hallowed l' hl) hstepped hsound
        rcases hstepped.slot_origin hsound hslot with hslot | hstores
        · exact hearlier hbefore hslot
        · exact ⟨_, List.mem_cons_self, ObjectLabel.puts_of_stores hl hstores⟩
      · exact hearlier hsound hslot
  obtain ⟨e, he, x, hx, hdenotes⟩ := hputs slot hslot
  exact ⟨x, .put he hx, hdenotes⟩

/-- **When no caller code can run inside a callback.** In every run, everything
that callbacks find is of an exact type if and only if no `send_data` that
found an active connection and an open body was given a `bytearray` whose
`__bytes__` returned a nonempty instance of a subclass of `bytes`. What the
record of a sound connection holds is among what callbacks find. -/
theorem callbacks_find_exact (hrun : ObjectRuns host h m) :
    ((∀ x, Finds h m x → x.Exact) ↔ ∀ e ∈ h, ¬ QueuesSubclass e) ∧
      (m.conn.Sound → ∀ slot, m.conn.Has slot → ∃ x, Finds h m x ∧ x.Denotes slot) :=
  ⟨finds_exact_iff h m, fun hsound _ hslot => hrun.finds_of_has hsound hslot⟩

end Runs

/-- A client that queues a body it was given, and is then told that the stream
was reset. -/
def resetBody (data : Data) : List ObjectLabel := [
  .call (.other (.init .client {}) rfl) (.accepting []),
  .call (.other (.initiateConnection []) rfl) (.accepting []),
  .call (.other (.sendRequest [] false) rfl) (.accepting [(.sessionCheckRequestAllowed, 1),
    (.submitRequest2 [] true, 1)]),
  .call (.sendData (.ok 1) data false) (.accepting []),
  .call (.other (.receiveData [0, 0, 4, 3, 0, 0, 0, 0, 1, 0, 0, 0, 8]) rfl) (.accepting []),
  .callback (.streamClosed 1 8) (.accepting [])]

/-- What freezing gives of a view that its producer yields twice. -/
def reusedTrailers : QueuedFields where
  fields := [.tuple [.bytes ⟨0, true, [0]⟩, .bytes ⟨1, true, [1]⟩],
    .tuple [.bytes ⟨2, true, [2]⟩, .bytes ⟨3, true, [3]⟩]]
  taken := by
    obtain ⟨s', htaken⟩ : ∃ s', (snapshotTrailers 3 (.producer 7)).run reusingCaller ⟨0, []⟩
        = (.ok (some [.tuple [.bytes ⟨0, true, [0]⟩, .bytes ⟨1, true, [1]⟩],
            .tuple [.bytes ⟨2, true, [2]⟩, .bytes ⟨3, true, [3]⟩]]), s') :=
      ⟨⟨2, [.yielded (.custom 7 false),
        .unpacked 7 (.bytes ⟨0, false, [0]⟩) (.bytes ⟨1, true, [1]⟩), .judged 7 false,
        .yielded (.custom 7 false), .unpacked 7 (.bytes ⟨2, false, [2]⟩) (.bytes ⟨3, true, [3]⟩),
        .judged 7 false]⟩, by decide +kernel⟩
    exact ⟨Nat, reusingCaller, 3, .producer 7, ⟨0, []⟩, s', reusingCaller_safe, htaken⟩

/-- A client that ends a body with trailers, and resets the stream once they are
sent. -/
def trailedBody : List ObjectLabel := [
  .call (.other (.init .client {}) rfl) (.accepting []),
  .call (.other (.initiateConnection []) rfl) (.accepting []),
  .call (.other (.sendRequest [] false) rfl) (.accepting [(.sessionCheckRequestAllowed, 1),
    (.submitRequest2 [] true, 1)]),
  .call (.sendTrailers (.ok 1) reusedTrailers) (.accepting []),
  .call (.resetStream (.ok 1) (.ok 8) true) (.accepting [])]

/-- A `bytes` object of a subclass is copied when it is passed itself, and then
everything found is exact; so it is with trailers and the code of a reset. -/
theorem callbacks_find_exact_copied :
    (∃ c, Run.execute Machine.objectStep ObjectEndsOnFailure ([], Machine.fresh {})
        (resetBody (.bytes ⟨5, false, [120]⟩ (.ok 9))) = some c ∧
      ∀ x, Finds c.1 c.2 x → x.Exact) ∧
    ∃ c, Run.execute Machine.objectStep ObjectEndsOnFailure ([], Machine.fresh {})
        trailedBody = some c ∧
      c.2.conn.Has (.trailers 1 reusedTrailers.headers) ∧ c.2.conn.Has (.reset 1 8) ∧
      ∀ x, Finds c.1 c.2 x → x.Exact := by
  constructor
  · obtain ⟨c, hc, hlabels⟩ : ∃ c,
        Run.execute Machine.objectStep ObjectEndsOnFailure ([], Machine.fresh {})
          (resetBody (.bytes ⟨5, false, [120]⟩ (.ok 9))) = some c ∧
        c.1.map Entry.label = (resetBody (.bytes ⟨5, false, [120]⟩ (.ok 9))).reverse :=
      ⟨_, rfl, rfl⟩
    refine ⟨c, hc, (callbacks_find_exact (Run.of_execute .start hc)).1.2 ?_⟩
    rintro e he ⟨streamId, s, b, ends, env, hlabel, -⟩
    have hmem : e.label ∈ c.1.map Entry.label := List.mem_map_of_mem he
    rw [hlabels, hlabel] at hmem
    simp [resetBody] at hmem
  · obtain ⟨c, hc, hlabels, htrailers, hreset⟩ : ∃ c,
        Run.execute Machine.objectStep ObjectEndsOnFailure ([], Machine.fresh {})
          trailedBody = some c ∧
        c.1.map Entry.label = trailedBody.reverse ∧
        c.2.conn.Has (.trailers 1 reusedTrailers.headers) ∧ c.2.conn.Has (.reset 1 8) :=
      ⟨_, rfl, rfl, ⟨_, rfl, rfl⟩, rfl⟩
    refine ⟨c, hc, htrailers, hreset, (callbacks_find_exact (Run.of_execute .start hc)).1.2 ?_⟩
    rintro e he ⟨streamId, s, b, ends, env, hlabel, -⟩
    have hmem : e.label ∈ c.1.map Entry.label := List.mem_map_of_mem he
    rw [hlabels, hlabel] at hmem
    simp [trailedBody] at hmem

/-- The same body wrapped in a `bytearray` whose `__bytes__` returns it is
queued itself: a callback releases it while `receive_data` is inside the
engine. -/
theorem callbacks_find_exact_wrapped :
    (¬ ∀ host h m, ObjectRuns host h m → ∀ x, Finds h m x → x.Exact) ∧
    ∃ (h : ObjectHistory) (e : Entry Machine ObjectLabel Outcome) (b : BytesObject),
      ObjectRuns {} (e :: h) e.after ∧ e.before.drive.isSome = true ∧
      e.label = .callback (.streamClosed 1 8) (.accepting []) ∧
      Finds h e.before (.chunk 1 b) ∧ b.exact = false ∧
      e.before.conn.Has (.chunk 1 b.content) ∧ ¬ e.after.conn.Has (.chunk 1 b.content) := by
  obtain ⟨e, h, hc, hinside, hlabel, hbefore, hafter, e', he', hputs⟩ : ∃ e h,
      Run.execute Machine.objectStep ObjectEndsOnFailure ([], Machine.fresh {})
        (resetBody (.buffer (.ok ⟨5, false, [120]⟩))) = some (e :: h, e.after) ∧
      e.before.drive.isSome = true ∧ e.label = .callback (.streamClosed 1 8) (.accepting []) ∧
      (∃ body, e.before.conn.bodies.lookup 1 = some body ∧ some [120] ∈ body.chunks) ∧
      e.after.conn.bodies.lookup 1 = none ∧
      ∃ e' ∈ h, e'.label.Puts e'.before.conn (.chunk 1 ⟨5, false, [120]⟩) :=
    ⟨_, _, rfl, rfl, rfl, ⟨_, rfl, by decide⟩, rfl, _, List.mem_cons_of_mem _ List.mem_cons_self,
      1, _, rfl, rfl, by decide, ⟨by decide, _, rfl, rfl⟩, rfl⟩
  have hrun : ObjectRuns {} (e :: h) e.after := Run.of_execute .start hc
  refine ⟨fun hall => ?_, h, e, ⟨5, false, [120]⟩, hrun, hinside, hlabel, .put he' hputs, rfl,
    hbefore, fun hhas => ?_⟩
  · exact absurd (hall _ _ _ hrun _ (.put (List.mem_cons_of_mem _ he') hputs))
      (by simp [Kept.Exact])
  · obtain ⟨body, hbody, -⟩ := hhas
    rw [hafter] at hbody
    exact absurd hbody (by simp)

end Ngh2
