import Ngh2.BodyQueue
import Ngh2.Contract
import Ngh2.Lib.Fifo
import Ngh2.MachineSteps

/-!
# The chunk queue is a byte queue

`BodyQueue` says what the operations on a body do to the bytes it has to send.
Here is the rest of what the list of chunks must satisfy: that a spent slot is
released, that the cursor returns to the start when nothing is left, and that
the spent slots never outgrow the rest (`BodySource.Packed`). Both operations
keep this, so that any sequence of them, whatever the chunks and however much
is taken at a time, is a sequence of operations on one queue of bytes. They are
all that is ever done to the chunks of a connection, so its bodies are well
represented in every state a run reaches (`Runs.packs`).

The counter of a body is a `size_t` that nothing checks, so that it says how
many bytes are queued exactly while they are fewer than it has values.
-/

namespace Ngh2

open Effect Nghttp2

/-- **The representation of a body.** -/
structure BodySource.Packed (width : PointerWidth) (body : BodySource) : Prop where
  /-- The cursor is where it should be. -/
  sound : body.Sound width
  /-- The slots before the cursor are spent. -/
  released : ∀ slot ∈ body.chunks.take body.head, slot = none
  /-- The cursor of an empty queue is at the start. -/
  reset : body.queue = [] → body.head = 0 ∧ body.offset = 0
  /-- The spent slots are few, or fewer than the others. -/
  lean : body.head < 32 ∨ 2 * body.head < body.chunks.length

namespace BodySource

variable {width : PointerWidth} {body : BodySource}

/-- A new body has nothing to send. -/
theorem packed_empty : Packed width {} where
  sound := sound_empty
  released := fun _ h => absurd h List.not_mem_nil
  reset := fun _ => ⟨rfl, rfl⟩
  lean := .inl (by decide)

/-- The flags and the trailers of a body do not concern its chunks. -/
theorem Packed.flags (h : body.Packed width) (ended deferred : Bool)
    (trailers : Option (List Header)) : Packed width { body with ended, deferred, trailers } :=
  ⟨h.sound.flags ended deferred trailers, h.released, h.reset, h.lean⟩

/-- **Appending keeps the representation.** -/
theorem Packed.append (h : body.Packed width) (chunk : Bytes) (endStream : Bool) :
    (body.append width chunk endStream).Packed width := by
  by_cases hc : chunk = []
  · have heq : body.append width chunk endStream = { body with ended := endStream } := by
      simp [BodySource.append, hc]
    rw [heq]
    exact h.flags endStream body.deferred body.trailers
  · have hchunks : (body.append width chunk endStream).chunks = body.chunks ++ [some chunk] := by
      simp [BodySource.append, hc]
    have hhead : (body.append width chunk endStream).head = body.head := by
      simp [BodySource.append, hc]
    refine ⟨h.sound.append chunk endStream, ?_, ?_, ?_⟩
    · rw [hchunks, hhead, List.take_append_of_le_length h.sound.head_le]
      exact h.released
    · intro hnil
      rw [h.sound.queue_append] at hnil
      exact absurd (List.append_eq_nil_iff.mp hnil).2 hc
    · rw [hchunks, hhead, List.length_append]
      have hlean := h.lean
      omega

end BodySource

/-! ## Taking -/

/-- A turn of the loop releases the slot it leaves behind. -/
theorem released_copyTurn {width : PointerWidth} {length : Nat} {chunk : Bytes} {s : CopyState}
    (hlt : s.body.head < s.body.chunks.length)
    (h : ∀ slot ∈ s.body.chunks.take s.body.head, slot = none) :
    ∀ slot ∈ (copyTurn width length chunk s).body.chunks.take
      (copyTurn width length chunk s).body.head, slot = none := by
  unfold copyTurn
  dsimp only
  split
  · intro slot hslot
    dsimp only at hslot
    rw [List.take_add_one, List.take_set_of_le le_rfl,
      List.getElem?_set_self hlt] at hslot
    rcases List.mem_append.mp hslot with hold | hnew
    · exact h slot hold
    · exact List.mem_singleton.mp hnew
  · exact h

/-- The loop of `_copy_body` leaves spent slots behind its cursor only. -/
theorem released_copyLoop {width : PointerWidth} {length n : Nat} {s s' : CopyState}
    (hloop : copyLoop width length n s = (.ok (), s'))
    (h : ∀ slot ∈ s.body.chunks.take s.body.head, slot = none) :
    ∀ slot ∈ s'.body.chunks.take s'.body.head, slot = none := by
  induction n generalizing s with
  | zero =>
    obtain rfl := congrArg Prod.snd hloop
    exact h
  | succ n ih =>
    rw [copyLoop] at hloop
    split at hloop
    · next hgo =>
      split at hloop
      · exact ih hloop (released_copyTurn hgo.1 h)
      · exact absurd (congrArg Prod.fst hloop) (by simp)
    · obtain rfl := congrArg Prod.snd hloop
      exact h

/-- **Compacting gives the representation back**, once the loop has released
what it took. -/
theorem BodySource.Sound.packed_compact {width : PointerWidth} {body : BodySource}
    (h : body.Sound width) (hreleased : ∀ slot ∈ body.chunks.take body.head, slot = none) :
    body.compact.Packed width := by
  refine ⟨h.compact, ?_, fun hnil => ?_, ?_⟩
  · unfold BodySource.compact
    split
    · simp
    · split
      · simp
      · exact hreleased
  · rw [queue_compact] at hnil
    have hend := h.head_eq_length_iff.mpr hnil
    have hoffset : body.offset = 0 := h.outside (by simp [pending, hend])
    rw [compact_offset]
    exact ⟨by simp [BodySource.compact, hend], hoffset⟩
  · unfold BodySource.compact
    split
    · exact .inl (show 0 < 32 by decide)
    · split
      · exact .inl (show 0 < 32 by decide)
      · omega

/-! ## Sequences of calls -/

/-- A use of the queue of a body: what `send_data` does to it, and
`_copy_body`. -/
inductive QueueCall where
  | append (chunk : Bytes) (endStream : Bool)
  | take (length : Nat)
  deriving DecidableEq, Repr

/-- What a use is to a byte queue. -/
def QueueCall.toFifo : QueueCall → Fifo.Call UInt8
  | .append chunk _ => .push chunk
  | .take length => .pull length

/-- The body of a use: what it gives is what was written to the destination. -/
def QueueCall.body (streamId : StreamId) : QueueCall → M Bytes
  | .append chunk endStream => do
    let _ ← queueChunk streamId (← bodyOf streamId) chunk endStream
    return []
  | .take length => do copyBody streamId (← bodyOf streamId) length

/-- One use in a world: nothing where it raises. -/
def QueueCall.step (streamId : StreamId) (env : Env) (w : World) (call : QueueCall) :
    Option (Bytes × World) :=
  match (call.body streamId).run env w with
  | (.ok output, w') => some (output, w')
  | (.error _, _) => none

/-- **The body of a stream stands for a queue of bytes.** -/
def HoldsQueue (streamId : StreamId) (width : PointerWidth) (w : World) (q : Bytes) : Prop :=
  w.host.pointerWidth = width ∧
    ∃ body, w.conn.bodies.lookup streamId = some body ∧ body.Packed width ∧ body.queue = q

section Calls

variable {streamId : StreamId} {env : Env} {w : World} {width : PointerWidth}

/-- `_copy_body` takes from the front of the queue, and gives the
representation back. -/
theorem copyBody_takes {body : BodySource} (h : body.Packed w.host.pointerWidth) (length : Nat) :
    ∃ w', (copyBody streamId body length).run env w = (.ok (body.queue.take length), w') ∧
      HoldsQueue streamId w.host.pointerWidth w' (body.queue.drop length) := by
  obtain ⟨s, hloop, htaken⟩ := h.sound.copyLoop length w.conn.queuedBodySize
  have hcopied : s.copied = body.queue.take length := by
    rw [htaken.copied]
    rfl
  have hpacked : s.body.compact.Packed w.host.pointerWidth :=
    htaken.sound.packed_compact (released_copyLoop hloop h.released)
  have hrun : (copyBody streamId body length).run env w
      = (.ok (body.queue.take length), { w with conn := { w.conn with
          bodies := w.conn.bodies.insert streamId s.body.compact
          queuedBodySize := s.queued } }) := by
    rw [run_copyBody, hloop, ← hcopied]
  refine ⟨_, hrun, rfl, s.body.compact, ?_, hpacked, ?_⟩
  · exact Finmap.lookup_insert _
  · rw [BodySource.queue_compact]
    exact htaken.queue

/-- **Each use does to the body what it does to the queue.** -/
theorem QueueCall.step_holds {q : Bytes} (call : QueueCall)
    (h : HoldsQueue streamId width w q) :
    ∃ w', call.step streamId env w = some (call.toFifo.output q, w') ∧
      HoldsQueue streamId width w' (call.toFifo.next q) := by
  obtain ⟨rfl, body, hb, hpacked, rfl⟩ := h
  cases call with
  | append chunk endStream =>
    have hrun : ((QueueCall.append chunk endStream).body streamId).run env w
        = (.ok [], { w with conn := { w.conn with
            bodies := w.conn.bodies.insert streamId
              (body.append w.host.pointerWidth chunk endStream)
            queuedBodySize :=
              countQueued w.host.pointerWidth w.conn.queuedBodySize chunk } }) := by
      rw [QueueCall.body, run_bind, run_bodyOf env w hb]
      rfl
    have hgives {w' : World}
        (h : ((QueueCall.append chunk endStream).body streamId).run env w = (.ok [], w')) :
        (QueueCall.append chunk endStream).step streamId env w = some ([], w') := by
      rw [QueueCall.step, h]
    refine ⟨_, hgives hrun, rfl, body.append w.host.pointerWidth chunk endStream, ?_, ?_, ?_⟩
    · exact Finmap.lookup_insert _
    · exact hpacked.append chunk endStream
    · exact hpacked.sound.queue_append chunk endStream
  | take length =>
    obtain ⟨w', hcopy, hholds⟩ : ∃ w', (copyBody streamId body length).run env w
          = (.ok (body.queue.take length), w') ∧
        HoldsQueue streamId w.host.pointerWidth w' (body.queue.drop length) :=
      copyBody_takes hpacked length
    have hrun : ((QueueCall.take length).body streamId).run env w
        = (.ok (body.queue.take length), w') := by
      rw [QueueCall.body, run_bind, run_bodyOf env w hb]
      exact hcopy
    exact ⟨w', by rw [QueueCall.step, hrun]; rfl, hholds⟩

end Calls

/-! ## In every run -/

/-- Every body of the connection is well represented. -/
def Connection.Packs (width : PointerWidth) (c : Connection) : Prop :=
  ∀ s body, c.bodies.lookup s = some body → body.Packed width

section Steps

variable {c : Connection} {streamId : StreamId} {env : Env} {host : Host} {width : PointerWidth}

/-- Opening or changing one body keeps the others well represented. -/
theorem Connection.Packs.insert (h : c.Packs width) {body : BodySource}
    (hb : body.Packed width) :
    ∀ s b, (c.bodies.insert streamId body).lookup s = some b → b.Packed width := by
  intro s b hlookup
  by_cases heq : s = streamId
  · subst heq
    rw [Finmap.lookup_insert, Option.some_inj] at hlookup
    exact hlookup ▸ hb
  · rw [Finmap.lookup_insert_of_ne _ heq] at hlookup
    exact h s b hlookup

/-- There is nothing to represent where there is no body. -/
theorem packs_empty : ∀ s b, (∅ : Dict BodySource).lookup s = some b → b.Packed width := by
  intro s b hlookup
  rw [Finmap.lookup_empty] at hlookup
  exact absurd hlookup (by simp)

/-- The end of `_read_body` does not touch the chunks. -/
theorem FinishedRead.packed {session : Option SessionId} {body body' : BodySource}
    {reply reply' : Reply} {complete : Bool} {is : List Issued}
    (h : FinishedRead env session streamId body reply complete reply' is body')
    (hb : body.Packed width) : body'.Packed width := by
  cases h with
  | ended => exact hb
  | trailers => exact hb.flags body.ended body.deferred none
  | continued => exact hb
  | deferred => exact hb.flags body.ended true body.trailers

/-- The loop of `_copy_body` and the compaction after it. -/
theorem BodySource.Packed.copied {body : BodySource} (h : body.Packed width)
    {length queued : Nat} {s : CopyState}
    (hloop : copyLoop width length (body.chunks.length - body.head)
      { body, queued } = (.ok (), s)) : s.body.compact.Packed width := by
  obtain ⟨s', heq, htaken⟩ := h.sound.copyLoop length queued
  obtain rfl : s = s' := congrArg Prod.snd (hloop.symm.trans heq)
  exact htaken.sound.packed_compact (released_copyLoop hloop h.released)

/-- **A step keeps every body well represented.** -/
theorem Stepped.packs {m : Machine} {l : Label} {p : Outcome × Machine} (h : Stepped m l p)
    (hp : m.conn.Packs m.host.pointerWidth) (hsound : p.2.conn.Sound) :
    p.2.conn.Packs m.host.pointerWidth := by
  cases h with
  | request idle hr =>
    rw [Machine.afterRequest_conn]
    cases hr with
    | failed => exact packs_empty
    | terminated => exact packs_empty
    | @requested headers endStream =>
      cases endStream with
      | true => exact hp
      | false => exact hp.insert BodySource.packed_empty
    | @requestUnreported headers endStream =>
      cases endStream with
      | true => exact hp
      | false => exact hp.insert BodySource.packed_empty
    | @responded streamId headers endStream =>
      cases endStream with
      | true => exact hp
      | false => exact hp.insert BodySource.packed_empty
    | @trailersQueued _ headers body usable opened =>
      exact hp.insert ((hp _ _ opened).flags true false (some headers))
    | @trailersStuck _ headers body _ usable opened =>
      exact hp.insert ((hp _ _ opened).flags true body.deferred (some headers))
    | @dataQueued _ chunk endStream body usable opened =>
      have happended := (hp _ _ opened).append chunk endStream
      refine hp.insert ?_
      split
      · exact happended.flags _ false _
      · exact happended
    | @dataStuck _ chunk endStream body _ usable opened =>
      exact hp.insert ((hp _ _ opened).append chunk endStream)
    | _ => exact hp
  | callback driven hc =>
    rw [Machine.afterCallback_conn] at hsound ⊢
    cases hc with
    | failed spoiled deferred => exact absurd (deferred.symm.trans hsound.2) (by simp)
    | bodySent limit opened written fits copied =>
      exact hp.insert ((hp _ _ opened).copied copied)
    | readWhole unspent opened whole finished =>
      exact hp.insert (finished.packed (hp _ _ opened))
    | readCopied unspent opened limited copied finished =>
      exact hp.insert (finished.packed ((hp _ _ opened).copied copied))
    | @streamClosed streamId =>
      intro s b hlookup
      dsimp only at hlookup
      by_cases heq : s = streamId
      · rw [heq, Finmap.lookup_erase] at hlookup
        exact absurd hlookup (by simp)
      · rw [Finmap.lookup_erase_ne heq] at hlookup
        exact hp s b hlookup
    | _ => exact hp
  | ret driven hr =>
    rw [Machine.afterReturn_conn]
    cases hr with
    | failed => exact packs_empty
    | sentThenFailed => exact packs_empty
    | receivedLast => exact packs_empty
    | receivedUnannounced => exact packs_empty
    | sentLast => exact packs_empty
    | _ => exact hp

/-- **The bodies of a connection are well represented**, in every sound state of
every run. -/
theorem Runs.packs {Allowed : History → Machine → Label → Prop} {h : History} {m : Machine}
    (hends : ∀ {h m l}, Allowed h m l → FailureEndsDrive h l) (hrun : Runs host Allowed h m)
    (hsound : m.conn.Sound) : m.conn.Packs host.pointerWidth := by
  refine Runs.induct_sound (I := fun _ m => m.conn.Packs host.pointerWidth) hends packs_empty ?_
    hrun hsound
  intro h m l p hprior _ hp _ hstep hsound
  rw [← Runs.host_eq hprior] at hp ⊢
  exact hstep.packs hp hsound

end Steps

/-! ## The theorem -/

section Sequences

variable (streamId : StreamId) (env : Env) (w : World) (calls : List QueueCall)

/-- **A sequence of uses of a new body refines a byte queue**: it raises nothing,
gives what a byte queue gives, and leaves a body that is well represented,
stands for what is left and says how much that is. Nothing is lost, duplicated
or reordered on the way, and the two tests for the end of a body agree. -/
def RefinesQueue : Prop :=
  ∃ w' body,
    Fifo.execute (QueueCall.step streamId env)
        { w with conn := { w.conn with bodies := w.conn.bodies.insert streamId {} } } calls
      = some (Fifo.outputs [] (calls.map QueueCall.toFifo), w') ∧
    w'.conn.bodies.lookup streamId = some body ∧ body.Packed w.host.pointerWidth ∧
    body.queue = Fifo.queueAfter [] (calls.map QueueCall.toFifo) ∧
    (Fifo.outputs [] (calls.map QueueCall.toFifo)).flatten ++ body.queue
      = (calls.map QueueCall.toFifo).flatMap Fifo.Call.added ∧
    body.queuedSize = body.queue.length ∧
    (body.head = body.chunks.length ↔ body.queuedSize = 0)

/-- The bytes a sequence of uses leaves in the queue. -/
def QueueCall.left (calls : List QueueCall) : Nat :=
  (Fifo.queueAfter [] (calls.map QueueCall.toFifo)).length

/-- **One sequence of uses refines a byte queue exactly where its counter can
say how much is left.** -/
theorem refinesQueue_iff :
    RefinesQueue streamId env w calls ↔ QueueCall.left calls < w.host.pointerWidth.modulus := by
  have hnew : HoldsQueue streamId w.host.pointerWidth
      { w with conn := { w.conn with bodies := w.conn.bodies.insert streamId {} } } [] :=
    ⟨rfl, {}, Finmap.lookup_insert _, BodySource.packed_empty, BodySource.queue_empty⟩
  have hstep {w' : World} {q : Bytes} (call : QueueCall)
      (h : HoldsQueue streamId w.host.pointerWidth w' q) :
      ∃ w'', call.step streamId env w' = some (call.toFifo.output q, w'') ∧
        HoldsQueue streamId w.host.pointerWidth w'' (call.toFifo.next q) := call.step_holds h
  obtain ⟨w', hexec, -, body, hb, hpacked, hqueue⟩ :=
    Fifo.refines (R := HoldsQueue streamId w.host.pointerWidth) hstep calls hnew
  have hleft : QueueCall.left calls = body.queue.length := by rw [QueueCall.left, ← hqueue]
  constructor
  · rintro ⟨w'', body', hexec', hb', -, -, -, hcounted, -⟩
    obtain rfl : w' = w'' := congrArg Prod.snd (Option.some_inj.mp (hexec.symm.trans hexec'))
    obtain rfl : body = body' := Option.some_inj.mp (hb.symm.trans hb')
    rw [hleft]
    exact hpacked.sound.queuedSize_eq_iff.mp hcounted
  · intro hroom
    have hcounted : body.queuedSize = body.queue.length :=
      hpacked.sound.queuedSize_eq_iff.mpr (hleft ▸ hroom)
    refine ⟨w', body, hexec, hb, hpacked, hqueue, ?_, hcounted, ?_⟩
    · rw [hqueue, Fifo.outputs_append_queueAfter, List.nil_append]
    · rw [hpacked.sound.head_eq_length_iff, hcounted, List.length_eq_zero_iff]

/-- **The chunk queue refines a byte queue**, after every call of a sequence,
exactly where no call leaves more bytes than the counter has values. -/
theorem chunk_queue_fifo :
    (∀ prior, prior <+: calls → RefinesQueue streamId env w prior) ↔
      ∀ prior, prior <+: calls → QueueCall.left prior < w.host.pointerWidth.modulus :=
  forall₂_congr fun prior _ => refinesQueue_iff streamId env w prior

end Sequences

/-- What is left when one chunk is queued again and again. -/
theorem QueueCall.left_replicate (n : Nat) (chunk : Bytes) (endStream : Bool) :
    QueueCall.left (List.replicate n (.append chunk endStream)) = n * chunk.length := by
  have hqueue (q : Bytes) : (Fifo.queueAfter q ((List.replicate n
      (QueueCall.append chunk endStream)).map QueueCall.toFifo)).length
        = q.length + n * chunk.length := by
    induction n generalizing q with
    | zero => simp [Fifo.queueAfter]
    | succ n ih =>
      rw [List.replicate_succ, List.map_cons]
      show (Fifo.queueAfter (q ++ chunk) _).length = _
      rw [ih, List.length_append, Nat.succ_mul, Nat.add_assoc, Nat.add_comm chunk.length]
  rw [QueueCall.left, hqueue, List.length_nil, Nat.zero_add]

/-- A mebibyte. -/
def mebibyte : Bytes := List.replicate (2 ^ 20) 0

/-- **A mebibyte queued 4096 times wraps a counter of 32 bits.** -/
theorem chunk_queue_fifo_mebibytes :
    ¬ RefinesQueue 1 (.accepting []) ⟨{ pointerWidth := .w32 }, {}, []⟩
      (List.replicate 4096 (.append mebibyte false)) := by
  rw [refinesQueue_iff, QueueCall.left_replicate, mebibyte, List.length_replicate]
  decide

end Ngh2
