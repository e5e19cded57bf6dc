import Ngh2.MachineSteps

/-!
# Where the contents of the record come from

Three fields of the connection hold what a caller passed to an operation, for
a callback to find later: the chunks of the body queues, the trailers behind
them, and the codes of the deferred resets. What is in one of them (`Slot`)
was there before the step, or the step is the operation that put it there
(`Label.Stores`): the callbacks and the other operations only take things out,
and none of them moves anything from one stream to another.
-/

namespace Ngh2

open Nghttp2 Effect

/-- **Something the record holds for a callback to find.** -/
inductive Slot where
  | chunk (streamId : StreamId) (data : Bytes)
  | trailers (streamId : StreamId) (headers : List Header)
  | reset (streamId : StreamId) (errorCode : Nat)
  deriving DecidableEq, Repr

/-- The record holds it. -/
def Connection.Has (c : Connection) : Slot → Prop
  | .chunk s data => ∃ body, c.bodies.lookup s = some body ∧ some data ∈ body.chunks
  | .trailers s headers => ∃ body, c.bodies.lookup s = some body ∧ body.trailers = some headers
  | .reset s errorCode => c.deferredResets.lookup s = some errorCode

/-- The connection is active, and the body of the stream is open: what
`send_data` and `send_trailers` check before they queue anything. -/
def Connection.Accepts (c : Connection) (s : StreamId) : Prop :=
  c.Usable ∧ ∃ body, c.bodies.lookup s = some body ∧ body.ended = false

/-- **What an operation puts into the record**, on the connection it finds. -/
def Label.Stores (c : Connection) : Label → Slot → Prop
  | .request (.sendData s data _) _, x => x = .chunk s data ∧ data ≠ [] ∧ c.Accepts s
  | .request (.sendTrailers s headers) _, x => x = .trailers s headers ∧ c.Accepts s
  | .request (.resetStream s errorCode true) _, x => x = .reset s errorCode ∧ c.Usable
  | _, _ => False

namespace Connection

variable {c c' : Connection}

/-- A record with the same bodies and deferred resets holds the same. -/
theorem Has.of_eq {x : Slot} (h : c'.Has x) (hb : c'.bodies = c.bodies)
    (hr : c'.deferredResets = c.deferredResets) : c.Has x := by
  cases x <;> simpa only [Has, hb, hr] using h

/-- A record without bodies and deferred resets holds nothing. -/
theorem not_has_of_empty {x : Slot} (hb : c'.bodies = ∅) (hr : c'.deferredResets = ∅) :
    ¬ c'.Has x := by
  cases x with
  | chunk s data =>
    rintro ⟨body, hbody, -⟩
    rw [hb] at hbody
    exact absurd hbody (by simp)
  | trailers s headers =>
    rintro ⟨body, hbody, -⟩
    rw [hb] at hbody
    exact absurd hbody (by simp)
  | reset s errorCode =>
    intro hreset
    rw [Has, hr] at hreset
    exact absurd hreset (by simp)

/-- The body of one stream was replaced by one that holds no more than it did,
but for something new. -/
theorem Has.of_insert {x : Slot} {s : StreamId} {body' : BodySource} {P : Slot → Prop}
    (h : c'.Has x) (hb : c'.bodies = c.bodies.insert s body')
    (hr : c'.deferredResets = c.deferredResets)
    (hchunks : ∀ data, some data ∈ body'.chunks → c.Has (.chunk s data) ∨ P (.chunk s data))
    (htrailers : ∀ headers, body'.trailers = some headers →
      c.Has (.trailers s headers) ∨ P (.trailers s headers)) : c.Has x ∨ P x := by
  cases x with
  | reset t errorCode => exact .inl (by simpa only [Has, hr] using h)
  | chunk t data =>
    obtain ⟨body, hbody, hdata⟩ := h
    rw [hb] at hbody
    by_cases ht : t = s
    · subst ht
      rw [Finmap.lookup_insert] at hbody
      exact hchunks data (Option.some.inj hbody ▸ hdata)
    · rw [Finmap.lookup_insert_of_ne _ ht] at hbody
      exact .inl ⟨body, hbody, hdata⟩
  | trailers t headers =>
    obtain ⟨body, hbody, hheaders⟩ := h
    rw [hb] at hbody
    by_cases ht : t = s
    · subst ht
      rw [Finmap.lookup_insert] at hbody
      exact htrailers headers (Option.some.inj hbody ▸ hheaders)
    · rw [Finmap.lookup_insert_of_ne _ ht] at hbody
      exact .inl ⟨body, hbody, hheaders⟩

end Connection

/-- What is left after an entry was taken out was there. -/
theorem lookup_of_erase {α : Type} {d : Dict α} {s t : StreamId} {a : α}
    (h : (d.erase t).lookup s = some a) : d.lookup s = some a := by
  by_cases hs : s = t
  · rw [hs, Finmap.lookup_erase] at h
    exact absurd h (by simp)
  · rwa [Finmap.lookup_erase_ne hs] at h

/-! ## Taking bytes off a body -/

/-- One turn of the loop of `_copy_body` releases a chunk or leaves them all. -/
theorem mem_chunks_copyTurn {width : PointerWidth} {length : Nat} {chunk data : Bytes}
    {s : CopyState} (h : some data ∈ (copyTurn width length chunk s).body.chunks) :
    some data ∈ s.body.chunks := by
  unfold copyTurn at h
  dsimp only at h
  split at h
  · exact (List.mem_or_eq_of_mem_set h).resolve_right (by simp)
  · exact h

/-- The loop of `_copy_body` adds no chunk, and leaves the trailers. -/
theorem mem_chunks_copyLoop (width : PointerWidth) (length n : Nat) (s : CopyState) :
    (∀ data, some data ∈ (copyLoop width length n s).2.body.chunks →
        some data ∈ s.body.chunks) ∧
      (copyLoop width length n s).2.body.trailers = s.body.trailers := by
  induction n generalizing s with
  | zero => exact ⟨fun _ h => h, rfl⟩
  | succ n ih =>
    rw [copyLoop]
    split
    · split
      · next chunk _ =>
        obtain ⟨hchunks, htrailers⟩ := ih (copyTurn width length chunk s)
        refine ⟨fun data h => mem_chunks_copyTurn (hchunks data h), htrailers.trans ?_⟩
        unfold copyTurn
        dsimp only
        split <;> rfl
      · exact ⟨fun _ h => h, rfl⟩
    · exact ⟨fun _ h => h, rfl⟩

/-- Reclaiming slots adds no chunk. -/
theorem BodySource.mem_chunks_compact {body : BodySource} {data : Bytes}
    (h : some data ∈ body.compact.chunks) : some data ∈ body.chunks := by
  unfold BodySource.compact at h
  split at h
  · exact absurd h List.not_mem_nil
  · split at h
    · exact List.mem_of_mem_drop h
    · exact h

theorem BodySource.trailers_compact (body : BodySource) :
    body.compact.trailers = body.trailers := by
  unfold BodySource.compact
  split
  · rfl
  · split <;> rfl

/-- The end of `_read_body` touches no chunk, and may take the trailers. -/
theorem FinishedRead.slots {env : Env} {session : Option SessionId} {s : StreamId}
    {body body' : BodySource} {reply reply' : Reply} {complete : Bool} {is : List Issued}
    (h : FinishedRead env session s body reply complete reply' is body') :
    body'.chunks = body.chunks ∧
      ∀ headers, body'.trailers = some headers → body.trailers = some headers := by
  cases h with
  | ended => exact ⟨rfl, fun _ h => h⟩
  | trailers => exact ⟨rfl, fun _ h => absurd h (by simp)⟩
  | continued => exact ⟨rfl, fun _ h => h⟩
  | deferred => exact ⟨rfl, fun _ h => h⟩

/-- The chunks of a body after more was queued. -/
theorem BodySource.mem_chunks_append {width : PointerWidth} {body : BodySource}
    {chunk data : Bytes} {endStream : Bool}
    (h : some data ∈ (body.append width chunk endStream).chunks) :
    some data ∈ body.chunks ∨ data = chunk ∧ chunk ≠ [] := by
  unfold BodySource.append at h
  split at h
  · exact .inl h
  · next hchunk =>
    rcases List.mem_append.1 h with h | h
    · exact .inl h
    · exact .inr ⟨Option.some.inj (List.mem_singleton.1 h), hchunk⟩

theorem BodySource.trailers_append (width : PointerWidth) (body : BodySource) (chunk : Bytes)
    (endStream : Bool) : (body.append width chunk endStream).trailers = body.trailers := by
  unfold BodySource.append
  split <;> rfl

/-! ## The step -/

section Step

variable {m : Machine} {l : Label} {p : Outcome × Machine}

/-- **What an operation leaves in the record** was there, or is what it was
given. -/
theorem Requested.slot_origin {host : Host} {env : Env} {c : Connection} {r : Request}
    {p : Except PyError Started × World} (h : Requested host env c r p) {x : Slot}
    (hx : p.2.conn.Has x) : c.Has x ∨ (Label.request r env).Stores c x := by
  cases h with
  | failed => exact absurd hx (Connection.not_has_of_empty rfl rfl)
  | terminated => exact absurd hx (Connection.not_has_of_empty rfl rfl)
  | @requested headers endStream streamId =>
    cases endStream with
    | true => exact .inl (hx.of_eq rfl rfl)
    | false => exact hx.of_insert rfl rfl (fun _ h => absurd h (by simp)) (by simp)
  | @requestUnreported headers endStream streamId =>
    cases endStream with
    | true => exact .inl (hx.of_eq rfl rfl)
    | false => exact hx.of_insert rfl rfl (fun _ h => absurd h (by simp)) (by simp)
  | @responded streamId headers endStream =>
    cases endStream with
    | true => exact .inl (hx.of_eq rfl rfl)
    | false => exact hx.of_insert rfl rfl (fun _ h => absurd h (by simp)) (by simp)
  | @trailersQueued streamId headers body usable opened unended =>
    refine hx.of_insert rfl rfl (fun data h => .inl ⟨body, opened, h⟩) fun headers' h => .inr ?_
    exact ⟨congrArg _ (Option.some.inj h).symm, usable, body, opened, unended⟩
  | @trailersStuck streamId headers body _ usable opened unended =>
    refine hx.of_insert rfl rfl (fun data h => .inl ⟨body, opened, h⟩) fun headers' h => .inr ?_
    exact ⟨congrArg _ (Option.some.inj h).symm, usable, body, opened, unended⟩
  | @dataQueued streamId chunk endStream body usable opened unended =>
    have hbody : ∀ data, some data ∈ (body.append host.pointerWidth chunk endStream).chunks →
        c.Has (.chunk streamId data) ∨
          (Label.request (.sendData streamId chunk endStream) env).Stores c
            (.chunk streamId data) := by
      intro data h
      rcases BodySource.mem_chunks_append h with h | ⟨rfl, hne⟩
      · exact .inl ⟨body, opened, h⟩
      · exact .inr ⟨rfl, hne, usable, body, opened, unended⟩
    have htrailers := body.trailers_append host.pointerWidth chunk endStream
    refine hx.of_insert rfl rfl (fun data h => hbody data ?_) fun headers h =>
      .inl ⟨body, opened, ?_⟩
    · split at h <;> exact h
    · rw [← htrailers]
      split at h <;> exact h
  | @dataStuck streamId chunk endStream body _ usable opened unended =>
    refine hx.of_insert rfl rfl (fun data h => ?_) fun headers h =>
      .inl ⟨body, opened, (body.trailers_append _ chunk endStream).symm.trans h⟩
    rcases BodySource.mem_chunks_append h with h | ⟨rfl, hne⟩
    · exact .inl ⟨body, opened, h⟩
    · exact .inr ⟨rfl, hne, usable, body, opened, unended⟩
  | @resetDeferred streamId errorCode usable =>
    cases x with
    | chunk s data => exact .inl hx
    | trailers s headers => exact .inl hx
    | reset s code =>
      by_cases hs : s = streamId
      · subst hs
        have hcode : (c.deferredResets.insert s errorCode).lookup s = some code := hx
        rw [Finmap.lookup_insert] at hcode
        exact .inr ⟨congrArg _ (Option.some.inj hcode).symm, usable⟩
      · have hcode : (c.deferredResets.insert streamId errorCode).lookup s = some code := hx
        rw [Finmap.lookup_insert_of_ne _ hs] at hcode
        exact .inl hcode
  | _ => exact .inl (hx.of_eq rfl rfl)

/-- **What a callback leaves in the record** was there. -/
theorem Called.slot_origin {host : Host} {env : Env} {session : Option SessionId}
    {c : Connection} {cb : Callback} {p : Reply × World} (h : Called host env session c cb p)
    (hsound : p.2.conn.Sound) {x : Slot} (hx : p.2.conn.Has x) : c.Has x := by
  have hreplaced {c' : Connection} {s : StreamId} {body body' : BodySource}
      (opened : c.bodies.lookup s = some body) (hx : c'.Has x)
      (hb : c'.bodies = c.bodies.insert s body') (hr : c'.deferredResets = c.deferredResets)
      (hchunks : ∀ data, some data ∈ body'.chunks → some data ∈ body.chunks)
      (htrailers : ∀ headers, body'.trailers = some headers → body.trailers = some headers) :
      c.Has x :=
    (hx.of_insert (P := fun _ => False) hb hr (fun data h => .inl ⟨body, opened, hchunks data h⟩)
      fun headers h => .inl ⟨body, opened, htrailers headers h⟩).resolve_right id
  cases h with
  | failed spoiled deferred => exact absurd (deferred.symm.trans hsound.2) (by simp)
  | @bodySent streamId frameHeader length body s output limit opened written fits copied =>
    have hloop := mem_chunks_copyLoop host.pointerWidth length (body.chunks.length - body.head)
      { body, queued := c.queuedBodySize }
    rw [copied] at hloop
    refine hreplaced opened hx rfl rfl
      (fun data h => hloop.1 data (BodySource.mem_chunks_compact h)) fun headers h => ?_
    rw [BodySource.trailers_compact] at h
    exact hloop.2.symm.trans h
  | @readWhole streamId length body body' reply is unspent opened whole finished =>
    refine hreplaced opened hx rfl rfl (fun data h => ?_) finished.slots.2
    rw [finished.slots.1] at h
    exact h
  | @readCopied streamId length body body' s reply is unspent opened limited copied finished =>
    have hloop := mem_chunks_copyLoop host.pointerWidth length (body.chunks.length - body.head)
      { body, queued := c.queuedBodySize }
    rw [copied] at hloop
    refine hreplaced opened hx rfl rfl (fun data h => ?_) fun headers h => ?_
    · rw [finished.slots.1] at h
      exact hloop.1 data (BodySource.mem_chunks_compact h)
    · have hbefore := finished.slots.2 headers h
      rw [BodySource.trailers_compact] at hbefore
      exact hloop.2.symm.trans hbefore
  | @streamClosed streamId errorCode =>
    cases x with
    | chunk s data =>
      obtain ⟨body, hbody, hdata⟩ := hx
      exact ⟨body, lookup_of_erase hbody, hdata⟩
    | trailers s headers =>
      obtain ⟨body, hbody, hheaders⟩ := hx
      exact ⟨body, lookup_of_erase hbody, hheaders⟩
    | reset s code => exact lookup_of_erase hx
  | @streamEnded frame is =>
    cases x with
    | chunk s data => exact hx
    | trailers s headers => exact hx
    | reset s code => exact lookup_of_erase hx
  | _ => exact hx.of_eq rfl rfl

/-- **What the return of the engine leaves in the record** was there. -/
theorem Returned.slot_origin {host : Host} {env : Env} {c : Connection} {d : Drive} {result : Int}
    {p : Except PyError Value × World} (h : Returned host env c d result p) {x : Slot}
    (hx : p.2.conn.Has x) : c.Has x := by
  cases h with
  | failed => exact absurd hx (Connection.not_has_of_empty rfl rfl)
  | sentThenFailed => exact absurd hx (Connection.not_has_of_empty rfl rfl)
  | receivedLast => exact absurd hx (Connection.not_has_of_empty rfl rfl)
  | receivedUnannounced => exact absurd hx (Connection.not_has_of_empty rfl rfl)
  | sentLast => exact absurd hx (Connection.not_has_of_empty rfl rfl)
  | _ => exact hx.of_eq rfl rfl

/-- **What a step leaves in the record** was there, or the step put it there. -/
theorem Stepped.slot_origin (h : Stepped m l p) (hsound : p.2.conn.Sound) {x : Slot}
    (hx : p.2.conn.Has x) : m.conn.Has x ∨ l.Stores m.conn x := by
  cases h with
  | request idle hr =>
    rw [Machine.afterRequest_conn] at hx
    exact hr.slot_origin hx
  | callback driven hc =>
    rw [Machine.afterCallback_conn] at hx hsound
    exact .inl (hc.slot_origin hsound hx)
  | ret driven hr =>
    rw [Machine.afterReturn_conn] at hx
    exact .inl (hr.slot_origin hx)

end Step

end Ngh2
