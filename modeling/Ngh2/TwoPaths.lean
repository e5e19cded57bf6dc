import Ngh2.ChunkQueue
import Ngh2.Insensitive

/-!
# The two paths of a DATA frame

`_read_body` leaves the bytes of a frame in the queue for `_send_body`, where
the whole frame fits what is left of the output limit, and copies them into the
engine's buffer otherwise. The first path decides how the body ends before it
takes the bytes, and the second afterwards. They come to the same: the same
bytes, the same flags and trailers, and the same body, chunk for chunk.
-/

namespace Ngh2

open Effect Nghttp2

/-! ## Taking bytes from a body whose flags change -/

/-- A body with the flags of another. -/
def BodySource.reflag (body other : BodySource) : BodySource :=
  { body with deferred := other.deferred, trailers := other.trailers }

/-- The state of the loop of `_copy_body`, with the flags of a body. -/
def CopyState.reflag (s : CopyState) (other : BodySource) : CopyState :=
  { s with body := s.body.reflag other }

section Copying

variable {width : PointerWidth} {length : Nat} {s : CopyState} {other : BodySource}

theorem copyTurn_reflag (chunk : Bytes) :
    copyTurn width length chunk (s.reflag other)
      = (copyTurn width length chunk s).reflag other := by
  unfold copyTurn CopyState.reflag BodySource.reflag
  dsimp only
  split <;> rfl

/-- The loop does not look at the flags. -/
theorem copyLoop_reflag (n : Nat) :
    copyLoop width length n (s.reflag other)
      = ((copyLoop width length n s).1, (copyLoop width length n s).2.reflag other) := by
  induction n generalizing s with
  | zero => rfl
  | succ n ih =>
    have hchunks : (s.reflag other).body.chunks = s.body.chunks := rfl
    have hhead : (s.reflag other).body.head = s.body.head := rfl
    have hcopied : (s.reflag other).copied = s.copied := rfl
    rw [copyLoop, copyLoop, hchunks, hhead, hcopied]
    rcases s.body.chunks[s.body.head]? with _ | (_ | chunk)
    · split <;> rfl
    · split <;> rfl
    · dsimp only
      split
      · rw [copyTurn_reflag, ih]
      · rfl

theorem compact_reflag (body : BodySource) :
    (body.reflag other).compact = body.compact.reflag other := by
  unfold BodySource.compact BodySource.reflag
  dsimp only
  split
  · rfl
  · split <;> rfl

/-- **Asking for more than there is** is asking for what there is, where the
counter says how much that is. -/
theorem copyLoop_min (h : s.body.Sound width) (hcounted : s.body.queue.length < width.modulus)
    (n : Nat) :
    copyLoop width (min length (s.copied.length + s.body.queuedSize)) n s
      = copyLoop width length n s := by
  induction n generalizing s with
  | zero => rfl
  | succ n ih =>
    rw [copyLoop, copyLoop]
    by_cases hhead : s.body.head < s.body.chunks.length
    · obtain ⟨slot, rest, hp⟩ := List.exists_cons_of_ne_nil
        (show s.body.pending ≠ [] by simp [BodySource.pending, hhead])
      obtain ⟨chunk, rfl, -⟩ := h.slots slot (by simp [hp])
      have hget := (BodySource.pending_tail hp).1
      obtain ⟨hin, havailable⟩ := h.take_le hget
      have hsize : s.body.queuedSize = s.body.queue.length := h.queuedSize_eq_iff.mpr hcounted
      have hcond : (s.body.head < s.body.chunks.length ∧
          s.copied.length < min length (s.copied.length + s.body.queuedSize))
          ↔ s.body.head < s.body.chunks.length ∧ s.copied.length < length := by
        constructor <;> rintro ⟨-, hlt⟩ <;> exact ⟨hhead, by omega⟩
      by_cases hgo : s.copied.length < length
      · rw [if_pos (hcond.mpr ⟨hhead, hgo⟩), if_pos ⟨hhead, hgo⟩, hget]
        dsimp only
        -- the turn takes no more than there is
        have hturn : copyTurn width (min length (s.copied.length + s.body.queuedSize)) chunk s
            = copyTurn width length chunk s := by
          have htake : min (chunk.length - s.body.offset)
                (min length (s.copied.length + s.body.queuedSize) - s.copied.length)
              = min (chunk.length - s.body.offset) (length - s.copied.length) := by omega
          unfold copyTurn
          simp only [htake]
        obtain ⟨k, htaken, -, hk, -⟩ := taken_copyTurn h hp hgo
        have hcounted' : (copyTurn width length chunk s).body.queue.length < width.modulus := by
          rw [htaken.queue, List.length_drop]
          exact (Nat.sub_le _ _).trans_lt hcounted
        have hsum : (copyTurn width length chunk s).copied.length
              + (copyTurn width length chunk s).body.queuedSize
            = s.copied.length + s.body.queuedSize := by
          rw [htaken.copied, htaken.sound.queuedSize_eq_iff.mpr hcounted', htaken.queue, hsize]
          simp only [List.length_append, List.length_take, List.length_drop]
          omega
        rw [hturn, ← ih htaken.sound hcounted', hsum]
      · rw [if_neg fun hc => hgo (hcond.mp hc).2, if_neg fun hc => hgo hc.2]
    · rw [if_neg fun hc => hhead hc.1, if_neg fun hc => hhead hc.1]

/-- There is nothing to reclaim of a body that is well represented. -/
theorem BodySource.Packed.compact_eq {body : BodySource} (h : body.Packed width) :
    body.compact = body := by
  unfold BodySource.compact
  by_cases hdone : body.head = body.chunks.length
  · have hqueue : body.queue = [] := by
      simp [BodySource.queue, BodySource.pending, hdone]
    obtain ⟨hhead, -⟩ := h.reset hqueue
    have hchunks : body.chunks = [] := List.length_eq_zero_iff.mp (hdone.symm.trans hhead)
    rw [if_pos hdone, ← hchunks, ← hhead]
  · have hlean : ¬ (32 ≤ body.head ∧ body.chunks.length ≤ 2 * body.head) := by
      have := h.lean
      omega
    rw [if_neg hdone, if_neg hlean]

/-- Taking nothing leaves a body as it is. -/
theorem copyLoop_nothing (h : s.body.Sound width)
    (hcounted : s.body.queue.length < width.modulus) (hcopied : s.copied = [])
    (hnothing : min length s.body.queuedSize = 0) (n : Nat) :
    copyLoop width length n s = (.ok (), s) := by
  have hmin : _ = copyLoop width length n s := copyLoop_min h hcounted n
  rw [hcopied, List.length_nil, Nat.zero_add, hnothing] at hmin
  rw [← hmin]
  cases n with
  | zero => rfl
  | succ n => rw [copyLoop, if_neg fun hgo => absurd hgo.2 (Nat.not_lt_zero _)]

end Copying

/-! ## Reading -/

/-- **What `_read_body` does where the whole frame fits**: it finds a body, and
prepares the end of it. -/
structure WholeRead (env : Env) (session : Option SessionId) (c : Connection) (s : StreamId)
    (length : Nat) (body : BodySource) (reply : Reply) (is : List Issued) (body' : BodySource) :
    Prop where
  opened : c.bodies.lookup s = some body
  finished : FinishedRead env session s body
    { code := (min length body.queuedSize : Nat), noCopy := true }
    (body.ended && decide (min length body.queuedSize = body.queuedSize)) reply is body'

section Reading

variable {host : Host} {env : Env} {session : Option SessionId} {c : Connection} {s : StreamId}
  {length : Nat} {body body' : BodySource} {reply reply' : Reply} {complete : Bool}
  {is : List Issued} {t : CopyState} {width : PointerWidth}

/-- The end of `_read_body` does what is said of it, where memory lasts. -/
theorem FinishedRead.run (h : FinishedRead env session s body reply complete reply' is body')
    (halloc : ∀ a, env.alloc a = true) {w : World} (hb : w.conn.bodies.lookup s = some body) :
    (finishRead session s reply complete).run env w
      = (.ok reply', { w with
          conn := { w.conn with bodies := w.conn.bodies.insert s body' }
          issued := w.issued ++ is }) := by
  have hsame : w.conn.bodies.insert s body = w.conn.bodies := by
    refine Finmap.ext_lookup fun s' => ?_
    by_cases hs : s' = s
    · rw [hs, Finmap.lookup_insert, hb]
    · rw [Finmap.lookup_insert_of_ne _ hs]
  unfold finishRead
  rw [run_bind, run_bodyOf env w hb]
  cases h with
  | ended hc ht => simp [hc, ht, hsame]
  | trailers hc ht accepted => simp [hc, ht, halloc, not_lt.mpr accepted]
  | continued hc hn => simp [hc, hn, hsame]
  | deferred hc hn => simp [hc, hn]

/-- The end of a frame that was copied is that of the whole frame. -/
theorem FinishedRead.copied_of_whole {taken : BodySource} {n : Nat} (buffer : Bytes)
    (h : FinishedRead env session s body { code := n, noCopy := true } complete reply is body')
    (hdeferred : taken.deferred = body.deferred) (htrailers : taken.trailers = body.trailers) :
    FinishedRead env session s taken { code := n, buffer } complete
      { reply with noCopy := false, buffer } is (taken.reflag body') := by
  have hkept : taken.reflag body = taken := by
    unfold BodySource.reflag
    rw [← hdeferred, ← htrailers]
  cases h with
  | ended hc ht => exact hkept.symm ▸ .ended hc (htrailers.trans ht)
  | trailers hc ht accepted =>
    have hflags : taken.reflag { body with trailers := none }
      = { taken with trailers := none } := by
      unfold BodySource.reflag
      rw [← hdeferred]
    exact hflags.symm ▸ .trailers hc (htrailers.trans ht) accepted
  | continued hc hn => exact hkept.symm ▸ .continued hc hn
  | deferred hc hn =>
    have hflags : taken.reflag { body with deferred := true }
      = { taken with deferred := true } := by
      unfold BodySource.reflag
      rw [← htrailers]
    exact hflags.symm ▸ .deferred hc hn

variable (host) in
/-- **The whole frame is left in the queue.** -/
theorem WholeRead.run (h : WholeRead env session c s length body reply is body')
    (halloc : ∀ a, env.alloc a = true)
    (hfits : c.outputRemaining < 0 ∨
      ((min length body.queuedSize : Nat) : Int) + 9 ≤ c.outputRemaining) :
    ((Callback.readBody s length).body session).run env ⟨host, c, []⟩
      = (.ok reply, ⟨host, { c with bodies := c.bodies.insert s body' }, is⟩) := by
  have hspent : c.outputRemaining ≠ 0 := by omega
  show (readBody session s length).run env ⟨host, c, []⟩ = _
  unfold readBody
  rw [run_bind, run_conn]
  dsimp only
  rw [if_neg hspent, run_attempt]
  unfold prepareBody
  rw [run_bind, run_conn]
  dsimp only
  rw [run_bind, run_bodyOf env ⟨host, c, []⟩ h.opened]
  dsimp only
  rw [if_pos hfits, h.finished.run halloc (w := ⟨host, c, []⟩) h.opened]
  rfl

variable (host) in
/-- **The frame is copied**, and the body is what it would have been. -/
theorem WholeRead.run_copied (h : WholeRead env session c s length body reply is body')
    (halloc : ∀ a, env.alloc a = true) (hbody : body.Sound host.pointerWidth)
    (hcounted : body.queue.length < host.pointerWidth.modulus) (hspent : c.outputRemaining ≠ 0)
    (hlimited : ¬ (c.outputRemaining < 0 ∨
      ((min length body.queuedSize : Nat) : Int) + 9 ≤ c.outputRemaining))
    (hcopy : copyLoop host.pointerWidth length (body.chunks.length - body.head)
      { body, queued := c.queuedBodySize }
      = (.ok (), t)) :
    ((Callback.readBody s length).body session).run env ⟨host, c, []⟩
      = (.ok { reply with noCopy := false, buffer := t.copied }, ⟨host, { c with
          bodies := c.bodies.insert s (t.body.compact.reflag body'), queuedBodySize := t.queued },
          is⟩) := by
  obtain ⟨t', heq, htaken⟩ := hbody.copyLoop length c.queuedBodySize
  obtain rfl : t = t' := congrArg Prod.snd (hcopy.symm.trans heq)
  have hsize : body.queuedSize = body.queue.length := hbody.queuedSize_eq_iff.mpr hcounted
  have hlength : (t.copied.length : Int) = (min length body.queuedSize : Nat) := by
    rw [htaken.copied, hsize]
    simp
  have hused : (t.body.compact.ended && decide (t.body.compact.head = t.body.compact.chunks.length))
      = (body.ended && decide (min length body.queuedSize = body.queuedSize)) := by
    have hiff : t.body.compact.head = t.body.compact.chunks.length
        ↔ min length body.queuedSize = body.queuedSize := by
      rw [htaken.sound.compact.head_eq_length_iff, BodySource.queue_compact, htaken.queue,
        List.drop_eq_nil_iff, hsize, min_eq_right_iff]
    rw [BodySource.compact_ended, htaken.ended, decide_eq_decide.mpr hiff]
  have hb : (c.bodies.insert s t.body.compact).lookup s = some t.body.compact :=
    Finmap.lookup_insert _
  have hfinished := h.finished.copied_of_whole t.copied
    (BodySource.compact_deferred.trans htaken.deferred)
    (BodySource.compact_trailers.trans htaken.trailers)
  show (readBody session s length).run env ⟨host, c, []⟩ = _
  unfold readBody
  rw [run_bind, run_conn]
  dsimp only
  rw [if_neg hspent, run_attempt]
  unfold prepareBody
  rw [run_bind, run_conn]
  dsimp only
  rw [run_bind, run_bodyOf env ⟨host, c, []⟩ h.opened]
  dsimp only
  rw [if_neg hlimited, run_bind, run_copyBody]
  simp only [hcopy]
  rw [run_bind, run_bodyOf _ _ hb]
  dsimp only
  rw [hused, hlength, hfinished.run halloc hb, Finmap.insert_insert]
  rfl

/-- The end of a frame changes the flags of the body, and nothing else. -/
theorem FinishedRead.reflag
    (h : FinishedRead env session s body reply complete reply' is body') :
    body' = body.reflag body' := by
  cases h <;> rfl

/-- A whole frame is left to `_send_body`. -/
theorem WholeRead.noCopy (h : WholeRead env session c s length body reply is body') :
    reply.noCopy = true := by
  cases h.finished <;> rfl

/-- The reply says how long the frame is, unless there is none. -/
theorem WholeRead.code (h : WholeRead env session c s length body reply is body')
    (hgiven : reply.code ≠ errDeferred) : reply.code = (min length body.queuedSize : Nat) := by
  cases hfinished : h.finished with
  | deferred => exact absurd rfl hgiven
  | _ => rfl

/-- There is no frame where there is nothing to take. -/
theorem WholeRead.nothing (h : WholeRead env session c s length body reply is body')
    (hempty : reply.code = errDeferred) : min length body.queuedSize = 0 := by
  have hcode {code : Int} (h : 0 ≤ code) (hcode : code = errDeferred) : False := by
    rw [hcode] at h
    exact absurd h (by decide)
  cases hfinished : h.finished with
  | deferred hc hn => exact Int.ofNat.inj hn
  | ended => exact (hcode (Int.natCast_nonneg _) hempty).elim
  | trailers => exact (hcode (Int.natCast_nonneg _) hempty).elim
  | continued => exact (hcode (Int.natCast_nonneg _) hempty).elim

/-- **`_send_body` takes what was left for it**: what `_read_body` would have
copied. -/
theorem WholeRead.copyLoop_eq (h : WholeRead env session c s length body reply is body')
    (hbody : body.Sound width)
    (hcounted : body.queue.length < width.modulus) (queued : Nat) :
    copyLoop width (min length body.queuedSize) (body'.chunks.length - body'.head)
      { body := body', queued }
      = ((copyLoop width length (body.chunks.length - body.head) { body, queued }).1,
        (copyLoop width length (body.chunks.length - body.head) { body, queued }).2.reflag
          body') := by
  have hflags := h.finished.reflag
  have hturns : body'.chunks.length - body'.head = body.chunks.length - body.head := by
    rw [hflags]
    rfl
  have hstart : ({ body := body', queued } : CopyState) = CopyState.reflag { body, queued } body' :=
    congrArg (fun b => ({ body := b, queued } : CopyState)) hflags
  have hmin : copyLoop width (min length (0 + body.queuedSize)) (body.chunks.length - body.head)
        { body, queued } = copyLoop width length (body.chunks.length - body.head)
          { body, queued } :=
    copyLoop_min (s := { body, queued }) hbody hcounted _
  rw [Nat.zero_add] at hmin
  rw [hturns, hstart, copyLoop_reflag, hmin]

end Reading

end Ngh2
