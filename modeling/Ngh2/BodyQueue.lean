import Ngh2.Output
import Ngh2.Requests

/-!
# The queue of an outbound body

A `BodySource` keeps its bytes as a list of chunks with a cursor into it: the
slots before `head` are spent, `offset` bytes of the chunk at `head` are spent,
and the list is compacted now and then. What the queue is for is simpler – a
byte string that grows at its end and shrinks at its front (`queue`) – and the
three operations on it are proved to be that: `append` adds at the end,
`_copy_body` takes from the front whatever the chunks are (`copyLoop_spec`),
`compact` changes nothing.

They are so for a queue whose cursor is where it should be, `BodySource.Sound`,
which every operation keeps. The counter of the queue is a `size_t`: what it
says is the length of the queue modulo the number of values it has, and nothing
in the operations asks for more.
-/

namespace Ngh2

/-- The bytes of a slot; a spent one has none. -/
def slotBytes (slot : Option Bytes) : Bytes := slot.getD []

namespace BodySource

/-- The slots from the cursor on. -/
def pending (body : BodySource) : List (Option Bytes) := body.chunks.drop body.head

/-- **The bytes a body still has to send**, oldest first. -/
def queue (body : BodySource) : Bytes := (body.pending.flatMap slotBytes).drop body.offset

/-- **The cursor is where it should be**: the slots from it on are unspent and
not empty, it stands inside the first of them, and the counter stands for the
length of the queue. -/
structure Sound (w : PointerWidth) (body : BodySource) : Prop where
  head_le : body.head ≤ body.chunks.length
  slots : ∀ slot ∈ body.pending, ∃ chunk, slot = some chunk ∧ chunk ≠ []
  inside : ∀ slot rest, body.pending = slot :: rest → body.offset < (slotBytes slot).length
  outside : body.pending = [] → body.offset = 0
  size : body.queuedSize = body.queue.length % w.modulus

variable {w : PointerWidth}

/-- A new body has nothing to send. -/
theorem sound_empty : Sound w {} where
  head_le := le_rfl
  slots := fun _ h => absurd h List.not_mem_nil
  inside := fun _ _ h => absurd h (by simp [pending])
  outside := fun _ => rfl
  size := (Nat.zero_mod _).symm

@[simp] theorem queue_empty : queue {} = [] := rfl

/-! ## What does not concern the queue -/

section Flags

variable {body : BodySource}

@[simp] theorem queue_flags (ended deferred : Bool) (trailers : Option (List Header)) :
    queue { body with ended, deferred, trailers } = body.queue := rfl

/-- The flags and the trailers of a body do not concern its queue. -/
theorem Sound.flags (h : body.Sound w) (ended deferred : Bool)
    (trailers : Option (List Header)) : Sound w { body with ended, deferred, trailers } :=
  ⟨h.head_le, h.slots, h.inside, h.outside, h.size⟩

/-- **A body is used up exactly when its queue is empty**: the test of
`_read_body` after it has copied. -/
theorem Sound.head_eq_length_iff (h : body.Sound w) :
    body.head = body.chunks.length ↔ body.queue = [] := by
  constructor
  · intro heq
    simp [queue, pending, heq]
  · intro hq
    by_contra hne
    have hlt : body.head < body.chunks.length := lt_of_le_of_ne h.head_le hne
    obtain ⟨slot, rest, hp⟩ := List.exists_cons_of_ne_nil
      (show body.pending ≠ [] by simp [pending, hlt])
    have hin := h.inside slot rest hp
    have hlen := congrArg List.length hq
    simp only [queue, hp, List.flatMap_cons, List.length_drop, List.length_append,
      List.length_nil] at hlen
    omega

/-- **The counter says how long the queue is exactly while that is below the
modulus.** -/
theorem Sound.queuedSize_eq_iff (h : body.Sound w) :
    body.queuedSize = body.queue.length ↔ body.queue.length < w.modulus := by
  rw [h.size]
  exact Wrapping.mod_eq_iff w.modulus_pos

theorem Sound.queuedSize_le (h : body.Sound w) : body.queuedSize ≤ body.queue.length :=
  h.size ▸ Nat.mod_le _ _

end Flags

/-! ## Adding at the end -/

section Append

variable {body : BodySource}

@[simp] theorem append_ended (chunk : Bytes) (endStream : Bool) :
    (body.append w chunk endStream).ended = endStream := by
  unfold append
  split <;> rfl

@[simp] theorem append_deferred (chunk : Bytes) (endStream : Bool) :
    (body.append w chunk endStream).deferred = body.deferred := by
  unfold append
  split <;> rfl

@[simp] theorem append_trailers (chunk : Bytes) (endStream : Bool) :
    (body.append w chunk endStream).trailers = body.trailers := by
  unfold append
  split <;> rfl

/-- The cursor does not stand beyond the pending bytes. -/
theorem Sound.offset_le (h : body.Sound w) :
    body.offset ≤ (body.pending.flatMap slotBytes).length := by
  cases hp : body.pending with
  | nil => simp [h.outside hp]
  | cons slot rest =>
    have hin := h.inside slot rest hp
    simp only [List.flatMap_cons, List.length_append]
    omega

theorem pending_append (h : body.head ≤ body.chunks.length) (chunk : Bytes)
    (endStream : Bool) :
    (body.append w chunk endStream).pending
      = body.pending ++ if chunk = [] then [] else [some chunk] := by
  unfold append
  split
  · simp [pending]
  · exact List.drop_append_of_le_length h

/-- **`append` adds at the end of the queue.** -/
theorem Sound.queue_append (h : body.Sound w) (chunk : Bytes) (endStream : Bool) :
    (body.append w chunk endStream).queue = body.queue ++ chunk := by
  have hoffset : (body.append w chunk endStream).offset = body.offset := by
    unfold append
    split <;> rfl
  have hslot : (if chunk = [] then [] else [some chunk] : List (Option Bytes)).flatMap slotBytes
      = chunk := by
    split
    · simp [*]
    · simp [slotBytes]
  rw [queue, pending_append h.head_le, hoffset, List.flatMap_append, hslot,
    List.drop_append_of_le_length h.offset_le, queue]

theorem Sound.append (h : body.Sound w) (chunk : Bytes) (endStream : Bool) :
    (body.append w chunk endStream).Sound w := by
  by_cases hc : chunk = []
  · have heq : body.append w chunk endStream = { body with ended := endStream } := by
      simp [BodySource.append, hc]
    rw [heq]
    exact h.flags endStream body.deferred body.trailers
  · have hp := pending_append (w := w) h.head_le chunk endStream
    rw [if_neg hc] at hp
    refine ⟨?_, ?_, ?_, ?_, ?_⟩
    · have hle := h.head_le
      simp only [BodySource.append, hc, if_false, List.length_append]
      omega
    · intro slot hslot
      rw [hp] at hslot
      rcases List.mem_append.mp hslot with hold | hnew
      · exact h.slots slot hold
      · exact ⟨chunk, List.mem_singleton.mp hnew, hc⟩
    · intro slot rest heq
      have hoffset : (body.append w chunk endStream).offset = body.offset := by
        simp [BodySource.append, hc]
      rw [hoffset]
      rw [hp] at heq
      cases hold : body.pending with
      | nil =>
        obtain ⟨rfl, -⟩ := List.cons.inj (by simpa [hold] using heq)
        rw [h.outside hold]
        exact List.length_pos_iff.mpr hc
      | cons first more =>
        rw [hold, List.cons_append] at heq
        obtain ⟨rfl, -⟩ := List.cons.inj heq
        exact h.inside first more hold
    · intro hnil
      rw [hp] at hnil
      exact absurd hnil (by simp)
    · have hcount : (body.append w chunk endStream).queuedSize
          = Wrapping.add w.modulus body.queuedSize chunk.length := by
        rw [BodySource.append, if_neg hc]
      rw [hcount, h.queue_append, List.length_append, h.size, Wrapping.add_mod]

end Append

/-! ## Compacting -/

section Compact

variable {body : BodySource}

theorem pending_compact : body.compact.pending = body.pending := by
  unfold compact pending
  split
  · simp [*]
  · split
    · rfl
    · rfl

@[simp] theorem compact_offset : body.compact.offset = body.offset := by
  unfold compact
  split
  · rfl
  · split <;> rfl

@[simp] theorem compact_ended : body.compact.ended = body.ended := by
  unfold compact
  split
  · rfl
  · split <;> rfl

@[simp] theorem compact_deferred : body.compact.deferred = body.deferred := by
  unfold compact
  split
  · rfl
  · split <;> rfl

@[simp] theorem compact_trailers : body.compact.trailers = body.trailers := by
  unfold compact
  split
  · rfl
  · split <;> rfl

@[simp] theorem compact_queuedSize : body.compact.queuedSize = body.queuedSize := by
  unfold compact
  split
  · rfl
  · split <;> rfl

/-- **Compacting keeps the queue.** -/
@[simp] theorem queue_compact : body.compact.queue = body.queue := by
  rw [queue, pending_compact, compact_offset, queue]

theorem Sound.compact (h : body.Sound w) : body.compact.Sound w where
  head_le := by
    have hle := h.head_le
    unfold BodySource.compact
    split
    · exact Nat.zero_le _
    · split
      · exact Nat.zero_le _
      · exact hle
  slots := by
    rw [pending_compact]
    exact h.slots
  inside := by
    rw [pending_compact, compact_offset]
    exact h.inside
  outside := by
    rw [pending_compact, compact_offset]
    exact h.outside
  size := by
    rw [compact_queuedSize, queue_compact]
    exact h.size

end Compact

end BodySource

/-! ## Taking from the front -/

/-- A counter after bytes were taken: where there were none, nothing is
assigned. -/
def takeQueued (w : PointerWidth) (queued k : Nat) : Nat :=
  if k = 0 then queued else Wrapping.sub w.modulus queued k

theorem takeQueued_takeQueued (w : PointerWidth) (queued i j : Nat) :
    takeQueued w (takeQueued w queued i) j = takeQueued w queued (i + j) := by
  unfold takeQueued
  by_cases hi : i = 0 <;> by_cases hj : j = 0 <;> simp [hi, hj, Wrapping.sub_sub w.modulus_pos]

/-- **`k` bytes were taken**: from the queue to what was copied and off the
counter of the connection, with the flags as they were. -/
structure Taken (w : PointerWidth) (k : Nat) (s s' : CopyState) : Prop where
  copied : s'.copied = s.copied ++ s.body.queue.take k
  queue : s'.body.queue = s.body.queue.drop k
  sound : s'.body.Sound w
  ended : s'.body.ended = s.body.ended
  deferred : s'.body.deferred = s.body.deferred
  trailers : s'.body.trailers = s.body.trailers
  counted : s'.queued = takeQueued w s.queued (min k s.body.queue.length)

variable {w : PointerWidth}

/-- A counter of the connection that stood for a number of bytes, at least those
of this queue, stands for as many less as there were. -/
theorem Taken.queued {k : Nat} {s s' : CopyState} (h : Taken w k s s') (n : Nat)
    (hn : s.queued = n % w.modulus) (hle : s.body.queue.length ≤ n) :
    s'.queued = (n - min k s.body.queue.length) % w.modulus := by
  rw [h.counted, takeQueued]
  split
  · next hnone => rw [hnone, hn, Nat.sub_zero]
  · rw [hn, Wrapping.sub_mod w.modulus_pos ((min_le_right _ _).trans hle)]

theorem Taken.zero {s : CopyState} (h : s.body.Sound w) : Taken w 0 s s where
  copied := by simp
  queue := by simp
  sound := h
  ended := rfl
  deferred := rfl
  trailers := rfl
  counted := by simp [takeQueued]

/-- Taking twice is taking once. -/
theorem Taken.trans {i j : Nat} {s t s' : CopyState} (h : Taken w i s t)
    (h' : Taken w j t s') : Taken w (i + j) s s' where
  copied := by rw [h'.copied, h.copied, h.queue, List.append_assoc, ← List.take_add]
  queue := by rw [h'.queue, h.queue, List.drop_drop]
  sound := h'.sound
  ended := h'.ended.trans h.ended
  deferred := h'.deferred.trans h.deferred
  trailers := h'.trailers.trans h.trailers
  counted := by
    have hrest : t.body.queue.length = s.body.queue.length - i := by
      rw [h.queue, List.length_drop]
    rw [h'.counted, h.counted, takeQueued_takeQueued, hrest]
    congr 1
    omega

/-- Asking for more than there is takes all there is. -/
theorem Taken.of_empty {i j : Nat} {s s' : CopyState} (h : Taken w i s s')
    (he : s'.body.queue = []) (hij : i ≤ j) : Taken w j s s' where
  copied := by
    have hlen : s.body.queue.length ≤ i := List.drop_eq_nil_iff.mp (h.queue.symm.trans he)
    rw [h.copied, List.take_of_length_le hlen, List.take_of_length_le (hlen.trans hij)]
  queue := by
    have hlen : s.body.queue.length ≤ i := List.drop_eq_nil_iff.mp (h.queue.symm.trans he)
    rw [he, List.drop_eq_nil_iff.mpr (hlen.trans hij)]
  sound := h.sound
  ended := h.ended
  deferred := h.deferred
  trailers := h.trailers
  counted := by
    have hlen : s.body.queue.length ≤ i := List.drop_eq_nil_iff.mp (h.queue.symm.trans he)
    rw [h.counted, min_eq_right hlen, min_eq_right (hlen.trans hij)]

section Loop

variable {length : Nat} {s : CopyState}

/-- The slots behind the one at the cursor. -/
theorem BodySource.pending_tail {body : BodySource} {slot : Option Bytes}
    {rest : List (Option Bytes)} (hp : body.pending = slot :: rest) :
    body.chunks[body.head]? = some slot ∧ body.chunks.drop (body.head + 1) = rest := by
  constructor
  · have := congrArg List.head? hp
    simpa [BodySource.pending] using this
  · have := congrArg List.tail hp
    simpa [BodySource.pending] using this

/-- One turn of the loop takes from the chunk at the cursor, and either fills
the request or moves to the next slot. -/
theorem taken_copyTurn {chunk : Bytes} {rest : List (Option Bytes)} (h : s.body.Sound w)
    (hp : s.body.pending = some chunk :: rest) (hlt : s.copied.length < length) :
    ∃ k, Taken w k s (copyTurn w length chunk s) ∧ k ≤ length - s.copied.length ∧
      k ≤ s.body.queue.length ∧
      (k = length - s.copied.length ∨ (copyTurn w length chunk s).body.pending = rest) := by
  have hin : s.body.offset < chunk.length := h.inside _ _ hp
  have hqueue : s.body.queue = chunk.drop s.body.offset ++ rest.flatMap slotBytes := by
    rw [BodySource.queue, hp, List.flatMap_cons]
    exact List.drop_append_of_le_length hin.le
  obtain ⟨hget, htail⟩ := BodySource.pending_tail hp
  have hhead : s.body.head < s.body.chunks.length := (List.getElem?_eq_some_iff.mp hget).1
  generalize hk : min (chunk.length - s.body.offset) (length - s.copied.length) = k
  have hkchunk : k ≤ (chunk.drop s.body.offset).length := by
    rw [List.length_drop]
    omega
  have htake : s.body.queue.take k = (chunk.drop s.body.offset).take k := by
    rw [hqueue, List.take_append_of_le_length hkchunk]
  have hdrop : s.body.queue.drop k
      = chunk.drop (s.body.offset + k) ++ rest.flatMap slotBytes := by
    rw [hqueue, List.drop_append_of_le_length hkchunk, List.drop_drop]
  have hle : k ≤ s.body.queue.length := by
    rw [hqueue, List.length_append]
    omega
  have hsize : Wrapping.sub w.modulus s.body.queuedSize k
      = (s.body.queue.drop k).length % w.modulus := by
    rw [h.size, List.length_drop, Wrapping.sub_mod w.modulus_pos hle]
  have hqueued : Wrapping.sub w.modulus s.queued k
      = takeQueued w s.queued (min k s.body.queue.length) := by
    rw [min_eq_left hle, takeQueued, if_neg (by omega)]
  by_cases hend : s.body.offset + k = chunk.length
  · -- the chunk is used up: the cursor moves to the next slot
    have hturn : copyTurn w length chunk s = {
        body := { s.body with
          chunks := s.body.chunks.set s.body.head none, head := s.body.head + 1, offset := 0
          queuedSize := Wrapping.sub w.modulus s.body.queuedSize k }
        queued := Wrapping.sub w.modulus s.queued k
        copied := s.copied ++ (chunk.drop s.body.offset).take k } := by
      simp only [copyTurn, hk, hend, if_true]
    have hpending : (copyTurn w length chunk s).body.pending = rest := by
      rw [hturn, ← htail]
      exact List.drop_set_of_lt (Nat.lt_succ_self _)
    have hrest : (copyTurn w length chunk s).body.queue = s.body.queue.drop k := by
      rw [BodySource.queue, hpending, hdrop, hend, List.drop_length, hturn]
      rfl
    refine ⟨k, ⟨by rw [htake, hturn], hrest, ⟨?_, ?_, ?_, ?_, ?_⟩, ?_, ?_, ?_, ?_⟩, by omega,
      hle, .inr hpending⟩
    · rw [hturn]
      simp only [List.length_set]
      omega
    · rw [hpending]
      exact fun slot hslot => h.slots slot (hp ▸ List.mem_cons_of_mem _ hslot)
    · intro slot more heq
      rw [hpending] at heq
      obtain ⟨next, rfl, hne⟩ := h.slots slot (by simp [hp, heq])
      rw [hturn]
      exact List.length_pos_iff.mpr hne
    · rw [hturn]
      exact fun _ => rfl
    · rw [hrest, hturn]
      exact hsize
    all_goals rw [hturn]
    exact hqueued
  · -- the request is filled inside the chunk
    have hturn : copyTurn w length chunk s = {
        body := { s.body with
          offset := s.body.offset + k, queuedSize := Wrapping.sub w.modulus s.body.queuedSize k }
        queued := Wrapping.sub w.modulus s.queued k
        copied := s.copied ++ (chunk.drop s.body.offset).take k } := by
      simp only [copyTurn, hk, hend, if_false]
    have hpending : (copyTurn w length chunk s).body.pending = some chunk :: rest := by
      rw [hturn]
      exact hp
    have hrest : (copyTurn w length chunk s).body.queue = s.body.queue.drop k := by
      rw [BodySource.queue, hpending, hdrop, List.flatMap_cons, hturn]
      exact List.drop_append_of_le_length (by simp only [slotBytes, Option.getD_some]; omega)
    refine ⟨k, ⟨by rw [htake, hturn], hrest, ⟨?_, ?_, ?_, ?_, ?_⟩, ?_, ?_, ?_, ?_⟩, by omega,
      hle, .inl (by omega)⟩
    · rw [hturn]
      exact h.head_le
    · rw [hpending, ← hp]
      exact h.slots
    · intro slot more heq
      rw [hpending] at heq
      obtain ⟨rfl, -⟩ := List.cons.inj heq
      rw [hturn]
      simp only [slotBytes, Option.getD_some]
      omega
    · rw [hpending]
      exact fun hnil => absurd hnil (by simp)
    · rw [hrest, hturn]
      exact hsize
    all_goals rw [hturn]
    exact hqueued

/-- What a turn takes is there, in the chunk and in the queue. -/
theorem BodySource.Sound.take_le {body : BodySource} {chunk : Bytes} (h : body.Sound w)
    (hget : body.chunks[body.head]? = some (some chunk)) :
    body.offset < chunk.length ∧ chunk.length - body.offset ≤ body.queue.length := by
  have hp : body.pending = some chunk :: body.chunks.drop (body.head + 1) := by
    obtain ⟨hlt, hchunk⟩ := List.getElem?_eq_some_iff.mp hget
    rw [BodySource.pending, List.drop_eq_getElem_cons hlt, hchunk]
  have hin : body.offset < chunk.length := h.inside _ _ hp
  refine ⟨hin, ?_⟩
  rw [BodySource.queue, hp, List.flatMap_cons, slotBytes, Option.getD_some,
    List.length_drop, List.length_append]
  omega

/-- **The states the loop of `_copy_body` passes through.** -/
inductive CopyTurns (w : PointerWidth) (length : Nat) (s : CopyState) : CopyState → Prop
  | start : CopyTurns w length s s
  | turn {t : CopyState} {chunk : Bytes} (prior : CopyTurns w length s t)
      (unfilled : t.copied.length < length)
      (slot : t.body.chunks[t.body.head]? = some (some chunk)) :
      CopyTurns w length s (copyTurn w length chunk t)

/-- **What a turn takes is queued**: a counter that stands for at least the
bytes of this queue stands for at least those left, and so no turn takes more
off a counter than what it stands for. -/
theorem CopyTurns.exact {t : CopyState} (h : CopyTurns w length s t) (hs : s.body.Sound w)
    {n : Nat} (hn : s.queued = n % w.modulus) (hle : s.body.queue.length ≤ n) :
    t.body.Sound w ∧ t.body.queue.length ≤ s.body.queue.length ∧
      ∃ n', t.queued = n' % w.modulus ∧ n' ≤ n ∧ t.body.queue.length ≤ n' := by
  induction h with
  | start => exact ⟨hs, le_rfl, n, hn, le_rfl, hle⟩
  | @turn t chunk prior unfilled slot ih =>
    obtain ⟨hsound, hshrunk, n', hn', hle', hqueue⟩ := ih
    have hp : t.body.pending = some chunk :: t.body.chunks.drop (t.body.head + 1) := by
      obtain ⟨hlt, hchunk⟩ := List.getElem?_eq_some_iff.mp slot
      rw [BodySource.pending, List.drop_eq_getElem_cons hlt, hchunk]
    obtain ⟨k, htaken, -, hk, -⟩ := taken_copyTurn hsound hp unfilled
    have hrest : (copyTurn w length chunk t).body.queue.length = t.body.queue.length - k := by
      rw [htaken.queue, List.length_drop]
    exact ⟨htaken.sound, by omega, _, htaken.queued n' hn' hqueue, by omega, by omega⟩

/-- Where the loop stops, there is nothing more to take or to ask for. -/
theorem Taken.done (h : s.body.Sound w)
    (hd : s.body.pending = [] ∨ length ≤ s.copied.length) :
    Taken w (length - s.copied.length) s s := by
  rcases hd with hp | hlen
  · exact (Taken.zero h).of_empty (by simp [BodySource.queue, hp]) (Nat.zero_le _)
  · rw [Nat.sub_eq_zero_of_le hlen]
    exact .zero h

/-- **The loop of `_copy_body` takes what was asked for, or all there is**,
however the bytes are cut into chunks, and never meets a spent slot. -/
theorem copyLoop_spec {n : Nat} (h : s.body.Sound w)
    (hn : s.body.pending.length ≤ n ∨ length ≤ s.copied.length) :
    ∃ s', copyLoop w length n s = (.ok (), s') ∧ Taken w (length - s.copied.length) s s' := by
  induction n generalizing s with
  | zero => exact ⟨s, rfl, .done h (hn.imp_left fun h0 => List.length_eq_zero_iff.mp (by omega))⟩
  | succ n ih =>
    by_cases hgo : s.body.head < s.body.chunks.length ∧ s.copied.length < length
    · obtain ⟨slot, rest, hp⟩ := List.exists_cons_of_ne_nil
        (show s.body.pending ≠ [] by simp [BodySource.pending, hgo.1])
      obtain ⟨chunk, rfl, -⟩ := h.slots slot (by simp [hp])
      obtain ⟨k, hturn, hk, hle, hmoved⟩ := taken_copyTurn h hp hgo.2
      have hlen : (copyTurn w length chunk s).copied.length = s.copied.length + k := by
        rw [hturn.copied, List.length_append, List.length_take, min_eq_left hle]
      obtain ⟨s', hloop, htaken⟩ := ih hturn.sound (by
        rcases hmoved with hfull | hnext
        · exact .inr (by omega)
        · rw [hp, List.length_cons] at hn
          rw [hnext]
          exact .inl (by omega))
      refine ⟨s', ?_, ?_⟩
      · rw [copyLoop, if_pos hgo, (BodySource.pending_tail hp).1]
        exact hloop
      · have hall := hturn.trans htaken
        rwa [hlen, show k + (length - (s.copied.length + k)) = length - s.copied.length by omega]
          at hall
    · refine ⟨s, by rw [copyLoop, if_neg hgo], .done h ?_⟩
      rcases not_and_or.mp hgo with hhead | hfull
      · exact .inl (List.drop_eq_nil_iff.mpr (not_lt.mp hhead))
      · exact .inr (not_lt.mp hfull)

/-- The loop as `_copy_body` starts it: nothing copied, and a turn for every
pending slot. -/
theorem BodySource.Sound.copyLoop {body : BodySource} (h : body.Sound w) (length queued : Nat) :
    ∃ s, copyLoop w length (body.chunks.length - body.head) { body, queued } = (.ok (), s) ∧
      Taken w length { body, queued } s :=
  copyLoop_spec (s := { body, queued }) h (.inl (by simp [BodySource.pending]))

end Loop

end Ngh2
