import Ngh2.Queueing

/-!
# How long an outbound DATA frame is

Four bounds meet: the configured frame size, the peer's, what the engine's
windows leave, and the queue. `_data_frame_length` proposes a length from the
first two and the queue, the engine clamps it to its windows, and `_read_body`
answers with as much as there is. The answer is `Body.answer`, on either path,
so what is to be said of a frame is said of it: its length, whether it ends
the body, and when there is none.

On the path that leaves the bytes queued the queue is as long as its counter
says, which is a `size_t`: a queue that is too long for it is answered for by
what is left of its length (`FramesSized.counted`).
-/

namespace Ngh2

open Nghttp2 Effect

/-! ## The answer of a body -/

section Answer

variable {w : PointerWidth} {b : Body} (length : Nat) (copy : Bool)

/-- An answer is the end of the body, a deferral, or bytes. -/
theorem Body.answer_cases (hcounted : b.queue.length < w.modulus) :
    (b.ended = true ∧ b.queue.length ≤ length ∧ b.answer w length copy =
      { code := b.queue.length, noCopy := !copy, eof := true, noEndStream := b.trailers.isSome
        buffer := if copy then b.queue else [] }) ∨
    (b.ended = false ∧ min length b.queue.length = 0 ∧
      (b.answer w length copy).code = errDeferred ∧ (b.answer w length copy).eof = false) ∨
    (¬ (b.ended = true ∧ b.queue.length ≤ length) ∧ min length b.queue.length ≠ 0 ∧
      b.answer w length copy =
        { code := (min length b.queue.length : Nat), noCopy := !copy
          buffer := if copy then b.queue.take length else [] }) ∨
    (b.ended = true ∧ length = 0 ∧ b.queue ≠ []) := by
  have htake : b.queue.take (min length b.queue.length) = b.queue.take length :=
    List.take_eq_take_min.symm
  unfold Body.answer
  rw [Body.available_eq hcounted]
  dsimp only
  by_cases hend : b.ended = true ∧ b.queue.length ≤ length
  · refine .inl ⟨hend.1, hend.2, ?_⟩
    have hn : min length b.queue.length = b.queue.length := min_eq_right hend.2
    simp only [hn, hend.1, decide_true, Bool.and_self, if_true, List.take_length]
  · have hnot : (b.ended && decide (min length b.queue.length = b.queue.length)) = false := by
      rw [Bool.eq_false_iff, ne_eq, Bool.and_eq_true, decide_eq_true_eq]
      exact fun h => hend ⟨h.1, min_eq_right_iff.mp h.2⟩
    by_cases h0 : min length b.queue.length = 0
    · cases he : b.ended with
      | false =>
        refine .inr (.inl ⟨rfl, h0, ?_⟩)
        simp [h0]
      | true =>
        refine .inr (.inr (.inr ⟨rfl, ?_⟩))
        have hlong : ¬ b.queue.length ≤ length := fun h => hend ⟨he, h⟩
        refine ⟨by omega, fun hq => hlong ?_⟩
        rw [hq]
        exact Nat.zero_le _
    · refine .inr (.inr (.inl ⟨hend, h0, ?_⟩))
      simp only [hnot, h0, htake, Bool.false_eq_true, if_false]

/-- **What an answer says**, where at least one byte is asked for: nothing to
send defers, anything else is a frame of as many bytes as the ceiling and the
queue allow, and the body ends with the frame that empties it. -/
theorem Body.answer_facts (hcounted : b.queue.length < w.modulus) (hlength : 1 ≤ length) :
    (b.answer w length copy).code ≠ errPause ∧
    ((b.answer w length copy).code = errDeferred ↔ b.queue = [] ∧ b.ended = false) ∧
    ((b.answer w length copy).code ≠ errDeferred →
      (b.answer w length copy).code = (min length b.queue.length : Nat) ∧
      ((b.answer w length copy).noCopy = false →
        (b.answer w length copy).buffer = b.queue.take length) ∧
      ((b.answer w length copy).code = 0 → b.ended = true ∧ (b.answer w length copy).eof = true) ∧
      ((b.answer w length copy).eof = true ↔ b.ended = true ∧ b.queue.length ≤ length)) := by
  have hpause (n : Nat) : (n : Int) ≠ errPause := fun h => by
    rw [show errPause = -526 from rfl] at h
    omega
  have hdefer (n : Nat) : (n : Int) ≠ errDeferred := fun h => by
    rw [show errDeferred = -508 from rfl] at h
    omega
  rcases Body.answer_cases length copy hcounted with
    ⟨hended, hfits, ha⟩ | ⟨hopen, hnone, hcode, heof⟩ |
    ⟨hmore, hsome, ha⟩ | ⟨-, hzero, -⟩
  · -- the last frame of the body
    rw [ha]
    refine ⟨hpause _, ⟨fun h => absurd h (hdefer _), fun h => ?_⟩, fun _ => ⟨?_, ?_, ?_, ?_⟩⟩
    · exact absurd hended (by simp [h.2])
    · rw [min_eq_right hfits]
    · cases copy with
      | true => exact fun _ => (List.take_of_length_le hfits).symm
      | false => exact fun h => absurd h (by simp)
    · exact fun _ => ⟨hended, rfl⟩
    · exact ⟨fun _ => ⟨hended, hfits⟩, fun _ => rfl⟩
  · -- nothing to send yet
    have hempty : b.queue = [] := List.length_eq_zero_iff.mp (by omega)
    refine ⟨?_, ⟨fun _ => ⟨hempty, hopen⟩, fun _ => hcode⟩, fun h => absurd hcode h⟩
    rw [hcode]
    decide
  · -- more bytes may follow
    rw [ha]
    have hnonzero : ((min length b.queue.length : Nat) : Int) ≠ 0 := by exact_mod_cast hsome
    refine ⟨hpause _, ⟨fun h => absurd h (hdefer _), fun h => ?_⟩, fun _ => ⟨rfl, ?_, ?_, ?_⟩⟩
    · exact absurd (by simp [h.1]) hsome
    · cases copy with
      | true => exact fun _ => rfl
      | false => exact fun h => absurd h (by simp)
    · exact fun h => absurd h hnonzero
    · exact ⟨fun h => absurd h (by simp), fun h => absurd h hmore⟩
  · exact absurd hzero (by omega)

end Answer

/-! ## The theorem -/

/-- **The configured frame size is in its range** once a connection is
initialized. -/
theorem Runs.frameSize {host : Host} {Allowed : History → Machine → Label → Prop}
    {h : History} {m : Machine} (hrun : Runs host Allowed h m) :
    m.conn.initialized = true →
      1 ≤ m.conn.maxSendDataFrameSize ∧ m.conn.maxSendDataFrameSize ≤ 0xFFFFFF := by
  refine Run.invariant (I := fun _ m => m.conn.initialized = true →
    1 ≤ m.conn.maxSendDataFrameSize ∧ m.conn.maxSendDataFrameSize ≤ 0xFFFFFF)
    (fun hi => absurd hi (by simp [Machine.fresh])) ?_ hrun
  intro h m l o m' _ ih _ htaken hi
  have hstep := Machine.stepped htaken
  generalize hp : (o, m') = p at hstep
  obtain rfl : m' = p.2 := congrArg Prod.snd hp
  clear hp
  cases hstep with
  | request idle hr =>
    rw [Machine.afterRequest_conn] at hi ⊢
    cases hr with
    | configured uninitialized => exact absurd hi (by simp [uninitialized, Connection.withLimits])
    | installed uninitialized created auto_eq frameSize_le => exact frameSize_le
    | _ => exact ih hi
  | callback driven hc =>
    rw [Machine.afterCallback_conn] at hi ⊢
    cases hc with
    | failed spoiled =>
      rw [spoiled.maxSendDataFrameSize]
      exact ih (spoiled.initialized.symm.trans hi)
    | _ => exact ih hi
  | ret driven hr =>
    rw [Machine.afterReturn_conn] at hi ⊢
    cases hr with
    | sentThenFailed => simpa using ih (by simpa using hi)
    | _ => exact ih hi

/-- **`_data_frame_length` proposes** the smaller of the two frame sizes, or the
queue if that is less, and at least one. -/
theorem run_dataFrameLength {w : World} {s : StreamId} {body : BodySource}
    (hb : w.conn.bodies.lookup s = some body) (env : Env) (frameSize : Nat) :
    (dataFrameLength s frameSize).run env w
      = (.ok (max 1 (min (min w.conn.maxSendDataFrameSize frameSize) body.queuedSize) : Nat),
          w) := by
  unfold dataFrameLength
  rw [run_bind, run_conn]
  dsimp only
  rw [hb]
  rfl

/-- A step that asks for a length is answered with what is proposed. -/
theorem Machine.proposed {m m' : Machine} {o : Outcome} {s : StreamId} {body : BodySource}
    {env : Env} {sessionWindow streamWindow : Int} {frameSize : Nat}
    (htaken : m.step (.callback (.dataFrameLength s sessionWindow streamWindow frameSize) env)
      = some (o, m'))
    (hb : m.conn.bodies.lookup s = some body) :
    o.response = .replied { code :=
      (max 1 (min (min m.conn.maxSendDataFrameSize frameSize) body.queuedSize) : Nat) } := by
  obtain ⟨d, session, -, hafter⟩ := Machine.callback_taken htaken
  rw [Callback.body, run_bind, run_dataFrameLength (w := m.world) hb] at hafter
  exact (congrArg (fun p : Outcome × Machine => p.1.response) hafter).symm

section Frames

variable {m : Machine} {s : StreamId} {body : BodySource} {env : Env} {p : Outcome × Machine}

/-- **What `_read_body` replies**: the pause of a spent limit, or the answer of
the body, on one of the two paths. -/
theorem Stepped.answered {length : Nat}
    (h : Stepped m (.callback (.readBody s length) env) p) (hsound : p.2.conn.Sound)
    (hbody : body.Sound m.host.pointerWidth) (hb : m.conn.bodies.lookup s = some body) :
    (m.conn.outputRemaining = 0 ∧ p.1.response = .replied { code := errPause }) ∨
    (m.conn.outputRemaining ≠ 0 ∧ ∃ copy, (copy = true → ¬ m.conn.outputRemaining < 0) ∧
      p.1.response = .replied (body.view.answer m.host.pointerWidth length copy)) := by
  cases h with
  | callback driven hc =>
    rw [Machine.afterCallback_conn] at hsound
    cases hc with
    | failed spoiled deferred => exact absurd (deferred.symm.trans hsound.2) (by simp)
    | headerBlock kind => simp at kind
    | paused spent => exact .inl ⟨spent, rfl⟩
    | readWhole unspent opened whole finished =>
      obtain rfl := Option.some_inj.mp (hb.symm.trans opened)
      refine .inr ⟨unspent, false, by simp, ?_⟩
      rw [← (finished.whole hbody).1]
      rfl
    | readCopied unspent opened limited copied finished =>
      obtain rfl := Option.some_inj.mp (hb.symm.trans opened)
      refine .inr ⟨unspent, true, fun _ hunlimited => limited (.inl hunlimited), ?_⟩
      rw [← (finished.copied hbody copied).1]
      rfl

/-- **`_send_body` writes** the frame header and exactly the bytes asked for,
the first of the queue. -/
theorem Stepped.written {padlen length : Nat} {frameHeader : FrameHeader}
    (h : Stepped m (.callback (.sendBody s padlen frameHeader length) env) p)
    (hst : m.Staging) (hsound : p.2.conn.Sound) (hbody : body.Sound m.host.pointerWidth)
    (hb : m.conn.bodies.lookup s = some body) :
    length ≤ body.queue.length ∧
      staged p.2.conn.output
        = staged m.conn.output ++ frameHeader.val ++ body.queue.take length := by
  cases h with
  | callback driven hc =>
    rw [Machine.afterCallback_conn] at hsound ⊢
    cases hc with
    | failed spoiled deferred => exact absurd (deferred.symm.trans hsound.2) (by simp)
    | headerBlock kind => simp at kind
    | @bodySent _ _ _ _ taken output limit opened written fits copied full =>
      obtain rfl := Option.some_inj.mp (hb.symm.trans opened)
      obtain ⟨-, hlen⟩ := hst.sending driven (by omega)
      obtain ⟨t, heq, htaken⟩ := hbody.copyLoop length m.conn.queuedBodySize
      obtain rfl : taken = t := congrArg Prod.snd (copied.symm.trans heq)
      have hbytes := htaken.view.1
      rw [← full] at fits
      refine ⟨?_, ?_⟩
      · rw [← full, hbytes, List.length_take]
        exact min_le_right _ _
      · rw [← show taken.copied = body.queue.take length from hbytes]
        exact staged_bodySent hlen written fits

end Frames

/-- **The DATA frames of a body have the sizes they should**, whatever the engine
asks for next. -/
structure FramesSized (m : Machine) (s : StreamId) (body : BodySource) : Prop where
  /-- The proposed length lies between one and the smaller of the configured and
  the peer's frame size, and is that size when as much is queued. -/
  proposed : ∀ sessionWindow streamWindow frameSize env o m', 1 ≤ frameSize →
    m.step (.callback (.dataFrameLength s sessionWindow streamWindow frameSize) env)
      = some (o, m') →
    ∃ n : Nat, o.response = .replied { code := n } ∧ 1 ≤ n ∧
      n ≤ min m.conn.maxSendDataFrameSize frameSize ∧
      (min m.conn.maxSendDataFrameSize frameSize ≤ body.queue.length →
        n = min m.conn.maxSendDataFrameSize frameSize)
  /-- At a ceiling of at least one, the answer is a pause exactly when the output
  limit is spent, and otherwise a deferral exactly when the queue is empty and
  the body not ended, and otherwise a frame of as many bytes as the ceiling and
  the queue allow: on the copying path those bytes are the first of the queue;
  an empty frame ends an ended body, and the body is ended by the first frame
  that empties it. -/
  answered : ∀ length env o m' reply, 1 ≤ length →
    m.step (.callback (.readBody s length) env) = some (o, m') →
    o.response = .replied reply → m'.conn.Sound →
    (reply.code = errPause ↔ m.conn.outputRemaining = 0) ∧
    (reply.code = errDeferred ↔
      m.conn.outputRemaining ≠ 0 ∧ body.queue = [] ∧ body.ended = false) ∧
    (reply.code ≠ errPause → reply.code ≠ errDeferred →
      reply.code = (min length body.queue.length : Nat) ∧
      (reply.noCopy = false → reply.buffer = body.queue.take length) ∧
      (reply.code = 0 → body.ended = true ∧ reply.eof = true) ∧
      (reply.eof = true ↔ body.ended = true ∧ body.queue.length ≤ length))
  /-- A frame that was left to be written is written with exactly the bytes that
  were announced, the first of the queue. -/
  written : ∀ padlen frameHeader length env o m',
    m.step (.callback (.sendBody s padlen frameHeader length) env) = some (o, m') →
    m'.conn.Sound →
    length ≤ body.queue.length ∧
      staged m'.conn.output
        = staged m.conn.output ++ frameHeader.val ++ body.queue.take length

/-- The end of `_read_body`, with an engine that accepts everything. -/
theorem run_finishRead_accepting {w : World} {s : StreamId} {body : BodySource}
    (hb : w.conn.bodies.lookup s = some body) (session : Option SessionId) (reply : Reply)
    (complete : Bool) :
    ∃ reply' w', (finishRead session s reply complete).run (.accepting []) w = (.ok reply', w') ∧
      (w.conn.Sound → w'.conn.Sound) := by
  unfold finishRead
  rw [run_bind, run_bodyOf _ w hb]
  cases complete with
  | true =>
    cases ht : body.trailers with
    | none => exact ⟨{ reply with eof := true }, w, by simp [ht], id⟩
    | some headers =>
      exact ⟨{ reply with eof := true, noEndStream := true }, { w with
        conn := { w.conn with bodies := w.conn.bodies.insert s { body with trailers := none } }
        issued := w.issued ++ [.call session (.submitTrailer s headers)] },
        by simp [ht, Env.accepting], id⟩
  | false =>
    by_cases hn : reply.code = 0
    · exact ⟨{ reply with code := errDeferred }, { w with
        conn := { w.conn with bodies := w.conn.bodies.insert s { body with deferred := true } } },
        by simp [hn], id⟩
    · exact ⟨reply, w, by simp [hn], id⟩

/-- Without a limit, an engine that accepts everything is answered. -/
theorem Machine.read_accepting {m : Machine} {s : StreamId} {body : BodySource}
    (hb : m.conn.bodies.lookup s = some body) (hsound : m.conn.Sound) (hdriven : m.drive ≠ none)
    (hunlimited : m.conn.outputRemaining < 0) (length : Nat) :
    ∃ o m' reply, m.step (.callback (.readBody s length) (.accepting [])) = some (o, m') ∧
      o.response = .replied reply ∧ m'.conn.Sound := by
  obtain ⟨⟨d, session⟩, hd⟩ := Option.ne_none_iff_exists'.mp hdriven
  obtain ⟨reply, w, hfinish, hkept⟩ := run_finishRead_accepting (w := m.world) hb session
    { code := (min length body.queuedSize : Nat), noCopy := true }
    (body.ended && decide (min length body.queuedSize = body.queuedSize))
  have hrun : (readBody session s length).run (.accepting []) m.world = (.ok reply, w) := by
    rw [readBody, run_bind, run_conn]
    dsimp only
    rw [if_neg (show m.world.conn.outputRemaining ≠ 0 from hunlimited.ne), run_attempt,
      prepareBody, run_bind, run_conn]
    dsimp only
    rw [run_bind, run_bodyOf _ m.world hb]
    dsimp only
    rw [if_pos (.inl hunlimited), hfinish]
  have hstep : m.step (.callback (.readBody s length) (.accepting []))
      = some (m.afterCallback (.ok reply, w)) := by
    rw [Machine.step, hd]
    dsimp only
    rw [Callback.body, hrun]
  exact ⟨_, _, reply, hstep, rfl, hkept hsound⟩

/-- It is answered for what the counter says. -/
theorem Machine.read_counter {m : Machine} {s : StreamId} {body : BodySource}
    (hb : m.conn.bodies.lookup s = some body) (hbody : body.Sound m.host.pointerWidth)
    (hsound : m.conn.Sound) (hdriven : m.drive ≠ none) (hunlimited : m.conn.outputRemaining < 0)
    (length : Nat) :
    ∃ o m', m.step (.callback (.readBody s length) (.accepting [])) = some (o, m') ∧
      o.response = .replied (body.view.answer m.host.pointerWidth length false) ∧
      m'.conn.Sound := by
  obtain ⟨o, m', reply, htaken, hreply, hsound'⟩ :=
    Machine.read_accepting hb hsound hdriven hunlimited length
  refine ⟨o, m', htaken, ?_, hsound'⟩
  obtain ⟨hspent, -⟩ | ⟨-, copy, hcopy, hresponse⟩ :=
    (Machine.stepped htaken).answered hsound' hbody hb
  · exact absurd hspent hunlimited.ne
  · obtain rfl : copy = false := Bool.eq_false_iff.mpr fun hc => hcopy hc hunlimited
    exact hresponse

/-- **A counter that is back at zero** has an ended body end, and the source of
one that is not ended sleep, whatever is queued. -/
theorem Body.answer_wrapped {w : PointerWidth} {b : Body} (hzero : b.queue.length % w.modulus = 0)
    (length : Nat) :
    (b.ended = true → (b.answer w length false).code = 0 ∧ (b.answer w length false).eof = true) ∧
    (b.ended = false → (b.answer w length false).code = errDeferred) := by
  have havailable : b.available w false = 0 := hzero
  constructor
  · intro hended
    rw [Body.answer, havailable, hended, Nat.min_zero]
    exact ⟨rfl, rfl⟩
  · intro hended
    rw [Body.answer, havailable, hended, Nat.min_zero]
    rfl

/-- An answer counts what there is, or defers. -/
theorem Body.answer_code (w : PointerWidth) (b : Body) (length : Nat) (copy : Bool) :
    (b.answer w length copy).code = (min length (b.available w copy) : Nat) ∨
      (b.answer w length copy).code = errDeferred := by
  unfold Body.answer
  dsimp only
  split
  · exact .inl rfl
  · split
    · exact .inr rfl
    · exact .inl rfl

/-- **A queue too long for its counter is answered for wrongly**, where no limit
is set: asked for one byte more than the counter says, `_read_body` gives one
too few. -/
theorem FramesSized.counted {m : Machine} {s : StreamId} {body : BodySource}
    (h : FramesSized m s body) (hbody : body.Sound m.host.pointerWidth)
    (hb : m.conn.bodies.lookup s = some body) (hsound : m.conn.Sound) (hdriven : m.drive ≠ none)
    (hunlimited : m.conn.outputRemaining < 0) :
    body.queue.length < m.host.pointerWidth.modulus := by
  by_contra hlong
  have hcount := Nat.mod_lt body.queue.length m.host.pointerWidth.modulus_pos
  generalize hc : body.queue.length % m.host.pointerWidth.modulus = c at hcount
  obtain ⟨o, m', htaken, hreply, hsound'⟩ :=
    Machine.read_counter hb hbody hsound hdriven hunlimited (c + 1)
  obtain ⟨-, hdeferred, hframe⟩ := h.answered (c + 1) _ o m' _ (by omega) htaken hreply hsound'
  have havailable : body.view.available m.host.pointerWidth false = c := hc
  rcases Body.answer_code m.host.pointerWidth body.view (c + 1) false with hcode | hcode
  · rw [havailable, min_eq_right (Nat.le_succ c)] at hcode
    have hpause : (c : Int) ≠ errPause := by
      rw [show errPause = -526 from rfl]
      omega
    have hdefer : (c : Int) ≠ errDeferred := by
      rw [show errDeferred = -508 from rfl]
      omega
    have hbytes := (hframe (hcode ▸ hpause) (hcode ▸ hdefer)).1
    rw [hcode, min_eq_left (by omega)] at hbytes
    omega
  · have hempty := (hdeferred.mp hcode).2.1
    have hpos := m.host.pointerWidth.modulus_pos
    rw [hempty, List.length_nil] at hlong
    exact hlong hpos

/-- **Outbound DATA frame sizing.** In every sound state of every run, the
frames of a body have the sizes they should where its queue is shorter than its
counter has values, and, when output is driven without a limit, only there. -/
theorem data_frame_sizing {host : Host} {h : History} {m : Machine}
    (hrun : Runs host EndsOnFailure h m) (hsound : m.conn.Sound)
    {s : StreamId} {body : BodySource} (hb : m.conn.bodies.lookup s = some body) :
    (body.queue.length < host.pointerWidth.modulus → FramesSized m s body) ∧
    (m.drive ≠ none → m.conn.outputRemaining < 0 → FramesSized m s body →
      body.queue.length < host.pointerWidth.modulus) := by
  have hends : ∀ {h m l}, EndsOnFailure h m l → FailureEndsDrive h l := fun ha => ha
  have hbody : body.Sound host.pointerWidth := (Runs.records_eq hends hrun hsound).1 s body hb
  rw [← Runs.host_eq hrun] at hbody ⊢
  refine ⟨fun hcounted => ⟨?_, ?_, ?_⟩, fun hdriven hunlimited hsized =>
    hsized.counted hbody hb hsound hdriven hunlimited⟩
  · intro sessionWindow streamWindow frameSize env o m' hpeer htaken
    have hi : m.conn.initialized = true := by
      by_contra hne
      have hnone := Runs.records_uninitialized hends hrun hsound (by simpa using hne)
      rw [← (Runs.records_eq hends hrun hsound).2] at hnone
      have habsent := congrFun (congrArg Records.body hnone) s
      exact absurd ((viewBodies_of_lookup hb).symm.trans habsent) (by simp)
    have hfloor := le_min (Runs.frameSize hrun hi).1 hpeer
    refine ⟨_, Machine.proposed htaken hb, le_max_left _ _, ?_, ?_⟩
    · exact max_le hfloor (min_le_left _ _)
    · intro hqueue
      rw [hbody.queuedSize_eq_iff.mpr hcounted, min_eq_left hqueue]
      exact max_eq_right hfloor
  · intro length env o m' reply hlength htaken hreply hsound'
    obtain ⟨hspent, hresponse⟩ | ⟨hspent, copy, -, hresponse⟩ :=
      (Machine.stepped htaken).answered hsound' hbody hb
    · obtain rfl : reply = { code := errPause } :=
        Response.replied.inj (hreply.symm.trans hresponse)
      refine ⟨⟨fun _ => hspent, fun _ => rfl⟩, ⟨fun h => ?_, fun h => absurd hspent h.1⟩,
        fun h => absurd rfl h⟩
      exact absurd h (by decide)
    · obtain rfl : reply = body.view.answer m.host.pointerWidth length copy :=
        Response.replied.inj (hreply.symm.trans hresponse)
      obtain ⟨hpause, hdeferred, hframe⟩ := Body.answer_facts (b := body.view) length copy
        hcounted hlength
      refine ⟨⟨fun h => absurd h hpause, fun h => absurd h hspent⟩, ?_, fun _ => hframe⟩
      exact hdeferred.trans ⟨fun h => ⟨hspent, h⟩, fun h => h.2⟩
  · intro padlen frameHeader length env o m' htaken hsound'
    exact (Machine.stepped htaken).written (Runs.staging hends hrun hsound) hsound' hbody hb

/-- **A queue can get too long.** On a platform of 32 bits a client that queued
4096 mebibytes on a stream, and asks for output without a limit, has a body
whose frames do not have the sizes they should. -/
theorem data_frame_sizing_mebibytes :
    ∃ h m body, Runs { pointerWidth := .w32 } EndsOnFailure h m ∧ m.conn.Sound ∧
      m.conn.bodies.lookup 1 = some body ∧ ¬ FramesSized m 1 body := by
  obtain ⟨h, m, body, hrun, hquiet, hadds, hlength, -⟩ := Runs.mebibytes EndsOnFailure
    ⟨_, rfl, by decide, ⟨rfl, by decide, rfl, rfl⟩⟩ fun hquiet => hquiet.endsOnFailure _
  obtain ⟨is, m', htaken, -, hbodies, hsound, hdrive, hunlimited⟩ :=
    Machine.step_dataToSend hadds.idle hadds.usable
  have hdriven : m'.drive ≠ none := by
    rw [hdrive]
    simp
  have hrun' : Runs { pointerWidth := .w32 } EndsOnFailure _ m' :=
    .extend hrun (hquiet.endsOnFailure _) htaken
  have hopened : m'.conn.bodies.lookup 1 = some body := hbodies ▸ hadds.opened
  refine ⟨_, m', body, hrun', hsound, hopened, fun hsized => ?_⟩
  have hqueued : m'.conn.Queued m'.host.pointerWidth := Runs.queued (fun ha => ha) hrun' hsound
  have hlt := hsized.counted (hqueued 1 body hopened) hopened hsound hdriven hunlimited
  rw [hlength, Runs.host_eq hrun'] at hlt
  exact absurd hlt (by decide)

/-- A client that ended a body of three bytes and asked for output. -/
def endedBody : List Label := [
  .request (.init .client {}) (.accepting []),
  .request (.initiateConnection []) (.accepting []),
  .request (.sendRequest [] false) (.accepting [(.sessionCheckRequestAllowed, 1),
    (.submitRequest2 [] true, 1)]),
  .request (.sendData 1 [1, 2, 3] true) (.accepting []),
  .request (.dataToSend none) (.accepting [])]

set_option maxRecDepth 4000 in
theorem data_frame_sizing_endedBody :
    ∃ c o m' reply,
      Run.execute Machine.step EndsOnFailure ([], Machine.fresh {}) endedBody = some c ∧
      c.2.step (.callback (.readBody 1 16384) (.accepting [])) = some (o, m') ∧
      o.response = .replied reply ∧ reply.code = 3 ∧ reply.eof = true := by
  obtain ⟨c, hc, hsound, body, hb, hqueue, hended, o, m', reply, htaken, hreply, hsound', hpause,
      hdeferred⟩ : ∃ c,
      Run.execute Machine.step EndsOnFailure ([], Machine.fresh {}) endedBody = some c ∧
      c.2.conn.Sound ∧ ∃ body, c.2.conn.bodies.lookup 1 = some body ∧ body.queue = [1, 2, 3] ∧
      body.ended = true ∧ ∃ o m' reply,
      c.2.step (.callback (.readBody 1 16384) (.accepting [])) = some (o, m') ∧
      o.response = .replied reply ∧ m'.conn.Sound ∧ reply.code ≠ errPause ∧
      reply.code ≠ errDeferred :=
    ⟨_, rfl, by decide, _, rfl, rfl, rfl, _, _, _, rfl, rfl, by decide, by decide, by decide⟩
  have hcounted : body.queue.length < PointerWidth.w64.modulus := by
    rw [hqueue]
    decide
  obtain ⟨hcode, -, -, heof⟩ :=
    (((data_frame_sizing (Run.of_execute .start hc) hsound hb).1 hcounted).answered 16384 _ o m'
      reply (by decide) htaken hreply hsound').2.2 hpause hdeferred
  refine ⟨c, o, m', reply, hc, htaken, hreply, ?_, ?_⟩
  · rw [hcode, hqueue]
    rfl
  · rw [heof, hqueue]
    exact ⟨hended, by decide⟩

end Ngh2
