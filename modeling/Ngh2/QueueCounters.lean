import Ngh2.Lib.FinmapTotal
import Ngh2.Openings
import Ngh2.Queueing
import Ngh2.Resources

/-!
# The two counters of queued bytes

A body counts its own queued bytes and the connection counts those of all of
them. Both counters are a `size_t`, and both are written in several places: a
submission adds, a take subtracts turn by turn, a closure subtracts what is
left, and the bulk paths reset. None of this is checked.

What a step does to the queued bytes and to their counter is said once
(`QueueMove`). Whatever it does, the counter of the connection is the number of
bytes that are queued, modulo the number of values it has (`Runs.queue_tallied`). From
this it follows when the counters agree with each other and with the queues, and
no subtraction wraps (`CountersAgree`): in a given state exactly if fewer bytes
are queued than a counter has values (`Runs.agree_iff`), and along a run if every
chunk fits on top of what is queued already (`queue_counters`).
-/

namespace Ngh2

open Nghttp2 Effect

/-- The bytes queued on all bodies. -/
def Connection.queued (c : Connection) : Nat := c.bodies.total fun body => body.queue.length

/-- **The connection counts what is queued**, modulo the number of values its
counter has. -/
def Connection.Tallied (w : PointerWidth) (c : Connection) : Prop :=
  c.queuedBodySize = c.queued % w.modulus

/-- **The counters agree** with each other and with the queues, and no
subtraction wraps: a closure subtracts no more than the total, and a turn of
`_copy_body`, whatever it was asked for, no more than either counter holds. -/
structure CountersAgree (w : PointerWidth) (c : Connection) : Prop where
  total : c.queuedBodySize = c.bodies.total BodySource.queuedSize
  each : ∀ s body, c.bodies.lookup s = some body → body.queuedSize = body.queue.length
  closure : ∀ s body, c.bodies.lookup s = some body → body.queuedSize ≤ c.queuedBodySize
  turns : ∀ s body, c.bodies.lookup s = some body →
    ∀ length t chunk, CopyTurns w length { body, queued := c.queuedBodySize } t →
      t.copied.length < length → t.body.chunks[t.body.head]? = some (some chunk) →
      t.body.offset ≤ chunk.length ∧
      min (chunk.length - t.body.offset) (length - t.copied.length) ≤ t.body.queuedSize ∧
      min (chunk.length - t.body.offset) (length - t.copied.length) ≤ t.queued

section Steps

variable {host : Host} {env : Env} {c : Connection} {session : Option SessionId}
  {w : PointerWidth} {s : StreamId} {body body' : BodySource}

/-- No body holds more than all of them. -/
theorem Connection.length_le_queued (hb : c.bodies.lookup s = some body) :
    body.queue.length ≤ c.queued := by
  have hweight := Finmap.weight_le_total (f := fun body : BodySource => body.queue.length)
    (d := c.bodies) (k := s)
  rwa [Finmap.weight_of_lookup hb] at hweight

/-- **The counters agree while fewer bytes are queued than they have values**,
and only then. -/
theorem Connection.Tallied.agree_iff (hc : c.Tallied w) (hq : c.Queued w) :
    CountersAgree w c ↔ c.queued < w.modulus := by
  constructor
  · intro hagree
    have hqueued : c.queuedBodySize = c.queued :=
      hagree.total.trans (Finmap.total_congr hagree.each)
    rw [← hqueued, hc]
    exact Nat.mod_lt _ w.modulus_pos
  · intro hlt
    have hqueued : c.queuedBodySize = c.queued := hc.trans (Nat.mod_eq_of_lt hlt)
    have heach (s : StreamId) (body : BodySource) (hb : c.bodies.lookup s = some body) :
        body.queuedSize = body.queue.length :=
      (hq s body hb).queuedSize_eq_iff.mpr ((c.length_le_queued hb).trans_lt hlt)
    refine ⟨hqueued.trans (Finmap.total_congr heach).symm, heach, fun s body hb => ?_,
      fun s body hb length t chunk hturns _ hslot => ?_⟩
    · rw [heach s body hb, hqueued]
      exact c.length_le_queued hb
    · obtain ⟨hsound, hshrunk, n, hn, hle, hrest⟩ :=
        hturns.exact (hq s body hb) hc (c.length_le_queued hb)
      obtain ⟨hinside, htake⟩ := hsound.take_le hslot
      have hsize : t.body.queuedSize = t.body.queue.length :=
        hsound.queuedSize_eq_iff.mpr
          ((hshrunk.trans (c.length_le_queued hb)).trans_lt hlt)
      have htotal : t.queued = n := hn.trans (Nat.mod_eq_of_lt (hle.trans_lt hlt))
      rw [hsize, htotal]
      exact ⟨hinside.le, (min_le_left _ _).trans htake,
        (min_le_left _ _).trans (htake.trans hrest)⟩

/-- Assigning to a body without touching its queue. -/
theorem Connection.queued_insert (hb : c.bodies.lookup s = some body)
    (hqueue : body'.queue = body.queue) :
    (c.bodies.insert s body').total (fun body => body.queue.length) = c.queued :=
  Finmap.total_insert_eq hb (congrArg List.length hqueue)

/-- Opening a body. -/
theorem Connection.queued_open (hb : c.bodies.lookup s = none) :
    (c.bodies.insert s {}).total (fun body => body.queue.length) = c.queued := by
  have htotal := Finmap.total_insert (f := fun body : BodySource => body.queue.length)
    (d := c.bodies) (k := s) {}
  rwa [Finmap.weight_of_none hb] at htotal

/-- Adding bytes to a body adds them to what is queued. -/
theorem Connection.queued_add (hb : c.bodies.lookup s = some body) {chunk : Bytes}
    (hqueue : body'.queue = body.queue ++ chunk) :
    (c.bodies.insert s body').total (fun body => body.queue.length) = c.queued + chunk.length := by
  have htotal := Finmap.total_insert (f := fun body : BodySource => body.queue.length)
    (d := c.bodies) (k := s) body'
  rw [Finmap.weight_of_lookup hb, hqueue, List.length_append] at htotal
  rw [Connection.queued]
  omega

/-- Taking bytes from a body takes them off what is queued. -/
theorem Connection.queued_drop (hb : c.bodies.lookup s = some body) {k : Nat}
    (hqueue : body'.queue = body.queue.drop k) :
    (c.bodies.insert s body').total (fun body => body.queue.length)
      = c.queued - min k body.queue.length := by
  have htotal := Finmap.total_insert (f := fun body : BodySource => body.queue.length)
    (d := c.bodies) (k := s) body'
  have hle := c.length_le_queued hb
  rw [Finmap.weight_of_lookup hb, hqueue, List.length_drop] at htotal
  rw [Connection.queued] at hle ⊢
  omega

/-- Counting a chunk counts its bytes. -/
theorem countQueued_mod (n : Nat) (chunk : Bytes) :
    countQueued w (n % w.modulus) chunk = (n + chunk.length) % w.modulus := by
  unfold countQueued
  by_cases hchunk : chunk = []
  · rw [if_pos hchunk, hchunk, List.length_nil, Nat.add_zero]
  · rw [if_neg hchunk, Wrapping.add_mod]

/-- **What a step does to the bytes queued on all bodies**, and to the counter of
the connection. -/
inductive QueueMove (w : PointerWidth) (c c' : Connection) (l : Label) : Prop
  | kept (queued : c'.queued = c.queued) (counter : c'.queuedBodySize = c.queuedBodySize)
  | added {s : StreamId} {chunk : Bytes} {endStream : Bool} {env : Env} {body : BodySource}
      (label : l = .request (.sendData s chunk endStream) env)
      (opened : c.bodies.lookup s = some body) (unended : body.ended = false)
      (queued : c'.queued = c.queued + chunk.length)
      (counter : c'.queuedBodySize = countQueued w c.queuedBodySize chunk)
  | taken {k : Nat} (queued : c'.queued = c.queued - k)
      (counter : c.Tallied w → c'.queuedBodySize = (c.queued - k) % w.modulus)
  | emptied (queued : c'.queued = 0) (counter : c'.queuedBodySize = 0)

/-- Each of them keeps the tally. -/
theorem QueueMove.tallied {c' : Connection} {l : Label} (h : QueueMove w c c' l)
    (hc : c.Tallied w) : c'.Tallied w := by
  cases h with
  | kept queued counter => rw [Connection.Tallied, queued, counter, hc]
  | added label opened unended queued counter =>
    rw [Connection.Tallied, queued, counter, hc, countQueued_mod]
  | taken queued counter => rw [Connection.Tallied, queued, counter hc]
  | emptied queued counter => rw [Connection.Tallied, queued, counter, Nat.zero_mod]

/-- **A move that fits the counter leaves fewer bytes than it has values.** -/
theorem QueueMove.queued_lt {m : Machine} {c' : Connection} {l : Label}
    (h : QueueMove m.host.pointerWidth m.conn c' l) (hc : m.conn.Tallied m.host.pointerWidth)
    (hlt : m.conn.queued < m.host.pointerWidth.modulus) (hfits : m.AllCounted l) :
    c'.queued < m.host.pointerWidth.modulus := by
  cases h with
  | kept queued => rwa [queued]
  | @added s chunk endStream env body label opened unended queued =>
    subst label
    have hfit := hfits body opened unended
    rwa [hc, Nat.mod_eq_of_lt hlt, ← queued] at hfit
  | taken queued =>
    rw [queued]
    exact (Nat.sub_le _ _).trans_lt hlt
  | emptied queued =>
    rw [queued]
    exact m.host.pointerWidth.modulus_pos

/-- Assigning to a body without touching its queue moves nothing. -/
theorem QueueMove.insert {l : Label} {c' : Connection} (hb : c.bodies.lookup s = some body)
    (hqueue : body'.queue = body.queue) (hbodies : c'.bodies = c.bodies.insert s body')
    (hcounter : c'.queuedBodySize = c.queuedBodySize) : QueueMove w c c' l := by
  refine .kept ?_ hcounter
  rw [Connection.queued, hbodies]
  exact c.queued_insert hb hqueue

/-- Nor does opening one. -/
theorem QueueMove.open {l : Label} {c' : Connection} (hb : c.bodies.lookup s = none)
    (hbodies : c'.bodies = c.bodies.insert s {})
    (hcounter : c'.queuedBodySize = c.queuedBodySize) : QueueMove w c c' l := by
  refine .kept ?_ hcounter
  rw [Connection.queued, hbodies]
  exact c.queued_open hb

/-- **An operation moves the queue**, if it opens no body that is there. -/
theorem Requested.moves {r : Request} {p : Except PyError Started × World} {m : Machine}
    (h : Requested m.host env m.conn r p) (hq : m.conn.Queued m.host.pointerWidth)
    (hopen : ∀ s, (r.happening env (m.afterRequest p).1).opens = some s →
      m.conn.bodies.lookup s = none) :
    QueueMove m.host.pointerWidth m.conn p.2.conn (.request r env) := by
  cases h with
  | failed => exact .emptied Finmap.total_empty rfl
  | terminated => exact .emptied Finmap.total_empty rfl
  | @requested headers endStream streamId =>
    cases endStream with
    | true => exact .kept rfl rfl
    | false => exact .open (hopen streamId rfl) rfl rfl
  | @requestUnreported headers endStream streamId usable client allowed submitted accepted
      recorded =>
    cases endStream with
    | true => exact .kept rfl rfl
    | false =>
      subst submitted
      refine .open (hopen _ ?_) rfl rfl
      rw [Machine.afterRequest, Request.happening_unreported
        (List.mem_cons_of_mem _ List.mem_cons_self) accepted recorded]
      rfl
  | @responded streamId headers endStream =>
    cases endStream with
    | true => exact .kept rfl rfl
    | false => exact .open (hopen streamId rfl) rfl rfl
  | @trailersQueued streamId headers body usable opened =>
    have hqueue : (body.withTrailers headers).resumed.queue = body.queue := rfl
    exact .insert opened hqueue rfl rfl
  | @trailersStuck streamId headers body e usable opened =>
    have hqueue : (body.withTrailers headers).queue = body.queue := rfl
    exact .insert opened hqueue rfl rfl
  | @dataQueued streamId chunk endStream body usable opened unended =>
    refine .added rfl opened unended (m.conn.queued_add opened ?_) rfl
    rw [← (hq _ body opened).queue_append chunk endStream]
    split <;> rfl
  | @dataStuck streamId chunk endStream body e usable opened unended =>
    refine .added rfl opened unended (m.conn.queued_add opened ?_) rfl
    exact (hq _ body opened).queue_append chunk endStream
  | _ => exact .kept rfl rfl

theorem FinishedRead.queue_eq {reply reply' : Reply} {complete : Bool} {is : List Issued}
    (h : FinishedRead env session s body reply complete reply' is body') :
    body'.queue = body.queue := by
  cases h <;> rfl

/-- **A callback that does not fail moves the queue.** -/
theorem Called.moves {cb : Callback} {p : Reply × World}
    (h : Called host env session c cb p) (hq : c.Queued host.pointerWidth)
    (hsound : p.2.conn.Sound) :
    QueueMove host.pointerWidth c p.2.conn (.callback cb env) := by
  -- what `_copy_body` subtracts is what it takes
  have htakes {c' : Connection} {s : StreamId} {length : Nat} {body body' : BodySource}
      {t : CopyState} (hb : c.bodies.lookup s = some body)
      (hloop : copyLoop host.pointerWidth length (body.chunks.length - body.head)
        { body, queued := c.queuedBodySize } = (.ok (), t))
      (hbodies : c'.bodies = c.bodies.insert s body') (hqueue : body'.queue = t.body.compact.queue)
      (hcounter : c'.queuedBodySize = t.queued) :
      QueueMove host.pointerWidth c c' (.callback cb env) := by
    obtain ⟨t', heq, htaken⟩ := (hq s body hb).copyLoop length c.queuedBodySize
    obtain rfl : t = t' := congrArg Prod.snd (hloop.symm.trans heq)
    refine .taken (k := min length body.queue.length) ?_ fun hc => ?_
    · rw [Connection.queued, hbodies]
      exact c.queued_drop hb (hqueue.trans (BodySource.queue_compact.trans htaken.queue))
    · rw [hcounter]
      exact htaken.queued c.queued hc (c.length_le_queued hb)
  cases h with
  | failed spoiled deferred => exact absurd (deferred.symm.trans hsound.2) (by simp)
  | @bodySent streamId frameHeader length body t output limit opened written fits copied =>
    exact htakes opened copied rfl rfl rfl
  | @readWhole streamId length body body' reply is unspent opened whole finished =>
    exact .insert opened finished.queue_eq rfl rfl
  | @readCopied streamId length body body' t reply is unspent opened limited copied finished =>
    exact htakes opened copied rfl finished.queue_eq rfl
  | @streamClosed streamId =>
    have herase := Finmap.total_erase (f := fun body : BodySource => body.queue.length)
      (d := c.bodies) (k := streamId)
    cases hb : c.bodies.lookup streamId with
    | none =>
      rw [Finmap.weight_of_none hb, Nat.add_zero] at herase
      exact .kept herase rfl
    | some body =>
      rw [Finmap.weight_of_lookup hb] at herase
      have hrest : (c.bodies.erase streamId).total (fun body => body.queue.length)
          = c.queued - body.queue.length := Nat.eq_sub_of_add_eq herase
      refine .taken (k := body.queue.length) hrest fun hc => ?_
      show uncountQueued host.pointerWidth c.queuedBodySize (some body) = _
      rw [uncountQueued, hc, (hq _ body hb).size,
        Wrapping.sub_mod_mod host.pointerWidth.modulus_pos (c.length_le_queued hb)]
  | _ => exact .kept rfl rfl

/-- A return moves the queue. -/
theorem Returned.moves {d : Drive} {result : Int} {p : Except PyError Value × World}
    (h : Returned host env c d result p) : QueueMove w c p.2.conn (.ret result env) := by
  cases h with
  | failed => exact .emptied Finmap.total_empty rfl
  | sentThenFailed => exact .emptied Finmap.total_empty rfl
  | receivedLast => exact .emptied Finmap.total_empty rfl
  | receivedUnannounced => exact .emptied Finmap.total_empty rfl
  | sentLast => exact .emptied Finmap.total_empty rfl
  | _ => exact .kept rfl rfl

/-- **A step moves the queue.** -/
theorem Stepped.moves {m : Machine} {l : Label} {p : Outcome × Machine} (h : Stepped m l p)
    (hq : m.conn.Queued m.host.pointerWidth) (hsound : p.2.conn.Sound)
    (hopen : ∀ s, (happening ⟨m, l, p.1, p.2⟩).opens = some s →
      m.conn.bodies.lookup s = none) :
    QueueMove m.host.pointerWidth m.conn p.2.conn l := by
  cases h with
  | request idle hr =>
    rw [Machine.afterRequest_conn]
    exact hr.moves hq hopen
  | callback driven hc =>
    rw [Machine.afterCallback_conn] at hsound ⊢
    exact hc.moves hq hsound
  | ret driven hr =>
    rw [Machine.afterReturn_conn]
    exact hr.moves

end Steps

/-- The assumptions on the engine, and chunks that fit the counter of the
connection. -/
def ClosesCounted (h : History) (m : Machine) (l : Label) : Prop :=
  ClosesCleanly h m l ∧ m.AllCounted l

instance (h : History) (m : Machine) (l : Label) : Decidable (ClosesCounted h m l) :=
  inferInstanceAs (Decidable (_ ∧ _))

section Runs

variable {host : Host} {Allowed : History → Machine → Label → Prop} {h : History} {m : Machine}

/-- Every step of a run moves the queue. -/
theorem Runs.moves (hcleanly : ∀ {h m l}, Allowed h m l → ClosesCleanly h m l)
    (hrun : Runs host Allowed h m) (hbefore : m.conn.Sound) {l : Label} {p : Outcome × Machine}
    (hallowed : Allowed h m l) (hstep : Stepped m l p) (hsound : p.2.conn.Sound) :
    QueueMove m.host.pointerWidth m.conn p.2.conn l :=
  hstep.moves (Runs.queued (fun ha => (hcleanly ha).1) hrun hbefore) hsound fun _ hopens =>
    Runs.unopened (hrun.mono hcleanly) hbefore (hcleanly hallowed) hstep hsound hopens

/-- **The connection counts what is queued**, in every sound state. -/
theorem Runs.queue_tallied (hcleanly : ∀ {h m l}, Allowed h m l → ClosesCleanly h m l)
    (hrun : Runs host Allowed h m) (hsound : m.conn.Sound) :
    m.conn.Tallied host.pointerWidth := by
  refine Runs.induct_sound (I := fun _ m => m.conn.Tallied host.pointerWidth)
    (fun ha => (hcleanly ha).1) (Nat.zero_mod _).symm ?_ hrun hsound
  intro h m l p hrun hbefore ih hallowed hstep hsound
  rw [← Runs.host_eq hrun] at ih ⊢
  exact (Runs.moves hcleanly hrun hbefore hallowed hstep hsound).tallied ih

/-- **The counters agree in a sound state exactly if fewer bytes are queued than
they have values.** -/
theorem Runs.agree_iff (hcleanly : ∀ {h m l}, Allowed h m l → ClosesCleanly h m l)
    (hrun : Runs host Allowed h m) (hsound : m.conn.Sound) :
    CountersAgree host.pointerWidth m.conn ↔ m.conn.queued < host.pointerWidth.modulus :=
  (Runs.queue_tallied hcleanly hrun hsound).agree_iff
    (Runs.records_eq (fun ha => (hcleanly ha).1) hrun hsound).1

/-- **Fewer bytes are queued than the counter has values**, along every run
whose chunks fit it. -/
theorem Runs.queued_lt (hrun : Runs host ClosesCounted h m) (hsound : m.conn.Sound) :
    m.conn.queued < host.pointerWidth.modulus := by
  refine Runs.induct_sound (I := fun _ m => m.conn.queued < host.pointerWidth.modulus)
    (fun ha => ha.1.1) host.pointerWidth.modulus_pos ?_ hrun hsound
  intro h m l p hrun hbefore ih hallowed hstep hsound
  have htallied := Runs.queue_tallied And.left hrun hbefore
  rw [← Runs.host_eq hrun] at ih htallied ⊢
  exact (Runs.moves And.left hrun hbefore hallowed hstep hsound).queued_lt htallied ih hallowed.2

end Runs

/-- What ends the bodies of a connection: it was terminated, its end was
announced, or it failed. -/
def EndsBodies (e : Entry Machine Label Outcome) : Prop :=
  (∃ errorCode lastStreamId env,
    e.label = .request (.terminateConnection errorCode lastStreamId) env
    ∧ e.outcome.response = .returned .none) ∨
  (∃ errorCode debugData, .connectionClosed errorCode debugData ∈ emitted e) ∨
  e.after.conn.failed = true

theorem Stepped.over_of_endsBodies {m : Machine} {l : Label} {p : Outcome × Machine}
    (h : Stepped m l p) (he : EndsBodies ⟨m, l, p.1, p.2⟩) : p.2.conn.Over := by
  rcases he with ⟨errorCode, lastStreamId, env, hl, hresponse⟩ | ⟨errorCode, debugData, hmem⟩ | hf
  · obtain rfl : l = _ := hl
    cases h with
    | request idle hr =>
      cases hr with
      | rejected => exact absurd hresponse (by simp [Machine.afterRequest])
      | failed => exact .inr rfl
      | unreported quiet => exact absurd quiet (by simp [Request.isQuiet])
      | answered quiet => exact absurd quiet (by simp [Request.isQuiet])
      | terminated => exact .inl rfl
  · exact h.over_of_connectionClosed hmem
  · exact .inr hf

/-- **The queue counters agree.** Along every run whose chunks fit the counter of
the connection:

* while nothing has failed, the counters agree with each other and with the
  queues, and no subtraction wraps;
* once the connection was terminated, announced its end or failed, no body is
  left and the total is zero. -/
theorem queue_counters {host : Host} {h : History} {m : Machine}
    (hrun : Runs host ClosesCounted h m) :
    (m.conn.Sound → CountersAgree host.pointerWidth m.conn) ∧
    (∀ e ∈ h, EndsBodies e → m.conn.Sound ∨ m.conn.failed = true →
      m.conn.queuedBodySize = 0 ∧ m.conn.bodies = ∅) ∧
    (m.drive = none → m.conn.Sound ∨ m.conn.failed = true) := by
  have hends : ∀ {h m l}, ClosesCounted h m l → FailureEndsDrive h l := fun ha => ha.1.1
  refine ⟨fun hsound => ?_, fun e he hover hstate => ?_, fun hidle => ?_⟩
  · exact (Runs.agree_iff And.left hrun hsound).mpr (Runs.queued_lt hrun hsound)
  · obtain ⟨h', -, -, -, htaken⟩ := hrun.of_mem he
    have hover' := Runs.over_of_mem hrun he ((Machine.stepped htaken).over_of_endsBodies hover)
    rcases hstate with hsound | hfailed
    · have hbodies := Runs.emptied hends hrun hsound
        (hover'.resolve_right (by simp [hsound.1]))
      have htallied := Runs.queue_tallied And.left hrun hsound
      rw [Connection.Tallied, Connection.queued, hbodies, Finmap.total_empty, Nat.zero_mod]
        at htallied
      exact ⟨htallied, hbodies⟩
    · rw [← (Runs.void hrun hfailed).empty]
      exact ⟨rfl, rfl⟩
  · cases hf : m.conn.failed with
    | true => exact .inr rfl
    | false => exact .inl (Runs.sound_of_idle hends hrun hidle hf)

/-- **A counter of 32 bits wraps.** After 4096 mebibytes on one body, nothing has
failed, and the counters disagree with the queue. -/
theorem queue_counters_mebibytes :
    ∃ h m, Runs { pointerWidth := .w32 } ClosesCleanly h m ∧ m.conn.Sound ∧
      ¬ CountersAgree .w32 m.conn := by
  obtain ⟨h, m, body, hrun, -, hadds, hlength, hsize⟩ := Runs.mebibytes ClosesCleanly
    ⟨_, rfl, by decide, ⟨rfl, by decide, rfl, rfl⟩⟩
    fun hquiet => hquiet.cleanly rfl (fun _ => trivial) fun _ => trivial
  have hsound : m.conn.Sound :=
    Runs.sound_of_idle (fun ha => ha.1) hrun hadds.idle hadds.usable.1
  refine ⟨h, m, hrun, hsound, fun hagree => ?_⟩
  have heq := hagree.each 1 body hadds.opened
  rw [hlength, hsize] at heq
  exact absurd heq (by decide)

/-- A client with data queued on two streams, one of which is then closed. -/
def closedWithData : List Label := [
  .request (.init .client {}) (.accepting []),
  .request (.initiateConnection []) (.accepting []),
  .request (.sendRequest [] false) (.accepting [(.sessionCheckRequestAllowed, 1),
    (.submitRequest2 [] true, 1)]),
  .request (.sendRequest [] false) (.accepting [(.sessionCheckRequestAllowed, 1),
    (.submitRequest2 [] true, 3)]),
  .request (.sendData 1 [1, 2, 3] false) (.accepting []),
  .request (.sendData 3 [4, 5] true) (.accepting []),
  .request (.dataToSend none) (.accepting []),
  .callback (.streamClosed 1 internalError) (.accepting [])]

set_option maxRecDepth 4000 in
theorem queue_counters_closedWithData :
    ∃ c, Run.execute Machine.step ClosesCounted ([], Machine.fresh {}) closedWithData = some c ∧
      c.2.conn.queuedBodySize = 2 ∧
      c.2.conn.bodies.total BodySource.queuedSize = 2 := by
  obtain ⟨c, hc, hsound, hsize⟩ : ∃ c, Run.execute Machine.step ClosesCounted
      ([], Machine.fresh {}) closedWithData = some c ∧
      c.2.conn.Sound ∧ c.2.conn.queuedBodySize = 2 := ⟨_, rfl, by decide, by decide⟩
  have hagree := (queue_counters (Run.of_execute .start hc)).1 hsound
  exact ⟨c, hc, hsize, hagree.total.symm.trans hsize⟩

end Ngh2
