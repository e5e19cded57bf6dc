import Ngh2.Openings
import Ngh2.Providers

/-!
# What went into a body and what came out of it

An account of the body of one stream that never takes anything off: the bytes
that were queued, the bytes that were produced, the end and the trailers that
were asked for, and how often the end was signalled (`Tally`). It is read off
a history, and it counts from the beginning, whatever became of the stream.

A body that is there agrees with it (`Body.Tallied`). What makes this work is
that a body is opened once: before it nothing was counted (`Runs.tally_blank`),
and after its closure, or after the connection was told to end, it is not
opened again.
-/

namespace Ngh2

open Nghttp2 Effect

/-! ## The account -/

/-- **What happened to the body of a stream so far.** -/
structure Tally where
  /-- The bytes that were queued. -/
  accepted : Bytes := []
  /-- The bytes that were handed to the engine or written to the output. -/
  produced : Bytes := []
  /-- Whether the end was asked for. -/
  ended : Bool := false
  /-- The trailers that are to end the stream. -/
  trailers : Option (List Header) := none
  /-- How often the engine was told that the body ends. -/
  endings : Nat := 0
  deriving DecidableEq, Repr

namespace Tally

/-- The account after a message was queued. -/
def message (t : Tally) : Message → Tally
  | .data chunk endStream =>
    { t with accepted := t.accepted ++ chunk, ended := t.ended || endStream }
  | .trailers headers => { t with ended := true, trailers := some headers }
  | _ => t

/-- The account after the engine was answered. -/
def read (t : Tally) (reply : Reply) : Tally :=
  { t with
    produced := t.produced ++ reply.buffer
    endings := if reply.eof then t.endings + 1 else t.endings }

/-- The account after bytes were written to the output. -/
def sent (t : Tally) (data : Bytes) : Tally := { t with produced := t.produced ++ data }

/-- **The account of a stream after something happened.** A message call that
raised because the engine refused to wake the source had queued what it was
given. -/
def count (t : Tally) (s : StreamId) : Happening → Tally
  | .message r message => if r = s then t.message message else t
  | .stuck r message => if r = s then t.message message else t
  | .read r _ reply => if r = s then t.read reply else t
  | .sent r data => if r = s then t.sent data else t
  | _ => t

end Tally

/-- The account of a stream after happenings, newest first. -/
def tallyOf (s : StreamId) : List Happening → Tally
  | [] => {}
  | x :: xs => (tallyOf s xs).count s x

/-- **The account of a stream after a history.** -/
def tallyAfter (h : History) (s : StreamId) : Tally := tallyOf s (h.map happening)

/-- **A body agrees with an account**: what came out and what is queued is what
went in, and the end and the trailers are those that were asked for. Trailers
are given away with the end. -/
structure Body.Tallied (b : Body) (t : Tally) : Prop where
  bytes : t.produced ++ b.queue = t.accepted
  ended : b.ended = t.ended
  trailers : t.endings = 0 → b.trailers = t.trailers

namespace Body

variable {w : PointerWidth} {b : Body} {t : Tally}

theorem tallied_empty : Tallied {} {} := ⟨rfl, rfl, fun _ => rfl⟩

/-- Waking a source changes no account. -/
theorem Tallied.resume (h : b.Tallied t) : b.resume.Tallied t := ⟨h.bytes, h.ended, h.trailers⟩

/-- Bytes are queued behind those that are. -/
theorem Tallied.add (h : b.Tallied t) (hopen : b.ended = false) (chunk : Bytes) (endStream : Bool) :
    (b.add chunk endStream).Tallied (t.message (.data chunk endStream)) where
  bytes := by
    rw [Body.add, Tally.message, ← h.bytes]
    exact (List.append_assoc _ _ _).symm
  ended := by
    rw [Tally.message, ← h.ended, hopen]
    rfl
  trailers := h.trailers

theorem Tallied.endWith (h : b.Tallied t) (headers : List Header) :
    (b.endWith headers).Tallied (t.message (.trailers headers)) where
  bytes := h.bytes
  ended := rfl
  trailers := fun _ => rfl

/-- Bytes off the head of a queue, put back in front of what is left. -/
theorem append_drop_of_take {data queue : Bytes} (h : data = queue.take data.length) :
    data ++ queue.drop data.length = queue :=
  calc data ++ queue.drop data.length
    _ = queue.take data.length ++ queue.drop data.length := congrArg (· ++ _) h
    _ = queue := List.take_append_drop _ _

/-- What is written to the output was at the head of the queue. -/
theorem Tallied.sent (h : b.Tallied t) {data : Bytes} (hdata : data = b.queue.take data.length) :
    (b.sent data).Tallied (t.sent data) where
  bytes := by
    show t.produced ++ data ++ b.queue.drop data.length = t.accepted
    rw [List.append_assoc, append_drop_of_take hdata, h.bytes]
  ended := h.ended
  trailers := h.trailers

/-- Trailers are given away only with the end. -/
theorem eof_of_noEndStream {length : Nat} {copy : Bool}
    (h : (b.answer w length copy).noEndStream = true) : (b.answer w length copy).eof = true := by
  unfold answer at h ⊢
  dsimp only at h ⊢
  split at h
  · next hcomplete => rw [if_pos hcomplete]
  · split at h <;> exact absurd h (by simp)

/-- What is copied for the engine was at the head of the queue. -/
theorem answer_buffer_eq_take (w : PointerWidth) (b : Body) (length : Nat) (copy : Bool) :
    (b.answer w length copy).buffer = b.queue.take (b.answer w length copy).buffer.length := by
  cases copy with
  | false => simp
  | true =>
    rw [answer_buffer, if_pos rfl, List.length_take, min_assoc, min_self]

theorem Tallied.answered (h : b.Tallied t) (length : Nat) (copy : Bool) :
    (b.answered (b.answer w length copy)).Tallied (t.read (b.answer w length copy)) where
  bytes := by
    show t.produced ++ (b.answer w length copy).buffer
      ++ b.queue.drop (b.answer w length copy).buffer.length = t.accepted
    rw [List.append_assoc, append_drop_of_take (answer_buffer_eq_take w b length copy), h.bytes]
  ended := h.ended
  trailers := by
    intro hendings
    by_cases hlast : (b.answer w length copy).noEndStream = true
    · rw [Tally.read, eof_of_noEndStream hlast] at hendings
      exact absurd hendings (by simp)
    · have hopen : t.endings = 0 := by
        rw [Tally.read] at hendings
        dsimp only at hendings
        split at hendings
        · exact absurd hendings (by simp)
        · exact hendings
      rw [Body.answered, if_neg hlast]
      exact h.trailers hopen

end Body

/-! ## The records and the accounts -/

namespace Records

variable {w : PointerWidth} {r : Records} {x : Happening} {s : StreamId} {server : Bool} {t : Tally}

/-- **A body that is there agrees with its account** after everything that may
happen, if one that is opened has no account. -/
theorem tallied_record (hp : r.Permits w server x) (hopens : x.opens = some s → t = {})
    (h : ∀ b, r.body s = some b → b.Tallied t) :
    ∀ b, (r.record x).body s = some b → b.Tallied (t.count s x) := by
  -- what changes one body at most
  have honBody {u : StreamId} {f : Body → Body} {t' : Tally}
      (hsame : u = s → ∀ b, r.body s = some b → (f b).Tallied t') (hother : u ≠ s → t' = t) :
      ∀ b, (r.onBody u f).body s = some b → b.Tallied t' := by
    intro b hb
    by_cases hu : u = s
    · subst hu
      obtain ⟨b₀, hb₀, rfl⟩ := Option.map_eq_some_iff.mp
        (show (r.body u).map f = some b by simpa [Records.onBody] using hb)
      exact hsame rfl b₀ hb₀
    · rw [hother hu]
      exact h b (by simpa [Records.onBody, Ne.symm hu] using hb)
  have hopenBody {u : StreamId} {r' : Records} (hr : r'.body = r.body)
      (hu : some u = some s → t = {}) : ∀ b, (r'.openBody u).body s = some b → b.Tallied t := by
    intro b hb
    by_cases heq : u = s
    · subst heq
      obtain rfl : ({} : Body) = b := by simpa [Records.openBody] using hb
      exact hu rfl ▸ Body.tallied_empty
    · exact h b (by simpa [Records.openBody, hr, Ne.symm heq] using hb)
  have hcount (u : StreamId) (message : Message) (hm : t.message message = t) :
      t.count s (.message u message) = t := by
    rw [Tally.count, hm, ite_self]
  have hstuck (u : StreamId) (message : Message) (hm : t.message message = t) :
      t.count s (.stuck u message) = t := by
    rw [Tally.count, hm, ite_self]
  cases x with
  | message u message =>
    cases message with
    | request endStream =>
      rw [hcount u _ rfl]
      cases endStream with
      | true => exact h
      | false => exact hopenBody rfl hopens
    | informational =>
      rw [hcount u _ rfl]
      exact h
    | response endStream =>
      rw [hcount u _ rfl]
      cases endStream with
      | true => exact h
      | false => exact hopenBody rfl hopens
    | data chunk endStream =>
      obtain ⟨b₀, hb₀, hopen⟩ := hp
      refine honBody (fun hu b hb => ?_) (fun hu => if_neg hu)
      subst hu
      obtain rfl := Option.some_inj.mp (hb.symm.trans hb₀)
      rw [Tally.count, if_pos rfl]
      split
      · exact ((h b hb).add hopen chunk endStream).resume
      · exact (h b hb).add hopen chunk endStream
    | trailers headers =>
      refine honBody (fun hu b hb => ?_) (fun hu => if_neg hu)
      rw [Tally.count, if_pos hu]
      exact ((h b hb).endWith headers).resume
  | stuck u message =>
    cases message with
    | request endStream =>
      rw [hstuck u _ rfl]
      cases endStream with
      | true => exact h
      | false => exact hopenBody rfl hopens
    | data chunk endStream =>
      obtain ⟨b₀, hb₀, hopen, -⟩ := hp
      refine honBody (fun hu b hb => ?_) (fun hu => if_neg hu)
      subst hu
      obtain rfl := Option.some_inj.mp (hb.symm.trans hb₀)
      rw [Tally.count, if_pos rfl]
      exact (h b hb).add hopen chunk endStream
    | trailers headers =>
      refine honBody (fun hu b hb => ?_) (fun hu => if_neg hu)
      rw [Tally.count, if_pos hu]
      exact (h b hb).endWith headers
    | _ =>
      rw [hstuck u _ rfl]
      exact h
  | read u length reply =>
    refine honBody (fun hu b hb => ?_) (fun hu => if_neg hu)
    subst hu
    rw [Tally.count, if_pos rfl]
    rcases hp with rfl | ⟨b₀, copy, hb₀, rfl⟩
    · rw [Body.answered_pause]
      refine ⟨?_, (h b hb).ended, (h b hb).trailers⟩
      rw [Tally.read, List.append_nil]
      exact (h b hb).bytes
    · obtain rfl := Option.some_inj.mp (hb.symm.trans hb₀)
      exact (h b hb).answered length copy
  | sent u data =>
    refine honBody (fun hu b hb => ?_) (fun hu => if_neg hu)
    subst hu
    obtain ⟨b₀, hb₀, hdata⟩ := hp
    obtain rfl := Option.some_inj.mp (hb.symm.trans hb₀)
    rw [Tally.count, if_pos rfl]
    exact (h b hb).sent hdata
  | closed u =>
    intro b hb
    by_cases hu : u = s
    · exact absurd hb (by simp [Records.record, hu])
    · exact h b (by simpa [Records.record, Ne.symm hu] using hb)
  | discarded => exact fun b hb => absurd hb (by simp [Records.record])
  | _ => exact h

/-- **Nothing is counted for a stream without a body.** -/
theorem count_of_no_body (hp : r.Permits w server x) (hb : r.body s = none) :
    ({} : Tally).count s x = {} := by
  have hne {b : Body} {u : StreamId} (hu : r.body u = some b) : u ≠ s := by
    rintro rfl
    exact absurd (hu.symm.trans hb) (by simp)
  cases x with
  | message u message =>
    cases message with
    | data => exact if_neg (hne hp.choose_spec.1)
    | trailers => exact if_neg (hne hp.choose_spec.1)
    | _ => exact ite_self _
  | stuck u message =>
    cases message with
    | data => exact if_neg (hne hp.choose_spec.1)
    | trailers => exact if_neg (hne hp.choose_spec.1)
    | _ => exact ite_self _
  | read u length reply =>
    rcases hp with rfl | ⟨b, copy, hu, -⟩
    · exact ite_self _
    · exact if_neg (hne hu)
  | sent u data => exact if_neg (hne hp.choose_spec.1)
  | _ => rfl

end Records

/-! ## Runs -/

section Runs

variable {host : Host} {h : History} {m : Machine} {l : Label} {p : Outcome × Machine}

/-- A stream whose body was opened at some time. -/
def Opened (h : History) (s : StreamId) : Prop := ∃ e ∈ h, (happening e).opens = some s

theorem opened_cons {e : Entry Machine Label Outcome} {s : StreamId} :
    Opened (e :: h) s ↔ (happening e).opens = some s ∨ Opened h s := by
  simp [Opened]

/-- A body is opened on a connection that accepts work. -/
theorem Stepped.usable_of_opens (hstep : Stepped m l p) (hsound : p.2.conn.Sound) {s : StreamId}
    (hopens : (happening ⟨m, l, p.1, p.2⟩).opens = some s) : m.conn.Usable := by
  cases hstep with
  | @request r env q idle hr =>
    rw [Machine.afterRequest_conn] at hsound
    simp only [happening] at hopens
    cases hr with
    | rejected calls =>
      rw [Machine.afterRequest, Request.happening_rejected calls] at hopens
      exact absurd hopens (by simp [Happening.opens])
    | failed => exact absurd hsound.1 (by simp [World.failed, Connection.invalidate])
    | unreported quiet =>
      rw [Request.happening_quiet quiet] at hopens
      exact absurd hopens (by simp [Happening.opens])
    | answered quiet =>
      rw [Request.happening_quiet quiet] at hopens
      exact absurd hopens (by simp [Happening.opens])
    | requested usable => exact usable
    | requestBodiless usable => exact usable
    | requestUnreported usable => exact usable
    | responded usable => exact usable
    | responseUnrecorded usable => exact usable
    | responseBodiless usable => exact usable
    | resetDeferred usable => exact usable
    | resetSubmitted usable => exact usable
    | _ => exact absurd hopens (by simp [Request.happening, Machine.afterRequest, stuckOr,
        Happening.opens, Issued.isResume, EngineCall.isResume])
  | callback driven hc =>
    have horigin := (Stepped.callback driven hc).origin hsound
    generalize happening ⟨m, _, _, _⟩ = x at horigin hopens
    cases horigin <;> exact absurd hopens (by simp [Happening.opens])
  | ret driven hr =>
    have horigin := (Stepped.ret driven hr).origin hsound
    generalize happening ⟨m, _, _, _⟩ = x at horigin hopens
    cases horigin <;> exact absurd hopens (by simp [Happening.opens])

/-- What a step opened is there. -/
theorem Records.body_of_opens {r : Records} {x : Happening} {s : StreamId}
    (hopens : x.opens = some s) : (r.record x).body s = some {} := by
  unfold Happening.opens at hopens
  split at hopens
  · obtain rfl := Option.some_inj.mp hopens
    simp [Records.record, Records.openBody]
  · obtain rfl := Option.some_inj.mp hopens
    simp [Records.record, Records.openBody]
  · obtain rfl := Option.some_inj.mp hopens
    simp [Records.record, Records.openBody]
  · exact absurd hopens (by simp)

/-- What opens a body starts a record. -/
theorem Happening.starts_of_opens {x : Happening} {s : StreamId} (hopens : x.opens = some s) :
    x.starts = some s := by
  unfold Happening.opens at hopens
  split at hopens
  · exact hopens
  · exact hopens
  · exact hopens
  · exact absurd hopens (by simp)

/-- **A body that was opened is there**, until its stream is closed or the
connection is told to end. -/
theorem Runs.body_of_opened (hrun : Runs host ClosesCleanly h m) (hsound : m.conn.Sound) :
    ∀ s, Opened h s → m.conn.bodies.lookup s ≠ none ∨ s ∈ closedStreams h ∨
      m.conn.terminating = true := by
  refine Runs.induct_sound (I := fun h m => ∀ s, Opened h s →
    m.conn.bodies.lookup s ≠ none ∨ s ∈ closedStreams h ∨ m.conn.terminating = true)
    (fun ha => ha.1) ?_ ?_ hrun hsound
  · rintro s ⟨e, he, -⟩
    exact absurd he List.not_mem_nil
  · intro h m l p hrun hbefore ih _ hstep hsound s hopened
    by_cases hterminating : p.2.conn.terminating = true
    · exact .inr (.inr hterminating)
    have hafter : p.2.conn.terminating = false := by simpa using hterminating
    by_cases hcloses : l.closes = some s
    · exact .inr (.inl (mem_closedStreams_cons.mpr (.inl hcloses)))
    rcases opened_cons.mp hopened with hnow | hold
    · left
      have hends : ∀ {h m l}, ClosesCleanly h m l → FailureEndsDrive h l := fun ha => ha.1
      have hrefines := hstep.refines (Runs.staging hends hrun hbefore)
        (Runs.queued hends hrun hbefore) hsound
      have hbody : p.2.conn.records.body s = some {} := by
        rw [hrefines.records]
        exact Records.body_of_opens hnow
      intro hnone
      exact absurd ((congrArg (Option.map BodySource.view) hnone).symm.trans hbody) (by simp)
    · rcases ih s hold with hbody | hclosed | hwas
      · exact .inl (hstep.keeps_body hsound hafter hcloses hbody)
      · exact .inr (.inl (mem_closedStreams_cons.mpr (.inr hclosed)))
      · exact absurd (hstep.unterminated hsound hafter) (by simp [hwas])

/-- **A body is opened once.** -/
theorem Runs.opened_once (hrun : Runs host ClosesCleanly h m) (hbefore : m.conn.Sound)
    (hallowed : ClosesCleanly h m l) (hstep : Stepped m l p) (hsound : p.2.conn.Sound)
    {s : StreamId} (hopens : (happening ⟨m, l, p.1, p.2⟩).opens = some s) : ¬ Opened h s := by
  intro hopened
  rcases Runs.body_of_opened hrun hbefore s hopened with hbody | hclosed | hterminating
  · exact hbody (Runs.unopened hrun hbefore hallowed hstep hsound hopens)
  · exact (hstep.origin hsound).starts_open hallowed hclosed (Happening.starts_of_opens hopens)
  · exact absurd (hstep.usable_of_opens hsound hopens).2.2 (by simp [hterminating])

/-- **The accounts of a run.** A body that is there agrees with the account of
its stream, and a stream without an open body was not counted at all. -/
theorem Runs.tallied (hrun : Runs host ClosesCleanly h m) (hsound : m.conn.Sound) :
    ∀ s, (∀ b, (recordsAfter h).body s = some b → b.Tallied (tallyAfter h s)) ∧
      (¬ Opened h s → tallyAfter h s = {} ∧ (recordsAfter h).body s = none) := by
  refine Runs.induct_sound (I := fun h _ => ∀ s,
    (∀ b, (recordsAfter h).body s = some b → b.Tallied (tallyAfter h s)) ∧
      (¬ Opened h s → tallyAfter h s = {} ∧ (recordsAfter h).body s = none))
    (fun ha => ha.1) ?_ ?_ hrun hsound
  · exact fun s => ⟨fun b hb => absurd hb (by simp [recordsAfter, recordsOf]), fun _ => ⟨rfl, rfl⟩⟩
  · intro h m l p hrun hbefore ih hallowed hstep hsound s
    have hends : ∀ {h m l}, ClosesCleanly h m l → FailureEndsDrive h l := fun ha => ha.1
    have hpermits := Runs.permits hends hrun hbefore hstep hsound
    obtain ⟨htallied, hblank⟩ := ih s
    refine ⟨Records.tallied_record hpermits (fun hopens => ?_) htallied, fun hunopened => ?_⟩
    · exact (hblank (Runs.opened_once hrun hbefore hallowed hstep hsound hopens)).1
    · obtain ⟨hnot, hnever⟩ := not_or.mp (opened_cons.not.mp hunopened)
      obtain ⟨htally, hbody⟩ := hblank hnever
      refine ⟨?_, ?_⟩
      · change (tallyAfter h s).count s (happening ⟨m, l, p.1, p.2⟩) = {}
        rw [htally]
        exact Records.count_of_no_body hpermits hbody
      · by_contra hne
        rcases Records.opened_of_body hne with hold | hnow
        · exact hold hbody
        · exact hnot hnow

end Runs

end Ngh2
