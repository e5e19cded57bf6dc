import Mathlib.Algebra.Ring.Nat
import Ngh2.BodyFidelity
import Ngh2.Counted
import Ngh2.OutputStream

/-!
# Frames that were taken and frames that were returned

A limited `data_to_send` returns a prefix of what could be sent. What matters
to the caller who watches the queues is where the bytes are: those of a frame
of which nothing was returned should still be queued. This is why a body is
not read at a spent limit, and why the frame that does not fit is copied only
when part of it will be returned.

Every frame that was taken off a queue is entered with its place in the output
(`takenFrames`). The output is a stream (`handedOverBytes`), so a frame is a
stretch of it, and whether some or all of the frame was returned is a
comparison of two positions.

The engine hands over one frame at a time. It does not ask for the next before
the last is accepted to its end, and it offers a frame as soon as it has its
payload. Of the caller it is asked that a chunk fits the counter of its body:
`queued_body_size` says what the counter says.
-/

namespace Ngh2

open Nghttp2 Effect

/-! ## The frames -/

/-- **A DATA frame that was taken off a queue**: its stream, the length of its
payload, and where in the output it starts. -/
structure TakenFrame where
  streamId : StreamId
  length : Nat
  start : Nat
  deriving DecidableEq, Repr

/-- Where in the output a frame stops, behind its header and its payload. -/
def TakenFrame.stop (frame : TakenFrame) : Nat := frame.start + (9 + frame.length)

/-- A frame of which the first `n` bytes of the output hold some, but not
all. -/
def TakenFrame.Partial (frame : TakenFrame) (n : Nat) : Prop :=
  frame.start < n ∧ n < frame.stop

instance (frame : TakenFrame) (n : Nat) : Decidable (frame.Partial n) :=
  inferInstanceAs (Decidable (_ ∧ _))

/-- The payload a step copied into the engine's frame buffer: its stream and
its length. -/
def Entry.copies (e : Entry Machine Label Outcome) : Option (StreamId × Nat) :=
  match e.label, e.outcome.response with
  | .callback (.readBody s _) _, .replied reply =>
    if reply.noCopy = false ∧ 0 ≤ reply.code then some (s, reply.code.toNat) else none
  | _, _ => none

/-- The frame a step wrote to the output. -/
def Entry.written (e : Entry Machine Label Outcome) : Option (StreamId × Nat) :=
  match e.label, e.outcome.response with
  | .callback (.sendBody s _ _ length) _, .replied reply =>
    if reply.code = 0 then some (s, length) else none
  | _, _ => none

/-- The frame a step took, on either path. -/
def Entry.takes (e : Entry Machine Label Outcome) : Option (StreamId × Nat) :=
  (Entry.copies e).or (Entry.written e)

/-- **The frames taken so far**, newest first. -/
def takenFrames : History → List TakenFrame
  | [] => []
  | e :: h =>
    ((Entry.takes e).map fun f => ⟨f.1, f.2, (handedOverBytes h).length⟩).toList ++ takenFrames h

/-- How many payload bytes of a stream the frames of a list carry. -/
def payloadOf (frames : List TakenFrame) (s : StreamId) : Nat :=
  ((frames.filter fun frame => frame.streamId = s).map TakenFrame.length).sum

/-- How many payload bytes were taken off the queue of a stream. -/
def takenPayload (h : History) (s : StreamId) : Nat := payloadOf (takenFrames h) s

/-- The frames of which at least one byte was returned. -/
def returnedFrames (h : History) : List TakenFrame :=
  (takenFrames h).filter fun frame => frame.start < (returnedBytes h).length

/-- The frames of which every byte was returned. -/
def completeFrames (h : History) : List TakenFrame :=
  (takenFrames h).filter fun frame => frame.stop ≤ (returnedBytes h).length

/-- The frames of which some bytes were returned, but not all. -/
def partialFrames (h : History) : List TakenFrame :=
  (takenFrames h).filter fun frame => frame.Partial (returnedBytes h).length

/-- How many bytes the engine has prepared that were not accepted yet. -/
def outstanding : History → Nat
  | [] => 0
  | e :: h =>
    match e.label, e.outcome.response with
    | .callback (.collectOutput data) _, .replied reply => data.length - reply.code.toNat
    | _, _ => (((Entry.copies e).map fun f => 9 + f.2).getD (outstanding h))

/-- The payload the last step copied. -/
def copiedFrame (h : History) : Option (StreamId × Nat) := h.head?.bind Entry.copies

/-! ## What is assumed of the engine -/

/-- **One frame at a time**: a body is read when nothing is outstanding, and
what is offered while something is, is that. -/
def OffersInTurn (h : History) (l : Label) : Prop :=
  (∀ _ ∈ l.reads, outstanding h = 0) ∧
    ∀ data ∈ l.offers, outstanding h ≠ 0 → data.length = outstanding h

/-- **A frame is offered as soon as its payload is copied.** -/
def OffersCopied (h : History) (l : Label) : Prop :=
  copiedFrame h ≠ none → l.offers ≠ none

instance (h : History) (l : Label) : Decidable (OffersInTurn h l) :=
  inferInstanceAs (Decidable (_ ∧ _))

instance (h : History) (l : Label) : Decidable (OffersCopied h l) :=
  inferInstanceAs (Decidable (_ → _))

/-- What is assumed of the engine where it offers frames. -/
structure OffersFrames (h : History) (m : Machine) (l : Label) : Prop where
  cleanly : ClosesCleanly h m l
  writes : WritesAnnounced h l
  turn : OffersInTurn h l
  copied : OffersCopied h l

instance (h : History) (m : Machine) (l : Label) : Decidable (OffersFrames h m l) :=
  decidable_of_iff
    (ClosesCleanly h m l ∧ WritesAnnounced h l ∧ OffersInTurn h l ∧ OffersCopied h l)
    ⟨fun ⟨h₁, h₂, h₃, h₄⟩ => ⟨h₁, h₂, h₃, h₄⟩, fun ⟨h₁, h₂, h₃, h₄⟩ => ⟨h₁, h₂, h₃, h₄⟩⟩

theorem OffersFrames.ends {h : History} {m : Machine} {l : Label} (ha : OffersFrames h m l) :
    FailureEndsDrive h l := ha.cleanly.1

/-- The engine offers frames, and every chunk fits the counter of its body. -/
def OffersCounted (h : History) (m : Machine) (l : Label) : Prop :=
  OffersFrames h m l ∧ m.BodyCounted l

instance (h : History) (m : Machine) (l : Label) : Decidable (OffersCounted h m l) :=
  inferInstanceAs (Decidable (OffersFrames h m l ∧ m.BodyCounted l))

/-! ## What was taken was produced -/

/-- The bytes an answer carries are as many as it says, where it carries any. -/
theorem Body.answer_buffer_length (w : PointerWidth) (b : Body) (length : Nat) (copy : Bool) :
    (b.answer w length copy).buffer.length
      = if (b.answer w length copy).noCopy = false ∧ 0 ≤ (b.answer w length copy).code then
          (b.answer w length copy).code.toNat else 0 := by
  have hsome : (b.queue.take (min length b.queue.length)).length
      = ((min length b.queue.length : Nat) : Int).toNat := by
    rw [Int.toNat_natCast, List.length_take, min_assoc, min_self]
  unfold Body.answer
  dsimp only
  cases copy with
  | false => split <;> [rfl; split <;> rfl]
  | true =>
    split
    · exact hsome
    · split
      · next hnone =>
        rw [hnone]
        rfl
      · exact hsome

section Steps

variable {m : Machine} {l : Label} {p : Outcome × Machine}

/-- Only the two callbacks about bodies take frames. -/
theorem takes_eq_none {o : Outcome} {m' : Machine}
    (hread : ∀ s length env, l ≠ .callback (.readBody s length) env)
    (hwrite : ∀ s padlen frameHeader length env,
      l ≠ .callback (.sendBody s padlen frameHeader length) env) :
    Entry.takes ⟨m, l, o, m'⟩ = none := by
  cases l with
  | callback cb env =>
    cases cb with
    | readBody => exact absurd rfl (hread _ _ _)
    | sendBody => exact absurd rfl (hwrite _ _ _ _ _)
    | _ => rfl
  | request | ret => rfl

/-- A frame that was written was taken. -/
theorem takes_of_written {s : StreamId} {padlen length : Nat} {frameHeader : FrameHeader}
    {env : Env} (hresponse : p.1.response = .replied { code := 0 }) :
    Entry.takes ⟨m, .callback (.sendBody s padlen frameHeader length) env, p.1, p.2⟩
      = some (s, length) := by
  simp [Entry.takes, Entry.copies, Entry.written, hresponse]

/-- A payload that was copied does not wait to be written. -/
theorem announces_of_copies {e : Entry Machine Label Outcome} {f : StreamId × Nat}
    (h : Entry.copies e = some f) : Entry.announces e = none := by
  unfold Entry.copies at h
  split at h
  · next reply hlabel hresponse =>
    split at h
    · next hcopied => simp [Entry.announces, hlabel, hresponse, hcopied.1]
    · exact absurd h (by simp)
  · exact absurd h (by simp)

/-- The payload bytes of a stream a step took. -/
def Entry.payloadOf (e : Entry Machine Label Outcome) (s : StreamId) : Nat :=
  match Entry.takes e with
  | some (t, length) => if t = s then length else 0
  | none => 0

theorem takenPayload_cons {h : History} (e : Entry Machine Label Outcome) (s : StreamId) :
    takenPayload (e :: h) s = Entry.payloadOf e s + takenPayload h s := by
  unfold takenPayload payloadOf Entry.payloadOf
  rw [takenFrames]
  cases Entry.takes e with
  | none => simp
  | some f =>
    by_cases hs : f.1 = s <;> simp [hs]

/-- **A step produces the payload it takes.** -/
theorem Stepped.produces (h : Stepped m l p) (hst : m.Staging)
    (hq : m.conn.Queued m.host.pointerWidth) (hsound : p.2.conn.Sound) (t : Tally) (s : StreamId) :
    (t.count s (happening ⟨m, l, p.1, p.2⟩)).produced.length
      = Entry.payloadOf ⟨m, l, p.1, p.2⟩ s + t.produced.length := by
  by_cases hread : ∃ u length env, l = .callback (.readBody u length) env
  · obtain ⟨u, length, env, rfl⟩ := hread
    obtain ⟨reply, hresponse, hx, hcases⟩ := h.read hq hsound
    have hlength : reply.buffer.length
        = if reply.noCopy = false ∧ 0 ≤ reply.code then reply.code.toNat else 0 := by
      rcases hcases with ⟨rfl, -⟩ | ⟨b, copy, -, rfl, -⟩
      · rfl
      · exact b.answer_buffer_length _ length copy
    have htakes : Entry.takes ⟨m, .callback (.readBody u length) env, p.1, p.2⟩
        = if reply.noCopy = false ∧ 0 ≤ reply.code then some (u, reply.code.toNat) else none := by
      simp only [Entry.takes, Entry.copies, Entry.written, hresponse]
      exact Option.or_none
    rw [hx, Entry.payloadOf, htakes, Tally.count]
    by_cases hcopied : reply.noCopy = false ∧ 0 ≤ reply.code
    · rw [if_pos hcopied] at hlength ⊢
      by_cases hu : u = s
      · simp [hu, Tally.read, hlength, add_comm]
      · simp [hu]
    · rw [if_neg hcopied] at hlength ⊢
      by_cases hu : u = s
      · simp [hu, Tally.read, List.length_eq_zero_iff.mp hlength]
      · simp [hu]
  by_cases hwrite : ∃ u padlen frameHeader length env,
      l = .callback (.sendBody u padlen frameHeader length) env
  · obtain ⟨u, padlen, frameHeader, length, env, rfl⟩ := hwrite
    obtain ⟨hresponse, b, -, hle, hx⟩ := h.sent hst hq hsound
    rw [hx, Entry.payloadOf, takes_of_written hresponse, Tally.count]
    by_cases hu : u = s
    · simp [hu, Tally.sent, hle, add_comm]
    · simp [hu]
  · have hnone : Entry.takes ⟨m, l, p.1, p.2⟩ = none :=
      takes_eq_none (fun _ _ _ hl => hread ⟨_, _, _, hl⟩)
        (fun _ _ _ _ _ hl => hwrite ⟨_, _, _, _, _, hl⟩)
    rw [Entry.payloadOf, hnone, Nat.zero_add]
    have horigin := h.origin hsound
    rcases Tally.produced_count t s (happening ⟨m, l, p.1, p.2⟩) with hsame | ⟨_, _, hx⟩ | ⟨_, hx⟩
    · rw [hsame]
    · rw [hx] at horigin
      cases horigin with
      | read => exact absurd ⟨_, _, _, rfl⟩ hread
    · rw [hx] at horigin
      cases horigin with
      | sent => exact absurd ⟨_, _, _, _, _, rfl⟩ hwrite

/-! ## The place of a frame in the output -/

/-- **What `_collect_output` accepts**: nothing at a spent limit, and otherwise
what the limit allows. -/
theorem Stepped.collects {data : Bytes} {env : Env}
    (h : Stepped m (.callback (.collectOutput data) env) p) (hsound : p.2.conn.Sound) :
    ∃ reply, p.1.response = .replied reply ∧ reply.code.toNat ≤ data.length ∧
      (0 < m.conn.outputRemaining → data ≠ [] → 0 < reply.code.toNat) := by
  cases h with
  | callback driven hc =>
    rw [Machine.afterCallback_conn] at hsound
    cases hc with
    | failed spoiled deferred => exact absurd (deferred.symm.trans hsound.2) (by simp)
    | headerBlock kind => simp at kind
    | blocked spent =>
      refine ⟨_, rfl, Nat.zero_le _, fun hpositive => ?_⟩
      exact absurd hpositive (by simp [spent])
    | @collected _ accepted output unspent amount written fits =>
      refine ⟨_, rfl, ?_, fun hpositive hdata => ?_⟩
      · rw [Int.toNat_natCast, ← amount]
        exact m.conn.acceptable_le _
      · rw [Int.toNat_natCast, ← amount, Connection.acceptable, if_pos hpositive.le]
        exact lt_min (List.length_pos_iff.mpr hdata) (by omega)

/-- **A payload is copied only where part of its frame fits.** -/
theorem Stepped.fits_of_copies (h : Stepped m l p) {f : StreamId × Nat}
    (hcopies : Entry.copies ⟨m, l, p.1, p.2⟩ = some f)
    (hq : m.conn.Queued m.host.pointerWidth) (hsound : p.2.conn.Sound) :
    0 < p.2.conn.outputRemaining := by
  cases h with
  | request => simp [Entry.copies] at hcopies
  | ret => simp [Entry.copies] at hcopies
  | @callback cb env d session q driven hc =>
    rw [Machine.afterCallback_conn] at hsound ⊢
    cases hc with
    | failed spoiled deferred => exact absurd (deferred.symm.trans hsound.2) (by simp)
    | paused => simp [Entry.copies, Machine.afterCallback, errPause] at hcopies
    | @readWhole t n body body' reply is unspent opened whole finished =>
      have hanswer := (finished.whole (hq t body opened)).1
      simp [Entry.copies, Machine.afterCallback, hanswer] at hcopies
    | @readCopied t n body body' s' reply is unspent opened limited copied finished =>
      obtain ⟨hnonnegative, -⟩ := not_or.mp limited
      exact lt_of_le_of_ne (not_lt.mp hnonnegative) unspent.symm
    | headerBlock kind =>
      rcases kind with ⟨rfl, -⟩ | ⟨rfl, -⟩ | ⟨_, _, _, rfl, -⟩ <;> simp [Entry.copies] at hcopies
    | _ => simp [Entry.copies] at hcopies

/-- A frame that is written takes its header and its payload of the output. -/
theorem Stepped.handedOver_written {s : StreamId} {padlen length : Nat} {frameHeader : FrameHeader}
    {env : Env} (h : Stepped m (.callback (.sendBody s padlen frameHeader length) env) p)
    (hst : m.Staging) (hq : m.conn.Queued m.host.pointerWidth) (hsound : p.2.conn.Sound) :
    p.1.response = .replied { code := 0 } ∧
      (handedOver ⟨m, .callback (.sendBody s padlen frameHeader length) env, p.1, p.2⟩).length
        = 9 + length := by
  obtain ⟨hresponse, b, hb, hle, -⟩ := h.sent hst hq hsound
  refine ⟨hresponse, ?_⟩
  obtain ⟨body, hbody, rfl⟩ := Option.map_eq_some_iff.mp hb
  have hqueue : length ≤ body.queue.length := hle
  simp [handedOver, hresponse, hbody, frameHeader.property, hqueue]

end Steps

/-- How far the output has come. -/
abbrev position (h : History) : Nat := (handedOverBytes h).length

/-- **The frames are in their places**: one behind the other, inside of what
was handed over and what is outstanding, and begun, but for the frame whose
payload was copied by the last step, of which the limit allows some. -/
structure InPlace (h : History) (m : Machine) : Prop where
  apart : (takenFrames h).Pairwise fun newer older => older.stop ≤ newer.start
  inside : ∀ frame ∈ takenFrames h, frame.stop ≤ position h + outstanding h
  started : ∀ frame ∈ takenFrames h, frame.start ≤ position h
  begun : copiedFrame h = none → ∀ frame ∈ takenFrames h, frame.start < position h
  ready : copiedFrame h ≠ none → 0 < m.conn.outputRemaining ∧ 0 < outstanding h
  waiting : announcedFrame h ≠ none → outstanding h = 0

section Runs

variable {host : Host} {h : History} {m : Machine}

/-- Where nothing is collected, only a copy changes what is outstanding. -/
theorem outstanding_cons {e : Entry Machine Label Outcome}
    (hl : ∀ data env, e.label ≠ .callback (.collectOutput data) env) :
    outstanding (e :: h) = ((Entry.copies e).map fun f => 9 + f.2).getD (outstanding h) := by
  rw [outstanding]
  split
  · next hlabel _ => exact absurd hlabel (hl _ _)
  · rfl

/-- What a step leaves outstanding where it neither copies nor collects. -/
theorem InPlace.of_other {l : Label} {p : Outcome × Machine} (hin : InPlace h m)
    (hpending : copiedFrame h = none) (hhanded : handedOver ⟨m, l, p.1, p.2⟩ = [])
    (htakes : Entry.takes ⟨m, l, p.1, p.2⟩ = none)
    (hannounces : Entry.announces ⟨m, l, p.1, p.2⟩ ≠ none → outstanding h = 0)
    (houtstanding : outstanding (⟨m, l, p.1, p.2⟩ :: h) = outstanding h) :
    InPlace (⟨m, l, p.1, p.2⟩ :: h) p.2 := by
  have hframes : takenFrames (⟨m, l, p.1, p.2⟩ :: h) = takenFrames h := by
    rw [takenFrames, htakes]
    rfl
  have hposition : position (⟨m, l, p.1, p.2⟩ :: h) = position h := by
    rw [position, handedOverBytes, hhanded, List.append_nil]
  have hcopied : copiedFrame (⟨m, l, p.1, p.2⟩ :: h) = none :=
    (Option.or_eq_none_iff.mp htakes).1
  refine ⟨hframes ▸ hin.apart, ?_, ?_, ?_, fun hne => absurd hcopied hne, ?_⟩
  · rw [hframes, hposition, houtstanding]
    exact hin.inside
  · rw [hframes, hposition]
    exact hin.started
  · rw [hframes, hposition]
    exact fun _ => hin.begun hpending
  · rw [houtstanding]
    exact hannounces

/-- What a step leaves that takes a frame: it starts where the output had come
to. -/
theorem InPlace.of_taken {e : Entry Machine Label Outcome} {f : StreamId × Nat}
    (hin : InPlace h m) (hidle : outstanding h = 0) (hpending : copiedFrame h = none)
    (htakes : Entry.takes e = some f)
    (hroom : position h + (9 + f.2) = position (e :: h) + outstanding (e :: h))
    (hbegun : copiedFrame (e :: h) = none → position h < position (e :: h))
    (hready : copiedFrame (e :: h) ≠ none →
      0 < e.after.conn.outputRemaining ∧ 0 < outstanding (e :: h))
    (hwaiting : announcedFrame (e :: h) ≠ none → outstanding (e :: h) = 0) :
    InPlace (e :: h) e.after := by
  have hframes : takenFrames (e :: h) = ⟨f.1, f.2, position h⟩ :: takenFrames h := by
    rw [takenFrames, htakes]
    rfl
  have hmono : position h ≤ position (e :: h) := by
    rw [position, position, handedOverBytes, List.length_append]
    exact Nat.le_add_right _ _
  have hbefore : ∀ frame ∈ takenFrames h, frame.stop ≤ position h := by
    intro frame hframe
    have hstop := hin.inside frame hframe
    rwa [hidle, Nat.add_zero] at hstop
  constructor
  · rw [hframes]
    exact List.pairwise_cons.mpr ⟨hbefore, hin.apart⟩
  · rw [hframes, ← hroom]
    intro frame hframe
    rcases List.mem_cons.mp hframe with rfl | hframe
    · exact le_rfl
    · exact (hbefore frame hframe).trans (Nat.le_add_right _ _)
  · rw [hframes]
    intro frame hframe
    rcases List.mem_cons.mp hframe with rfl | hframe
    · exact hmono
    · exact (hin.started frame hframe).trans hmono
  · rw [hframes]
    intro hnone frame hframe
    rcases List.mem_cons.mp hframe with rfl | hframe
    · exact hbegun hnone
    · exact (hin.begun hpending frame hframe).trans_le hmono
  · exact hready
  · exact hwaiting

/-- What a step leaves that collects output. -/
theorem InPlace.of_collected {data : Bytes} {env : Env} {p : Outcome × Machine} {reply : Reply}
    (hin : InPlace h m) (hturn : outstanding h ≠ 0 → data.length = outstanding h)
    (hresponse : p.1.response = .replied reply) (hle : reply.code.toNat ≤ data.length)
    (hsome : 0 < m.conn.outputRemaining → data ≠ [] → 0 < reply.code.toNat) :
    InPlace (⟨m, .callback (.collectOutput data) env, p.1, p.2⟩ :: h) p.2 := by
  have hposition : position (⟨m, .callback (.collectOutput data) env, p.1, p.2⟩ :: h)
      = position h + reply.code.toNat := by
    simp [position, handedOverBytes, handedOver, hresponse, hle]
  have houtstanding : outstanding (⟨m, .callback (.collectOutput data) env, p.1, p.2⟩ :: h)
      = data.length - reply.code.toNat := by
    simp [outstanding, hresponse]
  have hroom : position h + outstanding h
      ≤ position h + reply.code.toNat + (data.length - reply.code.toNat) := by
    by_cases hidle : outstanding h = 0
    · omega
    · rw [← hturn hidle]
      omega
  refine ⟨hin.apart, ?_, ?_, ?_, fun hne => absurd rfl hne, fun hne => absurd rfl hne⟩
  · rw [hposition, houtstanding]
    exact fun frame hframe => (hin.inside frame hframe).trans hroom
  · rw [hposition]
    exact fun frame hframe => (hin.started frame hframe).trans (Nat.le_add_right _ _)
  · rw [hposition]
    intro _ frame hframe
    by_cases hpending : copiedFrame h = none
    · exact (hin.begun hpending frame hframe).trans_le (Nat.le_add_right _ _)
    · -- the frame that was copied is begun now
      obtain ⟨hremaining, hready⟩ := hin.ready hpending
      have hdata : data ≠ [] := by
        rintro rfl
        exact absurd (hturn hready.ne') hready.ne
      have hpositive := hsome hremaining hdata
      have hstart := hin.started frame hframe
      show frame.start < position h + reply.code.toNat
      omega

/-- **Every step keeps the frames in their places.** -/
theorem InPlace.step {l : Label} {p : Outcome × Machine} (hin : InPlace h m)
    (hallowed : OffersFrames h m l) (hstep : Stepped m l p) (hst : m.Staging)
    (hq : m.conn.Queued m.host.pointerWidth) (hsound : p.2.conn.Sound) :
    InPlace (⟨m, l, p.1, p.2⟩ :: h) p.2 := by
  -- a copied payload is offered before anything else happens
  have hpending (hl : ∀ data env, l ≠ .callback (.collectOutput data) env) :
      copiedFrame h = none := by
    by_contra hne
    have hoffers := hallowed.copied hne
    unfold Label.offers at hoffers
    split at hoffers
    · exact absurd rfl (hl _ _)
    · exact hoffers rfl
  by_cases hcollect : ∃ data env, l = .callback (.collectOutput data) env
  · obtain ⟨data, env, rfl⟩ := hcollect
    obtain ⟨reply, hresponse, hle, hsome⟩ := hstep.collects hsound
    exact hin.of_collected (hallowed.turn.2 _ rfl) hresponse hle hsome
  have hnone := hpending fun data env hl => hcollect ⟨data, env, hl⟩
  have hcons := outstanding_cons (h := h) (e := ⟨m, l, p.1, p.2⟩)
    fun data env hl => hcollect ⟨data, env, hl⟩
  by_cases hwrite : ∃ s padlen frameHeader length env,
      l = .callback (.sendBody s padlen frameHeader length) env
  · obtain ⟨s, padlen, frameHeader, length, env, rfl⟩ := hwrite
    obtain ⟨hresponse, hlength⟩ := hstep.handedOver_written hst hq hsound
    have hidle : outstanding h = 0 := hin.waiting (by
      rw [announcedFrame, hallowed.writes.2]
      simp)
    have hposition : position (⟨m, .callback (.sendBody s padlen frameHeader length) env, p.1, p.2⟩
        :: h) = position h + (9 + length) := by
      rw [position, handedOverBytes, List.length_append, hlength]
    refine hin.of_taken hidle hnone (takes_of_written hresponse) ?_ ?_ (fun hne => absurd rfl hne)
      (fun hne => absurd rfl hne)
    · rw [hposition, hcons]
      exact hidle.symm ▸ rfl
    · intro _
      omega
  have hsame : handedOver ⟨m, l, p.1, p.2⟩ = [] := by
    unfold handedOver
    split
    · next hlabel _ => exact absurd ⟨_, _, hlabel⟩ hcollect
    · next hlabel _ => exact absurd ⟨_, _, _, _, _, hlabel⟩ hwrite
    · rfl
  by_cases hread : ∃ s length env, l = .callback (.readBody s length) env
  · obtain ⟨s, length, env, rfl⟩ := hread
    have hidle : outstanding h = 0 := hallowed.turn.1 _ rfl
    cases hcopies : Entry.copies ⟨m, .callback (.readBody s length) env, p.1, p.2⟩ with
    | none =>
      refine hin.of_other hnone hsame (Option.or_eq_none_iff.mpr ⟨hcopies, rfl⟩)
        (fun _ => hidle) ?_
      rw [hcons, hcopies]
      rfl
    | some f =>
      rw [hcopies] at hcons
      have hcopied : copiedFrame (⟨m, .callback (.readBody s length) env, p.1, p.2⟩ :: h)
          = some f := hcopies
      refine hin.of_taken hidle hnone (by rw [Entry.takes, hcopies]; rfl) ?_
        (fun hne => absurd (hcopied.symm.trans hne) (by simp)) (fun _ => ?_) (fun hne => ?_)
      · rw [hcons, position, position, handedOverBytes, hsame, List.append_nil]
        rfl
      · rw [hcons]
        exact ⟨hstep.fits_of_copies hcopies hq hsound, Nat.add_pos_left (by decide) _⟩
      · exact absurd (announces_of_copies hcopies) hne
  · have hnotRead (s : StreamId) (length : Nat) (env : Env) :
        l ≠ .callback (.readBody s length) env := fun hl => hread ⟨_, _, _, hl⟩
    have htakes : Entry.takes ⟨m, l, p.1, p.2⟩ = none :=
      takes_eq_none hnotRead fun _ _ _ _ _ hl => hwrite ⟨_, _, _, _, _, hl⟩
    refine hin.of_other hnone hsame htakes (fun hne => ?_) ?_
    · refine absurd ?_ hne
      unfold Entry.announces
      split
      · next hlabel _ => exact absurd hlabel (hnotRead _ _ _)
      · rfl
    · rw [hcons, (Option.or_eq_none_iff.mp htakes).1]
      rfl

/-- The frames are in their places in every sound state of every run. -/
theorem Runs.inPlace (hrun : Runs host OffersFrames h m) (hsound : m.conn.Sound) :
    InPlace h m := by
  refine Runs.induct_sound (I := fun h m => InPlace h m) OffersFrames.ends ?_ ?_ hrun hsound
  · exact ⟨.nil, fun _ h => absurd h List.not_mem_nil, fun _ h => absurd h List.not_mem_nil,
      fun _ _ h => absurd h List.not_mem_nil, fun h => absurd rfl h, fun _ => rfl⟩
  · intro h m l p hrun hbefore hin hallowed hstep hsound
    exact hin.step hallowed hstep (Runs.staging OffersFrames.ends hrun hbefore)
      (Runs.queued OffersFrames.ends hrun hbefore) hsound

/-- **The payload that was taken was produced.** -/
theorem Runs.takenPayload_eq (hrun : Runs host OffersFrames h m) (hsound : m.conn.Sound)
    (s : StreamId) : takenPayload h s = (tallyAfter h s).produced.length := by
  refine Runs.induct_sound
    (I := fun h _ => takenPayload h s = (tallyAfter h s).produced.length)
    OffersFrames.ends rfl ?_ hrun hsound
  intro h m l p hrun hbefore ih _ hstep hsound
  rw [takenPayload_cons, ih, tallyAfter_cons]
  exact (hstep.produces (Runs.staging OffersFrames.ends hrun hbefore)
    (Runs.queued OffersFrames.ends hrun hbefore) hsound _ s).symm

/-- **No two frames are returned in part**: they would overlap. -/
theorem InPlace.partial_unique (hin : InPlace h m) (n : Nat) :
    ((takenFrames h).filter fun frame => frame.Partial n).length ≤ 1 := by
  have hapart := hin.apart.filter fun frame => decide (frame.Partial n)
  have hbroken : ∀ frame ∈ (takenFrames h).filter fun frame => decide (frame.Partial n),
      frame.Partial n := fun frame hframe => of_decide_eq_true (List.mem_filter.mp hframe).2
  generalize ((takenFrames h).filter fun frame => decide (frame.Partial n)) = frames
    at hapart hbroken ⊢
  cases frames with
  | nil => exact Nat.zero_le _
  | cons newer rest =>
    cases rest with
    | nil => exact le_rfl
    | cons older rest =>
      have hbehind : older.stop ≤ newer.start :=
        List.rel_of_pairwise_cons hapart List.mem_cons_self
      have hnewer := (hbroken newer List.mem_cons_self).1
      have holder := (hbroken older (List.mem_cons_of_mem _ List.mem_cons_self)).2
      omega

/-- What was copied is offered before the drive comes back. -/
theorem Runs.copiedFrame_idle {Allowed : History → Machine → Label → Prop}
    (hrun : Runs host Allowed h m) (hidle : m.drive = none) : copiedFrame h = none := by
  cases hrun with
  | start => rfl
  | @extend h' m' _ l o prior allowed taken =>
    have hstep := Machine.stepped taken
    cases l with
    | callback cb env =>
      obtain ⟨d, session, -, hdriven⟩ := hstep.callback_drive
      exact absurd (hdriven.symm.trans hidle) (by simp)
    | request | ret => rfl

end Runs

/-! ## The theorem -/

/-- **A limited drive takes nothing it does not start returning**, of the state
a call left and its history. -/
structure DriveAccounted (h : History) (m : Machine) : Prop where
  /-- Of every frame that was taken, at least one byte was returned. -/
  returned : returnedFrames h = takenFrames h
  /-- For every stream with a body, what is queued and the payloads of the
  frames of which at least one byte was returned make up what was queued for
  it. -/
  accounts : ∀ s body, m.conn.bodies.lookup s = some body →
    (tallyAfter h s).accepted.length = body.queuedSize + payloadOf (returnedFrames h) s
  /-- Where no frame is returned in part, the frames in question are returned
  whole. -/
  whole : ∀ s body, m.conn.bodies.lookup s = some body → partialFrames h = [] →
    (tallyAfter h s).accepted.length = body.queuedSize + payloadOf (completeFrames h) s
  /-- `queued_body_size` says what is queued. -/
  size : ∀ s body, m.conn.bodies.lookup s = some body → ∀ env,
    ((Request.queuedBodySize (some s)).body.run env m.world).1
      = .ok (.value (.number body.queuedSize))
  /-- At most one frame is returned in part. -/
  partly : (partialFrames h).length ≤ 1

/-- Where there were only calls, no frame was taken, nor is one about to be. -/
theorem NoCallbacks.takenFrames_eq (hquiet : NoCallbacks h) :
    takenFrames h = [] ∧ copiedFrame h = none := by
  have hnone {e : Entry Machine Label Outcome} (he : Entry.isRequest e = true) :
      Entry.copies e = none ∧ Entry.takes e = none := by
    obtain ⟨⟨r, env, hlabel⟩, -⟩ := Entry.of_isRequest he
    unfold Entry.takes Entry.copies Entry.written
    rw [hlabel]
    exact ⟨rfl, rfl⟩
  induction h with
  | nil => exact ⟨rfl, rfl⟩
  | cons e h ih =>
    obtain ⟨hcopies, htakes⟩ := hnone (hquiet e List.mem_cons_self)
    refine ⟨?_, hcopies⟩
    rw [takenFrames, htakes, (ih hquiet.tail).1]
    rfl

/-- A step that reads nothing and writes nothing assumes nothing more of the
engine where there were only calls. -/
theorem NoCallbacks.offers (hquiet : NoCallbacks h) {l : Label} (hcloses : l.closes = none)
    (hreports : ∀ h, ClosedUnreported h l) (hfresh : ∀ h, FreshIds h l)
    (hwrites : ∀ h, WritesAnnounced h l) (hreads : l.reads = none) (hoffers : l.offers = none) :
    OffersFrames h m l where
  cleanly := hquiet.cleanly hcloses hreports hfresh
  writes := hwrites h
  turn := ⟨fun _ hread => absurd hread (by simp [hreads]),
    fun _ hoffer => absurd hoffer (by simp [hoffers])⟩
  copied := fun hcopied => absurd hquiet.takenFrames_eq.2 hcopied

/-- Taking the output leaves the account of a body, and no frame comes with
it. -/
theorem tallyAfter_taken {env : Env} {o : Outcome} (s : StreamId) :
    tallyAfter (⟨m, .ret 0 env, o, m.taken⟩ :: h) s = tallyAfter h s ∧
      takenFrames (⟨m, .ret 0 env, o, m.taken⟩ :: h) = takenFrames h := by
  have hhappening : happening ⟨m, .ret 0 env, o, m.taken⟩ = .nothing :=
    if_neg fun ⟨hopen, hclosed⟩ => absurd (hopen.symm.trans hclosed) (by simp)
  refine ⟨?_, rfl⟩
  rw [tallyAfter_cons, hhappening]
  rfl

/-- A client whose output stops inside of a payload. -/
def stoppedInside : List Label := [
  .request (.init .client {}) (.accepting []),
  .request (.initiateConnection []) (.accepting []),
  .request (.sendRequest [] false) (.accepting [(.sessionCheckRequestAllowed, 1),
    (.submitRequest2 [] true, 1)]),
  .request (.sendData 1 [1, 2, 3, 4] true) (.accepting []),
  .request (.dataToSend (some 10)) (.accepting []),
  .callback (.readBody 1 2) (.accepting []),
  .callback (.collectOutput [0, 0, 2, 0, 0, 0, 0, 0, 1, 1, 2]) (.accepting []),
  .callback (.collectOutput [2]) (.accepting []),
  .ret 0 (.accepting [])]

end Ngh2
