import Ngh2.BodyFidelity

/-!
# The DATA frames of a body

What the peer sees of a body are frames, and an end. A frame carries the bytes
that were copied when the body was read, or the bytes that were written to the
output one step later, and END_STREAM if it ends the stream: `framesOn` puts the
frames of one stream together, whichever way they took.

The payloads of these frames are what was produced of the body, so they are the
beginning of what was accepted for it. At most the last of them ends the stream,
and if it does, they are all of it (`Runs.framed`).
-/

namespace Ngh2

open Nghttp2 Effect

/-- Whether a frame with this reply ends the stream: trailers would end it
otherwise. -/
def Reply.endsStream (reply : Reply) : Bool := reply.eof && !reply.noEndStream

/-- Whether the frame that waits to be written ends its stream. -/
def announcedEnd (h : History) : Bool :=
  match h.head?.map happening with
  | some (.read _ _ reply) => reply.endsStream
  | _ => false

/-- **The frame that a happening sends on a stream**: its payload, and whether
it ends the stream. -/
def frameOn (s : StreamId) (h : History) : Happening → List (Bytes × Bool)
  | .read u _ reply =>
    if u = s ∧ reply.noCopy = false ∧ 0 ≤ reply.code then [(reply.buffer, reply.endsStream)] else []
  | .sent u data => if u = s then [(data, announcedEnd h)] else []
  | _ => []

/-- **The DATA frames sent on a stream**, oldest first. -/
def framesOn (s : StreamId) : History → List (Bytes × Bool)
  | [] => []
  | e :: h => framesOn s h ++ frameOn s h (happening e)

/-- **A body was sent to its end**: the end was asked for, without trailers, and
all bytes are out. -/
structure Tally.Spent (t : Tally) : Prop where
  endings : t.endings ≠ 0
  ended : t.ended = true
  trailers : t.trailers = none
  bytes : t.produced = t.accepted

/-- **The frames of a stream agree with its account.** -/
structure FramesAgree (h : History) (s : StreamId) : Prop where
  bytes : ((framesOn s h).map Prod.fst).flatten = (tallyAfter h s).produced
  within : (tallyAfter h s).produced <+: (tallyAfter h s).accepted
  last : ∀ f ∈ (framesOn s h).dropLast, f.2 = false
  whole : (∃ f ∈ framesOn s h, f.2 = true) →
    (tallyAfter h s).Spent ∧ ∀ n, announcedFrame h ≠ some (s, n)
  waits : ∀ n, announcedFrame h = some (s, n) → announcedEnd h = true →
    (tallyAfter h s).endings ≠ 0 ∧ (tallyAfter h s).trailers = none

/-- The bytes of an answer are those of its frame. -/
theorem Body.answer_frame (w : PointerWidth) (b : Body) (length : Nat) (copy : Bool)
    (h : ¬ ((b.answer w length copy).noCopy = false ∧ 0 ≤ (b.answer w length copy).code)) :
    (b.answer w length copy).buffer = [] := by
  cases copy with
  | false => simp
  | true =>
    have hcode : ¬ 0 ≤ (b.answer w length true).code := fun hcode => h ⟨by simp, hcode⟩
    rw [Body.answer_buffer, if_pos rfl]
    by_cases hzero : min length b.queue.length = 0
    · rw [hzero, List.take_zero]
    · refine absurd ?_ hcode
      unfold Body.answer
      dsimp only
      rw [Body.available_copied, if_neg hzero]
      split <;> exact Int.natCast_nonneg _

section Agree

variable {h : History} {s : StreamId} {e : Entry Machine Label Outcome}

/-- A step that sends no frame on a stream and leaves its account alone. -/
theorem FramesAgree.other (ha : FramesAgree h s) (hframe : frameOn s h (happening e) = [])
    (htally : (tallyAfter h s).count s (happening e) = tallyAfter h s)
    (hannounced : ∀ n, announcedFrame (e :: h) ≠ some (s, n)) : FramesAgree (e :: h) s := by
  have hframes : framesOn s (e :: h) = framesOn s h := by
    rw [framesOn, hframe, List.append_nil]
  have htally' : tallyAfter (e :: h) s = tallyAfter h s := by rw [tallyAfter_cons, htally]
  refine ⟨?_, ?_, ?_, fun hflag => ⟨?_, hannounced⟩, fun n hn => absurd hn (hannounced n)⟩
  · rw [hframes, htally']
    exact ha.bytes
  · rw [htally']
    exact ha.within
  · rw [hframes]
    exact ha.last
  · rw [hframes] at hflag
    rw [htally']
    exact (ha.whole hflag).1

/-- A step that adds a frame to a body that had none that ended it. -/
theorem FramesAgree.sent (ha : FramesAgree h s) {f : Bytes × Bool} {t : Tally}
    (hframe : frameOn s h (happening e) = [f])
    (htally : (tallyAfter h s).count s (happening e) = t)
    (hproduced : t.produced = (tallyAfter h s).produced ++ f.1)
    (hwithin : t.produced <+: t.accepted) (hopen : ∀ g ∈ framesOn s h, g.2 = false)
    (hspent : f.2 = true → t.Spent) (hannounced : ∀ n, announcedFrame (e :: h) ≠ some (s, n)) :
    FramesAgree (e :: h) s := by
  have hframes : framesOn s (e :: h) = framesOn s h ++ [f] := by rw [framesOn, hframe]
  have htally' : tallyAfter (e :: h) s = t := by rw [tallyAfter_cons, htally]
  refine ⟨?_, ?_, ?_, ?_, fun n hn => absurd hn (hannounced n)⟩
  · rw [hframes, htally', hproduced, ← ha.bytes]
    simp
  · rw [htally']
    exact hwithin
  · rw [hframes, List.dropLast_concat]
    exact hopen
  · rintro ⟨g, hg, hflag⟩
    rw [hframes, List.mem_append, List.mem_singleton] at hg
    rw [htally']
    refine ⟨?_, hannounced⟩
    rcases hg with hg | rfl
    · exact absurd (hopen g hg) (by simp [hflag])
    · exact hspent hflag

end Agree

section Runs

variable {host : Host} {h : History} {m : Machine} {l : Label} {p : Outcome × Machine}
  {s : StreamId}

/-- A frame that waits was left by a read. -/
theorem happening_of_announced {e : Entry Machine Label Outcome} {n : Nat}
    (hn : announcedFrame (e :: h) = some (s, n)) :
    ∃ length reply, happening e = .read s length reply ∧ reply.noCopy = true ∧ 0 ≤ reply.code := by
  obtain ⟨m, l, o, m'⟩ := e
  replace hn : Entry.announces ⟨m, l, o, m'⟩ = some (s, n) := hn
  unfold Entry.announces at hn
  dsimp only at hn
  split at hn
  · next u length env reply hresponse =>
    split at hn
    · next hcopy =>
      obtain ⟨rfl, -⟩ := Prod.mk.inj (Option.some.inj hn)
      have hcode : reply.code ≠ errCallbackFailure := by
        intro heq
        exact absurd hcopy.2 (by simp [heq, errCallbackFailure])
      refine ⟨length, reply, ?_, hcopy⟩
      simp only [happening, hresponse, Callback.happening]
      exact if_neg hcode
    · exact absurd hn (by simp)
  · exact absurd hn (by simp)

/-- An answer that gives no bytes now and later none changes no account. -/
theorem Body.read_deferred {w : PointerWidth} {t : Tally} {b : Body} {length : Nat} {copy : Bool}
    (hcounted : b.queue.length < w.modulus) (h : (b.answer w length copy).code < 0) :
    t.read (b.answer w length copy) = t := by
  have heof : (b.answer w length copy).eof = false := by
    by_contra hne
    obtain ⟨-, hanswer⟩ := Body.answer_of_eof hcounted (Bool.not_eq_false _ ▸ hne)
    rw [hanswer] at h
    exact absurd (Int.natCast_nonneg b.queue.length) (not_le.mpr h)
  have hbuffer : (b.answer w length copy).buffer = [] :=
    b.answer_frame w length copy fun hcode => absurd hcode.2 (not_le.mpr h)
  rw [Tally.read, heof, hbuffer, List.append_nil]
  rfl

section Step

variable {t : Tally}

/-- Bytes, an end or trailers are asked for on a body that is open. -/
theorem FramesAgree.asked {e : Entry Machine Label Outcome} (ha : FramesAgree h s)
    (hframe : frameOn s h (happening e) = [])
    (htally : (tallyAfter h s).count s (happening e) = t)
    (hproduced : t.produced = (tallyAfter h s).produced)
    (hwithin : (tallyAfter h s).accepted <+: t.accepted)
    (hopen : (tallyAfter h s).ended = false)
    (hannounced : ∀ n, announcedFrame (e :: h) ≠ some (s, n)) : FramesAgree (e :: h) s := by
  have hframes : framesOn s (e :: h) = framesOn s h := by
    rw [framesOn, hframe, List.append_nil]
  have htally' : tallyAfter (e :: h) s = t := by rw [tallyAfter_cons, htally]
  refine ⟨?_, ?_, ?_, fun hflag => ?_, fun n hn => absurd hn (hannounced n)⟩
  · rw [hframes, htally', hproduced]
    exact ha.bytes
  · rw [htally', hproduced]
    exact ha.within.trans hwithin
  · rw [hframes]
    exact ha.last
  · rw [hframes] at hflag
    exact absurd (ha.whole hflag).1.ended (by simp [hopen])

/-- The frames that do not end a stream whose end was not signalled. -/
theorem FramesAgree.unended (ha : FramesAgree h s) (hopen : (tallyAfter h s).endings = 0) :
    ∀ f ∈ framesOn s h, f.2 = false := by
  intro f hf
  by_contra hne
  exact (ha.whole ⟨f, hf, by simpa using hne⟩).1.endings hopen

/-- **A body is read.** -/
theorem FramesAgree.read {e : Entry Machine Label Outcome} (ha : FramesAgree h s) {b : Body}
    (hb : b.Tallied (tallyAfter h s)) (hopen : (tallyAfter h s).endings = 0) {w : PointerWidth}
    {length : Nat} {copy : Bool} (hcounted : b.queue.length < w.modulus)
    (hx : happening e = .read s length (b.answer w length copy)) :
    FramesAgree (e :: h) s := by
  have htally : (tallyAfter h s).count s (happening e)
      = (tallyAfter h s).read (b.answer w length copy) := by
    rw [hx]
    exact if_pos rfl
  have hafter : (b.answered (b.answer w length copy)).Tallied
      ((tallyAfter h s).read (b.answer w length copy)) := hb.answered length copy
  have hwithin : ((tallyAfter h s).read (b.answer w length copy)).produced
      <+: ((tallyAfter h s).read (b.answer w length copy)).accepted :=
    hafter.bytes ▸ List.prefix_append _ _
  -- what it takes for the answer to end the stream
  have hends (hflag : (b.answer w length copy).endsStream = true) :
      ((tallyAfter h s).read (b.answer w length copy)).endings ≠ 0 ∧
        (tallyAfter h s).ended = true ∧ (tallyAfter h s).trailers = none ∧
        (b.answer w length copy).buffer = if copy then b.queue else [] := by
    obtain ⟨heof, hno⟩ := Bool.and_eq_true_iff.mp hflag
    obtain ⟨hended, hanswer⟩ := Body.answer_of_eof hcounted heof
    have htrailers : b.trailers = none := by
      rw [hanswer] at hno
      simpa using hno
    refine ⟨?_, hb.ended ▸ hended, hb.trailers hopen ▸ htrailers, by rw [hanswer]⟩
    rw [Tally.read, heof]
    exact Nat.succ_ne_zero _
  by_cases hcode : (b.answer w length copy).code < 0
  · -- nothing to give: the source sleeps
    refine ha.other ?_ (htally.trans (Body.read_deferred hcounted hcode)) fun n hn => ?_
    · rw [hx]
      exact if_neg fun h => absurd h.2.2 (not_le.mpr hcode)
    · obtain ⟨length', reply, hx', -, hnonneg⟩ := happening_of_announced hn
      obtain ⟨-, -, rfl⟩ := Happening.read.inj (hx.symm.trans hx')
      exact absurd hnonneg (not_le.mpr hcode)
  · cases copy with
    | true =>
      refine ha.sent
        (f := ((b.answer w length true).buffer, (b.answer w length true).endsStream)) ?_
        htally rfl hwithin (ha.unended hopen) (fun hflag => ?_) fun n hn => ?_
      · rw [hx]
        exact if_pos ⟨rfl, by simp, not_lt.mp hcode⟩
      · obtain ⟨hendings, hended, htrailers, hbuffer⟩ := hends hflag
        refine ⟨hendings, hended, htrailers, ?_⟩
        show (tallyAfter h s).produced ++ (b.answer w length true).buffer
          = (tallyAfter h s).accepted
        rw [hbuffer, if_pos rfl, hb.bytes]
      · obtain ⟨length', reply, hx', hcopy, -⟩ := happening_of_announced hn
        obtain ⟨-, -, rfl⟩ := Happening.read.inj (hx.symm.trans hx')
        exact absurd hcopy (by simp)
    | false =>
      -- the frame waits
      have hframes : framesOn s (e :: h) = framesOn s h := by
        rw [framesOn, hx, frameOn, if_neg (by simp), List.append_nil]
      have hbuffer : (b.answer w length false).buffer = [] := by simp
      have htally' : tallyAfter (e :: h) s = (tallyAfter h s).read (b.answer w length false) := by
        rw [tallyAfter_cons, htally]
      refine ⟨?_, ?_, ?_, fun hflag => ?_, fun n _ hflag => ?_⟩
      · rw [hframes, htally', Tally.read, hbuffer, List.append_nil]
        exact ha.bytes
      · rw [htally']
        exact hwithin
      · rw [hframes]
        exact ha.last
      · rw [hframes] at hflag
        obtain ⟨f, hf, hf'⟩ := hflag
        exact absurd (ha.unended hopen f hf) (by simp [hf'])
      · have hflag : (b.answer w length false).endsStream = true := by
          simpa [announcedEnd, hx] using hflag
        obtain ⟨hendings, -, htrailers, -⟩ := hends hflag
        rw [htally']
        exact ⟨hendings, htrailers⟩

end Step

/-- **The frames of a run agree with its accounts.** -/
theorem Runs.framed (hrun : Runs host TakesCounted h m) (hsound : m.conn.Sound) :
    ∀ s, FramesAgree h s := by
  refine Runs.induct_sound (I := fun h _ => ∀ s, FramesAgree h s) TakesCounted.ends (fun s => ?_) ?_
    hrun hsound
  · exact ⟨rfl, List.prefix_rfl, fun f hf => absurd hf List.not_mem_nil,
      fun h => absurd h (by simp [framesOn]), fun n hn => absurd hn (by simp [announcedFrame])⟩
  intro h m l p hrun hbefore ih hallowed hstep hsound s
  have ha := ih s
  have hclean : Runs host ClosesCleanly h m := hrun.mono fun ha => ha.1.cleanly
  have hpermits := Runs.permits TakesCounted.ends hrun hbefore hstep hsound
  have horigin := hstep.origin hsound
  have hq := Runs.queued TakesCounted.ends hrun hbefore
  have hrecords := (Runs.records_eq TakesCounted.ends hrun hbefore).2
  have hcounted := Runs.records_counted TakesCounted.ends (fun ha => ha.2) hrun hbefore
  have htallied : ∀ b, (recordsAfter h).body s = some b → b.Tallied (tallyAfter h s) :=
    (Runs.tallied hclean hbefore s).1
  have hnone (hx : ∀ length reply, happening ⟨m, l, p.1, p.2⟩ ≠ .read s length reply) (n : Nat) :
      announcedFrame (⟨m, l, p.1, p.2⟩ :: h) ≠ some (s, n) := by
    intro hn
    obtain ⟨length, reply, hread, -⟩ := happening_of_announced hn
    exact hx length reply hread
  -- what the body of the stream is told to take
  have hopenBody {b : Body} (hb : (recordsAfter h).body s = some b) (hopen : b.ended = false) :
      (tallyAfter h s).ended = false := (htallied b hb).ended ▸ hopen
  generalize hx : happening ⟨m, l, p.1, p.2⟩ = x at hpermits horigin hnone
  have hother (hframe : frameOn s h x = []) (htally : (tallyAfter h s).count s x = tallyAfter h s)
      (hread : ∀ length reply, x ≠ .read s length reply) : FramesAgree (⟨m, l, p.1, p.2⟩ :: h) s :=
    ha.other (hx ▸ hframe) (hx ▸ htally) (hnone hread)
  cases x with
  | message u message =>
    by_cases hu : u = s
    · subst hu
      cases message with
      | data chunk endStream =>
        obtain ⟨b, hb, hopen⟩ := hpermits
        exact ha.asked (t := (tallyAfter h u).message (.data chunk endStream)) (by rw [hx]; rfl)
          (by rw [hx]; exact if_pos rfl) rfl (List.prefix_append _ _) (hopenBody hb hopen)
          (hnone (by simp))
      | trailers headers =>
        obtain ⟨b, hb, hopen⟩ := hpermits
        exact ha.asked (t := (tallyAfter h u).message (.trailers headers)) (by rw [hx]; rfl)
          (by rw [hx]; exact if_pos rfl) rfl List.prefix_rfl (hopenBody hb hopen) (hnone (by simp))
      | _ => exact hother rfl (if_pos rfl) (by simp)
    · exact hother rfl (if_neg hu) (by simp)
  | stuck u message =>
    by_cases hu : u = s
    · subst hu
      cases message with
      | data chunk endStream =>
        obtain ⟨b, hb, hopen, -⟩ := hpermits
        exact ha.asked (t := (tallyAfter h u).message (.data chunk endStream)) (by rw [hx]; rfl)
          (by rw [hx]; exact if_pos rfl) rfl (List.prefix_append _ _) (hopenBody hb hopen)
          (hnone (by simp))
      | trailers headers =>
        obtain ⟨b, hb, hopen, -⟩ := hpermits
        exact ha.asked (t := (tallyAfter h u).message (.trailers headers)) (by rw [hx]; rfl)
          (by rw [hx]; exact if_pos rfl) rfl List.prefix_rfl (hopenBody hb hopen) (hnone (by simp))
      | _ => exact hother rfl (if_pos rfl) (by simp)
    · exact hother rfl (if_neg hu) (by simp)
  | read u length reply =>
    by_cases hu : u = s
    · subst hu
      cases horigin with
      | read =>
        obtain ⟨reply', -, hx', hcases⟩ := hstep.read hq hsound
        obtain ⟨-, -, rfl⟩ := Happening.read.inj (hx'.symm.trans hx)
        rcases hcases with ⟨rfl, -⟩ | ⟨b, copy, hb, rfl, -⟩
        · -- a spent limit: the body stays queued
          refine ha.other (by rw [hx]; exact if_neg fun h => absurd h.2.2 (by decide)) ?_
            fun n hn => ?_
          · rw [hx, Tally.count, if_pos rfl, Tally.read, List.append_nil]
            rfl
          · obtain ⟨length', reply, hread, hcopy, -⟩ := happening_of_announced hn
            obtain ⟨-, -, rfl⟩ := Happening.read.inj (hx.symm.trans hread)
            exact absurd hcopy (by simp)
        · rw [hrecords] at hb
          exact ha.read (htallied b hb) (hallowed.1.reads _ rfl)
            (Runs.host_eq hrun ▸ hcounted u b hb) hx
    · exact hother (if_neg fun h => hu h.1) (if_neg hu) fun _ _ h => hu (Happening.read.inj h).1
  | sent u data =>
    by_cases hu : u = s
    · subst hu
      cases horigin with
      | @sent _ _ length _ env =>
        obtain ⟨-, b, hb, hlength, hx'⟩ :=
          hstep.sent (Runs.staging TakesCounted.ends hrun hbefore) hq hsound
        obtain ⟨-, rfl⟩ := Happening.sent.inj (hx'.symm.trans hx)
        have hb : (recordsAfter h).body u = some b := hrecords ▸ hb
        have hagree := htallied b hb
        have hwaits : announcedFrame h = some (u, length) := hallowed.1.writes.symm
        have hopen : ∀ f ∈ framesOn u h, f.2 = false := by
          intro f hf
          by_contra hne
          exact (ha.whole ⟨f, hf, by simpa using hne⟩).2 length hwaits
        have hsent : (b.sent (b.queue.take length)).Tallied
            ((tallyAfter h u).sent (b.queue.take length)) :=
          hagree.sent (by rw [List.length_take, min_eq_left hlength])
        refine @FramesAgree.sent h u _ ha (b.queue.take length, announcedEnd h)
          ((tallyAfter h u).sent (b.queue.take length)) (by rw [hx]; exact if_pos rfl)
          (by rw [hx]; exact if_pos rfl) rfl ?_ hopen (fun hflag => ?_) (hnone (by simp))
        · exact hsent.bytes ▸ List.prefix_append _ _
        · obtain ⟨hendings, htrailers⟩ := ha.waits length hwaits hflag
          obtain ⟨hended, hqueue⟩ := (Runs.ended_once hrun hbefore u).2 hendings b hb
          have hall : b.queue.take length = b.queue := by
            rcases hqueue with hempty | hlast
            · rw [hempty, List.take_nil]
            · obtain ⟨-, rfl⟩ := Prod.mk.inj (Option.some.inj (hwaits.symm.trans hlast))
              exact List.take_length
          refine ⟨hendings, hagree.ended ▸ hended, htrailers, ?_⟩
          show (tallyAfter h u).produced ++ b.queue.take length = (tallyAfter h u).accepted
          rw [hall, hagree.bytes]
    · exact hother (if_neg hu) (if_neg hu) (by simp)
  | _ => exact hother rfl rfl (by simp)

/-- What was accepted stays accepted. -/
theorem Tally.accepted_count (t : Tally) (s : StreamId) (x : Happening) :
    t.accepted <+: (t.count s x).accepted := by
  have hmessage (message : Message) : t.accepted <+: (t.message message).accepted := by
    cases message <;> first | exact List.prefix_append _ _ | exact List.prefix_rfl
  cases x with
  | message u message | stuck u message =>
    rw [Tally.count]
    split
    · exact hmessage message
    · exact List.prefix_rfl
  | read u length reply | sent u data =>
    rw [Tally.count]
    split <;> exact List.prefix_rfl
  | _ => exact List.prefix_rfl

/-- A call of the owner sends no frame by itself. -/
theorem Request.frameOn_happening (r : Request) (env : Env) (o : Outcome) (s : StreamId) :
    frameOn s h (r.happening env o) = [] := by
  have hstuck (is : List Issued) (u : StreamId) (message : Message) :
      frameOn s h (stuckOr is u message) = [] := by
    unfold stuckOr
    split <;> rfl
  unfold Request.happening
  split
  case h_1 | h_2 =>
    split
    · rfl
    · split <;> rfl
  case h_4 | h_5 =>
    split
    · rfl
    · exact hstuck _ _ _
  case h_6 =>
    split
    · split <;> rfl
    · rfl
  case h_8 => rfl
  all_goals split <;> rfl

/-- **A step that leaves a connection unsound sends no frame.** -/
theorem Stepped.frameOn_of_unsound (hstep : Stepped m l p)
    (hbefore : l.isCallback = true → m.conn.Sound) (hunsound : ¬ p.2.conn.Sound) (s : StreamId) :
    frameOn s h (happening ⟨m, l, p.1, p.2⟩) = [] := by
  cases l with
  | request r env => exact r.frameOn_happening env p.1 s
  | ret result env =>
    show frameOn s h (if _ then _ else _) = []
    split <;> rfl
  | callback cb env =>
    have hsound : m.conn.Sound := hbefore rfl
    obtain ⟨d, session, -, hdrive⟩ := hstep.callback_drive
    have hlive : p.2.conn.failed = false := hstep.live (fun _ => hsound.1) (by simp [hdrive])
    have hfailed : p.1.response = .replied { code := errCallbackFailure } :=
      (hstep.callback_clean hsound.2).resolve_left fun hclean => hunsound ⟨hlive, hclean⟩
    simp only [happening, hfailed]
    cases cb with
    | readBody | sendBody => simp [Callback.happening, frameOn, errCallbackFailure]
    | frameSent | streamClosed => simp [Callback.happening, frameOn, errCallbackFailure]
    | frameNotSent frame errorCode =>
      simp only [Callback.happening]
      split
      · split <;> rfl
      · rfl
    | _ => rfl

/-- **Whatever fails, the frames carry the beginning of what was accepted**, and
only the last of them ends the stream. -/
theorem Runs.frames_within (hrun : Runs host TakesCounted h m) :
    ∀ s, ((framesOn s h).map Prod.fst).flatten <+: (tallyAfter h s).accepted ∧
      ∀ f ∈ (framesOn s h).dropLast, f.2 = false := by
  refine Run.invariant (I := fun h _ => ∀ s,
    ((framesOn s h).map Prod.fst).flatten <+: (tallyAfter h s).accepted ∧
      ∀ f ∈ (framesOn s h).dropLast, f.2 = false)
    (fun s => ⟨List.prefix_rfl, fun f hf => absurd hf List.not_mem_nil⟩) ?_ hrun
  intro h m l o m' hprior ih hallowed htaken s
  by_cases hsound : m'.conn.Sound
  · have hframes := Runs.framed (.extend hprior hallowed htaken) hsound s
    exact ⟨hframes.bytes ▸ hframes.within, hframes.last⟩
  · have hbefore (hl : l.isCallback = true) : m.conn.Sound := by
      cases l with
      | callback cb env =>
        exact Runs.sound_of_callback TakesCounted.ends hprior hallowed
          (Machine.stepped htaken).callback_driven
      | request | ret => exact absurd hl (by simp [Label.isCallback])
    have hnone : frameOn s h (happening ⟨m, l, o, m'⟩) = [] :=
      (Machine.stepped htaken).frameOn_of_unsound hbefore hsound s
    have hframes : framesOn s (⟨m, l, o, m'⟩ :: h) = framesOn s h := by
      rw [framesOn, hnone, List.append_nil]
    rw [hframes, tallyAfter_cons]
    exact ⟨(ih s).1.trans (Tally.accepted_count _ _ _), (ih s).2⟩

end Runs

end Ngh2
