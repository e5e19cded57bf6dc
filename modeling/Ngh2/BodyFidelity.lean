import Ngh2.Tallies
import Ngh2.Counted
import Ngh2.FrameSizing

/-!
# Bodies arrive as they were sent

The payloads of the DATA frames of a stream, put together, are the bytes that
were queued for it, up to what is still queued. The frames come by two paths
and end in two ways, chosen one by one; what they amount to is said by the
account of the stream (`Tally`), which knows nothing of the paths.

What is assumed beyond the rules about closures concerns the two callbacks. A
frame that was left to be written is written at once, and a body that ended is
not asked for more.

One of the paths believes the counter of the body, and the counter is a
`size_t` that nothing checks. So it takes one condition on the caller too: a
chunk that is queued fits the counter (`Machine.BodyCounted`).
-/

namespace Ngh2

open Nghttp2 Effect

/-! ## What is assumed of the engine -/

/-- The frame that waits to be written: what the step before announced. -/
def announcedFrame (h : History) : Option (StreamId × Nat) := h.head?.bind Entry.announces

/-- **A body that ended is not read.** -/
def ReadsUntilEnd (h : History) (l : Label) : Prop :=
  ∀ f ∈ l.reads, (tallyAfter h f.1).endings = 0

instance (h : History) (l : Label) : Decidable (ReadsUntilEnd h l) :=
  inferInstanceAs (Decidable (∀ f ∈ l.reads, (tallyAfter h f.1).endings = 0))

/-- What is assumed of the engine where it takes bodies: a frame that waits to
be written is written next, and no other. -/
structure TakesBodies (h : History) (m : Machine) (l : Label) : Prop where
  cleanly : ClosesCleanly h m l
  reads : ReadsUntilEnd h l
  writes : l.writes = announcedFrame h

instance (h : History) (m : Machine) (l : Label) : Decidable (TakesBodies h m l) :=
  decidable_of_iff (ClosesCleanly h m l ∧ ReadsUntilEnd h l ∧ l.writes = announcedFrame h)
    ⟨fun ⟨h₁, h₂, h₃⟩ => ⟨h₁, h₂, h₃⟩, fun ⟨h₁, h₂, h₃⟩ => ⟨h₁, h₂, h₃⟩⟩

theorem TakesBodies.ends {h : History} {m : Machine} {l : Label} (ha : TakesBodies h m l) :
    FailureEndsDrive h l := ha.cleanly.1

/-- The engine takes bodies, and every chunk fits the counter of its body. -/
def TakesCounted (h : History) (m : Machine) (l : Label) : Prop :=
  TakesBodies h m l ∧ m.BodyCounted l

instance (h : History) (m : Machine) (l : Label) : Decidable (TakesCounted h m l) :=
  inferInstanceAs (Decidable (TakesBodies h m l ∧ m.BodyCounted l))

theorem TakesCounted.ends {h : History} {m : Machine} {l : Label} (ha : TakesCounted h m l) :
    FailureEndsDrive h l := ha.1.ends

/-! ## The trailers of a step -/

/-- The trailers a use of a session submits. -/
def Issued.trailers : Issued → Option (StreamId × List Header)
  | .call _ (.submitTrailer s headers) => some (s, headers)
  | _ => none

/-- The trailers one step submitted: stream and fields. -/
def trailersOf (e : Entry Machine Label Outcome) : List (StreamId × List Header) :=
  e.outcome.issued.filterMap Issued.trailers

/-- **A step ended the body of a stream**, with a reply. -/
def Ends (e : Entry Machine Label Outcome) (s : StreamId) (reply : Reply) : Prop :=
  (∃ length, happening e = .read s length reply) ∧ reply.eof = true

/-- What a body is told to be complete with: all that is queued, and a note of
the trailers. -/
theorem Body.answer_of_eof {w : PointerWidth} {b : Body} {length : Nat} {copy : Bool}
    (hcounted : b.queue.length < w.modulus) (h : (b.answer w length copy).eof = true) :
    b.ended = true ∧ b.answer w length copy =
      { code := b.queue.length, noCopy := !copy, eof := true, noEndStream := b.trailers.isSome
        buffer := if copy then b.queue else [] } := by
  unfold Body.answer at h ⊢
  rw [Body.available_eq hcounted] at h ⊢
  dsimp only at h ⊢
  split at h
  · next hcomplete =>
    obtain ⟨hended, hlength⟩ := Bool.and_eq_true_iff.mp hcomplete
    refine ⟨hended, ?_⟩
    rw [if_pos hcomplete, of_decide_eq_true hlength, List.take_length]
  · split at h <;> exact absurd h (by simp)

section Steps

variable {m : Machine} {p : Outcome × Machine} {s : StreamId} {env : Env}

/-- Only `_read_body` submits trailers, and only those of the body it reads. -/
theorem Stepped.read_of_trailers {l : Label} (h : Stepped m l p) {headers : List Header}
    (ht : (s, headers) ∈ p.1.issued.filterMap Issued.trailers) :
    ∃ length env, l = .callback (.readBody s length) env := by
  obtain ⟨i, hi, htrailers⟩ := List.mem_filterMap.mp ht
  obtain ⟨session, rfl⟩ : ∃ session, i = .call session (.submitTrailer s headers) := by
    unfold Issued.trailers at htrailers
    split at htrailers
    · obtain ⟨rfl, rfl⟩ := Prod.mk.inj (Option.some_inj.mp htrailers)
      exact ⟨_, rfl⟩
    · exact absurd htrailers (by simp)
  have hasks := h.asks hi
  cases l with
  | request r env =>
    rcases hasks with hq | hs | hq | hq
    · simp [EngineCall.isQuery] at hq
    · cases r <;> simp [Request.Submits] at hs
    · simp [EngineCall.isResume] at hq
    · simp [EngineCall.isDrive] at hq
  | callback cb env =>
    cases cb with
    | readBody t length =>
      obtain ⟨_, hq⟩ := hasks
      obtain ⟨rfl, -⟩ := EngineCall.submitTrailer.inj hq
      exact ⟨length, env, rfl⟩
    | _ => simp [Label.Asks, Callback.Asks] at hasks
  | ret result env =>
    rcases hasks with hq | ⟨entries, hq⟩
    · simp [EngineCall.isQuery] at hq
    · simp at hq

/-- The trailers a body is read to its end with. -/
theorem FinishedRead.trailers_issued {session : Option SessionId} {body body' : BodySource}
    {reply reply' : Reply} {complete : Bool} {is : List Issued}
    (h : FinishedRead env session s body reply complete reply' is body')
    (hreply : reply.noEndStream = false) :
    is.filterMap Issued.trailers
      = if reply'.noEndStream then body.trailers.toList.map (s, ·) else [] := by
  cases h with
  | trailers hc ht => simp [ht, Issued.trailers]
  | _ => simp [hreply]

/-- **What a read does**: it pauses, or it answers for the body, and submits the
trailers exactly where it says that they end the stream. -/
theorem Stepped.read {length : Nat} (h : Stepped m (.callback (.readBody s length) env) p)
    (hq : m.conn.Queued m.host.pointerWidth) (hsound : p.2.conn.Sound) :
    ∃ reply, p.1.response = .replied reply ∧
      happening ⟨m, .callback (.readBody s length) env, p.1, p.2⟩ = .read s length reply ∧
      (reply = { code := errPause } ∧ p.1.issued = [] ∨
        ∃ b copy, m.conn.records.body s = some b ∧
          reply = b.answer m.host.pointerWidth length copy ∧
          p.1.issued.filterMap Issued.trailers
            = if reply.noEndStream then b.trailers.toList.map (s, ·) else []) := by
  cases h with
  | callback driven hc =>
    rw [Machine.afterCallback_conn] at hsound
    cases hc with
    | failed spoiled deferred => exact absurd (deferred.symm.trans hsound.2) (by simp)
    | headerBlock kind => simp at kind
    | paused spent => exact ⟨_, rfl, rfl, .inl ⟨rfl, rfl⟩⟩
    | @readWhole _ _ body body' reply is unspent opened whole finished =>
      obtain ⟨hreply, -, -⟩ := finished.whole (hq s body opened)
      refine ⟨reply, rfl, ?_, .inr ⟨body.view, false, viewBodies_of_lookup opened, hreply,
        finished.trailers_issued rfl⟩⟩
      simp only [happening, Machine.afterCallback, Callback.happening]
      exact if_neg (hreply ▸ Body.answer_code_ne _ _ _ _)
    | @readCopied _ _ body body' t reply is unspent opened limited copied finished =>
      obtain ⟨hreply, -, -⟩ := finished.copied (hq s body opened) copied
      obtain ⟨t', heq, htaken⟩ := (hq s body opened).copyLoop length m.conn.queuedBodySize
      obtain rfl : t = t' := congrArg Prod.snd (copied.symm.trans heq)
      have htrailers : t.body.compact.trailers = body.view.trailers :=
        congrArg Body.trailers htaken.view.2
      refine ⟨reply, rfl, ?_, .inr ⟨body.view, true, viewBodies_of_lookup opened, hreply, ?_⟩⟩
      · simp only [happening, Machine.afterCallback, Callback.happening]
        exact if_neg (hreply ▸ Body.answer_code_ne _ _ _ _)
      · rw [← htrailers]
        exact finished.trailers_issued rfl

/-- **What a frame writes**: as many bytes off the queue as were asked for. -/
theorem Stepped.sent {padlen length : Nat} {frameHeader : FrameHeader}
    (h : Stepped m (.callback (.sendBody s padlen frameHeader length) env) p)
    (hst : m.Staging) (hq : m.conn.Queued m.host.pointerWidth) (hsound : p.2.conn.Sound) :
    p.1.response = .replied { code := 0 } ∧
    ∃ b, m.conn.records.body s = some b ∧ length ≤ b.queue.length ∧
      happening ⟨m, .callback (.sendBody s padlen frameHeader length) env, p.1, p.2⟩
        = .sent s (b.queue.take length) := by
  cases h with
  | callback driven hc =>
    rw [Machine.afterCallback_conn] at hsound
    cases hc with
    | failed spoiled deferred => exact absurd (deferred.symm.trans hsound.2) (by simp)
    | headerBlock kind => simp at kind
    | @bodySent _ _ _ body t output limit opened written fits copied full =>
      obtain ⟨-, hlen⟩ := hst.sending driven (by omega)
      obtain ⟨t', heq, htaken⟩ := (hq s body opened).copyLoop length m.conn.queuedBodySize
      obtain rfl : t = t' := congrArg Prod.snd (copied.symm.trans heq)
      have hbytes : t.copied = body.view.queue.take length := htaken.view.1
      refine ⟨rfl, body.view, viewBodies_of_lookup opened, ?_, ?_⟩
      · rw [← full, hbytes, List.length_take]
        exact min_le_right _ _
      · rw [← full] at fits
        simp only [happening, Machine.afterCallback, Callback.happening, if_true,
          Connection.spendOutput]
        rw [drop_staged_bodySent hlen written fits, hbytes]

end Steps

/-! ## Runs -/

section Runs

variable {host : Host} {h : History} {m : Machine}

theorem recordsAfter_cons (e : Entry Machine Label Outcome) :
    recordsAfter (e :: h) = (recordsAfter h).record (happening e) := rfl

theorem tallyAfter_cons (e : Entry Machine Label Outcome) (s : StreamId) :
    tallyAfter (e :: h) s = (tallyAfter h s).count s (happening e) := rfl

/-- The endings of a stream are counted one by one. -/
theorem Tally.endings_count (t : Tally) (s : StreamId) (x : Happening) :
    (t.count s x).endings = t.endings ∨
      (t.count s x).endings = t.endings + 1 ∧
        ∃ length reply, x = .read s length reply ∧ reply.eof = true := by
  cases x with
  | message u message =>
    rw [Tally.count]
    split
    · cases message <;> exact .inl rfl
    · exact .inl rfl
  | stuck u message =>
    rw [Tally.count]
    split
    · cases message <;> exact .inl rfl
    · exact .inl rfl
  | read u length reply =>
    rw [Tally.count]
    split
    · next hu =>
      cases heof : reply.eof with
      | false => exact .inl (by simp [Tally.read, heof])
      | true => exact .inr ⟨by simp [Tally.read, heof], length, reply, hu ▸ rfl, heof⟩
    · exact .inl rfl
  | sent u data =>
    rw [Tally.count]
    split <;> exact .inl rfl
  | _ => exact .inl rfl

/-- **A step that ends a body** is a read of a body that was told to end, and
was not ended before. -/
theorem Runs.ends_eq (hrun : Runs host TakesCounted h m) (hbefore : m.conn.Sound) {l : Label}
    {p : Outcome × Machine} (hallowed : TakesBodies h m l) (hstep : Stepped m l p)
    (hsound : p.2.conn.Sound) {s : StreamId} {reply : Reply}
    (hend : Ends ⟨m, l, p.1, p.2⟩ s reply) :
    (∃ length env, l = .callback (.readBody s length) env) ∧
      p.1.response = .replied reply ∧ (tallyAfter h s).endings = 0 ∧
      ∃ b copy, (recordsAfter h).body s = some b ∧ b.ended = true ∧
        reply = { code := b.queue.length, noCopy := !copy, eof := true,
                  noEndStream := b.trailers.isSome, buffer := if copy then b.queue else [] } ∧
        p.1.issued.filterMap Issued.trailers = b.trailers.toList.map (s, ·) := by
  obtain ⟨⟨length, hx⟩, heof⟩ := hend
  have horigin := hstep.origin hsound
  rw [hx] at horigin
  cases horigin with
  | @read _ _ _ env =>
    have hrecords := (Runs.records_eq TakesCounted.ends hrun hbefore).2
    obtain ⟨reply', hresponse, hhappening, hcases⟩ :=
      hstep.read (Runs.queued TakesCounted.ends hrun hbefore) hsound
    obtain ⟨-, -, rfl⟩ := Happening.read.inj (hhappening.symm.trans hx)
    refine ⟨⟨length, env, rfl⟩, hresponse, hallowed.reads _ rfl, ?_⟩
    rcases hcases with ⟨rfl, -⟩ | ⟨b, copy, hb, rfl, hissued⟩
    · exact absurd heof (by simp)
    · -- the queue is shorter than the counter has values
      have hcounted : b.queue.length < m.host.pointerWidth.modulus := by
        rw [Runs.host_eq hrun]
        exact Runs.records_counted TakesCounted.ends (fun ha => ha.2) hrun hbefore s b
          (hrecords ▸ hb)
      obtain ⟨hended, hanswer⟩ := Body.answer_of_eof hcounted heof
      refine ⟨b, copy, hrecords ▸ hb, hended, hanswer, ?_⟩
      rw [hissued, hanswer]
      cases b.trailers <;> rfl

/-- The body a happening leaves where there was one. -/
theorem Records.onBody_self {r : Records} {s : StreamId} {b b' : Body} {f : Body → Body}
    (hb : r.body s = some b) (hb' : (r.onBody s f).body s = some b') : b' = f b := by
  simpa [Records.onBody, hb, eq_comm] using hb'

/-- **A body that ended changes by being taken only.** -/
theorem Records.body_of_ended {w : PointerWidth} {r : Records} {x : Happening} {server : Bool}
    {s : StreamId} {b b' : Body} (hp : r.Permits w server x) (hopens : x.opens ≠ some s)
    (hb : r.body s = some b)
    (hended : b.ended = true) (hb' : (r.record x).body s = some b') :
    b' = b ∨ (∃ length reply, x = .read s length reply ∧ b' = b.answered reply) ∨
      ∃ data, x = .sent s data ∧ b' = b.sent data := by
  have hsame (h : (r.record x).body s = r.body s) : b' = b :=
    Option.some_inj.mp (hb'.symm.trans (h.trans hb))
  have hopenBody {u : StreamId} {r' : Records} (hr : r'.body = r.body) (hu : some u ≠ some s) :
      (r'.openBody u).body s = r.body s := by
    have hne : s ≠ u := fun heq => hu (heq ▸ rfl)
    simp [Records.openBody, hr, hne]
  have honBody {u : StreamId} {f : Body → Body} (hu : u ≠ s) :
      (r.onBody u f).body s = r.body s := by
    simp [Records.onBody, Ne.symm hu]
  have hopen {u : StreamId} (hu : ∃ b, r.body u = some b ∧ b.ended = false) : u ≠ s := by
    rintro rfl
    obtain ⟨b₀, hb₀, hopen⟩ := hu
    obtain rfl := Option.some_inj.mp (hb.symm.trans hb₀)
    exact absurd hopen (by simp [hended])
  cases x with
  | message u message =>
    cases message with
    | request endStream =>
      cases endStream with
      | true => exact .inl (hsame rfl)
      | false => exact .inl (hsame (hopenBody rfl hopens))
    | informational => exact .inl (hsame rfl)
    | response endStream =>
      cases endStream with
      | true => exact .inl (hsame rfl)
      | false => exact .inl (hsame (hopenBody rfl hopens))
    | data => exact .inl (hsame (honBody (hopen hp)))
    | trailers => exact .inl (hsame (honBody (hopen hp)))
  | stuck u message =>
    cases message with
    | request endStream =>
      cases endStream with
      | true => exact .inl (hsame rfl)
      | false => exact .inl (hsame (hopenBody rfl hopens))
    | data =>
      obtain ⟨b₀, hb₀, hunended, -⟩ := hp
      exact .inl (hsame (honBody (hopen ⟨b₀, hb₀, hunended⟩)))
    | trailers =>
      obtain ⟨b₀, hb₀, hunended, -⟩ := hp
      exact .inl (hsame (honBody (hopen ⟨b₀, hb₀, hunended⟩)))
    | _ => exact .inl (hsame rfl)
  | read u length reply =>
    by_cases hu : u = s
    · subst hu
      exact .inr (.inl ⟨length, reply, rfl, Records.onBody_self hb hb'⟩)
    · exact .inl (hsame (honBody hu))
  | sent u data =>
    by_cases hu : u = s
    · subst hu
      exact .inr (.inr ⟨data, rfl, Records.onBody_self hb hb'⟩)
    · exact .inl (hsame (honBody hu))
  | closed u =>
    by_cases hu : u = s
    · exact absurd hb' (by simp [Records.record, hu])
    · exact .inl (hsame (by simp [Records.record, Ne.symm hu]))
  | discarded => exact absurd hb' (by simp [Records.record])
  | _ => exact .inl (hsame rfl)

/-- The frame that waits is written next. -/
theorem Label.of_writes {l : Label} {s : StreamId} {length : Nat}
    (h : l.writes = some (s, length)) :
    ∃ padlen frameHeader env, l = .callback (.sendBody s padlen frameHeader length) env := by
  unfold Label.writes at h
  split at h
  · obtain ⟨rfl, rfl⟩ := Prod.mk.inj (Option.some_inj.mp h)
    exact ⟨_, _, _, rfl⟩
  · exact absurd h (by simp)

/-- **A body ends once**, and what is left of it then is the frame that ends
it. -/
theorem Runs.ended_once (hrun : Runs host TakesCounted h m) (hsound : m.conn.Sound) :
    ∀ s, (tallyAfter h s).endings ≤ 1 ∧
      ((tallyAfter h s).endings ≠ 0 → ∀ b, (recordsAfter h).body s = some b →
        b.ended = true ∧ (b.queue = [] ∨ announcedFrame h = some (s, b.queue.length))) := by
  refine Runs.induct_sound (I := fun h _ => ∀ s, (tallyAfter h s).endings ≤ 1 ∧
      ((tallyAfter h s).endings ≠ 0 → ∀ b, (recordsAfter h).body s = some b →
        b.ended = true ∧ (b.queue = [] ∨ announcedFrame h = some (s, b.queue.length))))
    TakesCounted.ends (fun s => ⟨Nat.zero_le _, fun h => absurd rfl h⟩) ?_ hrun hsound
  intro h m l p hrun hbefore ih hallowed hstep hsound s
  replace hallowed := hallowed.1
  obtain ⟨hone, hlast⟩ := ih s
  have hclean : Runs host ClosesCleanly h m := hrun.mono fun ha => ha.1.cleanly
  have hpermits := Runs.permits TakesCounted.ends hrun hbefore hstep hsound
  rw [tallyAfter_cons]
  by_cases hopen : (tallyAfter h s).endings = 0
  · rcases Tally.endings_count (tallyAfter h s) s (happening ⟨m, l, p.1, p.2⟩) with hsame |
      ⟨hmore, length, reply, hx, heof⟩
    · rw [hsame, hopen]
      exact ⟨Nat.zero_le _, fun h => absurd rfl h⟩
    · obtain ⟨⟨_, _, rfl⟩, hresponse, -, b, copy, hb, hended, rfl, -⟩ :=
        Runs.ends_eq hrun hbefore hallowed hstep hsound ⟨⟨length, hx⟩, heof⟩
      refine ⟨(hmore.trans (by rw [hopen])).le, fun _ b' hb' => ?_⟩
      rw [recordsAfter_cons, hx] at hb'
      obtain rfl := Records.onBody_self hb hb'
      refine ⟨hended, ?_⟩
      cases copy with
      | true => exact .inl (by simp [Body.answered])
      | false =>
        right
        simp [announcedFrame, Entry.announces, hresponse, Body.answered]
  · have hsame : ((tallyAfter h s).count s (happening ⟨m, l, p.1, p.2⟩)).endings
        = (tallyAfter h s).endings := by
      rcases Tally.endings_count (tallyAfter h s) s (happening ⟨m, l, p.1, p.2⟩) with hsame |
        ⟨-, length, reply, hx, heof⟩
      · exact hsame
      · exact absurd (Runs.ends_eq hrun hbefore hallowed hstep hsound ⟨⟨length, hx⟩, heof⟩).2.2.1
          hopen
    rw [hsame]
    refine ⟨hone, fun _ b' hb' => ?_⟩
    have hunopened : (happening ⟨m, l, p.1, p.2⟩).opens ≠ some s := by
      intro hopens
      have hnever := Runs.opened_once hclean hbefore hallowed.cleanly hstep hsound hopens
      exact hopen (by rw [((Runs.tallied hclean hbefore s).2 hnever).1])
    rw [recordsAfter_cons] at hb'
    obtain ⟨b, hb⟩ := Option.ne_none_iff_exists'.mp
      ((Records.opened_of_body (by rw [hb']; simp)).resolve_right hunopened)
    obtain ⟨hended, hqueue⟩ := hlast hopen b hb
    have hrecords := (Runs.records_eq TakesCounted.ends hrun hbefore).2
    rcases hqueue with hempty | hwaits
    · -- nothing is left to be taken
      rcases Records.body_of_ended hpermits hunopened hb hended hb' with rfl |
        ⟨_, _, -, rfl⟩ | ⟨_, -, rfl⟩
      · exact ⟨hended, .inl hempty⟩
      · exact ⟨hended, .inl (by simp [Body.answered, hempty])⟩
      · exact ⟨hended, .inl (by simp [Body.sent, hempty])⟩
    · -- the last frame is written now
      obtain ⟨_, _, _, rfl⟩ := Label.of_writes (hallowed.writes.trans hwaits)
      obtain ⟨-, b₀, hb₀, -, hx⟩ :=
        hstep.sent (Runs.staging TakesCounted.ends hrun hbefore)
          (Runs.queued TakesCounted.ends hrun hbefore) hsound
      obtain rfl := Option.some_inj.mp (hb.symm.trans (hrecords ▸ hb₀))
      rw [hx] at hb'
      obtain rfl := Records.onBody_self hb hb'
      exact ⟨hended, .inl (by simp [Body.sent])⟩

/-- Bytes are produced by a read, or written. -/
theorem Tally.produced_count (t : Tally) (s : StreamId) (x : Happening) :
    (t.count s x).produced = t.produced ∨ (∃ length reply, x = .read s length reply) ∨
      ∃ data, x = .sent s data := by
  cases x with
  | message u message =>
    rw [Tally.count]
    split
    · cases message <;> exact .inl rfl
    · exact .inl rfl
  | stuck u message =>
    rw [Tally.count]
    split
    · cases message <;> exact .inl rfl
    · exact .inl rfl
  | read u length reply =>
    by_cases hu : u = s
    · exact .inr (.inl ⟨length, reply, hu ▸ rfl⟩)
    · exact .inl (by rw [Tally.count, if_neg hu])
  | sent u data =>
    by_cases hu : u = s
    · exact .inr (.inr ⟨data, hu ▸ rfl⟩)
    · exact .inl (by rw [Tally.count, if_neg hu])
  | _ => exact .inl rfl

/-- **Nothing is produced of a body that ended**, but the frame that ends it. -/
theorem Runs.produced_of_ended {l : Label} {p : Outcome × Machine}
    (hallowed : TakesBodies h m l) (hstep : Stepped m l p) (hsound : p.2.conn.Sound)
    {s : StreamId} (hended : (tallyAfter h s).endings ≠ 0)
    (hwritten : ∀ n, announcedFrame h ≠ some (s, n)) :
    (tallyAfter (⟨m, l, p.1, p.2⟩ :: h) s).produced = (tallyAfter h s).produced := by
  rw [tallyAfter_cons]
  have horigin := hstep.origin hsound
  rcases Tally.produced_count (tallyAfter h s) s (happening ⟨m, l, p.1, p.2⟩) with hsame |
    ⟨length, reply, hx⟩ | ⟨data, hx⟩
  · exact hsame
  · rw [hx] at horigin
    cases horigin with
    | read => exact absurd (hallowed.reads _ rfl) hended
  · rw [hx] at horigin
    cases horigin with
    | sent => exact absurd hallowed.writes.symm (hwritten _)

end Runs

/-! ## The theorem -/

/-- **Body fidelity**, of a state and the history that led to it. -/
structure BodiesFaithful (h : History) (m : Machine) : Prop where
  /-- For every stream with a body, the payloads produced for it, followed by
  what is queued, are the bytes that were queued for it. -/
  bytes : ∀ s body, m.conn.bodies.lookup s = some body →
    (tallyAfter h s).produced ++ body.queue = (tallyAfter h s).accepted
  /-- The end of a body is signalled at most once. -/
  once : ∀ s, (tallyAfter h s).endings ≤ 1
  /-- It is signalled after it was asked for, by the frame that carries all that
  was left; where trailers were asked for, exactly those are submitted in that
  very step, and the frame says that it does not end the stream, and otherwise
  none are and it does. -/
  last : ∀ e h', (e :: h') <:+ h → ∀ s reply, Ends e s reply →
    (tallyAfter h' s).ended = true ∧
    (tallyAfter h' s).accepted.length = (tallyAfter h' s).produced.length + reply.code ∧
    reply.noEndStream = (tallyAfter h' s).trailers.isSome ∧
    trailersOf e = (tallyAfter h' s).trailers.toList.map (s, ·)
  /-- Trailers are submitted in no other step. -/
  trailers : ∀ e ∈ h, ∀ s headers, (s, headers) ∈ trailersOf e →
    ∃ reply, Ends e s reply ∧ reply.noEndStream = true
  /-- Once the frame that ends a body is written, nothing is left in its
  queue. -/
  empty : ∀ s, (tallyAfter h s).endings ≠ 0 → (∀ n, announcedFrame h ≠ some (s, n)) →
    ∀ body, m.conn.bodies.lookup s = some body → body.queue = []
  /-- And nothing more is produced. -/
  nothing : ∀ e h', (e :: h') <:+ h → ∀ s, (tallyAfter h' s).endings ≠ 0 →
    (∀ n, announcedFrame h' ≠ some (s, n)) →
    (tallyAfter (e :: h') s).produced = (tallyAfter h' s).produced

/-- A call of the application's produces nothing, and ends no body. -/
theorem Tally.count_request (t : Tally) (s : StreamId) (r : Request) (env : Env) (o : Outcome) :
    (t.count s (r.happening env o)).produced = t.produced ∧
      (t.count s (r.happening env o)).endings = t.endings := by
  have hmessage (u : StreamId) (message : Message) :
      (if u = s then t.message message else t).produced = t.produced ∧
        (if u = s then t.message message else t).endings = t.endings := by
    split
    · cases message <;> exact ⟨rfl, rfl⟩
    · exact ⟨rfl, rfl⟩
  have hstuckOr (u : StreamId) (message : Message) :
      (t.count s (stuckOr o.issued u message)).produced = t.produced ∧
        (t.count s (stuckOr o.issued u message)).endings = t.endings := by
    unfold stuckOr
    split
    · exact hmessage u message
    · exact ⟨rfl, rfl⟩
  unfold Request.happening
  split
  all_goals try split
  all_goals try split
  all_goals first
    | exact hmessage _ _
    | exact hstuckOr _ _
    | exact ⟨rfl, rfl⟩

/-- Where there were only calls, nothing was produced and nothing ended. -/
theorem NoCallbacks.tally {h : History} (hquiet : NoCallbacks h) (s : StreamId) :
    (tallyAfter h s).produced = [] ∧ (tallyAfter h s).endings = 0 := by
  induction h with
  | nil => exact ⟨rfl, rfl⟩
  | cons e h ih =>
    obtain ⟨hproduced, hendings⟩ := ih hquiet.tail
    obtain ⟨⟨r, env, hlabel⟩, -⟩ := Entry.of_isRequest (hquiet e List.mem_cons_self)
    have hhappening : happening e = r.happening env e.outcome := by
      rw [happening, hlabel]
    rw [tallyAfter_cons, hhappening]
    obtain ⟨hproduced', hendings'⟩ := (tallyAfter h s).count_request s r env e.outcome
    exact ⟨hproduced'.trans hproduced, hendings'.trans hendings⟩

/-- So what was accepted for a body is still queued. -/
theorem NoCallbacks.accepted_eq {host : Host} {h : History} {m : Machine} {s : StreamId}
    {body : BodySource} (hquiet : NoCallbacks h) (hrun : Runs host ClosesCleanly h m)
    (hsound : m.conn.Sound) (hb : m.conn.bodies.lookup s = some body) :
    (tallyAfter h s).accepted = body.queue := by
  have hrecord : (recordsAfter h).body s = some body.view := by
    rw [← (Runs.records_eq (fun ha => ha.1) hrun hsound).2]
    exact viewBodies_of_lookup hb
  have hbytes := ((Runs.tallied hrun hsound s).1 _ hrecord).bytes
  rw [← hbytes, (hquiet.tally s).1]
  rfl

/-- And no frame waits to be written. -/
theorem NoCallbacks.announcedFrame_eq {h : History} (hquiet : NoCallbacks h) :
    announcedFrame h = none := by
  cases h with
  | nil => rfl
  | cons e h =>
    obtain ⟨⟨r, env, hlabel⟩, -⟩ := Entry.of_isRequest (hquiet e List.mem_cons_self)
    show Entry.announces e = none
    rw [Entry.announces, hlabel]

/-- The engine takes bodies where there were only calls, and nothing ended. -/
theorem NoCallbacks.takes {h : History} {m : Machine} (hquiet : NoCallbacks h) {l : Label}
    (hcloses : l.closes = none) (hreports : ∀ h, ClosedUnreported h l) (hfresh : ∀ h, FreshIds h l)
    (hwrites : l.writes = none) : TakesBodies h m l where
  cleanly := hquiet.cleanly hcloses hreports hfresh
  reads := fun f _ => (hquiet.tally f.1).2
  writes := hwrites.trans hquiet.announcedFrame_eq.symm

/-- A client of 32 bits queues 4096 mebibytes, ends the body and asks for
output. -/
theorem Runs.ended_mebibytes :
    ∃ h m body, Runs { pointerWidth := .w32 } TakesBodies h m ∧ NoCallbacks h ∧ m.conn.Sound ∧
      m.drive ≠ none ∧ m.conn.outputRemaining < 0 ∧ m.conn.bodies.lookup 1 = some body ∧
      body.queue.length = 2 ^ 32 ∧ body.ended = true := by
  obtain ⟨h, m, body, hrun, hquiet, hadds, hlength, -⟩ := Runs.mebibytes TakesBodies
    ⟨_, rfl, by decide, ⟨rfl, by decide, rfl, rfl⟩⟩
    fun hquiet => hquiet.takes rfl (fun _ => trivial) (fun _ => trivial) rfl
  have hsound := Runs.sound_of_idle TakesBodies.ends hrun hadds.idle hadds.usable.1
  have hbody : body.Sound m.host.pointerWidth :=
    Runs.queued TakesBodies.ends hrun hsound 1 body hadds.opened
  obtain ⟨is, htaken⟩ := hadds.step [] true
  obtain ⟨h₁, hrun₁, hquiet₁⟩ := hquiet.extend hrun htaken
    (hquiet.takes rfl (fun _ => trivial) (fun _ => trivial) rfl) (by simp)
  obtain ⟨is₁, m₂, hentered, -, hbodies, hsound₂, hdrive, hunlimited⟩ :=
    Machine.step_dataToSend (m := m.given 1 body [] true) hadds.idle hadds.usable
  obtain ⟨h₂, hrun₂, hquiet₂⟩ := hquiet₁.extend hrun₁ hentered
    (hquiet₁.takes rfl (fun _ => trivial) (fun _ => trivial) rfl) (by simp)
  obtain ⟨-, hqueue, hended, -⟩ := hbody.given [] true
  refine ⟨h₂, m₂, _, hrun₂, hquiet₂, hsound₂, by simp [hdrive], hunlimited,
    hbodies ▸ Machine.given_lookup, ?_, hended⟩
  rw [hqueue, List.append_nil, hlength]

/-- A client that sends a body by both paths, and trailers. -/
def bothPaths : List Label := [
  .request (.init .client {}) (.accepting []),
  .request (.initiateConnection []) (.accepting []),
  .request (.sendRequest [] false) (.accepting [(.sessionCheckRequestAllowed, 1),
    (.submitRequest2 [] true, 1)]),
  .request (.sendData 1 [1, 2, 3, 4] false) (.accepting []),
  .request (.dataToSend (some 10)) (.accepting []),
  .callback (.readBody 1 2) (.accepting []),
  .callback (.collectOutput [0, 0, 2, 0, 0, 0, 0, 0, 1, 1, 2]) (.accepting []),
  .ret 0 (.accepting []),
  .request (.sendTrailers 1 []) (.accepting []),
  .request (.dataToSend none) (.accepting []),
  .callback (.collectOutput [2]) (.accepting []),
  .callback (.readBody 1 16384) (.accepting []),
  .callback (.sendBody 1 0 ⟨[0, 0, 2, 0, 0, 0, 0, 0, 1], rfl⟩ 2) (.accepting [])]

end Ngh2
