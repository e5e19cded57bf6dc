import Ngh2.FrameSizing
import Ngh2.Openings
import Ngh2.Counted

/-!
# No wake-up is lost

A DATA source that had nothing to give sleeps in the engine until it is
resumed, and the engine does not say which sources sleep. The binding keeps a
flag for each body, `deferred`, set by `_read_body` and cleared by the
operation that resumes. `userDeferred` reads off a history which sources sleep
in the engine: those whose last read was answered with
`NGHTTP2_ERR_DEFERRED`, and that were not resumed since, nor closed.

The flag is that (`Runs.sleeping_eq`). What follows is that nothing queued is
ever left behind a sleeping source, provided that the engine resumes what
sleeps, and that it does not ask for an empty frame. Two things are asked of
the caller and of the platform too: a chunk that is queued fits the counter of
its body, and a fatal answer to the waking of a source finds memory for its
exception. Without the first a source is sent to sleep with bytes behind it,
and without the second what was queued stays behind a source that sleeps.
-/

namespace Ngh2

open Nghttp2 Effect

/-! ## Which sources sleep -/

/-- The stream whose source a step sent to sleep. -/
def Entry.defers (e : Entry Machine Label Outcome) : Option StreamId :=
  match e.label, e.outcome.response with
  | .callback (.readBody s _) _, .replied reply => if reply.code = errDeferred then some s else none
  | _, _ => none

/-- Whether a use of a session resumed the source of a stream. -/
def Issued.wakes (env : Env) (s : StreamId) : Issued → Bool
  | .call _ (.sessionResumeData t) =>
    decide (t = s ∧ 0 ≤ env.reply (.sessionResumeData t))
  | _ => false

/-- Whether a step resumed the source of a stream. -/
def Entry.wakes (e : Entry Machine Label Outcome) (s : StreamId) : Bool :=
  e.outcome.issued.any (Issued.wakes e.label.env s)

/-- **Whether the source of a stream sleeps in the engine.** -/
def userDeferred : History → StreamId → Bool
  | [], _ => false
  | e :: h, s =>
    if Entry.defers e = some s then true
    else if Entry.wakes e s = true ∨ e.label.closes = some s then false
    else userDeferred h s

/-- The flag the binding keeps for a stream. -/
def Connection.sleeping (c : Connection) (s : StreamId) : Bool :=
  ((c.bodies.lookup s).map BodySource.deferred).getD false

/-! ## What is assumed of the engine -/

/-- **A sleeping source can be resumed**: `nghttp2_session_resume_data` refuses
a stream that is gone or whose source does not sleep, and fails otherwise only
for want of memory, which is fatal. -/
def ResumesDeferred (h : History) (l : Label) : Prop :=
  match l with
  | .request (.sendData s _ _) env => userDeferred h s = true →
    0 ≤ env.reply (.sessionResumeData s) ∨ isFatal (env.reply (.sessionResumeData s)) = true
  | .request (.sendTrailers s _) env => userDeferred h s = true →
    0 ≤ env.reply (.sessionResumeData s) ∨ isFatal (env.reply (.sessionResumeData s)) = true
  | _ => True

/-- **No empty frame is asked for**: a stream whose window is closed is not
asked at all. -/
def ReadsSome (l : Label) : Prop :=
  match l with
  | .callback (.readBody _ length) _ => 1 ≤ length
  | _ => True

instance (h : History) (l : Label) : Decidable (ResumesDeferred h l) := by
  unfold ResumesDeferred
  split <;> infer_instance

theorem readsSome_iff {l : Label} : ReadsSome l ↔ ∀ f ∈ l.reads, 1 ≤ f.2 := by
  cases l with
  | callback cb => cases cb <;> simp [ReadsSome, Label.reads]
  | request | ret => simp [ReadsSome, Label.reads]

instance (l : Label) : Decidable (ReadsSome l) := decidable_of_iff _ readsSome_iff.symm

/-- What the waking of sources assumes of the engine. -/
def WakesSources (h : History) (m : Machine) (l : Label) : Prop :=
  ClosesCleanly h m l ∧ ResumesDeferred h l ∧ ReadsSome l

instance (h : History) (m : Machine) (l : Label) : Decidable (WakesSources h m l) :=
  inferInstanceAs (Decidable (_ ∧ _))

/-- The engine wakes sources, every chunk fits the counter of its body, and a
fatal answer to the waking of a source is reported. -/
def WakesAfforded (h : History) (m : Machine) (l : Label) : Prop :=
  WakesSources h m l ∧ m.BodyCounted l ∧ m.WakeReported l

instance (h : History) (m : Machine) (l : Label) : Decidable (WakesAfforded h m l) :=
  inferInstanceAs (Decidable (WakesSources h m l ∧ m.BodyCounted l ∧ m.WakeReported l))

/-! ## One step -/

section Steps

variable {m : Machine} {l : Label} {p : Outcome × Machine} {env : Env}

/-- What resumes nothing wakes nothing. -/
theorem Issued.wakes_eq_false {is : List Issued} (h : is.any Issued.isResume = false)
    (s : StreamId) : is.any (Issued.wakes env s) = false := by
  refine List.any_eq_false.mpr fun i hi => ?_
  have hno := List.any_eq_false.mp h i hi
  unfold Issued.wakes
  split
  · exact absurd rfl hno
  · simp

/-- No callback resumes a source, and no return. -/
theorem Stepped.any_isResume (h : Stepped m l p) (hl : ∀ r env, l ≠ .request r env) :
    p.1.issued.any Issued.isResume = false := by
  refine List.any_eq_false.mpr fun i hi => ?_
  cases i with
  | call session q =>
    have hq := h.asks hi
    cases l with
    | request r env => exact absurd rfl (hl r env)
    | callback cb env =>
      cases cb with
      | readBody | beginFrame | streamClosed =>
        obtain ⟨_, rfl⟩ := hq
        simp [Issued.isResume, EngineCall.isResume]
      | frameSent =>
        obtain rfl | ⟨_, rfl⟩ := hq <;> simp [Issued.isResume, EngineCall.isResume]
      | frameNotSent =>
        obtain ⟨_, rfl⟩ := hq
        simp [Issued.isResume, EngineCall.isResume]
      | _ => exact hq.elim
    | ret result env =>
      obtain hq | ⟨_, rfl⟩ := hq
      · cases q <;> simp_all [Issued.isResume, EngineCall.isResume, EngineCall.isQuery]
      · simp [Issued.isResume, EngineCall.isResume]
  | _ => simp [Issued.isResume]

/-- The flags after one body was assigned to. -/
theorem Connection.sleeping_insert {c c' : Connection} {t : StreamId} {body : BodySource}
    (h : c'.bodies = c.bodies.insert t body) (s : StreamId) :
    c'.sleeping s = if s = t then body.deferred else c.sleeping s := by
  unfold Connection.sleeping
  rw [h]
  split
  · next hs => rw [hs, Finmap.lookup_insert, Option.map_some, Option.getD_some]
  · next hs => rw [Finmap.lookup_insert_of_ne _ hs]

/-- Assigning a body without touching its flag changes no flag. -/
theorem Connection.sleeping_of_insert_eq {c c' : Connection} {t : StreamId}
    {body body' : BodySource} (h : c'.bodies = c.bodies.insert t body')
    (hb : c.bodies.lookup t = some body) (hd : body'.deferred = body.deferred) (s : StreamId) :
    c'.sleeping s = c.sleeping s := by
  rw [Connection.sleeping_insert h]
  split
  · next hs =>
    rw [hs, hd, Connection.sleeping, hb]
    rfl
  · rfl

/-- The end of `_read_body` raises the flag exactly when it defers. -/
theorem FinishedRead.deferred_eq {session : Option SessionId} {s : StreamId}
    {body body' : BodySource} {reply reply' : Reply} {complete : Bool} {is : List Issued}
    (h : FinishedRead env session s body reply complete reply' is body')
    (hreply : reply.code ≠ errDeferred) :
    body'.deferred = if reply'.code = errDeferred then true else body.deferred := by
  cases h with
  | deferred => rfl
  | _ => exact (if_neg hreply).symm

/-- What a step does to the sleep of a source, besides sending it there. -/
theorem userDeferred_cons {h : History} {e : Entry Machine Label Outcome} (s : StreamId) :
    userDeferred (e :: h) s
      = if Entry.defers e = some s then true
        else if Entry.wakes e s = true ∨ e.label.closes = some s then false
        else userDeferred h s := rfl

/-- A step that reads nothing, resumes nothing and closes nothing changes no
sleep. -/
theorem userDeferred_quiet {h : History} {e : Entry Machine Label Outcome}
    (hdefers : Entry.defers e = none) (hwakes : e.outcome.issued.any Issued.isResume = false)
    (hcloses : e.label.closes = none) (s : StreamId) :
    userDeferred (e :: h) s = userDeferred h s := by
  have hno : Entry.wakes e s = false := Issued.wakes_eq_false hwakes s
  rw [userDeferred_cons, hdefers, hcloses, hno]
  simp

/-- A quiet operation resumes nothing. -/
theorem Quiet.not_resume {c : Connection} {r : Request} {is : List Issued} (h : Quiet c r is) :
    is.any Issued.isResume = false := by
  refine List.any_eq_false.mpr fun i hi => ?_
  obtain ⟨q, rfl, hq | hq⟩ := h i hi
  · cases q <;> simp_all [Issued.isResume, EngineCall.isResume, EngineCall.isQuery]
  · simp [Issued.isResume, hq.not_resume]

/-- The operations that may resume, where they do. -/
theorem any_wakes_resume (b : Prop) [Decidable b] (session : Option SessionId) (t s : StreamId) :
    (if b then [Issued.call session (.sessionResumeData t)] else []).any (Issued.wakes env s)
      = decide (b ∧ t = s ∧ 0 ≤ env.reply (.sessionResumeData t)) := by
  by_cases hb : b <;> simp [hb, Issued.wakes]

/-- A message call wakes the source of its stream, and no other, if the engine
accepts to resume it. -/
theorem userDeferred_resume {h : History} {m m' : Machine} {r : Request} {o : Outcome} {b : Prop}
    [Decidable b] {session : Option SessionId} {t : StreamId}
    (hissued : o.issued = if b then [Issued.call session (.sessionResumeData t)] else [])
    (s : StreamId) :
    userDeferred (⟨m, .request r env, o, m'⟩ :: h) s
      = if b ∧ t = s ∧ 0 ≤ env.reply (.sessionResumeData t) then false
        else userDeferred h s := by
  have hwakes : Entry.wakes ⟨m, .request r env, o, m'⟩ s
      = decide (b ∧ t = s ∧ 0 ≤ env.reply (.sessionResumeData t)) := by
    rw [Entry.wakes, hissued]
    exact any_wakes_resume b session t s
  rw [userDeferred_cons, hwakes, if_neg (by simp [Entry.defers])]
  simp [Label.closes]

/-- A read that raises the flag exactly when it defers keeps the flag what it
stands for. -/
theorem userDeferred_read {h : History} {m m' : Machine} {t : StreamId} {length : Nat}
    {o : Outcome} {reply : Reply} {body body' : BodySource}
    (hresponse : o.response = .replied reply)
    (hresume : o.issued.any Issued.isResume = false)
    (hbodies : m'.conn.bodies = m.conn.bodies.insert t body')
    (hb : m.conn.bodies.lookup t = some body)
    (hflag : body'.deferred = if reply.code = errDeferred then true else body.deferred)
    (ih : ∀ s, userDeferred h s = m.conn.sleeping s) (s : StreamId) :
    userDeferred (⟨m, .callback (.readBody t length) env, o, m'⟩ :: h) s = m'.conn.sleeping s := by
  have hwakes : Entry.wakes ⟨m, .callback (.readBody t length) env, o, m'⟩ s = false :=
    Issued.wakes_eq_false hresume s
  have hdefers : Entry.defers ⟨m, .callback (.readBody t length) env, o, m'⟩
      = if reply.code = errDeferred then some t else none := by
    simp only [Entry.defers, hresponse]
  rw [userDeferred_cons, hwakes, hdefers, Connection.sleeping_insert hbodies, hflag, ih]
  by_cases hcode : reply.code = errDeferred
  · by_cases hs : s = t
    · simp [hcode, hs]
    · simp [hcode, hs, Ne.symm hs, Label.closes]
  · by_cases hs : s = t
    · have hbefore : m.conn.sleeping s = body.deferred := by
        rw [hs, Connection.sleeping, hb]
        rfl
      simp [hcode, hs ▸ hbefore, hs, Label.closes]
    · simp [hcode, hs, Label.closes]

/-- A closure ends the sleep of the source of its stream. -/
theorem userDeferred_closed {h : History} {m m' : Machine} {t : StreamId} {errorCode : Nat}
    {o : Outcome} (hresume : o.issued.any Issued.isResume = false)
    (hbodies : m'.conn.bodies = m.conn.bodies.erase t)
    (ih : ∀ s, userDeferred h s = m.conn.sleeping s) (s : StreamId) :
    userDeferred (⟨m, .callback (.streamClosed t errorCode) env, o, m'⟩ :: h) s
      = m'.conn.sleeping s := by
  have hwakes : Entry.wakes ⟨m, .callback (.streamClosed t errorCode) env, o, m'⟩ s = false :=
    Issued.wakes_eq_false hresume s
  rw [userDeferred_cons, hwakes, ih, Connection.sleeping, Connection.sleeping, hbodies]
  by_cases hs : s = t
  · subst hs
    simp [Entry.defers, Label.closes]
  · simp [Entry.defers, Label.closes, hs, Ne.symm hs]

/-- **Every step keeps the flag what it stands for.** A body is opened only
where there is none, so that its flag replaces no other. -/
theorem Stepped.sleeping {h : History} (hstep : Stepped m l p)
    (hq : m.conn.Queued m.host.pointerWidth) (hsound : p.2.conn.Sound)
    (hopens : ∀ s, (happening ⟨m, l, p.1, p.2⟩).opens = some s → m.conn.bodies.lookup s = none)
    (hterminating : p.2.conn.terminating = false)
    (ih : ∀ s, userDeferred h s = m.conn.sleeping s) (s : StreamId) :
    userDeferred (⟨m, l, p.1, p.2⟩ :: h) s = p.2.conn.sleeping s := by
  have hopened {c' : Connection} {t : StreamId} (hbodies : c'.bodies = m.conn.bodies.insert t {})
      (hnone : m.conn.bodies.lookup t = none) : m.conn.sleeping s = c'.sleeping s := by
    rw [Connection.sleeping_insert hbodies]
    split
    · next hs =>
      rw [hs, Connection.sleeping, hnone]
      rfl
    · rfl
  have hflag {t : StreamId} {body : BodySource} (hs : s = t)
      (hb : m.conn.bodies.lookup t = some body) : m.conn.sleeping s = body.deferred := by
    rw [hs, Connection.sleeping, hb]
    rfl
  have hnat (n : Nat) : (n : Int) ≠ errDeferred := fun h => by
    rw [show errDeferred = -508 from rfl] at h
    omega
  -- a source that was not woken did not sleep
  have hasleep {t : StreamId} {body : BodySource} {n : Int} (hs : s = t)
      (hresumes : body.deferred = true → 0 ≤ n) (hno : ¬ (body.deferred = true ∧ t = s ∧ 0 ≤ n)) :
      body.deferred = false :=
    Bool.eq_false_iff.mpr fun hd => hno ⟨hd, hs.symm, hresumes hd⟩
  cases hstep with
  | @request r env q idle hr =>
    rw [Machine.afterRequest_conn] at hsound hterminating ⊢
    have hquiet (hresume : q.2.issued.any Issued.isResume = false) :
        userDeferred (⟨m, .request r env, (m.afterRequest q).1, (m.afterRequest q).2⟩ :: h) s
          = m.conn.sleeping s := by
      rw [userDeferred_quiet rfl (by rw [Machine.afterRequest_issued]; exact hresume) rfl, ih]
    cases hr with
    | rejected calls => exact hquiet calls.not_resume
    | failed => exact absurd hsound.1 (by simp [World.failed, Connection.invalidate])
    | unreported quiet calls => exact hquiet calls.not_resume
    | answered quiet calls => exact hquiet calls.not_resume
    | terminated => exact absurd hterminating (by simp [Connection.discardPendingState])
    | @requested headers endStream t usable client submitted accepted =>
      refine (hquiet rfl).trans ?_
      cases endStream with
      | true => rfl
      | false => exact hopened rfl (hopens t rfl)
    | @requestUnreported headers endStream t usable client allowed submitted accepted recorded
        exhausted =>
      refine (hquiet rfl).trans ?_
      cases endStream with
      | true => rfl
      | false =>
        refine hopened rfl (hopens t ?_)
        rw [Machine.afterRequest, happening]
        dsimp only
        rw [Request.happening_unreported (List.mem_cons_of_mem _ List.mem_cons_self)
          (submitted.symm ▸ accepted) recorded, submitted]
        rfl
    | @responded t headers endStream usable server tracked first =>
      refine (hquiet rfl).trans ?_
      cases endStream with
      | true => rfl
      | false => exact hopened rfl (hopens t rfl)
    | @trailersQueued t headers body usable opened unended resumes =>
      rw [userDeferred_resume rfl, Connection.sleeping_insert rfl, ih]
      by_cases hs : s = t
      · rw [if_pos hs]
        split
        · rfl
        · next hno => exact (hflag hs opened).trans (hasleep hs resumes hno)
      · rw [if_neg hs, if_neg fun h => hs h.2.1.symm]
    | @trailersStuck t headers body e usable opened unended deferred refused mild =>
      rw [userDeferred_resume (b := True) rfl, ih, if_neg fun h =>
        absurd h.2.2 (not_le.mpr refused)]
      have hkept : (body.withTrailers headers).deferred = body.deferred := rfl
      exact (Connection.sleeping_of_insert_eq (c := m.conn) rfl opened hkept s).symm
    | @dataQueued t chunk endStream body usable opened unended resumes =>
      rw [userDeferred_resume rfl, Connection.sleeping_insert rfl, ih]
      by_cases hs : s = t
      · rw [if_pos hs]
        by_cases hwakes : chunk ≠ [] ∨ endStream = true
        · rw [if_pos hwakes]
          split
          · rfl
          · next hno =>
            refine (hflag hs opened).trans
              (hasleep hs (fun hd => resumes hd hwakes) fun h => hno ?_)
            exact ⟨⟨h.1, hwakes⟩, h.2⟩
        · rw [if_neg hwakes, if_neg fun h => hwakes h.1.2, BodySource.append_deferred]
          exact hflag hs opened
      · rw [if_neg hs, if_neg fun h => hs h.2.1.symm]
    | @dataStuck t chunk endStream body e usable opened unended deferred wakes refused mild =>
      rw [userDeferred_resume (b := True) rfl, ih, if_neg fun h =>
        absurd h.2.2 (not_le.mpr refused)]
      exact (Connection.sleeping_of_insert_eq rfl opened (BodySource.append_deferred _ _) s).symm
    | @resetSubmitted t errorCode afterEndStream usable immediate =>
      refine hquiet ?_
      cases afterEndStream <;> rfl
    | @consumed => exact hquiet rfl
    | _ => exact hquiet rfl
  | @callback cb env d session q driven hc =>
    rw [Machine.afterCallback_conn] at hsound hterminating ⊢
    have hresume := (Stepped.callback driven hc).any_isResume (by simp)
    have hquiet (hdefers : Entry.defers ⟨m, .callback cb env, (m.afterCallback (.ok q.1, q.2)).1,
          (m.afterCallback (.ok q.1, q.2)).2⟩ = none)
            (hcloses : (Label.callback cb env).closes = none) :
        userDeferred (⟨m, .callback cb env, (m.afterCallback (.ok q.1, q.2)).1,
          (m.afterCallback (.ok q.1, q.2)).2⟩ :: h) s = m.conn.sleeping s := by
      rw [userDeferred_quiet hdefers hresume hcloses, ih]
    cases hc with
    | failed spoiled deferred => exact absurd (deferred.symm.trans hsound.2) (by simp)
    | @bodySent t frameHeader length body s' output limit opened written fits copied full =>
      have hflags : s'.body.compact.deferred = body.deferred := by
        obtain ⟨s'', heq, htaken⟩ := (hq t body opened).copyLoop length m.conn.queuedBodySize
        obtain rfl : s' = s'' := congrArg Prod.snd (copied.symm.trans heq)
        rw [BodySource.compact_deferred, htaken.deferred]
      refine (hquiet rfl rfl).trans ?_
      exact (Connection.sleeping_of_insert_eq (c := m.conn) (t := t) rfl opened hflags s).symm
    | @readWhole t length body body' reply is unspent opened whole finished =>
      exact userDeferred_read rfl hresume rfl opened (finished.deferred_eq (hnat _)) ih s
    | @readCopied t length body body' s' reply is unspent opened limited copied finished =>
      have hflags : s'.body.compact.deferred = body.deferred := by
        obtain ⟨s'', heq, htaken⟩ := (hq t body opened).copyLoop length m.conn.queuedBodySize
        obtain rfl : s' = s'' := congrArg Prod.snd (copied.symm.trans heq)
        rw [BodySource.compact_deferred, htaken.deferred]
      have hfinished := finished.deferred_eq (hnat _)
      rw [hflags] at hfinished
      exact userDeferred_read rfl hresume rfl opened hfinished ih s
    | paused => exact hquiet rfl rfl
    | @streamClosed t errorCode credited =>
      exact userDeferred_closed hresume rfl ih s
    | headerBlock kind =>
      rcases kind with ⟨rfl, -⟩ | ⟨rfl, -⟩ | ⟨_, _, _, rfl, -⟩ <;> exact hquiet rfl rfl
    | _ => exact hquiet rfl rfl
  | @ret result env d session q driven hr =>
    rw [Machine.afterReturn_conn] at hsound hterminating ⊢
    have hquiet : userDeferred (⟨m, .ret result env, (m.afterReturn q).1, (m.afterReturn q).2⟩ :: h)
      s
        = m.conn.sleeping s := by
      rw [userDeferred_quiet rfl ((Stepped.ret driven hr).any_isResume (by simp)) rfl, ih]
    cases hr with
    | rejected => exact hquiet
    | upgraded => exact hquiet
    | received => exact hquiet
    | sent => exact hquiet
    | failed => exact absurd hsound.1 (by simp [World.failed, Connection.invalidate])
    | sentThenFailed => exact absurd hsound.1 (by simp [World.failed, Connection.invalidate])
    | receivedLast => exact absurd hterminating (by simp [Connection.announced,
        Connection.terminate, Connection.discardPendingState])
    | receivedUnannounced => exact absurd hterminating (by simp [Connection.terminate,
        Connection.discardPendingState])
    | sentLast => exact absurd hterminating (by simp [Connection.outputTaken,
        Connection.announced, Connection.terminate, Connection.discardPendingState])

end Steps

/-! ## What sleeps has nothing to send -/

namespace Records

/-- **A body whose source sleeps is empty, and still open.** -/
def Rested (r : Records) : Prop :=
  ∀ s b, r.body s = some b → b.deferred = true → b.queue = [] ∧ b.ended = false

section Rested

variable {w : PointerWidth} {r : Records} {server : Bool}

/-- Changing a body leaves the others as they were. -/
theorem Rested.onBody (h : r.Rested) {t : StreamId} {f : Body → Body}
    (hf : ∀ b, r.body t = some b → (f b).deferred = true →
      (f b).queue = [] ∧ (f b).ended = false) : (r.onBody t f).Rested := by
  intro s b hb hd
  by_cases hs : s = t
  · subst hs
    simp only [Records.onBody, Function.update_self] at hb
    obtain ⟨b', hb', rfl⟩ := Option.map_eq_some_iff.mp hb
    exact hf b' hb' hd
  · simp only [Records.onBody, Function.update_of_ne hs] at hb
    exact h s b hb hd

/-- A body that is opened does not sleep. -/
theorem Rested.openBody (h : r.Rested) (t : StreamId) : (r.openBody t).Rested := by
  intro s b hb hd
  by_cases hs : s = t
  · subst hs
    simp only [Records.openBody, Function.update_self] at hb
    obtain rfl := Option.some_inj.mp hb
    exact absurd hd (by simp)
  · simp only [Records.openBody, Function.update_of_ne hs] at hb
    exact h s b hb hd

/-- **What is permitted puts nothing behind a source that sleeps**, if the
queues are counted, nothing that was queued is stuck and no empty frame is asked
for. -/
theorem Rested.record {x : Happening} (h : r.Rested) (hp : r.Permits w server x)
    (hcounted : r.Counted w)
    (hstuck : ∀ s message, message.queues = true → x ≠ .stuck s message)
    (hread : ∀ s length reply, x = .read s length reply → 1 ≤ length) : (r.record x).Rested := by
  cases x with
  | message t message =>
    cases message with
    | request endStream =>
      rw [Records.record]
      split
      · exact h
      · exact h.openBody t
    | informational => exact h
    | response endStream =>
      have hr : Rested { r with responded := Function.update r.responded t true } := h
      rw [Records.record]
      split
      · exact hr
      · exact hr.openBody t
    | data chunk endStream =>
      refine h.onBody fun b hb hd => ?_
      by_cases hwakes : chunk ≠ [] ∨ endStream = true
      · rw [if_pos hwakes] at hd
        exact absurd hd (by simp [Body.resume])
      · -- an empty chunk that ends nothing
        rw [if_neg hwakes] at hd ⊢
        obtain ⟨hchunk, hend⟩ := not_or.mp hwakes
        obtain ⟨hqueue, -⟩ := h t b hb hd
        exact ⟨by simp [Body.add, hqueue, not_not.mp hchunk], by simpa [Body.add] using hend⟩
    | trailers headers => exact h.onBody fun b _ hd => absurd hd (by simp [Body.resume])
  | stuck t message =>
    cases message with
    | request endStream =>
      rw [Records.record]
      split
      · exact h
      · exact h.openBody t
    | informational => exact h
    | response endStream => exact h
    | data => exact absurd rfl (hstuck t _ rfl)
    | trailers => exact absurd rfl (hstuck t _ rfl)
  | resetDeferred => exact h
  | read t length reply =>
    refine h.onBody fun b hb hd => ?_
    have hkept (hd : b.deferred = true) :
        (b.answered reply).queue = [] ∧ (b.answered reply).ended = false := by
      obtain ⟨hqueue, hended⟩ := h t b hb hd
      exact ⟨by simp [Body.answered, hqueue], hended⟩
    cases hasleep : b.deferred with
    | true => exact hkept hasleep
    | false =>
      have hcode : reply.code = errDeferred := by simpa [Body.answered, hasleep] using hd
      rcases hp with rfl | ⟨b', copy, hb', rfl⟩
      · exact absurd hcode (by decide)
      · obtain rfl : b = b' := Option.some_inj.mp (hb.symm.trans hb')
        obtain ⟨-, hdefers, -⟩ :=
          b.answer_facts length copy (hcounted t b hb) (hread t length _ rfl)
        obtain ⟨hqueue, hended⟩ := hdefers.mp hcode
        exact ⟨by simp [Body.answered, hqueue], hended⟩
  | sent t data =>
    refine h.onBody fun b hb hd => ?_
    obtain ⟨hqueue, hended⟩ := h t b hb hd
    exact ⟨by simp [Body.sent, hqueue], hended⟩
  | localEnd => exact h
  | notSent => exact h
  | closed t =>
    intro s b hb hd
    by_cases hs : s = t
    · simp [Records.record, hs] at hb
    · exact h s b (by simpa [Records.record, hs] using hb) hd
  | discarded => exact fun s b hb => absurd hb (by simp [Records.record])
  | nothing => exact h

end Rested

end Records

/-! ## Runs -/

section Runs

variable {host : Host} {h : History} {m : Machine} {l : Label} {p : Outcome × Machine}

/-- The flags of a connection that is not terminating, for any contract that
closes cleanly. -/
theorem Runs.sleeping_eq (hrun : Runs host ClosesCleanly h m) (hsound : m.conn.Sound) :
    m.conn.terminating = false → ∀ s, userDeferred h s = m.conn.sleeping s := by
  have hends : ∀ {h m l}, ClosesCleanly h m l → FailureEndsDrive h l := fun ha => ha.1
  refine Runs.induct_sound
    (I := fun h m => m.conn.terminating = false → ∀ s, userDeferred h s = m.conn.sleeping s)
    hends (fun _ _ => rfl) ?_ hrun hsound
  intro h m l p hrun hbefore ih hallowed hstep hsound hterminating
  exact hstep.sleeping (Runs.queued hends hrun hbefore) hsound
    (fun s => Runs.unopened hrun hbefore hallowed hstep hsound) hterminating
    (ih (hstep.unterminated hsound hterminating))

/-- A stream with a body is on a connection that is not terminating. -/
theorem Runs.unterminated_of_body (hrun : Runs host ClosesCleanly h m) (hsound : m.conn.Sound)
    {s : StreamId} {body : BodySource} (hb : m.conn.bodies.lookup s = some body) :
    m.conn.terminating = false := by
  by_contra hne
  have hempty := Runs.emptied (fun ha => ha.1) hrun hsound (by simpa using hne)
  rw [hempty] at hb
  exact absurd hb (by simp)

/-- The flag of a body says whether its source sleeps. -/
theorem Runs.deferred_eq (hrun : Runs host ClosesCleanly h m) (hsound : m.conn.Sound)
    {s : StreamId} {body : BodySource} (hb : m.conn.bodies.lookup s = some body) :
    userDeferred h s = body.deferred := by
  rw [Runs.sleeping_eq hrun hsound (Runs.unterminated_of_body hrun hsound hb),
    Connection.sleeping, hb]
  rfl

/-- **Nothing that was queued is ever stuck** behind a source that cannot be
resumed, where a fatal answer finds memory for its exception. -/
theorem Runs.never_stuck (hclean : Runs host ClosesCleanly h m) (hbefore : m.conn.Sound)
    (hresumes : ResumesDeferred h l) (hreported : m.WakeReported l) (hstep : Stepped m l p)
    (hsound : p.2.conn.Sound) (s : StreamId) (message : Message) (hqueues : message.queues = true) :
    happening ⟨m, l, p.1, p.2⟩ ≠ .stuck s message := by
  have hends : ∀ {h m l}, ClosesCleanly h m l → FailureEndsDrive h l := fun ha => ha.1
  intro hstuck
  have horigin := hstep.origin hsound
  have hpermits := Runs.permits hends hclean hbefore hstep hsound
  rw [hstuck] at horigin hpermits
  -- the source that could not be woken slept
  have hslept (hb : ∃ b, (recordsAfter h).body s = some b ∧ b.ended = false ∧ b.deferred = true) :
      userDeferred h s = true ∧
        (m.conn.bodies.lookup s).any (fun body => body.deferred && !body.ended) = true := by
    obtain ⟨b, hb, hended, hdeferred⟩ := hb
    rw [← (Runs.records_eq hends hclean hbefore).2] at hb
    obtain ⟨body, hbody, rfl⟩ := Option.map_eq_some_iff.mp hb
    have hd : body.deferred = true := hdeferred
    have he : body.ended = false := hended
    refine ⟨?_, by simp [hbody, hd, he]⟩
    rw [Runs.sleeping_eq hclean hbefore (Runs.unterminated_of_body hclean hbefore hbody),
      Connection.sleeping, hbody]
    exact hdeferred
  cases horigin with
  | requestStuck => exact absurd hqueues (by simp [Message.queues])
  | responseStuck => exact absurd hqueues (by simp [Message.queues])
  | @dataStuck _ chunk endStream env wakes refused mild =>
    obtain ⟨hsleeps, hany⟩ := hslept hpermits
    rcases hresumes hsleeps with haccepted | hfatal
    · exact absurd haccepted (not_le.mpr refused)
    · have hwoken : s ∈ m.conn.wakes (.sendData s chunk endStream) := by
        have hgives : ¬ (chunk = [] ∧ endStream = false) := by
          rintro ⟨rfl, rfl⟩
          simp at wakes
        rw [Connection.wakes, if_neg hgives, if_pos hany]
        exact rfl
      exact absurd (hreported s hwoken hfatal) (by simp [mild hfatal])
  | @trailersStuck _ headers env refused mild =>
    obtain ⟨hsleeps, hany⟩ := hslept hpermits
    rcases hresumes hsleeps with haccepted | hfatal
    · exact absurd haccepted (not_le.mpr refused)
    · have hwoken : s ∈ m.conn.wakes (.sendTrailers s headers) := by
        rw [Connection.wakes, if_pos hany]
        exact rfl
      exact absurd (hreported s hwoken hfatal) (by simp [mild hfatal])

theorem WakesAfforded.ends {h : History} {m : Machine} {l : Label} (ha : WakesAfforded h m l) :
    FailureEndsDrive h l := ha.1.1.1

/-- **What sleeps has nothing to send**, in every run. -/
theorem Runs.rested (hrun : Runs host WakesAfforded h m) (hsound : m.conn.Sound) :
    (recordsAfter h).Rested := by
  refine Runs.induct_sound (I := fun h _ => (recordsAfter h).Rested) WakesAfforded.ends
    (fun s b hb => absurd hb (by simp [recordsAfter, recordsOf])) ?_ hrun hsound
  intro h m l p hrun hbefore ih hallowed hstep hsound
  have hclean : Runs host ClosesCleanly h m := hrun.mono fun ha => ha.1.1
  refine Records.Rested.record ih (Runs.permits (fun ha => ha.1) hclean hbefore hstep hsound)
    (Runs.records_counted WakesAfforded.ends (fun ha => ha.2.1) hrun hbefore)
    (Runs.never_stuck hclean hbefore hallowed.1.2.1 hallowed.2.2 hstep hsound)
    fun s length reply hx => ?_
  have horigin := hstep.origin hsound
  rw [hx] at horigin
  cases horigin with
  | read => exact hallowed.1.2.2

end Runs

/-! ## The theorem -/

/-- What the message calls resume. -/
theorem resumes_sendData {env : Env} {w : World} {s : StreamId} {chunk : Bytes} {endStream : Bool}
    (hnone : w.issued = [])
    (h : ((sendData s chunk endStream).run env w).2.issued.any Issued.isResume = true) :
    w.conn.Usable ∧ ∃ body, w.conn.bodies.lookup s = some body ∧ body.deferred = true ∧
      (chunk ≠ [] ∨ endStream = true) := by
  unfold sendData openBody at h
  by_cases hu : w.conn.Usable
  · cases hb : w.conn.bodies.lookup s with
    | none => simp [hu, hb, hnone] at h
    | some body =>
      cases he : body.ended with
      | true => simp [hu, hb, he, hnone] at h
      | false =>
        by_cases hwakes : body.deferred = true ∧ (chunk ≠ [] ∨ endStream = true)
        · exact ⟨hu, body, rfl, hwakes⟩
        · simp [hu, hb, he, hnone, hwakes] at h
  · simp [hu, hnone] at h

theorem resumes_sendTrailers {env : Env} {w : World} {s : StreamId} {headers : List Header}
    (hnone : w.issued = [])
    (h : ((sendTrailers s headers).run env w).2.issued.any Issued.isResume = true) :
    w.conn.Usable ∧ ∃ body, w.conn.bodies.lookup s = some body ∧ body.deferred = true := by
  unfold sendTrailers openBody at h
  by_cases hu : w.conn.Usable
  · cases hb : w.conn.bodies.lookup s with
    | none => simp [hu, hb, hnone] at h
    | some body =>
      cases he : body.ended with
      | true => simp [hu, hb, he, hnone] at h
      | false =>
        cases hd : body.deferred with
        | true => exact ⟨hu, body, rfl, hd⟩
        | false => simp [hu, hb, he, hnone, hd] at h
  · simp [hu, hnone] at h

/-- The stream a label sends on, and whether it gives the source something to
do: bytes, or the end of the body. -/
def Label.sends : Label → Option (StreamId × Bool)
  | .request (.sendData s chunk endStream) _ => some (s, decide (chunk ≠ [] ∨ endStream = true))
  | .request (.sendTrailers s _) _ => some (s, true)
  | _ => none

/-- A message call is made outside the engine. -/
theorem Stepped.idle_of_sends {m : Machine} {l : Label} {p : Outcome × Machine} {s : StreamId}
    {gives : Bool} (hstep : Stepped m l p) (hsends : l.sends = some (s, gives)) :
    m.drive = none := by
  cases hstep with
  | request idle => exact idle
  | callback => simp [Label.sends] at hsends
  | ret => simp [Label.sends] at hsends

/-- A message call sends no source to sleep. -/
theorem defers_of_sends {e : Entry Machine Label Outcome} {s : StreamId} {gives : Bool}
    (hsends : e.label.sends = some (s, gives)) : Entry.defers e = none := by
  unfold Entry.defers
  split
  · next hl _ => simp [hl, Label.sends] at hsends
  · rfl

/-- A message call that resumes has found a sleeping body, and gives it something
to do. -/
theorem resumes_of_sends {m m' : Machine} {l : Label} {o : Outcome} {s : StreamId} {gives : Bool}
    (hsends : l.sends = some (s, gives)) (htaken : m.step l = some (o, m'))
    (hresumes : o.issued.any Issued.isResume = true) :
    m.conn.Usable ∧ ∃ body, m.conn.bodies.lookup s = some body ∧ body.deferred = true ∧
      gives = true := by
  unfold Label.sends at hsends
  split at hsends
  · obtain ⟨rfl, rfl⟩ := Prod.mk.inj (Option.some_inj.mp hsends)
    obtain ⟨-, hafter⟩ := Machine.request_taken htaken
    have hissued := congrArg (fun p : Outcome × Machine => p.1.issued) hafter
    dsimp only at hissued
    rw [Machine.afterRequest_issued] at hissued
    rw [← hissued] at hresumes
    obtain ⟨husable, body, hb, hd, hgives⟩ := resumes_sendData (w := m.world) rfl hresumes
    exact ⟨husable, body, hb, hd, decide_eq_true hgives⟩
  · obtain ⟨rfl, rfl⟩ := Prod.mk.inj (Option.some_inj.mp hsends)
    obtain ⟨-, hafter⟩ := Machine.request_taken htaken
    have hissued := congrArg (fun p : Outcome × Machine => p.1.issued) hafter
    dsimp only at hissued
    rw [Machine.afterRequest_issued] at hissued
    rw [← hissued] at hresumes
    obtain ⟨husable, body, hb, hd⟩ := resumes_sendTrailers (w := m.world) rfl hresumes
    exact ⟨husable, body, hb, hd, rfl⟩
  · exact absurd hsends (by simp)

/-- An accepted call that gives something to do resumed a source that slept. -/
theorem Stepped.resumed_of_sends {m : Machine} {l : Label} {p : Outcome × Machine}
    (hstep : Stepped m l p) {s : StreamId} (hsends : l.sends = some (s, true)) {v : Value}
    (hresponse : p.1.response = .returned v) :
    m.conn.Usable ∧ ∃ body, m.conn.bodies.lookup s = some body ∧ (body.deferred = true →
      .call m.conn.session (.sessionResumeData s) ∈ p.1.issued ∧
        0 ≤ l.env.reply (.sessionResumeData s)) := by
  cases hstep with
  | @request r env q idle hr =>
    cases hr with
    | rejected => simp [Machine.afterRequest] at hresponse
    | failed => simp [Machine.afterRequest] at hresponse
    | unreported => simp [Machine.afterRequest] at hresponse
    | answered quiet =>
      cases r <;> first | (simp [Label.sends] at hsends; done) | simp [Request.isQuiet] at quiet
    | @trailersQueued t headers body usable opened unended resumes =>
      obtain ⟨rfl, -⟩ := Prod.mk.inj (Option.some_inj.mp hsends)
      refine ⟨usable, body, opened, fun hd => ⟨?_, resumes hd⟩⟩
      rw [Machine.afterRequest_issued, hd]
      exact List.mem_singleton.mpr rfl
    | @dataQueued t chunk endStream body usable opened unended resumes =>
      obtain ⟨rfl, hgives⟩ := Prod.mk.inj (Option.some_inj.mp hsends)
      have hgives := of_decide_eq_true hgives
      refine ⟨usable, body, opened, fun hd => ⟨?_, resumes hd hgives⟩⟩
      rw [Machine.afterRequest_issued]
      dsimp only
      rw [if_pos ⟨hd, hgives⟩]
      exact List.mem_singleton.mpr rfl
    | trailersStuck => simp [Machine.afterRequest] at hresponse
    | dataStuck => simp [Machine.afterRequest] at hresponse
    | _ => simp [Label.sends] at hsends
  | callback => simp [Label.sends] at hsends
  | ret => simp [Label.sends] at hsends

/-- What is not a message call, and does not fail, resumes nothing. -/
theorem Stepped.any_isResume_of_sends {m : Machine} {l : Label} {p : Outcome × Machine}
    (hstep : Stepped m l p) (hsends : l.sends = none) (hsound : p.2.conn.Sound) :
    p.1.issued.any Issued.isResume = false := by
  cases l with
  | callback cb env => exact hstep.any_isResume (by simp)
  | ret result env => exact hstep.any_isResume (by simp)
  | request r env =>
    cases hstep with
    | request idle hr =>
      rw [Machine.afterRequest_conn] at hsound
      rw [Machine.afterRequest_issued]
      cases hr with
      | rejected calls => exact calls.not_resume
      | failed => exact absurd hsound.1 (by simp [World.failed, Connection.invalidate])
      | unreported quiet calls => exact calls.not_resume
      | answered quiet calls => exact calls.not_resume
      | @resetSubmitted t errorCode afterEndStream => cases afterEndStream <;> rfl
      | @terminated errorCode lastStreamId => cases lastStreamId <;> rfl
      | trailersQueued => simp [Label.sends] at hsends
      | trailersStuck => simp [Label.sends] at hsends
      | dataQueued => simp [Label.sends] at hsends
      | dataStuck => simp [Label.sends] at hsends
      | _ => rfl

/-- **No wake-up is lost**, of a state and the history that led to it. -/
structure WakeupsKept (h : History) (m : Machine) : Prop where
  /-- Between two calls nothing is half done. -/
  settled : m.drive = none → m.conn.Sound ∨ m.conn.failed = true
  /-- The flag of a body says whether its source sleeps in the engine. -/
  flags : m.conn.Sound → ∀ s body, m.conn.bodies.lookup s = some body →
    (body.deferred = true ↔ userDeferred h s = true)
  /-- A source that sleeps has an empty queue and a body that is still open:
  nothing that is queued, and no end, waits behind it. -/
  rested : m.conn.Sound → ∀ s body, m.conn.bodies.lookup s = some body →
    userDeferred h s = true → body.queue = [] ∧ body.ended = false
  /-- A call resumes a source only if it sleeps and is given something to do. -/
  needed : ∀ e h', (e :: h') <:+ h → ∀ s gives, e.label.sends = some (s, gives) →
    e.outcome.issued.any Issued.isResume = true → userDeferred h' s = true ∧ gives = true
  /-- An accepted call that gives a sleeping source something to do has resumed
  it. -/
  resumed : ∀ e h', (e :: h') <:+ h → ∀ s gives, e.label.sends = some (s, gives) →
    ∀ v, e.outcome.response = .returned v → userDeferred h' s = true → gives = true →
      .call e.before.conn.session (.sessionResumeData s) ∈ e.outcome.issued ∧
        userDeferred (e :: h') s = false
  /-- Nothing else resumes a source. -/
  alone : ∀ e h', (e :: h') <:+ h → e.label.sends = none → e.after.conn.Sound →
    e.outcome.issued.any Issued.isResume = false

/-- **No wake-up is lost.** Along every run, in any order of calls, drives and
closures, whose chunks fit the counters of their bodies and whose fatal answers
to the waking of a source are reported. -/
theorem no_lost_wakeup {host : Host} {h : History} {m : Machine}
    (hrun : Runs host WakesAfforded h m) : WakeupsKept h m := by
  have hends : ∀ {h m l}, WakesAfforded h m l → FailureEndsDrive h l := WakesAfforded.ends
  -- a body that sleeps in the binding sleeps in the engine
  have hsleeps {h : History} {m : Machine} (hrun : Runs host WakesAfforded h m)
      (hsound : m.conn.Sound) {s : StreamId} {body : BodySource}
      (hb : m.conn.bodies.lookup s = some body) : userDeferred h s = body.deferred :=
    Runs.deferred_eq (hrun.mono fun ha => ha.1.1) hsound hb
  refine ⟨fun hidle => ?_, fun hsound s body hb => ?_, fun hsound s body hb hasleep => ?_, ?_, ?_,
    ?_⟩
  · cases hf : m.conn.failed with
    | true => exact .inr rfl
    | false => exact .inl (Runs.sound_of_idle hends hrun hidle hf)
  · rw [hsleeps hrun hsound hb]
  · rw [hsleeps hrun hsound hb] at hasleep
    have hview : (recordsAfter h).body s = some body.view := by
      rw [← (Runs.records_eq hends hrun hsound).2]
      exact viewBodies_of_lookup hb
    exact Runs.rested hrun hsound s body.view hview hasleep
  · intro e h' hsuf s gives hsends hresumes
    obtain ⟨hprior, hallowed, htaken⟩ := hrun.of_suffix hsuf
    obtain ⟨husable, body, hb, hd, hgives⟩ := resumes_of_sends hsends htaken hresumes
    have hidle := (Machine.stepped htaken).idle_of_sends hsends
    have hsound := Runs.sound_of_idle hends hprior hidle husable.1
    exact ⟨(hsleeps hprior hsound hb).trans hd, hgives⟩
  · intro e h' hsuf s gives hsends v hresponse hasleep hgives
    subst hgives
    obtain ⟨hprior, hallowed, htaken⟩ := hrun.of_suffix hsuf
    have hstep := Machine.stepped htaken
    obtain ⟨husable, body, hb, hresumed⟩ := hstep.resumed_of_sends hsends hresponse
    have hsound := Runs.sound_of_idle hends hprior (hstep.idle_of_sends hsends) husable.1
    obtain ⟨hissued, haccepted⟩ := hresumed ((hsleeps hprior hsound hb).symm.trans hasleep)
    have hwakes : Entry.wakes e s = true :=
      List.any_eq_true.mpr ⟨_, hissued, by simp [Issued.wakes, haccepted]⟩
    refine ⟨hissued, ?_⟩
    rw [userDeferred_cons, defers_of_sends hsends, if_neg (by simp), if_pos (.inl hwakes)]
  · intro e h' hsuf hsends hsound
    obtain ⟨-, -, htaken⟩ := hrun.of_suffix hsuf
    exact (Machine.stepped htaken).any_isResume_of_sends hsends hsound

/-- A client that ends a body behind a source that sleeps. The engine has no
memory to wake it, and the binding none for the exception that says so. -/
def unwokenEnd : List Label := [
  .request (.init .client {}) (.accepting []),
  .request (.initiateConnection []) (.accepting []),
  .request (.sendRequest [] false) (.accepting [(.sessionCheckRequestAllowed, 1),
    (.submitRequest2 [] true, 1)]),
  .request (.dataToSend none) (.accepting []),
  .callback (.readBody 1 16384) (.accepting []),
  .ret 0 (.accepting []),
  .request (.sendData 1 [8] true) { Env.accepting [(.sessionResumeData 1, errNomem)] with
    alloc := fun a => decide (a ≠ .exception) }]

/-- A run of calls that only queues data assumes nothing more of the engine. -/
theorem NoCallbacks.wakes {h : History} {m : Machine} {l : Label} (hquiet : NoCallbacks h)
    (hcloses : l.closes = none) (hreports : ∀ h, ClosedUnreported h l) (hfresh : ∀ h, FreshIds h l)
    (hresumes : ∀ h, ResumesDeferred h l) (hreads : ReadsSome l) : WakesSources h m l :=
  ⟨hquiet.cleanly hcloses hreports hfresh, hresumes h, hreads⟩

/-- What a step did that was told to defer: it sent its source to sleep, and
spoiled nothing. -/
theorem deferred_of_reply {h : History} {m m' : Machine} {s : StreamId} {length : Nat} {env : Env}
    {o : Outcome} {reply : Reply} (hreply : o.response = .replied reply)
    (hcode : reply.code = errDeferred) :
    Entry.defers ⟨m, .callback (.readBody s length) env, o, m'⟩ = some s ∧
      spoiled (⟨m, .callback (.readBody s length) env, o, m'⟩ :: h) = false ∧
      happening ⟨m, .callback (.readBody s length) env, o, m'⟩ = .read s length reply := by
  refine ⟨?_, ?_, ?_⟩
  · rw [Entry.defers]
    dsimp only
    rw [hreply]
    exact if_pos hcode
  · rw [spoiled]
    dsimp only
    rw [hreply]
    exact decide_eq_false (by rw [hcode]; decide)
  · rw [happening]
    dsimp only
    rw [hreply]
    exact if_neg (by rw [hcode]; decide)

/-- A source that is asked while the counter of its body is back at zero sleeps,
and nothing leaves its queue. -/
theorem Runs.read_wrapped {host : Host} {h : History} {m : Machine} {s : StreamId}
    {body : BodySource} {length : Nat} (hrun : Runs host WakesSources h m) (hsound : m.conn.Sound)
    (hopened : m.conn.bodies.lookup s = some body) (hdriven : m.drive ≠ none)
    (hunlimited : m.conn.outputRemaining < 0)
    (hwrapped : body.queue.length % host.pointerWidth.modulus = 0) (hunended : body.ended = false)
    (hallowed : WakesSources h m (.callback (.readBody s length) (.accepting []))) :
    ∃ e body', e.label = .callback (.readBody s length) (.accepting []) ∧
      Runs host WakesSources (e :: h) e.after ∧ e.after.conn.Sound ∧ e.after.drive = m.drive ∧
      spoiled (e :: h) = false ∧ userDeferred (e :: h) s = true ∧
      e.after.conn.bodies.lookup s = some body' ∧ body'.queue = body.queue := by
  have hends : ∀ {h m l}, WakesSources h m l → FailureEndsDrive h l := fun ha => ha.1.1
  obtain ⟨hqueued, hrecords⟩ := Runs.records_eq hends hrun hsound
  have hhost : m.host = host := Runs.host_eq hrun
  obtain ⟨o, m', hread, hreply, hsound'⟩ := Machine.read_counter hopened
    (hhost ▸ hqueued s body hopened) hsound hdriven hunlimited length
  have hrun' := hrun.extend hallowed hread
  -- the counter says that there is nothing to send
  have hcode := (@Body.answer_wrapped host.pointerWidth body.view hwrapped length).2 hunended
  rw [hhost] at hreply
  have hbuffer : (body.view.answer host.pointerWidth length false).buffer = [] := by
    rw [Body.answer_buffer]
    rfl
  generalize body.view.answer host.pointerWidth length false = reply at hreply hcode hbuffer
  obtain ⟨hdefers, hunspoiled, hhappening⟩ := @deferred_of_reply h m m' s length (.accepting []) o
    reply hreply hcode
  have hrecord : m'.conn.records.body s = some (body.view.answered reply) := by
    have hbefore : (recordsAfter h).body s = some body.view := by
      rw [← hrecords]
      exact viewBodies_of_lookup hopened
    rw [(Runs.records_eq hends hrun' hsound').2]
    show ((recordsAfter h).record (happening _)).body s = _
    rw [hhappening]
    simp [Records.record, Records.onBody, hbefore]
  obtain ⟨body', hopened', hview⟩ := Option.map_eq_some_iff.mp hrecord
  refine ⟨_, body', rfl, hrun', hsound', ?_, hunspoiled, ?_, hopened', ?_⟩
  · obtain ⟨d, session, hbefore, hafter⟩ := (Machine.stepped hread).callback_drive
    exact hafter.trans hbefore.symm
  · rw [userDeferred_cons, if_pos hdefers]
  · have hqueue : body'.queue = body.queue.drop reply.buffer.length := congrArg Body.queue hview
    rw [hqueue, hbuffer]
    rfl

/-- **A flood sends a source to sleep** with 4096 mebibytes behind it, on a
platform of 32 bits, and `data_to_send` returns. -/
theorem Runs.asleep_mebibytes :
    ∃ h m body, Runs { pointerWidth := .w32 } WakesSources h m ∧ m.drive = none ∧ m.conn.Sound ∧
      m.conn.bodies.lookup 1 = some body ∧ userDeferred h 1 = true ∧
      body.queue.length = 2 ^ 32 := by
  obtain ⟨h, m, body, hrun, hquiet, hadds, hlength, -⟩ := Runs.mebibytes WakesSources
    ⟨_, rfl, by decide, ⟨rfl, by decide, rfl, rfl⟩⟩ fun hquiet =>
      hquiet.wakes rfl (fun _ => trivial) (fun _ => trivial) (fun _ _ => .inl le_rfl) trivial
  obtain ⟨is, m₁, hentered, -, hbodies, hsound, hdrive, hunlimited⟩ :=
    Machine.step_dataToSend hadds.idle hadds.usable
  obtain ⟨h₁, hrun₁, hquiet₁⟩ := hquiet.extend hrun hentered
    (hquiet.wakes rfl (fun _ => trivial) (fun _ => trivial) (fun _ => trivial) trivial) (by simp)
  have hopened : m₁.conn.bodies.lookup 1 = some body := hbodies ▸ hadds.opened
  have hwrapped : body.queue.length % PointerWidth.w32.modulus = 0 := by
    rw [hlength]
    rfl
  -- the engine asks for a frame
  have hreads : WakesSources h₁ m₁ (.callback (.readBody 1 16384) (.accepting [])) :=
    hquiet₁.wakes rfl (fun _ => trivial) (fun _ => trivial) (fun _ => trivial)
      (show 1 ≤ 16384 by decide)
  obtain ⟨e, body', hlabel, hrun₂, hsound₂, hdrive₂, hunspoiled, hasleep, hopened', hqueue⟩ :=
    hrun₁.read_wrapped hsound hopened (by simp [hdrive]) hunlimited hwrapped hadds.unended hreads
  -- it gets none, and the call is over
  obtain ⟨v, is₂, hreturned⟩ := Machine.step_taken (hdrive₂.trans hdrive)
  have hclosed : closedStreams (e :: h₁) = [] := by
    rw [closedStreams, List.filterMap_cons, hlabel]
    exact hquiet₁.closedStreams_eq
  have hreturns : WakesSources (e :: h₁) e.after (.ret 0 (.accepting [(.sessionWantRead, 1)])) := by
    refine ⟨⟨fun hspoiled => ?_, fun s hs => ?_, fun s hs => ?_, trivial, trivial⟩, trivial,
      trivial⟩
    · exact absurd (hspoiled.symm.trans hunspoiled) (by simp)
    · exact absurd hs (by simp [Label.closes])
    · rw [hclosed] at hs
      exact absurd hs List.not_mem_nil
  have hrun₃ := hrun₂.extend hreturns hreturned
  have hcleanly {h : History} {m : Machine}
    (hrun : Runs { pointerWidth := .w32 } WakesSources h m) :
      Runs { pointerWidth := .w32 } ClosesCleanly h m := hrun.mono fun ha => ha.1
  refine ⟨_, _, body', hrun₃, rfl, hsound₂, hopened', ?_, hqueue ▸ hlength⟩
  rw [(hcleanly hrun₃).deferred_eq hsound₂ hopened',
    ← (hcleanly hrun₂).deferred_eq hsound₂ hopened']
  exact hasleep

set_option maxRecDepth 4000 in
/-- **A wake-up can be lost** where a fatal answer is not reported, and a source
can be sent to sleep for nothing where a counter has wrapped. -/
theorem no_lost_wakeup_leftBehind :
    (∃ c, Run.execute Machine.step WakesSources ([], Machine.fresh {}) unwokenEnd = some c ∧
      c.2.drive = none ∧ ¬ WakeupsKept c.1 c.2) ∧
    ∃ h m, Runs { pointerWidth := .w32 } WakesSources h m ∧ m.drive = none ∧
      ¬ WakeupsKept h m := by
  constructor
  · obtain ⟨c, hc, hidle, hsound, hasleep, body, hb, hended⟩ : ∃ c,
        Run.execute Machine.step WakesSources ([], Machine.fresh {}) unwokenEnd = some c ∧
        c.2.drive = none ∧ c.2.conn.Sound ∧ userDeferred c.1 1 = true ∧
        ∃ body, c.2.conn.bodies.lookup 1 = some body ∧ body.ended = true :=
      ⟨_, rfl, rfl, by decide, by decide, _, rfl, rfl⟩
    refine ⟨c, hc, hidle, fun hkept => ?_⟩
    have hopen := (hkept.rested hsound 1 body hb hasleep).2
    exact absurd (hopen.symm.trans hended) (by simp)
  · obtain ⟨h, m, body, hrun, hidle, hsound, hb, hasleep, hlength⟩ := Runs.asleep_mebibytes
    refine ⟨h, m, hrun, hidle, fun hkept => ?_⟩
    rw [(hkept.rested hsound 1 body hb hasleep).1] at hlength
    exact absurd hlength (by decide)

/-- A client whose source runs dry, and is woken by the next chunk. -/
def wokenSource : List Label := [
  .request (.init .client {}) (.accepting []),
  .request (.initiateConnection []) (.accepting []),
  .request (.sendRequest [] false) (.accepting [(.sessionCheckRequestAllowed, 1),
    (.submitRequest2 [] true, 1)]),
  .request (.dataToSend none) (.accepting []),
  .callback (.readBody 1 16384) (.accepting []),
  .ret 0 (.accepting []),
  .request (.sendData 1 [7] false) (.accepting [])]

set_option maxRecDepth 4000 in
theorem no_lost_wakeup_wokenSource :
    ∃ c, Run.execute Machine.step WakesAfforded ([], Machine.fresh {}) wokenSource = some c ∧
      (∃ e h', c.1 = e :: h' ∧ userDeferred h' 1 = true ∧
        .call (some 1) (.sessionResumeData 1) ∈ e.outcome.issued) ∧
      userDeferred c.1 1 = false := by
  obtain ⟨c, hc, e, h', heq, hasleep, hsends, hreturned, hsession⟩ : ∃ c,
      Run.execute Machine.step WakesAfforded ([], Machine.fresh {}) wokenSource = some c ∧
      ∃ e h', c.1 = e :: h' ∧ userDeferred h' 1 = true ∧ e.label.sends = some (1, true) ∧
      e.outcome.response = .returned .none ∧ e.before.conn.session = some 1 :=
    ⟨_, rfl, _, _, rfl, by decide, by decide, rfl, rfl⟩
  have hresumed := (no_lost_wakeup (Run.of_execute .start hc)).resumed e h'
    (heq ▸ List.suffix_refl _) 1 true hsends .none hreturned hasleep rfl
  rw [hsession] at hresumed
  exact ⟨c, hc, ⟨e, h', heq, hasleep, hresumed.1⟩, heq ▸ hresumed.2⟩

end Ngh2
