import Ngh2.ChunkQueue
import Ngh2.Hygiene

/-!
# Accepted calls of `send_data`

What `send_data` does where it is accepted, as an equation, and what it does
when it is made again and again. A chunk is queued by reference: an application
that queues the same one over and over fills no memory with it, but the counters
of the binding count it every time. Where nothing but such calls was made, the
queue of the body grows by the length of the chunk each time (`Runs.flooded`),
and a counter of 32 bits is back at zero after 4096 calls with a mebibyte.
-/

namespace Ngh2

open Effect Nghttp2

/-! ## An accepted call of `send_data` -/

/-- A body after `send_data` was accepted. -/
def BodySource.given (width : PointerWidth) (body : BodySource) (chunk : Bytes)
    (endStream : Bool) : BodySource :=
  if chunk ≠ [] ∨ endStream = true then (body.append width chunk endStream).resumed
  else body.append width chunk endStream

/-- A connection after `send_data` was accepted. -/
def Connection.given (width : PointerWidth) (c : Connection) (s : StreamId) (body : BodySource)
    (chunk : Bytes) (endStream : Bool) : Connection :=
  { c with
    bodies := c.bodies.insert s (body.given width chunk endStream)
    queuedBodySize := countQueued width c.queuedBodySize chunk }

/-- A machine after `send_data` was accepted. -/
def Machine.given (m : Machine) (s : StreamId) (body : BodySource) (chunk : Bytes)
    (endStream : Bool) : Machine :=
  { m with conn := m.conn.given m.host.pointerWidth s body chunk endStream }

/-- The waking of the source of a body. -/
def Connection.waking (c : Connection) (s : StreamId) (body : BodySource) (chunk : Bytes)
    (endStream : Bool) : List Issued :=
  if body.deferred = true ∧ (chunk ≠ [] ∨ endStream = true) then
    [.call c.session (.sessionResumeData s)] else []

/-- **What it takes for `send_data` to be accepted.** -/
structure Accepts (env : Env) (c : Connection) (s : StreamId) (body : BodySource) (chunk : Bytes)
    (endStream : Bool) : Prop where
  usable : c.Usable
  opened : c.bodies.lookup s = some body
  unended : body.ended = false
  resumes : body.deferred = true → (chunk ≠ [] ∨ endStream = true) →
    0 ≤ env.reply (.sessionResumeData s)

section Sending

variable {width : PointerWidth} {m m' : Machine} {env : Env} {s : StreamId} {chunk a b : Bytes}
  {endStream : Bool} {body : BodySource} {is : List Issued}

/-- What `send_data` does where it is accepted. -/
theorem run_sendData_accepted {c : Connection} {host : Host}
    (h : Accepts env c s body chunk endStream) :
    (sendData s chunk endStream).run env ⟨host, c, []⟩
      = (.ok (.value .none),
          ⟨host, c.given host.pointerWidth s body chunk endStream,
            c.waking s body chunk endStream⟩) := by
  unfold sendData Connection.given Connection.waking BodySource.given
  by_cases hwake : body.deferred = true ∧ (chunk ≠ [] ∨ endStream = true)
  · have hn : ¬ env.reply (.sessionResumeData s) < 0 := not_lt.mpr (h.resumes hwake.1 hwake.2)
    simp [openBody, run_resumeBody, h.usable, h.opened, h.unended, hwake, hn, Finmap.insert_insert]
  · have heq : (chunk ≠ [] ∨ endStream = true) →
        (body.append host.pointerWidth chunk endStream).resumed
          = body.append host.pointerWidth chunk endStream := by
      intro hw
      have hd : (body.append host.pointerWidth chunk endStream).deferred = false := by
        simpa [hw] using hwake
      rw [BodySource.resumed, ← hd]
    have hif : (if chunk ≠ [] ∨ endStream = true then
          (body.append host.pointerWidth chunk endStream).resumed
        else body.append host.pointerWidth chunk endStream)
          = body.append host.pointerWidth chunk endStream := by
      split
      · exact heq ‹_›
      · rfl
    rw [hif]
    simp [openBody, h.usable, h.opened, h.unended, hwake]

/-- **`send_data` returns exactly where it is accepted.** -/
theorem Machine.step_sendData :
    m.step (.request (.sendData s chunk endStream) env) = some (⟨.returned .none, is⟩, m') ↔
      m.drive = none ∧ ∃ body, Accepts env m.conn s body chunk endStream ∧
        is = m.conn.waking s body chunk endStream ∧
        m' = m.given s body chunk endStream := by
  constructor
  · intro hstep
    have hreturned : (⟨.returned .none, is⟩ : Outcome).response = .returned .none := rfl
    generalize ho : (⟨.returned .none, is⟩ : Outcome) = o at hstep hreturned
    have hidle := (Machine.stepped hstep).request_idle
    refine ⟨hidle, ?_⟩
    have hinv := Machine.stepped hstep
    generalize hp : (o, m') = p at hinv
    cases hinv with
    | request idle hr =>
      cases hr with
      | @dataQueued _ _ _ body usable opened unended resumes =>
        obtain ⟨rfl, rfl⟩ := Prod.mk.inj hp
        exact ⟨body, ⟨usable, opened, unended, resumes⟩, (Outcome.mk.inj ho).2, rfl⟩
      | answered quiet => simp [Request.isQuiet] at quiet
      | rejected | failed | unreported | dataStuck =>
        obtain ⟨rfl, -⟩ := Prod.mk.inj hp
        simp at hreturned
  · rintro ⟨hidle, body, haccepts, rfl, rfl⟩
    obtain ⟨host, c, drive⟩ := m
    obtain rfl : drive = none := hidle
    show some (Machine.afterRequest _ ((sendData s chunk endStream).run env ⟨host, c, []⟩)) = _
    rw [run_sendData_accepted haccepts]
    rfl

theorem BodySource.given_deferred :
    (body.given width chunk endStream).deferred
      = if chunk ≠ [] ∨ endStream = true then false else body.deferred := by
  unfold BodySource.given
  split
  · rfl
  · exact BodySource.append_deferred _ _

/-- The queue after `send_data`, and what else it assigns. -/
theorem BodySource.Sound.given (h : body.Sound width) (chunk : Bytes) (endStream : Bool) :
    (body.given width chunk endStream).Sound width ∧
      (body.given width chunk endStream).queue = body.queue ++ chunk ∧
      (body.given width chunk endStream).ended = endStream ∧
      (body.given width chunk endStream).trailers = body.trailers := by
  have happended := h.append chunk endStream
  unfold BodySource.given
  split
  · exact ⟨happended.flags _ false _, h.queue_append _ _, BodySource.append_ended _ _,
      BodySource.append_trailers _ _⟩
  · exact ⟨happended, h.queue_append _ _, BodySource.append_ended _ _,
      BodySource.append_trailers _ _⟩

end Sending

/-! ## The same call again and again -/

/-- Whether a step was a call of the application's. -/
def Entry.isRequest (e : Entry Machine Label Outcome) : Bool :=
  match e.label, e.outcome.response with
  | .request _ _, .replied _ => false
  | .request _ _, _ => true
  | _, _ => false

/-- **Nothing but calls**: the engine made no callback, and returned from none
of its functions. -/
def NoCallbacks (h : History) : Prop := ∀ e ∈ h, Entry.isRequest e = true

instance (h : History) : Decidable (NoCallbacks h) :=
  inferInstanceAs (Decidable (∀ e ∈ h, Entry.isRequest e = true))

/-- **A body that can be added to.** -/
structure Machine.Adds (m : Machine) (s : StreamId) (body : BodySource) : Prop where
  idle : m.drive = none
  usable : m.conn.Usable
  opened : m.conn.bodies.lookup s = some body
  unended : body.ended = false

section Floods

variable {host : Host} {Allowed : History → Machine → Label → Prop} {h : History}
  {m : Machine} {s : StreamId} {body : BodySource} {chunk : Bytes} {endStream : Bool}

theorem NoCallbacks.tail {e : Entry Machine Label Outcome} (hquiet : NoCallbacks (e :: h)) :
    NoCallbacks h := fun e' he => hquiet e' (List.mem_cons_of_mem e he)

/-- A call on top of calls. -/
theorem NoCallbacks.cons (hquiet : NoCallbacks h) {r : Request} {env : Env} {o : Outcome}
    {m' : Machine} (ho : ∀ reply, o.response ≠ .replied reply) :
    NoCallbacks (⟨m, .request r env, o, m'⟩ :: h) := by
  intro e he
  rcases List.mem_cons.mp he with rfl | he
  · unfold Entry.isRequest
    cases hresponse : o.response with
    | replied reply => exact absurd hresponse (ho reply)
    | _ => rfl
  · exact hquiet e he

/-- A run of calls goes on with a call. -/
theorem NoCallbacks.extend (hquiet : NoCallbacks h) (hrun : Runs host Allowed h m) {r : Request}
    {env : Env} {o : Outcome} {m' : Machine} (htaken : m.step (.request r env) = some (o, m'))
    (hallowed : Allowed h m (.request r env)) (ho : ∀ reply, o.response ≠ .replied reply) :
    ∃ h', Runs host Allowed h' m' ∧ NoCallbacks h' :=
  ⟨_, hrun.extend hallowed htaken, hquiet.cons ho⟩

/-- What such a step was. -/
theorem Entry.of_isRequest {e : Entry Machine Label Outcome} (he : Entry.isRequest e = true) :
    (∃ r env, e.label = .request r env) ∧ ∀ reply, e.outcome.response ≠ .replied reply := by
  unfold Entry.isRequest at he
  split at he
  · exact absurd he (by simp)
  · next hlabel hreply => exact ⟨⟨_, _, hlabel⟩, hreply⟩
  · exact absurd he (by simp)

/-- Where there were only calls, no closure was reported. -/
theorem NoCallbacks.closedStreams_eq (hquiet : NoCallbacks h) : closedStreams h = [] := by
  refine List.filterMap_eq_nil_iff.mpr fun e he => ?_
  obtain ⟨⟨r, env, hlabel⟩, -⟩ := Entry.of_isRequest (hquiet e he)
  rw [hlabel]
  rfl

/-- Nor did a callback fail. -/
theorem NoCallbacks.unspoiled (hquiet : NoCallbacks h) : spoiled h = false := by
  cases h with
  | nil => rfl
  | cons e h =>
    obtain ⟨-, hreply⟩ := Entry.of_isRequest (hquiet e List.mem_cons_self)
    rw [spoiled]
    split
    · next reply hresponse => exact absurd hresponse (hreply reply)
    · rfl

/-- So the rule about failed callbacks asks nothing of the next step. -/
theorem NoCallbacks.endsOnFailure (hquiet : NoCallbacks h) (l : Label) : EndsOnFailure h m l :=
  fun hspoiled => absurd (hspoiled.symm.trans hquiet.unspoiled) (by simp)

/-- So a step that reports no closure, nothing about a closed stream and no new
request is clean. -/
theorem NoCallbacks.cleanly (hquiet : NoCallbacks h) {l : Label} (hcloses : l.closes = none)
    (hreports : ∀ h, ClosedUnreported h l) (hfresh : ∀ h, FreshIds h l) : ClosesCleanly h m l := by
  refine ⟨hquiet.endsOnFailure (m := m) l, fun s hs => ?_, fun s hs => ?_, hreports h, hfresh h⟩
  · rw [hcloses] at hs
    exact absurd hs (by simp)
  · rw [hquiet.closedStreams_eq] at hs
    exact absurd hs List.not_mem_nil

/-- `send_data` returns, and leaves a body that can be added to unless it ended
it. -/
theorem Machine.Adds.step (ha : m.Adds s body) (chunk : Bytes) (endStream : Bool) :
    ∃ is, m.step (.request (.sendData s chunk endStream) (.accepting []))
      = some (⟨.returned .none, is⟩, m.given s body chunk endStream) :=
  ⟨_, Machine.step_sendData.mpr ⟨ha.idle, body,
    ⟨ha.usable, ha.opened, ha.unended, fun _ _ => le_rfl⟩, rfl, rfl⟩⟩

theorem Machine.given_lookup :
    (m.given s body chunk endStream).conn.bodies.lookup s
      = some (body.given m.host.pointerWidth chunk endStream) :=
  Finmap.lookup_insert _

/-- **A chunk queued again and again**: after a number of calls that all queue
the same chunk, as many copies of it are queued. -/
theorem Runs.flooded
    (hallowed : ∀ {h m}, NoCallbacks h →
      Allowed h m (.request (.sendData s chunk false) (.accepting [])))
    (hrun : Runs host Allowed h m) (hquiet : NoCallbacks h) (ha : m.Adds s body)
    (hsound : body.Sound host.pointerWidth) (n : Nat) :
    ∃ h' m' body', Runs host Allowed h' m' ∧ NoCallbacks h' ∧ m'.Adds s body' ∧
      body'.Sound host.pointerWidth ∧
      body'.queue.length = body.queue.length + n * chunk.length := by
  induction n with
  | zero => exact ⟨h, m, body, hrun, hquiet, ha, hsound, by rw [Nat.zero_mul, Nat.add_zero]⟩
  | succ n ih =>
    obtain ⟨h', m', body', hrun', hquiet', ha', hsound', hlength⟩ := ih
    obtain ⟨is, htaken⟩ := ha'.step chunk false
    have hhost : m'.host = host := Runs.host_eq hrun'
    obtain ⟨hgiven, hqueue, hended, -⟩ := hsound'.given chunk false
    rw [← hhost] at hgiven hqueue hended
    obtain ⟨h₁, hrun₁, hquiet₁⟩ := hquiet'.extend hrun' htaken (hallowed hquiet') (by simp)
    refine ⟨h₁, _, _, hrun₁, hquiet₁, ⟨ha'.idle, ha'.usable, Machine.given_lookup, hended⟩,
      hhost ▸ hgiven, ?_⟩
    rw [hqueue, List.length_append, hlength, Nat.succ_mul, Nat.add_assoc]

/-- `data_to_send` without a limit enters the engine with everything in
place. -/
theorem Machine.step_dataToSend (hidle : m.drive = none) (husable : m.conn.Usable) :
    ∃ is m', m.step (.request (.dataToSend none) (.accepting [])) = some (⟨.entered, is⟩, m') ∧
      m'.host = m.host ∧ m'.conn.bodies = m.conn.bodies ∧ m'.conn.Sound ∧
      m'.drive = some (.send, m.conn.session) ∧ m'.conn.outputRemaining < 0 := by
  obtain ⟨host, c, drive⟩ := m
  obtain rfl : drive = none := hidle
  have hfailed : c.failed = false := husable.1
  have hactive : c.active = true := husable.2.1
  show ∃ is m', some (Machine.afterRequest ⟨host, c, none⟩
    ((dataToSend none).run (.accepting []) ⟨host, c, []⟩)) = some (⟨.entered, is⟩, m') ∧ _
  simp [dataToSend, hactive, hfailed, Machine.afterRequest, Connection.Sound]

/-- A machine whose call took the output and came back. -/
def Machine.taken (m : Machine) : Machine :=
  { m with conn := { m.conn with output := none, outputRemaining := 0 }, drive := none }

/-- `data_to_send` comes back with the output from an engine that still wants to
read. -/
theorem Machine.step_taken {session : Option SessionId} (hdrive : m.drive = some (.send, session)) :
    ∃ v is, m.step (.ret 0 (.accepting [(.sessionWantRead, 1)]))
      = some (⟨.returned v, is⟩, m.taken) := by
  obtain ⟨host, c, drive⟩ := m
  obtain rfl : drive = some (.send, session) := hdrive
  generalize henv : Env.accepting [(.sessionWantRead, 1)] = env
  have halloc (a : Alloc) : env.alloc a = true := by
    rw [← henv]
    rfl
  have hreads : env.reply .sessionWantRead ≠ 0 := by
    rw [← henv]
    decide
  have htake (is : List Issued) : takeOutput.run env ⟨host, c, is⟩
      = (.ok ((staged c.output).take c.outputSize), ⟨host, { c with output := none }, is⟩) := by
    rw [run_takeOutput, if_neg (by simp [halloc])]
  show ∃ v is, some (Machine.afterReturn ⟨host, c, some (.send, session)⟩
    ((finishSend 0).run env ⟨host, c, []⟩)) = some (⟨.returned v, is⟩, _)
  rw [run_finishSend, run_bind, run_raiseCallbackOrNative_ok env _ le_rfl]
  dsimp only
  rw [run_bind, run_conn]
  dsimp only
  cases hclosing : c.closing with
  | false =>
    rw [if_neg (by simp), htake]
    exact ⟨_, _, rfl⟩
  | true =>
    obtain ⟨is, -, hquiet⟩ := run_updateTerminalState host env c hclosing
    rw [if_neg fun hfin : c.Finished env => hreads hfin.2.2.2.1] at hquiet
    rw [if_pos rfl, run_bind, hquiet]
    dsimp only
    rw [htake]
    exact ⟨_, _, rfl⟩

end Floods

/-- A client that opened a body. -/
def opening : List Label := [
  .request (.init .client {}) (.accepting []),
  .request (.initiateConnection []) (.accepting []),
  .request (.sendRequest [] false) (.accepting [(.sessionCheckRequestAllowed, 1),
    (.submitRequest2 [] true, 1)])]

/-- **A flood of mebibytes**: 4096 of them fill a counter of 32 bits exactly, and
it is back at zero. -/
theorem Runs.mebibytes (Allowed : History → Machine → Label → Prop)
    [∀ h m l, Decidable (Allowed h m l)]
    (hopen : ∃ c, Run.execute Machine.step Allowed ([], Machine.fresh { pointerWidth := .w32 })
      opening = some c ∧ NoCallbacks c.1 ∧ c.2.Adds 1 {})
    (hallowed : ∀ {h m}, NoCallbacks h →
      Allowed h m (.request (.sendData 1 mebibyte false) (.accepting []))) :
    ∃ h m body, Runs { pointerWidth := .w32 } Allowed h m ∧ NoCallbacks h ∧ m.Adds 1 body ∧
      body.queue.length = 2 ^ 32 ∧ body.queuedSize = 0 := by
  obtain ⟨c, hc, hquiet, hadds⟩ := hopen
  obtain ⟨h, m, body, hrun, hquiet, hadds, hsound, hlength⟩ :=
    Runs.flooded hallowed (Run.of_execute .start hc) hquiet hadds BodySource.sound_empty 4096
  have hfull : body.queue.length = 2 ^ 32 := by
    rw [hlength, mebibyte, List.length_replicate]
    rfl
  refine ⟨h, m, body, hrun, hquiet, hadds, hfull, ?_⟩
  rw [hsound.size, hfull]
  rfl

end Ngh2
