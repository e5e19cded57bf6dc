import Ngh2.Failure
import Ngh2.Rejections
import Ngh2.SideBySide

/-!
# Observers leave no trace

An application looks at its connection all the time: it polls the events, it
asks what the engine wants and how large the windows are, and it tries calls
that are refused. None of this has a part in what happens. Take any run and
leave out every call of `events`, every query and every call that was rejected
without failing the connection and without the engine taking anything of it:
what is left is a run again, in which every remaining call, callback and return
has the outcome it had. It ends in the same state, but for the events: the
connection still holds those it would have given away, in the order in which
they were handed over, before the others.

So how often an application polls, and what it asks or tries on the way, makes
no difference to its peer or to itself.
-/

namespace Ngh2

open Effect Nghttp2

/-! ## Observing -/

/-- The operations that only ask. -/
def Request.isQuery : Request → Bool
  | .getStreamPriority _ => true
  | .wantRead => true
  | .wantWrite => true
  | .nextStreamId => true
  | .canSendRequest => true
  | .queuedBodySize _ => true
  | .remoteWindowSize _ => true
  | .localWindowSize _ => true
  | .localSettings => true
  | .remoteSettings => true
  | _ => false

/-- What one sees of a step. -/
def Entry.seen (e : Entry Machine Label Outcome) : Label × Outcome := (e.label, e.outcome)

/-- Whether the engine took what a use of a session submits. -/
def Issued.taken (env : Env) : Issued → Bool
  | .call _ q => !q.isQuery && decide (0 ≤ env.reply q)
  | _ => false

/-- Whether the engine took anything in a step. A call that raises for want of
memory may come after that. -/
def Entry.taken (e : Entry Machine Label Outcome) : Bool :=
  e.outcome.issued.any (Issued.taken e.label.env)

/-- **Whether a step observes**: a call of `events`, a query that was answered,
or a call that was rejected, did not fail the connection and had nothing taken
by the engine. An `__init__` that raises is not one, since it may have assigned
some of the limits. -/
def Entry.observes (e : Entry Machine Label Outcome) : Bool :=
  match e.label, e.outcome.response with
  | .request .takeEvents _, _ => true
  | .request (.init _ _) _, _ => false
  | .request r _, .returned _ => r.isQuery
  | .request _ _, .raised _ => e.after.conn.failed == e.before.conn.failed && !(Entry.taken e)
  | _, _ => false

/-- What the observers assume of the engine: a sleeping source can be woken, and
a fatal answer to that is reported. -/
def WakesReported (h : History) (m : Machine) (l : Label) : Prop :=
  WakesSources h m l ∧ m.WakeReported l

instance (h : History) (m : Machine) (l : Label) : Decidable (WakesReported h m l) :=
  inferInstanceAs (Decidable (WakesSources h m l ∧ m.WakeReported l))

/-- The runs of the machine, whatever its surroundings do. -/
abbrev AnyRuns (host : Host) : History → Machine → Prop := Runs host fun _ _ _ => True

section Steps

variable {host : Host} {h : History} {m : Machine} {p : Outcome × Machine} {env : Env}

/-- A query changes nothing. -/
theorem Stepped.queried {r : Request} (hr : r.isQuery = true) (hstep : Stepped m (.request r env) p)
    {v : Value} (hreturned : p.1.response = .returned v) : p.2.conn = m.conn := by
  cases hstep with
  | request idle hr' =>
    rw [Machine.afterRequest_conn]
    cases hr' with
    | answered => rfl
    | rejected | failed | unreported => simp [Machine.afterRequest] at hreturned
    | _ => first | rfl | simp [Request.isQuery] at hr

/-- No operation but those that enter the engine leaves one on the stack. -/
theorem Stepped.drive_of_request {r : Request} (hstep : Stepped m (.request r env) p)
    (hentered : p.1.response ≠ .entered) : p.2 = { m with conn := p.2.conn } := by
  cases hstep with
  | @request r env q idle hr =>
    obtain ⟨x, w⟩ := q
    rcases x with e | v | d
    · rfl
    · rfl
    · exact absurd rfl hentered

/-- `events` gives the events away, and keeps none. -/
theorem Machine.step_takeEvents {m' : Machine} {o : Outcome}
    (htaken : m.step (.request .takeEvents env) = some (o, m')) :
    o = ⟨.returned (.events m.conn.events), []⟩ ∧
      m' = { m with conn := { m.conn with events := [] } } := by
  obtain ⟨host, c, drive⟩ := m
  cases drive with
  | some d => exact absurd htaken (by simp [Machine.step])
  | none =>
    cases htaken
    exact ⟨rfl, rfl⟩

theorem Label.of_polls {l : Label} (h : l.polls = true) : ∃ env, l = .request .takeEvents env := by
  unfold Label.polls at h
  split at h
  · exact ⟨_, rfl⟩
  · exact absurd h (by simp)

/-- What a step that is no call of `events` gives to the owner. -/
theorem delivered_of_not_polls {e : Entry Machine Label Outcome} (h : e.label.polls = false) :
    delivered e = [] := by
  unfold delivered
  split
  · next hlabel _ => exact absurd h (by simp [hlabel, Label.polls])
  · rfl

/-- What the engine took of a step is a submission. -/
theorem Entry.taken_of_took {e : Entry Machine Label Outcome} {q : EngineCall}
    (hq : q.isQuery = false) (h : e.outcome.took e.label.env q = true) : Entry.taken e = true := by
  obtain ⟨hasked, haccepted⟩ := Bool.and_eq_true_iff.mp h
  obtain ⟨i, hi, hi'⟩ := List.any_eq_true.mp hasked
  refine List.any_eq_true.mpr ⟨i, hi, ?_⟩
  cases i with
  | call session q' =>
    obtain rfl : q' = q := of_decide_eq_true hi'
    exact Bool.and_eq_true_iff.mpr ⟨by rw [hq]; rfl, haccepted⟩
  | _ => exact absurd hi' (by simp [Issued.asks])

/-- A message that is stuck was queued, or taken by the engine. -/
theorem Request.taken_of_stuck {r : Request} (m m' : Machine) {o : Outcome} {s : StreamId}
    {message : Message} (h : r.happening env o = .stuck s message) :
    message.queues = true ∨ Entry.taken ⟨m, .request r env, o, m'⟩ = true := by
  have hqueued {is : List Issued} {t : StreamId} {y : Message} (hy : y.queues = true)
      (h : stuckOr is t y = .stuck s message) : message.queues = true := by
    unfold stuckOr at h
    split at h
    · exact (Happening.stuck.inj h).2 ▸ hy
    · exact absurd h (by simp)
  unfold Request.happening at h
  split at h
  case h_1 | h_2 =>
    split at h
    · exact absurd h (by simp)
    · split at h
      · next htook => exact .inr (Entry.taken_of_took rfl htook.1)
      · exact absurd h (by simp)
  case h_4 | h_5 =>
    split at h
    · exact absurd h (by simp)
    · exact .inl (hqueued rfl h)
  case h_6 =>
    split at h
    · split at h <;> exact absurd h (by simp)
    · exact absurd h (by simp)
  case h_8 => exact absurd h (by simp)
  all_goals split at h <;> exact absurd h (by simp)

/-- A call that observes, of another operation, changes nothing. -/
theorem Stepped.observed {l : Label} (hrun : Runs host WakesReported h m)
    (hallowed : WakesReported h m l) (hstep : Stepped m l p) (hpolls : l.polls = false)
    (hobserves : Entry.observes ⟨m, l, p.1, p.2⟩ = true) : p.2 = m := by
  obtain ⟨⟨response, issued⟩, m'⟩ := p
  obtain ⟨r, env, rfl⟩ : ∃ r env, l = .request r env := by
    cases l with
    | request r env => exact ⟨r, env, rfl⟩
    | callback | ret => simp [Entry.observes] at hobserves
  have hr : r ≠ .takeEvents := fun he => absurd hpolls (by simp [he, Label.polls])
  have hinit (role : Role) (config : Configuration) : r ≠ .init role config := by
    rintro rfl
    simp [Entry.observes] at hobserves
  have hsame (hentered : response ≠ .entered) (hconn : m'.conn = m.conn) : m' = m :=
    (hstep.drive_of_request hentered).trans (congrArg (fun c => { m with conn := c }) hconn)
  cases response with
  | returned v =>
    have hquery : r.isQuery = true := by
      cases r with
      | takeEvents => exact absurd rfl hr
      | init => exact absurd rfl (hinit _ _)
      | _ => exact hobserves
    exact hsame (by simp) (hstep.queried hquery rfl)
  | raised x =>
    have hobserves : (m'.conn.failed == m.conn.failed &&
        !(Entry.taken ⟨m, .request r env, ⟨.raised x, issued⟩, m'⟩)) = true := by
      cases r with
      | takeEvents => exact absurd rfl hr
      | init => exact absurd rfl (hinit _ _)
      | _ => exact hobserves
    obtain ⟨hfailed, hnone⟩ := Bool.and_eq_true_iff.mp hobserves
    have hfailed : m'.conn.failed = m.conn.failed := beq_iff_eq.mp hfailed
    -- the engine took nothing, so what is stuck was queued
    have hqueues (s : StreamId) (message : Message)
        (hx : r.happening env ⟨.raised x, issued⟩ = .stuck s message) : message.queues = true :=
      (Request.taken_of_stuck m m' hx).resolve_right fun htaken => by simp [htaken] at hnone
    rcases hstep.raised (hrun.mono fun ha => ha.1) hallowed.1 hallowed.2
      (fun _ s message hx => .inl (hqueues s message hx)) hinit rfl with hconn | ⟨hlive, hfails⟩
    · exact hsame (by simp) hconn
    · exact absurd (hfailed.symm.trans hfails) (by simp [hlive])
  | entered | replied => cases r <;> simp [Entry.observes] at hobserves hr

end Steps

/-! ## The theorem -/

/-- Connections that are alike, with equal bodies. -/
theorem Machine.Alike.eq {m m' : Machine} {es : List Event} (h : m.Alike Eq es m') :
    m' = { m with conn := { m.conn with events := es ++ m.conn.events } } := by
  obtain ⟨⟨bodies, held⟩⟩ := h
  obtain rfl : bodies = m.conn.bodies := Finmap.ext_lookup fun s => by
    have hs := held s
    generalize m.conn.bodies.lookup s = o, bodies.lookup s = o' at hs ⊢
    cases hs with
    | none => rfl
    | some hb => rw [hb]
  rfl

/-- A connection that gives its events away, beside one that does not. -/
theorem Machine.Alike.poll {m m' : Machine} {es : List Event} (h : m.Alike Eq es m') :
    Machine.Alike Eq (es ++ m.conn.events) { m with conn := { m.conn with events := [] } } m' := by
  obtain ⟨⟨bodies, held⟩⟩ := h
  have hconn := @Connection.Alike.intro Eq (es ++ m.conn.events) { m.conn with events := [] }
    bodies held
  rw [show (es ++ m.conn.events) ++ [] = es ++ m.conn.events from List.append_nil _] at hconn
  exact Machine.Alike.intro (m := { m with conn := { m.conn with events := [] } }) hconn

/-- **Observers leave no trace.** From every run the calls of `events`, the
queries and the calls that were rejected without failing the connection, and of
which the engine took nothing, can be left out. What is left is a run in which
every other step has the outcome it had, and which ends in the same state,
except that the connection still holds the events that were handed over. -/
theorem observers_leave_no_trace {host : Host} {h : History} {m : Machine}
    (hrun : Runs host WakesReported h m) :
    ∃ h' m', AnyRuns host h' m' ∧
      h'.map Entry.seen = (h.filter fun e => !(Entry.observes e)).map Entry.seen ∧
      m' = { m with conn := { m.conn with events := deliveredEvents h ++ m.conn.events } } := by
  obtain ⟨h', m', hrun', hseen, halike⟩ : ∃ h' m', AnyRuns host h' m' ∧
      h'.map Entry.seen = (h.filter fun e => !(Entry.observes e)).map Entry.seen ∧
      m.Alike Eq (deliveredEvents h) m' := by
    refine Run.invariant (I := fun h m => ∃ h' m', AnyRuns host h' m' ∧
      h'.map Entry.seen = (h.filter fun e => !(Entry.observes e)).map Entry.seen ∧
      m.Alike Eq (deliveredEvents h) m') ⟨[], _, .start, rfl, ?_⟩ ?_ hrun
    · exact .intro (.intro ∅ fun _ => .none)
    · intro h m l o m₁ hprior hind hallowed htaken
      obtain ⟨h', m', hrun', hseen, halike⟩ := hind
      by_cases hpolls : l.polls = true
      · obtain ⟨env, rfl⟩ : ∃ env, l = .request .takeEvents env := Label.of_polls hpolls
        obtain ⟨rfl, rfl⟩ := Machine.step_takeEvents htaken
        exact ⟨h', m', hrun', hseen, halike.poll⟩
      · rw [Bool.not_eq_true] at hpolls
        have hnone : deliveredEvents (⟨m, l, o, m₁⟩ :: h) = deliveredEvents h := by
          rw [deliveredEvents, delivered_of_not_polls hpolls, List.append_nil]
        rw [hnone]
        cases hobserves : Entry.observes ⟨m, l, o, m₁⟩ with
        | true =>
          obtain rfl : m₁ = m := (Machine.stepped htaken).observed hprior hallowed hpolls hobserves
          refine ⟨h', m', hrun', ?_, halike⟩
          rw [List.filter_cons_of_neg (by simp [hobserves]), hseen]
        | false =>
          obtain ⟨m₁', htaken', halike'⟩ := halike.step (bodyCongruence_eq _) hpolls htaken
          refine ⟨⟨m', l, o, m₁'⟩ :: h', m₁', .extend hrun' trivial htaken', ?_, halike'⟩
          rw [List.filter_cons_of_pos (by simp [hobserves]), List.map_cons, List.map_cons, hseen]
          rfl
  exact ⟨h', m', hrun', hseen, halike.eq⟩

/-- A client that asks, is refused and polls between two frames it receives. -/
def watchfulClient : List Label := [
  .request (.init .client {}) (.accepting []),
  .request (.initiateConnection []) (.accepting []),
  .request .wantRead (.accepting []),
  .request (.sendData 1 [1] false) (.accepting []),
  .request (.receiveData [0]) (.accepting []),
  .callback (.frameReceived { streamId := 0, payload := .windowUpdate 5 }) (.accepting []),
  .ret 1 (.accepting []),
  .request .takeEvents (.accepting []),
  .request (.receiveData [0]) (.accepting []),
  .callback (.frameReceived { streamId := 0, payload := .windowUpdate 6 }) (.accepting []),
  .ret 1 (.accepting [])]

set_option maxRecDepth 8000 in
/-- Of its eleven steps eight are left, and both events. -/
theorem observers_leave_no_trace_watchfulClient :
    ∃ c, Run.execute Machine.step WakesReported ([], Machine.fresh {}) watchfulClient = some c ∧
      ∃ h' m', AnyRuns {} h' m' ∧ h'.length = 8 ∧
        m'.conn.events = [.windowUpdated 0 5, .windowUpdated 0 6] := by
  obtain ⟨c, hc, hlength, hevents⟩ : ∃ c,
      Run.execute Machine.step WakesReported ([], Machine.fresh {}) watchfulClient = some c ∧
      ((c.1.filter fun e => !(Entry.observes e)).map Entry.seen).length = 8 ∧
      deliveredEvents c.1 ++ c.2.conn.events = [.windowUpdated 0 5, .windowUpdated 0 6] :=
    ⟨_, rfl, by decide, by decide⟩
  obtain ⟨h', m', hrun', hseen, rfl⟩ := observers_leave_no_trace (Run.of_execute .start hc)
  refine ⟨c, hc, h', _, hrun', ?_, hevents⟩
  rw [← hlength, ← hseen, List.length_map]

end Ngh2
