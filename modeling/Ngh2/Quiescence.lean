import Ngh2.Contract

/-!
# How a connection comes to rest

Two things end a connection in good order. The owner terminates it, or a
GOAWAY was exchanged and the engine, asked when a drive has returned, wants
neither to read nor to write. From then on the binding gives the engine no
work: every operation that could is rejected before its first engine call, and
only output is driven.

An engine that wants nothing and is given nothing stays that way, which is what
is assumed of it here (`RestsQuietly`): driving its output makes no callback.
`Runs.ended` puts the two together.
-/

namespace Ngh2

open Nghttp2 Effect

/-! ## Operations that need an active connection -/

/-- The operations that begin with `_require_active`. -/
def Request.needsActive : Request → Bool
  | .init _ _ => false
  | .initiateConnection _ => false
  | .initiateUpgrade _ _ _ => false
  | .takeEvents => false
  | .dataToSend _ => false
  | .wantRead => false
  | .wantWrite => false
  | .canSendRequest => false
  | .queuedBodySize _ => false
  | _ => true

/-- **They raise before anything else** on a connection that does not accept
work. -/
theorem run_of_not_usable {r : Request} (h : r.needsActive = true) {env : Env} {w : World}
    (hu : ¬ w.conn.Usable) : r.body.run env w = (.error w.conn.stateError, w) := by
  have hfirst (f : Unit → M Started) :
      (requireActive >>= f).run env w = (.error w.conn.stateError, w) := by
    rw [run_bind, run_requireActive, if_neg hu]
  cases r with
  | init | initiateConnection | initiateUpgrade | takeEvents | dataToSend | wantRead | wantWrite
  | canSendRequest | queuedBodySize => simp [Request.needsActive] at h
  | _ => exact hfirst _

/-! ## An engine at rest -/

/-- Whether a use of a session gives the engine work: a call that is no
question, does not drive the output, and was not refused. -/
def Issued.stirs (env : Env) : Issued → Bool
  | .call _ q =>
    !q.isQuery && decide (q ≠ .sessionSend) && (q.isDrive || decide (0 ≤ env.reply q))
  | _ => false

/-- Whether the engine wants neither to read nor to write when it has come back
from a drive. -/
def Entry.rests (e : Entry Machine Label Outcome) : Bool :=
  match e.label with
  | .ret _ env => decide (env.reply .sessionWantRead = 0 ∧ env.reply .sessionWantWrite = 0)
  | _ => false

/-- **The engine is at rest**: it wanted nothing, and was given no work since. -/
def resting : History → Bool
  | [] => false
  | e :: h =>
    !(e.outcome.issued.any (Issued.stirs e.label.env)) && (Entry.rests e || resting h)

/-- Whether `nghttp2_session_send` is on the stack. -/
def Machine.sending (m : Machine) : Bool :=
  match m.drive with
  | some (.send, _) => true
  | _ => false

/-- **An engine at rest makes no callback** when its output is driven. -/
def RestsQuietly (h : History) (m : Machine) (l : Label) : Prop :=
  match l with
  | .callback _ _ => m.sending = true → resting h = false
  | _ => True

theorem restsQuietly_iff {h : History} {m : Machine} {l : Label} :
    RestsQuietly h m l ↔ (l.isCallback = true → m.sending = true → resting h = false) := by
  cases l <;> simp [RestsQuietly, Label.isCallback]

instance (h : History) (m : Machine) (l : Label) : Decidable (RestsQuietly h m l) :=
  decidable_of_iff _ restsQuietly_iff.symm

/-- Whether `terminate_connection` was accepted. -/
def terminationRequested (h : History) : Bool :=
  h.any fun e =>
    match e.label, e.outcome.response with
    | .request (.terminateConnection _ _) _, .returned _ => true
    | _, _ => false

/-! ## One step -/

section Steps

variable {m : Machine} {l : Label} {p : Outcome × Machine} {env : Env}

/-- Questions give the engine no work. -/
theorem Issued.stirs_query {session : Option SessionId} {q : EngineCall} (h : q.isQuery = true) :
    Issued.stirs env (.call session q) = false := by
  simp [Issued.stirs, h]

/-- A submission is no drive. -/
theorem Request.Submits.not_drive {r : Request} {q : EngineCall} (h : r.Submits q) :
    q.isDrive = false := by
  cases r with
  | sendPing | sendGoaway | sendPriorityUpdate =>
    obtain ⟨_, rfl⟩ := h
    rfl
  | terminateConnection => obtain rfl | ⟨_, rfl⟩ := h <;> rfl
  | _ => first | exact False.elim h | (obtain rfl := h; rfl)

/-- What was declined gave the engine no work. -/
theorem Declined.not_stirs {c : Connection} {r : Request} {is : List Issued}
    (h : Declined env c r is) : is.any (Issued.stirs env) = false := by
  refine List.any_eq_false.mpr fun i hi => ?_
  obtain ⟨q, rfl, hq | ⟨hneg, hq⟩⟩ := h i hi
  · simp [Issued.stirs_query hq]
  · simp [Issued.stirs, hq.not_drive, hneg]

/-- The questions of a return give the engine no work. -/
theorem Wanting.not_stirs {c : Connection} {is : List Issued} (h : Wanting c is) :
    is.any (Issued.stirs env) = false := by
  refine List.any_eq_false.mpr fun i hi => ?_
  obtain ⟨q, rfl, hq⟩ := h i hi
  simp [Issued.stirs_query hq]

/-- A quiet operation that needs no active connection only asks. -/
theorem Quiet.not_stirs {c : Connection} {r : Request} {is : List Issued} (h : Quiet c r is)
    (hquiet : r.isQuiet = true) (hr : r.needsActive = false) :
    is.any (Issued.stirs env) = false := by
  refine List.any_eq_false.mpr fun i hi => ?_
  obtain ⟨q, rfl, hq | hq⟩ := h i hi
  · simp [Issued.stirs_query hq]
  · cases r with
    | wantRead | wantWrite | canSendRequest | queuedBodySize => exact False.elim hq
    | init | initiateConnection | initiateUpgrade | takeEvents | dataToSend =>
      simp [Request.isQuiet] at hquiet
    | _ => simp [Request.needsActive] at hr

/-- A terminating connection is active. -/
theorem Stepped.active_of_terminating (h : Stepped m l p)
    (ha : m.conn.terminating = true → m.conn.active = true) :
    p.2.conn.terminating = true → p.2.conn.active = true := by
  cases h with
  | request idle hr =>
    rw [Machine.afterRequest_conn]
    cases hr with
    | failed => exact fun ht => absurd ht (by simp [World.failed, Connection.invalidate])
    | initiated => exact fun _ => rfl
    | terminated usable => exact fun _ => usable.2.1
    | _ => exact ha
  | callback driven hc =>
    rw [Machine.afterCallback_conn]
    cases hc with
    | failed spoiled =>
      rw [spoiled.terminating, spoiled.active]
      exact ha
    | _ => exact ha
  | ret driven hr =>
    rw [Machine.afterReturn_conn]
    cases hr with
    | failed => exact fun ht => absurd ht (by simp [World.failed, Connection.invalidate])
    | sentThenFailed => exact fun ht => absurd ht (by simp [World.failed, Connection.invalidate])
    | upgraded => exact fun _ => rfl
    | receivedLast finished => exact fun _ => finished.2.1
    | receivedUnannounced finished => exact fun _ => finished.2.1
    | sentLast _ finished => exact fun _ => finished.2.1
    | _ => exact ha

/-- An operation on a terminating connection gives the engine no work. -/
theorem Stepped.not_stirs_of_terminating {r : Request} {m' : Machine} {o : Outcome}
    (htaken : m.step (.request r env) = some (o, m')) (hterminating : m.conn.terminating = true)
    (hactive : m.conn.active = true) (hsound : m'.conn.Sound) :
    o.issued.any (Issued.stirs env) = false ∧ (m'.drive = none ∨ m'.sending = true) := by
  have hunusable : ¬ m.conn.Usable := fun hu => hu.not_over (.inl hterminating)
  cases hneeds : r.needsActive with
  | true =>
    obtain ⟨hidle, hafter⟩ := Machine.request_taken htaken
    rw [run_of_not_usable (w := m.world) hneeds hunusable] at hafter
    obtain ⟨rfl, rfl⟩ := Prod.mk.inj hafter
    exact ⟨rfl, .inl hidle⟩
  | false =>
    have hstep := Machine.stepped htaken
    generalize hp : (o, m') = p at hstep
    obtain ⟨rfl, rfl⟩ : o = p.1 ∧ m' = p.2 := ⟨congrArg Prod.fst hp, congrArg Prod.snd hp⟩
    clear hp
    cases hstep with
    | request idle hr =>
      rw [Machine.afterRequest_conn] at hsound
      rw [Machine.afterRequest_issued]
      cases hr with
      | rejected calls => exact ⟨calls.not_stirs, .inl idle⟩
      | failed => exact absurd hsound.1 (by simp [World.failed, Connection.invalidate])
      | unreported quiet calls => exact ⟨calls.not_stirs quiet hneeds, .inl idle⟩
      | answered quiet calls => exact ⟨calls.not_stirs quiet hneeds, .inl idle⟩
      | configured => exact ⟨rfl, .inl idle⟩
      | installed => exact ⟨rfl, .inl idle⟩
      | tookEvents => exact ⟨rfl, .inl idle⟩
      | nothingToSend => exact ⟨rfl, .inl idle⟩
      | sending => exact ⟨rfl, .inr rfl⟩
      | initiated initialized live inactive => exact absurd hactive (by simp [inactive])
      | upgrading initialized live inactive => exact absurd hactive (by simp [inactive])
      | _ => simp [Request.needsActive] at hneeds

end Steps

/-! ## Runs -/

section Runs

variable {host : Host} {Allowed : History → Machine → Label → Prop} {h : History} {m : Machine}

/-- A terminating connection is active, in every run. -/
theorem Runs.active_of_terminating (hrun : Runs host Allowed h m) :
    m.conn.terminating = true → m.conn.active = true := by
  refine Run.invariant (I := fun _ m => m.conn.terminating = true → m.conn.active = true)
    (fun ht => absurd ht (by simp [Machine.fresh])) ?_ hrun
  intro h m l o m' _ ih _ htaken
  exact (Machine.stepped htaken).active_of_terminating ih

/-- What was requested stays requested. -/
theorem terminationRequested_cons {e : Entry Machine Label Outcome}
    (h' : terminationRequested h = true) : terminationRequested (e :: h) = true := by
  rw [terminationRequested, List.any_cons]
  exact Bool.or_eq_true_iff.mpr (.inr h')

/-- **A connection that terminates was told to, or its engine is at rest**: then
nothing but its output is driven, and no callback is made. -/
theorem Runs.ended (hends : ∀ {h m l}, Allowed h m l → FailureEndsDrive h l)
    (hrests : ∀ {h m l}, Allowed h m l → RestsQuietly h m l)
    (hrun : Runs host Allowed h m) (hsound : m.conn.Sound) :
    m.conn.terminating = true → terminationRequested h = true ∨
      resting h = true ∧ (m.drive = none ∨ m.sending = true) := by
  revert hsound
  refine Run.invariant (I := fun h m => m.conn.Sound → m.conn.terminating = true →
    terminationRequested h = true ∨ resting h = true ∧ (m.drive = none ∨ m.sending = true))
    (fun _ ht => absurd ht (by simp [Machine.fresh])) ?_ hrun
  intro h m l o m' hprior ih hallowed htaken hsound hterminating
  have hstep := Machine.stepped htaken
  have ih := ih (Runs.sound_before hends hprior hallowed hstep hsound)
  cases l with
  | request r env =>
    cases hbefore : m.conn.terminating with
    | true =>
      rcases ih hbefore with hrequested | ⟨hresting, -⟩
      · exact .inl (terminationRequested_cons hrequested)
      · obtain ⟨hissued, hdrive⟩ := Stepped.not_stirs_of_terminating htaken hbefore
          (Runs.active_of_terminating hprior hbefore) hsound
        refine .inr ⟨?_, hdrive⟩
        rw [resting, hresting]
        simpa [Label.env] using hissued
    | false =>
      generalize hp : (o, m') = p at hstep
      obtain ⟨rfl, rfl⟩ : o = p.1 ∧ m' = p.2 := ⟨congrArg Prod.fst hp, congrArg Prod.snd hp⟩
      clear hp
      cases hstep with
      | request idle hr =>
        rw [Machine.afterRequest_conn] at hterminating hsound
        cases hr with
        | failed => exact absurd hsound.1 (by simp [World.failed, Connection.invalidate])
        | terminated => exact .inl (by simp [terminationRequested, Machine.afterRequest])
        | _ => exact absurd (hbefore.symm.trans hterminating) (by simp)
  | callback cb env =>
    have hsame : m'.conn.terminating = m.conn.terminating := by
      generalize hp : (o, m') = p at hstep
      obtain ⟨rfl, rfl⟩ : o = p.1 ∧ m' = p.2 := ⟨congrArg Prod.fst hp, congrArg Prod.snd hp⟩
      clear hp
      cases hstep with
      | callback driven hc =>
        rw [Machine.afterCallback_conn]
        cases hc with
        | failed spoiled => exact spoiled.terminating
        | _ => rfl
    rcases ih (hsame.symm.trans hterminating) with hrequested | ⟨hresting, hdrive⟩
    · exact .inl (terminationRequested_cons hrequested)
    · have hquiet := hrests hallowed (hdrive.resolve_left hstep.callback_driven)
      exact absurd hresting (by simp [hquiet])
  | ret result env =>
    generalize hp : (o, m') = p at hstep
    obtain ⟨rfl, rfl⟩ : o = p.1 ∧ m' = p.2 := ⟨congrArg Prod.fst hp, congrArg Prod.snd hp⟩
    clear hp
    cases hstep with
    | @ret result env d session q driven hr =>
      rw [Machine.afterReturn_conn] at hterminating hsound
      have hkept (hwas : m.conn.terminating = true)
          (hissued : q.2.issued.any (Issued.stirs env) = false) :
          terminationRequested (⟨m, .ret result env, (m.afterReturn q).1, (m.afterReturn q).2⟩ :: h)
            = true ∨
          resting (⟨m, .ret result env, (m.afterReturn q).1, (m.afterReturn q).2⟩ :: h) = true ∧
            ((m.afterReturn q).2.drive = none ∨ (m.afterReturn q).2.sending = true) := by
        rcases ih hwas with hrequested | ⟨hresting, -⟩
        · exact .inl (terminationRequested_cons hrequested)
        · refine .inr ⟨?_, .inl (Machine.afterReturn_drive _ _)⟩
          simp [resting, hresting, Label.env, hissued]
      have hlast (hfinished : m.conn.Finished env)
        (hissued : q.2.issued.any (Issued.stirs env) = false) :
          resting (⟨m, .ret result env, (m.afterReturn q).1, (m.afterReturn q).2⟩ :: h) = true := by
        simp [resting, Entry.rests, hfinished.2.2.2.1, hfinished.2.2.2.2, Label.env, hissued]
      cases hr with
      | failed => exact absurd hsound.1 (by simp [World.failed, Connection.invalidate])
      | sentThenFailed => exact absurd hsound.1 (by simp [World.failed, Connection.invalidate])
      | rejected => exact hkept hterminating rfl
      | upgraded =>
        -- an upgrade is not driven on an active connection
        rcases ih hterminating with hrequested | ⟨-, hdrive⟩
        · exact .inl (terminationRequested_cons hrequested)
        · exact absurd hdrive (by simp [driven, Machine.sending])
      | received going calls => exact hkept hterminating calls.not_stirs
      | sent nonnegative going calls => exact hkept hterminating calls.not_stirs
      | receivedLast finished calls =>
        exact .inr ⟨hlast finished calls.not_stirs, .inl (Machine.afterReturn_drive _ _)⟩
      | receivedUnannounced finished exhausted calls =>
        exact .inr ⟨hlast finished calls.not_stirs, .inl (Machine.afterReturn_drive _ _)⟩
      | sentLast nonnegative finished calls =>
        exact .inr ⟨hlast finished calls.not_stirs, .inl (Machine.afterReturn_drive _ _)⟩

end Runs

end Ngh2
