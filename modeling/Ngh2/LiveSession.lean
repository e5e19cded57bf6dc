import Ngh2.Initialization
import Ngh2.NestedCalls

/-!
# The engine is entered with a live session

Every function of the engine that takes a session is called with one that was
created and not deleted, whatever a caller's code does while an argument is
converted. This rests on the order of the lines of a method: the state is
checked after the last conversion and before the first call, and there is
nothing in between that could run code of the caller. So what the check found is
still so at the call.

A failure deletes the session, and the check finds it from then on.
-/

namespace Ngh2

open Effect Nghttp2 HandleUse

/-! ## Specification -/

/-- What a use of a native session is for the session. -/
def Issued.use : Issued → HandleUse SessionId
  | .created session => .created session
  | .call session _ => .used session
  | .deleted session => .deleted session

/-- **What was done with sessions**, oldest first. -/
def sessionUses : NestedHistory → List (HandleUse SessionId)
  | [] => []
  | e :: h => sessionUses h ++ e.outcome.issued.map Issued.use

/-- `__dealloc__`: what is done with sessions when the object goes. -/
def Machine.dealloc (m : Machine) : List Issued := m.conn.session.toList.map .deleted

/-- **A new session is a new one**: none that is live. -/
def FreshSession (h : NestedHistory) (_ : Nested) (l : NestedLabel) : Prop :=
  0 ≤ l.env.sessionNew.1 → l.env.sessionNew.2 ∉ after ∅ (sessionUses h)

instance (h : NestedHistory) (m : Nested) (l : NestedLabel) : Decidable (FreshSession h m l) :=
  inferInstanceAs (Decidable (_ → _))

/-! ## Who has the session -/

/-- **The connection has its session**: what it holds is live, it holds one
unless it has failed or was never initialized, and the engine function on the
stack was entered with it. -/
structure Machine.Owned (m : Machine) (live : Finset SessionId) : Prop where
  held : ∀ s, m.conn.session = some s → s ∈ live
  started : m.conn.Started → m.conn.session ≠ none
  driving : ∀ d session, m.drive = some (d, session) →
    session = m.conn.session ∧ m.conn.Started

/-- Some uses are calls, all with one session. -/
def OnlyCalls (session : Option SessionId) (issued : List Issued) : Prop :=
  ∀ i ∈ issued, ∃ q, i = .call session q

section Steps

variable {m : Machine} {l : Label} {p : Outcome × Machine} {live : Finset SessionId}
  {is : List Issued}

/-- Calls of a connection that was started are proper. -/
theorem Machine.Owned.calls (ho : m.Owned live) (hcalls : OnlyCalls m.conn.session is)
    (hstarted : is ≠ [] → m.conn.Started) :
    WellUsed live (is.map Issued.use) ∧ HandleUse.after live (is.map Issued.use) = live := by
  by_cases hnil : is = []
  · subst hnil
    exact ⟨trivial, rfl⟩
  · obtain ⟨s, hs⟩ := Option.ne_none_iff_exists'.mp (ho.started (hstarted hnil))
    refine wellUsed_of_used (ho.held s hs) fun x hx => ?_
    obtain ⟨i, hi, rfl⟩ := List.mem_map.mp hx
    obtain ⟨q, rfl⟩ := hcalls i hi
    rw [hs]
    rfl

/-- A failure deletes a live session after the calls that led to it. -/
theorem Machine.Owned.failed (ho : m.Owned live) (hcalls : OnlyCalls m.conn.session is)
    (hstarted : m.conn.Started) :
    WellUsed live ((is ++ m.conn.session.toList.map Issued.deleted).map Issued.use) := by
  obtain ⟨hused, hlive⟩ := ho.calls hcalls fun _ => hstarted
  obtain ⟨s, hs⟩ := Option.ne_none_iff_exists'.mp (ho.started hstarted)
  rw [List.map_append, wellUsed_append, hlive, hs]
  exact ⟨hused, ho.held s hs, trivial⟩

/-- A connection that has failed holds nothing. -/
theorem Machine.owned_of_invalid {m' : Machine} (hsession : m'.conn.session = none)
    (hfailed : m'.conn.failed = true) (hdrive : m'.drive = none) : m'.Owned live where
  held s hs := absurd (hsession.symm.trans hs) (by simp)
  started h := absurd h.1 (by simp [hfailed])
  driving d session hd := absurd (hdrive.symm.trans hd) (by simp)

/-- What keeps the session, and starts nothing, keeps it in its place. -/
theorem Machine.Owned.keep (ho : m.Owned live) {m' : Machine}
    (hsession : m'.conn.session = m.conn.session)
    (hstarted : m'.conn.Started → m.conn.Started)
    (hdrive : ∀ d session, m'.drive = some (d, session) →
      session = m'.conn.session ∧ m'.conn.Started) : m'.Owned live where
  held s hs := ho.held s (hsession.symm.trans hs)
  started h hnone := ho.started (hstarted h) (hsession.symm.trans hnone)
  driving := hdrive

theorem OnlyCalls.nil {session : Option SessionId} : OnlyCalls session [] :=
  fun _ hi => absurd hi List.not_mem_nil

theorem OnlyCalls.cons {session : Option SessionId} {q : EngineCall} (h : OnlyCalls session is) :
    OnlyCalls session (.call session q :: is) := by
  intro i hi
  rcases List.mem_cons.mp hi with rfl | hi
  · exact ⟨q, rfl⟩
  · exact h i hi

/-- **A call of an operation keeps the session in its place.** -/
theorem Machine.owned_request {r : Request} {env : Env}
    (htaken : m.step (.request r env) = some p) (ho : m.Owned live)
    (hfresh : 0 ≤ env.sessionNew.1 → env.sessionNew.2 ∉ live) :
    WellUsed live (p.1.issued.map Issued.use) ∧
      p.2.Owned (HandleUse.after live (p.1.issued.map Issued.use)) := by
  have hdead (hstarted : ¬ m.conn.Started) (hcalls : OnlyCalls m.conn.session p.1.issued) :
      p.1.issued = [] := by
    refine List.eq_nil_iff_forall_not_mem.mpr fun i hi => ?_
    obtain ⟨q, rfl⟩ := hcalls i hi
    have hafter : m.afterRequest (r.body.run env m.world) = p := (Machine.request_taken htaken).2
    rw [← hafter, Machine.afterRequest_issued] at hi
    exact r.no_calls_of_not_started (w := m.world) hstarted rfl _ q hi
  have hstep : Stepped m (.request r env) p := Machine.stepped htaken
  -- an operation that keeps the session has made calls only if it was started
  have hkept (hcalls : OnlyCalls m.conn.session p.1.issued)
      (hsession : p.2.conn.session = m.conn.session)
      (hstarted : p.2.conn.Started → m.conn.Started)
      (hdrive : ∀ d session, p.2.drive = some (d, session) →
        session = p.2.conn.session ∧ p.2.conn.Started) :
      WellUsed live (p.1.issued.map Issued.use) ∧
        p.2.Owned (HandleUse.after live (p.1.issued.map Issued.use)) := by
    obtain ⟨hused, hlive⟩ := ho.calls hcalls fun hne => by_contra fun hs => hne (hdead hs hcalls)
    exact ⟨hused, hlive.symm ▸ ho.keep hsession hstarted hdrive⟩
  cases hstep with
  | @request r env q idle hr =>
    have hidle {d : Drive} {session : Option SessionId} (hd : m.drive = some (d, session)) :
        False := absurd (idle.symm.trans hd) (by simp)
    cases hr with
    | rejected calls =>
      exact hkept (fun i hi => (calls i hi).imp fun _ h => h.1) rfl id fun _ _ hd => (hidle hd).elim
    | @failed r code is started calls =>
      exact ⟨ho.failed (fun i hi => (calls i hi).imp fun _ h => h.1) started,
        Machine.owned_of_invalid rfl rfl idle⟩
    | unreported quiet calls =>
      exact hkept (fun i hi => (calls i hi).imp fun _ h => h.1) rfl id fun _ _ hd => (hidle hd).elim
    | answered quiet calls =>
      exact hkept (fun i hi => (calls i hi).imp fun _ h => h.1) rfl id fun _ _ hd => (hidle hd).elim
    | installed uninitialized created =>
      refine ⟨⟨hfresh created, trivial⟩, fun s hs => ?_, fun _ => by simp [Machine.afterRequest],
        fun _ _ hd => (hidle hd).elim⟩
      obtain rfl : env.sessionNew.2 = s := Option.some_inj.mp hs
      exact Finset.mem_insert_self _ _
    | initiated initialized alive =>
      exact hkept OnlyCalls.nil.cons rfl (fun _ => ⟨alive, .inl initialized⟩)
        fun _ _ hd => (hidle hd).elim
    | upgrading initialized alive =>
      exact hkept OnlyCalls.nil.cons rfl id fun _ _ hd =>
        ⟨(congrArg Prod.snd (Option.some_inj.mp hd)).symm, alive, .inl initialized⟩
    | receiving usable =>
      exact hkept OnlyCalls.nil.cons rfl id fun _ _ hd =>
        ⟨(congrArg Prod.snd (Option.some_inj.mp hd)).symm, usable.started⟩
    | sending alive active =>
      exact hkept OnlyCalls.nil.cons rfl id fun _ _ hd =>
        ⟨(congrArg Prod.snd (Option.some_inj.mp hd)).symm, alive, .inr active⟩
    | @resetSubmitted s errorCode afterEndStream usable =>
      refine hkept ?_ rfl id fun _ _ hd => (hidle hd).elim
      cases afterEndStream with
      | true => exact OnlyCalls.nil.cons.cons.cons
      | false => exact OnlyCalls.nil.cons
    | trailersQueued usable =>
      refine hkept ?_ rfl id fun _ _ hd => (hidle hd).elim
      rw [Machine.afterRequest_issued]
      dsimp only
      split
      · exact OnlyCalls.nil.cons
      · exact .nil
    | dataQueued usable =>
      refine hkept ?_ rfl id fun _ _ hd => (hidle hd).elim
      rw [Machine.afterRequest_issued]
      dsimp only
      split
      · exact OnlyCalls.nil.cons
      · exact .nil
    | requested => exact hkept OnlyCalls.nil.cons.cons rfl id fun _ _ hd => (hidle hd).elim
    | requestBodiless => exact hkept OnlyCalls.nil.cons.cons rfl id fun _ _ hd => (hidle hd).elim
    | requestUnreported => exact hkept OnlyCalls.nil.cons.cons rfl id fun _ _ hd => (hidle hd).elim
    | responded => exact hkept OnlyCalls.nil.cons.cons rfl id fun _ _ hd => (hidle hd).elim
    | responseUnrecorded => exact hkept OnlyCalls.nil.cons.cons rfl id fun _ _ hd => (hidle hd).elim
    | responseBodiless => exact hkept OnlyCalls.nil.cons.cons rfl id fun _ _ hd => (hidle hd).elim
    | informed => exact hkept OnlyCalls.nil.cons.cons rfl id fun _ _ hd => (hidle hd).elim
    | resetDeferred => exact hkept OnlyCalls.nil.cons.cons rfl id fun _ _ hd => (hidle hd).elim
    | configured => exact hkept .nil rfl id fun _ _ hd => (hidle hd).elim
    | tookEvents => exact hkept .nil rfl id fun _ _ hd => (hidle hd).elim
    | nothingToSend => exact hkept .nil rfl id fun _ _ hd => (hidle hd).elim
    | consumedNothing => exact hkept .nil rfl id fun _ _ hd => (hidle hd).elim
    | _ => exact hkept OnlyCalls.nil.cons rfl id fun _ _ hd => (hidle hd).elim

/-- **So does a callback**, which the engine makes on the session it was
entered with. -/
theorem Machine.owned_callback {cb : Callback} {env : Env}
    (hstep : Stepped m (.callback cb env) p) (ho : m.Owned live) :
    WellUsed live (p.1.issued.map Issued.use) ∧
      p.2.Owned (HandleUse.after live (p.1.issued.map Issued.use)) := by
  cases hstep with
  | @callback cb env d session q driven hc =>
    obtain ⟨rfl, hstarted⟩ := ho.driving d session driven
    have hcalls : OnlyCalls m.conn.session q.2.issued := by
      intro i hi
      obtain ⟨query, heq, -⟩ := hc.asks i hi
      exact ⟨query, heq.elim id id⟩
    obtain ⟨hused, hlive⟩ := ho.calls hcalls fun _ => hstarted
    rw [Machine.afterCallback_issued]
    have hsame {c' : Connection} (hsession : c'.session = m.conn.session)
        (hfailed : c'.failed = m.conn.failed) (hinitialized : c'.initialized = m.conn.initialized)
        (hactive : c'.active = m.conn.active) : Machine.Owned { m with conn := c' } live := by
      have hiff : c'.Started ↔ m.conn.Started := by
        rw [Connection.Started, hfailed, hinitialized, hactive, Connection.Started]
      refine ho.keep hsession hiff.mp fun d' session' hd => ?_
      obtain ⟨heq, hs⟩ := ho.driving d' session' hd
      exact ⟨heq.trans hsession.symm, hiff.mpr hs⟩
    refine ⟨hused, hlive.symm ▸ ?_⟩
    cases hc with
    | failed spoiled =>
      exact hsame spoiled.session spoiled.failed spoiled.initialized spoiled.active
    | _ => exact hsame rfl rfl rfl rfl

/-- **So does the return of an engine function**, unless it fails and deletes
the session. -/
theorem Machine.owned_return {result : Int} {env : Env}
    (hstep : Stepped m (.ret result env) p) (ho : m.Owned live) :
    WellUsed live (p.1.issued.map Issued.use) ∧
      p.2.Owned (HandleUse.after live (p.1.issued.map Issued.use)) := by
  cases hstep with
  | @ret result env d session q driven hr =>
    obtain ⟨-, hstarted⟩ := ho.driving d session driven
    have hkept {c' : Connection} {is : List Issued} (hcalls : OnlyCalls m.conn.session is)
        (hsession : c'.session = m.conn.session) :
        WellUsed live (is.map Issued.use) ∧
          Machine.Owned { m with conn := c', drive := none }
            (HandleUse.after live (is.map Issued.use)) := by
      obtain ⟨hused, hlive⟩ := ho.calls hcalls fun _ => hstarted
      exact ⟨hused, hlive.symm ▸ ho.keep hsession (fun _ => hstarted) fun _ _ hd =>
        absurd hd (by simp)⟩
    have hwanting {is : List Issued} (calls : Wanting m.conn is) : OnlyCalls m.conn.session is :=
      fun i hi => (calls i hi).imp fun _ h => h.1
    rw [Machine.afterReturn_issued]
    cases hr with
    | failed calls =>
      exact ⟨ho.failed (fun i hi => (calls i hi).imp fun _ h => h.1) hstarted,
        Machine.owned_of_invalid rfl rfl rfl⟩
    | sentThenFailed nonnegative finished staging exhausted calls =>
      exact ⟨ho.failed (hwanting calls) hstarted, Machine.owned_of_invalid rfl rfl rfl⟩
    | rejected => exact hkept .nil rfl
    | upgraded =>
      refine hkept ?_ rfl
      dsimp only
      split
      · exact OnlyCalls.nil.cons
      · exact .nil
    | received going calls => exact hkept (hwanting calls) rfl
    | receivedLast finished calls => exact hkept (hwanting calls) rfl
    | receivedUnannounced finished exhausted calls => exact hkept (hwanting calls) rfl
    | sent nonnegative going calls => exact hkept (hwanting calls) rfl
    | sentLast nonnegative finished calls => exact hkept (hwanting calls) rfl

/-! ## Parts of `__init__` -/

/-- **What a part of a call of `__init__` does with sessions**: nothing, or it
creates one and installs it. It starts nothing else. -/
inductive PartDone (env : Env) (w w' : World) : Prop
  | kept (issued : w'.issued = w.issued) (session : w'.conn.session = w.conn.session)
      (initialized : w'.conn.initialized = w.conn.initialized)
      (failed : w'.conn.failed = w.conn.failed) (active : w'.conn.active = w.conn.active)
  | installed (created : 0 ≤ env.sessionNew.1)
      (issued : w'.issued = w.issued ++ [.created env.sessionNew.2])
      (session : w'.conn.session = some env.sessionNew.2)
      (failed : w'.conn.failed = w.conn.failed)

/-- An answer makes one of these of a call. -/
theorem partDone_resume (env : Env) (w : World) (call : Constructing) (answer : Answer) :
    PartDone env w ((call.resume answer).run env w).2 := by
  have hrefl : PartDone env w w := .kept rfl rfl rfl rfl rfl
  cases answer with
  | raised e =>
    unfold Constructing.resume
    dsimp only
    split <;> exact hrefl
  | flag value => exact hrefl
  | pair => exact hrefl
  | index value =>
    rw [Constructing.run_resume_index]
    cases call.next.convert w.host.pointerWidth value with
    | error e => exact hrefl
    | ok n =>
      dsimp only
      unfold Constructing.store
      split
      · exact hrefl
      · split <;> exact hrefl
      · dsimp only
        rw [run_bind, run_raiseIf]
        by_cases hrange : call.limits.maxSendDataFrameSize < 1
            ∨ 0xFFFFFF < call.limits.maxSendDataFrameSize
        · rw [if_pos hrange]
          exact hrefl
        · rw [if_neg hrange]
          exact .kept rfl rfl rfl rfl rfl
      · exact .kept rfl rfl rfl rfl rfl
      · rw [run_bind, run_update]
        dsimp only
        unfold install raiseIfNegative
        by_cases hn : env.sessionNew.1 < 0
        · simpa [hn] using .kept rfl rfl rfl rfl rfl
        · simpa [hn] using .installed (not_lt.mp hn) rfl rfl rfl
      · exact hrefl

/-- **A part of a call of `__init__` keeps the session in its place.** -/
theorem Machine.owned_part {env : Env} {w : World} (hpart : PartDone env m.world w)
    (ho : m.Owned live) (idle : m.drive = none)
    (hfresh : 0 ≤ env.sessionNew.1 → env.sessionNew.2 ∉ live) :
    WellUsed live (w.issued.map Issued.use) ∧
      Machine.Owned { m with conn := w.conn }
        (HandleUse.after live (w.issued.map Issued.use)) := by
  have hidle (d : Drive) (session : Option SessionId) (hd : m.drive = some (d, session)) :
      False := absurd (idle.symm.trans hd) (by simp)
  cases hpart with
  | kept issued session initialized failed active =>
    rw [issued]
    refine ⟨trivial, ho.keep session (fun h => ?_) fun d session hd => (hidle d session hd).elim⟩
    rw [Connection.Started, failed, initialized, active] at h
    exact h
  | installed created issued session failed =>
    rw [issued]
    refine ⟨⟨hfresh created, trivial⟩, fun s hs => ?_, fun _ hnone => ?_,
      fun d session hd => (hidle d session hd).elim⟩
    · obtain rfl : env.sessionNew.2 = s := Option.some_inj.mp (session.symm.trans hs)
      exact Finset.mem_insert_self _ _
    · exact absurd (session.symm.trans hnone) (by simp)

end Steps

/-! ## Over whole runs -/

section Nesting

variable {m : Nested} {l : NestedLabel} {p : NestedOutcome × Nested} {live : Finset SessionId}

/-- **Every step keeps the session in its place**, and uses live sessions
only. -/
theorem NestedStep.owned (hstep : NestedStep m l p) (ho : m.inner.Owned live)
    (hfresh : 0 ≤ l.env.sessionNew.1 → l.env.sessionNew.2 ∉ live) :
    WellUsed live (p.1.issued.map Issued.use) ∧
      p.2.inner.Owned (HandleUse.after live (p.1.issued.map Issued.use)) := by
  cases hstep with
  | @engine label p unasked taken =>
    have hstepped : Stepped m.inner label p := Machine.stepped taken
    cases label with
    | request => exact absurd unasked (by simp [Label.isRequest])
    | callback => exact Machine.owned_callback hstepped ho
    | ret => exact Machine.owned_return hstepped ho
  | performed taken => exact Machine.owned_request taken ho hfresh
  | @begun role config env idle =>
    obtain ⟨result, hrun, -⟩ := run_beginConstruction role config env m.inner.world
    refine Machine.owned_part ?_ ho idle hfresh
    rw [run_bind, hrun]
    cases result <;> exact .kept rfl rfl rfl rfl rfl
  | resumed idle => exact Machine.owned_part (partDone_resume _ _ _ _) ho idle hfresh
  | waiting => exact ⟨trivial, ho⟩
  | rejected => exact ⟨trivial, ho⟩

/-- An operation on a failed connection raises `ConnectionStateError`, if it is
one that would call the engine. None calls it. -/
theorem Machine.refused_request {m : Machine} {r : Request} {env : Env} {p : Outcome × Machine}
    (htaken : m.step (.request r env) = some p) (hf : m.conn.failed = true) :
    p.2.conn.failed = true ∧ (∀ i ∈ p.1.issued, ∃ s, i = .created s) ∧
      (r.reachesEngine = true →
        ∃ x, p.1.response = .raised x ∧ x.isConnectionStateError = true) := by
  have hstarted : ¬ m.conn.Started := fun h => absurd h.1 (by simp [hf])
  have hafter : m.afterRequest (r.body.run env m.world) = p := (Machine.request_taken htaken).2
  cases hr : r.reachesEngine with
  | true =>
    obtain ⟨x, hx, hrun⟩ | ⟨halive, -⟩ :=
      Request.run_of_not_started env (w := m.world) hstarted hr
    · rw [hrun] at hafter
      obtain rfl := hafter
      exact ⟨hf, fun i hi => absurd hi List.not_mem_nil, fun _ => ⟨x, rfl, hx⟩⟩
    · exact absurd (hf.symm.trans halive) (by simp)
  | false =>
    have hnone (session : Option SessionId) (q : EngineCall) :
        .call session q ∉ (r.body.run env m.world).2.issued :=
      r.no_calls_of_not_started (w := m.world) hstarted rfl session q
    obtain rfl := hafter
    rw [Machine.afterRequest_conn, Machine.afterRequest_issued]
    have hrequested : Requested m.host env m.conn r (r.body.run env m.world) :=
      requested m.host env m.conn r
    generalize r.body.run env m.world = q at hrequested hnone
    have hcalls {is : List Issued} (hmem : ∀ i ∈ is, i ∈ q.2.issued)
        (h : OnlyCalls m.conn.session is) : ∀ i ∈ is, ∃ s, i = .created s := by
      intro i hi
      obtain ⟨query, rfl⟩ := h i hi
      exact absurd (hmem _ hi) (hnone _ query)
    cases hrequested with
    | rejected calls =>
      exact ⟨hf, hcalls (fun _ hi => hi) fun i hi => (calls i hi).imp fun _ h => h.1, by simp⟩
    | failed started => exact absurd started hstarted
    | unreported quiet calls =>
      exact ⟨hf, hcalls (fun _ hi => hi) fun i hi => (calls i hi).imp fun _ h => h.1, by simp⟩
    | answered quiet calls =>
      exact ⟨hf, hcalls (fun _ hi => hi) fun i hi => (calls i hi).imp fun _ h => h.1, by simp⟩
    | configured => exact ⟨hf, fun i hi => absurd hi List.not_mem_nil, by simp⟩
    | installed => exact ⟨hf, fun i hi => ⟨_, List.mem_singleton.mp hi⟩, by simp⟩
    | tookEvents => exact ⟨hf, fun i hi => absurd hi List.not_mem_nil, by simp⟩
    | _ => exact absurd hr (by simp [Request.reachesEngine])

/-- **A connection that has failed stays so**, and calls no function of the
engine and deletes no session any more. -/
theorem NestedStep.refused (hstep : NestedStep m l p) (ho : m.inner.Owned live)
    (hf : m.inner.conn.failed = true) :
    p.2.inner.conn.failed = true ∧ (∀ i ∈ p.1.issued, ∃ s, i = .created s) ∧
      ∀ r o, p.1 = .performed r o → r.reachesEngine = true →
        ∃ x, o.response = .raised x ∧ x.isConnectionStateError = true := by
  have hpart {env : Env} {w : World} (hdone : PartDone env m.inner.world w) :
      w.conn.failed = true ∧ ∀ i ∈ w.issued, ∃ s, i = .created s := by
    cases hdone with
    | kept issued session initialized failed active =>
      exact ⟨failed.trans hf, fun i hi => absurd (issued ▸ hi) List.not_mem_nil⟩
    | installed created issued session failed =>
      exact ⟨failed.trans hf, fun i hi => ⟨_, List.mem_singleton.mp (issued ▸ hi)⟩⟩
  cases hstep with
  | @engine label p unasked taken =>
    -- no engine function is on the stack
    have hidle : m.inner.drive = none := by
      refine Option.eq_none_iff_forall_ne_some.mpr fun d hd => ?_
      obtain ⟨-, halive, -⟩ := ho.driving d.1 d.2 hd
      exact absurd (hf.symm.trans halive) (by simp)
    cases label with
    | request => exact absurd unasked (by simp [Label.isRequest])
    | callback => exact absurd taken (by simp [Machine.step, hidle])
    | ret => exact absurd taken (by simp [Machine.step, hidle])
  | performed taken =>
    obtain ⟨hfailed, hissued, hraised⟩ := Machine.refused_request taken hf
    refine ⟨hfailed, hissued, fun r o ho hr => ?_⟩
    obtain ⟨rfl, rfl⟩ := NestedOutcome.performed.inj ho
    exact hraised hr
  | @begun role config env idle =>
    obtain ⟨result, hrun, -⟩ := run_beginConstruction role config env m.inner.world
    have hdone := hpart (.kept rfl rfl rfl rfl rfl : PartDone env m.inner.world m.inner.world)
    rw [run_bind, hrun]
    cases result <;> exact ⟨hdone.1, hdone.2, by simp [Nested.afterPart]⟩
  | @resumed answer env call below idle =>
    have hdone := hpart (partDone_resume env m.inner.world call answer)
    exact ⟨hdone.1, hdone.2, by simp [Nested.afterPart]⟩
  | waiting => exact ⟨hf, fun i hi => absurd hi List.not_mem_nil, by simp⟩
  | rejected => exact ⟨hf, fun i hi => absurd hi List.not_mem_nil, by simp⟩

end Nesting

section Runs

variable {host : Host} {h : NestedHistory} {m : Nested}

/-- **What was done with sessions was proper**, in every run, and the
connection has its session. -/
theorem NestedRuns.owned (hrun : NestedRuns host FreshSession h m) :
    WellUsed ∅ (sessionUses h) ∧ m.inner.Owned (after ∅ (sessionUses h)) := by
  refine Run.invariant
    (I := fun h m => WellUsed ∅ (sessionUses h) ∧ m.inner.Owned (after ∅ (sessionUses h)))
    ⟨trivial, fun s hs => absurd hs (by simp [Machine.fresh]),
      fun hs => absurd hs.2 (by simp [Machine.fresh]),
      fun _ _ hd => absurd hd (by simp [Machine.fresh])⟩ ?_ hrun
  intro h m l o m' _ ih hfresh htaken
  obtain ⟨hused, howned⟩ := (Nested.stepped htaken).owned ih.2 hfresh
  refine ⟨wellUsed_append.mpr ⟨ih.1, hused⟩, ?_⟩
  rw [sessionUses, after_append]
  exact howned

/-- Once a step has failed the connection, it has failed. -/
theorem NestedRuns.failed (hrun : NestedRuns host FreshSession h m)
    (hf : ∃ e ∈ h, e.after.inner.conn.failed = true) : m.inner.conn.failed = true := by
  induction hrun with
  | start => exact absurd hf (by simp)
  | @extend h s s' l o prior allowed taken ih =>
    obtain ⟨e, he, hfailed⟩ := hf
    rcases List.mem_cons.mp he with rfl | he
    · exact hfailed
    · exact ((Nested.stepped taken).refused (NestedRuns.owned prior).2 (ih ⟨e, he, hfailed⟩)).1

/-- **The engine is never entered without a live session**, whatever public
calls a caller's code makes while an argument is converted. In the order in
which it was done, the deallocation of the object included, every function of a
session is called with one that was created and not deleted, and a session is
deleted once at most for each time it was created. From the call on that fails
the connection, no function of a session is called and none is deleted, and an
operation that would have called one raises `ConnectionStateError`, once its
arguments are converted. -/
theorem engine_entered_live (hrun : NestedRuns host FreshSession h m) :
    WellUsed ∅ (sessionUses h ++ m.inner.dealloc.map Issued.use) ∧
      (∀ s, (sessionUses h ++ m.inner.dealloc.map Issued.use).count (.deleted s)
        ≤ (sessionUses h ++ m.inner.dealloc.map Issued.use).count (.created s)) ∧
      ∀ e h', (e :: h') <:+ h → (∃ e' ∈ h', e'.after.inner.conn.failed = true) →
        (∀ i ∈ e.outcome.issued, ∃ s, i = .created s) ∧
          ∀ r o, e.outcome = .performed r o → r.reachesEngine = true →
            ∃ x, o.response = .raised x ∧ x.isConnectionStateError = true := by
  obtain ⟨hused, howned⟩ := hrun.owned
  have hall : WellUsed ∅ (sessionUses h ++ m.inner.dealloc.map Issued.use) := by
    refine wellUsed_append.mpr ⟨hused, ?_⟩
    cases hs : m.inner.conn.session with
    | none => simp [Machine.dealloc, hs, WellUsed]
    | some s =>
      rw [Machine.dealloc, hs]
      exact ⟨howned.held s hs, trivial⟩
  refine ⟨hall, fun s => by simpa using hall.count_deleted_le s, fun e h' hsuffix hfailed => ?_⟩
  obtain ⟨hprior, -, htaken⟩ := Run.of_suffix hrun hsuffix
  exact ((Nested.stepped htaken).refused (NestedRuns.owned hprior).2
    (NestedRuns.failed hprior hfailed)).2

/-- What the engine answers where it is asked for no session. -/
def Env.settled : Env := { reply := fun _ => 0, sessionNew := (-901, 0) }

/-- A call of `send_data` whose stream identifier is an object that feeds the
connection, and the engine runs out of memory. -/
def failedInConversion : List NestedLabel :=
  [.construct (some .client) .default .settled]
    ++ (({} : Configuration).answers.map fun answer => .answer answer (.opening 1))
    ++ [.call (.initiateConnection false) (fun _ => []) .settled,
      .call (.sendData (.bytes { address := 0, content := [7] })) (fun _ => []) .settled,
      .give (.truth false) (fun _ => []) .settled,
      .call .receiveData (fun _ => []) .settled,
      .give (.bytes [0]) (fun _ => []) .settled,
      .engine (.ret (-901) .settled),
      .give (.index 1) (fun _ => []) .settled]

set_option maxRecDepth 8000 in
theorem engine_entered_live_failedInConversion :
    ∃ c, Run.execute Nested.step FreshSession ([], { inner := Machine.fresh {} })
        failedInConversion = some c ∧
      sessionUses c.1 = [.created 1, .used (some 1), .used (some 1), .deleted 1] ∧
      WellUsed ∅ (sessionUses c.1 ++ c.2.inner.dealloc.map Issued.use) ∧
      ∃ e h' r o x, c.1 = e :: h' ∧ e.outcome = .performed r o ∧ o.response = .raised x ∧
        x.isConnectionStateError = true := by
  obtain ⟨c, hc, huses, e, h', r, o, hlist, hfailed, houtcome, hr⟩ :
      ∃ c, Run.execute Nested.step FreshSession ([], { inner := Machine.fresh {} })
          failedInConversion = some c ∧
        sessionUses c.1 = [.created 1, .used (some 1), .used (some 1), .deleted 1] ∧
        ∃ e h' r o, c.1 = e :: h' ∧ (∃ e' ∈ h', e'.after.inner.conn.failed = true) ∧
          e.outcome = .performed r o ∧ r.reachesEngine = true :=
    ⟨_, rfl, rfl, _, _, _, _, rfl, ⟨_, List.mem_cons_self, rfl⟩, rfl, rfl⟩
  obtain ⟨hused, -, hlater⟩ := engine_entered_live (Run.of_execute .start hc)
  obtain ⟨x, hx, hstate⟩ := (hlater e h' (hlist ▸ List.suffix_refl _) hfailed).2 r o houtcome hr
  exact ⟨c, hc, huses, hused, e, h', r, o, x, hlist, houtcome, hx, hstate⟩

end Runs

end Ngh2
