import Ngh2.Construction

/-!
# A connection is initialized once

The check at the start of `__init__` keeps a second call from a connection that
is initialized. It does not keep it from one that will be: a call that passed
the check may be overtaken, inside of its own configuration code, by another
call of `__init__` on the same object, and goes on to assign.

What the calls inside of a call have done is read off the order of the calls and
of their answers (`interruptions`). Where no call that assigns has one inside of
it that returned, and none that installs its session one that assigned limits
after it did (`Undisturbed`), an object is initialized by one call, whatever
configuration code does with it: the session that call installed is the only one
there ever is, and its role, its configuration and its limits are in force from
then on. That a connection which is initialized has been so since before the
innermost call began, or by a call inside of it, is what the check at the start
is good for (`Interrupted`).
-/

namespace Ngh2

open Effect Nghttp2

/-! ## What is in force -/

/-- **A call is in force**: the role, the configuration and the limits of the
connection are those of the call. -/
structure Connection.InForce (c : Connection) (call : Constructing) : Prop where
  role : c.role = some call.role
  server : c.server = decide (call.role = .server)
  config : c.config = some call.config
  limits : c.ownLimits = call.limits

/-- The call that installed a session in a step, and the session. -/
def Entry.installed (e : Entry Reentrant ReentrantLabel ReentrantOutcome) :
    Option (Constructing × SessionId) :=
  match e.outcome, e.label with
  | .constructed call, .answer _ env => some (call, env.sessionNew.2)
  | _, _ => none

/-- **The calls that installed a session**, newest first. -/
def installations (h : ReentrantHistory) : List (Constructing × SessionId) :=
  h.filterMap Entry.installed

/-- Whether a step is a part of a call of `__init__`. -/
def ReentrantLabel.isPart : ReentrantLabel → Bool
  | .inner _ => false
  | _ => true

/-! ## When a call assigns -/

/-- Whether a call assigns something when it is given an answer: the value
converts, and the checks before the assignment pass. -/
def Constructing.assigns (width : PointerWidth) (call : Constructing) (answer : Answer) : Bool :=
  match answer with
  | .index value =>
    match call.next with
    | .glitchRate =>
      (call.next.convert width value).isOk && decide (1 ≤ call.limits.maxSendDataFrameSize ∧
        call.limits.maxSendDataFrameSize ≤ 0xFFFFFF)
    | .maxInboundHeaderListSize => (call.next.convert width value).isOk
    | .maxInboundHeaderCount => (call.next.convert width value).isOk
    | _ => false
  | _ => false

/-! ## Calls inside of calls -/

/-- **What calls inside of a call have done** while it waited for configuration
code: whether one returned, and whether one assigned limits after the call
itself did. -/
structure Interruption where
  returned : Bool := false
  assigned : Bool := false
  deriving DecidableEq, Repr

/-- A call inside of it assigned limits. -/
def Interruption.assigning (i : Interruption) : Interruption := { i with assigned := true }

/-- A call inside of it returned. -/
def Interruption.returning (_ : Interruption) : Interruption :=
  { returned := true, assigned := true }

/-- The call itself assigned limits. The first of them are those that a call
inside of it would have assigned first. -/
def Interruption.own (i : Interruption) (next : Reading) : Interruption :=
  { i with assigned := i.assigned && decide (next ≠ .glitchRate) }

/-- The innermost call of the object a step found, if the step had it assign. -/
def Entry.assigning (e : Entry Reentrant ReentrantLabel ReentrantOutcome) : Option Constructing :=
  match e.label, e.before.calls with
  | .answer answer _, call :: _ =>
    if call.assigns e.before.inner.host.pointerWidth answer then some call else none
  | _, _ => none

/-- What a step adds to what was done inside of the calls. -/
def Entry.interrupts (e : Entry Reentrant ReentrantLabel ReentrantOutcome)
    (is : List Interruption) : List Interruption :=
  match e.label, e.outcome with
  | .construct _ _ _, .reading => {} :: is
  | .answer _ _, .reading =>
    match Entry.assigning e, is with
    | some call, i :: is => i.own call.next :: is.map Interruption.assigning
    | _, is => is
  | .answer _ _, .constructed _ => is.tail.map Interruption.returning
  | .answer _ _, .raised _ =>
    match Entry.assigning e with
    | some _ => is.tail.map Interruption.assigning
    | none => is.tail
  | _, _ => is

/-- **What was done inside of the calls** that are in configuration code,
innermost first: it follows from the order of the calls and of their answers. -/
def interruptions : ReentrantHistory → List Interruption
  | [] => []
  | e :: h => Entry.interrupts e (interruptions h)

/-- **No call is overtaken**: a call that assigns has none inside of it that
returned, and one that installs its session has none that assigned limits after
it did. -/
def Undisturbed (h : ReentrantHistory) (m : Reentrant) (l : ReentrantLabel) : Prop :=
  match l, m.calls, interruptions h with
  | .answer answer env, call :: _, i :: _ =>
    call.assigns m.inner.host.pointerWidth answer = true →
      i.returned = false ∧
      (call.next = .maxInboundHeaderCount → 0 ≤ env.sessionNew.1 → i.assigned = false)
  | _, _, _ => True

instance (h : ReentrantHistory) (m : Reentrant) (l : ReentrantLabel) :
    Decidable (Undisturbed h m l) := by
  unfold Undisturbed
  split <;> infer_instance

/-- **The limits a call has assigned so far are in place.** -/
def Constructing.Placed (call : Constructing) (c : Connection) : Prop :=
  match call.next with
  | .maxInboundHeaderListSize => c.ownLimits = { call.limits with
      maxInboundHeaderListSize := c.maxInboundHeaderListSize
      maxInboundHeaderCount := c.maxInboundHeaderCount }
  | .maxInboundHeaderCount => c.ownLimits = { call.limits with
      maxInboundHeaderCount := c.maxInboundHeaderCount }
  | _ => True

/-- **What is known of a call from what was done inside of it**: the object is
initialized only if a call inside of it returned, and the limits it assigned are
in place unless one assigned after it. -/
structure Interrupted (c : Connection) (call : Constructing) (i : Interruption) : Prop where
  returned : c.initialized = true → i.returned = true
  placed : i.assigned = false → call.Placed c

/-! ## One part of a call -/

/-- **What an answer makes of a call**: the progress it makes, and the
connection it leaves. -/
inductive Continued (env : Env) (width : PointerWidth) (c : Connection) (call : Constructing)
    (answer : Answer) : Except PyError Progress × Connection → Prop
  /-- It raised, and assigned nothing. -/
  | refused {e : PyError} : Continued env width c call answer (.error e, c)
  /-- It waits for the next value, and assigned nothing. -/
  | read {call' : Constructing} (early : ∀ c, call'.Placed c) :
      Continued env width c call answer (.ok (.reading call'), c)
  /-- It assigned limits, and waits for the next value. -/
  | assigned {call' : Constructing} {c' : Connection}
      (assigns : call.assigns width answer = true) (initialized : c'.initialized = c.initialized)
      (session : c'.session = c.session)
      (placed : call.next = .glitchRate ∨ call.Placed c → call'.Placed c') :
      Continued env width c call answer (.ok (.reading call'), c')
  /-- It assigned its last limit, and the engine gave no session. -/
  | uncreated {e : PyError} {n : Nat} (assigns : call.assigns width answer = true) :
      Continued env width c call answer (.error e, { c with maxInboundHeaderCount := n })
  /-- It installed its session. -/
  | installed {n : Nat} (assigns : call.assigns width answer = true)
      (last : call.next = .maxInboundHeaderCount) (created : 0 ≤ env.sessionNew.1) :
      Continued env width c call answer
        (.ok (.over { call with limits := { call.limits with maxInboundHeaderCount := n } }),
          { c with
            maxInboundHeaderCount := n
            role := some call.role
            server := decide (call.role = .server)
            config := some call.config
            session := some env.sessionNew.2
            initialized := true })

/-- A converted value, and what the call does with it. -/
theorem Constructing.run_resume_index (call : Constructing) (value : Index) (env : Env)
    (w : World) :
    (call.resume (.index value)).run env w
      = match call.next.convert w.host.pointerWidth value with
        | .error e => (.error e, w)
        | .ok n => (call.store n).run env w := by
  rw [Constructing.resume, run_bind, run_host]
  dsimp only
  rw [run_bind]
  cases call.next.convert w.host.pointerWidth value <;> rfl

/-- A call that waits for one of the values before the last two has assigned
nothing. -/
theorem Constructing.placed_early {call : Constructing}
    (h : call.next ≠ .maxInboundHeaderListSize ∧ call.next ≠ .maxInboundHeaderCount)
    (c : Connection) : call.Placed c := by
  unfold Constructing.Placed
  split
  · next hnext => exact absurd hnext h.1
  · next hnext => exact absurd hnext h.2
  · trivial

/-- An answer makes one of these of a call. -/
theorem continued (env : Env) (w : World) (call : Constructing) (answer : Answer)
    (htakes : call.next.takes answer = true) :
    Continued env w.host.pointerWidth w.conn call answer
      (((call.resume answer).run env w).1, ((call.resume answer).run env w).2.conn) := by
  have hearly {call' : Constructing} (hnext : call'.next = call.next.following)
      (hbefore : call.next ≠ .glitchRate ∧ call.next ≠ .maxInboundHeaderListSize ∧
        call.next ≠ .maxInboundHeaderCount) (c : Connection) : call'.Placed c := by
    refine Constructing.placed_early ?_ c
    rw [hnext]
    cases h : call.next <;> simp_all [Reading.following]
  cases answer with
  | raised e =>
    unfold Constructing.resume
    dsimp only
    split <;> exact .refused
  | flag value =>
    refine .read (hearly rfl ?_)
    cases h : call.next <;> simp_all [Reading.takes]
  | pair =>
    refine .read (hearly rfl ?_)
    cases h : call.next <;> simp_all [Reading.takes]
  | index value =>
    rw [Constructing.run_resume_index]
    cases hconv : call.next.convert w.host.pointerWidth value with
    | error e => exact .refused
    | ok n =>
      dsimp only
      have hok : (call.next.convert w.host.pointerWidth value).isOk = true := by rw [hconv]; rfl
      unfold Constructing.store
      split
      · exact .read (Constructing.placed_early (by simp))
      · split
        · exact .refused
        · exact .read (Constructing.placed_early (by simp))
      · next hnext =>
        dsimp only
        rw [run_bind, run_raiseIf]
        by_cases hrange : call.limits.maxSendDataFrameSize < 1
            ∨ 0xFFFFFF < call.limits.maxSendDataFrameSize
        · rw [if_pos hrange]
          exact .refused
        · rw [if_neg hrange]
          refine .assigned ?_ rfl rfl fun _ => rfl
          simp only [not_or, Nat.not_lt] at hrange
          rw [Constructing.assigns]
          simp only [hnext] at hok ⊢
          rw [hok, decide_eq_true hrange]
          rfl
      · next hnext =>
        refine .assigned ?_ rfl rfl fun h => ?_
        · rw [Constructing.assigns]
          simp only [hnext] at hok ⊢
          exact hok
        · have hplaced := h.resolve_left (by simp [hnext])
          unfold Constructing.Placed at hplaced
          simp only [hnext] at hplaced
          exact congrArg (fun l : Limits => { l with maxInboundHeaderListSize := n }) hplaced
      · next hnext =>
        have hassigns : call.assigns w.host.pointerWidth (.index value) = true := by
          rw [Constructing.assigns]
          simp only [hnext] at hok ⊢
          exact hok
        rw [run_bind, run_update]
        dsimp only
        unfold install raiseIfNegative
        by_cases hn : env.sessionNew.1 < 0
        · simpa [hn] using .uncreated hassigns
        · simpa [hn] using .installed hassigns hnext (not_lt.mp hn)
      · next hnext =>
        refine .read (hearly rfl ⟨?_, ?_, ?_⟩)
        all_goals assumption

/-- **What a new call does**: it raises, or waits for its first value. On an
initialized object it raises. -/
theorem run_beginConstruction (role : Option Role) (config : ConfigArgument) (env : Env)
    (w : World) :
    ∃ result, (beginConstruction role config).run env w = (result, w) ∧
      ∀ call, result = .ok call →
        w.conn.initialized = false ∧ call.next = .autoWindowUpdate := by
  unfold beginConstruction requireUninitialized raiseIfNegative
  rw [run_bind, run_bind, run_conn]
  dsimp only
  rw [run_raiseIf]
  by_cases hi : w.conn.initialized = true
  · rw [if_pos hi]
    exact ⟨_, rfl, fun call h => absurd h (by simp)⟩
  · rw [if_neg hi]
    have hcalls (role : Role) (config : Configuration) :
        ∃ result, Effect.run (do
          raiseIf ((← read).callbacksNew < 0) (nghttp2Error (← host) (← read).callbacksNew)
          raiseIf ((← read).optionNew < 0) (nghttp2Error (← host) (← read).optionNew)
          return ({ role, config } : Constructing)) env w = (result, w) ∧
            ∀ call, result = .ok call →
              w.conn.initialized = false ∧ call.next = .autoWindowUpdate := by
      by_cases hcallbacks : env.callbacksNew < 0 <;> by_cases hoption : env.optionNew < 0 <;>
        simp [hcallbacks, hoption, hi]
    cases role with
    | none => exact ⟨_, rfl, fun call h => absurd h (by simp)⟩
    | some role =>
      cases config with
      | other => exact ⟨_, rfl, fun call h => absurd h (by simp)⟩
      | default => exact hcalls role {}
      | given config => exact hcalls role config

/-! ## What everything else keeps -/

/-- **The initialization is kept**: the session goes with the connection, and
nothing else of it changes. -/
structure Keeps (c c' : Connection) : Prop where
  initialized : c'.initialized = c.initialized
  role : c'.role = c.role
  server : c'.server = c.server
  config : c'.config = c.config
  limits : c'.ownLimits = c.ownLimits
  session : c'.session = c.session ∧ c'.failed = c.failed ∨ c'.session = none ∧ c'.failed = true

theorem Keeps.refl (c : Connection) : Keeps c c := ⟨rfl, rfl, rfl, rfl, rfl, .inl ⟨rfl, rfl⟩⟩

theorem Keeps.trans {c c' c'' : Connection} (h : Keeps c c') (h' : Keeps c' c'') : Keeps c c'' where
  initialized := h'.initialized.trans h.initialized
  role := h'.role.trans h.role
  server := h'.server.trans h.server
  config := h'.config.trans h.config
  limits := h'.limits.trans h.limits
  session := by
    rcases h'.session with ⟨hs, hf⟩ | hfailed
    · exact h.session.imp (And.imp (hs.trans ·) (hf.trans ·)) (And.imp (hs.trans ·) (hf.trans ·))
    · exact .inr hfailed

/-- A failed callback keeps the initialization. -/
theorem Spoiled.keeps {c c' : Connection} (h : Spoiled c c') : Keeps c c' where
  initialized := h.initialized
  role := h.role
  server := h.server
  config := h.config
  limits := by
    unfold Connection.ownLimits
    rw [h.autoWindowUpdate, h.maxSendDataFrameSize, h.maxSettings, h.maxInboundHeaderListSize,
      h.maxInboundHeaderCount]
  session := .inl ⟨h.session, h.failed⟩

/-- An invalidated connection keeps the initialization, but for its session. -/
theorem Keeps.invalidate (c : Connection) : Keeps c c.invalidate where
  initialized := rfl
  role := rfl
  server := rfl
  config := rfl
  limits := by unfold Connection.ownLimits; rfl
  session := .inr ⟨rfl, rfl⟩

/-- The announcement of the end keeps the initialization. -/
theorem Keeps.announced (c : Connection) : Keeps c c.announced where
  initialized := rfl
  role := rfl
  server := rfl
  config := rfl
  limits := by unfold Connection.ownLimits; rfl
  session := .inl ⟨rfl, rfl⟩

/-- **Nothing but `__init__` changes the initialization.** -/
theorem Stepped.keeps {m : Machine} {l : Label} {p : Outcome × Machine} (h : Stepped m l p)
    (hl : l.isInit = false) : Keeps m.conn p.2.conn := by
  cases h with
  | request idle requested =>
    rw [Machine.afterRequest_conn]
    cases requested with
    | configured => exact absurd hl (by simp [Label.isInit])
    | installed => exact absurd hl (by simp [Label.isInit])
    | failed => exact .invalidate _
    | _ => exact ⟨rfl, rfl, rfl, rfl, rfl, .inl ⟨rfl, rfl⟩⟩
  | callback driven called =>
    rw [Machine.afterCallback_conn]
    cases called with
    | failed spoiled => exact spoiled.keeps
    | _ => exact ⟨rfl, rfl, rfl, rfl, rfl, .inl ⟨rfl, rfl⟩⟩
  | ret driven returned =>
    rw [Machine.afterReturn_conn]
    cases returned with
    | failed => exact .invalidate _
    | sentThenFailed => exact (Keeps.announced _).trans (.invalidate _)
    | receivedLast => exact .announced _
    | sentLast => exact (Keeps.announced _).trans ⟨rfl, rfl, rfl, rfl, rfl, .inl ⟨rfl, rfl⟩⟩
    | _ => exact ⟨rfl, rfl, rfl, rfl, rfl, .inl ⟨rfl, rfl⟩⟩

/-! ## Over whole runs -/

/-- **The initialization of an object**, with the calls that installed a
session: nobody has, or one call has, and is in force. -/
inductive Settled (c : Connection) : List (Constructing × SessionId) → Prop
  | fresh (uninitialized : c.initialized = false) (sessionless : c.session = none) : Settled c []
  | once {call : Constructing} {session : SessionId} (initialized : c.initialized = true)
      (inForce : c.InForce call)
      (kept : c.session = some session ∨ c.session = none ∧ c.failed = true) :
      Settled c [(call, session)]

/-- What keeps the initialization keeps it settled. -/
theorem Settled.keeps {c c' : Connection} {is : List (Constructing × SessionId)}
    (h : Settled c is) (hk : Keeps c c') : Settled c' is := by
  cases h with
  | fresh uninitialized sessionless =>
    refine .fresh (hk.initialized.trans uninitialized) ?_
    rcases hk.session with ⟨hs, -⟩ | ⟨hs, -⟩
    · exact hs.trans sessionless
    · exact hs
  | once initialized inForce kept =>
    refine .once (hk.initialized.trans initialized) ⟨hk.role.trans inForce.role,
      hk.server.trans inForce.server, hk.config.trans inForce.config,
      hk.limits.trans inForce.limits⟩ ?_
    rcases hk.session with ⟨hs, hf⟩ | hfailed
    · exact kept.imp (hs.trans ·) (And.imp (hs.trans ·) (hf.trans ·))
    · exact .inr hfailed

/-- An object that is not initialized has no session, and no call installed
one. -/
theorem Settled.of_uninitialized {c : Connection} {is : List (Constructing × SessionId)}
    (h : Settled c is) (hi : c.initialized = false) : is = [] ∧ c.session = none := by
  cases h with
  | fresh uninitialized sessionless => exact ⟨rfl, sessionless⟩
  | once initialized => exact absurd initialized (by simp [hi])

/-- **What a part of a call of `__init__` does** where no call is overtaken. -/
structure PartOf (c c' : Connection) (outcome : ReentrantOutcome)
    (installed : Option (Constructing × SessionId)) : Prop where
  /-- An object that is initialized is not changed. -/
  unchanged : c.initialized = true → c' = c ∧ installed = none
  /-- One that is not stays so, or is initialized by this call. -/
  settles : c.initialized = false → c.session = none → Settled c' installed.toList
  /-- A call that does not install a session waits, or raises. -/
  rejected : installed = none → outcome = .reading ∨ ∃ e, outcome = .raised e

/-- The beginning of a call: it raises, or the object is not initialized and the
call waits for its first value. -/
theorem Reentrant.begun {m m' : Reentrant} {role : Option Role} {config : ConfigArgument}
    {env : Env} {o : ReentrantOutcome}
    (hstep : m.step (.construct role config env) = some (o, m')) :
    m'.inner.conn = m.inner.conn ∧
      ((∃ e, o = .raised e) ∧ m'.calls = m.calls ∨
        m.inner.conn.initialized = false ∧ o = .reading ∧
          ∃ call, call.next = .autoWindowUpdate ∧ m'.calls = call :: m.calls) := by
  obtain ⟨result, hrun, hbegins⟩ := run_beginConstruction role config env m.inner.world
  simp only [Reentrant.step] at hstep
  split at hstep
  · exact absurd hstep (by simp)
  · rw [run_bind, hrun] at hstep
    cases result with
    | error e =>
      obtain ⟨rfl, rfl⟩ := Prod.mk.inj (Option.some.inj hstep)
      exact ⟨rfl, .inl ⟨⟨e, rfl⟩, rfl⟩⟩
    | ok call =>
      obtain ⟨rfl, rfl⟩ := Prod.mk.inj (Option.some.inj hstep)
      obtain ⟨huninitialized, hnext⟩ := hbegins call rfl
      exact ⟨rfl, .inr ⟨huninitialized, rfl, call, hnext, rfl⟩⟩

/-- An answer, as a part of the innermost call. -/
theorem Reentrant.answered {m m' : Reentrant} {answer : Answer} {env : Env} {o : ReentrantOutcome}
    (hstep : m.step (.answer answer env) = some (o, m')) :
    ∃ call below p, m.calls = call :: below ∧
      Continued env m.inner.host.pointerWidth m.inner.conn call answer (p.1, p.2.conn) ∧
      m.afterPart below p = (o, m') := by
  simp only [Reentrant.step] at hstep
  split at hstep
  · next call below hdrive hcalls =>
    split at hstep
    · next htakes =>
      exact ⟨call, below, _, hcalls, continued env m.inner.world call answer htakes,
        Option.some.inj hstep⟩
    · exact absurd hstep (by simp)
  · exact absurd hstep (by simp)

/-- What happens to the machine, other than a call of `__init__`, keeps the
initialization. -/
theorem Reentrant.keeps {m m' : Reentrant} {label : Label} {o : ReentrantOutcome}
    (hstep : m.step (.inner label) = some (o, m')) :
    Keeps m.inner.conn m'.inner.conn ∧ m'.calls = m.calls ∧
      Entry.installed ⟨m, .inner label, o, m'⟩ = none := by
  simp only [Reentrant.step] at hstep
  split at hstep
  · exact absurd hstep (by simp)
  · next hlabel =>
    obtain ⟨⟨o', inner⟩, htaken, heq⟩ := Option.map_eq_some_iff.mp hstep
    obtain ⟨rfl, rfl⟩ := Prod.mk.inj heq
    exact ⟨(Machine.stepped htaken).keeps (by simpa using hlabel), rfl, rfl⟩

/-! ## What was done inside of the calls -/

section Interruptions

variable {c c' : Connection} {call : Constructing} {i : Interruption} {calls : List Constructing}
  {is : List Interruption} {h : ReentrantHistory} {m m' : Reentrant} {l : ReentrantLabel}
  {o : ReentrantOutcome}

/-- What is known of a call is still known where its limits are. -/
theorem Interrupted.keeps (hi : Interrupted c call i)
    (hinitialized : c'.initialized = c.initialized) (hlimits : c'.ownLimits = c.ownLimits) :
    Interrupted c' call i where
  returned := fun h => hi.returned (hinitialized ▸ h)
  placed := fun h => by
    have hplaced := hi.placed h
    have hsize : c'.maxInboundHeaderListSize = c.maxInboundHeaderListSize :=
      congrArg Limits.maxInboundHeaderListSize hlimits
    have hcount : c'.maxInboundHeaderCount = c.maxInboundHeaderCount :=
      congrArg Limits.maxInboundHeaderCount hlimits
    unfold Constructing.Placed at hplaced ⊢
    rw [hlimits, hsize, hcount]
    exact hplaced

/-- A call inside of others assigned limits. -/
theorem assigning_calls (h : List.Forall₂ (Interrupted c) calls is)
    (hinitialized : c'.initialized = c.initialized) :
    List.Forall₂ (Interrupted c') calls (is.map Interruption.assigning) := by
  rw [List.forall₂_map_right_iff]
  refine h.imp fun call i hi => ⟨fun h => hi.returned (hinitialized ▸ h), fun h => ?_⟩
  exact absurd h (by simp [Interruption.assigning])

/-- A call inside of others returned. -/
theorem returning_calls (h : List.Forall₂ (Interrupted c) calls is) :
    List.Forall₂ (Interrupted c') calls (is.map Interruption.returning) := by
  rw [List.forall₂_map_right_iff]
  refine h.imp fun call i _ => ⟨fun _ => rfl, fun h => ?_⟩
  exact absurd h (by simp [Interruption.returning])

/-- **What was done inside of the calls says what became of them**, after every
step. -/
theorem Reentrant.interrupted (hstep : m.step l = some (o, m'))
    (hm : List.Forall₂ (Interrupted m.inner.conn) m.calls is) :
    List.Forall₂ (Interrupted m'.inner.conn) m'.calls (Entry.interrupts ⟨m, l, o, m'⟩ is) := by
  cases l with
  | inner label =>
    obtain ⟨hkeeps, hcalls, -⟩ := Reentrant.keeps hstep
    rw [hcalls]
    exact hm.imp fun call i hi => hi.keeps hkeeps.initialized hkeeps.limits
  | construct role config env =>
    obtain ⟨hconn, ⟨⟨e, rfl⟩, hcalls⟩ | ⟨huninitialized, rfl, call, hnext, hcalls⟩⟩ :=
      Reentrant.begun hstep
    · rw [hconn, hcalls]
      exact hm
    · rw [hconn, hcalls]
      refine .cons ⟨fun h => absurd h (by simp [huninitialized]), fun _ => ?_⟩ hm
      exact Constructing.placed_early (by simp [hnext]) _
  | answer answer env =>
    obtain ⟨call, below, ⟨result, w⟩, hcalls, hcontinued, hafter⟩ := Reentrant.answered hstep
    rw [hcalls] at hm
    cases hm with
    | @cons _ i _ is hi hm =>
    have hassigning (hassigns : call.assigns m.inner.host.pointerWidth answer = true)
        (o : ReentrantOutcome) (m' : Reentrant) :
        Entry.assigning ⟨m, .answer answer env, o, m'⟩ = some call := by
      unfold Entry.assigning
      dsimp only
      rw [hcalls]
      exact if_pos hassigns
    generalize hc : w.conn = c' at hcontinued
    cases hcontinued with
    | refused =>
      obtain ⟨rfl, rfl⟩ := Prod.mk.inj hafter
      simp only [Entry.interrupts, hc]
      split
      · exact assigning_calls hm rfl
      · exact hm
    | @read call' early =>
      obtain ⟨rfl, rfl⟩ := Prod.mk.inj hafter
      simp only [Entry.interrupts, hc]
      have hfirst (i' : Interruption) (hreturned : i'.returned = i.returned) :
          Interrupted m.inner.conn call' i' :=
        ⟨fun h => hreturned.trans (hi.returned h), fun _ => early _⟩
      split
      · next heq =>
        obtain ⟨rfl, rfl⟩ := List.cons.inj heq
        exact .cons (hfirst _ rfl) (assigning_calls hm rfl)
      · exact .cons (hfirst i rfl) hm
    | @assigned call' _ assigns initialized session placed =>
      obtain ⟨rfl, rfl⟩ := Prod.mk.inj hafter
      simp only [Entry.interrupts, hassigning assigns, hc]
      refine .cons ⟨fun h => hi.returned (initialized ▸ h), fun hown => placed ?_⟩
        (assigning_calls hm initialized)
      rcases Bool.and_eq_false_iff.mp hown with hassigned | hnext
      · exact .inr (hi.placed hassigned)
      · exact .inl (not_not.mp (of_decide_eq_false hnext))
    | @uncreated e n assigns =>
      obtain ⟨rfl, rfl⟩ := Prod.mk.inj hafter
      simp only [Entry.interrupts, hassigning assigns, hc]
      exact assigning_calls hm rfl
    | installed assigns last created =>
      obtain ⟨rfl, rfl⟩ := Prod.mk.inj hafter
      exact returning_calls hm

/-- So it does over whole runs, whether or not calls are overtaken. -/
theorem ReentrantRuns.interrupted {host : Host}
    {Allowed : ReentrantHistory → Reentrant → ReentrantLabel → Prop}
    (hrun : ReentrantRuns host Allowed h m) :
    List.Forall₂ (Interrupted m.inner.conn) m.calls (interruptions h) :=
  Run.invariant (I := fun h m => List.Forall₂ (Interrupted m.inner.conn) m.calls (interruptions h))
    .nil (fun _ ih _ htaken => Reentrant.interrupted htaken ih) hrun

/-- **A part of a call of `__init__`**, where no call is overtaken. -/
theorem Reentrant.part (hstep : m.step l = some (o, m')) (hl : l.isPart = true)
    (hm : List.Forall₂ (Interrupted m.inner.conn) m.calls (interruptions h))
    (hu : Undisturbed h m l) :
    PartOf m.inner.conn m'.inner.conn o (Entry.installed ⟨m, l, o, m'⟩) := by
  cases l with
  | inner label => exact absurd hl (by simp [ReentrantLabel.isPart])
  | construct role config env =>
    obtain ⟨hconn, hcases⟩ := Reentrant.begun hstep
    have ho : o = .reading ∨ ∃ e, o = .raised e :=
      hcases.elim (fun h => .inr h.1) (fun h => .inl h.2.1)
    have hinstalled : Entry.installed ⟨m, .construct role config env, o, m'⟩ = none := by
      rcases ho with rfl | ⟨e, rfl⟩ <;> rfl
    rw [hconn, hinstalled]
    exact ⟨fun _ => ⟨rfl, rfl⟩, fun hi hs => .fresh hi hs, fun _ => ho⟩
  | answer answer env =>
    obtain ⟨call, below, ⟨result, w⟩, hcalls, hcontinued, hafter⟩ := Reentrant.answered hstep
    unfold Undisturbed at hu
    rw [hcalls] at hm
    generalize interruptions h = is at hm hu
    cases hm with
    | @cons _ i _ is hi hm =>
    simp only [hcalls] at hu
    -- a call that assigns finds the object not initialized
    have huninitialized (hassigns : call.assigns m.inner.host.pointerWidth answer = true) :
        m.inner.conn.initialized = false := by
      by_contra hne
      have hreturned := hi.returned (by simpa using hne)
      exact absurd (hreturned.symm.trans (hu hassigns).1) (by simp)
    generalize hc : w.conn = c' at hcontinued
    cases hcontinued with
    | refused =>
      obtain ⟨rfl, rfl⟩ := Prod.mk.inj hafter
      simp only [hc]
      exact ⟨fun _ => ⟨rfl, rfl⟩, fun hi hs => .fresh hi hs, fun _ => .inr ⟨_, rfl⟩⟩
    | read =>
      obtain ⟨rfl, rfl⟩ := Prod.mk.inj hafter
      simp only [hc]
      exact ⟨fun _ => ⟨rfl, rfl⟩, fun hi hs => .fresh hi hs, fun _ => .inl rfl⟩
    | assigned assigns initialized session =>
      obtain ⟨rfl, rfl⟩ := Prod.mk.inj hafter
      simp only [hc]
      exact ⟨fun hi => absurd hi (by simp [huninitialized assigns]),
        fun hi hs => .fresh (initialized.trans hi) (session.trans hs), fun _ => .inl rfl⟩
    | uncreated assigns =>
      obtain ⟨rfl, rfl⟩ := Prod.mk.inj hafter
      simp only [hc]
      exact ⟨fun hi => absurd hi (by simp [huninitialized assigns]), fun hi hs => .fresh hi hs,
        fun _ => .inr ⟨_, rfl⟩⟩
    | @installed n assigns last created =>
      obtain ⟨rfl, rfl⟩ := Prod.mk.inj hafter
      simp only [hc]
      refine ⟨fun hi => absurd hi (by simp [huninitialized assigns]), fun _ _ => ?_, fun h => ?_⟩
      · refine .once rfl ⟨rfl, rfl, rfl, ?_⟩ (.inl rfl)
        have hplaced := hi.placed ((hu assigns).2 last created)
        unfold Constructing.Placed at hplaced
        simp only [last] at hplaced
        exact congrArg (fun l : Limits => { l with maxInboundHeaderCount := n }) hplaced
      · exact absurd h (by simp [Entry.installed])

end Interruptions

/-- **Where no call is overtaken, an object is initialized once at most.** -/
theorem ReentrantRuns.settled {host : Host} {h : ReentrantHistory} {m : Reentrant}
    (hrun : ReentrantRuns host Undisturbed h m) : Settled m.inner.conn (installations h) := by
  refine Run.invariant (I := fun h m => Settled m.inner.conn (installations h))
    (.fresh rfl rfl) ?_ hrun
  intro h m l o m' hrun ih hu htaken
  have hcons : installations (⟨m, l, o, m'⟩ :: h)
      = (Entry.installed ⟨m, l, o, m'⟩).toList ++ installations h := by
    rw [installations, List.filterMap_cons]
    cases Entry.installed ⟨m, l, o, m'⟩ <;> rfl
  show Settled m'.inner.conn (installations (⟨m, l, o, m'⟩ :: h))
  rw [hcons]
  cases hpart : l.isPart with
  | false =>
    cases l with
    | inner label =>
      obtain ⟨hkeeps, -, hnone⟩ := Reentrant.keeps htaken
      rw [hnone]
      exact ih.keeps hkeeps
    | construct => exact absurd hpart (by simp [ReentrantLabel.isPart])
    | answer => exact absurd hpart (by simp [ReentrantLabel.isPart])
  | true =>
    have hdoes := Reentrant.part htaken hpart (ReentrantRuns.interrupted hrun) hu
    cases hi : m.inner.conn.initialized with
    | true =>
      obtain ⟨hconn, hnone⟩ := hdoes.unchanged hi
      rw [hconn, hnone]
      exact ih
    | false =>
      obtain ⟨hempty, hsession⟩ := ih.of_uninitialized hi
      rw [hempty, List.append_nil]
      exact hdoes.settles hi hsession

/-- **An object is initialized once**, in every run in which no call of
`__init__` is overtaken. At most one call installs a session. Until one has,
there is none. From then on the role, the configuration and the limits are those
of the call, and its session is there until the connection fails. Every other
call raises, and changes nothing of an object that is initialized; one that is
made on such an object raises at once. -/
theorem initialized_once {host : Host} {h : ReentrantHistory} {m : Reentrant}
    (hrun : ReentrantRuns host Undisturbed h m) :
    (installations h).length ≤ 1 ∧
      (installations h = [] → m.inner.conn.initialized = false ∧ m.inner.conn.session = none) ∧
      (∀ call session, (call, session) ∈ installations h →
        m.inner.conn.initialized = true ∧ m.inner.conn.InForce call ∧
          (m.inner.conn.session = some session
            ∨ m.inner.conn.session = none ∧ m.inner.conn.failed = true)) ∧
      (∀ e ∈ h, e.label.isPart = true → Entry.installed e = none →
        (e.outcome = .reading ∨ ∃ error, e.outcome = .raised error) ∧
          (e.before.inner.conn.initialized = true →
            e.after.inner.conn = e.before.inner.conn)) ∧
      ∀ e ∈ h, ∀ role config env, e.label = .construct role config env →
        e.before.inner.conn.initialized = true → ∃ error, e.outcome = .raised error := by
  have hsettled := ReentrantRuns.settled hrun
  refine ⟨?_, ?_, ?_, ?_, ?_⟩
  · generalize installations h = is at hsettled
    cases hsettled with
    | fresh => exact Nat.zero_le 1
    | once => exact le_rfl
  · intro hnone
    rw [hnone] at hsettled
    cases hsettled with
    | fresh uninitialized sessionless => exact ⟨uninitialized, sessionless⟩
  · intro call session hmem
    generalize installations h = is at hsettled hmem
    cases hsettled with
    | fresh => exact absurd hmem List.not_mem_nil
    | once initialized inForce kept =>
      obtain ⟨rfl, rfl⟩ := Prod.mk.inj (List.mem_singleton.mp hmem)
      exact ⟨initialized, inForce, kept⟩
  · intro e he hpart hnone
    obtain ⟨h', -, hprior, hu, htaken⟩ := hrun.of_mem he
    have hdoes := Reentrant.part htaken hpart (ReentrantRuns.interrupted hprior) hu
    exact ⟨hdoes.rejected hnone, fun hi => (hdoes.unchanged hi).1⟩
  · intro e he role config env hlabel hi
    obtain ⟨h', -, -, -, htaken⟩ := hrun.of_mem he
    rw [hlabel] at htaken
    obtain ⟨-, hraised | ⟨huninitialized, -⟩⟩ := Reentrant.begun htaken
    · exact hraised.1
    · exact absurd (huninitialized.symm.trans hi) (by simp)

/-- What the engine answers where it is asked for a session. -/
def Env.opening (session : SessionId) : Env := { reply := fun _ => 0, sessionNew := (0, session) }

/-- The answers of a configuration, to the call that waits for them. -/
def Configuration.labels (config : Configuration) (session : SessionId) : List ReentrantLabel :=
  config.answers.map fun answer => .answer answer (.opening session)

/-- A client whose configuration code calls `__init__` once more. That call
raises, and a later one too. -/
def interruptedCall : List ReentrantLabel :=
  [.construct (some .client) .default (.opening 1), .construct (some .server) .default (.opening 2),
    .answer (.raised (.typeError "")) (.opening 2)]
    ++ Configuration.labels {} 1
    ++ [.construct (some .server) .default (.opening 3)]

set_option maxRecDepth 8000 in
theorem initialized_once_interruptedCall :
    ∃ c, Run.execute Reentrant.step Undisturbed ([], { inner := Machine.fresh {} })
        interruptedCall = some c ∧
      c.2.inner.conn.role = some .client := by
  obtain ⟨c, hc, hmem⟩ : ∃ c, Run.execute Reentrant.step Undisturbed
      ([], { inner := Machine.fresh {} }) interruptedCall = some c ∧
      ∃ call, call.role = .client ∧ (call, 1) ∈ installations c.1 :=
    ⟨_, rfl, _, rfl, List.mem_singleton.mpr rfl⟩
  obtain ⟨call, hrole, hmem⟩ := hmem
  refine ⟨c, hc, ?_⟩
  rw [((initialized_once (Run.of_execute .start hc)).2.2.1 call 1 hmem).2.1.role, hrole]

/-- A client whose configuration code makes a server of the object. -/
def overtakenCall : List ReentrantLabel :=
  [.construct (some .client) .default (.opening 1), .construct (some .server) .default (.opening 2)]
    ++ Configuration.labels {} 2 ++ Configuration.labels {} 1

set_option maxRecDepth 8000 in
/-- **A call that was overtaken goes on to assign.** Both calls install their
session, and the second replaces that of the first, with its role. -/
theorem initialized_once_overtakenCall :
    ∃ h m, ReentrantRuns {} (fun _ _ _ => True) h m ∧ (installations h).map Prod.snd = [1, 2] ∧
      (∃ e ∈ h, e.after.inner.conn.session = some 2 ∧ e.after.inner.conn.role = some .server) ∧
      m.inner.conn.session = some 1 ∧ m.inner.conn.role = some .client := by
  obtain ⟨c, hc, hinstallations, hmem, hsession, hrole⟩ : ∃ c,
      Run.execute Reentrant.step (fun _ _ _ => True) ([], { inner := Machine.fresh {} })
        overtakenCall = some c ∧
      (installations c.1).map Prod.snd = [1, 2] ∧
      (∃ e ∈ c.1.drop 17, e.after.inner.conn.session = some 2 ∧
        e.after.inner.conn.role = some .server) ∧
      c.2.inner.conn.session = some 1 ∧ c.2.inner.conn.role = some .client :=
    ⟨_, rfl, rfl, ⟨_, List.mem_cons_self, rfl, rfl⟩, rfl, rfl⟩
  obtain ⟨e, he, hafter⟩ := hmem
  exact ⟨c.1, c.2, Run.of_execute .start hc, hinstallations,
    ⟨e, List.mem_of_mem_drop he, hafter⟩, hsession, hrole⟩

end Ngh2
