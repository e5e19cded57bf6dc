import Ngh2.Wakeups

/-!
# A rejected call changes nothing

An operation that raises and leaves the connection usable has left it as it
was. For most operations this is how they are written: the engine is asked
first, and what it refuses is not recorded. `send_data` and `send_trailers`
queue first and wake the source afterwards, so for them it rests on the flag of
the body: the source they wake does sleep, and waking it is not refused.

Where memory runs out it holds under two conditions. A message that the engine
takes is recorded whole, or not at all (`Machine.RecordAfforded`); and a fatal
answer to the waking of a source, which fails the connection, finds memory for
its exception (`Machine.WakeReported`).

`initiate_upgrade` is rejected in two places, before the engine is entered and
after it has come back. In between the engine may report the settings of the
peer, which is an event and no state.
-/

namespace Ngh2

open Nghttp2 Effect

/-- **The protocol state the binding owns**: what it has queued and recorded,
and how far the connection is. -/
structure ProtocolState where
  bodies : Dict BodySource
  queuedBodySize : Nat
  responses : Finset StreamId
  deferredResets : Dict Nat
  localStreamErrors : Dict PyError
  unconsumed : Dict Nat
  initialized : Bool
  active : Bool
  failed : Bool
  terminating : Bool
  closing : Bool
  closed : Bool
  localExtensiblePriority : Bool

/-- The protocol state of a connection. -/
def Connection.protocolState (c : Connection) : ProtocolState where
  bodies := c.bodies
  queuedBodySize := c.queuedBodySize
  responses := c.responses
  deferredResets := c.deferredResets
  localStreamErrors := c.localStreamErrors
  unconsumed := c.unconsumed
  initialized := c.initialized
  active := c.active
  failed := c.failed
  terminating := c.terminating
  closing := c.closing
  closed := c.closed
  localExtensiblePriority := c.localExtensiblePriority

/-! ## What is assumed of the engine -/

/-- Whether `nghttp2_session_upgrade2` is on the stack. -/
def Machine.upgrading (m : Machine) : Bool :=
  match m.drive with
  | some (.upgrade _, _) => true
  | _ => false

/-- **An upgrade reports nothing but the settings of the peer.** -/
def UpgradeReportsSettings (m : Machine) (l : Label) : Prop :=
  match l with
  | .callback (.frameReceived frame) _ =>
    m.upgrading = true → (match frame.payload with | .settings _ => true | _ => false) = true
  | .callback _ _ => m.upgrading = false
  | _ => True

/-- Whether a label reports a SETTINGS frame. -/
def Label.reportsSettings : Label → Bool
  | .callback (.frameReceived frame) _ =>
    match frame.payload with
    | .settings _ => true
    | _ => false
  | _ => false

theorem upgradeReportsSettings_iff {m : Machine} {l : Label} :
    UpgradeReportsSettings m l ↔
      (l.isCallback = true → m.upgrading = true → l.reportsSettings = true) := by
  cases l with
  | callback cb =>
    cases cb <;> simp [UpgradeReportsSettings, Label.isCallback, Label.reportsSettings]
  | request | ret => simp [UpgradeReportsSettings, Label.isCallback]

instance (m : Machine) (l : Label) : Decidable (UpgradeReportsSettings m l) :=
  decidable_of_iff _ upgradeReportsSettings_iff.symm

/-- What the rejection of calls assumes of the engine. -/
def RefusesCleanly (h : History) (m : Machine) (l : Label) : Prop :=
  WakesSources h m l ∧ UpgradeReportsSettings m l

instance (h : History) (m : Machine) (l : Label) : Decidable (RefusesCleanly h m l) :=
  inferInstanceAs (Decidable (_ ∧ _))

/-- The engine refuses cleanly, and no message is left half accepted. -/
def RefusesAfforded (h : History) (m : Machine) (l : Label) : Prop :=
  RefusesCleanly h m l ∧ m.RecordAfforded l ∧ m.WakeReported l

instance (h : History) (m : Machine) (l : Label) : Decidable (RefusesAfforded h m l) :=
  inferInstanceAs (Decidable (RefusesCleanly h m l ∧ m.RecordAfforded l ∧ m.WakeReported l))

/-! ## The operations -/

section Steps

variable {host : Host} {h : History} {m : Machine} {l : Label} {p : Outcome × Machine}

/-- **An operation that raises fails the connection or changes nothing**, if no
message was recorded in part. `__init__` is left out: it keeps the limits it has
validated. -/
theorem Stepped.raised {r : Request} {env : Env} (hrun : Runs host WakesSources h m)
    (hallowed : WakesSources h m (.request r env)) (hreported : m.WakeReported (.request r env))
    (hstep : Stepped m (.request r env) p)
    (hrecorded : p.2.conn.Sound → ∀ s message,
      happening ⟨m, .request r env, p.1, p.2⟩ = .stuck s message →
        message.queues = true ∨ message = .request true)
    (hinit : ∀ role config, r ≠ .init role config) {x : PyError}
    (hraised : p.1.response = .raised x) :
    p.2.conn = m.conn ∨ m.conn.failed = false ∧ p.2.conn.failed = true := by
  have hclean : Runs host ClosesCleanly h m := hrun.mono fun ha => ha.1
  have hsound (husable : m.conn.Usable) : m.conn.Sound :=
    Runs.sound_of_idle (fun ha => ha.1.1) hrun hstep.request_idle husable.1
  -- what was queued woke its source
  have hstuck (husable : m.conn.Usable) (hafter : p.2.conn.Sound) (s : StreamId)
      (message : Message) (hqueues : message.queues = true) :
      happening ⟨m, .request r env, p.1, p.2⟩ ≠ .stuck s message :=
    Runs.never_stuck hclean (hsound husable) hallowed.2.1 hreported hstep hafter s message hqueues
  cases hstep with
  | request idle hr =>
    rw [Machine.afterRequest_conn]
    cases hr with
    | rejected => exact .inl rfl
    | failed started => exact .inr ⟨started.1, rfl⟩
    | unreported => exact .inl rfl
    | @configured role config => exact absurd rfl (hinit role config)
    | requestBodiless => exact .inl rfl
    | @requestUnreported headers endStream t usable client allowed submitted accepted recorded
        exhausted =>
      cases endStream with
      | true => exact .inl rfl
      | false =>
        subst submitted
        have hstuck := hrecorded (hsound usable) _ _ (Request.happening_unreported
          (List.mem_cons_of_mem _ List.mem_cons_self) accepted recorded)
        exact absurd hstuck (by simp [Message.queues])
    | responseUnrecorded => exact .inl rfl
    | @responseBodiless t headers usable server tracked first accepted recorded exhausted =>
      have hstuck := hrecorded (hsound usable) _ _ (Request.happening_recorded
        (List.mem_cons_of_mem _ List.mem_cons_self) accepted recorded)
      exact absurd hstuck (by simp [Message.queues])
    | @trailersStuck t headers body e usable opened unended deferred refused mild =>
      exact absurd rfl (hstuck usable (hsound usable) t (.trailers headers) rfl)
    | @dataStuck t chunk endStream body e usable opened unended deferred wakes refused mild =>
      exact absurd rfl (hstuck usable (hsound usable) t (.data chunk endStream) rfl)
    | _ => simp [Machine.afterRequest] at hraised

end Steps

/-! ## The upgrade -/

/-- The machine in which the operation that is inside the engine was called. -/
def calledFrom : History → Option Machine
  | [] => none
  | e :: h =>
    match e.outcome.response with
    | .entered => some e.before
    | .replied _ => calledFrom h
    | _ => none

section Upgrade

variable {host : Host} {h : History} {m : Machine}

/-- **While an upgrade is in the engine nothing is recorded.** -/
theorem Runs.upgrading_protocolState (hrun : Runs host RefusesCleanly h m) (hsound : m.conn.Sound)
    (hupgrading : m.upgrading = true) :
    ∃ m₀, calledFrom h = some m₀ ∧ m.conn.protocolState = m₀.conn.protocolState := by
  revert hupgrading
  refine Runs.induct_sound (I := fun h m => m.upgrading = true →
    ∃ m₀, calledFrom h = some m₀ ∧ m.conn.protocolState = m₀.conn.protocolState)
    (fun ha => ha.1.1.1) (fun h => absurd h (by simp [Machine.upgrading, Machine.fresh])) ?_
    hrun hsound
  intro h m l p _ _ ih hallowed hstep hsound hupgrading
  cases hstep with
  | request idle hr =>
    have hno (w : World) : Machine.upgrading { m with conn := w.conn } = false := by
      simp [Machine.upgrading, idle]
    cases hr with
    | upgrading => exact ⟨m, rfl, rfl⟩
    | receiving => simp [Machine.upgrading, Machine.afterRequest] at hupgrading
    | sending => simp [Machine.upgrading, Machine.afterRequest] at hupgrading
    | _ => exact absurd ((hno _).symm.trans hupgrading) (by simp)
  | @callback cb env d session q driven hc =>
    have hbefore : m.upgrading = true := by
      rw [Machine.upgrading, Machine.afterCallback_drive] at hupgrading
      exact hupgrading
    obtain ⟨m₀, hcalled, hstate⟩ := ih hbefore
    refine ⟨m₀, hcalled, ?_⟩
    have hreports := hallowed.2
    rw [Machine.afterCallback_conn] at hsound ⊢
    rw [← hstate]
    cases hc with
    | failed spoiled deferred => exact absurd (deferred.symm.trans hsound.2) (by simp)
    | frameReceived => rfl
    | frameIgnored => rfl
    | dataReceived kind => simp [UpgradeReportsSettings, hbefore, kind] at hreports
    | goawayReceived kind => simp [UpgradeReportsSettings, hbefore, kind] at hreports
    | headerBlock kind =>
      rcases kind with ⟨rfl, -⟩ | ⟨rfl, -⟩ | ⟨_, _, _, rfl, -⟩ <;>
        exact absurd hreports (by simp [UpgradeReportsSettings, hbefore])
    | _ => exact absurd hreports (by simp [UpgradeReportsSettings, hbefore])
  | ret driven hr =>
    rw [Machine.upgrading, Machine.afterReturn_drive] at hupgrading
    exact absurd hupgrading (by simp)

/-- **How an upgrade comes back**: it is applied and the connection active or
failed, or it is refused and the connection as it was, or failed. -/
theorem Stepped.upgraded {result : Int} {env : Env} {p : Outcome × Machine}
    (hstep : Stepped m (.ret result env) p) (hupgrading : m.upgrading = true) :
    (0 ≤ result → p.2.conn.active = true ∨ p.2.conn.failed = true) ∧
    (∀ x, p.1.response = .raised x →
      p.2.conn.failed = true ∨ (m.conn.callbackError = none ∧ p.2.conn = m.conn)) := by
  cases hstep with
  | @ret result env d session q driven hr =>
    have hno {d' : Drive} (hd : d = d') (h : ∀ entries, d' ≠ .upgrade entries) : False := by
      subst hd
      rw [Machine.upgrading, driven] at hupgrading
      cases d with
      | upgrade entries => exact h entries rfl
      | _ => simp at hupgrading
    rw [Machine.afterReturn_conn]
    cases hr with
    | failed => exact ⟨fun _ => .inr rfl, fun _ _ => .inl rfl⟩
    | rejected negative mild clean => exact ⟨fun hn => by omega, fun _ _ => .inr ⟨clean, rfl⟩⟩
    | upgraded => exact ⟨fun _ => .inl rfl, fun x hx => by simp [Machine.afterReturn] at hx⟩
    | _ => exact (hno rfl (by simp)).elim

end Upgrade

/-! ## The theorem -/

/-- **Rejected calls are atomic**, in a history. -/
structure RejectionsAtomic (h : History) : Prop where
  /-- An operation that raises before it enters the engine leaves the connection
  exactly as it was, or has failed it. -/
  kept : ∀ e h', (e :: h') <:+ h → ∀ r env x, e.label = .request r env →
    (∀ role config, r ≠ .init role config) → e.outcome.response = .raised x →
      e.after.conn = e.before.conn ∨
        e.before.conn.failed = false ∧ e.after.conn.failed = true
  /-- Where the engine has applied an upgrade, the connection is active or
  failed. -/
  applied : ∀ e h', (e :: h') <:+ h → e.before.upgrading = true → ∀ result env,
    e.label = .ret result env → 0 ≤ result →
      e.after.conn.active = true ∨ e.after.conn.failed = true
  /-- `initiate_upgrade`, when it raises after the engine has come back, leaves
  the protocol state exactly as it was when it was called, or has failed the
  connection. -/
  refused : ∀ e h', (e :: h') <:+ h → e.before.upgrading = true → ∀ result env,
    e.label = .ret result env → ∀ x, e.outcome.response = .raised x →
      e.after.conn.failed = true ∨
        ∃ m₀, calledFrom h' = some m₀ ∧ e.after.conn.protocolState = m₀.conn.protocolState

/-- **Rejected calls are atomic.** Along every run, whatever the engine refuses,
if what it takes is recorded whole and a fatal answer to the waking of a source
is reported. -/
theorem rejected_calls_atomic {host : Host} {h : History} {m : Machine}
    (hrun : Runs host RefusesAfforded h m) : RejectionsAtomic h := by
  refine ⟨?_, ?_, ?_⟩
  · intro e h' hsuf r env x hlabel hinit hraised
    obtain ⟨hprior, hallowed, htaken⟩ := hrun.of_suffix hsuf
    rw [hlabel] at hallowed htaken
    obtain ⟨hclean, hafforded, hreported⟩ := hallowed
    have hstep := Machine.stepped htaken
    exact hstep.raised (hprior.mono fun ha => ha.1.1) hclean.1 hreported
      (fun hsound _ _ hx => hstep.queues_of_stuck hsound hafforded hx) hinit hraised
  · intro e h' hsuf hupgrading result env hlabel
    obtain ⟨-, -, htaken⟩ := hrun.of_suffix hsuf
    rw [hlabel] at htaken
    exact ((Machine.stepped htaken).upgraded hupgrading).1
  · intro e h' hsuf hupgrading result env hlabel x hraised
    obtain ⟨hprior, -, htaken⟩ := hrun.of_suffix hsuf
    rw [hlabel] at htaken
    have hrefused := ((Machine.stepped htaken).upgraded hupgrading).2
    refine (hrefused x hraised).imp_right fun hkept => ?_
    have hdriven : e.before.drive ≠ none := fun hnone => by
      simp [Machine.upgrading, hnone] at hupgrading
    obtain ⟨m₀, hcalled, hstate⟩ := Runs.upgrading_protocolState (hprior.mono fun ha => ha.1)
      ⟨Runs.live hprior hdriven, hkept.1⟩ hupgrading
    exact ⟨m₀, hcalled, (congrArg Connection.protocolState hkept.2).trans hstate⟩

/-- A server whose peer sent settings that the engine refuses. -/
def refusedUpgrade : List Label := [
  .request (.init .server {}) (.accepting []),
  .request (.initiateUpgrade [1] [] false) (.accepting []),
  .ret (-501) (.accepting [])]

set_option maxRecDepth 4000 in
theorem rejected_calls_atomic_refusedUpgrade :
    ∃ c, Run.execute Machine.step RefusesAfforded ([], Machine.fresh {}) refusedUpgrade = some c ∧
      ∃ m₀, calledFrom c.1.tail = some m₀ ∧ m₀.conn.initialized = true ∧
        c.2.conn.protocolState = m₀.conn.protocolState := by
  obtain ⟨c, hc, e, h', heq, hupgrading, hlabel, hraised, hlive, hinitialized⟩ : ∃ c,
      Run.execute Machine.step RefusesAfforded ([], Machine.fresh {}) refusedUpgrade = some c ∧
      ∃ e h', c.1 = e :: h' ∧ e.before.upgrading = true ∧
      e.label = .ret (-501) (.accepting []) ∧
      (∃ x, e.outcome.response = .raised x) ∧ e.after.conn.failed = false ∧
      (∀ m₀ ∈ calledFrom h', m₀.conn.initialized = true) :=
    ⟨_, rfl, _, _, rfl, rfl, rfl, ⟨_, rfl⟩, rfl, by simp [calledFrom]⟩
  obtain ⟨x, hraised⟩ := hraised
  have hrun := Run.of_execute .start hc
  obtain ⟨m₀, hcalled, hstate⟩ :=
    ((rejected_calls_atomic hrun).refused e h' (heq ▸ List.suffix_refl _) hupgrading _ _ hlabel
      x hraised).resolve_left (by simp [hlive])
  have hafter : c.2 = e.after := by
    rw [heq] at hrun
    exact hrun.state_eq
  refine ⟨c, hc, m₀, ?_, hinitialized m₀ hcalled, ?_⟩
  · rw [heq]
    exact hcalled
  · rw [hafter]
    exact hstate

/-- A client that adds a chunk behind a source that sleeps. The engine has no
memory to wake it, and the binding none for the exception that says so. -/
def unwokenChunk : List Label := [
  .request (.init .client {}) (.accepting []),
  .request (.initiateConnection []) (.accepting []),
  .request (.sendRequest [] false) (.accepting [(.sessionCheckRequestAllowed, 1),
    (.submitRequest2 [] true, 1)]),
  .request (.dataToSend none) (.accepting []),
  .callback (.readBody 1 16384) (.accepting []),
  .ret 0 (.accepting []),
  .request (.sendData 1 [8] false) { Env.accepting [(.sessionResumeData 1, errNomem)] with
    alloc := fun a => decide (a ≠ .exception) }]

set_option maxRecDepth 4000 in
/-- **A fatal code that is not reported leaves the chunk queued** by a call that
raised, on a connection that goes on. -/
theorem rejected_calls_atomic_unwokenChunk :
    ∃ c, Run.execute Machine.step RefusesCleanly ([], Machine.fresh {}) unwokenChunk = some c ∧
      ¬ RejectionsAtomic c.1 := by
  obtain ⟨e, h', m, hc, ⟨env, hlabel⟩, hraised, hqueued, hlive⟩ : ∃ e h' m,
      Run.execute Machine.step RefusesCleanly ([], Machine.fresh {}) unwokenChunk
        = some (e :: h', m) ∧
      (∃ env, e.label = .request (.sendData 1 [8] false) env) ∧
      e.outcome.response = .raised (.memoryError "") ∧
      e.after.conn.queuedBodySize ≠ e.before.conn.queuedBodySize ∧ e.after.conn.failed = false :=
    ⟨_, _, _, rfl, ⟨_, rfl⟩, rfl, by decide, rfl⟩
  refine ⟨_, hc, fun hatomic => ?_⟩
  rcases hatomic.kept e h' List.suffix_rfl _ env _ hlabel (by simp) hraised with hsame | hfailed
  · exact hqueued (congrArg Connection.queuedBodySize hsame)
  · exact absurd (hfailed.2.symm.trans hlive) (by decide)

end Ngh2
