import Ngh2.Contract
import Ngh2.Lib.Handles
import Ngh2.PublicCalls

/-!
# Calls inside of calls

While caller's code runs, the call that runs it waits, and the code may call
the connection again. `Nested` is the machine of `Ngh2.Machine` with the stack
of the calls that wait: those of `__init__`, which go from one value of the
configuration to the next, and those of the other methods, which go from one
finding of their arguments to the next. A method whose arguments are converted
performs its body at once.

The engine runs no code of the caller: while one of its functions is on the
stack, only its callbacks and its return happen.
-/

namespace Ngh2

open Effect Nghttp2

/-- A call that waits for caller's code. -/
inductive Suspended where
  | constructing (call : Constructing)
  | converting (call : Pending)

/-- **The state of the machine**, and the calls that wait, innermost first. -/
structure Nested where
  inner : Machine
  calls : List Suspended := []

/-- What happens to the object. Code that comes back leaves the exact lists and
tuples of the caller with their contents. -/
inductive NestedLabel where
  /-- The engine calls back, or returns. -/
  | engine (label : Label)
  /-- `__init__` is called. -/
  | construct (role : Option Role) (config : ConfigArgument) (env : Env)
  /-- Configuration code comes back to the innermost call. -/
  | answer (answer : Answer) (env : Env)
  /-- A method is called. -/
  | call (operation : Operation) (contents : Ref → List Pair) (env : Env)
  /-- Caller's code comes back to the innermost call. -/
  | give (finding : Finding) (contents : Ref → List Pair) (env : Env)

/-- What is outside the binding during a step. -/
def NestedLabel.env : NestedLabel → Env
  | .engine label => label.env
  | .construct _ _ env => env
  | .answer _ env => env
  | .call _ _ env => env
  | .give _ _ env => env

/-- What comes of a step. -/
inductive NestedOutcome where
  | engine (outcome : Outcome)
  /-- A part of `__init__`, with what it did with sessions. -/
  | part (progress : Except PyError Progress) (issued : List Issued)
  /-- A call waits for caller's code. -/
  | waiting
  /-- A call refused an argument. -/
  | rejected (error : PyError)
  /-- The body of a call, and what it gave. -/
  | performed (request : Request) (outcome : Outcome)

/-- The uses of native sessions in a step. -/
def NestedOutcome.issued : NestedOutcome → List Issued
  | .engine outcome => outcome.issued
  | .part _ issued => issued
  | .waiting => []
  | .rejected _ => []
  | .performed _ outcome => outcome.issued

/-- Whether a label is a call by the owner. -/
def Label.isRequest : Label → Bool
  | .request _ _ => true
  | _ => false

namespace Nested

/-- The object after a part of a call of `__init__`, with the calls below it. -/
def afterPart (m : Nested) (below : List Suspended) (p : Except PyError Progress × World) :
    NestedOutcome × Nested :=
  (.part p.1 p.2.issued,
    { inner := { m.inner with conn := p.2.conn }
      calls := match p.1 with
        | .ok (.reading call) => .constructing call :: below
        | _ => below })

/-- The object after a call got as far as its findings let it. -/
def afterAdvance (m : Nested) (below : List Suspended) (call : Pending) (env : Env) :
    Option (NestedOutcome × Nested) :=
  match call.advance m.inner.host.pointerWidth with
  | none => none
  | some .waiting => some (.waiting, { m with calls := .converting call :: below })
  | some (.rejected e) => some (.rejected e, { m with calls := below })
  | some (.ready request) =>
    (m.inner.step (.request request env)).map fun p =>
      (.performed request p.1, { inner := p.2, calls := below })

/-- The moment that caller's code comes back. -/
def moment (m : Nested) (contents : Ref → List Pair) : Moment :=
  { contents, server := m.inner.conn.server }

/-- **One step of the machine.** -/
def step (m : Nested) : NestedLabel → Option (NestedOutcome × Nested)
  | .engine label =>
    if label.isRequest then none
    else (m.inner.step label).map fun p => (.engine p.1, { m with inner := p.2 })
  | .construct role config env =>
    match m.inner.drive with
    | some _ => none
    | none => some (m.afterPart m.calls
        (Effect.run (do return Progress.reading (← beginConstruction role config)) env
          m.inner.world))
  | .answer answer env =>
    match m.inner.drive, m.calls with
    | none, .constructing call :: below =>
      if call.next.takes answer then
        some (m.afterPart below ((call.resume answer).run env m.inner.world))
      else none
    | _, _ => none
  | .call operation contents env =>
    match m.inner.drive with
    | some _ => none
    | none => m.afterAdvance m.calls { operation, begun := m.moment contents } env
  | .give finding contents env =>
    match m.inner.drive, m.calls with
    | none, .converting call :: below =>
      m.afterAdvance below { call with given := call.given ++ [(finding, m.moment contents)] } env
    | _, _ => none

end Nested

/-- A history of the machine, newest entry first. -/
abbrev NestedHistory : Type := List (Entry Nested NestedLabel NestedOutcome)

/-- The runs of a fresh object. -/
abbrev NestedRuns (host : Host) (Allowed : NestedHistory → Nested → NestedLabel → Prop) :
    NestedHistory → Nested → Prop :=
  Run Nested.step Allowed { inner := Machine.fresh host }

/-! ## What a step is -/

/-- **The steps of the machine**: one of the inner machine, a part of a call of
`__init__`, or caller's code and nothing else. -/
inductive NestedStep (m : Nested) : NestedLabel → NestedOutcome × Nested → Prop
  | engine {label : Label} {p : Outcome × Machine} (unasked : label.isRequest = false)
      (taken : m.inner.step label = some p) :
      NestedStep m (.engine label) (.engine p.1, { m with inner := p.2 })
  | performed {l : NestedLabel} {request : Request} {p : Outcome × Machine}
      {below : List Suspended} (taken : m.inner.step (.request request l.env) = some p) :
      NestedStep m l (.performed request p.1, { inner := p.2, calls := below })
  | begun {role : Option Role} {config : ConfigArgument} {env : Env} (idle : m.inner.drive = none) :
      NestedStep m (.construct role config env) (m.afterPart m.calls
        (Effect.run (do return Progress.reading (← beginConstruction role config)) env
          m.inner.world))
  | resumed {answer : Answer} {env : Env} {call : Constructing} {below : List Suspended}
      (idle : m.inner.drive = none) :
      NestedStep m (.answer answer env)
        (m.afterPart below ((call.resume answer).run env m.inner.world))
  | waiting {l : NestedLabel} {calls : List Suspended} :
      NestedStep m l (.waiting, { m with calls })
  | rejected {l : NestedLabel} {e : PyError} {calls : List Suspended} :
      NestedStep m l (.rejected e, { m with calls })

/-- **Every step of the machine is one of these.** -/
theorem Nested.stepped {m : Nested} {l : NestedLabel} {p : NestedOutcome × Nested}
    (h : m.step l = some p) : NestedStep m l p := by
  have hadvance {below : List Suspended} {call : Pending}
      (h : m.afterAdvance below call l.env = some p) : NestedStep m l p := by
    unfold Nested.afterAdvance at h
    split at h
    · exact absurd h (by simp)
    · exact Option.some_inj.mp h ▸ .waiting
    · exact Option.some_inj.mp h ▸ .rejected
    · obtain ⟨q, hq, rfl⟩ := Option.map_eq_some_iff.mp h
      exact .performed hq
  cases l with
  | engine label =>
    rw [Nested.step] at h
    split at h
    · exact absurd h (by simp)
    · next hcalls =>
      obtain ⟨q, hq, rfl⟩ := Option.map_eq_some_iff.mp h
      exact .engine (by simpa using hcalls) hq
  | construct role config env =>
    rw [Nested.step] at h
    split at h
    · exact absurd h (by simp)
    · next hidle => exact Option.some_inj.mp h ▸ .begun hidle
  | answer answer env =>
    rw [Nested.step] at h
    split at h
    · next hidle _ =>
      split at h
      · exact Option.some_inj.mp h ▸ .resumed hidle
      · exact absurd h (by simp)
    · exact absurd h (by simp)
  | call operation contents env =>
    rw [Nested.step] at h
    split at h
    · exact absurd h (by simp)
    · exact hadvance h
  | give finding contents env =>
    rw [Nested.step] at h
    split at h
    · exact hadvance h
    · exact absurd h (by simp)

/-! ## The check before the engine -/

/-- The operations that call the engine: all but `__init__`, and the two that
only read the connection. -/
def Request.reachesEngine : Request → Bool
  | .init _ _ => false
  | .takeEvents => false
  | .queuedBodySize _ => false
  | _ => true

section Checks

variable {env : Env} {w : World}

/-- `_require_active` refuses what is not usable, before anything else. -/
theorem refused_active {α : Type} (f : Unit → M α) (h : ¬ w.conn.Usable) :
    ∃ x, x.isConnectionStateError = true ∧ (requireActive >>= f).run env w = (.error x, w) := by
  refine ⟨w.conn.stateError, w.conn.stateError_isConnectionStateError, ?_⟩
  rw [run_bind, run_requireActive, if_neg h]

theorem refused_drivable {α : Type} (f : Unit → M α)
    (h : ¬ (w.conn.failed = false ∧ w.conn.active = true)) :
    ∃ x, x.isConnectionStateError = true ∧ (requireDrivable >>= f).run env w = (.error x, w) := by
  refine ⟨w.conn.stateError, w.conn.stateError_isConnectionStateError, ?_⟩
  rw [run_bind, run_requireDrivable, if_neg h]

theorem refused_created {α : Type} (f : Unit → M α)
    (h : w.conn.initialized = false ∨ w.conn.failed = true) :
    ∃ x, x.isConnectionStateError = true ∧ (requireCreated >>= f).run env w = (.error x, w) := by
  cases hi : w.conn.initialized with
  | false =>
    exact ⟨.ngh2 .connectionState "Connection is not initialized",
      rfl, by simp [requireCreated, hi]⟩
  | true =>
    have hf : w.conn.failed = true := h.resolve_left (by simp [hi])
    exact ⟨.ngh2 .connectionState "Connection is no longer usable", rfl,
      by simp [requireCreated, hi, hf]⟩

/-- **Nothing reaches the engine without a session**: on a connection that has
none, an operation raises `ConnectionStateError`, and `data_to_send` has nothing
to give on one that was not initiated. -/
theorem Request.run_of_not_started (env : Env) {r : Request} (h : ¬ w.conn.Started)
    (hr : r.reachesEngine = true) :
    (∃ x, x.isConnectionStateError = true ∧ r.body.run env w = (.error x, w)) ∨
      w.conn.failed = false ∧ ∃ v, r.body.run env w = (.ok (.value v), w) := by
  have husable : ¬ w.conn.Usable := fun hu => h hu.started
  have hdrivable : ¬ (w.conn.failed = false ∧ w.conn.active = true) :=
    fun hd => h ⟨hd.1, .inr hd.2⟩
  have hcreated : w.conn.initialized = false ∨ w.conn.failed = true := by
    by_contra hne
    obtain ⟨hi, hf⟩ := not_or.mp hne
    exact h ⟨by simpa using hf, .inl (by simpa using hi)⟩
  cases r with
  | init => exact absurd hr (by simp [reachesEngine])
  | takeEvents => exact absurd hr (by simp [reachesEngine])
  | queuedBodySize => exact absurd hr (by simp [reachesEngine])
  | initiateConnection => exact .inl (refused_created _ hcreated)
  | initiateUpgrade => exact .inl (refused_created _ hcreated)
  | wantRead => exact .inl (refused_drivable _ hdrivable)
  | wantWrite => exact .inl (refused_drivable _ hdrivable)
  | canSendRequest => exact .inl (refused_drivable _ hdrivable)
  | dataToSend amount =>
    cases hf : w.conn.failed with
    | true =>
      exact .inl ⟨.ngh2 .connectionState "Connection is no longer usable", rfl,
        by simp [body, Ngh2.dataToSend, hf]⟩
    | false =>
      have ha : w.conn.active = false := by simpa [hf] using hdrivable
      exact .inr ⟨rfl, .bytes [], by simp [body, Ngh2.dataToSend, hf, ha]⟩
  | _ => exact .inl (refused_active _ husable)

/-- No call is among the uses that were added. -/
def Uncalling (w w' : World) : Prop :=
  ∀ session q, .call session q ∈ w'.issued → .call session q ∈ w.issued

theorem uncalling_refl (w : World) : Uncalling w w := fun _ _ h => h

theorem uncalling_bind {α β : Type} {x : M α} {f : α → M β} (hx : Moves Uncalling x)
    (hf : ∀ a, Moves Uncalling (f a)) : Moves Uncalling (x >>= f) :=
  moves_bind (fun h₁ h₂ session q hi => h₁ session q (h₂ session q hi)) hx hf

theorem uncalling_update (f : Connection → Connection) : Moves Uncalling (update f) :=
  moves_modify fun w => uncalling_refl { w with conn := f w.conn }

theorem uncalling_raiseIf (b : Prop) [Decidable b] (e : PyError) :
    Moves Uncalling (raiseIf b e) :=
  moves_ite (fun _ => moves_raise uncalling_refl e) fun _ => moves_pure uncalling_refl ()

theorem uncalling_lift {α : Type} (a : Except PyError α) :
    Moves Uncalling (lift a : M α) := by
  cases a with
  | ok a => exact moves_pure uncalling_refl a
  | error e => exact moves_raise uncalling_refl e

theorem uncalling_host : Moves Uncalling host :=
  uncalling_bind (moves_get uncalling_refl) fun _ => moves_pure uncalling_refl _

theorem uncalling_raiseIfNegative (result : Int) : Moves Uncalling (raiseIfNegative result) :=
  uncalling_bind uncalling_host fun _ => uncalling_raiseIf _ _

theorem uncalling_applyConfiguration (config : Configuration) :
    Moves Uncalling (applyConfiguration config) := by
  refine uncalling_bind uncalling_host fun _ => ?_
  -- the conversions, up to the first assignment
  iterate 12 refine uncalling_bind (uncalling_lift _) fun _ => ?_
  refine uncalling_bind (uncalling_raiseIf _ _) fun _ =>
    uncalling_bind (uncalling_update _) fun _ => uncalling_bind (uncalling_lift _) fun _ =>
      uncalling_bind (uncalling_update _) fun _ => uncalling_bind (uncalling_lift _) fun _ =>
        uncalling_update _

theorem uncalling_install (role : Role) (config : Configuration) :
    Moves Uncalling (install role config) := by
  refine uncalling_bind (moves_read uncalling_refl) fun _ =>
    uncalling_bind (uncalling_raiseIfNegative _) fun _ =>
      uncalling_bind (moves_modify fun w session q hi => ?_) fun _ => uncalling_update _
  exact (List.mem_append.mp hi).resolve_right (by simp)

/-- `__init__` calls no function of a session. -/
theorem uncalling_init (role : Role) (config : Configuration) :
    Moves Uncalling (Ngh2.init role config) :=
  uncalling_bind (uncalling_bind (uncalling_bind (moves_get uncalling_refl) fun _ =>
      moves_pure uncalling_refl _) fun _ => uncalling_raiseIf _ _) fun _ =>
    uncalling_bind (moves_read uncalling_refl) fun _ =>
      uncalling_bind (uncalling_raiseIfNegative _) fun _ =>
        uncalling_bind (moves_read uncalling_refl) fun _ =>
          uncalling_bind (uncalling_raiseIfNegative _) fun _ =>
            uncalling_bind (uncalling_applyConfiguration config) fun _ =>
              uncalling_bind (uncalling_install role config) fun _ => moves_pure uncalling_refl _

/-- An operation makes no call on a connection that has no session. -/
theorem Request.no_calls_of_not_started (r : Request) (h : ¬ w.conn.Started) (hw : w.issued = [])
    (session : Option SessionId) (q : EngineCall) :
    .call session q ∉ (r.body.run env w).2.issued := by
  have hnone : .call session q ∉ w.issued := by simp [hw]
  cases hr : r.reachesEngine with
  | true =>
    rcases Request.run_of_not_started env h hr with
      ⟨x, -, hrun⟩ | ⟨-, v, hrun⟩ <;> rw [hrun] <;> exact hnone
  | false =>
    cases r with
    | init role config => exact fun hi => hnone (uncalling_init role config env w session q hi)
    | takeEvents => exact hnone
    | queuedBodySize streamId =>
      rw [body, Ngh2.queuedBodySize, run_bind, run_conn]
      dsimp only
      split
      · exact hnone
      · split <;> exact hnone
    | _ => exact absurd hr (by simp [reachesEngine])

end Checks

end Ngh2
