import Ngh2.ReturnSteps

/-!
# What a step of the machine does

`Stepped m l p` collects the three inversions: a step of the machine is an
operation, a callback or a return, and does one of the things listed for it.

A callback that fails leaves the connection half changed until the engine
function on the stack returns, and what an invariant says of a connection it
can say only while nothing has failed (`Connection.Sound`). The engine returns
at once and with a fatal code after a failed callback (`FailureEndsDrive`), so
that a sound connection was sound in every state before. `Runs.induct_sound` is
the induction principle that rests on this.
-/

namespace Ngh2

open Nghttp2 Effect

/-- **What a step of the machine does.** -/
inductive Stepped (m : Machine) : Label → Outcome × Machine → Prop
  | request {r : Request} {env : Env} {p : Except PyError Started × World}
      (idle : m.drive = none) (requested : Requested m.host env m.conn r p) :
      Stepped m (.request r env) (m.afterRequest p)
  | callback {cb : Callback} {env : Env} {d : Drive} {session : Option SessionId}
      {p : Reply × World} (driven : m.drive = some (d, session))
      (called : Called m.host env session m.conn cb p) :
      Stepped m (.callback cb env) (m.afterCallback (.ok p.1, p.2))
  | ret {result : Int} {env : Env} {d : Drive} {session : Option SessionId}
      {p : Except PyError Value × World} (driven : m.drive = some (d, session))
      (returned : Returned m.host env m.conn d result p) :
      Stepped m (.ret result env) (m.afterReturn p)

/-- Every step of the machine does one of the things listed. -/
theorem Machine.stepped {m m' : Machine} {l : Label} {o : Outcome}
    (h : m.step l = some (o, m')) : Stepped m l (o, m') := by
  cases l with
  | request r env =>
    cases hd : m.drive with
    | some d => simp [Machine.step, hd] at h
    | none =>
      have hreq := requested m.host env m.conn r
      rw [Machine.step, hd] at h
      rw [← Option.some_inj.mp h]
      exact .request hd hreq
  | callback cb env =>
    cases hd : m.drive with
    | none => simp [Machine.step, hd] at h
    | some d =>
      obtain ⟨d, session⟩ := d
      have hcb := replied m.host env session m.conn cb
      rw [Machine.step, hd] at h
      rw [← Option.some_inj.mp h]
      change Stepped m _ (m.afterCallback ((cb.body session).run env ⟨m.host, m.conn, []⟩))
      generalize (cb.body session).run env ⟨m.host, m.conn, []⟩ = p at hcb
      cases hcb with
      | intro called => exact .callback hd called
  | ret result env =>
    cases hd : m.drive with
    | none => simp [Machine.step, hd] at h
    | some d =>
      obtain ⟨d, session⟩ := d
      have hret := returned m.host env m.conn d result
      rw [Machine.step, hd] at h
      rw [← Option.some_inj.mp h]
      exact .ret hd hret

/-- An operation runs its body outside the engine. -/
theorem Machine.request_taken {m m' : Machine} {r : Request} {env : Env} {o : Outcome}
    (h : m.step (.request r env) = some (o, m')) :
    m.drive = none ∧ m.afterRequest (r.body.run env m.world) = (o, m') := by
  cases hd : m.drive with
  | none =>
    rw [Machine.step, hd] at h
    exact ⟨rfl, Option.some_inj.mp h⟩
  | some d => simp [Machine.step, hd] at h

/-- A callback step runs the body of the callback on the session being
driven. -/
theorem Machine.callback_taken {m m' : Machine} {cb : Callback} {env : Env} {o : Outcome}
    (h : m.step (.callback cb env) = some (o, m')) :
    ∃ d session, m.drive = some (d, session) ∧
      m.afterCallback ((cb.body session).run env m.world) = (o, m') := by
  cases hd : m.drive with
  | none => simp [Machine.step, hd] at h
  | some d =>
    obtain ⟨d, session⟩ := d
    rw [Machine.step, hd] at h
    exact ⟨d, session, rfl, Option.some_inj.mp h⟩

/-! ## The connection of an outcome -/

section Outcome

variable (m : Machine)

@[simp] theorem Machine.afterRequest_conn (p : Except PyError Started × World) :
    (m.afterRequest p).2.conn = p.2.conn := by
  rcases p with ⟨_ | (_ | _), w⟩ <;> rfl

@[simp] theorem Machine.afterRequest_issued (p : Except PyError Started × World) :
    (m.afterRequest p).1.issued = p.2.issued := by
  rcases p with ⟨_ | (_ | _), w⟩ <;> rfl

@[simp] theorem Machine.afterRequest_host (p : Except PyError Started × World) :
    (m.afterRequest p).2.host = m.host := by
  rcases p with ⟨_ | (_ | _), w⟩ <;> rfl

@[simp] theorem Machine.afterCallback_conn (p : Except PyError Reply × World) :
    (m.afterCallback p).2.conn = p.2.conn := by
  rcases p with ⟨_ | _, w⟩ <;> rfl

@[simp] theorem Machine.afterCallback_issued (p : Except PyError Reply × World) :
    (m.afterCallback p).1.issued = p.2.issued := by
  rcases p with ⟨_ | _, w⟩ <;> rfl

@[simp] theorem Machine.afterCallback_host (p : Except PyError Reply × World) :
    (m.afterCallback p).2.host = m.host := by
  rcases p with ⟨_ | _, w⟩ <;> rfl

@[simp] theorem Machine.afterCallback_drive (p : Except PyError Reply × World) :
    (m.afterCallback p).2.drive = m.drive := by
  rcases p with ⟨_ | _, w⟩ <;> rfl

@[simp] theorem Machine.afterReturn_conn (p : Except PyError Value × World) :
    (m.afterReturn p).2.conn = p.2.conn := by
  rcases p with ⟨_ | _, w⟩ <;> rfl

@[simp] theorem Machine.afterReturn_issued (p : Except PyError Value × World) :
    (m.afterReturn p).1.issued = p.2.issued := by
  rcases p with ⟨_ | _, w⟩ <;> rfl

@[simp] theorem Machine.afterReturn_host (p : Except PyError Value × World) :
    (m.afterReturn p).2.host = m.host := by
  rcases p with ⟨_ | _, w⟩ <;> rfl

@[simp] theorem Machine.afterReturn_drive (p : Except PyError Value × World) :
    (m.afterReturn p).2.drive = none := by
  rcases p with ⟨_ | _, w⟩ <;> rfl

end Outcome

/-! ## What a step asks of the engine -/

/-- **What a step may ask of the engine**, by its label. -/
def Label.Asks : Label → EngineCall → Prop
  | .request r _ => r.Asks
  | .callback cb _ => cb.Asks
  | .ret _ _ => fun q => q.isQuery = true ∨ ∃ entries, q = .submitSettings entries

/-- A step asks the engine nothing that its label does not allow. -/
theorem Stepped.asks {m : Machine} {l : Label} {p : Outcome × Machine} (h : Stepped m l p)
    {session : Option SessionId} {q : EngineCall} (hi : .call session q ∈ p.1.issued) :
    l.Asks q := by
  cases h with
  | request idle hr =>
    rw [Machine.afterRequest_issued] at hi
    exact (hr.asks session q hi).2
  | callback driven hc =>
    rw [Machine.afterCallback_issued] at hi
    obtain ⟨q', heq, hq⟩ := hc.asks _ hi
    rcases heq with heq | heq
    all_goals
      obtain ⟨-, rfl⟩ := Issued.call.inj heq
      exact hq
  | ret driven hr =>
    rw [Machine.afterReturn_issued] at hi
    exact (hr.asks hi).2

/-- Whether a use of a session is a given call. -/
def Issued.asks (q : EngineCall) : Issued → Bool
  | .call _ q' => decide (q' = q)
  | _ => false

/-- **Whether the engine took a submission**: it was called, and did not
refuse. The operation that called it may have raised all the same. -/
def Outcome.took (o : Outcome) (env : Env) (q : EngineCall) : Bool :=
  o.issued.any (Issued.asks q) && decide (0 ≤ env.reply q)

theorem Outcome.took_of_mem {o : Outcome} {env : Env} {session : Option SessionId}
    {q : EngineCall} (h : .call session q ∈ o.issued) (haccepted : 0 ≤ env.reply q) :
    o.took env q = true :=
  Bool.and_eq_true_iff.mpr ⟨List.any_eq_true.mpr ⟨_, h, decide_eq_true rfl⟩,
    decide_eq_true haccepted⟩

/-- What a declined operation submitted was not taken. -/
theorem Declined.not_took {env : Env} {c : Connection} {r : Request} {is : List Issued}
    {response : Response} {q : EngineCall} (h : Declined env c r is) (hq : q.isQuery = false) :
    (Outcome.mk response is).took env q = false := by
  by_contra hne
  obtain ⟨hasked, haccepted⟩ := Bool.and_eq_true_iff.mp (Bool.not_eq_false _ ▸ hne)
  obtain ⟨i, hi, hi'⟩ := List.any_eq_true.mp hasked
  obtain ⟨q', rfl, hq'⟩ := h i hi
  obtain rfl : q' = q := of_decide_eq_true hi'
  rcases hq' with hquery | ⟨hrefused, -⟩
  · exact absurd hquery (by simp [hq])
  · exact absurd (of_decide_eq_true haccepted) (not_le.mpr hrefused)

/-! ## Nothing has failed -/

/-- **Nothing has failed**: neither the connection, nor a callback of the
engine function on the stack. -/
def Connection.Sound (c : Connection) : Prop := c.failed = false ∧ c.callbackError = none

instance (c : Connection) : Decidable c.Sound := inferInstanceAs (Decidable (_ ∧ _))

/-- Whether the newest entry of a history is a callback that failed. -/
def spoiled : History → Bool
  | [] => false
  | e :: _ =>
    match e.outcome.response with
    | .replied reply => decide (reply.code = errCallbackFailure)
    | _ => false

/-- **After a failed callback the engine function returns**, and with a fatal
code. -/
def FailureEndsDrive (h : History) (l : Label) : Prop :=
  spoiled h = true →
    match l with
    | .ret result _ => isFatal result = true
    | _ => False

instance (h : History) (l : Label) : Decidable (FailureEndsDrive h l) := by
  unfold FailureEndsDrive
  cases l <;> infer_instance

section Sound

variable {m : Machine} {l : Label} {p : Outcome × Machine}

/-- A step stays on its platform. -/
theorem Stepped.host_eq (h : Stepped m l p) : p.2.host = m.host := by
  cases h with
  | request => exact Machine.afterRequest_host _ _
  | callback => exact Machine.afterCallback_host _ _
  | ret => exact Machine.afterReturn_host _ _

/-- A failed connection stays failed. -/
theorem Stepped.failed_of_failed (h : Stepped m l p) (hf : m.conn.failed = true) :
    p.2.conn.failed = true := by
  cases h with
  | request idle hr =>
    rw [Machine.afterRequest_conn]
    cases hr <;> first | exact hf | rfl
  | callback driven hc =>
    rw [Machine.afterCallback_conn]
    cases hc with
    | failed spoiled => exact spoiled.failed.trans hf
    | _ => exact hf
  | ret driven hr =>
    rw [Machine.afterReturn_conn]
    cases hr <;> first | exact hf | rfl

/-- **Nothing is left of a failed connection** but its events. -/
structure Connection.Void (c : Connection) : Prop where
  initialized : c.initialized = true
  session : c.session = none
  output : c.output = none
  clean : c.callbackError = none
  inactive : c.active = false
  nonterminating : c.terminating = false
  empty : c.discardPendingState = c

theorem Connection.void_invalidate {c : Connection} (h : c.initialized = true) :
    c.invalidate.Void := ⟨h, rfl, rfl, rfl, rfl, rfl, rfl⟩

/-- Nothing comes back to a failed connection. -/
theorem Requested.void {host : Host} {env : Env} {c : Connection} {r : Request}
    {q : Except PyError Started × World} (h : Requested host env c r q) (hf : c.failed = true)
    (hv : c.Void) : q.2.conn.Void := by
  have hunusable : ¬ c.Usable := fun hu => absurd hu.1 (by simp [hf])
  have hempty (hd : c.discardPendingState = c) :
      Connection.discardPendingState { c with events := [] } = { c with events := [] } :=
    congrArg (fun c : Connection => { c with events := [] }) hd
  cases h with
  | rejected => exact hv
  | failed started => exact absurd started.1 (by simp [hf])
  | unreported => exact hv
  | answered => exact hv
  | configured uninitialized => exact absurd hv.initialized (by simp [uninitialized])
  | installed uninitialized => exact absurd hv.initialized (by simp [uninitialized])
  | initiated initialized live => exact absurd live (by simp [hf])
  | upgrading initialized live => exact absurd live (by simp [hf])
  | tookEvents =>
    exact ⟨hv.initialized, hv.session, hv.output, hv.clean, hv.inactive, hv.nonterminating,
      hempty hv.empty⟩
  | nothingToSend => exact hv
  | sending live => exact absurd live (by simp [hf])
  | receiving usable => exact absurd usable hunusable
  | requested usable => exact absurd usable hunusable
  | requestBodiless usable => exact absurd usable hunusable
  | requestUnreported usable => exact absurd usable hunusable
  | responded usable => exact absurd usable hunusable
  | responseUnrecorded usable => exact absurd usable hunusable
  | responseBodiless usable => exact absurd usable hunusable
  | informed usable => exact absurd usable hunusable
  | trailersQueued usable => exact absurd usable hunusable
  | trailersStuck usable => exact absurd usable hunusable
  | dataQueued usable => exact absurd usable hunusable
  | dataStuck usable => exact absurd usable hunusable
  | resetDeferred usable => exact absurd usable hunusable
  | resetSubmitted usable => exact absurd usable hunusable
  | terminated usable => exact absurd usable hunusable
  | consumedNothing usable => exact absurd usable hunusable
  | consumed usable => exact absurd usable hunusable

/-- Once a connection is initialized it stays so, in its role. -/
theorem Stepped.role (h : Stepped m l p) (hi : m.conn.initialized = true) :
    p.2.conn.initialized = true ∧ p.2.conn.server = m.conn.server := by
  cases h with
  | request idle hr =>
    rw [Machine.afterRequest_conn]
    cases hr with
    | installed uninitialized => exact absurd hi (by simp [uninitialized])
    | _ => exact ⟨hi, rfl⟩
  | callback driven hc =>
    rw [Machine.afterCallback_conn]
    cases hc with
    | failed spoiled => exact ⟨spoiled.initialized.trans hi, spoiled.server⟩
    | _ => exact ⟨hi, rfl⟩
  | ret driven hr =>
    rw [Machine.afterReturn_conn]
    cases hr with
    | sentThenFailed => simpa using hi
    | _ => exact ⟨hi, rfl⟩

/-- The connection was terminated, or failed. -/
def Connection.Over (c : Connection) : Prop := c.terminating = true ∨ c.failed = true

theorem Connection.Usable.not_over {c : Connection} (h : c.Usable) : ¬ c.Over := by
  simp [Connection.Over, h.1, h.2.2]

/-- What is over stays over. -/
theorem Stepped.over (h : Stepped m l p) (ho : m.conn.Over) : p.2.conn.Over := by
  cases h with
  | request idle hr =>
    rw [Machine.afterRequest_conn]
    cases hr with
    | failed => exact .inr rfl
    | terminated => exact .inl rfl
    | _ => exact ho
  | callback driven hc =>
    rw [Machine.afterCallback_conn]
    cases hc with
    | failed spoiled =>
      exact ho.imp (spoiled.terminating.trans ·) (spoiled.failed.trans ·)
    | _ => exact ho
  | ret driven hr =>
    rw [Machine.afterReturn_conn]
    cases hr with
    | failed => exact .inr rfl
    | sentThenFailed => exact .inr rfl
    | receivedLast => exact .inl rfl
    | receivedUnannounced => exact .inl rfl
    | sentLast => exact .inl rfl
    | _ => exact ho

/-- A connection that is not terminating after a step was not before. -/
theorem Stepped.unterminated (h : Stepped m l p) (hsound : p.2.conn.Sound)
    (hterminating : p.2.conn.terminating = false) : m.conn.terminating = false := by
  by_contra hne
  rcases h.over (.inl (by simpa using hne)) with ht | hf
  · exact absurd ht (by simp [hterminating])
  · exact absurd hf (by simp [hsound.1])

/-- There is nothing to erase in an empty dictionary. -/
theorem Dict.erase_empty {α : Type} (s : StreamId) : (∅ : Dict α).erase s = ∅ := by
  refine Finmap.ext_lookup fun t => ?_
  by_cases h : t = s
  · rw [h, Finmap.lookup_erase, Finmap.lookup_empty]
  · rw [Finmap.lookup_erase_ne h]

/-- **No body is kept by a terminating connection.** -/
theorem Stepped.emptied (h : Stepped m l p) (hb : m.conn.terminating = true → m.conn.bodies = ∅)
    (hsound : p.2.conn.Sound) (ht : p.2.conn.terminating = true) : p.2.conn.bodies = ∅ := by
  have hmissing {s : StreamId} {body : BodySource} (ht : m.conn.terminating = true)
      (h : m.conn.bodies.lookup s = some body) : False := by
    rw [hb ht] at h
    exact absurd h (by simp)
  have hunusable (ht : m.conn.terminating = true) (hu : m.conn.Usable) : False :=
    hu.not_over (.inl ht)
  cases h with
  | request idle hr =>
    rw [Machine.afterRequest_conn] at ht ⊢
    cases hr with
    | failed => rfl
    | terminated => rfl
    | requested usable => exact (hunusable ht usable).elim
    | requestUnreported usable => exact (hunusable ht usable).elim
    | responded usable => exact (hunusable ht usable).elim
    | trailersQueued usable => exact (hunusable ht usable).elim
    | trailersStuck usable => exact (hunusable ht usable).elim
    | dataQueued usable => exact (hunusable ht usable).elim
    | dataStuck usable => exact (hunusable ht usable).elim
    | _ => exact hb ht
  | callback driven hc =>
    rw [Machine.afterCallback_conn] at ht hsound ⊢
    cases hc with
    | failed spoiled deferred => exact absurd (deferred.symm.trans hsound.2) (by simp)
    | bodySent limit opened => exact (hmissing ht opened).elim
    | readWhole unspent opened => exact (hmissing ht opened).elim
    | readCopied unspent opened => exact (hmissing ht opened).elim
    | streamClosed =>
      dsimp only
      rw [hb ht]
      exact Dict.erase_empty _
    | _ => exact hb ht
  | ret driven hr =>
    rw [Machine.afterReturn_conn] at ht ⊢
    cases hr with
    | failed => rfl
    | sentThenFailed => rfl
    | receivedLast => rfl
    | receivedUnannounced => rfl
    | sentLast => rfl
    | _ => exact hb ht

/-- A connection that is not initialized is inactive, and never inside the
engine. -/
def Machine.Idle (m : Machine) : Prop :=
  m.conn.initialized = false → m.drive = none ∧ m.conn.active = false

/-- Nothing but `__init__` makes an uninitialized connection more than idle. -/
theorem Stepped.idle (h : Stepped m l p) (hidle : m.Idle) : p.2.Idle := by
  intro hi
  have hbefore : m.conn.initialized = false :=
    Bool.eq_false_iff.mpr fun hinit => absurd (h.role hinit).1 (by simp [hi])
  obtain ⟨hdrive, hactive⟩ := hidle hbefore
  cases h with
  | request idle hr =>
    rw [Machine.afterRequest_conn] at hi ⊢
    cases hr with
    | installed => exact absurd hi (by simp)
    | initiated initialized => exact absurd initialized (by simp [hbefore])
    | upgrading initialized => exact absurd initialized (by simp [hbefore])
    | receiving usable => exact absurd usable.2.1 (by simp [hactive])
    | sending live active => exact absurd active (by simp [hactive])
    | failed => exact ⟨hdrive, rfl⟩
    | _ => exact ⟨hdrive, hactive⟩
  | callback driven => exact absurd driven (by simp [hdrive])
  | ret driven => exact absurd driven (by simp [hdrive])

/-- An operation that failed was called on an initialized connection. -/
theorem Machine.Idle.initialized_of_started (h : m.Idle) (hs : m.conn.Started) :
    m.conn.initialized = true := by
  cases hi : m.conn.initialized with
  | true => rfl
  | false => exact absurd (hs.2.resolve_left (by simp [hi])) (by simp [(h hi).2])

theorem Machine.Idle.initialized_of_driven (h : m.Idle) (hd : m.drive ≠ none) :
    m.conn.initialized = true := by
  cases hi : m.conn.initialized with
  | true => rfl
  | false => exact absurd (h hi).1 hd

/-- **A step that fails leaves nothing**, and nothing comes back later. -/
theorem Stepped.void (h : Stepped m l p) (hidle : m.Idle)
    (hlive : m.drive ≠ none → m.conn.failed = false) (hv : m.conn.failed = true → m.conn.Void)
    (hfailed : p.2.conn.failed = true) : p.2.conn.Void := by
  cases h with
  | request idle hr =>
    rw [Machine.afterRequest_conn] at hfailed ⊢
    cases hf : m.conn.failed with
    | true => exact hr.void hf (hv hf)
    | false =>
      cases hr with
      | failed started => exact Connection.void_invalidate (hidle.initialized_of_started started)
      | _ => exact absurd hf (by simp [show m.conn.failed = true from hfailed])
  | callback driven hc =>
    rw [Machine.afterCallback_conn] at hfailed
    have hf := hlive (by simp [driven])
    cases hc with
    | failed spoiled => exact absurd (spoiled.failed.symm.trans hfailed) (by simp [hf])
    | _ => exact absurd hf (by simp [show m.conn.failed = true from hfailed])
  | ret driven hr =>
    have hdriven : m.drive ≠ none := by simp [driven]
    have hf := hlive hdriven
    have hi := hidle.initialized_of_driven hdriven
    rw [Machine.afterReturn_conn] at hfailed ⊢
    cases hr with
    | failed => exact Connection.void_invalidate hi
    | sentThenFailed => exact Connection.void_invalidate hi
    | _ => exact absurd hf (by simp [show m.conn.failed = true from hfailed])

/-- An operation is called when no engine function is on the stack. -/
theorem Stepped.request_idle {r : Request} {env : Env} (h : Stepped m (.request r env) p) :
    m.drive = none := by
  cases h with
  | request idle => exact idle

/-- A callback is made when one is, and leaves it there. -/
theorem Stepped.callback_drive {cb : Callback} {env : Env} (h : Stepped m (.callback cb env) p) :
    ∃ d session, m.drive = some (d, session) ∧ p.2.drive = some (d, session) := by
  cases h with
  | callback driven =>
    exact ⟨_, _, driven, (Machine.afterCallback_drive _ _).trans driven⟩

theorem Stepped.callback_driven {cb : Callback} {env : Env}
    (h : Stepped m (.callback cb env) p) : m.drive ≠ none := by
  obtain ⟨d, session, hdrive, -⟩ := h.callback_drive
  simp [hdrive]

/-- An operation does not defer an exception. -/
theorem Stepped.request_clean {r : Request} {env : Env} (h : Stepped m (.request r env) p)
    (hc : m.conn.callbackError = none) : p.2.conn.callbackError = none := by
  cases h with
  | request idle hr =>
    rw [Machine.afterRequest_conn]
    cases hr <;> first | exact hc | rfl

/-- A callback defers an exception only when it fails. -/
theorem Stepped.callback_clean {cb : Callback} {env : Env} (h : Stepped m (.callback cb env) p)
    (hc : m.conn.callbackError = none) :
    p.2.conn.callbackError = none ∨
      p.1.response = .replied { code := errCallbackFailure } := by
  cases h with
  | callback driven hcalled =>
    rw [Machine.afterCallback_conn]
    cases hcalled with
    | failed => exact .inr rfl
    | _ => exact .inl hc

/-- A fatal return leaves no deferred exception. -/
theorem Stepped.ret_clean {result : Int} {env : Env} (h : Stepped m (.ret result env) p)
    (hc : m.conn.callbackError = none ∨ isFatal result = true) :
    p.2.conn.callbackError = none := by
  have hnonneg {n : Int} (hn : 0 ≤ n) : isFatal n = false :=
    Bool.eq_false_iff.mpr fun hf => absurd (neg_of_isFatal hf) (by omega)
  cases h with
  | ret driven hr =>
    rw [Machine.afterReturn_conn]
    cases hr with
    | failed => rfl
    | rejected negative mild clean => exact clean
    | sentThenFailed => rfl
    | upgraded hn => exact hc.resolve_right (by simp [hnonneg hn])
    | received => exact hc.resolve_right (by simp [hnonneg])
    | receivedLast => exact hc.resolve_right (by simp [hnonneg])
    | receivedUnannounced => exact hc.resolve_right (by simp [hnonneg])
    | sent hn => exact hc.resolve_right (by simp [hnonneg hn])
    | sentLast hn => exact hc.resolve_right (by simp [hnonneg hn])

/-- A fatal return that finds a deferred exception, or can make one, invalidates
the connection. -/
theorem Stepped.ret_fatal {result : Int} {env : Env} (h : Stepped m (.ret result env) p)
    (hfatal : isFatal result = true)
    (hmade : m.conn.callbackError ≠ none ∨ env.alloc .exception = true) :
    p.2.conn.failed = true := by
  have hneg : result < 0 := neg_of_isFatal hfatal
  cases h with
  | ret driven hr =>
    rw [Machine.afterReturn_conn]
    cases hr with
    | failed => rfl
    | rejected negative mild clean =>
      have hexhausted := mild hfatal
      exact absurd clean (hmade.resolve_right (by simp [hexhausted]))
    | sentThenFailed => rfl
    | _ => omega

/-- An engine function is entered on a live connection, and stays on one. -/
theorem Stepped.live (h : Stepped m l p) (hl : m.drive ≠ none → m.conn.failed = false)
    (hdriven : p.2.drive ≠ none) : p.2.conn.failed = false := by
  cases h with
  | request idle hr =>
    cases hr with
    | upgrading initialized live => exact live
    | receiving usable => exact usable.1
    | sending live => exact live
    | _ => exact absurd idle hdriven
  | callback driven hc =>
    have hf := hl (by simp [driven])
    rw [Machine.afterCallback_conn]
    cases hc with
    | failed spoiled => exact spoiled.failed.trans hf
    | _ => exact hf
  | ret driven hr => exact absurd (Machine.afterReturn_drive _ _) hdriven

end Sound

section Runs

variable {host : Host} {Allowed : History → Machine → Label → Prop}

/-- **A deferred exception is that of the newest entry**, and the engine
function is still on the stack. -/
theorem Runs.deferred (hends : ∀ {h m l}, Allowed h m l → FailureEndsDrive h l)
    {h : History} {m : Machine} (hrun : Runs host Allowed h m)
    (hdeferred : m.conn.callbackError ≠ none) : m.drive ≠ none ∧ spoiled h = true := by
  revert hdeferred
  refine Run.invariant (I := fun h m => m.conn.callbackError ≠ none →
    m.drive ≠ none ∧ spoiled h = true) (fun h => absurd rfl h) ?_ hrun
  intro h m l o m' _ ih hallowed htaken
  have hstep := Machine.stepped htaken
  have hend := hends hallowed
  have hclean : spoiled h = false → m.conn.callbackError = none := fun hs => by
    by_contra hne
    exact absurd (ih hne).2 (by simp [hs])
  cases l with
  | request r env =>
    have hc : m.conn.callbackError = none := by
      by_contra hne
      exact absurd (ih hne).1 (by simp [hstep.request_idle])
    exact fun hne => absurd (hstep.request_clean hc) hne
  | callback cb env =>
    have hc := hclean (Bool.eq_false_iff.mpr hend)
    intro hne
    have hfailed := (hstep.callback_clean hc).resolve_left hne
    obtain ⟨d, session, -, hdrive⟩ := hstep.callback_drive
    exact ⟨by simp [show m'.drive = _ from hdrive],
      by simp [spoiled, show o.response = _ from hfailed]⟩
  | ret result env =>
    refine fun hne => absurd (hstep.ret_clean ?_) hne
    cases hs : spoiled h with
    | false => exact .inl (hclean hs)
    | true => exact .inr (hend hs)

/-- The platform never changes. -/
theorem Runs.host_eq {h : History} {m : Machine} (hrun : Runs host Allowed h m) :
    m.host = host := by
  refine Run.invariant (I := fun _ m => m.host = host) rfl ?_ hrun
  intro h m l o m' _ ih _ htaken
  rw [← ih]
  exact (Machine.stepped htaken).host_eq

/-- An uninitialized connection is idle, in every run. -/
theorem Runs.idle {h : History} {m : Machine} (hrun : Runs host Allowed h m) : m.Idle := by
  refine Run.invariant (I := fun _ m => m.Idle) (fun _ => ⟨rfl, rfl⟩) ?_ hrun
  intro h m l o m' _ ih _ htaken
  exact (Machine.stepped htaken).idle ih

/-- No engine function is on the stack of a failed connection. -/
theorem Runs.live {h : History} {m : Machine} (hrun : Runs host Allowed h m)
    (hdriven : m.drive ≠ none) : m.conn.failed = false := by
  revert hdriven
  refine Run.invariant (I := fun _ m => m.drive ≠ none → m.conn.failed = false)
    (fun h => absurd rfl h) ?_ hrun
  intro h m l o m' _ ih _ htaken
  exact (Machine.stepped htaken).live ih

/-- **Nothing is left of a failed connection**, in every run. -/
theorem Runs.void {h : History} {m : Machine} (hrun : Runs host Allowed h m) :
    m.conn.failed = true → m.conn.Void := by
  refine Run.invariant (I := fun _ m => m.conn.failed = true → m.conn.Void)
    (fun hf => absurd hf (by simp [Machine.fresh])) ?_ hrun
  intro h m l o m' hprior ih _ htaken
  exact (Machine.stepped htaken).void (Runs.idle hprior) (Runs.live hprior) ih

/-- **Between two operations** a connection is sound or failed. -/
theorem Runs.sound_of_idle (hends : ∀ {h m l}, Allowed h m l → FailureEndsDrive h l)
    {h : History} {m : Machine} (hrun : Runs host Allowed h m) (hidle : m.drive = none)
    (hlive : m.conn.failed = false) : m.conn.Sound := by
  refine ⟨hlive, ?_⟩
  by_contra hne
  exact (Runs.deferred hends hrun hne).1 hidle

/-- What had failed at some entry has failed now. -/
theorem Runs.failed_of_mem {h : History} {m : Machine} (hrun : Runs host Allowed h m)
    {e : Entry Machine Label Outcome} (he : e ∈ h) (hf : e.after.conn.failed = true) :
    m.conn.failed = true := by
  revert he
  refine Run.invariant (I := fun h m => e ∈ h → m.conn.failed = true)
    (fun he => absurd he List.not_mem_nil) ?_ hrun
  intro h m l o m' _ ih _ htaken he
  rcases List.mem_cons.mp he with rfl | he
  · exact hf
  · exact (Machine.stepped htaken).failed_of_failed (ih he)

/-- What was over at some entry is over now. -/
theorem Runs.over_of_mem {h : History} {m : Machine} (hrun : Runs host Allowed h m)
    {e : Entry Machine Label Outcome} (he : e ∈ h) (ho : e.after.conn.Over) : m.conn.Over := by
  revert he
  refine Run.invariant (I := fun h m => e ∈ h → m.conn.Over)
    (fun he => absurd he List.not_mem_nil) ?_ hrun
  intro h m l o m' _ ih _ htaken he
  rcases List.mem_cons.mp he with rfl | he
  · exact ho
  · exact (Machine.stepped htaken).over (ih he)

/-- **A callback is made on a sound connection.** -/
theorem Runs.sound_of_callback (hends : ∀ {h m l}, Allowed h m l → FailureEndsDrive h l)
    {h : History} {m : Machine} {cb : Callback} {env : Env} (hrun : Runs host Allowed h m)
    (hallowed : Allowed h m (.callback cb env)) (hdriven : m.drive ≠ none) : m.conn.Sound := by
  refine ⟨Runs.live hrun hdriven, ?_⟩
  by_contra hne
  exact hends hallowed (Runs.deferred hends hrun hne).2

/-- A step that leaves a connection sound found it sound. -/
theorem Runs.sound_before (hends : ∀ {h m l}, Allowed h m l → FailureEndsDrive h l)
    {h : History} {m : Machine} {l : Label} {p : Outcome × Machine}
    (hrun : Runs host Allowed h m) (hallowed : Allowed h m l) (hstep : Stepped m l p)
    (hsound : p.2.conn.Sound) : m.conn.Sound := by
  have hfailed : m.conn.failed = false := by
    cases hf : m.conn.failed with
    | false => rfl
    | true => exact absurd (hstep.failed_of_failed hf) (by simp [hsound.1])
  refine ⟨hfailed, ?_⟩
  by_contra hne
  obtain ⟨hdriven, hspoiled⟩ := Runs.deferred hends hrun hne
  have hend := hends hallowed hspoiled
  cases l with
  | request r env => exact hend
  | callback cb env => exact hend
  | ret result env => exact absurd (hstep.ret_fatal hend (.inl hne)) (by simp [hsound.1])

/-- **Induction over the sound states of runs.** What holds of the initial
state, and is preserved by every step between sound connections, holds of
every sound state reached. -/
theorem Runs.induct_sound {I : History → Machine → Prop}
    (hends : ∀ {h m l}, Allowed h m l → FailureEndsDrive h l)
    (hinit : I [] (Machine.fresh host))
    (hstep : ∀ {h m l p}, Runs host Allowed h m → m.conn.Sound → I h m → Allowed h m l →
      Stepped m l p → p.2.conn.Sound → I (⟨m, l, p.1, p.2⟩ :: h) p.2)
    {h : History} {m : Machine} (hrun : Runs host Allowed h m) (hsound : m.conn.Sound) :
    I h m := by
  revert hsound
  refine Run.invariant (I := fun h m => m.conn.Sound → I h m) (fun _ => hinit) ?_ hrun
  intro h m l o m' hprior ih hallowed htaken hsound
  have hs := Machine.stepped htaken
  have hbefore := Runs.sound_before hends hprior hallowed hs hsound
  exact hstep hprior hbefore (ih hbefore) hallowed hs hsound

/-- A sound connection was sound all along. -/
theorem Runs.sound_of_suffix (hends : ∀ {h m l}, Allowed h m l → FailureEndsDrive h l)
    {h : History} {m : Machine} (hrun : Runs host Allowed h m) (hsound : m.conn.Sound) :
    ∀ e h', (e :: h') <:+ h → e.before.conn.Sound ∧ e.after.conn.Sound := by
  refine Runs.induct_sound
    (I := fun h _ => ∀ e h', (e :: h') <:+ h → e.before.conn.Sound ∧ e.after.conn.Sound)
    hends ?_ ?_ hrun hsound
  · intro e h' hsuf
    exact absurd (List.suffix_nil.mp hsuf) (List.cons_ne_nil _ _)
  · intro h m l p _ hbefore ih _ _ hsound e h' hsuf
    rcases List.suffix_cons_iff.mp hsuf with heq | hsuf
    · obtain ⟨rfl, rfl⟩ := List.cons.inj heq
      exact ⟨hbefore, hsound⟩
    · exact ih e h' hsuf

/-- No body is kept by a terminating connection, in every run. -/
theorem Runs.emptied (hends : ∀ {h m l}, Allowed h m l → FailureEndsDrive h l)
    {h : History} {m : Machine} (hrun : Runs host Allowed h m) (hsound : m.conn.Sound) :
    m.conn.terminating = true → m.conn.bodies = ∅ :=
  Runs.induct_sound (I := fun _ m => m.conn.terminating = true → m.conn.bodies = ∅) hends
    (fun _ => rfl) (fun _ _ ih _ hstep hsound => hstep.emptied ih hsound) hrun hsound

end Runs

end Ngh2
