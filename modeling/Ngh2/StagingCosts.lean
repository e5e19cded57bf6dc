import Ngh2.Lib.Amortized
import Ngh2.StagingBuffer

/-!
# What the staging buffer costs

`_reserve_output` asks for a larger buffer when what it has is too small, and a
larger buffer means that everything staged may have to be moved. It asks for
twice what it had, so that the moves of a call of `data_to_send` stay linear in
what the call returns. That is the reason for growing geometrically, and it is
shown here for every run: the buffers that were replaced, over all calls, come
to at most two bytes for each byte that was handed over (`regrowth_linear`).

The doubling stops at a quarter of the address range, where it could overflow,
and from there on the argument does. The runs considered are those whose
buffers are smaller.
-/

namespace Ngh2

open Nghttp2 Effect

/-! ## One callback -/

/-- **How the buffer of one state comes from that of an earlier one**: it is the
same, or the earlier one was too small, and was doubled if that could be done. -/
structure Regrown (w w' : World) : Prop where
  host : w'.host = w.host
  used : w.conn.outputSize ≤ w'.conn.outputSize
  larger : room w.conn.output ≤ room w'.conn.output
  needed : room w'.conn.output ≠ room w.conn.output → room w.conn.output < w'.conn.outputSize
  doubled : room w'.conn.output ≠ room w.conn.output →
    room w.conn.output < w.host.pointerWidth.sizeMax / 4 →
    2 * room w.conn.output ≤ room w'.conn.output

namespace Regrown

variable {w w' w'' : World}

/-- The part of a state that the buffer is about. -/
def view (w : World) : Host × Nat × Nat := (w.host, w.conn.outputSize, room w.conn.output)

/-- Nothing grows where nothing changes. -/
theorem of_view (h : view w' = view w) : Regrown w w' := by
  obtain ⟨hhost, hused, hroom⟩ : w'.host = w.host ∧ w'.conn.outputSize = w.conn.outputSize ∧
      room w'.conn.output = room w.conn.output := by simpa only [view, Prod.mk.injEq] using h
  exact ⟨hhost, hused.ge, hroom.ge, fun hne => absurd hroom hne, fun hne => absurd hroom hne⟩

/-- Growing twice is growing. -/
theorem trans (h : Regrown w w') (h' : Regrown w' w'') : Regrown w w'' := by
  refine ⟨h'.host.trans h.host, h.used.trans h'.used, h.larger.trans h'.larger, ?_, ?_⟩
  · intro hne
    by_cases hsame : room w'.conn.output = room w.conn.output
    · rw [← hsame] at hne ⊢
      exact h'.needed hne
    · exact (h.needed hsame).trans_le h'.used
  · intro hne hsmall
    by_cases hsame : room w'.conn.output = room w.conn.output
    · rw [← hsame] at hne hsmall ⊢
      exact h'.doubled hne (h.host ▸ hsmall)
    · exact (h.doubled hsame hsmall).trans h'.larger

end Regrown

/-- Growing doubles a buffer that can be doubled. -/
theorem double_le_grownSize {width : PointerWidth} {capacity : Nat}
    (h : capacity < width.sizeMax / 4) (target : Nat) :
    2 * capacity ≤ grownSize width capacity target := by
  rw [grownSize, if_pos h]
  exact (le_max_left _ _).trans (le_max_right _ _)

/-- **A reservation that returns** grows the buffer as it should. -/
theorem returns_reserveOutput (length : Nat) : Returns Regrown (reserveOutput length) := by
  intro env w offset w' hrun
  unfold reserveOutput at hrun
  by_cases hlarge : w.host.pointerWidth.ssizeMax - w.conn.outputSize < length
  · simp [hlarge] at hrun
  · by_cases hgrow : room w.conn.output < w.conn.outputSize + length
    · generalize hsize : grownSize w.host.pointerWidth (room w.conn.output)
        (w.conn.outputSize + length) = size at hrun
      cases halloc : env.alloc (.output size) with
      | true =>
        simp only [run_bind, run_conn, run_host, run_raiseIf, hlarge, if_false, hgrow, if_true,
          resizeOutput, hsize, run_read, halloc, run_update, run_pure] at hrun
        obtain ⟨-, rfl⟩ := Prod.mk.inj hrun
        have hroom : w.conn.outputSize + length ≤ size := hsize ▸ le_grownSize _ _ _
        refine ⟨rfl, Nat.le_add_right _ _, hgrow.le.trans hroom, fun _ => hgrow,
          fun _ hsmall => ?_⟩
        exact hsize ▸ double_le_grownSize hsmall _
      | false => simp [resizeOutput, hlarge, hgrow, hsize, halloc] at hrun
    · simp [hlarge, hgrow] at hrun
      obtain ⟨-, rfl⟩ := hrun
      exact ⟨rfl, Nat.le_add_right _ _, le_rfl, fun hne => absurd rfl hne,
        fun hne => absurd rfl hne⟩

/-- What leaves the staging state alone. -/
theorem keeps_room {f : Connection → Connection}
    (hused : ∀ c, (f c).outputSize = c.outputSize)
    (hroom : ∀ c, room (f c).output = room c.output) :
    Effect.Keeps Regrown.view (update f) :=
  keeps_modify fun w => by simp only [Regrown.view, hused, hroom]

theorem keeps_room_writeOutput (offset : Nat) (data : Bytes) :
    Effect.Keeps Regrown.view (writeOutput offset data) :=
  keeps_room (fun _ => rfl) fun c => room_memcpy c.output offset data

theorem keeps_room_conn : Effect.Keeps Regrown.view conn :=
  keeps_bind keeps_get fun _ => keeps_pure _

theorem keeps_room_host : Effect.Keeps Regrown.view host :=
  keeps_bind keeps_get fun _ => keeps_pure _

theorem keeps_room_raiseIf (p : Prop) [Decidable p] (e : PyError) :
    Effect.Keeps Regrown.view (raiseIf p e) :=
  keeps_ite (fun _ => keeps_raise e) fun _ => keeps_pure ()

theorem keeps_room_bodyOf (s : StreamId) : Effect.Keeps Regrown.view (bodyOf s) := by
  refine keeps_bind keeps_room_conn fun c => ?_
  split
  · exact keeps_pure _
  · exact keeps_raise _

theorem keeps_room_copyBody (s : StreamId) (body : BodySource) (length : Nat) :
    Effect.Keeps Regrown.view (copyBody s body length) := by
  refine keeps_bind keeps_room_host fun h => keeps_bind keeps_room_conn fun c => ?_
  dsimp only
  refine keeps_bind (keeps_room (fun _ => rfl) fun _ => rfl) fun _ => ?_
  refine keeps_bind (keeps_room (fun _ => rfl) fun _ => rfl) fun _ => ?_
  refine keeps_bind (keeps_lift _) fun _ => ?_
  exact keeps_bind (keeps_room (fun _ => rfl) fun _ => rfl) fun _ => keeps_pure _

/-- Staging the bytes that the engine offers. -/
theorem returns_stageBytes (data : Bytes) (accepted : Nat) :
    Returns Regrown (stageBytes data accepted) := by
  refine returns_bind .trans (returns_reserveOutput accepted) fun offset => ?_
  refine Effect.Keeps.returns ?_ .of_view
  refine keeps_bind (keeps_room_writeOutput _ _) fun _ => ?_
  exact keeps_bind (keeps_room (fun _ => rfl) fun _ => rfl) fun _ => keeps_pure _

/-- Writing a whole frame: the buffer is grown once, before anything is
written. -/
theorem returns_stageFrame (s : StreamId) (padlen : Nat) (frameHeader : FrameHeader)
    (length : Nat) : Returns Regrown (stageFrame s padlen frameHeader length) := by
  refine returns_bind .trans (Effect.Keeps.returns keeps_room_conn .of_view) fun c => ?_
  refine returns_bind .trans (Effect.Keeps.returns (keeps_room_raiseIf _ _) .of_view) fun _ => ?_
  refine returns_bind .trans (Effect.Keeps.returns (keeps_room_bodyOf s) .of_view) fun body => ?_
  refine returns_bind .trans (Effect.Keeps.returns keeps_room_host .of_view) fun _ => ?_
  refine returns_bind .trans (Effect.Keeps.returns (keeps_room_raiseIf _ _) .of_view) fun _ => ?_
  refine returns_bind .trans (returns_reserveOutput (length + 9)) fun offset => ?_
  refine Effect.Keeps.returns ?_ .of_view
  refine keeps_bind (keeps_room_writeOutput _ _) fun _ => ?_
  refine keeps_bind (keeps_room_copyBody _ _ _) fun _ => ?_
  refine keeps_bind (keeps_room_writeOutput _ _) fun _ => ?_
  refine keeps_bind (keeps_room_raiseIf _ _) fun _ => ?_
  exact keeps_bind (keeps_room (fun _ => rfl) fun _ => rfl) fun _ => keeps_pure _

/-- A callback that defers no exception did what it attempted. -/
theorem regrown_of_attempt {x : M Int} (hx : Returns Regrown x) {env : Env} {w w' : World}
    {r : Except PyError Reply}
    (hrun : Effect.run (do return { code := ← attempt x callbackFailed }) env w = (r, w'))
    (hsound : w'.conn.callbackError = none) : Regrown w w' := by
  rw [run_bind, run_attempt] at hrun
  rcases hattempt : x.run env w with ⟨e | code, w₁⟩
  · rw [hattempt] at hrun
    obtain ⟨-, rfl⟩ := Prod.mk.inj hrun
    exact absurd hsound (by simp)
  · rw [hattempt] at hrun
    obtain ⟨-, rfl⟩ := Prod.mk.inj hrun
    exact hx hattempt

/-- **A callback grows the buffer as it should**, unless it fails. -/
theorem Machine.step_regrown {m m' : Machine} {cb : Callback} {env : Env} {o : Outcome}
    (htaken : m.step (.callback cb env) = some (o, m')) (hsound : m'.conn.Sound) :
    Regrown m.world m'.world := by
  have hcalled : ∃ d session, m.drive = some (d, session) := by
    cases hdrive : m.drive with
    | none => simp [Machine.step, hdrive] at htaken
    | some d => exact ⟨d.1, d.2, rfl⟩
  obtain ⟨d, session, hdrive⟩ := hcalled
  rcases hbody : (cb.body session).run env m.world with ⟨r, w⟩
  have hafter : m' = { m with conn := w.conn } := by
    simp only [Machine.step, hdrive, hbody, Option.some_inj] at htaken
    cases r with
    | ok reply => exact (congrArg Prod.snd htaken).symm
    | error e => exact (congrArg Prod.snd htaken).symm
  have hof (h : Regrown m.world w) : Regrown m.world m'.world := by
    subst hafter
    exact ⟨rfl, h.used, h.larger, h.needed, h.doubled⟩
  by_cases hcollect : ∃ data, cb = .collectOutput data
  · obtain ⟨data, rfl⟩ := hcollect
    by_cases hspent : m.conn.outputRemaining = 0
    · have hw : w = m.world := by simpa [Callback.body, collectOutput, hspent, Machine.world] using
        (congrArg Prod.snd hbody).symm
      exact hof (hw ▸ .of_view rfl)
    · have hattempt : (collectOutput data).run env m.world
          = (attempt (stageBytes data (m.conn.acceptable data.length)) callbackFailed).run env
            m.world := by simp [collectOutput, hspent, Machine.world]
      generalize hx : stageBytes data (m.conn.acceptable data.length) = x at hattempt
      have hstages : Effect.run (do return { code := ← attempt x callbackFailed }) env m.world
          = (r, w) := by
        rw [run_bind, ← hattempt, ← run_bind]
        exact hbody
      subst hx
      exact hof (regrown_of_attempt (returns_stageBytes data _) hstages
        (by subst hafter; exact hsound.2))
  by_cases hwrite : ∃ s padlen frameHeader length, cb = .sendBody s padlen frameHeader length
  · obtain ⟨s, padlen, frameHeader, length, rfl⟩ := hwrite
    exact hof (regrown_of_attempt (returns_stageFrame s padlen frameHeader length) hbody
      (by subst hafter; exact hsound.2))
  -- the other callbacks do not come near the buffer
  cases Machine.stepped htaken with
  | callback driven hc =>
    cases hc with
    | failed spoiled deferred => exact absurd (deferred.symm.trans hsound.2) (by simp)
    | blocked => exact absurd ⟨_, rfl⟩ hcollect
    | collected => exact absurd ⟨_, rfl⟩ hcollect
    | bodySent => exact absurd ⟨_, _, _, _, rfl⟩ hwrite
    | _ => exact .of_view rfl

/-! ## Over a run -/

/-- **The bytes that a callback may have to move**: those of the buffer that it
had replaced. -/
def movedBytes (e : Entry Machine Label Outcome) : Nat :=
  match e.label with
  | .callback _ _ =>
    if room e.after.conn.output = room e.before.conn.output then 0
    else room e.before.conn.output
  | _ => 0

/-- What the staged bytes have paid for moves and not used: two bytes each, less
the buffer that was made for them. -/
def Machine.stagedCredit (m : Machine) : Nat :=
  2 * (staged m.conn.output).length - room m.conn.output

/-- **The buffers that can still be doubled**, in runs whose failures end the
call. -/
structure Modest (h : History) (m : Machine) (l : Label) : Prop where
  ends : FailureEndsDrive h l
  small : room m.conn.output < m.host.pointerWidth.sizeMax / 4

instance (h : History) (m : Machine) (l : Label) : Decidable (Modest h m l) :=
  decidable_of_iff (FailureEndsDrive h l ∧ room m.conn.output < m.host.pointerWidth.sizeMax / 4)
    ⟨fun ⟨h₁, h₂⟩ => ⟨h₁, h₂⟩, fun ⟨h₁, h₂⟩ => ⟨h₁, h₂⟩⟩

section Step

variable {m m' : Machine} {l : Label} {o : Outcome}

/-- A step that leaves the buffer as it is, or leaves none. -/
theorem stagedCredit_le (h : m'.conn.output = m.conn.output ∨ m'.conn.output = none) :
    m'.stagedCredit ≤ m.stagedCredit := by
  unfold Machine.stagedCredit
  rcases h with h | h
  · rw [h]
  · rw [h]
    exact Nat.zero_le _

/-- Operations leave the buffer alone, and a return may release it. -/
theorem Stepped.buffer_released {p : Outcome × Machine} (h : Stepped m l p)
    (hl : ∀ cb env, l ≠ .callback cb env) :
    p.2.conn.output = m.conn.output ∨ p.2.conn.output = none := by
  cases h with
  | request idle hr =>
    rw [Machine.afterRequest_conn]
    cases hr with
    | failed => exact .inr rfl
    | _ => exact .inl rfl
  | callback => exact absurd rfl (hl _ _)
  | ret driven hr =>
    rw [Machine.afterReturn_conn]
    cases hr with
    | failed | sent | sentLast | sentThenFailed => exact .inr rfl
    | _ => exact .inl rfl

/-- **A step is paid for**: what it moves and the credit it leaves are within the
credit it found and two bytes for each byte it was handed. -/
theorem Machine.step_moves_paid (htaken : m.step l = some (o, m')) (hs : m.Staging)
    (hq : m.conn.Queued m.host.pointerWidth) (hsound : m'.conn.Sound)
    (hsmall : room m.conn.output < m.host.pointerWidth.sizeMax / 4) :
    movedBytes ⟨m, l, o, m'⟩ + m'.stagedCredit
      ≤ m.stagedCredit + 2 * (handedOver ⟨m, l, o, m'⟩).length := by
  have hstep := Machine.stepped htaken
  by_cases hcallback : ∃ cb env, l = .callback cb env
  · obtain ⟨cb, env, rfl⟩ := hcallback
    have hgrown := Machine.step_regrown htaken hsound
    have hstaged : staged m'.conn.output
        = staged m.conn.output ++ handedOver ⟨m, .callback cb env, o, m'⟩ :=
      hstep.balance hs hq hsound
    have hlength := congrArg List.length hstaged
    rw [List.length_append] at hlength
    have hused : room m'.conn.output ≠ room m.conn.output →
        room m.conn.output < (staged m'.conn.output).length := by
      intro hne
      have hneeded : room m.conn.output < m'.conn.outputSize := hgrown.needed hne
      have hafter : m'.Staging := hstep.staging hs hsound
      obtain ⟨d, session, hdrive, hdrive'⟩ := hstep.callback_drive
      unfold Machine.Staging at hs hafter
      rw [hdrive] at hs
      rw [show m'.drive = some (d, session) from hdrive'] at hafter
      cases d with
      | send => rwa [show (staged m'.conn.output).length = m'.conn.outputSize from hafter]
      | _ => exact absurd (by rw [hs.1, hafter.1]) hne
    have hdoubled := hgrown.doubled
    have hlarger := hgrown.larger
    unfold movedBytes Machine.stagedCredit
    dsimp only [Machine.world] at hdoubled hlarger ⊢
    split
    · omega
    · next hne =>
      have := hused hne
      have := hdoubled hne hsmall
      omega
  · have hnone : movedBytes ⟨m, l, o, m'⟩ = 0 := by
      cases l with
      | callback cb env => exact absurd ⟨cb, env, rfl⟩ hcallback
      | request | ret => rfl
    rw [hnone, Nat.zero_add]
    have hreleased := hstep.buffer_released fun cb env h => hcallback ⟨cb, env, h⟩
    exact (stagedCredit_le hreleased).trans (Nat.le_add_right _ _)

end Step

/-- **Growing the staging buffer is linear in the output.** In every run whose
buffers can still be doubled, as long as the connection has not failed, the
buffers that were replaced come to at most two bytes for each byte that the
engine has handed over. -/
theorem regrowth_linear {host : Host} {h : History} {m : Machine} (hrun : Runs host Modest h m)
    (hsound : m.conn.Sound) : overall movedBytes h ≤ 2 * (handedOverBytes h).length := by
  have hpaid : overall movedBytes h + m.stagedCredit
      ≤ 0 + overall (fun e => 2 * (handedOver e).length) h := by
    refine Run.amortized (fun m => m.conn.Sound) Machine.stagedCredit
      (fun hprior hallowed htaken hafter => ?_)
      (fun hprior hbefore hallowed htaken hafter => ?_) hrun hsound
    · exact Runs.sound_before Modest.ends hprior hallowed (Machine.stepped htaken) hafter
    · exact Machine.step_moves_paid htaken (Runs.staging Modest.ends hprior hbefore)
        (Runs.queued Modest.ends hprior hbefore) hafter hallowed.small
  have hbytes : overall (fun e => (handedOver e).length) h = (handedOverBytes h).length := by
    clear hpaid hrun
    induction h with
    | nil => rfl
    | cons e h ih => rw [overall_cons, ih, handedOverBytes, List.length_append, Nat.add_comm]
  rw [overall_mul, hbytes] at hpaid
  omega

/-- Five pieces of a thousand bytes. The first buffer has room for four of
them. -/
def fivePieces : List Label := [
  .request (.init .client {}) (.accepting []),
  .request (.initiateConnection []) (.accepting []),
  .request (.dataToSend none) (.accepting [])]
  ++ List.replicate 5 (.callback (.collectOutput (List.replicate 1000 0)) (.accepting []))

theorem regrowth_linear_fivePieces :
    ∃ c, Run.execute Machine.step Modest ([], Machine.fresh {}) fivePieces = some c ∧
      overall movedBytes c.1 = 4096 ∧ 4096 ≤ 2 * (handedOverBytes c.1).length := by
  have hrun : ((Run.execute Machine.step Modest ([], Machine.fresh {}) fivePieces).map fun c =>
      (decide c.2.conn.Sound, overall movedBytes c.1)) = some (true, 4096) := by decide +kernel
  obtain ⟨c, hc, hfacts⟩ := Option.map_eq_some_iff.mp hrun
  obtain ⟨hsound, hmoved⟩ := Prod.mk.inj hfacts
  have hlinear := regrowth_linear (Run.of_execute .start hc) (of_decide_eq_true hsound)
  exact ⟨c, hc, hmoved, hmoved ▸ hlinear⟩

end Ngh2
