import Ngh2.Observers
import Ngh2.Queueing

/-!
# How a body is cut into calls does not matter

An application hands over a body in as many calls of `send_data` as it likes,
and each of them becomes a chunk of its own in the queue. The peer is sent DATA
frames, and where one of these ends has nothing to do with where a chunk ended:
it depends on the bytes that are queued, on the windows and on the limit of the
output.

This is a statement about two runs. Cut any of the accepted calls of a run in
two, wherever in its bytes, or join two that follow each other: the result is a
run again, and everything else in it has the outcome it had. The engine is
given the same answers by every callback, the application the same output and
the same events, and the two connections end in states that differ in nothing
but the chunks.
-/

namespace Ngh2

open Effect Nghttp2

/-! ## Bodies with the same bytes -/

/-- **Two bodies that stand for the same**: the same bytes to send, and the same
flags. -/
structure BodySource.SameQueue (w : PointerWidth) (b b' : BodySource) : Prop where
  sound : b.Sound w
  sound' : b'.Sound w
  queue : b'.queue = b.queue
  ended : b'.ended = b.ended
  deferred : b'.deferred = b.deferred
  trailers : b'.trailers = b.trailers

namespace BodySource

variable {w : PointerWidth} {b b' b'' : BodySource}

theorem SameQueue.refl (h : b.Sound w) : b.SameQueue w b := ⟨h, h, rfl, rfl, rfl, rfl⟩

theorem SameQueue.symm (h : b.SameQueue w b') : b'.SameQueue w b :=
  ⟨h.sound', h.sound, h.queue.symm, h.ended.symm, h.deferred.symm, h.trailers.symm⟩

theorem SameQueue.trans (h : b.SameQueue w b') (h' : b'.SameQueue w b'') : b.SameQueue w b'' :=
  ⟨h.sound, h'.sound', h'.queue.trans h.queue, h'.ended.trans h.ended,
    h'.deferred.trans h.deferred, h'.trailers.trans h.trailers⟩

/-- The loop of `_copy_body`, as `Taken` describes it, keeps the relation. -/
theorem SameQueue.taken (h : b.SameQueue w b') {length queued : Nat} {s s' : CopyState}
    (hs : Taken w length { body := b, queued } s) (hs' : Taken w length { body := b', queued } s') :
    s'.copied = s.copied ∧ s'.queued = s.queued ∧ s.body.SameQueue w s'.body := by
  refine ⟨?_, ?_, hs.sound, hs'.sound, ?_, ?_, ?_, ?_⟩
  · rw [hs.copied, hs'.copied, h.queue]
  · rw [hs.counted, hs'.counted, h.queue]
  · rw [hs.queue, hs'.queue, h.queue]
  · rw [hs.ended, hs'.ended, h.ended]
  · rw [hs.deferred, hs'.deferred, h.deferred]
  · rw [hs.trailers, hs'.trailers, h.trailers]

theorem SameQueue.compact (h : b.SameQueue w b') : b.compact.SameQueue w b'.compact where
  sound := h.sound.compact
  sound' := h.sound'.compact
  queue := by simp [h.queue]
  ended := by simp [h.ended]
  deferred := by simp [h.deferred]
  trailers := by simp [h.trailers]

end BodySource

/-- **The chunks of a body make no difference.** -/
theorem bodyCongruence_sameQueue (w : PointerWidth) :
    BodyCongruence w (BodySource.SameQueue w) where
  empty := .refl BodySource.sound_empty
  ended := fun h => h.ended
  deferred := fun h => h.deferred
  trailers := fun h => h.trailers
  queuedSize := fun h => by rw [h.sound.size, h.sound'.size, h.queue]
  used := fun h => by rw [h.sound.head_eq_length_iff, h.sound'.head_eq_length_iff, h.queue]
  flags := fun h ended deferred trailers =>
    ⟨h.sound.flags ended deferred trailers, h.sound'.flags ended deferred trailers, h.queue, rfl,
      rfl, rfl⟩
  append := fun h chunk endStream =>
    ⟨h.sound.append chunk endStream, h.sound'.append chunk endStream,
      by rw [h.sound.queue_append, h.sound'.queue_append, h.queue], by simp,
      by simp [h.deferred], by simp [h.trailers]⟩
  copied := fun h length queued => by
    obtain ⟨s, hloop, hs⟩ := h.sound.copyLoop length queued
    obtain ⟨s', hloop', hs'⟩ := h.sound'.copyLoop length queued
    obtain ⟨hcopied, hqueued, hsame⟩ := h.taken hs hs'
    exact ⟨_, s, s', hloop, hloop', hcopied, hqueued, hsame, hsame.compact⟩

/-- **Machines with the same bytes to send**, and nothing else that differs. -/
abbrev Machine.SameBodies (m m' : Machine) : Prop :=
  m.Alike (BodySource.SameQueue m.host.pointerWidth) [] m'

section Same

variable {m m' m'' m₁ : Machine} {l : Label} {o : Outcome}

theorem Machine.SameBodies.sound (h : m.SameBodies m') {s : StreamId} {b : BodySource}
    (hb : m.conn.bodies.lookup s = some b) : b.Sound m.host.pointerWidth := by
  obtain ⟨hconn⟩ := h
  obtain ⟨hnone, -⟩ | ⟨b', _, hb', -, hsame⟩ := hconn.lookup s
  · exact absurd (hnone.symm.trans hb) (by simp)
  · obtain rfl := Option.some_inj.mp (hb'.symm.trans hb)
    exact hsame.sound

theorem Machine.SameBodies.symm (h : m.SameBodies m') : m'.SameBodies m := by
  obtain ⟨host, c, drive⟩ := m
  obtain ⟨⟨bodies, held⟩⟩ := h
  refine Machine.Alike.intro (m := ⟨host, { c with bodies }, drive⟩) (.intro c.bodies fun s => ?_)
  have hs := held s
  show Option.Rel _ (bodies.lookup s) (c.bodies.lookup s)
  generalize c.bodies.lookup s = x, bodies.lookup s = y at hs ⊢
  cases hs with
  | none => exact .none
  | some hb => exact .some hb.symm

theorem Machine.SameBodies.trans (h : m.SameBodies m') (h' : m'.SameBodies m'') :
    m.SameBodies m'' := by
  obtain ⟨⟨bodies, held⟩⟩ := h
  obtain ⟨⟨bodies', held'⟩⟩ := h'
  refine Machine.Alike.intro (.intro bodies' fun s => ?_)
  have hs := held s
  have hs' : Option.Rel (BodySource.SameQueue m.host.pointerWidth) (bodies.lookup s)
    (bodies'.lookup s) := held' s
  generalize m.conn.bodies.lookup s = x, bodies.lookup s = y, bodies'.lookup s = z at hs hs' ⊢
  cases hs with
  | none => exact hs'
  | some hb =>
    cases hs' with
    | some hb' => exact .some (hb.trans hb')

/-- They take the same steps. -/
theorem Machine.SameBodies.step (h : m.SameBodies m') (hstep : m.step l = some (o, m₁)) :
    ∃ m₁', m'.step l = some (o, m₁') ∧ m₁.SameBodies m₁' := by
  cases hpolls : l.polls with
  | false =>
    have hhost : m₁.host = m.host := (Machine.stepped hstep).host_eq
    unfold Machine.SameBodies
    rw [hhost]
    exact Machine.Alike.step (bodyCongruence_sameQueue _) h hpolls hstep
  | true =>
    obtain ⟨env, rfl⟩ := Label.of_polls hpolls
    obtain ⟨host, c, drive⟩ := m
    obtain ⟨⟨bodies, held⟩⟩ := h
    cases drive with
    | some d => exact absurd hstep (by simp [Machine.step])
    | none =>
      cases hstep
      exact ⟨_, rfl, Machine.Alike.intro (m := ⟨host, { c with events := [] }, none⟩)
        (.intro bodies held)⟩

end Same

/-! ## One call for two -/

section Sending

variable {width : PointerWidth} {m m' : Machine} {env : Env} {s : StreamId} {chunk a b : Bytes}
  {endStream : Bool} {body : BodySource} {is : List Issued}

/-- **Two appends are one**, for what a body stands for. -/
theorem BodySource.Sound.given_given (h : body.Sound width) (a b : Bytes) (endStream : Bool) :
    ((body.given width a false).given width b endStream).SameQueue width
      (body.given width (a ++ b) endStream) := by
  obtain ⟨hsound, hqueue, -, htrailers⟩ := h.given a false
  obtain ⟨hsound', hqueue', hended', htrailers'⟩ := hsound.given b endStream
  obtain ⟨hsound'', hqueue'', hended'', htrailers''⟩ := h.given (a ++ b) endStream
  refine ⟨hsound', hsound'', ?_, hended''.trans hended'.symm, ?_, ?_⟩
  · rw [hqueue'', hqueue', hqueue, List.append_assoc]
  · rw [BodySource.given_deferred, BodySource.given_deferred, BodySource.given_deferred]
    by_cases ha : a = [] <;> by_cases hb : b = [] <;> simp [ha, hb]
  · rw [htrailers'', htrailers', htrailers]

/-- Two calls are accepted where one is. -/
theorem accepts_append {c : Connection} :
    Accepts env c s body (a ++ b) endStream ↔
      Accepts env c s body a false ∧
        Accepts env (c.given width s body a false) s (body.given width a false) b endStream := by
  have hopened : (c.given width s body a false).bodies.lookup s
      = some (body.given width a false) := Finmap.lookup_insert _
  have hended : (body.given width a false).ended = false := by
    unfold BodySource.given
    split
    · exact BodySource.append_ended _ _
    · exact BodySource.append_ended _ _
  constructor
  · intro h
    refine ⟨⟨h.usable, h.opened, h.unended, fun hd ha => h.resumes hd ?_⟩,
      ⟨h.usable, hopened, hended, fun hd hb => h.resumes ?_ ?_⟩⟩
    · exact .inl fun hab => ha.elim (fun ha => ha (List.append_eq_nil_iff.mp hab).1) (by simp)
    · rw [BodySource.given_deferred] at hd
      split at hd
      · exact absurd hd (by simp)
      · exact hd
    · exact hb.imp_left fun hb hab => hb (List.append_eq_nil_iff.mp hab).2
  · rintro ⟨h, h'⟩
    refine ⟨h.usable, h.opened, h.unended, fun hd hab => ?_⟩
    by_cases ha : a = []
    · subst ha
      refine h'.resumes ?_ hab
      rw [BodySource.given_deferred, if_neg (by simp)]
      exact hd
    · exact h.resumes hd (.inl ha)

/-- The source is woken once. -/
theorem Connection.waking_append (c : Connection) :
    c.waking s body (a ++ b) endStream
      = c.waking s body a false
        ++ (c.given width s body a false).waking s (body.given width a false) b endStream := by
  have hsession : (c.given width s body a false).session = c.session := rfl
  unfold Connection.waking
  rw [BodySource.given_deferred, hsession]
  by_cases hd : body.deferred = true <;> by_cases ha : a = [] <;> simp [hd, ha]

/-- The counter of all queued bytes is told of two chunks as of one. -/
theorem countQueued_append (width : PointerWidth) (queued : Nat) (a b : Bytes) :
    countQueued width queued (a ++ b) = countQueued width (countQueued width queued a) b := by
  unfold countQueued
  by_cases ha : a = []
  · simp [ha]
  · by_cases hb : b = []
    · simp [hb]
    · simp [ha, hb, Wrapping.add, Nat.add_assoc]

/-- The machines after two calls and after one. -/
theorem Machine.SameBodies.given
    (hsound : ∀ t b, m.conn.bodies.lookup t = some b → b.Sound m.host.pointerWidth)
    (hopened : m.conn.bodies.lookup s = some body) :
    Machine.SameBodies
      ((m.given s body a false).given s (body.given m.host.pointerWidth a false) b endStream)
      (m.given s body (a ++ b) endStream) := by
  obtain ⟨host, c, drive⟩ := m
  have hheld (t : StreamId) : Option.Rel (BodySource.SameQueue host.pointerWidth)
      (((c.bodies.insert s (body.given host.pointerWidth a false)).insert s
        ((body.given host.pointerWidth a false).given host.pointerWidth b endStream)).lookup t)
      ((c.bodies.insert s (body.given host.pointerWidth (a ++ b) endStream)).lookup t) := by
    rw [Finmap.insert_insert]
    by_cases ht : t = s
    · subst ht
      rw [Finmap.lookup_insert, Finmap.lookup_insert]
      exact .some ((hsound t body hopened).given_given a b endStream)
    · rw [Finmap.lookup_insert_of_ne _ ht, Finmap.lookup_insert_of_ne _ ht]
      have hs : ∀ b, c.bodies.lookup t = some b → b.Sound host.pointerWidth := hsound t
      generalize c.bodies.lookup t = x at hs
      cases x with
      | none => exact .none
      | some body' => exact .some (.refl (hs body' rfl))
  refine Machine.Alike.intro (m := ⟨host, _, drive⟩) ?_
  show Connection.Alike _ _ _ { c with
    bodies := c.bodies.insert s (body.given host.pointerWidth (a ++ b) endStream)
    queuedBodySize := countQueued host.pointerWidth c.queuedBodySize (a ++ b) }
  rw [countQueued_append]
  exact .intro _ hheld

/-- **One call does what two do.** -/
theorem Machine.joined {m₁ m₂ : Machine} {is' : List Issued}
    (hsound : ∀ t b, m.conn.bodies.lookup t = some b → b.Sound m.host.pointerWidth)
    (hfirst : m.step (.request (.sendData s a false) env) = some (⟨.returned .none, is⟩, m₁))
    (hsecond : m₁.step (.request (.sendData s b endStream) env)
      = some (⟨.returned .none, is'⟩, m₂)) :
    ∃ m₂', m.step (.request (.sendData s (a ++ b) endStream) env)
      = some (⟨.returned .none, is ++ is'⟩, m₂') ∧ m₂.SameBodies m₂' := by
  obtain ⟨hidle, body, haccepts, rfl, rfl⟩ := Machine.step_sendData.mp hfirst
  obtain ⟨-, body', haccepts', rfl, rfl⟩ := Machine.step_sendData.mp hsecond
  obtain rfl : body.given m.host.pointerWidth a false = body' :=
    Option.some_inj.mp ((Finmap.lookup_insert _).symm.trans haccepts'.opened)
  refine ⟨_, Machine.step_sendData.mpr ⟨hidle, body, accepts_append.mpr ⟨haccepts, haccepts'⟩,
    (Connection.waking_append _).symm, rfl⟩, ?_⟩
  exact Machine.SameBodies.given hsound haccepts.opened

/-- **Two calls do what one does**, wherever its bytes are cut. -/
theorem Machine.cut {m₂' : Machine}
    (hsound : ∀ t b, m.conn.bodies.lookup t = some b → b.Sound m.host.pointerWidth)
    (hone : m.step (.request (.sendData s (a ++ b) endStream) env)
      = some (⟨.returned .none, is⟩, m₂')) :
    ∃ m₁ m₂ is₁ is₂,
      m.step (.request (.sendData s a false) env) = some (⟨.returned .none, is₁⟩, m₁) ∧
      m₁.step (.request (.sendData s b endStream) env) = some (⟨.returned .none, is₂⟩, m₂) ∧
      is = is₁ ++ is₂ ∧ m₂.SameBodies m₂' := by
  obtain ⟨hidle, body, haccepts, rfl, rfl⟩ := Machine.step_sendData.mp hone
  obtain ⟨hfirst, hsecond⟩ := accepts_append.mp haccepts
  refine ⟨_, _, _, _, Machine.step_sendData.mpr ⟨hidle, body, hfirst, rfl, rfl⟩,
    Machine.step_sendData.mpr ⟨hidle, _, hsecond, rfl, rfl⟩, Connection.waking_append _, ?_⟩
  exact Machine.SameBodies.given hsound haccepts.opened

end Sending

/-! ## The theorem -/

/-- An accepted call of `send_data`, as it is seen. -/
def accepted (s : StreamId) (chunk : Bytes) (endStream : Bool) (env : Env) (is : List Issued) :
    Label × Outcome := (.request (.sendData s chunk endStream) env, ⟨.returned .none, is⟩)

/-- **Cutting accepted calls of `send_data` in two**, in what is seen of a run.
The newest step is the first of a list. -/
inductive Recut : List (Label × Outcome) → List (Label × Outcome) → Prop
  | nil : Recut [] []
  | same {x : Label × Outcome} {xs ys : List (Label × Outcome)} (further : Recut xs ys) :
      Recut (x :: xs) (x :: ys)
  | cut {s : StreamId} {a b : Bytes} {endStream : Bool} {env : Env} {is is' : List Issued}
      {xs ys : List (Label × Outcome)} (further : Recut xs ys) :
      Recut (accepted s b endStream env is' :: accepted s a false env is :: xs)
        (accepted s (a ++ b) endStream env (is ++ is') :: ys)

/-- **How a list of labels cuts the calls of a run.** -/
inductive Cuts : List Label → List (Label × Outcome) → Prop
  | nil : Cuts [] []
  | same {x : Label × Outcome} {ls : List Label} {ys : List (Label × Outcome)}
      (further : Cuts ls ys) : Cuts (x.1 :: ls) (x :: ys)
  | cut {s : StreamId} {a b : Bytes} {endStream : Bool} {env : Env} {is : List Issued}
      {ls : List Label} {ys : List (Label × Outcome)} (further : Cuts ls ys) :
      Cuts (.request (.sendData s b endStream) env :: .request (.sendData s a false) env :: ls)
        (accepted s (a ++ b) endStream env is :: ys)

section Cutting

variable {host : Host}

theorem Machine.SameBodies.fresh : (Machine.fresh host).SameBodies (Machine.fresh host) :=
  Machine.Alike.intro (.intro ∅ fun _ => .none)

/-- Calls that follow each other can be joined. -/
theorem Recut.joined {xs ys : List (Label × Outcome)} (h : Recut xs ys) {hist : History}
    {m : Machine}
    (hrun : AnyRuns host hist m) (hseen : hist.map Entry.seen = xs) :
    ∃ hist' m', AnyRuns host hist' m' ∧ hist'.map Entry.seen = ys ∧ m.SameBodies m' := by
  induction h generalizing hist m with
  | nil =>
    obtain rfl := List.map_eq_nil_iff.mp hseen
    cases hrun
    exact ⟨[], _, .start, rfl, .fresh⟩
  | same further ih =>
    obtain ⟨e, hist, rfl, rfl, hrest⟩ := List.map_eq_cons_iff.mp hseen
    cases hrun with
    | extend prior _ taken =>
      obtain ⟨hist', m', hrun', hseen', hsame⟩ := ih prior hrest
      obtain ⟨m₁', htaken', hsame'⟩ := hsame.step taken
      exact ⟨_, m₁', .extend hrun' trivial htaken', by rw [List.map_cons, hseen']; rfl, hsame'⟩
  | cut further ih =>
    obtain ⟨e₂, hist₁, rfl, he₂, hrest₁⟩ := List.map_eq_cons_iff.mp hseen
    obtain ⟨e₁, hist, rfl, he₁, hrest⟩ := List.map_eq_cons_iff.mp hrest₁
    cases hrun with
    | extend prior₁ _ taken₂ =>
      cases prior₁ with
      | extend prior _ taken₁ =>
        obtain ⟨rfl, rfl⟩ := Prod.mk.inj he₂
        obtain ⟨rfl, rfl⟩ := Prod.mk.inj he₁
        obtain ⟨hist', m', hrun', hseen', hsame⟩ := ih prior hrest
        obtain ⟨m₂', hone, hjoined⟩ := Machine.joined (fun _ _ => hsame.sound) taken₁ taken₂
        obtain ⟨m₃', htaken', hsame'⟩ := hsame.step hone
        exact ⟨_, m₃', .extend hrun' trivial htaken', by rw [List.map_cons, hseen']; rfl,
          hjoined.trans hsame'⟩

/-- An accepted call can be cut wherever in its bytes. -/
theorem Cuts.taken {ls : List Label} {ys : List (Label × Outcome)} (h : Cuts ls ys)
    {hist' : History} {m' : Machine} (hrun : AnyRuns host hist' m')
    (hseen : hist'.map Entry.seen = ys) :
    ∃ hist m, AnyRuns host hist m ∧ hist.map (·.label) = ls ∧ Recut (hist.map Entry.seen) ys ∧
      m.SameBodies m' := by
  induction h generalizing hist' m' with
  | nil =>
    obtain rfl := List.map_eq_nil_iff.mp hseen
    cases hrun
    exact ⟨[], _, .start, rfl, .nil, .fresh⟩
  | same further ih =>
    obtain ⟨e, hist', rfl, rfl, hrest⟩ := List.map_eq_cons_iff.mp hseen
    cases hrun with
    | extend prior _ taken =>
      obtain ⟨hist, m, hrun', hlabels, hrecut, hsame⟩ := ih prior hrest
      obtain ⟨m₁, htaken', hsame'⟩ := hsame.symm.step taken
      exact ⟨_, m₁, .extend hrun' trivial htaken', by rw [List.map_cons, hlabels]; rfl,
        .same hrecut, hsame'.symm⟩
  | cut further ih =>
    obtain ⟨e, hist', rfl, he, hrest⟩ := List.map_eq_cons_iff.mp hseen
    cases hrun with
    | extend prior _ taken =>
      obtain ⟨rfl, rfl⟩ := Prod.mk.inj he
      obtain ⟨hist, m, hrun', hlabels, hrecut, hsame⟩ := ih prior hrest
      obtain ⟨m₂', hone, hsame'⟩ := hsame.symm.step taken
      obtain ⟨m₁, m₂, is₁, is₂, hfirst, hsecond, rfl, hcut⟩ :=
        Machine.cut (fun _ _ => hsame.sound) hone
      exact ⟨_, m₂, .extend (.extend hrun' trivial hfirst) trivial hsecond,
        by rw [List.map_cons, List.map_cons, hlabels], .cut hrecut, hcut.trans hsame'.symm⟩

end Cutting

/-- **How a body is cut into calls does not matter.** Join calls of `send_data`
that follow each other on a stream and were accepted: what results can be run,
with the outcome it had for every other step, and ends in a connection with the
same bytes to send and nothing else that differs. The other way round, cut the
accepted calls of a run wherever in their bytes: the pieces are accepted, every
other step has the outcome it had, and the connections again differ in nothing
but the chunks. -/
theorem body_cuts_invisible (host : Host) :
    (∀ h m ys, AnyRuns host h m → Recut (h.map Entry.seen) ys →
      ∃ h' m', AnyRuns host h' m' ∧ h'.map Entry.seen = ys ∧ m.SameBodies m') ∧
    (∀ h' m' ls, AnyRuns host h' m' → Cuts ls (h'.map Entry.seen) →
      ∃ h m, AnyRuns host h m ∧ h.map (·.label) = ls ∧
        Recut (h.map Entry.seen) (h'.map Entry.seen) ∧ m.SameBodies m') :=
  ⟨fun _ _ _ hrun hrecut => hrecut.joined hrun rfl, fun _ _ _ hrun hcuts => hcuts.taken hrun rfl⟩

/-- A client that sends two bytes in two calls. -/
def twoCalls : List Label := [
  .request (.init .client {}) (.accepting []),
  .request (.initiateConnection []) (.accepting []),
  .request (.sendRequest [] false) (.accepting [(.sessionCheckRequestAllowed, 1),
    (.submitRequest2 [] true, 1)]),
  .request (.sendData 1 [1] false) (.accepting []),
  .request (.sendData 1 [2] true) (.accepting [])]

set_option maxRecDepth 4000 in
/-- One call leaves the two bytes in a single chunk. -/
theorem body_cuts_invisible_twoCalls :
    ∃ c, Run.execute Machine.step (fun _ _ _ => True) ([], Machine.fresh {}) twoCalls = some c ∧
      ∃ h' m', AnyRuns {} h' m' ∧ h'.length = 4 ∧ c.2.SameBodies m' := by
  obtain ⟨c, hc, xs, hseen, hlength⟩ : ∃ c,
      Run.execute Machine.step (fun _ _ _ => True) ([], Machine.fresh {}) twoCalls = some c ∧
      ∃ xs, c.1.map Entry.seen = accepted 1 [2] true (.accepting []) []
        :: accepted 1 [1] false (.accepting []) [] :: xs ∧ xs.length = 3 :=
    ⟨_, rfl, _, rfl, rfl⟩
  have hsame (zs : List (Label × Outcome)) : Recut zs zs := by
    induction zs with
    | nil => exact .nil
    | cons z zs ih => exact .same ih
  have hrecut : Recut (c.1.map Entry.seen) (accepted 1 [1, 2] true (.accepting []) [] :: xs) := by
    rw [hseen]
    exact .cut (hsame xs)
  obtain ⟨h', m', hrun', hjoined, hbodies⟩ := (body_cuts_invisible {}).1 c.1 c.2 _
    (Run.of_execute .start hc) hrecut
  refine ⟨c, hc, h', m', hrun', ?_, hbodies⟩
  rw [← List.length_map (f := Entry.seen), hjoined, List.length_cons, hlength]

end Ngh2
