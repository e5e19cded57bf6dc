import Ngh2.Contract
import Ngh2.Lib.Interleavings
import Ngh2.MachineSteps

/-!
# How the input is cut

Bytes arrive from the network in pieces of any size, and an application passes
them on as they come. What the connection makes of them is not to depend on
where one call of `receive_data` ends and the next begins.

One call is a `Feed`: its bytes, the callbacks the engine makes of them, the
result it returns, and what it replies when the call ends. Where input is cut,
the engine makes the same callbacks, except that a fragment of a DATA payload
that lies across a cut arrives in two pieces (`Coalesced`), and the last call
ends as the one call does. The theorem says that several calls, one after the
other, do exactly what one call with all the bytes does: the last of them
returns or raises what the one does, and the connection is the same to the last
field, events included (`input_cuts_invisible`).

A call that ends at a cut is asked whether the connection is over, and after a
GOAWAY the engine can answer that it is: then the end is announced there, and
the bytes behind the cut are refused. So one call can be cut only where the
engine goes on (`Feed.Going`). In the other direction nothing is asked: calls
that were all made have not ended at a cut. A callback that raises ends the
engine function it was made in, so it can only be one of the last call.
-/

namespace Ngh2

open Effect Nghttp2 Interleaving

/-- **A callback that was made**, and its outcome. -/
structure Heard where
  callback : Callback
  env : Env
  outcome : Outcome

/-- What is seen of a callback. -/
def Heard.seen (x : Heard) : Label × Outcome := (.callback x.callback x.env, x.outcome)

/-- The callback did not raise. -/
def Heard.Clean (x : Heard) : Prop := x.outcome.response ≠ .replied { code := errCallbackFailure }

/-- A fragment of a DATA payload that was copied. -/
def fragment (s : StreamId) (data : Bytes) (env : Env) : Heard :=
  ⟨.dataChunk s data, env, ⟨.replied { code := 0 }, []⟩⟩

/-- **Callbacks that differ in fragments**: some that follow each other on the
one side are a single one on the other. -/
inductive Coalesced : List Heard → List Heard → Prop
  | nil : Coalesced [] []
  | same {x : Heard} {xs ys : List Heard} (h : Coalesced xs ys) : Coalesced (x :: xs) (x :: ys)
  | join {s : StreamId} {data data' : Bytes} {env env' env'' : Env} {xs ys : List Heard}
      (h : Coalesced (fragment s (data ++ data') env :: xs) ys) :
      Coalesced (fragment s data env' :: fragment s data' env'' :: xs) ys

/-- **A call of `receive_data`**: its bytes, the callbacks the engine makes of
them, its result, and what it replies when the call ends. -/
structure Feed where
  data : Bytes
  heard : List Heard
  result : Int
  env : Env
  /-- The engine consumes no more than it is given. -/
  within : result ≤ data.length

namespace Feed

/-- No callback of the call raised. -/
def Clean (f : Feed) : Prop := ∀ x ∈ f.heard, x.Clean

/-- **The engine goes on** when the call ends: it has consumed everything, and
still wants to read or to write. -/
def Going (f : Feed) : Prop :=
  f.result = f.data.length ∧
    ¬ (f.env.reply .sessionWantRead = 0 ∧ f.env.reply .sessionWantWrite = 0)

/-- **One call with the bytes of two.** It ends as the second does, and has
consumed what both have. -/
def append (f g : Feed) : Feed where
  data := f.data ++ g.data
  heard := f.heard ++ g.heard
  result := if g.result < 0 then g.result else f.data.length + g.result
  env := g.env
  within := by
    have := g.within
    rw [List.length_append]
    split <;> omega

/-- **One call with the bytes of all**, in order. -/
def whole : Feed → List Feed → Feed
  | f, [] => f
  | f, g :: gs => f.append (whole g gs)

/-- The same call, but for the fragments of DATA payloads. -/
structure Coalesces (f g : Feed) : Prop where
  data : f.data = g.data
  heard : Coalesced f.heard g.heard
  result : f.result = g.result
  env : f.env = g.env

end Feed

/-- **The machine takes a call of `receive_data`**: it enters the engine, the
callbacks are made, and the call ends. -/
inductive Fed (m : Machine) (f : Feed) (o : Outcome) (m' : Machine) : Prop
  | intro {is : List Issued} {m₁ m₂ : Machine}
      (entered : m.step (.request (.receiveData f.data) f.env) = some (⟨.entered, is⟩, m₁))
      (made : Trace Machine.step m₁ (f.heard.map Heard.seen) m₂)
      (ended : m₂.step (.ret f.result f.env) = some (o, m'))

/-- **Calls one after the other**: all but the last return, and the last has
the outcome. -/
inductive FedAll : Machine → Feed → List Feed → Outcome → Machine → Prop
  | last {m m' : Machine} {f : Feed} {o : Outcome} (fed : Fed m f o m') : FedAll m f [] o m'
  | more {m m₁ m' : Machine} {f g : Feed} {gs : List Feed} {o : Outcome} {is : List Issued}
      (first : Fed m f ⟨.returned .none, is⟩ m₁) (further : FedAll m₁ g gs o m') :
      FedAll m f (g :: gs) o m'

/-! ## Fragments -/

/-- Writing behind what was just written. -/
theorem Buffer.memcpy_append (b : Buffer) (offset : Nat) (data data' : Bytes) :
    (b.memcpy offset data).memcpy (offset + data.length) data'
      = b.memcpy offset (data ++ data') := by
  have hlen : (b.written.take offset ++ data).length ≤ offset + data.length := by
    rw [List.length_append, List.length_take]
    omega
  unfold Buffer.memcpy
  rw [List.take_of_length_le hlen, List.append_assoc]

section Fragments

variable {m m' : Machine} {s : StreamId} {data data' : Bytes} {env env' env'' : Env}

/-- The connection after a fragment was copied into the open payload. -/
def Connection.copied (c : Connection) (payload : Buffer) (data : Bytes) : Connection :=
  { c with
    dataPayload := some (payload.memcpy c.dataSize data)
    dataSize := c.dataSize + data.length }

/-- Whether a fragment belongs to the open payload and fits into it. -/
def Connection.Accommodates (c : Connection) (s : StreamId) (data : Bytes) (payload : Buffer) :
    Prop :=
  c.dataPayload = some payload ∧ s = c.dataStreamId ∧ c.dataSize + data.length ≤ payload.capacity

/-- A fragment that fits is copied. -/
theorem run_fragment {host : Host} {session : Option SessionId} {c : Connection} {payload : Buffer}
    (h : c.Accommodates s data payload) :
    ((Callback.dataChunk s data).body session).run env ⟨host, c, []⟩
      = (.ok { code := 0 }, ⟨host, c.copied payload data, []⟩) := by
  obtain ⟨hpayload, hs, hroom⟩ := h
  unfold Callback.body dataChunk copyFragment
  simp [hpayload, hs, not_lt.mpr hroom, Connection.copied]

/-- One that does not is refused. -/
theorem run_fragment_refused {host : Host} {session : Option SessionId} {c : Connection}
    (h : ∀ payload, ¬ c.Accommodates s data payload) :
    (((Callback.dataChunk s data).body session).run env ⟨host, c, []⟩).1
      = .ok { code := errCallbackFailure } := by
  unfold Callback.body dataChunk copyFragment
  cases hpayload : c.dataPayload with
  | none => simp [hpayload]
  | some payload =>
    have hfits : s ≠ c.dataStreamId ∨ payload.capacity < c.dataSize + data.length := by
      by_contra hno
      obtain ⟨hs, hroom⟩ := not_or.mp hno
      exact h payload ⟨hpayload, not_not.mp hs, not_lt.mp hroom⟩
    simp [hpayload, hfits]

/-- **When a fragment is copied**, and what it does. -/
theorem Machine.step_fragment :
    m.step (fragment s data env).seen.1 = some ((fragment s data env).seen.2, m') ↔
      m.drive ≠ none ∧ ∃ payload, m.conn.Accommodates s data payload ∧
        m' = { m with conn := m.conn.copied payload data } := by
  obtain ⟨host, c, drive⟩ := m
  cases drive with
  | none =>
    exact ⟨fun h => absurd h (by simp [Machine.step, Heard.seen, fragment]), fun h =>
      absurd rfl h.1⟩
  | some d =>
    show some (Machine.afterCallback ⟨host, c, some d⟩
      (((Callback.dataChunk s data).body d.2).run env ⟨host, c, []⟩)) = some (_, m') ↔ _
    by_cases htakes : ∃ payload, c.Accommodates s data payload
    · obtain ⟨payload, htakes⟩ := htakes
      rw [run_fragment htakes]
      constructor
      · intro h
        cases h
        exact ⟨Option.some_ne_none d, payload, htakes, rfl⟩
      · rintro ⟨-, payload', htakes', rfl⟩
        obtain rfl : payload = payload' := Option.some.inj (htakes.1.symm.trans htakes'.1)
        rfl
    · have hrefused : (((Callback.dataChunk s data).body d.2).run env ⟨host, c, []⟩).1
          = .ok { code := errCallbackFailure } := run_fragment_refused (not_exists.mp htakes)
      generalize ((Callback.dataChunk s data).body d.2).run env ⟨host, c, []⟩ = q at hrefused ⊢
      obtain ⟨x, w⟩ := q
      obtain rfl : x = .ok { code := errCallbackFailure } := hrefused
      refine ⟨fun h => absurd h ?_, fun h => absurd ?_ htakes⟩
      · simp [Machine.afterCallback, Heard.seen, fragment, errCallbackFailure]
      · obtain ⟨-, payload, htakes', -⟩ := h
        exact ⟨payload, htakes'⟩

/-- **Two fragments are one.** -/
theorem Machine.step_fragments {m₁ : Machine}
    (h : m.step (fragment s data env').seen.1 = some ((fragment s data env').seen.2, m₁)) :
    m₁.step (fragment s data' env'').seen.1 = some ((fragment s data' env'').seen.2, m') ↔
      m.step (fragment s (data ++ data') env).seen.1
        = some ((fragment s (data ++ data') env).seen.2, m') := by
  obtain ⟨hdrive, payload, ⟨hpayload, hs, -⟩, rfl⟩ := Machine.step_fragment.mp h
  rw [Machine.step_fragment, Machine.step_fragment]
  have hsecond : (m.conn.copied payload data).copied (payload.memcpy m.conn.dataSize data) data'
      = m.conn.copied payload (data ++ data') := by
    unfold Connection.copied
    dsimp only
    rw [Buffer.memcpy_append, List.length_append, Nat.add_assoc]
  have hroom : m.conn.dataSize + data.length + data'.length
      = m.conn.dataSize + (data ++ data').length := by
    rw [List.length_append, Nat.add_assoc]
  constructor
  · rintro ⟨-, payload', ⟨hpayload', -, hfits⟩, rfl⟩
    obtain rfl : payload.memcpy m.conn.dataSize data = payload' := Option.some.inj hpayload'
    exact ⟨hdrive, payload, ⟨hpayload, hs, hroom ▸ hfits⟩, by rw [hsecond]⟩
  · rintro ⟨-, payload', ⟨hpayload', -, hfits⟩, rfl⟩
    obtain rfl : payload = payload' := Option.some.inj (hpayload.symm.trans hpayload')
    exact ⟨hdrive, payload.memcpy m.conn.dataSize data, ⟨rfl, hs, hroom ▸ hfits⟩, by rw [hsecond]⟩

/-- Where the bytes of two fragments are copied, those of the first are. -/
theorem Machine.step_first
    (h : m.step (fragment s (data ++ data') env).seen.1
      = some ((fragment s (data ++ data') env).seen.2, m')) :
    ∃ m₁, m.step (fragment s data env').seen.1 = some ((fragment s data env').seen.2, m₁) := by
  obtain ⟨hdrive, payload, ⟨hpayload, hs, hfits⟩, -⟩ := Machine.step_fragment.mp h
  rw [List.length_append] at hfits
  exact ⟨_, Machine.step_fragment.mpr ⟨hdrive, payload, ⟨hpayload, hs, by omega⟩, rfl⟩⟩

/-- **Callbacks that differ in fragments do the same.** -/
theorem Coalesced.trace {xs ys : List Heard} (h : Coalesced xs ys) :
    Trace Machine.step m (xs.map Heard.seen) m' ↔ Trace Machine.step m (ys.map Heard.seen) m' := by
  induction h generalizing m with
  | nil => exact Iff.rfl
  | same _ ih =>
    rw [List.map_cons, List.map_cons, Trace.cons_iff, Trace.cons_iff]
    exact exists_congr fun m₁ => and_congr_right fun _ => ih
  | join _ ih =>
    rw [← ih, List.map_cons, List.map_cons, List.map_cons, Trace.cons_iff, Trace.cons_iff]
    constructor
    · rintro ⟨m₁, hfirst, hrest⟩
      obtain ⟨m₂, hsecond, hrest⟩ := Trace.cons_iff.mp hrest
      exact ⟨m₂, (Machine.step_fragments hfirst).mp hsecond, hrest⟩
    · rintro ⟨m₂, hwhole, hrest⟩
      obtain ⟨m₁, hfirst⟩ := Machine.step_first hwhole
      exact ⟨m₁, hfirst, .more ((Machine.step_fragments hfirst).mpr hwhole) hrest⟩

end Fragments

/-! ## Inside the engine -/

section Inside

variable {host : Host} {session : Option SessionId} {c c' : Connection} {m m' : Machine}
  {xs : List Heard} {d : Drive}

/-- **What no callback touches**: the session, and whether the connection can
be used. -/
structure Connection.Inside (c c' : Connection) : Prop where
  session : c'.session = c.session
  usable : c'.Usable ↔ c.Usable

theorem Connection.Inside.trans {c₁ : Connection} (h : c.Inside c₁) (h' : c₁.Inside c') :
    c.Inside c' := ⟨h'.session.trans h.session, h'.usable.trans h.usable⟩

theorem Stepped.inside {cb : Callback} {env : Env} {p : Outcome × Machine}
    (h : Stepped m (.callback cb env) p) : m.conn.Inside p.2.conn := by
  cases h with
  | callback driven called =>
    rw [Machine.afterCallback_conn]
    cases called with
    | failed spoiled =>
      refine ⟨spoiled.session, ?_⟩
      unfold Connection.Usable
      rw [spoiled.failed, spoiled.active, spoiled.terminating]
    | _ => exact ⟨rfl, Iff.rfl⟩

/-- A callback does the same, whichever function of the engine makes it. -/
theorem Machine.step_heard {x : Heard}
    (h : Machine.step ⟨host, c, some (d, session)⟩ x.seen.1 = some (x.seen.2, m')) :
    ∃ c', m' = ⟨host, c', some (d, session)⟩ ∧ ∀ d',
      Machine.step ⟨host, c, some (d', session)⟩ x.seen.1
        = some (x.seen.2, ⟨host, c', some (d', session)⟩) := by
  replace h : Machine.afterCallback ⟨host, c, some (d, session)⟩
    ((x.callback.body session).run x.env ⟨host, c, []⟩) = (x.outcome, m') := Option.some.inj h
  show ∃ c', _ ∧ ∀ d', some (Machine.afterCallback ⟨host, c, some (d', session)⟩
    ((x.callback.body session).run x.env ⟨host, c, []⟩)) = some (x.outcome, _)
  generalize (x.callback.body session).run x.env ⟨host, c, []⟩ = q at h ⊢
  obtain ⟨result, w⟩ := q
  obtain ⟨ho, rfl⟩ := Prod.mk.inj h
  rw [← ho]
  cases result with
  | error | ok => exact ⟨w.conn, rfl, fun d' => rfl⟩

/-- **The callbacks of a call**: they do the same whichever function of the
engine makes them, and leave what it takes to be called again. -/
theorem Trace.heard
    (h : Trace Machine.step ⟨host, c, some (d, session)⟩ (xs.map Heard.seen) m') :
    ∃ c', m' = ⟨host, c', some (d, session)⟩ ∧ c.Inside c' ∧
      ((∀ x ∈ xs, x.Clean) → c.callbackError = none → c'.callbackError = none) ∧
      ∀ d', Trace Machine.step ⟨host, c, some (d', session)⟩ (xs.map Heard.seen)
        ⟨host, c', some (d', session)⟩ := by
  induction xs generalizing c with
  | nil =>
    cases h
    exact ⟨c, rfl, ⟨rfl, Iff.rfl⟩, fun _ => id, fun d' => .done _⟩
  | cons x xs ih =>
    obtain ⟨m₁, htaken, hrest⟩ := Trace.cons_iff.mp h
    have hstep := Machine.stepped htaken
    obtain ⟨c₁, rfl, hany⟩ := Machine.step_heard htaken
    obtain ⟨c', rfl, hinside, hclean, hothers⟩ := ih hrest
    refine ⟨c', rfl, hstep.inside.trans hinside, fun hx hc => ?_, fun d' =>
      .more (hany d') (hothers d')⟩
    have hfirst : c₁.callbackError = none :=
      (hstep.callback_clean hc).resolve_right (hx x List.mem_cons_self)
    exact hclean (fun y hy => hx y (List.mem_cons_of_mem x hy)) hfirst

end Inside

/-! ## The calls -/

section Calls

variable {host : Host} {c c' : Connection} {m m' m₁ : Machine} {f g : Feed} {gs : List Feed}
  {o : Outcome}

/-- What the end of `receive_data` does depends on the engine's result only in
so far as it is an error, or else says that all input was consumed. -/
theorem finishReceive_congr {n n' : Nat} {result result' : Int} (hall : result = n ↔ result' = n')
    (herror : result' = result ∨ 0 ≤ result ∧ 0 ≤ result') :
    finishReceive n result = finishReceive n' result' := by
  have hraise : raiseCallbackOrNative result = raiseCallbackOrNative result' := by
    obtain rfl | ⟨h, h'⟩ := herror
    · rfl
    · unfold raiseCallbackOrNative
      rw [if_neg (not_lt.mpr h), if_neg (not_lt.mpr h')]
  unfold finishReceive
  rw [hraise]
  simp only [hall, ne_eq]

/-- The machine inside a call of `receive_data` on a number of bytes. -/
def Machine.receivingOf (m : Machine) (length : Nat) (c : Connection) : Machine :=
  ⟨m.host, c, some (.receive length, m.conn.session)⟩

/-- **When `receive_data` enters the engine.** -/
theorem Machine.step_receiveData {data : Bytes} {env : Env} {is : List Issued} :
    m.step (.request (.receiveData data) env) = some (⟨.entered, is⟩, m₁) ↔
      m.drive = none ∧ m.conn.Usable ∧ is = [.call m.conn.session (.sessionMemRecv2 data)] ∧
        m₁ = m.receivingOf data.length { m.conn with callbackError := none } := by
  obtain ⟨host, c, drive⟩ := m
  cases drive with
  | some d => simp [Machine.step]
  | none =>
    show some (Machine.afterRequest ⟨host, c, none⟩ ((receiveData data).run env ⟨host, c, []⟩))
      = some (⟨.entered, is⟩, m₁) ↔ _
    unfold receiveData
    by_cases husable : c.Usable
    · simp [husable, Machine.afterRequest, Machine.receivingOf, eq_comm]
    · simp [husable, Machine.afterRequest]

/-- **A call of `receive_data`, with what comes first left out.** -/
theorem fed_iff : Fed m f o m' ↔
    m.drive = none ∧ m.conn.Usable ∧ ∃ c',
      Trace Machine.step (m.receivingOf f.data.length { m.conn with callbackError := none })
        (f.heard.map Heard.seen) (m.receivingOf f.data.length c') ∧
      (m.receivingOf f.data.length c').step (.ret f.result f.env) = some (o, m') := by
  constructor
  · rintro ⟨entered, made, ended⟩
    obtain ⟨hdrive, husable, -, rfl⟩ := Machine.step_receiveData.mp entered
    obtain ⟨c', rfl, -⟩ := Trace.heard made
    exact ⟨hdrive, husable, c', made, ended⟩
  · rintro ⟨hdrive, husable, c', made, ended⟩
    exact .intro (Machine.step_receiveData.mpr ⟨hdrive, husable, rfl, rfl⟩) made ended

/-- A call that returned, and did not announce the end, left what its callbacks
left. -/
theorem Machine.step_returned {n : Nat} {result : Int} {env : Env} {is : List Issued}
    (h : (m.receivingOf n c).step (.ret result env) = some (⟨.returned .none, is⟩, m'))
    (husable : m'.conn.Usable) : m' = ⟨m.host, c, none⟩ := by
  have hstep := Machine.stepped h
  generalize hp : ((⟨.returned .none, is⟩ : Outcome), m') = p at hstep
  cases hstep with
  | @ret _ _ d session q driven returned =>
    obtain ⟨ho, rfl⟩ := Prod.mk.inj hp
    cases driven
    cases returned with
    | received => rfl
    | receivedLast =>
      -- an announced end leaves the connection terminating
      exact absurd (show true = false from husable.2.2) (by simp)
    | failed | rejected | receivedUnannounced => simp at ho

/-- **Where the engine goes on**, the call returns and announces nothing. -/
theorem Machine.step_ret (m : Machine) (c : Connection) (hgoing : f.Going) : ∃ is,
    (m.receivingOf f.data.length c).step (.ret f.result f.env)
      = some (⟨.returned .none, is⟩, ⟨m.host, c, none⟩) := by
  obtain ⟨hall, hwants⟩ := hgoing
  rw [hall]
  show ∃ is, some (Machine.afterReturn (m.receivingOf f.data.length c)
    ((finishReceive f.data.length f.data.length).run f.env ⟨m.host, c, []⟩))
      = some (⟨.returned .none, is⟩, _)
  have hunfinished : ¬ c.Finished f.env := fun h => hwants h.2.2.2
  unfold finishReceive
  rw [run_bind, run_raiseCallbackOrNative_ok _ _ (Int.natCast_nonneg _)]
  by_cases hclosing : c.closing = true
  · obtain ⟨is, -, hrun⟩ := run_updateTerminalState m.host f.env c hclosing
    rw [if_neg hunfinished] at hrun
    exact ⟨is, by simp [hclosing, hrun, Machine.afterReturn, Machine.receivingOf]⟩
  · exact ⟨[], by simp [hclosing, Machine.afterReturn, Machine.receivingOf]⟩

/-- The end of a call, when other bytes were counted. -/
theorem Machine.step_ret_congr {n n' : Nat} {result result' : Int} {env : Env}
    (hall : result = n ↔ result' = n') (herror : result' = result ∨ 0 ≤ result ∧ 0 ≤ result')
    (h : (m.receivingOf n c).step (.ret result env) = some (o, m')) :
    (m.receivingOf n' c).step (.ret result' env) = some (o, m') := by
  replace h : some (Machine.afterReturn (m.receivingOf n c)
    ((finishReceive n result).run env ⟨m.host, c, []⟩)) = some (o, m') := h
  show some (Machine.afterReturn (m.receivingOf n' c)
    ((finishReceive n' result').run env ⟨m.host, c, []⟩)) = some (o, m')
  rw [finishReceive_congr hall herror] at h
  exact h

/-- A call that follows another is on the same session. -/
theorem Machine.receivingOf_again {c₁ : Connection} (hsession : c₁.session = m.conn.session)
    (n : Nat)
    (c : Connection) : Machine.receivingOf ⟨m.host, c₁, none⟩ n c = m.receivingOf n c := by
  unfold Machine.receivingOf
  rw [← hsession]

/-- It has no exception to forget. -/
theorem Connection.forget_eq (hnone : c.callbackError = none) :
    { c with callbackError := none } = c := by
  rw [← hnone]

/-- A call ends alike on its own and at the end of one that has other bytes
before its own. -/
theorem Machine.step_ret_append :
    (m.receivingOf (f.append g).data.length c).step (.ret (f.append g).result (f.append g).env)
        = some (o, m')
      ↔ (m.receivingOf g.data.length c).step (.ret g.result g.env) = some (o, m') := by
  have hlength : (f.append g).data.length = f.data.length + g.data.length := List.length_append
  have hall : (f.append g).result = ((f.append g).data.length : Int)
      ↔ g.result = (g.data.length : Int) := by
    show (if g.result < 0 then g.result else f.data.length + g.result) = _ ↔ _
    rw [hlength]
    split <;> omega
  have herror : (f.append g).result = g.result ∨ 0 ≤ g.result ∧ 0 ≤ (f.append g).result := by
    show (if g.result < 0 then g.result else f.data.length + g.result) = _ ∨
      _ ∧ 0 ≤ (if g.result < 0 then g.result else f.data.length + g.result)
    split <;> omega
  constructor
  · exact Machine.step_ret_congr hall (herror.imp Eq.symm And.symm)
  · exact Machine.step_ret_congr hall.symm herror

/-- **Two calls are one.** -/
theorem Fed.join {is : List Issued} (hclean : f.Clean) (hfirst : Fed m f ⟨.returned .none, is⟩ m₁)
    (hsecond : Fed m₁ g o m') : Fed m (f.append g) o m' := by
  obtain ⟨hdrive, husable, c₁, made, ended⟩ := fed_iff.mp hfirst
  obtain ⟨-, husable', c', made', ended'⟩ := fed_iff.mp hsecond
  obtain rfl : m₁ = ⟨m.host, c₁, none⟩ := Machine.step_returned ended husable'
  obtain ⟨c, hc, hinside, hnone, hothers⟩ := Trace.heard made
  obtain rfl : c₁ = c := congrArg Machine.conn hc
  rw [Machine.receivingOf_again hinside.session] at ended'
  rw [Machine.receivingOf_again hinside.session, Machine.receivingOf_again hinside.session,
    Connection.forget_eq (hnone hclean rfl)] at made'
  obtain ⟨c₂, hc', -, -, hothers'⟩ := Trace.heard made'
  obtain rfl : c' = c₂ := congrArg Machine.conn hc'
  let n := (f.append g).data.length
  refine fed_iff.mpr ⟨hdrive, husable, c', ?_, Machine.step_ret_append.mpr ended'⟩
  show Trace _ _ ((f.heard ++ g.heard).map _) _
  rw [List.map_append]
  exact Trace.append_iff.mpr ⟨_, hothers (.receive n), hothers' (.receive n)⟩

/-- **One call is two**, where the engine goes on at the cut. -/
theorem Fed.cut (hclean : f.Clean) (hgoing : f.Going) (h : Fed m (f.append g) o m') :
    ∃ is m₁, Fed m f ⟨.returned .none, is⟩ m₁ ∧ Fed m₁ g o m' := by
  obtain ⟨hdrive, husable, c', made, ended⟩ := fed_iff.mp h
  replace made : Trace _ _ ((f.heard ++ g.heard).map _) _ := made
  rw [List.map_append] at made
  obtain ⟨m₁, hfirst, hsecond⟩ := Trace.append_iff.mp made
  obtain ⟨c₁, rfl, hinside, hnone, hothers⟩ := Trace.heard hfirst
  obtain ⟨c, hc, -, -, hothers'⟩ := Trace.heard hsecond
  obtain rfl : c' = c := congrArg Machine.conn hc
  obtain ⟨is, hreturned⟩ := Machine.step_ret m c₁ hgoing
  have husable' : c₁.Usable := hinside.usable.mpr husable
  refine ⟨is, ⟨m.host, c₁, none⟩,
    fed_iff.mpr ⟨hdrive, husable, c₁, hothers (.receive f.data.length), hreturned⟩,
    fed_iff.mpr ⟨rfl, husable', c', ?_, ?_⟩⟩
  · rw [Machine.receivingOf_again hinside.session, Machine.receivingOf_again hinside.session]
    show Trace _ (m.receivingOf _ { c₁ with callbackError := none }) _ _
    rw [Connection.forget_eq (hnone hclean rfl)]
    exact hothers' (.receive g.data.length)
  · rw [Machine.receivingOf_again hinside.session]
    exact Machine.step_ret_append.mp ended

/-- **Calls one after the other are one.** -/
theorem FedAll.join (hclean : ∀ x ∈ (f :: gs).dropLast, x.Clean) (h : FedAll m f gs o m') :
    Fed m (Feed.whole f gs) o m' := by
  induction h with
  | last fed => exact fed
  | more first _ ih =>
    exact first.join (hclean _ List.mem_cons_self)
      (ih fun x hx => hclean x (List.mem_cons_of_mem _ hx))

/-- **One call is several**, where the engine goes on at every cut. -/
theorem Fed.cuts (hclean : ∀ x ∈ (f :: gs).dropLast, x.Clean)
    (hgoing : ∀ x ∈ (f :: gs).dropLast, x.Going) (h : Fed m (Feed.whole f gs) o m') :
    FedAll m f gs o m' := by
  induction gs generalizing m f with
  | nil => exact .last h
  | cons g gs ih =>
    obtain ⟨is, m₁, hfirst, hfurther⟩ :=
      Fed.cut (hclean f List.mem_cons_self) (hgoing f List.mem_cons_self) h
    exact .more hfirst (ih (fun x hx => hclean x (List.mem_cons_of_mem f hx))
      (fun x hx => hgoing x (List.mem_cons_of_mem f hx)) hfurther)

/-- Calls that differ in fragments do the same. -/
theorem Feed.Coalesces.fed_iff (h : f.Coalesces g) : Fed m f o m' ↔ Fed m g o m' := by
  rw [Ngh2.fed_iff, Ngh2.fed_iff, h.data, h.result, h.env]
  refine and_congr_right fun _ => and_congr_right fun _ => exists_congr fun c' => ?_
  exact and_congr_left fun _ => h.heard.trace

end Calls

/-- **How the input is cut does not matter.** What calls of `receive_data` one
after the other do, one call with all their bytes does, whatever fragments the
cuts make of a DATA payload: it returns or raises what the last of them does,
and the machine it leads to is the same. And where the engine goes on at every
cut, what one call does, the calls do. -/
theorem input_cuts_invisible {m m' : Machine} {f g : Feed} {fs : List Feed} {o : Outcome}
    (hclean : ∀ x ∈ (f :: fs).dropLast, x.Clean) (hsame : (Feed.whole f fs).Coalesces g) :
    (FedAll m f fs o m' → Fed m g o m') ∧
      ((∀ x ∈ (f :: fs).dropLast, x.Going) → Fed m g o m' → FedAll m f fs o m') := by
  constructor
  · intro h
    exact hsame.fed_iff.mp (h.join hclean)
  · intro hgoing h
    exact (hsame.fed_iff.mpr h).cuts hclean hgoing

/-- A server that has two bytes of DATA coming. -/
def awaiting : Machine where
  conn := { server := true, session := some 0, initialized := true, active := true }

/-- A callback that returned zero. -/
def heardOf (cb : Callback) : Heard := ⟨cb, .accepting [], ⟨.replied { code := 0 }, []⟩⟩

/-- The two bytes arrive in one call. -/
def oneRead : Feed where
  data := [0, 7, 8]
  heard := [heardOf (.beginFrame true 1 2), fragment 1 [7, 8] (.accepting []),
    heardOf (.frameReceived { streamId := 1, payload := .data })]
  result := 3
  env := .accepting [(.sessionWantRead, 1)]
  within := by decide

/-- They arrive in two, and the engine wants to read on after the first of them. -/
def firstRead : Feed where
  data := [0, 7]
  heard := [heardOf (.beginFrame true 1 2), fragment 1 [7] (.accepting [])]
  result := 2
  env := .accepting [(.sessionWantRead, 1)]
  within := by decide

/-- The second of the two, with the end of the frame. -/
def secondRead : Feed where
  data := [8]
  heard := [fragment 1 [8] (.accepting []),
    heardOf (.frameReceived { streamId := 1, payload := .data })]
  result := 1
  env := .accepting [(.sessionWantRead, 1)]
  within := by decide

/-- Either way there is one event. -/
theorem input_cuts_invisible_twoReads :
    ∃ o m', Fed awaiting oneRead o m' ∧ FedAll awaiting firstRead [secondRead] o m' ∧
      m'.conn.events = [.dataReceived 1 [7, 8] false] := by
  obtain ⟨o, m', hfed, hevents⟩ : ∃ o m', Fed awaiting oneRead o m' ∧
      m'.conn.events = [.dataReceived 1 [7, 8] false] :=
    ⟨_, _, .intro rfl (.more rfl (.more rfl (.more rfl (.done _)))) rfl, rfl⟩
  have hsame : (Feed.whole firstRead [secondRead]).Coalesces oneRead :=
    ⟨rfl, .same (.join (.same (.same .nil))), rfl, rfl⟩
  have hclean : ∀ x ∈ [firstRead, secondRead].dropLast, x.Clean := by
    intro x hx
    obtain rfl := List.mem_singleton.mp hx
    intro y hy
    simp only [firstRead, List.mem_cons, List.not_mem_nil, or_false] at hy
    rcases hy with rfl | rfl <;> exact fun h => absurd h (by decide)
  have hgoing : ∀ x ∈ [firstRead, secondRead].dropLast, x.Going := by
    intro x hx
    obtain rfl := List.mem_singleton.mp hx
    exact ⟨rfl, by decide⟩
  exact ⟨o, m', hfed, (input_cuts_invisible hclean hsame).2 hgoing hfed, hevents⟩

end Ngh2
