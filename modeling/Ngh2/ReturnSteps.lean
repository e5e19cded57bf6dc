import Ngh2.CallbackSteps

/-!
# What the return of an engine function does

The three operations that hand control to the engine continue when it comes
back. `Returned host env c d result` lists what they can do then. A negative
result always raises, and `data_to_send` turns every exception of this part
into a failure, since the native output has advanced; the two others invalidate
the connection for a deferred exception and for a fatal code only.

The end of a connection is also found here. `Connection.Finished` says when
`_update_terminal_state` announces it.
-/

namespace Ngh2

open Nghttp2 Effect

/-- **The protocol is finished**: a GOAWAY was exchanged, the end was not yet
announced, and the engine wants neither to read nor to write. -/
def Connection.Finished (c : Connection) (env : Env) : Prop :=
  c.closing = true ∧ c.active = true ∧ c.closed = false ∧
    env.reply .sessionWantRead = 0 ∧ env.reply .sessionWantWrite = 0

instance (c : Connection) (env : Env) : Decidable (c.Finished env) :=
  inferInstanceAs (Decidable (_ ∧ _))

/-- The connection after the announcement of its end. -/
def Connection.announced (c : Connection) : Connection :=
  { c.terminate with
    events := c.events ++ [.connectionClosed c.closeErrorCode c.closeDebugData] }

@[simp] theorem Connection.announced_server (c : Connection) : c.announced.server = c.server := rfl

@[simp] theorem Connection.announced_initialized (c : Connection) :
    c.announced.initialized = c.initialized := rfl

@[simp] theorem Connection.announced_maxSendDataFrameSize (c : Connection) :
    c.announced.maxSendDataFrameSize = c.maxSendDataFrameSize := rfl

/-- The connection after its staged output was taken. -/
def Connection.outputTaken (c : Connection) : Connection :=
  { c with output := none, outputRemaining := 0 }

/-- The calls by which `_update_terminal_state` asks whether the protocol is
finished. -/
def Wanting (c : Connection) (issued : List Issued) : Prop :=
  ∀ i ∈ issued, ∃ q, i = .call c.session q ∧ q.isQuery = true

/-- The calls of a return that failed: the same questions, or the settings of a
server that was upgraded. -/
def Resumed (c : Connection) (issued : List Issued) : Prop :=
  ∀ i ∈ issued, ∃ q, i = .call c.session q ∧
    (q.isQuery = true ∨ ∃ entries, q = .submitSettings entries)

/-- **What the return of an engine function does**: the result of the
operation, and the world it leaves. -/
inductive Returned (host : Host) (env : Env) (c : Connection) :
    Drive → Int → Except PyError Value × World → Prop
  /-- It raised, and invalidated the connection. -/
  | failed {d : Drive} {result : Int} {e : PyError} {is : List Issued}
      (calls : Resumed c is) :
      Returned host env c d result (.error e, (World.mk host c is).failed)
  /-- `receive_data` or `initiate_upgrade` raised for a code that is not fatal,
  or for one whose exception could not be made. -/
  | rejected {d : Drive} {result : Int} (negative : result < 0)
      (mild : isFatal result = true → env.alloc .exception = false)
      (clean : c.callbackError = none) (kind : d ≠ .send) :
      Returned host env c d result
        (.error (if env.alloc .exception then nghttp2Error host result else .memoryError ""),
          ⟨host, c, []⟩)
  /-- `initiate_upgrade` activated the connection. -/
  | upgraded {entries : List (Nat × Nat)} {result : Int} (nonnegative : 0 ≤ result) :
      Returned host env c (.upgrade entries) result
        (.ok .none,
          ⟨host, { c with
              localExtensiblePriority := if c.server then decide ((9, 1) ∈ entries)
                else c.localExtensiblePriority
              active := true },
            if c.server then [.call c.session (.submitSettings entries)] else []⟩)
  /-- `receive_data` processed its input, and the protocol is not finished. -/
  | received {length : Nat} {is : List Issued} (going : ¬ c.Finished env)
      (calls : Wanting c is) :
      Returned host env c (.receive length) length (.ok .none, ⟨host, c, is⟩)
  /-- `receive_data` processed its input and announced the end. -/
  | receivedLast {length : Nat} {is : List Issued} (finished : c.Finished env)
      (calls : Wanting c is) :
      Returned host env c (.receive length) length (.ok .none, ⟨host, c.announced, is⟩)
  /-- `receive_data` processed its input and could not create the event that
  announces the end. -/
  | receivedUnannounced {length : Nat} {is : List Issued} (finished : c.Finished env)
      (exhausted : env.alloc .object = false) (calls : Wanting c is) :
      Returned host env c (.receive length) length
        (.error (.memoryError ""), ⟨host, c.terminate, is⟩)
  /-- `data_to_send` returned the staged bytes, and the protocol is not
  finished. -/
  | sent {result : Int} {is : List Issued} (nonnegative : 0 ≤ result)
      (going : ¬ c.Finished env) (calls : Wanting c is) :
      Returned host env c .send result
        (.ok (.bytes ((staged c.output).take c.outputSize)), ⟨host, c.outputTaken, is⟩)
  /-- `data_to_send` returned the staged bytes and announced the end. -/
  | sentLast {result : Int} {is : List Issued} (nonnegative : 0 ≤ result)
      (finished : c.Finished env) (calls : Wanting c is) :
      Returned host env c .send result
        (.ok (.bytes ((staged c.output).take c.outputSize)),
          ⟨host, c.announced.outputTaken, is⟩)
  /-- `data_to_send` announced the end, could not trim its output, and failed. -/
  | sentThenFailed {result : Int} {is : List Issued} (nonnegative : 0 ≤ result)
      (finished : c.Finished env) (staging : c.output ≠ none)
      (exhausted : env.alloc (.trim c.outputSize) = false) (calls : Wanting c is)
      (created : env.alloc .object = true) :
      Returned host env c .send result
        (.error (.memoryError ""), (World.mk host c.announced is).failed)

section Proofs

variable (host : Host) (env : Env) (c : Connection)

theorem Wanting.nil : Wanting c [] := fun _ hi => absurd hi List.not_mem_nil

theorem Resumed.nil : Resumed c [] := fun _ hi => absurd hi List.not_mem_nil

variable {c} in
theorem Wanting.resumed {is : List Issued} (h : Wanting c is) : Resumed c is := by
  intro i hi
  obtain ⟨q, hq, hquery⟩ := h i hi
  exact ⟨q, hq, .inl hquery⟩

/-- `_update_terminal_state`, on a connection that exchanged a GOAWAY. -/
theorem run_updateTerminalState (hc : c.closing = true) :
    ∃ is, Wanting c is ∧ updateTerminalState.run env ⟨host, c, []⟩
      = if c.Finished env then
          if env.alloc .object then (.ok (), ⟨host, c.announced, is⟩)
          else (.error (.memoryError ""), ⟨host, c.terminate, is⟩)
        else (.ok (), ⟨host, c, is⟩) := by
  have hread : Wanting c [.call c.session .sessionWantRead] := by
    intro i hi
    exact ⟨_, List.mem_singleton.mp hi, rfl⟩
  have hboth : Wanting c
      [.call c.session .sessionWantRead, .call c.session .sessionWantWrite] := by
    intro i hi
    rcases List.mem_cons.mp hi with rfl | hi
    · exact ⟨_, rfl, rfl⟩
    · exact ⟨_, List.mem_singleton.mp hi, rfl⟩
  unfold updateTerminalState Connection.Finished
  by_cases ha : c.active = true
  · by_cases hcl : c.closed = true
    · exact ⟨[], .nil c, by simp [ha, hcl]⟩
    · by_cases hr : env.reply .sessionWantRead = 0
      · by_cases hw : env.reply .sessionWantWrite = 0
        · refine ⟨_, hboth, ?_⟩
          cases hal : env.alloc .object with
          | true =>
            simp [ha, hcl, hr, hw, hc, hal, Connection.announced, Connection.terminate]
            rfl
          | false => simp [ha, hcl, hr, hw, hc, hal, Connection.terminate]
        · exact ⟨_, hboth, by simp [ha, hcl, hr, hw]⟩
      · exact ⟨_, hread, by simp [ha, hcl, hr]⟩
  · exact ⟨[], .nil c, by simp [ha]⟩

/-- The two operations that do not fail for every exception, at a negative
result. -/
theorem returned_negative {d : Drive} (hd : d ≠ .send) {result : Int} (hn : result < 0)
    {f : Unit → M Value} :
    Returned host env c d result ((raiseCallbackOrNative result >>= f).run env ⟨host, c, []⟩) := by
  rw [run_bind]
  cases he : c.callbackError with
  | some e =>
    rw [run_raiseCallbackOrNative_deferred env ⟨host, c, []⟩ hn he]
    exact .failed (.nil c)
  | none =>
    rw [run_raiseCallbackOrNative_native env ⟨host, c, []⟩ hn he]
    have hrejected (hm : isFatal result = true → env.alloc .exception = false) :
        Returned host env c d result _ := .rejected hn hm he hd
    cases ha : env.alloc .exception with
    | false =>
      rw [ha] at hrejected
      exact hrejected fun _ => rfl
    | true =>
      rw [ha] at hrejected
      cases hf : isFatal result with
      | true => exact .failed (.nil c)
      | false => exact hrejected fun h => absurd h (by simp [hf])

theorem returned_finishUpgrade (entries : List (Nat × Nat)) (result : Int) :
    Returned host env c (.upgrade entries) result
      ((finishUpgrade entries result).run env ⟨host, c, []⟩) := by
  unfold finishUpgrade
  by_cases hn : result < 0
  · exact returned_negative host env c (d := .upgrade entries) (by simp) hn
  have hdone : Returned host env c (.upgrade entries) result _ := .upgraded (not_lt.mp hn)
  rw [run_bind, run_raiseCallbackOrNative_ok env _ (not_lt.mp hn)]
  dsimp only
  rw [run_bind, run_conn]
  dsimp only
  cases hs : c.server with
  | false =>
    rw [if_neg (by simp [hs]), if_neg (by simp [hs])] at hdone
    exact hdone
  | true =>
    rw [if_pos hs, if_pos hs] at hdone
    rw [if_pos rfl, run_bind, run_ask]
    dsimp only
    by_cases hr : env.reply (.submitSettings entries) < 0
    · rw [if_pos hr, run_bind, run_fail]
      refine .failed (c := c) fun i hi => ?_
      exact ⟨_, List.mem_singleton.mp hi, .inr ⟨_, rfl⟩⟩
    · rw [if_neg hr]
      exact hdone

theorem returned_finishReceive (length : Nat) (result : Int) :
    Returned host env c (.receive length) result
      ((finishReceive length result).run env ⟨host, c, []⟩) := by
  unfold finishReceive
  by_cases hn : result < 0
  · exact returned_negative host env c (d := .receive length) (by simp) hn
  rw [run_bind, run_raiseCallbackOrNative_ok env _ (not_lt.mp hn)]
  dsimp only
  by_cases hl : result = length
  · subst hl
    rw [if_neg (by simp), run_bind, run_conn]
    dsimp only
    cases hc : c.closing with
    | false =>
      exact .received (by simp [Connection.Finished, hc]) (.nil c)
    | true =>
      obtain ⟨is, hcalls, hrun⟩ := run_updateTerminalState host env c hc
      rw [if_pos rfl, run_bind, hrun]
      by_cases hfin : c.Finished env
      · rw [if_pos hfin]
        cases hal : env.alloc .object with
        | true => exact .receivedLast hfin hcalls
        | false => exact .receivedUnannounced hfin hal hcalls
      · rw [if_neg hfin]
        exact .received hfin hcalls
  · rw [if_pos hl, run_bind, run_fail]
    exact .failed (.nil c)

/-- Taking the staged output trims it to its size, or raises with the buffer
released. -/
theorem run_takeOutput (w : World) :
    takeOutput.run env w
      = if w.conn.output ≠ none ∧ env.alloc (.trim w.conn.outputSize) = false then
          (.error (.memoryError ""), { w with conn := { w.conn with output := none } })
        else (.ok ((staged w.conn.output).take w.conn.outputSize),
          { w with conn := { w.conn with output := none } }) := by
  unfold takeOutput staged
  cases ho : w.conn.output with
  | none =>
    have hsame : ({ w with conn := { w.conn with output := none } } : World) = w := by
      rw [← ho]
    simp [ho, hsame]
  | some buffer => cases ha : env.alloc (.trim w.conn.outputSize) <;> simp [ho, ha]

/-- Failing twice is failing once: the session is already gone. -/
theorem World.failed_failed (w : World) : w.failed.failed = w.failed := by
  have hissued : w.failed.failed.issued = w.failed.issued ++ [] := rfl
  rw [List.append_nil] at hissued
  exact congrArg (World.mk w.host w.conn.invalidate) hissued

/-- The shape of the end of `data_to_send`: what is raised before the output
is taken invalidates the connection. -/
theorem run_finishSend (w : World) (result : Int) :
    (finishSend result).run env w
      = match Effect.run (do
          raiseCallbackOrNative result
          if (← conn).closing then updateTerminalState
          takeOutput) env w with
        | (.ok output, w') =>
          (.ok (.bytes output), { w' with conn := { w'.conn with outputRemaining := 0 } })
        | (.error e, w') => (.error e, w'.failed) := by
  unfold finishSend
  rw [run_bind, run_attempt]
  rcases Effect.run (do
    raiseCallbackOrNative result
    if (← conn).closing then updateTerminalState
    takeOutput) env w with ⟨e | output, w'⟩
  · dsimp only
    rw [run_bind, run_fail]
    rfl
  · rfl

theorem returned_finishSend (result : Int) :
    Returned host env c .send result ((finishSend result).run env ⟨host, c, []⟩) := by
  rw [run_finishSend]
  by_cases hn : result < 0
  · rw [run_bind]
    cases he : c.callbackError with
    | some e =>
      rw [run_raiseCallbackOrNative_deferred env ⟨host, c, []⟩ hn he]
      dsimp only
      rw [World.failed_failed]
      exact .failed (.nil c)
    | none =>
      rw [run_raiseCallbackOrNative_native env ⟨host, c, []⟩ hn he]
      cases env.alloc .exception with
      | false => exact .failed (.nil c)
      | true =>
        rw [if_pos rfl]
        dsimp only
        split
        · rw [World.failed_failed]
          exact .failed (.nil c)
        · exact .failed (.nil c)
  · have hpos := not_lt.mp hn
    rw [run_bind, run_raiseCallbackOrNative_ok env _ hpos]
    dsimp only
    rw [run_bind, run_conn]
    dsimp only
    cases hc : c.closing with
    | false =>
      have hgoing : ¬ c.Finished env := by simp [Connection.Finished, hc]
      rw [if_neg (by simp), run_takeOutput]
      by_cases ht : c.output ≠ none ∧ env.alloc (.trim c.outputSize) = false
      · rw [if_pos ht]
        exact .failed (c := c) (.nil c)
      · rw [if_neg ht]
        exact .sent hpos hgoing (.nil c)
    | true =>
      obtain ⟨is, hcalls, hrun⟩ := run_updateTerminalState host env c hc
      rw [if_pos rfl, run_bind, hrun]
      by_cases hfin : c.Finished env
      · rw [if_pos hfin]
        cases hal : env.alloc .object with
        | true =>
          rw [if_pos rfl]
          dsimp only
          rw [run_takeOutput]
          by_cases ht : c.output ≠ none ∧ env.alloc (.trim c.outputSize) = false
          · rw [if_pos (c := c.announced.output ≠ none ∧
              env.alloc (.trim c.announced.outputSize) = false) ht]
            exact .sentThenFailed hpos hfin ht.1 ht.2 hcalls hal
          · rw [if_neg (c := c.announced.output ≠ none ∧
              env.alloc (.trim c.announced.outputSize) = false) ht]
            exact .sentLast hpos hfin hcalls
        | false => exact .failed (c := c) hcalls.resumed
      · rw [if_neg hfin]
        dsimp only
        rw [run_takeOutput]
        by_cases ht : c.output ≠ none ∧ env.alloc (.trim c.outputSize) = false
        · rw [if_pos ht]
          exact .failed (c := c) hcalls.resumed
        · rw [if_neg ht]
          exact .sent hpos hfin hcalls

/-- **The return of an engine function does one of the things listed.** -/
theorem returned (d : Drive) (result : Int) :
    Returned host env c d result ((d.finish result).run env ⟨host, c, []⟩) := by
  cases d with
  | send => exact returned_finishSend host env c result
  | receive length => exact returned_finishReceive host env c length result
  | upgrade entries => exact returned_finishUpgrade host env c entries result

variable {host env c} in
/-- **A return asks the engine nothing but what it is for.** -/
theorem Returned.asks {d : Drive} {result : Int} {p : Except PyError Value × World}
    (h : Returned host env c d result p) {session : Option SessionId} {q : EngineCall}
    (hi : .call session q ∈ p.2.issued) :
    session = c.session ∧ (q.isQuery = true ∨ ∃ entries, q = .submitSettings entries) := by
  have hcalls {is : List Issued} (h : Resumed c is) (hi : .call session q ∈ is) :
      session = c.session ∧ (q.isQuery = true ∨ ∃ entries, q = .submitSettings entries) := by
    obtain ⟨q', heq, hq⟩ := h _ hi
    obtain ⟨rfl, rfl⟩ := Issued.call.inj heq
    exact ⟨rfl, hq⟩
  have hdeleted {o : Option SessionId} : .call session q ∉ o.toList.map Issued.deleted := by
    simp
  cases h with
  | failed calls => exact hcalls calls ((List.mem_append.mp hi).resolve_right hdeleted)
  | sentThenFailed _ _ _ _ calls =>
    exact hcalls calls.resumed ((List.mem_append.mp hi).resolve_right hdeleted)
  | rejected => exact absurd hi List.not_mem_nil
  | upgraded =>
    dsimp only at hi
    split at hi
    · obtain ⟨rfl, rfl⟩ := Issued.call.inj (List.mem_singleton.mp hi)
      exact ⟨rfl, .inr ⟨_, rfl⟩⟩
    · exact absurd hi List.not_mem_nil
  | received _ calls => exact hcalls calls.resumed hi
  | receivedLast _ calls => exact hcalls calls.resumed hi
  | receivedUnannounced _ _ calls => exact hcalls calls.resumed hi
  | sent _ _ calls => exact hcalls calls.resumed hi
  | sentLast _ _ calls => exact hcalls calls.resumed hi

end Proofs

end Ngh2
