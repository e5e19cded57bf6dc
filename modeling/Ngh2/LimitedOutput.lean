import Ngh2.Staging
import Ngh2.TwoPaths

/-!
# The outbound callbacks under a limit

What each outbound callback and the end of `data_to_send` do where allocations
succeed, as equations: given what was staged so far and what is left of the
limit, what is staged afterwards and what is left then. A limit may be absent,
and bytes are split into those `within` it and those `beyond` it.
-/

namespace Ngh2

open Effect Nghttp2

/-! ## Limits -/

/-- The field for a limit. -/
def allowance : Option Nat → Int
  | none => -1
  | some n => n

/-- What is left of a limit after some bytes. -/
def spend (limit : Option Nat) (n : Nat) : Option Nat := limit.map (· - n)

/-- The bytes within a limit. -/
def within (limit : Option Nat) (data : Bytes) : Bytes :=
  match limit with
  | none => data
  | some n => data.take n

/-- The bytes beyond a limit. -/
def beyond (limit : Option Nat) (data : Bytes) : Bytes :=
  match limit with
  | none => []
  | some n => data.drop n

section Splitting

variable {limit : Option Nat}

@[simp] theorem spend_zero : spend limit 0 = limit := by
  cases limit <;> rfl

/-- Every byte is within a limit or beyond it. -/
theorem within_append_beyond (limit : Option Nat) (data : Bytes) :
    within limit data ++ beyond limit data = data := by
  cases limit with
  | none => exact List.append_nil data
  | some n => exact List.take_append_drop n data

theorem length_within_add_beyond (limit : Option Nat) (data : Bytes) :
    (within limit data).length + (beyond limit data).length = data.length := by
  rw [← List.length_append, within_append_beyond]

theorem length_within_le_length (limit : Option Nat) (data : Bytes) :
    (within limit data).length ≤ data.length :=
  length_within_add_beyond limit data ▸ Nat.le_add_right _ _

theorem length_beyond_le (limit : Option Nat) (data : Bytes) :
    (beyond limit data).length ≤ data.length :=
  length_within_add_beyond limit data ▸ Nat.le_add_left _ _

@[simp] theorem within_nil : within limit [] = [] := by
  cases limit <;> simp [within]

@[simp] theorem beyond_nil : beyond limit [] = [] := by
  cases limit <;> simp [beyond]

/-- What is within a limit that allows the first bytes. -/
theorem within_append {data : Bytes} (h : ∀ n, limit = some n → data.length ≤ n) (rest : Bytes) :
    within limit (data ++ rest) = data ++ within (spend limit data.length) rest := by
  cases limit with
  | none => rfl
  | some n =>
    show (data ++ rest).take n = data ++ rest.take (n - data.length)
    rw [List.take_append, List.take_of_length_le (h n rfl)]

/-- There is no less within a limit of what is longer. -/
theorem length_within_le (data rest : Bytes) :
    (within limit data).length ≤ (within limit (data ++ rest)).length := by
  cases limit with
  | none => simp [within]
  | some n =>
    show (data.take n).length ≤ ((data ++ rest).take n).length
    rw [List.take_append, List.length_append]
    exact Nat.le_add_right _ _

/-- What is beyond a limit that allows the first bytes. -/
theorem beyond_append {data : Bytes} (h : ∀ n, limit = some n → data.length ≤ n) (rest : Bytes) :
    beyond limit (data ++ rest) = beyond (spend limit data.length) rest := by
  cases limit with
  | none => rfl
  | some n =>
    show (data ++ rest).drop n = rest.drop (n - data.length)
    rw [List.drop_append, List.drop_eq_nil_of_le (h n rfl), List.nil_append]

end Splitting

section Callbacks

variable {host : Host} {env : Env} {session : Option SessionId} {c : Connection}
  {output : Option Buffer} {staging : Bytes} {limit : Option Nat}

/-- `_reserve_output` makes room where memory lasts and the bytes can be
addressed. -/
theorem run_reserveOutput_lasting (halloc : ∀ a, env.alloc a = true) {w : World} {length : Nat}
    (hfits : w.conn.outputSize + length ≤ w.host.pointerWidth.ssizeMax) :
    ∃ output, (reserveOutput length).run env w
        = (.ok w.conn.outputSize, { w with conn := { w.conn with
            output, outputSize := w.conn.outputSize + length } }) ∧
      staged w.conn.output = staged output ∧ w.conn.outputSize + length ≤ room output := by
  have hlarge : ¬ w.host.pointerWidth.ssizeMax - w.conn.outputSize < length := by omega
  unfold reserveOutput
  by_cases hgrow : room w.conn.output < w.conn.outputSize + length
  · let size := grownSize w.host.pointerWidth (room w.conn.output) (w.conn.outputSize + length)
    refine ⟨some { capacity := size, written := staged w.conn.output }, ?_, rfl, le_grownSize _ _ _⟩
    simp [resizeOutput, hlarge, hgrow, size, halloc]
  · exact ⟨w.conn.output, by simp [hlarge, hgrow], rfl, not_lt.mp hgrow⟩

/-- `_collect_output` refuses everything at a spent limit. -/
theorem run_collectOutput_spent (data : Bytes) :
    ((Callback.collectOutput data).body session).run env
        ⟨host, c.withOutput output staging.length (allowance (some 0)), []⟩
      = (.ok { code := errWouldblock },
          ⟨host, c.withOutput output staging.length (allowance (some 0)), []⟩) := rfl

theorem spendOutput_allowance (c : Connection) (output : Option Buffer) (size : Nat) {n : Nat}
    (h : ∀ r, limit = some r → n ≤ r) :
    (c.withOutput output size (allowance limit)).spendOutput n
      = c.withOutput output size (allowance (spend limit n)) := by
  cases limit with
  | none => rfl
  | some r =>
    have hle := h r rfl
    have hcast : ((r - n : Nat) : Int) = r - n := by omega
    simp [Connection.spendOutput, Connection.withOutput, allowance, spend, hcast]

theorem allowance_ne_zero (h : limit ≠ some 0) : allowance limit ≠ 0 := by
  cases limit with
  | none => exact fun h => absurd (show (-1 : Int) = 0 from h) (by decide)
  | some r => exact fun hzero => h (congrArg some (Int.ofNat.inj hzero))

/-- **`_collect_output` stages what the limit allows.** -/
theorem run_collectOutput (halloc : ∀ a, env.alloc a = true) (hstaged : staged output = staging)
    (hlimit : limit ≠ some 0) {data : Bytes}
    (hfits : staging.length + (within limit data).length ≤ host.pointerWidth.ssizeMax) :
    ∃ output', staged output' = staging ++ within limit data ∧
      ((Callback.collectOutput data).body session).run env
          ⟨host, c.withOutput output staging.length (allowance limit), []⟩
        = (.ok { code := ((within limit data).length : Nat) },
            ⟨host, c.withOutput output' (staging ++ within limit data).length
              (allowance (spend limit (within limit data).length)), []⟩) := by
  have hspent : (c.withOutput output staging.length (allowance limit)).outputRemaining ≠ 0 :=
    allowance_ne_zero hlimit
  have haccepted : (c.withOutput output staging.length (allowance limit)).acceptable data.length
      = (within limit data).length := by
    cases limit with
    | none => rfl
    | some r => simp [Connection.acceptable, Connection.withOutput, allowance, within, min_comm]
  have htake : data.take (within limit data).length = within limit data := by
    cases limit with
    | none => exact List.take_length
    | some r => simp [within]
  have hle (r : Nat) (h : limit = some r) : (within limit data).length ≤ r := by
    subst h
    exact List.length_take_le r data
  obtain ⟨output', hrun, hkept, hroom⟩ := run_reserveOutput_lasting halloc
    (w := ⟨host, c.withOutput output staging.length (allowance limit), []⟩) hfits
  refine ⟨output'.map (·.memcpy staging.length (within limit data)), ?_, ?_⟩
  · have happend : _ = staged output ++ data.take (within limit data).length :=
      staged_collected (congrArg List.length hstaged) hkept hroom
    rw [htake, hstaged] at happend
    exact happend
  · show Effect.run (do
      return ({ code := ← collectOutput data } : Reply)) env _ = _
    unfold collectOutput
    rw [run_bind, run_bind, run_conn]
    dsimp only
    rw [if_neg hspent, haccepted, run_attempt]
    unfold stageBytes
    rw [run_bind, hrun]
    dsimp only
    rw [htake]
    have hspend := spendOutput_allowance c
      (output'.map (·.memcpy staging.length (within limit data)))
      (staging.length + (within limit data).length) hle
    rw [List.length_append]
    exact congrArg (fun c => ((.ok { code := ((within limit data).length : Nat) }, ⟨host, c, []⟩) :
      Except PyError Reply × World)) hspend

/-- **`_send_body` stages a whole frame** that is within the limit. -/
theorem run_sendBody (halloc : ∀ a, env.alloc a = true) (hstaged : staged output = staging)
    {s : StreamId} {header : FrameHeader} {n : Nat} {body : BodySource} {t : CopyState}
    (hb : c.bodies.lookup s = some body) (hlimit : ∀ r, limit = some r → n + 9 ≤ r)
    (hfits : staging.length + (n + 9) ≤ host.pointerWidth.ssizeMax)
    (hcopy : copyLoop host.pointerWidth n (body.chunks.length - body.head)
      { body, queued := c.queuedBodySize } = (.ok (), t)) (hfull : t.copied.length = n) :
    ∃ output', staged output' = staging ++ (header.val ++ t.copied) ∧
      ((Callback.sendBody s 0 header n).body session).run env
          ⟨host, c.withOutput output staging.length (allowance limit), []⟩
        = (.ok { code := 0 }, ⟨host, Connection.withOutput { c with
            bodies := c.bodies.insert s t.body.compact, queuedBodySize := t.queued }
            output' (staging ++ (header.val ++ t.copied)).length (allowance (spend limit (n + 9))),
            []⟩) := by
  have hmode : ¬ ((0 : Nat) ≠ 0 ∨
      (0 ≤ (c.withOutput output staging.length (allowance limit)).outputRemaining ∧
        (c.withOutput output staging.length (allowance limit)).outputRemaining < n + 9)) := by
    rintro (h | ⟨hnonneg, hless⟩)
    · exact h rfl
    · cases limit with
      | none => exact absurd (show (0 : Int) ≤ -1 from hnonneg) (by decide)
      | some r =>
        have hle := hlimit r rfl
        have hless : (r : Int) < n + 9 := hless
        omega
  have hlarge : ¬ host.pointerWidth.ssizeMax - 9 < n := by omega
  obtain ⟨output', hrun, hkept, hroom⟩ := run_reserveOutput_lasting halloc
    (w := ⟨host, c.withOutput output staging.length (allowance limit), []⟩) hfits
  have hsize : (staging ++ (header.val ++ t.copied)).length = staging.length + (n + 9) := by
    rw [List.length_append, List.length_append, header.property, hfull, Nat.add_comm n 9]
  refine ⟨(output'.map (·.memcpy staging.length header.val)).map
    (·.memcpy (staging.length + 9) t.copied), ?_, ?_⟩
  · rw [Option.map_map]
    have happend : _ = staged output ++ header.val ++ t.copied :=
      staged_bodySent (congrArg List.length hstaged) hkept (hfull.symm ▸ hroom)
    rw [hstaged, List.append_assoc] at happend
    exact happend
  · show Effect.run (do
      return ({ code := ← attempt (stageFrame s 0 header n) callbackFailed } : Reply)) env _ = _
    rw [run_bind, run_attempt]
    unfold stageFrame
    rw [run_bind, run_conn]
    dsimp only
    rw [run_bind, run_raiseIf, if_neg hmode]
    dsimp only
    have hopened : (bodyOf s).run env
      ⟨host, c.withOutput output staging.length (allowance limit), []⟩
        = (.ok body, _) := run_bodyOf env _ hb
    rw [run_bind, hopened]
    dsimp only
    rw [run_bind, run_host]
    dsimp only
    rw [run_bind, run_raiseIf, if_neg hlarge]
    dsimp only
    rw [run_bind, hrun]
    dsimp only
    unfold writeOutput
    rw [run_bind, run_update]
    dsimp only
    rw [run_bind, run_copyBody]
    dsimp only [Connection.withOutput]
    rw [hcopy]
    dsimp only
    rw [run_bind, run_update]
    dsimp only
    rw [run_bind, run_raiseIf, if_neg (not_not.mpr hfull)]
    have hspend := spendOutput_allowance
      { c with bodies := c.bodies.insert s t.body.compact, queuedBodySize := t.queued }
      ((output'.map (·.memcpy staging.length header.val)).map
        (·.memcpy (staging.length + 9) t.copied)) (staging.length + (n + 9)) hlimit
    rw [hsize]
    exact congrArg (fun c => ((.ok { code := 0 }, ⟨host, c, []⟩) : Except PyError Reply × World))
      hspend

/-- What `_data_frame_length` proposes. -/
def Connection.proposed (c : Connection) (streamId : StreamId) (remoteMaxFrameSize : Nat) : Nat :=
  match c.bodies.lookup streamId with
  | none => min c.maxSendDataFrameSize remoteMaxFrameSize
  | some body => max 1 (min (min c.maxSendDataFrameSize remoteMaxFrameSize) body.queuedSize)

/-- `_data_frame_length` proposes it, whatever the limit. -/
theorem run_proposed (output : Option Buffer) (size : Nat) (remaining : Int) (s : StreamId)
    (sessionWindow streamWindow : Int) (frameSize : Nat) :
    ((Callback.dataFrameLength s sessionWindow streamWindow frameSize).body session).run env
        ⟨host, c.withOutput output size remaining, []⟩
      = (.ok { code := (c.proposed s frameSize : Nat) },
          ⟨host, c.withOutput output size remaining, []⟩) := by
  show Effect.run (do
    return ({ code := ← dataFrameLength s frameSize } : Reply)) env _ = _
  unfold dataFrameLength Connection.proposed
  rw [run_bind, run_bind, run_conn]
  dsimp only [Connection.withOutput]
  cases c.bodies.lookup s <;> rfl

/-- `_read_body` pauses at a spent limit. -/
theorem run_readBody_spent (s : StreamId) (length : Nat) :
    ((Callback.readBody s length).body session).run env
        ⟨host, c.withOutput output staging.length (allowance (some 0)), []⟩
      = (.ok { code := errPause },
          ⟨host, c.withOutput output staging.length (allowance (some 0)), []⟩) := rfl

/-- A frame fits what is left of a limit, or there is none. -/
theorem allowance_fits_iff {n : Nat} :
    (allowance limit < 0 ∨ (n : Int) + 9 ≤ allowance limit) ↔ ∀ r, limit = some r → n + 9 ≤ r := by
  cases limit with
  | none =>
    have hnone : allowance none < 0 := by decide
    simp [hnone]
  | some r =>
    show ((r : Int) < 0 ∨ (n : Int) + 9 ≤ r) ↔ _
    constructor
    · rintro h m hm
      obtain rfl := Option.some_inj.mp hm
      omega
    · intro h
      have := h r rfl
      omega

/-- The connection that `data_to_send` leaves: the end may be announced. -/
def Connection.settled (c : Connection) (env : Env) : Connection :=
  if c.Finished env then c.announced else c

/-- **`data_to_send` takes what was staged.** -/
theorem run_finishSend_lasting (halloc : ∀ a, env.alloc a = true)
    (hstaged : staged output = staging)
    {result : Int} (hresult : 0 ≤ result) (remaining : Int) :
    ∃ is, (finishSend result).run env ⟨host, c.withOutput output staging.length remaining, []⟩
      = (.ok (.bytes staging),
          ⟨host, (c.settled env).withOutput none staging.length 0, is⟩) := by
  have htake (c : Connection) (is : List Issued) :
      takeOutput.run env ⟨host, c.withOutput output staging.length remaining, is⟩
        = (.ok staging, ⟨host, c.withOutput none staging.length remaining, is⟩) := by
    rw [run_takeOutput, if_neg (by simp [halloc])]
    show (Except.ok ((staged output).take staging.length), _) = _
    rw [hstaged, List.take_length]
    rfl
  rw [run_finishSend, run_bind, run_raiseCallbackOrNative_ok env _ hresult]
  dsimp only
  rw [run_bind, run_conn]
  dsimp only
  cases hc : c.closing with
  | false =>
    have hgoing : ¬ c.Finished env := by simp [Connection.Finished, hc]
    rw [Connection.settled, if_neg hgoing]
    refine ⟨[], ?_⟩
    have hclosing : ¬ (c.withOutput output staging.length remaining).closing = true := by
      simp [Connection.withOutput, hc]
    rw [if_neg hclosing, htake c]
    rfl
  | true =>
    obtain ⟨is, -, hrun⟩ := run_updateTerminalState host env
      (c.withOutput output staging.length remaining) hc
    have hclosing : (c.withOutput output staging.length remaining).closing = true := hc
    refine ⟨is, ?_⟩
    rw [if_pos hclosing, run_bind, hrun]
    by_cases hfin : c.Finished env
    · have hfin' : (c.withOutput output staging.length remaining).Finished env := hfin
      rw [Connection.settled, if_pos hfin, if_pos hfin', if_pos (halloc _)]
      dsimp only
      have hannounced : (c.withOutput output staging.length remaining).announced
          = c.announced.withOutput output staging.length remaining := rfl
      rw [hannounced, htake c.announced]
      rfl
    · have hfin' : ¬ (c.withOutput output staging.length remaining).Finished env := hfin
      rw [Connection.settled, if_neg hfin, if_neg hfin']
      dsimp only
      rw [htake c]
      rfl

end Callbacks

end Ngh2
