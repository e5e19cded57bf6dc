import Ngh2.BodyQueue
import Ngh2.MachineSteps

/-!
# The staging buffer over a run

Outside `data_to_send` there is no staging buffer and nothing is left of a
limit; inside, what has been written to the buffer is exactly what its size
says (`Machine.Staging`). The first half is why an output callback outside
`data_to_send` would not get past its first line. The second is what makes the
two output callbacks appends: each writes behind what was staged, and
`staged_collected` and `staged_bodySent` say what.
-/

namespace Ngh2

open Nghttp2 Effect

/-- **The staging buffer agrees with its size**, and exists only while
`data_to_send` is inside the engine. -/
def Machine.Staging (m : Machine) : Prop :=
  match m.drive with
  | some (.send, _) => (staged m.conn.output).length = m.conn.outputSize
  | _ => m.conn.output = none ∧ m.conn.outputRemaining = 0

/-- No more is accepted than is offered. -/
theorem Connection.acceptable_le (c : Connection) (length : Nat) :
    c.acceptable length ≤ length := by
  unfold Connection.acceptable
  split
  · exact min_le_left _ _
  · exact le_rfl

section Appends

variable {output output' : Option Buffer} {offset : Nat}

/-- Writing behind what was staged appends to it. -/
theorem staged_memcpy (hlen : (staged output).length = offset) (hne : output ≠ none)
    (data : Bytes) : staged (output.map (·.memcpy offset data)) = staged output ++ data := by
  obtain ⟨buffer, rfl⟩ := Option.ne_none_iff_exists'.mp hne
  simp only [staged, Option.map_some, Option.getD_some, Buffer.memcpy] at hlen ⊢
  rw [List.take_of_length_le hlen.le]

/-- A buffer with room is there. -/
theorem ne_none_of_room {n : Nat} (h : n ≤ room output) (hn : 0 < n) : output ≠ none := by
  rintro rfl
  simp only [room, Option.map_none, Option.getD_none] at h
  omega

/-- `_collect_output` appends what it accepted. -/
theorem staged_collected {data : Bytes} {accepted : Nat} (hlen : (staged output).length = offset)
    (hkept : staged output = staged output') (hfits : offset + accepted ≤ room output') :
    staged (output'.map (·.memcpy offset (data.take accepted)))
      = staged output ++ data.take accepted := by
  rw [hkept] at hlen ⊢
  by_cases hne : output' = none
  · subst hne
    have h0 : accepted = 0 := by
      simp only [room, Option.map_none, Option.getD_none] at hfits
      omega
    simp [h0, staged]
  · exact staged_memcpy hlen hne _

/-- `_send_body` appends the frame: its header, and the payload. -/
theorem staged_bodySent {frameHeader : FrameHeader} {payload : Bytes}
    (hlen : (staged output).length = offset) (hkept : staged output = staged output')
    (hfits : offset + (payload.length + 9) ≤ room output') :
    staged (output'.map fun b => (b.memcpy offset frameHeader.val).memcpy (offset + 9) payload)
      = staged output ++ frameHeader.val ++ payload := by
  have hne := ne_none_of_room hfits (by omega)
  have hheader := staged_memcpy (hkept ▸ hlen) hne frameHeader.val
  have hcomp : (output'.map fun b => (b.memcpy offset frameHeader.val).memcpy (offset + 9) payload)
      = (output'.map (·.memcpy offset frameHeader.val)).map (·.memcpy (offset + 9) payload) := by
    rw [Option.map_map]
    rfl
  rw [hcomp, staged_memcpy, hheader, hkept]
  · rw [hheader, List.length_append, frameHeader.property, ← hkept, hlen]
  · simpa using hne

end Appends

/-- **Every step between sound connections keeps the staging buffer in
order.** -/
theorem Stepped.staging {m : Machine} {l : Label} {p : Outcome × Machine} (h : Stepped m l p)
    (hs : m.Staging) (hsound : p.2.conn.Sound) : p.2.Staging := by
  unfold Machine.Staging at hs
  cases h with
  | request idle hr =>
    rw [idle] at hs
    cases hr with
    | sending => simp [Machine.Staging, Machine.afterRequest, hs.1, staged]
    | failed => exact absurd hsound.1 (by simp [World.failed, Connection.invalidate])
    | upgrading => exact hs
    | receiving => exact hs
    | _ =>
      simp only [Machine.Staging, Machine.afterRequest, idle]
      exact hs
  | @callback cb env d session p driven hc =>
    rw [driven] at hs
    simp only [Machine.Staging, Machine.afterCallback_drive, Machine.afterCallback_conn, driven]
    have hlimit {q : Prop} (hne : m.conn.outputRemaining ≠ 0)
        (h : m.conn.output = none ∧ m.conn.outputRemaining = 0) : q := absurd h.2 hne
    cases hc with
    | failed spoiled deferred =>
      rw [Machine.afterCallback_conn] at hsound
      exact absurd (deferred.symm.trans hsound.2) (by simp)
    | @collected data accepted output unspent amount written fits =>
      cases d with
      | send =>
        have hle : accepted ≤ data.length := amount ▸ m.conn.acceptable_le data.length
        simp only [Connection.spendOutput]
        rw [staged_collected hs written fits, List.length_append, hs, List.length_take,
          min_eq_left hle]
      | _ => exact hlimit unspent hs
    | @bodySent _ frameHeader length _ s output limit opened written fits copied full =>
      cases d with
      | send =>
        rw [← full] at fits
        simp only [Connection.spendOutput]
        rw [staged_bodySent hs written fits, List.length_append, List.length_append, hs,
          frameHeader.property, full]
        omega
      | _ => exact hlimit (by omega) hs
    | _ => exact hs
  | @ret result env d session p driven hr =>
    rw [driven] at hs
    simp only [Machine.Staging, Machine.afterReturn_drive, Machine.afterReturn_conn]
    cases hr with
    | failed => exact absurd hsound.1 (by simp [World.failed, Connection.invalidate])
    | sentThenFailed => exact absurd hsound.1 (by simp [World.failed, Connection.invalidate])
    | sent => exact ⟨rfl, rfl⟩
    | sentLast => exact ⟨rfl, rfl⟩
    | rejected negative mild clean kind =>
      cases d with
      | send => exact absurd rfl kind
      | _ => exact hs
    | _ => exact hs

/-- The staging buffer is in order in every sound state of every run. -/
theorem Runs.staging {host : Host} {Allowed : History → Machine → Label → Prop}
    (hends : ∀ {h m l}, Allowed h m l → FailureEndsDrive h l) {h : History} {m : Machine}
    (hrun : Runs host Allowed h m) (hsound : m.conn.Sound) : m.Staging :=
  Runs.induct_sound (I := fun _ m => m.Staging) hends ⟨rfl, rfl⟩
    (fun _ _ hs _ hstep hsound => hstep.staging hs hsound) hrun hsound

end Ngh2
