import Ngh2.OutputStream
import Ngh2.Quiescence

/-!
# The staging buffer

`_reserve_output` computes with a signed size, an unsigned one and a capacity
that doubles, and every expression of it must stay in the range of its C type.
`reserveArithmetic` is that computation with the range of every expression
checked: it never fails on a staging state that is in order
(`Connection.StagingOk`), and what it computes is what the model of
`_reserve_output` does.

Two callbacks reserve and write. Each puts its bytes behind those that are
staged and takes as many off the limit, so that within one `data_to_send` what
is staged is what was handed over since it was called (`stagedSince`), and what
is staged and what is left of the limit make up the limit.
-/

namespace Ngh2

open Nghttp2 Effect

/-! ## Arithmetic in C types -/

/-- The value of an expression of type `size_t`, where it lies in its range. -/
def PointerWidth.size (w : PointerWidth) (v : Int) : Option Int :=
  if 0 ≤ v ∧ v ≤ w.sizeMax then some v else none

/-- The value of an expression of type `Py_ssize_t`, where it lies in its
range. -/
def PointerWidth.ssize (w : PointerWidth) (v : Int) : Option Int :=
  if -(w.ssizeMax + 1) ≤ v ∧ v ≤ w.ssizeMax then some v else none

/-- What the sizes of a reservation come to. -/
inductive Reservation where
  /-- It is refused: `outbound data is too large`. -/
  | tooLarge
  /-- The capacity of the buffer, and the part of it that is in use. -/
  | room (capacity used : Int)
  deriving DecidableEq, Repr

/-- **The arithmetic of `_reserve_output`**, with the range of every expression
checked: nothing where one leaves it. -/
def reserveArithmetic (w : PointerWidth) (used capacity length : Int) : Option Reservation := do
  -- `((<size_t>-1) >> 1) - <size_t>used`
  let limit ← w.size (w.ssizeMax - (← w.size used))
  if limit < length then return .tooLarge
  -- `used + <Py_ssize_t>length`
  let target ← w.ssize (used + (← w.ssize length))
  if target ≤ capacity then return .room capacity target
  if capacity < w.sizeMax / 4 then
    let doubled ← w.ssize (2 * capacity)
    return .room (max target (max doubled 4096)) target
  return .room target target

/-- **The arithmetic of `_send_body`** up to its reservation, with the range of
every expression checked. The result is the size of the frame, unless the call
raises. -/
def frameArithmetic (w : PointerWidth) (remaining length : Int) : Option (Option Int) := do
  -- `0 <= connection._output_remaining < length + 9`
  if 0 ≤ remaining then
    if remaining < (← w.size (length + 9)) then return none
  -- `length > ((<size_t>-1) >> 1) - 9`
  if (← w.size (w.ssizeMax - 9)) < length then return none
  return some (← w.size (length + 9))

/-- **The arithmetic of `connection._output_remaining -= n`**, which is made in
`size_t` and stored in `Py_ssize_t`. -/
def spendArithmetic (w : PointerWidth) (remaining n : Int) : Option Int :=
  if 0 ≤ remaining then do w.ssize (← w.size (remaining - n)) else some remaining

section Arithmetic

variable {w : PointerWidth} {used capacity length remaining v : Int}

theorem PointerWidth.size_of_fits (hlow : 0 ≤ v) (hhigh : v ≤ w.sizeMax) : w.size v = some v :=
  if_pos ⟨hlow, hhigh⟩

theorem PointerWidth.ssize_of_fits (hlow : 0 ≤ v) (hhigh : v ≤ w.ssizeMax) :
    w.ssize v = some v :=
  if_pos ⟨by omega, hhigh⟩

theorem PointerWidth.ssizeMax_le (w : PointerWidth) : w.ssizeMax ≤ w.sizeMax :=
  Nat.div_le_self _ _

/-- **No expression of a reservation leaves its range.** -/
theorem reserveArithmetic_eq (hused : 0 ≤ used) (hfits : used ≤ w.ssizeMax)
    (hcapacity : 0 ≤ capacity) (hlength : 0 ≤ length) :
    reserveArithmetic w used capacity length
      = some (if w.ssizeMax - used < length then .tooLarge
        else .room (if used + length ≤ capacity then capacity
          else if capacity < w.sizeMax / 4 then max (used + length) (max (2 * capacity) 4096)
          else used + length) (used + length)) := by
  have hmax := w.ssizeMax_le
  unfold reserveArithmetic
  rw [w.size_of_fits hused (by omega)]
  simp only [Option.bind_eq_bind, Option.bind_some]
  rw [w.size_of_fits (by omega) (by omega)]
  simp only [Option.bind_some]
  by_cases hlarge : w.ssizeMax - used < length
  · rw [if_pos hlarge, if_pos hlarge]
    rfl
  · rw [if_neg hlarge, if_neg hlarge, w.ssize_of_fits hlength (by omega)]
    simp only [Option.bind_some]
    rw [w.ssize_of_fits (by omega) (by omega)]
    simp only [Option.bind_some]
    by_cases hroom : used + length ≤ capacity
    · rw [if_pos hroom, if_pos hroom]
      rfl
    · rw [if_neg hroom, if_neg hroom]
      by_cases hsmall : capacity < w.sizeMax / 4
      · have hdoubled : 2 * capacity ≤ w.ssizeMax := by
          unfold PointerWidth.ssizeMax
          omega
        rw [if_pos hsmall, if_pos hsmall, w.ssize_of_fits (by omega) hdoubled]
        rfl
      · rw [if_neg hsmall, if_neg hsmall]
        rfl

/-- **No expression about a frame leaves its range**, for the payloads a frame
can have. -/
theorem frameArithmetic_eq (hlength : 0 ≤ length) (hpayload : length ≤ 2 ^ 24 - 1) :
    frameArithmetic w remaining length
      = some (if 0 ≤ remaining ∧ remaining < length + 9 then none else some (length + 9)) := by
  have hmax : (2 : Int) ^ 24 + 8 ≤ w.ssizeMax ∧ w.ssizeMax ≤ w.sizeMax :=
    ⟨by cases w <;> decide, w.ssizeMax_le⟩
  have htotal : w.size (length + 9) = some (length + 9) := w.size_of_fits (by omega) (by omega)
  have hlimit : w.size ((w.ssizeMax : Int) - 9) = some ((w.ssizeMax : Int) - 9) :=
    w.size_of_fits (by omega) (by omega)
  have hfits : ¬ (w.ssizeMax : Int) - 9 < length := by omega
  unfold frameArithmetic
  simp only [htotal, hlimit, Option.bind_eq_bind, Option.bind_some]
  by_cases hremaining : 0 ≤ remaining
  · by_cases hless : remaining < length + 9
    · rw [if_pos hremaining, if_pos hless, if_pos ⟨hremaining, hless⟩]
      rfl
    · rw [if_pos hremaining, if_neg hless, if_neg hfits,
        if_neg (c := 0 ≤ remaining ∧ remaining < length + 9) fun h => hless h.2]
      rfl
  · rw [if_neg hremaining, if_neg hfits,
      if_neg (c := 0 ≤ remaining ∧ remaining < length + 9) fun h => hremaining h.1]
    rfl

/-- **No expression about the limit leaves its range**, where no more is spent
than there is. -/
theorem spendArithmetic_eq {n : Int} (hfits : remaining ≤ w.ssizeMax)
    (hspent : 0 ≤ remaining → n ≤ remaining) (hn : 0 ≤ n) :
    spendArithmetic w remaining n
      = some (if 0 ≤ remaining then remaining - n else remaining) := by
  have hmax := w.ssizeMax_le
  unfold spendArithmetic
  by_cases hremaining : 0 ≤ remaining
  · have hle := hspent hremaining
    rw [if_pos hremaining, if_pos hremaining, w.size_of_fits (by omega) (by omega)]
    simp only [Option.bind_eq_bind, Option.bind_some]
    exact w.ssize_of_fits (by omega) (by omega)
  · rw [if_neg hremaining, if_neg hremaining]

end Arithmetic

/-! ## One reservation -/

/-- **The staging state is in order**: the staged bytes fit the buffer, and the
buffer a `Py_ssize_t`. Where there is no buffer nothing is staged. -/
structure Connection.StagingOk (c : Connection) (width : PointerWidth) : Prop where
  fits : c.outputSize ≤ room c.output
  addressable : room c.output ≤ width.ssizeMax
  absent : c.output = none → c.outputSize = 0

/-- **What a reservation does**: it raises, or it makes room behind the staged
bytes, which it keeps. -/
inductive Reserves (w : World) (length : Nat) : Except PyError Nat × World → Prop
  /-- It raised `MemoryError`, perhaps having released the buffer. -/
  | raised {message : String} {output : Option Buffer} :
      Reserves w length (.error (.memoryError message), { w with conn := { w.conn with output } })
  /-- The room starts where the staged bytes end and is as long as was asked. -/
  | reserved {output : Option Buffer} (exists_output : output ≠ none)
      (kept : (staged output).take w.conn.outputSize
        = (staged w.conn.output).take w.conn.outputSize)
      (fits : w.conn.outputSize + length ≤ room output)
      (addressable : room output ≤ w.host.pointerWidth.ssizeMax)
      (computed : reserveArithmetic w.host.pointerWidth w.conn.outputSize (room w.conn.output)
        length
        = some (.room (room output) (w.conn.outputSize + length))) :
      Reserves w length (.ok w.conn.outputSize,
        { w with conn := { w.conn with output, outputSize := w.conn.outputSize + length } })

/-- The size a buffer grows to, computed in integers. -/
theorem grownSize_cast (w : PointerWidth) (capacity target : Nat) :
    (grownSize w capacity target : Int)
      = if (capacity : Int) < w.sizeMax / 4 then max (target : Int) (max (2 * capacity) 4096)
        else target := by
  unfold grownSize
  by_cases h : capacity < w.sizeMax / 4
  · rw [if_pos h, if_pos (by omega)]
    omega
  · rw [if_neg h, if_neg (by omega)]

/-- **A reservation does one of the two**, and its arithmetic does not fail. -/
theorem reserveOutput_sound (env : Env) (w : World) (length : Nat)
    (h : w.conn.StagingOk w.host.pointerWidth) (hlength : 1 ≤ length) :
    Reserves w length ((reserveOutput length).run env w) ∧
      ∃ r, reserveArithmetic w.host.pointerWidth w.conn.outputSize (room w.conn.output) length
        = some r := by
  have hused : w.conn.outputSize ≤ w.host.pointerWidth.ssizeMax := h.fits.trans h.addressable
  have harithmetic := reserveArithmetic_eq (w := w.host.pointerWidth)
    (Int.natCast_nonneg w.conn.outputSize) (Int.ofNat_le.mpr hused)
    (Int.natCast_nonneg (room w.conn.output)) (Int.natCast_nonneg length)
  refine ⟨?_, _, harithmetic⟩
  unfold reserveOutput
  by_cases hlarge : w.host.pointerWidth.ssizeMax - w.conn.outputSize < length
  · have hraised : Reserves w length (.error (.memoryError "outbound data is too large"),
        { w with conn := { w.conn with output := w.conn.output } }) := .raised
    simpa [hlarge] using hraised
  have hfits : w.conn.outputSize + length ≤ w.host.pointerWidth.ssizeMax := by omega
  rw [if_neg (by omega)] at harithmetic
  by_cases hgrow : room w.conn.output < w.conn.outputSize + length
  · generalize hsize : grownSize w.host.pointerWidth (room w.conn.output)
      (w.conn.outputSize + length) = size
    have hcast := grownSize_cast w.host.pointerWidth (room w.conn.output)
      (w.conn.outputSize + length)
    rw [hsize] at hcast
    push_cast at hcast
    rw [if_neg (by omega), ← hcast] at harithmetic
    cases halloc : env.alloc (.output size) with
    | true =>
      have hreserved : Reserves w length (.ok w.conn.outputSize, { w with conn := { w.conn with
          output := some { capacity := size, written := staged w.conn.output }
          outputSize := w.conn.outputSize + length } }) :=
        .reserved (by simp) rfl (hsize ▸ le_grownSize _ _ _) (hsize ▸ grownSize_le hfits)
          harithmetic
      simpa [resizeOutput, hlarge, hgrow, hsize, halloc] using hreserved
    | false =>
      have hraised : Reserves w length (.error (.memoryError ""),
          { w with conn := { w.conn with output := none } }) := .raised
      simpa [resizeOutput, hlarge, hgrow, hsize, halloc] using hraised
  · have hroom := not_lt.mp hgrow
    rw [if_pos (by omega)] at harithmetic
    have hreserved : Reserves w length (.ok w.conn.outputSize, { w with conn := { w.conn with
        output := w.conn.output, outputSize := w.conn.outputSize + length } }) :=
      .reserved (ne_none_of_room hroom (by omega)) rfl hroom h.addressable harithmetic
    simpa [hlarge, hgrow] using hreserved

/-! ## Within one call -/

/-- The bytes handed over since the last operation was called. -/
def stagedSince : History → Bytes
  | [] => []
  | e :: h =>
    match e.label with
    | .request _ _ => []
    | _ => stagedSince h ++ handedOver e

/-- The limit of the last operation, where it is a `data_to_send` with one. -/
def driveLimit : History → Option Nat
  | [] => none
  | e :: h =>
    match e.label with
    | .request (.dataToSend amount) _ => amount
    | .request _ _ => none
    | _ => driveLimit h

/-- **What is staged within one `data_to_send`**, and what is left of its
limit. -/
structure StagedSoFar (width : PointerWidth) (h : History) (c : Connection) : Prop where
  /-- The buffer is in order. -/
  ok : c.StagingOk width
  /-- It holds what was handed over since the call. -/
  bytes : staged c.output = stagedSince h
  /-- That is as much as its size says. -/
  used : c.outputSize = (stagedSince h).length
  /-- With a limit, what is staged and what is left make it up. -/
  limited : ∀ limit, driveLimit h = some limit →
    ((stagedSince h).length : Int) + c.outputRemaining = limit ∧ 0 ≤ c.outputRemaining
  /-- Without one, none is counted. -/
  unlimited : driveLimit h = none → c.outputRemaining < 0

section Steps

variable {m : Machine} {h : History} {env : Env}

/-- Writing to a buffer does not change its room. -/
theorem room_memcpy (output : Option Buffer) (offset : Nat) (data : Bytes) :
    room (output.map (·.memcpy offset data)) = room output := by
  cases output <;> rfl

/-- No more is accepted than is left of the limit. -/
theorem Connection.acceptable_le_remaining (c : Connection) {length : Nat}
    (h : 0 ≤ c.outputRemaining) : (c.acceptable length : Int) ≤ c.outputRemaining := by
  rw [Connection.acceptable, if_pos h]
  omega

/-- A buffer that is in order where it fits its bytes. -/
theorem Connection.StagingOk.of_fits {width : PointerWidth} {c : Connection}
    (hfits : c.outputSize ≤ room c.output) (haddressable : room c.output ≤ width.ssizeMax) :
    c.StagingOk width := by
  refine ⟨hfits, haddressable, fun hnone => ?_⟩
  rw [hnone] at hfits
  exact Nat.le_zero.mp hfits

/-- A callback that stages nothing leaves everything as it was. -/
theorem StagedSoFar.kept {width : PointerWidth} {c c' : Connection}
    {e : Entry Machine Label Outcome} (hs : StagedSoFar width h c) {cb : Callback}
    (hlabel : e.label = .callback cb env) (hnothing : handedOver e = [])
    (houtput : c'.output = c.output) (hsize : c'.outputSize = c.outputSize)
    (hremaining : c'.outputRemaining = c.outputRemaining) :
    StagedSoFar width (e :: h) c' := by
  have hsince : stagedSince (e :: h) = stagedSince h := by
    rw [stagedSince, hlabel]
    simp [hnothing]
  have hlimit : driveLimit (e :: h) = driveLimit h := by
    rw [driveLimit, hlabel]
  refine ⟨⟨?_, ?_, ?_⟩, ?_, ?_, ?_, ?_⟩
  · rw [hsize, houtput]
    exact hs.ok.fits
  · rw [houtput]
    exact hs.ok.addressable
  · rw [houtput, hsize]
    exact hs.ok.absent
  · rw [houtput, hsince]
    exact hs.bytes
  · rw [hsize, hsince]
    exact hs.used
  · rw [hlimit, hsince, hremaining]
    exact hs.limited
  · rw [hlimit, hremaining]
    exact hs.unlimited

/-- A callback that stages bytes takes as many off the limit. -/
theorem StagedSoFar.grown {width : PointerWidth} {c c' : Connection}
    {e : Entry Machine Label Outcome} (hs : StagedSoFar width h c) {cb : Callback} {n : Nat}
    (hlabel : e.label = .callback cb env) (hlength : (handedOver e).length = n)
    (hstaged : staged c'.output = staged c.output ++ handedOver e)
    (hsize : c'.outputSize = c.outputSize + n) (hok : c'.StagingOk width)
    (hspent : 0 ≤ c.outputRemaining → (n : Int) ≤ c.outputRemaining)
    (hremaining : c'.outputRemaining = (c.spendOutput n).outputRemaining) :
    StagedSoFar width (e :: h) c' := by
  have hsince : stagedSince (e :: h) = stagedSince h ++ handedOver e := by
    rw [stagedSince, hlabel]
  have hlimit : driveLimit (e :: h) = driveLimit h := by
    rw [driveLimit, hlabel]
  refine ⟨hok, ?_, ?_, ?_, ?_⟩
  · rw [hsince, hstaged, hs.bytes]
  · rw [hsince, hsize, List.length_append, hlength, hs.used]
  · intro limit hl
    obtain ⟨hsum, hnonneg⟩ := hs.limited limit (hlimit ▸ hl)
    have hle := hspent hnonneg
    have hvalue : c'.outputRemaining = c.outputRemaining - n := hremaining.trans (if_pos hnonneg)
    rw [hsince, List.length_append, hlength, hvalue]
    omega
  · intro hl
    have hneg := hs.unlimited (hlimit ▸ hl)
    have hvalue : c'.outputRemaining = c.outputRemaining :=
      hremaining.trans (if_neg (not_le.mpr hneg))
    rw [hvalue]
    exact hneg

/-- **A step inside `data_to_send` keeps account of what is staged.** -/
theorem Stepped.stagedSoFar {l : Label} {p : Outcome × Machine} (hstep : Stepped m l p)
    (hs : m.sending = true → StagedSoFar m.host.pointerWidth h m.conn) (hst : m.Staging)
    (hq : m.conn.Queued m.host.pointerWidth) (hsound : p.2.conn.Sound)
    (hsending : p.2.sending = true) :
    StagedSoFar m.host.pointerWidth (⟨m, l, p.1, p.2⟩ :: h) p.2.conn := by
  have hbalance := hstep.balance hst hq hsound
  cases hstep with
  | @request r env q idle hr =>
    rw [Machine.Staging, idle] at hst
    cases hr with
    | sending live active positive =>
      rename_i amount
      have houtput : m.conn.output = none := hst.1
      refine ⟨⟨?_, ?_, fun _ => rfl⟩, ?_, rfl, ?_, ?_⟩
      · exact Nat.zero_le _
      · show room m.conn.output ≤ _
        rw [houtput]
        exact Nat.zero_le _
      · show staged m.conn.output = []
        rw [houtput]
        rfl
      · intro limit hl
        obtain rfl : amount = some limit := hl
        exact ⟨zero_add _, Int.natCast_nonneg limit⟩
      · intro hl
        obtain rfl : amount = none := hl
        exact (by decide : (-1 : Int) < 0)
    | upgrading => exact absurd hsending (by simp [Machine.sending, Machine.afterRequest])
    | receiving => exact absurd hsending (by simp [Machine.sending, Machine.afterRequest])
    | _ => exact absurd hsending (by simp [Machine.sending, Machine.afterRequest, idle])
  | @callback cb env d session q driven hc =>
    have hwas : m.sending = true := by
      rw [Machine.sending, ← Machine.afterCallback_drive m (.ok q.1, q.2)]
      exact hsending
    have hs := hs hwas
    rw [Machine.afterCallback_conn] at hsound hbalance ⊢
    have hlen : (staged m.conn.output).length = m.conn.outputSize := by
      rw [hs.bytes, hs.used]
    -- what was handed over has the length of what was staged
    have hlength {n : Nat} (hn : (staged q.2.conn.output).length = m.conn.outputSize + n) :
        (handedOver ⟨m, .callback cb env, (m.afterCallback (.ok q.1, q.2)).1,
          (m.afterCallback (.ok q.1, q.2)).2⟩).length = n := by
      have hsum := congrArg List.length hbalance
      rw [List.length_append, List.length_append, hn, hlen] at hsum
      simp only [returnedBy, Option.getD_none, List.length_nil] at hsum
      omega
    have hstaged : staged q.2.conn.output = staged m.conn.output
        ++ handedOver ⟨m, .callback cb env, (m.afterCallback (.ok q.1, q.2)).1,
          (m.afterCallback (.ok q.1, q.2)).2⟩ := hbalance
    have hused : m.conn.Addressable m.host.pointerWidth :=
      ⟨hs.ok.fits.trans hs.ok.addressable, hs.ok.addressable⟩
    cases hc with
    | failed spoiled deferred => exact absurd (deferred.symm.trans hsound.2) (by simp)
    | @blocked data =>
      exact hs.kept rfl (show data.take errWouldblock.toNat = [] from List.take_zero) rfl rfl rfl
    | @collected data accepted output unspent amount written fits addressable =>
      have hle : accepted ≤ data.length := amount ▸ m.conn.acceptable_le data.length
      have hroom : room (output.map (·.memcpy m.conn.outputSize (data.take accepted)))
          = room output := room_memcpy _ _ _
      refine hs.grown rfl (hlength ?_) hstaged rfl (.of_fits ?_ ?_) ?_ rfl
      · show (staged (output.map (·.memcpy m.conn.outputSize (data.take accepted)))).length = _
        rw [staged_collected hlen written fits, List.length_append, hlen, List.length_take,
          min_eq_left hle]
      · show m.conn.outputSize + accepted ≤ room (output.map _)
        exact hroom ▸ fits
      · show room (output.map _) ≤ _
        exact hroom ▸ addressable hused
      · exact fun hnonneg => amount ▸ m.conn.acceptable_le_remaining hnonneg
    | @bodySent streamId frameHeader length body s output limit opened written fits copied full
        addressable =>
      rw [← full] at fits
      have hroom : room (output.map fun b => (b.memcpy m.conn.outputSize frameHeader.val).memcpy
          (m.conn.outputSize + 9) s.copied) = room output := by
        cases output <;> rfl
      refine hs.grown rfl (hlength ?_) hstaged rfl (.of_fits ?_ ?_) ?_ rfl
      · show (staged (output.map fun b => (b.memcpy m.conn.outputSize frameHeader.val).memcpy
          (m.conn.outputSize + 9) s.copied)).length = _
        rw [staged_bodySent hlen written fits, List.length_append, List.length_append, hlen,
          frameHeader.property, full]
        omega
      · show m.conn.outputSize + (length + 9) ≤ room (output.map _)
        exact hroom ▸ full ▸ fits
      · show room (output.map _) ≤ _
        exact hroom ▸ addressable hused
      · intro hnonneg
        push_cast
        omega
    | headerBlock kind =>
      obtain ⟨rfl, -⟩ | ⟨rfl, -⟩ | ⟨name, value, noIndex, rfl, -⟩ := kind <;>
        exact hs.kept rfl rfl rfl rfl rfl
    | _ => exact hs.kept rfl rfl rfl rfl rfl
  | ret driven hr => exact absurd hsending (by simp [Machine.sending])

end Steps

/-- **What is staged is accounted for**, in every sound state inside
`data_to_send`. -/
theorem Runs.stagedSoFar {host : Host} {Allowed : History → Machine → Label → Prop}
    (hends : ∀ {h m l}, Allowed h m l → FailureEndsDrive h l) {h : History} {m : Machine}
    (hrun : Runs host Allowed h m) (hsound : m.conn.Sound) :
    m.sending = true → StagedSoFar host.pointerWidth h m.conn := by
  refine Runs.induct_sound
    (I := fun h m => m.sending = true → StagedSoFar host.pointerWidth h m.conn) hends
    (fun hsending => absurd hsending (by simp [Machine.sending, Machine.fresh])) ?_ hrun hsound
  intro h m l p hprior hbefore ih _ hstep hsound hsending
  have hhost : m.host = host := Runs.host_eq hprior
  rw [← hhost] at ih ⊢
  exact hstep.stagedSoFar ih (Runs.staging hends hprior hbefore)
    (Runs.queued hends hprior hbefore) hsound hsending

/-! ## The theorem -/

/-- **The staging buffer is sound.** On every platform:

* a reservation on a staging state that is in order raises, or makes room of
  the length asked for right behind the staged bytes, which it keeps, in a
  buffer that is no larger than a `Py_ssize_t`; no expression of it leaves the
  range of its type;
* neither does an expression about a frame, or about the limit;
* inside `data_to_send`, while no callback has failed, the staging state is in
  order, holds what the callbacks wrote since the call, in their order, and
  makes up the limit with what is left of it. -/
theorem output_staging_sound (host : Host) :
    (∀ env w length, w.host = host → w.conn.StagingOk host.pointerWidth → 1 ≤ length →
      Reserves w length ((reserveOutput length).run env w) ∧
      ∃ r, reserveArithmetic host.pointerWidth w.conn.outputSize (room w.conn.output) length
        = some r) ∧
    (∀ remaining length : Int, 0 ≤ length → length ≤ 2 ^ 24 - 1 →
      frameArithmetic host.pointerWidth remaining length
        = some (if 0 ≤ remaining ∧ remaining < length + 9 then none else some (length + 9))) ∧
    (∀ remaining n : Int, remaining ≤ host.pointerWidth.ssizeMax → 0 ≤ n →
      (0 ≤ remaining → n ≤ remaining) →
      spendArithmetic host.pointerWidth remaining n
        = some (if 0 ≤ remaining then remaining - n else remaining)) ∧
    (∀ h m, Runs host EndsOnFailure h m → m.conn.Sound → m.sending = true →
      StagedSoFar host.pointerWidth h m.conn) := by
  refine ⟨?_, fun remaining length => frameArithmetic_eq, ?_, ?_⟩
  · rintro env w length rfl hok hlength
    exact reserveOutput_sound env w length hok hlength
  · exact fun remaining n hfits hn hspent => spendArithmetic_eq hfits hspent hn
  · exact fun h m hrun hsound => Runs.stagedSoFar id hrun hsound

/-- A client whose limit is met by two pieces of output and a frame of one byte
between them. -/
def stagedInPieces : List Label := [
  .request (.init .client {}) (.accepting []),
  .request (.initiateConnection []) (.accepting []),
  .request (.sendRequest [] false) (.accepting [(.sessionCheckRequestAllowed, 1),
    (.submitRequest2 [] true, 5)]),
  .request (.sendData 5 [7] false) (.accepting []),
  .request (.dataToSend (some 15)) (.accepting []),
  .callback (.collectOutput [1, 2]) (.accepting []),
  .callback (.readBody 5 16384) (.accepting []),
  .callback (.sendBody 5 0 ⟨[0, 0, 1, 0, 0, 0, 0, 0, 5], rfl⟩ 1) (.accepting []),
  .callback (.collectOutput [3, 4, 5, 6]) (.accepting [])]

set_option maxRecDepth 4000 in
theorem output_staging_sound_stagedInPieces :
    ∃ c, Run.execute Machine.step EndsOnFailure ([], Machine.fresh {}) stagedInPieces = some c ∧
      staged c.2.conn.output = [1, 2, 0, 0, 1, 0, 0, 0, 0, 0, 5, 7, 3, 4, 5] ∧
      c.2.conn.outputRemaining = 0 := by
  obtain ⟨c, hc, hsound, hsending, hlimit, hsince⟩ : ∃ c,
      Run.execute Machine.step EndsOnFailure ([], Machine.fresh {}) stagedInPieces = some c ∧
      c.2.conn.Sound ∧ c.2.sending = true ∧ driveLimit c.1 = some 15 ∧
      stagedSince c.1 = [1, 2, 0, 0, 1, 0, 0, 0, 0, 0, 5, 7, 3, 4, 5] :=
    ⟨_, rfl, by decide, rfl, rfl, rfl⟩
  have hstaged := (output_staging_sound {}).2.2.2 _ _ (Run.of_execute .start hc) hsound hsending
  refine ⟨c, hc, hstaged.bytes.trans hsince, ?_⟩
  have hsum := (hstaged.limited 15 hlimit).1
  rw [hsince] at hsum
  simp only [List.length_cons, List.length_nil] at hsum
  omega

end Ngh2
