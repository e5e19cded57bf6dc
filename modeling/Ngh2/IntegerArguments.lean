import Ngh2.Requests

/-!
# What the integer conversions accept

Each of the seven conversions has a documented range, and is meant to return
the integer it was given when that lies in the range and to raise `ValueError`
when it does not (`ExactOn`). Six of them do so for every integer and on every
platform.

`_nonnegative_size` does not. It compares the `size_t` the 64-bit value
becomes, and where a `size_t` is narrower than that value it compares what is
left of it: on a 32-bit platform an integer between `2 ^ 32` and `2 ^ 63` is
accepted as its remainder modulo `2 ^ 32` when that is small
(`LosesHighBits`). `data_to_send` and `consume_received_data` then act on the
remainder.
-/

namespace Ngh2

/-- **An exact conversion**: the integer itself within a range, and
`ValueError` outside it. -/
def ExactOn (low high v : Int) (result : Except PyError Int) : Prop :=
  if low ≤ v ∧ v ≤ high then result = .ok v else ∃ message, result = .error (.valueError message)

/-- An unsigned result as an integer. -/
def unsigned (result : Except PyError Nat) : Except PyError Int := result.map Int.ofNat

/-- `data_to_send(amount)`: the operation, after the conversion of its
argument. -/
def dataToSendCall (w : PointerWidth) (amount : Option Index) : Except PyError Request :=
  match amount with
  | none => .ok (.dataToSend none)
  | some amount => (nonnegativeSize w amount "amount").map fun n => .dataToSend (some n)

/-- `consume_received_data(stream_id, amount)`: the operation, after the
conversion of its arguments. -/
def consumeReceivedDataCall (w : PointerWidth) (streamId amount : Index) :
    Except PyError Request := do
  let streamId ← streamIdArg streamId
  let amount ← nonnegativeSize w amount "amount"
  return .consumeReceivedData streamId amount

/-- **Nothing is wrapped or truncated**: every conversion is exact at an integer,
and the two operations that take an amount act on that integer or reject it. -/
structure Faithful (w : PointerWidth) (v : Int) : Prop where
  streamId : ExactOn 1 (2 ^ 31 - 1) v (streamIdArg (.ok v))
  uint31 : ∀ name, ExactOn 0 (2 ^ 31 - 1) v (unsigned (uint31 (.ok v) name))
  uint32 : ∀ name, ExactOn 0 (2 ^ 32 - 1) v (unsigned (uint32 (.ok v) name))
  uint64 : ∀ name, ExactOn 0 (2 ^ 64 - 1) v (unsigned (uint64 (.ok v) name))
  size : ∀ name, ExactOn 0 (2 ^ w.bits - 1) v (unsigned (size w (.ok v) name))
  positiveSize : ∀ name, ExactOn 1 (2 ^ w.bits - 1) v (unsigned (positiveSize w (.ok v) name))
  nonnegativeSize : ∀ name,
    ExactOn 0 (2 ^ (w.bits - 1) - 1) v (unsigned (nonnegativeSize w (.ok v) name))
  dataToSend : ∀ r, dataToSendCall w (some (.ok v)) = .ok r →
    0 ≤ v ∧ r = .dataToSend (some v.toNat)
  consumeReceivedData : ∀ s r, consumeReceivedDataCall w s (.ok v) = .ok r →
    0 ≤ v ∧ ∃ streamId, streamIdArg s = .ok streamId ∧ r = .consumeReceivedData streamId v.toNat

/-- **The high bits are lost**: the integer needs more bits than a `size_t` has
but not more than 64, and what a `size_t` keeps of it is in the range. -/
def LosesHighBits (w : PointerWidth) (v : Int) : Prop :=
  2 ^ w.bits ≤ v ∧ v < 2 ^ 63 ∧ v % 2 ^ w.bits ≤ w.ssizeMax

instance (w : PointerWidth) (v : Int) : Decidable (LosesHighBits w v) :=
  inferInstanceAs (Decidable (_ ∧ _ ∧ _))

section Conversions

variable (w : PointerWidth) (v : Int) (name : String)

@[simp] theorem integerIndex_ok : integerIndex (.ok v) name = .ok v := rfl

@[simp] theorem integer_ok : integer (.ok v) name = .ok (asLongLongAndOverflow v) := rfl

/-- The overflow flag says which integers need more than 64 bits. -/
theorem asLongLongAndOverflow_cases :
    asLongLongAndOverflow v = (v, 0) ∧ -2 ^ 63 ≤ v ∧ v < 2 ^ 63 ∨
      asLongLongAndOverflow v = (-1, 1) ∧ 2 ^ 63 ≤ v ∨
      asLongLongAndOverflow v = (-1, -1) ∧ v < -2 ^ 63 := by
  unfold asLongLongAndOverflow
  split
  · next h => exact .inr (.inl ⟨rfl, h⟩)
  · split
    · next h => exact .inr (.inr ⟨rfl, h⟩)
    · exact .inl ⟨rfl, by omega, by omega⟩

/-- **The bounded conversions are exact**, for bounds of at most 64 bits. -/
theorem boundedInteger_eq {low high : Int} (hlow : -2 ^ 63 ≤ low) (hhigh : high < 2 ^ 63) :
    boundedInteger low high name (.ok v)
      = if low ≤ v ∧ v ≤ high then .ok v
        else .error (.valueError (name ++ " is out of range")) := by
  have hbounded : boundedInteger low high name (.ok v)
      = if (asLongLongAndOverflow v).2 ≠ 0 ∨ (asLongLongAndOverflow v).1 < low ∨
            high < (asLongLongAndOverflow v).1 then
          .error (.valueError (name ++ " is out of range"))
        else .ok (asLongLongAndOverflow v).1 := by
    unfold boundedInteger
    rw [integer_ok]
    generalize asLongLongAndOverflow v = p
    obtain ⟨result, overflow⟩ := p
    show (if overflow ≠ 0 ∨ result < low ∨ high < result then _ else _) = _
    split <;> rfl
  rw [hbounded]
  obtain ⟨heq, -, -⟩ | ⟨heq, hv⟩ | ⟨heq, hv⟩ := asLongLongAndOverflow_cases v
  · by_cases hin : low ≤ v ∧ v ≤ high
    · rw [heq, if_pos hin, if_neg (by simp only; omega)]
    · rw [heq, if_neg hin, if_pos (by simp only; omega)]
  · rw [heq, if_pos (.inl (by decide)), if_neg (by omega)]
  · rw [heq, if_pos (.inl (by decide)), if_neg (by omega)]

theorem boundedInteger_exact {low high : Int} (hlow : -2 ^ 63 ≤ low) (hhigh : high < 2 ^ 63) :
    ExactOn low high v (boundedInteger low high name (.ok v)) := by
  rw [ExactOn, boundedInteger_eq v name hlow hhigh]
  split
  · rfl
  · exact ⟨_, rfl⟩

/-- An exact conversion to a nonnegative integer is exact as an unsigned one. -/
theorem ExactOn.toNat {low high v : Int} {result : Except PyError Int} (hlow : 0 ≤ low)
    (h : ExactOn low high v result) : ExactOn low high v (unsigned (result.map Int.toNat)) := by
  unfold ExactOn at h ⊢
  split at h
  · next hin =>
    rw [if_pos hin, h]
    exact congrArg Except.ok (Int.toNat_of_nonneg (by omega))
  · next hout =>
    obtain ⟨message, h⟩ := h
    rw [if_neg hout, h]
    exact ⟨message, rfl⟩

theorem streamIdArg_exact : ExactOn 1 (2 ^ 31 - 1) v (streamIdArg (.ok v)) :=
  boundedInteger_exact v "stream_id" (by decide) (by decide)

theorem uint31_exact : ExactOn 0 (2 ^ 31 - 1) v (unsigned (uint31 (.ok v) name)) :=
  (boundedInteger_exact v name (by decide) (by decide)).toNat le_rfl

theorem uint32_exact : ExactOn 0 (2 ^ 32 - 1) v (unsigned (uint32 (.ok v) name)) :=
  (boundedInteger_exact v name (by decide) (by decide)).toNat le_rfl

/-- `_uint64` compares the integer itself. -/
theorem uint64_exact : ExactOn 0 (2 ^ 64 - 1) v (unsigned (uint64 (.ok v) name)) := by
  have huint : uint64 (.ok v) name
      = if v < 0 ∨ 0xFFFFFFFFFFFFFFFF < v then
          .error (.valueError (name ++ " is out of range")) else .ok v.toNat := by
    show (if _ then _ else _ : Except PyError Nat) = _
    split <;> rfl
  rw [ExactOn, huint]
  split
  · next hin =>
    rw [if_neg (by omega)]
    exact congrArg Except.ok (Int.toNat_of_nonneg hin.1)
  · next hout =>
    rw [if_pos (by omega)]
    exact ⟨_, rfl⟩

/-- A `size_t` keeps what fits it. -/
theorem toSizeT_of_fits {w : PointerWidth} {v : Int} (hlow : 0 ≤ v) (hhigh : v < 2 ^ w.bits) :
    (toSizeT w v : Int) = v := by
  rw [toSizeT, Int.emod_eq_of_lt hlow hhigh, Int.toNat_of_nonneg hlow]

theorem size_eq :
    size w (.ok v) name
      = if v < 0 then .error (.valueError (name ++ " must be non-negative"))
        else if (w.sizeMax : Int) < v then
          .error (.valueError (name ++ " is too large for this platform"))
        else .ok (toSizeT w v) := by
  show (if v < 0 then _ else _ : Except PyError Nat) = _
  split
  · rfl
  · show (if (w.sizeMax : Int) < v then _ else _ : Except PyError Nat) = _
    split <;> rfl

/-- `2 ^ w - 1` as the largest `size_t`. -/
theorem PointerWidth.sizeMax_eq : (w.sizeMax : Int) = 2 ^ w.bits - 1 := by
  cases w <;> rfl

/-- `2 ^ (w - 1) - 1` as the largest `Py_ssize_t`. -/
theorem PointerWidth.ssizeMax_eq : (w.ssizeMax : Int) = 2 ^ (w.bits - 1) - 1 := by
  cases w <;> rfl

/-- `_size` compares the integer before it converts it. -/
theorem size_exact : ExactOn 0 (2 ^ w.bits - 1) v (unsigned (size w (.ok v) name)) := by
  rw [ExactOn, size_eq, w.sizeMax_eq]
  split
  · next hin =>
    rw [if_neg (by omega), if_neg (by omega)]
    exact congrArg Except.ok (toSizeT_of_fits hin.1 (by omega))
  · next hout =>
    by_cases hneg : v < 0
    · rw [if_pos hneg]
      exact ⟨_, rfl⟩
    · rw [if_neg hneg, if_pos (by omega)]
      exact ⟨_, rfl⟩

/-- `_positive_size` also rejects zero. -/
theorem positiveSize_exact :
    ExactOn 1 (2 ^ w.bits - 1) v (unsigned (positiveSize w (.ok v) name)) := by
  unfold positiveSize
  rw [ExactOn, size_eq, w.sizeMax_eq]
  by_cases hneg : v < 0
  · rw [if_pos hneg, if_neg (by omega)]
    exact ⟨_, rfl⟩
  by_cases hlarge : 2 ^ w.bits - 1 < v
  · rw [if_neg hneg, if_pos hlarge, if_neg (by omega)]
    exact ⟨_, rfl⟩
  have hconv : (toSizeT w v : Int) = v := toSizeT_of_fits (by omega) (by omega)
  rw [if_neg hneg, if_neg hlarge]
  show if 1 ≤ v ∧ v ≤ 2 ^ w.bits - 1 then
      unsigned (if toSizeT w v = 0 then _ else _) = _
    else ∃ message, unsigned (if toSizeT w v = 0 then _ else _) = _
  by_cases hzero : v = 0
  · rw [if_neg (by omega), if_pos (by omega)]
    exact ⟨_, rfl⟩
  · rw [if_pos (by omega), if_neg (by omega)]
    exact congrArg Except.ok hconv

/-- `_nonnegative_size` compares what a `size_t` keeps. -/
theorem nonnegativeSize_eq :
    nonnegativeSize w (.ok v) name
      = if v < 0 then .error (.valueError (name ++ " must be non-negative"))
        else if 2 ^ 63 ≤ v ∨ w.ssizeMax < toSizeT w v then
          .error (.valueError (name ++ " is too large for this platform"))
        else .ok (toSizeT w v) := by
  have hconverted (result overflow : Int) (h : asLongLongAndOverflow v = (result, overflow)) :
      nonnegativeSize w (.ok v) name
        = if overflow < 0 ∨ (overflow = 0 ∧ result < 0) then
            .error (.valueError (name ++ " must be non-negative"))
          else if overflow ≠ 0 ∨ w.ssizeMax < toSizeT w result then
            .error (.valueError (name ++ " is too large for this platform"))
          else .ok (toSizeT w result) := by
    unfold nonnegativeSize
    rw [integer_ok, h]
    show (if overflow < 0 ∨ (overflow = 0 ∧ result < 0) then _ else _ : Except PyError Nat) = _
    split
    · rfl
    · show (if overflow ≠ 0 ∨ w.ssizeMax < toSizeT w result then _ else _ : Except PyError Nat) = _
      split <;> rfl
  obtain ⟨heq, -, hv⟩ | ⟨heq, hv⟩ | ⟨heq, hv⟩ := asLongLongAndOverflow_cases v
  · have hfits : ¬ (2 ^ 63 : Int) ≤ v := not_le.mpr hv
    rw [hconverted v 0 heq]
    simp only [hfits, lt_irrefl, true_and, false_or, ne_eq, not_true_eq_false]
  · rw [hconverted (-1) 1 heq, if_neg (by decide), if_pos (.inl (by decide)), if_neg (by omega),
      if_pos (.inl hv)]
  · rw [hconverted (-1) (-1) heq, if_pos (.inl (by decide)), if_pos (by omega)]

/-- **`_nonnegative_size` is exact unless it loses high bits.** -/
theorem nonnegativeSize_exact_iff :
    ExactOn 0 (2 ^ (w.bits - 1) - 1) v (unsigned (nonnegativeSize w (.ok v) name)) ↔
      ¬ LosesHighBits w v := by
  have hbound : (2 : Int) ^ (w.bits - 1) ≤ 2 ^ w.bits ∧ (2 : Int) ^ (w.bits - 1) ≤ 2 ^ 63 := by
    cases w <;> decide
  have hmax := w.ssizeMax_eq
  have hkept : (toSizeT w v : Int) = v % 2 ^ w.bits :=
    Int.toNat_of_nonneg (Int.emod_nonneg v (by cases w <;> decide))
  rw [ExactOn, nonnegativeSize_eq, LosesHighBits]
  by_cases hneg : v < 0
  · -- a negative integer is rejected as such
    rw [if_pos hneg, if_neg (by omega)]
    exact ⟨fun _ => by omega, fun _ => ⟨_, rfl⟩⟩
  rw [if_neg hneg]
  by_cases hlarge : 2 ^ 63 ≤ v ∨ w.ssizeMax < toSizeT w v
  · rw [if_pos hlarge]
    constructor
    · intro _
      omega
    · intro _
      have hout : ¬ (0 ≤ v ∧ v ≤ 2 ^ (w.bits - 1) - 1) := by
        rintro ⟨-, hin⟩
        rw [Int.emod_eq_of_lt (not_lt.mp hneg) (by omega)] at hkept
        omega
      rw [if_neg hout]
      exact ⟨_, rfl⟩
  · rw [if_neg hlarge]
    by_cases hin : v ≤ 2 ^ (w.bits - 1) - 1
    · rw [Int.emod_eq_of_lt (not_lt.mp hneg) (by omega)] at hkept
      rw [if_pos ⟨not_lt.mp hneg, hin⟩]
      exact ⟨fun _ => by omega, fun _ => congrArg Except.ok hkept⟩
    · -- what is kept is small, and the integer is not: high bits were lost
      have hlost : 2 ^ w.bits ≤ v := by
        by_contra hfits
        rw [Int.emod_eq_of_lt (not_lt.mp hneg) (not_le.mp hfits)] at hkept
        omega
      rw [if_neg (fun h => hin h.2)]
      constructor
      · rintro ⟨message, hraised⟩
        exact absurd hraised (by simp [unsigned, Except.map])
      · intro hnot
        omega

/-- Where no high bits are lost, what `_nonnegative_size` accepts is what it was
given. -/
theorem nonnegativeSize_of_ok {w : PointerWidth} {v : Int} {name : String} {n : Nat}
    (h : ¬ LosesHighBits w v) (hok : nonnegativeSize w (.ok v) name = .ok n) :
    0 ≤ v ∧ n = v.toNat := by
  have hexact := (nonnegativeSize_exact_iff w v name).mpr h
  rw [ExactOn, hok] at hexact
  split at hexact
  · next hin =>
    have hn : (n : Int) = v := Except.ok.inj hexact
    exact ⟨hin.1, by omega⟩
  · obtain ⟨message, hraised⟩ := hexact
    exact absurd hraised (by simp [unsigned, Except.map])

end Conversions

/-! ## The theorem -/

/-- **When integer arguments are neither wrapped nor truncated**: exactly when no
high bits are lost. -/
theorem faithful_iff (w : PointerWidth) (v : Int) : Faithful w v ↔ ¬ LosesHighBits w v := by
  constructor
  · intro h
    exact (nonnegativeSize_exact_iff w v "amount").mp (h.nonnegativeSize "amount")
  · intro h
    refine ⟨streamIdArg_exact v, uint31_exact v, uint32_exact v, uint64_exact v, size_exact w v,
      positiveSize_exact w v, fun name => (nonnegativeSize_exact_iff w v name).mpr h, ?_, ?_⟩
    · intro r hr
      cases hconv : nonnegativeSize w (.ok v) "amount" with
      | error e => simp [dataToSendCall, hconv, Except.map] at hr
      | ok n =>
        obtain ⟨hnonneg, rfl⟩ := nonnegativeSize_of_ok h hconv
        refine ⟨hnonneg, ?_⟩
        rw [dataToSendCall, hconv] at hr
        exact (Except.ok.inj hr).symm
    · intro s r hr
      cases hs : streamIdArg s with
      | error e =>
        rw [consumeReceivedDataCall, hs] at hr
        exact absurd (show (Except.error e : Except PyError Request) = .ok r from hr) (by simp)
      | ok streamId =>
        cases hconv : nonnegativeSize w (.ok v) "amount" with
        | error e =>
          rw [consumeReceivedDataCall, hs, hconv] at hr
          exact absurd (show (Except.error e : Except PyError Request) = .ok r from hr) (by simp)
        | ok n =>
          obtain ⟨hnonneg, rfl⟩ := nonnegativeSize_of_ok h hconv
          refine ⟨hnonneg, streamId, rfl, ?_⟩
          rw [consumeReceivedDataCall, hs, hconv] at hr
          exact (Except.ok.inj hr).symm

/-- On a 32-bit platform `data_to_send` takes `2 ^ 32` for zero. -/
theorem faithful_iff_truncated :
    dataToSendCall .w32 (some (.ok (2 ^ 32))) = .ok (.dataToSend (some 0)) ∧
      ¬ Faithful .w32 (2 ^ 32) := by
  have hcall : dataToSendCall .w32 (some (.ok (2 ^ 32))) = .ok (.dataToSend (some 0)) := by
    decide
  refine ⟨hcall, fun h => ?_⟩
  obtain ⟨-, hamount⟩ := h.dataToSend _ hcall
  exact absurd hamount (by decide)

end Ngh2
