import Ngh2.Nghttp2

/-!
# Integer arguments

Every integer a caller passes goes through one of seven functions before a
native type receives it. Four of them convert by way of a 64-bit `long long`
with an overflow flag (`_integer`), three compare the Python integer itself.
The object the caller passes is not modelled: what matters of it is what
`operator.index` makes of it, an unbounded integer or an exception of its own.
-/

namespace Ngh2

/-- What `operator.index(value)` gives: an integer of any magnitude, or the
exception the object raised. A `TypeError` says that it is no integer. -/
abbrev Index : Type := Except PyError Int

/-- The common beginning of the seven functions: the index of the object, with
the parameter's name in the `TypeError`. -/
def integerIndex (value : Index) (name : String) : Index :=
  match value with
  | .ok v => .ok v
  | .error (.typeError _) => .error (.typeError (name ++ " must be an integer"))
  | .error e => .error e

/-- `PyLong_AsLongLongAndOverflow`: the value and a zero flag, or `-1` and the
sign of an integer that needs more than 64 bits. -/
def asLongLongAndOverflow (v : Int) : Int × Int :=
  if 2 ^ 63 ≤ v then (-1, 1)
  else if v < -2 ^ 63 then (-1, -1)
  else (v, 0)

/-- `<size_t>result`: the conversion of a signed integer, modulo `2 ^ w`. -/
def toSizeT (w : PointerWidth) (v : Int) : Nat := (v % 2 ^ w.bits).toNat

/-- `_integer`. -/
def integer (value : Index) (name : String) : Except PyError (Int × Int) :=
  (integerIndex value name).map asLongLongAndOverflow

/-- The shape of `_stream_id`, `_uint32` and `_uint31`: a 64-bit conversion,
then the two bounds. -/
def boundedInteger (low high : Int) (name : String) (value : Index) : Except PyError Int := do
  let (result, overflow) ← integer value name
  if overflow ≠ 0 ∨ result < low ∨ high < result then
    throw (.valueError (name ++ " is out of range"))
  return result

/-- `_stream_id`: a nonzero stream identifier. -/
def streamIdArg (value : Index) : Except PyError StreamId :=
  boundedInteger 1 0x7FFFFFFF "stream_id" value

/-- `_uint32`. -/
def uint32 (value : Index) (name : String) : Except PyError Nat :=
  (boundedInteger 0 0xFFFFFFFF name value).map Int.toNat

/-- `_uint31`. -/
def uint31 (value : Index) (name : String) : Except PyError Nat :=
  (boundedInteger 0 0x7FFFFFFF name value).map Int.toNat

/-- `_uint64`: compared before any conversion. -/
def uint64 (value : Index) (name : String) : Except PyError Nat := do
  let v ← integerIndex value name
  if v < 0 ∨ 0xFFFFFFFFFFFFFFFF < v then throw (.valueError (name ++ " is out of range"))
  return v.toNat

/-- `_size`: compared before the conversion to `size_t`. -/
def size (w : PointerWidth) (value : Index) (name : String) : Except PyError Nat := do
  let v ← integerIndex value name
  if v < 0 then throw (.valueError (name ++ " must be non-negative"))
  if (w.sizeMax : Int) < v then
    throw (.valueError (name ++ " is too large for this platform"))
  return toSizeT w v

/-- `_positive_size`. -/
def positiveSize (w : PointerWidth) (value : Index) (name : String) : Except PyError Nat := do
  let v ← size w value name
  if v = 0 then throw (.valueError (name ++ " must be positive"))
  return v

/-- `_nonnegative_size`: by way of 64 bits, then compared as a `size_t`. -/
def nonnegativeSize (w : PointerWidth) (value : Index) (name : String) :
    Except PyError Nat := do
  let (result, overflow) ← integer value name
  if overflow < 0 ∨ (overflow = 0 ∧ result < 0) then
    throw (.valueError (name ++ " must be non-negative"))
  if overflow ≠ 0 ∨ w.ssizeMax < toSizeT w result then
    throw (.valueError (name ++ " is too large for this platform"))
  return toSizeT w result

end Ngh2
