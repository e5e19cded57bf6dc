import Ngh2.Objects

/-!
# Freezing header fields

Every operation that takes header fields turns the caller's iterable into a
private list of items (`_normalize_headers`), and the list into an array of
pointers that the engine copies from (`_make_headers`). Who freezes an item
depends on where it comes from. The items of an exact `list` or `tuple` are
copied as they are, and each is unpacked and replaced while the array is
built. A producer may reuse one object for all its items, so they are unpacked
while iterating. Trailers are submitted later, from inside a callback, and so
are unpacked while iterating too, with the fields copied when they are
instances of a subclass of `bytes`.

An iteration need not end: the loop counts its turns against a number, and
gives nothing when that is too small.
-/

namespace Ngh2

open Effect Conversion

variable {σ : Type}

/-! ## One item -/

/-- `name, value = item`, with the exceptions of an item that is no pair
replaced. -/
def unpackItem (held : List BytesObject) : Pair → Conversion σ (Object × Object)
  | .tuple [name, value] | .neverIndexed [name, value] => pure (name, value)
  | .tuple _ | .neverIndexed _ => raise (.typeError "each header must be a pair of bytes")
  | .custom ref _ =>
    attempt (call held (fun C => C.unpack ref) fun p => [.unpacked ref p.1 p.2]) fun
      | .typeError _ | .valueError _ => raise (.typeError "each header must be a pair of bytes")
      | e => raise e

/-- Unpack an item into its name and value, which must be instances of
`bytes`. -/
def unpackPair (held : List BytesObject) (item : Pair) :
    Conversion σ (BytesObject × BytesObject) := do
  match ← unpackItem held item with
  | (.bytes name, .bytes value) => return (name, value)
  | _ => raise (.typeError "each header must be a pair of bytes")

/-- Whether an item is a `NeverIndexedHeader`. -/
def isNeverIndexed (held : List BytesObject) : Pair → Conversion σ Bool
  | .tuple _ => pure false
  | .neverIndexed _ => pure true
  | .custom _ true => pure true
  | .custom ref false => call held (fun C => C.isInstance ref) fun answer => [.judged ref answer]

/-- Whether the type of an item is `tuple` or `NeverIndexedHeader` itself. -/
def Pair.isExact : Pair → Bool
  | .custom _ _ => false
  | _ => true

/-- The immutable pair of a name and a value. -/
def frozenPair (neverIndexed : Bool) (name value : BytesObject) : Pair :=
  if neverIndexed then .neverIndexed [.bytes name, .bytes value]
  else .tuple [.bytes name, .bytes value]

/-- The field that an exact pair of two instances of `bytes` is. -/
def Pair.header : Pair → Option Header
  | .tuple [.bytes n, .bytes v] => some ⟨n.content, v.content, false⟩
  | .neverIndexed [.bytes n, .bytes v] => some ⟨n.content, v.content, true⟩
  | _ => none

/-- A field that is queued must not be an instance of a subclass: such a one
is copied. -/
def exactBytes (deferred : Bool) (held : List BytesObject) (b : BytesObject) :
    Conversion σ BytesObject :=
  if deferred && !b.exact then perform held fun C => C.copy b.content else pure b

/-! ## `_normalize_headers` -/

/-- One turn of the loop of `_normalize_headers`: what is appended to the
result for an item. An exact pair is appended itself unless a field had to be
copied. -/
def freezeItem (deferred : Bool) (result : List Pair) (item : Pair) : Conversion σ Pair := do
  let held := heldBy result ++ item.holds
  let (name, value) ← unpackPair held item
  let name' ← exactBytes deferred (held ++ [name, value]) name
  let value' ← exactBytes deferred (held ++ [name', value]) value
  if item.isExact && (!deferred || (name.exact && value.exact)) then return item
  let held := held ++ [name', value']
  let frozen := frozenPair (← isNeverIndexed held item) name' value'
  perform held fun C => C.allocate
  perform (heldBy (result ++ [frozen])) fun C => C.release item
  return frozen

/-- Where an iteration stands: at an index of an exact `list` or `tuple`,
which is read as it is at the moment, or in the caller's own iterator. -/
inductive Iterator where
  | index (ref : Ref) (next : Nat)
  | object (ref : Ref)
  deriving DecidableEq, Repr

/-- `iter(headers)`. -/
def iterate (held : List BytesObject) : Headers → Conversion σ Iterator
  | .container ref => pure (.index ref 0)
  | .producer ref => do return .object (← perform held fun C => C.iter ref)

/-- The next item of an iteration. -/
def nextItem (held : List BytesObject) : Iterator → Conversion σ (Option Pair)
  | .index ref i => look (fun C w => (C.contents ref w)[i]?) fun item => item.toList.map .yielded
  | .object ref => call held (fun C => C.next ref) fun item => item.toList.map .yielded

/-- The iteration after an item. -/
def Iterator.advance : Iterator → Iterator
  | .index ref i => .index ref (i + 1)
  | .object ref => .object ref

/-- The loop of `_normalize_headers`, for at most so many turns. -/
def normalizeLoop (deferred : Bool) :
    Nat → Iterator → List Pair → Conversion σ (Option (List Pair))
  | 0, _, _ => pure none
  | turns + 1, iterator, result => do
    match ← nextItem (heldBy result) iterator with
    | none => return some result
    | some item =>
      let frozen ← freezeItem deferred result item
      perform (heldBy (result ++ [frozen])) fun C => C.allocate
      normalizeLoop deferred turns iterator.advance (result ++ [frozen])

/-- **`_normalize_headers`**: a private list of the items of an iterable. -/
def normalizeHeaders (turns : Nat) (headers : Headers) (deferred : Bool) :
    Conversion σ (Option (List Pair)) :=
  match headers, deferred with
  | .container ref, false => do
    let items ← look (fun C => C.contents ref) fun items => items.map .yielded
    perform (heldBy items) fun C => C.allocate
    return some items
  | headers, deferred => do
    normalizeLoop deferred turns (← iterate [] headers) []

/-! ## `_make_headers` -/

/-- An entry of the array the engine copies from, `nghttp2_nv`. -/
structure NativeHeader where
  name : Address
  value : Address
  namelen : Nat
  valuelen : Nat
  noIndex : Bool
  deriving DecidableEq, Repr

/-- The entry that points into a name and a value. -/
def nativeHeader (neverIndexed : Bool) (name value : BytesObject) : NativeHeader where
  name := name.address
  value := value.address
  namelen := name.content.length
  valuelen := value.content.length
  noIndex := neverIndexed

/-- The loop of `_make_headers`: `done` are the items of the private list
before the index, the argument the ones from it on, and an item that is no
exact pair is replaced in the list. -/
def makeLoop (done : List Pair) (native : List NativeHeader) :
    List Pair → Conversion σ (List Pair × List NativeHeader)
  | [] => pure (done, native)
  | item :: rest => do
    let held := heldBy (done ++ item :: rest)
    let (name, value) ← unpackPair held item
    let held := held ++ [name, value]
    let neverIndexed ← isNeverIndexed held item
    if item.isExact then
      makeLoop (done ++ [item]) (native ++ [nativeHeader neverIndexed name value]) rest
    else do
      let frozen := frozenPair neverIndexed name value
      perform held fun C => C.allocate
      perform (heldBy (done ++ frozen :: rest)) fun C => C.release item
      makeLoop (done ++ [frozen]) (native ++ [nativeHeader neverIndexed name value]) rest

/-- **`_make_headers`**: the array of pointers into the fields of the private
list, and the list as the loop leaves it. -/
def makeHeaders (headers : List Pair) : Conversion σ (List Pair × List NativeHeader) := do
  perform (heldBy headers) fun C => C.allocate
  makeLoop [] [] headers

/-! ## The operations -/

/-- What `send_request`, `send_response`, `send_informational_response` and
`send_push_promise` do with their header argument before the engine is called:
the private list, and the array that borrows from it. -/
def snapshotHeaders (turns : Nat) (headers : Headers) :
    Conversion σ (Option (List Pair × List NativeHeader)) := do
  match ← normalizeHeaders turns headers false with
  | none => return none
  | some fields => return some (← makeHeaders fields)

/-- What `send_trailers` does with its header argument: the list it queues. -/
def snapshotTrailers (turns : Nat) (headers : Headers) : Conversion σ (Option (List Pair)) :=
  normalizeHeaders turns headers true

/-- **From the argument to the array the engine is handed.** For trailers the
array is built when the body drains, from the list that was queued; by then
anything may have run. -/
def submission (turns : Nat) (headers : Headers) (meanwhile : Option (Code σ Unit)) :
    Conversion σ (Option (List Pair × List NativeHeader)) :=
  match meanwhile with
  | none => snapshotHeaders turns headers
  | some meanwhile => do
    match ← snapshotTrailers turns headers with
    | none => return none
    | some fields =>
      perform (heldBy fields) fun _ => meanwhile
      return some (← makeHeaders fields)

end Ngh2
