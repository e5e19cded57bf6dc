import Ngh2.Lib.Effect
import Ngh2.Types

/-!
# The objects a caller passes

What the rest of the development takes for a value – a list of header fields,
a byte string – arrives as a Python object, and a caller may pass one of its
own making: iterating it, unpacking it or dropping the last reference to it
then runs the caller's code, which may do anything to the caller's other
objects and give a different answer every time.

This module says what such an object is. A `BytesObject` is an instance of
`bytes` or of a subclass, which the C API reads from its storage whatever the
subclass overrides; a `Pair` is what a header iterable may yield. What the
caller's code does is a parameter (`Caller`), over a state of which nothing is
known. Of that code only what the interpreter itself guarantees is assumed
(`Caller.Safe`): an object that is referenced is not freed, so its storage
stays where it is.
-/

namespace Ngh2

/-- A place in the memory of the process. -/
abbrev Address : Type := Nat

/-- The identity of an object whose behaviour is the caller's. -/
abbrev Ref : Type := Nat

/-- **An instance of `bytes`**: where it is stored, whether its type is
`bytes` itself or a subclass, and the bytes in its storage, which never
change. -/
structure BytesObject where
  address : Address
  exact : Bool := true
  content : Bytes
  deriving DecidableEq, Repr

/-- An object of which only one thing is asked: whether it is an instance of
`bytes`. -/
inductive Object where
  | bytes (b : BytesObject)
  | other
  deriving DecidableEq, Repr

/-- The instances of `bytes` among some objects. -/
def Object.bytesOf : Object → List BytesObject
  | .bytes b => [b]
  | .other => []

/-- **An item of a header iterable**. An exact tuple and an exact
`NeverIndexedHeader` are immutable, and unpacking them runs nobody's code; for
any other object it is known only whether its type derives from
`NeverIndexedHeader`. -/
inductive Pair where
  | tuple (elements : List Object)
  | neverIndexed (elements : List Object)
  | custom (ref : Ref) (subtype : Bool)
  deriving DecidableEq, Repr

/-- The instances of `bytes` that a reference to the item keeps alive, as far
as its type tells. -/
def Pair.holds : Pair → List BytesObject
  | .tuple elements => elements.flatMap Object.bytesOf
  | .neverIndexed elements => elements.flatMap Object.bytesOf
  | .custom _ _ => []

/-- The instances of `bytes` that a list of items keeps alive. -/
def heldBy (items : List Pair) : List BytesObject := items.flatMap Pair.holds

@[simp] theorem heldBy_nil : heldBy [] = [] := rfl

@[simp] theorem heldBy_cons (item : Pair) (items : List Pair) :
    heldBy (item :: items) = item.holds ++ heldBy items := rfl

@[simp] theorem heldBy_append (items items' : List Pair) :
    heldBy (items ++ items') = heldBy items ++ heldBy items' := List.flatMap_append

/-- The argument of an operation that takes header fields: an exact `list` or
`tuple`, or any other object. -/
inductive Headers where
  | container (ref : Ref)
  | producer (ref : Ref)
  deriving DecidableEq, Repr

/-! ## The caller's code -/

/-- Code that may run the caller's: it is given the objects that are
referenced while it runs, and it may raise. -/
abbrev Code (σ α : Type) : Type := List BytesObject → σ → Except PyError α × σ

/-- **The caller**, over a state that is the caller's own. -/
structure Caller (σ : Type) where
  /-- The storage of the instances of `bytes` that exist, by address. -/
  memory : σ → Address → Option Bytes
  /-- What an exact `list` or `tuple` holds at the moment. -/
  contents : Ref → σ → List Pair
  /-- `iter(headers)`. -/
  iter : Ref → Code σ Ref
  /-- `next(iterator)`, or nothing at the end. -/
  next : Ref → Code σ (Option Pair)
  /-- `name, value = item`, for an item that is neither an exact tuple nor an
  exact `NeverIndexedHeader`. -/
  unpack : Ref → Code σ (Object × Object)
  /-- `isinstance(item, NeverIndexedHeader)`, for an item whose type does not
  decide it: the answer is in the item's `__class__`. -/
  isInstance : Ref → Code σ Bool
  /-- Dropping a reference to an item, which may finalize it. -/
  release : Pair → Code σ Unit
  /-- `PyBytes_FromStringAndSize`, in place of the object it copies, which is
  dropped. -/
  copy : Bytes → Code σ BytesObject
  /-- Allocating any other object or array, which may collect garbage. -/
  allocate : Code σ Unit

namespace Caller

variable {σ α : Type}

/-- An instance of `bytes` is where it says. -/
def Live (C : Caller σ) (w : σ) (b : BytesObject) : Prop := C.memory w b.address = some b.content

/-- **What the interpreter guarantees of a piece of code**: what is referenced
while it runs stays, and what it returns is there. -/
def SafeCode (C : Caller σ) (given : α → List BytesObject) (code : Code σ α) : Prop :=
  ∀ held w, (∀ b ∈ held, C.Live w b) →
    (∀ b ∈ held, C.Live (code held w).2 b) ∧
      ∀ a, (code held w).1 = .ok a → ∀ b ∈ given a, C.Live (code held w).2 b

/-- **What the interpreter guarantees**, whatever the caller's code is. -/
structure Safe (C : Caller σ) : Prop where
  contents : ∀ r w, ∀ b ∈ heldBy (C.contents r w), C.Live w b
  iter : ∀ r, C.SafeCode (fun _ => []) (C.iter r)
  next : ∀ r, C.SafeCode (fun item => heldBy item.toList) (C.next r)
  unpack : ∀ r, C.SafeCode (fun p => p.1.bytesOf ++ p.2.bytesOf) (C.unpack r)
  isInstance : ∀ r, C.SafeCode (fun _ => []) (C.isInstance r)
  release : ∀ item, C.SafeCode (fun _ => []) (C.release item)
  copy : ∀ data, C.SafeCode (fun b => [b]) (C.copy data)
  copied : ∀ data held w b, (C.copy data held w).1 = .ok b → b.exact = true ∧ b.content = data
  allocate : C.SafeCode (fun _ => []) C.allocate

end Caller

/-! ## Converting an argument -/

/-- What the caller was asked and what it answered: the items it yielded, what
a custom pair unpacked to, and what a custom pair's `__class__` said. -/
inductive Call where
  | yielded (item : Pair)
  | unpacked (ref : Ref) (name value : Object)
  | judged (ref : Ref) (answer : Bool)
  deriving DecidableEq, Repr

/-- The state of a conversion: the caller's, and the exchange so far, oldest
first. -/
structure Exchange (σ : Type) where
  world : σ
  calls : List Call := []
  deriving DecidableEq

/-- A piece of the conversion of an argument. -/
abbrev Conversion (σ : Type) : Type → Type := Effect PyError (Caller σ) (Exchange σ)

namespace Conversion

open Effect

variable {σ α : Type}

/-- Run a piece of code, and write down what it answered. -/
def call (held : List BytesObject) (code : Caller σ → Code σ α) (record : α → List Call) :
    Conversion σ α := fun C s =>
  match code C held s.world with
  | (.ok a, w) => (.ok a, { world := w, calls := s.calls ++ record a })
  | (.error e, w) => (.error e, { s with world := w })

/-- Run a piece of code that answers nothing worth writing down. -/
def perform (held : List BytesObject) (code : Caller σ → Code σ α) : Conversion σ α :=
  call held code fun _ => []

/-- Look at the caller's objects without running any of its code. -/
def look (view : Caller σ → σ → α) (record : α → List Call) : Conversion σ α := fun C s =>
  (.ok (view C s.world), { s with calls := s.calls ++ record (view C s.world) })

/-- **What it takes for a piece of code to answer.** The objects referenced
while it ran are still there, so is what it returned, and the exchange has
grown by what was written down. -/
theorem call_returned {C : Caller σ} {s s' : Exchange σ} {held : List BytesObject}
    {code : Caller σ → Code σ α} {record : α → List Call} {given : α → List BytesObject} {a : α}
    (hsafe : C.SafeCode given (code C)) (hlive : ∀ b ∈ held, C.Live s.world b)
    (h : (call held code record).run C s = (.ok a, s')) :
    s'.calls = s.calls ++ record a ∧ (∀ b ∈ held, C.Live s'.world b) ∧
      ∀ b ∈ given a, C.Live s'.world b := by
  simp only [call, Effect.run] at h
  rcases hcode : code C held s.world with ⟨res, w⟩
  obtain ⟨hkept, hgiven⟩ := hsafe held s.world hlive
  rw [hcode] at h hkept hgiven
  cases res with
  | error e => exact absurd (congrArg Prod.fst h) (by simp)
  | ok a' =>
    obtain ⟨rfl, rfl⟩ : a' = a ∧
      ({ world := w, calls := s.calls ++ record a' } : Exchange σ) = s' :=
      ⟨Except.ok.inj (congrArg Prod.fst h), congrArg Prod.snd h⟩
    exact ⟨rfl, hkept, hgiven _ rfl⟩

end Conversion

end Ngh2
