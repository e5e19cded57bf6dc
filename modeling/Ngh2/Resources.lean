import Ngh2.Machine

/-!
# What a step is afforded

The binding asks for memory after the engine has taken a submission, and
counts queued bytes in a `size_t` that it does not check. Where the memory is
there and the counter wide enough nobody notices, and several properties hold
of exactly such runs. This module says so of one step: each condition is about
the state before it, what the caller passed, what the engine answers and which
allocations succeed.
-/

namespace Ngh2

open Nghttp2

/-! ## Memory for what the engine took -/

/-- The engine takes a message that opens a stream's body, or may: a request,
or the final response of a stream. -/
def Connection.Takes (c : Connection) (env : Env) : Request → Prop
  | .sendRequest headers endStream =>
    c.Usable ∧ c.server = false ∧ env.reply .sessionCheckRequestAllowed ≠ 0 ∧
      0 ≤ env.reply (.submitRequest2 headers !endStream)
  | .sendResponse streamId headers endStream =>
    c.Usable ∧ c.server = true ∧ 0 ≤ env.reply (.sessionGetStreamLocalClose streamId) ∧
      streamId ∉ c.responses ∧ 0 ≤ env.reply (.submitResponse2 streamId headers !endStream)
  | _ => False

/-- There is memory for the body of a message, and for what is recorded before
it. -/
def Request.BodyAfforded (env : Env) : Request → Prop
  | .sendRequest _ endStream => endStream = false → env.alloc .body = true
  | .sendResponse _ _ endStream =>
    endStream = false → env.alloc .response = true ∧ env.alloc .body = true
  | _ => True

/-- What is recorded of a message is recorded whole: memory does not run out
between the body of a request and the identifier its operation returns, nor
between the final response of a stream and its body. -/
def Request.RecordAfforded (env : Env) : Request → Prop
  | .sendRequest _ endStream =>
    endStream = false → env.alloc .body = true → env.alloc .identifier = true
  | .sendResponse _ _ endStream =>
    endStream = false → env.alloc .response = true → env.alloc .body = true
  | _ => True

/-- **A message with a body that the engine takes finds memory for the body.** -/
def Machine.BodyAfforded (m : Machine) : Label → Prop
  | .request r env => m.conn.Takes env r → r.BodyAfforded env
  | _ => True

/-- **A message that the engine takes is recorded whole**, or not at all. -/
def Machine.RecordAfforded (m : Machine) : Label → Prop
  | .request r env => m.conn.Takes env r → r.RecordAfforded env
  | _ => True

/-! ## Memory for the exception of a fatal code -/

/-- The deferred source that an operation wakes: of an open body that it ends,
or adds to. -/
def Connection.wakes (c : Connection) : Request → Option StreamId
  | .sendTrailers streamId _ =>
    if (c.bodies.lookup streamId).any fun body => body.deferred && !body.ended then some streamId
    else none
  | .sendData streamId chunk endStream =>
    if chunk = [] ∧ endStream = false then none
    else if (c.bodies.lookup streamId).any fun body => body.deferred && !body.ended then
      some streamId
    else none
  | _ => none

/-- **A fatal answer to the waking of a source finds memory for its
exception.** -/
def Machine.WakeReported (m : Machine) : Label → Prop
  | .request r env => ∀ s ∈ m.conn.wakes r, isFatal (env.reply (.sessionResumeData s)) = true →
    env.alloc .exception = true
  | _ => True

/-- **A fatal return finds memory for its exception**, where no callback has
left one. -/
def Machine.FatalReported (m : Machine) : Label → Prop
  | .ret result env => m.conn.callbackError = none → isFatal result = true →
    env.alloc .exception = true
  | _ => True

/-! ## Room in the counters -/

/-- **A chunk that is queued fits the counter of its body.** -/
def Machine.BodyCounted (m : Machine) : Label → Prop
  | .request (.sendData streamId chunk _) _ =>
    ∀ body ∈ m.conn.bodies.lookup streamId, body.ended = false →
      body.queuedSize + chunk.length < m.host.pointerWidth.modulus
  | _ => True

/-- **A chunk that is queued fits the counter of all bodies.** -/
def Machine.AllCounted (m : Machine) : Label → Prop
  | .request (.sendData streamId chunk _) _ =>
    ∀ body ∈ m.conn.bodies.lookup streamId, body.ended = false →
      m.conn.queuedBodySize + chunk.length < m.host.pointerWidth.modulus
  | _ => True

/-- The chunk that a label offers to a body: the stream, and the bytes. -/
def Label.chunk : Label → Option (StreamId × Bytes)
  | .request (.sendData streamId chunk _) _ => some (streamId, chunk)
  | _ => none

theorem Machine.bodyCounted_iff (m : Machine) (l : Label) :
    m.BodyCounted l ↔ ∀ x ∈ l.chunk, ∀ body ∈ m.conn.bodies.lookup x.1, body.ended = false →
      body.queuedSize + x.2.length < m.host.pointerWidth.modulus := by
  cases l with
  | request r => cases r <;> simp [Machine.BodyCounted, Label.chunk]
  | callback | ret => simp [Machine.BodyCounted, Label.chunk]

theorem Machine.allCounted_iff (m : Machine) (l : Label) :
    m.AllCounted l ↔ ∀ x ∈ l.chunk, ∀ body ∈ m.conn.bodies.lookup x.1, body.ended = false →
      m.conn.queuedBodySize + x.2.length < m.host.pointerWidth.modulus := by
  cases l with
  | request r => cases r <;> simp [Machine.AllCounted, Label.chunk]
  | callback | ret => simp [Machine.AllCounted, Label.chunk]

section Decidability

variable (m : Machine) (l : Label)

instance (c : Connection) (env : Env) (r : Request) : Decidable (c.Takes env r) := by
  unfold Connection.Takes
  split <;> infer_instance

instance (env : Env) (r : Request) : Decidable (r.BodyAfforded env) := by
  unfold Request.BodyAfforded
  split <;> infer_instance

instance (env : Env) (r : Request) : Decidable (r.RecordAfforded env) := by
  unfold Request.RecordAfforded
  split <;> infer_instance

instance : Decidable (m.BodyAfforded l) :=
  match l with
  | .request r env => inferInstanceAs (Decidable (m.conn.Takes env r → r.BodyAfforded env))
  | .callback _ _ => .isTrue trivial
  | .ret _ _ => .isTrue trivial

instance : Decidable (m.RecordAfforded l) :=
  match l with
  | .request r env => inferInstanceAs (Decidable (m.conn.Takes env r → r.RecordAfforded env))
  | .callback _ _ => .isTrue trivial
  | .ret _ _ => .isTrue trivial

instance : Decidable (m.WakeReported l) :=
  match l with
  | .request r env => inferInstanceAs (Decidable (∀ s ∈ m.conn.wakes r,
      isFatal (env.reply (.sessionResumeData s)) = true → env.alloc .exception = true))
  | .callback _ _ => .isTrue trivial
  | .ret _ _ => .isTrue trivial

instance : Decidable (m.FatalReported l) :=
  match l with
  | .ret result env => inferInstanceAs (Decidable (m.conn.callbackError = none →
      isFatal result = true → env.alloc .exception = true))
  | .request _ _ => .isTrue trivial
  | .callback _ _ => .isTrue trivial

instance : Decidable (m.BodyCounted l) := decidable_of_iff _ (m.bodyCounted_iff l).symm

instance : Decidable (m.AllCounted l) := decidable_of_iff _ (m.allCounted_iff l).symm

end Decidability

end Ngh2
