import Ngh2.Lib.Run
import Ngh2.Lifecycle
import Ngh2.Output
import Ngh2.Requests

/-!
# The connection as a machine

One endpoint takes a step when something happens to it: its owner calls a
public operation, the engine makes a callback, or the engine function that was
on the stack returns. The three are the labels. Which of them can come next is
fixed by whether an engine function is on the stack (`Machine.drive`): while
one is, nothing but callbacks and its return can happen, since no code of the
owner runs inside a callback; otherwise nothing but an operation can.

Each label carries the environment of its step, so a run is an arbitrary
interleaving of operations, of engine behaviour and of allocation failures.
What is assumed of the engine is not part of the machine.
-/

namespace Ngh2

open Effect Nghttp2

/-- The body of a callback, and what it gives back. -/
def Callback.body (session : Option SessionId) : Callback → M Reply
  | .collectOutput data => do return { code := ← Ngh2.collectOutput data }
  | .sendBody streamId padlen frameHeader length => do
    return { code := ← Ngh2.sendBody streamId padlen frameHeader length }
  | .dataFrameLength streamId _ _ remoteMaxFrameSize => do
    return { code := ← Ngh2.dataFrameLength streamId remoteMaxFrameSize }
  | .readBody streamId length => Ngh2.readBody session streamId length
  | .beginFrame isData streamId length => do
    return { code := ← Ngh2.beginFrame isData streamId length }
  | .beginHeaders => do return { code := ← Ngh2.beginHeaders }
  | .header name value noIndex => do return { code := ← Ngh2.header name value noIndex }
  | .invalidHeader => do return { code := ← Ngh2.invalidHeader }
  | .dataChunk streamId data => do return { code := ← Ngh2.dataChunk streamId data }
  | .frameReceived frame => do return { code := ← Ngh2.frameReceived frame }
  | .streamClosed streamId errorCode => do
    return { code := ← Ngh2.streamClosed streamId errorCode }
  | .frameSent frame => do return { code := ← Ngh2.frameSent session frame }
  | .frameNotSent frame errorCode => do
    return { code := ← Ngh2.frameNotSent session frame errorCode }

/-- **The state of the machine**: the platform, the connection, and the engine
function on the stack with the session it was given. -/
structure Machine where
  host : Host := {}
  conn : Connection := {}
  drive : Option (Drive × Option SessionId) := none

/-- What happens to the connection. -/
inductive Label where
  /-- The owner calls an operation. -/
  | request (request : Request) (env : Env)
  /-- The engine makes a callback. -/
  | callback (callback : Callback) (env : Env)
  /-- The engine function on the stack returns. -/
  | ret (result : Int) (env : Env)

/-- What the one who took the step is given. -/
inductive Response where
  /-- The operation is over and returned a value. -/
  | returned (value : Value)
  /-- The operation is over and raised. -/
  | raised (error : PyError)
  /-- The operation is inside an engine function. -/
  | entered
  /-- The callback is over. -/
  | replied (reply : Reply)
  deriving DecidableEq, Repr

/-- The outcome of a step: what was given back, and the uses of native
sessions made in the step, oldest first. -/
structure Outcome where
  response : Response
  issued : List Issued
  deriving DecidableEq, Repr

/-- A history of the machine, newest entry first. -/
abbrev History : Type := List (Entry Machine Label Outcome)

namespace Machine

/-- The world a body starts in. -/
def world (m : Machine) : World := { host := m.host, conn := m.conn }

/-- The outcome of an operation, from the result of its body. -/
def afterRequest (m : Machine) : Except PyError Started × World → Outcome × Machine
  | (.ok (.value v), w) => (⟨.returned v, w.issued⟩, { m with conn := w.conn })
  | (.ok (.enter d), w) =>
    (⟨.entered, w.issued⟩, { m with conn := w.conn, drive := some (d, w.conn.session) })
  | (.error e, w) => (⟨.raised e, w.issued⟩, { m with conn := w.conn })

/-- The outcome of a callback. A callback never raises: what its body raises
is deferred, and the engine is told. -/
def afterCallback (m : Machine) : Except PyError Reply × World → Outcome × Machine
  | (.ok reply, w) => (⟨.replied reply, w.issued⟩, { m with conn := w.conn })
  | (.error _, w) =>
    (⟨.replied { code := errCallbackFailure }, w.issued⟩, { m with conn := w.conn })

/-- The outcome of an operation that has come back from the engine. -/
def afterReturn (m : Machine) : Except PyError Value × World → Outcome × Machine
  | (.ok v, w) => (⟨.returned v, w.issued⟩, { m with conn := w.conn, drive := none })
  | (.error e, w) => (⟨.raised e, w.issued⟩, { m with conn := w.conn, drive := none })

/-- **One step of the machine.** -/
def step (m : Machine) : Label → Option (Outcome × Machine)
  | .request r env =>
    match m.drive with
    | none => some (m.afterRequest (r.body.run env m.world))
    | some _ => none
  | .callback cb env =>
    match m.drive with
    | none => none
    | some (_, session) => some (m.afterCallback ((cb.body session).run env m.world))
  | .ret result env =>
    match m.drive with
    | none => none
    | some (d, _) => some (m.afterReturn ((d.finish result).run env m.world))

/-- A fresh object, `__cinit__`. -/
def fresh (host : Host) : Machine := { host }

end Machine

/-- The runs of the machine on a platform, under an assumption on what happens
to it. -/
abbrev Runs (host : Host) (Allowed : History → Machine → Label → Prop) :
    History → Machine → Prop :=
  Run Machine.step Allowed (Machine.fresh host)

end Ngh2
