import Ngh2.Contract

/-!
# A deterministic engine that is driven

Elsewhere the engine is whatever happens in a run. To compare two runs it has
to be the same engine in both, so here it has a state of its own, and what it
does next is a function of the state (`Engine.move`). What is known of it is
how it is driven by `nghttp2_session_send`. It offers the bytes of a prepared
frame until they are accepted, and prepares the next one only then. Before a
DATA frame it asks for a length and then for the body, and it learns how long
the frame is and whether it ends the stream, not by which path the bytes will
come. A callback that refuses bytes, or that asks for a pause, makes the
function return, and the engine goes on at the same place when it is driven
again. Frames are not padded.

Between two calls the engine rests at a `Cursor`: a state, and the rest of the
frame that is being sent.
-/

namespace Ngh2

open Nghttp2

/-! ## The engine -/

/-- Whether a callback only reports what became of a frame or of a stream. -/
def Callback.isReport : Callback → Bool
  | .frameSent _ => true
  | .frameNotSent _ _ => true
  | .streamClosed _ _ => true
  | _ => false

/-- A callback that only reports. -/
abbrev Report : Type := { callback : Callback // callback.isReport = true }

/-- **What the engine learns of a body** when it asks for a DATA frame: how long
the frame is, whether the body ends with it and how, and what was submitted
meanwhile. -/
structure Granted where
  length : Nat
  eof : Bool
  noEndStream : Bool
  issued : List Issued

/-- What the engine learns from a reply. -/
def Reply.granted (reply : Reply) (issued : List Issued) : Granted where
  length := reply.code.toNat
  eof := reply.eof
  noEndStream := reply.noEndStream
  issued := issued

/-- **What the engine does next**, where no frame is prepared. The functions say
which state it is in afterwards. -/
inductive Move (S : Type) where
  /-- There is nothing to do, or an error: the function returns. -/
  | done (result : Int)
  /-- It reports something. -/
  | report (callback : Report) (reported : Int → List Issued → S)
  /-- It has prepared a frame; the state is the one after it was sent. -/
  | frame (bytes : Bytes) (sent : S)
  /-- It prepares a DATA frame. The `ceiling` is what its windows make of the
  length that is proposed, `deferred` is the state in which it does not ask
  again until it is told to, and the frame has a header. -/
  | data (streamId : StreamId) (sessionWindow streamWindow : Int) (remoteMaxFrameSize : Nat)
      (ceiling : Int → Nat) (deferred : S) (framed : Granted → FrameHeader × S)

/-- **Where the engine rests**: its state, and the bytes of a frame that were
not accepted yet. With these, the state is the one after the frame. -/
structure Cursor (S : Type) where
  state : S
  left : Bytes := []

/-- **A deterministic engine.** -/
structure Engine (S : Type) where
  /-- What it does next. -/
  move : S → Move S
  /-- What it answers to a call. -/
  reply : Cursor S → EngineCall → Int

/-- **Where the engine is** while it is driven. -/
inductive Stage (S : Type) where
  /-- At a cursor. -/
  | ready (cursor : Cursor S)
  /-- It knows the length to ask a body for. -/
  | reading (state : S) (streamId : StreamId) (length : Nat) (deferred : S)
      (framed : Granted → FrameHeader × S)
  /-- The binding is to write the frame. -/
  | direct (sent : S) (streamId : StreamId) (header : FrameHeader) (length : Nat)
  /-- The function is to return, and the engine will rest at a cursor. -/
  | stopped (result : Int) (cursor : Cursor S)

/-- Where the engine rests once the function has returned. -/
def Stage.resting {S : Type} : Stage S → Stage S
  | .stopped _ cursor => .ready cursor
  | stage => stage

/-- The engine after the reply to an offer of bytes. -/
def Stage.offered {S : Type} (cursor : Cursor S) (data : Bytes) (sent : S) (code : Int) : Stage S :=
  if code = errWouldblock then .stopped 0 cursor
  else if code < 0 then .stopped errCallbackFailure cursor
  else .ready { state := sent, left := data.drop code.toNat }

/-- The bytes that were accepted are not offered again. -/
theorem Stage.offered_accepted {S : Type} (cursor : Cursor S) (data : Bytes) (sent : S) (n : Nat) :
    Stage.offered cursor data sent n = .ready { state := sent, left := data.drop n } := by
  have hblocked : (n : Int) ≠ errWouldblock :=
    fun h => absurd (h ▸ Int.natCast_nonneg n) (by decide)
  have hfailed : ¬ (n : Int) < 0 := by omega
  rw [Stage.offered, if_neg hblocked, if_neg hfailed]
  rfl

namespace Engine

variable {S : Type} (E : Engine S)

/-- What is outside the binding during a step. -/
def env (cursor : Cursor S) (memory : Alloc → Bool) : Env :=
  { reply := E.reply cursor, alloc := memory }

/-- What happens next while the engine is driven. -/
def label (memory : Alloc → Bool) : Stage S → Label
  | .ready cursor =>
    if cursor.left = [] then
      match E.move cursor.state with
      | .done result => .ret result (E.env cursor memory)
      | .report callback _ => .callback callback.val (E.env cursor memory)
      | .frame bytes _ => .callback (.collectOutput bytes) (E.env cursor memory)
      | .data streamId sessionWindow streamWindow remoteMaxFrameSize _ _ _ =>
        .callback (.dataFrameLength streamId sessionWindow streamWindow remoteMaxFrameSize)
          (E.env cursor memory)
    else .callback (.collectOutput cursor.left) (E.env cursor memory)
  | .reading state streamId length _ _ =>
    .callback (.readBody streamId length) (E.env { state } memory)
  | .direct sent streamId header length =>
    .callback (.sendBody streamId 0 header length) (E.env { state := sent } memory)
  | .stopped result cursor => .ret result (E.env cursor memory)

/-- The engine after the reply to a move. -/
def afterMove (state : S) (reply : Reply) (issued : List Issued) : Stage S :=
  match E.move state with
  | .done _ => .ready { state }
  | .report _ reported =>
    if reply.code = errCallbackFailure then .stopped errCallbackFailure { state }
    else .ready { state := reported reply.code issued }
  | .frame bytes sent => .offered { state } bytes sent reply.code
  | .data streamId _ _ _ ceiling deferred framed =>
    if reply.code < 0 then .stopped errCallbackFailure { state }
    else .reading state streamId (ceiling reply.code) deferred framed

/-- **The engine after the reply to a callback.** -/
def next (stage : Stage S) (reply : Reply) (issued : List Issued) : Stage S :=
  match stage with
  | .ready cursor =>
    if cursor.left = [] then E.afterMove cursor.state reply issued
    else .offered cursor cursor.left cursor.state reply.code
  | .reading state streamId _ deferred framed =>
    if reply.code = errPause then .stopped 0 { state }
    else if reply.code = errDeferred then .ready { state := deferred }
    else if reply.code < 0 then .stopped errCallbackFailure { state }
    else
      let (header, sent) := framed (reply.granted issued)
      if reply.noCopy then .direct sent streamId header reply.code.toNat
      else .ready { state := sent, left := header.val ++ reply.buffer }
  | .direct sent _ _ _ =>
    if reply.code = 0 then .ready { state := sent }
    else .stopped errCallbackFailure { state := sent }
  | .stopped _ cursor => .ready cursor

section Moves

variable {E} {memory : Alloc → Bool} {state : S} {cursor : Cursor S}

theorem label_done {result : Int} (h : E.move state = .done result) :
    E.label memory (.ready { state }) = .ret result (E.env { state } memory) := by
  simp [label, h]

theorem label_report {callback : Report} {reported : Int → List Issued → S}
    (h : E.move state = .report callback reported) :
    E.label memory (.ready { state }) = .callback callback.val (E.env { state } memory) := by
  simp [label, h]

theorem next_report {callback : Report} {reported : Int → List Issued → S}
    (h : E.move state = .report callback reported) (reply : Reply) (issued : List Issued) :
    E.next (.ready { state }) reply issued
      = if reply.code = errCallbackFailure then .stopped errCallbackFailure { state }
        else .ready { state := reported reply.code issued } := by
  simp [next, afterMove, h]

theorem label_frame {bytes : Bytes} {sent : S} (h : E.move state = .frame bytes sent) :
    E.label memory (.ready { state })
      = .callback (.collectOutput bytes) (E.env { state } memory) := by
  simp [label, h]

theorem next_frame {bytes : Bytes} {sent : S} (h : E.move state = .frame bytes sent)
    (reply : Reply) (issued : List Issued) :
    E.next (.ready { state }) reply issued = .offered { state } bytes sent reply.code := by
  simp [next, afterMove, h]

theorem label_data {streamId : StreamId} {sessionWindow streamWindow : Int}
    {remoteMaxFrameSize : Nat} {ceiling : Int → Nat} {deferred : S}
    {framed : Granted → FrameHeader × S}
    (h : E.move state
      = .data streamId sessionWindow streamWindow remoteMaxFrameSize ceiling deferred framed) :
    E.label memory (.ready { state })
      = .callback (.dataFrameLength streamId sessionWindow streamWindow remoteMaxFrameSize)
          (E.env { state } memory) := by
  simp [label, h]

theorem next_data {streamId : StreamId} {sessionWindow streamWindow : Int}
    {remoteMaxFrameSize : Nat} {ceiling : Int → Nat} {deferred : S}
    {framed : Granted → FrameHeader × S}
    (h : E.move state
      = .data streamId sessionWindow streamWindow remoteMaxFrameSize ceiling deferred framed)
    (reply : Reply) (issued : List Issued) :
    E.next (.ready { state }) reply issued
      = if reply.code < 0 then .stopped errCallbackFailure { state }
        else .reading state streamId (ceiling reply.code) deferred framed := by
  simp [next, afterMove, h]

section Reading

variable {streamId : StreamId} {length : Nat} {deferred : S} {framed : Granted → FrameHeader × S}
  {reply : Reply} {issued : List Issued}

theorem next_paused (h : reply.code = errPause) :
    E.next (.reading state streamId length deferred framed) reply issued
      = .stopped 0 { state } := by
  simp [next, h]

theorem next_deferred (h : reply.code = errDeferred) :
    E.next (.reading state streamId length deferred framed) reply issued
      = .ready { state := deferred } := by
  have hpause : ¬ errDeferred = errPause := by decide
  simp [next, h, hpause]

/-- The engine goes on with the frame whose length it was told. -/
theorem next_granted {n : Nat} (h : reply.code = n) :
    E.next (.reading state streamId length deferred framed) reply issued
      = if reply.noCopy then .direct (framed (reply.granted issued)).2 streamId
          (framed (reply.granted issued)).1 n
        else .ready {
          state := (framed (reply.granted issued)).2
          left := (framed (reply.granted issued)).1.val ++ reply.buffer } := by
  have hpause : ¬ (n : Int) = errPause := fun h => absurd (h ▸ Int.natCast_nonneg n) (by decide)
  have hdeferred : ¬ (n : Int) = errDeferred :=
    fun h => absurd (h ▸ Int.natCast_nonneg n) (by decide)
  have hfailed : ¬ (n : Int) < 0 := by omega
  have hlength : reply.code.toNat = n := by rw [h, Int.toNat_natCast]
  unfold next
  dsimp only
  rw [hlength, h, if_neg hpause, if_neg hdeferred, if_neg hfailed]

theorem next_written (h : reply.code = 0) {header : FrameHeader} {n : Nat} :
    E.next (.direct state streamId header n) reply issued = .ready { state } := by
  simp [next, h]

end Reading

theorem label_left (h : cursor.left ≠ []) :
    E.label memory (.ready cursor)
      = .callback (.collectOutput cursor.left) (E.env cursor memory) := by
  simp [label, h]

theorem next_left (h : cursor.left ≠ []) (reply : Reply) (issued : List Issued) :
    E.next (.ready cursor) reply issued = .offered cursor cursor.left cursor.state reply.code := by
  simp [next, h]

end Moves

/-- **Nothing is left to do** for an engine that wants neither to read nor to
write: driving it makes no callback. -/
def RestsWhenDone : Prop :=
  ∀ cursor, E.reply cursor .sessionWantRead = 0 → E.reply cursor .sessionWantWrite = 0 →
    cursor.left = [] ∧ ∃ result, E.move cursor.state = .done result

end Engine

/-! ## The connection and the engine -/

/-- The connection, and the engine that is driven. -/
structure Duo (S : Type) where
  machine : Machine
  stage : Stage S

namespace Engine

variable {S : Type} (E : Engine S)

/-- **One step while the engine is driven**: a callback, or the return. -/
def step (memory : Alloc → Bool) (d : Duo S) : Option (Outcome × Duo S) :=
  (d.machine.step (E.label memory d.stage)).map fun p =>
    (p.1, {
      machine := p.2
      stage := match p.1.response with
        | .replied reply => E.next d.stage reply p.1.issued
        | _ => d.stage.resting })

/-- **The engine is driven to its return**, in so many callbacks, and
`data_to_send` returns bytes. `Memory` is what is assumed of allocations. -/
inductive Drives (Memory : (Alloc → Bool) → Prop) : Nat → Duo S → Bytes → Duo S → Prop
  | returned {memory : Alloc → Bool} {d d' : Duo S} {w : Bytes} {issued : List Issued}
      (affords : Memory memory)
      (taken : E.step memory d = some (⟨.returned (.bytes w), issued⟩, d')) :
      Drives Memory 0 d w d'
  | further {memory : Alloc → Bool} {d d₁ d' : Duo S} {w : Bytes} {n : Nat} {reply : Reply}
      {issued : List Issued} (affords : Memory memory)
      (taken : E.step memory d = some (⟨.replied reply, issued⟩, d₁))
      (rest : Drives Memory n d₁ w d') :
      Drives Memory (n + 1) d w d'

/-- **A call of `data_to_send` returns bytes**, with the engine at rest before
and after it. -/
inductive Gives (Memory : (Alloc → Bool) → Prop) (amount : Option Nat) (m : Machine)
    (cursor : Cursor S) : Bytes → Machine → Cursor S → Prop
  | atOnce {memory : Alloc → Bool} {m' : Machine} {w : Bytes} {issued : List Issued}
      (affords : Memory memory)
      (taken : m.step (.request (.dataToSend amount) (E.env cursor memory))
        = some (⟨.returned (.bytes w), issued⟩, m')) : Gives Memory amount m cursor w m' cursor
  | driven {memory : Alloc → Bool} {m₁ m' : Machine} {cursor' : Cursor S} {w : Bytes} {n : Nat}
      {issued : List Issued} (affords : Memory memory)
      (taken : m.step (.request (.dataToSend amount) (E.env cursor memory))
        = some (⟨.entered, issued⟩, m₁))
      (drives : E.Drives Memory n ⟨m₁, .ready cursor⟩ w ⟨m', .ready cursor'⟩) :
      Gives Memory amount m cursor w m' cursor'

/-- **Calls of `data_to_send`, one after the other**, with what they return. -/
inductive Outputs (Memory : (Alloc → Bool) → Prop) :
    List (Option Nat) → Machine → Cursor S → List Bytes → Machine → Cursor S → Prop
  | nil {m : Machine} {cursor : Cursor S} : Outputs Memory [] m cursor [] m cursor
  | cons {amount : Option Nat} {amounts : List (Option Nat)} {m m₁ m' : Machine}
      {cursor cursor₁ cursor' : Cursor S} {w : Bytes} {ws : List Bytes}
      (first : E.Gives Memory amount m cursor w m₁ cursor₁)
      (rest : Outputs Memory amounts m₁ cursor₁ ws m' cursor') :
      Outputs Memory (amount :: amounts) m cursor (w :: ws) m' cursor'

/-- Drive the engine for so many steps at most, while allocations succeed. -/
def drive : Nat → Duo S → Option (Bytes × Duo S)
  | 0, _ => none
  | fuel + 1, d =>
    match E.step (fun _ => true) d with
    | some (⟨.returned (.bytes w), _⟩, d') => some (w, d')
    | some (⟨.replied _, _⟩, d₁) => drive fuel d₁
    | _ => none

/-- What is executed is a way to drive it. -/
theorem drives_of_drive {fuel : Nat} {d d' : Duo S} {w : Bytes}
    (h : E.drive fuel d = some (w, d')) :
    ∃ n, E.Drives (fun memory => memory = fun _ => true) n d w d' := by
  induction fuel generalizing d with
  | zero => exact absurd h (by simp [drive])
  | succ fuel ih =>
    rw [drive] at h
    split at h
    · next htaken =>
      obtain ⟨rfl, rfl⟩ := Prod.mk.inj (Option.some_inj.mp h)
      exact ⟨0, .returned rfl htaken⟩
    · next htaken =>
      obtain ⟨n, hdrives⟩ := ih h
      exact ⟨n + 1, .further rfl htaken hdrives⟩
    · exact absurd h (by simp)

end Engine

end Ngh2
