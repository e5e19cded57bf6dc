import Ngh2.Nghttp2

/-!
# What is recorded about a stream

An abstract account of the four maps keyed by stream – bodies, responses,
deferred resets and local errors – that says what they are for, and nothing of
how they are kept. A record of a stream changes for one of a few reasons
(`Happening`): a message is accepted, a reset is deferred, the engine reads or
ends or drops or closes, everything is discarded. `Records.record` says what
each does, so that the records of a connection are a function of what
happened to it (`recordsOf`), and `Records.Permits` says when each may happen.

A body is a byte string here. That the chunk queues and the dictionaries of
the connection implement this account is shown where the two are related.
-/

namespace Ngh2

open Nghttp2

/-- A body that was opened: the bytes not yet handed to the engine, whether
its end was requested, whether its source sleeps, and the trailers that are to
end it. -/
structure Body where
  queue : Bytes := []
  ended : Bool := false
  deferred : Bool := false
  trailers : Option (List Header) := none
  deriving DecidableEq, Repr

namespace Body

/-- Add bytes at the end, and set the end. -/
def add (b : Body) (chunk : Bytes) (endStream : Bool) : Body :=
  { b with queue := b.queue ++ chunk, ended := endStream }

/-- End the body with trailers. -/
def endWith (b : Body) (headers : List Header) : Body :=
  { b with trailers := some headers, ended := true }

/-- Wake the source. -/
def resume (b : Body) : Body := { b with deferred := false }

/-- **How many bytes there are to give**: on the copying path as many as there
are, on the other as many as a `size_t` counter of them says. -/
def available (w : PointerWidth) (b : Body) (copy : Bool) : Nat :=
  if copy then b.queue.length else b.queue.length % w.modulus

/-- **What the engine is told when it asks for up to `length` bytes**: how
many there are, and whether the frame ends the body. On the copying path the
bytes are part of the answer; on the other they are asked for again. -/
def answer (w : PointerWidth) (b : Body) (length : Nat) (copy : Bool) : Reply :=
  let n := min length (b.available w copy)
  let reply : Reply :=
    { code := n, noCopy := !copy, buffer := if copy then b.queue.take n else [] }
  if b.ended && decide (n = b.available w copy) then
    { reply with eof := true, noEndStream := b.trailers.isSome }
  else if n = 0 then { reply with code := errDeferred }
  else reply

section Answer

variable (w : PointerWidth) (b : Body)

@[simp] theorem available_copied : b.available w true = b.queue.length := rfl

/-- **While the counter has not wrapped the two paths go by one number.** -/
theorem available_eq {w : PointerWidth} {b : Body} (h : b.queue.length < w.modulus)
    (copy : Bool) : b.available w copy = b.queue.length := by
  cases copy with
  | true => rfl
  | false => exact Nat.mod_eq_of_lt h

@[simp] theorem answer_noCopy (length : Nat) (copy : Bool) :
    (b.answer w length copy).noCopy = !copy := by
  unfold answer
  dsimp only
  split
  · rfl
  · split <;> rfl

@[simp] theorem answer_buffer (length : Nat) (copy : Bool) :
    (b.answer w length copy).buffer
      = if copy then b.queue.take (min length b.queue.length) else [] := by
  have htaken : (if copy then b.queue.take (min length (b.available w copy)) else [])
      = if copy then b.queue.take (min length b.queue.length) else [] := by
    cases copy <;> rfl
  unfold answer
  dsimp only
  split
  · exact htaken
  · split
    · exact htaken
    · exact htaken

end Answer

/-- The body after an answer: the bytes given are gone, the trailers are
submitted, and a source with nothing to give sleeps. -/
def answered (b : Body) (reply : Reply) : Body :=
  { b with
    queue := b.queue.drop reply.buffer.length
    deferred := b.deferred || decide (reply.code = errDeferred)
    trailers := if reply.noEndStream then none else b.trailers }

/-- The body after bytes were sent from its queue. -/
def sent (b : Body) (data : Bytes) : Body := { b with queue := b.queue.drop data.length }

end Body

/-- **The records of all streams.** -/
structure Records where
  /-- The body, where one was opened. -/
  body : StreamId → Option Body := fun _ => none
  /-- Whether a final response was submitted. -/
  responded : StreamId → Bool := fun _ => false
  /-- The code of the reset that waits for the local end. -/
  reset : StreamId → Option Nat := fun _ => none
  /-- The local error the closure will name. -/
  error : StreamId → Option PyError := fun _ => none

/-- The message calls on a stream, in the words of the wire. -/
inductive Message where
  | request (endStream : Bool)
  | informational
  | response (endStream : Bool)
  | data (chunk : Bytes) (endStream : Bool)
  | trailers (headers : List Header)
  deriving DecidableEq, Repr

/-- The messages that are queued behind a source. -/
def Message.queues : Message → Bool
  | .data _ _ => true
  | .trailers _ => true
  | _ => false

/-- **What may happen to the records.** -/
inductive Happening where
  /-- A message call returned. -/
  | message (streamId : StreamId) (message : Message)
  /-- A message call raised, but not without effect: the engine had taken the
  message and there was no memory for the rest, or data or trailers were queued
  and the source could not be woken. -/
  | stuck (streamId : StreamId) (message : Message)
  /-- A reset was accepted for later. -/
  | resetDeferred (streamId : StreamId) (errorCode : Nat)
  /-- The engine asked for up to `length` bytes of a body. -/
  | read (streamId : StreamId) (length : Nat) (reply : Reply)
  /-- The engine had bytes of a body written to the output. -/
  | sent (streamId : StreamId) (data : Bytes)
  /-- The engine reported that the frame that ends the local direction was
  sent. -/
  | localEnd (streamId : StreamId)
  /-- The engine reported that a frame about a stream was not sent. -/
  | notSent (streamId : StreamId) (error : PyError)
  /-- The engine reported that a stream closed. -/
  | closed (streamId : StreamId)
  /-- Everything that cannot progress was discarded. -/
  | discarded
  /-- Nothing that concerns the records. -/
  | nothing
  deriving DecidableEq, Repr

/-- The stream a happening may start a record for. -/
def Happening.starts : Happening → Option StreamId
  | .message s (.request _) => some s
  | .message s (.response _) => some s
  | .stuck s (.request _) => some s
  | .stuck s (.response _) => some s
  | .resetDeferred s _ => some s
  | .notSent s _ => some s
  | _ => none

/-- The stream of a request that the engine took. -/
def Happening.requests : Happening → Option StreamId
  | .message s (.request _) => some s
  | .stuck s (.request _) => some s
  | _ => none

namespace Records

/-- Change the body of a stream, where there is one. -/
def onBody (r : Records) (streamId : StreamId) (f : Body → Body) : Records :=
  { r with body := Function.update r.body streamId ((r.body streamId).map f) }

/-- Open a body. -/
def openBody (r : Records) (streamId : StreamId) : Records :=
  { r with body := Function.update r.body streamId (some {}) }

/-- **The records after something happened.** -/
def record (r : Records) : Happening → Records
  | .message s (.request endStream) => if endStream then r else r.openBody s
  | .message _ .informational => r
  | .message s (.response endStream) =>
    let r := { r with responded := Function.update r.responded s true }
    if endStream then r else r.openBody s
  | .message s (.data chunk endStream) =>
    r.onBody s fun b =>
      if chunk ≠ [] ∨ endStream then (b.add chunk endStream).resume else b.add chunk endStream
  | .message s (.trailers headers) => r.onBody s fun b => (b.endWith headers).resume
  | .stuck s (.data chunk endStream) => r.onBody s (·.add chunk endStream)
  | .stuck s (.trailers headers) => r.onBody s (·.endWith headers)
  | .stuck s (.request endStream) => if endStream then r else r.openBody s
  | .stuck s (.response _) => { r with responded := Function.update r.responded s true }
  | .stuck _ .informational => r
  | .resetDeferred s errorCode =>
    { r with reset := Function.update r.reset s (some errorCode) }
  | .read s _ reply => r.onBody s (·.answered reply)
  | .sent s data => r.onBody s (·.sent data)
  | .localEnd s => { r with reset := Function.update r.reset s none }
  | .notSent s error => { r with error := Function.update r.error s (some error) }
  | .closed s =>
    { body := Function.update r.body s none
      responded := Function.update r.responded s false
      reset := Function.update r.reset s none
      error := Function.update r.error s none }
  | .discarded => {}
  | .nothing => r

/-- Whether the local direction of a stream is certain to end. -/
def locallyEnded (r : Records) (server : Bool) (s : StreamId) : Bool :=
  match r.body s with
  | some b => b.ended
  | none => !server || r.responded s

/-- **When something may happen**, on an endpoint of a role. -/
def Permits (w : PointerWidth) (r : Records) (server : Bool) : Happening → Prop
  | .message _ (.request _) => server = false
  | .message s .informational => server = true ∧ r.responded s = false
  | .message s (.response _) => server = true ∧ r.responded s = false
  | .message s _ => ∃ b, r.body s = some b ∧ b.ended = false
  | .stuck _ (.request _) => server = false
  | .stuck s (.response _) => server = true ∧ r.responded s = false
  | .stuck s _ => ∃ b, r.body s = some b ∧ b.ended = false ∧ b.deferred = true
  | .resetDeferred s _ => r.locallyEnded server s = true
  | .read s length reply =>
    reply = { code := errPause } ∨
      ∃ b copy, r.body s = some b ∧ reply = b.answer w length copy
  | .sent s data => ∃ b, r.body s = some b ∧ data = b.queue.take data.length
  | _ => True

/-! ## What leaves a map alone -/

section Frames

variable {r : Records}

/-- Local errors change by a report, a closure or a discard only. -/
theorem error_record {x : Happening} (hn : ∀ s error, x ≠ .notSent s error)
    (hc : ∀ s, x ≠ .closed s) (hd : x ≠ .discarded) : (r.record x).error = r.error := by
  cases x with
  | message s message =>
    cases message <;> unfold record <;> first | rfl | (dsimp only; split <;> rfl)
  | stuck s message =>
    cases message <;> unfold record <;> first | rfl | (dsimp only; split <;> rfl)
  | notSent s error => exact absurd rfl (hn s error)
  | closed s => exact absurd rfl (hc s)
  | discarded => exact absurd rfl hd
  | _ => rfl

end Frames

/-! ## Nothing is recorded for a stream -/

/-- Nothing is recorded for a stream. -/
structure Blank (r : Records) (s : StreamId) : Prop where
  body : r.body s = none
  responded : r.responded s = false
  reset : r.reset s = none
  error : r.error s = none

section Blank

variable {r : Records} {s : StreamId}

theorem blank_empty : Blank {} s := ⟨rfl, rfl, rfl, rfl⟩

/-- What is not there is not changed. -/
theorem Blank.onBody (h : r.Blank s) (t : StreamId) (f : Body → Body) : (r.onBody t f).Blank s := by
  refine ⟨?_, h.responded, h.reset, h.error⟩
  by_cases ht : s = t
  · subst ht
    simp [Records.onBody, h.body]
  · simpa [Records.onBody, ht] using h.body

theorem Blank.openBody (h : r.Blank s) {t : StreamId} (ht : s ≠ t) : (r.openBody t).Blank s := by
  refine ⟨?_, h.responded, h.reset, h.error⟩
  simpa [Records.openBody, ht] using h.body

theorem Blank.respond (h : r.Blank s) {t : StreamId} (ht : s ≠ t) :
    Blank { r with responded := Function.update r.responded t true } s :=
  ⟨h.body, by simpa [ht] using h.responded, h.reset, h.error⟩

/-- **Nothing is recorded for a stream until something starts a record for
it.** -/
theorem Blank.record {x : Happening} (h : r.Blank s) (hx : x.starts ≠ some s) :
    (r.record x).Blank s := by
  cases x with
  | message t message =>
    cases message with
    | request endStream =>
      have ht : s ≠ t := fun heq => hx (by simp [Happening.starts, heq])
      rw [Records.record]
      split
      · exact h
      · exact h.openBody ht
    | informational => exact h
    | response endStream =>
      have ht : s ≠ t := fun heq => hx (by simp [Happening.starts, heq])
      rw [Records.record]
      split
      · exact h.respond ht
      · exact (h.respond ht).openBody ht
    | data => exact h.onBody _ _
    | trailers => exact h.onBody _ _
  | stuck t message =>
    cases message with
    | request endStream =>
      have ht : s ≠ t := fun heq => hx (by simp [Happening.starts, heq])
      rw [Records.record]
      split
      · exact h
      · exact h.openBody ht
    | informational => exact h
    | response endStream => exact h.respond fun heq => hx (by simp [Happening.starts, heq])
    | data => exact h.onBody _ _
    | trailers => exact h.onBody _ _
  | resetDeferred t errorCode =>
    have ht : s ≠ t := fun heq => hx (by simp [Happening.starts, heq])
    exact ⟨h.body, h.responded, by simpa [Records.record, ht] using h.reset, h.error⟩
  | read => exact h.onBody _ _
  | sent => exact h.onBody _ _
  | localEnd t =>
    refine ⟨h.body, h.responded, ?_, h.error⟩
    by_cases ht : s = t
    · simp [Records.record, ht]
    · simpa [Records.record, ht] using h.reset
  | notSent t error =>
    have ht : s ≠ t := fun heq => hx (by simp [Happening.starts, heq])
    exact ⟨h.body, h.responded, h.reset, by simpa [Records.record, ht] using h.error⟩
  | closed t =>
    by_cases ht : s = t
    · subst ht
      constructor <;> simp [Records.record]
    · exact ⟨by simpa [Records.record, ht] using h.body,
        by simpa [Records.record, ht] using h.responded,
        by simpa [Records.record, ht] using h.reset,
        by simpa [Records.record, ht] using h.error⟩
  | discarded => exact blank_empty
  | nothing => exact h

/-- **Closing a stream leaves nothing recorded for it.** -/
theorem blank_closed : (r.record (.closed s)).Blank s := by
  constructor <;> simp [Records.record]

end Blank

/-! ## A reset that waits is not stuck -/

/-- **Every waiting reset will be carried out**: the local direction of its
stream is certain to end. On a server a body was opened by a response. -/
structure Ending (r : Records) (server : Bool) : Prop where
  ended : ∀ s, r.reset s ≠ none → r.locallyEnded server s = true
  responded : server = true → ∀ s, r.body s ≠ none → r.responded s = true

section Ending

variable {r : Records} {server : Bool}

theorem ending_empty : Ending {} server := ⟨fun _ h => absurd rfl h, fun _ _ h => absurd rfl h⟩

/-- Changing a body does not undo its end. -/
theorem Ending.onBody (h : r.Ending server) {t : StreamId} {f : Body → Body}
    (hf : ∀ b, r.body t = some b → b.ended = true → (f b).ended = true) :
    (r.onBody t f).Ending server := by
  refine ⟨fun s hs => ?_, fun hserver s hs => h.responded hserver s fun hnone => hs ?_⟩
  · have hended := h.ended s hs
    by_cases ht : s = t
    · subst ht
      cases hb : r.body s with
      | none => simpa [Records.onBody, locallyEnded, hb] using hended
      | some b =>
        have hbody : b.ended = true := by simpa [locallyEnded, hb] using hended
        simpa [Records.onBody, locallyEnded, hb] using hf b hb hbody
    · simpa [Records.onBody, locallyEnded, ht] using hended
  · by_cases ht : s = t
    · subst ht
      simp [Records.onBody, hnone]
    · simpa [Records.onBody, ht] using hnone

/-- A body is opened for a stream no reset waits for. -/
theorem Ending.openBody (h : r.Ending server) {t : StreamId} (hreset : r.reset t = none)
    (hresponded : server = true → r.responded t = true) : (r.openBody t).Ending server := by
  refine ⟨fun s hs => ?_, fun hserver s hs => ?_⟩
  · have ht : s ≠ t := fun heq => hs (heq ▸ hreset)
    simpa [Records.openBody, locallyEnded, ht] using h.ended s hs
  · by_cases ht : s = t
    · exact ht ▸ hresponded hserver
    · exact h.responded hserver s (by simpa [Records.openBody, ht] using hs)

/-- A response to a stream makes its local direction more certain to end. -/
theorem Ending.respond (h : r.Ending server) (t : StreamId) :
    Ending { r with responded := Function.update r.responded t true } server := by
  have hmono (s : StreamId) (hs : r.responded s = true) :
      Function.update r.responded t true s = true := by
    by_cases ht : s = t <;> simp [ht, hs]
  refine ⟨fun s hs => ?_, fun hserver s hs => hmono s (h.responded hserver s hs)⟩
  have hended := h.ended s hs
  simp only [locallyEnded] at hended ⊢
  split
  · simpa [*] using hended
  · next hnone =>
    rw [hnone] at hended
    rcases (Bool.or_eq_true _ _).mp hended with hclient | hresponded
    · simp [hclient]
    · simp [hmono s hresponded]

/-- **What is permitted keeps every waiting reset from being stuck**, if a new
request is for a stream no reset waits for. -/
theorem Ending.record {w : PointerWidth} {x : Happening} (h : r.Ending server)
    (hp : r.Permits w server x) (hfresh : ∀ s, x.requests = some s → r.reset s = none) :
    (r.record x).Ending server := by
  -- a body that may still be added to was not ended
  have hopen {t : StreamId} {f : Body → Body} (hp : ∃ b, r.body t = some b ∧ b.ended = false) :
      (r.onBody t f).Ending server := by
    obtain ⟨b, hb, hunended⟩ := hp
    refine h.onBody fun b' hb' hended => ?_
    obtain rfl : b' = b := Option.some_inj.mp (hb'.symm.trans hb)
    exact absurd hended (by simp [hunended])
  cases x with
  | message t message =>
    cases message with
    | request endStream =>
      rw [Records.record]
      split
      · exact h
      · refine h.openBody (hfresh t rfl) fun hserver => ?_
        exact absurd hserver (by simp [show server = false from hp])
    | informational => exact h
    | response endStream =>
      obtain ⟨hserver, hunresponded⟩ := hp
      rw [Records.record]
      split
      · exact h.respond t
      · refine (h.respond t).openBody ?_ fun _ => by simp
        -- a reset waits on a server only behind a response
        by_contra hreset
        have hended := h.ended t hreset
        cases hb : r.body t with
        | none => simp [locallyEnded, hb, hserver, hunresponded] at hended
        | some b =>
          exact absurd (h.responded hserver t (by simp [hb])) (by simp [hunresponded])
    | data => exact hopen hp
    | trailers => exact hopen hp
  | stuck t message =>
    cases message with
    | request endStream =>
      rw [Records.record]
      split
      · exact h
      · refine h.openBody (hfresh t rfl) fun hserver => ?_
        exact absurd hserver (by simp [show server = false from hp])
    | informational => exact h
    | response endStream => exact h.respond t
    | data =>
      obtain ⟨b, hb, hunended, -⟩ := hp
      exact hopen ⟨b, hb, hunended⟩
    | trailers =>
      obtain ⟨b, hb, hunended, -⟩ := hp
      exact hopen ⟨b, hb, hunended⟩
  | resetDeferred t errorCode =>
    refine ⟨fun s hs => ?_, h.responded⟩
    by_cases ht : s = t
    · exact ht ▸ hp
    · exact h.ended s (by simpa [Records.record, ht] using hs)
  | read => exact h.onBody fun b _ hended => hended
  | sent => exact h.onBody fun b _ hended => hended
  | localEnd t =>
    refine ⟨fun s hs => h.ended s fun hnone => hs ?_, h.responded⟩
    by_cases ht : s = t <;> simp [Records.record, ht, hnone]
  | notSent => exact ⟨h.ended, h.responded⟩
  | closed t =>
    refine ⟨fun s hs => ?_, fun hserver s hs => ?_⟩
    · have ht : s ≠ t := fun heq => hs (by simp [Records.record, heq])
      simpa [Records.record, locallyEnded, ht] using
        h.ended s (by simpa [Records.record, ht] using hs)
    · have ht : s ≠ t := fun heq => hs (by simp [Records.record, heq])
      simpa [Records.record, ht] using
        h.responded hserver s (by simpa [Records.record, ht] using hs)
  | discarded => exact ending_empty
  | nothing => exact h

end Ending

end Records

/-- **The records after a history of happenings**, newest first. -/
def recordsOf : List Happening → Records
  | [] => {}
  | x :: xs => (recordsOf xs).record x

end Ngh2
