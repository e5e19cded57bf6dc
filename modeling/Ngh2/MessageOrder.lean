import Ngh2.Grammar
import Ngh2.Wakeups

/-!
# Messages are accepted in order

The binding stores no grammar. Whether it accepts a message on a stream is
decided by what it keeps for other purposes: a body, the flag that says that
the body was ended, and the set of streams that have their final response.
Between them they tell the phase of a stream that is still open
(`Records.Follows`), so that what is accepted is in the grammar. The other way
around the phase tells what is kept (`Records.Admits`), so that what is in the
grammar is not refused for its place; this needs that no message is left half
accepted.

A message is left half accepted in two ways. The engine has taken it and there
is memory for part of its record only (`Machine.RecordAfforded`), or it was
queued and its source cannot be woken, and the fatal code that says so finds no
memory for its exception (`Machine.WakeReported`).

A stream whose closure was reported has no record, and the engine does not
track it. It is at no phase, and nothing is accepted on it.
-/

namespace Ngh2

open Nghttp2 Effect Message

/-! ## Specification -/

/-- The message that an operation is, on which stream, when it returns. -/
def Request.message (value : Value) : Request → Option (StreamId × Message)
  | .sendRequest _ endStream =>
    match value with
    | .streamId s => some (s, .request endStream)
    | _ => none
  | .sendResponse s _ endStream => some (s, .response endStream)
  | .sendInformationalResponse s _ => some (s, .informational)
  | .sendTrailers s headers => some (s, .trailers headers)
  | .sendData s chunk endStream => some (s, .data chunk endStream)
  | _ => none

/-- The message that was accepted, if the step was one that returned. -/
def Entry.message (e : Entry Machine Label Outcome) : Option (StreamId × Message) :=
  match e.label, e.outcome.response with
  | .request r _, .returned value => r.message value
  | _, _ => none

/-- The messages accepted on a stream, oldest first. -/
def messagesOn : History → StreamId → List Message
  | [], _ => []
  | e :: h, s =>
    messagesOn h s ++ (((Entry.message e).filter (·.1 = s)).map Prod.snd).toList

/-- The texts of a message that is out of order. -/
def orderTexts : List String :=
  ["stream has no open body", "stream body is already ended", "a response is already pending",
    "informational responses must precede the final response"]

/-- Whether an exception says that a message is out of order. -/
def PyError.isOrder : PyError → Bool
  | .ngh2 .streamState text => decide (text ∈ orderTexts)
  | _ => false

/-- What the order of messages assumes of the engine, besides the life of a
stream: a sleeping source can be woken. -/
def ResumesCleanly (h : History) (m : Machine) (l : Label) : Prop :=
  ClosesCleanly h m l ∧ ResumesDeferred h l

instance (h : History) (m : Machine) (l : Label) : Decidable (ResumesCleanly h m l) :=
  inferInstanceAs (Decidable (_ ∧ _))

/-- Streams close cleanly, and every message that the engine takes is recorded
whole. -/
def RecordsCleanly (h : History) (m : Machine) (l : Label) : Prop :=
  ClosesCleanly h m l ∧ m.RecordAfforded l

instance (h : History) (m : Machine) (l : Label) : Decidable (RecordsCleanly h m l) :=
  inferInstanceAs (Decidable (ClosesCleanly h m l ∧ m.RecordAfforded l))

theorem RecordsCleanly.ends {h : History} {m : Machine} {l : Label} (ha : RecordsCleanly h m l) :
    FailureEndsDrive h l := ha.1.1

/-- A sleeping source can be woken, and no message is left half accepted. -/
def AcceptsCleanly (h : History) (m : Machine) (l : Label) : Prop :=
  ResumesCleanly h m l ∧ m.RecordAfforded l ∧ m.WakeReported l

instance (h : History) (m : Machine) (l : Label) : Decidable (AcceptsCleanly h m l) :=
  inferInstanceAs (Decidable (ResumesCleanly h m l ∧ m.RecordAfforded l ∧ m.WakeReported l))

theorem AcceptsCleanly.records {h : History} {m : Machine} {l : Label}
    (ha : AcceptsCleanly h m l) : RecordsCleanly h m l := ⟨ha.1.1, ha.2.1⟩

/-! ## What raises for its place -/

section Raising

variable {host : Host} {env : Env} {w w' : World} {x : PyError} {s : StreamId}

/-- An engine error names the engine: it does not begin as these texts do. -/
theorem errorMessage_notMem (host : Host) (code : Int) : errorMessage host code ∉ orderTexts := by
  unfold errorMessage orderTexts
  intro hmem
  have hhead := List.mem_map_of_mem (f := fun text : String => text.toList.head?) hmem
  simp at hhead

/-- **The engine refuses no message for its place** in the words of the
binding. -/
theorem nghttp2Error_isOrder (code : Int) : (nghttp2Error host code).isOrder = false := by
  have htext := decide_eq_false (errorMessage_notMem host code)
  simp only [nghttp2Error, apply_ite PyError.isOrder]
  simp only [PyError.isOrder, htext, ite_self]

/-- An exception is not about the order of messages. -/
abbrev Unordered (x : PyError) : Prop := x.isOrder = false

theorem raisesOnly_conn : RaisesOnly Unordered conn :=
  raisesOnly_bind raisesOnly_get fun _ => raisesOnly_pure _

theorem raisesOnly_ask (q : EngineCall) : RaisesOnly Unordered (ask q) :=
  raisesOnly_bind raisesOnly_conn fun _ =>
    raisesOnly_bind (raisesOnly_modify _) fun _ =>
      raisesOnly_bind raisesOnly_read fun _ => raisesOnly_pure _

theorem raisesOnly_raiseIf {b : Prop} [Decidable b] (hx : x.isOrder = false) :
    RaisesOnly Unordered (raiseIf b x) :=
  raisesOnly_ite (fun _ => raisesOnly_raise hx) fun _ => raisesOnly_pure _

theorem raisesOnly_allocate (a : Alloc) : RaisesOnly Unordered (allocate a) :=
  raisesOnly_bind raisesOnly_read fun _ => raisesOnly_raiseIf rfl

theorem raisesOnly_submit (q : EngineCall) : RaisesOnly Unordered (submit q) := by
  refine raisesOnly_bind (raisesOnly_ask q) fun result =>
    raisesOnly_ite (fun _ => raisesOnly_bind ?_ fun _ => raisesOnly_pure _) fun _ =>
      raisesOnly_pure _
  intro r s e he
  rw [run_raiseNativeError] at he
  split at he
  · exact Except.error.inj he ▸ nghttp2Error_isOrder _
  · obtain rfl := Except.error.inj he
    rfl

theorem raisesOnly_recordBody (t : StreamId) : RaisesOnly Unordered (recordBody t) :=
  raisesOnly_bind (raisesOnly_allocate _) fun _ => raisesOnly_modify _

theorem raisesOnly_queueChunk (body : BodySource) (chunk : Bytes) (endStream : Bool) :
    RaisesOnly Unordered (queueChunk s body chunk endStream) :=
  raisesOnly_bind (raisesOnly_bind raisesOnly_get fun _ => raisesOnly_pure _) fun _ =>
    raisesOnly_bind (raisesOnly_modify _) fun _ => raisesOnly_bind (raisesOnly_modify _) fun _ =>
      raisesOnly_pure _

theorem raisesOnly_requireActive : RaisesOnly Unordered requireActive :=
  raisesOnly_bind
    (raisesOnly_bind raisesOnly_conn fun _ =>
      raisesOnly_bind (raisesOnly_raiseIf rfl) fun _ => raisesOnly_raiseIf rfl)
    fun _ => raisesOnly_bind raisesOnly_conn fun _ => raisesOnly_raiseIf rfl

theorem raisesOnly_resumeBody (body : BodySource) : RaisesOnly Unordered (resumeBody s body) :=
  raisesOnly_bind (raisesOnly_submit _) fun _ => raisesOnly_modify _

/-- A check that refuses nothing for its place, and keeps the connection, was
passed by what was refused for its place later. -/
theorem passed_of_order {α β : Type} {y : M α} {f : α → M β} (hy : RaisesOnly Unordered y)
    (hk : Effect.Keeps World.conn y) (h : (y >>= f).run env w = (.error x, w'))
    (hx : x.isOrder = true) :
    ∃ a w₁, y.run env w = (.ok a, w₁) ∧ w₁.conn = w.conn ∧ (f a).run env w₁ = (.error x, w') := by
  rcases bind_raised h with h | ⟨a, w₁, hrun, h⟩
  · exact absurd (hy env w x (congrArg Prod.fst h)) (by simp [hx])
  · exact ⟨a, w₁, hrun, (congrArg (World.conn ∘ Prod.snd) hrun).symm.trans (hk env w), h⟩

/-- What was refused for its place was refused by a usable connection. -/
theorem usable_of_order {α : Type} {f : M α}
    (h : (do requireActive; f : M α).run env w = (.error x, w')) (hx : x.isOrder = true) :
    w.conn.Usable ∧ f.run env w = (.error x, w') := by
  by_cases husable : w.conn.Usable
  · rw [run_bind, run_requireActive, if_pos husable] at h
    exact ⟨husable, h⟩
  · obtain ⟨_, _, hrun, -, -⟩ := passed_of_order raisesOnly_requireActive
      (fun r w => by rw [run_requireActive]; split <;> rfl) h hx
    rw [run_requireActive, if_neg husable] at hrun
    exact absurd (congrArg Prod.fst hrun) (by simp)

/-- **Why a chunk or trailers are refused for their place**: no body is open. -/
theorem ended_of_order {α : Type} {f : BodySource → M α}
    (hf : ∀ body, RaisesOnly Unordered (f body))
    (h : (do f (← openBody s) : M α).run env w = (.error x, w')) (hx : x.isOrder = true) :
    ∀ body, w.conn.bodies.lookup s = some body → body.ended = true := by
  intro body hb
  by_contra hended
  have hopen : (openBody s).run env w = (.ok body, w) := by simp [openBody, hb, hended]
  rw [run_bind, hopen] at h
  exact absurd (hf body env w x (congrArg Prod.fst h)) (by simp [hx])

/-- **Why a response is refused for its place**: there is a final one. -/
theorem responded_of_order {α : Type} {text text' : String} {f : M α} (hf : RaisesOnly Unordered f)
    (h : (do
        requireServer text
        requireStream s
        raiseIf (s ∈ (← conn).responses) (.ngh2 .streamState text')
        f : M α).run env w = (.error x, w')) (hx : x.isOrder = true) :
    w.conn.server = true ∧ s ∈ w.conn.responses := by
  obtain ⟨_, w₁, hserver, hconn, h⟩ := passed_of_order (y := requireServer text)
    (raisesOnly_bind raisesOnly_conn fun _ => raisesOnly_raiseIf rfl)
    (fun r w => by simp [requireServer]) h hx
  obtain ⟨_, w₂, -, hconn', h⟩ := passed_of_order (y := requireStream s)
    (raisesOnly_bind (raisesOnly_ask _) fun _ => raisesOnly_raiseIf rfl)
    (fun r w => by rw [run_requireStream]) h hx
  constructor
  · simpa [requireServer] using congrArg Prod.fst hserver
  · by_contra hfirst
    simp only [run_bind, run_conn, hconn', hconn, run_raiseIf, if_neg hfirst] at h
    exact absurd (hf env _ x (congrArg Prod.fst h)) (by simp [hx])

/-- What stands in the way of a message, if its place does. -/
def Connection.Refuses (c : Connection) (s : StreamId) : Message → Prop
  | .request _ => False
  | .informational => c.server = true ∧ s ∈ c.responses
  | .response _ => c.server = true ∧ s ∈ c.responses
  | _ => ∀ body, c.bodies.lookup s = some body → body.ended = true

/-- **Why a call is refused for its place.** -/
theorem Request.refuses_of_order {r : Request} {value : Value} {message : Message}
    (hr : r.message value = some (s, message)) (h : r.body.run env w = (.error x, w'))
    (hx : x.isOrder = true) : w.conn.Usable ∧ w.conn.Refuses s message := by
  cases r with
  | sendRequest headers endStream =>
    have hidentified (t : StreamId) : RaisesOnly Unordered (do
        allocate .identifier
        return .value (.streamId t) : M Started) :=
      raisesOnly_bind (raisesOnly_allocate _) fun _ => raisesOnly_pure _
    have hordered : RaisesOnly Unordered (Ngh2.sendRequest headers endStream) :=
      raisesOnly_bind raisesOnly_requireActive fun _ =>
        raisesOnly_bind (raisesOnly_bind raisesOnly_conn fun _ => raisesOnly_raiseIf rfl) fun _ =>
          raisesOnly_bind (raisesOnly_ask _) fun _ =>
            raisesOnly_bind (raisesOnly_raiseIf rfl) fun _ =>
            raisesOnly_bind (raisesOnly_submit _) fun _ => raisesOnly_ite
              (fun _ => raisesOnly_bind (raisesOnly_recordBody _) fun _ => hidentified _)
              fun _ => hidentified _
    exact absurd (hordered env w x (congrArg Prod.fst h)) (by simp [hx])
  | sendResponse streamId headers endStream =>
    obtain ⟨rfl, rfl⟩ := Prod.mk.inj (Option.some_inj.mp hr)
    obtain ⟨husable, h⟩ := usable_of_order h hx
    refine ⟨husable, responded_of_order ?_ h hx⟩
    exact raisesOnly_bind (raisesOnly_submit _) fun _ =>
      raisesOnly_bind (raisesOnly_allocate _) fun _ =>
        raisesOnly_bind (raisesOnly_modify _) fun _ =>
          raisesOnly_ite (fun _ => raisesOnly_bind (raisesOnly_recordBody _) fun _ =>
            raisesOnly_pure _)
          fun _ => raisesOnly_pure _
  | sendInformationalResponse streamId headers =>
    obtain ⟨rfl, rfl⟩ := Prod.mk.inj (Option.some_inj.mp hr)
    obtain ⟨husable, h⟩ := usable_of_order h hx
    refine ⟨husable, responded_of_order ?_ h hx⟩
    exact raisesOnly_bind (raisesOnly_submit _) fun _ => raisesOnly_pure _
  | sendTrailers streamId headers =>
    obtain ⟨rfl, rfl⟩ := Prod.mk.inj (Option.some_inj.mp hr)
    obtain ⟨husable, h⟩ := usable_of_order h hx
    refine ⟨husable, ended_of_order (fun body => ?_) h hx⟩
    exact raisesOnly_bind (raisesOnly_modify _) fun _ => raisesOnly_ite
      (fun _ => raisesOnly_bind (raisesOnly_resumeBody _) fun _ => raisesOnly_pure _)
      fun _ => raisesOnly_pure _
  | sendData streamId chunk endStream =>
    obtain ⟨rfl, rfl⟩ := Prod.mk.inj (Option.some_inj.mp hr)
    obtain ⟨husable, h⟩ := usable_of_order h hx
    refine ⟨husable, ended_of_order (fun body => ?_) h hx⟩
    exact raisesOnly_bind (raisesOnly_queueChunk _ _ _) fun _ => raisesOnly_ite
      (fun _ => raisesOnly_bind (raisesOnly_resumeBody _) fun _ => raisesOnly_pure _)
      fun _ => raisesOnly_pure _
  | _ => exact absurd hr (by simp [Request.message])

end Raising

/-! ## What the records tell of the phase -/

/-- The message a happening accepts on a stream. -/
def Happening.messageOn (s : StreamId) : Happening → Option Message
  | .message t y => if t = s then some y else none
  | _ => none

namespace Records

variable {w : PointerWidth} {r : Records} {server : Bool} {requested requested' : Prop}
  {s : StreamId} {p q : Phase} {x : Happening} {y : Message}

/-- **What is accepted is of the phase**: an open body that was not ended is
being sent, a server that did not respond has sent nothing final, and a client
that made no request has sent nothing. -/
structure Follows (r : Records) (server : Bool) (requested : Prop) (s : StreamId) (p : Phase) :
    Prop where
  sending : ∀ b, r.body s = some b → b.ended = false → p = .sending
  unresponded : server = true → r.responded s = false → p = .fresh
  unrequested : server = false → ¬ requested → p = .fresh

/-- **What is of the phase is accepted.** -/
structure Admits (r : Records) (server : Bool) (s : StreamId) (p : Phase) : Prop where
  sending : p = .sending → ∃ b, r.body s = some b ∧ b.ended = false
  fresh : server = true → p = .fresh → r.responded s = false

/-- Nothing is recorded before anything was sent. -/
theorem follows_empty : Follows {} server requested s .fresh :=
  ⟨fun _ hb => absurd hb (by simp), fun _ _ => rfl, fun _ _ => rfl⟩

theorem admits_empty : Admits {} server s .fresh := ⟨fun h => absurd h (by simp), fun _ _ => rfl⟩

theorem onBody_body (t : StreamId) (f : Body → Body) :
    (r.onBody t f).body s = (r.body s).map fun b => if s = t then f b else b := by
  by_cases ht : s = t
  · subst ht
    simp [Records.onBody]
  · simp [Records.onBody, ht]

/-- **What is no message on a stream leaves its phase alone**: it does not
respond, and it opens no body and ends none. A message that is stuck where it
was queued ends one. -/
theorem record_quiet (hp : r.Permits w server x) (hx : x.messageOn s = none) (hc : x ≠ .closed s)
    (hd : x ≠ .discarded) (hqueues : ∀ t message, x = .stuck t message →
      message.queues = true ∨ message = .request true) :
    (r.record x).responded s = r.responded s ∧
    ∃ f : Body → Body, (r.record x).body s = (r.body s).map f ∧
      (∀ b, r.body s = some b → (f b).ended = false → b.ended = false) ∧
      ((∀ message, message.queues = true → x ≠ .stuck s message) → ∀ b, (f b).ended = b.ended) := by
  -- a stream whose body is not touched
  have hsame {b : Option Body} (hb : b = r.body s) : ∃ f : Body → Body, b = (r.body s).map f ∧
      (∀ b, r.body s = some b → (f b).ended = false → b.ended = false) ∧
      ((∀ message, message.queues = true → x ≠ .stuck s message) → ∀ b, (f b).ended = b.ended) :=
    ⟨id, by rw [hb, Option.map_id_fun, id], fun _ _ h => h, fun _ _ => rfl⟩
  -- a body that is changed without being ended
  have hkept {t : StreamId} {g : Body → Body} (hg : ∀ b, (g b).ended = b.ended) :
      ∃ f : Body → Body, (r.onBody t g).body s = (r.body s).map f ∧
        (∀ b, r.body s = some b → (f b).ended = false → b.ended = false) ∧
        ((∀ message, message.queues = true → x ≠ .stuck s message) →
          ∀ b, (f b).ended = b.ended) := by
    have hended (b : Body) : (if s = t then g b else b).ended = b.ended := by
      split
      · exact hg b
      · rfl
    exact ⟨_, onBody_body t g, fun b _ h => (hended b).symm.trans h, fun _ => hended⟩
  have hother {t : StreamId} {y : Message} (hx : (Happening.message t y).messageOn s = none) :
      s ≠ t := by
    rintro rfl
    simp [Happening.messageOn] at hx
  cases x with
  | message t message =>
    have ht := hother hx
    cases message with
    | request endStream =>
      cases endStream with
      | true => exact ⟨rfl, hsame rfl⟩
      | false => exact ⟨rfl, hsame (Function.update_of_ne ht _ _)⟩
    | informational => exact ⟨rfl, hsame rfl⟩
    | response endStream =>
      cases endStream with
      | true => exact ⟨Function.update_of_ne ht _ _, hsame rfl⟩
      | false => exact ⟨Function.update_of_ne ht _ _, hsame (Function.update_of_ne ht _ _)⟩
    | data => exact ⟨rfl, hsame (Function.update_of_ne ht _ _)⟩
    | trailers => exact ⟨rfl, hsame (Function.update_of_ne ht _ _)⟩
  | stuck t message =>
    rcases hqueues t message rfl with hq | rfl
    · have hopened : ∃ b, r.body t = some b ∧ b.ended = false ∧ b.deferred = true := by
        cases message with
        | data => exact hp
        | trailers => exact hp
        | _ => simp [Message.queues] at hq
      obtain ⟨b, hb, hunended, -⟩ := hopened
      by_cases ht : s = t
      · subst ht
        -- what is stuck was behind a body that was not ended
        have hbody : ∃ f : Body → Body,
            (r.record (.stuck s message)).body s = (r.body s).map f := by
          cases message with
          | data => exact ⟨_, Function.update_self _ _ _⟩
          | trailers => exact ⟨_, Function.update_self _ _ _⟩
          | _ => simp [Message.queues] at hq
        obtain ⟨f, hf⟩ := hbody
        refine ⟨?_, f, hf, fun b' hb' _ => ?_, fun h => absurd rfl (h message hq)⟩
        · cases message <;> first | rfl | simp [Message.queues] at hq
        · obtain rfl : b = b' := Option.some_inj.mp (hb.symm.trans hb')
          exact hunended
      · cases message with
        | data => exact ⟨rfl, hsame (Function.update_of_ne ht _ _)⟩
        | trailers => exact ⟨rfl, hsame (Function.update_of_ne ht _ _)⟩
        | _ => simp [Message.queues] at hq
    · -- a request that ended its stream leaves nothing
      exact ⟨rfl, hsame rfl⟩
  | read => exact ⟨rfl, hkept fun _ => rfl⟩
  | sent => exact ⟨rfl, hkept fun _ => rfl⟩
  | closed t =>
    have ht : s ≠ t := fun heq => hc (by rw [heq])
    exact ⟨Function.update_of_ne ht _ _, hsame (Function.update_of_ne ht _ _)⟩
  | discarded => exact absurd rfl hd
  | _ => exact ⟨rfl, hsame rfl⟩

/-- The phase is that of the records after what is no message on the stream. -/
theorem Follows.quiet (h : r.Follows server requested s p) (hp : r.Permits w server x)
    (hx : x.messageOn s = none) (hc : x ≠ .closed s) (hd : x ≠ .discarded)
    (hqueues : ∀ t message, x = .stuck t message →
      message.queues = true ∨ message = .request true)
    (hrequested : requested → requested') : (r.record x).Follows server requested' s p := by
  obtain ⟨hresponded, f, hbody, hended, -⟩ := record_quiet hp hx hc hd hqueues
  refine ⟨fun b hb hunended => ?_,
    fun hserver hr => h.unresponded hserver (hresponded.symm.trans hr),
    fun hclient hr => h.unrequested hclient fun hold => hr (hrequested hold)⟩
  rw [hbody] at hb
  obtain ⟨b', hb', rfl⟩ := Option.map_eq_some_iff.mp hb
  exact h.sending b' hb' (hended b' hb' hunended)

theorem Admits.quiet (h : r.Admits server s p) (hp : r.Permits w server x)
    (hx : x.messageOn s = none) (hc : x ≠ .closed s) (hd : x ≠ .discarded)
    (hqueues : ∀ t message, x = .stuck t message →
      message.queues = true ∨ message = .request true)
    (hstuck : ∀ message, message.queues = true → x ≠ .stuck s message) :
    (r.record x).Admits server s p := by
  obtain ⟨hresponded, f, hbody, -, hended⟩ := record_quiet hp hx hc hd hqueues
  refine ⟨fun hsending => ?_, fun hserver hfresh => hresponded.trans (h.fresh hserver hfresh)⟩
  obtain ⟨b, hb, hunended⟩ := h.sending hsending
  exact ⟨f b, by rw [hbody, hb, Option.map_some], (hended hstuck b).trans hunended⟩

/-- A chunk sets the end of a body. -/
theorem ended_data {b : Body} (hb : r.body s = some b) (chunk : Bytes) (endStream : Bool) :
    ∃ b', (r.record (.message s (.data chunk endStream))).body s = some b' ∧
      b'.ended = endStream := by
  rw [Records.record, onBody_body, hb]
  refine ⟨_, rfl, ?_⟩
  dsimp only
  rw [if_pos rfl]
  split <;> rfl

/-- Trailers end it. -/
theorem ended_trailers {b : Body} (hb : r.body s = some b) (headers : List Header) :
    ∃ b', (r.record (.message s (.trailers headers))).body s = some b' ∧ b'.ended = true := by
  rw [Records.record, onBody_body, hb]
  refine ⟨_, rfl, ?_⟩
  dsimp only
  rw [if_pos rfl]
  rfl

/-- **A message that is permitted moves the phase**, and the phase it moves to
is that of the records after it. -/
theorem Follows.message (h : r.Follows server requested s p)
    (hp : r.Permits w server (.message s y))
    (hfresh : ∀ endStream, y = .request endStream → ¬ requested)
    (hnew : ∀ endStream, y = .request endStream → requested') (hold : requested → requested') :
    ∃ q, Phase.next server p y = some q ∧
      (r.record (.message s y)).Follows server requested' s q := by
  -- no body is open before the head
  have hunopened (hfresh : p = .fresh) {b : Body} (hb : r.body s = some b)
    (hended : b.ended = false) :
      False := by
    rw [h.sending b hb hended] at hfresh
    exact absurd hfresh (by simp)
  cases y with
  | request endStream =>
    obtain rfl : server = false := hp
    obtain rfl := h.unrequested rfl (hfresh endStream rfl)
    refine ⟨_, rfl, ?_, fun h => absurd h (by simp), fun _ hr => absurd (hnew endStream rfl) hr⟩
    cases endStream with
    | true => exact fun b hb hended => (hunopened rfl hb hended).elim
    | false => exact fun _ _ _ => rfl
  | informational =>
    obtain ⟨rfl, hresponded⟩ := hp
    obtain rfl := h.unresponded rfl hresponded
    exact ⟨_, rfl, h.sending, h.unresponded, fun h => absurd h (by simp)⟩
  | response endStream =>
    obtain ⟨rfl, hresponded⟩ := hp
    obtain rfl := h.unresponded rfl hresponded
    refine ⟨_, rfl, ?_, fun _ hr => ?_, fun h => absurd h (by simp)⟩
    · cases endStream with
      | true => exact fun b hb hended => (hunopened rfl hb hended).elim
      | false => exact fun _ _ _ => rfl
    · cases endStream <;> simp [Records.record, Records.openBody] at hr
  | data chunk endStream =>
    obtain ⟨b, hb, hunended⟩ := hp
    obtain rfl := h.sending b hb hunended
    refine ⟨_, rfl, fun b' hb' hended => ?_, fun hserver hr => ?_, fun hclient hr => ?_⟩
    · obtain ⟨b'', hb'', hends⟩ := ended_data hb chunk endStream
      obtain rfl : b' = b'' := Option.some_inj.mp (hb'.symm.trans hb'')
      rw [← hends, hended]
      rfl
    · exact absurd (h.unresponded hserver hr) (by simp)
    · exact absurd (h.unrequested hclient fun hold' => hr (hold hold')) (by simp)
  | trailers headers =>
    obtain ⟨b, hb, hunended⟩ := hp
    obtain rfl := h.sending b hb hunended
    refine ⟨_, rfl, fun b' hb' hended => ?_, fun hserver hr => ?_, fun hclient hr => ?_⟩
    · obtain ⟨b'', hb'', hends⟩ := ended_trailers hb headers
      obtain rfl : b' = b'' := Option.some_inj.mp (hb'.symm.trans hb'')
      exact absurd hended (by simp [hends])
    · exact absurd (h.unresponded hserver hr) (by simp)
    · exact absurd (h.unrequested hclient fun hold' => hr (hold hold')) (by simp)

/-- **The records admit what the phase a message moves to admits.** -/
theorem Admits.message (hp : r.Permits w server (.message s y))
    (hq : Phase.next server p y = some q) :
    (r.record (.message s y)).Admits server s q := by
  -- a head or a chunk that does not end the stream leaves a body open
  have hbegun {r' : Records} {endStream : Bool}
      (hopen : endStream = false → ∃ b, r'.body s = some b ∧ b.ended = false) :
      r'.Admits server s (Phase.begun endStream) := by
    cases endStream with
    | true =>
      exact ⟨fun h => absurd h (by simp [Phase.begun]), fun _ h => absurd h (by simp [Phase.begun])⟩
    | false => exact ⟨fun _ => hopen rfl, fun _ h => absurd h (by simp [Phase.begun])⟩
  unfold Phase.next at hq
  split at hq
  · split at hq
    · exact absurd hq (by simp)
    · obtain rfl := Option.some_inj.mp hq
      refine hbegun fun hend => ?_
      subst hend
      exact ⟨{}, Function.update_self _ _ _, rfl⟩
  · split at hq
    · obtain rfl := Option.some_inj.mp hq
      exact ⟨fun h => absurd h (by simp), fun _ _ => hp.2⟩
    · exact absurd hq (by simp)
  · split at hq
    · obtain rfl := Option.some_inj.mp hq
      refine hbegun fun hend => ?_
      subst hend
      exact ⟨{}, Function.update_self _ _ _, rfl⟩
    · exact absurd hq (by simp)
  · obtain rfl := Option.some_inj.mp hq
    obtain ⟨b, hb, -⟩ := hp
    refine hbegun fun hend => ?_
    subst hend
    exact ended_data hb _ _
  · obtain rfl := Option.some_inj.mp hq
    exact ⟨fun h => absurd h (by simp), fun _ h => absurd h (by simp)⟩
  · exact absurd hq (by simp)

end Records

/-! ## Steps -/

section Steps

variable {host : Host} {h : History} {m : Machine} {l : Label} {p : Outcome × Machine}
  {s : StreamId} {y : Message}

/-- What raised accepted nothing. -/
theorem messageOn_stuckOr (issued : List Issued) (t : StreamId) (y : Message) (s : StreamId) :
    (stuckOr issued t y).messageOn s = none := by
  unfold stuckOr
  split <;> rfl

theorem messageOn_ite_stuck {b : Prop} [Decidable b] (t : StreamId) (y : Message) (s : StreamId) :
    (if b then Happening.stuck t y else .nothing).messageOn s = none := by
  split <;> rfl

/-- A callback accepts nothing. -/
theorem Callback.messageOn_happening (cb : Callback) (before after : Machine) (reply : Reply)
    (s : StreamId) : (cb.happening before after reply).messageOn s = none := by
  unfold Callback.happening
  split
  any_goals split
  any_goals split
  all_goals rfl

/-- A pair is on a stream, or not. -/
theorem messageOn_message (t : StreamId) (y : Message) (s : StreamId) :
    (Happening.message t y).messageOn s = (((some (t, y)).filter (·.1 = s)).map Prod.snd) := by
  by_cases ht : t = s <;> simp [Happening.messageOn, ht]

/-- An operation accepts the message it is, if it returns. -/
theorem Request.messageOn_happening (r : Request) (env : Env) (o : Outcome) (s : StreamId) :
    (r.happening env o).messageOn s = (match o.response with
      | .returned value => ((r.message value).filter (·.1 = s)).map Prod.snd
      | _ => none) := by
  cases r with
  | sendRequest headers endStream =>
    unfold Request.happening
    cases o.response with
    | returned value =>
      cases value with
      | streamId t => exact messageOn_message t _ s
      | _ => exact messageOn_ite_stuck _ _ s
    | _ => exact messageOn_ite_stuck _ _ s
  | sendResponse =>
    unfold Request.happening
    cases o.response with
    | returned value => exact messageOn_message _ _ s
    | _ => exact messageOn_ite_stuck _ _ s
  | sendInformationalResponse =>
    unfold Request.happening
    cases o.response with
    | returned value => exact messageOn_message _ _ s
    | _ => rfl
  | sendTrailers | sendData =>
    unfold Request.happening
    cases o.response with
    | returned value => exact messageOn_message _ _ s
    | _ => exact messageOn_stuckOr _ _ _ s
  | resetStream t errorCode afterEndStream =>
    have hnone : (Request.happening env o (.resetStream t errorCode afterEndStream)).messageOn s
        = none := by
      cases afterEndStream with
      | false => rfl
      | true =>
        unfold Request.happening
        cases o.response with
        | returned => dsimp only; split <;> rfl
        | _ => rfl
    rw [hnone]
    split <;> rfl
  | _ =>
    unfold Request.happening
    cases o.response <;> rfl

/-- **The messages of a history are its happenings.** -/
theorem messageOn_happening (e : Entry Machine Label Outcome) (s : StreamId) :
    (happening e).messageOn s = ((Entry.message e).filter (·.1 = s)).map Prod.snd := by
  obtain ⟨m, l, o, m'⟩ := e
  cases l with
  | request r env =>
    refine (Request.messageOn_happening r env o s).trans ?_
    unfold Entry.message
    cases o.response <;> rfl
  | callback cb env =>
    unfold happening
    cases o.response with
    | replied reply => exact Callback.messageOn_happening cb m m' reply s
    | _ => rfl
  | ret result env =>
    unfold happening
    dsimp only
    split <;> rfl

theorem messagesOn_cons (e : Entry Machine Label Outcome) (h : History) (s : StreamId) :
    messagesOn (e :: h) s = messagesOn h s ++ ((happening e).messageOn s).toList := by
  rw [messagesOn, messageOn_happening]

/-- A message is accepted between two drives, by a usable connection. -/
theorem Stepped.usable_of_messageOn (hstep : Stepped m l p)
    (hy : (happening ⟨m, l, p.1, p.2⟩).messageOn s = some y) :
    m.drive = none ∧ m.conn.Usable ∧ (m.conn.Sound → p.2.conn.Sound) := by
  rw [messageOn_happening] at hy
  cases hstep with
  | @request r env q idle hr =>
    rw [Machine.afterRequest_conn]
    cases hr with
    | requested usable => exact ⟨idle, usable, fun h => h⟩
    | responded usable => exact ⟨idle, usable, fun h => h⟩
    | informed usable => exact ⟨idle, usable, fun h => h⟩
    | trailersQueued usable => exact ⟨idle, usable, fun h => h⟩
    | dataQueued usable => exact ⟨idle, usable, fun h => h⟩
    | answered quiet =>
      have hno (value : Value) : r.message value = none := by
        cases r <;> first | rfl | exact absurd quiet (by simp [Request.isQuiet])
      exact absurd hy (by simp [Entry.message, Machine.afterRequest, hno])
    | _ => exact absurd hy (by simp [Entry.message, Machine.afterRequest, Request.message])
  | callback => exact absurd hy (by simp [Entry.message])
  | ret => exact absurd hy (by simp [Entry.message])

/-- What accepts a message is that message. -/
theorem Happening.eq_of_messageOn {x : Happening} (hy : x.messageOn s = some y) :
    x = .message s y := by
  unfold Happening.messageOn at hy
  split at hy
  · split at hy
    · next ht =>
      obtain rfl := Option.some_inj.mp hy
      rw [ht]
    · exact absurd hy (by simp)
  · exact absurd hy (by simp)

/-- **Nothing is accepted on a closed stream**: it has no record, and the
engine does not track it. -/
theorem Runs.unclosed_of_messageOn (hrun : Runs host ClosesCleanly h m) (hbefore : m.conn.Sound)
    (hallowed : ClosesCleanly h m l) (hstep : Stepped m l p) (hsound : p.2.conn.Sound)
    (hy : (happening ⟨m, l, p.1, p.2⟩).messageOn s = some y) : s ∉ closedStreams h := by
  intro hclosed
  have hblank := Runs.blank_of_closed hrun hbefore s hclosed
  have hpermits := Runs.permits (fun ha => ha.1) hrun hbefore hstep hsound
  have horigin := hstep.origin hsound
  have hstarts := horigin.starts_open hallowed hclosed
  rw [Happening.eq_of_messageOn hy] at hpermits horigin hstarts
  have hnobody {b : Body} (hb : (recordsAfter h).body s = some b) : False := by
    rw [hblank.body] at hb
    exact absurd hb (by simp)
  cases horigin with
  | request => exact hstarts rfl
  | response => exact hstarts rfl
  | informational tracked => exact absurd tracked (not_le.mpr (hallowed.2.2.1 s hclosed))
  | data =>
    obtain ⟨b, hb, -⟩ := hpermits
    exact hnobody hb
  | trailers =>
    obtain ⟨b, hb, -⟩ := hpermits
    exact hnobody hb

/-- A connection that goes on after a step has discarded nothing. -/
theorem Stepped.undiscarded (hstep : Stepped m l p) (hsound : p.2.conn.Sound)
    (hterminating : p.2.conn.terminating = false) : happening ⟨m, l, p.1, p.2⟩ ≠ .discarded := by
  intro hdiscarded
  have horigin := hstep.origin hsound
  rw [hdiscarded] at horigin
  cases horigin with
  | terminated =>
    cases hstep with
    | request idle hr =>
      rw [Machine.afterRequest_conn] at hsound hterminating
      cases hr with
      | rejected calls =>
        exact absurd hdiscarded (by simp [happening, Request.happening, Machine.afterRequest])
      | failed => exact absurd hsound.1 (by simp [World.failed, Connection.invalidate])
      | unreported quiet => exact absurd quiet (by simp [Request.isQuiet])
      | answered quiet => exact absurd quiet (by simp [Request.isQuiet])
      | terminated => exact absurd hterminating (by simp [Connection.discardPendingState])
  | announced =>
    cases hstep with
    | ret driven hr =>
      rw [Machine.afterReturn_conn] at hsound hterminating
      simp only [happening, Machine.afterReturn_conn] at hdiscarded
      have hcloses {c : Connection} (hc : c.closed = m.conn.closed)
          (hd : (if m.conn.closed = false ∧ c.closed = true then Happening.discarded else .nothing)
            = .discarded) : False := by
        rw [if_neg fun h => absurd (h.1.symm.trans (hc.symm.trans h.2)) (by simp)] at hd
        exact absurd hd (by simp)
      cases hr with
      | failed => exact absurd hsound.1 (by simp [World.failed, Connection.invalidate])
      | sentThenFailed => exact absurd hsound.1 (by simp [World.failed, Connection.invalidate])
      | rejected => exact hcloses rfl hdiscarded
      | upgraded => exact hcloses rfl hdiscarded
      | received => exact hcloses rfl hdiscarded
      | sent => exact hcloses rfl hdiscarded
      | receivedLast => exact absurd hterminating (by simp [Connection.announced,
          Connection.terminate, Connection.discardPendingState])
      | receivedUnannounced => exact absurd hterminating (by simp [Connection.terminate,
          Connection.discardPendingState])
      | sentLast => exact absurd hterminating (by simp [Connection.outputTaken,
          Connection.announced, Connection.terminate, Connection.discardPendingState])

/-- What is not a closure report closes nothing. -/
theorem Stepped.unclosed (hstep : Stepped m l p) (hsound : p.2.conn.Sound)
    (hs : s ∉ closedStreams (⟨m, l, p.1, p.2⟩ :: h)) :
    happening ⟨m, l, p.1, p.2⟩ ≠ .closed s := by
  intro hclosed
  have horigin := hstep.origin hsound
  rw [hclosed] at horigin
  cases horigin with
  | closed => exact hs (mem_closedStreams_cons.mpr (.inl rfl))

end Steps

/-! ## Runs -/

section Runs

variable {host : Host} {h : History} {m : Machine} {l : Label} {p : Outcome × Machine}
  {s : StreamId} {y : Message}

/-- Nothing is sent before the connection is initialized. -/
theorem Runs.messages_uninitialized {Allowed : History → Machine → Label → Prop}
    (hrun : Runs host Allowed h m) : m.conn.initialized = false → ∀ s, messagesOn h s = [] := by
  refine Run.invariant (I := fun h m => m.conn.initialized = false → ∀ s, messagesOn h s = [])
    (fun _ _ => rfl) ?_ hrun
  intro h m l o m' hprior ih _ htaken hi s
  have hstep := Machine.stepped htaken
  have hbefore : m.conn.initialized = false :=
    Bool.eq_false_iff.mpr fun hinit => absurd (hstep.role hinit).1 (by simp [hi])
  rw [messagesOn_cons, ih hbefore s, List.nil_append]
  cases hy : (happening ⟨m, l, o, m'⟩).messageOn s with
  | none => rfl
  | some y =>
    have husable := (hstep.usable_of_messageOn hy).2.1
    exact absurd husable.2.1 (by simp [(Runs.idle hprior hbefore).2])

/-- A request that is accepted is for a stream that had none. -/
theorem Stepped.unrequested_of_messageOn (hallowed : ClosesCleanly h m l) (hstep : Stepped m l p)
    (hsound : p.2.conn.Sound) {endStream : Bool}
    (hy : (happening ⟨m, l, p.1, p.2⟩).messageOn s = some (.request endStream)) :
    s ∉ requestedStreams h := by
  have horigin := hstep.origin hsound
  rw [Happening.eq_of_messageOn hy] at horigin
  cases horigin with
  | request submitted accepted =>
    rw [← submitted] at accepted ⊢
    exact (hallowed.2.2.2.2 accepted).2.1

/-- An accepted message moves the phase of its stream, in its records too. -/
theorem Runs.follows_message (hrun : Runs host ClosesCleanly h m) (hbefore : m.conn.Sound)
    (hallowed : ClosesCleanly h m l) (hstep : Stepped m l p) (hsound : p.2.conn.Sound)
    (hy : (happening ⟨m, l, p.1, p.2⟩).messageOn s = some y) {q : Phase}
    (hq : Phase.after m.conn.server .fresh (messagesOn h s) = some q)
    (hf : (recordsAfter h).Follows m.conn.server (s ∈ requestedStreams h) s q) :
    ∃ q', Phase.next m.conn.server q y = some q' ∧
      Phase.after m.conn.server .fresh (messagesOn (⟨m, l, p.1, p.2⟩ :: h) s) = some q' ∧
      (recordsAfter (⟨m, l, p.1, p.2⟩ :: h)).Follows m.conn.server
        (s ∈ requestedStreams (⟨m, l, p.1, p.2⟩ :: h)) s q' := by
  have heq := Happening.eq_of_messageOn hy
  have hpermits := Runs.permits (fun ha => ha.1) hrun hbefore hstep hsound
  rw [heq] at hpermits
  obtain ⟨q', hnext, hf'⟩ := hf.message hpermits
    (fun endStream h => hstep.unrequested_of_messageOn hallowed hsound (h ▸ hy))
    (fun endStream h => mem_requestedStreams_cons.mpr
      (.inl (hstep.requested_of_happening hsound (by rw [heq, h]; rfl))))
    (fun h => mem_requestedStreams_cons.mpr (.inr h))
  refine ⟨q', hnext, ?_, ?_⟩
  · rw [messagesOn_cons, hy, Option.toList_some, Phase.after_concat, hq]
    exact hnext
  · rw [← heq] at hf'
    exact hf'

/-- **The phase of a stream is that of its records**, while the connection goes
on and the stream is not closed; and what was sent is in order. -/
theorem Runs.follows (hrun : Runs host RecordsCleanly h m) (hsound : m.conn.Sound) :
    (∀ s, messagesOn h s ∈ grammar m.conn.server) ∧
    (m.conn.terminating = false → ∀ s ∉ closedStreams h,
      ∃ q, Phase.after m.conn.server .fresh (messagesOn h s) = some q ∧
        (recordsAfter h).Follows m.conn.server (s ∈ requestedStreams h) s q) := by
  refine Runs.induct_sound
    (I := fun h m => (∀ s, messagesOn h s ∈ grammar m.conn.server) ∧
      (m.conn.terminating = false → ∀ s ∉ closedStreams h,
        ∃ q, Phase.after m.conn.server .fresh (messagesOn h s) = some q ∧
          (recordsAfter h).Follows m.conn.server (s ∈ requestedStreams h) s q))
    RecordsCleanly.ends
    ⟨fun _ => Phase.nil_mem_rest _ .fresh, fun _ _ _ => ⟨_, rfl, Records.follows_empty⟩⟩ ?_
    hrun hsound
  intro h m l p hprior hbefore ih hallowed hstep hsound
  have hends : ∀ {h m l}, ClosesCleanly h m l → FailureEndsDrive h l := fun ha => ha.1
  have hrun : Runs host ClosesCleanly h m := hprior.mono fun ha => ha.1
  cases hi : m.conn.initialized with
  | false =>
    obtain ⟨hdrive, hactive⟩ := Runs.idle hrun hi
    have hnothing := hstep.happening_inactive hdrive hactive hsound
    have hword (s : StreamId) : messagesOn (⟨m, l, p.1, p.2⟩ :: h) s = [] := by
      rw [messagesOn_cons, hnothing, Runs.messages_uninitialized hrun hi]
      rfl
    have hrecords : recordsAfter (⟨m, l, p.1, p.2⟩ :: h) = {} := by
      change (recordsAfter h).record (happening ⟨m, l, p.1, p.2⟩) = {}
      rw [hnothing, Runs.records_uninitialized hends hrun hbefore hi]
      rfl
    refine ⟨fun s => ?_, fun _ s _ => ⟨.fresh, ?_, ?_⟩⟩
    · rw [hword]
      exact Phase.nil_mem_rest _ .fresh
    · rw [hword]
      rfl
    · rw [hrecords]
      exact Records.follows_empty
  | true =>
    rw [(hstep.role hi).2]
    have hmoved {s : StreamId} {y : Message}
        (hy : (happening ⟨m, l, p.1, p.2⟩).messageOn s = some y) :
        ∃ q', Phase.after m.conn.server .fresh (messagesOn (⟨m, l, p.1, p.2⟩ :: h) s) = some q' ∧
          (recordsAfter (⟨m, l, p.1, p.2⟩ :: h)).Follows m.conn.server
            (s ∈ requestedStreams (⟨m, l, p.1, p.2⟩ :: h)) s q' := by
      obtain ⟨q, hq, hf⟩ := ih.2 (hstep.usable_of_messageOn hy).2.1.2.2 s
        (Runs.unclosed_of_messageOn hrun hbefore hallowed.1 hstep hsound hy)
      obtain ⟨q', -, hq', hf'⟩ := Runs.follows_message hrun hbefore hallowed.1 hstep hsound hy hq hf
      exact ⟨q', hq', hf'⟩
    have hsame {s : StreamId} (hy : (happening ⟨m, l, p.1, p.2⟩).messageOn s = none) :
        messagesOn (⟨m, l, p.1, p.2⟩ :: h) s = messagesOn h s := by
      rw [messagesOn_cons, hy, Option.toList_none, List.append_nil]
    refine ⟨fun s => ?_, fun hterminating s hs => ?_⟩
    · cases hy : (happening ⟨m, l, p.1, p.2⟩).messageOn s with
      | none => exact hsame hy ▸ ih.1 s
      | some y =>
        obtain ⟨q', hq', -⟩ := hmoved hy
        exact mem_grammar_iff.mpr ⟨q', hq'⟩
    · cases hy : (happening ⟨m, l, p.1, p.2⟩).messageOn s with
      | none =>
        obtain ⟨q, hq, hf⟩ := ih.2 (hstep.unterminated hsound hterminating) s
          fun hmem => hs (mem_closedStreams_cons.mpr (.inr hmem))
        refine ⟨q, hsame hy ▸ hq, ?_⟩
        exact hf.quiet (Runs.permits hends hrun hbefore hstep hsound) hy
          (hstep.unclosed hsound hs) (hstep.undiscarded hsound hterminating)
          (fun t message hx => hstep.queues_of_stuck hsound hallowed.2 hx)
          fun hmem => mem_requestedStreams_cons.mpr (.inr hmem)
      | some y => exact hmoved hy

/-- **The records admit what the phase of a stream admits**, if every source
that sleeps could be woken. -/
theorem Runs.admits (hrun : Runs host AcceptsCleanly h m) (hsound : m.conn.Sound) :
    m.conn.terminating = false → ∀ s ∉ closedStreams h, ∀ q,
      Phase.after m.conn.server .fresh (messagesOn h s) = some q →
        (recordsAfter h).Admits m.conn.server s q := by
  have hends : ∀ {h m l}, ClosesCleanly h m l → FailureEndsDrive h l := fun ha => ha.1
  refine Runs.induct_sound
    (I := fun h m => m.conn.terminating = false → ∀ s ∉ closedStreams h, ∀ q,
      Phase.after m.conn.server .fresh (messagesOn h s) = some q →
        (recordsAfter h).Admits m.conn.server s q)
    (fun ha => ha.1.1.1) (fun _ s _ q hq => Option.some_inj.mp hq ▸ Records.admits_empty) ?_
    hrun hsound
  intro h m l p hrun hbefore ih hallowed hstep hsound hterminating s hs q hq
  have hclean : Runs host ClosesCleanly h m := hrun.mono fun ha => ha.1.1
  have hqueues (t : StreamId) (message : Message)
      (hx : happening ⟨m, l, p.1, p.2⟩ = .stuck t message) :
      message.queues = true ∨ message = .request true :=
    hstep.queues_of_stuck hsound hallowed.2.1 hx
  cases hi : m.conn.initialized with
  | false =>
    obtain ⟨hdrive, hactive⟩ := Runs.idle hrun hi
    have hnothing := hstep.happening_inactive hdrive hactive hsound
    rw [messagesOn_cons, hnothing, Runs.messages_uninitialized hrun hi] at hq
    obtain rfl := Option.some_inj.mp hq
    change ((recordsAfter h).record (happening ⟨m, l, p.1, p.2⟩)).Admits _ s .fresh
    rw [hnothing, Runs.records_uninitialized hends hclean hbefore hi]
    exact Records.admits_empty
  | true =>
    rw [(hstep.role hi).2] at hq ⊢
    have hbeforeTerminating := hstep.unterminated hsound hterminating
    have hopen : s ∉ closedStreams h := fun hmem => hs (mem_closedStreams_cons.mpr (.inr hmem))
    have hpermits := Runs.permits hends hclean hbefore hstep hsound
    cases hy : (happening ⟨m, l, p.1, p.2⟩).messageOn s with
    | none =>
      rw [messagesOn_cons, hy, Option.toList_none, List.append_nil] at hq
      exact (ih hbeforeTerminating s hopen q hq).quiet hpermits hy (hstep.unclosed hsound hs)
        (hstep.undiscarded hsound hterminating) hqueues
        (Runs.never_stuck hclean hbefore hallowed.1.2 hallowed.2.2 hstep hsound s)
    | some y =>
      obtain ⟨q₀, hq₀, hf⟩ :=
        (Runs.follows (hrun.mono AcceptsCleanly.records) hbefore).2 hbeforeTerminating s hopen
      obtain ⟨q', hnext, hq', -⟩ :=
        Runs.follows_message hclean hbefore hallowed.1.1 hstep hsound hy hq₀ hf
      obtain rfl : q' = q := Option.some_inj.mp (hq'.symm.trans hq)
      have heq := Happening.eq_of_messageOn hy
      rw [heq] at hpermits
      change ((recordsAfter h).record (happening ⟨m, l, p.1, p.2⟩)).Admits _ s q'
      rw [heq]
      exact Records.Admits.message hpermits hnext

/-- **A message that continues the word of its stream is not refused for its
place.** -/
theorem Runs.not_refuses (hrun : Runs host AcceptsCleanly h m) (hsound : m.conn.Sound)
    (hterminating : m.conn.terminating = false) (hs : s ∉ closedStreams h)
    (hword : messagesOn h s ++ [y] ∈ grammar m.conn.server) : ¬ m.conn.Refuses s y := by
  have hclean : Runs host ClosesCleanly h m := hrun.mono fun ha => ha.1.1
  obtain ⟨q', hq'⟩ := mem_grammar_iff.mp hword
  obtain ⟨q, hq, -⟩ :=
    (Runs.follows (hrun.mono AcceptsCleanly.records) hsound).2 hterminating s hs
  have hadmits := Runs.admits hrun hsound hterminating s hs q hq
  rw [← (Runs.records_eq (fun ha => ha.1) hclean hsound).2] at hadmits
  rw [Phase.after_concat, hq, Option.bind_some] at hq'
  intro hrefuses
  have hresponded (hfresh : q = .fresh) (h : m.conn.server = true ∧ s ∈ m.conn.responses) :
      False :=
    absurd h.2 (of_decide_eq_false (hadmits.fresh h.1 hfresh))
  have hended (hsending : q = .sending)
      (h : ∀ body, m.conn.bodies.lookup s = some body → body.ended = true) : False := by
    obtain ⟨b, hb, hunended⟩ := hadmits.sending hsending
    obtain ⟨body, hbody, rfl⟩ := Option.map_eq_some_iff.mp hb
    exact absurd (h body hbody) (by simp [show body.ended = false from hunended])
  cases y with
  | request => exact hrefuses
  | informational =>
    cases q with
    | fresh => exact hresponded rfl hrefuses
    | _ => exact absurd hq' (by simp [Phase.next])
  | response =>
    cases q with
    | fresh => exact hresponded rfl hrefuses
    | _ => exact absurd hq' (by simp [Phase.next])
  | data =>
    cases q with
    | sending => exact hended rfl hrefuses
    | _ => exact absurd hq' (by simp [Phase.next])
  | trailers =>
    cases q with
    | sending => exact hended rfl hrefuses
    | _ => exact absurd hq' (by simp [Phase.next])

/-- **What was sent on a stream is in order**, in every state of a run. -/
theorem Runs.messages_mem (hrun : Runs host RecordsCleanly h m) :
    ∀ s, messagesOn h s ∈ grammar m.conn.server := by
  refine Run.invariant (I := fun h m => ∀ s, messagesOn h s ∈ grammar m.conn.server)
    (fun _ => Phase.nil_mem_rest _ .fresh) ?_ hrun
  intro h m l o m' hprior ih hallowed htaken s
  have hstep := Machine.stepped htaken
  cases hy : (happening ⟨m, l, o, m'⟩).messageOn s with
  | some y =>
    obtain ⟨hidle, husable, hkept⟩ := hstep.usable_of_messageOn hy
    have hsound := hkept (Runs.sound_of_idle RecordsCleanly.ends hprior hidle husable.1)
    exact (Runs.follows (.extend hprior hallowed htaken) hsound).1 s
  | none =>
    rw [messagesOn_cons, hy, Option.toList_none, List.append_nil]
    cases hi : m.conn.initialized with
    | true => exact (hstep.role hi).2 ▸ ih s
    | false =>
      rw [Runs.messages_uninitialized hprior hi]
      exact Phase.nil_mem_rest _ .fresh

/-- What an operation raised is what its body raised. -/
theorem Machine.raised_of_taken {m m' : Machine} {r : Request} {env : Env} {o : Outcome}
    {x : PyError} (htaken : m.step (.request r env) = some (o, m'))
    (hraised : o.response = .raised x) : ∃ w', r.body.run env m.world = (.error x, w') := by
  have hresponse : (m.afterRequest (r.body.run env m.world)).1.response = .raised x := by
    rw [(Machine.request_taken htaken).2]
    exact hraised
  rcases hrun : r.body.run env m.world with ⟨e | v, w'⟩
  · rw [hrun] at hresponse
    obtain rfl : e = x := by simpa [Machine.afterRequest] using hresponse
    exact ⟨w', rfl⟩
  · rw [hrun] at hresponse
    cases v <;> simp [Machine.afterRequest] at hresponse

end Runs

/-- **What continues the word of a stream is not refused for its place**: no
call of a history that would do so raised one of the four texts about the order,
unless the closure of the stream was reported. The engine tracks no such stream,
and a request that was just submitted is none. -/
def NotRefused (h : History) : Prop :=
  ∀ e h', (e :: h') <:+ h → ∀ r env, e.label = .request r env →
    ∀ value s y, r.message value = some (s, y) → s ∉ closedStreams h' →
      messagesOn h' s ++ [y] ∈ grammar e.before.conn.server →
        ∀ x, e.outcome.response = .raised x → x.isOrder = false

/-- **Message-order grammar.** Along every run in which what the engine takes is
recorded whole, in any interleaving with drives, resets, pushes, closures and
other streams:

* the messages accepted on a stream are a word of the grammar of the role;
* none is accepted on a stream whose closure was reported;
* if every source that sleeps can be woken, and a fatal answer to that finds
  memory for its exception, nothing that continues the word of its stream is
  refused for its place. -/
theorem message_order {host : Host} {h : History} {m : Machine}
    (hrun : Runs host RecordsCleanly h m) :
    (∀ s, messagesOn h s ∈ grammar m.conn.server) ∧
    (∀ e h', (e :: h') <:+ h → ∀ s y, Entry.message e = some (s, y) → s ∉ closedStreams h') ∧
    (Runs host AcceptsCleanly h m → NotRefused h) := by
  refine ⟨Runs.messages_mem hrun, fun e h' hsuf s y hmessage => ?_, ?_⟩
  · obtain ⟨hprior, hallowed, htaken⟩ := hrun.of_suffix hsuf
    have hstep := Machine.stepped htaken
    have hy : (happening e).messageOn s = some y := by
      rw [messageOn_happening, hmessage]
      simp
    obtain ⟨hidle, husable, hkept⟩ := hstep.usable_of_messageOn hy
    have hbefore := Runs.sound_of_idle RecordsCleanly.ends hprior hidle husable.1
    exact Runs.unclosed_of_messageOn (hprior.mono fun ha => ha.1) hbefore hallowed.1 hstep
      (hkept hbefore) hy
  · intro haccepts e h' hsuf r env hlabel value s y hmessage hs hword x hraised
    obtain ⟨hprior, -, htaken⟩ := haccepts.of_suffix hsuf
    rw [hlabel] at htaken
    obtain ⟨w', hrun'⟩ := Machine.raised_of_taken htaken hraised
    by_contra horder
    obtain ⟨husable, hrefuses⟩ := Request.refuses_of_order hmessage hrun' (by simpa using horder)
    have hbefore := Runs.sound_of_idle (fun ha => ha.1.1.1) hprior
      (Machine.request_taken htaken).1 husable.1
    exact Runs.not_refuses hprior hbefore husable.2.2 hs hword hrefuses

/-- A server that informs and responds, whose source runs dry and is woken, and
that ends the body with trailers. -/
def orderedResponse : List Label := [
  .request (.init .server {}) (.accepting []),
  .request (.initiateConnection []) (.accepting []),
  .request (.sendInformationalResponse 1 []) (.accepting []),
  .request (.sendResponse 1 [] false) (.accepting []),
  .request (.sendInformationalResponse 1 []) (.accepting []),
  .request (.dataToSend none) (.accepting []),
  .callback (.readBody 1 16384) (.accepting []),
  .ret 0 (.accepting []),
  .request (.sendData 1 [7] false) (.accepting []),
  .request (.sendTrailers 1 []) (.accepting []),
  .request (.sendData 1 [8] true) (.accepting [])]

set_option maxRecDepth 8000 in
theorem message_order_orderedResponse :
    ∃ c, Run.execute Machine.step AcceptsCleanly ([], Machine.fresh {}) orderedResponse = some c ∧
      messagesOn c.1 1 = [.informational, .response false, .data [7] false, .trailers []] ∧
      messagesOn c.1 1 ∈ grammar true := by
  obtain ⟨c, hc, hword, hserver⟩ : ∃ c,
      Run.execute Machine.step AcceptsCleanly ([], Machine.fresh {}) orderedResponse = some c ∧
      messagesOn c.1 1 = [.informational, .response false, .data [7] false, .trailers []] ∧
      c.2.conn.server = true := ⟨_, rfl, by decide, rfl⟩
  have hrun : Runs {} AcceptsCleanly c.1 c.2 := Run.of_execute .start hc
  have hmem := (message_order (hrun.mono AcceptsCleanly.records)).1 1
  exact ⟨c, hc, hword, hserver ▸ hmem⟩

/-- A server whose response the engine takes, while there is no memory for its
body. The call raises, and the caller makes it again. -/
def responseAgain : List Label := [
  .request (.init .server {}) (.accepting []),
  .request (.initiateConnection []) (.accepting []),
  .request (.sendResponse 1 [] false)
    { Env.accepting [] with alloc := fun a => decide (a ≠ .body) },
  .request (.sendResponse 1 [] false) (.accepting [])]

set_option maxRecDepth 4000 in
/-- **Without memory for its body a response is recorded and not accepted**: the
next one is refused for its place. -/
theorem message_order_responseAgain :
    ∃ c, Run.execute Machine.step ResumesCleanly ([], Machine.fresh {}) responseAgain = some c ∧
      ¬ NotRefused c.1 := by
  obtain ⟨e, h', m, hc, hlabel, hopen, hword, hraised⟩ : ∃ e h' m,
      Run.execute Machine.step ResumesCleanly ([], Machine.fresh {}) responseAgain
        = some (e :: h', m) ∧
      e.label = .request (.sendResponse 1 [] false) (.accepting []) ∧ 1 ∉ closedStreams h' ∧
      messagesOn h' 1 ++ [.response false] ∈ grammar e.before.conn.server ∧
      e.outcome.response = .raised (.ngh2 .streamState "a response is already pending") :=
    ⟨_, _, _, rfl, rfl, by decide, mem_grammar_iff.mpr ⟨_, rfl⟩, rfl⟩
  refine ⟨_, hc, fun haccepts => ?_⟩
  have horder := haccepts e h' List.suffix_rfl _ _ hlabel .none 1 (.response false) rfl hopen hword
    _ hraised
  exact absurd horder (by decide)

end Ngh2
