import Ngh2.Quiescence
import Ngh2.RecordSteps
import Ngh2.Resources

/-!
# DATA providers and the bodies behind them

A request or a response that does not end its stream is submitted with a DATA
provider, and the engine reads it through `_read_body` until the body ends. The
provider outlives what the binding knows: the engine may still hold it when the
bodies were discarded. What is assumed is that it does not read it then. A
provider is also submitted before its body is recorded. Where there is always
memory for the body, a provider that is read has one (`Runs.body_of_provided`).

A frame that was answered with `NO_COPY` is asked for again, by `_send_body`.
The engine does so at once: nothing happens in between.
-/

namespace Ngh2

open Nghttp2 Effect

/-! ## What is assumed of the engine -/

/-- The stream for which the engine took a DATA provider in a step, whether or
not the call that submitted it returned. -/
def Entry.provides (e : Entry Machine Label Outcome) : Option StreamId :=
  match e.label with
  | .request (.sendRequest headers false) env =>
    if e.outcome.took env (.submitRequest2 headers true) then
      some (env.reply (.submitRequest2 headers true)) else none
  | .request (.sendResponse s headers false) env =>
    if e.outcome.took env (.submitResponse2 s headers true) then some s else none
  | _ => none

/-- The streams for which the engine took a DATA provider. -/
def providedStreams (h : History) : List StreamId := h.filterMap Entry.provides

/-- **A provider is read while its stream lives**: neither after the closure of
its stream was reported, nor after the session was told to terminate. -/
def ReadsProvided (h : History) (l : Label) : Prop :=
  match l with
  | .callback (.readBody s _) _ =>
    s ∈ providedStreams h ∧ s ∉ closedStreams h ∧ terminationRequested h = false
  | _ => True

/-- The frame a step left to be written, and how long its payload is: an answer
with `NO_COPY`. -/
def Entry.announces (e : Entry Machine Label Outcome) : Option (StreamId × Nat) :=
  match e.label, e.outcome.response with
  | .callback (.readBody s _) _, .replied reply =>
    if reply.noCopy = true ∧ 0 ≤ reply.code then some (s, reply.code.toNat) else none
  | _, _ => none

/-- **A frame that is left to be written is written at once**, with the length
that was answered, and without padding. -/
def WritesAnnounced (h : History) (l : Label) : Prop :=
  match l with
  | .callback (.sendBody s padlen _ length) _ =>
    padlen = 0 ∧ h.head?.bind Entry.announces = some (s, length)
  | _ => True

instance (h : History) (l : Label) : Decidable (ReadsProvided h l) := by
  unfold ReadsProvided
  split <;> infer_instance

instance (h : History) (l : Label) : Decidable (WritesAnnounced h l) := by
  unfold WritesAnnounced
  split <;> infer_instance

/-- What is assumed of the engine where it reads bodies. -/
structure ReadsBodies (h : History) (m : Machine) (l : Label) : Prop where
  ends : FailureEndsDrive h l
  rests : RestsQuietly h m l
  reads : ReadsProvided h l
  writes : WritesAnnounced h l

instance (h : History) (m : Machine) (l : Label) : Decidable (ReadsBodies h m l) :=
  decidable_of_iff (FailureEndsDrive h l ∧ RestsQuietly h m l ∧ ReadsProvided h l ∧
    WritesAnnounced h l) ⟨fun ⟨h₁, h₂, h₃, h₄⟩ => ⟨h₁, h₂, h₃, h₄⟩,
      fun ⟨h₁, h₂, h₃, h₄⟩ => ⟨h₁, h₂, h₃, h₄⟩⟩

/-! ## A provider that is read has a body -/

section Steps

variable {m : Machine} {l : Label} {p : Outcome × Machine}

/-- Assigning to a body keeps every body. -/
theorem lookup_insert_ne_none {α : Type} {d : Dict α} {s t : StreamId} {a : α}
    (h : d.lookup s ≠ none) : (d.insert t a).lookup s ≠ none := by
  by_cases hs : s = t
  · rw [hs, Finmap.lookup_insert]
    simp
  · rwa [Finmap.lookup_insert_of_ne _ hs]

/-- A body goes with its stream, or with the connection. -/
theorem Stepped.keeps_body (h : Stepped m l p) (hsound : p.2.conn.Sound)
    (hterminating : p.2.conn.terminating = false) {s : StreamId} (hcloses : l.closes ≠ some s)
    (hb : m.conn.bodies.lookup s ≠ none) : p.2.conn.bodies.lookup s ≠ none := by
  cases h with
  | request idle hr =>
    rw [Machine.afterRequest_conn] at hsound hterminating ⊢
    cases hr with
    | failed => exact absurd hsound.1 (by simp [World.failed, Connection.invalidate])
    | terminated => exact absurd hterminating (by simp [Connection.discardPendingState])
    | @requested headers endStream =>
      cases endStream with
      | true => exact hb
      | false => exact lookup_insert_ne_none hb
    | @requestUnreported headers endStream =>
      cases endStream with
      | true => exact hb
      | false => exact lookup_insert_ne_none hb
    | @responded t headers endStream =>
      cases endStream with
      | true => exact hb
      | false => exact lookup_insert_ne_none hb
    | trailersQueued => exact lookup_insert_ne_none hb
    | trailersStuck => exact lookup_insert_ne_none hb
    | dataQueued => exact lookup_insert_ne_none hb
    | dataStuck => exact lookup_insert_ne_none hb
    | _ => exact hb
  | callback driven hc =>
    rw [Machine.afterCallback_conn] at hsound hterminating ⊢
    cases hc with
    | failed spoiled deferred => exact absurd (deferred.symm.trans hsound.2) (by simp)
    | bodySent => exact lookup_insert_ne_none hb
    | readWhole => exact lookup_insert_ne_none hb
    | readCopied => exact lookup_insert_ne_none hb
    | @streamClosed t =>
      have ht : s ≠ t := fun heq => hcloses (by rw [heq]; rfl)
      dsimp only
      rwa [Finmap.lookup_erase_ne ht]
    | _ => exact hb
  | ret driven hr =>
    rw [Machine.afterReturn_conn] at hsound hterminating ⊢
    cases hr with
    | failed => exact absurd hsound.1 (by simp [World.failed, Connection.invalidate])
    | sentThenFailed => exact absurd hsound.1 (by simp [World.failed, Connection.invalidate])
    | receivedLast => exact absurd hterminating (by simp [Connection.announced,
        Connection.terminate, Connection.discardPendingState])
    | receivedUnannounced => exact absurd hterminating (by simp [Connection.terminate,
        Connection.discardPendingState])
    | sentLast => exact absurd hterminating (by simp [Connection.outputTaken,
        Connection.announced, Connection.terminate, Connection.discardPendingState])
    | _ => exact hb

/-- **A provider that the engine takes has a body behind it**, if there was
memory for one. -/
theorem Stepped.body_of_provides (h : Stepped m l p) (hafforded : m.BodyAfforded l)
    (hsound : p.2.conn.Sound) {s : StreamId}
    (hprovides : Entry.provides ⟨m, l, p.1, p.2⟩ = some s) :
    p.2.conn.bodies.lookup s ≠ none := by
  cases h with
  | @request r env q idle hr =>
    rw [Machine.afterRequest_conn] at hsound ⊢
    cases r with
    | sendRequest headers endStream =>
      cases endStream with
      | true => simp [Entry.provides] at hprovides
      | false =>
        obtain ⟨htook, heq⟩ := Option.ite_none_right_eq_some.mp hprovides
        obtain rfl := Option.some_inj.mp heq
        cases hr with
        | rejected calls =>
          rw [Machine.afterRequest, calls.not_took rfl] at htook
          exact absurd htook (by simp)
        | failed => exact absurd hsound.1 (by simp [World.failed, Connection.invalidate])
        | unreported quiet => exact absurd quiet (by simp [Request.isQuiet])
        | answered quiet => exact absurd quiet (by simp [Request.isQuiet])
        | requested usable client submitted =>
          obtain rfl := submitted
          simp
        | requestBodiless usable client allowed submitted accepted exhausted =>
          have hbody := hafforded ⟨usable, client, allowed, submitted ▸ accepted⟩ rfl
          exact absurd hbody (by simp [exhausted])
        | requestUnreported usable client allowed submitted =>
          obtain rfl := submitted
          simp
    | sendResponse t headers endStream =>
      cases endStream with
      | true => simp [Entry.provides] at hprovides
      | false =>
        obtain ⟨htook, heq⟩ := Option.ite_none_right_eq_some.mp hprovides
        obtain rfl := Option.some_inj.mp heq
        cases hr with
        | rejected calls =>
          rw [Machine.afterRequest, calls.not_took rfl] at htook
          exact absurd htook (by simp)
        | failed => exact absurd hsound.1 (by simp [World.failed, Connection.invalidate])
        | unreported quiet => exact absurd quiet (by simp [Request.isQuiet])
        | answered quiet => exact absurd quiet (by simp [Request.isQuiet])
        | responded => simp
        | responseUnrecorded usable server tracked first accepted exhausted =>
          have hmemory := hafforded ⟨usable, server, tracked, first, accepted⟩ rfl
          exact absurd hmemory.1 (by simp [exhausted])
        | responseBodiless usable server tracked first accepted recorded exhausted =>
          have hmemory := hafforded ⟨usable, server, tracked, first, accepted⟩ rfl
          exact absurd hmemory.2 (by simp [exhausted])
    | _ => exact absurd hprovides (by simp [Entry.provides])
  | callback => simp [Entry.provides] at hprovides
  | ret => simp [Entry.provides] at hprovides

end Steps

section Runs

variable {host : Host} {Allowed : History → Machine → Label → Prop} {h : History} {m : Machine}

/-- **The body of a provider is there** until its stream is closed or the
connection terminates, in every run with memory for the bodies. -/
theorem Runs.body_of_provided (hends : ∀ {h m l}, Allowed h m l → FailureEndsDrive h l)
    (hafforded : ∀ {h m l}, Allowed h m l → m.BodyAfforded l)
    (hrun : Runs host Allowed h m) (hsound : m.conn.Sound) :
    m.conn.terminating = false → ∀ s ∈ providedStreams h, s ∉ closedStreams h →
      m.conn.bodies.lookup s ≠ none := by
  refine Runs.induct_sound (I := fun h m => m.conn.terminating = false →
    ∀ s ∈ providedStreams h, s ∉ closedStreams h → m.conn.bodies.lookup s ≠ none)
    hends (fun _ s hs => absurd hs List.not_mem_nil) ?_ hrun hsound
  intro h m l p _ _ ih hallowed hstep hsound hterminating s hs hclosed
  obtain ⟨hcloses, hclosed⟩ := not_or.mp (mem_closedStreams_cons.not.mp hclosed)
  cases hprovides : Entry.provides ⟨m, l, p.1, p.2⟩ with
  | some t =>
    by_cases ht : t = s
    · exact hstep.body_of_provides (hafforded hallowed) hsound (ht ▸ hprovides)
    · refine hstep.keeps_body hsound hterminating hcloses (ih ?_ s ?_ hclosed)
      · exact hstep.unterminated hsound hterminating
      · simpa [providedStreams, hprovides, Ne.symm ht] using hs
  | none =>
    refine hstep.keeps_body hsound hterminating hcloses (ih ?_ s ?_ hclosed)
    · exact hstep.unterminated hsound hterminating
    · simpa [providedStreams, hprovides] using hs

end Runs

end Ngh2
