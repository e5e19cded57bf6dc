import Ngh2.RecordSteps
import Ngh2.Resources

/-!
# Bodies whose counter says how much is queued

`BodySource.Sound` lets the counter of a body wrap. Where every chunk that is
queued fits the counter of its body (`Machine.BodyCounted`), no queue becomes as
long as the counter has values, and the counter is the length of the queue
(`Runs.counted`). The two paths of `_read_body` then go by one number.
-/

namespace Ngh2

open Nghttp2

/-- **No queue is as long as a counter has values.** -/
def Records.Counted (w : PointerWidth) (r : Records) : Prop :=
  ∀ s b, r.body s = some b → b.queue.length < w.modulus

/-- Failures end the call, and every chunk fits the counter of its body. -/
def EndsCounted (h : History) (m : Machine) (l : Label) : Prop :=
  FailureEndsDrive h l ∧ m.BodyCounted l

instance (h : History) (m : Machine) (l : Label) : Decidable (EndsCounted h m l) :=
  inferInstanceAs (Decidable (_ ∧ _))

/-- The bytes a happening adds to the queue of a stream. -/
def Happening.adds : Happening → Option (StreamId × Bytes)
  | .message s (.data chunk _) => some (s, chunk)
  | .stuck s (.data chunk _) => some (s, chunk)
  | _ => none

namespace Records

variable {w : PointerWidth} {r : Records}

theorem counted_empty : Counted w {} := fun _ _ h => absurd h (by simp)

/-- What is done to one body counts where it makes the queue no longer than was
asked. -/
theorem Counted.onBody (h : r.Counted w) (s : StreamId) {f : Body → Body}
    (hf : ∀ b, r.body s = some b → (f b).queue.length < w.modulus) : (r.onBody s f).Counted w := by
  intro t b hb
  by_cases ht : t = s
  · subst ht
    rw [Records.onBody] at hb
    dsimp only at hb
    rw [Function.update_self] at hb
    obtain ⟨b', hb', rfl⟩ := Option.map_eq_some_iff.mp hb
    exact hf b' hb'
  · rw [Records.onBody] at hb
    dsimp only at hb
    rw [Function.update_of_ne ht] at hb
    exact h t b hb

theorem Counted.openBody (h : r.Counted w) (s : StreamId) : (r.openBody s).Counted w := by
  intro t b hb
  by_cases ht : t = s
  · subst ht
    rw [Records.openBody] at hb
    dsimp only at hb
    rw [Function.update_self] at hb
    obtain rfl := Option.some_inj.mp hb
    exact w.modulus_pos
  · rw [Records.openBody] at hb
    dsimp only at hb
    rw [Function.update_of_ne ht] at hb
    exact h t b hb

/-- **What happens keeps the queues counted**, if the bytes it adds fit. -/
theorem Counted.record {x : Happening} (h : r.Counted w)
    (hadds : ∀ s chunk, x.adds = some (s, chunk) → ∀ b, r.body s = some b →
      b.queue.length + chunk.length < w.modulus) : (r.record x).Counted w := by
  have hadd (s : StreamId) (chunk : Bytes) (endStream : Bool)
      (hx : x.adds = some (s, chunk)) : ∀ b, r.body s = some b →
      (b.add chunk endStream).queue.length < w.modulus := by
    intro b hb
    show (b.queue ++ chunk).length < w.modulus
    rw [List.length_append]
    exact hadds s chunk hx b hb
  have hshorter (s : StreamId) (n : Nat) : ∀ b, r.body s = some b →
      (b.queue.drop n).length < w.modulus := by
    intro b hb
    rw [List.length_drop]
    exact (Nat.sub_le _ _).trans_lt (h s b hb)
  cases x with
  | message s message =>
    cases message with
    | request endStream =>
      cases endStream with
      | true => exact h
      | false => exact h.openBody s
    | informational => exact h
    | response endStream =>
      cases endStream with
      | true => exact h
      | false => exact Counted.openBody (r := { r with responded := _ }) h s
    | data chunk endStream =>
      refine h.onBody s fun b hb => ?_
      split
      · exact hadd s chunk endStream rfl b hb
      · exact hadd s chunk endStream rfl b hb
    | trailers headers => exact h.onBody s fun b hb => h s b hb
  | stuck s message =>
    cases message with
    | request endStream =>
      cases endStream with
      | true => exact h
      | false => exact h.openBody s
    | informational => exact h
    | response endStream => exact h
    | data chunk endStream => exact h.onBody s (hadd s chunk endStream rfl)
    | trailers headers => exact h.onBody s fun b hb => h s b hb
  | resetDeferred s errorCode => exact h
  | read s length reply => exact h.onBody s (hshorter s _)
  | sent s data => exact h.onBody s (hshorter s _)
  | localEnd s => exact h
  | notSent s error => exact h
  | closed s =>
    intro t b hb
    by_cases ht : t = s
    · subst ht
      rw [Records.record] at hb
      dsimp only at hb
      rw [Function.update_self] at hb
      exact absurd hb (by simp)
    · rw [Records.record] at hb
      dsimp only at hb
      rw [Function.update_of_ne ht] at hb
      exact h t b hb
  | discarded => exact counted_empty
  | nothing => exact h

end Records

/-- Bytes are added by a call of `send_data` with them. -/
theorem Origin.of_adds {m : Machine} {l : Label} {x : Happening} (h : Origin m l x)
    {s : StreamId} {chunk : Bytes} (hx : x.adds = some (s, chunk)) :
    ∃ endStream env, l = .request (.sendData s chunk endStream) env := by
  cases h with
  | data =>
    obtain ⟨rfl, rfl⟩ := Prod.mk.inj (Option.some_inj.mp hx)
    exact ⟨_, _, rfl⟩
  | dataStuck =>
    obtain ⟨rfl, rfl⟩ := Prod.mk.inj (Option.some_inj.mp hx)
    exact ⟨_, _, rfl⟩
  | _ => simp [Happening.adds] at hx

/-- Bytes are added to a body that is not ended. -/
theorem Records.Permits.of_adds {w : PointerWidth} {r : Records} {server : Bool}
    {x : Happening} (h : r.Permits w server x) {s : StreamId} {chunk : Bytes}
    (hx : x.adds = some (s, chunk)) : ∃ b, r.body s = some b ∧ b.ended = false := by
  unfold Happening.adds at hx
  split at hx
  · obtain ⟨rfl, rfl⟩ := Prod.mk.inj (Option.some_inj.mp hx)
    exact h
  · obtain ⟨rfl, rfl⟩ := Prod.mk.inj (Option.some_inj.mp hx)
    obtain ⟨b, hb, hended, -⟩ := h
    exact ⟨b, hb, hended⟩
  · exact absurd hx (by simp)

section Runs

variable {host : Host} {Allowed : History → Machine → Label → Prop} {h : History} {m : Machine}

/-- **The queues stay counted**, along every run whose chunks fit the counters
of their bodies. -/
theorem Runs.records_counted (hends : ∀ {h m l}, Allowed h m l → FailureEndsDrive h l)
    (hfits : ∀ {h m l}, Allowed h m l → m.BodyCounted l) (hrun : Runs host Allowed h m)
    (hsound : m.conn.Sound) : (recordsAfter h).Counted host.pointerWidth := by
  refine Runs.induct_sound (I := fun h _ => (recordsAfter h).Counted host.pointerWidth) hends
    Records.counted_empty ?_ hrun hsound
  intro h m l p hprior hbefore ih hallowed hstep hsound
  obtain ⟨hq, hrecords⟩ := Runs.records_eq hends hprior hbefore
  change ((recordsAfter h).record (happening ⟨m, l, p.1, p.2⟩)).Counted host.pointerWidth
  refine ih.record fun s chunk hadds b hb => ?_
  obtain ⟨b', hb', hended⟩ := (Runs.permits hends hprior hbefore hstep hsound).of_adds hadds
  obtain rfl : b' = b := Option.some_inj.mp (hb'.symm.trans hb)
  obtain ⟨endStream, env, rfl⟩ := (hstep.origin hsound).of_adds hadds
  rw [← hrecords] at hb
  obtain ⟨body, hbody, rfl⟩ := Option.map_eq_some_iff.mp hb
  have hcounted : body.queuedSize = body.queue.length :=
    (hq s body hbody).queuedSize_eq_iff.mpr (ih s _ hb')
  have hfit := hfits hallowed body hbody hended
  rw [hcounted, Runs.host_eq hprior] at hfit
  exact hfit

/-- **The counter of every body is the length of its queue**, in every sound
state of such a run. -/
theorem Runs.counted (hends : ∀ {h m l}, Allowed h m l → FailureEndsDrive h l)
    (hfits : ∀ {h m l}, Allowed h m l → m.BodyCounted l) (hrun : Runs host Allowed h m)
    (hsound : m.conn.Sound) {s : StreamId} {body : BodySource}
    (hb : m.conn.bodies.lookup s = some body) :
    body.queue.length < host.pointerWidth.modulus ∧ body.queuedSize = body.queue.length := by
  obtain ⟨hq, hrecords⟩ := Runs.records_eq hends hrun hsound
  have hlt : body.queue.length < host.pointerWidth.modulus := by
    refine Runs.records_counted hends hfits hrun hsound s body.view ?_
    rw [← hrecords]
    exact viewBodies_of_lookup hb
  exact ⟨hlt, (hq s body hb).queuedSize_eq_iff.mpr hlt⟩

end Runs

end Ngh2
