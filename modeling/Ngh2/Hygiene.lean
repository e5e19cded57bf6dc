import Ngh2.Contract
import Ngh2.Events
import Ngh2.RecordSteps
import Ngh2.Resets

/-!
# Nothing outlives the closure of its stream

The four maps keyed by stream are filled by submissions and by delayed
failures, and emptied by the closure callback and by the two bulk paths. That
no key survives the closure of its stream is a matter of who may add one after
it: nobody, if the engine no longer tracks a closed stream, reports nothing
more about it, and gives its identifier to no other.

The local error a closure names is then the one last recorded. What counts as
recorded is read off the history (`localErrorOf`): the most recent report that
a HEADERS frame of the stream, or a PUSH_PROMISE that promised it, was not
sent for a reason of its own, unless the connection discarded its pending
state since.
-/

namespace Ngh2

open Nghttp2 Effect

/-! ## Specification -/

/-- **The local error recorded for a stream**: the translation of the most
recent recorded report, if there was one since the pending state was last
discarded. -/
def localErrorOf (host : Host) : History → StreamId → Option PyError
  | [], _ => none
  | e :: h, s =>
    if happening e = .discarded then none
    else
      match e.label with
      | .callback (.frameNotSent frame errorCode) _ =>
        if frame.recordedFailure errorCode = some s then some (frameNotSentError host errorCode)
        else localErrorOf host h s
      | _ => localErrorOf host h s

/-- What the hygiene of the records assumes of the engine. -/
def ClosesCleanly (h : History) (_ : Machine) (l : Label) : Prop :=
  FailureEndsDrive h l ∧ ClosedOnce h l ∧ ClosedUntracked h l ∧ ClosedUnreported h l ∧
    FreshIds h l

instance (h : History) (m : Machine) (l : Label) : Decidable (ClosesCleanly h m l) :=
  inferInstanceAs (Decidable (_ ∧ _))

/-! ## The records of a closed stream -/

section Closed

variable {host : Host} {h : History} {m : Machine} {l : Label} {p : Outcome × Machine}

/-- **No record is started for a closed stream.** -/
theorem Origin.starts_open {x : Happening} (horigin : Origin m l x)
    (hallowed : ClosesCleanly h m l) {s : StreamId} (hs : s ∈ closedStreams h) :
    x.starts ≠ some s := by
  obtain ⟨-, -, huntracked, hunreported, hfresh⟩ := hallowed
  have hgone := huntracked s hs
  intro hstarts
  cases horigin with
  | request submitted accepted =>
    obtain rfl := Option.some_inj.mp hstarts
    rw [← submitted] at hs accepted
    exact (hfresh accepted).1 hs
  | requestStuck submitted accepted =>
    obtain rfl := Option.some_inj.mp hstarts
    rw [← submitted] at hs accepted
    exact (hfresh accepted).1 hs
  | response tracked =>
    obtain rfl := Option.some_inj.mp hstarts
    exact absurd tracked (not_le.mpr hgone)
  | responseStuck tracked =>
    obtain rfl := Option.some_inj.mp hstarts
    exact absurd tracked (not_le.mpr hgone)
  | resetDeferred localOpen =>
    obtain rfl := Option.some_inj.mp hstarts
    exact absurd localOpen hgone.ne
  | notSent recorded =>
    obtain rfl := Option.some_inj.mp hstarts
    exact hunreported _ recorded hs
  | _ => simp [Happening.starts] at hstarts

/-- **Nothing is recorded for a closed stream.** -/
theorem Runs.blank_of_closed (hrun : Runs host ClosesCleanly h m) (hsound : m.conn.Sound) :
    ∀ s ∈ closedStreams h, (recordsAfter h).Blank s := by
  refine Runs.induct_sound
    (I := fun h _ => ∀ s ∈ closedStreams h, (recordsAfter h).Blank s)
    (fun ha => ha.1) (fun s hs => absurd hs List.not_mem_nil) ?_ hrun hsound
  intro h m l p _ _ ih hallowed hstep hsound s hs
  have horigin := hstep.origin hsound
  change ((recordsAfter h).record (happening ⟨m, l, p.1, p.2⟩)).Blank s
  rcases mem_closedStreams_cons.mp hs with hcloses | hs
  · obtain ⟨errorCode, env, rfl⟩ := Label.of_closes hcloses
    generalize happening ⟨m, _, p.1, p.2⟩ = x at horigin
    cases horigin with
    | closed => exact Records.blank_closed
    | nothing unclosed => exact absurd rfl (unclosed s errorCode env)
  · exact (ih s hs).record (horigin.starts_open hallowed hs)

end Closed

/-! ## The local error of a stream -/

section LocalErrors

variable {host : Host} {h : History} {m : Machine}

/-- **The error recorded for a stream is the one its history says.** -/
theorem Runs.error_eq (hrun : Runs host ClosesCleanly h m) (hsound : m.conn.Sound) :
    ∀ s ∉ closedStreams h, (recordsAfter h).error s = localErrorOf host h s := by
  refine Runs.induct_sound
    (I := fun h _ => ∀ s ∉ closedStreams h, (recordsAfter h).error s = localErrorOf host h s)
    (fun ha => ha.1) (fun s _ => rfl) ?_ hrun hsound
  intro h m l p hrun _ ih hallowed hstep hsound s hs
  have horigin := hstep.origin hsound
  have hopen : s ∉ closedStreams h := fun hmem => hs (mem_closedStreams_cons.mpr (.inr hmem))
  change ((recordsAfter h).record (happening ⟨m, l, p.1, p.2⟩)).error s = _
  rw [localErrorOf]
  generalize happening ⟨m, l, p.1, p.2⟩ = x at horigin
  cases horigin with
  | terminated => rfl
  | announced => rfl
  | @notSent t frame errorCode env recorded =>
    rw [if_neg (by simp)]
    simp only [Runs.host_eq hrun, recorded, Records.record]
    by_cases ht : t = s
    · simp [ht]
    · simpa [ht, Ne.symm ht] using ih s hopen
  | @closed t errorCode env =>
    have ht : s ≠ t := fun heq =>
      hs (mem_closedStreams_cons.mpr (.inl (by simp [heq, Label.closes])))
    simpa [Records.record, ht] using ih s hopen
  | nothing unclosed unrecorded =>
    rw [if_neg (by simp)]
    split
    · next heq =>
      rw [unrecorded _ _ _ heq, if_neg (by simp)]
      exact ih s hopen
    · exact ih s hopen
  | _ =>
    rw [Records.error_record (by simp) (by simp) (by simp), if_neg (by simp)]
    exact ih s hopen

/-- What is recorded is an `NGH2Error`. -/
theorem isNGH2Error_of_localErrorOf {s : StreamId} {x : PyError}
    (hx : localErrorOf host h s = some x) : x.isNGH2Error = true := by
  induction h with
  | nil => exact absurd hx (by simp [localErrorOf])
  | cons e h ih =>
    rw [localErrorOf] at hx
    split at hx
    · exact absurd hx (by simp)
    · split at hx
      · split at hx
        · rw [← Option.some_inj.mp hx]
          exact frameNotSentError_isNGH2Error _ _
        · exact ih hx
      · exact ih hx

end LocalErrors

/-- Where the records of a stream are blank, no map has its key. -/
theorem Connection.not_mem_of_blank {c : Connection} {s : StreamId} (h : c.records.Blank s) :
    s ∉ c.bodies ∧ s ∉ c.responses ∧ s ∉ c.deferredResets ∧ s ∉ c.localStreamErrors :=
  ⟨Finmap.lookup_eq_none.mp (Option.map_eq_none_iff.mp h.body), of_decide_eq_false h.responded,
    Finmap.lookup_eq_none.mp h.reset, Finmap.lookup_eq_none.mp h.error⟩

/-- **Stream hygiene and failure attribution.** Along every run:

* while nothing has failed, nothing is recorded for a stream whose closure was
  reported;
* the local error of every `StreamClosed` event is an `NGH2Error` and the one
  most recently recorded for its stream, or none if none was;
* every report of a HEADERS frame other than a request, with a code that is
  not excluded, submits one reset of its stream with `INTERNAL_ERROR`, and
  every other report submits none. -/
theorem stream_hygiene {host : Host} {h : History} {m : Machine}
    (hrun : Runs host ClosesCleanly h m) :
    (m.conn.Sound → ∀ s ∈ closedStreams h, s ∉ m.conn.bodies ∧ s ∉ m.conn.responses ∧
      s ∉ m.conn.deferredResets ∧ s ∉ m.conn.localStreamErrors) ∧
    (∀ e h', (e :: h') <:+ h → ∀ s errorCode error,
      .streamClosed s errorCode error ∈ emitted e →
        error = localErrorOf host h' s ∧ ∀ x ∈ error, x.isNGH2Error = true) ∧
    (∀ e ∈ h, ∀ frame errorCode env, e.label = .callback (.frameNotSent frame errorCode) env →
      (frame.needsReset = true → expectedNotSent errorCode = false → e.after.conn.Sound →
        resetsOf e = [(frame.streamId, internalError)]) ∧
      (frame.needsReset = false ∨ expectedNotSent errorCode = true → resetsOf e = [])) := by
  have hends : ∀ {h m l}, ClosesCleanly h m l → FailureEndsDrive h l := fun ha => ha.1
  refine ⟨?_, ?_, ?_⟩
  · intro hsound s hs
    refine Connection.not_mem_of_blank ?_
    rw [(Runs.records_eq hends hrun hsound).2]
    exact Runs.blank_of_closed hrun hsound s hs
  · intro e h' hsuf s errorCode error hmem
    obtain ⟨hprior, hallowed, htaken⟩ := hrun.of_suffix hsuf
    obtain ⟨env, hlabel, herror⟩ := (Machine.stepped htaken).emits.of_streamClosed hmem
    rw [hlabel] at hallowed htaken
    have hsound := Runs.sound_of_callback hends hprior hallowed
      (Machine.stepped htaken).callback_driven
    have hopen : s ∉ closedStreams h' := hallowed.2.1 s rfl
    have hattributed : error = localErrorOf host h' s := by
      rw [herror, ← Runs.error_eq hprior hsound s hopen, ← (Runs.records_eq hends hprior hsound).2]
      rfl
    exact ⟨hattributed, fun x hx => isNGH2Error_of_localErrorOf (hattributed.symm.trans hx)⟩
  · intro e he frame errorCode env hlabel
    obtain ⟨h', -, -, -, htaken⟩ := hrun.of_mem he
    refine ⟨fun hneeds hcode hsound => ?_, resetsOf_unneeded htaken hlabel⟩
    have hstep := Machine.stepped htaken
    rw [hlabel] at hstep
    exact resetsOf_needed hstep hsound hneeds hcode

/-- A server whose final response could not be prepared, and whose stream was
then closed. -/
def unpreparedResponse : List Label := [
  .request (.init .server {}) (.accepting []),
  .request (.initiateConnection []) (.accepting []),
  .request (.sendResponse 1 [] false) (.accepting []),
  .request (.dataToSend none) (.accepting []),
  .callback (.frameNotSent { streamId := 1, payload := .headers .response } errFrameSizeError)
    (.accepting []),
  .callback (.streamClosed 1 internalError) (.accepting []),
  .ret 0 (.accepting [(.sessionGetStreamLocalClose 1, -1)])]

set_option maxRecDepth 4000 in
theorem stream_hygiene_unpreparedResponse :
    ∃ c, Run.execute Machine.step ClosesCleanly ([], Machine.fresh {}) unpreparedResponse
        = some c ∧
      c.2.conn.Sound ∧ 1 ∈ closedStreams c.1 ∧ 1 ∉ c.2.conn.bodies ∧
      1 ∉ c.2.conn.localStreamErrors := by
  obtain ⟨c, hc, hsound, hclosed⟩ : ∃ c, Run.execute Machine.step ClosesCleanly
      ([], Machine.fresh {}) unpreparedResponse = some c ∧
      c.2.conn.Sound ∧ 1 ∈ closedStreams c.1 := ⟨_, rfl, by decide, by decide⟩
  obtain ⟨hbodies, -, -, herrors⟩ :=
    (stream_hygiene (Run.of_execute .start hc)).1 hsound 1 hclosed
  exact ⟨c, hc, hsound, hclosed, hbodies, herrors⟩

end Ngh2
