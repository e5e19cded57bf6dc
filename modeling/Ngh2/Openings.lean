import Ngh2.DeferredResets

/-!
# When a body is opened

A body is opened by two operations: a request that does not end its stream,
and a response that does not, also where the request could not be reported.
Neither replaces a body that is there. On a client this is because a request
gets a stream no request had, and no body is opened otherwise; on a server
because a body is opened by the final response, of which there is one.
-/

namespace Ngh2

open Nghttp2 Effect

/-- The stream whose body a happening opens. -/
def Happening.opens : Happening → Option StreamId
  | .message s (.request false) => some s
  | .message s (.response false) => some s
  | .stuck s (.request false) => some s
  | _ => none

/-- **A body is there because it was opened.** -/
theorem Records.opened_of_body {r : Records} {x : Happening} {s : StreamId}
    (h : (r.record x).body s ≠ none) : r.body s ≠ none ∨ x.opens = some s := by
  have honBody {t : StreamId} {f : Body → Body} (h : (r.onBody t f).body s ≠ none) :
      r.body s ≠ none := by
    intro hnone
    refine h ?_
    by_cases ht : s = t
    · subst ht
      simp [Records.onBody, hnone]
    · simpa [Records.onBody, ht] using hnone
  have hopenBody {t : StreamId} (h : (r.openBody t).body s ≠ none) :
      r.body s ≠ none ∨ some t = some s := by
    by_cases ht : s = t
    · exact .inr (ht ▸ rfl)
    · exact .inl (by simpa [Records.openBody, ht] using h)
  cases x with
  | message t message =>
    cases message with
    | request endStream =>
      cases endStream with
      | true => exact .inl h
      | false => exact hopenBody h
    | informational => exact .inl h
    | response endStream =>
      cases endStream with
      | true => exact .inl h
      | false => exact hopenBody h
    | data => exact .inl (honBody h)
    | trailers => exact .inl (honBody h)
  | stuck t message =>
    cases message with
    | request endStream =>
      cases endStream with
      | true => exact .inl h
      | false => exact hopenBody h
    | data => exact .inl (honBody h)
    | trailers => exact .inl (honBody h)
    | _ => exact .inl h
  | read => exact .inl (honBody h)
  | sent => exact .inl (honBody h)
  | closed t =>
    by_cases ht : s = t
    · exact absurd (by simp [Records.record, ht]) h
    · exact .inl (by simpa [Records.record, ht] using h)
  | discarded => exact absurd rfl h
  | _ => exact .inl h

section Runs

variable {host : Host} {h : History} {m : Machine} {l : Label} {p : Outcome × Machine}

/-- A request that happened is on the list of requests. -/
theorem Stepped.requested_of_happening (hstep : Stepped m l p) (hsound : p.2.conn.Sound)
    {s : StreamId} (hx : (happening ⟨m, l, p.1, p.2⟩).requests = some s) :
    Entry.requested ⟨m, l, p.1, p.2⟩ = some s := by
  obtain ⟨headers, endStream, env, rfl, rfl, haccepted⟩ := (hstep.origin hsound).of_requests hx
  refine if_pos ?_
  cases hstep with
  | request idle hr =>
    rw [Machine.afterRequest_conn] at hsound
    change (Request.happening env (m.afterRequest _).1 (.sendRequest headers endStream)).requests
      = _
      at hx
    cases hr with
    | rejected calls =>
      rw [Machine.afterRequest, Request.happening_rejected calls] at hx
      exact absurd hx (by simp [Happening.requests])
    | failed => exact absurd hsound.1 (by simp [World.failed, Connection.invalidate])
    | unreported quiet => exact absurd quiet (by simp [Request.isQuiet])
    | answered quiet => exact absurd quiet (by simp [Request.isQuiet])
    | requested => exact Outcome.took_of_mem (List.mem_cons_of_mem _ List.mem_cons_self) haccepted
    | requestBodiless usable client allowed submitted accepted exhausted =>
      rw [Machine.afterRequest, Request.happening_bodiless exhausted] at hx
      exact absurd hx (by simp [Happening.requests])
    | requestUnreported =>
      exact Outcome.took_of_mem (List.mem_cons_of_mem _ List.mem_cons_self) haccepted

theorem mem_requestedStreams_cons {e : Entry Machine Label Outcome} {s : StreamId} :
    s ∈ requestedStreams (e :: h) ↔ Entry.requested e = some s ∨ s ∈ requestedStreams h := by
  simp [requestedStreams]

/-- On a client, a body belongs to a request. -/
theorem Runs.requested_of_body (hrun : Runs host ClosesCleanly h m) (hsound : m.conn.Sound) :
    m.conn.server = false → ∀ s, (recordsAfter h).body s ≠ none → s ∈ requestedStreams h := by
  refine Runs.induct_sound
    (I := fun h m => m.conn.server = false →
      ∀ s, (recordsAfter h).body s ≠ none → s ∈ requestedStreams h)
    (fun ha => ha.1) (fun _ s hs => absurd rfl hs) ?_ hrun hsound
  intro h m l p hrun hbefore ih _ hstep hsound hclient s hs
  have hends : ∀ {h m l}, ClosesCleanly h m l → FailureEndsDrive h l := fun ha => ha.1
  have hpermits := Runs.permits hends hrun hbefore hstep hsound
  cases hi : m.conn.initialized with
  | false =>
    obtain ⟨hdrive, hactive⟩ := Runs.idle hrun hi
    change ((recordsAfter h).record (happening ⟨m, l, p.1, p.2⟩)).body s ≠ none at hs
    rw [hstep.happening_inactive hdrive hactive hsound,
      Runs.records_uninitialized hends hrun hbefore hi] at hs
    exact absurd rfl hs
  | true =>
    rw [(hstep.role hi).2] at hclient
    rw [mem_requestedStreams_cons]
    rcases Records.opened_of_body hs with hold | hopens
    · exact .inr (ih hclient s hold)
    · generalize hx : happening ⟨m, l, p.1, p.2⟩ = x at hopens hpermits
      unfold Happening.opens at hopens
      split at hopens
      · exact .inl (hstep.requested_of_happening hsound (hx ▸ hopens))
      · exact absurd hpermits.1 (by simp [hclient])
      · exact .inl (hstep.requested_of_happening hsound (hx ▸ hopens))
      · exact absurd hopens (by simp)

/-- **Opening a body never replaces one.** -/
theorem Runs.unopened (hrun : Runs host ClosesCleanly h m) (hbefore : m.conn.Sound)
    (hallowed : ClosesCleanly h m l) (hstep : Stepped m l p) (hsound : p.2.conn.Sound)
    {s : StreamId} (hopens : (happening ⟨m, l, p.1, p.2⟩).opens = some s) :
    m.conn.bodies.lookup s = none := by
  have hends : ∀ {h m l}, ClosesCleanly h m l → FailureEndsDrive h l := fun ha => ha.1
  have horigin := hstep.origin hsound
  have hpermits := Runs.permits hends hrun hbefore hstep hsound
  have hrecords := (Runs.records_eq hends hrun hbefore).2
  have hbody (hnone : (recordsAfter h).body s = none) : m.conn.bodies.lookup s = none := by
    rw [← hrecords] at hnone
    exact Option.map_eq_none_iff.mp hnone
  refine hbody ?_
  by_contra hne
  -- the stream of a request is one no request had
  have hnew (hclient : m.conn.server = false)
      (hx : (happening ⟨m, l, p.1, p.2⟩).requests = some s) : False := by
    obtain ⟨headers, endStream, env, rfl, rfl, haccepted⟩ := horigin.of_requests hx
    exact (hallowed.2.2.2.2 haccepted).2.1 (Runs.requested_of_body hrun hbefore hclient _ hne)
  generalize happening ⟨m, l, p.1, p.2⟩ = x at hopens hpermits hnew
  unfold Happening.opens at hopens
  split at hopens
  · exact hnew hpermits hopens
  · obtain rfl := Option.some_inj.mp hopens
    have hresponded := (Runs.ending hrun hbefore).responded hpermits.1 _ hne
    exact absurd hresponded (by simp [hpermits.2])
  · exact hnew hpermits hopens
  · exact absurd hopens (by simp)

end Runs

end Ngh2
