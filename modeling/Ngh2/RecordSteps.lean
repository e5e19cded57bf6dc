import Mathlib.Logic.Function.Basic
import Ngh2.Records
import Ngh2.Resources
import Ngh2.Staging

/-!
# The connection keeps the records it is for

`Connection.records` reads the abstract records off a connection: the chunk
queue of a body as a byte string, the dictionaries and the set as functions.
`happening` reads off an entry of a history what happened to the records, from
the call or callback, its arguments and what was given back alone. The theorem
of this module is that the two agree (`Stepped.refines`): every step between
sound connections moves the records the way `Records.record` says, and only
where `Records.Permits` allows it. So the records of a sound connection are
those of its history (`Runs.records_eq`), and whatever is to be shown of the
four maps can be shown of a list of happenings.
-/

namespace Ngh2

open Nghttp2 Effect

/-! ## Reading the records off a connection -/

/-- A body without its chunks. -/
def BodySource.view (body : BodySource) : Body :=
  { queue := body.queue, ended := body.ended, deferred := body.deferred
    trailers := body.trailers }

/-- The bodies of a dictionary. -/
def viewBodies (bodies : Dict BodySource) (streamId : StreamId) : Option Body :=
  (bodies.lookup streamId).map BodySource.view

@[simp] theorem BodySource.view_queue (body : BodySource) : body.view.queue = body.queue := rfl

/-- **The records of a connection.** -/
def Connection.records (c : Connection) : Records where
  body := viewBodies c.bodies
  responded s := decide (s ∈ c.responses)
  reset s := c.deferredResets.lookup s
  error s := c.localStreamErrors.lookup s

/-- The queue of every body is in order. -/
def Connection.Queued (w : PointerWidth) (c : Connection) : Prop :=
  ∀ s body, c.bodies.lookup s = some body → body.Sound w

section Views

variable {α : Type} (d : Dict α) (bodies : Dict BodySource) (s : StreamId)

theorem lookup_insert_eq_update (a : α) :
    (fun t => (d.insert s a).lookup t) = Function.update (fun t => d.lookup t) s (some a) := by
  funext t
  by_cases h : t = s
  · subst h
    rw [Finmap.lookup_insert, Function.update_self]
  · rw [Finmap.lookup_insert_of_ne _ h, Function.update_of_ne h]

theorem lookup_erase_eq_update :
    (fun t => (d.erase s).lookup t) = Function.update (fun t => d.lookup t) s none := by
  funext t
  by_cases h : t = s
  · subst h
    rw [Finmap.lookup_erase, Function.update_self]
  · rw [Finmap.lookup_erase_ne h, Function.update_of_ne h]

theorem viewBodies_insert (body : BodySource) :
    viewBodies (bodies.insert s body) = Function.update (viewBodies bodies) s (some body.view) := by
  funext t
  by_cases h : t = s
  · subst h
    rw [viewBodies, Finmap.lookup_insert, Function.update_self]
    rfl
  · rw [viewBodies, Finmap.lookup_insert_of_ne _ h, Function.update_of_ne h, viewBodies]

theorem viewBodies_erase :
    viewBodies (bodies.erase s) = Function.update (viewBodies bodies) s none := by
  funext t
  by_cases h : t = s
  · subst h
    rw [viewBodies, Finmap.lookup_erase, Function.update_self]
    rfl
  · rw [viewBodies, Finmap.lookup_erase_ne h, Function.update_of_ne h, viewBodies]

theorem viewBodies_of_lookup {bodies : Dict BodySource} {s : StreamId} {body : BodySource}
    (h : bodies.lookup s = some body) : viewBodies bodies s = some body.view := by
  rw [viewBodies, h]
  rfl

theorem mem_insert_eq_update (responses : Finset StreamId) :
    (fun t => decide (t ∈ insert s responses))
      = Function.update (fun t => decide (t ∈ responses)) s true := by
  funext t
  by_cases h : t = s
  · simp [h]
  · simp [h]

theorem mem_erase_eq_update (responses : Finset StreamId) :
    (fun t => decide (t ∈ responses.erase s))
      = Function.update (fun t => decide (t ∈ responses)) s false := by
  funext t
  by_cases h : t = s
  · simp [h]
  · simp [h]

/-- Opening or changing one body keeps the others in order. -/
theorem Connection.Queued.insert {w : PointerWidth} {c : Connection} (h : c.Queued w)
    {body : BodySource} (hb : body.Sound w) :
    ∀ t b, (c.bodies.insert s body).lookup t = some b → b.Sound w := by
  intro t b hlookup
  by_cases heq : t = s
  · subst heq
    rw [Finmap.lookup_insert, Option.some_inj] at hlookup
    exact hlookup ▸ hb
  · rw [Finmap.lookup_insert_of_ne _ heq] at hlookup
    exact h t b hlookup

/-- Closing one body keeps the others in order. -/
theorem Connection.Queued.erase {w : PointerWidth} {c : Connection} (h : c.Queued w) :
    ∀ t b, (c.bodies.erase s).lookup t = some b → b.Sound w := by
  intro t b hlookup
  by_cases heq : t = s
  · subst heq
    rw [Finmap.lookup_erase] at hlookup
    exact absurd hlookup (by simp)
  · rw [Finmap.lookup_erase_ne heq] at hlookup
    exact h t b hlookup

end Views

/-! ## Reading a happening off an entry -/

/-- Whether a use of a session is the call that wakes a source. -/
def Issued.isResume : Issued → Bool
  | .call _ q => q.isResume
  | _ => false

/-- A call that queues data or trailers and raised: it had queued what it was
given exactly if it came as far as waking the source. -/
def stuckOr (issued : List Issued) (s : StreamId) (message : Message) : Happening :=
  if issued.any Issued.isResume then .stuck s message else .nothing

/-- What an operation does to the records, from what it gave back. -/
def Request.happening (env : Env) (outcome : Outcome) : Request → Happening
  | .sendRequest headers endStream =>
    match outcome.response with
    | .returned (.streamId s) => .message s (.request endStream)
    | _ =>
      if outcome.took env (.submitRequest2 headers !endStream) ∧
          (endStream = false → env.alloc .body = true) then
        .stuck (env.reply (.submitRequest2 headers !endStream)) (.request endStream)
      else .nothing
  | .sendResponse s headers endStream =>
    match outcome.response with
    | .returned _ => .message s (.response endStream)
    | _ =>
      if outcome.took env (.submitResponse2 s headers !endStream) ∧
          env.alloc .response = true then
        .stuck s (.response endStream)
      else .nothing
  | .sendInformationalResponse s _ =>
    match outcome.response with
    | .returned _ => .message s .informational
    | _ => .nothing
  | .sendTrailers s headers =>
    match outcome.response with
    | .returned _ => .message s (.trailers headers)
    | _ => stuckOr outcome.issued s (.trailers headers)
  | .sendData s chunk endStream =>
    match outcome.response with
    | .returned _ => .message s (.data chunk endStream)
    | _ => stuckOr outcome.issued s (.data chunk endStream)
  | .resetStream s errorCode true =>
    match outcome.response with
    | .returned _ =>
      if env.reply (.sessionGetStreamLocalClose s) = 0 then .resetDeferred s errorCode
      else .nothing
    | _ => .nothing
  | .terminateConnection _ _ =>
    match outcome.response with
    | .returned _ => .discarded
    | _ => .nothing
  | _ => .nothing

/-- What a callback does to the records, from its reply and, for a frame
written to the output, from what was written. -/
def Callback.happening (before after : Machine) (reply : Reply) : Callback → Happening
  | .readBody s length =>
    if reply.code = errCallbackFailure then .nothing else .read s length reply
  | .sendBody s _ _ _ =>
    if reply.code = 0 then
      .sent s ((staged after.conn.output).drop (before.conn.outputSize + 9))
    else .nothing
  | .frameSent frame =>
    if reply.code = 0 ∧ frame.endStream = true ∧ frame.isDataOrHeaders = true then
      .localEnd frame.streamId
    else .nothing
  | .frameNotSent frame errorCode =>
    match frame.recordedFailure errorCode with
    | some s =>
      if reply.code = 0 then .notSent s (frameNotSentError before.host errorCode) else .nothing
    | none => .nothing
  | .streamClosed s _ => if reply.code = 0 then .closed s else .nothing
  | _ => .nothing

/-- **What a step does to the records.** -/
def happening (e : Entry Machine Label Outcome) : Happening :=
  match e.label with
  | .request r env => r.happening env e.outcome
  | .callback cb _ =>
    match e.outcome.response with
    | .replied reply => cb.happening e.before e.after reply
    | _ => .nothing
  | .ret _ _ =>
    if e.before.conn.closed = false ∧ e.after.conn.closed = true then .discarded else .nothing

/-- What a step between sound connections does to the records, and when. -/
structure Refines (w : PointerWidth) (c c' : Connection) (x : Happening) : Prop where
  queued : c'.Queued w
  permits : c.records.Permits w c.server x
  records : c'.records = c.records.record x

/-- A step that leaves the four maps alone. -/
theorem Refines.nothing {w : PointerWidth} {c c' : Connection} (hq : c.Queued w)
    (hb : c'.bodies = c.bodies)
    (hr : c'.responses = c.responses) (hd : c'.deferredResets = c.deferredResets)
    (he : c'.localStreamErrors = c.localStreamErrors) : Refines w c c' .nothing where
  queued := by
    rw [Connection.Queued, hb]
    exact hq
  permits := trivial
  records := by simp only [Connection.records, hb, hr, hd, he, Records.record]

/-! ## Operations -/

section Requests

variable {host : Host} {env : Env} {c : Connection} {r : Request}

/-- A call that changed nothing did not come as far as waking a source. -/
theorem Declined.not_resume {is : List Issued} (h : Declined env c r is) :
    is.any Issued.isResume = false := by
  refine List.any_eq_false.mpr fun i hi => ?_
  obtain ⟨q, rfl, hq | ⟨-, hq⟩⟩ := h i hi
  · cases q <;> simp_all [Issued.isResume, EngineCall.isResume, EngineCall.isQuery]
  · simp [Issued.isResume, hq.not_resume]

/-- What raised and changed nothing is no happening. -/
theorem Request.happening_rejected {e : PyError} {is : List Issued} (h : Declined env c r is) :
    r.happening env ⟨.raised e, is⟩ = .nothing := by
  cases r with
  | resetStream s errorCode afterEndStream => cases afterEndStream <;> rfl
  | sendRequest headers endStream =>
    rw [Request.happening, h.not_took rfl]
    exact if_neg fun ⟨htook, _⟩ => absurd htook (by simp)
  | sendResponse s headers endStream =>
    rw [Request.happening, h.not_took rfl]
    exact if_neg fun ⟨htook, _⟩ => absurd htook (by simp)
  | _ => simp [Request.happening, stuckOr, h.not_resume]

section Raised

variable {e : PyError} {is : List Issued} {session : Option SessionId} {s : StreamId}
  {headers : List Header} {endStream : Bool}

/-- A request that was taken and could not be recorded is no happening. -/
theorem Request.happening_bodiless (hexhausted : env.alloc .body = false) :
    (Request.sendRequest headers false).happening env ⟨.raised e, is⟩ = .nothing :=
  if_neg fun ⟨_, hrecorded⟩ => absurd (hrecorded rfl) (by simp [hexhausted])

/-- A request that was taken and recorded happened, whatever was raised. -/
theorem Request.happening_unreported
    (htaken : .call session (.submitRequest2 headers !endStream) ∈ is)
    (haccepted : 0 ≤ env.reply (.submitRequest2 headers !endStream))
    (hrecorded : endStream = false → env.alloc .body = true) :
    (Request.sendRequest headers endStream).happening env ⟨.raised e, is⟩
      = .stuck (env.reply (.submitRequest2 headers !endStream)) (.request endStream) :=
  if_pos ⟨Outcome.took_of_mem htaken haccepted, hrecorded⟩

/-- A response that was taken and could not be recorded is no happening. -/
theorem Request.happening_unrecorded (hexhausted : env.alloc .response = false) :
    (Request.sendResponse s headers endStream).happening env ⟨.raised e, is⟩ = .nothing :=
  if_neg fun ⟨_, hrecorded⟩ => absurd hrecorded (by simp [hexhausted])

/-- A response that was taken and recorded, but not its body, happened. -/
theorem Request.happening_recorded
    (htaken : .call session (.submitResponse2 s headers true) ∈ is)
    (haccepted : 0 ≤ env.reply (.submitResponse2 s headers true))
    (hrecorded : env.alloc .response = true) :
    (Request.sendResponse s headers false).happening env ⟨.raised e, is⟩
      = .stuck s (.response false) :=
  if_pos ⟨Outcome.took_of_mem htaken haccepted, hrecorded⟩

end Raised

/-- A quiet operation is no happening. -/
theorem Request.happening_quiet (h : r.isQuiet = true) (outcome : Outcome) :
    r.happening env outcome = .nothing := by
  cases r <;> first | rfl | simp [Request.isQuiet] at h

section Bodies

variable {body : BodySource} {w : PointerWidth}

theorem BodySource.Sound.view_append (h : body.Sound w) (chunk : Bytes) (endStream : Bool) :
    (body.append w chunk endStream).view = body.view.add chunk endStream := by
  simp only [BodySource.view, h.queue_append, BodySource.append_ended,
    BodySource.append_deferred, BodySource.append_trailers, Body.add]

theorem BodySource.Sound.resumed (h : body.Sound w) : body.resumed.Sound w :=
  h.flags body.ended false body.trailers

theorem BodySource.Sound.withTrailers (h : body.Sound w) (headers : List Header) :
    (body.withTrailers headers).Sound w :=
  h.flags true body.deferred (some headers)

end Bodies

/-- The records after a body was opened or changed. -/
theorem Connection.records_insert (s : StreamId) (body : BodySource) :
    Connection.records { c with bodies := c.bodies.insert s body }
      = { c.records with body := Function.update c.records.body s (some body.view) } := by
  simp only [Connection.records, viewBodies_insert]

/-- Changing the view of a body changes its record. -/
theorem Refines.onBody {w : PointerWidth} {c' : Connection} {x : Happening} {s : StreamId}
    {body body' : BodySource} {f : Body → Body} (hq : c.Queued w)
    (hb : c.bodies.lookup s = some body)
    (hbodies : c'.bodies = c.bodies.insert s body') (hr : c'.responses = c.responses)
    (hd : c'.deferredResets = c.deferredResets)
    (he : c'.localStreamErrors = c.localStreamErrors) (hsound : body'.Sound w)
    (hview : body'.view = f body.view) (hpermits : c.records.Permits w c.server x)
    (hx : c.records.record x = c.records.onBody s f) : Refines w c c' x where
  queued := by
    rw [Connection.Queued, hbodies]
    exact hq.insert s hsound
  permits := hpermits
  records := by
    rw [hx, Records.onBody]
    simp only [Connection.records, hbodies, hr, hd, he, viewBodies_insert, hview,
      viewBodies_of_lookup hb, Option.map_some]

/-- Nothing is recorded after everything was discarded. -/
theorem records_discarded (c : Connection) : c.discardPendingState.records = {} := by
  have hbodies : viewBodies ∅ = fun _ => none := by
    funext s
    rfl
  simp only [Connection.records, Connection.discardPendingState, hbodies, Finset.notMem_empty,
    decide_false, Finmap.lookup_empty]

/-- **An operation moves the records as its outcome says.** -/
theorem Requested.refines {p : Except PyError Started × World} {m : Machine}
    (h : Requested m.host env m.conn r p) (hq : m.conn.Queued m.host.pointerWidth)
    (hsound : p.2.conn.Sound) :
    Refines m.host.pointerWidth m.conn p.2.conn (r.happening env (m.afterRequest p).1) := by
  cases h with
  | rejected calls =>
    rw [Machine.afterRequest, Request.happening_rejected calls]
    exact .nothing hq rfl rfl rfl rfl
  | failed => exact absurd hsound.1 (by simp [World.failed, Connection.invalidate])
  | unreported quiet =>
    rw [Machine.afterRequest, Request.happening_quiet quiet]
    exact .nothing hq rfl rfl rfl rfl
  | answered quiet =>
    rw [Machine.afterRequest, Request.happening_quiet quiet]
    exact .nothing hq rfl rfl rfl rfl
  | @requested headers endStream streamId usable client submitted accepted =>
    refine ⟨?_, client, ?_⟩
    · cases endStream with
      | true => exact hq
      | false => exact hq.insert streamId BodySource.sound_empty
    · cases endStream with
      | true => rfl
      | false => exact Connection.records_insert streamId {}
  | @requestBodiless headers streamId usable client allowed submitted accepted exhausted =>
    rw [Machine.afterRequest, Request.happening_bodiless exhausted]
    exact .nothing hq rfl rfl rfl rfl
  | @requestUnreported headers endStream streamId usable client allowed submitted accepted
      recorded =>
    subst submitted
    rw [Machine.afterRequest, Request.happening_unreported
      (List.mem_cons_of_mem _ List.mem_cons_self) accepted recorded]
    refine ⟨?_, client, ?_⟩
    · cases endStream with
      | true => exact hq
      | false => exact hq.insert _ BodySource.sound_empty
    · cases endStream with
      | true => rfl
      | false => exact Connection.records_insert _ {}
  | @responded streamId headers endStream usable server tracked first =>
    refine ⟨?_, ⟨server, by simpa [Connection.records] using first⟩, ?_⟩
    · cases endStream with
      | true => exact hq
      | false => exact hq.insert streamId BodySource.sound_empty
    · cases endStream with
      | true =>
        simp only [Connection.records, if_true, mem_insert_eq_update]
        rfl
      | false =>
        simp only [Connection.records, Bool.false_eq_true, if_false, mem_insert_eq_update,
          viewBodies_insert]
        rfl
  | @responseUnrecorded streamId headers endStream usable server tracked first accepted exhausted =>
    rw [Machine.afterRequest, Request.happening_unrecorded exhausted]
    exact .nothing hq rfl rfl rfl rfl
  | @responseBodiless streamId headers usable server tracked first accepted recorded =>
    rw [Machine.afterRequest, Request.happening_recorded
      (List.mem_cons_of_mem _ List.mem_cons_self) accepted recorded]
    refine ⟨hq, ⟨server, by simpa [Connection.records] using first⟩, ?_⟩
    simp only [Connection.records, mem_insert_eq_update]
    rfl
  | informed usable server tracked first =>
    exact ⟨hq, ⟨server, by simpa [Connection.records] using first⟩, rfl⟩
  | @trailersQueued streamId headers body usable opened unended resumes =>
    exact .onBody (f := fun b => (b.endWith headers).resume) hq opened rfl rfl rfl rfl
      ((hq streamId body opened).withTrailers headers).resumed rfl
      ⟨body.view, viewBodies_of_lookup opened, unended⟩ rfl
  | @trailersStuck streamId headers body e usable opened unended deferred refused mild =>
    exact .onBody (f := (·.endWith headers)) hq opened rfl rfl rfl rfl
      ((hq streamId body opened).withTrailers headers) rfl
      ⟨body.view, viewBodies_of_lookup opened, unended, deferred⟩ rfl
  | @dataQueued streamId chunk endStream body usable opened unended resumes =>
    have hbody := hq streamId body opened
    refine .onBody (f := fun b => if chunk ≠ [] ∨ endStream = true then
        (b.add chunk endStream).resume else b.add chunk endStream) hq opened rfl rfl rfl rfl
      ?_ ?_ ⟨body.view, viewBodies_of_lookup opened, unended⟩ rfl
    · split
      · exact (hbody.append chunk endStream).resumed
      · exact hbody.append chunk endStream
    · rw [← hbody.view_append]
      split <;> rfl
  | @dataStuck streamId chunk endStream body e usable opened unended deferred wakes refused mild =>
    have hbody := hq streamId body opened
    exact .onBody (f := (·.add chunk endStream)) hq opened rfl rfl rfl rfl
      (hbody.append chunk endStream) (hbody.view_append chunk endStream)
      ⟨body.view, viewBodies_of_lookup opened, unended, deferred⟩ rfl
  | @resetDeferred streamId errorCode usable localOpen ended =>
    simp only [Request.happening, Machine.afterRequest, localOpen, if_true]
    refine ⟨hq, ?_, ?_⟩
    · simp only [Records.Permits, Records.locallyEnded, Connection.records, viewBodies]
      rw [Connection.locallyEnded] at ended
      cases hb : m.conn.bodies.lookup streamId with
      | none => simpa [hb] using ended
      | some body => simpa [hb, BodySource.view] using ended
    · simp only [Connection.records, lookup_insert_eq_update, Records.record]
  | @resetSubmitted streamId errorCode afterEndStream usable immediate =>
    cases afterEndStream with
    | false => exact .nothing hq rfl rfl rfl rfl
    | true =>
      have hne : env.reply (.sessionGetStreamLocalClose streamId) ≠ 0 := (immediate rfl).ne'
      simp only [Request.happening, Machine.afterRequest, hne, if_false]
      exact .nothing hq rfl rfl rfl rfl
  | terminated usable =>
    refine ⟨fun s body hs => absurd hs (by simp [Connection.discardPendingState]), trivial, ?_⟩
    exact records_discarded _
  | _ => exact .nothing hq rfl rfl rfl rfl

end Requests

/-! ## Callbacks -/

section Callbacks

variable {host : Host} {env : Env} {session : Option SessionId} {streamId : StreamId}

/-- **What the engine is told is the answer of the body**, on both paths: the
queue without its chunks, the flags and the trailers decide it. -/
theorem FinishedRead.answer {body taken body' : BodySource} {reply reply' : Reply}
    {complete : Bool} {is : List Issued} {length n : Nat} {w : PointerWidth} (copy : Bool)
    (h : FinishedRead env session streamId taken reply complete reply' is body')
    (hn : n = min length (body.view.available w copy))
    (hreply : reply = {
      code := n, noCopy := !copy, buffer := if copy then body.view.queue.take n else [] })
    (hcomplete : complete = (body.view.ended && decide (n = body.view.available w copy)))
    (hview : taken.view = { body.view with queue := body.view.queue.drop reply.buffer.length })
    (hsound : taken.Sound w) :
    reply' = body.view.answer w length copy ∧ body'.view = body.view.answered reply' ∧
      body'.Sound w := by
  have hlate : ((n : Int) = errDeferred) = False := by
    unfold errDeferred
    simp only [eq_iff_iff, iff_false]
    omega
  have htrailers : taken.trailers = body.view.trailers := congrArg Body.trailers hview
  subst hreply
  simp only [Body.answer, ← hn, ← hcomplete]
  cases h with
  | ended hc ht =>
    rw [ht] at htrailers
    simp only [hc, ← htrailers, if_true, Option.isSome_none]
    refine ⟨trivial, ?_, hsound⟩
    simp only [hview, Body.answered, hlate, decide_false, Bool.or_false, Bool.false_eq_true,
      if_false]
  | trailers hc ht accepted =>
    rw [ht] at htrailers
    simp only [hc, ← htrailers, if_true, Option.isSome_some]
    refine ⟨trivial, ?_, hsound.flags _ _ none⟩
    change { taken.view with trailers := none } = _
    simp only [hview, Body.answered, hlate, decide_false, Bool.or_false, if_true]
  | continued hc hne =>
    have hpos : n ≠ 0 := fun h0 => hne (by simp [h0])
    simp only [hc, hpos, Bool.false_eq_true, if_false]
    refine ⟨trivial, ?_, hsound⟩
    simp only [hview, Body.answered, hlate, decide_false, Bool.or_false, Bool.false_eq_true,
      if_false]
  | deferred hc hz =>
    have hzero : n = 0 := Int.natCast_eq_zero.mp hz
    simp only [hc, hzero, Bool.false_eq_true, if_true, if_false]
    refine ⟨trivial, ?_, hsound.flags _ true _⟩
    change { taken.view with deferred := true } = _
    simp only [hview, hzero, Body.answered, decide_true, Bool.or_true, Bool.false_eq_true,
      if_false]

/-- What was copied is a beginning of the queue, and what is left of the body
is the rest. -/
theorem Taken.view {w : PointerWidth} {body : BodySource} {queued k : Nat} {s : CopyState}
    (h : Taken w k { body, queued } s) :
    s.copied = body.view.queue.take k ∧
      s.body.compact.view = { body.view with queue := body.view.queue.drop k } := by
  refine ⟨by simpa using h.copied, ?_⟩
  simp only [BodySource.view, BodySource.queue_compact, BodySource.compact_ended,
    BodySource.compact_deferred, BodySource.compact_trailers, h.queue, h.ended, h.deferred,
    h.trailers]

/-- The answer on the path that leaves the bytes queued. -/
theorem FinishedRead.whole {body body' : BodySource} {reply : Reply} {is : List Issued}
    {length : Nat} {w : PointerWidth} (hs : body.Sound w)
    (h : FinishedRead env session streamId body
      { code := (min length body.queuedSize : Nat), noCopy := true }
      (body.ended && decide (min length body.queuedSize = body.queuedSize)) reply is body') :
    reply = body.view.answer w length false ∧ body'.view = body.view.answered reply ∧
      body'.Sound w := by
  have hsize : body.queuedSize = body.view.available w false := hs.size
  rw [hsize] at h
  exact h.answer false rfl rfl rfl rfl hs

/-- The answer on the path that copies the bytes. -/
theorem FinishedRead.copied {body body' : BodySource} {reply : Reply} {is : List Issued}
    {length queued : Nat} {s : CopyState} {w : PointerWidth} (hs : body.Sound w)
    (hcopied : copyLoop w length (body.chunks.length - body.head) { body, queued } = (.ok (), s))
    (h : FinishedRead env session streamId s.body.compact
      { code := s.copied.length, buffer := s.copied }
      (s.body.compact.ended && decide (s.body.compact.head = s.body.compact.chunks.length))
      reply is body') :
    reply = body.view.answer w length true ∧ body'.view = body.view.answered reply ∧
      body'.Sound w := by
  obtain ⟨s', heq, htaken⟩ := hs.copyLoop length queued
  obtain rfl : s = s' := congrArg Prod.snd (hcopied.symm.trans heq)
  obtain ⟨hbytes, hview⟩ := htaken.view
  have hlen : s.copied.length = min length body.view.queue.length := by
    rw [hbytes, List.length_take]
  have hsound := htaken.sound.compact
  refine h.answer true hlen ?_ ?_ ?_ hsound
  · rw [if_pos rfl, hlen, ← List.take_eq_take_min, ← hbytes]
    rfl
  · have hended : s.body.compact.ended = body.view.ended := congrArg Body.ended hview
    have hqueue : s.body.compact.queue = body.view.queue.drop length :=
      congrArg Body.queue hview
    rw [hended]
    congr 1
    rw [decide_eq_decide, hsound.head_eq_length_iff, hqueue, List.drop_eq_nil_iff, hlen]
    exact min_eq_right_iff.symm
  · rw [hview, hlen, ← List.drop_eq_drop_min]

/-- What `_send_body` wrote behind the frame header. -/
theorem drop_staged_bodySent {output output' : Option Buffer} {offset : Nat}
    {frameHeader : FrameHeader} {payload : Bytes} (hlen : (staged output).length = offset)
    (hkept : staged output = staged output')
    (hfits : offset + (payload.length + 9) ≤ room output') :
    (staged (output'.map fun b =>
      (b.memcpy offset frameHeader.val).memcpy (offset + 9) payload)).drop (offset + 9)
      = payload := by
  rw [staged_bodySent hlen hkept hfits]
  exact List.drop_left' (by rw [List.length_append, hlen, frameHeader.property])

/-- Outside `data_to_send` nothing is left of a limit. -/
theorem Machine.Staging.sending {m : Machine} {d : Drive} (hst : m.Staging)
    (hdriven : m.drive = some (d, session)) (hne : m.conn.outputRemaining ≠ 0) :
    d = .send ∧ (staged m.conn.output).length = m.conn.outputSize := by
  rw [Machine.Staging, hdriven] at hst
  cases d with
  | send => exact ⟨rfl, hst⟩
  | _ => exact absurd hst.2 hne

/-- A change that changes no body changes nothing. -/
theorem Records.onBody_eq_self {r : Records} {f : Body → Body} (h : ∀ b, f b = b) :
    r.onBody streamId f = r := by
  have hbody : Function.update r.body streamId ((r.body streamId).map f) = r.body := by
    rw [Function.update_eq_self_iff, funext h]
    exact Option.map_id'
  rw [Records.onBody, hbody]

/-- Pausing changes no body. -/
theorem Body.answered_pause (b : Body) : b.answered { code := errPause } = b := by
  simp [Body.answered, errPause, errDeferred]

/-- An answer is not the report of a failure. -/
theorem Body.answer_code_ne (w : PointerWidth) (b : Body) (length : Nat) (copy : Bool) :
    (b.answer w length copy).code ≠ errCallbackFailure := by
  unfold Body.answer errCallbackFailure
  dsimp only
  split
  · dsimp only
    omega
  · split
    · simp [errDeferred]
    · dsimp only
      omega

/-- Where no reset is deferred, there is none to take. -/
theorem Records.reset_eq_self {c : Connection} (h : c.deferredResets.keys = ∅) (s : StreamId) :
    Function.update c.records.reset s none = c.records.reset := by
  rw [Function.update_eq_self_iff]
  have hmem : s ∉ c.deferredResets := by
    rw [← Finmap.mem_keys, h]
    exact Finset.notMem_empty s
  exact (Finmap.lookup_eq_none.mpr hmem).symm

/-- **A callback moves the records as its reply says.** -/
theorem Called.refines {p : Reply × World} {m m' : Machine} {cb : Callback} {d : Drive}
    (h : Called m.host env session m.conn cb p) (hconn : m'.conn = p.2.conn)
    (hdriven : m.drive = some (d, session)) (hst : m.Staging)
    (hq : m.conn.Queued m.host.pointerWidth) (hsound : p.2.conn.Sound) :
    Refines m.host.pointerWidth m.conn p.2.conn (cb.happening m m' p.1) := by
  cases h with
  | failed spoiled deferred => exact absurd (deferred.symm.trans hsound.2) (by simp)
  | @bodySent streamId frameHeader length body s output limit opened written fits copied full =>
    obtain ⟨rfl, hlen⟩ := hst.sending hdriven (by omega)
    have hbody := hq streamId body opened
    obtain ⟨s', heq, htaken⟩ := hbody.copyLoop length m.conn.queuedBodySize
    obtain rfl : s = s' := congrArg Prod.snd (copied.symm.trans heq)
    obtain ⟨hbytes, hview⟩ := htaken.view
    simp only [Callback.happening, if_true, hconn, Connection.spendOutput]
    rw [← full] at fits
    rw [drop_staged_bodySent hlen written fits]
    refine .onBody (f := (·.sent s.copied)) hq opened rfl rfl rfl rfl htaken.sound.compact
      ?_ ⟨body.view, viewBodies_of_lookup opened, ?_⟩ rfl
    · rw [hview, Body.sent, full]
    · rw [full]
      exact hbytes
  | @paused streamId length spent =>
    exact ⟨hq, .inl rfl, (Records.onBody_eq_self Body.answered_pause).symm⟩
  | @readWhole streamId length body body' reply is unspent opened whole finished =>
    obtain ⟨rfl, hview, hsound'⟩ := finished.whole (hq streamId body opened)
    simp only [Callback.happening, Body.answer_code_ne, if_false]
    exact .onBody hq opened rfl rfl rfl rfl hsound' hview
      (.inr ⟨body.view, false, viewBodies_of_lookup opened, rfl⟩) rfl
  | @readCopied streamId length body body' s reply is unspent opened limited copied finished =>
    obtain ⟨rfl, hview, hsound'⟩ := finished.copied (hq streamId body opened) copied
    simp only [Callback.happening, Body.answer_code_ne, if_false]
    exact .onBody hq opened rfl rfl rfl rfl hsound' hview
      (.inr ⟨body.view, true, viewBodies_of_lookup opened, rfl⟩) rfl
  | @headerBlock cb code headers size kind =>
    rcases kind with ⟨rfl, -⟩ | ⟨rfl, -⟩ | ⟨name, value, noIndex, rfl, -⟩
    all_goals exact .nothing hq rfl rfl rfl rfl
  | @streamClosed streamId errorCode =>
    refine ⟨hq.erase streamId, trivial, ?_⟩
    simp only [Connection.records, viewBodies_erase, mem_erase_eq_update,
      lookup_erase_eq_update]
    rfl
  | @sentQuietly frame quiet kind =>
    by_cases hend : frame.endStream = true ∧ frame.isDataOrHeaders = true
    · have hnone : m.conn.deferredResets.keys = ∅ := by
        simpa [endsStream, hend.1, hend.2] using quiet
      simp only [Callback.happening, hend.1, hend.2, and_self, if_true]
      refine ⟨hq, trivial, ?_⟩
      rw [Records.record, Records.reset_eq_self hnone]
    · simp only [Callback.happening, hend, and_false, if_false]
      exact .nothing hq rfl rfl rfl rfl
  | @streamEnded frame is ends calls =>
    simp only [endsStream, Bool.and_eq_true] at ends
    simp only [Callback.happening, ends.1.2, ends.2, and_self, if_true]
    refine ⟨hq, trivial, ?_⟩
    simp only [Connection.records, lookup_erase_eq_update]
    rfl
  | @goawaySent frame lastStreamId errorCode opaqueData kind =>
    have hnot : frame.isDataOrHeaders = false := by
      rw [Frame.isDataOrHeaders, kind]
    simp only [Callback.happening, hnot, Bool.false_eq_true, and_false, if_false]
    exact .nothing hq rfl rfl rfl rfl
  | notSentIgnored unrecorded =>
    simp only [Callback.happening, unrecorded]
    exact .nothing hq rfl rfl rfl rfl
  | notSentRecorded recorded =>
    simp only [Callback.happening, recorded, if_true]
    refine ⟨hq, trivial, ?_⟩
    simp only [Connection.records, lookup_insert_eq_update]
    rfl
  | _ => exact .nothing hq rfl rfl rfl rfl

end Callbacks

/-! ## Where a happening comes from -/

section Origins

variable {m : Machine} {l : Label} {p : Outcome × Machine}

/-- **Where a happening comes from**: the call, the callback or the return
behind it, with what the engine answered. -/
inductive Origin (m : Machine) : Label → Happening → Prop
  | request {s : StreamId} {headers : List Header} {endStream : Bool} {env : Env}
      (submitted : env.reply (.submitRequest2 headers !endStream) = s) (accepted : 0 ≤ s) :
      Origin m (.request (.sendRequest headers endStream) env) (.message s (.request endStream))
  | response {s : StreamId} {headers : List Header} {endStream : Bool} {env : Env}
      (tracked : 0 ≤ env.reply (.sessionGetStreamLocalClose s)) :
      Origin m (.request (.sendResponse s headers endStream) env)
        (.message s (.response endStream))
  | informational {s : StreamId} {headers : List Header} {env : Env}
      (tracked : 0 ≤ env.reply (.sessionGetStreamLocalClose s)) :
      Origin m (.request (.sendInformationalResponse s headers) env) (.message s .informational)
  | data {s : StreamId} {chunk : Bytes} {endStream : Bool} {env : Env} :
      Origin m (.request (.sendData s chunk endStream) env)
        (.message s (.data chunk endStream))
  | trailers {s : StreamId} {headers : List Header} {env : Env} :
      Origin m (.request (.sendTrailers s headers) env) (.message s (.trailers headers))
  | requestStuck {s : StreamId} {headers : List Header} {endStream : Bool} {env : Env}
      (submitted : env.reply (.submitRequest2 headers !endStream) = s) (accepted : 0 ≤ s)
      (recorded : endStream = false → env.alloc .body = true)
      (exhausted : env.alloc .identifier = false)
      (taken : m.conn.Takes env (.sendRequest headers endStream)) :
      Origin m (.request (.sendRequest headers endStream) env) (.stuck s (.request endStream))
  | responseStuck {s : StreamId} {headers : List Header} {env : Env}
      (tracked : 0 ≤ env.reply (.sessionGetStreamLocalClose s))
      (recorded : env.alloc .response = true) (exhausted : env.alloc .body = false)
      (taken : m.conn.Takes env (.sendResponse s headers false)) :
      Origin m (.request (.sendResponse s headers false) env) (.stuck s (.response false))
  | dataStuck {s : StreamId} {chunk : Bytes} {endStream : Bool} {env : Env}
      (wakes : chunk ≠ [] ∨ endStream = true) (refused : env.reply (.sessionResumeData s) < 0)
      (mild : isFatal (env.reply (.sessionResumeData s)) = true → env.alloc .exception = false) :
      Origin m (.request (.sendData s chunk endStream) env) (.stuck s (.data chunk endStream))
  | trailersStuck {s : StreamId} {headers : List Header} {env : Env}
      (refused : env.reply (.sessionResumeData s) < 0)
      (mild : isFatal (env.reply (.sessionResumeData s)) = true → env.alloc .exception = false) :
      Origin m (.request (.sendTrailers s headers) env) (.stuck s (.trailers headers))
  | resetDeferred {s : StreamId} {errorCode : Nat} {env : Env}
      (localOpen : env.reply (.sessionGetStreamLocalClose s) = 0) :
      Origin m (.request (.resetStream s errorCode true) env) (.resetDeferred s errorCode)
  | terminated {errorCode : Nat} {lastStreamId : Option StreamId} {env : Env} :
      Origin m (.request (.terminateConnection errorCode lastStreamId) env) .discarded
  | announced {result : Int} {env : Env} : Origin m (.ret result env) .discarded
  | read {s : StreamId} {length : Nat} {reply : Reply} {env : Env} :
      Origin m (.callback (.readBody s length) env) (.read s length reply)
  | sent {s : StreamId} {frameHeader : FrameHeader} {length : Nat} {data : Bytes} {env : Env} :
      Origin m (.callback (.sendBody s 0 frameHeader length) env) (.sent s data)
  | localEnd {frame : Frame} {env : Env} (ends : frame.endStream = true)
      (kind : frame.isDataOrHeaders = true) :
      Origin m (.callback (.frameSent frame) env) (.localEnd frame.streamId)
  | notSent {s : StreamId} {frame : Frame} {errorCode : Int} {env : Env}
      (recorded : frame.recordedFailure errorCode = some s) :
      Origin m (.callback (.frameNotSent frame errorCode) env)
        (.notSent s (frameNotSentError m.host errorCode))
  | closed {s : StreamId} {errorCode : Nat} {env : Env} :
      Origin m (.callback (.streamClosed s errorCode) env) (.closed s)
  | nothing {l : Label} (unclosed :
      ∀ s errorCode env, l ≠ .callback (.streamClosed s errorCode) env)
      (unrecorded : ∀ frame errorCode env, l = .callback (.frameNotSent frame errorCode) env →
        frame.recordedFailure errorCode = none) :
      Origin m l .nothing

/-- An operation that is no happening. -/
theorem Origin.of_request {r : Request} {env : Env} : Origin m (.request r env) .nothing :=
  .nothing (by simp) (by simp)

/-- **Every step between sound connections has its origin.** -/
theorem Stepped.origin (h : Stepped m l p) (hsound : p.2.conn.Sound) :
    Origin m l (happening ⟨m, l, p.1, p.2⟩) := by
  cases h with
  | @request r env p idle hr =>
    rw [Machine.afterRequest_conn] at hsound
    simp only [happening]
    cases hr with
    | rejected calls =>
      rw [Machine.afterRequest, Request.happening_rejected calls]
      exact .of_request
    | failed => exact absurd hsound.1 (by simp [World.failed, Connection.invalidate])
    | unreported quiet =>
      rw [Machine.afterRequest, Request.happening_quiet quiet]
      exact .of_request
    | answered quiet =>
      rw [Machine.afterRequest, Request.happening_quiet quiet]
      exact .of_request
    | requested usable client submitted accepted => exact .request submitted accepted
    | requestBodiless usable client allowed submitted accepted exhausted =>
      rw [Machine.afterRequest, Request.happening_bodiless exhausted]
      exact .of_request
    | requestUnreported usable client allowed submitted accepted recorded exhausted =>
      subst submitted
      rw [Machine.afterRequest, Request.happening_unreported
        (List.mem_cons_of_mem _ List.mem_cons_self) accepted recorded]
      exact .requestStuck rfl accepted recorded exhausted ⟨usable, client, allowed, accepted⟩
    | responded usable server tracked => exact .response tracked
    | responseUnrecorded usable server tracked first accepted exhausted =>
      rw [Machine.afterRequest, Request.happening_unrecorded exhausted]
      exact .of_request
    | responseBodiless usable server tracked first accepted recorded exhausted =>
      rw [Machine.afterRequest, Request.happening_recorded
        (List.mem_cons_of_mem _ List.mem_cons_self) accepted recorded]
      exact .responseStuck tracked recorded exhausted ⟨usable, server, tracked, first, accepted⟩
    | informed usable server tracked => exact .informational tracked
    | trailersQueued => exact .trailers
    | trailersStuck usable opened unended deferred refused mild =>
      exact .trailersStuck refused mild
    | dataQueued => exact .data
    | dataStuck usable opened unended deferred wakes refused mild =>
      exact .dataStuck wakes refused mild
    | resetDeferred usable localOpen =>
      simp only [Request.happening, Machine.afterRequest, localOpen, if_true]
      exact .resetDeferred localOpen
    | @resetSubmitted streamId errorCode afterEndStream usable immediate =>
      cases afterEndStream with
      | false => exact .of_request
      | true =>
        have hne : env.reply (.sessionGetStreamLocalClose streamId) ≠ 0 := (immediate rfl).ne'
        simp only [Request.happening, Machine.afterRequest, hne, if_false]
        exact .of_request
    | terminated => exact .terminated
    | _ => exact .of_request
  | @callback cb env d session p driven hc =>
    rw [Machine.afterCallback_conn] at hsound
    simp only [happening, Machine.afterCallback]
    cases hc with
    | failed spoiled deferred => exact absurd (deferred.symm.trans hsound.2) (by simp)
    | bodySent =>
      simp only [Callback.happening, if_true]
      exact .sent
    | paused => exact .read
    | readWhole =>
      simp only [Callback.happening]
      split
      · exact .nothing (by simp) (by simp)
      · exact .read
    | readCopied =>
      simp only [Callback.happening]
      split
      · exact .nothing (by simp) (by simp)
      · exact .read
    | @headerBlock cb code headers size kind =>
      rcases kind with ⟨rfl, -⟩ | ⟨rfl, -⟩ | ⟨name, value, noIndex, rfl, -⟩
      all_goals exact .nothing (by simp) (by simp)
    | streamClosed => exact .closed
    | @sentQuietly frame quiet kind =>
      simp only [Callback.happening]
      split
      · next hend => exact .localEnd hend.2.1 hend.2.2
      · exact .nothing (by simp) (by simp)
    | @streamEnded frame is ends calls =>
      simp only [Callback.happening]
      split
      · next hend => exact .localEnd hend.2.1 hend.2.2
      · exact .nothing (by simp) (by simp)
    | @goawaySent frame lastStreamId errorCode opaqueData kind =>
      simp only [Callback.happening]
      split
      · next hend => exact .localEnd hend.2.1 hend.2.2
      · exact .nothing (by simp) (by simp)
    | @notSentIgnored frame errorCode unrecorded =>
      simp only [Callback.happening, unrecorded]
      refine .nothing (by simp) fun frame' errorCode' env' heq => ?_
      simp only [Label.callback.injEq, Callback.frameNotSent.injEq] at heq
      rw [← heq.1.1, ← heq.1.2, unrecorded]
    | notSentRecorded recorded =>
      simp only [Callback.happening, recorded, if_true]
      exact .notSent recorded
    | _ => exact .nothing (by simp) (by simp)
  | @ret result env d session p driven hr =>
    simp only [happening]
    split
    · exact .announced
    · exact .nothing (by simp) (by simp)

end Origins

/-! ## Returns, and runs -/

/-- **A return moves the records only where it announces the end.** -/
theorem Returned.refines {host : Host} {env : Env} {c : Connection} {d : Drive} {result : Int}
    {p : Except PyError Value × World} {w : PointerWidth} (h : Returned host env c d result p)
    (hq : c.Queued w) (hsound : p.2.conn.Sound) :
    Refines w c p.2.conn
      (if c.closed = false ∧ p.2.conn.closed = true then .discarded else .nothing) := by
  have hdiscarded {c' : Connection} (hb : c'.bodies = ∅) : c'.Queued w := by
    intro s body hs
    rw [hb] at hs
    exact absurd hs (by simp)
  have hkept {c' : Connection} (hcl : c'.closed = c.closed) (hb : c'.bodies = c.bodies)
      (hr : c'.responses = c.responses) (hd : c'.deferredResets = c.deferredResets)
      (he : c'.localStreamErrors = c.localStreamErrors) :
      Refines w c c' (if c.closed = false ∧ c'.closed = true then .discarded else .nothing) := by
    rw [hcl, if_neg (by simp)]
    exact .nothing hq hb hr hd he
  cases h with
  | failed => exact absurd hsound.1 (by simp [World.failed, Connection.invalidate])
  | sentThenFailed => exact absurd hsound.1 (by simp [World.failed, Connection.invalidate])
  | receivedLast finished =>
    rw [if_pos ⟨finished.2.2.1, rfl⟩]
    exact ⟨hdiscarded rfl, trivial, records_discarded c⟩
  | receivedUnannounced finished =>
    rw [if_pos ⟨finished.2.2.1, rfl⟩]
    exact ⟨hdiscarded rfl, trivial, records_discarded c⟩
  | sentLast _ finished =>
    rw [if_pos ⟨finished.2.2.1, rfl⟩]
    exact ⟨hdiscarded rfl, trivial, records_discarded c⟩
  | _ => exact hkept rfl rfl rfl rfl rfl

/-- **Every step between sound connections refines its happening.** -/
theorem Stepped.refines {m : Machine} {l : Label} {p : Outcome × Machine} (h : Stepped m l p)
    (hst : m.Staging) (hq : m.conn.Queued m.host.pointerWidth) (hsound : p.2.conn.Sound) :
    Refines m.host.pointerWidth m.conn p.2.conn (happening ⟨m, l, p.1, p.2⟩) := by
  cases h with
  | request idle hr =>
    rw [Machine.afterRequest_conn] at hsound ⊢
    exact hr.refines hq hsound
  | @callback cb env d session p driven hc =>
    exact hc.refines rfl driven hst hq hsound
  | ret driven hr =>
    simp only [happening, Machine.afterReturn_conn] at hsound ⊢
    exact hr.refines hq hsound

/-- Nothing happens to the records of an inactive connection outside the
engine. -/
theorem Stepped.happening_inactive {m : Machine} {l : Label} {p : Outcome × Machine}
    (h : Stepped m l p) (hdrive : m.drive = none) (hactive : m.conn.active = false)
    (hsound : p.2.conn.Sound) : happening ⟨m, l, p.1, p.2⟩ = .nothing := by
  cases h with
  | @request r env p idle hr =>
    rw [Machine.afterRequest_conn] at hsound
    simp only [happening]
    have hunusable : ¬ m.conn.Usable := fun hu => absurd hu.2.1 (by simp [hactive])
    cases hr with
    | rejected calls =>
      rw [Machine.afterRequest]
      exact Request.happening_rejected calls
    | failed => exact absurd hsound.1 (by simp [World.failed, Connection.invalidate])
    | unreported quiet => exact Request.happening_quiet quiet _
    | answered quiet => exact Request.happening_quiet quiet _
    | requested usable => exact absurd usable hunusable
    | requestBodiless usable => exact absurd usable hunusable
    | requestUnreported usable => exact absurd usable hunusable
    | responded usable => exact absurd usable hunusable
    | responseUnrecorded usable => exact absurd usable hunusable
    | responseBodiless usable => exact absurd usable hunusable
    | informed usable => exact absurd usable hunusable
    | trailersQueued usable => exact absurd usable hunusable
    | trailersStuck usable => exact absurd usable hunusable
    | dataQueued usable => exact absurd usable hunusable
    | dataStuck usable => exact absurd usable hunusable
    | resetDeferred usable => exact absurd usable hunusable
    | resetSubmitted usable => exact absurd usable hunusable
    | terminated usable => exact absurd usable hunusable
    | _ => rfl
  | callback driven => exact absurd driven (by simp [hdrive])
  | ret driven => exact absurd driven (by simp [hdrive])

/-- **A message that is stuck is queued** behind a source, where what the engine
takes is recorded whole; or it is a request with nothing to record. -/
theorem Stepped.queues_of_stuck {s : StreamId} {message : Message} (h : Stepped m l p)
    (hsound : p.2.conn.Sound) (hafforded : m.RecordAfforded l)
    (hx : happening ⟨m, l, p.1, p.2⟩ = .stuck s message) :
    message.queues = true ∨ message = .request true := by
  have horigin := h.origin hsound
  rw [hx] at horigin
  cases horigin with
  | @requestStuck _ headers endStream env submitted accepted recorded exhausted taken =>
    cases endStream with
    | true => exact .inr rfl
    | false => exact absurd (hafforded taken rfl (recorded rfl)) (by simp [exhausted])
  | responseStuck tracked recorded exhausted taken =>
    exact absurd (hafforded taken rfl recorded) (by simp [exhausted])
  | dataStuck => exact .inl rfl
  | trailersStuck => exact .inl rfl

section Runs

variable {host : Host} {Allowed : History → Machine → Label → Prop}

/-- The records after a history. -/
def recordsAfter (h : History) : Records := recordsOf (h.map happening)

/-- **The records of a sound connection are those of its history.** -/
theorem Runs.records_eq (hends : ∀ {h m l}, Allowed h m l → FailureEndsDrive h l)
    {h : History} {m : Machine} (hrun : Runs host Allowed h m) (hsound : m.conn.Sound) :
    m.conn.Queued host.pointerWidth ∧ m.conn.records = recordsAfter h := by
  refine Runs.induct_sound
    (I := fun h m => m.conn.Queued host.pointerWidth ∧ m.conn.records = recordsAfter h)
    hends ⟨fun s body hs => absurd hs (by simp [Machine.fresh]), records_discarded {}⟩ ?_
    hrun hsound
  intro h m l p hrun hbefore ih _ hstep hsound
  obtain ⟨hq, hrecords⟩ := ih
  have hhost := Runs.host_eq hrun
  have hrefines := hstep.refines (Runs.staging hends hrun hbefore) (hhost ▸ hq) hsound
  refine ⟨hhost ▸ hrefines.queued, ?_⟩
  rw [hrefines.records, hrecords]
  rfl

/-- Every body of a sound state is sound, at the width of its own host. -/
theorem Runs.queued (hends : ∀ {h m l}, Allowed h m l → FailureEndsDrive h l)
    {h : History} {m : Machine} (hrun : Runs host Allowed h m) (hsound : m.conn.Sound) :
    m.conn.Queued m.host.pointerWidth := by
  rw [Runs.host_eq hrun]
  exact (Runs.records_eq hends hrun hsound).1

/-- **What happens in a run is permitted** by the records of the history
before it. -/
theorem Runs.permits (hends : ∀ {h m l}, Allowed h m l → FailureEndsDrive h l)
    {h : History} {m : Machine} {l : Label} {p : Outcome × Machine}
    (hrun : Runs host Allowed h m) (hbefore : m.conn.Sound) (hstep : Stepped m l p)
    (hsound : p.2.conn.Sound) :
    (recordsAfter h).Permits host.pointerWidth m.conn.server (happening ⟨m, l, p.1, p.2⟩) := by
  obtain ⟨hq, hrecords⟩ := Runs.records_eq hends hrun hbefore
  have hhost := Runs.host_eq hrun
  rw [← hrecords, ← hhost]
  exact (hstep.refines (Runs.staging hends hrun hbefore) (hhost ▸ hq) hsound).permits

/-- Nothing is recorded before the connection is initialized. -/
theorem Runs.records_uninitialized (hends : ∀ {h m l}, Allowed h m l → FailureEndsDrive h l)
    {h : History} {m : Machine} (hrun : Runs host Allowed h m) (hsound : m.conn.Sound) :
    m.conn.initialized = false → recordsAfter h = {} := by
  refine Runs.induct_sound (I := fun h m => m.conn.initialized = false → recordsAfter h = {})
    hends (fun _ => rfl) ?_ hrun hsound
  intro h m l p hrun _ ih _ hstep hsound hi
  have hbefore : m.conn.initialized = false :=
    Bool.eq_false_iff.mpr fun hinit => absurd (hstep.role hinit).1 (by simp [hi])
  obtain ⟨hdrive, hactive⟩ := Runs.idle hrun hbefore
  change (recordsAfter h).record (happening ⟨m, l, p.1, p.2⟩) = {}
  rw [hstep.happening_inactive hdrive hactive hsound, ih hbefore]
  rfl

end Runs

end Ngh2
