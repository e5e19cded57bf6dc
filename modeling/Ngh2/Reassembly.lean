import Ngh2.HeaderBlocks
import Ngh2.InboundData

/-!
# The reassembly of DATA

A DATA frame arrives in fragments, cut wherever the input happened to be cut,
and is published in one piece when it is complete. What a run was given is a
list of frames (`inboundFrames`): each with its fragments in order, and with
what became of it – it was completed, it was abandoned because another one
began or its stream was closed, or it is still pending.

The buffer of the connection is the pending frame of that list
(`Inbound.Holds`), whatever was abandoned before it. So what is published is
the list of the completed frames, their fragments joined, and how a frame was
cut is not in it.
-/

namespace Ngh2

open Nghttp2 Effect

/-! ## The frames of a run -/

/-- What became of a frame. -/
inductive Fate where
  /-- It may still be completed. -/
  | pending
  | completed (endStream : Bool)
  /-- Another frame began, its stream was closed, or its completion failed. -/
  | abandoned
  deriving DecidableEq

/-- **An inbound DATA frame**, with the fragments it was delivered in. -/
structure InboundFrame where
  streamId : StreamId
  /-- The length of its payload, with the padding. -/
  length : Nat
  fragments : List Bytes := []
  fate : Fate := .pending
  deriving DecidableEq

namespace InboundFrame

/-- The application bytes of a frame. -/
def bytes (f : InboundFrame) : Bytes := f.fragments.flatten

/-- **A frame but for how it was cut.** -/
def uncut (f : InboundFrame) : InboundFrame := { f with fragments := [f.bytes] }

/-- What a frame publishes: once it is completed, all of its bytes. -/
def publication (f : InboundFrame) : Option (StreamId × Bytes × Bool) :=
  match f.fate with
  | .completed endStream => some (f.streamId, f.bytes, endStream)
  | _ => none

theorem bytes_uncut (f : InboundFrame) : f.uncut.bytes = f.bytes := List.flatten_singleton

/-- How a frame was cut is not in what it publishes. -/
theorem publication_uncut (f : InboundFrame) : f.uncut.publication = f.publication := by
  unfold publication
  rw [bytes_uncut]
  rfl

end InboundFrame

/-- The frame that is open, of a list with the newest frame first. -/
def pendingFrame : List InboundFrame → Option InboundFrame
  | [] => none
  | f :: _ => if f.fate = .pending then some f else none

/-- A list of frames after the end of the open one. -/
def endPending (fate : Fate) : List InboundFrame → List InboundFrame
  | [] => []
  | f :: fs => if f.fate = .pending then { f with fate } :: fs else f :: fs

/-- A list of frames after a fragment of the open one. -/
def deliverTo (data : Bytes) : List InboundFrame → List InboundFrame
  | [] => []
  | f :: fs =>
    if f.fate = .pending then { f with fragments := f.fragments ++ [data] } :: fs else f :: fs

/-- **The DATA frames of a run**, newest first. -/
def inboundFrames : History → List InboundFrame
  | [] => []
  | e :: h =>
    let fs := inboundFrames h
    match e.label with
    | .callback (.beginFrame true streamId length) _ =>
      { streamId, length } :: endPending .abandoned fs
    | .callback (.dataChunk _ data) _ => deliverTo data fs
    | .callback (.frameReceived frame) _ =>
      if frame.payload = .data then
        endPending (if e.outcome.response = .replied { code := 0 } then
          .completed frame.endStream else .abandoned) fs
      else fs
    | .callback (.streamClosed streamId _) _ =>
      if (pendingFrame fs).any (fun f => decide (f.streamId = streamId)) = true then
        endPending .abandoned fs
      else fs
    | _ => fs

/-- What a list of frames published, oldest first. -/
def publications (fs : List InboundFrame) : List (StreamId × Bytes × Bool) :=
  fs.reverse.filterMap InboundFrame.publication

section Frames

variable {f : InboundFrame} {fs : List InboundFrame}

theorem publications_cons :
    publications (f :: fs) = publications fs ++ f.publication.toList := by
  rw [publications, List.reverse_cons, List.filterMap_append, ← publications]
  cases hp : f.publication <;> simp [hp]

/-- A frame that is abandoned was not published, and is not. -/
@[simp] theorem publications_abandon :
    publications (endPending .abandoned fs) = publications fs := by
  cases fs with
  | nil => rfl
  | cons f fs =>
    rw [endPending]
    split
    · next hpending => simp [publications_cons, InboundFrame.publication, hpending]
    · rfl

/-- A fragment publishes nothing. -/
@[simp] theorem publications_deliverTo (data : Bytes) :
    publications (deliverTo data fs) = publications fs := by
  cases fs with
  | nil => rfl
  | cons f fs =>
    rw [deliverTo]
    split
    · next hpending => simp [publications_cons, InboundFrame.publication, hpending]
    · rfl

/-- A completed frame is published. -/
theorem publications_complete (hf : pendingFrame fs = some f) (endStream : Bool) :
    publications (endPending (.completed endStream) fs)
      = publications fs ++ [(f.streamId, f.bytes, endStream)] := by
  cases fs with
  | nil => simp [pendingFrame] at hf
  | cons g fs =>
    rw [pendingFrame] at hf
    split at hf
    · next hpending =>
      obtain rfl := Option.some.inj hf
      rw [endPending, if_pos hpending, publications_cons, publications_cons]
      simp [InboundFrame.publication, InboundFrame.bytes, hpending]
    · exact absurd hf (by simp)

/-- No frame is open after the open one ended. -/
theorem pendingFrame_endPending {fate : Fate} (h : fate ≠ .pending) :
    pendingFrame (endPending fate fs) = none := by
  cases fs with
  | nil => rfl
  | cons f fs =>
    rw [endPending]
    split
    · simp [pendingFrame, h]
    · next hpending => simp [pendingFrame, hpending]

/-- The open frame after a fragment. -/
theorem pendingFrame_deliverTo (data : Bytes) :
    pendingFrame (deliverTo data fs)
      = (pendingFrame fs).map fun f => { f with fragments := f.fragments ++ [data] } := by
  cases fs with
  | nil => rfl
  | cons f fs =>
    rw [deliverTo]
    split
    · next hpending => simp [pendingFrame, hpending]
    · next hpending => simp [pendingFrame, hpending]

end Frames

/-! ## What is assumed of the engine -/

/-- **A fragment belongs to the open frame and fits in it**, and is delivered
while input is processed. A frame whose stream was closed is not open. -/
def FragmentsFit (h : History) (m : Machine) (l : Label) : Prop :=
  ∀ x ∈ l.delivers, m.receiving = true ∧
    (pendingFrame (inboundFrames h)).any (fun f =>
      decide (f.streamId = x.1 ∧ f.bytes.length + x.2.length ≤ f.length)) = true

instance (h : History) (m : Machine) (l : Label) : Decidable (FragmentsFit h m l) :=
  inferInstanceAs (Decidable (∀ x ∈ l.delivers, _ ∧ _))

/-- **The frame that is completed is the open one.** -/
def CompletesPending (h : History) (m : Machine) (l : Label) : Prop :=
  ∀ frame ∈ l.completes, m.receiving = true ∧
    (pendingFrame (inboundFrames h)).any (fun f => decide (f.streamId = frame.streamId)) = true

instance (h : History) (m : Machine) (l : Label) : Decidable (CompletesPending h m l) :=
  inferInstanceAs (Decidable (∀ frame ∈ l.completes, _ ∧ _))

/-- **What reassembly rests on.** -/
structure DeliversFrames (h : History) (m : Machine) (l : Label) : Prop where
  /-- A callback that failed ends its drive. -/
  ends : FailureEndsDrive h l
  fits : FragmentsFit h m l
  completes : CompletesPending h m l

theorem deliversFrames_iff {h : History} {m : Machine} {l : Label} :
    DeliversFrames h m l ↔ FailureEndsDrive h l ∧ FragmentsFit h m l ∧ CompletesPending h m l :=
  ⟨fun ha => ⟨ha.ends, ha.fits, ha.completes⟩, fun ha => ⟨ha.1, ha.2.1, ha.2.2⟩⟩

instance (h : History) (m : Machine) (l : Label) : Decidable (DeliversFrames h m l) :=
  decidable_of_iff _ deliversFrames_iff.symm

/-- The frame a fragment belongs to. -/
theorem FragmentsFit.pending {h : History} {m : Machine} {s : StreamId} {data : Bytes} {env : Env}
    (hf : FragmentsFit h m (.callback (.dataChunk s data) env)) :
    m.receiving = true ∧ ∃ f, pendingFrame (inboundFrames h) = some f ∧ f.streamId = s ∧
      f.bytes.length + data.length ≤ f.length := by
  obtain ⟨hreceiving, hany⟩ := hf (s, data) rfl
  obtain ⟨f, hf, hfits⟩ := (Option.any_eq_true _ _).mp hany
  exact ⟨hreceiving, f, hf, of_decide_eq_true hfits⟩

/-- The frame that is completed. -/
theorem CompletesPending.pending {h : History} {m : Machine} {frame : Frame} {l : Label}
    (hc : CompletesPending h m l) (hl : l.completes = some frame) :
    m.receiving = true ∧ ∃ f, pendingFrame (inboundFrames h) = some f ∧
      f.streamId = frame.streamId := by
  obtain ⟨hreceiving, hany⟩ := hc frame hl
  obtain ⟨f, hf, hstream⟩ := (Option.any_eq_true _ _).mp hany
  exact ⟨hreceiving, f, hf, of_decide_eq_true hstream⟩

/-! ## The open frame is the buffer -/

/-- **The buffer holds the open frame.** -/
def Inbound.Holds (i : Inbound) : Option InboundFrame → Prop
  | none => i.payload = none ∧ i.size = 0
  | some f => i.payload = some { capacity := f.length, written := f.bytes } ∧
    i.size = f.bytes.length ∧ i.streamId = f.streamId

namespace Inbound

variable {i : Inbound} {f : InboundFrame}

theorem Holds.bytes_eq (h : i.Holds (some f)) : i.bytes = f.bytes := by
  rw [Inbound.bytes, h.1, h.2.1]
  exact List.take_length

theorem holds_opened (s : StreamId) (length : Nat) :
    (i.opened s length).Holds (some { streamId := s, length }) := ⟨rfl, rfl, rfl⟩

theorem holds_dropped : i.dropped.Holds none := ⟨rfl, rfl⟩

theorem holds_published (s : StreamId) : (i.published s).Holds none := ⟨rfl, rfl⟩

/-- A fragment is copied behind the others. -/
theorem Holds.appended (h : i.Holds (some f)) {payload : Buffer} (hp : i.payload = some payload)
    (data : Bytes) :
    (i.appended payload data).Holds (some { f with fragments := f.fragments ++ [data] }) := by
  obtain ⟨hpayload, hsize, hstream⟩ := h
  obtain rfl : payload = { capacity := f.length, written := f.bytes } :=
    Option.some.inj (hp.symm.trans hpayload)
  have hbytes : (f.fragments ++ [data]).flatten = f.bytes ++ data := by
    simp [InboundFrame.bytes]
  refine ⟨?_, ?_, hstream⟩
  · show some (Buffer.mk f.length (f.bytes.take i.size ++ data))
      = some (Buffer.mk f.length (f.fragments ++ [data]).flatten)
    rw [hbytes, hsize, List.take_length]
  · show i.size + data.length = (f.fragments ++ [data]).flatten.length
    rw [hbytes, hsize, List.length_append]

end Inbound

section Steps

variable {h : History} {m : Machine} {l : Label} {p : Outcome × Machine} {o : Outcome}
  {m' : Machine}

/-- Which labels change the list of frames. -/
theorem inboundFrames_cons_quiet (hb : l.begins = none) (hd : l.delivers = none)
    (hp : l.completes = none)
    (hs : ∀ s f, l.closes = some s → pendingFrame (inboundFrames h) = some f → f.streamId ≠ s) :
    inboundFrames (⟨m, l, o, m'⟩ :: h) = inboundFrames h := by
  rw [inboundFrames]
  dsimp only
  split
  · exact absurd hb (by simp [Label.begins])
  · exact absurd hd (by simp [Label.delivers])
  · exact if_neg fun hdata => absurd hp (by simp [Label.completes, hdata])
  · next s errorCode env =>
    refine if_neg fun hany => ?_
    obtain ⟨f, hf, hstream⟩ := (Option.any_eq_true _ _).mp hany
    exact hs s f rfl hf (of_decide_eq_true hstream)
  · rfl

/-- **A step keeps the open frame in the buffer.** -/
theorem Inbound.Holds.step (hh : m.conn.inbound.Holds (pendingFrame (inboundFrames h)))
    (hallowed : DeliversFrames h m l) (hs : Stepped m l p) (hsound : p.2.conn.Sound)
    (hopen : p.2.conn.terminating = false) :
    p.2.conn.inbound.Holds (pendingFrame (inboundFrames (⟨m, l, p.1, p.2⟩ :: h))) := by
  have hstream {f : InboundFrame} (hf : pendingFrame (inboundFrames h) = some f) :
      m.conn.dataStreamId = f.streamId := by
    rw [hf] at hh
    exact hh.2.2
  have hdata := hs.data hsound hopen
  cases hdata with
  | kept begins delivers completes closes inbound =>
    rw [inbound, inboundFrames_cons_quiet begins delivers completes ?_]
    · exact hh
    · rintro s f hcloses hf rfl
      exact closes (hcloses.trans (congrArg some (hstream hf).symm))
  | configured begins delivers completes closes uninitialized inbound =>
    rw [inbound, inboundFrames_cons_quiet begins delivers completes (by simp [closes])]
    cases hf : pendingFrame (inboundFrames h) with
    | none =>
      rw [hf] at hh
      exact hh
    | some f =>
      rw [hf] at hh
      exact hh
  | @begun s length driven begins inbound =>
    obtain ⟨env, rfl⟩ := Label.of_begins begins
    rw [inbound]
    exact Inbound.holds_opened s length
  | @delivered data payload driven delivers opened fits inbound =>
    obtain ⟨env, rfl⟩ := Label.of_delivers delivers
    obtain ⟨-, f, hf, -, -⟩ := hallowed.fits.pending
    rw [inbound]
    show Inbound.Holds _ (pendingFrame (deliverTo data (inboundFrames h)))
    rw [pendingFrame_deliverTo, hf]
    rw [hf] at hh
    exact hh.appended opened data
  | @completed frame driven completes inbound =>
    obtain ⟨env, rfl, hkind⟩ := Label.of_completes completes
    rw [inbound, inboundFrames]
    dsimp only
    rw [if_pos hkind, pendingFrame_endPending (by split <;> simp)]
    exact Inbound.holds_published _
  | closed driven closes inbound =>
    obtain ⟨errorCode, env, rfl⟩ := Label.of_closes closes
    rw [inbound, inboundFrames]
    dsimp only
    cases hf : pendingFrame (inboundFrames h) with
    | none =>
      rw [if_neg (by simp), hf]
      exact Inbound.holds_dropped
    | some f =>
      rw [if_pos (by simp [hstream hf]), pendingFrame_endPending (by simp)]
      exact Inbound.holds_dropped
  | consumed begins delivers completes closes usable manual enough inbound =>
    rw [inbound, inboundFrames_cons_quiet begins delivers completes (by simp [closes])]
    cases hf : pendingFrame (inboundFrames h) with
    | none =>
      rw [hf] at hh
      exact hh
    | some f =>
      rw [hf] at hh
      exact hh

/-- A step that completes no frame publishes none. -/
theorem publications_cons_incomplete (hl : l.completes = none) :
    publications (inboundFrames (⟨m, l, o, m'⟩ :: h)) = publications (inboundFrames h) := by
  rw [inboundFrames]
  dsimp only
  split
  · rw [publications_cons, publications_abandon]
    exact List.append_nil _
  · exact publications_deliverTo _
  · rw [if_neg fun hdata => absurd hl (by simp [Label.completes, hdata])]
  · split
    · exact publications_abandon
    · rfl
  · rfl

/-- **The completion of a frame** publishes what the buffer holds, or fails. -/
theorem Stepped.completion {frame : Frame} {env : Env}
    (hs : Stepped m (.callback (.frameReceived frame) env) p) (hkind : frame.payload = .data) :
    p.1.response = .replied { code := 0 } ∧
        (emitted ⟨m, .callback (.frameReceived frame) env, p.1, p.2⟩).filterMap Event.data
          = [(frame.streamId, m.conn.inbound.bytes, frame.endStream)] ∨
      p.1.response ≠ .replied { code := 0 } ∧
        (emitted ⟨m, .callback (.frameReceived frame) env, p.1, p.2⟩).filterMap Event.data
          = [] := by
  cases hs with
  | callback driven hc =>
    cases hc with
    | failed spoiled =>
      refine .inr ⟨by simp [Machine.afterCallback, errCallbackFailure], ?_⟩
      rcases spoiled.events with heq | ⟨event, plain, heq⟩
      · rw [emitted, Machine.afterCallback_conn, heq, List.drop_length]
        rfl
      · rw [emitted_of_append heq, List.filterMap_cons, Event.data_of_isPlain plain]
        rfl
    | dataReceived =>
      refine .inl ⟨rfl, ?_⟩
      rw [emitted_of_append rfl]
      rfl
    | goawayReceived kind => exact absurd (hkind.symm.trans kind) (by simp)
    | frameReceived kind => simp [Frame.isPlain, hkind] at kind
    | frameIgnored kind => exact absurd (hkind.symm.trans kind) (by simp)
    | headerBlock kind => simp at kind

/-- **A fragment that fits is copied.** -/
theorem run_dataChunk (env : Env) (session : Option SessionId) {s : StreamId} {data : Bytes}
    {payload : Buffer} {w : World} (hp : w.conn.dataPayload = some payload)
    (hs : w.conn.dataStreamId = s)
    (hfits : w.conn.dataSize + data.length ≤ payload.capacity) :
    (((Callback.dataChunk s data).body session).run env w).1 = .ok { code := 0 } := by
  have hno : ¬ (s ≠ w.conn.dataStreamId ∨ payload.capacity < w.conn.dataSize + data.length) := by
    rintro (hne | hlt)
    · exact hne hs.symm
    · omega
  simp [Callback.body, dataChunk, copyFragment, hp, hno]

end Steps

/-! ## Over whole runs -/

section Runs

variable {host : Host} {h : History} {m : Machine}

/-- **What is published is what was completed**, and the buffer holds the open
frame. -/
theorem Runs.reassembled (hrun : Runs host DeliversFrames h m) :
    publishedData h = publications (inboundFrames h) ∧
      (m.conn.Sound → m.conn.terminating = false →
        m.conn.inbound.Holds (pendingFrame (inboundFrames h))) := by
  refine Run.invariant (I := fun h m => publishedData h = publications (inboundFrames h) ∧
    (m.conn.Sound → m.conn.terminating = false →
      m.conn.inbound.Holds (pendingFrame (inboundFrames h)))) ⟨rfl, fun _ _ => ⟨rfl, rfl⟩⟩ ?_ hrun
  intro h m l o m' hprior ih hallowed htaken
  have hstep := Machine.stepped htaken
  refine ⟨?_, fun hsound hopen => ?_⟩
  · rw [publishedData_cons, ih.1]
    cases hl : l.completes with
    | none =>
      rw [publications_cons_incomplete hl, hstep.emits.no_data hl, List.append_nil]
    | some frame =>
      obtain ⟨hreceiving, f, hf, hstream⟩ := hallowed.completes.pending hl
      obtain ⟨env, rfl, hkind⟩ := Label.of_completes hl
      have hsound := Runs.sound_of_callback (fun ha => ha.ends) hprior hallowed
        hstep.callback_driven
      have hholds := ih.2 hsound (Runs.unterminated hprior hreceiving)
      rw [hf] at hholds
      rw [inboundFrames]
      dsimp only
      rw [if_pos hkind]
      rcases hstep.completion hkind with ⟨hreply, hevents⟩ | ⟨hreply, hevents⟩
      · rw [hevents, if_pos hreply, publications_complete hf, hstream, hholds.bytes_eq]
      · rw [hevents, if_neg hreply, publications_abandon, List.append_nil]
  · have hbefore := Runs.sound_before (fun ha => ha.ends) hprior hallowed hstep hsound
    exact (ih.2 hbefore (hstep.unterminated hsound hopen)).step hallowed hstep hsound hopen

/-- **DATA is reassembled independently of how it was cut.**

Every run publishes its completed frames, in order, each with the fragments of
its own joined. A fragment always fits the buffer of the open frame, and is
copied. And two runs whose frames differ only in how they were cut publish the
same. -/
theorem data_reassembled :
    (∀ h m, Runs host DeliversFrames h m →
      publishedData h = (inboundFrames h).reverse.filterMap InboundFrame.publication ∧
      ∀ e ∈ h, ∀ x ∈ e.label.delivers,
        (∃ payload, e.before.conn.dataPayload = some payload ∧
          e.before.conn.dataSize + x.2.length ≤ payload.capacity) ∧
        e.outcome.response = .replied { code := 0 }) ∧
    ∀ h m h' m', Runs host DeliversFrames h m → Runs host DeliversFrames h' m' →
      (inboundFrames h).map InboundFrame.uncut = (inboundFrames h').map InboundFrame.uncut →
      publishedData h = publishedData h' := by
  have huncut (fs : List InboundFrame) :
      (fs.map InboundFrame.uncut).reverse.filterMap InboundFrame.publication = publications fs := by
    rw [← List.map_reverse, List.filterMap_map]
    exact List.filterMap_congr fun f _ => InboundFrame.publication_uncut f
  refine ⟨fun h m hrun => ⟨(Runs.reassembled hrun).1, ?_⟩, ?_⟩
  · rintro e he ⟨s, data⟩ hx
    obtain ⟨h', -, hprior, hallowed, htaken⟩ := hrun.of_mem he
    obtain ⟨env, hlabel⟩ := Label.of_delivers hx
    obtain ⟨m, l, o, m'⟩ := e
    obtain rfl : l = _ := hlabel
    obtain ⟨hreceiving, f, hf, hstream, hfits⟩ := hallowed.fits.pending
    have hsound := Runs.sound_of_callback (fun ha => ha.ends) hprior hallowed
      (Machine.stepped htaken).callback_driven
    have hholds := (Runs.reassembled hprior).2 hsound (Runs.unterminated hprior hreceiving)
    rw [hf] at hholds
    obtain ⟨hpayload, hsize, hid⟩ := hholds
    have hroom : m.conn.dataSize + data.length ≤ f.length := by
      rw [show m.conn.dataSize = f.bytes.length from hsize]
      exact hfits
    refine ⟨⟨_, hpayload, hroom⟩, ?_⟩
    obtain ⟨d, session, -, hafter⟩ := Machine.callback_taken htaken
    have hcopied := run_dataChunk (w := m.world) env session hpayload (hid.trans hstream) hroom
    rcases hbody : ((Callback.dataChunk s data).body session).run env m.world with ⟨result, w⟩
    rw [hbody] at hafter hcopied
    obtain rfl : result = .ok { code := 0 } := hcopied
    exact (congrArg (fun p => p.1.response) hafter).symm
  · intro h m h' m' hrun hrun' hsame
    rw [(Runs.reassembled hrun).1, (Runs.reassembled hrun').1, ← huncut, hsame, huncut]

end Runs

/-- A client is sent a frame of four bytes, one of them padding, in pieces; the
input is cut behind each of the lists of pieces. -/
def cutFrame (pieces : List (List Bytes)) : List Label :=
  [.request (.init .client {}) (.accepting []),
    .request (.initiateConnection []) (.accepting []),
    .request (.receiveData [0]) (.accepting []),
    .callback (.beginFrame true 1 4) (.accepting [])]
  ++ pieces.flatMap (fun fragments =>
    fragments.map (fun data => .callback (.dataChunk 1 data) (.accepting []))
      ++ [.ret 1 (.accepting []), .request (.receiveData [0]) (.accepting [])])
  ++ [.callback (.frameReceived { streamId := 1, flags := 1, payload := .data }) (.accepting [])]

set_option maxRecDepth 4000 in
theorem data_reassembled_cutFrame :
    ∃ c c', Run.execute Machine.step DeliversFrames ([], Machine.fresh {})
        (cutFrame [[[1, 2, 3]]]) = some c ∧
      Run.execute Machine.step DeliversFrames ([], Machine.fresh {})
        (cutFrame [[[1], []], [[2, 3]]]) = some c' ∧
      publishedData c.1 = [(1, [1, 2, 3], true)] ∧ publishedData c'.1 = publishedData c.1 := by
  obtain ⟨c, hc, hframes⟩ : ∃ c, Run.execute Machine.step DeliversFrames ([], Machine.fresh {})
      (cutFrame [[[1, 2, 3]]]) = some c ∧
      inboundFrames c.1 = [⟨1, 4, [[1, 2, 3]], .completed true⟩] := ⟨_, rfl, by decide⟩
  obtain ⟨c', hc', hframes'⟩ : ∃ c, Run.execute Machine.step DeliversFrames ([], Machine.fresh {})
      (cutFrame [[[1], []], [[2, 3]]]) = some c ∧
      inboundFrames c.1 = [⟨1, 4, [[1], [], [2, 3]], .completed true⟩] := ⟨_, rfl, by decide⟩
  have hrun : Runs {} DeliversFrames c.1 c.2 := Run.of_execute .start hc
  have hrun' : Runs {} DeliversFrames c'.1 c'.2 := Run.of_execute .start hc'
  refine ⟨c, c', hc, hc', ?_, ?_⟩
  · rw [(data_reassembled.1 _ _ hrun).1, hframes]
    rfl
  · refine data_reassembled.2 _ _ _ _ hrun' hrun ?_
    rw [hframes, hframes']
    rfl

end Ngh2
