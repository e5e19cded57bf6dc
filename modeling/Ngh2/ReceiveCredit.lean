import Mathlib.Algebra.Ring.Nat
import Ngh2.InboundData
import Ngh2.Lib.FinmapTotal

/-!
# The credit of received bytes

With automatic window updates off, every application byte the engine hands
over counts against its windows until the binding gives the credit back. It
does so in two ways: for a byte it dropped with `nghttp2_session_consume_connection`,
and for a byte it published with `nghttp2_session_consume`, when the
application says that it is done with it. A byte whose credit is lost shrinks
the window of the peer for good, one whose credit is given back twice widens it.

What became of the bytes is a list of settlements. A whole payload at a time is
published or discarded, so that the bytes delivered are those of the settlements,
one after the other, and then those of the frame that is still open
(`Ledger.partition`): no byte is settled twice. Every discarded payload was
credited to the connection once, and what was published on a stream is what was
consumed of it and what is still outstanding.
-/

namespace Ngh2

open Nghttp2

/-! ## What a run says -/

/-- The application bytes delivered to `_data_chunk`, oldest first. -/
def deliveredBytes : History → Bytes
  | [] => []
  | e :: h => deliveredBytes h ++ (e.label.delivers.map Prod.snd).getD []

/-- The credit given back in a step. -/
def Entry.credits (e : Entry Machine Label Outcome) : List Credit :=
  e.outcome.issued.filterMap (Issued.credit e.label.env)

/-- The credit given back, oldest first. -/
def creditsOf : History → List Credit
  | [] => []
  | e :: h => creditsOf h ++ Entry.credits e

/-- **What became of the payload of a frame.** -/
inductive Settlement where
  | published (s : StreamId) (data : Bytes)
  | discarded (data : Bytes)
  deriving DecidableEq

/-- The bytes of a settlement. -/
def Settlement.bytes : Settlement → Bytes
  | .published _ data => data
  | .discarded data => data

/-- What a settlement published. -/
def Settlement.publication : Settlement → Option (StreamId × Bytes)
  | .published s data => some (s, data)
  | .discarded _ => none

/-- How much a settlement discarded, if that is anything. -/
def Settlement.discardedSize : Settlement → Option Nat
  | .discarded data => if data = [] then none else some data.length
  | .published _ _ => none

/-- What a step made of the open payload: the completion of a frame publishes
it, the beginning of another and the closure of its stream discard it. -/
def Entry.settles (e : Entry Machine Label Outcome) : Option Settlement :=
  match e.label.completes with
  | some frame => some (.published frame.streamId e.before.conn.inbound.bytes)
  | none =>
    if e.label.begins.isSome = true ∨ e.label.closes = some e.before.conn.dataStreamId then
      some (.discarded e.before.conn.inbound.bytes)
    else none

/-- **What became of the payloads**, oldest first. -/
def settlements : History → List Settlement
  | [] => []
  | e :: h => settlements h ++ (Entry.settles e).toList

/-! ## Sums -/

/-- The size of connection credit. -/
def Credit.connectionSize : Credit → Option Nat
  | .connection size => some size
  | .stream _ _ => none

/-- The size of the credit of a stream. -/
def Credit.streamSize (s : StreamId) : Credit → Nat
  | .stream t size => if t = s then size else 0
  | .connection _ => 0

/-- The size of the credit of any stream. -/
def Credit.anyStreamSize : Credit → Nat
  | .stream _ size => size
  | .connection _ => 0

/-- How much of what was published is on a stream. -/
def publishedSize (s : StreamId) (d : StreamId × Bytes × Bool) : Nat :=
  if d.1 = s then d.2.1.length else 0

section Cons

variable {e : Entry Machine Label Outcome} {h : History}

end Cons

/-! ## The open payload -/

/-- **The buffer holds what its size says.** -/
def Inbound.Stored (i : Inbound) : Prop :=
  match i.payload with
  | none => i.size = 0
  | some buffer => buffer.written.length = i.size

namespace Inbound

variable {i : Inbound}

theorem Stored.length_bytes (h : i.Stored) : i.bytes.length = i.size := by
  unfold Stored at h
  unfold bytes
  cases hp : i.payload with
  | none =>
    rw [hp] at h
    simp [show i.size = 0 from h]
  | some buffer =>
    rw [hp] at h
    simp [show buffer.written.length = i.size from h]

theorem bytes_dropped : i.dropped.bytes = [] := rfl

theorem Stored.appended (h : i.Stored) {payload : Buffer} (hp : i.payload = some payload)
    (data : Bytes) : (i.appended payload data).Stored := by
  have hlen : payload.written.length = i.size := by
    unfold Stored at h
    rw [hp] at h
    exact h
  show (payload.written.take i.size ++ data).length = i.size + data.length
  rw [List.length_append, List.length_take, hlen, min_self]

theorem Stored.bytes_appended (h : i.Stored) {payload : Buffer} (hp : i.payload = some payload)
    (data : Bytes) : (i.appended payload data).bytes = i.bytes ++ data := by
  have hbytes : i.bytes = payload.written.take i.size := by
    rw [bytes, hp]
    rfl
  have hstored := (h.appended hp data)
  have hlen : (payload.written.take i.size ++ data).length = i.size + data.length := hstored
  show (payload.written.take i.size ++ data).take (i.size + data.length) = i.bytes ++ data
  rw [hbytes, List.take_of_length_le hlen.le]

end Inbound

/-! ## What is outstanding -/

section Outstanding

variable {i : Inbound} {s t : StreamId}

/-- The weight of an account is what it says. -/
theorem weight_id (d : Dict Nat) (s : StreamId) : d.weight id s = (d.lookup s).getD 0 := by
  rw [Finmap.weight]
  cases d.lookup s <;> rfl

/-- What is outstanding after a publication, on each stream. -/
theorem lookup_published (hauto : i.automatic = false) :
    ((i.published s).unconsumed.lookup t).getD 0
      = (i.unconsumed.lookup t).getD 0 + if s = t then i.bytes.length else 0 := by
  show ((if i.bytes ≠ [] ∧ i.automatic = false then
      i.unconsumed.insert s ((i.unconsumed.lookup s).getD 0 + i.bytes.length)
    else i.unconsumed).lookup t).getD 0 = _
  by_cases hne : i.bytes ≠ []
  · rw [if_pos ⟨hne, hauto⟩]
    by_cases hst : s = t
    · rw [if_pos hst, ← hst, Finmap.lookup_insert, Option.getD_some]
    · rw [if_neg hst, Finmap.lookup_insert_of_ne _ (Ne.symm hst), Nat.add_zero]
  · rw [if_neg fun h => hne h.1, not_ne_iff.mp hne]
    split <;> rfl

/-- What is outstanding after a publication, on all streams. -/
theorem total_published (hauto : i.automatic = false) :
    (i.published s).unconsumed.total id = i.unconsumed.total id + i.bytes.length := by
  show (if i.bytes ≠ [] ∧ i.automatic = false then
      i.unconsumed.insert s ((i.unconsumed.lookup s).getD 0 + i.bytes.length)
    else i.unconsumed).total id = _
  by_cases hne : i.bytes ≠ []
  · rw [if_pos ⟨hne, hauto⟩]
    have hinsert := Finmap.total_insert (f := id) (d := i.unconsumed) (k := s)
      ((i.unconsumed.lookup s).getD 0 + i.bytes.length)
    rw [weight_id, id_eq] at hinsert
    omega
  · rw [if_neg fun h => hne h.1, not_ne_iff.mp hne]
    rfl

/-- What is outstanding after a consumption, on each stream. -/
theorem lookup_consumed {amount : Nat} (henough : amount ≤ (i.unconsumed.lookup s).getD 0) :
    ((i.consumed s amount).unconsumed.lookup t).getD 0 + (if s = t then amount else 0)
      = (i.unconsumed.lookup t).getD 0 := by
  show ((if (i.unconsumed.lookup s).getD 0 - amount ≠ 0 then
      i.unconsumed.insert s ((i.unconsumed.lookup s).getD 0 - amount)
    else i.unconsumed.erase s).lookup t).getD 0 + _ = _
  by_cases hst : s = t
  · subst hst
    rw [if_pos rfl]
    split
    · rw [Finmap.lookup_insert, Option.getD_some]
      omega
    · rw [Finmap.lookup_erase, Option.getD_none]
      omega
  · rw [if_neg hst, Nat.add_zero]
    split
    · rw [Finmap.lookup_insert_of_ne _ (Ne.symm hst)]
    · rw [Finmap.lookup_erase_ne (Ne.symm hst)]

/-- What is outstanding after a consumption, on all streams. -/
theorem total_consumed {amount : Nat} (henough : amount ≤ (i.unconsumed.lookup s).getD 0) :
    (i.consumed s amount).unconsumed.total id + amount = i.unconsumed.total id := by
  show (if (i.unconsumed.lookup s).getD 0 - amount ≠ 0 then
      i.unconsumed.insert s ((i.unconsumed.lookup s).getD 0 - amount)
    else i.unconsumed.erase s).total id + amount = _
  split
  · have hinsert := Finmap.total_insert (f := id) (d := i.unconsumed) (k := s)
      ((i.unconsumed.lookup s).getD 0 - amount)
    rw [weight_id, id_eq] at hinsert
    omega
  · have herase := Finmap.total_erase (f := id) (d := i.unconsumed) (k := s)
    rw [weight_id] at herase
    omega

end Outstanding

/-! ## The ledger -/

/-- **A ledger of received bytes**: the bytes delivered, what became of them,
what was published, the credit given back, and the fields that account for all
of it. -/
structure Ledger (bytes : Bytes) (settled : List Settlement)
    (published : List (StreamId × Bytes × Bool)) (credits : List Credit) (i : Inbound) : Prop where
  stored : i.Stored
  /-- What was delivered was settled, or is in the open frame. -/
  partition : bytes = settled.flatMap Settlement.bytes ++ i.bytes
  /-- What was published is what the settlements published. -/
  publications : published.map (fun d => (d.1, d.2.1)) = settled.filterMap Settlement.publication
  /-- Every discarded payload was credited, once. -/
  discards : i.automatic = false →
    credits.filterMap Credit.connectionSize = settled.filterMap Settlement.discardedSize
  /-- What was published on a stream was consumed, or is outstanding. -/
  balance : i.automatic = false → ∀ s, (published.map (publishedSize s)).sum
    = (credits.map (Credit.streamSize s)).sum + (i.unconsumed.lookup s).getD 0
  /-- The same of all streams. -/
  total : i.automatic = false → (published.map fun d => d.2.1.length).sum
    = (credits.map Credit.anyStreamSize).sum + i.unconsumed.total id
  /-- With automatic updates nothing is credited. -/
  silent : i.automatic = true → credits = [] ∧ i.unconsumed = ∅

namespace Ledger

variable {bytes : Bytes} {settled : List Settlement} {published : List (StreamId × Bytes × Bool)}
  {credits : List Credit} {i : Inbound}

/-- Nothing has happened yet. -/
theorem empty : Ledger [] [] [] [] {} where
  stored := rfl
  partition := rfl
  publications := rfl
  discards _ := rfl
  balance _ s := by
    show 0 = 0 + ((∅ : Dict Nat).lookup s).getD 0
    rw [Finmap.lookup_empty]
    rfl
  total _ := by
    show 0 = 0 + (∅ : Dict Nat).total id
    rw [Finmap.total_empty]
  silent _ := ⟨rfl, rfl⟩

/-- How the windows are updated does not matter before that. -/
theorem configured (h : Ledger bytes settled published credits i) (hs : settled = [])
    (hc : credits = []) (hu : i.unconsumed = ∅) (automatic : Bool) :
    Ledger bytes settled published credits { i with automatic } := by
  have hp : published = [] := by
    have hpublications := h.publications
    rw [hs] at hpublications
    exact List.map_eq_nil_iff.mp hpublications
  refine ⟨h.stored, h.partition, h.publications, fun _ => ?_, fun _ s => ?_, fun _ => ?_,
    fun _ => ⟨hc, hu⟩⟩
  · rw [hs, hc]
    rfl
  · rw [hp, hc, hu, Finmap.lookup_empty]
    rfl
  · rw [hp, hc, hu, Finmap.total_empty]
    rfl

/-- **A payload is dropped**: it is discarded, and credited. -/
theorem dropped (h : Ledger bytes settled published credits i) :
    Ledger bytes (settled ++ [.discarded i.bytes]) published (credits ++ i.credit) i.dropped := by
  have hsize := h.stored.length_bytes
  have hnone (hauto : i.automatic = true) : i.credit = [] := by simp [Inbound.credit, hauto]
  have hstream (f : Credit → Nat) (hf : ∀ n, f (.connection n) = 0) :
      (i.credit.map f).sum = 0 := by
    unfold Inbound.credit
    split
    · simp [hf]
    · rfl
  refine ⟨rfl, ?_, ?_, fun hauto => ?_, fun hauto s => ?_, fun hauto => ?_, fun hauto => ?_⟩
  · rw [Inbound.bytes_dropped, List.flatMap_append, List.append_nil, h.partition]
    simp [Settlement.bytes]
  · rw [List.filterMap_append, h.publications]
    simp [Settlement.publication]
  · rw [List.filterMap_append, List.filterMap_append, h.discards hauto]
    congr 1
    by_cases hempty : i.bytes = []
    · have hzero : i.size = 0 := by rw [← hsize, hempty]; rfl
      simp [Inbound.credit, Settlement.discardedSize, hempty, hzero]
    · have hne : i.size ≠ 0 := by
        rw [← hsize]
        exact fun hlen => hempty (List.length_eq_zero_iff.mp hlen)
      have hauto' : i.automatic = false := hauto
      simp [Inbound.credit, Settlement.discardedSize, Credit.connectionSize, hempty, hne, hauto',
        hsize]
  · rw [h.balance hauto s, List.map_append, List.sum_append, hstream _ fun _ => rfl, Nat.add_zero]
    rfl
  · rw [h.total hauto, List.map_append, List.sum_append, hstream _ fun _ => rfl, Nat.add_zero]
    rfl
  · obtain ⟨hcredits, hunconsumed⟩ := h.silent hauto
    rw [hcredits, hnone hauto]
    exact ⟨rfl, hunconsumed⟩

/-- **A frame is opened** over what was open. -/
theorem opened (h : Ledger bytes settled published credits i) (s : StreamId) (length : Nat) :
    Ledger bytes (settled ++ [.discarded i.bytes]) published (credits ++ i.credit)
      (i.opened s length) where
  stored := rfl
  partition := h.dropped.partition
  publications := h.dropped.publications
  discards := h.dropped.discards
  balance := h.dropped.balance
  total := h.dropped.total
  silent := h.dropped.silent

/-- **A fragment is delivered.** -/
theorem appended (h : Ledger bytes settled published credits i) {payload : Buffer}
    (hp : i.payload = some payload) (data : Bytes) :
    Ledger (bytes ++ data) settled published credits (i.appended payload data) where
  stored := h.stored.appended hp data
  partition := by
    rw [h.stored.bytes_appended hp, h.partition, List.append_assoc]
  publications := h.publications
  discards := h.discards
  balance := h.balance
  total := h.total
  silent := h.silent

/-- **A frame is completed**: its payload is published, and outstanding. -/
theorem completed (h : Ledger bytes settled published credits i) (s : StreamId)
    (endStream : Bool) :
    Ledger bytes (settled ++ [.published s i.bytes]) (published ++ [(s, i.bytes, endStream)])
      credits (i.published s) := by
  refine ⟨rfl, ?_, ?_, fun hauto => ?_, fun hauto t => ?_, fun hauto => ?_, fun hauto => ?_⟩
  · show bytes = (settled ++ [Settlement.published s i.bytes]).flatMap Settlement.bytes ++ []
    rw [List.flatMap_append, List.append_nil, h.partition]
    simp [Settlement.bytes]
  · rw [List.map_append, List.filterMap_append, h.publications]
    rfl
  · rw [List.filterMap_append, h.discards hauto]
    simp [Settlement.discardedSize]
  · have hlookup := lookup_published (i := i) (s := s) (t := t) hauto
    rw [List.map_append, List.sum_append, h.balance hauto t, hlookup,
      List.map_singleton, List.sum_singleton, publishedSize, Nat.add_assoc]
  · have htotal := total_published (i := i) (s := s) hauto
    rw [List.map_append, List.sum_append, h.total hauto, htotal,
      List.map_singleton, List.sum_singleton, Nat.add_assoc]
  · obtain ⟨hcredits, hunconsumed⟩ := h.silent hauto
    refine ⟨hcredits, ?_⟩
    have hauto' : i.automatic = true := hauto
    simpa [Inbound.published, Inbound.dropped, hauto'] using hunconsumed

/-- **Published bytes are consumed**, and credited. -/
theorem consumed (h : Ledger bytes settled published credits i) (hauto : i.automatic = false)
    {s : StreamId} {amount : Nat} (henough : amount ≤ (i.unconsumed.lookup s).getD 0) :
    Ledger bytes settled published (credits ++ [.stream s amount]) (i.consumed s amount) where
  stored := h.stored
  partition := h.partition
  publications := h.publications
  discards _ := by
    rw [List.filterMap_append, h.discards hauto]
    exact List.append_nil _
  balance _ t := by
    have hlookup := lookup_consumed (t := t) henough
    rw [h.balance hauto t, List.map_append, List.sum_append, List.map_singleton,
      List.sum_singleton, ← hlookup, Credit.streamSize]
    omega
  total _ := by
    have htotal := total_consumed henough
    rw [h.total hauto, List.map_append, List.sum_append, List.map_singleton,
      List.sum_singleton, ← htotal, Credit.anyStreamSize]
    omega
  silent hautomatic := absurd (hauto.symm.trans hautomatic) (by simp)

end Ledger

/-! ## Over whole runs -/

/-- The ledger of a run. -/
def Accounted (h : History) (c : Connection) : Prop :=
  Ledger (deliveredBytes h) (settlements h) (publishedData h) (creditsOf h) c.inbound

/-- Nothing is received before the initialization. -/
def Unheard (h : History) (c : Connection) : Prop :=
  c.initialized = false → creditsOf h = [] ∧ settlements h = [] ∧ c.unconsumed = ∅

section Steps

variable {h : History} {m : Machine} {l : Label} {p : Outcome × Machine}

/-- **A step keeps the ledger.** -/
theorem Accounted.step (hl : Accounted h m.conn) (hu : Unheard h m.conn) (hs : Stepped m l p)
    (hsound : p.2.conn.Sound) (hopen : p.2.conn.terminating = false) :
    Accounted (⟨m, l, p.1, p.2⟩ :: h) p.2.conn := by
  have hdata := hs.data hsound hopen
  unfold Accounted
  rw [publishedData_cons]
  show Ledger (deliveredBytes h ++ (l.delivers.map Prod.snd).getD [])
    (settlements h ++ (Entry.settles ⟨m, l, p.1, p.2⟩).toList)
    (publishedData h ++ (emitted ⟨m, l, p.1, p.2⟩).filterMap Event.data)
    (creditsOf h ++ p.1.issued.filterMap (Issued.credit l.env)) p.2.conn.inbound
  generalize (emitted ⟨m, l, p.1, p.2⟩).filterMap Event.data = events at hdata ⊢
  generalize p.1.issued.filterMap (Issued.credit l.env) = credits at hdata ⊢
  generalize p.2.conn.inbound = i at hdata ⊢
  cases hdata with
  | kept begins delivers completes closes inbound credited events =>
    subst inbound credited events
    rw [delivers, Entry.settles, completes]
    unfold Accounted at hl
    simpa [begins, closes] using hl
  | @configured automatic begins delivers completes closes uninitialized inbound credited events =>
    subst inbound credited events
    obtain ⟨hcredits, hsettled, hunconsumed⟩ := hu uninitialized
    rw [delivers, Entry.settles, completes]
    simpa [begins, closes] using hl.configured hsettled hcredits hunconsumed automatic
  | @begun s length driven begins inbound credited events =>
    subst inbound credited events
    obtain ⟨env, rfl⟩ := Label.of_begins begins
    have hopened := hl.opened s length
    simpa [Label.delivers, Entry.settles, Label.completes, Label.begins] using hopened
  | @delivered data payload driven delivers opened fits inbound credited events =>
    subst inbound credited events
    obtain ⟨env, rfl⟩ := Label.of_delivers delivers
    have happended := hl.appended opened data
    simpa [Label.delivers, Entry.settles, Label.completes, Label.begins, Label.closes]
      using happended
  | @completed frame driven completes inbound credited events =>
    subst inbound credited events
    obtain ⟨env, rfl, hkind⟩ := Label.of_completes completes
    have hcompleted := hl.completed frame.streamId frame.endStream
    simpa [Label.delivers, Entry.settles, completes] using hcompleted
  | closed driven closes inbound credited events =>
    subst inbound credited events
    obtain ⟨errorCode, env, rfl⟩ := Label.of_closes closes
    have hdropped := hl.dropped
    simpa [Label.delivers, Entry.settles, Label.completes, Label.begins, Label.closes]
      using hdropped
  | @consumed s amount begins delivers completes closes usable manual enough inbound credited
      events =>
    subst inbound credited events
    rw [delivers, Entry.settles, completes]
    have hconsumed := hl.consumed manual enough
    simpa [begins, closes] using hconsumed

/-- **A step of an uninitialized connection receives nothing.** -/
theorem Unheard.step (hu : Unheard h m.conn) (hidle : m.Idle) (hs : Stepped m l p)
    (hsound : p.2.conn.Sound) (hopen : p.2.conn.terminating = false) :
    Unheard (⟨m, l, p.1, p.2⟩ :: h) p.2.conn := by
  intro hi
  have hbefore : m.conn.initialized = false :=
    Bool.eq_false_iff.mpr fun hinit => absurd (hs.role hinit).1 (by simp [hi])
  obtain ⟨hcredits, hsettled, hempty⟩ := hu hbefore
  have hunconsumed : m.conn.inbound.unconsumed = ∅ := hempty
  obtain ⟨hdrive, hactive⟩ := hidle hbefore
  have hdata := hs.data hsound hopen
  show creditsOf h ++ p.1.issued.filterMap (Issued.credit l.env) = [] ∧
    settlements h ++ (Entry.settles ⟨m, l, p.1, p.2⟩).toList = [] ∧
    p.2.conn.inbound.unconsumed = ∅
  rw [hcredits, hsettled]
  generalize (emitted ⟨m, l, p.1, p.2⟩).filterMap Event.data = events at hdata
  generalize p.1.issued.filterMap (Issued.credit l.env) = credits at hdata ⊢
  generalize p.2.conn.inbound = i at hdata ⊢
  cases hdata with
  | kept begins delivers completes closes inbound credited events =>
    rw [inbound, credited, Entry.settles, completes]
    simpa [begins, closes] using hunconsumed
  | configured begins delivers completes closes uninitialized inbound credited events =>
    rw [inbound, credited, Entry.settles, completes]
    simpa [begins, closes] using hunconsumed
  | begun driven => exact absurd hdrive driven
  | delivered driven => exact absurd hdrive driven
  | completed driven => exact absurd hdrive driven
  | closed driven => exact absurd hdrive driven
  | consumed begins delivers completes closes usable =>
    exact absurd usable.2.1 (by simp [hactive])

end Steps

/-- **Every run is accounted for**, while nothing has failed and the connection
is not terminating. -/
theorem Runs.accounted {host : Host} {Allowed : History → Machine → Label → Prop} {h : History}
    {m : Machine} (hends : ∀ {h m l}, Allowed h m l → FailureEndsDrive h l)
    (hrun : Runs host Allowed h m) (hsound : m.conn.Sound) (hopen : m.conn.terminating = false) :
    Accounted h m.conn ∧ Unheard h m.conn := by
  revert hopen
  refine Runs.induct_sound
    (I := fun h m => m.conn.terminating = false → Accounted h m.conn ∧ Unheard h m.conn) hends
    (fun _ => ⟨Ledger.empty, fun _ => ⟨rfl, rfl, rfl⟩⟩) ?_ hrun hsound
  intro h m l p hprior _ ih _ hstep hsound hopen
  obtain ⟨haccounted, hunheard⟩ := ih (hstep.unterminated hsound hopen)
  exact ⟨haccounted.step hunheard hstep hsound hopen,
    hunheard.step (Runs.idle hprior) hstep hsound hopen⟩

/-! ## Sums over a run -/

/-- The bytes given back through `nghttp2_session_consume_connection`. -/
def discardedCredit (h : History) : Nat := ((creditsOf h).filterMap Credit.connectionSize).sum

/-- The bytes of a stream given back through `nghttp2_session_consume`. -/
def consumedOf (h : History) (s : StreamId) : Nat := ((creditsOf h).map (Credit.streamSize s)).sum

/-- The bytes of all streams given back through `nghttp2_session_consume`. -/
def consumedCredit (h : History) : Nat := ((creditsOf h).map Credit.anyStreamSize).sum

/-- The bytes published on a stream. -/
def publishedOf (h : History) (s : StreamId) : Nat := ((publishedData h).map (publishedSize s)).sum

/-- What was settled was published or discarded. -/
theorem length_settled (settled : List Settlement) :
    (settled.flatMap Settlement.bytes).length
      = (settled.filterMap Settlement.discardedSize).sum
        + ((settled.filterMap Settlement.publication).map fun d => d.2.length).sum := by
  induction settled with
  | nil => rfl
  | cons x settled ih =>
    rw [List.flatMap_cons, List.length_append, ih, List.filterMap_cons, List.filterMap_cons]
    cases x with
    | published s data =>
      simp only [Settlement.bytes, Settlement.discardedSize, Settlement.publication,
        List.map_cons, List.sum_cons]
      omega
    | discarded data =>
      by_cases hempty : data = []
      · simp [Settlement.bytes, Settlement.discardedSize, Settlement.publication, hempty]
      · simp only [Settlement.bytes, Settlement.discardedSize, Settlement.publication,
          if_neg hempty, List.sum_cons]
        omega

/-- **The credit of received bytes is conserved**, in every state of a
connection that has not failed and is not terminating.

The bytes delivered are those that were settled, one payload after the other,
and then those of the open frame; what was published is what the settlements
published. With manual updates, every discarded payload was given back once, and
the bytes delivered are those given back for the connection, those consumed,
those outstanding, and those of the open frame; what was published on a stream
was consumed or is outstanding. With automatic updates nothing is given back,
and nothing is outstanding. -/
theorem receive_credit_conserved {host : Host} {h : History} {m : Machine}
    (hrun : Runs host EndsOnFailure h m) (hsound : m.conn.Sound)
    (hopen : m.conn.terminating = false) :
    (deliveredBytes h = (settlements h).flatMap Settlement.bytes ++ m.conn.inbound.bytes ∧
      m.conn.inbound.bytes.length = m.conn.dataSize ∧
      (publishedData h).map (fun d => (d.1, d.2.1))
        = (settlements h).filterMap Settlement.publication) ∧
    (m.conn.autoWindowUpdate = false →
      (creditsOf h).filterMap Credit.connectionSize
          = (settlements h).filterMap Settlement.discardedSize ∧
        (deliveredBytes h).length = discardedCredit h + consumedCredit h
          + m.conn.unconsumed.total id + m.conn.dataSize ∧
        ∀ s, publishedOf h s = consumedOf h s + (m.conn.unconsumed.lookup s).getD 0) ∧
    (m.conn.autoWindowUpdate = true → creditsOf h = [] ∧ m.conn.unconsumed = ∅) := by
  have hledger : Ledger _ _ _ _ _ := (Runs.accounted (fun ha => ha) hrun hsound hopen).1
  have hsize : m.conn.inbound.bytes.length = m.conn.dataSize := hledger.stored.length_bytes
  refine ⟨⟨hledger.partition, hsize, hledger.publications⟩, fun hauto =>
    ⟨hledger.discards hauto, ?_, hledger.balance hauto⟩, hledger.silent⟩
  have htotal : ((publishedData h).map fun d => d.2.1.length).sum
      = consumedCredit h + m.conn.unconsumed.total id := hledger.total hauto
  have hpublished : ((settlements h).filterMap Settlement.publication).map (fun d => d.2.length)
      = (publishedData h).map fun d => d.2.1.length := by
    rw [← hledger.publications, List.map_map]
    rfl
  rw [hledger.partition, List.length_append, length_settled, hpublished, htotal, hsize,
    ← hledger.discards hauto, discardedCredit]
  omega

/-- A client with manual updates. The stream of its first DATA frame is closed in
the middle of the frame, its second is published, and one byte of it consumed. -/
def discardedFrame : List Label := [
  .request (.init .client { autoWindowUpdate := false }) (.accepting []),
  .request (.initiateConnection []) (.accepting []),
  .request (.receiveData [0]) (.accepting []),
  .callback (.beginFrame true 1 5) (.accepting []),
  .callback (.dataChunk 1 [1, 2, 3]) (.accepting []),
  .callback (.streamClosed 1 8) (.accepting []),
  .callback (.beginFrame true 3 2) (.accepting []),
  .callback (.dataChunk 3 [4]) (.accepting []),
  .callback (.dataChunk 3 [5]) (.accepting []),
  .callback (.frameReceived { streamId := 3, payload := .data }) (.accepting []),
  .ret 1 (.accepting [(.sessionWantRead, 1)]),
  .request (.consumeReceivedData 3 1) (.accepting [])]

set_option maxRecDepth 4000 in
theorem receive_credit_conserved_discardedFrame :
    ∃ c, Run.execute Machine.step EndsOnFailure ([], Machine.fresh {}) discardedFrame = some c ∧
      (deliveredBytes c.1).length = 3 + 1 + 1 + 0 ∧ publishedOf c.1 3 = 1 + 1 := by
  obtain ⟨c, hc, hsound, hopen, hauto, hdiscarded, hconsumed, hconsumedOf, hunconsumed, hthree,
      hsize⟩ : ∃ c,
      Run.execute Machine.step EndsOnFailure ([], Machine.fresh {}) discardedFrame = some c ∧
      c.2.conn.Sound ∧ c.2.conn.terminating = false ∧ c.2.conn.autoWindowUpdate = false ∧
      discardedCredit c.1 = 3 ∧ consumedCredit c.1 = 1 ∧ consumedOf c.1 3 = 1 ∧
      c.2.conn.unconsumed.total id = 1 ∧ c.2.conn.unconsumed.lookup 3 = some 1 ∧
      c.2.conn.dataSize = 0 :=
    ⟨_, rfl, by decide, rfl, rfl, rfl, rfl, rfl, by decide +kernel, rfl, rfl⟩
  obtain ⟨-, hmanual, -⟩ := receive_credit_conserved (Run.of_execute .start hc) hsound hopen
  obtain ⟨-, htotal, hstream⟩ := hmanual hauto
  refine ⟨c, hc, ?_, ?_⟩
  · rw [htotal, hdiscarded, hconsumed, hunconsumed, hsize]
  · rw [hstream 3, hconsumedOf, hthree, Option.getD_some]

end Ngh2
