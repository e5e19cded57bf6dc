import Ngh2.ChunkQueue
import Ngh2.Contract
import Ngh2.Lib.Amortized
import Ngh2.RecordSteps

/-!
# What the chunk queue costs

A single `_copy_body` may be slow. It visits as many chunks as it needs to fill
a frame, and when enough of the list is spent, it moves all the rest of it to
the front. The comment in the source says why this is no harm: the prefix is
removed only when it is at least half of the list, so that draining stays linear
in the number of chunks.

Here that is shown of every run. The work of a call is counted in turns of the
loop and in slots that the compaction visits, those it removes and those it
moves (`BodySource.copyWork`). A chunk pays for three visits when it is queued:
for the turn that uses it up, for the removal of its slot, and for one move of
another slot. A call pays for one turn more, that of the chunk it leaves
unfinished. This is always enough (`draining_linear`), however the bytes are cut
into chunks, whatever the limits, and in whatever order queueing and sending
alternate.
-/

namespace Ngh2

open Nghttp2 Effect

/-! ## The work of a call -/

/-- The turns of the loop of `_copy_body`. -/
def copyTurns (width : PointerWidth) (length : Nat) : Nat → CopyState → Nat
  | 0, _ => 0
  | n + 1, s =>
    if s.body.head < s.body.chunks.length ∧ s.copied.length < length then
      match s.body.chunks[s.body.head]? with
      | some (some chunk) => copyTurns width length n (copyTurn width length chunk s) + 1
      | _ => 0
    else 0

namespace BodySource

/-- The slots a compaction visits: it removes those before the cursor, and moves
the others. -/
def compactWork (body : BodySource) : Nat :=
  if body.head = body.chunks.length ∨ (32 ≤ body.head ∧ body.chunks.length ≤ 2 * body.head) then
    body.chunks.length
  else 0

/-- **The work of `_copy_body`**: the turns of its loop, and the slots that the
compaction after it visits. -/
def copyWork (width : PointerWidth) (body : BodySource) (queued length : Nat) : Nat :=
  copyTurns width length (body.chunks.length - body.head) { body, queued } +
    (copyLoop width length (body.chunks.length - body.head) { body, queued }).2.body.compactWork

/-- What the slots of a body have paid and not used: three visits each, of
which a spent one has had one. -/
def credit (body : BodySource) : Nat :=
  3 * (body.chunks.length - body.head) + 2 * body.head

end BodySource

section Work

variable {width : PointerWidth} {length : Nat} {s s' : CopyState}

/-- A turn uses up the chunk at the cursor, or fills the request. -/
theorem copyTurn_advances {chunk : Bytes} (hin : s.body.offset < chunk.length) :
    (copyTurn width length chunk s).body.chunks.length = s.body.chunks.length ∧
      ((copyTurn width length chunk s).body.head = s.body.head + 1 ∨
        (copyTurn width length chunk s).body.head = s.body.head ∧
          length ≤ (copyTurn width length chunk s).copied.length) := by
  unfold copyTurn
  dsimp only
  split
  · exact ⟨List.length_set, .inl rfl⟩
  · next hleft =>
    refine ⟨rfl, .inr ⟨rfl, ?_⟩⟩
    rw [List.length_append, List.length_take, List.length_drop]
    omega

/-- A filled request takes no turn. -/
theorem copyTurns_filled (hfull : length ≤ s.copied.length) (n : Nat) :
    copyTurns width length n s = 0 ∧ copyLoop width length n s = (.ok (), s) := by
  have hstop : ¬ (s.body.head < s.body.chunks.length ∧ s.copied.length < length) :=
    fun hgo => absurd hgo.2 (not_lt.mpr hfull)
  cases n with
  | zero => exact ⟨rfl, rfl⟩
  | succ n => exact ⟨by rw [copyTurns, if_neg hstop], by rw [copyLoop, if_neg hstop]⟩

/-- A turn of the loop. -/
theorem copyTurns_succ {n : Nat} {chunk : Bytes}
    (hgo : s.body.head < s.body.chunks.length ∧ s.copied.length < length)
    (hslot : s.body.chunks[s.body.head]? = some (some chunk)) :
    copyTurns width length (n + 1) s
      = copyTurns width length n (copyTurn width length chunk s) + 1 := by
  simp only [copyTurns, hgo, hslot, and_self, if_true]

/-- **The loop takes one turn for each chunk it uses up, and at most one
more.** -/
theorem copyTurns_le {n : Nat} (h : s.body.Sound width)
    (hloop : copyLoop width length n s = (.ok (), s')) :
    copyTurns width length n s + s.body.head ≤ s'.body.head + 1 ∧
      s'.body.chunks.length = s.body.chunks.length := by
  induction n generalizing s with
  | zero =>
    obtain rfl : s = s' := congrArg Prod.snd hloop
    exact ⟨by rw [copyTurns]; omega, rfl⟩
  | succ n ih =>
    rw [copyLoop] at hloop
    split at hloop
    · next hgo =>
      split at hloop
      · next chunk hslot =>
        have hpending : s.body.pending = some chunk :: s.body.chunks.drop (s.body.head + 1) := by
          obtain ⟨hlt, hchunk⟩ := List.getElem?_eq_some_iff.mp hslot
          rw [BodySource.pending, List.drop_eq_getElem_cons hlt, hchunk]
        obtain ⟨k, htaken, -⟩ := @taken_copyTurn width length s chunk _ h hpending hgo.2
        obtain ⟨hturns, hslots⟩ := ih htaken.sound hloop
        obtain ⟨hsame, hmoved⟩ := @copyTurn_advances width length s chunk (h.take_le hslot).1
        rw [copyTurns_succ hgo hslot]
        refine ⟨?_, hslots.trans hsame⟩
        rcases hmoved with hnext | ⟨hstays, hfull⟩
        · rw [hnext] at hturns
          omega
        · -- the request is filled, so this was the last turn
          obtain ⟨hnone, hdone⟩ := copyTurns_filled hfull n
          obtain rfl : copyTurn width length chunk s = s' :=
            congrArg Prod.snd (hdone.symm.trans hloop)
          rw [hnone, hstays]
          omega
      · exact absurd (congrArg Prod.fst hloop) (by simp)
    · next hstop =>
      obtain rfl : s = s' := congrArg Prod.snd hloop
      rw [copyTurns, if_neg hstop]
      exact ⟨by omega, rfl⟩

namespace BodySource

variable {body : BodySource}

/-- **A compaction is paid for**: it visits no more slots than twice those it
removes. -/
theorem compactWork_le (h : body.head ≤ body.chunks.length) :
    body.compactWork + body.compact.credit ≤ body.credit := by
  unfold compactWork compact credit
  by_cases hend : body.head = body.chunks.length
  · rw [if_pos (.inl hend), if_pos hend]
    dsimp only [List.length_nil]
    omega
  · rw [if_neg hend]
    by_cases hspent : 32 ≤ body.head ∧ body.chunks.length ≤ 2 * body.head
    · rw [if_pos (.inr hspent), if_pos hspent]
      dsimp only
      rw [List.length_drop]
      omega
    · rw [if_neg (not_or.mpr ⟨hend, hspent⟩), if_neg hspent]
      omega

/-- **A call of `_copy_body` is paid for**, up to one turn. -/
theorem copyWork_le (h : body.Sound width) {queued : Nat}
    (hloop : Ngh2.copyLoop width length (body.chunks.length - body.head) { body, queued }
      = (.ok (), s)) :
    body.copyWork width queued length + s.body.compact.credit ≤ body.credit + 1 := by
  obtain ⟨s', hloop', htaken⟩ := h.copyLoop length queued
  obtain rfl : s = s' := congrArg Prod.snd (hloop.symm.trans hloop')
  obtain ⟨hturns, hslots⟩ := copyTurns_le (s := { body, queued }) h hloop
  have hcompact := compactWork_le htaken.sound.head_le
  have hhead := htaken.sound.head_le
  rw [copyWork, hloop]
  dsimp only at hturns hslots ⊢
  have hcredit : s.body.credit + s.body.head = body.credit + body.head := by
    have := h.head_le
    unfold credit
    omega
  omega

/-- A chunk pays for three visits. -/
theorem credit_append (h : body.head ≤ body.chunks.length) (chunk : Bytes) (endStream : Bool) :
    (body.append width chunk endStream).credit = body.credit + if chunk = [] then 0 else 3 := by
  unfold credit append
  split
  · rfl
  · dsimp only
    rw [List.length_append, List.length_singleton]
    omega

end BodySource

end Work

/-! ## The work of a step -/

/-- The body of a stream that a step calls `_copy_body` with, and the length. -/
def Machine.copyCall (m : Machine) (s : StreamId) : Label → Option (BodySource × Nat)
  | .callback (.readBody u length) _ =>
    if u = s ∧ m.conn.outputRemaining ≠ 0 then
      (m.conn.bodies.lookup s).bind fun body =>
        if m.conn.outputRemaining < 0 ∨
            ((min length body.queuedSize : Nat) : Int) + 9 ≤ m.conn.outputRemaining then none
        else some (body, length)
    else none
  | .callback (.sendBody u _ _ length) _ =>
    if u = s then (m.conn.bodies.lookup s).map fun body => (body, length) else none
  | _ => none

/-- **The work of a step** on the chunks of a stream. -/
def chunkWork (s : StreamId) (e : Entry Machine Label Outcome) : Nat :=
  ((e.before.copyCall s e.label).map fun call =>
    call.1.copyWork e.before.host.pointerWidth e.before.conn.queuedBodySize call.2).getD 0

/-- Whether a step calls `_copy_body` for a stream. -/
def copiesFrom (s : StreamId) (e : Entry Machine Label Outcome) : Bool :=
  (e.before.copyCall s e.label).isSome

/-- Whether a happening puts a chunk on the queue of a stream. -/
def Happening.queuesOn (s : StreamId) : Happening → Bool
  | .message u (.data chunk _) | .stuck u (.data chunk _) => decide (u = s ∧ chunk ≠ [])
  | _ => false

/-- What the slots of the body of a stream have paid and not used. -/
def chunkCredit (bodies : Dict BodySource) (s : StreamId) : Nat :=
  ((bodies.lookup s).map BodySource.credit).getD 0

/-- What a step is charged: three visits for a chunk that it queues, and one for
a call of `_copy_body`. -/
def chunkCharge (s : StreamId) (e : Entry Machine Label Outcome) : Nat :=
  3 * (if (happening e).queuesOn s then 1 else 0) + if copiesFrom s e then 1 else 0

section Step

variable {bodies : Dict BodySource} {s u : StreamId} {body body' : BodySource} {m : Machine}
  {l : Label} {p : Outcome × Machine} {width : PointerWidth}

theorem chunkCredit_insert_self :
    chunkCredit (bodies.insert s body) s = body.credit := by
  rw [chunkCredit, Finmap.lookup_insert]
  rfl

theorem chunkCredit_insert_of_ne (h : s ≠ u) :
    chunkCredit (bodies.insert u body) s = chunkCredit bodies s := by
  rw [chunkCredit, Finmap.lookup_insert_of_ne _ h, chunkCredit]

theorem chunkCredit_of_lookup (h : bodies.lookup s = some body) :
    chunkCredit bodies s = body.credit := by
  rw [chunkCredit, h]
  rfl

/-- A new body has paid nothing. -/
theorem chunkCredit_open : chunkCredit (bodies.insert u {}) s ≤ chunkCredit bodies s := by
  by_cases h : s = u
  · subst h
    rw [chunkCredit_insert_self]
    exact Nat.zero_le _
  · rw [chunkCredit_insert_of_ne h]

/-- A change of a body that leaves its chunks alone. -/
theorem chunkCredit_same (h : bodies.lookup u = some body) (hcredit : body'.credit = body.credit) :
    chunkCredit (bodies.insert u body') s = chunkCredit bodies s := by
  by_cases hs : s = u
  · subst hs
    rw [chunkCredit_insert_self, chunkCredit_of_lookup h, hcredit]
  · exact chunkCredit_insert_of_ne hs

/-- A chunk that is queued pays for itself. -/
theorem chunkCredit_append (chunk : Bytes) (endStream : Bool) (h : bodies.lookup u = some body)
    (hsound : body.Sound width)
    (hcredit : body'.credit = (body.append width chunk endStream).credit) :
    chunkCredit (bodies.insert u body') s
      = chunkCredit bodies s + 3 * if decide (u = s ∧ chunk ≠ []) then 1 else 0 := by
  by_cases hs : s = u
  · subst hs
    rw [chunkCredit_insert_self, chunkCredit_of_lookup h, hcredit,
      BodySource.credit_append hsound.head_le]
    by_cases hchunk : chunk = []
    · simp [hchunk]
    · simp [hchunk]
  · rw [chunkCredit_insert_of_ne hs]
    simp [Ne.symm hs]

/-- A call of `_copy_body` is paid for, up to one turn. -/
theorem chunkCredit_copied {length : Nat} {t : CopyState} (h : bodies.lookup s = some body)
    (hsound : body.Sound width) {queued : Nat}
    (hloop : copyLoop width length (body.chunks.length - body.head) { body, queued } = (.ok (), t))
    (hcredit : body'.credit = t.body.compact.credit) :
    body.copyWork width queued length + chunkCredit (bodies.insert s body') s
      ≤ chunkCredit bodies s + 1 := by
  rw [chunkCredit_insert_self, chunkCredit_of_lookup h, hcredit]
  exact BodySource.copyWork_le hsound hloop

/-- A step that copies nothing of a stream does no work on its chunks. -/
theorem chunkWork_of_none {e : Entry Machine Label Outcome}
    (h : e.before.copyCall s e.label = none) : chunkWork s e = 0 := by
  rw [chunkWork, h]
  rfl

/-- The end of `_read_body` leaves the chunks alone. -/
theorem FinishedRead.credit_eq {env : Env} {session : Option SessionId} {reply reply' : Reply}
    {complete : Bool} {is : List Issued}
    (h : FinishedRead env session u body reply complete reply' is body') :
    body'.credit = body.credit := by
  cases h with
  | ended => rfl
  | trailers => rfl
  | continued => rfl
  | deferred => rfl

/-- **A step is paid for**: its work on the chunks of a stream and the credit it
leaves are within the credit it found and what it is charged. -/
theorem Stepped.chunks_paid (h : Stepped m l p) (hp : m.conn.Packs m.host.pointerWidth)
    (hsound : p.2.conn.Sound)
    (s : StreamId) :
    chunkWork s ⟨m, l, p.1, p.2⟩ + chunkCredit p.2.conn.bodies s
      ≤ chunkCredit m.conn.bodies s + chunkCharge s ⟨m, l, p.1, p.2⟩ := by
  have hfree (hnone : m.copyCall s l = none)
      (hle : chunkCredit p.2.conn.bodies s ≤ chunkCredit m.conn.bodies s) :
      chunkWork s ⟨m, l, p.1, p.2⟩ + chunkCredit p.2.conn.bodies s
        ≤ chunkCredit m.conn.bodies s + chunkCharge s ⟨m, l, p.1, p.2⟩ := by
    rw [chunkWork_of_none (e := ⟨m, l, p.1, p.2⟩) hnone, Nat.zero_add]
    exact hle.trans (Nat.le_add_right _ _)
  have hcopies {u : StreamId} {body' : BodySource} {t : CopyState} (call : BodySource × Nat)
      (hopened : m.conn.bodies.lookup u = some call.1)
      (hloop : copyLoop m.host.pointerWidth call.2 (call.1.chunks.length - call.1.head)
        ⟨call.1, m.conn.queuedBodySize, []⟩ = (.ok (), t))
      (hcredit : body'.credit = t.body.compact.credit) (hcall : u = s → m.copyCall s l = some call)
      (hother : u ≠ s → m.copyCall s l = none) :
      chunkWork s ⟨m, l, p.1, p.2⟩ + chunkCredit (m.conn.bodies.insert u body') s
        ≤ chunkCredit m.conn.bodies s + chunkCharge s ⟨m, l, p.1, p.2⟩ := by
    by_cases hu : u = s
    · subst hu
      have hpaid := chunkCredit_copied hopened (hp _ _ hopened).sound hloop hcredit
      rw [chunkCharge, copiesFrom, chunkWork, hcall rfl, Option.isSome_some, if_pos rfl,
        Option.map_some, Option.getD_some]
      dsimp only
      omega
    · rw [chunkWork_of_none (e := ⟨m, l, p.1, p.2⟩) (hother hu),
        chunkCredit_insert_of_ne (Ne.symm hu), Nat.zero_add]
      exact Nat.le_add_right _ _
  cases h with
  | @request r env p idle hr =>
    have hnone : m.copyCall s (.request r env) = none := rfl
    rw [Machine.afterRequest_conn] at hfree ⊢
    cases hr with
    | failed => exact hfree hnone (Nat.zero_le _)
    | terminated => exact hfree hnone (Nat.zero_le _)
    | @requested headers endStream =>
      cases endStream with
      | true => exact hfree hnone le_rfl
      | false => exact hfree hnone chunkCredit_open
    | @requestUnreported headers endStream =>
      cases endStream with
      | true => exact hfree hnone le_rfl
      | false => exact hfree hnone chunkCredit_open
    | @responded streamId headers endStream =>
      cases endStream with
      | true => exact hfree hnone le_rfl
      | false => exact hfree hnone chunkCredit_open
    | trailersQueued usable opened =>
      refine hfree hnone (chunkCredit_same opened ?_).le
      rfl
    | trailersStuck usable opened =>
      refine hfree hnone (chunkCredit_same opened ?_).le
      rfl
    | @dataQueued u chunk endStream body usable opened =>
      refine (Nat.zero_add _).le.trans ((chunkCredit_append chunk endStream opened
        (hp _ _ opened).sound ?_).le.trans (Nat.add_le_add_left (Nat.le_add_right _ _) _))
      split <;> rfl
    | @dataStuck u chunk endStream body e usable opened =>
      refine (Nat.zero_add _).le.trans ((chunkCredit_append chunk endStream opened
        (hp _ _ opened).sound ?_).le.trans (Nat.add_le_add_left (Nat.le_add_right _ _) _))
      rfl
    | _ => exact hfree hnone le_rfl
  | @callback cb env d session p driven hc =>
    rw [Machine.afterCallback_conn] at hfree hsound ⊢
    cases hc with
    | failed spoiled deferred => exact absurd (deferred.symm.trans hsound.2) (by simp)
    | @bodySent u frameHeader length body t output limit opened written fits copied =>
      exact hcopies ⟨body, length⟩ opened copied rfl
        (fun hu => by
          subst hu
          rw [Machine.copyCall, if_pos rfl, opened, Option.map_some])
        (fun hu => by rw [Machine.copyCall, if_neg hu])
    | @readWhole u length body body' reply is unspent opened whole finished =>
      refine hfree ?_ (chunkCredit_same opened finished.credit_eq).le
      by_cases hu : u = s
      · subst hu
        rw [Machine.copyCall, if_pos ⟨rfl, unspent⟩, opened, Option.bind_some]
        exact if_pos whole
      · rw [Machine.copyCall, if_neg fun h => hu h.1]
    | @readCopied u length body body' t reply is unspent opened limited copied finished =>
      exact hcopies ⟨body, length⟩ opened copied finished.credit_eq
        (fun hu => by
          subst hu
          rw [Machine.copyCall, if_pos ⟨rfl, unspent⟩, opened, Option.bind_some]
          exact if_neg limited)
        (fun hu => by rw [Machine.copyCall, if_neg fun h => hu h.1])
    | headerBlock kind =>
      rcases kind with ⟨rfl, -⟩ | ⟨rfl, -⟩ | ⟨name, value, noIndex, rfl, -⟩
      · exact hfree rfl le_rfl
      · exact hfree rfl le_rfl
      · exact hfree rfl le_rfl
    | paused spent =>
      refine hfree ?_ le_rfl
      rw [Machine.copyCall, if_neg fun h => h.2 spent]
    | @streamClosed u =>
      refine hfree rfl ?_
      dsimp only
      rw [chunkCredit]
      by_cases hs : s = u
      · rw [hs, Finmap.lookup_erase]
        exact Nat.zero_le _
      · rw [Finmap.lookup_erase_ne hs]
        exact le_rfl
    | _ => exact hfree rfl le_rfl
  | ret driven hr =>
    rw [Machine.afterReturn_conn] at hfree ⊢
    cases hr with
    | failed => exact hfree rfl (Nat.zero_le _)
    | sentThenFailed => exact hfree rfl (Nat.zero_le _)
    | receivedLast => exact hfree rfl (Nat.zero_le _)
    | receivedUnannounced => exact hfree rfl (Nat.zero_le _)
    | sentLast => exact hfree rfl (Nat.zero_le _)
    | _ => exact hfree rfl le_rfl

end Step

/-- **Draining is linear in the number of chunks.** In every run, as long as the
connection has not failed, the loop turns and the slots visited for a stream are
at most three for each chunk that was queued and one for each call of
`_copy_body`. -/
theorem draining_linear {host : Host} {h : History} {m : Machine}
    (hrun : Runs host EndsOnFailure h m) (hsound : m.conn.Sound) (s : StreamId) :
    overall (chunkWork s) h
      ≤ 3 * h.countP (fun e => (happening e).queuesOn s) + h.countP (copiesFrom s) := by
  have hpaid : overall (chunkWork s) h + chunkCredit m.conn.bodies s
      ≤ 0 + overall (chunkCharge s) h := by
    refine Run.amortized (fun m => m.conn.Sound) (fun m => chunkCredit m.conn.bodies s)
      (fun hprior hallowed htaken hafter => ?_)
      (fun hprior hbefore _ htaken hafter => ?_) hrun hsound
    · exact Runs.sound_before (fun ha => ha) hprior hallowed (Machine.stepped htaken) hafter
    · have hpacks := Runs.packs (fun ha => ha) hprior hbefore
      rw [← Runs.host_eq hprior] at hpacks
      exact (Machine.stepped htaken).chunks_paid hpacks hafter s
  have hcharges : overall (chunkCharge s) h
      = 3 * h.countP (fun e => (happening e).queuesOn s) + h.countP (copiesFrom s) := by
    unfold chunkCharge
    rw [overall_add, overall_mul, overall_ite, overall_ite]
  omega

/-- Three chunks, of which a frame within a limit takes one and a half, and one
without a limit the rest. -/
def threeChunks : List Label := [
  .request (.init .client {}) (.accepting []),
  .request (.initiateConnection []) (.accepting []),
  .request (.sendRequest [] false) (.accepting [(.sessionCheckRequestAllowed, 1),
    (.submitRequest2 [] true, 3)]),
  .request (.sendData 3 [1] false) (.accepting []),
  .request (.sendData 3 [2, 3] false) (.accepting []),
  .request (.sendData 3 [4] false) (.accepting []),
  .request (.dataToSend (some 10)) (.accepting []),
  .callback (.readBody 3 2) (.accepting []),
  .ret 0 (.accepting []),
  .request (.dataToSend none) (.accepting []),
  .callback (.readBody 3 16384) (.accepting []),
  .callback (.sendBody 3 0 ⟨[0, 0, 2, 0, 0, 0, 0, 0, 3], rfl⟩ 2) (.accepting [])]

set_option maxRecDepth 8000 in
theorem draining_linear_threeChunks :
    ∃ c, Run.execute Machine.step EndsOnFailure ([], Machine.fresh {}) threeChunks = some c ∧
      overall (chunkWork 3) c.1 = 7 ∧ overall (chunkWork 3) c.1 ≤ 3 * 3 + 2 := by
  obtain ⟨c, hc, hsound, hwork, hchunks, hcalls⟩ : ∃ c,
      Run.execute Machine.step EndsOnFailure ([], Machine.fresh {}) threeChunks = some c ∧
      c.2.conn.Sound ∧
      overall (chunkWork 3) c.1 = 7 ∧
      c.1.countP (fun e => (happening e).queuesOn 3) = 3 ∧ c.1.countP (copiesFrom 3) = 2 :=
    ⟨_, rfl, by decide, by decide, by decide, by decide⟩
  have hlinear := draining_linear (Run.of_execute .start hc) hsound 3
  rw [hchunks, hcalls] at hlinear
  exact ⟨c, hc, hwork, hlinear⟩

end Ngh2
