import Ngh2.LimitedOutput

/-!
# What a driven engine emits

Leaving the staging buffer and the limit aside, a drive is a sequence of moves
of the engine, and each of them emits bytes and changes the connection
(`Engine.Makes`). Only moves that are made whole count: a frame is emitted or it
is not. `Engine.Emits` are the moves up to a point where nothing is left to do.

Two things are proved of it. A drive without a limit emits this and returns it
(`Engine.Drives.emits`), and a drive under a limit returns as much of it as the
limit allows, and leaves the engine where the rest will be emitted by the next
one (`Engine.Emits.delivers`).
-/

namespace Ngh2

open Effect Nghttp2

/-- What is outside the binding during a step, where allocations succeed. -/
def Engine.lasting {S : Type} (E : Engine S) (cursor : Cursor S) : Env :=
  E.env cursor fun _ => true

/-- Allocations succeed. -/
abbrev Lasting : (Alloc → Bool) → Prop := fun memory => memory = fun _ => true

namespace Engine

variable {S : Type} (E : Engine S) (host : Host) (session : Option SessionId)

/-- **The engine makes a move**: the bytes it emits, and the state and the
connection after it. -/
inductive Makes (s : S) (c : Connection) : Bytes → S → Connection → Prop
  /-- It reports something. -/
  | reported {callback : Report} {reported : Int → List Issued → S} {reply : Reply} {w : World}
      (move : E.move s = .report callback reported)
      (ran : (callback.val.body session).run (E.lasting { state := s }) ⟨host, c, []⟩
        = (.ok reply, w))
      (going : reply.code ≠ errCallbackFailure) :
      Makes s c [] (reported reply.code w.issued) w.conn
  /-- It sends a frame. -/
  | framed {bytes : Bytes} {sent : S} (move : E.move s = .frame bytes sent) : Makes s c bytes sent c
  /-- It finds that there is nothing to send of a body. -/
  | deferred {streamId : StreamId} {sessionWindow streamWindow : Int} {remoteMaxFrameSize : Nat}
      {ceiling : Int → Nat} {deferred : S} {framed : Granted → FrameHeader × S}
      {body body' : BodySource} {reply : Reply} {is : List Issued}
      (move : E.move s
        = .data streamId sessionWindow streamWindow remoteMaxFrameSize ceiling deferred framed)
      (read : WholeRead (E.lasting { state := s }) session c streamId
        (ceiling (c.proposed streamId remoteMaxFrameSize)) body reply is body')
      (empty : reply.code = errDeferred) :
      Makes s c [] deferred { c with bodies := c.bodies.insert streamId body' }
  /-- It sends a DATA frame. -/
  | sent {streamId : StreamId} {sessionWindow streamWindow : Int} {remoteMaxFrameSize : Nat}
      {ceiling : Int → Nat} {deferred : S} {framed : Granted → FrameHeader × S}
      {body body' : BodySource} {reply : Reply} {is : List Issued} {t : CopyState}
      (move : E.move s
        = .data streamId sessionWindow streamWindow remoteMaxFrameSize ceiling deferred framed)
      (read : WholeRead (E.lasting { state := s }) session c streamId
        (ceiling (c.proposed streamId remoteMaxFrameSize)) body reply is body')
      (given : reply.code ≠ errDeferred)
      (copied : copyLoop host.pointerWidth reply.code.toNat (body'.chunks.length - body'.head)
        { body := body', queued := c.queuedBodySize } = (.ok (), t))
      (full : t.copied.length = reply.code.toNat) :
      Makes s c ((framed (reply.granted is)).1.val ++ t.copied) (framed (reply.granted is)).2
        { c with bodies := c.bodies.insert streamId t.body.compact, queuedBodySize := t.queued }

/-- **What the engine emits** until there is nothing to do. -/
inductive Emits : S → Connection → Bytes → S → Connection → Prop
  | done {s : S} {c : Connection} {result : Int} (move : E.move s = .done result)
      (nonnegative : 0 ≤ result) : Emits s c [] s c
  | made {s s₁ s' : S} {c c₁ c' : Connection} {data rest : Bytes}
      (first : E.Makes host session s c data s₁ c₁) (further : Emits s₁ c₁ rest s' c') :
      Emits s c (data ++ rest) s' c'

end Engine

/-! ## The connections that are driven -/

/-- **A body whose counter says what it holds**: it is well represented, and its
queue is not as long as the counter has values. -/
structure BodySource.Counted (width : PointerWidth) (body : BodySource) : Prop where
  packed : body.Packed width
  short : body.queue.length < width.modulus

section Counted

variable {width : PointerWidth} {body body' : BodySource}

theorem BodySource.Counted.sound (h : body.Counted width) : body.Sound width := h.packed.sound

/-- Taking bytes from a counted body leaves one. -/
theorem BodySource.Counted.copied (h : body.Counted width) {length queued : Nat} {s : CopyState}
    (hloop : copyLoop width length (body.chunks.length - body.head) { body, queued }
      = (.ok (), s)) : s.body.compact.Counted width := by
  obtain ⟨s', heq, htaken⟩ := h.sound.copyLoop length queued
  obtain rfl : s = s' := congrArg Prod.snd (hloop.symm.trans heq)
  refine ⟨h.packed.copied hloop, ?_⟩
  rw [BodySource.queue_compact, htaken.queue, List.length_drop]
  exact (Nat.sub_le _ _).trans_lt h.short

/-- So does the end of `_read_body`. -/
theorem FinishedRead.counted {env : Env} {session : Option SessionId} {streamId : StreamId}
    {reply reply' : Reply} {complete : Bool} {is : List Issued}
    (h : FinishedRead env session streamId body reply complete reply' is body')
    (hb : body.Counted width) : body'.Counted width := by
  refine ⟨h.packed hb.packed, ?_⟩
  cases h <;> exact hb.short

end Counted

/-- **A connection that can be driven**, on a session. -/
structure Connection.Drivable (host : Host) (c : Connection) (session : Option SessionId) :
    Prop where
  live : c.failed = false
  active : c.active = true
  clean : c.callbackError = none
  session : c.session = session
  counts : ∀ s body, c.bodies.lookup s = some body → body.Counted host.pointerWidth

section Drivable

variable {host : Host} {c : Connection} {session : Option SessionId}

/-- The bodies do not matter, as long as they are counted. -/
theorem Connection.Drivable.insert (h : c.Drivable host session) {body : BodySource}
    (hb : body.Counted host.pointerWidth) (streamId : StreamId) (queued : Nat) :
    ({ c with bodies := c.bodies.insert streamId body, queuedBodySize := queued }
      : Connection).Drivable host session := by
  refine ⟨h.live, h.active, h.clean, h.session, fun s b hlookup => ?_⟩
  by_cases heq : s = streamId
  · subst heq
    rw [Finmap.lookup_insert, Option.some_inj] at hlookup
    exact hlookup ▸ hb
  · rw [Finmap.lookup_insert_of_ne _ heq] at hlookup
    exact h.counts s b hlookup

/-- The end of a connection leaves it drivable: there is nothing to send. -/
theorem Connection.Drivable.announced (h : c.Drivable host session) :
    c.announced.Drivable host session :=
  ⟨h.live, h.active, h.clean, h.session, fun _ _ hlookup => absurd hlookup (by simp [
    Connection.announced, Connection.terminate, Connection.discardPendingState])⟩

/-- A callback that did not fail leaves the connection drivable. -/
theorem Called.drivable {env : Env} {cb : Callback} {reply : Reply} {w : World}
    (hcalled : Called host env session c cb (reply, w)) (h : c.Drivable host session)
    (hgoing : reply.code ≠ errCallbackFailure) : w.conn.Drivable host session := by
  cases hcalled with
  | failed => exact absurd rfl hgoing
  | @bodySent streamId frameHeader length body t output limit opened written fits copied =>
    have hinsert := h.insert ((h.counts _ _ opened).copied copied) streamId c.queuedBodySize
    exact ⟨h.live, h.active, h.clean, h.session, hinsert.counts⟩
  | readWhole unspent opened whole finished =>
    exact h.insert (finished.counted (h.counts _ _ opened)) _ _
  | readCopied unspent opened limited copied finished =>
    exact h.insert (finished.counted ((h.counts _ _ opened).copied copied)) _ _
  | @streamClosed streamId =>
    refine ⟨h.live, h.active, h.clean, h.session, fun s b hlookup => ?_⟩
    by_cases heq : s = streamId
    · rw [heq, Finmap.lookup_erase] at hlookup
      exact absurd hlookup (by simp)
    · rw [Finmap.lookup_erase_ne heq] at hlookup
      exact h.counts s b hlookup
  | _ => exact ⟨h.live, h.active, h.clean, h.session, h.counts⟩

variable {S : Type} {E : Engine S}

/-- **A move leaves the connection drivable.** -/
theorem Engine.Makes.drivable {s s' : S} {c' : Connection} {data : Bytes}
    (hmakes : E.Makes host session s c data s' c') (h : c.Drivable host session) :
    c'.Drivable host session := by
  cases hmakes with
  | @reported callback _ reply w _ ran going =>
    have hreplied := replied host (E.lasting { state := s }) session c callback.val
    rw [ran] at hreplied
    cases hreplied with
    | intro called => exact called.drivable h going
  | framed => exact h
  | deferred move read =>
    exact h.insert (read.finished.counted (h.counts _ _ read.opened)) _ c.queuedBodySize
  | sent move read given copied =>
    exact h.insert ((read.finished.counted (h.counts _ _ read.opened)).copied copied) _ _

/-- So do all of them. -/
theorem Engine.Emits.drivable {s s' : S} {c' : Connection} {data : Bytes}
    (hemits : E.Emits host session s c data s' c') (h : c.Drivable host session) :
    c'.Drivable host session := by
  induction hemits with
  | done => exact h
  | made first _ ih => exact ih (first.drivable h)

end Drivable

/-! ## The steps of a drive -/

section Steps

variable {S : Type} {E : Engine S} {host : Host} {session : Option SessionId}
  {memory : Alloc → Bool} {stage : Stage S} {cursor : Cursor S} {c : Connection}

/-- A connection inside `data_to_send`, with its engine. -/
def driving (host : Host) (session : Option SessionId) (c : Connection) (stage : Stage S) : Duo S :=
  ⟨⟨host, c, some (.send, session)⟩, stage⟩

/-- A step that is a callback. -/
theorem Engine.step_callback {cb : Callback} {reply : Reply} {w : World}
    (hlabel : E.label memory stage = .callback cb (E.env cursor memory))
    (hrun : (cb.body session).run (E.env cursor memory) ⟨host, c, []⟩ = (.ok reply, w)) :
    E.step memory (driving host session c stage)
      = some (⟨.replied reply, w.issued⟩,
          driving host session w.conn (E.next stage reply w.issued)) := by
  show ((driving host session c stage).machine.step (E.label memory stage)).map _ = _
  rw [hlabel]
  show Option.map _ (some (Machine.afterCallback _ ((cb.body session).run _ ⟨host, c, []⟩))) = _
  rw [hrun]
  rfl

/-- A step that is the return. -/
theorem Engine.step_return {result : Int} {v : Value} {w : World}
    (hlabel : E.label memory stage = .ret result (E.env cursor memory))
    (hrun : (finishSend result).run (E.env cursor memory) ⟨host, c, []⟩ = (.ok v, w)) :
    E.step memory (driving host session c stage)
      = some (⟨.returned v, w.issued⟩, ⟨⟨host, w.conn, none⟩, stage.resting⟩) := by
  show ((driving host session c stage).machine.step (E.label memory stage)).map _ = _
  rw [hlabel]
  show Option.map _ (some (Machine.afterReturn _ ((finishSend result).run _ ⟨host, c, []⟩))) = _
  rw [hrun]
  rfl

end Steps

/-! ## Under a limit -/

/-- **A drive under a limit** returns what was staged and what the limit allows
of the bytes to come. Where it leaves the engine, the others will be emitted,
and the engine and the connection end where they would have ended. They have,
where the limit was not spent. -/
def Delivers {S : Type} (E : Engine S) (host : Host) (session : Option SessionId)
    (stage : Stage S) (c : Connection) (output : Option Buffer) (staging : Bytes)
    (limit : Option Nat) (total : Bytes) (s' : S) (c' : Connection) : Prop :=
  ∃ n cursor c₁ rest,
    E.Drives Lasting n
      (driving host session (c.withOutput output staging.length (allowance limit)) stage)
      (staging ++ within limit total)
      ⟨⟨host, (c₁.settled (E.lasting cursor)).withOutput none
        (staging ++ within limit total).length 0, none⟩, .ready cursor⟩ ∧
    c₁.Drivable host session ∧ cursor.left ++ rest = beyond limit total ∧
    E.Emits host session cursor.state c₁ rest s' c' ∧
    ((∀ n, limit = some n → total.length < n) → cursor = { state := s' } ∧ c₁ = c')

section Limited

variable {S : Type} {E : Engine S} {host : Host} {session : Option SessionId}
  {stage stage' : Stage S} {cursor : Cursor S} {c c₁ c' : Connection}
  {output output' : Option Buffer}
  {staging data rest total : Bytes} {limit : Option Nat} {s s' sent : S}

/-- A callback stages some bytes, and the drive goes on with the others. -/
theorem Delivers.further {staging' : Bytes} {limit' : Option Nat} {reply : Reply} {is : List Issued}
    (hstep : E.step (fun _ => true)
        (driving host session (c.withOutput output staging.length (allowance limit)) stage)
      = some (⟨.replied reply, is⟩, driving host session
          (c₁.withOutput output' staging'.length (allowance limit')) stage'))
    (hstaging : staging' = staging ++ data) (hlimit : limit' = spend limit data.length)
    (hallowed : ∀ n, limit = some n → data.length ≤ n)
    (h : Delivers E host session stage' c₁ output' staging' limit' rest s' c') :
    Delivers E host session stage c output staging limit (data ++ rest) s' c' := by
  obtain ⟨n, cursor, c₂, rest', hdrives, hdrivable, hrest, hemits, hdone⟩ := h
  have hwithin : staging ++ within limit (data ++ rest) = staging' ++ within limit' rest := by
    rw [within_append hallowed, hstaging, hlimit, List.append_assoc]
  refine ⟨n + 1, cursor, c₂, rest', ?_, hdrivable, ?_, hemits, fun hunspent => hdone ?_⟩
  · rw [hwithin]
    exact .further rfl hstep hdrives
  · rw [beyond_append hallowed, ← hlimit]
    exact hrest
  · rintro k hk
    obtain ⟨r, hr, rfl⟩ := Option.map_eq_some_iff.mp (hlimit.symm.trans hk)
    have hlength := hunspent r hr
    rw [List.length_append] at hlength
    omega

/-- A callback that stages nothing. -/
theorem Delivers.silently {reply : Reply} {is : List Issued}
    (hstep : E.step (fun _ => true)
        (driving host session (c.withOutput output staging.length (allowance limit)) stage)
      = some (⟨.replied reply, is⟩, driving host session
          (c₁.withOutput output staging.length (allowance limit)) stage'))
    (h : Delivers E host session stage' c₁ output staging limit total s' c') :
    Delivers E host session stage c output staging limit total s' c' :=
  Delivers.further hstep (List.append_nil staging).symm spend_zero.symm (fun _ _ => Nat.zero_le _) h

/-- There is nothing left to do. -/
theorem delivers_done (hstaged : staged output = staging) (hc : c.Drivable host session)
    {result : Int}
    (hmove : E.move s = .done result) (hresult : 0 ≤ result) :
    Delivers E host session (.ready { state := s }) c output staging limit [] s c := by
  obtain ⟨is, hrun⟩ := @run_finishSend_lasting host (E.lasting { state := s }) c output staging
    (fun _ => rfl) hstaged result hresult (allowance limit)
  have hlabel : E.label (fun _ => true) (.ready { state := s })
      = .ret result (E.lasting { state := s }) := Engine.label_done hmove
  have htaken : E.step _ (driving host session _ _) = _ := Engine.step_return hlabel hrun
  refine ⟨0, { state := s }, c, [], ?_, hc, beyond_nil.symm, .done hmove hresult,
    fun _ => ⟨rfl, rfl⟩⟩
  rw [within_nil, List.append_nil]
  exact .returned rfl htaken

/-- The engine was told to stop, at a spent limit. -/
theorem delivers_stopped (hstaged : staged output = staging) (hc : c.Drivable host session)
    (hrest : cursor.left ++ rest = total)
    (hemits : E.Emits host session cursor.state c rest s' c') :
    Delivers E host session (.stopped 0 cursor) c output staging (some 0) total s' c' := by
  obtain ⟨is, hrun⟩ := @run_finishSend_lasting host (E.lasting cursor) c output staging
    (fun _ => rfl) hstaged 0 le_rfl (allowance (some 0))
  have hlabel : E.label (fun _ => true) (.stopped 0 cursor) = .ret 0 (E.lasting cursor) := rfl
  have htaken : E.step _ (driving host session _ _) = _ := Engine.step_return hlabel hrun
  refine ⟨0, cursor, c, rest, ?_, hc, hrest, hemits, fun h => absurd (h 0 rfl) (Nat.not_lt_zero _)⟩
  rw [show within (some 0) total = [] from rfl, List.append_nil]
  exact .returned rfl htaken

/-- Bytes are offered at a spent limit. -/
theorem delivers_spent (hstaged : staged output = staging) (hc : c.Drivable host session)
    (hlabel : E.label (fun _ => true) (.ready cursor)
      = .callback (.collectOutput data) (E.lasting cursor))
    (hnext : ∀ reply is, E.next (.ready cursor) reply is = .offered cursor data sent reply.code)
    (hrest : cursor.left ++ rest = total)
    (hemits : E.Emits host session cursor.state c rest s' c') :
    Delivers E host session (.ready cursor) c output staging (some 0) total s' c' := by
  have hrun := @run_collectOutput_spent host (E.lasting cursor) session c output staging data
  refine .silently (Engine.step_callback hlabel hrun) ?_
  rw [hnext]
  exact delivers_stopped hstaged hc hrest hemits

/-- **Bytes are offered**, and what the limit allows of them is accepted. -/
theorem delivers_offered (hstaged : staged output = staging) (hc : c.Drivable host session)
    (hlabel : E.label (fun _ => true) (.ready cursor)
      = .callback (.collectOutput data) (E.lasting cursor))
    (hnext : ∀ reply is, E.next (.ready cursor) reply is = .offered cursor data sent reply.code)
    (hrest : ∃ rest', cursor.left ++ rest' = data ++ rest ∧
      E.Emits host session cursor.state c rest' s' c')
    (hemits : E.Emits host session sent c rest s' c')
    (hfits : staging.length + (within limit (data ++ rest)).length ≤ host.pointerWidth.ssizeMax)
    (hfurther : ∀ output staging limit, staged output = staging →
      staging.length + (within limit rest).length ≤ host.pointerWidth.ssizeMax →
      Delivers E host session (.ready { state := sent }) c output staging limit rest s' c') :
    Delivers E host session (.ready cursor) c output staging limit (data ++ rest) s' c' := by
  by_cases hspent : limit = some 0
  · subst hspent
    obtain ⟨rest', hrest', hemits'⟩ := hrest
    exact delivers_spent hstaged hc hlabel hnext hrest' hemits'
  have hlength : (within limit data).length ≤ _ := length_within_le data rest
  obtain ⟨output', hstaged', hrun⟩ := @run_collectOutput host (E.lasting cursor) session c output
    staging limit (fun _ => rfl) hstaged hspent data (by omega)
  have htaken := Engine.step_callback hlabel hrun
  rw [hnext, Stage.offered_accepted] at htaken
  by_cases hall : ∀ n, limit = some n → data.length ≤ n
  · have hwithin : within limit data = data := by
      have h := within_append hall []
      rwa [List.append_nil, within_nil, List.append_nil] at h
    rw [hwithin, List.drop_length] at htaken
    rw [hwithin] at hstaged'
    refine .further htaken rfl rfl hall (hfurther _ _ _ hstaged' ?_)
    rw [within_append hall, List.length_append] at hfits
    rw [List.length_append]
    omega
  · -- the limit ends inside of the bytes: the next offer is refused
    obtain ⟨n, rfl, hlt⟩ : ∃ n, limit = some n ∧ n < data.length := by
      simpa only [not_forall, not_le, exists_prop] using hall
    have hcut : (within (some n) data).length = n := List.length_take_of_le hlt.le
    have hleft : data.drop n ≠ [] := List.ne_nil_of_length_pos (by rw [List.length_drop]; omega)
    rw [hcut] at htaken
    have hsplit : data ++ rest = data.take n ++ (data.drop n ++ rest) := by
      rw [← List.append_assoc, List.take_append_drop]
    rw [hsplit]
    refine .further htaken rfl ?_ ?_ ?_
    · show spend (some n) n = spend (some n) (data.take n).length
      rw [List.length_take_of_le hlt.le]
    · rintro m hm
      obtain rfl := Option.some_inj.mp hm
      exact List.length_take_le _ _
    · have hzero : spend (some n) n = some 0 := congrArg some (Nat.sub_self n)
      rw [hzero]
      exact delivers_spent hstaged' hc (Engine.label_left hleft) (Engine.next_left hleft) rfl hemits

section Data

variable {streamId : StreamId} {sessionWindow streamWindow : Int} {remoteMaxFrameSize length : Nat}
  {ceiling : Int → Nat} {deferred : S} {framed : Granted → FrameHeader × S}
  {body body' : BodySource}
  {reply : Reply} {is : List Issued} {t : CopyState}

/-- The engine asks for the length of a DATA frame. -/
theorem Engine.step_sized
    (hmove : E.move s
      = .data streamId sessionWindow streamWindow remoteMaxFrameSize ceiling deferred framed)
    (c : Connection) (output : Option Buffer) (size : Nat) (remaining : Int) :
    E.step (fun _ => true)
        (driving host session (c.withOutput output size remaining) (.ready { state := s }))
      = some (⟨.replied { code := (c.proposed streamId remoteMaxFrameSize : Nat) }, []⟩,
          driving host session (c.withOutput output size remaining)
            (.reading s streamId (ceiling (c.proposed streamId remoteMaxFrameSize)) deferred
              framed)) := by
  have hrun := @run_proposed host (E.lasting { state := s }) session c output size remaining
    streamId sessionWindow streamWindow remoteMaxFrameSize
  have htaken := Engine.step_callback (Engine.label_data hmove) hrun
  have hproposed : ¬ ((c.proposed streamId remoteMaxFrameSize : Nat) : Int) < 0 := by omega
  rw [Engine.next_data hmove, if_neg hproposed] at htaken
  exact htaken

theorem delivers_sized
    (hmove : E.move s
      = .data streamId sessionWindow streamWindow remoteMaxFrameSize ceiling deferred framed)
    (h : Delivers E host session
      (.reading s streamId (ceiling (c.proposed streamId remoteMaxFrameSize)) deferred framed) c
      output staging limit total s' c') :
    Delivers E host session (.ready { state := s }) c output staging limit total s' c' :=
  .silently (Engine.step_sized hmove c output staging.length (allowance limit)) h

/-- It is told to pause at a spent limit. -/
theorem delivers_paused (hstaged : staged output = staging) (hc : c.Drivable host session)
    (hemits : E.Emits host session s c total s' c') :
    Delivers E host session (.reading s streamId length deferred framed) c output staging (some 0)
      total s' c' := by
  have hrun := @run_readBody_spent host (E.lasting { state := s }) session c output staging streamId
    length
  have htaken : E.step _ (driving host session _ (.reading s streamId length deferred framed))
    = _ :=
    Engine.step_callback rfl hrun
  rw [Engine.next_paused rfl] at htaken
  exact .silently htaken (delivers_stopped hstaged hc rfl hemits)

/-- **There is nothing to send of a body**, whichever way it was looked for. -/
theorem delivers_deferred (hc : c.Drivable host session) (hspent : limit ≠ some 0)
    (hread : WholeRead (E.lasting { state := s }) session c streamId length body reply is body')
    (hempty : reply.code = errDeferred)
    (h : Delivers E host session (.ready { state := deferred })
      { c with bodies := c.bodies.insert streamId body' } output staging limit total s' c') :
    Delivers E host session (.reading s streamId length deferred framed) c output staging limit
      total s' c' := by
  have hbody := hc.counts _ _ hread.opened
  have hread' : WholeRead (E.lasting { state := s }) session
      (c.withOutput output staging.length (allowance limit)) streamId length body reply is body' :=
    ⟨hread.opened, hread.finished⟩
  by_cases hwhole : allowance limit < 0 ∨
    ((min length body.queuedSize : Nat) : Int) + 9 ≤ allowance limit
  · have hrun := hread'.run host (fun _ => rfl) hwhole
    have htaken : E.step _ (driving host session _ (.reading s streamId length deferred framed))
      = _ :=
      Engine.step_callback rfl hrun
    rw [Engine.next_deferred hempty] at htaken
    exact .silently htaken h
  · have hcopy := copyLoop_nothing (s := { body, queued := c.queuedBodySize }) hbody.sound
      hbody.short rfl (hread.nothing hempty) (body.chunks.length - body.head)
    have hsame : body.compact.reflag body' = body' := by
      rw [hbody.packed.compact_eq]
      exact hread.finished.reflag.symm
    have hrun := hread'.run_copied host (fun _ => rfl) hbody.sound hbody.short
      (allowance_ne_zero hspent) hwhole
      hcopy
    dsimp only at hrun
    rw [hsame] at hrun
    have htaken : E.step _ (driving host session _ (.reading s streamId length deferred framed))
      = _ :=
      Engine.step_callback rfl hrun
    rw [Engine.next_deferred (by exact hempty)] at htaken
    exact .silently htaken h

/-- **A DATA frame is sent**, whole or in pieces. -/
theorem delivers_sent (hstaged : staged output = staging) (hc : c.Drivable host session)
    (hspent : limit ≠ some 0)
    (hread : WholeRead (E.lasting { state := s }) session c streamId length body reply is body')
    (hgiven : reply.code ≠ errDeferred)
    (hcopied : copyLoop host.pointerWidth reply.code.toNat (body'.chunks.length - body'.head)
      { body := body', queued := c.queuedBodySize } = (.ok (), t))
    (hfull : t.copied.length = reply.code.toNat)
    (hemits : E.Emits host session (framed (reply.granted is)).2
      { c with bodies := c.bodies.insert streamId t.body.compact, queuedBodySize := t.queued }
      rest s' c')
    (hfits : staging.length + (within limit
      ((framed (reply.granted is)).1.val ++ t.copied ++ rest)).length ≤ host.pointerWidth.ssizeMax)
    (hfurther : ∀ output staging limit, staged output = staging →
      staging.length + (within limit rest).length ≤ host.pointerWidth.ssizeMax →
      Delivers E host session (.ready { state := (framed (reply.granted is)).2 })
        { c with bodies := c.bodies.insert streamId t.body.compact, queuedBodySize := t.queued }
        output staging limit rest s' c') :
    Delivers E host session (.reading s streamId length deferred framed) c output staging limit
      ((framed (reply.granted is)).1.val ++ t.copied ++ rest) s' c' := by
  have hbody := hc.counts _ _ hread.opened
  have hread' : WholeRead (E.lasting { state := s }) session
      (c.withOutput output staging.length (allowance limit)) streamId length body reply is body' :=
    ⟨hread.opened, hread.finished⟩
  have hmade := hread.finished.counted hbody
  have hcode := hread.code hgiven
  have hlength : reply.code.toNat = min length body.queuedSize := by rw [hcode, Int.toNat_natCast]
  rw [hlength] at hcopied hfull
  have hsize : ((framed (reply.granted is)).1.val ++ t.copied).length
      = min length body.queuedSize + 9 := by
    rw [List.length_append, (framed (reply.granted is)).1.property, hfull, Nat.add_comm]
  by_cases hwhole : allowance limit < 0 ∨
    ((min length body.queuedSize : Nat) : Int) + 9 ≤ allowance limit
  · have hallowed := allowance_fits_iff.mp hwhole
    have hallowed' (r : Nat) (hr : limit = some r) :
        ((framed (reply.granted is)).1.val ++ t.copied).length ≤ r := hsize ▸ hallowed r hr
    rw [within_append hallowed', List.length_append, hsize] at hfits
    have hrun := hread'.run host (fun _ => rfl) hwhole
    have htaken : E.step _ (driving host session _ (.reading s streamId length deferred framed))
      = _ :=
      Engine.step_callback rfl hrun
    rw [Engine.next_granted hcode, hread.noCopy, if_pos rfl] at htaken
    obtain ⟨output', hstaged', hrun'⟩ := @run_sendBody host
      (E.lasting { state := (framed (reply.granted is)).2 }) session
      { c with bodies := c.bodies.insert streamId body' } output staging limit (fun _ => rfl)
        hstaged
      streamId (framed (reply.granted is)).1 _ body' t (Finmap.lookup_insert _) hallowed (by omega)
      hcopied hfull
    have htaken' : E.step _ (driving host session _ (.direct _ streamId _ _)) = _ :=
      Engine.step_callback rfl hrun'
    rw [Engine.next_written rfl, Finmap.insert_insert] at htaken'
    have hfits' : (staging ++ ((framed (reply.granted is)).1.val ++ t.copied)).length
        + (within (spend limit (min length body.queuedSize + 9)) rest).length
          ≤ host.pointerWidth.ssizeMax := by
      rw [List.length_append, hsize]
      omega
    have hwritten : Delivers E host session (.direct (framed (reply.granted is)).2 streamId
          (framed (reply.granted is)).1 _) { c with bodies := c.bodies.insert streamId body' }
            output
        staging limit _ s' c' :=
      .further htaken' rfl (by rw [hsize]) hallowed' (hfurther _ _ _ hstaged' hfits')
    exact .silently htaken hwritten
  · obtain ⟨t', hcopy, -⟩ := hbody.sound.copyLoop length c.queuedBodySize
    have hpaths := hread.copyLoop_eq hbody.sound hbody.short c.queuedBodySize
    rw [hcopy, hcopied] at hpaths
    obtain rfl : t = t'.reflag body' := (Prod.mk.inj hpaths).2
    have hcompact : (t'.reflag body').body.compact = t'.body.compact.reflag body' :=
      compact_reflag t'.body
    rw [hcompact] at hemits hfurther
    have hrun := hread'.run_copied host (fun _ => rfl) hbody.sound hbody.short
      (allowance_ne_zero hspent) hwhole
      hcopy
    have htaken : E.step _ (driving host session _ (.reading s streamId length deferred framed))
      = _ :=
      Engine.step_callback rfl hrun
    rw [Engine.next_granted (by exact hcode), if_neg Bool.false_ne_true] at htaken
    -- the frame is in the engine's buffer, and is offered from there
    have hleft : (framed (reply.granted is)).1.val ++ (t'.reflag body').copied ≠ [] :=
      List.ne_nil_of_length_pos (by omega)
    have hoffered : Delivers E host session (.ready {
          state := (framed (reply.granted is)).2
          left := (framed (reply.granted is)).1.val ++ (t'.reflag body').copied }) _ output staging
        limit _ s' c' :=
      delivers_offered hstaged (hc.insert (hcompact ▸ hmade.copied hcopied) _ _)
        (Engine.label_left hleft) (Engine.next_left hleft) ⟨rest, rfl, hemits⟩ hemits hfits hfurther
    exact .silently htaken hoffered

end Data

/-- **What the engine emits is delivered** under any limit. -/
theorem Engine.Emits.delivers (hemits : E.Emits host session s c total s' c')
    (hc : c.Drivable host session) (hstaged : staged output = staging)
    (hfits : staging.length + (within limit total).length ≤ host.pointerWidth.ssizeMax) :
    Delivers E host session (.ready { state := s }) c output staging limit total s' c' := by
  induction hemits generalizing output staging limit with
  | done hmove hresult => exact delivers_done hstaged hc hmove hresult
  | @made s _ _ c _ _ _ _ first further ih =>
    have hc₁ := first.drivable hc
    have hmade := Engine.Emits.made first further
    cases first with
    | @reported callback _ reply w move ran going =>
      have hunseeing := unseeing_report callback.property session output staging.length
        (allowance limit) (E.lasting { state := s }) ⟨host, c, []⟩
      rw [ran] at hunseeing
      have htaken : E.step _ (driving host session _ _) = _ :=
        Engine.step_callback (Engine.label_report move) hunseeing
      rw [Engine.next_report move, if_neg going] at htaken
      exact .silently htaken (ih hc₁ hstaged hfits)
    | framed move =>
      exact delivers_offered hstaged hc (Engine.label_frame move) (Engine.next_frame move)
        ⟨_, rfl, hmade⟩ further hfits fun _ _ _ h h' => ih hc₁ h h'
    | deferred move read empty =>
      refine delivers_sized move ?_
      by_cases hspent : limit = some 0
      · rw [hspent]
        exact delivers_paused hstaged hc hmade
      · exact delivers_deferred hc hspent read empty (ih hc₁ hstaged hfits)
    | sent move read given copied full =>
      refine delivers_sized move ?_
      by_cases hspent : limit = some 0
      · rw [hspent]
        exact delivers_paused hstaged hc hmade
      · exact delivers_sent hstaged hc hspent read given copied full further hfits
          fun _ _ _ h h' => ih hc₁ h h'

/-- So it is where the engine rests inside of a frame. -/
theorem delivers_cursor (hemits : E.Emits host session cursor.state c rest s' c')
    (hc : c.Drivable host session) (hstaged : staged output = staging)
    (hfits : staging.length + (within limit (cursor.left ++ rest)).length
      ≤ host.pointerWidth.ssizeMax) :
    Delivers E host session (.ready cursor) c output staging limit (cursor.left ++ rest) s' c' := by
  obtain ⟨state, left⟩ := cursor
  by_cases hleft : left = []
  · subst hleft
    exact hemits.delivers hc hstaged hfits
  · exact delivers_offered hstaged hc (Engine.label_left hleft) (Engine.next_left hleft)
      ⟨rest, rfl, hemits⟩ hemits hfits fun _ _ _ h h' => hemits.delivers hc h h'

end Limited

end Ngh2
