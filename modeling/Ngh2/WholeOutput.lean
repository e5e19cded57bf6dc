import Ngh2.Emissions
import Ngh2.StagingBuffer

/-!
# A drive without a limit

The converse of what `Emissions` says: where a drive without a limit returned
bytes, the engine emitted something (`Engine.Drives.emits`), and there was room
for it. A drive that returned took no step that failed, since a callback that
failed ends it, and so it would have taken the same steps where every allocation
succeeds (`Engine.Drives.lasting`); and those are determined by the engine
(`Engine.Drives.unique`).
-/

namespace Ngh2

open Effect Nghttp2

section Engines

variable {S : Type} {E : Engine S} {host : Host} {session : Option SessionId}
  {Memory : (Alloc → Bool) → Prop} {memory : Alloc → Bool} {stage : Stage S} {cursor : Cursor S}
  {c : Connection} {d d' d'' : Duo S} {w w' : Bytes} {n n' : Nat}

/-- **What happens next**: a callback, and the engine stops where it fails, or
the return. -/
theorem Engine.label_cases (E : Engine S) (stage : Stage S) :
    (∃ cb cursor, cb.isOutbound = true ∧
      (∀ memory, E.label memory stage = .callback cb (E.env cursor memory)) ∧
      ∀ reply issued, reply.code = errCallbackFailure →
        ∃ cursor', E.next stage reply issued = .stopped errCallbackFailure cursor') ∨
    ∃ result cursor, ∀ memory, E.label memory stage = .ret result (E.env cursor memory) := by
  have hoffered (cursor : Cursor S) (data : Bytes) (sent : S) {code : Int}
      (h : code = errCallbackFailure) :
      Stage.offered cursor data sent code = .stopped errCallbackFailure cursor := by
    subst h
    rfl
  rcases stage with ⟨s, left⟩ | ⟨s, streamId, length, deferred, framed⟩ |
    ⟨s, streamId, header, length⟩ | ⟨result, cursor⟩
  · by_cases hleft : left = []
    · subst hleft
      cases hmove : E.move s with
      | done result => exact .inr ⟨result, _, fun _ => Engine.label_done hmove⟩
      | report callback reported =>
        refine .inl ⟨callback.val, _, ?_, fun _ => Engine.label_report hmove, fun reply issued h =>
          ?_⟩
        · have hreport := callback.property
          unfold Callback.isOutbound
          split <;> first | rfl | exact hreport
        · exact ⟨_, by rw [Engine.next_report hmove, if_pos h]⟩
      | frame bytes sent =>
        refine .inl ⟨_, _, rfl, fun _ => Engine.label_frame hmove, fun reply issued h => ?_⟩
        exact ⟨_, by rw [Engine.next_frame hmove, hoffered _ _ _ h]⟩
      | data =>
        refine .inl ⟨_, _, rfl, fun _ => Engine.label_data hmove, fun reply issued h => ?_⟩
        have hneg : reply.code < 0 := h ▸ (by decide)
        exact ⟨_, by rw [Engine.next_data hmove, if_pos hneg]⟩
    · refine .inl ⟨_, _, rfl, fun _ => Engine.label_left hleft, fun reply issued h => ?_⟩
      exact ⟨_, by rw [Engine.next_left hleft, hoffered _ _ _ h]⟩
  · refine .inl ⟨.readBody streamId length, _, rfl, fun _ => rfl,
      fun reply issued h => ⟨{ state := s }, ?_⟩⟩
    simp [Engine.next, h, errCallbackFailure, errPause, errDeferred]
  · refine .inl ⟨.sendBody streamId 0 header length, _, rfl, fun _ => rfl,
      fun reply issued h => ⟨{ state := s }, ?_⟩⟩
    simp [Engine.next, h, errCallbackFailure]
  · exact .inr ⟨result, cursor, fun _ => rfl⟩

/-- A callback that failed makes the engine stop. -/
theorem Engine.next_failed {cb : Callback} {env : Env} {reply : Reply}
    (hlabel : E.label memory stage = .callback cb env) (hcode : reply.code = errCallbackFailure)
    (issued : List Issued) :
    ∃ cursor', E.next stage reply issued = .stopped errCallbackFailure cursor' := by
  rcases E.label_cases stage with ⟨-, -, -, -, hfailed⟩ | ⟨result, cursor, hret⟩
  · exact hfailed reply issued hcode
  · exact absurd ((hret memory).symm.trans hlabel) (by simp)

/-! ## The steps of a drive -/

/-- A callback comes to its end. -/
theorem replied_run (host : Host) (env : Env) (session : Option SessionId) (c : Connection)
    (cb : Callback) :
    ∃ reply v, (cb.body session).run env ⟨host, c, []⟩ = (.ok reply, v) ∧
      Called host env session c cb (reply, v) := by
  have hreplied := replied host env session c cb
  generalize (cb.body session).run env ⟨host, c, []⟩ = p at hreplied
  cases hreplied with
  | intro called => exact ⟨_, _, rfl, called⟩

/-- A step that is a callback gives a reply. -/
theorem Engine.taken_callback {cb : Callback} {o : Outcome}
    (hlabel : E.label memory stage = .callback cb (E.env cursor memory))
    (htaken : E.step memory (driving host session c stage) = some (o, d')) :
    ∃ reply v, (cb.body session).run (E.env cursor memory) ⟨host, c, []⟩ = (.ok reply, v) ∧
      o = ⟨.replied reply, v.issued⟩ ∧
      d' = driving host session v.conn (E.next stage reply v.issued) := by
  obtain ⟨reply, v, hrun, -⟩ := replied_run host (E.env cursor memory) session c cb
  rw [Engine.step_callback hlabel hrun] at htaken
  obtain ⟨rfl, rfl⟩ := Prod.mk.inj (Option.some_inj.mp htaken)
  exact ⟨reply, v, hrun, rfl, rfl⟩

/-- A step that is the return raises, or the result was not negative. -/
theorem Engine.taken_return {result : Int} {o : Outcome}
    (hlabel : E.label memory stage = .ret result (E.env cursor memory))
    (htaken : E.step memory (driving host session c stage) = some (o, d')) :
    (∃ e, o.response = .raised e) ∨ ∃ x v, 0 ≤ result ∧
      (finishSend result).run (E.env cursor memory) ⟨host, c, []⟩ = (.ok x, v) ∧
      o = ⟨.returned x, v.issued⟩ ∧ d' = ⟨⟨host, v.conn, none⟩, stage.resting⟩ := by
  rcases hrun : (finishSend result).run (E.env cursor memory) ⟨host, c, []⟩ with ⟨e | x, v⟩
  · refine .inl ⟨e, ?_⟩
    have hstep : E.step memory (driving host session c stage)
        = ((driving host session c stage).machine.step (E.label memory stage)).map _ := rfl
    rw [hlabel] at hstep
    rw [hstep] at htaken
    obtain ⟨q, hq, heq⟩ := Option.map_eq_some_iff.mp htaken
    have hafter : some (Machine.afterReturn ⟨host, c, some (.send, session)⟩
        ((finishSend result).run (E.env cursor memory) ⟨host, c, []⟩)) = some q := hq
    rw [hrun] at hafter
    rw [← (Prod.mk.inj heq).1, ← Option.some_inj.mp hafter]
    rfl
  · rw [Engine.step_return hlabel hrun] at htaken
    obtain ⟨rfl, rfl⟩ := Prod.mk.inj (Option.some_inj.mp htaken)
    refine .inr ⟨x, v, ?_, rfl, rfl, rfl⟩
    have hreturned := returned_finishSend host (E.env cursor memory) c result
    rw [hrun] at hreturned
    cases hreturned <;> assumption

/-- A drive that is at the return, and returned, did not fail. -/
theorem Engine.Drives.nonnegative {result : Int}
    (h : E.Drives Memory n (driving host session c stage) w d')
    (hlabel : ∀ memory, E.label memory stage = .ret result (E.env cursor memory)) : 0 ≤ result := by
  cases h with
  | returned affords taken =>
    rcases Engine.taken_return (hlabel _) taken with ⟨e, he⟩ | ⟨x, v, hresult, -⟩
    · exact absurd he (by simp)
    · exact hresult
  | further affords taken =>
    rcases Engine.taken_return (hlabel _) taken with ⟨e, he⟩ | ⟨x, v, hresult, -⟩
    · exact absurd he (by simp)
    · exact hresult

/-- After a callback that failed, no drive returns. -/
theorem Engine.Drives.going {cb : Callback} {env : Env} {reply : Reply} {is : List Issued}
    (h : E.Drives Memory n (driving host session c (E.next stage reply is)) w d')
    (hlabel : E.label memory stage = .callback cb env) : reply.code ≠ errCallbackFailure := by
  intro hcode
  obtain ⟨cursor', hnext⟩ := Engine.next_failed hlabel hcode is
  rw [hnext] at h
  exact absurd (h.nonnegative fun _ => rfl) (by decide)

/-- **Where allocations succeed, the engine determines the drive.** -/
theorem Engine.Drives.unique (h : E.Drives Lasting n d w d') (h' : E.Drives Lasting n' d w' d'') :
    w = w' ∧ d' = d'' := by
  induction h generalizing n' with
  | returned affords taken =>
    obtain rfl := affords
    cases h' with
    | returned affords' taken' =>
      obtain rfl := affords'
      obtain ⟨ho, rfl⟩ := Prod.mk.inj (Option.some_inj.mp (taken.symm.trans taken'))
      exact ⟨by simpa using congrArg Outcome.response ho, rfl⟩
    | further affords' taken' =>
      obtain rfl := affords'
      obtain ⟨ho, -⟩ := Prod.mk.inj (Option.some_inj.mp (taken.symm.trans taken'))
      exact absurd (congrArg Outcome.response ho) (by simp)
  | further affords taken rest ih =>
    obtain rfl := affords
    cases h' with
    | returned affords' taken' =>
      obtain rfl := affords'
      obtain ⟨ho, -⟩ := Prod.mk.inj (Option.some_inj.mp (taken.symm.trans taken'))
      exact absurd (congrArg Outcome.response ho) (by simp)
    | further affords' taken' rest' =>
      obtain rfl := affords'
      obtain ⟨-, rfl⟩ := Prod.mk.inj (Option.some_inj.mp (taken.symm.trans taken'))
      exact ih rest'

/-- **A drive that returned** would have returned the same where allocations
succeed. -/
theorem Engine.Drives.lasting (h : E.Drives Memory n (driving host session c stage) w d') :
    E.Drives Lasting n (driving host session c stage) w d' := by
  generalize hd : driving host session c stage = d at h ⊢
  induction h generalizing c stage with
  | @returned memory d d' w issued affords taken =>
    subst hd
    rcases E.label_cases stage with ⟨cb, cursor, -, hlabel, -⟩ | ⟨result, cursor, hlabel⟩
    · obtain ⟨reply, v, -, ho, -⟩ := Engine.taken_callback (hlabel memory) taken
      exact absurd (congrArg Outcome.response ho) (by simp)
    · rcases Engine.taken_return (hlabel memory) taken with ⟨e, he⟩ | ⟨x, v, -, hrun, ho, hd⟩
      · exact absurd he (by simp)
      · have hstep : E.step _ (driving host session _ _) = _ :=
          Engine.step_return (hlabel fun _ => true) (lasts_finishSend result _ _ _ _ hrun)
        rw [← hd, ← ho] at hstep
        exact .returned rfl hstep
  | @further memory d d₁ d' w n reply issued affords taken rest ih =>
    subst hd
    rcases E.label_cases stage with ⟨cb, cursor, hcb, hlabel, -⟩ | ⟨result, cursor, hlabel⟩
    · obtain ⟨reply', v, hrun, ho, rfl⟩ := Engine.taken_callback (hlabel memory) taken
      have hgoing := rest.going (hlabel memory)
      have hstep := Engine.step_callback (hlabel fun _ => true) (lasts_reply hcb hrun hgoing)
      rw [← ho] at hstep
      exact .further rfl hstep (ih rfl)
    · rcases Engine.taken_return (hlabel memory) taken with ⟨e, he⟩ | ⟨x, v, -, -, ho, -⟩
      · exact absurd he (by simp)
      · exact absurd (congrArg Outcome.response ho) (by simp)

/-- **A drive that is at a callback** goes on after it, where it did not fail. -/
theorem Engine.Drives.callback {cb : Callback}
    (h : E.Drives Lasting n (driving host session c stage) w d')
    (hlabel : E.label (fun _ => true) stage = .callback cb (E.lasting cursor)) :
    ∃ reply v, (cb.body session).run (E.lasting cursor) ⟨host, c, []⟩ = (.ok reply, v) ∧
      Called host (E.lasting cursor) session c cb (reply, v) ∧ reply.code ≠ errCallbackFailure ∧
      ∃ n' < n, E.Drives Lasting n' (driving host session v.conn (E.next stage reply v.issued)) w
        d' := by
  obtain ⟨reply, v, hrun, hcalled⟩ := replied_run host (E.lasting cursor) session c cb
  have hstep : E.step _ (driving host session _ _) = _ := Engine.step_callback hlabel hrun
  refine ⟨reply, v, hrun, hcalled, ?_⟩
  cases h with
  | returned affords taken =>
    obtain rfl := affords
    have ho := (Prod.mk.inj (Option.some_inj.mp (taken.symm.trans hstep))).1
    exact absurd (congrArg Outcome.response ho) (by simp)
  | @further _ _ _ _ _ n' _ _ affords taken rest =>
    obtain rfl := affords
    obtain ⟨-, rfl⟩ := Prod.mk.inj (Option.some_inj.mp (taken.symm.trans hstep))
    exact ⟨rest.going hlabel, n', n'.lt_succ_self, rest⟩

end Engines

/-! ## Without a limit -/

/-- **A staging buffer holds bytes**, and both can be addressed. -/
structure Holds (width : PointerWidth) (output : Option Buffer) (staging : Bytes) : Prop where
  staged : staged output = staging
  room : room output ≤ width.ssizeMax
  fits : staging.length ≤ width.ssizeMax

section Unlimited

variable {S : Type} {E : Engine S} {host : Host} {session : Option SessionId} {stage : Stage S}
  {cursor : Cursor S} {c : Connection} {d' : Duo S} {w : Bytes} {n : Nat} {output : Option Buffer}
  {staging data : Bytes} {s sent : S}

/-- The bytes that were offered were staged. -/
theorem Engine.Drives.offered (hheld : Holds host.pointerWidth output staging)
    (h : E.Drives Lasting n
      (driving host session (c.withOutput output staging.length (allowance none)) (.ready cursor))
      w d')
    (hlabel : E.label (fun _ => true) (.ready cursor)
      = .callback (.collectOutput data) (E.lasting cursor))
    (hnext : ∀ reply is, E.next (.ready cursor) reply is = .offered cursor data sent reply.code) :
    ∃ n' < n, ∃ output', Holds host.pointerWidth output' (staging ++ data) ∧
      E.Drives Lasting n' (driving host session
        (c.withOutput output' (staging ++ data).length (allowance none)) (.ready { state := sent }))
        w d' := by
  obtain ⟨reply, v, -, hcalled, hgoing, n', hn', hrest⟩ := h.callback hlabel
  rw [hnext] at hrest
  cases hcalled with
  | failed => exact absurd rfl hgoing
  | blocked spent =>
    have hunlimited : allowance none ≠ 0 := by decide
    exact absurd spent hunlimited
  | headerBlock kind => simp at kind
  | @collected _ accepted output' unspent amount written fits addressable =>
    obtain rfl : data.length = accepted := amount
    rw [Stage.offered_accepted, List.drop_length] at hrest
    have hroom := addressable ⟨hheld.fits, hheld.room⟩
    have hsize : (staging ++ data).length = staging.length + data.length := List.length_append
    have happend : _ = Ngh2.staged output ++ data.take data.length :=
      staged_collected (congrArg List.length hheld.staged) written fits
    rw [List.take_length, hheld.staged] at happend
    refine ⟨n', hn', output'.map (·.memcpy staging.length data), ⟨happend, ?_, ?_⟩, ?_⟩
    · rw [room_memcpy]
      exact hroom
    · rw [hsize]
      exact le_trans fits hroom
    · rw [List.take_length] at hrest
      rw [hsize]
      exact hrest

/-- The engine was told how long a DATA frame may be, and its drive returned. -/
theorem Engine.Drives.read {streamId : StreamId} {length : Nat} {deferred : S}
    {framed : Granted → FrameHeader × S}
    (h : E.Drives Lasting n (driving host session
      (c.withOutput output staging.length (allowance none))
      (.reading s streamId length deferred framed)) w d') :
    ∃ body body' reply is,
      WholeRead (E.lasting { state := s }) session c streamId length body reply is body' ∧
      ∃ n' < n, E.Drives Lasting n' (driving host session
        (Connection.withOutput { c with bodies := c.bodies.insert streamId body' } output
          staging.length (allowance none))
        (E.next (.reading s streamId length deferred framed) reply is)) w d' := by
  obtain ⟨reply, v, -, hcalled, hgoing, n', hn', hrest⟩ := h.callback rfl
  have hunlimited : allowance none < 0 := by decide
  cases hcalled with
  | failed => exact absurd rfl hgoing
  | paused spent => exact absurd spent hunlimited.ne
  | headerBlock kind => simp at kind
  | @readWhole _ _ body body' _ _ unspent opened whole finished =>
    exact ⟨body, body', _, _, ⟨opened, finished⟩, n', hn', hrest⟩
  | readCopied unspent opened limited => exact absurd (.inl hunlimited) limited

/-- The binding was to write a DATA frame, and the drive returned. -/
theorem Engine.Drives.written {streamId : StreamId} {header : FrameHeader} {length : Nat}
    {body : BodySource} (hheld : Holds host.pointerWidth output staging)
    (hopened : c.bodies.lookup streamId = some body)
    (h : E.Drives Lasting n (driving host session
      (c.withOutput output staging.length (allowance none)) (.direct sent streamId header length))
      w d') :
    ∃ t, copyLoop host.pointerWidth length (body.chunks.length - body.head)
        { body, queued := c.queuedBodySize } = (.ok (), t) ∧ t.copied.length = length ∧
      ∃ n' < n, ∃ output', Holds host.pointerWidth output' (staging ++ (header.val ++ t.copied)) ∧
        E.Drives Lasting n' (driving host session (Connection.withOutput { c with
            bodies := c.bodies.insert streamId t.body.compact, queuedBodySize := t.queued } output'
            (staging ++ (header.val ++ t.copied)).length (allowance none))
              (.ready { state := sent }))
          w d' := by
  obtain ⟨reply, v, -, hcalled, hgoing, n', hn', hrest⟩ := h.callback rfl
  cases hcalled with
  | failed => exact absurd rfl hgoing
  | headerBlock kind => simp at kind
  | @bodySent _ _ _ body' t output' limit opened written fits copied full addressable =>
    obtain rfl : body' = body := Option.some_inj.mp (opened.symm.trans hopened)
    rw [Engine.next_written rfl] at hrest
    have hroom := addressable ⟨hheld.fits, hheld.room⟩
    have hsize : (staging ++ (header.val ++ t.copied)).length = staging.length + (length + 9) := by
      rw [List.length_append, List.length_append, header.property, full, Nat.add_comm length 9]
    have happend : _ = Ngh2.staged output ++ header.val ++ t.copied :=
      staged_bodySent (congrArg List.length hheld.staged) written (full.symm ▸ fits)
    rw [hheld.staged, List.append_assoc] at happend
    refine ⟨t, copied, full, n', hn', _, ⟨happend, ?_, ?_⟩, ?_⟩
    · cases output' with
      | none => exact hroom
      | some buffer => exact hroom
    · rw [hsize]
      exact le_trans fits hroom
    · rw [hsize]
      exact hrest

/-- The engine reported something, and the drive returned. -/
theorem Engine.Drives.reported {callback : Report} {reported : Int → List Issued → S}
    (hmove : E.move s = .report callback reported)
    (h : E.Drives Lasting n (driving host session
      (c.withOutput output staging.length (allowance none)) (.ready { state := s })) w d') :
    ∃ sent c₁, E.Makes host session s c [] sent c₁ ∧
      ∃ n' < n, E.Drives Lasting n' (driving host session
        (c₁.withOutput output staging.length (allowance none)) (.ready { state := sent })) w
          d' := by
  obtain ⟨reply, v, hrun, -, hgoing, n', hn', hrest⟩ := h.callback (Engine.label_report hmove)
  have hunseeing := unseeing_report callback.property session output staging.length (allowance none)
    (E.lasting { state := s }) ⟨host, c, []⟩
  obtain ⟨hreply, rfl⟩ := Prod.mk.inj (hunseeing.symm.trans hrun)
  rw [Engine.next_report hmove, if_neg hgoing] at hrest
  exact ⟨_, _, .reported hmove (Prod.ext hreply rfl) hgoing, n', hn', hrest⟩

/-- **A drive that returned emitted something**, and there was room for it. -/
theorem Engine.Drives.emits (hheld : Holds host.pointerWidth output staging)
    (hc : c.Drivable host session)
    (h : E.Drives Lasting n
      (driving host session (c.withOutput output staging.length (allowance none)) (.ready cursor))
      w d') :
    ∃ rest s' c', E.Emits host session cursor.state c rest s' c' ∧
      staging.length + (cursor.left ++ rest).length ≤ host.pointerWidth.ssizeMax := by
  induction n using Nat.strong_induction_on generalizing cursor c output staging with
  | _ n ih =>
    obtain ⟨s, left⟩ := cursor
    by_cases hleft : left = []
    · subst hleft
      -- the bytes a move emits, and those after it
      have hmade {data : Bytes} {sent : S} {c₁ : Connection} {output' : Option Buffer} {n' : Nat}
          (hmakes : E.Makes host session s c data sent c₁) (hn' : n' < n)
          (hheld' : Holds host.pointerWidth output' (staging ++ data))
          (hrest : E.Drives Lasting n' (driving host session (c₁.withOutput output'
            (staging ++ data).length (allowance none)) (.ready { state := sent })) w d') :
          ∃ rest s' c', E.Emits host session s c rest s' c' ∧
            staging.length + ([] ++ rest).length ≤ host.pointerWidth.ssizeMax := by
        obtain ⟨rest, s', c', hemits, hfits⟩ := ih n' hn' hheld' (hmakes.drivable hc) hrest
        refine ⟨data ++ rest, s', c', .made hmakes hemits, ?_⟩
        simpa only [List.nil_append, List.length_append, Nat.add_assoc] using hfits
      have hquiet {sent : S} {c₁ : Connection} {n' : Nat}
          (hmakes : E.Makes host session s c [] sent c₁) (hn' : n' < n)
          (hrest : E.Drives Lasting n' (driving host session (c₁.withOutput output
            staging.length (allowance none)) (.ready { state := sent })) w d') :
          ∃ rest s' c', E.Emits host session s c rest s' c' ∧
            staging.length + ([] ++ rest).length ≤ host.pointerWidth.ssizeMax := by
        rw [← List.append_nil staging] at hheld hrest
        exact hmade hmakes hn' hheld (by rwa [List.append_nil] at hrest ⊢)
      cases hmove : E.move s with
      | done result =>
        refine ⟨[], s, c, .done hmove (h.nonnegative fun _ => Engine.label_done hmove), ?_⟩
        simpa using hheld.fits
      | report callback reported =>
        obtain ⟨sent, c₁, hmakes, n', hn', hrest⟩ := h.reported hmove
        exact hquiet hmakes hn' hrest
      | frame bytes sent =>
        obtain ⟨n', hn', output', hheld', hrest⟩ :=
          h.offered hheld (Engine.label_frame hmove) (Engine.next_frame hmove)
        exact hmade (.framed hmove) hn' hheld' hrest
      | data streamId sessionWindow streamWindow remoteMaxFrameSize ceiling deferred framed =>
        obtain ⟨reply, v, hrun, -, -, n', hn', hrest⟩ := h.callback (Engine.label_data hmove)
        rw [run_proposed] at hrun
        obtain ⟨hreply, rfl⟩ := Prod.mk.inj hrun
        obtain rfl := Except.ok.inj hreply
        have hproposed : ¬ ((c.proposed streamId remoteMaxFrameSize : Nat) : Int) < 0 := by omega
        rw [Engine.next_data hmove, if_neg hproposed] at hrest
        obtain ⟨body, body', reply, is, hread, n₁, hn₁, hrest₁⟩ := hrest.read
        by_cases hempty : reply.code = errDeferred
        · rw [Engine.next_deferred hempty] at hrest₁
          exact hquiet (.deferred hmove hread hempty) (hn₁.trans hn') hrest₁
        · have hcode := hread.code hempty
          have hlength : reply.code.toNat = min _ body.queuedSize :=
            (congrArg Int.toNat hcode).trans (Int.toNat_natCast _)
          rw [Engine.next_granted hcode, hread.noCopy, if_pos rfl] at hrest₁
          obtain ⟨t, hcopied, hfull, n₂, hn₂, output', hheld', hrest₂⟩ :=
            hrest₁.written hheld (Finmap.lookup_insert _)
          rw [Finmap.insert_insert] at hrest₂
          rw [← hlength] at hcopied hfull
          exact hmade (.sent hmove hread hempty hcopied hfull) (hn₂.trans (hn₁.trans hn')) hheld'
            hrest₂
    · obtain ⟨n', hn', output', hheld', hrest⟩ :=
        h.offered hheld (Engine.label_left hleft) (Engine.next_left hleft)
      obtain ⟨rest, s', c', hemits, hfits⟩ := ih n' hn' hheld' hc hrest
      refine ⟨rest, s', c', hemits, ?_⟩
      simpa only [List.nil_append, List.length_append, Nat.add_assoc] using hfits

end Unlimited

end Ngh2
