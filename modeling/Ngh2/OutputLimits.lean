import Ngh2.Counted
import Ngh2.FrameSizing
import Ngh2.WholeOutput

/-!
# Output limits are transparent

`data_to_send` takes a limit, and with one it stops the engine inside of what
it would have sent: between two frames, inside of a frame, or before a DATA
frame, which then takes another path. This module puts the calls together. What
they return under any limits, one after the other, are the pieces of what one
call without a limit returns, and the engine and the connection end the same;
and a DATA frame is the same on both paths (`output_limits_transparent`).

The engine is any deterministic one (`DrivenEngine`), and may rest anywhere.
Nothing is said of a call that raises: one whose output is too large for a
`Py_ssize_t` does so, where smaller pieces would not.

One path goes by the counter of a body and the other by its chunks. Where the
counter has wrapped they part, and what is sent depends on the limit
(`output_limits_transparent_mebibytes`).
-/

namespace Ngh2

open Effect Nghttp2

/-! ## Calls -/

section Calls

variable {S : Type} {E : Engine S} {host : Host} {session : Option SessionId}
  {Memory : (Alloc → Bool) → Prop} {cursor cursor' cursor'' : Cursor S} {c c' : Connection}
  {m m' m'' : Machine} {w w' : Bytes} {ws ws' : List Bytes} {amount : Option Nat}
  {amounts : List (Option Nat)} {rest : Bytes} {s' : S}

/-- No limit is not a limit of zero. -/
theorem none_ne_zero : (none : Option Nat) ≠ some 0 := (Option.some_ne_none 0).symm

/-- **A connection that can be driven**, whatever is queued on it. -/
structure Connection.Running (c : Connection) (session : Option SessionId) : Prop where
  live : c.failed = false
  active : c.active = true
  clean : c.callbackError = none
  session : c.session = session

theorem Connection.Drivable.running (hc : c.Drivable host session) : c.Running session :=
  ⟨hc.live, hc.active, hc.clean, hc.session⟩

/-- **`data_to_send` enters the engine** on a connection that can be driven. -/
theorem step_dataToSend (hc : c.Running session) (hamount : amount ≠ some 0) (size : Nat)
    (env : Env) :
    (⟨host, c.withOutput none size 0, none⟩ : Machine).step (.request (.dataToSend amount) env)
      = some (⟨.entered, [.call session .sessionSend]⟩,
          ⟨host, c.withOutput none 0 (allowance amount), some (.send, session)⟩) := by
  have hrun : (dataToSend amount).run env ⟨host, c.withOutput none size 0, []⟩
      = (.ok (.enter .send), ⟨host, c.withOutput none 0 (allowance amount),
          [.call session .sessionSend]⟩) := by
    rw [← hc.session]
    cases amount with
    | none => simp [dataToSend, hc.live, hc.active, hc.clean, allowance, Connection.withOutput]
    | some n =>
      have hn : n ≠ 0 := fun h => hamount (congrArg some h)
      simp [dataToSend, hc.live, hc.active, hc.clean, hn, allowance, Connection.withOutput]
  show some (Machine.afterRequest _ ((dataToSend amount).run env ⟨host, _, []⟩)) = _
  rw [hrun]
  show some ((⟨.entered, _⟩ : Outcome), (⟨host, _, some (.send, c.session)⟩ : Machine)) = _
  rw [hc.session]

/-- A call is made outside the engine. -/
theorem Engine.Gives.idle (h : E.Gives Memory amount m cursor w m' cursor') : m.drive = none := by
  cases h with
  | atOnce affords taken => exact (Machine.request_taken taken).1
  | driven affords taken => exact (Machine.request_taken taken).1

/-- A call that returned entered the engine, and the engine was driven. -/
theorem Engine.Gives.driven_of (hc : c.Running session) (hamount : amount ≠ some 0)
    {size : Nat}
    (h : E.Gives Memory amount ⟨host, c.withOutput none size 0, none⟩ cursor w m' cursor') :
    ∃ n, E.Drives Memory n
      (driving host session (c.withOutput none 0 (allowance amount)) (.ready cursor)) w
      ⟨m', .ready cursor'⟩ := by
  cases h with
  | atOnce affords taken =>
    rw [step_dataToSend hc hamount] at taken
    have ho := (Prod.mk.inj (Option.some_inj.mp taken)).1
    exact absurd (congrArg Outcome.response ho) (by simp)
  | driven affords taken drives =>
    rw [step_dataToSend hc hamount] at taken
    obtain ⟨-, rfl⟩ := Prod.mk.inj (Option.some_inj.mp taken)
    exact ⟨_, drives⟩

/-- **Where allocations succeed, the engine determines what a call returns.** -/
theorem Engine.Gives.unique (hc : c.Running session) (hamount : amount ≠ some 0) {size : Nat}
    (h : E.Gives Lasting amount ⟨host, c.withOutput none size 0, none⟩ cursor w m' cursor')
    (h' : E.Gives Memory amount ⟨host, c.withOutput none size 0, none⟩ cursor w' m'' cursor'') :
    w = w' ∧ m' = m'' ∧ cursor' = cursor'' := by
  obtain ⟨n, hdrives⟩ := h.driven_of hc hamount
  obtain ⟨n', hdrives'⟩ := h'.driven_of hc hamount
  obtain ⟨rfl, heq⟩ := hdrives.unique hdrives'.lasting
  obtain ⟨rfl, hready⟩ := Duo.mk.inj heq
  exact ⟨rfl, rfl, Stage.ready.inj hready⟩

/-- **A call returns what its limit allows** of what the engine emits, and the
rest will be emitted where it leaves the engine. -/
theorem Engine.Emits.gives (hemits : E.Emits host session cursor.state c rest s' c')
    (hc : c.Drivable host session) (hamount : amount ≠ some 0)
    (hfits : (cursor.left ++ rest).length ≤ host.pointerWidth.ssizeMax) (size : Nat) :
    ∃ cursor₁ c₁ rest₁ size₁,
      E.Gives Lasting amount ⟨host, c.withOutput none size 0, none⟩ cursor
        (within amount (cursor.left ++ rest))
        ⟨host, (c₁.settled (E.lasting cursor₁)).withOutput none size₁ 0, none⟩ cursor₁ ∧
      c₁.Drivable host session ∧ cursor₁.left ++ rest₁ = beyond amount (cursor.left ++ rest) ∧
      E.Emits host session cursor₁.state c₁ rest₁ s' c' ∧
      ((∀ n, amount = some n → (cursor.left ++ rest).length < n) →
        cursor₁ = { state := s' } ∧ c₁ = c') := by
  have hstaging : ([] : Bytes).length + (within amount (cursor.left ++ rest)).length
      ≤ host.pointerWidth.ssizeMax := by
    rw [List.length_nil, Nat.zero_add]
    exact (length_within_le_length _ _).trans hfits
  obtain ⟨n, cursor₁, c₁, rest₁, hdrives, hdrivable, hrest, hemits₁, hdone⟩ :=
    delivers_cursor hemits hc (show staged none = [] from rfl) hstaging
  exact ⟨cursor₁, c₁, rest₁, _, .driven rfl (step_dataToSend hc.running hamount size _) hdrives,
    hdrivable, hrest, hemits₁, hdone⟩

/-- **A call without a limit that returned** returned what the engine emits. -/
theorem Engine.Gives.emits (hc : c.Drivable host session) {size : Nat}
    (h : E.Gives Memory none ⟨host, c.withOutput none size 0, none⟩ cursor w m' cursor') :
    ∃ rest s' c', E.Emits host session cursor.state c rest s' c' ∧
      (cursor.left ++ rest).length ≤ host.pointerWidth.ssizeMax := by
  obtain ⟨n, hdrives⟩ := h.driven_of hc.running none_ne_zero
  have hheld : Holds host.pointerWidth none [] := ⟨rfl, Nat.zero_le _, Nat.zero_le _⟩
  obtain ⟨rest, s', c', hemits, hfits⟩ := hdrives.lasting.emits hheld hc
  rw [List.length_nil, Nat.zero_add] at hfits
  exact ⟨rest, s', c', hemits, hfits⟩

end Calls

/-! ## Calls, one after the other -/

/-- **The pieces of some bytes** that calls with these limits return, and a last
one without a limit. -/
def pieces : List Nat → Bytes → List Bytes
  | [], w => [w]
  | n :: limits, w => w.take n :: pieces limits (w.drop n)

theorem pieces_flatten (limits : List Nat) (w : Bytes) : (pieces limits w).flatten = w := by
  induction limits generalizing w with
  | nil => exact List.append_nil w
  | cons n limits ih =>
    show w.take n ++ (pieces limits (w.drop n)).flatten = w
    rw [ih, List.take_append_drop]

section Sequences

variable {S : Type} {E : Engine S} {host : Host} {session : Option SessionId}
  {Memory : (Alloc → Bool) → Prop} {cursor cursor' : Cursor S} {c c' : Connection}
  {m m' : Machine} {w : Bytes} {ws : List Bytes} {limits : List Nat} {rest : Bytes} {s' : S}

/-- The end is announced once. -/
theorem Connection.settled_announced (c : Connection) (env : Env) :
    c.announced.settled env = c.announced := by
  have hclosed : ¬ c.announced.Finished env := by
    rintro ⟨-, -, hopen, -⟩
    exact absurd hopen (by simp [Connection.announced, Connection.terminate])
  rw [Connection.settled, if_neg hclosed]

/-- The engine emits nothing where it has nothing to do. -/
theorem Engine.Emits.of_done {s : S} {result : Int} (hmove : E.move s = .done result)
    (h : E.Emits host session s c rest s' c') : 0 ≤ result ∧ rest = [] ∧ s' = s ∧ c' = c := by
  cases h with
  | done hover nonnegative =>
    obtain rfl := Move.done.inj (hover.symm.trans hmove)
    exact ⟨nonnegative, rfl, rfl, rfl⟩
  | made first =>
    cases first with
    | reported move => exact absurd (move.symm.trans hmove) (by simp)
    | framed move => exact absurd (move.symm.trans hmove) (by simp)
    | deferred move => exact absurd (move.symm.trans hmove) (by simp)
    | sent move => exact absurd (move.symm.trans hmove) (by simp)

/-- **Calls with these limits return these pieces**, whatever happens to their
allocations as long as they return, and they do where allocations succeed. -/
structure Splits (E : Engine S) (amounts : List (Option Nat)) (m : Machine) (cursor : Cursor S)
    (ws : List Bytes) (m' : Machine) (cursor' : Cursor S) : Prop where
  returned : E.Outputs Lasting amounts m cursor ws m' cursor'
  unique : ∀ Memory ws' m'' cursor'', E.Outputs Memory amounts m cursor ws' m'' cursor'' →
    ws' = ws ∧ m'' = m' ∧ cursor'' = cursor'

/-- One call, and those after it. -/
theorem Splits.cons {amount : Option Nat} {amounts : List (Option Nat)} {size : Nat} {m₁ : Machine}
    {cursor₁ : Cursor S} (hc : c.Drivable host session) (hamount : amount ≠ some 0)
    (hgives : E.Gives Lasting amount ⟨host, c.withOutput none size 0, none⟩ cursor w m₁ cursor₁)
    (h : Splits E amounts m₁ cursor₁ ws m' cursor') :
    Splits E (amount :: amounts) ⟨host, c.withOutput none size 0, none⟩ cursor (w :: ws) m'
      cursor' := by
  refine ⟨.cons hgives h.returned, fun Memory ws' m'' cursor'' houtputs => ?_⟩
  cases houtputs with
  | cons first rest =>
    obtain ⟨rfl, rfl, rfl⟩ := hgives.unique hc.running hamount first
    obtain ⟨rfl, rfl, rfl⟩ := h.unique _ _ _ _ rest
    exact ⟨rfl, rfl, rfl⟩

/-- **A call in a sequence of calls**: it returns what its limit allows, and the
connection it leaves can be driven on, to the same end. -/
theorem Engine.Emits.turn (hrests : E.RestsWhenDone)
    (hemits : E.Emits host session cursor.state c rest s' c') (hc : c.Drivable host session)
    {amount : Option Nat} (hamount : amount ≠ some 0)
    (hfits : (cursor.left ++ rest).length ≤ host.pointerWidth.ssizeMax) (size : Nat) :
    ∃ cursor₁ c₁ c₂ rest₁ size₁,
      E.Gives Lasting amount ⟨host, c.withOutput none size 0, none⟩ cursor
        (within amount (cursor.left ++ rest)) ⟨host, c₁.withOutput none size₁ 0, none⟩ cursor₁ ∧
      c₁.Drivable host session ∧ cursor₁.left ++ rest₁ = beyond amount (cursor.left ++ rest) ∧
      E.Emits host session cursor₁.state c₁ rest₁ s' c₂ ∧
      c₂.settled (E.lasting { state := s' }) = c'.settled (E.lasting { state := s' }) ∧
      ((∀ n, amount = some n → (cursor.left ++ rest).length < n) →
        cursor₁ = { state := s' } ∧ c₁ = c'.settled (E.lasting { state := s' })) := by
  obtain ⟨cursor₁, c₁, rest₁, size₁, hgives, hdrivable, hrest, hemits₁, hdone⟩ :=
    hemits.gives hc hamount hfits size
  by_cases hfinished : c₁.Finished (E.lasting cursor₁)
  · -- the end was announced: the engine has nothing to do, and nothing is announced again
    obtain ⟨hleft, result, hmove⟩ := hrests cursor₁ hfinished.2.2.2.1 hfinished.2.2.2.2
    obtain ⟨hresult, rfl, rfl, rfl⟩ := hemits₁.of_done hmove
    obtain ⟨state, left⟩ := cursor₁
    obtain rfl : left = [] := hleft
    have hsettled : c'.settled (E.lasting { state }) = c'.announced := if_pos hfinished
    rw [hsettled] at hgives
    refine ⟨{ state }, c'.announced, c'.announced, [], size₁, hgives, hdrivable.announced, hrest,
      .done hmove hresult, ?_, fun _ => ⟨rfl, hsettled.symm⟩⟩
    rw [Connection.settled_announced]
    exact hsettled.symm
  · rw [Connection.settled, if_neg hfinished] at hgives
    refine ⟨cursor₁, c₁, c', rest₁, size₁, hgives, hdrivable, hrest, hemits₁, rfl, fun h => ?_⟩
    obtain ⟨rfl, rfl⟩ := hdone h
    exact ⟨rfl, (if_neg hfinished).symm⟩

/-- **Calls with limits return the pieces of what the engine emits.** -/
theorem Engine.Emits.splits (hrests : E.RestsWhenDone) (hpositive : ∀ n ∈ limits, 0 < n)
    (hemits : E.Emits host session cursor.state c rest s' c') (hc : c.Drivable host session)
    (hfits : (cursor.left ++ rest).length ≤ host.pointerWidth.ssizeMax) (size : Nat) :
    ∃ size', Splits E (limits.map some ++ [none]) ⟨host, c.withOutput none size 0, none⟩ cursor
      (pieces limits (cursor.left ++ rest))
      ⟨host, (c'.settled (E.lasting { state := s' })).withOutput none size' 0, none⟩
      { state := s' } := by
  induction limits generalizing cursor c rest c' size with
  | nil =>
    obtain ⟨cursor₁, c₁, rest₁, size₁, hgives, -, -, -, hdone⟩ :=
      hemits.gives hc none_ne_zero hfits size
    obtain ⟨rfl, rfl⟩ := hdone fun _ hnone => absurd hnone (by simp)
    refine ⟨size₁, .cons hc none_ne_zero hgives ⟨.nil, fun Memory ws' m'' cursor'' houtputs => ?_⟩⟩
    cases houtputs
    exact ⟨rfl, rfl, rfl⟩
  | cons n limits ih =>
    have hn : some n ≠ some 0 :=
      fun h => absurd (Option.some_inj.mp h) (hpositive n List.mem_cons_self).ne'
    obtain ⟨cursor₁, c₁, c₂, rest₁, size₁, hgives, hdrivable, hrest, hemits₁, hsame, -⟩ :=
      hemits.turn hrests hc hn hfits size
    have hfits₁ : (cursor₁.left ++ rest₁).length ≤ host.pointerWidth.ssizeMax :=
      hrest ▸ (length_beyond_le _ _).trans hfits
    obtain ⟨size', hsplits⟩ := ih (fun n hn => hpositive n (List.mem_cons_of_mem _ hn)) hemits₁
      hdrivable hfits₁ size₁
    rw [hrest, hsame] at hsplits
    exact ⟨size', .cons hc hn hgives hsplits⟩

end Sequences

/-! ## The same DATA frames -/

/-- A machine of whose limit so much is left; less than zero is no limit. -/
def Machine.under (m : Machine) (remaining : Int) : Machine :=
  { m with conn := { m.conn with outputRemaining := remaining } }

/-- **What is left of the limit does not matter** for the DATA frames of a body,
unless nothing is: not for the path they take, but for what they are. -/
structure SameFrames (m : Machine) (s : StreamId) (body : BodySource) : Prop where
  /-- The same length is proposed. -/
  proposed : ∀ a b sessionWindow streamWindow frameSize env oa ma ob mb,
    (m.under a).step (.callback (.dataFrameLength s sessionWindow streamWindow frameSize) env)
      = some (oa, ma) →
    (m.under b).step (.callback (.dataFrameLength s sessionWindow streamWindow frameSize) env)
      = some (ob, mb) → oa.response = ob.response
  /-- Asked for the frame, `_read_body` gives it the same length, ends the body
  with it or not, and submits the same trailers. -/
  answered : ∀ a b length env ra oa ma rb ob mb, a ≠ 0 → b ≠ 0 →
    (m.under a).step (.callback (.readBody s length) env) = some (⟨.replied ra, oa⟩, ma) →
    (m.under b).step (.callback (.readBody s length) env) = some (⟨.replied rb, ob⟩, mb) →
    ma.conn.Sound → mb.conn.Sound →
    ra.code = rb.code ∧ ra.eof = rb.eof ∧ ra.noEndStream = rb.noEndStream ∧ oa = ob
  /-- The payload is the first of the queue, whether it was copied or is left to
  be written behind the frame header. -/
  payload : ∀ a length env reply is m', a ≠ 0 →
    (m.under a).step (.callback (.readBody s length) env) = some (⟨.replied reply, is⟩, m') →
    m'.conn.Sound → reply.code ≠ errDeferred →
    (reply.noCopy = false → reply.buffer = body.queue.take reply.code.toNat) ∧
    (reply.noCopy = true → ∀ frameHeader env' o m'',
      m'.step (.callback (.sendBody s 0 frameHeader reply.code.toNat) env') = some (o, m'') →
      m''.conn.Sound → staged m''.conn.output
        = staged m'.conn.output ++ frameHeader.val ++ body.queue.take reply.code.toNat)

section Frames

variable {m : Machine} {s : StreamId} {body : BodySource} {length : Nat} {env : Env}
  {p : Outcome × Machine} {reply : Reply} {session : Option SessionId}

/-- **The two paths answer alike**, where the counter says how much there is. -/
theorem Body.answer_alike {w : PointerWidth} {b : Body} (hcounted : b.queue.length < w.modulus)
    (length : Nat) (copy copy' : Bool) :
    (b.answer w length copy).code = (b.answer w length copy').code ∧
    (b.answer w length copy).eof = (b.answer w length copy').eof ∧
    (b.answer w length copy).noEndStream = (b.answer w length copy').noEndStream := by
  unfold Body.answer
  rw [Body.available_eq hcounted copy, Body.available_eq hcounted copy']
  dsimp only
  split
  · exact ⟨rfl, rfl, rfl⟩
  · split <;> exact ⟨rfl, rfl, rfl⟩

/-- What was copied is the payload. -/
theorem Body.answer_copied {w : PointerWidth} {b : Body}
    (hgiven : (b.answer w length true).code ≠ errDeferred) :
    (b.answer w length true).buffer = b.queue.take (b.answer w length true).code.toNat := by
  have hcode : (b.answer w length true).code = (min length b.queue.length : Nat) :=
    (Body.answer_code w b length true).resolve_right hgiven
  rw [Body.answer_buffer, if_pos rfl, hcode, Int.toNat_natCast]

/-- The end of `_read_body` submits the trailers of the body, or nothing. -/
theorem FinishedRead.issued_eq {body' : BodySource} {reply' : Reply} {complete : Bool}
    {is : List Issued} (h : FinishedRead env session s body reply complete reply' is body')
    (hreply : reply.noEndStream = false) :
    is = if reply'.noEndStream then
      body.trailers.toList.map fun headers => .call session (.submitTrailer s headers) else [] := by
  cases h with
  | trailers hc ht => simp [ht]
  | _ => simp [hreply]

/-- So does `_read_body`. -/
theorem Stepped.read_issued (h : Stepped m (.callback (.readBody s length) env) p)
    (hsound : p.2.conn.Sound) (hbody : body.Sound m.host.pointerWidth)
    (hb : m.conn.bodies.lookup s = some body) (hdrive : m.drive = some (.send, session))
    (hreply : p.1.response = .replied reply) :
    p.1.issued = if reply.noEndStream then
      body.trailers.toList.map fun headers => .call session (.submitTrailer s headers) else [] := by
  cases h with
  | callback driven hc =>
    rw [Machine.afterCallback_conn] at hsound
    obtain rfl : session = _ := congrArg Prod.snd (Option.some_inj.mp (hdrive.symm.trans driven))
    obtain rfl := Response.replied.inj hreply
    cases hc with
    | failed spoiled deferred => exact absurd (deferred.symm.trans hsound.2) (by simp)
    | headerBlock kind => simp at kind
    | paused => rfl
    | readWhole unspent opened whole finished =>
      obtain rfl := Option.some_inj.mp (hb.symm.trans opened)
      exact finished.issued_eq rfl
    | @readCopied _ _ _ _ t _ _ unspent opened limited copied finished =>
      obtain rfl := Option.some_inj.mp (hb.symm.trans opened)
      obtain ⟨t', heq, htaken⟩ := hbody.copyLoop length m.conn.queuedBodySize
      obtain rfl : t = t' := congrArg Prod.snd (copied.symm.trans heq)
      have htrailers : t.body.compact.trailers = body.trailers :=
        BodySource.compact_trailers.trans htaken.trailers
      rw [← htrailers]
      exact finished.issued_eq rfl

/-- A frame that is left to be written stays in the queue. -/
theorem Stepped.left_queued (h : Stepped m (.callback (.readBody s length) env) p)
    (hsound : p.2.conn.Sound) (hbody : body.Sound m.host.pointerWidth)
    (hb : m.conn.bodies.lookup s = some body) (hreply : p.1.response = .replied reply)
    (hleft : reply.noCopy = true) :
    ∃ body', p.2.conn.bodies.lookup s = some body' ∧ body'.Sound m.host.pointerWidth ∧
      body'.queue = body.queue := by
  cases h with
  | callback driven hc =>
    rw [Machine.afterCallback_conn] at hsound ⊢
    obtain rfl := Response.replied.inj hreply
    cases hc with
    | failed spoiled deferred => exact absurd (deferred.symm.trans hsound.2) (by simp)
    | headerBlock kind => simp at kind
    | paused => exact absurd hleft (by simp)
    | readWhole unspent opened whole finished =>
      obtain rfl := Option.some_inj.mp (hb.symm.trans opened)
      have hqueue := congrArg BodySource.queue finished.reflag
      exact ⟨_, Finmap.lookup_insert _, (finished.whole hbody).2.2, hqueue⟩
    | readCopied unspent opened limited copied finished =>
      obtain rfl := Option.some_inj.mp (hb.symm.trans opened)
      have hanswer := (finished.copied hbody copied).1
      rw [hanswer, Body.answer_noCopy] at hleft
      exact absurd hleft (by simp)

/-- **The DATA frames of a body are the same under every limit**, where its
counter says how much is queued. -/
theorem Machine.sameFrames (hdrive : m.drive = some (.send, session)) (hst : m.Staging)
    (hbody : body.Sound m.host.pointerWidth)
    (hcounted : body.queue.length < m.host.pointerWidth.modulus)
    (hb : m.conn.bodies.lookup s = some body) : SameFrames m s body := by
  have hst' (a : Int) : (m.under a).Staging := by
    have hdrive' : (m.under a).drive = some (.send, session) := hdrive
    rw [Machine.Staging, hdrive] at hst
    rw [Machine.Staging, hdrive']
    exact hst
  -- what is replied with something left of the limit
  have hanswer {a : Int} {length : Nat} {env : Env} {reply : Reply} {is : List Issued}
      {m' : Machine} (ha : a ≠ 0)
      (htaken : (m.under a).step (.callback (.readBody s length) env)
        = some (⟨.replied reply, is⟩, m')) (hsound : m'.conn.Sound) :
      ∃ copy, reply = body.view.answer m.host.pointerWidth length copy := by
    obtain ⟨hspent, -⟩ | ⟨-, copy, -, hresponse⟩ :=
      (Machine.stepped htaken).answered hsound hbody hb
    · exact absurd hspent ha
    · exact ⟨copy, Response.replied.inj hresponse⟩
  refine ⟨?_, ?_, ?_⟩
  · intro a b sessionWindow streamWindow frameSize env oa ma ob mb hA hB
    rw [Machine.proposed hA hb, Machine.proposed hB hb]
    rfl
  · intro a b length env ra oa ma rb ob mb ha hb₀ hA hB hsoundA hsoundB
    obtain ⟨copy, rfl⟩ := hanswer ha hA hsoundA
    obtain ⟨copy', rfl⟩ := hanswer hb₀ hB hsoundB
    obtain ⟨hcode, heof, hend⟩ := Body.answer_alike (b := body.view) hcounted length copy copy'
    refine ⟨hcode, heof, hend, ?_⟩
    have hissuedA : oa = _ := (Machine.stepped hA).read_issued hsoundA hbody hb hdrive rfl
    have hissuedB : ob = _ := (Machine.stepped hB).read_issued hsoundB hbody hb hdrive rfl
    rw [hissuedA, hissuedB, hend]
  · intro a length env reply is m' ha htaken hsound hgiven
    obtain ⟨copy, hreply⟩ := hanswer ha htaken hsound
    constructor
    · intro hcopied
      obtain rfl : copy = true := by
        rw [hreply, Body.answer_noCopy] at hcopied
        simpa using hcopied
      subst hreply
      exact Body.answer_copied hgiven
    · intro hleft frameHeader env' o m'' htaken' hsound'
      have hstep := Machine.stepped htaken
      obtain ⟨body', hb', hbody', hqueue⟩ := hstep.left_queued hsound hbody hb rfl hleft
      have hhost : m'.host = (m.under a).host := hstep.host_eq
      rw [← hhost] at hbody'
      have hwritten := (Machine.stepped htaken').written (hstep.staging (hst' a) hsound) hsound'
        hbody' hb'
      rw [← hqueue]
      exact hwritten.2

end Frames

/-! ## A counter that is back at zero -/

/-- The header of a DATA frame of stream 1. -/
def dataHeader (g : Granted) : FrameHeader :=
  ⟨[UInt8.ofNat (g.length / 65536), UInt8.ofNat (g.length / 256), UInt8.ofNat g.length, 0,
    if g.eof && !g.noEndStream then 1 else 0, 0, 0, 0, 1], rfl⟩

/-- The engine of a client that has one DATA frame to send, if there is anything
to send. -/
def oneFrame : Engine Nat where
  move
    | 0 => .data 1 65535 65535 16384 Int.toNat 1 fun g => (dataHeader g, 1)
    | _ => .done 0
  reply _ q :=
    match q with
    | .sessionWantRead => 1
    | _ => 0

section Wrapped

variable {host : Host} {session : Option SessionId} {c : Connection} {body : BodySource}

/-- **Without a limit nothing is sent**: the source of the body is put to
sleep. -/
theorem gives_nothing (hc : c.Running session) (hb : c.bodies.lookup 1 = some body)
    (hzero : body.queuedSize = 0) (hopen : body.ended = false) (size : Nat) :
    ∃ m', oneFrame.Gives Lasting none ⟨host, c.withOutput none size 0, none⟩ { state := 0 } []
      m' { state := 1 } := by
  have hsized : oneFrame.step (fun _ => true) (driving host session
      (c.withOutput none 0 (allowance none)) (.ready { state := 0 })) = _ :=
    Engine.step_sized rfl c none 0 (allowance none)
  generalize (c.proposed 1 16384 : Int).toNat = length at hsized
  -- the counter says that there is nothing to take
  have hread : WholeRead (oneFrame.lasting { state := 0 }) session
      (c.withOutput none 0 (allowance none)) 1 length body { code := errDeferred, noCopy := true }
        []
      { body with deferred := true } := by
    refine ⟨hb, .deferred ?_ ?_⟩
    · rw [hopen, Bool.false_and]
    · rw [hzero, Nat.min_zero]
      rfl
  have hunlimited : (c.withOutput none 0 (allowance none)).outputRemaining < 0 :=
    show (-1 : Int) < 0 by decide
  have hrun := hread.run host (fun _ => rfl) (.inl hunlimited)
  have hdeferred : oneFrame.step (fun _ => true) (driving host session _
      (.reading 0 1 length 1 fun g => (dataHeader g, 1))) = _ := Engine.step_callback rfl hrun
  rw [Engine.next_deferred rfl] at hdeferred
  obtain ⟨is, hfinish⟩ := @run_finishSend_lasting host (oneFrame.lasting { state := 1 })
    { c with bodies := c.bodies.insert 1 { body with deferred := true } } none []
    (fun _ => rfl) rfl 0 le_rfl (allowance none)
  have hreturn : oneFrame.step (fun _ => true)
      (driving host session _ (.ready { state := 1 })) = _ :=
    Engine.step_return (Engine.label_done rfl) hfinish
  exact ⟨_, .driven rfl (step_dataToSend hc none_ne_zero size _)
    (.further rfl hsized (.further rfl hdeferred (.returned rfl hreturn)))⟩

/-- **Under a limit a byte is copied**: where too little is left for a frame
header, `_copy_body` goes by the chunks. -/
theorem run_readBody_behind {env : Env} (halloc : ∀ a, env.alloc a = true) {remaining : Int}
    (hsome : 0 < remaining) (hless : remaining < 9) (hb : c.bodies.lookup 1 = some body)
    (hbody : body.Sound host.pointerWidth) (hzero : body.queuedSize = 0)
    (hopen : body.ended = false) (hqueue : body.queue ≠ []) (output : Option Buffer) (size : Nat) :
    ∃ (buffer : Bytes) (c' : Connection), buffer.length = 1 ∧
      ((Callback.readBody 1 1).body session).run env ⟨host, c.withOutput output size remaining, []⟩
        = (.ok { code := 1, buffer }, ⟨host, c'.withOutput output size remaining, []⟩) := by
  obtain ⟨t, heq, htaken⟩ := hbody.copyLoop 1 c.queuedBodySize
  have hone : t.copied.length = 1 := by
    rw [htaken.copied, List.nil_append, List.length_take]
    exact min_eq_left (List.length_pos_of_ne_nil hqueue)
  have hspent : (c.withOutput output size remaining).outputRemaining ≠ 0 := hsome.ne'
  have hlimited : ¬ ((c.withOutput output size remaining).outputRemaining < 0 ∨
      ((min 1 body.queuedSize : Nat) : Int) + 9
        ≤ (c.withOutput output size remaining).outputRemaining) := by
    show ¬ (remaining < 0 ∨ ((min 1 body.queuedSize : Nat) : Int) + 9 ≤ remaining)
    omega
  have hb' : (c.bodies.insert 1 t.body.compact).lookup 1 = some t.body.compact :=
    Finmap.lookup_insert _
  have hended : t.body.compact.ended = false :=
    BodySource.compact_ended.trans (htaken.ended.trans hopen)
  have hfinished : FinishedRead env session 1 t.body.compact
      { code := ((1 : Nat) : Int), buffer := t.copied } false
      { code := ((1 : Nat) : Int), buffer := t.copied } [] t.body.compact :=
    .continued rfl one_ne_zero
  have hfinish := hfinished.run halloc (w := ⟨host, Connection.withOutput { c with
    bodies := c.bodies.insert 1 t.body.compact, queuedBodySize := t.queued } output size remaining,
    []⟩) hb'
  dsimp only [Connection.withOutput] at hfinish
  rw [Finmap.insert_insert] at hfinish
  refine ⟨t.copied, { c with
    bodies := c.bodies.insert 1 t.body.compact, queuedBodySize := t.queued }, hone, ?_⟩
  show (readBody session 1 1).run env ⟨host, c.withOutput output size remaining, []⟩ = _
  unfold readBody
  rw [run_bind, run_conn]
  dsimp only
  rw [if_neg hspent, run_attempt]
  unfold prepareBody
  rw [run_bind, run_conn]
  dsimp only
  rw [run_bind, run_bodyOf env ⟨host, c.withOutput output size remaining, []⟩ hb]
  dsimp only
  rw [if_neg hlimited, run_bind, run_copyBody]
  dsimp only [Connection.withOutput]
  rw [heq]
  dsimp only
  rw [run_bind, run_bodyOf _ _ hb']
  dsimp only
  rw [hended, Bool.false_and, hone, hfinish]
  rfl

/-- The engine stops inside of a frame that is beyond the limit. -/
theorem Engine.drives_inside {S : Type} {E : Engine S} {state : S} {frame : Bytes} {n : Nat}
    (hn : 0 < n) (hless : n < frame.length) (hfits : n ≤ host.pointerWidth.ssizeMax)
    (c : Connection) :
    ∃ m', E.Drives Lasting 2
      (driving host session (c.withOutput none 0 (allowance (some n)))
        (.ready { state, left := frame }))
      (frame.take n) ⟨m', .ready { state, left := frame.drop n }⟩ := by
  have hleft : frame ≠ [] := List.ne_nil_of_length_pos (by omega)
  have hbehind : frame.drop n ≠ [] := List.ne_nil_of_length_pos (by rw [List.length_drop]; omega)
  have hcut : (frame.take n).length = n := List.length_take_of_le hless.le
  have hsome : some n ≠ some 0 := fun h => hn.ne' (Option.some_inj.mp h)
  have hroom : ([] : Bytes).length + (within (some n) frame).length
      ≤ host.pointerWidth.ssizeMax := by
    show 0 + (frame.take n).length ≤ _
    rwa [hcut, Nat.zero_add]
  obtain ⟨output, hstaged, hcollect⟩ := @run_collectOutput host (E.lasting { state, left := frame })
    session c none [] (some n) (fun _ => rfl) rfl hsome frame hroom
  have haccepted : E.step (fun _ => true)
      (driving host session _ (.ready { state, left := frame })) = _ :=
    Engine.step_callback (Engine.label_left hleft) hcollect
  have hspent : spend (some n) (within (some n) frame).length = some 0 := by
    show some (n - (frame.take n).length) = some 0
    rw [hcut, Nat.sub_self]
  have hwithin : (within (some n) frame).length = n := hcut
  rw [Engine.next_left hleft, Stage.offered_accepted, hspent, hwithin] at haccepted
  have hrefuse := @run_collectOutput_spent host (E.lasting { state, left := frame.drop n }) session
    c output (frame.take n) (frame.drop n)
  have hrefused : E.step (fun _ => true)
      (driving host session _ (.ready { state, left := frame.drop n })) = _ :=
    Engine.step_callback (Engine.label_left hbehind) hrefuse
  rw [Engine.next_left hbehind] at hrefused
  obtain ⟨is, hfinish⟩ := @run_finishSend_lasting host (E.lasting { state, left := frame.drop n }) c
    output (frame.take n) (fun _ => rfl) hstaged 0 le_rfl (allowance (some 0))
  have hreturn : E.step (fun _ => true)
      (driving host session _ (.stopped 0 { state, left := frame.drop n })) = _ :=
    Engine.step_return rfl hfinish
  exact ⟨_, .further rfl haccepted (.further rfl hrefused (.returned rfl hreturn))⟩

/-- So a call with such a limit returns bytes. -/
theorem gives_some (hc : c.Running session) (hb : c.bodies.lookup 1 = some body)
    (hbody : body.Sound host.pointerWidth) (hzero : body.queuedSize = 0)
    (hopen : body.ended = false) (hqueue : body.queue ≠ []) (size : Nat) :
    ∃ w m' cursor', w ≠ [] ∧
      oneFrame.Gives Lasting (some 5) ⟨host, c.withOutput none size 0, none⟩ { state := 0 } w
        m' cursor' := by
  have hlength : c.proposed 1 16384 = 1 := by
    rw [Connection.proposed, hb]
    show max 1 (min _ body.queuedSize) = 1
    rw [hzero, Nat.min_zero]
    rfl
  have hsized : oneFrame.step (fun _ => true) (driving host session
      (c.withOutput none 0 (allowance (some 5))) (.ready { state := 0 })) = _ :=
    Engine.step_sized rfl c none 0 (allowance (some 5))
  rw [hlength] at hsized
  obtain ⟨buffer, c₁, hone, hrun⟩ := @run_readBody_behind host session c body
    (oneFrame.lasting { state := 0 }) (fun _ => rfl) 5 (by decide) (by decide) hb hbody hzero hopen
    hqueue none 0
  have hcopied : oneFrame.step (fun _ => true) (driving host session _
      (.reading 0 1 1 1 fun g => (dataHeader g, 1))) = _ := Engine.step_callback rfl hrun
  rw [Engine.next_granted (n := 1) rfl, if_neg Bool.false_ne_true] at hcopied
  -- the frame is in the engine's buffer, and five bytes of it are accepted
  generalize hframe : (dataHeader (Reply.granted { code := 1, buffer } [])).val ++ buffer = frame
    at hcopied
  have hten : frame.length = 10 := by
    rw [← hframe, List.length_append, (dataHeader _).property, hone]
  have hroom : 5 ≤ host.pointerWidth.ssizeMax := by
    cases host.pointerWidth <;> decide
  have hless : 5 < frame.length := by rw [hten]; decide
  obtain ⟨m', hinside⟩ := @Engine.drives_inside host session _ oneFrame 1 frame 5 (by decide) hless
    hroom c₁
  refine ⟨frame.take 5, m', _, ?_, .driven rfl (step_dataToSend hc (by decide) size _)
    (.further rfl hsized (.further rfl hcopied hinside))⟩
  exact List.ne_nil_of_length_pos (by rw [List.length_take, hten]; decide)

end Wrapped

/-! ## The theorem -/

/-- **No body holds more bytes than its counter can count.** -/
def Machine.Counted (m : Machine) : Prop :=
  ∀ s body, m.conn.bodies.lookup s = some body → body.queue.length < m.host.pointerWidth.modulus

/-- So it is in every sound state of a run whose chunks fit. -/
theorem Runs.machine_counted {host : Host} {h : History} {m : Machine}
    (hrun : Runs host EndsCounted h m) (hsound : m.conn.Sound) : m.Counted := by
  intro s body hb
  rw [hrun.host_eq]
  exact (Runs.counted And.left And.right hrun hsound hb).1

/-- An active connection that is outside the engine is sound. -/
theorem Runs.sound_of_active {host : Host} {h : History} {m : Machine}
    (hrun : Runs host EndsOnFailure h m) (hactive : m.conn.active = true)
    (hidle : m.drive = none) : m.conn.Sound := by
  refine hrun.sound_of_idle (fun h => h) hidle (Bool.eq_false_iff.mpr fun hf => ?_)
  exact absurd ((hrun.void hf).inactive.symm.trans hactive) (by simp)

/-- It can be driven, and nothing is staged. -/
theorem Runs.running {host : Host} {h : History} {m : Machine} (hrun : Runs host EndsOnFailure h m)
    (hactive : m.conn.active = true) (hidle : m.drive = none) :
    m.conn.Running m.conn.session ∧
      m = ⟨m.host, m.conn.withOutput none m.conn.outputSize 0, none⟩ := by
  have hsound := hrun.sound_of_active hactive hidle
  have hstaging := hrun.staging (fun h => h) hsound
  rw [Machine.Staging, hidle] at hstaging
  obtain ⟨houtput, hremaining⟩ := hstaging
  refine ⟨⟨hsound.1, hactive, hsound.2, rfl⟩, ?_⟩
  rw [Connection.withOutput, ← houtput, ← hremaining, ← hidle]

/-- If its bodies are counted, it can be driven on. -/
theorem Runs.drivable {host : Host} {h : History} {m : Machine} (hrun : Runs host EndsOnFailure h m)
    (hcounted : m.Counted) (hactive : m.conn.active = true) (hidle : m.drive = none) :
    m.conn.Drivable m.host m.conn.session ∧
      m = ⟨m.host, m.conn.withOutput none m.conn.outputSize 0, none⟩ := by
  obtain ⟨hc, hm⟩ := hrun.running hactive hidle
  have hpacks := hrun.packs (fun h => h) (hrun.sound_of_active hactive hidle)
  rw [← hrun.host_eq] at hpacks
  exact ⟨⟨hc.live, hc.active, hc.clean, hc.session,
    fun s body hb => ⟨hpacks s body hb, hcounted s body hb⟩⟩, hm⟩

/-- **A limit on the output only cuts it.** -/
structure LimitsTransparent {S : Type} (E : Engine S) (m : Machine) : Prop where
  /-- Where a call without a limit returns bytes, calls with any positive limits,
  and a last one without a limit, return these bytes in pieces, each of them what
  its limit allows of those that are left; and they leave the engine where the
  one call leaves it, and the same connection: its bodies, its flags and its
  events. Only the size of the last staging differs, which the next call resets.
  The calls do return where allocations succeed, and where some fail this holds
  of all that return. -/
  cut : m.conn.active = true → ∀ Memory cursor w mB cursorB limits,
    E.Gives Memory none m cursor w mB cursorB → (∀ n ∈ limits, 0 < n) →
    (∃ mA, E.Outputs Lasting (limits.map some ++ [none]) m cursor (pieces limits w) mA cursorB) ∧
    ∀ Memory' ws mA cursorA,
      E.Outputs Memory' (limits.map some ++ [none]) m cursor ws mA cursorA →
      ws = pieces limits w ∧ ws.flatten = w ∧ cursorA = cursorB ∧
        mA = { mB with conn := { mB.conn with outputSize := mA.conn.outputSize } }
  /-- While the output is driven, the DATA frames of every body are the same,
  however much is left of the limit, on either path. -/
  frames : m.conn.Sound → ∀ session s body, m.drive = some (.send, session) →
    m.conn.bodies.lookup s = some body → SameFrames m s body

/-- **Output limits are transparent** in every state of every run in which each
chunk that is queued fits the counter of its body, whatever deterministic engine
drives the connection, as long as it rests when it wants neither to read nor to
write. -/
theorem output_limits_transparent {S : Type} (E : Engine S) (hrests : E.RestsWhenDone) {host : Host}
    {h : History} {m : Machine} (hrun : Runs host EndsCounted h m) : LimitsTransparent E m := by
  constructor
  · intro hactive Memory cursor w mB cursorB limits hone hpositive
    have hends : Runs host EndsOnFailure h m := Run.mono (fun ha => ha.1) hrun
    have hsound : m.conn.Sound := hends.sound_of_active hactive hone.idle
    obtain ⟨hc, hm⟩ := hends.drivable (hrun.machine_counted hsound) hactive hone.idle
    generalize m.conn.outputSize = size at hm
    generalize m.conn = c at hc hm
    generalize m.host = host' at hm
    subst hm
    obtain ⟨rest, s', c', hemits, hfits⟩ := hone.emits hc
    -- the one call is a sequence of calls without limits
    obtain ⟨sizeB, hB⟩ :=
      hemits.splits hrests (fun n hn => absurd hn List.not_mem_nil) hc hfits size
    obtain ⟨hw, rfl, rfl⟩ := hB.unique _ [w] mB cursorB (.cons hone .nil)
    obtain rfl : w = cursor.left ++ rest := List.head_eq_of_cons_eq hw
    obtain ⟨sizeA, hA⟩ := hemits.splits hrests hpositive hc hfits size
    refine ⟨⟨_, hA.returned⟩, fun Memory' ws mA cursorA houtputs => ?_⟩
    obtain ⟨rfl, rfl, rfl⟩ := hA.unique _ _ _ _ houtputs
    exact ⟨rfl, pieces_flatten _ _, rfl, rfl⟩
  · intro hsound session s body hdrive hb
    have hends {h : History} {m : Machine} {l : Label} (ha : EndsCounted h m l) :
        FailureEndsDrive h l := And.left ha
    have hbody : body.Sound host.pointerWidth := (Runs.records_eq hends hrun hsound).1 s body hb
    rw [← Runs.host_eq hrun] at hbody
    exact Machine.sameFrames hdrive (Runs.staging hends hrun hsound) hbody
      (hrun.machine_counted hsound s body hb) hb

/-- **A counter can get back to zero.** On a platform of 32 bits a client queued
4096 mebibytes on a stream: a call without a limit returns nothing, and one with
a limit of five returns bytes. -/
theorem output_limits_transparent_mebibytes :
    oneFrame.RestsWhenDone ∧ ∃ h m, Runs { pointerWidth := .w32 } EndsOnFailure h m ∧
      ¬ LimitsTransparent oneFrame m := by
  refine ⟨fun _ hread _ => absurd (show (1 : Int) = 0 from hread) (by decide), ?_⟩
  obtain ⟨h, m, body, hrun, -, hadds, hlength, hzero⟩ := Runs.mebibytes EndsOnFailure
    ⟨_, rfl, by decide, ⟨rfl, by decide, rfl, rfl⟩⟩ fun hquiet => hquiet.endsOnFailure _
  have hactive : m.conn.active = true := hadds.usable.2.1
  obtain ⟨hrunning, hm⟩ := hrun.running hactive hadds.idle
  have hsound := hrun.sound_of_active hactive hadds.idle
  have hbody : body.Sound m.host.pointerWidth := by
    rw [Runs.host_eq hrun]
    exact (Runs.records_eq (fun ha => ha) hrun hsound).1 1 body hadds.opened
  have hqueue : body.queue ≠ [] := List.ne_nil_of_length_pos (by rw [hlength]; decide)
  refine ⟨h, m, hrun, fun htransparent => ?_⟩
  obtain ⟨mB, hnone⟩ := @gives_nothing m.host _ m.conn body hrunning hadds.opened hzero
    hadds.unended m.conn.outputSize
  obtain ⟨w, m', cursor', hw, hsome⟩ := gives_some hrunning hadds.opened hbody hzero hadds.unended
    hqueue m.conn.outputSize
  rw [← hm] at hnone
  -- the limited call would have to return the first of nothing
  obtain ⟨⟨mA, houtputs⟩, -⟩ := htransparent.cut hactive _ _ _ _ _ [5] hnone (by decide)
  cases houtputs with
  | cons first rest =>
    rw [hm] at first
    exact hw (hsome.unique hrunning (by decide) first).1

/-- The engine of a client that opens its connection and sends one request with
a body: the connection preface, a SETTINGS frame, a HEADERS frame and the DATA
frames of a body. It reports each of the frames. -/
def oneRequest : Engine Nat where
  move
    | 0 => .frame [80, 82, 73, 32, 42, 32, 72, 84, 84, 80, 47, 50, 46, 48, 13, 10, 13, 10, 83, 77,
        13, 10, 13, 10] 1
    | 1 => .frame [0, 0, 0, 4, 0, 0, 0, 0, 0] 2
    | 2 => .report ⟨.frameSent { streamId := 0, payload := .settings [] }, rfl⟩ fun _ _ => 3
    | 3 => .frame [0, 0, 0, 1, 4, 0, 0, 0, 1] 4
    | 4 => .report ⟨.frameSent { streamId := 1, flags := 4, payload := .headers .request }, rfl⟩
        fun _ _ => 5
    | 5 => .data 1 65535 65535 16384 Int.toNat 8 fun g => (dataHeader g, if g.eof then 6 else 7)
    | 6 => .report ⟨.frameSent { streamId := 1, flags := 1, payload := .data }, rfl⟩ fun _ _ => 8
    | 7 => .report ⟨.frameSent { streamId := 1, payload := .data }, rfl⟩ fun _ _ => 5
    | _ => .done 0
  reply cursor q :=
    match q with
    | .sessionWantRead => 1
    | .sessionWantWrite => if cursor.state = 8 ∧ cursor.left = [] then 0 else 1
    | _ => 0

/-- The calls before it is driven. -/
def oneRequestCalls : List Label := [
  .request (.init .client {}) (.accepting []),
  .request (.initiateConnection []) (.accepting []),
  .request (.sendRequest [] false) (.accepting [(.sessionCheckRequestAllowed, 1),
    (.submitRequest2 [] true, 1)]),
  .request (.sendData 1 [1, 2, 3, 4] true) (.accepting [])]

set_option maxRecDepth 8000 in
/-- The limits end inside of the SETTINGS frame and of the DATA frame; and the
four bytes of the body are a frame of their own with 12 bytes left of a limit,
too few for the frame header. -/
theorem output_limits_transparent_oneRequest :
    ∃ c, Run.execute Machine.step EndsCounted ([], Machine.fresh {}) oneRequestCalls = some c ∧
      (∃ mA, oneRequest.Outputs Lasting [some 30, some 20, none] c.2 { state := 0 }
        [[80, 82, 73, 32, 42, 32, 72, 84, 84, 80, 47, 50, 46, 48, 13, 10, 13, 10, 83, 77, 13, 10,
            13, 10, 0, 0, 0, 4, 0, 0],
          [0, 0, 0, 0, 0, 0, 1, 4, 0, 0, 0, 1, 0, 0, 4, 0, 1, 0, 0, 0], [1, 1, 2, 3, 4]]
        mA { state := 8 }) ∧
      ∃ d ra oa ma rb ob mb,
        Run.execute Machine.step EndsCounted c [.request (.dataToSend none) (.accepting [])]
          = some d ∧
        (d.2.under (-1)).step (.callback (.readBody 1 4) (.accepting []))
          = some (⟨.replied ra, oa⟩, ma) ∧ ra.noCopy = true ∧
        (d.2.under 12).step (.callback (.readBody 1 4) (.accepting []))
          = some (⟨.replied rb, ob⟩, mb) ∧ rb.noCopy = false ∧
        ra.code = rb.code ∧ ra.eof = rb.eof ∧ rb.buffer = [1, 2, 3, 4] := by
  obtain ⟨c, issued, m₁, mB, hc, hactive, htaken, hdrive, d, body, ra, oa, ma, rb, ob, mb, hd,
      hsound, hdriven, hb, hqueue, hA, hleft, hsoundA, hB, hcopied, hsoundB, hcode⟩ :
      ∃ c issued m₁ mB,
      Run.execute Machine.step EndsCounted ([], Machine.fresh {}) oneRequestCalls = some c ∧
      c.2.conn.active = true ∧
      c.2.step (.request (.dataToSend none) (oneRequest.env { state := 0 } fun _ => true))
        = some (⟨.entered, issued⟩, m₁) ∧
      oneRequest.drive 12 ⟨m₁, .ready { state := 0 }⟩
        = some ([80, 82, 73, 32, 42, 32, 72, 84, 84, 80, 47, 50, 46, 48, 13, 10, 13, 10, 83, 77, 13,
            10, 13, 10, 0, 0, 0, 4, 0, 0, 0, 0, 0, 0, 0, 0, 1, 4, 0, 0, 0, 1, 0, 0, 4, 0, 1, 0, 0,
            0, 1, 1, 2, 3, 4], ⟨mB, .ready { state := 8 }⟩) ∧
      ∃ d body ra oa ma rb ob mb,
      Run.execute Machine.step EndsCounted c [.request (.dataToSend none) (.accepting [])]
        = some d ∧ d.2.conn.Sound ∧ d.2.drive = some (.send, some 1) ∧
      d.2.conn.bodies.lookup 1 = some body ∧ body.queue = [1, 2, 3, 4] ∧
      (d.2.under (-1)).step (.callback (.readBody 1 4) (.accepting []))
        = some (⟨.replied ra, oa⟩, ma) ∧ ra.noCopy = true ∧ ma.conn.Sound ∧
      (d.2.under 12).step (.callback (.readBody 1 4) (.accepting []))
        = some (⟨.replied rb, ob⟩, mb) ∧ rb.noCopy = false ∧ mb.conn.Sound ∧ rb.code = 4 :=
    ⟨_, _, _, _, rfl, rfl, rfl, rfl, _, _, _, _, _, _, _, _, rfl, by decide, rfl, rfl, rfl, rfl,
      rfl, by decide, rfl, rfl, by decide, rfl⟩
  obtain ⟨n, hdrives⟩ := Engine.drives_of_drive oneRequest hdrive
  have hone : oneRequest.Gives Lasting none c.2 { state := 0 } _ mB { state := 8 } :=
    .driven rfl htaken hdrives
  have hrests : oneRequest.RestsWhenDone := fun _ hread _ => absurd (show (1 : Int) = 0 from hread)
    (by decide)
  have hrun : Runs {} EndsCounted c.1 c.2 := Run.of_execute .start hc
  obtain ⟨⟨mA, houtputs⟩, -⟩ :=
    (output_limits_transparent oneRequest hrests hrun).cut hactive _ _ _ _ _ _ hone
      (show ∀ n ∈ [30, 20], 0 < n by decide)
  have hsame : SameFrames d.2 1 body :=
    (output_limits_transparent oneRequest hrests (Run.of_execute hrun hd)).frames hsound _ 1 body
      hdriven hb
  obtain ⟨hlength, heof, -⟩ := hsame.answered (-1) 12 4 _ ra oa ma rb ob mb (by decide) (by decide)
    hA hB hsoundA hsoundB
  have hgiven : rb.code ≠ errDeferred := hcode ▸ by decide
  have hpayload := (hsame.payload 12 4 _ rb ob mb (by decide) hB hsoundB hgiven).1 hcopied
  rw [hcode, hqueue] at hpayload
  exact ⟨c, hc, ⟨mA, houtputs⟩, d, ra, oa, ma, rb, ob, mb, hd, hA, hleft, hB, hcopied, hlength,
    heof, hpayload⟩

end Ngh2
