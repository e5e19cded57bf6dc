import Ngh2.Lib.Relates
import Ngh2.BodyQueue
import Ngh2.Machine

/-!
# Two connections side by side

Two things about a connection are its own affair. How the bytes of a body are
cut into chunks is one, as long as they are the same bytes. Which of its events
were handed over already is the other: a connection that was not polled holds
the events another one has given away.

`Connection.Alike` relates two connections that differ in nothing else. Every
body of the model does the same on connections that are alike and leaves them
alike, except for `events`, whose very purpose is the difference. So the two
can be stepped together, whatever happens to them (`Machine.Alike.step`).

What it takes of bodies to be held differently is kept abstract
(`BodyCongruence`): bodies that are equal will do. The counter of a body is as
wide as a pointer of the platform, which is one for both.
-/

namespace Ngh2

open Effect Nghttp2

/-! ## The relations -/

/-- **A difference between bodies that makes none**: nothing that is asked of a
body sees it, and every operation keeps it. -/
structure BodyCongruence (width : PointerWidth) (B : BodySource → BodySource → Prop) : Prop where
  empty : B {} {}
  ended : ∀ {b b'}, B b b' → b'.ended = b.ended
  deferred : ∀ {b b'}, B b b' → b'.deferred = b.deferred
  trailers : ∀ {b b'}, B b b' → b'.trailers = b.trailers
  queuedSize : ∀ {b b'}, B b b' → b'.queuedSize = b.queuedSize
  used : ∀ {b b'}, B b b' → (b.head = b.chunks.length ↔ b'.head = b'.chunks.length)
  flags : ∀ {b b'}, B b b' → ∀ ended deferred trailers,
    B { b with ended, deferred, trailers } { b' with ended, deferred, trailers }
  append : ∀ {b b'}, B b b' → ∀ chunk endStream,
    B (b.append width chunk endStream) (b'.append width chunk endStream)
  copied : ∀ {b b'}, B b b' → ∀ length queued, ∃ result s s',
    copyLoop width length (b.chunks.length - b.head) { body := b, queued } = (result, s) ∧
    copyLoop width length (b'.chunks.length - b'.head) { body := b', queued } = (result, s') ∧
    s'.copied = s.copied ∧ s'.queued = s.queued ∧ B s.body s'.body ∧
      B s.body.compact s'.body.compact

/-- Equal bodies make no difference. -/
theorem bodyCongruence_eq (width : PointerWidth) : BodyCongruence width Eq where
  empty := rfl
  ended := fun h => h ▸ rfl
  deferred := fun h => h ▸ rfl
  trailers := fun h => h ▸ rfl
  queuedSize := fun h => h ▸ rfl
  used := fun h => h ▸ Iff.rfl
  flags := fun h _ _ _ => h ▸ rfl
  append := fun h _ _ => h ▸ rfl
  copied := fun h _ _ => h ▸ ⟨_, _, _, rfl, rfl, rfl, rfl, rfl, rfl⟩

section

variable (platform : Host) (B : BodySource → BodySource → Prop) (es : List Event)

/-- **Two connections that are alike**: the second still holds events that the
first has handed over, and may hold its bodies differently. -/
inductive Connection.Alike (c : Connection) : Connection → Prop
  | intro (bodies : Dict BodySource)
      (held : ∀ s, Option.Rel B (c.bodies.lookup s) (bodies.lookup s)) :
      Connection.Alike c { c with events := es ++ c.events, bodies }

/-- Two worlds on one platform, with connections that are alike. -/
inductive World.Alike (w : World) : World → Prop
  | intro {c : Connection} (on : w.host = platform) (conn : w.conn.Alike B es c) :
      World.Alike w { w with conn := c }

/-- Two machines with connections that are alike. -/
inductive Machine.Alike (m : Machine) : Machine → Prop
  | intro {c : Connection} (conn : m.conn.Alike B es c) : Machine.Alike m { m with conn := c }

/-- **A computation makes no difference** between connections that are alike. -/
abbrev Indifferent {α : Type} (x : M α) : Prop :=
  Relates (fun _ => World.Alike platform B es) Eq x x

end

section Bodies

variable {platform : Host} {B : BodySource → BodySource → Prop} {es : List Event} {α β : Type}

/-! ## The primitive actions -/

theorem indifferent_look {f : Connection → M α}
    (hsame : ∀ c bodies, f { c with events := es ++ c.events, bodies } = f c)
    (hf : ∀ c, Indifferent platform B es (f c)) : Indifferent platform B es (conn >>= f) := by
  refine relates_get_bind ?_
  rintro - w _ ⟨_, _, held⟩
  show Relates _ _ (f w.conn) (f { w.conn with events := _, bodies := _ })
  rw [hsame]
  exact hf w.conn

/-- Looking at the bodies. -/
theorem indifferent_conn {Q : α → β → Prop} {f : Connection → M α} {g : Connection → M β}
    (h : ∀ c c', c.Alike B es c' → Relates (fun _ => World.Alike platform B es) Q (f c) (g c')) :
    Relates (fun _ => World.Alike platform B es) Q (conn >>= f) (conn >>= g) := by
  refine relates_get_bind ?_
  rintro - w _ ⟨_, halike⟩
  exact h w.conn _ halike

theorem indifferent_update {f g : Connection → Connection}
    (h : ∀ c c', c.Alike B es c' → (f c).Alike B es (g c')) :
    Relates (fun _ => World.Alike platform B es) Eq (update f) (update g) := by
  refine relates_modify ?_
  rintro - w _ ⟨hon, halike⟩
  exact World.Alike.intro (w := { w with conn := f w.conn }) hon (h _ _ halike)

/-- Assigning to what is not of the difference. -/
theorem indifferent_assign {f : Connection → Connection}
    (hsame : ∀ c bodies, f { c with events := es ++ c.events, bodies }
      = { f c with events := es ++ (f c).events, bodies })
    (hbodies : ∀ c, (f c).bodies = c.bodies) : Indifferent platform B es (update f) := by
  refine indifferent_update ?_
  rintro c _ ⟨bodies, held⟩
  rw [hsame]
  exact .intro bodies (hbodies c ▸ held)

/-- Releasing all bodies. -/
theorem indifferent_discard {f : Connection → Connection}
    (hsame : ∀ c bodies, f { c with events := es ++ c.events, bodies }
      = { f c with events := es ++ (f c).events })
    (hbodies : ∀ c, (f c).bodies = ∅) : Indifferent platform B es (update f) := by
  refine indifferent_update ?_
  rintro c _ ⟨bodies, -⟩
  rw [hsame]
  have hnone (s : StreamId) : Option.Rel B ((f c).bodies.lookup s) ((f c).bodies.lookup s) := by
    rw [hbodies, Finmap.lookup_empty]
    exact .none
  exact .intro (f c).bodies hnone

theorem indifferent_setBody {b b' : BodySource} (h : B b b') (s : StreamId) :
    Relates (fun _ => World.Alike platform B es) Eq (setBody s b) (setBody s b') := by
  refine indifferent_update ?_
  rintro c _ ⟨bodies, held⟩
  refine Connection.Alike.intro (c := { c with bodies := c.bodies.insert s b })
    (bodies.insert s b') fun t => ?_
  by_cases ht : t = s
  · subst ht
    show Option.Rel B ((c.bodies.insert t b).lookup t) ((bodies.insert t b').lookup t)
    rw [Finmap.lookup_insert, Finmap.lookup_insert]
    exact .some h
  · show Option.Rel B ((c.bodies.insert s b).lookup t) ((bodies.insert s b').lookup t)
    rw [Finmap.lookup_insert_of_ne _ ht, Finmap.lookup_insert_of_ne _ ht]
    exact held t

/-- Both are asked for their platform. -/
theorem indifferent_host {Q : α → β → Prop} {f : Host → M α} {g : Host → M β}
    (h : Relates (fun _ => World.Alike platform B es) Q (f platform) (g platform)) :
    Relates (fun _ => World.Alike platform B es) Q (host >>= f) (host >>= g) := by
  refine relates_get_bind ?_
  rintro - w _ ⟨rfl, -⟩
  exact h

theorem indifferent_note (i : Issued) : Indifferent platform B es (note i) := by
  refine relates_modify ?_
  rintro - w _ ⟨hon, halike⟩
  exact World.Alike.intro (w := { w with issued := w.issued ++ [i] }) hon halike

theorem relates_raiseIf {R : Env → World → World → Prop} {p p' : Prop} [Decidable p] [Decidable p']
    (hp : p ↔ p') (e : PyError) : Relates R Eq (raiseIf p e) (raiseIf p' e) :=
  relates_ite hp (fun _ => relates_raise e) fun _ => relates_pure rfl

theorem relates_allocate {R : Env → World → World → Prop} (a : Alloc) :
    Relates R Eq (allocate a) (allocate a) :=
  relates_then relates_read fun _ => relates_raiseIf Iff.rfl _

theorem indifferent_askOn (session : Option SessionId) (q : EngineCall) :
    Indifferent platform B es (askOn session q) :=
  relates_then (indifferent_note _) fun _ => relates_then relates_read fun _ => relates_pure rfl

theorem indifferent_ask (q : EngineCall) : Indifferent platform B es (ask q) :=
  indifferent_look (fun _ _ => rfl) fun _ => indifferent_askOn _ _

/-- Publishing adds to the end of what both hold. -/
theorem indifferent_publish (event : Event) : Indifferent platform B es (publish event) := by
  refine relates_then (relates_allocate _) fun _ => indifferent_assign (fun c bodies => ?_)
    fun _ => rfl
  show { c with events := (es ++ c.events) ++ [event], bodies } = _
  rw [List.append_assoc]

/-- The body of a stream, if it has one. -/
theorem Connection.Alike.lookup {c c' : Connection} (h : c.Alike B es c') (s : StreamId) :
    (c.bodies.lookup s = none ∧ c'.bodies.lookup s = none) ∨
      ∃ b b', c.bodies.lookup s = some b ∧ c'.bodies.lookup s = some b' ∧ B b b' := by
  obtain ⟨bodies, held⟩ := h
  have hs := held s
  show (_ ∧ bodies.lookup s = none) ∨ ∃ b b', _ ∧ bodies.lookup s = some b' ∧ B b b'
  generalize c.bodies.lookup s = o, bodies.lookup s = o' at hs ⊢
  cases hs with
  | none => exact .inl ⟨rfl, rfl⟩
  | some hb => exact .inr ⟨_, _, rfl, rfl, hb⟩

theorem indifferent_bodyOf (s : StreamId) :
    Relates (fun _ => World.Alike platform B es) B (bodyOf s) (bodyOf s) := by
  refine indifferent_conn fun c c' h => ?_
  obtain ⟨hc, hc'⟩ | ⟨b, b', hc, hc', hb⟩ := h.lookup s
  · rw [hc, hc']
    exact relates_raise _
  · rw [hc, hc']
    exact relates_pure hb

/-! ## The private methods -/

theorem indifferent_callbackFailed (e : PyError) : Indifferent platform B es (callbackFailed e) :=
  relates_then (indifferent_assign (fun _ _ => rfl) fun _ => rfl) fun _ => relates_pure rfl

theorem indifferent_fail : Indifferent platform B es fail := by
  have hend : Indifferent platform B es (update Connection.invalidate) :=
    indifferent_discard (fun _ _ => rfl) fun _ => rfl
  refine indifferent_look (fun _ _ => rfl) fun c => ?_
  cases c.session with
  | none => exact hend
  | some session => exact relates_then (indifferent_note _) fun _ => hend

theorem indifferent_requireDrivable : Indifferent platform B es requireDrivable :=
  indifferent_look (fun _ _ => rfl) fun _ => relates_then (relates_raiseIf Iff.rfl _) fun _ =>
    relates_raiseIf Iff.rfl _

theorem indifferent_requireActive : Indifferent platform B es requireActive :=
  relates_then indifferent_requireDrivable fun _ =>
    indifferent_look (fun _ _ => rfl) fun _ => relates_raiseIf Iff.rfl _

theorem indifferent_requireCreated : Indifferent platform B es requireCreated :=
  indifferent_look (fun _ _ => rfl) fun _ => relates_then (relates_raiseIf Iff.rfl _) fun _ =>
    relates_then (relates_raiseIf Iff.rfl _) fun _ => relates_raiseIf Iff.rfl _

theorem indifferent_requireStream (s : StreamId) : Indifferent platform B es (requireStream s) :=
  relates_then (indifferent_ask _) fun _ => relates_raiseIf Iff.rfl _

theorem indifferent_requireServer (message : String) :
    Indifferent platform B es (requireServer message) :=
  indifferent_look (fun _ _ => rfl) fun _ => relates_raiseIf Iff.rfl _

theorem indifferent_requireClient (message : String) :
    Indifferent platform B es (requireClient message) :=
  indifferent_look (fun _ _ => rfl) fun _ => relates_raiseIf Iff.rfl _

theorem indifferent_raiseNativeError (code : Int) :
    Relates (fun _ => World.Alike platform B es) Eq (raiseNativeError code : M α)
      (raiseNativeError code) :=
  relates_then (relates_allocate _) fun _ => indifferent_host <|
    relates_ite Iff.rfl (fun _ => relates_then indifferent_fail fun _ => relates_raise _)
      fun _ => relates_raise _

theorem indifferent_raiseCallbackOrNative (result : Int) :
    Indifferent platform B es (raiseCallbackOrNative result) := by
  refine relates_ite Iff.rfl (fun _ => ?_) fun _ => relates_pure rfl
  refine indifferent_look (fun _ _ => rfl) fun c => ?_
  cases c.callbackError with
  | none => exact indifferent_raiseNativeError _
  | some error => exact relates_then indifferent_fail fun _ => relates_raise _

theorem indifferent_updateTerminalState : Indifferent platform B es updateTerminalState := by
  refine indifferent_look (fun _ _ => rfl) fun c =>
    relates_ite Iff.rfl (fun _ => ?_) fun _ => relates_pure rfl
  refine relates_then (indifferent_ask _) fun _ =>
    relates_ite Iff.rfl (fun _ => ?_) fun _ => relates_pure rfl
  refine relates_then (indifferent_ask _) fun _ =>
    relates_ite Iff.rfl (fun _ => ?_) fun _ => relates_pure rfl
  exact relates_then (indifferent_discard (fun _ _ => rfl) fun _ => rfl) fun _ =>
    indifferent_publish _

theorem indifferent_submit (q : EngineCall) : Indifferent platform B es (submit q) :=
  relates_then (indifferent_ask q) fun _ =>
    relates_ite Iff.rfl
      (fun _ => relates_then (indifferent_raiseNativeError _) fun _ => relates_pure rfl)
      fun _ => relates_pure rfl

theorem indifferent_makeSettings (entries : List (Nat × Nat)) :
    Indifferent platform B es (makeSettings entries) :=
  indifferent_look (fun _ _ => rfl) fun _ => relates_then (relates_raiseIf Iff.rfl _) fun _ =>
    relates_ite Iff.rfl (fun _ => relates_allocate _) fun _ => relates_pure rfl

/-! ## The public operations -/

/-- Ending with a value. -/
theorem indifferent_return (a : α) : Indifferent platform B es (pure a) := relates_pure rfl

theorem indifferent_applyConfiguration (config : Configuration) :
    Indifferent platform B es (applyConfiguration config) := by
  have hassign {f : Connection → Connection}
      (hsame : ∀ c bodies, f { c with events := es ++ c.events, bodies }
        = { f c with events := es ++ (f c).events, bodies })
      (hbodies : ∀ c, (f c).bodies = c.bodies) : Indifferent platform B es (update f) :=
    indifferent_assign hsame hbodies
  refine indifferent_host ?_
  iterate 12 refine relates_then (relates_lift _) fun _ => ?_
  refine relates_then (relates_raiseIf Iff.rfl _) fun _ => ?_
  refine relates_then (hassign (fun _ _ => rfl) fun _ => rfl) fun _ => ?_
  refine relates_then (relates_lift _) fun _ => ?_
  refine relates_then (hassign (fun _ _ => rfl) fun _ => rfl) fun _ => ?_
  exact relates_then (relates_lift _) fun _ => hassign (fun _ _ => rfl) fun _ => rfl

theorem indifferent_init (role : Role) (config : Configuration) :
    Indifferent platform B es (init role config) := by
  have hnegative (result : Int) : Indifferent platform B es (raiseIfNegative result) :=
    indifferent_host <| relates_raiseIf Iff.rfl _
  refine relates_then (indifferent_look (fun _ _ => rfl) fun _ => relates_raiseIf Iff.rfl _)
    fun _ => ?_
  refine relates_then relates_read fun _ => relates_then (hnegative _) fun _ => ?_
  refine relates_then relates_read fun _ => relates_then (hnegative _) fun _ => ?_
  refine relates_then (indifferent_applyConfiguration _) fun _ => relates_then ?_ fun _ =>
    indifferent_return _
  exact relates_then relates_read fun _ => relates_then (hnegative _) fun _ =>
    relates_then (indifferent_note _) fun _ => indifferent_assign (fun _ _ => rfl) fun _ => rfl

theorem indifferent_initiateConnection (entries : List (Nat × Nat)) :
    Indifferent platform B es (initiateConnection entries) :=
  relates_then indifferent_requireCreated fun _ =>
    relates_then (indifferent_makeSettings _) fun _ =>
    relates_then (indifferent_submit _) fun _ =>
      relates_then (indifferent_assign (fun _ _ => rfl) fun _ => rfl) fun _ => indifferent_return _

theorem indifferent_initiateUpgrade (settingsPayload : Bytes) (entries : List (Nat × Nat))
    (headRequest : Bool) :
    Indifferent platform B es (initiateUpgrade settingsPayload entries headRequest) := by
  refine relates_then indifferent_requireCreated fun _ => indifferent_look (fun _ _ => rfl) fun _ =>
    ?_
  have hend : Indifferent platform B es (do
      update fun c => { c with callbackError := none }
      note (.call (← conn).session (.sessionUpgrade2 settingsPayload headRequest))
      return Started.enter (.upgrade entries)) :=
    relates_then (indifferent_assign (fun _ _ => rfl) fun _ => rfl) fun _ =>
      indifferent_look (fun _ _ => rfl) fun _ => relates_then (indifferent_note _) fun _ =>
        indifferent_return _
  exact relates_ite Iff.rfl (fun _ => relates_then (indifferent_makeSettings _) fun _ => hend)
    fun _ => hend

theorem indifferent_receiveData (data : Bytes) : Indifferent platform B es (receiveData data) :=
  relates_then indifferent_requireActive fun _ =>
    relates_then (indifferent_assign (fun _ _ => rfl) fun _ => rfl) fun _ =>
      indifferent_look (fun _ _ => rfl) fun _ => relates_then (indifferent_note _) fun _ =>
        indifferent_return _

theorem indifferent_dataToSend (amount : Option Nat) :
    Indifferent platform B es (dataToSend amount) := by
  refine indifferent_look (fun _ _ => rfl) fun _ =>
    relates_then (relates_raiseIf Iff.rfl _) fun _ =>
      relates_ite Iff.rfl (fun _ => indifferent_return _) fun _ => ?_
  exact relates_then (indifferent_assign (fun _ _ => rfl) fun _ => rfl) fun _ =>
    indifferent_look (fun _ _ => rfl) fun _ => relates_then (indifferent_note _) fun _ =>
      indifferent_return _

theorem indifferent_sendInformationalResponse (s : StreamId) (headers : List Header) :
    Indifferent platform B es (sendInformationalResponse s headers) :=
  relates_then indifferent_requireActive fun _ =>
    relates_then (indifferent_requireServer _) fun _ =>
    relates_then (indifferent_requireStream _) fun _ => indifferent_look (fun _ _ => rfl) fun _ =>
      relates_then (relates_raiseIf Iff.rfl _) fun _ => relates_then (indifferent_submit _)
        fun _ => indifferent_return _

theorem indifferent_sendPushPromise (s : StreamId) (headers : List Header) :
    Indifferent platform B es (sendPushPromise s headers) :=
  relates_then indifferent_requireActive fun _ =>
    relates_then (indifferent_requireServer _) fun _ =>
    relates_then (indifferent_requireStream _) fun _ => relates_then (indifferent_submit _)
      fun _ => relates_then (relates_allocate _) fun _ => indifferent_return _

theorem indifferent_terminateConnection (errorCode : Nat) (lastStreamId : Option StreamId) :
    Indifferent platform B es (terminateConnection errorCode lastStreamId) :=
  relates_then indifferent_requireActive fun _ => relates_then (indifferent_submit _) fun _ =>
    relates_then (indifferent_discard (fun _ _ => rfl) fun _ => rfl) fun _ => indifferent_return _

theorem indifferent_consumeReceivedData (s : StreamId) (amount : Nat) :
    Indifferent platform B es (consumeReceivedData s amount) :=
  relates_then indifferent_requireActive fun _ => indifferent_look (fun _ _ => rfl) fun _ =>
    relates_then (relates_raiseIf Iff.rfl _) fun _ =>
      relates_ite Iff.rfl (fun _ => indifferent_return _) fun _ =>
        relates_then (relates_raiseIf Iff.rfl _) fun _ =>
          relates_then (indifferent_submit _) fun _ =>
            relates_then (indifferent_assign (fun _ _ => rfl) fun _ => rfl) fun _ =>
              indifferent_return _

theorem indifferent_updateSettings (entries : List (Nat × Nat)) :
    Indifferent platform B es (updateSettings entries) :=
  relates_then indifferent_requireActive fun _ => relates_then (indifferent_makeSettings _) fun _ =>
    relates_then (indifferent_submit _) fun _ => indifferent_return _

theorem indifferent_sendPing (opaqueData : Option Bytes) :
    Indifferent platform B es (sendPing opaqueData) := by
  refine relates_then indifferent_requireActive fun _ => ?_
  cases opaqueData with
  | none => exact relates_raise _
  | some opaqueData =>
    exact relates_then (relates_raiseIf Iff.rfl _) fun _ =>
      relates_then (indifferent_submit _) fun _ => indifferent_return _

theorem indifferent_sendGoaway (errorCode : Nat) (lastStreamId : Option StreamId)
    (debugData : Bytes) :
    Indifferent platform B es (sendGoaway errorCode lastStreamId debugData) := by
  refine relates_then indifferent_requireActive fun _ => ?_
  have hend (last : Int) : Indifferent platform B es (do
      let _ ← submit (.submitGoaway last errorCode debugData)
      return Started.value .none) :=
    relates_then (indifferent_submit _) fun _ => indifferent_return _
  cases lastStreamId with
  | none => exact relates_then (indifferent_ask _) fun _ => hend _
  | some last => exact hend _

theorem indifferent_sendShutdownNotice : Indifferent platform B es sendShutdownNotice :=
  relates_then indifferent_requireActive fun _ =>
    relates_then (indifferent_requireServer _) fun _ =>
    relates_then (indifferent_submit _) fun _ => indifferent_return _

theorem indifferent_setLocalWindowSize (size : Nat) (s : StreamId) :
    Indifferent platform B es (setLocalWindowSize size s) := by
  have hend : Indifferent platform B es (do
      let _ ← submit (.sessionSetLocalWindowSize s size)
      return Started.value .none) :=
    relates_then (indifferent_submit _) fun _ => indifferent_return _
  exact relates_then indifferent_requireActive fun _ =>
    relates_ite Iff.rfl (fun _ => relates_then (indifferent_requireStream _) fun _ => hend)
      fun _ => hend

theorem indifferent_sendPriorityUpdate (s : StreamId) (fieldValue : Option Bytes) :
    Indifferent platform B es (sendPriorityUpdate s fieldValue) := by
  refine relates_then indifferent_requireActive fun _ =>
    relates_then (indifferent_requireClient _) fun _ => relates_then (indifferent_ask _) fun _ =>
      relates_ite Iff.rfl (fun _ => indifferent_return _) fun _ => ?_
  cases fieldValue with
  | none => exact relates_raise _
  | some fieldValue => exact relates_then (indifferent_submit _) fun _ => indifferent_return _

theorem indifferent_setStreamPriority (s : StreamId) (urgency : Nat)
    (incremental ignoreClientSignal : Bool) :
    Indifferent platform B es (setStreamPriority s urgency incremental ignoreClientSignal) :=
  relates_then indifferent_requireActive fun _ =>
    relates_then (indifferent_requireServer _) fun _ =>
    indifferent_look (fun _ _ => rfl) fun _ =>
      relates_ite Iff.rfl (fun _ => indifferent_return _) fun _ =>
        relates_then (indifferent_requireStream _) fun _ => relates_then (indifferent_submit _)
          fun _ => indifferent_return _

theorem indifferent_getStreamPriority (s : StreamId) :
    Indifferent platform B es (getStreamPriority s) :=
  relates_then indifferent_requireActive fun _ =>
    relates_then (indifferent_requireServer _) fun _ =>
    indifferent_look (fun _ _ => rfl) fun _ =>
      relates_ite Iff.rfl (fun _ => indifferent_return _) fun _ =>
        relates_then (indifferent_requireStream _) fun _ => relates_then (indifferent_ask _)
          fun _ => relates_then relates_read fun _ => indifferent_return _

theorem indifferent_sendAltSvc (s : StreamId) (origin fieldValue : Bytes) :
    Indifferent platform B es (sendAltSvc s origin fieldValue) :=
  relates_then indifferent_requireActive fun _ =>
    relates_then (indifferent_requireServer _) fun _ =>
    relates_then (indifferent_submit _) fun _ => indifferent_return _

theorem indifferent_sendOrigins (origins : List Bytes) :
    Indifferent platform B es (sendOrigins origins) := by
  have hend : Indifferent platform B es (do
      let _ ← submit (.submitOrigin origins)
      return Started.value .none) :=
    relates_then (indifferent_submit _) fun _ => indifferent_return _
  exact relates_then indifferent_requireActive fun _ =>
    relates_then (indifferent_requireServer _) fun _ =>
      relates_ite Iff.rfl (fun _ => relates_then (relates_allocate _) fun _ => hend)
        fun _ => hend

theorem indifferent_wants (q : EngineCall) : Indifferent platform B es (wants q) :=
  relates_then indifferent_requireDrivable fun _ => relates_then (indifferent_ask _) fun _ =>
    indifferent_return _

theorem indifferent_nextStreamId : Indifferent platform B es nextStreamId :=
  relates_then indifferent_requireActive fun _ => relates_then (indifferent_ask _) fun _ =>
    indifferent_return _

theorem indifferent_canSendRequest : Indifferent platform B es canSendRequest :=
  relates_then indifferent_requireDrivable fun _ => indifferent_look (fun _ _ => rfl) fun _ =>
    relates_ite Iff.rfl (fun _ => indifferent_return _) fun _ =>
      relates_then (indifferent_ask _) fun _ => indifferent_return _

theorem indifferent_windowSize (connection : EngineCall) (stream : StreamId → EngineCall)
    (s : StreamId) : Indifferent platform B es (windowSize connection stream s) :=
  relates_then indifferent_requireActive fun _ =>
    relates_ite Iff.rfl
      (fun _ => relates_then (indifferent_ask _) fun _ => indifferent_return _) fun _ =>
        relates_then (indifferent_requireStream _) fun _ => relates_then (indifferent_ask _)
          fun _ => indifferent_return _

theorem indifferent_settingsSnapshot (q : Nat → EngineCall) :
    Indifferent platform B es (settingsSnapshot q) :=
  relates_then indifferent_requireActive fun _ =>
    relates_then (relates_mapM (fun _ => relates_then (indifferent_ask _) fun _ =>
      indifferent_return _) _) fun _ => indifferent_return _

/-! ## The callbacks and the returns -/

theorem indifferent_discardDataPayload : Indifferent platform B es discardDataPayload :=
  indifferent_look (fun _ _ => rfl) fun _ =>
    relates_then (indifferent_assign (fun _ _ => rfl) fun _ => rfl) fun _ =>
      relates_ite Iff.rfl
        (fun _ => relates_then (indifferent_ask _) fun _ => indifferent_host <|
          relates_raiseIf Iff.rfl _)
        fun _ => indifferent_return _

theorem indifferent_resizeOutput (target : Nat) : Indifferent platform B es (resizeOutput target) :=
  relates_then relates_read fun _ => relates_ite Iff.rfl
    (fun _ => indifferent_assign (fun _ _ => rfl) fun _ => rfl)
    fun _ => relates_then (indifferent_assign (fun _ _ => rfl) fun _ => rfl) fun _ =>
      relates_raise _

theorem indifferent_reserveOutput (length : Nat) :
    Indifferent platform B es (reserveOutput length) := by
  refine indifferent_look (fun _ _ => rfl) fun c => indifferent_host <|
    relates_then (relates_raiseIf Iff.rfl _) fun _ => ?_
  have hend : Indifferent platform B es (do
      update fun c' => { c' with outputSize := c.outputSize + length }
      return c.outputSize) :=
    relates_then (indifferent_assign (fun _ _ => rfl) fun _ => rfl) fun _ => indifferent_return _
  exact relates_ite Iff.rfl (fun _ => relates_then (indifferent_resizeOutput _) fun _ => hend)
    fun _ => hend

theorem indifferent_collectOutput (data : Bytes) :
    Indifferent platform B es (collectOutput data) := by
  refine indifferent_look (fun _ _ => rfl) fun _ =>
    relates_ite Iff.rfl (fun _ => indifferent_return _) fun _ =>
      relates_attempt ?_ indifferent_callbackFailed
  exact relates_then (indifferent_reserveOutput _) fun _ =>
    relates_then (indifferent_assign (fun _ _ => rfl) fun _ => rfl) fun _ =>
      relates_then (indifferent_assign (fun _ _ => rfl) fun _ => rfl) fun _ => indifferent_return _

theorem indifferent_beginFrame (isData : Bool) (s : StreamId) (length : Nat) :
    Indifferent platform B es (beginFrame isData s length) := by
  refine relates_ite Iff.rfl (fun _ => indifferent_return _) fun _ =>
    relates_attempt ?_ indifferent_callbackFailed
  exact relates_then indifferent_discardDataPayload fun _ =>
    relates_then (relates_allocate _) fun _ =>
      relates_then (indifferent_assign (fun _ _ => rfl) fun _ => rfl) fun _ => indifferent_return _

theorem indifferent_beginHeaders : Indifferent platform B es beginHeaders := by
  refine relates_attempt (relates_then (relates_allocate _) fun _ => ?_) indifferent_callbackFailed
  exact relates_then (indifferent_assign (fun _ _ => rfl) fun _ => rfl) fun _ =>
    indifferent_return _

theorem indifferent_header (name value : Bytes) (noIndex : Bool) :
    Indifferent platform B es (header name value noIndex) := by
  refine relates_attempt ?_ indifferent_callbackFailed
  refine relates_then (indifferent_assign (fun _ _ => rfl) fun _ => rfl) fun _ =>
    indifferent_look (fun _ _ => rfl) fun _ => relates_then (relates_raiseIf Iff.rfl _)
      fun _ => relates_then (relates_raiseIf Iff.rfl _) fun _ => ?_
  exact relates_then (relates_allocate _) fun _ => relates_then (relates_allocate _)
    fun _ => relates_then (relates_allocate _) fun _ =>
      relates_then (indifferent_assign (fun _ _ => rfl) fun _ => rfl) fun _ => indifferent_return _

theorem indifferent_dataChunk (s : StreamId) (data : Bytes) :
    Indifferent platform B es (dataChunk s data) := by
  refine relates_attempt (indifferent_look (fun _ _ => rfl) fun c => ?_) indifferent_callbackFailed
  cases c.dataPayload with
  | none => exact relates_raise _
  | some payload =>
    exact relates_then (relates_raiseIf Iff.rfl _) fun _ =>
      relates_then (indifferent_assign (fun _ _ => rfl) fun _ => rfl) fun _ => indifferent_return _

theorem indifferent_takePayload : Indifferent platform B es takePayload := by
  refine indifferent_look (fun _ _ => rfl) fun c =>
    relates_then (indifferent_assign (fun _ _ => rfl) fun _ => rfl) fun _ => ?_
  cases c.dataPayload with
  | none => exact indifferent_return _
  | some buffer =>
    exact relates_ite Iff.rfl (fun _ => indifferent_return _) fun _ =>
      relates_ite Iff.rfl
        (fun _ => relates_then (relates_allocate _) fun _ => indifferent_return _)
        fun _ => indifferent_return _

theorem indifferent_dataFrameReceived (frame : Frame) :
    Indifferent platform B es (dataFrameReceived frame) := by
  refine relates_then indifferent_takePayload fun _ => indifferent_look (fun _ _ => rfl) fun _ => ?_
  exact relates_ite Iff.rfl
    (fun _ => relates_then (indifferent_assign (fun _ _ => rfl) fun _ => rfl) fun _ =>
      indifferent_publish _)
    fun _ => indifferent_publish _

theorem indifferent_rememberGoaway (errorCode : Nat) (opaqueData : Bytes) :
    Indifferent platform B es (rememberGoaway errorCode opaqueData) :=
  relates_then (indifferent_assign (fun _ _ => rfl) fun _ => rfl) fun _ =>
    relates_then (relates_allocate _) fun _ => indifferent_assign (fun _ _ => rfl) fun _ => rfl

theorem indifferent_frameReceived (frame : Frame) :
    Indifferent platform B es (frameReceived frame) := by
  refine relates_attempt (relates_then ?_ fun _ => indifferent_return _) indifferent_callbackFailed
  have hblock (event : List Header → Event) : Indifferent platform B es (do
      publishBlock (event (← conn).currentHeaders)) :=
    indifferent_look (fun _ _ => rfl) fun _ => relates_then (indifferent_publish _) fun _ =>
      relates_then (relates_allocate _) fun _ => indifferent_assign (fun _ _ => rfl) fun _ => rfl
  unfold dispatchFrame
  cases frame.payload with
  | headers category => exact hblock _
  | pushPromise promised => exact hblock _
  | data => exact indifferent_dataFrameReceived _
  | settings entries =>
    exact relates_ite Iff.rfl (fun _ => indifferent_publish _) fun _ => indifferent_publish _
  | rstStream errorCode => exact indifferent_publish _
  | ping opaqueData =>
    exact relates_then (relates_allocate _) fun _ =>
      relates_ite Iff.rfl (fun _ => indifferent_publish _) fun _ => indifferent_publish _
  | windowUpdate increment => exact indifferent_publish _
  | goaway last errorCode opaqueData =>
    exact relates_then (indifferent_rememberGoaway _ _) fun _ => indifferent_publish _
  | altsvc origin fieldValue =>
    exact relates_then (relates_allocate _) fun _ => relates_then (relates_allocate _)
      fun _ => indifferent_publish _
  | origin origins =>
    exact relates_then (relates_forM (fun _ => relates_allocate _) _) fun _ =>
      indifferent_publish _
  | priorityUpdate s fieldValue =>
    exact relates_then (relates_allocate _) fun _ => indifferent_publish _
  | other type => exact indifferent_return _

theorem indifferent_frameSent (session : Option SessionId) (frame : Frame) :
    Indifferent platform B es (frameSent session frame) := by
  refine indifferent_look (fun _ _ => rfl) fun _ => relates_ite Iff.rfl
    (fun _ => relates_attempt ?_ indifferent_callbackFailed) fun _ => ?_
  · refine indifferent_look (fun _ _ => rfl) fun c =>
      relates_then (indifferent_assign (fun _ _ => rfl) fun _ => rfl) fun _ => ?_
    cases c.deferredResets.lookup frame.streamId with
    | none => exact indifferent_return _
    | some errorCode =>
      refine relates_then (indifferent_askOn _ _) fun _ => relates_ite Iff.rfl (fun _ => ?_)
        fun _ => indifferent_return _
      exact relates_then (indifferent_askOn _ _) fun _ => indifferent_host <|
        relates_then (relates_raiseIf Iff.rfl _) fun _ => indifferent_return _
  · cases frame.payload with
    | goaway last errorCode opaqueData =>
      exact relates_attempt
        (relates_then (indifferent_rememberGoaway _ _) fun _ => indifferent_return _)
        indifferent_callbackFailed
    | _ => exact indifferent_return _

theorem indifferent_frameNotSent (session : Option SessionId) (frame : Frame) (errorCode : Int) :
    Indifferent platform B es (frameNotSent session frame errorCode) := by
  refine relates_attempt ?_ indifferent_callbackFailed
  unfold recordFailure
  cases frame.failedStream with
  | none => exact indifferent_return _
  | some s =>
    refine relates_ite Iff.rfl (fun _ => indifferent_return _) fun _ =>
      relates_then (relates_allocate _) fun _ => indifferent_host <|
        relates_then (indifferent_assign (fun _ _ => rfl) fun _ => rfl) fun _ => ?_
    exact relates_ite Iff.rfl
      (fun _ => relates_then (indifferent_askOn _ _) fun _ => indifferent_host <|
        relates_then (relates_raiseIf Iff.rfl _) fun _ => indifferent_return _)
      fun _ => indifferent_return _

theorem indifferent_finishSend (result : Int) : Indifferent platform B es (finishSend result) := by
  have htake : Indifferent platform B es takeOutput := by
    refine indifferent_look (fun _ _ => rfl) fun c => ?_
    cases c.output with
    | none => exact indifferent_return _
    | some buffer =>
      refine relates_then relates_read fun _ => relates_ite Iff.rfl (fun _ => ?_) fun _ => ?_
      · exact relates_then (indifferent_assign (fun _ _ => rfl) fun _ => rfl) fun _ =>
          indifferent_return _
      · exact relates_then (indifferent_assign (fun _ _ => rfl) fun _ => rfl) fun _ =>
          relates_raise _
  refine relates_then (relates_attempt ?_ fun _ => relates_then indifferent_fail fun _ =>
    relates_raise _) fun _ => relates_then (indifferent_assign (fun _ _ => rfl) fun _ => rfl)
      fun _ => indifferent_return _
  exact relates_then (indifferent_raiseCallbackOrNative _) fun _ =>
    indifferent_look (fun _ _ => rfl) fun _ => relates_ite Iff.rfl
      (fun _ => relates_then indifferent_updateTerminalState fun _ => htake) fun _ => htake

theorem indifferent_finishReceive (length : Nat) (result : Int) :
    Indifferent platform B es (finishReceive length result) := by
  have hend : Indifferent platform B es (do
      if (← conn).closing then updateTerminalState
      return Value.none) :=
    indifferent_look (fun _ _ => rfl) fun _ => relates_ite Iff.rfl
      (fun _ => relates_then indifferent_updateTerminalState fun _ => indifferent_return _)
      fun _ => indifferent_return _
  exact relates_then (indifferent_raiseCallbackOrNative _) fun _ => relates_ite Iff.rfl
    (fun _ => relates_then indifferent_fail fun _ => relates_then (relates_raise _) fun _ => hend)
    fun _ => hend

theorem indifferent_finishUpgrade (entries : List (Nat × Nat)) (result : Int) :
    Indifferent platform B es (finishUpgrade entries result) := by
  have hend : Indifferent platform B es (do
      update fun c => { c with active := true }
      return Value.none) :=
    relates_then (indifferent_assign (fun _ _ => rfl) fun _ => rfl) fun _ => indifferent_return _
  have hpriority : Indifferent platform B es (do
      update fun c => { c with localExtensiblePriority := decide ((9, 1) ∈ entries) }
      update fun c => { c with active := true }
      return Value.none) :=
    relates_then (indifferent_assign (fun _ _ => rfl) fun _ => rfl) fun _ => hend
  refine relates_then (indifferent_raiseCallbackOrNative _) fun _ =>
    indifferent_look (fun _ _ => rfl) fun _ => relates_ite Iff.rfl (fun _ => ?_) fun _ => hend
  refine relates_then (indifferent_ask _) fun _ => relates_ite Iff.rfl (fun _ => ?_)
    fun _ => hpriority
  exact relates_then indifferent_fail fun _ => indifferent_host <|
    relates_then (relates_raise _) fun _ => hpriority

theorem indifferent_finish (d : Drive) (result : Int) :
    Indifferent platform B es (d.finish result) := by
  cases d with
  | send => exact indifferent_finishSend _
  | receive length => exact indifferent_finishReceive _ _
  | upgrade entries => exact indifferent_finishUpgrade _ _

/-! ## The operations that look at bodies -/

section Held

variable (hB : BodyCongruence platform.pointerWidth B)

include hB

theorem indifferent_queuedBodySize (s : Option StreamId) :
    Indifferent platform B es (queuedBodySize s) := by
  cases s with
  | none => exact indifferent_look (fun _ _ => rfl) fun _ => indifferent_return _
  | some s =>
    refine indifferent_conn fun c c' h => ?_
    dsimp only
    obtain ⟨hc, hc'⟩ | ⟨b, b', hc, hc', hb⟩ := h.lookup s
    · rw [hc, hc']
      exact indifferent_return _
    · rw [hc, hc']
      exact relates_pure (by rw [hB.queuedSize hb])

theorem indifferent_openBody (s : StreamId) :
    Relates (fun _ => World.Alike platform B es) B (openBody s) (openBody s) := by
  refine indifferent_conn fun c c' h => ?_
  obtain ⟨hc, hc'⟩ | ⟨b, b', hc, hc', hb⟩ := h.lookup s
  · rw [hc, hc']
    exact relates_raise _
  · rw [hc, hc']
    exact relates_then (relates_raiseIf (by rw [hB.ended hb]) _) fun _ => relates_pure hb

theorem indifferent_recordBody (s : StreamId) : Indifferent platform B es (recordBody s) :=
  relates_then (relates_allocate _) fun _ => indifferent_setBody hB.empty s

theorem indifferent_sendRequest (headers : List Header) (endStream : Bool) :
    Indifferent platform B es (sendRequest headers endStream) := by
  refine relates_then indifferent_requireActive fun _ =>
    relates_then (indifferent_requireClient _) fun _ => relates_then (indifferent_ask _) fun _ =>
      relates_then (relates_raiseIf Iff.rfl _) fun _ =>
        relates_then (indifferent_submit _) fun s => ?_
  have hreport : Indifferent platform B es (do
      allocate .identifier
      return Started.value (.streamId s)) :=
    relates_then (relates_allocate _) fun _ => indifferent_return _
  exact relates_ite Iff.rfl
    (fun _ => relates_then (indifferent_recordBody hB s) fun _ => hreport) fun _ => hreport

theorem indifferent_sendResponse (s : StreamId) (headers : List Header) (endStream : Bool) :
    Indifferent platform B es (sendResponse s headers endStream) := by
  refine relates_then indifferent_requireActive fun _ =>
    relates_then (indifferent_requireServer _) fun _ => relates_then (indifferent_requireStream _)
      fun _ => indifferent_look (fun _ _ => rfl) fun _ =>
        relates_then (relates_raiseIf Iff.rfl _) fun _ =>
          relates_then (indifferent_submit _) fun _ => relates_then (relates_allocate _) fun _ =>
            relates_then (indifferent_assign (fun _ _ => rfl) fun _ => rfl) fun _ => ?_
  exact relates_ite Iff.rfl
    (fun _ => relates_then (indifferent_recordBody hB s) fun _ => indifferent_return _)
    fun _ => indifferent_return _

theorem indifferent_resumeBody {b b' : BodySource} (hb : B b b') (s : StreamId) :
    Relates (fun _ => World.Alike platform B es) Eq (resumeBody s b) (resumeBody s b') := by
  refine relates_then (indifferent_submit _) fun _ => indifferent_setBody ?_ s
  show B { b with deferred := false } { b' with
    ended := b'.ended, deferred := false, trailers := b'.trailers }
  rw [hB.ended hb, hB.trailers hb]
  exact hB.flags hb b.ended false b.trailers

theorem indifferent_sendTrailers (s : StreamId) (headers : List Header) :
    Indifferent platform B es (sendTrailers s headers) := by
  refine relates_then indifferent_requireActive fun _ =>
    relates_bind (indifferent_openBody hB s) fun b b' hb => ?_
  have hended : B { b with trailers := some headers, ended := true }
      { b' with trailers := some headers, ended := true, deferred := b'.deferred } := by
    rw [hB.deferred hb]
    exact hB.flags hb true b.deferred (some headers)
  refine relates_then (indifferent_setBody hended s) fun _ => ?_
  exact relates_ite (by rw [hB.deferred hb])
    (fun _ => relates_then (indifferent_resumeBody hB hended s) fun _ => indifferent_return _)
    fun _ => indifferent_return _

theorem indifferent_queueChunk {b b' : BodySource} (hb : B b b') (s : StreamId) (chunk : Bytes)
    (endStream : Bool) : Relates (fun _ => World.Alike platform B es) B
      (queueChunk s b chunk endStream) (queueChunk s b' chunk endStream) := by
  refine indifferent_host ?_
  have happended := hB.append hb chunk endStream
  exact relates_then (indifferent_setBody happended s) fun _ =>
    relates_then (indifferent_assign (fun _ _ => rfl) fun _ => rfl) fun _ => relates_pure happended

theorem indifferent_sendData (s : StreamId) (chunk : Bytes) (endStream : Bool) :
    Indifferent platform B es (sendData s chunk endStream) := by
  refine relates_then indifferent_requireActive fun _ =>
    relates_bind (indifferent_openBody hB s) fun b b' hb =>
      relates_bind (indifferent_queueChunk hB hb s chunk endStream) fun b b' happended => ?_
  exact relates_ite (by rw [hB.deferred happended])
    (fun _ => relates_then (indifferent_resumeBody hB happended s) fun _ => indifferent_return _)
    fun _ => indifferent_return _

theorem locallyEnded_alike {c c' : Connection} (h : c.Alike B es c') (s : StreamId) :
    c'.locallyEnded s = c.locallyEnded s := by
  have hlookup := h.lookup s
  obtain ⟨bodies, -⟩ := h
  unfold Connection.locallyEnded
  obtain ⟨hc, hc'⟩ | ⟨b, b', hc, hc', hb⟩ := hlookup
  · rw [hc, hc']
  · rw [hc, hc']
    exact hB.ended hb

theorem indifferent_resetStream (s : StreamId) (errorCode : Nat) (afterEndStream : Bool) :
    Indifferent platform B es (resetStream s errorCode afterEndStream) := by
  have hend : Indifferent platform B es (do
      let _ ← submit (.submitRstStream s errorCode)
      return Started.value .none) :=
    relates_then (indifferent_submit _) fun _ => indifferent_return _
  refine relates_then indifferent_requireActive fun _ => relates_ite Iff.rfl (fun _ => ?_)
    fun _ => hend
  refine relates_then (indifferent_requireStream _) fun _ => relates_then (indifferent_ask _)
    fun _ => relates_ite Iff.rfl (fun _ => ?_) fun _ => hend
  refine indifferent_conn fun c c' h => ?_
  refine relates_then (relates_raiseIf (by rw [locallyEnded_alike hB h]) _) fun _ => ?_
  exact relates_then (indifferent_assign (fun _ _ => rfl) fun _ => rfl) fun _ =>
    indifferent_return _

/-- **Every operation but `events` makes no difference.** -/
theorem indifferent_request {r : Request} (hr : r ≠ .takeEvents) :
    Indifferent platform B es r.body := by
  cases r with
  | takeEvents => exact absurd rfl hr
  | init => exact indifferent_init _ _
  | initiateConnection => exact indifferent_initiateConnection _
  | initiateUpgrade => exact indifferent_initiateUpgrade _ _ _
  | receiveData => exact indifferent_receiveData _
  | dataToSend => exact indifferent_dataToSend _
  | sendRequest => exact indifferent_sendRequest hB _ _
  | sendResponse => exact indifferent_sendResponse hB _ _ _
  | sendInformationalResponse => exact indifferent_sendInformationalResponse _ _
  | sendTrailers => exact indifferent_sendTrailers hB _ _
  | sendPushPromise => exact indifferent_sendPushPromise _ _
  | sendData => exact indifferent_sendData hB _ _ _
  | resetStream => exact indifferent_resetStream hB _ _ _
  | updateSettings => exact indifferent_updateSettings _
  | sendPing => exact indifferent_sendPing _
  | sendGoaway => exact indifferent_sendGoaway _ _ _
  | sendShutdownNotice => exact indifferent_sendShutdownNotice
  | terminateConnection => exact indifferent_terminateConnection _ _
  | consumeReceivedData => exact indifferent_consumeReceivedData _ _
  | setLocalWindowSize => exact indifferent_setLocalWindowSize _ _
  | sendPriorityUpdate => exact indifferent_sendPriorityUpdate _ _
  | setStreamPriority => exact indifferent_setStreamPriority _ _ _ _
  | getStreamPriority => exact indifferent_getStreamPriority _
  | sendAltSvc => exact indifferent_sendAltSvc _ _ _
  | sendOrigins => exact indifferent_sendOrigins _
  | wantRead => exact indifferent_wants _
  | wantWrite => exact indifferent_wants _
  | nextStreamId => exact indifferent_nextStreamId
  | canSendRequest => exact indifferent_canSendRequest
  | queuedBodySize => exact indifferent_queuedBodySize hB _
  | remoteWindowSize => exact indifferent_windowSize _ _ _
  | localWindowSize => exact indifferent_windowSize _ _ _
  | localSettings => exact indifferent_settingsSnapshot _
  | remoteSettings => exact indifferent_settingsSnapshot _

/-! ## The callbacks that look at bodies -/

theorem indifferent_copyBody {b b' : BodySource} (hb : B b b') (s : StreamId) (length : Nat) :
    Relates (fun _ => World.Alike platform B es) Eq (copyBody s b length)
      (copyBody s b' length) := by
  refine indifferent_host (indifferent_conn fun c c' h => ?_)
  obtain ⟨bodies, -⟩ := h
  obtain ⟨result, t, t', hloop, hloop', hcopied, hqueued, hbody, hcompact⟩ :=
    hB.copied hb length c.queuedBodySize
  dsimp only
  rw [hloop, hloop']
  dsimp only
  rw [hcopied, hqueued]
  exact relates_then (indifferent_assign (fun _ _ => rfl) fun _ => rfl) fun _ =>
    relates_then (indifferent_setBody hbody s) fun _ => relates_then (relates_lift _) fun _ =>
      relates_then (indifferent_setBody hcompact s) fun _ => indifferent_return _

theorem indifferent_sendBody (s : StreamId) (padlen : Nat) (frameHeader : FrameHeader)
    (length : Nat) : Indifferent platform B es (sendBody s padlen frameHeader length) := by
  have hwrite (offset : Nat) (data : Bytes) : Indifferent platform B es (writeOutput offset data) :=
    indifferent_assign (fun _ _ => rfl) fun _ => rfl
  refine relates_attempt ?_ indifferent_callbackFailed
  refine indifferent_look (fun _ _ => rfl) fun _ =>
    relates_then (relates_raiseIf Iff.rfl _) fun _ =>
      relates_bind (indifferent_bodyOf s) fun b b' hb => ?_
  refine indifferent_host <| relates_then (relates_raiseIf Iff.rfl _)
    fun _ => relates_then (indifferent_reserveOutput _) fun _ => relates_then (hwrite _ _) fun _ =>
      ?_
  exact relates_then (indifferent_copyBody hB hb s length) fun _ => relates_then (hwrite _ _)
    fun _ => relates_then (relates_raiseIf Iff.rfl _) fun _ =>
      relates_then (indifferent_assign (fun _ _ => rfl) fun _ => rfl) fun _ => indifferent_return _

theorem indifferent_dataFrameLength (s : StreamId) (remoteMaxFrameSize : Nat) :
    Indifferent platform B es (dataFrameLength s remoteMaxFrameSize) := by
  refine indifferent_conn fun c c' h => ?_
  have hlookup := h.lookup s
  obtain ⟨bodies, -⟩ := h
  obtain ⟨hc, hc'⟩ | ⟨b, b', hc, hc', hb⟩ := hlookup
  · rw [hc, hc']
    exact indifferent_return _
  · rw [hc, hc']
    exact relates_pure (by rw [hB.queuedSize hb])

theorem indifferent_finishRead (session : Option SessionId) (s : StreamId) (reply : Reply)
    (complete : Bool) : Indifferent platform B es (finishRead session s reply complete) := by
  refine relates_bind (indifferent_bodyOf s) fun b b' hb => relates_ite Iff.rfl (fun _ => ?_)
    fun _ => relates_ite Iff.rfl (fun _ => indifferent_return _) fun _ => ?_
  · rw [hB.trailers hb]
    cases htrailers : b.trailers with
    | none => exact indifferent_return _
    | some trailers =>
      have hsent : B { b with trailers := none }
          { b' with trailers := none, ended := b'.ended, deferred := b'.deferred } := by
        rw [hB.ended hb, hB.deferred hb]
        exact hB.flags hb b.ended b.deferred none
      exact relates_then (relates_allocate _) fun _ => relates_then (indifferent_askOn _ _)
        fun _ => indifferent_host <|
          relates_then (relates_raiseIf Iff.rfl _) fun _ =>
            relates_then (indifferent_setBody hsent s) fun _ => indifferent_return _
  · have hdeferred : B { b with deferred := true }
        { b' with deferred := true, ended := b'.ended, trailers := b'.trailers } := by
      rw [hB.ended hb, hB.trailers hb]
      exact hB.flags hb b.ended true b.trailers
    exact relates_then (indifferent_setBody hdeferred s) fun _ => indifferent_return _

theorem indifferent_readBody (session : Option SessionId) (s : StreamId) (length : Nat) :
    Indifferent platform B es (readBody session s length) := by
  refine indifferent_look (fun _ _ => rfl) fun _ =>
    relates_ite Iff.rfl (fun _ => indifferent_return _) fun _ => relates_attempt ?_ fun _ =>
      relates_then (indifferent_callbackFailed _) fun _ => indifferent_return _
  refine indifferent_look (fun _ _ => rfl) fun _ =>
    relates_bind (indifferent_bodyOf s) fun b b' hb => ?_
  rw [hB.queuedSize hb, hB.ended hb]
  refine relates_ite Iff.rfl (fun _ => indifferent_finishRead hB _ _ _ _) fun _ =>
    relates_then (indifferent_copyBody hB hb s length) fun buffer =>
      relates_bind (indifferent_bodyOf s) fun t t' ht => ?_
  have hcomplete : (t'.ended && decide (t'.head = t'.chunks.length))
      = (t.ended && decide (t.head = t.chunks.length)) := by
    rw [hB.ended ht, decide_eq_decide.mpr (hB.used ht).symm]
  rw [hcomplete]
  exact indifferent_finishRead hB _ _ _ _

omit hB in
/-- Releasing the body of a stream. -/
theorem indifferent_releaseBody (s : StreamId) (width : PointerWidth) {o o' : Option BodySource}
    (ho : ∀ queued, uncountQueued width queued o' = uncountQueued width queued o) :
    Relates (fun _ => World.Alike platform B es) Eq
      (update fun c => { c with
        bodies := c.bodies.erase s
        queuedBodySize := uncountQueued width c.queuedBodySize o })
      (update fun c => { c with
        bodies := c.bodies.erase s
        queuedBodySize := uncountQueued width c.queuedBodySize o' }) := by
  refine indifferent_update ?_
  rintro c _ ⟨bodies, held⟩
  rw [ho]
  refine Connection.Alike.intro (c := { c with
    bodies := c.bodies.erase s
    queuedBodySize := uncountQueued width c.queuedBodySize o })
    (bodies.erase s) fun t => ?_
  by_cases ht : t = s
  · subst ht
    show Option.Rel B ((c.bodies.erase t).lookup t) ((bodies.erase t).lookup t)
    rw [Finmap.lookup_erase, Finmap.lookup_erase]
    exact .none
  · show Option.Rel B ((c.bodies.erase s).lookup t) ((bodies.erase s).lookup t)
    rw [Finmap.lookup_erase_ne ht, Finmap.lookup_erase_ne ht]
    exact held t

theorem indifferent_streamClosed (s : StreamId) (errorCode : Nat) :
    Indifferent platform B es (streamClosed s errorCode) := by
  refine relates_attempt (indifferent_host <|
    indifferent_conn fun c c' h => ?_) indifferent_callbackFailed
  have hsize (queued : Nat) : uncountQueued platform.pointerWidth queued (c'.bodies.lookup s)
      = uncountQueued platform.pointerWidth queued (c.bodies.lookup s) := by
    obtain ⟨hc, hc'⟩ | ⟨b, b', hc, hc', hb⟩ := h.lookup s
    · rw [hc, hc']
    · rw [hc, hc', uncountQueued, uncountQueued, hB.queuedSize hb]
  have hend : Indifferent platform B es (do
      update fun c => { c with
        responses := c.responses.erase s
        deferredResets := c.deferredResets.erase s }
      let localError := (← conn).localStreamErrors.lookup s
      update fun c => { c with localStreamErrors := c.localStreamErrors.erase s }
      publish (.streamClosed s errorCode localError)
      return (0 : Int)) :=
    relates_then (indifferent_assign (fun _ _ => rfl) fun _ => rfl) fun _ =>
      indifferent_look (fun _ _ => rfl) fun _ =>
        relates_then (indifferent_assign (fun _ _ => rfl) fun _ => rfl) fun _ =>
          relates_then (indifferent_publish _) fun _ => indifferent_return _
  refine relates_then (indifferent_releaseBody s _ hsize) fun _ =>
    indifferent_look (fun _ _ => rfl) fun _ => ?_
  exact relates_ite Iff.rfl
    (fun _ => relates_then indifferent_discardDataPayload fun _ => hend) fun _ => hend

/-- **Every callback makes no difference.** -/
theorem indifferent_callback (session : Option SessionId) (cb : Callback) :
    Indifferent platform B es (cb.body session) := by
  have hcode {f : M Int} (hf : Indifferent platform B es f) :
      Indifferent platform B es (do return ({ code := ← f } : Reply)) :=
    relates_then hf fun _ => indifferent_return _
  cases cb with
  | collectOutput => exact hcode (indifferent_collectOutput _)
  | sendBody => exact hcode (indifferent_sendBody hB _ _ _ _)
  | dataFrameLength => exact hcode (indifferent_dataFrameLength hB _ _)
  | readBody => exact indifferent_readBody hB _ _ _
  | beginFrame => exact hcode (indifferent_beginFrame _ _ _)
  | beginHeaders => exact hcode indifferent_beginHeaders
  | header => exact hcode (indifferent_header _ _ _)
  | invalidHeader => exact hcode (indifferent_return _)
  | dataChunk => exact hcode (indifferent_dataChunk _ _)
  | frameReceived => exact hcode (indifferent_frameReceived _)
  | streamClosed => exact hcode (indifferent_streamClosed hB _ _)
  | frameSent => exact hcode (indifferent_frameSent _ _)
  | frameNotSent => exact hcode (indifferent_frameNotSent _ _ _)

end Held

/-! ## The step -/

/-- Whether what happens is a call of `events`. -/
def Label.polls : Label → Bool
  | .request .takeEvents _ => true
  | _ => false

/-- What is left of worlds that are alike, with the same engine function on the
stack. -/
theorem World.Alike.machine {w w' : World} (h : w.Alike platform B es w') (host : Host)
    (drive : Option (Drive × Option SessionId)) :
    Machine.Alike B es ⟨host, w.conn, drive⟩ ⟨host, w'.conn, drive⟩ := by
  obtain ⟨-, hconn⟩ := h
  exact Machine.Alike.intro (m := ⟨host, w.conn, drive⟩) hconn

theorem World.Alike.issued {w w' : World} (h : w.Alike platform B es w') :
    w'.issued = w.issued := by
  obtain ⟨-⟩ := h
  rfl

theorem World.Alike.session {w w' : World} (h : w.Alike platform B es w') :
    w'.conn.session = w.conn.session := by
  obtain ⟨-, ⟨-, -⟩⟩ := h
  rfl

/-- **Machines that are alike take the same steps**: whatever happens to both,
but for a call of `events`, they answer alike and are alike again. -/
theorem Machine.Alike.step {m m' m₁ : Machine} {l : Label} {o : Outcome}
    (hB : BodyCongruence m.host.pointerWidth B) (h : m.Alike B es m') (hl : l.polls = false)
    (hstep : m.step l = some (o, m₁)) :
    ∃ m₁', m'.step l = some (o, m₁') ∧ m₁.Alike B es m₁' := by
  obtain @⟨c', hconn⟩ := h
  obtain ⟨host, c, drive⟩ := m
  have hworld : World.Alike host B es { host, conn := c } { host, conn := c' } := .intro rfl hconn
  cases l with
  | request r env =>
    have hr : r ≠ .takeEvents := fun he => absurd hl (by simp [he, Label.polls])
    obtain ⟨hagree, hafter⟩ := indifferent_request hB hr env _ _ hworld
    cases drive with
    | some d => exact absurd hstep (by simp [Machine.step])
    | none =>
      replace hstep : Machine.afterRequest _ (r.body.run env { host, conn := c }) = (o, m₁) :=
        Option.some.inj hstep
      show ∃ m₁', some (Machine.afterRequest ⟨host, c', none⟩ (r.body.run env { host, conn := c' }))
        = some (o, m₁') ∧ _
      generalize r.body.run env { host, conn := c } = p, r.body.run env { host, conn := c' } = p'
        at hagree hafter hstep ⊢
      obtain ⟨x, w⟩ := p
      obtain ⟨x', w'⟩ := p'
      obtain rfl : x = x' := hagree.eq
      have hissued : w'.issued = w.issued := hafter.issued
      have hsession : w'.conn.session = w.conn.session := hafter.session
      rcases x with e | value | d <;> cases hstep <;> refine ⟨_, ?_, hafter.machine host _⟩
      · exact congrArg (fun is => some (Outcome.mk (.raised e) is, _)) hissued
      · exact congrArg (fun is => some (Outcome.mk (.returned value) is, _)) hissued
      · show some (Outcome.mk .entered w'.issued, Machine.mk _ _ (some (d, w'.conn.session))) = _
        rw [hissued, hsession]
  | callback cb env =>
    cases drive with
    | none => exact absurd hstep (by simp [Machine.step])
    | some d =>
      obtain ⟨hagree, hafter⟩ := indifferent_callback hB d.2 cb env _ _ hworld
      replace hstep : Machine.afterCallback _ ((cb.body d.2).run env { host, conn := c })
        = (o, m₁) :=
        Option.some.inj hstep
      show ∃ m₁', some (Machine.afterCallback ⟨host, c', some d⟩
        ((cb.body d.2).run env { host, conn := c' })) = some (o, m₁') ∧ _
      generalize (cb.body d.2).run env { host, conn := c } = p,
        (cb.body d.2).run env { host, conn := c' } = p' at hagree hafter hstep ⊢
      obtain ⟨x, w⟩ := p
      obtain ⟨x', w'⟩ := p'
      obtain rfl : x = x' := hagree.eq
      have hissued : w'.issued = w.issued := hafter.issued
      cases x with
      | error | ok =>
        cases hstep
        exact ⟨_, congrArg (fun is => some (Outcome.mk (.replied _) is, _)) hissued,
          hafter.machine host _⟩
  | ret result env =>
    cases drive with
    | none => exact absurd hstep (by simp [Machine.step])
    | some d =>
      have hfinish : Indifferent host B es (d.1.finish result) := indifferent_finish d.1 result
      obtain ⟨hagree, hafter⟩ := hfinish env _ _ hworld
      replace hstep : Machine.afterReturn _ ((d.1.finish result).run env { host, conn := c })
        = (o, m₁) := Option.some.inj hstep
      show ∃ m₁', some (Machine.afterReturn ⟨host, c', some d⟩
        ((d.1.finish result).run env { host, conn := c' })) = some (o, m₁') ∧ _
      generalize (d.1.finish result).run env { host, conn := c } = p,
        (d.1.finish result).run env { host, conn := c' } = p' at hagree hafter hstep ⊢
      obtain ⟨x, w⟩ := p
      obtain ⟨x', w'⟩ := p'
      obtain rfl : x = x' := hagree.eq
      have hissued : w'.issued = w.issued := hafter.issued
      rcases x with e | value <;> cases hstep <;> refine ⟨_, ?_, hafter.machine host _⟩
      · exact congrArg (fun is => some (Outcome.mk (.raised e) is, _)) hissued
      · exact congrArg (fun is => some (Outcome.mk (.returned value) is, _)) hissued

end Bodies

end Ngh2
