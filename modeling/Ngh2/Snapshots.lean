import Mathlib.Data.List.Forall2
import Ngh2.HeaderFields
import Ngh2.RequestSteps

/-!
# What reaches the engine is what the caller yielded

The three ways a header argument is frozen – an exact container, a producer,
trailers that are submitted later – differ in when an item is unpacked and in
what is kept of it. They agree on what the engine is given: one entry for each
item, in order, with the bytes that unpacking the item gave and the flag that
its type gives (`Reads`).

Two things have to hold for that. An item whose unpacking runs the caller's
code is unpacked once, since a second time might give something else. And the
bytes that an entry points to are referenced by the private list, not only by
the caller's pair, since nothing else keeps them where they are
(`PointsInto`).
-/

namespace Ngh2

open Effect Conversion

variable {σ : Type} {C : Caller σ}

/-! ## What an exchange says -/

/-- The items the caller yielded, in order. -/
def yieldedItems (calls : List Call) : List Pair :=
  calls.filterMap fun
    | .yielded item => some item
    | _ => none

/-- What the caller answered about its items, in order. -/
def answers (calls : List Call) : List Call :=
  calls.filter fun
    | .yielded _ => false
    | _ => true

@[simp] theorem yieldedItems_append (calls calls' : List Call) :
    yieldedItems (calls ++ calls') = yieldedItems calls ++ yieldedItems calls' :=
  List.filterMap_append

@[simp] theorem answers_append (calls calls' : List Call) :
    answers (calls ++ calls') = answers calls ++ answers calls' := List.filter_append ..

@[simp] theorem yieldedItems_nil : yieldedItems [] = [] := rfl

@[simp] theorem answers_nil : answers [] = [] := rfl

/-- An exchange that only yields items yields these. -/
@[simp] theorem yieldedItems_yielded (items : List Pair) :
    yieldedItems (items.map .yielded) = items := by
  induction items with
  | nil => rfl
  | cons item items ih =>
    show item :: yieldedItems (items.map .yielded) = item :: items
    rw [ih]

/-- An exchange that only yields items answers nothing. -/
@[simp] theorem answers_yielded (items : List Pair) : answers (items.map .yielded) = [] := by
  induction items with
  | nil => rfl
  | cons item items ih => exact ih

/-! ## What an item says -/

/-- **What unpacking an item gives**, and what the caller is asked for it: the
elements of an exact pair are its own, and any other item is asked once. -/
inductive Pair.Opened : Pair → BytesObject → BytesObject → List Call → Prop
  | tuple (n v : BytesObject) : Opened (.tuple [.bytes n, .bytes v]) n v []
  | neverIndexed (n v : BytesObject) : Opened (.neverIndexed [.bytes n, .bytes v]) n v []
  | custom (r : Ref) (subtype : Bool) (n v : BytesObject) :
    Opened (.custom r subtype) n v [.unpacked r (.bytes n) (.bytes v)]

/-- **Whether an item is a `NeverIndexedHeader`**: its type says so, or its
`__class__` does. -/
inductive Pair.Judged : Pair → Bool → List Call → Prop
  | tuple (elements : List Object) : Judged (.tuple elements) false []
  | neverIndexed (elements : List Object) : Judged (.neverIndexed elements) true []
  | subtype (r : Ref) : Judged (.custom r true) true []
  | custom (r : Ref) (answer : Bool) : Judged (.custom r false) answer [.judged r answer]

/-- **The header fields that a list of items stands for**, given what the
caller answered about them: one for each, in order. -/
inductive Reads : List Pair → List Call → List Header → Prop
  | nil : Reads [] [] []
  | cons {item : Pair} {n v : BytesObject} {neverIndexed : Bool} {opening judging rest : List Call}
      {items : List Pair} {headers : List Header} (hopened : item.Opened n v opening)
      (hjudged : item.Judged neverIndexed judging) (h : Reads items rest headers) :
    Reads (item :: items) (opening ++ judging ++ rest)
      (⟨n.content, v.content, neverIndexed⟩ :: headers)

/-- The fields of two lists of items, one after the other. -/
theorem Reads.append {items items' : List Pair} {calls calls' : List Call}
    {headers headers' : List Header} (h : Reads items calls headers)
    (h' : Reads items' calls' headers') :
    Reads (items ++ items') (calls ++ calls') (headers ++ headers') := by
  induction h with
  | nil => exact h'
  | cons hopened hjudged _ ih =>
    rw [List.append_assoc _ _ calls']
    exact .cons hopened hjudged ih

/-- **The items and the answers determine the fields.** -/
theorem Reads.unique {items : List Pair} {calls : List Call} {headers headers' : List Header}
    (h : Reads items calls headers) (h' : Reads items calls headers') : headers = headers' := by
  induction items generalizing calls headers headers' with
  | nil =>
    cases h
    cases h'
    rfl
  | cons item items ih =>
    generalize hcalls : calls = calls' at h'
    cases h with
    | cons ho hj hrest =>
    cases h' with
    | cons ho' hj' hrest' =>
    cases ho <;> cases hj <;> cases ho' <;> cases hj' <;>
      simp only [List.nil_append, List.cons_append, List.cons.injEq, Call.unpacked.injEq,
        Call.judged.injEq, Object.bytes.injEq] at hcalls
    · exact congrArg _ (ih hrest (hcalls ▸ hrest'))
    · exact congrArg _ (ih hrest (hcalls ▸ hrest'))
    · obtain ⟨⟨-, rfl, rfl⟩, hcalls⟩ := hcalls
      exact congrArg _ (ih hrest (hcalls ▸ hrest'))
    · obtain ⟨⟨-, rfl, rfl⟩, ⟨-, rfl⟩, hcalls⟩ := hcalls
      exact congrArg _ (ih hrest (hcalls ▸ hrest'))

/-- The object that an answer is about, when it is the answer to an
unpacking. -/
def Call.unpackedRef : Call → Option Ref
  | .unpacked r _ _ => some r
  | _ => none

/-- The object that unpacking an item asks. -/
def Pair.customRef : Pair → Option Ref
  | .custom r _ => some r
  | _ => none

/-- **Every custom item is unpacked exactly once**, in the order of the items. -/
theorem Reads.unpackedRefs {items : List Pair} {calls : List Call} {headers : List Header}
    (h : Reads items calls headers) :
    calls.filterMap Call.unpackedRef = items.filterMap Pair.customRef := by
  induction h with
  | nil => rfl
  | cons hopened hjudged _ ih =>
    rw [List.filterMap_append, List.filterMap_append, ih]
    cases hopened <;> cases hjudged <;> rfl

/-- An answer to an unpacking or about a `__class__` yields no item. -/
theorem Pair.Opened.silent {item : Pair} {n v : BytesObject} {calls : List Call}
    (h : item.Opened n v calls) : yieldedItems calls = [] ∧ answers calls = calls := by
  cases h <;> exact ⟨rfl, rfl⟩

/-- An answer about a `__class__` yields no item. -/
theorem Pair.Judged.silent {item : Pair} {neverIndexed : Bool} {calls : List Call}
    (h : item.Judged neverIndexed calls) : yieldedItems calls = [] ∧ answers calls = calls := by
  cases h <;> exact ⟨rfl, rfl⟩

/-- An exact pair is the frozen pair of its elements, and nobody was asked. -/
theorem Pair.Opened.eq_frozenPair {item : Pair} {n v : BytesObject} {neverIndexed : Bool}
    {opening judging : List Call} (ho : item.Opened n v opening)
    (hj : item.Judged neverIndexed judging) (hexact : item.isExact = true) :
    item = frozenPair neverIndexed n v ∧ opening = [] ∧ judging = [] := by
  cases ho with
  | tuple => cases hj; exact ⟨rfl, rfl, rfl⟩
  | neverIndexed => cases hj; exact ⟨rfl, rfl, rfl⟩
  | custom => exact absurd hexact (by simp [Pair.isExact])

/-- The type of an exact pair says whether it is a `NeverIndexedHeader`. -/
theorem Pair.judged_of_isExact (item : Pair) (hexact : item.isExact = true) :
    ∃ neverIndexed calls, item.Judged neverIndexed calls := by
  match item with
  | .tuple elements => exact ⟨false, [], .tuple elements⟩
  | .neverIndexed elements => exact ⟨true, [], .neverIndexed elements⟩

@[simp] theorem isExact_frozenPair (neverIndexed : Bool) (n v : BytesObject) :
    (frozenPair neverIndexed n v).isExact = true := by
  cases neverIndexed <;> rfl

@[simp] theorem holds_frozenPair (neverIndexed : Bool) (n v : BytesObject) :
    (frozenPair neverIndexed n v).holds = [n, v] := by
  cases neverIndexed <;> rfl

/-- A frozen pair is determined by what it was made of. -/
theorem frozenPair_inj {b b' : Bool} {n n' v v' : BytesObject} :
    frozenPair b n v = frozenPair b' n' v' ↔ b = b' ∧ n = n' ∧ v = v' := by
  cases b <;> cases b' <;> simp [frozenPair]

/-! ## What a frozen list says -/

/-- The item is a frozen pair of the bytes of the field. -/
def Pair.Stores (item : Pair) (header : Header) : Prop :=
  ∃ n v : BytesObject, item = frozenPair header.neverIndexed n v ∧
    n.content = header.name ∧ v.content = header.value

/-- Nobody is asked about a list of exact pairs. -/
theorem Reads.calls_eq_nil {items : List Pair} {calls : List Call} {headers : List Header}
    (h : Reads items calls headers) (hexact : ∀ item ∈ items, item.isExact = true) :
    calls = [] := by
  induction h with
  | nil => rfl
  | cons ho hj _ ih =>
    obtain ⟨-, rfl, rfl⟩ := ho.eq_frozenPair hj (hexact _ (List.mem_cons_self ..))
    exact ih fun item hitem => hexact item (List.mem_cons_of_mem _ hitem)

/-- Each item of a list that stores fields stores one of them. -/
theorem exists_stores_of_mem {items : List Pair} {headers : List Header}
    (h : List.Forall₂ Pair.Stores items headers) {item : Pair} (hitem : item ∈ items) :
    ∃ header, item.Stores header := by
  induction h with
  | nil => exact absurd hitem List.not_mem_nil
  | cons hstores _ ih =>
    rcases List.mem_cons.1 hitem with rfl | hitem
    · exact ⟨_, hstores⟩
    · exact ih hitem

/-- Stored pairs are exact. -/
theorem isExact_of_stores {items : List Pair} {headers : List Header}
    (h : List.Forall₂ Pair.Stores items headers) (item : Pair) (hitem : item ∈ items) :
    item.isExact = true := by
  obtain ⟨header, n, v, rfl, -⟩ := exists_stores_of_mem h hitem
  exact isExact_frozenPair ..

/-! ## What the array says -/

/-- The bytes at an address, as many as are asked for. -/
def readStorage (memory : Address → Option Bytes) (address : Address) (length : Nat) :
    Option Bytes := do
  let data ← memory address
  if length ≤ data.length then some (data.take length) else none

/-- **What the engine copies for an entry**: the bytes that are at the two
addresses when it looks. -/
def NativeHeader.read (memory : Address → Option Bytes) (entry : NativeHeader) :
    Option Header := do
  let name ← readStorage memory entry.name entry.namelen
  let value ← readStorage memory entry.value entry.valuelen
  return { name, value, neverIndexed := entry.noIndex }

/-- **An entry points into an item**: to objects that the item, being a frozen
pair, references. -/
def NativeHeader.PointsInto (entry : NativeHeader) (item : Pair) : Prop :=
  ∃ (neverIndexed : Bool) (n v : BytesObject),
    item = frozenPair neverIndexed n v ∧ entry = nativeHeader neverIndexed n v

/-- An entry that points into an item whose bytes are where they were reads as
the field the item stores. -/
theorem NativeHeader.PointsInto.read_eq {entry : NativeHeader} {item : Pair} {header : Header}
    {w : σ} (h : entry.PointsInto item) (hstores : item.Stores header)
    (hlive : ∀ b ∈ item.holds, C.Live w b) : entry.read (C.memory w) = some header := by
  obtain ⟨neverIndexed, n, v, rfl, rfl⟩ := h
  obtain ⟨n', v', heq, hn, hv⟩ := hstores
  obtain ⟨hneverIndexed, rfl, rfl⟩ := frozenPair_inj.1 heq
  have hname : C.memory w n.address = some n.content := hlive n (by simp)
  have hvalue : C.memory w v.address = some v.content := hlive v (by simp)
  simp [NativeHeader.read, nativeHeader, readStorage, hname, hvalue, hn, hv, hneverIndexed]

/-- **An array that points into a list reads as the list does.** -/
theorem read_eq_of_pointsInto {array : List NativeHeader} {items : List Pair}
    {headers : List Header} {w : σ} (h : List.Forall₂ NativeHeader.PointsInto array items)
    (hstores : List.Forall₂ Pair.Stores items headers)
    (hlive : ∀ b ∈ heldBy items, C.Live w b) :
    array.map (NativeHeader.read (C.memory w)) = headers.map some := by
  induction h generalizing headers with
  | nil =>
    cases hstores
    rfl
  | cons hentry _ ih =>
    cases hstores with
    | cons hitem hitems =>
      rw [heldBy_cons] at hlive
      rw [List.map_cons, List.map_cons,
        hentry.read_eq hitem fun b hb => hlive b (List.mem_append_left _ hb),
        ih hitems fun b hb => hlive b (List.mem_append_right _ hb)]

/-! ## What each piece of the conversion does -/

/-- The exchange has grown by these items and these answers. -/
def Exchange.Grows (s s' : Exchange σ) (items : List Pair) (calls : List Call) : Prop :=
  ∃ new, s'.calls = s.calls ++ new ∧ yieldedItems new = items ∧ answers new = calls

theorem Exchange.Grows.refl (s : Exchange σ) : s.Grows s [] [] :=
  ⟨[], (List.append_nil _).symm, rfl, rfl⟩

/-- An exchange that grew twice has grown by both, in order. -/
theorem Exchange.Grows.trans {s s' s'' : Exchange σ} {items items' : List Pair}
    {calls calls' : List Call} (h : s.Grows s' items calls) (h' : s'.Grows s'' items' calls') :
    s.Grows s'' (items ++ items') (calls ++ calls') := by
  obtain ⟨new, hnew, rfl, rfl⟩ := h
  obtain ⟨new', hnew', rfl, rfl⟩ := h'
  refine ⟨new ++ new', ?_, yieldedItems_append .., answers_append ..⟩
  rw [hnew', hnew, List.append_assoc]

/-- Code that answers nothing keeps what is referenced, and the exchange. -/
theorem perform_returned {α : Type} {s s' : Exchange σ} {held : List BytesObject}
    {code : Caller σ → Code σ α} {given : α → List BytesObject} {a : α}
    (hsafe : C.SafeCode given (code C)) (hlive : ∀ b ∈ held, C.Live s.world b)
    (h : (perform held code).run C s = (.ok a, s')) :
    s.Grows s' [] [] ∧ (∀ b ∈ held, C.Live s'.world b) ∧ ∀ b ∈ given a, C.Live s'.world b := by
  obtain ⟨hcalls, hkept⟩ := call_returned hsafe hlive h
  exact ⟨⟨[], hcalls, rfl, rfl⟩, hkept⟩

/-- A handler that always raises does not make a computation return. -/
theorem attempt_returned {α ε ρ τ : Type} {x : Effect ε ρ τ α} {handler : ε → Effect ε ρ τ α}
    {r : ρ} {s s' : τ} {a : α} (hraises : ∀ e s, ∃ e', ((handler e).run r s).1 = .error e')
    (h : (attempt x handler).run r s = (.ok a, s')) : x.run r s = (.ok a, s') := by
  rw [run_attempt] at h
  rcases hrun : x.run r s with ⟨e | a', s₁⟩ <;> rw [hrun] at h
  · obtain ⟨e', he'⟩ := hraises e s₁
    exact absurd ((congrArg Prod.fst h).symm.trans he') (by simp)
  · exact h

/-- `name, value = item`, for an item that opens to instances of `bytes`. -/
theorem unpackItem_returned (hsafe : C.Safe) {s s' : Exchange σ} {held : List BytesObject}
    {item : Pair} {n v : BytesObject} (hlive : ∀ b ∈ held, C.Live s.world b)
    (h : (unpackItem held item).run C s = (.ok (.bytes n, .bytes v), s')) :
    ∃ calls, item.Opened n v calls ∧ s.Grows s' [] calls ∧
      (∀ b ∈ held, C.Live s'.world b) ∧ (item.holds ⊆ held → ∀ b ∈ [n, v], C.Live s'.world b) := by
  cases item with
  | tuple elements =>
    rcases elements with _ | ⟨a, _ | ⟨b, _ | ⟨c, elements⟩⟩⟩ <;>
      simp only [unpackItem, run_pure, run_raise, Prod.mk.injEq, Except.ok.injEq, reduceCtorEq,
        false_and] at h
    obtain ⟨⟨rfl, rfl⟩, rfl⟩ := h
    exact ⟨[], .tuple n v, .refl s, hlive, fun hheld b hb => hlive b (hheld hb)⟩
  | neverIndexed elements =>
    rcases elements with _ | ⟨a, _ | ⟨b, _ | ⟨c, elements⟩⟩⟩ <;>
      simp only [unpackItem, run_pure, run_raise, Prod.mk.injEq, Except.ok.injEq, reduceCtorEq,
        false_and] at h
    obtain ⟨⟨rfl, rfl⟩, rfl⟩ := h
    exact ⟨[], .neverIndexed n v, .refl s, hlive, fun hheld b hb => hlive b (hheld hb)⟩
  | custom r subtype =>
    have hcall := attempt_returned (fun e s => by cases e <;> exact ⟨_, rfl⟩) h
    obtain ⟨hcalls, hkept, hgiven⟩ := call_returned (hsafe.unpack r) hlive hcall
    exact ⟨_, .custom r subtype n v, ⟨_, hcalls, rfl, rfl⟩, hkept, fun _ => hgiven⟩

/-- **Unpacking an item** gives what it opens to, and both fields are there. -/
theorem unpackPair_returned (hsafe : C.Safe) {s s' : Exchange σ} {held : List BytesObject}
    {item : Pair} {n v : BytesObject} (hlive : ∀ b ∈ held, C.Live s.world b)
    (hheld : item.holds ⊆ held)
    (h : (unpackPair held item).run C s = (.ok (n, v), s')) :
    ∃ calls, item.Opened n v calls ∧ s.Grows s' [] calls ∧
      ∀ b ∈ held ++ [n, v], C.Live s'.world b := by
  obtain ⟨p, s₁, hunpacked, hbytes⟩ := bind_returned h
  obtain ⟨rfl, rfl⟩ : p = (.bytes n, .bytes v) ∧ s₁ = s' := by
    rcases p with ⟨_ | _, _ | _⟩ <;> simp_all
  obtain ⟨calls, hopened, hgrows, hkept, hgiven⟩ := unpackItem_returned hsafe hlive hunpacked
  refine ⟨calls, hopened, hgrows, fun b hb => ?_⟩
  rcases List.mem_append.1 hb with hb | hb
  · exact hkept b hb
  · exact hgiven hheld b hb

/-- **Asking whether an item is a `NeverIndexedHeader`** gives what it is
judged to be. -/
theorem isNeverIndexed_returned (hsafe : C.Safe) {s s' : Exchange σ} {held : List BytesObject}
    {item : Pair} {neverIndexed : Bool} (hlive : ∀ b ∈ held, C.Live s.world b)
    (h : (isNeverIndexed held item).run C s = (.ok neverIndexed, s')) :
    ∃ calls, item.Judged neverIndexed calls ∧ s.Grows s' [] calls ∧
      ∀ b ∈ held, C.Live s'.world b := by
  match item with
  | .tuple elements =>
    obtain ⟨rfl, rfl⟩ : false = neverIndexed ∧ s = s' := by simpa [isNeverIndexed] using h
    exact ⟨[], .tuple elements, .refl s, hlive⟩
  | .neverIndexed elements =>
    obtain ⟨rfl, rfl⟩ : true = neverIndexed ∧ s = s' := by simpa [isNeverIndexed] using h
    exact ⟨[], .neverIndexed elements, .refl s, hlive⟩
  | .custom r true =>
    obtain ⟨rfl, rfl⟩ : true = neverIndexed ∧ s = s' := by simpa [isNeverIndexed] using h
    exact ⟨[], .subtype r, .refl s, hlive⟩
  | .custom r false =>
    obtain ⟨hcalls, hkept, -⟩ := call_returned (hsafe.isInstance r) hlive h
    exact ⟨_, .custom r neverIndexed, ⟨_, hcalls, rfl, rfl⟩, hkept⟩

/-! ## `_make_headers` -/

/-- **What a part of the private list became**: the items from the index on
were read once, what is in their place now stores the fields they gave, and
the entries that were added point into it. -/
structure Made (items : List Pair) (calls : List Call) (fields : List Pair)
    (array : List NativeHeader) : Prop where
  /-- The fields of the items are stored. -/
  reads : ∃ headers, Reads items calls headers ∧ List.Forall₂ Pair.Stores fields headers
  /-- The entries point to what is stored. -/
  points : List.Forall₂ NativeHeader.PointsInto array fields
  /-- Exact pairs stay. -/
  exact : (∀ item ∈ items, item.isExact = true) → fields = items

/-- One more item at the front. -/
theorem Made.cons {item frozen : Pair} {n v : BytesObject} {neverIndexed : Bool}
    {opening judging calls : List Call} {items fields : List Pair} {array : List NativeHeader}
    (ho : item.Opened n v opening) (hj : item.Judged neverIndexed judging)
    (hfrozen : frozen = frozenPair neverIndexed n v) (h : Made items calls fields array) :
    Made (item :: items) (opening ++ judging ++ calls) (frozen :: fields)
      (nativeHeader neverIndexed n v :: array) := by
  obtain ⟨headers, hreads, hstores⟩ := h.reads
  subst hfrozen
  refine ⟨⟨_, .cons ho hj hreads, .cons ⟨n, v, rfl, rfl, rfl⟩ hstores⟩,
    .cons ⟨neverIndexed, n, v, rfl, rfl⟩ h.points, fun hexact => ?_⟩
  rw [h.exact fun item hitem => hexact item (List.mem_cons_of_mem _ hitem)]
  exact congrArg (· :: items)
    (ho.eq_frozenPair hj (hexact item (List.mem_cons_self ..))).1.symm

/-- One turn's replacement keeps alive what the list keeps alive. -/
theorem live_replaced {w : σ} {done rest : List Pair} {item : Pair} {n v : BytesObject}
    {neverIndexed : Bool}
    (h : ∀ b ∈ heldBy (done ++ item :: rest) ++ [n, v], C.Live w b) :
    ∀ b ∈ heldBy (done ++ frozenPair neverIndexed n v :: rest), C.Live w b := by
  intro b hb
  simp only [heldBy_append, heldBy_cons, holds_frozenPair, List.mem_append] at hb h
  rcases hb with hdone | hnew | hrest
  · exact h b (.inl (.inl hdone))
  · exact h b (.inr hnew)
  · exact h b (.inl (.inr (.inr hrest)))

/-- **The loop of `_make_headers`** reads the rest of the list, and keeps alive
what the list holds. -/
theorem makeLoop_returned (hsafe : C.Safe) {rest : List Pair} {s s' : Exchange σ}
    {done fields : List Pair} {native array : List NativeHeader}
    (hlive : ∀ b ∈ heldBy (done ++ rest), C.Live s.world b)
    (h : (makeLoop done native rest).run C s = (.ok (fields, array), s')) :
    ∃ calls fields' array', fields = done ++ fields' ∧ array = native ++ array' ∧
      Made rest calls fields' array' ∧ s.Grows s' [] calls ∧
      ∀ b ∈ heldBy fields, C.Live s'.world b := by
  induction rest generalizing s done native with
  | nil =>
    obtain ⟨⟨rfl, rfl⟩, rfl⟩ : (done = fields ∧ native = array) ∧ s = s' := by
      simpa [makeLoop] using h
    refine ⟨[], [], [], (List.append_nil _).symm, (List.append_nil _).symm,
      ⟨⟨[], .nil, .nil⟩, .nil, fun _ => rfl⟩, .refl s, ?_⟩
    simpa using hlive
  | cons item rest ih =>
    obtain ⟨⟨n, v⟩, s₁, hunpacked, h⟩ := bind_returned h
    obtain ⟨opening, ho, hgrows₁, hlive₁⟩ := unpackPair_returned hsafe hlive
      (fun b hb => by simp [hb]) hunpacked
    obtain ⟨neverIndexed, s₂, hjudged, h⟩ := bind_returned h
    obtain ⟨judging, hj, hgrows₂, hlive₂⟩ := isNeverIndexed_returned hsafe hlive₁ hjudged
    have hnext : ∀ b ∈ heldBy (done ++ frozenPair neverIndexed n v :: rest), C.Live s₂.world b :=
      live_replaced hlive₂
    split at h
    case isTrue hexact =>
      obtain ⟨hitem, rfl, rfl⟩ := ho.eq_frozenPair hj hexact
      rw [← hitem, List.append_cons] at hnext
      obtain ⟨calls, fields', array', rfl, rfl, hmade, hgrows₃, hlive₃⟩ := ih hnext h
      refine ⟨_, item :: fields', nativeHeader neverIndexed n v :: array', List.append_assoc ..,
        List.append_assoc .., hmade.cons ho hj hitem, hgrows₁.trans (hgrows₂.trans hgrows₃), hlive₃⟩
    case isFalse =>
      obtain ⟨_, s₃, hallocated, h⟩ := bind_returned h
      obtain ⟨hgrows₃, hlive₃, -⟩ := perform_returned hsafe.allocate hlive₂ hallocated
      obtain ⟨_, s₄, hreleased, h⟩ := bind_returned h
      obtain ⟨hgrows₄, hlive₄, -⟩ := perform_returned (hsafe.release item)
        (live_replaced hlive₃) hreleased
      rw [List.append_cons] at hlive₄
      obtain ⟨calls, fields', array', rfl, rfl, hmade, hgrows₅, hlive₅⟩ := ih hlive₄ h
      refine ⟨opening ++ judging ++ calls, frozenPair neverIndexed n v :: fields',
        nativeHeader neverIndexed n v :: array', List.append_assoc .., List.append_assoc ..,
        hmade.cons ho hj rfl, ?_, hlive₅⟩
      have hgrows := hgrows₁.trans (hgrows₂.trans (hgrows₃.trans (hgrows₄.trans hgrows₅)))
      simpa using hgrows

/-! ## `_normalize_headers` -/

/-- A field that may be queued: for deferred headers it is no instance of a
subclass. -/
theorem exactBytes_returned (hsafe : C.Safe) {deferred : Bool} {s s' : Exchange σ}
    {held : List BytesObject} {b b' : BytesObject} (hlive : ∀ x ∈ held, C.Live s.world x)
    (hmem : b ∈ held) (h : (exactBytes deferred held b).run C s = (.ok b', s')) :
    b'.content = b.content ∧ (deferred = true → b'.exact = true) ∧
      ((!deferred || b.exact) = true → b' = b) ∧ s.Grows s' [] [] ∧
      (∀ x ∈ held, C.Live s'.world x) ∧ C.Live s'.world b' := by
  unfold exactBytes at h
  split at h
  case isTrue hcopied =>
    obtain ⟨hgrows, hkept, hgiven⟩ := perform_returned (hsafe.copy b.content) hlive h
    have hcopy : (C.copy b.content held s.world).1 = .ok b' := by
      simp only [perform, call, Effect.run] at h
      rcases hcode : C.copy b.content held s.world with ⟨_ | x, w⟩ <;> rw [hcode] at h
      · exact absurd (congrArg Prod.fst h) (by simp)
      · exact congrArg Prod.fst h
    obtain ⟨hexact, hcontent⟩ := hsafe.copied _ _ _ _ hcopy
    refine ⟨hcontent, fun _ => hexact, fun hkeep => ?_, hgrows, hkept, hgiven b' (by simp)⟩
    cases deferred <;> cases hb : b.exact <;> simp_all
  case isFalse hkeep =>
    obtain ⟨rfl, rfl⟩ : b = b' ∧ s = s' := by simpa using h
    refine ⟨rfl, fun hdeferred => ?_, fun _ => rfl, .refl s, hlive, hlive b hmem⟩
    cases hb : b.exact <;> simp_all

/-- **One turn of `_normalize_headers`** reads the item, stores its fields, and
keeps alive what the result holds. A deferred pair holds no instance of a
subclass. -/
theorem freezeItem_returned (hsafe : C.Safe) {deferred : Bool} {s s' : Exchange σ}
    {result : List Pair} {item frozen : Pair}
    (hlive : ∀ b ∈ heldBy result ++ item.holds, C.Live s.world b)
    (h : (freezeItem deferred result item).run C s = (.ok frozen, s')) :
    ∃ calls header, Reads [item] calls [header] ∧ frozen.Stores header ∧ s.Grows s' [] calls ∧
      (deferred = true → ∀ b ∈ frozen.holds, b.exact = true) ∧
      ∀ b ∈ heldBy (result ++ [frozen]), C.Live s'.world b := by
  obtain ⟨⟨n, v⟩, s₁, hunpacked, h⟩ := bind_returned h
  obtain ⟨opening, ho, hgrows₁, hlive₁⟩ := unpackPair_returned hsafe hlive
    (fun b hb => List.mem_append_right _ hb) hunpacked
  obtain ⟨n', s₂, hname, h⟩ := bind_returned h
  obtain ⟨hn, hnexact, hnsame, hgrows₂, hlive₂, hlive'₂⟩ := exactBytes_returned hsafe hlive₁
    (by simp) hname
  have hheld₂ : ∀ b ∈ heldBy result ++ item.holds ++ [n', v], C.Live s₂.world b := by
    intro b hb
    simp only [List.mem_append, List.mem_cons, List.not_mem_nil, or_false] at hb hlive₂
    rcases hb with hb | rfl | rfl
    · exact hlive₂ b (.inl hb)
    · exact hlive'₂
    · exact hlive₂ b (.inr (.inr rfl))
  obtain ⟨v', s₃, hvalue, h⟩ := bind_returned h
  obtain ⟨hv, hvexact, hvsame, hgrows₃, hlive₃, hlive'₃⟩ := exactBytes_returned hsafe hheld₂
    (by simp) hvalue
  have hheld₃ : ∀ b ∈ heldBy result ++ item.holds ++ [n', v'], C.Live s₃.world b := by
    intro b hb
    simp only [List.mem_append, List.mem_cons, List.not_mem_nil, or_false] at hb hlive₃
    rcases hb with hb | rfl | rfl
    · exact hlive₃ b (.inl hb)
    · exact hlive₃ b (.inr (.inl rfl))
    · exact hlive'₃
  have hgrows := hgrows₁.trans (hgrows₂.trans hgrows₃)
  split at h
  case isTrue hkept =>
    -- an exact pair none of whose fields had to be copied is kept itself
    obtain ⟨rfl, rfl⟩ : item = frozen ∧ s₃ = s' := by simpa using h
    obtain ⟨hexact, hfields⟩ :
      item.isExact = true ∧ (!deferred || (n.exact && v.exact)) = true := by
      simpa using hkept
    obtain rfl : n' = n := hnsame (by cases deferred <;> simp_all)
    obtain rfl : v' = v := hvsame (by cases deferred <;> simp_all)
    obtain ⟨neverIndexed, judging, hj⟩ := item.judged_of_isExact hexact
    obtain ⟨hitem, rfl, rfl⟩ := ho.eq_frozenPair hj hexact
    refine ⟨[], _, .cons ho hj .nil, ⟨_, _, hitem, rfl, rfl⟩, hgrows, fun hdeferred b hb => ?_,
      fun b hb => hheld₃ b ?_⟩
    · rw [hitem, holds_frozenPair] at hb
      rcases List.mem_pair.1 hb with rfl | rfl
      · exact hnexact hdeferred
      · exact hvexact hdeferred
    · simp only [heldBy_append, heldBy_cons, heldBy_nil, List.append_nil] at hb
      exact List.mem_append_left _ hb
  case isFalse =>
    obtain ⟨neverIndexed, s₄, hjudged, h⟩ := bind_returned h
    obtain ⟨judging, hj, hgrows₄, hlive₄⟩ := isNeverIndexed_returned hsafe hheld₃ hjudged
    obtain ⟨_, s₅, hallocated, h⟩ := bind_returned h
    obtain ⟨hgrows₅, hlive₅, -⟩ := perform_returned hsafe.allocate hlive₄ hallocated
    have hheld₅ : ∀ b ∈ heldBy (result ++ [frozenPair neverIndexed n' v']), C.Live s₅.world b := by
      intro b hb
      simp only [heldBy_append, heldBy_cons, heldBy_nil, holds_frozenPair, List.append_nil,
        List.mem_append] at hb hlive₅
      exact hlive₅ b (hb.imp_left .inl)
    obtain ⟨_, s₆, hreleased, h⟩ := bind_returned h
    obtain ⟨hgrows₆, hlive₆, -⟩ := perform_returned (hsafe.release item) hheld₅ hreleased
    obtain ⟨rfl, rfl⟩ : frozenPair neverIndexed n' v' = frozen ∧ s₆ = s' := by simpa using h
    refine ⟨_, _, .cons ho hj .nil, ⟨n', v', rfl, hn, hv⟩, ?_, fun hdeferred b hb => ?_, hlive₆⟩
    · have := hgrows.trans (hgrows₄.trans (hgrows₅.trans hgrows₆))
      simpa using this
    · rw [holds_frozenPair] at hb
      rcases List.mem_pair.1 hb with rfl | rfl
      · exact hnexact hdeferred
      · exact hvexact hdeferred

/-- **The next item** is yielded once, and it is there. -/
theorem nextItem_returned (hsafe : C.Safe) {s s' : Exchange σ} {held : List BytesObject}
    {iterator : Iterator} {item : Option Pair} (hlive : ∀ b ∈ held, C.Live s.world b)
    (h : (nextItem held iterator).run C s = (.ok item, s')) :
    s.Grows s' item.toList [] ∧ (∀ b ∈ held, C.Live s'.world b) ∧
      ∀ b ∈ heldBy item.toList, C.Live s'.world b := by
  cases iterator with
  | index r i =>
    obtain ⟨rfl, rfl⟩ : (C.contents r s.world)[i]? = item ∧
        ({ s with calls := s.calls ++ (C.contents r s.world)[i]?.toList.map .yielded } : Exchange σ)
          = s' := by
      simpa [nextItem, look, Effect.run] using h
    refine ⟨⟨_, rfl, yieldedItems_yielded _, answers_yielded _⟩, hlive, fun b hb => ?_⟩
    obtain ⟨item, hitem, hb⟩ := List.mem_flatMap.1 hb
    exact hsafe.contents r s.world b
      (List.mem_flatMap.2 ⟨item, List.mem_of_getElem? (Option.mem_toList.1 hitem), hb⟩)
  | object r =>
    obtain ⟨hcalls, hkept, hgiven⟩ := call_returned (hsafe.next r) hlive h
    exact ⟨⟨_, hcalls, yieldedItems_yielded _, answers_yielded _⟩, hkept, hgiven⟩

/-- **What a list of items was frozen to**: the items were read once each, the
list stores the fields they gave and keeps them alive, and deferred fields are
no instances of a subclass. -/
structure Frozen (C : Caller σ) (deferred : Bool) (w : σ) (items : List Pair) (calls : List Call)
    (fields : List Pair) : Prop where
  reads : ∃ headers, Reads items calls headers ∧ List.Forall₂ Pair.Stores fields headers
  exact : deferred = true → ∀ b ∈ heldBy fields, b.exact = true
  live : ∀ b ∈ heldBy fields, C.Live w b

/-- **The loop of `_normalize_headers`** freezes what the iteration yields from
here on. -/
theorem normalizeLoop_returned (hsafe : C.Safe) {deferred : Bool} {turns : Nat}
    {iterator : Iterator} {s s' : Exchange σ} {result fields : List Pair} {items : List Pair}
    {calls : List Call} (hfrozen : Frozen C deferred s.world items calls result)
    (h : (normalizeLoop deferred turns iterator result).run C s = (.ok (some fields), s')) :
    ∃ items' calls', Frozen C deferred s'.world (items ++ items') (calls ++ calls') fields ∧
      s.Grows s' items' calls' := by
  induction turns generalizing s iterator result items calls with
  | zero => exact absurd (congrArg Prod.fst h) (by simp [normalizeLoop])
  | succ turns ih =>
    obtain ⟨next, s₁, hnext, h⟩ := bind_returned h
    obtain ⟨hgrows₁, hlive₁, hitem₁⟩ := nextItem_returned hsafe hfrozen.live hnext
    cases next with
    | none =>
      obtain ⟨rfl, rfl⟩ : result = fields ∧ s₁ = s' := by simpa using h
      exact ⟨[], [], by simpa using ⟨hfrozen.reads, hfrozen.exact, hlive₁⟩, hgrows₁⟩
    | some item =>
      obtain ⟨frozen, s₂, hfroze, h⟩ := bind_returned h
      have hheld₁ : ∀ b ∈ heldBy result ++ item.holds, C.Live s₁.world b := by
        intro b hb
        rcases List.mem_append.1 hb with hb | hb
        · exact hlive₁ b hb
        · exact hitem₁ b (by simpa using hb)
      obtain ⟨asked, header, hreads, hstores, hgrows₂, hexact, hlive₂⟩ :=
        freezeItem_returned hsafe hheld₁ hfroze
      obtain ⟨_, s₃, hallocated, h⟩ := bind_returned h
      obtain ⟨hgrows₃, hlive₃, -⟩ := perform_returned hsafe.allocate hlive₂ hallocated
      obtain ⟨headers, hreads', hstores'⟩ := hfrozen.reads
      have hfrozen' : Frozen C deferred s₃.world (items ++ [item]) (calls ++ asked)
          (result ++ [frozen]) := by
        refine ⟨⟨_, hreads'.append hreads, List.rel_append hstores' (.cons hstores .nil)⟩,
          fun hdeferred b hb => ?_, hlive₃⟩
        simp only [heldBy_append, heldBy_cons, heldBy_nil, List.append_nil,
          List.mem_append] at hb
        exact hb.elim (hfrozen.exact hdeferred b) (hexact hdeferred b)
      obtain ⟨items', calls', hfields, hgrows₄⟩ := ih hfrozen' h
      refine ⟨item :: items', asked ++ calls', ?_, ?_⟩
      · simpa using hfields
      · have := hgrows₁.trans (hgrows₂.trans (hgrows₃.trans hgrows₄))
        simpa using this

/-- `_normalize_headers` as a loop: a producer, or deferred headers. -/
theorem normalizeHeaders_returned_loop (hsafe : C.Safe) {deferred : Bool} {turns : Nat}
    {headers : Headers} {s s' : Exchange σ} {fields : List Pair}
    (h : (iterate [] headers >>= fun iterator =>
      normalizeLoop deferred turns iterator []).run C s = (.ok (some fields), s')) :
    ∃ items calls, Frozen C deferred s'.world items calls fields ∧ s.Grows s' items calls := by
  obtain ⟨iterator, s₁, hiterator, h⟩ := bind_returned h
  have hgrows₁ : s.Grows s₁ [] [] := by
    cases headers with
    | container r =>
      obtain ⟨-, rfl⟩ : Iterator.index r 0 = iterator ∧ s = s₁ := by simpa [iterate] using hiterator
      exact .refl s
    | producer r =>
      obtain ⟨_, s₂, hiter, hreturn⟩ := bind_returned hiterator
      obtain ⟨hgrows, -⟩ := perform_returned (hsafe.iter r) (fun _ h => absurd h (by simp)) hiter
      obtain ⟨-, rfl⟩ : _ ∧ s₂ = s₁ := by simpa using hreturn
      exact hgrows
  have hempty : Frozen C deferred s₁.world [] [] [] := ⟨⟨[], .nil, .nil⟩, by simp, by simp⟩
  obtain ⟨items, calls, hfrozen, hgrows₂⟩ := normalizeLoop_returned hsafe hempty h
  exact ⟨items, calls, hfrozen, hgrows₁.trans hgrows₂⟩

/-- `_make_headers` on a list of frozen pairs asks nobody, and the list stays. -/
theorem makeHeaders_of_frozen (hsafe : C.Safe) {deferred : Bool} {s s' : Exchange σ}
    {items fields fields' : List Pair} {calls : List Call} {array : List NativeHeader}
    (hfrozen : Frozen C deferred s.world items calls fields)
    (h : (makeHeaders fields).run C s = (.ok (fields', array), s')) :
    fields' = fields ∧ List.Forall₂ NativeHeader.PointsInto array fields ∧ s.Grows s' [] [] ∧
      ∀ b ∈ heldBy fields, C.Live s'.world b := by
  obtain ⟨_, s₁, hallocated, h⟩ := bind_returned h
  obtain ⟨hgrows₁, hlive₁, -⟩ := perform_returned hsafe.allocate hfrozen.live hallocated
  obtain ⟨calls', fields'', array', rfl, rfl, hmade, hgrows₂, hlive₂⟩ :=
    makeLoop_returned hsafe (by simpa using hlive₁) h
  obtain ⟨headers, -, hstores⟩ := hfrozen.reads
  have hexact := isExact_of_stores hstores
  obtain rfl := hmade.exact hexact
  obtain ⟨_, hreads, -⟩ := hmade.reads
  obtain rfl := hreads.calls_eq_nil hexact
  exact ⟨rfl, hmade.points, hgrows₁.trans hgrows₂, hlive₂⟩

/-! ## The array -/

/-- **What a conversion handed to the engine**: an array that points into a
private list which stores the fields the caller's items gave and keeps them
alive. -/
structure HandedOver (C : Caller σ) (w : σ) (items : List Pair) (calls : List Call)
    (headers : List Header) (fields : List Pair) (array : List NativeHeader) : Prop where
  reads : Reads items calls headers
  stores : List.Forall₂ Pair.Stores fields headers
  points : List.Forall₂ NativeHeader.PointsInto array fields
  live : ∀ b ∈ heldBy fields, C.Live w b

/-- A list that was frozen, with the array that `_make_headers` builds for
it. -/
theorem Frozen.handedOver (hsafe : C.Safe) {deferred : Bool} {s s' : Exchange σ}
    {items fields fields' : List Pair} {calls : List Call} {array : List NativeHeader}
    (hfrozen : Frozen C deferred s.world items calls fields)
    (h : (makeHeaders fields).run C s = (.ok (fields', array), s')) :
    ∃ headers, HandedOver C s'.world items calls headers fields' array ∧ s.Grows s' [] [] := by
  obtain ⟨rfl, hpoints, hgrows, hlive⟩ := makeHeaders_of_frozen hsafe hfrozen h
  obtain ⟨headers, hreads, hstores⟩ := hfrozen.reads
  exact ⟨headers, ⟨hreads, hstores, hpoints, hlive⟩, hgrows⟩

/-- **The fields of an exact container**: copied first, then read while the
array is built. -/
theorem snapshotHeaders_container (hsafe : C.Safe) {turns : Nat} {r : Ref} {s s' : Exchange σ}
    {fields : List Pair} {array : List NativeHeader}
    (h : (snapshotHeaders turns (.container r)).run C s = (.ok (some (fields, array)), s')) :
    ∃ items calls headers, HandedOver C s'.world items calls headers fields array ∧
      s.Grows s' items calls := by
  obtain ⟨normalized, s₁, hnormalized, h⟩ := bind_returned h
  obtain ⟨items, s₂, hlooked, hnormalized⟩ := bind_returned hnormalized
  obtain ⟨hgrows₂, hlive₂⟩ : s.Grows s₂ items [] ∧ ∀ b ∈ heldBy items, C.Live s₂.world b := by
    obtain ⟨rfl, rfl⟩ : C.contents r s.world = items ∧
        ({ s with calls := s.calls ++ (C.contents r s.world).map .yielded } : Exchange σ) = s₂ := by
      simpa [look, Effect.run] using hlooked
    exact ⟨⟨_, rfl, yieldedItems_yielded _, answers_yielded _⟩, hsafe.contents r s.world⟩
  obtain ⟨_, s₃, hallocated, hnormalized⟩ := bind_returned hnormalized
  obtain ⟨hgrows₃, hlive₃, -⟩ := perform_returned hsafe.allocate hlive₂ hallocated
  obtain ⟨rfl, rfl⟩ : some items = normalized ∧ s₃ = s₁ := by simpa using hnormalized
  obtain ⟨⟨fields', array'⟩, s₄, hmade, h⟩ := bind_returned h
  obtain ⟨⟨rfl, rfl⟩, rfl⟩ : (fields' = fields ∧ array' = array) ∧ s₄ = s' := by simpa using h
  obtain ⟨_, s₅, hallocated', hloop⟩ := bind_returned hmade
  obtain ⟨hgrows₅, hlive₅, -⟩ := perform_returned hsafe.allocate hlive₃ hallocated'
  obtain ⟨calls, fields', array', rfl, rfl, hmade, hgrows₆, hlive₆⟩ :=
    makeLoop_returned hsafe (by simpa using hlive₅) hloop
  obtain ⟨headers, hreads, hstores⟩ := hmade.reads
  refine ⟨items, calls, headers, ⟨hreads, hstores, hmade.points, hlive₆⟩, ?_⟩
  simpa using hgrows₂.trans (hgrows₃.trans (hgrows₅.trans hgrows₆))

/-- **The fields a producer yields**: read while iterating. -/
theorem snapshotHeaders_producer (hsafe : C.Safe) {turns : Nat} {r : Ref} {s s' : Exchange σ}
    {fields : List Pair} {array : List NativeHeader}
    (h : (snapshotHeaders turns (.producer r)).run C s = (.ok (some (fields, array)), s')) :
    ∃ items calls headers, HandedOver C s'.world items calls headers fields array ∧
      s.Grows s' items calls := by
  obtain ⟨normalized, s₁, hnormalized, h⟩ := bind_returned h
  cases normalized with
  | none => exact absurd (congrArg Prod.fst h) (by simp)
  | some normalized =>
    obtain ⟨items, calls, hfrozen, hgrows₁⟩ := normalizeHeaders_returned_loop hsafe hnormalized
    obtain ⟨⟨fields', array'⟩, s₂, hmade, h⟩ := bind_returned h
    obtain ⟨⟨rfl, rfl⟩, rfl⟩ : (fields' = fields ∧ array' = array) ∧ s₂ = s' := by simpa using h
    obtain ⟨headers, hhanded, hgrows₂⟩ := hfrozen.handedOver hsafe hmade
    exact ⟨items, calls, headers, hhanded, by simpa using hgrows₁.trans hgrows₂⟩

/-- **Trailers**: read while iterating, and submitted whenever the body
drains. -/
theorem submission_trailers (hsafe : C.Safe) {meanwhile : Code σ Unit}
    (hmeanwhile : C.SafeCode (fun _ => []) meanwhile) {turns : Nat} {argument : Headers}
    {s s' : Exchange σ} {fields : List Pair} {array : List NativeHeader}
    (h : (submission turns argument (some meanwhile)).run C s = (.ok (some (fields, array)), s')) :
    ∃ items calls headers, HandedOver C s'.world items calls headers fields array ∧
      s.Grows s' items calls := by
  obtain ⟨queued, s₁, hqueued, h⟩ := bind_returned h
  cases queued with
  | none => exact absurd (congrArg Prod.fst h) (by simp)
  | some queued =>
    have hloop : (iterate [] argument >>= fun iterator =>
        normalizeLoop true turns iterator []).run C s = (.ok (some queued), s₁) := by
      cases argument <;> exact hqueued
    obtain ⟨items, calls, hfrozen, hgrows₁⟩ := normalizeHeaders_returned_loop hsafe hloop
    obtain ⟨_, s₂, hran, h⟩ := bind_returned h
    obtain ⟨hgrows₂, hlive₂, -⟩ := perform_returned hmeanwhile hfrozen.live hran
    obtain ⟨⟨fields', array'⟩, s₃, hmade, h⟩ := bind_returned h
    obtain ⟨⟨rfl, rfl⟩, rfl⟩ : (fields' = fields ∧ array' = array) ∧ s₃ = s' := by simpa using h
    have hfrozen' : Frozen C true s₂.world items calls queued :=
      ⟨hfrozen.reads, hfrozen.exact, hlive₂⟩
    obtain ⟨headers, hhanded, hgrows₃⟩ := hfrozen'.handedOver hsafe hmade
    exact ⟨items, calls, headers, hhanded, by simpa using hgrows₁.trans (hgrows₂.trans hgrows₃)⟩

/-- **Whatever the path**, the engine is handed what the caller's items
gave. -/
theorem submission_returned (hsafe : C.Safe) {meanwhile : Option (Code σ Unit)}
    (hmeanwhile : ∀ code ∈ meanwhile, C.SafeCode (fun _ => []) code) {turns : Nat}
    {argument : Headers} {s s' : Exchange σ} {fields : List Pair} {array : List NativeHeader}
    (h : (submission turns argument meanwhile).run C s = (.ok (some (fields, array)), s')) :
    ∃ items calls headers, HandedOver C s'.world items calls headers fields array ∧
      s.Grows s' items calls := by
  cases meanwhile with
  | some meanwhile => exact submission_trailers hsafe (hmeanwhile meanwhile rfl) h
  | none =>
    cases argument with
    | container r => exact snapshotHeaders_container hsafe h
    | producer r => exact snapshotHeaders_producer hsafe h

/-! ## The engine call -/

/-- The header fields that an engine function copies from the array it is
given. -/
def EngineCall.fields : EngineCall → Option (List Header)
  | .submitRequest2 headers _ => some headers
  | .submitResponse2 _ headers _ => some headers
  | .submitHeaders _ headers => some headers
  | .submitTrailer _ headers => some headers
  | .submitPushPromise _ headers => some headers
  | _ => none

/-- The operations that hand their header fields to the engine at once. -/
inductive HeaderOperation where
  | sendRequest (endStream : Bool)
  | sendResponse (streamId : StreamId) (endStream : Bool)
  | sendInformationalResponse (streamId : StreamId)
  | sendPushPromise (streamId : StreamId)
  deriving DecidableEq, Repr

/-- The operation, given the fields its array reads as. -/
def HeaderOperation.request : HeaderOperation → List Header → Request
  | .sendRequest endStream, headers => .sendRequest headers endStream
  | .sendResponse s endStream, headers => .sendResponse s headers endStream
  | .sendInformationalResponse s, headers => .sendInformationalResponse s headers
  | .sendPushPromise s, headers => .sendPushPromise s headers

/-- **An operation gives the engine the fields it was given**, in every call
that takes any. -/
theorem HeaderOperation.fields_eq (op : HeaderOperation) (headers : List Header) {host : Host}
    {env : Env} {c : Connection} {session : Option SessionId} {q : EngineCall}
    (hq : .call session q ∈ ((op.request headers).body.run env ⟨host, c, []⟩).2.issued)
    {given : List Header} (hgiven : q.fields = some given) : given = headers := by
  obtain ⟨-, hquery | hsubmits | hresume | hdrive⟩ := (requested host env c _).asks session q hq
  · cases q <;> simp [EngineCall.fields, EngineCall.isQuery] at hgiven hquery
  · cases op <;> obtain rfl : q = _ := hsubmits <;> exact (Option.some.inj hgiven).symm
  · cases q <;> simp [EngineCall.fields, EngineCall.isResume] at hgiven hresume
  · cases q <;> simp [EngineCall.fields, EngineCall.isDrive] at hgiven hdrive

/-! ## The result -/

/-- **A submission that did not raise**, of whichever kind: the private list
and the array it ended with, and the exchange with the caller. -/
def Submitted (C : Caller σ) (fields : List Pair) (array : List NativeHeader)
    (s : Exchange σ) : Prop :=
  ∃ (turns : Nat) (argument : Headers) (meanwhile : Option (Code σ Unit)) (w : σ),
    (∀ code ∈ meanwhile, C.SafeCode (fun _ => []) code) ∧
      (submission turns argument meanwhile).run C ⟨w, []⟩ = (.ok (some (fields, array)), s)

/-- What was handed over by a submission that did not raise. -/
theorem Submitted.handedOver (hsafe : C.Safe) {fields : List Pair} {array : List NativeHeader}
    {s : Exchange σ} (h : Submitted C fields array s) :
    ∃ headers, HandedOver C s.world (yieldedItems s.calls) (answers s.calls) headers fields
      array := by
  obtain ⟨turns, argument, meanwhile, w, hmeanwhile, hrun⟩ := h
  obtain ⟨items, calls, headers, hhanded, new, hnew, rfl, rfl⟩ :=
    submission_returned hsafe hmeanwhile hrun
  obtain rfl : s.calls = new := hnew
  exact ⟨headers, hhanded⟩

/-- A caller whose producer yields one object twice, which unpacks to other
bytes each time, and whose storage never moves. -/
def reusingCaller : Caller Nat where
  memory := fun _ a => some [UInt8.ofNat a]
  contents := fun _ _ => []
  iter := fun r _ w => (.ok r, w)
  next := fun r _ w => (.ok (if w < 2 then some (.custom r false) else none), w)
  unpack := fun _ _ w => (.ok (.bytes ⟨2 * w, false, [UInt8.ofNat (2 * w)]⟩,
    .bytes ⟨2 * w + 1, true, [UInt8.ofNat (2 * w + 1)]⟩), w + 1)
  isInstance := fun _ _ w => (.ok false, w)
  release := fun _ _ w => (.ok (), w)
  copy := fun data _ w => match data with
    | [b] => (.ok ⟨b.toNat, true, [b]⟩, w)
    | _ => (.error (.memoryError ""), w)
  allocate := fun _ w => (.ok (), w)

/-- Code of `reusingCaller` that returns nothing is safe: the storage does not
depend on the state. -/
theorem reusingCaller_safeCode {α : Type} (code : Code Nat α) :
    reusingCaller.SafeCode (fun _ => []) code :=
  fun _ _ hlive => ⟨hlive, fun _ _ _ hb => absurd hb (List.not_mem_nil)⟩

/-- The storage of `reusingCaller` is as the interpreter guarantees. -/
theorem reusingCaller_safe : reusingCaller.Safe where
  contents := fun _ _ _ hb => absurd hb (List.not_mem_nil)
  iter := fun _ => reusingCaller_safeCode _
  isInstance := fun _ => reusingCaller_safeCode _
  release := fun _ => reusingCaller_safeCode _
  allocate := reusingCaller_safeCode _
  next := by
    intro r held w hlive
    refine ⟨hlive, fun item hitem b hb => absurd hb ?_⟩
    obtain rfl : (if w < 2 then some (Pair.custom r false) else none) = item :=
      Except.ok.inj hitem
    split <;> simp [Pair.holds]
  unpack := by
    intro r held w hlive
    refine ⟨hlive, fun p hp b hb => ?_⟩
    obtain rfl := Except.ok.inj hp
    rcases List.mem_pair.1 hb with rfl | rfl <;> rfl
  copy := by
    intro data held w hlive
    rcases data with _ | ⟨d, _ | ⟨d', data⟩⟩
    · exact ⟨hlive, fun b hb => absurd hb (by simp [reusingCaller])⟩
    · refine ⟨hlive, fun b hb b' hb' => ?_⟩
      obtain rfl := Except.ok.inj hb
      obtain rfl := List.mem_singleton.1 hb'
      simp [Caller.Live, reusingCaller]
    · exact ⟨hlive, fun b hb => absurd hb (by simp [reusingCaller])⟩
  copied := by
    intro data held w b hb
    rcases data with _ | ⟨d, _ | ⟨d', data⟩⟩
    · exact absurd hb (by simp [reusingCaller])
    · obtain rfl := Except.ok.inj hb
      exact ⟨rfl, rfl⟩
    · exact absurd hb (by simp [reusingCaller])

end Ngh2
