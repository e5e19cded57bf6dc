import Ngh2.OutputLimits

/-!
# The loop of a driver

`data_to_send` is called in a loop, which hands over what it returns and stops
at the first empty result. With a limit, the loop takes transport-sized chunks.
It comes to its end, and whatever the limit, it hands over the same bytes: as
many chunks as it takes, none of them empty and none beyond the limit.
-/

namespace Ngh2

open Effect Nghttp2

/-! ## Chunks -/

section Chunks

variable {limit : Option Nat} {w : Bytes}

/-- Something is within a limit of what is not empty. -/
theorem within_ne_nil (hlimit : limit ≠ some 0) (hw : w ≠ []) : within limit w ≠ [] := by
  cases limit with
  | none => exact hw
  | some n =>
    have hn : n ≠ 0 := fun h => hlimit (congrArg some h)
    show w.take n ≠ []
    rw [ne_eq, List.take_eq_nil_iff, not_or]
    exact ⟨hn, hw⟩

/-- Less is beyond it. -/
theorem length_beyond_lt (hlimit : limit ≠ some 0) (hw : w ≠ []) :
    (beyond limit w).length < w.length := by
  have hwithin := List.length_pos_of_ne_nil (within_ne_nil hlimit hw)
  have hsum := length_within_add_beyond limit w
  omega

/-- **The chunks of some bytes** under a limit. -/
def chunks (limit : Option Nat) (w : Bytes) : List Bytes :=
  if _h : w = [] ∨ limit = some 0 then [] else within limit w :: chunks limit (beyond limit w)
termination_by w.length
decreasing_by exact length_beyond_lt (fun h => _h (.inr h)) fun h => _h (.inl h)

@[simp] theorem chunks_nil : chunks limit [] = [] := by
  rw [chunks, dif_pos (.inl rfl)]

theorem chunks_of_ne_nil (hlimit : limit ≠ some 0) (hw : w ≠ []) :
    chunks limit w = within limit w :: chunks limit (beyond limit w) := by
  rw [chunks, dif_neg (not_or.mpr ⟨hw, hlimit⟩)]

/-- No byte is lost. -/
theorem chunks_flatten (hlimit : limit ≠ some 0) : (chunks limit w).flatten = w := by
  fun_induction chunks limit w with
  | case1 w h => exact ((h.resolve_right hlimit).symm)
  | case2 w h ih => rw [List.flatten_cons, ih, within_append_beyond]

/-- No chunk is empty, and none is beyond the limit. -/
theorem of_mem_chunks {chunk : Bytes} (hmem : chunk ∈ chunks limit w) :
    chunk ≠ [] ∧ ∀ n, limit = some n → chunk.length ≤ n := by
  fun_induction chunks limit w with
  | case1 w h => exact absurd hmem List.not_mem_nil
  | case2 w h ih =>
    obtain ⟨hw, hlimit⟩ := not_or.mp h
    rcases List.mem_cons.mp hmem with rfl | hmem
    · refine ⟨within_ne_nil hlimit hw, ?_⟩
      rintro n rfl
      exact List.length_take_le n w
    · exact ih hmem

/-- There are as many as it takes. -/
theorem length_chunks {n : Nat} (hn : 0 < n) :
    (chunks (some n) w).length = (w.length + n - 1) / n := by
  fun_induction chunks (some n) w with
  | case1 w h =>
    obtain rfl := h.resolve_right fun h => hn.ne' (Option.some_inj.mp h)
    exact (Nat.div_eq_of_lt (by rw [List.length_nil]; omega)).symm
  | case2 w h ih =>
    have hw := List.length_pos_of_ne_nil (not_or.mp h).1
    rw [List.length_cons, ih]
    show ((w.drop n).length + n - 1) / n + 1 = _
    rw [List.length_drop]
    by_cases hle : n ≤ w.length
    · rw [← Nat.add_div_right _ hn]
      congr 1
      omega
    · have hdrop : w.length - n = 0 := Nat.sub_eq_zero_of_le (not_le.mp hle).le
      have hone : (w.length + n - 1) / n = 1 := Nat.div_eq_of_lt_le (by omega) (by omega)
      rw [hdrop, Nat.zero_add, Nat.div_eq_of_lt (Nat.sub_lt hn Nat.one_pos), hone]

end Chunks

/-! ## The loop -/

/-- **The loop of a driver**, `while data := connection.data_to_send(amount)`,
with the chunks it hands over. -/
inductive Engine.Drains {S : Type} (E : Engine S) (Memory : (Alloc → Bool) → Prop)
    (amount : Option Nat) : Machine → Cursor S → List Bytes → Machine → Cursor S → Prop
  /-- The result is empty, and the loop is over. -/
  | done {m m' : Machine} {cursor cursor' : Cursor S}
      (last : E.Gives Memory amount m cursor [] m' cursor') :
      Drains E Memory amount m cursor [] m' cursor'
  /-- The result is handed over, and the loop goes on. -/
  | turn {m m₁ m' : Machine} {cursor cursor₁ cursor' : Cursor S} {w : Bytes} {ws : List Bytes}
      (first : E.Gives Memory amount m cursor w m₁ cursor₁) (given : w ≠ [])
      (further : Drains E Memory amount m₁ cursor₁ ws m' cursor') :
      Drains E Memory amount m cursor (w :: ws) m' cursor'

section Loop

variable {S : Type} {E : Engine S} {host : Host} {session : Option SessionId}
  {cursor : Cursor S} {c c' : Connection} {amount : Option Nat} {rest : Bytes} {s' : S}

/-- **The loop hands over the chunks of what the engine emits.** -/
theorem Engine.Emits.drains (hrests : E.RestsWhenDone) (hamount : amount ≠ some 0)
    (hemits : E.Emits host session cursor.state c rest s' c') (hc : c.Drivable host session)
    (hfits : (cursor.left ++ rest).length ≤ host.pointerWidth.ssizeMax) (size : Nat) :
    ∃ size', E.Drains Lasting amount ⟨host, c.withOutput none size 0, none⟩ cursor
        (chunks amount (cursor.left ++ rest))
        ⟨host, (c'.settled (E.lasting { state := s' })).withOutput none size' 0, none⟩
        { state := s' } ∧
      ∀ Memory ws m'' cursor'',
        E.Drains Memory amount ⟨host, c.withOutput none size 0, none⟩ cursor ws m'' cursor'' →
        ws = chunks amount (cursor.left ++ rest) ∧
          m'' = ⟨host, (c'.settled (E.lasting { state := s' })).withOutput none size' 0, none⟩ ∧
          cursor'' = { state := s' } := by
  generalize hlength : (cursor.left ++ rest).length = k
  induction k using Nat.strong_induction_on generalizing cursor c rest c' size with
  | _ k ih =>
    obtain ⟨cursor₁, c₁, c₂, rest₁, size₁, hgives, hdrivable, hrest, hemits₁, hsame, hdone⟩ :=
      hemits.turn hrests hc hamount hfits size
    by_cases hempty : cursor.left ++ rest = []
    · rw [hempty, within_nil] at hgives
      obtain ⟨rfl, rfl⟩ := hdone fun n hn => by
        have hpos : n ≠ 0 := fun h => hamount (h ▸ hn)
        rw [hempty, List.length_nil]
        omega
      rw [hempty, chunks_nil]
      refine ⟨size₁, .done hgives, fun Memory ws m'' cursor'' hdrains => ?_⟩
      cases hdrains with
      | done last =>
        obtain ⟨-, rfl, rfl⟩ := hgives.unique hc.running hamount last
        exact ⟨rfl, rfl, rfl⟩
      | turn first given => exact absurd (hgives.unique hc.running hamount first).1.symm given
    · have hgiven := within_ne_nil hamount hempty
      have hshorter : (cursor₁.left ++ rest₁).length < k :=
        hrest ▸ hlength ▸ length_beyond_lt hamount hempty
      obtain ⟨size', hdrains, hunique⟩ := ih _ hshorter hemits₁ hdrivable
        (hshorter.le.trans (hlength ▸ hfits)) size₁ rfl
      rw [hrest, hsame] at hdrains hunique
      rw [chunks_of_ne_nil hamount hempty]
      refine ⟨size', .turn hgives hgiven hdrains, fun Memory ws m'' cursor'' hdrains' => ?_⟩
      cases hdrains' with
      | done last => exact absurd (hgives.unique hc.running hamount last).1 hgiven
      | turn first given further =>
        obtain ⟨rfl, rfl, rfl⟩ := hgives.unique hc.running hamount first
        obtain ⟨rfl, rfl, rfl⟩ := hunique _ _ _ _ further
        exact ⟨rfl, rfl, rfl⟩

end Loop

/-! ## The theorem -/

end Ngh2
