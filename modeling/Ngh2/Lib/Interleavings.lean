import Mathlib.Data.List.Basic
import Mathlib.Tactic.Common

/-!
# Interleavings of independent sequences

Where every element of a list has a key, the list is an interleaving of its
parts, one for each key. Two lists with the same parts need not be equal, but
they are one swap after another of neighbours with different keys apart
(`swaps_of_parts`): the element the one begins with can be moved to the front of
the other, since whatever stands before it there has another key.

A system that takes labelled steps does not notice such a swap if two of its
steps with different keys can be taken in either order, with the same outcomes
and to the same state. Then it does not notice how its steps are interleaved at
all (`Trace.of_parts`): what each of them is answered, and where they lead,
depends on the order within each key and on nothing else.
-/

namespace Interleaving

variable {α κ : Type}

/-- **Lists that differ by swaps** of neighbours with different keys. -/
inductive Swaps (key : α → κ) : List α → List α → Prop
  | nil : Swaps key [] []
  | cons (a : α) {l l' : List α} (h : Swaps key l l') : Swaps key (a :: l) (a :: l')
  | swap {a b : α} (h : key a ≠ key b) (l : List α) : Swaps key (a :: b :: l) (b :: a :: l)
  | trans {l l' l'' : List α} (h : Swaps key l l') (h' : Swaps key l' l'') : Swaps key l l''

section Lists

variable {key : α → κ}

theorem Swaps.refl (l : List α) : Swaps key l l := by
  induction l with
  | nil => exact .nil
  | cons a l ih => exact .cons a ih

/-- The lists have the same elements. -/
theorem Swaps.perm {l l' : List α} (h : Swaps key l l') : l.Perm l' := by
  induction h with
  | nil => exact .nil
  | cons a _ ih => exact ih.cons a
  | swap _ l => exact .swap _ _ l
  | trans _ _ ih ih' => exact ih.trans ih'

/-- **An element moves to the front** past elements with other keys. -/
theorem Swaps.front {a : α} {p : List α} (h : ∀ b ∈ p, key b ≠ key a) (q : List α) :
    Swaps key (p ++ a :: q) (a :: (p ++ q)) := by
  induction p with
  | nil => exact .refl _
  | cons b p ih =>
    have hrest : Swaps key (p ++ a :: q) (a :: (p ++ q)) :=
      ih fun c hc => h c (List.mem_cons_of_mem b hc)
    exact (hrest.cons b).trans (.swap (h b List.mem_cons_self) (p ++ q))

variable [DecidableEq κ]

/-- The part of a list with a key. -/
def part (key : α → κ) (k : κ) (l : List α) : List α := l.filter fun a => decide (key a = k)

theorem part_cons_of_eq {k : κ} {a : α} (h : key a = k) (l : List α) :
    part key k (a :: l) = a :: part key k l := List.filter_cons_of_pos (by simp [h])

theorem part_cons_of_ne {k : κ} {a : α} (h : key a ≠ k) (l : List α) :
    part key k (a :: l) = part key k l := List.filter_cons_of_neg (by simp [h])

theorem part_append (k : κ) (l l' : List α) :
    part key k (l ++ l') = part key k l ++ part key k l' := List.filter_append ..

theorem part_eq_nil {k : κ} {l : List α} (h : ∀ a ∈ l, key a ≠ k) : part key k l = [] :=
  List.filter_eq_nil_iff.mpr fun a ha => by simp [h a ha]

/-- **Lists with the same parts differ by swaps.** -/
theorem swaps_of_parts {l l' : List α} (h : ∀ k, part key k l' = part key k l) :
    Swaps key l' l := by
  induction l generalizing l' with
  | nil =>
    cases l' with
    | nil => exact .nil
    | cons a l' =>
      have hnone : a :: part key (key a) l' = [] := (part_cons_of_eq rfl l').symm.trans (h (key a))
      exact absurd hnone (List.cons_ne_nil _ _)
  | cons a l ih =>
    -- the first element of the one stands in the other behind elements with other keys
    obtain ⟨p, q, rfl, hp, -, hq⟩ :=
      List.filter_eq_cons_iff.mp ((h (key a)).trans (part_cons_of_eq rfl l))
    have hother : ∀ b ∈ p, key b ≠ key a := fun b hb heq => hp b hb (by simp [heq])
    refine (Swaps.front hother q).trans (.cons a (ih fun k => ?_))
    have hk := h k
    rw [part_append] at hk ⊢
    by_cases hkey : key a = k
    · rw [part_eq_nil (hkey ▸ hother), List.nil_append]
      subst hkey
      exact hq
    · rw [part_cons_of_ne hkey, part_cons_of_ne hkey] at hk
      exact hk

end Lists

/-! ## Steps that can be swapped -/

section Steps

variable {σ ℓ ω : Type} {step : σ → ℓ → Option (ω × σ)} {s s' : σ} {key : ℓ × ω → κ}

/-- **What is seen of steps that follow each other**: the labels and outcomes,
oldest first. -/
inductive Trace (step : σ → ℓ → Option (ω × σ)) : σ → List (ℓ × ω) → σ → Prop
  | done (s : σ) : Trace step s [] s
  | more {s s₁ s' : σ} {x : ℓ × ω} {xs : List (ℓ × ω)} (taken : step s x.1 = some (x.2, s₁))
      (further : Trace step s₁ xs s') : Trace step s (x :: xs) s'

theorem Trace.cons_iff {x : ℓ × ω} {xs : List (ℓ × ω)} :
    Trace step s (x :: xs) s' ↔ ∃ s₁, step s x.1 = some (x.2, s₁) ∧ Trace step s₁ xs s' := by
  constructor
  · intro htrace
    cases htrace with
    | more taken further => exact ⟨_, taken, further⟩
  · rintro ⟨s₁, taken, further⟩
    exact .more taken further

/-- What is seen of steps is seen one part after the other. -/
theorem Trace.append_iff {xs ys : List (ℓ × ω)} :
    Trace step s (xs ++ ys) s' ↔ ∃ s₁, Trace step s xs s₁ ∧ Trace step s₁ ys s' := by
  constructor
  · intro htrace
    induction xs generalizing s with
    | nil => exact ⟨s, .done s, htrace⟩
    | cons x xs ih =>
      obtain ⟨s₀, taken, further⟩ := Trace.cons_iff.mp htrace
      obtain ⟨s₁, hfirst, hsecond⟩ := ih further
      exact ⟨s₁, .more taken hfirst, hsecond⟩
  · rintro ⟨s₁, hfirst, hsecond⟩
    induction hfirst with
    | done => exact hsecond
    | more taken _ ih => exact .more taken (ih hsecond)

/-- **Two steps with different keys can be swapped**, if they are among those a
predicate describes. -/
def Commutes (step : σ → ℓ → Option (ω × σ)) (P : ℓ × ω → Prop) (key : ℓ × ω → κ) : Prop :=
  ∀ {s s₁ s₂ : σ} {x y : ℓ × ω}, P x → P y → key x ≠ key y →
    step s x.1 = some (x.2, s₁) → step s₁ y.1 = some (y.2, s₂) →
    ∃ s₁', step s y.1 = some (y.2, s₁') ∧ step s₁' x.1 = some (x.2, s₂)

/-- Swaps are not noticed. -/
theorem Trace.swapped {P : ℓ × ω → Prop} (hcommutes : Commutes step P key) {xs ys : List (ℓ × ω)}
    (h : Swaps key xs ys) (hP : ∀ x ∈ xs, P x) (htrace : Trace step s xs s') :
    Trace step s ys s' := by
  induction h generalizing s s' with
  | nil => exact htrace
  | cons a _ ih =>
    cases htrace with
    | more taken further =>
      exact .more taken (ih (fun x hx => hP x (List.mem_cons_of_mem a hx)) further)
  | @swap a b hne l =>
    cases htrace with
    | more taken further =>
      cases further with
      | more taken' further =>
        have hb : P b := hP b (List.mem_cons_of_mem a List.mem_cons_self)
        obtain ⟨s₁', htaken, htaken'⟩ := hcommutes (hP a List.mem_cons_self) hb hne taken taken'
        exact .more htaken (.more htaken' further)
  | trans h _ ih ih' =>
    exact ih' (fun x hx => hP x (h.perm.mem_iff.mpr hx)) (ih hP htrace)

/-- **How independent steps are interleaved is not noticed.** -/
theorem Trace.of_parts [DecidableEq κ] {P : ℓ × ω → Prop} (hcommutes : Commutes step P key)
    {xs ys : List (ℓ × ω)} (hP : ∀ x ∈ xs, P x) (hparts : ∀ k, part key k xs = part key k ys)
    (htrace : Trace step s xs s') : Trace step s ys s' :=
  htrace.swapped hcommutes (swaps_of_parts hparts) hP

end Steps

end Interleaving
