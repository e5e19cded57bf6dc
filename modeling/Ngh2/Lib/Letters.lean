import Mathlib.Computability.Language

/-!
# Languages read one letter at a time

A regular language whose atoms are sets of letters can be recognized by
looking at the first letter of a word only. The lemmas here say what the first
letter tells about membership in a set of letters, in a product that begins
with one, and in a product that begins with the iteration of one. They are the
left quotients of these three shapes, written as equivalences so that a
recognizer follows by rewriting.
-/

open Computability

namespace Language

variable {α : Type*} {p : Set α} {l : Language α} {x : α} {w : List α}

/-- The words of one letter, from a set of letters. -/
def letters (p : Set α) : Language α := (fun x => [x]) '' p

@[simp] theorem nil_notMem_letters : [] ∉ letters p := fun ⟨_, _, heq⟩ => List.cons_ne_nil _ _ heq

@[simp] theorem cons_mem_letters : x :: w ∈ letters p ↔ x ∈ p ∧ w = [] := by
  constructor
  · rintro ⟨y, hy, heq⟩
    obtain ⟨rfl, rfl⟩ := List.cons.inj heq
    exact ⟨hy, rfl⟩
  · rintro ⟨hx, rfl⟩
    exact ⟨x, hx, rfl⟩

/-- A product that begins with a letter holds no empty word. -/
@[simp] theorem nil_notMem_letters_mul : [] ∉ letters p * l := by
  rintro ⟨u, hu, v, -, heq⟩
  obtain ⟨rfl, -⟩ := List.append_eq_nil_iff.mp heq
  exact nil_notMem_letters hu

/-- **The first letter is the first factor.** -/
@[simp] theorem cons_mem_letters_mul : x :: w ∈ letters p * l ↔ x ∈ p ∧ w ∈ l := by
  constructor
  · rintro ⟨_, ⟨y, hy, rfl⟩, v, hv, heq⟩
    obtain ⟨rfl, rfl⟩ := List.cons.inj heq
    exact ⟨hy, hv⟩
  · rintro ⟨hx, hw⟩
    exact ⟨[x], ⟨x, hx, rfl⟩, w, hw, rfl⟩

/-- An iteration before a language is done, or is one factor and an iteration
before it. -/
theorem kstar_mul (m : Language α) : m∗ * l = l + m * (m∗ * l) := by
  rw [← mul_assoc]
  nth_rewrite 1 [← one_add_self_mul_kstar_eq_kstar m]
  rw [add_mul, one_mul]

@[simp] theorem nil_mem_kstar_letters_mul : [] ∈ (letters p)∗ * l ↔ [] ∈ l := by
  rw [kstar_mul, mem_add]
  exact or_iff_left nil_notMem_letters_mul

/-- **The first letter is iterated, or the iteration is over.** -/
theorem cons_mem_kstar_letters_mul :
    x :: w ∈ (letters p)∗ * l ↔ x ∈ p ∧ w ∈ (letters p)∗ * l ∨ x :: w ∈ l := by
  nth_rewrite 1 [kstar_mul]
  rw [mem_add, cons_mem_letters_mul]
  exact or_comm

end Language
