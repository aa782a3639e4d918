/-
**Unordered maps, and objects behind shared pointers.**

An unordered map is an association list without repeated keys (`AList`); the order of its entries
is the order in which an iteration visits them, about which nothing is promised.  Objects that are
reached through shared pointers live in a heap: an object is created at a fresh address, two
pointers are equal exactly when they point to the same object, and a change made through one
pointer is seen through all of them.

Main definitions:

* `UMap` — unordered maps, with `UMap.lookup_insert_eq` and `UMap.lookup_erase_eq` as the rules
  for looking up after a change, and `UMap.foldl_max_le_iff` for a maximum over the entries;
* `Heap`, `Heap.alloc`, `Heap.write` — heaps of objects.
-/

import Mathlib.Data.List.AList
import Mathlib.Logic.Function.Basic
import Mathlib.Order.MinMax

set_option autoImplicit false

/-! ### Unordered maps -/

/-- An unordered map from `κ` to `α`. -/
abbrev UMap (κ α : Type) : Type := AList fun _ : κ => α

namespace UMap

variable {κ α : Type} [DecidableEq κ]

theorem lookup_insert_eq (m : UMap κ α) (k k' : κ) (a : α) :
    (m.insert k a).lookup k' = if k' = k then some a else m.lookup k' := by
  by_cases h : k' = k
  · subst h
    simp
  · rw [if_neg h, AList.lookup_insert_ne h]

theorem lookup_erase_eq (m : UMap κ α) (k k' : κ) :
    (m.erase k).lookup k' = if k' = k then none else m.lookup k' := by
  by_cases h : k' = k
  · subst h
    simp
  · rw [if_neg h, AList.lookup_erase_ne h]

theorem mem_of_lookup {m : UMap κ α} {k : κ} {a : α} (h : m.lookup k = some a) : k ∈ m :=
  AList.lookup_isSome.1 (by simp [h])

/-- The entries an iteration visits are those a lookup finds. -/
theorem mem_entries_iff (m : UMap κ α) (k : κ) (a : α) :
    ⟨k, a⟩ ∈ m.entries ↔ m.lookup k = some a :=
  AList.mem_lookup_iff.symm

/-- A maximum over the entries does not depend on the order in which they are visited. -/
theorem foldl_max_le_iff {β : Type} [LinearOrder β] (m : UMap κ α) (f : κ → α → β) (b x : β) :
    m.entries.foldl (fun acc e => max acc (f e.1 e.2)) b ≤ x ↔
      b ≤ x ∧ ∀ k a, m.lookup k = some a → f k a ≤ x := by
  have hfold : ∀ (l : List (Sigma fun _ : κ => α)) (b : β),
      l.foldl (fun acc e => max acc (f e.1 e.2)) b ≤ x ↔ b ≤ x ∧ ∀ e ∈ l, f e.1 e.2 ≤ x := by
    intro l
    induction l with
    | nil => simp
    | cons e l ih =>
        intro b
        rw [List.foldl_cons, ih, max_le_iff, List.forall_mem_cons, and_assoc]
  rw [hfold]
  refine and_congr_right fun _ => ⟨fun h k a hl => h ⟨k, a⟩ ((mem_entries_iff m k a).2 hl), ?_⟩
  rintro h ⟨k, a⟩ he
  exact h k a ((mem_entries_iff m k a).1 he)

end UMap

/-! ### Objects behind shared pointers -/

/-- A heap of objects: the addresses below `size` are in use. -/
structure Heap (α : Type) where
  size : ℕ
  read : ℕ → α

namespace Heap

variable {α : Type}

/-- The heap without objects. -/
def empty [Inhabited α] : Heap α := ⟨0, fun _ => default⟩

/-- Where the next object goes. -/
def fresh (h : Heap α) : ℕ := h.size

/-- A new object, at a fresh address. -/
def alloc (h : Heap α) (a : α) : Heap α := ⟨h.size + 1, Function.update h.read h.size a⟩

/-- A change of the object at an address. -/
def write (h : Heap α) (p : ℕ) (a : α) : Heap α := { h with read := Function.update h.read p a }

@[simp] theorem size_alloc (h : Heap α) (a : α) : (h.alloc a).size = h.size + 1 := rfl

@[simp] theorem read_alloc_fresh (h : Heap α) (a : α) : (h.alloc a).read h.size = a := by
  simp [alloc]

theorem read_alloc_of_ne (h : Heap α) (a : α) {p : ℕ} (hp : p ≠ h.size) :
    (h.alloc a).read p = h.read p := by
  simp [alloc, Function.update_of_ne hp]

theorem read_alloc_of_lt (h : Heap α) (a : α) {p : ℕ} (hp : p < h.size) :
    (h.alloc a).read p = h.read p :=
  h.read_alloc_of_ne a (by omega)

@[simp] theorem read_write_self (h : Heap α) (p : ℕ) (a : α) : (h.write p a).read p = a := by
  simp [write]

theorem read_write_of_ne (h : Heap α) (a : α) {p q : ℕ} (hp : q ≠ p) :
    (h.write p a).read q = h.read q := by
  simp [write, Function.update_of_ne hp]

end Heap
