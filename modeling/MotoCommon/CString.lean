/-
**Strings in memory.**

A C string is what stands in memory from an address on, up to the first NUL.  The functions of this module
read memory one character at a time; how far they read is part of what is proved about them, since nothing
is known about the memory behind the last NUL.

Several strings may stand one after the other, with an empty one at the end: these are the fields of a
message.

Main definitions:

* `CString.Holds` — a list stands in memory at an address;
* `CString.cstr`, `CString.strncmp` — the string at an address, and its comparison with another one;
* `CString.fields` — the fields of a message;
* `CString.upTo` — a list up to the first element with a property, and that element.

Main results:

* `CString.cstr_eq_some` — the string is found, and what is read;
* `CString.strncmp_eq` — the comparison is one of prefixes, and reads no further than the NUL;
* `CString.fields_append_nul` — the first field of a message.
-/

import Mathlib.Data.Nat.Notation
import Mathlib.Data.List.Basic

set_option autoImplicit false

namespace CString

/-! ### Memory -/

section Memory

variable {α : Type} {mem : ℕ → α} {cp : ℕ}

/-- The list stands in memory at the address. -/
def Holds (mem : ℕ → α) : ℕ → List α → Prop
  | _, [] => True
  | cp, a :: l => mem cp = a ∧ Holds mem (cp + 1) l

theorem holds_append {l l' : List α} :
    Holds mem cp (l ++ l') ↔ Holds mem cp l ∧ Holds mem (cp + l.length) l' := by
  induction l generalizing cp with
  | nil => simp [Holds]
  | cons a l ih =>
      have hlength : cp + 1 + l.length = cp + (a :: l).length := by
        rw [List.length_cons]
        omega
      rw [List.cons_append, Holds, Holds, ih, hlength, and_assoc]

theorem holds_of_forall {l : List α} (h : ∀ i (hi : i < l.length), mem (cp + i) = l[i]) :
    Holds mem cp l := by
  induction l generalizing cp with
  | nil => trivial
  | cons a l ih =>
      refine ⟨h 0 (Nat.zero_lt_succ _), ih fun i hi => ?_⟩
      have hnext := h (i + 1) (Nat.succ_lt_succ hi)
      rw [List.getElem_cons_succ] at hnext
      rw [← hnext]
      congr 1
      omega

end Memory

/-! ### Strings -/

section Strings

variable {α : Type} [DecidableEq α] {nul : α} {mem : ℕ → α} {cp : ℕ} {s lit : List α}

/-- The string at an address, read character by character. -/
def cstr (nul : α) (mem : ℕ → α) : ℕ → ℕ → Option (List α)
  | 0, _ => none
  | fuel + 1, cp => if mem cp = nul then some [] else (cstr nul mem fuel (cp + 1)).map (mem cp :: ·)

/-- The addresses that are read up to the end of a string. -/
def through (cp : ℕ) (s : List α) : List ℕ := List.range' cp (s.length + 1)

omit [DecidableEq α] in
theorem mem_through {i : ℕ} : i ∈ through cp s ↔ cp ≤ i ∧ i ≤ cp + s.length := by
  unfold through
  rw [List.mem_range'_1]
  omega

/-- The string is found if there is enough fuel to come to its end. -/
theorem cstr_eq_some (h : Holds mem cp (s ++ [nul])) (hs : nul ∉ s) {fuel : ℕ}
    (hfuel : s.length < fuel) : cstr nul mem fuel cp = some s := by
  induction s generalizing cp fuel with
  | nil =>
      obtain ⟨fuel, rfl⟩ : ∃ k, fuel = k + 1 := ⟨fuel - 1, by simp at hfuel; omega⟩
      rw [cstr, if_pos h.1]
  | cons a s ih =>
      obtain ⟨fuel, rfl⟩ : ∃ k, fuel = k + 1 := ⟨fuel - 1, by simp at hfuel; omega⟩
      have hne : mem cp ≠ nul := by
        rw [h.1]
        exact fun heq => hs (heq ▸ List.mem_cons_self)
      rw [cstr, if_neg hne, ih h.2 (fun hmem => hs (List.mem_cons_of_mem a hmem))
        (by simp at hfuel; omega), h.1]
      rfl

/-- `strncmp` with a literal, up to the length of the literal: whether they are equal, and what is read. -/
def strncmp (nul : α) (mem : ℕ → α) : List α → ℕ → Bool × List ℕ
  | [], _ => (true, [])
  | c :: cs, cp =>
      if mem cp ≠ c then (false, [cp])
      else if c = nul then (true, [cp])
      else ((strncmp nul mem cs (cp + 1)).1, cp :: (strncmp nul mem cs (cp + 1)).2)

/-- The string starts with the literal or not, and nothing behind its NUL is read. -/
theorem strncmp_eq (h : Holds mem cp (s ++ [nul])) (hlit : nul ∉ lit) :
    (strncmp nul mem lit cp).1 = lit.isPrefixOf s ∧
      ∀ i ∈ (strncmp nul mem lit cp).2, cp ≤ i ∧ i ≤ cp + s.length := by
  induction lit generalizing cp s with
  | nil => simp [strncmp]
  | cons c cs ih =>
      have hc : c ≠ nul := fun heq => hlit (heq ▸ List.mem_cons_self)
      have hcs : nul ∉ cs := fun hmem => hlit (List.mem_cons_of_mem c hmem)
      cases s with
      | nil =>
          -- the NUL of the string differs from the literal
          have hne : mem cp ≠ c := by
            rw [h.1]
            exact hc.symm
          rw [strncmp, if_pos hne]
          simp
      | cons a s =>
          by_cases hac : a = c
          · subst hac
            obtain ⟨heq, hreads⟩ := ih h.2 hcs
            rw [strncmp, if_neg (not_not.2 h.1), if_neg hc]
            refine ⟨by simp [heq], ?_⟩
            intro i hi
            rw [List.length_cons]
            rcases List.mem_cons.1 hi with rfl | hi
            · omega
            · have := hreads i hi
              omega
          · have hne : mem cp ≠ c := by
              rw [h.1]
              exact hac
            rw [strncmp, if_pos hne]
            refine ⟨by simp [List.isPrefixOf, Ne.symm hac], ?_⟩
            intro i hi
            obtain rfl := List.mem_singleton.1 hi
            omega

end Strings

/-! ### Fields -/

section Fields

variable {α : Type} [DecidableEq α] {nul : α} {s l : List α}

/-- The fields of a message: what stands between the NULs, up to the first empty one. -/
def fields (nul : α) (message : List α) : List (List α) :=
  (message.splitOn nul).takeWhile fun field => decide (field ≠ [])

@[simp] theorem fields_nil : fields nul [] = [] := by
  simp [fields]

@[simp] theorem fields_nul : fields nul (nul :: l) = [] := by
  have hsplit := List.splitOn_append_cons_self_of_not_mem (List.not_mem_nil (a := nul)) l
  unfold fields
  rw [List.nil_append] at hsplit
  rw [hsplit]
  simp

/-- The first field of a message. -/
theorem fields_append_nul (hs : nul ∉ s) (hne : s ≠ []) :
    fields nul (s ++ nul :: l) = s :: fields nul l := by
  unfold fields
  rw [List.splitOn_append_cons_self_of_not_mem hs, List.takeWhile_cons_of_pos (by simp [hne])]

theorem fields_single (hs : nul ∉ s) (hne : s ≠ []) : fields nul s = [s] := by
  unfold fields
  rw [List.splitOn_eq_singleton hs, List.takeWhile_cons_of_pos (by simp [hne]), List.takeWhile_nil]

/-- A message that is not empty is an unterminated field, or one that is followed by the rest of the
message. -/
theorem field_cases (nul : α) (l : List α) : nul ∉ l ∨ ∃ s l', l = s ++ nul :: l' ∧ nul ∉ s := by
  by_cases hmem : nul ∈ l
  · obtain ⟨s, l', heq, hs⟩ := List.eq_append_cons_of_mem hmem
    exact Or.inr ⟨s, l', heq, hs⟩
  · exact Or.inl hmem

end Fields

/-! ### The first element with a property -/

section UpTo

variable {β : Type}

/-- A list up to the first element with a property, and that element. -/
def upTo (p : β → Bool) : List β → List β
  | [] => []
  | x :: xs => if p x then [x] else x :: upTo p xs

theorem upTo_cons_of_pos {p : β → Bool} {x : β} (hx : p x = true) (xs : List β) :
    upTo p (x :: xs) = [x] := if_pos hx

theorem upTo_cons_of_neg {p : β → Bool} {x : β} (hx : p x = false) (xs : List β) :
    upTo p (x :: xs) = x :: upTo p xs := if_neg (by simp [hx])

end UpTo

end CString
