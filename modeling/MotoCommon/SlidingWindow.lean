/-
**Sliding windows, in a ring and with a queue of candidates for the maximum.**

The last `k` elements of a growing list are a window that slides along it.  Two ways to keep such a
window without going through it again are described here.  A *ring* of `k` cells has the element at
position `i` in cell `i % k`; positions count from the beginning of the list and never wrap, so an
element that leaves the window does not move the others.  A *queue of leaders* has the positions whose
element is greater than all later ones; its front is the maximum of the window, it loses its front when
that leaves the window, and a new element pushes out from the back those that it is not less than.

Main definitions:

* `Sliding.window` — the last `k` elements of a list;
* `Sliding.Holds` — a ring that has a list from a position on;
* `Sliding.leaders` — the leaders of a list, with their positions.

Main results:

* `Sliding.window_append_singleton` — how the window moves;
* `Sliding.Holds.pop`, `Sliding.Holds.push` — the ring moves with it;
* `Sliding.leaders_pop`, `Sliding.leaders_push` — **so does the queue**;
* `Sliding.head_leaders_max` — the front of the queue is the maximum.
-/

import Mathlib.Data.List.Basic
import Mathlib.Data.List.Induction
import Mathlib.Data.List.Infix
import Mathlib.Order.Lattice

set_option autoImplicit false

namespace Sliding

/-! ### The window -/

section Window

variable {β γ : Type} {k : ℕ}

/-- The last `k` elements of a list. -/
def window (k : ℕ) (l : List β) : List β := l.drop (l.length - k)

@[simp] theorem window_nil : window k ([] : List β) = [] := List.drop_nil

theorem length_window (l : List β) : (window k l).length = min k l.length := by
  rw [window, List.length_drop]
  omega

theorem window_map (f : β → γ) (l : List β) : window k (l.map f) = (window k l).map f := by
  rw [window, window, List.length_map, List.map_drop]

theorem window_suffix (k : ℕ) (l : List β) : window k l <:+ l := List.drop_suffix _ _

/-- A list that another one ends with is a window of it. -/
theorem window_of_suffix {t l : List β} (h : t <:+ l) : window t.length l = t :=
  (List.suffix_iff_eq_drop.1 h).symm

/-- The window moves: a full one loses its first element. -/
theorem window_append_singleton (hk : 0 < k) (l : List β) (x : β) :
    window k (l ++ [x]) =
      (if (window k l).length < k then window k l else (window k l).tail) ++ [x] := by
  have hlen := length_window (k := k) l
  unfold window at hlen ⊢
  rw [List.length_append, List.length_singleton]
  by_cases h : l.length < k
  · have hzero : l.length + 1 - k = 0 := by omega
    have hzero' : l.length - k = 0 := by omega
    rw [hzero, hzero', List.drop_zero, List.drop_zero, if_pos h]
  · have hnext : l.length + 1 - k = l.length - k + 1 := by omega
    rw [if_neg (by omega), hnext, List.drop_append_of_le_length (by omega), ← List.tail_drop]

end Window

/-! ### The ring -/

section Ring

variable {β : Type} {k lo : ℕ} {buf w : List β}

/-- Positions that are less than a round apart have different cells. -/
theorem mod_ne_mod {i j : ℕ} (hij : i < j) (hj : j < i + k) : i % k ≠ j % k := by
  intro h
  have hzero : (j - i) % k = 0 := Nat.sub_mod_eq_zero_of_mod_eq h.symm
  rw [Nat.mod_eq_of_lt (by omega)] at hzero
  omega

/-- A ring of `k` cells has the list `w` from position `lo` on. -/
structure Holds (k : ℕ) (buf : List β) (lo : ℕ) (w : List β) : Prop where
  size : buf.length = k
  fits : w.length ≤ k
  cells : ∀ i < w.length, buf[(lo + i) % k]? = w[i]?

theorem Holds.nil (h : buf.length = k) (lo : ℕ) : Holds k buf lo [] where
  size := h
  fits := Nat.zero_le k
  cells := fun _ hi => absurd hi (Nat.not_lt_zero _)

theorem Holds.pop {a : β} (h : Holds k buf lo (a :: w)) : Holds k buf (lo + 1) w where
  size := h.size
  fits := Nat.le_of_succ_le h.fits
  cells := fun i hi => by
    have hcell := h.cells (i + 1) (Nat.succ_lt_succ hi)
    rwa [List.getElem?_cons_succ, ← Nat.add_assoc, Nat.add_right_comm] at hcell

theorem Holds.push (h : Holds k buf lo w) (hroom : w.length < k) (x : β) :
    Holds k (buf.set ((lo + w.length) % k) x) lo (w ++ [x]) where
  size := by rw [List.length_set, h.size]
  fits := by
    rw [List.length_append, List.length_singleton]
    exact hroom
  cells := fun i hi => by
    rw [List.length_append, List.length_singleton] at hi
    rcases Nat.lt_or_eq_of_le (Nat.le_of_lt_succ hi) with hlt | rfl
    -- two positions less than `k` apart are in different cells
    · have hne : (lo + i) % k ≠ (lo + w.length) % k := mod_ne_mod (by omega) (by omega)
      rw [List.getElem?_set_ne hne.symm, h.cells i hlt, List.getElem?_append_left hlt]
    · have hcell : (lo + w.length) % k < buf.length := by
        rw [h.size]
        exact Nat.mod_lt _ (by omega)
      rw [List.getElem?_set_self hcell, List.getElem?_concat_length]

end Ring

/-! ### The queue of leaders -/

section Queue

variable {α ι : Type} [LinearOrder α]

/-- The elements that are greater than all later ones, with their positions, from position `lo` on. -/
def leaders : ℕ → List α → List (ℕ × α)
  | _, [] => []
  | lo, a :: w => if ∀ b ∈ w, b < a then (lo, a) :: leaders (lo + 1) w else leaders (lo + 1) w

theorem leaders_cons_of_forall {lo : ℕ} {a : α} {w : List α} (h : ∀ b ∈ w, b < a) :
    leaders lo (a :: w) = (lo, a) :: leaders (lo + 1) w := if_pos h

theorem leaders_cons_of_not {lo : ℕ} {a : α} {w : List α} (h : ¬∀ b ∈ w, b < a) :
    leaders lo (a :: w) = leaders (lo + 1) w := if_neg h

/-- A leader is an element at its position. -/
theorem getElem?_of_mem_leaders {p : ℕ × α} : ∀ {lo : ℕ} {w : List α}, p ∈ leaders lo w →
    ∃ i, p.1 = lo + i ∧ w[i]? = some p.2 := by
  intro lo w
  induction w generalizing lo with
  | nil => intro hp; cases hp
  | cons a w ih =>
      intro hp
      by_cases h : ∀ b ∈ w, b < a
      · rw [leaders_cons_of_forall h] at hp
        rcases List.mem_cons.1 hp with rfl | hp
        · exact ⟨0, rfl, rfl⟩
        · obtain ⟨i, hi, hget⟩ := ih hp
          exact ⟨i + 1, by omega, hget⟩
      · rw [leaders_cons_of_not h] at hp
        obtain ⟨i, hi, hget⟩ := ih hp
        exact ⟨i + 1, by omega, hget⟩

theorem mem_of_mem_leaders {lo : ℕ} {w : List α} {p : ℕ × α} (h : p ∈ leaders lo w) : p.2 ∈ w := by
  obtain ⟨i, -, hget⟩ := getElem?_of_mem_leaders h
  exact List.mem_of_getElem? hget

/-- The leaders descend. -/
theorem leaders_descending (lo : ℕ) (w : List α) :
    (leaders lo w).Pairwise fun p q => q.2 < p.2 := by
  induction w generalizing lo with
  | nil => exact List.Pairwise.nil
  | cons a w ih =>
      by_cases h : ∀ b ∈ w, b < a
      · rw [leaders_cons_of_forall h]
        exact List.Pairwise.cons (fun q hq => h q.2 (mem_of_mem_leaders hq)) (ih (lo + 1))
      · rw [leaders_cons_of_not h]
        exact ih (lo + 1)

theorem leaders_ne_nil {w : List α} (hw : w ≠ []) (lo : ℕ) : leaders lo w ≠ [] := by
  induction w generalizing lo with
  | nil => exact absurd rfl hw
  | cons a w ih =>
      by_cases h : ∀ b ∈ w, b < a
      · rw [leaders_cons_of_forall h]
        exact List.cons_ne_nil _ _
      · rw [leaders_cons_of_not h]
        refine ih ?_ (lo + 1)
        rintro rfl
        exact h fun b hb => absurd hb List.not_mem_nil

/-- **The front of the queue is the maximum.** -/
theorem head_leaders_max {lo : ℕ} {w : List α} {p : ℕ × α} (h : (leaders lo w).head? = some p) :
    p.2 ∈ w ∧ ∀ b ∈ w, b ≤ p.2 := by
  refine ⟨mem_of_mem_leaders (List.mem_of_mem_head? h), ?_⟩
  induction w generalizing lo with
  | nil => exact fun b hb => absurd hb List.not_mem_nil
  | cons a w ih =>
      intro b hb
      by_cases hlead : ∀ b ∈ w, b < a
      · rw [leaders_cons_of_forall hlead] at h
        obtain rfl := Option.some.inj h
        rcases List.mem_cons.1 hb with rfl | hb
        · exact le_rfl
        · exact le_of_lt (hlead b hb)
      · rw [leaders_cons_of_not hlead] at h
        rcases List.mem_cons.1 hb with rfl | hb
        · -- some later element is not less, and the front is not less than that one
          push Not at hlead
          obtain ⟨c, hc, hbc⟩ := hlead
          exact le_trans hbc (ih h c hc)
        · exact ih h b hb

/-- **The front of the queue goes with the element that leaves**, if it is that element. -/
theorem leaders_pop (lo : ℕ) (a : α) (w : List α) :
    (if (leaders lo (a :: w)).head?.map Prod.fst = some lo then (leaders lo (a :: w)).tail
      else leaders lo (a :: w)) = leaders (lo + 1) w := by
  by_cases h : ∀ b ∈ w, b < a
  · rw [leaders_cons_of_forall h]
    exact if_pos rfl
  · rw [leaders_cons_of_not h]
    refine if_neg fun hhead => ?_
    obtain ⟨p, hp, hfst⟩ := Option.map_eq_some_iff.1 hhead
    obtain ⟨i, hi, -⟩ := getElem?_of_mem_leaders (List.mem_of_mem_head? hp)
    omega

/-- A new element leaves the leaders that are greater. -/
theorem leaders_append_singleton (lo : ℕ) (w : List α) (x : α) :
    leaders lo (w ++ [x]) =
      ((leaders lo w).filter fun p => decide (x < p.2)) ++ [(lo + w.length, x)] := by
  induction w generalizing lo with
  | nil => exact leaders_cons_of_forall fun b hb => absurd hb List.not_mem_nil
  | cons a w ih =>
      have hpos : lo + 1 + w.length = lo + (a :: w).length := by
        rw [List.length_cons]
        omega
      by_cases h : ∀ b ∈ w, b < a
      -- the first element stays a leader exactly if the new one is less
      · rw [leaders_cons_of_forall h, List.cons_append]
        by_cases hx : x < a
        · have hall : ∀ b ∈ w ++ [x], b < a := by
            intro b hb
            rcases List.mem_append.1 hb with hb | hb
            · exact h b hb
            · rwa [List.mem_singleton.1 hb]
          rw [leaders_cons_of_forall hall, ih, List.filter_cons_of_pos (by simpa using hx), hpos]
          rfl
        · have hnot : ¬∀ b ∈ w ++ [x], b < a :=
            fun hall => hx (hall x (List.mem_append_right w (List.mem_singleton_self x)))
          rw [leaders_cons_of_not hnot, ih, List.filter_cons_of_neg (by simpa using hx), hpos]
      · have hnot : ¬∀ b ∈ w ++ [x], b < a :=
          fun hall => h fun b hb => hall b (List.mem_append_left [x] hb)
        rw [leaders_cons_of_not h, List.cons_append, leaders_cons_of_not hnot, ih, hpos]

/-- In a list that descends, taking out from the back what is not greater takes out all of it. -/
theorem reverse_dropWhile_reverse {l : List (ℕ × α)} (hl : l.Pairwise fun p q => q.2 < p.2)
    (g : ℕ × α → ι) {val : ι → α} (hval : ∀ p ∈ l, val (g p) = p.2) (x : α) :
    ((l.map g).reverse.dropWhile fun i => decide (val i ≤ x)).reverse =
      (l.filter fun p => decide (x < p.2)).map g := by
  induction l using List.reverseRecOn with
  | nil => rfl
  | append_singleton l p ih =>
      rw [List.pairwise_append] at hl
      have hlast : val (g p) = p.2 := hval p (List.mem_append_right l (List.mem_singleton_self p))
      rw [List.map_append, List.reverse_append, List.filter_append]
      by_cases hx : p.2 ≤ x
      · have hrest := ih hl.1 fun q hq => hval q (List.mem_append_left [p] hq)
        have hdrop : ([p].filter fun p => decide (x < p.2)) = [] := by simp [hx]
        rw [hdrop, List.append_nil, ← hrest]
        simp [hlast, hx]
      · -- the last one stays, so all of them do
        have hgreater : x < p.2 := not_le.1 hx
        have hall : l.filter (fun p => decide (x < p.2)) = l := by
          rw [List.filter_eq_self]
          intro q hq
          exact decide_eq_true (lt_trans hgreater (hl.2.2 q hq p (List.mem_singleton_self p)))
        rw [hall]
        simp [hlast, hgreater]

/-- **A new element pushes out from the back those that it is not less than.**  `g` says where the
queue points, and `val` what is there. -/
theorem leaders_push (lo : ℕ) (w : List α) (x : α) (g : ℕ × α → ι) (val : ι → α)
    (hval : ∀ p ∈ leaders lo w, val (g p) = p.2) :
    (((leaders lo w).map g).reverse.dropWhile fun i => decide (val i ≤ x)).reverse ++
        [g (lo + w.length, x)] = (leaders lo (w ++ [x])).map g := by
  rw [reverse_dropWhile_reverse (leaders_descending lo w) g hval, leaders_append_singleton,
    List.map_append]
  rfl

end Queue

end Sliding
