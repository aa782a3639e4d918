/-
**Narrowing a range, with caps relative to its lower end.**

A range is narrowed by a list of demands, one after the other: each demand raises the lower end and
lowers the upper end.  Some demands are *relative*: they also put a cap on the upper end that is
computed from the lower end as it is at that point.  The lower end does not depend on the order of
the demands, but the upper end may.  This module says when it does not.

Main definitions:

* `Capped.narrow`, `Capped.run` — one demand, and a list of them;
* `Capped.floor`, `Capped.ceiling` — the two ends that the demands alone lead to;
* `Capped.lows` — the lower ends at the relative demands;
* `Capped.Settled` — no cap that an order may lead to is below the one at the lower end of all demands,
  and no order avoids this one, unless it makes no difference.

Main results:

* `Capped.le_run_snd_iff` — **the upper end**, by the caps at the relative demands;
* `Capped.Settled.run_snd` — the upper end of settled demands, in any order;
* `Capped.run_perm_iff` — **the range does not depend on the order** exactly when the demands are
  settled, if the caps at different lower ends differ.
-/

import Mathlib.Data.List.Perm.Basic
import Mathlib.Order.MinMax

set_option autoImplicit false

namespace Capped

/-- A demand: a lower end, an upper end, and whether it is relative. -/
structure Demand (α : Type) where
  lo : α
  hi : α
  relative : Bool
  deriving DecidableEq, Repr

variable {α ι : Type} [LinearOrder α] {cap : α → α} {d : ι → Demand α}

/-- Narrow a range by one demand. -/
def narrow (cap : α → α) (d : ι → Demand α) (r : α × α) (i : ι) : α × α :=
  let lo := max r.1 (d i).lo
  let hi := min r.2 (d i).hi
  (lo, if (d i).relative then min hi (cap lo) else hi)

/-- Narrow a range by a list of demands. -/
def run (cap : α → α) (d : ι → Demand α) (r : α × α) (l : List ι) : α × α := l.foldl (narrow cap d) r

/-- The lower end that the demands lead to. -/
def floor (d : ι → Demand α) (lo : α) (l : List ι) : α := l.foldl (fun x i => max x (d i).lo) lo

/-- The upper end that the demands lead to, without the caps. -/
def ceiling (d : ι → Demand α) (hi : α) (l : List ι) : α := l.foldl (fun x i => min x (d i).hi) hi

/-- The lower ends at the relative demands, one after the other. -/
def lows (d : ι → Demand α) (lo : α) : List ι → List α
  | [] => []
  | i :: l =>
      if (d i).relative then max lo (d i).lo :: lows d (max lo (d i).lo) l
      else lows d (max lo (d i).lo) l

/-! ### The two ends -/

theorem floor_perm {l l' : List ι} (h : l.Perm l') (lo : α) : floor d lo l = floor d lo l' :=
  h.foldl_eq' (fun i _ j _ x => max_right_comm x (d i).lo (d j).lo) lo

theorem ceiling_perm {l l' : List ι} (h : l.Perm l') (hi : α) : ceiling d hi l = ceiling d hi l' :=
  h.foldl_eq' (fun i _ j _ x => min_right_comm x (d i).hi (d j).hi) hi

theorem le_floor (lo : α) (l : List ι) : lo ≤ floor d lo l := by
  induction l generalizing lo with
  | nil => exact le_rfl
  | cons i l ih => exact (le_max_left lo (d i).lo).trans (ih _)

/-- The lower end is that of the range, or that of a demand. -/
theorem exists_floor_eq (lo : α) {l : List ι} (hl : l ≠ []) :
    ∃ i ∈ l, floor d lo l = max lo (d i).lo := by
  induction l generalizing lo with
  | nil => exact absurd rfl hl
  | cons i l ih =>
      by_cases hnil : l = []
      · exact ⟨i, List.mem_cons_self, by rw [hnil]; rfl⟩
      · obtain ⟨j, hj, heq⟩ := ih (max lo (d i).lo) hnil
        have hfloor : floor d lo (i :: l) = max (max lo (d i).lo) (d j).lo := heq
        rcases le_total (d i).lo (d j).lo with hle | hle
        · exact ⟨j, List.mem_cons_of_mem _ hj, by rw [hfloor, max_assoc, max_eq_right hle]⟩
        · exact ⟨i, List.mem_cons_self, by rw [hfloor, max_assoc, max_eq_left hle]⟩

theorem le_ceiling_iff {x hi : α} {l : List ι} :
    x ≤ ceiling d hi l ↔ x ≤ hi ∧ ∀ i ∈ l, x ≤ (d i).hi := by
  induction l generalizing hi with
  | nil => simp [ceiling]
  | cons i l ih =>
      have hstep : ceiling d hi (i :: l) = ceiling d (min hi (d i).hi) l := rfl
      rw [hstep, ih, le_min_iff, List.forall_mem_cons, and_assoc]

/-! ### The lower ends at the relative demands -/

theorem lows_cons_relative {i : ι} (h : (d i).relative = true) (lo : α) (l : List ι) :
    lows d lo (i :: l) = max lo (d i).lo :: lows d (max lo (d i).lo) l := by
  rw [lows, if_pos h]

theorem lows_cons_plain {i : ι} (h : (d i).relative = false) (lo : α) (l : List ι) :
    lows d lo (i :: l) = lows d (max lo (d i).lo) l := by
  rw [lows, if_neg (by simp [h])]

omit [LinearOrder α] in
theorem plain_of_not_exists {l : List ι} (h : ¬ ∃ i ∈ l, (d i).relative = true) :
    ∀ i ∈ l, (d i).relative = false :=
  fun i hi => Bool.eq_false_iff.2 fun hrel => h ⟨i, hi, hrel⟩

theorem lows_eq_nil {lo : α} {l : List ι} (h : ∀ i ∈ l, (d i).relative = false) : lows d lo l = [] := by
  induction l generalizing lo with
  | nil => rfl
  | cons i l ih =>
      rw [lows_cons_plain (h i List.mem_cons_self)]
      exact ih fun j hj => h j (List.mem_cons_of_mem _ hj)

theorem lows_append_plain {lo : α} {l l' : List ι} (h : ∀ i ∈ l', (d i).relative = false) :
    lows d lo (l ++ l') = lows d lo l := by
  induction l generalizing lo with
  | nil => exact lows_eq_nil h
  | cons i l ih =>
      cases hi : (d i).relative with
      | true => rw [List.cons_append, lows_cons_relative hi, lows_cons_relative hi, ih]
      | false => rw [List.cons_append, lows_cons_plain hi, lows_cons_plain hi, ih]

/-- A relative demand is met at its own lower end or at a greater one. -/
theorem exists_mem_lows (lo : α) {l : List ι} {i : ι} (hi : i ∈ l) (hrel : (d i).relative = true) :
    ∃ y ∈ lows d lo l, max lo (d i).lo ≤ y := by
  induction l generalizing lo with
  | nil => cases hi
  | cons j l ih =>
      rcases List.mem_cons.1 hi with rfl | hmem
      · exact ⟨_, by rw [lows_cons_relative hrel]; exact List.mem_cons_self, le_rfl⟩
      · obtain ⟨y, hy, hle⟩ := ih (max lo (d j).lo) hmem
        refine ⟨y, ?_, (max_le_max_right _ (le_max_left _ _)).trans hle⟩
        cases hj : (d j).relative with
        | true =>
            rw [lows_cons_relative hj]
            exact List.mem_cons_of_mem _ hy
        | false => rwa [lows_cons_plain hj]

/-- The lower end at a relative demand is between that of the range and the one in the end, and it is
that of the demand itself or of one before it. -/
theorem lows_bounds {lo y : α} {l : List ι} (hy : y ∈ lows d lo l) :
    lo ≤ y ∧ y ≤ floor d lo l ∧
      ∃ i ∈ l, (d i).relative = true ∧ ∃ j ∈ l, y = max (max lo (d i).lo) (d j).lo := by
  induction l generalizing lo with
  | nil => cases hy
  | cons h l ih =>
      have htail : y ∈ lows d (max lo (d h).lo) l → lo ≤ y ∧ y ≤ floor d lo (h :: l) ∧
          ∃ i ∈ h :: l, (d i).relative = true ∧ ∃ j ∈ h :: l, y = max (max lo (d i).lo) (d j).lo := by
        intro hmem
        obtain ⟨hlow, hfloor, i, hi, hrel, j, hj, heq⟩ := ih hmem
        refine ⟨(le_max_left _ _).trans hlow, hfloor, i, List.mem_cons_of_mem _ hi, hrel, ?_⟩
        -- of the head and the demand in the tail, the greater one counts
        rcases le_total (d h).lo (d j).lo with hle | hle
        · refine ⟨j, List.mem_cons_of_mem _ hj, ?_⟩
          rw [heq, max_right_comm lo, max_assoc, max_eq_right hle]
        · refine ⟨h, List.mem_cons_self, ?_⟩
          rw [heq, max_right_comm lo, max_assoc, max_eq_left hle]
      cases hrel : (d h).relative with
      | false =>
          rw [lows_cons_plain hrel] at hy
          exact htail hy
      | true =>
          rw [lows_cons_relative hrel] at hy
          rcases List.mem_cons.1 hy with rfl | hmem
          · exact ⟨le_max_left _ _, le_floor _ l, h, List.mem_cons_self, hrel, h, List.mem_cons_self,
              (max_eq_left (le_max_right _ _)).symm⟩
          · exact htail hmem

/-- If the greatest demand comes first, all relative demands are met at its lower end. -/
theorem lows_of_greatest_first {lo y : α} {i : ι} {l : List ι}
    (h : floor d lo (i :: l) = max lo (d i).lo) (hy : y ∈ lows d lo (i :: l)) :
    y = max lo (d i).lo := by
  obtain ⟨-, hfloor, -⟩ := lows_bounds hy
  refine le_antisymm (h ▸ hfloor) ?_
  cases hrel : (d i).relative with
  | false =>
      rw [lows_cons_plain hrel] at hy
      exact (lows_bounds hy).1
  | true =>
      rw [lows_cons_relative hrel] at hy
      rcases List.mem_cons.1 hy with rfl | hmem
      · exact le_rfl
      · exact (lows_bounds hmem).1

/-! ### The whole run -/

theorem run_cons (r : α × α) (i : ι) (l : List ι) :
    run cap d r (i :: l) = run cap d (narrow cap d r i) l := rfl

theorem run_fst (r : α × α) (l : List ι) : (run cap d r l).1 = floor d r.1 l := by
  induction l generalizing r with
  | nil => rfl
  | cons i l ih =>
      rw [run_cons, ih]
      rfl

/-- **The upper end** is the least of the demands' upper ends and the caps at the relative demands. -/
theorem le_run_snd_iff {x : α} {r : α × α} {l : List ι} :
    x ≤ (run cap d r l).2 ↔ x ≤ ceiling d r.2 l ∧ ∀ y ∈ lows d r.1 l, x ≤ cap y := by
  induction l generalizing r with
  | nil => simp [run, ceiling, lows]
  | cons i l ih =>
      rw [run_cons, ih, le_ceiling_iff, le_ceiling_iff, List.forall_mem_cons]
      cases hrel : (d i).relative with
      | false =>
          rw [lows_cons_plain hrel]
          simp only [narrow, hrel, Bool.false_eq_true, if_false, le_min_iff]
          tauto
      | true =>
          rw [lows_cons_relative hrel, List.forall_mem_cons]
          simp only [narrow, hrel, if_true, le_min_iff]
          tauto

/-- The upper end of a run in which all caps are the same. -/
theorem run_snd_of_lows {r : α × α} {l : List ι} {i : ι} {m : α} (hi : i ∈ l)
    (hrel : (d i).relative = true) (h : ∀ y ∈ lows d r.1 l, y = m) :
    (run cap d r l).2 = min (ceiling d r.2 l) (cap m) := by
  refine eq_of_forall_le_iff fun x => ?_
  rw [le_run_snd_iff, le_min_iff]
  refine and_congr_right fun _ => ⟨fun hall => ?_, fun hx y hy => (h y hy).symm ▸ hx⟩
  obtain ⟨y, hy, -⟩ := exists_mem_lows r.1 hi hrel
  exact h y hy ▸ hall y hy

/-- Whatever lower end a relative demand may be met at, its cap is not below the one at the lower end of
all demands; and this one cannot be avoided, because a relative demand asks for that lower end itself,
unless the cap makes no difference. -/
def Settled (cap : α → α) (d : ι → Demand α) (r : α × α) (l : List ι) : Prop :=
  (∀ i ∈ l, (d i).relative = true → ∀ j ∈ l,
      min (ceiling d r.2 l) (cap (floor d r.1 l)) ≤ cap (max (max r.1 (d i).lo) (d j).lo)) ∧
    ((∀ i ∈ l, (d i).relative = false) ∨ ceiling d r.2 l ≤ cap (floor d r.1 l) ∨
      ∃ i ∈ l, (d i).relative = true ∧ max r.1 (d i).lo = floor d r.1 l)

instance (cap : α → α) (d : ι → Demand α) (r : α × α) (l : List ι) :
    Decidable (Settled cap d r l) :=
  inferInstanceAs (Decidable (_ ∧ (_ ∨ _ ∨ _)))

theorem Settled.perm {r : α × α} {l l' : List ι} (h : Settled cap d r l) (hperm : l'.Perm l) :
    Settled cap d r l' := by
  unfold Settled
  simp only [ceiling_perm hperm, floor_perm hperm, hperm.mem_iff]
  exact h

/-- The upper end of a run of settled demands. -/
theorem Settled.run_snd {r : α × α} {l : List ι} (h : Settled cap d r l) :
    (run cap d r l).2 =
      if ∃ i ∈ l, (d i).relative = true then min (ceiling d r.2 l) (cap (floor d r.1 l))
      else ceiling d r.2 l := by
  obtain ⟨hupper, hhappens⟩ := h
  refine eq_of_forall_le_iff fun x => ?_
  rw [le_run_snd_iff]
  split
  · next hsome =>
      obtain ⟨i, hi, hrel⟩ := hsome
      constructor
      · rintro ⟨hx, hall⟩
        refine le_min hx ?_
        rcases hhappens with hnone | hhigh | ⟨j, hj, hjrel, hown⟩
        · rw [hnone i hi] at hrel
          cases hrel
        · exact hx.trans hhigh
        · obtain ⟨y, hy, hle⟩ := exists_mem_lows r.1 hj hjrel
          obtain rfl : y = floor d r.1 l := le_antisymm (lows_bounds hy).2.1 (hown ▸ hle)
          exact hall _ hy
      · intro hx
        refine ⟨hx.trans (min_le_left _ _), fun y hy => ?_⟩
        obtain ⟨-, -, j, hj, hjrel, k, hk, rfl⟩ := lows_bounds hy
        exact hx.trans (hupper j hj hjrel k hk)
  · next hnone =>
      rw [lows_eq_nil (plain_of_not_exists hnone)]
      simp

/-- Settled demands narrow a range alike in every order. -/
theorem Settled.run_perm {r : α × α} {l l' : List ι} (h : Settled cap d r l) (hperm : l'.Perm l) :
    run cap d r l' = run cap d r l := by
  refine Prod.ext ?_ ?_
  · rw [run_fst, run_fst, floor_perm hperm]
  · rw [(h.perm hperm).run_snd, h.run_snd, ceiling_perm hperm, floor_perm hperm]
    simp only [hperm.mem_iff]

/-- Any two demands can come first. -/
theorem exists_perm_cons_cons {l : List ι} {i j : ι} (hi : i ∈ l) (hj : j ∈ l) (hne : i ≠ j) :
    ∃ l', (j :: i :: l').Perm l := by
  classical
  refine ⟨(l.erase j).erase i, ?_⟩
  have hi' : i ∈ l.erase j := (List.mem_erase_of_ne hne).2 hi
  exact ((List.perm_cons_erase hi').symm.cons j).trans (List.perm_cons_erase hj).symm

theorem exists_perm_cons {l : List ι} {i : ι} (hi : i ∈ l) : ∃ l', (i :: l').Perm l := by
  obtain ⟨l₁, l₂, rfl⟩ := List.append_of_mem hi
  exact ⟨l₁ ++ l₂, List.perm_middle.symm⟩

/-- Every lower end at which a relative demand may be met occurs in some order. -/
theorem exists_perm_mem_lows (lo : α) {l : List ι} {i j : ι} (hi : i ∈ l) (hj : j ∈ l)
    (hrel : (d i).relative = true) :
    ∃ l', l'.Perm l ∧ max (max lo (d i).lo) (d j).lo ∈ lows d lo l' := by
  by_cases hij : i = j
  · subst hij
    obtain ⟨l', hperm⟩ := exists_perm_cons hi
    refine ⟨_, hperm, ?_⟩
    rw [lows_cons_relative hrel, max_eq_left (le_max_right _ _)]
    exact List.mem_cons_self
  · obtain ⟨l', hperm⟩ := exists_perm_cons_cons hi hj hij
    refine ⟨_, hperm, ?_⟩
    rw [max_right_comm]
    cases hjrel : (d j).relative with
    | true =>
        rw [lows_cons_relative hjrel, lows_cons_relative hrel]
        exact List.mem_cons_of_mem _ List.mem_cons_self
    | false =>
        rw [lows_cons_plain hjrel, lows_cons_relative hrel]
        exact List.mem_cons_self

/-- In some order all relative demands are met at the lower end of all demands. -/
theorem exists_perm_lows_floor (lo : α) {l : List ι} (hl : l ≠ []) :
    ∃ l', l'.Perm l ∧ ∀ y ∈ lows d lo l', y = floor d lo l := by
  obtain ⟨k, hk, hfloor⟩ := exists_floor_eq (d := d) lo hl
  obtain ⟨l', hperm⟩ := exists_perm_cons hk
  refine ⟨_, hperm, fun y hy => ?_⟩
  rw [hfloor]
  exact lows_of_greatest_first ((floor_perm hperm lo).trans hfloor) hy

/-- In some order all relative demands are met at the lower end of one of them. -/
theorem exists_perm_lows_relative (lo : α) {l : List ι} (h : ∃ i ∈ l, (d i).relative = true) :
    ∃ i ∈ l, (d i).relative = true ∧ ∃ l', l'.Perm l ∧ ∀ y ∈ lows d lo l', y = max lo (d i).lo := by
  obtain ⟨i₀, hi₀, hrel₀⟩ := h
  -- the relative demands come first, the greatest of them at the head
  have hne : l.filter (fun i => (d i).relative) ≠ [] :=
    List.ne_nil_of_mem (List.mem_filter.2 ⟨hi₀, hrel₀⟩)
  obtain ⟨k, hk, hfloor⟩ := exists_floor_eq (d := d) lo hne
  obtain ⟨l', hperm⟩ := exists_perm_cons hk
  refine ⟨k, (List.mem_filter.1 hk).1, (List.mem_filter.1 hk).2,
    (k :: l') ++ l.filter (fun i => !(d i).relative),
    (hperm.append_right _).trans (List.filter_append_perm _ l), fun y hy => ?_⟩
  rw [lows_append_plain fun i hi => by simpa using (List.mem_filter.1 hi).2] at hy
  exact lows_of_greatest_first ((floor_perm hperm lo).trans hfloor) hy

/-- **When the order does not matter.**  Different lower ends must have different caps. -/
theorem run_perm_iff {r : α × α} {l : List ι}
    (hinj : ∀ i ∈ l, cap (max r.1 (d i).lo) = cap (floor d r.1 l) →
      max r.1 (d i).lo = floor d r.1 l) :
    (∀ l', l'.Perm l → run cap d r l' = run cap d r l) ↔ Settled cap d r l := by
  constructor
  · intro h
    by_cases hsome : ∃ i ∈ l, (d i).relative = true
    · -- in one order the cap is the one at the lower end of all demands
      obtain ⟨i₀, hi₀, hrel₀⟩ := hsome
      obtain ⟨l₁, hperm₁, hlows₁⟩ := exists_perm_lows_floor (d := d) r.1 (List.ne_nil_of_mem hi₀)
      have hrun : (run cap d r l).2 = min (ceiling d r.2 l) (cap (floor d r.1 l)) := by
        rw [← h l₁ hperm₁, run_snd_of_lows (hperm₁.mem_iff.2 hi₀) hrel₀ hlows₁, ceiling_perm hperm₁]
      refine ⟨fun i hi hrel j hj => ?_, .inr ?_⟩
      · obtain ⟨l', hperm, hmem⟩ := exists_perm_mem_lows r.1 hi hj hrel
        rw [← hrun, ← h l' hperm]
        exact (le_run_snd_iff.1 le_rfl).2 _ hmem
      · refine or_iff_not_imp_left.2 fun hlow => ?_
        -- in another one it is the one at the greatest relative demand
        obtain ⟨k, hk, hkrel, l₂, hperm₂, hlows₂⟩ := exists_perm_lows_relative r.1 ⟨i₀, hi₀, hrel₀⟩
        have hrun₂ : (run cap d r l₂).2 = _ := run_snd_of_lows (hperm₂.mem_iff.2 hk) hkrel hlows₂
        rw [h l₂ hperm₂, hrun, ceiling_perm hperm₂, min_eq_right (not_le.1 hlow).le] at hrun₂
        refine ⟨k, hk, hkrel, hinj k hk ?_⟩
        rcases min_choice (ceiling d r.2 l) (cap (max r.1 (d k).lo)) with hmin | hmin
        · exact absurd (hrun₂.trans hmin).ge hlow
        · exact (hrun₂.trans hmin).symm
    · have hplain := plain_of_not_exists hsome
      refine ⟨fun i hi hrel => ?_, .inl hplain⟩
      rw [hplain i hi] at hrel
      cases hrel
  · exact fun h l' hperm => h.run_perm hperm

/-- Two families of demands that agree along two lists narrow a range alike. -/
theorem run_congr {κ : Type} {d' : κ → Demand α} (r : α × α) {l : List ι} {l' : List κ}
    (h : l.map d = l'.map d') : run cap d r l = run cap d' r l' := by
  have hmap : ∀ {κ : Type} (d : κ → Demand α) (l : List κ),
      run cap d r l = run cap id r (l.map d) := fun d l => by
    unfold run
    rw [List.foldl_map]
    rfl
  rw [hmap d, hmap d', h]

end Capped
