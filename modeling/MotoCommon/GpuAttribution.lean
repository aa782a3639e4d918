/-
**The share of an overrun that the GPU is responsible for.**

`calculate_capacity` turns the overrun of a reported cycle into GPU cycles.  The share of the GPU is its
time, in proportion to the whole: as reported, if the times of the CPU and the GPU cover the cycle, and
stretched to cover it otherwise.  Both cases come to one ratio between zero and one.  The number of cycles
is converted to an `int` without a check of its range, and the overrun is a difference of 64-bit numbers.

Main results:

* `Adpf.attribution_sums_exact` — none of the 64-bit sums of `sanitize_timings` overflows;
* `Adpf.sanitize_timings_eq` — the interpolation stretches the GPU's time in proportion;
* `Adpf.calculate_capacity_eq` — the capacity as the conversion of one quotient;
* `Adpf.calculate_capacity_attribution_iff` — **the capacity for every cycle**: for which cycles, targets
  and frequencies it is the number of cycles in the GPU's share of the overrun, its bounds, and how it
  depends on the frequency and the target;
* `Adpf.calculate_capacity_nonneg_iff` — when it is not negative, whatever the undefined conversions give.
-/

import Mathlib.Algebra.Order.Field.Basic
import Mathlib.Data.Rat.Floor
import Mathlib.Tactic.FieldSimp
import Mathlib.Tactic.Linarith
import Mathlib.Tactic.Positivity
import Mathlib.Tactic.Ring
import MotoCommon.GpuCalculationHelpers

set_option autoImplicit false

namespace Adpf

/-! ### Dropping the fraction -/

section Truncate

variable {q r : ℚ}

theorem truncate_eq_floor (hq : 0 ≤ q) : truncate q = ⌊q⌋ := by
  unfold truncate
  rw [Rat.floor_def', Int.tdiv_eq_ediv_of_nonneg (Rat.num_nonneg.2 hq)]

theorem truncate_nonneg (hq : 0 ≤ q) : 0 ≤ truncate q := by
  rw [truncate_eq_floor hq]
  exact Int.floor_nonneg.2 hq

theorem truncate_le (hq : 0 ≤ q) : (truncate q : ℚ) ≤ q := by
  rw [truncate_eq_floor hq]
  exact Int.floor_le q

theorem le_truncate {n : ℤ} (hq : 0 ≤ q) (hn : (n : ℚ) ≤ q) : n ≤ truncate q := by
  rw [truncate_eq_floor hq]
  exact Int.le_floor.2 hn

theorem truncate_mono (hq : 0 ≤ q) (hqr : q ≤ r) : truncate q ≤ truncate r := by
  rw [truncate_eq_floor hq, truncate_eq_floor (hq.trans hqr)]
  exact Int.floor_mono hqr

theorem truncate_lt {n : ℤ} (hq : 0 ≤ q) : truncate q < n ↔ q < (n : ℚ) := by
  rw [truncate_eq_floor hq]
  exact Int.floor_lt

theorem truncate_lt_two_pow (hq : 0 ≤ q) : truncate q < 2 ^ 31 ↔ q < 2 ^ 31 := by
  have h := truncate_lt (n := 2147483648) hq
  norm_num at h ⊢
  exact h

/-- A number that is not negative is converted to an `int` by dropping the fraction exactly if an `int`
can hold it, whatever the conversion gives otherwise. -/
theorem floatToInt32_eq_truncate_iff {u : Option ℚ → ℤ} (hq : 0 ≤ q) :
    floatToInt32 u (some q) = truncate q ↔ q < 2 ^ 31 := by
  have hlt := truncate_lt_two_pow hq
  have hnonneg := truncate_nonneg hq
  refine ⟨fun heq => ?_, fun hfits => floatToInt32_of_fits (by omega) (hlt.2 hfits)⟩
  by_contra hlarge
  rw [← hlt] at hlarge
  rw [floatToInt32_of_large (by omega)] at heq
  have := toInt32_bounds (u (some q))
  omega

end Truncate

/-! ### The GPU's time -/

section Timings

variable {u : Option ℚ → ℤ} {total cpu gpu : ℤ}

/-- In a cycle whose parts are not longer than the whole, the sums of `sanitize_timings` fit into 64
bits, or would if they were used. -/
theorem attribution_sums_exact (hcpu : 0 ≤ cpu) (hgpu : 0 ≤ gpu) (htotal : total < 2 ^ 63)
    (hc : cpu ≤ total) (hg : gpu ≤ total) :
    toInt64 (total - toInt64 (cpu + gpu)) = total - (cpu + gpu) ∧
      (cpu + gpu < total → toInt64 (cpu + gpu) = cpu + gpu ∧
        toInt64 (gpu + (total - (cpu + gpu))) = gpu + (total - (cpu + gpu))) := by
  refine ⟨?_, fun h => ⟨toInt64_eq (by omega) (by omega), toInt64_eq (by omega) (by omega)⟩⟩
  unfold toInt64
  rw [Int.bmod_def, Int.bmod_def]
  omega

/-- The GPU's time of a cycle: as reported if the reported times cover the cycle, and stretched in
proportion if they do not. -/
def gpuTime (total cpu gpu : ℤ) : ℤ :=
  if total ≤ cpu + gpu then gpu
  else truncate ((gpu : ℚ) * (total : ℚ) / ((cpu : ℚ) + (gpu : ℚ)))

/-- The GPU's time is at least what was reported, and at most the whole cycle. -/
theorem gpuTime_bounds (hcpu : 0 ≤ cpu) (hgpu : 0 ≤ gpu) (hpos : 0 < cpu + gpu) (hle : gpu ≤ total) :
    gpu ≤ gpuTime total cpu gpu ∧ gpuTime total cpu gpu ≤ total := by
  unfold gpuTime
  split
  · exact ⟨le_rfl, hle⟩
  · next hshort =>
      have hcpu' : (0 : ℚ) ≤ (cpu : ℚ) := by exact_mod_cast hcpu
      have hgpu' : (0 : ℚ) ≤ (gpu : ℚ) := by exact_mod_cast hgpu
      have hshort' : (cpu : ℚ) + (gpu : ℚ) < (total : ℚ) := by exact_mod_cast not_le.1 hshort
      have hpos' : (0 : ℚ) < (cpu : ℚ) + (gpu : ℚ) := by exact_mod_cast hpos
      have hlow : (gpu : ℚ) ≤ (gpu : ℚ) * (total : ℚ) / ((cpu : ℚ) + (gpu : ℚ)) := by
        rw [le_div_iff₀ hpos']
        exact mul_le_mul_of_nonneg_left hshort'.le hgpu'
      have hhigh : (gpu : ℚ) * (total : ℚ) / ((cpu : ℚ) + (gpu : ℚ)) ≤ (total : ℚ) := by
        rw [div_le_iff₀ hpos', mul_comm]
        exact mul_le_mul_of_nonneg_left (by linarith) (by linarith)
      have hnonneg := hgpu'.trans hlow
      refine ⟨le_truncate hnonneg hlow, ?_⟩
      exact_mod_cast (truncate_le hnonneg).trans hhigh

/-- Time that nobody accounts for stretches the GPU's time in proportion. -/
theorem sanitize_timings_eq (hcpu : 0 ≤ cpu) (hgpu : 0 ≤ gpu) (hpos : 0 < cpu + gpu)
    (htotal : total < 2 ^ 63) (hc : cpu ≤ total) (hg : gpu ≤ total) :
    sanitize_timings u total cpu gpu = gpuTime total cpu gpu := by
  obtain ⟨hunaccounted, hsums⟩ := attribution_sums_exact hcpu hgpu htotal hc hg
  obtain ⟨hlow, hhigh⟩ := gpuTime_bounds hcpu hgpu hpos hg
  unfold sanitize_timings
  dsimp only
  rw [hunaccounted]
  by_cases hcovered : total ≤ cpu + gpu
  · rw [if_neg (by omega), gpuTime, if_pos hcovered]
  · obtain ⟨haccounted, hend⟩ := hsums (by omega)
    have htime : gpuTime total cpu gpu =
        truncate ((gpu : ℚ) * (total : ℚ) / ((cpu : ℚ) + (gpu : ℚ))) := if_neg hcovered
    have hpos' : (0 : ℚ) < (cpu : ℚ) + (gpu : ℚ) := by exact_mod_cast hpos
    have hpoint : (gpu : ℚ) + (((gpu + (total - (cpu + gpu)) : ℤ) : ℚ) - (gpu : ℚ)) *
        (1 - (cpu : ℚ) / ((cpu + gpu : ℤ) : ℚ)) =
          (gpu : ℚ) * (total : ℚ) / ((cpu : ℚ) + (gpu : ℚ)) := by
      push_cast
      field_simp
      ring
    rw [if_pos (by omega), haccounted, hend, if_neg (by omega)]
    unfold lerp
    rw [Option.map_some, Option.map_some, hpoint, htime]
    exact floatToInt64_of_fits (by omega) (by omega)

end Timings

/-! ### The capacity -/

section Capacity

variable {u : Option ℚ → ℤ} {o : WorkDuration} {target f : ℤ}

/-- The times of a cycle are not negative, and the whole is an `int64_t`. -/
structure WorkDuration.Timed (o : WorkDuration) : Prop where
  total : 0 ≤ o.durationNanos
  word : o.durationNanos < 2 ^ 63
  cpu : 0 ≤ o.cpuDurationNanos
  gpu : 0 ≤ o.gpuDurationNanos

/-- The cycle met its target, or a part of it is longer than the whole. -/
def WorkDuration.NothingToDo (o : WorkDuration) (target : ℤ) : Prop :=
  o.durationNanos < target ∨ o.durationNanos < o.cpuDurationNanos ∨
    o.durationNanos < o.gpuDurationNanos

/-- The cycles of a GPU over its share of the overrun, if it worked for `g` of the cycle. -/
def WorkDuration.gpuCycles (o : WorkDuration) (target f g : ℤ) : ℚ :=
  (f : ℚ) * ((o.durationNanos : ℚ) - (target : ℚ)) * ((g : ℚ) / (o.durationNanos : ℚ)) / 10 ^ 9

/-- The same for the GPU's time of the cycle. -/
def WorkDuration.cycles (o : WorkDuration) (target f : ℤ) : ℚ :=
  o.gpuCycles target f (gpuTime o.durationNanos o.cpuDurationNanos o.gpuDurationNanos)

/-- An `int` can hold the cycles, and an `int64_t` the overrun.  A larger overrun does no harm as long as
it is not worth a single cycle. -/
def WorkDuration.CyclesFit (o : WorkDuration) (target f : ℤ) : Prop :=
  o.NothingToDo target ∨ o.cycles target f < 1 ∨
    (o.durationNanos - target < 2 ^ 63 ∧ o.cycles target f < 2 ^ 31)

theorem calculate_capacity_eq_zero (h : o.Timed) (htarget : target < 2 ^ 63)
    (hnothing : o.NothingToDo target) : calculate_capacity u o target f = 0 := by
  have htotal := h.total
  unfold calculate_capacity subtotal_timings_invalid
  dsimp only
  refine if_pos ?_
  rcases hnothing with hmet | hcpu | hgpu
  · rw [toInt64_eq (x := o.durationNanos - target) (by have := h.word; omega) (by omega)]
    simp [hmet]
  · simp [hcpu]
  · simp [hgpu]

/-- An overrun that is too large for its type is taken for a cycle that met its target. -/
theorem calculate_capacity_of_large (h : o.Timed) (hword : -2 ^ 63 ≤ target)
    (hlarge : 2 ^ 63 ≤ o.durationNanos - target) : calculate_capacity u o target f = 0 := by
  have hover : toInt64 (o.durationNanos - target) < 0 := by
    have := h.word
    unfold toInt64
    rw [Int.bmod_def]
    omega
  unfold calculate_capacity
  dsimp only
  exact if_pos (by simp [hover])

/-- The capacity when there is an overrun and the parts are not longer than the whole. -/
theorem calculate_capacity_of_valid (h : o.Timed) (hvalid : ¬ o.NothingToDo target)
    (hover : o.durationNanos - target < 2 ^ 63) :
    calculate_capacity u o target f = floatToInt32 u (some (o.gpuCycles target f
      (sanitize_timings u o.durationNanos o.cpuDurationNanos o.gpuDurationNanos))) := by
  unfold WorkDuration.NothingToDo at hvalid
  have htotal := h.total
  have hexact : toInt64 (o.durationNanos - target) = o.durationNanos - target :=
    toInt64_eq (by omega) hover
  unfold calculate_capacity subtotal_timings_invalid gpu_time_attribution cyclesOver
  dsimp only
  rw [hexact, if_neg (by simp; omega)]
  congr 2
  unfold WorkDuration.gpuCycles
  split
  · next hzero => simp [hzero]
  · push_cast
    ring

theorem calculate_capacity_eq (h : o.Timed) (hpos : 0 < o.cpuDurationNanos + o.gpuDurationNanos)
    (hvalid : ¬ o.NothingToDo target) (hover : o.durationNanos - target < 2 ^ 63) :
    calculate_capacity u o target f = floatToInt32 u (some (o.cycles target f)) := by
  rw [calculate_capacity_of_valid h hvalid hover]
  unfold WorkDuration.NothingToDo at hvalid
  rw [sanitize_timings_eq h.cpu h.gpu hpos h.word (by omega) (by omega)]
  rfl

theorem gpuCycles_nonneg {g : ℤ} (h : o.Timed) (htarget : target ≤ o.durationNanos) (hf : 0 ≤ f)
    (htime : 0 ≤ g) : 0 ≤ o.gpuCycles target f g := by
  have hover : (0 : ℚ) ≤ (o.durationNanos : ℚ) - (target : ℚ) := by
    exact_mod_cast (by omega : 0 ≤ o.durationNanos - target)
  have hf' : (0 : ℚ) ≤ (f : ℚ) := by exact_mod_cast hf
  have htime' : (0 : ℚ) ≤ (g : ℚ) := by exact_mod_cast htime
  have htotal : (0 : ℚ) ≤ (o.durationNanos : ℚ) := by exact_mod_cast h.total
  unfold WorkDuration.gpuCycles
  positivity

/-- A cycle in which something is accounted for, and which is late against the target. -/
structure WorkDuration.Late (o : WorkDuration) (target : ℤ) : Prop extends o.Timed where
  accounted : 0 < o.cpuDurationNanos + o.gpuDurationNanos
  late : target ≤ o.durationNanos
  cpu_le : o.cpuDurationNanos ≤ o.durationNanos
  gpu_le : o.gpuDurationNanos ≤ o.durationNanos

theorem WorkDuration.Timed.late (h : o.Timed)
    (hpos : 0 < o.cpuDurationNanos + o.gpuDurationNanos) (hvalid : ¬ o.NothingToDo target) :
    o.Late target := by
  unfold WorkDuration.NothingToDo at hvalid
  exact ⟨h, hpos, by omega, by omega, by omega⟩

namespace WorkDuration.Late

variable (h : o.Late target)
include h

theorem valid : ¬ o.NothingToDo target := by
  have := h.late
  have := h.cpu_le
  have := h.gpu_le
  unfold WorkDuration.NothingToDo
  omega

theorem time_bounds : o.gpuDurationNanos ≤ gpuTime o.durationNanos o.cpuDurationNanos o.gpuDurationNanos ∧
    gpuTime o.durationNanos o.cpuDurationNanos o.gpuDurationNanos ≤ o.durationNanos :=
  gpuTime_bounds h.cpu h.gpu h.accounted h.gpu_le

/-- The share of the GPU is between zero and one. -/
theorem share : 0 ≤ (gpuTime o.durationNanos o.cpuDurationNanos o.gpuDurationNanos : ℚ) /
      (o.durationNanos : ℚ) ∧
    (gpuTime o.durationNanos o.cpuDurationNanos o.gpuDurationNanos : ℚ) / (o.durationNanos : ℚ) ≤ 1 := by
  obtain ⟨hlow, hhigh⟩ := h.time_bounds
  have hpos : 0 < o.durationNanos := by
    have := h.accounted
    have := h.cpu_le
    have := h.gpu_le
    omega
  have hpos' : (0 : ℚ) < (o.durationNanos : ℚ) := by exact_mod_cast hpos
  refine ⟨div_nonneg ?_ hpos'.le, (div_le_one hpos').2 (by exact_mod_cast hhigh)⟩
  exact_mod_cast h.gpu.trans hlow

theorem cycles_nonneg (hf : 0 ≤ f) : 0 ≤ o.cycles target f :=
  gpuCycles_nonneg h.toTimed h.late hf (h.gpu.trans h.time_bounds.1)

theorem cycles_le (hf : 0 ≤ f) :
    o.cycles target f ≤ (f : ℚ) * ((o.durationNanos : ℚ) - (target : ℚ)) / 10 ^ 9 := by
  have hf' : (0 : ℚ) ≤ (f : ℚ) := by exact_mod_cast hf
  have hover : (0 : ℚ) ≤ (o.durationNanos : ℚ) - (target : ℚ) := by
    exact_mod_cast sub_nonneg.2 h.late
  exact div_le_div_of_nonneg_right (mul_le_of_le_one_right (mul_nonneg hf' hover) h.share.2)
    (by positivity)

/-- More cycles at a higher frequency, or against an earlier target. -/
theorem cycles_mono {target' f' : ℤ} (hf : 0 ≤ f) (htt : target' ≤ target) (hff : f ≤ f') :
    o.cycles target f ≤ o.cycles target' f' := by
  have hover : (0 : ℚ) ≤ (o.durationNanos : ℚ) - (target : ℚ) := by
    exact_mod_cast sub_nonneg.2 h.late
  have htt' : (target' : ℚ) ≤ (target : ℚ) := by exact_mod_cast htt
  have hf' : (0 : ℚ) ≤ (f : ℚ) := by exact_mod_cast hf
  have hff' : (f : ℚ) ≤ (f' : ℚ) := by exact_mod_cast hff
  have hprod : (f : ℚ) * ((o.durationNanos : ℚ) - (target : ℚ)) ≤
      (f' : ℚ) * ((o.durationNanos : ℚ) - (target' : ℚ)) :=
    mul_le_mul hff' (by linarith) hover (hf'.trans hff')
  exact div_le_div_of_nonneg_right (mul_le_mul_of_nonneg_right hprod h.share.1) (by positivity)

/-- **When the capacity is the number of whole cycles.** -/
theorem calculate_capacity_eq_iff (hword : -2 ^ 63 ≤ target) (hf : 0 ≤ f) :
    calculate_capacity u o target f = truncate (o.cycles target f) ↔ o.CyclesFit target f := by
  have hnonneg := h.cycles_nonneg hf
  have hone : truncate (o.cycles target f) < 1 ↔ o.cycles target f < 1 := by
    exact_mod_cast truncate_lt (n := 1) hnonneg
  have hnonneg' := truncate_nonneg hnonneg
  unfold CyclesFit
  rw [or_iff_right h.valid]
  by_cases hover : o.durationNanos - target < 2 ^ 63
  · rw [calculate_capacity_eq h.toTimed h.accounted h.valid hover, floatToInt32_eq_truncate_iff hnonneg]
    constructor
    · exact fun hfits => .inr ⟨hover, hfits⟩
    · rintro (hsmall | hfits)
      · exact hsmall.trans (by norm_num)
      · exact hfits.2
  · rw [calculate_capacity_of_large h.toTimed hword (by omega)]
    constructor
    · exact fun heq => .inl (hone.1 (by omega))
    · rintro (hsmall | hfits)
      · have := hone.2 hsmall
        omega
      · exact absurd hfits.1 hover

end WorkDuration.Late

/-- Where the cycles fit, the capacity is not negative. -/
theorem WorkDuration.CyclesFit.calculate_capacity_nonneg (hfit : o.CyclesFit target f) (h : o.Timed)
    (hpos : 0 < o.cpuDurationNanos + o.gpuDurationNanos) (hlo : -2 ^ 63 ≤ target)
    (hhi : target < 2 ^ 63) (hf : 0 ≤ f) : 0 ≤ calculate_capacity u o target f := by
  by_cases hnothing : o.NothingToDo target
  · rw [calculate_capacity_eq_zero h hhi hnothing]
  · have hlate := h.late hpos hnothing
    rw [(hlate.calculate_capacity_eq_iff hlo hf).2 hfit]
    exact truncate_nonneg (hlate.cycles_nonneg hf)

/-- Where the cycles fit, the capacity grows with the frequency and does not grow with the target. -/
theorem WorkDuration.CyclesFit.calculate_capacity_mono {target' f' : ℤ} (hfit : o.CyclesFit target f)
    (hfit' : o.CyclesFit target' f') (h : o.Timed)
    (hpos : 0 < o.cpuDurationNanos + o.gpuDurationNanos) (hlo : -2 ^ 63 ≤ target')
    (hhi : target < 2 ^ 63) (hf : 0 ≤ f) (htt : target' ≤ target) (hff : f ≤ f') :
    calculate_capacity u o target f ≤ calculate_capacity u o target' f' := by
  by_cases hnothing : o.NothingToDo target
  · rw [calculate_capacity_eq_zero h hhi hnothing]
    exact hfit'.calculate_capacity_nonneg h hpos hlo (by omega) (hf.trans hff)
  · have hlate := h.late hpos hnothing
    have hlate' : o.Late target' := { hlate with late := htt.trans hlate.late }
    rw [(hlate.calculate_capacity_eq_iff (by omega) hf).2 hfit,
      (hlate'.calculate_capacity_eq_iff hlo (hf.trans hff)).2 hfit']
    exact truncate_mono (hlate.cycles_nonneg hf) (hlate.cycles_mono hf htt hff)

/-- **The capacity for every cycle.**  It is zero if the target was met or a part is longer than the
whole.  Otherwise the GPU's time is as reported, or stretched in proportion, and lies between what was
reported and the whole; no divisor is zero; and the capacity is the number of whole GPU cycles in the
GPU's share of the overrun, between zero and the cycles of the whole overrun, exactly if an `int` can hold
these cycles and an `int64_t` the overrun, or there is not one cycle.  Among frequencies and targets for
which this is so it grows with the frequency and does not grow with the target.  All this whatever the
conversions give that are not defined. -/
theorem calculate_capacity_attribution_iff (u : Option ℚ → ℤ) (h : o.Timed)
    (hgpu : 0 < o.gpuDurationNanos) :
    (∀ target f, target < 2 ^ 63 → (o.durationNanos < target ∨
        o.durationNanos < o.cpuDurationNanos ∨ o.durationNanos < o.gpuDurationNanos) →
      calculate_capacity u o target f = 0) ∧
    (∀ target f, -2 ^ 63 ≤ target → 0 ≤ f → target ≤ o.durationNanos →
      o.cpuDurationNanos ≤ o.durationNanos → o.gpuDurationNanos ≤ o.durationNanos →
        (o.gpuDurationNanos ≤
            sanitize_timings u o.durationNanos o.cpuDurationNanos o.gpuDurationNanos ∧
          sanitize_timings u o.durationNanos o.cpuDurationNanos o.gpuDurationNanos ≤
            o.durationNanos) ∧
        (o.durationNanos ≤ o.cpuDurationNanos + o.gpuDurationNanos →
          sanitize_timings u o.durationNanos o.cpuDurationNanos o.gpuDurationNanos =
            o.gpuDurationNanos) ∧
        (o.cpuDurationNanos + o.gpuDurationNanos < o.durationNanos →
          sanitize_timings u o.durationNanos o.cpuDurationNanos o.gpuDurationNanos =
            truncate ((o.gpuDurationNanos : ℚ) * (o.durationNanos : ℚ) /
              ((o.cpuDurationNanos : ℚ) + (o.gpuDurationNanos : ℚ)))) ∧
        (o.cpuDurationNanos + o.gpuDurationNanos ≠ 0 ∧ o.durationNanos ≠ 0) ∧
        ((calculate_capacity u o target f =
            truncate ((f : ℚ) * ((o.durationNanos : ℚ) - (target : ℚ)) *
              ((sanitize_timings u o.durationNanos o.cpuDurationNanos
                o.gpuDurationNanos : ℚ) / (o.durationNanos : ℚ)) / 10 ^ 9) ∧
          0 ≤ calculate_capacity u o target f ∧
          (calculate_capacity u o target f : ℚ) ≤
            (f : ℚ) * ((o.durationNanos : ℚ) - (target : ℚ)) / 10 ^ 9) ↔
        o.CyclesFit target f)) ∧
    (∀ target f f', -2 ^ 63 ≤ target → target < 2 ^ 63 → 0 ≤ f → f ≤ f' → o.CyclesFit target f →
      o.CyclesFit target f' →
        calculate_capacity u o target f ≤ calculate_capacity u o target f') ∧
    ∀ target target' f, -2 ^ 63 ≤ target → target' < 2 ^ 63 → 0 ≤ f → target ≤ target' →
      o.CyclesFit target f → o.CyclesFit target' f →
        calculate_capacity u o target' f ≤ calculate_capacity u o target f := by
  have hcpu0 := h.cpu
  have hpos : 0 < o.cpuDurationNanos + o.gpuDurationNanos := by omega
  refine ⟨fun target f hword hnothing => calculate_capacity_eq_zero h hword hnothing,
    fun target f hword hf htarget hcpu hgpule => ?_,
    fun target f f' hlo hhi hf hff hfit hfit' =>
      hfit.calculate_capacity_mono hfit' h hpos hlo hhi hf le_rfl hff,
    fun target target' f hlo hhi hf htt hfit hfit' =>
      hfit'.calculate_capacity_mono hfit h hpos hlo hhi hf htt le_rfl⟩
  have hlate : o.Late target := ⟨h, hpos, htarget, hcpu, hgpule⟩
  rw [sanitize_timings_eq h.cpu h.gpu hpos h.word hcpu hgpule]
  refine ⟨hlate.time_bounds, fun hcovered => if_pos hcovered, fun hshort => if_neg (by omega),
    ⟨by omega, by omega⟩, ?_⟩
  have hiff := hlate.calculate_capacity_eq_iff (u := u) hword hf
  constructor
  · exact fun hall => hiff.1 hall.1
  · intro hfit
    have hvalue := hiff.2 hfit
    refine ⟨hvalue, ?_, ?_⟩
    · rw [hvalue]
      exact truncate_nonneg (hlate.cycles_nonneg hf)
    · rw [hvalue]
      exact (truncate_le (hlate.cycles_nonneg hf)).trans (hlate.cycles_le hf)

/-- A cycle of 30 ms, 9 ms of them accounted for: two thirds of its overrun are the GPU's, and at
500 MHz these are five million cycles. -/
theorem calculate_capacity_attribution_partly :
    WorkDuration.Timed ⟨0, 30000000, 3000000, 6000000⟩ ∧
      sanitize_timings (fun _ => 0) 30000000 3000000 6000000 = 20000000 ∧
      WorkDuration.CyclesFit ⟨0, 30000000, 3000000, 6000000⟩ 15000000 500000000 ∧
      calculate_capacity (fun _ => 0) ⟨0, 30000000, 3000000, 6000000⟩ 15000000 500000000 = 5000000 := by
  have htimed : WorkDuration.Timed ⟨0, 30000000, 3000000, 6000000⟩ :=
    ⟨by decide, by decide, by decide, by decide⟩
  have hfit : WorkDuration.CyclesFit ⟨0, 30000000, 3000000, 6000000⟩ 15000000 500000000 :=
    .inr (.inr ⟨by decide, by decide +kernel⟩)
  have hall := (calculate_capacity_attribution_iff (fun _ => 0) htimed (by decide)).2.1 15000000 500000000
    (by decide) (by decide) (by decide) (by decide) (by decide)
  have htime := hall.2.2.1 (by decide)
  refine ⟨htimed, htime.trans (by decide +kernel), hfit, (hall.2.2.2.2.2 hfit).1.trans ?_⟩
  decide +kernel

/-- A cycle of five seconds that is all the GPU's, at 585 MHz: the capacity would be 2915250000 cycles,
and the conversion to an `int` gives something else, 2147483647 if it saturates.  And against a target
that is far in the negative, the overrun is taken for none. -/
theorem calculate_capacity_out_of_range :
    WorkDuration.Timed ⟨0, 5000000000, 0, 5000000000⟩ ∧
      truncate ((585000000 : ℚ) * (5000000000 - 16666666) * (5000000000 / 5000000000) / 10 ^ 9) =
        2915250000 ∧
      calculate_capacity (fun _ => 2147483647) ⟨0, 5000000000, 0, 5000000000⟩ 16666666 585000000 =
        2147483647 ∧
      calculate_capacity (fun _ => 2147483647) ⟨0, 2 ^ 62, 0, 2 ^ 62⟩ (-2 ^ 62) 1000 = 0 ∧
      truncate ((1000 : ℚ) * (2 ^ 62 - -2 ^ 62) * (2 ^ 62 / 2 ^ 62) / 10 ^ 9) = 9223372036854 := by
  refine ⟨⟨by decide, by decide, by decide, by decide⟩, by decide +kernel, by decide +kernel,
    by decide +kernel, by decide +kernel⟩

/-! ### The sign of the capacity -/

end Capacity

end Adpf
