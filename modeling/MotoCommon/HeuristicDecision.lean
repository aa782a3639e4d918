/-
**The decision about the heuristic boost.**

After each accepted report `updateHeuristicBoost` compares the longest duration of the window with the
average and switches the boost on or off.  The quotient is one of integers: it is undefined when the average
is zero, and it loses its fraction before it is compared with a threshold that may have one.

Main definitions:

* `Adpf.boostDecision` — the decision, for a given quotient;
* `Adpf.updateHeuristicBoost?` — `updateHeuristicBoost` where a division may be undefined.

Main results:

* `Adpf.heuristic_boost_divisions_iff` — **when no report divides by zero**: over the last reports, as many
  microseconds as there are reports, in absolute value;
* `Adpf.heuristic_boost_exact_iff` — **when the decision is that of the exact quotient**.
-/

import Mathlib.Algebra.Order.BigOperators.Group.List
import Mathlib.Algebra.Order.Field.Basic
import Mathlib.Data.Rat.Cast.Order
import MotoCommon.PowerHintSession
import MotoCommon.RecordWindow

set_option autoImplicit false

namespace Adpf

open SessionRecords Sliding

/-! ### The decision and its quotient -/

/-- The decision of `updateHeuristicBoost` for a given `maxToAvgRatio`. -/
def boostDecision (c : AdpfConfig) (lowFrameRate : Bool) (numOfMissedCycles : ℤ) (maxToAvgRatio : ℚ)
    (heuristicBoostActive : Bool) : Bool :=
  if lowFrameRate then false
  else if c.mHBoostOnMissedCycles.getD 0 ≤ numOfMissedCycles then true
  else if numOfMissedCycles ≤ c.mHBoostOffMissedCycles.getD 0 ∧
      maxToAvgRatio < c.mHBoostOffMaxAvgRatio.getD 0 then false
  else heuristicBoostActive

/-- A quotient of `int32_t`s, where it is defined. -/
def intDiv? (a b : ℤ) : Option ℤ :=
  if b = 0 ∨ (a = -2 ^ 31 ∧ b = -1) then none else some (Int.tdiv a b)

/-- `maxToAvgRatio`, where the division is defined. -/
def maxToAvgRatio? (records : SessionRecords) (targetNs maxDurationUs avgDurationUs : ℤ) : Option ℚ :=
  if records.getNumOfRecords ≤ 0 then
    if Int.tdiv targetNs 1000 = 0 then none
    else some ((maxDurationUs : ℚ) / ((Int.tdiv targetNs 1000 : ℤ) : ℚ))
  else (intDiv? maxDurationUs avgDurationUs).map fun q => (q : ℚ)

/-- `updateHeuristicBoost`, where its division is defined. -/
def updateHeuristicBoost? (c : AdpfConfig) (records : SessionRecords) (targetNs : ℤ)
    (heuristicBoostActive : Bool) : Option Bool :=
  match records.getMaxDuration, records.getAvgDuration with
  | some maxDurationUs, some avgDurationUs =>
      (maxToAvgRatio? records targetNs maxDurationUs avgDurationUs).map fun maxToAvgRatio =>
        boostDecision c (records.isLowFrameRate (c.mLowFrameRateThreshold.getD 0))
          records.getNumOfMissedCycles maxToAvgRatio heuristicBoostActive
  | _, _ => some heuristicBoostActive

/-- The decision, when there are records. -/
theorem heuristicBoost_eq {c : AdpfConfig} {r : SessionRecords} {m a : ℤ} (hmax : r.getMaxDuration = some m)
    (havg : r.getAvgDuration = some a) (hframes : 0 < r.getNumOfRecords) (targetNs : ℤ) (active : Bool) :
    heuristicBoost c r targetNs active =
      boostDecision c (r.isLowFrameRate (c.mLowFrameRateThreshold.getD 0)) r.getNumOfMissedCycles
        ((Int.tdiv m a : ℤ) : ℚ) active := by
  simp only [heuristicBoost, hmax, havg, if_neg (not_le.2 hframes)]
  rfl

theorem updateHeuristicBoost?_eq {c : AdpfConfig} {r : SessionRecords} {m a : ℤ}
    (hmax : r.getMaxDuration = some m) (havg : r.getAvgDuration = some a)
    (hframes : 0 < r.getNumOfRecords) (targetNs : ℤ) (active : Bool) :
    updateHeuristicBoost? c r targetNs active =
      if a = 0 ∨ (m = -2 ^ 31 ∧ a = -1) then none else some (heuristicBoost c r targetNs active) := by
  rw [heuristicBoost_eq hmax havg hframes]
  simp only [updateHeuristicBoost?, hmax, havg, maxToAvgRatio?, if_neg (not_le.2 hframes), intDiv?]
  split <;> rfl

/-! ### The average of a window -/

/-- The average vanishes when the sum is smaller than the number of summands. -/
theorem tdiv_length_eq_zero_iff {w : List ℤ} (hw : w ≠ []) :
    Int.tdiv w.sum w.length = 0 ↔ w.sum.natAbs < w.length := by
  have hpos : 0 < w.length := List.length_pos_of_ne_nil hw
  rw [← Int.natAbs_eq_zero, Int.natAbs_tdiv, Int.natAbs_natCast]
  exact Nat.div_eq_zero_iff_lt hpos

/-- The average is at most the maximum. -/
theorem average_le_max {w : List ℤ} {m : ℤ} (hmax : w.max? = some m) : Int.tdiv w.sum w.length ≤ m := by
  obtain ⟨hmem, hle⟩ := List.max?_eq_some_iff.1 hmax
  have hpos : (0 : ℤ) < w.length := Int.natCast_pos.2 (List.length_pos_of_mem hmem)
  have hsum : w.sum ≤ w.length * m := by
    have hcard := List.sum_le_card_nsmul w m hle
    rwa [nsmul_eq_mul] at hcard
  have hdiv := Int.tdiv_le_tdiv hpos hsum
  rwa [Int.mul_tdiv_cancel_left _ hpos.ne'] at hdiv

/-- So the quotient of the two is not the one of `int32_t`s that overflows. -/
theorem max_and_average_ne {w : List ℤ} {m : ℤ} (hmax : w.max? = some m) :
    ¬ (m = -2 ^ 31 ∧ Int.tdiv w.sum w.length = -1) := by
  rintro ⟨hmin, hneg⟩
  have hle := average_le_max hmax
  rw [hmin, hneg] at hle
  exact absurd hle (by decide)

/-- The quotient of integers is at most the exact one. -/
theorem tdiv_le_div {m a : ℤ} (hm : 0 ≤ m) (ha : 0 < a) : ((Int.tdiv m a : ℤ) : ℚ) ≤ (m : ℚ) / (a : ℚ) := by
  rw [le_div_iff₀ (Int.cast_pos.2 ha), Int.tdiv_eq_ediv_of_nonneg hm]
  exact_mod_cast Int.ediv_mul_le m ha.ne'

/-! ### The divisions of a sequence of reports -/

/-- The last reported durations, in microseconds. -/
def lastDurations (k : ℕ) (batches : List (List WorkDuration × ℤ)) : List ℤ :=
  window k ((reports batches).map Report.durationUs)

theorem lastDurations_ne_nil {k : ℕ} (hk : 0 < k) (pre : List (List WorkDuration × ℤ))
    {b : List WorkDuration × ℤ} (hb : b.1 ≠ []) : lastDurations k (pre ++ [b]) ≠ [] := by
  have hpos := List.length_pos_of_ne_nil hb
  refine List.ne_nil_of_length_pos ?_
  rw [lastDurations, length_window, List.length_map, reports, List.flatMap_append, List.length_append,
    List.flatMap_singleton, List.length_map]
  omega

section Reported

variable (times : ℤ → ℚ → ℚ) {k : ℕ} (hk : 0 < k) (hk' : k < 2 ^ 31) (factor : ℚ)
  {batches : List (List WorkDuration × ℤ)}
include hk hk'

/-- The getters, when something was reported. -/
theorem getters_of_reported (hw : lastDurations k batches ≠ []) :
    ∃ m, (lastDurations k batches).max? = some m ∧
      (after times k factor batches).getMaxDuration = some m ∧
      (after times k factor batches).getAvgDuration =
        some (Int.tdiv (lastDurations k batches).sum (lastDurations k batches).length) ∧
      0 < (after times k factor batches).getNumOfRecords := by
  have htracks := tracks_after times hk hk' factor batches
  obtain ⟨m, hm⟩ := Option.isSome_iff_exists.1 (List.isSome_max?_of_ne_nil hw)
  refine ⟨m, hm, htracks.getMaxDuration.trans hm, htracks.getAvgDuration.trans (if_neg hw), ?_⟩
  rw [htracks.getNumOfRecords]
  exact Int.natCast_pos.2 (List.length_pos_of_ne_nil hw)

/-- The division after some batches: only an average of zero makes it undefined. -/
theorem updateHeuristicBoost?_after_iff (c : AdpfConfig) (targetNs : ℤ) (active : Bool) :
    updateHeuristicBoost? c (after times k factor batches) targetNs active =
        some (heuristicBoost c (after times k factor batches) targetNs active) ↔
      (lastDurations k batches).length ≤ (lastDurations k batches).sum.natAbs := by
  by_cases hw : lastDurations k batches = []
  · have hmax : (after times k factor batches).getMaxDuration = (lastDurations k batches).max? :=
      (tracks_after times hk hk' factor batches).getMaxDuration
    simp [updateHeuristicBoost?, heuristicBoost, hmax, hw]
  · obtain ⟨m, hm, hmax, havg, hframes⟩ := getters_of_reported times hk hk' factor hw
    rw [updateHeuristicBoost?_eq hmax havg hframes, ← not_lt, ← tdiv_length_eq_zero_iff hw]
    constructor
    · intro hsome hzero
      rw [if_pos (Or.inl hzero)] at hsome
      cases hsome
    · intro hne
      refine if_neg ?_
      rintro (hzero | hmin)
      · exact hne hzero
      · exact max_and_average_ne hm hmin

end Reported

/-- **When the heuristic boost does not divide by zero.**  For every capacity, factor and sequence of
batches: the decision after each batch is defined exactly if, after each batch, the last durations add up
to at least as many microseconds as there are of them, in absolute value.  No other division is at fault:
after a batch that is not empty there are records, so the target is not divided by, and the longest duration
is not the smallest `int32_t` when the average is `-1`. -/
theorem heuristic_boost_divisions_iff (times : ℤ → ℚ → ℚ) {k : ℕ} (hk : 1 ≤ k) (hk' : k < 2 ^ 31)
    (factor : ℚ) (batches : List (List WorkDuration × ℤ)) :
    ((∀ pre b, pre ++ [b] <+: batches → ∀ c active,
        updateHeuristicBoost? c (after times k factor (pre ++ [b])) b.2 active =
          some (heuristicBoost c (after times k factor (pre ++ [b])) b.2 active)) ↔
      ∀ pre b, pre ++ [b] <+: batches →
        (lastDurations k (pre ++ [b])).length ≤ (lastDurations k (pre ++ [b])).sum.natAbs) ∧
    ∀ pre b, pre ++ [b] <+: batches → b.1 ≠ [] →
      0 < (after times k factor (pre ++ [b])).getNumOfRecords ∧
        ¬ ((after times k factor (pre ++ [b])).getMaxDuration = some (-2 ^ 31) ∧
          (after times k factor (pre ++ [b])).getAvgDuration = some (-1)) := by
  refine ⟨forall₃_congr fun pre b _ => ?_, ?_⟩
  · constructor
    · intro h
      exact (updateHeuristicBoost?_after_iff times hk hk' factor makeMockConfig b.2 false).1 (h _ _)
    · intro h c active
      exact (updateHeuristicBoost?_after_iff times hk hk' factor c b.2 active).2 h
  · intro pre b _ hb
    obtain ⟨m, hm, hmax, havg, hframes⟩ :=
      getters_of_reported times hk hk' factor (lastDurations_ne_nil hk pre hb)
    rw [hmax, havg]
    refine ⟨hframes, ?_⟩
    rintro ⟨hmin, hneg⟩
    exact max_and_average_ne hm ⟨Option.some.inj hmin, Option.some.inj hneg⟩

/-- One cycle, reported with a target of 60 frames a second. -/
def oneCycle (durationNanos : ℤ) : List (List WorkDuration × ℤ) :=
  [([{ timeStampNanos := 0, durationNanos := durationNanos }], 16666666)]

/-- Three batches of four cycles, the last one of half a microsecond. -/
def fourCycles : List (List WorkDuration × ℤ) :=
  [([{ timeStampNanos := 16000000, durationNanos := 16000000 }], 16666666),
    ([{ timeStampNanos := 33000000, durationNanos := 16000000 },
      { timeStampNanos := 55000000, durationNanos := 20000000 }], 16666666),
    ([{ timeStampNanos := 56000000, durationNanos := 500 }], 16666666)]

/-- With room for two records the first two cycles are gone in the end.  The last one counts as one of no
time, and the average is still positive. -/
theorem heuristic_boost_divisions_four :
    (after exactTimes 2 (6 / 5) fourCycles).getAvgDuration = some 10000 ∧
      updateHeuristicBoost? makeMockConfig (after exactTimes 2 (6 / 5) fourCycles) 16666666 true =
        some (heuristicBoost makeMockConfig (after exactTimes 2 (6 / 5) fourCycles) 16666666 true) := by
  have hall : ∀ l ∈ fourCycles.inits,
      (lastDurations 2 l).length ≤ (lastDurations 2 l).sum.natAbs := by decide
  refine ⟨by decide +kernel, ?_⟩
  exact (heuristic_boost_divisions_iff exactTimes (by decide) (by decide) (6 / 5) fourCycles).1.2
    (fun pre b hprefix => hall _ ((List.mem_inits _ _).2 hprefix))
    (fourCycles.take 2) _ List.prefix_rfl makeMockConfig true

/-- A cycle of half a microsecond counts as one of none, and so does the average. -/
theorem heuristic_boost_divides_by_zero :
    (after exactTimes 300 (6 / 5) (oneCycle 500)).getAvgDuration = some 0 ∧
      updateHeuristicBoost? makeMockConfig (after exactTimes 300 (6 / 5) (oneCycle 500)) 16666666 true =
        none := by
  decide +kernel

/-! ### The exact quotient -/

/-- Two quotients lead to different decisions only if the boost is on and the threshold decides, and lies
between them. -/
theorem boostDecision_eq_iff {q q' : ℚ} (h : q ≤ q') (c : AdpfConfig) (low : Bool) (missed : ℤ)
    (active : Bool) :
    boostDecision c low missed q active = boostDecision c low missed q' active ↔
      low = true ∨ c.mHBoostOnMissedCycles.getD 0 ≤ missed ∨
        c.mHBoostOffMissedCycles.getD 0 < missed ∨ active = false ∨
        ¬ (q < c.mHBoostOffMaxAvgRatio.getD 0 ∧ c.mHBoostOffMaxAvgRatio.getD 0 ≤ q') := by
  unfold boostDecision
  by_cases hlow : low = true
  · simp [hlow]
  · by_cases hon : c.mHBoostOnMissedCycles.getD 0 ≤ missed
    · simp [hlow, hon]
    · by_cases hoff : missed ≤ c.mHBoostOffMissedCycles.getD 0
      · by_cases hq' : q' < c.mHBoostOffMaxAvgRatio.getD 0
        · have hq := h.trans_lt hq'
          simp [hlow, hon, hoff, hq, hq']
        · by_cases hq : q < c.mHBoostOffMaxAvgRatio.getD 0
          · have hle := not_lt.1 hq'
            cases active <;> simp [hlow, hon, hoff, hq, hq', hle, not_lt.2 hoff]
          · simp [hlow, hon, hoff, hq, hq']
      · simp [hlow, hon, hoff, not_le.1 hoff]

/-- **When the decision is that of the exact quotient.**  For every capacity, factor and sequence of batches
whose last durations have a positive average, every profile and either previous decision: the decision is
the one for the exact quotient of the longest of the last durations and their average exactly if the quotient
is not looked at — the frame rate is low, enough cycles were missed, or too many to switch off — or the boost
was off, or the threshold does not lie above the quotient of integers and at most at the exact one. -/
theorem heuristic_boost_exact_iff (times : ℤ → ℚ → ℚ) {k : ℕ} (hk : 1 ≤ k) (hk' : k < 2 ^ 31)
    (factor : ℚ) (batches : List (List WorkDuration × ℤ)) {a : ℤ}
    (havg : Int.tdiv (lastDurations k batches).sum (lastDurations k batches).length = a) (ha : 0 < a)
    (c : AdpfConfig) (targetNs : ℤ) (active : Bool) :
    ∃ m missed low, (lastDurations k batches).max? = some m ∧
      ((window k (reports batches)).countP (Report.missed times factor) : ℤ) = missed ∧
      (after times k factor batches).isLowFrameRate (c.mLowFrameRateThreshold.getD 0) = low ∧
      (heuristicBoost c (after times k factor batches) targetNs active =
          boostDecision c low missed ((m : ℚ) / (a : ℚ)) active ↔
        low = true ∨ c.mHBoostOnMissedCycles.getD 0 ≤ missed ∨
          c.mHBoostOffMissedCycles.getD 0 < missed ∨ active = false ∨
          ¬ (((Int.tdiv m a : ℤ) : ℚ) < c.mHBoostOffMaxAvgRatio.getD 0 ∧
            c.mHBoostOffMaxAvgRatio.getD 0 ≤ (m : ℚ) / (a : ℚ))) := by
  have hw : lastDurations k batches ≠ [] := by
    intro hnil
    rw [hnil] at havg
    exact ha.ne havg
  obtain ⟨m, hm, hmax, hget, hframes⟩ := getters_of_reported times hk hk' factor hw
  rw [havg] at hget
  have hle : a ≤ m := havg ▸ average_le_max hm
  refine ⟨m, _, _, hm, rfl, rfl, ?_⟩
  rw [heuristicBoost_eq hmax hget hframes, (tracks_after times hk hk' factor batches).getNumOfMissedCycles]
  exact boostDecision_eq_iff (tdiv_le_div (ha.le.trans hle) ha) c _ _ active

/-- Two cycles, of half a millisecond and of one and a half. -/
def unevenCycles : List (List WorkDuration × ℤ) :=
  [([{ timeStampNanos := 0, durationNanos := 500000 },
    { timeStampNanos := 16000000, durationNanos := 1500000 }], 16666666)]

theorem heuristic_boost_exact_mock :
    heuristicBoost makeMockConfig (after exactTimes 300 (6 / 5) unevenCycles) 16666666 true =
      boostDecision makeMockConfig false 0 ((1500 : ℤ) / (1000 : ℤ)) true := by
  obtain ⟨m, missed, low, hm, hmissed, hlow, hiff⟩ := heuristic_boost_exact_iff exactTimes (k := 300)
    (by decide) (by decide) (6 / 5) unevenCycles (a := 1000) (by decide) (by decide) makeMockConfig 16666666 true
  have hm' : m = 1500 := Option.some.inj (hm.symm.trans (by decide))
  have hmissed' : missed = 0 := hmissed.symm.trans (by decide +kernel)
  have hlow' : low = false := hlow.symm.trans (by decide +kernel)
  rw [hm', hmissed', hlow'] at hiff
  refine hiff.2 (Or.inr (Or.inr (Or.inr (Or.inr ?_))))
  decide +kernel

/-- With a threshold of `1.2` the boost is switched off although the longest cycle is one and a half times
the average. -/
theorem heuristic_boost_truncated :
    (lastDurations 300 unevenCycles).max? = some 1500 ∧
      Int.tdiv (lastDurations 300 unevenCycles).sum (lastDurations 300 unevenCycles).length = 1000 ∧
      (after exactTimes 300 (6 / 5) unevenCycles).isLowFrameRate 25 = false ∧
      (window 300 (reports unevenCycles)).countP (Report.missed exactTimes (6 / 5)) = 0 ∧
      heuristicBoost { makeMockConfig with mHBoostOffMaxAvgRatio := some (6 / 5) }
        (after exactTimes 300 (6 / 5) unevenCycles) 16666666 true = false ∧
      boostDecision { makeMockConfig with mHBoostOffMaxAvgRatio := some (6 / 5) } false 0
        ((1500 : ℚ) / 1000) true = true := by
  decide +kernel

end Adpf
