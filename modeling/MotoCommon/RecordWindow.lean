/-
**The records of a session are a sliding window.**

`SessionRecords` updates a ring of records, a queue of ring indices, a sum, a count of missed cycles
and an average with each reported cycle.  This module relates them to the list of all reports so far:
they are what `MotoCommon/SlidingWindow.lean` keeps of its last `k` elements.

Main definitions:

* `Adpf.SessionRecords.Report`, `Adpf.SessionRecords.reports` — a cycle with the target of its batch, and
  the reports of a list of batches;
* `Adpf.SessionRecords.cycleOf`, `Adpf.SessionRecords.cycles` — what each report says about its cycle;
* `Adpf.SessionRecords.Slides` — the records are a window.

Main results:

* `Adpf.SessionRecords.Slides.removeOldest`, `Adpf.SessionRecords.Slides.store` — the two halves of a round
  of the loop move the window;
* `Adpf.SessionRecords.tracks_after` — the records after any batches;
* `Adpf.SessionRecords.Tracks.getMaxDuration` and its like — each getter, from the window;
* `Adpf.session_records_window` — **what the class reports is what the window has**.
-/

import Mathlib.Algebra.Order.Ring.Int
import MotoCommon.SessionRecords
import MotoCommon.SlidingWindow

set_option autoImplicit false

namespace Adpf.SessionRecords

open Sliding

/-! ### Reports -/

/-- A reported cycle, with the target of its batch. -/
structure Report where
  duration : WorkDuration
  targetDurationNs : ℤ
  deriving DecidableEq, Repr

/-- The reports of a list of batches, each with its target. -/
def reports (batches : List (List WorkDuration × ℤ)) : List Report :=
  batches.flatMap fun b => b.1.map fun d => ⟨d, b.2⟩

/-- The duration of a report in microseconds, as an `int32_t`. -/
def Report.durationUs (x : Report) : ℤ := toInt32 (Int.tdiv x.duration.durationNanos 1000)

/-- The start time of a report. -/
def Report.startTimeNs (x : Report) : ℤ := toInt64 (x.duration.timeStampNanos - x.duration.durationNanos)

/-- The duration of a report is more than the target of its batch times the factor, as the machine
multiplies them. -/
def Report.missed (times : ℤ → ℚ → ℚ) (jankCheckTimeFactor : ℚ) (x : Report) : Bool :=
  decide (times (Int.tdiv x.targetDurationNs 1000) jankCheckTimeFactor < (x.durationUs : ℚ))

/-- The time from the start of the report before to that of a report, in microseconds as an `int32_t`,
zero if there is none before. -/
def Report.intervalUs (before : Option Report) (x : Report) : ℤ :=
  match before with
  | none => 0
  | some y => toInt32 (Int.tdiv (toInt64 (x.startTimeNs - y.startTimeNs)) 1000)

/-- What a report says about its cycle. -/
def cycleOf (times : ℤ → ℚ → ℚ) (jankCheckTimeFactor : ℚ) (before : Option Report) (x : Report) : CycleRecord where
  startIntervalUs := x.intervalUs before
  totalDurationUs := x.durationUs
  isMissedCycle := x.missed times jankCheckTimeFactor

/-- What a list of reports says about the cycles, after one that may have come before. -/
def cycles (times : ℤ → ℚ → ℚ) (jankCheckTimeFactor : ℚ) : Option Report → List Report → List CycleRecord
  | _, [] => []
  | before, x :: xs => cycleOf times jankCheckTimeFactor before x ::
      cycles times jankCheckTimeFactor (some x) xs

/-- The start intervals of a list of reports, after one that may have come before. -/
def intervals : Option Report → List Report → List ℤ
  | _, [] => []
  | before, x :: xs => x.intervalUs before :: intervals (some x) xs

variable {times : ℤ → ℚ → ℚ} {factor : ℚ}

theorem cycles_append_singleton (before : Option Report) (xs : List Report) (x : Report) :
    cycles times factor before (xs ++ [x]) =
      cycles times factor before xs ++ [cycleOf times factor (xs.getLast?.or before) x] := by
  induction xs generalizing before with
  | nil => rfl
  | cons y xs ih =>
      rw [List.cons_append, cycles, ih, cycles, List.cons_append, List.getLast?_cons]
      cases xs.getLast? <;> rfl

theorem map_totalDurationUs_cycles (before : Option Report) (xs : List Report) :
    (cycles times factor before xs).map CycleRecord.totalDurationUs = xs.map Report.durationUs := by
  induction xs generalizing before with
  | nil => rfl
  | cons x xs ih => exact congrArg (x.durationUs :: ·) (ih (some x))

theorem map_isMissedCycle_cycles (before : Option Report) (xs : List Report) :
    (cycles times factor before xs).map CycleRecord.isMissedCycle = xs.map (Report.missed times factor) := by
  induction xs generalizing before with
  | nil => rfl
  | cons x xs ih => exact congrArg (x.missed times factor :: ·) (ih (some x))

theorem map_startIntervalUs_cycles (times : ℤ → ℚ → ℚ) (factor : ℚ) (before : Option Report) (xs : List Report) :
    (cycles times factor before xs).map CycleRecord.startIntervalUs = intervals before xs := by
  induction xs generalizing before with
  | nil => rfl
  | cons x xs ih => exact congrArg (x.intervalUs before :: ·) (ih (some x))

theorem length_cycles (before : Option Report) (xs : List Report) :
    (cycles times factor before xs).length = xs.length := by
  rw [← List.length_map CycleRecord.totalDurationUs, map_totalDurationUs_cycles, List.length_map]

/-! ### The two halves of a round -/

/-- The second half of a round of the loop: a record is written. -/
def store (r : SessionRecords) (startTimeNs : ℤ) (c : CycleRecord) : SessionRecords :=
  let mLatestRecordIndex := r.nextIndex
  let r := { r with
    mLatestRecordIndex := mLatestRecordIndex
    mLastStartTimeNs := startTimeNs
    mRecords := r.mRecords.set mLatestRecordIndex.toNat c
    mNumOfFrames := r.mNumOfFrames + 1
    mNumOfMissedCycles :=
      if c.isMissedCycle then r.mNumOfMissedCycles + 1 else r.mNumOfMissedCycles }
  let mSumOfDurationsUs := toInt64 (r.mSumOfDurationsUs + c.totalDurationUs)
  { r with
    mRecordsIndQueue := r.popSmaller c.totalDurationUs ++ [mLatestRecordIndex]
    mSumOfDurationsUs := mSumOfDurationsUs
    mAvgDurationUs := toInt32 (Int.tdiv mSumOfDurationsUs r.mNumOfFrames) }

/-- The record that a round of the loop writes. -/
def newRecord (times : ℤ → ℚ → ℚ) (r : SessionRecords) (x : Report) : CycleRecord where
  startIntervalUs :=
    if 0 < r.mNumOfFrames then toInt32 (Int.tdiv (toInt64 (x.startTimeNs - r.mLastStartTimeNs)) 1000)
    else 0
  totalDurationUs := x.durationUs
  isMissedCycle := x.missed times r.kJankCheckTimeFactor

theorem addReportedDuration_eq (r : SessionRecords) (x : Report) :
    addReportedDuration times x.targetDurationNs r x.duration =
      r.removeOldest.store x.startTimeNs (r.removeOldest.newRecord times x) := rfl

/-! ### The records as a window -/

/-- The index of the latest record after `n` reports. -/
def latestIndex (k n : ℕ) : ℤ := if n = 0 then -1 else (((n - 1) % k : ℕ) : ℤ)

/-- The ring index of a leader. -/
def ringIndex (k : ℕ) (p : ℕ × ℤ) : ℤ := ((p.1 % k : ℕ) : ℤ)

/-- The records are the window `w`, which starts at position `lo`. -/
structure Slides (k : ℕ) (factor : ℚ) (lo : ℕ) (w : List CycleRecord) (r : SessionRecords) : Prop where
  capacity : r.kMaxNumOfRecords = k
  jank : r.kJankCheckTimeFactor = factor
  holds : Holds k r.mRecords lo w
  latest : r.mLatestRecordIndex = latestIndex k (lo + w.length)
  frames : r.mNumOfFrames = w.length
  queue : r.mRecordsIndQueue =
    (leaders lo (w.map CycleRecord.totalDurationUs)).map (ringIndex k)
  sum : r.mSumOfDurationsUs = (w.map CycleRecord.totalDurationUs).sum
  missed : r.mNumOfMissedCycles = w.countP CycleRecord.isMissedCycle
  narrow : ∀ c ∈ w, -2 ^ 31 ≤ c.totalDurationUs ∧ c.totalDurationUs < 2 ^ 31

/-- A sum of `int32_t` values lies within their number times the bounds. -/
theorem sum_bounds : ∀ {l : List ℤ}, (∀ x ∈ l, -2 ^ 31 ≤ x ∧ x < 2 ^ 31) →
    -2 ^ 31 * (l.length : ℤ) ≤ l.sum ∧ l.sum ≤ (2 ^ 31 - 1) * (l.length : ℤ) := by
  intro l
  induction l with
  | nil => intro _; simp
  | cons x l ih =>
      intro h
      have hx := h x List.mem_cons_self
      obtain ⟨hlo, hhi⟩ := ih fun y hy => h y (List.mem_cons_of_mem x hy)
      rw [List.sum_cons, List.length_cons]
      push_cast
      constructor <;> omega

theorem latestIndex_succ (k n : ℕ) :
    Int.tmod (latestIndex k n + 1) k = ((n % k : ℕ) : ℤ) := by
  unfold latestIndex
  cases n with
  | zero => simp
  | succ n =>
      have hcast : (((n + 1 - 1) % k : ℕ) : ℤ) + 1 = ((n % k + 1 : ℕ) : ℤ) := by simp
      rw [if_neg (Nat.succ_ne_zero n), hcast, ← Int.ofNat_tmod, Nat.mod_add_mod]

namespace Slides

variable {k lo : ℕ} {w : List CycleRecord} {r : SessionRecords}

theorem nextIndex (h : Slides k factor lo w r) :
    r.nextIndex = (((lo + w.length) % k : ℕ) : ℤ) := by
  unfold SessionRecords.nextIndex
  rw [h.capacity, h.latest, latestIndex_succ]

/-- The record at a position of the window. -/
theorem recordAt (h : Slides k factor lo w r) {i : ℕ} {c : CycleRecord} (hget : w[i]? = some c) :
    r.recordAt (((lo + i) % k : ℕ) : ℤ) = c := by
  obtain ⟨hi, -⟩ := List.getElem?_eq_some_iff.1 hget
  unfold SessionRecords.recordAt
  rw [Int.toNat_natCast, List.getD_eq_getElem?_getD, h.holds.cells i hi, hget]
  rfl

/-- A leader's ring index leads to its duration. -/
theorem recordAt_leader (h : Slides k factor lo w r) {p : ℕ × ℤ}
    (hp : p ∈ leaders lo (w.map CycleRecord.totalDurationUs)) :
    (r.recordAt (ringIndex k p)).totalDurationUs = p.2 := by
  obtain ⟨i, hi, hget⟩ := getElem?_of_mem_leaders hp
  rw [List.getElem?_map] at hget
  obtain ⟨c, hc, hdur⟩ := Option.map_eq_some_iff.1 hget
  rw [ringIndex, hi, h.recordAt hc, hdur]

theorem sum_fits (h : Slides k factor lo w r) (hk : k < 2 ^ 31) :
    -2 ^ 62 ≤ (w.map CycleRecord.totalDurationUs).sum ∧
      (w.map CycleRecord.totalDurationUs).sum ≤ 2 ^ 62 := by
  have hlen : (w.length : ℤ) ≤ 2 ^ 31 := by
    have := h.holds.fits
    omega
  have hbounds := sum_bounds (l := w.map CycleRecord.totalDurationUs) (by simpa using h.narrow)
  rw [List.length_map] at hbounds
  constructor <;> omega

/-- Nothing is removed while there is room. -/
theorem removeOldest_of_lt (h : Slides k factor lo w r) (hroom : w.length < k) : r.removeOldest = r := by
  unfold SessionRecords.removeOldest
  rw [h.capacity, h.frames, if_neg (by omega)]

/-- **The first half of a round**: a full window loses its oldest record. -/
theorem removeOldest {a : CycleRecord} (h : Slides k factor lo (a :: w) r) (hk : k < 2 ^ 31)
    (hfull : (a :: w).length = k) : Slides k factor (lo + 1) w r.removeOldest := by
  have hindex : r.nextIndex = ((lo % k : ℕ) : ℤ) := by
    rw [h.nextIndex, hfull, Nat.add_mod_right]
  have hold : r.recordAt ((lo % k : ℕ) : ℤ) = a := h.recordAt (i := 0) rfl
  -- the front of the queue is the oldest record exactly if its ring index is
  have hfront : r.mRecordsIndQueue.head? = some ((lo % k : ℕ) : ℤ) ↔
      (leaders lo ((a :: w).map CycleRecord.totalDurationUs)).head?.map Prod.fst = some lo := by
    rw [h.queue, List.head?_map]
    cases hhead : (leaders lo ((a :: w).map CycleRecord.totalDurationUs)).head? with
    | none => simp
    | some p =>
        obtain ⟨i, hi, hget⟩ := getElem?_of_mem_leaders (List.mem_of_mem_head? hhead)
        obtain ⟨hlt, -⟩ := List.getElem?_eq_some_iff.1 hget
        rw [List.length_map, hfull] at hlt
        simp only [Option.map_some, Option.some.injEq, ringIndex, Int.natCast_inj]
        constructor
        · intro hmod
          by_contra hne
          exact mod_ne_mod (by omega) (by omega) hmod.symm
        · intro heq
          rw [heq]
  unfold SessionRecords.removeOldest
  rw [if_pos (by rw [h.capacity, h.frames, hfull])]
  simp only [hindex, hold]
  refine ⟨h.capacity, h.jank, h.holds.pop, ?_, ?_, ?_, ?_, ?_, ?_⟩
  · rw [h.latest, List.length_cons, Nat.add_assoc, Nat.add_comm 1]
  · show r.mNumOfFrames - 1 = _
    rw [h.frames, List.length_cons]
    omega
  · rw [← leaders_pop lo a.totalDurationUs (w.map CycleRecord.totalDurationUs), ← List.map_cons]
    by_cases hhead : r.mRecordsIndQueue.head? = some ((lo % k : ℕ) : ℤ)
    · rw [if_pos hhead, if_pos (hfront.1 hhead), h.queue, List.map_tail]
    · rw [if_neg hhead, if_neg fun hlead => hhead (hfront.2 hlead), h.queue]
  · have hsum := h.sum
    have hfits := h.sum_fits hk
    have hnarrow := h.narrow a List.mem_cons_self
    rw [List.map_cons, List.sum_cons] at hsum hfits
    rw [hsum, add_sub_cancel_left]
    exact toInt64_eq (by omega) (by omega)
  · rw [h.missed, List.countP_cons]
    cases a.isMissedCycle <;> simp
  · exact fun c hc => h.narrow c (List.mem_cons_of_mem a hc)

/-- **The second half of a round**: a record comes to a window with room. -/
theorem store (h : Slides k factor lo w r) (hk : k < 2 ^ 31) (hroom : w.length < k) (t : ℤ)
    {c : CycleRecord} (hc : -2 ^ 31 ≤ c.totalDurationUs ∧ c.totalDurationUs < 2 ^ 31) :
    Slides k factor lo (w ++ [c]) (r.store t c) := by
  have hindex := h.nextIndex
  have hholds := h.holds.push hroom c
  have hnarrow : ∀ x ∈ w ++ [c], -2 ^ 31 ≤ x.totalDurationUs ∧ x.totalDurationUs < 2 ^ 31 := by
    intro x hx
    rcases List.mem_append.1 hx with hx | hx
    · exact h.narrow x hx
    · rwa [List.mem_singleton.1 hx]
  have hmap : (w ++ [c]).map CycleRecord.totalDurationUs =
      w.map CycleRecord.totalDurationUs ++ [c.totalDurationUs] := by
    rw [List.map_append, List.map_singleton]
  refine ⟨h.capacity, h.jank, ?_, ?_, ?_, ?_, ?_, ?_, hnarrow⟩
  · show Holds k (r.mRecords.set r.nextIndex.toNat c) lo (w ++ [c])
    rwa [hindex, Int.toNat_natCast]
  · show r.nextIndex = _
    rw [hindex, latestIndex, List.length_append, List.length_singleton, if_neg (by omega)]
    rfl
  · show r.mNumOfFrames + 1 = _
    rw [h.frames, List.length_append, List.length_singleton]
    rfl
  · have hval : ∀ p ∈ leaders lo (w.map CycleRecord.totalDurationUs),
        (({ r with mRecords := r.mRecords.set r.nextIndex.toNat c } : SessionRecords).recordAt
          (ringIndex k p)).totalDurationUs = p.2 := by
      intro p hp
      obtain ⟨i, hi, hget⟩ := getElem?_of_mem_leaders hp
      rw [List.getElem?_map] at hget
      obtain ⟨x, hx, hdur⟩ := Option.map_eq_some_iff.1 hget
      obtain ⟨hlt, -⟩ := List.getElem?_eq_some_iff.1 hx
      have hcell := hholds.cells i (by rw [List.length_append, List.length_singleton]; omega)
      rw [List.getElem?_append_left hlt, hx] at hcell
      rw [ringIndex, hi, SessionRecords.recordAt, hindex, Int.toNat_natCast, Int.toNat_natCast,
        List.getD_eq_getElem?_getD, hcell]
      exact hdur
    have hpush := leaders_push lo (w.map CycleRecord.totalDurationUs) c.totalDurationUs (ringIndex k)
      (fun i => (({ r with mRecords := r.mRecords.set r.nextIndex.toNat c } :
        SessionRecords).recordAt i).totalDurationUs) hval
    rw [hmap, ← hpush, ← h.queue, ringIndex, List.length_map, ← hindex]
    rfl
  · show toInt64 (r.mSumOfDurationsUs + c.totalDurationUs) = _
    have hfits := h.sum_fits hk
    rw [hmap, List.sum_append, List.sum_singleton, h.sum]
    exact toInt64_eq (by omega) (by omega)
  · show (if c.isMissedCycle then r.mNumOfMissedCycles + 1 else r.mNumOfMissedCycles) = _
    rw [List.countP_append, h.missed, List.countP_singleton]
    cases c.isMissedCycle <;> simp

/-- The average of the window is an `int32_t`. -/
theorem average_bounds (h : Slides k factor lo w r) (hw : w ≠ []) :
    -2 ^ 31 ≤ Int.tdiv (w.map CycleRecord.totalDurationUs).sum w.length ∧
      Int.tdiv (w.map CycleRecord.totalDurationUs).sum w.length < 2 ^ 31 := by
  have hpos : (0 : ℤ) < w.length := Int.natCast_pos.2 (List.length_pos_of_ne_nil hw)
  obtain ⟨hlo, hhi⟩ := sum_bounds (l := w.map CycleRecord.totalDurationUs) (by simpa using h.narrow)
  rw [List.length_map] at hlo hhi
  constructor
  · have hle := Int.tdiv_le_tdiv hpos hlo
    rwa [Int.mul_tdiv_cancel _ hpos.ne'] at hle
  · have hle := Int.tdiv_le_tdiv hpos hhi
    rw [Int.mul_tdiv_cancel _ hpos.ne'] at hle
    omega

/-- The average that a round leaves. -/
theorem mAvgDurationUs_store (h : Slides k factor lo w r) (hk : k < 2 ^ 31) (hroom : w.length < k)
    (t : ℤ) {c : CycleRecord} (hc : -2 ^ 31 ≤ c.totalDurationUs ∧ c.totalDurationUs < 2 ^ 31) :
    (r.store t c).mAvgDurationUs =
      Int.tdiv ((w ++ [c]).map CycleRecord.totalDurationUs).sum (w ++ [c]).length := by
  have hstored := h.store hk hroom t hc
  have hdef : (r.store t c).mAvgDurationUs =
      toInt32 (Int.tdiv (r.store t c).mSumOfDurationsUs (r.store t c).mNumOfFrames) := rfl
  obtain ⟨hlo, hhi⟩ := hstored.average_bounds (List.append_ne_nil_of_right_ne_nil w (List.cons_ne_nil c []))
  rw [hdef, hstored.sum, hstored.frames]
  exact toInt32_eq hlo hhi

end Slides

/-! ### The records after any reports -/

/-- What the ring keeps of a cycle.  A ring of one cell is empty when a record is written, so it never
sees a start interval. -/
def kept (k : ℕ) (c : CycleRecord) : CycleRecord := if k = 1 then { c with startIntervalUs := 0 } else c

/-- The records after some reports: the window of the cycles, the start time of the last report and the
average. -/
structure Tracks (times : ℤ → ℚ → ℚ) (k : ℕ) (factor : ℚ) (xs : List Report) (r : SessionRecords) : Prop where
  slides : ∃ lo, Slides k factor lo (window k ((cycles times factor none xs).map (kept k))) r
  lastStart : ∀ x, xs.getLast? = some x → r.mLastStartTimeNs = x.startTimeNs
  average : xs ≠ [] → r.mAvgDurationUs =
    Int.tdiv ((window k (xs.map Report.durationUs)).sum) (window k (xs.map Report.durationUs)).length

theorem map_totalDurationUs_kept (k : ℕ) (l : List CycleRecord) :
    (l.map (kept k)).map CycleRecord.totalDurationUs = l.map CycleRecord.totalDurationUs := by
  rw [List.map_map]
  refine List.map_congr_left fun c _ => ?_
  simp only [Function.comp, kept]
  split <;> rfl

/-- The durations of the window. -/
theorem map_totalDurationUs_window (times : ℤ → ℚ → ℚ) (factor : ℚ) (k : ℕ) (xs : List Report) :
    (window k ((cycles times factor none xs).map (kept k))).map CycleRecord.totalDurationUs =
      window k (xs.map Report.durationUs) := by
  rw [← window_map, map_totalDurationUs_kept, map_totalDurationUs_cycles]

/-- Which cycles of the window were missed. -/
theorem map_isMissedCycle_window (times : ℤ → ℚ → ℚ) (factor : ℚ) (k : ℕ) (xs : List Report) :
    (window k ((cycles times factor none xs).map (kept k))).map CycleRecord.isMissedCycle =
      (window k xs).map (Report.missed times factor) := by
  have hkept : ((cycles times factor none xs).map (kept k)).map CycleRecord.isMissedCycle =
      (cycles times factor none xs).map CycleRecord.isMissedCycle := by
    rw [List.map_map]
    refine List.map_congr_left fun c _ => ?_
    simp only [Function.comp, kept]
    split <;> rfl
  rw [← window_map, hkept, map_isMissedCycle_cycles, window_map]

/-- The start intervals of the last three cycles of a window that has three. -/
theorem map_startIntervalUs_lastThree {factor : ℚ} {k : ℕ} {xs : List Report}
    (h : 3 ≤ (window k ((cycles times factor none xs).map (kept k))).length) :
    (window 3 (window k ((cycles times factor none xs).map (kept k)))).map CycleRecord.startIntervalUs =
      window 3 (intervals none xs) := by
  have hk : 3 ≤ k := by
    rw [length_window] at h
    omega
  have hkept : (cycles times factor none xs).map (kept k) = cycles times factor none xs := by
    have hid : kept k = id := by
      funext c
      exact if_neg (by omega)
    rw [hid, List.map_id]
  rw [hkept] at h ⊢
  have hsuffix : window 3 (window k (cycles times factor none xs)) <:+ cycles times factor none xs :=
    (window_suffix 3 _).trans (window_suffix k _)
  have hlen : (window 3 (window k (cycles times factor none xs))).length = 3 := by
    rw [length_window]
    omega
  rw [← map_startIntervalUs_cycles times factor, window_map, ← window_of_suffix hsuffix, hlen]

theorem tracks_make (k : ℕ) (factor : ℚ) : Tracks times k factor [] (make k factor) := by
  have hsize : (make (k : ℤ) factor).mRecords.length = k := by simp [make]
  have hempty : window k ((cycles times factor none []).map (kept k)) = [] := window_nil
  refine ⟨⟨0, ?_⟩, fun x hx => absurd hx (by simp), fun h => absurd rfl h⟩
  rw [hempty]
  exact ⟨rfl, rfl, Holds.nil hsize 0, rfl, rfl, rfl, rfl, rfl, fun c hc => absurd hc List.not_mem_nil⟩

theorem mLastStartTimeNs_removeOldest (r : SessionRecords) :
    r.removeOldest.mLastStartTimeNs = r.mLastStartTimeNs := by
  unfold removeOldest
  split <;> rfl

/-- The first half of a round makes room. -/
theorem Slides.makeRoom {k lo : ℕ} {w : List CycleRecord} {r : SessionRecords}
    (h : Slides k factor lo w r) (hk : 0 < k) (hk' : k < 2 ^ 31) :
    (if w.length < k then w else w.tail).length < k ∧
      ∃ lo', Slides k factor lo' (if w.length < k then w else w.tail) r.removeOldest := by
  by_cases hroom : w.length < k
  · rw [if_pos hroom, h.removeOldest_of_lt hroom]
    exact ⟨hroom, lo, h⟩
  · have hfull : w.length = k := Nat.le_antisymm h.holds.fits (Nat.not_lt.1 hroom)
    rw [if_neg hroom]
    cases w with
    | nil =>
        rw [← hfull] at hk
        exact absurd hk (Nat.lt_irrefl 0)
    | cons a w =>
        rw [← hfull]
        exact ⟨Nat.lt_succ_self _, lo + 1, hfull ▸ h.removeOldest hk' hfull⟩

/-- The record that a round writes is what the report says about its cycle. -/
theorem Tracks.newRecord {k : ℕ} {xs : List Report} {r : SessionRecords} (h : Tracks times k factor xs r)
    (hk : 0 < k) (hk' : k < 2 ^ 31) (x : Report) :
    r.removeOldest.newRecord times x = kept k (cycleOf times factor xs.getLast? x) := by
  obtain ⟨lo, hs⟩ := h.slides
  obtain ⟨-, lo', hs'⟩ := hs.makeRoom hk hk'
  have hframes := hs'.frames
  have hlen : (window k ((cycles times factor none xs).map (kept k))).length = min k xs.length := by
    rw [length_window, List.length_map, length_cycles]
  have hrecord : r.removeOldest.newRecord times x =
      ⟨if 0 < r.removeOldest.mNumOfFrames then
          toInt32 (Int.tdiv (toInt64 (x.startTimeNs - r.mLastStartTimeNs)) 1000)
        else 0, x.durationUs, x.missed times factor⟩ := by
    rw [SessionRecords.newRecord, mLastStartTimeNs_removeOldest, hs'.jank]
  rw [hrecord]
  cases hlast : xs.getLast? with
  | none =>
      -- the first report of all
      obtain rfl := List.getLast?_eq_none_iff.1 hlast
      have hzero : r.removeOldest.mNumOfFrames = 0 := by
        rw [hframes, if_pos (by rw [hlen]; simpa using hk), hlen]
        simp
      rw [hzero, if_neg (lt_irrefl 0)]
      simp only [kept, cycleOf, Report.intervalUs]
      split <;> rfl
  | some y =>
      have hsome : 0 < xs.length := List.length_pos_of_mem (List.mem_of_getLast? hlast)
      rw [h.lastStart y hlast]
      by_cases hone : k = 1
      · have hzero : r.removeOldest.mNumOfFrames = 0 := by
          rw [hframes, if_neg (by omega), List.length_tail]
          omega
        rw [hzero, if_neg (lt_irrefl 0), kept, if_pos hone]
        rfl
      · have hpos : 0 < r.removeOldest.mNumOfFrames := by
          rw [hframes]
          split
          · omega
          · rw [List.length_tail]
            omega
        rw [if_pos hpos, kept, if_neg hone]
        rfl

/-- **A round of the loop adds a report.** -/
theorem Tracks.addReportedDuration {k : ℕ} {xs : List Report} {r : SessionRecords}
    (h : Tracks times k factor xs r) (hk : 0 < k) (hk' : k < 2 ^ 31) (x : Report) :
    Tracks times k factor (xs ++ [x]) (SessionRecords.addReportedDuration times x.targetDurationNs r x.duration) := by
  obtain ⟨lo, hs⟩ := h.slides
  obtain ⟨hroom, lo', hs'⟩ := hs.makeRoom hk hk'
  have hnarrow : -2 ^ 31 ≤ (kept k (cycleOf times factor xs.getLast? x)).totalDurationUs ∧
      (kept k (cycleOf times factor xs.getLast? x)).totalDurationUs < 2 ^ 31 := by
    have hdur : (kept k (cycleOf times factor xs.getLast? x)).totalDurationUs = x.durationUs := by
      unfold kept
      split <;> rfl
    rw [hdur]
    exact toInt32_bounds _
  have hwindow : window k ((cycles times factor none (xs ++ [x])).map (kept k)) =
      (if (window k ((cycles times factor none xs).map (kept k))).length < k then
          window k ((cycles times factor none xs).map (kept k))
        else (window k ((cycles times factor none xs).map (kept k))).tail) ++
        [kept k (cycleOf times factor xs.getLast? x)] := by
    rw [cycles_append_singleton, Option.or_none, List.map_append, List.map_singleton,
      window_append_singleton hk]
  rw [addReportedDuration_eq, h.newRecord hk hk']
  refine ⟨⟨lo', ?_⟩, ?_, fun _ => ?_⟩
  · rw [hwindow]
    exact hs'.store hk' hroom _ hnarrow
  · intro y hy
    rw [List.getLast?_append_of_ne_nil _ (List.cons_ne_nil x []), List.getLast?_singleton] at hy
    obtain rfl := Option.some.inj hy
    rfl
  · rw [hs'.mAvgDurationUs_store hk' hroom _ hnarrow, ← hwindow, map_totalDurationUs_window,
      ← map_totalDurationUs_window times factor k (xs ++ [x]), List.length_map]

/-- The records after a list of reports. -/
theorem tracks_reports {k : ℕ} (hk : 0 < k) (hk' : k < 2 ^ 31) (xs ys : List Report)
    {r : SessionRecords} (h : Tracks times k factor xs r) :
    Tracks times k factor (xs ++ ys)
      (ys.foldl (fun r x => SessionRecords.addReportedDuration times x.targetDurationNs r x.duration) r) := by
  induction ys generalizing xs r with
  | nil => rwa [List.append_nil]
  | cons y ys ih =>
      have hnext := ih (xs ++ [y]) (h.addReportedDuration hk hk' y)
      rwa [List.append_assoc] at hnext

/-- The records of a session after a list of batches. -/
def after (times : ℤ → ℚ → ℚ) (k : ℕ) (factor : ℚ) (batches : List (List WorkDuration × ℤ)) : SessionRecords :=
  batches.foldl (fun r b => r.addReportedDurations times b.1 b.2) (make k factor)

/-- Batch by batch or report by report. -/
theorem foldl_addReportedDurations (batches : List (List WorkDuration × ℤ)) (r : SessionRecords) :
    batches.foldl (fun r b => r.addReportedDurations times b.1 b.2) r =
      (reports batches).foldl
        (fun r x => SessionRecords.addReportedDuration times x.targetDurationNs r x.duration) r := by
  induction batches generalizing r with
  | nil => rfl
  | cons b batches ih =>
      have hcons : reports (b :: batches) = (b.1.map fun d => ⟨d, b.2⟩) ++ reports batches := rfl
      rw [List.foldl_cons, ih, hcons, List.foldl_append, List.foldl_map]
      rfl

/-- **The records after any batches.** -/
theorem tracks_after (times : ℤ → ℚ → ℚ) {k : ℕ} (hk : 0 < k) (hk' : k < 2 ^ 31) (factor : ℚ)
    (batches : List (List WorkDuration × ℤ)) :
    Tracks times k factor (reports batches) (after times k factor batches) := by
  unfold after
  rw [foldl_addReportedDurations]
  exact tracks_reports hk hk' [] (reports batches) (tracks_make k factor)

/-! ### The last three records -/

/-- The index before a given one, as `isLowFrameRate` computes it. -/
def indexBefore (r : SessionRecords) (index : ℤ) : ℤ :=
  if index = 0 then r.kMaxNumOfRecords - 1 else index - 1

theorem isLowFrameRate_eq (r : SessionRecords) (fps : ℤ) :
    r.isLowFrameRate fps =
      if 3 ≤ r.mNumOfFrames then
        slowStart fps (r.recordAt r.mLatestRecordIndex) &&
          slowStart fps (r.recordAt (r.indexBefore r.mLatestRecordIndex)) &&
          slowStart fps (r.recordAt (r.indexBefore (r.indexBefore r.mLatestRecordIndex)))
      else false := rfl

theorem slowStart_iff {fps : ℤ} (h : 0 < fps) (c : CycleRecord) :
    slowStart fps c = true ↔ (1000000 : ℚ) / (fps : ℚ) ≤ (c.startIntervalUs : ℚ) := by
  simp [slowStart, h.ne']

namespace Slides

variable {k lo : ℕ} {w : List CycleRecord} {r : SessionRecords}

/-- The index before that of a position is that of the position before. -/
theorem indexBefore (h : Slides k factor lo w r) (hk : 0 < k) (n : ℕ) :
    r.indexBefore (((n + 1) % k : ℕ) : ℤ) = ((n % k : ℕ) : ℤ) := by
  have hlt := Nat.mod_lt n hk
  have hmod := Nat.mod_add_mod n k 1
  unfold SessionRecords.indexBefore
  rw [h.capacity]
  by_cases hlast : n % k + 1 = k
  · rw [hlast, Nat.mod_self] at hmod
    rw [← hmod, Nat.cast_zero, if_pos rfl]
    omega
  · rw [Nat.mod_eq_of_lt (by omega)] at hmod
    rw [← hmod, if_neg (by omega)]
    omega

/-- The indices of the last three records of a window that has three. -/
theorem lastThree (h : Slides k factor lo w r) (hk : 0 < k) (hthree : 3 ≤ w.length) :
    r.mLatestRecordIndex = (((lo + (w.length - 1)) % k : ℕ) : ℤ) ∧
      r.indexBefore r.mLatestRecordIndex = (((lo + (w.length - 2)) % k : ℕ) : ℤ) ∧
      r.indexBefore (r.indexBefore r.mLatestRecordIndex) = (((lo + (w.length - 3)) % k : ℕ) : ℤ) := by
  obtain ⟨n, hn⟩ := Nat.exists_eq_add_of_le' hthree
  have hlatest : r.mLatestRecordIndex = (((lo + (w.length - 1)) % k : ℕ) : ℤ) := by
    rw [h.latest, latestIndex, if_neg (by omega), Nat.add_sub_assoc (by omega)]
  have hsecond : r.indexBefore r.mLatestRecordIndex = (((lo + (w.length - 2)) % k : ℕ) : ℤ) := by
    rw [hlatest, hn]
    exact h.indexBefore hk (lo + (n + 1))
  refine ⟨hlatest, hsecond, ?_⟩
  rw [hsecond, hn]
  exact h.indexBefore hk (lo + n)

/-- `isLowFrameRate` looks at the last three records of the window. -/
theorem isLowFrameRate_iff (h : Slides k factor lo w r) (hk : 0 < k) {fps : ℤ} (hfps : 0 < fps) :
    r.isLowFrameRate fps = true ↔
      3 ≤ w.length ∧ ∀ c ∈ window 3 w, (1000000 : ℚ) / (fps : ℚ) ≤ (c.startIntervalUs : ℚ) := by
  rw [isLowFrameRate_eq, h.frames]
  by_cases hthree : 3 ≤ w.length
  · obtain ⟨pre, a, b, c, rfl⟩ : ∃ pre a b c, w = pre ++ [a, b, c] := by
      have hlen : (window 3 w).length = 3 := by
        rw [length_window]
        omega
      obtain ⟨a, b, c, heq⟩ := List.length_eq_three.1 hlen
      obtain ⟨pre, hpre⟩ := window_suffix 3 w
      exact ⟨pre, a, b, c, by rw [← hpre, heq]⟩
    have hwindow : window 3 (pre ++ [a, b, c]) = [a, b, c] :=
      window_of_suffix (List.suffix_append pre [a, b, c])
    obtain ⟨h₁, h₂, h₃⟩ := h.lastThree hk hthree
    have hc : r.recordAt r.mLatestRecordIndex = c := by
      rw [h₁]
      exact h.recordAt (by simp)
    have hb : r.recordAt (r.indexBefore r.mLatestRecordIndex) = b := by
      rw [h₂]
      exact h.recordAt (by simp)
    have ha : r.recordAt (r.indexBefore (r.indexBefore r.mLatestRecordIndex)) = a := by
      rw [h₃]
      exact h.recordAt (by simp)
    rw [if_pos (by omega), hwindow, ha, hb, hc]
    simp only [Bool.and_eq_true, slowStart_iff hfps, hthree, true_and, List.mem_cons,
      List.not_mem_nil, or_false, forall_eq_or_imp, forall_eq]
    tauto
  · rw [if_neg (by omega)]
    simp [hthree]

/-- The front of the queue leads to the longest duration. -/
theorem getMaxDuration (h : Slides k factor lo w r) :
    r.getMaxDuration = (w.map CycleRecord.totalDurationUs).max? := by
  unfold SessionRecords.getMaxDuration
  rw [h.queue, List.head?_map, Option.map_map]
  cases hhead : (leaders lo (w.map CycleRecord.totalDurationUs)).head? with
  | none =>
      have hnil : w.map CycleRecord.totalDurationUs = [] := by
        by_contra hne
        exact leaders_ne_nil hne lo (List.head?_eq_none_iff.1 hhead)
      rw [hnil]
      rfl
  | some p =>
      have hmax := List.max?_eq_some_iff.2 (head_leaders_max hhead)
      rw [hmax, ← h.recordAt_leader (List.mem_of_mem_head? hhead)]
      rfl

/-- The queue is not empty when the window is not. -/
theorem queue_ne_nil (h : Slides k factor lo w r) (hw : w ≠ []) : r.mRecordsIndQueue ≠ [] := by
  rw [h.queue]
  refine mt List.map_eq_nil_iff.1 (leaders_ne_nil ?_ lo)
  exact mt List.map_eq_nil_iff.1 hw

end Slides

/-! ### The getters -/

theorem length_cycles_window (times : ℤ → ℚ → ℚ) (factor : ℚ) (k : ℕ) (xs : List Report) :
    (window k ((cycles times factor none xs).map (kept k))).length =
      (window k (xs.map Report.durationUs)).length := by
  rw [← map_totalDurationUs_window times factor, List.length_map]

namespace Tracks

variable {k : ℕ} {xs : List Report} {r : SessionRecords}

theorem getNumOfRecords (h : Tracks times k factor xs r) :
    r.getNumOfRecords = (window k (xs.map Report.durationUs)).length := by
  obtain ⟨lo, hs⟩ := h.slides
  rw [SessionRecords.getNumOfRecords, hs.frames, length_cycles_window]

theorem getMaxDuration (h : Tracks times k factor xs r) :
    r.getMaxDuration = (window k (xs.map Report.durationUs)).max? := by
  obtain ⟨lo, hs⟩ := h.slides
  rw [hs.getMaxDuration, map_totalDurationUs_window]

theorem getAvgDuration (h : Tracks times k factor xs r) :
    r.getAvgDuration =
      if window k (xs.map Report.durationUs) = [] then none
      else some (Int.tdiv (window k (xs.map Report.durationUs)).sum
        (window k (xs.map Report.durationUs)).length) := by
  have hframes : r.mNumOfFrames = _ := h.getNumOfRecords
  rw [SessionRecords.getAvgDuration, hframes]
  by_cases hw : window k (xs.map Report.durationUs) = []
  · rw [if_pos hw, hw, List.length_nil, if_pos (by rfl)]
  · have hsome : xs ≠ [] := by
      intro hnil
      rw [hnil] at hw
      exact hw window_nil
    have hpos := List.length_pos_of_ne_nil hw
    rw [if_neg hw, if_neg (by omega), h.average hsome]

theorem average_bounds (h : Tracks times k factor xs r) (hw : window k (xs.map Report.durationUs) ≠ []) :
    -2 ^ 31 ≤ Int.tdiv (window k (xs.map Report.durationUs)).sum
        (window k (xs.map Report.durationUs)).length ∧
      Int.tdiv (window k (xs.map Report.durationUs)).sum
        (window k (xs.map Report.durationUs)).length < 2 ^ 31 := by
  obtain ⟨lo, hs⟩ := h.slides
  have hne : window k ((cycles times factor none xs).map (kept k)) ≠ [] := by
    intro hnil
    rw [← map_totalDurationUs_window times factor, hnil] at hw
    exact hw rfl
  have hbounds := hs.average_bounds hne
  rwa [map_totalDurationUs_window, length_cycles_window] at hbounds

theorem getNumOfMissedCycles (h : Tracks times k factor xs r) :
    r.getNumOfMissedCycles = (window k xs).countP (Report.missed times factor) := by
  obtain ⟨lo, hs⟩ := h.slides
  have hcount := congrArg (List.countP id) (map_isMissedCycle_window times factor k xs)
  rw [List.countP_map, List.countP_map] at hcount
  rw [SessionRecords.getNumOfMissedCycles, hs.missed]
  exact congrArg Int.ofNat hcount

end Tracks

/-! ### What the class reports -/

/-- The indices at which a round of the loop reads or writes a record: that of the record it removes,
that of the record it writes, and those in the queue. -/
def roundIndices (r : SessionRecords) : List ℤ :=
  (if r.kMaxNumOfRecords ≤ r.mNumOfFrames then [r.nextIndex] else []) ++
    r.removeOldest.nextIndex :: r.removeOldest.mRecordsIndQueue

/-- The indices at which `isLowFrameRate` reads a record. -/
def lowRateIndices (r : SessionRecords) : List ℤ :=
  if 3 ≤ r.mNumOfFrames then
    [r.mLatestRecordIndex, r.indexBefore r.mLatestRecordIndex,
      r.indexBefore (r.indexBefore r.mLatestRecordIndex)]
  else []

/-- Every index that is used is one of the ring. -/
theorem Slides.indices {k lo : ℕ} {w : List CycleRecord} {r : SessionRecords}
    (h : Slides k factor lo w r) (hk : 0 < k) (hk' : k < 2 ^ 31) :
    ∀ i ∈ r.roundIndices ++ r.lowRateIndices ++ r.mRecordsIndQueue, 0 ≤ i ∧ i < k := by
  have hring : ∀ n : ℕ, (0 : ℤ) ≤ ((n % k : ℕ) : ℤ) ∧ ((n % k : ℕ) : ℤ) < k :=
    fun n => ⟨Int.natCast_nonneg _, Int.ofNat_lt.2 (Nat.mod_lt n hk)⟩
  have hqueue : ∀ {lo' : ℕ} {w' : List CycleRecord} {r' : SessionRecords}, Slides k factor lo' w' r' →
      ∀ i ∈ r'.mRecordsIndQueue, 0 ≤ i ∧ i < k := by
    intro lo' w' r' h' i hi
    rw [h'.queue] at hi
    obtain ⟨p, -, rfl⟩ := List.mem_map.1 hi
    exact hring p.1
  obtain ⟨-, lo', h'⟩ := h.makeRoom hk hk'
  intro i hi
  rcases List.mem_append.1 hi with hi | hi
  · rcases List.mem_append.1 hi with hi | hi
    · rcases List.mem_append.1 hi with hi | hi
      · split at hi
        · rw [List.mem_singleton.1 hi, h.nextIndex]
          exact hring _
        · cases hi
      · rcases List.mem_cons.1 hi with rfl | hi
        · rw [h'.nextIndex]
          exact hring _
        · exact hqueue h' i hi
    · unfold lowRateIndices at hi
      rw [h.frames] at hi
      split at hi
      · rename_i hthree
        obtain ⟨h₁, h₂, h₃⟩ := h.lastThree hk (by omega)
        rw [h₁] at h₂
        rw [h₁, h₂] at h₃
        simp only [h₁, h₂, h₃, List.mem_cons, List.not_mem_nil, or_false] at hi
        rcases hi with rfl | rfl | rfl <;> exact hring _
      · cases hi
  · exact hqueue h i hi

end Adpf.SessionRecords

namespace Adpf

open SessionRecords Sliding

/-- **The records of a session are a sliding window.**  For every capacity, factor and list of batches,
with `w` the last `k` reported durations: the number of records is the length of `w`; the longest
duration is the maximum of `w`, and the average its sum divided by its length, truncated, an `int32_t`;
both are there exactly if `w` is not empty; the number of missed cycles is that of the reports among the
last `k` that exceeded the target of their own batch times the factor; the frame rate is low exactly if
there are three records and the start intervals of the last three are all at least a cycle of the
threshold.  The front of the queue is only looked at when there is one, and every index at which a
record is read or written is one of the ring. -/
theorem session_records_window (times : ℤ → ℚ → ℚ) (k : ℕ) (hk : 1 ≤ k) (hk' : k < 2 ^ 31) (factor : ℚ)
    (batches : List (List WorkDuration × ℤ)) :
    ∃ r xs w, after times k factor batches = r ∧ reports batches = xs ∧
      window k (xs.map Report.durationUs) = w ∧
      r.getNumOfRecords = w.length ∧
      r.getMaxDuration = w.max? ∧
      r.getAvgDuration = (if w = [] then none else some (Int.tdiv w.sum w.length)) ∧
      (w ≠ [] → -2 ^ 31 ≤ Int.tdiv w.sum w.length ∧ Int.tdiv w.sum w.length < 2 ^ 31) ∧
      r.getNumOfMissedCycles = (window k xs).countP (Report.missed times factor) ∧
      (∀ fps : ℤ, 0 < fps → (r.isLowFrameRate fps = true ↔ 3 ≤ w.length ∧
        ∀ u ∈ window 3 (intervals none xs), (1000000 : ℚ) / (fps : ℚ) ≤ (u : ℚ))) ∧
      (r.kMaxNumOfRecords ≤ r.mNumOfFrames → r.mRecordsIndQueue ≠ []) ∧
      r.mRecords.length = k ∧
      ∀ i ∈ r.roundIndices ++ r.lowRateIndices ++ r.mRecordsIndQueue, 0 ≤ i ∧ i < k := by
  have htracks := tracks_after times hk hk' factor batches
  obtain ⟨lo, hs⟩ := htracks.slides
  refine ⟨_, _, _, rfl, rfl, rfl, htracks.getNumOfRecords, htracks.getMaxDuration,
    htracks.getAvgDuration, htracks.average_bounds, htracks.getNumOfMissedCycles, ?_, ?_,
    hs.holds.size, hs.indices hk hk'⟩
  · intro fps hfps
    rw [hs.isLowFrameRate_iff hk hfps, ← length_cycles_window times factor]
    refine and_congr_right fun hthree => ?_
    rw [← map_startIntervalUs_lastThree hthree]
    simp only [List.mem_map, forall_exists_index, and_imp, forall_apply_eq_imp_iff₂]
  · intro hfull
    rw [hs.capacity, hs.frames] at hfull
    refine hs.queue_ne_nil (List.ne_nil_of_length_pos ?_)
    omega

/-- The batches of the test `addReportedDurations`, in milliseconds, each with a target of 3 ms. -/
def testBatches : List (List WorkDuration × ℤ) :=
  [[3, 4, 3, 2], [2, 1, 2], [10, 2, 9, 8, 4, 5, 7, 6]].map fun ms =>
    (ms.map fun d => { timeStampNanos := 0, durationNanos := d * 1000000 }, 3000000)

theorem session_records_window_test :
    (after exactTimes 5 (3 / 2) testBatches).getMaxDuration = some 8000 ∧
      (after exactTimes 5 (3 / 2) testBatches).getAvgDuration = some 6000 := by
  obtain ⟨r, xs, w, hr, hxs, hw, -, hmax, havg, -⟩ :=
    session_records_window exactTimes 5 (by decide) (by decide) (3 / 2) testBatches
  have hlast : w = [8000, 4000, 5000, 7000, 6000] := by
    rw [← hw, ← hxs]
    decide
  rw [hr, hmax, havg, hlast]
  decide

end Adpf
