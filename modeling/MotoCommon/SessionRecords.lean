/-
**The records of a session's latest cycles** (`SessionRecords.h`, `SessionRecords.cpp`).

A session keeps the durations of its latest cycles in a circular buffer, with a running sum, the
number of missed cycles, and a queue of indices in which the durations descend, so that the longest
duration is at the front.

Whether a cycle was missed depends on a product of two `double`s.  How the machine rounds it is not
modelled: the product is a parameter, `times`.  The other `double` here is the quotient that a start
interval is compared with; it is an exact rational number, and since it is compared with an integer and
its divisor is an `int`, its rounding would make no difference.

Main definitions:

* `Adpf.SessionRecords`, its constructor `Adpf.SessionRecords.make`, and its operations under their
  own names;
* `Adpf.SessionRecords.addReportedDuration` — one round of the loop of `addReportedDurations`, which
  is cut at the removal of the oldest record, `Adpf.SessionRecords.removeOldest`.
-/

import MotoCommon.AdpfConfig

set_option autoImplicit false

namespace Adpf

/-- `SessionRecords::CycleRecord`. -/
structure CycleRecord where
  startIntervalUs : ℤ := 0
  totalDurationUs : ℤ := 0
  isMissedCycle : Bool := false
  deriving DecidableEq, Repr, Inhabited

structure SessionRecords where
  kMaxNumOfRecords : ℤ
  kJankCheckTimeFactor : ℚ
  mRecords : List CycleRecord
  mRecordsIndQueue : List ℤ := []
  mAvgDurationUs : ℤ := 0
  mLastStartTimeNs : ℤ := 0
  mLatestRecordIndex : ℤ := -1
  mNumOfMissedCycles : ℤ := 0
  mNumOfFrames : ℤ := 0
  mSumOfDurationsUs : ℤ := 0
  deriving DecidableEq, Repr

namespace SessionRecords

/-- The constructor. -/
def make (maxNumOfRecords : ℤ) (jankCheckTimeFactor : ℚ) : SessionRecords where
  kMaxNumOfRecords := maxNumOfRecords
  kJankCheckTimeFactor := jankCheckTimeFactor
  mRecords := List.replicate maxNumOfRecords.toNat {}

/-- `mRecords[index]`. -/
def recordAt (r : SessionRecords) (index : ℤ) : CycleRecord := r.mRecords.getD index.toNat {}

/-- `(mLatestRecordIndex + 1) % kMaxNumOfRecords`. -/
def nextIndex (r : SessionRecords) : ℤ := Int.tmod (r.mLatestRecordIndex + 1) r.kMaxNumOfRecords

/-- The removal of the oldest record, when the buffer is full. -/
def removeOldest (r : SessionRecords) : SessionRecords :=
  if r.kMaxNumOfRecords ≤ r.mNumOfFrames then
    let indexOfRecordToRemove := r.nextIndex
    { r with
      mSumOfDurationsUs :=
        toInt64 (r.mSumOfDurationsUs - (r.recordAt indexOfRecordToRemove).totalDurationUs)
      mNumOfMissedCycles :=
        if (r.recordAt indexOfRecordToRemove).isMissedCycle then r.mNumOfMissedCycles - 1
        else r.mNumOfMissedCycles
      mNumOfFrames := r.mNumOfFrames - 1
      -- a later cycle that was not shorter may have pushed this index out already
      mRecordsIndQueue :=
        if r.mRecordsIndQueue.head? = some indexOfRecordToRemove then r.mRecordsIndQueue.tail
        else r.mRecordsIndQueue }
  else r

/-- The loop that pops from the back of the queue the indices whose durations are not greater than
the latest one. -/
def popSmaller (r : SessionRecords) (totalDurationUs : ℤ) : List ℤ :=
  (r.mRecordsIndQueue.reverse.dropWhile fun i =>
    decide ((r.recordAt i).totalDurationUs ≤ totalDurationUs)).reverse

/-- One round of the loop of `addReportedDurations`. -/
def addReportedDuration (times : ℤ → ℚ → ℚ) (targetDurationNs : ℤ) (r : SessionRecords)
    (duration : WorkDuration) : SessionRecords :=
  let totalDurationUs := toInt32 (Int.tdiv duration.durationNanos 1000)
  let r := r.removeOldest
  let mLatestRecordIndex := r.nextIndex
  let startTimeNs := toInt64 (duration.timeStampNanos - duration.durationNanos)
  -- counted after the removal: with room for one record there is never a cycle to compare with
  let startIntervalUs :=
    if 0 < r.mNumOfFrames then toInt32 (Int.tdiv (toInt64 (startTimeNs - r.mLastStartTimeNs)) 1000)
    else 0
  let cycleMissed :=
    decide (times (Int.tdiv targetDurationNs 1000) r.kJankCheckTimeFactor < (totalDurationUs : ℚ))
  let r := { r with
    mLatestRecordIndex := mLatestRecordIndex
    mLastStartTimeNs := startTimeNs
    mRecords := r.mRecords.set mLatestRecordIndex.toNat
      ⟨startIntervalUs, totalDurationUs, cycleMissed⟩
    mNumOfFrames := r.mNumOfFrames + 1
    mNumOfMissedCycles := if cycleMissed then r.mNumOfMissedCycles + 1 else r.mNumOfMissedCycles }
  let mSumOfDurationsUs := toInt64 (r.mSumOfDurationsUs + totalDurationUs)
  { r with
    mRecordsIndQueue := r.popSmaller totalDurationUs ++ [mLatestRecordIndex]
    mSumOfDurationsUs := mSumOfDurationsUs
    mAvgDurationUs := toInt32 (Int.tdiv mSumOfDurationsUs r.mNumOfFrames) }

/-- A batch of reports, all against one target. -/
def addReportedDurations (times : ℤ → ℚ → ℚ) (r : SessionRecords)
    (actualDurationsNs : List WorkDuration) (targetDurationNs : ℤ) : SessionRecords :=
  actualDurationsNs.foldl (addReportedDuration times targetDurationNs) r

def getMaxDuration (r : SessionRecords) : Option ℤ :=
  r.mRecordsIndQueue.head?.map fun i => (r.recordAt i).totalDurationUs

def getAvgDuration (r : SessionRecords) : Option ℤ :=
  if r.mNumOfFrames ≤ 0 then none else some r.mAvgDurationUs

def getNumOfRecords (r : SessionRecords) : ℤ := r.mNumOfFrames

def getNumOfMissedCycles (r : SessionRecords) : ℤ := r.mNumOfMissedCycles

/-- The comparison of a start interval with `1000000.0 / fpsLowRateThreshold`, which is infinite for
a threshold of zero. -/
def slowStart (fpsLowRateThreshold : ℤ) (c : CycleRecord) : Bool :=
  fpsLowRateThreshold ≠ 0 &&
    decide ((1000000 : ℚ) / (fpsLowRateThreshold : ℚ) ≤ (c.startIntervalUs : ℚ))

/-- `isLowFrameRate`: the last three cycles all started late. -/
def isLowFrameRate (r : SessionRecords) (fpsLowRateThreshold : ℤ) : Bool :=
  if 3 ≤ r.mNumOfFrames then
    let ind1 := r.mLatestRecordIndex
    -- backwards around the ring
    let ind2 := if ind1 = 0 then r.kMaxNumOfRecords - 1 else ind1 - 1
    let ind3 := if ind2 = 0 then r.kMaxNumOfRecords - 1 else ind2 - 1
    slowStart fpsLowRateThreshold (r.recordAt ind1) &&
      slowStart fpsLowRateThreshold (r.recordAt ind2) &&
      slowStart fpsLowRateThreshold (r.recordAt ind3)
  else false

end SessionRecords

end Adpf
