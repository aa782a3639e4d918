/-
**The ADPF profile** (`perfmgr/AdpfConfig.h`, as the sources of this repository use it).

A profile holds the tuning parameters of the hint sessions.  One profile is in force at a time, and
`PowerSessionManager::updateHintMode` selects another one by name.  The optional parameters of the
heuristic boost are only read while it is on, and a profile that turns it on sets them all; the
structure carries that as `heuristicParams`, so the `value()` calls on them are total here.

Main definitions:

* `Adpf.AdpfConfig` — the parameters that the session code reads;
* `Adpf.AdpfConfig.heuristicBoostOn` — whether the heuristic boost is on;
* `Adpf.makeMockConfig` — the profile of the repository's own tests.
-/

import Mathlib.Algebra.Order.Ring.Unbundled.Rat
import MotoCommon.AdpfTypes

set_option autoImplicit false

namespace Adpf

/-- The product of an integer and a `double` without rounding. -/
def exactTimes (n : ℤ) (q : ℚ) : ℚ := n * q

structure AdpfConfig where
  mName : String
  mPidOn : Bool
  mPidPo : ℚ
  mPidPu : ℚ
  mPidI : ℚ
  /-- `getPidIHighDivI()`. -/
  pidIHighDivI : ℤ
  /-- `getPidILowDivI()`. -/
  pidILowDivI : ℤ
  mPidDo : ℚ
  mPidDu : ℚ
  mUclampMinOn : Bool
  mUclampMinInit : ℤ
  mUclampMinHigh : ℤ
  mUclampMinLow : ℤ
  mSamplingWindowP : ℕ
  mSamplingWindowI : ℕ
  mSamplingWindowD : ℕ
  mReportingRateLimitNs : ℤ
  mTargetTimeFactor : ℚ
  mStaleTimeFactor : ℚ
  mGpuBoostOn : Option Bool
  mGpuBoostCapacityMax : Option ℤ
  mGpuCapacityLoadUpHeadroom : ℤ
  mHeuristicBoostOn : Option Bool
  mHBoostOnMissedCycles : Option ℤ
  mHBoostOffMaxAvgRatio : Option ℚ
  mHBoostOffMissedCycles : Option ℤ
  mHBoostPidPuFactor : Option ℚ
  mHBoostUclampMin : Option ℤ
  mJankCheckTimeFactor : Option ℚ
  mLowFrameRateThreshold : Option ℤ
  mMaxRecordsNum : Option ℤ
  mUclampMinLoadUp : ℤ
  mUclampMinLoadReset : ℤ
  mUclampMaxEfficientBase : Option ℤ
  mUclampMaxEfficientOffset : Option ℤ
  /-- A profile with the heuristic boost has all its parameters. -/
  heuristicParams : mHeuristicBoostOn = some true →
    mHBoostOnMissedCycles.isSome ∧ mHBoostOffMaxAvgRatio.isSome ∧ mHBoostOffMissedCycles.isSome ∧
      mHBoostPidPuFactor.isSome ∧ mHBoostUclampMin.isSome ∧ mJankCheckTimeFactor.isSome ∧
      mLowFrameRateThreshold.isSome ∧ mMaxRecordsNum.isSome

/-- `mHeuristicBoostOn.has_value() && mHeuristicBoostOn.value()`. -/
def AdpfConfig.heuristicBoostOn (c : AdpfConfig) : Bool := c.mHeuristicBoostOn.getD false

/-- `makeMockConfig` of `tests/TestHelper.cpp`. -/
def makeMockConfig : AdpfConfig where
  mName := "REFRESH_60FPS"
  mPidOn := true
  mPidPo := 2
  mPidPu := 1
  mPidI := 0
  pidIHighDivI := 0
  pidILowDivI := 0
  mPidDo := 500
  mPidDu := 0
  mUclampMinOn := true
  mUclampMinInit := 162
  mUclampMinHigh := 480
  mUclampMinLow := 2
  mSamplingWindowP := 1
  mSamplingWindowI := 0
  mSamplingWindowD := 1
  mReportingRateLimitNs := 166666660
  mTargetTimeFactor := 1
  mStaleTimeFactor := 15
  mGpuBoostOn := some true
  mGpuBoostCapacityMax := some 25000
  mGpuCapacityLoadUpHeadroom := 0
  mHeuristicBoostOn := some true
  mHBoostOnMissedCycles := some 8
  mHBoostOffMaxAvgRatio := some 4
  mHBoostOffMissedCycles := some 5
  mHBoostPidPuFactor := some (1 / 2)
  mHBoostUclampMin := some 722
  mJankCheckTimeFactor := some (6 / 5)
  mLowFrameRateThreshold := some 25
  mMaxRecordsNum := some 300
  mUclampMinLoadUp := 480
  mUclampMinLoadReset := 480
  mUclampMaxEfficientBase := some 500
  mUclampMaxEfficientOffset := some 200
  heuristicParams := fun _ => by simp

end Adpf
