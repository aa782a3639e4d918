/-
**A hint session** (`PowerHintSession.h`, `PowerHintSession.cpp`).

A client reports how long its cycles took, and the session turns the reports into votes for the
clamps of its threads: a PID controller moves `pidControlVariable`, a heuristic raises the ceiling
after missed cycles, and hints add votes of their own.  Every operation runs under the lock of its
session, calls the manager of `MotoCommon/PowerSessionManager.lean`, and returns a status.

The `double`s of this module are rational numbers, and their arithmetic is exact: how the machine rounds
the outputs of the controller, a scaled duration or the quotient of two durations is not modelled.  The
results do not depend on it.  An output of the controller goes into a clamp, whatever it is, and a
scaled duration is only compared with one that was scaled in the same way.

Main definitions:

* `Adpf.convertWorkDurationToBoostByPid`, `Adpf.heuristicBoost` — the controller and the heuristic,
  as functions of the profile and the session;
* the operations of the class, under their own names;
* `Adpf.SessionOp`, `Adpf.ManagerOp`, `Adpf.Op` — all the operations of the service, with the
  programs they run;
* `Adpf.Runs` — the states that operations, executed one at a time, lead to.
-/

import MotoCommon.GpuCalculationHelpers
import MotoCommon.PowerSessionManager

set_option autoImplicit false

namespace Adpf

open Conc

/-! ### The controller -/

def ns_to_100us (ns : ℤ) : ℤ := Int.tdiv ns 100000

/-- The first sample of a window over `length` samples; a window of zero is as long as they are. -/
def windowStart (samplingWindow length : ℕ) : ℕ :=
  if samplingWindow = 0 ∨ length < samplingWindow then 0 else length - samplingWindow

/-- The sums of the loop of `convertWorkDurationToBoostByPid`. -/
structure PidSums where
  err_sum : ℤ := 0
  derivative_sum : ℤ := 0
  integral_error : ℤ
  previous_error : ℤ
  deriving DecidableEq, Repr

/-- One round of that loop, for sample `i`.  Its arithmetic is that of the exact integers. -/
def pidStep (adpfConfig : AdpfConfig) (targetDurationNanos : ℤ) (p_start i_start d_start : ℕ)
    (s : PidSums) (sample : WorkDuration × ℕ) : PidSums :=
  let i := sample.2
  let error := ns_to_100us (sample.1.durationNanos - targetDurationNanos)
  { derivative_sum :=
      if d_start ≤ i then s.derivative_sum + (error - s.previous_error) else s.derivative_sum
    err_sum := if p_start ≤ i then s.err_sum + error else s.err_sum
    integral_error :=
      if i_start ≤ i then
        max adpfConfig.pidILowDivI
          (min adpfConfig.pidIHighDivI
            (s.integral_error + error * ns_to_100us targetDurationNanos))
      else s.integral_error
    previous_error := error }

/-- The whole loop. -/
def pidLoop (adpfConfig : AdpfConfig) (desc : AppHintDesc) (actualDurations : List WorkDuration) :
    PidSums :=
  let p_start := windowStart adpfConfig.mSamplingWindowP actualDurations.length
  let i_start := windowStart adpfConfig.mSamplingWindowI actualDurations.length
  let d_start := windowStart adpfConfig.mSamplingWindowD actualDurations.length
  (actualDurations.zipIdx.drop (min p_start (min i_start d_start))).foldl
    (pidStep adpfConfig desc.targetNs p_start i_start d_start)
    { integral_error := desc.integral_error, previous_error := desc.previous_error }

/-- `convertWorkDurationToBoostByPid`: the output, and the descriptor with the new errors. -/
def convertWorkDurationToBoostByPid (adpfConfig : AdpfConfig) (heuristicBoostActive : Bool)
    (desc : AppHintDesc) (actualDurations : List WorkDuration) : ℤ × AppHintDesc :=
  let length := actualDurations.length
  let p_start := windowStart adpfConfig.mSamplingWindowP length
  let d_start := windowStart adpfConfig.mSamplingWindowD length
  let dt := ns_to_100us desc.targetNs
  let sums := pidLoop adpfConfig desc actualDurations
  let pid_pu_active :=
    if adpfConfig.heuristicBoostOn && heuristicBoostActive then
      adpfConfig.mPidPu * adpfConfig.mHBoostPidPuFactor.getD 1
    else adpfConfig.mPidPu
  let pOut := truncate ((if 0 < sums.err_sum then adpfConfig.mPidPo else pid_pu_active) *
    (sums.err_sum : ℚ) / ((length - p_start : ℕ) : ℚ))
  let iOut := truncate (adpfConfig.mPidI * (sums.integral_error : ℚ))
  let dOut := truncate ((if 0 < sums.derivative_sum then adpfConfig.mPidDo else adpfConfig.mPidDu) *
    (sums.derivative_sum : ℚ) / (dt : ℚ) / ((length - d_start : ℕ) : ℚ))
  (pOut + iOut + dOut,
    { desc with integral_error := sums.integral_error, previous_error := sums.previous_error })

/-- `updateHeuristicBoost`: the next value of `mHeuristicBoostActive`.  The quotient of the two
durations is one of integers. -/
def heuristicBoost (adpfConfig : AdpfConfig) (records : SessionRecords) (targetNs : ℤ)
    (heuristicBoostActive : Bool) : Bool :=
  match records.getMaxDuration, records.getAvgDuration with
  | some maxDurationUs, some avgDurationUs =>
      let maxToAvgRatio : ℚ :=
        if records.getNumOfRecords ≤ 0 then
          (maxDurationUs : ℚ) / ((Int.tdiv targetNs 1000 : ℤ) : ℚ)
        else ((Int.tdiv maxDurationUs avgDurationUs : ℤ) : ℚ)
      if records.isLowFrameRate (adpfConfig.mLowFrameRateThreshold.getD 0) then false
      else if adpfConfig.mHBoostOnMissedCycles.getD 0 ≤ records.getNumOfMissedCycles then true
      else if records.getNumOfMissedCycles ≤ adpfConfig.mHBoostOffMissedCycles.getD 0 ∧
          maxToAvgRatio < adpfConfig.mHBoostOffMaxAvgRatio.getD 0 then false
      else heuristicBoostActive
  | _, _ => heuristicBoostActive

/-- `next_min` of `reportActualWorkDuration`. -/
def nextMin (adpfConfig : AdpfConfig) (heuristicBoostActive : Bool)
    (pidControlVariable output : ℤ) : ℤ :=
  let uclampMinCeiling :=
    if adpfConfig.heuristicBoostOn && heuristicBoostActive then adpfConfig.mHBoostUclampMin.getD 0
    else adpfConfig.mUclampMinHigh
  let next_min := min (toInt32 uclampMinCeiling) (toInt32 (pidControlVariable + toInt32 output))
  max (toInt32 adpfConfig.mUclampMinLow) next_min

/-- `duration_cast<nanoseconds>(targetNs * factor)`. -/
def scaleNanos (targetNs : ℤ) (factor : ℚ) : ℤ := toInt64 (truncate ((targetNs : ℚ) * factor))

/-! ### Actions of a session -/

namespace World

/-- The constructor's initialisers: the next session id is taken, and the members are set. -/
def newSession (tgid uid : ℤ) (threadIds : List ℤ) (durationNs : ℤ) (w : World) : ℤ × World :=
  let sid := w.sSessionIDCounter + 1
  let session : PowerHintSession :=
    { mDescriptor :=
        { sessionId := sid, tgid := tgid, uid := uid, targetNs := durationNs,
          thread_ids := threadIds }
      mSessionRecords :=
        if w.adpfConfig.heuristicBoostOn then
          some (SessionRecords.make (w.adpfConfig.mMaxRecordsNum.getD 0)
            (w.adpfConfig.mJankCheckTimeFactor.getD 0))
        else none }
  (sid, { w with
    sSessionIDCounter := sid
    sessions := Function.update w.sessions sid session })

/-- Change the descriptor of a session. -/
def modifyDescriptor (sessionId : ℤ) (f : AppHintDesc → AppHintDesc) (w : World) : World :=
  w.modifySession sessionId fun s => { s with mDescriptor := f s.mDescriptor }

/-- `tryToSendPowerHint`. -/
def sendPowerHint (sessionId : ℤ) (hint : String) (w : World) : World :=
  let supported := ((w.sessions sessionId).mSupportedHints.lookup hint).getD
    (w.env.isHintSupported hint)
  let w := w.modifySession sessionId fun s =>
    { s with mSupportedHints := s.mSupportedHints.insert hint supported }
  if supported then { w with hintCalls := .doHint hint :: w.hintCalls } else w

/-- Use the records of a session: `mSessionRecords->...`. -/
def withRecords (sessionId : ℤ) (f : SessionRecords → PowerHintSession → PowerHintSession)
    (w : World) : World :=
  match (w.sessions sessionId).mSessionRecords with
  | none => { w with faults := .sessionRecords :: w.faults }
  | some records => w.modifySession sessionId (f records)

theorem withRecords_eq (sessionId : ℤ) (f : SessionRecords → PowerHintSession → PowerHintSession)
    (w : World) :
    ∃ sessions faults, w.withRecords sessionId f =
      { w with sessions := sessions, faults := faults } := by
  unfold withRecords
  split
  · exact ⟨w.sessions, _, rfl⟩
  · exact ⟨_, w.faults, rfl⟩

/-- `convertWorkDurationToBoostByPid`, which keeps the new errors in the descriptor. -/
def convertSection (sessionId : ℤ) (actualDurations : List WorkDuration) (w : World) : ℤ × World :=
  let s := w.sessions sessionId
  let r := convertWorkDurationToBoostByPid w.adpfConfig s.mHeuristicBoostActive s.mDescriptor
    actualDurations
  (r.1, w.modifyDescriptor sessionId fun _ => r.2)

end World

/-! ### The operations -/

namespace PowerHintSession

open World

/-- The session object. -/
def self (sessionId : ℤ) : P PowerHintSession := Prog.read fun w => w.sessions sessionId

/-- `HintManagerT::GetInstance()->GetAdpfProfile()`. -/
def getAdpfProfile : P AdpfConfig := Prog.read World.adpfConfig

/-- `mLastUpdatedTime = std::chrono::steady_clock::now()`. -/
def touchSession (sessionId : ℤ) : P Unit := do
  let t ← now
  Prog.modify (modifySession sessionId fun s => { s with mLastUpdatedTime := t })

/-- The constructor, which returns the id of the session. -/
def create (tgid uid : ℤ) (threadIds : List ℤ) (durationNs : ℤ) : P ℤ := do
  let sid ← Prog.atomic (newSession tgid uid threadIds durationNs)
  touchSession sid
  let s ← self sid
  -- from here on the manager knows the session, whose lock the constructor never takes
  PowerSessionManager.addPowerSession (some s.mDescriptor) threadIds
  let adpfConfig ← getAdpfProfile
  let t ← now
  PowerSessionManager.voteSet sid .CPU_LOAD_RESET (toInt32 adpfConfig.mUclampMinLoadReset) kUclampMax
    t (scaleNanos s.mDescriptor.targetNs (adpfConfig.mStaleTimeFactor / 2))
  let t ← now
  PowerSessionManager.voteSet sid .CPU_VOTE_DEFAULT (toInt32 adpfConfig.mUclampMinInit) kUclampMax
    t s.mDescriptor.targetNs
  pure sid

def isAppSession (s : PowerHintSession) : Bool := decide (AID_APP_START ≤ s.mDescriptor.uid)

def isTimeout (sessionId : ℤ) : P Bool := do
  let t ← now
  let s ← self sessionId
  let adpfConfig ← getAdpfProfile
  let staleTime := addNanos s.mLastUpdatedTime
    (scaleNanos s.mDescriptor.targetNs adpfConfig.mStaleTimeFactor)
  pure (decide (staleTime ≤ t))

/-- The vote that `updatePidControlVariable` sets. -/
def voteControlVariable (sessionId pidControlVariable : ℤ) : P Unit := do
  let adpfConfig ← getAdpfProfile
  let s ← self sessionId
  let t ← now
  PowerSessionManager.voteSet sessionId .CPU_VOTE_DEFAULT pidControlVariable kUclampMax t
    (max (scaleNanos s.mDescriptor.targetNs adpfConfig.mStaleTimeFactor)
      (toInt64 (adpfConfig.mReportingRateLimitNs * 2)))

def updatePidControlVariable (sessionId pidControlVariable : ℤ) (updateVote : Bool) : P Unit := do
  Prog.modify (modifyDescriptor sessionId fun d => { d with pidControlVariable := pidControlVariable })
  Prog.when updateVote (voteControlVariable sessionId pidControlVariable)

def tryToSendPowerHint (sessionId : ℤ) (hint : String) : P Unit :=
  Prog.modify (sendPowerHint sessionId hint)

/-- An operation on a session: it runs under the session's lock and is refused once the session is
closed. -/
def whileOpen (sessionId : ℤ) (p : PowerHintSession → P Status) : P Status :=
  Prog.critical (.mPowerHintSessionLock sessionId) do
    let s ← self sessionId
    if s.mSessionClosed then pure .illegalState else p s

def pause (sessionId : ℤ) : P Status :=
  whileOpen sessionId fun s =>
    if s.mDescriptor.is_active then do
      PowerSessionManager.setThreadsFromPowerSession sessionId []
      Prog.modify (modifyDescriptor sessionId fun d => { d with is_active := false })
      PowerSessionManager.pause sessionId
      pure .ok
    else pure .illegalState

def resume (sessionId : ℤ) : P Status :=
  whileOpen sessionId fun s =>
    if s.mDescriptor.is_active then pure .illegalState
    else do
      PowerSessionManager.setThreadsFromPowerSession sessionId s.mDescriptor.thread_ids
      Prog.modify (modifyDescriptor sessionId fun d => { d with is_active := true })
      PowerSessionManager.resume sessionId
      pure .ok

def close (sessionId : ℤ) : P Status :=
  whileOpen sessionId fun _ => do
    Prog.modify (modifySession sessionId fun s => { s with mSessionClosed := true })
    PowerSessionManager.removePowerSession sessionId
    Prog.modify (modifyDescriptor sessionId fun d => { d with is_active := false })
    pure .ok

/-- The destructor. -/
def destroy (sessionId : ℤ) : P Status := do
  let status ← close sessionId
  Prog.modify (modifySession sessionId fun s => { s with destroyed := true })
  pure status

def updateTargetWorkDuration (sessionId targetDurationNanos : ℤ) : P Status :=
  whileOpen sessionId fun _ =>
    if targetDurationNanos ≤ 0 then pure .illegalArgument
    else do
      let adpfConfig ← getAdpfProfile
      let targetNs := scaleNanos targetDurationNanos adpfConfig.mTargetTimeFactor
      Prog.modify (modifyDescriptor sessionId fun d => { d with targetNs := targetNs })
      PowerSessionManager.updateTargetWorkDuration sessionId .CPU_VOTE_DEFAULT targetNs
      pure .ok

def updateHeuristicBoost (sessionId : ℤ) : P Unit := do
  let adpfConfig ← getAdpfProfile
  Prog.modify (withRecords sessionId fun records s =>
    { s with
      mHeuristicBoostActive :=
        heuristicBoost adpfConfig records s.mDescriptor.targetNs s.mHeuristicBoostActive })

/-- What `reportActualWorkDuration` does about the first frame after a while. -/
def firstFrame (sessionId : ℤ) : P Unit := do
  let s ← self sessionId
  Prog.when (isAppSession s) (tryToSendPowerHint sessionId "ADPF_FIRST_FRAME")
  PowerSessionManager.updateUniversalBoostMode

/-- The first part of `reportActualWorkDuration` once the report is accepted: the bookkeeping, what
a first frame asks for, and the end of the boosts. -/
def beginReport (sessionId : ℤ) : P Unit := do
  Prog.modify (modifyDescriptor sessionId fun d => { d with update_count := d.update_count + 1 })
  let isFirstFrame ← isTimeout sessionId
  touchSession sessionId
  Prog.when isFirstFrame (firstFrame sessionId)
  PowerSessionManager.disableBoosts sessionId

/-- The reported durations go into the records, and the heuristic boost follows. -/
def recordDurations (sessionId : ℤ) (actualDurations : List WorkDuration) : P Unit := do
  let s ← self sessionId
  Prog.modify fun w => w.withRecords sessionId fun records s' =>
    { s' with
      mSessionRecords :=
        some (records.addReportedDurations w.env.times actualDurations s.mDescriptor.targetNs) }
  updateHeuristicBoost sessionId

/-- The part of `reportActualWorkDuration` about the CPU, with the controller on. -/
def reportCpu (sessionId : ℤ) (adpfConfig : AdpfConfig) (actualDurations : List WorkDuration) :
    P Unit := do
  Prog.when adpfConfig.heuristicBoostOn (recordDurations sessionId actualDurations)
  let output ← Prog.atomic (convertSection sessionId actualDurations)
  let s ← self sessionId
  updatePidControlVariable sessionId
    (nextMin adpfConfig s.mHeuristicBoostActive s.mDescriptor.pidControlVariable output) true

/-- The vote for a GPU capacity, at the frequency that was read. -/
def voteGpuCapacity (sessionId : ℤ) (adpfConfig : AdpfConfig) (capacityMax : ℤ)
    (back : WorkDuration) (gpu_freq : ℤ) : P Unit := do
  let s ← self sessionId
  let additional ← Prog.read fun w =>
    calculate_capacity w.env.undefinedConversion back s.mDescriptor.targetNs gpu_freq
  let t ← now
  PowerSessionManager.voteSetGpu sessionId .GPU_CAPACITY
    (max 0 (min additional (toInt32 capacityMax))) t
    (scaleNanos s.mDescriptor.targetNs adpfConfig.mStaleTimeFactor)

/-- The capacity limit, when `reportActualWorkDuration` is to vote for a capacity at all. -/
def gpuCapacityMax (adpfConfig : AdpfConfig) (back : WorkDuration) : Option ℤ :=
  if adpfConfig.mGpuBoostOn.getD false = true ∧ back.gpuDurationNanos ≠ 0 then
    adpfConfig.mGpuBoostCapacityMax
  else none

/-- The part of `reportActualWorkDuration` about the GPU. -/
def reportGpu (sessionId : ℤ) (adpfConfig : AdpfConfig) (back : WorkDuration) : P Unit :=
  match gpuCapacityMax adpfConfig back with
  | none => pure ()
  | some capacityMax => do
      let gpu_freq ← PowerSessionManager.gpuFrequency
      gpu_freq.elim (pure ()) (voteGpuCapacity sessionId adpfConfig capacityMax back)

/-- The votes that an accepted report leads to. -/
def reportVotes (sessionId : ℤ) (adpfConfig : AdpfConfig) (actualDurations : List WorkDuration)
    (back : WorkDuration) : P Unit :=
  if adpfConfig.mPidOn then do
    reportCpu sessionId adpfConfig actualDurations
    reportGpu sessionId adpfConfig back
  else updatePidControlVariable sessionId (toInt32 adpfConfig.mUclampMinHigh) true

/-- An accepted report. -/
def acceptReport (sessionId : ℤ) (actualDurations : List WorkDuration) (back : WorkDuration) :
    P Status := do
  let adpfConfig ← getAdpfProfile
  beginReport sessionId
  reportVotes sessionId adpfConfig actualDurations back
  pure .ok

def reportActualWorkDuration (sessionId : ℤ) (actualDurations : List WorkDuration) : P Status :=
  whileOpen sessionId fun s =>
    if s.mDescriptor.targetNs = 0 then pure .illegalState
    else
      match actualDurations.getLast? with
      | none => pure .illegalArgument
      | some back =>
          -- an inactive session is refused last, after the arguments are checked
          if s.mDescriptor.is_active then acceptReport sessionId actualDurations back
          else pure .illegalState

def setMode (sessionId : ℤ) (mode : SessionMode) (enabled : Bool) : P Status :=
  whileOpen sessionId fun _ =>
    match mode with
    | .unknown _ => pure .illegalArgument
    | .POWER_EFFICIENCY => do
        PowerSessionManager.setPreferPowerEfficiency sessionId enabled
        Prog.modify (modifySession sessionId fun s =>
          { s with mModes := Function.update s.mModes mode enabled })
        touchSession sessionId
        pure .ok

/-- The `switch` of `sendHint`, for the hints that it knows. -/
def sendHintVotes (sessionId : ℤ) (s : PowerHintSession) : SessionHint → P Unit
  | .CPU_LOAD_UP => do
      let adpfConfig ← getAdpfProfile
      updatePidControlVariable sessionId s.mDescriptor.pidControlVariable true
      let t ← now
      PowerSessionManager.voteSet sessionId .CPU_LOAD_UP (toInt32 adpfConfig.mUclampMinLoadUp)
        kUclampMax t (toInt64 (s.mDescriptor.targetNs * 2))
  | .CPU_LOAD_DOWN => do
      let adpfConfig ← getAdpfProfile
      updatePidControlVariable sessionId (toInt32 adpfConfig.mUclampMinLow) true
  | .CPU_LOAD_RESET => do
      let adpfConfig ← getAdpfProfile
      updatePidControlVariable sessionId
        -- the maximum of unsigned values: a negative control variable counts as a large one
        (toInt32 (max adpfConfig.mUclampMinInit (toUInt32 s.mDescriptor.pidControlVariable))) false
      let t ← now
      PowerSessionManager.voteSet sessionId .CPU_LOAD_RESET
        (toInt32 adpfConfig.mUclampMinLoadReset) kUclampMax t
        (scaleNanos s.mDescriptor.targetNs (adpfConfig.mStaleTimeFactor / 2))
  | .CPU_LOAD_RESUME => do
      let adpfConfig ← getAdpfProfile
      let t ← now
      PowerSessionManager.voteSet sessionId .CPU_LOAD_RESUME s.mDescriptor.pidControlVariable
        kUclampMax t (scaleNanos s.mDescriptor.targetNs (adpfConfig.mStaleTimeFactor / 2))
  | .POWER_EFFICIENCY => do
      let _ ← setMode sessionId .POWER_EFFICIENCY true
  | .GPU_LOAD_UP => do
      let adpfConfig ← getAdpfProfile
      let t ← now
      PowerSessionManager.voteSetGpu sessionId .GPU_LOAD_UP
        (toInt32 adpfConfig.mGpuCapacityLoadUpHeadroom) t s.mDescriptor.targetNs
  | .GPU_LOAD_DOWN => pure ()
  | .GPU_LOAD_RESET => pure ()
  | .unknown _ => pure ()

/-- Whether the `switch` of `sendHint` has a case for a hint. -/
def knownHint : SessionHint → Bool
  | .unknown _ => false
  | _ => true

def sendHint (sessionId : ℤ) (hint : SessionHint) : P Status :=
  whileOpen sessionId fun s =>
    if s.mDescriptor.targetNs = 0 then pure .illegalState
    else if knownHint hint then do
      sendHintVotes sessionId s hint
      tryToSendPowerHint sessionId hint.toString
      touchSession sessionId
      pure .ok
    else pure .illegalArgument

def setThreads (sessionId : ℤ) (threadIds : List ℤ) : P Status :=
  whileOpen sessionId fun _ =>
    if threadIds.isEmpty then pure .illegalArgument
    else do
      Prog.modify (modifyDescriptor sessionId fun d => { d with thread_ids := threadIds })
      PowerSessionManager.setThreadsFromPowerSession sessionId threadIds
      let adpfConfig ← getAdpfProfile
      updatePidControlVariable sessionId (toInt32 adpfConfig.mUclampMinInit) true
      pure .ok

/-- `getSessionConfig`, which writes the id of the session to its result. -/
def getSessionConfig (_sessionId : ℤ) : P Status := pure .ok

/-- `dumpToStream`, of which only the lock and the reading of the clock matter. -/
def dumpToStream (sessionId : ℤ) : P Unit :=
  Prog.critical (.mPowerHintSessionLock sessionId) do
    let _ ← isTimeout sessionId

end PowerHintSession

/-! ### All the operations -/

/-- The operations on a session. -/
inductive SessionOp where
  | close
  | destroy
  | pause
  | resume
  | updateTargetWorkDuration (targetDurationNanos : ℤ)
  | reportActualWorkDuration (actualDurations : List WorkDuration)
  | sendHint (hint : SessionHint)
  | setMode (mode : SessionMode) (enabled : Bool)
  | setThreads (threadIds : List ℤ)
  | getSessionConfig

/-- The program of an operation on a session. -/
def SessionOp.prog (sessionId : ℤ) : SessionOp → P Status
  | close => PowerHintSession.close sessionId
  | destroy => PowerHintSession.destroy sessionId
  | pause => PowerHintSession.pause sessionId
  | resume => PowerHintSession.resume sessionId
  | updateTargetWorkDuration d => PowerHintSession.updateTargetWorkDuration sessionId d
  | reportActualWorkDuration ds => PowerHintSession.reportActualWorkDuration sessionId ds
  | sendHint hint => PowerHintSession.sendHint sessionId hint
  | setMode mode enabled => PowerHintSession.setMode sessionId mode enabled
  | setThreads tids => PowerHintSession.setThreads sessionId tids
  | getSessionConfig => PowerHintSession.getSessionConfig sessionId

/-- The operations of the manager. -/
inductive ManagerOp where
  | addPowerSession (desc : Option AppHintDesc) (threadIds : List ℤ)
  | removePowerSession (sessionId : ℤ)
  | setThreadsFromPowerSession (sessionId : ℤ) (threadIds : List ℤ)
  | pause (sessionId : ℤ)
  | resume (sessionId : ℤ)
  | updateTargetWorkDuration (sessionId : ℤ) (voteId : AdpfVoteType) (durationNs : ℤ)
  | voteSet (sessionId : ℤ) (voteId : AdpfVoteType) (uclampMin uclampMax startTime durationNs : ℤ)
  | voteSetGpu (sessionId : ℤ) (voteId : AdpfVoteType) (capacity startTime durationNs : ℤ)
  | disableBoosts (sessionId : ℤ)
  | setPreferPowerEfficiency (sessionId : ℤ) (enabled : Bool)
  | updateUniversalBoostMode
  | updateHintMode (mode : String) (enabled : Bool)
  | updateHintBoost (boost : String) (durationMs : ℤ)
  | getDisplayRefreshRate
  | gpuFrequency
  | registerSession (sessionId : ℤ)
  | unregisterSession (sessionId : ℤ)
  | getSession (sessionId : ℤ)
  | clear
  | dumpToFd

/-- Run a program for its effect. -/
def discard {α : Type} (p : P α) : P Unit := p.bind fun _ => pure ()

/-- The program of an operation of the manager. -/
def ManagerOp.prog : ManagerOp → P Unit
  | .addPowerSession desc tids => PowerSessionManager.addPowerSession desc tids
  | .removePowerSession s => PowerSessionManager.removePowerSession s
  | .setThreadsFromPowerSession s tids => PowerSessionManager.setThreadsFromPowerSession s tids
  | .pause s => PowerSessionManager.pause s
  | .resume s => PowerSessionManager.resume s
  | .updateTargetWorkDuration s v d => PowerSessionManager.updateTargetWorkDuration s v d
  | .voteSet s v lo hi t d => PowerSessionManager.voteSet s v lo hi t d
  | .voteSetGpu s v c t d => PowerSessionManager.voteSetGpu s v c t d
  | .disableBoosts s => PowerSessionManager.disableBoosts s
  | .setPreferPowerEfficiency s b => PowerSessionManager.setPreferPowerEfficiency s b
  | .updateUniversalBoostMode => PowerSessionManager.updateUniversalBoostMode
  | .updateHintMode mode b => PowerSessionManager.updateHintMode mode b
  | .updateHintBoost boost d => PowerSessionManager.updateHintBoost boost d
  | .getDisplayRefreshRate => discard PowerSessionManager.getDisplayRefreshRate
  | .gpuFrequency => discard PowerSessionManager.gpuFrequency
  | .registerSession s => PowerSessionManager.registerSession s
  | .unregisterSession s => PowerSessionManager.unregisterSession s
  | .getSession s => discard (PowerSessionManager.getSession s)
  | .clear => PowerSessionManager.clear
  | .dumpToFd => PowerSessionManager.dumpToFd

/-- The operations of the service, with those of the worker's thread: one round with the event at
index `i` of the queue. -/
inductive Op where
  | create (tgid uid : ℤ) (threadIds : List ℤ) (durationNs : ℤ)
  | session (sessionId : ℤ) (op : SessionOp)
  | dumpToStream (sessionId : ℤ)
  | manager (op : ManagerOp)
  | worker (i : ℕ)

/-- The program of an operation. -/
def Op.prog : Op → P Unit
  | create tgid uid tids d => discard (PowerHintSession.create tgid uid tids d)
  | session s op => discard (op.prog s)
  | dumpToStream s => PowerHintSession.dumpToStream s
  | manager op => op.prog
  | worker i => workerRound i

/-- The states that operations lead to from `w₀` when they are executed one at a time, each in a
state where `ok` allows it, and each to its end. -/
inductive Runs (ok : World → Op → Prop) (w₀ : World) : World → Prop
  | init : Runs ok w₀ w₀
  | step {w : World} (op : Op) : Runs ok w₀ w → ok w op → op.prog.returns [] w = true →
      Runs ok w₀ (op.prog.post w)

end Adpf
