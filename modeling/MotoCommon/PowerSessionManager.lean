/-
**The session manager** (`PowerSessionManager.h`, `PowerSessionManager.cpp`).

The manager holds the map of the sessions and their votes, and turns the votes into clamps of the
threads and a capacity of the GPU.  Each operation is a program of `MotoCommon/ConcProg.lean`: what
it does under `mSessionTaskMapMutex` is one action between a `lock` and an `unlock`, written as a
function on `Adpf.World` of its own, and the calls it makes without the lock come in their order.

Main definitions:

* `Adpf.World.sweep` — the loop of `applyUclampLocked` over a session's threads;
* `Adpf.World.voteSection`, `Adpf.World.expireSection` — the critical sections of `voteSet` and
  `handleEvent`;
* the operations of the class, under their own names, and `Adpf.workerRound`, one round of the loop
  of the thread that calls `handleEvent`.
-/

import MotoCommon.World

set_option autoImplicit false

namespace Adpf

open Conc

/-! ### Clamps and GPU capacity -/

/-- The bounds that `set_uclamp` puts on a range. -/
def clampRange (range : UclampRange) : UclampRange :=
  let uclampMin := min (max kUclampMin range.uclampMin) kUclampMax
  { uclampMin := uclampMin
    uclampMax := min (max range.uclampMax uclampMin) kUclampMax }

namespace World

/-- `set_uclamp`: the error it returns, and the call it made. -/
def set_uclamp (w : World) (tid : ℤ) (range : UclampRange) : ℤ × World :=
  let err := w.env.schedSetattr w.schedCalls.length tid
  (err, { w with schedCalls := ⟨tid, clampRange range, err⟩ :: w.schedCalls })

/-- The range that the sessions of a thread ask for, under the profile in force. -/
def taskRange (w : World) (tid timePoint : ℤ) : UclampRange :=
  w.mSessionTaskMap.getTaskVoteRange tid timePoint {} w.adpfConfig.mUclampMaxEfficientBase
    w.adpfConfig.mUclampMaxEfficientOffset

/-- The loop of `applyUclampLocked` from index `i` of the session's list of threads on, with the
threads that are still to come.  A thread that turns out to be dead is taken out of the map; the
list that is returned has what `removeDeadTaskSessionMap` said about each of these. -/
def sweep (sessionId timePoint : ℤ) : List ℤ → ℕ → World → List Bool × World
  | [], _, w => ([], w)
  | tid :: tids, i, w =>
      let (stat, w) := w.set_uclamp tid (w.taskRange tid timePoint)
      if stat = ESRCH then
        let (removed, m) := w.mSessionTaskMap.pruneTask sessionId tid i
        let (rest, w) := sweep sessionId timePoint tids i { w with mSessionTaskMap := m }
        (removed :: rest, w)
      else sweep sessionId timePoint tids (i + 1) w

/-- The sweep over all the threads of a session. -/
def sweepSession (sessionId timePoint : ℤ) (w : World) : List Bool × World :=
  sweep sessionId timePoint (w.mSessionTaskMap.getTaskIds sessionId) 0 w

/-- Write `lastUpdatedTime` of the value at `p`. -/
def touch (p : ℕ) (timePoint : ℤ) (w : World) : World :=
  w.modifyMap fun m => m.modifyVal p fun v => { v with lastUpdatedTime := timePoint }

def applyUclampLocked (sessionId timePoint : ℤ) (w : World) : World :=
  match w.mSessionTaskMap.findSession sessionId with
  | none => w
  | some p =>
      -- the time is noted also if the profile has no clamps
      let w := if w.adpfConfig.mUclampMinOn then (w.sweepSession sessionId timePoint).2 else w
      w.touch p timePoint

/-- `(*mGpuCapacityNode)->set_gpu_capacity(capacity)`. -/
def set_gpu_capacity (ptr : GpuNodePtr) (capacity : ℤ) (w : World) : World :=
  match ptr with
  | .null => { w with faults := .gpuCapacityNode :: w.faults }
  | .node => { w with gpuWrites := capacity :: w.gpuWrites }

/-- `applyGpuVotesLocked`.  The test of `mGpuBoostOn` asks whether it is set, not for its value. -/
def applyGpuVotesLocked (sessionId timePoint : ℤ) (w : World) : World :=
  match w.mSessionTaskMap.findSession sessionId with
  | none => w
  | some p =>
      let w :=
        match w.env.mGpuCapacityNode, w.adpfConfig.mGpuBoostOn with
        | some ptr, some _ =>
            w.set_gpu_capacity ptr (w.mSessionTaskMap.getSessionsGpuCapacity timePoint)
        | _, _ => w
      w.touch p timePoint

/-- The critical section of `applyCpuAndGpuVotes`. -/
def applyVotes (sessionId timePoint : ℤ) (w : World) : World :=
  (w.applyUclampLocked sessionId timePoint).applyGpuVotesLocked sessionId timePoint

/-! ### The other critical sections -/

/-- The votes of a new session: the default vote, which is not active yet. -/
def newVotes (desc : AppHintDesc) (timeNow : ℤ) : Votes :=
  Votes.empty.addCpu AdpfVoteType.CPU_VOTE_DEFAULT.toInt
    { mActive := false, mStartTime := timeNow, mDurationNs := desc.targetNs,
      mUclampRange := ⟨kUclampMin, kUclampMax⟩ }

/-- No vote of a new session is active. -/
theorem newVotes_inactive {desc : AppHintDesc} {timeNow voteId : ℤ} {r : VoteRange}
    (h : (newVotes desc timeNow).timing? voteId = some r) : r.mActive = false := by
  rw [newVotes, Votes.timing?_addCpu (by decide)] at h
  split at h
  · obtain rfl := Option.some.inj h
    rfl
  · rw [Votes.timing?_empty] at h
    cases h

/-- The value of a new session. -/
def newEntry (desc : AppHintDesc) (timeNow : ℤ) : SessionValueEntry where
  tgid := desc.tgid
  uid := desc.uid
  isActive := desc.is_active
  isAppSession := decide (AID_APP_START ≤ desc.uid)
  lastUpdatedTime := timeNow

/-- `addPowerSession`: a new session is added to the map. -/
def addSection (desc : AppHintDesc) (timeNow : ℤ) (w : World) : World :=
  w.modifyMap fun m => m.addNew desc.sessionId (newEntry desc timeNow) (newVotes desc timeNow) []

/-- `forceSessionActive`: whether the session is there. -/
def forceSection (sessionId : ℤ) (isActive : Bool) (w : World) : Bool × World :=
  match w.mSessionTaskMap.findSession sessionId with
  | none => (false, w)
  | some p => (true, w.modifyMap fun m => m.modifyVal p fun v => { v with isActive := isActive })

/-- `pause` and `resume`: whether the session is there and was not in the wanted state. -/
def switchSection (sessionId : ℤ) (isActive : Bool) (w : World) : Bool × World :=
  match w.mSessionTaskMap.findSession sessionId with
  | none => (false, w)
  | some p =>
      if (w.mSessionTaskMap.vals.read p).isActive = isActive then (false, w)
      else (true, w.modifyMap fun m => m.modifyVal p fun v => { v with isActive := isActive })

/-- `setThreadsFromPowerSession`: the threads that are new to the map and those that left it. -/
def replaceSection (sessionId : ℤ) (threadIds : List ℤ) (w : World) : (List ℤ × List ℤ) × World :=
  let r := w.mSessionTaskMap.replace sessionId threadIds [] []
  ((r.addedThreads, r.removedThreads), { w with mSessionTaskMap := r.map })

/-- `removePowerSession`: the threads that left the map. -/
def removeSection (sessionId : ℤ) (w : World) : List ℤ × World :=
  let r := w.mSessionTaskMap.replace sessionId [] [] []
  (r.removedThreads, { w with
    mSessionTaskMap := (r.map.remove sessionId).2
    removals := sessionId :: w.removals })

/-- `updateTargetWorkDuration`. -/
def durationSection (sessionId voteId durationNs : ℤ) (w : World) : World :=
  match w.mSessionTaskMap.findSession sessionId with
  | none => w
  | some p => w.modifyMap fun m => m.modifyVotes p fun vs => vs.updateDuration voteId durationNs

def shouldScheduleTimeout (votes : Votes) (vote_id deadline : ℤ) : Bool :=
  !votes.voteIsActive vote_id || decide (deadline < votes.voteTimeout vote_id)

/-- What the two overloads of `voteSet` differ in: clamps for the threads, or a capacity. -/
inductive Ballot where
  | cpu (uclampMin uclampMax : ℤ)
  | gpu (capacity : ℤ)
  deriving DecidableEq, Repr

/-- The vote is added to the map. -/
def addBallot (e : Timeout) (durationNs : ℤ) (b : Ballot) (m : SessionTaskMap) : SessionTaskMap :=
  match b with
  | .cpu uclampMin uclampMax =>
      m.addVote e.sessionId e.voteId uclampMin uclampMax e.timeStamp durationNs
  | .gpu capacity => m.addGpuVote e.sessionId e.voteId capacity e.timeStamp durationNs

/-- The vote is applied. -/
def applyBallot (sessionId startTime : ℤ) (b : Ballot) (w : World) : World :=
  match b with
  | .cpu _ _ => w.applyUclampLocked sessionId startTime
  | .gpu _ => w.applyGpuVotesLocked sessionId startTime

/-- The critical section of `voteSet`.  Whether a timeout is to be scheduled is decided on the votes
as they are before. -/
def voteSection (e : Timeout) (durationNs : ℤ) (b : Ballot) (w : World) : Bool × World :=
  match w.mSessionTaskMap.findSession e.sessionId with
  | none => (false, w)
  | some p =>
      let scheduleTimeout :=
        shouldScheduleTimeout (w.mSessionTaskMap.votesOf p) e.voteId e.deadline
      let w := (w.modifyMap (addBallot e durationNs b)).touch p e.timeStamp
      let w := w.applyBallot e.sessionId e.timeStamp b
      (scheduleTimeout, if scheduleTimeout then { w with decided := e :: w.decided } else w)

/-- The votes that `disableBoosts` turns off. -/
def disabledBoosts : List AdpfVoteType :=
  [AdpfVoteType.CPU_LOAD_UP, AdpfVoteType.CPU_LOAD_RESET, AdpfVoteType.CPU_LOAD_RESUME,
    AdpfVoteType.VOTE_POWER_EFFICIENCY, AdpfVoteType.GPU_LOAD_UP, AdpfVoteType.GPU_LOAD_RESET]

/-- `disableBoosts`. -/
def disableSection (sessionId : ℤ) (w : World) : World :=
  match w.mSessionTaskMap.findSession sessionId with
  | none => w
  | some p =>
      w.modifyMap fun m => m.modifyVotes p fun vs => vs.turnOff disabledBoosts

/-- What `handleEvent` decides about an event: nothing is to be done, the vote has timed out, or the
event is to be scheduled again. -/
inductive Verdict where
  | drop
  | expired
  | requeue (e : Timeout)
  deriving DecidableEq, Repr

/-- The critical section of `handleEvent`. -/
def expireSection (e : Timeout) (tNow : ℤ) (w : World) : Verdict × World :=
  let w := { w with running := w.running.erase e }
  match w.mSessionTaskMap.findSession e.sessionId with
  | none => (.drop, w)
  | some p =>
      let votes := w.mSessionTaskMap.votesOf p
      if votes.voteIsActive e.voteId then
        if votes.voteTimeout e.voteId ≤ tNow then
          (.expired,
            w.modifyMap fun m => m.modifyVotes p fun vs => (vs.setUseVote e.voteId false).2)
        else
          -- the vote was renewed meanwhile: the event comes back at the new deadline
          let eventTimeout2 : Timeout := { e with deadline := votes.voteTimeout e.voteId }
          (.requeue eventTimeout2, { w with decided := eventTimeout2 :: w.decided })
      else (.drop, w)

/-- `setPreferPowerEfficiency`: whether the session is there and its flag changed. -/
def efficiencySection (sessionId : ℤ) (enabled : Bool) (w : World) : Bool × World :=
  match w.mSessionTaskMap.findSession sessionId with
  | none => (false, w)
  | some p =>
      if enabled = (w.mSessionTaskMap.vals.read p).isPowerEfficient then (false, w)
      else
        (true, w.modifyMap fun m => m.modifyVal p fun v => { v with isPowerEfficient := enabled })

/-- A call of the hint manager about `kDisableBoostHintName`, if the hint is supported. -/
def callBoostHint (call : String → HintCall) (w : World) : World :=
  if w.env.isHintSupported w.env.disableBoostHintName then
    { w with hintCalls := call w.env.disableBoostHintName :: w.hintCalls }
  else w

/-- `SetTaskProfiles(tid, {profile})`. -/
def setTaskProfile (profile : TaskProfile) (tid : ℤ) (w : World) : World :=
  { w with taskProfiles := (tid, profile) :: w.taskProfiles }

/-- The refresh rate that a mode stands for. -/
def refreshRate (mode : String) (rate : ℤ) : ℤ :=
  if mode = "REFRESH_120FPS" then 120
  else if mode = "REFRESH_90FPS" then 90
  else if mode = "REFRESH_60FPS" then 60
  else rate

/-- `updateHintMode`. -/
def hintMode (mode : String) (enabled : Bool) (w : World) : World :=
  let w :=
    if enabled && "REFRESH_".toList.isPrefixOf mode.toList then
      { w with mDisplayRefreshRate := refreshRate mode w.mDisplayRefreshRate }
    else w
  { w with adpfConfig := (w.env.adpfProfile mode).getD w.adpfConfig }

theorem hintMode_eq (mode : String) (enabled : Bool) (w : World) :
    ∃ rate, w.hintMode mode enabled =
      { w with
        mDisplayRefreshRate := rate
        adpfConfig := (w.env.adpfProfile mode).getD w.adpfConfig } := by
  unfold hintMode
  split
  · exact ⟨_, rfl⟩
  · exact ⟨w.mDisplayRefreshRate, rfl⟩

/-- `getSession`: an entry whose session is gone is erased. -/
def lookupSession (sessionId : ℤ) (w : World) : Option ℤ × World :=
  match w.mSessionMap.lookup (toInt32 sessionId) with
  | none => (none, w)
  | some sid =>
      if (w.sessions sid).destroyed then
        (none, { w with mSessionMap := w.mSessionMap.erase (toInt32 sessionId) })
      else (some sid, w)

/-- `gpuFrequency`. -/
def readGpuFrequency (w : World) : Option ℤ × World :=
  match w.env.mGpuCapacityNode with
  | none => (none, w)
  | some .null => (none, { w with faults := .gpuCapacityNode :: w.faults })
  | some .node => (w.env.gpuFrequency w.gpuReads, { w with gpuReads := w.gpuReads + 1 })

theorem readGpuFrequency_eq (w : World) :
    ∃ faults gpuReads, w.readGpuFrequency.2 = { w with faults := faults, gpuReads := gpuReads } := by
  unfold readGpuFrequency
  split
  · exact ⟨w.faults, w.gpuReads, rfl⟩
  · exact ⟨_, w.gpuReads, rfl⟩
  · exact ⟨w.faults, _, rfl⟩

end World

/-! ### The operations -/

namespace PowerSessionManager

open World

def applyCpuAndGpuVotes (sessionId timePoint : ℤ) : P Unit :=
  Prog.critical .mSessionTaskMapMutex (Prog.modify (applyVotes sessionId timePoint))

def isAnyAppSessionActive : P Bool :=
  Prog.critical .mSessionTaskMapMutex do
    let t ← now
    Prog.read fun w => w.mSessionTaskMap.isAnyAppSessionActive t

def enableSystemTopAppBoost : P Unit := Prog.modify (callBoostHint .endHint)

def disableSystemTopAppBoost : P Unit := Prog.modify (callBoostHint .doHint)

def updateUniversalBoostMode : P Unit := do
  let active ← isAnyAppSessionActive
  if active then disableSystemTopAppBoost else enableSystemTopAppBoost

/-- What `forceSessionActive`, `pause` and `resume` do once the session's flag has changed. -/
def refresh (sessionId : ℤ) : P Unit := do
  let t ← now
  applyCpuAndGpuVotes sessionId t
  updateUniversalBoostMode

def forceSessionActive (sessionId : ℤ) (isActive : Bool) : P Unit := do
  let found ← Prog.critical .mSessionTaskMapMutex (Prog.atomic (forceSection sessionId isActive))
  Prog.when found (refresh sessionId)

def pause (sessionId : ℤ) : P Unit := do
  let changed ← Prog.critical .mSessionTaskMapMutex (Prog.atomic (switchSection sessionId false))
  Prog.when changed (refresh sessionId)

def resume (sessionId : ℤ) : P Unit := do
  let changed ← Prog.critical .mSessionTaskMapMutex (Prog.atomic (switchSection sessionId true))
  Prog.when changed (refresh sessionId)

/-- `SetTaskProfiles` for each thread of a list. -/
def setTaskProfiles (profile : TaskProfile) (tids : List ℤ) : P Unit :=
  Prog.forEach (fun tid => Prog.modify (setTaskProfile profile tid)) tids

def setThreadsFromPowerSession (sessionId : ℤ) (threadIds : List ℤ) : P Unit := do
  forceSessionActive sessionId false
  let threads ← Prog.critical .mSessionTaskMapMutex
    (Prog.atomic (replaceSection sessionId threadIds))
  setTaskProfiles .ResetUclampGrp threads.1
  setTaskProfiles .NoResetUclampGrp threads.2
  forceSessionActive sessionId true

def addPowerSession (sessionDescriptor : Option AppHintDesc) (threadIds : List ℤ) : P Unit :=
  match sessionDescriptor with
  | none => pure ()
  | some desc => do
      let timeNow ← now
      Prog.critical .mSessionTaskMapMutex (Prog.modify (addSection desc timeNow))
      setThreadsFromPowerSession desc.sessionId threadIds

def registerSession (sessionId : ℤ) : P Unit :=
  Prog.critical .mSessionMapMutex (Prog.modify fun w =>
    { w with mSessionMap := w.mSessionMap.insert (toInt32 sessionId) sessionId })

def unregisterSession (sessionId : ℤ) : P Unit :=
  Prog.critical .mSessionMapMutex (Prog.modify fun w =>
    { w with mSessionMap := w.mSessionMap.erase (toInt32 sessionId) })

def getSession (sessionId : ℤ) : P (Option ℤ) :=
  Prog.critical .mSessionMapMutex (Prog.atomic (lookupSession sessionId))

def clear : P Unit :=
  Prog.critical .mSessionMapMutex (Prog.modify fun w => { w with mSessionMap := ∅ })

def removePowerSession (sessionId : ℤ) : P Unit := do
  forceSessionActive sessionId false
  let removedThreads ← Prog.critical .mSessionTaskMapMutex (Prog.atomic (removeSection sessionId))
  setTaskProfiles .NoResetUclampGrp removedThreads
  unregisterSession sessionId

def updateTargetWorkDuration (sessionId : ℤ) (voteId : AdpfVoteType) (durationNs : ℤ) : P Unit :=
  Prog.critical .mSessionTaskMapMutex
    (Prog.modify (durationSection sessionId voteId.toInt durationNs))

/-- The timeout event of a vote. -/
def timeoutOf (sessionId : ℤ) (voteId : AdpfVoteType) (startTime durationNs : ℤ) : Timeout where
  timeStamp := startTime
  sessionId := sessionId
  voteId := voteId.toInt
  deadline := addNanos startTime durationNs

/-- What both overloads of `voteSet` do. -/
def castVote (sessionId : ℤ) (voteId : AdpfVoteType) (b : Ballot) (startTime durationNs : ℤ) :
    P Unit := do
  let e := timeoutOf sessionId voteId startTime durationNs
  let scheduleTimeout ← Prog.critical .mSessionTaskMapMutex
    (Prog.atomic (voteSection e durationNs b))
  Prog.when scheduleTimeout (schedule e)

/-- `voteSet(sessionId, voteId, uclampMin, uclampMax, startTime, durationNs)`. -/
def voteSet (sessionId : ℤ) (voteId : AdpfVoteType)
    (uclampMin uclampMax startTime durationNs : ℤ) : P Unit :=
  castVote sessionId voteId (.cpu uclampMin uclampMax) startTime durationNs

/-- `voteSet(sessionId, voteId, capacity, startTime, durationNs)`. -/
def voteSetGpu (sessionId : ℤ) (voteId : AdpfVoteType) (capacity startTime durationNs : ℤ) :
    P Unit :=
  castVote sessionId voteId (.gpu capacity) startTime durationNs

def disableBoosts (sessionId : ℤ) : P Unit :=
  Prog.critical .mSessionTaskMapMutex (Prog.modify (disableSection sessionId))

def setPreferPowerEfficiency (sessionId : ℤ) (enabled : Bool) : P Unit :=
  Prog.critical .mSessionTaskMapMutex do
    let changed ← Prog.atomic (efficiencySection sessionId enabled)
    Prog.when changed do
      let t ← now
      Prog.modify (applyUclampLocked sessionId t)

def updateHintMode (mode : String) (enabled : Bool) : P Unit := Prog.modify (hintMode mode enabled)

/-- `updateHintBoost`, which only writes to the log. -/
def updateHintBoost (_boost : String) (_durationMs : ℤ) : P Unit := pure ()

def getDisplayRefreshRate : P ℤ := Prog.read World.mDisplayRefreshRate

def gpuFrequency : P (Option ℤ) := Prog.atomic readGpuFrequency

/-- `dumpToFd`, of which only the lock matters: it writes nothing but the dump. -/
def dumpToFd : P Unit := Prog.critical .mSessionTaskMapMutex (pure ())

/-- An event that is to be scheduled again is scheduled, under the lock. -/
def reschedule : Verdict → P Unit
  | .requeue e => schedule e
  | _ => pure ()

/-- What `handleEvent` does about an event while it holds the lock. -/
def settle (e : Timeout) (tNow : ℤ) : P Verdict := do
  let verdict ← Prog.atomic (expireSection e tNow)
  reschedule verdict
  pure verdict

def handleEvent (e : Timeout) : P Unit := do
  let tNow ← now
  let verdict ← Prog.critical .mSessionTaskMapMutex (settle e tNow)
  Prog.when (verdict = .expired) do
    applyCpuAndGpuVotes e.sessionId tNow
    updateUniversalBoostMode

end PowerSessionManager

/-- What the pool does with the event it has taken: the worker looks it up, and `handleEvent` runs,
under the lock of the callbacks. -/
def process (event : Option Timeout) : P Unit :=
  match event with
  | none => pure ()
  | some e =>
      Prog.critical .mSharedMutex do
        Prog.critical .workerMutex (pure ())
        PowerSessionManager.handleEvent e

/-- One round of `PriorityQueueWorkerPool::loop` with the event at index `i` of the queue. -/
def workerRound (i : ℕ) : P Unit := do
  let event ← Prog.critical .poolMutex (Prog.atomic (World.pop i))
  process event

end Adpf
