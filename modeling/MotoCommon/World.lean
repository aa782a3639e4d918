/-
**The state of the power service, and what it sees of the system.**

The threads of the service share one state, `Adpf.World`: the members of the one
`PowerSessionManager`, those of every `PowerHintSession`, and a record of what was asked of the rest
of the system — the `sched_setattr` calls, the writes to the GPU capacity node, the power hints and
the task profiles, each list with the latest entry first.  What the rest of the system answers is
fixed by an environment, `Adpf.Env`, of which nothing is assumed: how much time passes before each
reading of the clock, which threads turn out to be dead, which profiles and hints there are.

The queue of timeout events is kept as the plain collection that `PowerSessionManager` takes it
for; how the worker keeps it is the subject of `MotoCommon/BackgroundWorker.lean`.  An event is in
`decided` from the moment its scheduling is decided, then in `queue`, and in `running` from the
moment the worker takes it until `handleEvent` has dealt with it.

Main definitions:

* `Adpf.Lock` — the locks of the service;
* `Adpf.PowerHintSession` — the members of a session object;
* `Adpf.Env`, `Adpf.World`, `Adpf.P` — the environment, the state, and programs over it;
* `Adpf.World.pending` — the timeout events that are under way;
* `Adpf.now`, `Adpf.schedule` — reading the clock and scheduling an event.
-/

import MotoCommon.ConcProg
import MotoCommon.SessionRecords
import MotoCommon.SessionTaskMap

set_option autoImplicit false

namespace Adpf

open Conc

/-! ### Locks, sessions and records -/

/-- The locks.  The worker and its pool each call their lock `mMutex`. -/
inductive Lock where
  | mPowerHintSessionLock (sessionId : ℤ)
  | mSharedMutex
  | mSessionTaskMapMutex
  | mSessionMapMutex
  | workerMutex
  | poolMutex
  deriving DecidableEq, Repr

/-- The members of a `PowerHintSession` object.  A hint is absent from `mSupportedHints` until the
hint manager has been asked about it. -/
structure PowerHintSession where
  mDescriptor : AppHintDesc
  mLastUpdatedTime : ℤ := 0
  mSessionClosed : Bool := false
  mSupportedHints : UMap String Bool := ∅
  mModes : SessionMode → Bool := fun _ => false
  mSessionRecords : Option SessionRecords := none
  mHeuristicBoostActive : Bool := false
  /-- Whether the destructor has run. -/
  destroyed : Bool := false

/-- What stands for a session that was never created: no operation is accepted on it. -/
def PowerHintSession.absent : PowerHintSession where
  mDescriptor := default
  mSessionClosed := true
  destroyed := true

structure EventSessionTimeout where
  timeStamp : ℤ
  sessionId : ℤ
  voteId : ℤ
  deriving DecidableEq, Repr

/-- A timeout event with the deadline it is scheduled for. -/
structure Timeout extends EventSessionTimeout where
  deadline : ℤ
  deriving DecidableEq, Repr

/-- The error of a system call about a thread that does not exist. -/
def ESRCH : ℤ := 3

/-- One call of `sched_setattr` and the error it set, zero if none. -/
structure SchedCall where
  tid : ℤ
  range : UclampRange
  err : ℤ
  deriving DecidableEq, Repr

/-- A call of the hint manager. -/
inductive HintCall where
  | doHint (hint : String)
  | endHint (hint : String)
  deriving DecidableEq, Repr

/-- The task profiles that threads are given. -/
inductive TaskProfile where
  | ResetUclampGrp
  | NoResetUclampGrp
  deriving DecidableEq, Repr

/-- The pointer in `mGpuCapacityNode`. -/
inductive GpuNodePtr where
  | null
  | node
  deriving DecidableEq, Repr

/-- A null pointer that was dereferenced. -/
inductive Fault where
  | sessionRecords
  | gpuCapacityNode
  deriving DecidableEq, Repr

/-! ### The environment and the state -/

/-- What the rest of the system does. -/
structure Env where
  /-- The time that passes before the `n`-th reading of the clock. -/
  delay : ℕ → ℕ := fun _ => 0
  /-- The error of the `n`-th call of `sched_setattr`, for a thread. -/
  schedSetattr : ℕ → ℤ → ℤ := fun _ _ => 0
  /-- `IsHintSupported`. -/
  isHintSupported : String → Bool := fun _ => false
  /-- The profiles that `SetAdpfProfile` finds. -/
  adpfProfile : String → Option AdpfConfig := fun _ => none
  /-- What the `n`-th call of `gpu_frequency` returns. -/
  gpuFrequency : ℕ → Option ℤ := fun _ => none
  /-- The product of an integer and a `double`, as the machine rounds it. -/
  times : ℤ → ℚ → ℚ := exactTimes
  /-- What a conversion of a `float` to an integer gives where it is not defined. -/
  undefinedConversion : Option ℚ → ℤ := fun _ => 0
  /-- `kDisableBoostHintName`. -/
  disableBoostHintName : String := "ADPF_DISABLE_TA_BOOST"
  /-- `mGpuCapacityNode`, which is set once. -/
  mGpuCapacityNode : Option GpuNodePtr := none

/-- The shared state. -/
structure World where
  env : Env
  /-- The profile in force. -/
  adpfConfig : AdpfConfig
  /-- The latest reading of the clock, and the number of readings. -/
  clock : ℤ := 0
  clockReads : ℕ := 0
  mDisplayRefreshRate : ℤ := 60
  mSessionTaskMap : SessionTaskMap := {}
  mSessionMap : UMap ℤ ℤ := ∅
  sSessionIDCounter : ℤ := 0
  sessions : ℤ → PowerHintSession := fun _ => PowerHintSession.absent
  /-- The events that a thread has decided to schedule, those in the queue, and those that the
  worker has taken. -/
  decided : List Timeout := []
  queue : List Timeout := []
  running : List Timeout := []
  schedCalls : List SchedCall := []
  gpuWrites : List ℤ := []
  gpuReads : ℕ := 0
  hintCalls : List HintCall := []
  taskProfiles : List (ℤ × TaskProfile) := []
  /-- The calls of `removePowerSession`. -/
  removals : List ℤ := []
  faults : List Fault := []

/-- Programs of the service. -/
abbrev P (α : Type) : Type := Prog Lock World α

namespace World

/-- The state in which the service starts: no session, nothing asked of the system. -/
def init (env : Env) (adpfConfig : AdpfConfig) : World := { env := env, adpfConfig := adpfConfig }

/-- The timeout events that are under way. -/
def pending (w : World) : List Timeout := w.decided ++ w.queue ++ w.running

/-- The range last given to `sched_setattr` for a thread. -/
def lastRange (w : World) (tid : ℤ) : Option UclampRange :=
  (w.schedCalls.find? fun c => c.tid == tid).map SchedCall.range

/-- No call of `sched_setattr` for this thread has found it dead. -/
def NeverDead (w : World) (tid : ℤ) : Prop :=
  ∀ c ∈ w.schedCalls, c.tid = tid → c.err ≠ ESRCH

/-- Change the map. -/
def modifyMap (f : SessionTaskMap → SessionTaskMap) (w : World) : World :=
  { w with mSessionTaskMap := f w.mSessionTaskMap }

/-- Change a session object. -/
def modifySession (sessionId : ℤ) (f : PowerHintSession → PowerHintSession) (w : World) : World :=
  { w with sessions := Function.update w.sessions sessionId (f (w.sessions sessionId)) }

@[simp] theorem sessions_modifySession_self (s : ℤ) (f : PowerHintSession → PowerHintSession)
    (w : World) : (w.modifySession s f).sessions s = f (w.sessions s) := Function.update_self ..

theorem sessions_modifySession_of_ne {s s' : ℤ} (h : s' ≠ s)
    (f : PowerHintSession → PowerHintSession) (w : World) :
    (w.modifySession s f).sessions s' = w.sessions s' := Function.update_of_ne h ..

/-- Put an event, whose scheduling is decided, into the queue. -/
def enqueue (e : Timeout) (w : World) : World :=
  { w with decided := w.decided.erase e, queue := e :: w.queue }

/-- The worker takes the event at index `i` of the queue. -/
def pop (i : ℕ) (w : World) : Option Timeout × World :=
  match w.queue[i]? with
  | none => (none, w)
  | some e => (some e, { w with queue := w.queue.eraseIdx i, running := e :: w.running })

theorem pop_eq (i : ℕ) (w : World) :
    ∃ queue running, (w.pop i).2 = { w with queue := queue, running := running } := by
  unfold pop
  split
  · exact ⟨w.queue, w.running, rfl⟩
  · exact ⟨_, _, rfl⟩

/-- Read the clock. -/
def readClock (w : World) : ℤ × World :=
  let t := w.clock + w.env.delay w.clockReads
  (t, { w with clock := t, clockReads := w.clockReads + 1 })

end World

/-- `std::chrono::steady_clock::now()`. -/
def now : P ℤ := Prog.atomic World.readClock

/-- `mEventSessionTimeoutWorker.schedule(e, deadline)`: the worker stores the event under its own
lock and then passes it to its pool. -/
def schedule (e : Timeout) : P Unit := do
  Prog.critical .workerMutex (pure ())
  Prog.critical .poolMutex (Prog.modify (World.enqueue e))

end Adpf
