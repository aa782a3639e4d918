/-
**The locks of the service are taken in a fixed order.**

Every operation takes its locks in the order of `Adpf.Lock.rank`: the lock of a session, the pool's
lock of the callbacks, the manager's locks, the worker's lock, the pool's queue.  There is one
exception: `sendHint` with the hint for power efficiency calls the public `setMode`, which asks for
the lock of the session that `sendHint` already holds.

Main definitions:

* `Adpf.Lock.rank` — the order of the locks;
* `Adpf.Op.Reenters` — the operation that asks for its own lock.

Main results:

* `Adpf.Op.respects` — all the other operations keep to the order;
* `Adpf.lock_discipline_iff` — **exactly the other operations do**, and without that one no thread
  ever waits for itself, directly or through others.
-/

import MotoCommon.ConcLocks
import MotoCommon.TimeoutProtocol

set_option autoImplicit false

namespace Adpf

open Conc Prog

/-- The order in which locks are taken. -/
def Lock.rank : Lock → ℕ
  | .mPowerHintSessionLock _ => 0
  | .mSharedMutex => 1
  | .mSessionTaskMapMutex => 2
  | .mSessionMapMutex => 2
  | .workerMutex => 3
  | .poolMutex => 4

/-- All the locks of a list come before those of rank `n`. -/
def Below (n : ℕ) (held : List Lock) : Prop := ∀ l ∈ held, l.rank < n

theorem Below.nil (n : ℕ) : Below n [] := fun _ h => absurd h List.not_mem_nil

theorem Below.cons {n : ℕ} {l : Lock} {held : List Lock} (hl : l.rank < n) (h : Below n held) :
    Below n (l :: held) := by
  intro l' hl'
  rcases List.mem_cons.1 hl' with rfl | hmem
  · exact hl
  · exact h l' hmem

theorem Below.mono {m n : ℕ} {held : List Lock} (h : Below m held) (hmn : m ≤ n) : Below n held :=
  fun l hl => Nat.lt_of_lt_of_le (h l hl) hmn

/-- The program keeps to the order and gives back what it takes. -/
abbrev Keeping {α : Type} (held : List Lock) (p : P α) : Prop := p.Respects Lock.rank held held

/-! ### The manager -/

section Manager

open PowerSessionManager World

variable {held : List Lock}

theorem schedule_keeping (h : Below 3 held) (e : Timeout) : Keeping held (schedule e) :=
  Respects.bind (Respects.critical h (Respects.ret () _)) fun _ =>
    Respects.critical (h.mono (by decide)) (Respects.modify _ _)

theorem updateUniversalBoostMode_keeping (h : Below 2 held) : Keeping held updateUniversalBoostMode := by
  refine Respects.bind ?_ fun active => Respects.ite (Respects.modify _ _) (Respects.modify _ _)
  exact Respects.critical h (Respects.bind (Respects.atomic _ _) fun _ => Respects.read _ _)

theorem applyCpuAndGpuVotes_keeping (h : Below 2 held) (s t : ℤ) :
    Keeping held (applyCpuAndGpuVotes s t) :=
  Respects.critical h (Respects.modify _ _)

theorem refresh_keeping (h : Below 2 held) (s : ℤ) : Keeping held (refresh s) :=
  Respects.bind (Respects.atomic _ _) fun t =>
    Respects.bind (applyCpuAndGpuVotes_keeping h s t) fun _ => updateUniversalBoostMode_keeping h

theorem forceSessionActive_keeping (h : Below 2 held) (s : ℤ) (b : Bool) :
    Keeping held (forceSessionActive s b) :=
  Respects.bind (Respects.critical h (Respects.atomic _ _)) fun _ =>
    Respects.when (refresh_keeping h s)

theorem pause_keeping (h : Below 2 held) (s : ℤ) : Keeping held (PowerSessionManager.pause s) :=
  Respects.bind (Respects.critical h (Respects.atomic _ _)) fun _ =>
    Respects.when (refresh_keeping h s)

theorem resume_keeping (h : Below 2 held) (s : ℤ) : Keeping held (PowerSessionManager.resume s) :=
  Respects.bind (Respects.critical h (Respects.atomic _ _)) fun _ =>
    Respects.when (refresh_keeping h s)

theorem setTaskProfiles_keeping (profile : TaskProfile) (tids : List ℤ) :
    Keeping held (setTaskProfiles profile tids) :=
  Respects.forEach (fun _ => Respects.modify _ _) tids

theorem setThreadsFromPowerSession_keeping (h : Below 2 held) (s : ℤ) (tids : List ℤ) :
    Keeping held (setThreadsFromPowerSession s tids) := by
  refine Respects.bind (forceSessionActive_keeping h s false) fun _ => ?_
  refine Respects.bind (Respects.critical h (Respects.atomic _ _)) fun threads => ?_
  refine Respects.bind (setTaskProfiles_keeping _ threads.1) fun _ => ?_
  exact Respects.bind (setTaskProfiles_keeping _ threads.2) fun _ =>
    forceSessionActive_keeping h s true

theorem addPowerSession_keeping (h : Below 2 held) (desc : Option AppHintDesc) (tids : List ℤ) :
    Keeping held (addPowerSession desc tids) := by
  cases desc with
  | none => exact Respects.ret () _
  | some desc =>
      refine Respects.bind (Respects.atomic _ _) fun _ => ?_
      refine Respects.bind (Respects.critical h (Respects.modify _ _)) fun _ => ?_
      exact setThreadsFromPowerSession_keeping h desc.sessionId tids

theorem removePowerSession_keeping (h : Below 2 held) (s : ℤ) :
    Keeping held (removePowerSession s) := by
  refine Respects.bind (forceSessionActive_keeping h s false) fun _ => ?_
  refine Respects.bind (Respects.critical h (Respects.atomic _ _)) fun removed => ?_
  refine Respects.bind (setTaskProfiles_keeping _ removed) fun _ => ?_
  exact Respects.critical h (Respects.modify _ _)

theorem castVote_keeping (h : Below 2 held) (s : ℤ) (v : AdpfVoteType) (b : Ballot) (t d : ℤ) :
    Keeping held (castVote s v b t d) :=
  Respects.bind (Respects.critical h (Respects.atomic _ _)) fun _ =>
    Respects.when (schedule_keeping (h.mono (by decide)) _)

theorem disableBoosts_keeping (h : Below 2 held) (s : ℤ) : Keeping held (disableBoosts s) :=
  Respects.critical h (Respects.modify _ _)

theorem setPreferPowerEfficiency_keeping (h : Below 2 held) (s : ℤ) (b : Bool) :
    Keeping held (setPreferPowerEfficiency s b) :=
  Respects.critical h (Respects.bind (Respects.atomic _ _) fun _ =>
    Respects.when (Respects.bind (Respects.atomic _ _) fun _ => Respects.modify _ _))

/-- An event is scheduled again while the lock of the map is held. -/
theorem settle_keeping (h : Below 3 held) (e : Timeout) (t : ℤ) : Keeping held (settle e t) := by
  refine Respects.bind (Respects.atomic _ _) fun verdict => ?_
  refine Respects.bind ?_ fun _ => Respects.ret verdict _
  cases verdict with
  | drop => exact Respects.ret () _
  | expired => exact Respects.ret () _
  | requeue e' => exact schedule_keeping h e'

theorem handleEvent_keeping (h : Below 2 held) (e : Timeout) : Keeping held (handleEvent e) := by
  refine Respects.bind (Respects.atomic _ _) fun t => ?_
  refine Respects.bind (Respects.critical h ?_) fun _ => Respects.when ?_
  · exact settle_keeping ((h.mono (by decide)).cons (by decide)) e t
  · exact Respects.bind (applyCpuAndGpuVotes_keeping h e.sessionId t) fun _ =>
      updateUniversalBoostMode_keeping h

theorem workerRound_keeping (i : ℕ) : Keeping [] (workerRound i) := by
  refine Respects.bind (Respects.critical (Below.nil _) (Respects.atomic _ _)) fun event => ?_
  cases event with
  | none => exact Respects.ret () _
  | some e =>
      -- the callback runs under the lock of the callbacks
      have hshared : Below 2 [Lock.mSharedMutex] := (Below.nil 2).cons (by decide)
      refine Respects.critical (Below.nil _) ?_
      exact Respects.bind (Respects.critical (hshared.mono (by decide)) (Respects.ret () _)) fun _ =>
        handleEvent_keeping hshared e

theorem ManagerOp.keeping (op : ManagerOp) : Keeping [] op.prog := by
  have h : Below 2 [] := Below.nil 2
  cases op with
  | addPowerSession desc tids => exact addPowerSession_keeping h desc tids
  | removePowerSession s => exact removePowerSession_keeping h s
  | setThreadsFromPowerSession s tids => exact setThreadsFromPowerSession_keeping h s tids
  | pause s => exact pause_keeping h s
  | resume s => exact resume_keeping h s
  | updateTargetWorkDuration s v d => exact Respects.critical h (Respects.modify _ _)
  | voteSet s v lo hi t d => exact castVote_keeping h s v _ t d
  | voteSetGpu s v c t d => exact castVote_keeping h s v _ t d
  | disableBoosts s => exact disableBoosts_keeping h s
  | setPreferPowerEfficiency s b => exact setPreferPowerEfficiency_keeping h s b
  | updateUniversalBoostMode => exact updateUniversalBoostMode_keeping h
  | updateHintMode mode b => exact Respects.modify _ _
  | updateHintBoost boost d => exact Respects.ret () _
  | getDisplayRefreshRate => exact Respects.bind (Respects.read _ _) fun _ => Respects.ret () _
  | gpuFrequency => exact Respects.bind (Respects.atomic _ _) fun _ => Respects.ret () _
  | registerSession s => exact Respects.critical h (Respects.modify _ _)
  | unregisterSession s => exact Respects.critical h (Respects.modify _ _)
  | getSession s =>
      exact Respects.bind (Respects.critical h (Respects.atomic _ _)) fun _ => Respects.ret () _
  | clear => exact Respects.critical h (Respects.modify _ _)
  | dumpToFd => exact Respects.critical h (Respects.ret () _)

end Manager

/-! ### A session -/

section Session

open PowerHintSession

variable {held : List Lock}

theorem touchSession_keeping (s : ℤ) : Keeping held (touchSession s) :=
  Respects.bind (Respects.atomic _ _) fun _ => Respects.modify _ _

theorem isTimeout_keeping (s : ℤ) : Keeping held (isTimeout s) :=
  Respects.bind (Respects.atomic _ _) fun _ => Respects.bind (Respects.read _ _) fun _ =>
    Respects.bind (Respects.read _ _) fun _ => Respects.ret _ _

theorem create_keeping (tgid uid : ℤ) (tids : List ℤ) (d : ℤ) :
    Keeping [] (create tgid uid tids d) := by
  have h : Below 2 [] := Below.nil 2
  refine Respects.bind (Respects.atomic _ _) fun sid => ?_
  refine Respects.bind (touchSession_keeping sid) fun _ => Respects.bind (Respects.read _ _) fun _ => ?_
  refine Respects.bind (addPowerSession_keeping h _ tids) fun _ => ?_
  refine Respects.bind (Respects.read _ _) fun _ => Respects.bind (Respects.atomic _ _) fun t => ?_
  refine Respects.bind (castVote_keeping h sid _ _ t _) fun _ => ?_
  refine Respects.bind (Respects.atomic _ _) fun t => ?_
  exact Respects.bind (castVote_keeping h sid _ _ t _) fun _ => Respects.ret sid _

theorem updatePidControlVariable_keeping (h : Below 2 held) (s x : ℤ) (b : Bool) :
    Keeping held (updatePidControlVariable s x b) := by
  refine Respects.bind (Respects.modify _ _) fun _ => Respects.when ?_
  refine Respects.bind (Respects.read _ _) fun _ => Respects.bind (Respects.read _ _) fun _ => ?_
  exact Respects.bind (Respects.atomic _ _) fun t => castVote_keeping h s _ _ t _

/-- An operation on a session holds the lock of the session. -/
theorem whileOpen_keeping (s : ℤ) {p : PowerHintSession → P Status}
    (hp : ∀ self, Below 2 [Lock.mPowerHintSessionLock s] →
      Keeping [Lock.mPowerHintSessionLock s] (p self)) : Keeping [] (whileOpen s p) := by
  refine Respects.critical (Below.nil _) (Respects.bind (Respects.read _ _) fun self => ?_)
  exact Respects.ite (Respects.ret _ _) (hp self ((Below.nil 2).cons (by simp [Lock.rank])))

theorem beginReport_keeping (h : Below 2 held) (s : ℤ) : Keeping held (beginReport s) := by
  refine Respects.bind (Respects.modify _ _) fun _ => ?_
  refine Respects.bind (isTimeout_keeping s) fun _ => ?_
  refine Respects.bind (touchSession_keeping s) fun _ => ?_
  refine Respects.bind (Respects.when ?_) fun _ => disableBoosts_keeping h s
  refine Respects.bind (Respects.read _ _) fun _ => ?_
  exact Respects.bind (Respects.when (Respects.modify _ _)) fun _ =>
    updateUniversalBoostMode_keeping h

theorem reportCpu_keeping (h : Below 2 held) (s : ℤ) (c : AdpfConfig) (ds : List WorkDuration) :
    Keeping held (reportCpu s c ds) := by
  refine Respects.bind (Respects.when ?_) fun _ => ?_
  · refine Respects.bind (Respects.read _ _) fun _ => Respects.bind (Respects.modify _ _) fun _ => ?_
    exact Respects.bind (Respects.read _ _) fun _ => Respects.modify _ _
  · refine Respects.bind (Respects.atomic _ _) fun _ => Respects.bind (Respects.read _ _) fun _ => ?_
    exact updatePidControlVariable_keeping h s _ true

theorem reportGpu_keeping (h : Below 2 held) (s : ℤ) (c : AdpfConfig) (back : WorkDuration) :
    Keeping held (reportGpu s c back) := by
  unfold reportGpu
  cases gpuCapacityMax c back with
  | none => exact Respects.ret () _
  | some capacityMax =>
      refine Respects.bind (Respects.atomic _ _) fun gpu_freq => ?_
      cases gpu_freq with
      | none => exact Respects.ret () _
      | some freq =>
          refine Respects.bind (Respects.read _ _) fun _ => ?_
          refine Respects.bind (Respects.read _ _) fun _ => ?_
          exact Respects.bind (Respects.atomic _ _) fun t => castVote_keeping h s _ _ t _

theorem setMode_keeping (s : ℤ) (mode : SessionMode) (b : Bool) : Keeping [] (setMode s mode b) := by
  refine whileOpen_keeping s fun _ h => ?_
  cases mode with
  | unknown raw => exact Respects.ret _ _
  | POWER_EFFICIENCY =>
      refine Respects.bind (setPreferPowerEfficiency_keeping h s b) fun _ => ?_
      refine Respects.bind (Respects.modify _ _) fun _ => ?_
      exact Respects.bind (touchSession_keeping s) fun _ => Respects.ret _ _

theorem sendHintVotes_keeping (h : Below 2 held) (s : ℤ) (self : PowerHintSession)
    {hint : SessionHint} (hhint : hint ≠ .POWER_EFFICIENCY) :
    Keeping held (sendHintVotes s self hint) := by
  have hvote : ∀ v b d, Keeping held (now.bind fun t => PowerSessionManager.castVote s v b t d) :=
    fun v b d => Respects.bind (Respects.atomic _ _) fun t => castVote_keeping h s v b t d
  cases hint with
  | CPU_LOAD_UP =>
      refine Respects.bind (Respects.read _ _) fun _ => ?_
      exact Respects.bind (updatePidControlVariable_keeping h s _ true) fun _ => hvote _ _ _
  | CPU_LOAD_DOWN =>
      exact Respects.bind (Respects.read _ _) fun _ => updatePidControlVariable_keeping h s _ true
  | CPU_LOAD_RESET =>
      refine Respects.bind (Respects.read _ _) fun _ => ?_
      exact Respects.bind (updatePidControlVariable_keeping h s _ false) fun _ => hvote _ _ _
  | CPU_LOAD_RESUME => exact Respects.bind (Respects.read _ _) fun _ => hvote _ _ _
  | POWER_EFFICIENCY => exact absurd rfl hhint
  | GPU_LOAD_UP => exact Respects.bind (Respects.read _ _) fun _ => hvote _ _ _
  | GPU_LOAD_DOWN => exact Respects.ret () _
  | GPU_LOAD_RESET => exact Respects.ret () _
  | unknown raw => exact Respects.ret () _

theorem close_keeping (s : ℤ) : Keeping [] (close s) := by
  refine whileOpen_keeping s fun _ h => ?_
  refine Respects.bind (Respects.modify _ _) fun _ => ?_
  refine Respects.bind (removePowerSession_keeping h s) fun _ => ?_
  exact Respects.bind (Respects.modify _ _) fun _ => Respects.ret _ _

/-- `sendHint` with the hint for power efficiency asks for the lock it holds. -/
def SessionOp.Reenters : SessionOp → Prop
  | .sendHint .POWER_EFFICIENCY => True
  | _ => False

theorem SessionOp.keeping (s : ℤ) (op : SessionOp) (hop : ¬ op.Reenters) :
    Keeping [] (op.prog s) := by
  cases op with
  | close => exact close_keeping s
  | destroy =>
      refine Respects.bind (close_keeping s) fun _ => ?_
      exact Respects.bind (Respects.modify _ _) fun _ => Respects.ret _ _
  | pause =>
      refine whileOpen_keeping s fun _ h => Respects.ite ?_ (Respects.ret _ _)
      refine Respects.bind (setThreadsFromPowerSession_keeping h s _) fun _ => ?_
      refine Respects.bind (Respects.modify _ _) fun _ => ?_
      exact Respects.bind (pause_keeping h s) fun _ => Respects.ret _ _
  | resume =>
      refine whileOpen_keeping s fun _ h => Respects.ite (Respects.ret _ _) ?_
      refine Respects.bind (setThreadsFromPowerSession_keeping h s _) fun _ => ?_
      refine Respects.bind (Respects.modify _ _) fun _ => ?_
      exact Respects.bind (resume_keeping h s) fun _ => Respects.ret _ _
  | updateTargetWorkDuration d =>
      refine whileOpen_keeping s fun _ h => Respects.ite (Respects.ret _ _) ?_
      refine Respects.bind (Respects.read _ _) fun _ => Respects.bind (Respects.modify _ _) fun _ => ?_
      exact Respects.bind (Respects.critical h (Respects.modify _ _)) fun _ => Respects.ret _ _
  | reportActualWorkDuration ds =>
      refine whileOpen_keeping s fun _ h => Respects.ite (Respects.ret _ _) ?_
      cases ds.getLast? with
      | none => exact Respects.ret _ _
      | some back =>
          refine Respects.ite ?_ (Respects.ret _ _)
          refine Respects.bind (Respects.read _ _) fun c => ?_
          refine Respects.bind (beginReport_keeping h s) fun _ => ?_
          refine Respects.bind (Respects.ite ?_ ?_) fun _ => Respects.ret _ _
          · exact Respects.bind (reportCpu_keeping h s c ds) fun _ => reportGpu_keeping h s c back
          · exact updatePidControlVariable_keeping h s _ true
  | sendHint hint =>
      refine whileOpen_keeping s fun self h =>
        Respects.ite (Respects.ret _ _) (Respects.ite ?_ (Respects.ret _ _))
      have hhint : hint ≠ .POWER_EFFICIENCY := by
        rintro rfl
        exact hop trivial
      refine Respects.bind (sendHintVotes_keeping h s self hhint) fun _ => ?_
      refine Respects.bind (Respects.modify _ _) fun _ => ?_
      exact Respects.bind (touchSession_keeping s) fun _ => Respects.ret _ _
  | setMode mode b => exact setMode_keeping s mode b
  | setThreads tids =>
      refine whileOpen_keeping s fun _ h => Respects.ite (Respects.ret _ _) ?_
      refine Respects.bind (Respects.modify _ _) fun _ => ?_
      refine Respects.bind (setThreadsFromPowerSession_keeping h s tids) fun _ => ?_
      refine Respects.bind (Respects.read _ _) fun _ => ?_
      exact Respects.bind (updatePidControlVariable_keeping h s _ true) fun _ => Respects.ret _ _
  | getSessionConfig => exact Respects.ret _ _

end Session

/-! ### All the operations -/

/-- The operation that asks for the lock it holds. -/
def Op.Reenters : Op → Prop
  | .session _ op => op.Reenters
  | _ => False

/-- All the other operations keep to the order. -/
theorem Op.respects (op : Op) (hop : ¬ op.Reenters) : op.prog.Respects Lock.rank [] [] := by
  cases op with
  | create tgid uid tids d =>
      exact Respects.bind (create_keeping tgid uid tids d) fun _ => Respects.ret () _
  | session s op => exact Respects.bind (op.keeping s hop) fun _ => Respects.ret () _
  | dumpToStream s =>
      refine Respects.critical (Below.nil _) ?_
      exact Respects.bind (isTimeout_keeping s) fun _ => Respects.ret () _
  | manager op => exact op.keeping
  | worker i => exact workerRound_keeping i

/-- Such an operation returns, so that a run can go on with it. -/
theorem Runs.next {ok : World → Op → Prop} {w₀ w : World} (h : Runs ok w₀ w) (op : Op)
    (hok : ok w op) (hop : ¬ op.Reenters) : Runs ok w₀ (op.prog.post w) :=
  h.step op hok ((op.respects hop).returns w)

/-- A state in which every session is open and has a target. -/
def openWorld : World :=
  { World.init {} makeMockConfig with
    sessions := fun s =>
      { mDescriptor :=
          { sessionId := s, tgid := 100, uid := 10000, targetNs := 16000000, thread_ids := [7] } } }

/-- The path on which `sendHint` calls `setMode`. -/
theorem not_respects_of_reenters {op : Op} (hop : op.Reenters) :
    ¬ op.prog.Respects Lock.rank [] [] := by
  cases op with
  | session s op =>
      cases op with
      | sendHint hint =>
          cases hint with
          | POWER_EFFICIENCY =>
              intro h
              -- the session is found open, and its lock is asked for again
              have hself : ∀ l ∈ [Lock.mPowerHintSessionLock s],
                  l.rank < (Lock.mPowerHintSessionLock s).rank := (h.2 openWorld).1
              exact absurd (hself _ (List.mem_singleton_self _)) (Nat.lt_irrefl _)
          | _ => exact hop.elim
      | _ => exact hop.elim
  | _ => exact hop.elim

/-- Every thread may run every operation but that one. -/
def orderedStarts (_ : ThreadId) (p : P Unit) : Prop := ∃ op : Op, p = op.prog ∧ ¬ op.Reenters

/-- **Which operations keep to the order of the locks**: all but `sendHint` with the hint for power
efficiency.  As long as no thread runs that one, no thread waits for a lock that it holds itself, or
that is held by a thread that waits for it in turn. -/
theorem lock_discipline_iff (op : Op) (w : World) :
    (op.prog.Respects Lock.rank [] [] ↔ ¬ op.Reenters) ∧
    (∀ c : Config ThreadId Lock World, Reach orderedStarts (Config.init w) c →
      ∀ i, ¬ Relation.TransGen (WaitsFor c) i i) := by
  constructor
  · constructor
    · exact fun h hop => not_respects_of_reenters hop h
    · exact op.respects
  · intro c hc i
    have hrespects : ∀ i p, orderedStarts i p → p.Respects Lock.rank [] [] := by
      rintro i p ⟨op, rfl, hop⟩
      exact op.respects hop
    exact no_circular_wait hrespects hc i

/-- A client has created a session. -/
theorem lock_discipline_iff_created :
    ∃ c : Config ThreadId Lock World,
      c.state = (Op.create 100 10000 [7] 16000000).prog.post (World.init {} makeMockConfig) ∧
        ∀ i, ¬ Relation.TransGen (WaitsFor c) i i := by
  have hop : ¬ (Op.create 100 10000 [7] 16000000).Reenters := id
  have hstart : orderedStarts (.binder 0) (Op.create 100 10000 [7] 16000000).prog := ⟨_, rfl, hop⟩
  obtain ⟨hrespects, hwaits⟩ :=
    lock_discipline_iff (Op.create 100 10000 [7] 16000000) (World.init {} makeMockConfig)
  have hrespects := hrespects.2 hop
  have hreach := reach_run hstart (hrespects.returns (World.init {} makeMockConfig))
    (hrespects.leaves _)
  exact ⟨_, Config.state_init _, hwaits _ hreach⟩

/-- The hint for power efficiency on the first session: the call never returns. -/
theorem sendHint_power_efficiency_blocks :
    ∃ w, Runs (fun _ _ => True) (World.init {} makeMockConfig) w ∧
      (Op.session 1 (.sendHint .POWER_EFFICIENCY)).prog.returns [] w = false := by
  refine ⟨_, Runs.init.step (.create 100 10000 [7] 16000000) trivial (by decide +kernel), ?_⟩
  decide +kernel

end Adpf
