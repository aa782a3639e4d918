/-
**The divisors of the controller.**

`reportActualWorkDuration` refuses a target of zero nanoseconds, but the controller divides by the
target in units of 100 µs, which is zero for every target below one unit.  The target of a session is
the duration that it was constructed with, until an `updateTargetWorkDuration` that is not refused
gives it another one.  This module follows the targets along a run, and proves which reports divide
by zero.

Main definitions:

* `Adpf.pidDivisors` — the divisors of `convertWorkDurationToBoostByPid`;
* `Adpf.World.atPid` — the state in which a report gets to the controller;
* `Adpf.World.Aims` — the target of a session, and how many sessions there are;
* `Adpf.LongTargets` — the condition on the operations.

Main results:

* `Adpf.Op.aims` — **one operation**: how the target of a session changes;
* `Adpf.pid_divisors_nonzero` — **whole runs**: no divisor is zero, under the condition and only then.
-/

import MotoCommon.PidLoop
import MotoCommon.SessionStatus

set_option autoImplicit false

namespace Adpf

open Conc World Prog PowerHintSession

/-! ### The divisors -/

/-- The divisors of `convertWorkDurationToBoostByPid`: those of `pOut` and `dOut`, and those of the
traced error and the traced derivative. -/
def pidDivisors (adpfConfig : AdpfConfig) (desc : AppHintDesc) (actualDurations : List WorkDuration) :
    List ℤ :=
  let length := actualDurations.length
  let p_start := windowStart adpfConfig.mSamplingWindowP length
  let d_start := windowStart adpfConfig.mSamplingWindowD length
  let dt := ns_to_100us desc.targetNs
  [(length : ℤ) - p_start, dt, (length : ℤ) - d_start,
    (length : ℤ) - p_start, dt, (length : ℤ) - d_start]

theorem ns_to_100us_ne_zero_iff (ns : ℤ) : ns_to_100us ns ≠ 0 ↔ 100000 ≤ ns.natAbs := by
  have hquot : (ns_to_100us ns).natAbs = ns.natAbs / 100000 := Int.natAbs_tdiv ns 100000
  rw [← Int.natAbs_ne_zero, hquot]
  omega

/-- The lengths of the windows are never zero, so all depends on the target. -/
theorem pidDivisors_ne_zero_iff (adpfConfig : AdpfConfig) (desc : AppHintDesc)
    {actualDurations : List WorkDuration} (h : actualDurations ≠ []) :
    (∀ x ∈ pidDivisors adpfConfig desc actualDurations, x ≠ 0) ↔ 100000 ≤ desc.targetNs.natAbs := by
  have hlen := List.length_pos_of_ne_nil h
  have hp := windowStart_lt adpfConfig.mSamplingWindowP hlen
  have hd := windowStart_lt adpfConfig.mSamplingWindowD hlen
  rw [← ns_to_100us_ne_zero_iff]
  refine ⟨fun hall => hall _ (List.mem_cons_of_mem _ List.mem_cons_self), fun hdt x hx => ?_⟩
  simp only [pidDivisors, List.mem_cons, List.not_mem_nil, or_false] at hx
  rcases hx with rfl | rfl | rfl | rfl | rfl | rfl
  · omega
  · exact hdt
  · omega
  · omega
  · exact hdt
  · omega

/-! ### The target of a session -/

/-- Session `s` has the target `t`, and `k` sessions were constructed. -/
structure World.Aims (s t k : ℤ) (w : World) : Prop where
  target : (w.sessions s).mDescriptor.targetNs = t
  counter : w.sSessionIDCounter = k

variable {w w' : World} {s t k : ℤ}

namespace World.Aims

/-- An action that neither constructs a session nor gives one a target leaves all targets alone. -/
theorem action {A : Special → Prop} (h : Aims s t k w) (ha : Action A w w')
    (hnew : ¬ A .construct) (hdur : ¬ A .duration) : Aims s t k w' := by
  have hkeeps := ha.keepsSession hnew s
  exact ⟨(hkeeps.target hdur).trans h.target, hkeeps.counter.trans h.counter⟩

theorem stable (s t k : ℤ) : Stable (Aims s t k) where
  quiet := fun hq h => h.action (A := Eq .hint) (.apart rfl (.hint hq)) (by decide) (by decide)
  events := fun _ _ _ h => ⟨h.target, h.counter⟩
  vote := fun _ _ d b w h => h.action (A := fun _ => False) (.vote _ d b w rfl) id id

/-- What is made of other actions leaves all targets alone. -/
theorem within {α : Type} {A : Special → Prop} {p : P α} (hp : p.Within (Action A))
    (hnew : ¬ A .construct) (hdur : ¬ A .duration) : Triple (Aims s t k) p fun _ => Aims s t k :=
  (hp.mono fun _ _ ha h => h.action ha hnew hdur).keeps

end World.Aims

/-- A session has the target it is constructed with. -/
theorem create_aims (s t k tgid uid : ℤ) (tids : List ℤ) (d : ℤ) :
    Triple (Aims s t k) (create tgid uid tids d) fun _ =>
      Aims s (if s = k + 1 then d else t) (k + 1) := by
  have hstable := Aims.stable s (if s = k + 1 then d else t) (k + 1)
  refine create_triple (fun _ => hstable.toCalm) hstable tgid uid tids d (fun w h => ?_)
    fun sid self => ?_
  · unfold newSession
    rw [h.counter]
    refine ⟨?_, rfl⟩
    by_cases hs : s = k + 1
    · rw [if_pos hs, hs]
      dsimp only
      rw [Function.update_self]
    · rw [if_neg hs]
      dsimp only
      rw [Function.update_of_ne hs, h.target]
  · have hadd := addPowerSession_within (A := fun kind => kind = .standing ∨ kind = .hint) (.inl rfl)
      (.inr rfl) (some self.mDescriptor) tids
    exact (Aims.within hadd (by decide) (by decide)).imp (fun _ h => h.1) fun _ _ h => h

/-- The manager gives a vote a duration, which is not the target of a session. -/
theorem World.Aims.durationSection (h : Aims s t k w) (s' v d : ℤ) :
    Aims s t k (w.durationSection s' v d) := by
  rw [durationSection_eq, onlyMap_writeVotes]
  exact ⟨h.target, h.counter⟩

/-- `updateTargetWorkDuration` is refused, or gives the session the scaled target. -/
theorem updateTargetWorkDuration_aims (h : Aims s t k w) (s' d : ℤ) :
    Aims s
      (if s = s' ∧ (SessionOp.updateTargetWorkDuration d).refusal (w.sessions s') = none then
        scaleNanos d w.adpfConfig.mTargetTimeFactor
      else t) k ((PowerHintSession.updateTargetWorkDuration s' d).post w) := by
  unfold post PowerHintSession.updateTargetWorkDuration
  cases hclosed : (w.sessions s').mSessionClosed with
  | true =>
      rw [whileOpen_run_closed hclosed, SessionOp.refusal, if_pos hclosed,
        if_neg (fun hs => absurd hs.2 (Option.some_ne_none _))]
      exact h
  | false =>
      have hrefusal : (SessionOp.updateTargetWorkDuration d).refusal (w.sessions s') =
          if d ≤ 0 then some .illegalArgument else none := by
        rw [SessionOp.refusal, hclosed]
        rfl
      rw [whileOpen_run_open hclosed, hrefusal]
      by_cases hd : d ≤ 0
      · rw [if_pos hd, if_pos hd, if_neg (fun hs => absurd hs.2 (Option.some_ne_none _))]
        exact h
      rw [if_neg hd, if_neg hd]
      simp only [getAdpfProfile, PowerSessionManager.updateTargetWorkDuration, bind_eq, pure_eq,
        run_bind, run_read, run_modify, run_critical, run_ret]
      apply Aims.durationSection
      refine ⟨?_, h.counter⟩
      by_cases hs : s = s'
      · rw [if_pos ⟨hs, trivial⟩, hs]
        exact congrArg (fun x => x.mDescriptor.targetNs) (sessions_modifySession_self _ _ _)
      · rw [if_neg fun hand => hs hand.1, ← h.target]
        exact congrArg (fun x => x.mDescriptor.targetNs) (sessions_modifySession_of_ne hs _ _)

/-- The operations that give a vote a duration, or a session a target. -/
theorem Op.eq_updateTargetWorkDuration {op : Op} (h : op.uses .duration) :
    (∃ s d, op = .session s (.updateTargetWorkDuration d)) ∨
      ∃ s v d, op = .manager (.updateTargetWorkDuration s v d) := by
  cases op with
  | create tgid uid tids d => exact h.elim
  | session s op =>
      cases op with
      | updateTargetWorkDuration d => exact Or.inl ⟨s, d, rfl⟩
      | sendHint hint => cases hint <;> exact h.elim
      | _ => exact h.elim
  | manager op =>
      cases op with
      | updateTargetWorkDuration s v d => exact Or.inr ⟨s, v, d, rfl⟩
      | _ => exact h.elim
  | dumpToStream s => exact h.elim
  | worker i => exact h.elim

/-- **One operation.**  The session is constructed, or gets a target from an
`updateTargetWorkDuration` that is not refused, or keeps the one that it has. -/
theorem Op.aims (op : Op) (h : Aims s t k w) :
    (∃ tgid uid tids d, op = .create tgid uid tids d ∧
      Aims s (if s = k + 1 then d else t) (k + 1) (op.prog.post w)) ∨
    (∃ d, op = .session s (.updateTargetWorkDuration d) ∧
      (SessionOp.updateTargetWorkDuration d).refusal (w.sessions s) = none ∧
      Aims s (scaleNanos d w.adpfConfig.mTargetTimeFactor) k (op.prog.post w)) ∨
    Aims s t k (op.prog.post w) := by
  -- all but these two kinds of operation are made of actions that leave the targets alone
  by_cases hnew : op.uses .construct
  · obtain ⟨tgid, uid, tids, d, rfl⟩ := op.eq_create hnew
    refine Or.inl ⟨tgid, uid, tids, d, rfl, ?_⟩
    rw [Op.post_create]
    exact create_aims s t k tgid uid tids d w h
  by_cases hdur : op.uses .duration
  · right
    rcases op.eq_updateTargetWorkDuration hdur with ⟨s', d, rfl⟩ | ⟨s', v, d, rfl⟩
    · have haims := updateTargetWorkDuration_aims h s' d
      rw [Op.post_session]
      split at haims
      case isTrue hand =>
        obtain ⟨rfl, hok⟩ := hand
        exact Or.inl ⟨d, rfl, hok, haims⟩
      case isFalse => exact Or.inr haims
    · exact Or.inr (h.durationSection s' v.toInt d)
  · exact Or.inr (Or.inr (op.keeps (fun _ _ ha hu => hu.action ha hnew hdur) w h))

/-! ### Whole runs -/

/-- No session gets a target of less than 100 µs, up to its sign. -/
def LongTargets (w : World) : Op → Prop
  | .create _ _ _ d => 100000 ≤ d.natAbs
  | .session s (.updateTargetWorkDuration d) =>
      (SessionOp.updateTargetWorkDuration d).refusal (w.sessions s) = none →
        100000 ≤ (scaleNanos d w.adpfConfig.mTargetTimeFactor).natAbs
  | _ => True

/-- The targets of the sessions that were constructed stay long. -/
theorem Runs.long_target {env : Env} {c : AdpfConfig} (h : Runs LongTargets (World.init env c) w)
    (hs : w.Constructed s) : 100000 ≤ (w.sessions s).mDescriptor.targetNs.natAbs := by
  induction h with
  | init => exact absurd (hs.1.trans_le hs.2) (lt_irrefl 0)
  | @step u op _ hok _ ih =>
      have hu : Aims s (u.sessions s).mDescriptor.targetNs u.sSessionIDCounter u := ⟨rfl, rfl⟩
      rcases op.aims hu with ⟨tgid, uid, tids, d, rfl, ha⟩ | ⟨d, rfl, haccepted, ha⟩ | ha
      -- the session is the one that is constructed here, or was there before
      · have hcount : s ≤ u.sSessionIDCounter + 1 := ha.counter ▸ hs.2
        rw [ha.target]
        split
        case isTrue => exact hok
        case isFalse hne => exact ih ⟨hs.1, by omega⟩
      · rw [ha.target]
        exact hok haccepted
      · rw [ha.target]
        exact ih ⟨hs.1, ha.counter ▸ hs.2⟩

/-! ### Reports -/

/-- What an accepted report does before it gets to the controller. -/
def PowerHintSession.beforePid (sessionId : ℤ) (adpfConfig : AdpfConfig)
    (actualDurations : List WorkDuration) : P Unit := do
  beginReport sessionId
  Prog.when adpfConfig.heuristicBoostOn (recordDurations sessionId actualDurations)

/-- The state in which an accepted report gets to the controller. -/
def World.atPid (sessionId : ℤ) (actualDurations : List WorkDuration) (w : World) : World :=
  (beforePid sessionId w.adpfConfig actualDurations).post w

/-- Up to there the report is made of hints and the use of the records. -/
theorem beforePid_within (s : ℤ) (c : AdpfConfig) (ds : List WorkDuration) :
    (beforePid s c ds).Within (Action fun kind => kind = .hint ∨ kind = .records) :=
  Within.bind (beginReport_within (.inl rfl) s) fun _ =>
    Within.when (recordDurations_within (.inr rfl) s ds)

theorem World.target_atPid (s : ℤ) (ds : List WorkDuration) (w : World) :
    ((w.atPid s ds).sessions s).mDescriptor.targetNs = (w.sessions s).mDescriptor.targetNs := by
  have hw : Aims s (w.sessions s).mDescriptor.targetNs w.sSessionIDCounter w := ⟨rfl, rfl⟩
  exact (Aims.within (beforePid_within s w.adpfConfig ds) (by decide) (by decide) w hw).target

/-- An accepted report gets to the controller, if it is on, and goes on from there. -/
theorem report_atPid {ds : List WorkDuration} {back : WorkDuration} (h : w.Accepts s ds back)
    (hpid : w.adpfConfig.mPidOn = true) :
    ∃ rest : ℤ → P Unit, (reportActualWorkDuration s ds).post w =
      (rest ((w.atPid s ds).convertSection s ds).1).post ((w.atPid s ds).convertSection s ds).2 := by
  refine ⟨fun output => do
    let self ← PowerHintSession.self s
    updatePidControlVariable s (nextMin w.adpfConfig self.mHeuristicBoostActive
      self.mDescriptor.pidControlVariable output) true
    reportGpu s w.adpfConfig back, ?_⟩
  rw [report_post_of_accepts h, atPid]
  have hvotes : reportVotes s w.adpfConfig ds back = (do
      reportCpu s w.adpfConfig ds
      reportGpu s w.adpfConfig back) := if_pos hpid
  simp only [post, acceptReport, beforePid, getAdpfProfile, reportCpu, bind_eq, run_bind, run_read,
    hvotes, run_atomic, pure_eq, run_ret]

/-- **The controller never divides by zero, as long as targets are long.**  A report that is accepted
while the controller is on gets to it, and none of its divisors is zero exactly if the target of the
session is at least 100 µs, up to its sign.  This is so for every report in a run in which no session
is constructed with a shorter duration, or given a shorter target. -/
theorem pid_divisors_nonzero (env : Env) (c : AdpfConfig) (s : ℤ) (ds : List WorkDuration)
    (back : WorkDuration) :
    (∀ w : World, w.Accepts s ds back → w.adpfConfig.mPidOn = true →
      (∃ rest : ℤ → P Unit, (reportActualWorkDuration s ds).post w =
        (rest ((w.atPid s ds).convertSection s ds).1).post ((w.atPid s ds).convertSection s ds).2) ∧
      ((∀ x ∈ pidDivisors (w.atPid s ds).adpfConfig ((w.atPid s ds).sessions s).mDescriptor ds,
          x ≠ 0) ↔
        100000 ≤ (w.sessions s).mDescriptor.targetNs.natAbs)) ∧
    (∀ w, Runs LongTargets (World.init env c) w → w.Accepts s ds back →
      w.adpfConfig.mPidOn = true →
      ∀ x ∈ pidDivisors (w.atPid s ds).adpfConfig ((w.atPid s ds).sessions s).mDescriptor ds,
        x ≠ 0) := by
  have hiff : ∀ w : World, w.Accepts s ds back →
      ((∀ x ∈ pidDivisors (w.atPid s ds).adpfConfig ((w.atPid s ds).sessions s).mDescriptor ds,
          x ≠ 0) ↔
        100000 ≤ (w.sessions s).mDescriptor.targetNs.natAbs) := by
    intro w haccepts
    have hne : ds ≠ [] := by
      rintro rfl
      exact absurd haccepts.2.2 (by simp)
    rw [pidDivisors_ne_zero_iff _ _ hne, target_atPid]
  refine ⟨fun w haccepts hpid => ⟨report_atPid haccepts hpid, hiff w haccepts⟩, ?_⟩
  intro w hruns haccepts _
  exact (hiff w haccepts).2 (hruns.long_target ((hruns.lives s).constructed haccepts.1.1))

/-- A cycle of 20 ms. -/
def longCycle : WorkDuration := { timeStampNanos := 0, durationNanos := 20000000 }

/-- A session with a target of 16 ms reports it. -/
theorem pid_divisors_nonzero_active :
    activeSession.Accepts 1 [longCycle] longCycle ∧ activeSession.adpfConfig.mPidOn = true ∧
    ∀ x ∈ pidDivisors (activeSession.atPid 1 [longCycle]).adpfConfig
      ((activeSession.atPid 1 [longCycle]).sessions 1).mDescriptor [longCycle], x ≠ 0 := by
  have haccepts : activeSession.Accepts 1 [longCycle] longCycle :=
    ⟨⟨by decide +kernel, by decide +kernel⟩, by decide +kernel, rfl⟩
  have hlong : LongTargets (World.init {} makeMockConfig) (.create 100 10000 [7] 16000000) := by
    unfold LongTargets
    decide
  have hpid : activeSession.adpfConfig.mPidOn = true := by decide +kernel
  exact ⟨haccepts, hpid, (pid_divisors_nonzero {} makeMockConfig 1 [longCycle] longCycle).2
    activeSession (activeSession_runs _ hlong) haccepts hpid⟩

/-- A session that was constructed with a target of 50 µs. -/
@[irreducible] def shortSession : World :=
  (Op.create 100 10000 [7] 50000).prog.post (World.init {} makeMockConfig)

/-- Its first report is accepted, and divides by zero. -/
theorem pid_divisors_zero_short :
    Runs (fun _ _ => True) (World.init {} makeMockConfig) shortSession ∧
    shortSession.Accepts 1 [longCycle] longCycle ∧ shortSession.adpfConfig.mPidOn = true ∧
    0 ∈ pidDivisors (shortSession.atPid 1 [longCycle]).adpfConfig
      ((shortSession.atPid 1 [longCycle]).sessions 1).mDescriptor [longCycle] := by
  refine ⟨?_, ⟨⟨by decide +kernel, by decide +kernel⟩, by decide +kernel, rfl⟩, by decide +kernel,
    by decide +kernel⟩
  unfold shortSession
  exact Runs.init.next _ trivial id

end Adpf
