/-
**Votes that last as long as the target.**

The constructor of a session votes for as long as the target of the session, and so does the hint
`GPU_LOAD_UP`; `CPU_LOAD_UP` votes for twice as long.  The target comes from a client: one that is given to
`updateTargetWorkDuration` is refused unless it is positive, one that is given to
`createHintSessionWithConfig` is never refused.  A vote is in range at the time of its submission only if its
duration is not negative, and neither doubling the target nor adding the duration to the clock may overflow.

Main definitions:

* `Adpf.Power.createHintSessionWithConfig` — the method that constructs sessions;
* `Adpf.Admitted` — the targets that clients can give to a session;
* `Adpf.TargetVote` — the three votes;
* `Adpf.TargetVote.TakesEffect` — such a vote, submitted at some time, is in range then.

Main results:

* `Adpf.TargetVote.takesEffect_iff` — a vote takes effect exactly if its window does not end too late, nor
  before it begins;
* `Adpf.target_votes_take_effect_iff` — **when the votes of an admitted target always take effect**.
-/

import MotoCommon.PidDivisors
import MotoCommon.PowerModes
import MotoCommon.TimeoutProtocol

set_option autoImplicit false

namespace Adpf

open Conc Prog World PowerHintSession PowerSessionManager SessionTaskMap

/-! ### The targets of sessions -/

/-- The exceptions of `createHintSessionWithConfig`. -/
inductive CreateError where
  | EX_UNSUPPORTED_OPERATION
  | EX_ILLEGAL_ARGUMENT
  deriving DecidableEq, Repr

/-- A session is constructed and registered. -/
def createAndRegister (tgid uid : ℤ) (threadIds : List ℤ) (durationNanos : ℤ) : P ℤ := do
  let sid ← create tgid uid threadIds durationNanos
  registerSession sid
  pure sid

/-- `createHintSessionWithConfig`, which returns the id of the session. -/
def Power.createHintSessionWithConfig (p : Power) (tgid uid : ℤ) (threadIds : List ℤ)
    (durationNanos : ℤ) : Except CreateError ℤ × Power :=
  match p.GetAdpfProfile with
  | none => (.error .EX_UNSUPPORTED_OPERATION, p)
  | some adpfConfig =>
      if adpfConfig.mReportingRateLimitNs ≤ 0 then (.error .EX_UNSUPPORTED_OPERATION, p)
      else if threadIds.length = 0 then (.error .EX_ILLEGAL_ARGUMENT, p)
      else
        let r := (createAndRegister tgid uid threadIds durationNanos).run p.world
        (.ok r.1, { p with world := r.2 })

/-- The targets that sessions have after a client gave them one: any 64-bit duration that
`createHintSessionWithConfig` accepts, or one that `updateTargetWorkDuration` accepts under a profile whose
factor is one. -/
inductive Admitted : ℤ → Prop
  | created (p : Power) (tgid uid : ℤ) (threadIds : List ℤ) {durationNanos sid : ℤ}
      (hlo : -2 ^ 63 ≤ durationNanos) (hhi : durationNanos < 2 ^ 63)
      (h : (p.createHintSessionWithConfig tgid uid threadIds durationNanos).1 = .ok sid) :
      Admitted (((p.createHintSessionWithConfig tgid uid threadIds durationNanos).2.world.sessions
        sid).mDescriptor.targetNs)
  | updated (w : World) (s : ℤ) {targetDurationNanos : ℤ} (hhi : targetDurationNanos < 2 ^ 63)
      (hfactor : w.adpfConfig.mTargetTimeFactor = 1)
      (h : (SessionOp.updateTargetWorkDuration targetDurationNanos).refusal (w.sessions s) = none) :
      Admitted ((((PowerHintSession.updateTargetWorkDuration s targetDurationNanos).post w).sessions
        s).mDescriptor.targetNs)

theorem create_run_id (tgid uid : ℤ) (tids : List ℤ) (d : ℤ) (w : World) :
    ((create tgid uid tids d).run w).1 = w.sSessionIDCounter + 1 := by
  unfold create
  rw [bind_eq, run_bind]
  exact Yields.bind (fun _ => Yields.bind fun _ => Yields.bind fun _ => Yields.bind fun _ =>
    Yields.bind fun _ => Yields.bind fun _ => Yields.bind fun _ => Yields.bind fun _ =>
      Yields.ret _) _

theorem sessions_registerSession (sid : ℤ) (w : World) :
    ((registerSession sid).post w).sessions = w.sessions := rfl

/-- A session has the target that it is created with, whatever that is. -/
theorem createAndRegister_run (tgid uid : ℤ) (tids : List ℤ) (d : ℤ) (w : World) :
    ((createAndRegister tgid uid tids d).run w).1 = w.sSessionIDCounter + 1 ∧
      (((createAndRegister tgid uid tids d).run w).2.sessions
        (w.sSessionIDCounter + 1)).mDescriptor.targetNs = d := by
  have haims := create_aims (w.sSessionIDCounter + 1) _ _ tgid uid tids d w ⟨rfl, rfl⟩
  rw [if_pos rfl] at haims
  have hrun : (createAndRegister tgid uid tids d).run w =
      (((create tgid uid tids d).run w).1,
        (registerSession ((create tgid uid tids d).run w).1).post ((create tgid uid tids d).post w)) := by
    simp only [createAndRegister, post, bind_eq, run_bind, pure_eq, run_ret]
  rw [hrun]
  refine ⟨create_run_id tgid uid tids d w, ?_⟩
  rw [sessions_registerSession, post, haims.target]

/-- What `createHintSessionWithConfig` does when it does not refuse. -/
theorem Power.createHintSessionWithConfig_eq {p : Power} {tgid uid : ℤ} {tids : List ℤ} {d sid : ℤ}
    (h : (p.createHintSessionWithConfig tgid uid tids d).1 = .ok sid) :
    p.createHintSessionWithConfig tgid uid tids d =
      (.ok ((createAndRegister tgid uid tids d).run p.world).1,
        { p with world := ((createAndRegister tgid uid tids d).run p.world).2 }) := by
  unfold createHintSessionWithConfig at h ⊢
  cases hprofile : p.GetAdpfProfile with
  | none =>
      rw [hprofile] at h
      cases h
  | some c =>
      rw [hprofile] at h
      dsimp only at h ⊢
      by_cases hrate : c.mReportingRateLimitNs ≤ 0
      · rw [if_pos hrate] at h
        cases h
      · by_cases htids : tids.length = 0
        · rw [if_neg hrate, if_pos htids] at h
          cases h
        · rw [if_neg hrate, if_neg htids]

/-- A session that is not refused has the target that was asked for. -/
theorem Power.target_createHintSessionWithConfig {p : Power} {tgid uid : ℤ} {tids : List ℤ} {d sid : ℤ}
    (h : (p.createHintSessionWithConfig tgid uid tids d).1 = .ok sid) :
    ((p.createHintSessionWithConfig tgid uid tids d).2.world.sessions sid).mDescriptor.targetNs = d := by
  obtain ⟨hid, htarget⟩ := createAndRegister_run tgid uid tids d p.world
  have heq := createHintSessionWithConfig_eq h
  rw [heq] at h ⊢
  have hsid := Except.ok.inj h
  rw [hid] at hsid
  rw [← hsid]
  dsimp only
  rw [htarget]

theorem pos_of_accepted {self : PowerHintSession} {d : ℤ}
    (h : (SessionOp.updateTargetWorkDuration d).refusal self = none) : 0 < d := by
  have hrejection := (SessionOp.refusal_eq_none.1 h).2
  by_contra hle
  rw [SessionOp.rejection, if_pos (not_lt.1 hle)] at hrejection
  cases hrejection

theorem scaleNanos_one {d : ℤ} (hlo : -2 ^ 63 ≤ d) (hhi : d < 2 ^ 63) : scaleNanos d 1 = d := by
  unfold scaleNanos truncate
  rw [mul_one, Rat.num_intCast, Rat.den_intCast, Nat.cast_one, Int.tdiv_one]
  exact toInt64_eq hlo hhi

/-- A target is any 64-bit number. -/
theorem Admitted.bounds {t : ℤ} (h : Admitted t) : -2 ^ 63 ≤ t ∧ t < 2 ^ 63 := by
  cases h with
  | created p tgid uid tids hlo hhi h =>
      rw [Power.target_createHintSessionWithConfig h]
      exact ⟨hlo, hhi⟩
  | @updated w s d hhi hfactor h =>
      have haims : Aims s (w.sessions s).mDescriptor.targetNs w.sSessionIDCounter w := ⟨rfl, rfl⟩
      have htarget := (updateTargetWorkDuration_aims haims s d).target
      rw [if_pos ⟨rfl, h⟩, hfactor] at htarget
      have hpos := pos_of_accepted h
      rw [htarget, scaleNanos_one (by omega) hhi]
      exact ⟨by omega, hhi⟩

/-! ### The votes -/

/-- The votes that last as long as the target, or twice as long. -/
inductive TargetVote where
  | cpuLoadUp
  | gpuLoadUp
  | initial
  deriving DecidableEq, Repr

namespace TargetVote

def voteId : TargetVote → AdpfVoteType
  | cpuLoadUp => .CPU_LOAD_UP
  | gpuLoadUp => .GPU_LOAD_UP
  | initial => .CPU_VOTE_DEFAULT

/-- How many targets the vote should last. -/
def factor : TargetVote → ℤ
  | cpuLoadUp => 2
  | gpuLoadUp => 1
  | initial => 1

/-- The duration of the vote, as it is computed. -/
def durationNs (targetNs : ℤ) : TargetVote → ℤ
  | cpuLoadUp => toInt64 (targetNs * 2)
  | gpuLoadUp => targetNs
  | initial => targetNs

/-- The operation sets the vote for a session, with the target that the session has then. -/
inductive SetBy (w : World) (s targetNs : ℤ) : TargetVote → Op → Prop
  | create (tgid uid : ℤ) (threadIds : List ℤ) (hs : s = w.sSessionIDCounter + 1) :
      SetBy w s targetNs initial (.create tgid uid threadIds targetNs)
  | cpuLoadUp (ht : (w.sessions s).mDescriptor.targetNs = targetNs)
      (h : (SessionOp.sendHint .CPU_LOAD_UP).refusal (w.sessions s) = none) :
      SetBy w s targetNs cpuLoadUp (.session s (.sendHint .CPU_LOAD_UP))
  | gpuLoadUp (ht : (w.sessions s).mDescriptor.targetNs = targetNs)
      (h : (SessionOp.sendHint .GPU_LOAD_UP).refusal (w.sessions s) = none) :
      SetBy w s targetNs gpuLoadUp (.session s (.sendHint .GPU_LOAD_UP))

/-- The vote, submitted at `start` for session `s`, takes effect: nothing overflows, and wherever the
session is known the vote is stored, in range, and does not time out before; nor is its event due before. -/
structure TakesEffect (v : TargetVote) (s targetNs start : ℤ) : Prop where
  duration : v.durationNs targetNs = v.factor * targetNs
  nonneg : 0 ≤ v.factor * targetNs
  endTime : addNanos start (v.durationNs targetNs) = start + v.factor * targetNs
  inRange : ∀ (b : Ballot) (w : World) (vs : Votes), b.fits v.voteId.toInt = true →
    Wf w.mSessionTaskMap → w.mSessionTaskMap.votes? s = some vs →
      ∃ vs' r, (w.submit s v.voteId b start (v.durationNs targetNs)).mSessionTaskMap.votes? s = some vs' ∧
        vs'.timing? v.voteId.toInt = some r ∧ r.isTimeInRange start = true ∧
        start ≤ vs'.voteTimeout v.voteId.toInt
  deadline : start ≤ (timeoutOf s v.voteId start (v.durationNs targetNs)).deadline

theorem nonneg_iff (v : TargetVote) {targetNs : ℤ} : 0 ≤ v.factor * targetNs ↔ 0 ≤ targetNs := by
  cases v <;> simp only [factor] <;> omega

theorem durationNs_eq_iff (v : TargetVote) {targetNs : ℤ} (hlo : -2 ^ 63 ≤ targetNs)
    (hhi : targetNs < 2 ^ 63) (hnonneg : 0 ≤ v.factor * targetNs) :
    v.durationNs targetNs = v.factor * targetNs ↔ v.factor * targetNs < 2 ^ 63 := by
  cases v with
  | cpuLoadUp =>
      simp only [durationNs, factor] at hnonneg ⊢
      have hbounds := toInt64_bounds (targetNs * 2)
      constructor
      · intro h
        omega
      · intro h
        rw [toInt64_eq (by omega) (by omega)]
        omega
  | gpuLoadUp => simp only [durationNs, factor, one_mul, hhi]
  | initial => simp only [durationNs, factor, one_mul, hhi]

/-- **A vote takes effect** exactly if its target is not negative and its window ends before the clock
does. -/
theorem takesEffect_iff (v : TargetVote) (s : ℤ) {targetNs start : ℤ} (hlo : -2 ^ 63 ≤ targetNs)
    (hhi : targetNs < 2 ^ 63) (hstart : -2 ^ 63 ≤ start) :
    v.TakesEffect s targetNs start ↔
      0 ≤ targetNs ∧ v.factor * targetNs < 2 ^ 63 ∧ start + v.factor * targetNs < 2 ^ 63 := by
  constructor
  · intro h
    have hend := toInt64_bounds (start + v.durationNs targetNs)
    have heq : toInt64 (start + v.durationNs targetNs) = start + v.factor * targetNs := h.endTime
    refine ⟨v.nonneg_iff.1 h.nonneg,
      (v.durationNs_eq_iff hlo hhi h.nonneg).1 h.duration, ?_⟩
    rw [← heq]
    exact hend.2
  · rintro ⟨ht, hdur, hend⟩
    have hnonneg : 0 ≤ v.factor * targetNs := v.nonneg_iff.2 ht
    have hduration := (v.durationNs_eq_iff hlo hhi hnonneg).2 hdur
    have hendTime : addNanos start (v.durationNs targetNs) = start + v.factor * targetNs := by
      rw [hduration]
      exact toInt64_eq (by omega) hend
    have hle : start ≤ addNanos start (v.durationNs targetNs) := by
      rw [hendTime]
      omega
    refine ⟨hduration, hnonneg, hendTime, ?_, hle⟩
    intro b w vs hfits hw hvs
    have hstored := votes?_voteSection hw (timeoutOf s v.voteId start (v.durationNs targetNs))
      (v.durationNs targetNs) b
    have htiming := Ballot.timing?_add b (timeoutOf s v.voteId start (v.durationNs targetNs))
      (v.durationNs targetNs) vs v.voteId.toInt
    rw [if_pos ⟨rfl, hfits⟩] at htiming
    refine ⟨_, _, hstored.trans (congrArg _ hvs), htiming, ?_, ?_⟩
    · exact (VoteRange.isTimeInRange_iff _ _).2 ⟨rfl, le_rfl, hle⟩
    · rw [Votes.voteTimeout, htiming]
      exact hle

/-! ### Who sets them -/

theorem whileOpen_performs {w : World} {s : ℤ} {p : PowerHintSession → P Status} {f : World → World}
    (hopen : (w.sessions s).mSessionClosed = false) (h : (p (w.sessions s)).Performs w f) :
    (whileOpen s p).Performs w f := by
  refine Performs.critical (Performs.bind_right ?_)
  show (if (w.sessions s).mSessionClosed = true then _ else p (w.sessions s) : P Status).Performs w f
  rw [if_neg (by simp [hopen])]
  exact h

/-- A hint that is not refused casts the votes of its case. -/
theorem sendHint_performs {w : World} {s : ℤ} {hint : SessionHint} {f : World → World}
    (h : (SessionOp.sendHint hint).refusal (w.sessions s) = none)
    (hvotes : (sendHintVotes s (w.sessions s) hint).Performs w f) :
    (Op.session s (.sendHint hint)).prog.Performs w f := by
  obtain ⟨hopen, hrejection⟩ := SessionOp.refusal_eq_none.1 h
  refine Performs.bind_left (whileOpen_performs hopen ?_)
  by_cases htarget : (w.sessions s).mDescriptor.targetNs = 0
  · rw [SessionOp.rejection, if_pos htarget] at hrejection
    cases hrejection
  · rw [SessionOp.rejection, if_neg htarget] at hrejection
    by_cases hknown : knownHint hint = true
    · rw [if_neg htarget, if_pos hknown]
      exact Performs.bind_left hvotes
    · rw [if_neg hknown] at hrejection
      cases hrejection

theorem target_touched (tgid uid : ℤ) (tids : List ℤ) (d : ℤ) (w : World) :
    (((touchSession (w.sSessionIDCounter + 1)).post (w.newSession tgid uid tids d).2).sessions
      (w.sSessionIDCounter + 1)).mDescriptor.targetNs = d := by
  simp only [post, touchSession, now, bind_eq, run_bind, run_atomic, run_modify,
    sessions_modifySession_self]
  unfold newSession readClock
  dsimp only
  rw [Function.update_self]

theorem create_performs (tgid uid : ℤ) (tids : List ℤ) (d : ℤ) (w : World) :
    ∃ lo start, (Op.create tgid uid tids d).prog.Performs w
      (submit (w.sSessionIDCounter + 1) .CPU_VOTE_DEFAULT (.cpu lo kUclampMax) start d) := by
  -- the duration is that of the session object, which is read after the first note in it
  have hperforms : ∃ lo start, (Op.create tgid uid tids d).prog.Performs w
      (submit (w.sSessionIDCounter + 1) .CPU_VOTE_DEFAULT (.cpu lo kUclampMax) start
        (((touchSession (w.sSessionIDCounter + 1)).post (w.newSession tgid uid tids d).2).sessions
          (w.sSessionIDCounter + 1)).mDescriptor.targetNs) :=
    ⟨_, _, Performs.bind_left (Performs.bind_right (Performs.bind_right (Performs.bind_right
      (Performs.bind_right (Performs.bind_right (Performs.bind_right (Performs.bind_right
        (Performs.bind_right (Performs.bind_left (castVote_performs _ .CPU_VOTE_DEFAULT _ _ _ _))))))))))⟩
  rwa [target_touched] at hperforms

/-- The operation submits the vote, with the duration that it computes from the target. -/
theorem SetBy.performs {w : World} {s targetNs : ℤ} {v : TargetVote} {op : Op}
    (h : SetBy w s targetNs v op) :
    ∃ b start, b.fits v.voteId.toInt = true ∧
      op.prog.Performs w (submit s v.voteId b start (v.durationNs targetNs)) := by
  cases h with
  | create tgid uid tids hs =>
      obtain ⟨lo, start, hperforms⟩ := create_performs tgid uid tids targetNs w
      rw [hs]
      exact ⟨_, start, rfl, hperforms⟩
  | cpuLoadUp ht h =>
      subst ht
      exact ⟨_, _, rfl, sendHint_performs h (Performs.bind_right (Performs.bind_right
        (Performs.bind_right (castVote_performs s .CPU_LOAD_UP (.cpu _ _) _ _ _))))⟩
  | gpuLoadUp ht h =>
      subst ht
      exact ⟨_, _, rfl, sendHint_performs h (Performs.bind_right (Performs.bind_right
        (castVote_performs s .GPU_LOAD_UP (.gpu _) _ _ _)))⟩

end TargetVote

/-- **When the votes of an admitted target take effect.**  Every start time that leaves `2 ^ 62` ns to the
end of the clock is one at which the vote takes effect exactly if the target is not negative and the duration
of the vote, in exact numbers, is at most `2 ^ 62`.  A single start time asks for less: the window has to end
before the clock does.  The constructor and the hints that are not refused submit these votes, with the
target that the session has. -/
theorem target_votes_take_effect_iff {targetNs : ℤ} (h : Admitted targetNs) (v : TargetVote) (s : ℤ) :
    ((∀ start, -2 ^ 63 ≤ start → start ≤ 2 ^ 63 - 1 - 2 ^ 62 → v.TakesEffect s targetNs start) ↔
      0 ≤ targetNs ∧ v.factor * targetNs ≤ 2 ^ 62) ∧
    (∀ start, -2 ^ 63 ≤ start → (v.TakesEffect s targetNs start ↔
      0 ≤ targetNs ∧ v.factor * targetNs < 2 ^ 63 ∧ start + v.factor * targetNs < 2 ^ 63)) ∧
    ∀ w op, TargetVote.SetBy w s targetNs v op → ∃ b start, b.fits v.voteId.toInt = true ∧
      op.prog.Performs w (submit s v.voteId b start (v.durationNs targetNs)) := by
  obtain ⟨hlo, hhi⟩ := h.bounds
  have hone : ∀ start, -2 ^ 63 ≤ start → (v.TakesEffect s targetNs start ↔ _) :=
    fun start hstart => v.takesEffect_iff s hlo hhi hstart
  refine ⟨?_, hone, fun w op hset => hset.performs⟩
  constructor
  · intro hall
    have hlast := (hone _ (by decide)).1 (hall (2 ^ 63 - 1 - 2 ^ 62) (by decide) le_rfl)
    exact ⟨hlast.1, by omega⟩
  · rintro ⟨ht, hdur⟩ start hstart hend
    exact (hone start hstart).2 ⟨ht, by omega, by omega⟩

/-- The service with the profile of the tests. -/
def mockPower : Power where
  world := World.init {} makeMockConfig
  hasAdpfProfile := true

/-- `createHintSessionWithConfig` accepts every duration. -/
theorem mockPower_accepts (d : ℤ) :
    (mockPower.createHintSessionWithConfig 100 10000 [7] d).1 = .ok 1 :=
  congrArg Except.ok (createAndRegister_run 100 10000 [7] d mockPower.world).1

theorem admitted_iff {t : ℤ} : Admitted t ↔ -2 ^ 63 ≤ t ∧ t < 2 ^ 63 := by
  constructor
  · exact Admitted.bounds
  · rintro ⟨hlo, hhi⟩
    have hadmitted := Admitted.created mockPower 100 10000 [7] hlo hhi (mockPower_accepts t)
    rwa [Power.target_createHintSessionWithConfig (mockPower_accepts t)] at hadmitted

/-- At 60 frames a second the votes last. -/
theorem target_votes_take_effect_60fps :
    Admitted 16666666 ∧ TargetVote.cpuLoadUp.TakesEffect 1 16666666 0 := by
  have hadmitted : Admitted 16666666 := admitted_iff.2 ⟨by decide, by decide⟩
  refine ⟨hadmitted, ?_⟩
  exact (target_votes_take_effect_iff hadmitted .cpuLoadUp 1).1.2 ⟨by decide, by decide⟩ 0 (by decide)
    (by decide)

/-- A session that is created with a duration of `-1`: its first vote is over before it begins.  And for a
target of `2 ^ 62`, which `updateTargetWorkDuration` accepts, the duration of `CPU_LOAD_UP` is negative. -/
theorem target_votes_over_at_once :
    ((((mockPower.createHintSessionWithConfig 100 10000 [7] (-1)).2.world.mSessionTaskMap.votes? 1).bind
      fun vs => vs.timing? (AdpfVoteType.toInt .CPU_VOTE_DEFAULT)).map fun r =>
        (r.mDurationNs, r.isTimeInRange r.mStartTime, decide (r.mStartTime ≤ r.endTime))) =
      some (-1, false, false) ∧
    TargetVote.cpuLoadUp.durationNs (2 ^ 62) = -2 ^ 63 := by
  constructor
  · decide +kernel
  · decide

end Adpf
