/-
**Rules for operations that run alone.**

A property that holds between the operations of the service is, as a rule, broken and restored
inside of them: a flag or a vote changes first, and the clamps are refreshed a few actions later.
This module follows each operation through its actions once, for conditions that are left open, so
that a proof about such a property only has to say what the critical sections do to it.

What the operations do besides, to the clock, the events and the notes of a session object, is kept
out of the way: the conditions are *calm*, they do not depend on it.

Main definitions:

* `Adpf.Calm` — a condition that the clock, the events and the notes in session objects have no part
  in; `Adpf.Detached` — nor have session objects at all;
* `Adpf.Stable` — a calm condition that a vote set at the present time keeps; `Adpf.StableOn` — that
  the votes of one session keep;
* `Adpf.World.Stands` — the standing of a session object: whether it is closed, and active.

Main results:

* `Adpf.refresh_triple`, `Adpf.forceSessionActive_triple`, `Adpf.handleEvent_triple`,
  `Adpf.workerRound_triple` — the rules for the manager and the worker;
* `Adpf.pause_triple`, `Adpf.resume_triple`, `Adpf.close_triple`, `Adpf.setThreads_triple`,
  `Adpf.create_triple`, `Adpf.StableOn.sendHint` and their like — the rules for a session.
-/

import MotoCommon.Actions

set_option autoImplicit false

namespace Adpf

open Conc Prog World PowerSessionManager

variable {I J K : World → Prop}

/-! ### Calm conditions -/

/-- A condition that the clock, the events and the notes in session objects have no part in. -/
structure Calm (I : World → Prop) : Prop where
  quiet : ∀ {w w' : World}, Quiet w w' → I w → I w'
  events : ∀ {w : World} (d q r : List Timeout), I w →
    I { w with decided := d, queue := q, running := r }

/-- A condition that the clock, the events and the session objects have no part in. -/
structure Detached (I : World → Prop) : Prop where
  aside : ∀ {w w' : World}, Aside w w' → I w → I w'
  events : ∀ {w : World} (d q r : List Timeout), I w →
    I { w with decided := d, queue := q, running := r }

theorem Detached.calm (hI : Detached I) : Calm I := ⟨fun h => hI.aside h.toAside, hI.events⟩

theorem Calm.and (hI : Calm I) (hJ : Calm J) : Calm fun w => I w ∧ J w where
  quiet := fun h hw => ⟨hI.quiet h hw.1, hJ.quiet h hw.2⟩
  events := fun d q r hw => ⟨hI.events d q r hw.1, hJ.events d q r hw.2⟩

/-- Quiet actions keep a calm condition. -/
theorem Calm.within {α : Type} (hI : Calm I) {p : P α} (hp : p.Within Quiet) :
    Triple I p fun _ => I :=
  fun w hw => hI.quiet (hp.post Quiet.skip Quiet.trans w) hw

theorem Detached.within {α : Type} (hI : Detached I) {p : P α} (hp : p.Within Aside) :
    Triple I p fun _ => I :=
  fun w hw => hI.aside (hp.post Aside.skip Aside.trans w) hw

theorem Calm.now (hI : Calm I) : Triple I now fun t w => I w ∧ t = w.clock :=
  Triple.atomic fun w hw => ⟨hI.quiet (.readClock w) hw, rfl⟩

theorem Calm.schedule (hI : Calm I) (e : Timeout) : Triple I (schedule e) fun _ => I :=
  Triple.bind (Triple.critical (Triple.ret (Q := fun _ => I) fun _ hw => hw)) fun _ =>
    Triple.critical (Triple.modify fun w hw => hI.events _ _ w.running hw)

theorem Calm.updateUniversalBoostMode (hI : Calm I) :
    Triple I updateUniversalBoostMode fun _ => I :=
  hI.within (updateUniversalBoostMode_within' fun _ _ h => h)

/-- A condition that the profiles of the threads have no part in. -/
def Unprofiled (I : World → Prop) : Prop :=
  ∀ profile tid w, I w → I (w.setTaskProfile profile tid)

theorem Detached.unprofiled (hI : Detached I) : Unprofiled I :=
  fun profile tid w => hI.aside (.setTaskProfile w profile tid)

theorem Unprofiled.setTaskProfiles (hI : Unprofiled I) (profile : TaskProfile) (tids : List ℤ) :
    Triple I (setTaskProfiles profile tids) fun _ => I :=
  Triple.forEach (fun tid => Triple.modify fun w => hI profile tid w) tids

/-! ### The manager -/

/-- A refresh reads the clock and applies the votes of the session at that time. -/
theorem refresh_triple (hI : Calm I) (hJ : Calm J) (s : ℤ)
    (happly : ∀ w, I w → J (w.applyVotes s w.clock)) : Triple I (refresh s) fun _ => J := by
  refine Triple.bind hI.now fun t => ?_
  refine Triple.bind (Q := fun _ => J) (Triple.critical (Triple.modify ?_)) fun _ =>
    hJ.updateUniversalBoostMode
  rintro w ⟨hw, rfl⟩
  exact happly w hw

/-- `forceSessionActive`: the flag is written, then the session is refreshed, if it is there. -/
theorem forceSessionActive_triple (hJ : Calm J) (hK : Calm K) (s : ℤ) (b : Bool)
    (hforce : ∀ w, I w → J (w.forceSection s b).2)
    (habsent : ∀ w, I w → w.mSessionTaskMap.findSession s = none → K w)
    (happly : ∀ w, J w → K (w.applyVotes s w.clock)) :
    Triple I (forceSessionActive s b) fun _ => K := by
  refine Triple.bind (Q := fun found w => if found then J w else K w)
    (Triple.critical (Triple.atomic fun w hw => ?_)) fun found => ?_
  · cases hp : w.mSessionTaskMap.findSession s with
    | none =>
        rw [forceSection_none hp]
        exact habsent w hw hp
    | some p =>
        have h := hforce w hw
        rw [forceSection_some hp] at h ⊢
        exact h
  · cases found with
    | true => exact refresh_triple hJ hK s happly
    | false => exact Triple.ret fun w hw => hw

/-- `pause` and `resume`: nothing happens, or the flag is written and the session is refreshed. -/
theorem switchSession_triple (hJ : Calm J) (hI : Calm I) (s : ℤ) (b : Bool)
    (hforce : ∀ w, I w → J (w.forceSection s b).2)
    (happly : ∀ w, J w → I (w.applyVotes s w.clock)) :
    Triple I (do
      let changed ← Prog.critical Lock.mSessionTaskMapMutex (Prog.atomic (switchSection s b))
      Prog.when changed (refresh s)) fun _ => I := by
  refine Triple.bind (Q := fun changed w => if changed then J w else I w)
    (Triple.critical (Triple.atomic fun w hw => ?_)) fun changed => ?_
  · rcases switchSection_cases w s b with ⟨heq, -⟩ | ⟨heq, p, hp, -⟩
    · rw [heq]
      exact hw
    · have h := hforce w hw
      rw [heq, forceSection_some hp]
      rw [forceSection_some hp] at h
      exact h
  · cases changed with
    | true => exact refresh_triple hJ hI s happly
    | false => exact Triple.ret fun w hw => hw

/-- `setThreadsFromPowerSession`: the session is switched off, gets its threads, and is switched on
again.  In between the threads that came and those that went get their profiles. -/
theorem setThreadsFromPowerSession_profiles {R : List ℤ × List ℤ → World → Prop}
    {S : List ℤ → World → Prop} {L : World → Prop} (s : ℤ) (tids : List ℤ)
    (hoff : Triple I (forceSessionActive s false) fun _ => J)
    (hreplace : ∀ w, J w → R (w.replaceSection s tids).1 (w.replaceSection s tids).2)
    (hcame : ∀ threads, Triple (R threads) (setTaskProfiles .ResetUclampGrp threads.1) fun _ =>
      S threads.2)
    (hwent : ∀ removed, Triple (S removed) (setTaskProfiles .NoResetUclampGrp removed) fun _ => K)
    (hon : Triple K (forceSessionActive s true) fun _ => L) :
    Triple I (setThreadsFromPowerSession s tids) fun _ => L := by
  refine Triple.bind hoff fun _ => ?_
  refine Triple.bind (Q := R) (Triple.critical (Triple.atomic hreplace)) fun threads => ?_
  refine Triple.bind (hcame threads) fun _ => ?_
  exact Triple.bind (hwent threads.2) fun _ => hon

theorem setThreadsFromPowerSession_triple {L : World → Prop} (hK : Unprofiled K) (s : ℤ)
    (tids : List ℤ) (hoff : Triple I (forceSessionActive s false) fun _ => J)
    (hreplace : ∀ w, J w → K (w.replaceSection s tids).2)
    (hon : Triple K (forceSessionActive s true) fun _ => L) :
    Triple I (setThreadsFromPowerSession s tids) fun _ => L :=
  setThreadsFromPowerSession_profiles (R := fun _ => K) s tids hoff hreplace
    (fun threads => hK.setTaskProfiles _ threads.1) (fun removed => hK.setTaskProfiles _ removed) hon

/-- `removePowerSession`: the session is switched off and goes, and the threads that go with it get
their profile. -/
theorem removePowerSession_profiles {R : List ℤ → World → Prop} (hK : Calm K) (s : ℤ)
    (hoff : Triple I (forceSessionActive s false) fun _ => J)
    (hremove : ∀ w, J w → R (w.removeSection s).1 (w.removeSection s).2)
    (hwent : ∀ removed, Triple (R removed) (setTaskProfiles .NoResetUclampGrp removed) fun _ => K) :
    Triple I (removePowerSession s) fun _ => K := by
  refine Triple.bind hoff fun _ => ?_
  refine Triple.bind (Q := R) (Triple.critical (Triple.atomic hremove)) fun removed => ?_
  refine Triple.bind (hwent removed) fun _ => ?_
  exact Triple.critical (Triple.modify fun w hw => hK.quiet (.sessionMap w _) hw)

theorem removePowerSession_triple (hK : Calm K) (hprofile : Unprofiled K) (s : ℤ)
    (hoff : Triple I (forceSessionActive s false) fun _ => J)
    (hremove : ∀ w, J w → K (w.removeSection s).2) :
    Triple I (removePowerSession s) fun _ => K :=
  removePowerSession_profiles (R := fun _ => K) hK s hoff hremove
    fun removed => hprofile.setTaskProfiles _ removed

/-- `addPowerSession` adds the session and gives it its threads. -/
theorem addPowerSession_triple (hI : Calm I) (desc : AppHintDesc) (tids : List ℤ)
    (hadd : ∀ w, I w → J (w.addSection desc w.clock))
    (hset : Triple J (setThreadsFromPowerSession desc.sessionId tids) fun _ => K) :
    Triple I (addPowerSession (some desc) tids) fun _ => K := by
  refine Triple.bind hI.now fun t => ?_
  refine Triple.bind (Q := fun _ => J) (Triple.critical (Triple.modify ?_)) fun _ => hset
  rintro w ⟨hw, rfl⟩
  exact hadd w hw

theorem castVote_triple (hJ : Calm J) (s : ℤ) (v : AdpfVoteType) (b : Ballot) (t d : ℤ)
    (hvote : ∀ w, I w → J (w.voteSection (timeoutOf s v t d) d b).2) :
    Triple I (castVote s v b t d) fun _ => J := by
  refine Triple.bind (Q := fun _ => J) (Triple.critical (Triple.atomic hvote)) fun scheduled => ?_
  exact Triple.when (fun _ => hJ.schedule _) fun _ w hw => hw

/-- A vote that starts now. -/
theorem voteNow_triple (hI : Calm I) (hJ : Calm J) (s : ℤ) (v : AdpfVoteType) (b : Ballot) (d : ℤ)
    (hvote : ∀ w, I w → J (w.voteSection (timeoutOf s v w.clock d) d b).2) :
    Triple I (now.bind fun t => castVote s v b t d) fun _ => J := by
  refine Triple.bind hI.now fun t => castVote_triple hJ s v b t d ?_
  rintro w ⟨hw, rfl⟩
  exact hvote w hw

/-- `handleEvent`: a vote that has timed out is switched off, and its session is refreshed. -/
theorem handleEvent_triple (hI : Calm I) (e : Timeout)
    (hexpire : ∀ w, I w → (w.expireSection e w.clock).1 = .expired →
      J (w.expireSection e w.clock).2)
    (happly : ∀ w, J w → I (w.applyVotes e.sessionId w.clock)) :
    Triple I (handleEvent e) fun _ => I := by
  refine Triple.bind hI.now fun t => ?_
  -- the clock is not read again before the votes are applied
  refine Triple.bind (Q := fun verdict w =>
    if verdict = .expired then J w ∧ t = w.clock else I w) (Triple.critical ?_) fun verdict => ?_
  · refine Triple.bind (Q := fun verdict w =>
      if verdict = .expired then J w ∧ t = w.clock else I w) (Triple.atomic ?_) fun verdict => ?_
    · rintro w ⟨hw, rfl⟩
      cases hp : w.mSessionTaskMap.findSession e.sessionId with
      | none =>
          rw [expireSection_none hp]
          exact hI.events _ _ _ hw
      | some p =>
          have hexp := hexpire w hw
          rcases expireSection_cases hp w.clock with ⟨-, heq⟩ | ⟨-, -, heq⟩ | ⟨-, -, heq⟩
          · rw [heq]
            exact hI.events _ _ _ hw
          · rw [heq] at hexp ⊢
            refine ⟨hexp rfl, ?_⟩
            rw [onlyMap_writeVotes]
          · rw [heq]
            exact hI.events _ _ _ hw
    · cases verdict with
      | drop => exact fun w hw => hw
      | expired => exact fun w hw => hw
      | requeue e' => exact Triple.bind (hI.schedule e') fun _ => Triple.ret fun w hw => hw
  · refine Triple.when (fun hv => ?_) fun hv w hw => ?_
    · refine Triple.bind (Q := fun _ => I) (Triple.critical (Triple.modify fun w hw => ?_)) fun _ =>
        hI.updateUniversalBoostMode
      rw [if_pos (by simpa using hv)] at hw
      obtain ⟨hw, rfl⟩ := hw
      exact happly w hw
    · rwa [if_neg (by simpa using hv)] at hw

theorem workerRound_triple (hI : Calm I) (i : ℕ)
    (hevent : ∀ e, Triple I (handleEvent e) fun _ => I) : Triple I (workerRound i) fun _ => I := by
  refine Triple.bind (Q := fun _ => I) (Triple.critical (Triple.atomic fun w hw => ?_))
    fun event => ?_
  · unfold World.pop
    split
    · exact hw
    · exact hI.events w.decided _ _ hw
  · cases event with
    | none => exact fun w hw => hw
    | some e =>
        exact Triple.critical (Triple.bind (Triple.critical (Triple.ret (Q := fun _ => I)
          fun w hw => hw)) fun _ => hevent e)

/-! ### A session -/

open PowerHintSession

theorem Calm.self (hI : Calm I) (s : ℤ) : Triple I (self s) fun _ => I :=
  hI.within (Within.read fun w => .skip w)

theorem Calm.getAdpfProfile (hI : Calm I) : Triple I getAdpfProfile fun _ => I :=
  hI.within (Within.read fun w => .skip w)

theorem Calm.modifySession (hI : Calm I) (s : ℤ) {f : PowerHintSession → PowerHintSession}
    (hf : ∀ x : PowerHintSession, x.Alike (f x)) :
    Triple I (Prog.modify (World.modifySession s f) : P Unit) fun _ => I :=
  hI.within (Within.modify fun w => .modifySession w (hf _))

theorem Calm.modifyDescriptor (hI : Calm I) (s : ℤ) {f : AppHintDesc → AppHintDesc}
    (hf : ∀ d, (f d).is_active = d.is_active ∧ (f d).sessionId = d.sessionId ∧
      (f d).targetNs = d.targetNs) :
    Triple I (Prog.modify (World.modifyDescriptor s f) : P Unit) fun _ => I :=
  hI.modifySession s fun x =>
    ⟨⟨rfl, (hf x.mDescriptor).1, rfl, (hf x.mDescriptor).2.1⟩, (hf x.mDescriptor).2.2⟩

theorem Calm.touchSession (hI : Calm I) (s : ℤ) : Triple I (touchSession s) fun _ => I :=
  hI.within (Within.bind (now_within' fun _ _ h => h) fun _ =>
    Within.modify fun w => .modifySession w ⟨⟨rfl, rfl, rfl, rfl⟩, rfl⟩)

theorem Calm.tryToSendPowerHint (hI : Calm I) (s : ℤ) (hint : String) :
    Triple I (tryToSendPowerHint s hint) fun _ => I :=
  hI.within (Within.modify fun w => .sendPowerHint w s hint)

theorem Calm.isTimeout (hI : Calm I) (s : ℤ) : Triple I (isTimeout s) fun _ => I :=
  hI.within (Within.bind (now_within' fun _ _ h => h) fun _ =>
    Within.bind (Within.read fun w => .skip w) fun _ =>
      Within.bind (Within.read fun w => .skip w) fun _ => Within.ret _)

theorem Op.post_session (s : ℤ) (op : SessionOp) (w : World) :
    (Op.session s op).prog.post w = (op.prog s).post w := by
  simp only [Op.prog, discard, post, pure_eq, run_bind, run_ret]

theorem Op.post_create (tgid uid : ℤ) (tids : List ℤ) (d : ℤ) (w : World) :
    (Op.create tgid uid tids d).prog.post w = (PowerHintSession.create tgid uid tids d).post w := by
  simp only [Op.prog, discard, post, pure_eq, run_bind, run_ret]

/-- The standing of a session object: whether it is closed, and whether it is active. -/
def World.Stands (s : ℤ) (closed active : Bool) (w : World) : Prop :=
  (w.sessions s).mSessionClosed = closed ∧ (w.sessions s).mDescriptor.is_active = active

theorem World.Stands.calm (s : ℤ) (closed active : Bool) : Calm (World.Stands s closed active) where
  quiet := fun h hw => ⟨(h.sessions s).closed.trans hw.1, (h.sessions s).active.trans hw.2⟩
  events := fun _ _ _ hw => hw

theorem whileOpen_run_closed {s : ℤ} {w : World} (h : (w.sessions s).mSessionClosed = true)
    (p : PowerHintSession → P Status) : (whileOpen s p).run w = (.illegalState, w) := by
  unfold whileOpen
  rw [run_critical, bind_eq, run_bind]
  show ((if (w.sessions s).mSessionClosed = true then _ else _ : P Status).run w) = _
  rw [if_pos h]
  rfl

theorem whileOpen_run_open {s : ℤ} {w : World} (h : (w.sessions s).mSessionClosed = false)
    (p : PowerHintSession → P Status) : (whileOpen s p).run w = (p (w.sessions s)).run w := by
  unfold whileOpen
  rw [run_critical, bind_eq, run_bind]
  show ((if (w.sessions s).mSessionClosed = true then _ else _ : P Status).run w) = _
  rw [if_neg (by simp [h])]
  rfl

/-- An operation on a session is refused, or its body runs on an open session. -/
theorem whileOpen_triple (s : ℤ) {p : PowerHintSession → P Status}
    (hrefuse : ∀ w, I w → (w.sessions s).mSessionClosed = true → K w)
    (hp : ∀ self : PowerHintSession, self.mSessionClosed = false →
      Triple (fun w => I w ∧ w.sessions s = self) (p self) fun _ => K) :
    Triple I (whileOpen s p) fun _ => K := by
  refine Triple.critical (Triple.bind (Q := fun self w => I w ∧ w.sessions s = self)
    (Triple.read fun w hw => ⟨hw, rfl⟩) fun self => ?_)
  by_cases hclosed : self.mSessionClosed = true
  · rw [if_pos hclosed]
    exact Triple.ret fun w hw => hrefuse w hw.1 (hw.2.symm ▸ hclosed)
  · rw [if_neg hclosed]
    exact hp self (by simpa using hclosed)

/-- An operation on a session keeps a condition that its body keeps. -/
theorem whileOpen_keeps (s : ℤ) {p : PowerHintSession → P Status}
    (hp : ∀ self, Triple I (p self) fun _ => I) : Triple I (whileOpen s p) fun _ => I :=
  whileOpen_triple s (fun _ hw _ => hw) fun self _ => (hp self).imp (fun _ hw => hw.1) fun _ _ hw => hw

/-- How long the vote of `updatePidControlVariable` lasts. -/
def controlDuration (adpfConfig : AdpfConfig) (targetNs : ℤ) : ℤ :=
  max (scaleNanos targetNs adpfConfig.mStaleTimeFactor) (toInt64 (adpfConfig.mReportingRateLimitNs * 2))

/-- The duration that this vote of a session has in a state. -/
def World.controlDuration (w : World) (s : ℤ) : ℤ :=
  Adpf.controlDuration w.adpfConfig (w.sessions s).mDescriptor.targetNs

/-- `updatePidControlVariable` with the vote. -/
theorem updatePidControlVariable_triple (hI : Calm I) (hJ : Calm J) (s x : ℤ)
    (hvote : ∀ lo hi w, I w → J (w.voteSection (timeoutOf s .CPU_VOTE_DEFAULT w.clock
      (w.controlDuration s)) (w.controlDuration s) (.cpu lo hi)).2) :
    Triple I (updatePidControlVariable s x true) fun _ => J := by
  refine Triple.bind (hI.modifyDescriptor s fun _ => ⟨rfl, rfl, rfl⟩) fun _ => ?_
  refine Triple.bind (Q := fun c w => I w ∧ w.adpfConfig = c) (Triple.read fun w hw => ⟨hw, rfl⟩)
    fun c => ?_
  refine Triple.bind (Q := fun self w => I w ∧ w.controlDuration s =
    controlDuration c self.mDescriptor.targetNs) (Triple.read ?_) fun self => ?_
  · rintro w ⟨hw, rfl⟩
    exact ⟨hw, rfl⟩
  -- what was read is still so when the vote is cast
  have hread : Calm fun w => w.controlDuration s = controlDuration c self.mDescriptor.targetNs := by
    refine ⟨fun hq hw => ?_, fun _ _ _ hw => hw⟩
    rw [← hw, World.controlDuration, World.controlDuration, hq.adpfConfig, (hq.sessions s).target]
  refine voteNow_triple (hI.and hread) hJ s _ _ _ ?_
  rintro w ⟨hw, hd⟩
  have hcast := hvote x kUclampMax w hw
  rwa [hd] at hcast

theorem Detached.recordDurations (hI : Detached I) (s : ℤ) (ds : List WorkDuration) :
    Triple I (recordDurations s ds) fun _ => I := by
  refine hI.within (Within.bind (Within.read fun w => .skip w) fun _ => ?_)
  refine Within.bind (Within.modify fun w => .withRecords w s _) fun _ => ?_
  exact Within.bind (Within.read fun w => .skip w) fun _ => Within.modify fun w => .withRecords w s _

/-- The part of a report about the CPU votes once. -/
theorem reportCpu_triple {R : World → Prop} (hI : Calm I) (hJ : Calm J) (s : ℤ) (c : AdpfConfig)
    (ds : List WorkDuration)
    (hrecord : Triple R (Prog.when c.heuristicBoostOn (recordDurations s ds)) fun _ => I)
    (hvote : ∀ lo hi w, I w → J (w.voteSection (timeoutOf s .CPU_VOTE_DEFAULT w.clock
      (w.controlDuration s)) (w.controlDuration s) (.cpu lo hi)).2) :
    Triple R (reportCpu s c ds) fun _ => J := by
  refine Triple.bind hrecord fun _ => ?_
  refine Triple.bind (hI.within (Within.atomic fun w => .convertSection s ds w)) fun output => ?_
  exact Triple.bind (hI.self s) fun _ => updatePidControlVariable_triple hI hJ s _ hvote

/-- The beginning of a report: apart from actions aside, the boosts are disabled. -/
theorem beginReport_triple (hI : Calm I) (s : ℤ)
    (hdisable : ∀ w, I w → J (w.disableSection s)) : Triple I (beginReport s) fun _ => J := by
  have hfirst : (firstFrame s).Within Quiet := by
    refine Within.bind (Within.read fun w => .skip w) fun _ => ?_
    exact Within.bind (Within.when (Within.modify fun w => .sendPowerHint w s _)) fun _ =>
      updateUniversalBoostMode_within' fun _ _ h => h
  refine Triple.bind (hI.modifyDescriptor s fun _ => ⟨rfl, rfl, rfl⟩) fun _ => ?_
  refine Triple.bind (hI.isTimeout s) fun _ => ?_
  refine Triple.bind (hI.touchSession s) fun _ => ?_
  refine Triple.bind (hI.within (Within.when hfirst)) fun _ => ?_
  exact Triple.critical (Triple.modify hdisable)

/-- A report whose last duration is `back` is accepted: the session is open and active, and has a
target. -/
def World.Accepts (w : World) (s : ℤ) (ds : List WorkDuration) (back : WorkDuration) : Prop :=
  w.Stands s false true ∧ (w.sessions s).mDescriptor.targetNs ≠ 0 ∧ ds.getLast? = some back

theorem report_post_of_accepts {w : World} {s : ℤ} {ds : List WorkDuration} {back : WorkDuration}
    (h : w.Accepts s ds back) :
    (reportActualWorkDuration s ds).post w = (acceptReport s ds back).post w := by
  obtain ⟨⟨hopen, hact⟩, htarget, hback⟩ := h
  unfold post reportActualWorkDuration
  rw [whileOpen_run_open hopen, if_neg htarget, hback]
  dsimp only
  rw [if_pos hact]

/-- What an accepted report comes to, with the profile that is in force. -/
theorem acceptReport_post {w : World} {s : ℤ} {ds : List WorkDuration} {back : WorkDuration}
    (hI : Calm I) (hw : I w) (hdisable : ∀ w, I w → J (w.disableSection s))
    (hvotes : Triple J (reportVotes s w.adpfConfig ds back) fun _ => K) :
    K ((acceptReport s ds back).post w) := by
  have hreport : Triple I (do
      beginReport s
      reportVotes s w.adpfConfig ds back
      pure Status.ok) fun _ => K := by
    refine Triple.bind (beginReport_triple hI s hdisable) fun _ => ?_
    exact Triple.bind hvotes fun _ => Triple.ret fun _ hk => hk
  exact hreport w hw

theorem report_post_of_refused {w : World} {s : ℤ} {ds : List WorkDuration}
    (h : ∀ back, ¬ w.Accepts s ds back) : (reportActualWorkDuration s ds).post w = w := by
  unfold post reportActualWorkDuration
  cases hclosed : (w.sessions s).mSessionClosed with
  | true => rw [whileOpen_run_closed hclosed]
  | false =>
      rw [whileOpen_run_open hclosed]
      by_cases htarget : (w.sessions s).mDescriptor.targetNs = 0
      · rw [if_pos htarget]
        rfl
      rw [if_neg htarget]
      cases hback : ds.getLast? with
      | none => rfl
      | some back =>
          dsimp only
          rw [if_neg fun hact => h back ⟨⟨hclosed, hact⟩, htarget, hback⟩]
          rfl

/-- A report that is accepted, and one that is not. -/
theorem Calm.reportActualWorkDuration (hI : Calm I) (s : ℤ) (ds : List WorkDuration)
    (hdisable : ∀ w, I w → J (w.disableSection s))
    (hvotes : ∀ c back, Triple J (reportVotes s c ds back) fun _ => I) :
    Triple I (reportActualWorkDuration s ds) fun _ => I := by
  have hrefuse : ∀ status, Triple I (Prog.ret status : P Status) fun _ => I :=
    fun _ => Triple.ret fun w hw => hw
  refine whileOpen_keeps s fun self => ?_
  by_cases hzero : self.mDescriptor.targetNs = 0
  · rw [if_pos hzero]
    exact hrefuse _
  rw [if_neg hzero]
  cases ds.getLast? with
  | none => exact hrefuse _
  | some back =>
      by_cases hact : self.mDescriptor.is_active = true
      · simp only [hact, if_true]
        refine Triple.bind hI.getAdpfProfile fun c => ?_
        refine Triple.bind (beginReport_triple hI s hdisable) fun _ => ?_
        exact Triple.bind (hvotes c back) fun _ => hrefuse _
      · simp only [hact]
        exact hrefuse _

/-- `pause` of a session that is active: it loses its threads, is noted as paused, and is switched
off in the manager. -/
theorem pause_triple {L : World → Prop} (s : ℤ)
    (hrefuse : ∀ w, I w → ¬ w.Stands s false true → L w)
    (hset : Triple (fun w => I w ∧ w.Stands s false true) (setThreadsFromPowerSession s []) fun _ => J)
    (hflag : ∀ w, J w → K (w.modifyDescriptor s fun d => { d with is_active := false }))
    (hpause : Triple K (PowerSessionManager.pause s) fun _ => L) :
    Triple I (PowerHintSession.pause s) fun _ => L := by
  refine whileOpen_triple s (fun w hw hclosed => ?_) fun self hopen => ?_
  · exact hrefuse w hw fun hst => absurd (hst.1.symm.trans hclosed) (by decide)
  by_cases hact : self.mDescriptor.is_active = true
  · rw [if_pos hact]
    refine Triple.bind (hset.imp ?_ fun _ _ hw => hw) fun _ => ?_
    · rintro w ⟨hw, rfl⟩
      exact ⟨hw, hopen, hact⟩
    refine Triple.bind (Q := fun _ => K) (Triple.modify hflag) fun _ => ?_
    exact Triple.bind hpause fun _ => Triple.ret fun w hw => hw
  · rw [if_neg hact]
    refine Triple.ret ?_
    rintro w ⟨hw, rfl⟩
    exact hrefuse w hw fun hst => hact hst.2

/-- `resume` of a session that is paused: it gets its threads back, is noted as active, and is
switched on in the manager. -/
theorem resume_triple {L : World → Prop} (s : ℤ)
    (hrefuse : ∀ w, I w → ¬ w.Stands s false false → L w)
    (hset : ∀ tids, Triple (fun w => I w ∧ w.Stands s false false)
      (setThreadsFromPowerSession s tids) fun _ => J)
    (hflag : ∀ w, J w → K (w.modifyDescriptor s fun d => { d with is_active := true }))
    (hresume : Triple K (PowerSessionManager.resume s) fun _ => L) :
    Triple I (PowerHintSession.resume s) fun _ => L := by
  refine whileOpen_triple s (fun w hw hclosed => ?_) fun self hopen => ?_
  · exact hrefuse w hw fun hst => absurd (hst.1.symm.trans hclosed) (by decide)
  by_cases hact : self.mDescriptor.is_active = true
  · rw [if_pos hact]
    refine Triple.ret ?_
    rintro w ⟨hw, rfl⟩
    exact hrefuse w hw fun hst => absurd (hst.2.symm.trans hact) (by decide)
  · rw [if_neg hact]
    refine Triple.bind ((hset _).imp ?_ fun _ _ hw => hw) fun _ => ?_
    · rintro w ⟨hw, rfl⟩
      exact ⟨hw, hopen, by simpa using hact⟩
    refine Triple.bind (Q := fun _ => K) (Triple.modify hflag) fun _ => ?_
    exact Triple.bind hresume fun _ => Triple.ret fun w hw => hw

/-- `close` of a session: it is noted as closed, and removed from the manager. -/
theorem close_triple {L : World → Prop} (s : ℤ)
    (hrefuse : ∀ w, I w → (w.sessions s).mSessionClosed = true → L w)
    (hclose : ∀ w, I w → J (w.modifySession s fun x => { x with mSessionClosed := true }))
    (hremove : Triple J (removePowerSession s) fun _ => K)
    (hflag : ∀ w, K w → L (w.modifyDescriptor s fun d => { d with is_active := false })) :
    Triple I (PowerHintSession.close s) fun _ => L := by
  refine whileOpen_triple s hrefuse fun self _ => ?_
  refine Triple.bind (Q := fun _ => J) (Triple.modify fun w hw => hclose w hw.1) fun _ => ?_
  refine Triple.bind hremove fun _ => ?_
  exact Triple.bind (Q := fun _ => L) (Triple.modify hflag) fun _ => Triple.ret fun w hw => hw

/-- The destructor closes the session, if it is open. -/
theorem destroy_triple (s : ℤ) (hclose : Triple I (PowerHintSession.close s) fun _ => J)
    (hgone : ∀ w, J w → K (w.modifySession s fun x => { x with destroyed := true })) :
    Triple I (PowerHintSession.destroy s) fun _ => K := by
  refine Triple.bind hclose fun _ => ?_
  exact Triple.bind (Q := fun _ => K) (Triple.modify hgone) fun _ => Triple.ret fun w hw => hw

/-! ### Conditions that votes keep -/

/-- A calm condition that a vote set at the present time keeps. -/
structure Stable (I : World → Prop) : Prop extends Calm I where
  vote : ∀ (s : ℤ) (v : AdpfVoteType) (d : ℤ) (b : Ballot) (w : World), I w →
    I (w.voteSection (timeoutOf s v w.clock d) d b).2

/-- A calm condition that the votes of one session keep, with the duration that its operations give
to the default vote. -/
structure StableOn (s : ℤ) (I : World → Prop) : Prop extends Calm I where
  vote : ∀ (v : AdpfVoteType) (d : ℤ) (b : Ballot) (w : World),
    (v = .CPU_VOTE_DEFAULT → d = w.controlDuration s) → I w →
    I (w.voteSection (timeoutOf s v w.clock d) d b).2

theorem Stable.on (hI : Stable I) (s : ℤ) : StableOn s I :=
  ⟨hI.toCalm, fun v d b w _ hw => hI.vote s v d b w hw⟩

namespace StableOn

variable {s : ℤ}

/-- A vote other than the default one. -/
theorem voteNow (hI : StableOn s I) {v : AdpfVoteType} (hv : v ≠ .CPU_VOTE_DEFAULT) (b : Ballot)
    (d : ℤ) : Triple I (now.bind fun t => castVote s v b t d) fun _ => I :=
  voteNow_triple hI.toCalm hI.toCalm s v b d fun w hw => hI.vote v d b w (fun h => absurd h hv) hw

theorem updatePidControlVariable (hI : StableOn s I) (x : ℤ) (b : Bool) :
    Triple I (updatePidControlVariable s x b) fun _ => I := by
  cases b with
  | true =>
      exact updatePidControlVariable_triple hI.toCalm hI.toCalm s x fun lo hi w hw =>
        hI.vote _ _ (.cpu lo hi) w (fun _ => rfl) hw
  | false =>
      exact Triple.bind (hI.modifyDescriptor s fun _ => ⟨rfl, rfl, rfl⟩) fun _ =>
        Triple.ret fun w hw => hw

theorem reportGpu (hI : StableOn s I) (hread : ∀ w, I w → I w.readGpuFrequency.2) (c : AdpfConfig)
    (back : WorkDuration) : Triple I (reportGpu s c back) fun _ => I := by
  unfold PowerHintSession.reportGpu
  cases gpuCapacityMax c back with
  | none => exact Triple.ret fun w hw => hw
  | some capacityMax =>
      refine Triple.bind (Q := fun _ => I) (Triple.atomic hread) fun gpu_freq => ?_
      cases gpu_freq with
      | none => exact Triple.ret fun w hw => hw
      | some freq =>
          refine Triple.bind (hI.self s) fun _ => ?_
          exact Triple.bind (Triple.read fun _ hw => hw) fun _ => hI.voteNow (by decide) _ _

theorem reportVotes (hI : StableOn s I) (hread : ∀ w, I w → I w.readGpuFrequency.2)
    (c : AdpfConfig) (ds : List WorkDuration)
    (hrecord : Triple I (recordDurations s ds) fun _ => I) (back : WorkDuration) :
    Triple I (reportVotes s c ds back) fun _ => I := by
  unfold PowerHintSession.reportVotes
  cases hpid : c.mPidOn with
  | true =>
      have hwhen := Triple.when (c := c.heuristicBoostOn) (fun _ => hrecord) fun _ w hw => hw
      refine Triple.bind (reportCpu_triple hI.toCalm hI.toCalm s c ds hwhen ?_)
        fun _ => hI.reportGpu hread c back
      exact fun lo hi w hw => hI.vote _ _ (.cpu lo hi) w (fun _ => rfl) hw
  | false => exact hI.updatePidControlVariable _ true

/-- `sendHint`, with any hint that does not concern power efficiency. -/
theorem sendHint (hI : StableOn s I) {hint : SessionHint} (hhint : hint ≠ .POWER_EFFICIENCY) :
    Triple I (sendHint s hint) fun _ => I := by
  have hskip : Triple I (Prog.ret () : P Unit) fun _ => I := Triple.ret fun w hw => hw
  have hvotes : ∀ self, Triple I (sendHintVotes s self hint) fun _ => I := by
    intro self
    cases hint with
    | CPU_LOAD_UP =>
        refine Triple.bind hI.getAdpfProfile fun _ => ?_
        exact Triple.bind (hI.updatePidControlVariable _ true) fun _ => hI.voteNow (by decide) _ _
    | CPU_LOAD_DOWN =>
        exact Triple.bind hI.getAdpfProfile fun _ => hI.updatePidControlVariable _ true
    | CPU_LOAD_RESET =>
        refine Triple.bind hI.getAdpfProfile fun _ => ?_
        exact Triple.bind (hI.updatePidControlVariable _ false) fun _ => hI.voteNow (by decide) _ _
    | CPU_LOAD_RESUME => exact Triple.bind hI.getAdpfProfile fun _ => hI.voteNow (by decide) _ _
    | POWER_EFFICIENCY => exact absurd rfl hhint
    | GPU_LOAD_UP => exact Triple.bind hI.getAdpfProfile fun _ => hI.voteNow (by decide) _ _
    | GPU_LOAD_DOWN => exact hskip
    | GPU_LOAD_RESET => exact hskip
    | unknown raw => exact hskip
  refine whileOpen_keeps s fun self => ?_
  by_cases hzero : self.mDescriptor.targetNs = 0
  · rw [if_pos hzero]
    exact Triple.ret fun w hw => hw
  rw [if_neg hzero]
  by_cases hknown : knownHint hint = true
  · rw [if_pos hknown]
    refine Triple.bind (hvotes self) fun _ => ?_
    refine Triple.bind (hI.tryToSendPowerHint s _) fun _ => ?_
    exact Triple.bind (hI.touchSession s) fun _ => Triple.ret fun w hw => hw
  · rw [if_neg hknown]
    exact Triple.ret fun w hw => hw

end StableOn

/-- `setThreads` of a session: besides its threads, it gets a new vote. -/
theorem setThreads_triple (hI : Calm I) (hK : Stable K) (s : ℤ) (tids : List ℤ)
    (hrefuse : ∀ w, I w → (w.sessions s).mSessionClosed = true ∨ tids = [] → K w)
    (hset : tids ≠ [] → ∀ active, Triple (fun w => I w ∧ w.Stands s false active)
      (setThreadsFromPowerSession s tids) fun _ => K) :
    Triple I (setThreads s tids) fun _ => K := by
  refine whileOpen_triple s (fun w hw hclosed => hrefuse w hw (Or.inl hclosed)) fun self hopen => ?_
  by_cases hempty : tids.isEmpty = true
  · rw [if_pos hempty]
    exact Triple.ret fun w hw => hrefuse w hw.1 (Or.inr (List.isEmpty_iff.1 hempty))
  · rw [if_neg hempty]
    have hnote := (hI.and (Stands.calm s false self.mDescriptor.is_active)).modifyDescriptor s
      (f := fun d => { d with thread_ids := tids }) fun _ => ⟨rfl, rfl, rfl⟩
    refine Triple.bind (hnote.imp ?_ fun _ _ hw => hw) fun _ => ?_
    · rintro w ⟨hw, rfl⟩
      exact ⟨hw, hopen, rfl⟩
    refine Triple.bind (hset (fun hnil => hempty (List.isEmpty_iff.2 hnil)) _) fun _ => ?_
    refine Triple.bind hK.getAdpfProfile fun _ => ?_
    exact Triple.bind ((hK.on s).updatePidControlVariable _ true) fun _ => Triple.ret fun w hw => hw

/-- The constructor: the session object, the session in the manager, and its first votes. -/
theorem create_triple {J : ℤ → World → Prop} (hJ : ∀ sid, Calm (J sid)) (hK : Stable K)
    (tgid uid : ℤ) (tids : List ℤ) (d : ℤ)
    (hnew : ∀ w, I w → J (w.newSession tgid uid tids d).1 (w.newSession tgid uid tids d).2)
    (hadd : ∀ sid self, Triple (fun w => J sid w ∧ w.sessions sid = self)
      (addPowerSession (some self.mDescriptor) tids) fun _ => K) :
    Triple I (create tgid uid tids d) fun _ => K := by
  refine Triple.bind (Q := J) (Triple.atomic hnew) fun sid => ?_
  refine Triple.bind ((hJ sid).touchSession sid) fun _ => ?_
  refine Triple.bind (Q := fun self w => J sid w ∧ w.sessions sid = self)
    (Triple.read fun w hw => ⟨hw, rfl⟩) fun self => ?_
  refine Triple.bind (hadd sid self) fun _ => Triple.bind hK.getAdpfProfile fun _ => ?_
  refine Triple.bind hK.now fun t => ?_
  refine Triple.bind (Q := fun _ => K) (castVote_triple hK.toCalm sid _ _ t _ ?_) fun _ => ?_
  · rintro w ⟨hw, rfl⟩
    exact hK.vote _ _ _ _ w hw
  refine Triple.bind hK.now fun t => ?_
  refine Triple.bind (Q := fun _ => K) (castVote_triple hK.toCalm sid _ _ t _ ?_) fun _ =>
    Triple.ret fun w hw => hw
  rintro w ⟨hw, rfl⟩
  exact hK.vote _ _ _ _ w hw

end Adpf
