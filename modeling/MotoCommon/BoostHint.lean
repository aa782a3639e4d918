/-
**The hint that disables the top-app boost.**

`updateUniversalBoostMode` asks whether some app session is active and has a vote in range, and calls
the hint manager accordingly.  It does so when a session's flag changes, at the first frame after a
while, and when a vote expires; votes that are set, or run out, do not lead to another question.  So
the hint is what the last question found.  When that is right is the subject of
`MotoCommon/BoostHintRuns.lean`.

Main definitions:

* `Adpf.World.boostDisabled`, `Adpf.World.anyAppActive` — the hint, and what it is to follow;
* `Adpf.Op.checkpoint` — the state in which an operation asks for the last time.

Main results:

* `Adpf.SessionTaskMap.isAnyAppSessionActive_iff` — the question, in terms of the sessions;
* `Adpf.Op.boostDisabled_post` — **one operation**: the hint is the answer to its last question, or
  what it was;
* `Adpf.workerRound_heeds` — the worker asks exactly if its event finds its vote timed out.
-/

import MotoCommon.CpuBoost
import MotoCommon.SessionStatus

set_option autoImplicit false

namespace Adpf

open Conc World Prog PowerHintSession SessionTaskMap

/-! ### The hint and what it follows -/

/-- The hint that a call of the hint manager is about. -/
def HintCall.hint : HintCall → String
  | .doHint hint => hint
  | .endHint hint => hint

namespace World

/-- The boost is disabled: the last call about `kDisableBoostHintName` was `DoHint`. -/
def boostDisabled (w : World) : Bool :=
  match w.hintCalls.find? fun call => call.hint == w.env.disableBoostHintName with
  | some (.doHint _) => true
  | _ => false

/-- Some app session is active and has a vote in range, at the time of the clock. -/
def anyAppActive (w : World) : Bool := w.mSessionTaskMap.isAnyAppSessionActive w.clock

/-- The hint is right. -/
def BoostFollows (w : World) : Prop := w.boostDisabled = w.anyAppActive

end World

/-- The hint is supported, and no other hint of a session has its name. -/
structure Env.BoostHint (env : Env) : Prop where
  supported : env.isHintSupported env.disableBoostHintName = true
  first_frame : "ADPF_FIRST_FRAME" ≠ env.disableBoostHintName
  session_hint : ∀ hint : SessionHint, hint.toString ≠ env.disableBoostHintName

/-- What `isAnyAppSessionActive` asks. -/
theorem SessionTaskMap.isAnyAppSessionActive_iff (m : SessionTaskMap) (t : ℤ) :
    m.isAnyAppSessionActive t = true ↔ ∃ s v vs, m.state? s = some v ∧ m.votes? s = some vs ∧
      v.isAppSession = true ∧ v.isActive = true ∧ vs.allTimedOut t = false := by
  unfold SessionTaskMap.isAnyAppSessionActive
  rw [List.any_eq_true]
  constructor
  · rintro ⟨⟨s, e⟩, he, h⟩
    have hfind := findSession_of_lookup ((UMap.mem_entries_iff _ _ _).1 he)
    simp only [Bool.and_eq_true, Bool.not_eq_true'] at h
    exact ⟨s, _, _, state?_of_findSession hfind, votes?_of_findSession hfind, h.1.1, h.1.2, h.2⟩
  · rintro ⟨s, v, vs, hv, hvs, happ, hact, htime⟩
    obtain ⟨p, hfind, rfl⟩ := votes?_eq_some hvs
    obtain ⟨e, he, rfl⟩ := findSession_eq_some hfind
    rw [state?_of_findSession hfind, Option.some.injEq] at hv
    subst hv
    refine ⟨⟨s, e⟩, (UMap.mem_entries_iff _ _ _).2 he, ?_⟩
    simp only [Bool.and_eq_true, Bool.not_eq_true']
    exact ⟨⟨happ, hact⟩, htime⟩

/-- A session that is off plays no part, so that it can go. -/
theorem World.anyAppActive_removeSection {w : World} {s : ℤ} (hw : Wf w.mSessionTaskMap)
    (hoff : Off s w) : (w.removeSection s).2.anyAppActive = w.anyAppActive := by
  rw [Bool.eq_iff_iff]
  unfold World.anyAppActive
  rw [isAnyAppSessionActive_iff, isAnyAppSessionActive_iff]
  constructor
  · rintro ⟨s', v, vs, hv, hvs, h⟩
    rw [state?_removeSection hw] at hv
    rw [votes?_removeSection hw] at hvs
    by_cases hs : s' = s
    · rw [if_pos hs] at hv
      cases hv
    · rw [if_neg hs] at hv hvs
      exact ⟨s', v, vs, hv, hvs, h⟩
  · rintro ⟨s', v, vs, hv, hvs, happ, hact, h⟩
    have hs : s' ≠ s := by
      rintro rfl
      rw [hoff v hv] at hact
      cases hact
    refine ⟨s', v, vs, ?_, ?_, happ, hact, h⟩
    · rw [state?_removeSection hw, if_neg hs, hv]
    · rw [votes?_removeSection hw, if_neg hs, hvs]

/-! ### Programs that end with a question -/

section Programs

open PowerSessionManager

variable {env : Env} {w w' : World} {s : ℤ}

/-- The hint is right, in the environment. -/
def Heeds (env : Env) (w : World) : Prop := w.env = env ∧ w.BoostFollows

/-- The hint depends on the calls, and what it follows on the sessions and the clock. -/
theorem Heeds.congr (h : Heeds env w) (henv : w'.env = w.env) (hcalls : w'.hintCalls = w.hintCalls)
    (hactive : w'.anyAppActive = w.anyAppActive) : Heeds env w' := by
  refine ⟨henv.trans h.1, ?_⟩
  rw [BoostFollows, hactive, ← h.2]
  unfold boostDisabled
  rw [henv, hcalls]

theorem heeds_callBoostHint {call : String → HintCall} {b : Bool} (h : env.BoostHint)
    (hw : w.env = env ∧ b = w.anyAppActive)
    (hcall : call = if b then .doHint else .endHint) : Heeds env (w.callBoostHint call) := by
  obtain ⟨rfl, hb⟩ := hw
  unfold callBoostHint
  rw [if_pos h.supported]
  refine ⟨rfl, ?_⟩
  show boostDisabled _ = w.anyAppActive
  rw [← hb, hcall]
  cases b <;> simp [boostDisabled, HintCall.hint]

theorem updateUniversalBoostMode_heeds (h : env.BoostHint) :
    Triple (fun w => w.env = env) updateUniversalBoostMode fun _ => Heeds env := by
  refine Triple.bind (Q := fun active w => w.env = env ∧ active = w.anyAppActive) ?_ fun active => ?_
  · refine Triple.critical (Triple.bind (Q := fun t w => w.env = env ∧ t = w.clock)
      (Triple.atomic fun w hw => ⟨hw, rfl⟩) fun t => Triple.read ?_)
    rintro w ⟨hw, rfl⟩
    exact ⟨hw, rfl⟩
  · cases active with
    | true => exact Triple.modify fun w hw => heeds_callBoostHint h hw rfl
    | false => exact Triple.modify fun w hw => heeds_callBoostHint h hw rfl

theorem refresh_heeds (h : env.BoostHint) (s : ℤ) :
    Triple (fun w => w.env = env) (refresh s) fun _ => Heeds env := by
  refine Triple.bind (Q := fun _ w => w.env = env) (Triple.atomic fun w hw => hw) fun t => ?_
  refine Triple.bind (Q := fun _ w => w.env = env) (Triple.critical (Triple.modify fun w hw => ?_))
    fun _ => updateUniversalBoostMode_heeds h
  exact (onlyOutputs_applyVotes w s t).frame.env.trans hw

/-- Nothing happens, or the flag of a session changes and the question is asked. -/
theorem switchSession_heeds (h : env.BoostHint) (s : ℤ) (b : Bool) :
    Triple (Heeds env) (do
      let changed ← Prog.critical Lock.mSessionTaskMapMutex (Prog.atomic (switchSection s b))
      Prog.when changed (refresh s)) fun _ => Heeds env := by
  refine Triple.bind (Q := fun changed w => if changed then w.env = env else Heeds env w)
    (Triple.critical (Triple.atomic fun w hw => ?_)) fun changed => ?_
  · rcases switchSection_cases w s b with ⟨heq, -⟩ | ⟨heq, p, hp, -⟩
    · rw [heq]
      exact hw
    · rw [heq, forceSection_some hp]
      exact hw.1
  · cases changed with
    | true => exact refresh_heeds h s
    | false => exact Triple.ret fun w hw => hw

/-- The manager has the session. -/
structure Here (env : Env) (s : ℤ) (w : World) : Prop where
  env_eq : w.env = env
  wf : Wf w.mSessionTaskMap
  found : w.mSessionTaskMap.votes? s ≠ none

theorem Here.of_votes? (h : Here env s w) (henv : w'.env = w.env) (hwf : Wf w'.mSessionTaskMap)
    (hvotes : w'.mSessionTaskMap.votes? s = w.mSessionTaskMap.votes? s) : Here env s w' :=
  ⟨henv.trans h.env_eq, hwf, by rw [hvotes]; exact h.found⟩

theorem Here.calm (env : Env) (s : ℤ) : Calm (Here env s) where
  quiet := fun hq h => h.of_votes? hq.env (by rw [hq.map]; exact h.wf) (by rw [hq.map])
  events := fun _ _ _ h => ⟨h.env_eq, h.wf, h.found⟩

theorem Here.unprofiled (env : Env) (s : ℤ) : Unprofiled (Here env s) :=
  fun _ _ _ h => ⟨h.env_eq, h.wf, h.found⟩

theorem Here.forceSection (h : Here env s w) (b : Bool) : Here env s (w.forceSection s b).2 :=
  h.of_votes? (onlyMap_forceSection w s b).frame.env (wf_forceSection h.wf s b)
    (votes?_forceSection w s b s)

theorem Here.applyVotes (h : Here env s w) (t : ℤ) : Here env s (w.applyVotes s t) :=
  have hr := applyVotes_refreshes h.wf s t
  h.of_votes? (onlyOutputs_applyVotes w s t).frame.env hr.wf (hr.votes? s)

theorem forceSessionActive_here (env : Env) (s : ℤ) (b : Bool) :
    Triple (Here env s) (forceSessionActive s b) fun _ => Here env s :=
  forceSessionActive_triple (Here.calm env s) (Here.calm env s) s b (fun _ h => h.forceSection b)
    (fun _ h _ => h) fun w h => h.applyVotes w.clock

theorem forceSessionActive_heeds (h : env.BoostHint) (s : ℤ) (b : Bool) :
    Triple (Here env s) (forceSessionActive s b) fun _ => Heeds env := by
  refine Triple.bind (Q := fun found w => found = true ∧ w.env = env)
    (Triple.critical (Triple.atomic fun w hw => ?_)) fun found => ?_
  · cases hp : w.mSessionTaskMap.findSession s with
    | none => exact absurd (votes?_eq_none.2 hp) hw.found
    | some p =>
        rw [forceSection_some hp]
        exact ⟨rfl, hw.env_eq⟩
  · cases found with
    | true => exact (refresh_heeds h s).imp (fun w hw => hw.2) fun _ _ hw => hw
    | false =>
        rintro w ⟨hw, -⟩
        cases hw

theorem setThreadsFromPowerSession_heeds (h : env.BoostHint) (s : ℤ) (tids : List ℤ) :
    Triple (Here env s) (setThreadsFromPowerSession s tids) fun _ => Heeds env := by
  refine setThreadsFromPowerSession_triple (Here.unprofiled env s) s tids
    (forceSessionActive_here env s false) (fun w hw => ?_) (forceSessionActive_heeds h s true)
  exact hw.of_votes? rfl (wf_replaceSection hw.wf s tids) (hw.wf.votes?_replace s tids [] [] s)

theorem addPowerSession_heeds (h : env.BoostHint) (desc : AppHintDesc) (tids : List ℤ) :
    Triple (fun w => w.env = env ∧ Wf w.mSessionTaskMap) (addPowerSession (some desc) tids) fun _ =>
      Heeds env := by
  have hcalm : Calm fun w => w.env = env ∧ Wf w.mSessionTaskMap :=
    ⟨fun hq hw => ⟨hq.env.trans hw.1, by rw [hq.map]; exact hw.2⟩, fun _ _ _ hw => hw⟩
  refine addPowerSession_triple hcalm desc tids (fun w hw => ⟨hw.1, wf_addSection hw.2 desc _, ?_⟩)
    (setThreadsFromPowerSession_heeds h desc.sessionId tids)
  rw [votes?_addSection hw.2]
  split
  · exact Option.some_ne_none _
  · next hnot => exact fun hnone => hnot ⟨rfl, votes?_eq_none.1 hnone⟩

/-- The session is switched off, the question is asked, and the session goes. -/
theorem removePowerSession_heeds (h : env.BoostHint) (s : ℤ) :
    Triple (Here env s) (removePowerSession s) fun _ => Heeds env := by
  have hoff : Triple (Here env s) (forceSessionActive s false) fun _ w =>
      Heeds env w ∧ Wf w.mSessionTaskMap ∧ Off s w := by
    have hcalm : Calm fun w => Here env s w ∧ Off s w :=
      (Here.calm env s).and ⟨fun hq hw v hv => hw v (by rwa [hq.map] at hv), fun _ _ _ hw => hw⟩
    have hswitch : Triple (Here env s) (forceSessionActive s false) fun _ w =>
        Here env s w ∧ Off s w := by
      refine forceSessionActive_triple hcalm hcalm s false (fun w hw => ?_) (fun w hw hnone => ?_)
        fun w hw => ?_
      · exact ⟨hw.forceSection false, off_forceSection hw.wf s⟩
      · exact absurd (votes?_eq_none.2 hnone) hw.found
      · refine ⟨hw.1.applyVotes w.clock, fun v hv => ?_⟩
        rw [(applyVotes_refreshes hw.1.wf s w.clock).state?] at hv
        exact hw.2 v hv
    exact ((forceSessionActive_heeds h s false).and hswitch).imp (fun w hw => ⟨hw, hw⟩)
      fun _ _ hw => ⟨hw.1, hw.2.1.wf, hw.2.2⟩
  refine Triple.bind hoff fun _ => ?_
  refine Triple.bind (Q := fun _ => Heeds env) (Triple.critical (Triple.atomic ?_)) fun removed => ?_
  · rintro w ⟨hw, hwf, hoff⟩
    exact hw.congr rfl rfl (anyAppActive_removeSection hwf hoff)
  · refine Triple.bind (Q := fun _ => Heeds env) (Triple.forEach (fun tid => ?_) removed) fun _ => ?_
    · exact Triple.modify fun w hw => hw.congr rfl rfl rfl
    · exact Triple.critical (Triple.modify fun w hw => hw.congr rfl rfl rfl)

end Programs

/-! ### Programs without a question -/

section Silent

open PowerSessionManager

variable {env : Env} {calls : List HintCall} {w : World} {s : ℤ}

/-- The calls of the hint manager so far. -/
def Mute (env : Env) (calls : List HintCall) (w : World) : Prop :=
  w.env = env ∧ w.hintCalls = calls

theorem Mute.boostDisabled {w' : World} (h : Mute w.env w.hintCalls w') :
    w'.boostDisabled = w.boostDisabled := by
  unfold World.boostDisabled
  rw [h.1, h.2]

/-- A program that does not call the hint manager. -/
theorem Mute.within {α : Type} {p : P α} (hp : p.Within (Action fun k => k ≠ .hint)) :
    Triple (Mute env calls) p fun _ => Mute env calls :=
  (hp.mono fun _ _ ha hw =>
    ⟨ha.env.trans hw.1, (ha.hintCalls fun hne => hne rfl).trans hw.2⟩).keeps

/-- The calls so far, and the manager does not have the session. -/
def Away (env : Env) (calls : List HintCall) (s : ℤ) (w : World) : Prop :=
  Mute env calls w ∧ w.mSessionTaskMap.findSession s = none

theorem forceSessionActive_away (env : Env) (calls : List HintCall) (s : ℤ) (b : Bool) :
    Triple (Away env calls s) (forceSessionActive s b) fun _ => Away env calls s := by
  refine Triple.bind (Q := fun found w => found = false ∧ Away env calls s w)
    (Triple.critical (Triple.atomic fun w hw => ?_)) fun found => ?_
  · rw [forceSection_none hw.2]
    exact ⟨rfl, hw⟩
  · rintro w ⟨rfl, hw⟩
    exact hw

theorem setThreadsFromPowerSession_away (env : Env) (calls : List HintCall) (s : ℤ)
    (tids : List ℤ) :
    Triple (Away env calls s) (setThreadsFromPowerSession s tids) fun _ => Away env calls s := by
  refine setThreadsFromPowerSession_triple (fun _ _ _ hw => hw) s tids
    (forceSessionActive_away env calls s false) (fun w hw => ?_)
    (forceSessionActive_away env calls s true)
  have hsame : (w.replaceSection s tids).2.mSessionTaskMap = w.mSessionTaskMap := by
    unfold replaceSection
    dsimp only
    rw [Wf.replace_absent hw.2]
  exact ⟨hw.1, by rw [hsame]; exact hw.2⟩

theorem switchSession_away (env : Env) (calls : List HintCall) (s : ℤ) (b : Bool) :
    Triple (Away env calls s) (do
      let changed ← Prog.critical Lock.mSessionTaskMapMutex (Prog.atomic (switchSection s b))
      Prog.when changed (refresh s)) fun _ => Mute env calls := by
  refine Triple.bind (Q := fun changed w => changed = false ∧ Away env calls s w)
    (Triple.critical (Triple.atomic fun w hw => ?_)) fun changed => ?_
  · rcases switchSection_cases w s b with ⟨heq, -⟩ | ⟨-, p, hp, -⟩
    · rw [heq]
      exact ⟨rfl, hw⟩
    · rw [hw.2] at hp
      cases hp
  · rintro w ⟨rfl, hw⟩
    exact hw.1

theorem removePowerSession_away (env : Env) (calls : List HintCall) (s : ℤ) :
    Triple (Away env calls s) (removePowerSession s) fun _ => Mute env calls := by
  refine Triple.bind (forceSessionActive_away env calls s false) fun _ => ?_
  refine Triple.bind (Q := fun _ => Mute env calls) (Triple.critical (Triple.atomic fun w hw => ?_))
    fun removed => ?_
  · exact hw.1
  · refine Triple.bind (Q := fun _ => Mute env calls) (Triple.forEach (fun tid => ?_) removed)
      fun _ => ?_
    · exact Triple.modify fun w hw => hw
    · exact Triple.critical (Triple.modify fun w hw => hw)

end Silent

/-! ### Where an operation asks for the last time -/

/-- The constructor up to its votes. -/
def addSession (tgid uid : ℤ) (tids : List ℤ) (d : ℤ) : P (ℤ × PowerHintSession) := do
  let sid ← Prog.atomic (newSession tgid uid tids d)
  touchSession sid
  let self ← self sid
  PowerSessionManager.addPowerSession (some self.mDescriptor) tids
  pure (sid, self)

/-- `setThreads` up to its vote. -/
def takeThreads (s : ℤ) (tids : List ℤ) : P Unit := do
  Prog.modify (modifyDescriptor s fun d => { d with thread_ids := tids })
  PowerSessionManager.setThreadsFromPowerSession s tids

/-- `reportActualWorkDuration` up to the end of the boosts, with the answer whether this is the first
frame after a while. -/
def openReport (s : ℤ) : P Bool := do
  Prog.modify (modifyDescriptor s fun d => { d with update_count := d.update_count + 1 })
  let isFirstFrame ← isTimeout s
  touchSession s
  Prog.when isFirstFrame (firstFrame s)
  pure isFirstFrame

/-- The operation is accepted, on a session that the manager has. -/
def World.Changes (w : World) (s : ℤ) (op : SessionOp) : Prop :=
  op.refusal (w.sessions s) = none ∧ (w.mSessionTaskMap.findSession s).isSome = true

instance (w : World) (s : ℤ) (op : SessionOp) : Decidable (w.Changes s op) :=
  inferInstanceAs (Decidable (_ ∧ _))

/-- The event at index `i` of the queue finds its vote active and timed out. -/
def World.expires (w : World) (i : ℕ) : Bool :=
  w.queue[i]?.any fun e => (w.mSessionTaskMap.votes? e.sessionId).any fun votes =>
    votes.voteIsActive e.voteId && decide (votes.voteTimeout e.voteId ≤ w.readClock.1)

/-- The state in which an operation has asked for the last time, if it asks at all. -/
def Op.checkpoint (w : World) : Op → Option World
  | .create tgid uid tids d => some ((addSession tgid uid tids d).post w)
  | .session s .pause => if w.Changes s .pause then some ((pause s).post w) else none
  | .session s .resume => if w.Changes s .resume then some ((resume s).post w) else none
  | .session s .close => if w.Changes s .close then some ((PowerHintSession.close s).post w) else none
  | .session s (.setThreads tids) =>
      if w.Changes s (.setThreads tids) then some ((takeThreads s tids).post w) else none
  | .session s (.reportActualWorkDuration ds) =>
      if SessionOp.refusal (w.sessions s) (.reportActualWorkDuration ds) = none ∧
          ((openReport s).run w).1 = true then
        some ((openReport s).post w)
      else none
  | .worker i => if w.expires i then some ((workerRound i).post w) else none
  | _ => none

/-- What is left of the hint after an operation: the answer to its last question, or what it was. -/
def Op.AnswersHint (op : Op) (w : World) : Prop :=
  (op.prog.post w).boostDisabled = ((op.checkpoint w).map World.anyAppActive).getD w.boostDisabled

section Operations

variable {env : Env} {w : World} {s : ℤ}

/-- A refused operation leaves the hint alone. -/
theorem Op.AnswersHint.of_refused {op : SessionOp} (hop : op.Guarded)
    (h : op.refusal (w.sessions s) ≠ none) (hcheck : (Op.session s op).checkpoint w = none) :
    (Op.session s op).AnswersHint w := by
  obtain ⟨status, hstatus⟩ := Option.ne_none_iff_exists'.1 h
  unfold Op.AnswersHint
  rw [hcheck, Op.post_session, post, op.run_refused hop hstatus]
  rfl

/-- An operation that ends with the hint right. -/
theorem Op.AnswersHint.of_heeds {op : Op} {u : World} (hcheck : op.checkpoint w = some u)
    (hu : Heeds w.env u) (hrest : Mute u.env u.hintCalls (op.prog.post w)) : op.AnswersHint w := by
  unfold Op.AnswersHint
  rw [hcheck, hrest.boostDisabled]
  exact hu.2

theorem Op.AnswersHint.of_mute {op : Op} (hcheck : op.checkpoint w = none)
    (hrest : Mute w.env w.hintCalls (op.prog.post w)) : op.AnswersHint w := by
  unfold Op.AnswersHint
  rw [hcheck, hrest.boostDisabled]
  rfl

/-- The programs that switch a session and end with a question, if the manager has the session. -/
theorem pause_heeds (h : env.BoostHint) (s : ℤ) :
    Triple (fun w => Here env s w ∧ w.Stands s false true) (pause s) fun _ => Heeds env := by
  refine pause_triple (J := Heeds env) (K := Heeds env) s (fun w hw hnot => absurd hw.2 hnot) ?_
    (fun w hw => hw.congr rfl rfl rfl) (switchSession_heeds h s false)
  exact (setThreadsFromPowerSession_heeds h s []).imp (fun _ hw => hw.1.1) fun _ _ hw => hw

theorem resume_heeds (h : env.BoostHint) (s : ℤ) :
    Triple (fun w => Here env s w ∧ w.Stands s false false) (resume s) fun _ => Heeds env := by
  refine resume_triple (J := Heeds env) (K := Heeds env) s (fun w hw hnot => absurd hw.2 hnot)
    (fun tids => ?_) (fun w hw => hw.congr rfl rfl rfl) (switchSession_heeds h s true)
  exact (setThreadsFromPowerSession_heeds h s tids).imp (fun _ hw => hw.1.1) fun _ _ hw => hw

theorem close_heeds (h : env.BoostHint) (s : ℤ) :
    Triple (fun w => Here env s w ∧ (w.sessions s).mSessionClosed = false)
      (PowerHintSession.close s) fun _ => Heeds env := by
  refine close_triple (J := Here env s) s (fun w hw hclosed => ?_)
    (fun w hw => ⟨hw.1.env_eq, hw.1.wf, hw.1.found⟩) (removePowerSession_heeds h s)
    fun w hw => hw.congr rfl rfl rfl
  exact absurd (hw.2.symm.trans hclosed) (by decide)

theorem pause_away (env : Env) (calls : List HintCall) (s : ℤ) :
    Triple (Away env calls s) (pause s) fun _ => Mute env calls := by
  refine pause_triple (J := Away env calls s) (K := Away env calls s) s (fun w hw _ => hw.1) ?_
    (fun w hw => hw) (switchSession_away env calls s false)
  exact (setThreadsFromPowerSession_away env calls s []).imp (fun _ hw => hw.1) fun _ _ hw => hw

theorem resume_away (env : Env) (calls : List HintCall) (s : ℤ) :
    Triple (Away env calls s) (resume s) fun _ => Mute env calls := by
  refine resume_triple (J := Away env calls s) (K := Away env calls s) s (fun w hw _ => hw.1)
    (fun tids => ?_) (fun w hw => hw) (switchSession_away env calls s true)
  exact (setThreadsFromPowerSession_away env calls s tids).imp (fun _ hw => hw.1) fun _ _ hw => hw

theorem close_away (env : Env) (calls : List HintCall) (s : ℤ) :
    Triple (Away env calls s) (PowerHintSession.close s) fun _ => Mute env calls :=
  close_triple (J := Away env calls s) s (fun _ hw _ => hw.1) (fun _ hw => hw)
    (removePowerSession_away env calls s) fun _ hw => hw

/-- An operation that switches a session. -/
theorem Op.AnswersHint.of_switch {op : SessionOp} (hw : Wf w.mSessionTaskMap) (hop : op.Guarded)
    (hcheck : (Op.session s op).checkpoint w =
      if w.Changes s op then some ((op.prog s).post w) else none)
    (hhere : op.refusal (w.sessions s) = none → Here w.env s w → Heeds w.env ((op.prog s).post w))
    (haway : Away w.env w.hintCalls s w → Mute w.env w.hintCalls ((op.prog s).post w)) :
    (Op.session s op).AnswersHint w := by
  by_cases hrefusal : op.refusal (w.sessions s) = none
  · cases hfind : w.mSessionTaskMap.findSession s with
    | none =>
        refine .of_mute ?_ ?_
        · rw [hcheck, if_neg]
          rintro ⟨-, hfound⟩
          simp [hfind] at hfound
        · rw [Op.post_session]
          exact haway ⟨⟨rfl, rfl⟩, hfind⟩
    | some p =>
        refine .of_heeds (u := (op.prog s).post w) ?_ ?_ ?_
        · rw [hcheck, if_pos ⟨hrefusal, by rw [hfind]; rfl⟩]
        · exact hhere hrefusal ⟨rfl, hw, fun hnone => by simp [votes?_eq_none.1 hnone] at hfind⟩
        · rw [Op.post_session]
          exact ⟨rfl, rfl⟩
  · exact .of_refused hop hrefusal (by rw [hcheck, if_neg fun hc => hrefusal hc.1])

theorem pause_answers (h : w.env.BoostHint) (hw : Wf w.mSessionTaskMap) (s : ℤ) :
    (Op.session s .pause).AnswersHint w := by
  refine .of_switch hw id rfl (fun hrefusal hhere => ?_) fun haway => pause_away _ _ s w haway
  obtain ⟨hopen, hrej⟩ := SessionOp.refusal_eq_none.1 hrefusal
  refine pause_heeds h s w ⟨hhere, hopen, ?_⟩
  by_contra hact
  simp [SessionOp.rejection, hact] at hrej

theorem resume_answers (h : w.env.BoostHint) (hw : Wf w.mSessionTaskMap) (s : ℤ) :
    (Op.session s .resume).AnswersHint w := by
  refine .of_switch hw id rfl (fun hrefusal hhere => ?_) fun haway => resume_away _ _ s w haway
  obtain ⟨hopen, hrej⟩ := SessionOp.refusal_eq_none.1 hrefusal
  refine resume_heeds h s w ⟨hhere, hopen, ?_⟩
  by_contra hact
  simp [SessionOp.rejection, hact] at hrej

theorem close_answers (h : w.env.BoostHint) (hw : Wf w.mSessionTaskMap) (s : ℤ) :
    (Op.session s .close).AnswersHint w := by
  refine .of_switch hw id rfl (fun hrefusal hhere => ?_) fun haway => close_away _ _ s w haway
  exact close_heeds h s w ⟨hhere, (SessionOp.refusal_eq_none.1 hrefusal).1⟩

/-- The vote that `setThreads` ends with. -/
def newThreadsVote (s : ℤ) : P Unit := do
  let adpfConfig ← getAdpfProfile
  updatePidControlVariable s (toInt32 adpfConfig.mUclampMinInit) true

theorem newThreadsVote_mute (env : Env) (calls : List HintCall) (s : ℤ) :
    Triple (Mute env calls) (newThreadsVote s) fun _ => Mute env calls :=
  Mute.within (Within.bind getAdpfProfile_within fun _ => updatePidControlVariable_within s _ true)

theorem setThreads_post {tids : List ℤ}
    (h : SessionOp.refusal (w.sessions s) (.setThreads tids) = none) :
    (setThreads s tids).post w = (newThreadsVote s).post ((takeThreads s tids).post w) := by
  obtain ⟨hopen, hrej⟩ := SessionOp.refusal_eq_none.1 h
  have hne : ¬ tids.isEmpty = true := fun hempty => by simp [SessionOp.rejection, hempty] at hrej
  unfold post setThreads
  rw [whileOpen_run_open hopen, if_neg hne]
  simp only [takeThreads, newThreadsVote, bind_eq, run_bind, pure_eq, run_ret]

theorem setThreads_answers (h : w.env.BoostHint) (hw : Wf w.mSessionTaskMap) (s : ℤ)
    (tids : List ℤ) : (Op.session s (.setThreads tids)).AnswersHint w := by
  by_cases hrefusal : SessionOp.refusal (w.sessions s) (.setThreads tids) = none
  · have hpost : (Op.session s (.setThreads tids)).prog.post w =
        (newThreadsVote s).post ((takeThreads s tids).post w) := by
      rw [Op.post_session]
      exact setThreads_post hrefusal
    cases hfind : w.mSessionTaskMap.findSession s with
    | none =>
        refine .of_mute ?_ ?_
        · refine if_neg ?_
          rintro ⟨-, hfound⟩
          simp [hfind] at hfound
        · rw [hpost]
          refine newThreadsVote_mute _ _ s _ ?_
          have htake : Triple (Away w.env w.hintCalls s) (takeThreads s tids) fun _ =>
              Away w.env w.hintCalls s :=
            Triple.bind (Q := fun _ => Away w.env w.hintCalls s) (Triple.modify fun _ hu => hu)
              fun _ => setThreadsFromPowerSession_away _ _ s tids
          exact (htake w ⟨⟨rfl, rfl⟩, hfind⟩).1
    | some p =>
        refine .of_heeds (u := (takeThreads s tids).post w) ?_ ?_ ?_
        · exact if_pos ⟨hrefusal, by rw [hfind]; rfl⟩
        · have htake : Triple (Here w.env s) (takeThreads s tids) fun _ => Heeds w.env :=
            Triple.bind (Q := fun _ => Here w.env s)
              (Triple.modify fun _ hu => ⟨hu.env_eq, hu.wf, hu.found⟩)
              fun _ => setThreadsFromPowerSession_heeds h s tids
          exact htake w ⟨rfl, hw, fun hnone => by simp [votes?_eq_none.1 hnone] at hfind⟩
        · rw [hpost]
          exact newThreadsVote_mute _ _ s _ ⟨rfl, rfl⟩
  · exact .of_refused id hrefusal (if_neg fun hc => hrefusal hc.1)

/-- The rest of a report. -/
def closeReport (s : ℤ) (c : AdpfConfig) (ds : List WorkDuration) (back : WorkDuration) : P Unit := do
  PowerSessionManager.disableBoosts s
  reportVotes s c ds back

theorem closeReport_mute (env : Env) (calls : List HintCall) (s : ℤ) (c : AdpfConfig)
    (ds : List WorkDuration) (back : WorkDuration) :
    Triple (Mute env calls) (closeReport s c ds back) fun _ => Mute env calls :=
  Mute.within (Within.bind (disableBoosts_within s) fun _ =>
    reportVotes_within (by decide) (by decide) s c ds back)

theorem report_post {ds : List WorkDuration}
    (h : SessionOp.refusal (w.sessions s) (.reportActualWorkDuration ds) = none) :
    ∃ back, (reportActualWorkDuration s ds).post w =
      (closeReport s w.adpfConfig ds back).post ((openReport s).post w) := by
  obtain ⟨hopen, hrej⟩ := SessionOp.refusal_eq_none.1 h
  have hne : ¬ (w.sessions s).mDescriptor.targetNs = 0 :=
    fun hzero => by simp [SessionOp.rejection, hzero] at hrej
  cases hback : ds.getLast? with
  | none => simp [SessionOp.rejection, hne, hback] at hrej
  | some back =>
      have hact : (w.sessions s).mDescriptor.is_active = true := by
        by_contra hact
        simp [SessionOp.rejection, hne, hback, hact] at hrej
      refine ⟨back, ?_⟩
      rw [report_post_of_accepts ⟨⟨hopen, hact⟩, hne, hback⟩]
      simp only [post, acceptReport, beginReport, openReport, closeReport, getAdpfProfile, bind_eq,
        run_bind, run_read, pure_eq, run_ret]

/-- The first frame after a while ends with a question, and any other asks nothing. -/
theorem openReport_heeds (h : env.BoostHint) (calls : List HintCall) (s : ℤ) :
    Triple (Mute env calls) (openReport s) fun isFirstFrame w =>
      if isFirstFrame then Heeds env w else Mute env calls w := by
  refine Triple.bind (Mute.within (modifySession_within s fun _ => ⟨⟨rfl, rfl, rfl, rfl⟩, rfl⟩)) fun _ => ?_
  refine Triple.bind (Mute.within (isTimeout_within s)) fun isFirstFrame => ?_
  refine Triple.bind (Mute.within (touchSession_within s)) fun _ => ?_
  cases isFirstFrame with
  | false => exact fun w hw => hw
  | true =>
      refine Triple.bind (Q := fun _ => Heeds env) ?_ fun _ => Triple.ret fun w hw => hw
      refine Triple.bind (Q := fun _ w => w.env = env) (Triple.read fun w hw => hw.1) fun self => ?_
      refine Triple.bind (Q := fun _ w => w.env = env) ?_ fun _ => updateUniversalBoostMode_heeds h
      refine Triple.when (fun _ => Triple.modify fun w hw => ?_) fun _ w hw => hw
      exact (Quiet.sendPowerHint w s _).env.trans hw

theorem report_answers (h : w.env.BoostHint) (s : ℤ) (ds : List WorkDuration) :
    (Op.session s (.reportActualWorkDuration ds)).AnswersHint w := by
  by_cases hrefusal : SessionOp.refusal (w.sessions s) (.reportActualWorkDuration ds) = none
  · obtain ⟨back, hpost⟩ := report_post hrefusal
    have hopen := openReport_heeds h w.hintCalls s w ⟨rfl, rfl⟩
    have hrest : ∀ {e calls}, Mute e calls ((openReport s).post w) →
        Mute e calls ((Op.session s (.reportActualWorkDuration ds)).prog.post w) := by
      intro e calls hmute
      rw [Op.post_session]
      exact hpost ▸ closeReport_mute e calls s w.adpfConfig ds back _ hmute
    cases hfirst : ((openReport s).run w).1 with
    | false =>
        rw [hfirst] at hopen
        refine .of_mute ?_ (hrest hopen)
        refine if_neg ?_
        rintro ⟨-, htrue⟩
        rw [hfirst] at htrue
        cases htrue
    | true =>
        rw [hfirst] at hopen
        exact .of_heeds (if_pos ⟨hrefusal, hfirst⟩) hopen (hrest ⟨rfl, rfl⟩)
  · exact .of_refused id hrefusal (if_neg fun hc => hrefusal hc.1)

theorem World.boostDisabled_sendPowerHint (w : World) (s : ℤ) {hint : String}
    (h : hint ≠ w.env.disableBoostHintName) :
    (w.sendPowerHint s hint).boostDisabled = w.boostDisabled := by
  have hskip : (hint == w.env.disableBoostHintName) = false := beq_false_of_ne h
  unfold sendPowerHint
  dsimp only
  split
  · simp [World.boostDisabled, modifySession, HintCall.hint, hskip]
  · rfl

/-- A hint of a session is not this one. -/
theorem sendHint_answers (h : w.env.BoostHint) (s : ℤ) {hint : SessionHint}
    (hhint : hint ≠ .POWER_EFFICIENCY) : (Op.session s (.sendHint hint)).AnswersHint w := by
  have hkeeps : Triple (fun u => u.env = w.env ∧ u.boostDisabled = w.boostDisabled)
      (sendHint s hint) fun _ u => u.env = w.env ∧ u.boostDisabled = w.boostDisabled := by
    have hwithin : ∀ {α : Type} {p : P α}, p.Within (Action fun k => k ≠ .hint) →
        Triple (fun u => u.env = w.env ∧ u.boostDisabled = w.boostDisabled) p
          fun _ u => u.env = w.env ∧ u.boostDisabled = w.boostDisabled := by
      intro α p hp
      refine (hp.mono fun u u' ha hu => ?_).keeps
      have hmute : Mute u.env u.hintCalls u' := ⟨ha.env, ha.hintCalls fun hne => hne rfl⟩
      exact ⟨hmute.1.trans hu.1, hmute.boostDisabled.trans hu.2⟩
    refine whileOpen_keeps s fun self => ?_
    by_cases hzero : self.mDescriptor.targetNs = 0
    · rw [if_pos hzero]
      exact Triple.ret fun u hu => hu
    rw [if_neg hzero]
    by_cases hknown : knownHint hint = true
    · rw [if_pos hknown]
      refine Triple.bind (hwithin (sendHintVotes_within s self hint fun heq => absurd heq hhint))
        fun _ => ?_
      refine Triple.bind (Q := fun _ u => u.env = w.env ∧ u.boostDisabled = w.boostDisabled)
        (Triple.modify fun u hu => ?_) fun _ => ?_
      · refine ⟨(Quiet.sendPowerHint u s _).env.trans hu.1, ?_⟩
        rw [u.boostDisabled_sendPowerHint s (hu.1 ▸ h.session_hint hint), hu.2]
      · exact Triple.bind (hwithin (touchSession_within s)) fun _ => Triple.ret fun u hu => hu
    · rw [if_neg hknown]
      exact Triple.ret fun u hu => hu
  unfold Op.AnswersHint
  rw [Op.post_session]
  exact (hkeeps w ⟨rfl, rfl⟩).2

/-- The votes that the constructor ends with. -/
def firstVotes (sid : ℤ) (self : PowerHintSession) : P ℤ := do
  let adpfConfig ← getAdpfProfile
  let t ← now
  PowerSessionManager.voteSet sid .CPU_LOAD_RESET (toInt32 adpfConfig.mUclampMinLoadReset) kUclampMax
    t (scaleNanos self.mDescriptor.targetNs (adpfConfig.mStaleTimeFactor / 2))
  let t ← now
  PowerSessionManager.voteSet sid .CPU_VOTE_DEFAULT (toInt32 adpfConfig.mUclampMinInit) kUclampMax
    t self.mDescriptor.targetNs
  pure sid

theorem firstVotes_mute (env : Env) (calls : List HintCall) (sid : ℤ) (self : PowerHintSession) :
    Triple (Mute env calls) (firstVotes sid self) fun _ => Mute env calls := by
  refine Mute.within (Within.bind getAdpfProfile_within fun c => ?_)
  refine Within.bind now_within fun t => Within.bind (castVote_within sid _ _ t _) fun _ => ?_
  exact Within.bind now_within fun t => Within.bind (castVote_within sid _ _ t _) fun _ => Within.ret _

theorem create_post (tgid uid : ℤ) (tids : List ℤ) (d : ℤ) (w : World) :
    (create tgid uid tids d).post w =
      (firstVotes ((addSession tgid uid tids d).run w).1.1
        ((addSession tgid uid tids d).run w).1.2).post ((addSession tgid uid tids d).post w) := by
  simp only [post, create, addSession, firstVotes, bind_eq, run_bind, pure_eq, run_ret]

theorem create_answers (h : w.env.BoostHint) (hw : Wf w.mSessionTaskMap) (tgid uid : ℤ)
    (tids : List ℤ) (d : ℤ) : (Op.create tgid uid tids d).AnswersHint w := by
  have hstart : ∀ {α : Type} {p : P α}, p.Within Aside →
      Triple (fun u => u.env = w.env ∧ Wf u.mSessionTaskMap) p
        fun _ u => u.env = w.env ∧ Wf u.mSessionTaskMap := by
    intro α p hp
    refine (hp.mono fun u u' ha hu => ?_).keeps
    exact ⟨ha.env.trans hu.1, by rw [ha.map]; exact hu.2⟩
  have hadd : Triple (fun u => u.env = w.env ∧ Wf u.mSessionTaskMap) (addSession tgid uid tids d)
      fun _ => Heeds w.env := by
    refine Triple.bind (hstart (Within.atomic fun u => .newSession u tgid uid tids d)) fun sid => ?_
    refine Triple.bind (hstart ?_) fun _ => ?_
    · exact Within.bind (Within.atomic fun u => (Quiet.readClock u).toAside) fun _ =>
        Within.modify fun u => .modifySession u _ _
    refine Triple.bind (hstart (Within.read fun u => .skip u)) fun self => ?_
    exact Triple.bind (addPowerSession_heeds h self.mDescriptor tids) fun _ =>
      Triple.ret fun u hu => hu
  refine .of_heeds rfl (hadd w ⟨rfl, hw⟩) ?_
  rw [Op.post_create, create_post]
  exact firstVotes_mute _ _ _ _ _ ⟨rfl, rfl⟩

/-- When an event finds its vote timed out, and what it does to the sessions otherwise. -/
theorem World.expireSection_eq_expired_iff (w : World) (e : Timeout) (t : ℤ) :
    (w.expireSection e t).1 = .expired ↔
      (w.mSessionTaskMap.votes? e.sessionId).any (fun votes =>
        votes.voteIsActive e.voteId && decide (votes.voteTimeout e.voteId ≤ t)) = true := by
  cases hp : w.mSessionTaskMap.findSession e.sessionId with
  | none =>
      rw [expireSection_none hp, votes?_eq_none.2 hp]
      simp
  | some p =>
      rw [votes?_of_findSession hp]
      rcases expireSection_cases hp t with ⟨hact, heq⟩ | ⟨hact, htime, heq⟩ | ⟨hact, htime, heq⟩
      · simp [heq, hact]
      · simp [heq, hact, htime]
      · simp [heq, hact, htime]

theorem World.map_expireSection {e : Timeout} {t : ℤ} (h : (w.expireSection e t).1 ≠ .expired) :
    (w.expireSection e t).2.mSessionTaskMap = w.mSessionTaskMap := by
  cases hp : w.mSessionTaskMap.findSession e.sessionId with
  | none => rw [expireSection_none hp]
  | some p =>
      rcases expireSection_cases hp t with ⟨-, heq⟩ | ⟨-, -, heq⟩ | ⟨-, -, heq⟩
      · rw [heq]
      · rw [heq] at h
        exact absurd rfl h
      · rw [heq]

/-- The calls so far, and the sessions as they were. -/
def Still (u w : World) : Prop :=
  Mute u.env u.hintCalls w ∧ w.mSessionTaskMap = u.mSessionTaskMap

theorem Still.schedule (u : World) (e : Timeout) :
    Triple (Still u) (schedule e) fun _ => Still u :=
  Triple.bind (Triple.critical (Triple.ret (Q := fun _ => Still u) fun _ hw => hw)) fun _ =>
    Triple.critical (Triple.modify fun _ hw => hw)

/-- An event asks if it finds its vote timed out, and else leaves the sessions alone. -/
theorem handleEvent_heeds {u : World} (h : u.env.BoostHint) (e : Timeout) :
    Triple (fun x => x = u) (PowerSessionManager.handleEvent e) fun _ x =>
      if (u.readClock.2.expireSection e u.readClock.1).1 = .expired then Heeds u.env x
      else Still u x := by
  have hsettle : Mute u.env u.hintCalls (u.readClock.2.expireSection e u.readClock.1).2 :=
    Mute.within (p := Prog.atomic fun x : World => (x.expireSection e u.readClock.1))
      (Within.atomic fun x => .expire e _ x) u.readClock.2 ⟨rfl, rfl⟩
  have hmap := World.map_expireSection (w := u.readClock.2) (e := e) (t := u.readClock.1)
  generalize hV : (u.readClock.2.expireSection e u.readClock.1).1 = V at hmap
  refine Triple.bind (Q := fun t x => t = u.readClock.1 ∧ x = u.readClock.2)
    (Triple.atomic fun x hx => by rw [hx]; exact ⟨rfl, rfl⟩) fun t => ?_
  refine Triple.bind (Q := fun verdict x => verdict = V ∧ x.env = u.env ∧ (V ≠ .expired → Still u x))
    (Triple.critical ?_) fun verdict => ?_
  · refine Triple.bind (Q := fun verdict x => verdict = V ∧ x.env = u.env ∧
      (V ≠ .expired → Still u x)) (Triple.atomic ?_) fun verdict => ?_
    · rintro x ⟨rfl, rfl⟩
      exact ⟨hV, hsettle.1, fun hne => ⟨hsettle, hmap hne⟩⟩
    · refine Triple.bind (Q := fun _ x => verdict = V ∧ x.env = u.env ∧ (V ≠ .expired → Still u x))
        ?_ fun _ => Triple.ret fun x hx => hx
      cases verdict with
      | drop => exact fun x hx => hx
      | expired => exact fun x hx => hx
      | requeue e' =>
          rintro x ⟨rfl, -, hstill⟩
          have hkept := Still.schedule u e' x (hstill fun hv => by cases hv)
          exact ⟨rfl, hkept.1.1, fun _ => hkept⟩
  · by_cases hexp : V = .expired
    · simp only [if_pos hexp]
      rintro x ⟨rfl, hx, -⟩
      rw [hexp]
      have hask : Triple (fun x => x.env = u.env) (do
          PowerSessionManager.applyCpuAndGpuVotes e.sessionId t
          PowerSessionManager.updateUniversalBoostMode) fun _ => Heeds u.env := by
        refine Triple.bind (Q := fun _ x => x.env = u.env) (Triple.critical (Triple.modify ?_))
          fun _ => updateUniversalBoostMode_heeds h
        exact fun x hx => (onlyOutputs_applyVotes x e.sessionId t).frame.env.trans hx
      exact hask x hx
    · simp only [if_neg hexp]
      rintro x ⟨rfl, -, hx⟩
      rw [decide_eq_false hexp]
      exact hx hexp

/-- A round of the worker asks if its event finds its vote timed out, and else leaves the sessions
alone. -/
theorem workerRound_heeds (h : w.env.BoostHint) (i : ℕ) :
    if w.expires i then Heeds w.env ((workerRound i).post w) else Still w ((workerRound i).post w) := by
  have hround : (workerRound i).post w = (process (w.pop i).1).post (w.pop i).2 := by
    simp only [workerRound, post, bind_eq, run_bind, run_critical, run_atomic]
  have hfst : (w.pop i).1 = w.queue[i]? := by
    unfold World.pop
    split
    · next hq => rw [hq]
    · next hq => rw [hq]
  obtain ⟨queue, running, hpop⟩ := World.pop_eq i w
  rw [hround, hfst, hpop]
  unfold World.expires
  cases w.queue[i]? with
  | none => exact ⟨⟨rfl, rfl⟩, rfl⟩
  | some e =>
      have hevent := handleEvent_heeds (u := { w with queue := queue, running := running }) h e _ rfl
      have hexpires := World.expireSection_eq_expired_iff
        { w with queue := queue, running := running }.readClock.2 e w.readClock.1
      have hprocess : ∀ u, (process (some e)).post u =
          (PowerSessionManager.handleEvent e).post u := by
        intro u
        simp only [process, post, bind_eq, run_bind, run_critical, pure_eq, run_ret]
      rw [hprocess]
      exact (if_congr hexpires rfl rfl).mp hevent

theorem worker_answers (h : w.env.BoostHint) (i : ℕ) : (Op.worker i).AnswersHint w := by
  have hround := workerRound_heeds h i
  by_cases hexp : w.expires i = true
  · rw [if_pos hexp] at hround
    exact .of_heeds (if_pos hexp) hround ⟨rfl, rfl⟩
  · rw [if_neg hexp] at hround
    exact .of_mute (if_neg hexp) hround.1

end Operations

/-- **One operation.**  The hint is the answer to its last question, or what it was. -/
theorem Op.boostDisabled_post (op : Op) (hop : op.Boosts) {w : World} (h : w.env.BoostHint)
    (hw : Wf w.mSessionTaskMap) : op.AnswersHint w := by
  cases op with
  | create tgid uid tids d => exact create_answers h hw tgid uid tids d
  | session s op =>
      cases op with
      | close => exact close_answers h hw s
      | pause => exact pause_answers h hw s
      | resume => exact resume_answers h hw s
      | setThreads tids => exact setThreads_answers h hw s tids
      | reportActualWorkDuration ds => exact report_answers h s ds
      | sendHint hint => exact sendHint_answers h s hop
      | destroy => exact hop.elim
      | updateTargetWorkDuration d => exact hop.elim
      | setMode mode b => exact hop.elim
      | getSessionConfig => exact hop.elim
  | dumpToStream s => exact hop.elim
  | manager op => exact hop.elim
  | worker i => exact worker_answers h i

end Adpf
