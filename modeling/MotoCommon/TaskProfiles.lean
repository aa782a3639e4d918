/-
**The task profiles of the threads.**

A thread whose clamp the service sets must be given a task profile first, and must get the other one
when the service lets go of it.  `setThreadsFromPowerSession` and `removePowerSession` see to that for
the threads that come and go with one session's list, while a thread may be linked to any number of
sessions.  This module proves that it nets out: after every operation the last profile of a living
thread tells whether any session is linked to it.

Main definitions:

* `Adpf.SessionTaskMap.Linked` — some session is linked to a thread;
* `Adpf.World.lastProfile` — the last profile that was set for a thread;
* `Adpf.World.Ledger` — the two agree for every living thread, once the profiles that are owed are set.

Main results:

* `Adpf.SessionTaskMap.mem_addedThreads`, `Adpf.SessionTaskMap.mem_removedThreads` — which threads come
  and go with a replacement;
* `Adpf.Action.keepsLinks` — the other actions leave the links of living threads alone;
* `Adpf.World.Ledger.replaceSection`, `Adpf.World.Ledger.removeSection` — what is owed then;
* `Adpf.task_profile_ledger` — **the ledger is right after every operation of a run**.
-/

import MotoCommon.LockDiscipline
import MotoCommon.RunRules
import MotoCommon.SessionDemands

set_option autoImplicit false

namespace Adpf

open Conc SessionTaskMap

/-! ### Threads that are linked -/

namespace SessionTaskMap

variable {m : SessionTaskMap} {tid : ℤ}

/-- The threads that come with a replacement. -/
theorem mem_addedThreads (hm : Wf m) {s : ℤ} {tids : List ℤ} :
    tid ∈ (m.replace s tids [] []).addedThreads ↔
      m.findSession s ≠ none ∧ tid ∈ tids ∧ ¬ m.Linked tid := by
  unfold replace
  cases he : m.mSessions.lookup s with
  | none => simp [findSession, he]
  | some e =>
      have hfilter : tid ∈ tids.filter (fun t => decide (t ∉ m.mTasks)) ↔
          tid ∈ tids ∧ ¬ m.Linked tid := by
        rw [List.mem_filter, decide_eq_true_iff, hm.toConsistent.mem_mTasks_iff]
      simp only [List.nil_append, hfilter]
      simp [findSession, he]

/-- The threads that go with a replacement. -/
theorem mem_removedThreads (hm : Wf m) {s : ℤ} {tids : List ℤ} :
    tid ∈ (m.replace s tids [] []).removedThreads ↔
      tid ∈ m.getTaskIds s ∧ ¬ (m.replace s tids [] []).map.Linked tid := by
  have hwf := (hm.replace s tids [] []).toConsistent
  cases he : m.mSessions.lookup s with
  | none => simp [replace, getTaskIds, he]
  | some e =>
      have htasks : m.getTaskIds s = e.linkedTasks := by simp [getTaskIds, he]
      rw [htasks, ← hwf.mem_mTasks_iff]
      unfold replace
      simp only [he, List.nil_append, List.mem_filter, decide_eq_true_iff]

end SessionTaskMap

/-! ### Actions -/

namespace World

variable {w w' : World} {tid : ℤ}

/-- The last profile that was set for a thread. -/
def lastProfile (w : World) (tid : ℤ) : Option TaskProfile :=
  (w.taskProfiles.find? fun c => c.1 == tid).map Prod.snd

theorem lastProfile_setTaskProfile (w : World) (profile : TaskProfile) (tid tid' : ℤ) :
    (w.setTaskProfile profile tid).lastProfile tid' =
      if tid' = tid then some profile else w.lastProfile tid' := by
  unfold lastProfile setTaskProfile
  by_cases htid : tid' = tid
  · simp [htid]
  · simp [htid, Ne.symm htid]

/-- From `w` to `w'` no profile was set, and living threads kept their sessions. -/
structure KeepsLinks (w w' : World) : Prop where
  taskProfiles : w'.taskProfiles = w.taskProfiles
  calls : w.schedCalls <:+ w'.schedCalls
  links : ∀ tid, w'.NeverDead tid →
    sessionsOf w'.mSessionTaskMap.mTasks tid = sessionsOf w.mSessionTaskMap.mTasks tid

theorem KeepsLinks.of_links (hprofiles : w'.taskProfiles = w.taskProfiles)
    (hcalls : w'.schedCalls = w.schedCalls)
    (hlinks : w'.mSessionTaskMap.mTasks = w.mSessionTaskMap.mTasks) : KeepsLinks w w' where
  taskProfiles := hprofiles
  calls := by
    rw [hcalls]
  links := fun tid _ => by rw [hlinks]

theorem KeepsLinks.trans {w'' : World} (h : KeepsLinks w w') (h' : KeepsLinks w' w'') :
    KeepsLinks w w'' where
  taskProfiles := h'.taskProfiles.trans h.taskProfiles
  calls := h.calls.trans h'.calls
  links := fun tid hd => (h'.links tid hd).trans (h.links tid (hd.of_suffix h'.calls))

theorem Refreshes.keepsLinks (h : Refreshes w w') (hout : OnlyOutputs w w') : KeepsLinks w w' where
  taskProfiles := by
    rw [OnlyOutputs] at hout
    rw [hout]
  calls := h.calls
  links := h.alive

theorem keepsLinks_writeVotes (w : World) (s : ℤ) (f : Votes → Votes) :
    KeepsLinks w (w.writeVotes s f) := by
  cases hp : w.mSessionTaskMap.findSession s with
  | none =>
      rw [writeVotes_none hp]
      exact .of_links rfl rfl rfl
  | some p =>
      rw [writeVotes_some hp]
      exact .of_links rfl rfl rfl

theorem keepsLinks_forceSection (w : World) (s : ℤ) (b : Bool) :
    KeepsLinks w (w.forceSection s b).2 := by
  cases hp : w.mSessionTaskMap.findSession s with
  | none =>
      rw [forceSection_none hp]
      exact .of_links rfl rfl rfl
  | some p =>
      rw [forceSection_some hp]
      exact .of_links rfl rfl rfl

theorem keepsLinks_addSection (w : World) (desc : AppHintDesc) (t : ℤ) :
    KeepsLinks w (w.addSection desc t) := by
  refine .of_links rfl rfl ?_
  unfold addSection modifyMap
  by_cases h : w.mSessionTaskMap.findSession desc.sessionId = none
  · simp only [Wf.addNew_absent h]
    rfl
  · simp only [Wf.addNew_present h]

theorem keepsLinks_applyVotes (hw : Wf w.mSessionTaskMap) (s t : ℤ) :
    KeepsLinks w (w.applyVotes s t) :=
  (applyVotes_refreshes hw s t).keepsLinks (onlyOutputs_applyVotes w s t)

end World

open World in
/-- An action that is not about the standing of a session sets no profile and leaves the links of
living threads alone. -/
theorem Action.keepsLinks {A : Special → Prop} {w w' : World} (h : Action A w w')
    (hA : LeavesStanding A) (hw : Wf w.mSessionTaskMap) : KeepsLinks w w' := by
  cases h with
  | quiet hq => exact .of_links hq.taskProfiles hq.schedCalls (by rw [hq.map])
  | apart hk ha =>
      refine .of_links ?_ ha.aside.schedCalls (by rw [ha.aside.map])
      cases ha with
      | construct tgid uid tids d => rfl
      | activate s b => rfl
      | retarget s t => rfl
      | close s => rfl
      | taskProfile profile tid => exact absurd hk hA.1
      | records s f _ _ =>
          obtain ⟨sessions, faults, heq⟩ := World.withRecords_eq s f w
          rw [heq]
      | frequency =>
          obtain ⟨faults, reads, heq⟩ := World.readGpuFrequency_eq w
          rw [heq]
      | hint hq => exact hq.taskProfiles
  | add desc t _ hk => exact absurd hk hA.1
  | force s b _ hk => exact absurd hk hA.1
  | switch s b _ hk => exact absurd hk hA.1
  | replace s tids _ hk => exact absurd hk hA.1
  | remove s _ hk => exact absurd hk (hA.2 s)
  | apply s t => exact keepsLinks_applyVotes hw s t
  | vote e d b _ _ =>
      rcases voteSection_cases w e d b with ⟨-, heq⟩ | ⟨p, decided, hp, heq⟩
      · rw [heq]
        exact .of_links rfl rfl rfl
      · have hvoted : KeepsLinks w (w.voted e d b p) :=
          (keepsLinks_writeVotes w e.sessionId _).trans
            ((voted_refreshes hw hp d b).keepsLinks (onlyOutputs_voted_writeVotes w e d b p))
        rw [heq]
        exact hvoted.trans (.of_links rfl rfl rfl)
  | disable s => exact keepsLinks_writeVotes w s _
  | expire e t =>
      rcases expireSection_world w e t with ⟨decided, heq⟩ | heq
      · rw [heq]
        exact .of_links rfl rfl rfl
      · rw [heq]
        have hrun : KeepsLinks w { w with running := w.running.erase e } := .of_links rfl rfl rfl
        exact hrun.trans (keepsLinks_writeVotes _ _ _)
  | enqueue e => exact .of_links rfl rfl rfl
  | pop i =>
      obtain ⟨queue, running, heq⟩ := World.pop_eq i w
      rw [heq]
      exact .of_links rfl rfl rfl
  | duration s v d _ _ => exact keepsLinks_writeVotes w s _
  | efficiency s b _ _ =>
      rcases efficiencySection_cases w s b with heq | ⟨p, -, heq⟩
      · rw [heq]
        exact .of_links rfl rfl rfl
      · rw [heq]
        exact .of_links rfl rfl rfl
  | uclamp s t _ _ =>
      exact (applyUclampLocked_refreshes hw s t).keepsLinks (onlyOutputs_applyUclampLocked w s t)
  | profile mode b _ _ =>
      obtain ⟨rate, heq⟩ := hintMode_eq mode b w
      rw [heq]
      exact .of_links rfl rfl rfl

/-! ### The ledger -/

namespace World

variable {w w' : World} {tid : ℤ} {owed owed' : ℤ → Option TaskProfile}

/-- For every living thread, the profile that is owed to it, or else the last one that was set, tells
whether a session is linked to it. -/
structure Ledger (owed : ℤ → Option TaskProfile) (w : World) : Prop where
  wf : Wf w.mSessionTaskMap
  profile : ∀ tid, w.NeverDead tid →
    ((owed tid).or (w.lastProfile tid) = some .ResetUclampGrp ↔ w.mSessionTaskMap.Linked tid)

/-- Nothing is owed. -/
def Balanced (w : World) : Prop := Ledger (fun _ => none) w

namespace Ledger

theorem keepsLinks (h : Ledger owed w) (hk : KeepsLinks w w') (hwf : Wf w'.mSessionTaskMap) :
    Ledger owed w' where
  wf := hwf
  profile := by
    intro tid hd
    have hlast : w'.lastProfile tid = w.lastProfile tid := by
      unfold lastProfile
      rw [hk.taskProfiles]
    rw [hlast, hwf.toConsistent.linked_iff, hk.links tid hd, ← h.wf.toConsistent.linked_iff]
    exact h.profile tid (hd.of_suffix hk.calls)

/-- An action that is of no special kind, or calls the hint manager. -/
theorem plain (h : Ledger owed w) (ha : Action (Eq .hint) w w') : Ledger owed w' :=
  h.keepsLinks (ha.keepsLinks leavesStanding_hint h.wf) (ha.wf h.wf)

theorem stable (owed : ℤ → Option TaskProfile) : Stable (Ledger owed) where
  quiet := fun hq h => h.plain (.apart rfl (.hint hq))
  events := fun _ _ _ h => ⟨h.wf, h.profile⟩
  vote := fun _ _ d b w h => h.plain (.vote _ d b w rfl)

/-- The session objects have no part in it. -/
theorem modifySession (h : Ledger owed w) (s : ℤ) (f : PowerHintSession → PowerHintSession) :
    Ledger owed (w.modifySession s f) := ⟨h.wf, h.profile⟩

theorem setTaskProfile (h : Ledger owed w) (profile : TaskProfile) (tid : ℤ)
    (howed : ∀ tid', owed tid' = (owed' tid').or (if tid' = tid then some profile else none)) :
    Ledger owed' (w.setTaskProfile profile tid) where
  wf := h.wf
  profile := by
    intro tid' hd
    rw [lastProfile_setTaskProfile]
    refine Iff.trans ?_ (h.profile tid' hd)
    rw [howed tid']
    cases owed' tid' with
    | some profile' => simp
    | none =>
        by_cases htid : tid' = tid
        · simp [htid]
        · simp [htid]

open PowerSessionManager Prog in
/-- The profiles that are owed to the threads of a list are set. -/
theorem setTaskProfiles (profile : TaskProfile) (tids : List ℤ) :
    ∀ owed : ℤ → Option TaskProfile,
      (∀ tid, owed tid = (owed' tid).or (if tid ∈ tids then some profile else none)) →
      Triple (Ledger owed) (setTaskProfiles profile tids) fun _ => Ledger owed' := by
  induction tids with
  | nil =>
      intro owed howed
      have hsame : owed = owed' := by
        funext tid
        simpa using howed tid
      rw [hsame]
      exact fun w h => h
  | cons tid tids ih =>
      intro owed howed
      let rest : ℤ → Option TaskProfile := fun tid' =>
        (owed' tid').or (if tid' ∈ tids then some profile else none)
      refine Triple.bind (Q := fun _ => Ledger rest) (Triple.modify fun w h => ?_) fun _ =>
        ih rest fun _ => rfl
      refine h.setTaskProfile profile tid fun tid' => ?_
      rw [howed tid']
      cases hrest : owed' tid' with
      | some profile' => simp [rest, hrest]
      | none =>
          by_cases hmem : tid' ∈ tids
          · simp [rest, hrest, hmem]
          · simp [rest, hrest, hmem, List.mem_cons]

/-- A replacement: what is owed to the threads that come and to those that go. -/
theorem replaceSection (h : Balanced w) (s : ℤ) (tids : List ℤ) :
    Ledger (fun tid => if tid ∈ (w.replaceSection s tids).1.2 then some .NoResetUclampGrp
      else if tid ∈ (w.replaceSection s tids).1.1 then some .ResetUclampGrp else none)
      (w.replaceSection s tids).2 where
  wf := wf_replaceSection h.wf s tids
  profile := by
    intro tid hd
    have hbefore := h.profile tid hd
    have hadded : tid ∈ (w.replaceSection s tids).1.1 ↔ _ := mem_addedThreads h.wf
    have hremoved : tid ∈ (w.replaceSection s tids).1.2 ↔ _ := mem_removedThreads h.wf
    have hlast : (w.replaceSection s tids).2.lastProfile tid = w.lastProfile tid := rfl
    -- a link of another session stays
    have hother : w.mSessionTaskMap.Linked tid → tid ∉ w.mSessionTaskMap.getTaskIds s →
        (w.replaceSection s tids).2.mSessionTaskMap.Linked tid := by
      rintro ⟨s', hs'⟩ hnot
      refine ⟨s', ?_⟩
      rw [getTaskIds_replaceSection, if_neg]
      · exact hs'
      · rintro ⟨rfl, -⟩
        exact hnot hs'
    by_cases hlinked : (w.replaceSection s tids).2.mSessionTaskMap.Linked tid
    · rw [if_neg fun hmem => (hremoved.1 hmem).2 hlinked]
      by_cases hwas : w.mSessionTaskMap.Linked tid
      · rw [if_neg fun hmem => (hadded.1 hmem).2.2 hwas, hlast]
        exact iff_of_true (hbefore.2 hwas) hlinked
      · have hnew : tid ∈ (w.replaceSection s tids).1.1 := by
          obtain ⟨s', hs'⟩ := hlinked
          rw [getTaskIds_replaceSection] at hs'
          split at hs'
          case isTrue hand => exact hadded.2 ⟨hand.2, hs', hwas⟩
          case isFalse => exact absurd ⟨s', hs'⟩ hwas
        rw [if_pos hnew]
        exact iff_of_true rfl hlinked
    · by_cases hmem : tid ∈ w.mSessionTaskMap.getTaskIds s
      · rw [if_pos (hremoved.2 ⟨hmem, hlinked⟩)]
        exact iff_of_false (by simp) hlinked
      · have hwas : ¬ w.mSessionTaskMap.Linked tid := fun hwas => hlinked (hother hwas hmem)
        have hnot : tid ∉ (w.replaceSection s tids).1.1 := by
          intro hin
          obtain ⟨hfound, htid, -⟩ := hadded.1 hin
          refine hlinked ⟨s, ?_⟩
          rwa [getTaskIds_replaceSection, if_pos ⟨rfl, hfound⟩]
        rw [if_neg fun hin => hmem (hremoved.1 hin).1, if_neg hnot, hlast]
        exact iff_of_false (fun hreset => hwas (hbefore.1 hreset)) hlinked

/-- A removal: what is owed to the threads that go.  It is a replacement by no threads, and then the
session has no links to lose. -/
theorem removeSection (h : Balanced w) (s : ℤ) :
    Ledger (fun tid => if tid ∈ (w.removeSection s).1 then some .NoResetUclampGrp else none)
      (w.removeSection s).2 where
  wf := wf_removeSection h.wf s
  profile := by
    intro tid hd
    have hreplace := (Ledger.replaceSection h s []).profile tid hd
    have hnone : tid ∉ (w.replaceSection s []).1.1 := fun hin => by
      have hadded : tid ∈ (w.replaceSection s []).1.1 ↔ _ := mem_addedThreads h.wf
      cases (hadded.1 hin).2.1
    rw [if_neg hnone] at hreplace
    refine Iff.trans hreplace (exists_congr fun s' => ?_)
    rw [getTaskIds_removeSection, getTaskIds_replaceSection]
    by_cases hs : s' = s
    · rw [if_pos hs, hs]
      by_cases hfound : w.mSessionTaskMap.findSession s = none
      · rw [if_neg fun hand => hand.2 hfound, getTaskIds, findSession_eq_none.1 hfound]
        rfl
      · rw [if_pos ⟨rfl, hfound⟩]
    · rw [if_neg hs, if_neg fun hand => hs hand.1]

end Ledger

end World

/-! ### Whole operations -/

section Operations

open World Prog PowerSessionManager

theorem forceSessionActive_balanced (s : ℤ) (b : Bool) :
    Triple Balanced (forceSessionActive s b) fun _ => Balanced := by
  have hcalm := (Ledger.stable fun _ => none).toCalm
  refine forceSessionActive_triple hcalm hcalm s b (fun w h => ?_) (fun _ h _ => h)
    fun w h => h.plain (.apply s w.clock w)
  exact h.keepsLinks (keepsLinks_forceSection w s b) (wf_forceSection h.wf s b)

theorem switchSession_balanced (s : ℤ) (b : Bool) :
    Triple Balanced (do
      let changed ← Prog.critical Lock.mSessionTaskMapMutex (Prog.atomic (switchSection s b))
      Prog.when changed (refresh s)) fun _ => Balanced := by
  have hcalm := (Ledger.stable fun _ => none).toCalm
  refine switchSession_triple hcalm hcalm s b (fun w h => ?_) fun w h =>
    h.plain (.apply s w.clock w)
  exact h.keepsLinks (keepsLinks_forceSection w s b) (wf_forceSection h.wf s b)

theorem setThreadsFromPowerSession_balanced (s : ℤ) (tids : List ℤ) :
    Triple Balanced (setThreadsFromPowerSession s tids) fun _ => Balanced := by
  refine setThreadsFromPowerSession_profiles
    (R := fun threads => Ledger fun tid => if tid ∈ threads.2 then some .NoResetUclampGrp
      else if tid ∈ threads.1 then some .ResetUclampGrp else none)
    (S := fun removed => Ledger fun tid => if tid ∈ removed then some .NoResetUclampGrp else none)
    s tids (forceSessionActive_balanced s false) (fun _ h => Ledger.replaceSection h s tids)
    (fun threads => ?_) (fun removed => ?_) (forceSessionActive_balanced s true)
  · refine Ledger.setTaskProfiles _ threads.1 _ fun tid => ?_
    by_cases hmem : tid ∈ threads.2
    · simp [hmem]
    · simp [hmem]
  · exact Ledger.setTaskProfiles _ removed _ fun tid => by simp

theorem removePowerSession_balanced (s : ℤ) :
    Triple Balanced (removePowerSession s) fun _ => Balanced := by
  refine removePowerSession_profiles
    (R := fun removed => Ledger fun tid => if tid ∈ removed then some .NoResetUclampGrp else none)
    (Ledger.stable fun _ => none).toCalm s (forceSessionActive_balanced s false)
    (fun _ h => Ledger.removeSection h s) fun removed => ?_
  exact Ledger.setTaskProfiles _ removed _ fun tid => by simp

theorem addPowerSession_balanced (desc : Option AppHintDesc) (tids : List ℤ) :
    Triple Balanced (addPowerSession desc tids) fun _ => Balanced := by
  cases desc with
  | none => exact fun w h => h
  | some desc =>
      refine addPowerSession_triple (Ledger.stable fun _ => none).toCalm desc tids (fun w h => ?_)
        (setThreadsFromPowerSession_balanced desc.sessionId tids)
      exact h.keepsLinks (keepsLinks_addSection w desc w.clock) (wf_addSection h.wf desc w.clock)

end Operations

open World Prog PowerSessionManager in
/-- **Every operation keeps the ledger balanced.** -/
theorem Op.balanced (op : Op) {w : World} (h : Balanced w) : Balanced (op.prog.post w) := by
  have hstable := Ledger.stable fun _ => none
  have hskip : ∀ {α : Type} (_ : α), Triple Balanced (Prog.ret () : P Unit) fun _ => Balanced :=
    fun _ _ hw => hw
  by_cases huses : op.uses .standing
  · have hclose : ∀ s, Triple Balanced (PowerHintSession.close s) fun _ => Balanced := fun s =>
      close_triple s (fun _ hw _ => hw) (fun _ hw => Ledger.modifySession hw s _)
        (removePowerSession_balanced s) fun _ hw => Ledger.modifySession hw s _
    cases op with
    | create tgid uid tids d =>
        refine Triple.bind (create_triple (fun _ => hstable.toCalm) hstable tgid uid tids d ?_ ?_)
          hskip w h
        · exact fun w hw => ⟨hw.wf, hw.profile⟩
        · exact fun sid self => (addPowerSession_balanced (some self.mDescriptor) tids).imp
            (fun _ hw => hw.1) fun _ _ hw => hw
    | session s op =>
        rw [Op.post_session]
        cases op with
        | close => exact hclose s w h
        | destroy =>
            exact destroy_triple s (hclose s) (fun _ hw => Ledger.modifySession hw s _) w h
        | pause =>
            refine pause_triple s (fun _ hw _ => hw) ?_ (fun _ hw => Ledger.modifySession hw s _)
              (switchSession_balanced s false) w h
            exact (setThreadsFromPowerSession_balanced s []).imp (fun _ hw => hw.1) fun _ _ hw => hw
        | resume =>
            refine resume_triple s (fun _ hw _ => hw) (fun tids => ?_)
              (fun _ hw => Ledger.modifySession hw s _) (switchSession_balanced s true) w h
            exact (setThreadsFromPowerSession_balanced s tids).imp (fun _ hw => hw.1) fun _ _ hw => hw
        | setThreads tids =>
            refine setThreads_triple hstable.toCalm hstable s tids (fun _ hw _ => hw) (fun _ _ => ?_)
              w h
            exact (setThreadsFromPowerSession_balanced s tids).imp (fun _ hw => hw.1) fun _ _ hw => hw
        | sendHint hint => cases hint <;> exact huses.elim
        | _ => exact huses.elim
    | manager op =>
        cases op with
        | addPowerSession desc tids => exact addPowerSession_balanced desc tids w h
        | removePowerSession s => exact removePowerSession_balanced s w h
        | setThreadsFromPowerSession s tids => exact setThreadsFromPowerSession_balanced s tids w h
        | pause s => exact switchSession_balanced s false w h
        | resume s => exact switchSession_balanced s true w h
        | _ => exact huses.elim
    | dumpToStream s => exact huses.elim
    | worker i => exact huses.elim
  · refine op.keeps (fun w w' ha hw => ?_) w h
    exact Ledger.keepsLinks hw (ha.keepsLinks (Op.leavesStanding huses) hw.wf) (ha.wf hw.wf)

/-! ### Whole runs -/

theorem Runs.balanced {ok : World → Op → Prop} {w₁ w : World} (h : Runs ok w₁ w)
    (h₁ : w₁.Balanced) : w.Balanced := by
  induction h with
  | init => exact h₁
  | step op _ _ _ ih => exact op.balanced ih

/-- **The task-profile ledger.**  After every operation of every run, the last profile of a thread
that was never found dead is `ResetUclampGrp` if a session is linked to the thread, and
`NoResetUclampGrp` or none if there is no such session. -/
theorem task_profile_ledger (env : Env) (adpfConfig : AdpfConfig) (w : World)
    (h : Runs (fun _ _ => True) (World.init env adpfConfig) w) (tid : ℤ) (halive : w.NeverDead tid) :
    (w.mSessionTaskMap.Linked tid → w.lastProfile tid = some .ResetUclampGrp) ∧
      (¬ w.mSessionTaskMap.Linked tid →
        w.lastProfile tid = some .NoResetUclampGrp ∨ w.lastProfile tid = none) := by
  have hinit : (World.init env adpfConfig).Balanced := by
    refine ⟨Wf.empty, fun tid _ => iff_of_false (fun hreset => by cases hreset) ?_⟩
    rintro ⟨s, hs⟩
    cases hs
  have hlast := (h.balanced hinit).profile tid halive
  rw [Option.none_or] at hlast
  refine ⟨hlast.2, fun hnot => ?_⟩
  cases hprofile : w.lastProfile tid with
  | none => exact Or.inr rfl
  | some profile =>
      cases profile with
      | ResetUclampGrp => exact absurd (hlast.1 hprofile) hnot
      | NoResetUclampGrp => exact Or.inl rfl

/-- The descriptor of a session of an app. -/
def appDescriptor (s : ℤ) (tids : List ℤ) : AppHintDesc where
  sessionId := s
  tgid := 100
  uid := 10000
  targetNs := 16000000
  thread_ids := tids

/-- Two sessions share thread `7`, and the one that also has thread `8` is removed. -/
@[irreducible] def sharedAndRemoved : World :=
  (Op.manager (.removePowerSession 1)).prog.post
    ((Op.manager (.addPowerSession (some (appDescriptor 2 [7])) [7])).prog.post
      ((Op.manager (.addPowerSession (some (appDescriptor 1 [7, 8, 8])) [7, 8, 8])).prog.post
        (World.init {} makeMockConfig)))

theorem task_profile_ledger_shared :
    sharedAndRemoved.lastProfile 7 = some .ResetUclampGrp ∧
      (sharedAndRemoved.lastProfile 8 = some .NoResetUclampGrp ∨
        sharedAndRemoved.lastProfile 8 = none) := by
  have hruns : Runs (fun _ _ => True) (World.init {} makeMockConfig) sharedAndRemoved := by
    unfold sharedAndRemoved
    exact ((Runs.init.next _ trivial id).next _ trivial id).next _ trivial id
  have halive : ∀ tid, sharedAndRemoved.NeverDead tid := by
    intro tid c hc _
    have hcalls : ∀ c ∈ sharedAndRemoved.schedCalls, c.err ≠ ESRCH := by decide +kernel
    exact hcalls c hc
  have hcons := (hruns.wf Wf.empty).toConsistent
  refine ⟨(task_profile_ledger _ _ _ hruns 7 (halive 7)).1 ?_,
    (task_profile_ledger _ _ _ hruns 8 (halive 8)).2 ?_⟩
  · exact hcons.linked_iff.2 (by decide +kernel)
  · exact fun hlinked => hcons.linked_iff.1 hlinked (by decide +kernel)

end Adpf
