/-
**A session and the manager agree on its state.**

Whether a session is active is written down twice: in the descriptor of the session object, and in
the entry that the manager has for it.  Every operation that changes the one also changes the other,
but not in one action: the manager's copy goes off and on again whenever the session is given
threads.  This module proves that the two agree after every operation, as long as no threads are
given to a session that is paused; and that they disagree after such a call.

Main definitions:

* `Adpf.World.SessionAgrees` — what it means for the two to agree about a session;
* `Adpf.World.Steady` — what the actions do that are not about the standing of a session;
* `Adpf.World.Tracks` — all other sessions agree, and what is known of the one under operation;
* `Adpf.KeepsAgreement` — the operations, with the condition on threads.

Main results:

* `Adpf.Action.steady` — such actions leave the flags alone and only take threads away;
* `Adpf.setThreadsFromPowerSession_tracks`, `Adpf.removePowerSession_tracks` — what becomes of the
  session under operation;
* `Adpf.session_manager_agree` — **the two agree after every operation of a run**, and exactly the
  calls that are left out would break it.
-/

import MotoCommon.LockDiscipline
import MotoCommon.RunRules

set_option autoImplicit false

namespace Adpf

open Conc SessionTaskMap

/-- The flag in the manager's entry of a session. -/
def SessionTaskMap.active? (m : SessionTaskMap) (s : ℤ) : Option Bool :=
  (m.state? s).map SessionValueEntry.isActive

theorem SessionTaskMap.active?_eq_none {m : SessionTaskMap} {s : ℤ} :
    m.active? s = none ↔ m.findSession s = none := by
  rw [active?, Option.map_eq_none_iff, state?_eq_none]

namespace World

variable {w w' : World} {s : ℤ}

/-- The session object and the manager agree: the manager has no entry for a session that is closed;
for an open one it has an entry with the same flag, and without threads if the session is paused. -/
def SessionAgrees (w : World) (s : ℤ) : Prop :=
  if (w.sessions s).mSessionClosed = true then w.mSessionTaskMap.findSession s = none
  else w.mSessionTaskMap.active? s = some (w.sessions s).mDescriptor.is_active ∧
    ((w.sessions s).mDescriptor.is_active = false → w.mSessionTaskMap.getTaskIds s = [])

theorem SessionAgrees.of_closed (hclosed : (w.sessions s).mSessionClosed = true)
    (hnone : w.mSessionTaskMap.findSession s = none) : w.SessionAgrees s := by
  rw [SessionAgrees, if_pos hclosed]
  exact hnone

theorem SessionAgrees.of_open {active : Bool} (hstands : w.Stands s false active)
    (hentry : w.mSessionTaskMap.active? s = some active)
    (htasks : active = false → w.mSessionTaskMap.getTaskIds s = []) : w.SessionAgrees s := by
  obtain ⟨hopen, rfl⟩ := hstands
  rw [SessionAgrees, if_neg (by simp [hopen])]
  exact ⟨hentry, htasks⟩

theorem SessionAgrees.active? {active : Bool} (h : w.SessionAgrees s)
    (hstands : w.Stands s false active) : w.mSessionTaskMap.active? s = some active := by
  obtain ⟨hopen, rfl⟩ := hstands
  rw [SessionAgrees, if_neg (by simp [hopen])] at h
  exact h.1

theorem SessionAgrees.congr (h : w.SessionAgrees s) (hsession : w'.sessions s = w.sessions s)
    (hactive : w'.mSessionTaskMap.active? s = w.mSessionTaskMap.active? s)
    (htasks : w'.mSessionTaskMap.getTaskIds s = w.mSessionTaskMap.getTaskIds s) :
    w'.SessionAgrees s := by
  unfold SessionAgrees at h ⊢
  rw [← active?_eq_none] at h ⊢
  rwa [hsession, hactive, htasks]

/-! ### Actions that leave the standing alone -/

/-- From `w` to `w'` no session came or went, or was switched on or off, and threads were only taken
away. -/
structure Steady (w w' : World) : Prop where
  wf : Wf w'.mSessionTaskMap
  active? : ∀ s, w'.mSessionTaskMap.active? s = w.mSessionTaskMap.active? s
  tasks : ∀ s, (w'.mSessionTaskMap.getTaskIds s).Sublist (w.mSessionTaskMap.getTaskIds s)
  sessions : ∀ s, (w.sessions s).Like (w'.sessions s)

theorem SessionAgrees.steady (h : w.SessionAgrees s) (hs : Steady w w') : w'.SessionAgrees s := by
  have hlike := hs.sessions s
  unfold SessionAgrees at h ⊢
  rw [hlike.closed, hlike.active, ← active?_eq_none, hs.active?]
  rw [← active?_eq_none] at h
  split
  case isTrue hclosed => rwa [if_pos hclosed] at h
  case isFalse hopen =>
    rw [if_neg hopen] at h
    refine ⟨h.1, fun hpaused => ?_⟩
    have hsub := hs.tasks s
    rw [h.2 hpaused] at hsub
    exact List.sublist_nil.1 hsub

/-- What an action does to the entries of the manager, when it is not about their standing. -/
structure SteadyMap (w w' : World) : Prop where
  active? : ∀ s, w'.mSessionTaskMap.active? s = w.mSessionTaskMap.active? s
  tasks : ∀ s, (w'.mSessionTaskMap.getTaskIds s).Sublist (w.mSessionTaskMap.getTaskIds s)

theorem SteadyMap.of_map (h : w'.mSessionTaskMap = w.mSessionTaskMap) : SteadyMap w w' where
  active? := fun s => by rw [h]
  tasks := fun s => by rw [h]

theorem SteadyMap.trans {w'' : World} (h : SteadyMap w w') (h' : SteadyMap w' w'') :
    SteadyMap w w'' where
  active? := fun s => (h'.active? s).trans (h.active? s)
  tasks := fun s => (h'.tasks s).trans (h.tasks s)

theorem Refreshes.steadyMap (h : Refreshes w w') : SteadyMap w w' where
  active? := fun s => congrArg (Option.map SessionValueEntry.isActive) (h.state? s)
  tasks := h.tasks

theorem steadyMap_writeVotes (w : World) (s : ℤ) (f : Votes → Votes) :
    SteadyMap w (w.writeVotes s f) where
  active? := fun s' => congrArg (Option.map SessionValueEntry.isActive) (state?_writeVotes w s f s')
  tasks := fun s' => by rw [getTaskIds_writeVotes]

theorem steadyMap_efficiencySection (hw : Wf w.mSessionTaskMap) (s : ℤ) (b : Bool) :
    SteadyMap w (w.efficiencySection s b).2 := by
  rcases efficiencySection_cases w s b with heq | ⟨p, hp, heq⟩
  · rw [heq]
    exact .of_map rfl
  · rw [heq]
    refine ⟨fun s' => ?_, fun s' => List.Sublist.refl _⟩
    have hstate := hw.state?_modifyVal hp (efficientVal b) (efficientVal b) (fun _ => rfl) s'
    unfold SessionTaskMap.active?
    refine (congrArg (Option.map SessionValueEntry.isActive) hstate).trans ?_
    split
    case isTrue hs =>
      rw [hs, Option.map_map]
      rfl
    case isFalse => rfl

end World

open World in
/-- An action that is not about the standing of a session does not change the entries' flags, and
takes at most threads away. -/
theorem Action.steadyMap {A : Special → Prop} {w w' : World} (h : Action A w w')
    (hA : LeavesStanding A) (hw : Wf w.mSessionTaskMap) : SteadyMap w w' := by
  cases h with
  | quiet hq => exact .of_map hq.map
  | apart _ ha => exact .of_map ha.aside.map
  | add desc t _ hk => exact absurd hk hA.1
  | force s b _ hk => exact absurd hk hA.1
  | switch s b _ hk => exact absurd hk hA.1
  | replace s tids _ hk => exact absurd hk hA.1
  | remove s _ hk => exact absurd hk (hA.2 s)
  | apply s t => exact (applyVotes_refreshes hw s t).steadyMap
  | vote e d b _ _ =>
      rcases voteSection_cases w e d b with ⟨-, heq⟩ | ⟨p, decided, hp, heq⟩
      · rw [heq]
        exact .of_map rfl
      · have hvoted : SteadyMap w (w.voted e d b p) :=
          (steadyMap_writeVotes w e.sessionId _).trans (voted_refreshes hw hp d b).steadyMap
        rw [heq]
        exact hvoted.trans (.of_map rfl)
  | disable s => exact steadyMap_writeVotes w s _
  | expire e t =>
      rcases expireSection_world w e t with ⟨decided, heq⟩ | heq
      · rw [heq]
        exact .of_map rfl
      · rw [heq]
        have hrun : SteadyMap w { w with running := w.running.erase e } := .of_map rfl
        exact hrun.trans (steadyMap_writeVotes _ _ _)
  | enqueue e => exact .of_map rfl
  | pop i =>
      obtain ⟨queue, running, heq⟩ := World.pop_eq i w
      rw [heq]
      exact .of_map rfl
  | duration s v d _ _ => exact steadyMap_writeVotes w s _
  | efficiency s b _ _ => exact steadyMap_efficiencySection hw s b
  | uclamp s t _ _ => exact (applyUclampLocked_refreshes hw s t).steadyMap
  | profile mode b _ _ =>
      obtain ⟨rate, heq⟩ := hintMode_eq mode b w
      rw [heq]
      exact .of_map rfl

open World in
theorem Action.steady {A : Special → Prop} {w w' : World} (h : Action A w w')
    (hnew : ¬ A .construct) (hA : LeavesStanding A) (hw : Wf w.mSessionTaskMap) : Steady w w' := by
  have hmap := h.steadyMap hA hw
  refine ⟨h.wf hw, hmap.active?, hmap.tasks, fun s => ?_⟩
  have hkeeps := h.keepsSession hnew s
  exact ⟨hkeeps.closed (hA.2 s), hkeeps.active hA.1, hkeeps.records, hkeeps.sessionId⟩

/-! ### The session under operation -/

namespace World

variable {w w' : World} {s : ℤ} {entry : Option Bool} {tasks : List ℤ} {closed active : Bool}

/-- All sessions but `s` agree; the manager's entry of `s` has the flag `entry` and no threads but
some of `tasks`; and the session object has the standing `closed`, `active`. -/
structure Tracks (s : ℤ) (entry : Option Bool) (tasks : List ℤ) (closed active : Bool) (w : World) :
    Prop where
  wf : Wf w.mSessionTaskMap
  others : ∀ s' ≠ s, w.SessionAgrees s'
  entry_eq : w.mSessionTaskMap.active? s = entry
  tasks_sub : (w.mSessionTaskMap.getTaskIds s).Sublist tasks
  stands : w.Stands s closed active

/-- All sessions agree. -/
structure Agree (w : World) : Prop where
  wf : Wf w.mSessionTaskMap
  agrees : ∀ s, w.SessionAgrees s

theorem Agree.steady (h : Agree w) (hs : Steady w w') : Agree w' :=
  ⟨hs.wf, fun s => (h.agrees s).steady hs⟩

theorem Agree.tracks (h : Agree w) (hstands : w.Stands s closed active) :
    Tracks s (w.mSessionTaskMap.active? s) (w.mSessionTaskMap.getTaskIds s) closed active w :=
  ⟨h.wf, fun s' _ => h.agrees s', rfl, List.Sublist.refl _, hstands⟩

namespace Tracks

theorem steady (h : Tracks s entry tasks closed active w) (hs : Steady w w') :
    Tracks s entry tasks closed active w' where
  wf := hs.wf
  others := fun s' hne => (h.others s' hne).steady hs
  entry_eq := (hs.active? s).trans h.entry_eq
  tasks_sub := (hs.tasks s).trans h.tasks_sub
  stands := ⟨(hs.sessions s).closed.trans h.stands.1, (hs.sessions s).active.trans h.stands.2⟩

/-- An action that is of no special kind, or calls the hint manager. -/
theorem plain (h : Tracks s entry tasks closed active w) (ha : Action (Eq .hint) w w') :
    Tracks s entry tasks closed active w' :=
  h.steady (ha.steady (by decide) leavesStanding_hint h.wf)

theorem calm (s : ℤ) (entry : Option Bool) (tasks : List ℤ) (closed active : Bool) :
    Calm (Tracks s entry tasks closed active) where
  quiet := fun hq h => h.plain (.apart rfl (.hint hq))
  events := fun _ _ _ h => ⟨h.wf, h.others, h.entry_eq, h.tasks_sub, h.stands⟩

theorem stable (s : ℤ) (entry : Option Bool) (tasks : List ℤ) (closed active : Bool) :
    Stable (Tracks s entry tasks closed active) where
  toCalm := calm s entry tasks closed active
  vote := fun _ _ d b w h => h.plain (.vote _ d b w rfl)

theorem unprofiled (s : ℤ) (entry : Option Bool) (tasks : List ℤ) (closed active : Bool) :
    Unprofiled (Tracks s entry tasks closed active) :=
  fun _ _ _ h => ⟨h.wf, h.others, h.entry_eq, h.tasks_sub, h.stands⟩

/-- Only the manager's entry of the session under operation is changed. -/
theorem modifyEntry {entry' : Option Bool} {tasks' : List ℤ}
    (h : Tracks s entry tasks closed active w) (hwf : Wf w'.mSessionTaskMap)
    (hsessions : w'.sessions = w.sessions)
    (hactive : ∀ s' ≠ s, w'.mSessionTaskMap.active? s' = w.mSessionTaskMap.active? s')
    (htasks : ∀ s' ≠ s, w'.mSessionTaskMap.getTaskIds s' = w.mSessionTaskMap.getTaskIds s')
    (hentry : w'.mSessionTaskMap.active? s = entry')
    (hsub : (w'.mSessionTaskMap.getTaskIds s).Sublist tasks') :
    Tracks s entry' tasks' closed active w' where
  wf := hwf
  others := fun s' hne =>
    (h.others s' hne).congr (congrFun hsessions s') (hactive s' hne) (htasks s' hne)
  entry_eq := hentry
  tasks_sub := hsub
  stands := by
    unfold World.Stands
    rw [hsessions]
    exact h.stands

theorem forceSection (h : Tracks s entry tasks closed active w) (b : Bool) :
    Tracks s (entry.map fun _ => b) tasks closed active (w.forceSection s b).2 := by
  have hstate := state?_forceSection h.wf s b
  refine h.modifyEntry (wf_forceSection h.wf s b) ?_ ?_ ?_ ?_ ?_
  · rw [onlyMap_forceSection]
  · intro s' hne
    unfold SessionTaskMap.active?
    rw [hstate, if_neg hne]
  · exact fun s' _ => getTaskIds_forceSection w s b s'
  · rw [← h.entry_eq]
    unfold SessionTaskMap.active?
    rw [hstate, if_pos rfl, Option.map_map, Option.map_map]
    rfl
  · rw [getTaskIds_forceSection]
    exact h.tasks_sub

theorem replaceSection (h : Tracks s entry tasks closed active w) (tids : List ℤ) :
    Tracks s entry tids closed active (w.replaceSection s tids).2 := by
  have hactive : ∀ s', (w.replaceSection s tids).2.mSessionTaskMap.active? s' =
      w.mSessionTaskMap.active? s' := fun s' =>
    congrArg (Option.map SessionValueEntry.isActive) (h.wf.state?_replace s tids [] [] s')
  refine h.modifyEntry (wf_replaceSection h.wf s tids) rfl (fun s' _ => hactive s') ?_
    ((hactive s).trans h.entry_eq) ?_
  · intro s' hne
    rw [getTaskIds_replaceSection, if_neg fun hand => hne hand.1]
  · rw [getTaskIds_replaceSection]
    split
    case isTrue => exact List.Sublist.refl _
    case isFalse hnot =>
      have hnone : w.mSessionTaskMap.findSession s = none := by
        by_contra hne
        exact hnot ⟨rfl, hne⟩
      rw [getTaskIds, findSession_eq_none.1 hnone]
      exact List.nil_sublist _

theorem removeSection (h : Tracks s entry tasks closed active w) :
    Tracks s none [] closed active (w.removeSection s).2 := by
  refine h.modifyEntry (wf_removeSection h.wf s) rfl ?_ ?_ ?_ ?_
  · intro s' hne
    unfold SessionTaskMap.active?
    rw [state?_removeSection h.wf, if_neg hne]
  · intro s' hne
    rw [getTaskIds_removeSection, if_neg hne]
  · unfold SessionTaskMap.active?
    rw [state?_removeSection h.wf, if_pos rfl]
    rfl
  · rw [getTaskIds_removeSection, if_pos rfl]

/-- A session is added, if it is not there. -/
theorem addSection (h : Tracks s entry tasks closed active w) {desc : AppHintDesc}
    (hid : desc.sessionId = s) (t : ℤ) :
    Tracks s (some (entry.getD desc.is_active)) tasks closed active (w.addSection desc t) := by
  refine h.modifyEntry (wf_addSection h.wf desc t) rfl ?_ ?_ ?_ ?_
  · intro s' hne
    unfold SessionTaskMap.active?
    rw [state?_addSection h.wf, if_neg fun hand => hne (hand.1.trans hid)]
  · exact fun s' _ => getTaskIds_addSection w desc t s'
  · rw [← h.entry_eq]
    unfold SessionTaskMap.active?
    rw [state?_addSection h.wf]
    cases hv : w.mSessionTaskMap.state? s with
    | none =>
        rw [if_pos ⟨hid.symm, state?_eq_none.1 hv⟩]
        rfl
    | some v =>
        rw [if_neg fun hand => by rw [state?_eq_none.2 hand.2] at hv; cases hv]
        rfl
  · rw [getTaskIds_addSection]
    exact h.tasks_sub

/-- The session object itself is changed. -/
theorem modifySession (h : Tracks s entry tasks closed active w)
    (f : PowerHintSession → PowerHintSession) :
    Tracks s entry tasks (f (w.sessions s)).mSessionClosed (f (w.sessions s)).mDescriptor.is_active
      (w.modifySession s f) where
  wf := h.wf
  others := fun s' hne => (h.others s' hne).congr (Function.update_of_ne hne _ _) rfl rfl
  entry_eq := h.entry_eq
  tasks_sub := h.tasks_sub
  stands := by
    unfold World.Stands World.modifySession
    dsimp only
    rw [Function.update_self]
    exact ⟨rfl, rfl⟩

/-- The flags agree, and a session that is paused has no threads. -/
theorem agree (h : Tracks s (some active) tasks false active w)
    (htasks : active = false → tasks = []) : Agree w := by
  refine ⟨h.wf, fun s' => ?_⟩
  by_cases hs : s' = s
  · rw [hs]
    refine .of_open h.stands h.entry_eq fun hpaused => ?_
    have hsub := h.tasks_sub
    rw [htasks hpaused] at hsub
    exact List.sublist_nil.1 hsub
  · exact h.others s' hs

theorem agree_closed (h : Tracks s none tasks true active w) : Agree w := by
  refine ⟨h.wf, fun s' => ?_⟩
  by_cases hs : s' = s
  · rw [hs]
    exact .of_closed h.stands.1 (active?_eq_none.1 h.entry_eq)
  · exact h.others s' hs

end Tracks

end World

/-! ### Whole operations -/

section Operations

open World Prog PowerSessionManager

variable {s : ℤ}

theorem forceSessionActive_tracks (s : ℤ) (b : Bool) (entry : Option Bool) (tasks : List ℤ)
    (closed active : Bool) :
    Triple (Tracks s entry tasks closed active) (forceSessionActive s b) fun _ =>
      Tracks s (entry.map fun _ => b) tasks closed active := by
  refine forceSessionActive_triple (Tracks.calm _ _ _ _ _) (Tracks.calm _ _ _ _ _) s b
    (fun _ h => h.forceSection b) ?_ fun w h => h.plain (.apply s w.clock w)
  intro w h hp
  have hnone : entry = none := h.entry_eq.symm.trans (active?_eq_none.2 hp)
  subst hnone
  exact h

theorem switchSession_tracks (s : ℤ) (b : Bool) {entry : Bool} (tasks : List ℤ)
    (closed active : Bool) :
    Triple (Tracks s (some entry) tasks closed active) (do
      let changed ← Prog.critical Lock.mSessionTaskMapMutex (Prog.atomic (switchSection s b))
      Prog.when changed (refresh s)) fun _ => Tracks s (some b) tasks closed active := by
  -- when nothing happens the flag is the wanted one already
  refine Triple.bind (Q := fun _ => Tracks s (some b) tasks closed active)
    (Triple.critical (Triple.atomic fun w h => ?_)) fun changed => ?_
  · rcases switchSection_cases w s b with ⟨heq, hflag⟩ | ⟨heq, -⟩
    · rw [heq]
      have hentry := h.entry_eq
      obtain ⟨v, hv, hflag'⟩ := Option.map_eq_some_iff.1 hentry
      rw [hflag v hv] at hflag'
      rw [hflag']
      exact h
    · rw [heq]
      exact h.forceSection b
  · refine Triple.when (fun _ => ?_) fun _ w h => h
    exact refresh_triple (Tracks.calm _ _ _ _ _) (Tracks.calm _ _ _ _ _) s fun w h =>
      h.plain (.apply s w.clock w)

/-- A session that is there is active and has the threads it was given, or fewer. -/
theorem setThreadsFromPowerSession_tracks (s : ℤ) (tids : List ℤ) (entry : Option Bool)
    (tasks : List ℤ) (closed active : Bool) :
    Triple (Tracks s entry tasks closed active) (setThreadsFromPowerSession s tids) fun _ =>
      Tracks s (entry.map fun _ => true) tids closed active := by
  have hon := forceSessionActive_tracks s true (entry.map fun _ => false) tids closed active
  rw [Option.map_map] at hon
  exact setThreadsFromPowerSession_triple (Tracks.unprofiled _ _ _ _ _) s tids
    (forceSessionActive_tracks s false entry tasks closed active)
    (fun _ h => h.replaceSection tids) hon

theorem removePowerSession_tracks (s : ℤ) (entry : Option Bool) (tasks : List ℤ)
    (closed active : Bool) :
    Triple (Tracks s entry tasks closed active) (removePowerSession s) fun _ =>
      Tracks s none [] closed active :=
  removePowerSession_triple (Tracks.calm _ _ _ _ _) (Tracks.unprofiled _ _ _ _ _) s
    (forceSessionActive_tracks s false entry tasks closed active) fun _ h => h.removeSection

theorem addPowerSession_tracks {desc : AppHintDesc} (hid : desc.sessionId = s) (tids : List ℤ)
    (entry : Option Bool) (tasks : List ℤ) (closed active : Bool) :
    Triple (Tracks s entry tasks closed active) (addPowerSession (some desc) tids) fun _ =>
      Tracks s (some true) tids closed active := by
  have hset := setThreadsFromPowerSession_tracks s tids (some (entry.getD desc.is_active)) tasks
    closed active
  rw [← hid] at hset ⊢
  exact addPowerSession_triple (Tracks.calm _ _ _ _ _) desc tids
    (fun u hu => hu.addSection rfl u.clock) hset

/-- An open session of the state is given threads. -/
theorem setThreadsFromPowerSession_open (s : ℤ) (tids : List ℤ) (active : Bool) :
    Triple (fun w => Agree w ∧ w.Stands s false active) (setThreadsFromPowerSession s tids) fun _ =>
      Tracks s (some true) tids false active := by
  rintro w ⟨h, hstands⟩
  have htracks := h.tracks hstands
  rw [(h.agrees s).active? hstands] at htracks
  exact setThreadsFromPowerSession_tracks s tids (some active) _ false active w htracks

theorem Agree.stable : Stable Agree where
  quiet := fun hq h => h.steady (Action.steady (.apart rfl (.hint hq)) (by decide) leavesStanding_hint h.wf)
  events := fun _ _ _ h => ⟨h.wf, h.agrees⟩
  vote := fun _ _ d b w h =>
    h.steady (Action.steady (.vote _ d b w rfl) (by decide) leavesStanding_hint h.wf)

theorem pause_agree (s : ℤ) : Triple Agree (PowerHintSession.pause s) fun _ => Agree := by
  refine pause_triple (J := Tracks s (some true) [] false true)
    (K := Tracks s (some true) [] false false) s (fun _ h _ => h)
    (setThreadsFromPowerSession_open s [] true) ?_ ?_
  · intro w h
    have hflag := h.modifySession fun x =>
      { x with mDescriptor := { x.mDescriptor with is_active := false } }
    rwa [show ({ w.sessions s with mDescriptor := _ } : PowerHintSession).mSessionClosed = false
      from h.stands.1] at hflag
  · exact (switchSession_tracks s false [] false false).imp (fun _ h => h)
      fun _ _ h => h.agree fun _ => rfl

theorem resume_agree (s : ℤ) : Triple Agree (PowerHintSession.resume s) fun _ => Agree := by
  refine resume_triple (J := fun w => ∃ tids, Tracks s (some true) tids false false w)
    (K := fun w => ∃ tids, Tracks s (some true) tids false true w) s (fun _ h _ => h) ?_ ?_ ?_
  · exact fun tids => (setThreadsFromPowerSession_open s tids false).imp (fun _ h => h)
      fun _ _ h => ⟨tids, h⟩
  · rintro w ⟨tids, h⟩
    have hflag := h.modifySession fun x =>
      { x with mDescriptor := { x.mDescriptor with is_active := true } }
    rw [show ({ w.sessions s with mDescriptor := _ } : PowerHintSession).mSessionClosed = false
      from h.stands.1] at hflag
    exact ⟨tids, hflag⟩
  · rintro w ⟨tids, h⟩
    have hpost := switchSession_tracks s true tids false true w h
    exact hpost.agree fun hfalse => by cases hfalse

theorem close_agree (s : ℤ) : Triple Agree (PowerHintSession.close s) fun _ => Agree := by
  refine close_triple (J := fun w => ∃ entry tasks active, Tracks s entry tasks true active w)
    (K := fun w => ∃ active, Tracks s none [] true active w) s (fun _ h _ => h) ?_ ?_ ?_
  · intro w h
    have hstands : w.Stands s _ _ := ⟨rfl, rfl⟩
    exact ⟨_, _, _, (h.tracks hstands).modifySession fun x => { x with mSessionClosed := true }⟩
  · rintro w ⟨entry, tasks, active, h⟩
    exact ⟨active, removePowerSession_tracks s entry tasks true active w h⟩
  · rintro w ⟨active, h⟩
    have hflag := h.modifySession fun x =>
      { x with mDescriptor := { x.mDescriptor with is_active := false } }
    rw [show ({ w.sessions s with mDescriptor := _ } : PowerHintSession).mSessionClosed = true
      from h.stands.1] at hflag
    exact hflag.agree_closed

theorem destroy_agree (s : ℤ) : Triple Agree (PowerHintSession.destroy s) fun _ => Agree :=
  destroy_triple s (close_agree s) fun w h => Agree.stable.quiet (.modifySession w ⟨⟨rfl, rfl, rfl, rfl⟩, rfl⟩) h

theorem create_agree (tgid uid : ℤ) (tids : List ℤ) (d : ℤ) :
    Triple Agree (PowerHintSession.create tgid uid tids d) fun _ => Agree := by
  -- the new object is open and active, whatever entry the manager may have under its id
  let J : ℤ → World → Prop := fun sid w =>
    (∃ entry tasks, Tracks sid entry tasks false true w) ∧
      (w.sessions sid).mDescriptor.sessionId = sid
  have hJ : ∀ sid, Calm (J sid) := by
    refine fun sid => ⟨?_, fun d q r h => ?_⟩
    · rintro w w' hq ⟨⟨entry, tasks, h⟩, hid⟩
      exact ⟨⟨entry, tasks, (Tracks.calm _ _ _ _ _).quiet hq h⟩,
        (hq.sessions sid).sessionId.trans hid⟩
    · obtain ⟨⟨entry, tasks, h⟩, hid⟩ := h
      exact ⟨⟨entry, tasks, (Tracks.calm _ _ _ _ _).events d q r h⟩, hid⟩
  refine create_triple hJ Agree.stable tgid uid tids d ?_ ?_
  · intro w h
    refine ⟨⟨w.mSessionTaskMap.active? (w.sSessionIDCounter + 1),
      w.mSessionTaskMap.getTaskIds (w.sSessionIDCounter + 1), ?_⟩, ?_⟩
    · refine ⟨h.wf, fun s' hne => ?_, rfl, List.Sublist.refl _, ?_⟩
      · exact (h.agrees s').congr (Function.update_of_ne hne _ _) rfl rfl
      · unfold Stands newSession
        dsimp only
        rw [Function.update_self]
        exact ⟨rfl, rfl⟩
    · unfold newSession
      dsimp only
      rw [Function.update_self]
  · rintro sid self w ⟨⟨⟨entry, tasks, h⟩, hid⟩, rfl⟩
    have hadd := addPowerSession_tracks hid tids entry tasks false true
    exact (hadd w h).agree fun hfalse => by cases hfalse

end Operations

/-- The operations for which session and manager agree afterwards: all operations on sessions and the
worker's rounds, but `setThreads` with threads on an open session that is paused, and of the
operations of the manager those that leave the standing of the sessions alone. -/
def KeepsAgreement (w : World) : Op → Prop
  | .session s (.setThreads tids) => w.Stands s false false → tids = []
  | .manager op => ¬ op.uses .standing
  | _ => True

open World Prog in
/-- **Every such operation leaves session and manager in agreement.** -/
theorem Op.agree (op : Op) {w : World} (hop : KeepsAgreement w op) (h : Agree w) :
    Agree (op.prog.post w) := by
  -- operations that leave the standing of the sessions alone
  have hplain : ∀ op : Op, ¬ op.uses .standing → Agree (op.prog.post w) := by
    intro op huses
    have hnew : ¬ op.uses .construct := by
      intro hcreate
      obtain ⟨tgid, uid, tids, d, rfl⟩ := op.eq_create hcreate
      exact huses trivial
    refine op.keeps (fun w w' ha hw => ?_) w h
    exact hw.steady (ha.steady hnew (Op.leavesStanding huses) hw.wf)
  have hskip : ∀ {α : Type} (_ : α), Triple Agree (Prog.ret () : P Unit) fun _ => Agree :=
    fun _ _ hw => hw
  cases op with
  | create tgid uid tids d => exact Triple.bind (create_agree tgid uid tids d) hskip w h
  | session s op =>
      rw [Op.post_session]
      cases op with
      | close => exact close_agree s w h
      | destroy =>
          exact destroy_agree s w h
      | pause => exact pause_agree s w h
      | resume => exact resume_agree s w h
      | setThreads tids =>
          have hI : Calm fun w => Agree w ∧ (w.Stands s false false → tids = []) := by
            refine ⟨fun hq hw => ⟨Agree.stable.quiet hq hw.1, fun hst => hw.2 ?_⟩,
              fun d q r hw => ⟨Agree.stable.events d q r hw.1, hw.2⟩⟩
            exact ⟨(hq.sessions s).closed.symm.trans hst.1, (hq.sessions s).active.symm.trans hst.2⟩
          refine setThreads_triple hI Agree.stable s tids (fun _ hw _ => hw.1) ?_ w ⟨h, hop⟩
          intro hne active
          cases active with
          | true =>
              exact (setThreadsFromPowerSession_open s tids true).imp (fun _ hw => ⟨hw.1.1, hw.2⟩)
                fun _ _ hw => hw.agree fun hfalse => by cases hfalse
          | false => exact fun w hw => absurd (hw.1.2 hw.2) hne
      | updateTargetWorkDuration d =>
          exact Op.post_session s _ w ▸ hplain (.session s (.updateTargetWorkDuration d)) id
      | reportActualWorkDuration ds =>
          exact Op.post_session s _ w ▸ hplain (.session s (.reportActualWorkDuration ds)) id
      | sendHint hint =>
          refine Op.post_session s _ w ▸ hplain (.session s (.sendHint hint)) ?_
          cases hint <;> exact id
      | setMode mode b => exact Op.post_session s _ w ▸ hplain (.session s (.setMode mode b)) id
      | getSessionConfig => exact Op.post_session s _ w ▸ hplain (.session s .getSessionConfig) id
  | dumpToStream s => exact hplain _ id
  | manager op => exact hplain (.manager op) hop
  | worker i => exact hplain _ id

/-! ### Whole runs -/

theorem World.Agree.init (env : Env) (adpfConfig : AdpfConfig) :
    World.Agree (World.init env adpfConfig) :=
  ⟨Wf.empty, fun _ => .of_closed rfl rfl⟩

theorem Runs.agree {w₁ w : World} (h : Runs KeepsAgreement w₁ w) (h₁ : World.Agree w₁) :
    World.Agree w := by
  induction h with
  | init => exact h₁
  | step op _ hop _ ih => exact op.agree hop ih

open World in
/-- Threads that are given to a paused session make the manager take it for active. -/
theorem setThreads_disagree {w : World} {s : ℤ} {tids : List ℤ} (h : Agree w)
    (hop : ¬ KeepsAgreement w (.session s (.setThreads tids))) :
    ¬ ((Op.session s (.setThreads tids)).prog.post w).SessionAgrees s := by
  have hstands : w.Stands s false false := by
    by_contra hnot
    exact hop fun hst => absurd hst hnot
  have hne : tids ≠ [] := fun hnil => hop fun _ => hnil
  have hI : Calm fun w => Agree w ∧ w.Stands s false false :=
    Agree.stable.toCalm.and (Stands.calm s false false)
  have htriple := setThreads_triple hI (Tracks.stable s (some true) tids false false) s tids
    (fun u hu hrefuse => ?_) (fun _ active => ?_)
  · rw [Op.post_session]
    have hpost := htriple w ⟨h, hstands⟩
    intro hagrees
    have hfalse := hpost.entry_eq.symm.trans (hagrees.active? hpost.stands)
    cases hfalse
  · rcases hrefuse with hclosed | hnil
    · rw [hu.2.1] at hclosed
      cases hclosed
    · exact absurd hnil hne
  · exact (setThreadsFromPowerSession_open s tids false).imp (fun _ hw => hw.1) fun _ _ hw => hw

/-- **Session and manager agree.**  In every state that a run leads to, in which `setThreads` with
threads is never called on an open session that is paused, each session object and the manager agree
on the state of the session; and such a call, in any state in which all agree, breaks it. -/
theorem session_manager_agree (env : Env) (adpfConfig : AdpfConfig) :
    (∀ w, Runs KeepsAgreement (World.init env adpfConfig) w → ∀ s, w.SessionAgrees s) ∧
    (∀ (w : World) (s : ℤ) (tids : List ℤ), w.Agree →
      ¬ KeepsAgreement w (.session s (.setThreads tids)) →
      ¬ ((Op.session s (.setThreads tids)).prog.post w).SessionAgrees s) :=
  ⟨fun _ h => (h.agree (World.Agree.init env adpfConfig)).agrees, fun _ _ _ => setThreads_disagree⟩

/-- A session with one thread is constructed and paused. -/
@[irreducible] def pausedWorld : World :=
  (Op.session 1 .pause).prog.post
    ((Op.create 100 10000 [7] 16000000).prog.post (World.init {} makeMockConfig))

theorem pausedWorld_runs : Runs KeepsAgreement (World.init {} makeMockConfig) pausedWorld := by
  unfold pausedWorld
  exact (Runs.init.next _ trivial id).next _ trivial id

/-- The paused session and the manager agree, and no longer do when it is given a thread. -/
theorem session_manager_agree_paused :
    pausedWorld.SessionAgrees 1 ∧
      ¬ ((Op.session 1 (.setThreads [8])).prog.post pausedWorld).SessionAgrees 1 := by
  obtain ⟨hruns, hbreaks⟩ := session_manager_agree {} makeMockConfig
  have hstands : pausedWorld.Stands 1 false false := ⟨by decide +kernel, by decide +kernel⟩
  refine ⟨hruns _ pausedWorld_runs 1, hbreaks _ 1 [8] ?_ fun hkeeps => ?_⟩
  · exact pausedWorld_runs.agree (World.Agree.init {} makeMockConfig)
  · exact absurd (hkeeps hstands) (by decide)

/-- A session that is open and paused, for which the manager has an entry that is active and has the
thread the session was given. -/
theorem setThreads_activates_paused :
    let w := (Op.session 1 (.setThreads [8])).prog.post pausedWorld
    Runs (fun _ _ => True) (World.init {} makeMockConfig) w ∧
      (w.sessions 1).mSessionClosed = false ∧
      (w.sessions 1).mDescriptor.is_active = false ∧
      w.mSessionTaskMap.active? 1 = some true ∧
      w.mSessionTaskMap.getTaskIds 1 = [8] := by
  refine ⟨?_, by decide +kernel⟩
  unfold pausedWorld
  exact ((Runs.init.next _ trivial id).next _ trivial id).next _ trivial id

end Adpf
