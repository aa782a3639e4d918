/-
**The clamps of the threads follow the votes.**

The kernel keeps for each thread the range that was last given to `sched_setattr`.  The service
refreshes it for the threads of one session at a time, whenever a vote, a flag or a link of that
session changes; votes also run out by the mere passage of time.  This module proves that between
the operations no thread is left behind: once the timeout events that are due have been handled, the
range of every living thread is the one that its sessions ask for at that time.

Main definitions:

* `Adpf.World.Fresh` — the last range of a thread is the one its sessions asked for at a time that
  is not before any of their active votes;
* `Adpf.World.Boosted` — every living thread is fresh, except those of the sessions in a list.

Main results:

* `Adpf.World.Boosted.apply` — a refresh of a session makes its threads fresh;
* `Adpf.cpu_boost_consistent` — **the last range of every thread is the one its votes ask for**, over
  whole runs.
-/

import MotoCommon.RunRules
import MotoCommon.SessionDemands
import MotoCommon.TimeoutProtocol

set_option autoImplicit false

namespace Adpf

open Conc SessionTaskMap

namespace World

variable {w w' : World} {s tid : ℤ} {X Y : List ℤ}

/-! ### Sections and links -/

theorem getSessionIds_forceSection (w : World) (s : ℤ) (b : Bool) (tid : ℤ) :
    (w.forceSection s b).2.mSessionTaskMap.getSessionIds tid = w.mSessionTaskMap.getSessionIds tid := by
  cases hp : w.mSessionTaskMap.findSession s with
  | none => rw [forceSection_none hp]
  | some p =>
      rw [forceSection_some hp]
      exact getSessionIds_modifyVal _ p (activeVal b) (fun _ => rfl) tid

theorem getSessionIds_writeVotes (w : World) (s : ℤ) (f : Votes → Votes) (tid : ℤ) :
    (w.writeVotes s f).mSessionTaskMap.getSessionIds tid = w.mSessionTaskMap.getSessionIds tid := by
  cases hp : w.mSessionTaskMap.findSession s with
  | none => rw [writeVotes_none hp]
  | some p =>
      rw [writeVotes_some hp]
      rfl

theorem getSessionIds_touch (w : World) (p : ℕ) (t tid : ℤ) :
    (w.touch p t).mSessionTaskMap.getSessionIds tid = w.mSessionTaskMap.getSessionIds tid :=
  getSessionIds_modifyVal _ p (touchVal t) (fun _ => rfl) tid

theorem Swept.getSessionIds {t : ℤ} {tids : List ℤ} (h : Swept s t tids w w') (hd : w'.NeverDead tid) :
    w'.mSessionTaskMap.getSessionIds tid = w.mSessionTaskMap.getSessionIds tid := by
  unfold SessionTaskMap.getSessionIds
  rw [h.alive tid hd, h.vals]

/-! ### Fresh threads -/

/-- A thread is fresh when its last range is what its sessions asked for at a time that is past, but
not before the start of any active vote they have; or when it has neither a range nor a session. -/
def Fresh (w : World) (tid : ℤ) : Prop :=
  (w.lastRange tid = none ∧ w.mSessionTaskMap.getSessionIds tid = []) ∨
    ∃ t ≤ w.clock,
      w.lastRange tid = some (clampRange (rangeAt (w.mSessionTaskMap.demands tid) t)) ∧
        StartedBy t (w.mSessionTaskMap.demands tid)

theorem Fresh.of_same (h : w.Fresh tid) (hlast : w'.lastRange tid = w.lastRange tid)
    (hclock : w.clock ≤ w'.clock)
    (hlinks : w.mSessionTaskMap.getSessionIds tid = [] → w'.mSessionTaskMap.getSessionIds tid = [])
    (hdemands : w'.mSessionTaskMap.demands tid = w.mSessionTaskMap.demands tid) :
    w'.Fresh tid := by
  rcases h with ⟨hnone, hnil⟩ | ⟨t, ht, hrange, hstart⟩
  · exact Or.inl ⟨hlast.trans hnone, hlinks hnil⟩
  · right
    refine ⟨t, ht.trans hclock, ?_, ?_⟩
    · rw [hlast, hrange, hdemands]
    · rw [hdemands]
      exact hstart

/-- Between operations: the maps are well formed, clamps are in use, no session prefers power
efficiency, no active vote starts later than now, and every living thread is fresh that is not linked
to a session of the list `stale`. -/
structure Boosted (stale : List ℤ) (w : World) : Prop where
  wf : Wf w.mSessionTaskMap
  minOn : w.adpfConfig.mUclampMinOn = true
  plain : ∀ s v, w.mSessionTaskMap.state? s = some v → v.isPowerEfficient = false
  started : ∀ s vs v r, w.mSessionTaskMap.votes? s = some vs → vs.timing? v = some r →
    r.mActive = true → r.mStartTime ≤ w.clock
  fresh : ∀ tid, w.NeverDead tid → (∀ s ∈ stale, s ∉ w.mSessionTaskMap.getSessionIds tid) → w.Fresh tid

namespace Boosted

theorem mono (h : Boosted X w) (hXY : X ⊆ Y) : Boosted Y w where
  wf := h.wf
  minOn := h.minOn
  plain := h.plain
  started := h.started
  fresh := fun tid hd hstale => h.fresh tid hd fun s hs => hstale s (hXY hs)

/-- A session that is not there has no threads. -/
theorem absent (h : Boosted [s] w) (hs : w.mSessionTaskMap.findSession s = none) : Boosted [] w where
  wf := h.wf
  minOn := h.minOn
  plain := h.plain
  started := h.started
  fresh := by
    intro tid hd _
    refine h.fresh tid hd fun s' hs' hmem => ?_
    rw [List.mem_singleton.1 hs'] at hmem
    exact findSession_ne_none_of_mem_getSessionIds h.wf.toConsistent hmem hs

/-- The demands of a thread are those of the sessions, which have their votes from the map. -/
theorem startedBy (h : Boosted X w) (tid : ℤ) : StartedBy w.clock (w.mSessionTaskMap.demands tid) := by
  intro votes hmem id v hl hact
  obtain ⟨s, -, hd⟩ := List.mem_filterMap.1 hmem
  unfold demand? at hd
  split at hd
  · obtain ⟨vs, hvs, rfl⟩ := Option.map_eq_some_iff.1 hd
    exact h.started s vs id v.toVoteRange hvs (Votes.timing?_of_cpu hl) hact
  · cases hd

/-- A step that makes no calls: it may change the sessions `Y`, and only makes threads stale that are
linked to one of them. -/
theorem step (h : Boosted X w) (hwf : Wf w'.mSessionTaskMap) (hconf : w'.adpfConfig = w.adpfConfig)
    (hclock : w.clock ≤ w'.clock) (hcalls : w'.schedCalls = w.schedCalls)
    (hplain : ∀ s v, w'.mSessionTaskMap.state? s = some v → v.isPowerEfficient = false)
    (hstarted : ∀ s vs v r, w'.mSessionTaskMap.votes? s = some vs → vs.timing? v = some r →
      r.mActive = true → (∃ vs₀, w.mSessionTaskMap.votes? s = some vs₀ ∧ vs₀.timing? v = some r) ∨
        r.mStartTime ≤ w'.clock)
    (hthread : ∀ tid, (∀ s ∈ Y, s ∉ w'.mSessionTaskMap.getSessionIds tid) →
      (∀ s ∈ X, s ∉ w.mSessionTaskMap.getSessionIds tid) ∧
      (w.mSessionTaskMap.getSessionIds tid = [] → w'.mSessionTaskMap.getSessionIds tid = []) ∧
      w'.mSessionTaskMap.demands tid = w.mSessionTaskMap.demands tid) : Boosted Y w' where
  wf := hwf
  minOn := hconf ▸ h.minOn
  plain := hplain
  started := by
    intro s vs v r hvs hr hact
    rcases hstarted s vs v r hvs hr hact with ⟨vs₀, hvs₀, hr₀⟩ | hle
    · exact (h.started s vs₀ v r hvs₀ hr₀ hact).trans hclock
    · exact hle
  fresh := by
    intro tid hd hstale
    obtain ⟨hX, hnil, hdemands⟩ := hthread tid hstale
    have hd' : w.NeverDead tid := by
      intro c hc
      rw [← hcalls] at hc
      exact hd c hc
    refine (h.fresh tid hd' hX).of_same ?_ hclock hnil hdemands
    unfold lastRange
    rw [hcalls]

/-! ### Writing to one session -/

theorem detached (X : List ℤ) : Detached (Boosted X) where
  aside := by
    intro w w' ha h
    have hmap := ha.map
    refine h.step (hmap ▸ h.wf) ha.adpfConfig ha.clock ha.schedCalls (hmap ▸ h.plain) ?_ ?_
    · intro s vs v r hvs hr _
      exact Or.inl ⟨vs, hmap ▸ hvs, hr⟩
    · intro tid hstale
      rw [hmap] at hstale ⊢
      exact ⟨hstale, id, rfl⟩
  events := fun d q r h => ⟨h.wf, h.minOn, h.plain, h.started, h.fresh⟩

theorem calm (X : List ℤ) : Calm (Boosted X) := (detached X).calm

theorem forceSection (h : Boosted [s] w) (b : Bool) : Boosted [s] (w.forceSection s b).2 := by
  have honly := onlyMap_forceSection w s b
  rw [OnlyMap] at honly
  refine h.step (wf_forceSection h.wf s b) (by rw [honly]) (by rw [honly]) (by rw [honly]) ?_ ?_ ?_
  · intro s' v hv
    rw [state?_forceSection h.wf] at hv
    by_cases hs : s' = s
    · rw [if_pos hs] at hv
      obtain ⟨v₀, hv₀, rfl⟩ := Option.map_eq_some_iff.1 hv
      exact h.plain s v₀ hv₀
    · rw [if_neg hs] at hv
      exact h.plain s' v hv
  · intro s' vs v r hvs hr _
    rw [votes?_forceSection] at hvs
    exact Or.inl ⟨vs, hvs, hr⟩
  · intro tid hstale
    rw [getSessionIds_forceSection] at hstale ⊢
    refine ⟨hstale, id, demands_congr (getSessionIds_forceSection w s b tid) fun s' hs' => ?_⟩
    have hne : s' ≠ s := by
      rintro rfl
      exact hstale s' (List.mem_singleton_self s') hs'
    refine demand?_congr ?_ (votes?_forceSection w s b s')
    rw [state?_forceSection h.wf, if_neg hne]

/-- The votes of a session are changed: those that are active then have started, and the session's
threads are stale, unless only its GPU votes changed. -/
theorem writeVotes (h : Boosted X w) (f : Votes → Votes)
    (hX : s ∈ X ∨ ∀ vs, (f vs).mCpuVotes = vs.mCpuVotes)
    (hf : ∀ vs v r, (f vs).timing? v = some r → r.mActive = true →
      vs.timing? v = some r ∨ r.mStartTime ≤ w.clock) : Boosted X (w.writeVotes s f) := by
  have honly := onlyMap_writeVotes w s f
  rw [OnlyMap] at honly
  refine h.step (wf_writeVotes h.wf s f) (by rw [honly]) (by rw [honly]) (by rw [honly]) ?_ ?_ ?_
  · intro s' v hv
    rw [state?_writeVotes] at hv
    exact h.plain s' v hv
  · intro s' vs v r hvs hr hact
    have hclock : (w.writeVotes s f).clock = w.clock := by rw [honly]
    rw [votes?_writeVotes h.wf] at hvs
    rw [hclock]
    by_cases hs : s' = s
    · rw [if_pos hs] at hvs
      obtain ⟨vs₀, hvs₀, rfl⟩ := Option.map_eq_some_iff.1 hvs
      rcases hf vs₀ v r hr hact with hold | hle
      · exact Or.inl ⟨vs₀, hs ▸ hvs₀, hold⟩
      · exact Or.inr hle
    · rw [if_neg hs] at hvs
      exact Or.inl ⟨vs, hvs, hr⟩
  · intro tid hstale
    rw [getSessionIds_writeVotes] at hstale ⊢
    refine ⟨hstale, id, demands_congr (getSessionIds_writeVotes w s f tid) fun s' hs' => ?_⟩
    unfold demand?
    rw [state?_writeVotes, votes?_writeVotes h.wf]
    by_cases hs : s' = s
    · rw [if_pos hs, Option.map_map, hs]
      rcases hX with hmem | hcpu
      · exact absurd (hs ▸ hs') (hstale s hmem)
      · rw [show Votes.mCpuVotes ∘ f = Votes.mCpuVotes from funext hcpu]
    · rw [if_neg hs]

theorem touch {p : ℕ} (h : Boosted X w) (hp : w.mSessionTaskMap.findSession s = some p) (t : ℤ) :
    Boosted X (w.touch p t) := by
  have hr := touch_refreshes h.wf hp t
  refine h.step hr.wf rfl le_rfl rfl ?_ ?_ ?_
  · intro s' v hv
    rw [hr.state?] at hv
    exact h.plain s' v hv
  · intro s' vs v r hvs hr' _
    rw [hr.votes?] at hvs
    exact Or.inl ⟨vs, hvs, hr'⟩
  · intro tid hstale
    rw [getSessionIds_touch] at hstale ⊢
    exact ⟨hstale, id, demands_congr (getSessionIds_touch w p t tid) fun s' _ =>
      demand?_congr (hr.state? s') (hr.votes? s')⟩

/-! ### Refreshing a session -/

theorem taskRange_eq (h : Boosted X w) (tid t : ℤ) :
    w.taskRange tid t = rangeAt (w.mSessionTaskMap.demands tid) t :=
  getTaskVoteRange_eq_rangeAt h.wf.toConsistent h.plain tid t _ _

/-- A sweep over the threads of a session makes them fresh. -/
theorem sweepSession {p : ℕ} (h : Boosted [s] w) (hp : w.mSessionTaskMap.findSession s = some p) :
    Boosted [] (w.sweepSession s w.clock).2 := by
  have hswept := (sweepSession_swept h.wf.toConsistent hp w.clock).1
  have hframe := frame_sweep s w.clock (w.mSessionTaskMap.getTaskIds s) 0 w
  have hclock : (w.sweepSession s w.clock).2.clock = w.clock := by
    unfold World.sweepSession
    rw [hframe]
  have hconf : (w.sweepSession s w.clock).2.adpfConfig = w.adpfConfig := by
    unfold World.sweepSession
    rw [hframe]
  have hr := hswept.refreshes h.wf (by unfold World.sweepSession; rw [hframe])
  refine ⟨hr.wf, hconf ▸ h.minOn, ?_, ?_, ?_⟩
  · intro s' v hv
    rw [hr.state?] at hv
    exact h.plain s' v hv
  · intro s' vs v r hvs hr' hact
    rw [hr.votes?] at hvs
    rw [hclock]
    exact h.started s' vs v r hvs hr' hact
  · intro tid hd _
    have hlinks := hswept.getSessionIds hd
    have hdemands := demands_congr hlinks fun s' _ => demand?_congr (hr.state? s') (hr.votes? s')
    by_cases hmem : tid ∈ w.mSessionTaskMap.getTaskIds s
    · -- the thread was visited
      right
      refine ⟨w.clock, le_of_eq hclock.symm, ?_, ?_⟩
      · rw [hswept.visited tid hmem hd, hdemands, h.taskRange_eq]
      · rw [hdemands]
        exact h.startedBy tid
    · have hfresh := h.fresh tid (hd.of_suffix hswept.calls) fun s' hs' hmem' => by
        rw [List.mem_singleton.1 hs', mem_getSessionIds h.wf.toConsistent] at hmem'
        exact hmem hmem'
      exact hfresh.of_same (hswept.others tid hmem) (le_of_eq hclock.symm)
        (fun hnil => hlinks.trans hnil) hdemands

theorem applyUclampLocked (h : Boosted [s] w) : Boosted [] (w.applyUclampLocked s w.clock) := by
  unfold World.applyUclampLocked
  cases hp : w.mSessionTaskMap.findSession s with
  | none => exact h.absent hp
  | some p =>
      have hfind := (sweepSession_swept h.wf.toConsistent hp w.clock).1.findSession s
      simp only [h.minOn, if_true]
      exact (h.sweepSession hp).touch (hfind.trans hp) w.clock

theorem applyGpuVotesLocked (h : Boosted X w) (s t : ℤ) :
    Boosted X (w.applyGpuVotesLocked s t) := by
  have hset : ∀ ptr c, Boosted X (w.set_gpu_capacity ptr c) := by
    intro ptr c
    cases ptr with
    | null => exact ⟨h.wf, h.minOn, h.plain, h.started, h.fresh⟩
    | node => exact ⟨h.wf, h.minOn, h.plain, h.started, h.fresh⟩
  unfold World.applyGpuVotesLocked
  cases hp : w.mSessionTaskMap.findSession s with
  | none => exact h
  | some p =>
      cases w.env.mGpuCapacityNode with
      | none => exact h.touch hp t
      | some ptr =>
          cases w.adpfConfig.mGpuBoostOn with
          | none => exact h.touch hp t
          | some b =>
              refine (hset ptr _).touch (s := s) ?_ t
              rw [mSessionTaskMap_set_gpu_capacity]
              exact hp

/-- **A refresh of a session makes its threads fresh.** -/
theorem apply (h : Boosted [s] w) : Boosted [] (w.applyVotes s w.clock) :=
  h.applyUclampLocked.applyGpuVotesLocked s w.clock

/-! ### Votes -/

/-- A vote that starts now. -/
theorem timing?_add {e : Timeout} (he : e.timeStamp = w.clock) (d : ℤ) (b : Ballot) (vs : Votes)
    (v : ℤ) (r : VoteRange) (hr : (b.add e d vs).timing? v = some r) :
    vs.timing? v = some r ∨ r.mStartTime ≤ w.clock := by
  rw [Ballot.timing?_add] at hr
  split at hr
  · right
    rw [← Option.some.inj hr]
    exact le_of_eq he
  · exact Or.inl hr

/-- Setting a CPU vote refreshes the session, whatever was left to be refreshed about it. -/
theorem voteCpu (h : Boosted [s] w) {e : Timeout} (hs : e.sessionId = s)
    (he : e.timeStamp = w.clock) (d lo hi : ℤ) :
    Boosted [] (w.voteSection e d (.cpu lo hi)).2 := by
  rcases voteSection_cases w e d (.cpu lo hi) with ⟨hp, heq⟩ | ⟨p, decided, hp, heq⟩
  · rw [heq]
    exact h.absent (hs ▸ hp)
  · have hwrite : Boosted [s] (w.writeVotes e.sessionId (Ballot.add e d (.cpu lo hi))) :=
      h.writeVotes _ (Or.inl (by simp [hs])) fun vs v r hr _ => timing?_add he d _ vs v r hr
    have htouch := hwrite.touch ((findSession_writeVotes w _ _ _).trans hp) e.timeStamp
    have hclock : ((w.writeVotes e.sessionId (Ballot.add e d (.cpu lo hi))).touch p
        e.timeStamp).clock = e.timeStamp := by
      rw [World.touch, modifyMap, onlyMap_writeVotes, he]
    have hvoted : Boosted [] (w.voted e d (.cpu lo hi) p) := by
      have happly := htouch.applyUclampLocked
      rw [hclock, ← hs] at happly
      exact happly
    rw [heq]
    exact (calm []).events _ _ _ hvoted

theorem voteGpu (h : Boosted [] w) {e : Timeout} (he : e.timeStamp = w.clock) (d c : ℤ) :
    Boosted [] (w.voteSection e d (.gpu c)).2 := by
  rcases voteSection_cases w e d (.gpu c) with ⟨-, heq⟩ | ⟨p, decided, hp, heq⟩
  · rw [heq]
    exact h
  · have hwrite : Boosted [] (w.writeVotes e.sessionId (Ballot.add e d (.gpu c))) :=
      h.writeVotes _ (Or.inr fun vs => Votes.mCpuVotes_addGpu vs _ _) fun vs v r hr _ =>
        timing?_add he d _ vs v r hr
    have htouch := hwrite.touch ((findSession_writeVotes w _ _ _).trans hp) e.timeStamp
    have hvoted : Boosted [] (w.voted e d (.gpu c) p) := htouch.applyGpuVotesLocked _ _
    rw [heq]
    exact (calm []).events _ _ _ hvoted

theorem stable : Stable (Boosted []) where
  toCalm := calm []
  vote := by
    intro s v d b w h
    cases b with
    | cpu lo hi => exact (h.mono (List.nil_subset [s])).voteCpu rfl rfl d lo hi
    | gpu c => exact h.voteGpu rfl d c

theorem disableSection (h : Boosted [] w) (s : ℤ) : Boosted [s] (w.disableSection s) := by
  rw [disableSection_eq]
  refine (h.mono (List.nil_subset [s])).writeVotes _ (Or.inl (List.mem_singleton_self s)) ?_
  intro vs v r hr hact
  rw [Votes.timing?_turnOff] at hr
  split at hr
  · obtain ⟨r₀, -, rfl⟩ := Option.map_eq_some_iff.1 hr
    cases hact
  · exact Or.inl hr

theorem expireSection (h : Boosted [] w) (e : Timeout) :
    Boosted [e.sessionId] (w.expireSection e w.clock).2 := by
  have h' := h.mono (List.nil_subset [e.sessionId])
  rcases expireSection_world w e w.clock with ⟨decided, heq⟩ | heq
  · rw [heq]
    exact (calm _).events decided w.queue _ h'
  · rw [heq]
    have hev : Boosted [e.sessionId] { w with running := w.running.erase e } :=
      (calm _).events w.decided w.queue _ h'
    refine hev.writeVotes _ (Or.inl (List.mem_singleton_self _)) fun vs v r hr hact => ?_
    rw [timing?_setUseVote] at hr
    split at hr
    · obtain ⟨r₀, -, rfl⟩ := Option.map_eq_some_iff.1 hr
      cases hact
    · exact Or.inl hr

/-! ### Sessions and threads -/

theorem addSection (h : Boosted [] w) (desc : AppHintDesc) (t : ℤ) :
    Boosted [] (w.addSection desc t) := by
  have hlinks : ∀ tid, (w.addSection desc t).mSessionTaskMap.getSessionIds tid =
      w.mSessionTaskMap.getSessionIds tid := fun tid => getSessionIds_addNew h.wf _ _ _ tid
  refine h.step (wf_addSection h.wf desc t) rfl le_rfl rfl ?_ ?_ ?_
  · intro s v hv
    rw [state?_addSection h.wf] at hv
    split at hv
    · rw [← Option.some.inj hv]
      rfl
    · exact h.plain s v hv
  · intro s vs v r hvs hr hact
    rw [votes?_addSection h.wf] at hvs
    split at hvs
    · obtain rfl := Option.some.inj hvs
      rw [newVotes_inactive hr] at hact
      cases hact
    · exact Or.inl ⟨vs, hvs, hr⟩
  · intro tid hstale
    refine ⟨by simp, fun hnil => (hlinks tid).trans hnil, demands_congr (hlinks tid) fun s hs => ?_⟩
    have hne : ¬ (s = desc.sessionId ∧ w.mSessionTaskMap.findSession s = none) :=
      fun hand => findSession_ne_none_of_mem_getSessionIds h.wf.toConsistent hs hand.2
    refine demand?_congr ?_ ?_
    · rw [state?_addSection h.wf, if_neg hne]
    · rw [votes?_addSection h.wf, if_neg hne]

end Boosted

/-- The flag of a session, if the session is there, is off. -/
def Off (s : ℤ) (w : World) : Prop := ∀ v, w.mSessionTaskMap.state? s = some v → v.isActive = false

theorem off_forceSection (hw : Wf w.mSessionTaskMap) (s : ℤ) : Off s (w.forceSection s false).2 := by
  intro v hv
  rw [state?_forceSection hw, if_pos rfl] at hv
  obtain ⟨v₀, -, rfl⟩ := Option.map_eq_some_iff.1 hv
  rfl

theorem Off.demand? (h : Off s w) : w.mSessionTaskMap.demand? s = none := by
  unfold SessionTaskMap.demand?
  cases hv : w.mSessionTaskMap.state? s with
  | none => rfl
  | some v => simp [h v hv]

namespace Boosted

/-- A session that is switched off gets other threads: the threads it had need no refresh. -/
theorem replaceSection (h : Boosted [] w) (hoff : Off s w) (tids : List ℤ) :
    Boosted [s] (w.replaceSection s tids).2 := by
  cases hp : w.mSessionTaskMap.findSession s with
  | none =>
      have hsame : (w.replaceSection s tids).2 = w := by
        simp only [World.replaceSection, Wf.replace_absent hp]
      rw [hsame]
      exact h.mono (List.nil_subset [s])
  | some p =>
      refine h.step (wf_replaceSection h.wf s tids) rfl le_rfl rfl ?_ ?_ ?_
      · intro s' v hv
        have hstate := h.wf.state?_replace s tids [] [] s'
        exact h.plain s' v (hstate ▸ hv)
      · intro s' vs v r hvs hr _
        have hvotes := h.wf.votes?_replace s tids [] [] s'
        exact Or.inl ⟨vs, hvotes ▸ hvs, hr⟩
      · intro tid hstale
        have hlinks : (w.replaceSection s tids).2.mSessionTaskMap.getSessionIds tid =
            (w.mSessionTaskMap.getSessionIds tid).filter (fun s' => decide (s' ≠ s)) ++
              List.replicate (tids.count tid) s := by
          obtain ⟨e, he, -⟩ := findSession_eq_some hp
          exact getSessionIds_replace h.wf.toConsistent he tids [] [] tid
        have hnot := hstale s (List.mem_singleton_self s)
        -- the thread is not among the new ones
        have hcount : tids.count tid = 0 := by
          by_contra hne
          refine hnot ?_
          rw [hlinks]
          exact List.mem_append_right _ (List.mem_replicate.2 ⟨hne, rfl⟩)
        rw [hcount, List.replicate_zero, List.append_nil] at hlinks
        refine ⟨by simp, fun hnil => by rw [hlinks, hnil]; rfl, ?_⟩
        unfold demands
        rw [hlinks, List.filterMap_filter]
        refine List.filterMap_congr fun s' _ => ?_
        have hdemand : (w.replaceSection s tids).2.mSessionTaskMap.demand? s' =
            w.mSessionTaskMap.demand? s' :=
          demand?_congr (h.wf.state?_replace s tids [] [] s') (h.wf.votes?_replace s tids [] [] s')
        by_cases hs : s' = s
        · rw [hs, hoff.demand?]
          simp
        · simp [hs, hdemand]

theorem removeSection (h : Boosted [] w) (hoff : Off s w) : Boosted [] (w.removeSection s).2 := by
  have hrep := h.replaceSection hoff []
  have hnil : (w.replaceSection s []).2.mSessionTaskMap.getTaskIds s = [] := by
    cases hp : w.mSessionTaskMap.findSession s with
    | none =>
        have hsame : (w.replaceSection s []).2.mSessionTaskMap = w.mSessionTaskMap :=
          Wf.replace_absent hp [] [] []
        rw [hsame, getTaskIds, findSession_eq_none.1 hp]
        rfl
    | some p =>
        refine (Wf.getTaskIds_replace hp [] [] [] s).trans ?_
        rw [if_pos rfl]
  have hlinks : ∀ tid, (w.removeSection s).2.mSessionTaskMap.getSessionIds tid =
      (w.replaceSection s []).2.mSessionTaskMap.getSessionIds tid :=
    fun tid => getSessionIds_remove_of_nil hnil tid
  have hnot : ∀ tid, s ∉ (w.replaceSection s []).2.mSessionTaskMap.getSessionIds tid := by
    intro tid hmem
    rw [mem_getSessionIds hrep.wf.toConsistent, hnil] at hmem
    cases hmem
  refine hrep.step (wf_removeSection h.wf s) rfl le_rfl rfl ?_ ?_ ?_
  · intro s' v hv
    rw [state?_removeSection h.wf] at hv
    split at hv
    · cases hv
    · exact h.plain s' v hv
  · intro s' vs v r hvs hr _
    rw [votes?_removeSection h.wf] at hvs
    split at hvs
    · cases hvs
    · have hvotes := h.wf.votes?_replace s [] [] [] s'
      exact Or.inl ⟨vs, hvotes.trans hvs, hr⟩
  · intro tid _
    refine ⟨?_, fun hnil' => (hlinks tid).trans hnil', demands_congr (hlinks tid) fun s' hs' => ?_⟩
    · intro s' hs'
      rw [List.mem_singleton.1 hs']
      exact hnot tid
    · have hne : s' ≠ s := by
        rintro rfl
        exact hnot tid hs'
      refine demand?_congr ?_ ?_
      · rw [state?_removeSection h.wf, if_neg hne]
        exact (h.wf.state?_replace s [] [] [] s').symm
      · rw [votes?_removeSection h.wf, if_neg hne]
        exact (h.wf.votes?_replace s [] [] [] s').symm

end Boosted

end World

/-! ### Whole operations -/

section Operations

open World Prog PowerSessionManager

variable {s : ℤ}

/-- Clamps are fresh up to the list, and a session is off. -/
def BoostedOff (X : List ℤ) (s : ℤ) (w : World) : Prop := Boosted X w ∧ Off s w

theorem BoostedOff.calm (X : List ℤ) (s : ℤ) : Calm (BoostedOff X s) where
  quiet := by
    rintro w w' hq ⟨h, hoff⟩
    refine ⟨(Boosted.calm X).quiet hq h, fun v hv => ?_⟩
    rw [hq.map] at hv
    exact hoff v hv
  events := fun d q r h => ⟨(Boosted.calm X).events d q r h.1, h.2⟩

theorem BoostedOff.apply {w : World} (h : BoostedOff [s] s w) :
    BoostedOff [] s (w.applyVotes s w.clock) := by
  refine ⟨h.1.apply, fun v hv => ?_⟩
  rw [(applyVotes_refreshes h.1.wf s w.clock).state?] at hv
  exact h.2 v hv

/-- Switching a session off leaves it off, and its threads fresh. -/
theorem switchOff_boosted (s : ℤ) :
    Triple (Boosted []) (forceSessionActive s false) fun _ => BoostedOff [] s := by
  refine forceSessionActive_triple (BoostedOff.calm [s] s) (BoostedOff.calm [] s) s false ?_ ?_
    fun _ h => h.apply
  · intro w h
    exact ⟨(h.mono (List.nil_subset [s])).forceSection false, off_forceSection h.wf s⟩
  · intro w h hp
    refine ⟨h, fun v hv => ?_⟩
    rw [state?_eq_none.2 hp] at hv
    cases hv

theorem switchOn_boosted (s : ℤ) :
    Triple (Boosted [s]) (forceSessionActive s true) fun _ => Boosted [] :=
  forceSessionActive_triple (Boosted.calm [s]) (Boosted.calm []) s true
    (fun _ h => h.forceSection true) (fun _ h hp => h.absent hp) fun _ h => h.apply

theorem setThreadsFromPowerSession_boosted (s : ℤ) (tids : List ℤ) :
    Triple (Boosted []) (setThreadsFromPowerSession s tids) fun _ => Boosted [] :=
  setThreadsFromPowerSession_triple (Boosted.detached [s]).unprofiled s tids (switchOff_boosted s)
    (fun _ h => h.1.replaceSection h.2 tids) (switchOn_boosted s)

theorem removePowerSession_boosted (s : ℤ) :
    Triple (Boosted []) (removePowerSession s) fun _ => Boosted [] :=
  removePowerSession_triple (Boosted.calm []) (Boosted.detached []).unprofiled s
    (switchOff_boosted s) fun _ h => h.1.removeSection h.2

theorem addPowerSession_boosted (desc : AppHintDesc) (tids : List ℤ) :
    Triple (Boosted []) (addPowerSession (some desc) tids) fun _ => Boosted [] :=
  addPowerSession_triple (Boosted.calm []) desc tids (fun w h => h.addSection desc w.clock)
    (setThreadsFromPowerSession_boosted desc.sessionId tids)

theorem switchSession_boosted (s : ℤ) (b : Bool) :
    Triple (Boosted []) (do
      let changed ← Prog.critical Lock.mSessionTaskMapMutex (Prog.atomic (switchSection s b))
      Prog.when changed (refresh s)) fun _ => Boosted [] :=
  switchSession_triple (Boosted.calm [s]) (Boosted.calm []) s b
    (fun _ h => (h.mono (List.nil_subset [s])).forceSection b) fun _ h => h.apply

theorem handleEvent_boosted (e : Timeout) :
    Triple (Boosted []) (handleEvent e) fun _ => Boosted [] :=
  handleEvent_triple (Boosted.calm []) e (fun _ h _ => h.expireSection e) fun _ h => h.apply

/-- The boosts that a report disables are made good by the vote it ends with. -/
theorem reportVotes_boosted (s : ℤ) (c : AdpfConfig) (ds : List WorkDuration) (back : WorkDuration) :
    Triple (Boosted [s]) (PowerHintSession.reportVotes s c ds back) fun _ => Boosted [] := by
  have hvote : ∀ lo hi w, Boosted [s] w → Boosted [] (w.voteSection (timeoutOf s .CPU_VOTE_DEFAULT
      w.clock (w.controlDuration s)) (w.controlDuration s) (.cpu lo hi)).2 :=
    fun lo hi _ h => h.voteCpu rfl rfl _ lo hi
  unfold PowerHintSession.reportVotes
  by_cases hpid : c.mPidOn = true
  · rw [if_pos hpid]
    have hrecord := Triple.when (c := c.heuristicBoostOn)
      (fun _ => (Boosted.detached [s]).recordDurations s ds) fun _ _ hw => hw
    exact Triple.bind (reportCpu_triple (Boosted.calm [s]) (Boosted.calm []) s c ds hrecord hvote)
      fun _ => (Boosted.stable.on s).reportGpu
        (fun w => (Boosted.detached []).aside (.readGpuFrequency w)) c back
  · rw [if_neg hpid]
    exact updatePidControlVariable_triple (Boosted.calm [s]) (Boosted.calm []) s _ hvote

end Operations

/-- The operations that the clamps are followed through: sessions are created, closed, paused and
resumed, get threads, report and send hints, and the worker handles timeout events. -/
def Op.Boosts : Op → Prop
  | .create _ _ _ _ => True
  | .session _ .close => True
  | .session _ .pause => True
  | .session _ .resume => True
  | .session _ (.setThreads _) => True
  | .session _ (.reportActualWorkDuration _) => True
  | .session _ (.sendHint hint) => hint ≠ .POWER_EFFICIENCY
  | .worker _ => True
  | _ => False

open World Prog in
/-- **Every such operation leaves all threads fresh.** -/
theorem Op.boosted (op : Op) (hop : op.Boosts) :
    Triple (Boosted []) op.prog fun _ => Boosted [] := by
  have hskip : ∀ {α : Type} (_ : α), Triple (Boosted []) (Prog.ret () : P Unit) fun _ => Boosted [] :=
    fun _ => Triple.ret fun _ hw => hw
  have hcalm := Boosted.calm []
  have hstable := Boosted.stable
  have hflag : ∀ s f w, Boosted [] w → Boosted [] (w.modifySession s f) :=
    fun s f w h => (Boosted.detached []).aside (.modifySession w s f) h
  have hset : ∀ s tids active, Triple (fun w => Boosted [] w ∧ w.Stands s false active)
      (PowerSessionManager.setThreadsFromPowerSession s tids) fun _ => Boosted [] :=
    fun s tids _ => (setThreadsFromPowerSession_boosted s tids).imp (fun _ h => h.1) fun _ _ h => h
  cases op with
  | create tgid uid tids d =>
      refine Triple.bind (create_triple (fun _ => hcalm) hstable tgid uid tids d ?_ ?_) hskip
      · exact fun w h => (Boosted.detached []).aside (.newSession w tgid uid tids d) h
      · exact fun sid self => (addPowerSession_boosted self.mDescriptor tids).imp (fun _ h => h.1)
          fun _ _ h => h
  | session s op =>
      refine Triple.bind ?_ hskip
      cases op with
      | close =>
          exact close_triple s (fun _ hw _ => hw) (hflag s _) (removePowerSession_boosted s) (hflag s _)
      | pause =>
          exact pause_triple s (fun _ hw _ => hw) (hset s [] true) (hflag s _)
            (switchSession_boosted s false)
      | resume =>
          exact resume_triple s (fun _ hw _ => hw) (fun tids => hset s tids false) (hflag s _)
            (switchSession_boosted s true)
      | setThreads tids =>
          exact setThreads_triple hcalm hstable s tids (fun _ h _ => h) fun _ => hset s tids
      | reportActualWorkDuration ds =>
          exact hcalm.reportActualWorkDuration s ds (fun _ h => h.disableSection s) fun c back =>
            reportVotes_boosted s c ds back
      | sendHint hint => exact (hstable.on s).sendHint hop
      | destroy => exact hop.elim
      | updateTargetWorkDuration d => exact hop.elim
      | setMode mode b => exact hop.elim
      | getSessionConfig => exact hop.elim
  | dumpToStream s => exact hop.elim
  | manager op => exact hop.elim
  | worker i => exact workerRound_triple hcalm i handleEvent_boosted

/-! ### Whole runs -/

open World in
/-- What was asked of the system about clamps only grows. -/
theorem Action.schedCalls_suffix {A : Special → Prop} {w w' : World} (h : Action A w w')
    (hw : Wf w.mSessionTaskMap) : w.schedCalls <:+ w'.schedCalls := by
  cases h with
  | quiet hq =>
      rw [hq.schedCalls]
  | apart _ ha =>
      rw [ha.aside.schedCalls]
  | add desc t _ _ => exact List.suffix_rfl
  | force s b _ _ =>
      rw [onlyMap_forceSection w s b]
  | switch s b _ _ =>
      rw [onlyMap_switchSection w s b]
  | apply s t => exact (applyVotes_refreshes hw s t).calls
  | replace s tids _ _ => exact List.suffix_rfl
  | remove s _ _ => exact List.suffix_rfl
  | vote e d b _ _ =>
      rcases voteSection_cases w e d b with ⟨-, heq⟩ | ⟨p, decided, hp, heq⟩
      · rw [heq]
      · have hcalls := (voted_refreshes hw hp d b).calls
        rw [onlyMap_writeVotes] at hcalls
        rw [heq]
        exact hcalls
  | disable s =>
      rw [disableSection_eq, onlyMap_writeVotes]
  | expire e t =>
      rcases expireSection_world w e t with ⟨decided, heq⟩ | heq
      · rw [heq]
      · rw [heq, onlyMap_writeVotes]
  | enqueue e => exact List.suffix_rfl
  | pop i =>
      obtain ⟨queue, running, heq⟩ := World.pop_eq i w
      rw [heq]
  | duration s v d _ _ =>
      rw [durationSection_eq, onlyMap_writeVotes]
  | efficiency s b _ _ =>
      rw [onlyMap_efficiencySection w s b]
  | uclamp s t _ _ => exact (applyUclampLocked_refreshes hw s t).calls
  | profile mode b _ _ =>
      obtain ⟨rate, heq⟩ := hintMode_eq mode b w
      rw [heq]

/-- An operation that changes no vote's duration keeps what is sound, and the calls only grow. -/
theorem Op.post_sound (op : Op) (hop : ¬ op.uses .duration) {w : World} (hs : w.Sound) :
    (op.prog.post w).Sound ∧ w.schedCalls <:+ (op.prog.post w).schedCalls := by
  -- along every action of the operation, from a sound state on
  let G : World → World → Prop := fun w w' => w.Sound → w'.Sound ∧ w.schedCalls <:+ w'.schedCalls
  have hwithin : op.prog.Within G := (op.within fun _ hk => hk).mono fun w w' ha hs =>
    ⟨(ha.keeps hop).2 hs, ha.schedCalls_suffix hs.1⟩
  refine hwithin.post (fun w hs => ⟨hs, List.suffix_rfl⟩) ?_ w hs
  intro w₁ w₂ w₃ h₁₂ h₂₃ hs₁
  obtain ⟨hs₂, hcalls⟩ := h₁₂ hs₁
  obtain ⟨hs₃, hcalls'⟩ := h₂₃ hs₂
  exact ⟨hs₃, hcalls.trans hcalls'⟩

theorem Op.Boosts.not_duration {op : Op} (h : op.Boosts) : ¬ op.uses .duration := by
  cases op with
  | create tgid uid tids d => exact id
  | session s op =>
      cases op with
      | updateTargetWorkDuration d => exact h.elim
      | sendHint hint => cases hint <;> exact id
      | _ => exact id
  | dumpToStream s => exact id
  | manager op => exact h.elim
  | worker i => exact id

open World in
/-- A run of these operations keeps all threads fresh and all votes covered. -/
theorem Runs.boosted {w₁ w : World} (h : Runs (fun _ op => op.Boosts) w₁ w) (hs : w₁.Sound)
    (hb : Boosted [] w₁) : w.Sound ∧ Boosted [] w ∧ w₁.schedCalls <:+ w.schedCalls := by
  induction h with
  | init => exact ⟨hs, hb, List.suffix_rfl⟩
  | step op _ hop _ ih =>
      obtain ⟨hs', hb', hcalls⟩ := ih
      obtain ⟨hs'', hcalls'⟩ := op.post_sound hop.not_duration hs'
      exact ⟨hs'', op.boosted hop _ hb', hcalls.trans hcalls'⟩

namespace World

variable {w : World} {tid : ℤ}

theorem Boosted.init {adpfConfig : AdpfConfig} (hon : adpfConfig.mUclampMinOn = true) (env : Env) :
    Boosted [] (World.init env adpfConfig) where
  wf := Wf.empty
  minOn := hon
  plain := fun s v hv => by
    rw [state?_eq_none.2 rfl] at hv
    cases hv
  started := fun s vs v r hvs _ _ => by
    rw [votes?_eq_none.2 rfl] at hvs
    cases hvs
  fresh := fun tid _ _ => Or.inl ⟨rfl, rfl⟩

/-- A thread that is linked has a range. -/
theorem Boosted.lastRange_ne_none (h : Boosted [] w) (halive : w.NeverDead tid)
    (hlink : w.mSessionTaskMap.getSessionIds tid ≠ []) : w.lastRange tid ≠ none := by
  rcases h.fresh tid halive (by simp) with ⟨-, hnil⟩ | ⟨t, -, hrange, -⟩
  · exact absurd hnil hlink
  · rw [hrange]
    exact Option.some_ne_none _

/-- Once a thread has a range it has one. -/
theorem lastRange_ne_none_of_suffix {w w' : World} (h : w.schedCalls <:+ w'.schedCalls)
    (hne : w.lastRange tid ≠ none) : w'.lastRange tid ≠ none := by
  unfold lastRange at hne ⊢
  rw [Ne, Option.map_eq_none_iff, List.find?_eq_none] at hne ⊢
  exact fun hall => hne fun c hc => hall c (h.subset hc)

/-- While no event is due, a fresh thread has the range its sessions ask for. -/
theorem Boosted.lastRange_eq (h : Boosted [] w) (hc : w.Covered) {t : ℤ} (ht : w.clock ≤ t)
    (hdue : ∀ e ∈ w.pending, t < e.deadline) (halive : w.NeverDead tid)
    (hne : w.lastRange tid ≠ none) : w.lastRange tid = some (clampRange (w.taskRange tid t)) := by
  rcases h.fresh tid halive (by simp) with ⟨hnone, -⟩ | ⟨t₀, ht₀, hrange, hstart⟩
  · exact absurd hnone hne
  · rw [hrange, h.taskRange_eq]
    -- no active vote starts or ends between the last refresh and now
    rw [rangeAt_congr (ht₀.trans ht) hstart]
    intro votes hmem id v hl hact
    obtain ⟨s, -, hd⟩ := List.mem_filterMap.1 hmem
    unfold demand? at hd
    split at hd
    · obtain ⟨vs, hvs, rfl⟩ := Option.map_eq_some_iff.1 hd
      obtain ⟨e, he, -, -, hend⟩ := hc s vs id v.toVoteRange hvs (Votes.timing?_of_cpu hl) hact
      have := hdue e he
      omega
    · cases hd

end World

theorem getSessionIds_ne_nil {m : SessionTaskMap} (hm : Consistent m) {tid : ℤ} :
    m.getSessionIds tid ≠ [] ↔ ∃ s, tid ∈ m.getTaskIds s := by
  constructor
  · intro hne
    obtain ⟨s, hs⟩ := List.exists_mem_of_ne_nil _ hne
    exact ⟨s, (mem_getSessionIds hm).1 hs⟩
  · rintro ⟨s, hs⟩
    exact List.ne_nil_of_mem ((mem_getSessionIds hm).2 hs)

/-- **The clamps follow the votes.**  In every state that a run of the operations leads to, and at
every time at which no timeout event is due, a living thread that is linked to a session was last
given the range that its votes ask for at that time, and a living thread that was linked and is so no
longer was last given the full range. -/
theorem cpu_boost_consistent {env : Env} {adpfConfig : AdpfConfig}
    (hon : adpfConfig.mUclampMinOn = true) {w₁ w : World}
    (h₁ : Runs (fun _ op => op.Boosts) (World.init env adpfConfig) w₁)
    (h : Runs (fun _ op => op.Boosts) w₁ w) {t : ℤ} (ht : w.clock ≤ t)
    (hdue : ∀ e ∈ w.pending, t < e.deadline) {tid : ℤ} (halive : w.NeverDead tid) :
    ((∃ s, tid ∈ w.mSessionTaskMap.getTaskIds s) →
      w.lastRange tid = some (clampRange (w.taskRange tid t))) ∧
    ((∃ s, tid ∈ w₁.mSessionTaskMap.getTaskIds s) →
      (∀ s, tid ∉ w.mSessionTaskMap.getTaskIds s) → w.lastRange tid = some ⟨0, 1024⟩) := by
  obtain ⟨hs₁, hb₁, -⟩ := h₁.boosted (World.Sound.init env adpfConfig) (World.Boosted.init hon env)
  obtain ⟨hs, hb, hcalls⟩ := h.boosted hs₁ hb₁
  constructor
  · intro hlinked
    have hne := hb.lastRange_ne_none halive ((getSessionIds_ne_nil hs.1.toConsistent).2 hlinked)
    exact hb.lastRange_eq hs.2 ht hdue halive hne
  · intro hwas hnot
    have hne₁ := hb₁.lastRange_ne_none (halive.of_suffix hcalls)
      ((getSessionIds_ne_nil hs₁.1.toConsistent).2 hwas)
    have hne := World.lastRange_ne_none_of_suffix hcalls hne₁
    have hnil : w.mSessionTaskMap.getSessionIds tid = [] := by
      by_contra hlinks
      obtain ⟨s, hmem⟩ := (getSessionIds_ne_nil hs.1.toConsistent).1 hlinks
      exact hnot s hmem
    rw [hb.lastRange_eq hs.2 ht hdue halive hne, hb.taskRange_eq, demands, hnil]
    rfl

/-- Time passes, one millisecond before every reading of the clock. -/
def msEnv : Env where
  delay := fun _ => 1000000

/-- A session is created for two threads. -/
def twoThreads : World :=
  (Op.create 100 10000 [7, 8] 16000000).prog.post (World.init msEnv makeMockConfig)

/-- The session keeps only one of them. -/
def oneThread : World := (Op.session 1 (.setThreads [8])).prog.post twoThreads

theorem cpu_boost_consistent_setThreads :
    oneThread.lastRange 8 = some ⟨480, 1024⟩ ∧ oneThread.lastRange 7 = some ⟨0, 1024⟩ := by
  have h₁ : Runs (fun _ op => op.Boosts) (World.init msEnv makeMockConfig) twoThreads :=
    Runs.init.step _ trivial (by decide +kernel)
  have h : Runs (fun _ op => op.Boosts) twoThreads oneThread :=
    Runs.init.step _ trivial (by decide +kernel)
  have hdue : ∀ e ∈ oneThread.pending, oneThread.clock < e.deadline := by decide +kernel
  have halive : ∀ tid, oneThread.NeverDead tid := by
    intro tid c hc _
    have herr : ∀ c ∈ oneThread.schedCalls, c.err ≠ ESRCH := by decide +kernel
    exact herr c hc
  have hlinked : 8 ∈ oneThread.mSessionTaskMap.getTaskIds 1 := by decide +kernel
  have hwas : 7 ∈ twoThreads.mSessionTaskMap.getTaskIds 1 := by decide +kernel
  have hnot : ∀ s, 7 ∉ oneThread.mSessionTaskMap.getTaskIds s := by
    have hon : makeMockConfig.mUclampMinOn = true := rfl
    obtain ⟨hs₁, hb₁, -⟩ := h₁.boosted (World.Sound.init _ _) (World.Boosted.init hon _)
    have hlinks : oneThread.mSessionTaskMap.getSessionIds 7 = [] := by decide +kernel
    intro s
    rw [← mem_getSessionIds (h.boosted hs₁ hb₁).1.1.toConsistent, hlinks]
    exact List.not_mem_nil
  have h8 := cpu_boost_consistent (by decide) h₁ h le_rfl hdue (halive 8)
  have h7 := cpu_boost_consistent (by decide) h₁ h le_rfl hdue (halive 7)
  refine ⟨(h8.1 ⟨1, hlinked⟩).trans ?_, h7.2 ⟨1, hwas⟩ hnot⟩
  decide +kernel

end Adpf
