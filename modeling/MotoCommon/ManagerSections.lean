/-
**What the critical sections of the manager do.**

Each section of `MotoCommon/PowerSessionManager.lean` is described here once, by what it does to the
sessions' values and votes and to the pending timeout events; the proofs about whole operations use
these descriptions and do not look into the sections again.

Main definitions:

* `Adpf.World.Frame` — what hardly any step changes;
* `Adpf.World.Refreshes` — a step that refreshes clamps and capacities and leaves the sessions as
  they are, apart from the dead threads it takes out.

Main results:

* `Adpf.World.applyUclampLocked_refreshes`, `Adpf.World.applyVotes_refreshes` — the refreshing
  sections;
* `Adpf.World.voteSection_cases`, `Adpf.World.expireSection_world` — what the sections that set a vote
  and end one can do;
* `Adpf.World.wf_forceSection`, `Adpf.World.votes?_forceSection` and their like — the others.
-/

import Mathlib.Data.List.Infix
import MotoCommon.DeadThreads

set_option autoImplicit false

namespace Adpf

open SessionTaskMap

namespace World

variable {w w' w'' : World}

/-! ### Refreshing -/

/-- The environment and the profile are the same, and time has not gone back. -/
structure Frame (w w' : World) : Prop where
  env : w'.env = w.env
  adpfConfig : w'.adpfConfig = w.adpfConfig
  clock : w.clock ≤ w'.clock

/-- Only the map, and what was asked of the system about clamps and capacities, changed. -/
def OnlyOutputs (w w' : World) : Prop :=
  w' = { w with
    schedCalls := w'.schedCalls
    gpuWrites := w'.gpuWrites
    faults := w'.faults
    mSessionTaskMap := w'.mSessionTaskMap }

namespace OnlyOutputs

theorem trans (h : OnlyOutputs w w') (h' : OnlyOutputs w' w'') : OnlyOutputs w w'' := by
  unfold OnlyOutputs at h h' ⊢
  rw [h', h]

theorem pending (h : OnlyOutputs w w') : w'.pending = w.pending := by
  rw [OnlyOutputs] at h
  rw [h]
  rfl

theorem frame (h : OnlyOutputs w w') : Frame w w' := by
  rw [OnlyOutputs] at h
  rw [h]
  exact ⟨rfl, rfl, le_rfl⟩

end OnlyOutputs

theorem onlyOutputs_applyUclampLocked (w : World) (s t : ℤ) :
    OnlyOutputs w (w.applyUclampLocked s t) := by
  unfold applyUclampLocked
  cases w.mSessionTaskMap.findSession s with
  | none => rfl
  | some p =>
      by_cases hon : w.adpfConfig.mUclampMinOn = true
      · simp only [if_pos hon]
        unfold sweepSession OnlyOutputs touch modifyMap
        rw [frame_sweep]
      · simp only [if_neg hon]
        rfl

theorem onlyOutputs_applyGpuVotesLocked (w : World) (s t : ℤ) :
    OnlyOutputs w (w.applyGpuVotesLocked s t) := by
  unfold applyGpuVotesLocked
  cases w.mSessionTaskMap.findSession s with
  | none => rfl
  | some p =>
      cases w.env.mGpuCapacityNode with
      | none => rfl
      | some ptr =>
          cases w.adpfConfig.mGpuBoostOn with
          | none => rfl
          | some b => cases ptr <;> rfl

theorem onlyOutputs_applyVotes (w : World) (s t : ℤ) : OnlyOutputs w (w.applyVotes s t) :=
  (onlyOutputs_applyUclampLocked w s t).trans (onlyOutputs_applyGpuVotesLocked _ s t)

/-- Nothing went wrong, or the pointer to the GPU's node was used where it is null. -/
def FaultsAtNode (w w' : World) : Prop :=
  w'.faults = w.faults ∨
    w.env.mGpuCapacityNode = some .null ∧ w'.faults = .gpuCapacityNode :: w.faults

theorem applyUclampLocked_outputs (w : World) (s t : ℤ) :
    (w.applyUclampLocked s t).faults = w.faults ∧
      (w.applyUclampLocked s t).gpuWrites = w.gpuWrites := by
  unfold applyUclampLocked
  cases w.mSessionTaskMap.findSession s with
  | none => exact ⟨rfl, rfl⟩
  | some p =>
      by_cases hon : w.adpfConfig.mUclampMinOn = true
      · simp only [if_pos hon]
        unfold sweepSession touch modifyMap
        rw [frame_sweep]
        exact ⟨rfl, rfl⟩
      · simp only [if_neg hon]
        exact ⟨rfl, rfl⟩

theorem applyGpuVotesLocked_faults (w : World) (s t : ℤ) :
    FaultsAtNode w (w.applyGpuVotesLocked s t) := by
  unfold applyGpuVotesLocked
  cases w.mSessionTaskMap.findSession s with
  | none => exact Or.inl rfl
  | some p =>
      cases hnode : w.env.mGpuCapacityNode with
      | none => exact Or.inl rfl
      | some ptr =>
          cases w.adpfConfig.mGpuBoostOn with
          | none => exact Or.inl rfl
          | some b =>
              cases ptr with
              | null => exact Or.inr ⟨hnode, rfl⟩
              | node => exact Or.inl rfl

theorem applyVotes_faults (w : World) (s t : ℤ) : FaultsAtNode w (w.applyVotes s t) := by
  have hnode := applyGpuVotesLocked_faults (w.applyUclampLocked s t) s t
  have hsame := (applyUclampLocked_outputs w s t).1
  have henv := (onlyOutputs_applyUclampLocked w s t).frame.env
  unfold FaultsAtNode at hnode ⊢
  rwa [hsame, henv] at hnode

/-- From `w` to `w'` only clamps and capacities were refreshed: the sessions are as they were, apart
from dead threads that were taken out. -/
structure Refreshes (w w' : World) : Prop where
  wf : Wf w'.mSessionTaskMap
  state? : ∀ s, w'.mSessionTaskMap.state? s = w.mSessionTaskMap.state? s
  votes? : ∀ s, w'.mSessionTaskMap.votes? s = w.mSessionTaskMap.votes? s
  tasks : ∀ s, (w'.mSessionTaskMap.getTaskIds s).Sublist (w.mSessionTaskMap.getTaskIds s)
  /-- A thread that is alive keeps its sessions. -/
  alive : ∀ tid, w'.NeverDead tid →
    sessionsOf w'.mSessionTaskMap.mTasks tid = sessionsOf w.mSessionTaskMap.mTasks tid
  calls : w.schedCalls <:+ w'.schedCalls
  gpuWrites : w.gpuWrites <:+ w'.gpuWrites

namespace Refreshes

theorem refl (h : Wf w.mSessionTaskMap) : Refreshes w w where
  wf := h
  state? := fun _ => rfl
  votes? := fun _ => rfl
  tasks := fun _ => List.Sublist.refl _
  alive := fun _ _ => rfl
  calls := List.suffix_rfl
  gpuWrites := List.suffix_rfl

theorem trans (h : Refreshes w w') (h' : Refreshes w' w'') : Refreshes w w'' where
  wf := h'.wf
  state? := fun s => (h'.state? s).trans (h.state? s)
  votes? := fun s => (h'.votes? s).trans (h.votes? s)
  tasks := fun s => (h'.tasks s).trans (h.tasks s)
  alive := fun tid hd => (h'.alive tid hd).trans (h.alive tid (hd.of_suffix h'.calls))
  calls := h.calls.trans h'.calls
  gpuWrites := h.gpuWrites.trans h'.gpuWrites

theorem findSession (h : Refreshes w w') (s : ℤ) :
    w'.mSessionTaskMap.findSession s = none ↔ w.mSessionTaskMap.findSession s = none := by
  rw [← votes?_eq_none, ← votes?_eq_none, h.votes?]

end Refreshes

/-- What `touch` writes. -/
def touchVal (t : ℤ) (v : SessionValueEntry) : SessionValueEntry := { v with lastUpdatedTime := t }

theorem touch_refreshes (hw : Wf w.mSessionTaskMap) {s : ℤ} {p : ℕ}
    (hp : w.mSessionTaskMap.findSession s = some p) (t : ℤ) : Refreshes w (w.touch p t) where
  wf := hw.modifyVal p (touchVal t) (fun _ => rfl) fun _ => rfl
  state? := by
    intro s'
    have h := hw.state?_modifyVal hp (touchVal t) id (fun _ => rfl) s'
    refine Eq.trans h ?_
    by_cases hs : s' = s
    · simp [hs]
    · simp [hs]
  votes? := fun s' => Wf.votes?_modifyVal _ p (touchVal t) (fun _ => rfl) s'
  tasks := fun _ => List.Sublist.refl _
  alive := fun _ _ => rfl
  calls := List.suffix_rfl
  gpuWrites := List.suffix_rfl

theorem Swept.refreshes {s t : ℤ} {tids : List ℤ} (h : Swept s t tids w w')
    (hw : Wf w.mSessionTaskMap) (hgpu : w'.gpuWrites = w.gpuWrites) : Refreshes w w' where
  wf := h.wf hw
  state? := by
    intro s'
    unfold SessionTaskMap.state?
    rw [h.findSession, h.vals]
  votes? := by
    intro s'
    unfold SessionTaskMap.votes? votesOf
    rw [h.findSession, h.vals, h.votes]
  tasks := h.tasks
  alive := h.alive
  calls := h.calls
  gpuWrites := by
    rw [hgpu]

theorem applyUclampLocked_refreshes (hw : Wf w.mSessionTaskMap) (s t : ℤ) :
    Refreshes w (w.applyUclampLocked s t) := by
  unfold applyUclampLocked
  cases hp : w.mSessionTaskMap.findSession s with
  | none => exact Refreshes.refl hw
  | some p =>
      by_cases hon : w.adpfConfig.mUclampMinOn = true
      · simp only [if_pos hon]
        have hswept := (sweepSession_swept hw.toConsistent hp t).1
        have hp' := (hswept.findSession s).trans hp
        have hgpu : (w.sweepSession s t).2.gpuWrites = w.gpuWrites := by
          unfold sweepSession
          rw [frame_sweep]
        exact (hswept.refreshes hw hgpu).trans (touch_refreshes (hswept.wf hw) hp' t)
      · simp only [if_neg hon]
        exact touch_refreshes hw hp t

theorem set_gpu_capacity_refreshes (hw : Wf w.mSessionTaskMap) (ptr : GpuNodePtr) (c : ℤ) :
    Refreshes w (w.set_gpu_capacity ptr c) := by
  cases ptr with
  | null => exact ⟨hw, fun _ => rfl, fun _ => rfl, fun _ => List.Sublist.refl _, fun _ _ => rfl,
      List.suffix_rfl, List.suffix_rfl⟩
  | node => exact ⟨hw, fun _ => rfl, fun _ => rfl, fun _ => List.Sublist.refl _, fun _ _ => rfl,
      List.suffix_rfl, List.suffix_cons _ _⟩

theorem mSessionTaskMap_set_gpu_capacity (w : World) (ptr : GpuNodePtr) (c : ℤ) :
    (w.set_gpu_capacity ptr c).mSessionTaskMap = w.mSessionTaskMap := by
  cases ptr <;> rfl

theorem applyGpuVotesLocked_refreshes (hw : Wf w.mSessionTaskMap) (s t : ℤ) :
    Refreshes w (w.applyGpuVotesLocked s t) := by
  unfold applyGpuVotesLocked
  cases hp : w.mSessionTaskMap.findSession s with
  | none => exact Refreshes.refl hw
  | some p =>
      cases w.env.mGpuCapacityNode with
      | none => exact touch_refreshes hw hp t
      | some ptr =>
          cases w.adpfConfig.mGpuBoostOn with
          | none => exact touch_refreshes hw hp t
          | some b =>
              have hset := set_gpu_capacity_refreshes hw ptr
                (w.mSessionTaskMap.getSessionsGpuCapacity t)
              refine hset.trans (touch_refreshes (s := s) hset.wf ?_ t)
              rw [mSessionTaskMap_set_gpu_capacity]
              exact hp

theorem applyVotes_refreshes (hw : Wf w.mSessionTaskMap) (s t : ℤ) :
    Refreshes w (w.applyVotes s t) := by
  have h := applyUclampLocked_refreshes hw s t
  exact h.trans (applyGpuVotesLocked_refreshes h.wf s t)

/-! ### Adding, replacing and removing -/

/-- Only the map of the sessions changed. -/
def OnlyMap (w w' : World) : Prop := w' = { w with mSessionTaskMap := w'.mSessionTaskMap }

theorem OnlyMap.frame (h : OnlyMap w w') : Frame w w' := by
  rw [OnlyMap] at h
  rw [h]
  exact ⟨rfl, rfl, le_rfl⟩

theorem OnlyMap.pending (h : OnlyMap w w') : w'.pending = w.pending := by
  rw [OnlyMap] at h
  rw [h]
  rfl

theorem wf_addSection (hw : Wf w.mSessionTaskMap) (desc : AppHintDesc) (t : ℤ) :
    Wf (w.addSection desc t).mSessionTaskMap :=
  hw.addNew _ _ _ _

theorem state?_addSection (hw : Wf w.mSessionTaskMap) (desc : AppHintDesc) (t s : ℤ) :
    (w.addSection desc t).mSessionTaskMap.state? s =
      if s = desc.sessionId ∧ w.mSessionTaskMap.findSession s = none then
        some { newEntry desc t with
          sessionId := desc.sessionId
          votes := w.mSessionTaskMap.votes.size
          lastUpdatedTime := 0 }
      else w.mSessionTaskMap.state? s := by
  by_cases h : w.mSessionTaskMap.findSession desc.sessionId = none
  · refine Eq.trans (hw.state?_addNew h (newEntry desc t) (newVotes desc t) [] s) ?_
    by_cases hs : s = desc.sessionId
    · subst hs
      simp [h]
    · simp [hs]
  · have hsame : (w.addSection desc t).mSessionTaskMap = _ :=
      Wf.addNew_present h (newEntry desc t) (newVotes desc t) []
    rw [hsame, if_neg]
    · rfl
    · rintro ⟨rfl, hn⟩
      exact h hn

theorem votes?_addSection (hw : Wf w.mSessionTaskMap) (desc : AppHintDesc) (t s : ℤ) :
    (w.addSection desc t).mSessionTaskMap.votes? s =
      if s = desc.sessionId ∧ w.mSessionTaskMap.findSession s = none then some (newVotes desc t)
      else w.mSessionTaskMap.votes? s := by
  by_cases h : w.mSessionTaskMap.findSession desc.sessionId = none
  · refine Eq.trans (hw.votes?_addNew h (newEntry desc t) (newVotes desc t) [] s) ?_
    by_cases hs : s = desc.sessionId
    · subst hs
      simp [h]
    · simp [hs]
  · have hsame : (w.addSection desc t).mSessionTaskMap = _ :=
      Wf.addNew_present h (newEntry desc t) (newVotes desc t) []
    rw [hsame, hw.votes?_allocVotes, if_neg]
    rintro ⟨rfl, hn⟩
    exact h hn

theorem wf_replaceSection (hw : Wf w.mSessionTaskMap) (s : ℤ) (tids : List ℤ) :
    Wf (w.replaceSection s tids).2.mSessionTaskMap :=
  hw.replace s tids [] []

theorem wf_removeSection (hw : Wf w.mSessionTaskMap) (s : ℤ) :
    Wf (w.removeSection s).2.mSessionTaskMap :=
  (hw.replace s [] [] []).remove s

theorem state?_removeSection (hw : Wf w.mSessionTaskMap) (s s' : ℤ) :
    (w.removeSection s).2.mSessionTaskMap.state? s' =
      if s' = s then none else w.mSessionTaskMap.state? s' := by
  refine Eq.trans (Wf.state?_remove _ s s') ?_
  rw [hw.state?_replace]

theorem votes?_removeSection (hw : Wf w.mSessionTaskMap) (s s' : ℤ) :
    (w.removeSection s).2.mSessionTaskMap.votes? s' =
      if s' = s then none else w.mSessionTaskMap.votes? s' := by
  refine Eq.trans (Wf.votes?_remove _ s s') ?_
  rw [hw.votes?_replace]

theorem getTaskIds_addSection (w : World) (desc : AppHintDesc) (t s : ℤ) :
    (w.addSection desc t).mSessionTaskMap.getTaskIds s = w.mSessionTaskMap.getTaskIds s := by
  refine (Wf.getTaskIds_addNew desc.sessionId _ _ [] s).trans ?_
  split
  case isTrue hand =>
    rw [getTaskIds, findSession_eq_none.1 hand.2]
    rfl
  case isFalse => rfl

theorem getTaskIds_replaceSection (w : World) (s : ℤ) (tids : List ℤ) (s' : ℤ) :
    (w.replaceSection s tids).2.mSessionTaskMap.getTaskIds s' =
      if s' = s ∧ w.mSessionTaskMap.findSession s ≠ none then tids
      else w.mSessionTaskMap.getTaskIds s' := by
  cases hp : w.mSessionTaskMap.findSession s with
  | none =>
      have hsame : (w.replaceSection s tids).2 = w := by
        simp only [World.replaceSection, Wf.replace_absent hp]
      rw [hsame, if_neg (by simp)]
  | some p =>
      refine (Wf.getTaskIds_replace hp tids [] [] s').trans ?_
      simp

theorem getTaskIds_removeSection (w : World) (s s' : ℤ) :
    (w.removeSection s).2.mSessionTaskMap.getTaskIds s' =
      if s' = s then [] else w.mSessionTaskMap.getTaskIds s' := by
  refine (Wf.getTaskIds_remove _ s s').trans ?_
  by_cases hs : s' = s
  · rw [if_pos hs, if_pos hs]
  · rw [if_neg hs, if_neg hs]
    refine (getTaskIds_replaceSection w s [] s').trans ?_
    rw [if_neg fun hand => hs hand.1]

/-! ### Switching a session on and off -/

/-- What `forceSessionActive`, `pause` and `resume` write. -/
def activeVal (b : Bool) (v : SessionValueEntry) : SessionValueEntry := { v with isActive := b }

theorem forceSection_none {s : ℤ} (h : w.mSessionTaskMap.findSession s = none) (b : Bool) :
    w.forceSection s b = (false, w) := by
  simp only [forceSection, h]

theorem forceSection_some {s : ℤ} {p : ℕ} (h : w.mSessionTaskMap.findSession s = some p)
    (b : Bool) :
    w.forceSection s b = (true, w.modifyMap fun m => m.modifyVal p (activeVal b)) := by
  simp only [forceSection, h]
  rfl

/-- `pause` and `resume` change nothing, or what `forceSessionActive` changes. -/
theorem switchSection_cases (w : World) (s : ℤ) (b : Bool) :
    (w.switchSection s b = (false, w) ∧
        ∀ v, w.mSessionTaskMap.state? s = some v → v.isActive = b) ∨
      (w.switchSection s b = w.forceSection s b ∧
        ∃ p, w.mSessionTaskMap.findSession s = some p ∧
          (w.mSessionTaskMap.vals.read p).isActive ≠ b) := by
  cases hp : w.mSessionTaskMap.findSession s with
  | none =>
      left
      refine ⟨by simp only [switchSection, hp], fun v hv => ?_⟩
      rw [state?_eq_none.2 hp] at hv
      cases hv
  | some p =>
      by_cases hb : (w.mSessionTaskMap.vals.read p).isActive = b
      · left
        refine ⟨by simp only [switchSection, hp, if_pos hb], fun v hv => ?_⟩
        rw [state?_of_findSession hp] at hv
        rw [← Option.some.inj hv]
        exact hb
      · right
        exact ⟨by simp only [switchSection, forceSection, hp, if_neg hb], p, rfl, hb⟩

theorem wf_forceSection (hw : Wf w.mSessionTaskMap) (s : ℤ) (b : Bool) :
    Wf (w.forceSection s b).2.mSessionTaskMap := by
  cases hp : w.mSessionTaskMap.findSession s with
  | none =>
      rw [forceSection_none hp]
      exact hw
  | some p =>
      rw [forceSection_some hp]
      exact hw.modifyVal p (activeVal b) (fun _ => rfl) fun _ => rfl

theorem state?_forceSection (hw : Wf w.mSessionTaskMap) (s : ℤ) (b : Bool) (s' : ℤ) :
    (w.forceSection s b).2.mSessionTaskMap.state? s' =
      if s' = s then (w.mSessionTaskMap.state? s).map (activeVal b)
      else w.mSessionTaskMap.state? s' := by
  cases hp : w.mSessionTaskMap.findSession s with
  | none =>
      rw [forceSection_none hp]
      by_cases hs : s' = s
      · rw [if_pos hs, hs, state?_eq_none.2 hp]
        rfl
      · rw [if_neg hs]
  | some p =>
      rw [forceSection_some hp]
      exact hw.state?_modifyVal hp (activeVal b) (activeVal b) (fun _ => rfl) s'

theorem votes?_forceSection (w : World) (s : ℤ) (b : Bool) (s' : ℤ) :
    (w.forceSection s b).2.mSessionTaskMap.votes? s' = w.mSessionTaskMap.votes? s' := by
  cases hp : w.mSessionTaskMap.findSession s with
  | none => rw [forceSection_none hp]
  | some p =>
      rw [forceSection_some hp]
      exact Wf.votes?_modifyVal _ p (activeVal b) (fun _ => rfl) s'

theorem findSession_forceSection (w : World) (s : ℤ) (b : Bool) (s' : ℤ) :
    (w.forceSection s b).2.mSessionTaskMap.findSession s' = w.mSessionTaskMap.findSession s' := by
  cases hp : w.mSessionTaskMap.findSession s with
  | none => rw [forceSection_none hp]
  | some p =>
      rw [forceSection_some hp]
      rfl

theorem onlyMap_forceSection (w : World) (s : ℤ) (b : Bool) : OnlyMap w (w.forceSection s b).2 := by
  cases hp : w.mSessionTaskMap.findSession s with
  | none =>
      rw [forceSection_none hp]
      rfl
  | some p =>
      rw [forceSection_some hp]
      rfl

theorem onlyMap_switchSection (w : World) (s : ℤ) (b : Bool) :
    OnlyMap w (w.switchSection s b).2 := by
  rcases switchSection_cases w s b with ⟨heq, -⟩ | ⟨heq, -⟩
  · rw [heq]
    rfl
  · rw [heq]
    exact onlyMap_forceSection w s b

theorem votes?_switchSection (w : World) (s : ℤ) (b : Bool) (s' : ℤ) :
    (w.switchSection s b).2.mSessionTaskMap.votes? s' = w.mSessionTaskMap.votes? s' := by
  rcases switchSection_cases w s b with ⟨heq, -⟩ | ⟨heq, -⟩
  · rw [heq]
  · rw [heq]
    exact votes?_forceSection w s b s'

theorem getTaskIds_forceSection (w : World) (s : ℤ) (b : Bool) (s' : ℤ) :
    (w.forceSection s b).2.mSessionTaskMap.getTaskIds s' = w.mSessionTaskMap.getTaskIds s' := by
  cases hp : w.mSessionTaskMap.findSession s with
  | none => rw [forceSection_none hp]
  | some p =>
      rw [forceSection_some hp]
      rfl

/-- What `setPreferPowerEfficiency` writes. -/
def efficientVal (b : Bool) (v : SessionValueEntry) : SessionValueEntry :=
  { v with isPowerEfficient := b }

theorem efficiencySection_cases (w : World) (s : ℤ) (b : Bool) :
    w.efficiencySection s b = (false, w) ∨
      ∃ p, w.mSessionTaskMap.findSession s = some p ∧
        w.efficiencySection s b = (true, w.modifyMap fun m => m.modifyVal p (efficientVal b)) := by
  cases hp : w.mSessionTaskMap.findSession s with
  | none =>
      left
      simp only [efficiencySection, hp]
  | some p =>
      by_cases hb : b = (w.mSessionTaskMap.vals.read p).isPowerEfficient
      · left
        simp only [efficiencySection, hp, if_pos hb]
      · right
        refine ⟨p, rfl, ?_⟩
        simp only [efficiencySection, hp, if_neg hb]
        rfl

theorem onlyMap_efficiencySection (w : World) (s : ℤ) (b : Bool) :
    OnlyMap w (w.efficiencySection s b).2 := by
  rcases efficiencySection_cases w s b with heq | ⟨p, -, heq⟩
  · rw [heq]
    rfl
  · rw [heq]
    rfl

theorem votes?_efficiencySection (w : World) (s : ℤ) (b : Bool) (s' : ℤ) :
    (w.efficiencySection s b).2.mSessionTaskMap.votes? s' = w.mSessionTaskMap.votes? s' := by
  rcases efficiencySection_cases w s b with heq | ⟨p, -, heq⟩
  · rw [heq]
  · rw [heq]
    exact Wf.votes?_modifyVal _ p (efficientVal b) (fun _ => rfl) s'

/-! ### Writing to the votes of a session -/

/-- The votes of session `s` are changed by `f`, and nothing else is. -/
def writeVotes (s : ℤ) (f : Votes → Votes) (w : World) : World :=
  match w.mSessionTaskMap.findSession s with
  | none => w
  | some p => w.modifyMap fun m => m.modifyVotes p f

theorem writeVotes_none {s : ℤ} (h : w.mSessionTaskMap.findSession s = none) (f : Votes → Votes) :
    w.writeVotes s f = w := by
  simp only [writeVotes, h]

theorem writeVotes_some {s : ℤ} {p : ℕ} (h : w.mSessionTaskMap.findSession s = some p)
    (f : Votes → Votes) : w.writeVotes s f = w.modifyMap fun m => m.modifyVotes p f := by
  simp only [writeVotes, h]

theorem wf_writeVotes (hw : Wf w.mSessionTaskMap) (s : ℤ) (f : Votes → Votes) :
    Wf (w.writeVotes s f).mSessionTaskMap := by
  cases hp : w.mSessionTaskMap.findSession s with
  | none =>
      rw [writeVotes_none hp]
      exact hw
  | some p =>
      rw [writeVotes_some hp]
      exact hw.modifyVotes p f

theorem state?_writeVotes (w : World) (s : ℤ) (f : Votes → Votes) (s' : ℤ) :
    (w.writeVotes s f).mSessionTaskMap.state? s' = w.mSessionTaskMap.state? s' := by
  cases hp : w.mSessionTaskMap.findSession s with
  | none => rw [writeVotes_none hp]
  | some p =>
      rw [writeVotes_some hp]
      rfl

theorem getTaskIds_writeVotes (w : World) (s : ℤ) (f : Votes → Votes) (s' : ℤ) :
    (w.writeVotes s f).mSessionTaskMap.getTaskIds s' = w.mSessionTaskMap.getTaskIds s' := by
  cases hp : w.mSessionTaskMap.findSession s with
  | none => rw [writeVotes_none hp]
  | some p =>
      rw [writeVotes_some hp]
      rfl

theorem findSession_writeVotes (w : World) (s : ℤ) (f : Votes → Votes) (s' : ℤ) :
    (w.writeVotes s f).mSessionTaskMap.findSession s' = w.mSessionTaskMap.findSession s' := by
  cases hp : w.mSessionTaskMap.findSession s with
  | none => rw [writeVotes_none hp]
  | some p =>
      rw [writeVotes_some hp]
      rfl

theorem votes?_writeVotes (hw : Wf w.mSessionTaskMap) (s : ℤ) (f : Votes → Votes) (s' : ℤ) :
    (w.writeVotes s f).mSessionTaskMap.votes? s' =
      if s' = s then (w.mSessionTaskMap.votes? s).map f else w.mSessionTaskMap.votes? s' := by
  cases hp : w.mSessionTaskMap.findSession s with
  | none =>
      rw [writeVotes_none hp]
      by_cases hs : s' = s
      · rw [if_pos hs, hs, votes?_eq_none.2 hp]
        rfl
      · rw [if_neg hs]
  | some p =>
      rw [writeVotes_some hp]
      exact hw.votes?_modifyVotes hp f s'

theorem onlyMap_writeVotes (w : World) (s : ℤ) (f : Votes → Votes) :
    OnlyMap w (w.writeVotes s f) := by
  cases hp : w.mSessionTaskMap.findSession s with
  | none =>
      rw [writeVotes_none hp]
      rfl
  | some p =>
      rw [writeVotes_some hp]
      rfl

theorem durationSection_eq (w : World) (s v d : ℤ) :
    w.durationSection s v d = w.writeVotes s fun vs => vs.updateDuration v d := rfl

theorem disableSection_eq (w : World) (s : ℤ) :
    w.disableSection s = w.writeVotes s fun vs => vs.turnOff disabledBoosts := rfl

/-! ### Setting a vote -/

/-- What a vote does to a session's votes. -/
def Ballot.add (e : Timeout) (durationNs : ℤ) (b : Ballot) (vs : Votes) : Votes :=
  match b with
  | .cpu lo hi => vs.addCpu e.voteId
      { mActive := true, mStartTime := e.timeStamp, mDurationNs := durationNs,
        mUclampRange := ⟨lo, hi⟩ }
  | .gpu c => vs.addGpu e.voteId
      { mActive := true, mStartTime := e.timeStamp, mDurationNs := durationNs, mCapacity := c }

theorem modifyMap_addBallot {e : Timeout} {p : ℕ}
    (h : w.mSessionTaskMap.findSession e.sessionId = some p) (d : ℤ) (b : Ballot) :
    w.modifyMap (addBallot e d b) = w.writeVotes e.sessionId (b.add e d) := by
  obtain ⟨entry, he, rfl⟩ := findSession_eq_some h
  rw [writeVotes_some h]
  cases b with
  | cpu lo hi =>
      simp only [modifyMap, addBallot, addVote, he]
      rfl
  | gpu c =>
      simp only [modifyMap, addBallot, addGpuVote, he]
      rfl

theorem applyBallot_refreshes (hw : Wf w.mSessionTaskMap) (s t : ℤ) (b : Ballot) :
    Refreshes w (w.applyBallot s t b) := by
  cases b with
  | cpu lo hi => exact applyUclampLocked_refreshes hw s t
  | gpu c => exact applyGpuVotesLocked_refreshes hw s t

theorem onlyOutputs_applyBallot (w : World) (s t : ℤ) (b : Ballot) :
    OnlyOutputs w (w.applyBallot s t b) := by
  cases b with
  | cpu lo hi => exact onlyOutputs_applyUclampLocked w s t
  | gpu c => exact onlyOutputs_applyGpuVotesLocked w s t

theorem applyBallot_faults (w : World) (s t : ℤ) (b : Ballot) :
    FaultsAtNode w (w.applyBallot s t b) := by
  cases b with
  | cpu lo hi => exact Or.inl (applyUclampLocked_outputs w s t).1
  | gpu c => exact applyGpuVotesLocked_faults w s t

theorem voteSection_none {e : Timeout} (h : w.mSessionTaskMap.findSession e.sessionId = none)
    (d : ℤ) (b : Ballot) : w.voteSection e d b = (false, w) := by
  simp only [voteSection, h]

/-- The state that `voteSet` leaves before it notes the event. -/
def voted (e : Timeout) (d : ℤ) (b : Ballot) (p : ℕ) (w : World) : World :=
  ((w.writeVotes e.sessionId (b.add e d)).touch p e.timeStamp).applyBallot e.sessionId e.timeStamp b

theorem voteSection_some {e : Timeout} {p : ℕ}
    (h : w.mSessionTaskMap.findSession e.sessionId = some p) (d : ℤ) (b : Ballot) :
    w.voteSection e d b =
      (shouldScheduleTimeout (w.mSessionTaskMap.votesOf p) e.voteId e.deadline,
        if shouldScheduleTimeout (w.mSessionTaskMap.votesOf p) e.voteId e.deadline then
          { w.voted e d b p with decided := e :: (w.voted e d b p).decided }
        else w.voted e d b p) := by
  simp only [voteSection, h, modifyMap_addBallot h]
  rfl

/-- In short: a vote is stored if the session is there, and an event may be decided about. -/
theorem voteSection_cases (w : World) (e : Timeout) (d : ℤ) (b : Ballot) :
    (w.mSessionTaskMap.findSession e.sessionId = none ∧ (w.voteSection e d b).2 = w) ∨
      ∃ p decided, w.mSessionTaskMap.findSession e.sessionId = some p ∧
        (w.voteSection e d b).2 = { w.voted e d b p with decided := decided } := by
  cases hp : w.mSessionTaskMap.findSession e.sessionId with
  | none =>
      rw [voteSection_none hp]
      exact Or.inl ⟨rfl, rfl⟩
  | some p =>
      rw [voteSection_some hp]
      dsimp only
      split
      · exact Or.inr ⟨p, _, rfl, rfl⟩
      · exact Or.inr ⟨p, (w.voted e d b p).decided, rfl, rfl⟩

theorem onlyOutputs_voted_writeVotes (w : World) (e : Timeout) (d : ℤ) (b : Ballot) (p : ℕ) :
    OnlyOutputs (w.writeVotes e.sessionId (b.add e d)) (w.voted e d b p) := by
  have htouch : OnlyOutputs (w.writeVotes e.sessionId (b.add e d))
      ((w.writeVotes e.sessionId (b.add e d)).touch p e.timeStamp) := rfl
  exact htouch.trans (onlyOutputs_applyBallot _ _ _ b)

theorem onlyOutputs_voted (w : World) (e : Timeout) (d : ℤ) (b : Ballot) (p : ℕ) :
    OnlyOutputs w (w.voted e d b p) := by
  have hwrite : OnlyOutputs w (w.writeVotes e.sessionId (b.add e d)) := by
    unfold OnlyOutputs
    rw [onlyMap_writeVotes w e.sessionId (b.add e d)]
  exact hwrite.trans (onlyOutputs_voted_writeVotes w e d b p)

theorem voted_faults (w : World) (e : Timeout) (d : ℤ) (b : Ballot) (p : ℕ) :
    FaultsAtNode w (w.voted e d b p) := by
  have hnode := applyBallot_faults
    ((w.writeVotes e.sessionId (b.add e d)).touch p e.timeStamp) e.sessionId e.timeStamp b
  have honly := onlyMap_writeVotes w e.sessionId (b.add e d)
  rw [OnlyMap] at honly
  unfold FaultsAtNode touch modifyMap at hnode
  rw [honly] at hnode
  unfold FaultsAtNode voted touch modifyMap
  rw [honly]
  exact hnode

/-- `voteSet` writes the vote and refreshes. -/
theorem voted_refreshes (hw : Wf w.mSessionTaskMap) {e : Timeout} {p : ℕ}
    (h : w.mSessionTaskMap.findSession e.sessionId = some p) (d : ℤ) (b : Ballot) :
    Refreshes (w.writeVotes e.sessionId (b.add e d)) (w.voted e d b p) := by
  have hwf := wf_writeVotes hw e.sessionId (b.add e d)
  have htouch := touch_refreshes hwf ((findSession_writeVotes w _ _ _).trans h) e.timeStamp
  exact htouch.trans (applyBallot_refreshes htouch.wf _ _ b)

/-! ### Expiry -/

theorem expireSection_none {e : Timeout} (h : w.mSessionTaskMap.findSession e.sessionId = none)
    (t : ℤ) : w.expireSection e t = (.drop, { w with running := w.running.erase e }) := by
  simp only [expireSection, h]

/-- What `handleEvent` decides about an event of a session that is there. -/
theorem expireSection_cases {e : Timeout} {p : ℕ}
    (h : w.mSessionTaskMap.findSession e.sessionId = some p) (t : ℤ) :
    ((w.mSessionTaskMap.votesOf p).voteIsActive e.voteId = false ∧
        w.expireSection e t = (.drop, { w with running := w.running.erase e })) ∨
      ((w.mSessionTaskMap.votesOf p).voteIsActive e.voteId = true ∧
        (w.mSessionTaskMap.votesOf p).voteTimeout e.voteId ≤ t ∧
        w.expireSection e t =
          (.expired, { w with running := w.running.erase e }.writeVotes e.sessionId
            fun vs => (vs.setUseVote e.voteId false).2)) ∨
      ((w.mSessionTaskMap.votesOf p).voteIsActive e.voteId = true ∧
        t < (w.mSessionTaskMap.votesOf p).voteTimeout e.voteId ∧
        w.expireSection e t =
          (.requeue { e with deadline := (w.mSessionTaskMap.votesOf p).voteTimeout e.voteId },
            { w with
              running := w.running.erase e
              decided := { e with
                deadline := (w.mSessionTaskMap.votesOf p).voteTimeout e.voteId } :: w.decided })) := by
  by_cases hact : (w.mSessionTaskMap.votesOf p).voteIsActive e.voteId = true
  · right
    by_cases ht : (w.mSessionTaskMap.votesOf p).voteTimeout e.voteId ≤ t
    · left
      refine ⟨hact, ht, ?_⟩
      rw [writeVotes_some (w := { w with running := w.running.erase e }) h]
      simp only [expireSection, h, hact, if_true, if_pos ht]
    · right
      refine ⟨hact, by omega, ?_⟩
      simp only [expireSection, h, hact, if_true, if_neg ht]
  · left
    refine ⟨by simpa using hact, ?_⟩
    simp only [expireSection, h, if_neg hact]

/-- In short: only the lists of events change, unless the vote is over, which is then turned off. -/
theorem expireSection_world (w : World) (e : Timeout) (t : ℤ) :
    (∃ decided, (w.expireSection e t).2 =
        { w with running := w.running.erase e, decided := decided }) ∨
      (w.expireSection e t).2 = { w with running := w.running.erase e }.writeVotes e.sessionId
        fun vs => (vs.setUseVote e.voteId false).2 := by
  cases hp : w.mSessionTaskMap.findSession e.sessionId with
  | none =>
      rw [expireSection_none hp]
      exact Or.inl ⟨w.decided, rfl⟩
  | some p =>
      rcases expireSection_cases hp t with ⟨-, heq⟩ | ⟨-, -, heq⟩ | ⟨-, -, heq⟩
      · rw [heq]
        exact Or.inl ⟨w.decided, rfl⟩
      · rw [heq]
        exact Or.inr rfl
      · rw [heq]
        exact Or.inl ⟨_, rfl⟩

end World

end Adpf
