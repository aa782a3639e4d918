/-
**The GPU capacity that the sessions ask for.**

The service writes one capacity to the node of the GPU: the largest that any session asks for.  The
sum is taken over the votes of each session and the maximum over the sessions, whether they are
active or not; and the refresh that a session's removal leads to comes before the session is erased.
So what is left standing after a session was paused or removed may be its own request.  The sums are
taken in 32 bits, so it may also be what is left of a sum that overflowed.  This module says exactly
when it is what the others ask for.

Main definitions:

* `Adpf.SessionTaskMap.request` — what a session asks for at a time;
* `Adpf.SessionTaskMap.capacitySum` — the exact sum of its votes in range;
* `Adpf.SessionTaskMap.othersCapacity` — the largest such sum of the other active sessions.

Main results:

* `Adpf.SessionTaskMap.getSessionsGpuCapacity_le_iff` — the capacity as a maximum over sessions;
* `Adpf.World.applyVotes_gpuWrites` — what a refresh writes to the node;
* `Adpf.gpu_capacity_without_session_iff` — **the capacity that is left when a session is paused or
  removed is that of the other active sessions exactly if this is a capacity, no sum of theirs
  overflows to more, and neither this session nor an inactive one asks for more.**
-/

import MotoCommon.LockDiscipline
import MotoCommon.RunRules

set_option autoImplicit false

namespace Adpf

open Conc SessionTaskMap

/-! ### A maximum over the sessions -/

namespace SessionTaskMap

variable {m m' : SessionTaskMap}

/-- The capacity that a session asks for at a time: zero, if it is not there or has no vote. -/
def request (m : SessionTaskMap) (s t : ℤ) : ℤ :=
  ((m.votes? s).bind fun vs => vs.getGpuCapacityRequest t).getD 0

/-- The sum of the votes for a capacity that a session has in range at a time. -/
def capacitySum (m : SessionTaskMap) (s t : ℤ) : ℤ :=
  (m.votes? s).elim 0 fun vs => vs.capacitySum t

/-- The sessions other than `s` that are there and active. -/
def activeOthers (m : SessionTaskMap) (s : ℤ) : List ℤ :=
  m.mSessions.keys.filter fun s' => decide (s' ≠ s) && m.isActive s'

/-- The largest sum of the active sessions other than `s`, zero if there are none. -/
def othersCapacity (m : SessionTaskMap) (s t : ℤ) : ℤ :=
  ((m.activeOthers s).map fun s' => m.capacitySum s' t).max?.getD 0

theorem request_of_lookup {s : ℤ} {e : ValEntry} (h : m.mSessions.lookup s = some e) (t : ℤ) :
    m.request s t = m.gpuRequest e.val t := by
  rw [request, votes?_of_findSession (findSession_of_lookup h)]
  rfl

theorem request_of_absent {s : ℤ} (h : m.findSession s = none) (t : ℤ) : m.request s t = 0 := by
  rw [request, votes?_eq_none.2 h]
  rfl

theorem request_congr {s : ℤ} (h : m'.votes? s = m.votes? s) (t : ℤ) :
    m'.request s t = m.request s t := by
  rw [request, request, h]

theorem isActive_congr {s : ℤ} (h : m'.state? s = m.state? s) : m'.isActive s = m.isActive s := by
  rw [isActive, isActive, h]

/-- Only a session that is there is active. -/
theorem findSession_ne_none_of_isActive {s : ℤ} (h : m.isActive s = true) :
    m.findSession s ≠ none := by
  intro hnone
  rw [isActive, state?_eq_none.2 hnone] at h
  cases h

/-- **The capacity is the maximum over the requests of all sessions.** -/
theorem getSessionsGpuCapacity_le_iff (t x : ℤ) :
    m.getSessionsGpuCapacity t ≤ x ↔ 0 ≤ x ∧ ∀ s, m.request s t ≤ x := by
  rw [getSessionsGpuCapacity, UMap.foldl_max_le_iff m.mSessions fun _ e => m.gpuRequest e.val t]
  refine and_congr_right fun hx => ⟨fun h s => ?_, fun h s e he => ?_⟩
  · cases hl : m.mSessions.lookup s with
    | none =>
        rw [request_of_absent (findSession_eq_none.2 hl)]
        exact hx
    | some e =>
        rw [request_of_lookup hl]
        exact h s e hl
  · rw [← request_of_lookup he]
    exact h s

/-- A session asks for the sum of its votes in range, in 32 bits. -/
theorem request_eq (s t : ℤ) : m.request s t = toInt32 (m.capacitySum s t) := by
  unfold request capacitySum
  cases m.votes? s with
  | none => rfl
  | some vs => exact vs.getGpuCapacityRequest_eq t

theorem capacitySum_congr {s : ℤ} (h : m'.votes? s = m.votes? s) (t : ℤ) :
    m'.capacitySum s t = m.capacitySum s t := by
  rw [capacitySum, capacitySum, h]

theorem mem_activeOthers {s s' : ℤ} : s' ∈ m.activeOthers s ↔ s' ≠ s ∧ m.isActive s' = true := by
  unfold activeOthers
  rw [List.mem_filter, Bool.and_eq_true, decide_eq_true_eq]
  refine and_iff_right_of_imp fun h => AList.lookup_isSome.1 ?_
  cases hl : m.mSessions.lookup s' with
  | none => exact absurd (findSession_eq_none.2 hl) (findSession_ne_none_of_isActive h.2)
  | some e => rfl

/-- The largest sum of the others is that of one of them, or zero if there are none. -/
theorem othersCapacity_cases (s t : ℤ) :
    (m.activeOthers s = [] ∧ m.othersCapacity s t = 0) ∨
      ((∃ s' ∈ m.activeOthers s, m.capacitySum s' t = m.othersCapacity s t) ∧
        ∀ s' ∈ m.activeOthers s, m.capacitySum s' t ≤ m.othersCapacity s t) := by
  unfold othersCapacity
  cases hmax : ((m.activeOthers s).map fun s' => m.capacitySum s' t).max? with
  | none => exact .inl ⟨List.map_eq_nil_iff.1 (List.max?_eq_none_iff.1 hmax), rfl⟩
  | some x =>
      obtain ⟨hmem, hle⟩ := List.max?_eq_some_iff.1 hmax
      exact .inr ⟨List.mem_map.1 hmem, fun s' hs' => hle _ (List.mem_map_of_mem hs')⟩

/-- Two numbers below the same bounds are equal. -/
theorem getSessionsGpuCapacity_congr {t t' : ℤ} (h : ∀ s, m'.request s t' = m.request s t) :
    m'.getSessionsGpuCapacity t' = m.getSessionsGpuCapacity t := by
  refine eq_of_forall_ge_iff fun x => ?_
  rw [getSessionsGpuCapacity_le_iff, getSessionsGpuCapacity_le_iff]
  simp only [h]

theorem othersCapacity_congr {s t : ℤ} (hstate : ∀ s' ≠ s, m'.state? s' = m.state? s')
    (hvotes : ∀ s' ≠ s, m'.votes? s' = m.votes? s') :
    m'.othersCapacity s t = m.othersCapacity s t := by
  have hmem (s' : ℤ) : s' ∈ m'.activeOthers s ↔ s' ∈ m.activeOthers s := by
    rw [mem_activeOthers, mem_activeOthers]
    exact and_congr_right fun hne => by rw [isActive_congr (hstate s' hne)]
  have hsum {s' : ℤ} (h : s' ∈ m.activeOthers s) : m'.capacitySum s' t = m.capacitySum s' t :=
    capacitySum_congr (hvotes s' (mem_activeOthers.1 h).1) t
  rcases othersCapacity_cases (m := m) s t with ⟨hnil, hzero⟩ | ⟨⟨s₁, hs₁, heq₁⟩, hle₁⟩
  · rcases othersCapacity_cases (m := m') s t with ⟨-, hzero'⟩ | ⟨⟨s₂, hs₂, -⟩, -⟩
    · rw [hzero, hzero']
    · exact absurd ((hmem s₂).1 hs₂) (by simp [hnil])
  · rcases othersCapacity_cases (m := m') s t with ⟨hnil, -⟩ | ⟨⟨s₂, hs₂, heq₂⟩, hle₂⟩
    · exact absurd ((hmem s₁).2 hs₁) (by simp [hnil])
    · refine le_antisymm ?_ ?_
      · rw [← heq₂, hsum ((hmem s₂).1 hs₂)]
        exact hle₁ s₂ ((hmem s₂).1 hs₂)
      · rw [← heq₁, ← hsum hs₁]
        exact hle₂ s₁ ((hmem s₁).2 hs₁)

/-- The largest sum of the active sessions other than `s` is a capacity, and all that the sessions ask
for in 32 bits is at most that: the session `s` and those that are not active, and also a session whose
sum is too small for 32 bits. -/
structure OthersPrevail (m : SessionTaskMap) (s t : ℤ) : Prop where
  nonneg : 0 ≤ m.othersCapacity s t
  fits : m.othersCapacity s t < 2 ^ 31
  rest : ∀ s', s' = s ∨ m.isActive s' = false → toInt32 (m.capacitySum s' t) ≤ m.othersCapacity s t
  small : ∀ s' ≠ s, m.isActive s' = true → m.capacitySum s' t < -2 ^ 31 →
    toInt32 (m.capacitySum s' t) ≤ m.othersCapacity s t

theorem OthersPrevail.request_le {s t : ℤ} (h : m.OthersPrevail s t) (s' : ℤ) :
    m.request s' t ≤ m.othersCapacity s t := by
  rw [request_eq]
  by_cases hs : s' = s
  · exact h.rest s' (.inl hs)
  · cases hact : m.isActive s' with
    | false => exact h.rest s' (.inr hact)
    | true =>
        by_cases hsmall : m.capacitySum s' t < -2 ^ 31
        · exact h.small s' hs hact hsmall
        · have hmem : s' ∈ m.activeOthers s := mem_activeOthers.2 ⟨hs, hact⟩
          rcases othersCapacity_cases (m := m) s t with ⟨hnil, -⟩ | ⟨-, hle⟩
          · exact absurd hmem (by simp [hnil])
          · have hfits := h.fits
            have hle' := hle s' hmem
            rwa [toInt32_eq (by omega) (by omega)]

/-- **The maximum over all sessions, in 32 bits, is the largest sum of the others** exactly if these
prevail. -/
theorem getSessionsGpuCapacity_eq_iff (s t : ℤ) :
    m.getSessionsGpuCapacity t = m.othersCapacity s t ↔ m.OthersPrevail s t := by
  obtain ⟨hzero, hall⟩ := (getSessionsGpuCapacity_le_iff (m := m) t _).1 le_rfl
  constructor
  · intro heq
    rw [heq] at hzero hall
    have hrequest (s' : ℤ) : toInt32 (m.capacitySum s' t) ≤ m.othersCapacity s t :=
      request_eq (m := m) s' t ▸ hall s'
    refine ⟨hzero, ?_, fun s' _ => hrequest s', fun s' _ _ _ => hrequest s'⟩
    -- what the code computes is a capacity of 32 bits
    rw [← heq]
    have hle : m.getSessionsGpuCapacity t ≤ 2 ^ 31 - 1 := by
      refine (getSessionsGpuCapacity_le_iff t _).2 ⟨by decide, fun s' => ?_⟩
      rw [request_eq]
      have := (toInt32_bounds (m.capacitySum s' t)).2
      omega
    omega
  · intro h
    refine le_antisymm ((getSessionsGpuCapacity_le_iff t _).2 ⟨h.nonneg, h.request_le⟩) ?_
    rcases othersCapacity_cases (m := m) s t with ⟨-, hnone⟩ | ⟨⟨s', -, heq⟩, -⟩
    · rw [hnone]
      exact hzero
    · have hexact : m.request s' t = m.othersCapacity s t := by
        have hnonneg := h.nonneg
        rw [request_eq, heq]
        exact toInt32_eq (by omega) h.fits
      rw [← hexact]
      exact hall s'

end SessionTaskMap

/-! ### What a refresh writes -/

namespace World

variable {w w' : World} {s t : ℤ}

/-- Capacities are written: there is a node, and the profile says something about the GPU. -/
structure WritesGpu (w : World) : Prop where
  node : w.env.mGpuCapacityNode = some .node
  boostOn : w.adpfConfig.mGpuBoostOn ≠ none

theorem WritesGpu.of_frame (h : w.WritesGpu) (hf : Frame w w') : w'.WritesGpu where
  node := hf.env ▸ h.node
  boostOn := hf.adpfConfig ▸ h.boostOn

theorem applyGpuVotesLocked_gpuWrites (h : w.WritesGpu)
    (hs : w.mSessionTaskMap.findSession s ≠ none) (t : ℤ) :
    (w.applyGpuVotesLocked s t).gpuWrites =
      w.mSessionTaskMap.getSessionsGpuCapacity t :: w.gpuWrites := by
  obtain ⟨p, hp⟩ := Option.ne_none_iff_exists'.1 hs
  obtain ⟨b, hb⟩ := Option.ne_none_iff_exists'.1 h.boostOn
  simp only [applyGpuVotesLocked, hp, h.node, hb]
  rfl

theorem Refreshes.getSessionsGpuCapacity (h : Refreshes w w') (t : ℤ) :
    w'.mSessionTaskMap.getSessionsGpuCapacity t = w.mSessionTaskMap.getSessionsGpuCapacity t :=
  getSessionsGpuCapacity_congr fun s => request_congr (h.votes? s) t

/-- **A refresh of a session writes the capacity that the sessions ask for.** -/
theorem applyVotes_gpuWrites (hw : Wf w.mSessionTaskMap) (h : w.WritesGpu)
    (hs : w.mSessionTaskMap.findSession s ≠ none) (t : ℤ) :
    (w.applyVotes s t).gpuWrites =
      w.mSessionTaskMap.getSessionsGpuCapacity t :: w.gpuWrites := by
  have hr := applyUclampLocked_refreshes hw s t
  have hframe := (onlyOutputs_applyUclampLocked w s t).frame
  unfold applyVotes
  rw [applyGpuVotesLocked_gpuWrites (h.of_frame hframe) (fun hn => hs ((hr.findSession s).1 hn)),
    hr.getSessionsGpuCapacity, (applyUclampLocked_outputs w s t).2]

end World

/-! ### A session that is paused or removed -/

section SwitchedOff

open World Prog PowerSessionManager

variable {w w' : World} {s : ℤ}

/-- From `w` to `w'` the capacity was written that the sessions asked for at the next reading of the
clock, and the sessions other than `s` are as they were. -/
structure LeavesOthers (s : ℤ) (w w' : World) : Prop where
  wf : Wf w'.mSessionTaskMap
  write : w'.gpuWrites =
    w.mSessionTaskMap.getSessionsGpuCapacity w.readClock.1 :: w.gpuWrites
  state? : ∀ s' ≠ s, w'.mSessionTaskMap.state? s' = w.mSessionTaskMap.state? s'
  votes? : ∀ s' ≠ s, w'.mSessionTaskMap.votes? s' = w.mSessionTaskMap.votes? s'

theorem LeavesOthers.quiet {w'' : World} (h : LeavesOthers s w w') (hq : Quiet w' w'') :
    LeavesOthers s w w'' where
  wf := hq.map ▸ h.wf
  write := hq.gpuWrites.trans h.write
  state? := hq.map ▸ h.state?
  votes? := hq.map ▸ h.votes?

theorem refresh_leavesOthers (hw : Wf w.mSessionTaskMap) (hgpu : w.WritesGpu)
    (hs : w.mSessionTaskMap.findSession s ≠ none) : LeavesOthers s w ((refresh s).post w) := by
  have hread : Quiet w w.readClock.2 := .readClock w
  have hr : Refreshes w.readClock.2 (w.readClock.2.applyVotes s w.readClock.1) :=
    applyVotes_refreshes (hread.map ▸ hw) s _
  have happly : LeavesOthers s w (w.readClock.2.applyVotes s w.readClock.1) := by
    refine ⟨hr.wf, ?_, fun s' _ => ?_, fun s' _ => ?_⟩
    · have hframe : Frame w w.readClock.2 := ⟨hread.env, hread.adpfConfig, hread.clock⟩
      have hwrite := applyVotes_gpuWrites (hread.map ▸ hw) (hgpu.of_frame hframe)
        (hread.map ▸ hs) w.readClock.1
      rwa [hread.map, hread.gpuWrites] at hwrite
    · rw [hr.state?, hread.map]
    · rw [hr.votes?, hread.map]
  exact happly.quiet
    ((updateUniversalBoostMode_within' fun _ _ h => h).post Quiet.skip Quiet.trans _)

theorem forceSessionActive_leavesOthers (hw : Wf w.mSessionTaskMap) (hgpu : w.WritesGpu)
    (hs : w.mSessionTaskMap.findSession s ≠ none) (b : Bool) :
    LeavesOthers s w ((forceSessionActive s b).post w) := by
  obtain ⟨p, hp⟩ := Option.ne_none_iff_exists'.1 hs
  have hpost : (forceSessionActive s b).post w = (refresh s).post (w.forceSection s b).2 := by
    simp only [forceSessionActive, post, bind_eq, run_bind, run_critical, run_atomic]
    rw [forceSection_some hp, when_true]
  have hstate := state?_forceSection hw s b
  have hvotes := votes?_forceSection w s b
  have hrefresh := refresh_leavesOthers (s := s) (wf_forceSection hw s b)
    (hgpu.of_frame (onlyMap_forceSection w s b).frame)
    ((findSession_forceSection w s b s).trans_ne hs)
  have honly := onlyMap_forceSection w s b
  rw [OnlyMap] at honly
  rw [hpost]
  refine ⟨hrefresh.wf, ?_, fun s' hne => ?_, fun s' hne => ?_⟩
  · have hclock : (w.forceSection s b).2.readClock.1 = w.readClock.1 := by
      rw [honly]
      rfl
    have hwrites : (w.forceSection s b).2.gpuWrites = w.gpuWrites := by rw [honly]
    rw [hrefresh.write, hclock, hwrites,
      getSessionsGpuCapacity_congr fun s' => request_congr (hvotes s') _]
  · exact (hrefresh.state? s' hne).trans ((hstate s').trans (if_neg hne))
  · exact (hrefresh.votes? s' hne).trans (hvotes s')

theorem pause_leavesOthers (hw : Wf w.mSessionTaskMap) (hgpu : w.WritesGpu)
    (hact : w.mSessionTaskMap.isActive s = true) :
    LeavesOthers s w ((PowerSessionManager.pause s).post w) := by
  have hs := findSession_ne_none_of_isActive hact
  have hswitch : w.switchSection s false = w.forceSection s false := by
    rcases switchSection_cases w s false with ⟨-, hoff⟩ | ⟨heq, -⟩
    · obtain ⟨p, hp⟩ := Option.ne_none_iff_exists'.1 hs
      have hv := state?_of_findSession hp
      rw [isActive, hv] at hact
      exact absurd (hoff _ hv) (by simp [show (w.mSessionTaskMap.vals.read p).isActive = true from hact])
    · exact heq
  have hpost : (PowerSessionManager.pause s).post w = (forceSessionActive s false).post w := by
    simp only [PowerSessionManager.pause, forceSessionActive, post, bind_eq, run_bind, run_critical,
      run_atomic, hswitch]
  rw [hpost]
  exact forceSessionActive_leavesOthers hw hgpu hs false

theorem removePowerSession_leavesOthers (hw : Wf w.mSessionTaskMap) (hgpu : w.WritesGpu)
    (hs : w.mSessionTaskMap.findSession s ≠ none) :
    LeavesOthers s w ((removePowerSession s).post w) := by
  have hcalm : Calm (LeavesOthers s w) :=
    ⟨fun hq h => h.quiet hq, fun _ _ _ h => ⟨h.wf, h.write, h.state?, h.votes?⟩⟩
  have hoff : Triple (fun u => u = w) (forceSessionActive s false) fun _ => LeavesOthers s w := by
    rintro u rfl
    exact forceSessionActive_leavesOthers hw hgpu hs false
  have hprofile : Unprofiled (LeavesOthers s w) :=
    fun _ _ _ h => ⟨h.wf, h.write, h.state?, h.votes?⟩
  refine removePowerSession_triple hcalm hprofile s hoff ?_ w rfl
  intro u hu
  refine ⟨wf_removeSection hu.wf s, hu.write, fun s' hne => ?_, fun s' hne => ?_⟩
  · rw [state?_removeSection hu.wf, if_neg hne]
    exact hu.state? s' hne
  · rw [votes?_removeSection hu.wf, if_neg hne]
    exact hu.votes? s' hne

/-- **The capacity that is left.**  Let a session be removed, or paused while it is active, where
capacities are written.  What was written last is then the largest sum of the votes of another active
session, at the time of the refresh, exactly if this sum is between zero and the largest `int`, no sum of
theirs that is too small for an `int` becomes more than it, and neither the session itself nor an
inactive one asks for more, all at that time. -/
theorem gpu_capacity_without_session_iff (hw : Wf w.mSessionTaskMap) (hgpu : w.WritesGpu)
    (hs : w.mSessionTaskMap.findSession s ≠ none) {p : P Unit}
    (hp : p = removePowerSession s ∨
      p = PowerSessionManager.pause s ∧ w.mSessionTaskMap.isActive s = true) :
    (p.post w).gpuWrites.head? =
        some ((p.post w).mSessionTaskMap.othersCapacity s w.readClock.1) ↔
      w.mSessionTaskMap.OthersPrevail s w.readClock.1 := by
  have hleaves : LeavesOthers s w (p.post w) := by
    rcases hp with rfl | ⟨rfl, hact⟩
    · exact removePowerSession_leavesOthers hw hgpu hs
    · exact pause_leavesOthers hw hgpu hact
  rw [← getSessionsGpuCapacity_eq_iff, othersCapacity_congr hleaves.state? hleaves.votes?,
    hleaves.write, List.head?_cons, Option.some.injEq]

/-- A phone with a node for the GPU's capacity. -/
def gpuEnv : Env where
  mGpuCapacityNode := some .node

/-- A hint about the GPU's load asks for a capacity of one thousand. -/
def gpuConfig : AdpfConfig := { makeMockConfig with mGpuCapacityLoadUpHeadroom := 1000 }

/-- Two sessions, of which the second has sent a hint about the GPU's load. -/
@[irreducible] def secondLoaded : World :=
  (Op.session 2 (.sendHint .GPU_LOAD_UP)).prog.post
    ((Op.create 100 10000 [8] 16000000).prog.post
      ((Op.create 100 10000 [7] 16000000).prog.post (World.init gpuEnv gpuConfig)))

theorem secondLoaded_runs : Runs (fun _ _ => True) (World.init gpuEnv gpuConfig) secondLoaded := by
  unfold secondLoaded
  exact ((Runs.init.next _ trivial id).next _ trivial id).next _ trivial id

theorem secondLoaded_wf : Wf secondLoaded.mSessionTaskMap := secondLoaded_runs.wf Wf.empty

theorem secondLoaded_writesGpu : secondLoaded.WritesGpu := ⟨by decide +kernel, by decide +kernel⟩

/-- The first session asks for nothing: when it is removed, the request of the second stands. -/
theorem gpu_capacity_without_session_first :
    ((removePowerSession 1).post secondLoaded).gpuWrites.head? = some 1000 := by
  have hcond := (getSessionsGpuCapacity_eq_iff (m := secondLoaded.mSessionTaskMap) 1
    secondLoaded.readClock.1).1 (by decide +kernel)
  rw [(gpu_capacity_without_session_iff secondLoaded_wf secondLoaded_writesGpu
    (by decide +kernel) (Or.inl rfl)).2 hcond]
  decide +kernel

/-- The second session is paused, or removed: its own request stands, where nobody else asks for
anything. -/
theorem gpu_capacity_remains :
    Runs (fun _ _ => True) (World.init gpuEnv gpuConfig) secondLoaded ∧
    (secondLoaded.mSessionTaskMap.isActive 2 = true ∧
      ((PowerSessionManager.pause 2).post secondLoaded).gpuWrites.head? = some 1000 ∧
      ((PowerSessionManager.pause 2).post secondLoaded).mSessionTaskMap.othersCapacity 2
        secondLoaded.readClock.1 = 0) ∧
    (((removePowerSession 2).post secondLoaded).gpuWrites.head? = some 1000 ∧
      ((removePowerSession 2).post secondLoaded).mSessionTaskMap.othersCapacity 2
        secondLoaded.readClock.1 = 0) := by
  refine ⟨secondLoaded_runs, ?_⟩
  decide +kernel

end SwitchedOff

end Adpf
