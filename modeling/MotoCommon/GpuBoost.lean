/-
**The GPU's capacity follows the votes.**

The capacity is written whenever a session is refreshed, and only then.  Its votes change when a vote
about the GPU is set or has timed out, and also at the beginning of every report, which disables the
boosts without a refresh.  This module follows the capacity through whole runs: it is the one that
the sessions ask for, as long as every report leaves the requests as they were or ends with a new
vote about the GPU.

Main definitions:

* `Adpf.World.FreshGpu` — the last capacity is what the sessions asked for at a time that is not
  before any of their active votes;
* `Adpf.World.GpuFollows` — the capacity is fresh, unless one of the sessions in a list is there;
* `Adpf.KeepsGpuBoost` — the operations, with the condition on reports.

Main results:

* `Adpf.World.GpuFollows.apply` — a refresh makes the capacity fresh;
* `Adpf.gpu_boost_consistent` — **the last capacity is the one that the votes ask for**, over whole
  runs.
-/

import MotoCommon.CpuBoost
import MotoCommon.GpuCapacity

set_option autoImplicit false

namespace Adpf

open Conc SessionTaskMap

/-! ### The votes about the GPU -/

namespace SessionTaskMap

variable {m m' : SessionTaskMap}

/-- The votes of a session about the GPU. -/
def gpuVotes? (m : SessionTaskMap) (s : ℤ) : Option (UMap ℤ GpuVote) :=
  (m.votes? s).map Votes.mGpuVotes

/-- The active votes about the GPU have started by the time `t`. -/
def GpuStartedBy (m : SessionTaskMap) (t : ℤ) : Prop :=
  ∀ s votes id v, m.gpuVotes? s = some votes → votes.lookup id = some v → v.mActive = true →
    v.mStartTime ≤ t

/-- What a session asks for depends on its votes about the GPU, and on these as long as none of the
active ones starts or ends. -/
theorem request_eq_of_gpuVotes {s t t' : ℤ} (h : m'.gpuVotes? s = m.gpuVotes? s)
    (hrange : ∀ votes id v, m.gpuVotes? s = some votes → votes.lookup id = some v →
      v.isTimeInRange t' = v.isTimeInRange t) : m'.request s t' = m.request s t := by
  unfold request gpuVotes? at *
  cases hvs : m.votes? s with
  | none =>
      rw [hvs, Option.map_none, Option.map_eq_none_iff] at h
      rw [h]
      rfl
  | some vs =>
      rw [hvs] at h hrange
      obtain ⟨vs', hvs', hsame⟩ := Option.map_eq_some_iff.1 h
      rw [hvs']
      refine congrArg (fun r => Option.getD r 0) (Votes.getGpuCapacityRequest_congr ?_)
      intro hint _ res
      unfold Votes.addCapacity
      rw [hsame]
      cases hl : vs.mGpuVotes.lookup hint.toInt with
      | none => rfl
      | some v =>
          dsimp only
          rw [hrange vs.mGpuVotes hint.toInt v rfl hl]

theorem findSession_eq_none_of_gpuVotes {s : ℤ} (h : m'.gpuVotes? s = m.gpuVotes? s) :
    m'.findSession s = none ↔ m.findSession s = none := by
  rw [← votes?_eq_none, ← votes?_eq_none, ← Option.map_eq_none_iff (f := Votes.mGpuVotes),
    ← Option.map_eq_none_iff (f := Votes.mGpuVotes) (x := m.votes? s)]
  exact iff_of_eq (congrArg (· = none) h)

theorem GpuStartedBy.of_same {t : ℤ} (h : m.GpuStartedBy t)
    (hvotes : ∀ s, m'.gpuVotes? s = m.gpuVotes? s) : m'.GpuStartedBy t :=
  fun s votes id v hv => h s votes id v (hvotes s ▸ hv)

theorem GpuStartedBy.mono {t t' : ℤ} (h : m.GpuStartedBy t) (hle : t ≤ t') : m.GpuStartedBy t' :=
  fun s votes id v hv hl hact => (h s votes id v hv hl hact).trans hle

theorem gpuVotes?_congr (h : ∀ s, m'.votes? s = m.votes? s) (s : ℤ) :
    m'.gpuVotes? s = m.gpuVotes? s := by
  unfold gpuVotes?
  rw [h]

end SessionTaskMap

namespace World

variable {w w' : World} {s : ℤ} {X Y : List ℤ}

/-- The votes of a session are changed, and those that are active then are old or have started. -/
theorem gpuStartedBy_writeVotes {t : ℤ} {f : Votes → Votes} (h : w.mSessionTaskMap.GpuStartedBy t)
    (hwf : Wf w.mSessionTaskMap)
    (hf : ∀ vs v r, (f vs).timing? v = some r → r.mActive = true →
      vs.timing? v = some r ∨ r.mStartTime ≤ t) :
    (w.writeVotes s f).mSessionTaskMap.GpuStartedBy t := by
  intro s' votes id v hv hl hact
  unfold gpuVotes? at hv
  rw [votes?_writeVotes hwf] at hv
  by_cases hs : s' = s
  · rw [if_pos hs] at hv
    obtain ⟨vs', hvs', rfl⟩ := Option.map_eq_some_iff.1 hv
    obtain ⟨vs, hvs, rfl⟩ := Option.map_eq_some_iff.1 hvs'
    rcases hf vs id v.toVoteRange (Votes.timing?_of_gpu hl) hact with hold | hle
    · -- the timing is that of a vote about the GPU
      have hid := (f vs).gpu_ids id (UMap.mem_of_lookup hl)
      rw [Votes.timing?, if_pos hid] at hold
      obtain ⟨v₀, hl₀, hsame⟩ := Option.map_eq_some_iff.1 hold
      have hv₀ : w.mSessionTaskMap.gpuVotes? s = some vs.mGpuVotes := by
        unfold gpuVotes?
        rw [hvs]
        rfl
      have hle := h s vs.mGpuVotes id v₀ hv₀ hl₀ (by rw [hsame, hact])
      rwa [hsame] at hle
    · exact hle
  · rw [if_neg hs] at hv
    exact h s' votes id v hv hl hact

/-! ### A fresh capacity -/

/-- The capacity is fresh when the last one is what the sessions asked for at a time that is past, but
not before the start of any active vote about the GPU; or when there is neither a capacity nor a
session. -/
def FreshGpu (w : World) : Prop :=
  (w.gpuWrites = [] ∧ ∀ s, w.mSessionTaskMap.findSession s = none) ∨
    ∃ t ≤ w.clock, w.gpuWrites.head? = some (w.mSessionTaskMap.getSessionsGpuCapacity t) ∧
      w.mSessionTaskMap.GpuStartedBy t

theorem FreshGpu.of_same (h : w.FreshGpu) (hwrites : w'.gpuWrites = w.gpuWrites)
    (hclock : w.clock ≤ w'.clock)
    (hvotes : ∀ s, w'.mSessionTaskMap.gpuVotes? s = w.mSessionTaskMap.gpuVotes? s) : w'.FreshGpu := by
  rcases h with ⟨hnil, hnone⟩ | ⟨t, ht, hwrite, hstart⟩
  · left
    exact ⟨hwrites.trans hnil, fun s => (findSession_eq_none_of_gpuVotes (hvotes s)).2 (hnone s)⟩
  · right
    refine ⟨t, ht.trans hclock, ?_, hstart.of_same hvotes⟩
    rw [hwrites, hwrite, getSessionsGpuCapacity_congr fun s =>
      request_eq_of_gpuVotes (hvotes s) fun _ _ _ _ _ => rfl]

/-- Between operations: the maps are well formed, capacities are written, no active vote about the
GPU starts later than now, and the capacity is fresh unless a session of the list `stale` is
there. -/
structure GpuFollows (stale : List ℤ) (w : World) : Prop where
  wf : Wf w.mSessionTaskMap
  writes : w.WritesGpu
  started : w.mSessionTaskMap.GpuStartedBy w.clock
  fresh : (∀ s ∈ stale, w.mSessionTaskMap.findSession s = none) → w.FreshGpu

namespace GpuFollows

theorem mono (h : GpuFollows X w) (hXY : X ⊆ Y) : GpuFollows Y w where
  wf := h.wf
  writes := h.writes
  started := h.started
  fresh := fun hstale => h.fresh fun s hs => hstale s (hXY hs)

theorem absent (h : GpuFollows [s] w) (hs : w.mSessionTaskMap.findSession s = none) :
    GpuFollows [] w where
  wf := h.wf
  writes := h.writes
  started := h.started
  fresh := fun _ => h.fresh fun _ hs' => List.mem_singleton.1 hs' ▸ hs

/-- A step that writes no capacity: it may change the votes of the sessions `Y`. -/
theorem step (h : GpuFollows X w) (hwf : Wf w'.mSessionTaskMap) (hframe : Frame w w')
    (hwrites : w'.gpuWrites = w.gpuWrites) (hstarted : w'.mSessionTaskMap.GpuStartedBy w'.clock)
    (hvotes : (∀ s ∈ Y, w'.mSessionTaskMap.findSession s = none) →
      (∀ s ∈ X, w.mSessionTaskMap.findSession s = none) ∧
        ∀ s, w'.mSessionTaskMap.gpuVotes? s = w.mSessionTaskMap.gpuVotes? s) : GpuFollows Y w' where
  wf := hwf
  writes := h.writes.of_frame hframe
  started := hstarted
  fresh := by
    intro hstale
    obtain ⟨hX, hsame⟩ := hvotes hstale
    exact (h.fresh hX).of_same hwrites hframe.clock hsame

/-- A step that leaves the votes and the capacity alone. -/
theorem of_same (h : GpuFollows X w) (hwf : Wf w'.mSessionTaskMap) (hframe : Frame w w')
    (hwrites : w'.gpuWrites = w.gpuWrites)
    (hvotes : ∀ s, w'.mSessionTaskMap.votes? s = w.mSessionTaskMap.votes? s) : GpuFollows X w' := by
  have hgpu := gpuVotes?_congr hvotes
  refine h.step hwf hframe hwrites ((h.started.of_same hgpu).mono hframe.clock) fun hstale => ?_
  exact ⟨fun s hs => (findSession_eq_none_of_gpuVotes (hgpu s)).1 (hstale s hs), hgpu⟩

theorem detached (X : List ℤ) : Detached (GpuFollows X) where
  aside := by
    intro w w' ha h
    refine h.of_same (ha.map ▸ h.wf) ⟨ha.env, ha.adpfConfig, ha.clock⟩ ha.gpuWrites fun s => ?_
    rw [ha.map]
  events := fun d q r h => ⟨h.wf, ⟨h.writes.node, h.writes.boostOn⟩, h.started, h.fresh⟩

theorem calm (X : List ℤ) : Calm (GpuFollows X) := (detached X).calm

/-! ### Refreshing -/

/-- A refresh that writes the capacity of the present makes it fresh. -/
theorem written {t : ℤ} (h : GpuFollows X w) (hr : Refreshes w w') (hout : OnlyOutputs w w')
    (ht : t = w.clock)
    (hwrite : w'.gpuWrites.head? = some (w.mSessionTaskMap.getSessionsGpuCapacity t)) :
    GpuFollows [] w' := by
  have hstart := h.started.of_same (gpuVotes?_congr hr.votes?)
  have hclock := hout.frame.clock
  refine ⟨hr.wf, h.writes.of_frame hout.frame, hstart.mono hclock, fun _ => Or.inr ?_⟩
  refine ⟨w.clock, hclock, ?_, hstart⟩
  rw [hwrite, ht, hr.getSessionsGpuCapacity]

/-- **A refresh of a session makes the capacity fresh.** -/
theorem apply (h : GpuFollows [s] w) : GpuFollows [] (w.applyVotes s w.clock) := by
  cases hp : w.mSessionTaskMap.findSession s with
  | none =>
      have hsame : w.applyVotes s w.clock = w := by
        simp only [World.applyVotes, World.applyUclampLocked, World.applyGpuVotesLocked, hp]
      rw [hsame]
      exact h.absent hp
  | some p =>
      have hs : w.mSessionTaskMap.findSession s ≠ none := by simp [hp]
      refine h.written (applyVotes_refreshes h.wf s w.clock) (onlyOutputs_applyVotes w s w.clock) rfl ?_
      rw [applyVotes_gpuWrites h.wf h.writes hs, List.head?_cons]

theorem forceSection (h : GpuFollows X w) (s : ℤ) (b : Bool) :
    GpuFollows X (w.forceSection s b).2 := by
  have honly := onlyMap_forceSection w s b
  refine h.of_same (wf_forceSection h.wf s b) honly.frame ?_ (votes?_forceSection w s b)
  rw [honly]

theorem replaceSection (h : GpuFollows X w) (s : ℤ) (tids : List ℤ) :
    GpuFollows X (w.replaceSection s tids).2 :=
  h.of_same (wf_replaceSection h.wf s tids) ⟨rfl, rfl, le_rfl⟩ rfl fun s' =>
    h.wf.votes?_replace s tids [] [] s'

/-- A new session makes the capacity stale, and has no vote about the GPU. -/
theorem addSection (h : GpuFollows [] w) (desc : AppHintDesc) (t : ℤ) :
    GpuFollows [desc.sessionId] (w.addSection desc t) := by
  refine h.step (wf_addSection h.wf desc t) ⟨rfl, rfl, le_rfl⟩ rfl ?_ ?_
  · intro s votes id v hv hl hact
    unfold gpuVotes? at hv
    rw [votes?_addSection h.wf] at hv
    split at hv
    · rw [Option.map_some, newVotes, Votes.mGpuVotes_addCpu] at hv
      rw [← Option.some.inj hv] at hl
      cases hl
    · exact h.started s votes id v hv hl hact
  · intro hstale
    have hnone := hstale desc.sessionId (List.mem_singleton_self _)
    rw [← votes?_eq_none, votes?_addSection h.wf] at hnone
    split at hnone
    · cases hnone
    case isFalse hnot => exact absurd ⟨rfl, votes?_eq_none.1 hnone⟩ hnot

/-! ### Votes -/

/-- The votes of a session are changed: those that are active then are old or have started, and the
capacity is stale, unless no vote about the GPU changed. -/
theorem writeVotes (h : GpuFollows X w) (f : Votes → Votes)
    (hX : s ∈ X ∨ ∀ vs, (f vs).mGpuVotes = vs.mGpuVotes)
    (hf : ∀ vs v r, (f vs).timing? v = some r → r.mActive = true →
      vs.timing? v = some r ∨ r.mStartTime ≤ w.clock) : GpuFollows X (w.writeVotes s f) := by
  have honly := onlyMap_writeVotes w s f
  have hframe := honly.frame
  have hwf := wf_writeVotes h.wf s f
  rw [OnlyMap] at honly
  refine h.step hwf hframe (by rw [honly]) ?_ ?_
  · exact (gpuStartedBy_writeVotes h.started h.wf hf).mono hframe.clock
  · intro hstale
    have hfind : ∀ s', (w.writeVotes s f).mSessionTaskMap.findSession s' =
        w.mSessionTaskMap.findSession s' := findSession_writeVotes w s f
    refine ⟨fun s' hs' => (hfind s') ▸ hstale s' hs', fun s' => ?_⟩
    unfold gpuVotes?
    rw [votes?_writeVotes h.wf]
    by_cases hs : s' = s
    · rw [if_pos hs, Option.map_map, hs]
      rcases hX with hmem | hgpu
      · have hnone := hstale s hmem
        rw [hfind, ← votes?_eq_none] at hnone
        rw [hnone]
        rfl
      · rw [show Votes.mGpuVotes ∘ f = Votes.mGpuVotes from funext hgpu]
    · rw [if_neg hs]

theorem voteCpu (h : GpuFollows X w) {e : Timeout} (he : e.timeStamp = w.clock) (d lo hi : ℤ) :
    GpuFollows X (w.voteSection e d (.cpu lo hi)).2 := by
  rcases voteSection_cases w e d (.cpu lo hi) with ⟨-, heq⟩ | ⟨p, decided, hp, heq⟩
  · rw [heq]
    exact h
  · have hwrite : GpuFollows X (w.writeVotes e.sessionId (Ballot.add e d (.cpu lo hi))) :=
      h.writeVotes _ (Or.inr fun vs => Votes.mGpuVotes_addCpu vs _ _) fun vs v r hr _ =>
        Boosted.timing?_add he d _ vs v r hr
    have hr := voted_refreshes h.wf hp d (.cpu lo hi)
    have hframe := (onlyOutputs_voted_writeVotes w e d (.cpu lo hi) p).frame
    have hvoted : GpuFollows X (w.voted e d (.cpu lo hi) p) :=
      hwrite.of_same hr.wf hframe (applyUclampLocked_outputs _ _ _).2 hr.votes?
    rw [heq]
    exact (calm X).events _ _ _ hvoted

/-- A vote about the GPU writes the capacity, whatever was left to be refreshed about the session. -/
theorem voteGpu (h : GpuFollows [s] w) {e : Timeout} (hs : e.sessionId = s)
    (he : e.timeStamp = w.clock) (d c : ℤ) : GpuFollows [] (w.voteSection e d (.gpu c)).2 := by
  rcases voteSection_cases w e d (.gpu c) with ⟨hp, heq⟩ | ⟨p, decided, hp, heq⟩
  · rw [heq]
    exact h.absent (hs ▸ hp)
  · have hwrite : GpuFollows [s] (w.writeVotes e.sessionId (Ballot.add e d (.gpu c))) :=
      h.writeVotes _ (Or.inl (List.mem_singleton.2 hs)) fun vs v r hr _ =>
        Boosted.timing?_add he d _ vs v r hr
    have hp' := (findSession_writeVotes w e.sessionId (Ballot.add e d (.gpu c)) e.sessionId).trans hp
    have htouch := touch_refreshes hwrite.wf hp' e.timeStamp
    have hclock : e.timeStamp = (w.writeVotes e.sessionId (Ballot.add e d (.gpu c))).clock := by
      rw [he, onlyMap_writeVotes]
    have hfind : (World.touch p e.timeStamp (w.writeVotes e.sessionId
        (Ballot.add e d (.gpu c)))).mSessionTaskMap.findSession e.sessionId ≠ none := by
      intro hn
      rw [htouch.findSession, hp'] at hn
      cases hn
    have hgpu : (World.touch p e.timeStamp (w.writeVotes e.sessionId
        (Ballot.add e d (.gpu c)))).WritesGpu := ⟨hwrite.writes.node, hwrite.writes.boostOn⟩
    have hvoted : GpuFollows [] (w.voted e d (.gpu c) p) := by
      refine hwrite.written (voted_refreshes h.wf hp d (.gpu c))
        (onlyOutputs_voted_writeVotes w e d (.gpu c) p) hclock ?_
      have hwrites := applyGpuVotesLocked_gpuWrites hgpu hfind e.timeStamp
      rw [htouch.getSessionsGpuCapacity] at hwrites
      exact congrArg List.head? hwrites
    rw [heq]
    exact (calm []).events _ _ _ hvoted

theorem stable : Stable (GpuFollows []) where
  toCalm := calm []
  vote := by
    intro s v d b w h
    cases b with
    | cpu lo hi => exact h.voteCpu rfl d lo hi
    | gpu c => exact (h.mono (List.nil_subset [s])).voteGpu rfl rfl d c

/-- Votes that are switched off are not active; the others are as they were. -/
theorem timing?_disabled (vs : Votes) (v : ℤ) (r : VoteRange)
    (hr : (vs.turnOff disabledBoosts).timing? v = some r) (hact : r.mActive = true) :
    vs.timing? v = some r := by
  rw [Votes.timing?_turnOff] at hr
  split at hr
  · obtain ⟨r₀, -, rfl⟩ := Option.map_eq_some_iff.1 hr
    cases hact
  · exact hr

/-- The boosts are disabled: the capacity may be stale. -/
theorem disableSection (h : GpuFollows [] w) (s : ℤ) : GpuFollows [s] (w.disableSection s) := by
  rw [disableSection_eq]
  exact (h.mono (List.nil_subset [s])).writeVotes _ (Or.inl (List.mem_singleton_self s))
    fun vs v r hr hact => Or.inl (timing?_disabled vs v r hr hact)

/-- The boosts are disabled where that changes no capacity. -/
theorem disableSection_of_keeps (h : GpuFollows [] w)
    (hkeeps : ∀ t, (w.disableSection s).mSessionTaskMap.getSessionsGpuCapacity t =
      w.mSessionTaskMap.getSessionsGpuCapacity t) : GpuFollows [] (w.disableSection s) := by
  have hstale := h.disableSection s
  have honly := onlyMap_writeVotes w s fun vs => vs.turnOff disabledBoosts
  have hframe := honly.frame
  rw [OnlyMap, ← disableSection_eq] at honly
  refine ⟨hstale.wf, hstale.writes, hstale.started, fun _ => ?_⟩
  have hwrites : (w.disableSection s).gpuWrites = w.gpuWrites := by rw [honly]
  rcases h.fresh (by simp) with ⟨hnil, hnone⟩ | ⟨t, ht, hwrite, hstart⟩
  · left
    refine ⟨hwrites.trans hnil, fun s' => ?_⟩
    rw [disableSection_eq, findSession_writeVotes]
    exact hnone s'
  · right
    refine ⟨t, ht.trans hframe.clock, ?_, ?_⟩
    · rw [hwrites, hwrite, hkeeps]
    · rw [disableSection_eq]
      exact gpuStartedBy_writeVotes hstart h.wf fun vs v r hr hact =>
        Or.inl (timing?_disabled vs v r hr hact)

theorem expireSection (h : GpuFollows [] w) (e : Timeout) :
    GpuFollows [e.sessionId] (w.expireSection e w.clock).2 := by
  have h' := h.mono (List.nil_subset [e.sessionId])
  rcases expireSection_world w e w.clock with ⟨decided, heq⟩ | heq
  · rw [heq]
    exact (calm _).events decided w.queue _ h'
  · rw [heq]
    have hev : GpuFollows [e.sessionId] { w with running := w.running.erase e } :=
      (calm _).events w.decided w.queue _ h'
    refine hev.writeVotes _ (Or.inl (List.mem_singleton_self _)) fun vs v r hr hact => ?_
    rw [timing?_setUseVote] at hr
    split at hr
    · obtain ⟨r₀, -, rfl⟩ := Option.map_eq_some_iff.1 hr
      cases hact
    · exact Or.inl hr

end GpuFollows

end World

/-! ### Whole operations -/

section Operations

open World Prog PowerSessionManager PowerHintSession

variable {s : ℤ}

theorem forceSessionActive_gpuFollows (s : ℤ) (b : Bool) :
    Triple (GpuFollows [s]) (forceSessionActive s b) fun _ => GpuFollows [] :=
  forceSessionActive_triple (GpuFollows.calm [s]) (GpuFollows.calm []) s b
    (fun _ h => h.forceSection s b) (fun _ h hp => h.absent hp) fun _ h => h.apply

theorem setThreadsFromPowerSession_gpuFollows (s : ℤ) (tids : List ℤ) :
    Triple (GpuFollows [s]) (setThreadsFromPowerSession s tids) fun _ => GpuFollows [] :=
  setThreadsFromPowerSession_triple (GpuFollows.detached [s]).unprofiled s tids
    (forceSessionActive_gpuFollows s false)
    (fun _ h => (h.mono (List.nil_subset [s])).replaceSection s tids)
    (forceSessionActive_gpuFollows s true)

theorem addPowerSession_gpuFollows (desc : AppHintDesc) (tids : List ℤ) :
    Triple (GpuFollows []) (addPowerSession (some desc) tids) fun _ => GpuFollows [] :=
  addPowerSession_triple (GpuFollows.calm []) desc tids (fun w h => h.addSection desc w.clock)
    (setThreadsFromPowerSession_gpuFollows desc.sessionId tids)

theorem handleEvent_gpuFollows (e : Timeout) :
    Triple (GpuFollows []) (handleEvent e) fun _ => GpuFollows [] :=
  handleEvent_triple (GpuFollows.calm []) e (fun _ h _ => h.expireSection e) fun _ h => h.apply

/-- A report that leaves the requests as they are. -/
theorem acceptReport_of_keeps (s : ℤ) (ds : List WorkDuration) (back : WorkDuration) {w : World}
    (h : GpuFollows [] w)
    (hkeeps : ∀ t, (w.disableSection s).mSessionTaskMap.getSessionsGpuCapacity t =
      w.mSessionTaskMap.getSessionsGpuCapacity t) :
    GpuFollows [] ((acceptReport s ds back).post w) := by
  -- the map is the same until the boosts are disabled
  let I : World → Prop := fun w' => GpuFollows [] w' ∧ w'.mSessionTaskMap = w.mSessionTaskMap
  have hI : Calm I := (GpuFollows.calm []).and
    ⟨fun hq hw => hq.map.trans hw, fun _ _ _ hw => hw⟩
  have hdisable : ∀ w', I w' → GpuFollows [] (w'.disableSection s) := by
    rintro w' ⟨hw', hmap⟩
    refine hw'.disableSection_of_keeps fun t => ?_
    have hmap' : (w'.disableSection s).mSessionTaskMap = (w.disableSection s).mSessionTaskMap := by
      simp only [World.disableSection, hmap]
      split
      · exact hmap
      · simp only [modifyMap, hmap]
    rw [hmap', hmap]
    exact hkeeps t
  have htriple : Triple I (acceptReport s ds back) fun _ => GpuFollows [] := by
    refine Triple.bind hI.getAdpfProfile fun c => ?_
    refine Triple.bind (beginReport_triple hI s hdisable) fun _ => ?_
    refine Triple.bind ((GpuFollows.stable.on s).reportVotes
      (fun w => (GpuFollows.detached []).aside (.readGpuFrequency w)) c ds
      ((GpuFollows.detached []).recordDurations s ds) back) fun _ => ?_
    exact Triple.ret fun _ hw => hw
  exact htriple w ⟨h, rfl⟩

/-- The capacity follows the votes but for those of the list, and the GPU's frequency was read `n`
times. -/
def GpuFollowsAt (n : ℕ) (env : Env) (X : List ℤ) (w : World) : Prop :=
  GpuFollows X w ∧ (w.gpuReads, w.env) = (n, env)

theorem GpuFollowsAt.calm (n : ℕ) (env : Env) (X : List ℤ) : Calm (GpuFollowsAt n env X) :=
  (GpuFollows.calm X).and
    ⟨fun hq hw => (congrArg₂ Prod.mk hq.gpuReads hq.env).trans hw, fun _ _ _ hw => hw⟩

/-- Actions that do not read the frequency. -/
theorem Action.reads_eq {A : Special → Prop} (hA : ¬ A .frequency) {w w' : World}
    (h : Action A w w') : (w'.gpuReads, w'.env) = (w.gpuReads, w.env) :=
  congrArg₂ Prod.mk (h.gpuReads hA) h.env

theorem GpuFollowsAt.recordDurations (n : ℕ) (env : Env) (X : List ℤ) (s : ℤ)
    (ds : List WorkDuration) :
    Triple (GpuFollowsAt n env X) (recordDurations s ds) fun _ => GpuFollowsAt n env X := by
  have hwithin : (PowerHintSession.recordDurations s ds).Within (Action fun k => k = .records) :=
    recordDurations_within (A := fun k => k = .records) rfl s ds
  have hreads := (hwithin.mono fun _ _ h => h.reads_eq (by simp)).triple_eq (n, env)
  exact ((GpuFollows.detached X).recordDurations s ds).and hreads

theorem GpuFollowsAt.voteCpu (n : ℕ) (env : Env) (X : List ℤ) (s : ℤ) (v : AdpfVoteType)
    (lo hi d : ℤ) (w : World) (h : GpuFollowsAt n env X w) :
    GpuFollowsAt n env X (w.voteSection (timeoutOf s v w.clock d) d (.cpu lo hi)).2 := by
  have hvote : Action (fun _ => False) w (w.voteSection (timeoutOf s v w.clock d) d (.cpu lo hi)).2 :=
    .vote _ d _ w rfl
  exact ⟨h.1.voteCpu rfl d lo hi, (hvote.reads_eq id).trans h.2⟩

/-- The vote about the GPU that a report ends with. -/
theorem reportGpu_gpuFollows {n : ℕ} {env : Env} {freq : ℤ} (hfreq : env.gpuFrequency n = some freq)
    (s : ℤ) {c : AdpfConfig} {back : WorkDuration} {capacityMax : ℤ}
    (hmax : gpuCapacityMax c back = some capacityMax) :
    Triple (GpuFollowsAt n env [s]) (reportGpu s c back) fun _ => GpuFollows [] := by
  unfold reportGpu
  rw [hmax]
  refine Triple.bind (Q := fun gpu_freq w => GpuFollows [s] w ∧ gpu_freq = some freq)
    (Triple.atomic ?_) fun gpu_freq => ?_
  · rintro w ⟨hw, hreads⟩
    obtain ⟨hn, henv⟩ := Prod.mk.inj hreads
    refine ⟨(GpuFollows.detached [s]).aside (.readGpuFrequency w) hw, ?_⟩
    simp only [readGpuFrequency, hw.writes.node, hn]
    rw [henv]
    exact hfreq
  · cases gpu_freq with
    | none => exact fun w hw => absurd hw.2 (by simp)
    | some f =>
        refine Triple.bind (Q := fun _ => GpuFollows [s]) (Triple.read fun w hw => hw.1) fun _ => ?_
        refine Triple.bind (Q := fun _ => GpuFollows [s]) (Triple.read fun w hw => hw) fun _ => ?_
        exact voteNow_triple (GpuFollows.calm [s]) (GpuFollows.calm []) s _ _ _ fun w hw =>
          hw.voteGpu rfl rfl _ _

/-- A report that ends with a vote about the GPU. -/
theorem acceptReport_of_renews (s : ℤ) (ds : List WorkDuration) (back : WorkDuration) {w : World}
    (h : GpuFollows [] w) (hpid : w.adpfConfig.mPidOn = true)
    (hmax : gpuCapacityMax w.adpfConfig back ≠ none) (hfreq : w.env.gpuFrequency w.gpuReads ≠ none) :
    GpuFollows [] ((acceptReport s ds back).post w) := by
  obtain ⟨capacityMax, hmax⟩ := Option.ne_none_iff_exists'.1 hmax
  obtain ⟨freq, hfreq⟩ := Option.ne_none_iff_exists'.1 hfreq
  let I := GpuFollowsAt w.gpuReads w.env
  have hcalm : ∀ X, Calm (I X) := GpuFollowsAt.calm w.gpuReads w.env
  have hdisable : ∀ w', I [] w' → I [s] (w'.disableSection s) := by
    intro w' hw'
    have haction : Action (fun _ => False) w' (w'.disableSection s) := .disable s w'
    exact ⟨hw'.1.disableSection s, (haction.reads_eq id).trans hw'.2⟩
  refine acceptReport_post (hcalm []) ⟨h, rfl⟩ hdisable ?_
  unfold reportVotes
  rw [if_pos hpid]
  refine Triple.bind (reportCpu_triple (hcalm [s]) (hcalm [s]) s _ ds ?_ ?_) fun _ =>
    reportGpu_gpuFollows hfreq s hmax
  · exact Triple.when (fun _ => GpuFollowsAt.recordDurations _ _ _ s ds) fun _ _ hw' => hw'
  · exact fun lo hi w' hw' => GpuFollowsAt.voteCpu _ _ _ s _ lo hi _ w' hw'

end Operations

/-- The operations that the capacity is followed through: sessions are created, get threads, report
and send hints, and the worker handles timeout events.  A report that is accepted must leave the
capacity that the sessions ask for as it is when it disables the boosts, or end with a vote about
the GPU. -/
def KeepsGpuBoost (w : World) : Op → Prop
  | .create _ _ _ _ => True
  | .session _ (.setThreads _) => True
  | .session s (.reportActualWorkDuration ds) => ∀ back, w.Accepts s ds back →
      (∀ t, (w.disableSection s).mSessionTaskMap.getSessionsGpuCapacity t =
        w.mSessionTaskMap.getSessionsGpuCapacity t) ∨
      (w.adpfConfig.mPidOn = true ∧ PowerHintSession.gpuCapacityMax w.adpfConfig back ≠ none ∧
        w.env.gpuFrequency w.gpuReads ≠ none)
  | .session _ (.sendHint hint) => hint ≠ .POWER_EFFICIENCY
  | .worker _ => True
  | _ => False

theorem KeepsGpuBoost.boosts {w : World} {op : Op} (h : KeepsGpuBoost w op) : op.Boosts := by
  cases op with
  | create tgid uid tids d => trivial
  | session s op =>
      cases op with
      | setThreads tids => trivial
      | reportActualWorkDuration ds => trivial
      | sendHint hint => exact h
      | _ => exact h.elim
  | dumpToStream s => exact h.elim
  | manager op => exact h.elim
  | worker i => trivial

open World Prog in
/-- **Every such operation leaves the capacity fresh.** -/
theorem Op.gpuFollows (op : Op) {w : World} (hop : KeepsGpuBoost w op) (h : GpuFollows [] w) :
    GpuFollows [] (op.prog.post w) := by
  have hskip : ∀ {α : Type} (_ : α),
      Triple (GpuFollows []) (Prog.ret () : P Unit) fun _ => GpuFollows [] :=
    fun _ => Triple.ret fun _ hw => hw
  have hcalm := GpuFollows.calm []
  have hstable := GpuFollows.stable
  cases op with
  | create tgid uid tids d =>
      refine Triple.bind (create_triple (fun _ => hcalm) hstable tgid uid tids d ?_ ?_) hskip w h
      · exact fun w h => (GpuFollows.detached []).aside (.newSession w tgid uid tids d) h
      · exact fun sid self => (addPowerSession_gpuFollows self.mDescriptor tids).imp (fun _ h => h.1)
          fun _ _ h => h
  | session s op =>
      cases op with
      | setThreads tids =>
          refine Triple.bind (setThreads_triple hcalm hstable s tids (fun _ h _ => h) fun _ _ => ?_)
            hskip w h
          exact (setThreadsFromPowerSession_gpuFollows s tids).imp
            (fun _ h => h.1.mono (List.nil_subset [s])) fun _ _ h => h
      | reportActualWorkDuration ds =>
          rw [Op.post_session, SessionOp.prog]
          by_cases haccept : ∃ back, w.Accepts s ds back
          · obtain ⟨back, hback⟩ := haccept
            rw [report_post_of_accepts hback]
            rcases hop back hback with hkeeps | ⟨hpid, hmax, hfreq⟩
            · exact acceptReport_of_keeps s ds back h hkeeps
            · exact acceptReport_of_renews s ds back h hpid hmax hfreq
          · rw [report_post_of_refused fun back hback => haccept ⟨back, hback⟩]
            exact h
      | sendHint hint => exact Triple.bind ((hstable.on s).sendHint hop) hskip w h
      | _ => exact hop.elim
  | dumpToStream s => exact hop.elim
  | manager op => exact hop.elim
  | worker i => exact workerRound_triple hcalm i handleEvent_gpuFollows w h

/-! ### Whole runs -/

open World in
theorem World.GpuFollows.init {env : Env} {adpfConfig : AdpfConfig}
    (hnode : env.mGpuCapacityNode = some .node) (hon : adpfConfig.mGpuBoostOn ≠ none) :
    GpuFollows [] (World.init env adpfConfig) where
  wf := Wf.empty
  writes := ⟨hnode, hon⟩
  started := by
    intro s votes id v hv
    unfold gpuVotes? at hv
    rw [votes?_eq_none.2 rfl] at hv
    cases hv
  fresh := fun _ => Or.inl ⟨rfl, fun _ => rfl⟩

open World in
/-- A run of these operations keeps the capacity fresh and all votes covered. -/
theorem Runs.gpuFollows {w₁ w : World} (h : Runs KeepsGpuBoost w₁ w) (hs : w₁.Sound)
    (hg : GpuFollows [] w₁) : w.Sound ∧ GpuFollows [] w := by
  induction h with
  | init => exact ⟨hs, hg⟩
  | step op _ hop _ ih =>
      obtain ⟨hs', hg'⟩ := ih
      exact ⟨(op.post_sound hop.boosts.not_duration hs').1, op.gpuFollows hop hg'⟩

open World in
/-- While no event is due, a fresh capacity is the one that the sessions ask for. -/
theorem World.GpuFollows.head?_eq {w : World} (h : GpuFollows [] w) (hc : w.Covered) {t : ℤ}
    (ht : w.clock ≤ t) (hdue : ∀ e ∈ w.pending, t < e.deadline) :
    (w.gpuWrites = [] ∧ ∀ s, w.mSessionTaskMap.findSession s = none) ∨
      w.gpuWrites.head? = some (w.mSessionTaskMap.getSessionsGpuCapacity t) := by
  rcases h.fresh (by simp) with hnone | ⟨t₀, ht₀, hwrite, hstart⟩
  · exact Or.inl hnone
  · right
    rw [hwrite]
    refine congrArg some (getSessionsGpuCapacity_congr fun s => request_eq_of_gpuVotes rfl ?_)
    -- no active vote starts or ends between the last refresh and now
    intro votes id v hv hl
    cases hact : v.mActive with
    | false => rw [VoteRange.isTimeInRange_of_inactive hact, VoteRange.isTimeInRange_of_inactive hact]
    | true =>
        have hle := hstart s votes id v hv hl hact
        obtain ⟨vs, hvs, rfl⟩ := Option.map_eq_some_iff.1 hv
        obtain ⟨e, he, -, -, hend⟩ := hc s vs id v.toVoteRange hvs (Votes.timing?_of_gpu hl) hact
        have hlt := hdue e he
        have hnow : v.isTimeInRange t = true :=
          (VoteRange.isTimeInRange_iff _ t).2 ⟨hact, by omega, by omega⟩
        have hthen : v.isTimeInRange t₀ = true :=
          (VoteRange.isTimeInRange_iff _ t₀).2 ⟨hact, by omega, by omega⟩
        rw [hthen, hnow]

/-- **The capacity follows the votes.**  In every state that a run of the operations leads to whose
reports leave the requests alone or renew the vote about the GPU, and at every time at which no
timeout event is due, what was last written to the node is the capacity that the sessions ask for at
that time; unless nothing was written because there was no session yet. -/
theorem gpu_boost_consistent {env : Env} {adpfConfig : AdpfConfig}
    (hnode : env.mGpuCapacityNode = some .node) (hon : adpfConfig.mGpuBoostOn ≠ none) {w : World}
    (h : Runs KeepsGpuBoost (World.init env adpfConfig) w) {t : ℤ} (ht : w.clock ≤ t)
    (hdue : ∀ e ∈ w.pending, t < e.deadline) :
    (w.gpuWrites = [] ∧ ∀ s, w.mSessionTaskMap.findSession s = none) ∨
      w.gpuWrites.head? = some (w.mSessionTaskMap.getSessionsGpuCapacity t) := by
  obtain ⟨hs, hg⟩ := h.gpuFollows (World.Sound.init env adpfConfig) (World.GpuFollows.init hnode hon)
  exact hg.head?_eq hs.2 ht hdue

/-- A phone whose GPU runs at a frequency that can be read. -/
def gpuClockEnv : Env where
  gpuFrequency := fun _ => some 500000000
  mGpuCapacityNode := some .node

/-- A session has sent a hint about the GPU's load. -/
@[irreducible] def gpuLoaded : World :=
  (Op.session 1 (.sendHint .GPU_LOAD_UP)).prog.post
    ((Op.create 100 10000 [7] 16000000).prog.post (World.init gpuClockEnv gpuConfig))

/-- A cycle that took twenty milliseconds, of which the GPU had `gpu`. -/
def lateCycle (gpu : ℤ) : WorkDuration where
  timeStampNanos := 0
  durationNanos := 20000000
  cpuDurationNanos := 20000000 - gpu
  gpuDurationNanos := gpu

/-- The session reports that cycle. -/
@[irreducible] def gpuReported (gpu : ℤ) : World :=
  (Op.session 1 (.reportActualWorkDuration [lateCycle gpu])).prog.post gpuLoaded

theorem gpuLoaded_runs : Runs KeepsGpuBoost (World.init gpuClockEnv gpuConfig) gpuLoaded := by
  have hhint : SessionHint.GPU_LOAD_UP ≠ .POWER_EFFICIENCY := by decide
  unfold gpuLoaded
  exact (Runs.init.next _ trivial id).next _ hhint id

/-- The GPU had a part in the cycle that is reported: the vote for a capacity is renewed. -/
theorem gpu_boost_consistent_reported :
    (gpuReported 10000000).gpuWrites.head? = some 25000 := by
  have hreport : KeepsGpuBoost gpuLoaded (.session 1 (.reportActualWorkDuration [lateCycle 10000000])) := by
    rintro back ⟨-, -, hback⟩
    obtain rfl := Option.some.inj hback
    exact Or.inr ⟨by decide +kernel, by decide +kernel, by decide +kernel⟩
  have hruns : Runs KeepsGpuBoost (World.init gpuClockEnv gpuConfig) (gpuReported 10000000) := by
    unfold gpuReported
    exact gpuLoaded_runs.next _ hreport id
  rcases gpu_boost_consistent (by decide) (by decide) hruns le_rfl (by decide +kernel) with
    ⟨-, hnone⟩ | heq
  · exact absurd (hnone 1) (by decide +kernel)
  · rw [heq]
    decide +kernel

/-- The operations without a condition on reports. -/
def Op.GpuLive : Op → Prop
  | .create _ _ _ _ => True
  | .session _ (.setThreads _) => True
  | .session _ (.reportActualWorkDuration _) => True
  | .session _ (.sendHint hint) => hint ≠ .POWER_EFFICIENCY
  | .worker _ => True
  | _ => False

/-- The GPU had no part in the cycle that is reported: its boost is disabled, and nothing is due, but
the node still has the capacity. -/
theorem gpu_boost_stale :
    Runs (fun _ op => op.GpuLive) (World.init gpuClockEnv gpuConfig) (gpuReported 0) ∧
      (∀ e ∈ (gpuReported 0).pending, (gpuReported 0).clock < e.deadline) ∧
      (gpuReported 0).gpuWrites.head? = some 1000 ∧
      (gpuReported 0).mSessionTaskMap.getSessionsGpuCapacity (gpuReported 0).clock = 0 := by
  have hhint : SessionHint.GPU_LOAD_UP ≠ .POWER_EFFICIENCY := by decide
  refine ⟨?_, ?_⟩
  · unfold gpuReported gpuLoaded
    exact ((Runs.init.next _ trivial id).next _ hhint id).next _ trivial id
  · decide +kernel

end Adpf
