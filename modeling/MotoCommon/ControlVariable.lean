/-
**The control variable of a session.**

A session keeps the clamp that it votes for in `pidControlVariable`.  A report adds the output of the
controller to it and confines the sum between two values of the profile; the hints, `setThreads` and the
constructor write or vote for values of the profile, and one of them compares it as an unsigned number.

The sum is one of `int`s, and the output is narrowed to an `int` before: a large output may come out
negative, and the boost that should be the largest is then the smallest.  Whatever comes out, however, is
confined to clamps; so the control variable and the votes always are clamps.

Main definitions:

* `Adpf.AdpfConfig.uclampMinCeiling` — the largest boost;
* `Adpf.Saturates` — when the narrowed sum lies on the same side of the bounds as the sum;
* `Adpf.World.Fit` — profiles, control variables and votes are all made of clamps.

Main results:

* `Adpf.nextMin_eq_clamp_iff` — **when the next boost is the sum, confined to its bounds**;
* `Adpf.Op.upholdsFit` — every operation keeps a fit state fit, alone or among others;
* `Adpf.control_variable_stays_clamp` — **whole runs**: control variables and votes are clamps.
-/

import MotoCommon.RunRules
import MotoCommon.TimeoutProtocol

set_option autoImplicit false

namespace Adpf

open Conc Prog World SessionTaskMap

/-! ### The next boost -/

/-- `uclampMinCeiling` of `reportActualWorkDuration`. -/
def AdpfConfig.uclampMinCeiling (c : AdpfConfig) (heuristicBoostActive : Bool) : ℤ :=
  if c.heuristicBoostOn && heuristicBoostActive then c.mHBoostUclampMin.getD 0 else c.mUclampMinHigh

/-- A number that is a utilisation clamp. -/
def IsClamp (x : ℤ) : Prop := 0 ≤ x ∧ x ≤ 1024

/-- A sum, narrowed to an `int`, lies on the same side of two bounds as before: the bounds leave no
choice; or nothing is lost; or a sum that is too large is still above, one that is too small still
below. -/
def Saturates (low ceiling sum : ℤ) : Prop :=
  ceiling ≤ low ∨ (-2 ^ 31 ≤ sum ∧ sum < 2 ^ 31) ∨ (2 ^ 31 ≤ sum ∧ ceiling ≤ toInt32 sum) ∨
    (sum < -2 ^ 31 ∧ toInt32 sum ≤ low)

theorem isClamp_zero : IsClamp 0 := ⟨le_rfl, by decide⟩

theorem IsClamp.toInt32_eq {x : ℤ} (h : IsClamp x) : toInt32 x = x := by
  obtain ⟨hlo, hhi⟩ := h
  exact Adpf.toInt32_eq (by omega) (by omega)

theorem IsClamp.toUInt32_eq {x : ℤ} (h : IsClamp x) : toUInt32 x = x := by
  obtain ⟨hlo, hhi⟩ := h
  exact Adpf.toUInt32_eq hlo (by omega)

theorem IsClamp.toInt32 {x : ℤ} (h : IsClamp x) : IsClamp (toInt32 x) := by
  rw [h.toInt32_eq]
  exact h

theorem toInt32_add_toInt32 (x y : ℤ) : toInt32 (x + toInt32 y) = toInt32 (x + y) :=
  Int.add_bmod_bmod

section NextMin

variable {c : AdpfConfig} {active : Bool}

theorem AdpfConfig.isClamp_uclampMinCeiling (hhigh : IsClamp c.mUclampMinHigh)
    (hboost : ∀ v ∈ c.mHBoostUclampMin, IsClamp v) : IsClamp (c.uclampMinCeiling active) := by
  unfold AdpfConfig.uclampMinCeiling
  split
  · cases hv : c.mHBoostUclampMin with
    | none => exact isClamp_zero
    | some v => exact hboost v hv
  · exact hhigh

theorem nextMin_eq (hlow : IsClamp c.mUclampMinLow) (hceil : IsClamp (c.uclampMinCeiling active))
    (x output : ℤ) :
    nextMin c active x output =
      max c.mUclampMinLow (min (c.uclampMinCeiling active) (toInt32 (x + output))) := by
  have hnarrow : nextMin c active x output =
      max (toInt32 c.mUclampMinLow)
        (min (toInt32 (c.uclampMinCeiling active)) (toInt32 (x + toInt32 output))) := rfl
  rw [hnarrow, hlow.toInt32_eq, hceil.toInt32_eq, toInt32_add_toInt32]

/-- **When the next boost is the sum, confined to its bounds.**  For every control variable and every
output of the controller it is so exactly if the sum, narrowed to an `int`, lies on the same side of the
bounds as before.  Among such outputs a larger one does not lead to a smaller boost. -/
theorem nextMin_eq_clamp_iff (active : Bool) (hlow : IsClamp c.mUclampMinLow)
    (hhigh : IsClamp c.mUclampMinHigh) (hboost : ∀ v ∈ c.mHBoostUclampMin, IsClamp v) :
    (∀ x output,
      nextMin c active x output =
          max c.mUclampMinLow (min (c.uclampMinCeiling active) (x + output)) ↔
        Saturates c.mUclampMinLow (c.uclampMinCeiling active) (x + output)) ∧
    ∀ x output output', Saturates c.mUclampMinLow (c.uclampMinCeiling active) (x + output) →
      Saturates c.mUclampMinLow (c.uclampMinCeiling active) (x + output') → output ≤ output' →
      nextMin c active x output ≤ nextMin c active x output' := by
  have hceil : IsClamp (c.uclampMinCeiling active) := AdpfConfig.isClamp_uclampMinCeiling hhigh hboost
  have hiff : ∀ x output,
      nextMin c active x output =
          max c.mUclampMinLow (min (c.uclampMinCeiling active) (x + output)) ↔
        Saturates c.mUclampMinLow (c.uclampMinCeiling active) (x + output) := by
    intro x output
    have hbounds := toInt32_bounds (x + output)
    have hsmall : -2 ^ 31 ≤ x + output → x + output < 2 ^ 31 → toInt32 (x + output) = x + output :=
      toInt32_eq
    rw [nextMin_eq hlow hceil, Saturates]
    obtain ⟨hlow0, hlow1⟩ := hlow
    obtain ⟨hceil0, hceil1⟩ := hceil
    generalize toInt32 (x + output) = narrowed at hbounds hsmall ⊢
    omega
  refine ⟨hiff, fun x output output' hsat hsat' hle => ?_⟩
  rw [(hiff x output).2 hsat, (hiff x output').2 hsat']
  omega

end NextMin

/-- Clamps of the profile for tests. -/
theorem makeMockConfig_clamps :
    IsClamp makeMockConfig.mUclampMinLow ∧ IsClamp makeMockConfig.mUclampMinHigh ∧
      ∀ v ∈ makeMockConfig.mHBoostUclampMin, IsClamp v := by
  refine ⟨⟨by decide, by decide⟩, ⟨by decide, by decide⟩, ?_⟩
  rintro v ⟨⟩
  exact ⟨by decide, by decide⟩

/-- An output of 100 raises the boost by 100. -/
theorem nextMin_eq_clamp_small :
    IsClamp makeMockConfig.mUclampMinLow ∧ nextMin makeMockConfig false 162 100 = 262 ∧
      nextMin makeMockConfig false 162 100 ≤ nextMin makeMockConfig false 162 500 := by
  obtain ⟨hlow, hhigh, hboost⟩ := makeMockConfig_clamps
  have hclamp := nextMin_eq_clamp_iff false hlow hhigh hboost
  have hsat : ∀ output : ℤ, 0 ≤ output → output ≤ 500 →
      Saturates makeMockConfig.mUclampMinLow (makeMockConfig.uclampMinCeiling false) (162 + output) :=
    fun output h0 h1 => Or.inr (Or.inl ⟨by omega, by omega⟩)
  refine ⟨hlow, ((hclamp.1 162 100).2 (hsat 100 (by decide) (by decide))).trans (by decide), ?_⟩
  exact hclamp.2 162 100 500 (hsat 100 (by decide) (by decide)) (hsat 500 (by decide) (by decide))
    (by decide)

/-- A session with a target of 60 frames a second. -/
def mockDesc : AppHintDesc where
  sessionId := 1
  tgid := 100
  uid := 10000
  targetNs := 16666666
  thread_ids := [7]

/-- A report of a frame of almost fourteen hours: the output of the controller is no `int`, and the boost
becomes the smallest one instead of the largest.  A frame that is late by less gets more. -/
theorem nextMin_wraps :
    (convertWorkDurationToBoostByPid makeMockConfig false mockDesc [⟨0, 50000000000000, 0, 0⟩]).1 =
        2506023259 ∧
      nextMin makeMockConfig false 162 2506023259 = 2 ∧
      max makeMockConfig.mUclampMinLow
        (min (makeMockConfig.uclampMinCeiling false) (162 + 2506023259)) = 480 ∧
      nextMin makeMockConfig false 162 2506023259 < nextMin makeMockConfig false 162 100 := by
  refine ⟨by decide +kernel, by decide, by decide, by decide⟩

/-! ### Profiles, control variables and votes -/

/-- All the clamps of a profile that a session may vote for are clamps. -/
structure AdpfConfig.Clamps (c : AdpfConfig) : Prop where
  init : IsClamp c.mUclampMinInit
  high : IsClamp c.mUclampMinHigh
  low : IsClamp c.mUclampMinLow
  loadUp : IsClamp c.mUclampMinLoadUp
  loadReset : IsClamp c.mUclampMinLoadReset
  boost : ∀ v ∈ c.mHBoostUclampMin, IsClamp v

/-- Whatever the output of the controller is, the next boost is a clamp. -/
theorem AdpfConfig.Clamps.nextMin {c : AdpfConfig} (h : c.Clamps) (active : Bool) (x output : ℤ) :
    IsClamp (nextMin c active x output) := by
  have hceil : IsClamp (c.uclampMinCeiling active) :=
    AdpfConfig.isClamp_uclampMinCeiling h.high h.boost
  rw [nextMin_eq h.low hceil]
  obtain ⟨hlow0, hlow1⟩ := h.low
  obtain ⟨hceil0, hceil1⟩ := hceil
  exact ⟨by omega, by omega⟩

/-- A minimum that is a clamp, and the largest maximum. -/
def UclampRange.Fit (r : UclampRange) : Prop := IsClamp r.uclampMin ∧ r.uclampMax = 1024

/-- All CPU votes are fit. -/
def Votes.Fit (vs : Votes) : Prop := ∀ id v, vs.mCpuVotes.lookup id = some v → v.mUclampRange.Fit

/-- A vote for a capacity, or a fit range. -/
def World.Ballot.Fit : Ballot → Prop
  | .cpu lo hi => UclampRange.Fit ⟨lo, hi⟩
  | .gpu _ => True

theorem IsClamp.ballot {x : ℤ} (hx : IsClamp x) : (World.Ballot.cpu x kUclampMax).Fit := ⟨hx, rfl⟩

theorem World.Ballot.fit_gpu (capacity : ℤ) : (World.Ballot.gpu capacity).Fit := trivial

namespace Votes.Fit

variable {vs : Votes}

theorem addCpu (h : vs.Fit) {v : CpuVote} (hv : v.mUclampRange.Fit) (id : ℤ) : (vs.addCpu id v).Fit := by
  intro id' v' hlookup
  by_cases hg : isGpuVote id = true
  · rw [Votes.addCpu_of_gpu hg] at hlookup
    exact h id' v' hlookup
  · rw [Votes.mCpuVotes_addCpu (by simpa using hg)] at hlookup
    by_cases hid : id' = id
    · rw [hid, AList.lookup_insert] at hlookup
      obtain rfl := Option.some.inj hlookup
      exact hv
    · rw [AList.lookup_insert_ne hid] at hlookup
      exact h id' v' hlookup

theorem ballot (h : vs.Fit) {b : Ballot} (hb : b.Fit) (e : Timeout) (d : ℤ) : (b.add e d vs).Fit := by
  cases b with
  | cpu lo hi =>
      refine h.addCpu ?_ e.voteId
      exact hb
  | gpu c =>
      intro id v hlookup
      rw [Ballot.add, Votes.mCpuVotes_addGpu] at hlookup
      exact h id v hlookup

theorem modifyTiming (h : vs.Fit) (id : ℤ) (f : VoteRange → VoteRange) : (vs.modifyTiming id f).Fit := by
  intro id' v' hlookup
  rw [Votes.lookup_mCpuVotes_modifyTiming] at hlookup
  obtain ⟨v, hv, rfl⟩ := Option.map_eq_some_iff.1 hlookup
  have hfit := h id' v hv
  split
  · exact hfit
  · exact hfit

theorem turnOff (h : vs.Fit) (ids : List AdpfVoteType) : (vs.turnOff ids).Fit := by
  induction ids generalizing vs with
  | nil => exact h
  | cons id ids ih => exact ih (h.modifyTiming id.toInt _)

theorem newVotes (desc : AppHintDesc) (t : ℤ) : (World.newVotes desc t).Fit := by
  refine addCpu (fun id v hlookup => ?_) ⟨isClamp_zero, rfl⟩ _
  cases hlookup

end Votes.Fit

/-- Profiles, control variables and votes are all made of clamps. -/
structure World.Fit (w : World) : Prop where
  wf : Wf w.mSessionTaskMap
  profile : w.adpfConfig.Clamps
  profiles : ∀ mode c, w.env.adpfProfile mode = some c → c.Clamps
  control : ∀ s, IsClamp (w.sessions s).mDescriptor.pidControlVariable
  votes : ∀ s vs, w.mSessionTaskMap.votes? s = some vs → vs.Fit

theorem World.Fit.init {env : Env} {c : AdpfConfig} (hc : c.Clamps)
    (henv : ∀ mode c', env.adpfProfile mode = some c' → c'.Clamps) : (World.init env c).Fit where
  wf := Wf.empty
  profile := hc
  profiles := henv
  control := fun _ => isClamp_zero
  votes := fun s vs h => by cases h

/-! ### What the actions keep -/

namespace World.Fit

variable {w w' : World}

/-- Where only the map and what was asked of the system change, the votes count. -/
theorem of_votes (h : w.Fit) (henv : w'.env = w.env) (hprofile : w'.adpfConfig = w.adpfConfig)
    (hsessions : w'.sessions = w.sessions) (hwf : Wf w'.mSessionTaskMap)
    (hvotes : ∀ s vs, w'.mSessionTaskMap.votes? s = some vs → vs.Fit) : w'.Fit where
  wf := hwf
  profile := by
    rw [hprofile]
    exact h.profile
  profiles := by
    rw [henv]
    exact h.profiles
  control := by
    rw [hsessions]
    exact h.control
  votes := hvotes

theorem of_map (h : w.Fit) (hmap : OnlyMap w w') (hwf : Wf w'.mSessionTaskMap)
    (hvotes : ∀ s vs, w'.mSessionTaskMap.votes? s = some vs → vs.Fit) : w'.Fit := by
  rw [OnlyMap] at hmap
  refine h.of_votes ?_ ?_ ?_ hwf hvotes
  · rw [hmap]
  · rw [hmap]
  · rw [hmap]

theorem of_refreshes (h : w.Fit) (honly : OnlyOutputs w w') (href : Refreshes w w') : w'.Fit := by
  rw [OnlyOutputs] at honly
  refine h.of_votes ?_ ?_ ?_ href.wf fun s vs hvs => ?_
  · rw [honly]
  · rw [honly]
  · rw [honly]
  · rw [href.votes?] at hvs
    exact h.votes s vs hvs

/-- The clock, the events and the records of what was asked of the system have no part in it. -/
theorem same (h : w.Fit) (henv : w'.env = w.env) (hprofile : w'.adpfConfig = w.adpfConfig)
    (hsessions : w'.sessions = w.sessions) (hmap : w'.mSessionTaskMap = w.mSessionTaskMap) : w'.Fit :=
  h.of_votes henv hprofile hsessions (by rw [hmap]; exact h.wf) fun s vs hvs => by
    rw [hmap] at hvs
    exact h.votes s vs hvs

/-- A note in a session object. -/
theorem modifySession (h : w.Fit) (s : ℤ) {f : PowerHintSession → PowerHintSession}
    (hf : IsClamp (f (w.sessions s)).mDescriptor.pidControlVariable) : (w.modifySession s f).Fit where
  wf := h.wf
  profile := h.profile
  profiles := h.profiles
  control := by
    intro s'
    by_cases hs : s' = s
    · rw [hs, sessions_modifySession_self]
      exact hf
    · rw [sessions_modifySession_of_ne hs]
      exact h.control s'
  votes := h.votes

theorem withRecords (h : w.Fit) (s : ℤ) {f : SessionRecords → PowerHintSession → PowerHintSession}
    (hf : ∀ r x, (f r x).mDescriptor = x.mDescriptor) : (w.withRecords s f).Fit := by
  unfold World.withRecords
  split
  · exact h.same rfl rfl rfl rfl
  · refine h.modifySession s ?_
    rw [hf]
    exact h.control s

theorem convertSection (h : w.Fit) (s : ℤ) (ds : List WorkDuration) :
    (w.convertSection s ds).2.Fit := by
  unfold World.convertSection World.modifyDescriptor
  dsimp only
  refine h.modifySession s ?_
  exact h.control s

theorem newSession (h : w.Fit) (tgid uid : ℤ) (tids : List ℤ) (d : ℤ) :
    (w.newSession tgid uid tids d).2.Fit where
  wf := h.wf
  profile := h.profile
  profiles := h.profiles
  control := by
    intro s
    by_cases hs : s = w.sSessionIDCounter + 1
    · simp only [World.newSession, hs, Function.update_self]
      exact isClamp_zero
    · simp only [World.newSession, Function.update_of_ne hs]
      exact h.control s
  votes := h.votes

theorem addSection (h : w.Fit) (desc : AppHintDesc) (t : ℤ) : (w.addSection desc t).Fit := by
  refine h.of_map rfl (wf_addSection h.wf desc t) fun s vs hvs => ?_
  rw [votes?_addSection h.wf] at hvs
  split at hvs
  · obtain rfl := Option.some.inj hvs
    exact Votes.Fit.newVotes desc t
  · exact h.votes s vs hvs

theorem forceSection (h : w.Fit) (s : ℤ) (b : Bool) : (w.forceSection s b).2.Fit := by
  refine h.of_map (onlyMap_forceSection w s b) (wf_forceSection h.wf s b) fun s' vs hvs => ?_
  rw [votes?_forceSection] at hvs
  exact h.votes s' vs hvs

theorem switchSection (h : w.Fit) (s : ℤ) (b : Bool) : (w.switchSection s b).2.Fit := by
  rcases switchSection_cases w s b with ⟨heq, -⟩ | ⟨heq, -⟩
  · rw [heq]
    exact h
  · rw [heq]
    exact h.forceSection s b

theorem replaceSection (h : w.Fit) (s : ℤ) (tids : List ℤ) : (w.replaceSection s tids).2.Fit := by
  refine h.of_map rfl (wf_replaceSection h.wf s tids) fun s' vs hvs => ?_
  have hsame : (w.replaceSection s tids).2.mSessionTaskMap.votes? s' = w.mSessionTaskMap.votes? s' :=
    h.wf.votes?_replace s tids [] [] s'
  rw [hsame] at hvs
  exact h.votes s' vs hvs

theorem removeSection (h : w.Fit) (s : ℤ) : (w.removeSection s).2.Fit := by
  refine h.of_votes rfl rfl rfl (wf_removeSection h.wf s) fun s' vs hvs => ?_
  rw [votes?_removeSection h.wf] at hvs
  split at hvs
  · cases hvs
  · exact h.votes s' vs hvs

theorem applyVotes (h : w.Fit) (s t : ℤ) : (w.applyVotes s t).Fit :=
  h.of_refreshes (onlyOutputs_applyVotes w s t) (applyVotes_refreshes h.wf s t)

theorem applyUclampLocked (h : w.Fit) (s t : ℤ) : (w.applyUclampLocked s t).Fit :=
  h.of_refreshes (onlyOutputs_applyUclampLocked w s t) (applyUclampLocked_refreshes h.wf s t)

theorem writeVotes (h : w.Fit) (s : ℤ) {f : Votes → Votes} (hf : ∀ vs : Votes, vs.Fit → (f vs).Fit) :
    (w.writeVotes s f).Fit := by
  refine h.of_map (onlyMap_writeVotes w s f) (wf_writeVotes h.wf s f) fun s' vs hvs => ?_
  rw [votes?_writeVotes h.wf] at hvs
  split at hvs
  · obtain ⟨vs', hvs', rfl⟩ := Option.map_eq_some_iff.1 hvs
    exact hf vs' (h.votes s vs' hvs')
  · exact h.votes s' vs hvs

theorem efficiencySection (h : w.Fit) (s : ℤ) (b : Bool) : (w.efficiencySection s b).2.Fit := by
  have hwf : Wf (w.efficiencySection s b).2.mSessionTaskMap := by
    have haction : Action (fun _ => True) w (w.efficiencySection s b).2 := .efficiency s b w trivial
    exact haction.wf h.wf
  refine h.of_map (onlyMap_efficiencySection w s b) hwf fun s' vs hvs => ?_
  rw [votes?_efficiencySection] at hvs
  exact h.votes s' vs hvs

/-- A fit vote. -/
theorem voteSection (h : w.Fit) (e : Timeout) (d : ℤ) {b : Ballot} (hb : b.Fit) :
    (w.voteSection e d b).2.Fit := by
  rcases voteSection_cases w e d b with ⟨-, heq⟩ | ⟨p, decided, hp, heq⟩
  · rw [heq]
    exact h
  · have hwrite : (w.writeVotes e.sessionId (b.add e d)).Fit :=
      h.writeVotes e.sessionId fun vs hvs => hvs.ballot hb e d
    have hvoted := hwrite.of_refreshes (onlyOutputs_voted_writeVotes w e d b p)
      (voted_refreshes h.wf hp d b)
    rw [heq]
    exact hvoted.same rfl rfl rfl rfl

theorem expireSection (h : w.Fit) (e : Timeout) (t : ℤ) : (w.expireSection e t).2.Fit := by
  rcases expireSection_world w e t with ⟨decided, heq⟩ | heq
  · rw [heq]
    exact h.same rfl rfl rfl rfl
  · rw [heq]
    have hrun : World.Fit { w with running := w.running.erase e } := h.same rfl rfl rfl rfl
    exact hrun.writeVotes e.sessionId fun vs hvs => hvs.modifyTiming e.voteId _

theorem hintMode (h : w.Fit) (mode : String) (b : Bool) : (w.hintMode mode b).Fit := by
  obtain ⟨rate, heq⟩ := hintMode_eq mode b w
  rw [heq]
  refine ⟨h.wf, ?_, h.profiles, h.control, h.votes⟩
  cases hmode : w.env.adpfProfile mode with
  | none => exact h.profile
  | some c => exact h.profiles mode c hmode

end World.Fit

/-! ### What the programs of the manager uphold -/

/-- A program that keeps a fit state fit, among others that do. -/
abbrev UpholdsFit {α : Type} (p : P α) : Prop := p.Upholds World.Fit fun _ => True

section Manager

open PowerSessionManager

theorem now_upholdsFit : UpholdsFit now :=
  Upholds.atomic fun _ hw => ⟨hw.same rfl rfl rfl rfl, trivial⟩

theorem schedule_upholdsFit (e : Timeout) : UpholdsFit (schedule e) :=
  Upholds.seq (Upholds.critical trivial) fun _ =>
    Upholds.critical (Upholds.modify (fun _ hw => hw.same rfl rfl rfl rfl) trivial)

theorem quiet_upholdsFit {f : World → World} (hf : ∀ w, Quiet w (f w))
    (hsessions : ∀ w, (f w).sessions = w.sessions) : UpholdsFit (Prog.modify f : P Unit) :=
  Upholds.modify (fun w hw => hw.same (hf w).env (hf w).adpfConfig (hsessions w) (hf w).map) trivial

theorem sessions_callBoostHint (call : String → HintCall) (w : World) :
    (w.callBoostHint call).sessions = w.sessions := by
  unfold World.callBoostHint
  split <;> rfl

theorem updateUniversalBoostMode_upholdsFit : UpholdsFit updateUniversalBoostMode := by
  refine Upholds.seq (Upholds.critical ?_) fun _ => Upholds.ite ?_ ?_
  · exact Upholds.seq now_upholdsFit fun _ => Upholds.read fun _ _ => trivial
  · exact quiet_upholdsFit (Quiet.callBoostHint · _) (sessions_callBoostHint _)
  · exact quiet_upholdsFit (Quiet.callBoostHint · _) (sessions_callBoostHint _)

theorem applyCpuAndGpuVotes_upholdsFit (s t : ℤ) : UpholdsFit (applyCpuAndGpuVotes s t) :=
  Upholds.critical (Upholds.modify (fun _ hw => hw.applyVotes s t) trivial)

theorem refresh_upholdsFit (s : ℤ) : UpholdsFit (refresh s) :=
  Upholds.seq now_upholdsFit fun t => Upholds.seq (applyCpuAndGpuVotes_upholdsFit s t) fun _ =>
    updateUniversalBoostMode_upholdsFit

theorem forceSessionActive_upholdsFit (s : ℤ) (b : Bool) : UpholdsFit (forceSessionActive s b) :=
  Upholds.seq (Upholds.guarded fun _ hw => hw.forceSection s b) fun _ =>
    Upholds.when (refresh_upholdsFit s) trivial

theorem pause_upholdsFit (s : ℤ) : UpholdsFit (PowerSessionManager.pause s) :=
  Upholds.seq (Upholds.guarded fun _ hw => hw.switchSection s false) fun _ =>
    Upholds.when (refresh_upholdsFit s) trivial

theorem resume_upholdsFit (s : ℤ) : UpholdsFit (PowerSessionManager.resume s) :=
  Upholds.seq (Upholds.guarded fun _ hw => hw.switchSection s true) fun _ =>
    Upholds.when (refresh_upholdsFit s) trivial

theorem setTaskProfiles_upholdsFit (profile : TaskProfile) (tids : List ℤ) :
    UpholdsFit (setTaskProfiles profile tids) :=
  Upholds.forEach (fun _ => Upholds.modify (fun _ hw => hw.same rfl rfl rfl rfl) trivial) tids

theorem setThreadsFromPowerSession_upholdsFit (s : ℤ) (tids : List ℤ) :
    UpholdsFit (setThreadsFromPowerSession s tids) := by
  refine Upholds.seq (forceSessionActive_upholdsFit s false) fun _ => ?_
  refine Upholds.seq (Upholds.guarded fun _ hw => hw.replaceSection s tids) fun threads => ?_
  refine Upholds.seq (setTaskProfiles_upholdsFit _ threads.1) fun _ => ?_
  exact Upholds.seq (setTaskProfiles_upholdsFit _ threads.2) fun _ =>
    forceSessionActive_upholdsFit s true

theorem addPowerSession_upholdsFit (desc : Option AppHintDesc) (tids : List ℤ) :
    UpholdsFit (addPowerSession desc tids) := by
  cases desc with
  | none => exact trivial
  | some desc =>
      refine Upholds.seq now_upholdsFit fun t => ?_
      refine Upholds.seq (Upholds.critical (Upholds.modify (fun _ hw =>
        hw.addSection desc t) trivial)) fun _ => ?_
      exact setThreadsFromPowerSession_upholdsFit desc.sessionId tids

theorem sessionMap_upholdsFit (f : World → UMap ℤ ℤ) :
    UpholdsFit (Prog.critical .mSessionMapMutex (Prog.modify fun w =>
      { w with mSessionMap := f w }) : P Unit) :=
  Upholds.critical (Upholds.modify (fun _ hw => hw.same rfl rfl rfl rfl) trivial)

theorem removePowerSession_upholdsFit (s : ℤ) : UpholdsFit (removePowerSession s) := by
  refine Upholds.seq (forceSessionActive_upholdsFit s false) fun _ => ?_
  refine Upholds.seq (Upholds.guarded fun _ hw => hw.removeSection s) fun removed => ?_
  exact Upholds.seq (setTaskProfiles_upholdsFit _ removed) fun _ => sessionMap_upholdsFit _

/-- A vote is fit if its ballot is. -/
theorem castVote_upholdsFit (s : ℤ) (v : AdpfVoteType) {b : Ballot} (hb : b.Fit) (t d : ℤ) :
    UpholdsFit (castVote s v b t d) :=
  Upholds.seq (Upholds.guarded fun _ hw => hw.voteSection (timeoutOf s v t d) d hb) fun _ =>
    Upholds.when (schedule_upholdsFit _) trivial

theorem voteNow_upholdsFit (s : ℤ) (v : AdpfVoteType) {b : Ballot} (hb : b.Fit) (d : ℤ) :
    UpholdsFit (now.bind fun t => castVote s v b t d) :=
  Upholds.seq now_upholdsFit fun t => castVote_upholdsFit s v hb t d

theorem disableBoosts_upholdsFit (s : ℤ) : UpholdsFit (disableBoosts s) :=
  Upholds.critical (Upholds.modify (fun w hw => by
    rw [disableSection_eq]
    exact hw.writeVotes s fun vs hvs => hvs.turnOff _) trivial)

theorem updateTargetWorkDuration_upholdsFit (s : ℤ) (v : AdpfVoteType) (d : ℤ) :
    UpholdsFit (PowerSessionManager.updateTargetWorkDuration s v d) :=
  Upholds.critical (Upholds.modify (fun w hw => by
    rw [durationSection_eq]
    exact hw.writeVotes s fun vs hvs => hvs.modifyTiming _ _) trivial)

theorem setPreferPowerEfficiency_upholdsFit (s : ℤ) (b : Bool) :
    UpholdsFit (setPreferPowerEfficiency s b) :=
  Upholds.critical (Upholds.seq (Upholds.atomic fun _ hw => ⟨hw.efficiencySection s b, trivial⟩)
    fun _ => Upholds.when (Upholds.seq now_upholdsFit fun t =>
      Upholds.modify (fun _ hw => hw.applyUclampLocked s t) trivial) trivial)

theorem gpuFrequency_upholdsFit : UpholdsFit gpuFrequency :=
  Upholds.atomic fun w hw => by
    obtain ⟨faults, reads, heq⟩ := readGpuFrequency_eq w
    rw [heq]
    exact ⟨hw.same rfl rfl rfl rfl, trivial⟩

theorem handleEvent_upholdsFit (e : Timeout) : UpholdsFit (handleEvent e) := by
  refine Upholds.seq now_upholdsFit fun t => ?_
  refine Upholds.seq (Upholds.critical ?_) fun _ => Upholds.when ?_ trivial
  · refine Upholds.seq (Upholds.atomic fun _ hw =>
      ⟨hw.expireSection e t, trivial⟩) fun verdict => ?_
    refine Upholds.seq ?_ fun _ => Upholds.ret trivial
    cases verdict with
    | drop => exact trivial
    | expired => exact trivial
    | requeue e' => exact schedule_upholdsFit e'
  · exact Upholds.seq (applyCpuAndGpuVotes_upholdsFit e.sessionId t) fun _ =>
      updateUniversalBoostMode_upholdsFit

theorem workerRound_upholdsFit (i : ℕ) : UpholdsFit (workerRound i) := by
  refine Upholds.seq (Upholds.guarded fun w hw => ?_) fun event => ?_
  · obtain ⟨queue, running, heq⟩ := World.pop_eq i w
    rw [heq]
    exact hw.same rfl rfl rfl rfl
  · cases event with
    | none => exact trivial
    | some e =>
        exact Upholds.critical (Upholds.seq (Upholds.critical trivial) fun _ =>
          handleEvent_upholdsFit e)

theorem sessions_lookupSession (w : World) (s : ℤ) : (w.lookupSession s).2.sessions = w.sessions := by
  unfold World.lookupSession
  split
  · rfl
  · split <;> rfl

/-- Not a CPU vote that is set behind the back of the sessions. -/
def ManagerOp.NoCpuVote : ManagerOp → Prop
  | .voteSet _ _ _ _ _ _ => False
  | _ => True

theorem ManagerOp.upholdsFit (op : ManagerOp) (h : op.NoCpuVote) : UpholdsFit op.prog := by
  cases op with
  | addPowerSession desc tids => exact addPowerSession_upholdsFit desc tids
  | removePowerSession s => exact removePowerSession_upholdsFit s
  | setThreadsFromPowerSession s tids => exact setThreadsFromPowerSession_upholdsFit s tids
  | pause s => exact pause_upholdsFit s
  | resume s => exact resume_upholdsFit s
  | updateTargetWorkDuration s v d => exact updateTargetWorkDuration_upholdsFit s v d
  | voteSet s v lo hi t d => exact h.elim
  | voteSetGpu s v c t d => exact castVote_upholdsFit s v (Ballot.fit_gpu c) t d
  | disableBoosts s => exact disableBoosts_upholdsFit s
  | setPreferPowerEfficiency s b => exact setPreferPowerEfficiency_upholdsFit s b
  | updateUniversalBoostMode => exact updateUniversalBoostMode_upholdsFit
  | updateHintMode mode b => exact Upholds.modify (fun _ hw => hw.hintMode mode b) trivial
  | updateHintBoost boost d => exact trivial
  | getDisplayRefreshRate =>
      exact Upholds.seq (Upholds.read fun _ _ => trivial) fun _ => trivial
  | gpuFrequency => exact Upholds.seq gpuFrequency_upholdsFit fun _ => trivial
  | registerSession s => exact sessionMap_upholdsFit _
  | unregisterSession s => exact sessionMap_upholdsFit _
  | getSession s =>
      refine Upholds.seq (Upholds.guarded fun w hw => ?_) fun _ => trivial
      have hquiet := Quiet.lookupSession w s
      exact hw.same hquiet.env hquiet.adpfConfig (sessions_lookupSession w s) hquiet.map
  | clear => exact sessionMap_upholdsFit _
  | dumpToFd => exact trivial

end Manager

/-! ### What the programs of a session uphold -/

section Session

open PowerHintSession PowerSessionManager

/-- A session object as it is read. -/
theorem self_upholds (s : ℤ) :
    (self s).Upholds World.Fit fun x => IsClamp x.mDescriptor.pidControlVariable :=
  Upholds.read fun _ hw => hw.control s

theorem getAdpfProfile_upholds : getAdpfProfile.Upholds World.Fit AdpfConfig.Clamps :=
  Upholds.read fun _ hw => hw.profile

/-- A note in a session object that leaves the control variable alone. -/
theorem note_upholdsFit (s : ℤ) {f : PowerHintSession → PowerHintSession}
    (hf : ∀ x, (f x).mDescriptor.pidControlVariable = x.mDescriptor.pidControlVariable) :
    UpholdsFit (Prog.modify (World.modifySession s f) : P Unit) :=
  Upholds.modify (fun w hw => hw.modifySession s (by rw [hf]; exact hw.control s)) trivial

theorem touchSession_upholdsFit (s : ℤ) : UpholdsFit (touchSession s) :=
  Upholds.seq now_upholdsFit fun _ => note_upholdsFit s fun _ => rfl

theorem isTimeout_upholdsFit (s : ℤ) : UpholdsFit (isTimeout s) :=
  Upholds.seq now_upholdsFit fun _ => Upholds.bind (self_upholds s) fun _ _ =>
    Upholds.bind getAdpfProfile_upholds fun _ _ => trivial

theorem tryToSendPowerHint_upholdsFit (s : ℤ) (hint : String) :
    UpholdsFit (tryToSendPowerHint s hint) := by
  refine Upholds.modify (fun w hw => ?_) trivial
  have hnote : ∀ supported, World.Fit (w.modifySession s fun x =>
      { x with mSupportedHints := x.mSupportedHints.insert hint supported }) :=
    fun _ => hw.modifySession s (hw.control s)
  unfold World.sendPowerHint
  dsimp only
  split
  · exact (hnote _).same rfl rfl rfl rfl
  · exact hnote _

/-- The control variable becomes a clamp, which is also voted for. -/
theorem updatePidControlVariable_upholdsFit (s : ℤ) {x : ℤ} (hx : IsClamp x) (b : Bool) :
    UpholdsFit (updatePidControlVariable s x b) := by
  refine Upholds.seq (Upholds.modify (fun w hw => hw.modifySession s hx) trivial)
    fun _ => Upholds.when ?_ trivial
  refine Upholds.bind getAdpfProfile_upholds fun _ _ => Upholds.bind (self_upholds s) fun _ _ => ?_
  exact voteNow_upholdsFit s _ hx.ballot _

theorem create_upholdsFit (tgid uid : ℤ) (tids : List ℤ) (d : ℤ) :
    UpholdsFit (create tgid uid tids d) := by
  refine Upholds.seq (Upholds.atomic fun _ hw =>
    ⟨hw.newSession tgid uid tids d, trivial⟩) fun sid => ?_
  refine Upholds.seq (touchSession_upholdsFit sid) fun _ => ?_
  refine Upholds.bind (self_upholds sid) fun s _ => ?_
  refine Upholds.seq (addPowerSession_upholdsFit _ tids) fun _ => ?_
  refine Upholds.bind getAdpfProfile_upholds fun c hc => ?_
  refine Upholds.seq now_upholdsFit fun t => ?_
  refine Upholds.seq (castVote_upholdsFit sid _ hc.loadReset.toInt32.ballot t _) fun _ => ?_
  refine Upholds.seq now_upholdsFit fun t => ?_
  exact Upholds.seq (castVote_upholdsFit sid _ hc.init.toInt32.ballot t _) fun _ => trivial

theorem whileOpen_upholdsFit (s : ℤ) {p : PowerHintSession → P Status}
    (hp : ∀ x, IsClamp x.mDescriptor.pidControlVariable → UpholdsFit (p x)) :
    UpholdsFit (whileOpen s p) :=
  Upholds.critical (Upholds.bind (self_upholds s) fun x hx => Upholds.ite trivial (hp x hx))

theorem beginReport_upholdsFit (s : ℤ) : UpholdsFit (beginReport s) := by
  refine Upholds.seq (note_upholdsFit s fun _ => rfl) fun _ => ?_
  refine Upholds.seq (isTimeout_upholdsFit s) fun _ => ?_
  refine Upholds.seq (touchSession_upholdsFit s) fun _ => ?_
  refine Upholds.seq (Upholds.when ?_ trivial) fun _ => disableBoosts_upholdsFit s
  refine Upholds.bind (self_upholds s) fun _ _ => ?_
  exact Upholds.seq (Upholds.when (tryToSendPowerHint_upholdsFit s _) trivial) fun _ =>
    updateUniversalBoostMode_upholdsFit

theorem recordDurations_upholdsFit (s : ℤ) (ds : List WorkDuration) :
    UpholdsFit (recordDurations s ds) := by
  refine Upholds.bind (self_upholds s) fun _ _ => ?_
  refine Upholds.seq (Upholds.modify (fun w hw =>
    hw.withRecords s fun _ _ => rfl) trivial) fun _ => ?_
  refine Upholds.bind getAdpfProfile_upholds fun _ _ => ?_
  exact Upholds.modify (fun w hw => hw.withRecords s fun _ _ => rfl) trivial

theorem reportCpu_upholdsFit (s : ℤ) {c : AdpfConfig} (hc : c.Clamps) (ds : List WorkDuration) :
    UpholdsFit (reportCpu s c ds) := by
  refine Upholds.seq (Upholds.when (recordDurations_upholdsFit s ds) trivial) fun _ => ?_
  refine Upholds.seq (Upholds.atomic fun w hw =>
    ⟨hw.convertSection s ds, trivial⟩) fun output => ?_
  refine Upholds.bind (self_upholds s) fun x _ => ?_
  exact updatePidControlVariable_upholdsFit s (hc.nextMin _ _ output) true

theorem reportGpu_upholdsFit (s : ℤ) (c : AdpfConfig) (back : WorkDuration) :
    UpholdsFit (reportGpu s c back) := by
  unfold reportGpu
  cases gpuCapacityMax c back with
  | none => exact trivial
  | some capacityMax =>
      refine Upholds.seq gpuFrequency_upholdsFit fun gpu_freq => ?_
      cases gpu_freq with
      | none => exact trivial
      | some freq =>
          refine Upholds.bind (self_upholds s) fun _ _ => ?_
          refine Upholds.bind (Q := fun _ => True) (Upholds.read fun _ _ => trivial) fun _ _ => ?_
          exact voteNow_upholdsFit s _ (Ballot.fit_gpu _) _

theorem reportVotes_upholdsFit (s : ℤ) {c : AdpfConfig} (hc : c.Clamps) (ds : List WorkDuration)
    (back : WorkDuration) : UpholdsFit (reportVotes s c ds back) :=
  Upholds.ite (Upholds.seq (reportCpu_upholdsFit s hc ds) fun _ => reportGpu_upholdsFit s c back)
    (updatePidControlVariable_upholdsFit s hc.high.toInt32 true)

theorem setMode_upholdsFit (s : ℤ) (mode : SessionMode) (b : Bool) : UpholdsFit (setMode s mode b) := by
  refine whileOpen_upholdsFit s fun _ _ => ?_
  cases mode with
  | unknown raw => exact trivial
  | POWER_EFFICIENCY =>
      refine Upholds.seq (setPreferPowerEfficiency_upholdsFit s b) fun _ => ?_
      refine Upholds.seq (note_upholdsFit s fun _ => rfl) fun _ => ?_
      exact Upholds.seq (touchSession_upholdsFit s) fun _ => trivial

/-- The maximum of two clamps as unsigned numbers is one of them. -/
theorem IsClamp.toInt32_max {x y : ℤ} (hx : IsClamp x) (hy : IsClamp y) :
    IsClamp (Adpf.toInt32 (max x (toUInt32 y))) := by
  rw [hy.toUInt32_eq]
  refine IsClamp.toInt32 ?_
  obtain ⟨hx0, hx1⟩ := hx
  obtain ⟨hy0, hy1⟩ := hy
  exact ⟨by omega, by omega⟩

theorem sendHintVotes_upholdsFit (s : ℤ) {x : PowerHintSession}
    (hx : IsClamp x.mDescriptor.pidControlVariable) (hint : SessionHint) :
    UpholdsFit (sendHintVotes s x hint) := by
  cases hint with
  | CPU_LOAD_UP =>
      refine Upholds.bind getAdpfProfile_upholds fun c hc => ?_
      refine Upholds.seq (updatePidControlVariable_upholdsFit s hx true) fun _ => ?_
      exact voteNow_upholdsFit s _ hc.loadUp.toInt32.ballot _
  | CPU_LOAD_DOWN =>
      exact Upholds.bind getAdpfProfile_upholds fun c hc =>
        updatePidControlVariable_upholdsFit s hc.low.toInt32 true
  | CPU_LOAD_RESET =>
      refine Upholds.bind getAdpfProfile_upholds fun c hc => ?_
      refine Upholds.seq (updatePidControlVariable_upholdsFit s (hc.init.toInt32_max hx) false)
        fun _ => ?_
      exact voteNow_upholdsFit s _ hc.loadReset.toInt32.ballot _
  | CPU_LOAD_RESUME =>
      exact Upholds.bind getAdpfProfile_upholds fun _ _ => voteNow_upholdsFit s _ hx.ballot _
  | POWER_EFFICIENCY => exact Upholds.seq (setMode_upholdsFit s _ true) fun _ => trivial
  | GPU_LOAD_UP =>
      exact Upholds.bind getAdpfProfile_upholds fun _ _ => voteNow_upholdsFit s _ (Ballot.fit_gpu _) _
  | GPU_LOAD_DOWN => exact trivial
  | GPU_LOAD_RESET => exact trivial
  | unknown raw => exact trivial

theorem close_upholdsFit (s : ℤ) : UpholdsFit (PowerHintSession.close s) := by
  refine whileOpen_upholdsFit s fun _ _ => ?_
  refine Upholds.seq (note_upholdsFit s fun _ => rfl) fun _ => ?_
  refine Upholds.seq (removePowerSession_upholdsFit s) fun _ => ?_
  exact Upholds.seq (note_upholdsFit s fun _ => rfl) fun _ => trivial

theorem SessionOp.upholdsFit (s : ℤ) (op : SessionOp) : UpholdsFit (op.prog s) := by
  cases op with
  | close => exact close_upholdsFit s
  | destroy =>
      refine Upholds.seq (close_upholdsFit s) fun _ => ?_
      exact Upholds.seq (note_upholdsFit s fun _ => rfl) fun _ => trivial
  | pause =>
      refine whileOpen_upholdsFit s fun _ _ => Upholds.ite ?_ trivial
      refine Upholds.seq (setThreadsFromPowerSession_upholdsFit s _) fun _ => ?_
      refine Upholds.seq (note_upholdsFit s fun _ => rfl) fun _ => ?_
      exact Upholds.seq (pause_upholdsFit s) fun _ => trivial
  | resume =>
      refine whileOpen_upholdsFit s fun _ _ => Upholds.ite trivial ?_
      refine Upholds.seq (setThreadsFromPowerSession_upholdsFit s _) fun _ => ?_
      refine Upholds.seq (note_upholdsFit s fun _ => rfl) fun _ => ?_
      exact Upholds.seq (resume_upholdsFit s) fun _ => trivial
  | updateTargetWorkDuration d =>
      refine whileOpen_upholdsFit s fun _ _ => Upholds.ite trivial ?_
      refine Upholds.bind getAdpfProfile_upholds fun _ _ => ?_
      refine Upholds.seq (note_upholdsFit s fun _ => rfl) fun _ => ?_
      exact Upholds.seq (updateTargetWorkDuration_upholdsFit s _ _) fun _ => trivial
  | reportActualWorkDuration ds =>
      refine whileOpen_upholdsFit s fun _ _ => Upholds.ite trivial ?_
      cases ds.getLast? with
      | none => exact trivial
      | some back =>
          refine Upholds.ite ?_ trivial
          refine Upholds.bind getAdpfProfile_upholds fun c hc => ?_
          refine Upholds.seq (beginReport_upholdsFit s) fun _ => ?_
          exact Upholds.seq (reportVotes_upholdsFit s hc ds back) fun _ => trivial
  | sendHint hint =>
      refine whileOpen_upholdsFit s fun x hx => Upholds.ite trivial (Upholds.ite ?_ trivial)
      refine Upholds.seq (sendHintVotes_upholdsFit s hx hint) fun _ => ?_
      refine Upholds.seq (tryToSendPowerHint_upholdsFit s _) fun _ => ?_
      exact Upholds.seq (touchSession_upholdsFit s) fun _ => trivial
  | setMode mode b => exact setMode_upholdsFit s mode b
  | setThreads tids =>
      refine whileOpen_upholdsFit s fun _ _ => Upholds.ite trivial ?_
      refine Upholds.seq (note_upholdsFit s fun _ => rfl) fun _ => ?_
      refine Upholds.seq (setThreadsFromPowerSession_upholdsFit s tids) fun _ => ?_
      refine Upholds.bind getAdpfProfile_upholds fun c hc => ?_
      exact Upholds.seq (updatePidControlVariable_upholdsFit s hc.init.toInt32 true) fun _ => trivial
  | getSessionConfig => exact trivial

end Session

/-! ### Whole runs -/

/-- The CPU votes that the operation sets are those of sessions. -/
def Op.SessionsVote : Op → Prop
  | .manager op => op.NoCpuVote
  | _ => True

/-- **Every operation keeps a fit state fit**, alone or among others that do. -/
theorem Op.upholdsFit (op : Op) (h : op.SessionsVote) : UpholdsFit op.prog := by
  cases op with
  | create tgid uid tids d =>
      exact Upholds.seq (create_upholdsFit tgid uid tids d) fun _ => trivial
  | session s op => exact Upholds.seq (op.upholdsFit s) fun _ => trivial
  | dumpToStream s =>
      exact Upholds.critical (Upholds.seq (isTimeout_upholdsFit s) fun _ => trivial)
  | manager op => exact op.upholdsFit h
  | worker i => exact workerRound_upholdsFit i

/-- The end of a report, whatever the output of the controller is. -/
def PowerHintSession.reportOutput (sessionId output : ℤ) : P Unit := do
  let adpfConfig ← PowerHintSession.getAdpfProfile
  let s ← PowerHintSession.self sessionId
  PowerHintSession.updatePidControlVariable sessionId
    (nextMin adpfConfig s.mHeuristicBoostActive s.mDescriptor.pidControlVariable output) true

/-- What happens next: an operation, or the end of a report with an output of any size. -/
inductive Turn : Type
  | op (op : Op)
  | output (sessionId output : ℤ)

namespace Turn

def prog : Turn → P Unit
  | op o => o.prog
  | output s out => PowerHintSession.reportOutput s out

def SessionsVote : Turn → Prop
  | op o => o.SessionsVote
  | output _ _ => True

theorem upholdsFit (turn : Turn) (h : turn.SessionsVote) : UpholdsFit turn.prog := by
  cases turn with
  | op o => exact o.upholdsFit h
  | output s out =>
      refine Upholds.bind getAdpfProfile_upholds fun c hc => ?_
      refine Upholds.bind (self_upholds s) fun x _ => ?_
      exact updatePidControlVariable_upholdsFit s (hc.nextMin _ _ out) true

end Turn

/-- The states that turns lead to when they are taken one at a time. -/
inductive TurnRuns (w₀ : World) : World → Prop
  | init : TurnRuns w₀ w₀
  | step {w : World} (turn : Turn) : TurnRuns w₀ w → turn.SessionsVote →
      TurnRuns w₀ (turn.prog.post w)

theorem TurnRuns.fit {w₀ w : World} (h : TurnRuns w₀ w) (hfit : w₀.Fit) : w.Fit := by
  induction h with
  | init => exact hfit
  | step turn _ hvote ih => exact (turn.upholdsFit hvote).post ih

theorem updatePidControlVariable_performs (s x : ℤ) (w : World) :
    ∃ t d, (PowerHintSession.updatePidControlVariable s x true).Performs w
      (submit s .CPU_VOTE_DEFAULT (.cpu x 1024) t d) :=
  ⟨_, _, Performs.bind_right (Performs.bind_right (Performs.bind_right (Performs.bind_right
    (castVote_performs s .CPU_VOTE_DEFAULT (.cpu x 1024) _ _ _))))⟩

/-- The end of a report submits the vote for the boost. -/
theorem Turn.output_performs (s output : ℤ) (w : World) :
    ∃ t d, (Turn.output s output).prog.Performs w
      (submit s .CPU_VOTE_DEFAULT (.cpu (nextMin w.adpfConfig (w.sessions s).mHeuristicBoostActive
        (w.sessions s).mDescriptor.pidControlVariable output) 1024) t d) := by
  obtain ⟨t, d, h⟩ := updatePidControlVariable_performs s (nextMin w.adpfConfig
    (w.sessions s).mHeuristicBoostActive (w.sessions s).mDescriptor.pidControlVariable output) w
  exact ⟨t, d, Performs.bind_right (Performs.bind_right h)⟩

/-- A state in which the session is known to the manager. -/
def World.withSession (w : World) (sessionId : ℤ) : World :=
  w.addSection { sessionId := sessionId, tgid := 0, uid := 0, targetNs := 0, thread_ids := [] } 0

theorem Votes.lookup_addCpu_self {id : ℤ} (hid : isGpuVote id = false) (vs : Votes) (v : CpuVote) :
    (vs.addCpu id v).mCpuVotes.lookup id = some v := by
  rw [Votes.mCpuVotes_addCpu hid, AList.lookup_insert]

/-- The vote can be read back from what its submission does: it is stored where the session is known. -/
theorem fit_of_submit {s : ℤ} {v : AdpfVoteType} {lo hi t d : ℤ} (hv : isGpuVote v.toInt = false)
    (h : ∀ u : World, u.Fit → (submit s v (.cpu lo hi) t d u).Fit) {w : World} (hw : w.Fit) :
    UclampRange.Fit ⟨lo, hi⟩ := by
  obtain ⟨vs, hvs⟩ : ∃ vs, (w.withSession s).mSessionTaskMap.votes? s = some vs := by
    rw [World.withSession, votes?_addSection hw.wf]
    cases hfind : w.mSessionTaskMap.findSession s with
    | none => exact ⟨_, if_pos ⟨rfl, rfl⟩⟩
    | some p => exact ⟨_, (if_neg fun hnone => Option.some_ne_none p hnone.2).trans
        (votes?_of_findSession hfind)⟩
  have hknown : (w.withSession s).Fit := hw.addSection _ 0
  have hstored := votes?_voteSection hknown.wf (PowerSessionManager.timeoutOf s v t d) d (.cpu lo hi)
  exact (h _ hknown).votes s _ (hstored.trans (congrArg _ hvs)) v.toInt _
    (Votes.lookup_addCpu_self hv vs _)

/-- **The control variable stays a clamp.**  Let all clamps of all profiles be clamps.  Whatever
operations follow one another, changes of the profile and reports with outputs of any size among them, the
control variable of every session is a clamp, the conversion to an unsigned number does not change it, and
so is the minimum of every CPU vote that is submitted in the next turn; the maximum is the largest one. -/
theorem control_variable_stays_clamp {env : Env} {c : AdpfConfig} {w : World} (hc : c.Clamps)
    (henv : ∀ mode c', env.adpfProfile mode = some c' → c'.Clamps)
    (hrun : TurnRuns (World.init env c) w) :
    (∀ s, IsClamp (w.sessions s).mDescriptor.pidControlVariable ∧
      toUInt32 (w.sessions s).mDescriptor.pidControlVariable =
        (w.sessions s).mDescriptor.pidControlVariable) ∧
    ∀ turn : Turn, turn.SessionsVote → ∀ s v lo hi t d, isGpuVote v.toInt = false →
      turn.prog.Performs w (submit s v (.cpu lo hi) t d) → IsClamp lo ∧ hi = 1024 := by
  have hfit : w.Fit := hrun.fit (World.Fit.init hc henv)
  refine ⟨fun s => ⟨hfit.control s, (hfit.control s).toUInt32_eq⟩, ?_⟩
  intro turn hvote s v lo hi t d hv hperforms
  exact fit_of_submit hv (fun u hu => (turn.upholdsFit hvote).performs hfit hperforms hu) hfit

theorem makeMockConfig_fit : makeMockConfig.Clamps := by
  obtain ⟨hlow, hhigh, hboost⟩ := makeMockConfig_clamps
  refine ⟨?_, hhigh, hlow, ?_, ?_, hboost⟩ <;> exact ⟨by decide, by decide⟩

/-- A session is made; then the end of a report, with an output too large for an `int`, submits a vote. -/
theorem control_variable_stays_clamp_wrap :
    ∃ w, TurnRuns (World.init {} makeMockConfig) w ∧
      IsClamp (w.sessions 1).mDescriptor.pidControlVariable ∧
      ∃ lo hi t d, (Turn.output 1 2506023259).prog.Performs w
        (submit 1 .CPU_VOTE_DEFAULT (.cpu lo hi) t d) ∧ IsClamp lo ∧ hi = 1024 := by
  have hrun : TurnRuns (World.init {} makeMockConfig) _ :=
    TurnRuns.init.step (.op (.create 100 10000 [7] 16666666)) trivial
  have henv : ∀ mode c', ({} : Env).adpfProfile mode = some c' → c'.Clamps := by
    intro mode c' h
    cases h
  obtain ⟨hcontrol, hvotes⟩ := control_variable_stays_clamp makeMockConfig_fit henv hrun
  obtain ⟨t, d, hturn⟩ := Turn.output_performs 1 2506023259 _
  exact ⟨_, hrun, (hcontrol 1).1, _, _, t, d, hturn,
    hvotes (.output 1 2506023259) trivial 1 _ _ _ t d rfl hturn⟩

end Adpf
