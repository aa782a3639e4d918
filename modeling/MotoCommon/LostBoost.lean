/-
**When a boost is lost to an expiry.**

`handleEvent` applies the votes that are left at the time it read when it began.  A vote that is set
while it waits for the lock again starts after that time, so it is not counted, and the threads that
both sessions share lose the boost that was just asked for.  This module says exactly when that can
happen to a thread, over all the interleavings of the two calls.

Main definitions:

* `Adpf.World.Alive` — no call finds a thread dead;
* `Adpf.SessionTaskMap.AsksFor` — a vote in range asks for a minimum;
* `Adpf.Race.Kept` — the thread has at least the minimum that was asked for;
* `Adpf.Race.Fits`, `Adpf.Race.Loses` — the races in question, and those that may lose the boost;
* `Adpf.Race.Sees` — what is left of the common state, section by section.

Main results:

* `Adpf.Race.At.sees` — over all the orders of the sections, the boost is kept unless it may be lost;
* `Adpf.vote_survives_expiry_iff` — **when no interleaving loses the boost**.
-/

import MotoCommon.ExpiryRace

set_option autoImplicit false

namespace Adpf

open Conc Prog World PowerSessionManager SessionTaskMap

/-! ### A living thread -/

namespace World

variable {w w' : World} {tid : ℤ}

/-- No call for this thread has found it dead, and none will. -/
def Alive (w : World) (tid : ℤ) : Prop :=
  w.NeverDead tid ∧ ∀ n, w.env.schedSetattr n tid ≠ ESRCH

theorem Alive.of_same (h : w.Alive tid) (henv : w'.env = w.env)
    (hcalls : w'.schedCalls = w.schedCalls) : w'.Alive tid := by
  unfold Alive NeverDead
  rw [henv, hcalls]
  exact h

theorem Alive.called (h : w.Alive tid) (tid' t : ℤ) (m : SessionTaskMap) :
    Alive { w.called tid' t with mSessionTaskMap := m } tid := by
  refine ⟨fun c hc htid => ?_, h.2⟩
  rcases List.mem_cons.1 hc with rfl | hold
  · obtain rfl : tid' = tid := htid
    exact h.2 _
  · exact h.1 c hold htid

theorem Alive.sweep (s t : ℤ) : ∀ (tids : List ℤ) (i : ℕ) {w : World}, w.Alive tid →
    (sweep s t tids i w).2.Alive tid := by
  intro tids
  induction tids with
  | nil => exact fun _ _ h => h
  | cons tid' tids ih =>
      intro i w h
      by_cases hdead : w.callError tid' = ESRCH
      · rw [sweep_dead hdead]
        exact ih i (h.called tid' t _)
      · rw [sweep_alive hdead]
        exact ih (i + 1) (h.called tid' t w.mSessionTaskMap)

/-- What `applyUclampLocked` does to a living thread: it keeps its sessions, and gets its range if the
session has it. -/
theorem applyUclampLocked_alive (hw : Wf w.mSessionTaskMap) (hon : w.adpfConfig.mUclampMinOn = true)
    (halive : w.Alive tid) (s t : ℤ) :
    (w.applyUclampLocked s t).Alive tid ∧
      (w.applyUclampLocked s t).mSessionTaskMap.getSessionIds tid =
        w.mSessionTaskMap.getSessionIds tid ∧
      (w.applyUclampLocked s t).lastRange tid =
        if tid ∈ w.mSessionTaskMap.getTaskIds s then some (clampRange (w.taskRange tid t))
        else w.lastRange tid := by
  unfold applyUclampLocked
  cases hp : w.mSessionTaskMap.findSession s with
  | none =>
      have hnil : w.mSessionTaskMap.getTaskIds s = [] := by
        have hnone : w.mSessionTaskMap.mSessions.lookup s = none := by simpa [findSession] using hp
        simp [getTaskIds, hnone]
      simp [hnil, halive]
  | some p =>
      simp only [hon, if_true]
      have hswept := (sweepSession_swept hw.toConsistent hp t).1
      have halive' : (w.sweepSession s t).2.Alive tid := halive.sweep s t _ 0
      refine ⟨halive'.of_same rfl rfl, ?_, ?_⟩
      · rw [getSessionIds_touch, hswept.getSessionIds halive'.1]
      · by_cases hmem : tid ∈ w.mSessionTaskMap.getTaskIds s
        · rw [if_pos hmem]
          exact hswept.visited tid hmem halive'.1
        · rw [if_neg hmem]
          exact hswept.others tid hmem

theorem applyVotes_alive (hw : Wf w.mSessionTaskMap) (hon : w.adpfConfig.mUclampMinOn = true)
    (halive : w.Alive tid) (s t : ℤ) :
    (w.applyVotes s t).Alive tid ∧
      (w.applyVotes s t).mSessionTaskMap.getSessionIds tid = w.mSessionTaskMap.getSessionIds tid ∧
      (w.applyVotes s t).lastRange tid =
        if tid ∈ w.mSessionTaskMap.getTaskIds s then some (clampRange (w.taskRange tid t))
        else w.lastRange tid := by
  -- the writes to the GPU node concern no thread
  have hgpu : ∀ u : World, (u.applyGpuVotesLocked s t).env = u.env ∧
      (u.applyGpuVotesLocked s t).schedCalls = u.schedCalls ∧
      (u.applyGpuVotesLocked s t).mSessionTaskMap.getSessionIds tid =
        u.mSessionTaskMap.getSessionIds tid := by
    intro u
    unfold applyGpuVotesLocked
    cases hp : u.mSessionTaskMap.findSession s with
    | none => exact ⟨rfl, rfl, rfl⟩
    | some p =>
        rw [getSessionIds_touch]
        cases u.env.mGpuCapacityNode with
        | none => exact ⟨rfl, rfl, rfl⟩
        | some ptr => cases u.adpfConfig.mGpuBoostOn <;> cases ptr <;> exact ⟨rfl, rfl, rfl⟩
  obtain ⟨ha, hl, hr⟩ := applyUclampLocked_alive hw hon halive s t
  obtain ⟨henv, hcalls, hlinks⟩ := hgpu (w.applyUclampLocked s t)
  refine ⟨ha.of_same henv hcalls, hlinks.trans hl, ?_⟩
  rw [← hr]
  unfold applyVotes lastRange
  rw [hcalls]

end World

namespace SessionTaskMap

variable {m m' : SessionTaskMap}

/-- A vote of a session: its timing. -/
def timing? (m : SessionTaskMap) (s id : ℤ) : Option VoteRange :=
  (m.votes? s).bind fun vs => vs.timing? id

/-- A CPU vote of a session. -/
def cpuVote? (m : SessionTaskMap) (s id : ℤ) : Option CpuVote :=
  (m.votes? s).bind fun vs => vs.mCpuVotes.lookup id

/-- At time `t` some active session of the thread has a vote for a minimum of at least `x`, other
than those of the list. -/
def AsksFor (m : SessionTaskMap) (tid t x : ℤ) (without : List (ℤ × ℤ)) : Prop :=
  ∃ s ∈ m.getSessionIds tid, ∃ id v, (s, id) ∉ without ∧ m.isActive s = true ∧
    m.cpuVote? s id = some v ∧ v.isTimeInRange t = true ∧ x ≤ v.mUclampRange.uclampMin

theorem AsksFor.nil {tid t x : ℤ} {without : List (ℤ × ℤ)} (h : m.AsksFor tid t x without) :
    m.AsksFor tid t x [] := by
  obtain ⟨s, hs, id, v, -, h⟩ := h
  exact ⟨s, hs, id, v, List.not_mem_nil, h⟩

theorem mem_demands {tid : ℤ} {votes : UMap ℤ CpuVote} : votes ∈ m.demands tid ↔
    ∃ s ∈ m.getSessionIds tid, m.isActive s = true ∧ (m.votes? s).map Votes.mCpuVotes = some votes := by
  unfold demands demand? isActive
  rw [List.mem_filterMap]
  refine exists_congr fun s => and_congr_right fun _ => ?_
  cases (m.state? s).elim false SessionValueEntry.isActive <;> simp

/-- The minimum that a thread is given, after it was clamped. -/
theorem le_clamped_min (hm : Consistent m) (tid t : ℤ) (base off : Option ℤ) {x : ℤ}
    (hx : x ≤ kUclampMax) :
    x ≤ (clampRange (m.getTaskVoteRange tid t {} base off)).uclampMin ↔
      x ≤ 0 ∨ m.AsksFor tid t x [] := by
  have hclamp : x ≤ (clampRange (m.getTaskVoteRange tid t {} base off)).uclampMin ↔
      x ≤ 0 ∨ x ≤ (m.getTaskVoteRange tid t {} base off).uclampMin := by
    simp only [clampRange, le_min_iff, le_max_iff, kUclampMin, hx, and_true]
  rw [hclamp, le_getTaskVoteRange_min hm, ← or_assoc, or_self]
  refine or_congr_right ⟨?_, ?_⟩
  · rintro ⟨votes, hmem, id, v, hl, hin, hle⟩
    obtain ⟨s, hs, hact, hvotes⟩ := mem_demands.1 hmem
    obtain ⟨vs, hvs, rfl⟩ := Option.map_eq_some_iff.1 hvotes
    exact ⟨s, hs, id, v, List.not_mem_nil, hact, by simpa [cpuVote?, hvs] using hl, hin, hle⟩
  · rintro ⟨s, hs, id, v, -, hact, hl, hin, hle⟩
    obtain ⟨vs, hvs, hl⟩ := Option.bind_eq_some_iff.1 hl
    exact ⟨vs.mCpuVotes, mem_demands.2 ⟨s, hs, hact, by rw [hvs]; rfl⟩, id, v, hl, hin, hle⟩

end SessionTaskMap

namespace World

variable {w : World} {s s' id : ℤ} {f : Votes → Votes}

/-- What a change of a session's votes leaves alone is found as before. -/
theorem bind_votes?_writeVotes {α : Type} {view : Votes → Option α} (hw : Wf w.mSessionTaskMap)
    (hf : s' = s → ∀ vs, view (f vs) = view vs) :
    ((w.writeVotes s f).mSessionTaskMap.votes? s').bind view =
      (w.mSessionTaskMap.votes? s').bind view := by
  rw [votes?_writeVotes hw]
  by_cases hs : s' = s
  · rw [if_pos hs, hs]
    cases w.mSessionTaskMap.votes? s with
    | none => rfl
    | some vs => exact hf hs vs
  · rw [if_neg hs]

theorem timing?_writeVotes (hw : Wf w.mSessionTaskMap)
    (hf : s' = s → ∀ vs, (f vs).timing? id = vs.timing? id) :
    (w.writeVotes s f).mSessionTaskMap.timing? s' id = w.mSessionTaskMap.timing? s' id :=
  bind_votes?_writeVotes hw hf

theorem cpuVote?_writeVotes (hw : Wf w.mSessionTaskMap)
    (hf : s' = s → ∀ vs, (f vs).mCpuVotes.lookup id = vs.mCpuVotes.lookup id) :
    (w.writeVotes s f).mSessionTaskMap.cpuVote? s' id = w.mSessionTaskMap.cpuVote? s' id :=
  bind_votes?_writeVotes hw hf

/-- `handleEvent` finds a vote timed out exactly when it is active and its time is over. -/
theorem expireSection_expired_iff {e : Timeout} {t : ℤ} :
    (w.expireSection e t).1 = .expired ↔
      ∃ v, w.mSessionTaskMap.timing? e.sessionId e.voteId = some v ∧ v.mActive = true ∧
        v.endTime ≤ t := by
  cases hp : w.mSessionTaskMap.findSession e.sessionId with
  | none =>
      rw [expireSection_none hp]
      simp [SessionTaskMap.timing?, votes?_eq_none.2 hp]
  | some p =>
      have hvotes : w.mSessionTaskMap.timing? e.sessionId e.voteId =
          (w.mSessionTaskMap.votesOf p).timing? e.voteId := by
        simp [SessionTaskMap.timing?, votes?_of_findSession hp]
      rw [hvotes]
      unfold expireSection Votes.voteIsActive Votes.voteTimeout
      simp only [hp]
      cases (w.mSessionTaskMap.votesOf p).timing? e.voteId with
      | none => simp
      | some v =>
          simp only [Option.elim_some, Option.some.injEq, exists_eq_left']
          by_cases hact : v.mActive = true
          · by_cases hend : v.endTime ≤ t <;> simp [hact, hend]
          · simp [hact]

/-- What the first section of `handleEvent` does to the map. -/
theorem expireSection_map (e : Timeout) (t : ℤ) (w : World) :
    (w.expireSection e t).2.env = w.env ∧ (w.expireSection e t).2.adpfConfig = w.adpfConfig ∧
      (w.expireSection e t).2.schedCalls = w.schedCalls ∧
      (w.expireSection e t).2.mSessionTaskMap =
        if (w.expireSection e t).1 = .expired then
          (w.writeVotes e.sessionId fun vs => (vs.setUseVote e.voteId false).2).mSessionTaskMap
        else w.mSessionTaskMap := by
  cases hp : w.mSessionTaskMap.findSession e.sessionId with
  | none =>
      rw [expireSection_none hp]
      exact ⟨rfl, rfl, rfl, rfl⟩
  | some p =>
      rcases expireSection_cases hp t with ⟨-, heq⟩ | ⟨-, -, heq⟩ | ⟨-, -, heq⟩
      · rw [heq]
        exact ⟨rfl, rfl, rfl, rfl⟩
      · have hp' : ({ w with running := w.running.erase e } : World).mSessionTaskMap.findSession
            e.sessionId = some p := hp
        rw [heq, writeVotes_some hp', writeVotes_some hp]
        exact ⟨rfl, rfl, rfl, rfl⟩
      · rw [heq]
        exact ⟨rfl, rfl, rfl, rfl⟩

end World

namespace Race

variable {r : Race}

/-! ### When a boost is lost -/

/-- The minimum that is asked for, after it was clamped. -/
def clampedMin (r : Race) : ℤ := min (max kUclampMin r.uclampMin) kUclampMax

/-- The thread has at least the minimum that is asked for. -/
def Kept (r : Race) (tid : ℤ) (w : World) : Prop :=
  ∃ range, w.lastRange tid = some range ∧ r.clampedMin ≤ range.uclampMin

/-- The vote that is set. -/
def newVote (r : Race) : CpuVote where
  mActive := true
  mStartTime := r.startTime
  mDurationNs := r.durationNs
  mUclampRange := ⟨r.uclampMin, r.uclampMax⟩

/-- The session and the id of the vote that is set. -/
def voteKey (r : Race) : ℤ × ℤ := (r.sessionId, r.voteId.toInt)

/-- The session and the id of the vote that the event is about. -/
def eventKey (r : Race) : ℤ × ℤ := (r.event.sessionId, r.event.voteId)

/-- Clamps are in use; the session is active and has the thread, which is alive; the new vote is one
about the CPU, and `handleEvent` does not begin after its timeout. -/
structure Fits (r : Race) (tid : ℤ) : Prop where
  wf : Wf r.world.mSessionTaskMap
  minOn : r.world.adpfConfig.mUclampMinOn = true
  active : r.world.mSessionTaskMap.isActive r.sessionId = true
  linked : tid ∈ r.world.mSessionTaskMap.getTaskIds r.sessionId
  alive : r.world.Alive tid
  cpu : isGpuVote r.voteId.toInt = false
  lasts : r.startTime ≤ r.newVote.endTime
  early : r.tNow < r.newVote.endTime

/-- The vote of the event has timed out. -/
def Expired (r : Race) : Prop :=
  ∃ v, r.world.mSessionTaskMap.timing? r.event.sessionId r.event.voteId = some v ∧
    v.mActive = true ∧ v.endTime ≤ r.tNow

/-- The vote of the event has timed out, the event's session has the thread as well, the new vote
starts after `handleEvent` read the clock, and no other vote asked for as much at that time. -/
structure Loses (r : Race) (tid : ℤ) : Prop where
  expired : r.Expired
  shared : tid ∈ r.world.mSessionTaskMap.getTaskIds r.event.sessionId
  later : r.tNow < r.startTime
  positive : 0 < r.clampedMin
  alone : ¬ r.world.mSessionTaskMap.AsksFor tid r.tNow r.clampedMin [r.voteKey, r.eventKey]

/-- What is left of the common state, section by section. -/
structure Sees (r : Race) (tid : ℤ) (b : Bool) (ph : Phase) (w : World) : Prop where
  wf : Wf w.mSessionTaskMap
  minOn : w.adpfConfig.mUclampMinOn = true
  alive : w.Alive tid
  links : w.mSessionTaskMap.getSessionIds tid = r.world.mSessionTaskMap.getSessionIds tid
  states : ∀ s, w.mSessionTaskMap.state? s = r.world.mSessionTaskMap.state? s
  /-- The votes are as they were, but for the two. -/
  timings : ∀ s id, (b = true → (s, id) ≠ r.voteKey) →
    (ph = .expired ∨ ph = .done → (s, id) ≠ r.eventKey) →
    w.mSessionTaskMap.timing? s id = r.world.mSessionTaskMap.timing? s id
  cpuVotes : ∀ s id, (b = true → (s, id) ≠ r.voteKey) →
    (ph = .expired ∨ ph = .done → (s, id) ≠ r.eventKey) →
    w.mSessionTaskMap.cpuVote? s id = r.world.mSessionTaskMap.cpuVote? s id
  /-- The new vote is there once it is set. -/
  new : b = true → w.mSessionTaskMap.cpuVote? r.sessionId r.voteId.toInt = some r.newVote
  /-- The vote of the event is found timed out only if it is so, and then it is off, unless the new
  vote took its place. -/
  expired : ph = .expired → r.Expired
  off : ph = .expired → (b = true → r.eventKey ≠ r.voteKey) →
    ∀ v, w.mSessionTaskMap.cpuVote? r.event.sessionId r.event.voteId = some v → v.mActive = false

variable {tid : ℤ}

theorem clampedMin_le : r.clampedMin ≤ kUclampMax := min_le_right ..

/-- The vote just set asks for the minimum, at every time in its range. -/
theorem clampedMin_le_newVote : r.clampedMin ≤ 0 ∨ r.clampedMin ≤ r.newVote.mUclampRange.uclampMin := by
  simp only [clampedMin, newVote, kUclampMin, kUclampMax]
  omega

/-- Whether the thread has the minimum after it was given its range at time `t`. -/
theorem kept_of_lastRange {w u : World} (hu : Wf u.mSessionTaskMap) {t : ℤ}
    (h : w.lastRange tid = some (clampRange (u.taskRange tid t))) :
    r.Kept tid w ↔ r.clampedMin ≤ 0 ∨ u.mSessionTaskMap.AsksFor tid t r.clampedMin [] := by
  rw [← le_clamped_min hu.toConsistent tid t _ _ clampedMin_le]
  constructor
  · rintro ⟨range, hrange, hle⟩
    obtain rfl := Option.some.inj (h.symm.trans hrange)
    exact hle
  · exact fun hle => ⟨_, h, hle⟩

theorem linked_iff {b : Bool} {ph : Phase} {w : World} (h : r.Sees tid b ph w) (s : ℤ)
    (hr : Wf r.world.mSessionTaskMap) :
    tid ∈ w.mSessionTaskMap.getTaskIds s ↔ tid ∈ r.world.mSessionTaskMap.getTaskIds s := by
  rw [← mem_getSessionIds h.wf.toConsistent, ← mem_getSessionIds hr.toConsistent, h.links]

theorem isActive_eq {b : Bool} {ph : Phase} {w : World} (h : r.Sees tid b ph w) (s : ℤ) :
    w.mSessionTaskMap.isActive s = r.world.mSessionTaskMap.isActive s := by
  unfold SessionTaskMap.isActive
  rw [h.states]

/-- The new vote counts for the thread at every time in its range. -/
theorem Sees.asksFor_new {b : Bool} {ph : Phase} {w : World} (h : r.Sees tid b ph w) (hr : r.Fits tid)
    (hb : b = true) {t : ℤ} (ht : r.startTime ≤ t ∧ t ≤ r.newVote.endTime) :
    r.clampedMin ≤ 0 ∨ w.mSessionTaskMap.AsksFor tid t r.clampedMin [] := by
  refine clampedMin_le_newVote.imp_right fun hle => ?_
  refine ⟨r.sessionId, ?_, r.voteId.toInt, r.newVote, List.not_mem_nil, ?_, h.new hb, ?_, hle⟩
  · rw [h.links, mem_getSessionIds hr.wf.toConsistent]
    exact hr.linked
  · rw [isActive_eq h]
    exact hr.active
  · exact (VoteRange.isTimeInRange_iff _ _).2 ⟨rfl, ht⟩

theorem Sees.start (hr : r.Fits tid) : r.Sees tid false .entry r.world where
  wf := hr.wf
  minOn := hr.minOn
  alive := hr.alive
  links := rfl
  states := fun _ => rfl
  timings := fun _ _ _ _ => rfl
  cpuVotes := fun _ _ _ _ => rfl
  new := by simp
  expired := by simp
  off := by simp

section Steps

variable {b : Bool} {ph ph' : Phase} {w w' : World}

/-- Later phases ask for less. -/
theorem Sees.phase (h : r.Sees tid b ph w) (hph : ph = .expired ∨ ph = .done → ph' = .done)
    (hexp : ph' ≠ .expired) : r.Sees tid b ph' w where
  wf := h.wf
  minOn := h.minOn
  alive := h.alive
  links := h.links
  states := h.states
  timings := fun s id hb he => h.timings s id hb fun hp => he (Or.inr (hph hp))
  cpuVotes := fun s id hb he => h.cpuVotes s id hb fun hp => he (Or.inr (hph hp))
  new := h.new
  expired := fun hp => absurd hp hexp
  off := fun hp => absurd hp hexp

/-- A step that keeps the sessions and the votes, and the sessions of the thread. -/
theorem Sees.same (h : r.Sees tid b ph w) (hwf : Wf w'.mSessionTaskMap)
    (hstate : ∀ s, w'.mSessionTaskMap.state? s = w.mSessionTaskMap.state? s)
    (hvotes : ∀ s, w'.mSessionTaskMap.votes? s = w.mSessionTaskMap.votes? s)
    (hconf : w'.adpfConfig = w.adpfConfig) (halive : w'.Alive tid)
    (hlinks : w'.mSessionTaskMap.getSessionIds tid = w.mSessionTaskMap.getSessionIds tid) :
    r.Sees tid b ph w' := by
  have htiming : ∀ s id, w'.mSessionTaskMap.timing? s id = w.mSessionTaskMap.timing? s id := by
    intro s id
    unfold SessionTaskMap.timing?
    rw [hvotes]
  have hcpu : ∀ s id, w'.mSessionTaskMap.cpuVote? s id = w.mSessionTaskMap.cpuVote? s id := by
    intro s id
    unfold SessionTaskMap.cpuVote?
    rw [hvotes]
  refine ⟨hwf, hconf ▸ h.minOn, halive, hlinks.trans h.links,
    fun s => (hstate s).trans (h.states s), ?_, ?_, ?_, h.expired, ?_⟩
  · intro s id hb he
    rw [htiming]
    exact h.timings s id hb he
  · intro s id hb he
    rw [hcpu]
    exact h.cpuVotes s id hb he
  · intro hb
    rw [hcpu]
    exact h.new hb
  · rw [hcpu]
    exact h.off

/-- The vote is written. -/
theorem Sees.write (h : r.Sees tid false ph w) (hr : r.Fits tid) :
    r.Sees tid true ph (w.writeVotes r.sessionId (r.ballot.add r.newEvent r.durationNs)) := by
  have honly := onlyMap_writeVotes w r.sessionId (r.ballot.add r.newEvent r.durationNs)
  rw [OnlyMap] at honly
  have hadd : ∀ vs, r.ballot.add r.newEvent r.durationNs vs = vs.addCpu r.voteId.toInt r.newVote :=
    fun _ => rfl
  have hne : ∀ {s id}, (true = true → (s, id) ≠ r.voteKey) → s = r.sessionId →
      id ≠ r.voteId.toInt := by
    rintro s id hkey rfl rfl
    exact hkey rfl rfl
  have hcpu : ∀ {s id}, (true = true → (s, id) ≠ r.voteKey) →
      (w.writeVotes r.sessionId (r.ballot.add r.newEvent r.durationNs)).mSessionTaskMap.cpuVote? s id =
        w.mSessionTaskMap.cpuVote? s id := by
    intro s id hkey
    refine cpuVote?_writeVotes h.wf fun hs vs => ?_
    rw [hadd, Votes.mCpuVotes_addCpu hr.cpu, AList.lookup_insert_ne (hne hkey hs)]
  refine ⟨wf_writeVotes h.wf _ _, by rw [honly]; exact h.minOn, h.alive.of_same (by rw [honly])
    (by rw [honly]), (getSessionIds_writeVotes ..).trans h.links,
    fun s => (state?_writeVotes ..).trans (h.states s), ?_, ?_, fun _ => ?_, h.expired, ?_⟩
  · intro s id hb he
    rw [timing?_writeVotes h.wf fun hs vs => by
      rw [hadd, Votes.timing?_addCpu hr.cpu, if_neg (hne hb hs)]]
    exact h.timings s id (by simp) he
  · intro s id hb he
    exact (hcpu hb).trans (h.cpuVotes s id (by simp) he)
  · have hact : w.mSessionTaskMap.isActive r.sessionId = true := (isActive_eq h _).trans hr.active
    have hsome : w.mSessionTaskMap.votes? r.sessionId ≠ none := by
      intro hnone
      have hs : w.mSessionTaskMap.state? r.sessionId = none := by
        simp [SessionTaskMap.state?, votes?_eq_none.1 hnone]
      simp [SessionTaskMap.isActive, hs] at hact
    obtain ⟨vs, hvs⟩ := Option.ne_none_iff_exists'.1 hsome
    simp [SessionTaskMap.cpuVote?, votes?_writeVotes h.wf, hvs, hadd, Votes.mCpuVotes_addCpu hr.cpu]
  · intro hph hkey
    rw [hcpu hkey]
    exact h.off hph (by simp)

/-- The section of `voteSet`: the vote is there, and the thread has its boost. -/
theorem Sees.vote (h : r.Sees tid false ph w) (hr : r.Fits tid) :
    r.Sees tid true ph (r.vote w) ∧ r.Kept tid (r.vote w) := by
  have hwrite := h.write hr
  have hp : ∃ p, w.mSessionTaskMap.findSession r.newEvent.sessionId = some p := by
    have hmem := (linked_iff h r.sessionId hr.wf).2 hr.linked
    rw [← mem_getSessionIds h.wf.toConsistent] at hmem
    exact Option.ne_none_iff_exists'.1 (findSession_ne_none_of_mem_getSessionIds h.wf.toConsistent hmem)
  obtain ⟨p, hp⟩ := hp
  have hp' := (findSession_writeVotes w r.sessionId (r.ballot.add r.newEvent r.durationNs) _).trans hp
  -- the value is touched, then the session is swept at the start time
  have hval := touch_refreshes hwrite.wf hp' r.startTime
  have htouch := hwrite.same hval.wf hval.state? hval.votes? rfl (hwrite.alive.of_same rfl rfl)
    (getSessionIds_touch ..)
  obtain ⟨halive, hlinks, hlast⟩ :=
    applyUclampLocked_alive htouch.wf htouch.minOn htouch.alive r.sessionId r.startTime
  have hsweep := applyUclampLocked_refreshes htouch.wf r.sessionId r.startTime
  have hvoted : r.Sees tid true ph (w.voted r.newEvent r.durationNs r.ballot p) :=
    htouch.same hsweep.wf hsweep.state? hsweep.votes?
      (onlyOutputs_applyUclampLocked _ r.sessionId r.startTime).frame.adpfConfig halive hlinks
  have hkept : r.Kept tid (w.voted r.newEvent r.durationNs r.ballot p) := by
    rw [if_pos ((linked_iff htouch r.sessionId hr.wf).2 hr.linked)] at hlast
    exact (kept_of_lastRange htouch.wf hlast).2 (htouch.asksFor_new hr rfl ⟨le_rfl, hr.lasts⟩)
  unfold Race.vote
  rw [voteSection_some hp]
  dsimp only
  split
  · exact ⟨⟨hvoted.wf, hvoted.minOn, hvoted.alive, hvoted.links, hvoted.states, hvoted.timings,
      hvoted.cpuVotes, hvoted.new, hvoted.expired, hvoted.off⟩, hkept⟩
  · exact ⟨hvoted, hkept⟩

/-- The event's vote is found timed out only if it is so in the common state: a vote that was just
set has not timed out. -/
theorem Sees.expired_of_read (h : r.Sees tid b .read w) (hr : r.Fits tid)
    (hexp : (r.expire w).1 = .expired) : r.Expired ∧ (b = true → r.voteKey ≠ r.eventKey) := by
  obtain ⟨v, hv, hact, hend⟩ := expireSection_expired_iff.1 hexp
  have hkey : b = true → r.voteKey ≠ r.eventKey := by
    intro hb heq
    obtain ⟨hs, hid⟩ := Prod.mk.inj heq
    obtain ⟨vs, hvs, hl⟩ := Option.bind_eq_some_iff.1 (h.new hb)
    have hnew : w.mSessionTaskMap.timing? r.event.sessionId r.event.voteId =
        some r.newVote.toVoteRange := by
      rw [← hs, ← hid]
      simp [SessionTaskMap.timing?, hvs, Votes.timing?_of_cpu hl]
    obtain rfl := Option.some.inj (hnew.symm.trans hv)
    have hearly := hr.early
    omega
  refine ⟨⟨v, ?_, hact, hend⟩, hkey⟩
  rw [← h.timings r.event.sessionId r.event.voteId (fun hb => (hkey hb).symm) (by simp)]
  exact hv

/-- The first section of `handleEvent`, when the vote has timed out. -/
theorem Sees.expire (h : r.Sees tid b .read w) (hr : r.Fits tid)
    (hexp : (r.expire w).1 = .expired) :
    r.Sees tid b .expired (r.expire w).2 ∧ (r.expire w).2.lastRange tid = w.lastRange tid := by
  obtain ⟨hexpired, hkey⟩ := h.expired_of_read hr hexp
  obtain ⟨henv, hconf, hcalls, hmap⟩ := expireSection_map r.event r.tNow w
  rw [if_pos (show (w.expireSection r.event r.tNow).1 = .expired from hexp)] at hmap
  have hne : ∀ {s id}, (s, id) ≠ r.eventKey → s = r.event.sessionId → id ≠ r.event.voteId := by
    rintro s id hkey rfl rfl
    exact hkey rfl
  have hcpu : ∀ s id, (s, id) ≠ r.eventKey →
      (r.expire w).2.mSessionTaskMap.cpuVote? s id = w.mSessionTaskMap.cpuVote? s id := by
    intro s id hse
    unfold Race.expire
    rw [hmap, cpuVote?_writeVotes h.wf]
    intro hs vs
    rw [Votes.setUseVote, Votes.lookup_mCpuVotes_modifyTiming]
    simp [hne hse hs]
  refine ⟨⟨?_, ?_, h.alive.of_same henv hcalls, ?_, ?_, ?_, ?_, ?_, fun _ => hexpired, ?_⟩, ?_⟩
  · exact hmap ▸ wf_writeVotes h.wf _ _
  · exact hconf ▸ h.minOn
  · exact hmap ▸ (getSessionIds_writeVotes ..).trans h.links
  · exact fun s => hmap ▸ (state?_writeVotes ..).trans (h.states s)
  · intro s id hb he
    refine Eq.trans ?_ (h.timings s id hb (by simp))
    unfold Race.expire
    rw [hmap, timing?_writeVotes h.wf]
    intro hs vs
    rw [Votes.setUseVote, Votes.timing?_modifyTiming, if_neg (hne (he (Or.inl rfl)) hs)]
  · intro s id hb he
    exact (hcpu s id (he (Or.inl rfl))).trans (h.cpuVotes s id hb (by simp))
  · intro hb
    exact (hcpu r.sessionId r.voteId.toInt (hkey hb)).trans (h.new hb)
  · intro _ _ v hv
    obtain ⟨vs, hvs, hl⟩ := Option.bind_eq_some_iff.1 hv
    unfold Race.expire at hvs
    rw [hmap, votes?_writeVotes h.wf, if_pos rfl] at hvs
    obtain ⟨vs₀, -, rfl⟩ := Option.map_eq_some_iff.1 hvs
    rw [Votes.setUseVote, Votes.lookup_mCpuVotes_modifyTiming] at hl
    obtain ⟨v₀, -, rfl⟩ := Option.map_eq_some_iff.1 hl
    simp [VoteRange.setActive]
  · exact congrArg (fun l => (l.find? fun c => c.tid == tid).map SchedCall.range) hcalls

/-- The first section of `handleEvent`, when the vote has not timed out. -/
theorem Sees.leave (h : r.Sees tid b .read w) (hexp : (r.expire w).1 ≠ .expired) :
    r.Sees tid b .done (r.expire w).2 ∧ (r.expire w).2.lastRange tid = w.lastRange tid := by
  obtain ⟨henv, hconf, hcalls, hmap⟩ := expireSection_map r.event r.tNow w
  rw [if_neg (show (w.expireSection r.event r.tNow).1 ≠ .expired from hexp)] at hmap
  have hsame : r.Sees tid b .read (r.expire w).2 :=
    h.same (hmap ▸ h.wf) (fun s => congrArg (fun m => m.state? s) hmap)
      (fun s => congrArg (fun m => m.votes? s) hmap) hconf (h.alive.of_same henv hcalls)
      (congrArg (fun m => m.getSessionIds tid) hmap)
  refine ⟨hsame.phase (by simp) (by simp), ?_⟩
  exact congrArg (fun l => (l.find? fun c => c.tid == tid).map SchedCall.range) hcalls

/-- The second section of `handleEvent`. -/
theorem Sees.apply (h : r.Sees tid b .expired w) :
    r.Sees tid b .done (r.apply w) ∧ (r.apply w).lastRange tid =
      if tid ∈ w.mSessionTaskMap.getTaskIds r.event.sessionId then
        some (clampRange (w.taskRange tid r.tNow))
      else w.lastRange tid := by
  obtain ⟨halive, hlinks, hlast⟩ :=
    applyVotes_alive h.wf h.minOn h.alive r.event.sessionId r.tNow
  have hrefresh := applyVotes_refreshes h.wf r.event.sessionId r.tNow
  have hsame := h.same hrefresh.wf hrefresh.state? hrefresh.votes?
    (onlyOutputs_applyVotes w r.event.sessionId r.tNow).frame.adpfConfig halive hlinks
  exact ⟨hsame.phase (by simp) (by simp), hlast⟩

end Steps

theorem Kept.of_lastRange {w w' : World} (h : r.Kept tid w)
    (hlast : w'.lastRange tid = w.lastRange tid) : r.Kept tid w' := by
  obtain ⟨range, hrange, hle⟩ := h
  exact ⟨range, hlast.trans hrange, hle⟩

/-- A vote of the common state, other than the two, still counts. -/
theorem Sees.asksFor_old {b : Bool} {ph : Phase} {w : World} (h : r.Sees tid b ph w) {t x : ℤ}
    (hold : r.world.mSessionTaskMap.AsksFor tid t x [r.voteKey, r.eventKey]) :
    w.mSessionTaskMap.AsksFor tid t x [] := by
  obtain ⟨s, hs, id, v, hkey, hact, hv, hin, hle⟩ := hold
  simp only [List.mem_cons, List.not_mem_nil, or_false, not_or] at hkey
  refine ⟨s, h.links ▸ hs, id, v, List.not_mem_nil, (isActive_eq h s).trans hact, ?_, hin, hle⟩
  exact (h.cpuVotes s id (fun _ => hkey.1) fun _ => hkey.2).trans hv

/-- **Over all the orders of the sections**: what is left of the common state, and that the boost is
kept unless it may be lost. -/
theorem At.sees (hr : r.Fits tid) {b : Bool} {ph : Phase} {w : World} (h : r.At b ph w) :
    r.Sees tid b ph w ∧ (b = true → ¬ r.Loses tid → r.Kept tid w) := by
  induction h with
  | start => exact ⟨Sees.start hr, by simp⟩
  | vote _ ih =>
      obtain ⟨hsees, hkept⟩ := ih.1.vote hr
      exact ⟨hsees, fun _ _ => hkept⟩
  | now _ ih => exact ⟨ih.1.phase (by simp) (by simp), ih.2⟩
  | expire _ hexp ih =>
      obtain ⟨hsees, hlast⟩ := ih.1.expire hr hexp
      exact ⟨hsees, fun hb hnot => (ih.2 hb hnot).of_lastRange hlast⟩
  | leave _ hexp ih =>
      obtain ⟨hsees, hlast⟩ := ih.1.leave hexp
      exact ⟨hsees, fun hb hnot => (ih.2 hb hnot).of_lastRange hlast⟩
  | apply _ ih =>
      obtain ⟨hsees, hlast⟩ := ih.1.apply
      refine ⟨hsees, fun hb hnot => ?_⟩
      by_cases hshared : tid ∈ r.world.mSessionTaskMap.getTaskIds r.event.sessionId
      · rw [if_pos ((linked_iff ih.1 _ hr.wf).2 hshared)] at hlast
        rw [kept_of_lastRange ih.1.wf hlast]
        by_contra hlost
        -- neither the new vote nor an old one was counted
        refine hnot ⟨ih.1.expired rfl, hshared, ?_, ?_, ?_⟩
        · by_contra hstart
          have hearly := hr.early
          exact hlost (ih.1.asksFor_new hr hb ⟨by omega, by omega⟩)
        · by_contra hzero
          exact hlost (Or.inl (by omega))
        · exact fun hold => hlost (Or.inr (ih.1.asksFor_old hold))
      · rw [if_neg fun hmem => hshared ((linked_iff ih.1 _ hr.wf).1 hmem)] at hlast
        exact (ih.2 hb hnot).of_lastRange hlast

/-- When the boost may be lost, it is lost by setting the vote between the two sections. -/
theorem Loses.exists_lost (h : r.Loses tid) (hr : r.Fits tid) :
    ∃ c, r.Interleaves c ∧ Finished c ∧ ¬ r.Kept tid c.state := by
  have hexp : (r.expire r.world).1 = .expired := expireSection_expired_iff.2 h.expired
  obtain ⟨c, hreach, hfin, hcore⟩ := exists_between hexp
  refine ⟨c, hreach, hfin, fun hkept => ?_⟩
  have hread : r.Sees tid false .read r.world := (Sees.start hr).phase (by simp) (by simp)
  have hsees := ((hread.expire hr hexp).1.vote hr).1
  have hlast := hsees.apply.2
  rw [if_pos ((linked_iff hsees _ hr.wf).2 h.shared)] at hlast
  have hcalls : (r.apply (r.vote (r.expire r.world).2)).lastRange tid = c.state.lastRange tid := by
    unfold World.lastRange
    rw [hcore.schedCalls]
  have hasks := (kept_of_lastRange hsees.wf hlast).1 (hkept.of_lastRange hcalls)
  rcases hasks with hzero | ⟨s, hs, id, v, -, hact, hv, hin, hle⟩
  · have hpos := h.positive
    omega
  · obtain ⟨hon, hstart, -⟩ := (VoteRange.isTimeInRange_iff _ _).1 hin
    have hlater := h.later
    by_cases hnew : (s, id) = r.voteKey
    · obtain ⟨rfl, rfl⟩ := Prod.mk.inj hnew
      obtain rfl := Option.some.inj ((hsees.new rfl).symm.trans hv)
      have hnewStart : r.newVote.mStartTime = r.startTime := rfl
      omega
    · by_cases hevent : (s, id) = r.eventKey
      · obtain ⟨rfl, rfl⟩ := Prod.mk.inj hevent
        have hoff := hsees.off rfl (fun _ => hnew) v hv
        rw [hoff] at hon
        cases hon
      · have hkeys : (s, id) ∉ [r.voteKey, r.eventKey] := by simp [hnew, hevent]
        refine h.alone ⟨s, hsees.links ▸ hs, id, v, hkeys, (isActive_eq hsees s).symm.trans hact, ?_,
          hin, hle⟩
        exact (hsees.cpuVotes s id (fun _ => hnew) fun _ => hevent).symm.trans hv

end Race

/-- **When no boost is lost to an expiry.**  However the two calls interleave, the thread keeps at
least the minimum of the vote just set, unless the event's vote has timed out, its session shares the
thread, the new vote starts after `handleEvent` read the clock, and no other vote asks for as much. -/
theorem vote_survives_expiry_iff {r : Race} {tid : ℤ} (h : r.Fits tid) :
    (∀ c, r.Interleaves c → Race.Finished c → r.Kept tid c.state) ↔ ¬ r.Loses tid := by
  constructor
  · intro hall hloses
    obtain ⟨c, hreach, hfin, hlost⟩ := hloses.exists_lost h
    exact hlost (hall c hreach hfin)
  · intro hnot c hreach hfin
    obtain ⟨w, hat, hcore⟩ := Race.reach_at hreach hfin
    refine ((hat.sees h).2 rfl hnot).of_lastRange ?_
    unfold World.lastRange
    rw [hcore.schedCalls]

/-- Time passes slowly until the first session is created, and then for a second. -/
def lateEnv : Env where
  delay := fun n => if n < 8 then 1000000 else 1000000000

/-- A session with one thread was created, and the worker has taken the event of its default vote. -/
@[irreducible] def lateWorld : World :=
  (((Op.create 100 10000 [7] 16000000).prog.post (World.init lateEnv makeMockConfig)).pop 0).2

/-- The client votes for a higher load at time `startTime`, while the worker handles the event. -/
def lateRace (startTime : ℤ) : Race where
  world := lateWorld
  sessionId := 1
  voteId := .CPU_LOAD_UP
  uclampMin := 480
  uclampMax := 1024
  startTime := startTime
  durationNs := 32000000
  event := { timeStamp := 8000000, sessionId := 1, voteId := 0, deadline := 24000000 }

theorem lateWorld_sound : Wf lateWorld.mSessionTaskMap ∧ lateWorld.env = lateEnv := by
  obtain ⟨hwf, henv⟩ := Op.post_wf (w := World.init lateEnv makeMockConfig)
    (.create 100 10000 [7] 16000000) Wf.empty
  have hpop : ∀ u : World, Action (fun _ => True) u (u.pop 0).2 := fun u => .pop 0 u
  unfold lateWorld
  exact ⟨(hpop _).wf hwf, (hpop _).env.trans henv⟩

theorem lateWorld_alive : lateWorld.Alive 7 := by
  have herr : ∀ c ∈ lateWorld.schedCalls, c.err ≠ ESRCH := by decide +kernel
  have hzero : (0 : ℤ) ≠ ESRCH := by decide
  refine ⟨fun c hc _ => herr c hc, fun n => ?_⟩
  rw [lateWorld_sound.2]
  exact hzero

theorem lateRace_fits {startTime : ℤ} (hlasts : startTime ≤ (lateRace startTime).newVote.endTime)
    (hearly : (lateRace startTime).tNow < (lateRace startTime).newVote.endTime) :
    (lateRace startTime).Fits 7 where
  wf := lateWorld_sound.1
  minOn := show lateWorld.adpfConfig.mUclampMinOn = true by decide +kernel
  active := show lateWorld.mSessionTaskMap.isActive 1 = true by decide +kernel
  linked := show 7 ∈ lateWorld.mSessionTaskMap.getTaskIds 1 by decide +kernel
  alive := lateWorld_alive
  cpu := show isGpuVote AdpfVoteType.CPU_LOAD_UP.toInt = false by decide
  lasts := hlasts
  early := hearly

/-- The vote starts when `handleEvent` reads the clock: the thread keeps its boost. -/
theorem vote_survives_expiry_at_once :
    (lateRace 1008000000).Fits 7 ∧
      ∀ c, (lateRace 1008000000).Interleaves c → Race.Finished c →
        (lateRace 1008000000).Kept 7 c.state := by
  have hfits : (lateRace 1008000000).Fits 7 := lateRace_fits (by decide +kernel) (by decide +kernel)
  refine ⟨hfits, (vote_survives_expiry_iff hfits).2 ?_⟩
  intro hloses
  have hlater : ¬ (lateRace 1008000000).tNow < 1008000000 := by decide +kernel
  exact hlater hloses.later

/-- The vote starts a nanosecond later: there is an interleaving in which the thread loses it. -/
theorem vote_lost_to_expiry :
    (lateRace 1008000001).Fits 7 ∧
      ∃ c, (lateRace 1008000001).Interleaves c ∧ Race.Finished c ∧
        ¬ (lateRace 1008000001).Kept 7 c.state := by
  have hfits : (lateRace 1008000001).Fits 7 := lateRace_fits (by decide +kernel) (by decide +kernel)
  have hlow : ¬ (lateRace 1008000001).clampedMin ≤
      (clampRange (lateWorld.taskRange 7 (lateRace 1008000001).tNow)).uclampMin := by decide +kernel
  refine ⟨hfits, Race.Loses.exists_lost ⟨?_, ?_, ?_, ?_, ?_⟩ hfits⟩
  · exact World.expireSection_expired_iff.1 (by decide +kernel)
  · decide +kernel
  · decide +kernel
  · decide +kernel
  · intro hasks
    exact hlow ((le_clamped_min hfits.wf.toConsistent _ _ _ _ Race.clampedMin_le).2
      (Or.inr hasks.nil))

end Adpf
