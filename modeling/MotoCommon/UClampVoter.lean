/-
**Votes for a utilisation clamp or a GPU capacity** (`UClampVoter.h`, `UClampVoter.cpp`).

A vote counts from its start time for its duration, while it is active.  A session's votes are kept
in two maps, one for the votes about the CPU and one for those about the GPU, and the vote id alone
decides which map it belongs to; `Adpf.Votes` carries that as two of its fields.  Most operations
on a vote only concern its timing and treat both maps alike: they are written over
`Adpf.Votes.timing?` and `Adpf.Votes.modifyTiming`.

Main definitions:

* `Adpf.VoteRange`, `Adpf.CpuVote`, `Adpf.GpuVote`, `Adpf.Votes`;
* `Adpf.Votes.getUclampRange` — the range the CPU votes leave at a time;
* `Adpf.Votes.getGpuCapacityRequest` — the capacity the GPU votes ask for at a time.

Main results:

* `Adpf.Votes.le_getUclampRange_min`, `Adpf.Votes.getUclampRange_max_le` — the range is the largest
  minimum and the smallest maximum of the votes in range, in whatever order they are visited;
* `Adpf.Votes.getGpuCapacityRequest_eq` — the capacity request is the sum of the two votes for a
  capacity that are in range, as far as 32 bits go.
-/

import Mathlib.Algebra.Order.Group.Int
import Mathlib.Order.MinMax
import MotoCommon.AdpfTypes
import MotoCommon.Containers

set_option autoImplicit false

namespace Adpf

/-! ### Ranges and votes -/

@[ext] structure UclampRange where
  uclampMin : ℤ := kUclampMin
  uclampMax : ℤ := kUclampMax
  deriving DecidableEq, Repr, Inhabited

/-- `VoteRange`: whether a vote is used, and when. -/
structure VoteRange where
  mActive : Bool := true
  mStartTime : ℤ := 0
  mDurationNs : ℤ := 0
  deriving DecidableEq, Repr, Inhabited

namespace VoteRange

/-- `startTime() + durationNs()`. -/
def endTime (v : VoteRange) : ℤ := addNanos v.mStartTime v.mDurationNs

def setActive (active : Bool) (v : VoteRange) : VoteRange := { v with mActive := active }

def updateDuration (durationNs : ℤ) (v : VoteRange) : VoteRange :=
  { v with mDurationNs := durationNs }

/-- `isTimeInRange`: both ends of the range belong to it. -/
def isTimeInRange (v : VoteRange) (t : ℤ) : Bool :=
  v.mActive && (decide (v.mStartTime ≤ t) && decide (t ≤ v.endTime))

theorem isTimeInRange_iff (v : VoteRange) (t : ℤ) :
    v.isTimeInRange t = true ↔ v.mActive = true ∧ v.mStartTime ≤ t ∧ t ≤ v.endTime := by
  simp [isTimeInRange]

theorem isTimeInRange_of_inactive {v : VoteRange} (h : v.mActive = false) (t : ℤ) :
    v.isTimeInRange t = false := by
  simp [isTimeInRange, h]

end VoteRange

structure CpuVote extends VoteRange where
  mUclampRange : UclampRange := {}
  deriving DecidableEq, Repr, Inhabited

structure GpuVote extends VoteRange where
  mCapacity : ℤ := 0
  deriving DecidableEq, Repr, Inhabited

/-- `confine`: a vote in range raises the minimum and lowers the maximum. -/
def confine (uclampRange : UclampRange) (cpu_vote : CpuVote) (t : ℤ) : UclampRange :=
  if cpu_vote.isTimeInRange t then
    { uclampMin := max uclampRange.uclampMin cpu_vote.mUclampRange.uclampMin
      uclampMax := min uclampRange.uclampMax cpu_vote.mUclampRange.uclampMax }
  else uclampRange

def isGpuVote (type_raw : ℤ) : Bool :=
  type_raw == AdpfVoteType.GPU_CAPACITY.toInt || type_raw == AdpfVoteType.GPU_LOAD_UP.toInt ||
    type_raw == AdpfVoteType.GPU_LOAD_DOWN.toInt || type_raw == AdpfVoteType.GPU_LOAD_RESET.toInt

/-! ### The votes of a session -/

/-- `Votes`.  `add` is the only way a vote comes in, and it looks at the id; so no GPU vote is ever
among the CPU votes, and no other vote among the GPU votes. -/
structure Votes where
  mCpuVotes : UMap ℤ CpuVote := ∅
  mGpuVotes : UMap ℤ GpuVote := ∅
  cpu_ids : ∀ id ∈ mCpuVotes, isGpuVote id = false := by simp
  gpu_ids : ∀ id ∈ mGpuVotes, isGpuVote id = true := by simp

/-- No votes. -/
def Votes.empty : Votes := {}

instance : Inhabited Votes := ⟨Votes.empty⟩

namespace Votes

/-- `add(int, CpuVote const &)`. -/
def addCpu (vs : Votes) (id : ℤ) (vote : CpuVote) : Votes :=
  if h : isGpuVote id = false then
    { vs with
      mCpuVotes := vs.mCpuVotes.insert id vote
      cpu_ids := by
        intro id' hid'
        rcases (AList.mem_insert _).1 hid' with rfl | hmem
        · exact h
        · exact vs.cpu_ids id' hmem }
  else vs

/-- `add(int, GpuVote const &)`. -/
def addGpu (vs : Votes) (id : ℤ) (vote : GpuVote) : Votes :=
  if h : isGpuVote id = true then
    { vs with
      mGpuVotes := vs.mGpuVotes.insert id vote
      gpu_ids := by
        intro id' hid'
        rcases (AList.mem_insert _).1 hid' with rfl | hmem
        · exact h
        · exact vs.gpu_ids id' hmem }
  else vs

/-- The timing of the vote with a given id, if there is one. -/
def timing? (vs : Votes) (voteId : ℤ) : Option VoteRange :=
  if isGpuVote voteId then (vs.mGpuVotes.lookup voteId).map GpuVote.toVoteRange
  else (vs.mCpuVotes.lookup voteId).map CpuVote.toVoteRange

/-- Change the timing of the vote with a given id, if there is one. -/
def modifyTiming (vs : Votes) (voteId : ℤ) (f : VoteRange → VoteRange) : Votes :=
  if isGpuVote voteId then
    match vs.mGpuVotes.lookup voteId with
    | none => vs
    | some v => vs.addGpu voteId { v with toVoteRange := f v.toVoteRange }
  else
    match vs.mCpuVotes.lookup voteId with
    | none => vs
    | some v => vs.addCpu voteId { v with toVoteRange := f v.toVoteRange }

/-- `setUseVote`: whether the vote was found, and the votes afterwards. -/
def setUseVote (vs : Votes) (voteId : ℤ) (active : Bool) : Bool × Votes :=
  ((vs.timing? voteId).isSome, vs.modifyTiming voteId (VoteRange.setActive active))

def updateDuration (vs : Votes) (voteId : ℤ) (durationNs : ℤ) : Votes :=
  vs.modifyTiming voteId (VoteRange.updateDuration durationNs)

def voteIsActive (vs : Votes) (voteId : ℤ) : Bool :=
  (vs.timing? voteId).elim false VoteRange.mActive

/-- `voteTimeout`: a vote that is not there times out at the clock's epoch. -/
def voteTimeout (vs : Votes) (voteId : ℤ) : ℤ :=
  (vs.timing? voteId).elim 0 VoteRange.endTime

def getUclampRange (vs : Votes) (uclampRange : UclampRange) (t : ℤ) : UclampRange :=
  vs.mCpuVotes.entries.foldl (fun r e => confine r e.2 t) uclampRange

/-- `gpu_capacity_hints`: the votes that add up to a capacity request. -/
def gpu_capacity_hints : List AdpfVoteType := [AdpfVoteType.GPU_CAPACITY, AdpfVoteType.GPU_LOAD_UP]

/-- One round of the loop of `getGpuCapacityRequest`. -/
def addCapacity (vs : Votes) (t : ℤ) (res : Option ℤ) (hint : AdpfVoteType) : Option ℤ :=
  match vs.mGpuVotes.lookup hint.toInt with
  | none => res
  | some v => if v.isTimeInRange t then some (toInt32 (res.getD 0 + v.mCapacity)) else res

def getGpuCapacityRequest (vs : Votes) (t : ℤ) : Option ℤ :=
  gpu_capacity_hints.foldl (vs.addCapacity t) none

def allTimedOut (vs : Votes) (t : ℤ) : Bool :=
  vs.mGpuVotes.entries.all (fun e => !e.2.isTimeInRange t) &&
    vs.mCpuVotes.entries.all (fun e => !e.2.isTimeInRange t)

/-! ### What the operations change -/

theorem mCpuVotes_addCpu {vs : Votes} {id : ℤ} (h : isGpuVote id = false) (v : CpuVote) :
    (vs.addCpu id v).mCpuVotes = vs.mCpuVotes.insert id v := by
  rw [addCpu, dif_pos h]

theorem mGpuVotes_addGpu {vs : Votes} {id : ℤ} (h : isGpuVote id = true) (v : GpuVote) :
    (vs.addGpu id v).mGpuVotes = vs.mGpuVotes.insert id v := by
  rw [addGpu, dif_pos h]

@[simp] theorem mGpuVotes_addCpu (vs : Votes) (id : ℤ) (v : CpuVote) :
    (vs.addCpu id v).mGpuVotes = vs.mGpuVotes := by
  unfold addCpu
  split <;> rfl

@[simp] theorem mCpuVotes_addGpu (vs : Votes) (id : ℤ) (v : GpuVote) :
    (vs.addGpu id v).mCpuVotes = vs.mCpuVotes := by
  unfold addGpu
  split <;> rfl

theorem timing?_of_cpu {vs : Votes} {id : ℤ} {v : CpuVote} (h : vs.mCpuVotes.lookup id = some v) :
    vs.timing? id = some v.toVoteRange := by
  simp [timing?, vs.cpu_ids id (UMap.mem_of_lookup h), h]

theorem timing?_of_gpu {vs : Votes} {id : ℤ} {v : GpuVote} (h : vs.mGpuVotes.lookup id = some v) :
    vs.timing? id = some v.toVoteRange := by
  simp [timing?, vs.gpu_ids id (UMap.mem_of_lookup h), h]

theorem timing?_empty (id : ℤ) : Votes.empty.timing? id = none := by
  simp [timing?, Votes.empty]

theorem timing?_addCpu {vs : Votes} {id : ℤ} (h : isGpuVote id = false) (v : CpuVote) (id' : ℤ) :
    (vs.addCpu id v).timing? id' = if id' = id then some v.toVoteRange else vs.timing? id' := by
  by_cases hid : id' = id
  · subst hid
    simp [timing?, h, mCpuVotes_addCpu h]
  · by_cases hg : isGpuVote id' = true
    · simp [timing?, hg, hid]
    · simp [timing?, hg, hid, mCpuVotes_addCpu h]

theorem timing?_addGpu {vs : Votes} {id : ℤ} (h : isGpuVote id = true) (v : GpuVote) (id' : ℤ) :
    (vs.addGpu id v).timing? id' = if id' = id then some v.toVoteRange else vs.timing? id' := by
  by_cases hid : id' = id
  · subst hid
    simp [timing?, h, mGpuVotes_addGpu h]
  · by_cases hg : isGpuVote id' = true
    · simp [timing?, hg, hid, mGpuVotes_addGpu h]
    · simp [timing?, hg, hid]

/-- A CPU vote is only added under the id of a CPU vote. -/
theorem addCpu_of_gpu {vs : Votes} {id : ℤ} (h : isGpuVote id = true) (v : CpuVote) :
    vs.addCpu id v = vs := by
  rw [addCpu, dif_neg (by simp [h])]

/-- A GPU vote is only added under the id of a GPU vote. -/
theorem addGpu_of_cpu {vs : Votes} {id : ℤ} (h : isGpuVote id = false) (v : GpuVote) :
    vs.addGpu id v = vs := by
  rw [addGpu, dif_neg (by simp [h])]

theorem timing?_modifyTiming (vs : Votes) (id : ℤ) (f : VoteRange → VoteRange) (id' : ℤ) :
    (vs.modifyTiming id f).timing? id' =
      if id' = id then (vs.timing? id).map f else vs.timing? id' := by
  unfold modifyTiming
  by_cases hg : isGpuVote id = true
  · rw [if_pos hg]
    cases hl : vs.mGpuVotes.lookup id with
    | none =>
        have hn : vs.timing? id = none := by simp [timing?, hg, hl]
        by_cases hid : id' = id
        · subst hid
          simp [hn]
        · simp [hid]
    | some v => simp [timing?_addGpu hg, timing?_of_gpu hl]
  · rw [if_neg hg]
    cases hl : vs.mCpuVotes.lookup id with
    | none =>
        have hn : vs.timing? id = none := by simp [timing?, hg, hl]
        by_cases hid : id' = id
        · subst hid
          simp [hn]
        · simp [hid]
    | some v => simp [timing?_addCpu (by simpa using hg), timing?_of_cpu hl]

/-- Turning off a list of votes. -/
def turnOff (vs : Votes) (ids : List AdpfVoteType) : Votes :=
  ids.foldl (fun vs vid => (vs.setUseVote vid.toInt false).2) vs

theorem timing?_turnOff (ids : List AdpfVoteType) (vs : Votes) (id : ℤ) :
    (vs.turnOff ids).timing? id =
      if id ∈ ids.map AdpfVoteType.toInt then (vs.timing? id).map (VoteRange.setActive false)
      else vs.timing? id := by
  induction ids generalizing vs with
  | nil => rfl
  | cons vid ids ih =>
      have hstep : vs.turnOff (vid :: ids) =
          (vs.modifyTiming vid.toInt (VoteRange.setActive false)).turnOff ids := rfl
      rw [hstep, ih, timing?_modifyTiming]
      by_cases hid : id = vid.toInt
      · subst hid
        -- turning a vote off twice is turning it off
        cases vs.timing? vid.toInt <;> simp [VoteRange.setActive]
      · simp [hid]

/-- A change of timing keeps the clamps that the CPU votes ask for, and their ids. -/
theorem lookup_mCpuVotes_modifyTiming (vs : Votes) (id : ℤ) (f : VoteRange → VoteRange) (id' : ℤ) :
    (vs.modifyTiming id f).mCpuVotes.lookup id' =
      (vs.mCpuVotes.lookup id').map fun v =>
        if id' = id then { v with toVoteRange := f v.toVoteRange } else v := by
  unfold modifyTiming
  by_cases hg : isGpuVote id = true
  · -- a GPU vote's id is not among the CPU votes
    have hne : ∀ v, vs.mCpuVotes.lookup id' = some v → id' ≠ id := by
      rintro v hv rfl
      have := vs.cpu_ids id' (UMap.mem_of_lookup hv)
      rw [hg] at this
      cases this
    have hsame : vs.mCpuVotes.lookup id' = (vs.mCpuVotes.lookup id').map fun v =>
        if id' = id then { v with toVoteRange := f v.toVoteRange } else v := by
      cases hl : vs.mCpuVotes.lookup id' with
      | none => rfl
      | some v => simp [hne v hl]
    rw [if_pos hg]
    cases vs.mGpuVotes.lookup id <;> simpa using hsame
  · rw [if_neg hg]
    cases hl : vs.mCpuVotes.lookup id with
    | none =>
        by_cases hid : id' = id
        · subst hid
          simp [hl]
        · simp [hid]
    | some v =>
        by_cases hid : id' = id
        · subst hid
          simp [mCpuVotes_addCpu (by simpa using hg), hl]
        · simp [mCpuVotes_addCpu (by simpa using hg), hid]

/-! ### What the votes ask for -/

/-- `x` is at most the minimum left by a list of votes exactly when it is at most the minimum they
started from, or at most that of a vote in range. -/
theorem le_foldl_confine_min (l : List (Sigma fun _ : ℤ => CpuVote)) (r : UclampRange) (t x : ℤ) :
    x ≤ (l.foldl (fun r e => confine r e.2 t) r).uclampMin ↔
      x ≤ r.uclampMin ∨ ∃ e ∈ l, e.2.isTimeInRange t = true ∧ x ≤ e.2.mUclampRange.uclampMin := by
  induction l generalizing r with
  | nil => simp
  | cons e l ih =>
      rw [List.foldl_cons, ih]
      by_cases he : e.2.isTimeInRange t = true
      · simp [confine, he, or_assoc]
      · simp [confine, he]

/-- The maximum left by a list of votes is at most `x` exactly when that of the start is, or that
of a vote in range. -/
theorem foldl_confine_max_le (l : List (Sigma fun _ : ℤ => CpuVote)) (r : UclampRange) (t x : ℤ) :
    (l.foldl (fun r e => confine r e.2 t) r).uclampMax ≤ x ↔
      r.uclampMax ≤ x ∨ ∃ e ∈ l, e.2.isTimeInRange t = true ∧ e.2.mUclampRange.uclampMax ≤ x := by
  induction l generalizing r with
  | nil => simp
  | cons e l ih =>
      rw [List.foldl_cons, ih]
      by_cases he : e.2.isTimeInRange t = true
      · simp [confine, he, or_assoc]
      · simp [confine, he]

theorem exists_mem_entries_iff (vs : Votes) (p : CpuVote → Prop) :
    (∃ e ∈ vs.mCpuVotes.entries, p e.2) ↔ ∃ id v, vs.mCpuVotes.lookup id = some v ∧ p v := by
  constructor
  · rintro ⟨⟨id, v⟩, hmem, h⟩
    exact ⟨id, v, (UMap.mem_entries_iff _ _ _).1 hmem, h⟩
  · rintro ⟨id, v, hl, h⟩
    exact ⟨⟨id, v⟩, (UMap.mem_entries_iff _ _ _).2 hl, h⟩

theorem le_getUclampRange_min (vs : Votes) (r : UclampRange) (t x : ℤ) :
    x ≤ (vs.getUclampRange r t).uclampMin ↔ x ≤ r.uclampMin ∨
      ∃ id v, vs.mCpuVotes.lookup id = some v ∧ v.isTimeInRange t = true ∧
        x ≤ v.mUclampRange.uclampMin := by
  rw [getUclampRange, le_foldl_confine_min]
  exact or_congr_right
    (exists_mem_entries_iff vs fun v => v.isTimeInRange t = true ∧ x ≤ v.mUclampRange.uclampMin)

theorem getUclampRange_max_le (vs : Votes) (r : UclampRange) (t x : ℤ) :
    (vs.getUclampRange r t).uclampMax ≤ x ↔ r.uclampMax ≤ x ∨
      ∃ id v, vs.mCpuVotes.lookup id = some v ∧ v.isTimeInRange t = true ∧
        v.mUclampRange.uclampMax ≤ x := by
  rw [getUclampRange, foldl_confine_max_le]
  exact or_congr_right
    (exists_mem_entries_iff vs fun v => v.isTimeInRange t = true ∧ v.mUclampRange.uclampMax ≤ x)

/-- The capacity request only depends on the capacities of the two GPU votes in range. -/
theorem getGpuCapacityRequest_congr {vs vs' : Votes} {t t' : ℤ}
    (h : ∀ hint ∈ gpu_capacity_hints, ∀ res,
      vs.addCapacity t res hint = vs'.addCapacity t' res hint) :
    vs.getGpuCapacityRequest t = vs'.getGpuCapacityRequest t' :=
  List.foldl_ext _ _ _ fun res hint hmem => h hint hmem res

/-- The capacity of the vote for a hint, if it is there and in range, and zero otherwise. -/
def capacityInRange (vs : Votes) (t : ℤ) (hint : AdpfVoteType) : ℤ :=
  match vs.mGpuVotes.lookup hint.toInt with
  | none => 0
  | some v => if v.isTimeInRange t then v.mCapacity else 0

/-- The sum of the votes for a capacity that are in range. -/
def capacitySum (vs : Votes) (t : ℤ) : ℤ :=
  gpu_capacity_hints.foldr (fun hint sum => vs.capacityInRange t hint + sum) 0

theorem toInt32_getD_addCapacity (vs : Votes) (t : ℤ) (res : Option ℤ) (hint : AdpfVoteType) (x : ℤ) :
    toInt32 ((vs.addCapacity t res hint).getD 0 + x) =
      toInt32 (res.getD 0 + (vs.capacityInRange t hint + x)) := by
  unfold addCapacity capacityInRange
  split
  · rw [zero_add]
  · split
    · rw [Option.getD_some, toInt32_toInt32_add, add_assoc]
    · rw [zero_add]

/-- The loop adds up the votes in range, and wraps. -/
theorem toInt32_getD_foldl_addCapacity (vs : Votes) (t : ℤ) (hints : List AdpfVoteType)
    (res : Option ℤ) :
    toInt32 ((hints.foldl (vs.addCapacity t) res).getD 0) =
      toInt32 (res.getD 0 + hints.foldr (fun hint sum => vs.capacityInRange t hint + sum) 0) := by
  induction hints generalizing res with
  | nil => rw [List.foldl_nil, List.foldr_nil, add_zero]
  | cons hint hints ih => rw [List.foldl_cons, ih, toInt32_getD_addCapacity, List.foldr_cons]

theorem toInt32_getD_addCapacity_of_narrow {res : Option ℤ} (vs : Votes) (t : ℤ) (hint : AdpfVoteType)
    (h : toInt32 (res.getD 0) = res.getD 0) :
    toInt32 ((vs.addCapacity t res hint).getD 0) = (vs.addCapacity t res hint).getD 0 := by
  unfold addCapacity
  split
  · exact h
  · split
    · exact toInt32_toInt32 _
    · exact h

/-- **The request is the sum of the votes in range**, brought back to 32 bits. -/
theorem getGpuCapacityRequest_eq (vs : Votes) (t : ℤ) :
    (vs.getGpuCapacityRequest t).getD 0 = toInt32 (vs.capacitySum t) := by
  have hsum := toInt32_getD_foldl_addCapacity vs t gpu_capacity_hints none
  rw [Option.getD_none, zero_add] at hsum
  refine Eq.trans (Eq.symm ?_) hsum
  -- each round keeps the sum within 32 bits
  exact toInt32_getD_addCapacity_of_narrow vs t _ (toInt32_getD_addCapacity_of_narrow vs t _ rfl)

end Votes

end Adpf
