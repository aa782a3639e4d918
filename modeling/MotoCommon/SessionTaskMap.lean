/-
**The map between sessions and tasks** (`SessionTaskMap.h`, `SessionTaskMap.cpp`,
`SessionValueEntry.h`).

The class keeps two maps.  `mSessions` takes a session id to the session's value and to the list of
the tasks it is linked to; `mTasks` takes a task id to the values of the sessions linked to it.
Both hold the value through a shared pointer, and the entries of `mTasks` are found by comparing
pointers.  So the values live in a heap here (`vals`), and so do the votes, which a value reaches
through a shared pointer of its own (`votes`).

Main definitions:

* `Adpf.SessionTaskMap` and its operations, under their own names;
* `Adpf.SessionTaskMap.unlink` — the search and removal that `remove` makes for each task and
  `removeDeadTaskSessionMap` for one, together with the branch it took;
* `Adpf.SessionTaskMap.sessionsOf` — the pointers of a task, none if the task is unknown.

Main results:

* `Adpf.SessionTaskMap.sessionsOf_linkTasks`, `Adpf.SessionTaskMap.sessionsOf_unlink`,
  `Adpf.SessionTaskMap.sessionsOf_unlinkTasks` — what linking and unlinking do to a task's pointers;
* `Adpf.SessionTaskMap.replace_map`, `Adpf.SessionTaskMap.pruneTask_eq` — the map that `replace`
  and the removal of a dead thread leave.
-/

import Mathlib.Data.List.Count
import Mathlib.Logic.Function.Iterate
import MotoCommon.UClampVoter

set_option autoImplicit false

namespace Adpf

/-- `SessionValueEntry`.  `votes` is the address of the votes. -/
structure SessionValueEntry where
  sessionId : ℤ := 0
  tgid : ℤ := 0
  uid : ℤ := 0
  isActive : Bool := true
  isAppSession : Bool := false
  lastUpdatedTime : ℤ := 0
  votes : ℕ := 0
  isPowerEfficient : Bool := false
  deriving DecidableEq, Repr, Inhabited

/-- `SessionTaskMap::ValEntry`.  `val` is the address of the session's value. -/
structure ValEntry where
  val : ℕ
  linkedTasks : List ℤ
  deriving DecidableEq, Repr, Inhabited

/-- `SessionTaskMap`, with the objects its shared pointers lead to. -/
structure SessionTaskMap where
  vals : Heap SessionValueEntry := Heap.empty
  votes : Heap Votes := Heap.empty
  mSessions : UMap ℤ ValEntry := ∅
  mTasks : UMap ℤ (List ℕ) := ∅

namespace SessionTaskMap

/-! ### The task map -/

/-- Which way a search for a session in a task's list went. -/
inductive UnlinkBranch where
  /-- The pointer was found and erased. -/
  | unlinked
  /-- The task is not in the map: the branch marked as an inconsistent state. -/
  | inconsistentState
  /-- The task does not have the pointer: the branch that should not happen. -/
  | shouldNotHappen
  deriving DecidableEq, Repr

/-- The pointers of a task. -/
def sessionsOf (ts : UMap ℤ (List ℕ)) (taskId : ℤ) : List ℕ := (ts.lookup taskId).getD []

/-- `mTasks[taskId].push_back(p)` for each task of a list. -/
def linkTasks (p : ℕ) (taskIds : List ℤ) (ts : UMap ℤ (List ℕ)) : UMap ℤ (List ℕ) :=
  taskIds.foldl (fun ts t => ts.insert t (sessionsOf ts t ++ [p])) ts

/-- Erase the first occurrence of `p` from the list of a task, and the task with its last one. -/
def unlink (p : ℕ) (taskId : ℤ) (ts : UMap ℤ (List ℕ)) : UnlinkBranch × UMap ℤ (List ℕ) :=
  match ts.lookup taskId with
  | none => (.inconsistentState, ts)
  | some ps =>
      if p ∈ ps then
        (.unlinked, if (ps.erase p).isEmpty then ts.erase taskId else ts.insert taskId (ps.erase p))
      else (.shouldNotHappen, ts)

/-- `unlink` for each task of a list, with the branches taken on the way. -/
def unlinkTasks (p : ℕ) : List ℤ → UMap ℤ (List ℕ) → List UnlinkBranch × UMap ℤ (List ℕ)
  | [], ts => ([], ts)
  | taskId :: taskIds, ts =>
      let r := unlink p taskId ts
      let rs := unlinkTasks p taskIds r.2
      (r.1 :: rs.1, rs.2)

/-! ### The operations -/

def findSession (m : SessionTaskMap) (sessionId : ℤ) : Option ℕ :=
  (m.mSessions.lookup sessionId).map ValEntry.val

/-- Write to a session's value through its pointer. -/
def modifyVal (m : SessionTaskMap) (p : ℕ) (f : SessionValueEntry → SessionValueEntry) :
    SessionTaskMap :=
  { m with vals := m.vals.write p (f (m.vals.read p)) }

/-- The votes of the value at `p`. -/
def votesOf (m : SessionTaskMap) (p : ℕ) : Votes := m.votes.read (m.vals.read p).votes

/-- Write to the votes of the value at `p`. -/
def modifyVotes (m : SessionTaskMap) (p : ℕ) (f : Votes → Votes) : SessionTaskMap :=
  { m with votes := m.votes.write (m.vals.read p).votes (f (m.votesOf p)) }

/-- `add`: whether the session was new, and the map afterwards. -/
def add (m : SessionTaskMap) (sessionId : ℤ) (sv : SessionValueEntry) (taskIds : List ℤ) :
    Bool × SessionTaskMap :=
  match m.mSessions.lookup sessionId with
  | some _ => (false, m)
  | none =>
      let p := m.vals.fresh
      (true,
        { m with
          vals := m.vals.alloc { sv with sessionId := sessionId }
          mSessions := m.mSessions.insert sessionId ⟨p, taskIds⟩
          mTasks := linkTasks p taskIds m.mTasks })

/-- `add` of a value whose votes were made just before. -/
def addNew (m : SessionTaskMap) (sessionId : ℤ) (sv : SessionValueEntry) (votes : Votes)
    (taskIds : List ℤ) : SessionTaskMap :=
  (add { m with votes := m.votes.alloc votes } sessionId { sv with votes := m.votes.fresh }
    taskIds).2

def addVote (m : SessionTaskMap) (sessionId voteId uclampMin uclampMax startTime durationNs : ℤ) :
    SessionTaskMap :=
  match m.mSessions.lookup sessionId with
  | none => m
  | some e => m.modifyVotes e.val fun vs => vs.addCpu voteId
      { mActive := true, mStartTime := startTime, mDurationNs := durationNs,
        mUclampRange := ⟨uclampMin, uclampMax⟩ }

def addGpuVote (m : SessionTaskMap) (sessionId voteId capacity startTime durationNs : ℤ) :
    SessionTaskMap :=
  match m.mSessions.lookup sessionId with
  | none => m
  | some e => m.modifyVotes e.val fun vs => vs.addGpu voteId
      { mActive := true, mStartTime := startTime, mDurationNs := durationNs,
        mCapacity := capacity }

/-- One round of the loop of `getTaskVoteRange`. -/
def confineBySession (m : SessionTaskMap) (timeNow : ℤ)
    (uclampMaxEfficientBase uclampMaxEfficientOffset : Option ℤ) (range : UclampRange) (p : ℕ) :
    UclampRange :=
  let sessInTask := m.vals.read p
  if sessInTask.isActive then
    let range := (m.votesOf p).getUclampRange range timeNow
    match sessInTask.isPowerEfficient, uclampMaxEfficientBase with
    | true, some base =>
        { range with
          -- the cap starts from the minimum so far; sessions later in the list may still raise it
          uclampMax := min range.uclampMax
            (if (m.votesOf p).allTimedOut timeNow then base
              else toInt32 (range.uclampMin + uclampMaxEfficientOffset.getD 0)) }
    | _, _ => range
  else range

def getTaskVoteRange (m : SessionTaskMap) (taskId timeNow : ℤ) (range : UclampRange)
    (uclampMaxEfficientBase uclampMaxEfficientOffset : Option ℤ) : UclampRange :=
  match m.mTasks.lookup taskId with
  -- a task without sessions gets the default range, not the one that was passed in
  | none => {}
  | some ps =>
      ps.foldl (m.confineBySession timeNow uclampMaxEfficientBase uclampMaxEfficientOffset) range

/-- What a session asks for in `getSessionsGpuCapacity`. -/
def gpuRequest (m : SessionTaskMap) (p : ℕ) (time_point : ℤ) : ℤ :=
  ((m.votesOf p).getGpuCapacityRequest time_point).getD 0

def getSessionsGpuCapacity (m : SessionTaskMap) (time_point : ℤ) : ℤ :=
  m.mSessions.entries.foldl (fun acc e => max acc (m.gpuRequest e.2.val time_point)) 0

def getTaskIds (m : SessionTaskMap) (sessionId : ℤ) : List ℤ :=
  (m.mSessions.lookup sessionId).elim [] ValEntry.linkedTasks

/-- `getTaskIds(sessionId).erase(...)` at an index, through the reference `getTaskIds` returns. -/
def eraseTaskId (m : SessionTaskMap) (sessionId : ℤ) (i : ℕ) : SessionTaskMap :=
  match m.mSessions.lookup sessionId with
  | none => m
  | some e =>
      { m with mSessions := m.mSessions.insert sessionId ⟨e.val, e.linkedTasks.eraseIdx i⟩ }

def isAnyAppSessionActive (m : SessionTaskMap) (timePoint : ℤ) : Bool :=
  m.mSessions.entries.any fun e =>
    (m.vals.read e.2.val).isAppSession && (m.vals.read e.2.val).isActive &&
      !(m.votesOf e.2.val).allTimedOut timePoint

def remove (m : SessionTaskMap) (sessionId : ℤ) : Bool × SessionTaskMap :=
  match m.mSessions.lookup sessionId with
  | none => (false, m)
  | some e =>
      (true,
        { m with
          mTasks := (unlinkTasks e.val e.linkedTasks m.mTasks).2
          mSessions := m.mSessions.erase sessionId })

def removeDeadTaskSessionMap (m : SessionTaskMap) (sessionId taskId : ℤ) : Bool × SessionTaskMap :=
  match m.mSessions.lookup sessionId with
  | none => (false, m)
  | some e =>
      let r := unlink e.val taskId m.mTasks
      (decide (r.1 = .unlinked), { m with mTasks := r.2 })

/-- What `replace` returns: its result, the two vectors it appends to, and the map. -/
structure Replaced where
  result : Bool
  addedThreads : List ℤ
  removedThreads : List ℤ
  map : SessionTaskMap

/-- `replace`.  The value is copied from the old object before it goes. -/
def replace (m : SessionTaskMap) (sessionId : ℤ) (taskIds addedThreads removedThreads : List ℤ) :
    Replaced :=
  match m.mSessions.lookup sessionId with
  | none => ⟨false, addedThreads, removedThreads, m⟩
  | some e =>
      let m' := ((m.remove sessionId).2.add sessionId (m.vals.read e.val) taskIds).2
      { result := true
        addedThreads := addedThreads ++ taskIds.filter fun t => decide (t ∉ m.mTasks)
        -- asked of the map after the change, the added ones of the map before it
        removedThreads := removedThreads ++ e.linkedTasks.filter fun t => decide (t ∉ m'.mTasks)
        map := m' }

/-- The two changes `applyUclampLocked` makes when the thread at index `i` of a session's list turns
out to be dead: `removeDeadTaskSessionMap`, with what it returned, and the erasure from the list. -/
def pruneTask (m : SessionTaskMap) (sessionId taskId : ℤ) (i : ℕ) : Bool × SessionTaskMap :=
  let r := m.removeDeadTaskSessionMap sessionId taskId
  (r.1, r.2.eraseTaskId sessionId i)

/-! ### Linking and unlinking, task by task -/

theorem sessionsOf_insert (ts : UMap ℤ (List ℕ)) (t : ℤ) (ps : List ℕ) (t' : ℤ) :
    sessionsOf (ts.insert t ps) t' = if t' = t then ps else sessionsOf ts t' := by
  unfold sessionsOf
  rw [UMap.lookup_insert_eq]
  by_cases h : t' = t <;> simp [h]

/-- Linking appends the pointer to each task as often as the task occurs in the list. -/
theorem sessionsOf_linkTasks (p : ℕ) (taskIds : List ℤ) (ts : UMap ℤ (List ℕ)) (t : ℤ) :
    sessionsOf (linkTasks p taskIds ts) t =
      sessionsOf ts t ++ List.replicate (taskIds.count t) p := by
  induction taskIds generalizing ts with
  | nil => simp [linkTasks]
  | cons t' taskIds ih =>
      have hstep : linkTasks p (t' :: taskIds) ts =
          linkTasks p taskIds (ts.insert t' (sessionsOf ts t' ++ [p])) := rfl
      rw [hstep, ih, sessionsOf_insert]
      by_cases h : t = t'
      · subst h
        rw [if_pos rfl, List.count_cons_self, List.append_assoc, List.replicate_succ]
        rfl
      · rw [if_neg h, List.count_cons_of_ne (Ne.symm h)]

/-- Unlinking erases one occurrence of the pointer, whichever branch it takes. -/
theorem sessionsOf_unlink (p : ℕ) (taskId : ℤ) (ts : UMap ℤ (List ℕ)) (t : ℤ) :
    sessionsOf (unlink p taskId ts).2 t =
      if t = taskId then (sessionsOf ts t).erase p else sessionsOf ts t := by
  unfold unlink
  cases hl : ts.lookup taskId with
  | none =>
      by_cases h : t = taskId
      · subst h
        simp [sessionsOf, hl]
      · simp [h]
  | some ps =>
      have hps : sessionsOf ts taskId = ps := by simp [sessionsOf, hl]
      by_cases hp : p ∈ ps
      · simp only [if_pos hp]
        by_cases he : (ps.erase p).isEmpty
        · simp only [if_pos he]
          by_cases h : t = taskId
          · subst h
            simp [sessionsOf, hl, List.isEmpty_iff.1 he]
          · simp [sessionsOf, h]
        · simp only [if_neg he, sessionsOf_insert]
          by_cases h : t = taskId
          · subst h
            simp [hps]
          · simp [h]
      · simp only [if_neg hp]
        by_cases h : t = taskId
        · subst h
          simp [hps, List.erase_of_not_mem hp]
        · simp [h]

/-- Unlinking from a list of tasks erases the pointer as often as the task occurs in the list. -/
theorem sessionsOf_unlinkTasks (p : ℕ) (taskIds : List ℤ) (ts : UMap ℤ (List ℕ)) (t : ℤ) :
    sessionsOf (unlinkTasks p taskIds ts).2 t =
      (fun l : List ℕ => l.erase p)^[taskIds.count t] (sessionsOf ts t) := by
  induction taskIds generalizing ts with
  | nil => simp [unlinkTasks]
  | cons t' taskIds ih =>
      rw [unlinkTasks, ih, sessionsOf_unlink]
      by_cases h : t = t'
      · subst h
        rw [if_pos rfl, List.count_cons_self, Function.iterate_succ_apply]
      · rw [if_neg h, List.count_cons_of_ne (Ne.symm h)]

/-- Erasing a pointer as often as it occurs leaves the others, in their order. -/
theorem erase_iterate_count (p : ℕ) (l : List ℕ) :
    (fun l : List ℕ => l.erase p)^[l.count p] l = l.filter fun q => decide (q ≠ p) := by
  induction l with
  | nil => rfl
  | cons q l ih =>
      by_cases h : q = p
      · subst h
        rw [List.count_cons_self, Function.iterate_succ_apply, List.erase_cons_head, ih]
        simp
      · -- erasing passes over `q`
        have hcomm : ∀ n (l : List ℕ), (fun l : List ℕ => l.erase p)^[n] (q :: l) =
            q :: (fun l : List ℕ => l.erase p)^[n] l := by
          intro n
          induction n with
          | zero => intro l; rfl
          | succ n ihn =>
              intro l
              rw [Function.iterate_succ_apply, Function.iterate_succ_apply]
              rw [List.erase_cons_tail (by simpa using h), ihn]
        rw [List.count_cons_of_ne h, hcomm, ih]
        simp [h]

theorem count_erase_iterate_of_ne {p q : ℕ} (h : q ≠ p) (n : ℕ) (l : List ℕ) :
    ((fun l : List ℕ => l.erase p)^[n] l).count q = l.count q := by
  induction n generalizing l with
  | zero => rfl
  | succ n ih => rw [Function.iterate_succ_apply, ih, List.count_erase_of_ne h]

/-- No task is in the map with an empty list. -/
def NoEmptyTask (ts : UMap ℤ (List ℕ)) : Prop := ∀ t, ts.lookup t ≠ some []

theorem NoEmptyTask.mem_iff {ts : UMap ℤ (List ℕ)} (h : NoEmptyTask ts) (t : ℤ) :
    t ∈ ts ↔ sessionsOf ts t ≠ [] := by
  rw [← AList.lookup_isSome]
  cases hl : ts.lookup t with
  | none => simp [sessionsOf, hl]
  | some ps =>
      have : ps ≠ [] := by
        rintro rfl
        exact h t hl
      simp [sessionsOf, hl, this]

theorem NoEmptyTask.linkTasks {ts : UMap ℤ (List ℕ)} (h : NoEmptyTask ts) (p : ℕ)
    (taskIds : List ℤ) : NoEmptyTask (linkTasks p taskIds ts) := by
  induction taskIds generalizing ts with
  | nil => exact h
  | cons t taskIds ih =>
      have hstep : NoEmptyTask (ts.insert t (sessionsOf ts t ++ [p])) := by
        intro t'
        rw [UMap.lookup_insert_eq]
        by_cases ht : t' = t
        · simp [ht]
        · simpa [ht] using h t'
      exact ih hstep

theorem NoEmptyTask.unlink {ts : UMap ℤ (List ℕ)} (h : NoEmptyTask ts) (p : ℕ) (taskId : ℤ) :
    NoEmptyTask (unlink p taskId ts).2 := by
  intro t
  unfold SessionTaskMap.unlink
  cases hl : ts.lookup taskId with
  | none => exact h t
  | some ps =>
      by_cases hp : p ∈ ps
      · simp only [if_pos hp]
        by_cases he : (ps.erase p).isEmpty
        · simp only [if_pos he, UMap.lookup_erase_eq]
          by_cases ht : t = taskId
          · simp [ht]
          · simpa [ht] using h t
        · simp only [if_neg he, UMap.lookup_insert_eq]
          by_cases ht : t = taskId
          · simpa [ht, List.isEmpty_iff] using he
          · simpa [ht] using h t
      · simp only [if_neg hp]
        exact h t

theorem NoEmptyTask.unlinkTasks {ts : UMap ℤ (List ℕ)} (h : NoEmptyTask ts) (p : ℕ)
    (taskIds : List ℤ) : NoEmptyTask (unlinkTasks p taskIds ts).2 := by
  induction taskIds generalizing ts with
  | nil => exact h
  | cons t taskIds ih => exact ih (h.unlink p t)

/-- A pointer that a task has is found there. -/
theorem unlink_branch {p : ℕ} {taskId : ℤ} {ts : UMap ℤ (List ℕ)} (h : p ∈ sessionsOf ts taskId) :
    (unlink p taskId ts).1 = .unlinked := by
  unfold unlink
  cases hl : ts.lookup taskId with
  | none => simp [sessionsOf, hl] at h
  | some ps =>
      have hp : p ∈ ps := by simpa [sessionsOf, hl] using h
      simp [hp]

/-- A pointer that every task has often enough is found each time. -/
theorem unlinkTasks_branches {p : ℕ} {taskIds : List ℤ} {ts : UMap ℤ (List ℕ)}
    (h : ∀ t, taskIds.count t ≤ (sessionsOf ts t).count p) :
    ∀ b ∈ (unlinkTasks p taskIds ts).1, b = .unlinked := by
  induction taskIds generalizing ts with
  | nil => simp [unlinkTasks]
  | cons t taskIds ih =>
      have hmem : p ∈ sessionsOf ts t := by
        have := h t
        rw [List.count_cons_self] at this
        exact List.count_pos_iff.1 (by omega)
      have hrest : ∀ t', taskIds.count t' ≤ (sessionsOf (unlink p t ts).2 t').count p := by
        intro t'
        have := h t'
        rw [sessionsOf_unlink]
        by_cases ht : t' = t
        · subst ht
          rw [List.count_cons_self] at this
          rw [if_pos rfl, List.count_erase_self]
          omega
        · rw [List.count_cons_of_ne (Ne.symm ht)] at this
          rwa [if_neg ht]
      intro b hb
      rw [unlinkTasks] at hb
      rcases List.mem_cons.1 hb with rfl | hb
      · exact unlink_branch hmem
      · exact ih hrest b hb

/-! ### The maps that the operations leave -/

theorem add_map {m : SessionTaskMap} {s : ℤ} (h : m.mSessions.lookup s = none)
    (sv : SessionValueEntry) (tasks : List ℤ) :
    (m.add s sv tasks).2 =
      { m with
        vals := m.vals.alloc { sv with sessionId := s }
        mSessions := m.mSessions.insert s ⟨m.vals.size, tasks⟩
        mTasks := linkTasks m.vals.size tasks m.mTasks } := by
  simp only [add, h, Heap.fresh]

theorem remove_map {m : SessionTaskMap} {s : ℤ} {e : ValEntry} (h : m.mSessions.lookup s = some e) :
    (m.remove s).2 =
      { m with
        mTasks := (unlinkTasks e.val e.linkedTasks m.mTasks).2
        mSessions := m.mSessions.erase s } := by
  simp only [remove, h]

/-- `replace` gives a session a new value object, with the old value in it, and new links. -/
theorem replace_map {m : SessionTaskMap} {s : ℤ} {e : ValEntry} (h : m.mSessions.lookup s = some e)
    (tasks added removed : List ℤ) :
    (m.replace s tasks added removed).map =
      { m with
        vals := m.vals.alloc { m.vals.read e.val with sessionId := s }
        mSessions := (m.mSessions.erase s).insert s ⟨m.vals.size, tasks⟩
        mTasks := linkTasks m.vals.size tasks (unlinkTasks e.val e.linkedTasks m.mTasks).2 } := by
  simp only [replace, h, remove_map h]
  rw [add_map (by simp)]

theorem pruneTask_eq {m : SessionTaskMap} {s : ℤ} {e : ValEntry} (h : m.mSessions.lookup s = some e)
    (taskId : ℤ) (i : ℕ) :
    m.pruneTask s taskId i =
      (decide ((unlink e.val taskId m.mTasks).1 = .unlinked),
        { m with
          mSessions := m.mSessions.insert s ⟨e.val, e.linkedTasks.eraseIdx i⟩
          mTasks := (unlink e.val taskId m.mTasks).2 }) := by
  simp only [pruneTask, removeDeadTaskSessionMap, eraseTaskId, h]

/-! ### The range of a task -/

theorem getTaskVoteRange_default (m : SessionTaskMap) (taskId timeNow : ℤ) (base off : Option ℤ) :
    m.getTaskVoteRange taskId timeNow {} base off =
      (sessionsOf m.mTasks taskId).foldl (m.confineBySession timeNow base off) {} := by
  unfold getTaskVoteRange sessionsOf
  cases m.mTasks.lookup taskId <;> rfl

/-- An inactive session does not narrow the range. -/
theorem confineBySession_inactive {m : SessionTaskMap} {p : ℕ}
    (h : (m.vals.read p).isActive = false) (timeNow : ℤ) (base off : Option ℤ) (r : UclampRange) :
    m.confineBySession timeNow base off r p = r := by
  simp [confineBySession, h]

end SessionTaskMap

end Adpf
