/-
**The two maps of `SessionTaskMap` agree.**

`MotoCommon/SessionTaskMap.lean` keeps the link between a session and a task twice: as an
occurrence of the task in the session's list, and as an occurrence of the session's pointer in the
task's list.  This module proves that the two never drift apart, over any sequence of operations:
a session's pointer occurs in a task's list exactly as often as the task occurs in the session's.

Main definitions:

* `Adpf.SessionTaskMap.Consistent` — the invariant;
* `Adpf.SessionTaskMap.MapOp`, `Adpf.SessionTaskMap.Reachable` — the operations on a map, and the
  maps they lead to from the empty one.

Main results:

* `Adpf.SessionTaskMap.Consistent.add`, `Adpf.SessionTaskMap.Consistent.remove`,
  `Adpf.SessionTaskMap.Consistent.replace`, `Adpf.SessionTaskMap.Consistent.pruneTask` — what each
  operation preserves;
* `Adpf.SessionTaskMap.Reachable.consistent` — **the maps agree in every reachable state**;
* `Adpf.SessionTaskMap.Consistent.sessionsOf_replace` — `replace` takes a session out of the list
  of each task and puts its new value at the end.
-/

import Mathlib.Data.List.Perm.Basic
import MotoCommon.SessionTaskMap

set_option autoImplicit false

namespace Adpf.SessionTaskMap

/-! ### The invariant -/

/-- The two maps agree. -/
structure Consistent (m : SessionTaskMap) : Prop where
  /-- A session's pointer occurs in a task's list as often as the task in the session's. -/
  links : ∀ {s : ℤ} {e : ValEntry}, m.mSessions.lookup s = some e →
    ∀ t, (sessionsOf m.mTasks t).count e.val = e.linkedTasks.count t
  /-- A pointer in a task's list is that of the session whose id its value has. -/
  owners : ∀ {t : ℤ} {p : ℕ}, p ∈ sessionsOf m.mTasks t →
    ∃ e, m.mSessions.lookup (m.vals.read p).sessionId = some e ∧ e.val = p
  /-- No task has an empty list. -/
  noEmpty : NoEmptyTask m.mTasks
  /-- A session's pointer is in use, and its value has the session's id. -/
  keyed : ∀ {s : ℤ} {e : ValEntry}, m.mSessions.lookup s = some e →
    e.val < m.vals.size ∧ (m.vals.read e.val).sessionId = s

namespace Consistent

variable {m : SessionTaskMap}

theorem empty : Consistent {} where
  links := fun h => by simp at h
  owners := fun h => by simp [sessionsOf] at h
  noEmpty := fun t => by simp
  keyed := fun h => by simp at h

/-- Different sessions have different pointers. -/
theorem val_inj (hm : Consistent m) {s s' : ℤ} {e e' : ValEntry}
    (h : m.mSessions.lookup s = some e) (h' : m.mSessions.lookup s' = some e')
    (hv : e.val = e'.val) : s = s' := by
  rw [← (hm.keyed h).2, ← (hm.keyed h').2, hv]

theorem val_ne (hm : Consistent m) {s s' : ℤ} {e e' : ValEntry}
    (h : m.mSessions.lookup s = some e) (h' : m.mSessions.lookup s' = some e') (hs : s ≠ s') :
    e.val ≠ e'.val :=
  fun hv => hs (hm.val_inj h h' hv)

/-- The pointers in the tasks' lists are in use. -/
theorem lt_size (hm : Consistent m) {t : ℤ} {p : ℕ} (h : p ∈ sessionsOf m.mTasks t) :
    p < m.vals.size := by
  obtain ⟨e, he, rfl⟩ := hm.owners h
  exact (hm.keyed he).1

/-- A session's pointer is in the list of a task exactly when the task is in the session's list. -/
theorem mem_sessionsOf_iff (hm : Consistent m) {s : ℤ} {e : ValEntry}
    (h : m.mSessions.lookup s = some e) (t : ℤ) :
    e.val ∈ sessionsOf m.mTasks t ↔ t ∈ e.linkedTasks := by
  rw [← List.count_pos_iff, ← List.count_pos_iff, hm.links h t]

/-- A pointer in a task's list is that of session `s` exactly when its value has the id `s`. -/
theorem sessionId_eq_iff (hm : Consistent m) {s : ℤ} {e : ValEntry}
    (he : m.mSessions.lookup s = some e) {t : ℤ} {p : ℕ} (hp : p ∈ sessionsOf m.mTasks t) :
    (m.vals.read p).sessionId = s ↔ p = e.val := by
  constructor
  · intro hs
    obtain ⟨e', he', hv⟩ := hm.owners hp
    rw [hs, he] at he'
    obtain rfl := Option.some.inj he'
    exact hv.symm
  · intro hv
    rw [hv]
    exact (hm.keyed he).2

/-- Leaving out a session's pointer is leaving out the session. -/
theorem filter_val_eq (hm : Consistent m) {s : ℤ} {e : ValEntry}
    (he : m.mSessions.lookup s = some e) (t : ℤ) :
    (sessionsOf m.mTasks t).filter (fun p => decide (p ≠ e.val)) =
      (sessionsOf m.mTasks t).filter fun p => decide ((m.vals.read p).sessionId ≠ s) := by
  refine List.filter_congr fun p hp => ?_
  rw [decide_eq_decide, not_iff_not]
  exact (hm.sessionId_eq_iff he hp).symm

/-- The pointers of a session that is not there are in no list. -/
theorem sessionId_ne_of_absent (hm : Consistent m) {s : ℤ} (hs : m.mSessions.lookup s = none)
    {t : ℤ} {p : ℕ} (hp : p ∈ sessionsOf m.mTasks t) : (m.vals.read p).sessionId ≠ s := by
  intro hcon
  obtain ⟨e, he, -⟩ := hm.owners hp
  rw [hcon, hs] at he
  cases he

/-! ### Changes to the objects -/

/-- The invariant does not look at the objects, apart from the session ids. -/
theorem of_objects (hm : Consistent m) {m' : SessionTaskMap} (hs : m'.mSessions = m.mSessions)
    (ht : m'.mTasks = m.mTasks) (hsize : m'.vals.size = m.vals.size)
    (hid : ∀ p, (m'.vals.read p).sessionId = (m.vals.read p).sessionId) : Consistent m' where
  links := fun h t => by
    rw [hs] at h
    rw [ht]
    exact hm.links h t
  owners := fun h => by
    rw [ht] at h
    rw [hs, hid]
    exact hm.owners h
  noEmpty := by
    rw [ht]
    exact hm.noEmpty
  keyed := fun h => by
    rw [hs] at h
    rw [hsize, hid]
    exact hm.keyed h

theorem modifyVal (hm : Consistent m) (p : ℕ) {f : SessionValueEntry → SessionValueEntry}
    (hf : ∀ v, (f v).sessionId = v.sessionId) : Consistent (m.modifyVal p f) := by
  refine hm.of_objects rfl rfl rfl fun q => ?_
  by_cases hq : q = p
  · subst hq
    simp [SessionTaskMap.modifyVal, hf]
  · simp [SessionTaskMap.modifyVal, Heap.read_write_of_ne _ _ hq]

theorem modifyVotes (hm : Consistent m) (p : ℕ) (f : Votes → Votes) :
    Consistent (m.modifyVotes p f) :=
  hm.of_objects rfl rfl rfl fun _ => rfl

theorem addVote (hm : Consistent m) (s v lo hi t d : ℤ) : Consistent (m.addVote s v lo hi t d) := by
  unfold SessionTaskMap.addVote
  cases m.mSessions.lookup s with
  | none => exact hm
  | some e => exact hm.modifyVotes e.val _

theorem addGpuVote (hm : Consistent m) (s v c t d : ℤ) : Consistent (m.addGpuVote s v c t d) := by
  unfold SessionTaskMap.addGpuVote
  cases m.mSessions.lookup s with
  | none => exact hm
  | some e => exact hm.modifyVotes e.val _

/-! ### Adding and removing sessions -/

theorem add (hm : Consistent m) (s : ℤ) (sv : SessionValueEntry) (tasks : List ℤ) :
    Consistent (m.add s sv tasks).2 := by
  unfold SessionTaskMap.add
  cases hs : m.mSessions.lookup s with
  | some e => exact hm
  | none =>
      have hfresh : ∀ t, m.vals.size ∉ sessionsOf m.mTasks t := by
        intro t ht
        exact Nat.lt_irrefl _ (hm.lt_size ht)
      have hold : ∀ {s' : ℤ} {e : ValEntry}, m.mSessions.lookup s' = some e → e.val ≠ m.vals.size :=
        fun he => Nat.ne_of_lt (hm.keyed he).1
      refine ⟨?_, ?_, hm.noEmpty.linkTasks _ _, ?_⟩
      · intro s' e he t
        simp only [Heap.fresh, UMap.lookup_insert_eq] at he
        simp only [Heap.fresh, sessionsOf_linkTasks, List.count_append]
        by_cases hs' : s' = s
        · -- the new session: its pointer was nowhere before
          rw [if_pos hs'] at he
          obtain rfl := Option.some.inj he
          rw [List.count_eq_zero.2 (hfresh t), List.count_replicate_self, Nat.zero_add]
        · rw [if_neg hs'] at he
          have hne : m.vals.size ≠ e.val := (hold he).symm
          rw [hm.links he t, List.count_replicate]
          simp [hne]
      · intro t p hp
        simp only [Heap.fresh, sessionsOf_linkTasks, List.mem_append, List.mem_replicate] at hp
        simp only [Heap.fresh, UMap.lookup_insert_eq]
        rcases hp with hp | ⟨_, rfl⟩
        · obtain ⟨e, he, hv⟩ := hm.owners hp
          rw [Heap.read_alloc_of_lt _ _ (hm.lt_size hp)]
          refine ⟨e, ?_, hv⟩
          have hne : (m.vals.read p).sessionId ≠ s := by
            intro hcon
            rw [hcon, hs] at he
            cases he
          rwa [if_neg hne]
        · exact ⟨⟨m.vals.size, tasks⟩, by simp, rfl⟩
      · intro s' e he
        simp only [Heap.fresh, UMap.lookup_insert_eq] at he
        by_cases hs' : s' = s
        · rw [if_pos hs'] at he
          obtain rfl := Option.some.inj he
          simp [hs']
        · rw [if_neg hs'] at he
          have hlt := (hm.keyed he).1
          rw [Heap.read_alloc_of_lt _ _ hlt]
          exact ⟨Nat.lt_succ_of_lt hlt, (hm.keyed he).2⟩

/-- Unlinking a session from all its tasks leaves the tasks' other sessions, in their order. -/
theorem sessionsOf_unlinkTasks_self (hm : Consistent m) {s : ℤ} {e : ValEntry}
    (he : m.mSessions.lookup s = some e) (t : ℤ) :
    sessionsOf (unlinkTasks e.val e.linkedTasks m.mTasks).2 t =
      (sessionsOf m.mTasks t).filter fun p => decide (p ≠ e.val) := by
  rw [sessionsOf_unlinkTasks, ← hm.links he t, erase_iterate_count]

theorem remove (hm : Consistent m) (s : ℤ) : Consistent (m.remove s).2 := by
  unfold SessionTaskMap.remove
  cases hs : m.mSessions.lookup s with
  | none => exact hm
  | some e =>
      refine ⟨?_, ?_, hm.noEmpty.unlinkTasks _ _, ?_⟩
      · intro s' e' he' t
        simp only [UMap.lookup_erase_eq] at he'
        by_cases hs' : s' = s
        · simp [hs'] at he'
        · rw [if_neg hs'] at he'
          have hne : e'.val ≠ e.val := hm.val_ne he' hs hs'
          simp only [sessionsOf_unlinkTasks]
          rw [count_erase_iterate_of_ne hne, hm.links he' t]
      · intro t p hp
        simp only [hm.sessionsOf_unlinkTasks_self hs, List.mem_filter, decide_eq_true_eq] at hp
        obtain ⟨e', he', rfl⟩ := hm.owners hp.1
        refine ⟨e', ?_, rfl⟩
        have hne : (m.vals.read e'.val).sessionId ≠ s := by
          intro hcon
          rw [hcon, hs] at he'
          obtain rfl := Option.some.inj he'
          exact hp.2 rfl
        simp only [UMap.lookup_erase_eq]
        rwa [if_neg hne]
      · intro s' e' he'
        simp only [UMap.lookup_erase_eq] at he'
        by_cases hs' : s' = s
        · simp [hs'] at he'
        · rw [if_neg hs'] at he'
          exact hm.keyed he'

theorem replace (hm : Consistent m) (s : ℤ) (tasks added removed : List ℤ) :
    Consistent (m.replace s tasks added removed).map := by
  unfold SessionTaskMap.replace
  cases m.mSessions.lookup s with
  | none => exact hm
  | some e => exact (hm.remove s).add _ _ _

/-- `replace` takes a session out of the list of each task and puts its new value at the end. -/
theorem sessionsOf_replace (hm : Consistent m) {s : ℤ} {e : ValEntry}
    (he : m.mSessions.lookup s = some e) (tasks added removed : List ℤ) (t : ℤ) :
    sessionsOf (m.replace s tasks added removed).map.mTasks t =
      (sessionsOf m.mTasks t).filter (fun p => decide (p ≠ e.val)) ++
        List.replicate (tasks.count t) m.vals.size := by
  rw [replace_map he, sessionsOf_linkTasks, hm.sessionsOf_unlinkTasks_self he]

/-- The objects after `replace`: the new value of the session is the old one, and no other object
changes. -/
theorem read_replace (hm : Consistent m) {s : ℤ} {e : ValEntry} (he : m.mSessions.lookup s = some e)
    (tasks added removed : List ℤ) :
    (m.replace s tasks added removed).map.vals.read m.vals.size = m.vals.read e.val ∧
      ∀ q < m.vals.size, (m.replace s tasks added removed).map.vals.read q = m.vals.read q := by
  rw [replace_map he]
  refine ⟨?_, fun q hq => Heap.read_alloc_of_lt _ _ hq⟩
  have hid := (hm.keyed he).2
  simp only [Heap.read_alloc_fresh]
  rw [← hid]

/-! ### Pruning a dead thread -/

theorem pruneTask (hm : Consistent m) {s : ℤ} {e : ValEntry} (he : m.mSessions.lookup s = some e)
    {taskId : ℤ} {i : ℕ} (hi : e.linkedTasks[i]? = some taskId) :
    Consistent (m.pruneTask s taskId i).2 := by
  rw [pruneTask_eq he]
  have hperm : (taskId :: e.linkedTasks.eraseIdx i).Perm e.linkedTasks := by
    obtain ⟨hlt, hget⟩ := List.getElem?_eq_some_iff.1 hi
    rw [← hget]
    exact List.getElem_cons_eraseIdx_perm hlt
  refine ⟨?_, ?_, hm.noEmpty.unlink _ _, ?_⟩
  · intro s' e' he' t
    simp only [UMap.lookup_insert_eq] at he'
    simp only [sessionsOf_unlink]
    by_cases hs' : s' = s
    · -- the session itself: one occurrence less on both sides
      rw [if_pos hs'] at he'
      obtain rfl := Option.some.inj he'
      have hcount := hperm.count_eq t
      have hlink := hm.links he t
      dsimp only
      by_cases ht : t = taskId
      · subst ht
        rw [List.count_cons_self] at hcount
        rw [if_pos rfl, List.count_erase_self]
        omega
      · rw [List.count_cons_of_ne (Ne.symm ht)] at hcount
        rw [if_neg ht]
        omega
    · rw [if_neg hs'] at he'
      have hne : e'.val ≠ e.val := hm.val_ne he' he hs'
      by_cases ht : t = taskId
      · rw [if_pos ht, List.count_erase_of_ne hne]
        exact hm.links he' t
      · rw [if_neg ht]
        exact hm.links he' t
  · intro t p hp
    simp only [sessionsOf_unlink] at hp
    have hmem : p ∈ sessionsOf m.mTasks t := by
      by_cases ht : t = taskId
      · rw [if_pos ht] at hp
        exact List.mem_of_mem_erase hp
      · rwa [if_neg ht] at hp
    obtain ⟨e', he', hv⟩ := hm.owners hmem
    simp only [UMap.lookup_insert_eq]
    by_cases hs' : (m.vals.read p).sessionId = s
    · rw [hs', he] at he'
      obtain rfl := Option.some.inj he'
      exact ⟨⟨e.val, e.linkedTasks.eraseIdx i⟩, by rw [if_pos hs'], hv⟩
    · exact ⟨e', by rwa [if_neg hs'], hv⟩
  · intro s' e' he'
    simp only [UMap.lookup_insert_eq] at he'
    by_cases hs' : s' = s
    · rw [if_pos hs'] at he'
      obtain rfl := Option.some.inj he'
      have hkeyed := hm.keyed he
      rw [hs']
      exact hkeyed
    · rw [if_neg hs'] at he'
      exact hm.keyed he'

/-- The dead thread's link is found. -/
theorem pruneTask_found (hm : Consistent m) {s : ℤ} {e : ValEntry}
    (he : m.mSessions.lookup s = some e) {taskId : ℤ} {i : ℕ}
    (hi : e.linkedTasks[i]? = some taskId) : (m.pruneTask s taskId i).1 = true := by
  have hmem : e.val ∈ sessionsOf m.mTasks taskId :=
    (hm.mem_sessionsOf_iff he taskId).2 (List.mem_of_getElem? hi)
  simp [pruneTask_eq he, unlink_branch hmem]

/-- The links that `remove` gives up are all found. -/
theorem remove_branches (hm : Consistent m) {s : ℤ} {e : ValEntry}
    (he : m.mSessions.lookup s = some e) :
    ∀ b ∈ (unlinkTasks e.val e.linkedTasks m.mTasks).1, b = .unlinked :=
  unlinkTasks_branches fun t => Nat.le_of_eq (hm.links he t).symm

end Consistent

/-! ### Whole runs -/

/-- The operations on a map.  `prune` is the pair of changes for a dead thread at an index of a
session's list, and `write` any other change of a session's value through its pointer: its flags
and its time, never its id. -/
inductive MapOp where
  | add (sessionId : ℤ) (sv : SessionValueEntry) (taskIds : List ℤ)
  | remove (sessionId : ℤ)
  | replace (sessionId : ℤ) (taskIds : List ℤ)
  | addVote (sessionId voteId uclampMin uclampMax startTime durationNs : ℤ)
  | addGpuVote (sessionId voteId capacity startTime durationNs : ℤ)
  | prune (sessionId : ℤ) (i : ℕ)
  | write (p : ℕ) (f : SessionValueEntry → SessionValueEntry)
  | writeVotes (p : ℕ) (f : Votes → Votes)

/-- The map after an operation. -/
def MapOp.apply (m : SessionTaskMap) : MapOp → SessionTaskMap
  | .add s sv tasks => (m.add s sv tasks).2
  | .remove s => (m.remove s).2
  | .replace s tasks => (m.replace s tasks [] []).map
  | .addVote s v lo hi t d => m.addVote s v lo hi t d
  | .addGpuVote s v c t d => m.addGpuVote s v c t d
  | .prune s i =>
      match (m.getTaskIds s)[i]? with
      | none => m
      | some taskId => (m.pruneTask s taskId i).2
  | .write p f => m.modifyVal p fun v => { f v with sessionId := v.sessionId }
  | .writeVotes p f => m.modifyVotes p f

/-- The maps that operations lead to from the empty one. -/
inductive Reachable : SessionTaskMap → Prop
  | init : Reachable {}
  | step {m : SessionTaskMap} (op : MapOp) : Reachable m → Reachable (op.apply m)

theorem Consistent.apply {m : SessionTaskMap} (hm : Consistent m) (op : MapOp) :
    Consistent (op.apply m) := by
  cases op with
  | add s sv tasks => exact hm.add s sv tasks
  | remove s => exact hm.remove s
  | replace s tasks => exact hm.replace s tasks [] []
  | addVote s v lo hi t d => exact hm.addVote s v lo hi t d
  | addGpuVote s v c t d => exact hm.addGpuVote s v c t d
  | prune s i =>
      simp only [MapOp.apply]
      cases hi : (m.getTaskIds s)[i]? with
      | none => exact hm
      | some taskId =>
          cases he : m.mSessions.lookup s with
          | none => simp [getTaskIds, he] at hi
          | some e => exact hm.pruneTask he (by simpa [getTaskIds, he] using hi)
  | write p f =>
      exact hm.modifyVal p (f := fun v => { f v with sessionId := v.sessionId }) fun _ => rfl
  | writeVotes p f => exact hm.modifyVotes p f

/-- **The maps agree in every reachable state.** -/
theorem Reachable.consistent {m : SessionTaskMap} (h : Reachable m) : Consistent m := by
  induction h with
  | init => exact Consistent.empty
  | step op _ ih => exact ih.apply op

end Adpf.SessionTaskMap
