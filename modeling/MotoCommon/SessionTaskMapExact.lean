/-
**What `remove` and `replace` do to the map between sessions and tasks, exactly.**

`remove` erases the first matching pointer once for each entry of the session's list, and `replace`
removes a session and adds it again under a new value object.  With the agreement of the two maps
(`MotoCommon/SessionTaskMapLinks.lean`) both have a description that mentions neither pointers nor
multiplicities: `remove` filters the list of every task and undoes `add`, and the two vectors that
`replace` fills are the tasks that come to have a session and those that no longer have one.

Main results:

* `Adpf.SessionTaskMap.remove_exact` — **`remove` is a filter, and undoes `add`**;
* `Adpf.SessionTaskMap.replace_exact` — **`replace` reports the change of membership** and keeps the
  session's value and everything about the other sessions.
-/

import MotoCommon.SessionDemands

set_option autoImplicit false

namespace Adpf.SessionTaskMap

/-! ### Entries of the two maps -/

theorem mem_mSessions_iff {m : SessionTaskMap} {s : ℤ} :
    s ∈ m.mSessions ↔ ∃ e, m.mSessions.lookup s = some e := by
  rw [← AList.lookup_isSome, Option.isSome_iff_exists]

theorem not_mem_mSessions_iff {m : SessionTaskMap} {s : ℤ} :
    s ∉ m.mSessions ↔ m.mSessions.lookup s = none := by
  rw [AList.lookup_eq_none]

/-- Two maps without empty lists that give a task the same list have the same entry for it. -/
theorem NoEmptyTask.lookup_congr {ts ts' : UMap ℤ (List ℕ)} (h : NoEmptyTask ts)
    (h' : NoEmptyTask ts') {t : ℤ} (ht : sessionsOf ts t = sessionsOf ts' t) :
    ts.lookup t = ts'.lookup t := by
  unfold sessionsOf at ht
  cases hl : ts.lookup t with
  | none =>
      cases hl' : ts'.lookup t with
      | none => rfl
      | some ps =>
          rw [hl, hl'] at ht
          exact absurd (hl'.trans (congrArg some ht.symm)) (h' t)
  | some ps =>
      cases hl' : ts'.lookup t with
      | none =>
          rw [hl, hl'] at ht
          exact absurd (hl.trans (congrArg some ht)) (h t)
      | some ps' =>
          rw [hl, hl'] at ht
          exact congrArg some ht

/-! ### Removing a session -/

namespace Consistent

variable {m : SessionTaskMap}

/-- `remove` takes a session out of the list of every task and keeps the others in their order. -/
theorem sessionsOf_remove (hm : Consistent m) {s : ℤ} (hs : s ∈ m.mSessions) (t : ℤ) :
    sessionsOf (m.remove s).2.mTasks t =
      (sessionsOf m.mTasks t).filter fun p => decide ((m.vals.read p).sessionId ≠ s) := by
  obtain ⟨e, he⟩ := mem_mSessions_iff.1 hs
  rw [remove_map he, ← hm.filter_val_eq he t]
  exact hm.sessionsOf_unlinkTasks_self he t

/-- Removing a session that was just added gives every task its list back. -/
theorem sessionsOf_add_remove (hm : Consistent m) {s : ℤ} (hs : m.mSessions.lookup s = none)
    (sv : SessionValueEntry) (tasks : List ℤ) (t : ℤ) :
    sessionsOf ((m.add s sv tasks).2.remove s).2.mTasks t = sessionsOf m.mTasks t := by
  have hin : s ∈ (m.add s sv tasks).2.mSessions := by
    rw [add_map hs, mem_mSessions_iff]
    exact ⟨_, AList.lookup_insert _⟩
  -- the pointer of the new value is the only one with this id, and the old ones are all smaller
  rw [(hm.add s sv tasks).sessionsOf_remove hin, add_map hs, sessionsOf_linkTasks,
    List.filter_append]
  have hold : (sessionsOf m.mTasks t).filter (fun p => decide
      (((m.vals.alloc { sv with sessionId := s }).read p).sessionId ≠ s)) =
      sessionsOf m.mTasks t := by
    rw [List.filter_eq_self]
    intro p hp
    rw [Heap.read_alloc_of_lt _ _ (hm.lt_size hp)]
    exact decide_eq_true (hm.sessionId_ne_of_absent hs hp)
  have hnew : (List.replicate (tasks.count t) m.vals.size).filter (fun p => decide
      (((m.vals.alloc { sv with sessionId := s }).read p).sessionId ≠ s)) = [] := by
    rw [List.filter_eq_nil_iff]
    intro p hp
    rw [List.eq_of_mem_replicate hp, Heap.read_alloc_fresh]
    simp
  rw [hold, hnew, List.append_nil]

end Consistent

/-- **`remove` is exact and undoes `add`.**  It returns whether the session was there; if it was not,
nothing changes; if it was, the session is gone from `mSessions`, the list of every task is the old
one without the session's entries, and a task is dropped when nothing is left of its list.  Adding a
session that was not there and removing it again leaves both maps as they were. -/
theorem remove_exact {m : SessionTaskMap} (h : Reachable m) (s : ℤ) :
    ((m.remove s).1 = true ↔ s ∈ m.mSessions) ∧
    (s ∉ m.mSessions → (m.remove s).2 = m) ∧
    (s ∈ m.mSessions →
      (∀ s', (m.remove s).2.mSessions.lookup s' =
        if s' = s then none else m.mSessions.lookup s') ∧
      ∀ t, sessionsOf (m.remove s).2.mTasks t =
          (sessionsOf m.mTasks t).filter (fun p => decide ((m.vals.read p).sessionId ≠ s)) ∧
        (t ∈ (m.remove s).2.mTasks ↔
          (sessionsOf m.mTasks t).filter
            (fun p => decide ((m.vals.read p).sessionId ≠ s)) ≠ [])) ∧
    (s ∉ m.mSessions → ∀ sv tasks,
      (m.add s sv tasks).1 = true ∧
      (∀ s', ((m.add s sv tasks).2.remove s).2.mSessions.lookup s' = m.mSessions.lookup s') ∧
      ∀ t, ((m.add s sv tasks).2.remove s).2.mTasks.lookup t = m.mTasks.lookup t) := by
  have hm := h.consistent
  refine ⟨?_, ?_, ?_, ?_⟩
  · rw [mem_mSessions_iff]
    unfold remove
    cases m.mSessions.lookup s <;> simp
  · intro hs
    unfold remove
    rw [not_mem_mSessions_iff.1 hs]
  · intro hs
    obtain ⟨e, he⟩ := mem_mSessions_iff.1 hs
    refine ⟨fun s' => ?_, fun t => ⟨hm.sessionsOf_remove hs t, ?_⟩⟩
    · rw [remove_map he]
      exact UMap.lookup_erase_eq _ _ _
    · rw [(hm.remove s).noEmpty.mem_iff, hm.sessionsOf_remove hs]
  · intro hs sv tasks
    have hnone := not_mem_mSessions_iff.1 hs
    have hlook : (m.add s sv tasks).2.mSessions.lookup s = some ⟨m.vals.size, tasks⟩ := by
      rw [add_map hnone]
      exact AList.lookup_insert _
    refine ⟨by simp [add, hnone], fun s' => ?_, fun t => ?_⟩
    · rw [remove_map hlook, add_map hnone]
      simp only [UMap.lookup_erase_eq, UMap.lookup_insert_eq]
      by_cases hs' : s' = s
      · rw [if_pos hs', hs', hnone]
      · rw [if_neg hs', if_neg hs']
    · exact ((hm.add s sv tasks).remove s).noEmpty.lookup_congr hm.noEmpty
        (hm.sessionsOf_add_remove hnone sv tasks t)

/-- Two sessions share thread 7, which the first one has twice; removing the first leaves the second. -/
theorem remove_exact_shared :
    (sessionsOf ((MapOp.apply (MapOp.apply {} (.add 1 {} [7, 7, 8])) (.add 2 {} [7])).remove 1).2.mTasks
      7) = [1] := by
  have hreach := (Reachable.init.step (.add 1 {} [7, 7, 8])).step (.add 2 {} [7])
  obtain ⟨-, -, hpresent, -⟩ := remove_exact hreach 1
  exact ((hpresent (by decide)).2 7).1.trans (by decide)

/-! ### Replacing a session's tasks -/

variable {m : SessionTaskMap}

theorem lookup_replace {s : ℤ} {e : ValEntry} (he : m.mSessions.lookup s = some e)
    (tasks added removed : List ℤ) (s' : ℤ) :
    (m.replace s tasks added removed).map.mSessions.lookup s' =
      if s' = s then some ⟨m.vals.size, tasks⟩ else m.mSessions.lookup s' := by
  rw [replace_map he]
  simp only [UMap.lookup_insert_eq, UMap.lookup_erase_eq]
  by_cases hs' : s' = s
  · rw [if_pos hs', if_pos hs']
  · rw [if_neg hs', if_neg hs', if_neg hs']

/-- Some session other than `s` is linked to a task. -/
def LinkedApart (m : SessionTaskMap) (s t : ℤ) : Prop := ∃ s', s' ≠ s ∧ t ∈ m.getTaskIds s'

theorem linked_iff_or_apart (s t : ℤ) : m.Linked t ↔ t ∈ m.getTaskIds s ∨ m.LinkedApart s t := by
  constructor
  · rintro ⟨s', ht⟩
    by_cases hs' : s' = s
    · exact Or.inl (hs' ▸ ht)
    · exact Or.inr ⟨s', hs', ht⟩
  · rintro (ht | ⟨s', -, ht⟩)
    · exact ⟨s, ht⟩
    · exact ⟨s', ht⟩

/-- `replace` only changes what the session itself is linked to. -/
theorem linked_replace_iff {s : ℤ} {p : ℕ} (h : m.findSession s = some p)
    (tasks added removed : List ℤ) (t : ℤ) :
    (m.replace s tasks added removed).map.Linked t ↔ t ∈ tasks ∨ m.LinkedApart s t := by
  have hids := Wf.getTaskIds_replace h tasks added removed
  rw [linked_iff_or_apart s t, hids s, if_pos rfl]
  refine or_congr_right (exists_congr fun s' => and_congr_right fun hs' => ?_)
  rw [hids s', if_neg hs']

/-- **`replace` reports the change of membership.**  If the session is there: the tasks appended to
`addedThreads` are those that have a session now and had none before, the tasks appended to
`removedThreads` those that had one and have none now; the session has the new tasks, and its value
has the same fields, with the same votes; every other session has its value and its tasks, and keeps
its place among the others in the list of every task.  If it is not there, nothing changes. -/
theorem replace_exact {m : SessionTaskMap} (h : Reachable m) (s : ℤ)
    (tasks added removed : List ℤ) :
    (s ∉ m.mSessions →
      m.replace s tasks added removed = ⟨false, added, removed, m⟩) ∧
    ∀ e, m.mSessions.lookup s = some e → ∃ m' news gone,
      m.replace s tasks added removed = ⟨true, added ++ news, removed ++ gone, m'⟩ ∧
      (∀ t, t ∈ news ↔ m'.Linked t ∧ ¬m.Linked t) ∧
      (∀ t, t ∈ gone ↔ m.Linked t ∧ ¬m'.Linked t) ∧
      news.Disjoint gone ∧
      m'.getTaskIds s = tasks ∧
      (m'.findSession s).map m'.vals.read = some (m.vals.read e.val) ∧
      m'.votes = m.votes ∧
      (∀ s', s' ≠ s → m'.mSessions.lookup s' = m.mSessions.lookup s' ∧
        ∀ e', m.mSessions.lookup s' = some e' → m'.vals.read e'.val = m.vals.read e'.val) ∧
      ∀ t, (m'.getSessionIds t).filter (fun i => decide (i ≠ s)) =
        (m.getSessionIds t).filter fun i => decide (i ≠ s) := by
  have hm := h.consistent
  refine ⟨fun hs => by rw [replace, not_mem_mSessions_iff.1 hs], fun e he => ?_⟩
  have hm' := hm.replace s tasks added removed
  have hlook := lookup_replace he tasks added removed
  have hold : m.getTaskIds s = e.linkedTasks := by
    rw [getTaskIds, he]
    rfl
  have hself : (m.replace s tasks added removed).map.mSessions.lookup s =
      some ⟨m.vals.size, tasks⟩ := by
    rw [hlook, if_pos rfl]
  have hafter := linked_replace_iff (findSession_of_lookup he) tasks added removed
  have hbefore := fun t => linked_iff_or_apart (m := m) s t
  obtain ⟨hnew, hkept⟩ := hm.read_replace he tasks added removed
  -- a task is new if no session had it, and gone if no session has it: `mTasks` has the others
  have hnews : ∀ t, t ∈ (tasks.filter fun t => decide (t ∉ m.mTasks)) ↔
      (m.replace s tasks added removed).map.Linked t ∧ ¬m.Linked t := by
    intro t
    rw [List.mem_filter, decide_eq_true_eq, hm.mem_mTasks_iff]
    refine and_congr_left fun hnot => ?_
    rw [hafter, or_iff_left fun h => hnot ((hbefore t).2 (Or.inr h))]
  have hgone : ∀ t, t ∈ (e.linkedTasks.filter fun t =>
        decide (t ∉ (m.replace s tasks added removed).map.mTasks)) ↔
      m.Linked t ∧ ¬(m.replace s tasks added removed).map.Linked t := by
    intro t
    rw [List.mem_filter, decide_eq_true_eq, hm'.mem_mTasks_iff]
    refine and_congr_left fun hnot => ?_
    rw [hbefore, hold, or_iff_left fun h => hnot ((hafter t).2 (Or.inr h))]
  refine ⟨(m.replace s tasks added removed).map, _, _, ?_, hnews, hgone, ?_, ?_, ?_, ?_, ?_, ?_⟩
  · simp only [replace, he]
  · intro t ht ht'
    exact ((hgone t).1 ht').2 ((hnews t).1 ht).1
  · rw [getTaskIds, hself]
    rfl
  · rw [findSession, hself]
    exact congrArg some hnew
  · rw [replace_map he]
  · intro s' hs'
    refine ⟨by rw [hlook, if_neg hs'], fun e' he' => ?_⟩
    exact hkept _ (hm.keyed he').1
  · intro t
    rw [getSessionIds_replace hm he, List.filter_append, List.filter_filter]
    simp

/-- Thread 7 is shared: after the first session gave it up, it has the second one. -/
theorem replace_exact_shared : ∃ m' news gone,
    (MapOp.apply (MapOp.apply {} (.add 1 {} [7, 7, 8])) (.add 2 {} [7])).replace 1 [9] [] [] =
      ⟨true, news, gone, m'⟩ ∧ m'.getTaskIds 1 = [9] ∧
      (m'.getSessionIds 7).filter (fun i => decide (i ≠ 1)) = [2] := by
  have hreach := (Reachable.init.step (.add 1 {} [7, 7, 8])).step (.add 2 {} [7])
  obtain ⟨m', news, gone, heq, -, -, -, htasks, -, -, -, horder⟩ :=
    (replace_exact hreach 1 [9] [] []).2 ⟨0, [7, 7, 8]⟩ (by decide)
  exact ⟨m', news, gone, heq, htasks, (horder 7).trans (by decide)⟩

end Adpf.SessionTaskMap
