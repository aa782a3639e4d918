/-
**The loop of `applyUclampLocked` over the list that it erases from.**

The loop keeps an iterator into the session's own list of threads.  A thread that is alive moves the
iterator on; a dead one is taken out of the task map and out of the list, and the iterator stays.
`MotoCommon/PowerSessionManager.lean` describes the loop by recursion over the threads still to come;
here it is written as the source has it, an index into a list that changes, and the two are proved to
be the same.  When the answers of the system single out a set of dead threads, the outcome is exact.

Main definitions:

* `Adpf.World.uclampRound`, `Adpf.World.uclampLoop` — one round of the loop, and the loop.

Main results:

* `Adpf.World.uclampLoop_eq_sweep` — the loop comes to its end, in the state of the sweep;
* `Adpf.World.sweep_dead_set` — what a sweep leaves when the dead threads are those of a set;
* `Adpf.dead_thread_sweep` — **the sweep calls the system once for each thread, in order, and takes out
  exactly the dead ones**.
-/

import MotoCommon.DeadThreads
import MotoCommon.SessionTaskMapExact

set_option autoImplicit false

namespace Adpf

open SessionTaskMap

namespace World

/-! ### The loop as it is written -/

/-- One round of the loop with the iterator at index `i`: where the iterator is afterwards, and the
state; nothing if the iterator is at the end of the list. -/
def uclampRound (sessionId timePoint : ℤ) (i : ℕ) (w : World) : Option (ℕ × World) :=
  match (w.mSessionTaskMap.getTaskIds sessionId)[i]? with
  | none => none
  | some tid =>
      let (stat, w) := w.set_uclamp tid (w.taskRange tid timePoint)
      if stat = ESRCH then
        some (i, { w with mSessionTaskMap := (w.mSessionTaskMap.pruneTask sessionId tid i).2 })
      else some (i + 1, w)

/-- The loop from index `i` on, for at most `fuel` tests of its condition. -/
def uclampLoop (sessionId timePoint : ℤ) : ℕ → ℕ → World → Option World
  | 0, _, _ => none
  | fuel + 1, i, w =>
      match uclampRound sessionId timePoint i w with
      | none => some w
      | some (i, w) => uclampLoop sessionId timePoint fuel i w

variable {s t : ℤ} {w : World} {e : ValEntry} {i : ℕ} {tid : ℤ} {tids : List ℤ}

theorem uclampRound_done (he : w.mSessionTaskMap.mSessions.lookup s = some e)
    (hdrop : e.linkedTasks.drop i = []) : uclampRound s t i w = none := by
  have hend : e.linkedTasks[i]? = none := by
    rw [← List.head?_drop, hdrop]
    rfl
  simp [uclampRound, getTaskIds, he, hend]

theorem uclampRound_dead (he : w.mSessionTaskMap.mSessions.lookup s = some e)
    (hget : e.linkedTasks[i]? = some tid) (hdead : w.callError tid = ESRCH) :
    uclampRound s t i w = some (i, { w.called tid t with
      mSessionTaskMap := (w.mSessionTaskMap.pruneTask s tid i).2 }) := by
  have hstat : (w.set_uclamp tid (w.taskRange tid t)).1 = ESRCH := hdead
  simp only [uclampRound, getTaskIds, he, Option.elim_some, hget, hstat, if_true]
  rfl

theorem uclampRound_alive (he : w.mSessionTaskMap.mSessions.lookup s = some e)
    (hget : e.linkedTasks[i]? = some tid) (halive : w.callError tid ≠ ESRCH) :
    uclampRound s t i w = some (i + 1, w.called tid t) := by
  have hstat : (w.set_uclamp tid (w.taskRange tid t)).1 ≠ ESRCH := halive
  simp only [uclampRound, getTaskIds, he, Option.elim_some, hget, hstat, if_false]
  rfl

/-- **The loop comes to its end**, after one round for each thread still to come, and leaves the state
of the sweep over these threads. -/
theorem uclampLoop_eq_sweep (s t : ℤ) : ∀ (tids : List ℤ) (fuel i : ℕ) (w : World) (e : ValEntry),
    w.mSessionTaskMap.mSessions.lookup s = some e → e.linkedTasks.drop i = tids →
    tids.length < fuel → uclampLoop s t fuel i w = some (sweep s t tids i w).2 := by
  intro tids
  induction tids with
  | nil =>
      intro fuel i w e he hdrop hfuel
      obtain ⟨fuel, rfl⟩ := Nat.exists_eq_succ_of_ne_zero (Nat.ne_of_gt hfuel)
      rw [uclampLoop, uclampRound_done he hdrop]
      rfl
  | cons tid tids ih =>
      intro fuel i w e he hdrop hfuel
      obtain ⟨fuel, rfl⟩ := Nat.exists_eq_succ_of_ne_zero (Nat.ne_of_gt (Nat.zero_lt_of_lt hfuel))
      have hfuel' : tids.length < fuel := Nat.lt_of_succ_lt_succ hfuel
      have hget := getElem?_of_drop hdrop
      by_cases hdead : w.callError tid = ESRCH
      -- a dead thread is erased, and the index stays where it is
      · rw [uclampLoop, uclampRound_dead he hget hdead, sweep_dead hdead]
        exact ih fuel i _ _ (lookup_pruneTask_self he) (drop_eraseIdx_of_drop hdrop) hfuel'
      · rw [uclampLoop, uclampRound_alive he hget hdead, sweep_alive hdead]
        exact ih fuel (i + 1) _ e he (drop_succ_of_drop hdrop) hfuel'

/-! ### A set of dead threads -/

section DeadSet

variable (D : Set ℤ) [DecidablePred (· ∈ D)]

/-- The system reports the threads of `D`, and no others, as dead. -/
def DeadSet (w : World) : Prop := ∀ n tid, w.env.schedSetattr n tid = ESRCH ↔ tid ∈ D

/-- The map that a sweep over the threads `tids` from index `i` on leaves, and the calls it makes. -/
structure SweptSet (s : ℤ) (e : ValEntry) (tids : List ℤ) (i : ℕ) (w w' : World) : Prop where
  /-- The session keeps the threads that are alive, in their order. -/
  self : w'.mSessionTaskMap.mSessions.lookup s =
    some ⟨e.val, e.linkedTasks.take i ++ tids.filter fun tid => decide (tid ∉ D)⟩
  others : ∀ s', s' ≠ s →
    w'.mSessionTaskMap.mSessions.lookup s' = w.mSessionTaskMap.mSessions.lookup s'
  /-- A dead thread loses one occurrence of the session for each of its own. -/
  tasks : ∀ tid, sessionsOf w'.mSessionTaskMap.mTasks tid =
    if tid ∈ D then
      (fun l : List ℕ => l.erase e.val)^[tids.count tid] (sessionsOf w.mSessionTaskMap.mTasks tid)
    else sessionsOf w.mSessionTaskMap.mTasks tid
  calls : w'.schedCalls.map SchedCall.tid = tids.reverse ++ w.schedCalls.map SchedCall.tid

/-- **What a sweep leaves when the dead threads are those of a set.** -/
theorem sweep_dead_set (s t : ℤ) : ∀ (tids : List ℤ) (i : ℕ) (w : World) (e : ValEntry),
    DeadSet D w → w.mSessionTaskMap.mSessions.lookup s = some e → e.linkedTasks.drop i = tids →
    SweptSet D s e tids i w (sweep s t tids i w).2 := by
  intro tids
  induction tids with
  | nil =>
      intro i w e _ he hdrop
      have htake : e.linkedTasks.take i = e.linkedTasks := by
        exact List.take_of_length_le (List.drop_eq_nil_iff.1 hdrop)
      refine ⟨?_, fun s' _ => rfl, fun tid => ?_, rfl⟩
      · rw [htake, List.filter_nil, List.append_nil]
        exact he
      · exact (ite_self _).symm
  | cons tid tids ih =>
      intro i w e hD he hdrop
      have hmem : w.callError tid = ESRCH ↔ tid ∈ D := hD _ tid
      -- the induction is over the threads still to come, with the list before index `i` done
      by_cases hdead : tid ∈ D
      · rw [sweep_dead (hmem.2 hdead)]
        have hrest := ih i { w.called tid t with
          mSessionTaskMap := (w.mSessionTaskMap.pruneTask s tid i).2 } _ hD
          (lookup_pruneTask_self he) (drop_eraseIdx_of_drop hdrop)
        refine ⟨?_, fun s' hs' => ?_, fun tid' => ?_, ?_⟩
        · rw [hrest.self, take_eraseIdx_of_drop hdrop, List.filter_cons_of_neg (by simpa using hdead)]
        · rw [hrest.others s' hs', pruneTask_eq he]
          exact AList.lookup_insert_ne hs'
        · rw [hrest.tasks tid', pruneTask_eq he]
          simp only [sessionsOf_unlink]
          by_cases htid : tid' = tid
          · subst htid
            rw [if_pos hdead, if_pos hdead, if_pos rfl, List.count_cons_self,
              Function.iterate_succ_apply]
          · rw [if_neg htid, List.count_cons_of_ne (Ne.symm htid)]
        · rw [hrest.calls, List.reverse_cons, List.append_assoc]
          rfl
      · rw [sweep_alive (fun h => hdead (hmem.1 h))]
        have hrest := ih (i + 1) (w.called tid t) e hD he (drop_succ_of_drop hdrop)
        refine ⟨?_, hrest.others, fun tid' => ?_, ?_⟩
        · rw [hrest.self, take_succ_of_drop hdrop, List.filter_cons_of_pos (by simpa using hdead),
            List.append_assoc]
          rfl
        · rw [hrest.tasks tid']
          by_cases htid : tid' = tid
          · subst htid
            rw [if_neg hdead, if_neg hdead]
            rfl
          · rw [List.count_cons_of_ne (Ne.symm htid)]
            rfl
        · rw [hrest.calls, List.reverse_cons, List.append_assoc]
          rfl

/-- The sweep over all the threads of a session: each dead thread loses the session. -/
theorem SweptSet.sessionsOf_all {s : ℤ} {e : ValEntry} {w w' : World}
    (h : SweptSet D s e e.linkedTasks 0 w w') (hw : Consistent w.mSessionTaskMap)
    (he : w.mSessionTaskMap.mSessions.lookup s = some e) {tid : ℤ} (hdead : tid ∈ D) :
    sessionsOf w'.mSessionTaskMap.mTasks tid =
      (sessionsOf w.mSessionTaskMap.mTasks tid).filter fun p =>
        decide ((w.mSessionTaskMap.vals.read p).sessionId ≠ s) := by
  rw [h.tasks tid, if_pos hdead, ← hw.links he tid, erase_iterate_count, hw.filter_val_eq he]

end DeadSet

end World

/-- **The sweep takes out exactly the dead threads.**  Let the system report the threads of `D` as
dead, and let the profile have `mUclampMinOn`.  For a session that is there, the loop comes to its end;
`set_uclamp` is called once for each entry of the session's list, in order; the list keeps the threads
that are not in `D`, in their order and as often as they were there; the entry of a thread that is not
in `D` is untouched, and that of a thread in `D` loses the session and nothing else; the other sessions
have their lists, their values and their votes, and the session stays in the map. -/
theorem dead_thread_sweep {w : World} (h : Reachable w.mSessionTaskMap) {s : ℤ} {e : ValEntry}
    (he : w.mSessionTaskMap.mSessions.lookup s = some e) (hon : w.adpfConfig.mUclampMinOn = true)
    (D : Set ℤ) [DecidablePred (· ∈ D)]
    (hD : ∀ n tid, w.env.schedSetattr n tid = ESRCH ↔ tid ∈ D) (t : ℤ) :
    ∃ w', w.applyUclampLocked s t = w' ∧
      (∀ fuel, e.linkedTasks.length < fuel →
        ∃ u, World.uclampLoop s t fuel 0 w = some u ∧ w' = u.touch e.val t) ∧
      w'.schedCalls.map SchedCall.tid = e.linkedTasks.reverse ++ w.schedCalls.map SchedCall.tid ∧
      w'.mSessionTaskMap.mSessions.lookup s =
        some ⟨e.val, e.linkedTasks.filter fun tid => decide (tid ∉ D)⟩ ∧
      (∀ tid, tid ∉ D → w'.mSessionTaskMap.mTasks.lookup tid = w.mSessionTaskMap.mTasks.lookup tid) ∧
      (∀ tid, tid ∈ D →
        sessionsOf w'.mSessionTaskMap.mTasks tid =
            (sessionsOf w.mSessionTaskMap.mTasks tid).filter (fun p =>
              decide ((w.mSessionTaskMap.vals.read p).sessionId ≠ s)) ∧
        (tid ∈ w'.mSessionTaskMap.mTasks ↔ sessionsOf w'.mSessionTaskMap.mTasks tid ≠ [])) ∧
      (∀ s', s' ≠ s →
        w'.mSessionTaskMap.mSessions.lookup s' = w.mSessionTaskMap.mSessions.lookup s' ∧
        ∀ e', w.mSessionTaskMap.mSessions.lookup s' = some e' →
          w'.mSessionTaskMap.vals.read e'.val = w.mSessionTaskMap.vals.read e'.val) ∧
      w'.mSessionTaskMap.votes = w.mSessionTaskMap.votes ∧
      w'.mSessionTaskMap.vals.read e.val =
        { w.mSessionTaskMap.vals.read e.val with lastUpdatedTime := t } := by
  have hw := h.consistent
  have hfind := findSession_of_lookup he
  have hids : w.mSessionTaskMap.getTaskIds s = e.linkedTasks := by
    rw [getTaskIds, he]
    rfl
  have happly : w.applyUclampLocked s t =
      (World.sweep s t e.linkedTasks 0 w).2.touch e.val t := by
    simp only [World.applyUclampLocked, hfind, hon, if_true, World.sweepSession, hids]
  obtain ⟨hswept, -⟩ := World.sweep_swept s t e.linkedTasks 0 w e hw he rfl
  have hset := World.sweep_dead_set D s t e.linkedTasks 0 w e hD he rfl
  refine ⟨_, happly, ?_, hset.calls, hset.self, ?_, ?_, ?_, hswept.votes, ?_⟩
  · intro fuel hfuel
    exact ⟨_, World.uclampLoop_eq_sweep s t e.linkedTasks fuel 0 w e he rfl hfuel, rfl⟩
  · intro tid halive
    refine hswept.consistent.noEmpty.lookup_congr hw.noEmpty ?_
    rw [hset.tasks tid, if_neg halive]
  · intro tid hdead
    exact ⟨hset.sessionsOf_all D hw he hdead, hswept.consistent.noEmpty.mem_iff tid⟩
  · intro s' hs'
    refine ⟨hset.others s' hs', fun e' he' => ?_⟩
    -- only the value of the session itself is touched
    have hne : e'.val ≠ e.val := hw.val_ne he' he hs'
    refine (Heap.read_write_of_ne _ _ hne).trans ?_
    rw [hswept.vals]
  · refine (Heap.read_write_self _ _ _).trans ?_
    rw [hswept.vals]

/-- A session with threads 7, 8, 7 and 9, of which thread 7 is dead. -/
def partlyDead : World where
  env := { schedSetattr := fun _ tid => if tid = 7 then ESRCH else 0 }
  adpfConfig := makeMockConfig
  mSessionTaskMap := MapOp.apply {} (.add 1 {} [7, 8, 7, 9])

theorem dead_thread_sweep_partly : ∃ w', partlyDead.applyUclampLocked 1 0 = w' ∧
    w'.schedCalls.map SchedCall.tid = [9, 7, 8, 7] ∧
    w'.mSessionTaskMap.mSessions.lookup 1 = some ⟨0, [8, 9]⟩ := by
  let hdec : DecidablePred (· ∈ {tid : ℤ | tid = 7}) := fun tid => decEq tid 7
  have hdead : ∀ n tid, partlyDead.env.schedSetattr n tid = ESRCH ↔ tid ∈ {tid : ℤ | tid = 7} := by
    intro n tid
    by_cases h : tid = 7
    · simp [partlyDead, h]
    · simp [partlyDead, h, ESRCH]
  have hpresent : partlyDead.mSessionTaskMap.mSessions.lookup 1 = some ⟨0, [7, 8, 7, 9]⟩ := by decide
  have hreach : Reachable partlyDead.mSessionTaskMap := Reachable.init.step (.add 1 {} [7, 8, 7, 9])
  obtain ⟨w', heq, -, hcalls, hself, -⟩ :=
    dead_thread_sweep hreach hpresent rfl {tid : ℤ | tid = 7} hdead 0
  exact ⟨w', heq, hcalls.trans rfl, hself.trans (by decide)⟩

end Adpf
