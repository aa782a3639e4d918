/-
**The sweep over a session's threads, with the dead ones taken out.**

`applyUclampLocked` walks over the list of a session's threads, gives each thread its range, and
erases from the list, while it walks over it, the threads that turn out to be dead.  This module
says once what such a sweep does: every thread of the list is visited, the threads that are alive
keep their sessions and end up with the range they had at the start of the sweep, and the map stays
well formed.

Main definitions:

* `Adpf.World.Swept` — what a sweep over a list of threads does to the state.

Main results:

* `Adpf.World.sweep_swept` — a sweep does just that, and finds the link of every dead thread;
* `Adpf.session_task_links_agree` — **the two maps agree in every reachable state**, and the branches of
  `remove` and of the sweep for maps that do not agree are never taken.
-/

import MotoCommon.PowerSessionManager
import MotoCommon.SessionTaskMapViews

set_option autoImplicit false

namespace Adpf

open SessionTaskMap

namespace World

/-! ### Ranges and calls -/

/-- The range of a thread only depends on its sessions and their objects. -/
theorem taskRange_congr {w w' : World} {tid : ℤ} (hc : w'.adpfConfig = w.adpfConfig)
    (hvals : w'.mSessionTaskMap.vals = w.mSessionTaskMap.vals)
    (hvotes : w'.mSessionTaskMap.votes = w.mSessionTaskMap.votes)
    (hs : sessionsOf w'.mSessionTaskMap.mTasks tid = sessionsOf w.mSessionTaskMap.mTasks tid)
    (t : ℤ) : w'.taskRange tid t = w.taskRange tid t := by
  have hconf : w'.mSessionTaskMap.confineBySession = w.mSessionTaskMap.confineBySession := by
    unfold confineBySession votesOf
    rw [hvals, hvotes]
  unfold taskRange
  rw [getTaskVoteRange_default, getTaskVoteRange_default, hconf, hs, hc]

/-- The error that a call for a thread gets. -/
def callError (w : World) (tid : ℤ) : ℤ := w.env.schedSetattr w.schedCalls.length tid

/-- The state after the call for a thread. -/
def called (w : World) (tid t : ℤ) : World := (w.set_uclamp tid (w.taskRange tid t)).2

theorem lastRange_called_self (w : World) (tid t : ℤ) :
    (w.called tid t).lastRange tid = some (clampRange (w.taskRange tid t)) := by
  simp [called, set_uclamp, lastRange]

theorem lastRange_called_of_ne (w : World) {tid tid' : ℤ} (h : tid ≠ tid') (t : ℤ) :
    (w.called tid t).lastRange tid' = w.lastRange tid' := by
  simp [called, set_uclamp, lastRange, h]

/-- What was asked of the system only grows. -/
theorem NeverDead.of_suffix {w w' : World} {tid : ℤ} (h : w'.NeverDead tid)
    (hs : w.schedCalls <:+ w'.schedCalls) : w.NeverDead tid :=
  fun c hc => h c (hs.subset hc)

/-! ### The sweep -/

/-- What a sweep of session `s` at time `t` over the threads `tids` does. -/
structure Swept (s t : ℤ) (tids : List ℤ) (w w' : World) : Prop where
  consistent : Consistent w'.mSessionTaskMap
  vals : w'.mSessionTaskMap.vals = w.mSessionTaskMap.vals
  votes : w'.mSessionTaskMap.votes = w.mSessionTaskMap.votes
  findSession : ∀ s', w'.mSessionTaskMap.findSession s' = w.mSessionTaskMap.findSession s'
  /-- Only this session loses threads. -/
  tasks : ∀ s', (w'.mSessionTaskMap.getTaskIds s').Sublist (w.mSessionTaskMap.getTaskIds s')
  calls : w.schedCalls <:+ w'.schedCalls
  /-- A thread that is alive keeps its sessions. -/
  alive : ∀ tid, w'.NeverDead tid →
    sessionsOf w'.mSessionTaskMap.mTasks tid = sessionsOf w.mSessionTaskMap.mTasks tid
  /-- A thread that is alive ends up with its range at the time of the sweep. -/
  visited : ∀ tid ∈ tids, w'.NeverDead tid →
    w'.lastRange tid = some (clampRange (w.taskRange tid t))
  /-- No other thread is touched. -/
  others : ∀ tid, tid ∉ tids → w'.lastRange tid = w.lastRange tid

namespace Swept

variable {s t : ℤ} {w w' : World}

theorem refl (h : Consistent w.mSessionTaskMap) : Swept s t [] w w where
  consistent := h
  vals := rfl
  votes := rfl
  findSession := fun _ => rfl
  tasks := fun _ => List.Sublist.refl _
  calls := List.suffix_rfl
  alive := fun _ _ => rfl
  visited := fun _ h => by simp at h
  others := fun _ _ => rfl

/-- One more thread before a sweep, which turns out to be alive or dead: in both cases the other
threads keep their sessions. -/
theorem cons {tid : ℤ} {tids : List ℤ} {m : SessionTaskMap}
    (hvals : m.vals = w.mSessionTaskMap.vals) (hvotes : m.votes = w.mSessionTaskMap.votes)
    (hfind : ∀ s', m.findSession s' = w.mSessionTaskMap.findSession s')
    (htasks : ∀ s', (m.getTaskIds s').Sublist (w.mSessionTaskMap.getTaskIds s'))
    (halive : ∀ tid', (tid' = tid → w.callError tid ≠ ESRCH) →
      sessionsOf m.mTasks tid' = sessionsOf w.mSessionTaskMap.mTasks tid')
    (h : Swept s t tids { w.called tid t with mSessionTaskMap := m } w') :
    Swept s t (tid :: tids) w w' := by
  have hnever : ∀ tid', w'.NeverDead tid' → tid' = tid → w.callError tid ≠ ESRCH := by
    intro tid' hd htid
    have hmem : (⟨tid, clampRange (w.taskRange tid t), w.callError tid⟩ : SchedCall) ∈
        w'.schedCalls := h.calls.subset (List.mem_cons_self ..)
    exact hd _ hmem htid.symm
  have hrange : ∀ tid', w'.NeverDead tid' →
      taskRange { w.called tid t with mSessionTaskMap := m } tid' t = w.taskRange tid' t := by
    intro tid' hd
    apply taskRange_congr
    · rfl
    · exact hvals
    · exact hvotes
    · exact halive tid' (hnever tid' hd)
  refine ⟨h.consistent, h.vals.trans hvals, h.votes.trans hvotes,
    fun s' => (h.findSession s').trans (hfind s'), fun s' => (h.tasks s').trans (htasks s'),
    (List.suffix_cons _ _).trans h.calls, ?_, ?_, ?_⟩
  · intro tid' hd
    exact (h.alive tid' hd).trans (halive tid' (hnever tid' hd))
  · intro tid' hmem hd
    by_cases hlater : tid' ∈ tids
    · rw [h.visited tid' hlater hd, hrange tid' hd]
    · -- the call for this thread is the last one
      obtain rfl : tid' = tid := by
        rcases List.mem_cons.1 hmem with heq | hin
        · exact heq
        · exact absurd hin hlater
      rw [h.others tid' hlater]
      exact lastRange_called_self w tid' t
  · intro tid' hmem
    rw [List.mem_cons, not_or] at hmem
    rw [h.others tid' hmem.2]
    exact lastRange_called_of_ne w (Ne.symm hmem.1) t

theorem wf {tids : List ℤ} (h : Swept s t tids w w') (hw : Wf w.mSessionTaskMap) :
    Wf w'.mSessionTaskMap :=
  hw.of_sameObjects h.consistent h.findSession h.vals h.votes

end Swept

theorem sweep_dead {w : World} {tid : ℤ} (h : w.callError tid = ESRCH) (s t : ℤ) (tids : List ℤ)
    (i : ℕ) :
    sweep s t (tid :: tids) i w =
      ((w.mSessionTaskMap.pruneTask s tid i).1 ::
        (sweep s t tids i { w.called tid t with
          mSessionTaskMap := (w.mSessionTaskMap.pruneTask s tid i).2 }).1,
        (sweep s t tids i { w.called tid t with
          mSessionTaskMap := (w.mSessionTaskMap.pruneTask s tid i).2 }).2) := by
  have h' : (w.set_uclamp tid (w.taskRange tid t)).1 = ESRCH := h
  rw [sweep]
  simp only [h', if_true]
  rfl

theorem sweep_alive {w : World} {tid : ℤ} (h : w.callError tid ≠ ESRCH) (s t : ℤ) (tids : List ℤ)
    (i : ℕ) : sweep s t (tid :: tids) i w = sweep s t tids (i + 1) (w.called tid t) := by
  have h' : (w.set_uclamp tid (w.taskRange tid t)).1 ≠ ESRCH := h
  rw [sweep]
  simp only [h', if_false]
  rfl

/-! ### The list under the iterator -/

section Iterator

variable {s : ℤ} {w : World} {e : ValEntry} {i : ℕ} {tid : ℤ} {tids : List ℤ}

theorem getElem?_of_drop {l : List ℤ} (h : l.drop i = tid :: tids) : l[i]? = some tid := by
  rw [← List.head?_drop, h]
  rfl

theorem drop_succ_of_drop {l : List ℤ} (h : l.drop i = tid :: tids) : l.drop (i + 1) = tids := by
  rw [← List.tail_drop, h]
  rfl

/-- Erasing the entry under the iterator leaves what comes before it and after it. -/
theorem eraseIdx_of_drop {l : List ℤ} (h : l.drop i = tid :: tids) :
    l.eraseIdx i = l.take i ++ tids := by
  rw [List.eraseIdx_eq_take_drop_succ, drop_succ_of_drop h]

theorem drop_eraseIdx_of_drop {l : List ℤ} (h : l.drop i = tid :: tids) :
    (l.eraseIdx i).drop i = tids := by
  obtain ⟨hlt, -⟩ := List.getElem?_eq_some_iff.1 (getElem?_of_drop h)
  rw [eraseIdx_of_drop h, List.drop_left' (List.length_take_of_le (Nat.le_of_lt hlt))]

theorem take_eraseIdx_of_drop {l : List ℤ} (h : l.drop i = tid :: tids) :
    (l.eraseIdx i).take i = l.take i := by
  obtain ⟨hlt, -⟩ := List.getElem?_eq_some_iff.1 (getElem?_of_drop h)
  rw [eraseIdx_of_drop h, List.take_left' (List.length_take_of_le (Nat.le_of_lt hlt))]

theorem take_succ_of_drop {l : List ℤ} (h : l.drop i = tid :: tids) :
    l.take (i + 1) = l.take i ++ [tid] := by
  rw [List.take_add_one, getElem?_of_drop h]
  rfl

theorem lookup_pruneTask_self (he : w.mSessionTaskMap.mSessions.lookup s = some e) :
    (w.mSessionTaskMap.pruneTask s tid i).2.mSessions.lookup s =
      some ⟨e.val, e.linkedTasks.eraseIdx i⟩ := by
  rw [pruneTask_eq he]
  exact AList.lookup_insert _

end Iterator

/-- A sweep only changes the calls and the map. -/
theorem frame_sweep (s t : ℤ) : ∀ (tids : List ℤ) (i : ℕ) (w : World),
    (sweep s t tids i w).2 = { w with
      schedCalls := (sweep s t tids i w).2.schedCalls
      mSessionTaskMap := (sweep s t tids i w).2.mSessionTaskMap } := by
  intro tids
  induction tids with
  | nil => exact fun i w => rfl
  | cons tid tids ih =>
      intro i w
      by_cases hdead : w.callError tid = ESRCH
      · rw [sweep_dead hdead]
        exact ih i _
      · rw [sweep_alive hdead]
        exact ih (i + 1) _

/-- **A sweep visits every thread and only takes out the dead ones**, and finds the link of each of
these. -/
theorem sweep_swept (s t : ℤ) : ∀ (tids : List ℤ) (i : ℕ) (w : World) (e : ValEntry),
    Consistent w.mSessionTaskMap → w.mSessionTaskMap.mSessions.lookup s = some e →
    e.linkedTasks.drop i = tids →
    Swept s t tids w (sweep s t tids i w).2 ∧ ∀ b ∈ (sweep s t tids i w).1, b = true := by
  intro tids
  induction tids with
  | nil => exact fun i w e hw _ _ => ⟨Swept.refl hw, by simp [sweep]⟩
  | cons tid tids ih =>
      intro i w e hw he hdrop
      have hget := getElem?_of_drop hdrop
      by_cases hdead : w.callError tid = ESRCH
      · -- the thread is taken out, and the sweep goes on at the same index
        rw [sweep_dead hdead]
        have heq := pruneTask_eq he tid i
        obtain ⟨hswept, hall⟩ := ih i { w.called tid t with
          mSessionTaskMap := (w.mSessionTaskMap.pruneTask s tid i).2 } _ (hw.pruneTask he hget)
          (lookup_pruneTask_self he) (drop_eraseIdx_of_drop hdrop)
        refine ⟨Swept.cons ?_ ?_ ?_ ?_ ?_ hswept, ?_⟩
        · rw [heq]
        · rw [heq]
        · exact fun s' => Wf.findSession_pruneTask he tid i s'
        · intro s'
          rw [Wf.getTaskIds_pruneTask he]
          by_cases hs : s' = s
          · rw [if_pos hs, hs]
            exact List.eraseIdx_sublist _ _
          · rw [if_neg hs]
        · intro tid' hne
          have htid : tid' ≠ tid := fun h => hne h hdead
          rw [heq]
          simp only [sessionsOf_unlink]
          rw [if_neg htid]
        · intro b hb
          rcases List.mem_cons.1 hb with rfl | hb
          · exact hw.pruneTask_found he hget
          · exact hall b hb
      · rw [sweep_alive hdead]
        obtain ⟨hswept, hall⟩ := ih (i + 1) (w.called tid t) e hw he (drop_succ_of_drop hdrop)
        exact ⟨Swept.cons rfl rfl (fun _ => rfl) (fun _ => List.Sublist.refl _) (fun _ _ => rfl)
          hswept, hall⟩

theorem sweepSession_swept {w : World} (hw : Consistent w.mSessionTaskMap) {s : ℤ} {p : ℕ}
    (hp : w.mSessionTaskMap.findSession s = some p) (t : ℤ) :
    Swept s t (w.mSessionTaskMap.getTaskIds s) w (w.sweepSession s t).2 ∧
      ∀ b ∈ (w.sweepSession s t).1, b = true := by
  obtain ⟨e, he, -⟩ := findSession_eq_some hp
  exact sweep_swept s t _ 0 w e hw he (by simp [getTaskIds, he])

end World

/-! ### The two maps -/

/-- **The two maps agree in every reachable state**: a session's pointer occurs in a task's list as
often as the task in the session's; a pointer in a task's list is that of the session whose id its
value has; no task has an empty list.  So `remove` finds every link it gives up, and so does the
sweep of `applyUclampLocked`. -/
theorem session_task_links_agree {m : SessionTaskMap} (h : Reachable m) :
    (∀ s e, m.mSessions.lookup s = some e →
      ∀ t, (sessionsOf m.mTasks t).count e.val = e.linkedTasks.count t) ∧
    (∀ t, ∀ p ∈ sessionsOf m.mTasks t,
      ∃ e, m.mSessions.lookup (m.vals.read p).sessionId = some e ∧ e.val = p) ∧
    (∀ t, m.mTasks.lookup t ≠ some []) ∧
    (∀ s e, m.mSessions.lookup s = some e →
      ∀ b ∈ (unlinkTasks e.val e.linkedTasks m.mTasks).1, b = .unlinked) ∧
    (∀ (w : World) (s t : ℤ), w.mSessionTaskMap = m → m.findSession s ≠ none →
      ∀ removed ∈ (w.sweepSession s t).1, removed = true) := by
  have hm := h.consistent
  refine ⟨fun s e he => hm.links he, fun t p hp => hm.owners hp, hm.noEmpty,
    fun s e he => hm.remove_branches he, ?_⟩
  rintro w s t rfl hs
  obtain ⟨p, hp⟩ := Option.ne_none_iff_exists'.1 hs
  exact (World.sweepSession_swept hm hp t).2

/-- Two sessions share thread 7, which is twice in the list of the first one; one of its two links
there is pruned. -/
theorem session_task_links_agree_shared :
    (sessionsOf (MapOp.apply (MapOp.apply (MapOp.apply {} (.add 1 {} [7, 7, 8])) (.add 2 {} [7]))
      (.prune 1 0)).mTasks 7).count 0 = 1 := by
  have hreach := (((Reachable.init.step (.add 1 {} [7, 7, 8])).step (.add 2 {} [7])).step
    (.prune 1 0))
  exact (session_task_links_agree hreach).1 1 ⟨0, [7, 8]⟩ (by decide) 7

end Adpf
