/-
**What the sessions of a thread ask for.**

The range that `getTaskVoteRange` computes for a thread is determined by the CPU votes of the active
sessions the thread is linked to.  This module says so without pointers: a thread has a list of
session ids, and each of these sessions, while it is active, contributes its CPU votes.

Main definitions:

* `Adpf.SessionTaskMap.getSessionIds` — the sessions of a thread;
* `Adpf.SessionTaskMap.Linked` — the threads that some session is linked to;
* `Adpf.SessionTaskMap.demand?`, `Adpf.SessionTaskMap.demands` — the CPU votes that count for a
  thread;
* `Adpf.rangeAt` — the range that such votes leave at a time.

Main results:

* `Adpf.SessionTaskMap.getTaskVoteRange_eq_rangeAt` — **the range of a thread is that of its
  demands**, when no session prefers power efficiency;
* `Adpf.SessionTaskMap.le_getTaskVoteRange_min` — the minimum of the range is the largest one among
  the votes in range, whatever the sessions prefer;
* `Adpf.SessionTaskMap.getSessionIds_replace` and its like — what the operations do to the links.
-/

import MotoCommon.SessionTaskMapViews

set_option autoImplicit false

namespace Adpf

/-- The range that some sets of CPU votes leave at time `t`. -/
def rangeAt (l : List (UMap ℤ CpuVote)) (t : ℤ) : UclampRange :=
  l.foldl (fun r votes => votes.entries.foldl (fun r e => confine r e.2 t) r) {}

/-- Every active vote of some sets of CPU votes has started at time `t`. -/
def StartedBy (t : ℤ) (l : List (UMap ℤ CpuVote)) : Prop :=
  ∀ votes ∈ l, ∀ id v, votes.lookup id = some v → v.mActive = true → v.mStartTime ≤ t

/-- While no active vote starts or ends, the range stays. -/
theorem rangeAt_congr {l : List (UMap ℤ CpuVote)} {t t' : ℤ} (htt' : t ≤ t')
    (hstart : StartedBy t l)
    (hend : ∀ votes ∈ l, ∀ id v, votes.lookup id = some v → v.mActive = true → t' ≤ v.endTime) :
    rangeAt l t = rangeAt l t' := by
  refine List.foldl_ext _ _ _ fun r votes hvotes => ?_
  refine List.foldl_ext _ _ _ fun r e he => ?_
  have hl : votes.lookup e.1 = some e.2 := (UMap.mem_entries_iff _ _ _).1 he
  have hsame : e.2.isTimeInRange t = e.2.isTimeInRange t' := by
    cases hact : e.2.mActive with
    | false =>
        rw [VoteRange.isTimeInRange_of_inactive hact, VoteRange.isTimeInRange_of_inactive hact]
    | true =>
        have h₁ := hstart votes hvotes e.1 e.2 hl hact
        have h₂ := hend votes hvotes e.1 e.2 hl hact
        have hin : e.2.isTimeInRange t = true := (VoteRange.isTimeInRange_iff _ _).2 ⟨hact, h₁, by omega⟩
        have hin' : e.2.isTimeInRange t' = true :=
          (VoteRange.isTimeInRange_iff _ _).2 ⟨hact, by omega, h₂⟩
        rw [hin, hin']
  rw [confine, confine, hsame]

namespace SessionTaskMap

variable {m m' : SessionTaskMap}

/-! ### Links and demands -/

/-- `getSessionIds`: the sessions of a thread, each as often as it is linked. -/
def getSessionIds (m : SessionTaskMap) (t : ℤ) : List ℤ :=
  (sessionsOf m.mTasks t).map fun p => (m.vals.read p).sessionId

/-- The CPU votes of a session, while it is active. -/
def demand? (m : SessionTaskMap) (s : ℤ) : Option (UMap ℤ CpuVote) :=
  if (m.state? s).elim false SessionValueEntry.isActive then (m.votes? s).map Votes.mCpuVotes
  else none

/-- The CPU votes that count for a thread. -/
def demands (m : SessionTaskMap) (t : ℤ) : List (UMap ℤ CpuVote) :=
  (m.getSessionIds t).filterMap m.demand?

theorem findSession_of_mem_sessionsOf (hm : Consistent m) {t : ℤ} {p : ℕ}
    (h : p ∈ sessionsOf m.mTasks t) : m.findSession (m.vals.read p).sessionId = some p := by
  obtain ⟨e, he, rfl⟩ := hm.owners h
  exact findSession_of_lookup he

theorem mem_getSessionIds (hm : Consistent m) {s t : ℤ} :
    s ∈ m.getSessionIds t ↔ t ∈ m.getTaskIds s := by
  constructor
  · intro h
    obtain ⟨p, hp, rfl⟩ := List.mem_map.1 h
    obtain ⟨e, he, rfl⟩ := hm.owners hp
    simpa [getTaskIds, he] using (hm.mem_sessionsOf_iff he t).1 hp
  · intro h
    cases he : m.mSessions.lookup s with
    | none => simp [getTaskIds, he] at h
    | some e =>
        have hmem : t ∈ e.linkedTasks := by simpa [getTaskIds, he] using h
        exact List.mem_map.2 ⟨e.val, (hm.mem_sessionsOf_iff he t).2 hmem, (hm.keyed he).2⟩

theorem getSessionIds_eq_nil {t : ℤ} : m.getSessionIds t = [] ↔ sessionsOf m.mTasks t = [] :=
  List.map_eq_nil_iff

/-- A session that a thread is linked to is there. -/
theorem findSession_ne_none_of_mem_getSessionIds (hm : Consistent m) {s t : ℤ} (h : s ∈ m.getSessionIds t) :
    m.findSession s ≠ none := by
  obtain ⟨p, hp, rfl⟩ := List.mem_map.1 h
  rw [findSession_of_mem_sessionsOf hm hp]
  exact Option.some_ne_none p

/-- Some session is linked to a thread. -/
def Linked (m : SessionTaskMap) (tid : ℤ) : Prop := ∃ s, tid ∈ m.getTaskIds s

theorem Consistent.linked_iff (hm : Consistent m) {tid : ℤ} :
    m.Linked tid ↔ sessionsOf m.mTasks tid ≠ [] := by
  constructor
  · rintro ⟨s, hs⟩ hnil
    have hmem := (mem_getSessionIds hm).2 hs
    rw [getSessionIds_eq_nil.2 hnil] at hmem
    cases hmem
  · intro hne
    obtain ⟨s, hs⟩ := List.exists_mem_of_ne_nil _ (mt getSessionIds_eq_nil.1 hne)
    exact ⟨s, (mem_getSessionIds hm).1 hs⟩

theorem Consistent.mem_mTasks_iff (hm : Consistent m) {tid : ℤ} :
    tid ∈ m.mTasks ↔ m.Linked tid := by
  rw [hm.linked_iff, hm.noEmpty.mem_iff]

theorem demand?_of_findSession {s : ℤ} {p : ℕ} (h : m.findSession s = some p) :
    m.demand? s =
      if (m.vals.read p).isActive then some (m.votesOf p).mCpuVotes else none := by
  simp [demand?, state?_of_findSession h, votes?_of_findSession h]

theorem demand?_congr {s : ℤ} (hs : m'.state? s = m.state? s) (hv : m'.votes? s = m.votes? s) :
    m'.demand? s = m.demand? s := by
  unfold demand?
  rw [hs, hv]

theorem demands_congr {t : ℤ} (hl : m'.getSessionIds t = m.getSessionIds t)
    (hd : ∀ s ∈ m.getSessionIds t, m'.demand? s = m.demand? s) : m'.demands t = m.demands t := by
  unfold demands
  rw [hl]
  exact List.filterMap_congr hd

/-! ### The range of a thread -/

/-- A session that does not prefer power efficiency narrows the range by its CPU votes, if it is
active. -/
theorem confineBySession_plain {p : ℕ} (h : (m.vals.read p).isPowerEfficient = false) (t : ℤ)
    (base off : Option ℤ) (r : UclampRange) :
    m.confineBySession t base off r p =
      if (m.vals.read p).isActive then (m.votesOf p).getUclampRange r t else r := by
  simp only [confineBySession, h]

/-- **The range of a thread is that of its demands**, when no session prefers power efficiency. -/
theorem getTaskVoteRange_eq_rangeAt (hm : Consistent m)
    (hplain : ∀ s v, m.state? s = some v → v.isPowerEfficient = false) (tid t : ℤ)
    (base off : Option ℤ) :
    m.getTaskVoteRange tid t {} base off = rangeAt (m.demands tid) t := by
  -- the sessions of the thread are gone through one by one
  have hfold : ∀ (ps : List ℕ) (r : UclampRange), (∀ p ∈ ps, p ∈ sessionsOf m.mTasks tid) →
      ps.foldl (m.confineBySession t base off) r =
        ((ps.map fun p => (m.vals.read p).sessionId).filterMap m.demand?).foldl
          (fun r votes => votes.entries.foldl (fun r e => confine r e.2 t) r) r := by
    intro ps
    induction ps with
    | nil => exact fun r _ => rfl
    | cons p ps ih =>
        intro r hps
        have hfind := findSession_of_mem_sessionsOf hm (hps p (List.mem_cons_self ..))
        have heff : (m.vals.read p).isPowerEfficient = false := by
          have h := hplain _ _ (state?_of_findSession hfind)
          exact h
        have hrest := ih (m.confineBySession t base off r p) fun q hq =>
          hps q (List.mem_cons_of_mem _ hq)
        rw [List.foldl_cons, hrest, List.map_cons, confineBySession_plain heff]
        have hd := demand?_of_findSession hfind
        cases hact : (m.vals.read p).isActive with
        | false =>
            rw [hact] at hd
            rw [List.filterMap_cons_none (by simpa using hd)]
            rfl
        | true =>
            rw [hact] at hd
            rw [List.filterMap_cons_some (by simpa using hd)]
            rfl
  rw [getTaskVoteRange_default]
  exact hfold _ _ fun p hp => hp

/-- One round of the loop: `x` is at most the minimum exactly when it was before, or when it is at
most the minimum of a CPU vote in range of the session, if the session is active. -/
theorem le_confineBySession_min (p : ℕ) (t : ℤ) (base off : Option ℤ) (r : UclampRange) (x : ℤ) :
    x ≤ (m.confineBySession t base off r p).uclampMin ↔ x ≤ r.uclampMin ∨
      ((m.vals.read p).isActive = true ∧ ∃ id v, (m.votesOf p).mCpuVotes.lookup id = some v ∧
        v.isTimeInRange t = true ∧ x ≤ v.mUclampRange.uclampMin) := by
  cases hact : (m.vals.read p).isActive with
  | false => simp [confineBySession_inactive hact]
  | true =>
      have hmin : (m.confineBySession t base off r p).uclampMin =
          ((m.votesOf p).getUclampRange r t).uclampMin := by
        simp only [confineBySession, hact, if_true]
        cases (m.vals.read p).isPowerEfficient <;> cases base <;> rfl
      rw [hmin, Votes.le_getUclampRange_min]
      simp

/-- The whole loop, for the minimum. -/
theorem le_foldl_confineBySession_min (ps : List ℕ) (t : ℤ) (base off : Option ℤ) (r : UclampRange)
    (x : ℤ) :
    x ≤ (ps.foldl (m.confineBySession t base off) r).uclampMin ↔ x ≤ r.uclampMin ∨
      ∃ p ∈ ps, (m.vals.read p).isActive = true ∧ ∃ id v,
        (m.votesOf p).mCpuVotes.lookup id = some v ∧ v.isTimeInRange t = true ∧
        x ≤ v.mUclampRange.uclampMin := by
  induction ps generalizing r with
  | nil => simp
  | cons p ps ih =>
      rw [List.foldl_cons, ih, le_confineBySession_min, or_assoc]
      simp only [List.mem_cons, exists_eq_or_imp]

/-- **The minimum of a thread's range**: `x` is at most it exactly when `x` is at most zero, or at
most the minimum of a CPU vote in range of an active session of the thread. -/
theorem le_getTaskVoteRange_min (hm : Consistent m) (tid t : ℤ) (base off : Option ℤ) (x : ℤ) :
    x ≤ (m.getTaskVoteRange tid t {} base off).uclampMin ↔ x ≤ 0 ∨
      ∃ votes ∈ m.demands tid, ∃ id v, votes.lookup id = some v ∧ v.isTimeInRange t = true ∧
        x ≤ v.mUclampRange.uclampMin := by
  rw [getTaskVoteRange_default, le_foldl_confineBySession_min]
  refine or_congr Iff.rfl ?_
  constructor
  · rintro ⟨p, hp, hact, hvote⟩
    have hfind := findSession_of_mem_sessionsOf hm hp
    refine ⟨(m.votesOf p).mCpuVotes, List.mem_filterMap.2 ⟨_, List.mem_map_of_mem hp, ?_⟩, hvote⟩
    rw [demand?_of_findSession hfind, if_pos hact]
  · rintro ⟨votes, hmem, hvote⟩
    obtain ⟨s, hs, hd⟩ := List.mem_filterMap.1 hmem
    obtain ⟨p, hp, rfl⟩ := List.mem_map.1 hs
    rw [demand?_of_findSession (findSession_of_mem_sessionsOf hm hp)] at hd
    split at hd
    · rename_i hact
      obtain rfl := Option.some.inj hd
      exact ⟨p, hp, hact, hvote⟩
    · cases hd

/-! ### What the operations do to the links -/

theorem getSessionIds_modifyVal (m : SessionTaskMap) (p : ℕ) (f : SessionValueEntry → SessionValueEntry)
    (hid : ∀ v, (f v).sessionId = v.sessionId) (t : ℤ) :
    (m.modifyVal p f).getSessionIds t = m.getSessionIds t := by
  refine List.map_congr_left fun q _ => ?_
  by_cases hq : q = p
  · subst hq
    simp [modifyVal, hid]
  · simp [modifyVal, Heap.read_write_of_ne _ _ hq]

theorem getSessionIds_addNew (hm : Wf m) (s : ℤ) (sv : SessionValueEntry) (vs : Votes) (t : ℤ) :
    (m.addNew s sv vs []).getSessionIds t = m.getSessionIds t := by
  by_cases h : m.findSession s = none
  · rw [Wf.addNew_absent h]
    refine List.map_congr_left fun q hq => ?_
    have hlt : q < m.vals.size := hm.lt_size hq
    simp only [Heap.read_alloc_of_lt _ _ hlt]
  · rw [Wf.addNew_present h]
    rfl

/-- The other sessions' links stay, in their order, and the new ones come last. -/
theorem getSessionIds_replace (hm : Consistent m) {s : ℤ} {e : ValEntry}
    (he : m.mSessions.lookup s = some e) (tasks added removed : List ℤ) (t : ℤ) :
    (m.replace s tasks added removed).map.getSessionIds t =
      (m.getSessionIds t).filter (fun s' => decide (s' ≠ s)) ++ List.replicate (tasks.count t) s := by
  obtain ⟨hnew, hold⟩ := hm.read_replace he tasks added removed
  unfold getSessionIds
  rw [hm.sessionsOf_replace he, hm.filter_val_eq he, List.map_append, List.map_replicate, hnew,
    (hm.keyed he).2, List.filter_map]
  congr 1
  refine List.map_congr_left fun q hq => ?_
  rw [hold q (hm.lt_size (List.mem_of_mem_filter hq))]

/-- A session without threads is removed without a trace in the links. -/
theorem getSessionIds_remove_of_nil {s : ℤ} (h : m.getTaskIds s = []) (t : ℤ) :
    (m.remove s).2.getSessionIds t = m.getSessionIds t := by
  unfold remove
  cases he : m.mSessions.lookup s with
  | none => rfl
  | some e =>
      have hnil : e.linkedTasks = [] := by simpa [getTaskIds, he] using h
      simp only [hnil]
      rfl

end SessionTaskMap

end Adpf
