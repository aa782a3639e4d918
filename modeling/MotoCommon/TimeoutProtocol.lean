/-
**The timeout events of the votes.**

A vote that is set is to be switched off when its time is over.  `voteSet` schedules an event for
that, but not always: as long as an event for the vote is under way that is not later than the new
timeout, the event itself, when it comes, finds out that the vote was renewed and schedules itself
again.  This module proves, over all interleavings of the operations of the service, that the
protocol neither forgets a vote nor ends one early.

Main definitions:

* `Adpf.World.Covered` — every active vote has a pending event that is not too late for it;
* `Adpf.World.NotEarly` — no vote is switched off before its time;
* `Adpf.ThreadId`, `Adpf.serviceStarts` — the threads, and what they may run;
* `Adpf.World.submit` — the section that sets a vote, as an action.

Main results:

* `Adpf.Action.covered` — every action keeps the votes covered;
* `Adpf.timeout_protocol` — **no vote is forgotten and none is cut short**, in any interleaving.
-/

import MotoCommon.Actions
import MotoCommon.ConcInterleave

set_option autoImplicit false

namespace Adpf

open Conc SessionTaskMap

namespace World

variable {w w' : World}

/-! ### Votes and their events -/

/-- Every active vote of a session has a pending event whose deadline is not after the vote's
timeout. -/
def Covered (w : World) : Prop :=
  ∀ s vs v r, w.mSessionTaskMap.votes? s = some vs → vs.timing? v = some r → r.mActive = true →
    ∃ e ∈ w.pending, e.sessionId = s ∧ e.voteId = v ∧ e.deadline ≤ r.endTime

theorem mem_pending {e : Timeout} :
    e ∈ w.pending ↔ e ∈ w.decided ∨ e ∈ w.queue ∨ e ∈ w.running := by
  simp [pending]

/-- Active votes that were active before, with the same timeout, stay covered. -/
theorem Covered.of_votes (hc : w.Covered) (hp : ∀ e ∈ w.pending, e ∈ w'.pending)
    (hv : ∀ s vs v r, w'.mSessionTaskMap.votes? s = some vs → vs.timing? v = some r →
      r.mActive = true → ∃ vs₀, w.mSessionTaskMap.votes? s = some vs₀ ∧ vs₀.timing? v = some r) :
    w'.Covered := by
  intro s vs v r hvs hr hact
  obtain ⟨vs₀, hvs₀, hr₀⟩ := hv s vs v r hvs hr hact
  obtain ⟨e, he, hrest⟩ := hc s vs₀ v r hvs₀ hr₀ hact
  exact ⟨e, hp e he, hrest⟩

/-- Nothing happens to the votes. -/
theorem Covered.of_same (hc : w.Covered) (hp : ∀ e ∈ w.pending, e ∈ w'.pending)
    (hv : ∀ s, w'.mSessionTaskMap.votes? s = w.mSessionTaskMap.votes? s) : w'.Covered :=
  hc.of_votes hp fun s vs v r hvs hr _ => ⟨vs, by rw [← hv, hvs], hr⟩

/-! ### Setting a vote -/

/-- Whether a vote goes into the map that its id belongs to. -/
def Ballot.fits (b : Ballot) (voteId : ℤ) : Bool :=
  match b with
  | .cpu _ _ => !isGpuVote voteId
  | .gpu _ => isGpuVote voteId

theorem Ballot.timing?_add (b : Ballot) (e : Timeout) (d : ℤ) (vs : Votes) (v : ℤ) :
    (b.add e d vs).timing? v =
      if v = e.voteId ∧ b.fits e.voteId = true then some ⟨true, e.timeStamp, d⟩
      else vs.timing? v := by
  cases b with
  | cpu lo hi =>
      by_cases hg : isGpuVote e.voteId = true
      · simp [Ballot.add, Ballot.fits, Votes.addCpu_of_gpu hg, hg]
      · have hg' : isGpuVote e.voteId = false := by simpa using hg
        simp [Ballot.add, Ballot.fits, Votes.timing?_addCpu hg', hg']
  | gpu c =>
      by_cases hg : isGpuVote e.voteId = true
      · simp [Ballot.add, Ballot.fits, Votes.timing?_addGpu hg, hg]
      · have hg' : isGpuVote e.voteId = false := by simpa using hg
        simp [Ballot.add, Ballot.fits, Votes.addGpu_of_cpu hg', hg']

theorem votes?_voted (hw : Wf w.mSessionTaskMap) {e : Timeout} {p : ℕ}
    (hp : w.mSessionTaskMap.findSession e.sessionId = some p) (d : ℤ) (b : Ballot) (s : ℤ) :
    (w.voted e d b p).mSessionTaskMap.votes? s =
      if s = e.sessionId then (w.mSessionTaskMap.votes? e.sessionId).map (b.add e d)
      else w.mSessionTaskMap.votes? s :=
  ((voted_refreshes hw hp d b).votes? s).trans (votes?_writeVotes hw _ _ s)

/-- Where the session is known, the vote is stored. -/
theorem votes?_voteSection (hw : Wf w.mSessionTaskMap) (e : Timeout) (d : ℤ) (b : Ballot) :
    (w.voteSection e d b).2.mSessionTaskMap.votes? e.sessionId =
      (w.mSessionTaskMap.votes? e.sessionId).map (b.add e d) := by
  rcases voteSection_cases w e d b with ⟨hp, heq⟩ | ⟨p, decided, hp, heq⟩
  · rw [heq, votes?_eq_none.2 hp]
    rfl
  · have hvotes := votes?_voted hw hp d b e.sessionId
    rw [if_pos rfl] at hvotes
    rw [heq]
    exact hvotes

/-- The action with which a vote is submitted to the manager. -/
def submit (sessionId : ℤ) (voteId : AdpfVoteType) (b : Ballot) (startTime durationNs : ℤ)
    (w : World) : World :=
  (w.voteSection (PowerSessionManager.timeoutOf sessionId voteId startTime durationNs) durationNs b).2

/-- It is among the actions of the program that casts the vote. -/
theorem castVote_performs (s : ℤ) (v : AdpfVoteType) (b : Ballot) (t d : ℤ) (w : World) :
    (PowerSessionManager.castVote s v b t d).Performs w (submit s v b t d) :=
  Prog.Performs.bind_left (Prog.Performs.critical (Prog.Performs.atomic _ w))

/-- No event is scheduled only while a vote is active that does not time out later. -/
theorem not_shouldScheduleTimeout {vs : Votes} {v t : ℤ}
    (h : shouldScheduleTimeout vs v t = false) :
    ∃ r, vs.timing? v = some r ∧ r.mActive = true ∧ r.endTime ≤ t := by
  simp only [shouldScheduleTimeout, Bool.or_eq_false_iff, Bool.not_eq_false',
    decide_eq_false_iff_not] at h
  obtain ⟨hact, ht⟩ := h
  cases hr : vs.timing? v with
  | none => simp [Votes.voteIsActive, hr] at hact
  | some r =>
      refine ⟨r, rfl, by simpa [Votes.voteIsActive, hr] using hact, ?_⟩
      simp only [Votes.voteTimeout, hr, Option.elim_some] at ht
      omega

theorem Covered.voteSection (hc : w.Covered) (hw : Wf w.mSessionTaskMap) {e : Timeout} {d : ℤ}
    (he : e.deadline = addNanos e.timeStamp d) (b : Ballot) : (w.voteSection e d b).2.Covered := by
  cases hp : w.mSessionTaskMap.findSession e.sessionId with
  | none =>
      rw [voteSection_none hp]
      exact hc
  | some p =>
      rw [voteSection_some hp]
      have hpend := (onlyOutputs_voted w e d b p).pending
      have hvotes := votes?_voted hw hp d b
      have hold := votes?_of_findSession hp
      -- an old vote keeps its event; what counts is the vote that was set
      have hcover : ∀ w'' : World, w''.mSessionTaskMap = (w.voted e d b p).mSessionTaskMap →
          (∀ e' ∈ w.pending, e' ∈ w''.pending) →
          (∃ e' ∈ w''.pending, e'.sessionId = e.sessionId ∧ e'.voteId = e.voteId ∧
            e'.deadline ≤ e.deadline) → w''.Covered := by
        intro w'' hmap hsub hnew s vs v r hvs hr hact
        rw [hmap, hvotes] at hvs
        by_cases hs : s = e.sessionId
        · rw [if_pos hs, hold] at hvs
          obtain rfl := Option.some.inj hvs
          rw [Ballot.timing?_add] at hr
          by_cases hv : v = e.voteId ∧ b.fits e.voteId = true
          · rw [if_pos hv] at hr
            obtain rfl := Option.some.inj hr
            obtain ⟨e', hmem, hse, hve, hd⟩ := hnew
            refine ⟨e', hmem, hse.trans hs.symm, hve.trans hv.1.symm, ?_⟩
            rw [he] at hd
            exact hd
          · rw [if_neg hv] at hr
            obtain ⟨e', hmem, hrest⟩ := hc s _ v r (by rw [hs, hold]) hr hact
            exact ⟨e', hsub e' hmem, hrest⟩
        · rw [if_neg hs] at hvs
          obtain ⟨e', hmem, hrest⟩ := hc s vs v r hvs hr hact
          exact ⟨e', hsub e' hmem, hrest⟩
      dsimp only
      split
      · refine hcover _ rfl ?_ ⟨e, ?_, rfl, rfl, le_rfl⟩
        · intro e' he'
          rw [← hpend] at he'
          simp only [mem_pending, List.mem_cons] at he' ⊢
          tauto
        · simp [mem_pending]
      · rename_i hsched
        refine hcover _ rfl (fun e' he' => by rwa [hpend]) ?_
        obtain ⟨r, hr, hact, hend⟩ := not_shouldScheduleTimeout (by simpa using hsched)
        obtain ⟨e', hmem, hse, hve, hd⟩ := hc _ _ _ r hold hr hact
        exact ⟨e', by rwa [hpend], hse, hve, by omega⟩

/-! ### Expiry -/

theorem timing?_setUseVote (vs : Votes) (id v : ℤ) :
    (vs.setUseVote id false).2.timing? v =
      if v = id then (vs.timing? id).map (VoteRange.setActive false) else vs.timing? v :=
  Votes.timing?_modifyTiming vs id _ v

/-- The votes after `handleEvent` has switched off the vote of an event. -/
theorem votes?_expired (hw : Wf w.mSessionTaskMap) (e : Timeout) (s : ℤ) :
    ({ w with running := w.running.erase e }.writeVotes e.sessionId
        fun vs => (vs.setUseVote e.voteId false).2).mSessionTaskMap.votes? s =
      if s = e.sessionId then
        (w.mSessionTaskMap.votes? e.sessionId).map fun vs => (vs.setUseVote e.voteId false).2
      else w.mSessionTaskMap.votes? s :=
  votes?_writeVotes (w := { w with running := w.running.erase e }) hw _ _ s

/-- A change after which an event is pending no more: its vote must not be active then. -/
theorem Covered.of_dealt {w' : World} (hc : w.Covered) (e : Timeout)
    (hpend : ∀ e' ∈ w.pending, e' ≠ e → e' ∈ w'.pending)
    (hvotes : ∀ s vs v r, w'.mSessionTaskMap.votes? s = some vs → vs.timing? v = some r →
      r.mActive = true → ¬ (s = e.sessionId ∧ v = e.voteId) ∧
        ∃ vs₀, w.mSessionTaskMap.votes? s = some vs₀ ∧ vs₀.timing? v = some r) : w'.Covered := by
  intro s vs v r hvs hr hact
  obtain ⟨hother, vs₀, hvs₀, hr₀⟩ := hvotes s vs v r hvs hr hact
  obtain ⟨e', hmem, hse, hve, hd⟩ := hc s vs₀ v r hvs₀ hr₀ hact
  refine ⟨e', hpend e' hmem ?_, hse, hve, hd⟩
  rintro rfl
  exact hother ⟨hse.symm, hve.symm⟩

theorem Covered.expireSection (hc : w.Covered) (hw : Wf w.mSessionTaskMap) (e : Timeout) (t : ℤ) :
    (w.expireSection e t).2.Covered := by
  -- the event that is dealt with is the only one that goes
  have hkeep : ∀ e' ∈ w.pending, e' ≠ e →
      e' ∈ w.decided ∨ e' ∈ w.queue ∨ e' ∈ w.running.erase e := by
    intro e' he' hne
    rcases mem_pending.1 he' with h | h | h
    · exact Or.inl h
    · exact Or.inr (Or.inl h)
    · exact Or.inr (Or.inr ((List.mem_erase_of_ne hne).2 h))
  cases hp : w.mSessionTaskMap.findSession e.sessionId with
  | none =>
      rw [expireSection_none hp]
      refine hc.of_dealt e (fun e' he' hne => mem_pending.2 (hkeep e' he' hne)) ?_
      intro s vs v r hvs hr _
      refine ⟨?_, vs, hvs, hr⟩
      rintro ⟨rfl, -⟩
      rw [show w.mSessionTaskMap.votes? e.sessionId = none from votes?_eq_none.2 hp] at hvs
      cases hvs
  | some p =>
      have hold := votes?_of_findSession hp
      rcases expireSection_cases hp t with ⟨hinact, heq⟩ | ⟨-, -, heq⟩ | ⟨hact', -, heq⟩
      · rw [heq]
        refine hc.of_dealt e (fun e' he' hne => mem_pending.2 (hkeep e' he' hne)) ?_
        intro s vs v r hvs hr hact
        refine ⟨?_, vs, hvs, hr⟩
        rintro ⟨rfl, rfl⟩
        rw [show w.mSessionTaskMap.votes? e.sessionId = _ from hold] at hvs
        obtain rfl := Option.some.inj hvs
        simp [Votes.voteIsActive, hr, hact] at hinact
      · rw [heq]
        refine hc.of_dealt e (fun e' he' hne => ?_) ?_
        · rw [(onlyMap_writeVotes _ _ _).pending]
          exact mem_pending.2 (hkeep e' he' hne)
        · intro s vs v r hvs hr hact
          rw [votes?_expired hw] at hvs
          by_cases hs : s = e.sessionId
          · rw [if_pos hs, hold] at hvs
            obtain rfl := Option.some.inj hvs
            rw [timing?_setUseVote] at hr
            by_cases hv : v = e.voteId
            · -- the vote itself is off now
              rw [if_pos hv] at hr
              obtain ⟨r₀, -, rfl⟩ := Option.map_eq_some_iff.1 hr
              cases hact
            · rw [if_neg hv] at hr
              exact ⟨fun h => hv h.2, _, by rw [hs, hold], hr⟩
          · rw [if_neg hs] at hvs
            exact ⟨fun h => hs h.1, vs, hvs, hr⟩
      · rw [heq]
        intro s vs v r hvs hr hact
        obtain ⟨e', hmem, hse, hve, hd⟩ := hc s vs v r hvs hr hact
        by_cases hee : e' = e
        · -- the event of this very vote: it is scheduled again for the vote's timeout
          subst hee
          refine ⟨{ e' with deadline := (w.mSessionTaskMap.votesOf p).voteTimeout e'.voteId },
            ?_, hse, hve, ?_⟩
          · simp [mem_pending]
          · rw [← hse, hold] at hvs
            obtain rfl := Option.some.inj hvs
            rw [← hve] at hr
            simp [Votes.voteTimeout, hr]
        · refine ⟨e', ?_, hse, hve, hd⟩
          rcases hkeep e' hmem hee with h | h | h
          · exact mem_pending.2 (Or.inl (List.mem_cons_of_mem _ h))
          · exact mem_pending.2 (Or.inr (Or.inl h))
          · exact mem_pending.2 (Or.inr (Or.inr h))

/-- An event that is enqueued only moves from one place to another. -/
theorem mem_pending_enqueue {e e' : Timeout} (he' : e' ∈ w.pending) : e' ∈ (w.enqueue e).pending := by
  by_cases hee : e' = e
  · subst hee
    simp [mem_pending, World.enqueue]
  · rcases mem_pending.1 he' with h | h | h
    · exact mem_pending.2 (Or.inl ((List.mem_erase_of_ne hee).2 h))
    · exact mem_pending.2 (Or.inr (Or.inl (List.mem_cons_of_mem _ h)))
    · exact mem_pending.2 (Or.inr (Or.inr h))

/-- So does one that is taken from the queue. -/
theorem Covered.pop (hc : w.Covered) (i : ℕ) : (w.pop i).2.Covered := by
  unfold World.pop
  cases hi : w.queue[i]? with
  | none => exact hc
  | some e =>
      refine hc.of_same (fun e' he' => ?_) fun _ => rfl
      rcases mem_pending.1 he' with h | h | h
      · exact mem_pending.2 (Or.inl h)
      · obtain ⟨hlt, hget⟩ := List.getElem?_eq_some_iff.1 hi
        have hperm := List.getElem_cons_eraseIdx_perm hlt
        rw [hget] at hperm
        rcases List.mem_cons.1 (hperm.symm.subset h) with rfl | h'
        · exact mem_pending.2 (Or.inr (Or.inr (List.mem_cons_self ..)))
        · exact mem_pending.2 (Or.inr (Or.inl h'))
      · exact mem_pending.2 (Or.inr (Or.inr (List.mem_cons_of_mem _ h)))

theorem Covered.disableSection (hc : w.Covered) (hw : Wf w.mSessionTaskMap) (s : ℤ) :
    (w.disableSection s).Covered := by
  refine hc.of_votes (fun e he => ?_) fun s' vs v r hvs hr hact => ?_
  · rw [disableSection_eq]
    rwa [(onlyMap_writeVotes w _ _).pending]
  · rw [disableSection_eq, votes?_writeVotes hw] at hvs
    split at hvs
    · rename_i hs
      obtain ⟨vs₀, hvs₀, rfl⟩ := Option.map_eq_some_iff.1 hvs
      rw [Votes.timing?_turnOff] at hr
      split at hr
      · obtain ⟨r₀, -, rfl⟩ := Option.map_eq_some_iff.1 hr
        cases hact
      · exact ⟨vs₀, hs ▸ hvs₀, hr⟩
    · exact ⟨vs, hvs, hr⟩

end World

/-! ### Every action -/

theorem World.Covered.of_aside {w w' : World} (hc : w.Covered) (ha : Aside w w') : w'.Covered := by
  refine hc.of_same ?_ fun s => by rw [ha.map]
  intro e he
  rw [World.mem_pending] at he ⊢
  rwa [ha.decided, ha.queue, ha.running]

open World in
/-- **Every action keeps the votes covered**, unless it changes the duration of a vote. -/
theorem Action.covered {A : Special → Prop} {w w' : World} (h : Action A w w')
    (hA : ¬ A .duration) (hw : Wf w.mSessionTaskMap) (hc : w.Covered) : w'.Covered := by
  cases h with
  | quiet hq => exact hc.of_aside hq.toAside
  | apart _ ha => exact hc.of_aside ha.aside
  | add desc t _ _ =>
      refine hc.of_votes (fun e he => he) fun s vs v r hvs hr hact => ?_
      rw [votes?_addSection hw] at hvs
      split at hvs
      · obtain rfl := Option.some.inj hvs
        rw [newVotes_inactive hr] at hact
        cases hact
      · exact ⟨vs, hvs, hr⟩
  | force s b _ _ =>
      refine hc.of_same (fun e he => ?_) fun s' => votes?_forceSection w s b s'
      rwa [(onlyMap_forceSection w s b).pending]
  | switch s b _ _ =>
      refine hc.of_same (fun e he => ?_) fun s' => votes?_switchSection w s b s'
      rwa [(onlyMap_switchSection w s b).pending]
  | apply s t =>
      refine hc.of_same (fun e he => ?_) (applyVotes_refreshes hw s t).votes?
      rwa [(onlyOutputs_applyVotes w s t).pending]
  | replace s tids _ _ =>
      exact hc.of_same (fun e he => he) fun s' => hw.votes?_replace s tids [] [] s'
  | remove s _ _ =>
      refine hc.of_votes (fun e he => he) fun s' vs v r hvs hr _ => ?_
      rw [votes?_removeSection hw] at hvs
      split at hvs
      · cases hvs
      · exact ⟨vs, hvs, hr⟩
  | vote e d b _ he => exact hc.voteSection hw he b
  | disable s => exact hc.disableSection hw s
  | expire e t => exact hc.expireSection hw e t
  | enqueue e => exact hc.of_same (fun e' he' => mem_pending_enqueue he') fun _ => rfl
  | pop i => exact hc.pop i
  | duration s v d _ hk => exact absurd hk hA
  | efficiency s b _ _ =>
      refine hc.of_same (fun e he => ?_) fun s' => votes?_efficiencySection w s b s'
      rwa [(onlyMap_efficiencySection w s b).pending]
  | uclamp s t _ _ =>
      refine hc.of_same (fun e he => ?_) (applyUclampLocked_refreshes hw s t).votes?
      rwa [(onlyOutputs_applyUclampLocked w s t).pending]
  | profile mode b _ _ =>
      obtain ⟨rate, heq⟩ := hintMode_eq mode b w
      rw [heq]
      exact hc.of_same (fun e he => he) fun s => rfl

/-! ### No vote is cut short -/

/-- No vote of a session is switched off before its time. -/
def World.NotEarly (w w' : World) : Prop :=
  ∀ s vs vs' v r, w.mSessionTaskMap.votes? s = some vs → vs.timing? v = some r →
    r.mActive = true → w'.mSessionTaskMap.votes? s = some vs' → vs'.voteIsActive v = false →
    r.endTime ≤ w'.clock

namespace World

variable {w w' : World}

theorem NotEarly.of_same (hv : ∀ s, w'.mSessionTaskMap.votes? s = w.mSessionTaskMap.votes? s) :
    NotEarly w w' := by
  intro s vs vs' v r hvs hr hact hvs' hoff
  rw [hv, hvs] at hvs'
  obtain rfl := Option.some.inj hvs'
  simp [Votes.voteIsActive, hr, hact] at hoff

/-- The time that `handleEvent` compares with was read before. -/
theorem notEarly_expireSection (hw : Wf w.mSessionTaskMap) (e : Timeout) {t : ℤ} (ht : t ≤ w.clock) :
    NotEarly w (w.expireSection e t).2 := by
  cases hp : w.mSessionTaskMap.findSession e.sessionId with
  | none =>
      rw [expireSection_none hp]
      exact NotEarly.of_same fun _ => rfl
  | some p =>
      rcases expireSection_cases hp t with ⟨-, heq⟩ | ⟨-, hend, heq⟩ | ⟨-, -, heq⟩
      · rw [heq]
        exact NotEarly.of_same fun _ => rfl
      · rw [heq]
        intro s vs vs' v r hvs hr hact hvs' hoff
        have hclock : (({ w with running := w.running.erase e } : World).writeVotes e.sessionId
            fun vs => (vs.setUseVote e.voteId false).2).clock = w.clock := by
          rw [onlyMap_writeVotes]
        rw [hclock]
        rw [votes?_expired hw] at hvs'
        by_cases hs : s = e.sessionId
        · rw [hs, votes?_of_findSession hp] at hvs
          obtain rfl := Option.some.inj hvs
          rw [if_pos hs, votes?_of_findSession hp] at hvs'
          obtain rfl := Option.some.inj hvs'
          rw [Votes.voteIsActive, timing?_setUseVote] at hoff
          by_cases hv : v = e.voteId
          · rw [hv] at hr
            simp only [Votes.voteTimeout, hr, Option.elim_some] at hend
            omega
          · rw [if_neg hv, hr] at hoff
            simp [hact] at hoff
        · rw [if_neg hs, hvs] at hvs'
          obtain rfl := Option.some.inj hvs'
          simp [Votes.voteIsActive, hr, hact] at hoff
      · rw [heq]
        exact NotEarly.of_same fun _ => rfl

end World

/-! ### All interleavings -/

/-- The maps are well formed and the votes are covered. -/
def World.Sound (w : World) : Prop := Wf w.mSessionTaskMap ∧ w.Covered

/-- What every thread relies on: time does not go back, and nobody spoils what is sound. -/
def Keeps (w w' : World) : Prop := w.clock ≤ w'.clock ∧ (w.Sound → w'.Sound)

theorem Keeps.refl (w : World) : Keeps w w := ⟨le_rfl, id⟩

theorem Keeps.trans (w w' w'' : World) (h : Keeps w w') (h' : Keeps w' w'') : Keeps w w'' :=
  ⟨h.1.trans h'.1, fun hs => h'.2 (h.2 hs)⟩

theorem Action.keeps {A : Special → Prop} {w w' : World} (h : Action A w w')
    (hA : ¬ A .duration) : Keeps w w' :=
  ⟨h.clock_le, fun hs => ⟨h.wf hs.1, h.covered hA hs.1 hs.2⟩⟩

/-- The threads: those of the clients' calls, and the worker's. -/
inductive ThreadId where
  | binder (n : ℕ)
  | worker
  deriving DecidableEq, Repr

/-- The clients' threads run the operations of the service, except those that change the duration of
a vote; the worker runs rounds of its loop. -/
def serviceStarts : ThreadId → P Unit → Prop
  | .binder _, p => ∃ op : Op, p = op.prog ∧ ¬ op.uses .duration ∧ ∀ i, op ≠ .worker i
  | .worker, p => ∃ i, p = workerRound i

/-- What a thread guarantees. -/
def guarantee : ThreadId → World → World → Prop
  | .binder _, w, w' => Keeps w w'
  | .worker, w, w' => Keeps w w' ∧ (w.Sound → w.NotEarly w')

theorem guarantee.keeps (i : ThreadId) (w w' : World) (h : guarantee i w w') : Keeps w w' := by
  cases i with
  | binder n => exact h
  | worker => exact h.1

section Worker

open PowerSessionManager Prog

/-- The actions that use no special kind but calls of the hint manager. -/
abbrev PlainAction : World → World → Prop := Action (Eq .hint)

/-- A plain action that leaves the votes alone is within the worker's guarantee. -/
theorem guarantee_worker_of_same {w w' : World} (h : PlainAction w w')
    (hv : w.Sound → ∀ s, w'.mSessionTaskMap.votes? s = w.mSessionTaskMap.votes? s) :
    guarantee .worker w w' :=
  ⟨h.keeps (by decide), fun hs => World.NotEarly.of_same (hv hs)⟩

theorem guarantee_worker_quiet (w w' : World) (h : Quiet w w') : guarantee .worker w w' :=
  guarantee_worker_of_same (.apart rfl (.hint h)) fun _ s => by rw [h.map]

theorem settle_guards (e : Timeout) {t : ℤ} {w : World} (ht : t ≤ w.clock) :
    (settle e t).Guards Keeps (guarantee .worker) (fun _ _ => True) w := by
  refine Guards.bind (Q := fun _ _ => True) (Guards.atomic fun w' hw' => ⟨⟨?_, ?_⟩, trivial⟩)
    fun verdict w' _ => ?_
  · have hact : PlainAction w' (w'.expireSection e t).2 := .expire e t w'
    exact hact.keeps (by decide)
  · exact fun hs => World.notEarly_expireSection hs.1 e (ht.trans hw'.1)
  · refine Guards.bind (Q := fun _ _ => True) (Within.guards ?_ w') fun _ _ _ => trivial
    cases verdict with
    | drop => exact Within.ret ()
    | expired => exact Within.ret ()
    | requeue e' =>
        refine Within.bind (Within.critical (Within.ret ())) fun _ =>
          Within.critical (Within.modify fun w => ?_)
        exact guarantee_worker_of_same (.enqueue e' w) fun _ _ => rfl

theorem handleEvent_guards (e : Timeout) (w : World) :
    (handleEvent e).Guards Keeps (guarantee .worker) (fun _ _ => True) w := by
  -- the time that was read stays in the past
  refine Guards.bind (Q := fun t w => t ≤ w.clock) (Guards.atomic fun w' _ => ⟨?_, le_rfl⟩)
    fun t w' ht => ?_
  · exact guarantee_worker_quiet _ _ (.readClock w')
  · refine Guards.bind (Guards.critical (settle_guards e ht)) fun verdict w'' _ => ?_
    refine Within.guards (Within.when (Within.bind ?_ fun _ => ?_)) w''
    · refine Within.critical (Within.modify fun w => ?_)
      exact guarantee_worker_of_same (.apply _ _ w) fun hs =>
        (World.applyVotes_refreshes hs.1 _ _).votes?
    · exact updateUniversalBoostMode_within' guarantee_worker_quiet

theorem workerRound_guards (i : ℕ) (w : World) :
    (workerRound i).Guards Keeps (guarantee .worker) (fun _ _ => True) w := by
  refine Guards.bind (Q := fun _ _ => True)
    (Guards.critical (Guards.atomic fun w' _ => ⟨?_, trivial⟩)) fun event w' _ => ?_
  · refine guarantee_worker_of_same (.pop i w') fun _ s => ?_
    obtain ⟨queue, running, heq⟩ := World.pop_eq i w'
    rw [heq]
  · cases event with
    | none => trivial
    | some e =>
        exact Guards.critical (Guards.bind (Q := fun _ _ => True) (Guards.critical trivial)
          fun _ w'' _ => handleEvent_guards e w'')

end Worker

/-- Every thread keeps its guarantee. -/
theorem serviceStarts_guards (i : ThreadId) (p : P Unit) (h : serviceStarts i p) (w : World) :
    p.Guards Keeps (guarantee i) (fun _ _ => True) w := by
  cases i with
  | binder n =>
      obtain ⟨op, rfl, hdur, -⟩ := h
      have hwithin := op.within (A := op.uses) fun _ hk => hk
      exact (hwithin.mono fun w w' hact => hact.keeps hdur).guards w
  | worker =>
      obtain ⟨i, rfl⟩ := h
      exact workerRound_guards i w

theorem World.Sound.init (env : Env) (adpfConfig : AdpfConfig) :
    (World.init env adpfConfig).Sound := by
  refine ⟨Wf.empty, fun s vs v r hvs _ _ => ?_⟩
  rw [votes?_eq_none.2 rfl] at hvs
  cases hvs

/-- **No vote is forgotten and none is cut short.**  In every state that some interleaving of the
operations leads to, every active vote has an event under way that is not too late for it, and the
worker's next step does not switch off a vote before its timeout.  So once the events that are due at
some time have run, no vote is active beyond its timeout. -/
theorem timeout_protocol {env : Env} {adpfConfig : AdpfConfig} {c : Config ThreadId Lock World}
    (h : Reach serviceStarts (Config.init (World.init env adpfConfig)) c) :
    c.state.Covered ∧
    (∀ c', Step serviceStarts .worker c c' → c.state.NotEarly c'.state) ∧
    (∀ t, (∀ e ∈ c.state.pending, t < e.deadline) → ∀ s vs v r,
      c.state.mSessionTaskMap.votes? s = some vs → vs.timing? v = some r → r.mActive = true →
      t < r.endTime) := by
  have hsound : c.state.Sound :=
    (reach_rely Keeps.refl Keeps.trans guarantee.keeps serviceStarts_guards (allGuard_init _) h).2.2
      (World.Sound.init env adpfConfig)
  refine ⟨hsound.2, ?_, ?_⟩
  · intro c' hstep
    rcases step_guarantee Keeps.refl Keeps.trans guarantee.keeps serviceStarts_guards h hstep with
      heq | hg
    · rw [heq]
      exact World.NotEarly.of_same fun _ => rfl
    · exact hg.2 hsound
  · intro t hdue s vs v r hvs hr hact
    obtain ⟨e, he, -, -, hd⟩ := hsound.2 s vs v r hvs hr hact
    have := hdue e he
    omega

/-- A client creates a session: its two votes are active, and an event is in the queue for each. -/
theorem timeout_protocol_created :
    ∃ w : World, w = (Op.create 100 10000 [7] 16000000).prog.post (World.init {} makeMockConfig) ∧
      w.Covered ∧ w.pending.map (fun e => (e.voteId, e.deadline)) = [(0, 16000000), (2, 120000000)] := by
  have hop : serviceStarts (.binder 0) (Op.create 100 10000 [7] 16000000).prog :=
    ⟨_, rfl, id, fun i => by simp⟩
  have hreach := reach_run (s := World.init {} makeMockConfig) hop (by decide +kernel)
    (by decide +kernel)
  have hcovered := (timeout_protocol hreach).1
  rw [Config.state_init] at hcovered
  exact ⟨_, rfl, hcovered, by decide +kernel⟩

end Adpf
