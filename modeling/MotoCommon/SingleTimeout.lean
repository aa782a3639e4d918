/-
**How many timeout events a vote has.**

Seen from one session and one vote, the manager is a timer of `MotoCommon/RequeueTimer.lean`: `voteSet`
sets it, `disableBoosts` switches it off, and the worker's rounds deal with its events.  So as long as
the deadlines do not decrease there is at most one event for the vote, except that `disableBoosts`
switches a vote off and leaves its event in the queue: the next `voteSet` then adds another.

Main definitions:

* `Adpf.World.timer` — a vote of a session, as a timer;
* `Adpf.Op.Votes`, `Adpf.Op.deadline` — the operations, and the deadline that one sets for a vote;
* `Adpf.Op.Revives`, `Adpf.Spares` — a vote is set while it is off and an event is left, and runs in
  which that does not happen.

Main results:

* `Adpf.Op.timer_post` — **one operation** is a step of every timer, or sets it;
* `Adpf.single_timeout_event_iff` — **whole runs**: when there is at most one event for each vote, and
  how many events there are then.
-/

import MotoCommon.RequeueTimer
import MotoCommon.RunRules
import MotoCommon.SessionAgreement
import MotoCommon.TimeoutProtocol
import Mathlib.Data.List.ProdSigma

set_option autoImplicit false

namespace Adpf

open Conc World Prog SessionTaskMap PowerSessionManager Requeue

/-! ### A vote as a timer -/

/-- Whether a timeout event is for a vote of a session. -/
def Timeout.isFor (s v : ℤ) (e : Timeout) : Bool := decide (e.sessionId = s ∧ e.voteId = v)

/-- A vote of a session as a timer, with the events that are in the queue. -/
def World.timer (s v : ℤ) (w : World) : Timer ℤ where
  active := (w.mSessionTaskMap.votes? s).elim false fun vs => vs.voteIsActive v
  timeout := (w.mSessionTaskMap.votes? s).elim 0 fun vs => vs.voteTimeout v
  events := w.queue.countP (Timeout.isFor s v)

variable {w w' : World} {s v : ℤ}

theorem World.timer_congr (hvotes : w'.mSessionTaskMap.votes? s = w.mSessionTaskMap.votes? s)
    (hqueue : w'.queue = w.queue) : w'.timer s v = w.timer s v := by
  unfold World.timer
  rw [hvotes, hqueue]

/-- The timer of a vote of a session that is there. -/
theorem World.timer_of_votes? {vs : Votes} (hvs : w.mSessionTaskMap.votes? s = some vs) :
    w.timer s v =
      { active := vs.voteIsActive v
        timeout := vs.voteTimeout v
        events := w.queue.countP (Timeout.isFor s v) } := by
  unfold World.timer
  rw [hvs]
  rfl

/-- Another event in the queue. -/
theorem World.timer_cons {e : Timeout} (hmap : w'.mSessionTaskMap = w.mSessionTaskMap)
    (hqueue : w'.queue = e :: w.queue) :
    w'.timer s v =
      { w.timer s v with
        events := if e.isFor s v then (w.timer s v).events + 1 else (w.timer s v).events } := by
  unfold World.timer
  rw [hmap, hqueue, List.countP_cons]
  cases e.isFor s v <;> rfl

/-- An event is taken from the queue. -/
theorem World.timer_pop {i : ℕ} {e : Timeout} (hi : w.queue[i]? = some e) :
    (w.pop i).2.timer s v =
      { w.timer s v with
        events := if e.isFor s v then (w.timer s v).events - 1 else (w.timer s v).events } ∧
    (e.isFor s v = true → 0 < (w.timer s v).events) := by
  obtain ⟨hlt, rfl⟩ := List.getElem?_eq_some_iff.1 hi
  have hcount := (List.getElem_cons_eraseIdx_perm hlt).countP_eq (Timeout.isFor s v)
  rw [List.countP_cons] at hcount
  unfold World.timer World.pop
  rw [hi]
  dsimp only
  cases hfor : w.queue[i].isFor s v with
  | true =>
      rw [if_pos hfor] at hcount
      refine ⟨?_, fun _ => by omega⟩
      rw [if_pos rfl, ← hcount, Nat.add_sub_cancel]
  | false =>
      rw [if_neg (by simp [hfor])] at hcount
      refine ⟨?_, fun h => nomatch h⟩
      rw [if_neg (by simp), ← hcount, Nat.add_zero]

/-! ### Setting a vote -/

theorem World.Ballot.voteIsActive_add (b : Ballot) (e : Timeout) (d : ℤ) (vs : Votes) :
    (b.add e d vs).voteIsActive e.voteId = (b.fits e.voteId || vs.voteIsActive e.voteId) := by
  unfold Votes.voteIsActive
  rw [Ballot.timing?_add]
  cases b.fits e.voteId <;> simp

theorem World.Ballot.voteTimeout_add (b : Ballot) (e : Timeout) (d : ℤ) (vs : Votes) :
    (b.add e d vs).voteTimeout e.voteId =
      if b.fits e.voteId then addNanos e.timeStamp d else vs.voteTimeout e.voteId := by
  unfold Votes.voteTimeout
  rw [Ballot.timing?_add]
  cases b.fits e.voteId <;> simp [VoteRange.endTime]

theorem castVote_post_none (h : w.mSessionTaskMap.findSession s = none) (t : AdpfVoteType)
    (b : Ballot) (start d : ℤ) : (castVote s t b start d).post w = w := by
  simp only [castVote, post, bind_eq, run_bind, run_critical, run_atomic]
  rw [voteSection_none (e := timeoutOf s t start d) h]
  rfl

theorem castVote_post_some {p : ℕ} (h : w.mSessionTaskMap.findSession s = some p)
    (t : AdpfVoteType) (b : Ballot) (start d : ℤ) {e : Timeout} (he : timeoutOf s t start d = e) :
    (castVote s t b start d).post w =
      if shouldScheduleTimeout (w.mSessionTaskMap.votesOf p) e.voteId e.deadline then
        { w.voted e d b p with queue := e :: (w.voted e d b p).queue }
      else w.voted e d b p := by
  have hid : e.sessionId = s := by rw [← he]; rfl
  simp only [castVote, he, post, bind_eq, run_bind, run_critical, run_atomic]
  rw [voteSection_some (e := e) (by rwa [hid])]
  cases shouldScheduleTimeout (w.mSessionTaskMap.votesOf p) e.voteId e.deadline with
  | false => rfl
  | true =>
      simp only [when_true, if_true, schedule, bind_eq, pure_eq, run_bind, run_critical, run_ret,
        run_modify, World.enqueue, List.erase_cons_head]

theorem queue_voted (w : World) (e : Timeout) (d : ℤ) (b : Ballot) (p : ℕ) :
    (w.voted e d b p).queue = w.queue := by
  have honly := onlyOutputs_voted w e d b p
  rw [OnlyOutputs] at honly
  rw [honly]

/-- The vote that `voteSet` leaves, before it schedules an event. -/
theorem timer_voted (hw : Wf w.mSessionTaskMap) {e : Timeout} {p : ℕ}
    (h : w.mSessionTaskMap.findSession e.sessionId = some p) (d : ℤ) (b : Ballot) :
    (w.voted e d b p).timer s v =
      if e.isFor s v then
        { w.timer s v with
          active := b.fits v || (w.timer s v).active
          timeout := if b.fits v then addNanos e.timeStamp d else (w.timer s v).timeout }
      else w.timer s v := by
  have hqueue := queue_voted w e d b p
  have hvotes := votes?_voted hw h d b s
  by_cases hs : s = e.sessionId
  · subst hs
    have hold := votes?_of_findSession h
    rw [if_pos rfl, hold] at hvotes
    rw [timer_of_votes? hvotes, timer_of_votes? hold, hqueue]
    by_cases hv : v = e.voteId
    · subst hv
      rw [if_pos (by simp [Timeout.isFor]), Ballot.voteIsActive_add, Ballot.voteTimeout_add]
    · rw [if_neg (by simp [Timeout.isFor, Ne.symm hv])]
      unfold Votes.voteIsActive Votes.voteTimeout
      rw [Ballot.timing?_add, if_neg fun hboth => hv hboth.1]
  · rw [if_neg hs] at hvotes
    rw [if_neg (by simp [Timeout.isFor, Ne.symm hs])]
    exact timer_congr hvotes hqueue

/-- An event is scheduled unless the timer is on for no later time. -/
theorem shouldScheduleTimeout_eq_false {p : ℕ} (h : w.mSessionTaskMap.findSession s = some p)
    (D : ℤ) :
    shouldScheduleTimeout (w.mSessionTaskMap.votesOf p) v D = false ↔
      (w.timer s v).active ∧ (w.timer s v).timeout ≤ D := by
  rw [timer_of_votes? (votes?_of_findSession h)]
  simp [shouldScheduleTimeout]

/-- A vote that is set is a timer that is set. -/
theorem castVote_timer (hw : Wf w.mSessionTaskMap) {p : ℕ} {s' : ℤ}
    (h : w.mSessionTaskMap.findSession s' = some p) (t : AdpfVoteType) (b : Ballot) (start d : ℤ) :
    ((castVote s' t b start d).post w).timer s v =
      if s' = s ∧ t.toInt = v then (w.timer s v).set (addNanos start d) (b.fits v)
      else w.timer s v := by
  obtain ⟨e, he⟩ : ∃ e, timeoutOf s' t start d = e := ⟨_, rfl⟩
  have hfor : e.isFor s v = decide (s' = s ∧ t.toInt = v) := by rw [← he]; rfl
  have hvoted : (w.voted e d b p).timer s v = _ :=
    timer_voted hw (e := e) (by rw [← he]; exact h) d b
  have hcons : ({ w.voted e d b p with queue := e :: (w.voted e d b p).queue } : World).timer s v =
      _ := timer_cons (w := w.voted e d b p) rfl rfl
  rw [castVote_post_some h t b start d he]
  by_cases hids : s' = s ∧ t.toInt = v
  · rw [if_pos hids]
    rw [hfor, if_pos (by simpa using hids)] at hvoted hcons
    obtain ⟨rfl, rfl⟩ := hids
    have hfields : e.voteId = t.toInt ∧ e.deadline = addNanos start d ∧ e.timeStamp = start := by
      rw [← he]
      exact ⟨rfl, rfl, rfl⟩
    rw [hfields.2.2] at hvoted
    rw [hfields.1, hfields.2.1]
    have hsched := shouldScheduleTimeout_eq_false (v := t.toInt) h (addNanos start d)
    unfold Timer.set
    cases hs : shouldScheduleTimeout (w.mSessionTaskMap.votesOf p) t.toInt (addNanos start d) with
    | false => rw [if_neg (by simp), hvoted, if_pos (hsched.1 hs)]
    | true =>
        have hlate : ¬ ((w.timer s' t.toInt).active ∧
            (w.timer s' t.toInt).timeout ≤ addNanos start d) := by
          intro hon
          rw [hsched.2 hon] at hs
          cases hs
        rw [if_pos rfl, hcons, hvoted, if_neg hlate]
  · rw [if_neg hids]
    rw [hfor, if_neg (by simpa using hids)] at hvoted hcons
    split
    · rw [hcons, hvoted]
    · exact hvoted

/-! ### The other operations -/

/-- Votes of a session are switched off, and nothing else. -/
theorem World.timer_writeVotes (hw : Wf w.mSessionTaskMap) (s' : ℤ) {f : Votes → Votes} {off : Bool}
    (hf : ∀ vs : Votes, (f vs).timing? v =
      if off then (vs.timing? v).map (VoteRange.setActive false) else vs.timing? v) :
    (w.writeVotes s' f).timer s v =
      if s' = s ∧ off = true then { w.timer s v with active := false } else w.timer s v := by
  have hqueue : (w.writeVotes s' f).queue = w.queue := by
    have honly := onlyMap_writeVotes w s' f
    rw [OnlyMap] at honly
    rw [honly]
  have hvotes := votes?_writeVotes hw s' f s
  by_cases hs : s' = s
  · subst hs
    rw [if_pos rfl] at hvotes
    unfold World.timer
    rw [hvotes, hqueue]
    simp only [true_and]
    cases w.mSessionTaskMap.votes? s' with
    | none => cases off <;> rfl
    | some vs =>
        simp only [Option.map_some, Option.elim_some, Votes.voteIsActive, Votes.voteTimeout, hf vs]
        cases off with
        | false => rfl
        | true => cases vs.timing? v <;> rfl
  · rw [if_neg (Ne.symm hs)] at hvotes
    rw [if_neg fun hboth => hs hboth.1]
    exact timer_congr hvotes hqueue

/-- `disableBoosts` switches the timers of its votes off. -/
theorem timer_disableSection (hw : Wf w.mSessionTaskMap) (s' : ℤ) :
    (w.disableSection s').timer s v =
      if s' = s ∧ decide (v ∈ disabledBoosts.map AdpfVoteType.toInt) = true then
        { w.timer s v with active := false }
      else w.timer s v :=
  timer_writeVotes hw s' fun vs => by simp only [Votes.timing?_turnOff, decide_eq_true_eq]

/-- What `handleEvent` does to a timer: an event of its own is dropped if the timer is off, switches
it off, or is scheduled again. -/
inductive Dealt (own : Bool) (x : Timer ℤ) : Timer ℤ → Prop
  | dropped : (own = true → x.active = false) → Dealt own x x
  | expired : own = true → Dealt own x { x with active := false }
  | requeued : own = true → Dealt own x { x with events := x.events + 1 }

/-- A timer in a state with a sound map. -/
def Shows (s v : ℤ) (x : Timer ℤ) (w : World) : Prop := Wf w.mSessionTaskMap ∧ w.timer s v = x

theorem Shows.quiet {x : Timer ℤ} (h : Shows s v x w) (hq : Quiet w w') : Shows s v x w' :=
  ⟨by rw [hq.map]; exact h.1, (timer_congr (by rw [hq.map]) hq.queue).trans h.2⟩

theorem Shows.applyVotes {x : Timer ℤ} (h : Shows s v x w) (s' t : ℤ) :
    Shows s v x (w.applyVotes s' t) := by
  have hrefresh := applyVotes_refreshes h.1 s' t
  have honly := onlyOutputs_applyVotes w s' t
  rw [OnlyOutputs] at honly
  exact ⟨hrefresh.wf, (timer_congr (hrefresh.votes? s) (by rw [honly])).trans h.2⟩

theorem timing?_setUseVote' (id v : ℤ) (vs : Votes) :
    (vs.setUseVote id false).2.timing? v =
      if decide (id = v) then (vs.timing? v).map (VoteRange.setActive false) else vs.timing? v := by
  rw [timing?_setUseVote]
  by_cases hv : v = id
  · subst hv
    rw [if_pos rfl, if_pos (by simp)]
  · rw [if_neg hv, if_neg (by simp [Ne.symm hv])]

/-- The critical section of `handleEvent`. -/
theorem settle_dealt (hw : Wf w.mSessionTaskMap) (e : Timeout) (t : ℤ) :
    Wf ((settle e t).post w).mSessionTaskMap ∧
      Dealt (e.isFor s v) (w.timer s v) (((settle e t).post w).timer s v) := by
  have hpost : (settle e t).post w =
      (reschedule (w.expireSection e t).1).post (w.expireSection e t).2 := by
    simp only [settle, post, bind_eq, pure_eq, run_bind, run_atomic, run_ret]
  rw [hpost]
  cases hp : w.mSessionTaskMap.findSession e.sessionId with
  | none =>
      rw [expireSection_none hp]
      refine ⟨hw, .dropped fun hfor => ?_⟩
      obtain ⟨rfl, rfl⟩ := of_decide_eq_true hfor
      unfold World.timer
      rw [votes?_eq_none.2 hp]
      rfl
  | some p =>
      have hold := votes?_of_findSession hp
      rcases expireSection_cases hp t with ⟨hoff, heq⟩ | ⟨-, -, heq⟩ | ⟨hon, -, heq⟩
      · rw [heq]
        refine ⟨hw, .dropped fun hfor => ?_⟩
        obtain ⟨rfl, rfl⟩ := of_decide_eq_true hfor
        rw [timer_of_votes? hold]
        exact hoff
      · rw [heq]
        refine ⟨wf_writeVotes (w := { w with running := w.running.erase e }) hw _ _, ?_⟩
        have htimer : ({ w with running := w.running.erase e }.writeVotes e.sessionId
            fun vs => (vs.setUseVote e.voteId false).2).timer s v = _ :=
          timer_writeVotes (w := { w with running := w.running.erase e }) hw e.sessionId
            (timing?_setUseVote' e.voteId v)
        show Dealt _ _ (World.timer s v (writeVotes _ _ _))
        rw [htimer]
        by_cases hfor : e.sessionId = s ∧ decide (e.voteId = v) = true
        · rw [if_pos hfor]
          exact .expired (by simpa [Timeout.isFor] using hfor)
        · rw [if_neg hfor]
          exact .dropped fun hown => absurd (by simpa [Timeout.isFor] using hown) hfor
      · rw [heq]
        refine ⟨hw, ?_⟩
        have htimer : ((schedule { e with deadline :=
            (w.mSessionTaskMap.votesOf p).voteTimeout e.voteId }).post
            { w with
              running := w.running.erase e
              decided := { e with deadline :=
                (w.mSessionTaskMap.votesOf p).voteTimeout e.voteId } :: w.decided }).timer s v = _ :=
          timer_cons (w := w) rfl rfl
        have hsame : Timeout.isFor s v { e with deadline :=
            (w.mSessionTaskMap.votesOf p).voteTimeout e.voteId } = e.isFor s v := rfl
        rw [hsame] at htimer
        show Dealt _ _ (World.timer s v _)
        rw [reschedule, htimer]
        cases e.isFor s v with
        | true =>
            rw [if_pos rfl]
            exact .requeued rfl
        | false =>
            rw [if_neg Bool.false_ne_true]
            exact .dropped fun h => absurd h Bool.false_ne_true

theorem handleEvent_dealt (e : Timeout) (x : Timer ℤ) :
    Triple (Shows s v x) (handleEvent e) fun _ w =>
      ∃ y, Dealt (e.isFor s v) x y ∧ Shows s v y w := by
  refine Triple.bind (Q := fun _ => Shows s v x)
    (Triple.atomic fun w hw => hw.quiet (.readClock w)) fun t => ?_
  refine Triple.bind (Q := fun _ w => ∃ y, Dealt (e.isFor s v) x y ∧ Shows s v y w)
    (Triple.critical ?_) fun verdict => ?_
  · rintro w ⟨hwf, rfl⟩
    obtain ⟨hwf', hdealt⟩ := settle_dealt (s := s) (v := v) hwf e t
    exact ⟨_, hdealt, hwf', rfl⟩
  · refine Triple.when (fun _ => ?_) fun _ w hw => hw
    refine Triple.bind (Q := fun _ w => ∃ y, Dealt (e.isFor s v) x y ∧ Shows s v y w) ?_ fun _ => ?_
    · refine Triple.critical (Triple.modify ?_)
      rintro w ⟨y, hdealt, hw⟩
      exact ⟨y, hdealt, hw.applyVotes e.sessionId t⟩
    · rintro w ⟨y, hdealt, hw⟩
      have hquiet : Quiet w (updateUniversalBoostMode.post w) :=
        (updateUniversalBoostMode_within' fun _ _ h => h).post Quiet.skip Quiet.trans w
      exact ⟨y, hdealt, hw.quiet hquiet⟩

/-- A round of the worker is a step of every timer. -/
theorem workerRound_step (hw : Wf w.mSessionTaskMap) (i : ℕ) :
    Timer.Step (w.timer s v) (((workerRound i).post w).timer s v) := by
  have hpost : (workerRound i).post w = (process (w.pop i).1).post (w.pop i).2 := by
    simp only [workerRound, post, bind_eq, run_bind, run_critical, run_atomic]
  rw [hpost]
  cases hi : w.queue[i]? with
  | none =>
      have hpop : w.pop i = (none, w) := by rw [World.pop, hi]
      rw [hpop]
      exact .skip _
  | some e =>
      have hfst : (w.pop i).1 = some e := by rw [World.pop, hi]
      have hwf : Wf (w.pop i).2.mSessionTaskMap := by rw [World.pop, hi]; exact hw
      obtain ⟨htimer, hpos⟩ := timer_pop (s := s) (v := v) hi
      have hprocess : (process (some e)).post (w.pop i).2 = (handleEvent e).post (w.pop i).2 := by
        simp only [process, post, bind_eq, pure_eq, run_bind, run_critical, run_ret]
      obtain ⟨y, hdealt, -, hy⟩ := handleEvent_dealt (s := s) (v := v) e _ (w.pop i).2 ⟨hwf, rfl⟩
      rw [hfst, hprocess]
      show Timer.Step _ (World.timer s v ((handleEvent e).run (w.pop i).2).2)
      rw [hy]
      rw [htimer] at hdealt
      cases hown : e.isFor s v with
      | false =>
          rw [hown] at hdealt
          cases hdealt with
          | dropped _ => exact .skip _
          | expired h => cases h
          | requeued h => cases h
      | true =>
          rw [hown] at hdealt
          have hone := hpos hown
          cases hdealt with
          | dropped hoff => exact .drop _ (hoff rfl)
          | expired _ => exact .expire _
          | requeued _ =>
              dsimp only
              rw [if_pos rfl, Nat.sub_add_cancel hone]
              exact .skip _

/-! ### The operations -/

/-- The operations that set, disable and time out votes. -/
def Op.Votes : Op → Prop
  | .manager (.voteSet _ _ _ _ _ _) => True
  | .manager (.voteSetGpu _ _ _ _ _) => True
  | .manager (.disableBoosts _) => True
  | .worker _ => True
  | _ => False

/-- The deadline that an operation sets for a vote of a session. -/
def Op.deadline (s v : ℤ) : Op → Option ℤ
  | .manager (.voteSet s' t _ _ start d) =>
      if s' = s ∧ t.toInt = v then some (addNanos start d) else none
  | .manager (.voteSetGpu s' t _ start d) =>
      if s' = s ∧ t.toInt = v then some (addNanos start d) else none
  | _ => none

/-- One of these operations sets a vote, disables boosts, or is a round of the worker; none of them is
about the standing of a session. -/
theorem Op.Votes.eq {op : Op} (h : op.Votes) :
    ¬ op.uses .standing ∧
    ((∃ s t lo hi start d, op = .manager (.voteSet s t lo hi start d)) ∨
      (∃ s t c start d, op = .manager (.voteSetGpu s t c start d)) ∨
      (∃ s, op = .manager (.disableBoosts s)) ∨ ∃ i, op = .worker i) := by
  cases op with
  | manager op =>
      cases op with
      | voteSet s t lo hi start d => exact ⟨id, Or.inl ⟨s, t, lo, hi, start, d, rfl⟩⟩
      | voteSetGpu s t c start d => exact ⟨id, Or.inr (Or.inl ⟨s, t, c, start, d, rfl⟩)⟩
      | disableBoosts s => exact ⟨id, Or.inr (Or.inr (Or.inl ⟨s, rfl⟩))⟩
      | _ => exact h.elim
  | worker i => exact ⟨id, Or.inr (Or.inr (Or.inr ⟨i, rfl⟩))⟩
  | create tgid uid tids d => exact h.elim
  | session s op => exact h.elim
  | dumpToStream s => exact h.elim

/-- Their programs, and the deadlines that they set. -/
theorem Op.Votes.cases {op : Op} (h : op.Votes) :
    (∃ s t b start d, op.prog = castVote s t b start d ∧ ∀ s' v, op.deadline s' v =
      if s = s' ∧ t.toInt = v then some (addNanos start d) else none) ∨
    (∃ s, op.prog = disableBoosts s ∧ ∀ s' v, op.deadline s' v = none) ∨
    ∃ i, op.prog = workerRound i ∧ ∀ s' v, op.deadline s' v = none := by
  rcases h.eq.2 with ⟨s, t, lo, hi, start, d, rfl⟩ | ⟨s, t, c, start, d, rfl⟩ | ⟨s, rfl⟩ | ⟨i, rfl⟩
  · exact Or.inl ⟨s, t, .cpu lo hi, start, d, rfl, fun _ _ => rfl⟩
  · exact Or.inl ⟨s, t, .gpu c, start, d, rfl, fun _ _ => rfl⟩
  · exact Or.inr (Or.inl ⟨s, rfl, fun _ _ => rfl⟩)
  · exact Or.inr (Or.inr ⟨i, rfl, fun _ _ => rfl⟩)

theorem Op.Votes.leavesStanding {op : Op} (h : op.Votes) : LeavesStanding op.uses :=
  Op.leavesStanding h.eq.1

/-- A session that is not there is not there afterwards. -/
theorem Op.Votes.absent {op : Op} (h : op.Votes) (hw : Wf w.mSessionTaskMap)
    (habsent : w.mSessionTaskMap.findSession s = none) :
    (op.prog.post w).mSessionTaskMap.findSession s = none := by
  have hkeeps := op.keeps
    (I := fun w => Wf w.mSessionTaskMap ∧ w.mSessionTaskMap.active? s = none) ?_ w
    ⟨hw, active?_eq_none.2 habsent⟩
  · exact active?_eq_none.1 hkeeps.2
  · rintro w w' hact ⟨hw, hnone⟩
    exact ⟨hact.wf hw, ((hact.steadyMap h.leavesStanding hw).active? s).trans hnone⟩

/-- **One operation** sets the timer of a vote, if it sets a deadline for it and the session is there,
and is a step of the timer otherwise. -/
theorem Op.timer_post {op : Op} (hop : op.Votes) (hw : Wf w.mSessionTaskMap) :
    (∃ D stored, op.deadline s v = some D ∧ w.mSessionTaskMap.findSession s ≠ none ∧
        (op.prog.post w).timer s v = (w.timer s v).set D stored) ∨
      ((op.deadline s v = none ∨ w.mSessionTaskMap.findSession s = none) ∧
        Timer.Step (w.timer s v) ((op.prog.post w).timer s v)) := by
  rcases hop.cases with ⟨s', t, b, start, d, hprog, hdeadline⟩ | ⟨s', hprog, hnone⟩ | ⟨i, hprog, hnone⟩
  · rw [hprog, hdeadline]
    cases hp : w.mSessionTaskMap.findSession s' with
    | none =>
        rw [castVote_post_none hp]
        refine Or.inr ⟨?_, .skip _⟩
        by_cases hids : s' = s ∧ t.toInt = v
        · exact Or.inr (hids.1 ▸ hp)
        · exact Or.inl (if_neg hids)
    | some p =>
        rw [castVote_timer hw hp]
        by_cases hids : s' = s ∧ t.toInt = v
        · rw [if_pos hids, if_pos hids]
          exact Or.inl ⟨_, _, rfl, by rw [← hids.1, hp]; exact Option.some_ne_none p, rfl⟩
        · rw [if_neg hids, if_neg hids]
          exact Or.inr ⟨Or.inl rfl, .skip _⟩
  · rw [hprog]
    refine Or.inr ⟨Or.inl (hnone s v), ?_⟩
    show Timer.Step _ ((w.disableSection s').timer s v)
    rw [timer_disableSection hw]
    split
    · exact .off _
    · exact .skip _
  · rw [hprog]
    exact Or.inr ⟨Or.inl (hnone s v), workerRound_step hw i⟩

/-! ### Whole runs -/

/-- The states of a run of operations, one after the other. -/
def runStates : World → List Op → List World
  | w, [] => [w]
  | w, op :: ops => w :: runStates (op.prog.post w) ops

/-- A vote of a session is set while it is off and an event for it is left. -/
def Op.Revives (s v : ℤ) (w : World) (op : Op) : Prop :=
  w.mSessionTaskMap.findSession s ≠ none ∧ op.deadline s v ≠ none ∧ (w.timer s v).Revivable

/-- No operation of a run revives a vote. -/
def Spares (s v : ℤ) : World → List Op → Prop
  | _, [] => True
  | w, op :: ops => ¬ op.Revives s v w ∧ Spares s v (op.prog.post w) ops

theorem mem_runStates_self (w : World) : ∀ ops : List Op, w ∈ runStates w ops
  | [] => List.mem_singleton_self w
  | _ :: _ => List.mem_cons_self

/-- What a run does not revive stays tame. -/
theorem Op.timer_tame {op : Op} {ops : List Op} {last : Option ℤ} (hop : op.Votes)
    (hw : Wf w.mSessionTaskMap) (ht : (w.timer s v).Tame last)
    (hle : (last.toList ++ (op :: ops).filterMap (Op.deadline s v)).Pairwise (· ≤ ·))
    (hspare : ¬ op.Revives s v w) :
    ∃ last', ((op.prog.post w).timer s v).Tame last' ∧
      (last'.toList ++ ops.filterMap (Op.deadline s v)).Pairwise (· ≤ ·) := by
  rcases op.timer_post (s := s) (v := v) hop hw with ⟨D, stored, hD, hlive, htimer⟩ | ⟨-, hstep⟩
  · rw [List.filterMap_cons_some hD] at hle
    refine ⟨some D, ?_, hle.sublist (List.sublist_append_right _ _)⟩
    rw [htimer]
    refine ht.set ?_ (fun hrev => hspare ⟨hlive, by simp [hD], hrev⟩) stored
    intro L hL
    exact (List.pairwise_append.1 hle).2.2 L (Option.mem_toList.2 hL) D List.mem_cons_self
  · refine ⟨last, ht.step hstep, hle.sublist ?_⟩
    exact (List.Sublist.refl _).append ((List.sublist_cons_self op ops).filterMap _)

/-- A vote that is set while it is off and an event is left has two events. -/
theorem Op.Revives.events {op : Op} (h : op.Revives s v w) (hop : op.Votes)
    (hw : Wf w.mSessionTaskMap) : 2 ≤ ((op.prog.post w).timer s v).events := by
  obtain ⟨hlive, hset, hrev⟩ := h
  rcases op.timer_post (s := s) (v := v) hop hw with ⟨D, stored, -, -, htimer⟩ | ⟨hnone, -⟩
  · rw [htimer]
    exact Timer.set_revived hrev D stored
  · rcases hnone with hnone | hnone
    · exact absurd hnone hset
    · exact absurd hnone hlive

/-- A tame vote has at most one event, as long as no operation revives it. -/
theorem events_le_one_iff (ops : List Op) : ∀ {w : World} {last : Option ℤ}, Wf w.mSessionTaskMap →
    (∀ op ∈ ops, op.Votes) → (w.timer s v).Tame last →
    (last.toList ++ ops.filterMap (Op.deadline s v)).Pairwise (· ≤ ·) →
    ((∀ w' ∈ runStates w ops, (w'.timer s v).events ≤ 1) ↔ Spares s v w ops) := by
  induction ops with
  | nil =>
      intro w last _ _ ht _
      refine iff_of_true (fun w' hw' => ?_) trivial
      rw [List.mem_singleton.1 hw']
      exact ht.single
  | cons op ops ih =>
      intro w last hw hops ht hle
      have hop := hops op List.mem_cons_self
      have hrest (hspare : ¬ op.Revives s v w) :
          (∀ w' ∈ runStates (op.prog.post w) ops, (w'.timer s v).events ≤ 1) ↔
            Spares s v (op.prog.post w) ops := by
        obtain ⟨last', ht', hle'⟩ := Op.timer_tame hop hw ht hle hspare
        exact ih (op.post_wf hw).1 (fun op' h => hops op' (List.mem_cons_of_mem _ h)) ht' hle'
      constructor
      · intro hone
        have hspare : ¬ op.Revives s v w := by
          intro hrev
          have htwo := hrev.events hop hw
          have hnext := hone _ (List.mem_cons_of_mem _ (mem_runStates_self (op.prog.post w) ops))
          omega
        exact ⟨hspare, (hrest hspare).1 fun w' hw' => hone w' (List.mem_cons_of_mem _ hw')⟩
      · rintro ⟨hspare, hspares⟩ w' hw'
        rcases List.mem_cons.1 hw' with rfl | hw'
        · exact ht.single
        · exact (hrest hspare).2 hspares w' hw'

/-- A vote that is never set, or whose session is not there, has no events. -/
theorem events_eq_zero (ops : List Op) : ∀ {w : World}, Wf w.mSessionTaskMap →
    (∀ op ∈ ops, op.Votes) → (w.timer s v).events = 0 →
    (w.mSessionTaskMap.findSession s = none ∨ ∀ op ∈ ops, op.deadline s v = none) →
    ∀ w' ∈ runStates w ops, (w'.timer s v).events = 0 := by
  induction ops with
  | nil =>
      intro w _ _ hzero _ w' hw'
      rw [List.mem_singleton.1 hw']
      exact hzero
  | cons op ops ih =>
      intro w hw hops hzero hidle w' hw'
      have hop := hops op List.mem_cons_self
      rcases List.mem_cons.1 hw' with rfl | hw'
      · exact hzero
      · refine ih (op.post_wf hw).1 (fun op' h => hops op' (List.mem_cons_of_mem _ h)) ?_ ?_ w' hw'
        · rcases op.timer_post (s := s) (v := v) hop hw with ⟨D, -, hD, hlive, -⟩ | ⟨-, hstep⟩
          · rcases hidle with habsent | hnone
            · exact absurd habsent hlive
            · rw [hnone op List.mem_cons_self] at hD
              cases hD
          · have hle := hstep.events_le
            omega
        · refine hidle.imp (hop.absent hw) fun hnone op' h => hnone op' (List.mem_cons_of_mem _ h)

/-- Only the votes of the enumeration are set. -/
theorem Op.Votes.exists_voteType {op : Op} (h : op.Votes) {D : ℤ} (hD : op.deadline s v = some D) :
    ∃ t : AdpfVoteType, t.toInt = v := by
  rcases h.cases with ⟨s', t, b, start, d, -, hdeadline⟩ | ⟨s', -, hnone⟩ | ⟨i, -, hnone⟩
  · rw [hdeadline] at hD
    split at hD
    · next hids => exact ⟨t, hids.2⟩
    · cases hD
  · rw [hnone] at hD
    cases hD
  · rw [hnone] at hD
    cases hD

/-- The votes of the enumeration. -/
def AdpfVoteType.all : List AdpfVoteType :=
  [CPU_VOTE_DEFAULT, CPU_LOAD_UP, CPU_LOAD_RESET, CPU_LOAD_RESUME, VOTE_POWER_EFFICIENCY, GPU_LOAD_UP,
    GPU_LOAD_DOWN, GPU_LOAD_RESET, GPU_CAPACITY]

theorem AdpfVoteType.mem_all (t : AdpfVoteType) : t ∈ all := by
  cases t <;> decide

/-- A queue with at most one event for each vote of some sessions. -/
theorem queue_length_le {q : List Timeout} {sessions : List ℤ}
    (hone : ∀ s v, q.countP (Timeout.isFor s v) ≤ 1)
    (hfiled : ∀ s v, q.countP (Timeout.isFor s v) ≠ 0 → s ∈ sessions ∧ ∃ t : AdpfVoteType, t.toInt = v) :
    q.length ≤ sessions.length * AdpfVoteType.all.length := by
  obtain ⟨key, hkey⟩ : ∃ key : Timeout → ℤ × ℤ, key = fun e => (e.sessionId, e.voteId) := ⟨_, rfl⟩
  have hnodup : (q.map key).Nodup := by
    rw [List.nodup_iff_count_le_one]
    rintro ⟨s, v⟩
    refine Nat.le_trans (Nat.le_of_eq ?_) (hone s v)
    rw [List.count_eq_countP, List.countP_map]
    refine List.countP_congr fun e _ => ?_
    simp [hkey, Timeout.isFor]
  have hsub : q.map key ⊆ sessions ×ˢ AdpfVoteType.all.map AdpfVoteType.toInt := by
    intro k hk
    obtain ⟨e, he, rfl⟩ := List.mem_map.1 hk
    have hpos : 0 < q.countP (Timeout.isFor e.sessionId e.voteId) :=
      List.countP_pos_iff.2 ⟨e, he, by simp [Timeout.isFor]⟩
    obtain ⟨hs, t, ht⟩ := hfiled _ _ (Nat.ne_of_gt hpos)
    rw [hkey]
    exact List.mem_product.2 ⟨hs, List.mem_map.2 ⟨t, t.mem_all, ht⟩⟩
  have hle := (List.subperm_of_subset hnodup hsub).length_le
  rwa [List.length_map, List.length_product, List.length_map] at hle

/-! ### Before any vote is set -/

/-- No vote is active. -/
def World.Idle (w : World) : Prop :=
  Wf w.mSessionTaskMap ∧ ∀ s v, (w.timer s v).active = false

theorem World.Idle.of_votes (h : w.Idle) (hw : Wf w'.mSessionTaskMap)
    (hvotes : ∀ s, w'.mSessionTaskMap.votes? s = w.mSessionTaskMap.votes? s) : w'.Idle := by
  refine ⟨hw, fun s v => ?_⟩
  have hoff := h.2 s v
  unfold World.timer at hoff ⊢
  rwa [hvotes]

theorem World.Idle.detached : Detached World.Idle where
  aside := fun ha h => h.of_votes (by rw [ha.map]; exact h.1) fun s => by rw [ha.map]
  events := fun _ _ _ h => h.of_votes h.1 fun _ => rfl

theorem newVotes_voteIsActive (desc : AppHintDesc) (t v : ℤ) :
    (newVotes desc t).voteIsActive v = false := by
  unfold Votes.voteIsActive
  cases htiming : (newVotes desc t).timing? v with
  | none => rfl
  | some r => exact newVotes_inactive htiming

theorem World.Idle.addSection (h : w.Idle) (desc : AppHintDesc) (t : ℤ) : (w.addSection desc t).Idle := by
  refine ⟨wf_addSection h.1 desc t, fun s v => ?_⟩
  have hoff := h.2 s v
  unfold World.timer at hoff ⊢
  rw [votes?_addSection h.1]
  split
  · exact newVotes_voteIsActive desc t v
  · exact hoff

/-- Adding a session activates no vote. -/
theorem addPowerSession_idle (desc : AppHintDesc) (tids : List ℤ) :
    Triple World.Idle (addPowerSession (some desc) tids) fun _ => World.Idle := by
  have hforce (b : Bool) :
      Triple World.Idle (forceSessionActive desc.sessionId b) fun _ => World.Idle :=
    forceSessionActive_triple Idle.detached.calm Idle.detached.calm desc.sessionId b
      (fun w h => h.of_votes (wf_forceSection h.1 _ b) (votes?_forceSection w _ b))
      (fun w h _ => h)
      fun w h => h.of_votes (applyVotes_refreshes h.1 _ _).wf (applyVotes_refreshes h.1 _ _).votes?
  refine addPowerSession_triple Idle.detached.calm desc tids (fun w h => h.addSection desc _)
    (setThreadsFromPowerSession_triple Idle.detached.unprofiled _ tids (hforce false) (fun w h => ?_)
      (hforce true))
  exact h.of_votes (wf_replaceSection h.1 _ tids) (h.1.votes?_replace _ tids [] [])

/-! ### The result -/

/-- **When a vote has a single timeout event.**  In every run of `voteSet`, `disableBoosts` and rounds of
the worker from a state in which a vote is off and has no event, and in which the deadlines that are set
for the vote never decrease, at most one event for it is in the queue at any moment exactly if the vote
is never set while it is off and an event is left, as it is after `disableBoosts`.  If this is so for all
votes of all sessions, there are never more events than votes of sessions. -/
theorem single_timeout_event_iff {w₀ : World} (hw : Wf w₀.mSessionTaskMap) {ops : List Op}
    (hops : ∀ op ∈ ops, op.Votes) :
    (∀ s v, w₀.mSessionTaskMap.findSession s ≠ none → (w₀.timer s v).active = false →
      (w₀.timer s v).events = 0 → (ops.filterMap (Op.deadline s v)).Pairwise (· ≤ ·) →
      ((∀ w ∈ runStates w₀ ops, (w.timer s v).events ≤ 1) ↔ Spares s v w₀ ops)) ∧
    (w₀.queue = [] →
      (∀ s v, w₀.mSessionTaskMap.findSession s ≠ none → (w₀.timer s v).active = false ∧
        (ops.filterMap (Op.deadline s v)).Pairwise (· ≤ ·) ∧ Spares s v w₀ ops) →
      ∀ w ∈ runStates w₀ ops,
        w.queue.length ≤ w₀.mSessionTaskMap.mSessions.keys.length * AdpfVoteType.all.length) := by
  have hpair : ∀ s v, (w₀.timer s v).active = false → (w₀.timer s v).events = 0 →
      (ops.filterMap (Op.deadline s v)).Pairwise (· ≤ ·) →
      ((∀ w ∈ runStates w₀ ops, (w.timer s v).events ≤ 1) ↔ Spares s v w₀ ops) := by
    intro s v hoff hzero hle
    have htame : (w₀.timer s v).Tame none :=
      ⟨by omega, fun _ => ⟨hoff, hzero⟩, fun _ h => nomatch h⟩
    exact events_le_one_iff ops hw hops htame hle
  refine ⟨fun s v _ => hpair s v, fun hempty hall w hmem => ?_⟩
  have hzero : ∀ s v, (w₀.timer s v).events = 0 := by
    intro s v
    unfold World.timer
    rw [hempty]
    rfl
  have hnone : ∀ s v, w₀.mSessionTaskMap.findSession s = none → (w.timer s v).events = 0 :=
    fun s v habsent => events_eq_zero ops hw hops (hzero s v) (Or.inl habsent) w hmem
  refine queue_length_le (fun s v => ?_) fun s v hpos => ⟨?_, ?_⟩
  · by_cases hlive : w₀.mSessionTaskMap.findSession s = none
    · exact Nat.le_trans (Nat.le_of_eq (hnone s v hlive)) (Nat.zero_le 1)
    · obtain ⟨hoff, hle, hspares⟩ := hall s v hlive
      exact (hpair s v hoff (hzero s v) hle).2 hspares w hmem
  · by_contra hnot
    refine hpos (hnone s v ?_)
    rw [findSession, AList.lookup_eq_none.2 fun hkey => hnot (AList.mem_keys.1 hkey)]
    rfl
  · by_contra hnot
    refine hpos (events_eq_zero ops hw hops (hzero s v) (Or.inr fun op hop => ?_) w hmem)
    cases hD : op.deadline s v with
    | none => rfl
    | some D => exact absurd ((hops op hop).exists_voteType hD) hnot

/-- A session with one thread. -/
def quietDesc : AppHintDesc where
  sessionId := 1
  tgid := 100
  uid := 10000
  targetNs := 16000000
  thread_ids := [7]

/-- The session is added, and no vote is set. -/
@[irreducible] def quietSession : World :=
  (addPowerSession (some quietDesc) [7]).post (World.init {} makeMockConfig)

theorem quietSession_idle : quietSession.Idle := by
  unfold quietSession
  exact addPowerSession_idle _ _ _ ⟨Wf.empty, fun _ _ => rfl⟩

/-- A boost that starts at a time and lasts for a while. -/
def boostFrom (start : ℤ) : Op := .manager (.voteSet 1 .CPU_LOAD_RESET 300 1024 start 100)

/-- The boost is renewed, and the worker finds it renewed. -/
theorem single_timeout_event_renewed :
    (∀ w ∈ runStates quietSession [boostFrom 0, boostFrom 1, .worker 0],
      (w.timer 1 AdpfVoteType.CPU_LOAD_RESET.toInt).events ≤ 1) ∧
    ∀ w ∈ runStates quietSession [.worker 0], w.queue.length ≤ 1 * 9 := by
  have hops : ∀ op ∈ [boostFrom 0, boostFrom 1, .worker 0], op.Votes := by simp [boostFrom, Op.Votes]
  have hrounds : ∀ op ∈ [Op.worker 0], op.Votes := by simp [Op.Votes]
  have hlive : quietSession.mSessionTaskMap.findSession 1 ≠ none := by decide +kernel
  have hzero : (quietSession.timer 1 AdpfVoteType.CPU_LOAD_RESET.toInt).events = 0 := by
    decide +kernel
  have hspares : Spares 1 AdpfVoteType.CPU_LOAD_RESET.toInt quietSession
      [boostFrom 0, boostFrom 1, .worker 0] := by
    refine ⟨?_, ?_, ?_, trivial⟩
    · exact fun h => h.2.2.2 hzero
    · intro h
      have hon : (((boostFrom 0).prog.post quietSession).timer 1
          AdpfVoteType.CPU_LOAD_RESET.toInt).active = true := by decide +kernel
      rw [h.2.2.1] at hon
      cases hon
    · exact fun h => h.2.1 rfl
  have hempty : quietSession.queue = [] := by decide +kernel
  have hone : quietSession.mSessionTaskMap.mSessions.keys.length = 1 := by decide +kernel
  constructor
  · exact ((single_timeout_event_iff quietSession_idle.1 hops).1 1 _ hlive (quietSession_idle.2 1 _) hzero
      (by decide)).2 hspares
  · rw [← hone]
    exact (single_timeout_event_iff quietSession_idle.1 hrounds).2 hempty fun s v _ =>
      ⟨quietSession_idle.2 s v, List.Pairwise.nil, fun h => h.2.1 rfl, trivial⟩

/-- The boost is disabled and set again: there are two events for it. -/
theorem two_timeout_events_after_disable :
    quietSession.mSessionTaskMap.findSession 1 ≠ none ∧
      (∀ op ∈ [boostFrom 0, .manager (.disableBoosts 1), boostFrom 1], op.Votes) ∧
      ([boostFrom 0, .manager (.disableBoosts 1), boostFrom 1].filterMap
        (Op.deadline 1 AdpfVoteType.CPU_LOAD_RESET.toInt)) = [100, 101] ∧
      ((runStates quietSession [boostFrom 0, .manager (.disableBoosts 1), boostFrom 1]).map fun w =>
        (w.timer 1 AdpfVoteType.CPU_LOAD_RESET.toInt).events) = [0, 1, 1, 2] := by
  refine ⟨by decide +kernel, by simp [boostFrom, Op.Votes], by decide, ?_⟩
  decide +kernel

end Adpf
