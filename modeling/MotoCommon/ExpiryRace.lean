/-
**A vote that is set while another one expires.**

`voteSet` does its work in one critical section.  `handleEvent` has two: it switches off a vote that
has timed out, gives the lock back, and takes it again to apply the votes that are left — at the time
it read when it began.  This module takes all the interleavings of the two programs and reduces them
to the orders of their three critical sections; what becomes of a boost in each of these orders is the
subject of `MotoCommon/LostBoost.lean`.

Main definitions:

* `Adpf.SameCore` — two states agree on all that the clamps depend on;
* `Adpf.Race` — a call of `voteSet` and a call of `handleEvent`, from a common state;
* `Adpf.Race.At` — how far the two have come, section by section.

Main results:

* `Adpf.Race.reach_at` — **every interleaving is an order of the critical sections**;
* `Adpf.Race.exists_between` — the interleaving that sets the vote between the two sections.
-/

import MotoCommon.CpuBoost
import MotoCommon.LockDiscipline

set_option autoImplicit false

namespace Adpf

open Conc Prog World PowerSessionManager SessionTaskMap

/-! ### What the clamps depend on -/

/-- The two states agree on all that the clamps depend on. -/
structure SameCore (w w' : World) : Prop where
  env : w'.env = w.env
  adpfConfig : w'.adpfConfig = w.adpfConfig
  map : w'.mSessionTaskMap = w.mSessionTaskMap
  schedCalls : w'.schedCalls = w.schedCalls

namespace SameCore

variable {w w' w'' : World}

theorem refl (w : World) : SameCore w w := ⟨rfl, rfl, rfl, rfl⟩

theorem trans (h : SameCore w w') (h' : SameCore w' w'') : SameCore w w'' :=
  ⟨h'.env.trans h.env, h'.adpfConfig.trans h.adpfConfig, h'.map.trans h.map,
    h'.schedCalls.trans h.schedCalls⟩

theorem of_aside (h : Aside w w') : SameCore w w' := ⟨h.env, h.adpfConfig, h.map, h.schedCalls⟩

theorem taskRange (h : SameCore w w') (tid t : ℤ) : w'.taskRange tid t = w.taskRange tid t := by
  unfold World.taskRange
  rw [h.map, h.adpfConfig]

theorem called (h : SameCore w w') (tid t : ℤ) (m : SessionTaskMap) :
    SameCore { w.called tid t with mSessionTaskMap := m }
      { w'.called tid t with mSessionTaskMap := m } where
  env := h.env
  adpfConfig := h.adpfConfig
  map := rfl
  schedCalls := by
    simp only [World.called, set_uclamp]
    rw [h.taskRange, h.env, h.schedCalls]

theorem sweep (s t : ℤ) : ∀ (tids : List ℤ) (i : ℕ) {w w' : World}, SameCore w w' →
    SameCore (sweep s t tids i w).2 (sweep s t tids i w').2 := by
  intro tids
  induction tids with
  | nil => exact fun i w w' h => h
  | cons tid tids ih =>
      intro i w w' h
      have herr : w'.callError tid = w.callError tid := by
        unfold callError
        rw [h.env, h.schedCalls]
      by_cases hdead : w.callError tid = ESRCH
      · rw [sweep_dead hdead, sweep_dead (herr.trans hdead), h.map]
        exact ih i (h.called tid t _)
      · rw [sweep_alive hdead, sweep_alive (herr ▸ hdead)]
        have hcalled := h.called tid t w.mSessionTaskMap
        refine ih (i + 1) ⟨hcalled.env, hcalled.adpfConfig, h.map, hcalled.schedCalls⟩

theorem touch (h : SameCore w w') (p : ℕ) (t : ℤ) : SameCore (w.touch p t) (w'.touch p t) := by
  refine ⟨h.env, h.adpfConfig, ?_, h.schedCalls⟩
  simp only [World.touch, modifyMap]
  rw [h.map]

theorem writeVotes (h : SameCore w w') (s : ℤ) (f : Votes → Votes) :
    SameCore (w.writeVotes s f) (w'.writeVotes s f) := by
  unfold World.writeVotes
  rw [h.map]
  cases w.mSessionTaskMap.findSession s with
  | none => exact h
  | some p =>
      refine ⟨h.env, h.adpfConfig, ?_, h.schedCalls⟩
      simp only [modifyMap]
      rw [h.map]

theorem applyUclampLocked (h : SameCore w w') (s t : ℤ) :
    SameCore (w.applyUclampLocked s t) (w'.applyUclampLocked s t) := by
  unfold World.applyUclampLocked
  rw [h.map]
  cases w.mSessionTaskMap.findSession s with
  | none => exact h
  | some p =>
      simp only [h.adpfConfig]
      by_cases hon : w.adpfConfig.mUclampMinOn = true
      · simp only [if_pos hon, sweepSession]
        rw [h.map]
        exact (sweep s t _ 0 h).touch p t
      · simp only [if_neg hon]
        exact h.touch p t

theorem applyGpuVotesLocked (h : SameCore w w') (s t : ℤ) :
    SameCore (w.applyGpuVotesLocked s t) (w'.applyGpuVotesLocked s t) := by
  have hset : ∀ ptr c c', SameCore (w.set_gpu_capacity ptr c) (w'.set_gpu_capacity ptr c') := by
    intro ptr c c'
    cases ptr <;> exact ⟨h.env, h.adpfConfig, h.map, h.schedCalls⟩
  unfold World.applyGpuVotesLocked
  rw [h.map]
  cases w.mSessionTaskMap.findSession s with
  | none => exact h
  | some p =>
      simp only [h.env, h.adpfConfig]
      cases w.env.mGpuCapacityNode with
      | none => exact h.touch p t
      | some ptr =>
          cases w.adpfConfig.mGpuBoostOn with
          | none => exact h.touch p t
          | some b => exact (hset ptr _ _).touch p t

theorem applyVotes (h : SameCore w w') (s t : ℤ) :
    SameCore (w.applyVotes s t) (w'.applyVotes s t) :=
  (h.applyUclampLocked s t).applyGpuVotesLocked s t

theorem voteSection (h : SameCore w w') (e : Timeout) (d : ℤ) (b : Ballot) :
    SameCore (w.voteSection e d b).2 (w'.voteSection e d b).2 := by
  cases hp : w.mSessionTaskMap.findSession e.sessionId with
  | none =>
      rw [voteSection_none hp, voteSection_none (h.map ▸ hp)]
      exact h
  | some p =>
      have hvoted : SameCore (w.voted e d b p) (w'.voted e d b p) := by
        have htouch := (h.writeVotes e.sessionId (b.add e d)).touch p e.timeStamp
        cases b with
        | cpu lo hi => exact htouch.applyUclampLocked _ _
        | gpu c => exact htouch.applyGpuVotesLocked _ _
      rw [voteSection_some hp, voteSection_some (h.map ▸ hp), h.map]
      dsimp only
      split
      · exact ⟨hvoted.env, hvoted.adpfConfig, hvoted.map, hvoted.schedCalls⟩
      · exact hvoted

theorem expireSection (h : SameCore w w') (e : Timeout) (t : ℤ) :
    (w'.expireSection e t).1 = (w.expireSection e t).1 ∧
      SameCore (w.expireSection e t).2 (w'.expireSection e t).2 := by
  unfold World.expireSection
  dsimp only
  rw [h.map]
  cases w.mSessionTaskMap.findSession e.sessionId with
  | none => exact ⟨rfl, h.env, h.adpfConfig, rfl, h.schedCalls⟩
  | some p =>
      dsimp only
      split
      · split
        · exact ⟨rfl, h.env, h.adpfConfig, rfl, h.schedCalls⟩
        · exact ⟨rfl, h.env, h.adpfConfig, rfl, h.schedCalls⟩
      · exact ⟨rfl, h.env, h.adpfConfig, rfl, h.schedCalls⟩

end SameCore

/-! ### The race -/

/-- A call of `voteSet` by a client's thread and a call of `handleEvent` by the worker's, from a
common state. -/
structure Race where
  world : World
  sessionId : ℤ
  voteId : AdpfVoteType
  uclampMin : ℤ
  uclampMax : ℤ
  startTime : ℤ
  durationNs : ℤ
  event : Timeout

/-- The two threads. -/
inductive RaceThread where
  | binder
  | worker
  deriving DecidableEq, Repr

/-- How far `handleEvent` has come: it has not begun, it has read the clock, it has switched off its
vote, it will change no clamp any more. -/
inductive Phase where
  | entry
  | read
  | expired
  | done
  deriving DecidableEq, Repr

namespace Race

variable (r : Race)

/-- The time that `handleEvent` reads. -/
def tNow : ℤ := r.world.readClock.1

/-- The event that `voteSet` may schedule. -/
def newEvent : Timeout := timeoutOf r.sessionId r.voteId r.startTime r.durationNs

/-- The vote that is set. -/
def ballot : Ballot := .cpu r.uclampMin r.uclampMax

/-- The critical section of `voteSet`. -/
def vote (w : World) : World := (w.voteSection r.newEvent r.durationNs r.ballot).2

/-- The first critical section of `handleEvent`. -/
def expire (w : World) : Verdict × World := w.expireSection r.event r.tNow

/-- The second critical section of `handleEvent`. -/
def apply (w : World) : World := w.applyVotes r.event.sessionId r.tNow

/-- Both threads are about to begin. -/
def config : Config RaceThread Lock World where
  state := r.world
  threads
    | .binder => ⟨[], voteSet r.sessionId r.voteId r.uclampMin r.uclampMax r.startTime r.durationNs⟩
    | .worker => ⟨[], handleEvent r.event⟩

/-- The interleavings of the two calls. -/
def Interleaves (c : Config RaceThread Lock World) : Prop := Reach (fun _ _ => False) r.config c

/-- Both calls are over. -/
def Finished (c : Config RaceThread Lock World) : Prop := ∀ i, (c.threads i).prog = Prog.ret ()

/-- How far the two calls have come, section by section: whether the vote is set, the phase of
`handleEvent`, and the state. -/
inductive At : Bool → Phase → World → Prop
  | start : At false .entry r.world
  | vote {ph : Phase} {w : World} : At false ph w → At true ph (r.vote w)
  | now {b : Bool} {w : World} : At b .entry w → At b .read w
  | expire {b : Bool} {w : World} : At b .read w → (r.expire w).1 = .expired →
      At b .expired (r.expire w).2
  | leave {b : Bool} {w : World} : At b .read w → (r.expire w).1 ≠ .expired →
      At b .done (r.expire w).2
  | apply {b : Bool} {w : World} : At b .expired w → At b .done (r.apply w)

/-! ### The programs, section by section -/

/-- What is left of `voteSet` after its section. -/
def voteTail (scheduled : Bool) : P Unit :=
  Prog.unlock .mSessionTaskMapMutex (Prog.when scheduled (schedule r.newEvent))

/-- `voteSet` under the lock. -/
def voteBody : P Unit :=
  Prog.act r.vote fun w => r.voteTail (w.voteSection r.newEvent r.durationNs r.ballot).1

/-- `handleEvent` under the lock for the second time. -/
def applyBody : P Unit :=
  Prog.act r.apply fun _ => Prog.unlock .mSessionTaskMapMutex updateUniversalBoostMode

/-- What is left of `handleEvent` after its first section. -/
def settleTail (verdict : Verdict) : P Unit :=
  (((reschedule verdict).bind fun _ => Prog.ret verdict).bind fun v =>
    Prog.unlock .mSessionTaskMapMutex (Prog.ret v)).bind fun v =>
      Prog.when (v = .expired) (Prog.lock .mSessionTaskMapMutex r.applyBody)

/-- `handleEvent` under the lock for the first time. -/
def settleBody : P Unit := Prog.act (fun w => (r.expire w).2) fun w => r.settleTail (r.expire w).1

/-- What is left of `handleEvent` once it has read the clock. -/
def readTail (t : ℤ) : P Unit :=
  (critical .mSessionTaskMapMutex (settle r.event t)).bind fun verdict =>
    Prog.when (verdict = .expired) ((applyCpuAndGpuVotes r.event.sessionId t).bind fun _ =>
      updateUniversalBoostMode)

theorem handleEvent_eq :
    handleEvent r.event = Prog.act (fun w => w.readClock.2) fun w => r.readTail w.readClock.1 := rfl

theorem readTail_tNow : r.readTail r.tNow = Prog.lock .mSessionTaskMapMutex r.settleBody := rfl

/-- A step that does not change the clamps, and not the time that `handleEvent` will read. -/
def Quiet (w w' : World) : Prop := SameCore w w' ∧ w'.readClock.1 = w.readClock.1

/-- What the client's thread still has to do. -/
def BinderAt : Bool → P Unit → Prop
  | false, p => p = Prog.lock .mSessionTaskMapMutex r.voteBody ∨ p = r.voteBody
  | true, p => p.Within Quiet

/-- What the worker's thread still has to do. -/
def WorkerAt : Phase → P Unit → Prop
  | .entry, p => p = handleEvent r.event
  | .read, p => p = Prog.lock .mSessionTaskMapMutex r.settleBody ∨ p = r.settleBody
  | .expired, p =>
      p = Prog.unlock .mSessionTaskMapMutex (Prog.lock .mSessionTaskMapMutex r.applyBody) ∨
        p = Prog.lock .mSessionTaskMapMutex r.applyBody ∨ p = r.applyBody
  | .done, p => p.Within SameCore

theorem enqueue_quiet (e : Timeout) (w : World) : Quiet w (w.enqueue e) :=
  ⟨⟨rfl, rfl, rfl, rfl⟩, rfl⟩

theorem schedule_within_quiet (e : Timeout) : (schedule e).Within Quiet :=
  Within.bind (Within.critical (Within.ret ())) fun _ =>
    Within.critical (Within.modify (enqueue_quiet e))

variable {r}

/-- A step of the client's thread is the section, or changes nothing that counts. -/
theorem binder_next {b : Bool} {p p' : P Unit} {w w' : World} (hp : r.BinderAt b p)
    (h : p.Next w p' w') :
    (r.BinderAt b p' ∧ Quiet w w') ∨ (b = false ∧ r.BinderAt true p' ∧ w' = r.vote w) := by
  cases b with
  | false =>
      rcases hp with rfl | rfl
      · cases h
        exact Or.inl ⟨Or.inr rfl, SameCore.refl _, rfl⟩
      · cases h
        right
        exact ⟨rfl, Within.when (schedule_within_quiet _), rfl⟩
  | true =>
      left
      cases h with
      | act f k => exact ⟨(hp w).2, (hp w).1⟩
      | lock l k => exact ⟨hp, SameCore.refl _, rfl⟩
      | unlock l k => exact ⟨hp, SameCore.refl _, rfl⟩

/-- After its first section, `handleEvent` goes on to the second or is done with the clamps. -/
theorem settleTail_at (v : Verdict) :
    (v = .expired ∧ r.WorkerAt .expired (r.settleTail v)) ∨
      (v ≠ .expired ∧ r.WorkerAt .done (r.settleTail v)) := by
  cases v with
  | drop => exact Or.inr ⟨by simp, trivial⟩
  | expired => exact Or.inl ⟨rfl, Or.inl rfl⟩
  | requeue e => exact Or.inr ⟨by simp, fun w => ⟨(enqueue_quiet e w).1, trivial⟩⟩

/-- A step of the worker's thread is one of its sections, or changes nothing that counts. -/
theorem worker_next {ph : Phase} {p p' : P Unit} {w w' : World} (hp : r.WorkerAt ph p)
    (htime : ph = .entry → w.readClock.1 = r.tNow) (h : p.Next w p' w') :
    (ph ≠ .entry ∧ r.WorkerAt ph p' ∧ SameCore w w') ∨
      (ph = .entry ∧ r.WorkerAt .read p' ∧ SameCore w w') ∨
      (ph = .read ∧ w' = (r.expire w).2 ∧
        (((r.expire w).1 = .expired ∧ r.WorkerAt .expired p') ∨
          ((r.expire w).1 ≠ .expired ∧ r.WorkerAt .done p'))) ∨
      (ph = .expired ∧ r.WorkerAt .done p' ∧ w' = r.apply w) := by
  cases ph with
  | entry =>
      obtain rfl := hp
      rw [handleEvent_eq] at h
      cases h
      right; left
      refine ⟨rfl, Or.inl ?_, SameCore.of_aside (Quiet.readClock w).toAside⟩
      dsimp only
      rw [htime rfl, readTail_tNow]
  | read =>
      rcases hp with rfl | rfl
      · cases h
        exact Or.inl ⟨by simp, Or.inr rfl, SameCore.refl _⟩
      · cases h
        right; right; left
        exact ⟨rfl, rfl, settleTail_at _⟩
  | expired =>
      rcases hp with rfl | rfl | rfl
      · cases h
        exact Or.inl ⟨by simp, Or.inr (Or.inl rfl), SameCore.refl _⟩
      · cases h
        exact Or.inl ⟨by simp, Or.inr (Or.inr rfl), SameCore.refl _⟩
      · cases h
        right; right; right
        exact ⟨rfl, updateUniversalBoostMode_within' fun _ _ h => SameCore.of_aside h.toAside, rfl⟩
  | done =>
      left
      cases h with
      | act f k => exact ⟨by simp, (hp w).2, (hp w).1⟩
      | lock l k => exact ⟨by simp, hp, SameCore.refl _⟩
      | unlock l k => exact ⟨by simp, hp, SameCore.refl _⟩

/-! ### Interleavings and orders of sections -/

/-- The configuration is one of those that the orders of the sections account for. -/
def Simulated (r : Race) (c : Config RaceThread Lock World) : Prop :=
  ∃ b ph w, r.At b ph w ∧ SameCore w c.state ∧ (ph = .entry → c.state.readClock.1 = r.tNow) ∧
    r.BinderAt b (c.threads .binder).prog ∧ r.WorkerAt ph (c.threads .worker).prog

theorem readClock_vote (w : World) : (r.vote w).readClock.1 = w.readClock.1 := by
  unfold vote
  rcases voteSection_cases w r.newEvent r.durationNs r.ballot with ⟨-, heq⟩ | ⟨p, decided, -, heq⟩
  · rw [heq]
  · have honly := onlyOutputs_voted w r.newEvent r.durationNs r.ballot p
    rw [OnlyOutputs] at honly
    have hvoted : (w.voted r.newEvent r.durationNs r.ballot p).readClock.1 = w.readClock.1 := by
      rw [honly]
      rfl
    rw [heq]
    exact hvoted

theorem simulated_config : r.Simulated r.config :=
  ⟨false, .entry, r.world, .start, SameCore.refl _, fun _ => rfl, Or.inl rfl, rfl⟩

theorem Simulated.step {c c' : Config RaceThread Lock World} (hc : r.Simulated c) {i : RaceThread}
    (h : Step (fun _ _ => False) i c c') : r.Simulated c' := by
  obtain ⟨b, ph, w, hat, hsame, htime, hbinder, hworker⟩ := hc
  obtain ⟨held, p, hnext, hthreads⟩ := h.next.resolve_left fun ⟨_, hstart, _⟩ => hstart
  cases i with
  | binder =>
      have hb : (c'.threads .binder).prog = p := by rw [hthreads]; rfl
      have hw : c'.threads .worker = c.threads .worker := by rw [hthreads]; rfl
      rw [← hw] at hworker
      rcases binder_next hbinder hnext with ⟨hb', hquiet, hclock⟩ | ⟨rfl, hb', hvote⟩
      · exact ⟨b, ph, w, hat, hsame.trans hquiet, fun hph => hclock.trans (htime hph), hb ▸ hb',
          hworker⟩
      · refine ⟨true, ph, r.vote w, .vote hat, ?_, fun hph => ?_, hb ▸ hb', hworker⟩
        · rw [hvote]
          exact hsame.voteSection _ _ _
        · rw [hvote, readClock_vote]
          exact htime hph
  | worker =>
      have hb : c'.threads .binder = c.threads .binder := by rw [hthreads]; rfl
      have hw : (c'.threads .worker).prog = p := by rw [hthreads]; rfl
      rw [← hb] at hbinder
      rcases worker_next hworker htime hnext with ⟨hph, hw', hcore⟩ | ⟨rfl, hw', hcore⟩ |
        ⟨rfl, hstate, hverdict⟩ | ⟨rfl, hw', hstate⟩
      · exact ⟨b, ph, w, hat, hsame.trans hcore, fun h => absurd h hph, hbinder, hw ▸ hw'⟩
      · exact ⟨b, .read, w, .now hat, hsame.trans hcore, by simp, hbinder, hw ▸ hw'⟩
      · obtain ⟨hv, hcore⟩ := hsame.expireSection r.event r.tNow
        rcases hverdict with ⟨hexp, hw'⟩ | ⟨hexp, hw'⟩
        · exact ⟨b, .expired, (r.expire w).2, .expire hat (hv.symm.trans hexp), hstate ▸ hcore,
            by simp, hbinder, hw ▸ hw'⟩
        · exact ⟨b, .done, (r.expire w).2, .leave hat fun h => hexp (hv.trans h), hstate ▸ hcore,
            by simp, hbinder, hw ▸ hw'⟩
      · refine ⟨b, .done, r.apply w, .apply hat, ?_, by simp, hbinder, hw ▸ hw'⟩
        rw [hstate]
        exact hsame.applyVotes _ _

theorem simulated_of_interleaves {c : Config RaceThread Lock World} (h : r.Interleaves c) :
    r.Simulated c := by
  induction h with
  | refl => exact simulated_config
  | tail _ hstep ih =>
      obtain ⟨i, hi⟩ := hstep
      exact ih.step hi

/-- **Every interleaving is an order of the critical sections.** -/
theorem reach_at {c : Config RaceThread Lock World} (h : r.Interleaves c) (hfin : Finished c) :
    ∃ w, r.At true .done w ∧ SameCore w c.state := by
  obtain ⟨b, ph, w, hat, hsame, -, hbinder, hworker⟩ := simulated_of_interleaves h
  rw [hfin .binder] at hbinder
  rw [hfin .worker] at hworker
  cases b with
  | false => rcases hbinder with h | h <;> cases h
  | true =>
      cases ph with
      | entry => cases hworker
      | read => rcases hworker with h | h <;> cases h
      | expired => rcases hworker with h | h | h <;> cases h
      | done => exact ⟨w, hat, hsame⟩

/-- What is left of the client's call after its section changes no clamp. -/
theorem voteSet_post (w : World) :
    SameCore (r.vote w)
      ((voteSet r.sessionId r.voteId r.uclampMin r.uclampMax r.startTime r.durationNs).post w) := by
  have htail : ∀ b, (Prog.when b (schedule r.newEvent)).Within SameCore := fun b =>
    Within.when ((schedule_within_quiet _).mono fun _ _ h => h.1)
  exact (htail _).post SameCore.refl (fun _ _ _ => SameCore.trans) (r.vote w)

/-- What is left of `handleEvent` after its second section changes no clamp. -/
theorem applyBody_post (w : World) :
    SameCore (r.apply w) ((Prog.lock .mSessionTaskMapMutex r.applyBody).post w) := by
  have htail : updateUniversalBoostMode.Within SameCore :=
    updateUniversalBoostMode_within' fun _ _ h => SameCore.of_aside h.toAside
  exact htail.post SameCore.refl (fun _ _ _ => SameCore.trans) (r.apply w)

/-- `handleEvent` up to the end of its first section. -/
def handleFirst (r : Race) : P (ℤ × Verdict) :=
  now.bind fun t => (critical .mSessionTaskMapMutex (settle r.event t)).bind fun v => Prog.ret (t, v)

theorem handleEvent_eq_bind : handleEvent r.event = r.handleFirst.bind fun tv =>
    Prog.when (tv.2 = .expired) ((applyCpuAndGpuVotes r.event.sessionId tv.1).bind fun _ =>
      updateUniversalBoostMode) := by
  unfold handleFirst
  rw [bind_assoc]
  simp only [bind_assoc]
  rfl

theorem handleFirst_keeping : Keeping [] r.handleFirst :=
  Respects.bind (Respects.atomic _ _) fun t =>
    Respects.bind (Respects.critical (Below.nil 2) (settle_keeping ((Below.nil 3).cons (by decide)) _ t))
      fun _ => Respects.ret _ _

/-- When the vote of the event has timed out, the first section leaves the second to be done. -/
theorem handleFirst_run (hexp : (r.expire r.world.readClock.2).1 = .expired) :
    r.handleFirst.run r.world = ((r.tNow, .expired), (r.expire r.world.readClock.2).2) := by
  have hdecide : (atomic (expireSection r.event r.tNow) : P Verdict).run r.world.readClock.2 =
      (.expired, (r.expire r.world.readClock.2).2) := Prod.ext hexp rfl
  have hsettle : (settle r.event (now.run r.world).1).run (now.run r.world).2 =
      (.expired, (r.expire r.world.readClock.2).2) := by
    refine Eq.trans (run_bind _ _ _) ?_
    exact congrArg (fun vw => ((reschedule vw.1).bind fun _ => Prog.ret vw.1).run vw.2) hdecide
  simp only [handleFirst, run_bind, run_critical, run_ret]
  rw [hsettle]
  rfl

/-- The threads when the worker is between its two sections and the client has not begun. -/
def threadsBetween (r : Race) : RaceThread → Thread Lock World
  | .binder => ⟨[], voteSet r.sessionId r.voteId r.uclampMin r.uclampMax r.startTime r.durationNs⟩
  | .worker => ⟨[], Prog.lock .mSessionTaskMapMutex r.applyBody⟩

theorem reach_first_section (hexp : (r.expire r.world.readClock.2).1 = .expired) :
    r.Interleaves ⟨(r.expire r.world.readClock.2).2, r.threadsBetween⟩ := by
  have hreach : Reach (fun _ _ => False) r.config _ :=
    reach_first (i := RaceThread.worker) r.handleFirst _ [] r.world r.config.threads
      (handleFirst_keeping.returns r.world) (congrArg (Thread.mk []) handleEvent_eq_bind)
      fun j hj => by cases j <;> first | exact absurd rfl hj | rfl
  rw [handleFirst_keeping.leaves, post, handleFirst_run hexp] at hreach
  have hthreads : Function.update r.config.threads .worker
      ⟨[], Prog.lock .mSessionTaskMapMutex r.applyBody⟩ = r.threadsBetween := by
    funext j
    cases j <;> rfl
  rw [← hthreads]
  exact hreach

/-- When the vote of the event has timed out, there is an interleaving in which the new vote is set
between the two sections of `handleEvent`. -/
theorem exists_between (hexp : (r.expire r.world).1 = .expired) :
    ∃ c, r.Interleaves c ∧ Finished c ∧
      SameCore (r.apply (r.vote (r.expire r.world).2)) c.state := by
  have hread := (SameCore.of_aside (Quiet.readClock r.world).toAside).expireSection r.event r.tNow
  have hfirst := reach_first_section (hread.1.trans hexp)
  have hcore : SameCore (r.expire r.world).2 (r.expire r.world.readClock.2).2 := hread.2
  have hvote : Keeping [] (voteSet r.sessionId r.voteId r.uclampMin r.uclampMax r.startTime
      r.durationNs) := castVote_keeping (Below.nil 2) ..
  have happly : Keeping [] (Prog.lock .mSessionTaskMapMutex r.applyBody : P Unit) :=
    Respects.bind (applyCpuAndGpuVotes_keeping (Below.nil 2) _ _) fun _ =>
      updateUniversalBoostMode_keeping (Below.nil 2)
  -- the client runs to its end, then the worker
  have hsecond : Reach (fun _ _ => False) ⟨(r.expire r.world.readClock.2).2, r.threadsBetween⟩ _ :=
    reach_alone (i := RaceThread.binder) _ [] _ _ (hvote.returns _) rfl
      fun j hj => by cases j <;> first | exact absurd rfl hj | rfl
  rw [hvote.leaves] at hsecond
  generalize (r.expire r.world.readClock.2).2 = w₁ at hfirst hsecond hcore
  have hset := voteSet_post (r := r) w₁
  generalize (voteSet r.sessionId r.voteId r.uclampMin r.uclampMax r.startTime
    r.durationNs).post w₁ = w₂ at hsecond hset
  have hthird : Reach (fun _ _ => False) ⟨w₂, Function.update r.threadsBetween .binder
      ⟨[], Prog.ret ()⟩⟩ _ :=
    reach_alone (i := RaceThread.worker) _ [] _ _ (happly.returns w₂) rfl
      fun j hj => by cases j <;> first | exact absurd rfl hj | rfl
  refine ⟨_, (hfirst.trans hsecond).trans hthird, fun i => by cases i <;> rfl, ?_⟩
  have hboth : SameCore (r.vote (r.expire r.world).2) w₂ := (hcore.voteSection _ _ _).trans hset
  exact (hboth.applyVotes _ _).trans (applyBody_post w₂)

end Race

end Adpf
