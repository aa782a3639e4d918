/-
**When the interaction hint is held.**

Between a successful `Init` and `Exit` the hint is held exactly while an interaction is in progress, it
is not given back for an interaction that was taken up again after the wait began, and a wait is only
aborted by a signal that is meant for it.  `Exit`, however, overwrites the state that `Release` would
look at: if an interaction is in progress then, its hint is never given back.

Main definitions:

* `DispPower.Sound` — how the state, the thread, the event descriptor and the calls go together;
* `DispPower.Reacquired` — in a run an interaction is taken up again;
* `DispPower.Leaving` — a state after `Exit`.

Main results:

* `DispPower.Sound.next` — **one step** keeps a state sound;
* `DispPower.interaction_hint_held` — **whole runs** before `Exit`;
* `DispPower.exit_releases_hint_iff` — **whole runs** with an `Exit`: when no hint is left.
-/

import MotoCommon.InteractionHandler

set_option autoImplicit false

namespace DispPower

open InteractionHandler

variable {p : Properties} {h h' : InteractionHandler}

/-! ### Sound states -/

/-- The thread is between the condition variable and `Release`. -/
def Point.Waits : Point → Prop
  | .firstPoll => True
  | .secondPoll => True
  | .release => True
  | _ => False

/-- The states before `Exit`: there is no thread yet; nothing goes on; an interaction goes on and the
thread has not begun to wait; it waits; it waits and the interaction was taken up again, which the event
descriptor tells it. -/
inductive Sound (h : InteractionHandler) : Prop
  | fresh : h.mState = .UNINITIALIZED → h.mThread = none → h.perfLocks = h.perfRels → Sound h
  | idle : h.mState = .IDLE → h.mThread = some .cond → h.eventCounter = 0 →
      h.perfLocks = h.perfRels → Sound h
  | started : h.mState = .INTERACTION → h.mThread = some .cond → h.eventCounter = 0 →
      h.perfLocks = h.perfRels + 1 → Sound h
  | waiting {point : Point} : h.mState = .WAITING → h.mThread = some point → point.Waits →
      h.eventCounter = 0 → h.perfLocks = h.perfRels + 1 → Sound h
  | again {point : Point} : h.mState = .INTERACTION → h.mThread = some point → point.Waits →
      h.eventCounter = 1 → h.perfLocks = h.perfRels + 1 → Sound h

theorem Sound.init : Sound {} := .fresh rfl rfl rfl

/-- The thread is in one of the two calls of `poll`. -/
def Point.Polls (point : Point) : Prop := point = .firstPoll ∨ point = .secondPoll

/-- The points that `WaitForIdle` leads from and to. -/
theorem WaitForIdle_points {counter : ℕ} {point point' : Point} {e : WaitEvent}
    (hwait : WaitForIdle counter point e = some point') : point.Polls ∧ point'.Waits := by
  revert hwait
  fun_cases WaitForIdle counter point e <;> intro hwait <;> cases hwait
  all_goals first | exact ⟨Or.inl rfl, trivial⟩ | exact ⟨Or.inr rfl, trivial⟩

theorem WaitForIdle_waits {counter : ℕ} {point point' : Point} {e : WaitEvent}
    (hwait : WaitForIdle counter point e = some point') : point.Waits ∧ point'.Waits := by
  obtain ⟨hfrom, hto⟩ := WaitForIdle_points hwait
  refine ⟨?_, hto⟩
  rcases hfrom with rfl | rfl
  · trivial
  · trivial

/-- A thread at the condition variable does not wait for the display. -/
theorem not_waits {point : Point} (hcond : h.mThread = some .cond) (hpoint : h.mThread = some point)
    (hwaits : point.Waits) : False := by
  rw [hcond] at hpoint
  cases hpoint
  exact hwaits

/-- A wait is aborted only when the event descriptor says so. -/
theorem WaitForIdle_aborted {counter : ℕ} {point point' : Point}
    (hwait : WaitForIdle counter point .aborted = some point') : counter ≠ 0 := by
  rintro rfl
  cases point <;> simp [WaitForIdle] at hwait

/-! ### One step -/

/-- A handler that is not initialized. -/
theorem Sound.step_fresh {l : Label} (hs : Sound h) (hfresh : h.mState = .UNINITIALIZED)
    (hl : l ≠ .exit) (hstep : step p l h = some h') : Sound h' := by
  cases hs with
  | fresh hstate hthread hcalls =>
      cases l with
      | exit => exact absurd rfl hl
      | init openFile mEventFd =>
          simp only [step, Option.ite_none_left_eq_some, Option.some.injEq] at hstep
          rw [← hstep.2, Init, if_neg (by simp [hstate])]
          split
          · exact .fresh hstate hthread hcalls
          · split
            · exact .fresh hstate hthread hcalls
            · exact .idle rfl rfl rfl hcalls
      | acquire duration cur =>
          obtain rfl := Option.some.inj hstep
          rw [Acquire_fallback (Or.inr hstate)]
          refine .fresh hstate hthread ?_
          simpa [perfLocks, perfRels] using hcalls
      | leaveCond => simp [step, hthread] at hstep
      | wait e => simp [step, hthread] at hstep
      | release => simp [step, hthread] at hstep
  | idle hstate => simp [hstate] at hfresh
  | started hstate => simp [hstate] at hfresh
  | waiting hstate => simp [hstate] at hfresh
  | again hstate => simp [hstate] at hfresh

/-- What happens to a handler that is initialized. -/
theorem Sound.happens {l : Label} (hs : Sound h) (hinit : h.mState ≠ .UNINITIALIZED)
    (hhap : Happens p h l h') : Sound h' := by
  cases hhap with
  | init _ _ => exact hs
  | covered _ _ _ => exact hs
  | taken duration cur _ =>
      cases hs with
      | fresh hstate => exact absurd hstate hinit
      | idle hstate hthread hcounter hcalls =>
          refine .started rfl hthread ?_ ?_
          · simpa [hstate] using hcounter
          · simpa [hstate, perfLocks, perfRels] using hcalls
      | started hstate hthread hcounter hcalls =>
          refine .started rfl hthread ?_ ?_
          · simpa [hstate] using hcounter
          · simpa [hstate, perfLocks, perfRels] using hcalls
      | waiting hstate hthread hwaits hcounter hcalls =>
          refine .again rfl hthread hwaits ?_ ?_
          · simpa [hstate] using hcounter
          · simpa [hstate, perfLocks, perfRels] using hcalls
      | again hstate hthread hwaits hcounter hcalls =>
          refine .again rfl hthread hwaits ?_ ?_
          · simpa [hstate] using hcounter
          · simpa [hstate, perfLocks, perfRels] using hcalls
  | begin hcond hne =>
      cases hs with
      | fresh hstate => exact absurd hstate hinit
      | idle hstate => exact absurd hstate hne
      | started _ _ hcounter hcalls => exact .waiting rfl rfl trivial hcounter hcalls
      | waiting _ hthread hwaits => exact (not_waits hcond hthread hwaits).elim
      | again _ hthread hwaits => exact (not_waits hcond hthread hwaits).elim
  | goOn hpoint hwait =>
      obtain ⟨hfrom, hto⟩ := WaitForIdle_waits hwait
      cases hs with
      | fresh hstate => exact absurd hstate hinit
      | idle _ hcond => exact (not_waits hcond hpoint hfrom).elim
      | started _ hcond => exact (not_waits hcond hpoint hfrom).elim
      | waiting hstate _ _ hcounter hcalls => exact .waiting hstate rfl hto hcounter hcalls
      | again hstate _ _ hcounter hcalls => exact .again hstate rfl hto hcounter hcalls
  | giveBack hrelease hwaiting =>
      cases hs with
      | waiting _ _ _ hcounter hcalls =>
          refine .idle rfl rfl hcounter ?_
          simpa [perfLocks, perfRels] using hcalls
      | fresh hstate => simp [hstate] at hwaiting
      | idle hstate => simp [hstate] at hwaiting
      | started hstate => simp [hstate] at hwaiting
      | again hstate => simp [hstate] at hwaiting
  | clear hrelease hnot =>
      cases hs with
      | again hstate _ _ _ hcalls => exact .started hstate rfl rfl hcalls
      | fresh hstate => exact absurd hstate hinit
      | idle _ hcond => simp [hrelease] at hcond
      | started _ hcond => simp [hrelease] at hcond
      | waiting hstate => exact absurd hstate hnot

/-- **One step.** -/
theorem Sound.next {l : Label} (hs : Sound h) (hidle : p.kDisplayIdleSupport = true)
    (hl : l ≠ .exit) (hstep : step p l h = some h') : Sound h' := by
  by_cases hinit : h.mState = .UNINITIALIZED
  · exact hs.step_fresh hinit hl hstep
  · exact hs.happens hinit (step_happens hidle hinit hl hstep)

theorem Sound.initialized (hs : Sound h) (hthread : h.mThread ≠ none) :
    h.mState ≠ .UNINITIALIZED := by
  cases hs with
  | fresh _ hnone => exact absurd hnone hthread
  | idle hstate => simp [hstate]
  | started hstate => simp [hstate]
  | waiting hstate => simp [hstate]
  | again hstate => simp [hstate]

/-- Only `Exit` ends it. -/
theorem Happens.initialized {l : Label} (hhap : Happens p h l h')
    (hinit : h.mState ≠ .UNINITIALIZED) : h'.mState ≠ .UNINITIALIZED := by
  cases hhap with
  | init _ _ => exact hinit
  | covered _ _ _ => exact hinit
  | goOn _ _ => exact hinit
  | clear _ _ => exact hinit
  | taken _ _ _ => simp
  | begin _ _ => simp
  | giveBack _ _ => simp

/-! ### The wait that goes on -/

/-- An interaction is taken up: `Acquire` is called, and the previous interaction does not cover it. -/
def Label.Acquires (p : Properties) (h : InteractionHandler) : Label → Prop
  | .acquire duration cur => h.covers (p.finalDuration duration) cur = false
  | _ => False

/-- In a run an interaction is taken up. -/
def Reacquired (p : Properties) : List Label → InteractionHandler → Prop
  | [], _ => False
  | l :: ls, h => l.Acquires p h ∨ (step p l h).elim False (Reacquired p ls)

/-- The labels of a run in which the thread does not begin to wait again. -/
def Label.SameWait (l : Label) : Prop := l ≠ .exit ∧ l ≠ .leaveCond

/-- An interaction that was taken up stays until the thread waits again. -/
theorem Happens.interaction {l : Label} (hhap : Happens p h l h') (hl : l.SameWait)
    (hstate : h.mState = .INTERACTION) : h'.mState = .INTERACTION := by
  cases hhap with
  | init _ _ => exact hstate
  | covered _ _ _ => exact hstate
  | taken _ _ _ => rfl
  | begin _ _ => exact absurd rfl hl.2
  | goOn _ _ => exact hstate
  | giveBack _ hwaiting => simp [hstate] at hwaiting
  | clear _ _ => exact hstate

/-- An interaction that was taken up after the wait began is still there at its end. -/
theorem Reacquired.mState (hidle : p.kDisplayIdleSupport = true) : ∀ {ls : List Label}
    {h u : InteractionHandler}, (∀ l ∈ ls, l.SameWait) → h.mState ≠ .UNINITIALIZED →
    Machine.run (step p) ls h = some u → Reacquired p ls h → u.mState = .INTERACTION := by
  have hkeeps : ∀ (l : Label) (s s' : InteractionHandler), l.SameWait →
      s.mState = .INTERACTION → step p l s = some s' → s'.mState = .INTERACTION :=
    fun l s s' hl hs hstep => (step_happens hidle (by simp [hs]) hl.1 hstep).interaction hl hs
  intro ls
  induction ls with
  | nil => exact fun _ _ _ hre => hre.elim
  | cons l ls ih =>
      intro h u hls hinit hrun hre
      obtain ⟨h', hstep, hrun⟩ := Machine.run_cons_eq_some.1 hrun
      have hrest : ∀ l ∈ ls, l.SameWait := fun l' hl' => hls l' (List.mem_cons_of_mem l hl')
      rcases hre with htaken | hre
      · have hstate : h'.mState = .INTERACTION := by
          cases l with
          | acquire duration cur =>
              obtain rfl := Option.some.inj hstep
              rw [Acquire_taken hidle hinit htaken]
          | _ => exact htaken.elim
        exact Machine.run_invariant hkeeps hrest hstate hrun
      · rw [hstep] at hre
        have hl := hls l List.mem_cons_self
        exact ih hrest ((step_happens hidle hinit hl.1 hstep).initialized hinit) hrun hre

/-- The wait goes on, or is over, and no interaction was taken up: no signal is left. -/
def Undisturbed (h : InteractionHandler) : Prop :=
  h.eventCounter = 0 ∧
    ((h.mState = .WAITING ∧ ∃ point, h.mThread = some point ∧ point.Waits) ∨
      (h.mState = .IDLE ∧ h.mThread = some .cond))

theorem Undisturbed.initialized (hu : Undisturbed h) : h.mState ≠ .UNINITIALIZED := by
  rcases hu.2 with ⟨hstate, -⟩ | ⟨hstate, -⟩ <;> simp [hstate]

theorem Undisturbed.happens {l : Label} (hu : Undisturbed h) (hhap : Happens p h l h')
    (hl : l.SameWait) (hnot : ¬ l.Acquires p h) : Undisturbed h' := by
  cases hhap with
  | init _ _ => exact hu
  | covered _ _ _ => exact hu
  | taken duration cur htaken => exact absurd htaken hnot
  | begin _ _ => exact absurd rfl hl.2
  | goOn hpoint hwait =>
      obtain ⟨hfrom, hto⟩ := WaitForIdle_waits hwait
      rcases hu.2 with ⟨hstate, -⟩ | ⟨-, hcond⟩
      · exact ⟨hu.1, Or.inl ⟨hstate, _, rfl, hto⟩⟩
      · exact (not_waits hcond hpoint hfrom).elim
  | giveBack _ _ => exact ⟨hu.1, Or.inr ⟨rfl, rfl⟩⟩
  | clear hrelease hne =>
      rcases hu.2 with ⟨hstate, -⟩ | ⟨-, hcond⟩
      · exact absurd hstate hne
      · simp [hrelease] at hcond

/-- When the thread begins to wait, no signal is left. -/
theorem Sound.begins (hs : Sound h) (hidle : p.kDisplayIdleSupport = true)
    (hstep : step p .leaveCond h = some h') : h'.mState = .WAITING ∧ Undisturbed h' := by
  have hcond : h.mThread = some .cond ∧ h.mState ≠ .IDLE := by
    simp only [step, Option.ite_none_right_eq_some] at hstep
    exact hstep.1
  have hinit := hs.initialized (by simp [hcond.1])
  cases step_happens hidle hinit (by simp) hstep with
  | begin _ _ =>
      have hcounter : h.eventCounter = 0 := by
        cases hs with
        | fresh hstate => exact absurd hstate hinit
        | idle _ _ hcounter => exact hcounter
        | started _ _ hcounter => exact hcounter
        | waiting _ hthread hwaits => exact (not_waits hcond.1 hthread hwaits).elim
        | again _ hthread hwaits => exact (not_waits hcond.1 hthread hwaits).elim
      exact ⟨rfl, hcounter, Or.inl ⟨rfl, .firstPoll, rfl, trivial⟩⟩

/-- A wait that no interaction disturbs. -/
theorem Undisturbed.run (hidle : p.kDisplayIdleSupport = true) : ∀ {ls : List Label}
    {h u : InteractionHandler}, (∀ l ∈ ls, l.SameWait) → Undisturbed h →
    Machine.run (step p) ls h = some u → ¬ Reacquired p ls h → Undisturbed u := by
  intro ls
  induction ls with
  | nil =>
      intro h u _ hu hrun _
      obtain rfl := Option.some.inj hrun
      exact hu
  | cons l ls ih =>
      intro h u hls hu hrun hnot
      obtain ⟨h', hstep, hrun⟩ := Machine.run_cons_eq_some.1 hrun
      have hl := hls l List.mem_cons_self
      have hhap := step_happens hidle hu.initialized hl.1 hstep
      have hnext := hu.happens hhap hl fun htaken => hnot (Or.inl htaken)
      refine ih (fun l' hl' => hls l' (List.mem_cons_of_mem l hl')) hnext hrun fun hre => ?_
      refine hnot (Or.inr ?_)
      rw [hstep]
      exact hre

/-! ### Before `Exit` -/

/-- **When the hint is held.**  In every state of every run before `Exit`, with support for the idle
state, the hint is held exactly while an interaction is in progress.  When the thread begins to wait no
signal is left; until it waits again, it does not give the hint back if an interaction was taken up, and
the wait is aborted only if one was. -/
theorem interaction_hint_held (hidle : p.kDisplayIdleSupport = true) {ls : List Label}
    (hls : ∀ l ∈ ls, l ≠ .exit) (hrun : Machine.run (step p) ls {} = some h) :
    (h.mState ≠ .UNINITIALIZED →
      (h.perfLocks : ℤ) - h.perfRels = if h.mState = .IDLE then 0 else 1) ∧
    ∀ h', step p .leaveCond h = some h' →
      h'.mState = .WAITING ∧ h'.eventCounter = 0 ∧
      ∀ during u, (∀ l ∈ during, l.SameWait) → Machine.run (step p) during h' = some u →
        (∀ u', step p .release u = some u' → u'.perfRels ≠ u.perfRels → ¬ Reacquired p during h') ∧
        (∀ u', step p (.wait .aborted) u = some u' → Reacquired p during h') := by
  have hkeeps : ∀ (l : Label) (s s' : InteractionHandler), l ≠ .exit → Sound s →
      step p l s = some s' → Sound s' := fun _ _ _ hl hs => hs.next hidle hl
  have hsound : Sound h := Machine.run_invariant hkeeps hls .init hrun
  refine ⟨fun hinit => ?_, fun h' hstep => ?_⟩
  · cases hsound with
    | fresh hstate => exact absurd hstate hinit
    | idle hstate _ _ hcalls => rw [if_pos hstate]; omega
    | started hstate _ _ hcalls => rw [if_neg (by simp [hstate])]; omega
    | waiting hstate _ _ _ hcalls => rw [if_neg (by simp [hstate])]; omega
    | again hstate _ _ _ hcalls => rw [if_neg (by simp [hstate])]; omega
  · obtain ⟨hwaiting, hu⟩ := hsound.begins hidle hstep
    refine ⟨hwaiting, hu.1, fun during u hduring hrun => ⟨fun u' hrel hgave hre => ?_, fun u' habort => ?_⟩⟩
    · have hstate := hre.mState hidle hduring hu.initialized hrun
      cases step_happens hidle (by simp [hstate]) (by simp) hrel with
      | giveBack _ hwaits => simp [hstate] at hwaits
      | clear _ _ => exact hgave rfl
    · by_contra hnot
      have hquiet := hu.run hidle hduring hrun hnot
      cases step_happens hidle hquiet.initialized (by simp) habort with
      | goOn _ hwait => exact WaitForIdle_aborted hwait hquiet.1

/-- A handler whose display is idle at descriptor 3, with event descriptor 4. -/
def initLabel : Label := .init (fun _ => 3) 4

/-- An interaction begins, the thread waits, and a longer interaction is taken up before the wait is
over. -/
def prolonged : List Label :=
  [initLabel, .acquire 0 {}, .leaveCond, .acquire 2000 {}, .wait .aborted, .release]

/-- The handler after that. -/
def prolongedHandler : InteractionHandler where
  mState := .INTERACTION
  mDurationMs := 2650
  mThread := some .cond
  calls := [.doHint]

/-- The hint is held, and the next wait begins without a signal. -/
theorem interaction_hint_held_prolonged :
    Machine.run (step {}) prolonged {} = some prolongedHandler ∧
      (prolongedHandler.perfLocks : ℤ) - prolongedHandler.perfRels = 1 ∧
      ∃ h', step {} .leaveCond prolongedHandler = some h' ∧ h'.eventCounter = 0 := by
  have hrun : Machine.run (step {}) prolonged {} = some prolongedHandler := by decide
  have hls : ∀ l ∈ prolonged, l ≠ .exit := by simp [prolonged, initLabel]
  have hheld := interaction_hint_held rfl hls hrun
  exact ⟨hrun, hheld.1 (by decide), _, rfl, (hheld.2 _ rfl).2.1⟩

/-! ### After `Exit` -/

/-- A state after `Exit`: the state is the one that `Exit` wrote, the thread has a signal to stop
waiting, and no more calls about the hint are made than `locks` and `rels`. -/
structure Leaving (locks rels : ℕ) (h : InteractionHandler) : Prop where
  state : h.mState = .UNINITIALIZED
  thread : ∃ point, h.mThread = some point ∧ (point.Polls → h.eventCounter ≠ 0)
  perfLocks : h.perfLocks = locks
  perfRels : h.perfRels = rels

variable {locks rels : ℕ}

theorem Leaving.next {l : Label} (hleave : Leaving locks rels h) (hl : l ≠ .exit)
    (hstep : step p l h = some h') : Leaving locks rels h' := by
  obtain ⟨hstate, ⟨point, hthread, hsignal⟩, hlocks, hrels⟩ := hleave
  cases l with
  | exit => exact absurd rfl hl
  | init openFile mEventFd => simp [step, hstate, hthread] at hstep
  | acquire duration cur =>
      obtain rfl := Option.some.inj hstep
      rw [Acquire_fallback (Or.inr hstate)]
      refine ⟨hstate, ⟨point, hthread, hsignal⟩, ?_, ?_⟩
      · simpa [InteractionHandler.perfLocks] using hlocks
      · simpa [InteractionHandler.perfRels] using hrels
  | leaveCond =>
      simp only [step, Option.ite_none_right_eq_some, Option.some.injEq] at hstep
      rw [← hstep.2, leaveCond, if_pos hstate]
      exact ⟨hstate, ⟨.ended, rfl, by simp [Point.Polls]⟩, hlocks, hrels⟩
  | wait e =>
      obtain ⟨point', hpoint', rfl⟩ := Option.map_eq_some_iff.1 hstep
      obtain ⟨point₀, hpoint₀, hwait⟩ := Option.bind_eq_some_iff.1 hpoint'
      obtain rfl : point = point₀ := Option.some.inj (hthread.symm.trans hpoint₀)
      exact ⟨hstate, ⟨point', rfl, fun _ => hsignal (WaitForIdle_points hwait).1⟩, hlocks, hrels⟩
  | release =>
      simp only [step, Option.ite_none_right_eq_some, Option.some.injEq] at hstep
      rw [← hstep.2, Release, if_neg (by simp [hstate])]
      exact ⟨hstate, ⟨.cond, rfl, by simp [Point.Polls]⟩, hlocks, hrels⟩

/-- The thread ends, if it goes on. -/
theorem Leaving.ends (p : Properties) (hleave : Leaving locks rels h) :
    ∃ ls h', Machine.run (step p) ls h = some h' ∧ h'.mThread = some .ended := by
  have hcond : ∀ u : InteractionHandler, u.mState = .UNINITIALIZED → u.mThread = some .cond →
      ∃ ls u', Machine.run (step p) ls u = some u' ∧ u'.mThread = some .ended := by
    intro u hstate hthread
    refine ⟨[.leaveCond], { u with mThread := some .ended }, ?_, rfl⟩
    simp [Machine.run_cons, DispPower.step, leaveCond, hstate, hthread]
  have hrelease : ∀ u : InteractionHandler, u.mState = .UNINITIALIZED → u.mThread = some .release →
      ∃ ls u', Machine.run (step p) ls u = some u' ∧ u'.mThread = some .ended := by
    intro u hstate hthread
    have hstate' : u.Release.mState = .UNINITIALIZED := by
      rw [Release, if_neg (by simp [hstate])]
      exact hstate
    obtain ⟨ls, u', hrun, hend⟩ := hcond { u.Release with mThread := some .cond } hstate' rfl
    exact ⟨.release :: ls, u', Machine.run_cons_eq_some.2 ⟨_, if_pos hthread, hrun⟩, hend⟩
  obtain ⟨hstate, ⟨point, hthread, hsignal⟩, -, -⟩ := hleave
  have hpoll : point.Polls →
      ∃ ls h', Machine.run (step p) ls h = some h' ∧ h'.mThread = some .ended := by
    intro hpolls
    -- the signal of `Exit` ends the wait
    have habort : step p (.wait .aborted) h = some { h with mThread := some .release } := by
      have hcounter := hsignal hpolls
      rcases hpolls with rfl | rfl <;> simp [step, hthread, WaitForIdle, hcounter]
    obtain ⟨ls, h', hrun, hend⟩ := hrelease { h with mThread := some .release } hstate rfl
    exact ⟨.wait .aborted :: ls, h', Machine.run_cons_eq_some.2 ⟨_, habort, hrun⟩, hend⟩
  cases point with
  | ended => exact ⟨[], h, rfl, hthread⟩
  | cond => exact hcond h hstate hthread
  | release => exact hrelease h hstate hthread
  | firstPoll => exact hpoll (Or.inl rfl)
  | secondPoll => exact hpoll (Or.inr rfl)

/-- `Exit` while the handler is initialized. -/
theorem Sound.leaving (hs : Sound h) (hinit : h.mState ≠ .UNINITIALIZED) :
    Leaving h.perfLocks h.perfRels h.Exit := by
  have hthread : ∃ point, h.mThread = some point := by
    cases hs with
    | fresh hstate => exact absurd hstate hinit
    | idle _ hthread => exact ⟨_, hthread⟩
    | started _ hthread => exact ⟨_, hthread⟩
    | waiting _ hthread => exact ⟨_, hthread⟩
    | again _ hthread => exact ⟨_, hthread⟩
  obtain ⟨point, hthread⟩ := hthread
  rw [Exit, if_neg hinit]
  exact ⟨rfl, ⟨point, hthread, fun _ => Nat.succ_ne_zero _⟩, rfl, rfl⟩

/-- **When `Exit` leaves no hint.**  A run leads to a state in which `Exit` is called, and another one,
of the thread and of any calls of `Acquire`, to the end of the thread, when `Exit` returns.  Every call
of `PerfLock` has been matched by one of `PerfRel` then exactly if no interaction was in progress when
`Exit` was called.  The thread always comes to its end, and `Exit` returns at once, with nothing to be
released, from a handler that is not initialized. -/
theorem exit_releases_hint_iff (hidle : p.kDisplayIdleSupport = true) {ls : List Label}
    (hls : ∀ l ∈ ls, l ≠ .exit) (hrun : Machine.run (step p) ls {} = some h) :
    (h.mState = .UNINITIALIZED → h.Exit = h ∧ h.perfLocks = h.perfRels) ∧
    (h.mState ≠ .UNINITIALIZED → ∀ rest u, (∀ l ∈ rest, l ≠ .exit) →
      Machine.run (step p) rest h.Exit = some u →
      (u.mThread = some .ended → (u.perfLocks = u.perfRels ↔ h.mState = .IDLE)) ∧
      ∃ rest' u', Machine.run (step p) rest' u = some u' ∧ u'.mThread = some .ended) := by
  have hkeeps : ∀ (l : Label) (s s' : InteractionHandler), l ≠ .exit → Sound s →
      step p l s = some s' → Sound s' := fun _ _ _ hl hs => hs.next hidle hl
  have hsound : Sound h := Machine.run_invariant hkeeps hls .init hrun
  refine ⟨fun hfresh => ⟨if_pos hfresh, ?_⟩, fun hinit rest u hrest hleft => ?_⟩
  · cases hsound with
    | fresh _ _ hcalls => exact hcalls
    | idle hstate => simp [hstate] at hfresh
    | started hstate => simp [hstate] at hfresh
    | waiting hstate => simp [hstate] at hfresh
    | again hstate => simp [hstate] at hfresh
  · have hstays : ∀ (l : Label) (s s' : InteractionHandler), l ≠ .exit →
        Leaving h.perfLocks h.perfRels s → step p l s = some s' →
        Leaving h.perfLocks h.perfRels s' := fun _ _ _ hl hs => hs.next hl
    have hleaving : Leaving h.perfLocks h.perfRels u :=
      Machine.run_invariant hstays hrest (hsound.leaving hinit) hleft
    refine ⟨fun _ => ?_, hleaving.ends p⟩
    rw [hleaving.perfLocks, hleaving.perfRels]
    cases hsound with
    | fresh hstate => exact absurd hstate hinit
    | idle hstate _ _ hcalls => exact iff_of_true hcalls hstate
    | started hstate _ _ hcalls => exact iff_of_false (by omega) (by simp [hstate])
    | waiting hstate _ _ _ hcalls => exact iff_of_false (by omega) (by simp [hstate])
    | again hstate _ _ _ hcalls => exact iff_of_false (by omega) (by simp [hstate])

/-- The interaction is over before `Exit` is called. -/
def finished : List Label :=
  [initLabel, .acquire 0 {}, .leaveCond, .wait .alreadyIdle, .release]

/-- The handler after that. -/
def finishedHandler : InteractionHandler where
  mState := .IDLE
  mDurationMs := 1400
  mThread := some .cond
  calls := [.endHint, .doHint]

/-- The handler at the end of its thread. -/
def stopped (h : InteractionHandler) : InteractionHandler :=
  { h.Exit with mThread := some .ended }

theorem exit_releases_hint_finished :
    Machine.run (step {}) finished {} = some finishedHandler ∧
      Machine.run (step {}) [.leaveCond] finishedHandler.Exit = some (stopped finishedHandler) ∧
      (stopped finishedHandler).perfLocks = (stopped finishedHandler).perfRels := by
  have hrun : Machine.run (step {}) finished {} = some finishedHandler := by decide
  have hleft : Machine.run (step {}) [.leaveCond] finishedHandler.Exit =
      some (stopped finishedHandler) := by decide
  have hls : ∀ l ∈ finished, l ≠ .exit := by simp [finished, initLabel]
  have hexit := ((exit_releases_hint_iff rfl hls hrun).2 (by decide) [.leaveCond] _ (by simp) hleft).1
  exact ⟨hrun, hleft, (hexit rfl).2 rfl⟩

/-- `Exit` is called while an interaction is in progress: the hint stays. -/
theorem exit_leaves_hint :
    ∃ h u, Machine.run (step {}) [initLabel, .acquire 0 {}] {} = some h ∧
      Machine.run (step {}) [.leaveCond] h.Exit = some u ∧ u.mThread = some .ended ∧
      u.perfLocks = 1 ∧ u.perfRels = 0 := by
  refine ⟨_, _, rfl, rfl, ?_⟩
  decide

end DispPower
