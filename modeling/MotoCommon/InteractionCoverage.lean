/-
**Skipped interactions are covered.**

`Acquire` returns early when the interaction in progress lasts long enough for the new one.  It finds that
out from the elapsed time, which `CalcTimespecDiffMs` computes in whole milliseconds and which may be too
large or too small, and from the difference of two durations, which is an `int`.  This module says when the
end of the interaction in progress is never more than a millisecond too early for a call of `Acquire`, and
never moves back, over all the runs of the handler.

Main definitions:

* `DispPower.Timespec.Monotonic` — the times that the clock returns;
* `DispPower.InteractionHandler.coverageEnd` — when the interaction in progress ends;
* `DispPower.InOrder` — the calls of `Acquire` in a run come one after the other;
* `DispPower.Properties.Comparable` — the durations are such that their differences are `int`s.

Main results:

* `DispPower.CalcTimespecDiffMs_close` — the elapsed time, to the millisecond;
* `DispPower.InteractionHandler.Acquire_coverage` — **one call**;
* `DispPower.interaction_covered_iff` — **whole runs**: when every call is covered.
-/

import MotoCommon.InteractionHint

set_option autoImplicit false

namespace DispPower

open InteractionHandler
open Adpf (toInt32 toUInt32 toInt32_eq toInt32_bounds toUInt32_eq toUInt32_toInt32 toUInt32_toUInt32)

/-! ### Elapsed time -/

/-- A time in nanoseconds. -/
def Timespec.ns (t : Timespec) : ℤ := t.tv_sec * 1000000000 + t.tv_nsec

/-- The times that `clock_gettime` returns for `CLOCK_MONOTONIC`: they are normalized, and the clock
counts nanoseconds in 64 bits. -/
structure Timespec.Monotonic (t : Timespec) : Prop where
  sec_nonneg : 0 ≤ t.tv_sec
  nsec_nonneg : 0 ≤ t.tv_nsec
  nsec_lt : t.tv_nsec < 1000000000
  ns_lt : t.ns < 2 ^ 63

variable {start finish : Timespec}

/-- Truncation towards zero is off by less than the divisor, in whichever direction. -/
theorem tdiv_NSINMS_close (x : ℤ) :
    x - NSINMS < Int.tdiv x NSINMS * NSINMS ∧ Int.tdiv x NSINMS * NSINMS < x + NSINMS := by
  have hdiv := Int.tdiv_mul_add_tmod x NSINMS
  have hhi := Int.tmod_lt_of_pos x (show 0 < NSINMS by decide)
  have hlo := Int.lt_tmod_of_pos x (show 0 < NSINMS by decide)
  omega

/-- **The elapsed time.**  It is that of the clock, with an error of less than a millisecond. -/
theorem CalcTimespecDiffMs_close (hs : start.Monotonic) (hf : finish.Monotonic)
    (hle : start.ns ≤ finish.ns) :
    0 ≤ CalcTimespecDiffMs start finish ∧
      finish.ns - start.ns - NSINMS < CalcTimespecDiffMs start finish * NSINMS ∧
      CalcTimespecDiffMs start finish * NSINMS < finish.ns - start.ns + NSINMS := by
  obtain ⟨hs₁, hs₂, hs₃, hs₄⟩ := hs
  obtain ⟨hf₁, hf₂, hf₃, hf₄⟩ := hf
  obtain ⟨hlo, hhi⟩ := tdiv_NSINMS_close (finish.tv_nsec - start.tv_nsec)
  unfold CalcTimespecDiffMs
  dsimp only
  generalize Int.tdiv (finish.tv_nsec - start.tv_nsec) NSINMS = q at hlo hhi ⊢
  unfold Timespec.ns at hle hs₄ hf₄ ⊢
  unfold NSINMS at hlo hhi ⊢
  -- neither of the two sums leaves the range of a `size_t`
  have hsum : toSizeT (toSizeT ((finish.tv_sec - start.tv_sec) * MSINSEC) + q) =
      (finish.tv_sec - start.tv_sec) * 1000 + q := by
    unfold toSizeT MSINSEC
    omega
  rw [hsum]
  omega

/-! ### One call -/

namespace InteractionHandler

/-- When the interaction in progress ends, in nanoseconds. -/
def coverageEnd (h : InteractionHandler) : ℤ := h.mLastTimespec.ns + h.mDurationMs * NSINMS

/-- An interaction is in progress. -/
def Active (h : InteractionHandler) : Prop := h.mState = .INTERACTION ∨ h.mState = .WAITING

variable {h : InteractionHandler} {p : Properties} {duration : ℤ} {now : Timespec}

theorem Active.ne_idle (hactive : h.Active) : h.mState ≠ .IDLE := by
  rcases hactive with hstate | hstate <;> simp [hstate]

theorem Active.initialized (hactive : h.Active) : h.mState ≠ .UNINITIALIZED := by
  rcases hactive with hstate | hstate <;> simp [hstate]

/-- What is compared, if the difference of the durations is an `int`. -/
theorem covers_iff (now : Timespec) {finalDuration : ℤ} (hactive : h.Active)
    (hdiff : h.mDurationMs - finalDuration < 2 ^ 31) :
    h.covers finalDuration now = true ↔ finalDuration ≤ h.mDurationMs ∧
      CalcTimespecDiffMs h.mLastTimespec now ≤ h.mDurationMs - finalDuration := by
  unfold covers
  rw [decide_eq_true_iff, and_iff_right hactive.ne_idle]
  refine and_congr_right fun hle => ?_
  rw [toInt32_eq (by omega) hdiff, toSizeT, Int.emod_eq_of_lt (by omega) (by omega)]

/-- **One call.**  Afterwards the interaction in progress ends at most a millisecond too early for it, and
not earlier than before. -/
theorem Acquire_coverage (hidle : p.kDisplayIdleSupport = true) (hactive : h.Active)
    (hlast : h.mLastTimespec.Monotonic) (hnow : now.Monotonic) (hle : h.mLastTimespec.ns ≤ now.ns)
    (hdiff : h.mDurationMs - p.finalDuration duration < 2 ^ 31) :
    now.ns + p.finalDuration duration * NSINMS - NSINMS < (h.Acquire p duration now).coverageEnd ∧
      h.coverageEnd ≤ (h.Acquire p duration now).coverageEnd := by
  obtain ⟨-, hlo, hhi⟩ := CalcTimespecDiffMs_close hlast hnow hle
  have hcovers := covers_iff now hactive hdiff
  unfold NSINMS at hlo hhi
  cases hcov : h.covers (p.finalDuration duration) now with
  | true =>
      obtain ⟨-, helapsed⟩ := hcovers.1 hcov
      rw [Acquire_covered hidle hactive.initialized hcov]
      refine ⟨?_, Int.le_refl _⟩
      unfold coverageEnd NSINMS
      omega
  | false =>
      have hnot : ¬ (p.finalDuration duration ≤ h.mDurationMs ∧
          CalcTimespecDiffMs h.mLastTimespec now ≤ h.mDurationMs - p.finalDuration duration) := by
        rw [← hcovers, hcov]
        exact Bool.false_ne_true
      rw [Acquire_taken hidle hactive.initialized hcov]
      unfold coverageEnd NSINMS
      dsimp only
      omega

end InteractionHandler

/-! ### Durations whose differences are `int`s -/

namespace Properties

variable {p : Properties}

/-- The properties are of type `uint32_t`. -/
structure Unsigned (p : Properties) : Prop where
  min_nonneg : 0 ≤ p.kMinDurationMs
  min_lt : p.kMinDurationMs < 2 ^ 32
  max_nonneg : 0 ≤ p.kMaxDurationMs
  max_lt : p.kMaxDurationMs < 2 ^ 32
  offset_nonneg : 0 ≤ p.kDurationOffsetMs
  offset_lt : p.kDurationOffsetMs < 2 ^ 32

/-- The bounds become `int`s of the same sign, or, if the lower bound is the larger one, they are so far
apart that the `int`s are close. -/
def Comparable (p : Properties) : Prop :=
  (p.kMinDurationMs < 2 ^ 31 ↔ p.kMaxDurationMs < 2 ^ 31) ∨
    2 ^ 31 < p.kMinDurationMs - p.kMaxDurationMs

instance (p : Properties) : Decidable p.Comparable := by
  unfold Comparable
  infer_instance

/-- The duration that is used, as an unsigned number, for an unsigned sum. -/
def clampUnsigned (p : Properties) (x : ℤ) : ℤ :=
  if x > p.kMaxDurationMs then p.kMaxDurationMs
  else if x > p.kMinDurationMs then x
  else p.kMinDurationMs

theorem finalDuration_eq (p : Properties) (duration : ℤ) :
    p.finalDuration duration =
      toInt32 (p.clampUnsigned (toUInt32 (duration + p.kDurationOffsetMs))) := by
  unfold finalDuration clampUnsigned
  dsimp only
  rw [toUInt32_toInt32, toUInt32_toUInt32]
  split
  · rfl
  · split
    · rfl
    · rfl

theorem finalDuration_bounds (p : Properties) (duration : ℤ) :
    -2 ^ 31 ≤ p.finalDuration duration ∧ p.finalDuration duration < 2 ^ 31 := by
  rw [finalDuration_eq]
  exact toInt32_bounds _

/-- Every unsigned number is the sum for some duration. -/
theorem exists_duration (p : Properties) {x : ℤ} (hlo : 0 ≤ x) (hhi : x < 2 ^ 32) :
    ∃ duration, (-2 ^ 31 ≤ duration ∧ duration < 2 ^ 31) ∧
      p.finalDuration duration = toInt32 (p.clampUnsigned x) := by
  refine ⟨toInt32 (x - p.kDurationOffsetMs), toInt32_bounds _, ?_⟩
  have hsum : toUInt32 (toInt32 (x - p.kDurationOffsetMs) + p.kDurationOffsetMs) = x := by
    unfold toUInt32 toInt32
    rw [Int.bmod_def]
    omega
  rw [finalDuration_eq, hsum]

/-- The `int` that an unsigned number becomes. -/
theorem toInt32_cases {x : ℤ} (hlo : 0 ≤ x) (hhi : x < 2 ^ 32) :
    (x < 2 ^ 31 ∧ toInt32 x = x) ∨ (2 ^ 31 ≤ x ∧ toInt32 x = x - 2 ^ 32) := by
  unfold toInt32
  rw [Int.bmod_def]
  omega

/-- The duration is one of the bounds or lies between them. -/
theorem clampUnsigned_cases (p : Properties) (x : ℤ) :
    p.clampUnsigned x = p.kMinDurationMs ∨ p.clampUnsigned x = p.kMaxDurationMs ∨
      (p.kMinDurationMs < p.clampUnsigned x ∧ p.clampUnsigned x ≤ p.kMaxDurationMs) := by
  unfold clampUnsigned
  split
  · exact Or.inr (Or.inl rfl)
  · split
    · omega
    · exact Or.inl rfl

theorem clampUnsigned_bounds (hp : p.Unsigned) (x : ℤ) :
    0 ≤ p.clampUnsigned x ∧ p.clampUnsigned x < 2 ^ 32 := by
  obtain ⟨hmin, hmin', hmax, hmax', -, -⟩ := hp
  rcases p.clampUnsigned_cases x with h | h | h <;> omega

/-- The difference of two durations is an `int`. -/
theorem Comparable.sub_lt (hc : p.Comparable) (hp : p.Unsigned) (duration duration' : ℤ) :
    p.finalDuration duration - p.finalDuration duration' < 2 ^ 31 := by
  rw [finalDuration_eq, finalDuration_eq]
  generalize toUInt32 (duration + p.kDurationOffsetMs) = x
  generalize toUInt32 (duration' + p.kDurationOffsetMs) = x'
  obtain ⟨hlo, hhi⟩ := clampUnsigned_bounds hp x
  obtain ⟨hlo', hhi'⟩ := clampUnsigned_bounds hp x'
  have hcases := p.clampUnsigned_cases x
  have hcases' := p.clampUnsigned_cases x'
  unfold Comparable at hc
  rcases toInt32_cases hlo hhi with ⟨hx, heq⟩ | ⟨hx, heq⟩ <;>
    rcases toInt32_cases hlo' hhi' with ⟨hx', heq'⟩ | ⟨hx', heq'⟩ <;> rw [heq, heq'] <;> omega

/-- Otherwise there are two durations whose difference is none. -/
theorem exists_sub_ge (hp : p.Unsigned) (hc : ¬ p.Comparable) : ∃ duration duration',
    (-2 ^ 31 ≤ duration ∧ duration < 2 ^ 31) ∧ (-2 ^ 31 ≤ duration' ∧ duration' < 2 ^ 31) ∧
      2 ^ 31 ≤ p.finalDuration duration - p.finalDuration duration' := by
  obtain ⟨hmin, hmin', hmax, hmax', -, -⟩ := hp
  have hsums : ∃ x x', (0 ≤ x ∧ x < 2 ^ 32) ∧ (0 ≤ x' ∧ x' < 2 ^ 32) ∧
      2 ^ 31 ≤ toInt32 (p.clampUnsigned x) - toInt32 (p.clampUnsigned x') := by
    unfold Comparable at hc
    by_cases hsmall : p.kMinDurationMs < 2 ^ 31
    · -- the largest and the smallest `int` lie between the bounds
      refine ⟨2 ^ 31 - 1, 2 ^ 31, by omega, by omega, ?_⟩
      have hfirst : p.clampUnsigned (2 ^ 31 - 1) = 2 ^ 31 - 1 := by
        unfold clampUnsigned
        rw [if_neg (by omega)]
        split <;> omega
      have hsecond : p.clampUnsigned (2 ^ 31) = 2 ^ 31 := by
        unfold clampUnsigned
        rw [if_neg (by omega), if_pos (by omega)]
      rw [hfirst, hsecond]
      decide
    · refine ⟨p.kMaxDurationMs + 1, 0, by omega, by omega, ?_⟩
      have hfirst : p.clampUnsigned (p.kMaxDurationMs + 1) = p.kMaxDurationMs := if_pos (by omega)
      have hsecond : p.clampUnsigned 0 = p.kMinDurationMs := by
        unfold clampUnsigned
        rw [if_neg (by omega), if_neg (by omega)]
      rw [hfirst, hsecond]
      rcases toInt32_cases hmax hmax' with h | h <;> rcases toInt32_cases hmin hmin' with h' | h' <;>
        omega
  obtain ⟨x, x', hx, hx', hge⟩ := hsums
  obtain ⟨duration, hd, heq⟩ := p.exists_duration hx.1 hx.2
  obtain ⟨duration', hd', heq'⟩ := p.exists_duration hx'.1 hx'.2
  refine ⟨duration, duration', hd, hd', ?_⟩
  rw [heq, heq']
  exact hge

end Properties

/-! ### Whole runs -/

/-- The calls of `Acquire` in a run: their durations are `int32_t`s, and each is made at a time of the
clock that is not before that of the previous one. -/
structure InOrder (ls : List Label) : Prop where
  duration : ∀ d t, Label.acquire d t ∈ ls → -2 ^ 31 ≤ d ∧ d < 2 ^ 31
  clock : ∀ d t, Label.acquire d t ∈ ls → t.Monotonic
  order : ls.Pairwise fun l l' => ∀ d t d' t', l = .acquire d t → l' = .acquire d' t' → t.ns ≤ t'.ns

variable {p : Properties} {h h' : InteractionHandler}

/-- `Init` starts no interaction. -/
theorem Init_active {openFile : String → ℤ} {mEventFd : ℤ}
    (hactive : (h.Init openFile mEventFd).2.Active) : (h.Init openFile mEventFd).2 = h := by
  unfold Init at hactive ⊢
  split at hactive
  · next hinit => rw [if_pos hinit]
  · next hinit =>
      split at hactive
      · exact absurd (not_not.1 hinit) hactive.initialized
      · split at hactive
        · exact absurd (not_not.1 hinit) hactive.initialized
        · exact absurd rfl hactive.ne_idle

/-- A call takes up an interaction, or leaves the one in progress as it is. -/
theorem Acquire_active (duration : ℤ) (cur : Timespec) (hactive : (h.Acquire p duration cur).Active) :
    (h.Active ∧ (h.Acquire p duration cur).mDurationMs = h.mDurationMs ∧
        (h.Acquire p duration cur).mLastTimespec = h.mLastTimespec) ∨
      (p.kDisplayIdleSupport = true ∧
        (h.Acquire p duration cur).mDurationMs = p.finalDuration duration ∧
        (h.Acquire p duration cur).mLastTimespec = cur) := by
  by_cases hoff : p.kDisplayIdleSupport = false ∨ h.mState = .UNINITIALIZED
  · rw [Acquire_fallback hoff] at hactive ⊢
    exact Or.inl ⟨hactive, rfl, rfl⟩
  · obtain ⟨hidle, hinit⟩ := not_or.1 hoff
    rw [Bool.not_eq_false] at hidle
    cases hcov : h.covers (p.finalDuration duration) cur with
    | true =>
        rw [Acquire_covered hidle hinit hcov] at hactive ⊢
        exact Or.inl ⟨hactive, rfl, rfl⟩
    | false =>
        rw [Acquire_taken hidle hinit hcov]
        exact Or.inr ⟨hidle, rfl, rfl⟩

/-- The thread leaves the condition variable with the interaction in progress. -/
theorem leaveCond_active (hne : h.mState ≠ .IDLE) (hactive : h.leaveCond.Active) :
    h.Active ∧ h.leaveCond.mDurationMs = h.mDurationMs ∧ h.leaveCond.mLastTimespec = h.mLastTimespec := by
  unfold leaveCond at hactive ⊢
  split at hactive
  · next hfresh => exact absurd hfresh hactive.initialized
  · next hinit =>
      rw [if_neg hinit]
      refine ⟨?_, rfl, rfl⟩
      cases hstate : h.mState with
      | UNINITIALIZED => exact absurd hstate hinit
      | IDLE => exact absurd hstate hne
      | INTERACTION => exact Or.inl hstate
      | WAITING => exact Or.inr hstate

/-- Where an interaction in progress comes from: it was in progress before the step, or the step took it
up. -/
theorem step_active {l : Label} (hstep : step p l h = some h') (hactive : h'.Active) :
    (h.Active ∧ h'.mDurationMs = h.mDurationMs ∧ h'.mLastTimespec = h.mLastTimespec) ∨
      ∃ d t, l = .acquire d t ∧ p.kDisplayIdleSupport = true ∧
        h'.mDurationMs = p.finalDuration d ∧ h'.mLastTimespec = t := by
  cases l with
  | init openFile mEventFd =>
      simp only [step, Option.ite_none_left_eq_some, Option.some.injEq] at hstep
      obtain ⟨-, rfl⟩ := hstep
      have hsame := Init_active hactive
      rw [hsame] at hactive ⊢
      exact Or.inl ⟨hactive, rfl, rfl⟩
  | exit =>
      obtain rfl := Option.some.inj hstep
      unfold Exit at hactive
      split at hactive
      · next hfresh => exact absurd hfresh hactive.initialized
      · exact absurd rfl hactive.initialized
  | acquire duration cur =>
      obtain rfl := Option.some.inj hstep
      exact (Acquire_active duration cur hactive).imp_right fun h => ⟨duration, cur, rfl, h⟩
  | leaveCond =>
      simp only [step, Option.ite_none_right_eq_some, Option.some.injEq] at hstep
      obtain ⟨⟨-, hne⟩, rfl⟩ := hstep
      exact Or.inl (leaveCond_active hne hactive)
  | wait e =>
      obtain ⟨point, -, rfl⟩ := Option.map_eq_some_iff.1 hstep
      exact Or.inl ⟨hactive, rfl, rfl⟩
  | release =>
      simp only [step, Option.ite_none_right_eq_some, Option.some.injEq] at hstep
      obtain ⟨-, rfl⟩ := hstep
      unfold Release at hactive ⊢
      split at hactive
      · exact absurd rfl hactive.ne_idle
      · next hnot =>
          rw [if_neg hnot]
          exact Or.inl ⟨hactive, rfl, rfl⟩

/-- The interaction in progress, if there is one, was taken up by one of these calls. -/
def StartedBy (p : Properties) (ls : List Label) (h : InteractionHandler) : Prop :=
  h.Active → p.kDisplayIdleSupport = true ∧ ∃ d t, Label.acquire d t ∈ ls ∧
    h.mDurationMs = p.finalDuration d ∧ h.mLastTimespec = t

theorem StartedBy.next {ls : List Label} {l : Label} (hs : StartedBy p ls h) (hl : l ∈ ls)
    (hstep : step p l h = some h') : StartedBy p ls h' := by
  intro hactive
  rcases step_active hstep hactive with ⟨hbefore, hduration, htime⟩ | ⟨d, t, rfl, hidle, hduration, htime⟩
  · obtain ⟨hidle, d, t, hmem, hduration', htime'⟩ := hs hbefore
    exact ⟨hidle, d, t, hmem, hduration.trans hduration', htime.trans htime'⟩
  · exact ⟨hidle, d, t, hl, hduration, htime⟩

/-- **A run.** -/
theorem startedBy_run {ls : List Label} (hrun : Machine.run (step p) ls {} = some h) :
    StartedBy p ls h := by
  have hkeeps : ∀ (l : Label) (s s' : InteractionHandler), l ∈ ls → StartedBy p ls s →
      step p l s = some s' → StartedBy p ls s' := fun _ _ _ hl hs => hs.next hl
  have hinit : StartedBy p ls {} := fun hactive => absurd rfl hactive.initialized
  exact Machine.run_invariant hkeeps (fun _ hl => hl) hinit hrun

/-- The call of `Acquire` is covered: the interaction in progress ends at most a millisecond too early for
it, and not earlier than before. -/
def Covered (p : Properties) (d : ℤ) (now : Timespec) (h h' : InteractionHandler) : Prop :=
  now.ns + p.finalDuration d * NSINMS - NSINMS < h'.coverageEnd ∧ h.coverageEnd ≤ h'.coverageEnd

/-- All calls of `Acquire` that are made while an interaction is in progress are covered. -/
def AlwaysCovered (p : Properties) : Prop :=
  ∀ ls d now h h', InOrder (ls ++ [.acquire d now]) → Machine.run (step p) ls {} = some h → h.Active →
    step p (.acquire d now) h = some h' → Covered p d now h h'

theorem alwaysCovered_of_comparable (hp : p.Unsigned) (hc : p.Comparable) : AlwaysCovered p := by
  intro ls d now h h' hcalls hrun hactive hstep
  obtain ⟨hidle, d₀, t₀, hmem, hduration, htime⟩ := startedBy_run hrun hactive
  obtain rfl := Option.some.inj hstep
  have hlast : Label.acquire d now ∈ ls ++ [.acquire d now] :=
    List.mem_append_right _ List.mem_cons_self
  have hle : t₀.ns ≤ now.ns :=
    (List.pairwise_append.1 hcalls.order).2.2 _ hmem _ List.mem_cons_self d₀ t₀ d now rfl rfl
  refine Acquire_coverage hidle hactive ?_ (hcalls.clock d now hlast) ?_ ?_
  · rw [htime]
    exact hcalls.clock d₀ t₀ (List.mem_append_left _ hmem)
  · rw [htime]
    exact hle
  · rw [hduration]
    exact hc.sub_lt hp d₀ d

/-- A time 2 ^ 32 milliseconds after the first one. -/
def muchLater : Timespec := ⟨4294967, 296000000⟩

/-- Two durations whose difference is no `int`: however late the second call is made, it is skipped. -/
theorem covers_of_overflow {d d' : ℤ} (hge : 2 ^ 31 ≤ p.finalDuration d - p.finalDuration d')
    (hstate : h.mState = .INTERACTION) (hduration : h.mDurationMs = p.finalDuration d)
    (htime : h.mLastTimespec = {}) : h.covers (p.finalDuration d') muchLater = true := by
  have hlo := p.finalDuration_bounds d
  have hhi := p.finalDuration_bounds d'
  have hwrap : toInt32 (p.finalDuration d - p.finalDuration d') =
      p.finalDuration d - p.finalDuration d' - 2 ^ 32 := by
    rcases Properties.toInt32_cases (show 0 ≤ p.finalDuration d - p.finalDuration d' by omega)
      (by omega) with h | h <;> omega
  have helapsed : CalcTimespecDiffMs {} muchLater = 2 ^ 32 := by decide
  unfold covers
  rw [decide_eq_true_iff, hstate, hduration, htime, hwrap, helapsed]
  refine ⟨by decide, by omega, ?_⟩
  unfold toSizeT
  omega

theorem muchLater_monotonic : muchLater.Monotonic := by
  constructor <;> decide

theorem inOrder_overflow {d d' : ℤ} (hd : -2 ^ 31 ≤ d ∧ d < 2 ^ 31) (hd' : -2 ^ 31 ≤ d' ∧ d' < 2 ^ 31) :
    InOrder [initLabel, .acquire d {}, .acquire d' muchLater] where
  duration := by
    intro e t hmem
    simp only [initLabel, List.mem_cons, Label.acquire.injEq, reduceCtorEq, List.not_mem_nil,
      or_false, false_or] at hmem
    rcases hmem with ⟨rfl, -⟩ | ⟨rfl, -⟩
    · exact hd
    · exact hd'
  clock := by
    intro e t hmem
    simp only [initLabel, List.mem_cons, Label.acquire.injEq, reduceCtorEq, List.not_mem_nil,
      or_false, false_or] at hmem
    rcases hmem with ⟨-, rfl⟩ | ⟨-, rfl⟩
    · constructor <;> decide
    · exact muchLater_monotonic
  order := by
    have hzero : ({} : Timespec).ns ≤ muchLater.ns := by decide
    simp only [initLabel, List.pairwise_cons, List.mem_cons, List.not_mem_nil, or_false]
    refine ⟨?_, ?_, ?_⟩
    · intro l hl d t d' t' h
      simp at h
    · rintro l rfl e t e' t' h h'
      cases h
      cases h'
      exact hzero
    · exact ⟨fun l hl => absurd hl (by simp), List.Pairwise.nil⟩

/-- The handler after its first interaction. -/
def firstTaken (p : Properties) (d : ℤ) : InteractionHandler where
  mState := .INTERACTION
  mDurationMs := p.finalDuration d
  mThread := some .cond
  calls := [.doHint]

theorem run_firstTaken (hidle : p.kDisplayIdleSupport = true) (d : ℤ) :
    Machine.run (step p) [initLabel, .acquire d {}] {} = some (firstTaken p d) := by
  have hinit : step p initLabel {} = some { mState := .IDLE, mThread := some .cond } := rfl
  have htaken : InteractionHandler.covers (p.finalDuration d) {}
      { mState := .IDLE, mThread := some .cond } = false := by simp [covers]
  rw [Machine.run_cons, hinit, Option.bind_some, Machine.run_cons]
  exact congrArg some (Acquire_taken hidle (by simp) htaken)

/-- The run: the second interaction is skipped, long after the first one is over. -/
theorem not_alwaysCovered (hp : p.Unsigned) (hidle : p.kDisplayIdleSupport = true)
    (hc : ¬ p.Comparable) : ¬ AlwaysCovered p := by
  intro halways
  obtain ⟨d, d', hd, hd', hge⟩ := Properties.exists_sub_ge hp hc
  have hcov : (firstTaken p d).covers (p.finalDuration d') muchLater = true :=
    covers_of_overflow hge rfl rfl rfl
  have hskip := Acquire_covered hidle (show (firstTaken p d).mState ≠ .UNINITIALIZED by simp [firstTaken])
    hcov
  have hcovered := halways [initLabel, .acquire d {}] d' muchLater _ _ (inOrder_overflow hd hd')
    (run_firstTaken hidle d) (Or.inl rfl) (congrArg some hskip)
  have hlate := hcovered.1
  have hns : muchLater.ns = 2 ^ 32 * 1000000 := by decide
  unfold coverageEnd firstTaken NSINMS at hlate
  dsimp only at hlate
  have hzero : ({} : Timespec).ns = 0 := rfl
  have hbounds := p.finalDuration_bounds d
  have hbounds' := p.finalDuration_bounds d'
  omega

/-- **When every interaction is covered.**  In every run of the handler with calls of `Acquire` in order,
each call that is made while an interaction is in progress finds, or leaves, an end of the interaction that
is at most a millisecond too early for it, and does not move that end back: exactly if the two bounds are
such that a difference of durations is an `int`, or the handler takes up no interactions at all.  The
elapsed time is right to the millisecond, whatever the bounds. -/
theorem interaction_covered_iff (hp : p.Unsigned) :
    (AlwaysCovered p ↔ p.kDisplayIdleSupport = false ∨ p.Comparable) ∧
      ∀ start finish : Timespec, start.Monotonic → finish.Monotonic → start.ns ≤ finish.ns →
        0 ≤ CalcTimespecDiffMs start finish ∧
          finish.ns - start.ns - NSINMS < CalcTimespecDiffMs start finish * NSINMS ∧
          CalcTimespecDiffMs start finish * NSINMS < finish.ns - start.ns + NSINMS := by
  refine ⟨⟨fun halways => ?_, ?_⟩, fun start finish => CalcTimespecDiffMs_close⟩
  · cases hidle : p.kDisplayIdleSupport with
    | false => exact Or.inl rfl
    | true =>
        refine Or.inr ?_
        by_contra hc
        exact not_alwaysCovered hp hidle hc halways
  · rintro (hidle | hc)
    · intro ls d now h h' _ hrun hactive _
      have hsupport := (startedBy_run hrun hactive).1
      rw [hidle] at hsupport
      cases hsupport
    · exact alwaysCovered_of_comparable hp hc

theorem unsigned_default : ({} : Properties).Unsigned := by
  constructor <;> decide

/-- With the defaults every interaction is covered. -/
theorem interaction_covered_default :
    ({} : Properties).Unsigned ∧ AlwaysCovered {} ∧
      CalcTimespecDiffMs ⟨1, 999999999⟩ ⟨3, 1⟩ = 1001 :=
  ⟨unsigned_default, (interaction_covered_iff unsigned_default).1.2 (Or.inr (by decide)), by decide⟩

/-- The properties of a device that bounds the durations by nothing. -/
def unbounded : Properties where
  kMinDurationMs := 0
  kMaxDurationMs := 4294967295
  kDurationOffsetMs := 0

/-- The longest interaction, and one of minus one millisecond much later: the second one is skipped, though
the first one ended more than a millisecond before. -/
theorem interaction_not_covered :
    unbounded.Unsigned ∧
      ∃ h h', InOrder [initLabel, .acquire 2147483647 {}, .acquire (-1) muchLater] ∧
        Machine.run (step unbounded) [initLabel, .acquire 2147483647 {}] {} = some h ∧ h.Active ∧
        step unbounded (.acquire (-1) muchLater) h = some h' ∧
        ¬ Covered unbounded (-1) muchLater h h' := by
  refine ⟨by constructor <;> decide, _, _, inOrder_overflow (by decide) (by decide), rfl, Or.inl rfl, rfl,
    ?_⟩
  intro hcovered
  exact absurd hcovered.1 (by decide)

end DispPower
