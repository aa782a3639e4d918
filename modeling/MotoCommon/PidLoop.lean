/-
**The sums of the controller.**

`convertWorkDurationToBoostByPid` goes once over the reported durations and fills three windows of
different lengths at the same time: the sum of the errors, the saturated integral and the sum of the
differences of neighbouring errors.  The loop starts where the longest window starts, and takes the
error of the sample before from the last report.  This module says what each of the sums is in the
end, window by window.

Main definitions:

* `Adpf.pidError` — the error of one duration, in units of 100 µs;
* `Adpf.saturate` — one step of the integral;
* `Adpf.pidRounds` — the rounds of the loop over some of the samples.

Main results:

* `Adpf.pidRounds_err_sum`, `Adpf.pidRounds_integral_error`, `Adpf.pidRounds_previous_error` — what
  the rounds leave in each of the sums, by induction on the samples;
* `Adpf.pidRounds_derivative_sum` — the differences **telescope** from the start of their window on;
* `Adpf.pid_closed_form` — **the whole loop**, for every profile, descriptor and report.
-/

import MotoCommon.PowerHintSession

set_option autoImplicit false

namespace Adpf

/-- The error of a duration against the target. -/
def pidError (targetDurationNanos : ℤ) (duration : WorkDuration) : ℤ :=
  ns_to_100us (duration.durationNanos - targetDurationNanos)

/-- One step of the integral, kept between its limits. -/
def saturate (lo hi dt integral_error error : ℤ) : ℤ := max lo (min hi (integral_error + error * dt))

theorem saturate_bounds {lo hi : ℤ} (h : lo ≤ hi) (dt x error : ℤ) :
    lo ≤ saturate lo hi dt x error ∧ saturate lo hi dt x error ≤ hi := by
  unfold saturate
  omega

/-- The integral is between its limits once it has made a step. -/
theorem foldl_saturate_bounds {lo hi : ℤ} (h : lo ≤ hi) (dt : ℤ) {errors : List ℤ}
    (hne : errors ≠ []) (x : ℤ) :
    lo ≤ errors.foldl (saturate lo hi dt) x ∧ errors.foldl (saturate lo hi dt) x ≤ hi := by
  obtain ⟨init, last, rfl⟩ := List.eq_nil_or_concat errors |>.resolve_left hne
  rw [List.concat_eq_append, List.foldl_append, List.foldl_cons, List.foldl_nil]
  exact saturate_bounds h dt _ last

/-! ### The windows -/

theorem windowStart_lt (samplingWindow : ℕ) {length : ℕ} (h : 1 ≤ length) :
    windowStart samplingWindow length < length := by
  unfold windowStart
  split <;> omega

/-! ### The rounds -/

section Rounds

variable (adpfConfig : AdpfConfig) (targetDurationNanos : ℤ) (p_start i_start d_start : ℕ)

/-- The rounds of the loop over samples that are numbered from `i` on. -/
def pidRounds (i : ℕ) (samples : List WorkDuration) (s : PidSums) : PidSums :=
  (samples.zipIdx i).foldl (pidStep adpfConfig targetDurationNanos p_start i_start d_start) s

theorem pidRounds_cons (i : ℕ) (x : WorkDuration) (samples : List WorkDuration) (s : PidSums) :
    pidRounds adpfConfig targetDurationNanos p_start i_start d_start i (x :: samples) s =
      pidRounds adpfConfig targetDurationNanos p_start i_start d_start (i + 1) samples
        (pidStep adpfConfig targetDurationNanos p_start i_start d_start s (x, i)) := by
  rw [pidRounds, List.zipIdx_cons, List.foldl_cons]
  rfl

theorem pidRounds_append (i : ℕ) (xs ys : List WorkDuration) (s : PidSums) :
    pidRounds adpfConfig targetDurationNanos p_start i_start d_start i (xs ++ ys) s =
      pidRounds adpfConfig targetDurationNanos p_start i_start d_start (i + xs.length) ys
        (pidRounds adpfConfig targetDurationNanos p_start i_start d_start i xs s) := by
  induction xs generalizing i s with
  | nil => rfl
  | cons x xs ih =>
      rw [List.cons_append, pidRounds_cons, ih, pidRounds_cons, List.length_cons,
        Nat.add_right_comm, Nat.add_assoc]

/-- The errors are summed from the start of their window on. -/
theorem pidRounds_err_sum (i : ℕ) (samples : List WorkDuration) (s : PidSums) :
    (pidRounds adpfConfig targetDurationNanos p_start i_start d_start i samples s).err_sum =
      s.err_sum + ((samples.map (pidError targetDurationNanos)).drop (p_start - i)).sum := by
  induction samples generalizing i s with
  | nil =>
      rw [List.map_nil, List.drop_nil, List.sum_nil, Int.add_zero]
      rfl
  | cons x samples ih =>
      rw [pidRounds_cons, ih, List.map_cons]
      by_cases hi : p_start ≤ i
      · have hsum : (pidStep adpfConfig targetDurationNanos p_start i_start d_start s
            (x, i)).err_sum = s.err_sum + pidError targetDurationNanos x := if_pos hi
        rw [hsum, Nat.sub_eq_zero_of_le hi, Nat.sub_eq_zero_of_le (Nat.le_succ_of_le hi),
          List.drop_zero, List.drop_zero, List.sum_cons, Int.add_assoc]
      · have hsum : (pidStep adpfConfig targetDurationNanos p_start i_start d_start s
            (x, i)).err_sum = s.err_sum := if_neg hi
        -- before the window: the sample is among those that are dropped
        have hskip : p_start - i = p_start - (i + 1) + 1 := by omega
        rw [hsum, hskip, List.drop_succ_cons]

/-- The integral makes its steps from the start of its window on. -/
theorem pidRounds_integral_error (i : ℕ) (samples : List WorkDuration) (s : PidSums) :
    (pidRounds adpfConfig targetDurationNanos p_start i_start d_start i samples s).integral_error =
      ((samples.map (pidError targetDurationNanos)).drop (i_start - i)).foldl
        (saturate adpfConfig.pidILowDivI adpfConfig.pidIHighDivI (ns_to_100us targetDurationNanos))
        s.integral_error := by
  induction samples generalizing i s with
  | nil =>
      rw [List.map_nil, List.drop_nil, List.foldl_nil]
      rfl
  | cons x samples ih =>
      rw [pidRounds_cons, ih, List.map_cons]
      by_cases hi : i_start ≤ i
      · have hstep : (pidStep adpfConfig targetDurationNanos p_start i_start d_start s
            (x, i)).integral_error = saturate adpfConfig.pidILowDivI adpfConfig.pidIHighDivI
              (ns_to_100us targetDurationNanos) s.integral_error
              (pidError targetDurationNanos x) := if_pos hi
        rw [hstep, Nat.sub_eq_zero_of_le hi, Nat.sub_eq_zero_of_le (Nat.le_succ_of_le hi),
          List.drop_zero, List.drop_zero, List.foldl_cons]
      · have hstep : (pidStep adpfConfig targetDurationNanos p_start i_start d_start s
            (x, i)).integral_error = s.integral_error := if_neg hi
        have hskip : i_start - i = i_start - (i + 1) + 1 := by omega
        rw [hstep, hskip, List.drop_succ_cons]

/-- The error that is kept is that of the last sample. -/
theorem pidRounds_previous_error (i : ℕ) (samples : List WorkDuration) (s : PidSums) :
    (pidRounds adpfConfig targetDurationNanos p_start i_start d_start i samples s).previous_error =
      ((samples.map (pidError targetDurationNanos)).getLast?).getD s.previous_error := by
  induction samples generalizing i s with
  | nil => rfl
  | cons x samples ih =>
      rw [pidRounds_cons, ih, List.map_cons, List.getLast?_cons, Option.getD_some]
      rfl

/-- Before its window the sum of the differences does not change. -/
theorem pidRounds_derivative_sum_before (i : ℕ) (samples : List WorkDuration) (s : PidSums)
    (h : i + samples.length ≤ d_start) :
    (pidRounds adpfConfig targetDurationNanos p_start i_start d_start i samples s).derivative_sum =
      s.derivative_sum := by
  induction samples generalizing i s with
  | nil => rfl
  | cons x samples ih =>
      rw [List.length_cons] at h
      rw [pidRounds_cons, ih (i + 1) _ (by omega)]
      exact if_neg (by omega)

/-- In its window it is the last error less the one before the window. -/
theorem pidRounds_derivative_sum_within (i : ℕ) (samples : List WorkDuration) (s : PidSums)
    (h : d_start ≤ i) :
    (pidRounds adpfConfig targetDurationNanos p_start i_start d_start i samples s).derivative_sum =
      s.derivative_sum +
        ((pidRounds adpfConfig targetDurationNanos p_start i_start d_start i samples s).previous_error
          - s.previous_error) := by
  induction samples generalizing i s with
  | nil =>
      rw [pidRounds, List.zipIdx_nil, List.foldl_nil, Int.sub_self, Int.add_zero]
  | cons x samples ih =>
      have hstep : (pidStep adpfConfig targetDurationNanos p_start i_start d_start s
          (x, i)).derivative_sum = s.derivative_sum +
            ((pidStep adpfConfig targetDurationNanos p_start i_start d_start s
              (x, i)).previous_error - s.previous_error) := if_pos h
      rw [pidRounds_cons, ih (i + 1) _ (by omega), hstep]
      omega

/-- **The differences telescope**: what is left is the last error, less the error of the sample
before the window, or the one that was kept when the window is where the rounds start. -/
theorem pidRounds_derivative_sum (i : ℕ) (samples : List WorkDuration) (s : PidSums)
    (h : i ≤ d_start) (h' : d_start ≤ i + samples.length) :
    (pidRounds adpfConfig targetDurationNanos p_start i_start d_start i samples s).derivative_sum =
      s.derivative_sum +
        ((pidRounds adpfConfig targetDurationNanos p_start i_start d_start i samples s).previous_error
          - (((samples.take (d_start - i)).map (pidError targetDurationNanos)).getLast?).getD
              s.previous_error) := by
  have hlen : (samples.take (d_start - i)).length = d_start - i := by
    rw [List.length_take]
    omega
  -- split where the window starts: nothing is summed before, and the sum telescopes after
  have hsplit := pidRounds_append adpfConfig targetDurationNanos p_start i_start d_start i
    (samples.take (d_start - i)) (samples.drop (d_start - i)) s
  rw [List.take_append_drop, hlen] at hsplit
  rw [hsplit, pidRounds_derivative_sum_within _ _ _ _ _ _ _ _ (by omega),
    pidRounds_derivative_sum_before _ _ _ _ _ _ _ _ (by omega), pidRounds_previous_error _ _ _ _ _ i]

end Rounds

/-! ### The whole loop -/

theorem drop_zipIdx {α : Type} (xs : List α) (i n : ℕ) :
    (xs.zipIdx i).drop n = (xs.drop n).zipIdx (i + n) := by
  induction xs generalizing i n with
  | nil => rw [List.zipIdx_nil, List.drop_nil, List.drop_nil, List.zipIdx_nil]
  | cons x xs ih =>
      cases n with
      | zero => rfl
      | succ n =>
          rw [List.zipIdx_cons, List.drop_succ_cons, ih, List.drop_succ_cons, Nat.add_right_comm,
            Nat.add_assoc]

/-- The loop makes the rounds from the start of the longest window on. -/
theorem pidLoop_eq_pidRounds (adpfConfig : AdpfConfig) (desc : AppHintDesc)
    (actualDurations : List WorkDuration) {p q d s : ℕ}
    (hp : windowStart adpfConfig.mSamplingWindowP actualDurations.length = p)
    (hq : windowStart adpfConfig.mSamplingWindowI actualDurations.length = q)
    (hd : windowStart adpfConfig.mSamplingWindowD actualDurations.length = d)
    (hs : min p (min q d) = s) :
    pidLoop adpfConfig desc actualDurations =
      pidRounds adpfConfig desc.targetNs p q d s (actualDurations.drop s)
        { integral_error := desc.integral_error, previous_error := desc.previous_error } := by
  subst hp hq hd hs
  rw [pidLoop, pidRounds, drop_zipIdx, Nat.zero_add]

/-- The last error, from wherever the rounds start. -/
theorem getLast?_drop_getD {errors : List ℤ} {s : ℕ} (h : s < errors.length) (x : ℤ) :
    ((errors.drop s).getLast?).getD x = errors.getD (errors.length - 1) 0 := by
  rw [List.getLast?_drop, if_neg (by omega), List.getLast?_eq_getElem?, List.getD_eq_getElem?_getD,
    List.getElem?_eq_getElem (by omega), Option.getD_some, Option.getD_some]

/-- The error before a window that starts after the rounds do. -/
theorem getLast?_take_drop_getD {errors : List ℤ} {s d : ℕ} (h : d < errors.length) (x : ℤ) :
    ((((errors.drop s).take (d - s))).getLast?).getD x =
      if s < d then errors.getD (d - 1) 0 else x := by
  by_cases hd : s < d
  · have hidx : s + (d - s - 1) = d - 1 := by omega
    rw [if_pos hd, List.getLast?_take, if_neg (by omega), List.getElem?_drop, hidx,
      List.getD_eq_getElem?_getD, List.getElem?_eq_getElem (by omega), Option.some_or,
      Option.getD_some, Option.getD_some]
  · have hzero : d - s = 0 := by omega
    rw [if_neg hd, hzero, List.take_zero, List.getLast?_nil, Option.getD_none]

/-- **The accumulation of the controller in closed form.**  The sums of
`convertWorkDurationToBoostByPid` are those of the errors `e` over their windows; the differences
leave the last error less the one before their window; and what is reported before all the windows
has no influence. -/
theorem pid_closed_form (adpfConfig : AdpfConfig) (heuristicBoostActive : Bool) (desc : AppHintDesc)
    (ds : List WorkDuration) (hn : 1 ≤ ds.length)
    (hlim : adpfConfig.pidILowDivI ≤ adpfConfig.pidIHighDivI) :
    let n := ds.length
    let T := desc.targetNs
    let dt := Int.tdiv T 100000
    let e := ds.map fun x => Int.tdiv (x.durationNanos - T) 100000
    let start := fun w : ℕ => if w = 0 ∨ n < w then 0 else n - w
    let p := start adpfConfig.mSamplingWindowP
    let q := start adpfConfig.mSamplingWindowI
    let d := start adpfConfig.mSamplingWindowD
    let s := min p (min q d)
    let sums := pidLoop adpfConfig desc ds
    let desc' := (convertWorkDurationToBoostByPid adpfConfig heuristicBoostActive desc ds).2
    sums.err_sum = (e.drop p).sum ∧
    sums.derivative_sum =
      e.getD (n - 1) 0 - (if s < d then e.getD (d - 1) 0 else desc.previous_error) ∧
    desc'.previous_error = e.getD (n - 1) 0 ∧
    desc'.integral_error = (e.drop q).foldl
      (fun x error => max adpfConfig.pidILowDivI (min adpfConfig.pidIHighDivI (x + error * dt)))
      desc.integral_error ∧
    adpfConfig.pidILowDivI ≤ desc'.integral_error ∧
    desc'.integral_error ≤ adpfConfig.pidIHighDivI ∧
    (∀ ds', ds'.length = n → ds'.drop s = ds.drop s →
      pidLoop adpfConfig desc ds' = sums ∧
      convertWorkDurationToBoostByPid adpfConfig heuristicBoostActive desc ds' =
        convertWorkDurationToBoostByPid adpfConfig heuristicBoostActive desc ds) ∧
    1 ≤ n - p ∧ 1 ≤ n - d := by
  intro n T dt e start p q d s sums desc'
  have hp : p < n := windowStart_lt _ hn
  have hq : q < n := windowStart_lt _ hn
  have hd : d < n := windowStart_lt _ hn
  have hlen : e.length = n := List.length_map _
  have hsums : sums = pidRounds adpfConfig T p q d s (ds.drop s)
      { integral_error := desc.integral_error, previous_error := desc.previous_error } :=
    pidLoop_eq_pidRounds adpfConfig desc ds rfl rfl rfl rfl
  have herr : ((ds.drop s).map (pidError T)) = e.drop s := List.map_drop
  have hprev : sums.previous_error = e.getD (n - 1) 0 := by
    rw [hsums, pidRounds_previous_error, herr, getLast?_drop_getD (by omega), hlen]
  have hint : sums.integral_error = (e.drop q).foldl
      (saturate adpfConfig.pidILowDivI adpfConfig.pidIHighDivI dt) desc.integral_error := by
    have hskip : s + (q - s) = q := by omega
    rw [hsums, pidRounds_integral_error, herr, List.drop_drop, hskip]
    rfl
  have hbounds : adpfConfig.pidILowDivI ≤ sums.integral_error ∧
      sums.integral_error ≤ adpfConfig.pidIHighDivI := by
    rw [hint]
    -- the window of the integral is never empty
    refine foldl_saturate_bounds hlim dt (fun hnil => ?_) _
    rw [List.drop_eq_nil_iff] at hnil
    omega
  refine ⟨?_, ?_, hprev, hint, hbounds.1, hbounds.2, ?_, by omega, by omega⟩
  · have hskip : s + (p - s) = p := by omega
    rw [hsums, pidRounds_err_sum, herr, List.drop_drop, hskip, Int.zero_add]
  · have hds : (ds.drop s).length = n - s := List.length_drop
    have htele := pidRounds_derivative_sum adpfConfig T p q d s (ds.drop s)
      { integral_error := desc.integral_error, previous_error := desc.previous_error }
      (by omega) (by omega)
    rw [← hsums, hprev, Int.zero_add, List.map_take, herr, getLast?_take_drop_getD (by omega)]
      at htele
    exact htele
  · intro ds' hds' hdrop
    have hsame : pidLoop adpfConfig desc ds' = sums := by
      rw [hsums, ← hdrop]
      exact pidLoop_eq_pidRounds adpfConfig desc ds' (by rw [hds']; rfl) (by rw [hds']; rfl)
        (by rw [hds']; rfl) rfl
    refine ⟨hsame, ?_⟩
    rw [convertWorkDurationToBoostByPid, convertWorkDurationToBoostByPid, hsame, hds']

/-- Five reports under a profile whose windows have three different starts. -/
theorem pid_closed_form_windows :
    let c := { makeMockConfig with
      mSamplingWindowP := 2, mSamplingWindowI := 9, mSamplingWindowD := 1
      pidILowDivI := -500, pidIHighDivI := 900 }
    let desc : AppHintDesc :=
      { sessionId := 1, tgid := 10, uid := 10000, targetNs := 10000000, thread_ids := [7]
        integral_error := 7, previous_error := -3 }
    let ds : List WorkDuration :=
      [9000000, 15000000, 30000000, 11000000, 12000000].map fun d =>
        { timeStampNanos := 0, durationNanos := d }
    (pidLoop c desc ds).err_sum = 30 ∧ (pidLoop c desc ds).derivative_sum = 10 ∧
    (convertWorkDurationToBoostByPid c false desc ds).2.integral_error = 900 := by
  intro c desc ds
  have h := pid_closed_form c false desc ds (by decide) (by decide)
  exact ⟨h.1, h.2.1, h.2.2.2.1⟩

end Adpf
