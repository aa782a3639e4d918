/-
**The interaction handler** (`InteractionHandler.h`, `InteractionHandler.cpp`).

While the user interacts with the device the handler holds the hint `INTERACTION`.  `Acquire` takes the
hint or prolongs the interaction; a thread, `Routine`, waits until the display is idle or the time is
over and then gives the hint back, unless the interaction was prolonged in the meantime.  An event
descriptor wakes the thread up when that happens while it waits.

All that the functions do to the members they do under `mLock`, so one such section is one step, and
what happens between them is where the thread is.  Steps of the thread, of any number of callers and of
`Exit` may come in any order.

Main definitions:

* `DispPower.InteractionHandler` — the members, where the thread is, and the calls of the hint manager;
* `DispPower.InteractionHandler.Acquire` and the other functions, under their own names;
* `DispPower.Label`, `DispPower.step` — what can happen, and what it does.

Main results:

* `DispPower.Properties.finalDuration_eq_clamp_iff` — when the duration is clamped to its bounds;
* `DispPower.InteractionHandler.Acquire_fallback`, `DispPower.InteractionHandler.Acquire_covered`,
  `DispPower.InteractionHandler.Acquire_taken` — what `Acquire` does, in its three cases;
* `DispPower.step_happens` — **what a step does** between `Init` and `Exit`.
-/

import MotoCommon.AdpfTypes
import MotoCommon.LabelledRuns

set_option autoImplicit false

namespace DispPower

open Adpf (toInt32 toUInt32 toInt32_eq toUInt32_eq toUInt32_toInt32 toUInt32_toUInt32)

/-! ### Durations -/

/-- The properties that the handler reads, with their defaults.  All durations are `uint32_t`. -/
structure Properties where
  kDisplayIdleSupport : Bool := true
  kMinDurationMs : ℤ := 1400
  kMaxDurationMs : ℤ := 5650
  kDurationOffsetMs : ℤ := 650
  deriving DecidableEq, Repr

/-- `struct timespec`. -/
structure Timespec where
  tv_sec : ℤ := 0
  tv_nsec : ℤ := 0
  deriving DecidableEq, Repr

/-- The value of a `size_t` that is assigned `x`. -/
def toSizeT (x : ℤ) : ℤ := x % 2 ^ 64

def MSINSEC : ℤ := 1000

def NSINMS : ℤ := 1000000

/-- `CalcTimespecDiffMs`: the two differences are signed, the sum is not. -/
def CalcTimespecDiffMs (start finish : Timespec) : ℤ :=
  let diff_in_ms := toSizeT ((finish.tv_sec - start.tv_sec) * MSINSEC)
  toSizeT (diff_in_ms + Int.tdiv (finish.tv_nsec - start.tv_nsec) NSINMS)

/-- The duration that `Acquire` uses.  The sum is unsigned, and so are the comparisons. -/
def Properties.finalDuration (p : Properties) (duration : ℤ) : ℤ :=
  let inputDuration := toInt32 (toUInt32 (duration + p.kDurationOffsetMs))
  if toUInt32 inputDuration > p.kMaxDurationMs then toInt32 p.kMaxDurationMs
  else if toUInt32 inputDuration > p.kMinDurationMs then inputDuration
  else toInt32 p.kMinDurationMs

/-- The properties are such that a duration between the bounds is an `int`, and so is the offset. -/
structure Properties.Representable (p : Properties) : Prop where
  min_nonneg : 0 ≤ p.kMinDurationMs
  min_le_max : p.kMinDurationMs ≤ p.kMaxDurationMs
  max_lt : p.kMaxDurationMs < 2 ^ 31
  offset_nonneg : 0 ≤ p.kDurationOffsetMs
  offset_lt : p.kDurationOffsetMs < 2 ^ 31

namespace Properties

variable {p : Properties} {duration : ℤ}

/-- A sum that is not negative is clamped to the bounds. -/
theorem finalDuration_of_nonneg (hp : p.Representable) (hd : duration < 2 ^ 31)
    (hsum : 0 ≤ duration + p.kDurationOffsetMs) :
    p.finalDuration duration =
      max p.kMinDurationMs (min (duration + p.kDurationOffsetMs) p.kMaxDurationMs) := by
  obtain ⟨hmin, hle, hmax, -, hoff⟩ := hp
  unfold finalDuration
  generalize hx : duration + p.kDurationOffsetMs = x at hsum ⊢
  have hlt : x < 2 ^ 32 := by omega
  have hunsigned : toUInt32 (toInt32 (toUInt32 x)) = x := by
    rw [toUInt32_toInt32, toUInt32_eq hsum hlt, toUInt32_eq hsum hlt]
  have hmaxInt : toInt32 p.kMaxDurationMs = p.kMaxDurationMs := toInt32_eq (by omega) hmax
  have hminInt : toInt32 p.kMinDurationMs = p.kMinDurationMs := toInt32_eq (by omega) (by omega)
  dsimp only
  rw [hunsigned, toUInt32_eq hsum hlt, hmaxInt, hminInt]
  split
  · omega
  · have hxInt : toInt32 x = x := toInt32_eq (by omega) (by omega)
    rw [hxInt]
    split <;> omega

/-- A negative sum counts as a large one, and becomes the upper bound. -/
theorem finalDuration_of_neg (hp : p.Representable) (hd : -2 ^ 31 ≤ duration)
    (hsum : duration + p.kDurationOffsetMs < 0) : p.finalDuration duration = p.kMaxDurationMs := by
  obtain ⟨hmin, hle, hmax, hoff, -⟩ := hp
  unfold finalDuration
  generalize hx : duration + p.kDurationOffsetMs = x at hsum ⊢
  have hunsigned : toUInt32 (toInt32 (toUInt32 x)) = x + 2 ^ 32 := by
    rw [toUInt32_toInt32, toUInt32_toUInt32]
    unfold toUInt32
    omega
  dsimp only
  rw [hunsigned, if_pos (by omega)]
  exact toInt32_eq (by omega) (by omega)

/-- **When the duration of an interaction is clamped as it should be.**  It always lies between the two
bounds.  It is the sum of the duration and the offset, clamped to them, exactly if that sum is not
negative or the bounds are equal; and among such durations a longer one does not become a shorter one. -/
theorem finalDuration_eq_clamp_iff (hp : p.Representable) :
    (∀ duration, -2 ^ 31 ≤ duration → duration < 2 ^ 31 →
      (p.kMinDurationMs ≤ p.finalDuration duration ∧ p.finalDuration duration ≤ p.kMaxDurationMs) ∧
      (p.finalDuration duration =
          max p.kMinDurationMs (min (duration + p.kDurationOffsetMs) p.kMaxDurationMs) ↔
        0 ≤ duration + p.kDurationOffsetMs ∨ p.kMinDurationMs = p.kMaxDurationMs)) ∧
    ∀ duration duration', -2 ^ 31 ≤ duration → duration ≤ duration' → duration' < 2 ^ 31 →
      0 ≤ duration + p.kDurationOffsetMs ∨ p.kMinDurationMs = p.kMaxDurationMs →
      p.finalDuration duration ≤ p.finalDuration duration' := by
  have hle := hp.min_le_max
  have hbounds : ∀ duration, -2 ^ 31 ≤ duration → duration < 2 ^ 31 →
      p.kMinDurationMs ≤ p.finalDuration duration ∧ p.finalDuration duration ≤ p.kMaxDurationMs := by
    intro duration hlo hhi
    by_cases hsum : 0 ≤ duration + p.kDurationOffsetMs
    · rw [finalDuration_of_nonneg hp hhi hsum]
      omega
    · rw [finalDuration_of_neg hp hlo (by omega)]
      omega
  refine ⟨fun duration hlo hhi => ⟨hbounds duration hlo hhi, ?_⟩, ?_⟩
  · by_cases hsum : 0 ≤ duration + p.kDurationOffsetMs
    · exact iff_of_true (finalDuration_of_nonneg hp hhi hsum) (Or.inl hsum)
    · have hmin := hp.min_nonneg
      rw [finalDuration_of_neg hp hlo (by omega)]
      omega
  · intro duration duration' hlo hdd hhi hcond
    rcases hcond with hnonneg | heq
    · rw [finalDuration_of_nonneg hp (by omega) hnonneg, finalDuration_of_nonneg hp hhi (by omega)]
      omega
    · have hfirst := hbounds duration hlo (by omega)
      have hsecond := hbounds duration' (by omega) hhi
      omega

theorem representable_default : ({} : Properties).Representable := by
  constructor <;> decide

/-- With the defaults, durations from minus the offset on are clamped. -/
theorem finalDuration_eq_clamp_default :
    ({} : Properties).Representable ∧ ({} : Properties).finalDuration 1000 = 1650 ∧
      ({} : Properties).finalDuration 1000 ≤ ({} : Properties).finalDuration 5000 := by
  have hclamp := finalDuration_eq_clamp_iff representable_default
  refine ⟨representable_default, ?_, ?_⟩
  · exact ((hclamp.1 1000 (by decide) (by decide)).2.2 (Or.inl (by decide))).trans (by decide)
  · exact hclamp.2 1000 5000 (by decide) (by decide) (by decide) (Or.inl (by decide))

/-- With the defaults an interaction of minus one second lasts as long as possible, and longer than one
of no duration at all. -/
theorem finalDuration_negative :
    ({} : Properties).Representable ∧
      ({} : Properties).finalDuration (-1000) = 5650 ∧
      max ({} : Properties).kMinDurationMs
        (min (-1000 + ({} : Properties).kDurationOffsetMs) ({} : Properties).kMaxDurationMs) = 1400 ∧
      ({} : Properties).finalDuration 0 < ({} : Properties).finalDuration (-1000) := by
  refine ⟨representable_default, by decide, by decide, by decide⟩

end Properties

/-! ### The members -/

inductive InteractionState where
  | UNINITIALIZED
  | IDLE
  | INTERACTION
  | WAITING
  deriving DecidableEq, Repr

/-- Where `Routine` is: at the condition variable; in the first or the second `poll` of `WaitForIdle`;
before `Release`; or at its end. -/
inductive Point where
  | cond
  | firstPoll
  | secondPoll
  | release
  | ended
  deriving DecidableEq, Repr

/-- A call of the hint manager about `INTERACTION`: the hint is taken, taken for a number of
milliseconds, or given back. -/
inductive PerfCall where
  | doHint
  | doHintFor (durationMs : ℤ)
  | endHint
  deriving DecidableEq, Repr

/-- The handler, with the counter of `mEventFd` and the calls of the hint manager, the latest first. -/
structure InteractionHandler where
  mState : InteractionState := .UNINITIALIZED
  mDurationMs : ℤ := 0
  mLastTimespec : Timespec := {}
  /-- Where `Routine` of `mThread` is, once there is a thread. -/
  mThread : Option Point := none
  eventCounter : ℕ := 0
  calls : List PerfCall := []
  deriving DecidableEq, Repr

namespace InteractionHandler

/-- The number of calls of `PerfLock`, and of `PerfRel`. -/
def perfLocks (h : InteractionHandler) : ℕ := h.calls.count .doHint

@[inherit_doc perfLocks]
def perfRels (h : InteractionHandler) : ℕ := h.calls.count .endHint

/-! ### The functions -/

/-- The paths that `FbIdleOpen` tries. -/
def kDispIdlePath : List String :=
  ["/sys/class/drm/card0/device/idle_state", "/sys/class/graphics/fb0/idle_state",
    "/sys/class/graphics/fb0/device/idle_state"]

/-- `FbIdleOpen`, on a device where `openFile` says what `open` returns. -/
def FbIdleOpen (openFile : String → ℤ) : ℤ :=
  (kDispIdlePath.find? fun path => decide (0 ≤ openFile path)).elim (-1) openFile

/-- `Init`, when `eventfd` returns `mEventFd`. -/
def Init (openFile : String → ℤ) (mEventFd : ℤ) (h : InteractionHandler) : Bool × InteractionHandler :=
  if h.mState ≠ .UNINITIALIZED then (true, h)
  else if FbIdleOpen openFile < 0 then (false, h)
  else if mEventFd < 0 then (false, h)
  else (true, { h with mState := .IDLE, mThread := some .cond, eventCounter := 0 })

def AbortWaitLocked (h : InteractionHandler) : InteractionHandler :=
  { h with eventCounter := h.eventCounter + 1 }

/-- The section of `Exit` under the lock; then it waits for the thread to end. -/
def Exit (h : InteractionHandler) : InteractionHandler :=
  if h.mState = .UNINITIALIZED then h
  else { h.AbortWaitLocked with mState := .UNINITIALIZED }

def PerfLock (h : InteractionHandler) : InteractionHandler := { h with calls := .doHint :: h.calls }

def PerfRel (h : InteractionHandler) : InteractionHandler := { h with calls := .endHint :: h.calls }

/-- The previous interaction covers one of this duration that starts now.  The difference of the
durations is an `int`, and is compared as a `size_t`. -/
def covers (finalDuration : ℤ) (cur_timespec : Timespec) (h : InteractionHandler) : Bool :=
  decide (h.mState ≠ .IDLE ∧ finalDuration ≤ h.mDurationMs ∧
    CalcTimespecDiffMs h.mLastTimespec cur_timespec ≤
      toSizeT (toInt32 (h.mDurationMs - finalDuration)))

/-- `Acquire`, at a time. -/
def Acquire (p : Properties) (duration : ℤ) (cur_timespec : Timespec) (h : InteractionHandler) :
    InteractionHandler :=
  let finalDuration := p.finalDuration duration
  if p.kDisplayIdleSupport = false ∨ h.mState = .UNINITIALIZED then
    { h with calls := .doHintFor finalDuration :: h.calls }
  else if h.covers finalDuration cur_timespec then h
  else
    let h := { h with mLastTimespec := cur_timespec, mDurationMs := finalDuration }
    let h :=
      if h.mState = .WAITING then h.AbortWaitLocked
      else if h.mState = .IDLE then h.PerfLock
      else h
    { h with mState := .INTERACTION }

/-- `Release`.  A `read` of the event descriptor sets its counter to zero. -/
def Release (h : InteractionHandler) : InteractionHandler :=
  if h.mState = .WAITING then { h.PerfRel with mState := .IDLE }
  else { h with eventCounter := 0 }

/-- `Routine` leaves the condition variable. -/
def leaveCond (h : InteractionHandler) : InteractionHandler :=
  if h.mState = .UNINITIALIZED then { h with mThread := some .ended }
  else { h with mState := .WAITING, mThread := some .firstPoll }

variable {h : InteractionHandler} {p : Properties} {duration : ℤ} {cur : Timespec}

/-- Without a thread, or without support for the idle state, the hint is taken for the duration. -/
theorem Acquire_fallback (hoff : p.kDisplayIdleSupport = false ∨ h.mState = .UNINITIALIZED) :
    h.Acquire p duration cur = { h with calls := .doHintFor (p.finalDuration duration) :: h.calls } :=
  if_pos hoff

theorem Acquire_covered (hidle : p.kDisplayIdleSupport = true) (hinit : h.mState ≠ .UNINITIALIZED)
    (hcovered : h.covers (p.finalDuration duration) cur = true) : h.Acquire p duration cur = h := by
  unfold Acquire
  dsimp only
  rw [if_neg (by simp [hidle, hinit]), if_pos hcovered]

/-- What `Acquire` does otherwise: the interaction is noted; the wait is aborted, or the hint taken. -/
theorem Acquire_taken (hidle : p.kDisplayIdleSupport = true) (hinit : h.mState ≠ .UNINITIALIZED)
    (htaken : h.covers (p.finalDuration duration) cur = false) :
    h.Acquire p duration cur =
      { h with
        mState := .INTERACTION
        mDurationMs := p.finalDuration duration
        mLastTimespec := cur
        eventCounter := if h.mState = .WAITING then h.eventCounter + 1 else h.eventCounter
        calls := if h.mState = .IDLE then .doHint :: h.calls else h.calls } := by
  unfold Acquire
  dsimp only
  rw [if_neg (by simp [hidle, hinit]), if_neg (by simp [htaken])]
  cases hstate : h.mState <;> rfl

end InteractionHandler

/-! ### Steps -/

/-- What can happen in `WaitForIdle`.  The first `poll` sees the event, fails, or times out; after that
the state of the display is read, and the second `poll` sees the event, fails, times out, or sees that
the display is idle. -/
inductive WaitEvent where
  | aborted
  | failed
  | endOfFile
  | alreadyIdle
  | notIdle
  | timedOut
  | idleDetected
  deriving DecidableEq, Repr

/-- `WaitForIdle`, one event at a time: where the thread is afterwards. -/
def WaitForIdle (counter : ℕ) : Point → WaitEvent → Option Point
  | .firstPoll, .aborted => if counter ≠ 0 then some .release else none
  | .firstPoll, .failed => some .release
  | .firstPoll, .endOfFile => if counter = 0 then some .release else none
  | .firstPoll, .alreadyIdle => if counter = 0 then some .release else none
  | .firstPoll, .notIdle => if counter = 0 then some .secondPoll else none
  | .secondPoll, .aborted => if counter ≠ 0 then some .release else none
  | .secondPoll, .failed => some .release
  | .secondPoll, .timedOut => if counter = 0 then some .release else none
  | .secondPoll, .idleDetected => if counter = 0 then some .release else none
  | _, _ => none

/-- What can happen: a call of `Init`, `Exit` or `Acquire`; the thread leaves the condition variable,
goes on in `WaitForIdle`, or calls `Release`. -/
inductive Label where
  | init (openFile : String → ℤ) (mEventFd : ℤ)
  | exit
  | acquire (duration : ℤ) (cur_timespec : Timespec)
  | leaveCond
  | wait (e : WaitEvent)
  | release

/-- One step.  A handler is initialized once. -/
def step (p : Properties) (l : Label) (h : InteractionHandler) : Option InteractionHandler :=
  match l with
  | .init openFile mEventFd =>
      if h.mState = .UNINITIALIZED ∧ h.mThread ≠ none then none
      else some (h.Init openFile mEventFd).2
  | .exit => some h.Exit
  | .acquire duration cur_timespec => some (h.Acquire p duration cur_timespec)
  | .leaveCond =>
      if h.mThread = some .cond ∧ h.mState ≠ .IDLE then some h.leaveCond else none
  | .wait e =>
      (h.mThread.bind fun point => WaitForIdle h.eventCounter point e).map fun point =>
        { h with mThread := some point }
  | .release =>
      if h.mThread = some .release then some { h.Release with mThread := some .cond } else none

/-! ### What a step does -/

variable {p : Properties} {h h' : InteractionHandler}

/-- What happens to a handler that is initialized: it stays so; an interaction is covered by the one in
progress, or is taken up; the thread begins to wait or goes on waiting; it gives the hint back, or clears
the event descriptor. -/
inductive Happens (p : Properties) (h : InteractionHandler) : Label → InteractionHandler → Prop
  | init (openFile : String → ℤ) (mEventFd : ℤ) : Happens p h (.init openFile mEventFd) h
  | covered (duration : ℤ) (cur : Timespec) : h.covers (p.finalDuration duration) cur = true →
      Happens p h (.acquire duration cur) h
  | taken (duration : ℤ) (cur : Timespec) : h.covers (p.finalDuration duration) cur = false →
      Happens p h (.acquire duration cur)
        { h with
          mState := .INTERACTION
          mDurationMs := p.finalDuration duration
          mLastTimespec := cur
          eventCounter := if h.mState = .WAITING then h.eventCounter + 1 else h.eventCounter
          calls := if h.mState = .IDLE then .doHint :: h.calls else h.calls }
  | begin : h.mThread = some .cond → h.mState ≠ .IDLE →
      Happens p h .leaveCond { h with mState := .WAITING, mThread := some .firstPoll }
  | goOn {e : WaitEvent} {point point' : Point} : h.mThread = some point →
      WaitForIdle h.eventCounter point e = some point' →
      Happens p h (.wait e) { h with mThread := some point' }
  | giveBack : h.mThread = some .release → h.mState = .WAITING →
      Happens p h .release
        { h with mState := .IDLE, mThread := some .cond, calls := .endHint :: h.calls }
  | clear : h.mThread = some .release → h.mState ≠ .WAITING →
      Happens p h .release { h with mThread := some .cond, eventCounter := 0 }

/-- **What a step does** before `Exit`. -/
theorem step_happens {l : Label} (hidle : p.kDisplayIdleSupport = true)
    (hinit : h.mState ≠ .UNINITIALIZED) (hl : l ≠ .exit) (hstep : step p l h = some h') :
    Happens p h l h' := by
  cases l with
  | exit => exact absurd rfl hl
  | init openFile mEventFd =>
      simp only [step, Option.ite_none_left_eq_some, Option.some.injEq] at hstep
      rw [← hstep.2, InteractionHandler.Init, if_pos hinit]
      exact .init openFile mEventFd
  | acquire duration cur =>
      obtain rfl := Option.some.inj hstep
      cases hcov : h.covers (p.finalDuration duration) cur with
      | true =>
          rw [InteractionHandler.Acquire_covered hidle hinit hcov]
          exact .covered duration cur hcov
      | false =>
          rw [InteractionHandler.Acquire_taken hidle hinit hcov]
          exact .taken duration cur hcov
  | leaveCond =>
      simp only [step, Option.ite_none_right_eq_some, Option.some.injEq] at hstep
      obtain ⟨⟨hthread, hne⟩, rfl⟩ := hstep
      rw [InteractionHandler.leaveCond, if_neg hinit]
      exact .begin hthread hne
  | wait e =>
      obtain ⟨point', hpoint', rfl⟩ := Option.map_eq_some_iff.1 hstep
      obtain ⟨point, hthread, hwait⟩ := Option.bind_eq_some_iff.1 hpoint'
      exact .goOn hthread hwait
  | release =>
      simp only [step, Option.ite_none_right_eq_some, Option.some.injEq] at hstep
      obtain ⟨hthread, rfl⟩ := hstep
      by_cases hwaiting : h.mState = .WAITING
      · rw [InteractionHandler.Release, if_pos hwaiting]
        exact .giveBack hthread hwaiting
      · rw [InteractionHandler.Release, if_neg hwaiting]
        exact .clear hthread hwaiting

end DispPower
