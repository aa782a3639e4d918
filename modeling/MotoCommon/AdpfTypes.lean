/-
**The types of the performance hint stack** (`AdpfTypes.h`, `AppHintDesc.h`, and the enumerations
of the power interface they name).

The C++ code computes with machine integers.  They are integers here, and an operation that may
leave its range brings the result back with `Adpf.toInt32` or `Adpf.toInt64`; so a time point or a
duration is an integer number of nanoseconds, and a deadline is a sum that wraps
(`Adpf.addNanos`).  A `float` or `double` is a rational number, computed with exactly, unless a
definition says otherwise; its conversion to an integer type that cannot hold it gives whatever a
parameter says (`Adpf.floatToInt32`).
-/

import Mathlib.Algebra.Group.Int.Defs
import Mathlib.Algebra.Group.Nat.Defs
import Mathlib.Data.Rat.Defs

set_option autoImplicit false

namespace Adpf

/-! ### Machine arithmetic -/

/-- The value of an `int32_t` that is assigned `x`. -/
def toInt32 (x : ℤ) : ℤ := Int.bmod x (2 ^ 32)

/-- The value of an `int64_t` that is assigned `x`. -/
def toInt64 (x : ℤ) : ℤ := Int.bmod x (2 ^ 64)

/-- The value of a `uint32_t` that is assigned `x`. -/
def toUInt32 (x : ℤ) : ℤ := x % 2 ^ 32

/-- The conversion of a `double` to an integer: the fraction is dropped. -/
def truncate (q : ℚ) : ℤ := Int.tdiv q.num q.den

/-- The conversion of a `float` or `double` to an `int`.  Where no `int` comes out of it, because the
number is out of range or is no finite number at all (`none`), the language leaves the result open, and
`undefined` says what it is. -/
def floatToInt32 (undefined : Option ℚ → ℤ) (x : Option ℚ) : ℤ :=
  ((x.map truncate).filter fun n => decide (toInt32 n = n)).getD (toInt32 (undefined x))

/-- The same for an `int64_t`. -/
def floatToInt64 (undefined : Option ℚ → ℤ) (x : Option ℚ) : ℤ :=
  ((x.map truncate).filter fun n => decide (toInt64 n = n)).getD (toInt64 (undefined x))

/-- `time_point + nanoseconds`. -/
def addNanos (t d : ℤ) : ℤ := toInt64 (t + d)

/-- An `int32_t` keeps what it can hold. -/
theorem toInt32_eq {x : ℤ} (hlo : -2 ^ 31 ≤ x) (hhi : x < 2 ^ 31) : toInt32 x = x := by
  unfold toInt32
  rw [Int.bmod_def]
  omega

theorem toInt32_bounds (x : ℤ) : -2 ^ 31 ≤ toInt32 x ∧ toInt32 x < 2 ^ 31 := by
  unfold toInt32
  rw [Int.bmod_def]
  omega

@[simp] theorem toInt32_toInt32 (x : ℤ) : toInt32 (toInt32 x) = toInt32 x := Int.bmod_bmod

theorem toInt32_toInt32_add (x y : ℤ) : toInt32 (toInt32 x + y) = toInt32 (x + y) :=
  Int.bmod_add_bmod

/-- A `uint32_t` keeps what it can hold. -/
theorem toUInt32_eq {x : ℤ} (hlo : 0 ≤ x) (hhi : x < 2 ^ 32) : toUInt32 x = x :=
  Int.emod_eq_of_lt hlo hhi

@[simp] theorem toUInt32_toUInt32 (x : ℤ) : toUInt32 (toUInt32 x) = toUInt32 x :=
  Int.emod_emod_of_dvd x (Int.dvd_refl _)

/-- A conversion to a signed number and back loses nothing. -/
@[simp] theorem toUInt32_toInt32 (x : ℤ) : toUInt32 (toInt32 x) = toUInt32 x := by
  unfold toUInt32 toInt32
  rw [Int.bmod_def]
  omega

/-- An `int64_t` keeps what it can hold. -/
theorem toInt64_eq {x : ℤ} (hlo : -2 ^ 63 ≤ x) (hhi : x < 2 ^ 63) : toInt64 x = x := by
  unfold toInt64
  rw [Int.bmod_def]
  omega

theorem toInt64_bounds (x : ℤ) : -2 ^ 63 ≤ toInt64 x ∧ toInt64 x < 2 ^ 63 := by
  unfold toInt64
  rw [Int.bmod_def]
  omega

theorem floatToInt32_of_fits {undefined : Option ℚ → ℤ} {q : ℚ} (hlo : -2 ^ 31 ≤ truncate q)
    (hhi : truncate q < 2 ^ 31) : floatToInt32 undefined (some q) = truncate q := by
  simp [floatToInt32, Option.filter_some, toInt32_eq hlo hhi]

theorem floatToInt32_of_large {undefined : Option ℚ → ℤ} {q : ℚ} (h : 2 ^ 31 ≤ truncate q) :
    floatToInt32 undefined (some q) = toInt32 (undefined (some q)) := by
  have hne : toInt32 (truncate q) ≠ truncate q := by
    have := toInt32_bounds (truncate q)
    omega
  simp [floatToInt32, Option.filter_some, hne]

theorem floatToInt64_of_fits {undefined : Option ℚ → ℤ} {q : ℚ} (hlo : -2 ^ 63 ≤ truncate q)
    (hhi : truncate q < 2 ^ 63) : floatToInt64 undefined (some q) = truncate q := by
  simp [floatToInt64, Option.filter_some, toInt64_eq hlo hhi]

/-! ### Votes -/

inductive AdpfVoteType where
  | CPU_VOTE_DEFAULT
  | CPU_LOAD_UP
  | CPU_LOAD_RESET
  | CPU_LOAD_RESUME
  | VOTE_POWER_EFFICIENCY
  | GPU_LOAD_UP
  | GPU_LOAD_DOWN
  | GPU_LOAD_RESET
  | GPU_CAPACITY
  deriving DecidableEq, Repr

/-- `static_cast<int>` of a vote type. -/
def AdpfVoteType.toInt : AdpfVoteType → ℤ
  | CPU_VOTE_DEFAULT => 0
  | CPU_LOAD_UP => 1
  | CPU_LOAD_RESET => 2
  | CPU_LOAD_RESUME => 3
  | VOTE_POWER_EFFICIENCY => 4
  | GPU_LOAD_UP => 5
  | GPU_LOAD_DOWN => 6
  | GPU_LOAD_RESET => 7
  | GPU_CAPACITY => 8

/-- The smallest utilisation clamp. -/
def kUclampMin : ℤ := 0

/-- The largest utilisation clamp. -/
def kUclampMax : ℤ := 1024

/-! ### The power interface -/

/-- `SessionHint`.  The interface passes an integer, so a caller may send a value the service does
not know. -/
inductive SessionHint where
  | CPU_LOAD_UP
  | CPU_LOAD_DOWN
  | CPU_LOAD_RESET
  | CPU_LOAD_RESUME
  | POWER_EFFICIENCY
  | GPU_LOAD_UP
  | GPU_LOAD_DOWN
  | GPU_LOAD_RESET
  | unknown (raw : ℤ)
  deriving DecidableEq, Repr

/-- The name of a hint, which is also the name of the power hint it sends.  An unknown value is
refused before its name is asked for. -/
def SessionHint.toString : SessionHint → String
  | CPU_LOAD_UP => "CPU_LOAD_UP"
  | CPU_LOAD_DOWN => "CPU_LOAD_DOWN"
  | CPU_LOAD_RESET => "CPU_LOAD_RESET"
  | CPU_LOAD_RESUME => "CPU_LOAD_RESUME"
  | POWER_EFFICIENCY => "POWER_EFFICIENCY"
  | GPU_LOAD_UP => "GPU_LOAD_UP"
  | GPU_LOAD_DOWN => "GPU_LOAD_DOWN"
  | GPU_LOAD_RESET => "GPU_LOAD_RESET"
  | unknown _ => ""

inductive SessionMode where
  | POWER_EFFICIENCY
  | unknown (raw : ℤ)
  deriving DecidableEq, Repr

/-- `WorkDuration`: one reported cycle of work. -/
structure WorkDuration where
  timeStampNanos : ℤ
  durationNanos : ℤ
  cpuDurationNanos : ℤ := 0
  gpuDurationNanos : ℤ := 0
  deriving DecidableEq, Repr

/-- The status a call of the interface returns. -/
inductive Status where
  | ok
  | illegalState
  | illegalArgument
  deriving DecidableEq, Repr

/-- `AppHintDesc`: what a session knows about itself. -/
structure AppHintDesc where
  sessionId : ℤ
  tgid : ℤ
  uid : ℤ
  targetNs : ℤ
  thread_ids : List ℤ
  pidControlVariable : ℤ := 0
  is_active : Bool := true
  update_count : ℤ := 0
  integral_error : ℤ := 0
  previous_error : ℤ := 0
  deriving DecidableEq, Repr, Inhabited

/-- The first user id of an application. -/
def AID_APP_START : ℤ := 10000

end Adpf
