/-
**The GPU capacity that a late cycle asks for** (`GpuCalculationHelpers.h`,
`GpuCalculationHelpers.cpp`, and the products of `PhysicalQuantityTypes.h`).

The part of an overrun that the GPU is responsible for is turned into GPU cycles.  The code computes
with `float` and `double`; the numbers are rational here, without rounding.  A conversion to an integer
drops the fraction.  The nanoseconds have 64 bits and the cycles 32, so a conversion may also be out of
range, and then its result is not defined: it is whatever the parameter `undefined` says.

Main definitions:

* `Adpf.sanitize_timings` — the GPU time when the reported parts do not add up to the whole;
* `Adpf.calculate_capacity` — the capacity for one reported cycle.
-/

import Mathlib.Algebra.Order.Ring.Unbundled.Rat
import MotoCommon.AdpfTypes

set_option autoImplicit false

namespace Adpf

/-- `lerp`: the point at `t` of the way from `a` to `b`. -/
def lerp (undefined : Option ℚ → ℤ) (a b : ℤ) (t : Option ℚ) : ℤ :=
  floatToInt64 undefined (t.map fun t => (a : ℚ) + ((b : ℚ) - (a : ℚ)) * t)

/-- `sanitize_timings`: time that is neither the CPU's nor the GPU's is shared out between them. -/
def sanitize_timings (undefined : Option ℚ → ℤ) (total cpu gpu : ℤ) : ℤ :=
  let accounted_portion := toInt64 (cpu + gpu)
  let unaccounted_portion := toInt64 (total - accounted_portion)
  if 0 < unaccounted_portion then
    -- where nothing is accounted for, the quotient is not a number
    let cpu_portion : Option ℚ :=
      if accounted_portion = 0 then none else some ((cpu : ℚ) / (accounted_portion : ℚ))
    lerp undefined gpu (toInt64 (gpu + unaccounted_portion)) (cpu_portion.map fun portion => 1 - portion)
  else gpu

/-- Whether a part of the cycle is longer than the whole. -/
def subtotal_timings_invalid (observation : WorkDuration) : Bool :=
  decide (observation.durationNanos < observation.gpuDurationNanos) ||
    decide (observation.durationNanos < observation.cpuDurationNanos)

/-- `gpu_time_attribution`: the GPU's share of the cycle. -/
def gpu_time_attribution (total gpu : ℤ) : ℚ := if total = 0 then 0 else (gpu : ℚ) / (total : ℚ)

/-- The cycles of a frequency in hertz over a time in nanoseconds: `Frequency * duration`, whose result
is a `Cycles` and so an `int`. -/
def cyclesOver (undefined : Option ℚ → ℤ) (gpu_frequency : ℤ) (nanos : ℚ) : ℤ :=
  floatToInt32 undefined (some ((gpu_frequency : ℚ) * (nanos / 1000000000)))

def calculate_capacity (undefined : Option ℚ → ℤ) (observation : WorkDuration)
    (target gpu_frequency : ℤ) : ℤ :=
  let total := observation.durationNanos
  let overrun := toInt64 (total - target)
  if decide (overrun < 0) || subtotal_timings_invalid observation then 0
  else
    let gpu :=
      sanitize_timings undefined total observation.cpuDurationNanos observation.gpuDurationNanos
    let gpu_delta := (overrun : ℚ) * gpu_time_attribution total gpu
    cyclesOver undefined gpu_frequency gpu_delta

end Adpf
