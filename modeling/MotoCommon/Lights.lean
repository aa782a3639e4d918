/-
**The lights** (`lights/Lights.h`, `lights/Lights.cpp`).

A call of `setLightState` is about the backlight of the panel or about one of the notification lights.  The
brightness of the backlight is scaled to the range of the panel and written to its node.  The notification
lights share one LED: their states are saved, and the state of the first light that is lit, in the order of
priority, is applied, with a fallback for each way of flashing that the LED does not have.

The scaling is done in unsigned arithmetic, from an offset of 19 on: a panel whose maximum is below the
offset, or so large that a product wraps, gets values that are none of its brightness levels.

Main definitions:

* `LightHal.getBrightness`, `LightHal.scaleBrightness`, `LightHal.handleBacklight` — the backlight;
* `LightHal.ApplyNotificationState` — what is written for a state of a notification light;
* `LightHal.Lights`, `LightHal.Lights.setLightState` — the service.

Main results:

* `LightHal.backlight_in_range_iff` — **when the backlight stays within the range of the panel**;
* `LightHal.Lights.saved_run` — **whole runs**: the saved state of a light is the one it was last given.
-/

import Mathlib.Algebra.Order.Group.Unbundled.Int
import Mathlib.Data.List.Induction
import MotoCommon.AdpfTypes

set_option autoImplicit false

namespace LightHal

open Adpf (toInt32 toUInt32 toInt32_eq toUInt32_eq)

/-! ### States of lights -/

/-- `FlashMode`.  The interface passes an integer, which may be none of the known ones. -/
inductive FlashMode where
  | NONE
  | TIMED
  | HARDWARE
  | unknown (raw : ℤ)
  deriving DecidableEq, Repr

/-- `HwLightState`, as far as it is used here.  The color is an `int32_t`, in the order AARRGGBB. -/
structure HwLightState where
  color : ℤ := 0
  flashMode : FlashMode := .NONE
  flashOnMs : ℤ := 0
  flashOffMs : ℤ := 0
  deriving DecidableEq, Repr

/-- `(color >> shift) & 0xFF`. -/
def channel (color : ℤ) (shift : ℕ) : ℤ := color / 2 ^ shift % 256

theorem channel_bounds (color : ℤ) (shift : ℕ) :
    0 ≤ channel color shift ∧ channel color shift ≤ 255 := by
  unfold channel
  omega

/-- The brightness of three channels.  None of these sums leaves the range of a `uint32_t`. -/
def luma (red green blue : ℤ) : ℤ := (77 * red + 150 * green + 29 * blue) / 256

def getBrightness (state : HwLightState) : ℤ :=
  let alpha := channel state.color 24
  luma (channel state.color 16 * alpha / 255) (channel state.color 8 * alpha / 255)
    (channel state.color 0 * alpha / 255)

/-- `RgbaToBrightness`: a transparent color counts as an opaque one here. -/
def RgbaToBrightness (color : ℤ) : ℤ :=
  let alpha := channel color 24
  if alpha ≠ 255 ∧ alpha ≠ 0 then
    luma (channel color 16 * alpha / 255) (channel color 8 * alpha / 255) (channel color 0 * alpha / 255)
  else luma (channel color 16) (channel color 8) (channel color 0)

def IsLit (color : ℤ) : Bool := decide (color % 2 ^ 24 ≠ 0)

/-- A channel that is scaled by another one is one. -/
theorem scaled_bounds {x y : ℤ} (hx : 0 ≤ x ∧ x ≤ 255) (hy : 0 ≤ y ∧ y ≤ 255) :
    0 ≤ x * y / 255 ∧ x * y / 255 ≤ 255 := by
  have hnonneg : 0 ≤ x * y := Int.mul_nonneg hx.1 hy.1
  have hle : x * y ≤ 255 * 255 := Int.mul_le_mul hx.2 hy.2 hy.1 (by decide)
  omega

theorem luma_bounds {red green blue : ℤ} (hr : 0 ≤ red ∧ red ≤ 255) (hg : 0 ≤ green ∧ green ≤ 255)
    (hb : 0 ≤ blue ∧ blue ≤ 255) : 0 ≤ luma red green blue ∧ luma red green blue ≤ 255 := by
  unfold luma
  omega

theorem getBrightness_bounds (state : HwLightState) :
    0 ≤ getBrightness state ∧ getBrightness state ≤ 255 :=
  luma_bounds (scaled_bounds (channel_bounds _ _) (channel_bounds _ _))
    (scaled_bounds (channel_bounds _ _) (channel_bounds _ _))
    (scaled_bounds (channel_bounds _ _) (channel_bounds _ _))

/-! ### The backlight -/

/-- `scaleBrightness`.  All numbers are `uint32_t`s. -/
def scaleBrightness (brightness maxBrightness : ℤ) : ℤ :=
  if brightness = 0 then 0
  else toUInt32 (toUInt32 (toUInt32 (brightness - 1) * toUInt32 (maxBrightness - 19)) / (255 - 1) + 19)

def getScaledBrightness (state : HwLightState) (maxBrightness : ℤ) : ℤ :=
  scaleBrightness (getBrightness state) maxBrightness

/-- `getMaxBrightness`, for the number that is read from the node, if the node can be opened. -/
def getMaxBrightness : Option ℤ → ℤ
  | none => 0
  | some value => value

/-- `handleBacklight`: the number that is written.  The maximum becomes a `uint32_t`, and the result an
`int`. -/
def handleBacklight (state : HwLightState) (node : Option ℤ) : ℤ :=
  toInt32 (getScaledBrightness state (toUInt32 (getMaxBrightness node)))

/-- A maximum for which no operation of `scaleBrightness` wraps. -/
def Scalable (maxBrightness : ℤ) : Prop := 19 ≤ maxBrightness ∧ maxBrightness ≤ 16909339

instance (maxBrightness : ℤ) : Decidable (Scalable maxBrightness) := by
  unfold Scalable
  infer_instance

theorem scaleBrightness_zero (maxBrightness : ℤ) : scaleBrightness 0 maxBrightness = 0 := rfl

/-- The exact value. -/
theorem scaleBrightness_eq {brightness maxBrightness : ℤ} (hm : Scalable maxBrightness)
    (hlo : 0 < brightness) (hhi : brightness ≤ 255) :
    scaleBrightness brightness maxBrightness = (brightness - 1) * (maxBrightness - 19) / 254 + 19 := by
  obtain ⟨hmin, hmax⟩ := hm
  have hnonneg : 0 ≤ (brightness - 1) * (maxBrightness - 19) := Int.mul_nonneg (by omega) (by omega)
  have hle : (brightness - 1) * (maxBrightness - 19) ≤ 254 * 16909320 :=
    Int.mul_le_mul (by omega) (by omega) (by omega) (by decide)
  unfold scaleBrightness
  rw [if_neg (by omega), toUInt32_eq (show 0 ≤ brightness - 1 by omega) (by omega),
    toUInt32_eq (show 0 ≤ maxBrightness - 19 by omega) (by omega), toUInt32_eq hnonneg (by omega)]
  exact toUInt32_eq (by omega) (by omega)

/-- The value for every brightness but zero lies between the offset and the maximum. -/
theorem scaleBrightness_bounds {brightness maxBrightness : ℤ} (hm : Scalable maxBrightness)
    (hlo : 0 < brightness) (hhi : brightness ≤ 255) :
    19 ≤ scaleBrightness brightness maxBrightness ∧
      scaleBrightness brightness maxBrightness ≤ maxBrightness := by
  have hnonneg : 0 ≤ (brightness - 1) * (maxBrightness - 19) :=
    Int.mul_nonneg (by omega) (by have := hm.1; omega)
  have hle : (brightness - 1) * (maxBrightness - 19) ≤ 254 * (maxBrightness - 19) :=
    Int.mul_le_mul_of_nonneg_right (by omega) (by have := hm.1; omega)
  rw [scaleBrightness_eq hm hlo hhi]
  omega

theorem scaleBrightness_mono {brightness brightness' maxBrightness : ℤ} (hm : Scalable maxBrightness)
    (hlo : 0 ≤ brightness) (hle : brightness ≤ brightness') (hhi : brightness' ≤ 255) :
    scaleBrightness brightness maxBrightness ≤ scaleBrightness brightness' maxBrightness := by
  by_cases hzero : brightness = 0
  · by_cases hzero' : brightness' = 0
    · rw [hzero, hzero']
    · rw [hzero, scaleBrightness_zero]
      have := (scaleBrightness_bounds hm (show 0 < brightness' by omega) hhi).1
      omega
  · have hmul : (brightness - 1) * (maxBrightness - 19) ≤ (brightness' - 1) * (maxBrightness - 19) :=
      Int.mul_le_mul_of_nonneg_right (by omega) (by have := hm.1; omega)
    rw [scaleBrightness_eq hm (by omega) (by omega), scaleBrightness_eq hm (by omega) hhi]
    omega

/-- What is to be written for all states, when the maximum is known. -/
structure InRange (node : Option ℤ) : Prop where
  le_max : ∀ state, handleBacklight state node ≤ getMaxBrightness node
  eq_zero_iff : 0 < getMaxBrightness node →
    ∀ state, handleBacklight state node = 0 ↔ getBrightness state = 0
  mono : ∀ state state', getBrightness state ≤ getBrightness state' →
    handleBacklight state node ≤ handleBacklight state' node
  eq_max : ∀ state, getBrightness state = 255 → handleBacklight state node = getMaxBrightness node

variable {node : Option ℤ}

/-- Neither of the conversions of `handleBacklight` changes anything. -/
theorem handleBacklight_eq (hm : Scalable (getMaxBrightness node)) (state : HwLightState) :
    handleBacklight state node = scaleBrightness (getBrightness state) (getMaxBrightness node) := by
  obtain ⟨hlo, hhi⟩ := getBrightness_bounds state
  have hbounds : 0 ≤ scaleBrightness (getBrightness state) (getMaxBrightness node) ∧
      scaleBrightness (getBrightness state) (getMaxBrightness node) ≤ getMaxBrightness node := by
    by_cases hzero : getBrightness state = 0
    · rw [hzero, scaleBrightness_zero]
      have := hm.1
      omega
    · have := scaleBrightness_bounds hm (show 0 < getBrightness state by omega) hhi
      omega
  obtain ⟨hmin, hmax⟩ := hm
  unfold handleBacklight getScaledBrightness
  rw [toUInt32_eq (show 0 ≤ getMaxBrightness node by omega) (by omega)]
  exact toInt32_eq (by omega) (by omega)

theorem inRange_of_scalable (hm : Scalable (getMaxBrightness node)) : InRange node where
  le_max := by
    intro state
    obtain ⟨hlo, hhi⟩ := getBrightness_bounds state
    rw [handleBacklight_eq hm]
    by_cases hzero : getBrightness state = 0
    · rw [hzero, scaleBrightness_zero]
      have := hm.1
      omega
    · exact (scaleBrightness_bounds hm (by omega) hhi).2
  eq_zero_iff := by
    intro _ state
    obtain ⟨hlo, hhi⟩ := getBrightness_bounds state
    rw [handleBacklight_eq hm]
    constructor
    · intro hwritten
      by_contra hzero
      have := (scaleBrightness_bounds hm (show 0 < getBrightness state by omega) hhi).1
      omega
    · intro hzero
      rw [hzero, scaleBrightness_zero]
  mono := by
    intro state state' hle
    rw [handleBacklight_eq hm, handleBacklight_eq hm]
    exact scaleBrightness_mono hm (getBrightness_bounds state).1 hle (getBrightness_bounds state').2
  eq_max := by
    intro state hmax
    rw [handleBacklight_eq hm, hmax, scaleBrightness_eq hm (by decide) (by decide)]
    omega

/-- A color of brightness 1. -/
def dim : HwLightState := { color := -16776704 }

/-- White. -/
def white : HwLightState := { color := -1 }

theorem getBrightness_dim : getBrightness dim = 1 := by decide

theorem getBrightness_white : getBrightness white = 255 := by decide

/-- The dimmest color gets the offset. -/
theorem handleBacklight_dim (node : Option ℤ) : handleBacklight dim node = 19 := by
  unfold handleBacklight getScaledBrightness scaleBrightness
  rw [getBrightness_dim, if_neg (by decide)]
  have hzero : toUInt32 (1 - 1) = 0 := by decide
  rw [hzero, Int.zero_mul]
  decide

/-- The brightest color gets the maximum only if the product does not wrap. -/
theorem scalable_of_white (hmin : 19 ≤ getMaxBrightness node) (hlt : getMaxBrightness node < 2 ^ 31)
    (hwhite : handleBacklight white node = getMaxBrightness node) : Scalable (getMaxBrightness node) := by
  refine ⟨hmin, ?_⟩
  unfold handleBacklight getScaledBrightness scaleBrightness at hwhite
  rw [getBrightness_white, if_neg (by decide)] at hwhite
  generalize getMaxBrightness node = m at hmin hlt hwhite ⊢
  have hpred : (255 - 1 : ℤ) = 254 := rfl
  rw [toUInt32_eq (show 0 ≤ m by omega) (by omega), toUInt32_eq (show 0 ≤ m - 19 by omega) (by omega),
    hpred, toUInt32_eq (show (0 : ℤ) ≤ 254 by decide) (by decide)] at hwhite
  have hquotient : 0 ≤ toUInt32 (254 * (m - 19)) / 254 ∧ toUInt32 (254 * (m - 19)) / 254 ≤ 16909320 := by
    unfold toUInt32
    omega
  rw [toUInt32_eq (by omega) (by omega), toInt32_eq (by omega) (by omega)] at hwhite
  omega

/-- **When the backlight stays within the range of the panel.**  For every color the brightness lies
between 0 and 255.  What is written is at most the maximum, zero exactly for the brightness zero, monotone
in the brightness and the maximum for the brightness 255, all together, exactly if the maximum is at least
the offset 19 and so small that 254 times the rest is a `uint32_t`. -/
theorem backlight_in_range_iff (hhi : getMaxBrightness node < 2 ^ 31) :
    (∀ state, 0 ≤ getBrightness state ∧ getBrightness state ≤ 255) ∧
      (InRange node ↔ 19 ≤ getMaxBrightness node ∧ getMaxBrightness node ≤ 16909339) := by
  refine ⟨getBrightness_bounds, fun hrange => ?_, inRange_of_scalable⟩
  have hmin := hrange.le_max dim
  rw [handleBacklight_dim] at hmin
  exact scalable_of_white hmin hhi (hrange.eq_max white getBrightness_white)

/-- A panel with 4095 levels. -/
theorem backlight_in_range_4095 :
    getMaxBrightness (some 4095) < 2 ^ 31 ∧ InRange (some 4095) :=
  ⟨by decide, (backlight_in_range_iff (by decide)).2.2 (by decide)⟩

/-- The maximum cannot be read: the dimmest color gets 19 all the same. -/
theorem backlight_unreadable :
    getMaxBrightness none = 0 ∧ handleBacklight dim none = 19 ∧ ¬ InRange none := by
  refine ⟨rfl, by decide, fun hrange => ?_⟩
  exact absurd (hrange.le_max dim) (by decide)

/-! ### The notification lights -/

/-- What is written: the path of a node, and the text. -/
abbrev Write := String × String

/-- `CHARGING_ATTR`. -/
def chargingAttr (name : String) : String := "/sys/class/leds/charging/" ++ name

/-- `ApplyNotificationState`, where `ok` says which writes succeed.  Each way of flashing falls through to
the next one. -/
def ApplyNotificationState (ok : String → Bool) (state : HwLightState) : List Write :=
  let blink : ℤ := if state.flashOnMs > 0 ∧ state.flashOffMs > 0 then 1 else 0
  let constant := [(chargingAttr "brightness", toString (RgbaToBrightness state.color))]
  let timed :=
    [(chargingAttr "delay_off", toString state.flashOffMs),
      (chargingAttr "delay_on", toString state.flashOnMs)] ++
    if ok (chargingAttr "delay_off") && ok (chargingAttr "delay_on") then [] else constant
  match state.flashMode with
  | .HARDWARE =>
      (chargingAttr "breath", toString blink) :: if ok (chargingAttr "breath") then [] else timed
  | .TIMED => timed
  | _ => constant

/-- `LightType`, the lights that there are. -/
inductive LightType where
  | BACKLIGHT
  | BATTERY
  | NOTIFICATIONS
  deriving DecidableEq, Repr

/-- `static_cast<int32_t>` of a type, which is also the id of the light. -/
def LightType.toInt : LightType → ℤ
  | .BACKLIGHT => 0
  | .BATTERY => 3
  | .NOTIFICATIONS => 4

/-- `kAvailableLights`, in the order of priority. -/
def kAvailableLights : List LightType := [.NOTIFICATIONS, .BATTERY]

/-- The index of a light in `kAvailableLights`. -/
abbrev LightIndex := Fin kAvailableLights.length

structure Lights where
  notif_states_ : LightIndex → HwLightState := fun _ => {}

/-- What a call returns. -/
inductive Status where
  | ok
  | EX_UNSUPPORTED_OPERATION
  deriving DecidableEq, Repr

namespace Lights

/-- The light that is updated. -/
def found (id : ℤ) : Option LightIndex :=
  (List.finRange _).find? fun i => decide ((kAvailableLights.get i).toInt = id)

/-- The light whose state is applied: the first one that is lit, or the battery light. -/
def applied (lights : Lights) : Option LightIndex :=
  (List.finRange _).find? fun i =>
    IsLit (lights.notif_states_ i).color || decide (kAvailableLights.get i = .BATTERY)

/-- `setLightState`, with the number that is read from the node of the maximum. -/
def setLightState (ok : String → Bool) (node : Option ℤ) (id : ℤ) (state : HwLightState)
    (lights : Lights) : Status × List Write × Lights :=
  if id = LightType.BACKLIGHT.toInt then
    (.ok, [("/sys/class/leds/lcd-backlight/brightness", toString (handleBacklight state node))], lights)
  else
    match found id with
    | none => (.EX_UNSUPPORTED_OPERATION, [], lights)
    | some i =>
        let lights := { lights with notif_states_ := Function.update lights.notif_states_ i state }
        (.ok, lights.applied.elim [] fun j => ApplyNotificationState ok (lights.notif_states_ j), lights)

/-- The ids that `getLights` returns. -/
def getLights : List LightType := kAvailableLights ++ [.BACKLIGHT]

/-- A call about a light that `getLights` does not return is refused, and changes nothing. -/
theorem setLightState_refused {ok : String → Bool} {node : Option ℤ} {id : ℤ} {state : HwLightState}
    {lights : Lights} (hid : ∀ type ∈ getLights, type.toInt ≠ id) :
    setLightState ok node id state lights = (.EX_UNSUPPORTED_OPERATION, [], lights) := by
  have hback : id ≠ LightType.BACKLIGHT.toInt :=
    fun h => hid .BACKLIGHT (List.mem_append_right _ List.mem_cons_self) h.symm
  have hfound : found id = none := by
    unfold found
    rw [List.find?_eq_none]
    intro i _
    rw [decide_eq_true_iff]
    exact hid _ (List.mem_append_left _ (List.get_mem _ i))
  unfold setLightState
  rw [if_neg hback, hfound]

/-- A call of `setLightState`. -/
structure Call where
  ok : String → Bool
  node : Option ℤ
  id : ℤ
  state : HwLightState

/-- A call, for its effect on the service. -/
def step (lights : Lights) (call : Call) : Lights :=
  (setLightState call.ok call.node call.id call.state lights).2.2

theorem found_eq_some {id : ℤ} {i : LightIndex} (h : found id = some i) :
    (kAvailableLights.get i).toInt = id := by
  have := List.find?_some h
  rwa [decide_eq_true_iff] at this

/-- Different lights have different ids, and none has that of the backlight. -/
theorem toInt_injective {i j : LightIndex}
    (h : (kAvailableLights.get i).toInt = (kAvailableLights.get j).toInt) : i = j := by
  revert i j
  decide

theorem toInt_ne_backlight (i : LightIndex) :
    (kAvailableLights.get i).toInt ≠ LightType.BACKLIGHT.toInt := by
  revert i
  decide

/-- One call: the light with this id, if there is one, gets the state. -/
theorem notif_states_step (lights : Lights) (call : Call) (i : LightIndex) :
    (lights.step call).notif_states_ i =
      if (kAvailableLights.get i).toInt = call.id then call.state else lights.notif_states_ i := by
  unfold step setLightState
  by_cases hback : call.id = LightType.BACKLIGHT.toInt
  · rw [if_pos hback, if_neg (fun h => toInt_ne_backlight i (h.trans hback))]
  · rw [if_neg hback]
    cases hfound : found call.id with
    | none =>
        have hnot : (kAvailableLights.get i).toInt ≠ call.id := by
          have hall := List.find?_eq_none.1 hfound i (List.mem_finRange i)
          rwa [decide_eq_true_iff] at hall
        rw [if_neg hnot]
    | some j =>
        have hid := found_eq_some hfound
        dsimp only
        by_cases hij : i = j
        · rw [hij, Function.update_self, if_pos hid]
        · rw [Function.update_of_ne hij, if_neg fun h => hij (toInt_injective (h.trans hid.symm))]

/-- The call is about a light. -/
def Call.isFor (i : LightIndex) (call : Call) : Bool :=
  decide ((kAvailableLights.get i).toInt = call.id)

/-- The state that a light was last given in a run. -/
def lastFor (i : LightIndex) (calls : List Call) : Option HwLightState :=
  (calls.filter (Call.isFor i)).getLast?.map Call.state

/-- **Whole runs.**  The state that is saved for a light is the one it was last given. -/
theorem saved_run (calls : List Call) (lights : Lights) (i : LightIndex) :
    (calls.foldl step lights).notif_states_ i =
      (lastFor i calls).getD (lights.notif_states_ i) := by
  induction calls using List.reverseRecOn with
  | nil => rfl
  | append_singleton calls call ih =>
      rw [List.foldl_append, List.foldl_cons, List.foldl_nil, notif_states_step, ih]
      unfold lastFor
      rw [List.filter_append]
      by_cases hid : (kAvailableLights.get i).toInt = call.id
      · have hfor : Call.isFor i call = true := decide_eq_true hid
        rw [if_pos hid, List.filter_cons_of_pos hfor, List.filter_nil, List.getLast?_concat]
        rfl
      · have hnot : ¬ Call.isFor i call = true := by
          rwa [Call.isFor, decide_eq_true_iff]
        rw [if_neg hid, List.filter_cons_of_neg hnot, List.filter_nil, List.append_nil]

end Lights

end LightHal
