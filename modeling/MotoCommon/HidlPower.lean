/-
**The modes of the older power service** (`hidl/Power.cpp`).

The service for version 1.3 of the interface is started with a thread of its own that sets it up: it makes
the hint manager and the handler of interactions, turns on what three properties of the system say, and then
says that the service is ready.  A call that comes earlier does nothing.  There is one thread for calls.

Of the modes only `VIDEO_ENCODE` is written to a property, so that it is on again after the service has been
started anew.  Virtual reality and sustained performance share three hints, as in `MotoCommon/PowerModes.lean`,
and while one of the two is on, calls about four other hints are not looked at.

Main definitions:

* `Hidl.Power`, `Hidl.Device` — the members, and the service with the properties;
* `Hidl.Power.initThread`, `Hidl.Device.powerHintAsync_1_3` — the thread that sets it up, and the calls;
* `Hidl.Device.run` — calls, steps of that thread, properties being cleared and new starts in any order.

Main results:

* `Hidl.Device.SetUp.step` — **one step** keeps the hints and the flags together;
* `Hidl.hidl_hints_match_flags` — **whole runs**: nothing is used before it is there, the hints match the
  flags, and while a mode is on none of the four other hints is started or ended.
-/

import MotoCommon.PowerModes

set_option autoImplicit false

namespace Hidl

open Adpf (HintCall)

/-! ### Hints -/

/-- `PowerHint_1_0`.  A value that is none of the enumerators is not looked at. -/
inductive PowerHint_1_0 where
  | VSYNC
  | INTERACTION
  | VIDEO_ENCODE
  | VIDEO_DECODE
  | LOW_POWER
  | SUSTAINED_PERFORMANCE
  | VR_MODE
  | LAUNCH
  | other (value : ℤ)
  deriving DecidableEq, Repr

/-- `PowerHint_1_2`: the enumerators of `PowerHint_1_0`, and five more. -/
inductive PowerHint_1_2 where
  | base (hint : PowerHint_1_0)
  | AUDIO_STREAMING
  | AUDIO_LOW_LATENCY
  | CAMERA_LAUNCH
  | CAMERA_STREAMING
  | CAMERA_SHOT
  deriving DecidableEq, Repr

/-- `PowerHint_1_3`: one more. -/
inductive PowerHint_1_3 where
  | base (hint : PowerHint_1_2)
  | EXPENSIVE_RENDERING
  deriving DecidableEq, Repr

/-- What is asked of the hint manager and of the handler of interactions. -/
inductive HalCall where
  | hint (call : HintCall)
  /-- `DoHint` for a time in milliseconds. -/
  | hintFor (hint : String) (ms : ℤ)
  | acquire (duration : ℤ)
  deriving DecidableEq, Repr

/-- The calls without a time, for the hint manager. -/
def HalCall.hint? : HalCall → Option HintCall
  | .hint call => some call
  | _ => none

/-! ### The service -/

/-- What the thread that sets the service up does next. -/
inductive InitStep where
  | hintManager
  | interactionHandler
  | state
  | audio
  | rendering
  | ready
  | done
  deriving DecidableEq, Repr

/-- The members of `Power`; of the two pointers, whether they are set. -/
structure Power where
  mHintManager : Bool := false
  mInteractionHandler : Bool := false
  mVRModeOn : Bool := false
  mSustainedPerfModeOn : Bool := false
  mEncoderModeOn : Bool := false
  mReady : Bool := false
  /-- Where `mInitThread` is. -/
  next : InitStep := .hintManager
  /-- What was asked for, the last call first. -/
  calls : List HalCall := []
  /-- A pointer was used that is not set. -/
  fault : Bool := false
  deriving DecidableEq, Repr

/-- `vendor.powerhal.state`, `vendor.powerhal.audio` and `vendor.powerhal.rendering`. -/
structure Properties where
  state : String := ""
  audio : String := ""
  rendering : String := ""
  deriving DecidableEq, Repr

inductive PropertyName where
  | state
  | audio
  | rendering
  deriving DecidableEq, Repr

/-- `setprop`, which sets the property to the empty string. -/
def Properties.clear (props : Properties) : PropertyName → Properties
  | .state => { props with state := "" }
  | .audio => { props with audio := "" }
  | .rendering => { props with rendering := "" }

namespace Power

/-- A call of the hint manager. -/
def ask (call : HalCall) (p : Power) : Power :=
  { p with calls := call :: p.calls, fault := p.fault || !p.mHintManager }

/-- `DoHint` and `EndHint`. -/
def DoHint (hint : String) (p : Power) : Power := p.ask (.hint (.doHint hint))
def EndHint (hint : String) (p : Power) : Power := p.ask (.hint (.endHint hint))

/-- `mInteractionHandler->Acquire`. -/
def acquire (duration : ℤ) (p : Power) : Power :=
  { p with calls := .acquire duration :: p.calls, fault := p.fault || !p.mInteractionHandler }

/-- Calls of the hint manager, one after the other. -/
def hints (calls : List HintCall) (p : Power) : Power := calls.foldl (fun p call => p.ask (.hint call)) p

/-- Whether a hint is held. -/
def held (p : Power) (hint : String) : Bool := Adpf.held hint (p.calls.filterMap HalCall.hint?)

/-- What is done about `vendor.powerhal.state` at first. -/
def initState (state : String) (p : Power) : Power :=
  if state = "VIDEO_ENCODE" then { p.DoHint "VIDEO_ENCODE" with mEncoderModeOn := true }
  else if state = "SUSTAINED_PERFORMANCE" then
    { p.DoHint "SUSTAINED_PERFORMANCE" with mSustainedPerfModeOn := true }
  else if state = "VR_MODE" then { p.DoHint "VR_MODE" with mVRModeOn := true }
  else if state = "VR_SUSTAINED_PERFORMANCE" then
    { p.DoHint "VR_SUSTAINED_PERFORMANCE" with mSustainedPerfModeOn := true, mVRModeOn := true }
  else p

/-- The next thing that `mInitThread` does. -/
def initThread (props : Properties) (p : Power) : Power :=
  match p.next with
  | .hintManager => { p with mHintManager := true, next := .interactionHandler }
  | .interactionHandler => { p with mInteractionHandler := true, next := .state }
  | .state => { p.initState props.state with next := .audio }
  | .audio =>
      let p := if props.audio = "AUDIO_LOW_LATENCY" then p.DoHint "AUDIO_LOW_LATENCY" else p
      { p with next := .rendering }
  | .rendering =>
      let p := if props.rendering = "EXPENSIVE_RENDERING" then p.DoHint "EXPENSIVE_RENDERING" else p
      { p with next := .ready }
  | .ready => { p with mReady := true, next := .done }
  | .done => p

/-- A hint that is held until it is ended. -/
def onOff (hint : String) (on : Bool) (p : Power) : Power := if on then p.DoHint hint else p.EndHint hint

/-- The cases for a camera: a negative number is not looked at. -/
def camera (start : HalCall) (hint : String) (data : ℤ) (p : Power) : Power :=
  if data > 0 then p.ask start else if data = 0 then p.EndHint hint else p

/-- The case `SUSTAINED_PERFORMANCE` of `powerHint`. -/
def setSustainedPerf (on : Bool) (p : Power) : Power :=
  let (calls, flag) := Adpf.Power.swapHints "SUSTAINED_PERFORMANCE" "VR_MODE" on p.mSustainedPerfModeOn
    p.mVRModeOn
  { p.hints calls with mSustainedPerfModeOn := flag }

/-- The case `VR_MODE` of `powerHint`. -/
def setVR (on : Bool) (p : Power) : Power :=
  let (calls, flag) := Adpf.Power.swapHints "VR_MODE" "SUSTAINED_PERFORMANCE" on p.mVRModeOn
    p.mSustainedPerfModeOn
  { p.hints calls with mVRModeOn := flag }

/-- Virtual reality or sustained performance is on. -/
def busy (p : Power) : Bool := p.mVRModeOn || p.mSustainedPerfModeOn

end Power

/-- The service and the properties of the system. -/
structure Device where
  power : Power := {}
  props : Properties := {}
  deriving DecidableEq, Repr

namespace Device

/-- The members change. -/
def onPower (f : Power → Power) (d : Device) : Device := { d with power := f d.power }

/-- `SetProperty` for `vendor.powerhal.state`; it may fail. -/
def SetProperty (value : String) (success : Bool) (d : Device) : Device :=
  if success then { d with props := { d.props with state := value } } else d

/-- The case `VIDEO_ENCODE` of `powerHint`.  The flags are looked at twice. -/
def videoEncode (on success : Bool) (d : Device) : Device :=
  if d.power.busy then d
  else if d.power.busy then d
  else if on then
    let d := (d.onPower (·.DoHint "VIDEO_ENCODE")).SetProperty "VIDEO_ENCODE" success
    d.onPower fun p => { p with mEncoderModeOn := true }
  else
    let d := (d.onPower (·.EndHint "VIDEO_ENCODE")).SetProperty "" success
    d.onPower fun p => { p with mEncoderModeOn := false }

/-- `powerHint`, where `SetProperty` succeeds or not. -/
def powerHint (hint : PowerHint_1_0) (data : ℤ) (success : Bool) (d : Device) : Device :=
  if !d.power.mReady then d
  else
    let on := decide (data ≠ 0)
    match hint with
    | .INTERACTION => if d.power.busy then d else d.onPower (·.acquire data)
    | .VIDEO_ENCODE => d.videoEncode on success
    | .SUSTAINED_PERFORMANCE => d.onPower (·.setSustainedPerf on)
    | .VR_MODE => d.onPower (·.setVR on)
    | .LAUNCH => if d.power.busy then d else d.onPower (·.onOff "LAUNCH" on)
    | _ => d

def powerHintAsync (hint : PowerHint_1_0) (data : ℤ) (success : Bool) (d : Device) : Device :=
  d.powerHint hint data success

def powerHintAsync_1_2 (hint : PowerHint_1_2) (data : ℤ) (success : Bool) (d : Device) : Device :=
  if !d.power.mReady then d
  else
    let on := decide (data ≠ 0)
    match hint with
    | .AUDIO_LOW_LATENCY => d.onPower (·.onOff "AUDIO_LOW_LATENCY" on)
    | .AUDIO_STREAMING => d.onPower (·.onOff "AUDIO_STREAMING" on)
    | .CAMERA_LAUNCH => d.onPower (·.camera (.hint (.doHint "CAMERA_LAUNCH")) "CAMERA_LAUNCH" data)
    | .CAMERA_STREAMING => d.onPower (·.camera (.hintFor "CAMERA_STREAMING" data) "CAMERA_STREAMING" data)
    | .CAMERA_SHOT => d.onPower (·.camera (.hintFor "CAMERA_SHOT" data) "CAMERA_SHOT" data)
    | .base hint => d.powerHint hint data success

def powerHintAsync_1_3 (hint : PowerHint_1_3) (data : ℤ) (success : Bool) (d : Device) : Device :=
  if !d.power.mReady then d
  else
    match hint with
    | .EXPENSIVE_RENDERING =>
        if d.power.busy then d else d.onPower (·.onOff "EXPENSIVE_RENDERING" (decide (data > 0)))
    | .base hint => d.powerHintAsync_1_2 hint data success

end Device

/-- The calls of the four versions of the interface. -/
inductive Call where
  | powerHint (hint : PowerHint_1_0) (data : ℤ)
  | powerHintAsync (hint : PowerHint_1_0) (data : ℤ)
  | powerHintAsync_1_2 (hint : PowerHint_1_2) (data : ℤ)
  | powerHintAsync_1_3 (hint : PowerHint_1_3) (data : ℤ)
  deriving DecidableEq, Repr

/-- What can happen. -/
inductive Event where
  /-- A call, and whether `SetProperty` succeeds in it. -/
  | call (call : Call) (success : Bool)
  /-- A step of the thread that sets the service up. -/
  | initThread
  /-- A `setprop` of `android.hardware.power@1.3-service.moto-common.rc`.  It clears properties, and then starts
  the service anew, when zygote or the services for the camera or audio are restarting; calls may come in
  between. -/
  | clear (name : PropertyName)
  /-- The service ends, and is started anew. -/
  | restart
  deriving DecidableEq, Repr

namespace Device

def call (call : Call) (success : Bool) (d : Device) : Device :=
  match call with
  | .powerHint hint data => d.powerHint hint data success
  | .powerHintAsync hint data => d.powerHintAsync hint data success
  | .powerHintAsync_1_2 hint data => d.powerHintAsync_1_2 hint data success
  | .powerHintAsync_1_3 hint data => d.powerHintAsync_1_3 hint data success

def step (d : Device) : Event → Device
  | .call call success => d.call call success
  | .initThread => d.onPower (·.initThread d.props)
  | .clear name => { d with props := d.props.clear name }
  | .restart => { d with power := {} }

def run (events : List Event) (d : Device) : Device := events.foldl step d

/-- The service is started with these properties. -/
def start (props : Properties) : Device := { props := props }

end Device

/-! ### Which hint a call is about -/

/-- The hint that a call is about, if any. -/
def HalCall.about : HalCall → Option String
  | .hint (.doHint name) => some name
  | .hint (.endHint name) => some name
  | .hintFor name _ => some name
  | .acquire _ => none

/-- The hints that virtual reality and sustained performance share. -/
def modeHints : List String := ["VR_MODE", "SUSTAINED_PERFORMANCE", "VR_SUSTAINED_PERFORMANCE"]

/-- What is left alone while one of the two modes is on. -/
def HalCall.yields : HalCall → Bool
  | .acquire _ => true
  | call => decide (∃ name ∈ ["LAUNCH", "VIDEO_ENCODE", "EXPENSIVE_RENDERING"], call.about = some name)

namespace Power

variable {p : Power} {hint : String}

@[simp] theorem ask_calls (call : HalCall) (p : Power) : (p.ask call).calls = call :: p.calls := rfl

theorem held_ask_of_ne {call : HalCall} (h : call.about ≠ some hint) :
    (p.ask call).held hint = p.held hint := by
  have hne : ∀ {hint' : String}, some hint' ≠ some hint → ¬ hint' = hint :=
    fun h heq => h (congrArg some heq)
  cases call with
  | acquire duration => rfl
  | hintFor hint' ms => rfl
  | hint call =>
      cases call with
      | doHint hint' => exact if_neg (hne h)
      | endHint hint' => exact if_neg (hne h)

/-- `onOff` is one call. -/
theorem onOff_eq (hint : String) (on : Bool) (p : Power) :
    p.onOff hint on = p.ask (.hint (if on then .doHint hint else .endHint hint)) := by
  cases on <;> rfl

/-- Only the calls change, and the fault if there is no hint manager. -/
theorem hints_eq (calls : List HintCall) (p : Power) :
    ∃ fault, p.hints calls = { p with calls := (calls.map HalCall.hint).reverse ++ p.calls, fault := fault } ∧
      (p.mHintManager = true → fault = p.fault) := by
  induction calls generalizing p with
  | nil => exact ⟨p.fault, rfl, fun _ => rfl⟩
  | cons call calls ih =>
      obtain ⟨fault, heq, hfault⟩ := ih (p.ask (.hint call))
      refine ⟨fault, ?_, fun hmanager => (hfault hmanager).trans ?_⟩
      · rw [List.map_cons, List.reverse_cons, List.append_assoc]
        exact heq
      · unfold ask
        rw [hmanager, Bool.not_true, Bool.or_false]

theorem hints_held (calls : List HintCall) (p : Power) (hint : String) :
    (p.hints calls).held hint =
      Adpf.held hint (calls.reverse ++ p.calls.filterMap HalCall.hint?) := by
  have hsome : (calls.map HalCall.hint).filterMap HalCall.hint? = calls := by
    rw [List.filterMap_map]
    exact List.filterMap_some
  obtain ⟨fault, heq, -⟩ := hints_eq calls p
  unfold held
  rw [heq, List.filterMap_append, List.filterMap_reverse, hsome]

/-! ### Flags and hints -/

/-- Of the shared hints the one that the flags say is held and no other; and `VIDEO_ENCODE` is held if its
flag says so. -/
structure Matched (p : Power) : Prop where
  vr : p.held "VR_MODE" = (p.mVRModeOn && !p.mSustainedPerfModeOn)
  sustained : p.held "SUSTAINED_PERFORMANCE" = (p.mSustainedPerfModeOn && !p.mVRModeOn)
  both : p.held "VR_SUSTAINED_PERFORMANCE" = (p.mVRModeOn && p.mSustainedPerfModeOn)
  encoder : p.held "VIDEO_ENCODE" = p.mEncoderModeOn

/-- The hints in question. -/
def matchedHints : List String := "VIDEO_ENCODE" :: modeHints

/-- A step that leaves the flags and those hints alone. -/
theorem Matched.congr {q : Power} (h : Matched p) (hvr : q.mVRModeOn = p.mVRModeOn)
    (hsustained : q.mSustainedPerfModeOn = p.mSustainedPerfModeOn)
    (hencoder : q.mEncoderModeOn = p.mEncoderModeOn)
    (hheld : ∀ hint ∈ matchedHints, q.held hint = p.held hint) : Matched q where
  vr := by rw [hheld _ (by decide), hvr, hsustained, h.vr]
  sustained := by rw [hheld _ (by decide), hvr, hsustained, h.sustained]
  both := by rw [hheld _ (by decide), hvr, hsustained, h.both]
  encoder := by rw [hheld _ (by decide), hencoder, h.encoder]

theorem Matched.ask (h : Matched p) {call : HalCall} (hcall : ∀ hint ∈ matchedHints, call.about ≠ some hint) :
    Matched (p.ask call) :=
  h.congr rfl rfl rfl fun hint hmem => held_ask_of_ne (hcall hint hmem)

theorem Matched.acquire (h : Matched p) (duration : ℤ) : Matched (p.acquire duration) :=
  h.congr rfl rfl rfl fun _ _ => rfl

/-- `VIDEO_ENCODE` is started or ended together with its flag. -/
def encode (on : Bool) (p : Power) : Power :=
  { p.ask (.hint (if on then .doHint "VIDEO_ENCODE" else .endHint "VIDEO_ENCODE")) with mEncoderModeOn := on }

theorem Matched.encode (h : Matched p) (on : Bool) : Matched (p.encode on) := by
  have hother : ∀ hint ∈ modeHints, (p.encode on).held hint = p.held hint := by
    intro hint hmem
    refine held_ask_of_ne fun heq => ?_
    have hname : "VIDEO_ENCODE" = hint := by
      cases on <;> exact Option.some.inj heq
    rw [← hname] at hmem
    exact absurd hmem (by decide)
  refine ⟨(hother _ (by decide)).trans h.vr, (hother _ (by decide)).trans h.sustained,
    (hother _ (by decide)).trans h.both, ?_⟩
  cases on with
  | true => rfl
  | false => rfl

@[simp] theorem hints_mVRModeOn (calls : List HintCall) (p : Power) :
    (p.hints calls).mVRModeOn = p.mVRModeOn := by
  obtain ⟨fault, heq, -⟩ := hints_eq calls p
  rw [heq]

@[simp] theorem hints_mSustainedPerfModeOn (calls : List HintCall) (p : Power) :
    (p.hints calls).mSustainedPerfModeOn = p.mSustainedPerfModeOn := by
  obtain ⟨fault, heq, -⟩ := hints_eq calls p
  rw [heq]

@[simp] theorem hints_mEncoderModeOn (calls : List HintCall) (p : Power) :
    (p.hints calls).mEncoderModeOn = p.mEncoderModeOn := by
  obtain ⟨fault, heq, -⟩ := hints_eq calls p
  rw [heq]

/-- Switching one of the two modes leaves the other hints alone. -/
theorem swapHints_held_other {own other hint : String} (hown : own ≠ hint) (hother : other ≠ hint)
    (hboth : "VR_SUSTAINED_PERFORMANCE" ≠ hint) (on ownOn otherOn : Bool) (log : List HintCall) :
    Adpf.held hint ((Adpf.Power.swapHints own other on ownOn otherOn).1.reverse ++ log) =
      Adpf.held hint log := by
  unfold Adpf.Power.swapHints
  cases on <;> cases ownOn <;> cases otherOn <;> simp [hown, hother, hboth]

theorem Matched.setVR (h : Matched p) (on : Bool) :
    Matched (p.setVR on) ∧ (p.setVR on).mVRModeOn = on := by
  obtain ⟨hon, hvr, hsustained, hboth⟩ := Adpf.Power.swapHints_held (by decide) (by decide) (by decide) on
    h.vr h.sustained h.both
  have hflag : (p.setVR on).mVRModeOn = on := hon
  have hother : (p.setVR on).mSustainedPerfModeOn = p.mSustainedPerfModeOn := hints_mSustainedPerfModeOn _ p
  refine ⟨⟨?_, ?_, ?_, ?_⟩, hflag⟩
  · rw [hflag, hother]
    exact (hints_held _ p _).trans hvr
  · rw [hflag, hother]
    exact (hints_held _ p _).trans hsustained
  · rw [hflag, hother]
    exact (hints_held _ p _).trans hboth
  · refine (hints_held _ p _).trans (.trans ?_ (h.encoder.trans (hints_mEncoderModeOn _ p).symm))
    exact swapHints_held_other (by decide) (by decide) (by decide) _ _ _ _

theorem Matched.setSustainedPerf (h : Matched p) (on : Bool) :
    Matched (p.setSustainedPerf on) ∧ (p.setSustainedPerf on).mSustainedPerfModeOn = on := by
  obtain ⟨hon, hsustained, hvr, hboth⟩ := Adpf.Power.swapHints_held (by decide) (by decide) (by decide) on
    h.sustained h.vr (h.both.trans (Bool.and_comm _ _))
  have hflag : (p.setSustainedPerf on).mSustainedPerfModeOn = on := hon
  have hother : (p.setSustainedPerf on).mVRModeOn = p.mVRModeOn := hints_mVRModeOn _ p
  refine ⟨⟨?_, ?_, ?_, ?_⟩, hflag⟩
  · rw [hflag, hother]
    exact (hints_held _ p _).trans hvr
  · rw [hflag, hother]
    exact (hints_held _ p _).trans hsustained
  · rw [hflag, hother, Bool.and_comm]
    exact (hints_held _ p _).trans hboth
  · refine (hints_held _ p _).trans (.trans ?_ (h.encoder.trans (hints_mEncoderModeOn _ p).symm))
    exact swapHints_held_other (by decide) (by decide) (by decide) _ _ _ _

/-! ### Setting the service up -/

/-- Both pointers are set, none was used before, and the hints match the flags. -/
structure Live (p : Power) : Prop where
  manager : p.mHintManager = true
  handler : p.mInteractionHandler = true
  noFault : p.fault = false
  matched : p.Matched

/-- How far the thread that sets the service up has come. -/
inductive SetUp : Power → Prop
  | started : SetUp {}
  | manager : SetUp { mHintManager := true, next := .interactionHandler }
  | handler : SetUp { mHintManager := true, mInteractionHandler := true, next := .state }
  | reading {p : Power} : Live p → p.mReady = false →
      p.next = .audio ∨ p.next = .rendering ∨ p.next = .ready → SetUp p
  | ready {p : Power} : Live p → p.mReady = true → p.next = .done → SetUp p

theorem SetUp.live (h : SetUp p) (hready : p.mReady = true) : Live p ∧ p.next = .done := by
  cases h with
  | started => exact absurd hready Bool.false_ne_true
  | manager => exact absurd hready Bool.false_ne_true
  | handler => exact absurd hready Bool.false_ne_true
  | reading _ hnot _ => exact absurd (hnot.symm.trans hready) Bool.false_ne_true
  | ready hlive _ hdone => exact ⟨hlive, hdone⟩

/-- As long as it is not ready, no flag is on, or the properties are being read. -/
theorem SetUp.noFault (h : SetUp p) : p.fault = false ∧ p.Matched := by
  cases h with
  | started => exact ⟨rfl, ⟨rfl, rfl, rfl, rfl⟩⟩
  | manager => exact ⟨rfl, ⟨rfl, rfl, rfl, rfl⟩⟩
  | handler => exact ⟨rfl, ⟨rfl, rfl, rfl, rfl⟩⟩
  | reading hlive _ _ => exact ⟨hlive.noFault, hlive.matched⟩
  | ready hlive _ _ => exact ⟨hlive.noFault, hlive.matched⟩

/-- Asking the hint manager, when it is there, does no harm. -/
theorem Live.fault_ask (h : Live p) : (p.fault || !p.mHintManager) = false := by
  rw [h.noFault, h.manager, Bool.not_true, Bool.or_false]

theorem Live.ask (h : Live p) {call : HalCall} (hcall : ∀ hint ∈ matchedHints, call.about ≠ some hint) :
    Live (p.ask call) :=
  ⟨h.manager, h.handler, h.fault_ask, h.matched.ask hcall⟩

/-- A hint is started that no flag stands for. -/
theorem Live.doHint (h : Live p) {hint : String} (hhint : hint ∉ matchedHints) : Live (p.DoHint hint) := by
  refine h.ask fun hint' hmem heq => hhint ?_
  rw [Option.some.inj heq]
  exact hmem

theorem Live.encode (h : Live p) (on : Bool) : Live (p.encode on) :=
  ⟨h.manager, h.handler, h.fault_ask, h.matched.encode on⟩

/-- The members other than `next` count. -/
theorem Live.goOn (h : Live p) (next : InitStep) (ready : Bool) :
    Live { p with next := next, mReady := ready } :=
  ⟨h.manager, h.handler, h.noFault, ⟨h.matched.vr, h.matched.sustained, h.matched.both, h.matched.encoder⟩⟩

/-- The flags that the first property stands for are set with the hint that matches them. -/
theorem Live.initState (state : String) :
    Live (Power.initState state { mHintManager := true, mInteractionHandler := true, next := .state }) := by
  unfold Power.initState
  split_ifs <;> exact ⟨rfl, rfl, rfl, ⟨rfl, rfl, rfl, rfl⟩⟩

theorem initState_mReady (state : String) (p : Power) : (p.initState state).mReady = p.mReady := by
  unfold Power.initState
  split_ifs <;> rfl

/-- **A step of the thread that sets the service up.** -/
theorem SetUp.initThread (h : SetUp p) (props : Properties) : SetUp (p.initThread props) := by
  cases h with
  | started => exact .manager
  | manager => exact .handler
  | handler => exact .reading ((Live.initState props.state).goOn _ _) (initState_mReady _ _) (Or.inl rfl)
  | reading hlive hready hnext =>
      unfold Power.initThread
      rcases hnext with hnext | hnext | hnext <;> rw [hnext]
      · dsimp only
        split
        · exact .reading ((hlive.doHint (by decide)).goOn _ _) hready (Or.inr (Or.inl rfl))
        · exact .reading (hlive.goOn _ _) hready (Or.inr (Or.inl rfl))
      · dsimp only
        split
        · exact .reading ((hlive.doHint (by decide)).goOn _ _) hready (Or.inr (Or.inr rfl))
        · exact .reading (hlive.goOn _ _) hready (Or.inr (Or.inr rfl))
      · exact .ready (hlive.goOn _ _) rfl rfl
  | ready hlive hready hnext =>
      unfold Power.initThread
      rw [hnext]
      exact .ready hlive hready hnext

end Power

/-! ### What a call does -/

namespace Device

variable {d : Device}

/-- What a call can do to the service. -/
inductive Does (d : Device) (success : Bool) : Device → Prop
  | nothing : Does d success d
  /-- A call of the hint manager about a hint that no flag stands for. -/
  | asked {call : HalCall} : d.power.mReady = true → (∀ hint ∈ Power.matchedHints, call.about ≠ some hint) →
      (call.yields = true → d.power.busy = false) → Does d success (d.onPower (·.ask call))
  | acquired (duration : ℤ) : d.power.mReady = true → d.power.busy = false →
      Does d success (d.onPower (·.acquire duration))
  | encoded (on : Bool) : d.power.mReady = true → d.power.busy = false →
      Does d success ((d.onPower (·.encode on)).SetProperty (if on then "VIDEO_ENCODE" else "") success)
  | vr (on : Bool) : d.power.mReady = true → Does d success (d.onPower (·.setVR on))
  | sustained (on : Bool) : d.power.mReady = true →
      Does d success (d.onPower (·.setSustainedPerf on))

theorem does_onOff {hint : String} {on success : Bool} (hready : d.power.mReady = true)
    (hhint : hint ∉ Power.matchedHints)
    (hyields : hint = "LAUNCH" ∨ hint = "EXPENSIVE_RENDERING" → d.power.busy = false) :
    Does d success (d.onPower (·.onOff hint on)) := by
  have habout : (HalCall.hint (if on then .doHint hint else .endHint hint)).about = some hint := by
    cases on <;> rfl
  have heq : d.onPower (·.onOff hint on) =
      d.onPower (·.ask (.hint (if on then .doHint hint else .endHint hint))) :=
    congrArg (fun p => { d with power := p }) (Power.onOff_eq hint on d.power)
  rw [heq]
  refine .asked hready (fun hint' hmem hsome => hhint ?_) fun h => hyields ?_
  · rw [habout] at hsome
    rw [Option.some.inj hsome]
    exact hmem
  · obtain ⟨name, hname, hsome⟩ := of_decide_eq_true h
    rw [habout] at hsome
    obtain rfl := Option.some.inj hsome
    simp only [List.mem_cons, List.not_mem_nil, or_false] at hname
    rcases hname with h | h | h
    · exact Or.inl h
    · exact absurd (by rw [h]; decide) hhint
    · exact Or.inr h

theorem does_camera {start : HalCall} {hint : String} {data : ℤ} {success : Bool} (hready : d.power.mReady = true)
    (hstart : start.about = some hint) (hmatched : hint ∉ Power.matchedHints) (hfree : start.yields = false)
    (hfree' : (HalCall.hint (.endHint hint)).yields = false) :
    Does d success (d.onPower (·.camera start hint data)) := by
  have hne : ∀ hint' ∈ Power.matchedHints, some hint ≠ some hint' := by
    rintro hint' hmem heq
    rw [Option.some.inj heq] at hmatched
    exact hmatched hmem
  unfold Power.camera
  split_ifs with hpos hzero
  · refine .asked hready (fun hint' hmem => ?_) fun h => absurd (hfree.symm.trans h) Bool.false_ne_true
    rw [hstart]
    exact hne hint' hmem
  · exact .asked hready hne fun h => absurd (hfree'.symm.trans h) Bool.false_ne_true
  · exact .nothing

/-- The second look at the flags sees what the first one has seen. -/
theorem videoEncode_eq {on success : Bool} (hfree : d.power.busy = false) :
    d.videoEncode on success =
      (d.onPower (·.encode on)).SetProperty (if on then "VIDEO_ENCODE" else "") success := by
  unfold videoEncode
  rw [hfree]
  cases on <;> cases success <;> rfl

theorem does_powerHint (hint : PowerHint_1_0) (data : ℤ) (success : Bool) (d : Device) :
    Does d success (d.powerHint hint data success) := by
  unfold powerHint
  split
  case isTrue hnot => exact .nothing
  case isFalse hnot =>
    have hready : d.power.mReady = true := by simpa using hnot
    cases hint with
    | INTERACTION =>
        dsimp only
        split
        case isTrue hbusy => exact .nothing
        case isFalse hfree => exact .acquired data hready (Bool.eq_false_iff.2 hfree)
    | VIDEO_ENCODE =>
        dsimp only
        cases hbusy : d.power.busy with
        | true =>
            rw [videoEncode, if_pos hbusy]
            exact .nothing
        | false =>
            rw [videoEncode_eq hbusy]
            exact .encoded _ hready hbusy
    | SUSTAINED_PERFORMANCE => exact .sustained _ hready
    | VR_MODE => exact .vr _ hready
    | LAUNCH =>
        dsimp only
        split
        case isTrue hbusy => exact .nothing
        case isFalse hfree => exact does_onOff hready (by decide) fun _ => Bool.eq_false_iff.2 hfree
    | _ => exact .nothing

theorem does_powerHintAsync_1_2 (hint : PowerHint_1_2) (data : ℤ) (success : Bool) (d : Device) :
    Does d success (d.powerHintAsync_1_2 hint data success) := by
  unfold powerHintAsync_1_2
  split
  case isTrue hnot => exact .nothing
  case isFalse hnot =>
    have hready : d.power.mReady = true := by simpa using hnot
    cases hint with
    | AUDIO_LOW_LATENCY => exact does_onOff hready (by decide) fun h => absurd h (by decide)
    | AUDIO_STREAMING => exact does_onOff hready (by decide) fun h => absurd h (by decide)
    | CAMERA_LAUNCH => exact does_camera hready rfl (by decide) rfl rfl
    | CAMERA_STREAMING => exact does_camera hready rfl (by decide) rfl rfl
    | CAMERA_SHOT => exact does_camera hready rfl (by decide) rfl rfl
    | base hint => exact does_powerHint hint data success d

theorem does_powerHintAsync_1_3 (hint : PowerHint_1_3) (data : ℤ) (success : Bool) (d : Device) :
    Does d success (d.powerHintAsync_1_3 hint data success) := by
  unfold powerHintAsync_1_3
  split
  case isTrue hnot => exact .nothing
  case isFalse hnot =>
    have hready : d.power.mReady = true := by simpa using hnot
    cases hint with
    | EXPENSIVE_RENDERING =>
        dsimp only
        split
        case isTrue hbusy => exact .nothing
        case isFalse hfree => exact does_onOff hready (by decide) fun _ => Bool.eq_false_iff.2 hfree
    | base hint => exact does_powerHintAsync_1_2 hint data success d

/-- **What a call does.** -/
theorem does_call (call : Call) (success : Bool) (d : Device) : Does d success (d.call call success) := by
  cases call with
  | powerHint hint data => exact does_powerHint hint data success d
  | powerHintAsync hint data => exact does_powerHint hint data success d
  | powerHintAsync_1_2 hint data => exact does_powerHintAsync_1_2 hint data success d
  | powerHintAsync_1_3 hint data => exact does_powerHintAsync_1_3 hint data success d

end Device

/-! ### Whole runs -/

namespace Power

variable {p : Power}

theorem hints_live {calls : List HintCall} (h : Live p) {q : Power}
    (hq : ∃ vr sustained, q = { p.hints calls with mVRModeOn := vr, mSustainedPerfModeOn := sustained })
    (hmatched : q.Matched) : Live q ∧ q.mReady = p.mReady ∧ q.next = p.next := by
  obtain ⟨vr, sustained, rfl⟩ := hq
  obtain ⟨fault, heq, hfault⟩ := hints_eq calls p
  rw [heq] at hmatched ⊢
  exact ⟨⟨h.manager, h.handler, (hfault h.manager).trans h.noFault, hmatched⟩, rfl, rfl⟩

end Power

namespace Device

variable {d d' : Device} {success : Bool}

@[simp] theorem power_SetProperty (value : String) (success : Bool) (d : Device) :
    (d.SetProperty value success).power = d.power := by
  cases success <;> rfl

/-- A call keeps the hints and the flags together. -/
theorem Does.setUp (h : Does d success d') (hd : d.power.SetUp) : d'.power.SetUp := by
  cases h with
  | nothing => exact hd
  | asked hready hfree _ =>
      obtain ⟨hlive, hdone⟩ := hd.live hready
      exact .ready (hlive.ask hfree) hready hdone
  | acquired duration hready _ =>
      obtain ⟨hlive, hdone⟩ := hd.live hready
      have hfault : (d.power.acquire duration).fault = false := by
        unfold Power.acquire
        rw [hlive.handler, hlive.noFault]
        rfl
      exact .ready ⟨hlive.manager, hlive.handler, hfault, hlive.matched.acquire duration⟩ hready hdone
  | encoded on hready _ =>
      obtain ⟨hlive, hdone⟩ := hd.live hready
      rw [power_SetProperty]
      exact .ready (hlive.encode on) hready hdone
  | vr on hready =>
      obtain ⟨hlive, hdone⟩ := hd.live hready
      obtain ⟨hlive', hready', hnext'⟩ := Power.hints_live hlive ⟨_, _, rfl⟩ (hlive.matched.setVR on).1
      exact .ready hlive' (hready'.trans hready) (hnext'.trans hdone)
  | sustained on hready =>
      obtain ⟨hlive, hdone⟩ := hd.live hready
      obtain ⟨hlive', hready', hnext'⟩ := Power.hints_live hlive ⟨_, _, rfl⟩ (hlive.matched.setSustainedPerf on).1
      exact .ready hlive' (hready'.trans hready) (hnext'.trans hdone)

/-- **One step.** -/
theorem SetUp.step (hd : d.power.SetUp) (event : Event) : (d.step event).power.SetUp := by
  cases event with
  | call call success => exact (does_call call success d).setUp hd
  | initThread => exact hd.initThread d.props
  | clear name => exact hd
  | restart => exact .started

theorem setUp_run (props : Properties) (events : List Event) : ((start props).run events).power.SetUp :=
  List.foldlRecOn (motive := fun d : Device => d.power.SetUp) events _ .started
    fun _ hd event _ => SetUp.step hd event

/-- While one of the two modes is on, only calls are added that do not yield to them. -/
theorem Does.added (h : Does d success d') (hbusy : d.power.busy = true) :
    ∃ added, d'.power.calls = added ++ d.power.calls ∧ ∀ call ∈ added, call.yields = false := by
  have hnot : d.power.busy = false → ∀ {P : Prop}, P :=
    fun hfree => absurd (hfree.symm.trans hbusy) Bool.false_ne_true
  have hvr : ∀ on ownOn otherOn : Bool, ∀ call ∈ ((Adpf.Power.swapHints "VR_MODE" "SUSTAINED_PERFORMANCE" on
      ownOn otherOn).1.map HalCall.hint).reverse, call.yields = false := by decide
  have hsustained : ∀ on ownOn otherOn : Bool, ∀ call ∈ ((Adpf.Power.swapHints "SUSTAINED_PERFORMANCE" "VR_MODE"
      on ownOn otherOn).1.map HalCall.hint).reverse, call.yields = false := by decide
  cases h with
  | nothing => exact ⟨[], rfl, nofun⟩
  | @asked call _ _ hyields =>
      refine ⟨[call], rfl, fun call' hmem => ?_⟩
      rw [List.mem_singleton.1 hmem, Bool.eq_false_iff]
      exact fun h => hnot (hyields h)
  | acquired _ _ hfree => exact hnot hfree
  | encoded _ _ hfree => exact hnot hfree
  | vr on _ =>
      obtain ⟨fault, heq, -⟩ := Power.hints_eq (Adpf.Power.swapHints "VR_MODE" "SUSTAINED_PERFORMANCE" on
        d.power.mVRModeOn d.power.mSustainedPerfModeOn).1 d.power
      exact ⟨_, congrArg Power.calls heq, hvr on _ _⟩
  | sustained on _ =>
      obtain ⟨fault, heq, -⟩ := Power.hints_eq (Adpf.Power.swapHints "SUSTAINED_PERFORMANCE" "VR_MODE" on
        d.power.mSustainedPerfModeOn d.power.mVRModeOn).1 d.power
      exact ⟨_, congrArg Power.calls heq, hsustained on _ _⟩

end Device

/-- **The hints match the flags.**  However calls, steps of the thread that sets the service up, cleared
properties and new starts follow each other: no pointer is used before it is set; of the hints of the two modes the one that the flags
say is held and no other, and `VIDEO_ENCODE` is held if its flag says so; and while one of the two modes is
on, no call starts or ends one of the hints that yield to them. -/
theorem hidl_hints_match_flags (props : Properties) (events : List Event) :
    let d := (Device.start props).run events
    d.power.fault = false ∧ d.power.Matched ∧
    (d.power.busy = true → ∀ call success, ∃ added,
      (d.call call success).power.calls = added ++ d.power.calls ∧ ∀ c ∈ added, c.yields = false) := by
  intro d
  obtain ⟨hfault, hmatched⟩ := (Device.setUp_run props events).noFault
  exact ⟨hfault, hmatched, fun hbusy call success => (Device.does_call call success d).added hbusy⟩

end Hidl
