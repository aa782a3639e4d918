/-
**The modes of the power service** (`Power.cpp`).

`setMode` turns a mode of the device on or off by starting or ending the hint of that name.  Two modes
are not independent: virtual reality and sustained performance have a third hint for both at once, and
switching one of them ends and starts hints according to the flag of the other.  And while one of the two
is on, the mode for the launch of an application is not looked at, whether it is turned on or off.

A hint is held if it was started after it was last ended.  The session manager and the hint manager, of
which there is one each, are those of `MotoCommon/World.lean`.

Main definitions:

* `Adpf.Mode`, `Adpf.Power` — the modes, and the state;
* `Adpf.Power.init`, `Adpf.Power.setMode` — the constructor and the operation;
* `Adpf.held` — whether a hint is held.

Main results:

* `Adpf.Power.Matched.setMode` — **one call**: the hints of the two modes match their flags;
* `Adpf.disabled_mode_held_iff` — **whole runs**: they always do, and a mode that was just turned off
  holds its hint exactly if it is the launch mode and the call was not looked at.
-/

import Mathlib.Data.List.Induction
import MotoCommon.PowerSessionManager

set_option autoImplicit false

namespace Adpf

/-! ### Modes -/

/-- `Mode`: the enumerators, and a value that is none of them. -/
inductive Mode where
  | DOUBLE_TAP_TO_WAKE
  | LOW_POWER
  | SUSTAINED_PERFORMANCE
  | FIXED_PERFORMANCE
  | VR
  | LAUNCH
  | EXPENSIVE_RENDERING
  | INTERACTIVE
  | DEVICE_IDLE
  | DISPLAY_INACTIVE
  | AUDIO_STREAMING_LOW_LATENCY
  | CAMERA_STREAMING_SECURE
  | CAMERA_STREAMING_LOW
  | CAMERA_STREAMING_MID
  | CAMERA_STREAMING_HIGH
  | GAME
  | GAME_LOADING
  | DISPLAY_CHANGE
  | AUTOMOTIVE_PROJECTION
  | other (value : ℤ)
  deriving DecidableEq, Repr

/-- `toString` of a mode: the name, or the number if it has none. -/
def Mode.toString : Mode → String
  | .DOUBLE_TAP_TO_WAKE => "DOUBLE_TAP_TO_WAKE"
  | .LOW_POWER => "LOW_POWER"
  | .SUSTAINED_PERFORMANCE => "SUSTAINED_PERFORMANCE"
  | .FIXED_PERFORMANCE => "FIXED_PERFORMANCE"
  | .VR => "VR"
  | .LAUNCH => "LAUNCH"
  | .EXPENSIVE_RENDERING => "EXPENSIVE_RENDERING"
  | .INTERACTIVE => "INTERACTIVE"
  | .DEVICE_IDLE => "DEVICE_IDLE"
  | .DISPLAY_INACTIVE => "DISPLAY_INACTIVE"
  | .AUDIO_STREAMING_LOW_LATENCY => "AUDIO_STREAMING_LOW_LATENCY"
  | .CAMERA_STREAMING_SECURE => "CAMERA_STREAMING_SECURE"
  | .CAMERA_STREAMING_LOW => "CAMERA_STREAMING_LOW"
  | .CAMERA_STREAMING_MID => "CAMERA_STREAMING_MID"
  | .CAMERA_STREAMING_HIGH => "CAMERA_STREAMING_HIGH"
  | .GAME => "GAME"
  | .GAME_LOADING => "GAME_LOADING"
  | .DISPLAY_CHANGE => "DISPLAY_CHANGE"
  | .AUTOMOTIVE_PROJECTION => "AUTOMOTIVE_PROJECTION"
  | .other value => ToString.toString value

/-- A number is written with digits and a sign. -/
theorem mem_toString_int {value : ℤ} {c : Char} (hc : c ∈ (ToString.toString value).toList) :
    c.isDigit = true ∨ c = '-' := by
  rw [Int.toString_eq_repr, Int.repr_eq_if] at hc
  split at hc
  · rw [Nat.toList_repr] at hc
    exact Or.inl (Nat.isDigit_of_mem_toDigits (by omega) (by omega) hc)
  · rw [String.toList_append, List.mem_append, Nat.toList_repr] at hc
    rcases hc with hc | hc
    · exact Or.inr (List.mem_singleton.1 hc)
    · exact Or.inl (Nat.isDigit_of_mem_toDigits (by omega) (by omega) hc)

/-- The hints that virtual reality and sustained performance share. -/
def sharedHints : List String := ["VR", "SUSTAINED_PERFORMANCE", "VR_SUSTAINED_PERFORMANCE"]

/-- Only the two modes have the name of a shared hint. -/
theorem Mode.toString_not_mem_sharedHints {type : Mode} (hvr : type ≠ .VR)
    (hsustained : type ≠ .SUSTAINED_PERFORMANCE) : type.toString ∉ sharedHints := by
  cases type with
  | VR => exact absurd rfl hvr
  | SUSTAINED_PERFORMANCE => exact absurd rfl hsustained
  | other value =>
      intro hmem
      -- each of the three names has an `R`
      have hname : 'R' ∈ (Mode.other value).toString.toList := by
        rcases List.mem_cons.1 hmem with hname | hmem
        · rw [hname]
          decide
        · rcases List.mem_cons.1 hmem with hname | hmem
          · rw [hname]
            decide
          · rw [List.mem_singleton.1 hmem]
            decide
      rcases mem_toString_int hname with hdigit | hsign
      · exact absurd hdigit (by decide)
      · exact absurd hsign (by decide)
  | _ => decide

/-! ### Hints -/

/-- Whether a hint is held after some calls, the latest first: the last one about it has started it. -/
def held (hint : String) : List HintCall → Bool
  | [] => false
  | .doHint hint' :: calls => if hint' = hint then true else held hint calls
  | .endHint hint' :: calls => if hint' = hint then false else held hint calls

@[simp] theorem held_nil (hint : String) : held hint [] = false := rfl

@[simp] theorem held_doHint (hint hint' : String) (calls : List HintCall) :
    held hint (.doHint hint' :: calls) = if hint' = hint then true else held hint calls := rfl

@[simp] theorem held_endHint (hint hint' : String) (calls : List HintCall) :
    held hint (.endHint hint' :: calls) = if hint' = hint then false else held hint calls := rfl

/-! ### The service -/

/-- The members of `Power`, with the rest of the service and the calls of `SetDisplayLowPower`. -/
structure Power where
  mVRModeOn : Bool := false
  mSustainedPerfModeOn : Bool := false
  world : World
  /-- Whether there are any profiles. -/
  hasAdpfProfile : Bool
  lowPowerCalls : List Bool := []

/-- The properties of the system that the constructor reads. -/
structure PowerHalProps where
  /-- `vendor.powerhal.state`, `vendor.powerhal.audio` and `vendor.powerhal.rendering`. -/
  state : String := ""
  audio : String := ""
  rendering : String := ""

namespace Power

/-- `GetAdpfProfile()`. -/
def GetAdpfProfile (p : Power) : Option AdpfConfig :=
  if p.hasAdpfProfile then some p.world.adpfConfig else none

/-- Calls of the hint manager, in the order in which they are made. -/
def call (calls : List HintCall) (p : Power) : Power :=
  { p with world := { p.world with hintCalls := calls.reverse ++ p.world.hintCalls } }

/-- Whether a hint is held. -/
def held (p : Power) (hint : String) : Bool := Adpf.held hint p.world.hintCalls

/-- What the constructor does about `vendor.powerhal.state`. -/
def initState (state : String) (p : Power) : Power :=
  if state = "SUSTAINED_PERFORMANCE" then
    { p.call [.doHint "SUSTAINED_PERFORMANCE"] with mSustainedPerfModeOn := true }
  else if state = "VR" then { p.call [.doHint state] with mVRModeOn := true }
  else if state = "VR_SUSTAINED_PERFORMANCE" then
    { p.call [.doHint "VR_SUSTAINED_PERFORMANCE"] with mSustainedPerfModeOn := true, mVRModeOn := true }
  else p

/-- `Power::Power`, up to the interaction handler and the version of the interface. -/
def init (props : PowerHalProps) (world : World) (hasAdpfProfile : Bool) : Power :=
  let p := initState props.state { world := world, hasAdpfProfile := hasAdpfProfile }
  let p := if props.audio = "AUDIO_STREAMING_LOW_LATENCY" then p.call [.doHint props.audio] else p
  if props.rendering = "EXPENSIVE_RENDERING" then p.call [.doHint "EXPENSIVE_RENDERING"] else p

/-- The first part of `setMode`: the session manager is told. -/
def reportMode (mode : String) (enabled : Bool) (p : Power) : Power :=
  match p.GetAdpfProfile with
  | some profile =>
      if profile.mReportingRateLimitNs > 0 then { p with world := p.world.hintMode mode enabled } else p
  | none => p

/-- `DoHint` or `EndHint` for a mode. -/
def switchHint (hint : String) (enabled : Bool) (p : Power) : Power :=
  if enabled then p.call [.doHint hint] else p.call [.endHint hint]

/-- The cases for virtual reality and sustained performance, given the flag of the mode itself and that
of the other one: the calls, and the flag afterwards. -/
def swapHints (own other : String) (enabled ownOn otherOn : Bool) : List HintCall × Bool :=
  if enabled && !ownOn then
    (if !otherOn then [.doHint own] else [.endHint other, .doHint "VR_SUSTAINED_PERFORMANCE"], true)
  else if !enabled && ownOn then
    ([.endHint "VR_SUSTAINED_PERFORMANCE", .endHint own] ++ if otherOn then [.doHint other] else [],
      false)
  else ([], ownOn)

/-- The case `Mode::SUSTAINED_PERFORMANCE` of `setMode`. -/
def setSustainedPerf (enabled : Bool) (p : Power) : Power :=
  let (calls, on) :=
    swapHints "SUSTAINED_PERFORMANCE" "VR" enabled p.mSustainedPerfModeOn p.mVRModeOn
  { p.call calls with mSustainedPerfModeOn := on }

/-- The case `Mode::VR` of `setMode`. -/
def setVR (enabled : Bool) (p : Power) : Power :=
  let (calls, on) :=
    swapHints "VR" "SUSTAINED_PERFORMANCE" enabled p.mVRModeOn p.mSustainedPerfModeOn
  { p.call calls with mVRModeOn := on }

def setMode (type : Mode) (enabled : Bool) (p : Power) : Power :=
  let p := p.reportMode type.toString enabled
  match type with
  | .LOW_POWER =>
      { p with lowPowerCalls := enabled :: p.lowPowerCalls }.switchHint type.toString enabled
  | .SUSTAINED_PERFORMANCE => p.setSustainedPerf enabled
  | .VR => p.setVR enabled
  | .LAUNCH =>
      if p.mVRModeOn || p.mSustainedPerfModeOn then p else p.switchHint type.toString enabled
  | _ => p.switchHint type.toString enabled

/-- Calls of `setMode`, one after the other. -/
def setModes (calls : List (Mode × Bool)) (p : Power) : Power :=
  calls.foldl (fun p call => p.setMode call.1 call.2) p

/-! ### What the parts of a call do -/

variable {p : Power} {type : Mode} {enabled : Bool}

theorem held_switchHint_of_ne {hint hint' : String} (h : hint' ≠ hint) (enabled : Bool) (p : Power) :
    (p.switchHint hint' enabled).held hint = p.held hint := by
  cases enabled with
  | false => exact if_neg h
  | true => exact if_neg h

theorem held_switchHint_self (hint : String) (p : Power) :
    (p.switchHint hint false).held hint = false := if_pos rfl

theorem switchHint_flags (hint : String) (enabled : Bool) (p : Power) :
    (p.switchHint hint enabled).mVRModeOn = p.mVRModeOn ∧
      (p.switchHint hint enabled).mSustainedPerfModeOn = p.mSustainedPerfModeOn := by
  cases enabled with
  | false => exact ⟨rfl, rfl⟩
  | true => exact ⟨rfl, rfl⟩

/-- Two states that differ in nothing that the hints depend on. -/
structure SameHints (p q : Power) : Prop where
  vr : q.mVRModeOn = p.mVRModeOn
  sustained : q.mSustainedPerfModeOn = p.mSustainedPerfModeOn
  calls : q.world.hintCalls = p.world.hintCalls

theorem SameHints.held {q : Power} (h : SameHints p q) (hint : String) : q.held hint = p.held hint := by
  unfold Power.held
  rw [h.calls]

theorem sameHints_reportMode (mode : String) (enabled : Bool) (p : Power) :
    SameHints p (p.reportMode mode enabled) := by
  obtain ⟨rate, heq⟩ := World.hintMode_eq mode enabled p.world
  unfold reportMode
  split
  · split
    · rw [heq]
      exact ⟨rfl, rfl, rfl⟩
    · exact ⟨rfl, rfl, rfl⟩
  · exact ⟨rfl, rfl, rfl⟩

/-- What a call of `setMode` does to the hints: it swaps the shared ones, is not looked at, or switches
the hint of the mode. -/
inductive Happens (p : Power) (enabled : Bool) : Mode → Power → Prop
  | vr {q : Power} : SameHints p q → Happens p enabled .VR (q.setVR enabled)
  | sustained {q : Power} : SameHints p q →
      Happens p enabled .SUSTAINED_PERFORMANCE (q.setSustainedPerf enabled)
  | ignored {q : Power} : SameHints p q → (p.mVRModeOn = true ∨ p.mSustainedPerfModeOn = true) →
      Happens p enabled .LAUNCH q
  | switched {q : Power} {type : Mode} : SameHints p q → type ≠ .VR → type ≠ .SUSTAINED_PERFORMANCE →
      (type = .LAUNCH → ¬ (p.mVRModeOn = true ∨ p.mSustainedPerfModeOn = true)) →
      Happens p enabled type (q.switchHint type.toString enabled)

/-- **What a call does.** -/
theorem setMode_happens (type : Mode) (enabled : Bool) (p : Power) :
    Happens p enabled type (p.setMode type enabled) := by
  have hreport := sameHints_reportMode type.toString enabled p
  cases type with
  | VR => exact .vr hreport
  | SUSTAINED_PERFORMANCE => exact .sustained hreport
  | LOW_POWER =>
      have hlow : SameHints p { p.reportMode Mode.LOW_POWER.toString enabled with
          lowPowerCalls := enabled :: (p.reportMode Mode.LOW_POWER.toString enabled).lowPowerCalls } :=
        ⟨hreport.vr, hreport.sustained, hreport.calls⟩
      exact .switched hlow (by decide) (by decide) nofun
  | LAUNCH =>
      unfold setMode
      dsimp only
      rw [hreport.vr, hreport.sustained]
      split
      · rename_i hon
        exact .ignored hreport (Bool.or_eq_true_iff.1 hon)
      · rename_i hoff
        refine .switched hreport (by decide) (by decide) fun _ hon => ?_
        exact hoff (Bool.or_eq_true_iff.2 hon)
  | _ => exact .switched hreport (by simp) (by simp) (by simp)

/-! ### Two modes and three hints -/

/-- Of the shared hints, the one that matches the flags is held and no other. -/
structure Matched (p : Power) : Prop where
  vr : p.held "VR" = (p.mVRModeOn && !p.mSustainedPerfModeOn)
  sustained : p.held "SUSTAINED_PERFORMANCE" = (p.mSustainedPerfModeOn && !p.mVRModeOn)
  both : p.held "VR_SUSTAINED_PERFORMANCE" = (p.mVRModeOn && p.mSustainedPerfModeOn)

/-- Switching one of two modes brings the three hints from the old flags to the new ones. -/
theorem swapHints_held {own other : String} (hne : own ≠ other)
    (hown : own ≠ "VR_SUSTAINED_PERFORMANCE") (hother : other ≠ "VR_SUSTAINED_PERFORMANCE")
    (enabled : Bool) {ownOn otherOn : Bool} {log : List HintCall}
    (hheld : Adpf.held own log = (ownOn && !otherOn))
    (hheld' : Adpf.held other log = (otherOn && !ownOn))
    (hboth : Adpf.held "VR_SUSTAINED_PERFORMANCE" log = (ownOn && otherOn)) :
    (swapHints own other enabled ownOn otherOn).2 = enabled ∧
    Adpf.held own ((swapHints own other enabled ownOn otherOn).1.reverse ++ log) =
      (enabled && !otherOn) ∧
    Adpf.held other ((swapHints own other enabled ownOn otherOn).1.reverse ++ log) =
      (otherOn && !enabled) ∧
    Adpf.held "VR_SUSTAINED_PERFORMANCE"
      ((swapHints own other enabled ownOn otherOn).1.reverse ++ log) = (enabled && otherOn) := by
  unfold swapHints
  -- the hint of a mode that is already as asked for stays as it is
  cases enabled <;> cases ownOn <;> cases otherOn <;>
    simp_all [hne.symm, hown.symm, hother.symm]

theorem Matched.setVR (h : Matched p) (enabled : Bool) :
    Matched (p.setVR enabled) ∧ (p.setVR enabled).mVRModeOn = enabled := by
  obtain ⟨hon, hvr, hsustained, hboth⟩ := swapHints_held (by decide) (by decide) (by decide) enabled
    h.vr h.sustained h.both
  have hflag : (p.setVR enabled).mVRModeOn = enabled := hon
  refine ⟨⟨?_, ?_, ?_⟩, hflag⟩
  · rw [hflag]
    exact hvr
  · rw [hflag]
    exact hsustained
  · rw [hflag]
    exact hboth

theorem Matched.setSustainedPerf (h : Matched p) (enabled : Bool) :
    Matched (p.setSustainedPerf enabled) ∧
      (p.setSustainedPerf enabled).mSustainedPerfModeOn = enabled := by
  obtain ⟨hon, hsustained, hvr, hboth⟩ := swapHints_held (by decide) (by decide) (by decide) enabled
    h.sustained h.vr (h.both.trans (Bool.and_comm _ _))
  have hflag : (p.setSustainedPerf enabled).mSustainedPerfModeOn = enabled := hon
  refine ⟨⟨?_, ?_, ?_⟩, hflag⟩
  · rw [hflag]
    exact hvr
  · rw [hflag]
    exact hsustained
  · rw [hflag, Bool.and_comm]
    exact hboth

theorem Matched.congr {q : Power} (h : Matched p) (hq : SameHints p q) : Matched q := by
  refine ⟨?_, ?_, ?_⟩
  · rw [hq.held, hq.vr, hq.sustained, h.vr]
  · rw [hq.held, hq.vr, hq.sustained, h.sustained]
  · rw [hq.held, hq.vr, hq.sustained, h.both]

/-- A hint that is not shared may be started or ended. -/
theorem Matched.switchHint (h : Matched p) {hint : String} (hhint : hint ∉ sharedHints)
    (enabled : Bool) : Matched (p.switchHint hint enabled) := by
  obtain ⟨hvr, hsustained⟩ := switchHint_flags hint enabled p
  have hne : ∀ hint' ∈ sharedHints, (p.switchHint hint enabled).held hint' = p.held hint' := by
    intro hint' hmem
    refine held_switchHint_of_ne ?_ enabled p
    rintro rfl
    exact hhint hmem
  refine ⟨?_, ?_, ?_⟩
  · rw [hvr, hsustained, hne _ (by decide)]
    exact h.vr
  · rw [hvr, hsustained, hne _ (by decide)]
    exact h.sustained
  · rw [hvr, hsustained, hne _ (by decide)]
    exact h.both

/-- **One call.** -/
theorem Matched.setMode (h : Matched p) (type : Mode) (enabled : Bool) :
    Matched (p.setMode type enabled) := by
  have hhappens := setMode_happens type enabled p
  revert hhappens
  generalize p.setMode type enabled = p'
  intro hhappens
  cases hhappens with
  | vr hq => exact ((h.congr hq).setVR enabled).1
  | sustained hq => exact ((h.congr hq).setSustainedPerf enabled).1
  | ignored hq hon => exact h.congr hq
  | switched hq hvr hsustained hlaunch =>
      exact (h.congr hq).switchHint (Mode.toString_not_mem_sharedHints hvr hsustained) enabled

/-! ### Whole runs -/

/-- The constructor starts the hint that matches the flags it sets, whatever the properties are. -/
theorem matched_init (props : PowerHalProps) {world : World} (h : world.hintCalls = [])
    (hasAdpfProfile : Bool) : Matched (init props world hasAdpfProfile) := by
  have hstate : Matched (initState props.state { world := world, hasAdpfProfile := hasAdpfProfile }) := by
    unfold initState
    split_ifs with hsustained hvr hboth
    · constructor <;> simp [Power.held, call, h]
    · rw [hvr]
      constructor <;> simp [Power.held, call, h]
    · constructor <;> simp [Power.held, call, h]
    · constructor <;> simp [Power.held, h]
  have haudio : Matched (if props.audio = "AUDIO_STREAMING_LOW_LATENCY"
      then (initState props.state ⟨false, false, world, hasAdpfProfile, []⟩).call [.doHint props.audio]
      else initState props.state ⟨false, false, world, hasAdpfProfile, []⟩) := by
    split
    · rename_i haudio
      rw [haudio]
      exact hstate.switchHint (by decide) true
    · exact hstate
  unfold init
  dsimp only
  split
  · exact haudio.switchHint (by decide) true
  · exact haudio

theorem Matched.setModes (h : Matched p) (calls : List (Mode × Bool)) : Matched (p.setModes calls) := by
  unfold Power.setModes
  exact List.foldlRecOn calls _ h fun p hp call _ => hp.setMode call.1 call.2

/-- What a mode that is turned off holds afterwards. -/
theorem Matched.held_setMode_false (h : Matched p) (type : Mode) :
    (p.setMode type false).held type.toString = true ↔
      type = .LAUNCH ∧ (p.mVRModeOn = true ∨ p.mSustainedPerfModeOn = true) ∧
        p.held "LAUNCH" = true := by
  have hhappens := setMode_happens type false p
  revert hhappens
  generalize p.setMode type false = p'
  intro hhappens
  cases hhappens with
  | @vr q hq =>
      obtain ⟨hmatched, hflag⟩ := (h.congr hq).setVR false
      have hheld : (q.setVR false).held "VR" = false := by
        rw [hmatched.vr, hflag, Bool.false_and]
      simp [Mode.toString, hheld]
  | @sustained q hq =>
      obtain ⟨hmatched, hflag⟩ := (h.congr hq).setSustainedPerf false
      have hheld : (q.setSustainedPerf false).held "SUSTAINED_PERFORMANCE" = false := by
        rw [hmatched.sustained, hflag, Bool.false_and]
      simp [Mode.toString, hheld]
  | ignored hq hon =>
      rw [hq.held]
      exact ⟨fun hheld => ⟨rfl, hon, hheld⟩, fun hlaunch => hlaunch.2.2⟩
  | switched hq hvr hsustained hlaunch =>
      rw [held_switchHint_self]
      exact ⟨nofun, fun hheld => absurd hheld.2.1 (hlaunch hheld.1)⟩

end Power

/-- **A mode that is off holds no hint, except for a launch that was not looked at.**  After any calls
of `setMode`, the shared hints match the flags; and if the next call turns a mode off, its hint is still
held exactly if it is the launch mode, its hint was held, and one of the flags was on. -/
theorem disabled_mode_held_iff (props : PowerHalProps) (env : Env) (profile : AdpfConfig)
    (hasAdpfProfile : Bool) (calls : List (Mode × Bool)) (type : Mode) :
    let p := (Power.init props (World.init env profile) hasAdpfProfile).setModes calls
    p.Matched ∧
    ((p.setMode type false).held type.toString = true ↔
      type = .LAUNCH ∧ (p.mVRModeOn = true ∨ p.mSustainedPerfModeOn = true) ∧
        p.held "LAUNCH" = true) := by
  intro p
  have hmatched : p.Matched := (Power.matched_init props rfl hasAdpfProfile).setModes calls
  exact ⟨hmatched, hmatched.held_setMode_false type⟩

/-- A launch begins, virtual reality is turned on, and the launch ends: its hint stays. -/
theorem launch_held_after_disable :
    ((Power.init {} (World.init {} makeMockConfig) true).setModes
      [(.LAUNCH, true), (.VR, true), (.LAUNCH, false)]).held "LAUNCH" = true := by
  decide

end Adpf
