/-
**The refresh rate and the profile** (`updateHintMode`).

A mode that is named after a refresh rate sets the rate of the display, and every mode that has a
profile of its name puts that profile in force.  The first happens only when the mode is turned on, the
second also when it is turned off.  So the two go apart when a refresh mode is turned off while the
display is at another rate, and never otherwise.

Main definitions:

* `Adpf.displayRate` — the rate that a refresh mode stands for;
* `Adpf.World.RefreshAgrees` — the profile of a refresh mode is in force only at its rate;
* `Adpf.World.KeepsRefresh` — the condition on a call;
* `Adpf.PowerExt.setMode` — how calls with modes of any name come about.

Main results:

* `Adpf.World.refreshAgrees_hintMode_iff` — **one call**: which calls keep the agreement;
* `Adpf.World.rate_hintModes` — the rate is that of the last refresh mode that was turned on;
* `Adpf.refresh_profile_agrees_iff` — **whole runs**: the two agree throughout exactly if every call
  meets the condition.
-/

import Mathlib.Data.List.Induction
import MotoCommon.LabelledRuns
import MotoCommon.PowerModes

set_option autoImplicit false

namespace Adpf

/-- The rate of a refresh mode. -/
def displayRate (mode : String) : Option ℤ :=
  if mode = "REFRESH_60FPS" then some 60
  else if mode = "REFRESH_90FPS" then some 90
  else if mode = "REFRESH_120FPS" then some 120
  else none

/-- What is assumed of the hint manager: a profile has the name it is found under, and the refresh
modes have profiles. -/
structure Env.RefreshProfiles (env : Env) : Prop where
  name : ∀ mode profile, env.adpfProfile mode = some profile → profile.mName = mode
  present : ∀ mode rate, displayRate mode = some rate → ∃ profile, env.adpfProfile mode = some profile

namespace World

/-- Where the profile of a refresh mode is in force, the display is at its rate. -/
def RefreshAgrees (w : World) : Prop :=
  ∀ rate, displayRate w.adpfConfig.mName = some rate → w.mDisplayRefreshRate = rate

/-- The call turns its mode on, or the display is at the rate of the mode already, or the mode is not
a refresh mode. -/
def KeepsRefresh (w : World) (call : String × Bool) : Prop :=
  call.2 = true ∨ ∀ rate, displayRate call.1 = some rate → w.mDisplayRefreshRate = rate

/-- Calls of `updateHintMode`, one after the other. -/
def hintModes (calls : List (String × Bool)) (w : World) : World :=
  calls.foldl (fun w call => (PowerSessionManager.updateHintMode call.1 call.2).post w) w

/-! ### One call -/

variable {w : World}

theorem refreshRate_eq (mode : String) (rate : ℤ) :
    refreshRate mode rate = (displayRate mode).getD rate := by
  unfold refreshRate displayRate
  by_cases h60 : mode = "REFRESH_60FPS"
  · subst h60
    rfl
  by_cases h90 : mode = "REFRESH_90FPS"
  · subst h90
    rfl
  rw [if_neg h60, if_neg h90, if_neg h90, if_neg h60]
  split <;> rfl

/-- The names of the refresh modes start like one. -/
theorem refreshMode_starts {mode : String} {rate : ℤ} (h : displayRate mode = some rate) :
    "REFRESH_".toList.isPrefixOf mode.toList = true := by
  unfold displayRate at h
  split at h
  case isTrue hmode => rw [hmode]; decide
  split at h
  case isTrue hmode => rw [hmode]; decide
  split at h
  case isTrue hmode => rw [hmode]; decide
  cases h

/-- The rate of the display after a call. -/
theorem rate_hintMode (mode : String) (enabled : Bool) (w : World) :
    (w.hintMode mode enabled).mDisplayRefreshRate =
      ((if enabled then displayRate mode else none)).getD w.mDisplayRefreshRate := by
  unfold hintMode
  cases enabled with
  | false => rfl
  | true =>
      rw [Bool.true_and, if_pos rfl]
      cases hrate : displayRate mode with
      | some rate =>
          rw [if_pos (refreshMode_starts hrate)]
          exact (refreshRate_eq mode _).trans (by rw [hrate])
      | none =>
          have hsame : refreshRate mode w.mDisplayRefreshRate = w.mDisplayRefreshRate := by
            rw [refreshRate_eq, hrate, Option.getD_none]
          split
          · exact hsame
          · rfl

theorem adpfConfig_hintMode (mode : String) (enabled : Bool) (w : World) :
    (w.hintMode mode enabled).adpfConfig = (w.env.adpfProfile mode).getD w.adpfConfig := by
  obtain ⟨rate, heq⟩ := hintMode_eq mode enabled w
  rw [heq]

theorem env_hintMode (mode : String) (enabled : Bool) (w : World) :
    (w.hintMode mode enabled).env = w.env := by
  obtain ⟨rate, heq⟩ := hintMode_eq mode enabled w
  rw [heq]

/-- **One call.**  From a state in which they agree, the rate and the profile agree afterwards exactly
if the call meets the condition. -/
theorem refreshAgrees_hintMode_iff (henv : w.env.RefreshProfiles) (hw : w.RefreshAgrees)
    (call : String × Bool) :
    (w.hintMode call.1 call.2).RefreshAgrees ↔ w.KeepsRefresh call := by
  obtain ⟨mode, enabled⟩ := call
  unfold RefreshAgrees KeepsRefresh
  rw [adpfConfig_hintMode, rate_hintMode]
  cases hrate : displayRate mode with
  | none =>
      -- the profile of the mode, if there is one, is not that of a refresh mode
      have hstays : (if enabled = true then (none : Option ℤ) else none) = none := ite_self _
      rw [hstays, Option.getD_none]
      refine ⟨fun _ => Or.inr fun rate h => absurd h (by simp), fun _ rate h => ?_⟩
      cases hprofile : w.env.adpfProfile mode with
      | none =>
          rw [hprofile, Option.getD_none] at h
          exact hw rate h
      | some profile =>
          rw [hprofile, Option.getD_some, henv.name mode profile hprofile, hrate] at h
          cases h
  | some r =>
      obtain ⟨profile, hprofile⟩ := henv.present mode r hrate
      rw [hprofile, Option.getD_some, henv.name mode profile hprofile, hrate]
      cases enabled with
      | true =>
          rw [if_pos rfl, Option.getD_some]
          exact ⟨fun _ => Or.inl rfl, fun _ rate h => Option.some.inj h⟩
      | false =>
          refine ⟨Or.inr, fun h => ?_⟩
          rcases h with hon | h
          · cases hon
          · exact h

/-! ### Runs -/

theorem hintModes_append_singleton (calls : List (String × Bool)) (call : String × Bool) (w : World) :
    w.hintModes (calls ++ [call]) = (w.hintModes calls).hintMode call.1 call.2 := by
  unfold hintModes
  rw [List.foldl_append]
  rfl

/-- The rates of the refresh modes that calls turn on. -/
def enabledRates (calls : List (String × Bool)) : List ℤ :=
  calls.filterMap fun call => if call.2 then displayRate call.1 else none

/-- **The rate of the display** is that of the last refresh mode that was turned on. -/
theorem rate_hintModes (calls : List (String × Bool)) (w : World) :
    (w.hintModes calls).mDisplayRefreshRate =
      ((enabledRates calls).getLast?).getD w.mDisplayRefreshRate := by
  induction calls using List.reverseRecOn with
  | nil => rfl
  | append_singleton calls call ih =>
      rw [hintModes_append_singleton, rate_hintMode, ih, enabledRates, enabledRates,
        List.filterMap_append, List.filterMap_cons, List.filterMap_nil]
      cases (if call.2 = true then displayRate call.1 else none : Option ℤ) with
      | none => rw [Option.getD_none, List.append_nil]
      | some rate => rw [Option.getD_some, List.getLast?_concat, Option.getD_some]

end World

open World

/-- **The refresh rate and the profile agree.**  From a state in which they agree, along any calls of
`updateHintMode`, they agree in all states exactly if no call turns off a refresh mode whose rate is
not the display's; and the rate is always that of the last refresh mode that was turned on. -/
theorem refresh_profile_agrees_iff (w : World) (henv : w.env.RefreshProfiles) (hw : w.RefreshAgrees)
    (calls : List (String × Bool)) :
    ((∀ n, (w.hintModes (calls.take n)).RefreshAgrees) ↔
      ∀ n call, calls[n]? = some call → (w.hintModes (calls.take n)).KeepsRefresh call) ∧
    ∀ n, (w.hintModes (calls.take n)).mDisplayRefreshRate =
      ((enabledRates (calls.take n)).getLast?).getD w.mDisplayRefreshRate := by
  have hall := Machine.forall_take_iff
    (f := fun w (call : String × Bool) => (PowerSessionManager.updateHintMode call.1 call.2).post w)
    (I := fun w => w.env.RefreshProfiles) (P := RefreshAgrees)
    (K := fun call w => w.KeepsRefresh call)
    (fun call w henv => (env_hintMode call.1 call.2 w).symm ▸ henv)
    (fun call w henv hw => refreshAgrees_hintMode_iff henv hw call) calls henv
  exact ⟨hall.trans (and_iff_right hw), fun n => rate_hintModes _ w⟩

/-- The hint manager has profiles for the refresh modes, and no others. -/
def refreshEnv : Env where
  adpfProfile := fun mode => (displayRate mode).map fun _ => { makeMockConfig with mName := mode }

theorem refreshEnv_refreshProfiles : refreshEnv.RefreshProfiles where
  name := by
    intro mode profile h
    obtain ⟨rate, -, rfl⟩ := Option.map_eq_some_iff.1 h
    rfl
  present := by
    intro mode rate h
    exact ⟨_, Option.map_eq_some_iff.2 ⟨rate, h, rfl⟩⟩

/-- At first the profile is that for 60 frames per second, and so is the display. -/
theorem refreshAgrees_init : (World.init refreshEnv makeMockConfig).RefreshAgrees :=
  fun _ h => Option.some.inj h

/-- Calls that turn on one refresh mode after another, and turn off another mode in between. -/
theorem refresh_profile_agrees_on :
    (World.init refreshEnv makeMockConfig).RefreshAgrees ∧
    ∀ n, ((World.init refreshEnv makeMockConfig).hintModes
      ([("REFRESH_120FPS", true), ("LAUNCH", false), ("REFRESH_90FPS", true)].take n)).RefreshAgrees := by
  refine ⟨refreshAgrees_init, (refresh_profile_agrees_iff _ refreshEnv_refreshProfiles
    refreshAgrees_init _).1.2 fun n call hcall => ?_⟩
  match n, hcall with
  | 0, hcall => exact Or.inl (Option.some.inj hcall ▸ rfl)
  | 1, hcall =>
      have hnone : displayRate "LAUNCH" = none := by decide
      obtain rfl := Option.some.inj hcall
      exact Or.inr fun rate h => absurd (hnone.symm.trans h) (by simp)
  | 2, hcall => exact Or.inl (Option.some.inj hcall ▸ rfl)

/-- Turning off the mode for 60 frames per second after turning on that for 120 puts the profile for 60
in force, at a rate of 120. -/
theorem refresh_profile_disagrees_off :
    refreshEnv.RefreshProfiles ∧ (World.init refreshEnv makeMockConfig).RefreshAgrees ∧
    ¬ ((World.init refreshEnv makeMockConfig).hintModes
      [("REFRESH_120FPS", true), ("REFRESH_60FPS", false)]).RefreshAgrees := by
  refine ⟨refreshEnv_refreshProfiles, refreshAgrees_init, fun h => ?_⟩
  exact absurd (h 60 (by decide +kernel)) (by decide +kernel)

/-! ### Calls with modes of any name -/

/-- `PowerExt::setMode`, which shares the two managers with the service. -/
def PowerExt.setMode (mode : String) (enabled : Bool) (p : Power) : Power :=
  (p.switchHint mode enabled).reportMode mode enabled

/-- The session manager is told about modes. -/
def Power.ReportsModes (p : Power) : Prop :=
  ∃ profile, p.GetAdpfProfile = some profile ∧ 0 < profile.mReportingRateLimitNs

/-- So a call of `PowerExt::setMode` keeps the agreement exactly if it is not passed on, or meets the
condition. -/
theorem PowerExt.refreshAgrees_setMode_iff {p : Power} (henv : p.world.env.RefreshProfiles)
    (hw : p.world.RefreshAgrees) (mode : String) (enabled : Bool) :
    (setMode mode enabled p).world.RefreshAgrees ↔
      (p.ReportsModes → p.world.KeepsRefresh (mode, enabled)) := by
  obtain ⟨calls, hswitch⟩ : ∃ calls, p.switchHint mode enabled =
      { p with world := { p.world with hintCalls := calls } } := by
    cases enabled with
    | false => exact ⟨_, rfl⟩
    | true => exact ⟨_, rfl⟩
  have hsame : ({ p.world with hintCalls := calls } : World).RefreshAgrees := hw
  unfold setMode Power.reportMode
  rw [hswitch]
  dsimp only [Power.GetAdpfProfile]
  by_cases hreports : p.ReportsModes
  · obtain ⟨profile, hprofile, hlimit⟩ := hreports
    have hprofile' : (if p.hasAdpfProfile = true then some p.world.adpfConfig else none) =
      some profile := hprofile
    rw [hprofile']
    dsimp only
    rw [if_pos hlimit]
    have hone := refreshAgrees_hintMode_iff (w := { p.world with hintCalls := calls }) henv hsame
      (mode, enabled)
    exact ⟨fun h _ => hone.1 h, fun h => hone.2 (h ⟨profile, hprofile, hlimit⟩)⟩
  · refine ⟨fun _ h => absurd h hreports, fun _ => ?_⟩
    split
    case h_1 profile hprofile =>
      rw [if_neg fun hlimit => hreports ⟨profile, hprofile, hlimit⟩]
      exact hsame
    case h_2 => exact hsame

end Adpf
