/-
**The USB gadget** (`gadget/UsbGadget.cpp`).

`setCurrentUsbFunctions` tears the gadget down, sets it up for the functions that are asked for, and
pulls it up by writing its name to the node for that.  Where functions are served from user space, a
monitor pulls it up when they are ready and down when they are gone, and reports both.  The flag
`mCurrentUsbFunctionsApplied` is what the service answers when it is asked whether the functions are
applied.

The calls are executed one at a time, each to its end, and the monitor acts between them and at the
places in them where the flag, the node or the monitor itself is about to be used.  All outcomes of
writes and helpers are arguments.  Besides the members of the class the state has the last value that
was written to the node, and whether that was after the tear-down for the functions that are stored.

Main definitions:

* `UsbGadgetHal.UsbGadget` — the state;
* `UsbGadgetHal.UsbGadget.reset`, `.tearDownGadget`, `.setupFunctions`, `.setCurrentUsbFunctions`,
  `.getCurrentUsbFunctions` — the operations;
* `UsbGadgetHal.UsbGadget.AppliedWhilePulledUp` — the answer is right;
* `UsbGadgetHal.Event.Keeps` — the condition on what happens.

Main results:

* `UsbGadgetHal.UsbGadget.monitor_cases` — of what the monitor does in a row only the last counts;
* `UsbGadgetHal.Event.applied_iff` — **one event**: the answer stays right exactly if it meets the
  condition;
* `UsbGadgetHal.functions_applied_iff` — **whole runs** from the construction.
-/

import Mathlib.Data.Nat.Notation
import MotoCommon.LabelledRuns

set_option autoImplicit false

namespace UsbGadgetHal

/-! ### The state -/

inductive Status where
  | SUCCESS
  | ERROR
  | FUNCTIONS_APPLIED
  | FUNCTIONS_NOT_APPLIED
  | CONFIGURATION_NOT_SUPPORTED
  deriving DecidableEq, Repr

namespace GadgetFunction

/-- `GadgetFunction`: no function, and the bits of the functions. -/
def NONE : ℕ := 0
def ADB : ℕ := 1
def ACCESSORY : ℕ := 2
def MTP : ℕ := 4
def MIDI : ℕ := 8
def PTP : ℕ := 16
def RNDIS : ℕ := 32
def AUDIO_SOURCE : ℕ := 64

end GadgetFunction

open GadgetFunction

/-- The members of the class, with whether the monitor is running; the calls of the client's callback,
the last one first; the last value that was written to `PULLUP_PATH`, whether the tear-down for the
stored functions has been made, and whether that value was written after it. -/
structure UsbGadget where
  mCurrentUsbFunctions : ℕ
  mCurrentUsbFunctionsApplied : Bool
  mGadgetName : String
  monitorRunning : Bool := false
  callbacks : List (ℕ × Status) := []
  pullup : Option String := none
  tornDown : Bool := false
  writtenSince : Bool := false
  deriving DecidableEq, Repr

/-- What the monitor does: it pulls the gadget up or down, and reports it. -/
inductive MonitorStep where
  | pullUp
  | pullDown
  deriving DecidableEq, Repr

/-- The outcome of `resetGadget`; when it fails, the node may have been written or not. -/
inductive ResetGadget where
  | success
  | failure (wroteNone : Bool)
  deriving DecidableEq, Repr

/-- The outcomes in one call of `setCurrentUsbFunctions`, and what the monitor does meanwhile: before
`resetGadget`, between it and the end of the monitor, and before the return. -/
structure Outcomes where
  beforeReset : List MonitorStep := []
  resetGadget : ResetGadget := .success
  afterReset : List MonitorStep := []
  vendorFunctions : String := ""
  setVidPid : String → String → Bool := fun _ _ => true
  addGenericAndroidFunctions : Bool := true
  ffsEnabled : Bool := false
  addAdb : Bool := true
  writePullup : Bool := true
  waitForPullUp : ℕ → Bool := fun _ => true
  beforeReturn : List MonitorStep := []

namespace UsbGadget

/-! ### The operations -/

/-- A value is written to `PULLUP_PATH`. -/
def write (value : String) (g : UsbGadget) : UsbGadget :=
  { g with pullup := some value, writtenSince := g.tornDown }

def currentFunctionsAppliedCallback (functionsApplied : Bool) (g : UsbGadget) : UsbGadget :=
  { g with mCurrentUsbFunctionsApplied := functionsApplied }

/-- The monitor, if it is running, pulls the gadget up or down and reports it right after. -/
def monitorStep (step : MonitorStep) (g : UsbGadget) : UsbGadget :=
  if g.monitorRunning then
    match step with
    | .pullUp => (g.write g.mGadgetName).currentFunctionsAppliedCallback true
    | .pullDown => (g.write "none").currentFunctionsAppliedCallback false
  else g

/-- What the monitor does in a row. -/
def monitor (steps : List MonitorStep) (g : UsbGadget) : UsbGadget :=
  steps.foldl (fun g step => g.monitorStep step) g

/-- `setCurrentUsbFunctionsCb`, if there is a callback. -/
def notify (callback : Bool) (functions : ℕ) (status : Status) (g : UsbGadget) : UsbGadget :=
  if callback then { g with callbacks := (functions, status) :: g.callbacks } else g

def getCurrentUsbFunctions (g : UsbGadget) : ℕ × Status :=
  (g.mCurrentUsbFunctions,
    if g.mCurrentUsbFunctionsApplied then .FUNCTIONS_APPLIED else .FUNCTIONS_NOT_APPLIED)

/-- `reset`, with the outcomes of its two writes and what the monitor does in between. -/
def reset (pulledDown : Bool) (between : List MonitorStep) (pulledUp : Bool) (g : UsbGadget) :
    Status × UsbGadget :=
  if !pulledDown then (.ERROR, g)
  else
    -- the writes leave the flag alone, also when the second one fails
    let g := (g.write "none").monitor between
    if !pulledUp then (.ERROR, g) else (.SUCCESS, g.write g.mGadgetName)

def tearDownGadget (o : Outcomes) (g : UsbGadget) : Status × UsbGadget :=
  match o.resetGadget with
  -- the monitor is left running
  | .failure wroteNone => (.ERROR, if wroteNone then g.write "none" else g)
  | .success =>
      let g := (g.write "none").monitor o.afterReset
      (.SUCCESS, if g.monitorRunning then { g with monitorRunning := false } else g)

/-- The ids for a combination of functions, and whether they are only given to the user's functions. -/
def vidPid (functions : ℕ) : Option (Bool × String × String) :=
  if functions = MTP then some (true, "0x22b8", "0x2e82")
  else if functions = ADB ||| MTP then some (true, "0x22b8", "0x2e76")
  else if functions = RNDIS then some (true, "0x22b8", "0x2e24")
  else if functions = ADB ||| RNDIS then some (true, "0x22b8", "0x2e25")
  else if functions = PTP then some (true, "0x22b8", "0x2e83")
  else if functions = ADB ||| PTP then some (true, "0x22b8", "0x2e84")
  else if functions = ADB then some (true, "0x22b8", "0x2E81")
  else if functions = MIDI then some (true, "0x18d1", "0x4ee8")
  else if functions = ADB ||| MIDI then some (true, "0x18d1", "0x4ee9")
  else if functions = ACCESSORY then some (false, "0x18d1", "0x2d00")
  else if functions = ADB ||| ACCESSORY then some (false, "0x18d1", "0x2d01")
  else if functions = AUDIO_SOURCE then some (false, "0x18d1", "0x2d02")
  else if functions = ADB ||| AUDIO_SOURCE then some (false, "0x18d1", "0x2d03")
  else if functions = ACCESSORY ||| AUDIO_SOURCE then some (false, "0x18d1", "0x2d04")
  else if functions = ADB ||| ACCESSORY ||| AUDIO_SOURCE then some (false, "0x18d1", "0x2d05")
  else none

def validateAndSetVidPid (functions : ℕ) (o : Outcomes) : Status :=
  match vidPid functions with
  | none => .CONFIGURATION_NOT_SUPPORTED
  | some (userOnly, vid, pid) =>
      if userOnly && !(o.vendorFunctions == "user" || o.vendorFunctions == "") then
        .CONFIGURATION_NOT_SUPPORTED
      else if o.setVidPid vid pid then .SUCCESS
      else .ERROR

def setupFunctions (functions : ℕ) (callback : Bool) (timeout : ℕ) (o : Outcomes) (g : UsbGadget) :
    Status × UsbGadget :=
  let adb := decide (functions &&& ADB ≠ 0)
  if !o.addGenericAndroidFunctions then (.ERROR, g)
  else if adb && !o.addAdb then (.ERROR, g)
  else if !(o.ffsEnabled || adb) then
    if !o.writePullup then (.ERROR, g)
    else
      let g := { g.write g.mGadgetName with mCurrentUsbFunctionsApplied := true }
      (.SUCCESS, g.notify callback functions .SUCCESS)
  else
    -- the flag stays cleared until the monitor reports
    let g := { g with monitorRunning := true }
    (.SUCCESS, g.notify callback functions (if o.waitForPullUp timeout then .SUCCESS else .ERROR))

/-- The functions are stored, and are not applied. -/
def storeFunctions (functions : ℕ) (g : UsbGadget) : UsbGadget :=
  { g with
    mCurrentUsbFunctions := functions
    mCurrentUsbFunctionsApplied := false
    tornDown := false
    writtenSince := false }

/-- The first part of `setCurrentUsbFunctions`, up to the tear-down. -/
def beginFunctions (functions : ℕ) (o : Outcomes) (g : UsbGadget) : Status × UsbGadget :=
  let torn := ((g.storeFunctions functions).monitor o.beforeReset).tearDownGadget o
  (torn.1, { torn.2 with tornDown := true })

/-- The end of it: an error of `setupFunctions` is called back. -/
def passError (callback : Bool) (functions : ℕ) (setup : Status × UsbGadget) : UsbGadget :=
  if setup.1 ≠ .SUCCESS then setup.2.notify callback functions setup.1 else setup.2

/-- The rest of it. -/
def finishFunctions (functions : ℕ) (callback : Bool) (timeout : ℕ) (o : Outcomes) (status : Status)
    (g : UsbGadget) : UsbGadget :=
  if status ≠ .SUCCESS then g.notify callback functions status
  -- the gadget stays pulled down
  else if functions = NONE then g.notify callback functions .SUCCESS
  else
    let status := validateAndSetVidPid functions o
    if status ≠ .SUCCESS then g.notify callback functions status
    else passError callback functions (g.setupFunctions functions callback timeout o)

def setCurrentUsbFunctions (functions : ℕ) (callback : Bool) (timeout : ℕ) (o : Outcomes)
    (g : UsbGadget) : UsbGadget :=
  let begun := g.beginFunctions functions o
  (begun.2.finishFunctions functions callback timeout o begun.1).monitor o.beforeReturn

/-! ### The answer -/

/-- When the service answers that the functions are applied, the gadget is pulled up, and was after the
tear-down for these functions. -/
def AppliedWhilePulledUp (g : UsbGadget) : Prop :=
  g.getCurrentUsbFunctions.2 = .FUNCTIONS_APPLIED →
    g.pullup = some g.mGadgetName ∧ g.writtenSince = true

variable {g : UsbGadget}

theorem appliedWhilePulledUp_iff : g.AppliedWhilePulledUp ↔
    (g.mCurrentUsbFunctionsApplied = true → g.pullup = some g.mGadgetName ∧ g.writtenSince = true) := by
  unfold AppliedWhilePulledUp getCurrentUsbFunctions
  cases g.mCurrentUsbFunctionsApplied with
  | true => exact ⟨fun h _ => h rfl, fun h _ => h rfl⟩
  | false =>
      have hnot : Status.FUNCTIONS_NOT_APPLIED ≠ .FUNCTIONS_APPLIED := by decide
      exact ⟨fun _ h => absurd h Bool.false_ne_true, fun _ h => absurd h hnot⟩

/-- Nothing is wrong while the service answers that they are not. -/
theorem appliedWhilePulledUp_of_not (h : g.mCurrentUsbFunctionsApplied = false) :
    g.AppliedWhilePulledUp :=
  appliedWhilePulledUp_iff.2 fun happ => absurd (h.symm.trans happ) (by decide)

/-- And nothing but the flag counts while the node was not written since the tear-down. -/
theorem appliedWhilePulledUp_iff_not (h : g.writtenSince = false) :
    g.AppliedWhilePulledUp ↔ ¬ g.mCurrentUsbFunctionsApplied = true := by
  rw [appliedWhilePulledUp_iff, h]
  exact ⟨fun hsound happ => absurd (hsound happ).2 (by decide), fun hnot happ => absurd happ hnot⟩

theorem notify_eq (callback : Bool) (functions : ℕ) (status : Status) (g : UsbGadget) :
    ∃ calls, g.notify callback functions status = { g with callbacks := calls } := by
  cases callback with
  | true => exact ⟨_, rfl⟩
  | false => exact ⟨_, rfl⟩

/-! ### The monitor -/

theorem monitorStep_of_stopped (h : g.monitorRunning = false) (step : MonitorStep) :
    g.monitorStep step = g := by
  unfold monitorStep
  rw [h]
  rfl

theorem monitorStep_pullUp (h : g.monitorRunning = true) :
    g.monitorStep .pullUp =
      { g with
        pullup := some g.mGadgetName, writtenSince := g.tornDown, mCurrentUsbFunctionsApplied := true } :=
  if_pos h

theorem monitorStep_pullDown (h : g.monitorRunning = true) :
    g.monitorStep .pullDown =
      { g with
        pullup := some "none", writtenSince := g.tornDown, mCurrentUsbFunctionsApplied := false } :=
  if_pos h

theorem monitorStep_monitorStep (a b : MonitorStep) (g : UsbGadget) :
    (g.monitorStep a).monitorStep b = g.monitorStep b := by
  cases hrunning : g.monitorRunning with
  | false => rw [monitorStep_of_stopped hrunning]
  | true =>
      cases a with
      | pullUp =>
          rw [monitorStep_pullUp hrunning]
          cases b <;> exact (if_pos hrunning).trans (if_pos hrunning).symm
      | pullDown =>
          rw [monitorStep_pullDown hrunning]
          cases b <;> exact (if_pos hrunning).trans (if_pos hrunning).symm

/-- **Only the last thing that the monitor does counts.** -/
theorem monitor_eq (steps : List MonitorStep) (g : UsbGadget) :
    g.monitor steps = (steps.getLast?).elim g fun step => g.monitorStep step := by
  induction steps generalizing g with
  | nil => rfl
  | cons step steps ih =>
      -- the first step only counts if no other one comes
      rw [monitor, List.foldl_cons, ← monitor, ih, List.getLast?_cons]
      cases steps.getLast? with
      | none => rfl
      | some last => exact monitorStep_monitorStep step last g

/-- **What the monitor can do**: nothing, or it has pulled the gadget up at last, or down. -/
theorem monitor_cases (steps : List MonitorStep) (g : UsbGadget) :
    (g.monitor steps = g ∧ (g.monitorRunning = false ∨ steps.getLast? = none)) ∨
    (g.monitorRunning = true ∧ steps.getLast? = some .pullUp ∧
      g.monitor steps =
        { g with
          pullup := some g.mGadgetName, writtenSince := g.tornDown, mCurrentUsbFunctionsApplied := true }) ∨
    (g.monitorRunning = true ∧ steps.getLast? = some .pullDown ∧
      g.monitor steps =
        { g with
          pullup := some "none", writtenSince := g.tornDown, mCurrentUsbFunctionsApplied := false }) := by
  rw [monitor_eq]
  cases steps.getLast? with
  | none => exact Or.inl ⟨rfl, Or.inr rfl⟩
  | some last =>
      rw [Option.elim_some]
      cases hrunning : g.monitorRunning with
      | false => exact Or.inl ⟨monitorStep_of_stopped hrunning last, Or.inl rfl⟩
      | true =>
          right
          cases last with
          | pullUp => exact Or.inl ⟨rfl, rfl, hrunning ▸ monitorStep_pullUp hrunning⟩
          | pullDown => exact Or.inr ⟨rfl, rfl, hrunning ▸ monitorStep_pullDown hrunning⟩

/-- What the monitor leaves as it is. -/
theorem monitor_frame (steps : List MonitorStep) (g : UsbGadget) :
    (g.monitor steps).monitorRunning = g.monitorRunning ∧ (g.monitor steps).tornDown = g.tornDown ∧
      (g.monitor steps).mGadgetName = g.mGadgetName := by
  rcases monitor_cases steps g with ⟨heq, -⟩ | ⟨-, -, heq⟩ | ⟨-, -, heq⟩
  · rw [heq]
    exact ⟨rfl, rfl, rfl⟩
  · rw [heq]
    exact ⟨rfl, rfl, rfl⟩
  · rw [heq]
    exact ⟨rfl, rfl, rfl⟩

/-- What the flag is after the monitor has acted. -/
theorem applied_monitor (steps : List MonitorStep) (g : UsbGadget) :
    (g.monitor steps).mCurrentUsbFunctionsApplied =
      if g.monitorRunning then
        (steps.getLast?).elim g.mCurrentUsbFunctionsApplied fun step => decide (step = .pullUp)
      else g.mCurrentUsbFunctionsApplied := by
  rcases monitor_cases steps g with ⟨heq, hstopped | hnone⟩ | ⟨hrunning, hlast, heq⟩ |
    ⟨hrunning, hlast, heq⟩
  · rw [heq, hstopped]
    rfl
  · rw [heq, hnone, Option.elim_none, ite_self]
  · rw [heq, hrunning, hlast]
    rfl
  · rw [heq, hrunning, hlast]
    rfl

/-- What it writes before the end of the tear-down does not count. -/
theorem writtenSince_monitor (steps : List MonitorStep) (ht : g.tornDown = false)
    (hw : g.writtenSince = false) : (g.monitor steps).writtenSince = false := by
  rcases monitor_cases steps g with ⟨heq, -⟩ | ⟨-, -, heq⟩ | ⟨-, -, heq⟩
  · rw [heq, hw]
  · rw [heq, ht]
  · rw [heq, ht]

/-- After the tear-down the answer is right once the monitor has done something. -/
theorem applied_monitor_iff (hg : g.monitorRunning = true → g.tornDown = true)
    (steps : List MonitorStep) :
    (g.monitor steps).AppliedWhilePulledUp ↔
      (g.monitorRunning = true ∧ steps ≠ []) ∨ g.AppliedWhilePulledUp := by
  have hne : ∀ {step}, steps.getLast? = some step → steps ≠ [] := by
    rintro step hlast rfl
    cases hlast
  rcases monitor_cases steps g with ⟨heq, hidle⟩ | ⟨hrunning, hlast, heq⟩ | ⟨hrunning, hlast, heq⟩
  · rw [heq]
    refine ⟨Or.inr, fun h => h.elim (fun hact => ?_) id⟩
    rcases hidle with hstopped | hnone
    · exact absurd (hstopped.symm.trans hact.1) Bool.false_ne_true
    · exact absurd (List.getLast?_eq_none_iff.1 hnone) hact.2
  · refine iff_of_true ?_ (Or.inl ⟨hrunning, hne hlast⟩)
    rw [heq]
    exact appliedWhilePulledUp_iff.2 fun _ => ⟨rfl, hg hrunning⟩
  · refine iff_of_true ?_ (Or.inl ⟨hrunning, hne hlast⟩)
    rw [heq]
    exact appliedWhilePulledUp_of_not rfl

/-! ### The tear-down -/

end UsbGadget

/-- What the monitor does between the clearing of the flag and the end of the tear-down. -/
def Outcomes.window (o : Outcomes) : List MonitorStep :=
  match o.resetGadget with
  | .success => o.beforeReset ++ o.afterReset
  | .failure _ => o.beforeReset

/-- A monitor that is still running reports at last in that time that it pulled the gadget up. -/
def Outcomes.Stale (o : Outcomes) (g : UsbGadget) : Prop :=
  g.monitorRunning = true ∧ o.window.getLast? = some .pullUp

namespace UsbGadget

variable {g : UsbGadget} {o : Outcomes}

/-- The state at the end of the tear-down. -/
structure TornDown (o : Outcomes) (g g' : UsbGadget) : Prop where
  applied : g'.mCurrentUsbFunctionsApplied = true ↔ o.Stale g
  running : g'.monitorRunning = true ↔ o.resetGadget ≠ .success ∧ g.monitorRunning = true
  tornDown : g'.tornDown = true
  writtenSince : g'.writtenSince = false

/-- A tear-down that succeeds leaves no monitor running. -/
theorem tearDownGadget_success (h : o.resetGadget = .success) (g : UsbGadget) :
    g.tearDownGadget o =
      (.SUCCESS, { (g.write "none").monitor o.afterReset with monitorRunning := false }) := by
  unfold tearDownGadget
  rw [h]
  dsimp only
  cases hrunning : ((g.write "none").monitor o.afterReset).monitorRunning with
  | true => rfl
  | false => rw [if_neg Bool.false_ne_true, ← hrunning]

/-- One that fails leaves it as it was. -/
theorem tearDownGadget_failure {wroteNone : Bool} (h : o.resetGadget = .failure wroteNone)
    (g : UsbGadget) :
    ∃ pullup writtenSince, g.tearDownGadget o =
      (.ERROR, { g with pullup := pullup, writtenSince := writtenSince }) ∧
      (g.tornDown = false → g.writtenSince = false → writtenSince = false) := by
  unfold tearDownGadget
  rw [h]
  cases wroteNone with
  | true => exact ⟨some "none", g.tornDown, rfl, fun ht _ => ht⟩
  | false => exact ⟨g.pullup, g.writtenSince, rfl, fun _ hw => hw⟩

/-- The flag after the monitor has acted on one that was cleared. -/
theorem applied_monitor_of_cleared (steps : List MonitorStep)
    (h : g.mCurrentUsbFunctionsApplied = false) :
    (g.monitor steps).mCurrentUsbFunctionsApplied = true ↔
      g.monitorRunning = true ∧ steps.getLast? = some .pullUp := by
  rw [applied_monitor, h]
  cases g.monitorRunning with
  | false => simp
  | true =>
      cases steps.getLast? with
      | none => simp
      | some last => simp

/-- Reports in two parts of the window count like reports in one. -/
theorem applied_monitor_write (first second : List MonitorStep) (value : String) (g : UsbGadget) :
    (((g.monitor first).write value).monitor second).mCurrentUsbFunctionsApplied =
      (g.monitor (first ++ second)).mCurrentUsbFunctionsApplied := by
  have hrunning : ((g.monitor first).write value).monitorRunning = g.monitorRunning :=
    (monitor_frame first g).1
  have happ : ((g.monitor first).write value).mCurrentUsbFunctionsApplied = _ :=
    applied_monitor first g
  rw [applied_monitor, applied_monitor, hrunning, happ, List.getLast?_append]
  cases g.monitorRunning with
  | false => rfl
  | true =>
      cases second.getLast? with
      | none => rfl
      | some last => rfl

/-- **The tear-down** leaves the flag set only if a report came in between. -/
theorem beginFunctions_tornDown (functions : ℕ) (o : Outcomes) (g : UsbGadget) :
    TornDown o g (g.beginFunctions functions o).2 ∧
      ((g.beginFunctions functions o).1 = .SUCCESS ↔ o.resetGadget = .success) := by
  obtain ⟨hrunning, htorn, -⟩ := monitor_frame o.beforeReset (g.storeFunctions functions)
  have hsince : ((g.storeFunctions functions).monitor o.beforeReset).writtenSince = false :=
    writtenSince_monitor o.beforeReset rfl rfl
  unfold beginFunctions
  cases hreset : o.resetGadget with
  | success =>
      -- the window has two parts, before and after the node is written
      have hsince' := writtenSince_monitor o.afterReset
        (g := ((g.storeFunctions functions).monitor o.beforeReset).write "none") htorn htorn
      rw [tearDownGadget_success hreset]
      refine ⟨⟨?_, ?_, rfl, hsince'⟩, iff_of_true rfl rfl⟩
      · unfold Outcomes.Stale Outcomes.window
        rw [hreset]
        dsimp only
        rw [applied_monitor_write]
        exact applied_monitor_of_cleared _ rfl
      · exact iff_of_false Bool.false_ne_true fun h => h.1 hreset
  | failure wroteNone =>
      have hfailed : o.resetGadget ≠ .success := by
        rw [hreset]
        exact ResetGadget.noConfusion
      obtain ⟨pullup, since, heq, hkeep⟩ :=
        tearDownGadget_failure hreset ((g.storeFunctions functions).monitor o.beforeReset)
      rw [heq]
      refine ⟨⟨?_, ?_, rfl, hkeep htorn hsince⟩, iff_of_false Status.noConfusion ResetGadget.noConfusion⟩
      · unfold Outcomes.Stale Outcomes.window
        rw [hreset]
        exact applied_monitor_of_cleared _ rfl
      · dsimp only
        rw [hrunning]
        exact ⟨fun h => ⟨hfailed, h⟩, fun h => h.2⟩

end UsbGadget

/-! ### The set-up -/

namespace Outcomes

/-- The set-up gets as far as the pull-up. -/
structure SetsUp (o : Outcomes) (functions : ℕ) : Prop where
  reset : o.resetGadget = .success
  asked : functions ≠ NONE
  ids : UsbGadget.validateAndSetVidPid functions o = .SUCCESS
  generic : o.addGenericAndroidFunctions = true
  adb : functions &&& ADB ≠ 0 → o.addAdb = true

/-- There are functions that are served from user space. -/
def Ffs (o : Outcomes) (functions : ℕ) : Prop :=
  o.ffsEnabled = true ∨ functions &&& ADB ≠ 0

theorem ffs_iff {o : Outcomes} {functions : ℕ} :
    (o.ffsEnabled || decide (functions &&& ADB ≠ 0)) = true ↔ o.Ffs functions := by
  rw [Bool.or_eq_true, decide_eq_true_iff, Ffs]

/-- The call pulls the gadget up itself. -/
def PullsUp (o : Outcomes) (functions : ℕ) : Prop :=
  o.SetsUp functions ∧ ¬ o.Ffs functions ∧ o.writePullup = true

/-- The call leaves that to the monitor. -/
def StartsMonitor (o : Outcomes) (functions : ℕ) : Prop :=
  o.SetsUp functions ∧ o.Ffs functions

end Outcomes

namespace UsbGadget

variable {g : UsbGadget} {o : Outcomes} {functions : ℕ}

/-- The rest of the call pulls the gadget up, or starts the monitor, or only calls back. -/
inductive Finished (o : Outcomes) (functions : ℕ) (g : UsbGadget) : UsbGadget → Prop
  | pulledUp (calls : List (ℕ × Status)) (h : o.PullsUp functions) :
      Finished o functions g
        { g.write g.mGadgetName with mCurrentUsbFunctionsApplied := true, callbacks := calls }
  | monitored (calls : List (ℕ × Status)) (h : o.StartsMonitor functions) (hnot : ¬ o.PullsUp functions) :
      Finished o functions g { g with monitorRunning := true, callbacks := calls }
  | stopped (calls : List (ℕ × Status)) (hpull : ¬ o.PullsUp functions)
      (hstart : ¬ o.StartsMonitor functions) : Finished o functions g { g with callbacks := calls }

theorem Finished.notify (hpull : ¬ o.PullsUp functions) (hstart : ¬ o.StartsMonitor functions)
    (callback : Bool) (status : Status) (g : UsbGadget) :
    Finished o functions g (g.notify callback functions status) := by
  obtain ⟨calls, heq⟩ := notify_eq callback functions status g
  rw [heq]
  exact .stopped calls hpull hstart

theorem Finished.notify_of_not (h : ¬ o.SetsUp functions) (callback : Bool) (status : Status)
    (g : UsbGadget) : Finished o functions g (g.notify callback functions status) :=
  .notify (fun hpull => h hpull.1) (fun hstart => h hstart.1) callback status g

theorem setupFunctions_finished (callback : Bool) (timeout : ℕ) (o : Outcomes) (g : UsbGadget)
    (hreset : o.resetGadget = .success) (hasked : functions ≠ NONE)
    (hids : validateAndSetVidPid functions o = .SUCCESS) :
    Finished o functions g
      (passError callback functions (g.setupFunctions functions callback timeout o)) := by
  -- the cases are those of the source, in its order
  by_cases hgeneric : o.addGenericAndroidFunctions = true
  case neg =>
    have heq : g.setupFunctions functions callback timeout o = (.ERROR, g) := by
      simp [setupFunctions, hgeneric]
    rw [heq]
    exact .notify_of_not (fun h => hgeneric h.generic) callback .ERROR g
  by_cases hadb : functions &&& ADB ≠ 0 → o.addAdb = true
  case neg =>
    obtain ⟨hbit, hadd⟩ := Classical.not_imp.1 hadb
    have heq : g.setupFunctions functions callback timeout o = (.ERROR, g) := by
      simp [setupFunctions, hgeneric, hbit, hadd]
    rw [heq]
    exact .notify_of_not (fun h => hadb h.adb) callback .ERROR g
  have hup : o.SetsUp functions := ⟨hreset, hasked, hids, hgeneric, hadb⟩
  have hadb' : (decide (functions &&& ADB ≠ 0) && !o.addAdb) = false := by
    simpa using hadb
  by_cases hffs : o.Ffs functions
  · have hffs' := Outcomes.ffs_iff.2 hffs
    obtain ⟨calls, hcalls⟩ := notify_eq callback functions
      (if o.waitForPullUp timeout then .SUCCESS else .ERROR) { g with monitorRunning := true }
    have heq : g.setupFunctions functions callback timeout o =
        (.SUCCESS, { g with monitorRunning := true, callbacks := calls }) := by
      unfold setupFunctions
      dsimp only
      rw [hgeneric, hadb', hffs', hcalls]
      rfl
    rw [heq]
    exact .monitored calls ⟨hup, hffs⟩ fun h => h.2.1 hffs
  have hffs' := Bool.eq_false_iff.2 fun h => hffs (Outcomes.ffs_iff.1 h)
  cases hwrite : o.writePullup with
  | false =>
      have heq : g.setupFunctions functions callback timeout o = (.ERROR, g) := by
        unfold setupFunctions
        dsimp only
        rw [hgeneric, hadb', hffs', hwrite]
        rfl
      rw [heq]
      refine .notify (fun h => ?_) (fun h => hffs h.2) callback .ERROR g
      exact absurd (hwrite.symm.trans h.2.2) Bool.false_ne_true
  | true =>
      obtain ⟨calls, hcalls⟩ := notify_eq callback functions .SUCCESS
        { g.write g.mGadgetName with mCurrentUsbFunctionsApplied := true }
      have heq : g.setupFunctions functions callback timeout o =
          (.SUCCESS,
            { g.write g.mGadgetName with mCurrentUsbFunctionsApplied := true, callbacks := calls }) := by
        unfold setupFunctions
        dsimp only
        rw [hgeneric, hadb', hffs', hwrite]
        exact Prod.ext rfl hcalls
      rw [heq]
      exact .pulledUp calls ⟨hup, hffs, hwrite⟩

/-- **The rest of the call** in terms of the outcomes. -/
theorem finishFunctions_finished (callback : Bool) (timeout : ℕ) (o : Outcomes) {status : Status}
    (g : UsbGadget) (hstatus : status = .SUCCESS ↔ o.resetGadget = .success) :
    Finished o functions g (g.finishFunctions functions callback timeout o status) := by
  unfold finishFunctions
  by_cases hreset : status = .SUCCESS
  case neg =>
    rw [if_pos hreset]
    exact .notify_of_not (fun h => hreset (hstatus.2 h.reset)) callback status g
  rw [if_neg (not_not_intro hreset)]
  by_cases hfunctions : functions = NONE
  case pos =>
    rw [if_pos hfunctions]
    exact .notify_of_not (fun h => h.asked hfunctions) callback .SUCCESS g
  rw [if_neg hfunctions]
  by_cases hids : validateAndSetVidPid functions o = .SUCCESS
  case neg =>
    dsimp only
    rw [if_pos hids]
    exact .notify_of_not (fun h => hids h.ids) callback _ g
  dsimp only
  rw [if_neg (not_not_intro hids)]
  exact setupFunctions_finished callback timeout o g (hstatus.1 hreset) hfunctions hids

/-! ### Events -/

/-- The constructor, if it does not abort.  It leaves the functions and the flag as it finds them. -/
def construct (accessible : Bool) (property : String) (functions : ℕ) (applied : Bool) :
    Option UsbGadget :=
  if !accessible then none
  else if property = "" then none
  else some
    { mCurrentUsbFunctions := functions
      mCurrentUsbFunctionsApplied := applied
      mGadgetName := property }

end UsbGadget

/-- What happens: a call, or the monitor does something while no call is in progress. -/
inductive Event where
  | setCurrentUsbFunctions (functions : ℕ) (callback : Bool) (timeout : ℕ) (outcomes : Outcomes)
  | reset (pulledDown : Bool) (between : List MonitorStep) (pulledUp : Bool)
  | monitor (step : MonitorStep)

namespace Event

/-- The state after an event. -/
def apply (g : UsbGadget) : Event → UsbGadget
  | setCurrentUsbFunctions functions callback timeout outcomes =>
      g.setCurrentUsbFunctions functions callback timeout outcomes
  | reset pulledDown between pulledUp => (g.reset pulledDown between pulledUp).2
  | monitor step => g.monitorStep step

/-- The condition on an event.  If the monitor of the functions before reports during their tear-down
that it pulled the gadget up, then the call pulls it up as well, or a monitor reports again before the
call returns.  A `reset` that only pulls the gadget down finds the flag cleared, or the monitor reports
in between (or the gadget has the name of no gadget). -/
def Keeps (g : UsbGadget) : Event → Prop
  | setCurrentUsbFunctions functions _ _ o =>
      o.Stale g → o.PullsUp functions ∨
        (o.beforeReturn ≠ [] ∧ (o.resetGadget ≠ .success ∨ o.StartsMonitor functions))
  | reset pulledDown between pulledUp =>
      pulledDown = true → pulledUp = false →
        g.mCurrentUsbFunctionsApplied = false ∨ (g.monitorRunning = true ∧ between ≠ []) ∨
          g.mGadgetName = "none"
  | monitor _ => True

end Event

namespace UsbGadget

/-- The events, one after the other. -/
def run (events : List Event) (g : UsbGadget) : UsbGadget :=
  events.foldl Event.apply g

/-- No monitor runs, and nothing was written after the tear-down, before there was one. -/
structure Inv (g : UsbGadget) : Prop where
  running : g.monitorRunning = true → g.tornDown = true
  written : g.writtenSince = true → g.tornDown = true

variable {g : UsbGadget} {o : Outcomes} {functions : ℕ}

theorem Inv.of_tornDown (h : g.tornDown = true) : g.Inv :=
  ⟨fun _ => h, fun _ => h⟩

theorem Inv.write (h : g.Inv) (value : String) : (g.write value).Inv :=
  ⟨h.running, id⟩

theorem Inv.monitor (h : g.Inv) (steps : List MonitorStep) : (g.monitor steps).Inv := by
  obtain ⟨hrunning, htorn, -⟩ := monitor_frame steps g
  refine ⟨fun hr => ?_, fun hw => ?_⟩
  · rw [htorn]
    exact h.running (hrunning ▸ hr)
  · rw [htorn]
    cases ht : g.tornDown with
    | true => rfl
    | false =>
        have hnot : g.writtenSince = false :=
          Bool.eq_false_iff.2 fun hsince => absurd (ht.symm.trans (h.written hsince)) Bool.false_ne_true
        exact (writtenSince_monitor steps ht hnot).symm.trans hw

theorem Finished.tornDown_eq {g' : UsbGadget} (h : Finished o functions g g') :
    g'.tornDown = g.tornDown := by
  cases h with
  | pulledUp calls h => rfl
  | monitored calls h hnot => rfl
  | stopped calls hpull hstart => rfl

/-- **A call of `setCurrentUsbFunctions`**: the tear-down, the rest, and what the monitor does at last. -/
theorem setCurrentUsbFunctions_spec (functions : ℕ) (callback : Bool) (timeout : ℕ) (o : Outcomes)
    (g : UsbGadget) :
    ∃ torn last, TornDown o g torn ∧ Finished o functions torn last ∧ last.tornDown = true ∧
      g.setCurrentUsbFunctions functions callback timeout o = last.monitor o.beforeReturn := by
  obtain ⟨htorn, hstatus⟩ := beginFunctions_tornDown functions o g
  have hfinished : Finished o functions (g.beginFunctions functions o).2 _ :=
    finishFunctions_finished callback timeout o _ hstatus
  exact ⟨_, _, htorn, hfinished, hfinished.tornDown_eq.trans htorn.tornDown, rfl⟩

theorem Inv.reset (h : g.Inv) (pulledDown : Bool) (between : List MonitorStep) (pulledUp : Bool) :
    (g.reset pulledDown between pulledUp).2.Inv := by
  have hbetween := (h.write "none").monitor between
  cases pulledDown with
  | false => exact h
  | true =>
      cases pulledUp with
      | false => exact hbetween
      | true => exact hbetween.write _

theorem Inv.apply (h : g.Inv) (e : Event) : (e.apply g).Inv := by
  cases e with
  | setCurrentUsbFunctions functions callback timeout o =>
      obtain ⟨torn, last, -, -, hlast, heq⟩ := setCurrentUsbFunctions_spec functions callback timeout o g
      rw [Event.apply, heq]
      exact (Inv.of_tornDown hlast).monitor o.beforeReturn
  | reset pulledDown between pulledUp => exact h.reset pulledDown between pulledUp
  | monitor step => exact h.monitor [step]

/-! ### One event -/

/-- **A change of the functions.** -/
theorem applied_setCurrentUsbFunctions_iff (functions : ℕ) (callback : Bool) (timeout : ℕ)
    (o : Outcomes) (g : UsbGadget) :
    (g.setCurrentUsbFunctions functions callback timeout o).AppliedWhilePulledUp ↔
      (Event.setCurrentUsbFunctions functions callback timeout o).Keeps g := by
  obtain ⟨torn, last, htorn, hfinished, hlast, heq⟩ :=
    setCurrentUsbFunctions_spec functions callback timeout o g
  rw [heq, applied_monitor_iff fun _ => hlast]
  unfold Event.Keeps
  cases hfinished with
  | pulledUp calls h =>
      exact iff_of_true (Or.inr (appliedWhilePulledUp_iff.2 fun _ => ⟨rfl, htorn.tornDown⟩))
        fun _ => Or.inl h
  | monitored calls h hnot =>
      -- the new monitor is running, and the flag is that of the old one's report
      have hiff : ({ torn with monitorRunning := true, callbacks := calls } :
          UsbGadget).AppliedWhilePulledUp ↔ ¬ o.Stale g :=
        (appliedWhilePulledUp_iff_not htorn.writtenSince).trans (not_congr htorn.applied)
      rw [hiff]
      constructor
      · rintro (⟨-, hreturn⟩ | hfresh) hstale
        · exact Or.inr ⟨hreturn, Or.inr h⟩
        · exact absurd hstale hfresh
      · intro hkeeps
        by_cases hstale : o.Stale g
        · rcases hkeeps hstale with hpull | ⟨hreturn, -⟩
          · exact absurd hpull hnot
          · exact Or.inl ⟨rfl, hreturn⟩
        · exact Or.inr hstale
  | stopped calls hpull hstart =>
      -- a monitor is running only if the tear-down failed, and then it is the old one
      have hiff : ({ torn with callbacks := calls } : UsbGadget).AppliedWhilePulledUp ↔ ¬ o.Stale g :=
        (appliedWhilePulledUp_iff_not htorn.writtenSince).trans (not_congr htorn.applied)
      rw [hiff, htorn.running]
      constructor
      · rintro (⟨⟨hreset, -⟩, hreturn⟩ | hfresh) hstale
        · exact Or.inr ⟨hreturn, Or.inl hreset⟩
        · exact absurd hstale hfresh
      · intro hkeeps
        by_cases hstale : o.Stale g
        · rcases hkeeps hstale with hpull' | ⟨hreturn, hreset | hstart'⟩
          · exact absurd hpull' hpull
          · exact Or.inl ⟨⟨hreset, hstale.1⟩, hreturn⟩
          · exact absurd hstart' hstart
        · exact Or.inr hstale

/-- Where the functions are applied, they have been torn down. -/
theorem Inv.tornDown_of_applied (hg : g.Inv) (happ : g.AppliedWhilePulledUp)
    (h : g.mCurrentUsbFunctionsApplied = true) : g.tornDown = true :=
  hg.written (appliedWhilePulledUp_iff.1 happ h).2

/-- Pulling the gadget down leaves the answer right if it is that they are not applied. -/
theorem applied_write_none_iff (hg : g.Inv) (happ : g.AppliedWhilePulledUp) :
    (g.write "none").AppliedWhilePulledUp ↔
      g.mCurrentUsbFunctionsApplied = false ∨ g.mGadgetName = "none" := by
  rw [appliedWhilePulledUp_iff]
  constructor
  · intro h
    cases hflag : g.mCurrentUsbFunctionsApplied with
    | false => exact Or.inl rfl
    | true => exact Or.inr (Option.some.inj (h hflag).1).symm
  · rintro (hflag | hname) h
    · exact absurd (hflag.symm.trans h) Bool.false_ne_true
    · exact ⟨congrArg some hname.symm, hg.tornDown_of_applied happ h⟩

/-- Pulling it up leaves the answer right, whatever the monitor did before. -/
theorem applied_write_name (hg : g.Inv) (happ : g.AppliedWhilePulledUp) (steps : List MonitorStep)
    (value : String) :
    (((g.write value).monitor steps).write
      ((g.write value).monitor steps).mGadgetName).AppliedWhilePulledUp := by
  refine appliedWhilePulledUp_iff.2 fun hflag => ⟨rfl, ?_⟩
  refine (monitor_frame steps (g.write value)).2.1.trans ?_
  -- a stopped monitor leaves the flag as it was, and a running one is started by a tear-down
  cases hrunning : g.monitorRunning with
  | true => exact hg.running hrunning
  | false =>
      have hstopped : (g.write value).monitorRunning = false := hrunning
      have hsame : ((g.write value).monitor steps).mCurrentUsbFunctionsApplied = true := hflag
      rw [applied_monitor, hstopped, if_neg Bool.false_ne_true] at hsame
      exact hg.tornDown_of_applied happ hsame

/-- **A reset.** -/
theorem applied_reset_iff (hg : g.Inv) (happ : g.AppliedWhilePulledUp) (pulledDown : Bool)
    (between : List MonitorStep) (pulledUp : Bool) :
    (g.reset pulledDown between pulledUp).2.AppliedWhilePulledUp ↔
      (Event.reset pulledDown between pulledUp).Keeps g := by
  unfold Event.Keeps
  cases pulledDown with
  | false => exact iff_of_true happ fun h => absurd h Bool.false_ne_true
  | true =>
      cases pulledUp with
      | true =>
          exact iff_of_true (applied_write_name hg happ between "none")
            fun _ h => absurd h.symm Bool.false_ne_true
      | false =>
          refine (applied_monitor_iff (hg.write "none").running between).trans ?_
          rw [applied_write_none_iff hg happ]
          constructor
          · rintro (hreport | hflag | hname) _ _
            · exact Or.inr (Or.inl hreport)
            · exact Or.inl hflag
            · exact Or.inr (Or.inr hname)
          · intro h
            rcases h rfl rfl with hflag | hreport | hname
            · exact Or.inr (Or.inl hflag)
            · exact Or.inl hreport
            · exact Or.inr (Or.inr hname)

end UsbGadget

open UsbGadget

/-- **One event** keeps the answer right exactly if it meets the condition. -/
theorem Event.applied_iff (e : Event) {g : UsbGadget} (hg : g.Inv) (happ : g.AppliedWhilePulledUp) :
    (e.apply g).AppliedWhilePulledUp ↔ e.Keeps g := by
  cases e with
  | setCurrentUsbFunctions functions callback timeout o =>
      exact applied_setCurrentUsbFunctions_iff functions callback timeout o g
  | reset pulledDown between pulledUp => exact applied_reset_iff hg happ pulledDown between pulledUp
  | monitor step =>
      exact iff_of_true ((applied_monitor_iff hg.running [step]).2 (Or.inr happ)) trivial

theorem UsbGadget.construct_eq_some {accessible : Bool} {property : String} {functions : ℕ}
    {applied : Bool} {g : UsbGadget} (h : construct accessible property functions applied = some g) :
    g = { mCurrentUsbFunctions := functions
          mCurrentUsbFunctionsApplied := applied
          mGadgetName := property } := by
  unfold construct at h
  split at h
  · cases h
  · split at h
    · cases h
    · exact (Option.some.inj h).symm

/-- **Applied only while pulled up.**  From the construction, in all states between the calls, the
service answers that the functions are applied only while the gadget is pulled up, and was after their
tear-down, exactly if the flag happens to be cleared at first and every event meets the condition. -/
theorem functions_applied_iff {accessible : Bool} {property : String} {functions : ℕ} {applied : Bool}
    {g : UsbGadget} (hg : construct accessible property functions applied = some g)
    (events : List Event) :
    (∀ n, (g.run (events.take n)).AppliedWhilePulledUp) ↔
      applied = false ∧
        ∀ n (e : Event), events[n]? = some e → e.Keeps (g.run (events.take n)) := by
  obtain rfl := construct_eq_some hg
  refine (Machine.forall_take_iff (I := Inv) (fun e g h => h.apply e)
    (fun e g hg happ => e.applied_iff hg happ) events
    ⟨fun h => absurd h Bool.false_ne_true, fun h => absurd h Bool.false_ne_true⟩).trans ?_
  refine and_congr_left fun _ => ?_
  rw [appliedWhilePulledUp_iff_not rfl]
  exact Bool.not_eq_true applied ▸ Iff.rfl

/-- A gadget whose flag was cleared when it was constructed. -/
def gadget : UsbGadget where
  mCurrentUsbFunctions := NONE
  mCurrentUsbFunctionsApplied := false
  mGadgetName := "a600000.dwc3"

/-- Files are transferred, the gadget is reset, and the functions are taken away; the monitor pulls the
gadget up for the files, and reports twice during the tear-down. -/
def changes : List Event :=
  [.setCurrentUsbFunctions MTP true 1000 { ffsEnabled := true, beforeReturn := [.pullUp] },
    .reset true [] true,
    .setCurrentUsbFunctions NONE true 1000 { beforeReset := [.pullUp], afterReset := [.pullDown] }]

theorem functions_applied_changes :
    construct true "a600000.dwc3" NONE false = some gadget ∧
    (gadget.run (changes.take 2)).getCurrentUsbFunctions = (MTP, .FUNCTIONS_APPLIED) ∧
    ∀ n, (gadget.run (changes.take n)).AppliedWhilePulledUp := by
  have hnew : construct true "a600000.dwc3" NONE false = some gadget := rfl
  refine ⟨hnew, by decide, (functions_applied_iff (g := gadget) hnew changes).2 ⟨rfl, ?_⟩⟩
  intro n e he
  match n, he with
  | 0, he =>
      obtain rfl := Option.some.inj he
      exact fun hstale => absurd hstale.1 Bool.false_ne_true
  | 1, he =>
      obtain rfl := Option.some.inj he
      exact fun _ h => absurd h.symm Bool.false_ne_true
  | 2, he =>
      obtain rfl := Option.some.inj he
      exact fun hstale => absurd hstale.2 (by decide)

/-- A reset that fails to pull the gadget up again leaves it down, and the functions applied. -/
theorem functions_applied_pulled_down :
    construct true "a600000.dwc3" NONE false = some gadget ∧
    (gadget.run
      [.setCurrentUsbFunctions MIDI true 1000 {}, .reset true [] false]).getCurrentUsbFunctions =
        (MIDI, .FUNCTIONS_APPLIED) ∧
    (gadget.run [.setCurrentUsbFunctions MIDI true 1000 {}, .reset true [] false]).pullup = some "none" ∧
    ¬ (gadget.run
      [.setCurrentUsbFunctions MIDI true 1000 {}, .reset true [] false]).AppliedWhilePulledUp := by
  refine ⟨rfl, by decide, by decide, fun h => ?_⟩
  exact absurd (h (by decide)).1 (by decide)

end UsbGadgetHal
