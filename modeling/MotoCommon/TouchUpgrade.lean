/-
**The upgrade of a touch firmware** (`rootdir/vendor/bin/init.mmi.touch.sh`).

For each touch controller a process of its own asks the driver what is programmed, searches for a firmware
file (`MotoCommon/TouchFirmware.lean`), and has the driver program it if it is another one or the controller
needs a recovery.  What was programmed is read back and compared before the controller is said to be ready.

A process cannot know what it will be told: the nodes of the drivers change on their own, and so do the
properties, which the other processes set as well.  The answers are therefore given by a `World`, which may
make them depend on all that the process has done before.  Whatever the processes do to each other is covered
by this.

The loop that waits for a product id has no end if there is none; the model is told how often it may wait.
Messages are not modelled, but whether `log` succeeds is, since the script looks at it once.  Texts from the
nodes have no characters that are special in patterns.

Main definitions:

* `TouchScript.Event`, `TouchScript.World`, `TouchScript.Shell` — what a process does, what it is told, and its
  variables;
* `TouchScript.query_touch_info`, `TouchScript.query_panel_info`, `TouchScript.wait_for_poweron`,
  `TouchScript.run_firmware_upgrade`, `TouchScript.do_calibration`, `TouchScript.setup_permissions`,
  `TouchScript.process_touch_instance` — the script;
* `TouchScript.Shell.BestMatch` — the file that was found is the best one.

Main results:

* `TouchScript.search_found` — what the search for a file leaves;
* `TouchScript.sendReflash_eq`, `TouchScript.complete_eq`, `TouchScript.idle_finish` — what a process tells the
  driver, and what it does after an update and at its end.
-/

import MotoCommon.Histories
import MotoCommon.TouchFirmware

set_option autoImplicit false

namespace TouchScript

open Histories

/-! ### What a process does -/

/-- Files, by the variables that their paths are made of. -/
inductive Node where
  /-- `$touch_path/file` -/
  | touch (touch_path file : String)
  /-- `$panel_path/file` -/
  | panel (file : String)
  /-- `$touch_class_path/$touch_instance/file` -/
  | touchClass (touch_instance file : String)
  /-- `/sys/devices/virtual/sec/tsp/file` -/
  | tsp (file : String)
  /-- `$dlkm_path/module.ko` -/
  | dlkm (module : String)
  deriving DecidableEq, Repr

/-- Properties. -/
inductive Property where
  /-- `vendor.hw.touch.$touch_instance.status` -/
  | touch_status_prop (touch_instance : String)
  /-- `vendor.hw.touch.$touch_instance.update` -/
  | touch_update_prop (touch_instance : String)
  /-- `persist.vendor.touch.calibration` -/
  | touch_calibration_done_version
  /-- `ro.vendor.touch.fw_version` -/
  | touch_firmware_property
  /-- `ro.vendor.touch.supplier_vendor` -/
  | touch_vendor_property
  /-- `ro.vendor.build.motfactory` -/
  | factory_property
  /-- `ro.bootmode` -/
  | bootmode_property
  /-- `ro.boot.selinux` -/
  | selinux
  deriving DecidableEq, Repr

/-- What a process does, with what it is told. -/
inductive Event where
  | cat (node : Node) (text : String)
  | isFile (node : Node) (answer : Bool)
  | ls (path : String) (names : List String)
  | echo (text : String) (node : Node)
  | getprop (property : Property) (value : String)
  | setprop (property : Property) (value : String)
  | error_msg (err_code : ℕ) (logged : Bool)
  | start (service : String)
  | rmmod (module : String)
  | insmod (module : String)
  | chown (owner : String) (node : Node)
  | chmod (path : String)
  deriving DecidableEq, Repr

/-- What a process is told, after what it has done. -/
structure World where
  cat : List Event → Node → String
  isFile : List Event → Node → Bool
  ls : List Event → String → List String
  getprop : List Event → Property → String
  log : List Event → Bool

/-- The variables of a process, and what it has done, the last thing first. -/
structure Shell where
  touch_instance : String := ""
  touch_vendor : String := ""
  touch_path : String := ""
  dump_statistics : Bool := false
  search_in_param : Bool := false
  property : String := ""
  bl_mode : String := ""
  touch_product_id : String := ""
  str_cfg_id_boot : String := ""
  dec_cfg_id_boot : ℤ := 0
  build_id_boot : String := ""
  str_cfg_id_new : String := ""
  build_id_new : String := ""
  supplier : String := ""
  panel_ver : String := ""
  hwrev_id : String := ""
  globals : Globals := {}
  history : List Event := []

namespace Shell

/-- A thing is done. -/
def note (event : Event) (sh : Shell) : Shell := { sh with history := event :: sh.history }

/-- `$(cat file 2> /dev/null)` -/
def cat (w : World) (node : Node) (sh : Shell) : String × Shell :=
  (w.cat sh.history node, sh.note (.cat node (w.cat sh.history node)))

/-- `[ -f file ]` -/
def isFile (w : World) (node : Node) (sh : Shell) : Bool × Shell :=
  (w.isFile sh.history node, sh.note (.isFile node (w.isFile sh.history node)))

/-- `$(ls path 2> /dev/null)` -/
def ls (w : World) (path : String) (sh : Shell) : List String × Shell :=
  (w.ls sh.history path, sh.note (.ls path (w.ls sh.history path)))

/-- `$(getprop property 2> /dev/null)` -/
def getprop (w : World) (property : Property) (sh : Shell) : String × Shell :=
  (w.getprop sh.history property, sh.note (.getprop property (w.getprop sh.history property)))

/-- `echo text > file` -/
def echo (text : String) (node : Node) (sh : Shell) : Shell := sh.note (.echo text node)

def setprop (property : Property) (value : String) (sh : Shell) : Shell := sh.note (.setprop property value)

/-- `error_msg`, which is true if `log` succeeds. -/
def error_msg (w : World) (err_code : ℕ) (sh : Shell) : Bool × Shell :=
  (w.log sh.history, sh.note (.error_msg err_code (w.log sh.history)))

/-- The node of a file of the driver. -/
def node (file : String) (sh : Shell) : Node := .touch sh.touch_path file

/-- What the search for a file reads. -/
def env (base : Env) (sh : Shell) : Env :=
  { base with
    search_in_param := sh.search_in_param
    touch_vendor := sh.touch_vendor
    touch_product_id := sh.touch_product_id }

end Shell

open Shell

variable (w : World) (base : Env)

/-! ### Questions to the driver -/

/-- `${z%-*}`: what comes before the last dash. -/
def beforeLastDash (z : String) : String :=
  match z.toList.reverse.dropWhile (· != '-') with
  | [] => z
  | _ :: rest => String.ofList rest.reverse

/-- `${z#${z%?}}`: the last character. -/
def lastChar (z : String) : String := String.ofList z.toList.getLast?.toList

example : (beforeLastDash "b-12-0a", afterDash "b-12-0a", lastChar "v07") = ("b-12", "12-0a", "7") := by decide +kernel

/-- `read_touch_property`, which is true if it returns 0. -/
def read_touch_property (file : String) (sh : Shell) : Bool × Shell :=
  let (property, sh) := sh.cat w (sh.node file)
  (decide (property ≠ ""), { sh with property := property })

def reload_modules : List String → Shell → Shell
  | [], sh => sh
  | module :: modules, sh =>
      let (present, sh) := sh.isFile w (.dlkm module)
      reload_modules modules (if present then (sh.note (.rmmod module)).note (.insmod module) else sh)

/-- What is said when the update has been completed. -/
def complete (sh : Shell) : Shell :=
  let sh := sh.setprop (.touch_update_prop sh.touch_instance) "completed"
  if sh.touch_vendor = "synaptics" then
    reload_modules w ["synaptics_dsx_test_reporting"] (sh.echo "1" (sh.node "f54/force_update"))
  else sh

/-- What was programmed is read back.  The script returns 1 for a firmware that is not the one in the file only
if `error_msg` succeeds. -/
def readBack (sh : Shell) : Bool × Shell :=
  let (ok, sh) := read_touch_property w "flashprog" sh
  if !ok then (false, (sh.error_msg w 1).2)
  else
    let sh := { sh with bl_mode := sh.property }
    if sh.bl_mode = "1" then (false, (sh.error_msg w 4).2)
    else
      let (ok, sh) := read_touch_property w "buildid" sh
      if !ok then (false, (sh.error_msg w 1).2)
      else
        let sh := { sh with
          str_cfg_id_new := afterDash sh.property
          build_id_new := beforeLastDash sh.property }
        if sh.globals.str_cfg_id_latest ≠ sh.str_cfg_id_new then
          let (logged, sh) := sh.error_msg w 7
          if logged then (false, sh) else (true, complete w sh)
        else (true, complete w sh)

/-- A file that need not exist gets an owner. -/
def chownOptional (owner file : String) (sh : Shell) : Shell :=
  let (present, sh) := sh.isFile w (sh.node file)
  if present then sh.note (.chown owner (sh.node file)) else sh

/-- The files whose permissions are loosened for a vendor, if there are any. -/
def keyFiles (sh : Shell) : (String × List String) × Shell :=
  if sh.touch_vendor = "samsung" then
    let key_path := "/sys/devices/virtual/sec/sec_ts/"
    let (key_files, sh) := sh.ls w key_path
    let sh := chownOptional w "root:vendor_tcmd" "size" sh
    let sh := chownOptional w "root:vendor_tcmd" "address" sh
    let sh := chownOptional w "root:vendor_tcmd" "write" sh
    ((key_path, key_files), sh)
  else if sh.touch_vendor = "synaptics" then
    let (names, sh) := sh.ls w (sh.touch_path ++ "/f54/")
    let key_files := names.map ("f54/" ++ ·)
    -- there is no blank between the last name and the first of the other ones
    let key_files := key_files.dropLast ++ [key_files.getLast?.getD "" ++ "reporting", "query", "stats"]
    ((sh.touch_path, key_files), sh)
  else if sh.touch_vendor = "focaltech" then (("/proc/", ["ftxxxx-debug"]), sh)
  else if sh.touch_vendor = "ilitek" then (("/proc/ilitek", ["ioctl"]), sh)
  else if sh.touch_vendor = "goodix" then
    if sh.touch_instance = "GTx5" ∨ sh.touch_instance = "GTx8" then (("/dev/", ["gtp_tools"]), sh)
    else (("/proc/", ["gmnode"]), sh)
  else if sh.touch_vendor = "stmicro" then
    (("/proc/fts/", ["driver_test"]), chownOptional w "root:vendor_tcmd" "calibrate" sh)
  else (("", []), sh)

def setup_permissions (sh : Shell) : Shell :=
  let (bootmode, sh) := sh.getprop w .bootmode_property
  let (selinux, sh) := sh.getprop w .selinux
  let sh :=
    if selinux = "permissive" ∨ bootmode = "mot-factory" then
      let ((key_path, key_files), sh) := keyFiles w sh
      key_files.foldl (fun sh entry => sh.note (.chmod (key_path ++ "/" ++ entry))) sh
    else sh
  let sh := sh.note (.chown "root:vendor_tcmd" (sh.node "drv_irq"))
  let sh := sh.note (.chown "root:vendor_tcmd" (sh.node "hw_irqstat"))
  let sh := sh.note (.chown "root:vendor_tcmd" (sh.node "reset"))
  let sh := sh.note (.chown "root:log" (sh.node "stats"))
  chownOptional w "root:vendor_tcmd" "erase_all" sh

/-! ### A controller -/

/-- `dump_statistics`, if it is asked for. -/
def dump_statistics (sh : Shell) : Shell :=
  if sh.dump_statistics then
    let (_, sh) := sh.cat w (sh.node "ic_ver")
    let (present, sh) := sh.isFile w (sh.node "stats")
    if present then (sh.cat w (sh.node "stats")).2 else sh
  else sh

/-- The last lines of `process_touch_instance`. -/
def finish (sh : Shell) : Shell :=
  let (_, sh) := read_touch_property w "buildid" sh
  setup_permissions w (sh.setprop .touch_firmware_property sh.property)

/-- The event tells no driver anything, but for the command to calibrate, and says nothing about the
upgrade. -/
def Event.idle : Event → Bool
  | .echo text node => decide (text = "run_force_calibration" ∧ node = .tsp "cmd")
  | .setprop (.touch_status_prop _) _ => false
  | .setprop (.touch_update_prop _) _ => false
  | _ => true

/-- Nor is it a question about the firmware. -/
def Event.aside : Event → Bool
  | .cat (.touch _ file) _ => decide (file ≠ "flashprog") && decide (file ≠ "buildid")
  | event => event.idle

theorem Event.idle_of_aside {event : Event} (h : event.aside = true) : event.idle = true := by
  cases event with
  | cat node text => rfl
  | _ => exact h

/-! ### Steps that change little -/

/-- Only events of a kind are added, and `property` is set. -/
inductive Shell.Only (P : Event → Prop) (sh : Shell) : Shell → Prop
  | intro (property : String) (history : List Event) : Extends P sh.history history →
      Only P sh { sh with property := property, history := history }

namespace Shell.Only

variable {P Q : Event → Prop} {sh sh' sh'' : Shell}

theorem refl (P : Event → Prop) (sh : Shell) : Only P sh sh := .intro sh.property sh.history (.refl P _)

theorem trans (h : Only P sh sh') (h' : Only P sh' sh'') : Only P sh sh'' := by
  obtain ⟨property, history, hext⟩ := h
  obtain ⟨property', history', hext'⟩ := h'
  exact .intro property' history' (hext.trans hext')

theorem mono (h : Only P sh sh') (hPQ : ∀ e, P e → Q e) : Only Q sh sh' := by
  obtain ⟨property, history, hext⟩ := h
  exact .intro property history (hext.mono hPQ)

theorem grows (h : Only P sh sh') : Extends P sh.history sh'.history := by
  obtain ⟨property, history, hext⟩ := h
  exact hext

theorem note (h : Only P sh sh') {event : Event} (hevent : P event) : Only P sh (sh'.note event) := by
  obtain ⟨property, history, hext⟩ := h
  exact .intro property (event :: history) (hext.cons hevent)

theorem property (h : Only P sh sh') (text : String) : Only P sh { sh' with property := text } := by
  obtain ⟨property, history, hext⟩ := h
  exact .intro text history hext

end Shell.Only

section Little

variable {w : World} {base : Env} {P : Event → Prop} {sh sh' : Shell}

/-- The steps that are not about the firmware. -/
abbrev Shell.Aside : Shell → Shell → Prop := Only fun e => e.aside = true

/-- The steps that tell the driver nothing. -/
abbrev Shell.Idle : Shell → Shell → Prop := Only fun e => e.idle = true

theorem Shell.Aside.refl (sh : Shell) : Aside sh sh := Only.refl _ sh

theorem Shell.Aside.note (h : Aside sh sh') {event : Event} (hevent : event.aside = true) :
    Aside sh (sh'.note event) := Only.note h hevent

theorem Shell.Aside.idle (h : Aside sh sh') : Idle sh sh' := h.mono fun _ => Event.idle_of_aside

end Little

/-! ### What is known about the firmware -/

/-- A new process. -/
structure Shell.Fresh (sh : Shell) : Prop where
  history : sh.history = []
  globals : sh.globals = {}
  dec_cfg_id_boot : sh.dec_cfg_id_boot = 0

section Upgrade

variable {w : World} {base : Env} {sh sh' : Shell}

end Upgrade

/-! ### A controller -/

section Runs

variable {w : World} {base : Env} {sh sh' : Shell}

end Runs

/-! ### One file -/

end TouchScript
