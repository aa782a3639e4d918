/-
**The search for a touch firmware** (`rootdir/vendor/bin/init.mmi.touch.sh`).

The names of the firmware files say for which touch controller, product and hardware revision they are, and
carry the id of a configuration in hexadecimal.  The script looks for the files of the whole revision first.
As long as there is none it makes the revision shorter by a character, down to the empty one.  Among the
files of a revision the one with the greatest id is taken.  If a second directory is searched, a file there
is taken only if its id is greater than all those of the first; the current directory is then left there.

The results of the scan of a directory are global variables of the script, and so are the flag that says
where the file was found and the current directory.  They are passed along here in `Globals`.  The names in
the directories have no blanks, so that the words in the output of `ls` are names.

Main definitions:

* `TouchScript.find_latest_config_id` — the scan of the current directory;
* `TouchScript.searchMasks` — the loop over the shortened revisions;
* `TouchScript.find_best_match`, `TouchScript.search_firmware_file` — the search;
* `TouchScript.latest` — the greatest id among some files;
* `TouchScript.Selected` — what a search is for.

Main results:

* `TouchScript.find_latest_config_id_found`, `TouchScript.find_latest_config_id_none` — **the scan**;
* `TouchScript.tryMask_tried` — **one round** of the loop;
* `TouchScript.searchMasks_searched` — **the loop**, for every revision;
* `TouchScript.find_best_match_optimal` — the search finds the best match;
* `TouchScript.search_firmware_file_fails_iff` — when there is no match for any supplier.
-/

import Mathlib.Data.List.Induction
import Mathlib.Order.Bounds.Defs
import MotoCommon.AdpfTypes

set_option autoImplicit false

namespace TouchScript

open Adpf (toInt32 toInt32_eq)

/-! ### Names -/

/-- `${z#*-}`: what comes after the first dash. -/
def afterDash (z : String) : String :=
  match z.toList.dropWhile (· != '-') with
  | [] => z
  | _ :: rest => String.ofList rest

/-- `${z%%-*}`: what comes before the first dash. -/
def beforeDash (z : String) : String := String.ofList (z.toList.takeWhile (· != '-'))

/-- The loop that takes fields off a name. -/
def skip : ℕ → String → String
  | 0, z => z
  | skip_fields + 1, z => skip skip_fields (afterDash z)

/-- The field of a name after `skip_fields` others. -/
def field (skip_fields : ℕ) (file : String) : String := beforeDash (skip skip_fields file)

/-- The value of a hexadecimal digit. -/
def hexDigit (c : Char) : Option ℕ :=
  if '0' ≤ c ∧ c ≤ '9' then some (c.toNat - '0'.toNat)
  else if 'a' ≤ c ∧ c ≤ 'f' then some (c.toNat - 'a'.toNat + 10)
  else if 'A' ≤ c ∧ c ≤ 'F' then some (c.toNat - 'A'.toNat + 10)
  else none

/-- The value of a hexadecimal number. -/
def hexValue (s : String) : Option ℕ :=
  if s = "" then none else s.toList.foldlM (fun n c => (hexDigit c).map (16 * n + ·)) 0

example : hexValue (field 2 "synaptics-s3508-15040102-1a2b-griffin-p1.tdat") = some 0x15040102 := by
  decide +kernel

/-! ### The script -/

inductive Dir where
  | firmware
  | param
  deriving DecidableEq, Repr

/-- What a search reads and does not change.  The directories are the names in them, in the order of `ls`;
the second one may be missing.  Left open are the patterns of the shell, and what `let` does to a variable
if the text is no hexadecimal number. -/
structure Env where
  firmware_path : List String
  param_path : Option (List String)
  search_in_param : Bool
  touch_vendor : String
  touch_product_id : String
  product_id : String
  glob : String → String → Bool
  letOther : String → ℤ → ℤ

/-- The global variables, and the current directory. -/
structure Globals where
  dec_cfg_id_latest : ℤ := 0
  str_cfg_id_latest : String := ""
  find_in_param : ℕ := 0
  firmware_file : List String := []
  cwd : Dir := .firmware
  deriving DecidableEq, Repr

namespace Env

variable (env : Env)

/-- The names in a directory. -/
def names : Dir → List String
  | .firmware => env.firmware_path
  | .param => env.param_path.getD []

/-- `cd`, which fails if the directory is missing. -/
def cd (dir : Dir) (g : Globals) : Globals :=
  if dir = .param ∧ env.param_path = none then g else { g with cwd := dir }

/-- `ls` of a pattern. -/
def ls (dir : Dir) (fw_mask : String) : List String := (env.names dir).filter (env.glob fw_mask)

/-- `let dec=0x$str_hex`. -/
def letHex (str_hex : String) (dec : ℤ) : ℤ :=
  match hexValue str_hex with
  | some n => toInt32 n
  | none => env.letOther str_hex dec

end Env

/-- The variables of the scan. -/
structure Scan where
  dec : ℤ
  max : ℤ
  dec_cfg_id_latest : ℤ
  str_cfg_id_latest : String

/-- One round of the loop over the files. -/
def scanFile (env : Env) (skip_fields : ℕ) (st : Scan) (file : String) : Scan :=
  let str_hex := field skip_fields file
  let dec := env.letHex str_hex st.dec
  if dec > st.max then ⟨dec, dec, dec, str_hex⟩ else { st with dec := dec }

/-- `find_latest_config_id`, which is true if it returns 0. -/
def find_latest_config_id (env : Env) (fw_mask : String) (skip_fields : ℕ) (g : Globals) :
    Bool × Globals :=
  let st := (env.ls g.cwd fw_mask).foldl (scanFile env skip_fields) ⟨0, 0, g.dec_cfg_id_latest, ""⟩
  (decide (st.str_cfg_id_latest ≠ ""),
    { g with
      dec_cfg_id_latest := st.dec_cfg_id_latest
      str_cfg_id_latest := st.str_cfg_id_latest })

/-- The number of fields before the id: the supplier of the panel is one, if it is known. -/
def skipFields (panel_supplier : String) : ℕ := if panel_supplier ≠ "" then 3 else 2

/-- The pattern of the files for a shortened revision. -/
def fwMask (env : Env) (panel_supplier hw_mask : String) : String :=
  if panel_supplier ≠ "" then
    env.touch_vendor ++ "-" ++ panel_supplier ++ "-" ++ env.touch_product_id ++ "-*-" ++
      env.product_id ++ hw_mask ++ ".*"
  else env.touch_vendor ++ "-" ++ env.touch_product_id ++ "-*-" ++ env.product_id ++ hw_mask ++ ".*"

/-- The pattern of the file that is taken. -/
def fileMask (env : Env) (panel_supplier str_cfg_id_latest hw_mask : String) : String :=
  if panel_supplier = "" then
    env.touch_vendor ++ "-" ++ env.touch_product_id ++ "-" ++ str_cfg_id_latest ++ "-*-" ++
      env.product_id ++ hw_mask ++ ".*"
  else
    env.touch_vendor ++ "-" ++ panel_supplier ++ "-" ++ env.touch_product_id ++ "-" ++
      str_cfg_id_latest ++ "-*-" ++ env.product_id ++ hw_mask ++ ".*"

/-- The best match so far. -/
structure Best where
  match_best_cfg_dec : ℤ := 0
  match_best_cfg : String := ""
  deriving DecidableEq, Repr

/-- The body of the loop: both directories are searched for one pattern. -/
def tryMask (env : Env) (panel_supplier hw_mask : String) (best : Best) (g : Globals) : Best × Globals :=
  let skip_fields := skipFields panel_supplier
  let fw_mask := fwMask env panel_supplier hw_mask
  let (found, g) := find_latest_config_id env fw_mask skip_fields g
  let best := if found then ⟨g.dec_cfg_id_latest, g.str_cfg_id_latest⟩ else best
  if env.search_in_param then
    let (found, g) := find_latest_config_id env fw_mask skip_fields (env.cd .param g)
    if found then
      if best.match_best_cfg_dec < g.dec_cfg_id_latest then
        (⟨g.dec_cfg_id_latest, g.str_cfg_id_latest⟩, { g with find_in_param := 1 })
      else (best, env.cd .firmware g)
    else (best, env.cd .firmware g)
  else (best, g)

/-- The loop.  What is left of the revision begins with a dash, but the empty revision has none. -/
def searchMasks (env : Env) (panel_supplier : String) (hw_mask : List Char) (best : Best) (g : Globals) :
    List Char × Best × Globals :=
  if _h : hw_mask = [] then (hw_mask, best, g)
  else
    let hw_mask' := if hw_mask = ['-'] then [] else hw_mask
    let r := tryMask env panel_supplier (String.ofList hw_mask') best g
    if r.1.match_best_cfg_dec ≠ 0 then (hw_mask', r.1, r.2)
    else searchMasks env panel_supplier hw_mask'.dropLast r.1 r.2
termination_by hw_mask.length
decreasing_by
  have hpos := List.length_pos_iff.2 _h
  split
  · exact hpos
  · rw [List.length_dropLast]
    omega

/-- `find_best_match`, which is true if it returns 0. -/
def find_best_match (env : Env) (hw_mask panel_supplier : String) (g : Globals) : Bool × Globals :=
  let (hw_mask, best, g) := searchMasks env panel_supplier hw_mask.toList {} g
  let g := { g with
    str_cfg_id_latest := best.match_best_cfg
    dec_cfg_id_latest := best.match_best_cfg_dec }
  if best.match_best_cfg = "" then (false, g)
  else
    let mask := fileMask env panel_supplier g.str_cfg_id_latest (String.ofList hw_mask)
    (true, { g with firmware_file := env.ls g.cwd mask })

/-- `search_firmware_file`, which is true if it returns 0. -/
def search_firmware_file (env : Env) (supplier panel_ver hwrev_id : String) (g : Globals) :
    Bool × Globals :=
  let search := fun pattern => find_best_match env ("-" ++ hwrev_id) pattern
  let (found, g) :=
    if supplier ≠ "" then
      match search (supplier ++ panel_ver) g with
      | (true, g) => (true, g)
      | (false, g) => search supplier g
    else (false, g)
  if found then (true, g) else search "" g

/-! ### Ids -/

section Ids

variable {env : Env} {skip_fields : ℕ}

/-- The id that a name carries. -/
def configId (skip_fields : ℕ) (file : String) : ℕ := (hexValue (field skip_fields file)).getD 0

/-- The name carries an id of 31 bits. -/
def CarriesId (skip_fields : ℕ) (file : String) : Prop :=
  ∃ n, hexValue (field skip_fields file) = some n ∧ n < 2 ^ 31

/-- The greatest id among some files, or 0. -/
def latest (skip_fields : ℕ) (files : List String) : ℕ :=
  files.foldr (fun file m => max (configId skip_fields file) m) 0

@[simp] theorem latest_cons (skip_fields : ℕ) (file : String) (files : List String) :
    latest skip_fields (file :: files) = max (configId skip_fields file) (latest skip_fields files) := rfl

theorem configId_le_latest {file : String} {files : List String} (h : file ∈ files) :
    configId skip_fields file ≤ latest skip_fields files := by
  induction files with
  | nil => cases h
  | cons file' files ih =>
      rw [latest_cons]
      rcases List.mem_cons.1 h with rfl | h
      · exact le_max_left _ _
      · exact (ih h).trans (le_max_right _ _)

theorem CarriesId.letHex {file : String} (h : CarriesId skip_fields file) (env : Env) (dec : ℤ) :
    env.letHex (field skip_fields file) dec = configId skip_fields file := by
  obtain ⟨n, hn, hlt⟩ := h
  unfold Env.letHex configId
  rw [hn]
  exact toInt32_eq (by omega) (by omega)

theorem CarriesId.field_ne_empty {file : String} (h : CarriesId skip_fields file) :
    field skip_fields file ≠ "" := by
  obtain ⟨n, hn, -⟩ := h
  intro hempty
  rw [hempty] at hn
  cases hn

theorem scanFile_eq {file : String} (h : CarriesId skip_fields file) (st : Scan) :
    scanFile env skip_fields st file =
      if (configId skip_fields file : ℤ) > st.max then
        ⟨configId skip_fields file, configId skip_fields file, configId skip_fields file,
          field skip_fields file⟩
      else { st with dec := configId skip_fields file } := by
  unfold scanFile
  dsimp only
  rw [h.letHex]

/-- The scan from any state: either no id is greater than the maximum so far, and the result is not touched,
or the result is that of a file with the greatest id. -/
theorem foldl_scanFile (env : Env) {files : List String}
    (h : ∀ file ∈ files, CarriesId skip_fields file) (st : Scan) (hmax : 0 ≤ st.max) :
    ((latest skip_fields files : ℤ) ≤ st.max ∧
        (files.foldl (scanFile env skip_fields) st).dec_cfg_id_latest = st.dec_cfg_id_latest ∧
        (files.foldl (scanFile env skip_fields) st).str_cfg_id_latest = st.str_cfg_id_latest) ∨
      (st.max < latest skip_fields files ∧ ∃ file ∈ files,
        configId skip_fields file = latest skip_fields files ∧
          (files.foldl (scanFile env skip_fields) st).dec_cfg_id_latest = configId skip_fields file ∧
          (files.foldl (scanFile env skip_fields) st).str_cfg_id_latest = field skip_fields file) := by
  -- the induction is over the files, for any state to begin with
  induction files generalizing st with
  | nil => exact Or.inl ⟨hmax, rfl, rfl⟩
  | cons file files ih =>
      have hfiles : ∀ f ∈ files, CarriesId skip_fields f := fun f hf => h f (List.mem_cons_of_mem file hf)
      rw [List.foldl_cons, latest_cons, scanFile_eq (h file List.mem_cons_self)]
      by_cases hgt : (configId skip_fields file : ℤ) > st.max
      · rw [if_pos hgt]
        rcases ih hfiles ⟨configId skip_fields file, configId skip_fields file,
          configId skip_fields file, field skip_fields file⟩ (Int.natCast_nonneg _) with
          ⟨hle, hdec, hstr⟩ | ⟨hlt, file', hmem, hid, hdec, hstr⟩
        · have hle : latest skip_fields files ≤ configId skip_fields file := Int.ofNat_le.1 hle
          rw [max_eq_left hle]
          exact Or.inr ⟨hgt, file, List.mem_cons_self, rfl, hdec, hstr⟩
        · have hlt' : configId skip_fields file < latest skip_fields files := Int.ofNat_lt.1 hlt
          rw [max_eq_right (Nat.le_of_lt hlt')]
          exact Or.inr ⟨Int.lt_trans hgt hlt, file', List.mem_cons_of_mem file hmem, hid, hdec, hstr⟩
      · rw [if_neg hgt]
        rcases ih hfiles { st with dec := configId skip_fields file } hmax with
          ⟨hle, hdec, hstr⟩ | ⟨hlt, file', hmem, hid, hdec, hstr⟩
        · refine Or.inl ⟨?_, hdec, hstr⟩
          dsimp only at hle
          omega
        · dsimp only at hlt
          have hle : configId skip_fields file ≤ latest skip_fields files := by omega
          rw [max_eq_right hle]
          exact Or.inr ⟨hlt, file', List.mem_cons_of_mem file hmem, hid, hdec, hstr⟩

/-- **The scan** if no file has an id other than 0. -/
theorem find_latest_config_id_none {fw_mask : String} {g : Globals}
    (h : ∀ file ∈ env.ls g.cwd fw_mask, CarriesId skip_fields file)
    (hzero : latest skip_fields (env.ls g.cwd fw_mask) = 0) :
    find_latest_config_id env fw_mask skip_fields g = (false, { g with str_cfg_id_latest := "" }) := by
  unfold find_latest_config_id
  dsimp only
  rcases foldl_scanFile env h ⟨0, 0, g.dec_cfg_id_latest, ""⟩ (Int.le_refl 0) with
    ⟨-, hdec, hstr⟩ | ⟨hlt, -⟩
  · rw [hdec, hstr]
    rfl
  · rw [hzero] at hlt
    exact absurd hlt (Int.lt_irrefl 0)

/-- **The scan** if there is a file with an id other than 0: one with the greatest id is found. -/
theorem find_latest_config_id_found {fw_mask : String} {g : Globals}
    (h : ∀ file ∈ env.ls g.cwd fw_mask, CarriesId skip_fields file)
    (hpos : 0 < latest skip_fields (env.ls g.cwd fw_mask)) :
    ∃ file ∈ env.ls g.cwd fw_mask, configId skip_fields file = latest skip_fields (env.ls g.cwd fw_mask) ∧
      find_latest_config_id env fw_mask skip_fields g = (true, { g with
        dec_cfg_id_latest := configId skip_fields file
        str_cfg_id_latest := field skip_fields file }) := by
  unfold find_latest_config_id
  dsimp only
  rcases foldl_scanFile env h ⟨0, 0, g.dec_cfg_id_latest, ""⟩ (Int.le_refl 0) with
    ⟨hle, -⟩ | ⟨-, file, hmem, hid, hdec, hstr⟩
  · dsimp only at hle
    omega
  · refine ⟨file, hmem, hid, ?_⟩
    rw [hdec, hstr, decide_eq_true (h file hmem).field_ne_empty]

end Ids

/-! ### Matches -/

section Matches

/-- What is left of the pattern for a part of the revision. -/
def hwMask (rev : List Char) : List Char := if rev = [] then [] else '-' :: rev

/-- The directories that are searched. -/
def Env.searched (env : Env) : List Dir :=
  if env.search_in_param then [.firmware, .param] else [.firmware]

/-- The files in a directory for a part of the revision. -/
def matching (env : Env) (panel_supplier : String) (rev : List Char) (dir : Dir) : List String :=
  env.ls dir (fwMask env panel_supplier (String.ofList (hwMask rev)))

/-- The ids of the files for a part of the revision. -/
def Ids (env : Env) (panel_supplier : String) (rev : List Char) : Set ℕ :=
  { n | ∃ dir ∈ env.searched, ∃ file ∈ matching env panel_supplier rev dir,
    configId (skipFields panel_supplier) file = n }

/-- The greatest id in a directory, for a part of the revision. -/
def latestIn (env : Env) (panel_supplier : String) (rev : List Char) (dir : Dir) : ℕ :=
  latest (skipFields panel_supplier) (matching env panel_supplier rev dir)

/-- The file is taken from the second directory. -/
def paramNewer (env : Env) (panel_supplier : String) (rev : List Char) : Bool :=
  env.search_in_param &&
    decide (latestIn env panel_supplier rev .firmware < latestIn env panel_supplier rev .param)

/-- What the search leaves: the greatest id, which one of the files in the current directory carries, and a
flag that says whether this is the second directory. -/
structure Selected (env : Env) (panel_supplier : String) (rev : List Char) (g g' : Globals) : Prop where
  greatest : ∃ n, IsGreatest (Ids env panel_supplier rev) n ∧ n ≠ 0 ∧ g'.dec_cfg_id_latest = n
  find_in_param_eq : g'.find_in_param = if paramNewer env panel_supplier rev then 1 else g.find_in_param
  cwd_eq : g'.cwd = if paramNewer env panel_supplier rev then .param else .firmware
  file : ∃ file ∈ matching env panel_supplier rev g'.cwd,
    (configId (skipFields panel_supplier) file : ℤ) = g'.dec_cfg_id_latest ∧
      field (skipFields panel_supplier) file = g'.str_cfg_id_latest

variable {env : Env} {panel_supplier : String} {rev : List Char} {g g' : Globals} {best : Best}

/-- Only the flag matters of the variables before the search. -/
theorem Selected.congr {g₁ g₂ : Globals} (h : Selected env panel_supplier rev g₁ g')
    (hflag : g₁.find_in_param = g₂.find_in_param) : Selected env panel_supplier rev g₂ g' :=
  ⟨h.greatest, hflag ▸ h.find_in_param_eq, h.cwd_eq, h.file⟩

/-- What a round of the loop does, for the current directory and the flag that it finds. -/
inductive Tried (env : Env) (panel_supplier : String) (rev : List Char) (g : Globals) :
    Best × Globals → Prop
  | none (g' : Globals) : (∀ n ∈ Ids env panel_supplier rev, n = 0) → g'.cwd = .firmware →
      g'.find_in_param = g.find_in_param → Tried env panel_supplier rev g ({}, g')
  | found (best : Best) (g' : Globals) : best.match_best_cfg_dec ≠ 0 → best.match_best_cfg ≠ "" →
      Selected env panel_supplier rev g { g' with
        dec_cfg_id_latest := best.match_best_cfg_dec
        str_cfg_id_latest := best.match_best_cfg } →
      Tried env panel_supplier rev g (best, g')

/-- The files for a part of the revision carry ids. -/
def AllCarry (env : Env) (panel_supplier : String) (rev : List Char) : Prop :=
  ∀ dir ∈ env.searched, ∀ file ∈ matching env panel_supplier rev dir,
    CarriesId (skipFields panel_supplier) file

theorem firmware_mem_searched (env : Env) : Dir.firmware ∈ env.searched := by
  unfold Env.searched
  split <;> simp

theorem param_mem_searched_iff (env : Env) : Dir.param ∈ env.searched ↔ env.search_in_param = true := by
  unfold Env.searched
  split <;> simp_all

theorem paramNewer_iff (env : Env) (panel_supplier : String) (rev : List Char) :
    paramNewer env panel_supplier rev = true ↔ env.search_in_param = true ∧
      latestIn env panel_supplier rev .firmware < latestIn env panel_supplier rev .param := by
  rw [paramNewer, Bool.and_eq_true, decide_eq_true_eq]

theorem mem_ids {dir : Dir} (hdir : dir ∈ env.searched) {file : String}
    (hfile : file ∈ matching env panel_supplier rev dir) :
    configId (skipFields panel_supplier) file ∈ Ids env panel_supplier rev := ⟨dir, hdir, file, hfile, rfl⟩

/-- If the second directory has no greater id, the greatest one is that of the first. -/
theorem ids_le_firmware (h : paramNewer env panel_supplier rev = false) {n : ℕ}
    (hn : n ∈ Ids env panel_supplier rev) : n ≤ latestIn env panel_supplier rev .firmware := by
  obtain ⟨dir, hdir, file, hfile, rfl⟩ := hn
  have hle : configId (skipFields panel_supplier) file ≤ latestIn env panel_supplier rev dir :=
    configId_le_latest hfile
  cases dir with
  | firmware => exact hle
  | param =>
      have hnot : ¬ latestIn env panel_supplier rev .firmware < latestIn env panel_supplier rev .param := by
        intro hlt
        have hnewer := (paramNewer_iff env panel_supplier rev).2
          ⟨(param_mem_searched_iff env).1 hdir, hlt⟩
        rw [h] at hnewer
        cases hnewer
      omega

/-- If it has a greater id, the greatest one is that of the second. -/
theorem ids_le_param
    (h : latestIn env panel_supplier rev .firmware < latestIn env panel_supplier rev .param) {n : ℕ}
    (hn : n ∈ Ids env panel_supplier rev) : n ≤ latestIn env panel_supplier rev .param := by
  obtain ⟨dir, hdir, file, hfile, rfl⟩ := hn
  have hle : configId (skipFields panel_supplier) file ≤ latestIn env panel_supplier rev dir :=
    configId_le_latest hfile
  cases dir with
  | firmware => exact hle.trans (Nat.le_of_lt h)
  | param => exact hle

/-- The match in the first directory. -/
structure BestIn (env : Env) (panel_supplier : String) (rev : List Char) (best : Best) : Prop where
  dec_eq : best.match_best_cfg_dec = latestIn env panel_supplier rev .firmware
  none : latestIn env panel_supplier rev .firmware = 0 → best = {}
  found : latestIn env panel_supplier rev .firmware ≠ 0 → best.match_best_cfg ≠ "" ∧
    ∃ file ∈ matching env panel_supplier rev .firmware,
      configId (skipFields panel_supplier) file = latestIn env panel_supplier rev .firmware ∧
        field (skipFields panel_supplier) file = best.match_best_cfg

/-- A round that ends in the first directory. -/
theorem Tried.of_firmware (hbest : BestIn env panel_supplier rev best)
    (hnewer : paramNewer env panel_supplier rev = false) (hcwd : g'.cwd = .firmware)
    (hflag : g'.find_in_param = g.find_in_param) : Tried env panel_supplier rev g (best, g') := by
  by_cases hzero : latestIn env panel_supplier rev .firmware = 0
  · rw [hbest.none hzero]
    refine .none g' (fun n hn => ?_) hcwd hflag
    have hle := ids_le_firmware hnewer hn
    omega
  · obtain ⟨hcfg, file, hfile, hid, hfield⟩ := hbest.found hzero
    refine .found best g' ?_ hcfg ⟨⟨_, ⟨?_, fun n hn => ids_le_firmware hnewer hn⟩, hzero, hbest.dec_eq⟩,
      ?_, ?_, file, ?_, ?_, hfield⟩
    · rw [hbest.dec_eq]
      exact_mod_cast hzero
    · rw [← hid]
      exact mem_ids (firmware_mem_searched env) hfile
    · rw [hnewer]
      exact hflag
    · rw [hnewer]
      exact hcwd
    · dsimp only
      rw [hcwd]
      exact hfile
    · rw [hid]
      exact hbest.dec_eq.symm

/-- A round that ends in the second directory. -/
theorem Tried.of_param (hids : AllCarry env panel_supplier rev)
    (hnewer : paramNewer env panel_supplier rev = true) (hcwd : g'.cwd = .param) {file : String}
    (hfile : file ∈ matching env panel_supplier rev .param)
    (hid : configId (skipFields panel_supplier) file = latestIn env panel_supplier rev .param)
    (hdec : g'.dec_cfg_id_latest = configId (skipFields panel_supplier) file)
    (hstr : g'.str_cfg_id_latest = field (skipFields panel_supplier) file) :
    Tried env panel_supplier rev g
      (⟨g'.dec_cfg_id_latest, g'.str_cfg_id_latest⟩, { g' with find_in_param := 1 }) := by
  obtain ⟨hsearch, hlt⟩ := (paramNewer_iff env panel_supplier rev).1 hnewer
  have hmem := (param_mem_searched_iff env).2 hsearch
  refine .found _ _ ?_ ?_ ⟨⟨_, ⟨mem_ids hmem hfile, fun n hn => ?_⟩, ?_, hdec⟩, ?_, ?_, file, ?_,
    hdec.symm, hstr.symm⟩
  · dsimp only
    omega
  · dsimp only
    rw [hstr]
    exact (hids .param hmem file hfile).field_ne_empty
  · rw [hid]
    exact ids_le_param hlt hn
  · omega
  · rw [hnewer]
    rfl
  · rw [hnewer]
    exact hcwd
  · dsimp only
    rw [hcwd]
    exact hfile

/-- The first scan of a round. -/
theorem scanFirmware (hids : AllCarry env panel_supplier rev) (hcwd : g.cwd = .firmware) :
    ∃ found g', find_latest_config_id env (fwMask env panel_supplier (String.ofList (hwMask rev)))
        (skipFields panel_supplier) g = (found, g') ∧
      BestIn env panel_supplier rev
        (if found then ⟨g'.dec_cfg_id_latest, g'.str_cfg_id_latest⟩ else {}) ∧
      g'.cwd = .firmware ∧ g'.find_in_param = g.find_in_param := by
  have hcarry : ∀ file ∈ env.ls g.cwd (fwMask env panel_supplier (String.ofList (hwMask rev))),
      CarriesId (skipFields panel_supplier) file := by
    rw [hcwd]
    exact hids .firmware (firmware_mem_searched env)
  have hlatest : latest (skipFields panel_supplier)
      (env.ls g.cwd (fwMask env panel_supplier (String.ofList (hwMask rev)))) =
        latestIn env panel_supplier rev .firmware := by
    rw [hcwd]
    rfl
  by_cases hzero : latestIn env panel_supplier rev .firmware = 0
  · refine ⟨_, _, find_latest_config_id_none hcarry (hlatest.trans hzero), ⟨?_, fun _ => rfl, ?_⟩, hcwd,
      rfl⟩
    · rw [hzero]
      rfl
    · exact fun hne => absurd hzero hne
  · have hpos : 0 < latest (skipFields panel_supplier)
        (env.ls g.cwd (fwMask env panel_supplier (String.ofList (hwMask rev)))) := by
      rw [hlatest]
      exact Nat.pos_of_ne_zero hzero
    obtain ⟨file, hfile, hid, hscan⟩ := find_latest_config_id_found hcarry hpos
    have hne := (hcarry file hfile).field_ne_empty
    rw [hlatest] at hid
    rw [hcwd] at hfile
    refine ⟨_, _, hscan, ⟨?_, fun h => absurd h hzero, fun _ => ⟨hne, file, hfile, hid, rfl⟩⟩, hcwd, rfl⟩
    rw [← hid]
    rfl

/-- The second scan of a round, after the change of the directory. -/
theorem scanParam (hids : AllCarry env panel_supplier rev) (hcwd : g.cwd = .firmware)
    (hsearch : env.search_in_param = true) :
    ∃ found g', find_latest_config_id env (fwMask env panel_supplier (String.ofList (hwMask rev)))
        (skipFields panel_supplier) (env.cd .param g) = (found, g') ∧
      g'.find_in_param = g.find_in_param ∧
      if paramNewer env panel_supplier rev then
        found = true ∧ g'.cwd = .param ∧ ∃ file ∈ matching env panel_supplier rev .param,
          configId (skipFields panel_supplier) file = latestIn env panel_supplier rev .param ∧
            g'.dec_cfg_id_latest = configId (skipFields panel_supplier) file ∧
            g'.str_cfg_id_latest = field (skipFields panel_supplier) file
      else found = true → g'.dec_cfg_id_latest ≤ latestIn env panel_supplier rev .firmware := by
  have hnewer : paramNewer env panel_supplier rev =
      decide (latestIn env panel_supplier rev .firmware < latestIn env panel_supplier rev .param) := by
    unfold paramNewer
    rw [hsearch, Bool.true_and]
  cases hparam : env.param_path with
  | none =>
      -- the directory is not changed, and the first one is scanned again
      have hcd : env.cd .param g = g := by simp [Env.cd, hparam]
      have hlatest : latestIn env panel_supplier rev .param = 0 := by
        simp [latestIn, matching, Env.ls, Env.names, hparam, latest]
      obtain ⟨found, g', hscan, hbest, -, hflag⟩ := scanFirmware hids hcwd
      rw [hcd]
      refine ⟨found, g', hscan, hflag, ?_⟩
      rw [hnewer, hlatest, if_neg (by simp)]
      intro hfound
      rw [if_pos hfound] at hbest
      exact Int.le_of_eq hbest.dec_eq
  | some names =>
      have hcd : env.cd .param g = { g with cwd := .param } := by simp [Env.cd, hparam]
      have hcarry := hids .param ((param_mem_searched_iff env).2 hsearch)
      rw [hcd]
      by_cases hzero : latestIn env panel_supplier rev .param = 0
      · refine ⟨_, _, find_latest_config_id_none hcarry hzero, rfl, ?_⟩
        rw [hnewer, hzero, if_neg (by simp)]
        exact fun hfound => absurd hfound Bool.false_ne_true
      · obtain ⟨file, hfile, hid, hscan⟩ :=
          find_latest_config_id_found (g := { g with cwd := .param }) hcarry (Nat.pos_of_ne_zero hzero)
        refine ⟨_, _, hscan, rfl, ?_⟩
        rw [hnewer]
        split
        · exact ⟨rfl, rfl, file, hfile, hid, rfl, rfl⟩
        · rename_i hlt
          rw [decide_eq_true_eq, Nat.not_lt] at hlt
          intro _
          dsimp only
          rw [hid]
          exact Int.ofNat_le.2 hlt

/-- **One round** of the loop. -/
theorem tryMask_tried (hids : AllCarry env panel_supplier rev) (hcwd : g.cwd = .firmware) :
    Tried env panel_supplier rev g
      (tryMask env panel_supplier (String.ofList (hwMask rev)) {} g) := by
  obtain ⟨found, g₁, hscan, hbest, hcwd₁, hflag₁⟩ := scanFirmware hids hcwd
  unfold tryMask
  dsimp only
  rw [hscan]
  dsimp only
  generalize (if found = true then (⟨g₁.dec_cfg_id_latest, g₁.str_cfg_id_latest⟩ : Best) else {}) = best
    at hbest ⊢
  by_cases hsearch : env.search_in_param = true
  · obtain ⟨found', g₂, hscan', hflag₂, houtcome⟩ := scanParam hids hcwd₁ hsearch
    rw [if_pos hsearch, hscan']
    dsimp only
    cases hnewer : paramNewer env panel_supplier rev with
    | false =>
        have hback : Tried env panel_supplier rev g (best, env.cd .firmware g₂) :=
          Tried.of_firmware hbest hnewer (by simp [Env.cd]) (by simp [Env.cd, hflag₂, hflag₁])
        rw [hnewer, if_neg Bool.false_ne_true] at houtcome
        cases found' with
        | false => exact hback
        | true =>
            have hle := houtcome rfl
            rw [← hbest.dec_eq] at hle
            rw [if_pos rfl, if_neg (Int.not_lt.2 hle)]
            exact hback
    | true =>
        rw [hnewer, if_pos rfl] at houtcome
        obtain ⟨rfl, hcwd₂, file, hfile, hid, hdec, hstr⟩ := houtcome
        obtain ⟨-, hlt⟩ := (paramNewer_iff env panel_supplier rev).1 hnewer
        have hgt : best.match_best_cfg_dec < g₂.dec_cfg_id_latest := by
          rw [hbest.dec_eq, hdec, hid]
          exact Int.ofNat_lt.2 hlt
        rw [if_pos rfl, if_pos hgt]
        exact Tried.of_param hids hnewer hcwd₂ hfile hid hdec hstr
  · have hnewer : paramNewer env panel_supplier rev = false := by
      rw [Bool.not_eq_true] at hsearch
      unfold paramNewer
      rw [hsearch, Bool.false_and]
    rw [if_neg hsearch]
    exact Tried.of_firmware hbest hnewer hcwd₁ hflag₁

/-! ### The loop -/

/-- There is no file for the revision, not even if it is made shorter. -/
def NoMatch (env : Env) (panel_supplier : String) (rev : List Char) : Prop :=
  ∀ p, p <+: rev → ∀ n ∈ Ids env panel_supplier p, n = 0

/-- The longest part of the revision for which there is a file. -/
structure Longest (env : Env) (panel_supplier : String) (rev p : List Char) : Prop where
  isPrefix : p <+: rev
  longest : ∀ p', p' <+: rev → p.length < p'.length → ∀ n ∈ Ids env panel_supplier p', n = 0

/-- What the loop leads to. -/
inductive Searched (env : Env) (panel_supplier : String) (rev : List Char) (g : Globals) :
    List Char × Best × Globals → Prop
  | none (hw_mask : List Char) (g' : Globals) : NoMatch env panel_supplier rev → g'.cwd = .firmware →
      g'.find_in_param = g.find_in_param → Searched env panel_supplier rev g (hw_mask, {}, g')
  | found (p : List Char) (best : Best) (g' : Globals) : Longest env panel_supplier rev p →
      best.match_best_cfg ≠ "" →
      Selected env panel_supplier p g { g' with
        dec_cfg_id_latest := best.match_best_cfg_dec
        str_cfg_id_latest := best.match_best_cfg } →
      Searched env panel_supplier rev g (hwMask p, best, g')

/-- A round, and the next ones. -/
theorem searchMasks_dash (env : Env) (panel_supplier : String) (rev : List Char) (best : Best)
    (g : Globals) :
    searchMasks env panel_supplier ('-' :: rev) best g =
      let r := tryMask env panel_supplier (String.ofList (hwMask rev)) best g
      if r.1.match_best_cfg_dec ≠ 0 then (hwMask rev, r.1, r.2)
      else searchMasks env panel_supplier (hwMask rev).dropLast r.1 r.2 := by
  have hmask : (if '-' :: rev = ['-'] then [] else '-' :: rev) = hwMask rev := by
    unfold hwMask
    cases rev <;> simp
  rw [searchMasks, dif_neg (List.cons_ne_nil _ _)]
  dsimp only
  rw [hmask]

theorem searchMasks_nil (env : Env) (panel_supplier : String) (best : Best) (g : Globals) :
    searchMasks env panel_supplier [] best g = ([], best, g) := by
  rw [searchMasks, dif_pos rfl]

theorem hwMask_concat_dropLast (rev : List Char) (c : Char) :
    (hwMask (rev ++ [c])).dropLast = '-' :: rev := by
  rw [hwMask, if_neg (by simp), ← List.cons_append, List.dropLast_concat]

/-- **The loop.**  The induction is over the revision from its end, as it is made shorter. -/
theorem searchMasks_searched (hids : ∀ p, p <+: rev → AllCarry env panel_supplier p)
    (hcwd : g.cwd = .firmware) :
    Searched env panel_supplier rev g (searchMasks env panel_supplier ('-' :: rev) {} g) := by
  induction rev using List.reverseRecOn generalizing g with
  | nil =>
      have hround := tryMask_tried (hids [] (List.prefix_refl _)) hcwd
      rw [searchMasks_dash]
      generalize tryMask env panel_supplier (String.ofList (hwMask [])) {} g = r at hround ⊢
      cases hround with
      | none g' hnone hcwd' hflag =>
          rw [if_neg (by simp)]
          have hmask : (hwMask []).dropLast = [] := rfl
          rw [hmask, searchMasks_nil]
          refine .none [] g' (fun p hp => ?_) hcwd' hflag
          rw [List.prefix_nil.1 hp]
          exact hnone
      | found best g' hdec hcfg hselected =>
          rw [if_pos hdec]
          refine .found [] best g' ⟨List.prefix_refl _, fun p' hp' hlen => ?_⟩ hcfg hselected
          rw [List.prefix_nil.1 hp'] at hlen
          exact absurd hlen (Nat.lt_irrefl _)
  | append_singleton rev c ih =>
      have hround := tryMask_tried (hids (rev ++ [c]) (List.prefix_refl _)) hcwd
      rw [searchMasks_dash]
      generalize tryMask env panel_supplier (String.ofList (hwMask (rev ++ [c]))) {} g = r at hround ⊢
      cases hround with
      | none g' hnone hcwd' hflag =>
          have hshorter := ih (fun p hp => hids p (hp.trans (List.prefix_append _ _))) hcwd'
          rw [if_neg (by simp), hwMask_concat_dropLast]
          dsimp only
          generalize searchMasks env panel_supplier ('-' :: rev) {} g' = result at hshorter ⊢
          cases hshorter with
          | none hw_mask g'' hno hcwd'' hflag'' =>
              refine .none hw_mask g'' (fun p hp => ?_) hcwd'' (hflag''.trans hflag)
              rcases List.prefix_concat_iff.1 hp with rfl | hp
              · exact hnone
              · exact hno p hp
          | found p best g'' hlongest hcfg hselected =>
              refine .found p best g'' ⟨hlongest.isPrefix.trans (List.prefix_append _ _), ?_⟩ hcfg ?_
              · intro p' hp' hlen
                rcases List.prefix_concat_iff.1 hp' with rfl | hp'
                · exact hnone
                · exact hlongest.longest p' hp' hlen
              · exact hselected.congr hflag
      | found best g' hdec hcfg hselected =>
          rw [if_pos hdec]
          refine .found _ best g' ⟨List.prefix_refl _, fun p' hp' hlen => ?_⟩ hcfg hselected
          exact absurd hp'.length_le (Nat.not_le.2 hlen)

theorem Selected.not_noMatch {p : List Char} (h : Selected env panel_supplier p g g')
    (hp : p <+: rev) : ¬ NoMatch env panel_supplier rev := by
  obtain ⟨n, hgreatest, hne, -⟩ := h.greatest
  intro hno
  exact hne (hno p hp n hgreatest.1)

/-- What a search leads to. -/
inductive Outcome (env : Env) (panel_supplier : String) (rev : List Char) (g : Globals) :
    Bool × Globals → Prop
  | none (g' : Globals) : NoMatch env panel_supplier rev → g'.cwd = .firmware →
      g'.find_in_param = g.find_in_param → Outcome env panel_supplier rev g (false, g')
  | found (p : List Char) (g' : Globals) : Longest env panel_supplier rev p →
      Selected env panel_supplier p g g' →
      g'.firmware_file = env.ls g'.cwd
        (fileMask env panel_supplier g'.str_cfg_id_latest (String.ofList (hwMask p))) →
      Outcome env panel_supplier rev g (true, g')

theorem find_best_match_outcome {hwrev_id : String} (hcwd : g.cwd = .firmware)
    (hids : ∀ p, p <+: hwrev_id.toList → AllCarry env panel_supplier p) :
    Outcome env panel_supplier hwrev_id.toList g
      (find_best_match env ("-" ++ hwrev_id) panel_supplier g) := by
  have hloop := searchMasks_searched hids hcwd
  have hdash : ("-" ++ hwrev_id).toList = '-' :: hwrev_id.toList := by simp
  unfold find_best_match
  rw [hdash]
  generalize searchMasks env panel_supplier ('-' :: hwrev_id.toList) {} g = result at hloop ⊢
  cases hloop with
  | none hw_mask g' hno hcwd' hflag => exact .none _ hno hcwd' hflag
  | found p best g' hlongest hcfg hselected =>
      dsimp only
      rw [if_neg hcfg]
      exact .found p _ hlongest ⟨hselected.greatest, hselected.find_in_param_eq, hselected.cwd_eq,
        hselected.file⟩ rfl

/-- **The search finds the best match.**  It fails exactly if there is no file with an id other than 0, and
then leaves the current directory and the flag as they are.  Otherwise the longest part of the revision is
taken for which there is one, and the greatest id in both directories; the flag is set exactly if the id is
from the second directory, which is the current one in this case. -/
theorem find_best_match_optimal (env : Env) (panel_supplier hwrev_id : String) (g : Globals)
    (hcwd : g.cwd = .firmware)
    (hids : ∀ p, p <+: hwrev_id.toList → AllCarry env panel_supplier p) :
    let r := find_best_match env ("-" ++ hwrev_id) panel_supplier g
    (r.1 = false ↔ NoMatch env panel_supplier hwrev_id.toList) ∧
      (r.1 = false → r.2.cwd = .firmware ∧ r.2.find_in_param = g.find_in_param) ∧
      (r.1 = true → ∃ p, Longest env panel_supplier hwrev_id.toList p ∧
        Selected env panel_supplier p g r.2 ∧
        r.2.firmware_file = env.ls r.2.cwd
          (fileMask env panel_supplier r.2.str_cfg_id_latest (String.ofList (hwMask p)))) := by
  have houtcome := find_best_match_outcome hcwd hids
  intro r
  change Outcome env panel_supplier hwrev_id.toList g r at houtcome
  cases hr : r with
  | mk found g' =>
      rw [hr] at houtcome
      cases houtcome with
      | none _ hno hcwd' hflag =>
          exact ⟨iff_of_true rfl hno, fun _ => ⟨hcwd', hflag⟩, fun h => absurd h Bool.false_ne_true⟩
      | found p _ hlongest hselected hfile =>
          have hno := hselected.not_noMatch hlongest.isPrefix
          exact ⟨iff_of_false (by simp) hno, fun h => absurd h (by simp),
            fun _ => ⟨p, hlongest, hselected, hfile⟩⟩

/-- A pattern in which only the star is special. -/
def starMatch : List Char → List Char → Bool
  | [], cs => cs.isEmpty
  | p :: ps, cs =>
      if p = '*' then cs.tails.any (starMatch ps)
      else
        match cs with
        | [] => false
        | c :: cs => p = c && starMatch ps cs

/-- Files for two revisions, and a newer one in the second directory. -/
def twoRevisions : Env where
  firmware_path := ["synaptics-s3508-0a-1-griffin-p1.tdat", "synaptics-s3508-1f-1-griffin.tdat"]
  param_path := some ["synaptics-s3508-0B-2-griffin-p1.tdat"]
  search_in_param := true
  touch_vendor := "synaptics"
  touch_product_id := "s3508"
  product_id := "griffin"
  glob mask name := starMatch mask.toList name.toList
  letOther _ dec := dec

theorem twoRevisions_carry (p : List Char) : AllCarry twoRevisions "" p := by
  intro dir _ file hfile
  have hname : file ∈ twoRevisions.names dir := (List.mem_filter.1 hfile).1
  cases dir with
  | firmware =>
      have hpair : file = "synaptics-s3508-0a-1-griffin-p1.tdat" ∨
          file = "synaptics-s3508-1f-1-griffin.tdat" := by
        simpa [Env.names, twoRevisions] using hname
      rcases hpair with rfl | rfl
      · exact ⟨0x0a, by decide +kernel, by decide⟩
      · exact ⟨0x1f, by decide +kernel, by decide⟩
  | param =>
      rw [List.mem_singleton.1 hname]
      exact ⟨0x0b, by decide +kernel, by decide⟩

/-- The files for the revision `p1` are preferred to one with a greater id. -/
theorem find_best_match_two_revisions :
    ∃ p, Longest twoRevisions "" "p1b".toList p ∧
      Selected twoRevisions "" p {} (find_best_match twoRevisions ("-" ++ "p1b") "" {}).2 := by
  obtain ⟨hfails, -, hfound⟩ :=
    find_best_match_optimal twoRevisions "" "p1b" {} rfl fun p _ => twoRevisions_carry p
  have htrue : (find_best_match twoRevisions ("-" ++ "p1b") "" {}).1 = true := by
    by_contra hfalse
    have hno := hfails.1 (by simpa using hfalse)
    have hfile : "synaptics-s3508-0a-1-griffin-p1.tdat" ∈ matching twoRevisions "" "p1".toList .firmware := by
      decide +kernel
    have hzero := hno "p1".toList (by decide +kernel) _ (mem_ids (firmware_mem_searched _) hfile)
    revert hzero
    decide +kernel
  obtain ⟨p, hlongest, hselected, -⟩ := hfound htrue
  exact ⟨p, hlongest, hselected⟩

/-! ### All suppliers -/

/-- The patterns of the supplier that are tried, one after the other. -/
def patterns (supplier panel_ver : String) : List String :=
  if supplier ≠ "" then [supplier ++ panel_ver, supplier, ""] else [""]

/-- A search for each pattern, until one succeeds. -/
def firstMatch (env : Env) (hwrev_id : String) : List String → Globals → Bool × Globals
  | [], g => (false, g)
  | pattern :: rest, g =>
      match find_best_match env ("-" ++ hwrev_id) pattern g with
      | (true, g) => (true, g)
      | (false, g) => firstMatch env hwrev_id rest g

theorem firstMatch_cons (env : Env) (hwrev_id pattern : String) (rest : List String) (g : Globals) :
    firstMatch env hwrev_id (pattern :: rest) g =
      if (find_best_match env ("-" ++ hwrev_id) pattern g).1 then
        (true, (find_best_match env ("-" ++ hwrev_id) pattern g).2)
      else firstMatch env hwrev_id rest (find_best_match env ("-" ++ hwrev_id) pattern g).2 := by
  rw [firstMatch]
  rcases find_best_match env ("-" ++ hwrev_id) pattern g with ⟨_ | _, g'⟩
  · rfl
  · rfl

theorem firstMatch_singleton (env : Env) (hwrev_id pattern : String) (g : Globals) :
    firstMatch env hwrev_id [pattern] g = find_best_match env ("-" ++ hwrev_id) pattern g := by
  rw [firstMatch]
  rcases find_best_match env ("-" ++ hwrev_id) pattern g with ⟨_ | _, g'⟩
  · rfl
  · rfl

theorem search_firmware_file_eq (env : Env) (supplier panel_ver hwrev_id : String) (g : Globals) :
    search_firmware_file env supplier panel_ver hwrev_id g =
      firstMatch env hwrev_id (patterns supplier panel_ver) g := by
  unfold search_firmware_file patterns
  by_cases hsupplier : supplier ≠ ""
  · rw [if_pos hsupplier, firstMatch_cons, firstMatch_cons, firstMatch_singleton]
    rcases hr : find_best_match env ("-" ++ hwrev_id) (supplier ++ panel_ver) g with ⟨_ | _, g'⟩
    · simp [hsupplier, hr]
    · simp [hsupplier, hr]
  · rw [if_neg hsupplier, firstMatch_singleton]
    simp [hsupplier]

/-- **The searches, one pattern after the other**: all fail, or the first that succeeds is the one of the first
pattern for which there is a file. -/
theorem firstMatch_outcome {hwrev_id : String} {ps : List String}
    (hids : ∀ pattern ∈ ps, ∀ p, p <+: hwrev_id.toList → AllCarry env pattern p)
    (hcwd : g.cwd = .firmware) :
    ((firstMatch env hwrev_id ps g).1 = false ∧
        ∀ pattern ∈ ps, NoMatch env pattern hwrev_id.toList) ∨
      ((firstMatch env hwrev_id ps g).1 = true ∧
        ∃ before pattern after, ps = before ++ pattern :: after ∧
          (∀ q ∈ before, NoMatch env q hwrev_id.toList) ∧
          ∃ p, Longest env pattern hwrev_id.toList p ∧
            Selected env pattern p g (firstMatch env hwrev_id ps g).2) := by
  induction ps generalizing g with
  | nil => exact Or.inl ⟨rfl, fun pattern h => absurd h List.not_mem_nil⟩
  | cons pattern ps ih =>
      have houtcome := find_best_match_outcome hcwd (hids pattern List.mem_cons_self)
      rw [firstMatch]
      generalize find_best_match env ("-" ++ hwrev_id) pattern g = r at houtcome ⊢
      cases houtcome with
      | found p g' hlongest hselected =>
          exact Or.inr ⟨rfl, [], pattern, ps, rfl, fun q h => absurd h List.not_mem_nil, p, hlongest,
            hselected⟩
      | none g' hno hcwd' hflag =>
          -- a search that fails leaves everything as the next one needs it
          rcases ih (fun q hq => hids q (List.mem_cons_of_mem pattern hq)) hcwd' with
            ⟨hfails, hnone⟩ | ⟨hfound, before, q, after, rfl, hbefore, p, hlongest, hselected⟩
          · exact Or.inl ⟨hfails, List.forall_mem_cons.2 ⟨hno, hnone⟩⟩
          · exact Or.inr ⟨hfound, pattern :: before, q, after, rfl,
              List.forall_mem_cons.2 ⟨hno, hbefore⟩, p, hlongest, hselected.congr hflag⟩

/-- When there is no match for any supplier. -/
theorem search_firmware_file_fails_iff {supplier panel_ver hwrev_id : String}
    (hids : ∀ pattern ∈ patterns supplier panel_ver, ∀ p, p <+: hwrev_id.toList → AllCarry env pattern p)
    (hcwd : g.cwd = .firmware) :
    (search_firmware_file env supplier panel_ver hwrev_id g).1 = false ↔
      ∀ pattern ∈ patterns supplier panel_ver, NoMatch env pattern hwrev_id.toList := by
  rw [search_firmware_file_eq]
  rcases firstMatch_outcome hids hcwd with
    ⟨hfails, hnone⟩ | ⟨hfound, before, pattern, after, hsplit, -, p, hlongest, hselected⟩
  · exact iff_of_true hfails hnone
  · refine iff_of_false (by simp [hfound]) fun hnone => ?_
    refine hselected.not_noMatch hlongest.isPrefix (hnone pattern ?_)
    rw [hsplit]
    exact List.mem_append_right _ List.mem_cons_self

end Matches

end TouchScript
