/-
**Statistics about low power** (`hidl/power-helper.c`, and the calls of `hidl/Power.cpp` that use it).

The kernel writes its counters to a text file: the line with the label of a section, and below it one line
for each parameter.  `extract_stats` looks for a label, and `parse_stats` then reads on until it has seen as
many parameters as the section has.  Other lines are skipped by both.  The numbers are put into an array,
from which the answers of the service are made.

The array is a list, and writing behind its end is a failure of the model.

Main definitions:

* `PowerStats.parse_stats`, `PowerStats.extract_stats` — the two loops over the lines of a file;
* `PowerStats.getPlatformLowPowerStats`, `PowerStats.getSubsystemLowPowerStats` — the answers;
* `PowerStats.Sections` — the lines of a file that shows certain numbers.

Main results:

* `PowerStats.parse_stats_body` — **one section** is read;
* `PowerStats.extract_stats_sections` — **all sections** are read, in whichever order they stand;
* `PowerStats.low_power_stats_round_trip` — the answers show the numbers of the files;
* `PowerStats.power_stats_in_bounds` — whatever the files are, nothing is written outside of the arrays.
-/

import Mathlib.Data.List.Nodup
import Mathlib.Data.List.Perm.Subperm
import MotoCommon.CText

set_option autoImplicit false

namespace PowerStats

open CText

/-! ### Tables -/

/-- `struct stat_pair`. -/
structure StatPair where
  stat : ℕ
  label : List Char
  parameters : List (List Char)
  deriving DecidableEq, Repr

/-- The enumerators of `stats_type`. -/
def RPM_MODE_XO : ℕ := 0
def RPM_MODE_VMIN : ℕ := 1
def RPM_MODE_MAX : ℕ := 2
def XO_VOTERS_START : ℕ := RPM_MODE_MAX
def VOTER_APSS : ℕ := XO_VOTERS_START
def VOTER_MPSS : ℕ := 3
def VOTER_ADSP : ℕ := 4
def VOTER_SLPI : ℕ := 5
def MAX_PLATFORM_STATS : ℕ := 6
def WLAN_POWER_DEBUG_STATS : ℕ := 0

/-- The enumerators of `wlan_power_params`. -/
def CUMULATIVE_SLEEP_TIME_MS : ℕ := 0
def CUMULATIVE_TOTAL_ON_TIME_MS : ℕ := 1
def DEEP_SLEEP_ENTER_COUNTER : ℕ := 2
def LAST_DEEP_SLEEP_ENTER_TSTAMP_MS : ℕ := 3
def WLAN_POWER_PARAMS_COUNT : ℕ := 4

def MAX_RPM_PARAMS : ℕ := 2
def XO_VOTERS : ℕ := MAX_PLATFORM_STATS - XO_VOTERS_START
def RPM_CLK : ℕ := 19200

def rpm_stat_params : List (List Char) := ["count".toList, "actual last sleep(msec)".toList]

def master_stat_params : List (List Char) := ["Accumulated XO duration".toList, "XO Count".toList]

def rpm_stat_map : List StatPair :=
  [⟨RPM_MODE_XO, "RPM Mode:vlow".toList, rpm_stat_params⟩,
    ⟨RPM_MODE_VMIN, "RPM Mode:vmin".toList, rpm_stat_params⟩,
    ⟨VOTER_APSS, "APSS".toList, master_stat_params⟩,
    ⟨VOTER_MPSS, "MPSS".toList, master_stat_params⟩,
    ⟨VOTER_ADSP, "ADSP".toList, master_stat_params⟩,
    ⟨VOTER_SLPI, "SLPI".toList, master_stat_params⟩]

def wlan_power_stat_params : List (List Char) :=
  ["cumulative_sleep_time_ms".toList, "cumulative_total_on_time_ms".toList,
    "deep_sleep_enter_counter".toList, "last_deep_sleep_enter_tstamp_ms".toList]

def wlan_stat_map : List StatPair :=
  [⟨WLAN_POWER_DEBUG_STATS, "POWER DEBUG STATS".toList, wlan_power_stat_params⟩]

/-! ### The parser -/

/-- The characters that `strspn` skips. -/
def isBlank (c : Char) : Bool := c = ' ' || c = '\t'

/-- A line without what is skipped. -/
def skipBlanks (line : List Char) : List Char := (cstring line).dropWhile isBlank

/-- `list[i] = value`. -/
def store (i value : ℕ) (list : List ℕ) : Option (List ℕ) :=
  if i < list.length then some (list.set i value) else none

/-- The key of a line, and what stands behind the colon. -/
def keyOf (line : List Char) : Option (List Char × List Char) := splitAt ':' (skipBlanks line)

/-- The parameter that a line is about, and its value. -/
def paramOf (params : List (List Char)) (line : List Char) : Option (ℕ × ℕ) :=
  match keyOf line with
  | none => none
  | some (key, value) => (params.findIdx? (key = ·)).map fun i => (i, strtoull value)

/-- The loop of `parse_stats`, where `list` begins at `base`, with the lines that are left. -/
def parse_stats (params : List (List Char)) (base : ℕ) :
    ℕ → List ℕ → List (List Char) → Option (List ℕ × List (List Char))
  | _, list, [] => some (list, [])
  | params_read, list, line :: rest =>
      if params_read < params.length then
        match paramOf params line with
        | none => parse_stats params base params_read list rest
        | some (i, value) =>
            match store (base + i) value list with
            | none => none
            | some list => parse_stats params base (params_read + 1) list rest
      else some (list, line :: rest)

/-- The entry of the table whose label a line begins with. -/
def sectionOf (map : List StatPair) (line : List Char) : Option StatPair :=
  map.find? fun pair => pair.label.isPrefixOf (skipBlanks line)

/-- `-ENOMEM`. -/
def ENOMEM : ℤ := 12

/-- The loop of `extract_stats`; `malloc` tells whether a call of `parse_stats` gets its memory.  Each round
reads a line. -/
def extractLoop (malloc : ℕ → Bool) (map : List StatPair) :
    ℕ → ℕ → List ℕ → List (List Char) → Option (ℤ × List ℕ)
  | _, _, list, [] => some (0, list)
  | 0, _, _, _ :: _ => none
  | fuel + 1, stats_read, list, line :: rest =>
      if stats_read < map.length then
        match sectionOf map line with
        | none => extractLoop malloc map fuel stats_read list rest
        | some pair =>
            if malloc stats_read then
              match parse_stats pair.parameters (pair.stat * MAX_RPM_PARAMS) 0 list rest with
              | none => none
              | some (list, rest) => extractLoop malloc map fuel (stats_read + 1) list rest
            else some (-ENOMEM, list)
      else some (0, list)

/-- What `fopen` and `malloc` do in a call: the error or the content of the file, whether there is memory for
the line, and whether there is for the line of each section. -/
structure Env where
  fopen : Except ℕ (List Char)
  mallocLine : Bool := true
  malloc : ℕ → Bool := fun _ => true

def extract_stats (env : Env) (map : List StatPair) (list : List ℕ) : Option (ℤ × List ℕ) :=
  match env.fopen with
  | .error errno => some (-errno, list)
  | .ok content =>
      if env.mallocLine then extractLoop env.malloc map (lines content).length 0 list (lines content)
      else some (-ENOMEM, list)

/-! ### The answers -/

structure Voter where
  name : List Char
  totalTimeInMsecVotedForSinceBoot : ℕ
  totalNumberOfTimesVotedSinceBoot : ℕ
  deriving DecidableEq, Repr

/-- `PowerStatePlatformSleepState`. -/
structure PlatformSleepState where
  name : String
  residencyInMsecSinceBoot : ℕ
  totalTransitions : ℕ
  supportedOnlyInSuspend : Bool
  voters : List Voter
  deriving DecidableEq, Repr

/-- `PowerStateSubsystemSleepState`. -/
structure SubsystemSleepState where
  name : String
  residencyInMsecSinceBoot : ℕ
  totalTransitions : ℕ
  lastEntryTimestampMs : ℕ
  supportedOnlyInSuspend : Bool
  deriving DecidableEq, Repr

/-- `PowerStateSubsystem`. -/
structure Subsystem where
  name : String := ""
  states : List SubsystemSleepState := []
  deriving DecidableEq, Repr

/-- A number of the array. -/
def valueAt (stats : List ℕ) (stat i : ℕ) : ℕ := stats.getD (stat * MAX_RPM_PARAMS + i) 0

/-- The states that are made from the array. -/
def platformStates (stats : List ℕ) : List PlatformSleepState :=
  [{ name := "XO_shutdown"
     residencyInMsecSinceBoot := valueAt stats RPM_MODE_XO 1
     totalTransitions := valueAt stats RPM_MODE_XO 0
     supportedOnlyInSuspend := false
     voters := (List.range XO_VOTERS).map fun i =>
      let voter := i + XO_VOTERS_START
      { name := (rpm_stat_map.getD voter ⟨0, [], []⟩).label
        totalTimeInMsecVotedForSinceBoot := valueAt stats voter 0 / RPM_CLK
        totalNumberOfTimesVotedSinceBoot := valueAt stats voter 1 } },
   { name := "VMIN"
     residencyInMsecSinceBoot := valueAt stats RPM_MODE_VMIN 1
     totalTransitions := valueAt stats RPM_MODE_VMIN 0
     supportedOnlyInSuspend := false
     voters := [] }]

def getPlatformLowPowerStats (env : Env) : Option (List PlatformSleepState) :=
  (extract_stats env rpm_stat_map (List.replicate (MAX_PLATFORM_STATS * MAX_RPM_PARAMS) 0)).map
    fun (ret, stats) => if ret ≠ 0 then [] else platformStates stats

/-- The states of the wireless network that are made from the array. -/
def wlanStates (stats : List ℕ) : List SubsystemSleepState :=
  [{ name := "Active"
     residencyInMsecSinceBoot := stats.getD CUMULATIVE_TOTAL_ON_TIME_MS 0
     totalTransitions := stats.getD DEEP_SLEEP_ENTER_COUNTER 0
     lastEntryTimestampMs := 0
     supportedOnlyInSuspend := false },
   { name := "Deep-Sleep"
     residencyInMsecSinceBoot := stats.getD CUMULATIVE_SLEEP_TIME_MS 0
     totalTransitions := stats.getD DEEP_SLEEP_ENTER_COUNTER 0
     lastEntryTimestampMs := stats.getD LAST_DEEP_SLEEP_ENTER_TSTAMP_MS 0
     supportedOnlyInSuspend := false }]

/-- `get_wlan_low_power_stats`: the return value, and the subsystem. -/
def get_wlan_low_power_stats (env : Env) : Option (ℤ × Subsystem) :=
  (extract_stats env wlan_stat_map (List.replicate WLAN_POWER_PARAMS_COUNT 0)).map fun (ret, stats) =>
    if ret ≠ 0 then (ret, {}) else (0, { name := "wlan", states := wlanStates stats })

/-- `getSubsystemLowPowerStats`.  A subsystem whose file could not be read stays as it was made. -/
def getSubsystemLowPowerStats (env : Env) : Option (List Subsystem) :=
  (get_wlan_low_power_stats env).map fun (_, subsystem) => [subsystem]

/-! ### Files that show numbers -/

/-- A line that shows the value of a parameter, as a decimal or as a hexadecimal number. -/
structure ShowsParam (param : List Char) (n : ℕ) (line : List Char) : Prop where
  text : ∃ indent blanks number rest, line = indent ++ (param ++ ':' :: (blanks ++ (number ++ rest))) ∧
    (∀ c ∈ indent, isBlank c = true) ∧ (∀ c ∈ blanks, isSpace c = true) ∧
    (number = decimal n ∨ number = hexadecimal n) ∧ Ends rest
  noNul : '\x00' ∉ line
  fits : n < 2 ^ 64

/-- A line that begins with a label. -/
structure ShowsLabel (label line : List Char) : Prop where
  text : ∃ indent rest, line = indent ++ (label ++ rest) ∧ ∀ c ∈ indent, isBlank c = true
  noNul : '\x00' ∉ line

/-- The lines of a section below its label: the parameters, in this order, with any other lines before each
of them. -/
inductive Body (params : List (List Char)) (v : ℕ → ℕ) : List ℕ → List (List Char) → Prop
  | nil : Body params v [] []
  | other {line : List Char} {order : List ℕ} {body : List (List Char)} : paramOf params line = none →
      order ≠ [] → Body params v order body → Body params v order (line :: body)
  | param {i : ℕ} {param line : List Char} {order : List ℕ} {body : List (List Char)} :
      params[i]? = some param → ShowsParam param (v i) line → Body params v order body →
      Body params v (i :: order) (line :: body)

/-- The lines of a file that shows these sections, with any other lines before, between and behind them. -/
inductive Sections (map : List StatPair) (v : ℕ → ℕ → ℕ) : List StatPair → List (List Char) → Prop
  | nil : Sections map v [] []
  | other {line : List Char} {pairs : List StatPair} {file : List (List Char)} :
      sectionOf map line = none → Sections map v pairs file → Sections map v pairs (line :: file)
  | pair {pair : StatPair} {order : List ℕ} {line : List Char} {pairs : List StatPair}
      {body file : List (List Char)} : pair ∈ map → ShowsLabel pair.label line →
      Body pair.parameters (v pair.stat) order body → order.Perm (List.range pair.parameters.length) →
      Sections map v pairs file → Sections map v (pair :: pairs) (line :: (body ++ file))

/-! ### Lines -/

/-- The names of parameters can be told apart, and no name has a colon or begins with a blank. -/
structure Names (params : List (List Char)) : Prop where
  nodup : params.Nodup
  colon : ∀ param ∈ params, ':' ∉ param
  blank : ∀ param ∈ params, ∀ c ∈ param.head?, isBlank c = false

/-- A line with the blanks at its front skipped. -/
theorem skipBlanks_indent {indent text : List Char} (hindent : ∀ c ∈ indent, isBlank c = true)
    (htext : ∀ c ∈ text.head?, isBlank c = false) (hnul : '\x00' ∉ indent ++ text) :
    skipBlanks (indent ++ text) = text := by
  unfold skipBlanks
  rw [cstring_eq_self hnul, dropWhile_append hindent htext]

theorem head_append_isBlank {front rest : List Char} (hfront : ∀ c ∈ front.head?, isBlank c = false)
    (hrest : front = [] → ∀ c ∈ rest.head?, isBlank c = false) :
    ∀ c ∈ (front ++ rest).head?, isBlank c = false := by
  cases front with
  | nil => exact hrest rfl
  | cons a front => exact hfront

/-- The value of a parameter is read back. -/
theorem paramOf_shows {params : List (List Char)} (hparams : Names params) {i n : ℕ} {param line : List Char}
    (hi : params[i]? = some param) (h : ShowsParam param n line) : paramOf params line = some (i, n) := by
  obtain ⟨indent, blanks, number, rest, rfl, hindent, hblanks, hnumber, hrest⟩ := h.text
  have hmem : param ∈ params := List.mem_of_getElem? hi
  have hskip := skipBlanks_indent hindent
    (head_append_isBlank (hparams.blank param hmem) (by rintro - c ⟨⟩; rfl)) h.noNul
  have hkey : keyOf (indent ++ (param ++ ':' :: (blanks ++ (number ++ rest)))) =
      some (param, blanks ++ (number ++ rest)) := by
    unfold keyOf
    rw [hskip, splitAt_append (hparams.colon param hmem)]
  have hvalue : strtoull (blanks ++ (number ++ rest)) = n := by
    rcases hnumber with rfl | rfl
    · exact strtoull_decimal hblanks h.fits hrest
    · exact strtoull_hexadecimal hblanks h.fits hrest
  have hindex : params.findIdx? (param = ·) = some i := by
    obtain ⟨hlt, rfl⟩ := List.getElem?_eq_some_iff.1 hi
    refine List.findIdx?_eq_some_iff_getElem.2 ⟨hlt, decide_eq_true rfl, fun j hj => ?_⟩
    rw [decide_eq_true_iff]
    exact fun heq => absurd (hparams.nodup.getElem_inj_iff.1 heq) (Nat.ne_of_gt hj)
  unfold paramOf
  rw [hkey]
  dsimp only
  rw [hindex, hvalue]
  rfl

/-! ### One section -/

section Body

variable {params : List (List Char)} {v : ℕ → ℕ} {order : List ℕ} {body : List (List Char)} {base : ℕ}

/-- The array after the parameters of a section were stored. -/
def storeAll (base : ℕ) (v : ℕ → ℕ) (order : List ℕ) (list : List ℕ) : List ℕ :=
  order.foldl (fun list i => list.set (base + i) (v i)) list

theorem length_storeAll (base : ℕ) (v : ℕ → ℕ) (order : List ℕ) (list : List ℕ) :
    (storeAll base v order list).length = list.length := by
  induction order generalizing list with
  | nil => rfl
  | cons i order ih => exact (ih _).trans List.length_set

theorem getD_storeAll {list : List ℕ} (hbound : ∀ i ∈ order, base + i < list.length) (j : ℕ) :
    (storeAll base v order list).getD j 0 =
      if base ≤ j ∧ j - base ∈ order then v (j - base) else list.getD j 0 := by
  induction order generalizing list with
  | nil => simp [storeAll]
  | cons i order ih =>
      have hrest : ∀ i' ∈ order, base + i' < (list.set (base + i) (v i)).length := by
        intro i' hmem
        rw [List.length_set]
        exact hbound i' (List.mem_cons_of_mem i hmem)
      have hstep : storeAll base v (i :: order) list = storeAll base v order (list.set (base + i) (v i)) := rfl
      rw [hstep, ih hrest]
      have hi := hbound i List.mem_cons_self
      by_cases hj : j = base + i
      · subst hj
        simp [List.getD_eq_getElem?_getD, hi]
      · have hne : ¬ (base ≤ j ∧ j - base = i) := by omega
        have hset : (list.set (base + i) (v i)).getD j 0 = list.getD j 0 := by
          rw [List.getD_eq_getElem?_getD, List.getD_eq_getElem?_getD, List.getElem?_set_ne (Ne.symm hj)]
        rw [hset]
        refine if_congr ?_ rfl rfl
        rw [List.mem_cons]
        constructor
        · exact fun h => ⟨h.1, Or.inr h.2⟩
        · rintro ⟨hle, heq | hmem⟩
          · exact absurd ⟨hle, heq⟩ hne
          · exact ⟨hle, hmem⟩

/-- **One section**: `parse_stats` stores all parameters, and stops behind the last of them. -/
theorem parse_stats_body (hparams : Names params) (h : Body params v order body) {params_read : ℕ}
    (hread : params_read + order.length = params.length) {list : List ℕ}
    (hbound : base + params.length ≤ list.length) (rest : List (List Char)) :
    parse_stats params base params_read list (body ++ rest) = some (storeAll base v order list, rest) := by
  induction h generalizing params_read list with
  | nil =>
      cases rest with
      | nil => rfl
      | cons line rest =>
          rw [List.length_nil, Nat.add_zero] at hread
          exact if_neg (by omega)
  | @other line order body hnone hne _ ih =>
      have hpos := List.length_pos_iff.2 hne
      rw [List.cons_append, parse_stats, if_pos (by omega), hnone]
      exact ih hread hbound
  | @param i param line order body hi hshows _ ih =>
      have hlt : i < params.length := (List.getElem?_eq_some_iff.1 hi).1
      rw [List.length_cons] at hread
      rw [List.cons_append, parse_stats, if_pos (by omega), paramOf_shows hparams hi hshows]
      dsimp only
      rw [store, if_pos (by omega)]
      exact ih (by omega) (by rwa [List.length_set])

end Body

/-! ### All sections -/

/-- No label is the beginning of another one or begins with a blank, the names of the parameters can be told
apart, and each section has its own part of an array of this length. -/
structure Table (map : List StatPair) (length : ℕ) : Prop where
  labels : ∀ p ∈ map, ∀ q ∈ map, p.label <+: q.label → p = q
  labelNonempty : ∀ p ∈ map, p.label ≠ []
  labelBlank : ∀ p ∈ map, ∀ c ∈ p.label.head?, isBlank c = false
  names : ∀ p ∈ map, Names p.parameters
  bound : ∀ p ∈ map, p.stat * MAX_RPM_PARAMS + p.parameters.length ≤ length
  apart : ∀ p ∈ map, ∀ q ∈ map, ∀ i < p.parameters.length, ∀ j < q.parameters.length,
    p.stat * MAX_RPM_PARAMS + i = q.stat * MAX_RPM_PARAMS + j → p = q

section Sections

variable {map : List StatPair} {length : ℕ} {v : ℕ → ℕ → ℕ}

theorem sectionOf_shows (htable : Table map length) {pair : StatPair} (hpair : pair ∈ map) {line : List Char}
    (h : ShowsLabel pair.label line) : sectionOf map line = some pair := by
  obtain ⟨indent, rest, rfl, hindent⟩ := h.text
  have hne := htable.labelNonempty pair hpair
  have hblank := htable.labelBlank pair hpair
  have hskip := skipBlanks_indent hindent (head_append_isBlank hblank fun hnil => absurd hnil hne) h.noNul
  have hprefix : pair.label <+: pair.label ++ rest := List.prefix_append _ _
  unfold sectionOf
  rw [hskip]
  have hsome : (map.find? fun p => p.label.isPrefixOf (pair.label ++ rest)).isSome := by
    rw [List.find?_isSome]
    exact ⟨pair, hpair, List.isPrefixOf_iff_prefix.2 hprefix⟩
  obtain ⟨found, hfound⟩ := Option.isSome_iff_exists.1 hsome
  have hmem := List.mem_of_find?_eq_some hfound
  have hfits := List.find?_some hfound
  have hlabel : found.label <+: pair.label ++ rest := List.isPrefixOf_iff_prefix.1 hfits
  rw [hfound]
  rcases List.prefix_or_prefix_of_prefix hlabel hprefix with hle | hle
  · rw [htable.labels found hmem pair hpair hle]
  · rw [htable.labels pair hpair found hmem hle]

/-- The array after these sections were read. -/
def storeSections (v : ℕ → ℕ → ℕ) (pairs : List StatPair) (list : List ℕ) : List ℕ :=
  pairs.foldl
    (fun list pair => storeAll (pair.stat * MAX_RPM_PARAMS) (v pair.stat)
      (List.range pair.parameters.length) list) list

/-- The order in which the parameters stand does not matter. -/
theorem storeAll_perm {base : ℕ} {w : ℕ → ℕ} {order order' : List ℕ} (h : order.Perm order') (list : List ℕ) :
    storeAll base w order list = storeAll base w order' list := by
  refine h.foldl_eq' (fun i _ j _ list => ?_) list
  rcases eq_or_ne i j with rfl | hne
  · rfl
  · exact (List.set_comm _ _ (by omega)).symm

/-- **All sections** are read. -/
theorem extractLoop_sections (htable : Table map length) {pairs : List StatPair} {file : List (List Char)}
    (h : Sections map v pairs file) {fuel stats_read : ℕ} (hfuel : file.length ≤ fuel)
    (hread : stats_read + pairs.length ≤ map.length) {list : List ℕ} (hlist : list.length = length) :
    extractLoop (fun _ => true) map fuel stats_read list file = some (0, storeSections v pairs list) := by
  induction h generalizing fuel stats_read list with
  | nil => cases fuel <;> rfl
  | @other line pairs file hnone hrest ih =>
      rw [List.length_cons] at hfuel
      obtain ⟨fuel, rfl⟩ := Nat.exists_eq_add_one_of_ne_zero (by omega : fuel ≠ 0)
      rw [extractLoop, hnone]
      split
      · exact ih (by omega) hread hlist
      · -- all labels have been seen, and reading stops
        rename_i hfull
        have hnil : pairs = [] := List.length_eq_zero_iff.1 (by omega)
        rw [hnil]
        rfl
  | @pair pair order line pairs body file hpair hlabel hbody hperm hrest ih =>
      rw [List.length_cons, List.length_append] at hfuel
      rw [List.length_cons] at hread
      obtain ⟨fuel, rfl⟩ := Nat.exists_eq_add_one_of_ne_zero (by omega : fuel ≠ 0)
      have hlength : 0 + order.length = pair.parameters.length := by
        rw [Nat.zero_add, hperm.length_eq, List.length_range]
      have hbound : pair.stat * MAX_RPM_PARAMS + pair.parameters.length ≤ list.length :=
        hlist ▸ htable.bound pair hpair
      rw [extractLoop, if_pos (by omega), sectionOf_shows htable hpair hlabel]
      dsimp only
      rw [if_pos rfl, parse_stats_body (htable.names pair hpair) hbody hlength hbound, storeAll_perm hperm]
      exact ih (by omega) (by omega) ((length_storeAll _ _ _ _).trans hlist)

/-- A number that is in no section that was read is left alone. -/
theorem getD_storeSections_of_forall_ne {pairs : List StatPair} {list : List ℕ} {j : ℕ}
    (hbound : ∀ p ∈ pairs, p.stat * MAX_RPM_PARAMS + p.parameters.length ≤ list.length)
    (hj : ∀ p ∈ pairs, ∀ i < p.parameters.length, j ≠ p.stat * MAX_RPM_PARAMS + i) :
    (storeSections v pairs list).getD j 0 = list.getD j 0 := by
  induction pairs generalizing list with
  | nil => rfl
  | cons pair pairs ih =>
      have hnow := hbound pair List.mem_cons_self
      refine (ih ?_ fun p hp => hj p (List.mem_cons_of_mem _ hp)).trans ?_
      · intro p hp
        rw [length_storeAll]
        exact hbound p (List.mem_cons_of_mem _ hp)
      · rw [getD_storeAll fun i hi => ?_, if_neg]
        · rintro ⟨hle, hmem⟩
          rw [List.mem_range] at hmem
          exact hj pair List.mem_cons_self _ hmem (by omega)
        · rw [List.mem_range] at hi
          omega

/-- A number of a section that was read. -/
theorem getD_storeSections_of_mem (htable : Table map length) {pairs : List StatPair}
    (hpairs : ∀ p ∈ pairs, p ∈ map) {list : List ℕ} (hlist : list.length = length) {pair : StatPair}
    (hmem : pair ∈ pairs) {i : ℕ} (hi : i < pair.parameters.length) :
    (storeSections v pairs list).getD (pair.stat * MAX_RPM_PARAMS + i) 0 = v pair.stat i := by
  induction pairs generalizing list with
  | nil => exact absurd hmem List.not_mem_nil
  | cons first pairs ih =>
      have hrest : ∀ p ∈ pairs, p ∈ map := fun p hp => hpairs p (List.mem_cons_of_mem _ hp)
      by_cases hlater : pair ∈ pairs
      · exact ih hrest ((length_storeAll _ _ _ _).trans hlist) hlater
      · obtain rfl : pair = first := (List.mem_cons.1 hmem).resolve_right hlater
        have hpair := hpairs pair List.mem_cons_self
        have hbound := htable.bound pair hpair
        have hfirst : storeSections v (pair :: pairs) list = storeSections v pairs
            (storeAll (pair.stat * MAX_RPM_PARAMS) (v pair.stat) (List.range pair.parameters.length) list) := rfl
        rw [hfirst]
        refine (getD_storeSections_of_forall_ne ?_ ?_).trans ?_
        · intro p hp
          rw [length_storeAll, hlist]
          exact htable.bound p (hrest p hp)
        · intro p hp j hj heq
          exact hlater (htable.apart pair hpair p (hrest p hp) i hi j hj heq ▸ hp)
        · rw [getD_storeAll fun j hj => ?_, if_pos, Nat.add_sub_cancel_left]
          · exact ⟨Nat.le_add_right _ _, by rwa [Nat.add_sub_cancel_left, List.mem_range]⟩
          · rw [List.mem_range] at hj
            omega

theorem Sections.subset {pairs : List StatPair} {file : List (List Char)} (h : Sections map v pairs file) :
    ∀ p ∈ pairs, p ∈ map := by
  induction h with
  | nil => exact fun p hp => absurd hp List.not_mem_nil
  | other _ _ ih => exact ih
  | pair hpair _ _ _ _ ih => exact List.forall_mem_cons.2 ⟨hpair, ih⟩

/-- Every number of the array, after the sections of a file were read. -/
theorem extract_stats_sections (htable : Table map length) {pairs : List StatPair} {content : List Char}
    (h : Sections map v pairs (lines content)) (hnodup : pairs.Nodup) :
    ∃ stats, extract_stats { fopen := .ok content } map (List.replicate length 0) = some (0, stats) ∧
      ∀ pair ∈ map, ∀ i < pair.parameters.length,
        stats.getD (pair.stat * MAX_RPM_PARAMS + i) 0 = if pair ∈ pairs then v pair.stat i else 0 := by
  have hlength : (List.replicate length 0).length = length := List.length_replicate
  have hle : 0 + pairs.length ≤ map.length := by
    rw [Nat.zero_add]
    exact (List.subperm_of_subset hnodup h.subset).length_le
  refine ⟨_, extractLoop_sections htable h (Nat.le_refl _) hle hlength, fun pair hpair i hi => ?_⟩
  split
  case isTrue hmem => exact getD_storeSections_of_mem htable h.subset hlength hmem hi
  case isFalse hnot =>
    refine (getD_storeSections_of_forall_ne ?_ ?_).trans ?_
    · intro p hp
      rw [hlength]
      exact htable.bound p (h.subset p hp)
    · intro p hp j hj heq
      exact hnot (htable.apart pair hpair p (h.subset p hp) i hi j hj heq ▸ hp)
    · rw [List.getD_eq_getElem?_getD, List.getElem?_replicate]
      split <;> rfl

end Sections

/-! ### The answers show the numbers of the files -/

theorem blank_of_all {names : List (List Char)}
    (h : (names.all fun name => name.head?.all fun c => !isBlank c) = true) :
    ∀ name ∈ names, ∀ c ∈ name.head?, isBlank c = false := by
  intro name hname c hc
  have hall := List.all_eq_true.1 h name hname
  rw [Option.mem_def.1 hc] at hall
  simpa using hall

theorem names_rpm : Names rpm_stat_params := ⟨by decide, by decide, blank_of_all (by decide)⟩

theorem names_master : Names master_stat_params := ⟨by decide, by decide, blank_of_all (by decide)⟩

theorem names_wlan : Names wlan_power_stat_params := ⟨by decide, by decide, blank_of_all (by decide)⟩

theorem table_rpm : Table rpm_stat_map (MAX_PLATFORM_STATS * MAX_RPM_PARAMS) where
  labels := by decide
  labelNonempty := by decide
  labelBlank p hp := blank_of_all (by decide) p.label (List.mem_map_of_mem hp)
  names := by
    intro p hp
    simp only [rpm_stat_map, List.mem_cons, List.not_mem_nil, or_false] at hp
    rcases hp with rfl | rfl | rfl | rfl | rfl | rfl
    · exact names_rpm
    · exact names_rpm
    · exact names_master
    · exact names_master
    · exact names_master
    · exact names_master
  bound := by decide
  apart := by decide

theorem table_wlan : Table wlan_stat_map WLAN_POWER_PARAMS_COUNT where
  labels := by decide
  labelNonempty := by decide
  labelBlank p hp := blank_of_all (by decide) p.label (List.mem_map_of_mem hp)
  names := by
    intro p hp
    rw [List.mem_singleton.1 hp]
    exact names_wlan
  bound := by decide
  apart := by decide

/-- The number that a file shows for a parameter of a section, if it shows that section. -/
def shown (pairs : List StatPair) (v : ℕ → ℕ → ℕ) (stat i : ℕ) : ℕ :=
  if stat ∈ pairs.map StatPair.stat then v stat i else 0

theorem shown_eq {map pairs : List StatPair} (hstats : ∀ p ∈ map, ∀ q ∈ map, p.stat = q.stat → p = q)
    (hpairs : ∀ p ∈ pairs, p ∈ map) {pair : StatPair} (hpair : pair ∈ map) (v : ℕ → ℕ → ℕ) (i : ℕ) :
    (if pair ∈ pairs then v pair.stat i else 0) = shown pairs v pair.stat i := by
  refine if_congr ⟨List.mem_map_of_mem, fun hmem => ?_⟩ rfl rfl
  obtain ⟨p, hp, heq⟩ := List.mem_map.1 hmem
  exact hstats p (hpairs p hp) pair hpair heq ▸ hp

/-- **The answers show the numbers of the files.**  If the file of the platform shows certain sections, each
once, with their parameters in any order and any other lines among them, the answer has their numbers, and
zero for the sections that are missing.  The same goes for the file of the wireless network. -/
theorem low_power_stats_round_trip (v : ℕ → ℕ → ℕ) (content : List Char) (pairs : List StatPair)
    (hnodup : pairs.Nodup) :
    (Sections rpm_stat_map v pairs (lines content) →
      getPlatformLowPowerStats { fopen := .ok content } = some
        [⟨"XO_shutdown", shown pairs v 0 1, shown pairs v 0 0, false,
            [⟨"APSS".toList, shown pairs v 2 0 / 19200, shown pairs v 2 1⟩,
              ⟨"MPSS".toList, shown pairs v 3 0 / 19200, shown pairs v 3 1⟩,
              ⟨"ADSP".toList, shown pairs v 4 0 / 19200, shown pairs v 4 1⟩,
              ⟨"SLPI".toList, shown pairs v 5 0 / 19200, shown pairs v 5 1⟩]⟩,
          ⟨"VMIN", shown pairs v 1 1, shown pairs v 1 0, false, []⟩]) ∧
    (Sections wlan_stat_map v pairs (lines content) →
      getSubsystemLowPowerStats { fopen := .ok content } = some
        [{ name := "wlan"
           states :=
            [⟨"Active", shown pairs v 0 1, shown pairs v 0 2, 0, false⟩,
              ⟨"Deep-Sleep", shown pairs v 0 0, shown pairs v 0 2, shown pairs v 0 3, false⟩] }]) := by
  constructor
  · intro h
    obtain ⟨stats, hextract, hstats⟩ := extract_stats_sections table_rpm h hnodup
    have hvalue : ∀ pair ∈ rpm_stat_map, ∀ i < pair.parameters.length,
        valueAt stats pair.stat i = shown pairs v pair.stat i := by
      intro pair hpair i hi
      exact (hstats pair hpair i hi).trans (shown_eq (by decide) h.subset hpair v i)
    have hat : ∀ stat < 6, ∀ i < 2, valueAt stats stat i = shown pairs v stat i := by
      intro stat hstat i hi
      have hpair : ∃ pair ∈ rpm_stat_map, pair.stat = stat ∧ pair.parameters.length = 2 := by
        revert stat
        decide
      obtain ⟨pair, hpair, rfl, htwo⟩ := hpair
      exact hvalue pair hpair i (htwo ▸ hi)
    have hvoters : List.range XO_VOTERS = [0, 1, 2, 3] := rfl
    unfold getPlatformLowPowerStats
    rw [hextract]
    show some (platformStates stats) = _
    unfold platformStates
    simp (disch := decide) only [hvoters, List.map_cons, List.map_nil, hat]
    rfl
  · intro h
    obtain ⟨stats, hextract, hstats⟩ := extract_stats_sections table_wlan h hnodup
    have hat : ∀ i < 4, stats.getD i 0 = shown pairs v 0 i := by
      intro i hi
      have hvalue := hstats _ List.mem_cons_self i hi
      rw [shown_eq (by decide) h.subset List.mem_cons_self] at hvalue
      rwa [show WLAN_POWER_DEBUG_STATS * MAX_RPM_PARAMS + i = i from Nat.zero_add i] at hvalue
    unfold getSubsystemLowPowerStats get_wlan_low_power_stats
    rw [hextract]
    show some [({ name := "wlan", states := wlanStates stats } : Subsystem)] = _
    unfold wlanStates
    simp (disch := decide) only [hat]
    rfl

/-- A file with two sections, the second one with its parameters the other way round, and other lines. -/
def twoSections : String :=
  "APSS\n\tVersion:0x1\n\tAccumulated XO duration:0x4b00\n\tXO Count:7\n\n" ++
    "RPM Mode:vlow\n\t actual last sleep(msec):36\n\t count:5\n"

/-- The numbers in it. -/
def twoSectionsValues (stat i : ℕ) : ℕ :=
  if stat = VOTER_APSS then (if i = 0 then 19200 else 7) else if i = 0 then 5 else 36

theorem sections_twoSections :
    Sections rpm_stat_map twoSectionsValues
      [⟨VOTER_APSS, "APSS".toList, master_stat_params⟩, ⟨RPM_MODE_XO, "RPM Mode:vlow".toList, rpm_stat_params⟩]
      (lines twoSections.toList) := by
  have hlines : lines twoSections.toList = "APSS\n".toList ::
      (["\tVersion:0x1\n".toList, "\tAccumulated XO duration:0x4b00\n".toList, "\tXO Count:7\n".toList] ++
        "\n".toList :: "RPM Mode:vlow\n".toList ::
          (["\t actual last sleep(msec):36\n".toList, "\t count:5\n".toList] ++ [])) := by decide +kernel
  have happs : Body master_stat_params (twoSectionsValues VOTER_APSS) [0, 1]
      ["\tVersion:0x1\n".toList, "\tAccumulated XO duration:0x4b00\n".toList, "\tXO Count:7\n".toList] := by
    refine .other (by decide) (by decide) (.param rfl ⟨?_, by decide, by decide⟩
      (.param rfl ⟨?_, by decide, by decide⟩ .nil))
    · exact ⟨['\t'], [], hexadecimal 19200, ['\n'], by decide, List.all_eq_true.1 rfl,
        List.all_eq_true.1 rfl, Or.inr rfl, by decide⟩
    · exact ⟨['\t'], [], decimal 7, ['\n'], by decide, List.all_eq_true.1 rfl,
        List.all_eq_true.1 rfl, Or.inl rfl, by decide⟩
  have hvlow : Body rpm_stat_params (twoSectionsValues RPM_MODE_XO) [1, 0]
      ["\t actual last sleep(msec):36\n".toList, "\t count:5\n".toList] := by
    refine .param rfl ⟨?_, by decide, by decide⟩ (.param rfl ⟨?_, by decide, by decide⟩ .nil)
    · exact ⟨['\t', ' '], [], decimal 36, ['\n'], by decide, List.all_eq_true.1 rfl,
        List.all_eq_true.1 rfl, Or.inl rfl, by decide⟩
    · exact ⟨['\t', ' '], [], decimal 5, ['\n'], by decide, List.all_eq_true.1 rfl,
        List.all_eq_true.1 rfl, Or.inl rfl, by decide⟩
  rw [hlines]
  refine .pair (by decide) ⟨⟨[], ['\n'], by decide, nofun⟩, by decide⟩ happs (by decide) ?_
  refine .other (by decide) ?_
  exact .pair (by decide) ⟨⟨[], ['\n'], by decide, nofun⟩, by decide⟩ hvlow (by decide) .nil

/-- The numbers of that file are those of the answer. -/
theorem low_power_stats_two_sections :
    getPlatformLowPowerStats { fopen := .ok twoSections.toList } = some
      [⟨"XO_shutdown", 36, 5, false,
          [⟨"APSS".toList, 1, 7⟩, ⟨"MPSS".toList, 0, 0⟩, ⟨"ADSP".toList, 0, 0⟩, ⟨"SLPI".toList, 0, 0⟩]⟩,
        ⟨"VMIN", 0, 0, false, []⟩] :=
  (low_power_stats_round_trip twoSectionsValues twoSections.toList _ (by decide)).1 sections_twoSections

/-! ### Any file -/

theorem paramOf_lt {params : List (List Char)} {line : List Char} {i n : ℕ}
    (h : paramOf params line = some (i, n)) : i < params.length ∧ n < 2 ^ 64 := by
  unfold paramOf at h
  split at h
  case h_1 => exact absurd h (by simp)
  case h_2 key value _ =>
    obtain ⟨j, hj, heq⟩ := Option.map_eq_some_iff.1 h
    obtain ⟨rfl, rfl⟩ := Prod.mk.inj heq
    exact ⟨(List.findIdx?_eq_some_iff_getElem.1 hj).1, strtoull_lt value⟩

/-- An array of this length, with numbers of 64 bits. -/
structure Array64 (length : ℕ) (list : List ℕ) : Prop where
  length_eq : list.length = length
  fits : ∀ n ∈ list, n < 2 ^ 64

theorem Array64.set {length i n : ℕ} {list : List ℕ} (h : Array64 length list) (hn : n < 2 ^ 64) :
    Array64 length (list.set i n) where
  length_eq := List.length_set.trans h.length_eq
  fits := by
    intro m hm
    rcases List.mem_or_eq_of_mem_set hm with hmem | rfl
    · exact h.fits m hmem
    · exact hn

/-- Whatever the lines are, `parse_stats` stays within the section's part of the array. -/
theorem parse_stats_in_bounds {params : List (List Char)} {base length : ℕ}
    (hbound : base + params.length ≤ length) (file : List (List Char)) {list : List ℕ}
    (hlist : Array64 length list) (params_read : ℕ) :
    ∃ list' file', parse_stats params base params_read list file = some (list', file') ∧
      Array64 length list' ∧ file'.length ≤ file.length := by
  induction file generalizing list params_read with
  | nil => exact ⟨list, [], rfl, hlist, Nat.le_refl _⟩
  | cons line file ih =>
      rw [parse_stats, List.length_cons]
      split
      case isFalse hfull => exact ⟨list, line :: file, rfl, hlist, Nat.le_refl _⟩
      case isTrue hmore =>
        cases hparam : paramOf params line with
        | none =>
            obtain ⟨list', file', heq, hlist', hle⟩ := ih hlist params_read
            exact ⟨list', file', heq, hlist', Nat.le_succ_of_le hle⟩
        | some found =>
            obtain ⟨hi, hn⟩ := paramOf_lt hparam
            have hstore : store (base + found.1) found.2 list = some (list.set (base + found.1) found.2) :=
              if_pos (by rw [hlist.length_eq]; omega)
            obtain ⟨list', file', heq, hlist', hle⟩ := ih (hlist.set hn) (params_read + 1)
            dsimp only
            rw [hstore]
            exact ⟨list', file', heq, hlist', Nat.le_succ_of_le hle⟩

theorem extractLoop_in_bounds {map : List StatPair} {length : ℕ} (htable : Table map length) (malloc : ℕ → Bool)
    {fuel : ℕ} {file : List (List Char)} (hfuel : file.length ≤ fuel) {list : List ℕ}
    (hlist : Array64 length list) (stats_read : ℕ) :
    ∃ ret list', extractLoop malloc map fuel stats_read list file = some (ret, list') ∧
      Array64 length list' := by
  induction fuel generalizing file list stats_read with
  | zero =>
      obtain rfl := List.length_eq_zero_iff.1 (Nat.le_zero.1 hfuel)
      exact ⟨0, list, rfl, hlist⟩
  | succ fuel ih =>
      cases file with
      | nil => exact ⟨0, list, rfl, hlist⟩
      | cons line file =>
          rw [List.length_cons] at hfuel
          rw [extractLoop]
          split
          case isFalse hfull => exact ⟨0, list, rfl, hlist⟩
          case isTrue hmore =>
            cases hsection : sectionOf map line with
            | none => exact ih (Nat.le_of_succ_le_succ hfuel) hlist stats_read
            | some pair =>
                have hpair : pair ∈ map := List.mem_of_find?_eq_some hsection
                obtain ⟨list', file', heq, hlist', hle⟩ :=
                  parse_stats_in_bounds (htable.bound pair hpair) file hlist 0
                dsimp only
                rw [heq]
                split
                · exact ih (hle.trans (Nat.le_of_succ_le_succ hfuel)) hlist' (stats_read + 1)
                · exact ⟨_, list, rfl, hlist⟩

theorem extract_stats_in_bounds {map : List StatPair} {length : ℕ} (htable : Table map length) (env : Env) :
    ∃ ret stats, extract_stats env map (List.replicate length 0) = some (ret, stats) ∧ Array64 length stats := by
  have hzero : Array64 length (List.replicate length 0) := by
    refine ⟨List.length_replicate, fun n hn => ?_⟩
    rw [List.eq_of_mem_replicate hn]
    decide
  unfold extract_stats
  cases env.fopen with
  | error errno => exact ⟨_, _, rfl, hzero⟩
  | ok content =>
      dsimp only
      split
      · exact extractLoop_in_bounds htable env.malloc (Nat.le_refl _) hzero 0
      · exact ⟨_, _, rfl, hzero⟩

/-- **Any file.**  Whatever the files are, and wherever memory runs out: nothing is written outside of the two
arrays, all numbers fit into 64 bits, and both calls are answered, with two states or none and with one
subsystem. -/
theorem power_stats_in_bounds (env : Env) :
    (∃ ret stats, extract_stats env rpm_stat_map (List.replicate 12 0) = some (ret, stats) ∧
      Array64 12 stats ∧
      getPlatformLowPowerStats env = some (if ret = 0 then platformStates stats else [])) ∧
    (∃ ret stats, extract_stats env wlan_stat_map (List.replicate 4 0) = some (ret, stats) ∧
      Array64 4 stats ∧
      getSubsystemLowPowerStats env =
        some [if ret = 0 then { name := "wlan", states := wlanStates stats } else {}]) := by
  constructor
  · obtain ⟨ret, stats, heq, harray⟩ := extract_stats_in_bounds table_rpm env
    refine ⟨ret, stats, heq, harray, ?_⟩
    unfold getPlatformLowPowerStats
    rw [heq]
    by_cases hret : ret = 0 <;> simp [hret]
  · obtain ⟨ret, stats, heq, harray⟩ := extract_stats_in_bounds table_wlan env
    refine ⟨ret, stats, heq, harray, ?_⟩
    unfold getSubsystemLowPowerStats get_wlan_low_power_stats
    rw [heq]
    by_cases hret : ret = 0 <;> simp [hret]

end PowerStats
