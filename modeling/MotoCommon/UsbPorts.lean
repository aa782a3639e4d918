/-
**The ports of the USB service** (`getTypeCPortNamesHelper` and `getPortStatusHelper` of `usb/Usb.cpp`).

The ports are found out from the names in a directory: a name that contains `-partner` belongs to a port
that is connected, the other names are those of the ports.  For each port its roles are asked for, and a
vector of states is filled in, one element a port, in the order in which the map of the ports is iterated;
about this order nothing is promised.  The first query that fails ends the loop.

Main definitions:

* `UsbHal.getTypeCPortNamesHelper` — the names of the ports, and which are connected;
* `UsbHal.Fault` — an index that is out of range, or a member of a union that is not the active one;
* `UsbHal.getPortStatusHelper` — the loop over the ports;
* `UsbHal.Iterates` — the orders in which a map may be iterated;
* `UsbHal.QueryFails`, `UsbHal.Misread` — what the nodes of a port lead to.

Main results:

* `UsbHal.lookup_portNames_iff` — the map of the ports, name by name;
* `UsbHal.describe_described` — **one round** of the loop;
* `UsbHal.visitPorts_frame`, `UsbHal.visitPorts_wrongTag_iff` — **the loop**, for every list of ports;
* `UsbHal.visitPorts_done`, `UsbHal.visitPorts_fails` — what it reports.
-/

import Mathlib.Data.List.Infix
import MotoCommon.Containers
import MotoCommon.UsbRoles

set_option autoImplicit false

namespace UsbHal

/-! ### The names of the ports -/

/-- An entry of a directory, and whether it is a symbolic link. -/
structure Dirent where
  d_name : String
  isLink : Bool := true
  deriving DecidableEq, Repr

/-- The name contains `-partner`. -/
def hasPartner (name : String) : Bool := decide ("-partner".toList <:+: name.toList)

/-- `strtok(name, "-")`, which skips the separators at the start. -/
def strtok (name : String) : String :=
  String.ofList ((name.toList.dropWhile (· == '-')).takeWhile (· != '-'))

/-- One round of the loop over the directory.  A port is inserted if it is not there yet; a partner
overwrites what is there. -/
def addName (names : UMap String Bool) (ep : Dirent) : UMap String Bool :=
  if ep.isLink = false then names
  else if hasPartner ep.d_name = false then
    match names.lookup ep.d_name with
    | none => names.insert ep.d_name false
    | some _ => names
  else names.insert (strtok ep.d_name) true

/-- The map after the whole directory. -/
def portNames (entries : List Dirent) : UMap String Bool := entries.foldl addName ∅

/-- `getTypeCPortNamesHelper`, for the entries of the directory, if it can be opened. -/
def getTypeCPortNamesHelper : Option (List Dirent) → Status × UMap String Bool
  | none => (.ERROR, ∅)
  | some entries => (.SUCCESS, portNames entries)

/-- The entry is that of a partner of the port. -/
def isPartnerOf (port : String) (ep : Dirent) : Bool :=
  ep.isLink && hasPartner ep.d_name && decide (strtok ep.d_name = port)

/-- The entry is that of the port itself. -/
def isPort (port : String) (ep : Dirent) : Bool :=
  ep.isLink && !hasPartner ep.d_name && decide (ep.d_name = port)

/-- One round, seen from one name. -/
theorem lookup_addName (names : UMap String Bool) (ep : Dirent) (port : String) :
    (addName names ep).lookup port =
      if isPartnerOf port ep then some true
      else (names.lookup port).or (if isPort port ep then some false else none) := by
  unfold addName isPartnerOf isPort
  cases hlink : ep.isLink with
  | false => simp
  | true =>
      cases hasPartner ep.d_name with
      | true =>
          by_cases hport : strtok ep.d_name = port
          · simp [hport]
          · simp [hport, Ne.symm hport]
      | false =>
          by_cases hport : ep.d_name = port
          · subst hport
            cases hlookup : names.lookup ep.d_name with
            | none => simp
            | some connected => simp [hlookup]
          · cases names.lookup ep.d_name with
            | none => simp [hport, Ne.symm hport]
            | some connected => simp [hport]

/-- The map of the ports, name by name: a name is there if it is that of a port or of the port of a partner,
and the port is connected exactly if it has a partner. -/
theorem lookup_portNames (entries : List Dirent) (port : String) :
    (portNames entries).lookup port =
      if entries.any (isPartnerOf port) then some true
      else if entries.any (isPort port) then some false
      else none := by
  -- the induction is over the directory, for any map to begin with
  have hfold : ∀ (entries : List Dirent) (names : UMap String Bool),
      (entries.foldl addName names).lookup port =
        if entries.any (isPartnerOf port) then some true
        else (names.lookup port).or (if entries.any (isPort port) then some false else none) := by
    intro entries
    induction entries with
    | nil => simp
    | cons ep entries ih =>
        intro names
        rw [List.foldl_cons, ih, lookup_addName, List.any_cons, List.any_cons]
        cases isPartnerOf port ep with
        | true => simp
        | false =>
            cases isPort port ep with
            | true => cases names.lookup port <;> simp
            | false => simp
  rw [portNames, hfold, AList.lookup_empty, Option.none_or]

/-- The part of a name before the first separator. -/
def beforeDash (name : String) : String := String.ofList (name.toList.takeWhile (· != '-'))

/-- No link has a name that begins with a separator. -/
def NamesBegin (entries : List Dirent) : Prop :=
  ∀ ep ∈ entries, ep.isLink = true → ep.d_name.toList.head? ≠ some '-'

instance (entries : List Dirent) : Decidable (NamesBegin entries) :=
  inferInstanceAs (Decidable (∀ ep ∈ entries, ep.isLink = true → ep.d_name.toList.head? ≠ some '-'))

theorem strtok_eq {name : String} (h : name.toList.head? ≠ some '-') : strtok name = beforeDash name := by
  unfold strtok beforeDash
  cases hname : name.toList with
  | nil => rfl
  | cons c cs =>
      rw [hname, List.head?_cons] at h
      have hc : c ≠ '-' := fun hc => h (congrArg some hc)
      rw [List.dropWhile_cons_of_neg (by simpa using hc)]

/-- A name in the directory is that of the port. -/
def Listed (entries : List Dirent) (port : String) : Prop :=
  ∃ ep ∈ entries, ep.isLink = true ∧ hasPartner ep.d_name = false ∧ ep.d_name = port

/-- A name in the directory is that of a partner of the port. -/
def Partnered (entries : List Dirent) (port : String) : Prop :=
  ∃ ep ∈ entries, ep.isLink = true ∧ hasPartner ep.d_name = true ∧ beforeDash ep.d_name = port

/-- A port that is in the directory, and whether it is connected. -/
def HasPort (entries : List Dirent) (port : String × Bool) : Prop :=
  (Listed entries port.1 ∨ Partnered entries port.1) ∧ (port.2 = true ↔ Partnered entries port.1)

section Directory

variable {entries entries' : List Dirent}

theorem any_isPort_iff (entries : List Dirent) (port : String) :
    entries.any (isPort port) = true ↔ Listed entries port := by
  simp [isPort, Listed, and_assoc]

theorem any_isPartnerOf_iff (hnames : NamesBegin entries) (port : String) :
    entries.any (isPartnerOf port) = true ↔ Partnered entries port := by
  rw [List.any_eq_true]
  constructor
  · rintro ⟨ep, hep, h⟩
    simp only [isPartnerOf, Bool.and_eq_true, decide_eq_true_eq] at h
    obtain ⟨⟨hlink, hpartner⟩, hport⟩ := h
    exact ⟨ep, hep, hlink, hpartner, (strtok_eq (hnames ep hep hlink)).symm.trans hport⟩
  · rintro ⟨ep, hep, hlink, hpartner, hport⟩
    refine ⟨ep, hep, ?_⟩
    simp [isPartnerOf, hlink, hpartner, strtok_eq (hnames ep hep hlink), hport]

/-- The keys of the map. -/
theorem mem_portNames_iff (hnames : NamesBegin entries) (port : String) :
    port ∈ portNames entries ↔ Listed entries port ∨ Partnered entries port := by
  rw [← AList.lookup_isSome, lookup_portNames, ← any_isPort_iff, ← any_isPartnerOf_iff hnames]
  cases entries.any (isPartnerOf port) <;> cases entries.any (isPort port) <;> simp

/-- The keys that are mapped to true. -/
theorem lookup_portNames_true_iff (hnames : NamesBegin entries) (port : String) :
    (portNames entries).lookup port = some true ↔ Partnered entries port := by
  rw [lookup_portNames, ← any_isPartnerOf_iff hnames]
  cases entries.any (isPartnerOf port) <;> cases entries.any (isPort port) <;> simp

theorem lookup_portNames_iff (hnames : NamesBegin entries) (port : String) (connected : Bool) :
    (portNames entries).lookup port = some connected ↔ HasPort entries (port, connected) := by
  unfold HasPort
  rw [← mem_portNames_iff hnames, ← lookup_portNames_true_iff hnames, ← AList.lookup_isSome]
  cases (portNames entries).lookup port with
  | none => simp
  | some connected' => cases connected <;> cases connected' <;> simp

/-- The map does not depend on the order of the directory. -/
theorem lookup_portNames_perm (h : entries'.Perm entries) (port : String) :
    (portNames entries').lookup port = (portNames entries).lookup port := by
  rw [lookup_portNames, lookup_portNames, h.any_eq, h.any_eq]

end Directory

/-! ### The states of the ports -/

inductive UsbDataStatus where
  | ENABLED
  | DISABLED_FORCE
  deriving DecidableEq, Repr

inductive PowerBrickStatus where
  | UNKNOWN
  deriving DecidableEq, Repr

inductive ContaminantProtectionMode where
  | FORCE_DISABLE
  deriving DecidableEq, Repr

inductive ContaminantProtectionStatus where
  | NONE
  | FORCE_DISABLE
  deriving DecidableEq, Repr

inductive ContaminantDetectionStatus where
  | NOT_SUPPORTED
  | DISABLED
  | NOT_DETECTED
  | DETECTED
  deriving DecidableEq, Repr

structure PortStatus where
  portName : String := ""
  currentDataRole : PortDataRole := .NONE
  currentPowerRole : PortPowerRole := .NONE
  currentMode : PortMode := .NONE
  canChangeMode : Bool := false
  canChangeDataRole : Bool := false
  canChangePowerRole : Bool := false
  supportedModes : List PortMode := []
  supportedContaminantProtectionModes : List ContaminantProtectionMode := []
  supportsEnableContaminantPresenceProtection : Bool := false
  contaminantProtectionStatus : ContaminantProtectionStatus := .NONE
  supportsEnableContaminantPresenceDetection : Bool := false
  contaminantDetectionStatus : ContaminantDetectionStatus := .NOT_SUPPORTED
  usbDataStatus : List UsbDataStatus := []
  powerTransferLimited : Bool := false
  powerBrickStatus : PowerBrickStatus := .UNKNOWN
  deriving DecidableEq, Repr

/-- An element that has just been added to a vector. -/
def PortStatus.fresh : PortStatus := {}

/-- What may go wrong: an element of a vector is accessed that is not there, or a member of a union is read
that is not the active one. -/
inductive Fault where
  | outOfRange
  | wrongTag
  deriving DecidableEq, Repr

def canSwitchRoleHelper (files : Files) (portName : String) : Bool :=
  (files ("/sys/class/typec/" ++ portName ++ "-partner/supports_usb_power_delivery")).elim false
    fun supportsPD => decide (Trim supportsPD = "yes")

/-- The end of a round of the loop over the ports, once the roles are known. -/
def describeRest (files : Files) (mUsbDataEnabled : Bool) (port : String × Bool) (s : PortStatus) :
    PortStatus :=
  { s with
    canChangeMode := true
    canChangeDataRole := if port.2 then canSwitchRoleHelper files port.1 else false
    canChangePowerRole := if port.2 then canSwitchRoleHelper files port.1 else false
    supportedModes := s.supportedModes ++ [.DRP]
    usbDataStatus := s.usbDataStatus ++ [if mUsbDataEnabled then .ENABLED else .DISABLED_FORCE]
    powerBrickStatus := .UNKNOWN }

/-- A role of the port is asked for, and read from the member `get` of the answer; there is no role if the
query fails. -/
def ask {α : Type} (files : Files) (port : String × Bool) (asked : PortRole) (get : PortRole → Option α) :
    Except Fault (Option α) :=
  match getCurrentRoleHelper files port.1 port.2 asked with
  | (.SUCCESS, currentRole) =>
      match get currentRole with
      | none => .error .wrongTag
      | some role => .ok (some role)
  | _ => .ok none

/-- A round of the loop over the ports, for its element of the vector.  The result says whether the loop
goes on: a query that fails ends it. -/
def describe (files : Files) (mUsbDataEnabled : Bool) (port : String × Bool) (s : PortStatus) :
    Except Fault (Bool × PortStatus) :=
  let s := { s with portName := port.1 }
  match ask files port (.powerRole .NONE) PortRole.getPowerRole with
  | .error fault => .error fault
  | .ok none => .ok (false, s)
  | .ok (some role) =>
      let s := { s with currentPowerRole := role }
      match ask files port (.dataRole .NONE) PortRole.getDataRole with
      | .error fault => .error fault
      | .ok none => .ok (false, s)
      | .ok (some role) =>
          let s := { s with currentDataRole := role }
          match ask files port (.mode .NONE) PortRole.getMode with
          | .error fault => .error fault
          | .ok none => .ok (false, s)
          | .ok (some mode) =>
              .ok (true, describeRest files mUsbDataEnabled port { s with currentMode := mode })

/-- The loop over the ports, from an index on. -/
def visitPorts (files : Files) (mUsbDataEnabled : Bool) :
    ℕ → List (String × Bool) → List PortStatus → Except Fault (Status × List PortStatus)
  | _, [], currentPortStatus => .ok (.SUCCESS, currentPortStatus)
  | i, port :: ports, currentPortStatus =>
      match currentPortStatus[i]? with
      | none => .error .outOfRange
      | some s =>
          match describe files mUsbDataEnabled port s with
          | .error fault => .error fault
          | .ok (false, s) => .ok (.ERROR, currentPortStatus.set i s)
          | .ok (true, s) => visitPorts files mUsbDataEnabled (i + 1) ports (currentPortStatus.set i s)

/-- `resize` of a vector. -/
def resize (n : ℕ) (v : List PortStatus) : List PortStatus :=
  v.take n ++ List.replicate (n - v.length) .fresh

theorem length_resize (n : ℕ) (v : List PortStatus) : (resize n v).length = n := by
  rw [resize, List.length_append, List.length_take, List.length_replicate]
  omega

/-- `getPortStatusHelper`, with the order in which the map of the ports is iterated. -/
def getPortStatusHelper (files : Files) (mUsbDataEnabled : Bool) (typec : Option (List Dirent))
    (order : List (String × Bool)) (currentPortStatus : List PortStatus) :
    Except Fault (Status × List PortStatus) :=
  match getTypeCPortNamesHelper typec with
  | (.SUCCESS, names) =>
      visitPorts files mUsbDataEnabled 0 order (resize names.entries.length currentPortStatus)
  | _ => .ok (.ERROR, currentPortStatus)

/-- The orders in which a map may be iterated: every entry is visited once. -/
def Iterates (order : List (String × Bool)) (names : UMap String Bool) : Prop :=
  order.Perm (names.entries.map fun e => (e.1, e.2))

instance (order : List (String × Bool)) (names : UMap String Bool) : Decidable (Iterates order names) :=
  inferInstanceAs (Decidable (List.Perm _ _))

/-! ### The loop over the ports -/

section Loop

variable {files : Files} {mUsbDataEnabled : Bool} {port : String × Bool} {s : PortStatus}

/-- A query for a role of the port fails, and no query before it has changed the tag. -/
def QueryFails (files : Files) (port : String × Bool) : Prop :=
  Unreadable files port.1 port.2 (.powerRole .NONE) ∨
    RoleFits files port.1 port.2 (.powerRole .NONE) ∧
      (Unreadable files port.1 port.2 (.dataRole .NONE) ∨
        RoleFits files port.1 port.2 (.dataRole .NONE) ∧
          Unreadable files port.1 port.2 (.mode .NONE))

/-- A member of a union is read that is not the active one. -/
def Misread (files : Files) (port : String × Bool) : Prop :=
  ¬ QueryFails files port ∧ ∃ asked, ¬ RoleFits files port.1 port.2 asked

/-- What a round does to an element: a member is read that is not the active one; a query fails; or the port
is described.  In the last two cases the element has the name of the port. -/
inductive Described (files : Files) (port : String × Bool) (s : PortStatus) :
    Except Fault (Bool × PortStatus) → Prop
  | wrongTag : Misread files port → Described files port s (.error .wrongTag)
  | failed (s' : PortStatus) : QueryFails files port → s'.portName = port.1 →
      s'.canChangeMode = s.canChangeMode → Described files port s (.ok (false, s'))
  | done (s' : PortStatus) : ¬ QueryFails files port → ¬ Misread files port → s'.portName = port.1 →
      s'.canChangeMode = true → Described files port s (.ok (true, s'))

/-- What one question leads to. -/
theorem ask_cases {α : Type} (files : Files) (port : String × Bool) (asked : PortRole)
    {get : PortRole → Option α} (hget : ∀ role, (get role).isSome = true ↔ role.getTag = asked.getTag) :
    (ask files port asked get = .ok none ∧ Unreadable files port.1 port.2 asked) ∨
      (∃ role, ask files port asked get = .ok (some role) ∧ ¬ Unreadable files port.1 port.2 asked ∧
        RoleFits files port.1 port.2 asked) ∨
      (ask files port asked get = .error .wrongTag ∧ ¬ Unreadable files port.1 port.2 asked ∧
        ¬ RoleFits files port.1 port.2 asked) := by
  rw [← getCurrentRoleHelper_fails_iff, ← getCurrentRoleHelper_getTag_iff]
  unfold ask KeepsTag
  rcases getCurrentRoleHelper files port.1 port.2 asked with ⟨status, currentRole⟩
  cases status with
  | ERROR => exact Or.inl ⟨rfl, by simp⟩
  | UNRECOGNIZED_ROLE => exact Or.inl ⟨rfl, by simp⟩
  | SUCCESS =>
      have htag := hget currentRole
      dsimp only
      cases hrole : get currentRole with
      | some role =>
          rw [hrole] at htag
          exact Or.inr (Or.inl ⟨role, rfl, by simp, fun _ => htag.1 rfl⟩)
      | none =>
          rw [hrole] at htag
          refine Or.inr (Or.inr ⟨rfl, by simp, fun hkeeps => ?_⟩)
          exact Bool.false_ne_true (htag.2 (hkeeps rfl))

theorem describe_described (files : Files) (mUsbDataEnabled : Bool) (port : String × Bool)
    (s : PortStatus) : Described files port s (describe files mUsbDataEnabled port s) := by
  unfold describe
  dsimp only
  rcases ask_cases files port (.powerRole .NONE) PortRole.isSome_getPowerRole with
    ⟨hask, hfails⟩ | ⟨power, hask, hpower, hfits⟩ | ⟨hask, hpower, hwrong⟩
  · rw [hask]
    exact .failed _ (Or.inl hfails) rfl rfl
  · rw [hask]
    dsimp only
    rcases ask_cases files port (.dataRole .NONE) PortRole.isSome_getDataRole with
      ⟨hask, hfails⟩ | ⟨data, hask, hdata, hfits'⟩ | ⟨hask, hdata, hwrong⟩
    · rw [hask]
      exact .failed _ (Or.inr ⟨hfits, Or.inl hfails⟩) rfl rfl
    · rw [hask]
      dsimp only
      rcases ask_cases files port (.mode .NONE) PortRole.isSome_getMode with
        ⟨hask, hfails⟩ | ⟨mode, hask, hmode, hfits''⟩ | ⟨hask, hmode, hwrong⟩
      · rw [hask]
        exact .failed _ (Or.inr ⟨hfits, Or.inr ⟨hfits', hfails⟩⟩) rfl rfl
      · rw [hask]
        refine .done _ (by simp [QueryFails, hpower, hdata, hmode]) ?_ rfl rfl
        rintro ⟨-, asked, hwrong⟩
        cases asked with
        | powerRole role => exact hwrong hfits
        | dataRole role => exact hwrong hfits'
        | mode role => exact hwrong hfits''
      · rw [hask]
        exact .wrongTag ⟨by simp [QueryFails, hpower, hdata, hmode], _, hwrong⟩
    · rw [hask]
      exact .wrongTag ⟨by simp [QueryFails, hpower, hdata, hwrong], _, hwrong⟩
  · rw [hask]
    exact .wrongTag ⟨by simp [QueryFails, hpower, hwrong], _, hwrong⟩

/-- A port for which a query fails. -/
theorem describe_fails (h : QueryFails files port) (mUsbDataEnabled : Bool) (s : PortStatus) :
    ∃ s', s'.portName = port.1 ∧ s'.canChangeMode = s.canChangeMode ∧
      describe files mUsbDataEnabled port s = .ok (false, s') := by
  have hround := describe_described files mUsbDataEnabled port s
  generalize describe files mUsbDataEnabled port s = result at hround ⊢
  cases hround with
  | wrongTag hmisread => exact absurd h hmisread.1
  | failed s' _ hname hmode => exact ⟨s', hname, hmode, rfl⟩
  | done s' hfails => exact absurd h hfails

/-- A port that is described. -/
theorem describe_done (hfails : ¬ QueryFails files port) (hmisread : ¬ Misread files port)
    (mUsbDataEnabled : Bool) (s : PortStatus) : ∃ s', s'.portName = port.1 ∧
      s'.canChangeMode = true ∧ describe files mUsbDataEnabled port s = .ok (true, s') := by
  have hround := describe_described files mUsbDataEnabled port s
  generalize describe files mUsbDataEnabled port s = result at hround ⊢
  cases hround with
  | wrongTag h => exact absurd h hmisread
  | failed s' h => exact absurd h hfails
  | done s' _ _ hname hmode => exact ⟨s', hname, hmode, rfl⟩

/-- **The loop** stays in a vector that has an element for each port.  It keeps the size of the vector, and the
elements before the index. -/
theorem visitPorts_frame (files : Files) (mUsbDataEnabled : Bool) {ports : List (String × Bool)} {i : ℕ}
    {v : List PortStatus} (hlen : i + ports.length ≤ v.length) :
    visitPorts files mUsbDataEnabled i ports v = .error .wrongTag ∨
      ∃ status v', visitPorts files mUsbDataEnabled i ports v = .ok (status, v') ∧
        v'.length = v.length ∧ ∀ j < i, v'[j]? = v[j]? := by
  induction ports generalizing i v with
  | nil => exact Or.inr ⟨.SUCCESS, v, rfl, rfl, fun j _ => rfl⟩
  | cons port ports ih =>
      rw [List.length_cons] at hlen
      obtain ⟨s, hget⟩ : ∃ s, v[i]? = some s := ⟨_, List.getElem?_eq_getElem (by omega)⟩
      rw [visitPorts, hget]
      dsimp only
      have hround := describe_described files mUsbDataEnabled port s
      generalize describe files mUsbDataEnabled port s = result at hround ⊢
      cases hround with
      | wrongTag => exact Or.inl rfl
      | failed s' =>
          exact Or.inr ⟨.ERROR, v.set i s', rfl, List.length_set,
            fun j hj => List.getElem?_set_ne (Nat.ne_of_gt hj)⟩
      | done s' =>
          have hnext : i + 1 + ports.length ≤ (v.set i s').length := by
            rw [List.length_set]
            omega
          rcases ih hnext with hwrong | ⟨status, v', hok, hlen', hframe⟩
          · exact Or.inl hwrong
          · refine Or.inr ⟨status, v', hok, hlen'.trans List.length_set, fun j hj => ?_⟩
            rw [hframe j (Nat.lt_succ_of_lt hj), List.getElem?_set_ne (Nat.ne_of_gt hj)]

/-- The roles of a port are misread, and no query has failed for a port before it. -/
def ReachesMisread (files : Files) (ports : List (String × Bool)) : Prop :=
  ∃ before port after, ports = before ++ port :: after ∧ (∀ p ∈ before, ¬ QueryFails files p) ∧
    Misread files port

theorem reachesMisread_cons (port : String × Bool) (ports : List (String × Bool)) :
    ReachesMisread files (port :: ports) ↔
      Misread files port ∨ ¬ QueryFails files port ∧ ReachesMisread files ports := by
  constructor
  · rintro ⟨before, port', after, hsplit, hbefore, hmisread⟩
    cases before with
    | nil =>
        rw [List.nil_append, List.cons.injEq] at hsplit
        rw [hsplit.1]
        exact Or.inl hmisread
    | cons p before =>
        rw [List.cons_append, List.cons.injEq] at hsplit
        rw [hsplit.1, hsplit.2]
        refine Or.inr ⟨hbefore p List.mem_cons_self, before, port', after, rfl, ?_, hmisread⟩
        exact fun q hq => hbefore q (List.mem_cons_of_mem p hq)
  · rintro (hmisread | ⟨hfails, before, port', after, rfl, hbefore, hmisread⟩)
    · exact ⟨[], port, ports, rfl, by simp, hmisread⟩
    · refine ⟨port :: before, port', after, rfl, ?_, hmisread⟩
      intro p hp
      rcases List.mem_cons.1 hp with rfl | hp
      · exact hfails
      · exact hbefore p hp

/-- **When the loop reads a member that is not the active one.** -/
theorem visitPorts_wrongTag_iff {ports : List (String × Bool)} {i : ℕ} {v : List PortStatus}
    (hlen : i + ports.length ≤ v.length) :
    visitPorts files mUsbDataEnabled i ports v = .error .wrongTag ↔ ReachesMisread files ports := by
  induction ports generalizing i v with
  | nil => simp [visitPorts, ReachesMisread]
  | cons port ports ih =>
      rw [List.length_cons] at hlen
      obtain ⟨s, hget⟩ : ∃ s, v[i]? = some s := ⟨_, List.getElem?_eq_getElem (by omega)⟩
      rw [visitPorts, hget, reachesMisread_cons]
      dsimp only
      have hround := describe_described files mUsbDataEnabled port s
      generalize describe files mUsbDataEnabled port s = result at hround ⊢
      cases hround with
      | wrongTag hmisread => exact iff_of_true rfl (Or.inl hmisread)
      | failed s' hfails =>
          refine iff_of_false (by simp) ?_
          rintro (hmisread | ⟨hnot, -⟩)
          · exact hmisread.1 hfails
          · exact hnot hfails
      | done s' hfails hmisread =>
          have hnext : i + 1 + ports.length ≤ (v.set i s').length := by
            rw [List.length_set]
            omega
          dsimp only
          rw [ih hnext]
          exact ⟨fun h => Or.inr ⟨hfails, h⟩, fun h => (h.resolve_left hmisread).2⟩

/-- The element that a port is described by. -/
def statusOf (files : Files) (mUsbDataEnabled : Bool) (port : String × Bool) : PortStatus :=
  match describe files mUsbDataEnabled port .fresh with
  | .error _ => .fresh
  | .ok (_, s) => s

/-- The loop, if every port can be described.  The elements of the vector from the index on are new and there
is one for each port; those before the index are not touched any more. -/
theorem visitPorts_done (mUsbDataEnabled : Bool) {ports : List (String × Bool)}
    (h : ∀ p ∈ ports, ¬ QueryFails files p ∧ ¬ Misread files p) (done : List PortStatus) :
    visitPorts files mUsbDataEnabled done.length ports (done ++ List.replicate ports.length .fresh) =
      .ok (.SUCCESS, done ++ ports.map (statusOf files mUsbDataEnabled)) := by
  induction ports generalizing done with
  | nil => simp [visitPorts]
  | cons port ports ih =>
      obtain ⟨hfails, hmisread⟩ := h port List.mem_cons_self
      obtain ⟨s, -, -, hdescribe⟩ := describe_done hfails hmisread mUsbDataEnabled .fresh
      have hstatus : statusOf files mUsbDataEnabled port = s := by
        rw [statusOf, hdescribe]
      have hnext := ih (fun p hp => h p (List.mem_cons_of_mem port hp)) (done ++ [s])
      rw [List.length_append, List.length_singleton, List.append_assoc, List.append_assoc,
        List.singleton_append, List.singleton_append] at hnext
      rw [List.length_cons, List.replicate_succ, visitPorts,
        List.getElem?_append_right (Nat.le_refl _), Nat.sub_self, List.getElem?_cons_zero]
      dsimp only
      rw [hdescribe]
      dsimp only
      rw [List.set_append_right _ _ (Nat.le_refl _), Nat.sub_self, List.set_cons_zero, List.map_cons,
        hstatus]
      exact hnext

/-- The loop, if a query fails for the first port: the others are left as they are. -/
theorem visitPorts_fails (mUsbDataEnabled : Bool) (h : QueryFails files port)
    (ports : List (String × Bool)) :
    ∃ s, s.portName = port.1 ∧ s.canChangeMode = false ∧
      visitPorts files mUsbDataEnabled 0 (port :: ports) (List.replicate (port :: ports).length .fresh) =
        .ok (.ERROR, s :: List.replicate ports.length .fresh) := by
  obtain ⟨s, hname, hmode, hdescribe⟩ := describe_fails h mUsbDataEnabled .fresh
  refine ⟨s, hname, hmode, ?_⟩
  rw [List.length_cons, List.replicate_succ, visitPorts, List.getElem?_cons_zero]
  dsimp only
  rw [hdescribe]
  dsimp only
  rw [List.set_cons_zero]

/-- The loop, if the first port can be described: its element stays as it is then. -/
theorem visitPorts_first (mUsbDataEnabled : Bool) (hfails : ¬ QueryFails files port)
    (hmisread : ¬ Misread files port) (ports : List (String × Bool)) :
    let result := visitPorts files mUsbDataEnabled 0 (port :: ports)
      (List.replicate (port :: ports).length .fresh)
    result = .error .wrongTag ∨ ∃ status v, result = .ok (status, v) ∧ ∃ s ∈ v, s.canChangeMode = true := by
  obtain ⟨s, -, hmode, hdescribe⟩ := describe_done hfails hmisread mUsbDataEnabled .fresh
  rw [List.length_cons, List.replicate_succ, visitPorts, List.getElem?_cons_zero]
  dsimp only
  rw [hdescribe]
  dsimp only
  rw [List.set_cons_zero]
  have hlen : 0 + 1 + ports.length ≤ (s :: List.replicate ports.length PortStatus.fresh).length := by
    rw [List.length_cons, List.length_replicate]
    omega
  rcases visitPorts_frame files mUsbDataEnabled hlen with
    hwrong | ⟨status, v, hok, -, hframe⟩
  · exact Or.inl hwrong
  · have hs : v[0]? = some s := hframe 0 Nat.one_pos
    exact Or.inr ⟨status, v, hok, s, List.mem_of_getElem? hs, hmode⟩

end Loop

end UsbHal
