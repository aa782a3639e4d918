/-
**Queries for the ports** (`queryVersionHelper` of `usb/Usb.cpp`, and what it calls).

The vector of the states of the ports is filled in by three functions.  The first one is the loop over the
ports.  The other two write to the first element, whether there is one or not, and nobody looks at the
outcome of the first.

Main definitions:

* `UsbHal.SameReport` — reports that differ only in the order of the ports;
* `UsbHal.queryMoistureDetectionStatus`, `UsbHal.queryPowerTransferStatus` — the functions that write to the
  first element;
* `UsbHal.PortStatus.queryVersionHelper` — the whole query.

Main results:

* `UsbHal.port_discovery_independent_iff` — when what is reported does not depend on an order;
* `UsbHal.role_query_keeps_tag_iff` — when the roles are read from the active members;
* `UsbHal.port_queries_in_range_iff` — when no element is accessed that is not there.
-/

import MotoCommon.UsbPorts

set_option autoImplicit false

namespace UsbHal

/-! ### Orders -/

section Orders

variable {files : Files} {mUsbDataEnabled : Bool} {entries entries' : List Dirent}
  {order order' : List (String × Bool)}

/-- The same ports are reported, in any order, with the same status. -/
def SameReport :
    Except Fault (Status × List PortStatus) → Except Fault (Status × List PortStatus) → Prop
  | .ok (status, v), .ok (status', v') => status = status' ∧ v.Perm v'
  | .error fault, .error fault' => fault = fault'
  | _, _ => False

theorem SameReport.refl (result : Except Fault (Status × List PortStatus)) : SameReport result result := by
  cases result with
  | error fault => rfl
  | ok result => exact ⟨rfl, List.Perm.refl _⟩

theorem Iterates.length_eq (h : Iterates order (portNames entries)) :
    order.length = (portNames entries).entries.length := by
  rw [List.Perm.length_eq h, List.length_map]

/-- The vector has an element for each port that is visited. -/
theorem Iterates.le_length_resize (h : Iterates order (portNames entries)) (v : List PortStatus) :
    0 + order.length ≤ (resize (portNames entries).entries.length v).length := by
  rw [h.length_eq, length_resize, Nat.zero_add]

theorem Iterates.mem_iff (h : Iterates order (portNames entries)) (hnames : NamesBegin entries)
    (port : String × Bool) : port ∈ order ↔ HasPort entries port := by
  obtain ⟨name, connected⟩ := port
  rw [← lookup_portNames_iff hnames, ← UMap.mem_entries_iff, List.Perm.mem_iff h, List.mem_map]
  constructor
  · rintro ⟨⟨name', connected'⟩, hmem, heq⟩
    cases heq
    exact hmem
  · intro hmem
    exact ⟨⟨name, connected⟩, hmem, rfl⟩

theorem Iterates.nodup (h : Iterates order (portNames entries)) : (order.map Prod.fst).Nodup := by
  rw [(List.Perm.map Prod.fst h).nodup_iff, List.map_map]
  exact (portNames entries).keys_nodup

/-- Two orders, for two orders of the directory. -/
theorem Iterates.perm (h : Iterates order (portNames entries)) (h' : Iterates order' (portNames entries'))
    (hperm : entries'.Perm entries) : order'.Perm order := by
  have hentries : (portNames entries').entries.Perm (portNames entries).entries := by
    refine List.lookup_ext (portNames entries').nodupKeys (portNames entries).nodupKeys ?_
    intro port connected
    exact iff_of_eq (congrArg (connected ∈ ·) (lookup_portNames_perm hperm port))
  exact (List.Perm.trans h' (hentries.map _)).trans (List.Perm.symm h)

/-- With at most one port there is only one order. -/
theorem Iterates.eq_of_single (h : Iterates order (portNames entries)) (hnames : NamesBegin entries)
    (hsingle : ∀ port port', HasPort entries port → HasPort entries port' → port.1 = port'.1)
    (hperm : order'.Perm order) : order' = order := by
  match order with
  | [] => exact hperm.eq_nil
  | [port] => exact List.perm_singleton.1 hperm
  | port :: port' :: ports =>
      have heq := hsingle port port' ((h.mem_iff hnames port).1 (by simp))
        ((h.mem_iff hnames port').1 (by simp))
      have hnodup := h.nodup
      simp [heq] at hnodup

/-- `getPortStatusHelper` with a new vector. -/
theorem getPortStatusHelper_eq (h : Iterates order (portNames entries)) :
    getPortStatusHelper files mUsbDataEnabled (some entries) order [] =
      visitPorts files mUsbDataEnabled 0 order (List.replicate order.length .fresh) := by
  rw [h.length_eq]
  simp [getPortStatusHelper, getTypeCPortNamesHelper, resize]

theorem sameReport_of_perm (hperm : order'.Perm order) (hfails : ∀ p ∈ order, ¬ QueryFails files p) :
    SameReport
      (visitPorts files mUsbDataEnabled 0 order (List.replicate order.length .fresh))
      (visitPorts files mUsbDataEnabled 0 order' (List.replicate order'.length .fresh)) := by
  have hfails' : ∀ p ∈ order', ¬ QueryFails files p := fun p hp => hfails p (hperm.mem_iff.1 hp)
  by_cases hmisread : ∃ p ∈ order, Misread files p
  · -- both runs end at a port whose roles are misread
    have hreaches : ∀ ports : List (String × Bool), (∀ p ∈ ports, ¬ QueryFails files p) →
        (∃ p ∈ ports, Misread files p) →
        visitPorts files mUsbDataEnabled 0 ports (List.replicate ports.length .fresh) =
          .error .wrongTag := by
      rintro ports hports ⟨p, hp, hmisread⟩
      obtain ⟨before, after, rfl⟩ := List.append_of_mem hp
      rw [visitPorts_wrongTag_iff (by simp)]
      exact ⟨before, p, after, rfl, fun q hq => hports q (List.mem_append_left _ hq), hmisread⟩
    obtain ⟨p, hp, hmisread⟩ := hmisread
    rw [hreaches order hfails ⟨p, hp, hmisread⟩,
      hreaches order' hfails' ⟨p, hperm.mem_iff.2 hp, hmisread⟩]
    rfl
  · have hdone : ∀ p ∈ order, ¬ QueryFails files p ∧ ¬ Misread files p :=
      fun p hp => ⟨hfails p hp, fun h => hmisread ⟨p, hp, h⟩⟩
    have hdone' : ∀ p ∈ order', ¬ QueryFails files p ∧ ¬ Misread files p :=
      fun p hp => hdone p (hperm.mem_iff.1 hp)
    have hvisit := visitPorts_done mUsbDataEnabled hdone []
    have hvisit' := visitPorts_done mUsbDataEnabled hdone' []
    rw [List.length_nil, List.nil_append, List.nil_append] at hvisit hvisit'
    rw [hvisit, hvisit']
    exact ⟨rfl, (hperm.map _).symm⟩

/-- If a query fails for the first port, the report is another one than with another port first. -/
theorem not_sameReport {port port' : String × Bool} {ports ports' : List (String × Bool)}
    (hlen : ports.length = ports'.length) (hfails : QueryFails files port) (hne : port.1 ≠ port'.1) :
    ¬ SameReport
      (visitPorts files mUsbDataEnabled 0 (port :: ports)
        (List.replicate (port :: ports).length .fresh))
      (visitPorts files mUsbDataEnabled 0 (port' :: ports')
        (List.replicate (port' :: ports').length .fresh)) := by
  obtain ⟨s, hname, hmode, hvisit⟩ := visitPorts_fails mUsbDataEnabled hfails ports
  rw [hvisit]
  by_cases hfails' : QueryFails files port'
  · obtain ⟨s', hname', -, hvisit'⟩ :=
      visitPorts_fails mUsbDataEnabled hfails' ports'
    rw [hvisit']
    rintro ⟨-, hperm⟩
    rw [hlen] at hperm
    have hs : [s].Perm [s'] := (List.perm_append_right_iff _).1 hperm
    rw [List.singleton_perm_singleton.1 hs] at hname
    exact hne (hname.symm.trans hname')
  by_cases hmisread' : Misread files port'
  · have hwrong : visitPorts files mUsbDataEnabled 0 (port' :: ports')
        (List.replicate (port' :: ports').length .fresh) = .error .wrongTag := by
      rw [visitPorts_wrongTag_iff (by simp), reachesMisread_cons]
      exact Or.inl hmisread'
    rw [hwrong]
    exact id
  rcases visitPorts_first mUsbDataEnabled hfails' hmisread' ports' with
    hwrong | ⟨status, v, hok, s', hs', hmode'⟩
  · rw [hwrong]
    exact id
  · -- the element of the second run that says it is described is in no place of the first
    rw [hok]
    rintro ⟨-, hperm⟩
    rcases List.mem_cons.1 (hperm.mem_iff.2 hs') with rfl | hfresh
    · rw [hmode] at hmode'
      cases hmode'
    · rw [List.eq_of_mem_replicate hfresh] at hmode'
      cases hmode'

/-- Any port may come first. -/
theorem exists_iterates_cons (hnames : NamesBegin entries) {port : String × Bool}
    (hport : HasPort entries port) : ∃ ports, Iterates (port :: ports) (portNames entries) := by
  have hiter : Iterates ((portNames entries).entries.map fun e => (e.1, e.2)) (portNames entries) :=
    List.Perm.refl _
  exact ⟨_, (List.perm_cons_erase ((hiter.mem_iff hnames port).2 hport)).symm⟩

/-- If a query fails for one of two ports, two orders lead to different reports. -/
theorem exists_not_sameReport (hnames : NamesBegin entries) {port port' : String × Bool}
    (hport : HasPort entries port) (hport' : HasPort entries port') (hfails : QueryFails files port)
    (hne : port.1 ≠ port'.1) (mUsbDataEnabled : Bool) :
    ∃ order order', Iterates order (portNames entries) ∧ Iterates order' (portNames entries) ∧
      ¬ SameReport (getPortStatusHelper files mUsbDataEnabled (some entries) order [])
        (getPortStatusHelper files mUsbDataEnabled (some entries) order' []) := by
  obtain ⟨ports, hiter⟩ := exists_iterates_cons hnames hport
  obtain ⟨ports', hiter'⟩ := exists_iterates_cons hnames hport'
  refine ⟨_, _, hiter, hiter', ?_⟩
  rw [getPortStatusHelper_eq hiter, getPortStatusHelper_eq hiter']
  refine not_sameReport ?_ hfails hne
  have hlen := hiter.length_eq
  have hlen' := hiter'.length_eq
  rw [List.length_cons] at hlen hlen'
  omega

/-- **The ports that are found, and what is reported about them.**  The map of the ports never depends on the
order of the directory.  The report does not depend on any order if and only if no query fails for a port,
or there is at most one: the first query that fails ends the loop, and the ports that come later in the
iteration of the map are not named. -/
theorem port_discovery_independent_iff (hnames : NamesBegin entries) (files : Files)
    (mUsbDataEnabled : Bool) :
    (∀ entries' : List Dirent, entries'.Perm entries →
      (getTypeCPortNamesHelper (some entries')).1 = .SUCCESS ∧
      ∀ port, (port ∈ (getTypeCPortNamesHelper (some entries')).2 ↔
          Listed entries port ∨ Partnered entries port) ∧
        ((getTypeCPortNamesHelper (some entries')).2.lookup port = some true ↔
          Partnered entries port)) ∧
    ((∀ (entries' : List Dirent) (order order' : List (String × Bool)), entries'.Perm entries →
      Iterates order (getTypeCPortNamesHelper (some entries)).2 →
      Iterates order' (getTypeCPortNamesHelper (some entries')).2 →
        SameReport (getPortStatusHelper files mUsbDataEnabled (some entries) order [])
          (getPortStatusHelper files mUsbDataEnabled (some entries') order' [])) ↔
      (∀ port, HasPort entries port → ¬ QueryFails files port) ∨
        ∀ port port', HasPort entries port → HasPort entries port' → port.1 = port'.1) := by
  refine ⟨?_, ?_, ?_⟩
  · intro entries' hperm
    refine ⟨rfl, fun port => ?_⟩
    have hlookup := lookup_portNames_perm hperm port
    constructor
    · rw [← mem_portNames_iff hnames, ← AList.lookup_isSome, ← AList.lookup_isSome, ← hlookup]
      rfl
    · rw [← lookup_portNames_true_iff hnames, ← hlookup]
      rfl
  · intro hsame
    by_contra hcond
    simp only [not_or, not_forall, not_not] at hcond
    obtain ⟨⟨port, hport, hfails⟩, p, p', hp, hp', hne⟩ := hcond
    -- one of two ports with different names is another one than the port that fails
    obtain ⟨port', hport', hother⟩ : ∃ port', HasPort entries port' ∧ port.1 ≠ port'.1 := by
      by_cases h : port.1 = p.1
      · exact ⟨p', hp', fun h' => hne (h.symm.trans h')⟩
      · exact ⟨p, hp, h⟩
    obtain ⟨order, order', hiter, hiter', hdiffer⟩ :=
      exists_not_sameReport hnames hport hport' hfails hother mUsbDataEnabled
    exact hdiffer (hsame entries order order' (List.Perm.refl _) hiter hiter')
  · intro hcond entries' order order' hperm hiter hiter'
    have horders := Iterates.perm hiter hiter' hperm
    rw [getPortStatusHelper_eq hiter, getPortStatusHelper_eq hiter']
    rcases hcond with hfails | hsingle
    · exact sameReport_of_perm horders fun p hp => hfails p ((Iterates.mem_iff hiter hnames p).1 hp)
    · rw [Iterates.eq_of_single hiter hnames hsingle horders]
      exact SameReport.refl _

/-- The names that are reported. -/
def reportedNames : Except Fault (Status × List PortStatus) → List String
  | .ok (_, v) => v.map (·.portName)
  | .error _ => []

theorem SameReport.names {result result' : Except Fault (Status × List PortStatus)}
    (h : SameReport result result') : (reportedNames result).Perm (reportedNames result') := by
  match result, result', h with
  | .ok (_, _), .ok (_, _), h => exact h.2.map _
  | .error _, .error _, _ => exact List.Perm.refl _

/-- A connected port, and another one. -/
def twoPorts : List Dirent := [⟨"port0", true⟩, ⟨"port0-partner", true⟩, ⟨"port1", true⟩]

/-- The same directory in another order. -/
def twoPorts' : List Dirent := [⟨"port1", true⟩, ⟨"port0", true⟩, ⟨"port0-partner", true⟩]

theorem twoPorts_names : NamesBegin twoPorts := by decide +kernel

theorem twoPorts_iterates : Iterates [("port1", false), ("port0", true)] (portNames twoPorts) := by
  decide +kernel

/-- Nodes of a connected port. -/
def sinkDevice : Files := fun path =>
  if path = "/sys/class/typec/port0/power_role" then some "source [sink]\n"
  else if path = "/sys/class/typec/port0/data_role" then some "host [device]\n"
  else if path = "/sys/class/typec/port0-partner/accessory_mode" then some "none\n"
  else none

theorem sinkDevice_reads (port : String × Bool) (h : HasPort twoPorts port) :
    ¬ QueryFails sinkDevice port := by
  have hmem := (twoPorts_iterates.mem_iff twoPorts_names port).2 h
  unfold QueryFails
  rw [← getCurrentRoleHelper_fails_iff, ← getCurrentRoleHelper_fails_iff,
    ← getCurrentRoleHelper_fails_iff]
  rcases List.mem_pair.1 hmem with rfl | rfl
  · rintro (h | ⟨-, h | ⟨-, h⟩⟩) <;> exact h (by decide +kernel)
  · rintro (h | ⟨-, h | ⟨-, h⟩⟩) <;> exact h (by decide +kernel)

theorem port_discovery_two_ports :
    NamesBegin twoPorts ∧ ∀ (entries' : List Dirent) (order order' : List (String × Bool)),
      entries'.Perm twoPorts → Iterates order (getTypeCPortNamesHelper (some twoPorts)).2 →
      Iterates order' (getTypeCPortNamesHelper (some entries')).2 →
        SameReport (getPortStatusHelper sinkDevice true (some twoPorts) order [])
          (getPortStatusHelper sinkDevice true (some entries') order' []) :=
  ⟨twoPorts_names,
    (port_discovery_independent_iff twoPorts_names sinkDevice true).2.2 (Or.inl sinkDevice_reads)⟩

/-- Two orders of one directory, each map iterated from the port that was added last.  The nodes of the
connected port cannot be read, and one of the reports does not name the other port. -/
theorem port_discovery_depends_on_order :
    NamesBegin twoPorts ∧ twoPorts'.Perm twoPorts ∧
      Iterates [("port1", false), ("port0", true)] (getTypeCPortNamesHelper (some twoPorts)).2 ∧
      Iterates [("port0", true), ("port1", false)] (getTypeCPortNamesHelper (some twoPorts')).2 ∧
      reportedNames (getPortStatusHelper (fun _ => none) true (some twoPorts)
        [("port1", false), ("port0", true)] []) = ["port1", "port0"] ∧
      reportedNames (getPortStatusHelper (fun _ => none) true (some twoPorts')
        [("port0", true), ("port1", false)] []) = ["port0", ""] ∧
      ¬ SameReport
        (getPortStatusHelper (fun _ => none) true (some twoPorts)
          [("port1", false), ("port0", true)] [])
        (getPortStatusHelper (fun _ => none) true (some twoPorts')
          [("port0", true), ("port1", false)] []) := by
  refine ⟨twoPorts_names, by decide +kernel, twoPorts_iterates, by decide +kernel,
    by decide +kernel, by decide +kernel, fun h => ?_⟩
  have hnames := h.names
  revert hnames
  decide +kernel

end Orders

/-! ### Tags -/

/-- **Roles are read from the active member** exactly if the words in the nodes are admitted by the tags that
are asked for.  In `getPortStatusHelper` a wrong member is read if this is not so for a port, and no query
has failed before. -/
theorem role_query_keeps_tag_iff (files : Files) :
    (∀ (portName : String) (connected : Bool) (asked : PortRole),
      KeepsTag asked (getCurrentRoleHelper files portName connected asked) ↔
        RoleFits files portName connected asked) ∧
    ∀ (mUsbDataEnabled : Bool) (typec : Option (List Dirent)) (order : List (String × Bool))
      (currentPortStatus : List PortStatus), Iterates order (getTypeCPortNamesHelper typec).2 →
      (getPortStatusHelper files mUsbDataEnabled typec order currentPortStatus = .error .wrongTag ↔
        ReachesMisread files order) := by
  refine ⟨getCurrentRoleHelper_getTag_iff files, ?_⟩
  intro mUsbDataEnabled typec order v hiter
  cases typec with
  | none =>
      have horder : order = [] := List.Perm.eq_nil hiter
      rw [horder]
      simp [getPortStatusHelper, getTypeCPortNamesHelper, ReachesMisread]
  | some entries =>
      exact visitPorts_wrongTag_iff (Iterates.le_length_resize hiter v)

/-- Nodes of power roles: from one of them a data role is read, from the other a power role. -/
def hostPower : Files := fun path =>
  if path = "/sys/class/typec/port0/power_role" then some "host\n"
  else if path = "/sys/class/typec/port1/power_role" then some "source [sink]\n"
  else none

theorem hostPower_fits_port1 : RoleFits hostPower "port1" true (.powerRole .NONE) := by
  rw [← getCurrentRoleHelper_getTag_iff]
  unfold KeepsTag
  decide +kernel

/-- The node of one port has the word of a data role, that of the other a power role, which is read. -/
theorem role_query_keeps_tag_host :
    getCurrentRoleHelper hostPower "port1" true (.powerRole .NONE) = (.SUCCESS, .powerRole .SINK) ∧
      KeepsTag (.powerRole .NONE) (getCurrentRoleHelper hostPower "port1" true (.powerRole .NONE)) ∧
      Iterates [("port0", true)] (getTypeCPortNamesHelper (some [⟨"port0-partner", true⟩])).2 ∧
      ReachesMisread hostPower [("port0", true)] := by
  have hiter : Iterates [("port0", true)]
      (getTypeCPortNamesHelper (some [⟨"port0-partner", true⟩])).2 := by decide +kernel
  refine ⟨by decide +kernel, ((role_query_keeps_tag_iff hostPower).1 _ _ _).2 hostPower_fits_port1,
    hiter, ?_⟩
  exact ((role_query_keeps_tag_iff hostPower).2 true _ _ [] hiter).1 (by decide +kernel)

/-- The node of the power role says `host`: the query succeeds with a mode, and the power role is then read
from it. -/
theorem role_query_changes_tag :
    getCurrentRoleHelper hostPower "port0" true (.powerRole .NONE) = (.SUCCESS, .mode .DFP) ∧
      Iterates [("port0", true)] (getTypeCPortNamesHelper (some [⟨"port0-partner", true⟩])).2 ∧
      getPortStatusHelper hostPower true (some [⟨"port0-partner", true⟩]) [("port0", true)] [] =
        .error .wrongTag := by
  decide +kernel

/-! ### The first element -/

def kEnabledPath : String := "/sys/class/power_supply/usb/moisture_detection_enabled"

def kDetectedPath : String := "/sys/class/power_supply/usb/moisture_detected"

def USB_POWER_LIMIT_PATH : String :=
  "/sys/devices/platform/soc/c440000.qcom,spmi/spmi-0/spmi0-02/" ++
    "c440000.qcom,spmi:qcom,pm7250b@2:qcom,usb-pdphy@1700/usbpd0/"

def SINK_LIMIT_ENABLE_PATH : String := USB_POWER_LIMIT_PATH ++ "usb_limit_sink_enable"

def queryMoistureDetectionStatus (files : Files) :
    List PortStatus → Except Fault (Status × List PortStatus)
  | [] => .error .outOfRange
  | s :: rest =>
      let s := { s with
        supportedContaminantProtectionModes := s.supportedContaminantProtectionModes ++ [.FORCE_DISABLE]
        contaminantProtectionStatus := .NONE
        contaminantDetectionStatus := .DISABLED
        supportsEnableContaminantPresenceDetection := true
        supportsEnableContaminantPresenceProtection := false }
      match files kEnabledPath with
      | none => .ok (.ERROR, s :: rest)
      | some enabled =>
          if Trim enabled = "1" then
            match files kDetectedPath with
            | none => .ok (.ERROR, s :: rest)
            | some status =>
                if Trim status = "1" then
                  .ok (.SUCCESS, { s with
                    contaminantDetectionStatus := .DETECTED
                    contaminantProtectionStatus := .FORCE_DISABLE } :: rest)
                else .ok (.SUCCESS, { s with contaminantDetectionStatus := .NOT_DETECTED } :: rest)
          else .ok (.SUCCESS, s :: rest)

def queryPowerTransferStatus (files : Files) (currentPortStatus : List PortStatus) :
    Except Fault (Status × List PortStatus) :=
  match files SINK_LIMIT_ENABLE_PATH with
  | none => .ok (.ERROR, currentPortStatus)
  | some enabled =>
      match currentPortStatus with
      | [] => .error .outOfRange
      | s :: rest =>
          .ok (.SUCCESS, { s with powerTransferLimited := decide (Trim enabled = "1") } :: rest)

/-- `queryVersionHelper`: what the callback is told.  The outcomes of the two functions that write to the
first element are not looked at. -/
def PortStatus.queryVersionHelper (files : Files) (disableMoisture : String) (mUsbDataEnabled : Bool)
    (typec : Option (List Dirent)) (order : List (String × Bool)) (currentPortStatus : List PortStatus) :
    Except Fault (Status × List PortStatus) := do
  let (status, currentPortStatus) ← getPortStatusHelper files mUsbDataEnabled typec order currentPortStatus
  let currentPortStatus ←
    if disableMoisture ≠ "true" then do
      let (_, v) ← queryMoistureDetectionStatus files currentPortStatus
      pure v
    else pure currentPortStatus
  let (_, currentPortStatus) ← queryPowerTransferStatus files currentPortStatus
  pure (status, currentPortStatus)

/-- A link is that of a port or of a partner. -/
theorem isLink_iff (ep : Dirent) :
    ep.isLink = true ↔ ∃ port, isPartnerOf port ep = true ∨ isPort port ep = true := by
  unfold isPartnerOf isPort
  cases ep.isLink with
  | false => simp
  | true => cases hasPartner ep.d_name <;> simp

/-- There is a port exactly if there is a link in the directory. -/
theorem portNames_ne_nil_iff (entries : List Dirent) :
    (portNames entries).entries ≠ [] ↔ ∃ ep ∈ entries, ep.isLink = true := by
  have hkey : ∀ port, ((portNames entries).lookup port).isSome = true ↔
      ∃ ep ∈ entries, isPartnerOf port ep = true ∨ isPort port ep = true := by
    intro port
    simp only [and_or_left, exists_or, ← List.any_eq_true, lookup_portNames]
    cases entries.any (isPartnerOf port) <;> cases entries.any (isPort port) <;> simp
  constructor
  · intro hne
    obtain ⟨⟨port, connected⟩, hmem⟩ := List.exists_mem_of_ne_nil _ hne
    rw [UMap.mem_entries_iff] at hmem
    obtain ⟨ep, hep, hport⟩ := (hkey port).1 (by rw [hmem]; rfl)
    exact ⟨ep, hep, (isLink_iff ep).2 ⟨port, hport⟩⟩
  · rintro ⟨ep, hep, hlink⟩ hnil
    obtain ⟨port, hport⟩ := (isLink_iff ep).1 hlink
    have hsome := (hkey port).2 ⟨ep, hep, hport⟩
    rw [AList.lookup, hnil] at hsome
    cases hsome

/-- The vector has an element after the loop: there is a port or, if the directory cannot be opened, there
was one before. -/
def HasElement (typec : Option (List Dirent)) (currentPortStatus : List PortStatus) : Prop :=
  match typec with
  | none => currentPortStatus ≠ []
  | some entries => ∃ ep ∈ entries, ep.isLink = true

theorem getPortStatusHelper_cases (files : Files) (mUsbDataEnabled : Bool) {typec : Option (List Dirent)}
    {order : List (String × Bool)} (v : List PortStatus)
    (hiter : Iterates order (getTypeCPortNamesHelper typec).2) :
    (getPortStatusHelper files mUsbDataEnabled typec order v = .error .wrongTag ∧ HasElement typec v) ∨
      ∃ status v', getPortStatusHelper files mUsbDataEnabled typec order v = .ok (status, v') ∧
        (v' ≠ [] ↔ HasElement typec v) := by
  cases typec with
  | none => exact Or.inr ⟨.ERROR, v, rfl, Iff.rfl⟩
  | some entries =>
      rcases visitPorts_frame files mUsbDataEnabled (Iterates.le_length_resize hiter v) with
        hwrong | ⟨status, v', hok, hlen', -⟩
      · refine Or.inl ⟨hwrong, (portNames_ne_nil_iff entries).1 ?_⟩
        -- with no port there is nothing to misread
        intro hnil
        have horder : order = [] := by
          rw [← List.length_eq_zero_iff, Iterates.length_eq hiter, hnil, List.length_nil]
        rw [horder] at hwrong
        cases hwrong
      · refine Or.inr ⟨status, v', hok, ?_⟩
        rw [length_resize] at hlen'
        rw [HasElement, ← portNames_ne_nil_iff, ← List.length_pos_iff, ← List.length_pos_iff, hlen']

theorem queryMoistureDetectionStatus_ok (files : Files) (s : PortStatus) (rest : List PortStatus) :
    ∃ status s', queryMoistureDetectionStatus files (s :: rest) = .ok (status, s' :: rest) := by
  unfold queryMoistureDetectionStatus
  dsimp only
  cases files kEnabledPath with
  | none => exact ⟨_, _, rfl⟩
  | some enabled =>
      dsimp only
      split
      · cases files kDetectedPath with
        | none => exact ⟨_, _, rfl⟩
        | some status =>
            dsimp only
            split <;> exact ⟨_, _, rfl⟩
      · exact ⟨_, _, rfl⟩

theorem queryPowerTransferStatus_ok (files : Files) (s : PortStatus) (rest : List PortStatus) :
    ∃ status s', queryPowerTransferStatus files (s :: rest) = .ok (status, s' :: rest) := by
  unfold queryPowerTransferStatus
  cases files SINK_LIMIT_ENABLE_PATH with
  | none => exact ⟨_, _, rfl⟩
  | some enabled => exact ⟨_, _, rfl⟩

/-- **No element is accessed that is not there** exactly if there is a port, or neither of the functions that
write to the first element gets to it. -/
theorem port_queries_in_range_iff (files : Files) (disableMoisture : String) (mUsbDataEnabled : Bool)
    (typec : Option (List Dirent)) (order : List (String × Bool)) (currentPortStatus : List PortStatus)
    (hiter : Iterates order (getTypeCPortNamesHelper typec).2) :
    PortStatus.queryVersionHelper files disableMoisture mUsbDataEnabled typec order currentPortStatus ≠
        .error .outOfRange ↔
      HasElement typec currentPortStatus ∨
        disableMoisture = "true" ∧ files SINK_LIMIT_ENABLE_PATH = none := by
  unfold PortStatus.queryVersionHelper
  rcases getPortStatusHelper_cases files mUsbDataEnabled currentPortStatus hiter with
    ⟨hwrong, helement⟩ | ⟨status, v, hok, helement⟩
  · rw [hwrong]
    exact iff_of_true (by simp [bind, Except.bind]) (Or.inl helement)
  rw [hok, ← helement]
  cases v with
  | nil =>
      by_cases hmoisture : disableMoisture = "true"
      · cases hlimit : files SINK_LIMIT_ENABLE_PATH with
        | none => simp [bind, Except.bind, pure, Except.pure, hmoisture, queryPowerTransferStatus, hlimit]
        | some enabled =>
            simp [bind, Except.bind, pure, Except.pure, hmoisture, queryPowerTransferStatus, hlimit]
      · simp [bind, Except.bind, hmoisture, queryMoistureDetectionStatus]
  | cons s rest =>
      refine iff_of_true ?_ (Or.inl (List.cons_ne_nil s rest))
      by_cases hmoisture : disableMoisture = "true"
      · obtain ⟨status', s', hlimit⟩ := queryPowerTransferStatus_ok files s rest
        simp [bind, Except.bind, pure, Except.pure, hmoisture, hlimit]
      · obtain ⟨status', s', hdetect⟩ := queryMoistureDetectionStatus_ok files s rest
        obtain ⟨status'', s'', hlimit⟩ := queryPowerTransferStatus_ok files s' rest
        simp [bind, Except.bind, pure, Except.pure, hmoisture, hdetect, hlimit]

theorem port_queries_in_range_one_port :
    PortStatus.queryVersionHelper (fun _ => some "1\n") "false" true (some [⟨"port0", true⟩])
      [("port0", false)] [] ≠ .error .outOfRange :=
  (port_queries_in_range_iff _ "false" true (some [⟨"port0", true⟩]) [("port0", false)] []
    (by decide +kernel)).2 (Or.inl ⟨⟨"port0", true⟩, List.mem_cons_self, rfl⟩)

/-- A device without ports, on which only the limit can be read. -/
theorem port_queries_out_of_range :
    PortStatus.queryVersionHelper
        (fun path => if path = SINK_LIMIT_ENABLE_PATH then some "0\n" else none) "true" true none [] [] =
      .error .outOfRange ∧
    PortStatus.queryVersionHelper (fun _ => none) "false" true (some []) [] [] =
      .error .outOfRange := by
  decide +kernel

end UsbHal
