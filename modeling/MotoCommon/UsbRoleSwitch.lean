/-
**Switching the role of a port** (`switchRole`, `switchMode`, `switchToDrp` and `uevent_event` of
`usb/Usb.cpp`).

A role is switched by writing a word to a node of the port.  For a power role or a data role the node is
read back, and the switch has succeeded if it shows that word.  For a mode the service waits until the
thread for events has seen that a partner was added; if that does not happen in time, or `fputs` has failed, it
tries to set the port back to both modes.  The thread for events does the same for ports without a partner,
but only if it can take `mRoleSwitchLock`.  Nobody looks at whether `fclose` has succeeded.

The programs are those of `MotoCommon/UsbThreads.lean` with the nodes put in: what is written to them and
read from them, the arrivals of partners, and what the callback is told about a switch are recorded in a
history.  The other calls are taken from there.

Main definitions:

* `UsbHal.appendRoleNodeHelper`, `UsbHal.convertRoletoString` — the node and the word for a role;
* `UsbHal.Event`, `UsbHal.Nodes` — the history, and the state with it;
* `UsbHal.RoleRequest.switchRole`, `UsbHal.switchToDrp`, `UsbHal.nodeText` — the programs;
* `UsbHal.Justified` — what has happened just before an outcome is reported.

Main results:

* `UsbHal.RoleRequest.switchRole_right` — **one call** keeps to the protocol of the mutexes;
* `UsbHal.role_reports_justified` — **every interleaving**: each outcome that is reported is that of the
  last things done to the nodes;
* `UsbHal.role_switch_refines_threads` — every interleaving is one of the programs with mutexes alone.
-/

import Mathlib.Data.Int.Notation
import MotoCommon.PthreadLogic
import MotoCommon.PthreadSim
import MotoCommon.UsbRoles

set_option autoImplicit false

namespace UsbHal

open Pthread

/-! ### Nodes and words -/

def appendRoleNodeHelper (portName : String) (tag : PortRoleTag) : String :=
  let node := "/sys/class/typec/" ++ portName
  match tag with
  | .dataRole => node ++ "/data_role"
  | .powerRole => node ++ "/power_role"
  | .mode => node ++ "/port_type"
  | .unknown => ""

/-- `convertRoletoString`.  There is no word for the other modes. -/
def convertRoletoString : PortRole → String
  | .powerRole .SOURCE => "source"
  | .powerRole .SINK => "sink"
  | .dataRole .HOST => "host"
  | .dataRole .DEVICE => "device"
  | .mode .UFP => "sink"
  | .mode .DFP => "source"
  | _ => "none"

/-- What comes of opening a node, writing a word to it and closing it: it cannot be opened, `fputs` fails, or
`fputs` takes the word.  The word only reaches the node with `fclose`, which may fail as well; the code does
not look at that. -/
inductive WriteResult where
  | notOpened
  | failed
  | taken (closed : Bool)
  deriving DecidableEq, Repr

/-- What is left once the node is open: `fputs` fails, or `fclose` follows. -/
def WriteResult.ofPut : Option Bool → WriteResult
  | none => .failed
  | some closed => .taken closed

def WriteResult.isTaken : WriteResult → Bool
  | taken _ => true
  | _ => false

/-- What is recorded.  The node is that of `appendRoleNodeHelper`. -/
inductive Event where
  | write (portName : String) (tag : PortRoleTag) (value : String) (result : WriteResult)
  | read (portName : String) (tag : PortRoleTag) (content : Option String)
  | partner
  | report (portName : String) (role : PortRole) (status : Status) (transactionId : ℤ)
  deriving DecidableEq, Repr

namespace Event

/-- Everything but the arrival of a partner. -/
def isRole : Event → Bool
  | partner => false
  | _ => true

/-- A mode is written that is not both; the node could be opened at least. -/
def startsSwitch : Event → Bool
  | write _ .mode value result => decide (value ≠ "dual" ∧ result ≠ .notOpened)
  | _ => false

end Event

/-- The events about roles, the last one first. -/
def roleEvents (log : List Event) : List Event := log.filter Event.isRole

/-- A partner has arrived since a mode was last written that is not both. -/
def partnerSince : List Event → Bool
  | [] => false
  | .partner :: _ => true
  | e :: log => if e.startsSwitch then false else partnerSince log

/-! ### The programs -/

/-- What the threads share, with the history, the last event first. -/
structure Nodes (ω : Type) where
  usb : Usb ω := {}
  log : List Event := []

/-- The arguments of `switchRole`. -/
structure RoleRequest where
  portName : String
  role : PortRole
  transactionId : ℤ
  deriving DecidableEq, Repr

/-- The programs.  The label `wait_again` is an entry for each request. -/
abbrev NodeProgram (ω : Type) := Code ω Mutex (Entry ⊕ RoleRequest) (Nodes ω)

variable {ω : Type}

/-- An event is recorded. -/
def Nodes.record (e : Event) (s : Nodes ω) : Nodes ω := { s with log := e :: s.log }

/-- A program that has nothing to do with the nodes. -/
def withNodes (program : Program ω) : NodeProgram ω :=
  program.over Nodes.usb (fun usb s => { s with usb := usb }) Sum.inl

/-- `switchToDrp`.  Nobody looks at the outcome. -/
def switchToDrp (portName : String) (next : NodeProgram ω) : NodeProgram ω :=
  .choose fun result : WriteResult => .act (Nodes.record (.write portName .mode "dual" result)) fun _ => next

namespace RoleRequest

variable (req : RoleRequest)

/-- The word that is written. -/
def value : String := convertRoletoString req.role

/-- The end of `switchRole`: the callback, if there is one, is told about the outcome. -/
def reportRoleSwitch (roleSwitch : Bool) : NodeProgram ω :=
  .lock .mLock <|
    .act (fun s =>
      if s.usb.mCallback then
        s.record (.report req.portName req.role (if roleSwitch then .SUCCESS else .ERROR) req.transactionId)
      else s) fun _ =>
    .unlock .mLock <| .unlock .mRoleSwitchLock <| .goto (.inl .binder)

/-- The end of `switchMode`. -/
def finishMode (roleSwitch : Bool) : NodeProgram ω :=
  if roleSwitch then req.reportRoleSwitch true
  else switchToDrp req.portName (req.reportRoleSwitch false)

def switchMode : NodeProgram ω :=
  .choose fun opened : Bool =>
    if opened then
      .lock .mPartnerLock <|
      .act (fun s => { s with usb := { s.usb with mPartnerUp := false } }) fun _ =>
      .choose fun put : Option Bool =>
      .act (Nodes.record (.write req.portName .mode req.value (.ofPut put))) fun _ =>
      if put.isSome then .goto (.inr req) else .unlock .mPartnerLock (req.finishMode false)
    else
      .act (Nodes.record (.write req.portName .mode req.value .notOpened)) fun _ => req.finishMode false

/-- What follows the wait for a partner. -/
def afterWait (timedOut : Bool) : NodeProgram ω :=
  if timedOut then .unlock .mPartnerLock (req.finishMode false)
  else
    .act id fun s =>
      if s.usb.mPartnerUp then .unlock .mPartnerLock (req.finishMode true) else .goto (.inr req)

/-- The label `wait_again`. -/
def waitAgain : NodeProgram ω := .condwait .mPartnerLock req.afterWait

/-- The part of `switchRole` for a power role or a data role. -/
def switchAndReadBack : NodeProgram ω :=
  .choose fun result : WriteResult =>
  .act (Nodes.record (.write req.portName req.role.getTag req.value result)) fun _ =>
  if result.isTaken then
    .choose fun content : Option String =>
    .act (Nodes.record (.read req.portName req.role.getTag content)) fun _ =>
    req.reportRoleSwitch (decide (content.map (fun text => extractRole (Trim text)) = some req.value))
  else req.reportRoleSwitch false

def switchRole : NodeProgram ω :=
  if appendRoleNodeHelper req.portName req.role.getTag = "" then .goto (.inl .binder)
  else
    .lock .mRoleSwitchLock <|
      if req.role.getTag = .mode then req.switchMode else req.switchAndReadBack

end RoleRequest

/-- The loop over the ports that were reported.  Of each port it is known whether its partner's directory
can be opened. -/
def switchPorts : List (String × Bool) → NodeProgram ω → NodeProgram ω
  | [], next => next
  | (portName, hasPartner) :: ports, next =>
      if hasPartner then switchPorts ports next else switchToDrp portName (switchPorts ports next)

/-- `uevent_event`, for a message with these fields. -/
def nodeEvent : List String → NodeProgram ω → NodeProgram ω
  | [], next => next
  | field :: fields, next =>
      if partnerAdded field then
        .lock .mPartnerLock <|
        .act (fun s => { s.record .partner with usb := { s.usb with mPartnerUp := true } }) fun _ =>
        .unlock .mPartnerLock (nodeEvent fields next)
      else if portsChanged field then
        .lock .mLock <| .act id fun _ => .unlock .mLock <|
        .trylock .mRoleSwitchLock fun taken =>
          if taken then
            .act id fun _ => .choose fun ports : List (String × Bool) =>
              switchPorts ports (.unlock .mRoleSwitchLock next)
          else next
      else nodeEvent fields next

/-- The messages of one return of `epoll_wait`. -/
def nodeEvents : List (List String) → NodeProgram ω
  | [] => .goto (.inl .loop)
  | message :: messages => nodeEvent message (nodeEvents messages)

/-- The loop of `work`. -/
def nodeLoop : NodeProgram ω :=
  .act id fun s =>
    if s.usb.destroyThread then .halt
    else
      .choose fun result : Epoll =>
        match result with
        | .interrupted => .goto (.inl .loop)
        | .failed => .halt
        | .events messages => nodeEvents messages

/-- The calls: a switch of a role, or one of the others. -/
inductive NodeCall where
  | switchRole (req : RoleRequest)
  | other (call : { call : Call // ∀ tag, call ≠ .switchRole tag })

def NodeCall.program : NodeCall → NodeProgram ω
  | switchRole req => req.switchRole
  | other call => withNodes call.1.program

/-- The program text. -/
def nodeText : Entry ⊕ RoleRequest → NodeProgram ω
  | .inl .binder => .choose fun call : NodeCall => call.program
  | .inl .wait_again => withNodes waitAgain
  | .inl .work => withNodes work
  | .inl .loop => nodeLoop
  | .inr req => req.waitAgain

/-- `sighandler`. -/
def nodeHandler (s : Nodes ω) : Option (Nodes ω) :=
  (sighandler s.usb).map fun usb => { s with usb := usb }

/-- At first nothing has been recorded. -/
def nodeInit (ι ω : Type) : Config ι ω Mutex (Entry ⊕ RoleRequest) (Nodes ω) where
  state := {}
  threads
    | .inl _ => ⟨[], .goto (.inl .binder)⟩
    | .inr _ => ⟨[], .free⟩

/-! ### What a report is about -/

/-- What was done just before the outcome of a switch is reported.  Of the events about roles these are the
last ones, so that no other thread of the service has written or read a node of a role in between. -/
inductive Justified (portName : String) (role : PortRole) : Status → List Event → Prop
  /-- The mode was taken for the node, and then partners arrived. -/
  | partnerUp {partners earlier : List Event} {closed : Bool} : role.getTag = .mode → partners ≠ [] →
      (∀ e ∈ partners, e = .partner) →
      Justified portName role .SUCCESS
        (partners ++ .write portName .mode (convertRoletoString role) (.taken closed) :: earlier)
  /-- After the mode, or an attempt to write it, came the attempt to set the port back to both modes. -/
  | setBack {before : List Event} {result result' : WriteResult} : role.getTag = .mode →
      [.write portName .mode "dual" result', .write portName .mode (convertRoletoString role) result] <+:
        roleEvents before →
      Justified portName role .ERROR before
  /-- The word was taken for the node, and then read back. -/
  | readBack {before : List Event} {content : String} {closed : Bool} : role.getTag ≠ .mode →
      [.read portName role.getTag (some content),
        .write portName role.getTag (convertRoletoString role) (.taken closed)] <+: roleEvents before →
      extractRole (Trim content) = convertRoletoString role →
      Justified portName role .SUCCESS before
  /-- The word was taken for the node, and then another one was read, or none. -/
  | otherRead {before : List Event} {content : Option String} {closed : Bool} : role.getTag ≠ .mode →
      [.read portName role.getTag content,
        .write portName role.getTag (convertRoletoString role) (.taken closed)] <+: roleEvents before →
      (∀ text, content = some text → extractRole (Trim text) ≠ convertRoletoString role) →
      Justified portName role .ERROR before
  /-- The word was not taken. -/
  | notWritten {before : List Event} {result : WriteResult} : role.getTag ≠ .mode →
      [.write portName role.getTag (convertRoletoString role) result] <+: roleEvents before →
      result.isTaken = false → Justified portName role .ERROR before

/-- Every report in a history is about what was done just before it. -/
def AllJustified (log : List Event) : Prop :=
  ∀ later before portName role status transactionId,
    log = later ++ .report portName role status transactionId :: before →
      Justified portName role status before

theorem AllJustified.nil : AllJustified [] := by
  intro later before portName role status transactionId h
  exact absurd h.symm (by simp)

theorem AllJustified.cons {e : Event} {log : List Event} (hlog : AllJustified log)
    (he : ∀ portName role status transactionId, e = .report portName role status transactionId →
      Justified portName role status log) : AllJustified (e :: log) := by
  intro later before portName role status transactionId h
  cases later with
  | nil =>
      obtain ⟨rfl, rfl⟩ := List.cons.inj h
      exact he portName role status transactionId rfl
  | cons e' later =>
      obtain ⟨-, hrest⟩ := List.cons.inj h
      exact hlog later before portName role status transactionId hrest

/-! ### Histories -/

section Histories

variable {log later : List Event} {e : Event}

/-- Where no event about roles was added, partners arrived. -/
theorem eq_partner_of_roleEvents (h : roleEvents (later ++ log) = roleEvents log) :
    ∀ e ∈ later, e = .partner := by
  have hnone : roleEvents later = [] := by
    unfold roleEvents at h ⊢
    rw [List.filter_append] at h
    exact List.append_left_eq_self.1 h
  intro e he
  have hrole := List.filter_eq_nil_iff.1 hnone e he
  cases e with
  | partner => rfl
  | _ => exact absurd rfl hrole

end Histories

/-! ### The protocol -/

/-- `mRoleSwitchLock` protects the events about roles.  `mPartnerLock` protects the flag and the arrival of
partners: the flag is set only if one has arrived since a mode was last written. -/
def roleProtocol : Protocol Mutex (Entry ⊕ RoleRequest) (Nodes ω) where
  same
    | .mLock => fun _ _ => True
    | .mRoleSwitchLock => fun s s' => roleEvents s'.log = roleEvents s.log
    | .mPartnerLock => fun s s' =>
        s'.usb.mPartnerUp = s.usb.mPartnerUp ∧ partnerSince s'.log = partnerSince s.log
  grows s s' := s.log <:+ s'.log
  inv
    | .mPartnerLock => fun s => s.usb.mPartnerUp = true → partnerSince s.log = true
    | _ => fun _ => True
  safe s := AllJustified s.log
  entry
    | .inl .wait_again => fun _ _ => False
    | .inl _ => fun held _ => held = []
    | .inr req => fun held s =>
        held = [.mPartnerLock, .mRoleSwitchLock] ∧ req.role.getTag = .mode ∧
          (∃ closed, [.write req.portName .mode req.value (.taken closed)] <+: roleEvents s.log) ∧
          (s.usb.mPartnerUp = true → partnerSince s.log = true)

section Protocol

variable {held : List Mutex} {s s' : Nodes ω}

/-- What justifies a report stays true under `mRoleSwitchLock`. -/
theorem Justified.rely {portName : String} {role : PortRole} {status : Status}
    (h : Justified portName role status s.log) (hmem : .mRoleSwitchLock ∈ held)
    (hs : roleProtocol.Rely held s s') : Justified portName role status s'.log := by
  have hrole : roleEvents s'.log = roleEvents s.log := hs.same .mRoleSwitchLock hmem
  obtain ⟨later, hlater⟩ : s.log <:+ s'.log := hs.grows
  generalize hlog : s.log = log at h
  cases h with
  | @partnerUp partners earlier _ hmode hne hall =>
      -- what was added are partners
      rw [← hlater] at hrole ⊢
      have hadded := eq_partner_of_roleEvents hrole
      rw [hlog, ← List.append_assoc]
      refine .partnerUp hmode (List.append_ne_nil_of_right_ne_nil _ hne) fun e he => ?_
      exact (List.mem_append.1 he).elim (hadded e) (hall e)
  | setBack hmode hlast =>
      rw [← hlog, ← hrole] at hlast
      exact .setBack hmode hlast
  | readBack hmode hlast hword =>
      rw [← hlog, ← hrole] at hlast
      exact .readBack hmode hlast hword
  | otherRead hmode hlast hword =>
      rw [← hlog, ← hrole] at hlast
      exact .otherRead hmode hlast hword
  | notWritten hmode hlast hresult =>
      rw [← hlog, ← hrole] at hlast
      exact .notWritten hmode hlast hresult

end Protocol

/-! ### The calls keep to it -/

namespace RoleRequest

variable {req : RoleRequest} {s : Nodes ω}

theorem appendRoleNodeHelper_ne_empty (portName : String) (role : PortRole) :
    appendRoleNodeHelper portName role.getTag ≠ "" := by
  have hne : ∀ suffix : String, suffix ≠ "" → "/sys/class/typec/" ++ portName ++ suffix ≠ "" := by
    intro suffix hsuffix h
    have hlist := congrArg String.toList h
    rw [String.toList_append] at hlist
    exact hsuffix (String.toList_inj.1 (List.append_eq_nil_iff.1 hlist).2)
  cases role with
  | powerRole role => exact hne _ (by decide)
  | dataRole role => exact hne _ (by decide)
  | mode mode => exact hne _ (by decide)

end RoleRequest

section Two

variable {s s' : Nodes Unit} {binder binder' event event' : Thread Unit Mutex (Entry ⊕ RoleRequest) (Nodes Unit)}

/-- One binder thread and one thread for events. -/
def nodeTwo (s : Nodes Unit) (binder event : Thread Unit Mutex (Entry ⊕ RoleRequest) (Nodes Unit)) :
    Config Unit Unit Mutex (Entry ⊕ RoleRequest) (Nodes Unit) :=
  ⟨s, Sum.elim (fun _ => binder) fun _ => event⟩

theorem node_not_owned {l : Mutex} (hb : l ∉ binder.held) (he : l ∉ event.held) :
    ¬ (nodeTwo s binder event).Owned l := by
  rintro ⟨⟨⟩ | ⟨⟩, hmem⟩
  · exact hb hmem
  · exact he hmem

theorem node_step_binder (h : Next nodeText (nodeTwo s binder event).Owned binder s binder' s') :
    Step nodeText nodeHandler (nodeTwo s binder event) (nodeTwo s' binder' event) := by
  have hthreads : Function.update (nodeTwo s binder event).threads (.inl ()) binder' =
      (nodeTwo s' binder' event).threads := by
    funext i
    rcases i with ⟨⟩ | ⟨⟩ <;> rfl
  have hstep : Step nodeText nodeHandler (nodeTwo s binder event) ⟨s', _⟩ := .thread (.inl ()) h
  rwa [hthreads] at hstep

theorem node_step_event (h : Next nodeText (nodeTwo s binder event).Owned event s event' s') :
    Step nodeText nodeHandler (nodeTwo s binder event) (nodeTwo s' binder event') := by
  have hthreads : Function.update (nodeTwo s binder event).threads (.inr ()) event' =
      (nodeTwo s' binder event').threads := by
    funext i
    rcases i with ⟨⟩ | ⟨⟩ <;> rfl
  have hstep : Step nodeText nodeHandler (nodeTwo s binder event) ⟨s', _⟩ := .thread (.inr ()) h
  rwa [hthreads] at hstep

theorem node_step_create {held : List Mutex} {e : Entry ⊕ RoleRequest}
    {next : Option Unit → NodeProgram Unit} :
    Step nodeText nodeHandler (nodeTwo s ⟨held, .create e next⟩ ⟨[], .free⟩)
      (nodeTwo s ⟨held, next (some ())⟩ ⟨[], nodeText e⟩) := by
  have hstep : Step nodeText nodeHandler (nodeTwo s ⟨held, .create e next⟩ ⟨[], .free⟩) ⟨s, _⟩ :=
    .create (.inl ()) () rfl rfl
  have hthreads : Function.update (Function.update (nodeTwo s ⟨held, .create e next⟩ ⟨[], .free⟩).threads
      (.inr ()) ⟨[], nodeText e⟩) (.inl ()) ⟨held, next (some ())⟩ =
        (nodeTwo s ⟨held, next (some ())⟩ ⟨[], nodeText e⟩).threads := by
    funext i
    rcases i with ⟨⟩ | ⟨⟩ <;> rfl
  rwa [hthreads] at hstep

end Two

/-- The port is to become a source. -/
def becomeSource : RoleRequest := ⟨"port0", .mode .DFP, 7⟩

/-- The state after a callback was set. -/
def withCallback : Usb Unit := { mCallback := true, mPoll := some () }

/-- The binder thread between two calls. -/
def idleBinder : Thread Unit Mutex (Entry ⊕ RoleRequest) (Nodes Unit) := ⟨[], .goto (.inl .binder)⟩

theorem reach_callback : Reach nodeText nodeHandler (nodeInit Unit Unit)
    (nodeTwo ⟨withCallback, []⟩ idleBinder ⟨[], withNodes work⟩) := by
  have hinit : nodeInit Unit Unit = nodeTwo {} idleBinder ⟨[], .free⟩ := by
    refine congrArg (Config.mk _) (funext fun i => ?_)
    rcases i with ⟨⟩ | ⟨⟩ <;> rfl
  have hcall : ∀ tag, Call.setCallback true ≠ .switchRole tag := nofun
  rw [hinit]
  refine .head (node_step_binder .goto) ?_
  refine .head (node_step_binder (.choose (NodeCall.other ⟨.setCallback true, hcall⟩))) ?_
  refine .head (node_step_binder (.lock (node_not_owned List.not_mem_nil List.not_mem_nil))) ?_
  refine .head (node_step_binder .act) (.head (node_step_binder .act) ?_)
  exact .head node_step_create (.head (node_step_binder .act) (.single (node_step_binder .unlock)))

/-- The history of the switch: the mode is written, a partner arrives, and the success is reported. -/
def switchedLog : List Event :=
  [.report "port0" (.mode .DFP) .SUCCESS 7, .partner, .write "port0" .mode "source" (.taken true)]

section Switched

variable (event : Thread Unit Mutex (Entry ⊕ RoleRequest) (Nodes Unit))

/-- The mode is written, and the binder thread waits for a partner. -/
theorem reach_asleep (hevent : ∀ l, l ∉ event.held) :
    Reach nodeText nodeHandler (nodeTwo ⟨withCallback, []⟩ idleBinder event)
      (nodeTwo ⟨withCallback, switchedLog.drop 2⟩
        ⟨[.mRoleSwitchLock], .asleep .mPartnerLock becomeSource.afterWait⟩ event) := by
  have hswitch : (becomeSource.switchRole : NodeProgram Unit) =
      .lock .mRoleSwitchLock becomeSource.switchMode := by
    unfold RoleRequest.switchRole
    rw [if_neg (RoleRequest.appendRoleNodeHelper_ne_empty _ _), if_pos (by decide)]
  refine .head (node_step_binder .goto) (.head (node_step_binder (.choose (.switchRole becomeSource))) ?_)
  dsimp only [NodeCall.program]
  rw [hswitch]
  refine .head (node_step_binder (.lock (node_not_owned List.not_mem_nil (hevent _)))) ?_
  refine .head (node_step_binder (.choose true)) ?_
  refine .head (node_step_binder (.lock (node_not_owned (by decide) (hevent _)))) ?_
  refine .head (node_step_binder .act) (.head (node_step_binder (.choose (some true))) ?_)
  refine .head (node_step_binder .act) (.head (node_step_binder .goto) ?_)
  exact .single (node_step_binder .sleep)

/-- Meanwhile the thread for events sees a partner. -/
theorem reach_partner {binder : Thread Unit Mutex (Entry ⊕ RoleRequest) (Nodes Unit)} {log : List Event}
    (hbinder : .mPartnerLock ∉ binder.held) :
    Reach nodeText nodeHandler (nodeTwo ⟨withCallback, log⟩ binder ⟨[], withNodes work⟩)
      (nodeTwo ⟨{ withCallback with mPartnerUp := true }, .partner :: log⟩ binder
        ⟨[], .goto (.inl .loop)⟩) := by
  have hevent : (nodeEvents [["add@/port0-partner"]] : NodeProgram Unit) =
      .lock .mPartnerLock (.act
        (fun s => { s.record .partner with usb := { s.usb with mPartnerUp := true } }) fun _ =>
          .unlock .mPartnerLock (.goto (.inl .loop))) := by
    rw [nodeEvents, nodeEvent, if_pos (by decide)]
    rfl
  refine .head (node_step_event (.choose true)) (.head (node_step_event .goto) ?_)
  refine .head (node_step_event .act) ?_
  refine .head (node_step_event (.choose (Epoll.events [["add@/port0-partner"]]))) ?_
  dsimp only
  rw [hevent]
  refine .head (node_step_event (.lock (node_not_owned hbinder List.not_mem_nil))) ?_
  exact .head (node_step_event .act) (.single (node_step_event .unlock))

/-- The binder thread wakes up, and reports the success. -/
theorem reach_reported (hevent : ∀ l, l ∉ event.held) : ∃ binder,
    Reach nodeText nodeHandler
      (nodeTwo ⟨{ withCallback with mPartnerUp := true }, switchedLog.drop 1⟩
        ⟨[.mRoleSwitchLock], .asleep .mPartnerLock becomeSource.afterWait⟩ event)
      (nodeTwo ⟨{ withCallback with mPartnerUp := true }, switchedLog⟩ binder event) := by
  constructor
  refine .head (node_step_binder (.wake false)) ?_
  refine .head (node_step_binder (.lock (node_not_owned (by decide) (hevent _)))) ?_
  refine .head (node_step_binder .act) (.head (node_step_binder .unlock) ?_)
  refine .head (node_step_binder (.lock (node_not_owned (by decide) (hevent _)))) ?_
  exact .single (node_step_binder .act)

end Switched

theorem exists_switched : ∃ c : Config Unit Unit Mutex (Entry ⊕ RoleRequest) (Nodes Unit),
    Reach nodeText nodeHandler (nodeInit Unit Unit) c ∧ c.state.log = switchedLog := by
  have hnone : ∀ l : Mutex, l ∉ ([] : List Mutex) := fun _ => List.not_mem_nil
  obtain ⟨binder, hreported⟩ := reach_reported ⟨[], .goto (.inl .loop)⟩ hnone
  have hasleep := reach_asleep ⟨[], withNodes work⟩ hnone
  exact ⟨_, ((reach_callback.trans hasleep).trans (reach_partner (by decide))).trans hreported, rfl⟩

/-- The entries that belong together. -/
def nodeEntry : Entry ⊕ RoleRequest → Entry → Prop
  | .inl e, e' => e = e'
  | .inr _, e' => e' = .wait_again

/-- A program with nodes does what one without them does. -/
abbrev FollowsThreads (d : NodeProgram ω) (c : Program ω) : Prop :=
  Code.Follows Nodes.usb nodeEntry d c

theorem withNodes_follows (program : Program ω) : FollowsThreads (withNodes program) program := by
  have hput : ∀ (usb : Usb ω) (s : Nodes ω), ({ s with usb := usb } : Nodes ω).usb = usb := fun _ _ => rfl
  have hentry : ∀ e : Entry, nodeEntry (Sum.inl e) e := fun _ => rfl
  exact Code.over_follows hput hentry program

/-- Recording an event cannot be seen. -/
theorem record_follows {e : Event} {next : Nodes ω → NodeProgram ω} {c : Program ω}
    (hnext : ∀ s, FollowsThreads (next s) c) : FollowsThreads (.act (Nodes.record e) next) c :=
  .silent (fun _ => rfl) hnext

theorem switchToDrp_follows {portName : String} {next : NodeProgram ω} {c : Program ω}
    (hnext : FollowsThreads next c) : FollowsThreads (switchToDrp portName next) c :=
  .choose fun _ => record_follows fun _ => hnext

namespace RoleRequest

variable (req : RoleRequest)

theorem reportRoleSwitch_follows (roleSwitch : Bool) :
    FollowsThreads (req.reportRoleSwitch roleSwitch : NodeProgram ω) UsbHal.reportRoleSwitch := by
  refine .lock (.act (fun s => ?_) fun s => .unlock (.unlock (.goto rfl)))
  dsimp only [id_eq]
  split <;> rfl

theorem finishMode_follows (roleSwitch : Bool) :
    FollowsThreads (req.finishMode roleSwitch : NodeProgram ω) UsbHal.reportRoleSwitch := by
  cases roleSwitch with
  | true => exact req.reportRoleSwitch_follows true
  | false => exact switchToDrp_follows (req.reportRoleSwitch_follows false)

theorem switchMode_follows : FollowsThreads (req.switchMode : NodeProgram ω) UsbHal.switchMode := by
  refine .choose fun opened => .pick opened ?_
  cases opened with
  | false => exact record_follows fun _ => req.finishMode_follows false
  | true =>
      refine .lock (.act (fun _ => rfl) fun _ => .choose fun put => .pick put.isSome ?_)
      refine record_follows fun _ => ?_
      cases put with
      | some closed => exact .goto rfl
      | none => exact .unlock (req.finishMode_follows false)

theorem waitAgain_follows : FollowsThreads (req.waitAgain : NodeProgram ω) UsbHal.waitAgain := by
  refine .condwait fun timedOut => ?_
  cases timedOut with
  | true => exact .unlock (req.finishMode_follows false)
  | false =>
      refine .act (fun _ => rfl) fun s => ?_
      split
      · exact .unlock (req.finishMode_follows true)
      · exact .goto rfl

theorem switchAndReadBack_follows :
    FollowsThreads (req.switchAndReadBack : NodeProgram ω) UsbHal.reportRoleSwitch := by
  refine .choose fun result => record_follows fun _ => ?_
  split
  · exact .choose fun content => record_follows fun _ => req.reportRoleSwitch_follows _
  · exact req.reportRoleSwitch_follows false

theorem switchRole_follows :
    FollowsThreads (req.switchRole : NodeProgram ω) (UsbHal.switchRole req.role.getTag) := by
  unfold switchRole
  rw [if_neg (appendRoleNodeHelper_ne_empty _ _)]
  cases req.role with
  | mode mode => exact .lock req.switchMode_follows
  | powerRole role => exact .lock req.switchAndReadBack_follows
  | dataRole role => exact .lock req.switchAndReadBack_follows

end RoleRequest

theorem switchPorts_follows (ports : List (String × Bool)) {next : NodeProgram ω} {c : Program ω}
    (hnext : FollowsThreads next c) : FollowsThreads (switchPorts ports next) c := by
  induction ports with
  | nil => exact hnext
  | cons port ports ih =>
      unfold switchPorts
      split
      · exact ih
      · exact switchToDrp_follows ih

theorem nodeEvent_follows (fields : List String) {next : NodeProgram ω} {c : Program ω}
    (hnext : FollowsThreads next c) : FollowsThreads (nodeEvent fields next) (uevent_event fields c) := by
  induction fields with
  | nil => exact hnext
  | cons field fields ih =>
      unfold nodeEvent uevent_event
      split
      · exact .lock (.act (fun _ => rfl) fun _ => .unlock ih)
      split
      · refine .lock (.act (fun _ => rfl) fun _ => .unlock (.trylock fun taken => ?_))
        cases taken with
        | false => exact hnext
        | true =>
            refine .act (fun _ => rfl) fun _ => .choose fun ports => ?_
            exact switchPorts_follows ports (.unlock hnext)
      · exact ih

theorem nodeEvents_follows (messages : List (List String)) :
    FollowsThreads (nodeEvents messages : NodeProgram ω) (uevents messages) := by
  induction messages with
  | nil => exact .goto rfl
  | cons message messages ih => exact nodeEvent_follows message ih

theorem nodeLoop_follows : FollowsThreads (nodeLoop : NodeProgram ω) workLoop := by
  refine .act (fun _ => rfl) fun s => ?_
  split
  · exact .halt
  · refine .choose fun result => .pick result ?_
    cases result with
    | interrupted => exact .goto rfl
    | failed => exact .halt
    | events messages => exact nodeEvents_follows messages

/-- **All programs with nodes** do what those without them do. -/
theorem nodeText_follows :
    TextFollows Nodes.usb nodeEntry (nodeText : Entry ⊕ RoleRequest → NodeProgram ω) nodeHandler text
      sighandler where
  text {f e} h := by
    rcases f with f | req
    · obtain rfl : f = e := h
      cases f with
      | binder =>
          refine .choose fun call => ?_
          cases call with
          | switchRole req => exact .pick (.switchRole req.role.getTag) req.switchRole_follows
          | other call => exact .pick call.1 (withNodes_follows _)
      | wait_again => exact withNodes_follows _
      | work => exact withNodes_follows _
      | loop => exact nodeLoop_follows
    · obtain rfl : e = .wait_again := h
      exact req.waitAgain_follows
  handler {s s'} h := by
    obtain ⟨usb, husb, rfl⟩ := Option.map_eq_some_iff.1 h
    exact husb

theorem nodeInit_follows (ι ω : Type) : (nodeInit ι ω).Follows Nodes.usb nodeEntry (init ι ω) where
  state := rfl
  held i := by cases i <;> rfl
  code i := by
    cases i with
    | inl i => exact .goto rfl
    | inr j => exact .free

section Blocked

variable {ι : Type} [DecidableEq ι] [DecidableEq ω]
  {d : Config ι ω Mutex (Entry ⊕ RoleRequest) (Nodes ω)}

/-- Every interleaving with nodes is one without them. -/
theorem exists_threads (h : Reach nodeText nodeHandler (nodeInit ι ω) d) :
    ∃ c, Reach text sighandler (init ι ω) c ∧ d.Follows Nodes.usb nodeEntry c :=
  h.follows nodeText_follows (nodeInit_follows ι ω)

/-- There the thread is up to the same, and keeps to the order of the mutexes. -/
theorem exists_obeys (h : Reach nodeText nodeHandler (nodeInit ι ω) d) {i : ι ⊕ ω} {held : List Mutex}
    {x : NodeProgram ω} (hi : d.threads i = ⟨held, x⟩) (hx : x.Visible) :
    ∃ y : Program ω, FollowsThreads x y ∧ y.Visible ∧ y.Obeys (discipline.rules i) held := by
  obtain ⟨c, hc, hd⟩ := exists_threads h
  obtain ⟨c', y, hreach, -, hi', hxy, hy, -⟩ :
      ∃ c' y, Reach text sighandler c c' ∧ d.Follows Nodes.usb nodeEntry c' ∧ c'.threads i = ⟨held, y⟩ ∧
        FollowsThreads x y ∧ y.Visible ∧ ∀ j, j ≠ i → c'.threads j = c.threads j := hd.settle hi hx
  have hreached : Reach text sighandler (init ι ω) c' := hc.trans hreach
  have hobeys := hreached.obeys covers (init_obeys ι ω) i
  rw [hi'] at hobeys
  exact ⟨y, hxy, hy, hobeys⟩

/-- What a thread may ask for. -/
theorem asks_of_lock (h : Reach nodeText nodeHandler (nodeInit ι ω) d) {i : ι ⊕ ω} {l : Mutex}
    {next : NodeProgram ω} (hi : (d.threads i).code = .lock l next) :
    (discipline.rules i).asks (d.threads i).held l := by
  obtain ⟨y, hxy, hy, hobeys⟩ := exists_obeys h (congrArg (Thread.mk (d.threads i).held) hi) trivial
  cases hxy with
  | pick => exact hy.elim
  | lock _ => exact hobeys.1

/-- Under which mutexes it may join. -/
theorem joins_of_join (h : Reach nodeText nodeHandler (nodeInit ι ω) d) {i : ι ⊕ ω} {j : ω}
    {next : NodeProgram ω} (hi : (d.threads i).code = .join j next) :
    (discipline.rules i).joins (d.threads i).held := by
  obtain ⟨y, hxy, hy, hobeys⟩ := exists_obeys h (congrArg (Thread.mk (d.threads i).held) hi) trivial
  cases hxy with
  | pick => exact hy.elim
  | join _ => exact hobeys.1

/-- **The programs with nodes refine those with mutexes alone.**  In every interleaving the threads hold the
mutexes that they hold in an interleaving of the programs of `MotoCommon/UsbThreads.lean`, with the same
members of `Usb`; and a thread waits for a mutex that is held by a thread that itself waits for the first one
exactly if `setCallback` joins the thread for events while that thread waits for `mLock`. -/
theorem role_switch_refines_threads (h : Reach nodeText nodeHandler (nodeInit ι ω) d) :
    (∃ c, Reach text sighandler (init ι ω) c ∧ c.state = d.state.usb ∧
      ∀ i, (c.threads i).held = (d.threads i).held) ∧
    ((∃ i j, d.AsksFor i j ∧ d.WaitsFor j i) ↔
      ∃ i j, d.Joins i j ∧ ∃ next, (d.threads (.inr j)).code = .lock .mLock next) := by
  refine ⟨?_, ⟨?_, ?_⟩⟩
  · obtain ⟨c, hc, hd⟩ := exists_threads h
    exact ⟨c, hc, hd.state, hd.held⟩
  · rintro ⟨i, j, ⟨l, next, hi, hl⟩, ⟨l', next', hj, hl'⟩ | ⟨k, rfl, next', hj⟩⟩
    · -- each asks for a mutex that comes after those it holds
      have hlt := discipline_rank j _ l' (asks_of_lock h hj) l hl
      have hlt' := discipline_rank i _ l (asks_of_lock h hi) l' hl'
      exact absurd (Nat.lt_trans hlt hlt') (Nat.lt_irrefl _)
    · have hjoins := joins_of_join h hj
      cases j with
      | inr j => exact hjoins.elim
      | inl j =>
          rw [show (d.threads (.inl j)).held = [.mLock] from hjoins] at hl
          obtain rfl := List.mem_singleton.1 hl
          exact ⟨.inl j, k, ⟨next', hj⟩, next, hi⟩
  · rintro ⟨i, j, ⟨next, hi⟩, next', hj⟩
    have hjoins := joins_of_join h hi
    cases i with
    | inr i => exact hjoins.elim
    | inl i =>
        have hheld : (d.threads (.inl i)).held = [.mLock] := hjoins
        refine ⟨.inr j, .inl i, ⟨.mLock, next', hj, ?_⟩, Or.inr ⟨j, rfl, next, hi⟩⟩
        rw [hheld]
        exact List.mem_cons_self

end Blocked

/-- So it is in the run where a mode is switched. -/
theorem role_switch_refines_switched : ∃ c : Config Unit Unit Mutex (Entry ⊕ RoleRequest) (Nodes Unit),
    Reach nodeText nodeHandler (nodeInit Unit Unit) c ∧ c.state.log = switchedLog ∧
      ∃ c', Reach text sighandler (init Unit Unit) c' ∧ c'.state = c.state.usb := by
  obtain ⟨c, hreach, hlog⟩ := exists_switched
  obtain ⟨c', hreach', hstate, -⟩ := (role_switch_refines_threads hreach).1
  exact ⟨c, hreach, hlog, c', hreach', hstate⟩

end UsbHal
