/-
**The threads of the USB service** (`usb/Usb.cpp`).

The calls of the interface come in on any number of binder threads.  While a callback is set, one more
thread handles the events of the kernel: `setCallback` creates it and, when the callback is cleared, sends
it a signal and joins it.  Three mutexes are used: `mLock` for the callback, `mRoleSwitchLock` for a role
switch in progress, and `mPartnerLock` for the arrival of a partner, which `switchMode` waits for.

What the nodes, the properties and the kernel answer is left open, and so is what the callback does with
a notification: it is one-way.  The programs are in the language of `MotoCommon/Pthread.lean`, in which a
wait for a condition may end at any time, so that signalling it needs no step of its own.

Main definitions:

* `UsbHal.Mutex`, `UsbHal.Usb` — the mutexes, and what the threads share;
* `UsbHal.setCallback`, `UsbHal.switchRole`, `UsbHal.uevent_event`, … — the programs;
* `UsbHal.text`, `UsbHal.init` — the program text and the first configuration;
* `UsbHal.Orderly` — the condition on a step: the thread for events is only joined when it is done with
  the messages that call for a refresh of the ports, and gets no more of them then.

Main results:

* `UsbHal.covers` — all programs take the mutexes in one order;
* `UsbHal.joinBlocked_of_circle` — threads only wait for each other if `setCallback` joins a thread that
  waits for `mLock`;
* `UsbHal.usb_threads_never_blocked` — **every interleaving of orderly steps**: no threads wait for each
  other.
-/

import MotoCommon.Pthread

set_option autoImplicit false

namespace UsbHal

open Pthread

/-! ### The state -/

/-- The mutexes. -/
inductive Mutex where
  | mLock
  | mRoleSwitchLock
  | mPartnerLock
  deriving DecidableEq, Repr

/-- The entries of the program text: where a binder thread takes the next call, the label
`wait_again` of `switchMode`, and `work` with its loop. -/
inductive Entry where
  | binder
  | wait_again
  | work
  | loop
  deriving DecidableEq, Repr

/-- What the threads share: the members of `Usb` that are used here, the flag `destroyThread`, and
whether the thread was sent a signal that it has not handled yet. -/
structure Usb (ω : Type) where
  mCallback : Bool := false
  mPoll : Option ω := none
  mPartnerUp : Bool := false
  mUsbDataEnabled : Bool := true
  destroyThread : Bool := false
  pendingSignal : Bool := false

/-- The programs of the service. -/
abbrev Program (ω : Type) := Code ω Mutex Entry (Usb ω)

variable {ω : Type}

/-! ### The calls -/

/-- A critical section of `mLock` in which nodes are read or written and the callback, if there is one,
is notified. -/
def notifyLocked (next : Program ω) : Program ω :=
  .lock .mLock (.act id fun _ => .unlock .mLock next)

def queryVersionHelper (next : Program ω) : Program ω := notifyLocked next

def queryPortStatus (next : Program ω) : Program ω := queryVersionHelper (notifyLocked next)

/-- `enableUsbData`.  The writes succeed or not before the lock is taken. -/
def enableUsbData (in_enable : Bool) (next : Program ω) : Program ω :=
  .choose fun result : Bool =>
    .act (fun usb => if result then { usb with mUsbDataEnabled := in_enable } else usb) fun _ =>
      notifyLocked (queryVersionHelper next)

def enableUsbDataWhileDocked (next : Program ω) : Program ω := notifyLocked (queryVersionHelper next)

def resetUsbPort (next : Program ω) : Program ω := notifyLocked next

/-- `limitPowerTransfer`, which writes the limits under the lock. -/
def limitPowerTransfer (next : Program ω) : Program ω := notifyLocked (queryVersionHelper next)

def enableContaminantPresenceDetection (next : Program ω) : Program ω :=
  notifyLocked (queryVersionHelper next)

/-- The tag of a `PortRole`; a value that is none of them has no node. -/
inductive PortRoleTag where
  | powerRole
  | dataRole
  | mode
  | unknown
  deriving DecidableEq, Repr

/-- The end of `switchRole`: the callback is told about the outcome. -/
def reportRoleSwitch : Program ω := notifyLocked (.unlock .mRoleSwitchLock (.goto .binder))

/-- `switchMode`.  If the node can be opened, the new mode is written under `mPartnerLock`, and the
partner is waited for if that succeeded. -/
def switchMode : Program ω :=
  .choose fun opened : Bool =>
    if opened then
      .lock .mPartnerLock <| .act (fun usb => { usb with mPartnerUp := false }) fun _ =>
        .choose fun written : Bool =>
          if written then .goto .wait_again else .unlock .mPartnerLock reportRoleSwitch
    else reportRoleSwitch

/-- The label `wait_again`: the wait is repeated until the time runs out or a partner is there. -/
def waitAgain : Program ω :=
  .condwait .mPartnerLock fun timedOut =>
    -- after a time-out `mPartnerUp` is not looked at any more
    if timedOut then .unlock .mPartnerLock reportRoleSwitch
    else
      .act id fun usb =>
        if usb.mPartnerUp then .unlock .mPartnerLock reportRoleSwitch else .goto .wait_again

def switchRole (tag : PortRoleTag) : Program ω :=
  match tag with
  | .unknown => .goto .binder
  | .mode => .lock .mRoleSwitchLock switchMode
  | _ => .lock .mRoleSwitchLock reportRoleSwitch

/-- The end of the thread is waited for, if it could be sent the signal; one that it does not live to
handle goes with it. -/
def stopThread (mPoll : Option ω) (next : Program ω) : Program ω :=
  .choose fun sent : Bool =>
    match sent, mPoll with
    | true, some thread =>
        .act (fun usb => { usb with pendingSignal := true }) fun _ =>
          -- the join is made with `mLock` held
          .join thread <| .act (fun usb => { usb with pendingSignal := false }) fun _ =>
            .unlock .mLock next
    | _, _ => .unlock .mLock next

/-- The thread is created; if it cannot be, there is no callback. -/
def startThread (next : Program ω) : Program ω :=
  .act (fun usb => { usb with destroyThread := false }) fun _ =>
    .create .work fun thread =>
      match thread with
      | some thread => .act (fun usb => { usb with mPoll := some thread }) fun _ => .unlock .mLock next
      | none => .act (fun usb => { usb with mCallback := false }) fun _ => .unlock .mLock next

/-- `setCallback`, with a callback or with null. -/
def setCallback (in_callback : Bool) (next : Program ω) : Program ω :=
  .lock .mLock <| .act (fun usb => { usb with mCallback := in_callback }) fun before =>
    if before.mCallback = in_callback then .unlock .mLock next
    else if in_callback then startThread next
    else stopThread before.mPoll next

/-- The calls of the interface. -/
inductive Call where
  | setCallback (in_callback : Bool)
  | switchRole (tag : PortRoleTag)
  | queryPortStatus
  | enableUsbData (in_enable : Bool)
  | enableUsbDataWhileDocked
  | resetUsbPort
  | limitPowerTransfer
  | enableContaminantPresenceDetection
  deriving DecidableEq, Repr

/-- The program of a call, after which the thread takes the next one. -/
def Call.program : Call → Program ω
  | setCallback in_callback => UsbHal.setCallback in_callback (.goto .binder)
  | switchRole tag => UsbHal.switchRole tag
  | queryPortStatus => UsbHal.queryPortStatus (.goto .binder)
  | enableUsbData in_enable => UsbHal.enableUsbData in_enable (.goto .binder)
  | enableUsbDataWhileDocked => UsbHal.enableUsbDataWhileDocked (.goto .binder)
  | resetUsbPort => UsbHal.resetUsbPort (.goto .binder)
  | limitPowerTransfer => UsbHal.limitPowerTransfer (.goto .binder)
  | enableContaminantPresenceDetection => UsbHal.enableContaminantPresenceDetection (.goto .binder)

/-! ### The thread for events -/

/-- The whole field matches `(add)(.*)(-partner)`; a dot matches no line break. -/
def partnerAdded (field : String) : Bool :=
  let cs := field.toList
  decide (11 ≤ cs.length) && "add".toList.isPrefixOf cs && "-partner".toList.isSuffixOf cs &&
    ((cs.drop 3).take (cs.length - 11)).all fun c => c != '\n' && c != '\r'

/-- The field starts like one that calls for a refresh of the ports. -/
def portsChanged (field : String) : Bool :=
  "DEVTYPE=typec_".toList.isPrefixOf field.toList ||
    "POWER_SUPPLY_MOISTURE_DETECTED".toList.isPrefixOf field.toList

/-- `uevent_event`, for a message with these fields. -/
def uevent_event : List String → Program ω → Program ω
  | [], next => next
  | field :: fields, next =>
      if partnerAdded field then
        .lock .mPartnerLock <| .act (fun usb => { usb with mPartnerUp := true }) fun _ =>
          .unlock .mPartnerLock (uevent_event fields next)
      else if portsChanged field then
        -- the `break`: the fields after this one are not looked at
        queryVersionHelper <| .trylock .mRoleSwitchLock fun taken =>
          if taken then .act id fun _ => .unlock .mRoleSwitchLock next else next
      else uevent_event fields next

/-- What `epoll_wait` returns: it was interrupted, it failed, or there are messages.  One that is empty
or too long counts as one without fields. -/
inductive Epoll where
  | interrupted
  | failed
  | events (messages : List (List String))

/-- The messages of one return of `epoll_wait`. -/
def uevents : List (List String) → Program ω
  | [] => .goto .loop
  | message :: messages => uevent_event message (uevents messages)

/-- The wait for messages in the loop of `work`. -/
def pollMessages : Program ω :=
  .choose fun result : Epoll =>
    match result with
    | .interrupted => .goto .loop
    | .failed => .halt
    | .events messages => uevents messages

/-- The loop of `work`. -/
def workLoop : Program ω := .act id fun usb => if usb.destroyThread then .halt else pollMessages

/-- `work`: the sockets are opened, or the thread ends. -/
def work : Program ω := .choose fun opened : Bool => if opened then .goto .loop else .halt

/-! ### The whole service -/

/-- The program text. -/
def text : Entry → Program ω
  | .binder => .choose fun call : Call => call.program
  | .wait_again => waitAgain
  | .work => work
  | .loop => workLoop

/-- `sighandler`, once the signal arrives. -/
def sighandler (usb : Usb ω) : Option (Usb ω) :=
  if usb.pendingSignal then some { usb with pendingSignal := false, destroyThread := true } else none

/-- At first the binder threads wait for calls, and no thread has been created. -/
def init (ι ω : Type) : Config ι ω Mutex Entry (Usb ω) where
  state := {}
  threads
    | .inl _ => ⟨[], .goto .binder⟩
    | .inr _ => ⟨[], .free⟩

/-! ### The rules -/

/-- The order of the mutexes. -/
def rank : Mutex → ℕ
  | .mRoleSwitchLock => 0
  | .mLock => 1
  | .mPartnerLock => 2

/-- A binder thread takes the mutexes in their order, and joins under `mLock` alone.  The thread for
events holds at most one mutex at a time, and never waits for `mRoleSwitchLock`. -/
def discipline : Discipline Mutex Entry where
  first :=
    { enters := fun e held =>
        (e = .binder ∧ held = []) ∨ (e = .wait_again ∧ held = [.mPartnerLock, .mRoleSwitchLock])
      asks := fun held l => ∀ h ∈ held, rank h < rank l
      joins := fun held => held = [.mLock]
      creates := fun e => e = .work }
  created :=
    { enters := fun e held => (e = .work ∨ e = .loop) ∧ held = []
      asks := fun held l => held = [] ∧ l ≠ .mRoleSwitchLock
      joins := fun _ => False
      creates := fun _ => False }

instance (held : List Mutex) (l : Mutex) : Decidable (discipline.first.asks held l) :=
  inferInstanceAs (Decidable (∀ h ∈ held, rank h < rank l))

theorem discipline_rank {ι : Type} (i : ι ⊕ ω) (held : List Mutex) (l : Mutex)
    (h : (discipline.rules i).asks held l) : ∀ h ∈ held, rank h < rank l := by
  cases i with
  | inl i => exact h
  | inr j =>
      obtain ⟨rfl, -⟩ : held = [] ∧ _ := h
      exact fun _ hmem => absurd hmem List.not_mem_nil

section Rules

variable {R : Rules Mutex Entry} {held : List Mutex} {next : Program ω}

theorem notifyLocked_obeys (hask : R.asks held .mLock) (hnext : next.Obeys R held) :
    (notifyLocked next).Obeys R held := by
  refine ⟨hask, fun _ => ⟨List.mem_cons_self, ?_⟩⟩
  rw [List.erase_cons_head]
  exact hnext

end Rules

theorem binder_obeys : (Code.goto .binder : Program ω).Obeys discipline.first [] := Or.inl ⟨rfl, rfl⟩

theorem reportRoleSwitch_obeys :
    (reportRoleSwitch : Program ω).Obeys discipline.first [.mRoleSwitchLock] :=
  notifyLocked_obeys (by decide) ⟨by decide, binder_obeys⟩

theorem waitAgain_obeys :
    (waitAgain : Program ω).Obeys discipline.first [.mPartnerLock, .mRoleSwitchLock] := by
  refine ⟨by decide, by decide, fun timedOut => ?_⟩
  cases timedOut with
  | true => exact ⟨by decide, reportRoleSwitch_obeys⟩
  | false =>
      intro usb
      dsimp only
      split
      · exact ⟨by decide, reportRoleSwitch_obeys⟩
      · exact Or.inr ⟨rfl, rfl⟩

theorem switchMode_obeys : (switchMode : Program ω).Obeys discipline.first [.mRoleSwitchLock] := by
  intro opened
  cases opened with
  | false => exact reportRoleSwitch_obeys
  | true =>
      refine ⟨by decide, fun _ written => ?_⟩
      cases written with
      | true => exact Or.inr ⟨rfl, rfl⟩
      | false => exact ⟨by decide, reportRoleSwitch_obeys⟩

theorem setCallback_obeys (in_callback : Bool) :
    (setCallback in_callback (.goto .binder) : Program ω).Obeys discipline.first [] := by
  have hunlock : (Code.unlock .mLock (.goto .binder) : Program ω).Obeys discipline.first [.mLock] :=
    ⟨by decide, binder_obeys⟩
  refine ⟨by decide, fun before => ?_⟩
  dsimp only
  split
  · exact hunlock
  split
  · refine fun _ => ⟨rfl, fun thread => ?_⟩
    cases thread with
    | none => exact fun _ => hunlock
    | some thread => exact fun _ => hunlock
  · intro sent
    dsimp only
    split
    · exact fun _ => ⟨rfl, fun _ => hunlock⟩
    · exact hunlock

theorem call_obeys (call : Call) : (call.program : Program ω).Obeys discipline.first [] := by
  have hnotify : ∀ {next : Program ω}, next.Obeys discipline.first [] →
      (notifyLocked next).Obeys discipline.first [] := fun h => notifyLocked_obeys (by decide) h
  cases call with
  | setCallback in_callback => exact setCallback_obeys in_callback
  | switchRole tag =>
      cases tag with
      | unknown => exact binder_obeys
      | mode => exact ⟨by decide, switchMode_obeys⟩
      | powerRole => exact ⟨by decide, reportRoleSwitch_obeys⟩
      | dataRole => exact ⟨by decide, reportRoleSwitch_obeys⟩
  | queryPortStatus => exact hnotify (hnotify binder_obeys)
  | enableUsbData in_enable => exact fun _ _ => hnotify (hnotify binder_obeys)
  | enableUsbDataWhileDocked => exact hnotify (hnotify binder_obeys)
  | resetUsbPort => exact hnotify binder_obeys
  | limitPowerTransfer => exact hnotify (hnotify binder_obeys)
  | enableContaminantPresenceDetection => exact hnotify (hnotify binder_obeys)

/-- The handling of one message, by induction on its fields. -/
theorem uevent_event_obeys (fields : List String) {next : Program ω}
    (hnext : next.Obeys discipline.created []) :
    (uevent_event fields next).Obeys discipline.created [] := by
  induction fields with
  | nil => exact hnext
  | cons field fields ih =>
      unfold uevent_event
      split
      · exact ⟨⟨rfl, by decide⟩, fun _ => ⟨by decide, ih⟩⟩
      split
      · refine notifyLocked_obeys ⟨rfl, by decide⟩ ⟨?_, hnext⟩
        exact fun _ => ⟨by decide, hnext⟩
      · exact ih

theorem uevents_obeys (messages : List (List String)) :
    (uevents messages : Program ω).Obeys discipline.created [] := by
  induction messages with
  | nil => exact ⟨Or.inr rfl, rfl⟩
  | cons message messages ih => exact uevent_event_obeys message ih

theorem workLoop_obeys : (workLoop : Program ω).Obeys discipline.created [] := by
  intro usb
  dsimp only
  split
  · rfl
  · intro result
    cases result with
    | interrupted => exact ⟨Or.inr rfl, rfl⟩
    | failed => rfl
    | events messages => exact uevents_obeys messages

theorem work_obeys : (work : Program ω).Obeys discipline.created [] := by
  intro opened
  cases opened with
  | true => exact ⟨Or.inr rfl, rfl⟩
  | false => rfl

/-- **All programs keep to the rules.** -/
theorem covers : discipline.Covers (text : Entry → Program ω) where
  first := by
    rintro e held (⟨rfl, rfl⟩ | ⟨rfl, rfl⟩)
    · exact call_obeys
    · exact waitAgain_obeys
  created := by
    rintro e held ⟨rfl | rfl, rfl⟩
    · exact work_obeys
    · exact workLoop_obeys
  starts := by
    rintro e (rfl | h)
    · exact ⟨Or.inl rfl, rfl⟩
    · exact h.elim

theorem init_obeys (ι ω : Type) : (init ι ω).Obeys discipline := by
  intro i
  cases i with
  | inl i => exact binder_obeys
  | inr j => exact rfl

/-! ### Waiting -/

section Waiting

variable {ι : Type} {c : Config ι ω Mutex Entry (Usb ω)}

/-- A call of `setCallback` is about to join the thread for events, which waits for `mLock`. -/
def JoinBlocked (c : Config ι ω Mutex Entry (Usb ω)) : Prop :=
  ∃ i j, c.Joins i j ∧ ∃ next, (c.threads (.inr j)).code = .lock .mLock next

/-- A thread waits for a mutex that is held by a thread that itself waits for the first one. -/
def BlockEachOther (c : Config ι ω Mutex Entry (Usb ω)) : Prop :=
  ∃ i j, c.AsksFor i j ∧ c.WaitsFor j i

/-- A thread that holds `mPartnerLock` waits for no other. -/
theorem not_waitsFor_of_partner (hc : c.Obeys discipline) {i j : ι ⊕ ω}
    (hi : .mPartnerLock ∈ (c.threads i).held) : ¬ c.WaitsFor i j := by
  rintro (hask | ⟨k, -, hjoin⟩)
  · obtain ⟨l, hasks, -⟩ := hc.asks hask
    have hlt := discipline_rank i _ l hasks _ hi
    cases l <;> exact absurd hlt (by decide)
  · have hjoins := hc.joins hjoin
    cases i with
    | inl i =>
        rw [show (c.threads (.inl i)).held = [.mLock] from hjoins] at hi
        exact absurd hi (by decide)
    | inr k => exact hjoins

/-- A circle of waiting threads goes through a join of the thread for events, which can then only wait
for `mLock`. -/
theorem joinBlocked_of_circle (hc : c.Obeys discipline) {i : ι ⊕ ω}
    (h : Relation.TransGen c.WaitsFor i i) : JoinBlocked c := by
  obtain ⟨j, k, hjoin, hcircle⟩ := hc.circle_joins discipline_rank h
  obtain ⟨x, hwaits, hx⟩ := Config.exists_waitsFor_of_circle hcircle
  rcases hwaits with ⟨l, next, hcode, hmem⟩ | ⟨k', -, hjoin'⟩
  · have hk := hc (.inr k)
    rw [Thread.Obeys, hcode] at hk
    cases l with
    | mLock => exact ⟨j, k, hjoin, next, hcode⟩
    | mRoleSwitchLock => exact absurd rfl hk.1.2
    | mPartnerLock =>
        obtain ⟨y, hy, -⟩ := Config.exists_waitsFor_of_circle hx
        exact absurd hy (not_waitsFor_of_partner hc hmem)
  · exact (hc.joins hjoin').elim

theorem BlockEachOther.circle (h : BlockEachOther c) : ∃ i, Relation.TransGen c.WaitsFor i i := by
  obtain ⟨i, j, hask, hwait⟩ := h
  exact ⟨i, .tail (.single (Or.inl hask)) hwait⟩

end Waiting

/-! ### Orderly steps -/

section Orderly

/-- A field on which `uevent_event` takes `mLock`. -/
def RefreshesPorts (field : String) : Prop := partnerAdded field = false ∧ portsChanged field = true

/-- Before the thread for events next waits for messages, it does not ask for `mLock`. -/
def Clear : Program ω → Prop
  | .lock l next => l ≠ .mLock ∧ Clear next
  | .unlock _ next => Clear next
  | .trylock _ next => ∀ taken, Clear (next taken)
  | .condwait l next => l ≠ .mLock ∧ ∀ timedOut, Clear (next timedOut)
  | .asleep l next => l ≠ .mLock ∧ ∀ timedOut, Clear (next timedOut)
  | .create _ next => ∀ thread, Clear (next thread)
  | .join _ next => Clear next
  | .act _ next => ∀ usb, Clear (next usb)
  | .choose next => .choose next = (pollMessages : Program ω) ∨ ∀ a, Clear (next a)
  | .goto _ => True
  | .halt => True
  | .free => True

theorem uevent_event_clear {fields : List String} (h : ∀ field ∈ fields, ¬ RefreshesPorts field)
    {next : Program ω} (hnext : Clear next) : Clear (uevent_event fields next) := by
  induction fields with
  | nil => exact hnext
  | cons field fields ih =>
      have hrest := ih fun f hf => h f (List.mem_cons_of_mem _ hf)
      have hfield := h field List.mem_cons_self
      unfold uevent_event
      by_cases hadded : partnerAdded field = true
      · rw [if_pos hadded]
        exact ⟨by decide, fun _ => hrest⟩
      · have hnone : portsChanged field = false := by
          cases hchanged : portsChanged field with
          | false => rfl
          | true => exact absurd ⟨by simpa using hadded, hchanged⟩ hfield
        rw [if_neg hadded, hnone, if_neg (by decide)]
        exact hrest

theorem uevents_clear {messages : List (List String)}
    (h : ∀ message ∈ messages, ∀ field ∈ message, ¬ RefreshesPorts field) :
    Clear (uevents messages : Program ω) := by
  induction messages with
  | nil => exact trivial
  | cons message messages ih =>
      exact uevent_event_clear (h message List.mem_cons_self)
        (ih fun m hm => h m (List.mem_cons_of_mem _ hm))

/-- The entries of the thread for events are clear. -/
theorem text_clear {e : Entry} {held : List Mutex} (h : discipline.created.enters e held) :
    Clear (text e : Program ω) := by
  rcases h with ⟨rfl | rfl, -⟩
  · exact .inr fun opened => by cases opened <;> exact trivial
  · intro usb
    dsimp only
    split
    · exact trivial
    · exact .inl rfl

/-- A thread that is created starts at an entry of its own. -/
theorem enters_of_creates {ι : Type} {i : ι ⊕ ω} {e : Entry} (h : (discipline.rules i).creates e) :
    discipline.created.enters e [] := by
  cases i with
  | inl i => exact (covers (ω := ω)).starts e (.inl h)
  | inr j => exact (covers (ω := ω)).starts e (.inr h)

/-- **A step of the thread for events** keeps it clear, unless it gets a message that calls for a
refresh. -/
theorem next_clear {owned : Mutex → Prop} {t t' : Thread ω Mutex Entry (Usb ω)} {usb usb' : Usb ω}
    (h : Next text owned t usb t' usb') (hobeys : t.Obeys discipline.created) (hclear : Clear t.code)
    (hpoll : ∀ messages, t.code = pollMessages → t'.code = uevents messages →
      ∀ message ∈ messages, ∀ field ∈ message, ¬ RefreshesPorts field) : Clear t'.code := by
  cases h with
  | goto => exact text_clear hobeys
  | lock _ => exact hclear.2
  | unlock => exact hclear
  | taken _ => exact hclear true
  | busy _ => exact hclear false
  | sleep => exact hclear
  | wake timedOut => exact ⟨hclear.1, hclear.2 timedOut⟩
  | fail => exact hclear none
  | act => exact hclear _
  | choose a =>
      rcases hclear with hchoice | hall
      · unfold pollMessages at hchoice
        cases hchoice
        cases a with
        | interrupted => exact trivial
        | failed => exact trivial
        | events messages => exact uevents_clear (hpoll messages rfl rfl)
      · exact hall a

variable {ι : Type} {c c' : Config ι ω Mutex Entry (Usb ω)}

/-- The condition on a step.  When a call of `setCallback` has sent the signal and turns to join the
thread for events, this thread is not on its way to `mLock`; and while it is being joined, no message that
it gets has a field that calls for a refresh of the ports. -/
structure Orderly (c c' : Config ι ω Mutex Entry (Usb ω)) : Prop where
  joins : ∀ i j, ¬ c.Joins i j → c'.Joins i j → Clear (c.threads (.inr j)).code
  receives : ∀ i j messages, c.Joins i j → (c.threads (.inr j)).code = pollMessages →
    (c'.threads (.inr j)).code = uevents messages →
      ∀ message ∈ messages, ∀ field ∈ message, ¬ RefreshesPorts field

/-- A thread that is being joined is clear. -/
def JoinsClear (c : Config ι ω Mutex Entry (Usb ω)) : Prop :=
  ∀ i j, c.Joins i j → Clear (c.threads (.inr j)).code

theorem JoinsClear.not_joinBlocked (h : JoinsClear c) : ¬ JoinBlocked c := by
  rintro ⟨i, j, hjoin, next, hcode⟩
  have hclear := h i j hjoin
  rw [hcode] at hclear
  exact hclear.1 rfl

/-- Whoever is joined after an orderly step was clear before it. -/
theorem Orderly.clear_before (ho : Orderly c c') (h : JoinsClear c) {i : ι ⊕ ω} {j : ω}
    (hjoin : c'.Joins i j) : Clear (c.threads (.inr j)).code := by
  by_cases hbefore : c.Joins i j
  · exact h i j hbefore
  · exact ho.joins i j hbefore hjoin

/-- A thread that was created joins none. -/
theorem not_joins_created (hc : c.Obeys discipline) (j k : ω) : ¬ c.Joins (.inr j) k := hc.joins

variable [DecidableEq ι] [DecidableEq ω]

/-- **One orderly step** keeps every thread that is being joined clear. -/
theorem Orderly.joinsClear (hstep : Step text sighandler c c') (ho : Orderly c c')
    (hc : c.Obeys discipline) (h : JoinsClear c) : JoinsClear c' := by
  have hc' : c'.Obeys discipline := hstep.obeys covers hc
  intro i j hjoin
  have hclear := ho.clear_before h hjoin
  cases hstep with
  | @thread t usb k hnext =>
      by_cases hk : k = .inr j
      · subst hk
        have hi : i ≠ .inr j := by
          rintro rfl
          exact not_joins_created hc' j j hjoin
        have hjoin' : c.Joins i j := by
          obtain ⟨next, hcode⟩ := hjoin
          dsimp only at hcode
          rw [Function.update_of_ne hi] at hcode
          exact ⟨next, hcode⟩
        have hmoved := ho.receives i j
        dsimp only at hmoved ⊢
        rw [Function.update_self] at hmoved ⊢
        exact next_clear hnext (hc (.inr j)) hclear fun messages => hmoved messages hjoin'
      · dsimp only
        rwa [Function.update_of_ne (Ne.symm hk)]
  | @create held e next k j' hk hj' =>
      have hcreator : k ≠ .inr j := by
        rintro rfl
        have hcode := hc (.inr j)
        rw [hk] at hcode
        exact hcode.1
      dsimp only
      rw [Function.update_of_ne (Ne.symm hcreator)]
      by_cases hj : j = j'
      · subst hj
        rw [Function.update_self]
        have hcode := hc k
        rw [hk] at hcode
        exact text_clear (enters_of_creates hcode.1)
      · rwa [Function.update_of_ne (fun heq => hj (Sum.inr.inj heq))]
  | @join held next k j' hk hj' =>
      have hjoiner : k ≠ .inr j := by
        rintro rfl
        exact not_joins_created hc j j' ⟨next, by rw [hk]⟩
      dsimp only
      rw [Function.update_of_ne (Ne.symm hjoiner)]
      by_cases hj : j = j'
      · subst hj
        rw [Function.update_self]
        exact trivial
      · rwa [Function.update_of_ne (fun heq => hj (Sum.inr.inj heq))]
  | signal _ => exact hclear

/-- The configurations that an interleaving of orderly steps leads to. -/
def OrderlyReach : Config ι ω Mutex Entry (Usb ω) → Config ι ω Mutex Entry (Usb ω) → Prop :=
  Relation.ReflTransGen fun c c' => Step text sighandler c c' ∧ Orderly c c'

theorem OrderlyReach.reach (h : OrderlyReach c c') : Reach text sighandler c c' := by
  induction h with
  | refl => exact .refl
  | tail _ hstep ih => exact .tail ih hstep.1

/-- **Every run of orderly steps** keeps every thread that is being joined clear. -/
theorem OrderlyReach.joinsClear (h : OrderlyReach c c') (hc : c.Obeys discipline)
    (hclear : JoinsClear c) : JoinsClear c' := by
  induction h with
  | refl => exact hclear
  | tail hreach hstep ih =>
      exact hstep.2.joinsClear hstep.1 ((OrderlyReach.reach hreach).obeys covers hc) ih

theorem init_joinsClear (ι ω : Type) : JoinsClear (init ι ω) := by
  rintro (i | j) k ⟨next, hcode⟩
  · cases hcode
  · cases hcode

/-- **Threads never wait for each other**, in every interleaving of the calls, on any binder threads, with
the thread for events and any messages, as long as every step is orderly: `setCallback` only turns to join
the thread for events when that thread is not on its way to `mLock`, and while it is being joined the
thread gets no message that calls for a refresh of the ports.  There are no longer circles of waiting
threads either. -/
theorem usb_threads_never_blocked (h : OrderlyReach (init ι ω) c) :
    ¬ BlockEachOther c ∧ ¬ ∃ i, Relation.TransGen c.WaitsFor i i := by
  have hc := h.reach.obeys covers (init_obeys ι ω)
  have hfree := (h.joinsClear (init_obeys ι ω) (init_joinsClear ι ω)).not_joinBlocked
  have hcircle : ¬ ∃ i, Relation.TransGen c.WaitsFor i i :=
    fun ⟨i, hi⟩ => hfree (joinBlocked_of_circle hc hi)
  exact ⟨fun hblock => hcircle hblock.circle, hcircle⟩

end Orderly

/-! ### One binder thread and one thread for events -/

/-- A configuration of one binder thread and one thread for events. -/
def two (usb : Usb Unit) (binder event : Thread Unit Mutex Entry (Usb Unit)) :
    Config Unit Unit Mutex Entry (Usb Unit) :=
  ⟨usb, Sum.elim (fun _ => binder) fun _ => event⟩

section Two

variable {usb usb' : Usb Unit} {binder binder' event event' : Thread Unit Mutex Entry (Usb Unit)}

theorem update_binder (usb' : Usb Unit) : Function.update (two usb binder event).threads (.inl ()) binder' =
    (two usb' binder' event).threads := by
  funext i
  rcases i with ⟨⟩ | ⟨⟩ <;> rfl

theorem update_event (usb' : Usb Unit) : Function.update (two usb binder event).threads (.inr ()) event' =
    (two usb' binder event').threads := by
  funext i
  rcases i with ⟨⟩ | ⟨⟩ <;> rfl

theorem not_owned {l : Mutex} (hb : l ∉ binder.held) (he : l ∉ event.held) :
    ¬ (two usb binder event).Owned l := by
  rintro ⟨⟨⟩ | ⟨⟩, hmem⟩
  · exact hb hmem
  · exact he hmem

theorem step_binder (h : Next text (two usb binder event).Owned binder usb binder' usb') :
    Step text sighandler (two usb binder event) (two usb' binder' event) := by
  have hstep : Step text sighandler (two usb binder event) ⟨usb', _⟩ := .thread (.inl ()) h
  rwa [update_binder usb'] at hstep

theorem step_event (h : Next text (two usb binder event).Owned event usb event' usb') :
    Step text sighandler (two usb binder event) (two usb' binder event') := by
  have hstep : Step text sighandler (two usb binder event) ⟨usb', _⟩ := .thread (.inr ()) h
  rwa [update_event usb'] at hstep

theorem step_create {held : List Mutex} {e : Entry} {next : Option Unit → Program Unit} :
    Step text sighandler (two usb ⟨held, .create e next⟩ ⟨[], .free⟩)
      (two usb ⟨held, next (some ())⟩ ⟨[], text e⟩) := by
  have hstep : Step text sighandler (two usb ⟨held, .create e next⟩ ⟨[], .free⟩) ⟨usb, _⟩ :=
    .create (.inl ()) () rfl rfl
  rwa [update_event usb, update_binder usb] at hstep

/-- The next thing that a program does is to join a thread. -/
def joinsNext : Program Unit → Bool
  | .join _ _ => true
  | _ => false

theorem two_not_joins (hb : joinsNext binder.code = false) (he : joinsNext event.code = false)
    (i : Unit ⊕ Unit) (j : Unit) : ¬ (two usb binder event).Joins i j := by
  rintro ⟨next, hcode⟩
  rcases i with ⟨⟩ | ⟨⟩
  · rw [show binder.code = .join j next from hcode] at hb
    cases hb
  · rw [show event.code = .join j next from hcode] at he
    cases he

/-- Where nobody joins, before and after, a step is orderly. -/
theorem orderly_two (hb : joinsNext binder.code = false) (he : joinsNext event.code = false)
    (hb' : joinsNext binder'.code = false) (he' : joinsNext event'.code = false) :
    Orderly (two usb binder event) (two usb' binder' event') where
  joins i j _ hjoin := absurd hjoin (two_not_joins hb' he' i j)
  receives i j _ hjoin := absurd hjoin (two_not_joins hb he i j)

theorem orderly_binder (h : Next text (two usb binder event).Owned binder usb binder' usb')
    (he : joinsNext event.code = false) (hb : joinsNext binder.code = false)
    (hb' : joinsNext binder'.code = false) :
    Step text sighandler (two usb binder event) (two usb' binder' event) ∧
      Orderly (two usb binder event) (two usb' binder' event) :=
  ⟨step_binder h, orderly_two hb he hb' he⟩

theorem orderly_event (h : Next text (two usb binder event).Owned event usb event' usb')
    (hb : joinsNext binder.code = false) (he : joinsNext event.code = false)
    (he' : joinsNext event'.code = false) :
    Step text sighandler (two usb binder event) (two usb' binder event') ∧
      Orderly (two usb binder event) (two usb' binder event') :=
  ⟨step_event h, orderly_two hb he hb he'⟩

/-- The binder thread, about to take the next call. -/
def waiting : Thread Unit Mutex Entry (Usb Unit) := ⟨[], .goto .binder⟩

/-- What is shared while a callback is set. -/
def called : Usb Unit := { mCallback := true, mPoll := some () }

/-- A callback is set, and the thread for events is there. -/
theorem reach_started : OrderlyReach (init Unit Unit) (two called waiting ⟨[], work⟩) := by
  have hinit : init Unit Unit = two {} waiting ⟨[], .free⟩ := by
    refine congrArg (Config.mk _) (funext fun i => ?_)
    rcases i with ⟨⟩ | ⟨⟩ <;> rfl
  rw [hinit]
  refine .head (orderly_binder .goto rfl rfl rfl) ?_
  refine .head (orderly_binder (.choose (Call.setCallback true)) rfl rfl rfl) ?_
  refine .head (orderly_binder (.lock (not_owned List.not_mem_nil List.not_mem_nil)) rfl rfl rfl) ?_
  refine .head (orderly_binder .act rfl rfl rfl) ?_
  refine .head (orderly_binder .act rfl rfl rfl) ?_
  refine .head ⟨step_create, orderly_two rfl rfl rfl rfl⟩ ?_
  exact .head (orderly_binder .act rfl rfl rfl) (.single (orderly_binder .unlock rfl rfl rfl))

/-- What the thread for events does about a message that calls for a refresh. -/
theorem uevents_refresh : (uevents [["DEVTYPE=typec_port"]] : Program Unit) =
    queryVersionHelper (.trylock .mRoleSwitchLock fun taken =>
      if taken then .act id fun _ => .unlock .mRoleSwitchLock (.goto .loop) else .goto .loop) := by
  rw [uevents, uevent_event, if_neg (by decide), if_pos (by decide)]
  rfl

/-- Such a message arrives: the thread is about to take `mLock`. -/
theorem reach_event : OrderlyReach (two called waiting ⟨[], work⟩)
    (two called waiting ⟨[], uevents [["DEVTYPE=typec_port"]]⟩) := by
  refine .head (orderly_event (.choose true) rfl rfl rfl) ?_
  refine .head (orderly_event .goto rfl rfl rfl) (.head (orderly_event .act rfl rfl rfl) ?_)
  refine .single (orderly_event (.choose (Epoll.events [["DEVTYPE=typec_port"]])) rfl rfl ?_)
  rw [uevents_refresh]
  rfl

/-- The thread has dealt with it. -/
theorem reach_handled : OrderlyReach
    (two called waiting ⟨[], uevents [["DEVTYPE=typec_port"]]⟩) (two called waiting ⟨[], .goto .loop⟩) := by
  rw [uevents_refresh]
  refine .head (orderly_event (.lock (not_owned List.not_mem_nil List.not_mem_nil)) rfl rfl rfl) ?_
  refine .head (orderly_event .act rfl rfl rfl) (.head (orderly_event .unlock rfl rfl rfl) ?_)
  refine .head (orderly_event (.taken (not_owned List.not_mem_nil List.not_mem_nil)) rfl rfl rfl) ?_
  exact .head (orderly_event .act rfl rfl rfl) (.single (orderly_event .unlock rfl rfl rfl))

/-- What is left of `setCallback` when it joins the thread. -/
def joining : Program Unit :=
  .join () <| .act (fun usb => { usb with pendingSignal := false }) fun _ => .unlock .mLock (.goto .binder)

/-- The callback is cleared: the binder thread is about to send the signal, and to join then. -/
theorem reach_cleared {event : Program Unit} (he : joinsNext event = false) :
    OrderlyReach (two called waiting ⟨[], event⟩)
      (two { mPoll := some () } ⟨[.mLock], .act (fun usb => { usb with pendingSignal := true })
        fun _ => joining⟩ ⟨[], event⟩) := by
  refine .head (orderly_binder .goto he rfl rfl) ?_
  refine .head (orderly_binder (.choose (Call.setCallback false)) he rfl rfl) ?_
  refine .head (orderly_binder (.lock (not_owned List.not_mem_nil List.not_mem_nil)) he rfl rfl) ?_
  exact .head (orderly_binder .act he rfl rfl) (.single (orderly_binder (.choose true) he rfl rfl))

/-- The signal is sent, and the binder thread turns to join. -/
theorem step_joining (event : Program Unit) :
    Step text sighandler
      (two { mPoll := some () } ⟨[.mLock], .act (fun usb => { usb with pendingSignal := true })
        fun _ => joining⟩ ⟨[], event⟩)
      (two { mPoll := some (), pendingSignal := true } ⟨[.mLock], joining⟩ ⟨[], event⟩) :=
  step_binder .act

end Two

/-- A callback is set, a message that calls for a refresh is dealt with, and the callback is cleared: the
thread for events is joined, and does not wait for `mLock`. -/
theorem usb_threads_never_blocked_after_message :
    ∃ c : Config Unit Unit Mutex Entry (Usb Unit),
      OrderlyReach (init Unit Unit) c ∧ c.Joins (.inl ()) () ∧ ¬ BlockEachOther c := by
  have hreach : OrderlyReach (init Unit Unit)
      (two { mPoll := some (), pendingSignal := true } ⟨[.mLock], joining⟩ ⟨[], .goto .loop⟩) := by
    refine .tail ((reach_started.trans (reach_event.trans reach_handled)).trans (reach_cleared rfl))
      ⟨step_joining _, fun i j _ _ => trivial, fun i j _ hjoin => ?_⟩
    exact absurd hjoin (two_not_joins rfl rfl i j)
  exact ⟨_, hreach, ⟨_, rfl⟩, (usb_threads_never_blocked hreach).1⟩

/-- **A callback is cleared while an event is handled**: `setCallback` holds `mLock` and joins the thread
for events, which waits for `mLock`. -/
theorem usb_threads_block_each_other :
    ∃ c : Config Unit Unit Mutex Entry (Usb Unit),
      Reach text sighandler (init Unit Unit) c ∧ BlockEachOther c := by
  have hevent : joinsNext (uevents [["DEVTYPE=typec_port"]] : Program Unit) = false := by
    rw [uevents_refresh]
    rfl
  have hreach := OrderlyReach.reach (reach_started.trans (reach_event.trans (reach_cleared hevent)))
  refine ⟨_, .tail hreach (step_joining _), .inr (), .inl (), ?_, ?_⟩
  · rw [uevents_refresh]
    exact ⟨.mLock, _, rfl, List.mem_cons_self⟩
  · exact Or.inr ⟨(), rfl, _, rfl⟩

end UsbHal
