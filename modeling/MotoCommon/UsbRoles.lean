/-
**The role of a port** (`getCurrentRoleHelper` of `usb/Usb.cpp`).

A `PortRole` is a union: it holds a power role, a data role or a mode, and its tag says which.  One
function serves the three tags.  It reads a word from a node of the port and sets the member that the word
stands for; only for two of the words it looks at the tag it was asked for, and for these only whether it is
that of a data role.

Main definitions:

* `UsbHal.PortRole` — the union;
* `UsbHal.Trim`, `UsbHal.extractRole` — the word in the text of a node;
* `UsbHal.getCurrentRoleHelper` — the query;
* `UsbHal.PortRoleTag.Admits` — the words that do not change a tag.

Main results:

* `UsbHal.setRole_getTag_iff` — when a word leaves the tag as it is;
* `UsbHal.getCurrentRoleHelper_getTag_iff` — when a query does;
* `UsbHal.getCurrentRoleHelper_fails_iff` — when a query fails.
-/

import MotoCommon.UsbThreads

set_option autoImplicit false

namespace UsbHal

/-! ### Roles -/

/-- `Status`, the values that are used here. -/
inductive Status where
  | SUCCESS
  | ERROR
  | UNRECOGNIZED_ROLE
  deriving DecidableEq, Repr

inductive PortPowerRole where
  | NONE
  | SOURCE
  | SINK
  deriving DecidableEq, Repr

inductive PortDataRole where
  | NONE
  | HOST
  | DEVICE
  deriving DecidableEq, Repr

inductive PortMode where
  | NONE
  | UFP
  | DFP
  | DRP
  | AUDIO_ACCESSORY
  | DEBUG_ACCESSORY
  deriving DecidableEq, Repr

inductive PortRole where
  | powerRole (role : PortPowerRole)
  | dataRole (role : PortDataRole)
  | mode (mode : PortMode)
  deriving DecidableEq, Repr

namespace PortRole

def getTag : PortRole → PortRoleTag
  | powerRole _ => .powerRole
  | dataRole _ => .dataRole
  | mode _ => .mode

/-- The member of the same tag that says that there is no role. -/
def cleared : PortRole → PortRole
  | powerRole _ => powerRole .NONE
  | dataRole _ => dataRole .NONE
  | mode _ => mode .NONE

/-- `get` of a member, if it is the active one. -/
def getPowerRole : PortRole → Option PortPowerRole
  | powerRole role => some role
  | _ => none

@[inherit_doc getPowerRole]
def getDataRole : PortRole → Option PortDataRole
  | dataRole role => some role
  | _ => none

@[inherit_doc getPowerRole]
def getMode : PortRole → Option PortMode
  | mode m => some m
  | _ => none

theorem isSome_getPowerRole (role : PortRole) :
    role.getPowerRole.isSome = true ↔ role.getTag = (powerRole .NONE).getTag := by
  cases role <;> simp [getPowerRole, getTag]

theorem isSome_getDataRole (role : PortRole) :
    role.getDataRole.isSome = true ↔ role.getTag = (dataRole .NONE).getTag := by
  cases role <;> simp [getDataRole, getTag]

theorem isSome_getMode (role : PortRole) :
    role.getMode.isSome = true ↔ role.getTag = (mode .NONE).getTag := by
  cases role <;> simp [getMode, getTag]

@[simp] theorem getTag_cleared (role : PortRole) : role.cleared.getTag = role.getTag := by
  cases role <;> rfl

end PortRole

/-! ### The text of a node -/

/-- The nodes: what `ReadFileToString` reads from a path, if it can. -/
abbrev Files := String → Option String

def isspace (c : Char) : Bool :=
  c = ' ' || c = '\t' || c = '\n' || c = '\r' || c = Char.ofNat 11 || c = Char.ofNat 12

def Trim (s : String) : String :=
  String.ofList ((s.toList.dropWhile isspace).reverse.dropWhile isspace).reverse

/-- `extractRole`: what stands between the brackets.  If the closing one comes first, the length wraps and
the rest of the text is taken. -/
def extractRole (roleName : String) : String :=
  let cs := roleName.toList
  match cs.idxOf? '[', cs.idxOf? ']' with
  | some first, some last =>
      String.ofList
        ((cs.drop (first + 1)).take (if first < last then last - first - 1 else cs.length))
  | _, _ => roleName

example : extractRole (Trim "host [device]\n") = "device" := by decide

/-! ### The query -/

def getAccessoryConnected (files : Files) (portName : String) : Option String :=
  (files ("/sys/class/typec/" ++ portName ++ "-partner/accessory_mode")).map Trim

/-- The node that is read.  There is none for the mode: it is found out from the data role. -/
def rolePath (portName : String) : PortRole → String
  | .powerRole _ => "/sys/class/typec/" ++ portName ++ "/power_role"
  | .dataRole _ => "/sys/class/typec/" ++ portName ++ "/data_role"
  | .mode _ => "/sys/class/typec/" ++ portName ++ "/data_role"

/-- The member that a word stands for is set. -/
def setRole (roleName : String) (currentRole : PortRole) : Status × PortRole :=
  if roleName = "source" then (.SUCCESS, .powerRole .SOURCE)
  else if roleName = "sink" then (.SUCCESS, .powerRole .SINK)
  else if roleName = "host" then
    (.SUCCESS, if currentRole.getTag = .dataRole then .dataRole .HOST else .mode .DFP)
  else if roleName = "device" then
    (.SUCCESS, if currentRole.getTag = .dataRole then .dataRole .DEVICE else .mode .UFP)
  else if roleName ≠ "none" then (.UNRECOGNIZED_ROLE, currentRole)
  else (.SUCCESS, currentRole)

/-- The word is read from the node. -/
def readRole (files : Files) (portName : String) (currentRole : PortRole) : Status × PortRole :=
  match files (rolePath portName currentRole) with
  | none => (.ERROR, currentRole)
  | some text => setRole (extractRole (Trim text)) currentRole

/-- `getCurrentRoleHelper`, for the role that is asked for.  An accessory has a mode of its own. -/
def getCurrentRoleHelper (files : Files) (portName : String) (connected : Bool) (asked : PortRole) :
    Status × PortRole :=
  let currentRole := asked.cleared
  if connected = false then (.SUCCESS, currentRole)
  else if currentRole.getTag = .mode then
    match getAccessoryConnected files portName with
    | none => (.ERROR, currentRole)
    | some accessory =>
        if accessory = "analog_audio" then (.SUCCESS, .mode .AUDIO_ACCESSORY)
        else if accessory = "debug" then (.SUCCESS, .mode .DEBUG_ACCESSORY)
        else readRole files portName currentRole
  else readRole files portName currentRole

/-! ### Tags -/

/-- The words that do not change a tag. -/
def PortRoleTag.Admits (tag : PortRoleTag) (roleName : String) : Prop :=
  match tag with
  | .powerRole => roleName ≠ "host" ∧ roleName ≠ "device"
  | _ => roleName ≠ "source" ∧ roleName ≠ "sink"

/-- A query succeeds and leaves the tag, or does not succeed. -/
def KeepsTag (asked : PortRole) (result : Status × PortRole) : Prop :=
  result.1 = .SUCCESS → result.2.getTag = asked.getTag

theorem setRole_getTag_iff (roleName : String) (currentRole : PortRole) :
    KeepsTag currentRole (setRole roleName currentRole) ↔ currentRole.getTag.Admits roleName := by
  unfold KeepsTag setRole
  by_cases hsource : roleName = "source"
  · subst hsource
    cases currentRole <;> simp [PortRole.getTag, PortRoleTag.Admits]
  by_cases hsink : roleName = "sink"
  · subst hsink
    cases currentRole <;> simp [PortRole.getTag, PortRoleTag.Admits]
  by_cases hhost : roleName = "host"
  · subst hhost
    cases currentRole <;> simp [PortRole.getTag, PortRoleTag.Admits]
  by_cases hdevice : roleName = "device"
  · subst hdevice
    cases currentRole <;> simp [PortRole.getTag, PortRoleTag.Admits]
  -- any other word leaves the role alone
  rw [if_neg hsource, if_neg hsink, if_neg hhost, if_neg hdevice]
  refine iff_of_true ?_ ?_
  · split <;> simp
  · cases currentRole
    · exact ⟨hhost, hdevice⟩
    · exact ⟨hsource, hsink⟩
    · exact ⟨hsource, hsink⟩

/-- The node of the role is read: the port is connected and, if a mode is asked for, there is a partner that
is no accessory. -/
def ReadsRole (files : Files) (portName : String) (connected : Bool) (asked : PortRole) : Prop :=
  connected = true ∧ (asked.getTag = .mode → ∃ accessory,
    getAccessoryConnected files portName = some accessory ∧
      accessory ≠ "analog_audio" ∧ accessory ≠ "debug")

/-- The words in the node that is read are admitted by the tag that is asked for. -/
def RoleFits (files : Files) (portName : String) (connected : Bool) (asked : PortRole) : Prop :=
  ReadsRole files portName connected asked → ∀ text, files (rolePath portName asked) = some text →
    asked.getTag.Admits (extractRole (Trim text))

variable {files : Files} {portName : String} {connected : Bool} {asked : PortRole}

theorem rolePath_cleared (portName : String) (asked : PortRole) :
    rolePath portName asked.cleared = rolePath portName asked := by
  cases asked <;> rfl

theorem readRole_getTag_iff (files : Files) (portName : String) (asked : PortRole) :
    KeepsTag asked (readRole files portName asked.cleared) ↔
      ∀ text, files (rolePath portName asked) = some text →
        asked.getTag.Admits (extractRole (Trim text)) := by
  unfold readRole
  rw [rolePath_cleared]
  cases hfile : files (rolePath portName asked) with
  | none => simp [KeepsTag]
  | some text =>
      have hset := setRole_getTag_iff (extractRole (Trim text)) asked.cleared
      unfold KeepsTag at hset ⊢
      rw [PortRole.getTag_cleared] at hset
      dsimp only
      rw [hset]
      simp

/-- A query that reads the node. -/
theorem getCurrentRoleHelper_of_reads (h : ReadsRole files portName connected asked) :
    getCurrentRoleHelper files portName connected asked = readRole files portName asked.cleared := by
  obtain ⟨rfl, hmode⟩ := h
  unfold getCurrentRoleHelper
  dsimp only
  rw [PortRole.getTag_cleared]
  by_cases htag : asked.getTag = .mode
  · obtain ⟨accessory, haccessory, haudio, hdebug⟩ := hmode htag
    simp [htag, haccessory, haudio, hdebug]
  · simp [htag]

/-- A query that does not read the node leaves the tag as it is. -/
theorem getCurrentRoleHelper_of_not_reads (h : ¬ ReadsRole files portName connected asked) :
    KeepsTag asked (getCurrentRoleHelper files portName connected asked) := by
  unfold getCurrentRoleHelper
  dsimp only
  cases connected with
  | false => simp [KeepsTag]
  | true =>
      have hmode : asked.getTag = .mode := by
        by_contra hne
        exact h ⟨rfl, fun htag => absurd htag hne⟩
      rw [PortRole.getTag_cleared]
      simp only [Bool.true_eq_false, if_false, hmode, if_true]
      cases haccessory : getAccessoryConnected files portName with
      | none => simp [KeepsTag]
      | some accessory =>
          dsimp only
          by_cases haudio : accessory = "analog_audio"
          · rw [if_pos haudio]
            exact fun _ => hmode.symm
          by_cases hdebug : accessory = "debug"
          · rw [if_neg haudio, if_pos hdebug]
            exact fun _ => hmode.symm
          exact absurd ⟨rfl, fun _ => ⟨accessory, haccessory, haudio, hdebug⟩⟩ h

/-- **When a query leaves the tag as it is.** -/
theorem getCurrentRoleHelper_getTag_iff (files : Files) (portName : String) (connected : Bool)
    (asked : PortRole) :
    KeepsTag asked (getCurrentRoleHelper files portName connected asked) ↔
      RoleFits files portName connected asked := by
  unfold RoleFits
  by_cases hreads : ReadsRole files portName connected asked
  · rw [getCurrentRoleHelper_of_reads hreads, readRole_getTag_iff]
    exact ⟨fun h _ => h, fun h => h hreads⟩
  · exact iff_of_true (getCurrentRoleHelper_of_not_reads hreads) fun h => absurd h hreads

/-! ### Failures -/

/-- The words that stand for a role, or for none. -/
def roleNames : List String := ["source", "sink", "host", "device", "none"]

theorem setRole_fails_iff (roleName : String) (currentRole : PortRole) :
    (setRole roleName currentRole).1 ≠ .SUCCESS ↔ roleName ∉ roleNames := by
  unfold setRole roleNames
  by_cases hsource : roleName = "source"
  · simp [hsource]
  by_cases hsink : roleName = "sink"
  · simp [hsink]
  by_cases hhost : roleName = "host"
  · simp [hhost]
  by_cases hdevice : roleName = "device"
  · simp [hdevice]
  by_cases hnone : roleName = "none"
  · simp [hnone]
  simp [hsource, hsink, hhost, hdevice, hnone]

/-- A node that has to be read cannot be, or what is in it stands for no role. -/
def Unreadable (files : Files) (portName : String) (connected : Bool) (asked : PortRole) : Prop :=
  (connected = true ∧ asked.getTag = .mode ∧ getAccessoryConnected files portName = none) ∨
    (ReadsRole files portName connected asked ∧ ∀ text, files (rolePath portName asked) = some text →
      extractRole (Trim text) ∉ roleNames)

theorem readRole_fails_iff (files : Files) (portName : String) (asked : PortRole) :
    (readRole files portName asked.cleared).1 ≠ .SUCCESS ↔
      ∀ text, files (rolePath portName asked) = some text → extractRole (Trim text) ∉ roleNames := by
  unfold readRole
  rw [rolePath_cleared]
  cases files (rolePath portName asked) with
  | none => simp
  | some text =>
      dsimp only
      rw [setRole_fails_iff]
      simp

/-- **When a query fails.** -/
theorem getCurrentRoleHelper_fails_iff (files : Files) (portName : String) (connected : Bool)
    (asked : PortRole) :
    (getCurrentRoleHelper files portName connected asked).1 ≠ .SUCCESS ↔
      Unreadable files portName connected asked := by
  unfold Unreadable
  by_cases hreads : ReadsRole files portName connected asked
  · have haccessory : ¬ (connected = true ∧ asked.getTag = .mode ∧
        getAccessoryConnected files portName = none) := by
      rintro ⟨-, hmode, hnone⟩
      obtain ⟨accessory, hsome, -⟩ := hreads.2 hmode
      rw [hnone] at hsome
      cases hsome
    rw [getCurrentRoleHelper_of_reads hreads, readRole_fails_iff]
    exact ⟨fun h => Or.inr ⟨hreads, h⟩, fun h => (h.resolve_left haccessory).2⟩
  · rw [or_iff_left fun h => hreads h.1]
    unfold getCurrentRoleHelper
    dsimp only
    rw [PortRole.getTag_cleared]
    cases connected with
    | false => simp
    | true =>
        have hmode : asked.getTag = .mode := by
          by_contra hne
          exact hreads ⟨rfl, fun htag => absurd htag hne⟩
        cases haccessory : getAccessoryConnected files portName with
        | none => simp [hmode]
        | some accessory =>
            have hkind : accessory = "analog_audio" ∨ accessory = "debug" := by
              by_contra hne
              rw [not_or] at hne
              exact hreads ⟨rfl, fun _ => ⟨accessory, haccessory, hne.1, hne.2⟩⟩
            rcases hkind with rfl | rfl <;> simp [hmode]

end UsbHal
