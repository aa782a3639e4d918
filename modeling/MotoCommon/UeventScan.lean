/-
**The scan of a message of the kernel** (`uevent_event` of `usb/Usb.cpp`).

A message is a sequence of NUL-terminated fields.  `uevent_event` receives it into a buffer, appends two
NULs and walks over it with a pointer: the outer loop ends at an empty field, or at a field that calls for
a refresh of the ports, and the inner loop moves the pointer behind the next NUL.  The message may end
without a NUL, have one, or have empty fields in the middle; what stands in the buffer behind the two NULs
is not known.

`MotoCommon/UsbThreads.lean` has the same function as a program over the fields of a message; this module
says which fields the walk finds, so the two go together.

Main definitions:

* `UsbHal.buffer` — the buffer after a message was received;
* `UsbHal.Scan`, `UsbHal.scan` — what a walk does, and the walk;
* `UsbHal.examined` — the fields that are to be looked at.

Main results:

* `UsbHal.partnerAdded_iff` — what the regular expression matches;
* `UsbHal.scan_spec` — **the walk**, from a pointer with a rest of the message;
* `UsbHal.uevent_message_scan` — **every message**.
-/

import MotoCommon.CString
import MotoCommon.UsbThreads

set_option autoImplicit false

namespace UsbHal

open CString

/-! ### The buffer -/

def UEVENT_MSG_LEN : ℕ := 2048

/-- The character that ends a string. -/
def NUL : Char := Char.ofNat 0

/-- The buffer `msg` after a message was received: the message, the two NULs that are appended, and what
was there before. -/
def buffer (message : List Char) (before : ℕ → Char) (i : ℕ) : Char :=
  if h : i < message.length then message[i]
  else if i ≤ message.length + 1 then NUL
  else before i

theorem holds_buffer (message : List Char) (before : ℕ → Char) :
    Holds (buffer message before) 0 (message ++ [NUL, NUL]) := by
  rw [holds_append, Nat.zero_add]
  refine ⟨holds_of_forall fun i hi => ?_, ?_, ?_, trivial⟩
  · rw [Nat.zero_add, buffer, dif_pos hi]
  · rw [buffer, dif_neg (by omega), if_pos (by omega)]
  · rw [buffer, dif_neg (by omega), if_pos (by omega)]

/-! ### The fields -/

/-- `(add)(.*)(-partner)` matches the whole field; a dot matches no line break. -/
def Matches (field : List Char) : Prop :=
  ∃ middle, field = "add".toList ++ middle ++ "-partner".toList ∧ ∀ c ∈ middle, c ≠ '\n' ∧ c ≠ '\r'

theorem partnerAdded_iff (field : List Char) :
    partnerAdded (String.ofList field) = true ↔ Matches field := by
  have hadd : "add".toList.length = 3 := rfl
  have hpartner : "-partner".toList.length = 8 := rfl
  unfold partnerAdded
  rw [String.toList_ofList]
  simp only [Bool.and_eq_true, decide_eq_true_iff, List.isPrefixOf_iff_prefix,
    List.isSuffixOf_iff_suffix, List.all_eq_true, bne_iff_ne, ne_eq]
  constructor
  · rintro ⟨⟨⟨hlength, hstart⟩, hend⟩, hmiddle⟩
    refine ⟨(field.drop 3).take (field.length - 11), ?_, hmiddle⟩
    have htake : "add".toList = field.take 3 := List.prefix_iff_eq_take.1 hstart
    have hdrop : "-partner".toList = (field.drop 3).drop (field.length - 11) := by
      have hlast := List.suffix_iff_eq_drop.1 hend
      rw [hpartner] at hlast
      have hindex : 3 + (field.length - 11) = field.length - 8 := by omega
      rw [List.drop_drop, hindex]
      exact hlast
    rw [htake, hdrop, List.append_assoc, List.take_append_drop, List.take_append_drop]
  · rintro ⟨middle, rfl, hmiddle⟩
    have hinner : ((("add".toList ++ middle ++ "-partner".toList).drop 3).take
        (("add".toList ++ middle ++ "-partner".toList).length - 11)) = middle := by
      rw [List.append_assoc, List.drop_left' hadd]
      refine List.take_left' ?_
      simp only [List.length_append, hadd, hpartner]
      omega
    rw [hinner]
    refine ⟨⟨⟨?_, ?_⟩, ?_⟩, hmiddle⟩
    · simp only [List.length_append, hadd, hpartner]
      omega
    · rw [List.append_assoc]
      exact List.prefix_append _ _
    · exact List.suffix_append _ _

/-- The field calls for a refresh of the ports. -/
def refreshes? (field : List Char) : Bool := portsChanged (String.ofList field)

/-- A field that matches does not call for a refresh. -/
theorem refreshes?_of_matches {field : List Char} (h : Matches field) : refreshes? field = false := by
  obtain ⟨middle, rfl, -⟩ := h
  have hchars : (String.ofList ("add".toList ++ middle ++ "-partner".toList)).toList =
      "add".toList ++ middle ++ "-partner".toList := String.toList_ofList
  unfold refreshes? portsChanged
  rw [hchars]
  rfl

/-- The fields that are to be looked at: those from the start of the message on, up to the first empty one
or the first one that calls for a refresh. -/
def examined (message : List Char) : List (List Char) :=
  upTo refreshes? (fields NUL message)

/-! ### The walk -/

/-- What a walk does: the indices of the buffer that it reads, the fields it looks at, whether it sets
`mPartnerUp`, and how often it refreshes the ports. -/
structure Scan where
  reads : List ℕ := []
  fields : List (List Char) := []
  mPartnerUp : Bool := false
  refreshes : ℕ := 0
  deriving DecidableEq, Repr

/-- The loop, with the pointer `cp`.  The condition reads one character; `regex_match` reads the field to
its end, and so does the inner loop. -/
def scan (msg : ℕ → Char) : ℕ → ℕ → Option Scan
  | 0, _ => none
  | fuel + 1, cp =>
      if msg cp = NUL then some { reads := [cp] }
      else
        (cstr NUL msg (fuel + 1) cp).bind fun field =>
          let devtype := strncmp NUL msg "DEVTYPE=typec_".toList cp
          let moisture := strncmp NUL msg "POWER_SUPPLY_MOISTURE_DETECTED".toList cp
          let next := cp + field.length + 1
          if partnerAdded (String.ofList field) then
            (scan msg fuel next).map fun rest =>
              { rest with
                reads := cp :: through cp field ++ through cp field ++ rest.reads
                fields := field :: rest.fields
                mPartnerUp := true }
          else if devtype.1 || moisture.1 then
            some
              { reads := cp :: through cp field ++ devtype.2 ++ if devtype.1 then [] else moisture.2
                fields := [field]
                refreshes := 1 }
          else
            (scan msg fuel next).map fun rest =>
              { rest with
                reads := cp :: through cp field ++ devtype.2 ++ moisture.2 ++ through cp field ++ rest.reads
                fields := field :: rest.fields }

/-- The message, as it was received.  An empty message and one that fills the buffer are dropped. -/
def scanMessage (message : List Char) (before : ℕ → Char) (fuel : ℕ) : Option Scan :=
  if message.length = 0 ∨ UEVENT_MSG_LEN ≤ message.length then some {}
  else scan (buffer message before) fuel 0

/-! ### What the walk does -/

/-- A walk does what it should: it reads no index above the limit, looks at these fields, and sets
`mPartnerUp` and refreshes the ports for them. -/
structure Scan.Right (t : Scan) (limit : ℕ) (expected : List (List Char)) : Prop where
  reads : ∀ i ∈ t.reads, i ≤ limit
  fields : t.fields = expected
  partner : t.mPartnerUp = true ↔ ∃ field ∈ expected, Matches field
  refreshes : t.refreshes ≤ 1

variable {msg : ℕ → Char} {cp : ℕ} {field : List Char}

theorem through_le {limit i : ℕ} (h : cp + field.length ≤ limit) (hi : i ∈ through cp field) :
    i ≤ limit :=
  Nat.le_trans (mem_through.1 hi).2 h

/-- The two comparisons with `strncmp`: together they say whether the field calls for a refresh. -/
theorem strncmp_refreshes? (h : Holds msg cp (field ++ [NUL])) {limit : ℕ}
    (hlimit : cp + field.length ≤ limit) :
    ((strncmp NUL msg "DEVTYPE=typec_".toList cp).1 ||
        (strncmp NUL msg "POWER_SUPPLY_MOISTURE_DETECTED".toList cp).1) =
      refreshes? field ∧
      (∀ i ∈ (strncmp NUL msg "DEVTYPE=typec_".toList cp).2, i ≤ limit) ∧
      ∀ i ∈ (strncmp NUL msg "POWER_SUPPLY_MOISTURE_DETECTED".toList cp).2, i ≤ limit := by
  obtain ⟨hdevtype, hreads⟩ := strncmp_eq h (show NUL ∉ "DEVTYPE=typec_".toList by decide)
  obtain ⟨hmoisture, hreads'⟩ :=
    strncmp_eq h (show NUL ∉ "POWER_SUPPLY_MOISTURE_DETECTED".toList by decide)
  have hchars : (String.ofList field).toList = field := String.toList_ofList
  refine ⟨?_, fun i hi => ?_, fun i hi => ?_⟩
  · rw [hdevtype, hmoisture, refreshes?, portsChanged, hchars]
  · exact Nat.le_trans (hreads i hi).2 hlimit
  · exact Nat.le_trans (hreads' i hi).2 hlimit

/-- A field that calls for no refresh, with what is looked at behind it. -/
theorem Scan.Right.cons {rest t : Scan} {limit : ℕ} {expected : List (List Char)}
    (hright : rest.Right limit (upTo refreshes? expected)) (hrefresh : refreshes? field = false)
    (hreads : ∀ i ∈ t.reads, i ≤ limit) (hfields : t.fields = field :: rest.fields)
    (hpartner : t.mPartnerUp = true ↔ Matches field ∨ rest.mPartnerUp = true)
    (hrefreshes : t.refreshes = rest.refreshes) :
    t.Right limit (upTo refreshes? (field :: expected)) := by
  rw [upTo_cons_of_neg hrefresh]
  refine ⟨hreads, ?_, ?_, ?_⟩
  · rw [hfields, hright.fields]
  · rw [hpartner, hright.partner, List.exists_mem_cons_iff]
  · rw [hrefreshes]
    exact hright.refreshes

/-- One round with a field: the pointer moves on, or the loop ends. -/
theorem scan_field (h : Holds msg cp (field ++ [NUL])) (hnul : NUL ∉ field) (hne : field ≠ [])
    {fuel limit : ℕ} (hfuel : field.length ≤ fuel) (hlimit : cp + field.length ≤ limit)
    {rest : Scan} {expected : List (List Char)} (hrest : scan msg fuel (cp + field.length + 1) = some rest)
    (hright : rest.Right limit (upTo refreshes? expected)) :
    ∃ t, scan msg (fuel + 1) cp = some t ∧ t.Right limit (upTo refreshes? (field :: expected)) := by
  have hcstr := cstr_eq_some h hnul (show field.length < fuel + 1 by omega)
  obtain ⟨hports, hdevtype, hmoisture⟩ := strncmp_refreshes? h hlimit
  have hchar : msg cp ≠ NUL := by
    cases field with
    | nil => exact absurd rfl hne
    | cons c cs =>
        rw [h.1]
        exact fun heq => hnul (heq ▸ List.mem_cons_self)
  have hhere : cp ≤ limit := by omega
  rw [scan, if_neg hchar, hcstr, Option.bind_some]
  dsimp only
  rw [hports]
  by_cases hpartner : partnerAdded (String.ofList field) = true
  · -- a field that matches: the walk goes on behind it
    have hmatches := (partnerAdded_iff field).1 hpartner
    rw [if_pos hpartner, hrest, Option.map_some]
    refine ⟨_, rfl, hright.cons (refreshes?_of_matches hmatches) ?_ rfl ?_ rfl⟩
    · simp only [List.mem_append, List.mem_cons]
      rintro i (((rfl | hi) | hi) | hi)
      · exact hhere
      · exact through_le hlimit hi
      · exact through_le hlimit hi
      · exact hright.reads i hi
    · exact iff_of_true rfl (Or.inl hmatches)
  · have hnot : ¬ Matches field := fun hmatches => hpartner ((partnerAdded_iff field).2 hmatches)
    rw [if_neg hpartner]
    cases hrefresh : refreshes? field with
    | true =>
        rw [if_pos rfl, upTo_cons_of_pos hrefresh]
        refine ⟨_, rfl, ?_, rfl, ?_, Nat.le_refl 1⟩
        · simp only [List.mem_append, List.mem_cons]
          rintro i (((rfl | hi) | hi) | hi)
          · exact hhere
          · exact through_le hlimit hi
          · exact hdevtype i hi
          · split at hi
            · exact absurd hi List.not_mem_nil
            · exact hmoisture i hi
        · refine iff_of_false Bool.false_ne_true ?_
          rintro ⟨f, hf, hmatches⟩
          obtain rfl := List.mem_singleton.1 hf
          exact hnot hmatches
    | false =>
        rw [if_neg Bool.false_ne_true, hrest, Option.map_some]
        refine ⟨_, rfl, hright.cons hrefresh ?_ rfl (or_iff_right hnot).symm rfl⟩
        simp only [List.mem_append, List.mem_cons]
        rintro i (((((rfl | hi) | hi) | hi) | hi) | hi)
        · exact hhere
        · exact through_le hlimit hi
        · exact hdevtype i hi
        · exact hmoisture i hi
        · exact through_le hlimit hi
        · exact hright.reads i hi

/-- The end of the loop. -/
theorem scan_nul (h : msg cp = NUL) {fuel limit : ℕ} (hfuel : 0 < fuel) (hlimit : cp ≤ limit) :
    ∃ t, scan msg fuel cp = some t ∧ t.Right limit (upTo refreshes? []) := by
  obtain ⟨fuel, rfl⟩ : ∃ k, fuel = k + 1 := ⟨fuel - 1, by omega⟩
  rw [scan, if_pos h]
  refine ⟨_, rfl, ?_, rfl, ?_, Nat.zero_le 1⟩
  · intro i hi
    obtain rfl := List.mem_singleton.1 hi
    exact hlimit
  · refine iff_of_false Bool.false_ne_true ?_
    rintro ⟨f, hf, -⟩
    exact absurd hf List.not_mem_nil

/-- **The walk**, from a pointer on, with a rest of the message and the two NULs there.  The induction is on
the length of that rest: a round takes a field and its NUL off it. -/
theorem scan_spec {rest : List Char} (h : Holds msg cp (rest ++ [NUL, NUL])) {fuel : ℕ}
    (hfuel : rest.length < fuel) :
    ∃ t, scan msg fuel cp = some t ∧
      t.Right (cp + rest.length + 1) (upTo refreshes? (fields NUL rest)) := by
  induction hn : rest.length using Nat.strongRecOn generalizing rest cp fuel with
  | ind n ih =>
      subst hn
      rcases field_cases NUL rest with hnul | ⟨field, rest', rfl, hnul⟩
      · -- the last field has no NUL of its own
        cases hrest : rest with
        | nil =>
            subst hrest
            rw [fields_nil]
            exact scan_nul h.1 (by simpa using hfuel) (by omega)
        | cons c cs =>
            rw [← hrest]
            have hne : rest ≠ [] := by simp [hrest]
            have hpos : 0 < rest.length := List.length_pos_iff.2 hne
            obtain ⟨fuel, rfl⟩ : ∃ k, fuel = k + 1 := ⟨fuel - 1, by omega⟩
            rw [holds_append] at h
            obtain ⟨t, ht, hright⟩ := scan_nul h.2.2.1 (show 0 < fuel by omega) (Nat.le_refl _)
            rw [fields_single hnul hne]
            exact scan_field (holds_append.2 ⟨h.1, h.2.1, trivial⟩) hnul hne (by omega) (by omega) ht hright
      · rw [List.append_assoc, holds_append] at h
        obtain ⟨hfield, hhead, hrest⟩ := h
        have hlength : (field ++ NUL :: rest').length = field.length + 1 + rest'.length := by
          rw [List.length_append, List.length_cons]
          omega
        rw [hlength] at ih hfuel ⊢
        cases hcons : field with
        | nil =>
            -- an empty field ends the walk
            subst hcons
            rw [List.nil_append, fields_nul]
            exact scan_nul hhead (by omega) (by omega)
        | cons c cs =>
            rw [← hcons]
            have hne : field ≠ [] := by simp [hcons]
            obtain ⟨fuel, rfl⟩ : ∃ k, fuel = k + 1 := ⟨fuel - 1, by omega⟩
            obtain ⟨t, ht, hright⟩ := ih rest'.length (by omega) hrest (show rest'.length < fuel by omega) rfl
            have hlimit : cp + field.length + 1 + rest'.length + 1 =
                cp + (field.length + 1 + rest'.length) + 1 := by omega
            rw [hlimit] at hright
            rw [fields_append_nul hnul hne]
            exact scan_field (holds_append.2 ⟨hfield, hhead, trivial⟩) hnul hne (by omega) (by omega) ht
              hright

/-! ### Every message -/

/-- The program for all fields of a message is the one for those up to the first that calls for a
refresh. -/
theorem uevent_event_upTo {ω : Type} (fs : List (List Char)) (next : Program ω) :
    uevent_event (fs.map String.ofList) next = uevent_event ((upTo refreshes? fs).map String.ofList) next := by
  induction fs with
  | nil => rfl
  | cons f fs ih =>
      cases hrefresh : refreshes? f with
      | true =>
          have hnot : ¬ partnerAdded (String.ofList f) = true := by
            intro hpartner
            rw [refreshes?_of_matches ((partnerAdded_iff f).1 hpartner)] at hrefresh
            exact Bool.false_ne_true hrefresh
          have hports : portsChanged (String.ofList f) = true := hrefresh
          rw [upTo_cons_of_pos hrefresh, List.map_cons, List.map_cons, uevent_event, uevent_event,
            if_neg hnot, if_neg hnot, if_pos hports, if_pos hports]
      | false =>
          rw [upTo_cons_of_neg hrefresh, List.map_cons, List.map_cons, uevent_event, uevent_event, ih]

/-- **Every message.**  Whatever it contains, the loop ends; it reads no character behind the second of the
appended NULs; it looks at exactly the fields up to the first empty one or the first one that calls for a
refresh; it sets `mPartnerUp` exactly if one of them matches; and it refreshes the ports at most once.  The
program of `uevent_event` for the fields of the message is the one for these fields. -/
theorem uevent_message_scan (message : List Char) (before : ℕ → Char) (hpos : 0 < message.length)
    (hlt : message.length < UEVENT_MSG_LEN) {fuel : ℕ} (hfuel : message.length < fuel) :
    ∃ t, scanMessage message before fuel = some t ∧
      (∀ i ∈ t.reads, i ≤ message.length + 1) ∧
      t.fields = examined message ∧
      (t.mPartnerUp = true ↔ ∃ field ∈ examined message, Matches field) ∧
      t.refreshes ≤ 1 ∧
      ∀ (ω : Type) (next : Program ω),
        uevent_event ((fields NUL message).map String.ofList) next =
          uevent_event (t.fields.map String.ofList) next := by
  obtain ⟨t, ht, hright⟩ := scan_spec (holds_buffer message before) hfuel
  rw [Nat.zero_add] at hright
  refine ⟨t, ?_, hright.reads, hright.fields, hright.partner, hright.refreshes, fun ω next => ?_⟩
  · unfold scanMessage
    rw [if_neg (by omega)]
    exact ht
  · rw [hright.fields]
    exact uevent_event_upTo _ next

/-- A partner that is added, and a field without a NUL at the end. -/
def partnerMessage : List Char := "add@/port0-partner".toList ++ NUL :: "DEVTYPE=typec_partner".toList

theorem uevent_message_scan_partner :
    (0 < partnerMessage.length ∧ partnerMessage.length < UEVENT_MSG_LEN) ∧
      ∃ t, scanMessage partnerMessage (fun _ => 'x') 41 = some t ∧
        (∀ i ∈ t.reads, i ≤ 41) ∧ t.refreshes ≤ 1 := by
  have hpos : 0 < partnerMessage.length := by decide
  have hlt : partnerMessage.length < UEVENT_MSG_LEN := by decide
  obtain ⟨t, ht, hreads, -, -, hrefreshes, -⟩ :=
    uevent_message_scan partnerMessage (fun _ => 'x') hpos hlt (show _ < 41 by decide)
  exact ⟨⟨hpos, hlt⟩, t, ht, hreads, hrefreshes⟩

end UsbHal
