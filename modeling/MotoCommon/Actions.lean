/-
**The actions of the service.**

Every operation of the service is made of the same few atomic actions: readings of the clock, the
critical sections of the manager, changes to a session object, entries in the records of what was
asked of the system.  This module lists them once and proves that every program is made of them, so
that a property of all operations, alone or among others, only has to be proved for each action.

Some kinds of action are set apart, because there are results that hold only without them, or only
where they are known to be used: among them a change of a vote's duration, of the power-efficiency
flag or of the profile, the construction and the removal of a session, and a call of the hint manager.

Main definitions:

* `Adpf.Action` — the actions, with those of a special kind only where they are allowed;
* `Adpf.Op.uses` — the special kinds that an operation uses.

Main results:

* `Adpf.Action.keepsSession` — what an action does to a session that is there;
* `Adpf.Op.within` — **every program is made of these actions**.
-/

import MotoCommon.ManagerSections
import MotoCommon.PowerHintSession

set_option autoImplicit false

namespace Adpf

open Conc

/-! ### The actions -/

/-- The special kinds of action: those that change the duration of a vote or the target of a session, a
preference for power efficiency, the profile, or the standing of a session; those that construct or
remove a session; those that use a session's records; readings of the GPU's frequency; and calls of the
hint manager. -/
inductive Special where
  | duration
  | efficiency
  | profile
  | construct
  | standing
  | removal (sessionId : ℤ)
  | records
  | frequency
  | hint
  deriving DecidableEq, Repr

/-- An action that leaves alone the sessions of the manager, the events and what was asked of the
system about clamps and capacities: a reading of the clock, a change to a session object, a hint. -/
structure Aside (w w' : World) : Prop where
  env : w'.env = w.env
  adpfConfig : w'.adpfConfig = w.adpfConfig
  clock : w.clock ≤ w'.clock
  map : w'.mSessionTaskMap = w.mSessionTaskMap
  decided : w'.decided = w.decided
  queue : w'.queue = w.queue
  running : w'.running = w.running
  schedCalls : w'.schedCalls = w.schedCalls
  gpuWrites : w'.gpuWrites = w.gpuWrites

namespace Aside

variable (w : World)

theorem skip : Aside w w := ⟨rfl, rfl, le_rfl, rfl, rfl, rfl, rfl, rfl, rfl⟩

theorem trans (w w' w'' : World) (h : Aside w w') (h' : Aside w' w'') : Aside w w'' where
  env := h'.env.trans h.env
  adpfConfig := h'.adpfConfig.trans h.adpfConfig
  clock := h.clock.trans h'.clock
  map := h'.map.trans h.map
  decided := h'.decided.trans h.decided
  queue := h'.queue.trans h.queue
  running := h'.running.trans h.running
  schedCalls := h'.schedCalls.trans h.schedCalls
  gpuWrites := h'.gpuWrites.trans h.gpuWrites

theorem newSession (tgid uid : ℤ) (tids : List ℤ) (d : ℤ) :
    Aside w (w.newSession tgid uid tids d).2 :=
  ⟨rfl, rfl, le_rfl, rfl, rfl, rfl, rfl, rfl, rfl⟩

theorem modifySession (s : ℤ) (f : PowerHintSession → PowerHintSession) :
    Aside w (w.modifySession s f) :=
  ⟨rfl, rfl, le_rfl, rfl, rfl, rfl, rfl, rfl, rfl⟩

theorem withRecords (s : ℤ) (f : SessionRecords → PowerHintSession → PowerHintSession) :
    Aside w (w.withRecords s f) := by
  obtain ⟨sessions, faults, heq⟩ := World.withRecords_eq s f w
  rw [heq]
  exact ⟨rfl, rfl, le_rfl, rfl, rfl, rfl, rfl, rfl, rfl⟩

theorem setTaskProfile (profile : TaskProfile) (tid : ℤ) : Aside w (w.setTaskProfile profile tid) :=
  ⟨rfl, rfl, le_rfl, rfl, rfl, rfl, rfl, rfl, rfl⟩

theorem readGpuFrequency : Aside w w.readGpuFrequency.2 := by
  obtain ⟨faults, reads, heq⟩ := World.readGpuFrequency_eq w
  rw [heq]
  exact ⟨rfl, rfl, le_rfl, rfl, rfl, rfl, rfl, rfl, rfl⟩

end Aside

/-- Two states of a session object in which it has the same standing: it is closed in both or in
none, active in both or in none, has records in both or in none, and the same id. -/
structure PowerHintSession.Like (x y : PowerHintSession) : Prop where
  closed : y.mSessionClosed = x.mSessionClosed
  active : y.mDescriptor.is_active = x.mDescriptor.is_active
  records : y.mSessionRecords.isSome = x.mSessionRecords.isSome
  sessionId : y.mDescriptor.sessionId = x.mDescriptor.sessionId

/-- Two such states with the same target. -/
structure PowerHintSession.Alike (x y : PowerHintSession) : Prop extends x.Like y where
  target : y.mDescriptor.targetNs = x.mDescriptor.targetNs

theorem PowerHintSession.Like.refl (x : PowerHintSession) : x.Like x := ⟨rfl, rfl, rfl, rfl⟩

theorem PowerHintSession.Alike.refl (x : PowerHintSession) : x.Alike x := ⟨.refl x, rfl⟩

/-- An action aside that is of no special kind: a reading of the clock, a note in a session object
that leaves its standing alone, a hint. -/
structure Quiet (w w' : World) : Prop extends Aside w w' where
  sessions : ∀ s, (w.sessions s).Alike (w'.sessions s)
  counter : w'.sSessionIDCounter = w.sSessionIDCounter
  removals : w'.removals = w.removals
  gpuReads : w'.gpuReads = w.gpuReads
  taskProfiles : w'.taskProfiles = w.taskProfiles
  faults : w'.faults = w.faults

namespace Quiet

variable (w : World)

theorem skip : Quiet w w where
  toAside := .skip w
  sessions := fun _ => .refl _
  counter := rfl
  removals := rfl
  gpuReads := rfl
  taskProfiles := rfl
  faults := rfl

theorem trans (w w' w'' : World) (h : Quiet w w') (h' : Quiet w' w'') : Quiet w w'' where
  toAside := .trans w w' w'' h.toAside h'.toAside
  sessions := fun s => ⟨⟨(h'.sessions s).closed.trans (h.sessions s).closed,
    (h'.sessions s).active.trans (h.sessions s).active,
    (h'.sessions s).records.trans (h.sessions s).records,
    (h'.sessions s).sessionId.trans (h.sessions s).sessionId⟩,
    (h'.sessions s).target.trans (h.sessions s).target⟩
  counter := h'.counter.trans h.counter
  removals := h'.removals.trans h.removals
  gpuReads := h'.gpuReads.trans h.gpuReads
  taskProfiles := h'.taskProfiles.trans h.taskProfiles
  faults := h'.faults.trans h.faults

theorem readClock : Quiet w w.readClock.2 where
  toAside := ⟨rfl, rfl, by simp [World.readClock], rfl, rfl, rfl, rfl, rfl, rfl⟩
  sessions := fun _ => .refl _
  counter := rfl
  removals := rfl
  gpuReads := rfl
  taskProfiles := rfl
  faults := rfl

theorem modifySession {s : ℤ} {f : PowerHintSession → PowerHintSession}
    (hf : (w.sessions s).Alike (f (w.sessions s))) : Quiet w (w.modifySession s f) where
  toAside := .modifySession w s f
  sessions := by
    intro s'
    by_cases hs : s' = s
    · rw [hs, World.sessions_modifySession_self]
      exact hf
    · rw [World.sessions_modifySession_of_ne hs]
      exact .refl _
  counter := rfl
  removals := rfl
  gpuReads := rfl
  taskProfiles := rfl
  faults := rfl

/-- Where only the hints, or the map of the session objects, change. -/
theorem record (hints : List HintCall) (m : UMap ℤ ℤ) :
    Quiet w { w with hintCalls := hints, mSessionMap := m } where
  toAside := ⟨rfl, rfl, le_rfl, rfl, rfl, rfl, rfl, rfl, rfl⟩
  sessions := fun _ => .refl _
  counter := rfl
  removals := rfl
  gpuReads := rfl
  taskProfiles := rfl
  faults := rfl

theorem sendPowerHint (s : ℤ) (hint : String) : Quiet w (w.sendPowerHint s hint) := by
  unfold World.sendPowerHint
  dsimp only
  split
  · exact trans _ _ _ (modifySession w ⟨⟨rfl, rfl, rfl, rfl⟩, rfl⟩) (record _ _ _)
  · exact modifySession w ⟨⟨rfl, rfl, rfl, rfl⟩, rfl⟩

theorem callBoostHint (call : String → HintCall) : Quiet w (w.callBoostHint call) := by
  unfold World.callBoostHint
  split
  · exact record w _ _
  · exact skip w

theorem sessionMap (m : UMap ℤ ℤ) : Quiet w { w with mSessionMap := m } := record w _ m

theorem lookupSession (s : ℤ) : Quiet w (w.lookupSession s).2 := by
  unfold World.lookupSession
  split
  · exact skip w
  · split
    · exact sessionMap w _
    · exact skip w

end Quiet

/-- The actions aside that are of a special kind: a session object is constructed, or changes its
standing but not its records, or its target; a thread is given a profile; the records are used; the
GPU's frequency is read; the hint manager is called. -/
inductive Apart : Special → World → World → Prop
  | construct (tgid uid : ℤ) (tids : List ℤ) (d : ℤ) (w : World) :
      Apart .construct w (w.newSession tgid uid tids d).2
  | activate (s : ℤ) (b : Bool) (w : World) :
      Apart .standing w (w.modifyDescriptor s fun d => { d with is_active := b })
  | retarget (s t : ℤ) (w : World) :
      Apart .duration w (w.modifyDescriptor s fun d => { d with targetNs := t })
  | close (s : ℤ) (w : World) :
      Apart (.removal s) w (w.modifySession s fun x => { x with mSessionClosed := true })
  | taskProfile (profile : TaskProfile) (tid : ℤ) (w : World) :
      Apart .standing w (w.setTaskProfile profile tid)
  | records (s : ℤ) (f : SessionRecords → PowerHintSession → PowerHintSession) (w : World) :
      (∀ r (x : PowerHintSession), x.mSessionRecords = some r → x.Alike (f r x)) →
      Apart .records w (w.withRecords s f)
  | frequency (w : World) : Apart .frequency w w.readGpuFrequency.2
  | hint {w w' : World} : Quiet w w' → Apart .hint w w'

theorem Apart.aside {k : Special} {w w' : World} (h : Apart k w w') : Aside w w' := by
  cases h with
  | construct tgid uid tids d => exact .newSession w tgid uid tids d
  | activate s b => exact .modifySession w s _
  | retarget s t => exact .modifySession w s _
  | close s => exact .modifySession w s _
  | taskProfile profile tid => exact .setTaskProfile w profile tid
  | records s f _ _ => exact .withRecords w s f
  | frequency => exact .readGpuFrequency w
  | hint hq => exact hq.toAside

/-- One atomic action of the service. -/
inductive Action (allowed : Special → Prop) : World → World → Prop
  | quiet {w w' : World} : Quiet w w' → w'.hintCalls = w.hintCalls → Action allowed w w'
  | apart {w w' : World} {k : Special} : allowed k → Apart k w w' → Action allowed w w'
  | add (desc : AppHintDesc) (t : ℤ) (w : World) : allowed .standing →
      Action allowed w (w.addSection desc t)
  | force (s : ℤ) (b : Bool) (w : World) : allowed .standing →
      Action allowed w (w.forceSection s b).2
  | switch (s : ℤ) (b : Bool) (w : World) : allowed .standing →
      Action allowed w (w.switchSection s b).2
  | replace (s : ℤ) (tids : List ℤ) (w : World) : allowed .standing →
      Action allowed w (w.replaceSection s tids).2
  | remove (s : ℤ) (w : World) : allowed (.removal s) → Action allowed w (w.removeSection s).2
  | apply (s t : ℤ) (w : World) : Action allowed w (w.applyVotes s t)
  | vote (e : Timeout) (d : ℤ) (b : World.Ballot) (w : World) :
      e.deadline = addNanos e.timeStamp d → Action allowed w (w.voteSection e d b).2
  | disable (s : ℤ) (w : World) : Action allowed w (w.disableSection s)
  | expire (e : Timeout) (t : ℤ) (w : World) : Action allowed w (w.expireSection e t).2
  | enqueue (e : Timeout) (w : World) : Action allowed w (w.enqueue e)
  | pop (i : ℕ) (w : World) : Action allowed w (w.pop i).2
  | duration (s v d : ℤ) (w : World) : allowed .duration → Action allowed w (w.durationSection s v d)
  | efficiency (s : ℤ) (b : Bool) (w : World) : allowed .efficiency →
      Action allowed w (w.efficiencySection s b).2
  | uclamp (s t : ℤ) (w : World) : allowed .efficiency → Action allowed w (w.applyUclampLocked s t)
  | profile (mode : String) (b : Bool) (w : World) : allowed .profile →
      Action allowed w (w.hintMode mode b)

/-! ### What every action preserves -/

namespace Action

open SessionTaskMap World

variable {A : Special → Prop} {w w' : World}

theorem wf (h : Action A w w') (hw : Wf w.mSessionTaskMap) : Wf w'.mSessionTaskMap := by
  cases h with
  | quiet hq =>
      rw [hq.map]
      exact hw
  | apart _ ha =>
      rw [ha.aside.map]
      exact hw
  | add desc t _ _ => exact wf_addSection hw desc t
  | force s b _ _ => exact wf_forceSection hw s b
  | switch s b _ _ =>
      rcases switchSection_cases w s b with ⟨heq, -⟩ | ⟨heq, -⟩
      · rw [heq]
        exact hw
      · rw [heq]
        exact wf_forceSection hw s b
  | apply s t => exact (applyVotes_refreshes hw s t).wf
  | replace s tids _ _ => exact wf_replaceSection hw s tids
  | remove s _ _ => exact wf_removeSection hw s
  | vote e d b _ _ =>
      rcases voteSection_cases w e d b with ⟨-, heq⟩ | ⟨p, decided, hp, heq⟩
      · rw [heq]
        exact hw
      · rw [heq]
        exact (voted_refreshes hw hp d b).wf
  | disable s => exact wf_writeVotes hw s _
  | expire e t =>
      rcases expireSection_world w e t with ⟨decided, heq⟩ | heq
      · rw [heq]
        exact hw
      · rw [heq]
        exact wf_writeVotes (w := { w with running := w.running.erase e }) hw _ _
  | enqueue e => exact hw
  | pop i =>
      obtain ⟨queue, running, heq⟩ := World.pop_eq i w
      rw [heq]
      exact hw
  | duration s v d _ _ => exact wf_writeVotes hw s _
  | efficiency s b _ _ =>
      rcases efficiencySection_cases w s b with heq | ⟨p, -, heq⟩
      · rw [heq]
        exact hw
      · rw [heq]
        exact hw.modifyVal p (efficientVal b) (fun _ => rfl) fun _ => rfl
  | uclamp s t _ _ => exact (applyUclampLocked_refreshes hw s t).wf
  | profile mode b _ _ =>
      obtain ⟨rate, heq⟩ := hintMode_eq mode b w
      rw [heq]
      exact hw

/-- Only a change of the profile changes the profile, and nothing changes the environment or turns
time back. -/
theorem frame (h : Action A w w') :
    Frame w w' ∨ ∃ mode b, A .profile ∧ w' = w.hintMode mode b := by
  cases h with
  | profile mode b _ hk => exact Or.inr ⟨mode, b, hk, rfl⟩
  | quiet hq => exact Or.inl ⟨hq.env, hq.adpfConfig, hq.clock⟩
  | apart _ ha => exact Or.inl ⟨ha.aside.env, ha.aside.adpfConfig, ha.aside.clock⟩
  | add desc t _ _ => exact Or.inl ⟨rfl, rfl, le_rfl⟩
  | force s b _ _ => exact Or.inl (onlyMap_forceSection w s b).frame
  | switch s b _ _ => exact Or.inl (onlyMap_switchSection w s b).frame
  | apply s t => exact Or.inl (onlyOutputs_applyVotes w s t).frame
  | replace s tids _ _ => exact Or.inl ⟨rfl, rfl, le_rfl⟩
  | remove s _ _ => exact Or.inl ⟨rfl, rfl, le_rfl⟩
  | vote e d b _ he =>
      left
      rcases voteSection_cases w e d b with ⟨-, heq⟩ | ⟨p, decided, -, heq⟩
      · rw [heq]
        exact ⟨rfl, rfl, le_rfl⟩
      · have hvoted := (onlyOutputs_voted w e d b p).frame
        rw [heq]
        exact ⟨hvoted.env, hvoted.adpfConfig, hvoted.clock⟩
  | disable s => exact Or.inl (onlyMap_writeVotes w s _).frame
  | expire e t =>
      left
      rcases expireSection_world w e t with ⟨decided, heq⟩ | heq
      · rw [heq]
        exact ⟨rfl, rfl, le_rfl⟩
      · rw [heq, onlyMap_writeVotes]
        exact ⟨rfl, rfl, le_rfl⟩
  | enqueue e => exact Or.inl ⟨rfl, rfl, le_rfl⟩
  | pop i =>
      obtain ⟨queue, running, heq⟩ := World.pop_eq i w
      rw [heq]
      exact Or.inl ⟨rfl, rfl, le_rfl⟩
  | duration s v d _ hk => exact Or.inl (onlyMap_writeVotes w s _).frame
  | efficiency s b _ _ => exact Or.inl (onlyMap_efficiencySection w s b).frame
  | uclamp s t _ _ => exact Or.inl (onlyOutputs_applyUclampLocked w s t).frame

/-- What the other actions leave alone: the standing of the session objects, their number, the calls
that remove a session and those of the hint manager, the readings of the GPU's frequency, and the
faults but for the pointer to the GPU's node. -/
structure Objects (w w' : World) : Prop where
  sessions : ∀ s, (w.sessions s).Alike (w'.sessions s)
  counter : w'.sSessionIDCounter = w.sSessionIDCounter
  removals : w'.removals = w.removals
  hintCalls : w'.hintCalls = w.hintCalls
  gpuReads : w'.gpuReads = w.gpuReads
  faults : FaultsAtNode w w'

theorem Objects.of_onlyMap (h : OnlyMap w w') : Objects w w' := by
  rw [OnlyMap] at h
  rw [h]
  exact ⟨fun _ => .refl _, rfl, rfl, rfl, rfl, Or.inl rfl⟩

theorem Objects.of_onlyOutputs (h : OnlyOutputs w w') (hf : FaultsAtNode w w') : Objects w w' := by
  rw [OnlyOutputs] at h
  refine ⟨fun s => ?_, ?_, ?_, ?_, ?_, hf⟩
  · rw [h]
    exact .refl _
  · rw [h]
  · rw [h]
  · rw [h]
  · rw [h]

theorem objects (h : Action A w w') :
    Objects w w' ∨ (∃ s, A (.removal s) ∧ w' = (w.removeSection s).2) ∨
      ∃ k, A k ∧ Apart k w w' := by
  have hsame : ∀ d q r, Objects w { w with decided := d, queue := q, running := r } :=
    fun _ _ _ => ⟨fun _ => .refl _, rfl, rfl, rfl, rfl, Or.inl rfl⟩
  cases h with
  | quiet hq hcalls =>
      exact Or.inl ⟨hq.sessions, hq.counter, hq.removals, hcalls, hq.gpuReads, Or.inl hq.faults⟩
  | apart hk ha => exact Or.inr (Or.inr ⟨_, hk, ha⟩)
  | add desc t _ _ => exact Or.inl (.of_onlyMap rfl)
  | force s b _ _ => exact Or.inl (.of_onlyMap (onlyMap_forceSection w s b))
  | switch s b _ _ => exact Or.inl (.of_onlyMap (onlyMap_switchSection w s b))
  | replace s tids _ _ => exact Or.inl (.of_onlyMap rfl)
  | remove s _ hk => exact Or.inr (Or.inl ⟨s, hk, rfl⟩)
  | apply s t =>
      exact Or.inl (.of_onlyOutputs (onlyOutputs_applyVotes w s t) (applyVotes_faults w s t))
  | vote e d b _ he =>
      left
      rcases voteSection_cases w e d b with ⟨-, heq⟩ | ⟨p, decided, -, heq⟩
      · rw [heq]
        exact hsame _ _ _
      · have hvoted := Objects.of_onlyOutputs (onlyOutputs_voted w e d b p) (voted_faults w e d b p)
        rw [heq]
        exact ⟨hvoted.sessions, hvoted.counter, hvoted.removals, hvoted.hintCalls, hvoted.gpuReads,
          hvoted.faults⟩
  | disable s => exact Or.inl (.of_onlyMap (onlyMap_writeVotes w s _))
  | expire e t =>
      left
      rcases expireSection_world w e t with ⟨decided, heq⟩ | heq
      · rw [heq]
        exact hsame _ _ _
      · rw [heq]
        have hwrite := onlyMap_writeVotes { w with running := w.running.erase e } e.sessionId
          fun vs => (vs.setUseVote e.voteId false).2
        obtain ⟨hsessions, hcounter, hremovals, hcalls, hreads, hfaults⟩ :=
          Objects.of_onlyMap hwrite
        exact ⟨hsessions, hcounter, hremovals, hcalls, hreads, hfaults⟩
  | enqueue e => exact Or.inl (hsame _ _ _)
  | pop i =>
      left
      obtain ⟨queue, running, heq⟩ := World.pop_eq i w
      rw [heq]
      exact hsame _ _ _
  | duration s v d _ _ => exact Or.inl (.of_onlyMap (onlyMap_writeVotes w s _))
  | efficiency s b _ _ => exact Or.inl (.of_onlyMap (onlyMap_efficiencySection w s b))
  | uclamp s t _ _ =>
      exact Or.inl (.of_onlyOutputs (onlyOutputs_applyUclampLocked w s t)
        (Or.inl (applyUclampLocked_outputs w s t).1))
  | profile mode b _ _ =>
      left
      obtain ⟨rate, heq⟩ := hintMode_eq mode b w
      rw [heq]
      exact ⟨fun _ => .refl _, rfl, rfl, rfl, rfl, Or.inl rfl⟩

/-- Session `s` before and after an action: it is closed only by its removal, activated only by what is
about the standing of sessions, and given a target only with a duration. -/
structure Kept (A : Special → Prop) (s : ℤ) (x y : PowerHintSession) : Prop where
  closed : ¬ A (.removal s) → y.mSessionClosed = x.mSessionClosed
  active : ¬ A .standing → y.mDescriptor.is_active = x.mDescriptor.is_active
  target : ¬ A .duration → y.mDescriptor.targetNs = x.mDescriptor.targetNs
  records : y.mSessionRecords.isSome = x.mSessionRecords.isSome
  sessionId : y.mDescriptor.sessionId = x.mDescriptor.sessionId

theorem Kept.of_alike {s : ℤ} {x y : PowerHintSession} (h : x.Alike y) : Kept A s x y :=
  ⟨fun _ => h.closed, fun _ => h.active, fun _ => h.target, h.records, h.sessionId⟩

theorem Kept.modifySession {s s' : ℤ} {f : PowerHintSession → PowerHintSession}
    (h : ∀ x, s = s' → Kept A s x (f x)) (w : World) :
    Kept A s (w.sessions s) ((w.modifySession s' f).sessions s) := by
  by_cases hs : s = s'
  · rw [← hs, sessions_modifySession_self]
    exact h _ hs
  · rw [sessions_modifySession_of_ne hs]
    exact .of_alike (.refl _)

/-- What an action that constructs no session leaves alone about session `s`. -/
structure KeepsSession (A : Special → Prop) (s : ℤ) (w w' : World) : Prop
    extends Kept A s (w.sessions s) (w'.sessions s) where
  removals : ¬ A (.removal s) → w'.removals.count s = w.removals.count s
  counter : w'.sSessionIDCounter = w.sSessionIDCounter

theorem KeepsSession.of_alike {s : ℤ} (h : (w.sessions s).Alike (w'.sessions s))
    (hr : w'.removals = w.removals) (hc : w'.sSessionIDCounter = w.sSessionIDCounter) :
    KeepsSession A s w w' :=
  ⟨.of_alike h, fun _ => by rw [hr], hc⟩

/-- **What an action does to a session that is there.** -/
theorem keepsSession (h : Action A w w') (hnew : ¬ A .construct) (s : ℤ) : KeepsSession A s w w' := by
  rcases h.objects with ho | ⟨s', hk, rfl⟩ | ⟨k, hk, ha⟩
  · exact .of_alike (ho.sessions s) ho.removals ho.counter
  -- the removal of another session
  · refine ⟨.of_alike (.refl _), fun hrem => ?_, rfl⟩
    have hne : s' ≠ s := fun heq => hrem (heq ▸ hk)
    exact List.count_cons_of_ne hne
  · cases ha with
    | construct tgid uid tids d => exact absurd hk hnew
    | activate s' b =>
        refine ⟨.modifySession (fun x _ => ?_) w, fun _ => rfl, rfl⟩
        exact ⟨fun _ => rfl, fun hstand => absurd hk hstand, fun _ => rfl, rfl, rfl⟩
    | retarget s' t =>
        refine ⟨.modifySession (fun x _ => ?_) w, fun _ => rfl, rfl⟩
        exact ⟨fun _ => rfl, fun _ => rfl, fun hdur => absurd hk hdur, rfl, rfl⟩
    | close s' =>
        refine ⟨.modifySession (fun x hs => ?_) w, fun _ => rfl, rfl⟩
        exact ⟨fun hrem => absurd (hs ▸ hk) hrem, fun _ => rfl, fun _ => rfl, rfl, rfl⟩
    | taskProfile profile tid => exact .of_alike (.refl _) rfl rfl
    | records s' f _ hf =>
        unfold World.withRecords
        cases hrec : (w.sessions s').mSessionRecords with
        | none => exact .of_alike (.refl _) rfl rfl
        | some r =>
            have hquiet : Quiet w (w.modifySession s' (f r)) := .modifySession w (hf r _ hrec)
            exact .of_alike (hquiet.sessions s) rfl rfl
    | frequency =>
        obtain ⟨faults, reads, heq⟩ := World.readGpuFrequency_eq w
        rw [heq]
        exact .of_alike (.refl _) rfl rfl
    | hint hq => exact .of_alike (hq.sessions s) hq.removals hq.counter

/-- Only a reading of the GPU's frequency counts as one. -/
theorem gpuReads (h : Action A w w') (hA : ¬ A .frequency) : w'.gpuReads = w.gpuReads := by
  rcases h.objects with ho | ⟨s, -, rfl⟩ | ⟨k, hk, ha⟩
  · exact ho.gpuReads
  · rfl
  · cases ha with
    | construct tgid uid tids d => rfl
    | activate s b => rfl
    | retarget s t => rfl
    | close s => rfl
    | taskProfile profile tid => rfl
    | records s f _ _ =>
        obtain ⟨sessions, faults, heq⟩ := World.withRecords_eq s f w
        rw [heq]
    | frequency => exact absurd hk hA
    | hint hq => exact hq.gpuReads

/-- Only a call of the hint manager counts as one. -/
theorem hintCalls (h : Action A w w') (hA : ¬ A .hint) : w'.hintCalls = w.hintCalls := by
  rcases h.objects with ho | ⟨s, -, rfl⟩ | ⟨k, hk, ha⟩
  · exact ho.hintCalls
  · rfl
  · cases ha with
    | construct tgid uid tids d => rfl
    | activate s b => rfl
    | retarget s t => rfl
    | close s => rfl
    | taskProfile profile tid => rfl
    | records s f _ _ =>
        obtain ⟨sessions, faults, heq⟩ := World.withRecords_eq s f w
        rw [heq]
    | frequency =>
        obtain ⟨faults, reads, heq⟩ := World.readGpuFrequency_eq w
        rw [heq]
    | hint hq => exact absurd hk hA

theorem clock_le (h : Action A w w') : w.clock ≤ w'.clock := by
  rcases h.frame with hf | ⟨mode, b, -, rfl⟩
  · exact hf.clock
  · obtain ⟨rate, heq⟩ := hintMode_eq mode b w
    exact (congrArg World.clock heq).ge

theorem env (h : Action A w w') : w'.env = w.env := by
  rcases h.frame with hf | ⟨mode, b, -, rfl⟩
  · exact hf.env
  · obtain ⟨rate, heq⟩ := hintMode_eq mode b w
    rw [heq]

end Action

/-! ### The programs of the manager -/

section Manager

open PowerSessionManager Prog

variable {A : Special → Prop}

/-- Reading the clock is within any relation that has the quiet actions. -/
theorem now_within' {G : World → World → Prop} (hG : ∀ w w', Quiet w w' → G w w') : now.Within G :=
  Within.atomic fun w => hG _ _ (.readClock w)

theorem updateUniversalBoostMode_within' {G : World → World → Prop}
    (hG : ∀ w w', Quiet w w' → G w w') : updateUniversalBoostMode.Within G := by
  refine Within.bind ?_ fun active => Within.ite ?_ ?_
  · exact Within.critical (Within.bind (now_within' hG) fun _ => Within.read fun w => hG _ _ (.skip w))
  · exact Within.modify fun w => hG _ _ (.callBoostHint w _)
  · exact Within.modify fun w => hG _ _ (.callBoostHint w _)

theorem now_within : now.Within (Action A) := Within.atomic fun w => .quiet (.readClock w) rfl

theorem schedule_within (e : Timeout) : (schedule e).Within (Action A) :=
  Within.bind (Within.critical (Within.ret ())) fun _ =>
    Within.critical (Within.modify fun w => .enqueue e w)

theorem updateUniversalBoostMode_within (h : A .hint) : updateUniversalBoostMode.Within (Action A) :=
  updateUniversalBoostMode_within' fun _ _ hq => .apart h (.hint hq)

theorem applyCpuAndGpuVotes_within (s t : ℤ) : (applyCpuAndGpuVotes s t).Within (Action A) :=
  Within.critical (Within.modify fun w => .apply s t w)

theorem refresh_within (h : A .hint) (s : ℤ) : (refresh s).Within (Action A) :=
  Within.bind now_within fun t => Within.bind (applyCpuAndGpuVotes_within s t) fun _ =>
    updateUniversalBoostMode_within h

theorem forceSessionActive_within (h : A .standing) (hh : A .hint) (s : ℤ) (b : Bool) :
    (forceSessionActive s b).Within (Action A) :=
  Within.bind (Within.critical (Within.atomic fun w => .force s b w h)) fun _ =>
    Within.when (refresh_within hh s)

theorem pause_within (h : A .standing) (hh : A .hint) (s : ℤ) :
    (PowerSessionManager.pause s).Within (Action A) :=
  Within.bind (Within.critical (Within.atomic fun w => .switch s false w h)) fun _ =>
    Within.when (refresh_within hh s)

theorem resume_within (h : A .standing) (hh : A .hint) (s : ℤ) :
    (PowerSessionManager.resume s).Within (Action A) :=
  Within.bind (Within.critical (Within.atomic fun w => .switch s true w h)) fun _ =>
    Within.when (refresh_within hh s)

theorem setTaskProfiles_within (h : A .standing) (profile : TaskProfile) (tids : List ℤ) :
    (setTaskProfiles profile tids).Within (Action A) :=
  Within.forEach (fun tid => Within.modify fun w => .apart h (.taskProfile profile tid w)) tids

theorem setThreadsFromPowerSession_within (h : A .standing) (hh : A .hint) (s : ℤ) (tids : List ℤ) :
    (setThreadsFromPowerSession s tids).Within (Action A) := by
  refine Within.bind (forceSessionActive_within h hh s false) fun _ => ?_
  refine Within.bind (Within.critical (Within.atomic fun w => .replace s tids w h)) fun threads => ?_
  refine Within.bind (setTaskProfiles_within h _ threads.1) fun _ => ?_
  exact Within.bind (setTaskProfiles_within h _ threads.2) fun _ => forceSessionActive_within h hh s true

theorem addPowerSession_within (h : A .standing) (hh : A .hint) (desc : Option AppHintDesc)
    (tids : List ℤ) :
    (addPowerSession desc tids).Within (Action A) := by
  cases desc with
  | none => exact Within.ret ()
  | some desc =>
      refine Within.bind now_within fun t => ?_
      refine Within.bind (Within.critical (Within.modify fun w => .add desc t w h)) fun _ => ?_
      exact setThreadsFromPowerSession_within h hh desc.sessionId tids

theorem removePowerSession_within {s : ℤ} (h : A .standing) (hh : A .hint) (hr : A (.removal s)) :
    (removePowerSession s).Within (Action A) := by
  refine Within.bind (forceSessionActive_within h hh s false) fun _ => ?_
  refine Within.bind (Within.critical (Within.atomic fun w => .remove s w hr)) fun removed => ?_
  refine Within.bind (setTaskProfiles_within h _ removed) fun _ => ?_
  exact Within.critical (Within.modify fun w => .quiet (.sessionMap w _) rfl)

theorem castVote_within (s : ℤ) (v : AdpfVoteType) (b : World.Ballot) (t d : ℤ) :
    (castVote s v b t d).Within (Action A) :=
  Within.bind (Within.critical (Within.atomic fun w => .vote (timeoutOf s v t d) d b w rfl)) fun _ =>
    Within.when (schedule_within _)

theorem disableBoosts_within (s : ℤ) : (disableBoosts s).Within (Action A) :=
  Within.critical (Within.modify fun w => .disable s w)

theorem handleEvent_within (h : A .hint) (e : Timeout) : (handleEvent e).Within (Action A) := by
  refine Within.bind now_within fun t => ?_
  refine Within.bind (Within.critical ?_) fun _ => Within.when ?_
  · refine Within.bind (Within.atomic fun w => .expire e t w) fun verdict => ?_
    refine Within.bind ?_ fun _ => Within.ret verdict
    cases verdict with
    | drop => exact Within.ret ()
    | expired => exact Within.ret ()
    | requeue e' => exact schedule_within e'
  · exact Within.bind (applyCpuAndGpuVotes_within e.sessionId t) fun _ =>
      updateUniversalBoostMode_within h

theorem workerRound_within (h : A .hint) (i : ℕ) : (workerRound i).Within (Action A) := by
  refine Within.bind (Within.critical (Within.atomic fun w => .pop i w)) fun event => ?_
  cases event with
  | none => exact Within.ret ()
  | some e =>
      exact Within.critical (Within.bind (Within.critical (Within.ret ())) fun _ =>
        handleEvent_within h e)

theorem updateTargetWorkDuration_within (h : A .duration) (s : ℤ) (v : AdpfVoteType) (d : ℤ) :
    (PowerSessionManager.updateTargetWorkDuration s v d).Within (Action A) :=
  Within.critical (Within.modify fun w => .duration s v.toInt d w h)

theorem setPreferPowerEfficiency_within (h : A .efficiency) (s : ℤ) (b : Bool) :
    (setPreferPowerEfficiency s b).Within (Action A) :=
  Within.critical (Within.bind (Within.atomic fun w => .efficiency s b w h) fun _ =>
    Within.when (Within.bind now_within fun t => Within.modify fun w => .uclamp s t w h))

theorem lookupSession_hintCalls (w : World) (s : ℤ) :
    (w.lookupSession s).2.hintCalls = w.hintCalls := by
  unfold World.lookupSession
  split
  · rfl
  · split <;> rfl

/-- The special kinds of action that an operation of the manager uses. -/
def ManagerOp.uses : ManagerOp → Special → Prop
  | .addPowerSession _ _, .standing => True
  | .addPowerSession _ _, .hint => True
  | .removePowerSession _, .standing => True
  | .removePowerSession _, .hint => True
  | .removePowerSession s, .removal s' => s' = s
  | .setThreadsFromPowerSession _ _, .standing => True
  | .setThreadsFromPowerSession _ _, .hint => True
  | .pause _, .standing => True
  | .pause _, .hint => True
  | .resume _, .standing => True
  | .resume _, .hint => True
  | .updateUniversalBoostMode, .hint => True
  | .gpuFrequency, .frequency => True
  | .updateTargetWorkDuration _ _ _, .duration => True
  | .setPreferPowerEfficiency _ _, .efficiency => True
  | .updateHintMode _ _, .profile => True
  | _, _ => False

theorem ManagerOp.within (op : ManagerOp) (h : ∀ k, op.uses k → A k) :
    op.prog.Within (Action A) := by
  cases op with
  | addPowerSession desc tids => exact addPowerSession_within (h _ trivial) (h _ trivial) desc tids
  | removePowerSession s => exact removePowerSession_within (h _ trivial) (h _ trivial) (h _ rfl)
  | setThreadsFromPowerSession s tids =>
      exact setThreadsFromPowerSession_within (h _ trivial) (h _ trivial) s tids
  | pause s => exact pause_within (h _ trivial) (h _ trivial) s
  | resume s => exact resume_within (h _ trivial) (h _ trivial) s
  | updateTargetWorkDuration s v d => exact updateTargetWorkDuration_within (h _ trivial) s v d
  | voteSet s v lo hi t d => exact castVote_within s v (.cpu lo hi) t d
  | voteSetGpu s v c t d => exact castVote_within s v (.gpu c) t d
  | disableBoosts s => exact disableBoosts_within s
  | setPreferPowerEfficiency s b => exact setPreferPowerEfficiency_within (h _ trivial) s b
  | updateUniversalBoostMode => exact updateUniversalBoostMode_within (h _ trivial)
  | updateHintMode mode b => exact Within.modify fun w => .profile mode b w (h _ trivial)
  | updateHintBoost boost d => exact Within.ret ()
  | getDisplayRefreshRate =>
      exact Within.bind (Within.read fun w => .quiet (.skip w) rfl) fun _ => Within.ret ()
  | gpuFrequency =>
      exact Within.bind (Within.atomic fun w => .apart (h .frequency trivial) (.frequency w)) fun _ =>
        Within.ret ()
  | registerSession s => exact Within.critical (Within.modify fun w => .quiet (.sessionMap w _) rfl)
  | unregisterSession s => exact Within.critical (Within.modify fun w => .quiet (.sessionMap w _) rfl)
  | getSession s =>
      have hlookup : ∀ w : World, Action A w (w.lookupSession s).2 := fun w =>
        .quiet (.lookupSession w s) (lookupSession_hintCalls w s)
      exact Within.bind (Within.critical (Within.atomic hlookup)) fun _ =>
        Within.ret ()
  | clear => exact Within.critical (Within.modify fun w => .quiet (.sessionMap w _) rfl)
  | dumpToFd => exact Within.critical (Within.ret ())

end Manager

/-! ### The programs of a session -/

section Session

open PowerHintSession Prog

variable {A : Special → Prop}

theorem self_within (s : ℤ) : (self s).Within (Action A) := Within.read fun w => .quiet (.skip w) rfl

theorem getAdpfProfile_within : getAdpfProfile.Within (Action A) :=
  Within.read fun w => .quiet (.skip w) rfl

/-- A note in a session object. -/
theorem modifySession_within (s : ℤ) {f : PowerHintSession → PowerHintSession}
    (hf : ∀ x : PowerHintSession, x.Alike (f x)) :
    (Prog.modify (World.modifySession s f) : P Unit).Within (Action A) :=
  Within.modify fun w => .quiet (.modifySession w (hf _)) rfl

/-- A session is noted as active or paused. -/
theorem activate_within (h : A .standing) (s : ℤ) (b : Bool) :
    (Prog.modify (World.modifyDescriptor s fun d => { d with is_active := b }) : P Unit).Within
      (Action A) :=
  Within.modify fun w => .apart h (.activate s b w)

/-- A session gets a new target. -/
theorem retarget_within (h : A .duration) (s t : ℤ) :
    (Prog.modify (World.modifyDescriptor s fun d => { d with targetNs := t }) : P Unit).Within
      (Action A) :=
  Within.modify fun w => .apart h (.retarget s t w)

theorem touchSession_within (s : ℤ) : (touchSession s).Within (Action A) :=
  Within.bind now_within fun _ => modifySession_within s fun _ => ⟨⟨rfl, rfl, rfl, rfl⟩, rfl⟩

theorem create_within (hnew : A .construct) (h : A .standing) (hh : A .hint) (tgid uid : ℤ)
    (tids : List ℤ) (d : ℤ) :
    (create tgid uid tids d).Within (Action A) := by
  refine Within.bind (Within.atomic fun w => .apart hnew (.construct tgid uid tids d w)) fun sid => ?_
  refine Within.bind (touchSession_within sid) fun _ => ?_
  refine Within.bind (self_within sid) fun s => ?_
  refine Within.bind (addPowerSession_within h hh _ tids) fun _ => ?_
  refine Within.bind getAdpfProfile_within fun adpfConfig => ?_
  refine Within.bind now_within fun t => ?_
  refine Within.bind (castVote_within sid _ _ t _) fun _ => ?_
  refine Within.bind now_within fun t => ?_
  exact Within.bind (castVote_within sid _ _ t _) fun _ => Within.ret sid

theorem isTimeout_within (s : ℤ) : (isTimeout s).Within (Action A) :=
  Within.bind now_within fun _ => Within.bind (self_within s) fun _ =>
    Within.bind getAdpfProfile_within fun _ => Within.ret _

theorem updatePidControlVariable_within (s v : ℤ) (b : Bool) :
    (updatePidControlVariable s v b).Within (Action A) := by
  refine Within.bind (modifySession_within s fun _ => ⟨⟨rfl, rfl, rfl, rfl⟩, rfl⟩) fun _ => Within.when ?_
  refine Within.bind getAdpfProfile_within fun _ => ?_
  refine Within.bind (self_within s) fun _ => ?_
  exact Within.bind now_within fun t => castVote_within s _ _ t _

theorem tryToSendPowerHint_within (h : A .hint) (s : ℤ) (hint : String) :
    (tryToSendPowerHint s hint).Within (Action A) :=
  Within.modify fun w => .apart h (.hint (.sendPowerHint w s hint))

theorem whileOpen_within (s : ℤ) {p : PowerHintSession → P Status}
    (hp : ∀ self, (p self).Within (Action A)) : (whileOpen s p).Within (Action A) :=
  Within.critical (Within.bind (self_within s) fun self => Within.ite (Within.ret _) (hp self))

theorem beginReport_within (h : A .hint) (s : ℤ) : (beginReport s).Within (Action A) := by
  refine Within.bind (modifySession_within s fun _ => ⟨⟨rfl, rfl, rfl, rfl⟩, rfl⟩) fun _ => ?_
  refine Within.bind (isTimeout_within s) fun _ => ?_
  refine Within.bind (touchSession_within s) fun _ => ?_
  refine Within.bind (Within.when ?_) fun _ => disableBoosts_within s
  refine Within.bind (self_within s) fun _ => ?_
  exact Within.bind (Within.when (tryToSendPowerHint_within h s _)) fun _ =>
    updateUniversalBoostMode_within h

theorem recordDurations_within (h : A .records) (s : ℤ) (ds : List WorkDuration) :
    (recordDurations s ds).Within (Action A) := by
  refine Within.bind (self_within s) fun _ => ?_
  refine Within.bind (Within.modify fun w => .apart h (.records s _ w ?_)) fun _ => ?_
  · exact fun r x hr => ⟨⟨rfl, rfl, by rw [hr]; rfl, rfl⟩, rfl⟩
  · refine Within.bind getAdpfProfile_within fun _ => ?_
    exact Within.modify fun w => .apart h (.records s _ w fun _ _ _ => ⟨⟨rfl, rfl, rfl, rfl⟩, rfl⟩)

theorem Quiet.convertSection (s : ℤ) (ds : List WorkDuration) (w : World) :
    Quiet w (w.convertSection s ds).2 := by
  simp only [World.convertSection, World.modifyDescriptor]
  exact .modifySession w ⟨⟨rfl, rfl, rfl, rfl⟩, rfl⟩

theorem reportCpu_within (s : ℤ) (c : AdpfConfig) (ds : List WorkDuration)
    (h : c.heuristicBoostOn = true → A .records) : (reportCpu s c ds).Within (Action A) := by
  refine Within.bind ?_ fun _ => ?_
  · cases hon : c.heuristicBoostOn with
    | false => exact Within.ret ()
    | true => exact recordDurations_within (h hon) s ds
  · refine Within.bind (Within.atomic fun w => .quiet (.convertSection s ds w) rfl) fun _ => ?_
    exact Within.bind (self_within s) fun _ => updatePidControlVariable_within s _ true

theorem reportGpu_within (h : A .frequency) (s : ℤ) (c : AdpfConfig) (back : WorkDuration) :
    (reportGpu s c back).Within (Action A) := by
  unfold reportGpu
  cases gpuCapacityMax c back with
  | none => exact Within.ret ()
  | some capacityMax =>
      refine Within.bind (Within.atomic fun w => .apart h (.frequency w)) fun gpu_freq => ?_
      cases gpu_freq with
      | none => exact Within.ret ()
      | some freq =>
          refine Within.bind (self_within s) fun _ => ?_
          refine Within.bind (Within.read fun w => .quiet (.skip w) rfl) fun _ => ?_
          exact Within.bind now_within fun t => castVote_within s _ _ t _

theorem reportVotes_within (hr : A .records) (hf : A .frequency) (s : ℤ) (c : AdpfConfig)
    (ds : List WorkDuration) (back : WorkDuration) : (reportVotes s c ds back).Within (Action A) :=
  Within.ite (Within.bind (reportCpu_within s c ds fun _ => hr) fun _ => reportGpu_within hf s c back)
    (updatePidControlVariable_within s _ true)

theorem setMode_within (h : A .efficiency) (s : ℤ) (mode : SessionMode) (b : Bool) :
    (setMode s mode b).Within (Action A) := by
  refine whileOpen_within s fun _ => ?_
  cases mode with
  | unknown raw => exact Within.ret _
  | POWER_EFFICIENCY =>
      refine Within.bind (setPreferPowerEfficiency_within h s b) fun _ => ?_
      refine Within.bind (modifySession_within s fun _ => ⟨⟨rfl, rfl, rfl, rfl⟩, rfl⟩) fun _ => ?_
      exact Within.bind (touchSession_within s) fun _ => Within.ret _

/-- The special kinds of action that an operation on a session uses. -/
def SessionOp.uses (s : ℤ) : SessionOp → Special → Prop
  | .close, .standing => True
  | .close, .hint => True
  | .close, .removal s' => s' = s
  | .destroy, .standing => True
  | .destroy, .hint => True
  | .destroy, .removal s' => s' = s
  | .pause, .standing => True
  | .pause, .hint => True
  | .resume, .standing => True
  | .resume, .hint => True
  | .setThreads _, .standing => True
  | .setThreads _, .hint => True
  | .reportActualWorkDuration _, .hint => True
  | .reportActualWorkDuration _, .records => True
  | .reportActualWorkDuration _, .frequency => True
  | .updateTargetWorkDuration _, .duration => True
  | .setMode _ _, .efficiency => True
  | .sendHint .POWER_EFFICIENCY, .efficiency => True
  | .sendHint _, .hint => True
  | _, _ => False

theorem sendHintVotes_within (s : ℤ) (self : PowerHintSession) (hint : SessionHint)
    (h : hint = .POWER_EFFICIENCY → A .efficiency) :
    (sendHintVotes s self hint).Within (Action A) := by
  cases hint with
  | CPU_LOAD_UP =>
      refine Within.bind getAdpfProfile_within fun _ => ?_
      refine Within.bind (updatePidControlVariable_within s _ true) fun _ => ?_
      exact Within.bind now_within fun t => castVote_within s _ _ t _
  | CPU_LOAD_DOWN =>
      exact Within.bind getAdpfProfile_within fun _ => updatePidControlVariable_within s _ true
  | CPU_LOAD_RESET =>
      refine Within.bind getAdpfProfile_within fun _ => ?_
      refine Within.bind (updatePidControlVariable_within s _ false) fun _ => ?_
      exact Within.bind now_within fun t => castVote_within s _ _ t _
  | CPU_LOAD_RESUME =>
      refine Within.bind getAdpfProfile_within fun _ => ?_
      exact Within.bind now_within fun t => castVote_within s _ _ t _
  | POWER_EFFICIENCY =>
      exact Within.bind (setMode_within (h rfl) s _ true) fun _ => Within.ret ()
  | GPU_LOAD_UP =>
      refine Within.bind getAdpfProfile_within fun _ => ?_
      exact Within.bind now_within fun t => castVote_within s _ _ t _
  | GPU_LOAD_DOWN => exact Within.ret ()
  | GPU_LOAD_RESET => exact Within.ret ()
  | unknown raw => exact Within.ret ()

theorem close_within {s : ℤ} (h : A .standing) (hh : A .hint) (hr : A (.removal s)) :
    (close s).Within (Action A) := by
  refine whileOpen_within s fun _ => ?_
  refine Within.bind (Within.modify fun w => .apart hr (.close s w)) fun _ => ?_
  refine Within.bind (removePowerSession_within h hh hr) fun _ => ?_
  exact Within.bind (activate_within h s false) fun _ => Within.ret _

theorem SessionOp.within (s : ℤ) (op : SessionOp) (h : ∀ k, op.uses s k → A k) :
    (op.prog s).Within (Action A) := by
  cases op with
  | close => exact close_within (h _ trivial) (h _ trivial) (h _ rfl)
  | destroy =>
      refine Within.bind (close_within (h _ trivial) (h _ trivial) (h _ rfl)) fun _ => ?_
      exact Within.bind (modifySession_within s fun _ => ⟨⟨rfl, rfl, rfl, rfl⟩, rfl⟩) fun _ => Within.ret _
  | pause =>
      refine whileOpen_within s fun _ => Within.ite ?_ (Within.ret _)
      have hst : A .standing := h _ trivial
      have hh : A .hint := h _ trivial
      refine Within.bind (setThreadsFromPowerSession_within hst hh s _) fun _ => ?_
      refine Within.bind (activate_within hst s false) fun _ => ?_
      exact Within.bind (pause_within hst hh s) fun _ => Within.ret _
  | resume =>
      refine whileOpen_within s fun _ => Within.ite (Within.ret _) ?_
      have hst : A .standing := h _ trivial
      have hh : A .hint := h _ trivial
      refine Within.bind (setThreadsFromPowerSession_within hst hh s _) fun _ => ?_
      refine Within.bind (activate_within hst s true) fun _ => ?_
      exact Within.bind (resume_within hst hh s) fun _ => Within.ret _
  | updateTargetWorkDuration d =>
      refine whileOpen_within s fun _ => Within.ite (Within.ret _) ?_
      refine Within.bind getAdpfProfile_within fun _ => ?_
      refine Within.bind (retarget_within (h _ trivial) s _) fun _ => ?_
      exact Within.bind (updateTargetWorkDuration_within (h _ trivial) s _ _) fun _ => Within.ret _
  | reportActualWorkDuration ds =>
      refine whileOpen_within s fun _ => Within.ite (Within.ret _) ?_
      cases ds.getLast? with
      | none => exact Within.ret _
      | some back =>
          refine Within.ite ?_ (Within.ret _)
          refine Within.bind getAdpfProfile_within fun _ => ?_
          refine Within.bind (beginReport_within (h _ trivial) s) fun _ => ?_
          refine Within.bind (reportVotes_within (h _ trivial) (h _ trivial) s _ ds back) fun _ => ?_
          exact Within.ret _
  | sendHint hint =>
      refine whileOpen_within s fun self => Within.ite (Within.ret _) (Within.ite ?_ (Within.ret _))
      have hhint : hint = .POWER_EFFICIENCY → A .efficiency := by
        rintro rfl
        exact h _ trivial
      refine Within.bind (sendHintVotes_within s self hint hhint) fun _ => ?_
      have hh : A .hint := h _ (by cases hint <;> trivial)
      refine Within.bind (tryToSendPowerHint_within hh s _) fun _ => ?_
      exact Within.bind (touchSession_within s) fun _ => Within.ret _
  | setMode mode b => exact setMode_within (h .efficiency trivial) s mode b
  | setThreads tids =>
      refine whileOpen_within s fun _ => Within.ite (Within.ret _) ?_
      refine Within.bind (modifySession_within s fun _ => ⟨⟨rfl, rfl, rfl, rfl⟩, rfl⟩) fun _ => ?_
      refine Within.bind (setThreadsFromPowerSession_within (h _ trivial) (h _ trivial) s tids) fun _ => ?_
      refine Within.bind getAdpfProfile_within fun _ => ?_
      exact Within.bind (updatePidControlVariable_within s _ true) fun _ => Within.ret _
  | getSessionConfig => exact Within.ret _

end Session

/-! ### All the operations -/

/-- The special kinds of action that an operation uses. -/
def Op.uses : Op → Special → Prop
  | .create _ _ _ _, .construct => True
  | .create _ _ _ _, .standing => True
  | .create _ _ _ _, .hint => True
  | .worker _, .hint => True
  | .session s op, k => op.uses s k
  | .manager op, k => op.uses k
  | _, _ => False

/-- Only a construction constructs a session. -/
theorem Op.eq_create {op : Op} (h : op.uses .construct) :
    ∃ tgid uid tids d, op = .create tgid uid tids d := by
  cases op with
  | create tgid uid tids d => exact ⟨tgid, uid, tids, d, rfl⟩
  | session s op =>
      cases op with
      | sendHint hint => cases hint <;> exact h.elim
      | _ => exact h.elim
  | manager op => cases op <;> exact h.elim
  | dumpToStream s => exact h.elim
  | worker i => exact h.elim

/-- The kinds of action leave the standing of the sessions alone, or the sessions there. -/
def LeavesStanding (A : Special → Prop) : Prop := ¬ A .standing ∧ ∀ s, ¬ A (.removal s)

theorem leavesStanding_hint : LeavesStanding (Eq .hint) := ⟨by decide, by simp⟩

theorem Op.leavesStanding {op : Op} (h : ¬ op.uses .standing) : LeavesStanding op.uses := by
  refine ⟨h, fun s hr => ?_⟩
  cases op with
  | create tgid uid tids d => exact h trivial
  | session s' op =>
      cases op with
      | close => exact h trivial
      | destroy => exact h trivial
      | sendHint hint => cases hint <;> exact hr
      | _ => exact hr
  | manager op =>
      cases op with
      | removePowerSession s' => exact h trivial
      | _ => exact hr
  | dumpToStream s' => exact hr
  | worker i => exact hr

/-- **Every program is made of these actions.** -/
theorem Op.within {A : Special → Prop} (op : Op) (h : ∀ k, op.uses k → A k) :
    op.prog.Within (Action A) := by
  cases op with
  | create tgid uid tids d =>
      have hcreate := create_within (h _ trivial) (h _ trivial) (h _ trivial) tgid uid tids d
      exact Prog.Within.bind hcreate fun _ =>
        Prog.Within.ret ()
  | session s op => exact Prog.Within.bind (op.within s h) fun _ => Prog.Within.ret ()
  | dumpToStream s =>
      exact Prog.Within.critical (Prog.Within.bind (isTimeout_within s) fun _ => Prog.Within.ret ())
  | manager op => exact op.within h
  | worker i => exact workerRound_within (h _ trivial) i

/-- A condition that every action of an operation keeps is kept by the operation. -/
theorem Op.keeps {I : World → Prop} (op : Op) (h : ∀ w w', Action op.uses w w' → I w → I w') :
    Prog.Triple I op.prog fun _ => I :=
  ((op.within fun _ hk => hk).mono h).keeps

open SessionTaskMap in
/-- After an operation the maps are well formed and the environment is what it was. -/
theorem Op.post_wf (op : Op) {w : World} (hw : Wf w.mSessionTaskMap) :
    Wf (op.prog.post w).mSessionTaskMap ∧ (op.prog.post w).env = w.env := by
  let G : World → World → Prop := fun w w' =>
    (Wf w.mSessionTaskMap → Wf w'.mSessionTaskMap) ∧ w'.env = w.env
  have hwithin : op.prog.Within G :=
    (op.within (A := fun _ => True) fun _ _ => trivial).mono fun w w' h => ⟨h.wf, h.env⟩
  have hpost := hwithin.post (fun _ => ⟨id, rfl⟩)
    (fun _ _ _ h h' => ⟨fun hw => h'.1 (h.1 hw), h'.2.trans h.2⟩) w
  exact ⟨hpost.1 hw, hpost.2⟩

open SessionTaskMap in
/-- In every state that operations lead to, the maps are well formed. -/
theorem Runs.wf {ok : World → Op → Prop} {w₀ w : World} (h : Runs ok w₀ w)
    (hw : Wf w₀.mSessionTaskMap) : Wf w.mSessionTaskMap := by
  induction h with
  | init => exact hw
  | step op _ _ _ ih => exact (op.post_wf ih).1

end Adpf
