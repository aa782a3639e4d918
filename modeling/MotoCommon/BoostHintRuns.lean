/-
**When the hint that disables the top-app boost is right.**

The constructor, `setThreads`, a report and a hint ask before they vote, if they ask at all, so that
the hint goes stale when their votes are what makes some app session count.  It stays right when the
answer is the same all along: when another app session counts from the beginning of the operation to
its end, when the session's own votes do, or when the session of the operation does not count.  Each
of these is a condition on the state in which the operation begins, on the operation and on the time
at which it ends.  This module proves that they suffice, for one operation and for whole runs.

Main definitions:

* `Adpf.World.CarriedBy` — a vote of an app session that lasts to the end of an operation;
* `Adpf.World.Renewed`, `Adpf.World.Unchanging` — the conditions on the session's own votes, and on
  the answer;
* `Adpf.Op.AsksLast`, `Adpf.Op.KeepsHint` — the operations that end with a question, and the condition
  on an operation;
* `Adpf.Heeded` — the runs in which the condition has been met since the last such question.

Main results:

* `Adpf.Op.post_follows` — **one operation** that meets the condition leaves the hint right;
* `Adpf.boost_hint_follows` — **whole runs**.
-/

import MotoCommon.BoostHint

set_option autoImplicit false

namespace Adpf

open Conc World Prog PowerHintSession PowerSessionManager SessionTaskMap

/-! ### The sessions that count -/

/-- With a vote in range not all have timed out. -/
theorem Votes.allTimedOut_eq_false {vs : Votes} {v t : ℤ} {x : VoteRange} (h : vs.timing? v = some x)
    (hx : x.isTimeInRange t = true) : vs.allTimedOut t = false := by
  rw [allTimedOut, Bool.and_eq_false_iff, List.all_eq_false, List.all_eq_false]
  unfold timing? at h
  split at h
  · obtain ⟨y, hy, rfl⟩ := Option.map_eq_some_iff.1 h
    exact Or.inl ⟨⟨v, y⟩, (UMap.mem_entries_iff _ _ _).2 hy, by simp [hx]⟩
  · obtain ⟨y, hy, rfl⟩ := Option.map_eq_some_iff.1 h
    exact Or.inr ⟨⟨v, y⟩, (UMap.mem_entries_iff _ _ _).2 hy, by simp [hx]⟩

namespace SessionTaskMap

variable {m m' : SessionTaskMap} {r v a b t : ℤ}

/-- The manager has an app session `r`, which is active if `on` is set. -/
def hasApp (m : SessionTaskMap) (on : Bool) (r : ℤ) : Bool :=
  (m.state? r).any fun x => x.isAppSession && (x.isActive || !on)

/-- Vote `v` of session `r` is in range. -/
def voteInRange (m : SessionTaskMap) (r v t : ℤ) : Bool :=
  ((m.votes? r).bind fun vs => vs.timing? v).any fun x => x.isTimeInRange t

theorem findSession_of_hasApp {on : Bool} (h : m.hasApp on r = true) : m.findSession r ≠ none := by
  intro hnone
  rw [hasApp, state?_eq_none.2 hnone] at h
  cases h

theorem voteInRange_iff : m.voteInRange r v t = true ↔
    ∃ vs x, m.votes? r = some vs ∧ vs.timing? v = some x ∧ x.isTimeInRange t = true := by
  unfold voteInRange
  rw [Option.any_eq_true]
  constructor
  · rintro ⟨x, hx, ht⟩
    obtain ⟨vs, hvs, hx⟩ := Option.bind_eq_some_iff.1 hx
    exact ⟨vs, x, hvs, hx, ht⟩
  · rintro ⟨vs, x, hvs, hx, ht⟩
    exact ⟨x, Option.bind_eq_some_iff.2 ⟨vs, hvs, hx⟩, ht⟩

/-- A range of time has no gaps. -/
theorem voteInRange_between (ha : m.voteInRange r v a = true) (hb : m.voteInRange r v b = true)
    (hat : a ≤ t) (htb : t ≤ b) : m.voteInRange r v t = true := by
  obtain ⟨vs, x, hvs, hx, hxa⟩ := voteInRange_iff.1 ha
  obtain ⟨vs', x', hvs', hx', hxb⟩ := voteInRange_iff.1 hb
  obtain rfl := Option.some.inj (hvs.symm.trans hvs')
  obtain rfl := Option.some.inj (hx.symm.trans hx')
  rw [VoteRange.isTimeInRange_iff] at hxa hxb
  exact voteInRange_iff.2 ⟨vs, x, hvs, hx, (VoteRange.isTimeInRange_iff x t).2
    ⟨hxa.1, hxa.2.1.trans hat, htb.trans hxb.2.2⟩⟩

/-- An app session with a vote in range makes the answer. -/
theorem isAnyAppSessionActive_of_vote (happ : m.hasApp true r = true)
    (hvote : m.voteInRange r v t = true) : m.isAnyAppSessionActive t = true := by
  obtain ⟨vs, y, hvs, hy, hyt⟩ := voteInRange_iff.1 hvote
  obtain ⟨x, hx, hflags⟩ := Option.any_eq_true _ _ |>.1 happ
  simp only [Bool.and_eq_true, Bool.not_true, Bool.or_false] at hflags
  exact (isAnyAppSessionActive_iff m t).2 ⟨r, x, vs, hx, hvs, hflags.1, hflags.2,
    Votes.allTimedOut_eq_false hy hyt⟩

/-- The answer, where only one session has changed, and plays no part. -/
theorem isAnyAppSessionActive_congr {s : ℤ} (hstate : ∀ r ≠ s, m'.state? r = m.state? r)
    (hvotes : ∀ r ≠ s, m'.votes? r = m.votes? r)
    (hm : m.hasApp true s = false) (hm' : m'.hasApp true s = false) :
    m'.isAnyAppSessionActive t = m.isAnyAppSessionActive t := by
  have hne : ∀ {m : SessionTaskMap} {r x}, m.hasApp true s = false → m.state? r = some x →
      x.isAppSession = true → x.isActive = true → r ≠ s := by
    rintro m r x hm hx happ hact rfl
    simp [hasApp, hx, happ, hact] at hm
  rw [Bool.eq_iff_iff, isAnyAppSessionActive_iff, isAnyAppSessionActive_iff]
  constructor
  · rintro ⟨r, x, vs, hx, hvs, happ, hact, ht⟩
    have hr := hne hm' hx happ hact
    exact ⟨r, x, vs, hstate r hr ▸ hx, hvotes r hr ▸ hvs, happ, hact, ht⟩
  · rintro ⟨r, x, vs, hx, hvs, happ, hact, ht⟩
    have hr := hne hm hx happ hact
    exact ⟨r, x, vs, (hstate r hr).trans hx, (hvotes r hr).trans hvs, happ, hact, ht⟩

end SessionTaskMap

/-! ### What a program about one session leaves alone -/

section Beside

/-- From `w₀` on only session `s` has changed, and if it is there, `keep` is true of it. -/
structure Beside (keep : SessionValueEntry → Bool) (s : ℤ) (w₀ w : World) : Prop where
  wf : Wf w.mSessionTaskMap
  clock : w₀.clock ≤ w.clock
  state? : ∀ r ≠ s, w.mSessionTaskMap.state? r = w₀.mSessionTaskMap.state? r
  votes? : ∀ r ≠ s, w.mSessionTaskMap.votes? r = w₀.mSessionTaskMap.votes? r
  own : ∀ x, w.mSessionTaskMap.state? s = some x → keep x = true

variable {keep : SessionValueEntry → Bool} {s : ℤ} {w₀ w w' : World}

namespace Beside

theorem refl (hw : Wf w.mSessionTaskMap)
    (hs : ∀ x, w.mSessionTaskMap.state? s = some x → keep x = true) : Beside keep s w w :=
  ⟨hw, le_rfl, fun _ _ => rfl, fun _ _ => rfl, hs⟩

/-- A change after which all the sessions have the flags and votes they had. -/
theorem of_same (h : Beside keep s w₀ w) (hwf : Wf w'.mSessionTaskMap) (hclock : w.clock ≤ w'.clock)
    (hstate : ∀ r, w'.mSessionTaskMap.state? r = w.mSessionTaskMap.state? r)
    (hvotes : ∀ r, w'.mSessionTaskMap.votes? r = w.mSessionTaskMap.votes? r) : Beside keep s w₀ w' where
  wf := hwf
  clock := h.clock.trans hclock
  state? := fun r hr => (hstate r).trans (h.state? r hr)
  votes? := fun r hr => (hvotes r).trans (h.votes? r hr)
  own := fun x hx => h.own x ((hstate s).symm.trans hx)

theorem of_refreshes (h : Beside keep s w₀ w) (hr : Refreshes w w') (hclock : w.clock ≤ w'.clock) :
    Beside keep s w₀ w' :=
  h.of_same hr.wf hclock hr.state? hr.votes?

theorem detached (keep : SessionValueEntry → Bool) (s : ℤ) (w₀ : World) :
    Detached (Beside keep s w₀) where
  aside := fun ha h => h.of_same (by rw [ha.map]; exact h.wf) ha.clock (fun _ => by rw [ha.map])
    fun _ => by rw [ha.map]
  events := fun _ _ _ h => h.of_same h.wf le_rfl (fun _ => rfl) fun _ => rfl

theorem applyVotes (h : Beside keep s w₀ w) (t : ℤ) : Beside keep s w₀ (w.applyVotes s t) :=
  h.of_refreshes (applyVotes_refreshes h.wf s t) (onlyOutputs_applyVotes w s t).frame.clock

theorem forceSection (h : Beside keep s w₀ w) (b : Bool)
    (hkeep : ∀ x, keep x = true → keep (activeVal b x) = true) :
    Beside keep s w₀ (w.forceSection s b).2 where
  wf := wf_forceSection h.wf s b
  clock := h.clock.trans (onlyMap_forceSection w s b).frame.clock
  state? := fun r hr => by rw [state?_forceSection h.wf, if_neg hr, h.state? r hr]
  votes? := fun r hr => by rw [votes?_forceSection, h.votes? r hr]
  own := by
    intro x hx
    rw [state?_forceSection h.wf, if_pos rfl] at hx
    obtain ⟨x₀, hx₀, rfl⟩ := Option.map_eq_some_iff.1 hx
    exact hkeep x₀ (h.own x₀ hx₀)

theorem replaceSection (h : Beside keep s w₀ w) (tids : List ℤ) :
    Beside keep s w₀ (w.replaceSection s tids).2 :=
  h.of_same (wf_replaceSection h.wf s tids) le_rfl (h.wf.state?_replace s tids [] [])
    (h.wf.votes?_replace s tids [] [])

theorem writeVotes (h : Beside keep s w₀ w) (f : Votes → Votes) :
    Beside keep s w₀ (w.writeVotes s f) where
  wf := wf_writeVotes h.wf s f
  clock := h.clock.trans (onlyMap_writeVotes w s f).frame.clock
  state? := fun r hr => by rw [state?_writeVotes, h.state? r hr]
  votes? := fun r hr => by rw [votes?_writeVotes h.wf, if_neg hr, h.votes? r hr]
  own := fun x hx => h.own x (by rwa [state?_writeVotes] at hx)

theorem voteSection (h : Beside keep s w₀ w) {e : Timeout} (he : e.sessionId = s) (d : ℤ)
    (b : Ballot) : Beside keep s w₀ (w.voteSection e d b).2 := by
  subst he
  rcases voteSection_cases w e d b with ⟨-, heq⟩ | ⟨p, decided, hp, heq⟩
  · rw [heq]
    exact h
  · have hvoted := (h.writeVotes (b.add e d)).of_refreshes (voted_refreshes h.wf hp d b)
      (onlyOutputs_voted_writeVotes w e d b p).frame.clock
    rw [heq]
    exact (detached keep _ w₀).events _ _ _ hvoted

theorem stableOn (keep : SessionValueEntry → Bool) (s : ℤ) (w₀ : World) :
    StableOn s (Beside keep s w₀) where
  toCalm := (detached keep s w₀).calm
  vote := fun _ d b _ _ h => h.voteSection rfl d b

theorem forceSessionActive (b : Bool) (hkeep : ∀ x, keep x = true → keep (activeVal b x) = true) :
    Triple (Beside keep s w₀) (forceSessionActive s b) fun _ => Beside keep s w₀ :=
  forceSessionActive_triple (detached keep s w₀).calm (detached keep s w₀).calm s b
    (fun _ h => h.forceSection b hkeep) (fun _ h _ => h) fun w h => h.applyVotes w.clock

theorem setThreadsFromPowerSession (tids : List ℤ)
    (hkeep : ∀ b x, keep x = true → keep (activeVal b x) = true) :
    Triple (Beside keep s w₀) (setThreadsFromPowerSession s tids) fun _ => Beside keep s w₀ :=
  setThreadsFromPowerSession_triple (detached keep s w₀).unprofiled s tids
    (forceSessionActive false (hkeep false)) (fun _ h => h.replaceSection tids)
    (forceSessionActive true (hkeep true))

theorem addSection (h : Beside keep s w₀ w) {desc : AppHintDesc} (hs : desc.sessionId = s) (t : ℤ)
    (hnew : ∀ x : SessionValueEntry, x.isAppSession = decide (AID_APP_START ≤ desc.uid) →
      keep x = true) : Beside keep s w₀ (w.addSection desc t) where
  wf := wf_addSection h.wf desc t
  clock := h.clock
  state? := fun r hr => by
    rw [state?_addSection h.wf, if_neg fun hc => hr (hc.1.trans hs), h.state? r hr]
  votes? := fun r hr => by
    rw [votes?_addSection h.wf, if_neg fun hc => hr (hc.1.trans hs), h.votes? r hr]
  own := by
    intro x hx
    rw [state?_addSection h.wf] at hx
    split at hx
    · exact hnew x (by rw [← Option.some.inj hx]; rfl)
    · exact h.own x hx

end Beside

/-! ### The operations on one session -/

/-- The operation leaves all sessions but `s` alone, also up to its last question. -/
structure Op.Spares (keep : SessionValueEntry → Bool) (s : ℤ) (w : World) (op : Op) : Prop where
  post : Beside keep s w (op.prog.post w)
  check : ∀ u, op.checkpoint w = some u → Beside keep s w u ∧ u.clock ≤ (op.prog.post w).clock

/-- An operation in two parts, of which the second asks nothing. -/
theorem Op.Spares.of_parts {op : Op} {u : World} (hu : Beside keep s w u)
    (hrest : ∀ keep w₀, Beside keep s w₀ u → Beside keep s w₀ (op.prog.post w))
    (hcheck : ∀ x, op.checkpoint w = some x → x = u) : op.Spares keep s w where
  post := hrest keep w hu
  check := by
    intro x hx
    rw [hcheck x hx]
    exact ⟨hu, (hrest (fun _ => true) u (.refl hu.wf fun _ _ => rfl)).clock⟩

theorem sendHint_spares (hw : Beside keep s w w) {hint : SessionHint}
    (hhint : hint ≠ .POWER_EFFICIENCY) : (Op.session s (.sendHint hint)).Spares keep s w := by
  refine .of_parts hw (fun keep w₀ h => ?_) fun x hx => by cases hx
  rw [Op.post_session]
  exact (Beside.stableOn keep s w₀).sendHint hhint w h

theorem newThreadsVote_beside (keep : SessionValueEntry → Bool) (s : ℤ) (w₀ : World) :
    Triple (Beside keep s w₀) (newThreadsVote s) fun _ => Beside keep s w₀ :=
  Triple.bind (Beside.stableOn keep s w₀).getAdpfProfile fun _ =>
    (Beside.stableOn keep s w₀).updatePidControlVariable _ true

theorem setThreads_spares (hw : Beside keep s w w) {tids : List ℤ}
    (hkeep : ∀ b x, keep x = true → keep (activeVal b x) = true)
    (h : SessionOp.refusal (w.sessions s) (.setThreads tids) = none) :
    (Op.session s (.setThreads tids)).Spares keep s w := by
  have htake : Triple (Beside keep s w) (takeThreads s tids) fun _ => Beside keep s w :=
    Triple.bind ((Beside.detached keep s w).calm.modifyDescriptor s fun _ => ⟨rfl, rfl, rfl⟩)
      fun _ => Beside.setThreadsFromPowerSession tids hkeep
  refine .of_parts (htake w hw) (fun keep w₀ hu => ?_) fun x hx => ?_
  · rw [Op.post_session]
    exact setThreads_post h ▸ newThreadsVote_beside keep s w₀ _ hu
  · exact (Option.some.inj (Option.ite_none_right_eq_some.1 hx).2).symm

/-- What comes before the votes of a report is quiet. -/
theorem openReport_within (s : ℤ) : (openReport s).Within Quiet := by
  refine Within.bind (Within.modify fun w => .modifySession w ⟨⟨rfl, rfl, rfl, rfl⟩, rfl⟩) fun _ => ?_
  refine Within.bind ?_ fun first => Within.bind ?_ fun _ => Within.bind (Within.when ?_) fun _ =>
    Within.ret _
  · exact Within.bind (now_within' fun _ _ h => h) fun _ =>
      Within.bind (Within.read fun w => .skip w) fun _ =>
        Within.bind (Within.read fun w => .skip w) fun _ => Within.ret _
  · exact Within.bind (now_within' fun _ _ h => h) fun _ =>
      Within.modify fun w => .modifySession w ⟨⟨rfl, rfl, rfl, rfl⟩, rfl⟩
  · refine Within.bind (Within.read fun w => .skip w) fun _ => ?_
    exact Within.bind (Within.when (Within.modify fun w => .sendPowerHint w s _)) fun _ =>
      updateUniversalBoostMode_within' fun _ _ h => h

theorem closeReport_beside (keep : SessionValueEntry → Bool) (s : ℤ) (w₀ : World) (c : AdpfConfig)
    (ds : List WorkDuration) (back : WorkDuration) :
    Triple (Beside keep s w₀) (closeReport s c ds back) fun _ => Beside keep s w₀ := by
  refine Triple.bind (Q := fun _ => Beside keep s w₀) (Triple.critical (Triple.modify fun w hw => ?_))
    fun _ => ?_
  · rw [disableSection_eq]
    exact hw.writeVotes _
  · exact (Beside.stableOn keep s w₀).reportVotes
      (fun w => (Beside.detached keep s w₀).aside (.readGpuFrequency w)) c ds
      ((Beside.detached keep s w₀).recordDurations s ds) back

theorem report_spares (hw : Beside keep s w w) {ds : List WorkDuration}
    (h : SessionOp.refusal (w.sessions s) (.reportActualWorkDuration ds) = none) :
    (Op.session s (.reportActualWorkDuration ds)).Spares keep s w := by
  obtain ⟨back, hpost⟩ := report_post h
  have hopen := (Beside.detached keep s w).calm.within (openReport_within s) w hw
  refine .of_parts hopen (fun keep w₀ hu => ?_) fun x hx => ?_
  · rw [Op.post_session]
    exact hpost ▸ closeReport_beside keep s w₀ w.adpfConfig ds back _ hu
  · exact (Option.some.inj (Option.ite_none_right_eq_some.1 hx).2).symm

/-- The constructor up to its votes: only the session with the next id has changed. -/
theorem addSession_beside {k : ℤ} (hw : Beside keep (k + 1) w w) (hk : w.sSessionIDCounter = k)
    (tgid uid : ℤ) (tids : List ℤ) (d : ℤ)
    (hkeep : ∀ b x, keep x = true → keep (activeVal b x) = true)
    (hnew : ∀ x : SessionValueEntry, x.isAppSession = decide (AID_APP_START ≤ uid) → keep x = true) :
    Triple (fun u => u = w) (addSession tgid uid tids d) fun r u =>
      r.1 = k + 1 ∧ Beside keep (k + 1) w u := by
  have hdetached := Beside.detached keep (k + 1) w
  -- the object that is constructed has the next id and the app's uid
  let Made (sid : ℤ) (u : World) : Prop := sid = k + 1 ∧
    (u.sessions sid).mDescriptor.sessionId = k + 1 ∧ (u.sessions sid).mDescriptor.uid = uid ∧
      Beside keep (k + 1) w u
  refine Triple.bind (Q := Made) (Triple.atomic ?_) fun sid => ?_
  · rintro u rfl
    have hsessions : (u.newSession tgid uid tids d).2.sessions (u.newSession tgid uid tids d).1 = _ :=
      Function.update_self ..
    refine ⟨by rw [← hk]; rfl, ?_, ?_, hdetached.aside (.newSession u tgid uid tids d) hw⟩
    · rw [hsessions, ← hk]
    · rw [hsessions]
  refine Triple.bind (Q := fun _ => Made sid) ?_ fun _ => ?_
  · refine Triple.bind (Q := fun _ => Made sid) (Triple.atomic fun u hu => ?_) fun t =>
      Triple.modify fun u hu => ?_
    · exact ⟨hu.1, hu.2.1, hu.2.2.1, hdetached.aside (Quiet.readClock u).toAside hu.2.2.2⟩
    · refine ⟨hu.1, ?_, ?_, hdetached.aside (.modifySession u _ _) hu.2.2.2⟩
      · rw [sessions_modifySession_self]
        exact hu.2.1
      · rw [sessions_modifySession_self]
        exact hu.2.2.1
  refine Triple.bind (Q := fun self u => sid = k + 1 ∧ self.mDescriptor.sessionId = k + 1 ∧
    self.mDescriptor.uid = uid ∧ Beside keep (k + 1) w u) (Triple.read fun u hu => hu) fun self => ?_
  refine Triple.bind (Q := fun _ u => sid = k + 1 ∧ Beside keep (k + 1) w u) ?_ fun _ =>
    Triple.ret fun u hu => hu
  rintro u ⟨hsid, hself, rfl, hu⟩
  have hset : Triple (Beside keep (k + 1) w)
      (setThreadsFromPowerSession self.mDescriptor.sessionId tids) fun _ => Beside keep (k + 1) w := by
    rw [hself]
    exact Beside.setThreadsFromPowerSession tids hkeep
  exact ⟨hsid, addPowerSession_triple hdetached.calm self.mDescriptor tids
    (fun x hx => hx.addSection hself x.clock hnew) hset u hu⟩

theorem firstVotes_beside (keep : SessionValueEntry → Bool) (s : ℤ) (w₀ : World)
    (self : PowerHintSession) :
    Triple (Beside keep s w₀) (firstVotes s self) fun _ => Beside keep s w₀ := by
  have hcalm := (Beside.detached keep s w₀).calm
  have hcast : ∀ (v : AdpfVoteType) (b : Ballot) (t d : ℤ),
      Triple (Beside keep s w₀) (castVote s v b t d) fun _ => Beside keep s w₀ :=
    fun v b t d => castVote_triple hcalm s v b t d fun _ h => h.voteSection rfl d b
  have hnow : Triple (Beside keep s w₀) now fun _ => Beside keep s w₀ :=
    hcalm.now.imp (fun _ h => h) fun _ _ h => h.1
  refine Triple.bind hcalm.getAdpfProfile fun c => Triple.bind hnow fun t => ?_
  refine Triple.bind (hcast _ _ _ _) fun _ => Triple.bind hnow fun t => ?_
  exact Triple.bind (hcast _ _ _ _) fun _ => Triple.ret fun _ h => h

theorem create_spares (hw : Beside keep (w.sSessionIDCounter + 1) w w) (tgid uid : ℤ)
    (tids : List ℤ) (d : ℤ) (hkeep : ∀ b x, keep x = true → keep (activeVal b x) = true)
    (hnew : ∀ x : SessionValueEntry, x.isAppSession = decide (AID_APP_START ≤ uid) → keep x = true) :
    (Op.create tgid uid tids d).Spares keep (w.sSessionIDCounter + 1) w := by
  obtain ⟨hid, hadd⟩ := addSession_beside hw rfl tgid uid tids d hkeep hnew w rfl
  refine .of_parts hadd (fun keep w₀ hu => ?_) fun x hx => (Option.some.inj hx).symm
  rw [Op.post_create, create_post, hid]
  exact firstVotes_beside keep _ w₀ _ _ hu

end Beside

/-! ### The session's own votes -/

section Own

/-- App session `s` is there since `w₀`, active if `on` is set, and its default votes last as long. -/
structure Serves (on : Bool) (s : ℤ) (w₀ w : World) : Prop where
  wf : Wf w.mSessionTaskMap
  clock : w₀.clock ≤ w.clock
  duration : w.controlDuration s = w₀.controlDuration s
  app : w.mSessionTaskMap.hasApp on s = true

/-- Besides, its vote `v` is in range up to the time `t`. -/
structure Lasts (on : Bool) (s v t : ℤ) (w₀ w : World) : Prop extends Serves on s w₀ w where
  vote : ∀ τ, w.clock ≤ τ → τ ≤ t → w.mSessionTaskMap.voteInRange s v τ = true

variable {on : Bool} {s v t : ℤ} {w₀ w w' : World}

theorem Lasts.anyAppActive (h : Lasts true s v t w₀ w) (ht : w.clock ≤ t) : w.anyAppActive = true :=
  isAnyAppSessionActive_of_vote h.app (h.vote w.clock le_rfl ht)

theorem Serves.of_same (h : Serves on s w₀ w) (hwf : Wf w'.mSessionTaskMap)
    (hclock : w.clock ≤ w'.clock) (hd : w'.controlDuration s = w.controlDuration s)
    (hstate : w'.mSessionTaskMap.state? s = w.mSessionTaskMap.state? s) : Serves on s w₀ w' where
  wf := hwf
  clock := h.clock.trans hclock
  duration := hd.trans h.duration
  app := by rw [hasApp, hstate]; exact h.app

theorem Lasts.of_same (h : Lasts on s v t w₀ w) (hs : Serves on s w₀ w') (hclock : w.clock ≤ w'.clock)
    (hvotes : w'.mSessionTaskMap.votes? s = w.mSessionTaskMap.votes? s) : Lasts on s v t w₀ w' where
  toServes := hs
  vote := fun τ hτ ht => by
    rw [voteInRange, hvotes]
    exact h.vote τ (hclock.trans hτ) ht

theorem World.controlDuration_of_onlyMap (h : OnlyMap w w') :
    w'.controlDuration s = w.controlDuration s := by
  rw [OnlyMap] at h
  rw [h]
  rfl

theorem World.controlDuration_of_onlyOutputs (h : OnlyOutputs w w') :
    w'.controlDuration s = w.controlDuration s := by
  rw [OnlyOutputs] at h
  rw [h]
  rfl

theorem Serves.aside (h : Serves on s w₀ w) (ha : Aside w w')
    (ht : (w'.sessions s).mDescriptor.targetNs = (w.sessions s).mDescriptor.targetNs) :
    Serves on s w₀ w' := by
  refine h.of_same (by rw [ha.map]; exact h.wf) ha.clock ?_ (by rw [ha.map])
  rw [World.controlDuration, World.controlDuration, ha.adpfConfig, ht]

theorem Lasts.aside (h : Lasts on s v t w₀ w) (ha : Aside w w')
    (ht : (w'.sessions s).mDescriptor.targetNs = (w.sessions s).mDescriptor.targetNs) :
    Lasts on s v t w₀ w' :=
  h.of_same (h.toServes.aside ha ht) ha.clock (by rw [ha.map])

theorem Serves.calm (on : Bool) (s : ℤ) (w₀ : World) : Calm (Serves on s w₀) where
  quiet := fun hq h => h.aside hq.toAside (hq.sessions s).target
  events := fun _ _ _ h => h.of_same h.wf le_rfl rfl rfl

theorem Lasts.calm (on : Bool) (s v t : ℤ) (w₀ : World) : Calm (Lasts on s v t w₀) where
  quiet := fun hq h => h.aside hq.toAside (hq.sessions s).target
  events := fun d q r h => h.of_same ((Serves.calm on s w₀).events d q r h.toServes) le_rfl rfl

theorem Serves.writeVotes (h : Serves on s w₀ w) (f : Votes → Votes) :
    Serves on s w₀ (w.writeVotes s f) :=
  h.of_same (wf_writeVotes h.wf s f) (onlyMap_writeVotes w s f).frame.clock
    (controlDuration_of_onlyMap (onlyMap_writeVotes w s f)) (state?_writeVotes w s f s)

/-- The flag of the session is written. -/
theorem Lasts.forceSection (h : Lasts false s v t w₀ w) (b : Bool) :
    Lasts b s v t w₀ (w.forceSection s b).2 := by
  have honly := onlyMap_forceSection w s b
  refine ⟨⟨wf_forceSection h.wf s b, h.clock.trans honly.frame.clock,
    (controlDuration_of_onlyMap honly).trans h.duration, ?_⟩, fun τ hτ ht => ?_⟩
  · obtain ⟨x, hx, hflags⟩ := (Option.any_eq_true _ _).1 h.app
    simp only [Bool.and_eq_true] at hflags
    rw [hasApp, state?_forceSection h.wf, if_pos rfl, hx]
    cases b <;> simp [activeVal, hflags.1]
  · rw [voteInRange, votes?_forceSection]
    exact h.vote τ (honly.frame.clock.trans hτ) ht

theorem Lasts.applyVotes (h : Lasts on s v t w₀ w) (t' : ℤ) :
    Lasts on s v t w₀ (w.applyVotes s t') := by
  have hr := applyVotes_refreshes h.wf s t'
  have honly := onlyOutputs_applyVotes w s t'
  exact h.of_same (h.toServes.of_same hr.wf honly.frame.clock (controlDuration_of_onlyOutputs honly)
    (hr.state? s)) honly.frame.clock (hr.votes? s)

theorem Lasts.forceSessionActive (b : Bool) :
    Triple (Lasts false s v t w₀) (PowerSessionManager.forceSessionActive s b) fun _ =>
      Lasts b s v t w₀ := by
  refine forceSessionActive_triple (Lasts.calm b s v t w₀) (Lasts.calm b s v t w₀) s b
    (fun _ h => h.forceSection b) (fun w h hnone => ?_) fun w h => h.applyVotes w.clock
  exact absurd hnone (findSession_of_hasApp h.app)

/-- The session is switched off and on again, and its votes last. -/
theorem takeThreads_lasts (tids : List ℤ) :
    Triple (Lasts false s v t w₀) (takeThreads s tids) fun _ => Lasts true s v t w₀ := by
  refine Triple.bind ((Lasts.calm false s v t w₀).modifyDescriptor s fun _ => ⟨rfl, rfl, rfl⟩)
    fun _ => ?_
  refine setThreadsFromPowerSession_triple (fun _ _ _ h => ?_) s tids
    (Lasts.forceSessionActive false) (fun w h => ?_) (Lasts.forceSessionActive true)
  · exact h.of_same (h.toServes.of_same h.wf le_rfl rfl rfl) le_rfl rfl
  · exact h.of_same (h.toServes.of_same (wf_replaceSection h.wf s tids) le_rfl rfl
      (h.wf.state?_replace s tids [] [] s)) le_rfl (h.wf.votes?_replace s tids [] [] s)

/-- Any default vote that the session sets from `w₀` up to `t` lasts until `t`. -/
def World.Renewed (w₀ : World) (s t : ℤ) : Prop :=
  ∀ τ, w₀.clock ≤ τ → τ ≤ t → t ≤ addNanos τ (w₀.controlDuration s)

/-- Setting votes leaves the flags of the session alone. -/
theorem Serves.voteSection (h : Serves on s w₀ w) {e : Timeout} (he : e.sessionId = s) (d : ℤ)
    (b : Ballot) : Serves on s w₀ (w.voteSection e d b).2 := by
  subst he
  rcases voteSection_cases w e d b with ⟨-, heq⟩ | ⟨p, decided, hp, heq⟩
  · rw [heq]
    exact h
  · have hr := voted_refreshes h.wf hp d b
    have honly := onlyOutputs_voted_writeVotes w e d b p
    have hvoted := (h.writeVotes (b.add e d)).of_same hr.wf honly.frame.clock
      (controlDuration_of_onlyOutputs honly) (hr.state? _)
    rw [heq]
    exact (Serves.calm on _ w₀).events _ _ _ hvoted

theorem World.clock_voteSection (w : World) (e : Timeout) (d : ℤ) (b : Ballot) :
    (w.voteSection e d b).2.clock = w.clock := by
  rcases voteSection_cases w e d b with ⟨-, heq⟩ | ⟨p, decided, -, heq⟩
  · rw [heq]
  · have honly := onlyOutputs_voted w e d b p
    rw [OnlyOutputs] at honly
    rw [heq, honly]

/-- The vote that is set is the one in the map, if it is of the kind its id says. -/
theorem World.voteInRange_voteSection (hw : Wf w.mSessionTaskMap) {e : Timeout} {vs : Votes}
    (hvs : w.mSessionTaskMap.votes? e.sessionId = some vs) (d : ℤ) (b : Ballot) (v τ : ℤ) :
    (w.voteSection e d b).2.mSessionTaskMap.voteInRange e.sessionId v τ =
      if v = e.voteId ∧ b.fits e.voteId = true then
        VoteRange.isTimeInRange ⟨true, e.timeStamp, d⟩ τ
      else w.mSessionTaskMap.voteInRange e.sessionId v τ := by
  rw [voteInRange, voteInRange, votes?_voteSection hw, hvs, Option.map_some, Option.bind_some,
    Option.bind_some, Ballot.timing?_add]
  split <;> rfl

/-- A default vote that the session sets lasts, and so does the one it has. -/
theorem Serves.voteDefault (h : Serves on s w₀ w) (hrenew : w₀.Renewed s t) {v' : AdpfVoteType}
    {d : ℤ} (hd : v' = .CPU_VOTE_DEFAULT → d = w.controlDuration s) {b : Ballot}
    (hvote : (v' = .CPU_VOTE_DEFAULT ∧ b.fits v'.toInt = true) ∨
      Lasts on s AdpfVoteType.CPU_VOTE_DEFAULT.toInt t w₀ w) :
    Lasts on s AdpfVoteType.CPU_VOTE_DEFAULT.toInt t w₀
      (w.voteSection (timeoutOf s v' w.clock d) d b).2 := by
  refine ⟨h.voteSection rfl _ _, fun τ hτ ht => ?_⟩
  rw [clock_voteSection] at hτ
  have hthere : w.mSessionTaskMap.votes? s ≠ none :=
    fun hnone => findSession_of_hasApp h.app (votes?_eq_none.1 hnone)
  obtain ⟨vs, hvs⟩ := Option.ne_none_iff_exists'.1 hthere
  refine (voteInRange_voteSection (e := timeoutOf s v' w.clock d) h.wf hvs d b _ τ).trans ?_
  split
  · next hset =>
      have hv : v' = .CPU_VOTE_DEFAULT := by
        have hid : AdpfVoteType.CPU_VOTE_DEFAULT.toInt = v'.toInt := hset.1
        cases v' <;> first | rfl | exact absurd hid (by decide)
      have hlast := hrenew w.clock h.clock (hτ.trans ht)
      rw [← h.duration, ← hd hv] at hlast
      exact (VoteRange.isTimeInRange_iff _ τ).2 ⟨rfl, hτ, ht.trans hlast⟩
  · next hset =>
      rcases hvote with ⟨rfl, hfits⟩ | hvote
      · exact absurd ⟨rfl, hfits⟩ hset
      · exact hvote.vote τ hτ ht

theorem Lasts.stableOn (hrenew : w₀.Renewed s t) :
    StableOn s (Lasts on s AdpfVoteType.CPU_VOTE_DEFAULT.toInt t w₀) where
  toCalm := Lasts.calm on s _ t w₀
  vote := fun _ _ _ _ hd h => h.toServes.voteDefault hrenew hd (Or.inr h)

/-- The default vote that a report or `setThreads` ends with. -/
theorem updatePidControlVariable_lasts (hrenew : w₀.Renewed s t) (x : ℤ) :
    Triple (Serves on s w₀) (updatePidControlVariable s x true) fun _ =>
      Lasts on s AdpfVoteType.CPU_VOTE_DEFAULT.toInt t w₀ :=
  updatePidControlVariable_triple (Serves.calm on s w₀) (Lasts.calm on s _ t w₀) s x
    fun _ _ _ h => h.voteDefault hrenew (fun _ => rfl) (Or.inl ⟨rfl, rfl⟩)

/-- The records of a session are no matter of its target. -/
theorem Serves.recordDurations (ds : List WorkDuration) :
    Triple (Serves on s w₀) (recordDurations s ds) fun _ => Serves on s w₀ := by
  have hrecords : ∀ {f : World → SessionRecords → PowerHintSession → PowerHintSession},
      (∀ w r x, (f w r x).mDescriptor = x.mDescriptor) →
      Triple (Serves on s w₀) (Prog.modify fun w => w.withRecords s (f w) : P Unit) fun _ =>
        Serves on s w₀ := by
    intro f hf
    refine Triple.modify fun w h => h.aside (.withRecords w s _) ?_
    unfold withRecords
    split
    · rfl
    · rw [sessions_modifySession_self, hf]
  refine Triple.bind ((Serves.calm on s w₀).self s) fun self => ?_
  refine Triple.bind (hrecords fun _ _ _ => rfl) fun _ => ?_
  exact Triple.bind (Serves.calm on s w₀).getAdpfProfile fun c => hrecords fun _ _ _ => rfl

theorem closeReport_lasts (hrenew : w₀.Renewed s t) (c : AdpfConfig) (ds : List WorkDuration)
    (back : WorkDuration) :
    Triple (Serves on s w₀) (closeReport s c ds back) fun _ =>
      Lasts on s AdpfVoteType.CPU_VOTE_DEFAULT.toInt t w₀ := by
  refine Triple.bind (Q := fun _ => Serves on s w₀) (Triple.critical (Triple.modify fun w h => ?_))
    fun _ => ?_
  · rw [disableSection_eq]
    exact h.writeVotes _
  unfold reportVotes
  cases c.mPidOn with
  | false => exact updatePidControlVariable_lasts hrenew _
  | true =>
      have hrecord : Triple (Serves on s w₀) (Prog.when c.heuristicBoostOn (recordDurations s ds))
          fun _ => Serves on s w₀ :=
        Triple.when (fun _ => Serves.recordDurations ds) fun _ _ h => h
      refine Triple.bind (reportCpu_triple (Serves.calm on s w₀) (Lasts.calm on s _ t w₀) s c ds hrecord
        fun _ _ _ h => h.voteDefault hrenew (fun _ => rfl) (Or.inl ⟨rfl, rfl⟩)) fun _ => ?_
      refine (Lasts.stableOn hrenew).reportGpu (fun w h => h.aside (.readGpuFrequency w) ?_) c back
      obtain ⟨faults, reads, heq⟩ := readGpuFrequency_eq w
      rw [heq]

end Own

/-! ### The condition on an operation -/

section Conditions

variable {s t : ℤ} {w : World}

/-- App session `r` is active, and its vote `v` is in range from now to `t`. -/
def World.CarriedBy (w : World) (r v t : ℤ) : Prop :=
  w.mSessionTaskMap.hasApp true r = true ∧ w.mSessionTaskMap.voteInRange r v w.clock = true ∧
    w.mSessionTaskMap.voteInRange r v t = true

/-- So is some app session other than `s`. -/
def World.CarriedBeside (w : World) (s t : ℤ) : Prop := ∃ r v, r ≠ s ∧ w.CarriedBy r v t

/-- The answer does not change from now to `t`, as long as the sessions and their votes do not. -/
def World.Unchanging (w : World) (t : ℤ) : Prop :=
  ∀ τ, w.clock ≤ τ → τ ≤ t → w.mSessionTaskMap.isAnyAppSessionActive τ = w.anyAppActive

/-- The operation ends with a question: a session is paused, resumed or closed, or the worker finds a
vote timed out. -/
def Op.AsksLast (w : World) : Op → Prop
  | .session s .pause => w.Changes s .pause
  | .session s .resume => w.Changes s .resume
  | .session s .close => w.Changes s .close
  | .worker i => w.expires i = true
  | _ => False

/-- The condition on an operation on session `s` that is accepted and ends at `t`: another session
counts all along, or the session does not count, or its own votes do. -/
def SessionOp.KeepsHint (w : World) (s t : ℤ) : SessionOp → Prop
  | .setThreads _ => w.CarriedBeside s t ∨
      (w.mSessionTaskMap.hasApp false s = false ∧ w.Unchanging t) ∨
      -- the session is switched on before the question, so it need not be active before
      (w.mSessionTaskMap.hasApp false s = true ∧ w.Renewed s t ∧
        ∃ v, w.mSessionTaskMap.voteInRange s v w.clock = true ∧
          w.mSessionTaskMap.voteInRange s v t = true)
  | .reportActualWorkDuration _ => w.CarriedBeside s t ∨
      (w.mSessionTaskMap.hasApp true s = false ∧ w.Unchanging t) ∨
      (w.Renewed s t ∧ ∃ v, w.CarriedBy s v t)
  | .sendHint _ => w.CarriedBeside s t ∨
      (w.mSessionTaskMap.hasApp true s = false ∧ w.Unchanging t) ∨
      -- a hint may set other votes anew, and for a shorter time
      (w.Renewed s t ∧ w.CarriedBy s AdpfVoteType.CPU_VOTE_DEFAULT.toInt t)
  | _ => False

/-- **The condition on an operation**, in the state in which it begins. -/
def Op.KeepsHint (w : World) (op : Op) : Prop :=
  op.AsksLast w ∨
    match op with
    | .create _ uid _ _ => w.CarriedBeside (w.sSessionIDCounter + 1) (op.prog.post w).clock ∨
        (uid < AID_APP_START ∧ w.mSessionTaskMap.hasApp false (w.sSessionIDCounter + 1) = false ∧
          w.Unchanging (op.prog.post w).clock)
    | .session s sop => sop.refusal (w.sessions s) ≠ none ∨
        sop.KeepsHint w s (op.prog.post w).clock
    | .worker _ => w.Unchanging (op.prog.post w).clock
    | _ => False

theorem World.CarriedBy.anyAppActive {r v : ℤ} (h : w.CarriedBy r v t) : w.anyAppActive = true :=
  isAnyAppSessionActive_of_vote h.1 h.2.1

/-- An operation after which the answer is `b`, as it was at the last question. -/
theorem Op.AnswersHint.follows {op : Op} {b : Bool} (h : op.AnswersHint w)
    (hpost : (op.prog.post w).anyAppActive = b)
    (hcheck : ∀ u, op.checkpoint w = some u → u.anyAppActive = b)
    (hnone : op.checkpoint w = none → w.boostDisabled = b) : (op.prog.post w).BoostFollows := by
  unfold Op.AnswersHint at h
  rw [BoostFollows, h, hpost]
  cases hc : op.checkpoint w with
  | none => exact hnone hc
  | some u => exact hcheck u hc

variable {keep : SessionValueEntry → Bool} {op : Op}

/-- The answer is `b` as long as only session `s` changes. -/
theorem Op.Spares.follows (hs : op.Spares keep s w) (h : op.AnswersHint w) {b : Bool}
    (hsame : ∀ u, Beside keep s w u → u.clock ≤ (op.prog.post w).clock → u.anyAppActive = b)
    (hw : w.boostDisabled = b) : (op.prog.post w).BoostFollows :=
  h.follows (hsame _ hs.post le_rfl) (fun u hu => hsame u (hs.check u hu).1 (hs.check u hu).2) fun _ => hw

/-- Another session counts all along. -/
theorem Op.Spares.follows_of_carried (hs : op.Spares keep s w) (h : op.AnswersHint w)
    (hw : w.BoostFollows) (hc : w.CarriedBeside s (op.prog.post w).clock) :
    (op.prog.post w).BoostFollows := by
  obtain ⟨r, v, hr, hc⟩ := hc
  refine hs.follows h (fun u hu hclock => ?_) (hw.trans hc.anyAppActive)
  refine isAnyAppSessionActive_of_vote (r := r) (v := v) ?_ ?_
  · rw [hasApp, hu.state? r hr]
    exact hc.1
  · rw [voteInRange, hu.votes? r hr]
    exact voteInRange_between hc.2.1 hc.2.2 hu.clock hclock

/-- The session does not count. -/
theorem Op.Spares.follows_of_unchanging (hs : op.Spares keep s w) (h : op.AnswersHint w)
    (hw : w.BoostFollows) (hkeep : ∀ x, keep x = true → (x.isAppSession && x.isActive) = false)
    (hself : w.mSessionTaskMap.hasApp true s = false) (hc : w.Unchanging (op.prog.post w).clock) :
    (op.prog.post w).BoostFollows := by
  refine hs.follows h (fun u hu hclock => ?_) hw
  refine Eq.trans (isAnyAppSessionActive_congr hu.state? hu.votes? hself ?_)
    (hc u.clock hu.clock hclock)
  cases hx : u.mSessionTaskMap.state? s with
  | none => simp [hasApp, hx]
  | some x => simpa [hasApp, hx] using hkeep x (hu.own x hx)

theorem SessionTaskMap.hasApp_of_not_app {m : SessionTaskMap} (h : m.hasApp false s = false) :
    m.hasApp true s = false := by
  cases hx : m.state? s with
  | none => simp [hasApp, hx]
  | some x =>
      have happ : x.isAppSession = false := by simpa [hasApp, hx] using h
      simp [hasApp, hx, happ]

/-- The session is none of an app. -/
theorem Op.Spares.follows_of_system (hs : op.Spares (fun x => !x.isAppSession) s w) (h : op.AnswersHint w)
    (hw : w.BoostFollows) (hself : w.mSessionTaskMap.hasApp false s = false)
    (hc : w.Unchanging (op.prog.post w).clock) : (op.prog.post w).BoostFollows := by
  refine hs.follows_of_unchanging h hw (fun x hx => ?_) (hasApp_of_not_app hself) hc
  rw [Bool.not_eq_true'] at hx
  rw [hx, Bool.false_and]

/-- The session is not active, or none of an app. -/
theorem Op.Spares.follows_of_silent (hs : op.Spares (fun x => !(x.isAppSession && x.isActive)) s w)
    (h : op.AnswersHint w) (hw : w.BoostFollows) (hself : w.mSessionTaskMap.hasApp true s = false)
    (hc : w.Unchanging (op.prog.post w).clock) : (op.prog.post w).BoostFollows :=
  hs.follows_of_unchanging h hw (fun _ hx => (Bool.not_eq_true' _).mp hx) hself hc

/-- The session's own votes count all along. -/
theorem Op.AnswersHint.follows_of_lasts {v r : ℤ} (h : op.AnswersHint w)
    (hpost : Lasts true s v (op.prog.post w).clock w (op.prog.post w))
    (hcheck : ∀ u, op.checkpoint w = some u → Lasts true s r (op.prog.post w).clock w u ∧
      u.clock ≤ (op.prog.post w).clock)
    (hnone : op.checkpoint w = none → w.boostDisabled = true) : (op.prog.post w).BoostFollows :=
  h.follows (hpost.anyAppActive le_rfl) (fun u hu => (hcheck u hu).1.anyAppActive (hcheck u hu).2) hnone

/-! ### One operation -/

theorem Op.AsksLast.follows (ha : op.AsksLast w) (h : op.AnswersHint w) :
    (op.prog.post w).BoostFollows := by
  have hsome : op.checkpoint w = some (op.prog.post w) := by
    unfold Op.AsksLast at ha
    split at ha
    · rw [Op.post_session]
      exact if_pos ha
    · rw [Op.post_session]
      exact if_pos ha
    · rw [Op.post_session]
      exact if_pos ha
    · exact if_pos ha
    · exact ha.elim
  unfold Op.AnswersHint at h
  rw [hsome] at h
  exact h

/-- The votes of the session as the operation begins. -/
theorem Lasts.start {on : Bool} {v : ℤ} (hwf : Wf w.mSessionTaskMap)
    (happ : w.mSessionTaskMap.hasApp on s = true)
    (hnow : w.mSessionTaskMap.voteInRange s v w.clock = true)
    (ht : w.mSessionTaskMap.voteInRange s v t = true) : Lasts on s v t w w :=
  ⟨⟨hwf, le_rfl, rfl, happ⟩, fun _ hτ hτt => voteInRange_between hnow ht hτ hτt⟩

theorem Beside.all (hwf : Wf w.mSessionTaskMap) (s : ℤ) : Beside (fun _ => true) s w w :=
  .refl hwf fun _ _ => rfl

theorem Beside.system (hwf : Wf w.mSessionTaskMap) (hs : w.mSessionTaskMap.hasApp false s = false) :
    Beside (fun x => !x.isAppSession) s w w :=
  .refl hwf fun x hx => by simpa [hasApp, hx] using hs

theorem Beside.silent (hwf : Wf w.mSessionTaskMap) (hs : w.mSessionTaskMap.hasApp true s = false) :
    Beside (fun x => !(x.isAppSession && x.isActive)) s w w := by
  refine .refl hwf fun x hx => ?_
  rw [Bool.not_eq_true']
  simpa [hasApp, hx] using hs

theorem setThreads_follows (hwf : Wf w.mSessionTaskMap) (hw : w.BoostFollows) {tids : List ℤ}
    (haccept : SessionOp.refusal (w.sessions s) (.setThreads tids) = none)
    (h : (Op.session s (.setThreads tids)).AnswersHint w)
    (hc : SessionOp.KeepsHint w s ((Op.session s (.setThreads tids)).prog.post w).clock
      (.setThreads tids)) : ((Op.session s (.setThreads tids)).prog.post w).BoostFollows := by
  have hspares := setThreads_spares (Beside.all hwf s) (fun _ _ h => h) haccept
  rcases hc with hc | ⟨hsys, hc⟩ | ⟨happ, hrenew, v, hnow, ht⟩
  · exact hspares.follows_of_carried h hw hc
  · exact (setThreads_spares (Beside.system hwf hsys) (fun _ _ h => h) haccept).follows_of_system h hw
      hsys hc
  · -- the session is there, so the question is asked
    have hfound : (w.mSessionTaskMap.findSession s).isSome = true :=
      Option.isSome_iff_ne_none.2 (findSession_of_hasApp happ)
    have hcheck : (Op.session s (.setThreads tids)).checkpoint w = some ((takeThreads s tids).post w) :=
      if_pos ⟨haccept, hfound⟩
    have htake := takeThreads_lasts tids w (Lasts.start hwf happ hnow ht)
    have hvote : Triple (Serves true s w) (newThreadsVote s) fun _ => Lasts true s
        AdpfVoteType.CPU_VOTE_DEFAULT.toInt ((Op.session s (.setThreads tids)).prog.post w).clock w :=
      Triple.bind (Serves.calm true s w).getAdpfProfile fun _ => updatePidControlVariable_lasts hrenew _
    have hpost : (Op.session s (.setThreads tids)).prog.post w =
        (newThreadsVote s).post ((takeThreads s tids).post w) :=
      (Op.post_session ..).trans (setThreads_post haccept)
    have hend := hvote _ htake.toServes
    refine h.follows_of_lasts (r := v) (by rw [hpost] at hend ⊢; exact hend) (fun u hu => ?_) fun hnone => ?_
    · obtain rfl := Option.some.inj (hcheck.symm.trans hu)
      exact ⟨htake, (hspares.check _ hu).2⟩
    · rw [hcheck] at hnone
      cases hnone

theorem report_follows (hwf : Wf w.mSessionTaskMap) (hw : w.BoostFollows) {ds : List WorkDuration}
    (haccept : SessionOp.refusal (w.sessions s) (.reportActualWorkDuration ds) = none)
    (h : (Op.session s (.reportActualWorkDuration ds)).AnswersHint w)
    (hc : SessionOp.KeepsHint w s ((Op.session s (.reportActualWorkDuration ds)).prog.post w).clock
      (.reportActualWorkDuration ds)) :
    ((Op.session s (.reportActualWorkDuration ds)).prog.post w).BoostFollows := by
  have hspares := report_spares (Beside.all hwf s) haccept
  rcases hc with hc | ⟨hsys, hc⟩ | ⟨hrenew, v, hcarry⟩
  · exact hspares.follows_of_carried h hw hc
  · exact (report_spares (Beside.silent hwf hsys) haccept).follows_of_silent h hw hsys hc
  · obtain ⟨back, hpost⟩ := report_post haccept
    have hopen := (Lasts.calm true s v _ w).within (openReport_within s) w
      (Lasts.start hwf hcarry.1 hcarry.2.1 hcarry.2.2)
    have hpost := (Op.post_session s (.reportActualWorkDuration ds) w).trans hpost
    have hend := closeReport_lasts hrenew w.adpfConfig ds back _ hopen.toServes
    refine h.follows_of_lasts (r := v) (by rw [hpost] at hend ⊢; exact hend) (fun u hu => ?_) fun _ =>
      hw.trans hcarry.anyAppActive
    obtain rfl := Option.some.inj (Option.ite_none_right_eq_some.1 hu).2
    exact ⟨hopen, (hspares.check _ hu).2⟩

theorem sendHint_follows (hwf : Wf w.mSessionTaskMap) (hw : w.BoostFollows) {hint : SessionHint}
    (hhint : hint ≠ .POWER_EFFICIENCY) (h : (Op.session s (.sendHint hint)).AnswersHint w)
    (hc : SessionOp.KeepsHint w s ((Op.session s (.sendHint hint)).prog.post w).clock
      (.sendHint hint)) : ((Op.session s (.sendHint hint)).prog.post w).BoostFollows := by
  rcases hc with hc | ⟨hsys, hc⟩ | ⟨hrenew, hcarry⟩
  · exact (sendHint_spares (Beside.all hwf s) hhint).follows_of_carried h hw hc
  · exact (sendHint_spares (Beside.silent hwf hsys) hhint).follows_of_silent h hw hsys hc
  · have hlasts := (Lasts.stableOn hrenew).sendHint hhint w
      (Lasts.start hwf hcarry.1 hcarry.2.1 hcarry.2.2)
    have hpost := Op.post_session s (.sendHint hint) w
    refine h.follows ?_ (fun u hu => by cases hu) fun _ => hw.trans hcarry.anyAppActive
    rw [hpost] at hlasts ⊢
    exact hlasts.anyAppActive le_rfl

theorem create_follows (hwf : Wf w.mSessionTaskMap) (hw : w.BoostFollows) {tgid uid : ℤ}
    {tids : List ℤ} {d : ℤ} (h : (Op.create tgid uid tids d).AnswersHint w)
    (hc : w.CarriedBeside (w.sSessionIDCounter + 1) ((Op.create tgid uid tids d).prog.post w).clock ∨
      (uid < AID_APP_START ∧ w.mSessionTaskMap.hasApp false (w.sSessionIDCounter + 1) = false ∧
        w.Unchanging ((Op.create tgid uid tids d).prog.post w).clock)) :
    ((Op.create tgid uid tids d).prog.post w).BoostFollows := by
  rcases hc with hc | ⟨huid, hnone, hc⟩
  · exact (create_spares (Beside.all hwf _) tgid uid tids d (fun _ _ h => h)
      fun _ _ => rfl).follows_of_carried h hw hc
  · refine (create_spares (Beside.system hwf hnone) tgid uid tids d (fun _ _ h => h)
      fun x hx => ?_).follows_of_system h hw hnone hc
    rw [hx, decide_eq_false (not_le.2 huid)]
    rfl

/-- An event whose vote has not timed out. -/
theorem worker_follows (henv : w.env.BoostHint) (hw : w.BoostFollows) {i : ℕ}
    (hexp : ¬ w.expires i = true) (hc : w.Unchanging ((Op.worker i).prog.post w).clock) :
    ((Op.worker i).prog.post w).BoostFollows := by
  have hround := workerRound_heeds henv i
  rw [if_neg hexp] at hround
  have hclock : w.clock ≤ ((workerRound i).post w).clock :=
    ((workerRound_within (A := Eq .hint) rfl i).mono fun _ _ ha => ha.clock_le).post
      (fun _ => le_rfl) (fun _ _ _ => le_trans) w
  have hsame : ((workerRound i).post w).anyAppActive = w.anyAppActive := by
    unfold World.anyAppActive
    rw [hround.2]
    exact hc _ hclock le_rfl
  exact (hround.1.boostDisabled.trans hw).trans hsame.symm

theorem Op.Boosts.guarded {sop : SessionOp} (h : (Op.session s sop).Boosts) : sop.Guarded := by
  cases sop with
  | sendHint hint =>
      cases hint with
      | POWER_EFFICIENCY => exact absurd rfl h
      | _ => exact id
  | _ => first | exact id | exact h.elim

/-- **One operation** that meets the condition leaves the hint right. -/
theorem Op.post_follows (hop : op.Boosts) (henv : w.env.BoostHint) (hwf : Wf w.mSessionTaskMap)
    (hw : w.BoostFollows) (hc : op.KeepsHint w) : (op.prog.post w).BoostFollows := by
  have h := op.boostDisabled_post hop henv hwf
  rcases hc with hc | hc
  · exact hc.follows h
  cases op with
  | create tgid uid tids d => exact create_follows hwf hw h hc
  | worker i =>
      by_cases hexp : w.expires i = true
      · have hasks : Op.AsksLast w (.worker i) := hexp
        exact hasks.follows h
      · exact worker_follows henv hw hexp hc
  | session s sop =>
      by_cases haccept : sop.refusal (w.sessions s) = none
      · have hc := hc.resolve_left fun hne => hne haccept
        cases sop with
        | setThreads tids => exact setThreads_follows hwf hw haccept h hc
        | reportActualWorkDuration ds => exact report_follows hwf hw haccept h hc
        | sendHint hint => exact sendHint_follows hwf hw hop h hc
        | _ => exact hc.elim
      · obtain ⟨status, hstatus⟩ := Option.ne_none_iff_exists'.1 haccept
        rw [Op.post_session, post, sop.run_refused hop.guarded hstatus]
        exact hw
  | dumpToStream s => exact hc.elim
  | manager op => exact hc.elim

end Conditions

/-! ### Whole runs -/

/-- The states of a run in which the condition has been met since the beginning, or since an operation
that ends with a question. -/
inductive Heeded (w₀ : World) : World → Prop
  | init : Heeded w₀ w₀
  | asks {w : World} (op : Op) : Runs (fun _ op => op.Boosts) w₀ w → op.Boosts → op.AsksLast w →
      op.prog.returns [] w = true → Heeded w₀ (op.prog.post w)
  | keeps {w : World} (op : Op) : Heeded w₀ w → op.Boosts → op.KeepsHint w →
      op.prog.returns [] w = true → Heeded w₀ (op.prog.post w)

theorem Heeded.runs {w₀ w : World} (h : Heeded w₀ w) : Runs (fun _ op => op.Boosts) w₀ w := by
  induction h with
  | init => exact .init
  | asks op hrun hop _ hret => exact hrun.step op hop hret
  | keeps op _ hop _ hret ih => exact ih.step op hop hret

/-- **Whole runs.**  The hint that disables the boost is right, that is, on exactly if some app session
is active and has a vote in range, in every state of a run of these operations in which each step has
met the condition since the beginning, or since a session was paused, resumed or closed or a vote
expired. -/
theorem boost_hint_follows (env : Env) (c : AdpfConfig) (henv : env.BoostHint) (w : World)
    (h : Heeded (World.init env c) w) : w.BoostFollows := by
  have hsound : ∀ {u}, Runs (fun _ op => op.Boosts) (World.init env c) u →
      u.env.BoostHint ∧ Wf u.mSessionTaskMap := by
    intro u hrun
    induction hrun with
    | init => exact ⟨henv, Wf.empty⟩
    | step op _ _ _ ih =>
        have hpost := op.post_wf ih.2
        exact ⟨hpost.2 ▸ ih.1, hpost.1⟩
  induction h with
  | init => rfl
  | asks op hrun hop hasks _ =>
      have hu := hsound hrun
      exact hasks.follows (op.boostDisabled_post hop hu.1 hu.2)
  | keeps op hw hop hkeeps _ ih =>
      have hu := hsound hw.runs
      exact Op.post_follows hop hu.1 hu.2 ih hkeeps

/-- A device that supports the hint, under its default name; after the constructor 16 ms pass until
the clock is read again. -/
def boostEnv : Env where
  isHintSupported := fun hint => hint == "ADPF_DISABLE_TA_BOOST"
  delay := fun n => if n = 8 then 16000000 else if n = 10 then 1000000 else 0

theorem boostEnv_boostHint : boostEnv.BoostHint where
  supported := by decide
  first_frame := by decide
  session_hint := by
    have hempty : "" ≠ boostEnv.disableBoostHintName := by decide
    intro hint
    cases hint with
    | unknown raw => exact hempty
    | _ => decide

/-- An app constructs a session, and reports a frame. -/
def appCreates : Op := .create 100 10000 [7] 16000000

def appReports : Op := .session 1 (.reportActualWorkDuration [⟨0, 12000000, 0, 0⟩])

/-- The state after the constructor, after its default vote has expired, and after a report. -/
@[irreducible] def oneAppSession : World := appCreates.prog.post (World.init boostEnv makeMockConfig)

@[irreducible] def voteExpired : World := (Op.worker 0).prog.post oneAppSession

@[irreducible] def frameReported : World := appReports.prog.post voteExpired

theorem oneAppSession_runs :
    Runs (fun _ op => op.Boosts) (World.init boostEnv makeMockConfig) oneAppSession := by
  unfold oneAppSession
  exact Runs.init.step appCreates trivial ((appCreates.respects id).returns _)

/-- The expiry of the default vote ends with a question, which finds the vote for the reset; and the
report finds it too, and its own vote lasts. -/
theorem frameReported_heeded : Heeded (World.init boostEnv makeMockConfig) frameReported := by
  have hasks : Heeded (World.init boostEnv makeMockConfig) voteExpired := by
    have hexpires : oneAppSession.expires 0 = true := by decide +kernel
    unfold voteExpired
    exact .asks (.worker 0) oneAppSession_runs trivial hexpires (((Op.worker 0).respects id).returns _)
  have hnow : voteExpired.clock = 16000000 := by decide +kernel
  have hend : (appReports.prog.post voteExpired).clock = 17000000 := by decide +kernel
  have hrenewed : voteExpired.Renewed 1 (appReports.prog.post voteExpired).clock := by
    have hduration : voteExpired.controlDuration 1 = 333333320 := by decide +kernel
    intro τ hlo hhi
    rw [hnow] at hlo
    rw [hend] at hhi ⊢
    rw [hduration, addNanos, toInt64_eq (by omega) (by omega)]
    omega
  have hcarried : voteExpired.CarriedBy 1 AdpfVoteType.CPU_LOAD_RESET.toInt
      (appReports.prog.post voteExpired).clock := by
    unfold World.CarriedBy
    rw [hnow, hend]
    refine ⟨?_, ?_, ?_⟩
    · decide +kernel
    · decide +kernel
    · decide +kernel
  unfold frameReported
  exact hasks.keeps appReports trivial (Or.inr (Or.inr (Or.inr (Or.inr ⟨hrenewed, _, hcarried⟩))))
    ((appReports.respects id).returns _)

/-- So the hint is right after the report, and on. -/
theorem boost_hint_follows_reported :
    Heeded (World.init boostEnv makeMockConfig) frameReported ∧ frameReported.BoostFollows ∧
      frameReported.anyAppActive = true := by
  refine ⟨frameReported_heeded, ?_, ?_⟩
  · exact boost_hint_follows boostEnv makeMockConfig boostEnv_boostHint _ frameReported_heeded
  · decide +kernel

/-- After the constructor it is not: it asks before it votes. -/
theorem boost_hint_stale_after_create :
    boostEnv.BoostHint ∧
      Runs (fun _ op => op.Boosts) (World.init boostEnv makeMockConfig) oneAppSession ∧
      oneAppSession.anyAppActive = true ∧ oneAppSession.boostDisabled = false ∧
      oneAppSession.hintCalls.head? = some (.endHint boostEnv.disableBoostHintName) := by
  refine ⟨boostEnv_boostHint, oneAppSession_runs, ?_, ?_, ?_⟩
  · decide +kernel
  · decide +kernel
  · decide +kernel

end Adpf
