/-
**The records behind the heuristic boost.**

A session object gets its records when it is constructed, and only if the profile that is in force
then has the heuristic boost on.  A report uses the records if the profile in force at the report has
it on.  Profiles change at any time in between, so what happens is a matter of a session's past: this
module keeps, along a run, under which profile each session was constructed, and proves that null
records are dereferenced exactly by the reports that use records of a session that was constructed
without.

Main definitions:

* `Adpf.World.nullRecords` — how often null records were dereferenced;
* `Adpf.RecordsBorn` — which sessions have records, and that count;
* `Adpf.History` — a run together with what the constructions found;
* `Adpf.KeepsRecords` — the condition on the operations.

Main results:

* `Adpf.Action.recordsBorn` — no other action gives a session records or takes them away;
* `Adpf.Op.recordsBorn` — **one operation**: how the two change;
* `Adpf.session_records_present` — **whole runs**: records are present whenever they are used, under
  the condition and only then.
-/

import MotoCommon.LockDiscipline
import MotoCommon.RunRules

set_option autoImplicit false

namespace Adpf

open Conc World Prog PowerHintSession

/-- The number of times that the null pointer in a session's `mSessionRecords` was dereferenced. -/
def World.nullRecords (w : World) : ℕ := w.faults.count .sessionRecords

/-- The sessions with records are those of `on`, and null records were dereferenced `n` times. -/
structure RecordsBorn (on : ℤ → Bool) (n : ℕ) (w : World) : Prop where
  records : ∀ s, (w.sessions s).mSessionRecords.isSome = on s
  nulls : w.nullRecords = n

variable {on : ℤ → Bool} {n : ℕ} {w w' : World}

/-! ### Actions -/

theorem World.FaultsAtNode.nullRecords (h : FaultsAtNode w w') : w'.nullRecords = w.nullRecords := by
  unfold World.nullRecords
  rcases h with heq | ⟨-, heq⟩
  · rw [heq]
  · rw [heq]
    rfl

theorem World.faultsAtNode_readGpuFrequency (w : World) : FaultsAtNode w w.readGpuFrequency.2 := by
  unfold World.readGpuFrequency
  split
  · exact Or.inl rfl
  · exact Or.inr ⟨by assumption, rfl⟩
  · exact Or.inl rfl

/-- Only a use of the records counts as one of null records. -/
theorem Action.nullRecords {A : Special → Prop} (ha : Action A w w') (hrec : ¬ A .records) :
    w'.nullRecords = w.nullRecords := by
  rcases ha.objects with ho | ⟨s, -, rfl⟩ | ⟨k, hk, hapart⟩
  · exact ho.faults.nullRecords
  · rfl
  · cases hapart with
    | construct tgid uid tids d => rfl
    | activate s b => rfl
    | retarget s t => rfl
    | close s => rfl
    | taskProfile profile tid => rfl
    | records s f _ _ => exact absurd hk hrec
    | frequency => exact (faultsAtNode_readGpuFrequency w).nullRecords
    | hint hq => rw [World.nullRecords, hq.faults, World.nullRecords]

/-- An action that neither constructs a session nor uses records changes nothing about them. -/
theorem Action.recordsBorn {A : Special → Prop} (ha : Action A w w') (hnew : ¬ A .construct)
    (hrec : ¬ A .records) (h : RecordsBorn on n w) : RecordsBorn on n w' := by
  exact ⟨fun s => (ha.keepsSession hnew s).records.trans (h.records s),
    (ha.nullRecords hrec).trans h.nulls⟩

theorem RecordsBorn.stable (on : ℤ → Bool) (n : ℕ) : Stable (RecordsBorn on n) where
  quiet := fun hq h => Action.recordsBorn (A := Eq .hint) (.apart rfl (.hint hq)) (by decide) (by decide) h
  events := fun _ _ _ h => ⟨h.records, h.nulls⟩
  vote := fun _ _ d b w h => Action.recordsBorn (A := fun _ => False) (.vote _ d b w rfl) id id h

/-- One use of a session's records. -/
theorem RecordsBorn.withRecords (h : RecordsBorn on n w) (s : ℤ)
    {f : SessionRecords → PowerHintSession → PowerHintSession}
    (hf : ∀ r x, x.mSessionRecords = some r → (f r x).mSessionRecords.isSome = true) :
    RecordsBorn on (n + if on s = true then 0 else 1) (w.withRecords s f) := by
  have hs := h.records s
  unfold World.withRecords
  cases hrec : (w.sessions s).mSessionRecords with
  | none =>
      rw [hrec, Option.isSome_none] at hs
      rw [← hs, if_neg (by decide)]
      refine ⟨h.records, ?_⟩
      unfold nullRecords
      rw [List.count_cons_self, ← h.nulls]
      rfl
  | some r =>
      rw [hrec, Option.isSome_some] at hs
      rw [← hs, if_pos rfl]
      refine ⟨fun s' => ?_, h.nulls⟩
      rw [← h.records s']
      by_cases hs' : s' = s
      · rw [hs', sessions_modifySession_self, hf r _ hrec, hrec, Option.isSome_some]
      · rw [sessions_modifySession_of_ne hs']

/-! ### Reports -/

/-- The durations go into the records, which are then used once more. -/
theorem recordDurations_recordsBorn (on : ℤ → Bool) (n : ℕ) (s : ℤ) (ds : List WorkDuration) :
    Triple (RecordsBorn on n) (recordDurations s ds) fun _ =>
      RecordsBorn on (n + if on s = true then 0 else 2) := by
  let k := if on s = true then 0 else 1
  have hcount : n + k + k = n + if on s = true then 0 else 2 := by
    by_cases hs : on s = true
    · simp [k, hs]
    · simp [k, hs]
  rw [← hcount]
  refine Triple.bind ((RecordsBorn.stable on n).self s) fun self => ?_
  refine Triple.bind (Q := fun _ => RecordsBorn on (n + k)) ?_ fun _ => ?_
  · exact Triple.modify fun _ h => h.withRecords s fun _ _ _ => rfl
  · refine Triple.bind (RecordsBorn.stable on (n + k)).getAdpfProfile fun c => ?_
    exact Triple.modify fun _ h => h.withRecords s fun r x hx => by simp [hx]

/-- A report under the profile `c` uses the records of a session that has none. -/
def MissesRecords (on : ℤ → Bool) (c : AdpfConfig) (s : ℤ) : Prop :=
  c.mPidOn = true ∧ c.heuristicBoostOn = true ∧ on s = false

instance (on : ℤ → Bool) (c : AdpfConfig) (s : ℤ) : Decidable (MissesRecords on c s) :=
  inferInstanceAs (Decidable (_ ∧ _ ∧ _))

theorem reportVotes_recordsBorn (on : ℤ → Bool) (n : ℕ) (s : ℤ) (c : AdpfConfig)
    (ds : List WorkDuration) (back : WorkDuration) :
    Triple (RecordsBorn on n) (reportVotes s c ds back) fun _ =>
      RecordsBorn on (n + if MissesRecords on c s then 2 else 0) := by
  unfold reportVotes
  cases hpid : c.mPidOn with
  | false =>
      have hmiss : ¬ MissesRecords on c s := fun h => absurd (h.1.symm.trans hpid) (by decide)
      rw [if_neg hmiss]
      exact ((RecordsBorn.stable on n).on s).updatePidControlVariable _ true
  | true =>
      have hstable := RecordsBorn.stable on (n + if MissesRecords on c s then 2 else 0)
      refine Triple.bind (reportCpu_triple hstable.toCalm hstable.toCalm s c ds ?_ ?_) fun _ => ?_
      · refine Triple.when (fun hon => ?_) fun hoff w h => ?_
        · have hrecord := recordDurations_recordsBorn on n s ds
          cases hs : on s with
          | true =>
              rw [if_pos hs] at hrecord
              rwa [if_neg fun h => absurd (h.2.2.symm.trans hs) (by decide)]
          | false =>
              rw [if_neg (by simp [hs])] at hrecord
              rwa [if_pos ⟨hpid, hon, hs⟩]
        · rwa [if_neg fun hmiss => absurd (hmiss.2.1.symm.trans hoff) (by decide)]
      · exact fun lo hi w h => hstable.vote s _ _ (.cpu lo hi) w h
      · refine (hstable.on s).reportGpu (fun u h => ?_) c back
        have hread : Action (Eq .frequency) u u.readGpuFrequency.2 := .apart rfl (.frequency u)
        exact hread.recordsBorn (by decide) (by decide) h

/-- The operation is a report that is accepted and uses the records of a session without. -/
def Op.MissesRecords (w : World) (on : ℤ → Bool) : Op → Prop
  | .session s (.reportActualWorkDuration ds) =>
      (∃ back, w.Accepts s ds back) ∧ Adpf.MissesRecords on w.adpfConfig s
  | _ => False

theorem report_recordsBorn (h : RecordsBorn on n w) (s : ℤ) (ds : List WorkDuration) :
    ∃ k, RecordsBorn on (n + k) ((Op.session s (.reportActualWorkDuration ds)).prog.post w) ∧
      (k ≠ 0 ↔ Op.MissesRecords w on (.session s (.reportActualWorkDuration ds))) := by
  rw [Op.post_session]
  by_cases hacc : ∃ back, w.Accepts s ds back
  · obtain ⟨back, hback⟩ := hacc
    refine ⟨if Adpf.MissesRecords on w.adpfConfig s then 2 else 0, ?_, ?_⟩
    · show RecordsBorn on _ ((reportActualWorkDuration s ds).post w)
      rw [report_post_of_accepts hback]
      refine acceptReport_post (RecordsBorn.stable on n).toCalm h (fun u hu => ?_)
        (reportVotes_recordsBorn on n s _ ds back)
      exact Action.recordsBorn (A := fun _ => False) (.disable s u) id id hu
    · by_cases hmiss : Adpf.MissesRecords on w.adpfConfig s
      · rw [if_pos hmiss]
        exact ⟨fun _ => ⟨⟨back, hback⟩, hmiss⟩, fun _ => by decide⟩
      · rw [if_neg hmiss]
        exact ⟨fun hne => absurd rfl hne, fun hmiss' => absurd hmiss'.2 hmiss⟩
  · refine ⟨0, ?_, fun hne => absurd rfl hne, fun hmiss => absurd hmiss.1 hacc⟩
    show RecordsBorn on n ((reportActualWorkDuration s ds).post w)
    rw [report_post_of_refused fun back hback => hacc ⟨back, hback⟩]
    exact h

/-! ### Operations and runs -/

/-- Under which profiles the sessions were constructed: whether the heuristic boost was on. -/
def Op.constructedOn (w : World) (on : ℤ → Bool) : Op → ℤ → Bool
  | .create _ _ _ _ => Function.update on (w.sSessionIDCounter + 1) w.adpfConfig.heuristicBoostOn
  | _ => on

theorem Op.constructedOn_manager (w : World) (on : ℤ → Bool) (op : ManagerOp) :
    Op.constructedOn w on (.manager op) = on := rfl

theorem RecordsBorn.newSession (h : RecordsBorn on n w) (tgid uid : ℤ) (tids : List ℤ) (d : ℤ) :
    RecordsBorn (Function.update on (w.sSessionIDCounter + 1) w.adpfConfig.heuristicBoostOn) n
      (w.newSession tgid uid tids d).2 := by
  refine ⟨fun s => ?_, h.nulls⟩
  unfold World.newSession
  by_cases hs : s = w.sSessionIDCounter + 1
  · rw [hs]
    dsimp only
    rw [Function.update_self, Function.update_self]
    cases w.adpfConfig.heuristicBoostOn <;> rfl
  · dsimp only
    rw [Function.update_of_ne hs, Function.update_of_ne hs]
    exact h.records s

theorem create_recordsBorn (h : RecordsBorn on n w) (tgid uid : ℤ) (tids : List ℤ) (d : ℤ) :
    RecordsBorn (Function.update on (w.sSessionIDCounter + 1) w.adpfConfig.heuristicBoostOn) n
      ((create tgid uid tids d).post w) := by
  have hstable := RecordsBorn.stable
    (Function.update on (w.sSessionIDCounter + 1) w.adpfConfig.heuristicBoostOn) n
  refine create_triple (I := fun u => u = w) (fun _ => hstable.toCalm) hstable tgid uid tids d
    ?_ ?_ w rfl
  · rintro u rfl
    exact h.newSession tgid uid tids d
  · intro sid self u hu
    have hwithin := addPowerSession_within (A := fun k => k = .standing ∨ k = .hint) (.inl rfl) (.inr rfl)
      (some self.mDescriptor) tids
    exact (hwithin.mono fun v v' ha hv =>
      Action.recordsBorn ha (by decide) (by decide) hv).keeps u hu.1

/-- Only a report uses records. -/
theorem Op.eq_report {op : Op} (h : op.uses .records) :
    ∃ s ds, op = .session s (.reportActualWorkDuration ds) := by
  cases op with
  | create tgid uid tids d => exact h.elim
  | session s op =>
      cases op with
      | reportActualWorkDuration ds => exact ⟨s, ds, rfl⟩
      | sendHint hint => cases hint <;> exact h.elim
      | _ => exact h.elim
  | manager op => cases op <;> exact h.elim
  | dumpToStream s => exact h.elim
  | worker i => exact h.elim

/-- **One operation.**  A session has records if it is constructed under a profile that has the
heuristic boost on, and null records are dereferenced if the operation is a report that misses
them. -/
theorem Op.recordsBorn (op : Op) (h : RecordsBorn on n w) :
    ∃ k, RecordsBorn (op.constructedOn w on) (n + k) (op.prog.post w) ∧
      (k ≠ 0 ↔ op.MissesRecords w on) := by
  by_cases hrec : op.uses .records
  · obtain ⟨s, ds, rfl⟩ := op.eq_report hrec
    exact report_recordsBorn h s ds
  have hmiss : ¬ op.MissesRecords w on := by
    intro hmiss
    unfold Op.MissesRecords at hmiss
    split at hmiss
    · exact hrec trivial
    · exact hmiss
  refine ⟨0, ?_, fun hne => absurd rfl hne, fun h => absurd h hmiss⟩
  by_cases hnew : op.uses .construct
  · obtain ⟨tgid, uid, tids, d, rfl⟩ := op.eq_create hnew
    rw [Op.post_create]
    exact create_recordsBorn h tgid uid tids d
  · have hsame : op.constructedOn w on = on := by
      unfold Op.constructedOn
      split
      · exact absurd trivial hnew
      · rfl
    rw [hsame]
    exact op.keeps (fun w w' ha hw => ha.recordsBorn hnew hrec hw) w h

/-- A run, with a note for each session whether the heuristic boost was on in the profile under
which it was constructed. -/
inductive History (ok : World → (ℤ → Bool) → Op → Prop) (w₀ : World) : World → (ℤ → Bool) → Prop
  | init : History ok w₀ w₀ fun _ => false
  | step {w : World} {on : ℤ → Bool} (op : Op) : History ok w₀ w on → ok w on op →
      op.prog.returns [] w = true → History ok w₀ (op.prog.post w) (op.constructedOn w on)

theorem History.next {ok : World → (ℤ → Bool) → Op → Prop} {w₀ : World} (h : History ok w₀ w on)
    (op : Op) (hok : ok w on op) (hop : ¬ op.Reenters) :
    History ok w₀ (op.prog.post w) (op.constructedOn w on) :=
  h.step op hok ((op.respects hop).returns w)

/-- Records are used in a report only if the session was constructed with them. -/
def KeepsRecords (w : World) (on : ℤ → Bool) (op : Op) : Prop := ¬ op.MissesRecords w on

theorem History.recordsBorn {ok : World → (ℤ → Bool) → Op → Prop} {env : Env} {c : AdpfConfig}
    (h : History ok (World.init env c) w on) : ∃ n, RecordsBorn on n w := by
  induction h with
  | init => exact ⟨0, fun _ => rfl, rfl⟩
  | step op _ _ _ ih =>
      obtain ⟨n, hn⟩ := ih
      obtain ⟨k, hk, -⟩ := op.recordsBorn hn
      exact ⟨n + k, hk⟩

theorem History.nullRecords_eq_zero {env : Env} {c : AdpfConfig}
    (h : History KeepsRecords (World.init env c) w on) : RecordsBorn on 0 w := by
  induction h with
  | init => exact ⟨fun _ => rfl, rfl⟩
  | step op _ hok _ ih =>
      obtain ⟨k, hk, hmiss⟩ := op.recordsBorn ih
      have hzero : k = 0 := by
        by_contra hne
        exact hok (hmiss.1 hne)
      rwa [hzero] at hk

/-- **Records are present whenever they are used.**  No null records are dereferenced in a run in
which every accepted report under a profile with controller and heuristic boost on is for a session
that was constructed under a profile with the heuristic boost on; and any other such report, after
any run, dereferences null records. -/
theorem session_records_present (env : Env) (c : AdpfConfig) :
    (∀ w on, History KeepsRecords (World.init env c) w on → Fault.sessionRecords ∉ w.faults) ∧
    (∀ w on op, History (fun _ _ _ => True) (World.init env c) w on → ¬ KeepsRecords w on op →
      Fault.sessionRecords ∈ (op.prog.post w).faults) := by
  refine ⟨fun w on h => ?_, fun w on op h hop => ?_⟩
  · exact List.count_eq_zero.1 h.nullRecords_eq_zero.nulls
  · obtain ⟨n, hn⟩ := h.recordsBorn
    obtain ⟨k, hk, hmiss⟩ := op.recordsBorn hn
    have hne : k ≠ 0 := hmiss.2 (not_not.1 hop)
    refine List.count_pos_iff.1 ?_
    have hcount := hk.nulls
    unfold World.nullRecords at hcount
    omega

/-- Two profiles: the one in force at first may have the heuristic boost on or off, and for games
it is on. -/
def gameEnv : Env where
  adpfProfile := fun mode => if mode = "GAME" then some makeMockConfig else none

def heuristicConfig (on : Bool) : AdpfConfig :=
  { makeMockConfig with
    mHeuristicBoostOn := some on
    heuristicParams := fun _ => by decide }

/-- A session is constructed under the first profile, and then a game starts. -/
@[irreducible] def gameStarted (on : Bool) : World :=
  (Op.manager (.updateHintMode "GAME" true)).prog.post
    ((Op.create 100 10000 [7] 16000000).prog.post (World.init gameEnv (heuristicConfig on)))

/-- The session reports a cycle. -/
def gameReport : Op :=
  .session 1 (.reportActualWorkDuration
    [{ timeStampNanos := 0, durationNanos := 20000000, cpuDurationNanos := 20000000,
       gpuDurationNanos := 0 }])

theorem gameStarted_history (on : Bool) : ∃ on', on' 1 = on ∧
    History KeepsRecords (World.init gameEnv (heuristicConfig on)) (gameStarted on) on' := by
  have hcreate : Op.constructedOn (World.init gameEnv (heuristicConfig on)) (fun _ => false)
      (.create 100 10000 [7] 16000000) 1 = on := by
    cases on <;> rfl
  have hstart : History KeepsRecords (World.init gameEnv (heuristicConfig on)) _ _ := .init
  have hnew := hstart.next (.create 100 10000 [7] 16000000) id id
  have hgame := hnew.next (.manager (.updateHintMode "GAME" true)) id id
  rw [Op.constructedOn_manager] at hgame
  unfold gameStarted
  exact ⟨_, hcreate, hgame⟩

/-- With the heuristic boost on from the start, the report finds the records. -/
theorem session_records_present_game :
    Fault.sessionRecords ∉ (gameReport.prog.post (gameStarted true)).faults := by
  obtain ⟨on, hon, hhistory⟩ := gameStarted_history true
  have hkeeps : KeepsRecords (gameStarted true) on gameReport :=
    fun hmiss => absurd (hmiss.2.2.2.symm.trans hon) (by decide)
  exact (session_records_present gameEnv (heuristicConfig true)).1 _ _
    (hhistory.next gameReport hkeeps id)

/-- With the heuristic boost off when the session was constructed, the report does not. -/
theorem session_records_null :
    Runs (fun _ _ => True) (World.init gameEnv (heuristicConfig false)) (gameStarted false) ∧
      (gameStarted false).adpfConfig.mHeuristicBoostOn = some true ∧
      (gameStarted false).Stands 1 false true ∧
      ((gameStarted false).sessions 1).mSessionRecords.isNone = true ∧
      Fault.sessionRecords ∈ (gameReport.prog.post (gameStarted false)).faults := by
  refine ⟨?_, by decide +kernel, ⟨by decide +kernel, by decide +kernel⟩, by decide +kernel,
    by decide +kernel⟩
  unfold gameStarted
  exact (Runs.init.next _ trivial id).next _ trivial id

end Adpf
