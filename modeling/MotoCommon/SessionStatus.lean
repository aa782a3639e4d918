/-
**Refused operations, and the life of a session.**

Every operation on a session first asks whether it may go on, and answers with an error if it may
not; the questions all come before the first effect.  A session is open from its construction to
its first accepted `close`, which the destructor makes if no client did, and that `close` is what
removes the session from the manager.  The constructor never takes an id twice, so that a session
that is closed stays closed.

Main definitions:

* `Adpf.SessionOp.refusal` — the questions that an operation asks, and the status they lead to;
* `Adpf.World.Counts` — whether a session is closed, how often it was removed, and how many sessions
  were constructed;
* `Adpf.World.Lives`, `Adpf.World.RemovedOnce` — how these go together.

Main results:

* `Adpf.SessionOp.run_refused`, `Adpf.SessionOp.run_accepted` — an operation is refused with that
  status and nothing else happens, or it succeeds;
* `Adpf.Op.counts` — **one operation**: how the counts change;
* `Adpf.Runs.removedOnce` — **whole runs**: a session is removed once it is closed, and once only;
* `Adpf.session_inert_or_removed_once` — the three together.
-/

import MotoCommon.LockDiscipline
import MotoCommon.RunRules

set_option autoImplicit false

namespace Adpf

open Conc World Prog PowerHintSession

/-! ### Refusals -/

/-- The operations that can be refused.  The hint for power efficiency is left out: `sendHint` never
returns from it. -/
def SessionOp.Guarded : SessionOp → Prop
  | .destroy => False
  | .getSessionConfig => False
  | op => ¬ op.Reenters

/-- The status with which an operation is refused on an open session, if it is. -/
def SessionOp.rejection (self : PowerHintSession) : SessionOp → Option Status
  | .pause => if self.mDescriptor.is_active then none else some .illegalState
  | .resume => if self.mDescriptor.is_active then some .illegalState else none
  | .updateTargetWorkDuration d => if d ≤ 0 then some .illegalArgument else none
  | .reportActualWorkDuration ds =>
      if self.mDescriptor.targetNs = 0 then some .illegalState
      else
        match ds.getLast? with
        | none => some .illegalArgument
        | some _ => if self.mDescriptor.is_active then none else some .illegalState
  | .sendHint hint =>
      if self.mDescriptor.targetNs = 0 then some .illegalState
      else if knownHint hint then none else some .illegalArgument
  | .setMode (.unknown _) _ => some .illegalArgument
  | .setThreads tids => if tids.isEmpty then some .illegalArgument else none
  | _ => none

/-- The status with which an operation is refused, if it is. -/
def SessionOp.refusal (self : PowerHintSession) (op : SessionOp) : Option Status :=
  if self.mSessionClosed then some .illegalState else op.rejection self

theorem SessionOp.refusal_eq_none {self : PowerHintSession} {op : SessionOp} :
    op.refusal self = none ↔ self.mSessionClosed = false ∧ op.rejection self = none := by
  unfold SessionOp.refusal
  cases self.mSessionClosed <;> simp

variable {w : World} {s : ℤ} {op : SessionOp}

/-- A program that answers with the status it is refused with, if it is, and else succeeds. -/
def Follows (r : Option Status) (p : P Status) : Prop :=
  match r with
  | some status => p = Prog.ret status
  | none => p.Yields .ok

theorem Follows.ite {c : Prop} [Decidable c] {r r' : Option Status} {p p' : P Status}
    (h : Follows r p) (h' : Follows r' p') :
    Follows (if c then r else r') (if c then p else p') := by
  by_cases hc : c
  · rwa [if_pos hc, if_pos hc]
  · rwa [if_neg hc, if_neg hc]

/-- An operation that can be refused is a body that runs on an open session and asks the remaining
questions first. -/
theorem SessionOp.exists_whileOpen (s : ℤ) (hop : op.Guarded) :
    ∃ body : PowerHintSession → P Status, op.prog s = whileOpen s body ∧
      ∀ self, Follows (op.rejection self) (body self) := by
  cases op with
  | destroy => exact hop.elim
  | getSessionConfig => exact hop.elim
  | close =>
      refine ⟨_, rfl, fun self => ?_⟩
      exact Yields.bind fun _ => Yields.bind fun _ => Yields.bind fun _ => Yields.ret _
  | pause =>
      refine ⟨_, rfl, fun self => Follows.ite ?_ rfl⟩
      exact Yields.bind fun _ => Yields.bind fun _ => Yields.bind fun _ => Yields.ret _
  | resume =>
      refine ⟨_, rfl, fun self => Follows.ite rfl ?_⟩
      exact Yields.bind fun _ => Yields.bind fun _ => Yields.bind fun _ => Yields.ret _
  | updateTargetWorkDuration d =>
      refine ⟨_, rfl, fun self => Follows.ite rfl ?_⟩
      exact Yields.bind fun _ => Yields.bind fun _ => Yields.bind fun _ => Yields.ret _
  | reportActualWorkDuration ds =>
      refine ⟨_, rfl, fun self => Follows.ite rfl ?_⟩
      cases ds.getLast? with
      | none => rfl
      | some back =>
          refine Follows.ite ?_ rfl
          exact Yields.bind fun _ => Yields.bind fun _ => Yields.bind fun _ => Yields.ret _
  | sendHint hint =>
      refine ⟨_, rfl, fun self => Follows.ite rfl (Follows.ite ?_ rfl)⟩
      exact Yields.bind fun _ => Yields.bind fun _ => Yields.bind fun _ => Yields.ret _
  | setMode mode b =>
      refine ⟨_, rfl, fun self => ?_⟩
      cases mode with
      | unknown raw => rfl
      | POWER_EFFICIENCY =>
          exact Yields.bind fun _ => Yields.bind fun _ => Yields.bind fun _ => Yields.ret _
  | setThreads tids =>
      refine ⟨_, rfl, fun self => Follows.ite rfl ?_⟩
      exact Yields.bind fun _ => Yields.bind fun _ => Yields.bind fun _ =>
        Yields.bind fun _ => Yields.ret _

/-- **A refused operation** returns the status of its refusal, and nothing else happens. -/
theorem SessionOp.run_refused (hop : op.Guarded) {status : Status}
    (h : op.refusal (w.sessions s) = some status) : (op.prog s).run w = (status, w) := by
  obtain ⟨body, hprog, hbody⟩ := op.exists_whileOpen s hop
  rw [hprog]
  cases hclosed : (w.sessions s).mSessionClosed with
  | true =>
      rw [SessionOp.refusal, if_pos hclosed, Option.some.injEq] at h
      rw [whileOpen_run_closed hclosed, h]
  | false =>
      rw [SessionOp.refusal, if_neg (by simp [hclosed])] at h
      have hret := hbody (w.sessions s)
      rw [h] at hret
      rw [whileOpen_run_open hclosed, hret, run_ret]

/-- **An operation that is not refused** succeeds. -/
theorem SessionOp.run_accepted (hop : op.Guarded) (h : op.refusal (w.sessions s) = none) :
    ((op.prog s).run w).1 = .ok := by
  obtain ⟨body, hprog, hbody⟩ := op.exists_whileOpen s hop
  rw [hprog]
  cases hclosed : (w.sessions s).mSessionClosed with
  | true =>
      rw [SessionOp.refusal, if_pos hclosed] at h
      cases h
  | false =>
      rw [SessionOp.refusal, if_neg (by simp [hclosed])] at h
      have hok := hbody (w.sessions s)
      rw [h] at hok
      rw [whileOpen_run_open hclosed]
      exact hok w

theorem SessionOp.post_of_ne_ok (hop : op.Guarded) (h : ((op.prog s).run w).1 ≠ .ok) :
    (op.prog s).post w = w := by
  cases hrefusal : op.refusal (w.sessions s) with
  | none => exact absurd (op.run_accepted hop hrefusal) h
  | some status => rw [post, op.run_refused hop hrefusal]

theorem SessionOp.run_closed (hop : op.Guarded) (h : (w.sessions s).mSessionClosed = true) :
    (op.prog s).run w = (.illegalState, w) :=
  op.run_refused hop (if_pos h)

/-! ### How often a session is removed -/

/-- Whether session `s` is closed, how often it was removed from the manager, and how many sessions
were constructed. -/
structure World.Counts (s : ℤ) (closed : Bool) (n : ℕ) (k : ℤ) (w : World) : Prop where
  closed : (w.sessions s).mSessionClosed = closed
  removals : w.removals.count s = n
  counter : w.sSessionIDCounter = k

variable {w' : World} {closed : Bool} {n : ℕ} {k : ℤ}

namespace World.Counts

/-- The session object itself changes. -/
theorem modifySession_self (h : Counts s closed n k w) (f : PowerHintSession → PowerHintSession) :
    Counts s (f (w.sessions s)).mSessionClosed n k (w.modifySession s f) where
  closed := by rw [sessions_modifySession_self]
  removals := h.removals
  counter := h.counter

/-- An action that neither constructs a session nor is about the removal of this one leaves the
counts alone. -/
theorem action {A : Special → Prop} (h : Counts s closed n k w) (ha : Action A w w')
    (hnew : ¬ A .construct) (hrem : ¬ A (.removal s)) : Counts s closed n k w' := by
  have hkeeps := ha.keepsSession hnew s
  exact ⟨(hkeeps.closed hrem).trans h.closed, (hkeeps.removals hrem).trans h.removals,
    hkeeps.counter.trans h.counter⟩

theorem stable (s : ℤ) (closed : Bool) (n : ℕ) (k : ℤ) : Stable (Counts s closed n k) where
  quiet := fun hq h => h.action (A := Eq .hint) (.apart rfl (.hint hq)) (by decide) (by simp)
  events := fun _ _ _ h => ⟨h.closed, h.removals, h.counter⟩
  vote := fun _ _ d b w h => h.action (A := fun _ => False) (.vote _ d b w rfl) id id

/-- What only changes the standing of sessions leaves the counts alone. -/
theorem within_standing {α : Type} {p : P α}
    (hp : p.Within (Action fun kind => kind = .standing ∨ kind = .hint)) :
    Triple (Counts s closed n k) p fun _ => Counts s closed n k :=
  (hp.mono fun _ _ ha h => h.action ha (by decide) (by simp)).keeps

end World.Counts

/-- The constructor takes the next id, whose session is then open. -/
theorem create_counts (s : ℤ) (closed : Bool) (n : ℕ) (k tgid uid : ℤ) (tids : List ℤ) (d : ℤ) :
    Triple (Counts s closed n k) (create tgid uid tids d) fun _ =>
      Counts s (if s = k + 1 then false else closed) n (k + 1) := by
  have hstable := Counts.stable s (if s = k + 1 then false else closed) n (k + 1)
  refine create_triple (fun _ => hstable.toCalm) hstable tgid uid tids d (fun w h => ?_)
    fun sid self => ?_
  · refine ⟨?_, h.removals, ?_⟩
    · unfold newSession
      rw [h.counter]
      by_cases hs : s = k + 1
      · rw [if_pos hs, hs]
        dsimp only
        rw [Function.update_self]
      · rw [if_neg hs]
        dsimp only
        rw [Function.update_of_ne hs, h.closed]
    · unfold newSession
      rw [h.counter]
  · exact (Counts.within_standing (addPowerSession_within (.inl rfl) (.inr rfl) _ tids)).imp (fun _ h => h.1)
      fun _ _ h => h

theorem removePowerSession_counts (s : ℤ) (closed : Bool) (n : ℕ) (k : ℤ) :
    Triple (Counts s closed n k) (PowerSessionManager.removePowerSession s)
      fun _ => Counts s closed (n + 1) k := by
  refine removePowerSession_triple (Counts.stable s closed (n + 1) k).toCalm ?_ s
    (Counts.within_standing (forceSessionActive_within (.inl rfl) (.inr rfl) s false)) fun w h => ?_
  · exact fun profile tid w h => ⟨h.closed, h.removals, h.counter⟩
  · refine ⟨h.closed, ?_, h.counter⟩
    rw [← h.removals]
    exact List.count_cons_self

/-- An open session is closed, and removed once more. -/
theorem close_counts (s : ℤ) (closed : Bool) (n : ℕ) (k : ℤ) :
    Triple (Counts s closed n k) (PowerHintSession.close s) fun _ =>
      Counts s true (if closed then n else n + 1) k := by
  cases closed with
  | true =>
      refine whileOpen_triple s (fun w h _ => h) fun self hopen w h => ?_
      rw [← h.2, h.1.closed] at hopen
      cases hopen
  | false =>
      refine close_triple (J := Counts s true n k) s (fun w h hclosed => ?_)
        (fun w h => h.modifySession_self fun x => { x with mSessionClosed := true })
        (removePowerSession_counts s true n k) fun w h => ?_
      · exact absurd (h.closed.symm.trans hclosed) (by decide)
      · exact h.action (A := Eq .standing) (.apart rfl (.activate s false w)) (by decide) (by simp)

theorem destroy_counts (s : ℤ) (closed : Bool) (n : ℕ) (k : ℤ) :
    Triple (Counts s closed n k) (destroy s) fun _ =>
      Counts s true (if closed then n else n + 1) k :=
  destroy_triple s (close_counts s closed n k) fun w h =>
    (Counts.stable s true _ k).quiet (.modifySession w ⟨⟨rfl, rfl, rfl, rfl⟩, rfl⟩) h

/-- The operations about the removal of a session. -/
theorem Op.eq_removal {op : Op} {s : ℤ} (h : op.uses (.removal s)) :
    op = .session s .close ∨ op = .session s .destroy ∨ op = .manager (.removePowerSession s) := by
  cases op with
  | create tgid uid tids d => exact h.elim
  | session s' op =>
      cases op with
      | close =>
          rw [show s = s' from h]
          exact Or.inl rfl
      | destroy =>
          rw [show s = s' from h]
          exact Or.inr (Or.inl rfl)
      | sendHint hint => cases hint <;> exact h.elim
      | _ => exact h.elim
  | manager op =>
      cases op with
      | removePowerSession s' =>
          rw [show s = s' from h]
          exact Or.inr (Or.inr rfl)
      | _ => exact h.elim
  | dumpToStream s' => exact h.elim
  | worker i => exact h.elim

/-- **One operation.**  The counts stay as they are, or a session is constructed, or this session is
closed, or its removal is called for directly. -/
theorem Op.counts (op : Op) (h : Counts s closed n k w) :
    Counts s closed n k (op.prog.post w) ∨
    Counts s (if s = k + 1 then false else closed) n (k + 1) (op.prog.post w) ∨
    Counts s true (if closed then n else n + 1) k (op.prog.post w) ∨
    (op = .manager (.removePowerSession s) ∧ Counts s closed (n + 1) k (op.prog.post w)) := by
  by_cases hnew : op.uses .construct
  · obtain ⟨tgid, uid, tids, d, rfl⟩ := op.eq_create hnew
    rw [Op.post_create]
    exact Or.inr (Or.inl (create_counts s closed n k tgid uid tids d w h))
  by_cases hrem : op.uses (.removal s)
  · right
    right
    rcases op.eq_removal hrem with rfl | rfl | rfl
    · rw [Op.post_session]
      exact Or.inl (close_counts s closed n k w h)
    · rw [Op.post_session]
      exact Or.inl (destroy_counts s closed n k w h)
    · exact Or.inr ⟨rfl, removePowerSession_counts s closed n k w h⟩
  · exact Or.inl (op.keeps (fun _ _ ha hu => hu.action ha hnew hrem) w h)

/-! ### The life of a session -/

/-- Session `s` has been constructed. -/
def World.Constructed (s : ℤ) (w : World) : Prop := 0 < s ∧ s ≤ w.sSessionIDCounter

/-- Only a session that has been constructed is open. -/
structure World.Lives (s : ℤ) (w : World) : Prop where
  counter : 0 ≤ w.sSessionIDCounter
  constructed : (w.sessions s).mSessionClosed = false → w.Constructed s

/-- A session is removed once it is closed, and not before. -/
structure World.RemovedOnce (s : ℤ) (w : World) : Prop extends Lives s w where
  absent : ¬ w.Constructed s → w.removals.count s = 0
  removed : w.Constructed s →
    w.removals.count s = if (w.sessions s).mSessionClosed then 1 else 0

theorem World.Counts.lives (h : Counts s closed n k w) :
    w.Lives s ↔ 0 ≤ k ∧ (closed = false → 0 < s ∧ s ≤ k) := by
  rw [← h.closed, ← h.counter]
  exact ⟨fun hl => ⟨hl.counter, hl.constructed⟩, fun hl => ⟨hl.1, hl.2⟩⟩

theorem World.Counts.removedOnce (h : Counts s closed n k w) :
    w.RemovedOnce s ↔ w.Lives s ∧ (¬ (0 < s ∧ s ≤ k) → n = 0) ∧
      (0 < s ∧ s ≤ k → n = if closed then 1 else 0) := by
  rw [← h.closed, ← h.removals, ← h.counter]
  exact ⟨fun hl => ⟨hl.toLives, hl.absent, hl.removed⟩, fun hl => ⟨hl.1, hl.2.1, hl.2.2⟩⟩

/-- Each state has its counts. -/
theorem World.counts_self (s : ℤ) (w : World) :
    Counts s (w.sessions s).mSessionClosed (w.removals.count s) w.sSessionIDCounter w :=
  ⟨rfl, rfl, rfl⟩

theorem Op.lives (op : Op) (h : w.Lives s) : (op.prog.post w).Lives s := by
  have hw := w.counts_self s
  rcases op.counts hw with hc | hc | hc | ⟨-, hc⟩
  · exact hc.lives.2 (hw.lives.1 h)
  · obtain ⟨hpos, hopen⟩ := hw.lives.1 h
    refine hc.lives.2 ⟨by omega, fun hfalse => ?_⟩
    by_cases hs : s = w.sSessionIDCounter + 1
    · omega
    · rw [if_neg hs] at hfalse
      have hold := hopen hfalse
      omega
  · exact hc.lives.2 ⟨(hw.lives.1 h).1, fun hfalse => nomatch hfalse⟩
  · exact hc.lives.2 (hw.lives.1 h)

/-- The removal of a session is called for by its `close` only: the manager's operation has no other
caller. -/
def ThroughClose (_ : World) (op : Op) : Prop := ∀ s, op ≠ .manager (.removePowerSession s)

theorem removals_after_close (h : n = if closed then 1 else 0) : (if closed then n else n + 1) = 1 := by
  cases closed with
  | true => exact h
  | false => exact congrArg (· + 1) h

theorem Op.removedOnce (op : Op) (hop : ThroughClose w op) (h : w.RemovedOnce s) :
    (op.prog.post w).RemovedOnce s := by
  have hlives := op.lives h.toLives
  have hw := w.counts_self s
  obtain ⟨-, habsent, hremoved⟩ := hw.removedOnce.1 h
  rcases op.counts hw with hc | hc | hc | ⟨heq, -⟩
  · exact hc.removedOnce.2 ⟨hlives, habsent, hremoved⟩
  · refine hc.removedOnce.2 ⟨hlives, fun hnot => habsent (by omega), fun hyes => ?_⟩
    by_cases hs : s = w.sSessionIDCounter + 1
    · -- the session that is constructed has not been removed before
      rw [if_pos hs]
      exact habsent (by omega)
    · rw [if_neg hs]
      exact hremoved (by omega)
  · refine hc.removedOnce.2 ⟨hlives, fun hnot => ?_, fun hyes => ?_⟩
    · cases hclosed : (w.sessions s).mSessionClosed with
      | true => exact habsent hnot
      | false => exact absurd (h.constructed hclosed) hnot
    · exact removals_after_close (hremoved hyes)
  · exact absurd heq (hop s)

theorem World.Lives.init (env : Env) (c : AdpfConfig) (s : ℤ) : (World.init env c).Lives s :=
  ⟨le_rfl, fun h => nomatch h⟩

theorem Runs.lives {ok : World → Op → Prop} {env : Env} {c : AdpfConfig}
    (h : Runs ok (World.init env c) w) (s : ℤ) : w.Lives s := by
  induction h with
  | init => exact .init env c s
  | step op _ _ _ ih => exact op.lives ih

/-- **Whole runs.**  A session is removed once it is closed, and not before. -/
theorem Runs.removedOnce {env : Env} {c : AdpfConfig} (h : Runs ThroughClose (World.init env c) w)
    (s : ℤ) : w.RemovedOnce s := by
  induction h with
  | init =>
      refine ⟨.init env c s, fun _ => rfl, fun hs => ?_⟩
      exact absurd (hs.1.trans_le hs.2) (lt_irrefl 0)
  | step op _ hok _ ih => exact op.removedOnce hok ih

/-- A session that is closed stays closed: no other is constructed with its id. -/
theorem Runs.stays_closed {ok : World → Op → Prop} (h : Runs ok w w')
    (hs : s ≤ w.sSessionIDCounter) (hclosed : (w.sessions s).mSessionClosed = true) :
    s ≤ w'.sSessionIDCounter ∧ (w'.sessions s).mSessionClosed = true := by
  induction h with
  | init => exact ⟨hs, hclosed⟩
  | @step u op _ _ _ ih =>
      have hu := u.counts_self s
      rw [ih.2] at hu
      rcases op.counts hu with hc | hc | hc | ⟨-, hc⟩
      · exact ⟨by rw [hc.counter]; exact ih.1, hc.closed⟩
      · refine ⟨by rw [hc.counter]; omega, ?_⟩
        rw [hc.closed, if_neg (by omega)]
      · exact ⟨by rw [hc.counter]; exact ih.1, hc.closed⟩
      · exact ⟨by rw [hc.counter]; exact ih.1, hc.closed⟩

/-- Only an open session is closed with success, and then it is closed. -/
theorem close_ok (hlives : w.Lives s) (hok : ((PowerHintSession.close s).run w).1 = .ok) :
    s ≤ ((PowerHintSession.close s).post w).sSessionIDCounter ∧
      (((PowerHintSession.close s).post w).sessions s).mSessionClosed = true := by
  have hopen : (w.sessions s).mSessionClosed = false := by
    cases hclosed : (w.sessions s).mSessionClosed with
    | false => rfl
    | true =>
        rw [PowerHintSession.close, whileOpen_run_closed hclosed] at hok
        cases hok
  have hc : Counts s true _ _ ((PowerHintSession.close s).post w) :=
    close_counts s _ _ _ w (w.counts_self s)
  exact ⟨by rw [hc.counter]; exact (hlives.constructed hopen).2, hc.closed⟩

/-- **Refused operations change nothing, and a closed session is inert.**  An operation whose status
is not `ok` leaves the whole state as it was, in every state.  After a successful `close` in a state
that operations lead to, whatever operations follow, each operation on the session returns, with
`EX_ILLEGAL_STATE`.  And in every state that operations lead to, a session has been removed once if
it is closed and never if it is open, and after its destructor it has been removed once. -/
theorem session_inert_or_removed_once (env : Env) (c : AdpfConfig) (s : ℤ) :
    (∀ w (op : SessionOp), op.Guarded → ((op.prog s).run w).1 ≠ .ok → (op.prog s).post w = w) ∧
    (∀ w w', Runs (fun _ _ => True) (World.init env c) w →
      ((PowerHintSession.close s).run w).1 = .ok →
      Runs (fun _ _ => True) ((PowerHintSession.close s).post w) w' →
      ∀ op : SessionOp, op.Guarded →
        (op.prog s).returns [] w' = true ∧ ((op.prog s).run w').1 = .illegalState) ∧
    (∀ w, Runs ThroughClose (World.init env c) w → w.Constructed s →
      w.removals.count s = (if (w.sessions s).mSessionClosed then 1 else 0) ∧
      ((destroy s).post w).removals.count s = 1) := by
  refine ⟨fun w op hop hne => op.post_of_ne_ok hop hne, fun w w' h hok h' op hop => ?_,
    fun w h hs => ⟨(h.removedOnce s).removed hs, ?_⟩⟩
  · obtain ⟨hle, hclosed⟩ := close_ok (h.lives s) hok
    have hreenters : ¬ op.Reenters := by
      cases op <;> first | exact hop | exact hop.elim
    refine ⟨(op.keeping s hreenters).returns w', ?_⟩
    rw [op.run_closed hop (h'.stays_closed hle hclosed).2]
  · have hc : Counts s true _ _ ((destroy s).post w) := destroy_counts s _ _ _ w (w.counts_self s)
    rw [hc.removals]
    exact removals_after_close ((h.removedOnce s).removed hs)

/-- A session that was constructed and is active. -/
@[irreducible] def activeSession : World :=
  (Op.create 100 10000 [7] 16000000).prog.post (World.init {} makeMockConfig)

theorem activeSession_runs (ok : World → Op → Prop)
    (h : ok (World.init {} makeMockConfig) (.create 100 10000 [7] 16000000)) :
    Runs ok (World.init {} makeMockConfig) activeSession := by
  unfold activeSession
  exact Runs.init.next _ h id

/-- An active session is not resumed, does nothing more once it is closed, and has been removed once
when it is gone. -/
theorem session_inert_or_removed_once_active :
    (resume 1).post activeSession = activeSession ∧
    ((pause 1).run ((PowerHintSession.close 1).post activeSession)).1 = .illegalState ∧
    ((destroy 1).post activeSession).removals.count 1 = 1 := by
  obtain ⟨hrefused, hclosed, hremoved⟩ := session_inert_or_removed_once {} makeMockConfig 1
  refine ⟨?_, ?_, ?_⟩
  · exact hrefused activeSession .resume id (by decide +kernel)
  · exact (hclosed _ _ (activeSession_runs _ trivial) (by decide +kernel) Runs.init .pause id).2
  · exact (hremoved _ (activeSession_runs _ fun _ => nofun) ⟨by decide, by decide +kernel⟩).2

end Adpf
