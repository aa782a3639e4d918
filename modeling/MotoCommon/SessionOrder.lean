/-
**The order of a thread's sessions.**

`getTaskVoteRange` goes through the sessions of a thread in the order of its list, and `replace` moves
a session to the end of the lists it is in.  The cap for a session that prefers power efficiency is
computed from the minimum that the sessions before it have asked for, so that the order may matter.
This module proves exactly when it does: each session is a demand in the sense of `Capped.Demand`, and
a relative one if its cap is computed that way.

Main definitions:

* `Adpf.SessionTaskMap.sessionDemand` — what a session asks for at a time;
* `Adpf.SessionTaskMap.CapsSettled` — the condition, for one thread at one time.

Main results:

* `Adpf.SessionTaskMap.getTaskVoteRange_eq_run` — **the range of a thread is a run of its demands**;
* `Adpf.SessionTaskMap.getTaskVoteRange_order_iff` — the range does not depend on the order exactly
  under the condition, and then a replacement by the same threads does not change it.
-/

import Mathlib.Algebra.Order.Monoid.Unbundled.Basic
import MotoCommon.CappedRange
import MotoCommon.SessionDemands

set_option autoImplicit false

namespace Adpf

/-! ### Ranges as pairs -/

/-- The two ends of a range. -/
def UclampRange.ends (r : UclampRange) : ℤ × ℤ := (r.uclampMin, r.uclampMax)

theorem UclampRange.ends_injective : Function.Injective UclampRange.ends := by
  intro r r' h
  exact UclampRange.ext (congrArg Prod.fst h) (congrArg Prod.snd h)

/-- A range within the default one. -/
def UclampRange.Within (r : UclampRange) : Prop := kUclampMin ≤ r.uclampMin ∧ r.uclampMax ≤ kUclampMax

/-- The votes narrow any range by the range that they leave of the default one. -/
theorem Votes.ends_getUclampRange (vs : Votes) {r : UclampRange} (h : r.Within) (t : ℤ) :
    (vs.getUclampRange r t).ends =
      (max r.uclampMin (vs.getUclampRange {} t).uclampMin,
        min r.uclampMax (vs.getUclampRange {} t).uclampMax) := by
  refine Prod.ext (eq_of_forall_le_iff fun x => ?_) (eq_of_forall_ge_iff fun x => ?_)
  · show x ≤ (vs.getUclampRange r t).uclampMin ↔ _
    rw [le_max_iff, vs.le_getUclampRange_min, vs.le_getUclampRange_min]
    have hdefault : x ≤ ({} : UclampRange).uclampMin → x ≤ r.uclampMin := fun hx => hx.trans h.1
    tauto
  · show (vs.getUclampRange r t).uclampMax ≤ x ↔ _
    rw [min_le_iff, vs.getUclampRange_max_le, vs.getUclampRange_max_le]
    have hdefault : ({} : UclampRange).uclampMax ≤ x → r.uclampMax ≤ x := fun hx => h.2.trans hx
    tauto

namespace SessionTaskMap

variable {m : SessionTaskMap}

/-! ### Sessions as demands -/

/-- The two parameters of `getTaskVoteRange` about power efficiency, which are both set or both
unset. -/
abbrev Efficiency : Type := Option (ℤ × ℤ)

/-- The cap of a session that prefers power efficiency and has a vote in range. -/
def efficientCap (eff : Efficiency) (uclampMin : ℤ) : ℤ :=
  toInt32 (uclampMin + (eff.map Prod.snd).getD 0)

/-- What a session asks for: the range that its CPU votes leave, and a fixed or a relative cap if it
prefers power efficiency. -/
def sessionDemand (m : SessionTaskMap) (t : ℤ) (eff : Efficiency) (p : ℕ) : Capped.Demand ℤ :=
  let range := (m.votesOf p).getUclampRange {} t
  if (m.vals.read p).isActive then
    match (m.vals.read p).isPowerEfficient, eff with
    | true, some (base, _) =>
        if (m.votesOf p).allTimedOut t then ⟨range.uclampMin, min range.uclampMax base, false⟩
        else ⟨range.uclampMin, range.uclampMax, true⟩
    | _, _ => ⟨range.uclampMin, range.uclampMax, false⟩
  else ⟨kUclampMin, kUclampMax, false⟩

/-- One round of the loop narrows the range by the session's demand. -/
theorem ends_confineBySession (m : SessionTaskMap) (t : ℤ) (eff : Efficiency) {r : UclampRange}
    (h : r.Within) (p : ℕ) :
    (m.confineBySession t (eff.map Prod.fst) (eff.map Prod.snd) r p).ends =
      Capped.narrow (efficientCap eff) (m.sessionDemand t eff) r.ends p := by
  have hvotes := (m.votesOf p).ends_getUclampRange h t
  have hmin := congrArg Prod.fst hvotes
  have hmax := congrArg Prod.snd hvotes
  simp only [UclampRange.ends] at hmin hmax
  cases hact : (m.vals.read p).isActive with
  | false =>
      have hdemand : m.sessionDemand t eff p = ⟨kUclampMin, kUclampMax, false⟩ := by
        simp [sessionDemand, hact]
      rw [confineBySession_inactive hact, Capped.narrow, hdemand]
      exact Prod.ext (max_eq_left h.1).symm (min_eq_left h.2).symm
  | true =>
      cases heff : (m.vals.read p).isPowerEfficient with
      | false =>
          rw [confineBySession_plain heff, hact]
          simpa [UclampRange.ends, Capped.narrow, sessionDemand, hact, heff] using hvotes
      | true =>
          cases eff with
          | none =>
              simpa [UclampRange.ends, Capped.narrow, sessionDemand, confineBySession, hact, heff]
                using hvotes
          | some bo =>
              obtain ⟨base, off⟩ := bo
              cases hall : (m.votesOf p).allTimedOut t with
              | true =>
                  simp [UclampRange.ends, Capped.narrow, sessionDemand, confineBySession, hact, heff,
                    hall, hmin, hmax, min_assoc]
              | false =>
                  simp [UclampRange.ends, Capped.narrow, sessionDemand, confineBySession, hact, heff,
                    hall, hmin, hmax, efficientCap]

theorem within_confineBySession (m : SessionTaskMap) (t : ℤ) (eff : Efficiency) {r : UclampRange}
    (h : r.Within) (p : ℕ) :
    (m.confineBySession t (eff.map Prod.fst) (eff.map Prod.snd) r p).Within := by
  have hends := m.ends_confineBySession t eff h p
  have hmin := congrArg Prod.fst hends
  have hmax := congrArg Prod.snd hends
  simp only [UclampRange.ends, Capped.narrow] at hmin hmax
  refine ⟨?_, ?_⟩
  · rw [hmin]
    exact h.1.trans (le_max_left _ _)
  · rw [hmax]
    split
    · exact (min_le_left _ _).trans ((min_le_left _ _).trans h.2)
    · exact (min_le_left _ _).trans h.2

/-- **The range of a thread is a run of its sessions' demands.** -/
theorem getTaskVoteRange_eq_run (m : SessionTaskMap) (tid t : ℤ) (eff : Efficiency) :
    (m.getTaskVoteRange tid t {} (eff.map Prod.fst) (eff.map Prod.snd)).ends =
      Capped.run (efficientCap eff) (m.sessionDemand t eff) (kUclampMin, kUclampMax)
        (sessionsOf m.mTasks tid) := by
  have hfold : ∀ (ps : List ℕ) (r : UclampRange), r.Within →
      (ps.foldl (m.confineBySession t (eff.map Prod.fst) (eff.map Prod.snd)) r).ends =
        Capped.run (efficientCap eff) (m.sessionDemand t eff) r.ends ps := by
    intro ps
    induction ps with
    | nil => exact fun r _ => rfl
    | cons p ps ih =>
        intro r hr
        rw [List.foldl_cons, ih _ (m.within_confineBySession t eff hr p),
          m.ends_confineBySession t eff hr p]
        rfl
  rw [getTaskVoteRange_default]
  exact hfold _ _ ⟨le_rfl, le_rfl⟩

/-! ### Orders of the list -/

/-- The map with another list for a thread. -/
def withOrder (m : SessionTaskMap) (tid : ℤ) (ps : List ℕ) : SessionTaskMap :=
  { m with mTasks := m.mTasks.insert tid ps }

/-- No active session of the thread that prefers power efficiency and has a vote in range may lead to a
lower maximum than the thread's own minimum does: not from its own minimum, and not from that of another
session which is greater.  And unless the cap at the thread's minimum is not below the other maxima, such a
session votes for this minimum itself. -/
def CapsSettled (m : SessionTaskMap) (tid t : ℤ) (eff : Efficiency) : Prop :=
  Capped.Settled (efficientCap eff) (m.sessionDemand t eff) (kUclampMin, kUclampMax)
    (sessionsOf m.mTasks tid)

instance (m : SessionTaskMap) (tid t : ℤ) (eff : Efficiency) : Decidable (m.CapsSettled tid t eff) :=
  inferInstanceAs (Decidable (Capped.Settled _ _ _ _))

/-- The minima that the sessions of the thread vote for are `int`s. -/
def MinimaFit (m : SessionTaskMap) (tid : ℤ) : Prop :=
  ∀ p ∈ sessionsOf m.mTasks tid, ∀ e ∈ (m.votesOf p).mCpuVotes.entries,
    e.2.mUclampRange.uclampMin < 2 ^ 31

instance (m : SessionTaskMap) (tid : ℤ) : Decidable (m.MinimaFit tid) :=
  inferInstanceAs (Decidable (∀ p ∈ sessionsOf m.mTasks tid,
    ∀ e ∈ (m.votesOf p).mCpuVotes.entries, e.2.mUclampRange.uclampMin < 2 ^ 31))

/-- Different minima have different caps, although the sum may overflow. -/
theorem efficientCap_inj {eff : Efficiency} {x y : ℤ} (hx : 0 ≤ x) (hx' : x < 2 ^ 31) (hy : 0 ≤ y)
    (hy' : y < 2 ^ 31) (h : efficientCap eff x = efficientCap eff y) : x = y := by
  unfold efficientCap toInt32 at h
  rw [Int.bmod_def, Int.bmod_def] at h
  omega

/-- A session asks for a minimum that is an `int`. -/
theorem MinimaFit.sessionDemand_lo {tid : ℤ} (h : m.MinimaFit tid) (t : ℤ) (eff : Efficiency) {p : ℕ}
    (hp : p ∈ sessionsOf m.mTasks tid) : (m.sessionDemand t eff p).lo < 2 ^ 31 := by
  have hrange : ((m.votesOf p).getUclampRange {} t).uclampMin < 2 ^ 31 := by
    by_contra hlarge
    rcases ((m.votesOf p).le_getUclampRange_min {} t _).1 (not_lt.1 hlarge) with
      hzero | ⟨id, v, hl, -, hle⟩
    · exact absurd hzero (by decide)
    · exact absurd (h p hp ⟨id, v⟩ ((UMap.mem_entries_iff _ _ _).2 hl)) (not_lt.2 hle)
  unfold sessionDemand
  dsimp only
  split
  · split
    · split <;> exact hrange
    · exact hrange
  · decide

theorem efficientCap_settles {tid : ℤ} (h : m.MinimaFit tid) (t : ℤ) (eff : Efficiency) :
    ∀ p ∈ sessionsOf m.mTasks tid,
      efficientCap eff (max kUclampMin (m.sessionDemand t eff p).lo) =
          efficientCap eff (Capped.floor (m.sessionDemand t eff) kUclampMin (sessionsOf m.mTasks tid)) →
        max kUclampMin (m.sessionDemand t eff p).lo =
          Capped.floor (m.sessionDemand t eff) kUclampMin (sessionsOf m.mTasks tid) := by
  intro p hp hcap
  obtain ⟨q, hq, hfloor⟩ := Capped.exists_floor_eq (d := m.sessionDemand t eff) kUclampMin
    (List.ne_nil_of_mem hp)
  rw [hfloor] at hcap ⊢
  have hlo := h.sessionDemand_lo t eff hp
  have hlo' := h.sessionDemand_lo t eff hq
  exact efficientCap_inj (le_max_left _ _) (max_lt (by decide) hlo) (le_max_left _ _)
    (max_lt (by decide) hlo') hcap

theorem ends_getTaskVoteRange_withOrder (m : SessionTaskMap) (tid t : ℤ) (eff : Efficiency)
    (ps : List ℕ) :
    ((m.withOrder tid ps).getTaskVoteRange tid t {} (eff.map Prod.fst) (eff.map Prod.snd)).ends =
      Capped.run (efficientCap eff) (m.sessionDemand t eff) (kUclampMin, kUclampMax) ps := by
  rw [getTaskVoteRange_eq_run]
  unfold withOrder sessionsOf
  rw [AList.lookup_insert]
  rfl

/-- The demands of a thread's sessions after a replacement by the same threads: the demands of the
sessions before, in another order. -/
theorem demands_replace_self (hm : Wf m) {s : ℤ} {e : ValEntry} (he : m.mSessions.lookup s = some e)
    (tid t : ℤ) (eff : Efficiency) :
    ∃ ps : List ℕ, ps.Perm (sessionsOf m.mTasks tid) ∧
      (sessionsOf (m.replace s e.linkedTasks [] []).map.mTasks tid).map
        ((m.replace s e.linkedTasks [] []).map.sessionDemand t eff) =
          ps.map (m.sessionDemand t eff) := by
  obtain ⟨hnew, hold⟩ := hm.read_replace he e.linkedTasks [] []
  obtain ⟨hnew', hold'⟩ := hm.votesOf_replace he e.linkedTasks [] []
  refine ⟨(sessionsOf m.mTasks tid).filter (fun q => decide (q ≠ e.val)) ++
    List.replicate (e.linkedTasks.count tid) e.val, ?_, ?_⟩
  · rw [← hm.links he tid]
    have hsplit := List.filter_append_perm (fun q => decide (q ≠ e.val)) (sessionsOf m.mTasks tid)
    have hsame : ((sessionsOf m.mTasks tid).filter fun q => !decide (q ≠ e.val)) =
        List.replicate ((sessionsOf m.mTasks tid).count e.val) e.val := by
      rw [← List.filter_eq]
      exact List.filter_congr fun q _ => by simp
    rwa [hsame] at hsplit
  · rw [hm.sessionsOf_replace he, List.map_append, List.map_append, List.map_replicate,
      List.map_replicate]
    congr 1
    · refine List.map_congr_left fun q hq => ?_
      have hlt := hm.lt_size (List.mem_of_mem_filter hq)
      unfold sessionDemand
      rw [hold q hlt, hold' q hlt]
    · unfold sessionDemand
      rw [hnew, hnew']

theorem CapsSettled.replace (hm : Wf m) {tid t : ℤ} {eff : Efficiency} (h : m.CapsSettled tid t eff)
    (s : ℤ) :
    (m.replace s (m.getTaskIds s) [] []).map.getTaskVoteRange tid t {} (eff.map Prod.fst)
        (eff.map Prod.snd) =
      m.getTaskVoteRange tid t {} (eff.map Prod.fst) (eff.map Prod.snd) := by
  cases he : m.mSessions.lookup s with
  | none => rw [Wf.replace_absent (findSession_eq_none.2 he)]
  | some e =>
      have htasks : m.getTaskIds s = e.linkedTasks := by simp [getTaskIds, he]
      obtain ⟨ps, hperm, hdemands⟩ := demands_replace_self hm he tid t eff
      rw [htasks]
      refine UclampRange.ends_injective ?_
      rw [getTaskVoteRange_eq_run, getTaskVoteRange_eq_run, Capped.run_congr _ hdemands]
      exact h.run_perm hperm

/-- **A thread's clamp and the order of its sessions.**  The range of a thread is the same for every
order of its list exactly when the caps of its sessions are settled, the sums in 32 bits; and then a
replacement of any session by the threads it has does not change it. -/
theorem getTaskVoteRange_order_iff (m : SessionTaskMap) (tid t : ℤ) (eff : Efficiency)
    (hfit : m.MinimaFit tid) :
    ((∀ ps : List ℕ, ps.Perm (sessionsOf m.mTasks tid) →
        (m.withOrder tid ps).getTaskVoteRange tid t {} (eff.map Prod.fst) (eff.map Prod.snd) =
          m.getTaskVoteRange tid t {} (eff.map Prod.fst) (eff.map Prod.snd)) ↔
      m.CapsSettled tid t eff) ∧
    (Wf m → m.CapsSettled tid t eff → ∀ s,
      (m.replace s (m.getTaskIds s) [] []).map.getTaskVoteRange tid t {} (eff.map Prod.fst)
          (eff.map Prod.snd) =
        m.getTaskVoteRange tid t {} (eff.map Prod.fst) (eff.map Prod.snd)) := by
  refine ⟨?_, fun hm h s => h.replace hm s⟩
  unfold CapsSettled
  rw [← Capped.run_perm_iff (efficientCap_settles hfit t eff)]
  refine forall_congr' fun ps => imp_congr Iff.rfl ?_
  rw [← UclampRange.ends_injective.eq_iff, ends_getTaskVoteRange_withOrder, getTaskVoteRange_eq_run]

/-- A CPU vote for a minimum, from time zero for a second. -/
def votesForMin (uclampMin : ℤ) : Votes :=
  Votes.empty.addCpu 1
    { mDurationNs := 1000000000, mUclampRange := { uclampMin := uclampMin } }

/-- Two sessions of thread `7`: one prefers power efficiency and votes for a minimum of a hundred,
the other votes for `uclampMin`. -/
def sharedThread (uclampMin : ℤ) : SessionTaskMap :=
  (({} : SessionTaskMap).addNew 1 { isPowerEfficient := true } (votesForMin 100) [7]).addNew 2 {}
    (votesForMin uclampMin) [7]

/-- Both vote alike: the first session can be moved behind the second. -/
theorem getTaskVoteRange_order_iff_alike :
    ((sharedThread 100).replace 1 [7] [] []).map.getTaskVoteRange 7 10 {} (some 400) (some 200) =
      (sharedThread 100).getTaskVoteRange 7 10 {} (some 400) (some 200) :=
  (getTaskVoteRange_order_iff (sharedThread 100) 7 10 (some (400, 200)) (by decide +kernel)).2
    ((Wf.empty.addNew _ _ _ _).addNew _ _ _ _) (by decide +kernel) 1

/-- The second session votes for more: the thread's maximum changes when the first session is given
the thread that it has. -/
theorem getTaskVoteRange_replace_moves :
    (sharedThread 300).getTaskIds 1 = [7] ∧
      (sharedThread 300).getTaskVoteRange 7 10 {} (some 400) (some 200) = ⟨300, 300⟩ ∧
      ((sharedThread 300).replace 1 [7] [] []).map.getTaskVoteRange 7 10 {} (some 400) (some 200) =
        ⟨300, 500⟩ := by
  decide +kernel

end SessionTaskMap

end Adpf
