/-
**The clamp that takes effect on a thread.**

`getTaskVoteRange` goes through the sessions of a thread and, within each, through an unordered map of
votes.  As long as no session caps the range on its own account, the outcome has a closed form: the
minimum is the greatest one among the votes in force, and the maximum the least one, in whatever order
they are visited.  `set_uclamp` then makes a proper clamp of any two numbers.

Main definitions:

* `Adpf.SessionTaskMap.Uncapped` — a session whose preference for power efficiency has no effect;
* `Adpf.SessionTaskMap.InForce` — the CPU votes that count for a thread at a time.

Main results:

* `Adpf.SessionTaskMap.isGreatest_uclampMin`, `Adpf.SessionTaskMap.isLeast_uclampMax` — the two ends of
  a thread's range;
* `Adpf.effective_clamp` — **the closed form of a thread's range and of the clamp that is set**.
-/

import Mathlib.Order.Bounds.Basic
import MotoCommon.PowerSessionManager
import MotoCommon.SessionDemands

set_option autoImplicit false

namespace Adpf

/-! ### Bounds of sets -/

section Bounds

variable {α : Type} [PartialOrder α] {S : Set α} {a : α}

theorem isGreatest_of_le_iff (h : ∀ x, x ≤ a ↔ ∃ y ∈ S, x ≤ y) : IsGreatest S a := by
  obtain ⟨y, hy, hay⟩ := (h a).1 le_rfl
  have hupper : a ∈ upperBounds S := fun z hz => (h z).2 ⟨z, hz, le_rfl⟩
  obtain rfl : a = y := le_antisymm hay (hupper hy)
  exact ⟨hy, hupper⟩

theorem isLeast_of_le_iff (h : ∀ x, a ≤ x ↔ ∃ y ∈ S, y ≤ x) : IsLeast S a := by
  obtain ⟨y, hy, hya⟩ := (h a).1 le_rfl
  have hlower : a ∈ lowerBounds S := fun z hz => (h z).2 ⟨z, hz, le_rfl⟩
  obtain rfl : a = y := le_antisymm (hlower hy) hya
  exact ⟨hy, hlower⟩

end Bounds

namespace SessionTaskMap

variable {m m' : SessionTaskMap} {base off : Option ℤ}

/-! ### Votes in force -/

/-- The session at `p` does not cap the range: it is not active, does not prefer power efficiency, or
the parameter for that is unset. -/
def Uncapped (m : SessionTaskMap) (base : Option ℤ) (p : ℕ) : Prop :=
  (m.vals.read p).isActive = true → (m.vals.read p).isPowerEfficient = true → base = none

/-- A CPU vote of an active session of the thread that is active itself, at a time that is neither
before its start nor after its end. -/
def InForce (m : SessionTaskMap) (tid t : ℤ) (v : CpuVote) : Prop :=
  ∃ p ∈ sessionsOf m.mTasks tid, (m.vals.read p).isActive = true ∧
    ∃ id, (m.votesOf p).mCpuVotes.lookup id = some v ∧
      v.mActive = true ∧ v.mStartTime ≤ t ∧ t ≤ addNanos v.mStartTime v.mDurationNs

/-- Votes in force, in the terms of the loops. -/
theorem exists_inForce_iff (tid t : ℤ) (P : CpuVote → Prop) :
    (∃ v, m.InForce tid t v ∧ P v) ↔
      ∃ p ∈ sessionsOf m.mTasks tid, (m.vals.read p).isActive = true ∧ ∃ id v,
        (m.votesOf p).mCpuVotes.lookup id = some v ∧ v.isTimeInRange t = true ∧ P v := by
  constructor
  · rintro ⟨v, ⟨p, hp, hact, id, hl, hin⟩, hv⟩
    exact ⟨p, hp, hact, id, v, hl, (VoteRange.isTimeInRange_iff _ _).2 hin, hv⟩
  · rintro ⟨p, hp, hact, id, v, hl, hin, hv⟩
    exact ⟨v, ⟨p, hp, hact, id, hl, (VoteRange.isTimeInRange_iff _ _).1 hin⟩, hv⟩

/-! ### The two ends of the range -/

theorem confineBySession_uncapped {p : ℕ} (h : m.Uncapped base p) (t : ℤ) (r : UclampRange) :
    m.confineBySession t base off r p =
      if (m.vals.read p).isActive then (m.votesOf p).getUclampRange r t else r := by
  cases heff : (m.vals.read p).isPowerEfficient with
  | false => exact confineBySession_plain heff t base off r
  | true =>
      cases hact : (m.vals.read p).isActive with
      | false => exact confineBySession_inactive hact t base off r
      | true =>
          rw [h hact heff]
          simp only [confineBySession, hact, heff, if_true]

/-- The whole loop, for the maximum. -/
theorem foldl_confineBySession_max_le (ps : List ℕ) (h : ∀ p ∈ ps, m.Uncapped base p) (t : ℤ)
    (r : UclampRange) (x : ℤ) :
    (ps.foldl (m.confineBySession t base off) r).uclampMax ≤ x ↔ r.uclampMax ≤ x ∨
      ∃ p ∈ ps, (m.vals.read p).isActive = true ∧ ∃ id v,
        (m.votesOf p).mCpuVotes.lookup id = some v ∧ v.isTimeInRange t = true ∧
        v.mUclampRange.uclampMax ≤ x := by
  induction ps generalizing r with
  | nil => simp
  | cons p ps ih =>
      have hrest : ∀ q ∈ ps, m.Uncapped base q := fun q hq => h q (List.mem_cons_of_mem p hq)
      -- the range narrows session by session, so the bound moves into the start value
      rw [List.foldl_cons, ih hrest, confineBySession_uncapped (h p List.mem_cons_self)]
      simp only [List.mem_cons, exists_eq_or_imp]
      cases (m.vals.read p).isActive with
      | false => simp
      | true =>
          rw [if_pos rfl, Votes.getUclampRange_max_le, or_assoc]
          simp

/-- The minimum of a thread's range is the greatest one of the votes in force, and at least zero. -/
theorem isGreatest_uclampMin (m : SessionTaskMap) (tid t : ℤ) (base off : Option ℤ) :
    IsGreatest {x | x = 0 ∨ ∃ v, m.InForce tid t v ∧ v.mUclampRange.uclampMin = x}
      (m.getTaskVoteRange tid t {} base off).uclampMin := by
  refine isGreatest_of_le_iff fun x => ?_
  rw [getTaskVoteRange_default, le_foldl_confineBySession_min, ← exists_inForce_iff]
  constructor
  · rintro (hx | ⟨v, hv, hx⟩)
    · exact ⟨0, Or.inl rfl, hx⟩
    · exact ⟨_, Or.inr ⟨v, hv, rfl⟩, hx⟩
  · rintro ⟨y, rfl | ⟨v, hv, rfl⟩, hx⟩
    · exact Or.inl hx
    · exact Or.inr ⟨v, hv, hx⟩

/-- The maximum of a thread's range is the least one of the votes in force, and at most 1024. -/
theorem isLeast_uclampMax (tid t : ℤ) (off : Option ℤ)
    (h : ∀ p ∈ sessionsOf m.mTasks tid, m.Uncapped base p) :
    IsLeast {x | x = 1024 ∨ ∃ v, m.InForce tid t v ∧ v.mUclampRange.uclampMax = x}
      (m.getTaskVoteRange tid t {} base off).uclampMax := by
  refine isLeast_of_le_iff fun x => ?_
  rw [getTaskVoteRange_default, foldl_confineBySession_max_le _ h, ← exists_inForce_iff]
  constructor
  · rintro (hx | ⟨v, hv, hx⟩)
    · exact ⟨1024, Or.inl rfl, hx⟩
    · exact ⟨_, Or.inr ⟨v, hv, rfl⟩, hx⟩
  · rintro ⟨y, rfl | ⟨v, hv, rfl⟩, hx⟩
    · exact Or.inl hx
    · exact Or.inr ⟨v, hv, hx⟩

/-- Two maps with the same votes in force for a thread give it the same range. -/
theorem getTaskVoteRange_eq_of_inForce {tid t : ℤ} {off : Option ℤ}
    (h : ∀ p ∈ sessionsOf m.mTasks tid, m.Uncapped base p)
    (h' : ∀ p ∈ sessionsOf m'.mTasks tid, m'.Uncapped base p)
    (hv : ∀ v, m'.InForce tid t v ↔ m.InForce tid t v) :
    m'.getTaskVoteRange tid t {} base off = m.getTaskVoteRange tid t {} base off := by
  have hmin := m'.isGreatest_uclampMin tid t base off
  have hmax := isLeast_uclampMax tid t off h'
  simp only [hv] at hmin hmax
  exact UclampRange.ext (hmin.unique (m.isGreatest_uclampMin tid t base off))
    (hmax.unique (isLeast_uclampMax tid t off h))

end SessionTaskMap

/-- The clamp that `set_uclamp` makes of a range: both ends within the limits, and the upper one
raised to the lower one if they conflict. -/
theorem clampRange_eq (r : UclampRange) :
    clampRange r =
      ⟨max 0 (min r.uclampMin 1024), max (max 0 (min r.uclampMax 1024)) (max 0 (min r.uclampMin 1024))⟩ := by
  simp only [clampRange, kUclampMin, kUclampMax, UclampRange.mk.injEq]
  omega

open SessionTaskMap

/-- **The clamp that takes effect on a thread.**  For every map, thread and time, if no active session
of the thread prefers power efficiency, or the parameter for that is unset: the range computed from the
default one has as its minimum the greatest of 0 and the minima of the votes in force, and as its
maximum the least of 1024 and their maxima; nothing but the votes in force has an influence on it.
A vote's end is the sum of its start and its duration whenever the clock can hold it.  And whatever
range `set_uclamp` is given, it passes on a clamp within the limits, the upper end raised to the lower
one if they conflict. -/
theorem effective_clamp (m : SessionTaskMap) (tid t : ℤ) (base off : Option ℤ)
    (h : base = none ∨ ∀ p ∈ sessionsOf m.mTasks tid,
      (m.vals.read p).isActive = true → (m.vals.read p).isPowerEfficient = false) :
    IsGreatest {x | x = 0 ∨ ∃ v, m.InForce tid t v ∧ v.mUclampRange.uclampMin = x}
      (m.getTaskVoteRange tid t {} base off).uclampMin ∧
    IsLeast {x | x = 1024 ∨ ∃ v, m.InForce tid t v ∧ v.mUclampRange.uclampMax = x}
      (m.getTaskVoteRange tid t {} base off).uclampMax ∧
    (∀ m' : SessionTaskMap, (∀ p ∈ sessionsOf m'.mTasks tid, m'.Uncapped base p) →
      (∀ v, m'.InForce tid t v ↔ m.InForce tid t v) →
      m'.getTaskVoteRange tid t {} base off = m.getTaskVoteRange tid t {} base off) ∧
    (∀ start duration, -2 ^ 63 ≤ start + duration → start + duration < 2 ^ 63 →
      addNanos start duration = start + duration) ∧
    ∀ (w : World) (range : UclampRange), ∃ lo hi err,
      (w.set_uclamp tid range).2.schedCalls = ⟨tid, ⟨lo, hi⟩, err⟩ :: w.schedCalls ∧
      0 ≤ lo ∧ lo ≤ hi ∧ hi ≤ 1024 ∧
      lo = max 0 (min range.uclampMin 1024) ∧ hi = max (max 0 (min range.uclampMax 1024)) lo := by
  have huncapped : ∀ p ∈ sessionsOf m.mTasks tid, m.Uncapped base p := by
    intro p hp hact heff
    rcases h with hbase | hplain
    · exact hbase
    · rw [hplain p hp hact] at heff
      cases heff
  refine ⟨m.isGreatest_uclampMin tid t base off, isLeast_uclampMax tid t off huncapped,
    fun m' h' hv => getTaskVoteRange_eq_of_inForce huncapped h' hv,
    fun start duration hlo hhi => toInt64_eq hlo hhi, fun w range => ?_⟩
  refine ⟨_, _, _, congrArg (fun r => (⟨tid, r, _⟩ : SchedCall) :: w.schedCalls) (clampRange_eq range),
    ?_, ?_, ?_, rfl, rfl⟩
  · exact le_max_left _ _
  · exact le_max_right _ _
  · omega

/-- A thread with two sessions: one with an active vote for 300 to 700, the other switched off. -/
def twoVoters : SessionTaskMap :=
  MapOp.apply (MapOp.apply (MapOp.apply (MapOp.apply {} (.add 1 {} [7]))
    (.add 2 { isActive := false, votes := 1 } [7])) (.addVote 1 1 300 700 0 100))
    (.addVote 2 1 900 950 0 100)

theorem effective_clamp_two_voters :
    (∀ p ∈ sessionsOf twoVoters.mTasks 7,
      (twoVoters.vals.read p).isActive = true → (twoVoters.vals.read p).isPowerEfficient = false) ∧
    IsGreatest {x | x = 0 ∨ ∃ v, twoVoters.InForce 7 50 v ∧ v.mUclampRange.uclampMin = x} 300 := by
  have hplain : ∀ p ∈ sessionsOf twoVoters.mTasks 7,
      (twoVoters.vals.read p).isActive = true → (twoVoters.vals.read p).isPowerEfficient = false := by
    decide
  have hmin := (effective_clamp twoVoters 7 50 none none (Or.inr hplain)).1
  have hrange : (twoVoters.getTaskVoteRange 7 50 {} none none).uclampMin = 300 := by decide
  rw [hrange] at hmin
  exact ⟨hplain, hmin⟩

end Adpf
