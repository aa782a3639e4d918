/-
**A timer whose events schedule themselves again.**

A timer is set again and again, each time for a deadline of its own, and should not leave more than
one event behind.  When it is set, an event is scheduled unless the timer is on and an event is bound
to come in time; an event that comes too early schedules itself again for the new deadline, and one
that finds the timer off is dropped.  The rule rests on two assumptions: that the deadlines never
decrease, and that the timer is not switched off behind the back of its event.

Main definitions:

* `Requeue.Timer`, `Requeue.Timer.set`, `Requeue.Timer.Step` — the timer and what happens to it;
* `Requeue.Timer.Tame` — what keeps the events few, relative to the deadline that was set last.

Main results:

* `Requeue.Timer.Tame.step`, `Requeue.Timer.Tame.set` — the steps keep it;
* `Requeue.Timer.set_revived` — a timer that is set while it is off and an event is left has two.
-/

import Mathlib.Order.Lattice

set_option autoImplicit false

namespace Requeue

/-- Whether the timer is on, for which time it is set, and how many events are left. -/
structure Timer (T : Type) where
  active : Bool
  timeout : T
  events : ℕ
  deriving DecidableEq, Repr

namespace Timer

variable {T : Type} {x x' : Timer T} {D : T}

/-- What else happens: nothing, or nothing to be seen; the timer is switched off; an event finds the
timer timed out, or finds it off. -/
inductive Step : Timer T → Timer T → Prop
  | skip (x : Timer T) : Step x x
  | off (x : Timer T) : Step x { x with active := false }
  | expire (x : Timer T) : Step x { x with active := false, events := x.events - 1 }
  | drop (x : Timer T) : x.active = false → Step x { x with events := x.events - 1 }

theorem Step.events_le (h : Step x x') : x'.events ≤ x.events := by
  cases h with
  | skip => exact Nat.le_refl _
  | off => exact Nat.le_refl _
  | expire => exact Nat.sub_le _ _
  | drop _ => exact Nat.sub_le _ _

variable [LinearOrder T]

/-- The timer is set for a deadline.  What is set may not be stored; the event is scheduled all the
same. -/
def set (D : T) (stored : Bool) (x : Timer T) : Timer T where
  active := stored || x.active
  timeout := if stored then D else x.timeout
  events := if x.active ∧ x.timeout ≤ D then x.events else x.events + 1

/-- The timer is off, and an event is left. -/
def Revivable (x : Timer T) : Prop := x.active = false ∧ x.events ≠ 0

instance (x : Timer T) : Decidable x.Revivable := inferInstanceAs (Decidable (_ ∧ _))

/-- At most one event is left, none before the timer is set, and the timer is on for no later time
than it was set for last. -/
structure Tame (last : Option T) (x : Timer T) : Prop where
  single : x.events ≤ 1
  fresh : last = none → x.active = false ∧ x.events = 0
  timely : ∀ L ∈ last, x.active = true → x.timeout ≤ L

theorem Tame.step {last : Option T} (h : Tame last x) (hs : Step x x') : Tame last x' := by
  have hfewer : x.events - 1 ≤ 1 := Nat.le_trans (Nat.sub_le _ _) h.single
  have hnone : last = none → x.events - 1 = 0 := fun hl => by rw [(h.fresh hl).2]
  cases hs with
  | skip => exact h
  | off => exact ⟨h.single, fun hl => ⟨rfl, (h.fresh hl).2⟩, fun L _ hact => nomatch hact⟩
  | expire => exact ⟨hfewer, fun hl => ⟨rfl, hnone hl⟩, fun L _ hact => nomatch hact⟩
  | drop hoff => exact ⟨hfewer, fun hl => ⟨hoff, hnone hl⟩, h.timely⟩

/-- A deadline that is not before the last one adds an event only to a timer that is off. -/
theorem Tame.active_of_le {last : Option T} (h : Tame last x) (hle : ∀ L ∈ last, L ≤ D) :
    (x.active ∧ x.timeout ≤ D) ↔ x.active = true := by
  refine ⟨fun hx => hx.1, fun hact => ⟨hact, ?_⟩⟩
  cases hlast : last with
  | none =>
      rw [(h.fresh hlast).1] at hact
      cases hact
  | some L => exact (h.timely L hlast hact).trans (hle L hlast)

theorem events_set (x : Timer T) (D : T) (stored : Bool) :
    (x.set D stored).events = if x.active ∧ x.timeout ≤ D then x.events else x.events + 1 := rfl

theorem Tame.set {last : Option T} (h : Tame last x) (hle : ∀ L ∈ last, L ≤ D)
    (hx : ¬ x.Revivable) (stored : Bool) : Tame (some D) (x.set D stored) where
  single := by
    rw [events_set]
    by_cases hact : x.active = true
    · rw [if_pos ((h.active_of_le hle).2 hact)]
      exact h.single
    · have hzero : x.events = 0 := by
        by_contra hne
        exact hx ⟨by simpa using hact, hne⟩
      rw [if_neg fun hboth => hact hboth.1, hzero]
  fresh := fun hnone => nomatch hnone
  timely := by
    intro L hL hact
    obtain rfl := Option.some.inj hL
    cases stored with
    | true => exact le_rfl
    | false => exact ((h.active_of_le hle).2 hact).2

/-- A timer that is set while it is off and an event is left has two events. -/
theorem set_revived (hx : x.Revivable) (D : T) (stored : Bool) : 2 ≤ (x.set D stored).events := by
  have hpos := Nat.pos_of_ne_zero hx.2
  rw [events_set, if_neg (by simp [hx.1])]
  omega

end Timer

end Requeue
