/-
**A lock for readers and writers.**

Threads are somewhere in their programs.  At some points a thread holds the lock together with others, and at
some points it holds the lock alone.  The lock is respected if a thread that holds it alone is the only one
that holds it.

Main definitions:

* `RwLock.Lock` — at which points a thread holds the lock, and how;
* `RwLock.Lock.Respected` — the lock is respected;
* `RwLock.Lock.Allows` — a thread may go to a point.

Main result:

* `RwLock.Lock.Respected.update` — a step that the lock allows keeps it respected.
-/

import Mathlib.Logic.Function.Basic

set_option autoImplicit false

namespace RwLock

/-- At which points the lock is held, and how. -/
structure Lock (P : Type) where
  shared : P → Bool
  exclusive : P → Bool

namespace Lock

variable {P ι : Type} (lock : Lock P)

/-- The lock is held at a point. -/
def held (p : P) : Bool := lock.shared p || lock.exclusive p

/-- A thread that holds the lock alone is the only one that holds it. -/
def Respected (threads : ι → P) : Prop :=
  ∀ i j, lock.exclusive (threads i) = true → lock.held (threads j) = true → i = j

/-- A thread may go to a point: a lock that it does not hold yet has to be free, or free of writers. -/
structure Allows (threads : ι → P) (i : ι) (p : P) : Prop where
  exclusive : lock.exclusive p = true → lock.exclusive (threads i) = true ∨
    ∀ j, lock.held (threads j) = false
  shared : lock.shared p = true → lock.held (threads i) = true ∨ ∀ j, lock.exclusive (threads j) = false

variable {lock} {threads : ι → P} {i : ι} {p : P}

/-- Giving the lock back, or going on without it, is always allowed. -/
theorem Allows.of_not_held (h : lock.held p = false) : lock.Allows threads i p := by
  obtain ⟨hshared, hexclusive⟩ := Bool.or_eq_false_iff.1 h
  exact ⟨fun hp => absurd (hexclusive.symm.trans hp) Bool.false_ne_true,
    fun hp => absurd (hshared.symm.trans hp) Bool.false_ne_true⟩

/-- So is keeping it. -/
theorem Allows.of_kept (hshared : lock.shared p = lock.shared (threads i))
    (hexclusive : lock.exclusive p = lock.exclusive (threads i)) : lock.Allows threads i p where
  exclusive h := Or.inl (hexclusive ▸ h)
  shared h := Or.inl (Bool.or_eq_true_iff.2 (Or.inl (hshared ▸ h)))

/-- **A step.** -/
theorem Respected.update [DecidableEq ι] (h : lock.Respected threads) (hp : lock.Allows threads i p) :
    lock.Respected (Function.update threads i p) := by
  intro j k hj hk
  by_cases hji : j = i
  · by_cases hki : k = i
    · exact hji.trans hki.symm
    · rw [hji, Function.update_self] at hj
      rw [Function.update_of_ne hki] at hk
      rcases hp.exclusive hj with hheld | hfree
      · exact absurd (h i k hheld hk) (Ne.symm hki)
      · exact absurd ((hfree k).symm.trans hk) Bool.false_ne_true
  · rw [Function.update_of_ne hji] at hj
    by_cases hki : k = i
    · rw [hki, Function.update_self] at hk
      -- another thread holds the lock alone, so this one had it neither way
      have hnot : ¬ lock.held (threads i) = true := fun hheld => hji (h j i hj hheld)
      rcases Bool.or_eq_true_iff.1 hk with hshared | hexclusive
      · rcases hp.shared hshared with hheld | hfree
        · exact absurd hheld hnot
        · exact absurd ((hfree j).symm.trans hj) Bool.false_ne_true
      · rcases hp.exclusive hexclusive with hheld | hfree
        · exact absurd (Bool.or_eq_true_iff.2 (Or.inr hheld)) hnot
        · have hheld := Bool.or_eq_true_iff.2 (Or.inr hj : lock.shared (threads j) = true ∨ _)
          exact absurd ((hfree j).symm.trans hheld) Bool.false_ne_true
    · rw [Function.update_of_ne hki] at hk
      exact h j k hj hk

end Lock

end RwLock
