/-
**Locks in a fixed order: no thread waits for itself and no threads wait for each other.**

The locks are ranked.  A program respects the ranks when, on every path, it only asks for a lock
whose rank is above the ranks of all the locks it holds, and gives back only what it holds.  When
all threads run such programs, a thread that waits for a lock waits for a holder that, if it waits
too, waits for a lock of a higher rank; so the waiting never closes into a circle.

Main definitions:

* `Conc.Prog.Respects` — the discipline of one program;
* `Conc.WaitsFor` — thread `i` asks for a lock that thread `j` holds.

Main results:

* `Conc.Prog.Respects.bind`, `Conc.Prog.Respects.critical` — the discipline of a program from its
  parts;
* `Conc.Prog.Respects.returns` — a disciplined program alone runs to its end;
* `Conc.no_circular_wait` — **no circle of waiting threads** in any interleaving.
-/

import MotoCommon.ConcInterleave

set_option autoImplicit false

namespace Conc

variable {ι L S α β : Type} [DecidableEq L] {rank : L → ℕ}

/-! ### The discipline of one program -/

/-- On every path from `held`, whatever states the program meets, each lock asked for ranks above
all the locks held, each lock given back is held, and the path ends with `held'`. -/
def Prog.Respects (rank : L → ℕ) : List L → Prog L S α → List L → Prop
  | held, ret _, held' => held = held'
  | held, act _ k, held' => ∀ s, Respects rank held (k s) held'
  | held, lock l k, held' => (∀ h ∈ held, rank h < rank l) ∧ Respects rank (l :: held) k held'
  | held, unlock l k, held' => l ∈ held ∧ Respects rank (held.erase l) k held'

namespace Prog.Respects

theorem ret (a : α) (held : List L) : (Prog.ret a : Prog L S α).Respects rank held held := rfl

theorem atomic (f : S → α × S) (held : List L) :
    (Prog.atomic f : Prog L S α).Respects rank held held := fun _ => rfl

theorem read (g : S → α) (held : List L) :
    (Prog.read g : Prog L S α).Respects rank held held := fun _ => rfl

theorem modify (f : S → S) (held : List L) :
    (Prog.modify f : Prog L S Unit).Respects rank held held := fun _ => rfl

theorem bind {p : Prog L S α} {g : α → Prog L S β} {held mid held' : List L}
    (hp : p.Respects rank held mid) (hg : ∀ a, (g a).Respects rank mid held') :
    (p.bind g).Respects rank held held' := by
  induction p generalizing held with
  | ret a =>
      obtain rfl : held = mid := hp
      exact hg a
  | act f k ih => exact fun s => ih s (hp s)
  | lock l k ih => exact ⟨hp.1, ih hp.2⟩
  | unlock l k ih => exact ⟨hp.1, ih hp.2⟩

theorem critical {l : L} {p : Prog L S α} {held : List L} (hl : ∀ h ∈ held, rank h < rank l)
    (hp : p.Respects rank (l :: held) (l :: held)) :
    (Prog.critical l p).Respects rank held held := by
  refine ⟨hl, bind hp fun a => ⟨List.mem_cons_self .., ?_⟩⟩
  simp [Prog.Respects]

theorem when {c : Bool} {p : Prog L S Unit} {held : List L} (hp : p.Respects rank held held) :
    (Prog.when c p).Respects rank held held := by
  cases c with
  | true => exact hp
  | false => rfl

theorem ite {c : Prop} [Decidable c] {p q : Prog L S α} {held held' : List L}
    (hp : p.Respects rank held held') (hq : q.Respects rank held held') :
    (if c then p else q).Respects rank held held' := by
  by_cases hc : c
  · rwa [if_pos hc]
  · rwa [if_neg hc]

theorem forEach {f : β → Prog L S Unit} {held : List L}
    (h : ∀ b, (f b).Respects rank held held) :
    ∀ bs : List β, (Prog.forEach f bs).Respects rank held held
  | [] => rfl
  | b :: bs => bind (h b) fun _ => forEach h bs

/-- A disciplined program that runs alone never asks for a lock it holds. -/
theorem returns {p : Prog L S α} {held held' : List L} (hp : p.Respects rank held held') (s : S) :
    p.returns held s = true := by
  induction p generalizing held s with
  | ret a => rfl
  | act f k ih => exact ih s (hp s) (f s)
  | lock l k ih =>
      have hl : l ∉ held := fun hmem => Nat.lt_irrefl _ (hp.1 l hmem)
      simp [Prog.returns, hl, ih hp.2]
  | unlock l k ih => exact ih hp.2 s

/-- A disciplined program that runs alone ends with the locks it should. -/
theorem leaves {p : Prog L S α} {held held' : List L} (hp : p.Respects rank held held') (s : S) :
    p.leaves held s = held' := by
  induction p generalizing held s with
  | ret a => exact hp
  | act f k ih => exact ih s (hp s) (f s)
  | lock l k ih => exact ih hp.2 s
  | unlock l k ih => exact ih hp.2 s

end Prog.Respects

/-! ### Disciplined threads -/

/-- A thread whose remaining program respects the ranks from the locks it holds. -/
def Thread.Disciplined (rank : L → ℕ) (t : Thread L S) : Prop :=
  t.prog.Respects rank t.held []

/-- Thread `i` asks for a lock that thread `j` holds. -/
def WaitsFor (c : Config ι L S) (i j : ι) : Prop :=
  ∃ l k, (c.threads i).prog = Prog.lock l k ∧ l ∈ (c.threads j).held

variable [DecidableEq ι] {starts : ι → Prog L S Unit → Prop}

/-- A step keeps all threads disciplined when only disciplined programs are started. -/
theorem Step.disciplined (hstarts : ∀ i p, starts i p → p.Respects rank [] [])
    {i : ι} {c c' : Config ι L S} (h : Step starts i c c')
    (hc : ∀ j, (c.threads j).Disciplined rank) : ∀ j, (c'.threads j).Disciplined rank := by
  have upd : ∀ (t : Thread L S) (s : S), t.Disciplined rank →
      ∀ j, (Config.threads ⟨s, Function.update c.threads i t⟩ j).Disciplined rank := by
    intro t s ht j
    by_cases hji : j = i
    · subst hji
      simpa using ht
    · simpa [Function.update_of_ne hji] using hc j
  have hi := hc i
  cases h with
  | start _ hp => exact upd _ _ (hstarts i _ hp)
  | act hth =>
      rw [hth] at hi
      exact upd _ _ (hi c.state)
  | lock hth _ =>
      rw [hth] at hi
      exact upd _ _ hi.2
  | unlock hth =>
      rw [hth] at hi
      exact upd _ _ hi.2

theorem Reach.disciplined (hstarts : ∀ i p, starts i p → p.Respects rank [] []) {s : S}
    {c : Config ι L S} (h : Reach starts (Config.init s) c) :
    ∀ j, (c.threads j).Disciplined rank := by
  induction h with
  | refl => exact fun _ => rfl
  | tail _ hstep ih =>
      obtain ⟨i, hi⟩ := hstep
      exact hi.disciplined hstarts ih

/-! ### No circle of waiting threads -/

omit [DecidableEq ι] in
/-- Along a chain of waiting threads the lock asked for last ranks above every lock that the first
thread of the chain asks for. -/
theorem rank_lt_of_waits {c : Config ι L S} (hc : ∀ j, (c.threads j).Disciplined rank) {i j : ι}
    (h : Relation.TransGen (WaitsFor c) i j) {l : L} {k : Prog L S Unit}
    (hi : (c.threads i).prog = Prog.lock l k) :
    ∃ l' ∈ (c.threads j).held, rank l ≤ rank l' := by
  induction h with
  | single hw =>
      obtain ⟨l', k', hl', hmem⟩ := hw
      rw [hi] at hl'
      obtain ⟨rfl, rfl⟩ := Prog.lock.inj hl'
      exact ⟨l, hmem, Nat.le_refl _⟩
  | @tail b d _ hw ih =>
      obtain ⟨lb, hlb, hrank⟩ := ih
      obtain ⟨l', k', hl', hmem⟩ := hw
      -- `b` holds `lb` and asks for `l'`, so `l'` ranks higher
      have hb := hc b
      rw [Thread.Disciplined, hl'] at hb
      exact ⟨l', hmem, Nat.le_of_lt (Nat.lt_of_le_of_lt hrank (hb.1 lb hlb))⟩

/-- **No circle of waiting threads**: no thread waits for itself, directly or through others. -/
theorem no_circular_wait (hstarts : ∀ i p, starts i p → p.Respects rank [] []) {s : S}
    {c : Config ι L S} (h : Reach starts (Config.init s) c) (i : ι) :
    ¬ Relation.TransGen (WaitsFor c) i i := by
  intro hcycle
  have hc := h.disciplined hstarts
  obtain ⟨j, hw, _⟩ := Relation.TransGen.head'_iff.1 hcycle
  obtain ⟨l, k, hl, _⟩ := hw
  obtain ⟨l', hmem, hrank⟩ := rank_lt_of_waits hc hcycle hl
  have hi := hc i
  rw [Thread.Disciplined, hl] at hi
  exact absurd (hi.1 l' hmem) (Nat.not_lt.2 hrank)

end Conc
