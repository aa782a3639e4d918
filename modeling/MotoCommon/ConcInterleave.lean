/-
**Interleavings of programs, and what every interleaving preserves.**

A configuration holds the shared state and, for each thread, the locks it holds and the program it
still has to execute.  Any thread may take the next step; a thread that has nothing to do may start
a new program.  A lock is only taken while no thread holds it.

What holds across all interleavings is proved thread by thread, by rely and guarantee.  A relation
`R` says what the other threads may do to the state between two actions of a thread, a relation `G`
what the thread itself does in one action.  If every thread guarantees at least what all of them
rely on, then every step of every interleaving is within its thread's guarantee.

Main definitions:

* `Conc.Thread`, `Conc.Config`, `Conc.Step`, `Conc.Reach` — configurations and their steps;
* `Conc.Prog.Guards` — a program keeps its guarantee, relying on the others.

Main results:

* `Conc.Prog.Guards.bind`, `Conc.Prog.Guards.critical` — the guarantee of a program from the
  guarantees of its parts;
* `Conc.reach_run` — a run alone is one of the interleavings;
* `Conc.reach_rely`, `Conc.step_guarantee` — **soundness**: every reachable state is related to the
  first one by `R`, and every step of thread `i` that changes the state is within `G i`.
-/

import Mathlib.Logic.Function.Basic
import Mathlib.Logic.Relation
import MotoCommon.ConcProg

set_option autoImplicit false

namespace Conc

variable {ι L S α β : Type}

/-! ### Rely and guarantee -/

/-- Started in state `s`, while the other threads may move the state along `R` before every action,
the program stays within `G` in each of its own actions and ends with `Q`. -/
def Prog.Guards (R G : S → S → Prop) : Prog L S α → (α → S → Prop) → S → Prop
  | ret a, Q, s => Q a s
  | act f k, Q, s => ∀ s', R s s' → G s' (f s') ∧ (k s').Guards R G Q (f s')
  | lock _ k, Q, s => k.Guards R G Q s
  | unlock _ k, Q, s => k.Guards R G Q s

namespace Prog.Guards

variable {R G : S → S → Prop} {Q : α → S → Prop} {Q' : β → S → Prop}

theorem bind {p : Prog L S α} {g : α → Prog L S β} {s : S} (hp : p.Guards R G Q s)
    (hg : ∀ a s', Q a s' → (g a).Guards R G Q' s') : (p.bind g).Guards R G Q' s := by
  induction p generalizing s with
  | ret a => exact hg a s hp
  | act f k ih =>
      intro s' hs'
      obtain ⟨hG, hk⟩ := hp s' hs'
      exact ⟨hG, ih s' hk⟩
  | lock l k ih => exact ih hp
  | unlock l k ih => exact ih hp

theorem atomic {f : S → α × S} {s : S}
    (h : ∀ s', R s s' → G s' (f s').2 ∧ Q (f s').1 (f s').2) : (Prog.atomic f).Guards R G Q s (L := L) :=
  h

theorem critical {l : L} {p : Prog L S α} {s : S} (hp : p.Guards R G Q s) :
    (Prog.critical l p).Guards R G Q s :=
  bind (Q := Q) hp fun _ _ h => h

/-- What the others do does not disturb the guarantee. -/
theorem rely {p : Prog L S Unit} {s s' : S} (htrans : ∀ a b c, R a b → R b c → R a c)
    (hp : p.Guards R G (fun _ _ => True) s) (h : R s s') :
    p.Guards R G (fun _ _ => True) s' := by
  induction p generalizing s s' with
  | ret a => trivial
  | act f k ih => exact fun t ht => hp t (htrans s s' t h ht)
  | lock l k ih => exact ih hp h
  | unlock l k ih => exact ih hp h

end Prog.Guards

/-- A program all of whose actions are within `G` guarantees `G`, whatever the others do. -/
theorem Prog.Within.guards {R G : S → S → Prop} {p : Prog L S α} (hp : p.Within G) (s : S) :
    p.Guards R G (fun _ _ => True) s := by
  induction p generalizing s with
  | ret a => trivial
  | act f k ih => exact fun s' _ => ⟨(hp s').1, ih s' (hp s').2 (f s')⟩
  | lock l k ih => exact ih hp s
  | unlock l k ih => exact ih hp s

/-! ### Configurations -/

/-- A thread: the locks it holds, the last one taken first, and what it still has to do. -/
structure Thread (L S : Type) where
  held : List L
  prog : Prog L S Unit

/-- A thread with nothing to do. -/
def Thread.idle : Thread L S := ⟨[], Prog.ret ()⟩

/-- The shared state and the threads. -/
structure Config (ι L S : Type) where
  state : S
  threads : ι → Thread L S

/-- All threads are idle. -/
def Config.init (s : S) : Config ι L S := ⟨s, fun _ => Thread.idle⟩

@[simp] theorem Config.state_init (s : S) : (Config.init s : Config ι L S).state = s := rfl

variable [DecidableEq ι] [DecidableEq L]

/-- Thread `i` takes one step.  `starts i p` says that thread `i` may start the program `p` when it
has nothing else to do. -/
inductive Step (starts : ι → Prog L S Unit → Prop) (i : ι) :
    Config ι L S → Config ι L S → Prop
  | start {c : Config ι L S} {p : Prog L S Unit} : c.threads i = Thread.idle → starts i p →
      Step starts i c ⟨c.state, Function.update c.threads i ⟨[], p⟩⟩
  | act {c : Config ι L S} {held : List L} {f : S → S} {k : S → Prog L S Unit} :
      c.threads i = ⟨held, Prog.act f k⟩ →
      Step starts i c ⟨f c.state, Function.update c.threads i ⟨held, k c.state⟩⟩
  | lock {c : Config ι L S} {held : List L} {l : L} {k : Prog L S Unit} :
      c.threads i = ⟨held, Prog.lock l k⟩ → (∀ j, l ∉ (c.threads j).held) →
      Step starts i c ⟨c.state, Function.update c.threads i ⟨l :: held, k⟩⟩
  | unlock {c : Config ι L S} {held : List L} {l : L} {k : Prog L S Unit} :
      c.threads i = ⟨held, Prog.unlock l k⟩ →
      Step starts i c ⟨c.state, Function.update c.threads i ⟨held.erase l, k⟩⟩

/-- The configurations that some interleaving leads to. -/
def Reach (starts : ι → Prog L S Unit → Prop) : Config ι L S → Config ι L S → Prop :=
  Relation.ReflTransGen fun c c' => ∃ i, Step starts i c c'

/-- One step of a program, as far as the state is concerned. -/
inductive Prog.Next : Prog L S Unit → S → Prog L S Unit → S → Prop
  | act (f : S → S) (k : S → Prog L S Unit) (s : S) : Next (Prog.act f k) s (k s) (f s)
  | lock (l : L) (k : Prog L S Unit) (s : S) : Next (Prog.lock l k) s k s
  | unlock (l : L) (k : Prog L S Unit) (s : S) : Next (Prog.unlock l k) s k s

/-- A step of a thread starts a program, or is a step of its program. -/
theorem Step.next {starts : ι → Prog L S Unit → Prop} {i : ι} {c c' : Config ι L S}
    (h : Step starts i c c') :
    (∃ p, starts i p ∧ c'.state = c.state ∧ c'.threads = Function.update c.threads i ⟨[], p⟩ ∧
      (c.threads i).prog = Prog.ret ()) ∨
    ∃ held p, (c.threads i).prog.Next c.state p c'.state ∧
      c'.threads = Function.update c.threads i ⟨held, p⟩ := by
  cases h with
  | start hidle hp => exact Or.inl ⟨_, hp, rfl, rfl, by rw [hidle]; rfl⟩
  | act hth =>
      rw [hth]
      exact Or.inr ⟨_, _, .act _ _ _, rfl⟩
  | lock hth _ =>
      rw [hth]
      exact Or.inr ⟨_, _, .lock _ _ _, rfl⟩
  | unlock hth =>
      rw [hth]
      exact Or.inr ⟨_, _, .unlock _ _ _, rfl⟩

/-- While the other threads hold no lock, a thread can execute the first part of its program. -/
theorem reach_first {starts : ι → Prog L S Unit → Prop} {i : ι} (p : Prog L S α)
    (g : α → Prog L S Unit) :
    ∀ (held : List L) (s : S) (threads : ι → Thread L S), p.returns held s = true →
      threads i = ⟨held, p.bind g⟩ → (∀ j, j ≠ i → (threads j).held = []) →
      Reach starts ⟨s, threads⟩
        ⟨p.post s, Function.update threads i ⟨p.leaves held s, g (p.run s).1⟩⟩ := by
  induction p with
  | ret a =>
      intro held s threads _ hth _
      have hsame : Function.update threads i ⟨held, g a⟩ = threads := by
        rw [Function.update_eq_self_iff, hth]
        rfl
      rw [Prog.leaves, Prog.run_ret, hsame]
      exact Relation.ReflTransGen.refl
  | act f k ih =>
      intro held s threads hret hth hothers
      have hrest := ih s held (f s) (Function.update threads i ⟨held, (k s).bind g⟩) hret (by simp)
        fun j hj => by simpa [Function.update_of_ne hj] using hothers j hj
      rw [Function.update_idem] at hrest
      exact Relation.ReflTransGen.head ⟨i, Step.act hth⟩ hrest
  | lock l k ih =>
      intro held s threads hret hth hothers
      simp only [Prog.returns, Bool.and_eq_true, decide_eq_true_eq] at hret
      have hfree : ∀ j, l ∉ (threads j).held := by
        intro j
        by_cases hj : j = i
        · rw [hj, hth]
          exact hret.1
        · simp [hothers j hj]
      have hrest := ih (l :: held) s (Function.update threads i ⟨l :: held, k.bind g⟩) hret.2 (by simp)
        fun j hj => by simpa [Function.update_of_ne hj] using hothers j hj
      rw [Function.update_idem] at hrest
      exact Relation.ReflTransGen.head ⟨i, Step.lock hth hfree⟩ hrest
  | unlock l k ih =>
      intro held s threads hret hth hothers
      have hrest := ih (held.erase l) s (Function.update threads i ⟨held.erase l, k.bind g⟩) hret
        (by simp) fun j hj => by simpa [Function.update_of_ne hj] using hothers j hj
      rw [Function.update_idem] at hrest
      exact Relation.ReflTransGen.head ⟨i, Step.unlock hth⟩ hrest

/-- While the other threads hold no lock, a thread can execute its program to the end. -/
theorem reach_alone {starts : ι → Prog L S Unit → Prop} {i : ι} (p : Prog L S Unit)
    (held : List L) (s : S) (threads : ι → Thread L S) (hret : p.returns held s = true)
    (hth : threads i = ⟨held, p⟩) (hothers : ∀ j, j ≠ i → (threads j).held = []) :
    Reach starts ⟨s, threads⟩
      ⟨p.post s, Function.update threads i ⟨p.leaves held s, Prog.ret ()⟩⟩ :=
  reach_first p Prog.ret held s threads hret (by rw [hth, Prog.bind_ret_right]) hothers

/-- While the other threads hold no lock, an idle thread can start a program and execute it to the
end. -/
theorem reach_call {starts : ι → Prog L S Unit → Prop} {i : ι} {p : Prog L S Unit}
    (hp : starts i p) {c : Config ι L S} (hidle : c.threads i = Thread.idle)
    (hothers : ∀ j, j ≠ i → (c.threads j).held = []) (hret : p.returns [] c.state = true)
    (hleaves : p.leaves [] c.state = []) : Reach starts c ⟨p.post c.state, c.threads⟩ := by
  have halone : Reach starts ⟨c.state, Function.update c.threads i ⟨[], p⟩⟩ _ :=
    reach_alone p [] c.state _ hret (Function.update_self ..) fun j hj => by
      rw [Function.update_of_ne hj]
      exact hothers j hj
  have hend : Function.update c.threads i ⟨[], Prog.ret ()⟩ = c.threads := by
    rw [Function.update_eq_self_iff, hidle]
    rfl
  rw [hleaves, Function.update_idem, hend] at halone
  exact Relation.ReflTransGen.head ⟨i, Step.start hidle hp⟩ halone

/-- **A run alone is one of the interleavings**: from a configuration in which all threads are idle
it leads to another such configuration. -/
theorem reach_run {starts : ι → Prog L S Unit → Prop} {i : ι} {p : Prog L S Unit}
    (hp : starts i p) {s : S} (hret : p.returns [] s = true) (hleaves : p.leaves [] s = []) :
    Reach starts (Config.init s) (Config.init (p.post s)) :=
  reach_call (c := Config.init s) hp rfl (fun _ _ => rfl) hret hleaves

/-! ### Soundness -/

section Soundness

variable {starts : ι → Prog L S Unit → Prop} {R : S → S → Prop} {G : ι → S → S → Prop}

/-- Every thread's remaining program keeps its guarantee. -/
def AllGuard (R : S → S → Prop) (G : ι → S → S → Prop) (c : Config ι L S) : Prop :=
  ∀ i, (c.threads i).prog.Guards R (G i) (fun _ _ => True) c.state

omit [DecidableEq ι] [DecidableEq L] in
theorem allGuard_init (s : S) : AllGuard R G (Config.init s : Config ι L S) := fun _ => trivial

/-- One step: the guarantees stay, and the state moved within the guarantee of the thread. -/
theorem AllGuard.step (hrefl : ∀ s, R s s) (htrans : ∀ a b c, R a b → R b c → R a c)
    (hG : ∀ i s s', G i s s' → R s s')
    (hstarts : ∀ i p, starts i p → ∀ s, p.Guards R (G i) (fun _ _ => True) s)
    {i : ι} {c c' : Config ι L S} (hc : AllGuard R G c) (h : Step starts i c c') :
    AllGuard R G c' ∧ (c'.state = c.state ∨ G i c.state c'.state) := by
  -- the threads other than `i` only see the state move along `R`
  have others : ∀ (s : S) (t : Thread L S), R c.state s →
      t.prog.Guards R (G i) (fun _ _ => True) s →
      AllGuard R G ⟨s, Function.update c.threads i t⟩ := by
    intro s t hs ht j
    by_cases hji : j = i
    · subst hji
      simpa using ht
    · simpa [Function.update_of_ne hji] using (hc j).rely htrans hs
  have hi := hc i
  cases h with
  | start hidle hp => exact ⟨others _ _ (hrefl _) (hstarts i _ hp _), Or.inl rfl⟩
  | act hth =>
      rw [hth] at hi
      obtain ⟨hg, hk⟩ := hi c.state (hrefl _)
      exact ⟨others _ _ (hG i _ _ hg) hk, Or.inr hg⟩
  | lock hth _ =>
      rw [hth] at hi
      exact ⟨others _ _ (hrefl _) hi, Or.inl rfl⟩
  | unlock hth =>
      rw [hth] at hi
      exact ⟨others _ _ (hrefl _) hi, Or.inl rfl⟩

/-- **Soundness over whole runs**: the guarantees of the threads stay, and the state only moves
along what the threads rely on. -/
theorem reach_rely (hrefl : ∀ s, R s s) (htrans : ∀ a b c, R a b → R b c → R a c)
    (hG : ∀ i s s', G i s s' → R s s')
    (hstarts : ∀ i p, starts i p → ∀ s, p.Guards R (G i) (fun _ _ => True) s)
    {c c' : Config ι L S} (hc : AllGuard R G c) (h : Reach starts c c') :
    AllGuard R G c' ∧ R c.state c'.state := by
  induction h with
  | refl => exact ⟨hc, hrefl _⟩
  | tail _ hstep ih =>
      obtain ⟨i, hi⟩ := hstep
      obtain ⟨hall, hst⟩ := AllGuard.step hrefl htrans hG hstarts ih.1 hi
      refine ⟨hall, ?_⟩
      rcases hst with heq | hg
      · rw [heq]
        exact ih.2
      · exact htrans _ _ _ ih.2 (hG i _ _ hg)

/-- **Soundness of one step** of a reachable configuration. -/
theorem step_guarantee (hrefl : ∀ s, R s s) (htrans : ∀ a b c, R a b → R b c → R a c)
    (hG : ∀ i s s', G i s s' → R s s')
    (hstarts : ∀ i p, starts i p → ∀ s, p.Guards R (G i) (fun _ _ => True) s)
    {s : S} {c c' : Config ι L S} (h : Reach starts (Config.init s) c) {i : ι}
    (hstep : Step starts i c c') : c'.state = c.state ∨ G i c.state c'.state :=
  (AllGuard.step hrefl htrans hG hstarts
    (reach_rely hrefl htrans hG hstarts (allGuard_init s) h).1 hstep).2

end Soundness

end Conc
