/-
**Programs of threads that share a state and take locks.**

A program is a tree of *atomic actions* on a shared state: an action updates the state at once and
chooses what the thread does next from the state it found.  Between two actions a thread may take
or give back a lock.  The same program is read in two ways:

* alone — `Conc.Prog.run` executes it to the end with nobody else running;
* among others — as a thread of a transition system, in `MotoCommon/ConcInterleave.lean`, where
  every action may be separated from the next by the actions of other threads.

Main definitions:

* `Conc.Prog` — programs, a monad with `Conc.Prog.bind`;
* `Conc.Prog.atomic`, `Conc.Prog.read`, `Conc.Prog.modify` — the atomic actions;
* `Conc.Prog.critical` — a block under a lock, given back however the block ends;
* `Conc.Prog.run` — the run of a program alone;
* `Conc.Prog.returns` — whether that run gets to its end, instead of waiting for a lock it holds;
* `Conc.Prog.leaves` — the locks it still holds then;
* `Conc.Prog.Triple` — pre- and postconditions of a run;
* `Conc.Prog.Within` — every action, in whatever state it happens, moves along a relation;
* `Conc.Prog.Upholds` — every action, in whatever state with a condition it happens, keeps it;
* `Conc.Prog.Performs` — the actions of a run.

Main results:

* `Conc.Prog.run_bind`, `Conc.Prog.run_critical` — how runs compose;
* `Conc.Prog.Triple.bind`, `Conc.Prog.Triple.critical`, `Conc.Prog.Triple.forEach` — the rules for
  pre- and postconditions;
* `Conc.Prog.Within.post` — a run moves along the relation too, when it is a preorder;
* `Conc.Prog.Upholds.performs` — every action that a run performs keeps the condition.
-/

import Mathlib.Data.List.Basic

set_option autoImplicit false

namespace Conc

/-- A program over locks `L` and shared state `S` that returns an `α`.  The continuation of an
action receives the state *before* the action. -/
inductive Prog (L S α : Type) : Type where
  | ret (a : α) : Prog L S α
  | act (f : S → S) (k : S → Prog L S α) : Prog L S α
  | lock (l : L) (k : Prog L S α) : Prog L S α
  | unlock (l : L) (k : Prog L S α) : Prog L S α

namespace Prog

variable {L S α β γ : Type}

/-! ### The monad -/

/-- Sequencing. -/
def bind : Prog L S α → (α → Prog L S β) → Prog L S β
  | ret a, g => g a
  | act f k, g => act f fun s => (k s).bind g
  | lock l k, g => lock l (k.bind g)
  | unlock l k, g => unlock l (k.bind g)

instance : Monad (Prog L S) where
  pure := ret
  bind := bind

/-- One atomic action that computes a value and the next state. -/
def atomic (f : S → α × S) : Prog L S α := act (fun s => (f s).2) fun s => ret (f s).1

/-- One atomic action that only looks at the state. -/
def read (g : S → α) : Prog L S α := act id fun s => ret (g s)

/-- One atomic action that only changes the state. -/
def modify (f : S → S) : Prog L S Unit := act f fun _ => ret ()

/-- A block under a lock. -/
def critical (l : L) (p : Prog L S α) : Prog L S α :=
  lock l (p.bind fun a => unlock l (ret a))

/-- A program under a condition. -/
def when (c : Bool) (p : Prog L S Unit) : Prog L S Unit := if c then p else ret ()

/-- A program once for each element of a list. -/
def forEach (f : β → Prog L S Unit) : List β → Prog L S Unit
  | [] => ret ()
  | b :: bs => (f b).bind fun _ => forEach f bs

@[simp] theorem pure_eq (a : α) : (pure a : Prog L S α) = ret a := rfl

@[simp] theorem bind_eq (p : Prog L S α) (g : α → Prog L S β) : p >>= g = p.bind g := rfl

theorem bind_ret_right (p : Prog L S α) : p.bind ret = p := by
  induction p with
  | ret a => rfl
  | act f k ih => simp only [bind, ih]
  | lock l k ih => simp only [bind, ih]
  | unlock l k ih => simp only [bind, ih]

theorem bind_assoc (p : Prog L S α) (g : α → Prog L S β) (h : β → Prog L S γ) :
    (p.bind g).bind h = p.bind fun a => (g a).bind h := by
  induction p with
  | ret a => rfl
  | act f k ih => simp only [bind, ih]
  | lock l k ih => simp only [bind, ih]
  | unlock l k ih => simp only [bind, ih]

/-! ### Running alone -/

/-- The run of a program with no other thread around: the value it returns and the state it
leaves.  Locks play no part in it; whether the run really comes to its end is `returns`. -/
def run : Prog L S α → S → α × S
  | ret a, s => (a, s)
  | act f k, s => (k s).run (f s)
  | lock _ k, s => k.run s
  | unlock _ k, s => k.run s

/-- The state a program leaves when it runs alone. -/
def post (p : Prog L S α) (s : S) : S := (p.run s).2

@[simp] theorem run_ret (a : α) (s : S) : (ret a : Prog L S α).run s = (a, s) := rfl

@[simp] theorem run_atomic (f : S → α × S) (s : S) : (atomic f : Prog L S α).run s = f s := rfl

@[simp] theorem run_read (g : S → α) (s : S) : (read g : Prog L S α).run s = (g s, s) := rfl

@[simp] theorem run_modify (f : S → S) (s : S) : (modify f : Prog L S Unit).run s = ((), f s) :=
  rfl

@[simp] theorem run_bind (p : Prog L S α) (g : α → Prog L S β) (s : S) :
    (p.bind g).run s = (g (p.run s).1).run (p.run s).2 := by
  induction p generalizing s with
  | ret a => rfl
  | act f k ih => exact ih s (f s)
  | lock l k ih => exact ih s
  | unlock l k ih => exact ih s

@[simp] theorem run_critical (l : L) (p : Prog L S α) (s : S) : (critical l p).run s = p.run s := by
  simp only [critical, run, run_bind]

@[simp] theorem when_true (p : Prog L S Unit) : when true p = p := rfl

/-- Whether the run of a program alone gets to its end when the thread already holds `held`: it
does not when the program asks for a lock the thread has. -/
def returns [DecidableEq L] : Prog L S α → List L → S → Bool
  | ret _, _, _ => true
  | act f k, held, s => (k s).returns held (f s)
  | lock l k, held, s => decide (l ∉ held) && k.returns (l :: held) s
  | unlock l k, held, s => k.returns (held.erase l) s

/-- The locks that the thread holds at the end of that run. -/
def leaves [DecidableEq L] : Prog L S α → List L → S → List L
  | ret _, held, _ => held
  | act f k, held, s => (k s).leaves held (f s)
  | lock l k, held, s => k.leaves (l :: held) s
  | unlock l k, held, s => k.leaves (held.erase l) s

/-! ### Pre- and postconditions -/

/-- Started in a state with `P`, the program leaves a value and a state with `Q`. -/
def Triple (P : S → Prop) (p : Prog L S α) (Q : α → S → Prop) : Prop :=
  ∀ s, P s → Q (p.run s).1 (p.run s).2

namespace Triple

variable {P P' : S → Prop} {Q Q' : α → S → Prop} {R : β → S → Prop}

theorem ret {a : α} (h : ∀ s, P s → Q a s) : Triple P (Prog.ret a : Prog L S α) Q := h

theorem atomic {f : S → α × S} (h : ∀ s, P s → Q (f s).1 (f s).2) :
    Triple P (Prog.atomic f : Prog L S α) Q := h

theorem read {g : S → α} (h : ∀ s, P s → Q (g s) s) : Triple P (Prog.read g : Prog L S α) Q := h

theorem modify {f : S → S} {Q : Unit → S → Prop} (h : ∀ s, P s → Q () (f s)) :
    Triple P (Prog.modify f : Prog L S Unit) Q := h

theorem bind {p : Prog L S α} {g : α → Prog L S β} (hp : Triple P p Q)
    (hg : ∀ a, Triple (Q a) (g a) R) : Triple P (p.bind g) R := by
  intro s hs
  rw [run_bind]
  exact hg _ _ (hp s hs)

theorem critical {l : L} {p : Prog L S α} (h : Triple P p Q) : Triple P (Prog.critical l p) Q := by
  intro s hs
  rw [run_critical]
  exact h s hs

theorem imp {p : Prog L S α} (h : Triple P' p Q') (hP : ∀ s, P s → P' s)
    (hQ : ∀ a s, Q' a s → Q a s) : Triple P p Q := fun s hs => hQ _ _ (h s (hP s hs))

theorem and {p : Prog L S α} (h : Triple P p Q) (h' : Triple P' p Q') :
    Triple (fun s => P s ∧ P' s) p fun a s => Q a s ∧ Q' a s :=
  fun s hs => ⟨h s hs.1, h' s hs.2⟩

theorem when {c : Bool} {p : Prog L S Unit} {Q : Unit → S → Prop}
    (hp : c = true → Triple P p Q) (hskip : c = false → ∀ s, P s → Q () s) :
    Triple P (Prog.when c p) Q := by
  cases c with
  | true => exact hp rfl
  | false => exact hskip rfl

/-- A condition that every round of a loop keeps is kept by the loop. -/
theorem forEach {f : β → Prog L S Unit} (h : ∀ b, Triple P (f b) fun _ => P) :
    ∀ bs : List β, Triple P (Prog.forEach f bs) fun _ => P
  | [] => Triple.ret fun _ hs => hs
  | b :: bs => Triple.bind (h b) fun _ => forEach h bs

end Triple

/-- The program returns `a`, whatever the state it runs in. -/
def Yields (a : α) (p : Prog L S α) : Prop := ∀ s, (p.run s).1 = a

theorem Yields.ret (a : α) : (Prog.ret a : Prog L S α).Yields a := fun _ => rfl

theorem Yields.bind {b : β} {p : Prog L S α} {g : α → Prog L S β} (h : ∀ a, (g a).Yields b) :
    (p.bind g).Yields b := by
  intro s
  rw [run_bind]
  exact h _ _

/-! ### What every action does -/

/-- Every action of the program, in whatever state it happens, moves along `G`. -/
def Within (G : S → S → Prop) : Prog L S α → Prop
  | ret _ => True
  | act f k => ∀ s, G s (f s) ∧ (k s).Within G
  | lock _ k => k.Within G
  | unlock _ k => k.Within G

namespace Within

variable {G G' : S → S → Prop}

theorem ret (a : α) : (Prog.ret a : Prog L S α).Within G := trivial

theorem atomic {f : S → α × S} (h : ∀ s, G s (f s).2) : (Prog.atomic f : Prog L S α).Within G :=
  fun s => ⟨h s, trivial⟩

theorem modify {f : S → S} (h : ∀ s, G s (f s)) : (Prog.modify f : Prog L S Unit).Within G :=
  fun s => ⟨h s, trivial⟩

theorem read {g : S → α} (h : ∀ s, G s s) : (Prog.read g : Prog L S α).Within G :=
  fun s => ⟨h s, trivial⟩

theorem bind {p : Prog L S α} {g : α → Prog L S β} (hp : p.Within G) (hg : ∀ a, (g a).Within G) :
    (p.bind g).Within G := by
  induction p with
  | ret a => exact hg a
  | act f k ih => exact fun s => ⟨(hp s).1, ih s (hp s).2⟩
  | lock l k ih => exact ih hp
  | unlock l k ih => exact ih hp

theorem critical {l : L} {p : Prog L S α} (hp : p.Within G) : (Prog.critical l p).Within G :=
  bind hp fun _ => trivial

theorem when {c : Bool} {p : Prog L S Unit} (hp : p.Within G) : (Prog.when c p).Within G := by
  cases c with
  | true => exact hp
  | false => trivial

theorem ite {c : Prop} [Decidable c] {p q : Prog L S α} (hp : p.Within G) (hq : q.Within G) :
    (if c then p else q).Within G := by
  by_cases hc : c
  · rwa [if_pos hc]
  · rwa [if_neg hc]

theorem forEach {f : β → Prog L S Unit} (h : ∀ b, (f b).Within G) :
    ∀ bs : List β, (Prog.forEach f bs).Within G
  | [] => trivial
  | b :: bs => bind (h b) fun _ => forEach h bs

theorem mono {p : Prog L S α} (hp : p.Within G) (h : ∀ s s', G s s' → G' s s') : p.Within G' := by
  induction p with
  | ret a => trivial
  | act f k ih => exact fun s => ⟨h _ _ (hp s).1, ih s (hp s).2⟩
  | lock l k ih => exact ih hp
  | unlock l k ih => exact ih hp

/-- A run moves along the relation, when it is a preorder. -/
theorem post {p : Prog L S α} (hp : p.Within G) (hrefl : ∀ s, G s s)
    (htrans : ∀ a b c, G a b → G b c → G a c) (s : S) : G s (p.post s) := by
  induction p generalizing s with
  | ret a => exact hrefl s
  | act f k ih => exact htrans _ _ _ (hp s).1 (ih s (hp s).2 (f s))
  | lock l k ih => exact ih hp s
  | unlock l k ih => exact ih hp s

/-- A condition that every action keeps is kept by a run. -/
theorem keeps {I : S → Prop} {p : Prog L S α} (hp : p.Within fun s s' => I s → I s') :
    Triple I p fun _ => I :=
  hp.post (fun _ hs => hs) fun _ _ _ h h' hs => h' (h hs)

/-- A part of the state that no action changes is not changed by a run. -/
theorem triple_eq {γ : Type} {f : S → γ} {p : Prog L S α}
    (hp : p.Within fun s s' => f s' = f s) (c : γ) :
    Triple (fun s => f s = c) p fun _ s => f s = c :=
  fun s hs => (hp.post (fun _ => rfl) (fun _ _ _ h h' => h'.trans h) s).trans hs

end Within

/-! ### Conditions that a program upholds -/

/-- In whatever state with `I` an action of the program happens, it leads to a state with `I`; and the
value that the program returns, which it may have from such states, is one with `Q`. -/
def Upholds (I : S → Prop) (Q : α → Prop) : Prog L S α → Prop
  | ret a => Q a
  | act f k => ∀ s, I s → I (f s) ∧ (k s).Upholds I Q
  | lock _ k => k.Upholds I Q
  | unlock _ k => k.Upholds I Q

/-- The run of the program alone from a state performs an action. -/
def Performs : Prog L S α → S → (S → S) → Prop
  | ret _, _, _ => False
  | act f k, s, g => g = f ∨ (k s).Performs (f s) g
  | lock _ k, s, g => k.Performs s g
  | unlock _ k, s, g => k.Performs s g

namespace Upholds

variable {I : S → Prop} {Q : α → Prop} {R : β → Prop}

theorem ret {a : α} (h : Q a) : (Prog.ret a : Prog L S α).Upholds I Q := h

theorem atomic {f : S → α × S} (h : ∀ s, I s → I (f s).2 ∧ Q (f s).1) :
    (Prog.atomic f : Prog L S α).Upholds I Q := h

theorem read {g : S → α} (h : ∀ s, I s → Q (g s)) : (Prog.read g : Prog L S α).Upholds I Q :=
  fun s hs => ⟨hs, h s hs⟩

theorem modify {f : S → S} {Q : Unit → Prop} (h : ∀ s, I s → I (f s)) (hQ : Q ()) :
    (Prog.modify f : Prog L S Unit).Upholds I Q :=
  fun s hs => ⟨h s hs, hQ⟩

theorem bind {p : Prog L S α} {g : α → Prog L S β} (hp : p.Upholds I Q)
    (hg : ∀ a, Q a → (g a).Upholds I R) : (p.bind g).Upholds I R := by
  induction p with
  | ret a => exact hg a hp
  | act f k ih => exact fun s hs => ⟨(hp s hs).1, ih s (hp s hs).2⟩
  | lock l k ih => exact ih hp
  | unlock l k ih => exact ih hp

theorem seq {p : Prog L S α} {g : α → Prog L S β} (hp : p.Upholds I fun _ => True)
    (hg : ∀ a, (g a).Upholds I R) : (p.bind g).Upholds I R :=
  bind hp fun a _ => hg a

theorem critical {l : L} {p : Prog L S α} (hp : p.Upholds I Q) : (Prog.critical l p).Upholds I Q :=
  bind hp fun _ hQ => hQ

/-- One action under a lock. -/
theorem guarded {l : L} {f : S → α × S} (h : ∀ s, I s → I (f s).2) :
    (Prog.critical l (Prog.atomic f)).Upholds I fun _ => True :=
  critical (atomic fun s hs => ⟨h s hs, trivial⟩)

theorem when {c : Bool} {p : Prog L S Unit} {Q : Unit → Prop} (hp : p.Upholds I Q) (hQ : Q ()) :
    (Prog.when c p).Upholds I Q := by
  cases c with
  | true => exact hp
  | false => exact hQ

theorem ite {c : Prop} [Decidable c] {p q : Prog L S α} (hp : p.Upholds I Q) (hq : q.Upholds I Q) :
    (if c then p else q).Upholds I Q := by
  by_cases hc : c
  · rwa [if_pos hc]
  · rwa [if_neg hc]

theorem forEach {f : β → Prog L S Unit} (h : ∀ b, (f b).Upholds I fun _ => True) :
    ∀ bs : List β, (Prog.forEach f bs).Upholds I fun _ => True
  | [] => trivial
  | b :: bs => bind (h b) fun _ _ => forEach h bs

/-- A program that upholds a condition keeps it when it runs alone. -/
theorem post {p : Prog L S α} (hp : p.Upholds I Q) {s : S} (hs : I s) : I (p.post s) := by
  induction p generalizing s with
  | ret a => exact hs
  | act f k ih => exact ih s (hp s hs).2 (hp s hs).1
  | lock l k ih => exact ih hp hs
  | unlock l k ih => exact ih hp hs

/-- An action that the program performs keeps the condition, also in states that the run does not pass
through. -/
theorem performs {p : Prog L S α} (hp : p.Upholds I Q) {s : S} (hs : I s) {f : S → S}
    (hf : p.Performs s f) {u : S} (hu : I u) : I (f u) := by
  induction p generalizing s with
  | ret a => exact hf.elim
  | act g k ih =>
      rcases hf with rfl | hf
      · exact (hp u hu).1
      · exact ih s (hp s hs).2 (hp s hs).1 hf
  | lock l k ih => exact ih hp hs hf
  | unlock l k ih => exact ih hp hs hf

end Upholds

namespace Performs

theorem atomic (f : S → α × S) (s : S) :
    (Prog.atomic f : Prog L S α).Performs s fun s => (f s).2 := Or.inl rfl

theorem bind_left {p : Prog L S α} {g : α → Prog L S β} {s : S} {f : S → S} (h : p.Performs s f) :
    (p.bind g).Performs s f := by
  induction p generalizing s with
  | ret a => exact h.elim
  | act e k ih =>
      rcases h with rfl | h
      · exact Or.inl rfl
      · exact Or.inr (ih s h)
  | lock l k ih => exact ih h
  | unlock l k ih => exact ih h

theorem bind_right {p : Prog L S α} {g : α → Prog L S β} {s : S} {f : S → S}
    (h : (g (p.run s).1).Performs (p.run s).2 f) : (p.bind g).Performs s f := by
  induction p generalizing s with
  | ret a => exact h
  | act e k ih => exact Or.inr (ih s h)
  | lock l k ih => exact ih h
  | unlock l k ih => exact ih h

theorem critical {l : L} {p : Prog L S α} {s : S} {f : S → S} (h : p.Performs s f) :
    (Prog.critical l p).Performs s f := bind_left h

end Performs

end Prog

end Conc
