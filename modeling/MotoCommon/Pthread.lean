/-
**Threads with mutexes, condition waits and joins.**

A small language for programs on the threads of the system: besides mutexes it has attempts to take a
mutex, timed waits on a condition variable, the creation of threads, and joins.  A wait on a condition
variable gives its mutex back and asks for it again when it is over, which may be at any time.  The
outcomes of what a program asks of its environment are chosen freely, loops are jumps to an entry of the
program text, and a signal handler may change the shared state between any two steps.

The threads that are there from the start and those that are created are told apart by their names, so
that only a thread that was created can be joined.  Each of the two kinds follows rules: which mutexes
may be asked for, and under which a thread may be joined.  When the mutexes are asked for in a fixed
order, waiting closes into a circle only through a join.

Main definitions:

* `Pthread.Code`, `Pthread.Config`, `Pthread.Step`, `Pthread.Reach` — programs and their steps;
* `Pthread.Code.Obeys`, `Pthread.Discipline` — the rules of a program, and of all threads;
* `Pthread.Config.WaitsFor` — a thread asks for a mutex that another holds, or joins it.

Main results:

* `Pthread.Reach.obeys` — threads that start by the rules keep to them in every interleaving;
* `Pthread.Config.Obeys.circle_joins` — **every circle of waiting threads goes through a join**.
-/

import Mathlib.Data.Nat.Notation
import Mathlib.Logic.Function.Basic
import Mathlib.Logic.Relation

set_option autoImplicit false

namespace Pthread

/-! ### Programs -/

/-- What a thread still has to do.  `ω` names the threads that are created, `L` the mutexes, `E` the
entries of the program text, and `S` is the shared state. -/
inductive Code (ω L E S : Type) : Type 1
  /-- There is no such thread. -/
  | free
  /-- The thread has ended, and has not been joined. -/
  | halt
  | goto (e : E)
  | lock (l : L) (next : Code ω L E S)
  | unlock (l : L) (next : Code ω L E S)
  /-- The continuation gets whether the mutex was taken. -/
  | trylock (l : L) (next : Bool → Code ω L E S)
  /-- A timed wait under a mutex.  The continuation gets whether the time ran out. -/
  | condwait (l : L) (next : Bool → Code ω L E S)
  /-- In such a wait. -/
  | asleep (l : L) (next : Bool → Code ω L E S)
  | create (e : E) (next : Option ω → Code ω L E S)
  | join (j : ω) (next : Code ω L E S)
  /-- An atomic action.  The continuation gets the state before. -/
  | act (f : S → S) (next : S → Code ω L E S)
  /-- Something that the environment decides. -/
  | choose {α : Type} (next : α → Code ω L E S)

/-- A thread: the mutexes it holds, the last one taken first, and what it still has to do. -/
structure Thread (ω L E S : Type) where
  held : List L
  code : Code ω L E S

/-- The shared state and the threads, those of `ι` from the start and those of `ω` created. -/
structure Config (ι ω L E S : Type) where
  state : S
  threads : ι ⊕ ω → Thread ω L E S

variable {ι ω L E S : Type}

/-- Some thread holds the mutex. -/
def Config.Owned (c : Config ι ω L E S) (l : L) : Prop := ∃ i, l ∈ (c.threads i).held

section Steps

variable [DecidableEq ι] [DecidableEq ω] [DecidableEq L]

/-- A step of a thread that concerns no other thread. -/
inductive Next (text : E → Code ω L E S) (owned : L → Prop) :
    Thread ω L E S → S → Thread ω L E S → S → Prop
  | goto {held : List L} {e : E} {s : S} :
      Next text owned ⟨held, .goto e⟩ s ⟨held, text e⟩ s
  | lock {held : List L} {l : L} {next : Code ω L E S} {s : S} : ¬ owned l →
      Next text owned ⟨held, .lock l next⟩ s ⟨l :: held, next⟩ s
  | unlock {held : List L} {l : L} {next : Code ω L E S} {s : S} :
      Next text owned ⟨held, .unlock l next⟩ s ⟨held.erase l, next⟩ s
  | taken {held : List L} {l : L} {next : Bool → Code ω L E S} {s : S} : ¬ owned l →
      Next text owned ⟨held, .trylock l next⟩ s ⟨l :: held, next true⟩ s
  | busy {held : List L} {l : L} {next : Bool → Code ω L E S} {s : S} : owned l →
      Next text owned ⟨held, .trylock l next⟩ s ⟨held, next false⟩ s
  | sleep {held : List L} {l : L} {next : Bool → Code ω L E S} {s : S} :
      Next text owned ⟨held, .condwait l next⟩ s ⟨held.erase l, .asleep l next⟩ s
  | wake {held : List L} {l : L} {next : Bool → Code ω L E S} {s : S} (timedOut : Bool) :
      Next text owned ⟨held, .asleep l next⟩ s ⟨held, .lock l (next timedOut)⟩ s
  | fail {held : List L} {e : E} {next : Option ω → Code ω L E S} {s : S} :
      Next text owned ⟨held, .create e next⟩ s ⟨held, next none⟩ s
  | act {held : List L} {f : S → S} {next : S → Code ω L E S} {s : S} :
      Next text owned ⟨held, .act f next⟩ s ⟨held, next s⟩ (f s)
  | choose {held : List L} {α : Type} {next : α → Code ω L E S} {s : S} (a : α) :
      Next text owned ⟨held, .choose next⟩ s ⟨held, next a⟩ s

/-- A step of a configuration. -/
inductive Step (text : E → Code ω L E S) (handler : S → Option S) :
    Config ι ω L E S → Config ι ω L E S → Prop
  | thread {c : Config ι ω L E S} {t : Thread ω L E S} {s : S} (i : ι ⊕ ω) :
      Next text c.Owned (c.threads i) c.state t s →
      Step text handler c ⟨s, Function.update c.threads i t⟩
  | create {c : Config ι ω L E S} {held : List L} {e : E} {next : Option ω → Code ω L E S}
      (i : ι ⊕ ω) (j : ω) : c.threads i = ⟨held, .create e next⟩ → c.threads (.inr j) = ⟨[], .free⟩ →
      Step text handler c ⟨c.state, Function.update
        (Function.update c.threads (.inr j) ⟨[], text e⟩) i ⟨held, next (some j)⟩⟩
  | join {c : Config ι ω L E S} {held : List L} {next : Code ω L E S} (i : ι ⊕ ω) (j : ω) :
      c.threads i = ⟨held, .join j next⟩ →
      (c.threads (.inr j)).code = .halt ∨ (c.threads (.inr j)).code = .free →
      Step text handler c ⟨c.state, Function.update
        (Function.update c.threads (.inr j) ⟨(c.threads (.inr j)).held, .free⟩) i ⟨held, next⟩⟩
  | signal {c : Config ι ω L E S} {s : S} : handler c.state = some s →
      Step text handler c ⟨s, c.threads⟩

/-- The configurations that some interleaving leads to. -/
def Reach (text : E → Code ω L E S) (handler : S → Option S) :
    Config ι ω L E S → Config ι ω L E S → Prop :=
  Relation.ReflTransGen (Step text handler)

end Steps

/-! ### Rules -/

/-- The rules of a thread: which mutexes it holds at the entries, which ones it may ask for and under
which ones it may join a thread, and with which entries it may create one. -/
structure Rules (L E : Type) where
  enters : E → List L → Prop
  asks : List L → L → Prop
  joins : List L → Prop
  creates : E → Prop

/-- On every path from `held` the program keeps to the rules, gives back only what it holds, and ends
with no mutex. -/
def Code.Obeys [DecidableEq L] (R : Rules L E) : List L → Code ω L E S → Prop
  | held, free => held = []
  | held, halt => held = []
  | held, goto e => R.enters e held
  | held, lock l next => R.asks held l ∧ next.Obeys R (l :: held)
  | held, unlock l next => l ∈ held ∧ next.Obeys R (held.erase l)
  | held, trylock l next => (next true).Obeys R (l :: held) ∧ (next false).Obeys R held
  | held, condwait l next =>
      l ∈ held ∧ R.asks (held.erase l) l ∧ ∀ b, (next b).Obeys R (l :: held.erase l)
  | held, asleep l next => R.asks held l ∧ ∀ b, (next b).Obeys R (l :: held)
  | held, create e next => R.creates e ∧ ∀ j, (next j).Obeys R held
  | held, join _ next => R.joins held ∧ next.Obeys R held
  | held, act _ next => ∀ s, (next s).Obeys R held
  | held, choose next => ∀ a, (next a).Obeys R held

/-- The rules of all threads. -/
structure Discipline (L E : Type) where
  first : Rules L E
  created : Rules L E

/-- The rules of a thread. -/
def Discipline.rules (D : Discipline L E) : ι ⊕ ω → Rules L E
  | .inl _ => D.first
  | .inr _ => D.created

variable [DecidableEq L] {D : Discipline L E} {text : E → Code ω L E S} {handler : S → Option S}

/-- The program text keeps to the rules, from every entry. -/
structure Discipline.Covers (D : Discipline L E) (text : E → Code ω L E S) : Prop where
  first : ∀ e held, D.first.enters e held → (text e).Obeys D.first held
  created : ∀ e held, D.created.enters e held → (text e).Obeys D.created held
  starts : ∀ e, D.first.creates e ∨ D.created.creates e → D.created.enters e []

theorem Discipline.Covers.entry (h : D.Covers text) (i : ι ⊕ ω) {e : E} {held : List L}
    (he : (D.rules i).enters e held) : (text e).Obeys (D.rules i) held := by
  cases i with
  | inl i => exact h.first e held he
  | inr j => exact h.created e held he

theorem Discipline.Covers.start (h : D.Covers text) (i : ι ⊕ ω) {e : E}
    (he : (D.rules i).creates e) : (text e).Obeys D.created [] := by
  refine h.created e [] (h.starts e ?_)
  cases i with
  | inl i => exact Or.inl he
  | inr j => exact Or.inr he

/-- A thread that keeps to some rules. -/
def Thread.Obeys (R : Rules L E) (t : Thread ω L E S) : Prop := t.code.Obeys R t.held

/-- Every thread keeps to its rules. -/
def Config.Obeys (D : Discipline L E) (c : Config ι ω L E S) : Prop :=
  ∀ i, (c.threads i).Obeys (D.rules i)

theorem Next.obeys (hD : D.Covers text) (i : ι ⊕ ω) {owned : L → Prop} {t t' : Thread ω L E S}
    {s s' : S} (h : Next text owned t s t' s') (ht : t.Obeys (D.rules i)) :
    t'.Obeys (D.rules i) := by
  cases h with
  | goto => exact hD.entry i ht
  | lock _ => exact ht.2
  | unlock => exact ht.2
  | taken _ => exact ht.1
  | busy _ => exact ht.2
  | sleep => exact ht.2
  | wake timedOut => exact ⟨ht.1, ht.2 timedOut⟩
  | fail => exact ht.2 none
  | act => exact ht _
  | choose a => exact ht a

variable [DecidableEq ι] [DecidableEq ω] {c c' : Config ι ω L E S}

theorem Config.Obeys.update (hc : c.Obeys D) {i : ι ⊕ ω} {t : Thread ω L E S}
    (ht : t.Obeys (D.rules i)) (s : S) :
    Config.Obeys D ⟨s, Function.update c.threads i t⟩ := by
  intro j
  dsimp only
  by_cases hj : j = i
  · subst hj
    rw [Function.update_self]
    exact ht
  · rw [Function.update_of_ne hj]
    exact hc j

/-- **One step** keeps all threads to their rules. -/
theorem Step.obeys (hD : D.Covers text) (h : Step text handler c c') (hc : c.Obeys D) :
    c'.Obeys D := by
  cases h with
  | thread i hnext => exact hc.update (hnext.obeys hD i (hc i)) _
  | @create held e next i j hi hj =>
      have hcode := hc i
      rw [hi] at hcode
      have hrest : Thread.Obeys (D.rules i) ⟨held, next (some j)⟩ := hcode.2 (some j)
      have hnew : Thread.Obeys (D.rules (Sum.inr j : ι ⊕ ω)) ⟨[], _⟩ := hD.start i hcode.1
      exact (hc.update hnew c.state).update hrest c.state
  | @join held next i j hi hj =>
      have hcode := hc i
      rw [hi] at hcode
      have hrest : Thread.Obeys (D.rules i) ⟨held, next⟩ := hcode.2
      have hgone : Thread.Obeys (D.rules (Sum.inr j : ι ⊕ ω))
          (⟨(c.threads (.inr j)).held, .free⟩ : Thread ω L E S) := by
        have hended := hc (.inr j)
        unfold Thread.Obeys at hended
        rcases hj with hj | hj
        · rw [hj] at hended
          exact hended
        · rw [hj] at hended
          exact hended
      exact (hc.update hgone c.state).update hrest c.state
  | signal _ => exact hc

/-- **Every interleaving** does. -/
theorem Reach.obeys (hD : D.Covers text) (h : Reach text handler c c') (hc : c.Obeys D) :
    c'.Obeys D := by
  induction h with
  | refl => exact hc
  | tail _ hstep ih => exact hstep.obeys hD ih

/-! ### Waiting -/

namespace Config

omit [DecidableEq L] [DecidableEq ι] [DecidableEq ω]

/-- Thread `i` asks for a mutex that thread `j` holds. -/
def AsksFor (c : Config ι ω L E S) (i j : ι ⊕ ω) : Prop :=
  ∃ l next, (c.threads i).code = .lock l next ∧ l ∈ (c.threads j).held

/-- Thread `i` is about to join thread `j`, and waits for its end if it has not come. -/
def Joins (c : Config ι ω L E S) (i : ι ⊕ ω) (j : ω) : Prop :=
  ∃ next, (c.threads i).code = .join j next

/-- Thread `i` waits for thread `j`, for a mutex or for its end. -/
def WaitsFor (c : Config ι ω L E S) (i j : ι ⊕ ω) : Prop :=
  c.AsksFor i j ∨ ∃ k, j = .inr k ∧ c.Joins i k

/-- A thread that joins another waits for nothing else. -/
theorem Joins.eq_of_waitsFor {i j : ι ⊕ ω} {k : ω} (h : c.Joins i k) (hw : c.WaitsFor i j) :
    j = .inr k := by
  obtain ⟨next, hcode⟩ := h
  rcases hw with ⟨l, next', hlock, -⟩ | ⟨k', rfl, next', hjoin⟩
  · rw [hcode] at hlock
    cases hlock
  · rw [hcode] at hjoin
    cases hjoin
    rfl

/-- A thread on a circle waits for a thread on a circle. -/
theorem exists_waitsFor_of_circle {i : ι ⊕ ω} (h : Relation.TransGen c.WaitsFor i i) :
    ∃ j, c.WaitsFor i j ∧ Relation.TransGen c.WaitsFor j j := by
  obtain ⟨j, hij, hji⟩ := Relation.TransGen.head'_iff.1 h
  exact ⟨j, hij, Relation.TransGen.tail' hji hij⟩

variable [DecidableEq L]

/-- What a thread that asks for a mutex may ask for. -/
theorem Obeys.asks (hc : c.Obeys D) {i j : ι ⊕ ω} (h : c.AsksFor i j) :
    ∃ l, (D.rules i).asks (c.threads i).held l ∧ l ∈ (c.threads j).held := by
  obtain ⟨l, next, hcode, hmem⟩ := h
  have hi := hc i
  rw [Thread.Obeys, hcode] at hi
  exact ⟨l, hi.1, hmem⟩

theorem Obeys.joins (hc : c.Obeys D) {i : ι ⊕ ω} {j : ω} (h : c.Joins i j) :
    (D.rules i).joins (c.threads i).held := by
  obtain ⟨next, hcode⟩ := h
  have hi := hc i
  rw [Thread.Obeys, hcode] at hi
  exact hi.1

/-- Along threads that ask for mutexes, the last one asked for ranks above the first. -/
theorem Obeys.rank_le_of_waits (hc : c.Obeys D) {rank : L → ℕ}
    (hrank : ∀ (i : ι ⊕ ω) held l, (D.rules i).asks held l → ∀ h ∈ held, rank h < rank l)
    {i j : ι ⊕ ω} {l : L} {next : Code ω L E S} (hi : (c.threads i).code = .lock l next)
    (hasks : ∀ x y, Relation.TransGen c.WaitsFor x x → c.WaitsFor x y → c.AsksFor x y)
    (h : Relation.TransGen c.WaitsFor i j) (hback : Relation.ReflTransGen c.WaitsFor j i) :
    ∃ l' ∈ (c.threads j).held, rank l ≤ rank l' := by
  induction h with
  | @single j hij =>
      obtain ⟨l', next', hcode, hmem⟩ := hasks i j (Relation.TransGen.head' hij hback) hij
      rw [hi] at hcode
      cases hcode
      exact ⟨l, hmem, Nat.le_refl _⟩
  | @tail b d hib hbd ih =>
      obtain ⟨lb, hlb, hle⟩ := ih (Relation.ReflTransGen.head hbd hback)
      have hcircle : Relation.TransGen c.WaitsFor b b :=
        (Relation.TransGen.head' hbd hback).trans hib
      obtain ⟨l', hask, hmem⟩ := hc.asks (hasks b d hcircle hbd)
      exact ⟨l', hmem, Nat.le_of_lt (Nat.lt_of_le_of_lt hle (hrank b _ l' hask lb hlb))⟩

/-- **Every circle of waiting threads goes through a join**, when mutexes are asked for in a fixed
order. -/
theorem Obeys.circle_joins (hc : c.Obeys D) {rank : L → ℕ}
    (hrank : ∀ (i : ι ⊕ ω) held l, (D.rules i).asks held l → ∀ h ∈ held, rank h < rank l)
    {i : ι ⊕ ω} (h : Relation.TransGen c.WaitsFor i i) :
    ∃ j k, c.Joins j k ∧ Relation.TransGen c.WaitsFor (.inr k) (.inr k) := by
  by_contra hno
  have hasks : ∀ x y, Relation.TransGen c.WaitsFor x x → c.WaitsFor x y → c.AsksFor x y := by
    intro x y hx hxy
    rcases hxy with hask | ⟨k, rfl, hjoin⟩
    · exact hask
    · obtain ⟨z, hxz, hz⟩ := exists_waitsFor_of_circle hx
      obtain rfl := hjoin.eq_of_waitsFor hxz
      exact absurd ⟨x, k, hjoin, hz⟩ hno
  obtain ⟨j, hij, -⟩ := exists_waitsFor_of_circle h
  obtain ⟨l, next, hcode, -⟩ := hasks i j h hij
  obtain ⟨l', hmem, hle⟩ := hc.rank_le_of_waits hrank hcode hasks h .refl
  -- the mutex that `i` asks for ranks above all that it holds
  have hi := hc i
  rw [Thread.Obeys, hcode] at hi
  exact absurd (hrank i _ l hi.1 l' hmem) (Nat.not_lt.2 hle)

end Config

end Pthread
