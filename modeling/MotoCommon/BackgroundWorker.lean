/-
**The worker behind the timeout events** (`BackgroundWorker.h`, `BackgroundWorker.cpp`).

A `TemplatePriorityQueueWorker` keeps the packages that were given to it under ids of its own, and
hands only an id and a deadline to a pool of threads.  `schedule` takes the next id and stores the
package under the worker's lock, gives the lock back, and then reads the counter *again* for the id it
passes on.

The programs are those of the source, and the threads of all kinds may interleave them in any way.
The state has, next to the members of the two classes, a record of what was given to `schedule` and of
what was given to the callback, and of whether two calls of `schedule` ever overlapped.  What these
programs deliver is the subject of `MotoCommon/WorkerDelivery.lean`.

Main definitions:

* `Adpf.Worker` — the members of the worker and of its pool, and the records;
* `Adpf.Worker.schedule`, `Adpf.Worker.process`, `Adpf.Worker.loop` — the programs;
* `Adpf.Worker.Phase`, `Adpf.Worker.PhaseStep` — what a thread has in hand, and how that changes.

Main result:

* `Adpf.Worker.Phase.next` — **a step of a program is a step of its phase**.
-/

import MotoCommon.ConcInterleave
import MotoCommon.Containers

set_option autoImplicit false

namespace Adpf

open Conc

/-! ### The state -/

/-- The locks: `mMutex` of the worker and `mMutex` of the pool. -/
inductive WorkerLock where
  | workerMutex
  | poolMutex
  deriving DecidableEq, Repr

/-- `PriorityQueueWorkerPool::Package`, in a pool that has one worker. -/
structure Package where
  deadline : ℤ
  packageId : ℕ
  deriving DecidableEq, Repr

/-- A package that was given to `schedule` or to the callback: with its id and deadline. -/
structure Job (α : Type) where
  packageId : ℕ
  package : α
  deadline : ℤ
  deriving DecidableEq, Repr

/-- The worker and its pool. -/
structure Worker (α : Type) where
  mPackageIdCounter : ℕ := 0
  mPackages : UMap ℕ α := ∅
  mPackageQueue : List Package := []
  /-- What was given to `schedule` and what was given to `mCallback`, the latest first. -/
  scheduled : List (Job α) := []
  delivered : List (Job α) := []
  /-- How many calls of `schedule` have stored their package and not read the counter again. -/
  between : ℕ := 0
  /-- Whether a package was ever stored while another call was there. -/
  overlapped : Bool := false

namespace Worker

variable {α : Type}

/-- The first part of `schedule`.  `emplace` does nothing for an id that is in use. -/
def store (package : α) (t : ℤ) (w : Worker α) : Worker α :=
  let packageId := w.mPackageIdCounter + 1
  { w with
    mPackageIdCounter := packageId
    mPackages :=
      if packageId ∈ w.mPackages then w.mPackages else w.mPackages.insert packageId package
    scheduled := ⟨packageId, package, t⟩ :: w.scheduled
    between := w.between + 1
    overlapped := w.overlapped || decide (w.between ≠ 0) }

/-- The reading of `mPackageIdCounter` for the second part of `schedule`. -/
def readCounter (w : Worker α) : ℕ × Worker α :=
  (w.mPackageIdCounter, { w with between := w.between - 1 })

def emplace (p : Package) (w : Worker α) : Worker α :=
  { w with mPackageQueue := p :: w.mPackageQueue }

/-- `top` and `pop` of the queue: the entry at index `i`, if there is none with an earlier deadline. -/
def pop (i : ℕ) (w : Worker α) : Option Package × Worker α :=
  match w.mPackageQueue[i]? with
  | none => (none, w)
  | some p =>
      if ∀ q ∈ w.mPackageQueue, p.deadline ≤ q.deadline then
        (some p, { w with mPackageQueue := w.mPackageQueue.eraseIdx i })
      else (none, w)

/-- The section of `process`: the package is taken out, if it is there. -/
def take (packageId : ℕ) (w : Worker α) : Option α × Worker α :=
  match w.mPackages.lookup packageId with
  | none => (none, w)
  | some package => (some package, { w with mPackages := w.mPackages.erase packageId })

theorem pop_cases (i : ℕ) (w : Worker α) : w.pop i = (none, w) ∨
    ∃ p, w.mPackageQueue[i]? = some p ∧
      w.pop i = (some p, { w with mPackageQueue := w.mPackageQueue.eraseIdx i }) := by
  unfold pop
  cases w.mPackageQueue[i]? with
  | none => exact Or.inl rfl
  | some p =>
      dsimp only
      split
      · exact Or.inr ⟨p, rfl, rfl⟩
      · exact Or.inl rfl

theorem take_none {packageId : ℕ} {w : Worker α} (h : w.mPackages.lookup packageId = none) :
    w.take packageId = (none, w) := by
  simp only [take, h]

theorem take_some {packageId : ℕ} {w : Worker α} {package : α}
    (h : w.mPackages.lookup packageId = some package) :
    w.take packageId = (some package, { w with mPackages := w.mPackages.erase packageId }) := by
  simp only [take, h]

/-- `mCallback(package)`. -/
def deliver (job : Job α) (w : Worker α) : Worker α := { w with delivered := job :: w.delivered }

/-! ### The programs -/

/-- Programs of the worker. -/
abbrev WorkerProg (α β : Type) : Type := Prog WorkerLock (Worker α) β

/-- `PriorityQueueWorkerPool::schedule`. -/
def poolSchedule (packageId : ℕ) (t : ℤ) : WorkerProg α Unit :=
  Prog.critical .poolMutex (Prog.modify (emplace ⟨t, packageId⟩))

/-- `TemplatePriorityQueueWorker::schedule`. -/
def schedule (package : α) (t : ℤ) : WorkerProg α Unit := do
  Prog.critical .workerMutex (Prog.modify (store package t))
  let packageId ← Prog.atomic readCounter
  poolSchedule packageId t

/-- The callback, with a package that `process` has taken out. -/
def callback (p : Package) (package : α) : WorkerProg α Unit :=
  Prog.modify (deliver ⟨p.packageId, package, p.deadline⟩)

/-- `TemplatePriorityQueueWorker::process`. -/
def process (p : Package) : WorkerProg α Unit := do
  let package ← Prog.critical .workerMutex (Prog.atomic (take p.packageId))
  package.elim (pure ()) (callback p)

/-- One round of `PriorityQueueWorkerPool::loop`, once the wait for a deadline is over. -/
def loop (i : ℕ) : WorkerProg α Unit := do
  let p ← Prog.critical .poolMutex (Prog.atomic (pop i))
  p.elim (pure ()) process

/-- Every thread may schedule packages, and run the loop of the pool. -/
def Starts {ι : Type} (_ : ι) (p : WorkerProg α Unit) : Prop :=
  (∃ package t, p = schedule package t) ∨ ∃ i, p = loop i

/-- All calls are over and the queue is empty. -/
def Drained {ι : Type} (c : Config ι WorkerLock (Worker α)) : Prop :=
  (∀ i, (c.threads i).prog = Prog.ret ()) ∧ c.state.mPackageQueue = []

/-! ### What a thread has in hand -/

/-- What a thread has in hand: nothing; a package that it has stored; an id that it will pass to the
pool; an entry of the queue; a package for the callback. -/
inductive Phase (α : Type) where
  | free
  | stored (packageId : ℕ) (deadline : ℤ)
  | submits (p : Package)
  | popped (p : Package)
  | taken (job : Job α)

/-- How a step of a thread changes what it has in hand, and the state. -/
inductive PhaseStep : Phase α → Worker α → Phase α → Worker α → Prop
  | skip (ph : Phase α) (w : Worker α) : PhaseStep ph w ph w
  | store (package : α) (t : ℤ) (w : Worker α) :
      PhaseStep .free w (.stored (w.mPackageIdCounter + 1) t) (w.store package t)
  | read (packageId : ℕ) (t : ℤ) (w : Worker α) :
      PhaseStep (.stored packageId t) w (.submits ⟨t, w.mPackageIdCounter⟩) w.readCounter.2
  | emplace (p : Package) (w : Worker α) : PhaseStep (.submits p) w .free (w.emplace p)
  | pop (p : Package) (w : Worker α) (i : ℕ) : w.mPackageQueue[i]? = some p →
      PhaseStep .free w (.popped p) { w with mPackageQueue := w.mPackageQueue.eraseIdx i }
  | drop (p : Package) (w : Worker α) : w.mPackages.lookup p.packageId = none →
      PhaseStep (.popped p) w .free w
  | take (p : Package) (package : α) (w : Worker α) :
      w.mPackages.lookup p.packageId = some package →
      PhaseStep (.popped p) w (.taken ⟨p.packageId, package, p.deadline⟩)
        { w with mPackages := w.mPackages.erase p.packageId }
  | deliver (job : Job α) (w : Worker α) : PhaseStep (.taken job) w .free (w.deliver job)

/-- What is left of `schedule` once the package is stored. -/
def storedRest (t : ℤ) : WorkerProg α Unit :=
  (Prog.atomic readCounter).bind fun packageId => poolSchedule packageId t

/-- What the rest of a program may be, for what its thread has in hand. -/
def Phase.Rest : Phase α → WorkerProg α Unit → Prop
  | .free, p =>
      p = Prog.ret () ∨ (∃ l, p = Prog.unlock l (Prog.ret ())) ∨
        (∃ package t, p = schedule package t ∨
          p = Prog.act (store package t) fun _ => Prog.unlock .workerMutex (storedRest t)) ∨
        ∃ i, p = loop i ∨
          p = Prog.act (fun w => (w.pop i).2) fun w =>
            Prog.unlock .poolMutex ((w.pop i).1.elim (Prog.ret ()) process)
  | .stored _ t, p => p = Prog.unlock .workerMutex (storedRest t) ∨ p = storedRest t
  | .submits q, p =>
      p = poolSchedule q.packageId q.deadline ∨
        p = Prog.act (emplace q) fun _ => Prog.unlock .poolMutex (Prog.ret ())
  | .popped q, p =>
      p = Prog.unlock .poolMutex (process q) ∨ p = process q ∨
        p = Prog.act (fun w => (w.take q.packageId).2) fun w =>
          Prog.unlock .workerMutex ((w.take q.packageId).1.elim (Prog.ret ()) (callback q))
  | .taken job, p =>
      p = Prog.unlock .workerMutex (Prog.modify (deliver job)) ∨ p = Prog.modify (deliver job)

/-- A program that is over has nothing in hand. -/
theorem Phase.eq_free {ph : Phase α} (h : ph.Rest (Prog.ret ())) : ph = .free := by
  cases ph with
  | free => rfl
  | stored packageId t => rcases h with h | h <;> cases h
  | submits q => rcases h with h | h <;> cases h
  | popped q => rcases h with h | h | h <;> cases h
  | taken job => rcases h with h | h <;> cases h

theorem Phase.rest_of_starts {ι : Type} {i : ι} {p : WorkerProg α Unit} (h : Starts i p) :
    (Phase.free : Phase α).Rest p := by
  rcases h with ⟨package, t, rfl⟩ | ⟨i, rfl⟩
  · exact Or.inr (Or.inr (Or.inl ⟨package, t, Or.inl rfl⟩))
  · exact Or.inr (Or.inr (Or.inr ⟨i, Or.inl rfl⟩))

/-- **A step of a program is a step of its phase.** -/
theorem Phase.next {ph : Phase α} {p p' : WorkerProg α Unit} {w w' : Worker α} (hp : ph.Rest p)
    (h : p.Next w p' w') : ∃ ph' : Phase α, ph'.Rest p' ∧ PhaseStep ph w ph' w' := by
  cases ph with
  | free =>
      rcases hp with rfl | ⟨l, rfl⟩ | ⟨package, t, rfl | rfl⟩ | ⟨i, rfl | rfl⟩
      · cases h
      · cases h
        exact ⟨.free, Or.inl rfl, .skip _ _⟩
      · cases h
        exact ⟨.free, Or.inr (Or.inr (Or.inl ⟨package, t, Or.inr rfl⟩)), .skip _ _⟩
      · cases h
        exact ⟨.stored _ t, Or.inl rfl, .store package t w⟩
      · cases h
        exact ⟨.free, Or.inr (Or.inr (Or.inr ⟨i, Or.inr rfl⟩)), .skip _ _⟩
      · cases h
        dsimp only
        rcases pop_cases i w with heq | ⟨q, hq, heq⟩
        · rw [heq]
          exact ⟨.free, Or.inr (Or.inl ⟨_, rfl⟩), .skip _ _⟩
        · rw [heq]
          exact ⟨.popped q, Or.inl rfl, .pop q w i hq⟩
  | stored packageId t =>
      rcases hp with rfl | rfl
      · cases h
        exact ⟨.stored packageId t, Or.inr rfl, .skip _ _⟩
      · cases h
        exact ⟨.submits ⟨t, w.mPackageIdCounter⟩, Or.inl rfl, .read packageId t w⟩
  | submits q =>
      rcases hp with rfl | rfl
      · cases h
        exact ⟨.submits q, Or.inr rfl, .skip _ _⟩
      · cases h
        exact ⟨.free, Or.inr (Or.inl ⟨_, rfl⟩), .emplace q w⟩
  | popped q =>
      rcases hp with rfl | rfl | rfl
      · cases h
        exact ⟨.popped q, Or.inr (Or.inl rfl), .skip _ _⟩
      · cases h
        exact ⟨.popped q, Or.inr (Or.inr rfl), .skip _ _⟩
      · cases h
        dsimp only
        cases hl : w.mPackages.lookup q.packageId with
        | none =>
            rw [take_none hl]
            exact ⟨.free, Or.inr (Or.inl ⟨_, rfl⟩), .drop q w hl⟩
        | some package =>
            rw [take_some hl]
            exact ⟨.taken ⟨q.packageId, package, q.deadline⟩, Or.inl rfl, .take q package w hl⟩
  | taken job =>
      rcases hp with rfl | rfl
      · cases h
        exact ⟨.taken job, Or.inr rfl, .skip _ _⟩
      · cases h
        exact ⟨.free, Or.inl rfl, .deliver job w⟩

end Worker

end Adpf
