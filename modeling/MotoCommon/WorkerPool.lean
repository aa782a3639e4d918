/-
**The threads of the worker pool** (`PriorityQueueWorkerPool` in `BackgroundWorker.h` and
`BackgroundWorker.cpp`).

Each thread of the pool waits until the deadline of the first package in the queue, takes it out and
works on it.  The wait is `wait_until` with a predicate: the thread sleeps until the predicate holds or
the wait times out, where the predicate itself writes the deadline that the thread waits for next.  The
result of `wait_until` is not looked at, so a thread whose wait timed out goes on even if the predicate
does not hold: which it does not when another thread has taken the package in the meantime.

What a thread does between taking `mMutex` and giving it back is one step here; a thread that sleeps is
woken by a notification, or without one, or because its time is over.

Main definitions:

* `WorkerPool.Pool` — the members, where each thread is, the clock, and a record of the packages taken;
* `WorkerPool.Pool.predicate`, `WorkerPool.Pool.afterWait` — the predicate, and what follows the wait;
* `WorkerPool.Label`, `WorkerPool.step` — what can happen, and what it does.

Main results:

* `WorkerPool.step_happens` — **what a step does**;
* `WorkerPool.pool_never_early_iff` — **whole runs**: packages are taken in the order of their
  deadlines, and never early exactly if there is one thread.
-/

import Mathlib.Algebra.Group.Int.Defs
import Mathlib.Data.Fintype.Basic
import Mathlib.Logic.Function.Basic
import MotoCommon.LabelledRuns

set_option autoImplicit false

namespace WorkerPool

/-! ### The pool -/

/-- `steady_clock::time_point::max()`. -/
def timePointMax : ℤ := 2 ^ 63 - 1

/-- `PriorityQueueWorkerPool::Package`.  No deadline is after the last time point. -/
structure Package where
  deadline : ℤ
  templateQueueWorkerId : ℤ := 0
  packageId : ℤ := 0
  deadline_le : deadline ≤ timePointMax
  deriving DecidableEq

/-- Where a thread is: at the head of `loop`; asleep, with the value of its variable `deadline`; woken up
by a notification or because its time is over, but without the lock; in the callback; at its end. -/
inductive Point where
  | head
  | waiting (deadline : ℤ)
  | notified (deadline : ℤ)
  | timedOut (deadline : ℤ)
  | callback (package : Package)
  | ended
  deriving DecidableEq

/-- A package that was taken out of the queue, with the time and the queue it was taken from. -/
structure Pop where
  package : Package
  time : ℤ
  queue : List Package
  deriving DecidableEq

/-- The pool, with the clock and the packages that were taken, the latest first. -/
structure Pool (ι : Type) where
  mRunning : Bool := true
  mPackageQueue : List Package := []
  mThreadPool : ι → Point := fun _ => .head
  now : ℤ
  pops : List Pop := []

/-- The constructor: every thread begins its loop. -/
def PriorityQueueWorkerPool (threadCount : ℕ) (now : ℤ) : Pool (Fin threadCount) := { now := now }

variable {ι : Type}

namespace Pool

/-- `mPackageQueue.top().deadline`, if the queue is not empty: the earliest one. -/
def topDeadline (s : Pool ι) : Option ℤ := (s.mPackageQueue.map Package.deadline).min?

/-- The predicate of the wait: whether it holds, and what it writes to `deadline`. -/
def predicate (s : Pool ι) (deadline : ℤ) : Bool × ℤ :=
  if s.mRunning = false then (true, deadline)
  else
    match s.topDeadline with
    | none => (false, timePointMax)
    | some top => if top > s.now then (false, top) else (true, top)

variable [DecidableEq ι]

/-- A thread goes somewhere. -/
def move (i : ι) (point : Point) (s : Pool ι) : Pool ι :=
  { s with mThreadPool := Function.update s.mThreadPool i point }

theorem move_self (i : ι) (point : Point) (s : Pool ι) : (s.move i point).mThreadPool i = point := by
  simp [move]

theorem move_of_ne {i j : ι} (h : j ≠ i) (point : Point) (s : Pool ι) :
    (s.move i point).mThreadPool j = s.mThreadPool j := by
  simp [move, h]

/-- The package at index `k` is taken out, by thread `i`. -/
def take (i : ι) (k : ℕ) (package : Package) (s : Pool ι) : Pool ι :=
  { s with
    mPackageQueue := s.mPackageQueue.eraseIdx k
    mThreadPool := Function.update s.mThreadPool i (.callback package)
    pops := ⟨package, s.now, s.mPackageQueue⟩ :: s.pops }

/-- `top` and `pop`.  Which of several packages with the earliest deadline is on top is not said. -/
def pop (i : ι) (k : ℕ) (s : Pool ι) : Option (Pool ι) :=
  (s.mPackageQueue[k]?).bind fun package =>
    if ∀ q ∈ s.mPackageQueue, package.deadline ≤ q.deadline then some (s.take i k package) else none

/-- What thread `i` does after the wait, still under the lock. -/
def afterWait (i : ι) (k : ℕ) (s : Pool ι) : Option (Pool ι) :=
  if s.mRunning = false then some (s.move i .ended)
  else if s.mPackageQueue = [] then some (s.move i .head)
  else s.pop i k

/-- Thread `i` evaluates the predicate, and sleeps if it does not hold. -/
def tryWait (i : ι) (k : ℕ) (deadline : ℤ) (s : Pool ι) : Option (Pool ι) :=
  let (holds, deadline) := s.predicate deadline
  if holds then s.afterWait i k else some (s.move i (.waiting deadline))

end Pool

/-! ### Steps -/

/-- What can happen: a package is scheduled; time passes; the pool is stopped; a thread begins a round of
its loop, is woken up, times out, takes the lock again, or comes back from the callback.  Where a thread
may take a package, `k` is the index of the one on top. -/
inductive Label (ι : Type) where
  | schedule (package : Package)
  | tick (d : ℕ)
  | stop
  | enter (i : ι) (k : ℕ)
  | wake (i : ι)
  | timeout (i : ι)
  | resume (i : ι) (k : ℕ)
  | finish (i : ι)

/-- The deadline that a thread waits for, asleep or woken up. -/
def Point.deadline? : Point → Option ℤ
  | .waiting deadline => some deadline
  | .notified deadline => some deadline
  | .timedOut deadline => some deadline
  | _ => none

/-- One step.  A wait may have timed out by the time a notified thread has the lock again. -/
def step [DecidableEq ι] (l : Label ι) (s : Pool ι) : Option (Pool ι) :=
  match l with
  | .schedule package => some { s with mPackageQueue := package :: s.mPackageQueue }
  | .tick d => some { s with now := s.now + d }
  | .stop => some { s with mRunning := false }
  | .enter i k =>
      match s.mThreadPool i with
      | .head =>
          if s.mRunning = false then some (s.move i .ended)
          else s.tryWait i k (s.topDeadline.getD timePointMax)
      | _ => none
  | .wake i =>
      match s.mThreadPool i with
      | .waiting deadline => some (s.move i (.notified deadline))
      | _ => none
  | .timeout i =>
      match (s.mThreadPool i).deadline? with
      | some deadline =>
          if deadline ≤ s.now then some (s.move i (.timedOut deadline)) else none
      | none => none
  | .resume i k =>
      match s.mThreadPool i with
      | .notified deadline => s.tryWait i k deadline
      -- `wait_until` returns what the predicate says, and nobody looks at it
      | .timedOut _ => s.afterWait i k
      | _ => none
  | .finish i =>
      match s.mThreadPool i with
      | .callback _ => some (s.move i .head)
      | _ => none

/-! ### What a step does -/

/-- The deadline that a thread waits for is not before all those in the queue; it is the last time point
if the queue is empty. -/
def Reaches (deadline : ℤ) (queue : List Package) : Prop :=
  (queue = [] ∧ deadline = timePointMax) ∨ ∃ p ∈ queue, p.deadline ≤ deadline

variable {s s' : Pool ι} {i : ι} {k : ℕ} {deadline deadline' : ℤ}

theorem Reaches.cons {queue : List Package} (h : Reaches deadline queue) (package : Package) :
    Reaches deadline (package :: queue) := by
  rcases h with ⟨-, hmax⟩ | ⟨p, hp, hle⟩
  · exact Or.inr ⟨package, List.mem_cons_self, hmax ▸ package.deadline_le⟩
  · exact Or.inr ⟨p, List.mem_cons_of_mem package hp, hle⟩

theorem topDeadline_eq_none (h : s.topDeadline = none) : s.mPackageQueue = [] := by
  unfold Pool.topDeadline at h
  rw [List.min?_eq_none_iff] at h
  exact List.map_eq_nil_iff.1 h

theorem topDeadline_eq_some {top : ℤ} (h : s.topDeadline = some top) :
    ∃ p ∈ s.mPackageQueue, p.deadline = top := by
  unfold Pool.topDeadline at h
  exact List.mem_map.1 (List.min?_mem h)

/-- If the predicate does not hold, the thread waits for a deadline that the queue gives. -/
theorem predicate_false (h : s.predicate deadline = (false, deadline')) :
    Reaches deadline' s.mPackageQueue := by
  unfold Pool.predicate at h
  split at h
  · cases h
  · cases htop : s.topDeadline with
    | none =>
        rw [htop] at h
        cases h
        exact Or.inl ⟨topDeadline_eq_none htop, rfl⟩
    | some top =>
        rw [htop] at h
        dsimp only at h
        split at h
        · cases h
          obtain ⟨p, hp, hdeadline⟩ := topDeadline_eq_some htop
          exact Or.inr ⟨p, hp, le_of_eq hdeadline⟩
        · cases h

/-- If the predicate holds while the pool runs, a package is due. -/
theorem predicate_true (h : s.predicate deadline = (true, deadline')) (hrunning : s.mRunning = true) :
    ∃ p ∈ s.mPackageQueue, p.deadline ≤ s.now := by
  unfold Pool.predicate at h
  rw [if_neg (by simp [hrunning])] at h
  cases htop : s.topDeadline with
  | none =>
      rw [htop] at h
      cases h
  | some top =>
      rw [htop] at h
      dsimp only at h
      split at h
      · cases h
      · rename_i hdue
        obtain ⟨p, hp, hdeadline⟩ := topDeadline_eq_some htop
        exact ⟨p, hp, by omega⟩

variable [DecidableEq ι]

/-- What happens to the pool.  A package is taken when it is due, or by a thread that has timed out. -/
inductive Happens (s : Pool ι) : Pool ι → Prop
  | schedule (package : Package) : Happens s { s with mPackageQueue := package :: s.mPackageQueue }
  | tick (d : ℕ) : Happens s { s with now := s.now + d }
  | stop : Happens s { s with mRunning := false }
  | head (i : ι) : Happens s (s.move i .head)
  | finish (i : ι) : Happens s (s.move i .ended)
  | sleep (i : ι) {deadline : ℤ} : Reaches deadline s.mPackageQueue →
      Happens s (s.move i (.waiting deadline))
  | wake (i : ι) {deadline : ℤ} : (s.mThreadPool i).deadline? = some deadline →
      Happens s (s.move i (.notified deadline))
  | timeout (i : ι) {deadline : ℤ} : (s.mThreadPool i).deadline? = some deadline → deadline ≤ s.now →
      Happens s (s.move i (.timedOut deadline))
  | take (i : ι) (k : ℕ) {package : Package} : package ∈ s.mPackageQueue →
      (∀ q ∈ s.mPackageQueue, package.deadline ≤ q.deadline) →
      (package.deadline ≤ s.now ∨ ∃ deadline, s.mThreadPool i = .timedOut deadline) →
      Happens s (s.take i k package)

/-- After the wait, a thread that takes a package finds one that is due, or has timed out. -/
theorem afterWait_happens
    (hwhy : s.mRunning = true →
      (∃ p ∈ s.mPackageQueue, p.deadline ≤ s.now) ∨ ∃ deadline, s.mThreadPool i = .timedOut deadline)
    (h : s.afterWait i k = some s') : Happens s s' := by
  unfold Pool.afterWait at h
  split at h
  · cases h
    exact .finish i
  · rename_i hrunning
    split at h
    · cases h
      exact .head i
    · unfold Pool.pop at h
      obtain ⟨package, hpackage, h⟩ := Option.bind_eq_some_iff.1 h
      split at h
      · rename_i hleast
        cases h
        refine .take i k (List.mem_of_getElem? hpackage) hleast ?_
        rcases hwhy (Bool.eq_true_of_not_eq_false hrunning) with ⟨p, hp, hdue⟩ | htimedOut
        · exact Or.inl (le_trans (hleast p hp) hdue)
        · exact Or.inr htimedOut
      · cases h

theorem tryWait_happens (h : s.tryWait i k deadline = some s') : Happens s s' := by
  unfold Pool.tryWait at h
  cases hpredicate : s.predicate deadline with
  | mk holds deadline' =>
      rw [hpredicate] at h
      dsimp only at h
      cases holds with
      | false =>
          cases h
          exact .sleep i (predicate_false hpredicate)
      | true => exact afterWait_happens (fun hrunning => Or.inl (predicate_true hpredicate hrunning)) h

/-- **What a step does.** -/
theorem step_happens {l : Label ι} (h : step l s = some s') : Happens s s' := by
  cases l with
  | schedule package =>
      cases h
      exact .schedule package
  | tick d =>
      cases h
      exact .tick d
  | stop =>
      cases h
      exact .stop
  | enter i k =>
      unfold step at h
      dsimp only at h
      split at h
      · split at h
        · cases h
          exact .finish i
        · exact tryWait_happens h
      · cases h
  | wake i =>
      unfold step at h
      dsimp only at h
      split at h
      · rename_i hpoint
        cases h
        exact .wake i (by rw [hpoint]; rfl)
      · cases h
  | timeout i =>
      unfold step at h
      dsimp only at h
      split at h
      · rename_i hpoint
        split at h
        · rename_i hdue
          cases h
          exact .timeout i hpoint hdue
        · cases h
      · cases h
  | resume i k =>
      unfold step at h
      dsimp only at h
      split at h
      · exact tryWait_happens h
      · rename_i hpoint
        exact afterWait_happens (fun _ => Or.inr ⟨_, hpoint⟩) h
      · cases h
  | finish i =>
      unfold step at h
      dsimp only at h
      split at h
      · cases h
        exact .head i
      · cases h

/-! ### The order of the packages -/

/-- Every package was taken when none in the queue had an earlier deadline. -/
def Ordered (s : Pool ι) : Prop := ∀ pop ∈ s.pops, ∀ q ∈ pop.queue, pop.package.deadline ≤ q.deadline

/-- No package was taken before its deadline. -/
def NeverEarly (s : Pool ι) : Prop := ∀ pop ∈ s.pops, pop.package.deadline ≤ pop.time

theorem Ordered.next (hs : Ordered s) (h : Happens s s') : Ordered s' := by
  cases h with
  | take i k hmem hleast hwhy =>
      intro pop hpop
      rcases List.mem_cons.1 hpop with rfl | hpop
      · exact hleast
      · exact hs pop hpop
  | _ => exact hs

/-! ### One thread -/

/-- What a thread that is alone keeps: it waits for a deadline that the queue reaches, and if it has
timed out, that deadline is over. -/
structure Punctual (s : Pool ι) : Prop where
  neverEarly : NeverEarly s
  reaches : ∀ i deadline, (s.mThreadPool i).deadline? = some deadline → Reaches deadline s.mPackageQueue
  elapsed : ∀ i deadline, s.mThreadPool i = .timedOut deadline → deadline ≤ s.now

/-- A thread goes to a point where it waits for nothing new. -/
theorem Punctual.move (hs : Punctual s) {point : Point}
    (hreaches : ∀ deadline, point.deadline? = some deadline → Reaches deadline s.mPackageQueue)
    (helapsed : ∀ deadline, point = .timedOut deadline → deadline ≤ s.now) :
    Punctual (s.move i point) where
  neverEarly := hs.neverEarly
  reaches := by
    intro j deadline hj
    by_cases hji : j = i
    · subst hji
      rw [Pool.move_self] at hj
      exact hreaches deadline hj
    · rw [Pool.move_of_ne hji] at hj
      exact hs.reaches j deadline hj
  elapsed := by
    intro j deadline hj
    by_cases hji : j = i
    · subst hji
      rw [Pool.move_self] at hj
      exact helapsed deadline hj
    · rw [Pool.move_of_ne hji] at hj
      exact hs.elapsed j deadline hj

/-- A thread that is alone takes no package early: since its wait began, packages have only been added,
so the first one is due when the wait is over. -/
theorem Punctual.take [Subsingleton ι] (hs : Punctual s) {package : Package}
    (hmem : package ∈ s.mPackageQueue) (hleast : ∀ q ∈ s.mPackageQueue, package.deadline ≤ q.deadline)
    (hwhy : package.deadline ≤ s.now ∨ ∃ deadline, s.mThreadPool i = .timedOut deadline) :
    Punctual (s.take i k package) := by
  have hdue : package.deadline ≤ s.now := by
    rcases hwhy with hdue | ⟨deadline, hpoint⟩
    · exact hdue
    · have hreaches := hs.reaches i deadline (by rw [hpoint]; rfl)
      have helapsed := hs.elapsed i deadline hpoint
      rcases hreaches with ⟨hempty, -⟩ | ⟨p, hp, hle⟩
      · rw [hempty] at hmem
        cases hmem
      · exact le_trans (hleast p hp) (le_trans hle helapsed)
  have hpoint : ∀ j, (s.take i k package).mThreadPool j = .callback package := by
    intro j
    rw [Subsingleton.elim j i]
    exact Function.update_self i _ s.mThreadPool
  refine ⟨?_, ?_, ?_⟩
  · intro pop hpop
    rcases List.mem_cons.1 hpop with rfl | hpop
    · exact hdue
    · exact hs.neverEarly pop hpop
  · intro j deadline hj
    rw [hpoint j] at hj
    cases hj
  · intro j deadline hj
    rw [hpoint j] at hj
    cases hj

theorem Punctual.next [Subsingleton ι] (hs : Punctual s) (h : Happens s s') : Punctual s' := by
  cases h with
  | schedule package =>
      exact ⟨hs.neverEarly, fun i deadline hi => (hs.reaches i deadline hi).cons package, hs.elapsed⟩
  | tick d =>
      refine ⟨hs.neverEarly, hs.reaches, fun i deadline hi => ?_⟩
      have helapsed := hs.elapsed i deadline hi
      exact le_trans helapsed (by dsimp only; omega)
  | stop => exact ⟨hs.neverEarly, hs.reaches, hs.elapsed⟩
  | head i => exact hs.move nofun nofun
  | finish i => exact hs.move nofun nofun
  | sleep i hreaches =>
      refine hs.move ?_ nofun
      intro deadline hdeadline
      cases hdeadline
      exact hreaches
  | wake i hpoint =>
      refine hs.move ?_ nofun
      intro deadline hdeadline
      cases hdeadline
      exact hs.reaches i _ hpoint
  | timeout i hpoint hdue =>
      refine hs.move ?_ ?_
      · intro deadline hdeadline
        cases hdeadline
        exact hs.reaches i _ hpoint
      · intro deadline hdeadline
        cases hdeadline
        exact hdue
  | take i k hmem hleast hwhy => exact hs.take hmem hleast hwhy

/-! ### Several threads -/

/-- Two threads that have timed out take the first two packages, whatever the second deadline is. -/
theorem run_resume_both {i j : ι} (hij : i ≠ j) {p q : Package} {d d' : ℤ}
    (hrunning : s.mRunning = true) (hqueue : s.mPackageQueue = [p, q])
    (hle : p.deadline ≤ q.deadline) (hi : s.mThreadPool i = .timedOut d)
    (hj : s.mThreadPool j = .timedOut d') :
    Machine.run step [.resume i 0, .resume j 0] s = some ((s.take i 0 p).take j 0 q) := by
  have hfirst : step (.resume i 0) s = some (s.take i 0 p) := by
    simp [step, Pool.afterWait, Pool.pop, hi, hrunning, hqueue, hle]
  have hpoint : (s.take i 0 p).mThreadPool j = .timedOut d' := by
    simp [Pool.take, hij.symm, hj]
  have hrest : (s.take i 0 p).mPackageQueue = [q] := by
    simp [Pool.take, hqueue]
  have hsecond : step (.resume j 0) (s.take i 0 p) = some ((s.take i 0 p).take j 0 q) := by
    have hstill : (s.take i 0 p).mRunning = true := hrunning
    simp [step, Pool.afterWait, Pool.pop, hpoint, hstill, hrest]
  rw [Machine.run_cons, hfirst, Option.bind_some, Machine.run_cons, hsecond]
  rfl

/-- Two packages, due at times 10 and 100. -/
def package10 : Package := { deadline := 10, packageId := 1, deadline_le := by decide }

@[inherit_doc package10]
def package100 : Package := { deadline := 100, packageId := 2, deadline_le := by decide }

/-- Two threads wait for the first package until its time is over. -/
def bothTimeOut (i j : ι) : List (Label ι) :=
  [.schedule package100, .schedule package10, .enter i 0, .enter j 0, .tick 10, .timeout i, .timeout j]

/-- The state that they get to. -/
def bothTimedOut (i j : ι) : Pool ι :=
  Pool.move j (.timedOut 10) (Pool.move i (.timedOut 10) (Pool.move j (.waiting 10)
    (Pool.move i (.waiting 10) { now := 10, mPackageQueue := [package10, package100] })))

theorem run_bothTimeOut {i j : ι} (hij : i ≠ j) :
    Machine.run step (bothTimeOut i j) { now := 0 } = some (bothTimedOut i j) := by
  simp [Machine.run, bothTimeOut, bothTimedOut, step, Pool.tryWait, Pool.predicate, Pool.topDeadline,
    Pool.move, package10, package100, Point.deadline?, hij, hij.symm]

/-- The second one then takes the other package, at time 10. -/
theorem bothTimeOut_early {i j : ι} (hij : i ≠ j) :
    ∃ s, Machine.run step (bothTimeOut i j ++ [.resume i 0, .resume j 0]) { now := 0 } = some s ∧
      (⟨package100, 10, [package100]⟩ : Pop) ∈ s.pops := by
  have hi : (bothTimedOut i j).mThreadPool i = .timedOut 10 := by
    simp [bothTimedOut, Pool.move, hij]
  have hj : (bothTimedOut i j).mThreadPool j = .timedOut 10 := by
    simp [bothTimedOut, Pool.move]
  have hresume := run_resume_both hij (s := bothTimedOut i j) rfl rfl (by decide) hi hj
  refine ⟨((bothTimedOut i j).take i 0 package10).take j 0 package100, ?_, List.mem_cons_self⟩
  rw [Machine.run_append, run_bothTimeOut hij, Option.bind_some, hresume]

/-! ### Whole runs -/

/-- Packages are taken in the order of their deadlines, whatever the threads do. -/
theorem run_ordered {ls : List (Label ι)} {s₀ : Pool ι} (hs : Ordered s₀)
    (hrun : Machine.run step ls s₀ = some s) : Ordered s := by
  have hkeeps : ∀ (l : Label ι) (s s' : Pool ι), True → Ordered s → step l s = some s' → Ordered s' :=
    fun _ _ _ _ hs h => hs.next (step_happens h)
  exact Machine.run_invariant hkeeps (fun _ _ => trivial) hs hrun

/-- A thread that is alone takes no package early. -/
theorem run_punctual [Subsingleton ι] {ls : List (Label ι)} {s₀ : Pool ι} (hs : Punctual s₀)
    (hrun : Machine.run step ls s₀ = some s) : Punctual s := by
  have hkeeps : ∀ (l : Label ι) (s s' : Pool ι), True → Punctual s → step l s = some s' → Punctual s' :=
    fun _ _ _ _ hs h => hs.next (step_happens h)
  exact Machine.run_invariant hkeeps (fun _ _ => trivial) hs hrun

/-- **The order of the work and its time.**  In a pool with at least one thread, no package is taken
while there is one with an earlier deadline; and no package is ever taken before its deadline, whatever
is scheduled and however the threads run, exactly if there is no second thread. -/
theorem pool_never_early_iff {threadCount : ℕ} (hcount : 1 ≤ threadCount) :
    (∀ ls now s, Machine.run step ls (PriorityQueueWorkerPool threadCount now) = some s → Ordered s) ∧
    ((∀ ls now s, Machine.run step ls (PriorityQueueWorkerPool threadCount now) = some s →
      NeverEarly s) ↔ threadCount = 1) := by
  refine ⟨?_, ?_, ?_⟩
  · intro ls now s hrun
    have hstart : Ordered (PriorityQueueWorkerPool threadCount now) := List.forall_mem_nil _
    exact run_ordered hstart hrun
  · intro hnever
    by_contra hne
    -- the threads 0 and 1
    have hij : (⟨0, hcount⟩ : Fin threadCount) ≠ ⟨1, by omega⟩ := by simp
    obtain ⟨s, hrun, hpop⟩ := bothTimeOut_early hij
    have htime : (100 : ℤ) ≤ 10 := hnever _ 0 s hrun _ hpop
    omega
  · rintro rfl ls now s hrun
    have hstart : Punctual (PriorityQueueWorkerPool 1 now) := ⟨nofun, nofun, nofun⟩
    exact (run_punctual hstart hrun).neverEarly

/-- One thread waits until time 10 and takes the package that is due then. -/
theorem pool_never_early_one_thread :
    ∃ s, Machine.run step
        [.schedule package100, .schedule package10, .enter 0 0, .tick 10, .timeout 0, .resume 0 0]
        (PriorityQueueWorkerPool 1 0) = some s ∧
      s.pops = [⟨package10, 10, [package10, package100]⟩] ∧ Ordered s ∧ NeverEarly s := by
  have hrun : ∃ s, Machine.run step
      [.schedule package100, .schedule package10, .enter 0 0, .tick 10, .timeout 0, .resume 0 0]
      (PriorityQueueWorkerPool 1 0) = some s ∧
        s.pops = [⟨package10, 10, [package10, package100]⟩] := ⟨_, rfl, rfl⟩
  obtain ⟨s, hrun, hpops⟩ := hrun
  obtain ⟨hordered, hnever⟩ := pool_never_early_iff (le_refl 1)
  exact ⟨s, hrun, hpops, hordered _ 0 s hrun, hnever.2 rfl _ 0 s hrun⟩

/-- With two threads, the package due at time 100 is taken at time 10. -/
theorem pool_early_two_threads :
    ∃ s, Machine.run step (bothTimeOut 0 1 ++ [.resume 0 0, .resume 1 0])
        (PriorityQueueWorkerPool 2 0) = some s ∧
      s.pops = [⟨package100, 10, [package100]⟩, ⟨package10, 10, [package10, package100]⟩] ∧
      ¬ NeverEarly s := by
  refine ⟨_, rfl, rfl, fun hnever => ?_⟩
  have htime : (100 : ℤ) ≤ 10 := hnever _ List.mem_cons_self
  omega

end WorkerPool
