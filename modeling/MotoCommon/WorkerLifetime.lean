/-
**Workers come and go while the pool is at work** (`BackgroundWorker.h`, `BackgroundWorker.cpp`).

Many workers share one pool.  A worker registers a function with the pool when it is made, under its own
address, and takes it out when it is destroyed; the function refers to the worker itself.  The threads of the
pool look the function up by the address in the package, and call it while they hold `mSharedMutex` together
with the other threads of the pool.  An address can be used again by a later worker, and the queue may still
have packages for the earlier one; what the later worker does with those is to give its own package of that id,
if it has one, to its callback.

What a thread does under a mutex that it gives back before it does anything else is one step.  What is not
modelled here is when a package is taken out of the queue: that is the subject of
`MotoCommon/WorkerPool.lean`, and here any package can be taken at any time.

About those who own the workers it is assumed that they give packages only to workers that are made, and that
they do not destroy a worker while one of them is giving it a package: the code has no lock for that.

Main definitions:

* `WorkerLifetime.Worker`, `WorkerLifetime.Point`, `WorkerLifetime.Pool` — a worker, where a thread is, and
  the state;
* `WorkerLifetime.Step` — what the threads do.

Main results:

* `WorkerLifetime.Step.lives`, `WorkerLifetime.Step.ledger` — **one step** keeps what holds about the workers
  and about the packages;
* `WorkerLifetime.workers_used_alive` — **every interleaving**: a worker that a thread uses is not destroyed,
  the map has the registered workers and no others, and each package is given to the function of its own
  worker, once at most.
-/

import Mathlib.Data.List.Nodup
import Mathlib.Logic.Relation
import MotoCommon.Containers
import MotoCommon.RwLock

set_option autoImplicit false

namespace WorkerLifetime

open RwLock

/-! ### The state -/

/-- How far a worker is made or destroyed. -/
inductive Status where
  /-- In the constructor, before and after `addCallback`. -/
  | constructing
  | registered
  | live
  /-- In the destructor, before and after `removeCallback`. -/
  | leaving
  | unregistered
  | dead
  deriving DecidableEq, Repr

/-- The function of the worker is in the map. -/
def Status.inMap : Status → Bool
  | .registered | .live | .leaving => true
  | _ => false

/-- The members of `TemplatePriorityQueueWorker`. -/
structure Worker (α : Type) where
  mCallbackId : ℤ := 0
  status : Status := .dead
  mPackageIdCounter : ℕ := 0
  mPackages : UMap ℕ α := ∅

instance {α : Type} : Inhabited (Worker α) := ⟨{}⟩

/-- `PriorityQueueWorkerPool::Package`. -/
structure Package where
  deadline : ℤ
  templateQueueWorkerId : ℤ
  packageId : ℕ
  deriving DecidableEq, Repr

/-- A package that was given to a worker, under an id. -/
structure Job (α : Type) where
  worker : ℕ
  packageId : ℕ
  package : α
  deriving DecidableEq, Repr

/-- Where a thread is. -/
inductive Point where
  | idle
  /-- In `loop`: a package was taken out of the queue. -/
  | popped (package : Package)
  /-- With `mSharedMutex` shared: before the function is looked up, in the function, in the callback that the
  function calls, in a call of `schedule` that the callback makes, and behind it. -/
  | finding (package : Package)
  | entered (worker packageId : ℕ)
  | running (worker : ℕ)
  | rescheduling (worker : ℕ) (deadline : ℤ)
  | left
  /-- In the constructor, before `addCallback`, and with `mSharedMutex` alone. -/
  | adding (worker : ℕ)
  | added (worker : ℕ)
  /-- In `schedule`, between its two parts. -/
  | scheduling (worker : ℕ) (deadline : ℤ)
  /-- In the destructor, before `removeCallback`, and with `mSharedMutex` alone. -/
  | removing (worker : ℕ)
  | removed (worker : ℕ)
  deriving DecidableEq, Repr

namespace Point

def mSharedMutex : Lock Point where
  shared
    | .finding _ | .entered _ _ | .running _ | .rescheduling _ _ | .left => true
    | _ => false
  exclusive
    | .added _ | .removed _ => true
    | _ => false

/-- The worker whose members a thread uses. -/
def uses : Point → Option ℕ
  | .entered worker _ | .running worker | .rescheduling worker _ => some worker
  | .adding worker | .added worker | .scheduling worker _ | .removing worker | .removed worker => some worker
  | _ => none

/-- How far that worker may be made or destroyed. -/
def fits : Point → Status → Bool
  | .entered _ _, status | .running _, status | .rescheduling _ _, status => status.inMap
  | .adding _, status => status = .constructing
  | .added _, status => status = .registered
  | .scheduling _ _, status => status = .live
  | .removing _, status => status = .leaving
  | .removed _, status => status = .unregistered
  | _, _ => true

/-- The worker that a thread makes or destroys. -/
def owns : Point → Option ℕ
  | .adding worker | .added worker | .removing worker | .removed worker => some worker
  | _ => none

end Point

/-- The pool, the workers and the threads, with a record of what was given to the workers and of what they
gave to their callbacks. -/
structure Pool (ι α : Type) where
  mPackageQueue : List Package := []
  mCallbackMap : UMap ℤ ℕ := ∅
  workers : Heap (Worker α) := Heap.empty
  threads : ι → Point := fun _ => .idle
  scheduled : List (Job α) := []
  delivered : List (Job α) := []

namespace Pool

variable {ι α : Type}

/-- A worker changes. -/
def onWorker (o : ℕ) (f : Worker α → Worker α) (s : Pool ι α) : Pool ι α :=
  { s with workers := s.workers.write o (f (s.workers.read o)) }

/-- How far a worker is made or destroyed. -/
def setStatus (o : ℕ) (status : Status) (s : Pool ι α) : Pool ι α :=
  s.onWorker o fun w => { w with status := status }

/-- A thread goes on. -/
def move [DecidableEq ι] (i : ι) (point : Point) (s : Pool ι α) : Pool ι α :=
  { s with threads := Function.update s.threads i point }

/-- The first lines of the constructor: a new worker, at this address. -/
def construct (a : ℤ) (s : Pool ι α) : Pool ι α :=
  { s with workers := s.workers.alloc { mCallbackId := a, status := .constructing } }

/-- `addCallback`, for the function of a worker. -/
def addCallback (o : ℕ) (s : Pool ι α) : Pool ι α :=
  let templateQueueWorkerId := (s.workers.read o).mCallbackId
  if (s.mCallbackMap.lookup templateQueueWorkerId).isSome then s
  else { s with mCallbackMap := s.mCallbackMap.insert templateQueueWorkerId o }

def removeCallback (o : ℕ) (s : Pool ι α) : Pool ι α :=
  { s with mCallbackMap := s.mCallbackMap.erase (s.workers.read o).mCallbackId }

/-- The first part of `schedule`, under the worker's `mMutex`. -/
def store (o : ℕ) (package : α) (s : Pool ι α) : Pool ι α :=
  let id := (s.workers.read o).mPackageIdCounter + 1
  { s.onWorker o fun w => { w with mPackageIdCounter := id, mPackages := w.mPackages.insert id package } with
    scheduled := ⟨o, id, package⟩ :: s.scheduled }

/-- The second part: `PriorityQueueWorkerPool::schedule`, with the counter as it is now. -/
def submit (o : ℕ) (deadline : ℤ) (s : Pool ι α) : Pool ι α :=
  { s with mPackageQueue :=
      ⟨deadline, (s.workers.read o).mCallbackId, (s.workers.read o).mPackageIdCounter⟩ :: s.mPackageQueue }

/-- The section of `process` in which a package is taken. -/
def take (o id : ℕ) (package : α) (s : Pool ι α) : Pool ι α :=
  { s.onWorker o fun w => { w with mPackages := w.mPackages.erase id } with
    delivered := ⟨o, id, package⟩ :: s.delivered }

end Pool

open Pool

/-! ### What the threads do -/

section Steps

variable {ι α : Type} [DecidableEq ι]

/-- A step of a thread.  A worker is made at an address that no other worker has.  It is given packages after
its constructor has returned and before its destructor is called, and the destructor is not called while it is
being given one, except in its own callback. -/
inductive Step (s : Pool ι α) : Pool ι α → Prop
  | construct (i : ι) (a : ℤ) : s.threads i = .idle →
      (∀ o < s.workers.size, (s.workers.read o).status ≠ .dead → (s.workers.read o).mCallbackId ≠ a) →
      Step s ((s.construct a).move i (.adding s.workers.size))
  | addCallback (i : ι) (o : ℕ) : s.threads i = .adding o →
      (∀ j, Point.mSharedMutex.held (s.threads j) = false) →
      Step s (((s.addCallback o).setStatus o .registered).move i (.added o))
  | constructed (i : ι) (o : ℕ) : s.threads i = .added o →
      Step s ((s.setStatus o .live).move i .idle)
  | store (i : ι) (o : ℕ) (package : α) (deadline : ℤ) : s.threads i = .idle → o < s.workers.size →
      (s.workers.read o).status = .live → Step s ((s.store o package).move i (.scheduling o deadline))
  | submit (i : ι) (o : ℕ) (deadline : ℤ) : s.threads i = .scheduling o deadline →
      Step s ((s.submit o deadline).move i .idle)
  /-- The owner sees to it that nobody is giving packages to the worker. -/
  | destroy (i : ι) (o : ℕ) : s.threads i = .idle → o < s.workers.size →
      (s.workers.read o).status = .live → (∀ j deadline, s.threads j ≠ .scheduling o deadline) →
      Step s ((s.setStatus o .leaving).move i (.removing o))
  | removeCallback (i : ι) (o : ℕ) : s.threads i = .removing o →
      (∀ j, Point.mSharedMutex.held (s.threads j) = false) →
      Step s (((s.removeCallback o).setStatus o .unregistered).move i (.removed o))
  | destroyed (i : ι) (o : ℕ) : s.threads i = .removed o → Step s ((s.setStatus o .dead).move i .idle)
  | pop (i : ι) (k : ℕ) (package : Package) : s.threads i = .idle → s.mPackageQueue[k]? = some package →
      Step s ({ s with mPackageQueue := s.mPackageQueue.eraseIdx k }.move i (.popped package))
  | lockShared (i : ι) (package : Package) : s.threads i = .popped package →
      (∀ j, Point.mSharedMutex.exclusive (s.threads j) = false) → Step s (s.move i (.finding package))
  | found (i : ι) (package : Package) (o : ℕ) : s.threads i = .finding package →
      s.mCallbackMap.lookup package.templateQueueWorkerId = some o →
      Step s (s.move i (.entered o package.packageId))
  | notFound (i : ι) (package : Package) : s.threads i = .finding package →
      s.mCallbackMap.lookup package.templateQueueWorkerId = none → Step s (s.move i .left)
  | take (i : ι) (o id : ℕ) (package : α) : s.threads i = .entered o id →
      (s.workers.read o).mPackages.lookup id = some package → Step s ((s.take o id package).move i (.running o))
  | drop (i : ι) (o id : ℕ) : s.threads i = .entered o id →
      (s.workers.read o).mPackages.lookup id = none → Step s (s.move i .left)
  | restore (i : ι) (o : ℕ) (package : α) (deadline : ℤ) : s.threads i = .running o →
      Step s ((s.store o package).move i (.rescheduling o deadline))
  | resubmit (i : ι) (o : ℕ) (deadline : ℤ) : s.threads i = .rescheduling o deadline →
      Step s ((s.submit o deadline).move i (.running o))
  | returned (i : ι) (o : ℕ) : s.threads i = .running o → Step s (s.move i .left)
  | unlockShared (i : ι) : s.threads i = .left → Step s (s.move i .idle)

/-- An interleaving from the start, with no workers and nothing in the queue. -/
abbrev Reach (s : Pool ι α) : Prop := Relation.ReflTransGen Step {} s

end Steps

/-! ### Which workers there are -/

theorem Status.ne_dead {status : Status} (h : status.inMap = true) : status ≠ .dead := by
  rintro rfl
  exact absurd h Bool.false_ne_true

namespace Point

variable {p : Point} {o : ℕ} {status : Status}

/-- Who uses a worker: who makes or destroys it, who is in its function, or who gives it a package. -/
theorem uses_cases (h : p.uses = some o) (hfits : p.fits status = true) :
    p.owns = some o ∨ (mSharedMutex.shared p = true ∧ ∀ status, p.fits status = status.inMap) ∨
      (∃ deadline, p = .scheduling o deadline) ∧ status = .live := by
  cases p with
  | adding worker => exact Or.inl h
  | added worker => exact Or.inl h
  | removing worker => exact Or.inl h
  | removed worker => exact Or.inl h
  | entered worker packageId => exact Or.inr (Or.inl ⟨rfl, fun _ => rfl⟩)
  | running worker => exact Or.inr (Or.inl ⟨rfl, fun _ => rfl⟩)
  | rescheduling worker deadline => exact Or.inr (Or.inl ⟨rfl, fun _ => rfl⟩)
  | scheduling worker deadline =>
      obtain rfl := Option.some.inj h
      exact Or.inr (Or.inr ⟨⟨deadline, rfl⟩, of_decide_eq_true hfits⟩)
  | _ => exact absurd h nofun

theorem owns_uses (h : p.owns = some o) : p.uses = some o := by
  cases p with
  | adding worker => exact h
  | added worker => exact h
  | removing worker => exact h
  | removed worker => exact h
  | _ => exact absurd h nofun

/-- Nobody makes or destroys a worker that is live. -/
theorem owns_not_live (h : p.owns = some o) : p.fits .live = false := by
  cases p with
  | adding worker => rfl
  | added worker => rfl
  | removing worker => rfl
  | removed worker => rfl
  | _ => exact absurd h nofun

/-- No worker that is used may be destroyed. -/
theorem fits_dead (h : p.uses = some o) : p.fits .dead = false := by
  cases p with
  | idle => exact absurd h nofun
  | popped package => exact absurd h nofun
  | finding package => exact absurd h nofun
  | left => exact absurd h nofun
  | _ => rfl

end Point

/-- What is left of the state if one does not look at packages. -/
structure Registry (ι : Type) where
  threads : ι → Point
  mCallbackMap : UMap ℤ ℕ
  size : ℕ
  address : ℕ → ℤ
  status : ℕ → Status

namespace Registry

variable {ι : Type}

/-- What holds about the threads, the map, and how far the workers are made or destroyed. -/
structure Lives (r : Registry ι) : Prop where
  lock : Point.mSharedMutex.Respected r.threads
  /-- The map has the functions of the workers that are registered. -/
  map : ∀ a o, r.mCallbackMap.lookup a = some o ↔ o < r.size ∧ r.address o = a ∧ (r.status o).inMap = true
  /-- Two workers at one address do not live at the same time. -/
  apart : ∀ o < r.size, ∀ o' < r.size, r.status o ≠ .dead → r.status o' ≠ .dead →
    r.address o = r.address o' → o = o'
  fits : ∀ i o, (r.threads i).uses = some o → o < r.size ∧ (r.threads i).fits (r.status o) = true
  owner : ∀ i j o, (r.threads i).owns = some o → (r.threads j).owns = some o → i = j

variable [DecidableEq ι]

def move (i : ι) (p : Point) (r : Registry ι) : Registry ι :=
  { r with threads := Function.update r.threads i p }

/-- A new worker. -/
def construct (a : ℤ) (r : Registry ι) : Registry ι :=
  { r with
    size := r.size + 1
    address := Function.update r.address r.size a
    status := Function.update r.status r.size .constructing }

/-- A worker is made or destroyed further, and the map changes with it. -/
def change (o : ℕ) (status : Status) (map : UMap ℤ ℕ) (r : Registry ι) : Registry ι :=
  { r with mCallbackMap := map, status := Function.update r.status o status }

variable {r : Registry ι} {i : ι} {p : Point}

/-- Where the threads are, after one of them has gone on. -/
theorem update_cases (r : Registry ι) (i : ι) (p : Point) (j : ι) : j = i ∧ Function.update r.threads i p j = p ∨
    j ≠ i ∧ Function.update r.threads i p j = r.threads j := by
  by_cases hj : j = i
  · exact Or.inl ⟨hj, by rw [hj, Function.update_self]⟩
  · exact Or.inr ⟨hj, Function.update_of_ne hj p r.threads⟩

/-- Who makes or destroys a worker, after a thread has gone on. -/
theorem Lives.owner_update (h : Lives r) (hown : ∀ o, p.owns = some o → ∀ j, j ≠ i → (r.threads j).owns ≠ some o)
    (j k : ι) (o : ℕ) (hj : (Function.update r.threads i p j).owns = some o)
    (hk : (Function.update r.threads i p k).owns = some o) : j = k := by
  rcases update_cases r i p j with ⟨hji, heq⟩ | ⟨hji, heq⟩ <;> rw [heq] at hj <;>
    rcases update_cases r i p k with ⟨hki, heq'⟩ | ⟨hki, heq'⟩ <;> rw [heq'] at hk
  · exact hji.trans hki.symm
  · exact absurd hk (hown o hj k hki)
  · exact absurd hj (hown o hk j hji)
  · exact h.owner j k o hj hk

/-- **A thread goes on**, and no worker is made or destroyed. -/
theorem Lives.move (h : Lives r) (hlock : Point.mSharedMutex.Allows r.threads i p) (howns : p.owns = none)
    (huses : ∀ o, p.uses = some o → o < r.size ∧ p.fits (r.status o) = true) : Lives (r.move i p) where
  lock := h.lock.update hlock
  map := h.map
  apart := h.apart
  fits j o hj := by
    show o < r.size ∧ (Function.update r.threads i p j).fits (r.status o) = true
    have hj' : (Function.update r.threads i p j).uses = some o := hj
    rcases update_cases r i p j with ⟨rfl, heq⟩ | ⟨-, heq⟩ <;> rw [heq] at hj' ⊢
    · exact huses o hj'
    · exact h.fits j o hj'
  owner := h.owner_update fun o ho => absurd (howns.symm.trans ho) nofun

/-- **A worker is made.** -/
theorem Lives.construct (h : Lives r) {a : ℤ}
    (ha : ∀ o < r.size, r.status o ≠ .dead → r.address o ≠ a) :
    Lives ((r.construct a).move i (.adding r.size)) := by
  have hold : ∀ o < r.size, Function.update r.status r.size .constructing o = r.status o ∧
      Function.update r.address r.size a o = r.address o :=
    fun o ho => ⟨Function.update_of_ne (Nat.ne_of_lt ho) _ _, Function.update_of_ne (Nat.ne_of_lt ho) _ _⟩
  have hnew : Function.update r.status r.size .constructing r.size = .constructing ∧
      Function.update r.address r.size a r.size = a := ⟨Function.update_self _ _ _, Function.update_self _ _ _⟩
  have hnone : ∀ j, (r.threads j).owns ≠ some r.size :=
    fun j hj => absurd (h.fits j _ (Point.owns_uses hj)).1 (Nat.lt_irrefl _)
  refine ⟨h.lock.update (.of_not_held rfl), fun a' o => ?_, fun o ho o' ho' hs hs' heq => ?_,
    fun j o hj => ?_, h.owner_update ?_⟩
  · show _ ↔ o < r.size + 1 ∧ Function.update r.address r.size a o = a' ∧
      (Function.update r.status r.size .constructing o).inMap = true
    rw [Nat.lt_succ_iff_lt_or_eq, or_and_right]
    refine (h.map a' o).trans ⟨fun hmap => Or.inl ?_, ?_⟩
    · rw [(hold o hmap.1).1, (hold o hmap.1).2]
      exact hmap
    · rintro (hmap | ⟨rfl, -, hin⟩)
      · rw [(hold o hmap.1).1, (hold o hmap.1).2] at hmap
        exact hmap
      · rw [hnew.1] at hin
        exact absurd hin Bool.false_ne_true
  · have haddress : Function.update r.address r.size a o = Function.update r.address r.size a o' := heq
    have hs₁ : Function.update r.status r.size .constructing o ≠ .dead := hs
    have hs₂ : Function.update r.status r.size .constructing o' ≠ .dead := hs'
    rcases Nat.lt_succ_iff_lt_or_eq.1 ho with hlt | rfl <;>
      rcases Nat.lt_succ_iff_lt_or_eq.1 ho' with hlt' | rfl
    · rw [(hold o hlt).2, (hold o' hlt').2] at haddress
      rw [(hold o hlt).1] at hs₁
      rw [(hold o' hlt').1] at hs₂
      exact h.apart o hlt o' hlt' hs₁ hs₂ haddress
    · rw [(hold o hlt).2, hnew.2] at haddress
      rw [(hold o hlt).1] at hs₁
      exact absurd haddress (ha o hlt hs₁)
    · rw [(hold o' hlt').2, hnew.2] at haddress
      rw [(hold o' hlt').1] at hs₂
      exact absurd haddress.symm (ha o' hlt' hs₂)
    · rfl
  · show o < r.size + 1 ∧ (Function.update r.threads i (.adding r.size) j).fits
      (Function.update r.status r.size .constructing o) = true
    have hj' : (Function.update r.threads i (.adding r.size) j).uses = some o := hj
    rcases update_cases r i (.adding r.size) j with ⟨-, heq⟩ | ⟨-, heq⟩ <;> rw [heq] at hj' ⊢
    · obtain rfl := Option.some.inj hj'
      rw [hnew.1]
      exact ⟨Nat.lt_succ_self _, rfl⟩
    · obtain ⟨hlt, hfits⟩ := h.fits j o hj'
      rw [(hold o hlt).1]
      exact ⟨Nat.lt_succ_of_lt hlt, hfits⟩
  · rintro o ho j -
    obtain rfl := Option.some.inj ho
    exact hnone j

omit [DecidableEq ι] in
/-- A worker in the map is not at the address of another one that is not destroyed. -/
theorem Lives.address_ne (h : Lives r) {o o' : ℕ} (ho : o < r.size) (halive : r.status o ≠ .dead)
    (ho' : o' < r.size) (hin : (r.status o').inMap = true) (hne : o' ≠ o) : r.address o' ≠ r.address o :=
  fun ha => hne (h.apart o' ho' o ho (Status.ne_dead hin) halive ha)

omit [DecidableEq ι] in
/-- Away from its address, what becomes of a worker makes no difference to the map. -/
theorem Lives.map_elsewhere (h : Lives r) {o : ℕ} {a : ℤ} (ha : a ≠ r.address o) (status : Status) (o' : ℕ) :
    r.mCallbackMap.lookup a = some o' ↔
      o' < r.size ∧ r.address o' = a ∧ (Function.update r.status o status o').inMap = true := by
  refine (h.map a o').trans (and_congr_right fun _ => and_congr_right fun ha' => ?_)
  have hne : o' ≠ o := by
    rintro rfl
    exact ha ha'.symm
  rw [Function.update_of_ne hne]

omit [DecidableEq ι] in
/-- The map with a worker that is registered. -/
theorem Lives.map_insert (h : Lives r) {o : ℕ} {status : Status} (ho : o < r.size) (halive : r.status o ≠ .dead)
    (hin : status.inMap = true) (a : ℤ) (o' : ℕ) :
    (r.mCallbackMap.insert (r.address o) o).lookup a = some o' ↔
      o' < r.size ∧ r.address o' = a ∧ (Function.update r.status o status o').inMap = true := by
  rw [UMap.lookup_insert_eq]
  by_cases ha : a = r.address o
  · rw [if_pos ha, Option.some.injEq]
    constructor
    · rintro rfl
      rw [Function.update_self]
      exact ⟨ho, ha.symm, hin⟩
    · rintro ⟨ho', ha', hin'⟩
      by_contra hne
      rw [Function.update_of_ne (Ne.symm hne)] at hin'
      exact h.address_ne ho halive ho' hin' (Ne.symm hne) (ha'.trans ha)
  · rw [if_neg ha]
    exact h.map_elsewhere ha status o'

omit [DecidableEq ι] in
/-- The map without a worker that was registered. -/
theorem Lives.map_erase (h : Lives r) {o : ℕ} {status : Status} (ho : o < r.size) (halive : r.status o ≠ .dead)
    (hout : status.inMap = false) (a : ℤ) (o' : ℕ) :
    (r.mCallbackMap.erase (r.address o)).lookup a = some o' ↔
      o' < r.size ∧ r.address o' = a ∧ (Function.update r.status o status o').inMap = true := by
  rw [UMap.lookup_erase_eq]
  by_cases ha : a = r.address o
  · rw [if_pos ha]
    refine ⟨nofun, ?_⟩
    rintro ⟨ho', ha', hin'⟩
    by_cases hne : o' = o
    · rw [hne, Function.update_self, hout] at hin'
      exact absurd hin' Bool.false_ne_true
    · rw [Function.update_of_ne hne] at hin'
      exact absurd (ha'.trans ha) (h.address_ne ho halive ho' hin' hne)
  · rw [if_neg ha]
    exact h.map_elsewhere ha status o'

/-- **A worker is made or destroyed further.** -/
theorem Lives.change (h : Lives r) {o : ℕ} {status : Status} {map : UMap ℤ ℕ} (ho : o < r.size)
    (halive : r.status o ≠ .dead) (hlock : Point.mSharedMutex.Allows r.threads i p)
    (hp : ∀ o', p.uses = some o' → o' = o ∧ p.fits status = true)
    (hothers : ∀ j, j ≠ i → (r.threads j).uses = some o → (r.threads j).fits status = true)
    (howner : ∀ j, j ≠ i → (r.threads j).owns ≠ some o)
    (hmap : ∀ a o', map.lookup a = some o' ↔
      o' < r.size ∧ r.address o' = a ∧ (Function.update r.status o status o').inMap = true) :
    Lives ((r.change o status map).move i p) where
  lock := h.lock.update hlock
  map := hmap
  apart o₁ ho₁ o₂ ho₂ h₁ h₂ := by
    have hnot : ∀ o', Function.update r.status o status o' ≠ .dead → r.status o' ≠ .dead := by
      intro o' hne
      by_cases heq : o' = o
      · rw [heq]
        exact halive
      · rwa [Function.update_of_ne heq] at hne
    exact h.apart o₁ ho₁ o₂ ho₂ (hnot o₁ h₁) (hnot o₂ h₂)
  fits j o' hj := by
    show o' < r.size ∧ (Function.update r.threads i p j).fits (Function.update r.status o status o') = true
    have hj' : (Function.update r.threads i p j).uses = some o' := hj
    rcases update_cases r i p j with ⟨rfl, heq⟩ | ⟨hji, heq⟩ <;> rw [heq] at hj' ⊢
    · obtain ⟨rfl, hfits⟩ := hp o' hj'
      rw [Function.update_self]
      exact ⟨ho, hfits⟩
    · by_cases heq' : o' = o
      · subst heq'
        rw [Function.update_self]
        exact ⟨ho, hothers j hji hj'⟩
      · rw [Function.update_of_ne heq']
        exact h.fits j o' hj'
  owner := by
    refine h.owner_update fun o' ho' j hj => ?_
    rw [(hp o' (Point.owns_uses ho')).1]
    exact howner j hj

end Registry

namespace Pool

variable {ι α : Type}

/-- The state without the packages. -/
def registry (s : Pool ι α) : Registry ι where
  threads := s.threads
  mCallbackMap := s.mCallbackMap
  size := s.workers.size
  address o := (s.workers.read o).mCallbackId
  status o := (s.workers.read o).status

/-- A change of a worker that is neither one of its address nor one of its status cannot be seen. -/
theorem registry_onWorker (f : Worker α → Worker α) (hid : ∀ w, (f w).mCallbackId = w.mCallbackId)
    (hstatus : ∀ w, (f w).status = w.status) (o : ℕ) (s : Pool ι α) :
    (s.onWorker o f).registry = s.registry := by
  have hread : ∀ o', ((s.onWorker o f).workers.read o').mCallbackId = (s.workers.read o').mCallbackId ∧
      ((s.onWorker o f).workers.read o').status = (s.workers.read o').status := by
    intro o'
    unfold onWorker
    by_cases ho : o' = o
    · rw [ho, Heap.read_write_self]
      exact ⟨hid _, hstatus _⟩
    · rw [Heap.read_write_of_ne _ _ ho]
      exact ⟨rfl, rfl⟩
  unfold registry
  congr 1
  · exact funext fun o' => (hread o').1
  · exact funext fun o' => (hread o').2

@[simp] theorem registry_store (o : ℕ) (package : α) (s : Pool ι α) :
    (s.store o package).registry = s.registry := by
  let id := (s.workers.read o).mPackageIdCounter + 1
  exact registry_onWorker (fun w => { w with mPackageIdCounter := id, mPackages := w.mPackages.insert id package })
    (fun _ => rfl) (fun _ => rfl) o s

@[simp] theorem registry_take (o id : ℕ) (package : α) (s : Pool ι α) :
    (s.take o id package).registry = s.registry :=
  registry_onWorker (fun w => { w with mPackages := w.mPackages.erase id }) (fun _ => rfl) (fun _ => rfl) o s

/-- How far a worker is made or destroyed can be seen. -/
theorem registry_setStatus (o : ℕ) (status : Status) (s : Pool ι α) :
    (s.setStatus o status).registry =
      { s.registry with status := Function.update s.registry.status o status } := by
  unfold registry setStatus onWorker
  congr 1
  · funext o'
    by_cases ho : o' = o
    · rw [ho, Heap.read_write_self]
    · rw [Heap.read_write_of_ne _ _ ho]
  · funext o'
    by_cases ho : o' = o
    · rw [ho, Heap.read_write_self, Function.update_self]
    · rw [Heap.read_write_of_ne _ _ ho, Function.update_of_ne ho]

theorem registry_construct (a : ℤ) (s : Pool ι α) : (s.construct a).registry = s.registry.construct a := by
  unfold registry construct Registry.construct
  congr 1
  · funext o
    by_cases ho : o = s.workers.size
    · rw [ho, Function.update_self]
      exact congrArg Worker.mCallbackId (Heap.read_alloc_fresh _ _)
    · rw [Heap.read_alloc_of_ne _ _ ho, Function.update_of_ne ho]
  · funext o
    by_cases ho : o = s.workers.size
    · rw [ho, Function.update_self]
      exact congrArg Worker.status (Heap.read_alloc_fresh _ _)
    · rw [Heap.read_alloc_of_ne _ _ ho, Function.update_of_ne ho]

end Pool

section Lives

variable {ι α : Type} [DecidableEq ι] {s s' : Pool ι α} {i : ι} {o : ℕ} {p : Point}

/-- A thread goes on, and no worker is made or destroyed. -/
theorem lives_move {s₁ : Pool ι α} (h : s.registry.Lives) (hs : s₁.registry = s.registry)
    (hlock : Point.mSharedMutex.Allows s.threads i p) (howns : p.owns = none)
    (huses : ∀ o, p.uses = some o → o < s.workers.size ∧ p.fits (s.workers.read o).status = true) :
    (s₁.move i p).registry.Lives := by
  have hmove : (s₁.move i p).registry = s₁.registry.move i p := rfl
  rw [hmove, hs]
  exact h.move hlock howns huses

/-- A worker is made or destroyed further, by the thread that does it. -/
theorem lives_change {s₁ : Pool ι α} (h : s.registry.Lives) {status : Status}
    (hs : s₁.registry = s.registry.change o status s₁.mCallbackMap) (ho : o < s.workers.size)
    (halive : (s.workers.read o).status ≠ .dead)
    (hlock : Point.mSharedMutex.Allows s.threads i p)
    (hp : ∀ o', p.uses = some o' → o' = o ∧ p.fits status = true)
    (hothers : ∀ j, j ≠ i → (s.threads j).uses = some o → (s.threads j).fits status = true)
    (howner : ∀ j, j ≠ i → (s.threads j).owns ≠ some o)
    (hmap : ∀ a o', s₁.mCallbackMap.lookup a = some o' ↔ o' < s.workers.size ∧
      (s.workers.read o').mCallbackId = a ∧
        (Function.update s.registry.status o status o').inMap = true) :
    (s₁.move i p).registry.Lives := by
  have hmove : (s₁.move i p).registry = s₁.registry.move i p := rfl
  rw [hmove, hs]
  exact h.change ho halive hlock hp hothers howner hmap

omit [DecidableEq ι] in
/-- If the new status is in the map exactly if the old one is, the map need not change. -/
theorem map_of_same (h : s.registry.Lives) {status : Status}
    (hsame : status.inMap = (s.workers.read o).status.inMap) (a : ℤ) (o' : ℕ) :
    s.mCallbackMap.lookup a = some o' ↔ o' < s.workers.size ∧ (s.workers.read o').mCallbackId = a ∧
      (Function.update s.registry.status o status o').inMap = true := by
  refine (h.map a o').trans ?_
  by_cases heq : o' = o
  · rw [heq, Function.update_self, hsame]
    exact Iff.rfl
  · rw [Function.update_of_ne heq]
    exact Iff.rfl

omit [DecidableEq ι] in
/-- The worker that a thread at a point uses. -/
theorem fits_at (h : s.registry.Lives) (hi : s.threads i = p) (hp : p.uses = some o) :
    o < s.workers.size ∧ p.fits (s.workers.read o).status = true := by
  subst hi
  exact h.fits i o hp

omit [DecidableEq ι] in
/-- The other threads that use a worker that is made or destroyed: they are in its function. -/
theorem fits_others (h : s.registry.Lives) (hi : (s.threads i).owns = some o)
    (hlive : (s.workers.read o).status ≠ .live) {status : Status}
    (hstatus : (∀ j, Point.mSharedMutex.shared (s.threads j) = false) ∨ status.inMap = true ∨
      (s.workers.read o).status.inMap = false) (j : ι) (hj : j ≠ i) (huses : (s.threads j).uses = some o) :
    (s.threads j).fits status = true := by
  obtain ⟨-, hfits⟩ := h.fits j o huses
  rcases Point.uses_cases huses hfits with hown | ⟨hshared, hmap⟩ | ⟨-, hlive'⟩
  · exact absurd (h.owner j i o hown hi) hj
  · rcases hstatus with hnone | hin | hout
    · exact absurd ((hnone j).symm.trans hshared) Bool.false_ne_true
    · rw [hmap, hin]
    · have hin : (s.workers.read o).status.inMap = true := (hmap _).symm.trans hfits
      exact absurd (hout.symm.trans hin) Bool.false_ne_true
  · exact absurd hlive' hlive

omit [DecidableEq ι] in
/-- Nobody makes or destroys a worker that is live. -/
theorem not_owns_live (h : s.registry.Lives) (hlive : (s.workers.read o).status = .live) (j : ι) :
    (s.threads j).owns ≠ some o := by
  intro hown
  obtain ⟨-, hfits⟩ := h.fits j o (Point.owns_uses hown)
  have hfits' : (s.threads j).fits .live = true := hlive ▸ hfits
  exact absurd (Point.owns_not_live hown) (by rw [hfits']; decide)

omit [DecidableEq ι] in
/-- No worker is in the map under the address of a worker that is being made, so `addCallback` puts it there. -/
theorem addCallback_eq (h : s.registry.Lives) (ho : o < s.workers.size)
    (hstatus : (s.workers.read o).status = .constructing) :
    s.addCallback o = { s with mCallbackMap := s.mCallbackMap.insert (s.workers.read o).mCallbackId o } := by
  have hstatus' : s.registry.status o = .constructing := hstatus
  have hnone : s.mCallbackMap.lookup (s.workers.read o).mCallbackId = none := by
    refine Option.eq_none_iff_forall_ne_some.2 fun o' ho' => ?_
    obtain ⟨hlt, ha, hin⟩ := (h.map _ _).1 ho'
    refine h.address_ne ho (by rw [hstatus']; decide) hlt hin ?_ ha
    rintro rfl
    rw [hstatus'] at hin
    exact absurd hin Bool.false_ne_true
  show (if (s.mCallbackMap.lookup (s.workers.read o).mCallbackId).isSome then s else _) = _
  rw [hnone]
  rfl

/-- **One step** keeps what holds about the workers. -/
theorem Step.lives (h : Step s s') (hs : s.registry.Lives) : s'.registry.Lives := by
  have howner : ∀ {i : ι} {o : ℕ}, (s.threads i).owns = some o → ∀ j, j ≠ i → (s.threads j).owns ≠ some o :=
    fun hi j hj hj' => hj (hs.owner j _ _ hj' hi)
  cases h with
  | construct i a hi ha =>
      have hmove : ((s.construct a).move i (.adding s.workers.size)).registry =
          (s.construct a).registry.move i (.adding s.workers.size) := rfl
      rw [hmove, registry_construct]
      exact hs.construct ha
  | addCallback i o hi hfree =>
      obtain ⟨ho, hfits⟩ := fits_at hs hi rfl
      have hstatus : (s.workers.read o).status = .constructing := of_decide_eq_true hfits
      have hown : (s.threads i).owns = some o := by rw [hi]; rfl
      have hne : (s.workers.read o).status ≠ .dead := by rw [hstatus]; decide
      have hreg : ((s.addCallback o).setStatus o .registered).registry =
          s.registry.change o .registered ((s.addCallback o).setStatus o .registered).mCallbackMap := by
        rw [addCallback_eq hs ho hstatus]
        exact registry_setStatus o .registered _
      refine lives_change hs hreg ho hne ⟨fun _ => Or.inr hfree, nofun⟩ ?_
        (fits_others hs hown (by rw [hstatus]; decide) (Or.inr (Or.inl rfl))) (howner hown) ?_
      · rintro o' ho'
        exact ⟨(Option.some.inj ho').symm, rfl⟩
      · rw [addCallback_eq hs ho hstatus]
        exact hs.map_insert ho hne rfl
  | constructed i o hi =>
      obtain ⟨ho, hfits⟩ := fits_at hs hi rfl
      have hstatus : (s.workers.read o).status = .registered := of_decide_eq_true hfits
      have hown : (s.threads i).owns = some o := by rw [hi]; rfl
      exact lives_change hs (registry_setStatus o .live s) ho (by rw [hstatus]; decide) (.of_not_held rfl) nofun
        (fits_others hs hown (by rw [hstatus]; decide) (Or.inr (Or.inl rfl))) (howner hown)
        (map_of_same hs (by rw [hstatus]; rfl))
  | store i o package deadline hi ho hlive =>
      refine lives_move hs (registry_store o package s) (.of_not_held rfl) rfl fun o' ho' => ?_
      obtain rfl := Option.some.inj ho'
      exact ⟨ho, decide_eq_true hlive⟩
  | submit i o deadline hi => exact lives_move hs rfl (.of_not_held rfl) rfl nofun
  | destroy i o hi ho hlive hclients =>
      refine lives_change hs (registry_setStatus o .leaving s) ho (by rw [hlive]; decide) (.of_not_held rfl) ?_ ?_ ?_
        (map_of_same hs (by rw [hlive]; rfl))
      · rintro o' ho'
        exact ⟨(Option.some.inj ho').symm, rfl⟩
      · rintro j - huses
        obtain ⟨-, hfits⟩ := hs.fits j o huses
        rcases Point.uses_cases huses hfits with hown | ⟨-, hmap⟩ | ⟨⟨deadline, hj⟩, -⟩
        · exact absurd hown (not_owns_live hs hlive j)
        · rw [hmap]
          rfl
        · exact absurd hj (hclients j deadline)
      · rintro j -
        exact not_owns_live hs hlive j
  | removeCallback i o hi hfree =>
      obtain ⟨ho, hfits⟩ := fits_at hs hi rfl
      have hstatus : (s.workers.read o).status = .leaving := of_decide_eq_true hfits
      have hne : (s.workers.read o).status ≠ .dead := by rw [hstatus]; decide
      have hown : (s.threads i).owns = some o := by rw [hi]; rfl
      refine lives_change hs (registry_setStatus o .unregistered (s.removeCallback o)) ho hne
        ⟨fun _ => Or.inr hfree, nofun⟩ ?_ (fits_others hs hown (by rw [hstatus]; decide) (Or.inl ?_)) (howner hown)
        (hs.map_erase ho hne rfl)
      · rintro o' ho'
        exact ⟨(Option.some.inj ho').symm, rfl⟩
      · exact fun j => (Bool.or_eq_false_iff.1 (hfree j)).1
  | destroyed i o hi =>
      obtain ⟨ho, hfits⟩ := fits_at hs hi rfl
      have hstatus : (s.workers.read o).status = .unregistered := of_decide_eq_true hfits
      have hown : (s.threads i).owns = some o := by rw [hi]; rfl
      exact lives_change hs (registry_setStatus o .dead s) ho (by rw [hstatus]; decide) (.of_not_held rfl) nofun
        (fits_others hs hown (by rw [hstatus]; decide) (Or.inr (Or.inr (by rw [hstatus]; rfl)))) (howner hown)
        (map_of_same hs (by rw [hstatus]; rfl))
  | pop i k package hi hk => exact lives_move hs rfl (.of_not_held rfl) rfl nofun
  | lockShared i package hi hfree =>
      exact lives_move hs rfl ⟨nofun, fun _ => Or.inr hfree⟩ rfl nofun
  | found i package o hi hfound =>
      refine lives_move hs rfl (.of_kept (by rw [hi]; rfl) (by rw [hi]; rfl)) rfl fun o' ho' => ?_
      obtain rfl := Option.some.inj ho'
      obtain ⟨ho, -, hin⟩ := (hs.map _ _).1 hfound
      exact ⟨ho, hin⟩
  | notFound i package hi hnone =>
      exact lives_move hs rfl (.of_kept (by rw [hi]; rfl) (by rw [hi]; rfl)) rfl nofun
  | take i o id package hi hfound =>
      refine lives_move hs (registry_take o id package s) (.of_kept (by rw [hi]; rfl) (by rw [hi]; rfl)) rfl
        fun o' ho' => ?_
      obtain rfl := Option.some.inj ho'
      have huses := fits_at hs hi rfl
      exact huses
  | drop i o id hi hnone => exact lives_move hs rfl (.of_kept (by rw [hi]; rfl) (by rw [hi]; rfl)) rfl nofun
  | restore i o package deadline hi =>
      refine lives_move hs (registry_store o package s) (.of_kept (by rw [hi]; rfl) (by rw [hi]; rfl)) rfl
        fun o' ho' => ?_
      obtain rfl := Option.some.inj ho'
      have huses := fits_at hs hi rfl
      exact huses
  | resubmit i o deadline hi =>
      refine lives_move hs rfl (.of_kept (by rw [hi]; rfl) (by rw [hi]; rfl)) rfl fun o' ho' => ?_
      obtain rfl := Option.some.inj ho'
      have huses := fits_at hs hi rfl
      exact huses
  | returned i o hi => exact lives_move hs rfl (.of_kept (by rw [hi]; rfl) (by rw [hi]; rfl)) rfl nofun
  | unlockShared i hi => exact lives_move hs rfl (.of_not_held rfl) rfl nofun

end Lives

/-! ### What becomes of the packages -/

/-- What is left of the state if one looks at packages only. -/
structure Books (α : Type) where
  size : ℕ
  counter : ℕ → ℕ
  packages : ℕ → UMap ℕ α
  scheduled : List (Job α)
  delivered : List (Job α)

namespace Books

variable {α : Type}

/-- A package that a worker was given is with the worker, or was given to its callback once. -/
structure Ledger (b : Books α) : Prop where
  counted : ∀ job ∈ b.scheduled, job.worker < b.size ∧ job.packageId ≤ b.counter job.worker
  apart : (b.scheduled.map fun job => (job.worker, job.packageId)).Nodup
  waiting : ∀ o < b.size, ∀ id package, (b.packages o).lookup id = some package ↔
    ⟨o, id, package⟩ ∈ b.scheduled ∧ ⟨o, id, package⟩ ∉ b.delivered
  given : b.delivered ⊆ b.scheduled
  once : b.delivered.Nodup

/-- A new worker. -/
def construct (b : Books α) : Books α :=
  { b with
    size := b.size + 1
    counter := Function.update b.counter b.size 0
    packages := Function.update b.packages b.size ∅ }

/-- A worker is given a package, under the next id. -/
def store (o : ℕ) (package : α) (b : Books α) : Books α :=
  { b with
    counter := Function.update b.counter o (b.counter o + 1)
    packages := Function.update b.packages o ((b.packages o).insert (b.counter o + 1) package)
    scheduled := ⟨o, b.counter o + 1, package⟩ :: b.scheduled }

/-- A worker gives a package to its callback. -/
def take (o id : ℕ) (package : α) (b : Books α) : Books α :=
  { b with
    packages := Function.update b.packages o ((b.packages o).erase id)
    delivered := ⟨o, id, package⟩ :: b.delivered }

variable {b : Books α}

theorem Ledger.construct (h : Ledger b) : Ledger b.construct where
  counted job hjob := by
    obtain ⟨hlt, hle⟩ := h.counted job hjob
    refine ⟨Nat.lt_succ_of_lt hlt, ?_⟩
    show job.packageId ≤ Function.update b.counter b.size 0 job.worker
    rwa [Function.update_of_ne (Nat.ne_of_lt hlt)]
  apart := h.apart
  waiting o ho id package := by
    show (Function.update b.packages b.size ∅ o).lookup id = some package ↔ _
    rcases Nat.lt_succ_iff_lt_or_eq.1 ho with hlt | rfl
    · rw [Function.update_of_ne (Nat.ne_of_lt hlt)]
      exact h.waiting o hlt id package
    · rw [Function.update_self, AList.lookup_empty]
      exact ⟨nofun, fun hmem => absurd (h.counted _ hmem.1).1 (Nat.lt_irrefl _)⟩
  given := h.given
  once := h.once

/-- The id that a worker gives to a package is a new one. -/
theorem Ledger.fresh (h : Ledger b) (o : ℕ) (package : α) : ⟨o, b.counter o + 1, package⟩ ∉ b.scheduled :=
  fun hmem => absurd (h.counted _ hmem).2 (Nat.not_succ_le_self _)

theorem Ledger.store (h : Ledger b) {o : ℕ} (ho : o < b.size) (package : α) : Ledger (b.store o package) where
  counted job hjob := by
    show job.worker < b.size ∧ job.packageId ≤ Function.update b.counter o (b.counter o + 1) job.worker
    rcases List.mem_cons.1 hjob with rfl | hold
    · rw [Function.update_self]
      exact ⟨ho, Nat.le_refl _⟩
    · obtain ⟨hlt, hle⟩ := h.counted job hold
      refine ⟨hlt, ?_⟩
      by_cases heq : job.worker = o
      · rw [heq, Function.update_self]
        rw [heq] at hle
        exact Nat.le_succ_of_le hle
      · rwa [Function.update_of_ne heq]
  apart := by
    refine List.nodup_cons.2 ⟨fun hmem => ?_, h.apart⟩
    obtain ⟨job, hjob, heq⟩ := List.mem_map.1 hmem
    obtain ⟨hworker, hid⟩ := Prod.mk.inj heq
    have hle := (h.counted job hjob).2
    rw [hworker, hid] at hle
    exact Nat.not_succ_le_self _ hle
  waiting o' ho' id package' := by
    show (Function.update b.packages o _ o').lookup id = some package' ↔
      ⟨o', id, package'⟩ ∈ (⟨o, b.counter o + 1, package⟩ : Job α) :: b.scheduled ∧ _
    have hwaiting := h.waiting o' ho' id package'
    by_cases heq : o' = o
    · subst heq
      rw [Function.update_self, UMap.lookup_insert_eq]
      by_cases hid : id = b.counter o' + 1
      · subst hid
        rw [if_pos rfl, Option.some.injEq]
        constructor
        · rintro rfl
          exact ⟨List.mem_cons_self, fun hmem => h.fresh o' package (h.given hmem)⟩
        · rintro ⟨hmem, -⟩
          rcases List.mem_cons.1 hmem with hnew | hold
          · exact (Job.mk.inj hnew).2.2.symm
          · exact absurd hold (h.fresh o' package')
      · rw [if_neg hid, hwaiting, List.mem_cons, or_iff_right fun hnew => hid (Job.mk.inj hnew).2.1]
        exact Iff.rfl
    · rw [Function.update_of_ne heq, hwaiting, List.mem_cons, or_iff_right fun hnew => heq (Job.mk.inj hnew).1]
      exact Iff.rfl
  given := fun _ hmem => List.mem_cons_of_mem _ (h.given hmem)
  once := h.once

theorem Ledger.take (h : Ledger b) {o id : ℕ} {package : α} (ho : o < b.size)
    (hfound : (b.packages o).lookup id = some package) : Ledger (b.take o id package) where
  counted := h.counted
  apart := h.apart
  waiting o' ho' id' package' := by
    obtain ⟨hmem, -⟩ := (h.waiting o ho id package).1 hfound
    show (Function.update b.packages o _ o').lookup id' = some package' ↔
      _ ∧ ⟨o', id', package'⟩ ∉ (⟨o, id, package⟩ : Job α) :: b.delivered
    have hwaiting := h.waiting o' ho' id' package'
    rw [List.mem_cons, not_or]
    by_cases heq : o' = o
    · subst heq
      rw [Function.update_self, UMap.lookup_erase_eq]
      by_cases hid : id' = id
      · subst hid
        rw [if_pos rfl]
        refine ⟨nofun, fun ⟨hmem', hne, _⟩ => ?_⟩
        -- two jobs of one worker under one id are the same
        exact absurd (List.inj_on_of_nodup_map h.apart hmem' hmem rfl) hne
      · rw [if_neg hid, hwaiting]
        exact and_congr_right fun _ => (and_iff_right fun hnew => hid (Job.mk.inj hnew).2.1).symm
    · rw [Function.update_of_ne heq, hwaiting]
      exact and_congr_right fun _ => (and_iff_right fun hnew => heq (Job.mk.inj hnew).1).symm
  given := List.cons_subset.2 ⟨((h.waiting o ho id package).1 hfound).1, h.given⟩
  once := List.nodup_cons.2 ⟨((h.waiting o ho id package).1 hfound).2, h.once⟩

end Books

namespace Pool

variable {ι α : Type}

/-- The packages in a state. -/
def books (s : Pool ι α) : Books α where
  size := s.workers.size
  counter o := (s.workers.read o).mPackageIdCounter
  packages o := (s.workers.read o).mPackages
  scheduled := s.scheduled
  delivered := s.delivered

theorem books_setStatus (o : ℕ) (status : Status) (s : Pool ι α) : (s.setStatus o status).books = s.books := by
  unfold books setStatus onWorker
  congr 1
  all_goals
    funext o'
    by_cases ho : o' = o
    · rw [ho, Heap.read_write_self]
    · rw [Heap.read_write_of_ne _ _ ho]

theorem books_addCallback (o : ℕ) (s : Pool ι α) : (s.addCallback o).books = s.books := by
  show (if (s.mCallbackMap.lookup (s.workers.read o).mCallbackId).isSome then s else _ : Pool ι α).books = s.books
  split <;> rfl

theorem books_construct (a : ℤ) (s : Pool ι α) : (s.construct a).books = s.books.construct := by
  unfold books construct Books.construct
  congr 1
  · funext o
    by_cases ho : o = s.workers.size
    · rw [ho, Function.update_self]
      exact congrArg Worker.mPackageIdCounter (Heap.read_alloc_fresh _ _)
    · rw [Heap.read_alloc_of_ne _ _ ho, Function.update_of_ne ho]
  · funext o
    by_cases ho : o = s.workers.size
    · rw [ho, Function.update_self]
      exact congrArg Worker.mPackages (Heap.read_alloc_fresh _ _)
    · rw [Heap.read_alloc_of_ne _ _ ho, Function.update_of_ne ho]

theorem books_store (o : ℕ) (package : α) (s : Pool ι α) : (s.store o package).books = s.books.store o package := by
  unfold books store Books.store onWorker
  congr 1
  all_goals
    funext o'
    by_cases ho : o' = o
    · rw [ho, Heap.read_write_self, Function.update_self]
    · rw [Heap.read_write_of_ne _ _ ho, Function.update_of_ne ho]

theorem books_take (o id : ℕ) (package : α) (s : Pool ι α) :
    (s.take o id package).books = s.books.take o id package := by
  unfold books take Books.take onWorker
  congr 1
  · funext o'
    by_cases ho : o' = o
    · rw [ho, Heap.read_write_self]
    · rw [Heap.read_write_of_ne _ _ ho]
  · funext o'
    by_cases ho : o' = o
    · rw [ho, Heap.read_write_self, Function.update_self]
    · rw [Heap.read_write_of_ne _ _ ho, Function.update_of_ne ho]

end Pool

section Runs

variable {ι α : Type} [DecidableEq ι] {s s' : Pool ι α}

/-- **One step** keeps what holds about the packages. -/
theorem Step.ledger (h : Step s s') (hs : s.registry.Lives) (hb : s.books.Ledger) : s'.books.Ledger := by
  have hsame : ∀ {s₁ : Pool ι α}, s₁.books = s.books → s₁.books.Ledger := fun heq => heq ▸ hb
  cases h with
  | construct i a hi ha =>
      show (s.construct a).books.Ledger
      rw [Pool.books_construct]
      exact hb.construct
  | store i o package deadline hi ho hlive =>
      show (s.store o package).books.Ledger
      rw [Pool.books_store]
      exact hb.store ho package
  | restore i o package deadline hi =>
      show (s.store o package).books.Ledger
      rw [Pool.books_store]
      exact hb.store (fits_at hs hi rfl).1 package
  | take i o id package hi hfound =>
      show (s.take o id package).books.Ledger
      rw [Pool.books_take]
      exact hb.take (fits_at hs hi rfl).1 hfound
  | addCallback i o hi hfree => exact hsame ((Pool.books_setStatus o _ _).trans (Pool.books_addCallback o s))
  | constructed i o hi => exact hsame (Pool.books_setStatus o _ s)
  | destroy i o hi ho hlive hclients => exact hsame (Pool.books_setStatus o _ s)
  | removeCallback i o hi hfree => exact hsame (Pool.books_setStatus o _ _)
  | destroyed i o hi => exact hsame (Pool.books_setStatus o _ s)
  | _ => exact hb

/-- What holds in every state. -/
structure Inv (s : Pool ι α) : Prop where
  lives : s.registry.Lives
  ledger : s.books.Ledger

omit [DecidableEq ι] in
theorem Inv.init : Inv ({} : Pool ι α) where
  lives := ⟨fun _ _ => nofun, fun _ o => ⟨nofun, fun h => absurd h.1 (Nat.not_lt_zero o)⟩,
    fun o ho => absurd ho (Nat.not_lt_zero o), fun _ _ => nofun, fun _ _ _ => nofun⟩
  ledger := ⟨nofun, List.nodup_nil, fun o ho => absurd ho (Nat.not_lt_zero o), List.Subset.refl _, List.nodup_nil⟩

/-- **Every interleaving** keeps the invariant. -/
theorem Reach.inv (h : Reach s) : Inv s := by
  induction h with
  | refl => exact Inv.init
  | tail _ hstep ih => exact ⟨hstep.lives ih.lives, hstep.ledger ih.lives ih.ledger⟩

/-- **Every interleaving.**  A worker that a thread uses is not destroyed, the map has the functions of the
workers that are registered and no others, a package that a worker was given is with the worker until its
callback is given it, and a callback is given packages of its own worker only, each of them once. -/
theorem workers_used_alive (h : Reach s) :
    (∀ i o, (s.threads i).uses = some o → o < s.workers.size ∧ (s.workers.read o).status ≠ .dead) ∧
    (∀ a o, s.mCallbackMap.lookup a = some o ↔
      o < s.workers.size ∧ (s.workers.read o).mCallbackId = a ∧ (s.workers.read o).status.inMap = true) ∧
    (∀ o < s.workers.size, ∀ id package, (s.workers.read o).mPackages.lookup id = some package ↔
      ⟨o, id, package⟩ ∈ s.scheduled ∧ ⟨o, id, package⟩ ∉ s.delivered) ∧
    s.delivered ⊆ s.scheduled ∧ s.delivered.Nodup ∧
      (s.scheduled.map fun job => (job.worker, job.packageId)).Nodup := by
  obtain ⟨hlives, hledger⟩ := h.inv
  refine ⟨fun i o huses => ?_, hlives.map, hledger.waiting, hledger.given, hledger.once, hledger.apart⟩
  obtain ⟨ho, hfits⟩ := hlives.fits i o huses
  refine ⟨ho, fun hdead => ?_⟩
  have hfits' : (s.threads i).fits .dead = true := hdead ▸ hfits
  exact absurd ((Point.fits_dead huses).symm.trans hfits') Bool.false_ne_true

/-- A worker is to be destroyed while its callback is given a package on another thread: the worker is there
for both of them. -/
theorem workers_used_alive_leaving : ∃ s : Pool Bool ℕ, s.delivered = [⟨0, 1, 7⟩] ∧
    s.threads true = .running 0 ∧ s.threads false = .removing 0 ∧ (s.workers.read 0).status ≠ .dead := by
  let s₁ : Pool Bool ℕ := (({} : Pool Bool ℕ).construct 64).move false (.adding 0)
  let s₂ := ((s₁.addCallback 0).setStatus 0 .registered).move false (.added 0)
  let s₃ := (s₂.setStatus 0 .live).move false .idle
  let s₄ := (s₃.store 0 7).move false (.scheduling 0 100)
  let s₅ := (s₄.submit 0 100).move false .idle
  let s₆ := { s₅ with mPackageQueue := s₅.mPackageQueue.eraseIdx 0 }.move true (.popped ⟨100, 64, 1⟩)
  let s₇ := s₆.move true (.finding ⟨100, 64, 1⟩)
  let s₈ := s₇.move true (.entered 0 1)
  let s₉ := (s₈.take 0 1 7).move true (.running 0)
  let s₁₀ := (s₉.setStatus 0 .leaving).move false (.removing 0)
  have h₁ : Reach s₁ := .single (.construct false 64 rfl (by decide))
  have h₂ : Reach s₂ := h₁.tail (.addCallback false 0 rfl (by decide))
  have h₃ : Reach s₃ := h₂.tail (.constructed false 0 rfl)
  have h₄ : Reach s₄ := h₃.tail (.store false 0 7 100 rfl (by decide) rfl)
  have h₅ : Reach s₅ := h₄.tail (.submit false 0 100 rfl)
  have h₆ : Reach s₆ := h₅.tail (.pop true 0 ⟨100, 64, 1⟩ rfl rfl)
  have h₇ : Reach s₇ := h₆.tail (.lockShared true ⟨100, 64, 1⟩ rfl (by decide))
  have h₈ : Reach s₈ := h₇.tail (.found true ⟨100, 64, 1⟩ 0 rfl (by decide))
  have h₉ : Reach s₉ := h₈.tail (.take true 0 1 7 rfl (by decide))
  have hreach : Reach s₁₀ := h₉.tail (.destroy false 0 rfl (by decide) rfl (by rintro (_ | _) _ <;> nofun))
  exact ⟨s₁₀, rfl, rfl, rfl, ((workers_used_alive hreach).1 true 0 rfl).2⟩

end Runs

end WorkerLifetime
