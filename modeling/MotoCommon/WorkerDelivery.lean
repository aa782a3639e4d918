/-
**What the worker delivers.**

As long as no package is stored while another call of `schedule` is between its two parts, the call
that is there was the last to store a package, and the id it reads is that of its own package.  When
two calls overlap, the package of the first one is in the map under an id that no thread and no entry
of the queue knows, and none ever will: it is never delivered.

Main definitions:

* `Adpf.Worker.Token`, `Adpf.Worker.Handed` — an entry that is under way, a package that is handed over;
* `Adpf.Worker.Tidy`, `Adpf.Worker.Lost` — what holds before and after calls have overlapped;
* `Adpf.Worker.Inv` — the invariant of all interleavings.

Main results:

* `Adpf.Worker.Inv.step`, `Adpf.Worker.reach_inv` — every step and every interleaving keeps the
  invariant;
* `Adpf.Worker.delivered_once_iff` — **everything is delivered once exactly when no calls overlapped**.
-/

import Mathlib.Data.List.Perm.Basic
import MotoCommon.BackgroundWorker
import MotoCommon.ConcLocks

set_option autoImplicit false

namespace Adpf

open Conc

namespace Worker

variable {α : Type}

/-! ### The invariant -/

section Invariant

variable {ι : Type} [DecidableEq ι] {phases : ι → Phase α} {w w' : Worker α} {i : ι}
  {ph ph' : Phase α}

/-- The pool has an entry, or a thread will give it one, or has taken it. -/
def Token (phases : ι → Phase α) (w : Worker α) (p : Package) : Prop :=
  p ∈ w.mPackageQueue ∨ ∃ i, phases i = .submits p ∨ phases i = .popped p

/-- The callback has a package, or is about to have it. -/
def Handed (phases : ι → Phase α) (w : Worker α) (job : Job α) : Prop :=
  job ∈ w.delivered ∨ ∃ i, phases i = .taken job

/-- What holds in any case: the ids of the packages are those up to the counter, each once; what is in
the map was scheduled; and nothing is handed over twice. -/
structure Base (phases : ι → Phase α) (w : Worker α) : Prop where
  nodup : (w.scheduled.map Job.packageId).Nodup
  ids : ∀ k, k ∈ w.scheduled.map Job.packageId ↔ 1 ≤ k ∧ k ≤ w.mPackageIdCounter
  packages : ∀ k package, w.mPackages.lookup k = some package →
    ∃ t, ⟨k, package, t⟩ ∈ w.scheduled
  gone : ∀ job, Handed phases w job →
    job.packageId ≤ w.mPackageIdCounter ∧ w.mPackages.lookup job.packageId = none
  once : (w.delivered.map Job.packageId).Nodup
  apart : ∀ i job, phases i = .taken job → job.packageId ∉ w.delivered.map Job.packageId ∧
    ∀ j job', phases j = .taken job' → job'.packageId = job.packageId → j = i

/-- What holds while no calls have overlapped: at most one call is between its parts, and it was the
last to store a package, which nobody else knows of; all entries are what they should be; and every
package is handed over, or is in the map with an entry under way. -/
structure Tidy (phases : ι → Phase α) (w : Worker α) : Prop where
  idle : w.between = 0 → ∀ i k t, phases i ≠ .stored k t
  busy : w.between ≠ 0 → w.between = 1 ∧ ∃ i t, phases i = .stored w.mPackageIdCounter t ∧
    (∃ package, ⟨w.mPackageIdCounter, package, t⟩ ∈ w.scheduled) ∧
    (∀ j k t', phases j = .stored k t' → j = i) ∧
    (∀ p, Token phases w p → p.packageId ≠ w.mPackageIdCounter) ∧
    (∀ job, Handed phases w job → job.packageId ≠ w.mPackageIdCounter)
  tokens : ∀ p, Token phases w p → ∃ package, ⟨p.packageId, package, p.deadline⟩ ∈ w.scheduled
  handed : ∀ job, Handed phases w job → job ∈ w.scheduled
  covered : ∀ job ∈ w.scheduled, Handed phases w job ∨
    (w.mPackages.lookup job.packageId = some job.package ∧
      (Token phases w ⟨job.deadline, job.packageId⟩ ∨
        ∃ i, phases i = .stored job.packageId job.deadline))

/-- What holds once calls have overlapped: there is a package that nobody knows of any more. -/
def Lost (phases : ι → Phase α) (w : Worker α) : Prop :=
  ∃ k, 1 ≤ k ∧ k < w.mPackageIdCounter ∧ (∀ p, Token phases w p → p.packageId ≠ k) ∧
    ∀ job, Handed phases w job → job.packageId ≠ k

/-- The invariant. -/
structure Inv (phases : ι → Phase α) (w : Worker α) : Prop extends Base phases w where
  tidy : w.overlapped = false → Tidy phases w
  lost : w.overlapped = true → Lost phases w

/-! ### What a step does to the entries and the packages -/

/-- Some thread other than `i` has something in hand. -/
def Elsewhere (phases : ι → Phase α) (i : ι) (P : Phase α → Prop) : Prop := ∃ j, j ≠ i ∧ P (phases j)

omit [DecidableEq ι] in
theorem exists_iff_elsewhere {P : Phase α → Prop} (h : phases i = ph) :
    (∃ j, P (phases j)) ↔ P ph ∨ Elsewhere phases i P := by
  constructor
  · rintro ⟨j, hj⟩
    by_cases hji : j = i
    · rw [hji, h] at hj
      exact Or.inl hj
    · exact Or.inr ⟨j, hji, hj⟩
  · rintro (hp | ⟨j, -, hj⟩)
    · exact ⟨i, h ▸ hp⟩
    · exact ⟨j, hj⟩

theorem elsewhere_update {P : Phase α → Prop} :
    Elsewhere (Function.update phases i ph') i P ↔ Elsewhere phases i P := by
  refine exists_congr fun j => and_congr_right fun hj => ?_
  rw [Function.update_of_ne hj]

/-- A thread has an entry in hand. -/
def HoldsToken (p : Package) (ph : Phase α) : Prop := ph = .submits p ∨ ph = .popped p

omit [DecidableEq ι] in
theorem token_iff (hi : phases i = ph) {p : Package} : Token phases w p ↔
    p ∈ w.mPackageQueue ∨ HoldsToken p ph ∨ Elsewhere phases i (HoldsToken p) :=
  or_congr_right (exists_iff_elsewhere (P := HoldsToken p) hi)

theorem token_update {p : Package} : Token (Function.update phases i ph') w p ↔
    p ∈ w.mPackageQueue ∨ HoldsToken p ph' ∨ Elsewhere phases i (HoldsToken p) := by
  rw [token_iff (Function.update_self ..), elsewhere_update]

omit [DecidableEq ι] in
theorem handed_iff (hi : phases i = ph) {job : Job α} : Handed phases w job ↔
    job ∈ w.delivered ∨ ph = .taken job ∨ Elsewhere phases i (· = .taken job) :=
  or_congr_right (exists_iff_elsewhere (P := (· = .taken job)) hi)

theorem handed_update {job : Job α} : Handed (Function.update phases i ph') w job ↔
    job ∈ w.delivered ∨ ph' = .taken job ∨ Elsewhere phases i (· = .taken job) := by
  rw [handed_iff (Function.update_self ..), elsewhere_update]

theorem mem_of_getElem? {l : List Package} {n : ℕ} {p : Package} (h : l[n]? = some p) (q : Package) :
    q ∈ l ↔ q = p ∨ q ∈ l.eraseIdx n := by
  obtain ⟨hlt, hget⟩ := List.getElem?_eq_some_iff.1 h
  have hperm : (p :: l.eraseIdx n).Perm l := hget ▸ List.getElem_cons_eraseIdx_perm hlt
  rw [← hperm.mem_iff, List.mem_cons]

/-- After a step there are no new entries, but for the id that a call reads. -/
theorem PhaseStep.token (h : PhaseStep ph w ph' w') (hi : phases i = ph) {p : Package}
    (hp : Token (Function.update phases i ph') w' p) :
    Token phases w p ∨ ∃ k, ph = .stored k p.deadline ∧ p.packageId = w.mPackageIdCounter := by
  rw [token_update] at hp
  rw [token_iff hi]
  cases h with
  | skip => exact Or.inl hp
  | store package t => exact Or.inl (by simpa [HoldsToken, Worker.store] using hp)
  | read k t =>
      rcases hp with hq | (hs | hs) | he
      · exact Or.inl (Or.inl hq)
      · obtain rfl := Phase.submits.inj hs
        exact Or.inr ⟨k, rfl, rfl⟩
      · cases hs
      · exact Or.inl (Or.inr (Or.inr he))
  | emplace q =>
      rcases hp with hq | (hs | hs) | he
      · rcases List.mem_cons.1 hq with rfl | hold
        · exact Or.inl (Or.inr (Or.inl (Or.inl rfl)))
        · exact Or.inl (Or.inl hold)
      · cases hs
      · cases hs
      · exact Or.inl (Or.inr (Or.inr he))
  | pop q _ n hq =>
      left
      rw [mem_of_getElem? hq]
      rcases hp with hmem | (hs | hs) | he
      · exact Or.inl (Or.inr hmem)
      · cases hs
      · obtain rfl := Phase.popped.inj hs
        exact Or.inl (Or.inl rfl)
      · exact Or.inr (Or.inr he)
  | drop q =>
      have hold : p ∈ w.mPackageQueue ∨ Elsewhere phases i (HoldsToken p) := by
        simpa [HoldsToken] using hp
      exact Or.inl (hold.imp_right Or.inr)
  | take q package =>
      have hold : p ∈ w.mPackageQueue ∨ Elsewhere phases i (HoldsToken p) := by
        simpa [HoldsToken] using hp
      exact Or.inl (hold.imp_right Or.inr)
  | deliver job => exact Or.inl (by simpa [HoldsToken, Worker.deliver] using hp)

/-- After a step all entries are there, but for the one that `process` was given. -/
theorem PhaseStep.token_of (h : PhaseStep ph w ph' w') (hi : phases i = ph) {p : Package}
    (hp : Token phases w p) :
    Token (Function.update phases i ph') w' p ∨
      (ph = .popped p ∧ w'.mPackages.lookup p.packageId = none) := by
  rw [token_iff hi] at hp
  rw [token_update]
  cases h with
  | skip => exact Or.inl hp
  | store package t => exact Or.inl (by simpa [HoldsToken, Worker.store] using hp)
  | read k t =>
      have hold : p ∈ w.mPackageQueue ∨ Elsewhere phases i (HoldsToken p) := by
        simpa [HoldsToken] using hp
      exact Or.inl (hold.imp_right Or.inr)
  | emplace q =>
      left
      rcases hp with hq | (hs | hs) | he
      · exact Or.inl (List.mem_cons_of_mem _ hq)
      · obtain rfl := Phase.submits.inj hs
        exact Or.inl (List.mem_cons_self ..)
      · cases hs
      · exact Or.inr (Or.inr he)
  | pop q _ n hq =>
      left
      rw [mem_of_getElem? hq] at hp
      rcases hp with (rfl | hmem) | (hs | hs) | he
      · exact Or.inr (Or.inl (Or.inr rfl))
      · exact Or.inl hmem
      · cases hs
      · cases hs
      · exact Or.inr (Or.inr he)
  | drop q _ hl =>
      rcases hp with hq | (hs | hs) | he
      · exact Or.inl (Or.inl hq)
      · cases hs
      · obtain rfl := Phase.popped.inj hs
        exact Or.inr ⟨rfl, hl⟩
      · exact Or.inl (Or.inr (Or.inr he))
  | take q package _ hl =>
      rcases hp with hq | (hs | hs) | he
      · exact Or.inl (Or.inl hq)
      · cases hs
      · obtain rfl := Phase.popped.inj hs
        exact Or.inr ⟨rfl, by simp⟩
      · exact Or.inl (Or.inr (Or.inr he))
  | deliver job => exact Or.inl (by simpa [HoldsToken, Worker.deliver] using hp)

/-- After a step nothing else is handed over, but for the package that `process` found. -/
theorem PhaseStep.handed (h : PhaseStep ph w ph' w') (hi : phases i = ph) {job : Job α}
    (hj : Handed (Function.update phases i ph') w' job) :
    Handed phases w job ∨ (ph' = .taken job ∧ ph = .popped ⟨job.deadline, job.packageId⟩ ∧
      w.mPackages.lookup job.packageId = some job.package ∧
      w'.mPackages.lookup job.packageId = none) := by
  rw [handed_update] at hj
  rw [handed_iff hi]
  cases h with
  | skip => exact Or.inl hj
  | store package t => exact Or.inl (by simpa [Worker.store] using hj)
  | read k t => exact Or.inl (by simpa [readCounter] using hj)
  | emplace q => exact Or.inl (by simpa [Worker.emplace] using hj)
  | pop q _ n hq => exact Or.inl (by simpa using hj)
  | drop q => exact Or.inl (by simpa using hj)
  | take q package _ hl =>
      rcases hj with hd | ht | he
      · exact Or.inl (Or.inl hd)
      · obtain rfl := Phase.taken.inj ht
        exact Or.inr ⟨rfl, rfl, hl, by simp⟩
      · exact Or.inl (Or.inr (Or.inr he))
  | deliver job' =>
      left
      rcases hj with hd | ht | he
      · rcases List.mem_cons.1 hd with rfl | hold
        · exact Or.inr (Or.inl rfl)
        · exact Or.inl hold
      · cases ht
      · exact Or.inr (Or.inr he)

/-- After a step what was handed over still is. -/
theorem PhaseStep.handed_of (h : PhaseStep ph w ph' w') (hi : phases i = ph) {job : Job α}
    (hj : Handed phases w job) : Handed (Function.update phases i ph') w' job := by
  rw [handed_iff hi] at hj
  rw [handed_update]
  cases h with
  | skip => exact hj
  | store package t => simpa [Worker.store] using hj
  | read k t => simpa [readCounter] using hj
  | emplace q => simpa [Worker.emplace] using hj
  | pop q _ n hq => simpa using hj
  | drop q => simpa using hj
  | take q package _ hl =>
      have hold : job ∈ w.delivered ∨ Elsewhere phases i (· = .taken job) := by simpa using hj
      exact hold.imp_right Or.inr
  | deliver job' =>
      rcases hj with hd | ht | he
      · exact Or.inl (List.mem_cons_of_mem _ hd)
      · obtain rfl := Phase.taken.inj ht
        exact Or.inl (List.mem_cons_self ..)
      · exact Or.inr (Or.inr he)

/-! ### Every step keeps the invariant -/

/-- A thread that does not take a package leaves those in hand as they are. -/
theorem taken_of_update {job : Job α} {j : ι} (hph : ∀ job', ph' ≠ .taken job')
    (h : Function.update phases i ph' j = .taken job) : j ≠ i ∧ phases j = .taken job := by
  by_cases hj : j = i
  · subst hj
    rw [Function.update_self] at h
    exact absurd h (hph job)
  · rw [Function.update_of_ne hj] at h
    exact ⟨hj, h⟩

omit [DecidableEq ι] in
/-- The next id is not in use. -/
theorem Base.fresh (h : Base phases w) : w.mPackages.lookup (w.mPackageIdCounter + 1) = none := by
  by_contra hne
  obtain ⟨package, hl⟩ := Option.ne_none_iff_exists'.1 hne
  obtain ⟨t, hmem⟩ := h.packages _ _ hl
  have hid := (h.ids _).1 (List.mem_map_of_mem hmem)
  simp only at hid
  omega

omit [DecidableEq ι] in
theorem Base.mPackages_store (h : Base phases w) (package : α) (t : ℤ) :
    (w.store package t).mPackages = w.mPackages.insert (w.mPackageIdCounter + 1) package := by
  have hnot : w.mPackageIdCounter + 1 ∉ w.mPackages := by
    rw [← AList.lookup_isSome, h.fresh]
    simp
  simp only [store, if_neg hnot]

theorem Base.store (h : Base phases w) (hi : phases i = .free) (package : α) (t : ℤ) :
    Base (Function.update phases i (.stored (w.mPackageIdCounter + 1) t)) (w.store package t) := by
  have hmap := h.mPackages_store package t
  have hnew : w.mPackageIdCounter + 1 ∉ w.scheduled.map Job.packageId := by
    intro hmem
    have := (h.ids _).1 hmem
    omega
  refine ⟨List.nodup_cons.2 ⟨hnew, h.nodup⟩, ?_, ?_, ?_, h.once, ?_⟩
  · intro k
    simp only [Worker.store, List.map_cons, List.mem_cons, h.ids]
    omega
  · intro k a hl
    rw [hmap, UMap.lookup_insert_eq] at hl
    by_cases hk : k = w.mPackageIdCounter + 1
    · rw [if_pos hk] at hl
      obtain rfl := Option.some.inj hl
      exact ⟨t, hk ▸ List.mem_cons_self ..⟩
    · rw [if_neg hk] at hl
      obtain ⟨t', hmem⟩ := h.packages k a hl
      exact ⟨t', List.mem_cons_of_mem _ hmem⟩
  · intro job hj
    rcases (PhaseStep.store package t w).handed hi hj with hold | ⟨hph, -⟩
    · obtain ⟨hle, hnone⟩ := h.gone job hold
      have hne : job.packageId ≠ w.mPackageIdCounter + 1 := by omega
      rw [hmap, UMap.lookup_insert_eq, if_neg hne]
      exact ⟨Nat.le_succ_of_le hle, hnone⟩
    · cases hph
  · intro j job hj
    obtain ⟨-, hj⟩ := taken_of_update (by simp) hj
    refine ⟨(h.apart j job hj).1, fun j' job' hj' => ?_⟩
    exact (h.apart j job hj).2 j' job' (taken_of_update (by simp) hj').2

/-- A step that stores nothing, takes nothing and delivers nothing. -/
theorem Base.quiet (h : Base phases w) (hi : phases i = ph) (hstep : PhaseStep ph w ph' w')
    (hph : ∀ job, ph' ≠ .taken job) (hsched : w'.scheduled = w.scheduled)
    (hcount : w'.mPackageIdCounter = w.mPackageIdCounter) (hpack : w'.mPackages = w.mPackages)
    (hdel : w'.delivered = w.delivered) : Base (Function.update phases i ph') w' := by
  refine ⟨hsched ▸ h.nodup, by rw [hsched, hcount]; exact h.ids,
    by rw [hsched, hpack]; exact h.packages, ?_, hdel ▸ h.once, ?_⟩
  · intro job hj
    rw [hcount, hpack]
    rcases hstep.handed hi hj with hold | ⟨htaken, -⟩
    · exact h.gone job hold
    · exact absurd htaken (hph job)
  · intro j job hj
    obtain ⟨-, hj⟩ := taken_of_update hph hj
    rw [hdel]
    exact ⟨(h.apart j job hj).1, fun j' job' hj' =>
      (h.apart j job hj).2 j' job' (taken_of_update hph hj').2⟩

omit [DecidableEq ι] in
/-- A package that is still in the map has not been handed over. -/
theorem Base.packageId_ne (h : Base phases w) {k : ℕ} {package : α}
    (hl : w.mPackages.lookup k = some package) {job : Job α} (hj : Handed phases w job) :
    job.packageId ≠ k := by
  intro heq
  have hnone := (h.gone job hj).2
  rw [heq, hl] at hnone
  cases hnone

theorem Base.take (h : Base phases w) {p : Package} {package : α} (hi : phases i = .popped p)
    (hl : w.mPackages.lookup p.packageId = some package) :
    Base (Function.update phases i (.taken ⟨p.packageId, package, p.deadline⟩))
      { w with mPackages := w.mPackages.erase p.packageId } := by
  have hnot : ∀ job, Handed phases w job → job.packageId ≠ p.packageId :=
    fun job hj => h.packageId_ne hl hj
  obtain ⟨t, hmem⟩ := h.packages _ _ hl
  have hle := ((h.ids _).1 (List.mem_map_of_mem hmem)).2
  refine ⟨h.nodup, h.ids, ?_, ?_, h.once, ?_⟩
  · intro k a hl'
    rw [UMap.lookup_erase_eq] at hl'
    split at hl'
    · cases hl'
    · exact h.packages k a hl'
  · intro job hj
    rw [UMap.lookup_erase_eq]
    rcases (PhaseStep.take p package w hl).handed hi hj with hold | ⟨htaken, -⟩
    · rw [if_neg (hnot job hold)]
      exact h.gone job hold
    · obtain rfl := Phase.taken.inj htaken
      exact ⟨hle, if_pos rfl⟩
  · intro j job hj
    by_cases hji : j = i
    · subst hji
      rw [Function.update_self] at hj
      obtain rfl := Phase.taken.inj hj
      refine ⟨fun hmem => ?_, fun j' job' hj' hid => ?_⟩
      · obtain ⟨job, hjob, hid⟩ := List.mem_map.1 hmem
        exact hnot job (Or.inl hjob) hid
      · by_contra hne
        rw [Function.update_of_ne hne] at hj'
        exact hnot job' (Or.inr ⟨j', hj'⟩) hid
    · rw [Function.update_of_ne hji] at hj
      refine ⟨(h.apart j job hj).1, fun j' job' hj' hid => ?_⟩
      by_cases hj'i : j' = i
      · subst hj'i
        rw [Function.update_self] at hj'
        obtain rfl := Phase.taken.inj hj'
        exact absurd hid.symm (hnot job (Or.inr ⟨j, hj⟩))
      · rw [Function.update_of_ne hj'i] at hj'
        exact (h.apart j job hj).2 j' job' hj' hid

theorem Base.step (h : Base phases w) (hi : phases i = ph) (hstep : PhaseStep ph w ph' w') :
    Base (Function.update phases i ph') w' := by
  cases hstep with
  | skip =>
      rw [← hi, Function.update_eq_self]
      exact h
  | store package t => exact h.store hi package t
  | read k t => exact h.quiet hi (.read k t w) (by simp) rfl rfl rfl rfl
  | emplace p => exact h.quiet hi (.emplace p w) (by simp) rfl rfl rfl rfl
  | pop p _ n hp => exact h.quiet hi (.pop p w n hp) (by simp) rfl rfl rfl rfl
  | drop p _ hl => exact h.quiet hi (.drop p w hl) (by simp) rfl rfl rfl rfl
  | take p package _ hl => exact h.take hi hl
  | deliver job =>
      obtain ⟨hfresh, halone⟩ := h.apart i job hi
      refine ⟨h.nodup, h.ids, h.packages, ?_, List.nodup_cons.2 ⟨hfresh, h.once⟩, ?_⟩
      · intro job' hj'
        rcases (PhaseStep.deliver job w).handed hi hj' with hold | ⟨htaken, -⟩
        · exact h.gone job' hold
        · cases htaken
      · intro j job' hj'
        obtain ⟨hji, hj'⟩ := taken_of_update (by simp) hj'
        refine ⟨?_, fun j'' job'' hj'' hid => ?_⟩
        · simp only [Worker.deliver, List.map_cons, List.mem_cons, not_or]
          exact ⟨fun hid => hji (halone j job' hj' hid), (h.apart j job' hj').1⟩
        · exact (h.apart j job' hj').2 j'' job'' (taken_of_update (by simp) hj'').2 hid

omit [DecidableEq ι] in
/-- A job is known by its id. -/
theorem Base.unique (h : Base phases w) {job job' : Job α} (hj : job ∈ w.scheduled)
    (hj' : job' ∈ w.scheduled) (hid : job.packageId = job'.packageId) : job = job' :=
  List.inj_on_of_nodup_map h.nodup hj hj' hid

theorem Lost.step (h : Lost phases w) (hi : phases i = ph) (hstep : PhaseStep ph w ph' w') :
    Lost (Function.update phases i ph') w' := by
  obtain ⟨k, hpos, hlt, htokens, hhanded⟩ := h
  have hcount : w.mPackageIdCounter ≤ w'.mPackageIdCounter := by
    cases hstep with
    | store package t => exact Nat.le_succ _
    | _ => exact le_rfl
  refine ⟨k, hpos, by omega, fun p hp => ?_, fun job hj => ?_⟩
  · rcases hstep.token hi hp with hold | ⟨_, -, hid⟩
    · exact htokens p hold
    · omega
  · rcases hstep.handed hi hj with hold | ⟨-, hpopped, -⟩
    · exact hhanded job hold
    · exact htokens ⟨job.deadline, job.packageId⟩ (Or.inr ⟨i, Or.inr (hi.trans hpopped)⟩)

/-- A package that is stored while another call is between its parts makes that call's package
unknown to all. -/
theorem Tidy.lost (h : Tidy phases w) (hb : Base phases w) (hi : phases i = .free)
    (hbetween : w.between ≠ 0) (package : α) (t : ℤ) :
    Lost (Function.update phases i (.stored (w.mPackageIdCounter + 1) t)) (w.store package t) := by
  obtain ⟨-, j, t', -, ⟨a, hmem⟩, -, htokens, hhanded⟩ := h.busy hbetween
  have hpos := ((hb.ids _).1 (List.mem_map_of_mem hmem)).1
  refine ⟨w.mPackageIdCounter, hpos, Nat.lt_succ_self _, fun p hp => ?_, fun job hj => ?_⟩
  · rcases (PhaseStep.store package t w).token hi hp with hold | ⟨_, hph, -⟩
    · exact htokens p hold
    · cases hph
  · rcases (PhaseStep.store package t w).handed hi hj with hold | ⟨hph, -⟩
    · exact hhanded job hold
    · cases hph

/-- A package is stored while no call is between its parts. -/
theorem Tidy.store (h : Tidy phases w) (hb : Base phases w) (hi : phases i = .free)
    (hbetween : w.between = 0) (package : α) (t : ℤ) :
    Tidy (Function.update phases i (.stored (w.mPackageIdCounter + 1) t)) (w.store package t) := by
  have hstep := PhaseStep.store package t w
  have htoken : ∀ p, Token (Function.update phases i (.stored (w.mPackageIdCounter + 1) t))
      (w.store package t) p → Token phases w p := by
    intro p hp
    rcases hstep.token hi hp with hold | ⟨_, hph, -⟩
    · exact hold
    · cases hph
  have hhand : ∀ job, Handed (Function.update phases i (.stored (w.mPackageIdCounter + 1) t))
      (w.store package t) job → Handed phases w job := by
    intro job hj
    rcases hstep.handed hi hj with hold | ⟨hph, -⟩
    · exact hold
    · cases hph
  refine ⟨fun hzero => absurd hzero (Nat.succ_ne_zero _), fun _ => ⟨by simp [Worker.store, hbetween], ?_⟩,
    ?_, ?_, ?_⟩
  · refine ⟨i, t, Function.update_self .., ⟨package, List.mem_cons_self ..⟩, ?_, ?_, ?_⟩
    · intro j k t' hj
      by_contra hne
      rw [Function.update_of_ne hne] at hj
      exact h.idle hbetween j k t' hj
    · intro p hp
      obtain ⟨a, hmem⟩ := h.tokens p (htoken p hp)
      have hle := ((hb.ids _).1 (List.mem_map_of_mem hmem)).2
      simp only [Worker.store] at hle ⊢
      omega
    · intro job hj
      have hle := (hb.gone job (hhand job hj)).1
      simp only [Worker.store]
      omega
  · intro p hp
    obtain ⟨a, hmem⟩ := h.tokens p (htoken p hp)
    exact ⟨a, List.mem_cons_of_mem _ hmem⟩
  · exact fun job hj => List.mem_cons_of_mem _ (h.handed job (hhand job hj))
  · intro job hjob
    rw [hb.mPackages_store, UMap.lookup_insert_eq]
    rcases List.mem_cons.1 hjob with rfl | hold
    · exact Or.inr ⟨if_pos rfl, Or.inr ⟨i, Function.update_self ..⟩⟩
    · have hle := ((hb.ids _).1 (List.mem_map_of_mem hold)).2
      rcases h.covered job hold with hj | ⟨hl, hp | ⟨j, hj⟩⟩
      · exact Or.inl (hstep.handed_of hi hj)
      · right
        refine ⟨by rw [if_neg (by omega)]; exact hl, Or.inl ?_⟩
        rcases hstep.token_of hi hp with hp' | ⟨hph, -⟩
        · exact hp'
        · cases hph
      · exact absurd hj (h.idle hbetween j _ _)

/-- The call that is between its parts reads the counter: it finds the id of its own package. -/
theorem Tidy.read (h : Tidy phases w) {k : ℕ} {t : ℤ} (hi : phases i = .stored k t) :
    Tidy (Function.update phases i (.submits ⟨t, w.mPackageIdCounter⟩)) w.readCounter.2 := by
  have hstep := PhaseStep.read (α := α) k t w
  have hbetween : w.between ≠ 0 := fun hzero => h.idle hzero i k t hi
  obtain ⟨hone, j, t', hj, ⟨a, hmem⟩, hunique, -, -⟩ := h.busy hbetween
  obtain rfl := hunique i k t hi
  obtain ⟨rfl, rfl⟩ := Phase.stored.inj (hi.symm.trans hj)
  have hzero : w.readCounter.2.between = 0 := by simp [readCounter, hone]
  refine ⟨fun _ j k' t' hj' => ?_, fun hne => absurd hzero hne, ?_, ?_, ?_⟩
  · by_cases hji : j = i
    · subst hji
      rw [Function.update_self] at hj'
      cases hj'
    · rw [Function.update_of_ne hji] at hj'
      exact hji (hunique j k' t' hj')
  · intro p hp
    rcases hstep.token hi hp with hold | ⟨k', hph, hid⟩
    · exact h.tokens p hold
    · obtain ⟨-, rfl⟩ := Phase.stored.inj hph
      exact ⟨a, hid ▸ hmem⟩
  · intro job hj
    rcases hstep.handed hi hj with hold | ⟨hph, -⟩
    · exact h.handed job hold
    · cases hph
  · intro job hjob
    rcases h.covered job hjob with hhand | ⟨hl, hp | ⟨j', hj'⟩⟩
    · exact Or.inl (hstep.handed_of hi hhand)
    · refine Or.inr ⟨hl, Or.inl ?_⟩
      rcases hstep.token_of hi hp with hp' | ⟨hph, -⟩
      · exact hp'
      · cases hph
    · -- the entry that the call will pass on is that of its own package
      obtain rfl := hunique j' _ _ hj'
      obtain ⟨hid, hdl⟩ := Phase.stored.inj (hi.symm.trans hj')
      refine Or.inr ⟨hl, Or.inl (Or.inr ⟨j', Or.inl ?_⟩)⟩
      rw [Function.update_self, hid, hdl]

/-- A thread that is not between the parts of `schedule`, neither before nor after, leaves those that are as
they are. -/
theorem update_stored_iff (hi : phases i = ph) (hph : ∀ k t, ph ≠ .stored k t)
    (hph' : ∀ k t, ph' ≠ .stored k t) (j : ι) (k : ℕ) (t : ℤ) :
    Function.update phases i ph' j = .stored k t ↔ phases j = .stored k t := by
  by_cases hji : j = i
  · rw [hji, Function.update_self, hi]
    exact iff_of_false (hph' k t) (hph k t)
  · rw [Function.update_of_ne hji]

/-- A step of such a thread. -/
theorem Tidy.quiet (h : Tidy phases w) (hb : Base phases w) (hi : phases i = ph)
    (hstep : PhaseStep ph w ph' w') (hph : ∀ k t, ph ≠ .stored k t) (hph' : ∀ k t, ph' ≠ .stored k t)
    (hsched : w'.scheduled = w.scheduled) (hcount : w'.mPackageIdCounter = w.mPackageIdCounter)
    (hbetween : w'.between = w.between)
    (hpack : ∀ k a, w.mPackages.lookup k = some a → w'.mPackages.lookup k = some a ∨
      ∃ t, ph = .popped ⟨t, k⟩ ∧ ph' = .taken ⟨k, a, t⟩) :
    Tidy (Function.update phases i ph') w' := by
  have hstored : ∀ j k t, Function.update phases i ph' j = .stored k t ↔ phases j = .stored k t :=
    fun j k t => update_stored_iff hi hph hph' j k t
  have htoken : ∀ p, Token (Function.update phases i ph') w' p → Token phases w p := by
    intro p hp
    rcases hstep.token hi hp with hold | ⟨k, heq, -⟩
    · exact hold
    · exact absurd heq (hph k _)
  -- what is handed over was so before, or had an entry
  have hhand : ∀ job, Handed (Function.update phases i ph') w' job → Handed phases w job ∨
      (Token phases w ⟨job.deadline, job.packageId⟩ ∧
        w.mPackages.lookup job.packageId = some job.package) := by
    intro job hj
    rcases hstep.handed hi hj with hold | ⟨-, hpopped, hl, -⟩
    · exact Or.inl hold
    · exact Or.inr ⟨Or.inr ⟨i, Or.inr (hi.trans hpopped)⟩, hl⟩
  refine ⟨?_, ?_, ?_, ?_, ?_⟩
  · rw [hbetween]
    exact fun hzero j k t hj => h.idle hzero j k t ((hstored j k t).1 hj)
  · rw [hbetween, hcount, hsched]
    intro hne
    obtain ⟨hone, j, t, hj, hmem, hunique, htokens, hhanded⟩ := h.busy hne
    refine ⟨hone, j, t, (hstored j _ t).2 hj, hmem,
      fun j' k t' hj' => hunique j' k t' ((hstored j' k t').1 hj'), fun p hp => htokens p (htoken p hp), fun job hj' => ?_⟩
    rcases hhand job hj' with hold | ⟨hp, -⟩
    · exact hhanded job hold
    · exact htokens _ hp
  · rw [hsched]
    exact fun p hp => h.tokens p (htoken p hp)
  · rw [hsched]
    intro job hj
    rcases hhand job hj with hold | ⟨hp, hl⟩
    · exact h.handed job hold
    · obtain ⟨a, hmem⟩ := h.tokens _ hp
      obtain ⟨t, hmem'⟩ := hb.packages _ _ hl
      obtain ⟨-, rfl, -⟩ := Job.mk.inj (hb.unique hmem hmem' rfl)
      exact hmem
  · rw [hsched]
    intro job hjob
    rcases h.covered job hjob with hj | ⟨hl, hway⟩
    · exact Or.inl (hstep.handed_of hi hj)
    · rcases hpack _ _ hl with hl' | ⟨t, hpopped, htaken⟩
      · refine Or.inr ⟨hl', ?_⟩
        rcases hway with hp | ⟨j, hj⟩
        · rcases hstep.token_of hi hp with hp' | ⟨-, hnone⟩
          · exact Or.inl hp'
          · rw [hl'] at hnone
            cases hnone
        · exact Or.inr ⟨j, (hstored j _ _).2 hj⟩
      · -- the package is taken out, under its own deadline
        obtain ⟨a, hmem⟩ := h.tokens ⟨t, job.packageId⟩ (Or.inr ⟨i, Or.inr (hi.trans hpopped)⟩)
        have hdl : t = job.deadline := congrArg Job.deadline (hb.unique hmem hjob rfl)
        exact Or.inl (Or.inr ⟨i, by rw [Function.update_self, htaken, hdl]⟩)

theorem Inv.step (h : Inv phases w) (hi : phases i = ph) (hstep : PhaseStep ph w ph' w') :
    Inv (Function.update phases i ph') w' := by
  refine ⟨h.toBase.step hi hstep, fun hover => ?_, fun hover => ?_⟩
  · cases hstep with
    | skip =>
        rw [← hi, Function.update_eq_self]
        exact h.tidy hover
    | store package t =>
        have hboth : w.overlapped = false ∧ w.between = 0 := by
          simpa [store] using hover
        exact (h.tidy hboth.1).store h.toBase hi hboth.2 package t
    | read k t => exact (h.tidy hover).read hi
    | emplace p =>
        exact (h.tidy hover).quiet h.toBase hi (.emplace p w) (by simp) (by simp) rfl rfl rfl
          fun k a hl => Or.inl hl
    | pop p _ n hp =>
        exact (h.tidy hover).quiet h.toBase hi (.pop p w n hp) (by simp) (by simp) rfl rfl rfl
          fun k a hl => Or.inl hl
    | drop p _ hl =>
        exact (h.tidy hover).quiet h.toBase hi (.drop p w hl) (by simp) (by simp) rfl rfl rfl
          fun k a hl => Or.inl hl
    | take p package _ hl =>
        refine (h.tidy hover).quiet h.toBase hi (.take p package w hl) (by simp) (by simp) rfl rfl rfl ?_
        intro k a hk
        rw [UMap.lookup_erase_eq]
        by_cases hkp : k = p.packageId
        · subst hkp
          obtain rfl := Option.some.inj (hl.symm.trans hk)
          exact Or.inr ⟨p.deadline, rfl, rfl⟩
        · exact Or.inl (by rwa [if_neg hkp])
    | deliver job =>
        exact (h.tidy hover).quiet h.toBase hi (.deliver job w) (by simp) (by simp) rfl rfl rfl
          fun k a hl => Or.inl hl
  · by_cases hold : w.overlapped = true
    · exact (h.lost hold).step hi hstep
    · -- the step is the one in which two calls overlap for the first time
      cases hstep with
      | store package t =>
          have hbetween : w.between ≠ 0 := by
            simpa [store, hold] using hover
          exact (h.tidy (by simpa using hold)).lost h.toBase hi hbetween package t
      | _ => exact absurd hover hold

omit [DecidableEq ι] in
theorem Inv.init : Inv (fun _ : ι => .free) ({} : Worker α) where
  nodup := List.nodup_nil
  ids := fun k => by
    simp only [List.map_nil, List.not_mem_nil, false_iff]
    omega
  packages := fun k a hl => by simp at hl
  gone := fun job hj => by simp [Handed] at hj
  once := List.nodup_nil
  apart := fun i job hi => by cases hi
  tidy := fun _ =>
    { idle := fun _ i k t hi => by cases hi
      busy := fun hne => absurd rfl hne
      tokens := fun p hp => by simp [Token] at hp
      handed := fun job hj => by simp [Handed] at hj
      covered := fun job hj => by simp at hj }
  lost := fun hover => by cases hover

/-- **The invariant holds in every interleaving.** -/
theorem reach_inv {c : Config ι WorkerLock (Worker α)} (h : Reach Starts (Config.init {}) c) :
    ∃ phases : ι → Phase α, (∀ i, (phases i).Rest (c.threads i).prog) ∧ Inv phases c.state := by
  induction h with
  | refl => exact ⟨fun _ => .free, fun _ => Or.inl rfl, Inv.init⟩
  | @tail c₁ c₂ _ hstep ih =>
      obtain ⟨phases, hrest, hinv⟩ := ih
      obtain ⟨i, hi⟩ := hstep
      -- the threads other than `i` stay where they are
      have others : ∀ {ph : Phase α} {t : Thread WorkerLock (Worker α)}, ph.Rest t.prog →
          c₂.threads = Function.update c₁.threads i t →
          ∀ j, (Function.update phases i ph j).Rest (c₂.threads j).prog := by
        intro ph t hph hthreads j
        rw [hthreads]
        by_cases hj : j = i
        · subst hj
          simpa using hph
        · simpa [Function.update_of_ne hj] using hrest j
      rcases hi.next with ⟨p, hp, hstate, hthreads, hret⟩ | ⟨held, p, hnext, hthreads⟩
      · have hfree := hrest i
        rw [hret] at hfree
        refine ⟨phases, ?_, hstate ▸ hinv⟩
        have hsame : Function.update phases i .free = phases := by
          rw [← Phase.eq_free hfree, Function.update_eq_self]
        rw [← hsame]
        exact others (Phase.rest_of_starts hp) hthreads
      · obtain ⟨ph', hph', hstep⟩ := Phase.next (hrest i) hnext
        exact ⟨_, others hph' hthreads, hinv.step rfl hstep⟩

end Invariant

/-- **Exactly-once delivery.**  When all calls are over and the queue is empty, what was given to
`schedule` is what was given to the callback, each package once and under its own deadline, exactly
when no package was ever stored while another call was between its two parts. -/
theorem delivered_once_iff {ι : Type} [DecidableEq ι] {c : Config ι WorkerLock (Worker α)}
    (h : Reach Starts (Config.init {}) c) (hdrained : Drained c) :
    c.state.delivered.Perm c.state.scheduled ↔ c.state.overlapped = false := by
  obtain ⟨phases, hrest, hinv⟩ := reach_inv h
  have hfree : ∀ i, phases i = .free := fun i => Phase.eq_free (hdrained.1 i ▸ hrest i)
  have hhanded : ∀ job, Handed phases c.state job ↔ job ∈ c.state.delivered := by
    simp [Handed, hfree]
  have htoken : ∀ p, ¬ Token phases c.state p := by
    simp [Token, hfree, hdrained.2]
  constructor
  · intro hperm
    by_contra hover
    obtain ⟨k, hpos, hlt, -, hgone⟩ := hinv.lost (by simpa using hover)
    have hmem := (hinv.ids k).2 ⟨hpos, Nat.le_of_lt hlt⟩
    rw [← (hperm.map Job.packageId).mem_iff] at hmem
    obtain ⟨job, hjob, hid⟩ := List.mem_map.1 hmem
    exact hgone job ((hhanded job).2 hjob) hid
  · intro htidy
    have htidy := hinv.tidy htidy
    have hnodup : c.state.delivered.Nodup := hinv.once.of_map
    rw [List.perm_ext_iff_of_nodup hnodup hinv.nodup.of_map]
    intro job
    constructor
    · exact fun hjob => htidy.handed job ((hhanded job).2 hjob)
    · intro hjob
      rcases htidy.covered job hjob with hj | ⟨-, hp | ⟨i, hi⟩⟩
      · exact (hhanded job).1 hj
      · exact absurd hp (htoken _)
      · rw [hfree i] at hi
        cases hi

/-! ### Two runs -/

section Runs

variable {ι : Type} [DecidableEq ι]

/-- The programs hold one lock at a time. -/
theorem loop_respects (n : ℕ) : (loop n : WorkerProg α Unit).Respects (fun _ => 0) [] [] := by
  refine Prog.Respects.bind (Prog.Respects.critical (by simp) (Prog.Respects.atomic _ _)) fun p => ?_
  cases p with
  | none => exact Prog.Respects.ret () _
  | some p =>
      refine Prog.Respects.bind (Prog.Respects.critical (by simp) (Prog.Respects.atomic _ _))
        fun package => ?_
      cases package with
      | none => exact Prog.Respects.ret () _
      | some package => exact Prog.Respects.modify _ _

theorem reach_schedule (i : ι) (package : α) (t : ℤ) (w : Worker α) :
    Reach Starts (Config.init w : Config ι WorkerLock (Worker α))
      (Config.init ((schedule package t).post w)) :=
  reach_run (i := i) (Or.inl ⟨package, t, rfl⟩) rfl rfl

theorem reach_loop (i : ι) (n : ℕ) (w : Worker α) :
    Reach Starts (Config.init w : Config ι WorkerLock (Worker α)) (Config.init ((loop n).post w)) :=
  reach_run (i := i) (Or.inr ⟨n, rfl⟩) ((loop_respects n).returns w) ((loop_respects n).leaves w)

/-- One thread stores its package, another one runs its whole call, and the first one goes on. -/
theorem reach_overlap {i j : ι} (hij : i ≠ j) (package package' : α) (t t' : ℤ) (w : Worker α) :
    Reach Starts (Config.init w : Config ι WorkerLock (Worker α))
      (Config.init ((storedRest t).post ((schedule package' t').post (w.store package t)))) := by
  let waiting : ι → Thread WorkerLock (Worker α) :=
    Function.update (fun _ => Thread.idle) i ⟨[], storedRest t⟩
  have hself : waiting i = ⟨[], storedRest t⟩ := Function.update_self ..
  have hothers : ∀ k, k ≠ i → waiting k = Thread.idle := fun k hk => Function.update_of_ne hk _ _
  have hheld : ∀ k, (waiting k).held = [] := by
    intro k
    by_cases hk : k = i
    · rw [hk, hself]
    · rw [hothers k hk]
      rfl
  have hfirst : Reach Starts (Config.init w) ⟨w.store package t, waiting⟩ := by
    have hreach : Reach Starts
        ⟨w, Function.update (fun _ => Thread.idle) i ⟨[], schedule package t⟩⟩ _ :=
      reach_first (Prog.critical .workerMutex (Prog.modify (store package t))) (fun _ => storedRest t)
        [] w _ rfl (Function.update_self ..) fun k hk => by rw [Function.update_of_ne hk]; rfl
    rw [Function.update_idem] at hreach
    exact Relation.ReflTransGen.head ⟨i, Step.start rfl (Or.inl ⟨package, t, rfl⟩)⟩ hreach
  have hsecond : Reach Starts ⟨w.store package t, waiting⟩
      ⟨(schedule package' t').post (w.store package t), waiting⟩ :=
    reach_call (c := ⟨w.store package t, waiting⟩) (Or.inl ⟨package', t', rfl⟩)
      (hothers j hij.symm) (fun k _ => hheld k) rfl rfl
  have hthird : Reach Starts ⟨(schedule package' t').post (w.store package t), waiting⟩ _ :=
    reach_alone (storedRest t) [] _ waiting rfl hself fun k _ => hheld k
  have hend : Function.update waiting i ⟨[], Prog.ret ()⟩ = fun _ => Thread.idle := by
    rw [Function.update_idem]
    exact Function.update_eq_self i _
  have hall := (hfirst.trans hsecond).trans hthird
  rwa [show (storedRest t).leaves [] ((schedule package' t').post (w.store package t)) = [] from rfl,
    hend] at hall

end Runs

/-- Two packages are scheduled one after the other, and delivered. -/
theorem delivered_once_of_two :
    ∃ c : Config (Fin 2) WorkerLock (Worker ℕ), Reach Starts (Config.init {}) c ∧ Drained c ∧
      c.state.delivered = [⟨1, 10, 200⟩, ⟨2, 20, 100⟩] ∧
      c.state.delivered.Perm c.state.scheduled := by
  have hreach := (((reach_schedule (0 : Fin 2) 10 200 {}).trans (reach_schedule 1 20 100 _)).trans
    (reach_loop 0 0 _)).trans (reach_loop 0 0 _)
  have hqueue : ((loop 0).post ((loop 0).post ((schedule 20 100).post
      ((schedule 10 200).post ({} : Worker ℕ))))).mPackageQueue = [] := by decide +kernel
  refine ⟨_, hreach, ⟨fun _ => rfl, hqueue⟩, by decide +kernel, ?_⟩
  exact (delivered_once_iff hreach ⟨fun _ => rfl, hqueue⟩).2 (by decide +kernel)

/-- Two calls overlap: the first package is never delivered, and the second one is delivered under
the deadline of the first. -/
theorem schedule_overlap_loses :
    ∃ c : Config (Fin 2) WorkerLock (Worker ℕ), Reach Starts (Config.init {}) c ∧ Drained c ∧
      c.state.scheduled = [⟨2, 20, 200⟩, ⟨1, 10, 100⟩] ∧ c.state.delivered = [⟨2, 20, 100⟩] ∧
      ¬ c.state.delivered.Perm c.state.scheduled := by
  have hij : (0 : Fin 2) ≠ 1 := by decide
  have hreach := ((reach_overlap hij 10 20 100 200 {}).trans (reach_loop 0 0 _)).trans
    (reach_loop 0 0 _)
  refine ⟨_, hreach, ⟨fun _ => rfl, ?_⟩, ?_, ?_, ?_⟩ <;> decide +kernel

end Worker

end Adpf
