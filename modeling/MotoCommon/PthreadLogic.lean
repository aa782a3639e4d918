/-
**Assertions for threads with mutexes.**

A protocol says, for each mutex, which part of the shared state it protects and what holds of that part
while nobody has the mutex.  A thread changes a part only while it holds the mutex, so that what it knows
about the parts whose mutexes it holds stays true whatever the other threads do.  Some of the state only
ever grows, whoever changes it; a history of events is of this kind.  And there is a condition that every
single action has to keep.

For a program this gives a condition that is computed from its text: it says, for a thread that holds
some mutexes and last saw the state `s`, that all the rest of the program keeps to the protocol.  The
condition of a thread stays true while other threads run, so that it can be checked one thread at a time,
and the result holds in every interleaving.

Main definitions:

* `Pthread.Protocol`, `Pthread.Protocol.Rely` — a protocol, and what the others may do meanwhile;
* `Pthread.Protocol.Allows` — what an action may do;
* `Pthread.Code.Right` — the rest of a program keeps to the protocol;
* `Pthread.Config.Right` — all threads do, and no mutex has two owners.

Main results:

* `Pthread.Code.Right.rely` — the condition of a thread is kept by the others;
* `Pthread.Step.right` — **one step** keeps all conditions;
* `Pthread.Reach.safe` — **every interleaving** keeps the condition of the protocol.
-/

import MotoCommon.Pthread

set_option autoImplicit false

namespace Pthread

variable {ι ω L E S : Type}

/-! ### Protocols -/

/-- What the mutexes protect. -/
structure Protocol (L E S : Type) where
  /-- The part that a mutex protects is the same in two states. -/
  same : L → S → S → Prop
  /-- The part of the state that only ever grows. -/
  grows : S → S → Prop
  /-- What holds of the part that a mutex protects while nobody has the mutex. -/
  inv : L → S → Prop
  /-- What every action keeps. -/
  safe : S → Prop
  /-- What a thread knows at an entry of the program text. -/
  entry : E → List L → S → Prop

namespace Protocol

variable {P : Protocol L E S} {held : List L} {s s' s'' : S}

/-- What may have happened to the state while a thread that holds these mutexes did nothing. -/
structure Rely (P : Protocol L E S) (held : List L) (s s' : S) : Prop where
  grows : P.grows s s'
  same : ∀ l ∈ held, P.same l s s'

/-- What an action of a thread that holds these mutexes may do to the state. -/
structure Allows (P : Protocol L E S) (held : List L) (s s' : S) : Prop where
  safe : P.safe s'
  grows : P.grows s s'
  same : ∀ l, l ∉ held → P.same l s s'

/-- The relations are preorders, and what is known of a part depends on that part alone. -/
structure Lawful (P : Protocol L E S) : Prop where
  same_refl : ∀ l s, P.same l s s
  same_trans : ∀ {l s s' s''}, P.same l s s' → P.same l s' s'' → P.same l s s''
  grows_refl : ∀ s, P.grows s s
  grows_trans : ∀ {s s' s''}, P.grows s s' → P.grows s' s'' → P.grows s s''
  inv_same : ∀ {l s s'}, P.same l s s' → P.inv l s → P.inv l s'
  entry_rely : ∀ {e held s s'}, P.Rely held s s' → P.entry e held s → P.entry e held s'

theorem Rely.refl (hP : P.Lawful) (held : List L) (s : S) : P.Rely held s s :=
  ⟨hP.grows_refl s, fun l _ => hP.same_refl l s⟩

theorem Rely.trans (hP : P.Lawful) (h : P.Rely held s s') (h' : P.Rely held s' s'') :
    P.Rely held s s'' :=
  ⟨hP.grows_trans h.grows h'.grows, fun l hl => hP.same_trans (h.same l hl) (h'.same l hl)⟩

/-- With fewer mutexes there is less to rely on. -/
theorem Rely.subset {held' : List L} (h : P.Rely held s s') (hsub : ∀ l ∈ held', l ∈ held) :
    P.Rely held' s s' :=
  ⟨h.grows, fun l hl => h.same l (hsub l hl)⟩

end Protocol

/-! ### Programs -/

/-- For a thread that holds `held` and last saw the state `s`, the rest of the program keeps to the
protocol. -/
def Code.Right [DecidableEq L] (P : Protocol L E S) : List L → S → Code ω L E S → Prop
  | _, _, free => True
  | _, _, halt => True
  | held, s, goto e => P.entry e held s
  | held, s, lock l next =>
      ∀ s', P.Rely held s s' → P.inv l s' → P.safe s' → next.Right P (l :: held) s'
  | held, s, unlock l next => l ∈ held ∧ P.inv l s ∧ next.Right P (held.erase l) s
  | held, s, trylock l next =>
      (∀ s', P.Rely held s s' → P.inv l s' → P.safe s' → (next true).Right P (l :: held) s') ∧
        (next false).Right P held s
  | held, s, condwait l next =>
      l ∈ held ∧ P.inv l s ∧
        ∀ s', P.Rely (held.erase l) s s' → P.inv l s' → P.safe s' →
          ∀ b, (next b).Right P (l :: held.erase l) s'
  | held, s, asleep l next =>
      ∀ s', P.Rely held s s' → P.inv l s' → P.safe s' → ∀ b, (next b).Right P (l :: held) s'
  | held, s, create e next => P.entry e [] s ∧ ∀ j, (next j).Right P held s
  | held, s, join _ next => next.Right P held s
  | held, s, act f next =>
      ∀ s', P.Rely held s s' → P.safe s' →
        P.Allows held s' (f s') ∧ (next s').Right P held (f s')
  | held, s, choose next => ∀ a, (next a).Right P held s

section Rules

variable [DecidableEq L] {P : Protocol L E S} {held : List L} {s s' : S}

/-- **What a thread relies on is enough**: its condition is kept by the other threads. -/
theorem Code.Right.rely (hP : P.Lawful) {code : Code ω L E S} (h : code.Right P held s)
    (hs : P.Rely held s s') : code.Right P held s' := by
  -- each clause asks for nothing but states that the thread may come upon from `s`
  induction code generalizing held s s' with
  | free => trivial
  | halt => trivial
  | goto e => exact hP.entry_rely hs h
  | lock l next ih => exact fun u hu => h u (hs.trans hP hu)
  | unlock l next ih =>
      obtain ⟨hmem, hinv, hnext⟩ := h
      refine ⟨hmem, hP.inv_same (hs.same l hmem) hinv, ih hnext ?_⟩
      exact hs.subset fun _ hl => List.mem_of_mem_erase hl
  | trylock l next ih =>
      exact ⟨fun u hu => h.1 u (hs.trans hP hu), ih false h.2 hs⟩
  | condwait l next ih =>
      obtain ⟨hmem, hinv, hnext⟩ := h
      have hless : P.Rely (held.erase l) s s' := hs.subset fun _ hl => List.mem_of_mem_erase hl
      exact ⟨hmem, hP.inv_same (hs.same l hmem) hinv, fun u hu => hnext u (hless.trans hP hu)⟩
  | asleep l next ih => exact fun u hu => h u (hs.trans hP hu)
  | create e next ih =>
      have hnone : P.Rely [] s s' := hs.subset fun _ hl => absurd hl List.not_mem_nil
      exact ⟨hP.entry_rely hnone h.1, fun j => ih j (h.2 j) hs⟩
  | join j next ih => exact ih h hs
  | act f next ih => exact fun u hu => h u (hs.trans hP hu)
  | choose next ih => exact fun a => ih a (h a) hs

end Rules

/-! ### Configurations -/

/-- All threads keep to the protocol, and no mutex has two owners. -/
structure Config.Right [DecidableEq L] (P : Protocol L E S) (c : Config ι ω L E S) : Prop where
  threads : ∀ i, (c.threads i).code.Right P (c.threads i).held c.state
  free : ∀ l, ¬ c.Owned l → P.inv l c.state
  safe : P.safe c.state
  exclusive : ∀ l i j, l ∈ (c.threads i).held → l ∈ (c.threads j).held → i = j

/-- The program text and the signal handler keep to the protocol. -/
structure Protocol.Covers [DecidableEq L] (P : Protocol L E S) (text : E → Code ω L E S)
    (handler : S → Option S) : Prop where
  text : ∀ e held s, P.entry e held s → (text e).Right P held s
  handler : ∀ {s s'}, handler s = some s' → P.safe s → P.Allows [] s s'

section Steps

variable [DecidableEq ι] [DecidableEq ω] [DecidableEq L] {P : Protocol L E S}
  {text : E → Code ω L E S} {handler : S → Option S} {c c' : Config ι ω L E S}

/-- What a step of one thread has to be shown to do.  It holds afterwards only what it held before or
nobody had, and what it gave back is as the protocol wants it. -/
structure Config.Moves (P : Protocol L E S) (c : Config ι ω L E S) (i : ι ⊕ ω) (t : Thread ω L E S)
    (s : S) : Prop where
  right : t.code.Right P t.held s
  allows : P.Allows (c.threads i).held c.state s
  holds : ∀ l ∈ t.held, l ∈ (c.threads i).held ∨ ¬ c.Owned l
  gives : ∀ l ∈ (c.threads i).held, l ∈ t.held ∨ P.inv l s

omit [DecidableEq ι] [DecidableEq ω] in
/-- A step that leaves the state as it is. -/
theorem Config.Moves.of_quiet (hP : P.Lawful) (hc : c.Right P) {i : ι ⊕ ω} {t : Thread ω L E S}
    (hright : t.code.Right P t.held c.state)
    (hholds : ∀ l ∈ t.held, l ∈ (c.threads i).held ∨ ¬ c.Owned l)
    (hgives : ∀ l ∈ (c.threads i).held, l ∈ t.held ∨ P.inv l c.state) :
    c.Moves P i t c.state :=
  ⟨hright, ⟨hc.safe, hP.grows_refl _, fun l _ => hP.same_refl l _⟩, hholds, hgives⟩

section Kinds

variable {i : ι ⊕ ω} {held : List L} {code code' : Code ω L E S} {l : L}

omit [DecidableEq ι] [DecidableEq ω] in
/-- The thread only goes on. -/
theorem Config.Moves.on (hP : P.Lawful) (hc : c.Right P) (hi : c.threads i = ⟨held, code⟩)
    (hright : code'.Right P held c.state) : c.Moves P i ⟨held, code'⟩ c.state := by
  refine .of_quiet hP hc hright (fun l hl => Or.inl ?_) fun l hl => Or.inl ?_
  · rwa [hi]
  · rwa [hi] at hl

omit [DecidableEq ι] [DecidableEq ω] in
/-- It takes a mutex that nobody has. -/
theorem Config.Moves.take (hP : P.Lawful) (hc : c.Right P) (hi : c.threads i = ⟨held, code⟩)
    (hfree : ¬ c.Owned l)
    (hright : ∀ s', P.Rely held c.state s' → P.inv l s' → P.safe s' → code'.Right P (l :: held) s') :
    c.Moves P i ⟨l :: held, code'⟩ c.state := by
  refine .of_quiet hP hc (hright _ (.refl hP _ _) (hc.free l hfree) hc.safe) (fun l' hl => ?_)
    fun l' hl => ?_
  · rcases List.mem_cons.1 hl with rfl | hl
    · exact Or.inr hfree
    · exact Or.inl (by rwa [hi])
  · exact Or.inl (List.mem_cons_of_mem _ (by rwa [hi] at hl))

omit [DecidableEq ι] [DecidableEq ω] in
/-- It gives a mutex back. -/
theorem Config.Moves.give (hP : P.Lawful) (hc : c.Right P) (hi : c.threads i = ⟨held, code⟩)
    (hinv : P.inv l c.state) (hright : code'.Right P (held.erase l) c.state) :
    c.Moves P i ⟨held.erase l, code'⟩ c.state := by
  refine .of_quiet hP hc hright (fun l' hl => Or.inl ?_) fun l' hl => ?_
  · rw [hi]
    exact List.mem_of_mem_erase hl
  · rw [hi] at hl
    by_cases hll : l' = l
    · exact Or.inr (hll ▸ hinv)
    · exact Or.inl ((List.mem_erase_of_ne hll).2 hl)

end Kinds

/-- Nobody else sees the difference. -/
theorem Config.Right.update (hP : P.Lawful) (hc : c.Right P) {i : ι ⊕ ω} {t : Thread ω L E S} {s : S}
    (h : c.Moves P i t s) : Config.Right P ⟨s, Function.update c.threads i t⟩ := by
  have hself : Function.update c.threads i t i = t := Function.update_self ..
  have hother : ∀ j, j ≠ i → Function.update c.threads i t j = c.threads j :=
    fun j hj => Function.update_of_ne hj ..
  refine ⟨fun j => ?_, fun l hfree => ?_, h.allows.safe, fun l j k hj hk => ?_⟩
  · dsimp only
    by_cases hj : j = i
    · rw [hj, hself]
      exact h.right
    · rw [hother j hj]
      -- the mutexes of `j` are not those of `i`
      have hdisjoint : ∀ l ∈ (c.threads j).held, l ∉ (c.threads i).held :=
        fun l hl hl' => hj (hc.exclusive l j i hl hl')
      exact (hc.threads j).rely hP ⟨h.allows.grows, fun l hl => h.allows.same l (hdisjoint l hl)⟩
  · have hnot : ∀ j, l ∉ (Function.update c.threads i t j).held := fun j hj => hfree ⟨j, hj⟩
    by_cases hown : l ∈ (c.threads i).held
    · refine (h.gives l hown).resolve_left fun hl => hnot i ?_
      rwa [hself]
    · refine hP.inv_same (h.allows.same l hown) (hc.free l ?_)
      rintro ⟨j, hj⟩
      by_cases hji : j = i
      · exact hown (hji ▸ hj)
      · exact hnot j (by rwa [hother j hji])
  · -- one that takes a mutex takes it from nobody
    have hkey : ∀ m, m ≠ i → l ∈ (Function.update c.threads i t m).held →
        l ∈ (Function.update c.threads i t i).held → False := by
      intro m hm hlm hli
      rw [hother m hm] at hlm
      rw [hself] at hli
      rcases h.holds l hli with hown | hfree
      · exact hm (hc.exclusive l m i hlm hown)
      · exact hfree ⟨m, hlm⟩
    by_cases hji : j = i
    · by_cases hki : k = i
      · rw [hji, hki]
      · exact (hkey k hki hk (hji ▸ hj)).elim
    · by_cases hki : k = i
      · exact (hkey j hji hj (hki ▸ hk)).elim
      · dsimp only at hj hk
        rw [hother j hji] at hj
        rw [hother k hki] at hk
        exact hc.exclusive l j k hj hk

omit [DecidableEq ι] [DecidableEq ω] in
/-- What a step of a thread that concerns no other thread does. -/
theorem Next.moves (hP : P.Lawful) (htext : ∀ e held s, P.entry e held s → (text e).Right P held s)
    (hc : c.Right P) {i : ι ⊕ ω} {t t' : Thread ω L E S} {s : S} (hi : c.threads i = t)
    (h : Next text c.Owned t c.state t' s) : c.Moves P i t' s := by
  have hright := hc.threads i
  rw [hi] at hright
  cases h with
  | goto => exact .on hP hc hi (htext _ _ _ hright)
  | lock hfree => exact .take hP hc hi hfree hright
  | unlock => exact .give hP hc hi hright.2.1 hright.2.2
  | taken hfree => exact .take hP hc hi hfree hright.1
  | busy _ => exact .on hP hc hi hright.2
  | sleep => exact .give hP hc hi hright.2.1 hright.2.2
  | wake timedOut =>
      exact .on hP hc hi fun s' hs' hinv hsafe => hright s' hs' hinv hsafe timedOut
  | fail => exact .on hP hc hi (hright.2 none)
  | act =>
      obtain ⟨hallows, hnext⟩ := hright _ (.refl hP _ _) hc.safe
      refine ⟨hnext, ?_, fun l hl => Or.inl ?_, fun l hl => Or.inl ?_⟩
      · rwa [hi]
      · rwa [hi]
      · rwa [hi] at hl
  | choose a => exact .on hP hc hi (hright a)

/-- **One step** keeps all threads to the protocol. -/
theorem Step.right (hP : P.Lawful) (hcovers : P.Covers text handler) (h : Step text handler c c')
    (hc : c.Right P) : c'.Right P := by
  cases h with
  | thread i hnext => exact hc.update hP (hnext.moves hP hcovers.text hc rfl)
  | @create held e next i j hi hj =>
      have hcode := hc.threads i
      rw [hi] at hcode
      have hne : i ≠ .inr j := by
        rintro rfl
        rw [hi] at hj
        cases hj
      have hnew := hc.update hP (.on hP hc hj (hcovers.text e [] _ hcode.1))
      have hi' := (Function.update_of_ne hne (⟨[], text e⟩ : Thread ω L E S) c.threads).trans hi
      exact hnew.update hP (.on hP hnew hi' (hcode.2 (some j)))
  | @join held next i j hi hj =>
      have hcode := hc.threads i
      rw [hi] at hcode
      by_cases hij : i = .inr j
      · -- a thread that joins has not ended
        subst hij
        rw [hi] at hj
        rcases hj with hj | hj <;> cases hj
      · let t : Thread ω L E S := ⟨(c.threads (.inr j)).held, .free⟩
        have hmoves : c.Moves P (.inr j) t c.state := .on hP hc rfl trivial
        have hgone := hc.update hP hmoves
        have hi' := (Function.update_of_ne hij t c.threads).trans hi
        exact hgone.update hP (.on hP hgone hi' hcode)
  | signal hs =>
      have hallows := hcovers.handler hs hc.safe
      refine ⟨fun i => ?_, fun l hl => ?_, hallows.safe, hc.exclusive⟩
      · exact (hc.threads i).rely hP ⟨hallows.grows, fun l _ => hallows.same l List.not_mem_nil⟩
      · exact hP.inv_same (hallows.same l List.not_mem_nil) (hc.free l hl)

/-- **Every interleaving** does. -/
theorem Reach.right (hP : P.Lawful) (hcovers : P.Covers text handler) (h : Reach text handler c c')
    (hc : c.Right P) : c'.Right P := by
  induction h with
  | refl => exact hc
  | tail _ hstep ih => exact hstep.right hP hcovers ih

/-- What every action keeps holds throughout. -/
theorem Reach.safe (hP : P.Lawful) (hcovers : P.Covers text handler) (h : Reach text handler c c')
    (hc : c.Right P) : P.safe c'.state :=
  (h.right hP hcovers hc).safe

end Steps

end Pthread
