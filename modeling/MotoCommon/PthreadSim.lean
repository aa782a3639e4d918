/-
**Refining the programs of threads.**

A program with mutexes may be written twice: once with nothing but the mutexes and the part of the state
that matters to them, and once with the data that are handled under the mutexes.  The second one refines
the first if it does the same to mutexes and threads, and otherwise only things that the first does not
see.  Then every interleaving of the fine programs is one of the coarse programs, up to steps that cannot
be seen there: at each moment the threads hold the same mutexes, and the shared state is the same.

Main definitions:

* `Pthread.Code.over` — a program over a part of a larger state;
* `Pthread.Code.Follows` — a program does what a coarser one does;
* `Pthread.Config.Follows` — all threads do.

Main results:

* `Pthread.Code.over_follows` — a program over a part of the state follows the program itself;
* `Pthread.Step.follows` — **one step** of the fine programs is matched by steps of the coarse ones;
* `Pthread.Reach.follows` — **every interleaving** is matched.
-/

import MotoCommon.Pthread

set_option autoImplicit false

namespace Pthread

variable {ι ω L E F S T : Type}

/-! ### Larger states -/

/-- A program over a part of a larger state; `enter` names its entries there. -/
def Code.over (get : T → S) (put : S → T → T) (enter : E → F) : Code ω L E S → Code ω L F T
  | free => free
  | halt => halt
  | goto e => goto (enter e)
  | lock l next => lock l (next.over get put enter)
  | unlock l next => unlock l (next.over get put enter)
  | trylock l next => trylock l fun b => (next b).over get put enter
  | condwait l next => condwait l fun b => (next b).over get put enter
  | asleep l next => asleep l fun b => (next b).over get put enter
  | create e next => create (enter e) fun j => (next j).over get put enter
  | join j next => join j (next.over get put enter)
  | act f next => act (fun t => put (f (get t)) t) fun t => (next (get t)).over get put enter
  | choose next => choose fun a => (next a).over get put enter

/-! ### Following a program -/

/-- A program does the same to mutexes and threads as a coarser one, and to the part of the state that
`get` gives; `at_` says which entries belong together. -/
inductive Code.Follows (get : T → S) (at_ : F → E → Prop) : Code ω L F T → Code ω L E S → Prop
  | free : Follows get at_ .free .free
  | halt : Follows get at_ .halt .halt
  | goto {f : F} {e : E} : at_ f e → Follows get at_ (.goto f) (.goto e)
  | lock {l : L} {d : Code ω L F T} {c : Code ω L E S} : Follows get at_ d c →
      Follows get at_ (.lock l d) (.lock l c)
  | unlock {l : L} {d : Code ω L F T} {c : Code ω L E S} : Follows get at_ d c →
      Follows get at_ (.unlock l d) (.unlock l c)
  | trylock {l : L} {d : Bool → Code ω L F T} {c : Bool → Code ω L E S} :
      (∀ b, Follows get at_ (d b) (c b)) → Follows get at_ (.trylock l d) (.trylock l c)
  | condwait {l : L} {d : Bool → Code ω L F T} {c : Bool → Code ω L E S} :
      (∀ b, Follows get at_ (d b) (c b)) → Follows get at_ (.condwait l d) (.condwait l c)
  | asleep {l : L} {d : Bool → Code ω L F T} {c : Bool → Code ω L E S} :
      (∀ b, Follows get at_ (d b) (c b)) → Follows get at_ (.asleep l d) (.asleep l c)
  | create {f : F} {e : E} {d : Option ω → Code ω L F T} {c : Option ω → Code ω L E S} : at_ f e →
      (∀ j, Follows get at_ (d j) (c j)) → Follows get at_ (.create f d) (.create e c)
  | join {j : ω} {d : Code ω L F T} {c : Code ω L E S} : Follows get at_ d c →
      Follows get at_ (.join j d) (.join j c)
  | act {f : T → T} {f' : S → S} {d : T → Code ω L F T} {c : S → Code ω L E S} :
      (∀ t, get (f t) = f' (get t)) → (∀ t, Follows get at_ (d t) (c (get t))) →
      Follows get at_ (.act f d) (.act f' c)
  /-- An action that cannot be seen. -/
  | silent {f : T → T} {d : T → Code ω L F T} {c : Code ω L E S} : (∀ t, get (f t) = get t) →
      (∀ t, Follows get at_ (d t) c) → Follows get at_ (.act f d) c
  /-- The environment decides something, which may or may not matter to the coarse program. -/
  | choose {α : Type} {d : α → Code ω L F T} {c : Code ω L E S} :
      (∀ a, Follows get at_ (d a) c) → Follows get at_ (.choose d) c
  | pick {β : Type} {d : Code ω L F T} {c : β → Code ω L E S} (b : β) : Follows get at_ d (c b) →
      Follows get at_ d (.choose c)

variable {get : T → S} {at_ : F → E → Prop}

theorem Code.over_follows {put : S → T → T} {enter : E → F} (hput : ∀ s t, get (put s t) = s)
    (hat : ∀ e, at_ (enter e) e) (c : Code ω L E S) : Follows get at_ (c.over get put enter) c := by
  induction c with
  | free => exact .free
  | halt => exact .halt
  | goto e => exact .goto (hat e)
  | lock l next ih => exact .lock ih
  | unlock l next ih => exact .unlock ih
  | trylock l next ih => exact .trylock ih
  | condwait l next ih => exact .condwait ih
  | asleep l next ih => exact .asleep ih
  | create e next ih => exact .create (hat e) ih
  | join j next ih => exact .join ih
  | act f next ih => exact .act (fun t => hput _ _) fun t => ih (get t)
  | choose next ih => exact .choose fun a => .pick a (ih a)

/-- A program that is up to something that can be seen. -/
def Code.Visible : Code ω L F T → Prop
  | act _ _ => False
  | choose _ => False
  | _ => True

/-- The coarse program makes up its mind. -/
inductive Code.Picks : Code ω L E S → Code ω L E S → Prop
  | refl {c : Code ω L E S} : Picks c c
  | pick {β : Type} {c : β → Code ω L E S} {c' : Code ω L E S} (b : β) : Picks (c b) c' →
      Picks (.choose c) c'

/-- Before something that can be seen, the coarse program is brought to where it does the same. -/
theorem Code.Follows.settle {d : Code ω L F T} {c : Code ω L E S} (h : Follows get at_ d c)
    (hd : d.Visible) : ∃ c', Picks c c' ∧ Follows get at_ d c' ∧ c'.Visible := by
  induction h with
  | pick b _ ih =>
      obtain ⟨c', hpicks, hfollows, hc'⟩ := ih hd
      exact ⟨c', .pick b hpicks, hfollows, hc'⟩
  | silent _ _ _ => exact hd.elim
  | act _ _ _ => exact hd.elim
  | choose _ _ => exact hd.elim
  | free => exact ⟨_, .refl, .free, trivial⟩
  | halt => exact ⟨_, .refl, .halt, trivial⟩
  | goto h => exact ⟨_, .refl, .goto h, trivial⟩
  | lock h _ => exact ⟨_, .refl, .lock h, trivial⟩
  | unlock h _ => exact ⟨_, .refl, .unlock h, trivial⟩
  | trylock h _ => exact ⟨_, .refl, .trylock h, trivial⟩
  | condwait h _ => exact ⟨_, .refl, .condwait h, trivial⟩
  | asleep h _ => exact ⟨_, .refl, .asleep h, trivial⟩
  | create he h _ => exact ⟨_, .refl, .create he h, trivial⟩
  | join h _ => exact ⟨_, .refl, .join h, trivial⟩

/-- An action is one of the coarse program, after some choices, or cannot be seen. -/
theorem Code.Follows.act_cases {f : T → T} {d : T → Code ω L F T} {c : Code ω L E S}
    (h : Follows get at_ (.act f d) c) :
    (∃ f' k, Picks c (.act f' k) ∧ (∀ t, get (f t) = f' (get t)) ∧
        ∀ t, Follows get at_ (d t) (k (get t))) ∨
      ∃ c', Picks c c' ∧ (∀ t, get (f t) = get t) ∧ ∀ t, Follows get at_ (d t) c' := by
  generalize hx : Code.act f d = x at h
  induction h with
  | pick b _ ih =>
      rcases ih hx with ⟨f', k, hpicks, hf, hk⟩ | ⟨c', hpicks, hf, hd⟩
      · exact Or.inl ⟨f', k, .pick b hpicks, hf, hk⟩
      · exact Or.inr ⟨c', .pick b hpicks, hf, hd⟩
  | act hf hk _ =>
      cases hx
      exact Or.inl ⟨_, _, .refl, hf, hk⟩
  | silent hf hd _ =>
      cases hx
      exact Or.inr ⟨_, .refl, hf, hd⟩
  | _ => cases hx

/-- What the environment decides is decided for the coarse program as well, as far as it matters. -/
theorem Code.Follows.choose_cases {α : Type} {d : α → Code ω L F T} {c : Code ω L E S}
    (h : Follows get at_ (.choose d) c) : ∃ c', Picks c c' ∧ ∀ a, Follows get at_ (d a) c' := by
  generalize hx : Code.choose d = x at h
  induction h with
  | pick b _ ih =>
      obtain ⟨c', hpicks, hd⟩ := ih hx
      exact ⟨c', .pick b hpicks, hd⟩
  | choose hd _ =>
      cases hx
      exact ⟨_, .refl, hd⟩
  | _ => cases hx

/-! ### Configurations -/

/-- Every thread holds the same mutexes as one of the coarse programs, and follows it. -/
structure Config.Follows (get : T → S) (at_ : F → E → Prop) (d : Config ι ω L F T)
    (c : Config ι ω L E S) : Prop where
  state : c.state = get d.state
  held : ∀ i, (c.threads i).held = (d.threads i).held
  code : ∀ i, Code.Follows get at_ (d.threads i).code (c.threads i).code

section Steps

variable [DecidableEq ι] [DecidableEq ω] [DecidableEq L] {d d' : Config ι ω L F T}
  {c : Config ι ω L E S} {text : E → Code ω L E S} {handler : S → Option S} {text' : F → Code ω L F T}
  {handler' : T → Option T}

omit [DecidableEq L] in
theorem Config.update_threads_self {i : ι ⊕ ω} {t : Thread ω L E S} (hi : c.threads i = t) :
    (⟨c.state, Function.update c.threads i t⟩ : Config ι ω L E S) = c := by
  rw [← hi, Function.update_eq_self]

/-- The fine program text and signal handler follow the coarse ones. -/
structure TextFollows (get : T → S) (at_ : F → E → Prop) (text' : F → Code ω L F T)
    (handler' : T → Option T) (text : E → Code ω L E S) (handler : S → Option S) : Prop where
  text : ∀ {f e}, at_ f e → Code.Follows get at_ (text' f) (text e)
  handler : ∀ {t t'}, handler' t = some t' → handler (get t) = some (get t')

omit [DecidableEq ι] [DecidableEq ω] [DecidableEq L] in
theorem Config.Follows.owned_iff (h : d.Follows get at_ c) (l : L) : c.Owned l ↔ d.Owned l := by
  unfold Config.Owned
  exact exists_congr fun i => by rw [h.held i]

omit [DecidableEq L] in
/-- Steps of thread `i` of both kinds of programs. -/
theorem Config.Follows.update (h : d.Follows get at_ c) {i : ι ⊕ ω} {held : List L} {x : Code ω L F T}
    {y : Code ω L E S} (hxy : Code.Follows get at_ x y) {s : S} {t : T} (hs : s = get t) :
    Config.Follows get at_ ⟨t, Function.update d.threads i ⟨held, x⟩⟩
      ⟨s, Function.update c.threads i ⟨held, y⟩⟩ := by
  refine ⟨hs, fun j => ?_, fun j => ?_⟩
  · by_cases hj : j = i
    · subst hj
      dsimp only
      rw [Function.update_self, Function.update_self]
    · dsimp only
      rw [Function.update_of_ne hj, Function.update_of_ne hj]
      exact h.held j
  · by_cases hj : j = i
    · subst hj
      dsimp only
      rw [Function.update_self, Function.update_self]
      exact hxy
    · dsimp only
      rw [Function.update_of_ne hj, Function.update_of_ne hj]
      exact h.code j

/-- The choices of a thread. -/
theorem Code.Picks.reach {i : ι ⊕ ω} {held : List L} {x y : Code ω L E S} (h : Picks x y)
    (hi : c.threads i = ⟨held, x⟩) :
    Reach text handler c ⟨c.state, Function.update c.threads i ⟨held, y⟩⟩ := by
  induction h generalizing c with
  | refl =>
      rw [Config.update_threads_self hi]
      exact .refl
  | @pick β x y b _ ih =>
      have hstep : Step text handler c ⟨c.state, Function.update c.threads i ⟨held, x b⟩⟩ := by
        refine .thread i ?_
        rw [hi]
        exact .choose b
      have hrest := @ih ⟨c.state, Function.update c.threads i ⟨held, x b⟩⟩ (Function.update_self ..)
      rw [Function.update_idem] at hrest
      exact .head hstep hrest

/-- After its choices the coarse thread is still followed. -/
theorem Config.Follows.picks (h : d.Follows get at_ c) {i : ι ⊕ ω} {held : List L} {x : Code ω L F T}
    {y : Code ω L E S} (hi : d.threads i = ⟨held, x⟩) (hpicks : Code.Picks (c.threads i).code y)
    (hxy : Code.Follows get at_ x y) :
    ∃ c', Reach text handler c c' ∧ d.Follows get at_ c' ∧ c'.threads i = ⟨held, y⟩ ∧
      ∀ j, j ≠ i → c'.threads j = c.threads j := by
  have hheld : (c.threads i).held = held := by rw [h.held i, hi]
  have hci : c.threads i = ⟨held, (c.threads i).code⟩ := by rw [← hheld]
  refine ⟨_, hpicks.reach hci, ?_, Function.update_self .., fun j hj => Function.update_of_ne hj ..⟩
  have hupdate : Config.Follows get at_ ⟨d.state, Function.update d.threads i ⟨held, x⟩⟩
      ⟨c.state, Function.update c.threads i ⟨held, y⟩⟩ := h.update hxy h.state
  rwa [Config.update_threads_self hi] at hupdate

/-- Thread `i` is about to do something that can be seen: so is the coarse one, after some choices. -/
theorem Config.Follows.settle (h : d.Follows get at_ c) {i : ι ⊕ ω} {held : List L} {x : Code ω L F T}
    (hi : d.threads i = ⟨held, x⟩) (hx : x.Visible) :
    ∃ c' y, Reach text handler c c' ∧ d.Follows get at_ c' ∧ c'.threads i = ⟨held, y⟩ ∧
      Code.Follows get at_ x y ∧ y.Visible ∧ ∀ j, j ≠ i → c'.threads j = c.threads j := by
  have hcode := h.code i
  rw [hi] at hcode
  obtain ⟨y, hpicks, hfollows, hy⟩ := hcode.settle hx
  obtain ⟨c', hreach, hc', hi', hother⟩ := h.picks hi hpicks hfollows
  exact ⟨c', y, hreach, hc', hi', hfollows, hy, hother⟩

/-- The coarse thread takes the same step. -/
theorem Config.Follows.next (h : d.Follows get at_ c) {i : ι ⊕ ω} {held held' : List L}
    {y y' : Code ω L E S} (hi : c.threads i = ⟨held, y⟩) {s : S}
    (hnext : Next text c.Owned ⟨held, y⟩ c.state ⟨held', y'⟩ s) {x' : Code ω L F T}
    (hxy : Code.Follows get at_ x' y') {t : T} (hs : s = get t) :
    ∃ c', Reach text handler c c' ∧
      Config.Follows get at_ ⟨t, Function.update d.threads i ⟨held', x'⟩⟩ c' := by
  have hstep : Step text handler c ⟨s, Function.update c.threads i ⟨held', y'⟩⟩ := by
    refine .thread i ?_
    rw [hi]
    exact hnext
  exact ⟨_, .single hstep, h.update hxy hs⟩

/-- A step that can be seen, given what the coarse thread does when it is up to the same. -/
theorem Config.Follows.visible (h : d.Follows get at_ c) {i : ι ⊕ ω} {held held' : List L}
    {x x' : Code ω L F T} (hi : d.threads i = ⟨held, x⟩) (hx : x.Visible)
    (hsame : ∀ (c' : Config ι ω L E S) y, d.Follows get at_ c' → Code.Follows get at_ x y → y.Visible →
      ∃ y', Next text c'.Owned ⟨held, y⟩ c'.state ⟨held', y'⟩ c'.state ∧ Code.Follows get at_ x' y') :
    ∃ c', Reach text handler c c' ∧
      Config.Follows get at_ ⟨d.state, Function.update d.threads i ⟨held', x'⟩⟩ c' := by
  obtain ⟨c₁, y, hreach, hc₁, hi₁, hxy, hy, -⟩ := h.settle hi hx
  obtain ⟨y', hnext, hxy'⟩ := hsame c₁ y hc₁ hxy hy
  obtain ⟨c₂, hreach', hc₂⟩ := hc₁.next hi₁ hnext hxy' hc₁.state
  exact ⟨c₂, hreach.trans hreach', hc₂⟩

/-- A step of a fine thread that concerns no other thread is matched. -/
theorem Next.follows (htext : TextFollows get at_ text' handler' text handler)
    (h : d.Follows get at_ c) {i : ι ⊕ ω} {x x' : Thread ω L F T} (hi : d.threads i = x) {t : T}
    (hnext : Next text' d.Owned x d.state x' t) :
    ∃ c', Reach text handler c c' ∧
      Config.Follows get at_ ⟨t, Function.update d.threads i x'⟩ c' := by
  cases hnext with
  | goto =>
      refine h.visible hi trivial fun c' y hc' hxy hy => ?_
      cases hxy with
      | pick => exact hy.elim
      | goto hat => exact ⟨_, .goto, htext.text hat⟩
  | lock hfree =>
      refine h.visible hi trivial fun c' y hc' hxy hy => ?_
      cases hxy with
      | pick => exact hy.elim
      | lock hrest => exact ⟨_, .lock fun howned => hfree ((hc'.owned_iff _).1 howned), hrest⟩
  | unlock =>
      refine h.visible hi trivial fun c' y hc' hxy hy => ?_
      cases hxy with
      | pick => exact hy.elim
      | unlock hrest => exact ⟨_, .unlock, hrest⟩
  | taken hfree =>
      refine h.visible hi trivial fun c' y hc' hxy hy => ?_
      cases hxy with
      | pick => exact hy.elim
      | trylock hrest =>
          exact ⟨_, .taken fun howned => hfree ((hc'.owned_iff _).1 howned), hrest true⟩
  | busy howned =>
      refine h.visible hi trivial fun c' y hc' hxy hy => ?_
      cases hxy with
      | pick => exact hy.elim
      | trylock hrest => exact ⟨_, .busy ((hc'.owned_iff _).2 howned), hrest false⟩
  | sleep =>
      refine h.visible hi trivial fun c' y hc' hxy hy => ?_
      cases hxy with
      | pick => exact hy.elim
      | condwait hrest => exact ⟨_, .sleep, .asleep hrest⟩
  | wake timedOut =>
      refine h.visible hi trivial fun c' y hc' hxy hy => ?_
      cases hxy with
      | pick => exact hy.elim
      | asleep hrest => exact ⟨_, .wake timedOut, .lock (hrest timedOut)⟩
  | fail =>
      refine h.visible hi trivial fun c' y hc' hxy hy => ?_
      cases hxy with
      | pick => exact hy.elim
      | create _ hrest => exact ⟨_, .fail, hrest none⟩
  | @act held f next =>
      have hcode := h.code i
      rw [hi] at hcode
      rcases hcode.act_cases with ⟨f', k, hpicks, hf, hk⟩ | ⟨y, hpicks, hf, hd⟩
      · obtain ⟨c₁, hreach, hc₁, hi₁, -⟩ := h.picks hi hpicks (.act hf hk)
        have hs : f' c₁.state = get (f d.state) := by rw [hc₁.state, hf]
        have hrest : Code.Follows get at_ (next d.state) (k c₁.state) := by
          rw [hc₁.state]
          exact hk _
        obtain ⟨c₂, hreach', hc₂⟩ := hc₁.next hi₁ .act hrest hs
        exact ⟨c₂, hreach.trans hreach', hc₂⟩
      · -- nothing happens to the coarse threads
        obtain ⟨c₁, hreach, hc₁, hi₁, -⟩ := h.picks hi hpicks (.silent hf hd)
        have hs : c₁.state = get (f d.state) := by rw [hc₁.state, hf]
        have hc₂ : Config.Follows get at_ ⟨f d.state, Function.update d.threads i ⟨held, next d.state⟩⟩
            ⟨c₁.state, Function.update c₁.threads i ⟨held, y⟩⟩ := hc₁.update (hd _) hs
        rw [Config.update_threads_self hi₁] at hc₂
        exact ⟨c₁, hreach, hc₂⟩
  | @choose held α next _ a =>
      have hcode := h.code i
      rw [hi] at hcode
      obtain ⟨y, hpicks, hd⟩ := hcode.choose_cases
      obtain ⟨c₁, hreach, hc₁, hi₁, -⟩ := h.picks hi hpicks (.choose hd)
      have hc₂ : Config.Follows get at_ ⟨d.state, Function.update d.threads i ⟨held, next a⟩⟩
          ⟨c₁.state, Function.update c₁.threads i ⟨held, y⟩⟩ := hc₁.update (hd a) hc₁.state
      rw [Config.update_threads_self hi₁] at hc₂
      exact ⟨c₁, hreach, hc₂⟩

/-- A thread is created by both. -/
theorem Config.Follows.create (htext : TextFollows get at_ text' handler' text handler)
    (h : d.Follows get at_ c) {i : ι ⊕ ω} {j : ω} {held : List L} {f : F}
    {next : Option ω → Code ω L F T} (hi : d.threads i = ⟨held, .create f next⟩)
    (hj : d.threads (.inr j) = ⟨[], .free⟩) :
    ∃ c', Reach text handler c c' ∧ Config.Follows get at_ ⟨d.state, Function.update
      (Function.update d.threads (.inr j) ⟨[], text' f⟩) i ⟨held, next (some j)⟩⟩ c' := by
  have hne : Sum.inr j ≠ i := by
    rintro rfl
    rw [hi] at hj
    cases hj
  obtain ⟨c₁, y, hreach, hc₁, hi₁, hxy, hy, -⟩ := h.settle hi trivial
  obtain ⟨c₂, z, hreach', hc₂, hj₂, hz, hvisible, hother⟩ := hc₁.settle hj trivial
  have hi₂ : c₂.threads i = ⟨held, y⟩ := (hother i hne.symm).trans hi₁
  cases hz with
  | pick => exact hvisible.elim
  | free =>
      cases hxy with
      | pick => exact hy.elim
      | create hat hrest =>
          refine ⟨_, (hreach.trans hreach').tail (.create i j hi₂ hj₂), ?_⟩
          exact (hc₂.update (htext.text hat) hc₂.state).update (hrest (some j)) hc₂.state

/-- A thread is joined by both. -/
theorem Config.Follows.join (h : d.Follows get at_ c) {i : ι ⊕ ω} {j : ω} {held : List L}
    {next : Code ω L F T} (hi : d.threads i = ⟨held, .join j next⟩)
    (hj : (d.threads (.inr j)).code = .halt ∨ (d.threads (.inr j)).code = .free) :
    ∃ c', Reach text handler c c' ∧ Config.Follows get at_ ⟨d.state, Function.update
      (Function.update d.threads (.inr j) ⟨(d.threads (.inr j)).held, .free⟩) i ⟨held, next⟩⟩ c' := by
  have hne : Sum.inr j ≠ i := by
    rintro rfl
    rw [hi] at hj
    rcases hj with hj | hj <;> cases hj
  obtain ⟨c₁, y, hreach, hc₁, hi₁, hxy, hy, -⟩ := h.settle hi trivial
  have hended : (d.threads (.inr j)).code.Visible := by rcases hj with hj | hj <;> rw [hj] <;> trivial
  obtain ⟨c₂, z, hreach', hc₂, hj₂, hz, hvisible, hother⟩ := hc₁.settle rfl hended
  have hi₂ : c₂.threads i = ⟨held, y⟩ := (hother i hne.symm).trans hi₁
  have hz' : z = .halt ∨ z = .free := by
    rcases hj with hj | hj
    · rw [hj] at hz
      cases hz with
      | pick => exact hvisible.elim
      | halt => exact Or.inl rfl
    · rw [hj] at hz
      cases hz with
      | pick => exact hvisible.elim
      | free => exact Or.inr rfl
  cases hxy with
  | pick => exact hy.elim
  | join hrest =>
      have hj₂' : (c₂.threads (.inr j)).code = .halt ∨ (c₂.threads (.inr j)).code = .free := by
        rw [hj₂]
        exact hz'
      refine ⟨_, (hreach.trans hreach').tail (.join i j hi₂ hj₂'), ?_⟩
      rw [hj₂]
      exact (hc₂.update .free hc₂.state).update hrest hc₂.state

/-- **One step** of the fine programs is matched by steps of the coarse ones. -/
theorem Step.follows (htext : TextFollows get at_ text' handler' text handler)
    (h : Step text' handler' d d') (hd : d.Follows get at_ c) :
    ∃ c', Reach text handler c c' ∧ d'.Follows get at_ c' := by
  cases h with
  | thread i hnext => exact hnext.follows htext hd rfl
  | create i j hi hj => exact hd.create htext hi hj
  | join i j hi hj => exact hd.join hi hj
  | @signal t hs =>
      have hstep : Step text handler c ⟨get t, c.threads⟩ := by
        refine .signal ?_
        rw [hd.state]
        exact htext.handler hs
      exact ⟨_, .single hstep, ⟨rfl, hd.held, hd.code⟩⟩

/-- **Every interleaving** of the fine programs is matched. -/
theorem Reach.follows (htext : TextFollows get at_ text' handler' text handler)
    (h : Reach text' handler' d d') (hd : d.Follows get at_ c) :
    ∃ c', Reach text handler c c' ∧ d'.Follows get at_ c' := by
  induction h with
  | refl => exact ⟨c, .refl, hd⟩
  | tail _ hstep ih =>
      obtain ⟨c₁, hreach, hc₁⟩ := ih
      obtain ⟨c₂, hreach', hc₂⟩ := hstep.follows htext hc₁
      exact ⟨c₂, hreach.trans hreach', hc₂⟩

end Steps

end Pthread
