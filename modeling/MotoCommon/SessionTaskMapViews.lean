/-
**What a session's value and votes are, whatever the pointers.**

The map reaches a session's value through one pointer and its votes through another, and the value
object even changes when the session's tasks are replaced.  Seen from outside, a session has a value
and votes, and every operation changes those of one session only.  This module makes that precise:
no two sessions share their votes, and each operation is described by what it does to
`Adpf.SessionTaskMap.state?` and `Adpf.SessionTaskMap.votes?`.

Main definitions:

* `Adpf.SessionTaskMap.state?` — the value of a session, without the time of its last update;
* `Adpf.SessionTaskMap.votes?` — the votes of a session;
* `Adpf.SessionTaskMap.Wf` — the two maps agree and every session has votes of its own.

Main results:

* `Adpf.SessionTaskMap.Wf.modifyVal`, `Adpf.SessionTaskMap.Wf.modifyVotes`,
  `Adpf.SessionTaskMap.Wf.addNew`, `Adpf.SessionTaskMap.Wf.remove`,
  `Adpf.SessionTaskMap.Wf.replace`, `Adpf.SessionTaskMap.Wf.of_sameObjects` — the operations keep it;
* `Adpf.SessionTaskMap.Wf.state?_replace`, `Adpf.SessionTaskMap.Wf.votes?_replace` and their
  like — what the operations do to a session's value and votes.
-/

import MotoCommon.SessionTaskMapLinks

set_option autoImplicit false

namespace Adpf.SessionTaskMap

/-! ### A session's value and votes -/

/-- The value of a session, without the time of its last update. -/
def state? (m : SessionTaskMap) (s : ℤ) : Option SessionValueEntry :=
  (m.findSession s).map fun p => { m.vals.read p with lastUpdatedTime := 0 }

/-- The votes of a session. -/
def votes? (m : SessionTaskMap) (s : ℤ) : Option Votes := (m.findSession s).map m.votesOf

/-- Whether a session is there and active. -/
def isActive (m : SessionTaskMap) (s : ℤ) : Bool :=
  (m.state? s).elim false SessionValueEntry.isActive

theorem findSession_eq_some {m : SessionTaskMap} {s : ℤ} {p : ℕ} (h : m.findSession s = some p) :
    ∃ e, m.mSessions.lookup s = some e ∧ e.val = p := by
  simpa [findSession] using h

theorem findSession_of_lookup {m : SessionTaskMap} {s : ℤ} {e : ValEntry}
    (h : m.mSessions.lookup s = some e) : m.findSession s = some e.val := by
  simp [findSession, h]

theorem findSession_eq_none {m : SessionTaskMap} {s : ℤ} :
    m.findSession s = none ↔ m.mSessions.lookup s = none := by
  simp [findSession]

theorem state?_of_findSession {m : SessionTaskMap} {s : ℤ} {p : ℕ} (h : m.findSession s = some p) :
    m.state? s = some { m.vals.read p with lastUpdatedTime := 0 } := by
  simp [state?, h]

theorem votes?_of_findSession {m : SessionTaskMap} {s : ℤ} {p : ℕ} (h : m.findSession s = some p) :
    m.votes? s = some (m.votesOf p) := by
  simp [votes?, h]

theorem votes?_eq_some {m : SessionTaskMap} {s : ℤ} {vs : Votes} (h : m.votes? s = some vs) :
    ∃ p, m.findSession s = some p ∧ m.votesOf p = vs := by
  simpa [votes?] using h

theorem state?_eq_none {m : SessionTaskMap} {s : ℤ} :
    m.state? s = none ↔ m.findSession s = none := by
  simp [state?]

theorem votes?_eq_none {m : SessionTaskMap} {s : ℤ} :
    m.votes? s = none ↔ m.findSession s = none := by
  simp [votes?]

/-- The two maps agree, and every session has votes of its own. -/
structure Wf (m : SessionTaskMap) : Prop extends Consistent m where
  /-- The votes of a session are in use. -/
  votes_lt : ∀ {s : ℤ} {e : ValEntry}, m.mSessions.lookup s = some e →
    (m.vals.read e.val).votes < m.votes.size
  /-- No two sessions have the same votes. -/
  votes_inj : ∀ {s s' : ℤ} {e e' : ValEntry}, m.mSessions.lookup s = some e →
    m.mSessions.lookup s' = some e' → (m.vals.read e.val).votes = (m.vals.read e'.val).votes → s = s'

namespace Wf

variable {m : SessionTaskMap}

theorem empty : Wf {} where
  toConsistent := Consistent.empty
  votes_lt := fun h => by simp at h
  votes_inj := fun h => by simp at h

theorem findSession_inj (hm : Wf m) {s s' : ℤ} {p : ℕ} (h : m.findSession s = some p)
    (h' : m.findSession s' = some p) : s = s' := by
  obtain ⟨e, he, hv⟩ := findSession_eq_some h
  obtain ⟨e', he', hv'⟩ := findSession_eq_some h'
  exact hm.val_inj he he' (hv.trans hv'.symm)

/-! ### Writing to a value -/

theorem modifyVal (hm : Wf m) (p : ℕ) (f : SessionValueEntry → SessionValueEntry)
    (hid : ∀ v, (f v).sessionId = v.sessionId) (hvotes : ∀ v, (f v).votes = v.votes) :
    Wf (m.modifyVal p f) := by
  have hsame : ∀ q, ((m.modifyVal p f).vals.read q).votes = (m.vals.read q).votes := by
    intro q
    by_cases hq : q = p
    · subst hq
      simp [SessionTaskMap.modifyVal, hvotes]
    · simp [SessionTaskMap.modifyVal, Heap.read_write_of_ne _ _ hq]
  refine ⟨hm.toConsistent.modifyVal p hid, ?_, ?_⟩
  · intro s e he
    rw [hsame]
    exact hm.votes_lt he
  · intro s s' e e' he he' hv
    rw [hsame, hsame] at hv
    exact hm.votes_inj he he' hv

theorem state?_modifyVal (hm : Wf m) {s : ℤ} {p : ℕ} (hp : m.findSession s = some p)
    (f g : SessionValueEntry → SessionValueEntry)
    (hf : ∀ v, { f v with lastUpdatedTime := 0 } = g { v with lastUpdatedTime := 0 }) (s' : ℤ) :
    (m.modifyVal p f).state? s' = if s' = s then (m.state? s).map g else m.state? s' := by
  have hfind : ∀ s', (m.modifyVal p f).findSession s' = m.findSession s' := fun _ => rfl
  by_cases hs : s' = s
  · subst hs
    rw [if_pos rfl, state?_of_findSession hp, state?_of_findSession ((hfind s').trans hp)]
    simp [SessionTaskMap.modifyVal, hf]
  · rw [if_neg hs]
    unfold state?
    rw [hfind]
    cases hq : m.findSession s' with
    | none => rfl
    | some q =>
        have hne : q ≠ p := by
          rintro rfl
          exact hs (hm.findSession_inj hq hp)
        simp [SessionTaskMap.modifyVal, Heap.read_write_of_ne _ _ hne]

theorem votes?_modifyVal (m : SessionTaskMap) (p : ℕ) (f : SessionValueEntry → SessionValueEntry)
    (hvotes : ∀ v, (f v).votes = v.votes) (s' : ℤ) :
    (m.modifyVal p f).votes? s' = m.votes? s' := by
  have hsame : ∀ q, (m.modifyVal p f).votesOf q = m.votesOf q := by
    intro q
    unfold votesOf
    by_cases hq : q = p
    · subst hq
      simp [SessionTaskMap.modifyVal, hvotes]
    · simp [SessionTaskMap.modifyVal, Heap.read_write_of_ne _ _ hq]
  unfold votes?
  rw [funext hsame]
  rfl

/-! ### Writing to votes -/

theorem modifyVotes (hm : Wf m) (p : ℕ) (f : Votes → Votes) : Wf (m.modifyVotes p f) where
  toConsistent := hm.toConsistent.modifyVotes p f
  votes_lt := hm.votes_lt
  votes_inj := hm.votes_inj

theorem votes?_modifyVotes (hm : Wf m) {s : ℤ} {p : ℕ} (hp : m.findSession s = some p)
    (f : Votes → Votes) (s' : ℤ) :
    (m.modifyVotes p f).votes? s' = if s' = s then (m.votes? s).map f else m.votes? s' := by
  have hfind : ∀ s', (m.modifyVotes p f).findSession s' = m.findSession s' := fun _ => rfl
  by_cases hs : s' = s
  · subst hs
    rw [if_pos rfl, votes?_of_findSession hp, votes?_of_findSession ((hfind s').trans hp)]
    simp [SessionTaskMap.modifyVotes, votesOf]
  · rw [if_neg hs]
    unfold votes?
    rw [hfind]
    cases hq : m.findSession s' with
    | none => rfl
    | some q =>
        -- another session has other votes
        obtain ⟨e, he, rfl⟩ := findSession_eq_some hp
        obtain ⟨e', he', rfl⟩ := findSession_eq_some hq
        have hne : (m.vals.read e'.val).votes ≠ (m.vals.read e.val).votes :=
          fun hv => hs (hm.votes_inj he' he hv)
        simp [SessionTaskMap.modifyVotes, votesOf, Heap.read_write_of_ne _ _ hne]

/-! ### A new session -/

/-- Votes that nobody uses yet change nothing. -/
theorem allocVotes (hm : Wf m) (vs : Votes) : Wf { m with votes := m.votes.alloc vs } where
  toConsistent := hm.toConsistent.of_objects rfl rfl rfl fun _ => rfl
  votes_lt := fun he => Nat.lt_succ_of_lt (hm.votes_lt he)
  votes_inj := hm.votes_inj

theorem votes?_allocVotes (hm : Wf m) (vs : Votes) (s : ℤ) :
    SessionTaskMap.votes? { m with votes := m.votes.alloc vs } s = m.votes? s := by
  cases hp : m.findSession s with
  | none =>
      rw [votes?_eq_none.2 hp]
      exact votes?_eq_none.2 hp
  | some p =>
      obtain ⟨e, he, rfl⟩ := findSession_eq_some hp
      rw [votes?_of_findSession hp,
        votes?_of_findSession (m := { m with votes := m.votes.alloc vs }) hp]
      simp only [votesOf, Heap.read_alloc_of_lt _ _ (hm.votes_lt he)]

theorem addNew_present {s : ℤ} (h : m.findSession s ≠ none) (sv : SessionValueEntry) (vs : Votes)
    (tasks : List ℤ) : m.addNew s sv vs tasks = { m with votes := m.votes.alloc vs } := by
  unfold addNew SessionTaskMap.add
  cases hl : m.mSessions.lookup s with
  | none => exact absurd (findSession_eq_none.2 hl) h
  | some e => rfl

theorem addNew_absent {s : ℤ} (h : m.findSession s = none) (sv : SessionValueEntry) (vs : Votes)
    (tasks : List ℤ) :
    m.addNew s sv vs tasks =
      { vals := m.vals.alloc { sv with votes := m.votes.size, sessionId := s }
        votes := m.votes.alloc vs
        mSessions := m.mSessions.insert s ⟨m.vals.size, tasks⟩
        mTasks := linkTasks m.vals.size tasks m.mTasks } := by
  exact add_map (m := { m with votes := m.votes.alloc vs }) (findSession_eq_none.1 h) _ _

theorem getTaskIds_addNew (s : ℤ) (sv : SessionValueEntry) (vs : Votes) (tasks : List ℤ) (s' : ℤ) :
    (m.addNew s sv vs tasks).getTaskIds s' =
      if s' = s ∧ m.findSession s' = none then tasks else m.getTaskIds s' := by
  by_cases h : m.findSession s = none
  · rw [addNew_absent h]
    unfold getTaskIds
    rw [UMap.lookup_insert_eq]
    by_cases hs : s' = s
    · rw [if_pos hs, if_pos ⟨hs, hs ▸ h⟩]
      rfl
    · rw [if_neg hs, if_neg fun hand => hs hand.1]
  · rw [addNew_present h, if_neg]
    · rfl
    · rintro ⟨rfl, hnone⟩
      exact h hnone

theorem addNew (hm : Wf m) (s : ℤ) (sv : SessionValueEntry) (vs : Votes) (tasks : List ℤ) :
    Wf (m.addNew s sv vs tasks) := by
  by_cases h : m.findSession s = none
  · refine ⟨(hm.allocVotes vs).toConsistent.add _ _ _, ?_, ?_⟩
    · intro s' e he
      rw [addNew_absent h] at he ⊢
      simp only [UMap.lookup_insert_eq] at he
      by_cases hs : s' = s
      · rw [if_pos hs] at he
        obtain rfl := Option.some.inj he
        simp
      · rw [if_neg hs] at he
        have hlt := hm.votes_lt he
        simp only [Heap.read_alloc_of_lt _ _ (hm.keyed he).1, Heap.size_alloc]
        omega
    · intro s₁ s₂ e₁ e₂ he₁ he₂ hv
      rw [addNew_absent h] at he₁ he₂ hv
      simp only [UMap.lookup_insert_eq] at he₁ he₂
      by_cases h₁ : s₁ = s
      · by_cases h₂ : s₂ = s
        · exact h₁.trans h₂.symm
        · rw [if_pos h₁] at he₁
          rw [if_neg h₂] at he₂
          obtain rfl := Option.some.inj he₁
          have hlt := hm.votes_lt he₂
          simp only [Heap.read_alloc_fresh, Heap.read_alloc_of_lt _ _ (hm.keyed he₂).1] at hv
          omega
      · rw [if_neg h₁] at he₁
        by_cases h₂ : s₂ = s
        · rw [if_pos h₂] at he₂
          obtain rfl := Option.some.inj he₂
          have hlt := hm.votes_lt he₁
          simp only [Heap.read_alloc_fresh, Heap.read_alloc_of_lt _ _ (hm.keyed he₁).1] at hv
          omega
        · rw [if_neg h₂] at he₂
          simp only [Heap.read_alloc_of_lt _ _ (hm.keyed he₁).1,
            Heap.read_alloc_of_lt _ _ (hm.keyed he₂).1] at hv
          exact hm.votes_inj he₁ he₂ hv
  · rw [addNew_present h]
    exact hm.allocVotes vs

theorem findSession_addNew {s : ℤ} (h : m.findSession s = none) (sv : SessionValueEntry)
    (vs : Votes) (tasks : List ℤ) (s' : ℤ) :
    (m.addNew s sv vs tasks).findSession s' =
      if s' = s then some m.vals.size else m.findSession s' := by
  rw [addNew_absent h]
  unfold findSession
  simp only [UMap.lookup_insert_eq]
  by_cases hs : s' = s <;> simp [hs]

theorem state?_addNew (hm : Wf m) {s : ℤ} (h : m.findSession s = none) (sv : SessionValueEntry)
    (vs : Votes) (tasks : List ℤ) (s' : ℤ) :
    (m.addNew s sv vs tasks).state? s' =
      if s' = s then
        some { sv with sessionId := s, votes := m.votes.size, lastUpdatedTime := 0 }
      else m.state? s' := by
  unfold state?
  rw [findSession_addNew h, addNew_absent h]
  by_cases hs : s' = s
  · simp [hs]
  · rw [if_neg hs, if_neg hs]
    cases hq : m.findSession s' with
    | none => rfl
    | some q =>
        obtain ⟨e, he, rfl⟩ := findSession_eq_some hq
        simp [Heap.read_alloc_of_lt _ _ (hm.keyed he).1]

theorem votes?_addNew (hm : Wf m) {s : ℤ} (h : m.findSession s = none) (sv : SessionValueEntry)
    (vs : Votes) (tasks : List ℤ) (s' : ℤ) :
    (m.addNew s sv vs tasks).votes? s' = if s' = s then some vs else m.votes? s' := by
  unfold votes?
  rw [findSession_addNew h, addNew_absent h]
  by_cases hs : s' = s
  · simp [hs, votesOf]
  · rw [if_neg hs, if_neg hs]
    cases hq : m.findSession s' with
    | none => rfl
    | some q =>
        obtain ⟨e, he, rfl⟩ := findSession_eq_some hq
        simp [votesOf, Heap.read_alloc_of_lt _ _ (hm.keyed he).1,
          Heap.read_alloc_of_lt _ _ (hm.votes_lt he)]

/-! ### Removing a session -/

theorem remove (hm : Wf m) (s : ℤ) : Wf (m.remove s).2 := by
  cases hl : m.mSessions.lookup s with
  | none =>
      have hsame : (m.remove s).2 = m := by simp only [SessionTaskMap.remove, hl]
      rw [hsame]
      exact hm
  | some e =>
      have hold : ∀ {s' : ℤ} {e' : ValEntry}, (m.remove s).2.mSessions.lookup s' = some e' →
          m.mSessions.lookup s' = some e' := by
        intro s' e' he'
        rw [remove_map hl] at he'
        simp only [UMap.lookup_erase_eq] at he'
        by_cases hs : s' = s
        · simp [hs] at he'
        · rwa [if_neg hs] at he'
      refine ⟨hm.toConsistent.remove s, ?_, ?_⟩
      · intro s' e' he'
        rw [remove_map hl]
        exact hm.votes_lt (hold he')
      · intro s₁ s₂ e₁ e₂ he₁ he₂ hv
        rw [remove_map hl] at hv
        exact hm.votes_inj (hold he₁) (hold he₂) hv

theorem findSession_remove (m : SessionTaskMap) (s s' : ℤ) :
    (m.remove s).2.findSession s' = if s' = s then none else m.findSession s' := by
  cases hl : m.mSessions.lookup s with
  | none =>
      have hsame : (m.remove s).2 = m := by simp only [SessionTaskMap.remove, hl]
      rw [hsame]
      by_cases hs : s' = s
      · rw [if_pos hs, hs, findSession_eq_none.2 hl]
      · rw [if_neg hs]
  | some e =>
      rw [remove_map hl]
      unfold findSession
      simp only [UMap.lookup_erase_eq]
      by_cases hs : s' = s <;> simp [hs]

theorem remove_objects (m : SessionTaskMap) (s : ℤ) :
    (m.remove s).2.vals = m.vals ∧ (m.remove s).2.votes = m.votes := by
  unfold SessionTaskMap.remove
  cases m.mSessions.lookup s <;> exact ⟨rfl, rfl⟩

theorem state?_remove (m : SessionTaskMap) (s s' : ℤ) :
    (m.remove s).2.state? s' = if s' = s then none else m.state? s' := by
  unfold state?
  rw [findSession_remove, (remove_objects m s).1]
  by_cases hs : s' = s <;> simp [hs]

theorem votes?_remove (m : SessionTaskMap) (s s' : ℤ) :
    (m.remove s).2.votes? s' = if s' = s then none else m.votes? s' := by
  unfold votes? votesOf
  rw [findSession_remove, (remove_objects m s).1, (remove_objects m s).2]
  by_cases hs : s' = s <;> simp [hs]

theorem getTaskIds_remove (m : SessionTaskMap) (s s' : ℤ) :
    (m.remove s).2.getTaskIds s' = if s' = s then [] else m.getTaskIds s' := by
  unfold getTaskIds
  cases hl : m.mSessions.lookup s with
  | none =>
      have hsame : (m.remove s).2 = m := by simp only [SessionTaskMap.remove, hl]
      rw [hsame]
      split
      case isTrue hs => rw [hs, hl, Option.elim_none]
      case isFalse => rfl
  | some e =>
      rw [remove_map hl, UMap.lookup_erase_eq]
      split
      · rfl
      · rfl

/-! ### Replacing the tasks of a session -/

theorem replace_absent {s : ℤ} (h : m.findSession s = none) (tasks added removed : List ℤ) :
    (m.replace s tasks added removed).map = m := by
  simp only [SessionTaskMap.replace, findSession_eq_none.1 h]

theorem findSession_replace {s : ℤ} {p : ℕ} (h : m.findSession s = some p)
    (tasks added removed : List ℤ) (s' : ℤ) :
    (m.replace s tasks added removed).map.findSession s' =
      if s' = s then some m.vals.size else m.findSession s' := by
  obtain ⟨e, he, -⟩ := findSession_eq_some h
  rw [replace_map he]
  unfold findSession
  simp only [UMap.lookup_insert_eq, UMap.lookup_erase_eq]
  by_cases hs : s' = s <;> simp [hs]

theorem getTaskIds_replace {s : ℤ} {p : ℕ} (h : m.findSession s = some p)
    (tasks added removed : List ℤ) (s' : ℤ) :
    (m.replace s tasks added removed).map.getTaskIds s' =
      if s' = s then tasks else m.getTaskIds s' := by
  obtain ⟨e, he, -⟩ := findSession_eq_some h
  rw [replace_map he]
  unfold getTaskIds
  simp only [UMap.lookup_insert_eq, UMap.lookup_erase_eq]
  by_cases hs : s' = s <;> simp [hs]

/-- What is found through the index of a session is unchanged, if it is for the new index and for all old
ones. -/
theorem map_findSession_replace {α : Type} (hm : Wf m) {s : ℤ} {e : ValEntry}
    (h : m.findSession s = some e.val) (tasks added removed : List ℤ) {g g' : ℕ → α}
    (hnew : g' m.vals.size = g e.val) (hold : ∀ q < m.vals.size, g' q = g q) (s' : ℤ) :
    ((m.replace s tasks added removed).map.findSession s').map g' = (m.findSession s').map g := by
  rw [findSession_replace h]
  by_cases hs : s' = s
  · rw [if_pos hs, hs, h]
    simp only [Option.map_some, hnew]
  · rw [if_neg hs]
    cases hq : m.findSession s' with
    | none => rfl
    | some q =>
        obtain ⟨e', he', rfl⟩ := findSession_eq_some hq
        simp only [Option.map_some, hold _ (hm.keyed he').1]

theorem state?_replace (hm : Wf m) (s : ℤ) (tasks added removed : List ℤ) (s' : ℤ) :
    (m.replace s tasks added removed).map.state? s' = m.state? s' := by
  cases h : m.findSession s with
  | none => rw [replace_absent h]
  | some p =>
      obtain ⟨e, he, rfl⟩ := findSession_eq_some h
      obtain ⟨hnew, hold⟩ := hm.read_replace he tasks added removed
      refine hm.map_findSession_replace h tasks added removed ?_ (fun q hq => ?_) s'
      · rw [hnew]
      · rw [hold q hq]

theorem votesOf_replace (hm : Wf m) {s : ℤ} {e : ValEntry} (he : m.mSessions.lookup s = some e)
    (tasks added removed : List ℤ) :
    (m.replace s tasks added removed).map.votesOf m.vals.size = m.votesOf e.val ∧
      ∀ q < m.vals.size, (m.replace s tasks added removed).map.votesOf q = m.votesOf q := by
  obtain ⟨hnew, hold⟩ := hm.read_replace he tasks added removed
  have hvotes : (m.replace s tasks added removed).map.votes = m.votes := by rw [replace_map he]
  unfold votesOf
  rw [hvotes, hnew]
  exact ⟨rfl, fun q hq => by rw [hold q hq]⟩

theorem votes?_replace (hm : Wf m) (s : ℤ) (tasks added removed : List ℤ) (s' : ℤ) :
    (m.replace s tasks added removed).map.votes? s' = m.votes? s' := by
  cases h : m.findSession s with
  | none => rw [replace_absent h]
  | some p =>
      obtain ⟨e, he, rfl⟩ := findSession_eq_some h
      obtain ⟨hnew, hold⟩ := hm.votesOf_replace he tasks added removed
      exact hm.map_findSession_replace h tasks added removed hnew hold s'

theorem replace (hm : Wf m) (s : ℤ) (tasks added removed : List ℤ) :
    Wf (m.replace s tasks added removed).map := by
  cases h : m.findSession s with
  | none =>
      rw [replace_absent h]
      exact hm
  | some p =>
      obtain ⟨e, he, rfl⟩ := findSession_eq_some h
      obtain ⟨hnew, hold⟩ := hm.read_replace he tasks added removed
      have hvotes : (m.replace s tasks added removed).map.votes = m.votes := by rw [replace_map he]
      -- a session has the votes it had before
      have hback : ∀ {s' : ℤ} {e' : ValEntry},
          (m.replace s tasks added removed).map.mSessions.lookup s' = some e' →
          ∃ e₀, m.mSessions.lookup s' = some e₀ ∧
            ((m.replace s tasks added removed).map.vals.read e'.val).votes =
              (m.vals.read e₀.val).votes := by
        intro s' e' he'
        have hfind := findSession_of_lookup he'
        rw [findSession_replace h] at hfind
        by_cases hs : s' = s
        · rw [if_pos hs] at hfind
          refine ⟨e, hs ▸ he, ?_⟩
          rw [← Option.some.inj hfind, hnew]
        · rw [if_neg hs] at hfind
          obtain ⟨e₀, he₀, hv⟩ := findSession_eq_some hfind
          refine ⟨e₀, he₀, ?_⟩
          rw [← hv, hold _ (hm.keyed he₀).1]
      refine ⟨hm.toConsistent.replace s tasks added removed, ?_, ?_⟩
      · intro s' e' he'
        obtain ⟨e₀, he₀, hv⟩ := hback he'
        rw [hv, hvotes]
        exact hm.votes_lt he₀
      · intro s₁ s₂ e₁ e₂ he₁ he₂ hv
        obtain ⟨e₁', he₁', hv₁⟩ := hback he₁
        obtain ⟨e₂', he₂', hv₂⟩ := hback he₂
        rw [hv₁, hv₂] at hv
        exact hm.votes_inj he₁' he₂' hv

/-! ### Pruning a dead thread -/

theorem findSession_pruneTask {s : ℤ} {e : ValEntry} (he : m.mSessions.lookup s = some e)
    (taskId : ℤ) (i : ℕ) (s' : ℤ) :
    (m.pruneTask s taskId i).2.findSession s' = m.findSession s' := by
  rw [pruneTask_eq he]
  unfold findSession
  simp only [UMap.lookup_insert_eq]
  by_cases hs : s' = s
  · subst hs
    simp [he]
  · simp [hs]

theorem getTaskIds_pruneTask {s : ℤ} {e : ValEntry} (he : m.mSessions.lookup s = some e)
    (taskId : ℤ) (i : ℕ) (s' : ℤ) :
    (m.pruneTask s taskId i).2.getTaskIds s' =
      if s' = s then (m.getTaskIds s).eraseIdx i else m.getTaskIds s' := by
  rw [pruneTask_eq he]
  unfold getTaskIds
  simp only [UMap.lookup_insert_eq]
  by_cases hs : s' = s
  · subst hs
    simp [he]
  · simp [hs]

/-- A map with the same objects and the same pointers to them is well formed, once its two maps
agree. -/
theorem of_sameObjects (hm : Wf m) {m' : SessionTaskMap} (hc : Consistent m')
    (hfind : ∀ s, m'.findSession s = m.findSession s) (hvals : m'.vals = m.vals)
    (hvotes : m'.votes = m.votes) : Wf m' := by
  have hback : ∀ {s : ℤ} {e : ValEntry}, m'.mSessions.lookup s = some e →
      ∃ e₀, m.mSessions.lookup s = some e₀ ∧ e₀.val = e.val := by
    intro s e he
    have hf := findSession_of_lookup he
    rw [hfind] at hf
    exact findSession_eq_some hf
  refine ⟨hc, ?_, ?_⟩
  · intro s e he
    obtain ⟨e₀, he₀, hv⟩ := hback he
    rw [hvals, hvotes, ← hv]
    exact hm.votes_lt he₀
  · intro s₁ s₂ e₁ e₂ he₁ he₂ hv
    obtain ⟨e₁', he₁', hv₁⟩ := hback he₁
    obtain ⟨e₂', he₂', hv₂⟩ := hback he₂
    rw [hvals, ← hv₁, ← hv₂] at hv
    exact hm.votes_inj he₁' he₂' hv

end Wf

end Adpf.SessionTaskMap
