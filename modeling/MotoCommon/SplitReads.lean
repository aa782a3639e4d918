/-
**Filling a buffer from a file that is read in pieces.**

A read of an open file may give fewer elements than were asked for: any number from one on, and none only
at the end of the file.  A program that wants more reads again, until its buffer is full or nothing more
comes.  How the file is cut into pieces on the way is decided by somebody else; here a descriptor is any
machine that answers reads and seeks, and *serves* a file if what it answers is the file's.

Main definitions:

* `SplitReads.OpenFile` — a file and the place where the next read begins;
* `SplitReads.Descriptor`, `SplitReads.Serves` — what answers the calls, and that it answers truly;
* `SplitReads.fill` — the loop that fills a buffer, with a bound on the number of reads.

Main results:

* `SplitReads.Serves.fill_filled` — **the pieces do not matter**: the buffer has the next elements of the
  file, as many as fit;
* `SplitReads.fill_ne_unfinished` — as many reads as there is room for are enough;
* `SplitReads.Serves.fill_failed` — where the file stands when a read fails.
-/

import Mathlib.Data.List.Basic
import Mathlib.Data.List.Infix

set_option autoImplicit false

namespace SplitReads

variable {σ β : Type}

/-! ### Files -/

/-- An open file: what it contains, and where the next read begins. -/
structure OpenFile (β : Type) where
  content : List β
  offset : ℕ
  deriving DecidableEq, Repr

namespace OpenFile

/-- What is left to read. -/
def rest (f : OpenFile β) : List β := f.content.drop f.offset

/-- The file when `n` more elements have been read. -/
def advance (f : OpenFile β) (n : ℕ) : OpenFile β := { f with offset := f.offset + n }

/-- The file when it is to be read from the beginning. -/
def rewind (f : OpenFile β) : OpenFile β := { f with offset := 0 }

theorem rest_advance (f : OpenFile β) (n : ℕ) : (f.advance n).rest = f.rest.drop n := by
  rw [rest, rest, advance, List.drop_drop]

theorem advance_advance (f : OpenFile β) (n m : ℕ) :
    (f.advance n).advance m = f.advance (n + m) := by
  rw [advance, advance, advance, Nat.add_assoc]

end OpenFile

/-- The calls that a program makes on an open file: a read of at most so many elements, which fails or
gives some, and a seek to the beginning, which fails or not. -/
structure Descriptor (σ β : Type) where
  read : σ → ℕ → Option (List β) × σ
  seek : σ → Bool × σ

/-- The calls are about the file that a state stands for.  A read gives the next elements, at most as
many as were asked for, and none only at the end. -/
structure Serves (d : Descriptor σ β) (file : σ → OpenFile β) : Prop where
  isPrefix : ∀ {s : σ} {n : ℕ} {bs : List β}, (d.read s n).1 = some bs → bs <+: (file s).rest
  length_le : ∀ {s : σ} {n : ℕ} {bs : List β}, (d.read s n).1 = some bs → bs.length ≤ n
  ended : ∀ {s : σ} {n : ℕ}, 0 < n → (d.read s n).1 = some [] → (file s).rest = []
  read_some : ∀ {s : σ} {n : ℕ} {bs : List β}, (d.read s n).1 = some bs →
    file (d.read s n).2 = (file s).advance bs.length
  read_none : ∀ {s : σ} {n : ℕ}, (d.read s n).1 = none → file (d.read s n).2 = file s
  seek_true : ∀ {s : σ}, (d.seek s).1 = true → file (d.seek s).2 = (file s).rewind
  seek_false : ∀ {s : σ}, (d.seek s).1 = false → file (d.seek s).2 = file s

/-! ### The loop -/

/-- How the loop ends: it would need more reads; a read has failed; the buffer is full or the file has
ended. -/
inductive Filled (β : Type) where
  | unfinished
  | failed
  | filled (buffer : List β)
  deriving DecidableEq, Repr

/-- The loop, with at most so many reads.  It reads until the buffer has `size` elements, or nothing more
comes. -/
def fill (d : Descriptor σ β) (size : ℕ) : ℕ → List β → σ → Filled β × σ
  | 0, _, s => (.unfinished, s)
  | fuel + 1, buffer, s =>
      let r := d.read s (size - buffer.length)
      match r.1 with
      | none => (.failed, r.2)
      | some [] => (.filled buffer, r.2)
      | some (b :: bs) =>
          if (buffer ++ b :: bs).length < size then fill d size fuel (buffer ++ b :: bs) r.2
          else (.filled (buffer ++ b :: bs), r.2)

section Loop

variable {d : Descriptor σ β} {size fuel : ℕ} {buffer : List β} {s : σ}

/-- What one round of the loop does: the read fails, or gives nothing, or the rest of what there is room
for, or less. -/
theorem fill_succ_cases (d : Descriptor σ β) (size fuel : ℕ) (buffer : List β) (s : σ) :
    ((d.read s (size - buffer.length)).1 = none ∧
      fill d size (fuel + 1) buffer s = (.failed, (d.read s (size - buffer.length)).2)) ∨
    ((d.read s (size - buffer.length)).1 = some [] ∧
      fill d size (fuel + 1) buffer s = (.filled buffer, (d.read s (size - buffer.length)).2)) ∨
    ∃ bs, bs ≠ [] ∧ (d.read s (size - buffer.length)).1 = some bs ∧
      ((size ≤ (buffer ++ bs).length ∧ fill d size (fuel + 1) buffer s =
          (.filled (buffer ++ bs), (d.read s (size - buffer.length)).2)) ∨
        ((buffer ++ bs).length < size ∧ fill d size (fuel + 1) buffer s =
          fill d size fuel (buffer ++ bs) (d.read s (size - buffer.length)).2)) := by
  cases hr : (d.read s (size - buffer.length)).1 with
  | none => exact Or.inl ⟨rfl, by simp only [fill, hr]⟩
  | some bs =>
      cases bs with
      | nil => exact Or.inr (Or.inl ⟨rfl, by simp only [fill, hr]⟩)
      | cons b bs =>
          refine Or.inr (Or.inr ⟨b :: bs, List.cons_ne_nil b bs, rfl, ?_⟩)
          by_cases hlt : (buffer ++ b :: bs).length < size
          · exact Or.inr ⟨hlt, by simp only [fill, hr, if_pos hlt]⟩
          · exact Or.inl ⟨Nat.not_lt.1 hlt, by simp only [fill, hr, if_neg hlt]⟩

/-- More reads than the loop needs change nothing. -/
theorem fill_add (hend : (fill d size fuel buffer s).1 ≠ .unfinished) (k : ℕ) :
    fill d size (fuel + k) buffer s = fill d size fuel buffer s := by
  induction fuel generalizing buffer s with
  | zero => exact absurd rfl hend
  | succ fuel ih =>
      have hfuel : fuel + 1 + k = fuel + k + 1 := by omega
      rw [hfuel]
      rcases fill_succ_cases d size fuel buffer s with ⟨hr, heq⟩ | ⟨hr, heq⟩ | ⟨bs, hne, hr, hround⟩
      · rw [heq]
        simp only [fill, hr]
      · rw [heq]
        simp only [fill, hr]
      · obtain ⟨b, bs, rfl⟩ := List.exists_cons_of_ne_nil hne
        rcases hround with ⟨hfull, heq⟩ | ⟨hlt, heq⟩
        · rw [heq]
          simp only [fill, hr, if_neg (Nat.not_lt.2 hfull)]
        · rw [heq] at hend ⊢
          rw [← ih hend]
          simp only [fill, hr, if_pos hlt]

variable {file : σ → OpenFile β}

/-- As many reads as there is room for are enough, since each of them gives something or is the last. -/
theorem fill_ne_unfinished (hroom : buffer.length < size) (hfuel : size ≤ buffer.length + fuel) :
    (fill d size fuel buffer s).1 ≠ .unfinished := by
  induction fuel generalizing buffer s with
  | zero => omega
  | succ fuel ih =>
      intro hmore
      rcases fill_succ_cases d size fuel buffer s with ⟨-, heq⟩ | ⟨-, heq⟩ | ⟨bs, hne, -, hround⟩
      · rw [heq] at hmore
        cases hmore
      · rw [heq] at hmore
        cases hmore
      · have hpos := List.length_pos_of_ne_nil hne
        rcases hround with ⟨-, heq⟩ | ⟨hlt, heq⟩
        · rw [heq] at hmore
          cases hmore
        · rw [heq] at hmore
          have hlength : (buffer ++ bs).length = buffer.length + bs.length := List.length_append
          exact ih hlt (by omega) hmore

/-- **The pieces do not matter.**  When the loop ends, the buffer has the next elements of the file, as
many as there was room for, and the file stands behind them. -/
theorem Serves.fill_filled (h : Serves d file) {bytes : List β} (hroom : buffer.length < size)
    (hfilled : (fill d size fuel buffer s).1 = .filled bytes) :
    bytes = buffer ++ (file s).rest.take (size - buffer.length) ∧
      file (fill d size fuel buffer s).2 =
        (file s).advance ((file s).rest.take (size - buffer.length)).length := by
  -- the buffer and what is left of the file grow and shrink together
  induction fuel generalizing buffer s with
  | zero => cases hfilled
  | succ fuel ih =>
      rcases fill_succ_cases d size fuel buffer s with ⟨-, heq⟩ | ⟨hr, heq⟩ | ⟨bs, -, hr, hround⟩
      · rw [heq] at hfilled
        cases hfilled
      · rw [heq] at hfilled ⊢
        have hend := h.ended (by omega) hr
        have hfile := h.read_some hr
        cases hfilled
        rw [hend, List.take_nil, List.append_nil]
        exact ⟨rfl, hfile⟩
      · have hfile := h.read_some hr
        have hle := h.length_le hr
        obtain ⟨later, hrest⟩ := h.isPrefix hr
        rw [← hrest]
        rcases hround with ⟨hfull, heq⟩ | ⟨hlt, heq⟩
        · rw [heq] at hfilled ⊢
          cases hfilled
          rw [List.length_append] at hfull
          rw [List.take_append_of_le_length (by omega), List.take_of_length_le hle]
          exact ⟨rfl, hfile⟩
        · rw [heq] at hfilled ⊢
          obtain ⟨hbytes, hlast⟩ := ih hlt hfilled
          have hleft : (file (d.read s (size - buffer.length)).2).rest = later := by
            rw [hfile, OpenFile.rest_advance, ← hrest, List.drop_left]
          rw [hleft, List.length_append, ← Nat.sub_sub] at hbytes hlast
          rw [List.take_append, List.take_of_length_le hle]
          refine ⟨by rw [hbytes, List.append_assoc], ?_⟩
          rw [hlast, hfile, OpenFile.advance_advance, List.length_append]

/-- A read that fails leaves the file behind what was read until then. -/
theorem Serves.fill_failed (h : Serves d file) (hfailed : (fill d size fuel buffer s).1 = .failed) :
    ∃ n, file (fill d size fuel buffer s).2 = (file s).advance n := by
  induction fuel generalizing buffer s with
  | zero => cases hfailed
  | succ fuel ih =>
      rcases fill_succ_cases d size fuel buffer s with ⟨hr, heq⟩ | ⟨-, heq⟩ | ⟨bs, -, hr, hround⟩
      · rw [heq]
        exact ⟨0, h.read_none hr⟩
      · rw [heq] at hfailed
        cases hfailed
      · rcases hround with ⟨-, heq⟩ | ⟨-, heq⟩
        · rw [heq] at hfailed
          cases hfailed
        · rw [heq] at hfailed ⊢
          obtain ⟨n, hn⟩ := ih hfailed
          exact ⟨bs.length + n, by rw [hn, h.read_some hr, OpenFile.advance_advance]⟩

/-- Where no read fails, the loop does not fail. -/
theorem fill_ne_failed (hreads : ∀ s n, (d.read s n).1 ≠ none) :
    (fill d size fuel buffer s).1 ≠ .failed := by
  induction fuel generalizing buffer s with
  | zero =>
      intro hfailed
      cases hfailed
  | succ fuel ih =>
      intro hfailed
      rcases fill_succ_cases d size fuel buffer s with ⟨hr, -⟩ | ⟨-, heq⟩ | ⟨bs, -, -, hround⟩
      · exact hreads _ _ hr
      · rw [heq] at hfailed
        cases hfailed
      · rcases hround with ⟨-, heq⟩ | ⟨-, heq⟩
        · rw [heq] at hfailed
          cases hfailed
        · rw [heq] at hfailed
          exact ih hfailed

end Loop

end SplitReads
