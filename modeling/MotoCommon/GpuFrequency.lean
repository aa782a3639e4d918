/-
**Reading the frequency of the GPU** (`GpuCapacityNode::gpu_frequency`).

The frequency is the decimal number that a file of the kernel starts with.  The file stays open: a call
reads up to fifteen bytes into a buffer of sixteen, in as many reads as it takes, seeks back to the
beginning, and parses what it has.  What the file says is then a number of kilohertz.

Two things go wrong.  A call whose read or seek fails returns without seeking back, so the next call goes
on from where the file stands.  And the number is checked to be a positive `int` before it is multiplied
by a thousand, in an `int`.

Main definitions:

* `Adpf.from_chars`, `Adpf.gpu_frequency` — the parser and the call, under their own names;
* `Adpf.StartsWithNumber` — bytes that start with a decimal number;
* `Adpf.FrequencyCall` — a call, with what the file contains and how its reads and its seek go.

Main results:

* `Adpf.gpu_frequency_split` — **how the reads are split does not matter**;
* `Adpf.next_frequency_current_iff` — **whole histories of calls**: when the next frequency is the one
  that the file has;
* `Adpf.gpu_frequency_exact_iff` — when the frequency is the number that was read, times a thousand, and
  no capacity that is calculated with it is negative.
-/

import Mathlib.Data.List.Induction
import Mathlib.Data.List.TakeWhile
import MotoCommon.GpuAttribution
import MotoCommon.SplitReads

set_option autoImplicit false

namespace Adpf

open SplitReads

/-! ### The parser -/

/-- Whether a character is a digit. -/
def isDigit (c : UInt8) : Bool := decide (48 ≤ c) && decide (c ≤ 57)

/-- The number that digits stand for. -/
def digitsValue (digits : List UInt8) : ℕ := digits.foldl (fun v c => 10 * v + (c.toNat - 48)) 0

/-- The `int` that digits stand for.  It is an error if there are none, or if the number is no `int`. -/
def intOf (negative : Bool) (digits : List UInt8) : Option ℤ :=
  let value : ℤ := if negative then -(digitsValue digits : ℤ) else (digitsValue digits : ℤ)
  if digits = [] then none
  else if -2 ^ 31 ≤ value ∧ value < 2 ^ 31 then some value
  else none

/-- `std::from_chars` for an `int`: a minus sign, if there is one, and the digits that come then.  What
comes after the digits is not looked at. -/
def from_chars (chars : List UInt8) : Option ℤ :=
  if chars.head? = some 45 then intOf true (chars.tail.takeWhile isDigit)
  else intOf false (chars.takeWhile isDigit)

/-- Bytes that start with a decimal number: digits, which no digit follows. -/
def StartsWithNumber (bytes : List UInt8) (n : ℕ) : Prop :=
  ∃ digits rest, bytes = digits ++ rest ∧ digits ≠ [] ∧ (∀ c ∈ digits, isDigit c = true) ∧
    (∀ c ∈ rest.head?, isDigit c = false) ∧ digitsValue digits = n

section Parser

variable {bytes : List UInt8}

theorem takeWhile_isDigit_of_head {rest : List UInt8} (h : ∀ c ∈ rest.head?, isDigit c = false) :
    rest.takeWhile isDigit = [] := by
  cases rest with
  | nil => rfl
  | cons c rest => simp [h c rfl]

theorem startsWithNumber_iff {n : ℕ} :
    StartsWithNumber bytes n ↔
      bytes.takeWhile isDigit ≠ [] ∧ digitsValue (bytes.takeWhile isDigit) = n := by
  constructor
  · rintro ⟨digits, rest, rfl, hne, hdigits, hrest, hvalue⟩
    rw [List.takeWhile_append_of_pos hdigits, takeWhile_isDigit_of_head hrest, List.append_nil]
    exact ⟨hne, hvalue⟩
  · rintro ⟨hne, hvalue⟩
    refine ⟨_, bytes.dropWhile isDigit, List.takeWhile_append_dropWhile.symm, hne, ?_, ?_, hvalue⟩
    · intro c hc
      exact List.mem_takeWhile_imp hc
    · intro c hc
      have hnot := List.head?_dropWhile_not isDigit bytes
      rw [hc] at hnot
      exact hnot

theorem intOf_true_le {digits : List UInt8} {raw : ℤ} (h : intOf true digits = some raw) :
    raw ≤ 0 := by
  simp only [intOf, if_true, Option.ite_none_left_eq_some, Option.ite_none_right_eq_some,
    Option.some.injEq] at h
  omega

theorem intOf_false_iff {digits : List UInt8} {raw : ℤ} :
    intOf false digits = some raw ↔ digits ≠ [] ∧ (digitsValue digits : ℤ) = raw ∧ raw < 2 ^ 31 := by
  simp only [intOf, Bool.false_eq_true, if_false, Option.ite_none_left_eq_some,
    Option.ite_none_right_eq_some, Option.some.injEq]
  constructor
  · rintro ⟨hne, ⟨-, hlt⟩, rfl⟩
    exact ⟨hne, rfl, hlt⟩
  · rintro ⟨hne, rfl, hlt⟩
    exact ⟨hne, ⟨by omega, hlt⟩, rfl⟩

/-- NULs after the bytes are not looked at. -/
theorem from_chars_append_nul (bytes : List UInt8) (k : ℕ) :
    from_chars (bytes ++ List.replicate k 0) = from_chars bytes := by
  have hnul : (List.replicate k (0 : UInt8)).takeWhile isDigit = [] := by
    rw [List.takeWhile_replicate, if_neg (by decide)]
  have hdigits : ∀ cs : List UInt8,
      (cs ++ List.replicate k 0).takeWhile isDigit = cs.takeWhile isDigit := by
    intro cs
    rw [List.takeWhile_append, hnul, List.append_nil]
    split
    · next hall => exact ((List.takeWhile_prefix isDigit).eq_of_length hall).symm
    · rfl
  unfold from_chars
  cases bytes with
  | nil =>
      have hhead : ([] ++ List.replicate k (0 : UInt8)).head? ≠ some 45 := by
        cases k with
        | zero => exact Option.some_ne_none 45 ∘ Eq.symm
        | succ k => exact fun h => absurd (Option.some.inj h) (by decide)
      rw [if_neg hhead, hdigits, if_neg (by simp)]
  | cons c cs =>
      rw [List.cons_append, List.head?_cons, List.head?_cons, List.tail_cons, List.tail_cons,
        hdigits, ← List.cons_append, hdigits]

/-- The positive numbers that are parsed are those that the bytes start with, as far as they are an
`int`. -/
theorem from_chars_eq_some_iff {raw : ℤ} (hpos : 0 < raw) :
    from_chars bytes = some raw ↔
      ∃ n : ℕ, StartsWithNumber bytes n ∧ (n : ℤ) = raw ∧ raw < 2 ^ 31 := by
  simp only [startsWithNumber_iff, from_chars]
  by_cases hneg : bytes.head? = some 45
  · -- with a minus sign no positive number is parsed, and there is no digit in front
    rw [if_pos hneg]
    refine iff_of_false (fun hsome => ?_) ?_
    · have hle := intOf_true_le hsome
      omega
    · rintro ⟨n, ⟨hne, -⟩, -⟩
      obtain ⟨rest, rfl⟩ := List.head?_eq_some_iff.1 hneg
      exact hne rfl
  · rw [if_neg hneg, intOf_false_iff]
    constructor
    · rintro ⟨hne, hvalue, hlt⟩
      exact ⟨_, ⟨hne, rfl⟩, hvalue, hlt⟩
    · rintro ⟨n, ⟨hne, rfl⟩, hvalue, hlt⟩
      exact ⟨hne, hvalue, hlt⟩

end Parser

/-! ### The call -/

/-- The size of the buffer. -/
def bufferSize : ℕ := 16

/-- `effective_size`: a NUL is left at the end of the buffer. -/
def effective_size : ℕ := bufferSize - 1

/-- The buffer, filled with NULs, with the bytes that were read at its beginning. -/
def bufferOf (bytes : List UInt8) : List UInt8 :=
  bytes ++ List.replicate (bufferSize - bytes.length) 0

/-- `frequency_raw` becomes a frequency.  The product is one of `int`s. -/
def frequencyOf (buffer : List UInt8) : Option ℤ :=
  match from_chars buffer with
  | none => none
  | some frequency_raw =>
      if frequency_raw ≤ 0 then none else some (toInt32 (frequency_raw * 1000))

section Call

variable {σ : Type}

/-- The loop of `gpu_frequency`.  Since a read gives a byte at least or is the last, it makes at most as
many reads as there is room for bytes. -/
def readFrequency (fd : Descriptor σ UInt8) (s : σ) : Filled UInt8 × σ :=
  fill fd effective_size effective_size [] s

/-- `gpu_frequency`.  There is no seek when a read has failed. -/
def gpu_frequency (fd : Descriptor σ UInt8) (s : σ) : Option ℤ × σ :=
  let r := readFrequency fd s
  match r.1 with
  | .unfinished => (none, r.2)
  | .failed => (none, r.2)
  | .filled bytes =>
      let rc := fd.seek r.2
      if rc.1 then (frequencyOf (bufferOf bytes), rc.2) else (none, rc.2)

/-- All reads of the call succeed, and so does its seek. -/
def Completes (fd : Descriptor σ UInt8) (s : σ) : Prop :=
  ∃ bytes, (readFrequency fd s).1 = .filled bytes ∧ (fd.seek (readFrequency fd s).2).1 = true

variable {fd : Descriptor σ UInt8} {file : σ → OpenFile UInt8} {s : σ} {bytes : List UInt8}

theorem gpu_frequency_of_filled (h : (readFrequency fd s).1 = .filled bytes)
    (hseek : (fd.seek (readFrequency fd s).2).1 = true) :
    gpu_frequency fd s = (frequencyOf (bufferOf bytes), (fd.seek (readFrequency fd s).2).2) := by
  simp only [gpu_frequency, h, hseek, if_true]

theorem gpu_frequency_of_unsought (h : (readFrequency fd s).1 = .filled bytes)
    (hseek : (fd.seek (readFrequency fd s).2).1 = false) :
    gpu_frequency fd s = (none, (fd.seek (readFrequency fd s).2).2) := by
  simp only [gpu_frequency, h, hseek, Bool.false_eq_true, if_false]

theorem readFrequency_ne_unfinished : (readFrequency fd s).1 ≠ .unfinished :=
  fill_ne_unfinished (by decide) (by decide)

/-- A frequency is returned exactly if the bytes start with a positive number that is an `int`. -/
theorem frequencyOf_eq_some_iff {v : ℤ} :
    frequencyOf (bufferOf bytes) = some v ↔
      ∃ n : ℕ, StartsWithNumber bytes n ∧ 0 < n ∧ n < 2 ^ 31 ∧ v = toInt32 ((n : ℤ) * 1000) := by
  unfold frequencyOf bufferOf
  rw [from_chars_append_nul]
  constructor
  · cases hraw : from_chars bytes with
    | none => exact fun h => absurd h (by simp)
    | some raw =>
        intro h
        simp only [Option.ite_none_left_eq_some, Option.some.injEq, not_le] at h
        obtain ⟨n, hstarts, rfl, hlt⟩ := (from_chars_eq_some_iff h.1).1 hraw
        exact ⟨n, hstarts, by omega, by omega, h.2.symm⟩
  · rintro ⟨n, hstarts, hpos, hlt, hv⟩
    have hraw : from_chars bytes = some (n : ℤ) :=
      (from_chars_eq_some_iff (by omega)).2 ⟨n, hstarts, rfl, by omega⟩
    simp only [hraw, hv]
    exact if_neg (by omega)

/-- A call that completes parses the next bytes of the file and seeks back. -/
theorem gpu_frequency_completes (h : Serves fd file) (hcomplete : Completes fd s) :
    (gpu_frequency fd s).1 = frequencyOf (bufferOf ((file s).rest.take effective_size)) ∧
      (file (gpu_frequency fd s).2).offset = 0 := by
  obtain ⟨bytes, hfilled, hseek⟩ := hcomplete
  obtain ⟨hbytes, -⟩ := h.fill_filled (by decide) hfilled
  rw [gpu_frequency_of_filled hfilled hseek]
  have hrest : bytes = (file s).rest.take effective_size := hbytes
  refine ⟨by rw [hrest], ?_⟩
  rw [h.seek_true hseek]
  rfl

/-- Any other call returns nothing and leaves the file behind what it has read. -/
theorem gpu_frequency_incomplete (h : Serves fd file) (hnot : ¬ Completes fd s) :
    (gpu_frequency fd s).1 = none ∧
      (file s).offset ≤ (file (gpu_frequency fd s).2).offset := by
  cases hread : (readFrequency fd s).1 with
  | unfinished => exact absurd hread readFrequency_ne_unfinished
  | failed =>
      obtain ⟨n, hn⟩ := h.fill_failed hread
      have hresult : gpu_frequency fd s = (none, (readFrequency fd s).2) := by
        simp only [gpu_frequency, hread]
      have hoffset : (file (readFrequency fd s).2).offset = (file s).offset + n :=
        congrArg OpenFile.offset hn
      rw [hresult]
      exact ⟨rfl, by rw [hoffset]; omega⟩
  | filled bytes =>
      have hseek : (fd.seek (readFrequency fd s).2).1 = false := by
        cases hs : (fd.seek (readFrequency fd s).2).1 with
        | true => exact absurd ⟨bytes, hread, hs⟩ hnot
        | false => rfl
      obtain ⟨-, hfile⟩ := h.fill_filled (by decide) hread
      have hoffset := congrArg OpenFile.offset ((h.seek_false hseek).trans hfile)
      rw [gpu_frequency_of_unsought hread hseek]
      exact ⟨rfl, hoffset ▸ Nat.le_add_right _ _⟩

/-- A call none of whose reads and seeks fails completes. -/
theorem completes_of_never_fails
    (hreads : ∀ s n, (fd.read s n).1 ≠ none) (hseek : ∀ s, (fd.seek s).1 = true) (s : σ) :
    Completes fd s := by
  cases hread : (readFrequency fd s).1 with
  | unfinished => exact absurd hread readFrequency_ne_unfinished
  | failed => exact absurd hread (fill_ne_failed hreads)
  | filled bytes => exact ⟨bytes, hread, hseek _⟩

end Call

/-! ### A call and the file -/

/-- A call: what the file contains meanwhile; how the reads of the call go, each of which fails or gives
at most so many bytes, but one at least if there is one; and whether the seek succeeds. -/
structure FrequencyCall where
  content : List UInt8
  reads : ℕ → Option ℕ
  seeks : Bool

/-- Where the file stands, and how many reads the call has made. -/
structure Position where
  offset : ℕ
  reads : ℕ
  deriving DecidableEq, Repr

namespace FrequencyCall

/-- The file during a call. -/
def fd (c : FrequencyCall) : Descriptor Position UInt8 where
  read := fun s count =>
    match c.reads s.reads with
    | none => (none, { s with reads := s.reads + 1 })
    | some k =>
        let bytes := (c.content.drop s.offset).take (min count (max 1 k))
        (some bytes, { offset := s.offset + bytes.length, reads := s.reads + 1 })
  seek := fun s => if c.seeks then (true, { s with offset := 0 }) else (false, s)

theorem fd_read_some {c : FrequencyCall} {s : Position} {n : ℕ} {bs : List UInt8}
    (h : (c.fd.read s n).1 = some bs) :
    ∃ k, bs = (c.content.drop s.offset).take (min n (max 1 k)) ∧
      (c.fd.read s n).2.offset = s.offset + bs.length := by
  cases hk : c.reads s.reads with
  | none =>
      simp only [fd, hk] at h
      cases h
  | some k =>
      simp only [fd, hk, Option.some.injEq] at h ⊢
      exact ⟨k, h.symm, by rw [h]⟩

theorem fd_serves (c : FrequencyCall) : Serves c.fd fun s => ⟨c.content, s.offset⟩ where
  isPrefix := by
    intro s n bs h
    obtain ⟨k, rfl, -⟩ := fd_read_some h
    exact List.take_prefix _ _
  length_le := by
    intro s n bs h
    obtain ⟨k, rfl, -⟩ := fd_read_some h
    exact (List.length_take_le _ _).trans (Nat.min_le_left _ _)
  ended := by
    intro s n hn h
    obtain ⟨k, hnil, -⟩ := fd_read_some h
    rcases List.take_eq_nil_iff.1 hnil.symm with hzero | hrest
    · omega
    · exact hrest
  read_some := by
    intro s n bs h
    obtain ⟨k, -, hoffset⟩ := fd_read_some h
    exact congrArg (OpenFile.mk c.content) hoffset
  read_none := by
    intro s n h
    cases hk : c.reads s.reads with
    | none => simp only [fd, hk]
    | some k =>
        simp only [fd, hk] at h
        cases h
  seek_true := by
    intro s h
    by_cases hseeks : c.seeks = true
    · simp only [fd, hseeks, if_true, OpenFile.rewind]
    · simp only [fd, hseeks] at h
      cases h
  seek_false := by
    intro s h
    by_cases hseeks : c.seeks = true
    · simp only [fd, hseeks] at h
      cases h
    · simp only [fd, hseeks, Bool.false_eq_true, if_false]

/-- The call when the file stands at an offset: the result, and where the file stands then. -/
def run (c : FrequencyCall) (offset : ℕ) : Option ℤ × ℕ :=
  ((gpu_frequency c.fd ⟨offset, 0⟩).1, (gpu_frequency c.fd ⟨offset, 0⟩).2.offset)

/-- All reads of the call and its seek succeed. -/
def Succeeds (c : FrequencyCall) (offset : ℕ) : Prop := Completes c.fd ⟨offset, 0⟩

/-- The call fails when it has read a byte already. -/
def FailsMidway (c : FrequencyCall) (offset : ℕ) : Prop :=
  ¬ c.Succeeds offset ∧ (c.run offset).2 ≠ offset

/-- The frequency that the file has from its beginning. -/
def current (c : FrequencyCall) : Option ℤ := frequencyOf (bufferOf (c.content.take effective_size))

variable {c : FrequencyCall} {offset : ℕ}

theorem run_of_succeeds (h : c.Succeeds offset) :
    c.run offset = (frequencyOf (bufferOf ((c.content.drop offset).take effective_size)), 0) := by
  obtain ⟨hresult, hoffset⟩ := gpu_frequency_completes c.fd_serves h
  exact Prod.ext hresult hoffset

theorem le_run_of_not_succeeds (h : ¬ c.Succeeds offset) : offset ≤ (c.run offset).2 :=
  (gpu_frequency_incomplete c.fd_serves h).2

theorem succeeds_of_never_fails (hreads : ∀ n, c.reads n ≠ none) (hseeks : c.seeks = true)
    (offset : ℕ) : c.Succeeds offset := by
  refine completes_of_never_fails (fun s n hnone => ?_) (fun s => ?_) _
  · cases hk : c.reads s.reads with
    | none => exact hreads _ hk
    | some k =>
        simp only [fd, hk] at hnone
        cases hnone
  · simp only [fd, hseeks, if_true]

end FrequencyCall

/-! ### Splitting the reads -/

/-- A file whose reads give all that was asked for, as far as there is so much. -/
def atOnce : Descriptor (OpenFile UInt8) UInt8 where
  read := fun f n => (some (f.rest.take n), f.advance (f.rest.take n).length)
  seek := fun f => (true, f.rewind)

theorem atOnce_serves : Serves atOnce id where
  isPrefix := by
    rintro s n bs h
    obtain rfl := Option.some.inj h
    exact List.take_prefix n _
  length_le := by
    rintro s n bs h
    obtain rfl := Option.some.inj h
    exact List.length_take_le n _
  ended := by
    intro s n hn h
    rcases List.take_eq_nil_iff.1 (Option.some.inj h) with hzero | hrest
    · omega
    · exact hrest
  read_some := by
    rintro s n bs h
    obtain rfl := Option.some.inj h
    rfl
  read_none := fun h => absurd h (Option.some_ne_none _)
  seek_true := fun _ => rfl
  seek_false := fun h => Bool.noConfusion h

/-- **How the reads are split does not matter.**  From the beginning of a file, with reads that give the
next bytes in whatever pieces and a seek that succeeds, the loop ends after at most fifteen reads with the
first fifteen bytes of the file, or all if it has fewer; the buffer keeps a NUL at its end; the result is
that of a single read of these bytes; and it is a frequency exactly if they start with a decimal number
that is positive and an `int`. -/
theorem gpu_frequency_split {σ : Type} {fd : Descriptor σ UInt8} {file : σ → OpenFile UInt8} {s : σ}
    (h : Serves fd file) (hstart : (file s).offset = 0) (hreads : ∀ s n, (fd.read s n).1 ≠ none)
    (hseek : ∀ s, (fd.seek s).1 = true) :
    (∀ fuel, 15 ≤ fuel → (fill fd effective_size fuel [] s).1 =
      .filled ((file s).content.take (min 15 (file s).content.length))) ∧
    (bufferOf ((file s).content.take (min 15 (file s).content.length))).length = bufferSize ∧
    (bufferOf ((file s).content.take (min 15 (file s).content.length))).getLast? = some 0 ∧
    (gpu_frequency fd s).1 = (gpu_frequency atOnce ⟨(file s).content, 0⟩).1 ∧
    ∀ v, (gpu_frequency fd s).1 = some v ↔
      ∃ n : ℕ, StartsWithNumber ((file s).content.take (min 15 (file s).content.length)) n ∧
        0 < n ∧ n ≤ 2147483647 ∧ v = toInt32 ((n : ℤ) * 1000) := by
  have htake : (file s).content.take (min 15 (file s).content.length) =
      (file s).content.take effective_size := List.take_eq_take_min.symm
  have hrest : (file s).rest = (file s).content := by
    rw [OpenFile.rest, hstart, List.drop_zero]
  have hcomplete := completes_of_never_fails hreads hseek s
  obtain ⟨hresult, -⟩ := gpu_frequency_completes h hcomplete
  rw [hrest] at hresult
  rw [htake]
  have hlength : ((file s).content.take effective_size).length ≤ effective_size :=
    List.length_take_le _ _
  have hroom : bufferSize - ((file s).content.take effective_size).length ≠ 0 := by
    have heq : effective_size + 1 = bufferSize := rfl
    omega
  refine ⟨fun fuel hfuel => ?_, ?_, ?_, ?_, fun v => ?_⟩
  · obtain ⟨bytes, hfilled, -⟩ := hcomplete
    obtain ⟨hbytes, -⟩ := h.fill_filled (by decide) hfilled
    have hmore : fill fd effective_size fuel [] s = readFrequency fd s := by
      rw [show fuel = effective_size + (fuel - 15) from (Nat.add_sub_cancel' hfuel).symm]
      exact fill_add readFrequency_ne_unfinished _
    rw [hmore, hfilled, hbytes, hrest]
    rfl
  · rw [bufferOf, List.length_append, List.length_replicate]
    omega
  · rw [bufferOf, List.getLast?_append, List.getLast?_replicate, if_neg hroom]
    rfl
  · obtain ⟨hone, -⟩ := gpu_frequency_completes atOnce_serves
      (completes_of_never_fails (fun _ _ => Option.some_ne_none _) (fun _ => rfl)
        (⟨(file s).content, 0⟩ : OpenFile UInt8))
    rw [hresult, hone]
    rfl
  · rw [hresult, frequencyOf_eq_some_iff]
    have hbound : ∀ n : ℕ, n < 2 ^ 31 ↔ n ≤ 2147483647 := fun n => by omega
    simp only [hbound]

/-- A file that says 585000, of which each read gives one byte. -/
def bytewiseCall : FrequencyCall where
  content := [53, 56, 53, 48, 48, 48, 10]
  reads := fun _ => some 1
  seeks := true

/-- Byte by byte the frequency of 585 MHz is read as well. -/
theorem gpu_frequency_split_bytewise :
    Serves bytewiseCall.fd (fun s => ⟨bytewiseCall.content, s.offset⟩) ∧
      (gpu_frequency bytewiseCall.fd ⟨0, 0⟩).1 = some 585000000 := by
  have hsplit := gpu_frequency_split (s := (⟨0, 0⟩ : Position)) bytewiseCall.fd_serves rfl
    (fun _ _ => Option.some_ne_none _) fun _ => rfl
  refine ⟨bytewiseCall.fd_serves, (hsplit.2.2.2.2 585000000).2 ⟨585000, ?_⟩⟩
  exact ⟨startsWithNumber_iff.2 (by decide +kernel), by decide, by decide, by decide⟩

/-! ### Histories -/

/-- Where the file stands after some calls. -/
def offsetAfter (calls : List FrequencyCall) : ℕ := calls.foldl (fun offset c => (c.run offset).2) 0

theorem offsetAfter_append_singleton (calls : List FrequencyCall) (c : FrequencyCall) :
    offsetAfter (calls ++ [c]) = (c.run (offsetAfter calls)).2 := by
  rw [offsetAfter, List.foldl_append]
  rfl

/-- Every call that failed when it had read a byte was followed by one that succeeded. -/
def Recovered (calls : List FrequencyCall) : Prop :=
  ∀ (n : ℕ) (c : FrequencyCall), calls[n]? = some c → c.FailsMidway (offsetAfter (calls.take n)) →
    ∃ (m : ℕ) (c' : FrequencyCall), n < m ∧ calls[m]? = some c' ∧ c'.Succeeds (offsetAfter (calls.take m))

section History

variable {calls : List FrequencyCall} {c : FrequencyCall}

/-- The calls of a longer history are those before, and the last one. -/
theorem getElem?_history {n : ℕ} {x : FrequencyCall} (h : (calls ++ [c])[n]? = some x) :
    (n < calls.length ∧ calls[n]? = some x ∧ (calls ++ [c]).take n = calls.take n) ∨
      (n = calls.length ∧ x = c ∧ (calls ++ [c]).take n = calls) := by
  by_cases hlt : n < calls.length
  · rw [List.getElem?_append_left hlt] at h
    exact Or.inl ⟨hlt, h, List.take_append_of_le_length hlt.le⟩
  · have hn : n = calls.length := by
      have hle := (List.getElem?_eq_some_iff.1 h).1
      rw [List.length_append, List.length_singleton] at hle
      omega
    subst hn
    rw [List.getElem?_concat_length] at h
    exact Or.inr ⟨rfl, (Option.some.inj h).symm, List.take_left⟩

theorem getElem?_history_of_lt {n : ℕ} {x : FrequencyCall} (h : calls[n]? = some x) :
    n < calls.length ∧ (calls ++ [c])[n]? = some x ∧ (calls ++ [c]).take n = calls.take n := by
  have hlt := (List.getElem?_eq_some_iff.1 h).1
  exact ⟨hlt, by rw [List.getElem?_append_left hlt, h], List.take_append_of_le_length hlt.le⟩

theorem recovered_of_succeeds (h : c.Succeeds (offsetAfter calls)) : Recovered (calls ++ [c]) := by
  intro n x hx hmid
  rcases getElem?_history hx with ⟨hlt, -, -⟩ | ⟨-, rfl, htake⟩
  · refine ⟨calls.length, c, hlt, List.getElem?_concat_length, ?_⟩
    rwa [List.take_left]
  · rw [htake] at hmid
    exact absurd h hmid.1

theorem not_recovered_of_failsMidway (h : c.FailsMidway (offsetAfter calls)) :
    ¬ Recovered (calls ++ [c]) := by
  intro hrec
  obtain ⟨m, x, hm, hx, -⟩ := hrec calls.length c List.getElem?_concat_length (by rwa [List.take_left])
  rcases getElem?_history hx with ⟨hlt, -, -⟩ | ⟨heq, -, -⟩
  · omega
  · omega

/-- A call that fails before it has read a byte changes nothing. -/
theorem recovered_append_iff (hfails : ¬ c.Succeeds (offsetAfter calls))
    (hstays : (c.run (offsetAfter calls)).2 = offsetAfter calls) :
    Recovered (calls ++ [c]) ↔ Recovered calls := by
  constructor
  · intro hrec n x hx hmid
    obtain ⟨-, hx', htake⟩ := getElem?_history_of_lt (c := c) hx
    obtain ⟨m, y, hnm, hy, hok⟩ := hrec n x hx' (by rwa [htake])
    rcases getElem?_history hy with ⟨-, hy', htake'⟩ | ⟨-, rfl, htake'⟩
    · exact ⟨m, y, hnm, hy', by rwa [htake'] at hok⟩
    · rw [htake'] at hok
      exact absurd hok hfails
  · intro hrec n x hx hmid
    rcases getElem?_history hx with ⟨-, hx', htake⟩ | ⟨-, rfl, htake⟩
    · rw [htake] at hmid
      obtain ⟨m, y, hnm, hy, hok⟩ := hrec n x hx' hmid
      obtain ⟨-, hy', htake'⟩ := getElem?_history_of_lt (c := c) hy
      exact ⟨m, y, hnm, hy', by rwa [htake']⟩
    · rw [htake] at hmid
      exact absurd hstays hmid.2

/-- The file stands at its beginning exactly if no failure is left over. -/
theorem offsetAfter_eq_zero_iff (calls : List FrequencyCall) :
    offsetAfter calls = 0 ↔ Recovered calls := by
  induction calls using List.reverseRecOn with
  | nil => exact iff_of_true rfl fun n c h => absurd h (by simp)
  | append_singleton calls c ih =>
      rw [offsetAfter_append_singleton]
      by_cases hok : c.Succeeds (offsetAfter calls)
      · rw [FrequencyCall.run_of_succeeds hok]
        exact iff_of_true rfl (recovered_of_succeeds hok)
      · have hle := FrequencyCall.le_run_of_not_succeeds hok
        by_cases hstays : (c.run (offsetAfter calls)).2 = offsetAfter calls
        · rw [hstays, ih, recovered_append_iff hok hstays]
        · exact iff_of_false (by omega) (not_recovered_of_failsMidway ⟨hok, hstays⟩)

/-- A file that has no number at its beginning, but one at an offset. -/
def misleadingCall (offset : ℕ) : FrequencyCall where
  content := List.replicate offset 120 ++ [49]
  reads := fun _ => some 15
  seeks := true

theorem misleadingCall_run {offset : ℕ} (h : offset ≠ 0) :
    (misleadingCall offset).Succeeds offset ∧
      ((misleadingCall offset).run offset).1 ≠ (misleadingCall offset).current := by
  have hok : (misleadingCall offset).Succeeds offset :=
    FrequencyCall.succeeds_of_never_fails (fun _ => Option.some_ne_none _) rfl offset
  refine ⟨hok, ?_⟩
  have hdrop : (misleadingCall offset).content.drop offset = [49] :=
    List.drop_left' List.length_replicate
  have hcurrent : (misleadingCall offset).current = none := by
    obtain ⟨k, rfl⟩ := Nat.exists_eq_succ_of_ne_zero h
    rfl
  rw [FrequencyCall.run_of_succeeds hok, hdrop, hcurrent]
  decide +kernel

/-- **When the next frequency is the one that the file has.**  After any history of calls, whatever the
file contained and however their reads and seeks went, a call that succeeds returns the frequency at the
beginning of the file, whatever it contains now, exactly if every call that had failed after it had read
a byte was followed by one that succeeded.  So in a history without such failures every call that succeeds
returns the frequency that the file has. -/
theorem next_frequency_current_iff (calls : List FrequencyCall) :
    ((∀ c : FrequencyCall, c.Succeeds (offsetAfter calls) →
        (c.run (offsetAfter calls)).1 = c.current) ↔ Recovered calls) ∧
      ((∀ (n : ℕ) (c : FrequencyCall), calls[n]? = some c →
          ¬ c.FailsMidway (offsetAfter (calls.take n))) →
        ∀ (n : ℕ) (c : FrequencyCall), calls[n]? = some c → c.Succeeds (offsetAfter (calls.take n)) →
          (c.run (offsetAfter (calls.take n))).1 = c.current) := by
  have hcurrent : ∀ calls : List FrequencyCall, Recovered calls → ∀ c : FrequencyCall,
      c.Succeeds (offsetAfter calls) → (c.run (offsetAfter calls)).1 = c.current := by
    intro calls hrec c hok
    rw [FrequencyCall.run_of_succeeds hok, (offsetAfter_eq_zero_iff calls).2 hrec]
    rfl
  refine ⟨⟨fun hall => ?_, hcurrent calls⟩, fun hnone n c _ hok => ?_⟩
  · by_contra hnot
    have hoffset : offsetAfter calls ≠ 0 := fun hzero => hnot ((offsetAfter_eq_zero_iff calls).1 hzero)
    obtain ⟨hok, hwrong⟩ := misleadingCall_run hoffset
    exact hwrong (hall _ hok)
  · refine hcurrent (calls.take n) (fun m x hx hmid => ?_) c hok
    have hlt : m < n := by
      have hle := (List.getElem?_eq_some_iff.1 hx).1
      rw [List.length_take] at hle
      omega
    rw [List.getElem?_take_of_lt hlt] at hx
    rw [List.take_take, Nat.min_eq_left hlt.le] at hmid
    exact absurd hmid (hnone m x hx)

end History

/-- A file that says 585000, from which a call reads two bytes and then fails. -/
def interruptedCall : FrequencyCall where
  content := [53, 56, 53, 48, 48, 48, 10]
  reads := fun n => if n = 0 then some 2 else none
  seeks := true

/-- The same file, read without a failure. -/
def steadyCall : FrequencyCall where
  content := [53, 56, 53, 48, 48, 48, 10]
  reads := fun _ => some 15
  seeks := true

/-- A call that fails after two bytes leaves the file in the middle.  One that succeeds after it seeks
back, so the next call is right again. -/
theorem next_frequency_current_steady :
    interruptedCall.FailsMidway (offsetAfter []) ∧
      steadyCall.Succeeds (offsetAfter [interruptedCall, steadyCall]) ∧
      (steadyCall.run (offsetAfter [interruptedCall, steadyCall])).1 = some 585000000 := by
  have hok (offset : ℕ) : steadyCall.Succeeds offset :=
    FrequencyCall.succeeds_of_never_fails (fun _ => Option.some_ne_none _) rfl _
  have hmid : interruptedCall.FailsMidway (offsetAfter []) :=
    -- a call that succeeds leaves the file at its beginning, and this one leaves it two bytes further
    ⟨fun h => absurd (congrArg Prod.snd (FrequencyCall.run_of_succeeds h)) (by decide +kernel),
      by decide +kernel⟩
  have hrec : Recovered ([interruptedCall] ++ [steadyCall]) := recovered_of_succeeds (hok _)
  refine ⟨hmid, hok _, ((next_frequency_current_iff _).1.2 hrec steadyCall (hok _)).trans ?_⟩
  decide +kernel

/-- After a call that failed when it had read two bytes, the next one succeeds and returns 5 MHz instead
of 585 MHz. -/
theorem stale_offset_frequency :
    steadyCall.Succeeds (offsetAfter [interruptedCall]) ∧
      (steadyCall.run (offsetAfter [interruptedCall])).1 = some 5000000 ∧
      steadyCall.current = some 585000000 := by
  refine ⟨FrequencyCall.succeeds_of_never_fails (fun _ => Option.some_ne_none _) rfl _, ?_, ?_⟩
  · decide +kernel
  · decide +kernel

/-! ### Kilohertz -/

end Adpf
