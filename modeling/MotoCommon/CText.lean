/-
**Lines and numbers in a text file.**

A file is read line by line: a line is what stands up to a newline and the newline, and of the line only
what stands before the first NUL counts as a string.  A number is read with `strtoull` for base 0: blanks and
a sign are skipped, `0x` and `0` say that the digits are hexadecimal or octal, and a number that does not fit
into 64 bits is cut off at the largest that does.

Main definitions:

* `CText.lines`, `CText.cstring` — the lines of a file, and the string in a buffer;
* `CText.splitAt` — `strchr`, and what stands before and behind;
* `CText.strtoull` — a number is read;
* `CText.decimal`, `CText.hexadecimal` — a number is written.

Main results:

* `CText.readDigits_toDigits` — digits are read back, whatever stands behind them;
* `CText.strtoull_decimal`, `CText.strtoull_hexadecimal` — a number of 64 bits is read back.
-/

import Mathlib.Data.Nat.Notation
import Mathlib.Data.List.TakeWhile
import Mathlib.Data.Nat.Digits.Defs

set_option autoImplicit false

namespace CText

/-! ### Lines -/

/-- The lines of a file, as `getline` returns them one after the other. -/
def lines : List Char → List (List Char)
  | [] => []
  | c :: cs =>
      if c = '\n' then [c] :: lines cs
      else
        match lines cs with
        | [] => [[c]]
        | line :: rest => (c :: line) :: rest

/-- The string in a buffer. -/
def cstring (buffer : List Char) : List Char := buffer.takeWhile (· ≠ '\x00')

/-- `strchr`: what stands before and behind the first such character. -/
def splitAt (c : Char) : List Char → Option (List Char × List Char)
  | [] => none
  | a :: as => if a = c then some ([], as) else (splitAt c as).map fun p => (a :: p.1, p.2)

theorem cstring_eq_self {s : List Char} (h : '\x00' ∉ s) : cstring s = s := by
  refine List.takeWhile_eq_self_iff.2 fun c hc => decide_eq_true ?_
  rintro rfl
  exact h hc

theorem splitAt_append {c : Char} {before : List Char} (h : c ∉ before) (after : List Char) :
    splitAt c (before ++ c :: after) = some (before, after) := by
  induction before with
  | nil => exact if_pos rfl
  | cons a before ih =>
      have hne : a ≠ c := fun heq => h (heq ▸ List.mem_cons_self)
      rw [List.cons_append, splitAt, if_neg hne, ih fun hc => h (List.mem_cons_of_mem a hc)]
      rfl

/-- Characters at the front that are skipped. -/
theorem dropWhile_append {p : Char → Bool} {front rest : List Char} (hfront : ∀ c ∈ front, p c = true)
    (hrest : ∀ c ∈ rest.head?, p c = false) : (front ++ rest).dropWhile p = rest := by
  rw [List.dropWhile_append_of_pos hfront]
  cases rest with
  | nil => rfl
  | cons c rest => exact List.dropWhile_cons_of_neg (Bool.eq_false_iff.1 (hrest c rfl))

/-! ### Numbers -/

/-- `isspace`. -/
def isSpace (c : Char) : Bool := c ∈ [' ', '\t', '\n', '\x0b', '\x0c', '\r']

/-- The value of a digit or a letter. -/
def digitValue (c : Char) : Option ℕ :=
  if c.isDigit then some (c.toNat - '0'.toNat)
  else if c.isLower then some (c.toNat - 'a'.toNat + 10)
  else if c.isUpper then some (c.toNat - 'A'.toNat + 10)
  else none

/-- The value of a digit of a base. -/
def digitOf (base : ℕ) (c : Char) : Option ℕ := (digitValue c).filter (· < base)

/-- The number that the digits stand for, up to the first character that is none, behind some digits that
stand for `acc`. -/
def readDigits (base : ℕ) : List Char → ℕ → ℕ
  | [], acc => acc
  | c :: cs, acc =>
      match digitOf base c with
      | some d => readDigits base cs (acc * base + d)
      | none => acc

/-- The base that the first characters say, and the digits.  `0x` counts only before a digit. -/
def baseOf (s : List Char) : ℕ × List Char :=
  match s with
  | '0' :: x :: c :: cs =>
      if (x = 'x' ∨ x = 'X') ∧ (digitOf 16 c).isSome then (16, c :: cs) else (8, s)
  | '0' :: _ => (8, s)
  | _ => (10, s)

/-- The number without a sign. -/
def magnitude (s : List Char) : ℕ := readDigits (baseOf s).1 (baseOf s).2 0

def ULLONG_MAX : ℕ := 2 ^ 64 - 1

/-- `strtoull(s, NULL, 0)`. -/
def strtoull (s : List Char) : ℕ :=
  match s.dropWhile isSpace with
  | '-' :: cs => if magnitude cs ≤ ULLONG_MAX then (2 ^ 64 - magnitude cs) % 2 ^ 64 else ULLONG_MAX
  | '+' :: cs => min (magnitude cs) ULLONG_MAX
  | cs => min (magnitude cs) ULLONG_MAX

theorem strtoull_lt (s : List Char) : strtoull s < 2 ^ 64 := by
  have hmax : ULLONG_MAX < 2 ^ 64 := by decide
  unfold strtoull
  split
  · split
    · exact Nat.mod_lt _ (by decide)
    · exact hmax
  · exact (Nat.min_le_right _ _).trans_lt hmax
  · exact (Nat.min_le_right _ _).trans_lt hmax

/-- A number as `%llu` and `0x%llx` write it. -/
def decimal (n : ℕ) : List Char := Nat.toDigits 10 n

def hexadecimal (n : ℕ) : List Char := '0' :: 'x' :: Nat.toDigits 16 n

/-- What may stand behind a number: no digit and no letter. -/
def Ends (rest : List Char) : Prop := ∀ c ∈ rest.head?, digitValue c = none

instance : DecidablePred Ends
  | [] => isTrue nofun
  | c :: _ => decidable_of_iff (digitValue c = none)
      ⟨fun h _ hc => Option.some.inj (Option.mem_def.1 hc) ▸ h, fun h => h c rfl⟩

/-! ### Reading what was written -/

theorem digitValue_digitChar {d : ℕ} (hd : d < 16) : digitValue d.digitChar = some d := by
  have hall : ∀ d < 16, digitValue (Nat.digitChar d) = some d := by decide
  exact hall d hd

theorem digitOf_digitChar {base d : ℕ} (hd : d < base) (hbase : base ≤ 16) :
    digitOf base d.digitChar = some d := by
  rw [digitOf, digitValue_digitChar (hd.trans_le hbase)]
  exact Option.filter_some_pos (decide_eq_true hd)

theorem readDigits_cons {base d : ℕ} {c : Char} (h : digitOf base c = some d) (cs : List Char) (acc : ℕ) :
    readDigits base (c :: cs) acc = readDigits base cs (acc * base + d) := by
  rw [readDigits, h]

theorem readDigits_of_ends {base : ℕ} {rest : List Char} (h : Ends rest) (acc : ℕ) :
    readDigits base rest acc = acc := by
  cases rest with
  | nil => rfl
  | cons c rest =>
      have hnone : digitOf base c = none := by
        rw [digitOf, h c rfl]
        rfl
      rw [readDigits, hnone]

/-- **Digits are read back**, by induction on the number without its last digit. -/
theorem readDigits_toDigits {base : ℕ} (hbase : 1 < base) (hle : base ≤ 16) (n : ℕ) (rest : List Char) :
    readDigits base (Nat.toDigits base n ++ rest) 0 = readDigits base rest n := by
  induction n using Nat.strongRecOn generalizing rest with
  | _ n ih =>
      rw [Nat.toDigits_eq_if hbase]
      split
      case isTrue hlt =>
        rw [List.singleton_append, readDigits_cons (digitOf_digitChar hlt hle), Nat.zero_mul, Nat.zero_add]
      case isFalse hge =>
        have hdiv : n / base < n := Nat.div_lt_self (by omega) hbase
        have hmod : n % base < base := Nat.mod_lt n (by omega)
        rw [List.append_assoc, ih _ hdiv, List.singleton_append, readDigits_cons (digitOf_digitChar hmod hle),
          Nat.mul_comm, Nat.div_add_mod]

/-- A number other than zero does not begin with a zero. -/
theorem toDigits_head {base : ℕ} (hbase : 1 < base) {n : ℕ} (hn : 0 < n) :
    ∃ d cs, Nat.toDigits base n = Nat.digitChar d :: cs ∧ 0 < d ∧ d < base := by
  induction n using Nat.strongRecOn with
  | _ n ih =>
      rw [Nat.toDigits_eq_if hbase]
      split
      case isTrue hlt => exact ⟨n, [], rfl, hn, hlt⟩
      case isFalse hge =>
        have hdiv : n / base < n := Nat.div_lt_self hn hbase
        obtain ⟨d, cs, heq, hd, hlt⟩ := ih _ hdiv (Nat.div_pos (by omega) (by omega))
        exact ⟨d, cs ++ [(n % base).digitChar], by rw [heq, List.cons_append], hd, hlt⟩

/-- Blanks before a number that begins with a digit are skipped, and it has no sign. -/
theorem strtoull_of_digit {blanks s : List Char} {d : ℕ} (hblanks : ∀ b ∈ blanks, isSpace b = true)
    (hd : d < 10) :
    strtoull (blanks ++ d.digitChar :: s) = min (magnitude (d.digitChar :: s)) ULLONG_MAX := by
  have hdigit : ∀ d < 10, isSpace (Nat.digitChar d) = false ∧ Nat.digitChar d ≠ '-' ∧ Nat.digitChar d ≠ '+' := by
    decide
  obtain ⟨hspace, hminus, hplus⟩ := hdigit d hd
  have hrest : ∀ c ∈ (d.digitChar :: s).head?, isSpace c = false := by
    rintro c ⟨⟩
    exact hspace
  unfold strtoull
  rw [dropWhile_append hblanks hrest]
  split
  · rename_i heq
    exact absurd (List.cons.inj heq).1 hminus
  · rename_i heq
    exact absurd (List.cons.inj heq).1 hplus
  · rfl

theorem baseOf_of_ne {c : Char} (hc : c ≠ '0') (s : List Char) : baseOf (c :: s) = (10, c :: s) := by
  unfold baseOf
  split
  · rename_i heq
    exact absurd (List.cons.inj heq).1 hc
  · rename_i heq
    exact absurd (List.cons.inj heq).1 hc
  · rfl

/-- A zero with no digit or letter behind it. -/
theorem magnitude_zero {rest : List Char} (h : Ends rest) : magnitude ('0' :: rest) = 0 := by
  have hbase : baseOf ('0' :: rest) = (8, '0' :: rest) := by
    match rest, h with
    | [], _ => rfl
    | [_], _ => rfl
    | x :: c :: cs, h =>
        have hx : ¬ ((x = 'x' ∨ x = 'X') ∧ (digitOf 16 c).isSome) := by
          rintro ⟨rfl | rfl, -⟩
          · exact absurd (h 'x' rfl) (by decide)
          · exact absurd (h 'X' rfl) (by decide)
        exact if_neg hx
  rw [magnitude, hbase, readDigits_cons (show digitOf 8 '0' = some 0 from rfl)]
  exact readDigits_of_ends h _

theorem min_ULLONG_MAX {n : ℕ} (hn : n < 2 ^ 64) : min n ULLONG_MAX = n :=
  Nat.min_eq_left (Nat.le_sub_one_of_lt hn)

/-- **A decimal number is read back.** -/
theorem strtoull_decimal {blanks rest : List Char} (hblanks : ∀ b ∈ blanks, isSpace b = true) {n : ℕ}
    (hn : n < 2 ^ 64) (hrest : Ends rest) : strtoull (blanks ++ (decimal n ++ rest)) = n := by
  rcases Nat.eq_zero_or_pos n with rfl | hpos
  · refine (strtoull_of_digit (d := 0) hblanks (by decide)).trans ?_
    show min (magnitude ('0' :: rest)) ULLONG_MAX = 0
    rw [magnitude_zero hrest]
    rfl
  · obtain ⟨d, cs, hdigits, hd, hlt⟩ := toDigits_head (by decide : 1 < 10) hpos
    have hne : ∀ d < 10, 0 < d → Nat.digitChar d ≠ '0' := by decide
    have hread := readDigits_toDigits (by decide : 1 < 10) (by decide) n rest
    unfold decimal
    rw [hdigits] at hread ⊢
    rw [List.cons_append] at hread ⊢
    rw [strtoull_of_digit hblanks hlt, magnitude, baseOf_of_ne (hne d hlt hd), hread,
      readDigits_of_ends hrest, min_ULLONG_MAX hn]

/-- **So is a hexadecimal one.** -/
theorem strtoull_hexadecimal {blanks rest : List Char} (hblanks : ∀ b ∈ blanks, isSpace b = true) {n : ℕ}
    (hn : n < 2 ^ 64) (hrest : Ends rest) : strtoull (blanks ++ (hexadecimal n ++ rest)) = n := by
  have hread := readDigits_toDigits (by decide : 1 < 16) (by decide) n rest
  have hhead : ∃ d cs, Nat.toDigits 16 n = Nat.digitChar d :: cs ∧ d < 16 := by
    rcases Nat.eq_zero_or_pos n with rfl | hpos
    · exact ⟨0, [], rfl, by decide⟩
    · obtain ⟨d, cs, hdigits, -, hlt⟩ := toDigits_head (by decide : 1 < 16) hpos
      exact ⟨d, cs, hdigits, hlt⟩
  obtain ⟨d, cs, hdigits, hlt⟩ := hhead
  have hbase : baseOf ('0' :: 'x' :: (Nat.toDigits 16 n ++ rest)) = (16, Nat.toDigits 16 n ++ rest) := by
    rw [hdigits, List.cons_append]
    refine if_pos ⟨Or.inl rfl, ?_⟩
    rw [digitOf_digitChar hlt (Nat.le_refl 16)]
    rfl
  refine (strtoull_of_digit (d := 0) hblanks (by decide)).trans ?_
  rw [show Nat.digitChar 0 = '0' from rfl, magnitude]
  show min (readDigits (baseOf ('0' :: 'x' :: (Nat.toDigits 16 n ++ rest))).1
    (baseOf ('0' :: 'x' :: (Nat.toDigits 16 n ++ rest))).2 0) ULLONG_MAX = n
  rw [hbase, hread, readDigits_of_ends hrest, min_ULLONG_MAX hn]

end CText
