import Mathlib.Data.List.TakeWhile
import Mathlib.Data.Nat.Digits.Defs

/-!
# Decimal numbers in ASCII

What the C library's `atol` makes of a byte string on a target whose `long`
has 32 bits, against what the digits of the string denote.

* `value ds` is the number a digit string denotes: the digits, least
  significant first, evaluated by `Nat.ofDigits 10`.
* `atol` skips whitespace, takes a sign, reads digits up to the first other
  byte and saturates at the bounds of a 32-bit `long`.
* `Opens s ws plus ds rest` says that `s` opens with a positive number: there
  is one way to read it (`Opens.unique`), `atol` is positive exactly on such
  strings (`opens_of_atol_pos`), and its result is the number, cut off at
  `longMax` (`atol_of_opens`).
* `decimal n` spells `n`; leading zeros do not change what it denotes
  (`value_zerosDecimal`).
-/

namespace Numeral

/-- C's `isspace` in the default locale: HT, LF, VT, FF, CR and the blank. -/
def isSpace (c : UInt8) : Bool := c == 32 || (9 ≤ c && c ≤ 13)

/-- C's `isdigit`. -/
def isDigit (c : UInt8) : Bool := 48 ≤ c && c ≤ 57

/-- The value of one digit byte. -/
def digitVal (c : UInt8) : Nat := c.toNat - 48

/-- The number a digit string denotes. -/
def value (ds : List UInt8) : Nat := Nat.ofDigits 10 (ds.map digitVal).reverse

def longMin : Int := -2 ^ 31

def longMax : Int := 2 ^ 31 - 1

/-- The digit loop of `atol`: it stops at the first byte that is no digit. -/
def readDigits : Nat → List UInt8 → Nat
  | n, [] => n
  | n, c :: s => if isDigit c then readDigits (10 * n + digitVal c) s else n

/-- The sign `atol` takes: whether it is a minus, and what follows it. -/
def readSign : List UInt8 → Bool × List UInt8
  | [] => (false, [])
  | c :: s => if c = 45 then (true, s) else if c = 43 then (false, s) else (false, c :: s)

/-- `atol` on a 32-bit `long`. -/
def atol (s : List UInt8) : Int :=
  let (negative, t) := readSign (s.dropWhile isSpace)
  let n : Int := readDigits 0 t
  if negative then max longMin (-n) else min n longMax

/-! ## Digit strings -/

theorem isDigit_iff {c : UInt8} : isDigit c = true ↔ 48 ≤ c.toNat ∧ c.toNat ≤ 57 := by
  simp [isDigit, UInt8.le_iff_toNat_le]

theorem isSpace_iff {c : UInt8} :
    isSpace c = true ↔ c.toNat = 32 ∨ (9 ≤ c.toNat ∧ c.toNat ≤ 13) := by
  simp [isSpace, UInt8.le_iff_toNat_le, ← UInt8.toNat_inj]

/-- A digit is no blank and no sign. -/
theorem isDigit_disjoint {c : UInt8} (h : isDigit c = true) :
    isSpace c = false ∧ c ≠ 45 ∧ c ≠ 43 := by
  rw [isDigit_iff] at h
  refine ⟨?_, ?_, ?_⟩
  · rw [← Bool.not_eq_true, isSpace_iff]
    omega
  · rintro rfl
    exact absurd h (by decide)
  · rintro rfl
    exact absurd h (by decide)

@[simp] theorem value_nil : value [] = 0 := rfl

theorem value_concat (ds : List UInt8) (c : UInt8) :
    value (ds ++ [c]) = 10 * value ds + digitVal c := by
  simp [value, Nat.ofDigits_cons, Nat.add_comm]

/-- The digit loop computes the value of the digits in front. -/
theorem readDigits_append {ds rest : List UInt8} (hds : ∀ c ∈ ds, isDigit c = true)
    (hrest : ∀ c ∈ rest.head?, isDigit c = false) :
    readDigits 0 (ds ++ rest) = value ds := by
  -- the accumulator is the value of the digits read so far
  have key : ∀ (done ds : List UInt8), (∀ c ∈ ds, isDigit c = true) →
      readDigits (value done) (ds ++ rest) = value (done ++ ds) := by
    intro done ds
    induction ds generalizing done with
    | nil =>
      intro _
      cases rest with
      | nil => simp [readDigits]
      | cons c rest =>
        have hc : isDigit c = false := hrest c (by simp)
        simp [readDigits, hc]
    | cons c ds ih =>
      intro hds
      have hc : isDigit c = true := hds c (List.mem_cons_self ..)
      rw [List.cons_append, readDigits, if_pos hc, ← value_concat,
        ih (done ++ [c]) fun x hx => hds x (List.mem_cons_of_mem _ hx)]
      simp
  exact key [] ds hds

/-! ## Strings that open with a positive number -/

/-- `s` is whitespace, at most a plus sign, digits that denote a positive
number, and a rest that does not go on with a digit. -/
structure Opens (s ws plus ds rest : List UInt8) : Prop where
  eq : s = ws ++ (plus ++ (ds ++ rest))
  blank : ∀ c ∈ ws, isSpace c = true
  sign : plus = [] ∨ plus = [43]
  digits : ∀ c ∈ ds, isDigit c = true
  stop : ∀ c ∈ rest.head?, isDigit c = false
  pos : 0 < value ds

variable {s ws plus ds rest : List UInt8}

theorem Opens.digits_ne_nil (h : Opens s ws plus ds rest) : ds ≠ [] := by
  rintro rfl
  exact absurd h.pos (by simp)

/-- What follows the whitespace does not begin with whitespace. -/
theorem Opens.dropWhile_isSpace (h : Opens s ws plus ds rest) :
    s.dropWhile isSpace = plus ++ (ds ++ rest) := by
  -- the first byte after the whitespace is a plus sign or a digit
  obtain ⟨d, ds', rfl⟩ := List.exists_cons_of_ne_nil h.digits_ne_nil
  have hd := (isDigit_disjoint (h.digits d (List.mem_cons_self ..))).1
  rw [h.eq, List.dropWhile_append_of_pos h.blank]
  rcases h.sign with rfl | rfl
  · rw [List.nil_append, List.cons_append, List.dropWhile_cons, hd]
    rfl
  · rfl

theorem Opens.readSign (h : Opens s ws plus ds rest) :
    readSign (s.dropWhile isSpace) = (false, ds ++ rest) := by
  obtain ⟨d, ds', rfl⟩ := List.exists_cons_of_ne_nil h.digits_ne_nil
  have hd := (isDigit_disjoint (h.digits d (List.mem_cons_self ..))).2
  rw [h.dropWhile_isSpace]
  rcases h.sign with rfl | rfl
  · rw [List.nil_append, List.cons_append, Numeral.readSign, if_neg hd.1, if_neg hd.2]
  · rfl

/-- **What `atol` reads off the front of a string**: the number its digits
denote, cut off at the largest `long`. -/
theorem atol_of_opens (h : Opens s ws plus ds rest) :
    atol s = min (value ds : Int) longMax := by
  rw [atol, h.readSign]
  simp only [Bool.false_eq_true, if_false]
  rw [readDigits_append h.digits h.stop]

/-- Dropping digits stops at no digit. -/
theorem head_dropWhile_isDigit (t : List UInt8) :
    ∀ c ∈ (t.dropWhile isDigit).head?, isDigit c = false := by
  intro c hc
  have := List.head?_dropWhile_not isDigit t
  rw [Option.mem_def.mp hc] at this
  exact this

/-- The digit loop reads the digits in front, whatever follows. -/
theorem readDigits_eq (t : List UInt8) : readDigits 0 t = value (t.takeWhile isDigit) := by
  conv_lhs => rw [← List.takeWhile_append_dropWhile (p := isDigit) (l := t)]
  exact readDigits_append (fun c hc => List.mem_takeWhile_imp hc) (head_dropWhile_isDigit t)

/-- **`atol` is positive only on strings that open with a positive number.** -/
theorem opens_of_atol_pos {s : List UInt8} (h : 0 < atol s) :
    ∃ ws plus ds rest, Opens s ws plus ds rest := by
  -- once the sign is known, the pieces are what `takeWhile` and `dropWhile` cut
  have hmk : ∀ (plus t : List UInt8), plus = [] ∨ plus = [43] →
      s.dropWhile isSpace = plus ++ t → 0 < value (t.takeWhile isDigit) →
      ∃ ws plus ds rest, Opens s ws plus ds rest := by
    intro plus t hplus ht hpos
    refine ⟨s.takeWhile isSpace, plus, t.takeWhile isDigit, t.dropWhile isDigit,
      ⟨?_, fun c hc => List.mem_takeWhile_imp hc, hplus,
        fun c hc => List.mem_takeWhile_imp hc, head_dropWhile_isDigit t, hpos⟩⟩
    rw [List.takeWhile_append_dropWhile, ← ht, List.takeWhile_append_dropWhile]
  rw [atol] at h
  cases ht : s.dropWhile isSpace with
  | nil => rw [ht] at h; exact absurd h (by decide)
  | cons c t =>
    rw [ht, Numeral.readSign] at h
    by_cases hminus : c = 45
    · -- after a minus sign the result is at most zero
      rw [if_pos hminus] at h
      simp only [if_true, longMin] at h
      omega
    · rw [if_neg hminus] at h
      by_cases hplus : c = 43
      · subst hplus
        simp only [if_true, Bool.false_eq_true, if_false, readDigits_eq, longMax] at h
        exact hmk [43] t (Or.inr rfl) ht (by omega)
      · rw [if_neg hplus] at h
        simp only [Bool.false_eq_true, if_false, readDigits_eq, longMax] at h
        exact hmk [] (c :: t) (Or.inl rfl) ht (by omega)

/-- A digit run in front of a rest that does not go on with one is found by
`takeWhile`. -/
theorem takeWhile_isDigit_append {ds rest : List UInt8} (hds : ∀ c ∈ ds, isDigit c = true)
    (hrest : ∀ c ∈ rest.head?, isDigit c = false) :
    (ds ++ rest).takeWhile isDigit = ds := by
  rw [List.takeWhile_append_of_pos hds]
  cases rest with
  | nil => simp
  | cons c rest =>
    have hc : isDigit c = false := hrest c (by simp)
    simp [hc]

/-- **One reading.** A string opens with a positive number in one way. -/
theorem Opens.unique {ws' plus' ds' rest' : List UInt8} (h : Opens s ws plus ds rest)
    (h' : Opens s ws' plus' ds' rest') :
    ws = ws' ∧ plus = plus' ∧ ds = ds' ∧ rest = rest' := by
  -- the whitespace is what `dropWhile` drops, the sign what `readSign` takes
  have hdrop : plus ++ (ds ++ rest) = plus' ++ (ds' ++ rest') := by
    rw [← h.dropWhile_isSpace, h'.dropWhile_isSpace]
  have hws : ws = ws' := by
    have := h.eq.symm.trans h'.eq
    rw [hdrop] at this
    exact List.append_cancel_right this
  have hrun : ds ++ rest = ds' ++ rest' := by
    have := h.readSign.symm.trans h'.readSign
    exact (Prod.mk.inj this).2
  have hds : ds = ds' := by
    rw [← takeWhile_isDigit_append h.digits h.stop, hrun,
      takeWhile_isDigit_append h'.digits h'.stop]
  subst hds
  rw [hrun] at hdrop
  exact ⟨hws, List.append_cancel_right hdrop, rfl, List.append_cancel_left hrun⟩

/-! ## Spelling a number -/

/-- `n` in decimal, without leading zeros. -/
def decimal (n : Nat) : List UInt8 :=
  ((Nat.digits 10 n).map fun d => UInt8.ofNat (48 + d)).reverse

/-- `n` in decimal behind `z` zeros. -/
def zerosDecimal (z n : Nat) : List UInt8 := List.replicate z 48 ++ decimal n

theorem toNat_digit {d : Nat} (hd : d < 10) : (UInt8.ofNat (48 + d)).toNat = 48 + d :=
  UInt8.toNat_ofNat_of_lt (by change 48 + d < 256; omega)

theorem isDigit_zerosDecimal {z n : Nat} : ∀ c ∈ zerosDecimal z n, isDigit c = true := by
  intro c hc
  rcases List.mem_append.mp hc with hz | hd
  · rw [List.eq_of_mem_replicate hz]
    decide
  · simp only [decimal, List.mem_reverse, List.mem_map] at hd
    obtain ⟨d, hmem, rfl⟩ := hd
    have hlt : d < 10 := Nat.digits_lt_base (by omega) hmem
    rw [isDigit_iff, toNat_digit hlt]
    omega

theorem value_decimal (n : Nat) : value (decimal n) = n := by
  -- reading a digit undoes writing it
  have hmap : (decimal n).map digitVal = (Nat.digits 10 n).reverse := by
    rw [decimal, List.map_reverse, List.map_map]
    congr 1
    refine (List.map_congr_left fun d hd => ?_).trans (List.map_id _)
    have hlt : d < 10 := Nat.digits_lt_base (by omega) hd
    rw [Function.comp_apply, digitVal, toNat_digit hlt, Nat.add_sub_cancel_left, id]
  rw [value, hmap, List.reverse_reverse, Nat.ofDigits_digits]

/-- Leading zeros do not count. -/
theorem value_zerosDecimal (z n : Nat) : value (zerosDecimal z n) = n := by
  have hzeros : (List.replicate z (48 : UInt8)).map digitVal = List.replicate z 0 := by
    rw [List.map_replicate]
    rfl
  rw [value, zerosDecimal, List.map_append, hzeros, List.reverse_append,
    List.reverse_replicate, Nat.ofDigits_append_replicate_zero]
  exact value_decimal n

end Numeral
