import YoloUno.Lib.Numeral
import Mathlib.Data.List.DropRight

/-!
# The Arduino `String` class

The operations of `String` that the command line uses, on byte strings. A
`String` keeps its length, so it may hold NUL bytes; only the operations that
go through the C string (`==` with a literal, `toInt`) stop at the first one.
-/

namespace YoloUno

open Numeral

abbrev Bytes := List UInt8

/-- The bytes of an ASCII literal. -/
def ascii (s : String) : Bytes := s.toList.map fun c => UInt8.ofNat c.toNat

/-- `String::trim`. -/
def trim (s : Bytes) : Bytes := (s.dropWhile isSpace).rdropWhile isSpace

/-- C's `toupper` in the default locale. -/
def toUpper (c : UInt8) : UInt8 := if 97 ≤ c ∧ c ≤ 122 then c - 32 else c

/-- `String::toUpperCase`. -/
def toUpperCase (s : Bytes) : Bytes := s.map toUpper

/-- `String::charAt`; past the end it reads 0. -/
def charAt (s : Bytes) (i : Nat) : UInt8 := s.getD i 0

/-- `String::substring(from)`. -/
def substring (s : Bytes) (start : Nat) : Bytes := s.drop start

/-- `String::operator==(const char *)`, which is `strcmp`: the bytes before
the first NUL count. -/
def equals (s : Bytes) (literal : Bytes) : Bool := s.takeWhile (· != 0) == literal

/-- `String::toInt`: `atol`, as a 32-bit `long`. -/
def toInt (s : Bytes) : Int32 := Int32.ofInt (atol s)

/-! ## `toInt` -/

theorem atol_bounds (s : Bytes) : longMin ≤ atol s ∧ atol s ≤ longMax := by
  rw [atol]
  rcases readSign (s.dropWhile isSpace) with ⟨neg, t⟩
  -- a negative number is cut off below, any other above
  cases neg with
  | true =>
    simp only [if_true, longMin, longMax]
    omega
  | false =>
    simp only [Bool.false_eq_true, if_false, longMin, longMax]
    omega

/-- No `long` is lost on the way into an `int`. -/
theorem toInt_toInt (s : Bytes) : (toInt s).toInt = atol s := by
  obtain ⟨hlo, hhi⟩ := atol_bounds s
  exact Int32.toInt_ofInt_of_le hlo (by rw [longMax] at hhi; omega)

theorem toInt_le_zero {s : Bytes} : toInt s ≤ 0 ↔ atol s ≤ 0 := by
  rw [Int32.le_iff_toInt_le, toInt_toInt, Int32.toInt_zero]

/-- A positive `int` keeps its value as a `uint32_t`. -/
theorem toUInt32_toInt {s : Bytes} (h : 0 < atol s) :
    ((toInt s).toUInt32.toNat : Int) = atol s := by
  have hle : (0 : Int32) ≤ toInt s := by
    rw [Int32.le_iff_toInt_le, toInt_toInt, Int32.toInt_zero]
    omega
  rw [Int32.toNat_toUInt32_of_le hle, Int32.cast_toNatClampNeg _ hle, toInt_toInt]

/-! ## `trim` and `toUpperCase` -/

/-- Upper case changes neither whitespace nor digits. -/
theorem toUpper_of_lt {c : UInt8} (h : c.toNat < 97) : toUpper c = c := by
  rw [toUpper, if_neg]
  rintro ⟨hle, -⟩
  have : 97 ≤ c.toNat := UInt8.le_iff_toNat_le.mp hle
  omega

theorem toUpperCase_of_lt {s : Bytes} (h : ∀ c ∈ s, c.toNat < 97) : toUpperCase s = s :=
  (List.map_congr_left fun c hc => toUpper_of_lt (h c hc)).trans (List.map_id _)

theorem toNat_lt_of_isSpace {c : UInt8} (h : isSpace c = true) : c.toNat < 97 := by
  rw [isSpace_iff] at h
  omega

theorem toNat_lt_of_isDigit {c : UInt8} (h : isDigit c = true) : c.toNat < 97 := by
  rw [isDigit_iff] at h
  omega

/-- Whitespace on both sides of a string that begins and ends with something
else is all that `trim` removes. -/
theorem trim_padded {before after core : Bytes} {c d : UInt8} (mid : Bytes)
    (hb : ∀ x ∈ before, isSpace x = true) (ha : ∀ x ∈ after, isSpace x = true)
    (hcore : core = c :: mid) (hc : isSpace c = false)
    (hlast : core.getLast? = some d) (hd : isSpace d = false) :
    trim (before ++ (core ++ after)) = core := by
  rw [trim, List.dropWhile_append_of_pos hb, hcore, List.cons_append,
    List.dropWhile_cons_of_neg (by simp [hc]), ← List.cons_append, ← hcore]
  -- from the right, whitespace goes one byte at a time
  have hdrop : ∀ after : Bytes, (∀ x ∈ after, isSpace x = true) →
      (core ++ after).rdropWhile isSpace = core.rdropWhile isSpace := by
    intro after
    induction after using List.reverseRecOn with
    | nil => intro _; rw [List.append_nil]
    | append_singleton after x ih =>
      intro ha
      rw [← List.append_assoc, List.rdropWhile_concat_pos _ _ _ (ha x (by simp)),
        ih fun y hy => ha y (List.mem_append_left _ hy)]
  rw [hdrop after ha, List.rdropWhile_eq_self_iff]
  intro hne
  rw [List.getLast?_eq_some_getLast hne, Option.some.injEq] at hlast
  rw [hlast, hd]
  exact Bool.false_ne_true

end YoloUno
