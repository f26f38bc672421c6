import Mathlib.Data.List.Basic
import Mathlib.Logic.Function.Iterate

/-!
# Cyclic redundancy checks

A check of `w` bits with generator polynomial `xʷ + poly`. The register takes
a message bit by bit, most significant first (`feed`), and a frame, which is a
message with its check behind it, leaves the register at zero.

The register is linear in exclusive or, so two frames that both pass differ by
a word that leaves a register that starts at zero at zero again. What words
can do so decides which errors are seen:

* `eq_of_burst` — never one that lies within `w` consecutive bits;
* `four_le_distance` — never one of one, two or three bits, if `poly` has an
  odd number of bits and the frame is shorter than its period.
-/

namespace Crc

variable {w : ℕ} (poly : BitVec w)

/-! ## The register -/

/-- One bit, shifted in. -/
def feed (c : BitVec w) (b : Bool) : BitVec w :=
  (c <<< 1) ^^^ if c.msb ^^ b then poly else 0#w

def residue (c : BitVec w) (bits : List Bool) : BitVec w := bits.foldl (feed poly) c

/-- One place without a bit. -/
def shift (c : BitVec w) : BitVec w := feed poly c false

/-- The first `n` bits of a word, most significant first. -/
def bitsOf : ℕ → BitVec w → List Bool
  | 0, _ => []
  | n + 1, v => v.msb :: bitsOf n (v <<< 1)

@[simp] theorem residue_nil (c : BitVec w) : residue poly c [] = c := rfl

@[simp] theorem residue_cons (c : BitVec w) (b : Bool) (bits : List Bool) :
    residue poly c (b :: bits) = residue poly (feed poly c b) bits := rfl

theorem residue_append (c : BitVec w) (bits bits' : List Bool) :
    residue poly c (bits ++ bits') = residue poly (residue poly c bits) bits' :=
  List.foldl_append

@[simp] theorem bitsOf_length (n : ℕ) (v : BitVec w) : (bitsOf n v).length = n := by
  induction n generalizing v with
  | zero => rfl
  | succ n ih => exact congrArg (· + 1) (ih (v <<< 1))

theorem bitsOf_getD (n : ℕ) (v : BitVec w) (i : ℕ) (hi : i < n) :
    (bitsOf n v).getD i false = v.getMsbD i := by
  induction n generalizing v i with
  | zero => omega
  | succ n ih =>
    cases i with
    | zero => rfl
    | succ i =>
      show (bitsOf n (v <<< 1)).getD i false = _
      rw [ih (v <<< 1) i (by omega), BitVec.getMsbD_shiftLeft]

/-- A word is the word of its bits. -/
theorem bitsOf_injective {v v' : BitVec w} (h : bitsOf w v = bitsOf w v') : v = v' := by
  apply BitVec.eq_of_getMsbD_eq
  intro i hi
  rw [← bitsOf_getD w v i hi, h, bitsOf_getD w v' i hi]

/-! ## Linearity -/

theorem feed_xor (c c' : BitVec w) (b b' : Bool) :
    feed poly (c ^^^ c') (b ^^ b') = feed poly c b ^^^ feed poly c' b' := by
  have hbit : ((c.msb ^^ c'.msb) ^^ (b ^^ b')) = ((c.msb ^^ b) ^^ (c'.msb ^^ b')) := by
    cases c.msb <;> cases c'.msb <;> cases b <;> cases b' <;> rfl
  have hpoly : ∀ p q : Bool, (if p ^^ q then poly else 0#w) =
      (if p then poly else 0#w) ^^^ if q then poly else 0#w := by
    intro p q
    cases p <;> cases q <;> simp
  unfold feed
  rw [BitVec.msb_xor, hbit, hpoly, BitVec.shiftLeft_xor_distrib]
  ac_rfl

theorem residue_xor (c c' : BitVec w) {bits bits' : List Bool} (h : bits.length = bits'.length) :
    residue poly (c ^^^ c') (List.zipWith xor bits bits') =
      residue poly c bits ^^^ residue poly c' bits' := by
  induction bits generalizing bits' c c' with
  | nil =>
    obtain rfl := List.eq_nil_of_length_eq_zero h.symm
    rfl
  | cons b bits ih =>
    obtain ⟨b', bits', rfl⟩ := List.exists_cons_of_length_eq_add_one h.symm
    rw [List.zipWith_cons_cons, residue_cons, residue_cons, residue_cons,
      ← ih _ _ (by simpa using h)]
    exact congrArg (residue poly · _) (feed_xor poly c c' b b')

theorem feed_zero : feed poly 0#w false = 0#w := by simp [feed]

theorem residue_zeros (n : ℕ) : residue poly 0#w (List.replicate n false) = 0#w := by
  induction n with
  | zero => rfl
  | succ n ih => rw [List.replicate_succ, residue_cons, feed_zero, ih]

theorem residue_replicate (c : BitVec w) (n : ℕ) :
    residue poly c (List.replicate n false) = (shift poly)^[n] c := by
  induction n generalizing c with
  | zero => rfl
  | succ n ih => exact ih (feed poly c false)

/-- **A word bit by bit**: its bits may be added to the register all at once. -/
theorem residue_bitsOf (n : ℕ) (c v : BitVec w) :
    residue poly c (bitsOf n v) = (shift poly)^[n] (c ^^^ v) ^^^ (v <<< n) := by
  induction n generalizing c v with
  | zero =>
    show c = c ^^^ v ^^^ (v <<< 0)
    rw [BitVec.shiftLeft_zero, BitVec.xor_assoc, BitVec.xor_self, BitVec.xor_zero]
  | succ n ih =>
    -- the top bit of the word does to the register what it does within it
    have htop : feed poly c v.msb ^^^ (v <<< 1) = shift poly (c ^^^ v) := by
      unfold shift feed
      rw [BitVec.msb_xor, Bool.xor_false, BitVec.shiftLeft_xor_distrib]
      ac_rfl
    rw [bitsOf, residue_cons, ih, htop, Function.iterate_succ_apply, ← BitVec.shiftLeft_add,
      Nat.add_comm]

/-! ## Bursts -/

section
variable {poly}

/-- A register that runs to zero within its width held the bits that took it
there: the lowest bit of `poly` tells when it is added. -/
theorem getMsbD_of_residue_eq_zero (hlow : poly.getLsbD 0 = true) {bits : List Bool}
    {c : BitVec w} (hlength : bits.length ≤ w) (h : residue poly c bits = 0#w) (i : ℕ)
    (hi : i < w) : c.getMsbD i = bits.getD i false := by
  induction bits generalizing c i with
  | nil =>
    rw [residue_nil] at h
    simp [h]
  | cons b bits ih =>
    have hfed := ih (by simp at hlength; omega) h
    -- the bit shifted in is known, as the rest is too short to hold it
    have hlast : (feed poly c b).getMsbD (w - 1) = false := by
      rw [hfed (w - 1) (by omega), List.getD_eq_getElem?_getD,
        List.getElem?_eq_none (by simp at hlength; omega)]
      rfl
    have htop : (c.msb ^^ b) = false := by
      cases hbit : c.msb ^^ b with
      | false => rfl
      | true =>
        simp [feed, hbit, BitVec.getMsbD, hlow] at hlast
        omega
    have hshift : feed poly c b = c <<< 1 := by simp [feed, htop]
    cases i with
    | zero =>
      have hsame : c.msb = b := by simpa using htop
      rw [← hsame]
      rfl
    | succ i =>
      have hrest := hfed i (by omega)
      rw [hshift, BitVec.getMsbD_shiftLeft] at hrest
      exact hrest

theorem feed_injective (hlow : poly.getLsbD 0 = true) {c c' : BitVec w} {b : Bool}
    (h : feed poly c b = feed poly c' b) : c = c' := by
  have hpos : 0 < w := BitVec.lt_of_getLsbD hlow
  have hzero : residue poly (c ^^^ c') [false] = 0#w := by
    show feed poly (c ^^^ c') false = 0#w
    rw [← Bool.xor_self b, feed_xor, h, BitVec.xor_self]
  have hbits : ∀ i < w, (c ^^^ c').getMsbD i = [false].getD i false :=
    getMsbD_of_residue_eq_zero hlow (Nat.succ_le_of_lt hpos) hzero
  apply BitVec.eq_of_getMsbD_eq
  intro i hi
  have hbit : (c ^^^ c').getMsbD i = false := by
    rw [hbits i hi]
    cases i <;> rfl
  rw [BitVec.getMsbD_xor] at hbit
  simpa using hbit

/-- Where two registers differ, no common bits make them equal again. -/
theorem residue_injective (hlow : poly.getLsbD 0 = true) {c c' : BitVec w} {bits : List Bool}
    (h : residue poly c bits = residue poly c' bits) : c = c' := by
  induction bits generalizing c c' with
  | nil => exact h
  | cons b bits ih => exact feed_injective hlow (ih h)

theorem eq_of_zipWith_xor {u v : List Bool} (hlength : u.length = v.length)
    (h : ∀ i < u.length, (List.zipWith xor u v).getD i false = false) : u = v := by
  apply List.ext_getElem hlength
  intro i hu hv
  have hbit := h i hu
  rw [List.getD_eq_getElem?_getD, List.getElem?_eq_getElem (by simp; omega),
    List.getElem_zipWith] at hbit
  simpa using hbit

/-- **Bursts.** Two frames that differ within `w` consecutive bits only do not
both pass. -/
theorem eq_of_burst (hlow : poly.getLsbD 0 = true) {c : BitVec w} {p u v s : List Bool}
    (hlength : u.length = v.length) (hburst : u.length ≤ w)
    (hu : residue poly c (p ++ u ++ s) = 0#w) (hv : residue poly c (p ++ v ++ s) = 0#w) :
    u = v := by
  rw [residue_append, residue_append] at hu hv
  have hsame : residue poly (residue poly c p) u = residue poly (residue poly c p) v :=
    residue_injective hlow (hu.trans hv.symm)
  have hzero : residue poly 0#w (List.zipWith xor u v) = 0#w := by
    rw [← BitVec.xor_self (x := residue poly c p), residue_xor poly _ _ hlength, hsame,
      BitVec.xor_self, BitVec.xor_self]
  apply eq_of_zipWith_xor hlength
  intro i hi
  have hbit := getMsbD_of_residue_eq_zero hlow (by simpa [hlength] using hburst) hzero i (by omega)
  rw [← hbit, BitVec.getMsbD_zero]

end

/-! ## Scattered bits -/

/-- The exclusive or of the lowest `n` bits. -/
def parityTo (c : BitVec w) : ℕ → Bool
  | 0 => false
  | n + 1 => parityTo c n ^^ c.getLsbD n

def parity (c : BitVec w) : Bool := parityTo c w

theorem parityTo_xor (c c' : BitVec w) (n : ℕ) :
    parityTo (c ^^^ c') n = (parityTo c n ^^ parityTo c' n) := by
  induction n with
  | zero => rfl
  | succ n ih =>
    rw [parityTo, parityTo, parityTo, ih, BitVec.getLsbD_xor]
    cases parityTo c n <;> cases parityTo c' n <;> simp

theorem parityTo_shiftLeft (c : BitVec w) {n : ℕ} (h : n < w) :
    parityTo (c <<< 1) (n + 1) = parityTo c n := by
  induction n with
  | zero => simp [parityTo]
  | succ n ih =>
    rw [parityTo, ih (by omega), BitVec.getLsbD_shiftLeft, parityTo]
    simp [h]

/-- A shift loses the top bit. -/
theorem parity_shiftLeft (c : BitVec w) : parity (c <<< 1) = (parity c ^^ c.msb) := by
  unfold parity
  cases w with
  | zero => simp [parityTo, BitVec.msb, BitVec.getMsbD]
  | succ n =>
    rw [parityTo_shiftLeft c (Nat.lt_succ_self n), parityTo, BitVec.msb_eq_getLsbD_last]
    simp

theorem parity_zero : parity 0#w = false := by
  have hall : ∀ n, parityTo 0#w n = false := by
    intro n
    induction n with
    | zero => rfl
    | succ n ih => simp [parityTo, ih]
  exact hall w

/-- With an odd number of bits in `poly`, the register counts the bits it is
fed, modulo two. -/
theorem parity_feed (hodd : parity poly = true) (c : BitVec w) (b : Bool) :
    parity (feed poly c b) = (parity c ^^ b) := by
  unfold feed
  have hxor : ∀ d : BitVec w, parity ((c <<< 1) ^^^ d) = (parity (c <<< 1) ^^ parity d) :=
    fun d => parityTo_xor (c <<< 1) d w
  rw [hxor, parity_shiftLeft]
  cases c.msb <;> cases b <;> simp [hodd, parity_zero]

theorem parity_residue (hodd : parity poly = true) (c : BitVec w) (bits : List Bool) :
    parity (residue poly c bits) = (parity c ^^ decide (bits.count true % 2 = 1)) := by
  induction bits generalizing c with
  | nil => simp
  | cons b bits ih =>
    rw [residue_cons, ih, parity_feed poly hodd]
    cases b with
    | false => simp
    | true =>
      rcases Nat.mod_two_eq_zero_or_one (bits.count true) with h | h
      · simp [h, Nat.add_mod]
      · simp [h, Nat.add_mod]

/-- A word of bits with a first bit that is set. -/
theorem exists_first {bits : List Bool} {k : ℕ} (h : bits.count true = k + 1) :
    ∃ a rest, bits = List.replicate a false ++ true :: rest ∧ rest.count true = k := by
  induction bits with
  | nil => simp at h
  | cons b bits ih =>
    cases b with
    | true => exact ⟨0, bits, rfl, by simpa using h⟩
    | false =>
      obtain ⟨a, rest, rfl, hrest⟩ := ih (by simpa using h)
      exact ⟨a + 1, rest, rfl, hrest⟩

theorem eq_replicate_of_count_zero {bits : List Bool} (h : bits.count true = 0) :
    bits = List.replicate bits.length false := by
  apply List.eq_replicate_of_mem
  intro b hb
  cases b with
  | false => rfl
  | true => exact absurd hb (List.count_eq_zero.mp h)

/-- Two set bits leave two states of the register, as far apart as the bits. -/
theorem residue_two (a d e : ℕ) :
    residue poly 0#w (List.replicate a false ++ true :: (List.replicate d false ++
      true :: List.replicate e false)) =
      (shift poly)^[e] ((shift poly)^[d + 1] poly ^^^ poly) := by
  have hfirst : feed poly 0#w true = poly := by simp [feed, BitVec.msb_zero]
  have hsecond : ∀ c : BitVec w, feed poly c true = shift poly c ^^^ poly := by
    intro c
    have hsum := feed_xor poly c 0#w false true
    rwa [BitVec.xor_zero, Bool.false_xor, hfirst] at hsum
  rw [residue_append, residue_zeros, residue_cons, hfirst, residue_append, residue_replicate,
    residue_cons, hsecond, residue_replicate, Function.iterate_succ_apply']

variable {poly}

theorem residue_ne_zero (hlow : poly.getLsbD 0 = true) (hodd : parity poly = true) {n : ℕ}
    (hperiod : ∀ k, 0 < k → k < n → (shift poly)^[k] poly ≠ poly) {bits : List Bool}
    (hlength : bits.length ≤ n) (hpos : 0 < bits.count true) (hle : bits.count true ≤ 3) :
    residue poly 0#w bits ≠ 0#w := by
  intro hzero
  by_cases htwo : bits.count true = 2
  · -- a pair: the register would have come back to where it was
    obtain ⟨a, rest, rfl, hrest⟩ := exists_first htwo
    obtain ⟨d, rest, rfl, hnone⟩ := exists_first hrest
    rw [eq_replicate_of_count_zero hnone, residue_two, ← residue_replicate,
      ← residue_zeros poly rest.length] at hzero
    have hback := residue_injective hlow hzero
    rw [BitVec.xor_eq_zero_iff] at hback
    refine hperiod (d + 1) (Nat.succ_pos d) ?_ hback
    simp only [List.length_append, List.length_replicate, List.length_cons] at hlength
    omega
  · -- one bit or three
    have hparity := parity_residue poly hodd 0#w bits
    rw [hzero, parity_zero, Bool.false_xor] at hparity
    have heven := of_decide_eq_false hparity.symm
    omega

/-- The number of bits in which two frames differ. -/
def distance (f g : List Bool) : ℕ := (List.zipWith xor f g).count true

/-- **Scattered bits.** Two frames that both pass differ in four bits or more. -/
theorem four_le_distance (hlow : poly.getLsbD 0 = true) (hodd : parity poly = true) {n : ℕ}
    (hperiod : ∀ k, 0 < k → k < n → (shift poly)^[k] poly ≠ poly) {c : BitVec w}
    {f g : List Bool} (hlength : f.length = g.length) (hn : f.length ≤ n)
    (hf : residue poly c f = 0#w) (hg : residue poly c g = 0#w) (hne : f ≠ g) :
    4 ≤ distance f g := by
  have hzero : residue poly 0#w (List.zipWith xor f g) = 0#w := by
    rw [← BitVec.xor_self (x := c), residue_xor poly _ _ hlength, hf, hg, BitVec.xor_self,
      BitVec.xor_self]
  by_contra hfew
  refine residue_ne_zero hlow hodd hperiod (by simp; omega) ?_ (by unfold distance at hfew; omega)
    hzero
  -- frames without a differing bit are one frame
  apply Nat.pos_of_ne_zero
  intro hnone
  apply hne
  apply eq_of_zipWith_xor hlength
  intro i _
  rw [eq_replicate_of_count_zero hnone, List.getD_eq_getElem?_getD, List.getElem?_replicate]
  split <;> rfl

end Crc
