import YoloUno.Sensor.Held
import YoloUno.Lib.Crc

/-!
# The checksum of a frame

`_crc8` is the check of eight bits with polynomial 0x131, fed from 0xFF
(`crc8_eq_residue`), and so `Lib/Crc.lean` says which errors it sees in the 56
bits of a frame: those that lie within eight consecutive bits, and those of up
to three bits anywhere. A frame changed in one of these ways is `Damaged`.

* `read_damaged` — `read` never returns `DHT20_OK` for a damaged frame.
* `damaged_published` — the monitor, which drops what `read` returns,
  publishes it all the same.
-/

namespace YoloUno

/-! ## Bits -/

/-- The bits of a frame, in the order in which they are checked. -/
def bits (frame : List UInt8) : List Bool := frame.flatMap fun b => Crc.bitsOf 8 b.toBitVec

theorem bits_cons (b : UInt8) (frame : List UInt8) :
    bits (b :: frame) = Crc.bitsOf 8 b.toBitVec ++ bits frame := List.flatMap_cons

theorem bits_append (f g : List UInt8) : bits (f ++ g) = bits f ++ bits g := List.flatMap_append

theorem bits_length (frame : List UInt8) : (bits frame).length = 8 * frame.length := by
  induction frame with
  | nil => rfl
  | cons b frame ih =>
    rw [bits_cons, List.length_append, Crc.bitsOf_length, ih, List.length_cons]
    omega

theorem bits_injective {f g : List UInt8} (hlength : f.length = g.length)
    (h : bits f = bits g) : f = g := by
  induction f generalizing g with
  | nil => exact (List.eq_nil_of_length_eq_zero hlength.symm).symm
  | cons a f ih =>
    obtain ⟨b, g, rfl⟩ := List.exists_cons_of_length_eq_add_one hlength.symm
    rw [bits_cons, bits_cons] at h
    obtain ⟨hbyte, hrest⟩ := List.append_inj h (by simp)
    rw [UInt8.toBitVec_inj.mp (Crc.bitsOf_injective hbyte), ih (by simpa using hlength) hrest]

/-- The number of bits in which two frames differ. -/
def bitDistance (f g : List UInt8) : Nat := Crc.distance (bits f) (bits g)

/-! ## The register -/

/-- `0x131` without its top bit. -/
def crcPoly : BitVec 8 := 0x31#8

theorem crcShift_toBitVec (crc : UInt8) :
    (crcShift crc).toBitVec = Crc.shift crcPoly crc.toBitVec := by
  have hall : ∀ c : BitVec 8, (crcShift ⟨c⟩).toBitVec = Crc.shift crcPoly c := by
    decide +kernel
  exact hall crc.toBitVec

theorem repeat_crcShift_toBitVec (n : Nat) (crc : UInt8) :
    (Nat.repeat crcShift n crc).toBitVec = (Crc.shift crcPoly)^[n] crc.toBitVec := by
  induction n with
  | zero => rfl
  | succ n ih =>
    show (crcShift (Nat.repeat crcShift n crc)).toBitVec = _
    rw [crcShift_toBitVec, ih, Function.iterate_succ_apply']

/-- A byte at a time is eight bits at a time. -/
theorem crc8_eq_residue (bytes : List UInt8) :
    (crc8 bytes).toBitVec = Crc.residue crcPoly 0xFF#8 (bits bytes) := by
  have hfold : ∀ crc : UInt8,
      (bytes.foldl (fun crc b => Nat.repeat crcShift 8 (crc ^^^ b)) crc).toBitVec =
        Crc.residue crcPoly crc.toBitVec (bits bytes) := by
    induction bytes with
    | nil => intro crc; rfl
    | cons b bytes ih =>
      intro crc
      have hbyte : (Nat.repeat crcShift 8 (crc ^^^ b)).toBitVec =
          Crc.residue crcPoly crc.toBitVec (Crc.bitsOf 8 b.toBitVec) := by
        rw [repeat_crcShift_toBitVec, Crc.residue_bitsOf, BitVec.shiftLeft_eq_zero (le_refl 8),
          BitVec.xor_zero, UInt8.toBitVec_xor]
      rw [List.foldl_cons, ih, hbyte, bits_cons, Crc.residue_append]
  exact hfold 0xFF

/-- The frame has its seven bytes, and the last is the checksum of the others. -/
structure Intact (frame : List UInt8) : Prop where
  complete : frame.length = 7
  checksum : crc8 (frame.take 6) = frame.getD 6 0

/-- An intact frame takes the register to zero. -/
theorem residue_of_intact {frame : List UInt8} (h : Intact frame) :
    Crc.residue crcPoly 0xFF#8 (bits frame) = 0#8 := by
  have hsplit : frame = frame.take 6 ++ [frame.getD 6 0] := by
    have hlast : frame.drop 6 = [frame.getD 6 0] := by
      rw [List.drop_eq_getElem_cons (by rw [h.complete]; decide), List.drop_eq_nil_of_le (by
        rw [h.complete]), List.getD_eq_getElem?_getD, List.getElem?_eq_getElem]
      rfl
    rw [← hlast, List.take_append_drop]
  have hbyte : bits [frame.getD 6 0] = Crc.bitsOf 8 (frame.getD 6 0).toBitVec :=
    List.append_nil _
  rw [hsplit, bits_append, Crc.residue_append, ← crc8_eq_residue, h.checksum, hbyte,
    Crc.residue_bitsOf, BitVec.shiftLeft_eq_zero (le_refl 8), BitVec.xor_self, BitVec.xor_zero,
    ← Crc.residue_replicate, Crc.residue_zeros]

theorem crcPoly_low : crcPoly.getLsbD 0 = true := by decide

theorem crcPoly_odd : Crc.parity crcPoly = true := by decide

/-- The period of the polynomial is longer than a frame. -/
theorem crcPoly_period : ∀ k, 0 < k → k < 56 → (Crc.shift crcPoly)^[k] crcPoly ≠ crcPoly := by
  have hall : ∀ k < 56, 0 < k → (Crc.shift crcPoly)^[k] crcPoly ≠ crcPoly := by decide +kernel
  exact fun k hpos hlt => hall k hlt hpos

/-! ## What the checksum sees -/

/-- **Two intact frames differ in four bits or more.** -/
theorem four_le_bitDistance {f g : List UInt8} (hf : Intact f) (hg : Intact g) (hne : f ≠ g) :
    4 ≤ bitDistance f g := by
  have hlength : f.length = g.length := hf.complete.trans hg.complete.symm
  refine Crc.four_le_distance crcPoly_low crcPoly_odd crcPoly_period ?_ ?_
    (residue_of_intact hf) (residue_of_intact hg) fun hsame => hne (bits_injective hlength hsame)
  · rw [bits_length, bits_length, hlength]
  · rw [bits_length, hf.complete]

/-- `g` is `f` with up to three bits changed, or with changes within eight
consecutive bits. -/
inductive Damaged (f g : List UInt8) : Prop
  | scattered (hlength : f.length = g.length) (hsome : f ≠ g) (hfew : bitDistance f g ≤ 3)
  | burst (p u v s : List Bool) (hlength : u.length = v.length) (hburst : u.length ≤ 8)
      (hsome : u ≠ v) (hf : bits f = p ++ u ++ s) (hg : bits g = p ++ v ++ s)

/-- A damaged frame is not intact. -/
theorem Damaged.not_intact {f g : List UInt8} (h : Damaged f g) (hf : Intact f) :
    ¬ Intact g := by
  intro hg
  cases h with
  | scattered hlength hsome hfew =>
    have := four_le_bitDistance hf hg hsome
    omega
  | burst p u v s hlength hburst hsome hfbits hgbits =>
    have hu := residue_of_intact hf
    have hv := residue_of_intact hg
    rw [hfbits] at hu
    rw [hgbits] at hv
    exact hsome (Crc.eq_of_burst crcPoly_low hlength hburst hu hv)

theorem Accepted.intact {lastRead : UInt32} {x : Exchange} (h : Accepted lastRead x) :
    Intact x.answer := ⟨h.complete, h.checksum⟩

/--
**The library sees the damage.** Whatever the object has been through, `read`
does not return `DHT20_OK` when the sensor's intact frame arrives with up to
three bits changed anywhere, or with any changes within eight consecutive bits.
-/
theorem read_damaged {frame : List UInt8} {x : Exchange} (hframe : Intact frame)
    (hdamaged : Damaged frame x.answer) (d : Dht20) : (d.read x).2 ≠ dht20Ok := by
  intro hok
  exact hdamaged.not_intact hframe ((read_ok_iff x d).mp hok).intact

/-- 50 % and 25 °C. -/
def halfFrame : List UInt8 := [0x18, 0x80, 0x00, 0x06, 0x00, 0x00, 35]

theorem intact_halfFrame : Intact halfFrame := ⟨rfl, by decide +kernel⟩

/-- The same two seconds after the start, with the top bit of the humidity lost. -/
def dryExchange : Exchange :=
  ⟨2000, 0, 2001, [0x18, 0x00, 0x00, 0x06, 0x00, 0x00, 35], 2041, by decide⟩

theorem damaged_dryExchange : Damaged halfFrame dryExchange.answer :=
  .scattered rfl (by decide) (by decide +kernel)

theorem read_damaged_dry : (Dht20.init.read dryExchange).2 ≠ dht20Ok :=
  read_damaged intact_halfFrame damaged_dryExchange Dht20.init

/-! ## What the monitor makes of it -/

/-- A whole frame that is not intact is an error of the checksum. -/
theorem read_status_of_brings {d : Dht20} {x : Exchange} (hx : Brings d.lastRead x)
    (hbroken : ¬ Intact x.answer) : (d.read x).2 = dht20ErrorChecksum := by
  have hrested : ¬ x.readTime - d.lastRead < 1000 := UInt32.not_lt.mpr hx.rested
  have hseven : ¬ (7 : Int) < 0 := by decide
  have hcrc : crc8 (x.answer.take 6) ≠ x.answer.getD 6 0 := fun h => hbroken ⟨hx.complete, h⟩
  rw [read_eq, if_neg hrested, readData_of_complete hx.complete, hx.nonzero,
    if_neg Bool.false_ne_true]
  dsimp only
  rw [if_neg hseven, convert_status, if_pos hcrc]

/--
**The monitor publishes the damage.** After any run, a damaged frame that
arrives whole is reported by `read` as an error of the checksum, and is what
both globals hold after the turn.
-/
theorem damaged_published {xs : List Exchange} {frame : List UInt8} {x : Exchange}
    (hframe : Intact frame) (hdamaged : Damaged frame x.answer)
    (hx : Brings (monitored xs).dht20.lastRead x) :
    ((monitored xs).dht20.read x).2 = dht20ErrorChecksum ∧
      (monitored (xs ++ [x])).globTemperature = .num (frameTemperature x.answer) ∧
      (monitored (xs ++ [x])).globHumidity = .num (frameHumidity x.answer) := by
  refine ⟨read_status_of_brings hx (hdamaged.not_intact hframe), ?_⟩
  obtain ⟨htemp, hhum⟩ := globals_monitored (xs ++ [x])
  have hheld : (held (xs ++ [x])).frame = some x.answer := by
    rw [(holds_monitored xs).lastRead] at hx
    rw [held, Runs.run_concat, ← held, Held.step, if_pos hx]
  rw [htemp, hhum, Held.temperature, Held.humidity, hheld]
  exact ⟨rfl, rfl⟩

/-- In the first turn a humidity of 50 % is published as 0 %. -/
theorem damaged_published_dry :
    (Dht20.init.read dryExchange).2 = dht20ErrorChecksum ∧
      (monitored [dryExchange]).globTemperature = .num 25 ∧
      (monitored [dryExchange]).globHumidity = .num 0 := by
  have hx : Brings (monitored []).dht20.lastRead dryExchange := by decide
  have htwentyfive : frameTemperature dryExchange.answer = 25 := by decide +kernel
  have hzero : frameHumidity dryExchange.answer = 0 := by decide +kernel
  obtain ⟨hstatus, htemp, hhum⟩ :=
    @damaged_published [] halfFrame dryExchange intact_halfFrame damaged_dryExchange hx
  rw [htwentyfive] at htemp
  rw [hzero] at hhum
  exact ⟨hstatus, htemp, hhum⟩

end YoloUno
