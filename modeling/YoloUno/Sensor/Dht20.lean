import Mathlib.Data.Rat.Defs
import Mathlib.Algebra.Order.Ring.Rat
import Mathlib.Tactic.NormNum
import Mathlib.Tactic.Ring
import Mathlib.Tactic.Positivity

/-!
# The DHT20 library

`lib/DHT20/DHT20.cpp`, as far as `temp_humi_monitor` uses it: the object's
fields, `read` with `requestData`, `readData`, `convert` and `_crc8`, and the
two getters. A `float` is taken as an exact number or NaN.

What the bus and the clock answer during one call is an `Exchange`. The reset
of the sensor and the wait for its measurement only talk to the bus; no field
of the object depends on them, and they are left out. A wait that does not end
is a call that does not return.

* `convert_decodes` — the arithmetic of `convert` on a `uint32_t` is the data
  sheet's formula.
* `read_ok_iff` — `read` returns `DHT20_OK` exactly for an `Accepted` frame.
* `Sane.read` — no call ever stores a NaN or a negative humidity.
-/

namespace YoloUno

/-! ## Floats -/

inductive SensorFloat
  | nan
  | num (q : ℚ)
  deriving DecidableEq

def isnan : SensorFloat → Bool
  | .nan => true
  | .num _ => false

def SensorFloat.add : SensorFloat → SensorFloat → SensorFloat
  | .num a, .num b => .num (a + b)
  | _, _ => .nan

/-! ## The object -/

def dht20Ok : Int := 0
def dht20ErrorChecksum : Int := -10
def dht20ErrorConnect : Int := -11
def dht20MissingBytes : Int := -12
def dht20ErrorBytesAllZero : Int := -13
def dht20ErrorLastRead : Int := -15

structure Dht20 where
  humidity    : SensorFloat
  temperature : SensorFloat
  humOffset   : SensorFloat
  tempOffset  : SensorFloat
  status      : UInt8
  lastRequest : UInt32
  lastRead    : UInt32
  bits        : List UInt8

/-- The constructor; `_bits` is static storage. -/
def Dht20.init : Dht20 := ⟨.num 0, .num 0, .num 0, .num 0, 0, 0, 0, List.replicate 7 0⟩

/-- What one call of `read` meets: `millis` at its three readings, what
`endTransmission` returns, and the bytes that answer the request for seven. -/
structure Exchange where
  readTime    : UInt32
  ack         : UInt8
  requestTime : UInt32
  answer      : List UInt8
  answerTime  : UInt32
  atMost      : answer.length ≤ 7

/-- `endTransmission` reports its errors by positive numbers. -/
def Dht20.requestData (x : Exchange) (d : Dht20) : Dht20 × Int :=
  ({ d with lastRequest := x.requestTime }, (x.ack.toNat : Int))

def Dht20.readData (x : Exchange) (d : Dht20) : Dht20 × Int :=
  let bytes := x.answer.length
  if bytes = 0 then (d, dht20ErrorConnect)
  else if bytes < 7 then (d, dht20MissingBytes)
  else
    let d := { d with bits := x.answer }
    -- the loop that copies the bytes also finds out whether all are 0
    if x.answer.all (· == 0) then (d, dht20ErrorBytesAllZero)
    else ({ d with lastRead := x.answerTime }, (bytes : Int))

/-- One turn of the inner loop of `_crc8`. -/
def crcShift (crc : UInt8) : UInt8 :=
  if crc &&& 0x80 ≠ 0 then (crc <<< 1) ^^^ 0x31 else crc <<< 1

def crc8 (bytes : List UInt8) : UInt8 :=
  bytes.foldl (fun crc b => Nat.repeat crcShift 8 (crc ^^^ b)) 0xFF

/-- The 20 bits of the humidity, as `convert` gathers them. -/
def rawHumidity (bits : List UInt8) : UInt32 :=
  let raw := (bits.getD 1 0).toUInt32
  let raw := raw <<< 8
  let raw := raw + (bits.getD 2 0).toUInt32
  let raw := raw <<< 4
  raw + (bits.getD 3 0 >>> 4).toUInt32

/-- The 20 bits of the temperature. -/
def rawTemperature (bits : List UInt8) : UInt32 :=
  let raw := (bits.getD 3 0 &&& 0x0F).toUInt32
  let raw := raw <<< 8
  let raw := raw + (bits.getD 4 0).toUInt32
  let raw := raw <<< 8
  raw + (bits.getD 5 0).toUInt32

def Dht20.convert (d : Dht20) : Dht20 × Int :=
  let d :=
    { d with
      status := d.bits.getD 0 0
      humidity := .num ((rawHumidity d.bits).toNat * 9.5367431640625e-5)
      temperature := .num ((rawTemperature d.bits).toNat * 1.9073486328125e-4 - 50) }
  -- both values are stored by now, whatever the checksum says
  if crc8 (d.bits.take 6) ≠ d.bits.getD 6 0 then (d, dht20ErrorChecksum) else (d, dht20Ok)

def Dht20.read (x : Exchange) (d : Dht20) : Dht20 × Int :=
  -- no more than one frame a second, in `uint32_t` milliseconds
  if x.readTime - d.lastRead < 1000 then (d, dht20ErrorLastRead)
  else
    let (d, status) := d.requestData x
    if status < 0 then (d, status)
    else
      let (d, status) := d.readData x
      if status < 0 then (d, status) else d.convert

def Dht20.getHumidity (d : Dht20) : SensorFloat := d.humidity.add d.humOffset

def Dht20.getTemperature (d : Dht20) : SensorFloat := d.temperature.add d.tempOffset

/-! ## What a frame says -/

/-- Relative humidity in percent: 20 bits of 100 %. -/
def frameHumidity (frame : List UInt8) : ℚ :=
  100 * (((frame.getD 1 0).toNat * 4096 + (frame.getD 2 0).toNat * 16 +
    (frame.getD 3 0).toNat / 16 : ℕ) : ℚ) / 2 ^ 20

/-- Temperature in °C: 20 bits of 200, from −50 on. -/
def frameTemperature (frame : List UInt8) : ℚ :=
  200 * (((frame.getD 3 0).toNat % 16 * 65536 + (frame.getD 4 0).toNat * 256 +
    (frame.getD 5 0).toNat : ℕ) : ℚ) / 2 ^ 20 - 50

theorem toNat_shl_add (raw : UInt32) (k : UInt32) (b : UInt8) (hk : k.toNat < 32)
    (h : raw.toNat * 2 ^ k.toNat + b.toNat < 2 ^ 32) :
    (raw <<< k + b.toUInt32).toNat = raw.toNat * 2 ^ k.toNat + b.toNat := by
  have hshift : (raw <<< k).toNat = raw.toNat * 2 ^ k.toNat := by
    rw [UInt32.toNat_shiftLeft, Nat.mod_eq_of_lt hk, Nat.shiftLeft_eq]
    exact Nat.mod_eq_of_lt (by omega)
  rw [UInt32.toNat_add, hshift, UInt8.toNat_toUInt32]
  exact Nat.mod_eq_of_lt h

theorem toNat_shr_four (b : UInt8) : (b >>> 4).toNat = b.toNat / 16 := by
  rw [UInt8.toNat_shiftRight, Nat.shiftRight_eq_div_pow]
  rfl

theorem toNat_and_fifteen (b : UInt8) : (b &&& 0x0F).toNat = b.toNat % 16 := by
  rw [UInt8.toNat_and]
  exact Nat.and_two_pow_sub_one_eq_mod b.toNat 4

/-- No bit is lost in the shifts: three bytes fit. -/
theorem rawHumidity_toNat (bits : List UInt8) :
    (rawHumidity bits).toNat = (bits.getD 1 0).toNat * 4096 + (bits.getD 2 0).toNat * 16 +
      (bits.getD 3 0).toNat / 16 := by
  have h1 := (bits.getD 1 0).toNat_lt
  have h2 := (bits.getD 2 0).toNat_lt
  have h3 := (bits.getD 3 0).toNat_lt
  -- after two bytes the value is below 2¹⁶, after the shift by 4 below 2²⁰
  have htop : ((bits.getD 1 0).toUInt32 <<< 8 + (bits.getD 2 0).toUInt32).toNat =
      (bits.getD 1 0).toNat * 2 ^ 8 + (bits.getD 2 0).toNat :=
    toNat_shl_add _ 8 _ (by decide) (by rw [UInt8.toNat_toUInt32]; show _ * 2 ^ 8 + _ < _; omega)
  show ((((bits.getD 1 0).toUInt32 <<< 8 + (bits.getD 2 0).toUInt32) <<< 4) +
    (bits.getD 3 0 >>> 4).toUInt32).toNat = _
  rw [toNat_shl_add _ 4 _ (by decide), htop, toNat_shr_four]
  · show _ * 2 ^ 4 + _ = _
    omega
  · rw [htop, toNat_shr_four]
    show _ * 2 ^ 4 + _ < _
    omega

theorem rawTemperature_toNat (bits : List UInt8) :
    (rawTemperature bits).toNat = (bits.getD 3 0).toNat % 16 * 65536 +
      (bits.getD 4 0).toNat * 256 + (bits.getD 5 0).toNat := by
  have h4 := (bits.getD 4 0).toNat_lt
  have h5 := (bits.getD 5 0).toNat_lt
  have htop : ((bits.getD 3 0 &&& 0x0F).toUInt32 <<< 8 + (bits.getD 4 0).toUInt32).toNat =
      (bits.getD 3 0).toNat % 16 * 2 ^ 8 + (bits.getD 4 0).toNat := by
    rw [toNat_shl_add _ 8 _ (by decide), UInt8.toNat_toUInt32, toNat_and_fifteen]
    · rfl
    · rw [UInt8.toNat_toUInt32, toNat_and_fifteen]
      show _ * 2 ^ 8 + _ < _
      omega
  show ((((bits.getD 3 0 &&& 0x0F).toUInt32 <<< 8 + (bits.getD 4 0).toUInt32) <<< 8) +
    (bits.getD 5 0).toUInt32).toNat = _
  rw [toNat_shl_add _ 8 _ (by decide), htop]
  · show _ * 2 ^ 8 + _ = _
    omega
  · rw [htop]
    show _ * 2 ^ 8 + _ < _
    omega

/-- **`convert` decodes the frame it holds**, whether or not the checksum is
right. -/
theorem convert_decodes (d : Dht20) :
    d.convert.1.humidity = .num (frameHumidity d.bits) ∧
      d.convert.1.temperature = .num (frameTemperature d.bits) := by
  -- the decimal factors are exactly 100 / 2²⁰ and 200 / 2²⁰
  have hhum : ((rawHumidity d.bits).toNat : ℚ) * 9.5367431640625e-5 = frameHumidity d.bits := by
    rw [rawHumidity_toNat, frameHumidity]
    push_cast
    norm_num
    ring
  have htemp : ((rawTemperature d.bits).toNat : ℚ) * 1.9073486328125e-4 - 50 =
      frameTemperature d.bits := by
    rw [rawTemperature_toNat, frameTemperature]
    push_cast
    norm_num
    ring
  unfold Dht20.convert
  dsimp only
  rw [hhum, htemp]
  split <;> exact ⟨rfl, rfl⟩

theorem frameHumidity_nonneg (frame : List UInt8) : 0 ≤ frameHumidity frame := by
  unfold frameHumidity
  positivity

/-! ## What `read` accepts -/

/-- The last frame was taken at least a second ago, and the sensor answers
with seven bytes, not all of them zero, whose checksum is right. -/
structure Accepted (lastRead : UInt32) (x : Exchange) : Prop where
  rested   : 1000 ≤ x.readTime - lastRead
  complete : x.answer.length = 7
  nonzero  : x.answer.all (· == 0) = false
  checksum : crc8 (x.answer.take 6) = x.answer.getD 6 0

/-- The request never makes `read` give up. -/
theorem read_eq (x : Exchange) (d : Dht20) :
    d.read x =
      if x.readTime - d.lastRead < 1000 then (d, dht20ErrorLastRead)
      else
        let r := { d with lastRequest := x.requestTime }.readData x
        if r.2 < 0 then r else r.1.convert := by
  have hack : ¬ ((x.ack.toNat : Int) < 0) := by omega
  unfold Dht20.read
  split
  · rfl
  · show (if (x.ack.toNat : Int) < 0 then _ else _) = _
    rw [if_neg hack]

theorem readData_of_short {x : Exchange} (h : x.answer.length ≠ 7) (d : Dht20) :
    ∃ error : Int, d.readData x = (d, error) ∧ error < 0 := by
  have hshort : x.answer.length < 7 := by
    have hle := x.atMost
    omega
  unfold Dht20.readData
  dsimp only
  by_cases hnone : x.answer.length = 0
  · rw [if_pos hnone]
    exact ⟨dht20ErrorConnect, rfl, by decide⟩
  · rw [if_neg hnone, if_pos hshort]
    exact ⟨dht20MissingBytes, rfl, by decide⟩

theorem readData_of_complete {x : Exchange} (h : x.answer.length = 7) (d : Dht20) :
    d.readData x =
      if x.answer.all (· == 0) then ({ d with bits := x.answer }, dht20ErrorBytesAllZero)
      else ({ d with bits := x.answer, lastRead := x.answerTime }, 7) := by
  unfold Dht20.readData
  dsimp only
  rw [h, if_neg (by decide), if_neg (by decide)]
  rfl

theorem convert_status (d : Dht20) :
    d.convert.2 =
      if crc8 (d.bits.take 6) ≠ d.bits.getD 6 0 then dht20ErrorChecksum else dht20Ok := by
  unfold Dht20.convert
  dsimp only
  split <;> rfl

/-- An accepted frame is decoded. -/
theorem read_of_accepted {x : Exchange} {d : Dht20} (h : Accepted d.lastRead x) :
    (d.read x).2 = dht20Ok ∧ (d.read x).1.humidity = .num (frameHumidity x.answer) ∧
      (d.read x).1.temperature = .num (frameTemperature x.answer) := by
  have hrested : ¬ x.readTime - d.lastRead < 1000 := UInt32.not_lt.mpr h.rested
  have hread : d.read x = Dht20.convert
      { d with lastRequest := x.requestTime, bits := x.answer, lastRead := x.answerTime } := by
    rw [read_eq, if_neg hrested, readData_of_complete h.complete, h.nonzero]
    rfl
  obtain ⟨hhum, htemp⟩ := convert_decodes
    { d with lastRequest := x.requestTime, bits := x.answer, lastRead := x.answerTime }
  rw [hread]
  refine ⟨?_, hhum, htemp⟩
  rw [convert_status, if_neg (not_not.mpr h.checksum)]

/-- **When `read` returns `DHT20_OK`.** -/
theorem read_ok_iff (x : Exchange) (d : Dht20) :
    (d.read x).2 = dht20Ok ↔ Accepted d.lastRead x := by
  refine ⟨?_, fun h => (read_of_accepted h).1⟩
  intro hok
  have hlast : dht20ErrorLastRead ≠ dht20Ok := by decide
  have hzeros : dht20ErrorBytesAllZero < 0 := by decide
  have hseven : ¬ (7 : Int) < 0 := by decide
  rw [read_eq] at hok
  by_cases hfast : x.readTime - d.lastRead < 1000
  · rw [if_pos hfast] at hok
    exact absurd hok hlast
  rw [if_neg hfast] at hok
  dsimp only at hok
  -- seven bytes go on to `convert` unless all are zero; fewer are an error
  by_cases hlen : x.answer.length = 7
  · rw [readData_of_complete hlen] at hok
    cases hzero : x.answer.all (· == 0) with
    | true =>
      rw [hzero, if_pos rfl, if_pos hzeros] at hok
      exact absurd hok (by decide : dht20ErrorBytesAllZero ≠ dht20Ok)
    | false =>
      rw [hzero, if_neg Bool.false_ne_true, if_neg hseven, convert_status] at hok
      by_cases hcrc : crc8 (x.answer.take 6) = x.answer.getD 6 0
      · exact ⟨UInt32.not_lt.mp hfast, hlen, hzero, hcrc⟩
      · rw [if_pos hcrc] at hok
        exact absurd hok (by decide)
  · obtain ⟨error, hdata, hneg⟩ := readData_of_short hlen { d with lastRequest := x.requestTime }
    rw [hdata, if_pos hneg] at hok
    have hzero : error = 0 := hok
    omega

-- the check value of this CRC: polynomial 0x31, from 0xFF
example : crc8 [0xBE, 0xEF] = 0x92 := by decide +kernel

/-! ## What is stored -/

/-- The stored values are numbers, the humidity is not negative, and the
offsets, which the monitor never sets, are 0. -/
structure Sane (d : Dht20) : Prop where
  humidity    : ∃ q, d.humidity = .num q ∧ 0 ≤ q
  temperature : ∃ q, d.temperature = .num q
  humOffset   : d.humOffset = .num 0
  tempOffset  : d.tempOffset = .num 0

theorem sane_init : Sane Dht20.init :=
  ⟨⟨0, rfl, le_refl 0⟩, ⟨0, rfl⟩, rfl, rfl⟩

theorem Sane.convert {d : Dht20} (h : Sane d) : Sane d.convert.1 := by
  obtain ⟨hhum, htemp⟩ := convert_decodes d
  have hoffsets : d.convert.1.humOffset = d.humOffset ∧ d.convert.1.tempOffset = d.tempOffset := by
    unfold Dht20.convert
    dsimp only
    split <;> exact ⟨rfl, rfl⟩
  refine ⟨⟨_, hhum, frameHumidity_nonneg _⟩, ⟨_, htemp⟩, ?_, ?_⟩
  · rw [hoffsets.1]
    exact h.humOffset
  · rw [hoffsets.2]
    exact h.tempOffset

theorem Sane.readData {d : Dht20} (h : Sane d) (x : Exchange) : Sane (d.readData x).1 := by
  by_cases hlen : x.answer.length = 7
  · rw [readData_of_complete hlen]
    split
    · exact ⟨h.humidity, h.temperature, h.humOffset, h.tempOffset⟩
    · exact ⟨h.humidity, h.temperature, h.humOffset, h.tempOffset⟩
  · obtain ⟨error, hdata, -⟩ := readData_of_short hlen d
    rw [hdata]
    exact h

/-- **No call stores a NaN**, whatever it returns. -/
theorem Sane.read {d : Dht20} (h : Sane d) (x : Exchange) : Sane (d.read x).1 := by
  have hrequested : Sane { d with lastRequest := x.requestTime } :=
    ⟨h.humidity, h.temperature, h.humOffset, h.tempOffset⟩
  rw [read_eq]
  split
  · exact h
  dsimp only
  split
  · exact hrequested.readData x
  · exact (hrequested.readData x).convert

theorem SensorFloat.add_zero (v : SensorFloat) : v.add (.num 0) = v := by
  cases v with
  | nan => rfl
  | num q =>
    show SensorFloat.num (q + 0) = _
    rw [Rat.add_zero]

theorem Sane.getHumidity {d : Dht20} (h : Sane d) : d.getHumidity = d.humidity := by
  unfold Dht20.getHumidity
  rw [h.humOffset, SensorFloat.add_zero]

theorem Sane.getTemperature {d : Dht20} (h : Sane d) : d.getTemperature = d.temperature := by
  unfold Dht20.getTemperature
  rw [h.tempOffset, SensorFloat.add_zero]

end YoloUno
