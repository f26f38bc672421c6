import YoloUno.Sensor.Monitor
import Mathlib.Tactic.Linarith

/-!
# What the globals hold

`temp_humi_monitor` as a sample-and-hold: it publishes the last frame that
arrived whole, and goes on publishing it for as long as no other does. `Held`
is that abstract monitor; it knows neither checksums nor errors, and it has no
failure value.

* `monitored_holds` — the monitor refines it, in every run, so that what is
  published is in the sensor's range, and never the −1 that stands for a
  failure.
-/

namespace YoloUno

/-! ## The abstract monitor -/

/-- The last frame that arrived whole, if any, and when. -/
structure Held where
  frame    : Option (List UInt8)
  lastRead : UInt32

/-- The exchange brings a frame: it is not too early, all seven bytes arrive,
and they are not all zero. -/
structure Brings (lastRead : UInt32) (x : Exchange) : Prop where
  rested   : 1000 ≤ x.readTime - lastRead
  complete : x.answer.length = 7
  nonzero  : x.answer.all (· == 0) = false

instance (lastRead : UInt32) (x : Exchange) : Decidable (Brings lastRead x) :=
  decidable_of_iff
    (1000 ≤ x.readTime - lastRead ∧ x.answer.length = 7 ∧ x.answer.all (· == 0) = false)
    ⟨fun h => ⟨h.1, h.2.1, h.2.2⟩, fun h => ⟨h.rested, h.complete, h.nonzero⟩⟩

def Held.step (h : Held) (x : Exchange) : Held :=
  if Brings h.lastRead x then ⟨some x.answer, x.answerTime⟩ else h

def held (xs : List Exchange) : Held := Runs.run Held.step ⟨none, 0⟩ xs

/-- Before the first frame the object holds the zeros of its constructor. -/
def Held.humidity (h : Held) : ℚ := h.frame.elim 0 frameHumidity

def Held.temperature (h : Held) : ℚ := h.frame.elim 0 frameTemperature

/-! ## One turn -/

/-- The object holds what the abstract monitor does. -/
structure Holds (d : Dht20) (h : Held) : Prop where
  humidity    : d.humidity = .num h.humidity
  temperature : d.temperature = .num h.temperature
  lastRead    : d.lastRead = h.lastRead

theorem convert_lastRead (d : Dht20) : d.convert.1.lastRead = d.lastRead := by
  unfold Dht20.convert
  dsimp only
  split <;> rfl

/-- Every call stores the frame it is brought, and leaves the last one if it is
brought none; what it then returns makes no difference. -/
theorem holds_read {d : Dht20} {h : Held} (hd : Holds d h) (x : Exchange) :
    Holds (d.read x).1 (h.step x) := by
  rw [read_eq]
  unfold Held.step
  by_cases hfast : x.readTime - d.lastRead < 1000
  · have hnone : ¬ Brings h.lastRead x := by
      intro hx
      have hrested := hx.rested
      rw [← hd.lastRead] at hrested
      exact absurd hfast (UInt32.not_lt.mpr hrested)
    rw [if_pos hfast, if_neg hnone]
    exact hd
  rw [if_neg hfast]
  dsimp only
  by_cases hlen : x.answer.length = 7
  · rw [readData_of_complete hlen]
    cases hzero : x.answer.all (· == 0) with
    | true =>
      have hnone : ¬ Brings h.lastRead x := by
        intro hx
        rw [hx.nonzero] at hzero
        exact absurd hzero Bool.false_ne_true
      rw [if_neg hnone]
      exact ⟨hd.humidity, hd.temperature, hd.lastRead⟩
    | false =>
      have hsome : Brings h.lastRead x := by
        refine ⟨?_, hlen, hzero⟩
        rw [← hd.lastRead]
        exact UInt32.not_lt.mp hfast
      have hseven : ¬ (7 : Int) < 0 := by decide
      rw [if_pos hsome, if_neg Bool.false_ne_true, if_neg hseven]
      obtain ⟨hhum, htemp⟩ := convert_decodes
        { d with lastRequest := x.requestTime, bits := x.answer, lastRead := x.answerTime }
      exact ⟨hhum, htemp, convert_lastRead _⟩
  · obtain ⟨error, hdata, hneg⟩ := readData_of_short hlen { d with lastRequest := x.requestTime }
    have hnone : ¬ Brings h.lastRead x := fun hx => hlen hx.complete
    rw [hdata, if_pos hneg, if_neg hnone]
    exact ⟨hd.humidity, hd.temperature, hd.lastRead⟩

/-! ## Whole runs -/

theorem holds_monitored (xs : List Exchange) : Holds (monitored xs).dht20 (held xs) := by
  have hinit : Holds Dht20.init ⟨none, 0⟩ := ⟨rfl, rfl, rfl⟩
  have hboth : Holds (monitored xs).dht20 (held xs) ∧ Sane (monitored xs).dht20 := by
    refine @Runs.run_simulates _ _ tempHumiMonitorLoop _ Held.step
      (fun m h => Holds m.dht20 h ∧ Sane m.dht20) _ _ ⟨hinit, sane_init⟩ ?_ xs
    intro m h x hm
    rw [tempHumiMonitorLoop_eq hm.2]
    exact ⟨holds_read hm.1 x, hm.2.read x⟩
  exact hboth.1

/-- The globals are what the abstract monitor decodes. -/
theorem globals_monitored (xs : List Exchange) :
    (monitored xs).globTemperature = .num (held xs).temperature ∧
      (monitored xs).globHumidity = .num (held xs).humidity := by
  induction xs using List.reverseRecOn with
  | nil => exact ⟨rfl, rfl⟩
  | append_singleton xs x _ =>
    have hholds := holds_monitored (xs ++ [x])
    rw [monitored, Runs.run_concat, ← monitored,
      tempHumiMonitorLoop_eq (sane_monitored xs)] at hholds ⊢
    exact ⟨hholds.temperature, hholds.humidity⟩

/-! ## What can be published -/

/-- Twenty bits are below 2²⁰. -/
theorem frameHumidity_lt (frame : List UInt8) : frameHumidity frame < 100 := by
  have h1 := (frame.getD 1 0).toNat_lt
  have h2 := (frame.getD 2 0).toNat_lt
  have h3 := (frame.getD 3 0).toNat_lt
  have hraw : (frame.getD 1 0).toNat * 4096 + (frame.getD 2 0).toNat * 16 +
      (frame.getD 3 0).toNat / 16 < 2 ^ 20 := by omega
  have hcast : (((frame.getD 1 0).toNat * 4096 + (frame.getD 2 0).toNat * 16 +
      (frame.getD 3 0).toNat / 16 : ℕ) : ℚ) < 2 ^ 20 := by exact_mod_cast hraw
  unfold frameHumidity
  linarith

theorem frameTemperature_mem (frame : List UInt8) :
    -50 ≤ frameTemperature frame ∧ frameTemperature frame < 150 := by
  have h4 := (frame.getD 4 0).toNat_lt
  have h5 := (frame.getD 5 0).toNat_lt
  have hraw : (frame.getD 3 0).toNat % 16 * 65536 + (frame.getD 4 0).toNat * 256 +
      (frame.getD 5 0).toNat < 2 ^ 20 := by omega
  have hcast : (((frame.getD 3 0).toNat % 16 * 65536 + (frame.getD 4 0).toNat * 256 +
      (frame.getD 5 0).toNat : ℕ) : ℚ) < 2 ^ 20 := by exact_mod_cast hraw
  have hnonneg : (0 : ℚ) ≤ (((frame.getD 3 0).toNat % 16 * 65536 +
      (frame.getD 4 0).toNat * 256 + (frame.getD 5 0).toNat : ℕ) : ℚ) := by positivity
  unfold frameTemperature
  constructor <;> linarith

/--
**The monitor is a sample-and-hold.** After any run the globals are decoded
from the last frame that arrived whole, with a right checksum or a wrong one
and however long ago, and are 0 until there is one; so they are in the
sensor's range, and never the value of a failure.
-/
theorem monitored_holds (xs : List Exchange) :
    (monitored xs).globTemperature = .num (held xs).temperature ∧
      (monitored xs).globHumidity = .num (held xs).humidity ∧
      -50 ≤ (held xs).temperature ∧ (held xs).temperature < 150 ∧
      0 ≤ (held xs).humidity ∧ (held xs).humidity < 100 := by
  obtain ⟨htemp, hhum⟩ := globals_monitored xs
  refine ⟨htemp, hhum, ?_⟩
  unfold Held.temperature Held.humidity
  cases (held xs).frame with
  | none => norm_num
  | some frame =>
    obtain ⟨hlow, hhigh⟩ := frameTemperature_mem frame
    exact ⟨hlow, hhigh, frameHumidity_nonneg frame, frameHumidity_lt frame⟩

end YoloUno
