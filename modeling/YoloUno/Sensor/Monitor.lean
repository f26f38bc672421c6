import YoloUno.Sensor.Dht20
import YoloUno.Lib.Runs

/-!
# The temperature and humidity monitor

The loop of `temp_humi_monitor.cpp` and the globals it publishes. It throws
away what `read` returns and looks for a NaN in the stored values instead,
which the library never stores (`Sane.read`). So the failure values are never
published, and a failed call publishes what an earlier call, or a frame with
a wrong checksum, has left in the object.

`published_iff` makes that exact: the globals are right after every turn of a
run exactly when `read` accepts a frame in every turn.
-/

namespace YoloUno

structure Monitor where
  dht20           : Dht20
  globTemperature : SensorFloat
  globHumidity    : SensorFloat

def Monitor.init : Monitor := ⟨Dht20.init, .num 0, .num 0⟩

/-- The body of the loop in `temp_humi_monitor`, behind `dht20.read()`. -/
def publish (dht20 : Dht20) : Monitor :=
  let temperature := dht20.getTemperature
  let humidity := dht20.getHumidity
  -- "Check if any reads failed"
  let failed := isnan temperature || isnan humidity
  { dht20 := dht20
    globTemperature := if failed then .num (-1) else temperature
    globHumidity := if failed then .num (-1) else humidity }

/-- The body of the loop in `temp_humi_monitor`; the status that `read`
returns is dropped. -/
def tempHumiMonitorLoop (m : Monitor) (x : Exchange) : Monitor := publish (m.dht20.read x).1

def monitored (xs : List Exchange) : Monitor := Runs.run tempHumiMonitorLoop Monitor.init xs

/-- The globals after a turn from `m` are decoded from a frame that `read`
accepted in that turn, or they are the failure values. -/
def Published (m : Monitor) (x : Exchange) : Prop :=
  ((m.dht20.read x).2 = dht20Ok ∧
      (tempHumiMonitorLoop m x).globTemperature = .num (frameTemperature x.answer) ∧
      (tempHumiMonitorLoop m x).globHumidity = .num (frameHumidity x.answer)) ∨
    ((tempHumiMonitorLoop m x).globTemperature = .num (-1) ∧
      (tempHumiMonitorLoop m x).globHumidity = .num (-1))

/-! ## One turn of the loop -/

/-- The NaN test never fires: what is stored is what is published. -/
theorem tempHumiMonitorLoop_eq {m : Monitor} (h : Sane m.dht20) (x : Exchange) :
    tempHumiMonitorLoop m x =
      ⟨(m.dht20.read x).1, (m.dht20.read x).1.temperature, (m.dht20.read x).1.humidity⟩ := by
  have hsane : Sane (m.dht20.read x).1 := h.read x
  obtain ⟨hum, hhum, -⟩ := hsane.humidity
  obtain ⟨temp, htemp⟩ := hsane.temperature
  unfold tempHumiMonitorLoop publish
  dsimp only
  rw [hsane.getTemperature, hsane.getHumidity, hhum, htemp]
  rfl

theorem published_of_accepted {m : Monitor} (h : Sane m.dht20) {x : Exchange}
    (hx : Accepted m.dht20.lastRead x) : Published m x := by
  obtain ⟨hok, hhum, htemp⟩ := read_of_accepted hx
  refine Or.inl ⟨hok, ?_, ?_⟩
  · rw [tempHumiMonitorLoop_eq h]
    exact htemp
  · rw [tempHumiMonitorLoop_eq h]
    exact hhum

/-- A call that fails cannot pass for a failure: the humidity published is
not negative. -/
theorem accepted_of_published {m : Monitor} (h : Sane m.dht20) {x : Exchange}
    (hx : Published m x) : Accepted m.dht20.lastRead x := by
  rcases hx with ⟨hok, -⟩ | ⟨-, hfailed⟩
  · exact (read_ok_iff x m.dht20).mp hok
  · -- −1 is no humidity
    obtain ⟨hum, hhum, hnonneg⟩ := (h.read x).humidity
    rw [tempHumiMonitorLoop_eq h, hhum] at hfailed
    have hminus : hum = -1 := SensorFloat.num.inj hfailed
    rw [hminus] at hnonneg
    exact absurd hnonneg (by norm_num)

/-! ## Whole runs -/

theorem sane_monitored (xs : List Exchange) : Sane (monitored xs).dht20 := by
  refine @Runs.run_invariant _ _ tempHumiMonitorLoop (fun m => Sane m.dht20) Monitor.init
    sane_init ?_ xs
  intro m x hm
  rw [tempHumiMonitorLoop_eq hm]
  exact hm.read x

/--
**When the published values can be trusted.** After every turn of a run both
globals are decoded from a frame accepted in that turn, or both are −1,
exactly when every turn of the run meets an accepted frame.
-/
theorem published_iff (xs : List Exchange) :
    (∀ pre x, pre ++ [x] <+: xs → Published (monitored pre) x) ↔
      ∀ pre x, pre ++ [x] <+: xs → Accepted (monitored pre).dht20.lastRead x := by
  constructor
  · intro h pre x hpre
    exact accepted_of_published (sane_monitored pre) (h pre x hpre)
  · intro h pre x hpre
    exact published_of_accepted (sane_monitored pre) (h pre x hpre)

/-- The first call, half a second after the start: `read` refuses without
asking the sensor, and the zeros of the constructor are published. -/
theorem not_published_early :
    ¬ Published Monitor.init ⟨500, 0, 501, [], 541, by decide⟩ := by
  intro h
  have hrested : (1000 : UInt32) ≤ 500 - 0 := (accepted_of_published sane_init h).rested
  exact absurd hrested (by decide)

end YoloUno
