import YoloUno.Sensor.Monitor

/-!
# The sensor on its bus

`Sensor/Dht20.lean` takes what the bus and the clock answer during one call of
`read` as given. Here the calls are made: `lib/DHT20/DHT20.cpp` over a `Bus`,
with the reset of the sensor and the wait for its measurement. What lies
beyond the bus is any world at all, which changes as it pleases with every
transfer; delays are part of that. The wait may not end, so that a call takes
fuel.

* `monitorOnBus_refines` — every run of the monitor on any bus is a run over
  exchanges.
* `read_returns_iff` — a call returns exactly if it is refused or the sensor
  reports in the end that it is not busy.
* `plugged_keeps_going` — as long as the sensor is not busy forever, every
  turn of the monitor ends, whatever else the sensor answers.
* `unplugged_never_returns` — with nothing on the bus it never does, as a byte
  that is not there reads as 0xFF.
* `read_traffic` — what a call puts on the bus: nothing, or one trigger, and
  the frame is asked for only after a status that is not busy.
-/

namespace YoloUno

/-! ## The bus -/

structure Bus (σ : Type) where
  /-- `beginTransmission`, `write` of the bytes, `endTransmission`. -/
  transmit    : List UInt8 → σ → UInt8 × σ
  /-- `requestFrom`: the bytes that have arrived. -/
  requestFrom : Nat → σ → List UInt8 × σ
  millis      : σ → UInt32 × σ
  atMost      : ∀ n w, (requestFrom n w).1.length ≤ n

/-- The `i`-th `_wire->read()`, as a byte; it is −1 where there is none. -/
def wireRead (answer : List UInt8) (i : Nat) : UInt8 := answer.getD i 0xFF

/-! ## The library -/

section
variable {σ : Type} (bus : Bus σ)

def readStatus (w : σ) : UInt8 × σ :=
  let answer := bus.requestFrom 1 w
  (wireRead answer.1 0, answer.2)

/-- `_resetRegister`. Its array `value` is not initialised: what is not read
into it is whatever was there before. -/
def resetRegister (before : Nat → UInt8) (reg : UInt8) (w : σ) : Bool × σ :=
  let sent := bus.transmit [reg, 0x00, 0x00] w
  if sent.1 ≠ 0 then (false, sent.2)
  else
    let answer := bus.requestFrom 3 sent.2
    let value := fun i => answer.1.getD i (before i)
    let sent := bus.transmit [0xB0 ||| reg, value 1, value 2] answer.2
    if sent.1 ≠ 0 then (false, sent.2) else (true, sent.2)

/-- `resetSensor`: 255, or the number of registers that were reset. -/
def resetSensor (before : Nat → UInt8) (w : σ) : UInt8 × σ :=
  let status := readStatus bus w
  if status.1 &&& 0x18 ≠ 0x18 then
    -- `count++` wraps here
    let count : UInt8 := 255 + 1
    let r1 := resetRegister bus before 0x1B status.2
    let count := if r1.1 then count + 1 else count
    let r2 := resetRegister bus before 0x1C r1.2
    let count := if r2.1 then count + 1 else count
    let r3 := resetRegister bus before 0x1E r2.2
    let count := if r3.1 then count + 1 else count
    (count, r3.2)
  else (255, status.2)

def requestData (before : Nat → UInt8) (d : Dht20) (w : σ) : (Dht20 × Int) × σ :=
  let reset := resetSensor bus before w
  let sent := bus.transmit [0xAC, 0x33, 0x00] reset.2
  let now := bus.millis sent.2
  (({ d with lastRequest := now.1 }, (sent.1.toNat : Int)), now.2)

def isMeasuring (w : σ) : Bool × σ :=
  let status := readStatus bus w
  (status.1 &&& 0x80 == 0x80, status.2)

/-- The wait of `read`. -/
def waitMeasured : Nat → σ → Option σ
  | 0, _ => none
  | fuel + 1, w =>
    if (isMeasuring bus w).1 then waitMeasured fuel (isMeasuring bus w).2
    else some (isMeasuring bus w).2

def readDataOnBus (d : Dht20) (w : σ) : (Dht20 × Int) × σ :=
  let answer := bus.requestFrom 7 w
  let bytes := answer.1.length
  if bytes = 0 then ((d, dht20ErrorConnect), answer.2)
  else if bytes < 7 then ((d, dht20MissingBytes), answer.2)
  else
    let d := { d with bits := answer.1 }
    if answer.1.all (· == 0) then ((d, dht20ErrorBytesAllZero), answer.2)
    else
      let now := bus.millis answer.2
      (({ d with lastRead := now.1 }, (bytes : Int)), now.2)

def readOnBus (before : Nat → UInt8) (fuel : Nat) (d : Dht20) (w : σ) :
    Option ((Dht20 × Int) × σ) :=
  let now := bus.millis w
  if now.1 - d.lastRead < 1000 then some ((d, dht20ErrorLastRead), now.2)
  else
    let requested := requestData bus before d now.2
    if requested.1.2 < 0 then some requested
    else
      (waitMeasured bus fuel requested.2).map fun w =>
        let data := readDataOnBus bus requested.1.1 w
        if data.1.2 < 0 then data else (data.1.1.convert, data.2)

def monitorOnBusLoop (before : Nat → UInt8) (fuel : Nat) (m : Monitor) (w : σ) :
    Option (Monitor × σ) :=
  (readOnBus bus before fuel m.dht20 w).map fun r => (publish r.1.1, r.2)

/-- Turns of the loop, with the fuel of each; none if one does not end. -/
def monitorOnBus (before : Nat → UInt8) : List Nat → Monitor → σ → Option (Monitor × σ)
  | [], m, w => some (m, w)
  | fuel :: fuels, m, w =>
    (monitorOnBusLoop bus before fuel m w).bind fun r => monitorOnBus before fuels r.1 r.2

end

/-! ## Exchanges -/

section
variable {σ : Type} {bus : Bus σ} {before : Nat → UInt8}

/-- A bus with a calibrated sensor that measures at once, under a clock of
milliseconds. -/
def readyBus : Bus UInt32 where
  transmit _ w := (0, w)
  requestFrom n w := (if n = 1 then [0x18] else [0x18, 0x80, 0, 6, 0, 0, 35].take n, w)
  millis w := (w, w + 1)
  atMost n w := by
    split
    · next h => simp [h]
    · exact List.length_take_le n _

/-- The world after some turns of the wait. -/
def afterPolls (bus : Bus σ) (k : Nat) (w : σ) : σ := (fun w => (isMeasuring bus w).2)^[k] w

theorem afterPolls_succ (k : Nat) (w : σ) :
    afterPolls bus (k + 1) w = afterPolls bus k (isMeasuring bus w).2 :=
  Function.iterate_succ_apply _ k w

/-- Enough fuel for the wait is there exactly if the sensor is ready at some time. -/
theorem waitMeasured_returns_iff (w : σ) :
    (∃ fuel, (waitMeasured bus fuel w).isSome = true) ↔
      ∃ k, (isMeasuring bus (afterPolls bus k w)).1 = false := by
  constructor
  · rintro ⟨fuel, hfuel⟩
    induction fuel generalizing w with
    | zero => exact absurd hfuel (by simp [waitMeasured])
    | succ fuel ih =>
      rw [waitMeasured] at hfuel
      cases hbusy : (isMeasuring bus w).1 with
      | false => exact ⟨0, hbusy⟩
      | true =>
        rw [hbusy, if_pos rfl] at hfuel
        obtain ⟨k, hk⟩ := ih _ hfuel
        exact ⟨k + 1, by rw [afterPolls_succ]; exact hk⟩
  · rintro ⟨k, hk⟩
    induction k generalizing w with
    | zero =>
      have hready : (isMeasuring bus w).1 = false := hk
      exact ⟨1, by simp [waitMeasured, hready]⟩
    | succ k ih =>
      rw [afterPolls_succ] at hk
      obtain ⟨fuel, hfuel⟩ := ih _ hk
      refine ⟨fuel + 1, ?_⟩
      rw [waitMeasured]
      split
      · exact hfuel
      · rfl

/-- The world in which `read` begins to wait. -/
def requestedWorld (bus : Bus σ) (before : Nat → UInt8) (d : Dht20) (w : σ) : σ :=
  (requestData bus before d (bus.millis w).2).2

/-- A call that is not refused returns if its wait does. -/
theorem isSome_readOnBus (fuel : Nat) (d : Dht20) (w : σ) :
    (readOnBus bus before fuel d w).isSome = true ↔
      (bus.millis w).1 - d.lastRead < 1000 ∨
        (waitMeasured bus fuel (requestedWorld bus before d w)).isSome = true := by
  have hack : ¬ (requestData bus before d (bus.millis w).2).1.2 < 0 := by
    show ¬ ((_ : Nat) : Int) < 0
    omega
  unfold readOnBus
  dsimp only
  by_cases hfast : (bus.millis w).1 - d.lastRead < 1000
  · rw [if_pos hfast]
    exact iff_of_true rfl (Or.inl hfast)
  · rw [if_neg hfast, if_neg hack, Option.isSome_map, or_iff_right hfast]
    rfl

/--
**When a call of `read` returns.** Exactly if it comes too early, or the busy
bit of some status that it reads while it waits is clear.
-/
theorem read_returns_iff (d : Dht20) (w : σ) :
    (∃ fuel, (readOnBus bus before fuel d w).isSome = true) ↔
      (bus.millis w).1 - d.lastRead < 1000 ∨
        ∃ k, (isMeasuring bus (afterPolls bus k (requestedWorld bus before d w))).1 = false := by
  rw [← waitMeasured_returns_iff]
  constructor
  · rintro ⟨fuel, hreturns⟩
    rcases (isSome_readOnBus fuel d w).mp hreturns with hfast | hwait
    · exact Or.inl hfast
    · exact Or.inr ⟨fuel, hwait⟩
  · rintro (hfast | ⟨fuel, hwait⟩)
    · exact ⟨0, (isSome_readOnBus 0 d w).mpr (Or.inl hfast)⟩
    · exact ⟨fuel, (isSome_readOnBus fuel d w).mpr (Or.inr hwait)⟩

/-! ## Worlds that a call does not leave -/

/-- No transfer leads out of `P`. -/
structure Closed (bus : Bus σ) (P : σ → Prop) : Prop where
  request  : ∀ w n, P w → P (bus.requestFrom n w).2
  transmit : ∀ w bytes, P w → P (bus.transmit bytes w).2
  millis   : ∀ w, P w → P (bus.millis w).2

section
variable {P : σ → Prop}

theorem Closed.resetRegister (h : Closed bus P) {w : σ} (hw : P w) (reg : UInt8) :
    P (resetRegister bus before reg w).2 := by
  have hsent := h.transmit w [reg, 0x00, 0x00] hw
  unfold YoloUno.resetRegister
  dsimp only
  split
  · exact hsent
  · split <;> exact h.transmit _ _ (h.request _ 3 hsent)

theorem Closed.resetSensor (h : Closed bus P) {w : σ} (hw : P w) :
    P (resetSensor bus before w).2 := by
  have hstatus := h.request w 1 hw
  unfold YoloUno.resetSensor
  dsimp only
  split
  · exact h.resetRegister (h.resetRegister (h.resetRegister hstatus 0x1B) 0x1C) 0x1E
  · exact hstatus

theorem Closed.requestedWorld (h : Closed bus P) {w : σ} (hw : P w) (d : Dht20) :
    P (requestedWorld bus before d w) :=
  h.millis _ (h.transmit _ _ (h.resetSensor (h.millis w hw)))

theorem Closed.waitMeasured (h : Closed bus P) {fuel : Nat} {w w' : σ} (hw : P w)
    (hwait : waitMeasured bus fuel w = some w') : P w' := by
  induction fuel generalizing w with
  | zero => exact absurd hwait (by simp [YoloUno.waitMeasured])
  | succ fuel ih =>
    have hnext : P (isMeasuring bus w).2 := h.request w 1 hw
    rw [YoloUno.waitMeasured] at hwait
    split at hwait
    · exact ih hnext hwait
    · rw [← Option.some.inj hwait]
      exact hnext

theorem Closed.readDataOnBus (h : Closed bus P) {w : σ} (hw : P w) (d : Dht20) :
    P (readDataOnBus bus d w).2 := by
  have hanswer := h.request w 7 hw
  unfold YoloUno.readDataOnBus
  dsimp only
  split
  · exact hanswer
  · split
    · exact hanswer
    · split
      · exact hanswer
      · exact h.millis _ hanswer

/-- A call ends in `P` if it ends. -/
theorem Closed.readOnBus (h : Closed bus P) {fuel : Nat} {d : Dht20} {w : σ}
    {r : (Dht20 × Int) × σ} (hw : P w) (hread : readOnBus bus before fuel d w = some r) :
    P r.2 := by
  have hack : ¬ (requestData bus before d (bus.millis w).2).1.2 < 0 := by
    show ¬ ((_ : Nat) : Int) < 0
    omega
  unfold YoloUno.readOnBus at hread
  dsimp only at hread
  by_cases hfast : (bus.millis w).1 - d.lastRead < 1000
  · rw [if_pos hfast, Option.some.injEq] at hread
    rw [← hread]
    exact h.millis w hw
  · rw [if_neg hfast, if_neg hack, Option.map_eq_some_iff] at hread
    obtain ⟨w', hwait, hdata⟩ := hread
    have hdone := h.readDataOnBus (h.waitMeasured (h.requestedWorld hw d) hwait)
      (requestData bus before d (bus.millis w).2).1.1
    rw [← hdata]
    split <;> exact hdone

end

/-! ## Sensors that answer and sensors that do not -/

/-- From worlds of `P` on the sensor is not busy forever. -/
structure Plugged (bus : Bus σ) (P : σ → Prop) : Prop extends Closed bus P where
  ready : ∀ w, P w → ∃ k, (isMeasuring bus (afterPolls bus k w)).1 = false

/-- From worlds of `P` on nothing answers any request. -/
structure Unplugged (bus : Bus σ) (P : σ → Prop) : Prop extends Closed bus P where
  silent : ∀ w n, P w → (bus.requestFrom n w).1 = []

section
variable {P : σ → Prop}

/--
**A plugged sensor keeps the monitor going.** As long as the sensor is not
busy forever, whatever else it answers, any number of turns end.
-/
theorem plugged_keeps_going (h : Plugged bus P) (n : Nat) (m : Monitor) {w : σ} (hw : P w) :
    ∃ fuels : List Nat, fuels.length = n ∧
      (monitorOnBus bus before fuels m w).isSome = true := by
  induction n generalizing m w with
  | zero => exact ⟨[], rfl, rfl⟩
  | succ n ih =>
    obtain ⟨fuel, hwait⟩ := (waitMeasured_returns_iff _).mpr
      (h.ready _ (h.toClosed.requestedWorld hw m.dht20))
    have hreturns := (isSome_readOnBus fuel m.dht20 w).mpr (Or.inr hwait)
    obtain ⟨r, hread⟩ := Option.isSome_iff_exists.mp hreturns
    obtain ⟨fuels, hlength, hrest⟩ := ih (publish r.1.1) (h.toClosed.readOnBus hw hread)
    refine ⟨fuel :: fuels, congrArg (· + 1) hlength, ?_⟩
    rw [monitorOnBus, monitorOnBusLoop, hread]
    exact hrest

theorem plugged_keeps_going_ready :
    ∃ fuels : List Nat, fuels.length = 3 ∧
      (monitorOnBus readyBus (fun _ => 0) fuels Monitor.init 2000).isSome = true := by
  have hnever (w : UInt32) : (isMeasuring readyBus w).1 = false :=
    show ((0x18 : UInt8) &&& 0x80 == 0x80) = false by decide
  have hready : Plugged readyBus fun _ => True :=
    ⟨⟨fun _ _ _ => trivial, fun _ _ _ => trivial, fun _ _ => trivial⟩,
      fun w _ => ⟨0, hnever w⟩⟩
  exact plugged_keeps_going hready 3 Monitor.init trivial

/-- A missing status looks like a busy sensor. -/
theorem Unplugged.busy (h : Unplugged bus P) {w : σ} (hw : P w) (k : Nat) :
    (isMeasuring bus (afterPolls bus k w)).1 = true := by
  induction k generalizing w with
  | zero =>
    show (wireRead (bus.requestFrom 1 w).1 0 &&& 0x80 == 0x80) = true
    rw [h.silent w 1 hw]
    rfl
  | succ k ih =>
    rw [afterPolls_succ]
    exact ih (h.request w 1 hw)

/--
**An unplugged sensor stops the monitor.** Once nothing answers on the bus, a
turn that is not refused for coming too early never ends: no error is
reported, and the globals keep what they held.
-/
theorem unplugged_never_returns (h : Unplugged bus P) {m : Monitor} {w : σ} (hw : P w)
    (hlate : 1000 ≤ (bus.millis w).1 - m.dht20.lastRead) (fuel : Nat) :
    monitorOnBusLoop bus before fuel m w = none := by
  have hread : readOnBus bus before fuel m.dht20 w = none := by
    by_contra hsome
    have hreturns := (isSome_readOnBus fuel m.dht20 w).mp (Option.isSome_iff_ne_none.mpr hsome)
    rcases hreturns with hfast | hwait
    · exact absurd hfast (UInt32.not_lt.mpr hlate)
    · have hworld : P (requestedWorld bus before m.dht20 w) :=
        h.toClosed.requestedWorld hw m.dht20
      obtain ⟨k, hready⟩ := (waitMeasured_returns_iff _).mp ⟨fuel, hwait⟩
      rw [h.busy hworld k] at hready
      exact absurd hready (by decide)
  unfold monitorOnBusLoop
  rw [hread]
  rfl

end

/-- A bus with nothing on it. -/
def emptyBus : Bus UInt32 where
  transmit _ w := (2, w)
  requestFrom _ w := ([], w)
  millis w := (w, w + 1)
  atMost n _ := Nat.zero_le n

theorem unplugged_never_returns_empty :
    monitorOnBusLoop emptyBus (fun _ => 0) 1000000 Monitor.init 1000 = none := by
  have hempty : Unplugged emptyBus fun _ => True :=
    ⟨⟨fun _ _ _ => trivial, fun _ _ _ => trivial, fun _ _ => trivial⟩, fun _ _ _ => rfl⟩
  exact unplugged_never_returns hempty trivial (by decide) 1000000

/-! ## What a call puts on the bus -/

inductive Transfer
  | transmit (bytes : List UInt8) (ack : UInt8)
  | request (n : Nat) (answer : List UInt8)
  deriving DecidableEq, Repr

/-- The same bus, with a record of its transfers. -/
def Bus.recorded (bus : Bus σ) : Bus (σ × List Transfer) where
  transmit bytes w :=
    let sent := bus.transmit bytes w.1
    (sent.1, sent.2, w.2 ++ [.transmit bytes sent.1])
  requestFrom n w :=
    let answer := bus.requestFrom n w.1
    (answer.1, answer.2, w.2 ++ [.request n answer.1])
  millis w := ((bus.millis w.1).1, (bus.millis w.1).2, w.2)
  atMost n w := bus.atMost n w.1

/-- A status with the busy bit. -/
def Transfer.Busy (t : Transfer) : Prop :=
  ∃ answer, t = .request 1 answer ∧ wireRead answer 0 &&& 0x80 = 0x80

/-- Two bytes of a register are written back, unless it does not answer. -/
inductive Rewrites (before : Nat → UInt8) (reg : UInt8) : List Transfer → Prop
  | refused (ack : UInt8) (h : ack ≠ 0) : Rewrites before reg [.transmit [reg, 0x00, 0x00] ack]
  | sent (answer : List UInt8) (ack : UInt8) :
    Rewrites before reg [.transmit [reg, 0x00, 0x00] 0, .request 3 answer,
      .transmit [0xB0 ||| reg, answer.getD 1 (before 1), answer.getD 2 (before 2)] ack]

/-- A status, and the three registers if it says that the sensor needs it. -/
inductive Resets (before : Nat → UInt8) : List Transfer → Prop
  | calibrated (answer : List UInt8) (h : wireRead answer 0 &&& 0x18 = 0x18) :
    Resets before [.request 1 answer]
  | registers (answer : List UInt8) (r1 r2 r3 : List Transfer)
      (h : wireRead answer 0 &&& 0x18 ≠ 0x18) (h1 : Rewrites before 0x1B r1)
      (h2 : Rewrites before 0x1C r2) (h3 : Rewrites before 0x1E r3) :
    Resets before (.request 1 answer :: (r1 ++ (r2 ++ r3)))

/-- One measurement: a reset, one trigger, statuses as long as the sensor is
busy and one when it is not, and at last the frame. -/
inductive Measures (before : Nat → UInt8) : List Transfer → Prop
  | mk (reset busy : List Transfer) (ack : UInt8) (ready answer : List UInt8)
      (hreset : Resets before reset) (hbusy : ∀ t ∈ busy, t.Busy)
      (hready : wireRead ready 0 &&& 0x80 ≠ 0x80) :
    Measures before (reset ++ .transmit [0xAC, 0x33, 0x00] ack ::
      (busy ++ [.request 1 ready, .request 7 answer]))

theorem rewrites_resetRegister (reg : UInt8) (w : σ) (record : List Transfer) :
    ∃ r, Rewrites before reg r ∧
      (resetRegister bus.recorded before reg (w, record)).2.2 = record ++ r := by
  unfold resetRegister
  dsimp only [Bus.recorded]
  set s1 := bus.transmit [reg, 0x00, 0x00] w
  set a := bus.requestFrom 3 s1.2
  set s2 := bus.transmit [0xB0 ||| reg, a.1.getD 1 (before 1), a.1.getD 2 (before 2)] a.2
  by_cases hfirst : s1.1 = 0
  · refine ⟨_, .sent a.1 s2.1, ?_⟩
    rw [if_neg (not_not.mpr hfirst), hfirst]
    split <;> simp
  · rw [if_pos hfirst]
    exact ⟨_, .refused s1.1 hfirst, rfl⟩

theorem resets_resetSensor (w : σ) (record : List Transfer) :
    ∃ r, Resets before r ∧
      (resetSensor bus.recorded before (w, record)).2.2 = record ++ r := by
  set answer := bus.requestFrom 1 w with hanswer
  have hstatus : readStatus bus.recorded (w, record) =
      (wireRead answer.1 0, answer.2, record ++ [.request 1 answer.1]) := rfl
  unfold resetSensor
  dsimp only
  rw [hstatus]
  by_cases hneeds : wireRead answer.1 0 &&& 0x18 = 0x18
  · rw [if_neg (not_not.mpr hneeds)]
    exact ⟨_, .calibrated answer.1 hneeds, rfl⟩
  · rw [if_pos hneeds]
    obtain ⟨r1, h1, hr1⟩ := @rewrites_resetRegister σ bus before 0x1B answer.2
      (record ++ [.request 1 answer.1])
    set w1 := (resetRegister bus.recorded before 0x1B
      (answer.2, record ++ [.request 1 answer.1])).2
    obtain ⟨r2, h2, hr2⟩ := @rewrites_resetRegister σ bus before 0x1C w1.1 w1.2
    set w2 := (resetRegister bus.recorded before 0x1C (w1.1, w1.2)).2
    obtain ⟨r3, h3, hr3⟩ := @rewrites_resetRegister σ bus before 0x1E w2.1 w2.2
    refine ⟨_, .registers answer.1 r1 r2 r3 hneeds h1 h2 h3, ?_⟩
    refine hr3.trans ?_
    rw [hr2, hr1]
    simp

/-- The wait reads statuses until one is not busy. -/
theorem polls_waitMeasured {fuel : Nat} {w : σ} {record : List Transfer}
    {w' : σ × List Transfer} (h : waitMeasured bus.recorded fuel (w, record) = some w') :
    ∃ busy ready, (∀ t ∈ busy, Transfer.Busy t) ∧ wireRead ready 0 &&& 0x80 ≠ 0x80 ∧
      w'.2 = record ++ (busy ++ [.request 1 ready]) := by
  induction fuel generalizing w record with
  | zero => exact absurd h (by simp [waitMeasured])
  | succ fuel ih =>
    set answer := bus.requestFrom 1 w with hanswer
    have hpoll : isMeasuring bus.recorded (w, record) =
        (wireRead answer.1 0 &&& 0x80 == 0x80, answer.2, record ++ [.request 1 answer.1]) := rfl
    rw [waitMeasured, hpoll] at h
    dsimp only at h
    by_cases hbusy : wireRead answer.1 0 &&& 0x80 = 0x80
    · rw [if_pos (by simpa using hbusy)] at h
      obtain ⟨busy, ready, hall, hready, hrecord⟩ := ih h
      refine ⟨.request 1 answer.1 :: busy, ready, ?_, hready, ?_⟩
      · intro t ht
        rcases List.mem_cons.mp ht with rfl | ht
        · exact ⟨answer.1, rfl, hbusy⟩
        · exact hall t ht
      · rw [hrecord]
        simp
    · rw [if_neg (by simpa using hbusy), Option.some.injEq] at h
      exact ⟨[], answer.1, by simp, hbusy, by rw [← h]; rfl⟩

theorem record_readDataOnBus (d : Dht20) (w : σ) (record : List Transfer) :
    ∃ answer, (readDataOnBus bus.recorded d (w, record)).2.2 = record ++ [.request 7 answer] := by
  refine ⟨(bus.requestFrom 7 w).1, ?_⟩
  unfold readDataOnBus
  dsimp only [Bus.recorded]
  split
  · rfl
  · split
    · rfl
    · split <;> rfl

/--
**What a call of `read` puts on the bus.** Nothing if it comes too early, and
one measurement in full otherwise, whatever the sensor answers: one trigger,
and no request for the frame before a status that is not busy.
-/
theorem read_traffic {fuel : Nat} {d : Dht20} {w : σ} {r : (Dht20 × Int) × σ × List Transfer}
    (h : readOnBus bus.recorded before fuel d (w, []) = some r) :
    ((bus.millis w).1 - d.lastRead < 1000 → r.2.2 = []) ∧
      (1000 ≤ (bus.millis w).1 - d.lastRead → Measures before r.2.2) := by
  unfold readOnBus at h
  dsimp only at h
  have htime : (bus.recorded.millis (w, [])).1 = (bus.millis w).1 := rfl
  rw [htime] at h
  by_cases hfast : (bus.millis w).1 - d.lastRead < 1000
  · rw [if_pos hfast, Option.some.injEq] at h
    refine ⟨fun _ => by rw [← h]; rfl, fun hslow => ?_⟩
    exact absurd hfast (UInt32.not_lt.mpr hslow)
  refine ⟨fun h' => absurd h' hfast, fun _ => ?_⟩
  rw [if_neg hfast] at h
  have hmillis : (bus.recorded.millis (w, [])).2 = ((bus.millis w).2, []) := rfl
  rw [hmillis] at h
  obtain ⟨reset, hreset, hrecord⟩ := @resets_resetSensor σ bus before (bus.millis w).2 []
  set after := (resetSensor bus.recorded before ((bus.millis w).2, [])).2 with hafter
  set sent := bus.transmit [0xAC, 0x33, 0x00] after.1 with hsent
  have hrequested : (requestData bus.recorded before d ((bus.millis w).2, [])).2 =
      ((bus.millis sent.2).2, after.2 ++ [.transmit [0xAC, 0x33, 0x00] sent.1]) := rfl
  have hack : ¬ (requestData bus.recorded before d ((bus.millis w).2, [])).1.2 < 0 := by
    show ¬ ((_ : Nat) : Int) < 0
    omega
  rw [if_neg hack, hrequested, Option.map_eq_some_iff] at h
  obtain ⟨w', hwait, hdata⟩ := h
  obtain ⟨busy, ready, hbusy, hready, hpolled⟩ := polls_waitMeasured hwait
  obtain ⟨answer, hanswer⟩ := @record_readDataOnBus σ bus
    (requestData bus.recorded before d ((bus.millis w).2, [])).1.1 w'.1 w'.2
  have hrecords : r.2.2 = reset ++ .transmit [0xAC, 0x33, 0x00] sent.1 ::
      (busy ++ [.request 1 ready, .request 7 answer]) := by
    have hsame : r.2.2 = (readDataOnBus bus.recorded
        (requestData bus.recorded before d ((bus.millis w).2, [])).1.1 w').2.2 := by
      rw [← hdata]
      split <;> rfl
    rw [hsame, hanswer, hpolled, hrecord]
    simp
  rw [hrecords]
  exact .mk reset busy sent.1 ready answer hreset hbusy hready

theorem read_traffic_ready :
    ∃ r, readOnBus readyBus.recorded (fun _ => 0) 1 Dht20.init (2000, []) = some r ∧
      Measures (fun _ => 0) r.2.2 := by
  have hreturns :
      (readOnBus readyBus.recorded (fun _ => 0) 1 Dht20.init (2000, [])).isSome = true := by
    decide +kernel
  have hlate : 1000 ≤ (readyBus.millis 2000).1 - Dht20.init.lastRead := by decide
  obtain ⟨r, hr⟩ := Option.isSome_iff_exists.mp hreturns
  exact ⟨r, hr, (read_traffic hr).2 hlate⟩

end

end YoloUno
