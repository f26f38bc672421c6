import YoloUno.Power.Board
import YoloUno.Lib.Runs

/-!
# The power demo task

`task_power_demo.cpp`, function by function, and `setup` of `main.cpp`, over
the board of `Power/Board.lean`. Each function takes the device and returns
it changed; `parseCommand` and the loop body return an `Outcome`, because a
deep sleep does not come back to its caller.

A run is a list of `Poll`s, the turns of the task's loop: the serial line
has nothing, or it has a byte (and the clock is read around the light sleep
that this byte may start). `session` is a run from power-on, with every deep
sleep followed by its reboot; `life` has other resets in between as well.
-/

namespace YoloUno

/-! ## LEDs -/

/-- One turn of the loop in `led_blink_reset`. -/
def blinkRed (d : Device) : Device :=
  d |> stripSetPixelColor 0 (stripColor 255 0 0)
    |> stripShow
    |> stripSetPixelColor 0 (stripColor 0 0 0)
    |> stripShow

def ledBlinkReset (d : Device) : Device :=
  d |> serialPrintln "System Reset/Wakeup -> Blinking RED..."
    |> blinkRed |> blinkRed |> blinkRed

def ledActiveMode (d : Device) : Device :=
  d |> gpioSetLevel ledD13Pin 0
    |> stripSetPixelColor 0 (stripColor 0 255 0)
    |> stripShow

def ledSleepModeSetup (d : Device) : Device :=
  d |> stripSetPixelColor 0 (stripColor 0 0 0)
    |> stripShow
    -- the strip has no pin from here on, until `strip.begin`
    |> gpioResetPin neoPin
    |> gpioResetPin ledD13Pin
    |> gpioSetDirectionOutput ledD13Pin
    |> gpioSetLevel ledD13Pin 1

/-! ## Menu -/

def printMenu (d : Device) : Device :=
  let d := d.emit (.menu d.board)
  let d := d
    |> serialPrintln "\n╔═══════════════════════════════╗"
    |> serialPrintln "║   Power Optimization Demo     ║"
    |> serialPrintln "╚═══════════════════════════════╝"
  let wakeup := d.board.wakeupCause
  let d :=
    if wakeup = .timer then
      serialPrintln "Woke by TIMER" d
    else if wakeup = .ext0 then
      serialPrintln "Woke by BUTTON" d
    else
      -- the menu writes the counter, not only `enter_deep_sleep`
      (serialPrintln "Power ON" d).onBoard fun b => { b with bootCount := 0 }
  d |> serialPrintf .bootCount d.board.bootCount
    |> serialPrintln "\nLED STATUS:"
    |> serialPrintln " - Blink RED 3x: Startup / Wake from Deep Sleep"
    |> serialPrintln " - Solid GREEN:  Running (Active)"
    |> serialPrintln " - D13 ON:       Sleeping"
    |> serialPrintln "\nCOMMANDS:"
    |> serialPrintln "  L <sec> - Light Sleep"
    |> serialPrintln "  D <sec> - Deep Sleep"
    |> serialPrint ">>> "

/-! ## Sleeps -/

/-- `enter_light_sleep` up to its first call of `millis`. -/
def lightSleepSetup (timeSec : UInt32) (d : Device) : Device :=
  d |> serialPrintf .lightSleep timeSec.toInt32
    |> serialPrintln "   (NeoPixel OFF -> LED D13 ON)"
    |> ledSleepModeSetup
    |> gpioHoldEn ledD13Pin
    -- `time_sec * 1000000ULL`: the product is taken in 64 bits
    |> espSleepEnableTimerWakeup (timeSec.toUInt64 * 1000000)

def enterLightSleep (timeSec : UInt32) (nap : Nap) (d : Device) : Device :=
  let d := lightSleepSetup timeSec d
  let start := millis nap.start
  let d := d
    |> espLightSleepStart
    -- here the board is awake again
    |> gpioHoldDis ledD13Pin
    |> stripBegin
    |> stripSetBrightness 50
    |> ledActiveMode
  -- both readings and their difference are `uint32_t`
  let duration := (millis (nap.start + nap.elapsed) - start) / 1000
  d |> serialPrintf .sleptFor duration.toInt32
    |> serialPrint ">>> "

/-- `enter_deep_sleep`; the device as `esp_deep_sleep_start` leaves it. -/
def enterDeepSleep (timeSec : UInt32) (d : Device) : Device :=
  d |> serialPrintf .deepSleep timeSec.toInt32
    |> serialPrintln "   (Will BLINK RED upon wake/reset)"
    |> Device.onBoard (fun b => { b with bootCount := b.bootCount + 1 })
    |> ledSleepModeSetup
    |> gpioHoldEn ledD13Pin
    |> gpioDeepSleepHoldEn
    |> espSleepEnableTimerWakeup (timeSec.toUInt64 * 1000000)
    |> espDeepSleepStart

/-! ## Commands -/

/-- A call either returns, or ends in a deep sleep. -/
inductive Outcome
  | returned (d : Device)
  | deepSleep (d : Device)

def parseCommand (cmd : Bytes) (nap : Nap) (d : Device) : Outcome :=
  let cmd := toUpperCase (trim cmd)
  if cmd.length = 0 then .returned (serialPrint ">>> " d)
  else if equals cmd (ascii "M") then .returned (printMenu d)
  else if cmd.length < 3 then .returned (serialPrint ">>> " d)
  else
    -- the second character is skipped unseen
    let mode := charAt cmd 0
    let time := toInt (substring cmd 2)
    if time ≤ 0 then .returned d
    -- 'L' is 76, 'D' is 68; the `int` becomes a `uint32_t`
    else if mode = 76 then .returned (enterLightSleep time.toUInt32 nap d)
    else if mode = 68 then .deepSleep (enterDeepSleep time.toUInt32 d)
    else .returned d

/-! ## The task -/

def taskPowerDemoInit (d : Device) : Device :=
  d |> gpioResetPin ledD13Pin
    |> gpioSetDirectionOutput ledD13Pin
    |> gpioHoldDis ledD13Pin
    |> gpioDeepSleepHoldDis
    |> stripBegin
    |> stripSetBrightness 50
    |> ledBlinkReset
    |> ledActiveMode
    |> printMenu

/-- What one turn of the task's loop finds on the serial line. -/
inductive Poll
  | idle
  | rx (c : UInt8) (nap : Nap)
  deriving DecidableEq, Repr

/-- `c >= 32 && c <= 126`. -/
def isPrintable (c : UInt8) : Bool := 32 ≤ c && c ≤ 126

/-- `c == '\n' || c == '\r'`. -/
def isEnd (c : UInt8) : Bool := c == 10 || c == 13

/-- `c == 8 || c == 127`. -/
def isErase (c : UInt8) : Bool := c == 8 || c == 127

/-- The body of the loop in `task_power_management`. -/
def taskPowerManagementLoop (p : Poll) (d : Device) : Outcome :=
  let d := d.emit (.poll d.board)
  match p with
  | .idle => .returned d
  | .rx c nap =>
    let d := if isPrintable c then serialPrintChar c d else d
    if isEnd c then
      if d.inputBuffer.length > 0 then
        let d := serialPrintln "" d
        match parseCommand d.inputBuffer nap (d.emit (.parse d.inputBuffer)) with
        | .returned d => .returned { d with inputBuffer := [] }
        | .deepSleep d => .deepSleep d
      else .returned d
    else if isErase c then
      -- the erase sequence is sent for any byte that was stored, echoed or not
      if d.inputBuffer.length > 0 then
        -- `inputBuffer.remove(inputBuffer.length() - 1)`
        let d := { d with inputBuffer := d.inputBuffer.dropLast }
        .returned (serialPrint "\x08 \x08" d)
      else .returned d
    -- every other byte is stored, printable or not
    else .returned { d with inputBuffer := d.inputBuffer ++ [c] }

/-! ## Runs -/

/-- `setup`, and the part of the task it creates that runs before the loop. -/
def start (d : Device) : Device :=
  d |> serialPrintln "--- SYSTEM START ---" |> taskPowerDemoInit

/-- One turn of the loop; a deep sleep is followed by its wake and reboot. -/
def powerStep (d : Device) (p : Poll) : Device :=
  match taskPowerManagementLoop p d with
  | .returned d => d
  | .deepSleep d => start d.deepSleepWake

/-- The device at the first poll after a reset that is no deep-sleep wake,
behind the events `log` of its past. -/
def powerUp (log : List Event) : Device :=
  start ⟨Board.powerOn, [], log ++ [.boot .undefined]⟩

def session (polls : List Poll) : Device := Runs.run powerStep (powerUp []) polls

/-- A turn of the loop, or a reset that is no deep-sleep wake. -/
inductive Input
  | poll (p : Poll)
  | reset
  deriving DecidableEq, Repr

def lifeStep (d : Device) : Input → Device
  | .poll p => powerStep d p
  | .reset => powerUp d.log

def life (inputs : List Input) : Device := Runs.run lifeStep (powerUp []) inputs

/-- The bytes a run of polls reads. -/
def received (polls : List Poll) : Bytes :=
  polls.filterMap fun
    | .idle => none
    | .rx c _ => some c

end YoloUno
