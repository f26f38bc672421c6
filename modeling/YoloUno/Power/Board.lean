import YoloUno.Arduino.WString

/-!
# The board under the power demo

What `task_power_demo.cpp` acts on, outside of itself: the GPIO pads with
their hold latches, the NeoPixel, the sleep controller, the memory that
survives a deep sleep, and the serial line.

* `Pad` — the registers of a pad and its hold latch. A held pad keeps the
  level it had when the hold was enabled (`Pad.drive`) and follows its
  registers again only once the hold is disabled.
* `Board` — everything a call can change except the line being typed.
* `Event` — what a run leaves behind: serial output, LED updates, sleeps,
  with the board as it was at each poll, menu and sleep.
* `Device` — the board, the globals of the task that are lost in a reset
  (`inputBuffer`), and the log of events.

Delays and `Serial.flush` change none of these and are left out.
-/

namespace YoloUno

/-! ## Pads -/

inductive Drive
  | low
  | high
  | floating
  deriving DecidableEq, Repr

/-- A GPIO pad: output enable, output register, and the level latched while
its hold is enabled. -/
structure Pad where
  output : Bool
  level  : Bool
  hold   : Option Drive
  deriving DecidableEq, Repr

/-- What the registers ask for. -/
def Pad.registers (p : Pad) : Drive :=
  if p.output then (if p.level then .high else .low) else .floating

/-- What the pad does: the latched level while held, else its registers. -/
def Pad.drive (p : Pad) : Drive := p.hold.getD p.registers

/-- A pad out of reset. -/
def Pad.reset : Pad := ⟨false, false, none⟩

/-! ## The NeoPixel -/

structure Rgb where
  r : UInt8
  g : UInt8
  b : UInt8
  deriving DecidableEq, Repr

/-- The `Adafruit_NeoPixel` object and the pixel behind it. `pinReady` is set
by `begin` and lost when the pin is reset; `shown` is the colour the pixel
was last sent, with the brightness it was sent at. -/
structure NeoPixel where
  pinReady   : Bool
  brightness : UInt8
  pixel      : Rgb
  shown      : Option (Rgb × UInt8)
  deriving DecidableEq, Repr

/-! ## The board -/

/-- `esp_sleep_wakeup_cause_t`, as far as the demo tells the causes apart. -/
inductive WakeupCause
  | undefined
  | ext0
  | timer
  deriving DecidableEq, Repr

inductive SleepKind
  | light
  | deep
  deriving DecidableEq, Repr

structure Board where
  pads          : Nat → Pad
  deepSleepHold : Bool
  strip         : NeoPixel
  timerWakeup   : Option UInt64
  wakeupCause   : WakeupCause
  bootCount     : Int32

/-- The format strings of the demo's `Serial.printf` calls. -/
inductive Format
  | bootCount
  | lightSleep
  | deepSleep
  | sleptFor
  deriving DecidableEq, Repr

def Format.text : Format → String
  | .bootCount  => "Boot count: %d\n"
  | .lightSleep => "Light Sleep: %d sec...\n"
  | .deepSleep  => "Deep Sleep: %d sec...\n"
  | .sleptFor   => "Woke up! Slept for: %ds\n"

inductive Event
  /-- The chip starts, for the cause given. -/
  | boot (cause : WakeupCause)
  /-- `Serial.print` or `Serial.println` of a string. -/
  | print (s : String)
  /-- `Serial.printf` of a format with one `%d`. -/
  | printf (format : Format) (arg : Int32)
  /-- `Serial.print` of one character. -/
  | echo (c : UInt8)
  /-- `strip.show`. -/
  | show (color : Rgb) (brightness : UInt8)
  /-- `Serial.available`, once per turn of the task's loop. -/
  | poll (b : Board)
  /-- A line is handed to `parse_command`. -/
  | parse (cmd : Bytes)
  /-- `print_menu` is entered. -/
  | menu (b : Board)
  /-- `esp_light_sleep_start` or `esp_deep_sleep_start` is called. -/
  | sleep (kind : SleepKind) (b : Board)

structure Device where
  board       : Board
  inputBuffer : Bytes
  log         : List Event

def Device.emit (e : Event) (d : Device) : Device := { d with log := d.log ++ [e] }

def Device.onBoard (f : Board → Board) (d : Device) : Device := { d with board := f d.board }

section
variable (d : Device) (e : Event) (f : Board → Board)

@[simp] theorem emit_board : (d.emit e).board = d.board := rfl
@[simp] theorem emit_inputBuffer : (d.emit e).inputBuffer = d.inputBuffer := rfl
@[simp] theorem emit_log : (d.emit e).log = d.log ++ [e] := rfl
@[simp] theorem onBoard_board : (d.onBoard f).board = f d.board := rfl
@[simp] theorem onBoard_inputBuffer : (d.onBoard f).inputBuffer = d.inputBuffer := rfl
@[simp] theorem onBoard_log : (d.onBoard f).log = d.log := rfl

end

/-! ## Serial -/

/-- A format with its `%d` replaced. -/
def formatInt : List Char → Int → List Char
  | '%' :: 'd' :: fmt, n => (toString n).toList ++ formatInt fmt n
  | c :: fmt, n => c :: formatInt fmt n
  | [], _ => []

/-- The characters an event writes to the serial line. -/
def Event.text : Event → List Char
  | .print s => s.toList
  | .printf format arg => formatInt format.text.toList arg.toInt
  | .echo c => [Char.ofNat c.toNat]
  | _ => []

def output (events : List Event) : List Char := events.flatMap Event.text

def serialPrint (s : String) : Device → Device := Device.emit (.print s)

def serialPrintln (s : String) : Device → Device := Device.emit (.print (s ++ "\r\n"))

def serialPrintf (format : Format) (arg : Int32) : Device → Device :=
  Device.emit (.printf format arg)

def serialPrintChar (c : UInt8) : Device → Device := Device.emit (.echo c)

/-! ## GPIO -/

def Board.mapPad (pin : Nat) (f : Pad → Pad) (b : Board) : Board :=
  { b with pads := fun n => if n = pin then f (b.pads n) else b.pads n }

def neoPin : Nat := 45
def ledD13Pin : Nat := 48

/-- `gpio_reset_pin`: input and output are disabled. The output register and
the hold stay; a NeoPixel on the pin has lost its driver. -/
def gpioResetPin (pin : Nat) : Device → Device :=
  Device.onBoard fun b =>
    let b := b.mapPad pin fun p => { p with output := false }
    if pin = neoPin then { b with strip := { b.strip with pinReady := false } } else b

/-- `gpio_set_direction(pin, GPIO_MODE_OUTPUT)`. -/
def gpioSetDirectionOutput (pin : Nat) : Device → Device :=
  Device.onBoard (Board.mapPad pin fun p => { p with output := true })

def gpioSetLevel (pin level : Nat) : Device → Device :=
  Device.onBoard (Board.mapPad pin fun p => { p with level := level != 0 })

def gpioHoldEn (pin : Nat) : Device → Device :=
  Device.onBoard (Board.mapPad pin fun p => { p with hold := some p.drive })

def gpioHoldDis (pin : Nat) : Device → Device :=
  Device.onBoard (Board.mapPad pin fun p => { p with hold := none })

def gpioDeepSleepHoldEn : Device → Device :=
  Device.onBoard fun b => { b with deepSleepHold := true }

def gpioDeepSleepHoldDis : Device → Device :=
  Device.onBoard fun b => { b with deepSleepHold := false }

/-! ## NeoPixel -/

def stripColor (r g b : UInt8) : Rgb := ⟨r, g, b⟩

/-- `strip.begin`: the pin becomes a low output and is the strip's again. -/
def stripBegin : Device → Device :=
  Device.onBoard fun b =>
    let b := b.mapPad neoPin fun p => { p with output := true, level := false }
    { b with strip := { b.strip with pinReady := true } }

def stripSetBrightness (brightness : UInt8) : Device → Device :=
  Device.onBoard fun b => { b with strip := { b.strip with brightness := brightness } }

/-- `strip.setPixelColor`; the strip has one pixel. -/
def stripSetPixelColor (n : Nat) (color : Rgb) : Device → Device :=
  Device.onBoard fun b =>
    if n < 1 then { b with strip := { b.strip with pixel := color } } else b

def stripShow (d : Device) : Device :=
  let s := d.board.strip
  (d.onBoard fun b => { b with strip := { s with shown := some (s.pixel, s.brightness) } }).emit
    (.show s.pixel s.brightness)

/-! ## Sleep -/

def espSleepEnableTimerWakeup (us : UInt64) : Device → Device :=
  Device.onBoard fun b => { b with timerWakeup := some us }

/-- A light sleep returns when the timer ends it. -/
def espLightSleepStart (d : Device) : Device :=
  (d.emit (.sleep .light d.board)).onBoard fun b => { b with wakeupCause := .timer }

/-- A deep sleep does not return: what follows is `Device.deepSleepWake`. -/
def espDeepSleepStart (d : Device) : Device := d.emit (.sleep .deep d.board)

/-- The clock around one light sleep: the true time in milliseconds at the
first call of `millis`, and the true time that passes until the second. -/
structure Nap where
  start   : Nat
  elapsed : Nat
  deriving DecidableEq, Repr

/-- `millis` at the true time `t`: a 32-bit counter. -/
def millis (t : Nat) : UInt32 := UInt32.ofNat t

/-! ## Resets -/

def NeoPixel.rebuilt (s : NeoPixel) : NeoPixel := ⟨false, 0, ⟨0, 0, 0⟩, s.shown⟩

/-- The board after power-on, or any reset that is no deep-sleep wake. -/
def Board.powerOn : Board where
  pads          := fun _ => Pad.reset
  deepSleepHold := false
  strip         := ⟨false, 0, ⟨0, 0, 0⟩, none⟩
  timerWakeup   := none
  wakeupCause   := .undefined
  bootCount     := 0

/-- The timer ends a deep sleep: the chip resets. Pad holds survive if the
deep-sleep hold was enabled, RTC memory survives, and the pixel keeps its
colour; everything else is as after a reset. -/
def Device.deepSleepWake (d : Device) : Device where
  board :=
    { pads          := fun n =>
        { Pad.reset with hold := if d.board.deepSleepHold then (d.board.pads n).hold else none }
      deepSleepHold := d.board.deepSleepHold
      strip         := d.board.strip.rebuilt
      timerWakeup   := none
      wakeupCause   := .timer
      bootCount     := d.board.bootCount }
  inputBuffer := []
  log         := d.log ++ [.boot .timer]

end YoloUno
