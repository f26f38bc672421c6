import YoloUno.Power.Task

/-!
# What a call and a turn of the loop do

`parse_command` decides what a line means and does it in the same breath.
Here the two are taken apart: `interpret` reads the line, `execute` acts on
the device, and `parseCommand_eq` puts them together again. The rest of the
module says once what each function leaves on the log and on the board
(`printMenu_log`, `enterLightSleep_log`, …), and what one turn of the loop
can do (`powerStep_cases`), so that the invariants of the later modules never
unfold the functions of the task again.
-/

namespace YoloUno

-- ---------------------------------------------------------------------------
-- Reading a line
-- ---------------------------------------------------------------------------

/-- What a line means to `parse_command`. -/
inductive Command
  /-- A blank line, or one too short: the prompt is printed again. -/
  | prompt
  | menu
  /-- Nothing happens, and nothing is printed. -/
  | silent
  | sleep (kind : SleepKind) (timeSec : UInt32)
  deriving DecidableEq, Repr

def interpret (cmd : Bytes) : Command :=
  let cmd := toUpperCase (trim cmd)
  if cmd.length = 0 then .prompt
  else if equals cmd (ascii "M") then .menu
  else if cmd.length < 3 then .prompt
  else
    let time := toInt (substring cmd 2)
    if time ≤ 0 then .silent
    else if charAt cmd 0 = 76 then .sleep .light time.toUInt32
    else if charAt cmd 0 = 68 then .sleep .deep time.toUInt32
    else .silent

def execute (command : Command) (nap : Nap) (d : Device) : Outcome :=
  match command with
  | .prompt => .returned (serialPrint ">>> " d)
  | .menu => .returned (printMenu d)
  | .silent => .returned d
  | .sleep .light timeSec => .returned (enterLightSleep timeSec nap d)
  | .sleep .deep timeSec => .deepSleep (enterDeepSleep timeSec d)

theorem parseCommand_eq (cmd : Bytes) (nap : Nap) (d : Device) :
    parseCommand cmd nap d = execute (interpret cmd) nap d := by
  unfold parseCommand interpret
  dsimp only
  -- the two share their conditions, in the same order
  by_cases hblank : (toUpperCase (trim cmd)).length = 0
  · rw [if_pos hblank, if_pos hblank]
    rfl
  rw [if_neg hblank, if_neg hblank]
  by_cases hmenu : equals (toUpperCase (trim cmd)) (ascii "M") = true
  · rw [if_pos hmenu, if_pos hmenu]
    rfl
  rw [if_neg hmenu, if_neg hmenu]
  by_cases hshort : (toUpperCase (trim cmd)).length < 3
  · rw [if_pos hshort, if_pos hshort]
    rfl
  rw [if_neg hshort, if_neg hshort]
  by_cases htime : toInt (substring (toUpperCase (trim cmd)) 2) ≤ 0
  · rw [if_pos htime, if_pos htime]
    rfl
  rw [if_neg htime, if_neg htime]
  by_cases hlight : charAt (toUpperCase (trim cmd)) 0 = 76
  · rw [if_pos hlight, if_pos hlight]
    rfl
  rw [if_neg hlight, if_neg hlight]
  by_cases hdeep : charAt (toUpperCase (trim cmd)) 0 = 68
  · rw [if_pos hdeep, if_pos hdeep]
    rfl
  · rw [if_neg hdeep, if_neg hdeep]
    rfl

-- ---------------------------------------------------------------------------
-- The menu
-- ---------------------------------------------------------------------------

/-- The boot count that `print_menu` prints and leaves behind. -/
def menuCount (b : Board) : Int32 :=
  if b.wakeupCause = .timer ∨ b.wakeupCause = .ext0 then b.bootCount else 0

/-- No boot has been counted while the wakeup cause is undefined. -/
def Cleared (b : Board) : Prop := b.wakeupCause = .undefined → b.bootCount = 0

/-- A menu finds clear what it clears. -/
theorem menuCount_of_cleared {b : Board} (h : Cleared b) : menuCount b = b.bootCount := by
  unfold menuCount
  cases hcause : b.wakeupCause with
  | undefined => simp [h hcause]
  | ext0 => simp
  | timer => simp

/-- The lines of the menu above the boot count. -/
def menuHead (b : Board) : List String :=
  ["\n╔═══════════════════════════════╗\r\n",
   "║   Power Optimization Demo     ║\r\n",
   "╚═══════════════════════════════╝\r\n",
   match b.wakeupCause with
   | .timer => "Woke by TIMER\r\n"
   | .ext0 => "Woke by BUTTON\r\n"
   | .undefined => "Power ON\r\n"]

/-- The lines of the menu below the boot count, without the prompt. -/
def menuTail : List String :=
  ["\nLED STATUS:\r\n",
   " - Blink RED 3x: Startup / Wake from Deep Sleep\r\n",
   " - Solid GREEN:  Running (Active)\r\n",
   " - D13 ON:       Sleeping\r\n",
   "\nCOMMANDS:\r\n",
   "  L <sec> - Light Sleep\r\n",
   "  D <sec> - Deep Sleep\r\n"]

def menuEvents (b : Board) : List Event :=
  .menu b :: (menuHead b).map .print ++ .printf .bootCount (menuCount b) ::
    menuTail.map .print ++ [.print ">>> "]

theorem printMenu_eq (d : Device) :
    printMenu d =
      ⟨{ d.board with bootCount := menuCount d.board }, d.inputBuffer,
        d.log ++ menuEvents d.board⟩ := by
  obtain ⟨board, buffer, log⟩ := d
  obtain ⟨pads, hold, strip, timer, cause, count⟩ := board
  -- the branch taken depends on the cause alone
  cases cause with
  | undefined =>
    simp [printMenu, menuEvents, menuHead, menuTail, menuCount, serialPrintln, serialPrint,
      serialPrintf, Device.emit, Device.onBoard]
  | ext0 =>
    simp [printMenu, menuEvents, menuHead, menuTail, menuCount, serialPrintln, serialPrint,
      serialPrintf, Device.emit]
  | timer =>
    simp [printMenu, menuEvents, menuHead, menuTail, menuCount, serialPrintln, serialPrint,
      serialPrintf, Device.emit]

-- ---------------------------------------------------------------------------
-- The sleeps
-- ---------------------------------------------------------------------------

/-- The seconds `enter_light_sleep` reports. -/
def sleptSeconds (nap : Nap) : UInt32 :=
  (millis (nap.start + nap.elapsed) - millis nap.start) / 1000

def red : Rgb := ⟨255, 0, 0⟩
def green : Rgb := ⟨0, 255, 0⟩
def off : Rgb := ⟨0, 0, 0⟩

theorem lightSleepSetup_log (timeSec : UInt32) (d : Device) :
    (lightSleepSetup timeSec d).log = d.log ++
      [.printf .lightSleep timeSec.toInt32, .print "   (NeoPixel OFF -> LED D13 ON)\r\n",
       .show off d.board.strip.brightness] := by
  show d.log ++ [_] ++ [_] ++ [.show off d.board.strip.brightness] = _
  simp only [List.append_assoc]
  rfl

theorem enterLightSleep_log (timeSec : UInt32) (nap : Nap) (d : Device) :
    (enterLightSleep timeSec nap d).log = (lightSleepSetup timeSec d).log ++
      [.sleep .light (lightSleepSetup timeSec d).board, .show green 50,
       .printf .sleptFor (sleptSeconds nap).toInt32, .print ">>> "] := by
  show (lightSleepSetup timeSec d).log ++ [_] ++ [.show green 50] ++
    [.printf .sleptFor (sleptSeconds nap).toInt32] ++ [_] = _
  simp only [List.append_assoc]
  rfl

theorem enterDeepSleep_log (timeSec : UInt32) (d : Device) :
    (enterDeepSleep timeSec d).log = d.log ++
      [.printf .deepSleep timeSec.toInt32, .print "   (Will BLINK RED upon wake/reset)\r\n",
       .show off d.board.strip.brightness, .sleep .deep (enterDeepSleep timeSec d).board] := by
  show d.log ++ [_] ++ [_] ++ [.show off d.board.strip.brightness] ++
    [.sleep .deep (enterDeepSleep timeSec d).board] = _
  simp only [List.append_assoc]
  rfl

/-- The board at the sleep call of a sleep command. -/
def sleepBoard (kind : SleepKind) (timeSec : UInt32) (d : Device) : Board :=
  match kind with
  | .light => (lightSleepSetup timeSec d).board
  | .deep => (enterDeepSleep timeSec d).board

/-- The duration armed at the sleep call, as a 64-bit number: the `uint32_t`
times a million cannot wrap. -/
theorem sleepBoard_timerWakeup (kind : SleepKind) (timeSec : UInt32) (d : Device) :
    ∃ us, (sleepBoard kind timeSec d).timerWakeup = some us ∧
      us.toNat = timeSec.toNat * 1000000 := by
  refine ⟨timeSec.toUInt64 * 1000000, by cases kind <;> rfl, ?_⟩
  -- 2³² · 10⁶ is below 2⁶⁴
  have hlt : timeSec.toNat < 2 ^ 32 := timeSec.toNat_lt
  rw [UInt64.toNat_mul, UInt32.toNat_toUInt64]
  show timeSec.toNat * 1000000 % 2 ^ 64 = _
  omega

/-- What a command leaves on the log. -/
def commandEvents (command : Command) (nap : Nap) (d : Device) : List Event :=
  match command with
  | .prompt => [.print ">>> "]
  | .menu => menuEvents d.board
  | .silent => []
  | .sleep .light timeSec =>
    [.printf .lightSleep timeSec.toInt32, .print "   (NeoPixel OFF -> LED D13 ON)\r\n",
     .show off d.board.strip.brightness, .sleep .light (sleepBoard .light timeSec d),
     .show green 50, .printf .sleptFor (sleptSeconds nap).toInt32, .print ">>> "]
  | .sleep .deep timeSec =>
    [.printf .deepSleep timeSec.toInt32, .print "   (Will BLINK RED upon wake/reset)\r\n",
     .show off d.board.strip.brightness, .sleep .deep (sleepBoard .deep timeSec d)]

/-- The device when the call returns, or when the deep sleep begins. -/
def Outcome.device : Outcome → Device
  | .returned d => d
  | .deepSleep d => d

theorem execute_log (command : Command) (nap : Nap) (d : Device) :
    (execute command nap d).device.log = d.log ++ commandEvents command nap d := by
  cases command with
  | prompt => rfl
  | menu =>
    show (printMenu d).log = d.log ++ menuEvents d.board
    rw [printMenu_eq]
  | silent => exact (List.append_nil _).symm
  | sleep kind timeSec =>
    cases kind with
    | light =>
      -- the setup up to the sleep call, and what follows the wake
      show (enterLightSleep timeSec nap d).log = _
      rw [enterLightSleep_log, lightSleepSetup_log, List.append_assoc]
      rfl
    | deep => exact enterDeepSleep_log timeSec d

-- ---------------------------------------------------------------------------
-- Starting
-- ---------------------------------------------------------------------------

/-- A start, up to the menu. -/
def ready (d : Device) : Device :=
  d |> serialPrintln "--- SYSTEM START ---"
    |> gpioResetPin ledD13Pin
    |> gpioSetDirectionOutput ledD13Pin
    |> gpioHoldDis ledD13Pin
    |> gpioDeepSleepHoldDis
    |> stripBegin
    |> stripSetBrightness 50
    |> ledBlinkReset
    |> ledActiveMode

theorem start_eq (d : Device) : start d = printMenu (ready d) := rfl

def readyEvents : List Event :=
  [.print "--- SYSTEM START ---\r\n", .print "System Reset/Wakeup -> Blinking RED...\r\n",
   .show red 50, .show off 50, .show red 50, .show off 50, .show red 50, .show off 50,
   .show green 50]

theorem blinkRed_log (d : Device) :
    (blinkRed d).log = d.log ++
      [.show red d.board.strip.brightness, .show off d.board.strip.brightness] := by
  show d.log ++ [.show red d.board.strip.brightness] ++ [.show off d.board.strip.brightness] = _
  rw [List.append_assoc]
  rfl

theorem blinkRed_brightness (d : Device) :
    (blinkRed d).board.strip.brightness = d.board.strip.brightness := rfl

theorem ledActiveMode_log (d : Device) :
    (ledActiveMode d).log = d.log ++ [.show green d.board.strip.brightness] := rfl

theorem ready_log (d : Device) : (ready d).log = d.log ++ readyEvents := by
  -- the three blinks, from the device on which `led_blink_reset` has printed its line
  set e := serialPrintln "System Reset/Wakeup -> Blinking RED..." (d
    |> serialPrintln "--- SYSTEM START ---"
    |> gpioResetPin ledD13Pin |> gpioSetDirectionOutput ledD13Pin |> gpioHoldDis ledD13Pin
    |> gpioDeepSleepHoldDis |> stripBegin |> stripSetBrightness 50) with he
  have hlog : e.log = d.log ++ [.print "--- SYSTEM START ---\r\n",
      .print "System Reset/Wakeup -> Blinking RED...\r\n"] := by
    show d.log ++ [_] ++ [_] = _
    rw [List.append_assoc]
    rfl
  have hbright : e.board.strip.brightness = 50 := rfl
  show (ledActiveMode (blinkRed (blinkRed (blinkRed e)))).log = _
  rw [ledActiveMode_log]
  simp only [blinkRed_log, blinkRed_brightness, hlog, hbright, List.append_assoc]
  rfl

theorem ready_inputBuffer (d : Device) : (ready d).inputBuffer = d.inputBuffer := rfl

theorem start_log (d : Device) :
    (start d).log = d.log ++ (readyEvents ++ menuEvents (ready d).board) := by
  rw [start_eq, printMenu_eq, ready_log, List.append_assoc]

theorem start_inputBuffer (d : Device) : (start d).inputBuffer = d.inputBuffer := by
  rw [start_eq, printMenu_eq, ready_inputBuffer]

theorem powerUp_log (log : List Event) :
    ∃ b, (powerUp log).log = log ++ .boot .undefined :: (readyEvents ++ menuEvents b) := by
  refine ⟨(ready ⟨Board.powerOn, [], log ++ [.boot .undefined]⟩).board, ?_⟩
  unfold powerUp
  rw [start_log, List.append_assoc]
  rfl

-- ---------------------------------------------------------------------------
-- One turn of the loop
-- ---------------------------------------------------------------------------

/-- The device once `Serial.available` has been called. -/
def polled (d : Device) : Device := d.emit (.poll d.board)

/-- The device when a terminator hands the buffer to `parse_command`. -/
def atParse (d : Device) : Device :=
  (serialPrintln "" (polled d)).emit (.parse d.inputBuffer)

/-- What follows `parse_command`: the buffer is cleared, or the chip reboots. -/
def settle : Outcome → Device
  | .returned d => { d with inputBuffer := [] }
  | .deepSleep d => start d.deepSleepWake

/-- What the reboot after a deep sleep leaves on the log. -/
def settleEvents : Outcome → List Event
  | .returned _ => []
  | .deepSleep d => .boot .timer :: (readyEvents ++ menuEvents (ready d.deepSleepWake).board)

theorem atParse_log (d : Device) :
    (atParse d).log = d.log ++ [.poll d.board, .print "\r\n", .parse d.inputBuffer] := by
  show d.log ++ [_] ++ [_] ++ [_] = _
  simp only [List.append_assoc]
  rfl

theorem settle_log (o : Outcome) : (settle o).log = o.device.log ++ settleEvents o := by
  cases o with
  | returned d => exact (List.append_nil _).symm
  | deepSleep d =>
    -- the wake logs its boot, the start behind it the rest
    show (start d.deepSleepWake).log = d.log ++ _
    rw [start_log]
    show d.log ++ [.boot .timer] ++ _ = _
    rw [List.append_assoc]
    rfl

theorem settle_inputBuffer (o : Outcome) : (settle o).inputBuffer = [] := by
  cases o with
  | returned d => rfl
  | deepSleep d =>
    -- never cleared by the task, but a global that the reset initialises again
    show (start d.deepSleepWake).inputBuffer = []
    rw [start_inputBuffer]
    rfl

/-- The log after a line has been submitted and the task polls again. -/
theorem settle_execute_log (command : Command) (nap : Nap) (d : Device) :
    (settle (execute command nap (atParse d))).log = d.log ++
      ([.poll d.board, .print "\r\n", .parse d.inputBuffer] ++
        commandEvents command nap (atParse d) ++
        settleEvents (execute command nap (atParse d))) := by
  rw [settle_log, execute_log, atParse_log]
  simp only [List.append_assoc]

/-- The device after an erase key with something to erase. -/
def erased (d : Device) : Device :=
  serialPrint "\x08 \x08" { polled d with inputBuffer := d.inputBuffer.dropLast }

/-- The device after any other key. -/
def stored (c : UInt8) (d : Device) : Device :=
  let e := if isPrintable c then serialPrintChar c (polled d) else polled d
  { e with inputBuffer := d.inputBuffer ++ [c] }

theorem erased_log (d : Device) :
    (erased d).log = d.log ++ [.poll d.board, .print "\x08 \x08"] :=
  List.append_assoc d.log [_] [_]

/-- The echo of a key, if it is printable. -/
def echoEvents (c : UInt8) : List Event := if isPrintable c then [.echo c] else []

theorem stored_log (c : UInt8) (d : Device) :
    (stored c d).log = d.log ++ .poll d.board :: echoEvents c := by
  unfold stored echoEvents
  cases isPrintable c with
  | true => exact List.append_assoc d.log [_] [_]
  | false => rfl

theorem stored_board (c : UInt8) (d : Device) : (stored c d).board = d.board := by
  unfold stored
  cases isPrintable c with
  | true => rfl
  | false => rfl

theorem not_isPrintable_of_isEnd {c : UInt8} (h : isEnd c = true) : isPrintable c = false := by
  simp only [isEnd, Bool.or_eq_true, beq_iff_eq] at h
  rcases h with rfl | rfl <;> rfl

theorem not_isPrintable_of_isErase {c : UInt8} (h : isErase c = true) :
    isPrintable c = false := by
  simp only [isErase, Bool.or_eq_true, beq_iff_eq] at h
  rcases h with rfl | rfl <;> rfl

theorem not_isEnd_of_isErase {c : UInt8} (h : isErase c = true) : isEnd c = false := by
  simp only [isErase, Bool.or_eq_true, beq_iff_eq] at h
  rcases h with rfl | rfl <;> rfl

/-- A turn that changes nothing but the log. -/
inductive Quiet (d : Device) : Poll → Prop
  | idle : Quiet d .idle
  | blank (c : UInt8) (nap : Nap) (hkey : isEnd c = true ∨ isErase c = true)
      (hbuf : d.inputBuffer = []) : Quiet d (.rx c nap)

theorem powerStep_quiet {d : Device} {p : Poll} (h : Quiet d p) : powerStep d p = polled d := by
  cases h with
  | idle => rfl
  | blank c nap hkey hbuf =>
    have hlen : ¬ (d.emit (.poll d.board)).inputBuffer.length > 0 := by simp [hbuf]
    unfold powerStep taskPowerManagementLoop
    dsimp only
    -- neither kind of key is printable, so nothing is echoed
    rcases hkey with hend | herase
    · rw [not_isPrintable_of_isEnd hend]
      simp only [Bool.false_eq_true, if_false, if_pos hend]
      rw [if_neg hlen]
      rfl
    · rw [not_isPrintable_of_isErase herase, not_isEnd_of_isErase herase]
      simp only [Bool.false_eq_true, if_false, if_pos herase]
      rw [if_neg hlen]
      rfl

theorem powerStep_submit {d : Device} {c : UInt8} (nap : Nap) (hend : isEnd c = true)
    (hbuf : d.inputBuffer ≠ []) :
    powerStep d (.rx c nap) = settle (execute (interpret d.inputBuffer) nap (atParse d)) := by
  have hlen : (d.emit (.poll d.board)).inputBuffer.length > 0 := List.length_pos_iff.mpr hbuf
  unfold powerStep taskPowerManagementLoop
  dsimp only
  rw [not_isPrintable_of_isEnd hend]
  simp only [Bool.false_eq_true, if_false, if_pos hend]
  rw [if_pos hlen, ← parseCommand_eq]
  -- a call that returns clears the buffer; one that does not goes on to the reboot
  show (match (match parseCommand d.inputBuffer nap (atParse d) with
      | .returned d => Outcome.returned { d with inputBuffer := [] }
      | .deepSleep d => .deepSleep d) with
    | .returned d => d
    | .deepSleep d => start d.deepSleepWake) = _
  cases parseCommand d.inputBuffer nap (atParse d) with
  | returned e => rfl
  | deepSleep e => rfl

theorem powerStep_erase {d : Device} {c : UInt8} (nap : Nap) (herase : isErase c = true)
    (hbuf : d.inputBuffer ≠ []) : powerStep d (.rx c nap) = erased d := by
  have hlen : (d.emit (.poll d.board)).inputBuffer.length > 0 := List.length_pos_iff.mpr hbuf
  unfold powerStep taskPowerManagementLoop
  dsimp only
  rw [not_isPrintable_of_isErase herase, not_isEnd_of_isErase herase]
  simp only [Bool.false_eq_true, if_false, if_pos herase]
  rw [if_pos hlen]
  rfl

theorem powerStep_store {d : Device} {c : UInt8} (nap : Nap) (hend : isEnd c = false)
    (herase : isErase c = false) : powerStep d (.rx c nap) = stored c d := by
  unfold powerStep taskPowerManagementLoop stored
  dsimp only
  rw [hend, herase]
  simp only [Bool.false_eq_true, if_false]
  cases isPrintable c with
  | true => rfl
  | false => rfl

/--
**What one turn of the loop can do.** To prove something of every turn, prove
it of a quiet one, of a line being submitted, of a key being erased and of a
key being stored.
-/
theorem powerStep_cases {d : Device} {motive : Poll → Device → Prop}
    (quiet : ∀ p, Quiet d p → motive p (polled d))
    (submit : ∀ c nap, isEnd c = true → d.inputBuffer ≠ [] →
      motive (.rx c nap) (settle (execute (interpret d.inputBuffer) nap (atParse d))))
    (erase : ∀ c nap, isErase c = true → d.inputBuffer ≠ [] →
      motive (.rx c nap) (erased d))
    (store : ∀ c nap, isEnd c = false → isErase c = false →
      motive (.rx c nap) (stored c d)) :
    ∀ p, motive p (powerStep d p) := by
  intro p
  -- a turn that is not quiet reads a key: what it does depends on the key's class
  by_cases hquiet : Quiet d p
  · rw [powerStep_quiet hquiet]
    exact quiet p hquiet
  cases p with
  | idle => exact absurd Quiet.idle hquiet
  | rx c nap =>
    have hbuf : isEnd c = true ∨ isErase c = true → d.inputBuffer ≠ [] :=
      fun hkey hnil => hquiet (.blank c nap hkey hnil)
    cases hend : isEnd c with
    | true =>
      rw [powerStep_submit nap hend (hbuf (Or.inl hend))]
      exact submit c nap hend (hbuf (Or.inl hend))
    | false =>
      cases herase : isErase c with
      | true =>
        rw [powerStep_erase nap herase (hbuf (Or.inr herase))]
        exact erase c nap herase (hbuf (Or.inr herase))
      | false =>
        rw [powerStep_store nap hend herase]
        exact store c nap hend herase

end YoloUno
