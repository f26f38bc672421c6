import YoloUno.Power.Frame

/-!
# The console

What the power demo is for, as a person at the terminal knows it: a line being
typed, a count of boots, and an answer to every line. A `Console` has no pads,
no strip, no RTC memory and no log; what it keeps of the past is the line, the
boots, the cause of the last wake and the time last armed.

* `life_refines` — the device refines the console. In every run the board is
  the one that `Console.board` makes of these four, the serial line has
  carried exactly the console's text, and the board has slept exactly as the
  console has, with the pads and the pixel as `Console.asleep` makes them.
* `life_sleeps` — so the sleeps of a run and its boot count are those of the
  lines submitted, in their order.
-/

namespace YoloUno

open LineDiscipline

/-! ## The abstract machine -/

structure Console where
  line   : Bytes
  /-- The lines submitted. -/
  lines  : List Bytes
  /-- Deep sleeps since the last reset that was no wake from one. -/
  boots  : Nat
  cause  : WakeupCause
  /-- The seconds of the last light sleep since the last boot. -/
  armed  : Option UInt32
  text   : List Char
  sleeps : List (SleepKind × Board)

/-- The board at a poll. -/
def Console.board (c : Console) : Board where
  pads          := fun n => if n = neoPin ∨ n = ledD13Pin then ⟨true, false, none⟩ else Pad.reset
  deepSleepHold := false
  strip         := ⟨true, 50, green, some (green, 50)⟩
  timerWakeup   := c.armed.map fun timeSec => timeSec.toUInt64 * 1000000
  wakeupCause   := c.cause
  bootCount     := Int32.ofNat c.boots

/-- The board asleep. -/
def Console.asleep (kind : SleepKind) (timeSec : UInt32) (c : Console) : Board where
  pads          := fun n => if n = ledD13Pin then ⟨true, true, some .high⟩
    else if n = neoPin then ⟨false, false, none⟩ else Pad.reset
  deepSleepHold := kind = .deep
  strip         := ⟨false, 50, off, some (off, 50)⟩
  timerWakeup   := some (timeSec.toUInt64 * 1000000)
  wakeupCause   := c.cause
  bootCount     := Int32.ofNat (if kind = .deep then c.boots + 1 else c.boots)

def Console.say (text : List Char) (c : Console) : Console := { c with text := c.text ++ text }

/-- The menu, which shows the cause and the boots. -/
def Console.menu (c : Console) : List Char := output (menuEvents c.board)

/-- A start of the chip. -/
def Console.boot (cause : WakeupCause) (boots : Nat) (c : Console) : Console :=
  let c := { c with line := [], boots := boots, cause := cause, armed := none }
  c.say (output readyEvents ++ c.menu)

/-- What is printed before a sleep. -/
def announcement (kind : SleepKind) (timeSec : UInt32) : List Char :=
  match kind with
  | .light => formatInt Format.lightSleep.text.toList timeSec.toInt32.toInt ++
      "   (NeoPixel OFF -> LED D13 ON)\r\n".toList
  | .deep => formatInt Format.deepSleep.text.toList timeSec.toInt32.toInt ++
      "   (Will BLINK RED upon wake/reset)\r\n".toList

def Console.sleep (kind : SleepKind) (timeSec : UInt32) (c : Console) : Console :=
  { c.say (announcement kind timeSec) with sleeps := c.sleeps ++ [(kind, c.asleep kind timeSec)] }

/-- The answer to a line. -/
def Console.answer (command : Command) (nap : Nap) (c : Console) : Console :=
  match command with
  | .prompt => c.say ">>> ".toList
  | .menu => c.say c.menu
  | .silent => c
  | .sleep .light timeSec =>
    { c.sleep .light timeSec with cause := .timer, armed := some timeSec }.say
      (formatInt Format.sleptFor.text.toList (sleptSeconds nap).toInt32.toInt ++ ">>> ".toList)
  | .sleep .deep timeSec => (c.sleep .deep timeSec).boot .timer (c.boots + 1)

def consoleStep (c : Console) : Input → Console
  | .reset => c.boot .undefined 0
  | .poll .idle => c
  | .poll (.rx key nap) =>
    if isEnd key then
      if c.line = [] then c
      else
        let c := { c.say "\r\n".toList with lines := c.lines ++ [c.line] }
        { c.answer (interpret c.line) nap with line := [] }
    else if isErase key then
      if c.line = [] then c
      else { c.say "\x08 \x08".toList with line := c.line.dropLast }
    else { c.say (output (echoEvents key)) with line := c.line ++ [key] }

/-- The console as it is switched on. -/
def Console.on : Console := Console.boot .undefined 0 ⟨[], [], 0, .undefined, none, [], []⟩

def console (inputs : List Input) : Console := Runs.run consoleStep Console.on inputs

/-! ## What the device shows of it -/

/-- The device is where the console is, and everything seen of it so far is what
was to be seen of the console. -/
structure Realizes (d : Device) (c : Console) : Prop where
  board  : d.board = c.board
  line   : d.inputBuffer = c.line
  lines  : commands d.log = c.lines
  text   : output d.log = c.text
  sleeps : sleeps d.log = c.sleeps

theorem output_append (l m : List Event) : output (l ++ m) = output l ++ output m :=
  List.flatMap_append

/-- Events that leave the board alone are the text that they print. -/
theorem Realizes.emit {d : Device} {c : Console} (h : Realizes d c) (d' : Device)
    {events : List Event} {text : List Char} (hboard : d'.board = d.board)
    (hline : d'.inputBuffer = d.inputBuffer) (hlog : d'.log = d.log ++ events)
    (htext : output events = text) (hlines : commands events = [])
    (hsleeps : YoloUno.sleeps events = []) : Realizes d' (c.say text) := by
  refine ⟨hboard.trans h.board, hline.trans h.line, ?_, ?_, ?_⟩
  · rw [hlog, commands_append, hlines, List.append_nil, h.lines]
    rfl
  · rw [hlog, output_append, h.text, htext]
    rfl
  · rw [hlog, sleeps_append, hsleeps, List.append_nil, h.sleeps]
    rfl

/-! ## A start -/

/-- A board as a reset leaves it, with nothing held but D13. -/
structure FromReset (b : Board) : Prop where
  pads  : ∀ n, n ≠ ledD13Pin → b.pads n = Pad.reset
  timer : b.timerWakeup = none

/-- The pads after a start: those of the two LEDs are set anew, but for a hold
of the pixel's, and no other is touched. -/
theorem pads_ready (d : Device) (n : Nat) :
    (ready d).board.pads n =
      if n = ledD13Pin then ⟨true, false, none⟩
      else if n = neoPin then ⟨true, false, (d.board.pads n).hold⟩ else d.board.pads n := by
  by_cases hled : n = ledD13Pin
  · subst hled
    rfl
  by_cases hneo : n = neoPin
  · subst hneo
    rfl
  have hpins : ledD13Pin ≠ neoPin := by decide
  rw [if_neg hled, if_neg hneo]
  simp [ready, ledActiveMode, ledBlinkReset, blinkRed, stripShow, stripSetPixelColor,
    stripSetBrightness, stripBegin, gpioDeepSleepHoldDis, gpioHoldDis, gpioSetDirectionOutput,
    gpioSetLevel, gpioResetPin, serialPrintln, Board.mapPad, hled, hneo, hpins]

/-- A start builds the board of the console from the cause and the count. -/
theorem board_ready {d : Device} {c : Console} (h : FromReset d.board)
    (hcause : d.board.wakeupCause = c.cause) (hcount : d.board.bootCount = Int32.ofNat c.boots)
    (harmed : c.armed = none) : (ready d).board = c.board := by
  have hpads : (ready d).board.pads = c.board.pads := by
    funext n
    rw [pads_ready]
    show _ = if n = neoPin ∨ n = ledD13Pin then _ else _
    by_cases hled : n = ledD13Pin
    · simp [hled]
    rw [h.pads n hled]
    by_cases hneo : n = neoPin
    · simp [hneo, Pad.reset]
    · simp [hled, hneo]
  have htimer : (ready d).board.timerWakeup = c.board.timerWakeup := by
    show d.board.timerWakeup = _
    rw [h.timer, Console.board, harmed]
    rfl
  show (⟨(ready d).board.pads, false, ⟨true, 50, green, some (green, 50)⟩,
    (ready d).board.timerWakeup, d.board.wakeupCause, d.board.bootCount⟩ : Board) = _
  rw [hpads, htimer, hcause, hcount]
  rfl

theorem realizes_start {d : Device} {c : Console} {cause : WakeupCause} {boots : Nat}
    (h : FromReset d.board) (hcause : d.board.wakeupCause = cause)
    (hcount : d.board.bootCount = Int32.ofNat boots) (hclear : Cleared d.board)
    (hline : d.inputBuffer = []) (hlines : commands d.log = c.lines)
    (htext : output d.log = c.text) (hsleeps : sleeps d.log = c.sleeps) :
    Realizes (start d) (c.boot cause boots) := by
  set e : Console := { c with line := [], boots := boots, cause := cause, armed := none } with he
  have hready : (ready d).board = e.board := board_ready h hcause hcount rfl
  have hmenu : menuCount (ready d).board = (ready d).board.bootCount :=
    menuCount_of_cleared (b := (ready d).board) hclear
  refine ⟨?_, (start_inputBuffer d).trans hline, ?_, ?_, ?_⟩
  · rw [start_eq, printMenu_eq, hmenu]
    exact hready
  · rw [start_log, commands_append, hlines]
    exact List.append_nil _
  · rw [start_log, output_append, htext, output_append, hready]
    rfl
  · rw [start_log, sleeps_append, hsleeps]
    exact List.append_nil _

/-! ## One line -/

theorem realizes_printMenu {d : Device} {c : Console} (h : Realizes d c)
    (hclear : Cleared d.board) : Realizes (printMenu d) (c.say c.menu) := by
  have hlog : (printMenu d).log = d.log ++ menuEvents d.board := by rw [printMenu_eq]
  have hboard : (printMenu d).board = d.board := by
    rw [printMenu_eq, menuCount_of_cleared hclear]
  have hline : (printMenu d).inputBuffer = d.inputBuffer := by rw [printMenu_eq]
  have hsaid := h.emit (printMenu d) hboard hline hlog rfl rfl rfl
  rw [h.board] at hsaid
  exact hsaid

/-- The pads at the call of a sleep. -/
theorem pads_sleepBoard (kind : SleepKind) (timeSec : UInt32) (d : Device) (n : Nat) :
    (sleepBoard kind timeSec d).pads n =
      if n = ledD13Pin then ⟨true, true, some ((d.board.pads n).hold.getD .high)⟩
      else if n = neoPin then { d.board.pads n with output := false } else d.board.pads n := by
  by_cases hled : n = ledD13Pin
  · subst hled
    cases kind <;> rfl
  by_cases hneo : n = neoPin
  · subst hneo
    cases kind <;> rfl
  have hpins : ledD13Pin ≠ neoPin := by decide
  rw [if_neg hled, if_neg hneo]
  cases kind <;>
    simp [sleepBoard, lightSleepSetup, enterDeepSleep, espDeepSleepStart, ledSleepModeSetup,
      stripShow, stripSetPixelColor, espSleepEnableTimerWakeup, gpioDeepSleepHoldEn, gpioHoldEn,
      gpioSetDirectionOutput, gpioSetLevel, gpioResetPin, serialPrintln, serialPrintf,
      Board.mapPad, hled, hneo, hpins]

/-- The board at the call of a sleep is the console's. -/
theorem sleepBoard_of_realizes {d : Device} {c : Console} (h : d.board = c.board)
    (kind : SleepKind) (timeSec : UInt32) : sleepBoard kind timeSec d = c.asleep kind timeSec := by
  have hpads : (sleepBoard kind timeSec d).pads = (c.asleep kind timeSec).pads := by
    funext n
    rw [pads_sleepBoard, h]
    show _ = if n = ledD13Pin then _ else if n = neoPin then _ else _
    by_cases hled : n = ledD13Pin
    · simp [hled, Console.board]
    by_cases hneo : n = neoPin
    · simp [hneo, Console.board]
    · simp [hled, hneo, Console.board]
  cases kind with
  | light =>
    show (⟨(sleepBoard .light timeSec d).pads, d.board.deepSleepHold,
      ⟨false, d.board.strip.brightness, off, some (off, d.board.strip.brightness)⟩,
      some (timeSec.toUInt64 * 1000000), d.board.wakeupCause, d.board.bootCount⟩ : Board) = _
    rw [hpads, h]
    rfl
  | deep =>
    have hcount : Int32.ofNat c.boots + 1 = Int32.ofNat (c.boots + 1) := by
      apply Int32.toBitVec_inj.mp
      exact (BitVec.ofNat_add c.boots 1).symm
    show (⟨(sleepBoard .deep timeSec d).pads, true,
      ⟨false, d.board.strip.brightness, off, some (off, d.board.strip.brightness)⟩,
      some (timeSec.toUInt64 * 1000000), d.board.wakeupCause, d.board.bootCount + 1⟩ : Board) = _
    rw [hpads, h]
    show (⟨_, _, _, _, _, Int32.ofNat c.boots + 1⟩ : Board) = _
    rw [hcount]
    rfl

/-- The pads after a light sleep, from those at its call. -/
theorem pads_enterLightSleep (timeSec : UInt32) (nap : Nap) (d : Device) (n : Nat) :
    (enterLightSleep timeSec nap d).board.pads n =
      if n = ledD13Pin then ⟨((sleepBoard .light timeSec d).pads n).output, false, none⟩
      else if n = neoPin then ⟨true, false, ((sleepBoard .light timeSec d).pads n).hold⟩
      else (sleepBoard .light timeSec d).pads n := by
  by_cases hled : n = ledD13Pin
  · subst hled
    rfl
  by_cases hneo : n = neoPin
  · subst hneo
    rfl
  rw [if_neg hled, if_neg hneo]
  simp [sleepBoard, enterLightSleep, espLightSleepStart, ledActiveMode, stripShow,
    stripSetPixelColor, stripSetBrightness, stripBegin, gpioHoldDis, gpioSetLevel, serialPrint,
    serialPrintf, Board.mapPad, hled, hneo]

theorem realizes_lightSleep {d : Device} {c : Console} (h : Realizes d c) (timeSec : UInt32)
    (nap : Nap) :
    Realizes (enterLightSleep timeSec nap d) (c.answer (.sleep .light timeSec) nap) := by
  have hasleep := sleepBoard_of_realizes h.board .light timeSec
  have hlog : (enterLightSleep timeSec nap d).log =
      d.log ++ commandEvents (.sleep .light timeSec) nap d :=
    execute_log (.sleep .light timeSec) nap d
  refine ⟨?_, h.line, ?_, ?_, ?_⟩
  · have hpads : (enterLightSleep timeSec nap d).board.pads = c.board.pads := by
      funext n
      rw [pads_enterLightSleep, hasleep]
      show _ = if n = neoPin ∨ n = ledD13Pin then _ else _
      by_cases hled : n = ledD13Pin
      · simp [hled, Console.asleep]
      by_cases hneo : n = neoPin
      · have hpins : neoPin ≠ ledD13Pin := by decide
        simp [hneo, hpins, Console.asleep]
      · simp [hled, hneo, Console.asleep]
    show (⟨(enterLightSleep timeSec nap d).board.pads, d.board.deepSleepHold,
      ⟨true, 50, green, some (green, 50)⟩, some (timeSec.toUInt64 * 1000000), .timer,
      d.board.bootCount⟩ : Board) = _
    rw [hpads, h.board]
    rfl
  · rw [hlog, commands_append, h.lines]
    exact List.append_nil _
  · rw [hlog, output_append, h.text]
    simp [Console.answer, Console.sleep, Console.say, commandEvents, announcement, output,
      Event.text]
  · rw [hlog, sleeps_append, h.sleeps]
    show c.sleeps ++ [(SleepKind.light, sleepBoard .light timeSec d)] = _
    rw [hasleep]
    rfl

/-- Asleep, only D13 is held. -/
theorem unheld_asleep (kind : SleepKind) (timeSec : UInt32) (c : Console) {n : Nat}
    (hn : n ≠ ledD13Pin) : ((c.asleep kind timeSec).pads n).hold = none := by
  show (if n = ledD13Pin then (⟨true, true, some .high⟩ : Pad)
    else if n = neoPin then ⟨false, false, none⟩ else Pad.reset).hold = none
  rw [if_neg hn]
  split <;> rfl

theorem realizes_deepSleep {d : Device} {c : Console} (h : Realizes d c) (timeSec : UInt32)
    (nap : Nap) :
    Realizes (start (enterDeepSleep timeSec d).deepSleepWake)
      (c.answer (.sleep .deep timeSec) nap) := by
  have hasleep : (enterDeepSleep timeSec d).board = c.asleep .deep timeSec :=
    sleepBoard_of_realizes h.board .deep timeSec
  have hlog : (enterDeepSleep timeSec d).log =
      d.log ++ commandEvents (.sleep .deep timeSec) nap d :=
    execute_log (.sleep .deep timeSec) nap d
  have hsame : (enterDeepSleep timeSec d).deepSleepWake.log =
      d.log ++ commandEvents (.sleep .deep timeSec) nap d ++ [.boot .timer] := by
    rw [← hlog]
    rfl
  refine realizes_start ⟨?_, rfl⟩ rfl ?_ ?_ rfl ?_ ?_ ?_
  · -- D13 alone was held over the reset
    intro n hn
    show ({ Pad.reset with hold := if (enterDeepSleep timeSec d).board.deepSleepHold then
      ((enterDeepSleep timeSec d).board.pads n).hold else none } : Pad) = _
    rw [hasleep, unheld_asleep .deep timeSec c hn, ite_self]
    rfl
  · show (enterDeepSleep timeSec d).board.bootCount = _
    rw [hasleep]
    rfl
  · intro hundefined
    have htimer : WakeupCause.timer = .undefined := hundefined
    exact absurd htimer (by decide)
  · rw [hsame, commands_append, commands_append, h.lines]
    simp [commands, commandEvents, Console.sleep, Console.say]
  · rw [hsame, output_append, output_append, h.text]
    simp [Console.sleep, Console.say, commandEvents, announcement, output, Event.text]
  · rw [hsame, sleeps_append, sleeps_append, h.sleeps]
    show c.sleeps ++ [(SleepKind.deep, (enterDeepSleep timeSec d).board)] ++ [] = _
    rw [hasleep, List.append_nil]
    rfl

/-- **The answer to a line**, by the device and by the console. -/
theorem realizes_settle_execute {d : Device} {c : Console} (h : Realizes d c)
    (hclear : Cleared d.board) (command : Command) (nap : Nap) :
    Realizes (settle (execute command nap d)) { c.answer command nap with line := [] } := by
  -- what returns is left with its line cleared
  have hcleared : ∀ {d : Device} {c : Console}, Realizes d c →
      Realizes { d with inputBuffer := [] } { c with line := [] } :=
    fun h => ⟨h.board, rfl, h.lines, h.text, h.sleeps⟩
  cases command with
  | prompt =>
    have hsaid : Realizes (serialPrint ">>> " d) (c.say ">>> ".toList) :=
      h.emit (serialPrint ">>> " d) rfl rfl rfl rfl rfl rfl
    exact hcleared hsaid
  | menu => exact hcleared (realizes_printMenu h hclear)
  | silent => exact hcleared h
  | sleep kind timeSec =>
    cases kind with
    | light => exact hcleared (realizes_lightSleep h timeSec nap)
    | deep => exact realizes_deepSleep h timeSec nap

/-! ## One input -/

theorem realizes_powerStep {d : Device} {c : Console} (h : Realizes d c)
    (hclear : Cleared d.board) (p : Poll) :
    Realizes (powerStep d p) (consoleStep c (.poll p)) := by
  refine powerStep_cases
    (motive := fun p d' => Realizes d' (consoleStep c (.poll p))) ?_ ?_ ?_ ?_ p
  · -- nothing is read, or nothing that changes an empty line
    intro p hquiet
    have hsilent : consoleStep c (.poll p) = c := by
      cases hquiet with
      | idle => rfl
      | blank key nap hkey hbuf =>
        have hnil : c.line = [] := h.line.symm.trans hbuf
        unfold consoleStep
        simp only [if_pos hnil]
        split
        · rfl
        · next hend =>
          rw [if_pos (hkey.resolve_left hend)]
    have hpolled : Realizes (polled d) (c.say []) :=
      h.emit (polled d) rfl rfl rfl rfl rfl rfl
    rw [hsilent]
    exact ⟨hpolled.board, hpolled.line, hpolled.lines,
      hpolled.text.trans (List.append_nil _), hpolled.sleeps⟩
  · intro key nap hend hbuf
    have hline : c.line ≠ [] := fun hnil => hbuf (h.line.trans hnil)
    have hlog : (serialPrintln "" (polled d)).log = d.log ++ [.poll d.board, .print "\r\n"] :=
      List.append_assoc d.log [_] [_]
    have hended : Realizes (serialPrintln "" (polled d)) (c.say "\r\n".toList) :=
      h.emit _ rfl rfl hlog rfl rfl rfl
    have hparse : Realizes (atParse d)
        { c.say "\r\n".toList with lines := c.lines ++ [c.line] } := by
      refine ⟨hended.board, hended.line, ?_, ?_, ?_⟩
      · rw [← h.lines, ← h.line, atParse_log, commands_append]
        rfl
      · show output (_ ++ [.parse d.inputBuffer]) = _
        rw [output_append, hended.text]
        exact List.append_nil _
      · show sleeps (_ ++ [.parse d.inputBuffer]) = _
        rw [sleeps_append, hended.sleeps]
        exact List.append_nil _
    have hanswered := realizes_settle_execute hparse hclear (interpret d.inputBuffer) nap
    show Realizes _ (if isEnd key then _ else _)
    rw [if_pos hend, if_neg hline]
    rw [h.line] at hanswered ⊢
    exact hanswered
  · intro key nap herase hbuf
    have hline : c.line ≠ [] := fun hnil => hbuf (h.line.trans hnil)
    have herased : Realizes (serialPrint "\x08 \x08" (polled d)) (c.say "\x08 \x08".toList) :=
      h.emit (serialPrint "\x08 \x08" (polled d)) rfl rfl (erased_log d) rfl rfl rfl
    show Realizes _ (if isEnd key then _ else if isErase key then _ else _)
    rw [not_isEnd_of_isErase herase, if_neg Bool.false_ne_true, if_pos herase, if_neg hline]
    exact ⟨herased.board, congrArg List.dropLast h.line, herased.lines, herased.text,
      herased.sleeps⟩
  · intro key nap hend herase
    have hstored : Realizes ⟨d.board, d.inputBuffer, (stored key d).log⟩
        (c.say (output (echoEvents key))) := by
      refine h.emit ⟨d.board, d.inputBuffer, (stored key d).log⟩ rfl rfl (stored_log key d)
        rfl ?_ ?_
      · unfold echoEvents
        split <;> rfl
      · unfold echoEvents
        split <;> rfl
    show Realizes _ (if isEnd key then _ else if isErase key then _ else _)
    rw [hend, if_neg Bool.false_ne_true, herase, if_neg Bool.false_ne_true]
    exact ⟨(stored_board key d).trans hstored.board, congrArg (· ++ [key]) h.line, hstored.lines,
      hstored.text, hstored.sleeps⟩

theorem realizes_powerUp {d : Device} {c : Console} (h : Realizes d c) :
    Realizes (powerUp d.log) (c.boot .undefined 0) := by
  refine realizes_start ⟨fun n _ => rfl, rfl⟩ rfl rfl (fun _ => rfl) rfl ?_ ?_ ?_
  · rw [commands_append, h.lines]
    exact List.append_nil _
  · rw [output_append, h.text]
    exact List.append_nil _
  · rw [sleeps_append, h.sleeps]
    exact List.append_nil _

/-! ## Whole runs -/

theorem realizes_life (inputs : List Input) : Realizes (life inputs) (console inputs) := by
  have hon : Realizes (powerUp []) Console.on :=
    realizes_start ⟨fun n _ => rfl, rfl⟩ rfl rfl (fun _ => rfl) rfl rfl rfl rfl
  have hboth : Realizes (life inputs) (console inputs) ∧ Cleared (life inputs).board := by
    refine @Runs.run_simulates _ _ lifeStep _ consoleStep
      (fun d c => Realizes d c ∧ Cleared d.board) _ _ ⟨hon, cleared_start _⟩ ?_ inputs
    intro d c i h
    refine ⟨?_, cleared_lifeStep h.2 i⟩
    cases i with
    | poll p => exact realizes_powerStep h.1 h.2 p
    | reset => exact realizes_powerUp h.1
  exact hboth.1

/--
**The device refines the console.** Over every run, with any resets in it, the
board at the polls is the one the console's boots, cause and time make, and
the line, the text on the serial line and the sleeps, with the board in each,
are the console's.
-/
theorem life_refines (inputs : List Input) :
    (life inputs).board = (console inputs).board ∧
      (life inputs).inputBuffer = (console inputs).line ∧
      output (life inputs).log = (console inputs).text ∧
      sleeps (life inputs).log = (console inputs).sleeps := by
  have h := realizes_life inputs
  exact ⟨h.board, h.line, h.text, h.sleeps⟩

/-! ## The console and its lines -/

/-- The sleep that a line asks for. -/
def sleepOf (line : Bytes) : Option (SleepKind × UInt32) :=
  match interpret line with
  | .sleep kind timeSec => some (kind, timeSec)
  | _ => none

def isDeep (line : Bytes) : Bool := (sleepOf line).any fun s => s.1 = .deep

/-- The sleeps with what was armed for each. -/
def armedSleeps (sleeps : List (SleepKind × Board)) : List (SleepKind × Option UInt64) :=
  sleeps.map fun s => (s.1, s.2.timerWakeup)

/-- The sleeps that lines ask for. -/
def askedSleeps (lines : List Bytes) : List (SleepKind × Option UInt64) :=
  lines.filterMap fun line =>
    (sleepOf line).map fun s => (s.1, some (s.2.toUInt64 * 1000000))

theorem armedSleeps_concat (sleeps : List (SleepKind × Board)) (kind : SleepKind) (b : Board) :
    armedSleeps (sleeps ++ [(kind, b)]) = armedSleeps sleeps ++ [(kind, b.timerWakeup)] :=
  List.map_append

theorem askedSleeps_append (lines lines' : List Bytes) :
    askedSleeps (lines ++ lines') = askedSleeps lines ++ askedSleeps lines' :=
  List.filterMap_append

/-! ## What a line adds -/

theorem lines_answer (command : Command) (nap : Nap) (c : Console) :
    (c.answer command nap).lines = c.lines := by
  cases command with
  | sleep kind timeSec => cases kind <;> rfl
  | _ => rfl

theorem boots_answer (line : Bytes) (nap : Nap) (c : Console) :
    (c.answer (interpret line) nap).boots = c.boots + [line].countP isDeep := by
  cases hcmd : interpret line with
  | sleep kind timeSec => cases kind <;> simp [isDeep, sleepOf, hcmd, Console.answer, Console.boot,
      Console.say, Console.sleep]
  | _ => simp [isDeep, sleepOf, hcmd, Console.answer, Console.say]

theorem sleeps_answer (line : Bytes) (nap : Nap) (c : Console) :
    armedSleeps (c.answer (interpret line) nap).sleeps =
      armedSleeps c.sleeps ++ askedSleeps [line] := by
  cases hcmd : interpret line with
  | sleep kind timeSec =>
    have hasked : askedSleeps [line] = [(kind, some (timeSec.toUInt64 * 1000000))] := by
      simp [askedSleeps, sleepOf, hcmd]
    rw [hasked]
    cases kind <;> exact armedSleeps_concat ..
  | _ =>
    have hnone : askedSleeps [line] = [] := by simp [askedSleeps, sleepOf, hcmd]
    rw [hnone, List.append_nil]
    rfl

/-! ## Sessions -/

def Input.poll? : Input → Option Poll
  | .poll p => some p
  | .reset => none

/-- What is polled from one reset to the next. -/
def sessions (inputs : List Input) : List (List Poll) :=
  (inputs.splitOnP fun i => i.poll?.isNone).map fun part => part.filterMap Input.poll?

/-- The lines that a session submits. -/
def linesOf (polls : List Poll) : List Bytes := submitted isErase isEnd (received polls)

theorem sessions_reset (inputs : List Input) :
    sessions (inputs ++ [.reset]) = sessions inputs ++ [[]] := by
  unfold sessions
  rw [splitOnP_concat_end rfl, List.map_append]
  rfl

theorem sessions_poll (inputs : List Input) (p : Poll) :
    sessions (inputs ++ [.poll p]) =
      (sessions inputs).dropLast ++ [(sessions inputs).getLastD [] ++ [p]] := by
  unfold sessions
  rw [splitOnP_concat_key rfl, List.map_append, List.map_dropLast, List.map_singleton,
    List.filterMap_append]
  cases List.eq_nil_or_concat (inputs.splitOnP fun i => i.poll?.isNone) with
  | inl hnil => rw [hnil]; rfl
  | inr hlast =>
    obtain ⟨init, part, hlast⟩ := hlast
    rw [hlast]
    simp [Input.poll?]

theorem sessions_eq_concat (inputs : List Input) :
    sessions inputs = (sessions inputs).dropLast ++ [(sessions inputs).getLastD []] := by
  have hne : sessions inputs ≠ [] := by
    unfold sessions
    rw [ne_eq, List.map_eq_nil_iff]
    exact List.splitOnP_ne_nil _ inputs
  rw [List.getLastD_eq_getLast?, List.getLast?_eq_some_getLast hne, Option.getD_some,
    List.dropLast_concat_getLast hne]

/-- A console whose past is in the lines of its sessions. -/
structure FromSessions (c : Console) (earlier : List (List Poll)) (last : List Poll) : Prop where
  lines  : c.lines = earlier.flatMap linesOf ++ linesOf last
  line   : c.line = pending isErase isEnd (received last)
  boots  : c.boots = (linesOf last).countP isDeep
  sleeps : armedSleeps c.sleeps = askedSleeps c.lines

theorem fromSessions_reset {c : Console} {earlier : List (List Poll)} {last : List Poll}
    (h : FromSessions c earlier last) :
    FromSessions (consoleStep c .reset) (earlier ++ [last]) [] := by
  refine ⟨?_, rfl, rfl, h.sleeps⟩
  show c.lines = _
  rw [h.lines, List.flatMap_append, List.flatMap_singleton]
  exact (List.append_nil _).symm

/-- A terminator submits the line, which is answered. -/
theorem fromSessions_end {c : Console} {earlier : List (List Poll)} {last : List Poll}
    (h : FromSessions c earlier last) {key : UInt8} (hend : isEnd key = true) (nap : Nap) :
    FromSessions (consoleStep c (.poll (.rx key nap))) earlier (last ++ [.rx key nap]) := by
  have hkey : received (last ++ [.rx key nap]) = received last ++ [key] :=
    received_append last [.rx key nap]
  have hpending : pending isErase isEnd (received last ++ [key]) = [] :=
    pending_concat_end hend _
  have hsubmitted : linesOf (last ++ [.rx key nap]) =
      if c.line = [] then linesOf last else linesOf last ++ [c.line] := by
    rw [linesOf, hkey, submitted_concat_end hend, ← h.line]
    rfl
  unfold consoleStep
  dsimp only
  rw [if_pos hend]
  by_cases hline : c.line = []
  · rw [if_pos hline] at hsubmitted ⊢
    refine ⟨?_, ?_, ?_, h.sleeps⟩
    · rw [hsubmitted]
      exact h.lines
    · rw [hkey, hpending, hline]
    · rw [hsubmitted]
      exact h.boots
  · rw [if_neg hline] at hsubmitted ⊢
    refine ⟨?_, ?_, ?_, ?_⟩
    · show (Console.answer _ _ _).lines = _
      rw [lines_answer, hsubmitted, ← List.append_assoc, ← h.lines]
    · rw [hkey, hpending]
    · show (Console.answer _ _ _).boots = _
      rw [boots_answer, hsubmitted, List.countP_append, ← h.boots]
      rfl
    · show armedSleeps (Console.answer _ _ _).sleeps = askedSleeps (Console.answer _ _ _).lines
      rw [sleeps_answer, lines_answer, askedSleeps_append, ← h.sleeps]
      rfl

/-- Any other key edits the line. -/
theorem FromSessions.edited {c c' : Console} {earlier : List (List Poll)} {last : List Poll}
    (h : FromSessions c earlier last) {key : UInt8} (hend : isEnd key = false) (nap : Nap)
    (hline : c'.line = edit isErase c.line key) (hlines : c'.lines = c.lines)
    (hboots : c'.boots = c.boots) (hsleeps : c'.sleeps = c.sleeps) :
    FromSessions c' earlier (last ++ [.rx key nap]) := by
  have hkey : received (last ++ [.rx key nap]) = received last ++ [key] :=
    received_append last [.rx key nap]
  have hsubmitted : linesOf (last ++ [.rx key nap]) = linesOf last := by
    rw [linesOf, hkey, submitted_concat_key hend]
    rfl
  refine ⟨?_, ?_, ?_, ?_⟩
  · rw [hlines, hsubmitted, h.lines]
  · rw [hline, hkey, pending_concat_key hend, ← h.line]
  · rw [hboots, hsubmitted, h.boots]
  · rw [hsleeps, hlines, h.sleeps]

theorem fromSessions_poll {c : Console} {earlier : List (List Poll)} {last : List Poll}
    (h : FromSessions c earlier last) (p : Poll) :
    FromSessions (consoleStep c (.poll p)) earlier (last ++ [p]) := by
  cases p with
  | idle =>
    have hsame : received (last ++ [.idle]) = received last :=
      (received_append last [.idle]).trans (List.append_nil _)
    refine ⟨?_, ?_, ?_, h.sleeps⟩
    · rw [linesOf, hsame]
      exact h.lines
    · rw [hsame]
      exact h.line
    · rw [linesOf, hsame]
      exact h.boots
  | rx key nap =>
    cases hend : isEnd key with
    | true => exact fromSessions_end h hend nap
    | false =>
      unfold consoleStep
      dsimp only
      rw [hend, if_neg Bool.false_ne_true]
      cases herase : isErase key with
      | true =>
        rw [if_pos rfl]
        by_cases hline : c.line = []
        · rw [if_pos hline]
          refine h.edited hend nap ?_ rfl rfl rfl
          rw [edit_erase herase, hline]
          rfl
        · rw [if_neg hline]
          exact h.edited hend nap (edit_erase herase _).symm rfl rfl rfl
      | false =>
        rw [if_neg Bool.false_ne_true]
        exact h.edited hend nap (edit_keep herase _).symm rfl rfl rfl

theorem fromSessions_console (inputs : List Input) :
    FromSessions (console inputs) (sessions inputs).dropLast ((sessions inputs).getLastD []) := by
  induction inputs using List.reverseRecOn with
  | nil => exact ⟨rfl, rfl, rfl, rfl⟩
  | append_singleton inputs i ih =>
    rw [console, Runs.run_concat, ← console]
    cases i with
    | poll p =>
      rw [sessions_poll, List.dropLast_concat, List.getLastD_concat]
      exact fromSessions_poll ih p
    | reset =>
      rw [sessions_reset, List.dropLast_concat, List.getLastD_concat, sessions_eq_concat]
      exact fromSessions_reset ih

/--
**What a life of lines amounts to.** Across all the sleeps, reboots and resets
in it, the sleeps called and the times armed for them are those that the lines
submitted in its sessions ask for, in their order, and the boot count is the
number of deep sleeps among the lines of the last session.
-/
theorem life_sleeps (inputs : List Input) :
    armedSleeps (sleeps (life inputs).log) = askedSleeps ((sessions inputs).flatMap linesOf) ∧
      (life inputs).board.bootCount =
        Int32.ofNat ((linesOf ((sessions inputs).getLastD [])).countP isDeep) := by
  have hrealizes := realizes_life inputs
  have hfrom := fromSessions_console inputs
  have hlines : (console inputs).lines = (sessions inputs).flatMap linesOf := by
    rw [sessions_eq_concat inputs, List.flatMap_append, List.flatMap_singleton]
    simpa using hfrom.lines
  rw [hrealizes.sleeps, hrealizes.board, ← hlines]
  exact ⟨hfrom.sleeps, congrArg Int32.ofNat hfrom.boots⟩

end YoloUno
