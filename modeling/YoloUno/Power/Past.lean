import YoloUno.Power.Command

/-!
# The task never looks back

The log is written and never read: a device with another past does the same
(`lifeStep_behind`). So what an input does depends on the board and the buffer
alone, and two devices that agree in these (`Alike`) go on alike, with the
same events.
-/

namespace YoloUno

/-- The device with more events before those of its log. -/
def Device.behind (past : List Event) (d : Device) : Device := { d with log := past ++ d.log }

theorem eq_behind {past : List Event} {d e : Device} (hboard : e.board = d.board)
    (hbuf : e.inputBuffer = d.inputBuffer) (hlog : e.log = past ++ d.log) : e = d.behind past := by
  obtain ⟨board, buffer, log⟩ := e
  simp only at hboard hbuf hlog
  subst hboard hbuf hlog
  rfl

/-- A device is one without a past, behind its log. -/
theorem eq_behind_log (d : Device) : d = Device.behind d.log ⟨d.board, d.inputBuffer, []⟩ :=
  eq_behind rfl rfl (List.append_nil _).symm

section
variable (past : List Event) (d : Device)

@[simp] theorem behind_board : (d.behind past).board = d.board := rfl
@[simp] theorem behind_inputBuffer : (d.behind past).inputBuffer = d.inputBuffer := rfl

theorem emit_behind (e : Event) : (d.behind past).emit e = (d.emit e).behind past := by
  unfold Device.behind Device.emit
  rw [List.append_assoc]

theorem onBoard_behind (f : Board → Board) :
    (d.behind past).onBoard f = (d.onBoard f).behind past := rfl

theorem stripShow_behind : stripShow (d.behind past) = (stripShow d).behind past := by
  unfold stripShow
  dsimp only
  rw [behind_board, onBoard_behind, emit_behind]

theorem espLightSleepStart_behind :
    espLightSleepStart (d.behind past) = (espLightSleepStart d).behind past := by
  unfold espLightSleepStart
  rw [behind_board, emit_behind, onBoard_behind]

theorem espDeepSleepStart_behind :
    espDeepSleepStart (d.behind past) = (espDeepSleepStart d).behind past :=
  emit_behind past d _

theorem deepSleepWake_behind : (d.behind past).deepSleepWake = d.deepSleepWake.behind past := by
  unfold Device.deepSleepWake Device.behind
  rw [List.append_assoc]

theorem printMenu_behind : printMenu (d.behind past) = (printMenu d).behind past := by
  rw [printMenu_eq, printMenu_eq]
  unfold Device.behind
  rw [List.append_assoc]

theorem ledSleepModeSetup_behind :
    ledSleepModeSetup (d.behind past) = (ledSleepModeSetup d).behind past := by
  simp only [ledSleepModeSetup, stripSetPixelColor, gpioResetPin, gpioSetDirectionOutput,
    gpioSetLevel, onBoard_behind, stripShow_behind]

theorem ledActiveMode_behind :
    ledActiveMode (d.behind past) = (ledActiveMode d).behind past := by
  simp only [ledActiveMode, gpioSetLevel, stripSetPixelColor, onBoard_behind, stripShow_behind]

theorem blinkRed_behind : blinkRed (d.behind past) = (blinkRed d).behind past := by
  simp only [blinkRed, stripSetPixelColor, onBoard_behind, stripShow_behind]

theorem start_behind : start (d.behind past) = (start d).behind past := by
  simp only [start, taskPowerDemoInit, serialPrintln, gpioResetPin, gpioSetDirectionOutput,
    gpioHoldDis, gpioDeepSleepHoldDis, stripBegin, stripSetBrightness, ledBlinkReset,
    emit_behind, onBoard_behind, blinkRed_behind, ledActiveMode_behind, printMenu_behind]

theorem enterLightSleep_behind (timeSec : UInt32) (nap : Nap) :
    enterLightSleep timeSec nap (d.behind past) = (enterLightSleep timeSec nap d).behind past := by
  simp only [enterLightSleep, lightSleepSetup, serialPrintf, serialPrintln, serialPrint,
    gpioHoldEn, gpioHoldDis, espSleepEnableTimerWakeup, stripBegin, stripSetBrightness,
    emit_behind, onBoard_behind, ledSleepModeSetup_behind, espLightSleepStart_behind,
    ledActiveMode_behind]

theorem enterDeepSleep_behind (timeSec : UInt32) :
    enterDeepSleep timeSec (d.behind past) = (enterDeepSleep timeSec d).behind past := by
  simp only [enterDeepSleep, serialPrintf, serialPrintln, gpioHoldEn, gpioDeepSleepHoldEn,
    espSleepEnableTimerWakeup, emit_behind, onBoard_behind, ledSleepModeSetup_behind,
    espDeepSleepStart_behind]

theorem atParse_behind : atParse (d.behind past) = (atParse d).behind past := by
  simp only [atParse, polled, serialPrintln, behind_board, behind_inputBuffer, emit_behind]

theorem settle_execute_behind (command : Command) (nap : Nap) :
    settle (execute command nap (d.behind past)) =
      (settle (execute command nap d)).behind past := by
  cases command with
  | prompt =>
    show { serialPrint ">>> " (d.behind past) with inputBuffer := [] } = _
    rw [serialPrint, emit_behind]
    rfl
  | menu =>
    show { printMenu (d.behind past) with inputBuffer := [] } = _
    rw [printMenu_behind]
    rfl
  | silent => rfl
  | sleep kind timeSec =>
    cases kind with
    | light =>
      show { enterLightSleep timeSec nap (d.behind past) with inputBuffer := [] } = _
      rw [enterLightSleep_behind]
      rfl
    | deep =>
      show start (enterDeepSleep timeSec (d.behind past)).deepSleepWake = _
      rw [enterDeepSleep_behind, deepSleepWake_behind, start_behind]
      rfl

/-- **The task never looks back**: with another past it does the same. -/
theorem powerStep_behind (p : Poll) :
    powerStep (d.behind past) p = (powerStep d p).behind past := by
  refine powerStep_cases
    (motive := fun p d' => powerStep (d.behind past) p = d'.behind past) ?_ ?_ ?_ ?_ p
  · intro p hquiet
    have hquiet' : Quiet (d.behind past) p := by
      cases hquiet with
      | idle => exact .idle
      | blank c nap hkey hbuf => exact .blank c nap hkey hbuf
    rw [powerStep_quiet hquiet', polled, behind_board, emit_behind]
    rfl
  · intro c nap hend hbuf
    rw [powerStep_submit nap hend (by simpa using hbuf), behind_inputBuffer, atParse_behind,
      settle_execute_behind]
  · intro c nap herase hbuf
    rw [powerStep_erase nap herase (by simpa using hbuf)]
    refine eq_behind rfl rfl ?_
    rw [erased_log, erased_log, ← List.append_assoc]
    rfl
  · intro c nap hend herase
    rw [powerStep_store nap hend herase]
    refine eq_behind ?_ rfl ?_
    · rw [stored_board, stored_board]
      rfl
    · rw [stored_log, stored_log, ← List.append_assoc]
      rfl

theorem powerUp_behind (log : List Event) :
    powerUp (past ++ log) = (powerUp log).behind past := by
  unfold powerUp
  rw [← start_behind, List.append_assoc]
  rfl

theorem lifeStep_behind (i : Input) :
    lifeStep (d.behind past) i = (lifeStep d i).behind past := by
  cases i with
  | poll p => exact powerStep_behind past d p
  | reset => exact powerUp_behind past d.log

end

/-- The devices agree in everything but their past. -/
structure Alike (d e : Device) : Prop where
  board       : d.board = e.board
  inputBuffer : d.inputBuffer = e.inputBuffer

/-- What the input `i` leaves on the log of `d`. -/
def turnEvents (d : Device) (i : Input) : List Event := (lifeStep d i).log.drop d.log.length

/-- **One input on two devices that are alike**: they stay alike, and the same
things happen on both. -/
theorem Alike.lifeStep {d e : Device} (h : Alike d e) (i : Input) :
    Alike (lifeStep d i) (lifeStep e i) ∧ turnEvents d i = turnEvents e i := by
  -- both are the same device without a past, behind the past of each
  set bare : Device := ⟨d.board, d.inputBuffer, []⟩
  have hd : d = bare.behind d.log := eq_behind_log d
  have he : e = bare.behind e.log :=
    eq_behind h.board.symm h.inputBuffer.symm (List.append_nil _).symm
  have hevents : ∀ past, turnEvents (bare.behind past) i = (YoloUno.lifeStep bare i).log := by
    intro past
    have hlength : (bare.behind past).log.length = past.length := by simp [Device.behind, bare]
    rw [turnEvents, lifeStep_behind, hlength]
    exact List.drop_left
  rw [hd, he, hevents, hevents, lifeStep_behind, lifeStep_behind]
  exact ⟨⟨rfl, rfl⟩, rfl⟩

/-- The log only ever grows. -/
theorem lifeStep_log (d : Device) (i : Input) : (lifeStep d i).log = d.log ++ turnEvents d i := by
  obtain ⟨rest, hrest⟩ : d.log <+: (lifeStep d i).log := by
    rw [eq_behind_log d, lifeStep_behind]
    exact ⟨_, congrArg (· ++ _) (List.append_nil _)⟩
  rw [turnEvents, ← hrest, List.drop_left]

end YoloUno
