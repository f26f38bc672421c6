import YoloUno.Power.Command

/-!
# The LED legend

The menu explains the LEDs: red blinks three times at start-up, green while
the task runs, D13 on while the board sleeps. `led_legend` says that every
run keeps to it, with any number and order of light sleeps and of deep
sleeps, whose pad holds survive the reboot.

The invariant behind it is `Active`, the board as it is whenever the loop
goes round. It is all a turn needs: a start establishes it from any board
whatever (`active_ready`), and both sleeps reach their call `Asleep` from it.
-/

namespace YoloUno

-- ---------------------------------------------------------------------------
-- The two states of the LEDs
-- ---------------------------------------------------------------------------

/-- D13 is an unheld output driving low, the deep-sleep hold is disabled, and
the NeoPixel, begun after the last reset of its pin, shows green. -/
structure Active (b : Board) : Prop where
  output     : (b.pads ledD13Pin).output = true
  unheld     : (b.pads ledD13Pin).hold = none
  low        : (b.pads ledD13Pin).drive = .low
  deepHold   : b.deepSleepHold = false
  pinReady   : b.strip.pinReady = true
  brightness : b.strip.brightness = 50
  shown      : b.strip.shown = some (green, 50)

/-- D13 is an output held high, the NeoPixel is off and its pin reset, and the
deep-sleep hold is enabled for a deep sleep only. -/
structure Asleep (kind : SleepKind) (b : Board) : Prop where
  output   : (b.pads ledD13Pin).output = true
  held     : (b.pads ledD13Pin).hold.isSome = true
  high     : (b.pads ledD13Pin).drive = .high
  deepHold : b.deepSleepHold = true ↔ kind = .deep
  pinReset : b.strip.pinReady = false
  shown    : ∃ brightness, b.strip.shown = some (off, brightness)

/-- A start lights the LEDs, whatever the board was like before. -/
theorem active_ready (d : Device) : Active (ready d).board :=
  ⟨rfl, rfl, rfl, rfl, rfl, rfl, rfl⟩

/-- The boot count has no part in it. -/
theorem Active.setBootCount {b : Board} (h : Active b) (count : Int32) :
    Active { b with bootCount := count } :=
  ⟨h.output, h.unheld, h.low, h.deepHold, h.pinReady, h.brightness, h.shown⟩

theorem active_printMenu {d : Device} (h : Active d.board) : Active (printMenu d).board := by
  rw [printMenu_eq]
  exact h.setBootCount _

theorem active_start (d : Device) : Active (start d).board := by
  rw [start_eq]
  exact active_printMenu (active_ready d)

/-- A light sleep comes back to green: only the deep-sleep hold is left as it
was found, every other part is set anew. -/
theorem active_enterLightSleep {d : Device} (h : Active d.board) (timeSec : UInt32)
    (nap : Nap) : Active (enterLightSleep timeSec nap d).board :=
  ⟨rfl, rfl, rfl, h.deepHold, rfl, rfl, rfl⟩

/-- The hold that `gpio_hold_en` sets latches the high level because the pad
was not held before: `led_sleep_mode_setup` writes to its registers only. -/
theorem hold_sleepBoard {d : Device} (h : Active d.board) (kind : SleepKind)
    (timeSec : UInt32) : ((sleepBoard kind timeSec d).pads ledD13Pin).hold = some .high := by
  have hunheld := h.unheld
  cases kind with
  | light =>
    show some (((d.board.pads ledD13Pin).hold).getD .high) = some .high
    rw [hunheld]
    rfl
  | deep =>
    show some (((d.board.pads ledD13Pin).hold).getD .high) = some .high
    rw [hunheld]
    rfl

theorem asleep_sleepBoard {d : Device} (h : Active d.board) (kind : SleepKind)
    (timeSec : UInt32) : Asleep kind (sleepBoard kind timeSec d) := by
  have hhold := hold_sleepBoard h kind timeSec
  have hhigh : ((sleepBoard kind timeSec d).pads ledD13Pin).drive = .high := by
    unfold Pad.drive
    rw [hhold]
    rfl
  have hheld : ((sleepBoard kind timeSec d).pads ledD13Pin).hold.isSome = true := by
    rw [hhold]
    rfl
  cases kind with
  | light =>
    have hdeep : (sleepBoard .light timeSec d).deepSleepHold = false := h.deepHold
    exact ⟨rfl, hheld, hhigh, by simp [hdeep], rfl, _, rfl⟩
  | deep =>
    have hdeep : (sleepBoard .deep timeSec d).deepSleepHold = true := rfl
    exact ⟨rfl, hheld, hhigh, by simp [hdeep], rfl, _, rfl⟩

-- ---------------------------------------------------------------------------
-- One turn of the loop
-- ---------------------------------------------------------------------------

/-- What a turn may put on the log behind its poll, short of a reboot. -/
def Event.Within : Event → Prop
  | .boot _ => False
  | .poll _ => False
  | .show color _ => color ≠ red
  | .sleep kind b => Asleep kind b
  | _ => True

theorem menuEvents_within (b : Board) : ∀ e ∈ menuEvents b, e.Within := by
  simp [menuEvents, menuHead, menuTail, Event.Within]

theorem commandEvents_within {d : Device} (h : Active d.board) (command : Command) (nap : Nap) :
    ∀ e ∈ commandEvents command nap d, e.Within := by
  have hgreen : green ≠ red := by decide
  have hoff : off ≠ red := by decide
  cases command with
  | prompt => simp [commandEvents, Event.Within]
  | menu => exact menuEvents_within d.board
  | silent => simp [commandEvents]
  | sleep kind timeSec =>
    have hasleep := asleep_sleepBoard h kind timeSec
    cases kind with
    | light => simp [commandEvents, Event.Within, hasleep, hgreen, hoff]
    | deep => simp [commandEvents, Event.Within, hasleep, hoff]

theorem active_settle_execute {d : Device} (h : Active d.board) (command : Command) (nap : Nap) :
    Active (settle (execute command nap d)).board := by
  cases command with
  | prompt => exact h
  | menu =>
    show Active (printMenu d).board
    exact active_printMenu h
  | silent =>
    show Active d.board
    exact h
  | sleep kind timeSec =>
    cases kind with
    | light =>
      show Active (enterLightSleep timeSec nap d).board
      exact active_enterLightSleep h timeSec nap
    | deep =>
      show Active (start (enterDeepSleep timeSec d).deepSleepWake).board
      exact active_start _

theorem active_powerStep {d : Device} (h : Active d.board) (p : Poll) :
    Active (powerStep d p).board := by
  refine powerStep_cases (motive := fun _ d' => Active d'.board) ?_ ?_ ?_ ?_ p
  · intro _ _
    exact h
  · intro c nap _ _
    exact active_settle_execute (d := atParse d) h _ nap
  · intro _ _ _ _
    exact h
  · intro c nap _ _
    rw [stored_board]
    exact h

/-- **One turn on the log**: the poll, events that keep to the legend, and the
reboot if there was a deep sleep. -/
theorem powerStep_within {d : Device} (h : Active d.board) (p : Poll) :
    ∃ events o, (∀ e ∈ events, e.Within) ∧
      (powerStep d p).log = d.log ++ (.poll d.board :: events ++ settleEvents o) := by
  refine powerStep_cases (motive := fun _ d' => ∃ events o, (∀ e ∈ events, e.Within) ∧
    d'.log = d.log ++ (.poll d.board :: events ++ settleEvents o)) ?_ ?_ ?_ ?_ p
  · intro _ _
    exact ⟨[], .returned d, by simp, rfl⟩
  · intro c nap _ _
    refine ⟨[.print "\r\n", .parse d.inputBuffer] ++
      commandEvents (interpret d.inputBuffer) nap (atParse d),
      execute (interpret d.inputBuffer) nap (atParse d), ?_, ?_⟩
    · intro e he
      rcases List.mem_append.mp he with he | he
      · simp only [List.mem_cons, List.not_mem_nil, or_false] at he
        rcases he with rfl | rfl <;> exact trivial
      · exact commandEvents_within (d := atParse d) h _ nap e he
    · rw [settle_execute_log]
      rfl
  · intro c nap _ _
    exact ⟨[.print "\x08 \x08"], .returned d, by simp [Event.Within], erased_log d⟩
  · intro c nap _ _
    refine ⟨echoEvents c, .returned d, ?_, ?_⟩
    · unfold echoEvents
      split <;> simp [Event.Within]
    · rw [stored_log, settleEvents, List.append_nil]

-- ---------------------------------------------------------------------------
-- The events of one boot
-- ---------------------------------------------------------------------------

def Event.isBoot : Event → Bool
  | .boot _ => true
  | _ => false

def Event.isPoll : Event → Bool
  | .poll _ => true
  | _ => false

/-- The colours shown, in order. -/
def colors (log : List Event) : List Rgb :=
  log.filterMap fun
    | .show color _ => some color
    | _ => none

/-- What happens before the first poll, and from it on. -/
def startup (boot : List Event) : List Event := boot.takeWhile fun e => !e.isPoll
def running (boot : List Event) : List Event := boot.dropWhile fun e => !e.isPoll

/-- Three red blinks and then green before the first poll; no red after it. -/
structure Legend (boot : List Event) : Prop where
  startup : colors (startup boot) = [red, off, red, off, red, off, green]
  running : red ∉ colors (running boot)

theorem colors_append (l m : List Event) : colors (l ++ m) = colors l ++ colors m :=
  List.filterMap_append

theorem isBoot_of_within {e : Event} (h : e.Within) : e.isBoot = false := by
  cases e with
  | boot => exact h.elim
  | _ => rfl

theorem isPoll_of_within {e : Event} (h : e.Within) : e.isPoll = false := by
  cases e with
  | poll => exact h.elim
  | _ => rfl

theorem red_not_mem_of_within {events : List Event} (h : ∀ e ∈ events, e.Within) :
    red ∉ colors events := by
  intro hred
  obtain ⟨e, he, hcolor⟩ := List.mem_filterMap.mp hred
  cases e with
  | «show» color brightness => exact h _ he (Option.some.inj hcolor)
  | _ => exact absurd hcolor (by simp)

theorem startup_append (boot events : List Event) (b : Board) :
    startup (boot ++ .poll b :: events) = startup boot := by
  -- an event of `boot` that is a poll ends both sides at the same place
  induction boot with
  | nil => rfl
  | cons e boot ih =>
    unfold startup at *
    rw [List.cons_append, List.takeWhile_cons, List.takeWhile_cons, ih]

theorem running_append (boot events : List Event) (b : Board) :
    running (boot ++ .poll b :: events) = running boot ++ .poll b :: events := by
  induction boot with
  | nil => rfl
  | cons e boot ih =>
    unfold running at *
    rw [List.cons_append, List.dropWhile_cons, List.dropWhile_cons, ih]
    split <;> rfl

/-- A turn that stays in a boot keeps to its legend. -/
theorem Legend.turn {boot events : List Event} (h : Legend boot) (b : Board)
    (hevents : ∀ e ∈ events, e.Within) : Legend (boot ++ .poll b :: events) := by
  have hred : red ∉ colors events := red_not_mem_of_within hevents
  refine ⟨by rw [startup_append]; exact h.startup, ?_⟩
  rw [running_append, colors_append, List.mem_append, not_or]
  exact ⟨h.running, hred⟩

theorem isPoll_readyEvents : ∀ e ∈ readyEvents, e.isPoll = false := by
  simp [readyEvents, Event.isPoll]

theorem isBoot_readyEvents : ∀ e ∈ readyEvents, e.isBoot = false := by
  simp [readyEvents, Event.isBoot]

/-- What `setup` and the start of the task leave, with the menu of any board. -/
theorem legend_start (b : Board) : Legend (readyEvents ++ menuEvents b) := by
  have hmenu : ∀ e ∈ menuEvents b, e.isPoll = false :=
    fun e he => isPoll_of_within (menuEvents_within b e he)
  have hnone : ∀ e ∈ readyEvents ++ menuEvents b, e.isPoll = false := by
    intro e he
    rcases List.mem_append.mp he with he | he
    · exact isPoll_readyEvents e he
    · exact hmenu e he
  have hstartup : startup (readyEvents ++ menuEvents b) = readyEvents ++ menuEvents b :=
    List.takeWhile_eq_self_iff.mpr fun e he => by rw [hnone e he]; rfl
  have hrunning : running (readyEvents ++ menuEvents b) = [] :=
    List.dropWhile_eq_nil_iff.mpr fun e he => by rw [hnone e he]; rfl
  refine ⟨?_, by rw [hrunning]; simp [colors]⟩
  rw [hstartup]
  simp [colors, readyEvents, menuEvents, menuHead, menuTail]

-- ---------------------------------------------------------------------------
-- Whole runs
-- ---------------------------------------------------------------------------

/-- The log begins with a boot, and every boot of it keeps to the legend. The
last one is singled out: it is the one that turns go on adding to. -/
def Boots (log : List Event) : Prop :=
  ∃ pre cause boot segs, log = pre ++ .boot cause :: boot ∧
    (∀ e ∈ boot, e.isBoot = false) ∧ Legend boot ∧
    pre.splitOnP Event.isBoot = [] :: segs ∧ ∀ seg ∈ segs, Legend seg

theorem Boots.turn {log events : List Event} (h : Boots log) (b : Board)
    (hevents : ∀ e ∈ events, e.Within) : Boots (log ++ .poll b :: events) := by
  obtain ⟨pre, cause, boot, segs, rfl, hnone, hlegend, hsegs, hall⟩ := h
  refine ⟨pre, cause, boot ++ .poll b :: events, segs, by simp, ?_, hlegend.turn b hevents,
    hsegs, hall⟩
  intro e he
  simp only [List.mem_append, List.mem_cons] at he
  rcases he with he | rfl | he
  · exact hnone e he
  · rfl
  · exact isBoot_of_within (hevents e he)

theorem isBoot_start (b : Board) : ∀ e ∈ readyEvents ++ menuEvents b, e.isBoot = false := by
  intro e he
  rcases List.mem_append.mp he with he | he
  · exact isBoot_readyEvents e he
  · exact isBoot_of_within (menuEvents_within b e he)

theorem Boots.reboot {log : List Event} (h : Boots log) (cause : WakeupCause) (b : Board) :
    Boots (log ++ .boot cause :: (readyEvents ++ menuEvents b)) := by
  obtain ⟨pre, cause', boot, segs, rfl, hnone, hlegend, hsegs, hall⟩ := h
  -- the boot that was open joins the finished ones
  refine ⟨_, cause, _, segs ++ [boot], rfl, isBoot_start b, legend_start b, ?_, ?_⟩
  · rw [List.splitOnP_append_cons _ _ rfl, hsegs, List.splitOnP_eq_singleton hnone]
    rfl
  · intro seg hseg
    rcases List.mem_append.mp hseg with hseg | hseg
    · exact hall seg hseg
    · rw [List.mem_singleton.mp hseg]
      exact hlegend

theorem Boots.split {log : List Event} (h : Boots log) :
    ∃ segs, log.splitOnP Event.isBoot = [] :: segs ∧ ∀ seg ∈ segs, Legend seg := by
  obtain ⟨pre, cause, boot, segs, rfl, hnone, hlegend, hsegs, hall⟩ := h
  refine ⟨segs ++ [boot], ?_, ?_⟩
  · rw [List.splitOnP_append_cons _ _ rfl, hsegs, List.splitOnP_eq_singleton hnone]
    rfl
  · intro seg hseg
    rcases List.mem_append.mp hseg with hseg | hseg
    · exact hall seg hseg
    · rw [List.mem_singleton.mp hseg]
      exact hlegend

/-- What holds at every poll: the board, and all of the log behind it. -/
structure Lit (d : Device) : Prop where
  active : Active d.board
  polls  : ∀ b, .poll b ∈ d.log → Active b
  sleeps : ∀ kind b, .sleep kind b ∈ d.log → Asleep kind b
  boots  : Boots d.log

/-- A start neither polls nor sleeps. -/
theorem start_quiet (b : Board) (e : Event) (he : e ∈ readyEvents ++ menuEvents b) :
    (∀ b, e ≠ .poll b) ∧ ∀ kind b, e ≠ .sleep kind b := by
  simp only [readyEvents, menuEvents, menuHead, menuTail, List.map_cons, List.map_nil,
    List.cons_append, List.nil_append, List.mem_cons, List.not_mem_nil, or_false] at he
  refine ⟨?_, ?_⟩
  · intro b heq
    simp [heq] at he
  · intro kind b heq
    simp [heq] at he

theorem lit_powerUp : Lit (powerUp []) := by
  obtain ⟨b, hlog⟩ := powerUp_log []
  rw [List.nil_append] at hlog
  refine ⟨active_start _, ?_, ?_, ?_⟩
  · intro b' hpoll
    rw [hlog, List.mem_cons] at hpoll
    rcases hpoll with hpoll | hpoll
    · exact Event.noConfusion hpoll
    · exact absurd rfl ((start_quiet b _ hpoll).1 b')
  · intro kind b' hsleep
    rw [hlog, List.mem_cons] at hsleep
    rcases hsleep with hsleep | hsleep
    · exact Event.noConfusion hsleep
    · exact absurd rfl ((start_quiet b _ hsleep).2 kind b')
  · exact ⟨[], .undefined, _, [], hlog, isBoot_start b, legend_start b, rfl, by simp⟩

theorem lit_powerStep {d : Device} (h : Lit d) (p : Poll) : Lit (powerStep d p) := by
  obtain ⟨events, o, hevents, hlog⟩ := powerStep_within h.active p
  -- the reboot, if there is one, is the only part that is not `Within`
  have hreboot : settleEvents o = [] ∨
      ∃ b, settleEvents o = .boot .timer :: (readyEvents ++ menuEvents b) := by
    cases o with
    | returned _ => exact Or.inl rfl
    | deepSleep e => exact Or.inr ⟨_, rfl⟩
  have hmem : ∀ e ∈ (powerStep d p).log, e ∈ d.log ∨ e = .poll d.board ∨ e.Within ∨
      (∀ b, e ≠ .poll b) ∧ ∀ kind b, e ≠ .sleep kind b := by
    intro e he
    rw [hlog, List.mem_append, List.mem_append, List.mem_cons] at he
    rcases he with he | (he | he) | he
    · exact Or.inl he
    · exact Or.inr (Or.inl he)
    · exact Or.inr (Or.inr (Or.inl (hevents e he)))
    · rcases hreboot with hnil | ⟨b, hboot⟩
      · rw [hnil] at he
        exact absurd he List.not_mem_nil
      · rw [hboot, List.mem_cons] at he
        rcases he with rfl | he
        · exact Or.inr (Or.inr (Or.inr (by simp)))
        · exact Or.inr (Or.inr (Or.inr (start_quiet b e he)))
  refine ⟨active_powerStep h.active p, ?_, ?_, ?_⟩
  · -- the only new poll is the one of this turn, on the board it began with
    intro b hpoll
    rcases hmem _ hpoll with hold | hnew | hwithin | hquiet
    · exact h.polls b hold
    · rw [Event.poll.inj hnew]
      exact h.active
    · exact hwithin.elim
    · exact absurd rfl (hquiet.1 b)
  · -- a new sleep call is one of the command, which found the board `Active`
    intro kind b hsleep
    rcases hmem _ hsleep with hold | hnew | hwithin | hquiet
    · exact h.sleeps kind b hold
    · exact Event.noConfusion hnew
    · exact hwithin
    · exact absurd rfl (hquiet.2 kind b)
  · have hturn : Boots (d.log ++ .poll d.board :: events) := h.boots.turn d.board hevents
    rw [hlog, ← List.append_assoc]
    rcases hreboot with hnil | ⟨b, hboot⟩
    · rw [hnil, List.append_nil]
      exact hturn
    · rw [hboot]
      exact hturn.reboot .timer b

/--
**The LED legend.** In every run from power-on: at every poll D13 is off and
unheld and the NeoPixel green; at every sleep call D13 is held on and the
NeoPixel off, with the deep-sleep hold for a deep sleep only; and red is shown
three times in each boot, each time followed by off, before its first poll,
and never otherwise.
-/
theorem led_legend (polls : List Poll) :
    (∀ b, .poll b ∈ (session polls).log → Active b) ∧
      (∀ kind b, .sleep kind b ∈ (session polls).log → Asleep kind b) ∧
      ∃ boots, (session polls).log.splitOnP Event.isBoot = [] :: boots ∧
        ∀ boot ∈ boots, Legend boot := by
  have h : Lit (session polls) :=
    Runs.run_invariant lit_powerUp (fun _ p hd => lit_powerStep hd p) polls
  exact ⟨h.polls, h.sleeps, h.boots.split⟩

end YoloUno
