import YoloUno.Power.Past

/-!
# The boot count

`bootCount` lives in RTC memory. `enter_deep_sleep` increments it, a reset
that is no deep-sleep wake sets it to 0, and so does `print_menu` when the
wakeup cause is neither the timer nor the button, on every menu it prints.

`bootCount_counts` says that the assignment in `print_menu` never loses
anything: every count printed is the number of deep sleeps since the last
such reset. The invariant (`Counting`) ties the counter to the log, and the
cause to the counter: as long as the cause is undefined, there was no deep
sleep to count.
-/

namespace YoloUno

-- ---------------------------------------------------------------------------
-- Counting deep sleeps in a log
-- ---------------------------------------------------------------------------

/-- A deep sleep counts; a reset that is no deep-sleep wake starts over. -/
def tally (n : Nat) : Event → Nat
  | .boot .undefined => 0
  | .sleep .deep _ => n + 1
  | _ => n

/-- The deep sleeps since the last reset that was no deep-sleep wake. -/
def deepSleeps (log : List Event) : Nat := log.foldl tally 0

def Event.isDeepSleep : Event → Bool
  | .sleep .deep _ => true
  | _ => false

/-- Events that neither count, nor reset the count, nor show it. -/
def Event.Plain : Event → Prop
  | .boot _ => False
  | .sleep .deep _ => False
  | .menu _ => False
  | .printf .bootCount _ => False
  | _ => True

theorem deepSleeps_concat (log : List Event) (e : Event) :
    deepSleeps (log ++ [e]) = tally (deepSleeps log) e := by
  unfold deepSleeps
  rw [List.foldl_append]
  rfl

theorem tally_of_plain {e : Event} (h : e.Plain) (n : Nat) : tally n e = n := by
  cases e with
  | boot => exact h.elim
  | sleep kind =>
    cases kind with
    | light => rfl
    | deep => exact h.elim
  | _ => rfl

theorem deepSleeps_plain {events : List Event} (h : ∀ e ∈ events, e.Plain) (log : List Event) :
    deepSleeps (log ++ events) = deepSleeps log := by
  induction events using List.reverseRecOn with
  | nil => rw [List.append_nil]
  | append_singleton events e ih =>
    rw [← List.append_assoc, deepSleeps_concat, tally_of_plain (h e (by simp))]
    exact ih fun e he => h e (List.mem_append_left _ he)

/-- The count is at most all the deep sleeps there were. -/
theorem deepSleeps_le_countP (log : List Event) :
    deepSleeps log ≤ log.countP Event.isDeepSleep := by
  induction log using List.reverseRecOn with
  | nil => exact Nat.le_refl 0
  | append_singleton log e ih =>
    rw [deepSleeps_concat, List.countP_append, List.countP_singleton]
    -- both grow by a deep sleep; only the tally ever drops
    cases e with
    | boot cause => cases cause <;> simp only [tally] <;> omega
    | sleep kind b => cases kind <;> simp only [tally, Event.isDeepSleep] <;> simpa using ih
    | _ => exact Nat.le_add_right_of_le ih

-- ---------------------------------------------------------------------------
-- What the log shows
-- ---------------------------------------------------------------------------

/-- Every count printed is the number of deep sleeps before it, and a menu
that clears the counter finds it at 0. -/
structure Faithful (log : List Event) : Prop where
  printed : ∀ pre (n : Int32) post, log = pre ++ .printf .bootCount n :: post →
    n.toInt = deepSleeps pre
  menus   : ∀ b, .menu b ∈ log → b.wakeupCause ≠ .timer → b.wakeupCause ≠ .ext0 →
    b.bootCount = 0

theorem Faithful.concat {log : List Event} {e : Event} (h : Faithful log)
    (hprinted : ∀ n : Int32, e = .printf .bootCount n → n.toInt = deepSleeps log)
    (hmenu : ∀ b, e = .menu b → b.wakeupCause ≠ .timer → b.wakeupCause ≠ .ext0 →
      b.bootCount = 0) : Faithful (log ++ [e]) := by
  refine ⟨?_, ?_⟩
  · intro pre n post hlog
    -- the count printed is the new event, or it is one of the old ones
    rcases List.eq_nil_or_concat post with rfl | ⟨post, last, rfl⟩
    · obtain ⟨rfl, hlast⟩ := List.append_inj' hlog rfl
      exact hprinted n (List.cons.inj hlast).1
    · rw [List.concat_eq_append, ← List.cons_append, ← List.append_assoc] at hlog
      obtain ⟨hold, _⟩ := List.append_inj' hlog rfl
      exact h.printed pre n post hold
  · intro b hb
    rcases List.mem_append.mp hb with hb | hb
    · exact h.menus b hb
    · exact hmenu b (List.mem_singleton.mp hb).symm

theorem Faithful.plain {log events : List Event} (h : Faithful log)
    (hplain : ∀ e ∈ events, e.Plain) : Faithful (log ++ events) := by
  induction events using List.reverseRecOn with
  | nil => rw [List.append_nil]; exact h
  | append_singleton events e ih =>
    have he : e.Plain := hplain e (by simp)
    rw [← List.append_assoc]
    refine (ih fun e he => hplain e (List.mem_append_left _ he)).concat ?_ ?_
    · intro n heq
      subst heq
      exact he.elim
    · intro b heq
      subst heq
      exact he.elim

theorem menuHead_plain (b : Board) : ∀ e ∈ (menuHead b).map Event.print, e.Plain := by
  intro e he
  obtain ⟨s, _, rfl⟩ := List.mem_map.mp he
  exact trivial

theorem menuTail_plain : ∀ e ∈ menuTail.map Event.print ++ [.print ">>> "], e.Plain := by
  intro e he
  simp only [List.mem_append, List.mem_map, List.mem_singleton] at he
  rcases he with ⟨s, _, rfl⟩ | rfl
  · exact trivial
  · exact trivial

/-- The menu in four pieces: its entry, its head, the count, its tail. -/
theorem append_menuEvents (log : List Event) (b : Board) :
    log ++ menuEvents b = log ++ [.menu b] ++ (menuHead b).map .print ++
      [.printf .bootCount (menuCount b)] ++ (menuTail.map .print ++ [.print ">>> "]) := by
  unfold menuEvents
  simp only [List.append_assoc, List.cons_append, List.nil_append]

/-- Up to the count, the menu has counted nothing. -/
theorem deepSleeps_menuHead (log : List Event) (b : Board) :
    deepSleeps (log ++ [.menu b] ++ (menuHead b).map .print) = deepSleeps log := by
  rw [deepSleeps_plain (menuHead_plain b), deepSleeps_concat]
  rfl

theorem deepSleeps_menuEvents (log : List Event) (b : Board) :
    deepSleeps (log ++ menuEvents b) = deepSleeps log := by
  rw [append_menuEvents, deepSleeps_plain menuTail_plain, deepSleeps_concat, deepSleeps_menuHead]
  rfl

theorem Faithful.menu {log : List Event} {b : Board} (h : Faithful log)
    (hcount : (menuCount b).toInt = deepSleeps log)
    (hclear : b.wakeupCause ≠ .timer → b.wakeupCause ≠ .ext0 → b.bootCount = 0) :
    Faithful (log ++ menuEvents b) := by
  have hentry : Faithful (log ++ [.menu b]) := by
    refine h.concat (by simp) ?_
    intro b' hb
    rw [← Event.menu.inj hb]
    exact hclear
  have hshown : Faithful (log ++ [.menu b] ++ (menuHead b).map .print ++
      [.printf .bootCount (menuCount b)]) := by
    refine (hentry.plain (menuHead_plain b)).concat ?_ (by simp)
    intro n hn
    rw [← (Event.printf.inj hn).2, hcount, deepSleeps_menuHead]
  rw [append_menuEvents]
  exact hshown.plain menuTail_plain

-- ---------------------------------------------------------------------------
-- The invariant
-- ---------------------------------------------------------------------------

/-- The counter agrees with the log, and an undefined cause with the counter. -/
structure Counting (d : Device) : Prop where
  count    : d.board.bootCount.toInt = deepSleeps d.log
  fresh    : d.board.wakeupCause = .undefined → deepSleeps d.log = 0
  noButton : d.board.wakeupCause ≠ .ext0
  faithful : Faithful d.log

/-- Plain events keep the invariant, as long as the counter stays and the
cause does, or becomes the timer. -/
theorem Counting.plain {d d' : Device} (h : Counting d) (events : List Event)
    (hlog : d'.log = d.log ++ events) (hplain : ∀ e ∈ events, e.Plain)
    (hcount : d'.board.bootCount = d.board.bootCount)
    (hcause : d'.board.wakeupCause = d.board.wakeupCause ∨ d'.board.wakeupCause = .timer) :
    Counting d' := by
  have hsame : deepSleeps d'.log = deepSleeps d.log := by rw [hlog, deepSleeps_plain hplain]
  refine ⟨by rw [hcount, hsame]; exact h.count, ?_, ?_, by rw [hlog]; exact h.faithful.plain hplain⟩
  · intro hundefined
    rw [hsame]
    rcases hcause with hcause | hcause
    · exact h.fresh (hcause.symm.trans hundefined)
    · rw [hcause] at hundefined
      exact absurd hundefined (by decide)
  · rcases hcause with hcause | hcause
    · rw [hcause]
      exact h.noButton
    · rw [hcause]
      decide

/-- While the cause is undefined the counter is 0, so that **the menu leaves
it as it is**. -/
theorem Counting.cleared {d : Device} (h : Counting d) : Cleared d.board := by
  intro hundefined
  have hzero : d.board.bootCount.toInt = 0 := by rw [h.count, h.fresh hundefined]; rfl
  exact Int32.toInt_inj.mp hzero

theorem counting_printMenu {d : Device} (h : Counting d) : Counting (printMenu d) := by
  have hsame : deepSleeps (d.log ++ menuEvents d.board) = deepSleeps d.log :=
    deepSleeps_menuEvents d.log d.board
  rw [printMenu_eq]
  refine ⟨?_, ?_, h.noButton, h.faithful.menu ?_ ?_⟩
  · show (menuCount d.board).toInt = deepSleeps (d.log ++ menuEvents d.board)
    rw [hsame, menuCount_of_cleared h.cleared]
    exact h.count
  · intro hundefined
    show deepSleeps (d.log ++ menuEvents d.board) = 0
    rw [hsame]
    exact h.fresh hundefined
  · rw [menuCount_of_cleared h.cleared]
    exact h.count
  · -- a menu that clears the counter was not reached by the timer or the button
    intro htimer hbutton
    cases hcause : d.board.wakeupCause with
    | undefined => exact h.cleared hcause
    | ext0 => exact absurd hcause hbutton
    | timer => exact absurd hcause htimer

/-- A start is plain up to its menu. -/
theorem counting_start {d : Device} (h : Counting d) : Counting (start d) := by
  have hplain : ∀ e ∈ readyEvents, e.Plain := by simp [readyEvents, Event.Plain]
  rw [start_eq]
  exact counting_printMenu (h.plain readyEvents (ready_log d) hplain rfl (Or.inl rfl))

-- ---------------------------------------------------------------------------
-- Sleeps and resets
-- ---------------------------------------------------------------------------

theorem Counting.toInt_succ {d : Device} (h : Counting d) (hlt : deepSleeps d.log + 1 < 2 ^ 31) :
    (d.board.bootCount + 1).toInt = deepSleeps d.log + 1 := by
  rw [Int32.toInt_add, h.count]
  show ((deepSleeps d.log : Int) + 1).bmod (2 ^ 32) = _
  rw [Int.bmod_eq_of_le] <;> omega

/-- A deep sleep counts itself, and the wake behind it keeps the count. -/
theorem counting_deepSleepWake {d : Device} (h : Counting d) (timeSec : UInt32)
    (hlt : deepSleeps d.log + 1 < 2 ^ 31) :
    Counting (enterDeepSleep timeSec d).deepSleepWake := by
  set b := (enterDeepSleep timeSec d).board with hb
  have hplain : ∀ e ∈ ([.printf .deepSleep timeSec.toInt32,
      .print "   (Will BLINK RED upon wake/reset)\r\n",
      .show off d.board.strip.brightness] : List Event), e.Plain := by
    simp [Event.Plain]
  have hlog : (enterDeepSleep timeSec d).deepSleepWake.log = d.log ++
      [.printf .deepSleep timeSec.toInt32, .print "   (Will BLINK RED upon wake/reset)\r\n",
       .show off d.board.strip.brightness] ++ [.sleep .deep b] ++ [.boot .timer] := by
    show (enterDeepSleep timeSec d).log ++ [_] = _
    rw [enterDeepSleep_log]
    simp [hb]
  have hcounted : deepSleeps (enterDeepSleep timeSec d).deepSleepWake.log =
      deepSleeps d.log + 1 := by
    rw [hlog, deepSleeps_concat, deepSleeps_concat, deepSleeps_plain hplain]
    rfl
  have hcause : (enterDeepSleep timeSec d).deepSleepWake.board.wakeupCause = .timer := rfl
  -- the increment and the sleep event come together, whatever the cause was before
  refine ⟨?_, ?_, by rw [hcause]; decide, ?_⟩
  · rw [hcounted]
    exact h.toInt_succ hlt
  · intro hundefined
    exact absurd (hcause.symm.trans hundefined) (by decide)
  · rw [hlog]
    exact ((h.faithful.plain hplain).concat (by simp) (by simp)).concat (by simp) (by simp)

/-- Any other reset starts over, whatever was counted before. -/
theorem counting_powerUp {log : List Event} (h : Faithful log) : Counting (powerUp log) := by
  unfold powerUp
  apply counting_start
  have hzero : deepSleeps (log ++ [.boot .undefined]) = 0 := by rw [deepSleeps_concat]; rfl
  have hcause : Board.powerOn.wakeupCause ≠ .ext0 := by decide
  refine ⟨?_, fun _ => hzero, hcause, h.concat (by simp) (by simp)⟩
  show (0 : Int32).toInt = _
  rw [hzero]
  rfl

-- ---------------------------------------------------------------------------
-- Whole runs
-- ---------------------------------------------------------------------------

/-- A command keeps the invariant, if the run it is part of has fewer than
2³¹ deep sleeps. -/
theorem counting_settle_execute {d : Device} (h : Counting d) (command : Command) (nap : Nap)
    (hlt : (settle (execute command nap d)).log.countP Event.isDeepSleep < 2 ^ 31) :
    Counting (settle (execute command nap d)) := by
  cases command with
  | prompt =>
    show Counting { serialPrint ">>> " d with inputBuffer := [] }
    exact h.plain [.print ">>> "] rfl (by simp [Event.Plain]) rfl (Or.inl rfl)
  | menu =>
    show Counting { printMenu d with inputBuffer := [] }
    exact (counting_printMenu h).plain [] (List.append_nil _).symm (by simp) rfl (Or.inl rfl)
  | silent => exact h.plain [] (List.append_nil _).symm (by simp) rfl (Or.inl rfl)
  | sleep kind timeSec =>
    cases kind with
    | light =>
      -- a light sleep is plain: it only changes the cause, to the timer
      have hplain : ∀ e ∈ commandEvents (.sleep .light timeSec) nap d, e.Plain := by
        simp [commandEvents, Event.Plain]
      show Counting { enterLightSleep timeSec nap d with inputBuffer := [] }
      exact h.plain _ (execute_log (.sleep .light timeSec) nap d) hplain rfl (Or.inr rfl)
    | deep =>
      -- the sleep itself is one of the fewer than 2³¹
      have hbefore : deepSleeps d.log + 1 < 2 ^ 31 := by
        rw [settle_log, execute_log, List.countP_append, List.countP_append] at hlt
        have hone : (commandEvents (.sleep .deep timeSec) nap d).countP Event.isDeepSleep = 1 := rfl
        have hle := deepSleeps_le_countP d.log
        omega
      show Counting (start (enterDeepSleep timeSec d).deepSleepWake)
      exact counting_start (counting_deepSleepWake h timeSec hbefore)

theorem counting_powerStep {d : Device} (h : Counting d) (p : Poll)
    (hlt : (powerStep d p).log.countP Event.isDeepSleep < 2 ^ 31) :
    Counting (powerStep d p) := by
  revert hlt
  refine powerStep_cases (motive := fun _ d' =>
    d'.log.countP Event.isDeepSleep < 2 ^ 31 → Counting d') ?_ ?_ ?_ ?_ p
  · intro _ _ _
    exact h.plain [.poll d.board] rfl (by simp [Event.Plain]) rfl (Or.inl rfl)
  · intro c nap _ _ hlt
    have hparse : Counting (atParse d) :=
      h.plain _ (atParse_log d) (by simp [Event.Plain]) rfl (Or.inl rfl)
    exact counting_settle_execute hparse _ nap hlt
  · intro c nap _ _ _
    exact h.plain _ (erased_log d) (by simp [Event.Plain]) rfl (Or.inl rfl)
  · intro c nap _ _ _
    have hplain : ∀ e ∈ .poll d.board :: echoEvents c, e.Plain := by
      unfold echoEvents
      split <;> simp [Event.Plain]
    refine h.plain _ (stored_log c d) hplain ?_ (Or.inl ?_)
    · rw [stored_board]
    · rw [stored_board]

theorem counting_life {inputs : List Input}
    (hlt : (life inputs).log.countP Event.isDeepSleep < 2 ^ 31) : Counting (life inputs) := by
  revert hlt
  refine @Runs.run_invariant _ _ lifeStep
    (fun d => d.log.countP Event.isDeepSleep < 2 ^ 31 → Counting d) (powerUp []) ?_ ?_ inputs
  · intro _
    exact counting_powerUp ⟨by simp, by simp⟩
  · intro d i ih hlt
    -- the log before the step has no more deep sleeps than the log after it
    have hbefore : d.log.countP Event.isDeepSleep < 2 ^ 31 := by
      rw [lifeStep_log, List.countP_append] at hlt
      omega
    cases i with
    | poll p => exact counting_powerStep (ih hbefore) p hlt
    | reset => exact counting_powerUp (ih hbefore).faithful

/--
**The boot count counts deep sleeps.** In every run with fewer than 2³¹ deep
sleeps, every boot count printed is the number of deep sleeps since the last
reset that was no deep-sleep wake; and every menu that is going to clear the
counter finds it at 0.
-/
theorem bootCount_counts {inputs : List Input}
    (hlt : (life inputs).log.countP Event.isDeepSleep < 2 ^ 31) :
    (∀ pre (n : Int32) post, (life inputs).log = pre ++ .printf .bootCount n :: post →
        n.toInt = deepSleeps pre) ∧
      ∀ b, .menu b ∈ (life inputs).log → b.wakeupCause ≠ .timer → b.wakeupCause ≠ .ext0 →
        b.bootCount = 0 := by
  have h : Faithful (life inputs).log := (counting_life hlt).faithful
  exact ⟨h.printed, h.menus⟩

/-- A deep sleep, a reset, a light sleep and the menu. -/
def mixedLife : List Input :=
  (ascii "D 5\r").map (fun c => .poll (.rx c ⟨0, 0⟩)) ++ .reset ::
    (ascii "L 5\rM\r").map fun c => .poll (.rx c ⟨0, 5000⟩)

theorem bootCount_counts_mixed :
    (∀ pre (n : Int32) post, (life mixedLife).log = pre ++ .printf .bootCount n :: post →
        n.toInt = deepSleeps pre) ∧
      ∀ b, .menu b ∈ (life mixedLife).log → b.wakeupCause ≠ .timer → b.wakeupCause ≠ .ext0 →
        b.bootCount = 0 :=
  bootCount_counts (by decide +kernel)

end YoloUno
