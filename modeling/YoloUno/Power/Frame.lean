import YoloUno.Power.Editor
import YoloUno.Power.Past
import YoloUno.Lib.Weave

/-!
# Only sleep commands change the device

Blank lines, rejected lines and the menu against the board. `print_menu`
assigns `bootCount`, so that a menu is harmless in reachable states only: the
assignment is made while the wakeup cause is undefined, and until then there
was nothing to count (`Cleared`).

`only_sleeps_change` — in every reachable state a line that starts no sleep
leaves the board as it is, and lines of this kind, inserted at line
boundaries anywhere in a run, leave everything else in it as it was.
-/

namespace YoloUno

open LineDiscipline Weave

-- ---------------------------------------------------------------------------
-- What the menu clears is clear
-- ---------------------------------------------------------------------------

/-- A menu clears the counter itself, if the cause is undefined. -/
theorem cleared_printMenu (d : Device) : Cleared (printMenu d).board := by
  rw [printMenu_eq]
  intro hundefined
  have hcause : d.board.wakeupCause = .undefined := hundefined
  show menuCount d.board = 0
  unfold menuCount
  rw [hcause]
  rfl

theorem cleared_start (d : Device) : Cleared (start d).board := by
  rw [start_eq]
  exact cleared_printMenu (ready d)

theorem cleared_settle_execute {d : Device} (h : Cleared d.board) (command : Command)
    (nap : Nap) : Cleared (settle (execute command nap d)).board := by
  cases command with
  | prompt => exact h
  | menu => exact cleared_printMenu d
  | silent => exact h
  | sleep kind timeSec =>
    cases kind with
    | light =>
      -- the cause is the timer from here on
      intro hundefined
      have htimer : (enterLightSleep timeSec nap d).board.wakeupCause = .timer := rfl
      exact absurd (htimer.symm.trans hundefined) (by decide)
    | deep => exact cleared_start (enterDeepSleep timeSec d).deepSleepWake

theorem cleared_powerStep {d : Device} (h : Cleared d.board) (p : Poll) :
    Cleared (powerStep d p).board := by
  refine powerStep_cases (motive := fun _ d' => Cleared d'.board) ?_ ?_ ?_ ?_ p
  · intro _ _
    exact h
  · intro c nap _ _
    exact cleared_settle_execute (d := atParse d) h _ nap
  · intro _ _ _ _
    exact h
  · intro c nap _ _
    rw [stored_board]
    exact h

theorem cleared_lifeStep {d : Device} (h : Cleared d.board) (i : Input) :
    Cleared (lifeStep d i).board := by
  cases i with
  | poll p => exact cleared_powerStep h p
  | reset => exact cleared_start _

theorem cleared_life (inputs : List Input) : Cleared (life inputs).board := by
  have h0 : Cleared (powerUp []).board := cleared_start _
  exact @Runs.run_invariant _ _ lifeStep (fun d => Cleared d.board) _ h0
    (fun _ i h => cleared_lifeStep h i) inputs

-- ---------------------------------------------------------------------------
-- One line
-- ---------------------------------------------------------------------------

/-- Wherever and whenever the line is submitted, no sleep is called. -/
def StartsNoSleep (cmd : Bytes) : Prop :=
  ∀ nap d kind b, Event.sleep kind b ∉ emitted d (parseCommand cmd nap d)

theorem startsNoSleep_iff {cmd : Bytes} :
    StartsNoSleep cmd ↔ ∀ kind timeSec, interpret cmd ≠ .sleep kind timeSec := by
  unfold StartsNoSleep
  constructor
  · intro h kind timeSec hcmd
    set d : Device := ⟨Board.powerOn, [], []⟩
    refine h ⟨0, 0⟩ d kind (sleepBoard kind timeSec d) ?_
    rw [emitted_parseCommand, sleep_mem_commandEvents]
    exact ⟨timeSec, hcmd, rfl⟩
  · intro h nap d kind b hmem
    rw [emitted_parseCommand, sleep_mem_commandEvents] at hmem
    obtain ⟨timeSec, hcmd, -⟩ := hmem
    exact h kind timeSec hcmd

def Command.isSleep : Command → Bool
  | .sleep _ _ => true
  | _ => false

theorem startsNoSleep_iff_isSleep {cmd : Bytes} :
    StartsNoSleep cmd ↔ (interpret cmd).isSleep = false := by
  rw [startsNoSleep_iff]
  cases interpret cmd with
  | sleep kind timeSec => simp [Command.isSleep]
  | _ => simp [Command.isSleep]

instance (cmd : Bytes) : Decidable (StartsNoSleep cmd) :=
  decidable_of_iff _ startsNoSleep_iff_isSleep.symm

/-- **A call that starts no sleep returns, with the board as it was.** -/
theorem parseCommand_board {cmd : Bytes} {d : Device} (hcleared : Cleared d.board)
    (h : StartsNoSleep cmd) (nap : Nap) :
    ∃ d', parseCommand cmd nap d = .returned d' ∧ d'.board = d.board := by
  rw [parseCommand_eq]
  cases hcmd : interpret cmd with
  | prompt => exact ⟨_, rfl, rfl⟩
  | menu =>
    -- the counter is assigned the value it has
    refine ⟨printMenu d, rfl, ?_⟩
    rw [printMenu_eq, menuCount_of_cleared hcleared]
  | silent => exact ⟨d, rfl, rfl⟩
  | sleep kind timeSec => exact absurd hcmd (startsNoSleep_iff.mp h kind timeSec)

/-- A turn that submits no sleep command leaves the board as it is. -/
theorem powerStep_board {d : Device} {p : Poll} (hcleared : Cleared d.board)
    (h : ∀ c ∈ received [p], isEnd c = true → d.inputBuffer ≠ [] →
      StartsNoSleep d.inputBuffer) : (powerStep d p).board = d.board := by
  revert h
  refine powerStep_cases (motive := fun p d' => (∀ c ∈ received [p], isEnd c = true →
    d.inputBuffer ≠ [] → StartsNoSleep d.inputBuffer) → d'.board = d.board) ?_ ?_ ?_ ?_ p
  · intro p _ _
    rfl
  · intro c nap hend hbuf h
    have hidle : StartsNoSleep d.inputBuffer := h c (by simp [received]) hend hbuf
    obtain ⟨d', hreturned, hboard⟩ := parseCommand_board (d := atParse d) hcleared hidle nap
    rw [← parseCommand_eq, hreturned]
    exact hboard
  · intro c nap _ _ _
    rfl
  · intro c nap _ _ _
    exact stored_board c d

-- ---------------------------------------------------------------------------
-- Whole lines
-- ---------------------------------------------------------------------------

/-- Polls that read whole lines, none of which starts a sleep. -/
structure IdleLines (polls : List Poll) : Prop where
  idle  : ∀ cmd ∈ LineDiscipline.submitted isErase isEnd (received polls), StartsNoSleep cmd
  whole : pending isErase isEnd (received polls) = []

/-- The editor over the polls of a run that finds the buffer empty. -/
theorem run_stream {d : Device} (hbuf : d.inputBuffer = []) (polls : List Poll) :
    (Runs.run powerStep d polls).inputBuffer = pending isErase isEnd (received polls) := by
  have hrun := run_feed d polls
  rw [hbuf, foldl_feed_lines, feed_stream, Prod.mk.injEq] at hrun
  exact hrun.2

/-- **Idle lines change nothing**, at any poll while they are read: the board
stays as it is, and no sleep is called. -/
theorem idleLines_board {d : Device} {polls : List Poll} (hcleared : Cleared d.board)
    (hbuf : d.inputBuffer = []) (h : IdleLines polls) :
    ∀ pre, pre <+: polls → (Runs.run powerStep d pre).board = d.board ∧
      sleeps (Runs.run powerStep d pre).log = sleeps d.log := by
  refine @Runs.run_invariant_along _ _ powerStep
    (fun _ t => t.board = d.board ∧ sleeps t.log = sleeps d.log) d polls ⟨rfl, rfl⟩ ?_
  intro pre p hpre hsame
  rw [Runs.run_concat]
  have hcleared' : Cleared (Runs.run powerStep d pre).board := by
    rw [hsame.1]
    exact hcleared
  -- a line submitted by this poll is one of those submitted by all of them
  have hidle : ∀ c ∈ received [p], isEnd c = true → (Runs.run powerStep d pre).inputBuffer ≠ [] →
      StartsNoSleep (Runs.run powerStep d pre).inputBuffer := by
    intro c hc hend hne
    rw [run_stream hbuf] at hne ⊢
    have hread : received (pre ++ [p]) = received pre ++ [c] := by
      rw [received_append]
      cases p with
      | idle => exact absurd hc List.not_mem_nil
      | rx c' nap => rw [List.mem_singleton.mp hc]; rfl
    have hprefix : received (pre ++ [p]) <+: received polls := hpre.filterMap _
    apply h.idle
    refine (submitted_mono hprefix).subset ?_
    rw [hread, submitted_concat_end hend, if_neg hne]
    simp
  have hboard := powerStep_board hcleared' hidle
  have hsleeps := sleeps_powerStep fun c hc hend hne => startsNoSleep_iff.mp (hidle c hc hend hne)
  exact ⟨hboard.trans hsame.1, hsleeps.trans hsame.2⟩

-- ---------------------------------------------------------------------------
-- Inserting idle lines into a run
-- ---------------------------------------------------------------------------

/-- Whatever is inserted are idle lines, each block where the run it is
inserted into polls with an empty buffer. -/
def Harmless (w : List (Turn Input)) : Prop :=
  ∀ pre block, pre ++ [.extra block] <+: w →
    (life (own pre)).inputBuffer = [] ∧ ∃ polls, block = polls.map .poll ∧ IdleLines polls

theorem run_polls (d : Device) (polls : List Poll) :
    Runs.run lifeStep d (polls.map .poll) = Runs.run powerStep d polls :=
  List.foldl_map

/-- The two runs of a harmless weave: alike, and with the same sleeps. -/
structure Undisturbed (d e : Device) : Prop where
  alike   : Alike d e
  sleeps  : sleeps d.log = sleeps e.log
  cleared : Cleared d.board

theorem Undisturbed.lifeStep {d e : Device} (h : Undisturbed d e) (i : Input) :
    Undisturbed (lifeStep d i) (lifeStep e i) := by
  obtain ⟨halike, hevents⟩ := h.alike.lifeStep i
  refine ⟨halike, ?_, cleared_lifeStep h.cleared i⟩
  rw [lifeStep_log, lifeStep_log, sleeps_append, sleeps_append, h.sleeps, hevents]

/-- An idle block, read by the second device only. -/
theorem Undisturbed.block {d e : Device} {polls : List Poll} (h : Undisturbed d e)
    (hbuf : d.inputBuffer = []) (hidle : IdleLines polls) :
    Undisturbed d (Runs.run YoloUno.lifeStep e (polls.map .poll)) := by
  have hempty : e.inputBuffer = [] := h.alike.inputBuffer.symm.trans hbuf
  have hcleared : Cleared e.board := h.alike.board ▸ h.cleared
  obtain ⟨hboard, hsleeps⟩ := idleLines_board hcleared hempty hidle polls List.prefix_rfl
  rw [run_polls]
  refine ⟨⟨h.alike.board.trans hboard.symm, ?_⟩, h.sleeps.trans hsleeps.symm, h.cleared⟩
  rw [run_stream hempty, hidle.whole]
  exact hbuf

theorem undisturbed_weave {w : List (Turn Input)} (hw : Harmless w) :
    ∀ pre, pre <+: w → Undisturbed (life (own pre)) (life (woven pre)) := by
  refine run_related ⟨⟨rfl, rfl⟩, rfl, cleared_life []⟩ (fun _ _ i h => h.lifeStep i) ?_
  intro pre block hpre h
  obtain ⟨hbuf, polls, rfl, hidle⟩ := hw pre block hpre
  exact h.block hbuf hidle

/--
**Only sleep commands change the device.** In every reachable state, a call of
`parse_command` that starts no sleep returns with the board as it was. Idle
lines inserted at line boundaries leave every later state of the board, every
sleep call with its duration, and everything the run's own inputs do as they
are without them; and while they are read the board does not change.
-/
theorem only_sleeps_change :
    (∀ inputs cmd nap d, d.board = (life inputs).board → StartsNoSleep cmd →
        ∃ d', parseCommand cmd nap d = .returned d' ∧ d'.board = d.board) ∧
      ∀ w, Harmless w →
        (∀ pre, pre <+: w → (life (woven pre)).board = (life (own pre)).board ∧
          sleeps (life (woven pre)).log = sleeps (life (own pre)).log) ∧
        (∀ pre i, pre ++ [.own i] <+: w →
          turnEvents (life (woven pre)) i = turnEvents (life (own pre)) i) ∧
        ∀ pre block mid, pre ++ [.extra block] <+: w → mid <+: block →
          (life (woven pre ++ mid)).board = (life (own pre)).board := by
  refine ⟨?_, ?_⟩
  · intro inputs cmd nap d hreached hidle
    have hcleared : Cleared d.board := hreached ▸ cleared_life inputs
    exact parseCommand_board hcleared hidle nap
  intro w hw
  have hboth := undisturbed_weave hw
  refine ⟨?_, ?_, ?_⟩
  · intro pre hpre
    exact ⟨(hboth pre hpre).alike.board.symm, (hboth pre hpre).sleeps.symm⟩
  · intro pre i hpre
    have h := hboth pre ((List.prefix_append pre [.own i]).trans hpre)
    exact (h.alike.lifeStep i).2.symm
  · intro pre block mid hpre hmid
    have h := hboth pre ((List.prefix_append pre [.extra block]).trans hpre)
    obtain ⟨hbuf, polls, rfl, hidle⟩ := hw pre block hpre
    obtain ⟨polls', hpolls', rfl⟩ := List.prefix_map_iff.mp hmid
    have hempty : (life (woven pre)).inputBuffer = [] := h.alike.inputBuffer.symm.trans hbuf
    have hcleared : Cleared (life (woven pre)).board := h.alike.board ▸ h.cleared
    have hboard := (idleLines_board hcleared hempty hidle polls' hpolls').1
    rw [life, Runs.run_append, run_polls]
    exact hboard.trans h.alike.board.symm

instance (polls : List Poll) : Decidable (IdleLines polls) :=
  decidable_of_iff
    ((∀ cmd ∈ LineDiscipline.submitted isErase isEnd (received polls), StartsNoSleep cmd) ∧
      pending isErase isEnd (received polls) = [])
    ⟨fun h => ⟨h.1, h.2⟩, fun h => ⟨h.idle, h.whole⟩⟩

/-- The polls that read a text, with a light sleep of five seconds in them. -/
def typed (text : String) : List Poll := (ascii text).map fun c => .rx c ⟨0, 5000⟩

/-- A light sleep and the menu, with a menu before them, and an unknown
command and a blank line between them. -/
def menuWeave : List (Turn Input) :=
  .extra ((typed "M\r").map .poll) :: (typed "L 5\r").map (.own ∘ .poll) ++
    .extra ((typed "x 9\r \r").map .poll) :: (typed "M\r").map (.own ∘ .poll)

theorem harmless_menuWeave : Harmless menuWeave := by
  have hmenu : IdleLines (typed "M\r") := by decide +kernel
  have hrejected : IdleLines (typed "x 9\r \r") := by decide +kernel
  have hbuf : (life (own (menuWeave.take 5))).inputBuffer = [] := by decide +kernel
  have hblocks : ∀ k < 8, (menuWeave[k]?.bind Turn.own?) = none → k = 0 ∨ k = 5 := by
    decide +kernel
  intro pre block hpre
  obtain ⟨rest, hrest⟩ := hpre
  have hturn : menuWeave[pre.length]? = some (.extra block) := by
    rw [← hrest]
    simp
  have htake : pre = menuWeave.take pre.length := by
    rw [← hrest]
    simp
  have hlength : pre.length < 8 := by
    have := congrArg List.length hrest
    simp only [List.length_append, List.length_singleton] at this
    have hall : menuWeave.length = 8 := rfl
    omega
  rw [htake]
  -- the blocks stand before the first turn and before the sixth
  rcases hblocks _ hlength (by rw [hturn]; rfl) with h | h
  · rw [h] at hturn ⊢
    exact ⟨powerUp_inputBuffer [], _, (Turn.extra.inj (Option.some.inj hturn)).symm, hmenu⟩
  · rw [h] at hturn ⊢
    exact ⟨hbuf, _, (Turn.extra.inj (Option.some.inj hturn)).symm, hrejected⟩

/-- The sleep is called as it would have been, and the menu keeps the board. -/
theorem only_sleeps_change_menuWeave :
    sleeps (life (woven menuWeave)).log = sleeps (life (own menuWeave)).log ∧
      ∃ d', parseCommand (ascii "M") ⟨0, 0⟩ (life []) = .returned d' ∧
        d'.board = (life []).board :=
  ⟨((only_sleeps_change.2 menuWeave harmless_menuWeave).1 menuWeave List.prefix_rfl).2,
    only_sleeps_change.1 [] (ascii "M") ⟨0, 0⟩ (life []) rfl (by decide)⟩

end YoloUno
