import YoloUno.Power.Command
import YoloUno.Lib.Terminal

/-!
# What the user sees

The console echoes what is typed, and the user takes the echo for what will
be executed. `echoFaithful_iff` says when that is right: in every state of a
run the keys on the screen are the contents of `inputBuffer`, with the cursor
behind the last of them, exactly when every byte read is a terminator, an
erase key or printable.

The echo and the storing branch classify a byte separately. A byte that is
neither printable nor one of the four keys is stored without an echo, and
the next erase key then clears a cell for it all the same: the key before
it, or the prompt.
-/

namespace YoloUno

open Terminal

/-- What an event does to the line the cursor is on. -/
def eventLine (l : Line UInt8) : Event → Line UInt8
  | .echo c => l.put (.key c)
  | e => l.write e.text

/-- The line the cursor is on after a log. -/
def screen (log : List Event) : Line UInt8 := log.foldl eventLine .empty

/-- The keys on the screen are the buffer, and the cell that an erase key
clears is that of the byte it removes. -/
structure EchoFaithful (d : Device) : Prop where
  keys : (screen d.log).keys = d.inputBuffer
  last : ∀ bytes c, d.inputBuffer = bytes ++ [c] →
    (screen d.log).before.getLast? = some (.key c)

/-- A byte that the echo and the storing branch agree on. -/
def Echoed (c : UInt8) : Prop := isEnd c = true ∨ isErase c = true ∨ isPrintable c = true

-- ---------------------------------------------------------------------------
-- The line on the screen
-- ---------------------------------------------------------------------------

/-- What an echoing console keeps up: behind cells that are no echo stand the
keys of the buffer, and the cursor behind these. -/
def Displays (l : Line UInt8) (buffer : Bytes) : Prop :=
  ∃ prompt after, l = ⟨prompt ++ buffer.map .key, after⟩ ∧
    prompt.filterMap Cell.key? = [] ∧ after.filterMap Cell.key? = []

theorem key?_map_key (buffer : Bytes) :
    (buffer.map Cell.key).filterMap Cell.key? = buffer := by
  induction buffer with
  | nil => rfl
  | cons c buffer ih =>
    show c :: (buffer.map Cell.key).filterMap Cell.key? = _
    rw [ih]

theorem Displays.keys {l : Line UInt8} {buffer : Bytes} (h : Displays l buffer) :
    l.keys = buffer := by
  obtain ⟨prompt, after, rfl, hprompt, hafter⟩ := h
  rw [keys_mk, List.filterMap_append, hprompt, hafter, key?_map_key, List.nil_append,
    List.append_nil]

theorem displays_nil {l : Line UInt8} (h : l.Clear) : Displays l [] := by
  have hcells := clear_mk.mp h
  exact ⟨l.before, l.after, by simp, hcells.1, hcells.2⟩

theorem echoFaithful_of_displays {d : Device} (h : Displays (screen d.log) d.inputBuffer) :
    EchoFaithful d := by
  refine ⟨h.keys, ?_⟩
  intro bytes c hbuf
  obtain ⟨prompt, after, hline, -, -⟩ := h
  rw [hline, hbuf]
  show (prompt ++ (bytes ++ [c]).map Cell.key).getLast? = _
  rw [List.map_append, ← List.append_assoc, List.map_singleton, List.getLast?_concat]

theorem screen_append (log events : List Event) :
    screen (log ++ events) = events.foldl eventLine (screen log) :=
  List.foldl_append ..

-- ---------------------------------------------------------------------------
-- Events that echo nothing
-- ---------------------------------------------------------------------------

def Event.Silent : Event → Prop
  | .echo _ => False
  | _ => True

theorem clear_events {events : List Event} (h : ∀ e ∈ events, e.Silent) {l : Line UInt8}
    (hl : l.Clear) : (events.foldl eventLine l).Clear := by
  induction events generalizing l with
  | nil => exact hl
  | cons e events ih =>
    refine ih (fun e he => h e (List.mem_cons_of_mem _ he)) ?_
    cases e with
    | echo c => exact (h _ (List.mem_cons_self ..)).elim
    | print s => exact hl.write _
    | printf format arg => exact hl.write _
    | _ => exact hl

theorem menuEvents_silent (b : Board) : ∀ e ∈ menuEvents b, e.Silent := by
  simp [menuEvents, menuHead, menuTail, Event.Silent]

theorem commandEvents_silent (command : Command) (nap : Nap) (d : Device) :
    ∀ e ∈ commandEvents command nap d, e.Silent := by
  cases command with
  | prompt => simp [commandEvents, Event.Silent]
  | menu => exact menuEvents_silent d.board
  | silent => simp [commandEvents]
  | sleep kind timeSec => cases kind <;> simp [commandEvents, Event.Silent]

theorem bootEvents_silent (cause : WakeupCause) (b : Board) :
    ∀ e ∈ .boot cause :: (readyEvents ++ menuEvents b), e.Silent := by
  intro e he
  rw [List.mem_cons, List.mem_append] at he
  rcases he with rfl | he | he
  · exact trivial
  · revert he
    simp only [readyEvents, List.mem_cons, List.not_mem_nil, or_false]
    intro he
    rcases he with rfl | rfl | rfl | rfl | rfl | rfl | rfl | rfl | rfl <;> exact trivial
  · exact menuEvents_silent b e he

theorem settleEvents_silent (o : Outcome) : ∀ e ∈ settleEvents o, e.Silent := by
  cases o with
  | returned d => simp [settleEvents]
  | deepSleep d => exact bootEvents_silent _ _

-- ---------------------------------------------------------------------------
-- One turn of the loop
-- ---------------------------------------------------------------------------

theorem displays_powerUp : Displays (screen (powerUp []).log) (powerUp []).inputBuffer := by
  obtain ⟨b, hlog⟩ := powerUp_log []
  rw [powerUp, start_inputBuffer, ← powerUp, hlog, List.nil_append]
  exact displays_nil (clear_events (bootEvents_silent _ b) rfl)

/-- A line that is submitted leaves the cursor on a fresh line; whatever the
command prints on it is no echo. -/
theorem displays_submit (command : Command) (nap : Nap) (d : Device) :
    Displays (screen (settle (execute command nap (atParse d))).log)
      (settle (execute command nap (atParse d))).inputBuffer := by
  have hsilent : ∀ e ∈ [.parse d.inputBuffer] ++ commandEvents command nap (atParse d) ++
      settleEvents (execute command nap (atParse d)), e.Silent := by
    intro e he
    rw [List.mem_append, List.mem_append, List.mem_singleton] at he
    rcases he with (rfl | he) | he
    · exact trivial
    · exact commandEvents_silent _ _ _ e he
    · exact settleEvents_silent _ e he
  -- `Serial.println()` opens the fresh line, before the command runs
  have hfresh : screen (d.log ++ [.poll d.board, .print "\r\n"]) = .empty := by
    rw [screen_append]
    rfl
  have hlog : (settle (execute command nap (atParse d))).log =
      (d.log ++ [.poll d.board, .print "\r\n"]) ++ ([.parse d.inputBuffer] ++
        commandEvents command nap (atParse d) ++
        settleEvents (execute command nap (atParse d))) := by
    rw [settle_execute_log]
    simp
  rw [settle_inputBuffer, hlog, screen_append, hfresh]
  exact displays_nil (clear_events hsilent rfl)

theorem displays_erased {d : Device} (h : Displays (screen d.log) d.inputBuffer)
    (hbuf : d.inputBuffer ≠ []) :
    Displays (screen (erased d).log) (erased d).inputBuffer := by
  obtain ⟨prompt, after, hline, hprompt, hafter⟩ := h
  obtain ⟨bytes, c, hlast⟩ : ∃ bytes c, d.inputBuffer = bytes ++ [c] :=
    ⟨_, _, (List.dropLast_concat_getLast hbuf).symm⟩
  have hcells : prompt ++ d.inputBuffer.map .key = prompt ++ bytes.map .key ++ [.key c] := by
    rw [hlast]
    simp
  have hscreen : screen (erased d).log = (screen d.log).write ['\x08', ' ', '\x08'] := by
    rw [erased_log, screen_append]
    rfl
  -- what is left of the byte is a blank right of the cursor
  refine ⟨prompt, .text ' ' :: after, ?_, hprompt, hafter⟩
  rw [hscreen, hline, hcells, write_rubout]
  show _ = Line.mk (prompt ++ d.inputBuffer.dropLast.map .key) _
  rw [hlast, List.dropLast_concat]

theorem screen_stored {c : UInt8} (d : Device) :
    screen (stored c d).log =
      if isPrintable c then (screen d.log).put (.key c) else screen d.log := by
  rw [stored_log, screen_append]
  unfold echoEvents
  split <;> rfl

theorem displays_stored {d : Device} {c : UInt8} (h : Displays (screen d.log) d.inputBuffer)
    (hc : isPrintable c = true) :
    Displays (screen (stored c d).log) (stored c d).inputBuffer := by
  obtain ⟨prompt, after, hline, hprompt, hafter⟩ := h
  have hdrop : List.Sublist ((after.drop 1).filterMap Cell.key?) (after.filterMap Cell.key?) :=
    (List.drop_sublist 1 after).filterMap _
  rw [hafter] at hdrop
  refine ⟨prompt, after.drop 1, ?_, hprompt, List.sublist_nil.mp hdrop⟩
  rw [screen_stored, if_pos hc, hline]
  show Line.mk (prompt ++ d.inputBuffer.map .key ++ [.key c]) _ =
    Line.mk (prompt ++ (d.inputBuffer ++ [c]).map .key) _
  rw [List.map_append, List.append_assoc]
  rfl

/-- A key that is stored without an echo: the screen stays, the buffer grows. -/
theorem not_echoFaithful_stored {d : Device} {c : UInt8} (h : EchoFaithful d)
    (hc : isPrintable c = false) : ¬ EchoFaithful (stored c d) := by
  intro hstored
  -- the keys on the screen would be the buffer, before and after the byte
  have hkeys := hstored.keys
  rw [screen_stored, hc, if_neg Bool.false_ne_true, h.keys] at hkeys
  have hgrown : (stored c d).inputBuffer = d.inputBuffer ++ [c] := rfl
  rw [hgrown] at hkeys
  have hlen := congrArg List.length hkeys
  rw [List.length_append, List.length_singleton] at hlen
  omega

theorem screen_polled (d : Device) : screen (polled d).log = screen d.log := by
  show screen (d.log ++ [_]) = _
  rw [screen_append]
  rfl

theorem displays_powerStep {d : Device} (h : Displays (screen d.log) d.inputBuffer) {p : Poll}
    (hp : ∀ c ∈ received [p], Echoed c) :
    Displays (screen (powerStep d p).log) (powerStep d p).inputBuffer := by
  revert hp
  refine powerStep_cases (motive := fun p d' => (∀ c ∈ received [p], Echoed c) →
    Displays (screen d'.log) d'.inputBuffer) ?_ ?_ ?_ ?_ p
  · intro p _ _
    rw [screen_polled]
    exact h
  · intro c nap _ _ _
    exact displays_submit _ nap d
  · intro c nap _ hbuf _
    exact displays_erased h hbuf
  · intro c nap hend herase hp
    -- neither a terminator nor an erase key, so the byte is printable
    have hprint : isPrintable c = true := by
      rcases hp c (by simp [received]) with hc | hc | hc
      · rw [hc] at hend
        exact absurd hend (by simp)
      · rw [hc] at herase
        exact absurd herase (by simp)
      · exact hc
    exact displays_stored h hprint

theorem echoed_of_echoFaithful {d : Device} (h : EchoFaithful d) {p : Poll}
    (hnext : EchoFaithful (powerStep d p)) : ∀ c ∈ received [p], Echoed c := by
  revert hnext
  refine powerStep_cases (motive := fun p d' => EchoFaithful d' →
    ∀ c ∈ received [p], Echoed c) ?_ ?_ ?_ ?_ p
  · intro p hquiet _ c hc
    cases hquiet with
    | idle => exact absurd hc (by simp [received])
    | blank c' nap hkey _ =>
      rw [List.mem_singleton.mp hc]
      rcases hkey with hend | herase
      · exact Or.inl hend
      · exact Or.inr (Or.inl herase)
  · intro c' nap hend _ _ c hc
    rw [List.mem_singleton.mp hc]
    exact Or.inl hend
  · intro c' nap herase _ _ c hc
    rw [List.mem_singleton.mp hc]
    exact Or.inr (Or.inl herase)
  · intro c' nap _ _ hnext c hc
    rw [List.mem_singleton.mp hc]
    by_contra hne
    have hprint : isPrintable c' = false := by
      rw [Echoed, not_or, not_or, Bool.not_eq_true, Bool.not_eq_true, Bool.not_eq_true] at hne
      exact hne.2.2
    exact not_echoFaithful_stored h hprint hnext

-- ---------------------------------------------------------------------------
-- Whole runs
-- ---------------------------------------------------------------------------

theorem mem_received {c : UInt8} {polls : List Poll} :
    c ∈ received polls ↔ ∃ p ∈ polls, c ∈ received [p] := by
  unfold received
  rw [List.mem_filterMap]
  refine exists_congr fun p => and_congr_right fun _ => ?_
  cases p with
  | idle => simp
  | rx c' nap => simp [eq_comm]

/--
**When the echo can be trusted.** The screen is faithful in every state of a
run exactly when every byte the run reads is CR, LF, BS, DEL or printable.
-/
theorem echoFaithful_iff (polls : List Poll) :
    (∀ pre, pre <+: polls → EchoFaithful (session pre)) ↔
      ∀ c ∈ received polls, Echoed c := by
  have hrun := @Runs.holds_throughout_iff _ _ powerStep EchoFaithful
    (fun d => Displays (screen d.log) d.inputBuffer) (fun _ p => ∀ c ∈ received [p], Echoed c)
    (powerUp []) polls displays_powerUp (fun _ => echoFaithful_of_displays)
    (fun _ _ _ hdisplays hp => displays_powerStep hdisplays hp)
    (fun _ _ _ h hnext => echoed_of_echoFaithful h hnext)
  refine hrun.trans (Runs.forall_step_iff.trans ?_)
  constructor
  · intro h c hc
    obtain ⟨p, hp, hcp⟩ := mem_received.mp hc
    exact h p hp c hcp
  · intro h p hp c hcp
    exact h c (mem_received.mpr ⟨p, hp, hcp⟩)

/-- After `a` and a tab the screen shows `a` only, and an erase key, which
removes the tab, clears the `a`. -/
theorem not_echoFaithful_tab :
    ¬ EchoFaithful (session [.rx 97 ⟨0, 0⟩, .rx 9 ⟨0, 0⟩]) := by
  intro h
  rw [session, Runs.run_cons, Runs.run_cons, Runs.run_nil] at h
  have ha : ∀ c ∈ received [.rx 97 ⟨0, 0⟩], Echoed c := by
    intro c hc
    rw [List.mem_singleton.mp hc]
    exact Or.inr (Or.inr (by decide))
  have hletter : EchoFaithful (powerStep (powerUp []) (.rx 97 ⟨0, 0⟩)) :=
    echoFaithful_of_displays (displays_powerStep displays_powerUp ha)
  have htab : Echoed 9 := echoed_of_echoFaithful hletter h 9 (List.mem_singleton.mpr rfl)
  exact absurd htab (by unfold Echoed; decide)

end YoloUno
