import YoloUno.Power.Command

/-!
# The command language

Which lines `parse_command` acts on, what it takes them for, and how that
compares with the grammar its menu prints (`L <sec>`, `D <sec>`).

* `interpret_eq_sleep_iff` — a line starts a sleep exactly when it `Reads` as
  one: L or D, any byte, and a string that opens with a positive number. The
  sleep takes the number, cut off at 2³¹ − 1.
* `sleepsAsWritten_iff` — the line is `Documented` and sleeps for the number
  written exactly when it is not `Misread`.
* `promptBack_iff` — the prompt comes back exactly after the lines that are
  `Answered`.
-/

namespace YoloUno

open Numeral

def SleepKind.letter : SleepKind → UInt8
  | .light => 76
  | .deep => 68

/-- How `parse_command` reads a line it acts on: the letter, whatever byte
comes second, and a string that opens with a positive number. -/
structure Reads (cmd : Bytes) (kind : SleepKind) (sep : UInt8) (ws plus ds rest : Bytes) :
    Prop where
  line  : toUpperCase (trim cmd) = kind.letter :: sep :: (ws ++ (plus ++ (ds ++ rest)))
  opens : Opens (ws ++ (plus ++ (ds ++ rest))) ws plus ds rest

-- ---------------------------------------------------------------------------
-- What `interpret` makes of a line
-- ---------------------------------------------------------------------------

/-- A line of three or more bytes that does not begin with M. -/
theorem interpret_of_line {cmd number : Bytes} {m sep : UInt8}
    (hline : toUpperCase (trim cmd) = m :: sep :: number) (hne : number ≠ [])
    (hm : m ≠ 77) :
    interpret cmd =
      if atol number ≤ 0 then .silent
      else if m = 76 then .sleep .light (toInt number).toUInt32
      else if m = 68 then .sleep .deep (toInt number).toUInt32
      else .silent := by
  obtain ⟨x, xs, rfl⟩ := List.exists_cons_of_ne_nil hne
  -- the comparison with M fails on the first byte already
  have hmenu : equals (m :: sep :: x :: xs) (ascii "M") = false := by
    show ((m :: sep :: x :: xs).takeWhile (· != 0) == [77]) = false
    rw [beq_eq_false_iff_ne, List.takeWhile_cons]
    split
    · intro h
      exact hm (List.cons.inj h).1
    · simp
  unfold interpret
  dsimp only
  rw [hline, hmenu, if_neg (by simp), if_neg (by simp), if_neg (by simp)]
  show (if toInt (x :: xs) ≤ 0 then Command.silent
    else if m = 76 then .sleep .light (toInt (x :: xs)).toUInt32
    else if m = 68 then .sleep .deep (toInt (x :: xs)).toUInt32
    else .silent) = _
  simp only [toInt_le_zero]

theorem opens_ne_nil {s ws plus ds rest : Bytes} (h : Opens s ws plus ds rest) : s ≠ [] := by
  rintro rfl
  have := h.eq
  simp only [List.nil_eq, List.append_eq_nil_iff] at this
  exact h.digits_ne_nil this.2.2.1

/-- A line that reads as a command is taken for it. -/
theorem interpret_of_reads {cmd ws plus ds rest : Bytes} {kind : SleepKind} {sep : UInt8}
    (h : Reads cmd kind sep ws plus ds rest) :
    ∃ timeSec, interpret cmd = .sleep kind timeSec ∧
      timeSec.toNat = min (value ds) (2 ^ 31 - 1) := by
  have hatol := atol_of_opens h.opens
  have hpos : 0 < atol (ws ++ (plus ++ (ds ++ rest))) := by
    have := h.opens.pos
    rw [hatol, longMax]
    omega
  refine ⟨(toInt (ws ++ (plus ++ (ds ++ rest)))).toUInt32, ?_, ?_⟩
  -- the number is positive, so the letter decides
  · rw [interpret_of_line h.line (opens_ne_nil h.opens) (by cases kind <;> decide),
      if_neg (by omega)]
    cases kind <;> rfl
  · have hnat := toUInt32_toInt hpos
    rw [hatol, longMax] at hnat
    omega

/-- A line that is taken for a sleep command reads as one. -/
theorem reads_of_interpret {cmd : Bytes} {kind : SleepKind} {timeSec : UInt32}
    (h : interpret cmd = .sleep kind timeSec) :
    ∃ sep ws plus ds rest, Reads cmd kind sep ws plus ds rest := by
  unfold interpret at h
  dsimp only at h
  -- blank, M and short lines are no sleep commands
  split at h
  · exact absurd h (by simp)
  split at h
  · exact absurd h (by simp)
  split at h
  · exact absurd h (by simp)
  next hlen =>
  -- three bytes at least: the letter, the byte after it, the number
  obtain ⟨m, sep, number, hline⟩ :
      ∃ m sep number, toUpperCase (trim cmd) = m :: sep :: number := by
    match hs : toUpperCase (trim cmd) with
    | [] => rw [hs] at hlen; simp at hlen
    | [x] => rw [hs] at hlen; simp at hlen
    | m :: sep :: number => exact ⟨m, sep, number, rfl⟩
  rw [hline] at h
  change (if toInt number ≤ 0 then Command.silent
    else if m = 76 then .sleep .light (toInt number).toUInt32
    else if m = 68 then .sleep .deep (toInt number).toUInt32
    else .silent) = .sleep kind timeSec at h
  split at h
  · exact absurd h (by simp)
  next htime =>
  rw [toInt_le_zero] at htime
  -- a positive number begins with an optional sign and digits
  obtain ⟨ws, plus, ds, rest, hopens⟩ := opens_of_atol_pos (show 0 < atol number by omega)
  have hm : m = kind.letter := by
    split at h
    · next hm =>
      rw [Command.sleep.injEq] at h
      rw [← h.1]
      exact hm
    · split at h
      · next hm =>
        rw [Command.sleep.injEq] at h
        rw [← h.1]
        exact hm
      · exact absurd h (by simp)
  refine ⟨sep, ws, plus, ds, rest, ?_, ?_⟩
  · rw [hline, hm, ← hopens.eq]
  · rw [← hopens.eq]
    exact hopens

/-- **The language of `parse_command`.** -/
theorem interpret_eq_sleep_iff {cmd : Bytes} {kind : SleepKind} {timeSec : UInt32} :
    interpret cmd = .sleep kind timeSec ↔
      ∃ sep ws plus ds rest, Reads cmd kind sep ws plus ds rest ∧
        timeSec.toNat = min (value ds) (2 ^ 31 - 1) := by
  constructor
  · intro h
    obtain ⟨sep, ws, plus, ds, rest, hreads⟩ := reads_of_interpret h
    obtain ⟨timeSec', h', hnat⟩ := interpret_of_reads hreads
    rw [h, Command.sleep.injEq] at h'
    exact ⟨sep, ws, plus, ds, rest, hreads, by rw [h'.2]; exact hnat⟩
  · intro h
    obtain ⟨sep, ws, plus, ds, rest, hreads, hsec⟩ := h
    obtain ⟨timeSec', h', hnat⟩ := interpret_of_reads hreads
    rw [h', Command.sleep.injEq]
    exact ⟨rfl, UInt32.toNat_inj.mp (hnat.trans hsec.symm)⟩

example : interpret (ascii " d 060 ") = .sleep .deep 60 := by decide
example : interpret (ascii "LX5 min") = .sleep .light 5 := by decide

-- ---------------------------------------------------------------------------
-- What a call of `parse_command` adds to the log
-- ---------------------------------------------------------------------------

/-- The events of a call that was made at `d`. -/
def emitted (d : Device) (o : Outcome) : List Event := o.device.log.drop d.log.length

theorem emitted_parseCommand (cmd : Bytes) (nap : Nap) (d : Device) :
    emitted d (parseCommand cmd nap d) = commandEvents (interpret cmd) nap d := by
  rw [emitted, parseCommand_eq, execute_log, List.drop_left]

theorem sleep_mem_commandEvents {command : Command} {nap : Nap} {d : Device} {kind : SleepKind}
    {b : Board} :
    Event.sleep kind b ∈ commandEvents command nap d ↔
      ∃ timeSec, command = .sleep kind timeSec ∧ b = sleepBoard kind timeSec d := by
  cases command with
  | prompt => simp [commandEvents]
  | menu => simp [commandEvents, menuEvents]
  | silent => simp [commandEvents]
  | sleep kind' timeSec => cases kind' <;> cases kind <;> simp [commandEvents]

-- ---------------------------------------------------------------------------
-- Soundness of the language
-- ---------------------------------------------------------------------------

/-- The form the menu documents: the letter, whitespace, a positive decimal
number, and nothing else. -/
def Documented (kind : SleepKind) (ds cmd : Bytes) : Prop :=
  ∃ ws, ws ≠ [] ∧ (∀ c ∈ ws, isSpace c = true) ∧ (∀ c ∈ ds, isDigit c = true) ∧
    0 < value ds ∧ toUpperCase (trim cmd) = kind.letter :: (ws ++ ds)

/-- Any sleep that the line starts is documented, and the timer is armed for
the number of seconds that the line's digits denote. -/
def SleepsAsWritten (cmd : Bytes) : Prop :=
  ∀ nap d kind b, Event.sleep kind b ∈ emitted d (parseCommand cmd nap d) →
    ∃ ds, Documented kind ds cmd ∧
      ∃ us, b.timerWakeup = some us ∧ us.toNat = value ds * 1000000

/-- The lines `parse_command` acts on though they are not documented, or not
for the time they write: the second byte is no whitespace, a plus sign stands
before the digits, something follows them, or they exceed a `long`. -/
def Misread (cmd : Bytes) : Prop :=
  ∃ kind sep ws plus ds rest, Reads cmd kind sep ws plus ds rest ∧
    (isSpace sep = false ∨ plus ≠ [] ∨ rest ≠ [] ∨ 2 ^ 31 - 1 < value ds)

theorem sleepsAsWritten_of_not_misread {cmd : Bytes} (h : ¬ Misread cmd) :
    SleepsAsWritten cmd := by
  intro nap d kind b hmem
  rw [emitted_parseCommand, sleep_mem_commandEvents] at hmem
  obtain ⟨timeSec, hcmd, rfl⟩ := hmem
  obtain ⟨sep, ws, plus, ds, rest, hreads, hsec⟩ := interpret_eq_sleep_iff.mp hcmd
  -- none of the four ways to be misread applies
  have hgood : ¬ (isSpace sep = false ∨ plus ≠ [] ∨ rest ≠ [] ∨ 2 ^ 31 - 1 < value ds) :=
    fun hbad => h ⟨kind, sep, ws, plus, ds, rest, hreads, hbad⟩
  simp only [not_or, Bool.not_eq_false, not_not, Nat.not_lt, ne_eq] at hgood
  obtain ⟨hsep, rfl, rfl, hmax⟩ := hgood
  refine ⟨ds, ⟨sep :: ws, by simp, ?_, hreads.opens.digits, hreads.opens.pos, ?_⟩, ?_⟩
  · intro c hc
    rcases List.mem_cons.mp hc with rfl | hc
    · exact hsep
    · exact hreads.opens.blank c hc
  · simpa using hreads.line
  · obtain ⟨us, harmed, hus⟩ := sleepBoard_timerWakeup kind timeSec d
    refine ⟨us, harmed, ?_⟩
    rw [hus, hsec, Nat.min_eq_left hmax]

theorem not_sleepsAsWritten_of_misread {cmd : Bytes} (h : Misread cmd) :
    ¬ SleepsAsWritten cmd := by
  intro hsound
  obtain ⟨kind, sep, ws, plus, ds, rest, hreads, hbad⟩ := h
  obtain ⟨timeSec, hcmd, hsec⟩ := interpret_of_reads hreads
  -- run the line anywhere; it sleeps, so it would have to be documented
  set d : Device := ⟨Board.powerOn, [], []⟩
  have hmem : Event.sleep kind (sleepBoard kind timeSec d) ∈
      emitted d (parseCommand cmd ⟨0, 0⟩ d) := by
    rw [emitted_parseCommand, sleep_mem_commandEvents]
    exact ⟨timeSec, hcmd, rfl⟩
  obtain ⟨ds', ⟨ws', hne, hblank, hdigits, hpos, hline⟩, us, harmed, hus⟩ :=
    hsound _ _ _ _ hmem
  obtain ⟨sep', ws', rfl⟩ := List.exists_cons_of_ne_nil hne
  -- both readings are of the same line, and a reading is unique
  rw [hreads.line, List.cons.injEq, List.cons_append, List.cons.injEq] at hline
  obtain ⟨-, rfl, hnumber⟩ := hline
  have hopens' : Opens (ws ++ (plus ++ (ds ++ rest))) ws' [] ds' [] := by
    refine ⟨by simpa using hnumber, fun c hc => hblank c (List.mem_cons_of_mem _ hc),
      Or.inl rfl, hdigits, by simp, hpos⟩
  obtain ⟨-, hplus, rfl, hrest⟩ := hreads.opens.unique hopens'
  rcases hbad with hsep | hbad | hbad | hmax
  · rw [hblank sep (List.mem_cons_self ..)] at hsep
    exact absurd hsep (by simp)
  · exact hbad hplus
  · exact hbad hrest
  · -- the line is documented, but the timer stops at the largest `long`
    obtain ⟨us', harmed', hus'⟩ := sleepBoard_timerWakeup kind timeSec d
    rw [harmed, Option.some.injEq] at harmed'
    subst harmed'
    omega

/-- **When a line sleeps as written**: exactly when it is not misread. -/
theorem sleepsAsWritten_iff (cmd : Bytes) : SleepsAsWritten cmd ↔ ¬ Misread cmd :=
  ⟨fun h hmis => not_sleepsAsWritten_of_misread hmis h, sleepsAsWritten_of_not_misread⟩

/-- `L-5` sleeps five seconds. -/
theorem not_sleepsAsWritten_minus : ¬ SleepsAsWritten (ascii "L-5") := by
  refine not_sleepsAsWritten_of_misread
    ⟨.light, 45, [], [], [53], [], ⟨rfl, ⟨rfl, by simp, Or.inl rfl, ?_, by simp, ?_⟩⟩, ?_⟩
  · exact List.forall_mem_singleton.mpr (by decide)
  · decide
  · decide

-- ---------------------------------------------------------------------------
-- The prompt
-- ---------------------------------------------------------------------------

/-- The call enters deep sleep, or what it has written when it returns ends
with the prompt. -/
def PromptBack (cmd : Bytes) : Prop :=
  ∀ nap d, (∃ d', parseCommand cmd nap d = .deepSleep d') ∨
    ">>> ".toList <:+ output (emitted d (parseCommand cmd nap d))

/-- The lines that are answered: fewer than three bytes, M, or a letter L or
D with a second byte and a string that opens with a positive number. -/
def Answered (cmd : Bytes) : Prop :=
  (toUpperCase (trim cmd)).length < 3 ∨ equals (toUpperCase (trim cmd)) (ascii "M") = true ∨
    ∃ kind sep ws plus ds rest, Reads cmd kind sep ws plus ds rest

theorem interpret_ne_silent_iff (cmd : Bytes) : interpret cmd ≠ .silent ↔ Answered cmd := by
  constructor
  · intro h
    by_cases hshort : (toUpperCase (trim cmd)).length < 3
    · exact Or.inl hshort
    by_cases hmenu : equals (toUpperCase (trim cmd)) (ascii "M") = true
    · exact Or.inr (Or.inl hmenu)
    refine Or.inr (Or.inr ?_)
    -- a long line that is not M is a sleep command or silent
    have hlong : (∃ kind timeSec, interpret cmd = .sleep kind timeSec) ∨
        interpret cmd = .silent := by
      unfold interpret
      dsimp only
      rw [if_neg (by omega), if_neg hmenu, if_neg hshort]
      split
      · exact Or.inr rfl
      split
      · exact Or.inl ⟨.light, _, rfl⟩
      split
      · exact Or.inl ⟨.deep, _, rfl⟩
      · exact Or.inr rfl
    rcases hlong with ⟨kind, timeSec, hsleep⟩ | hsilent
    · exact ⟨kind, reads_of_interpret hsleep⟩
    · exact absurd hsilent h
  · intro h hsilent
    -- each of the three ways to be answered takes a branch that is not silent
    rcases h with hshort | hmenu | ⟨kind, sep, ws, plus, ds, rest, hreads⟩
    · unfold interpret at hsilent
      dsimp only at hsilent
      rw [if_pos hshort] at hsilent
      split at hsilent
      · exact absurd hsilent (by simp)
      split at hsilent
      · exact absurd hsilent (by simp)
      · exact absurd hsilent (by simp)
    · unfold interpret at hsilent
      dsimp only at hsilent
      rw [if_pos hmenu] at hsilent
      split at hsilent
      · exact absurd hsilent (by simp)
      · exact absurd hsilent (by simp)
    · obtain ⟨timeSec, hsleep, -⟩ := interpret_of_reads hreads
      rw [hsilent] at hsleep
      exact absurd hsleep (by simp)

/-- Events that end with the prompt end the output with it. -/
theorem prompt_suffix (events : List Event) :
    ">>> ".toList <:+ output (events ++ [.print ">>> "]) := by
  rw [output, List.flatMap_append]
  exact List.suffix_append _ _

theorem promptBack_of_ne_silent {cmd : Bytes} (h : interpret cmd ≠ .silent) :
    PromptBack cmd := by
  intro nap d
  rw [emitted_parseCommand, parseCommand_eq]
  cases hcmd : interpret cmd with
  | prompt => exact Or.inr (prompt_suffix [])
  | menu => exact Or.inr (prompt_suffix (.menu d.board :: (menuHead d.board).map .print ++
      .printf .bootCount (menuCount d.board) :: menuTail.map .print))
  | silent => exact absurd hcmd h
  | sleep kind timeSec =>
    -- a light sleep prompts after its wake; a deep one does not return
    cases kind with
    | light => exact Or.inr (prompt_suffix [_, _, _, _, _, _])
    | deep => exact Or.inl ⟨_, rfl⟩

theorem not_promptBack_of_silent {cmd : Bytes} (h : interpret cmd = .silent) :
    ¬ PromptBack cmd := by
  intro hback
  rcases hback ⟨0, 0⟩ ⟨Board.powerOn, [], []⟩ with ⟨d', hdeep⟩ | hprompt
  · rw [parseCommand_eq, h] at hdeep
    exact absurd hdeep (by simp [execute])
  · rw [emitted_parseCommand, h] at hprompt
    -- a silent call writes nothing at all
    have hnil : output (commandEvents .silent ⟨0, 0⟩ ⟨Board.powerOn, [], []⟩) = [] := rfl
    rw [hnil, List.suffix_nil] at hprompt
    exact absurd hprompt (by decide)

/-- **When the prompt comes back**: exactly after the lines that are
answered. -/
theorem promptBack_iff (cmd : Bytes) : PromptBack cmd ↔ Answered cmd := by
  rw [← interpret_ne_silent_iff]
  exact ⟨fun h hsilent => not_promptBack_of_silent hsilent h, promptBack_of_ne_silent⟩

/-- `X 5` is met with silence. -/
theorem not_promptBack_unknown : ¬ PromptBack (ascii "X 5") :=
  not_promptBack_of_silent (by decide)

end YoloUno
