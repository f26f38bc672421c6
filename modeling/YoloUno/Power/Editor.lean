import YoloUno.Power.Accepted
import YoloUno.Lib.LineDiscipline

/-!
# The line editor

`inputBuffer` against the line discipline of `Lib/LineDiscipline.lean`.

* `session_refines` — over any run the lines handed to `parse_command` are
  the nonempty reductions of the terminated pieces of the bytes read, and
  `inputBuffer` is the reduction of the open piece, across light sleeps and
  deep-sleep reboots.
* `typed_sleep` — any way of typing a documented sleep command makes exactly
  the sleep it asks for.
-/

namespace YoloUno

open Numeral LineDiscipline

/-- The lines handed to `parse_command`. -/
def commands (log : List Event) : List Bytes :=
  log.filterMap fun
    | .parse cmd => some cmd
    | _ => none

/-- The sleep calls, with the board at each. -/
def sleeps (log : List Event) : List (SleepKind × Board) :=
  log.filterMap fun
    | .sleep kind b => some (kind, b)
    | _ => none

theorem commands_append (l m : List Event) : commands (l ++ m) = commands l ++ commands m :=
  List.filterMap_append

theorem sleeps_append (l m : List Event) : sleeps (l ++ m) = sleeps l ++ sleeps m :=
  List.filterMap_append

theorem commands_commandEvents (command : Command) (nap : Nap) (d : Device) :
    commands (commandEvents command nap d) = [] := by
  cases command with
  | prompt => rfl
  | menu => rfl
  | silent => rfl
  | sleep kind timeSec => cases kind <;> rfl

theorem commands_settleEvents (o : Outcome) : commands (settleEvents o) = [] := by
  cases o <;> rfl

theorem sleeps_commandEvents {command : Command}
    (h : ∀ kind timeSec, command ≠ .sleep kind timeSec) (nap : Nap) (d : Device) :
    sleeps (commandEvents command nap d) = [] := by
  cases command with
  | prompt => rfl
  | menu => rfl
  | silent => rfl
  | sleep kind timeSec => exact absurd rfl (h kind timeSec)

theorem sleeps_settleEvents (o : Outcome) : sleeps (settleEvents o) = [] := by
  cases o <;> rfl

-- ---------------------------------------------------------------------------
-- One turn of the loop
-- ---------------------------------------------------------------------------

/-- What is read off a log by `f` shows nothing of polls, prints and echoes. -/
structure Unseen {α : Type} (f : Event → Option α) : Prop where
  poll  : ∀ b, f (.poll b) = none
  print : ∀ s, f (.print s) = none
  echo  : ∀ c, f (.echo c) = none

theorem Unseen.polled {α : Type} {f : Event → Option α} (h : Unseen f) (d : Device) :
    (polled d).log.filterMap f = d.log.filterMap f := by
  show (d.log ++ [Event.poll d.board]).filterMap f = _
  rw [List.filterMap_append]
  simp [h.poll]

theorem Unseen.erased {α : Type} {f : Event → Option α} (h : Unseen f) (d : Device) :
    (erased d).log.filterMap f = d.log.filterMap f := by
  rw [erased_log, List.filterMap_append]
  simp [h.poll, h.print]

theorem Unseen.stored {α : Type} {f : Event → Option α} (h : Unseen f) (c : UInt8) (d : Device) :
    (stored c d).log.filterMap f = d.log.filterMap f := by
  rw [stored_log, List.filterMap_append]
  unfold echoEvents
  split <;> simp [h.poll, h.echo]

theorem unseen_commands : Unseen fun
    | .parse cmd => some cmd
    | _ => none := ⟨fun _ => rfl, fun _ => rfl, fun _ => rfl⟩

theorem unseen_sleeps : Unseen fun
    | .sleep kind b => some (kind, b)
    | _ => none := ⟨fun _ => rfl, fun _ => rfl, fun _ => rfl⟩

/-- **One turn of the loop is one key of the line discipline**, or none. -/
theorem powerStep_feed (d : Device) (p : Poll) :
    (commands (powerStep d p).log, (powerStep d p).inputBuffer) =
      (received [p]).foldl (feed isErase isEnd) (commands d.log, d.inputBuffer) := by
  refine powerStep_cases (motive := fun p d' => (commands d'.log, d'.inputBuffer) =
    (received [p]).foldl (feed isErase isEnd) (commands d.log, d.inputBuffer)) ?_ ?_ ?_ ?_ p
  · -- quiet: no byte, or a terminator or an erase key on an empty buffer
    intro p hquiet
    have hlog : commands (polled d).log = commands d.log := unseen_commands.polled d
    rw [hlog]
    cases hquiet with
    | idle => rfl
    | blank c nap hkey hbuf =>
      show (commands d.log, d.inputBuffer) = feed isErase isEnd (commands d.log, d.inputBuffer) c
      unfold feed
      cases hend : isEnd c with
      | true => simp [hbuf]
      | false =>
        rw [hend] at hkey
        have herase : isErase c = true := by simpa using hkey
        simp [edit_erase herase, hbuf]
  · -- a terminator hands the buffer over, whatever the command then does
    intro c nap hend hbuf
    rw [settle_inputBuffer, settle_execute_log, commands_append, commands_append,
      commands_append, commands_commandEvents, commands_settleEvents]
    show _ = feed isErase isEnd (commands d.log, d.inputBuffer) c
    unfold feed
    rw [if_pos hend, if_neg hbuf]
    simp [commands]
  · -- an erase key takes the last byte of the buffer
    intro c nap herase hbuf
    have hlog : commands (erased d).log = commands d.log := unseen_commands.erased d
    rw [hlog]
    show _ = feed isErase isEnd (commands d.log, d.inputBuffer) c
    unfold feed
    rw [not_isEnd_of_isErase herase, if_neg Bool.false_ne_true, edit_erase herase]
    rfl
  · -- any other key goes to the buffer, printable or not
    intro c nap hend herase
    have hlog : commands (stored c d).log = commands d.log := unseen_commands.stored c d
    rw [hlog]
    show _ = feed isErase isEnd (commands d.log, d.inputBuffer) c
    unfold feed
    rw [hend, if_neg Bool.false_ne_true, edit_keep herase]
    rfl

-- ---------------------------------------------------------------------------
-- Whole runs
-- ---------------------------------------------------------------------------

theorem received_append (ps qs : List Poll) : received (ps ++ qs) = received ps ++ received qs :=
  List.filterMap_append

/-- A run is the line discipline over the bytes it reads. -/
theorem run_feed (d : Device) (polls : List Poll) :
    (commands (Runs.run powerStep d polls).log, (Runs.run powerStep d polls).inputBuffer) =
      (received polls).foldl (feed isErase isEnd) (commands d.log, d.inputBuffer) := by
  induction polls generalizing d with
  | nil => rfl
  | cons p polls ih =>
    have hsplit : received (p :: polls) = received [p] ++ received polls :=
      received_append [p] polls
    rw [Runs.run_cons, ih, powerStep_feed, hsplit, List.foldl_append]

theorem powerUp_inputBuffer (log : List Event) : (powerUp log).inputBuffer = [] :=
  start_inputBuffer _

theorem commands_powerUp : commands (powerUp []).log = [] := by
  obtain ⟨b, hlog⟩ := powerUp_log []
  rw [hlog]
  rfl

/--
**The line editor refines its specification.** Over every run from power-on,
with any number of light sleeps and deep-sleep reboots in it, the lines
handed to `parse_command` are those the bytes read submit, and `inputBuffer`
is what is pending.
-/
theorem session_refines (polls : List Poll) :
    commands (session polls).log = LineDiscipline.submitted isErase isEnd (received polls) ∧
      (session polls).inputBuffer = pending isErase isEnd (received polls) := by
  have hrun := run_feed (powerUp []) polls
  rw [commands_powerUp, powerUp_inputBuffer, feed_stream, Prod.mk.injEq] at hrun
  exact hrun

-- ---------------------------------------------------------------------------
-- Typing a sleep command
-- ---------------------------------------------------------------------------

/-- The spellings of the sleep command for `n` seconds: the letter in either
case, `n` in decimal behind `z` zeros, and whitespace around and between. -/
structure Spells (kind : SleepKind) (n : Nat) (line : Bytes) (before ws after : Bytes)
    (m : UInt8) (z : Nat) : Prop where
  eq          : line = before ++ (m :: (ws ++ zerosDecimal z n) ++ after)
  letter      : toUpper m = kind.letter
  blankBefore : ∀ c ∈ before, isSpace c = true ∧ isEnd c = false
  blankWithin : ∀ c ∈ ws, isSpace c = true ∧ isEnd c = false
  blankAfter  : ∀ c ∈ after, isSpace c = true ∧ isEnd c = false
  apart       : ws ≠ []

theorem isSpace_letter {m : UInt8} {kind : SleepKind} (h : toUpper m = kind.letter) :
    isSpace m = false := by
  by_contra hm
  rw [Bool.not_eq_false] at hm
  rw [toUpper_of_lt (toNat_lt_of_isSpace hm)] at h
  rw [h] at hm
  cases kind <;> exact absurd hm (by decide)

/-- **A spelling of `n` is taken for `n`.** -/
theorem interpret_of_spells {kind : SleepKind} {n z : Nat} {line before ws after : Bytes}
    {m : UInt8} (hn : 1 ≤ n) (hmax : n ≤ 2 ^ 31 - 1)
    (h : Spells kind n line before ws after m z) :
    ∃ timeSec, interpret line = .sleep kind timeSec ∧ timeSec.toNat = n := by
  -- the byte that `substring` drops is the first blank after the letter
  obtain ⟨w, ws', hws⟩ := List.exists_cons_of_ne_nil h.apart
  set number := zerosDecimal z n with hnumber
  have hdigits : ∀ c ∈ number, isDigit c = true := isDigit_zerosDecimal
  have hvalue : value number = n := value_zerosDecimal z n
  have hne : number ≠ [] := by
    intro hnil
    rw [hnil, value_nil] at hvalue
    omega
  -- the last byte of the trimmed line is a digit
  obtain ⟨front, d, hlast⟩ : ∃ front d, number = front ++ [d] :=
    ⟨_, _, (List.dropLast_concat_getLast hne).symm⟩
  have hd : isSpace d = false := (isDigit_disjoint (hdigits d (by rw [hlast]; simp))).1
  have htrim : trim line = m :: (ws ++ number) := by
    rw [h.eq]
    refine trim_padded (ws ++ number) (fun c hc => (h.blankBefore c hc).1)
      (fun c hc => (h.blankAfter c hc).1) rfl (isSpace_letter h.letter) ?_ hd
    rw [← hnumber, hlast, ← List.append_assoc, ← List.cons_append, List.getLast?_concat]
  have hupper : toUpperCase (trim line) = kind.letter :: (ws ++ number) := by
    rw [htrim]
    show toUpper m :: toUpperCase (ws ++ number) = _
    rw [h.letter, toUpperCase_of_lt]
    intro c hc
    rcases List.mem_append.mp hc with hc | hc
    · exact toNat_lt_of_isSpace (h.blankWithin c hc).1
    · exact toNat_lt_of_isDigit (hdigits c hc)
  have hreads : Reads line kind w ws' [] number [] := by
    refine ⟨by rw [hupper, hws]; simp, ⟨rfl, ?_, Or.inl rfl, hdigits, by simp, by omega⟩⟩
    intro c hc
    exact (h.blankWithin c (by rw [hws]; exact List.mem_cons_of_mem _ hc)).1
  obtain ⟨timeSec, hcmd, hsec⟩ := interpret_of_reads hreads
  refine ⟨timeSec, hcmd, ?_⟩
  rw [hsec, hvalue, Nat.min_eq_left hmax]

/-- A turn that submits no sleep command starts no sleep. -/
theorem sleeps_powerStep {d : Device} {p : Poll}
    (h : ∀ c ∈ received [p], isEnd c = true → d.inputBuffer ≠ [] →
      ∀ kind timeSec, interpret d.inputBuffer ≠ .sleep kind timeSec) :
    sleeps (powerStep d p).log = sleeps d.log := by
  revert h
  refine powerStep_cases (motive := fun p d' => (∀ c ∈ received [p], isEnd c = true →
    d.inputBuffer ≠ [] → ∀ kind timeSec, interpret d.inputBuffer ≠ .sleep kind timeSec) →
    sleeps d'.log = sleeps d.log) ?_ ?_ ?_ ?_ p
  · intro p _ _
    exact unseen_sleeps.polled d
  · intro c nap hend hbuf h
    have hidle := h c (by simp [received]) hend hbuf
    rw [settle_execute_log, sleeps_append, sleeps_append, sleeps_append,
      sleeps_commandEvents hidle, sleeps_settleEvents]
    exact List.append_nil _
  · intro c nap _ _ _
    exact unseen_sleeps.erased d
  · intro c nap _ _ _
    exact unseen_sleeps.stored c d

/-- Keys that are no terminators start no sleep. -/
theorem sleeps_run {d : Device} {polls : List Poll}
    (h : ∀ c ∈ received polls, isEnd c = false) :
    sleeps (Runs.run powerStep d polls).log = sleeps d.log := by
  induction polls generalizing d with
  | nil => rfl
  | cons p polls ih =>
    have hsplit : received (p :: polls) = received [p] ++ received polls :=
      received_append [p] polls
    rw [hsplit] at h
    rw [Runs.run_cons, ih fun c hc => h c (List.mem_append_right _ hc)]
    refine sleeps_powerStep fun c hc hend => ?_
    rw [h c (List.mem_append_left _ hc)] at hend
    exact absurd hend (by simp)

/-- Where a terminator was read last: the polls before it, and the idle ones
behind. -/
theorem received_concat_split {polls : List Poll} {keys : Bytes} {t : UInt8}
    (h : received polls = keys ++ [t]) :
    ∃ ps nap qs, polls = ps ++ .rx t nap :: qs ∧ received ps = keys ∧ received qs = [] := by
  unfold received at h
  obtain ⟨ps, rest, rfl, hps, hrest⟩ := List.filterMap_eq_append_iff.mp h
  obtain ⟨idles, p, qs, rfl, hidles, hp, hqs⟩ := List.filterMap_eq_cons_iff.mp hrest
  obtain ⟨nap, rfl⟩ : ∃ nap, p = .rx t nap := by
    cases p with
    | idle => exact absurd hp (by simp)
    | rx c nap => exact ⟨nap, by rw [Option.some.inj hp]⟩
  refine ⟨ps ++ idles, nap, qs, by simp, ?_, hqs⟩
  rw [received_append]
  show received ps ++ idles.filterMap _ = keys
  rw [List.filterMap_eq_nil_iff.mpr hidles, List.append_nil]
  exact hps

/-- A terminator after a line that is taken for a sleep command makes that
sleep call and no other. -/
theorem sleeps_submit {d : Device} {c : UInt8} {nap : Nap} {kind : SleepKind}
    {timeSec : UInt32} (hend : isEnd c = true) (hbuf : d.inputBuffer ≠ [])
    (hcmd : interpret d.inputBuffer = .sleep kind timeSec) :
    sleeps (powerStep d (.rx c nap)).log =
      sleeps d.log ++ [(kind, sleepBoard kind timeSec (atParse d))] := by
  rw [powerStep_submit nap hend hbuf, settle_execute_log, sleeps_append, sleeps_append,
    sleeps_append, sleeps_settleEvents, hcmd]
  cases kind with
  | light => simp [sleeps, commandEvents]
  | deep => simp [sleeps, commandEvents]

/--
**A documented sleep command takes effect exactly as typed.** In every
reachable state that polls with an empty buffer, any keys that reduce to a
spelling of the command for `n` seconds, followed by a terminator, make one
sleep call, of that kind, with the timer armed for `n` seconds.
-/
theorem typed_sleep {polls typed : List Poll} {kind : SleepKind} {n z : Nat}
    {keys line before ws after : Bytes} {m t : UInt8}
    (hbuf : (session polls).inputBuffer = [])
    (hn : 1 ≤ n) (hmax : n ≤ 2 ^ 31 - 1)
    (hline : Spells kind n line before ws after m z)
    (hkeys : ∀ k ∈ keys, isEnd k = false)
    (hreduce : Cancels isErase keys line)
    (ht : isEnd t = true)
    (htyped : received typed = keys ++ [t]) :
    ∃ b us, sleeps (session (polls ++ typed)).log =
        sleeps (session polls).log ++ [(kind, b)] ∧
      b.timerWakeup = some us ∧ us.toNat = n * 1000000 := by
  obtain ⟨ps, nap, qs, rfl, hkeysRead, hquiet⟩ := received_concat_split htyped
  -- `e` is the state in which the terminator arrives: its buffer is the line
  set d := session polls with hd
  set e := Runs.run powerStep d ps with he
  have hebuf : e.inputBuffer = line := by
    have hrun := run_feed d ps
    rw [hkeysRead, foldl_feed_of_noEnd hkeys, ← he, Prod.mk.injEq] at hrun
    rw [hrun.2, hbuf, foldl_edit_nil, ← cancels_iff.mp hreduce]
  have hesleeps : sleeps e.log = sleeps d.log := sleeps_run (by rw [hkeysRead]; exact hkeys)
  have hline_ne : line ≠ [] := by
    rw [hline.eq]
    simp
  obtain ⟨timeSec, hcmd, hsec⟩ := interpret_of_spells hn hmax hline
  obtain ⟨us, harmed, hus⟩ := sleepBoard_timerWakeup kind timeSec (atParse e)
  refine ⟨sleepBoard kind timeSec (atParse e), us, ?_, harmed, by rw [hus, hsec]⟩
  have hrun : session (polls ++ (ps ++ .rx t nap :: qs)) =
      Runs.run powerStep (powerStep e (.rx t nap)) qs := by
    rw [session, Runs.run_append, Runs.run_append, Runs.run_cons]
    rfl
  -- after the terminator nothing more is read
  rw [hrun, sleeps_run (by simp [hquiet]),
    sleeps_submit ht (by rw [hebuf]; exact hline_ne) (by rw [hebuf]; exact hcmd), hesleeps]

/-- `l 7`, with the digit mistyped once. -/
theorem typed_sleep_corrected :
    ∃ b us, sleeps (session ([] ++
        (ascii "l 8\x7f7\r").map fun c => Poll.rx c ⟨0, 7000⟩)).log =
        sleeps (session []).log ++ [(.light, b)] ∧
      b.timerWakeup = some us ∧ us.toNat = 7 * 1000000 := by
  have hblank : isSpace 32 = true ∧ isEnd 32 = false := by decide
  have hspells : Spells .light 7 (ascii "l 7") [] [32] [] 108 0 :=
    ⟨by simp [zerosDecimal, decimal]; decide, by decide, by simp,
      List.forall_mem_singleton.mpr hblank, by simp, by simp⟩
  have hkeys : ((ascii "l 8\x7f7").all fun k => !isEnd k) = true := by decide
  exact @typed_sleep [] _ .light 7 0 (ascii "l 8\x7f7") (ascii "l 7") [] [32] [] 108 13
    (powerUp_inputBuffer []) (by decide) (by decide) hspells
    (fun k hk => by simpa using List.all_eq_true.mp hkeys k hk)
    (cancels_iff.mpr (by decide)) (by decide) (by decide)

end YoloUno
