import YoloUno.Sensor.Held
import YoloUno.Lib.Counter

/-!
# The pace of the monitor

`DHT20::read` refuses to ask the sensor more than once a second. It measures
the second with `millis`, which wraps after 2³² ms, from the last frame that
arrived whole, or from the start of the chip as long as none has. A `Turn` has
the true times beside the readings.

* `frames_apart` — frames that are stored lie a second or more apart, however
  fast the calls come.
* `refused_iff` — when calls lie a second or more apart, one is refused only
  in the first second, or once the sensor has been silent for 2³² ms.
-/

namespace YoloUno

/-- A turn of the loop on the true clock, in milliseconds since the start of
the chip. -/
structure Turn where
  start      : Nat
  answered   : Nat
  exchange   : Exchange
  le         : start ≤ answered
  readTime   : exchange.readTime = UInt32.ofNat start
  answerTime : exchange.answerTime = UInt32.ofNat answered

/-- The turns follow each other with a pause between them. -/
def Spaced (pause : Nat) (turns : List Turn) : Prop :=
  turns.Pairwise fun t u => t.answered + pause ≤ u.start

instance (pause : Nat) (turns : List Turn) : Decidable (Spaced pause turns) :=
  inferInstanceAs (Decidable (turns.Pairwise _))

/-- What the monitor holds, and the turns that stored a frame. -/
structure Tape where
  held   : Held
  stored : List Turn

def Tape.step (s : Tape) (t : Turn) : Tape where
  held   := s.held.step t.exchange
  stored := if Brings s.held.lastRead t.exchange then s.stored ++ [t] else s.stored

def tape (turns : List Turn) : Tape := Runs.run Tape.step ⟨⟨none, 0⟩, []⟩ turns

/-- The true time of the last frame, or of the start. -/
def lastStored (stored : List Turn) : Nat := (stored.getLast?.map Turn.answered).getD 0

/-- The tape is what the monitor holds. -/
theorem tape_held (turns : List Turn) : (tape turns).held = held (turns.map Turn.exchange) := by
  have hboth : ∀ s : Tape, (Runs.run Tape.step s turns).held =
      Runs.run Held.step s.held (turns.map Turn.exchange) := by
    induction turns with
    | nil => intro s; rfl
    | cons t turns ih => exact fun s => ih (s.step t)
  exact hboth ⟨⟨none, 0⟩, []⟩

/-- A difference of two readings of the clock is the time between them, less
whole periods. -/
theorem toNat_reading_sub {last now : Nat} (h : last ≤ now) :
    (UInt32.ofNat now - UInt32.ofNat last).toNat = (now - last) % 2 ^ 32 := by
  have hsplit : now = last + (now - last) := by omega
  rw [hsplit, Counter.ofNat_sub_ofNat]
  simp

/-! ## The invariant -/

/-- The frames of a tape, up to a time at which all of them are past. -/
structure Taped (s : Tape) (now : Nat) : Prop where
  lastRead : s.held.lastRead = UInt32.ofNat (lastStored s.stored)
  past     : ∀ t ∈ s.stored, t.answered ≤ lastStored s.stored
  le       : lastStored s.stored ≤ now

/-- `read` refuses a call exactly when less than a second has passed since the
last frame, less whole periods of the clock. -/
theorem Taped.recent_iff {s : Tape} {t : Turn} (h : Taped s t.start) :
    t.exchange.readTime - s.held.lastRead < 1000 ↔
      (t.start - lastStored s.stored) % 2 ^ 32 < 1000 := by
  rw [h.lastRead, t.readTime, UInt32.lt_iff_toNat_lt, toNat_reading_sub h.le]
  rfl

/-- A call that brings a frame comes a second after the last one. -/
theorem Taped.rested {s : Tape} {t : Turn} (h : Taped s t.start)
    (hbrings : Brings s.held.lastRead t.exchange) : 1000 ≤ t.start - lastStored s.stored := by
  have hrested := UInt32.not_lt.mpr hbrings.rested
  rw [h.recent_iff] at hrested
  have := Nat.mod_le (t.start - lastStored s.stored) (2 ^ 32)
  omega

theorem stored_step (s : Tape) (t : Turn) :
    (s.step t).stored = if Brings s.held.lastRead t.exchange then s.stored ++ [t] else s.stored :=
  rfl

theorem taped_step {s : Tape} {t : Turn} (h : Taped s t.start) :
    Taped (s.step t) t.answered := by
  by_cases hbrings : Brings s.held.lastRead t.exchange
  · have hlong := h.rested hbrings
    have hstored : (s.step t).stored = s.stored ++ [t] := if_pos hbrings
    have hlast : lastStored (s.step t).stored = t.answered := by
      rw [hstored, lastStored, List.getLast?_concat]
      rfl
    have hheld : (s.step t).held = ⟨some t.exchange.answer, t.exchange.answerTime⟩ :=
      if_pos hbrings
    have hturn := t.le
    refine ⟨?_, ?_, ?_⟩
    · rw [hheld, hlast, ← t.answerTime]
    · intro u hu
      rw [hlast]
      rw [hstored] at hu
      rcases List.mem_append.mp hu with hold | hnew
      · have := h.past u hold
        omega
      · rw [List.mem_singleton.mp hnew]
    · rw [hlast]
  · have hsame : s.step t = s := by
      unfold Tape.step Held.step
      rw [if_neg hbrings, if_neg hbrings]
    rw [hsame]
    exact ⟨h.lastRead, h.past, h.le.trans t.le⟩

/-- Before each turn of a run the frames so far are past. -/
theorem taped_of_spaced {pause : Nat} {turns : List Turn} (h : Spaced pause turns) :
    ∀ pre t, pre ++ [t] <+: turns → Taped (tape pre) t.start := by
  intro pre
  induction pre using List.reverseRecOn with
  | nil => exact fun t _ => ⟨rfl, by simp [tape], Nat.zero_le _⟩
  | append_singleton pre u ih =>
    intro t hpre
    have hshort : pre ++ [u] <+: turns := (List.prefix_append _ [t]).trans hpre
    have hstep := taped_step (ih u hshort)
    have hnext : u.answered + pause ≤ t.start := by
      have hpair := h.sublist hpre.sublist
      rw [List.pairwise_append] at hpair
      exact hpair.2.2 u (by simp) t (by simp)
    rw [tape, Runs.run_concat, ← tape]
    exact ⟨hstep.lastRead, hstep.past, by have := hstep.le; omega⟩

theorem stored_sublist (turns : List Turn) : (tape turns).stored.Sublist turns := by
  induction turns using List.reverseRecOn with
  | nil => exact List.Sublist.refl _
  | append_singleton turns t ih =>
    rw [tape, Runs.run_concat, ← tape]
    show (if _ then (tape turns).stored ++ [t] else (tape turns).stored).Sublist _
    split
    · exact ih.append (List.Sublist.refl _)
    · exact ih.trans (List.sublist_append_left ..)

theorem stored_mono (turns more : List Turn) :
    (tape turns).stored <+: (tape (turns ++ more)).stored := by
  induction more using List.reverseRecOn with
  | nil => rw [List.append_nil]
  | append_singleton more t ih =>
    rw [← List.append_assoc, tape, tape, Runs.run_concat, ← tape, ← tape, stored_step]
    split
    · exact ih.trans (List.prefix_append _ _)
    · exact ih

/-! ## What `read` returns -/

/-- An error of `readData`, or seven bytes that are not all zero. -/
theorem readData_status (x : Exchange) (d : Dht20) :
    (d.readData x).2 = dht20ErrorConnect ∨ (d.readData x).2 = dht20MissingBytes ∨
      (d.readData x).2 = dht20ErrorBytesAllZero ∨
      ((d.readData x).2 = 7 ∧ x.answer.length = 7 ∧ x.answer.all (· == 0) = false) := by
  by_cases hlen : x.answer.length = 7
  · rw [readData_of_complete hlen]
    cases x.answer.all (· == 0) with
    | true => exact Or.inr (Or.inr (Or.inl rfl))
    | false => exact Or.inr (Or.inr (Or.inr ⟨rfl, hlen, rfl⟩))
  · have hshort : x.answer.length < 7 := Nat.lt_of_le_of_ne x.atMost hlen
    unfold Dht20.readData
    dsimp only
    by_cases hnone : x.answer.length = 0
    · rw [if_pos hnone]
      exact Or.inl rfl
    · rw [if_neg hnone, if_pos hshort]
      exact Or.inr (Or.inl rfl)

/-- No other call returns the error of the rate limit. -/
theorem read_refused_iff (x : Exchange) (d : Dht20) :
    (d.read x).2 = dht20ErrorLastRead ↔ x.readTime - d.lastRead < 1000 := by
  refine ⟨?_, fun hfast => by rw [read_eq, if_pos hfast]⟩
  intro herror
  by_contra hslow
  rw [read_eq, if_neg hslow] at herror
  dsimp only at herror
  split at herror
  · rcases readData_status x { d with lastRequest := x.requestTime } with h | h | h | ⟨h, -⟩ <;>
      exact absurd (h.symm.trans herror) (by decide)
  · rw [convert_status] at herror
    split at herror <;> exact absurd herror (by decide)

/-- `read` stores a frame, with a right checksum or a wrong one. -/
def Stores (d : Dht20) (x : Exchange) : Prop :=
  (d.read x).2 = dht20Ok ∨ (d.read x).2 = dht20ErrorChecksum

theorem brings_of_stores {d : Dht20} {x : Exchange} (h : Stores d x) : Brings d.lastRead x := by
  have hslow : ¬ x.readTime - d.lastRead < 1000 := by
    rw [← read_refused_iff]
    intro herror
    unfold Stores at h
    rw [herror] at h
    exact absurd h (by decide)
  unfold Stores at h
  rw [read_eq, if_neg hslow] at h
  dsimp only at h
  rcases readData_status x { d with lastRequest := x.requestTime } with
    hdata | hdata | hdata | ⟨-, hlen, hzero⟩
  · rw [if_pos (by rw [hdata]; decide), hdata] at h
    exact absurd h (by decide)
  · rw [if_pos (by rw [hdata]; decide), hdata] at h
    exact absurd h (by decide)
  · rw [if_pos (by rw [hdata]; decide), hdata] at h
    exact absurd h (by decide)
  · exact ⟨UInt32.not_lt.mp hslow, hlen, hzero⟩

theorem brings_of_stores_monitored {pre : List Turn} {t : Turn}
    (h : Stores (monitored (pre.map Turn.exchange)).dht20 t.exchange) :
    Brings (tape pre).held.lastRead t.exchange := by
  have hbrings := brings_of_stores h
  rwa [(holds_monitored _).lastRead, ← tape_held] at hbrings

/-! ## Whole runs -/

/--
**Frames that are stored lie a second apart.** In a run whose calls do not
overlap, a call that stores a frame comes a second or more after any earlier
frame was stored, whatever the calls between them do.
-/
theorem frames_apart {turns : List Turn} (h : Spaced 0 turns) {pre mid : List Turn} {t u : Turn}
    (hpre : pre ++ [t] ++ mid ++ [u] <+: turns)
    (ht : Stores (monitored (pre.map Turn.exchange)).dht20 t.exchange)
    (hu : Stores (monitored ((pre ++ [t] ++ mid).map Turn.exchange)).dht20 u.exchange) :
    t.answered + 1000 ≤ u.start := by
  have htaped := taped_of_spaced h (pre ++ [t] ++ mid) u hpre
  have hstored : t ∈ (tape (pre ++ [t])).stored := by
    rw [tape, Runs.run_concat, ← tape, stored_step, if_pos (brings_of_stores_monitored ht)]
    exact List.mem_append_right _ (List.mem_singleton_self t)
  have hpast := htaped.past t ((stored_mono (pre ++ [t]) mid).subset hstored)
  have hrested := htaped.rested (brings_of_stores_monitored hu)
  omega

/-- A frame two seconds after the start. -/
def firstTurn : Turn :=
  ⟨2000, 2060, ⟨2000, 0, 2001, [0x18, 0x80, 0, 6, 0, 0, 35], 2060, by decide⟩, by decide, rfl, rfl⟩

/-- A call that comes too early for another one. -/
def hastyTurn : Turn := ⟨2900, 2900, ⟨2900, 0, 0, [], 2900, by decide⟩, by decide, rfl, rfl⟩

/-- A call five seconds after the start. -/
def nextTurn : Turn :=
  ⟨5540, 5600, ⟨5540, 0, 5541, [0x18, 0x80, 0, 6, 0, 0, 35], 5600, by decide⟩, by decide, rfl, rfl⟩

theorem frames_apart_hasty : firstTurn.answered + 1000 ≤ nextTurn.start := by
  have hspaced : Spaced 0 [firstTurn, hastyTurn, nextTurn] := by decide
  have hfirst : Stores (monitored []).dht20 firstTurn.exchange := Or.inl (by decide +kernel)
  have hnext : Stores (monitored [firstTurn.exchange, hastyTurn.exchange]).dht20
      nextTurn.exchange := Or.inl (by decide +kernel)
  exact @frames_apart _ hspaced [] [hastyTurn] firstTurn nextTurn List.prefix_rfl hfirst hnext

/--
**When a call is refused.** In a run whose calls lie a second or more apart,
`read` refuses one exactly when it is the first and comes in the first second,
or when more than 2³² ms have passed since the last frame, or since the start,
and less than a second of the period that has begun then.
-/
theorem refused_iff {turns : List Turn} (h : Spaced 1000 turns) {pre : List Turn} {t : Turn}
    (hpre : pre ++ [t] <+: turns) :
    ((monitored (pre.map Turn.exchange)).dht20.read t.exchange).2 = dht20ErrorLastRead ↔
      (pre = [] ∧ t.start < 1000) ∨
        (2 ^ 32 ≤ t.start - lastStored (tape pre).stored ∧
          (t.start - lastStored (tape pre).stored) % 2 ^ 32 < 1000) := by
  have htaped := taped_of_spaced h pre t hpre
  have hlater : ∀ u ∈ pre, u.answered + 1000 ≤ t.start := by
    intro u hu
    have hpair := h.sublist hpre.sublist
    rw [List.pairwise_append] at hpair
    exact hpair.2.2 u hu t (by simp)
  -- a second has passed since the last frame, unless there is none
  have hlast : lastStored (tape pre).stored = 0 ∨
      lastStored (tape pre).stored + 1000 ≤ t.start := by
    cases hstored : (tape pre).stored.getLast? with
    | none =>
      left
      simp [lastStored, hstored]
    | some u =>
      right
      have hmem : u ∈ pre := (stored_sublist pre).subset (List.mem_of_getLast? hstored)
      simpa [lastStored, hstored] using hlater u hmem
  rw [read_refused_iff, (holds_monitored _).lastRead, ← tape_held, htaped.recent_iff]
  constructor
  · intro hfast
    by_cases hlong : 2 ^ 32 ≤ t.start - lastStored (tape pre).stored
    · exact Or.inr ⟨hlong, hfast⟩
    rw [Nat.mod_eq_of_lt (by omega)] at hfast
    refine Or.inl ⟨?_, by omega⟩
    rw [List.eq_nil_iff_forall_not_mem]
    intro u hu
    have := hlater u hu
    omega
  · rintro (⟨rfl, hearly⟩ | ⟨-, hfast⟩)
    · have hzero : lastStored (tape []).stored = 0 := rfl
      rw [hzero, Nat.mod_eq_of_lt (by omega)]
      exact hearly
    · exact hfast

/-- A call half a second after the start. -/
def earlyTurn : Turn := ⟨500, 540, ⟨500, 0, 501, [], 540, by decide⟩, by decide, rfl, rfl⟩

theorem spaced_early : Spaced 1000 [earlyTurn, nextTurn] := by decide

/-- The first is refused, and the second is not. -/
theorem refused_iff_early :
    ((monitored []).dht20.read earlyTurn.exchange).2 = dht20ErrorLastRead ∧
      ((monitored [earlyTurn.exchange]).dht20.read nextTurn.exchange).2 ≠ dht20ErrorLastRead := by
  have hfirst := @refused_iff [earlyTurn, nextTurn] spaced_early [] earlyTurn ⟨[nextTurn], rfl⟩
  have hsecond :=
    @refused_iff [earlyTurn, nextTurn] spaced_early [earlyTurn] nextTurn List.prefix_rfl
  refine ⟨hfirst.mpr (Or.inl ⟨rfl, by decide⟩), fun herror => ?_⟩
  rcases hsecond.mp herror with ⟨hnil, -⟩ | ⟨hlong, -⟩
  · exact absurd hnil (by simp)
  · exact absurd hlong (by decide)

end YoloUno
