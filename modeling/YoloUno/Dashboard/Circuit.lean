import YoloUno.Dashboard.Connection

/-!
# One circuit

What the connection of the dashboard amounts to: a circuit that is made again
each time it is lost. A `Circuit` has a phase and a count of the attempts
before the present one; there are no sockets, handlers or timers in it.

* `connection_circuit` — after any events in any order, every socket that was
  ever created, every timer that was ever set and the variable are those of a
  circuit, and so is the log.
* `reopens` — from any of these states three events at most open it again.
-/

namespace YoloUno

inductive Phase
  | connecting
  | open
  | closing
  /-- The socket is closed, and a timer is set. -/
  | waiting
  deriving DecidableEq, Repr

structure Circuit where
  earlier : Nat
  phase   : Phase
  log     : List LinkEvent
  deriving DecidableEq

def Phase.readyState : Phase → ReadyState
  | .connecting => .connecting
  | .open => .open
  | .closing => .closing
  | .waiting => .closed

/-- `Send_Data` on a circuit. -/
def Circuit.sendData (data : String) (c : Circuit) : Circuit :=
  { c with log := c.log ++ [if c.phase = .open then .sent c.earlier data
      else .alert "⚠️ WebSocket chưa kết nối!"] }

/-- Only events of the present attempt do anything. -/
def circuitStep (c : Circuit) : NetEvent → Circuit
  | .open s =>
    if s = c.earlier ∧ c.phase = .connecting then { c with phase := .open } else c
  | .message _ _ => c
  | .closing s =>
    if s = c.earlier ∧ c.phase ≠ .waiting then { c with phase := .closing } else c
  | .close s =>
    if s = c.earlier ∧ c.phase ≠ .waiting then { c with phase := .waiting } else c
  | .timer t =>
    if t = c.earlier ∧ c.phase = .waiting then
      { c with earlier := c.earlier + 1, phase := .connecting }
    else c
  | .sendData data => c.sendData data

/-- The circuit after `load` and the events given. -/
def circuit (events : List NetEvent) : Circuit :=
  Runs.run circuitStep ⟨0, .connecting, []⟩ events

/-! ## The connection of a circuit -/

/-- The socket of the present attempt. -/
def Phase.socket (url : String) (phase : Phase) : Socket :=
  ⟨url, phase.readyState, decide (phase = .waiting), true, true, true⟩

/-- The timers set since the present attempt was made. -/
def Phase.timers (phase : Phase) : List Timer := if phase = .waiting then [⟨2000, false⟩] else []

/-- The connection that a circuit stands for. -/
def Circuit.connection (hostname : String) (c : Circuit) : Connection :=
  let gateway := "ws://" ++ hostname ++ "/ws"
  { gateway
    websocket := some c.earlier
    sockets   := List.replicate c.earlier (Phase.waiting.socket gateway) ++ [c.phase.socket gateway]
    timers    := List.replicate c.earlier ⟨2000, true⟩ ++ c.phase.timers
    log       := c.log }

theorem getElem?_replicate_concat {α : Type*} (n k : Nat) (a b : α) :
    (List.replicate n a ++ [b])[k]? = if k < n then some a else if k = n then some b else none := by
  rw [List.getElem?_append, List.length_replicate, List.getElem?_replicate]
  split_ifs with hlt heq
  · rfl
  · simp [heq]
  · exact List.getElem?_eq_none (by simp only [List.length_singleton]; omega)

theorem modify_replicate_concat {α : Type*} (n : Nat) (a b : α) (f : α → α) :
    (List.replicate n a ++ [b]).modify n f = List.replicate n a ++ [f b] := by
  have h := modify_concat_length (List.replicate n a) b f
  rwa [List.length_replicate] at h

theorem readyState_circuit (hostname : String) (c : Circuit) :
    (c.connection hostname).readyState = some c.phase.readyState := by
  show (some c.earlier).bind _ = _
  simp [Circuit.connection, Phase.socket]

theorem present_socket (hostname : String) (c : Circuit) :
    (c.connection hostname).sockets[c.earlier]? =
      some (c.phase.socket ("ws://" ++ hostname ++ "/ws")) := by
  refine (getElem?_replicate_concat ..).trans ?_
  rw [if_neg (Nat.lt_irrefl _), if_pos rfl]

/-- Any other socket is one of the past, which is closed. -/
theorem other_socket (hostname : String) {c : Circuit} {s : Nat} (h : s ≠ c.earlier) :
    (c.connection hostname).sockets[s]? = none ∨
      (c.connection hostname).sockets[s]? =
        some (Phase.waiting.socket ("ws://" ++ hostname ++ "/ws")) := by
  have hs : (c.connection hostname).sockets[s]? = _ := getElem?_replicate_concat ..
  rw [hs, if_neg h]
  split
  · exact Or.inr rfl
  · exact Or.inl rfl

/-- A change of the present socket is one of the phase. -/
theorem onSocket_circuit (hostname : String) {c : Circuit} {phase : Phase} {f : Socket → Socket}
    (hsocket : ∀ url, f (c.phase.socket url) = phase.socket url)
    (htimers : phase.timers = c.phase.timers) :
    (c.connection hostname).onSocket c.earlier f =
      ({ c with phase } : Circuit).connection hostname := by
  unfold Connection.onSocket Circuit.connection
  simp only [modify_replicate_concat, hsocket, htimers]

/-! ## One event -/

/-- Late events of the sockets of the past do nothing. -/
theorem late_events (hostname : String) {c : Circuit} {s : Nat} (h : s ≠ c.earlier) :
    fireOpen s (c.connection hostname) = c.connection hostname ∧
      beginClosing s (c.connection hostname) = c.connection hostname ∧
      fireClose s (c.connection hostname) = c.connection hostname := by
  unfold fireOpen beginClosing fireClose
  rcases other_socket hostname h with hs | hs
  · rw [hs]
    exact ⟨rfl, rfl, rfl⟩
  · rw [hs]
    exact ⟨rfl, rfl, rfl⟩

theorem fireOpen_circuit (hostname : String) (c : Circuit) (s : Nat) :
    fireOpen s (c.connection hostname) = (circuitStep c (.open s)).connection hostname := by
  by_cases hs : s = c.earlier
  · subst hs
    unfold fireOpen
    rw [present_socket, circuitStep]
    cases hphase : c.phase with
    | connecting =>
      rw [if_pos ⟨rfl, rfl⟩]
      exact onSocket_circuit hostname (by simp [hphase, Phase.socket, Phase.readyState])
        (by simp [hphase, Phase.timers])
    | _ =>
      rw [if_neg (by simp)]
      rfl
  · rw [(late_events hostname hs).1, circuitStep, if_neg fun h => hs h.1]

theorem fireMessage_circuit (hostname : String) (c : Circuit) (s : Nat) (data : String) :
    fireMessage s data (c.connection hostname) = c.connection hostname := by
  unfold fireMessage
  split
  · split <;> rfl
  · rfl

theorem beginClosing_circuit (hostname : String) (c : Circuit) (s : Nat) :
    beginClosing s (c.connection hostname) =
      (circuitStep c (.closing s)).connection hostname := by
  by_cases hs : s = c.earlier
  · subst hs
    unfold beginClosing
    rw [present_socket, circuitStep]
    cases hphase : c.phase with
    | waiting =>
      rw [if_neg (by simp)]
      rfl
    | _ =>
      rw [if_pos ⟨rfl, by decide⟩]
      exact onSocket_circuit hostname (by simp [hphase, Phase.socket, Phase.readyState])
        (by simp [hphase, Phase.timers])
  · rw [(late_events hostname hs).2.1, circuitStep, if_neg fun h => hs h.1]

/-- A close turns the present socket into one of the past, and sets a timer. -/
theorem fireClose_circuit (hostname : String) (c : Circuit) (s : Nat) :
    fireClose s (c.connection hostname) = (circuitStep c (.close s)).connection hostname := by
  by_cases hs : s = c.earlier
  · subst hs
    unfold fireClose
    rw [present_socket, circuitStep]
    cases hphase : c.phase with
    | waiting =>
      rw [if_neg (by simp)]
      rfl
    | _ =>
      rw [if_pos ⟨rfl, by decide⟩]
      simp [onClose, Connection.onSocket, Circuit.connection, modify_replicate_concat, hphase,
        Phase.socket, Phase.timers, Phase.readyState]
  · rw [(late_events hostname hs).2.2, circuitStep, if_neg fun h => hs h.1]

/-- A timer that fires is the last one, and turns into one of the past. -/
theorem fireTimer_circuit (hostname : String) (c : Circuit) (t : Nat) :
    fireTimer t (c.connection hostname) = (circuitStep c (.timer t)).connection hostname := by
  unfold fireTimer
  by_cases hphase : c.phase = .waiting
  · have htimers : (c.connection hostname).timers =
        List.replicate c.earlier ⟨2000, true⟩ ++ [⟨2000, false⟩] := by
      simp [Circuit.connection, Phase.timers, hphase]
    rw [htimers, getElem?_replicate_concat, circuitStep]
    rcases Nat.lt_trichotomy t c.earlier with hlt | rfl | hgt
    · rw [if_pos hlt, if_neg (by omega)]
      rfl
    · rw [if_neg (Nat.lt_irrefl _), if_pos rfl, if_pos ⟨rfl, hphase⟩, modify_replicate_concat]
      show initWebSocket _ = _
      rw [initWebSocket_eq]
      simp [Circuit.connection, hphase, Phase.timers, Phase.socket, Socket.attached,
        Phase.readyState, ← List.replicate_succ']
    · rw [if_neg (by omega), if_neg (by omega), if_neg (by omega)]
  · have htimers : (c.connection hostname).timers = List.replicate c.earlier ⟨2000, true⟩ := by
      simp [Circuit.connection, Phase.timers, hphase]
    have hstep : circuitStep c (.timer t) = c := if_neg fun h => hphase h.2
    rw [htimers, List.getElem?_replicate, hstep]
    by_cases hlt : t < c.earlier
    · rw [if_pos hlt]
      rfl
    · rw [if_neg hlt]

theorem sendData_circuit (hostname : String) (c : Circuit) (data : String) :
    (c.connection hostname).sendData data = (c.sendData data).connection hostname := by
  have hopen : (c.connection hostname).readyState = some .open ↔ c.phase = .open := by
    rw [readyState_circuit]
    cases c.phase <;> simp [Phase.readyState]
  show (if (c.connection hostname).readyState = some .open then _ else _) = _
  by_cases hphase : c.phase = .open
  · rw [if_pos (hopen.mpr hphase)]
    simp [Circuit.sendData, Circuit.connection, hphase]
  · rw [if_neg (mt hopen.mp hphase)]
    simp [Circuit.sendData, Circuit.connection, hphase]

theorem netStep_circuit (hostname : String) (c : Circuit) (e : NetEvent) :
    netStep (c.connection hostname) e = (circuitStep c e).connection hostname := by
  cases e with
  | «open» s => exact fireOpen_circuit hostname c s
  | message s data => exact fireMessage_circuit hostname c s data
  | closing s => exact beginClosing_circuit hostname c s
  | close s => exact fireClose_circuit hostname c s
  | timer t => exact fireTimer_circuit hostname c t
  | sendData data => exact sendData_circuit hostname c data

/-! ## Whole runs -/

theorem onLoad_circuit (hostname : String) :
    onLoad (Connection.initial hostname) =
      (⟨0, .connecting, []⟩ : Circuit).connection hostname := by
  show initWebSocket _ = _
  rw [initWebSocket_eq]
  rfl

theorem run_circuit (hostname : String) (c : Circuit) (events : List NetEvent) :
    Runs.run netStep (c.connection hostname) events =
      (Runs.run circuitStep c events).connection hostname := by
  have hrun := @Runs.run_simulates _ _ netStep _ circuitStep
    (fun link c => link = c.connection hostname) (c.connection hostname) c rfl
  refine hrun ?_ events
  rintro _ c e rfl
  exact netStep_circuit hostname c e

/-- **The sockets and timers are those of one circuit.** After any events in any
order, all that the page ever created is what the circuit stands for. -/
theorem connection_circuit (hostname : String) (events : List NetEvent) :
    connection hostname events = (circuit events).connection hostname := by
  rw [connection, onLoad_circuit, run_circuit]
  rfl

-- ---------------------------------------------------------------------------
-- Opening again
-- ---------------------------------------------------------------------------

/-- What the browser reports. -/
inductive Signal
  | open (socket : Nat)
  | message (socket : Nat) (data : String)
  | closing (socket : Nat)
  | close (socket : Nat)
  | timer (timer : Nat)
  deriving DecidableEq, Repr

def Signal.event : Signal → NetEvent
  | .open s => .open s
  | .message s data => .message s data
  | .closing s => .closing s
  | .close s => .close s
  | .timer t => .timer t

/-- What it takes to open a circuit from each phase. -/
def Circuit.reopening (c : Circuit) : List Signal :=
  match c.phase with
  | .connecting => [.open c.earlier]
  | .open => []
  | .closing => [.close c.earlier, .timer c.earlier, .open (c.earlier + 1)]
  | .waiting => [.timer c.earlier, .open (c.earlier + 1)]

theorem length_reopening_le (c : Circuit) : c.reopening.length ≤ 3 := by
  unfold Circuit.reopening
  split <;> simp

/-- It opens, and nothing is sent or refused on the way. -/
theorem run_reopening (c : Circuit) :
    (Runs.run circuitStep c (c.reopening.map Signal.event)).phase = .open ∧
      (Runs.run circuitStep c (c.reopening.map Signal.event)).log = c.log := by
  unfold Circuit.reopening
  split
  · next hphase => simp [Signal.event, circuitStep, hphase]
  · next hphase => simp [hphase]
  · next hphase => simp [Signal.event, circuitStep, hphase]
  · next hphase => simp [Signal.event, circuitStep, hphase]

/-- **The circuit can always be opened again**, within three events of the
browser, whatever happened before. -/
theorem reopens (hostname : String) (events : List NetEvent) :
    ∃ more : List Signal, more.length ≤ 3 ∧
      (connection hostname (events ++ more.map Signal.event)).readyState = some .open ∧
      (connection hostname (events ++ more.map Signal.event)).log =
        (connection hostname events).log := by
  refine ⟨(circuit events).reopening, length_reopening_le _, ?_⟩
  obtain ⟨hphase, hlog⟩ := run_reopening (circuit events)
  rw [connection, connection, Runs.run_append, onLoad_circuit, run_circuit, ← circuit,
    run_circuit, readyState_circuit, hphase]
  exact ⟨rfl, hlog⟩

end YoloUno
