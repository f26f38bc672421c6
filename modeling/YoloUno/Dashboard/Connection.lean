import YoloUno.Dashboard.Page
import YoloUno.Lib.Sole

/-!
# The connection of the dashboard

The WebSocket functions of `data/script.js`. The page keeps one global
variable for its socket and overwrites it on every attempt to connect; the
sockets before it keep their handlers. `onclose` sets a timer, and the timer
connects again.

A `Connection` holds every WebSocket that was ever created and every timer
that was ever set, so that a late event of an old one has something to act
on. A run is a list of `NetEvent`s in any order. What cannot happen leaves the
connection as it is: a socket opens only while it is connecting and fires
`close` once, a timer fires once. `console.log` and `console.warn` are left
out.

* `one_connection` — at every point either one socket has not fired `close`,
  and it is the one in the variable, and no timer is pending, or all have
  fired it and one timer is pending; and every message goes out on the only
  live socket.
-/

namespace YoloUno

/-! ## Sockets and timers -/

/-- A `WebSocket`: its state, whether `close` has been fired, and which of its
handlers have been assigned. -/
structure Socket where
  url        : String
  readyState : ReadyState
  closeFired : Bool
  onopen     : Bool
  onclose    : Bool
  onmessage  : Bool
  deriving DecidableEq, Repr

/-- `new WebSocket(url)`. -/
def Socket.create (url : String) : Socket := ⟨url, .connecting, false, false, false, false⟩

/-- A timer set by `setTimeout(initWebSocket, delay)`. -/
structure Timer where
  delay : Nat
  fired : Bool
  deriving DecidableEq, Repr

inductive LinkEvent
  | alert (text : String)
  /-- `send` of the socket at this place. -/
  | sent (socket : Nat) (data : String)
  deriving DecidableEq, Repr

structure Connection where
  gateway   : String
  /-- The socket in the variable `websocket`, by its place in `sockets`. -/
  websocket : Option Nat
  sockets   : List Socket
  timers    : List Timer
  log       : List LinkEvent

/-- The script has run, and `load` has not been fired. -/
def Connection.initial (hostname : String) : Connection :=
  ⟨"ws://" ++ hostname ++ "/ws", none, [], [], []⟩

/-- `websocket.readyState`. -/
def Connection.readyState (c : Connection) : Option ReadyState :=
  c.websocket.bind fun s => c.sockets[s]?.map Socket.readyState

/-- Change the socket at a place. -/
def Connection.onSocket (s : Nat) (f : Socket → Socket) (c : Connection) : Connection :=
  { c with sockets := c.sockets.modify s f }

/-- Assign to a property of `websocket`. -/
def Connection.assign (f : Socket → Socket) (c : Connection) : Connection :=
  match c.websocket with
  | none => c
  | some s => c.onSocket s f

/-! ## Functions -/

def onOpen (c : Connection) : Connection := c

/-- `onClose`: another attempt in two seconds, whichever socket has closed. -/
def onClose (c : Connection) : Connection := { c with timers := c.timers ++ [⟨2000, false⟩] }

/-- `onMessage`: the data is parsed for nothing, and a failure is caught. -/
def onMessage (_data : String) (c : Connection) : Connection := c

def initWebSocket (c : Connection) : Connection :=
  { c with
    sockets := c.sockets ++ [Socket.create c.gateway]
    websocket := some c.sockets.length }
  |> Connection.assign (fun ws => { ws with onopen := true })
  |> Connection.assign (fun ws => { ws with onclose := true })
  |> Connection.assign (fun ws => { ws with onmessage := true })

def onLoad (c : Connection) : Connection := initWebSocket c

/-- `Send_Data`, with the sockets themselves. -/
def Connection.sendData (data : String) (c : Connection) : Connection :=
  match c.websocket with
  | some s =>
    if c.readyState = some .open then { c with log := c.log ++ [.sent s data] }
    else { c with log := c.log ++ [.alert "⚠️ WebSocket chưa kết nối!"] }
  | none => { c with log := c.log ++ [.alert "⚠️ WebSocket chưa kết nối!"] }

/-! ## Events -/

/-- A socket opens, and fires `open`. -/
def fireOpen (s : Nat) (c : Connection) : Connection :=
  match c.sockets[s]? with
  | some ws =>
    if ws.readyState = .connecting then
      let c := c.onSocket s fun ws => { ws with readyState := .open }
      if ws.onopen then onOpen c else c
    else c
  | none => c

def fireMessage (s : Nat) (data : String) (c : Connection) : Connection :=
  match c.sockets[s]? with
  | some ws => if ws.onmessage then onMessage data c else c
  | none => c

/-- The closing handshake of a socket begins; no event is fired. -/
def beginClosing (s : Nat) (c : Connection) : Connection :=
  match c.sockets[s]? with
  | some ws =>
    if ws.readyState = .closed then c
    else c.onSocket s fun ws => { ws with readyState := .closing }
  | none => c

/-- A socket is closed, or was never opened, and fires `close`. -/
def fireClose (s : Nat) (c : Connection) : Connection :=
  match c.sockets[s]? with
  | some ws =>
    if ws.closeFired then c
    else
      let c := c.onSocket s fun ws => { ws with readyState := .closed, closeFired := true }
      if ws.onclose then onClose c else c
  | none => c

def fireTimer (t : Nat) (c : Connection) : Connection :=
  match c.timers[t]? with
  | some timer =>
    if timer.fired then c
    else
      initWebSocket
        { c with timers := c.timers.modify t fun timer => { timer with fired := true } }
  | none => c

/-! ## Runs -/

inductive NetEvent
  | open (socket : Nat)
  | message (socket : Nat) (data : String)
  | closing (socket : Nat)
  | close (socket : Nat)
  | timer (timer : Nat)
  /-- A call of `Send_Data`. -/
  | sendData (data : String)
  deriving DecidableEq, Repr

def netStep (c : Connection) : NetEvent → Connection
  | .open s => fireOpen s c
  | .message s data => fireMessage s data c
  | .closing s => beginClosing s c
  | .close s => fireClose s c
  | .timer t => fireTimer t c
  | .sendData data => c.sendData data

/-- The connection after `load` and the events given. -/
def connection (hostname : String) (events : List NetEvent) : Connection :=
  Runs.run netStep (onLoad (Connection.initial hostname)) events

/-! ## The two modes -/

def Socket.live (ws : Socket) : Bool := !ws.closeFired

def Timer.pending (timer : Timer) : Bool := !timer.fired

/-- One socket has not fired `close`; it is the one in `websocket`, and no
timer is pending. -/
def Connected (c : Connection) : Prop :=
  ∃ s, c.websocket = some s ∧ Sole.At Socket.live c.sockets s ∧
    Sole.Unmarked Timer.pending c.timers

/-- Every socket has fired `close`, and one timer is pending. -/
def Waiting (c : Connection) : Prop :=
  Sole.Unmarked Socket.live c.sockets ∧ ∃ t, Sole.At Timer.pending c.timers t

theorem not_waiting_of_connected {c : Connection} (h : Connected c) : ¬ Waiting c := by
  obtain ⟨s, -, hlive, -⟩ := h
  intro hwaiting
  exact hlive.not_unmarked hwaiting.1

/-- A connection between two events: it is in one of the modes, its sockets
report their close, and are closed by then. -/
structure Linked (c : Connection) : Prop where
  mode    : Connected c ∨ Waiting c
  onclose : ∀ ws ∈ c.sockets, ws.onclose = true
  closed  : ∀ ws ∈ c.sockets, ws.closeFired = true → ws.readyState = .closed

/-! ## Connecting -/

/-- The socket that `initWebSocket` leaves. -/
def Socket.attached (url : String) : Socket := ⟨url, .connecting, false, true, true, true⟩

theorem modify_concat_length {α : Type*} (l : List α) (a : α) (f : α → α) :
    (l ++ [a]).modify l.length f = l ++ [f a] := by
  induction l with
  | nil => rfl
  | cons b l ih => exact congrArg (b :: ·) ih

theorem initWebSocket_eq (c : Connection) :
    initWebSocket c = { c with
      sockets := c.sockets ++ [Socket.attached c.gateway]
      websocket := some c.sockets.length } := by
  unfold initWebSocket
  simp only [Connection.assign, Connection.onSocket, modify_concat_length]
  rfl

/-- **An attempt to connect**, made while no socket is live and no timer
pending, connects. -/
theorem linked_initWebSocket {c : Connection} (hlive : Sole.Unmarked Socket.live c.sockets)
    (hpending : Sole.Unmarked Timer.pending c.timers)
    (honclose : ∀ ws ∈ c.sockets, ws.onclose = true)
    (hclosed : ∀ ws ∈ c.sockets, ws.closeFired = true → ws.readyState = .closed) :
    Linked (initWebSocket c) := by
  rw [initWebSocket_eq]
  refine ⟨Or.inl ⟨c.sockets.length, rfl, hlive.concat rfl, hpending⟩, ?_, ?_⟩
  · intro ws hws
    rcases List.mem_append.mp hws with hold | hnew
    · exact honclose ws hold
    · rw [List.mem_singleton.mp hnew]
      rfl
  · intro ws hws hfired
    rcases List.mem_append.mp hws with hold | hnew
    · exact hclosed ws hold hfired
    · rw [List.mem_singleton.mp hnew] at hfired
      exact absurd hfired (by simp [Socket.attached])

theorem linked_onLoad (hostname : String) : Linked (onLoad (Connection.initial hostname)) :=
  linked_initWebSocket (by simp [Sole.Unmarked, Connection.initial])
    (by simp [Sole.Unmarked, Connection.initial]) (by simp [Connection.initial])
    (by simp [Connection.initial])

/-! ## One event -/

/-- Sockets keep their handler of `close` when one of them changes its state. -/
theorem Linked.onclose_onSocket {c : Connection} (h : Linked c) (s : Nat) {f : Socket → Socket}
    (honclose : ∀ ws, (f ws).onclose = ws.onclose) :
    ∀ ws ∈ (c.onSocket s f).sockets, ws.onclose = true := by
  intro ws hws
  obtain ⟨j, old, hold, rfl⟩ := Sole.of_mem_modify hws
  have hassigned := h.onclose old (List.mem_of_getElem? hold)
  split
  · rw [honclose, hassigned]
  · exact hassigned

/-- Sockets that have fired `close` are closed still, if the one that changes is. -/
theorem Linked.closed_onSocket {c : Connection} (h : Linked c) {s : Nat} {ws : Socket}
    (hs : c.sockets[s]? = some ws) {f : Socket → Socket}
    (hclosed : (f ws).closeFired = true → (f ws).readyState = .closed) :
    ∀ ws ∈ (c.onSocket s f).sockets, ws.closeFired = true → ws.readyState = .closed := by
  intro ws' hws hfired
  obtain ⟨j, old, hold, rfl⟩ := Sole.of_mem_modify hws
  split at hfired
  · next hsj =>
    rw [if_pos hsj]
    rw [← hsj, hs, Option.some.injEq] at hold
    subst hold
    exact hclosed hfired
  · next hsj =>
    rw [if_neg hsj]
    exact h.closed old (List.mem_of_getElem? hold) hfired

/-- A socket that has not fired `close` changes its state, and keeps the
handler of `close`. -/
theorem Linked.onSocket {c : Connection} (h : Linked c) {s : Nat} {ws : Socket}
    (hs : c.sockets[s]? = some ws) (hopen : ws.closeFired = false) {f : Socket → Socket}
    (hfired : ∀ ws, (f ws).closeFired = ws.closeFired)
    (honclose : ∀ ws, (f ws).onclose = ws.onclose) : Linked (c.onSocket s f) := by
  have hsame : ∀ ws, (f ws).live = ws.live := fun ws => congrArg (!·) (hfired ws)
  refine ⟨?_, h.onclose_onSocket s honclose, h.closed_onSocket hs ?_⟩
  · rcases h.mode with ⟨w, hw, hlive, hpending⟩ | ⟨hnone, hpending⟩
    · exact Or.inl ⟨w, hw, hlive.modify_of_same hsame s, hpending⟩
    · exact Or.inr ⟨hnone.modify_of_same hsame s, hpending⟩
  · -- it has not fired `close` after the change either
    rw [hfired, hopen]
    exact fun h => absurd h Bool.false_ne_true

/-- A socket that is not closed has not fired `close`. -/
theorem Linked.not_fired {c : Connection} (h : Linked c) {s : Nat} {ws : Socket}
    (hs : c.sockets[s]? = some ws) (hstate : ws.readyState ≠ .closed) : ws.closeFired = false := by
  by_contra hfired
  rw [Bool.not_eq_false] at hfired
  exact hstate (h.closed ws (List.mem_of_getElem? hs) hfired)

theorem linked_fireOpen {c : Connection} (h : Linked c) (s : Nat) : Linked (fireOpen s c) := by
  unfold fireOpen
  cases hs : c.sockets[s]? with
  | none => exact h
  | some ws =>
    dsimp only
    split
    · next hstate =>
      have hopen : ws.closeFired = false := h.not_fired hs (by rw [hstate]; decide)
      split <;> exact h.onSocket hs hopen (fun _ => rfl) fun _ => rfl
    · exact h

theorem linked_fireMessage {c : Connection} (h : Linked c) (s : Nat) (data : String) :
    Linked (fireMessage s data c) := by
  unfold fireMessage
  split
  · split <;> exact h
  · exact h

theorem linked_beginClosing {c : Connection} (h : Linked c) (s : Nat) :
    Linked (beginClosing s c) := by
  unfold beginClosing
  cases hs : c.sockets[s]? with
  | none => exact h
  | some ws =>
    dsimp only
    split
    · exact h
    · next hstate => exact h.onSocket hs (h.not_fired hs hstate) (fun _ => rfl) fun _ => rfl

/-- **A close sets the timer**: the socket that fires it was the only live one. -/
theorem linked_fireClose {c : Connection} (h : Linked c) (s : Nat) : Linked (fireClose s c) := by
  unfold fireClose
  cases hs : c.sockets[s]? with
  | none => exact h
  | some ws =>
    dsimp only
    split
    · exact h
    next hfired =>
    rw [if_pos (h.onclose ws (List.mem_of_getElem? hs))]
    have hlive : ws.live = true := by simpa [Socket.live] using hfired
    rcases h.mode with ⟨w, -, honly, hpending⟩ | ⟨hnone, -⟩
    · obtain rfl := honly.eq_of_marked hs hlive
      have hwaiting : Waiting (onClose (c.onSocket s
          fun ws => { ws with readyState := .closed, closeFired := true })) :=
        ⟨honly.modify fun _ => rfl, c.timers.length, hpending.concat rfl⟩
      exact ⟨Or.inr hwaiting, h.onclose_onSocket s fun _ => rfl,
        h.closed_onSocket hs fun _ => rfl⟩
    · -- while the page waits, every socket has fired it already
      rw [hnone ws (List.mem_of_getElem? hs)] at hlive
      exact absurd hlive (by simp)

/-- **A timer connects again**: it was the only one pending, and no socket is
live. -/
theorem linked_fireTimer {c : Connection} (h : Linked c) (t : Nat) : Linked (fireTimer t c) := by
  unfold fireTimer
  cases ht : c.timers[t]? with
  | none => exact h
  | some timer =>
    dsimp only
    split
    · exact h
    next hfired =>
    have hmarked : timer.pending = true := by simpa [Timer.pending] using hfired
    rcases h.mode with ⟨w, -, -, hnone⟩ | ⟨hnone, t', honly⟩
    · -- while the page is connected, no timer is pending
      rw [hnone timer (List.mem_of_getElem? ht)] at hmarked
      exact absurd hmarked (by simp)
    · obtain rfl := honly.eq_of_marked ht hmarked
      exact linked_initWebSocket hnone (honly.modify fun _ => rfl) h.onclose h.closed

/-- `Send_Data` changes the log only, whatever it finds in the variable. -/
theorem sendData_eq (c : Connection) (data : String) :
    ∃ e, c.sendData data = { c with log := c.log ++ [e] } ∧
      ∀ s data', e = .sent s data' → c.websocket = some s ∧ c.readyState = some .open := by
  unfold Connection.sendData
  split
  · next s hs =>
    split
    · next hopen =>
      refine ⟨_, rfl, ?_⟩
      intro s' data' he
      rw [← (LinkEvent.sent.inj he).1]
      exact ⟨hs, hopen⟩
    · exact ⟨_, rfl, by simp⟩
  · exact ⟨_, rfl, by simp⟩

theorem linked_sendData {c : Connection} (h : Linked c) (data : String) :
    Linked (c.sendData data) := by
  obtain ⟨e, heq, -⟩ := sendData_eq c data
  rw [heq]
  exact ⟨h.mode, h.onclose, h.closed⟩

theorem linked_netStep {c : Connection} (h : Linked c) (e : NetEvent) : Linked (netStep c e) := by
  cases e with
  | «open» s => exact linked_fireOpen h s
  | message s data => exact linked_fireMessage h s data
  | closing s => exact linked_beginClosing h s
  | close s => exact linked_fireClose h s
  | timer t => exact linked_fireTimer h t
  | sendData data => exact linked_sendData h data

theorem linked_connection (hostname : String) (events : List NetEvent) :
    Linked (connection hostname events) :=
  Runs.run_invariant (linked_onLoad hostname) (fun _ e h => linked_netStep h e) events

/-! ## Messages -/

/-- Only `Send_Data` writes the log. -/
theorem log_netStep {c : Connection} {e : NetEvent} (h : ∀ data, e ≠ .sendData data) :
    (netStep c e).log = c.log := by
  cases e with
  | «open» s =>
    show (fireOpen s c).log = c.log
    unfold fireOpen
    split
    · split
      · dsimp only
        split <;> rfl
      · rfl
    · rfl
  | message s data =>
    show (fireMessage s data c).log = c.log
    unfold fireMessage
    split
    · split <;> rfl
    · rfl
  | closing s =>
    show (beginClosing s c).log = c.log
    unfold beginClosing
    split
    · split <;> rfl
    · rfl
  | close s =>
    show (fireClose s c).log = c.log
    unfold fireClose
    split
    · split
      · rfl
      · dsimp only
        split <;> rfl
    · rfl
  | timer t =>
    show (fireTimer t c).log = c.log
    unfold fireTimer
    split
    · split
      · rfl
      · rw [initWebSocket_eq]
    · rfl
  | sendData data => exact absurd rfl (h data)

/-- A message that an event adds to the log goes out on the socket in the
variable, which is open. -/
theorem sent_netStep {c : Connection} {e : NetEvent} {s : Nat} {data : String}
    (h : .sent s data ∈ (netStep c e).log.drop c.log.length) :
    c.websocket = some s ∧ c.readyState = some .open := by
  by_cases hsend : ∃ data, e = .sendData data
  · obtain ⟨data', rfl⟩ := hsend
    obtain ⟨event, heq, hsent⟩ := sendData_eq c data'
    have hlog : (netStep c (.sendData data')).log = c.log ++ [event] := congrArg (·.log) heq
    rw [hlog, List.drop_left, List.mem_singleton] at h
    exact hsent s data h.symm
  · have hlog : (netStep c e).log = c.log :=
      log_netStep fun data' he => hsend ⟨data', he⟩
    rw [hlog, List.drop_length] at h
    exact absurd h List.not_mem_nil

/-- The open socket in the variable is the only live one. -/
theorem Linked.at_of_open {c : Connection} (h : Linked c) {s : Nat}
    (hs : c.websocket = some s) (hopen : c.readyState = some .open) :
    Sole.At Socket.live c.sockets s := by
  unfold Connection.readyState at hopen
  rw [hs, Option.bind_some, Option.map_eq_some_iff] at hopen
  obtain ⟨ws, hws, hstate⟩ := hopen
  have hlive : ws.live = true := by
    have hfired := h.not_fired hws (by rw [hstate]; decide)
    simp [Socket.live, hfired]
  rcases h.mode with ⟨w, hw, honly, -⟩ | ⟨hnone, -⟩
  · obtain rfl := honly.eq_of_marked hws hlive
    exact honly
  · rw [hnone ws (List.mem_of_getElem? hws)] at hlive
    exact absurd hlive (by simp)

/--
**Reconnection neither multiplies nor stops.** After any events in any order
the page is either connected or waiting to connect, and not both; and whatever
an event sends goes out on the socket in `websocket`, the only live one.
-/
theorem one_connection (hostname : String) :
    (∀ events, Xor (Connected (connection hostname events))
        (Waiting (connection hostname events))) ∧
      ∀ events e s data,
        .sent s data ∈ (connection hostname (events ++ [e])).log.drop
          (connection hostname events).log.length →
        (connection hostname events).websocket = some s ∧
          Sole.At Socket.live (connection hostname events).sockets s := by
  refine ⟨?_, ?_⟩
  · intro events
    rcases (linked_connection hostname events).mode with hconnected | hwaiting
    · exact Or.inl ⟨hconnected, not_waiting_of_connected hconnected⟩
    · exact Or.inr ⟨hwaiting, fun hconnected => not_waiting_of_connected hconnected hwaiting⟩
  · intro events e s data hsent
    have hstep : connection hostname (events ++ [e]) = netStep (connection hostname events) e :=
      Runs.run_concat ..
    rw [hstep] at hsent
    obtain ⟨hs, hopen⟩ := sent_netStep hsent
    exact ⟨hs, (linked_connection hostname events).at_of_open hs hopen⟩

/-- A connection that is lost and made again, with a message on each. -/
example : (connection "yolo" [.open 0, .sendData "a", .closing 0, .close 0, .timer 0, .open 1,
    .sendData "b"]).log = [.sent 0 "a", .sent 1 "b"] := by decide

end YoloUno
