import YoloUno.Dashboard.Whole

/-!
# A remote

What the dashboard is for: a panel of switches at the end of a circuit, which
speaks in messages. A `Remote` has no ids, no clock, no sockets, no timers and
no texts.

* `dashboard_remote` — in every run that saves no two relays at the same
  reading of the clock, the dashboard is the remote: its relays are the
  switches, and all that it sends and alerts, read as messages, is what the
  remote says, in the same order and in the same attempts to connect.
* `toggle_delivered` — from every state of such a run the browser can bring it
  about that the next toggle is sent.
-/

namespace YoloUno

/-! ## The remote -/

inductive Said
  /-- A message goes out in an attempt to connect. -/
  | told (attempt : Nat) (m : Message)
  | alert (text : String)
  deriving DecidableEq, Repr

structure Remote where
  panel   : Panel
  attempt : Nat
  phase   : Phase
  said    : List Said

def Remote.loaded : Remote := ⟨⟨[], none⟩, 0, .connecting, []⟩

def Remote.alert (text : String) (r : Remote) : Remote := { r with said := r.said ++ [.alert text] }

def Remote.say (m : Message) (r : Remote) : Remote :=
  if r.phase = .open then { r with said := r.said ++ [.told r.attempt m] }
  else r.alert "⚠️ WebSocket chưa kết nối!"

def Switch.message (w : Switch) : Message :=
  .device w.name (if w.on then "ON" else "OFF") w.gpio

def remoteStep (r : Remote) : Act → Remote
  | .save relayName relayGPIO now =>
    let saved := { r with panel := panelStep r.panel (.save relayName relayGPIO now) }
    if jsTrim relayName = "" ∨ jsTrim relayGPIO = "" then
      saved.alert "⚠️ Please fill all fields!"
    else saved
  | .toggle i =>
    let pressed := { r with panel := panelStep r.panel (.toggle i none) }
    match r.panel.switches[i]? with
    | none => pressed
    | some w => pressed.say w.flip.message
  | .trash i => { r with panel := panelStep r.panel (.trash i) }
  | .cancel => r
  | .confirm => { r with panel := panelStep r.panel .confirm }
  | .submit form =>
    (r.say (.setting form.trim)).alert "✅ Cấu hình đã được gửi đến thiết bị!"
  | .signal e =>
    let c := circuitStep ⟨r.attempt, r.phase, []⟩ e.event
    { r with attempt := c.earlier, phase := c.phase }

def remote (acts : List Act) : Remote := Runs.run remoteStep Remote.loaded acts

/-! ## From the remote to the code -/

/-- How the connection logs what is said. -/
def Said.event : Said → LinkEvent
  | .told attempt m => .sent attempt m.text
  | .alert text => .alert text

/-- What an event of the log tells its reader. -/
def LinkEvent.said : LinkEvent → Option Said
  | .alert text => some (.alert text)
  | .sent socket data => (receive data).map (.told socket)

theorem said_event (w : Said) : w.event.said = some w := by
  cases w with
  | told attempt m =>
    show (receive m.text).map _ = _
    rw [receive_text]
    rfl
  | alert text => rfl

/-- The circuit of a remote, in texts. -/
def Remote.circuit (r : Remote) : Circuit := ⟨r.attempt, r.phase, r.said.map Said.event⟩

theorem circuit_alert (text : String) (r : Remote) :
    (r.alert text).circuit = { r.circuit with log := r.circuit.log ++ [.alert text] } := by
  simp [Remote.alert, Remote.circuit, Said.event]

theorem circuit_say (m : Message) (r : Remote) :
    (r.say m).circuit = r.circuit.sendData m.text := by
  have hphase : r.circuit.phase = r.phase := rfl
  unfold Remote.say Circuit.sendData
  rw [hphase]
  by_cases hopen : r.phase = .open
  · rw [if_pos hopen, if_pos hopen]
    simp [Remote.circuit, Said.event]
  · rw [if_neg hopen, if_neg hopen]
    exact circuit_alert _ r

/-- What the browser reports changes no log. -/
theorem circuitStep_signal (c : Circuit) (e : Signal) :
    circuitStep c e.event =
      { circuitStep { c with log := [] } e.event with log := c.log } := by
  cases e with
  | message s data => rfl
  | _ =>
    simp only [Signal.event, circuitStep]
    split <;> rfl

theorem circuit_signal (r : Remote) (e : Signal) :
    circuitStep r.circuit e.event = (remoteStep r (.signal e)).circuit :=
  circuitStep_signal r.circuit e

/-! ## One act -/

/-- The dashboard is the remote. -/
structure Acts (hostname : String) (s : Dashboard) (r : Remote) : Prop where
  link  : s.link = r.circuit.connection hostname
  panel : s.desk.panel = r.panel

/-- The panel of both changes. -/
theorem Acts.onPanel {hostname : String} {s : Dashboard} {r : Remote} (h : Acts hostname s r)
    {desk : Desk} {panel : Panel} (hpanel : desk.panel = panel) :
    Acts hostname { s with desk } { r with panel } :=
  ⟨h.link, hpanel⟩

/-- A message is handed to `Send_Data`. -/
theorem Acts.say {hostname : String} {s : Dashboard} {r : Remote} (h : Acts hostname s r)
    (m : Message) : Acts hostname { s with link := s.link.sendData m.text } (r.say m) := by
  have hpanel : (r.say m).panel = r.panel := by
    unfold Remote.say
    split <;> rfl
  refine ⟨?_, h.panel.trans hpanel.symm⟩
  show s.link.sendData m.text = _
  rw [h.link, sendData_circuit, circuit_say]

theorem Acts.alert {hostname : String} {s : Dashboard} {r : Remote} (h : Acts hostname s r)
    (text : String) :
    Acts hostname { s with link := { s.link with log := s.link.log ++ [.alert text] } }
      (r.alert text) := by
  refine ⟨?_, h.panel⟩
  rw [h.link, circuit_alert]
  rfl

theorem acts_dashboardStep {hostname : String} {s : Dashboard} {r : Remote} {clicks : List Click}
    (h : Acts hostname s r) (hsound : Sound s.desk) (hd : DistinctIds s.desk.page)
    (hspent : Spent clicks s.desk) (a : Act) :
    Acts hostname (dashboardStep s a) (remoteStep r a) := by
  have hclick : ∀ c, (clickStep s.desk c).panel = panelStep r.panel c := by
    intro c
    rw [← h.panel]
    exact panel_clickStep hsound hd hspent c
  have hquiet : ∀ c, (clickStep s.desk c).page.log = s.desk.page.log →
      Acts hostname (s.click c) { r with panel := panelStep r.panel c } := by
    intro c hlog
    rw [click_quiet hlog]
    exact h.onPanel (hclick c)
  cases a with
  | save relayName relayGPIO now =>
    have hsaved := h.onPanel (hclick (.save relayName relayGPIO now))
    have hlog : (clickStep s.desk (.save relayName relayGPIO now)).page.log = _ :=
      log_saveRelay relayName relayGPIO now s.desk.page
    unfold dashboardStep remoteStep
    dsimp only
    rw [click_eq hlog]
    by_cases hblank : jsTrim relayName = "" ∨ jsTrim relayGPIO = ""
    · rw [if_pos hblank, if_pos hblank]
      exact hsaved.alert _
    · have hnothing (websocket : Option Nat) :
          [PageEvent.saved now].filterMap (PageEvent.onLink websocket) = [] := rfl
      rw [if_neg hblank, if_neg hblank, hnothing, List.append_nil]
      exact hsaved
  | toggle i =>
    have hswitch : r.panel.switches[i]? = s.desk.page.relayList[i]?.map Relay.switch := by
      rw [← h.panel]
      exact List.getElem?_map ..
    unfold dashboardStep remoteStep
    dsimp only
    cases hr : s.desk.page.relayList[i]? with
    | none =>
      rw [hswitch, hr]
      refine hquiet (.toggle i s.link.readyState) ?_
      rw [clickStep_of_none hsound.rendered hr (Or.inr ⟨s.link.readyState, rfl⟩)]
    | some relay =>
      rw [hswitch, hr, click_sendData (acts_toggle hsound hd hr _).2]
      exact (h.onPanel (hclick (.toggle i s.link.readyState))).say relay.switch.flip.message
  | trash i => exact hquiet (.trash i) (log_trash s.desk i)
  | cancel => exact hquiet .cancel rfl
  | confirm => exact hquiet .confirm rfl
  | submit form => exact (h.say (.setting form.trim)).alert _
  | signal e =>
    refine ⟨?_, h.panel⟩
    show netStep s.link e.event = _
    rw [h.link, netStep_circuit, circuit_signal]

/-! ## Whole runs -/

theorem acts_dashboard {hostname : String} {acts : List Act} (h : (saveReadings acts).Nodup) :
    Acts hostname (dashboard hostname acts) (remote acts) := by
  induction acts using List.reverseRecOn with
  | nil => exact ⟨onLoad_circuit hostname, rfl⟩
  | append_singleton acts a ih =>
    have hshort : (saveReadings acts).Nodup :=
      h.sublist (((List.prefix_append acts [a]).filterMap _).filterMap _).sublist
    rw [dashboard_concat, remote, Runs.run_concat, ← remote]
    exact acts_dashboardStep (ih hshort) (sound_dashboard hostname acts)
      (distinctIds_dashboard hshort hostname) (spent_dashboard hshort hostname) a

/-- **The dashboard is the remote.** In every run that saves no two relays at
the same reading of the clock, the relays are the switches of the remote and
the texts in their cards are those of the switches, the socket in the variable
is in its phase, and all that is sent and alerted reads, event by event, as
what the remote says. -/
theorem dashboard_remote {hostname : String} {acts : List Act}
    (h : (saveReadings acts).Nodup) :
    (dashboard hostname acts).desk.panel = (remote acts).panel ∧
      (dashboard hostname acts).desk.page.cards.map Card.face =
        (remote acts).panel.switches.map Switch.face ∧
      (dashboard hostname acts).link.readyState = some (remote acts).phase.readyState ∧
      (dashboard hostname acts).link.log.map LinkEvent.said = (remote acts).said.map some := by
  have hacts : Acts hostname (dashboard hostname acts) (remote acts) := acts_dashboard h
  refine ⟨hacts.panel, ?_, ?_, ?_⟩
  · rw [faces_of_rendered (sound_dashboard hostname acts).rendered, hacts.panel]
  · rw [hacts.link, readyState_circuit]
    rfl
  · rw [hacts.link]
    show ((remote acts).said.map Said.event).map LinkEvent.said = _
    rw [List.map_map]
    exact List.map_congr_left fun w _ => said_event w

/-- A lamp that is toggled before the socket opens, while it is open, and on
the socket after it; a second relay is left without a pin, and the settings are
submitted while the page waits. -/
def evening : List Act :=
  [.save "lamp" "5" 1, .toggle 0, .signal (.open 0), .toggle 0, .save "fan" " " 1,
    .signal (.close 0), .submit ⟨" home ", "pw", "", "", "80"⟩, .signal (.timer 0),
    .signal (.open 1), .toggle 0]

theorem dashboard_remote_evening :
    (dashboard "yolo" evening).desk.panel = (remote evening).panel ∧
      (dashboard "yolo" evening).desk.page.cards.map Card.face =
        (remote evening).panel.switches.map Switch.face ∧
      (dashboard "yolo" evening).link.readyState = some (remote evening).phase.readyState ∧
      (dashboard "yolo" evening).link.log.map LinkEvent.said =
        (remote evening).said.map some :=
  dashboard_remote (by decide)

/-- What is said on that evening. -/
example : (remote evening).said =
    [.alert "⚠️ WebSocket chưa kết nối!", .told 0 (.device "lamp" "OFF" "5"),
      .alert "⚠️ Please fill all fields!", .alert "⚠️ WebSocket chưa kết nối!",
      .alert "✅ Cấu hình đã được gửi đến thiết bị!", .told 1 (.device "lamp" "ON" "5")] := by
  decide

/-! ## Getting through -/

/-- What the browser reports is for the connection. -/
theorem run_signals (s : Dashboard) (signals : List Signal) :
    Runs.run dashboardStep s (signals.map .signal) =
      { s with link := Runs.run netStep s.link (signals.map Signal.event) } := by
  induction signals generalizing s with
  | nil => rfl
  | cons e signals ih => exact ih _

/-- **A relay can always be told.** From every state of a run that saves no two
relays at the same reading of the clock, three reports of the browser at most
bring it about that the next toggle of any relay is sent, with its name, its
pin and the status that the button of its card then shows. -/
theorem toggle_delivered {hostname : String} {acts : List Act} (h : (saveReadings acts).Nodup)
    {i : Nat} {r : Relay} (hr : (dashboard hostname acts).desk.page.relayList[i]? = some r) :
    ∃ signals : List Signal, signals.length ≤ 3 ∧ ∃ socket,
      (dashboard hostname (acts ++ (signals.map .signal ++ [.toggle i]))).link.log =
        (dashboard hostname acts).link.log ++
          [.sent socket (Message.device r.name r.flip.status r.gpio).text] ∧
      (dashboard hostname (acts ++ (signals.map .signal ++ [.toggle i]))).desk.page.cards[i]?.map
        Card.buttonText = some r.flip.status := by
  have hacts : Acts hostname (dashboard hostname acts) (remote acts) := acts_dashboard h
  have hsound := sound_dashboard hostname acts
  have hd := distinctIds_dashboard h hostname
  set c := (remote acts).circuit
  set desk := (dashboard hostname acts).desk
  obtain ⟨hphase, hlog⟩ := run_reopening c
  refine ⟨c.reopening, length_reopening_le c, ?_⟩
  -- the connection after the reports, and the toggle on it
  set link := Runs.run netStep (dashboard hostname acts).link (c.reopening.map Signal.event)
    with hlink
  have hrun : dashboard hostname (acts ++ (c.reopening.map .signal ++ [.toggle i])) =
      (⟨desk, link⟩ : Dashboard).click (.toggle i link.readyState) := by
    rw [dashboard, Runs.run_append, Runs.run_concat, run_signals, ← dashboard]
    rfl
  rw [hacts.link, run_circuit] at hlink
  have hopen : link.readyState = some .open := by
    rw [hlink, readyState_circuit, hphase]
    rfl
  have hsame : link.log = (dashboard hostname acts).link.log := by
    rw [hlink, hacts.link]
    exact hlog
  obtain ⟨hlist, hnews⟩ := acts_toggle hsound hd hr link.readyState
  obtain ⟨socket, -, hsent⟩ :=
    sendData_of_open hopen (Message.device r.name r.flip.status r.gpio).text
  rw [hrun, click_sendData (s := ⟨desk, link⟩) hnews]
  refine ⟨socket, ?_, ?_⟩
  · show (link.sendData (Message.device r.name r.flip.status r.gpio).text).log = _
    rw [hsent, ← hsame]
  · -- the card in that place is the one of the relay turned over
    have hrendered := (sound_clickStep hsound (.toggle i link.readyState)).rendered
    obtain ⟨hi, -⟩ := List.getElem?_eq_some_iff.mp hr
    show (clickStep desk (.toggle i link.readyState)).page.cards[i]?.map Card.buttonText = _
    rw [card_of_rendered hrendered, hlist, List.getElem?_set_self hi]
    rfl

/-- The lamp, after the evening. -/
theorem toggle_delivered_evening :
    ∃ signals : List Signal, signals.length ≤ 3 ∧ ∃ socket,
      (dashboard "yolo" (evening ++ (signals.map .signal ++ [.toggle 0]))).link.log =
        (dashboard "yolo" evening).link.log ++
          [.sent socket (Message.device "lamp" "OFF" "5").text] ∧
      (dashboard "yolo" (evening ++ (signals.map .signal ++ [.toggle 0]))).desk.page.cards[0]?.map
        Card.buttonText = some "OFF" :=
  toggle_delivered (r := ⟨1, "lamp", "5", true⟩) (by decide) (by decide)

end YoloUno
