import YoloUno.Dashboard.Panel
import YoloUno.Dashboard.Circuit
import YoloUno.Dashboard.Wire

/-!
# The whole dashboard

The relay page, the settings form and the connection together, as they run
under one user and one network: `toggleRelay` and the submit handler read the
socket that is in `websocket` at the time, and what they send goes out on it.

A run is a list of `Act`s, of the user and of the browser in any order. There
is one log of the whole, that of the connection: every message that is sent,
and every alert.

The relay page is in a run of its own clicks (`desk_dashboard`), and what a
click leaves on the log is said once here (`click_eq`, `click_sendData`).
-/

namespace YoloUno

/-! ## The code -/

inductive Act
  | save (relayName relayGPIO : String) (now : Int)
  /-- The toggle button of the `i`-th card. -/
  | toggle (i : Nat)
  /-- The delete icon of the `i`-th card. -/
  | trash (i : Nat)
  | cancel
  | confirm
  /-- The settings form is submitted. -/
  | submit (form : Settings)
  | signal (e : Signal)
  deriving DecidableEq, Repr

structure Dashboard where
  desk : Desk
  link : Connection

/-- The page has loaded. -/
def Dashboard.loaded (hostname : String) : Dashboard :=
  ⟨⟨Page.loaded, none⟩, onLoad (Connection.initial hostname)⟩

/-- An event of the relay page as one of the connection: what is sent is a
text, and goes out on the socket in `websocket`. -/
def PageEvent.onLink (websocket : Option Nat) : PageEvent → Option LinkEvent
  | .alert text => some (.alert text)
  -- nothing leaves the page when a relay is pushed to the list
  | .saved _ => none
  | .sent _ message => websocket.map fun s => .sent s message.text

/-- A click on the relay page. What it adds to the log of that page goes on
the log of the whole, which is kept with the connection. -/
def Dashboard.click (s : Dashboard) (c : Click) : Dashboard :=
  let desk := clickStep s.desk c
  let news := desk.page.log.drop s.desk.page.log.length
  let events := news.filterMap (PageEvent.onLink s.link.websocket)
  { desk, link := { s.link with log := s.link.log ++ events } }

/-- The submit handler of the form. -/
def submitSettings (form : Settings) (c : Connection) : Connection :=
  let c := c.sendData form.trim.text
  { c with log := c.log ++ [.alert "✅ Cấu hình đã được gửi đến thiết bị!"] }

def dashboardStep (s : Dashboard) : Act → Dashboard
  | .save relayName relayGPIO now => s.click (.save relayName relayGPIO now)
  | .toggle i => s.click (.toggle i s.link.readyState)
  | .trash i => s.click (.trash i)
  | .cancel => s.click .cancel
  | .confirm => s.click .confirm
  | .submit form => { s with link := submitSettings form s.link }
  | .signal e => { s with link := netStep s.link e.event }

def dashboard (hostname : String) (acts : List Act) : Dashboard :=
  Runs.run dashboardStep (Dashboard.loaded hostname) acts

/-- The click an act is, where `websocket` is in the given state. -/
def Act.click (websocket : Option ReadyState) : Act → Option Click
  | .save relayName relayGPIO now => some (.save relayName relayGPIO now)
  | .toggle i => some (.toggle i websocket)
  | .trash i => some (.trash i)
  | .cancel => some .cancel
  | .confirm => some .confirm
  | .submit _ => none
  | .signal _ => none

/-- The readings of the clock at which the relays of a run are saved; the
socket has no part in them. -/
def saveReadings (acts : List Act) : List Int := readings (acts.filterMap (Act.click none))

/-! ## The clicks of a run -/

def Dashboard.clicks (s : Dashboard) (a : Act) : List Click :=
  (a.click s.link.readyState).toList

/-- The clicks that the acts of a run are. -/
def clicksOf (hostname : String) (acts : List Act) : List Click :=
  Runs.trace dashboardStep Dashboard.clicks (Dashboard.loaded hostname) acts

theorem log_loaded (hostname : String) : (dashboard hostname []).link.log = [] := by
  show (initWebSocket (Connection.initial hostname)).log = []
  rw [initWebSocket_eq]
  rfl

theorem dashboard_concat (hostname : String) (acts : List Act) (a : Act) :
    dashboard hostname (acts ++ [a]) = dashboardStep (dashboard hostname acts) a :=
  Runs.run_concat ..

/-- The relay page of the dashboard is in a run of its own. -/
theorem desk_dashboard (hostname : String) (acts : List Act) :
    (dashboard hostname acts).desk = desk (clicksOf hostname acts) := by
  refine Runs.run_traced (f := Dashboard.desk) ?_ (Dashboard.loaded hostname) acts
  intro s a
  cases a <;> rfl

theorem readings_clicksOf (hostname : String) (acts : List Act) :
    readings (clicksOf hostname acts) = saveReadings acts := by
  induction acts using List.reverseRecOn with
  | nil => rfl
  | append_singleton acts a ih =>
    have hone : readings ((dashboard hostname acts).clicks a) = saveReadings [a] := by
      cases a <;> rfl
    have hmore : saveReadings (acts ++ [a]) = saveReadings acts ++ saveReadings [a] := by
      simp [saveReadings, readings]
    rw [clicksOf, Runs.trace_concat, ← clicksOf, ← dashboard, hmore, ← ih, ← hone]
    exact List.filterMap_append

theorem sound_dashboard (hostname : String) (acts : List Act) :
    Sound (dashboard hostname acts).desk := by
  rw [desk_dashboard]
  exact sound_desk _

theorem distinctIds_dashboard {acts : List Act} (h : (saveReadings acts).Nodup)
    (hostname : String) : DistinctIds (dashboard hostname acts).desk.page := by
  rw [desk_dashboard]
  rw [← readings_clicksOf hostname] at h
  exact h.sublist (ids_sublist_readings _)

theorem spent_dashboard {acts : List Act} (h : (saveReadings acts).Nodup) (hostname : String) :
    Spent (clicksOf hostname acts) (dashboard hostname acts).desk := by
  rw [desk_dashboard]
  rw [← readings_clicksOf hostname] at h
  exact spent_desk h

/-! ## What a click puts on the log -/

theorem click_eq {s : Dashboard} {c : Click} {news : List PageEvent}
    (h : (clickStep s.desk c).page.log = s.desk.page.log ++ news) :
    s.click c = ⟨clickStep s.desk c, { s.link with
      log := s.link.log ++ news.filterMap (PageEvent.onLink s.link.websocket) }⟩ := by
  unfold Dashboard.click
  dsimp only
  rw [h, List.drop_left]

theorem click_quiet {s : Dashboard} {c : Click}
    (h : (clickStep s.desk c).page.log = s.desk.page.log) :
    s.click c = { s with desk := clickStep s.desk c } := by
  have hnone : (clickStep s.desk c).page.log = s.desk.page.log ++ [] := by
    rw [h, List.append_nil]
  rw [click_eq hnone]
  simp

/-- `Send_Data` sends exactly when the socket in the variable is open. -/
theorem sendData_of_open {c : Connection} (h : c.readyState = some .open) (data : String) :
    ∃ socket, c.websocket = some socket ∧
      c.sendData data = { c with log := c.log ++ [.sent socket data] } := by
  obtain ⟨s, hs, -⟩ := Option.bind_eq_some_iff.mp h
  refine ⟨s, hs, ?_⟩
  unfold Connection.sendData
  rw [hs]
  exact if_pos h

theorem sendData_of_not_open {c : Connection} (h : c.readyState ≠ some .open) (data : String) :
    c.sendData data = { c with log := c.log ++ [.alert "⚠️ WebSocket chưa kết nối!"] } := by
  unfold Connection.sendData
  split
  · exact if_neg h
  · rfl

/-- **One `Send_Data`**: a click whose message the relay page sends, or
refuses, by the state of the socket has handed its text to the connection. -/
theorem click_sendData {s : Dashboard} {c : Click} {id : Int} {message : DeviceMessage}
    (h : (clickStep s.desk c).page.log = s.desk.page.log ++
      [if s.link.readyState = some .open then .sent id message
       else .alert "⚠️ WebSocket chưa kết nối!"]) :
    s.click c = ⟨clickStep s.desk c, s.link.sendData message.text⟩ := by
  rw [click_eq h]
  by_cases hopen : s.link.readyState = some .open
  · obtain ⟨socket, hsocket, hsent⟩ := sendData_of_open hopen message.text
    rw [if_pos hopen, hsent]
    simp [PageEvent.onLink, hsocket]
  · rw [if_neg hopen, sendData_of_not_open hopen]
    rfl

theorem log_saveRelay (relayName relayGPIO : String) (now : Int) (p : Page) :
    (saveRelay relayName relayGPIO now p).log = p.log ++
      [if jsTrim relayName = "" ∨ jsTrim relayGPIO = "" then
        .alert "⚠️ Please fill all fields!" else .saved now] := by
  unfold saveRelay
  dsimp only
  split <;> rfl

theorem log_trash (s : Desk) (i : Nat) : (clickStep s (.trash i)).page.log = s.page.log := by
  have hcall : Click.call s.page (.trash i) =
      s.page.cards[i]?.map fun c => .showDeleteDialog c.deleteId := rfl
  rw [clickStep, hcall]
  cases s.page.cards[i]? <;> rfl

/-- On a page with distinct ids, a toggle turns over the relay in its place,
and hands over its message. -/
theorem acts_toggle {s : Desk} {i : Nat} {r : Relay} (hsound : Sound s)
    (hd : DistinctIds s.page) (hr : s.page.relayList[i]? = some r)
    (websocket : Option ReadyState) :
    (clickStep s (.toggle i websocket)).page.relayList = s.page.relayList.set i r.flip ∧
      (clickStep s (.toggle i websocket)).page.log = s.page.log ++
        [if websocket = some .open then .sent r.id ⟨"device", r.name, r.flip.status, r.gpio⟩
         else .alert "⚠️ WebSocket chưa kết nối!"] := by
  have hacts := (actsOnPicked_iff_unambiguous hsound (.toggle i websocket)).mpr
    (unambiguous_of_distinctIds hd _)
  obtain ⟨r', hr', hlist, hlog⟩ :=
    hacts (card r) (by rw [card_of_rendered hsound.rendered, hr]; rfl)
  rw [hr, Option.some.injEq] at hr'
  subst hr'
  exact ⟨hlist, hlog⟩

end YoloUno
