import YoloUno.Lib.Keyed
import YoloUno.Lib.Runs

/-!
# The relay page of the dashboard

The device functions of `data/script.js`, with `Send_Data`. A page holds the
variables `relayList` and `deleteTarget`, the cards that were last rendered,
which of the two dialogs is open, and a log of what leaves the page: alerts
and messages. The log also notes which relay a message is about and when a
relay was created, which the messages themselves do not say.

A run is a list of `Op`s. Each brings what the function reads from outside:
the fields of the dialog and the clock, or the state of the socket.
`console.log` and `console.warn` are left out, and so is what HTML makes of
markup in a name.
-/

namespace YoloUno

/-! ## Strings -/

/-- White space and line terminators, as `trim` of a string knows them. -/
def isJsSpace (c : Char) : Bool :=
  c.toNat ∈ [0x9, 0xA, 0xB, 0xC, 0xD, 0x20, 0xA0, 0x1680, 0x2028, 0x2029, 0x202F, 0x205F, 0x3000,
    0xFEFF] || (0x2000 ≤ c.toNat && c.toNat ≤ 0x200A)

def jsTrim (s : String) : String :=
  String.ofList (((s.toList.dropWhile isJsSpace).reverse.dropWhile isJsSpace).reverse)

/-! ## The page -/

structure Relay where
  id    : Int
  name  : String
  gpio  : String
  state : Bool
  deriving DecidableEq, Repr

/-- `relay.state ? "ON" : "OFF"`. -/
def Relay.status (r : Relay) : String := if r.state then "ON" else "OFF"

/-- A card of `relayContainer`: the texts that the template of its `innerHTML`
takes in. Markup in a name is a text like any other here. -/
structure Card where
  heading     : String
  gpio        : String
  buttonClass : String
  toggleId    : Int
  buttonText  : String
  deleteId    : Int
  deriving DecidableEq, Repr

/-- The JSON object that `toggleRelay` sends. -/
structure DeviceMessage where
  page   : String
  name   : String
  status : String
  gpio   : String
  deriving DecidableEq, Repr

inductive PageEvent
  | alert (text : String)
  /-- A relay is pushed to `relayList`. -/
  | saved (id : Int)
  /-- `websocket.send`, of a message about the relay `id`. -/
  | sent (id : Int) (message : DeviceMessage)
  deriving DecidableEq, Repr

structure Page where
  relayList           : List Relay
  deleteTarget        : Option Int
  cards               : List Card
  addRelayDialog      : Bool
  confirmDeleteDialog : Bool
  log                 : List PageEvent

/-- The page once it has loaded. -/
def Page.loaded : Page := ⟨[], none, [], false, false, []⟩

/-- `WebSocket.readyState`. -/
inductive ReadyState
  | connecting
  | open
  | closing
  | closed
  deriving DecidableEq, Repr

/-! ## Functions -/

/-- `Send_Data`; before `initWebSocket` has run, `websocket` is undefined. -/
def sendData (websocket : Option ReadyState) (id : Int) (data : DeviceMessage) (p : Page) : Page :=
  if websocket = some .open then { p with log := p.log ++ [.sent id data] }
  else { p with log := p.log ++ [.alert "⚠️ WebSocket chưa kết nối!"] }

/-- The values that `renderRelays` puts in the template for a relay. -/
def card (r : Relay) : Card where
  heading     := r.name
  gpio        := "GPIO: " ++ r.gpio
  buttonClass := "toggle-btn " ++ if r.state then "on" else ""
  toggleId    := r.id
  buttonText  := r.status
  deleteId    := r.id

def renderRelays (p : Page) : Page := { p with cards := p.relayList.map card }

def closeAddRelayDialog (p : Page) : Page := { p with addRelayDialog := false }

/-- `saveRelay`, with the values of the two fields and of `Date.now()`. -/
def saveRelay (relayName relayGPIO : String) (now : Int) (p : Page) : Page :=
  let name := jsTrim relayName
  let gpio := jsTrim relayGPIO
  if name = "" ∨ gpio = "" then
    { p with log := p.log ++ [.alert "⚠️ Please fill all fields!"] }
  else
    { p with
      relayList := p.relayList ++ [⟨now, name, gpio, false⟩]
      log := p.log ++ [.saved now] }
    |> renderRelays |> closeAddRelayDialog

def Relay.flip (r : Relay) : Relay := { r with state := !r.state }

def toggleRelay (id : Int) (websocket : Option ReadyState) (p : Page) : Page :=
  match p.relayList.find? (fun r => r.id = id) with
  | none => p
  | some relay =>
    -- the record found is changed in place, before anything is sent
    let relay := relay.flip
    let p := { p with relayList := Keyed.update Relay.id id Relay.flip p.relayList }
    p |> sendData websocket id ⟨"device", relay.name, relay.status, relay.gpio⟩ |> renderRelays

def showDeleteDialog (id : Int) (p : Page) : Page :=
  { p with deleteTarget := some id, confirmDeleteDialog := true }

def closeConfirmDelete (p : Page) : Page := { p with confirmDeleteDialog := false }

def confirmDelete (p : Page) : Page :=
  -- no id equals `null`: before any dialog was shown nothing is removed
  { p with relayList := p.relayList.filter fun r => some r.id ≠ p.deleteTarget }
  |> renderRelays |> closeConfirmDelete

/-! ## Runs -/

inductive Op
  | saveRelay (relayName relayGPIO : String) (now : Int)
  | toggleRelay (id : Int) (websocket : Option ReadyState)
  | showDeleteDialog (id : Int)
  | closeConfirmDelete
  | confirmDelete
  deriving DecidableEq, Repr

def pageStep (p : Page) : Op → Page
  | .saveRelay relayName relayGPIO now => saveRelay relayName relayGPIO now p
  | .toggleRelay id websocket => toggleRelay id websocket p
  | .showDeleteDialog id => showDeleteDialog id p
  | .closeConfirmDelete => closeConfirmDelete p
  | .confirmDelete => confirmDelete p

def page (ops : List Op) : Page := Runs.run pageStep Page.loaded ops

/-! ## What a step does -/

/-- Every step leaves the cards as the list would be rendered. -/
def Rendered (p : Page) : Prop := p.cards = p.relayList.map card

theorem rendered_pageStep {p : Page} (h : Rendered p) (op : Op) : Rendered (pageStep p op) := by
  cases op with
  | saveRelay relayName relayGPIO now =>
    show Rendered (saveRelay relayName relayGPIO now p)
    unfold saveRelay
    dsimp only
    split
    · exact h
    · rfl
  | toggleRelay id websocket =>
    show Rendered (toggleRelay id websocket p)
    unfold toggleRelay
    split
    · exact h
    · rfl
  | showDeleteDialog id => exact h
  | closeConfirmDelete => exact h
  | confirmDelete => rfl

theorem rendered_page (ops : List Op) : Rendered (page ops) := by
  have hloaded : Rendered Page.loaded := rfl
  exact Runs.run_invariant hloaded (fun _ op h => rendered_pageStep h op) ops

end YoloUno
