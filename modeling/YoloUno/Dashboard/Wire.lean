import YoloUno.Dashboard.Page
import YoloUno.Lib.Json

/-!
# What goes over the wire

The two messages of `data/script.js`, as the text that `JSON.stringify` makes
of them: the one of `toggleRelay`, and the one of the settings form. The
device that reads them is not part of the script; `receive` says what such a
reader can tell from a text.

* `texts_told_apart` — every message can be told from its text, whatever its
  strings hold: a name cannot forge a status, nor a relay the settings.
-/

namespace YoloUno

/-- The fields of the settings form. -/
structure Settings where
  ssid     : String
  password : String
  token    : String
  server   : String
  port     : String
  deriving DecidableEq, Repr

/-- The fields as the submit handler reads them. -/
def Settings.trim (form : Settings) : Settings where
  ssid     := jsTrim form.ssid
  password := jsTrim form.password
  token    := jsTrim form.token
  server   := jsTrim form.server
  port     := jsTrim form.port

/-! ## Texts -/

open Json (string object stringify)

/-- `relayJSON` in `toggleRelay`. -/
def DeviceMessage.text (m : DeviceMessage) : String :=
  stringify (object [
    ("page", string m.page),
    ("value", object [
      ("name", string m.name),
      ("status", string m.status),
      ("gpio", string m.gpio)])])

/-- `settingsJSON` in the submit handler, with the values it has read. -/
def Settings.text (value : Settings) : String :=
  stringify (object [
    ("page", string "setting"),
    ("value", object [
      ("ssid", string value.ssid),
      ("password", string value.password),
      ("token", string value.token),
      ("server", string value.server),
      ("port", string value.port)])])

/-! ## Reading them back -/

inductive Message
  | device (name status gpio : String)
  | setting (value : Settings)
  deriving DecidableEq, Repr

def Message.text : Message → String
  | .device name status gpio => DeviceMessage.text ⟨"device", name, status, gpio⟩
  | .setting value => value.text

/-- The message of a text, by its `page`. -/
def receive (text : String) : Option Message := do
  let v ← Json.parse text.toList
  let page ← v.stringMember "page"
  let value ← v.member "value"
  if page = "device" then
    some (.device (← value.stringMember "name") (← value.stringMember "status")
      (← value.stringMember "gpio"))
  else if page = "setting" then
    some (.setting ⟨← value.stringMember "ssid", ← value.stringMember "password",
      ← value.stringMember "token", ← value.stringMember "server",
      ← value.stringMember "port"⟩)
  else none

theorem receive_text (m : Message) : receive m.text = some m := by
  cases m with
  | device name status gpio =>
    unfold Message.text DeviceMessage.text receive
    rw [Json.parse_stringify]
    simp [Json.Value.stringMember, Json.member_object, string]
  | setting value =>
    unfold Message.text Settings.text receive
    rw [Json.parse_stringify]
    simp [Json.Value.stringMember, Json.member_object, string]

/-- **A text tells its message.** Whatever the fields hold, the message is read
back from its text, and no two messages have one text. -/
theorem texts_told_apart :
    (∀ m : Message, receive m.text = some m) ∧ Function.Injective Message.text := by
  refine ⟨receive_text, ?_⟩
  intro m m' h
  have hsame : some m = some m' := by rw [← receive_text m, h, receive_text m']
  exact Option.some.inj hsame

/-- A relay whose name has a quotation mark in it. -/
example : (Message.device "the \"lamp\"" "ON" "5").text.toList =
    ("\x7b\"page\":\"device\",\"value\":\x7b\"name\":\"the \\\"lamp\\\"\"," ++
      "\"status\":\"ON\",\"gpio\":\"5\"\x7d\x7d").toList := by decide

end YoloUno
