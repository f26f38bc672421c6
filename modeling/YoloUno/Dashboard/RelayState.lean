import YoloUno.Dashboard.Page

/-!
# Relay states and the messages that told them

What a relay's button shows against what the device was last told about the
relay. `toggleRelay` changes the relay first, and then tries to send;
`Send_Data` refuses when the socket is not open, alerts the user and returns
nothing, so that the button turns over all the same.

`inSync_iff`: with distinct ids, the page agrees with the messages in every
state of a run exactly when no toggle of a listed relay in it is `Refused`.
-/

namespace YoloUno

/-- What an event changes about the last status sent for the relay `id`. -/
def tellStatus (id : Int) (status : String) : PageEvent → String
  | .alert _ => status
  | .saved id' => if id' = id then "OFF" else status
  | .sent id' message => if id' = id then message.status else status

/-- The status field of the last message sent for the relay `id`, or OFF when
none was sent since it was saved. -/
def lastStatus (log : List PageEvent) (id : Int) : String := log.foldl (tellStatus id) "OFF"

/-- Every relay, and its button, shows the status that was last sent. -/
structure InSync (p : Page) : Prop where
  relays  : ∀ r ∈ p.relayList, r.status = lastStatus p.log r.id
  buttons : p.cards.map (fun c => (c.toggleId, c.buttonText)) =
    p.relayList.map fun r => (r.id, lastStatus p.log r.id)

/-- A relay of the list is toggled while the socket is not open. -/
def Refused (p : Page) : Op → Prop
  | .toggleRelay id websocket => id ∈ p.relayList.map Relay.id ∧ websocket ≠ some .open
  | _ => False

/-- The ids on the page are pairwise distinct. -/
def DistinctIds (p : Page) : Prop := (p.relayList.map Relay.id).Nodup

instance (p : Page) : Decidable (DistinctIds p) :=
  inferInstanceAs (Decidable (p.relayList.map Relay.id).Nodup)

theorem lastStatus_concat (log : List PageEvent) (e : PageEvent) (id : Int) :
    lastStatus (log ++ [e]) id = tellStatus id (lastStatus log id) e := by
  unfold lastStatus
  rw [List.foldl_append]
  rfl

theorem inSync_of_rendered {p : Page} (hr : Rendered p)
    (h : ∀ r ∈ p.relayList, r.status = lastStatus p.log r.id) : InSync p := by
  refine ⟨h, ?_⟩
  unfold Rendered at hr
  rw [hr, List.map_map]
  apply List.map_congr_left
  intro r hmem
  show (r.id, r.status) = _
  rw [h r hmem]

theorem Relay.flip_status_ne (r : Relay) : r.flip.status ≠ r.status := by
  unfold Relay.flip Relay.status
  cases r.state <;> simp

/-! ## One step -/

theorem toggleRelay_of_find {p : Page} {id : Int} {r : Relay} (websocket : Option ReadyState)
    (h : p.relayList.find? (fun r => r.id = id) = some r) :
    (toggleRelay id websocket p).relayList = Keyed.update Relay.id id Relay.flip p.relayList ∧
      (toggleRelay id websocket p).log = p.log ++
        [if websocket = some .open then .sent id ⟨"device", r.name, r.flip.status, r.gpio⟩
         else .alert "⚠️ WebSocket chưa kết nối!"] := by
  unfold toggleRelay
  rw [h]
  dsimp only
  unfold sendData
  split <;> exact ⟨rfl, rfl⟩

/-- A toggle that is sent tells the device the state it has made. -/
theorem relays_toggleRelay {p : Page} {id : Int} (hd : DistinctIds p)
    (h : ∀ r ∈ p.relayList, r.status = lastStatus p.log r.id) :
    ∀ r ∈ (toggleRelay id (some .open) p).relayList,
      r.status = lastStatus (toggleRelay id (some .open) p).log r.id := by
  cases hfind : p.relayList.find? (fun r => r.id = id) with
  | none =>
    have hsame : toggleRelay id (some .open) p = p := by
      unfold toggleRelay
      rw [hfind]
    rw [hsame]
    exact h
  | some relay =>
    have hrelay : relay ∈ p.relayList := List.mem_of_find?_eq_some hfind
    have hid : relay.id = id := by simpa using List.find?_some hfind
    obtain ⟨hlist, hlog⟩ := toggleRelay_of_find (some .open) hfind
    rw [if_pos rfl] at hlog
    rw [hlist, hlog]
    intro r hr
    rw [lastStatus_concat]
    rcases (Keyed.mem_update hd).mp hr with ⟨r', hr', hid', rfl⟩ | ⟨hr, hne⟩
    · -- the relay of that id is the one that was found
      have hsame : r' = relay := List.inj_on_of_nodup_map hd hr' hrelay (hid'.trans hid.symm)
      rw [hsame]
      exact (if_pos hid.symm).symm
    · rw [h r hr]
      exact (if_neg (Ne.symm hne)).symm

theorem inSync_pageStep {p : Page} {op : Op} (h : InSync p) (hr : Rendered p)
    (hd : DistinctIds p) (hd' : DistinctIds (pageStep p op)) (hop : ¬ Refused p op) :
    InSync (pageStep p op) := by
  apply inSync_of_rendered (rendered_pageStep hr op)
  have hrelays := h.relays
  cases op with
  | saveRelay relayName relayGPIO now =>
    revert hd'
    show DistinctIds (saveRelay relayName relayGPIO now p) →
      ∀ r ∈ (saveRelay relayName relayGPIO now p).relayList,
        r.status = lastStatus (saveRelay relayName relayGPIO now p).log r.id
    unfold saveRelay
    dsimp only
    split
    · intro _ r hmem
      show _ = lastStatus (p.log ++ [_]) r.id
      rw [lastStatus_concat]
      exact hrelays r hmem
    · intro hd' r hmem
      show _ = lastStatus (p.log ++ [.saved now]) r.id
      rw [lastStatus_concat]
      rcases List.mem_append.mp hmem with hold | hnew
      · -- the new id is not an old one
        have hne : now ≠ r.id := by
          intro heq
          unfold DistinctIds at hd'
          change ((p.relayList ++ [_]).map Relay.id).Nodup at hd'
          rw [List.map_append, List.nodup_append] at hd'
          exact hd'.2.2 r.id (List.mem_map_of_mem hold) now (by simp) heq.symm
        rw [hrelays r hold]
        exact (if_neg hne).symm
      · rw [List.mem_singleton.mp hnew]
        exact (if_pos rfl).symm
  | toggleRelay id websocket =>
    show ∀ r ∈ (toggleRelay id websocket p).relayList,
      r.status = lastStatus (toggleRelay id websocket p).log r.id
    by_cases hopen : websocket = some .open
    · rw [hopen]
      exact relays_toggleRelay hd hrelays
    · -- not refused, so there is no relay of that id
      have hnone : p.relayList.find? (fun r => r.id = id) = none := by
        rw [List.find?_eq_none]
        intro r hmem hid
        have hid : r.id = id := by simpa using hid
        exact hop ⟨hid ▸ List.mem_map_of_mem hmem, hopen⟩
      have hsame : toggleRelay id websocket p = p := by
        unfold toggleRelay
        rw [hnone]
      rw [hsame]
      exact hrelays
  | showDeleteDialog id => exact hrelays
  | closeConfirmDelete => exact hrelays
  | confirmDelete =>
    intro r hmem
    exact hrelays r (List.mem_of_mem_filter hmem)

/-- A toggle that is refused breaks the agreement it finds. -/
theorem not_refused_of_inSync {p : Page} {op : Op} (h : InSync p)
    (hnext : InSync (pageStep p op)) : ¬ Refused p op := by
  intro hrefused
  cases op with
  | toggleRelay id websocket =>
    obtain ⟨hlisted, hclosed⟩ := hrefused
    cases hfind : p.relayList.find? (fun r => r.id = id) with
    | none =>
      obtain ⟨r, hmem, hid⟩ := List.mem_map.mp hlisted
      exact absurd hid (by simpa using List.find?_eq_none.mp hfind r hmem)
    | some relay =>
      obtain ⟨hlist, hlog⟩ := toggleRelay_of_find websocket hfind
      rw [if_neg hclosed] at hlog
      have hflipped : relay.flip ∈ (toggleRelay id websocket p).relayList := by
        rw [hlist]
        exact Keyed.mem_update_of_find hfind
      have hbefore := h.relays relay (List.mem_of_find?_eq_some hfind)
      have hafter : relay.flip.status = lastStatus (toggleRelay id websocket p).log relay.id :=
        hnext.relays relay.flip hflipped
      rw [hlog, lastStatus_concat] at hafter
      exact relay.flip_status_ne (hafter.trans hbefore.symm)
  | _ => exact hrefused

/-! ## Whole runs -/

/--
**When the dashboard can be trusted.** In a run whose relay ids are pairwise
distinct, every relay and its button show the status last sent for it, in
every state, exactly when no toggle of a listed relay meets a socket that is
not open.
-/
theorem inSync_iff {ops : List Op} (hdistinct : ∀ pre, pre <+: ops → DistinctIds (page pre)) :
    (∀ pre, pre <+: ops → InSync (page pre)) ↔
      ∀ pre op, pre ++ [op] <+: ops → ¬ Refused (page pre) op := by
  refine @Runs.holds_throughout_iff _ _ pageStep InSync InSync (fun p op => ¬ Refused p op)
    Page.loaded ops ⟨by simp [Page.loaded], rfl⟩ (fun _ h => h) ?_ ?_
  · intro pre op hpre h hop
    have hshort : pre <+: ops := (List.prefix_append pre [op]).trans hpre
    have hnext : DistinctIds (page (pre ++ [op])) := hdistinct _ hpre
    rw [page, Runs.run_concat] at hnext
    exact inSync_pageStep h (rendered_page pre) (hdistinct pre hshort) hnext hop
  · intro pre op _ h hnext
    exact not_refused_of_inSync h hnext

/-- A lamp, toggled once while the socket is open and once while it is not. -/
def lostToggle : List Op :=
  [.saveRelay "lamp" "5" 1, .toggleRelay 1 (some .open), .toggleRelay 1 (some .closed)]

theorem distinctIds_lostToggle : ∀ pre, pre <+: lostToggle → DistinctIds (page pre) := by
  have hall : ∀ pre ∈ lostToggle.inits, DistinctIds (page pre) := by decide
  intro pre hpre
  exact hall pre ((List.mem_inits _ _).mpr hpre)

theorem inSync_iff_lostToggle :
    (∀ pre, pre <+: lostToggle → InSync (page pre)) ↔
      ∀ pre op, pre ++ [op] <+: lostToggle → ¬ Refused (page pre) op :=
  inSync_iff distinctIds_lostToggle

/-- In the end the lamp is shown OFF, and the device was last told ON. -/
theorem not_inSync_lostToggle :
    (∀ pre, pre <+: lostToggle → DistinctIds (page pre)) ∧ ¬ InSync (page lostToggle) := by
  refine ⟨distinctIds_lostToggle, ?_⟩
  intro h
  have hlamp : (⟨1, "lamp", "5", false⟩ : Relay) ∈ (page lostToggle).relayList := by decide
  exact absurd (h.relays _ hlamp) (by decide)

end YoloUno
