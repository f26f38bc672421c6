import YoloUno.Dashboard.Picked
import Mathlib.Data.List.InsertIdx

/-!
# A panel of switches

What the relay page is for: a row of switches, which its user adds, turns over
and takes away by their places. A `Panel` has no ids, no clock and no cards.

* `desk_panel` — in every run that saves no two relays at the same reading of
  the clock, the page is the panel, relay for switch in the same places, and
  the texts in its cards are those of the switches.
-/

namespace YoloUno

structure Switch where
  name : String
  gpio : String
  on   : Bool
  deriving DecidableEq, Repr

def Switch.flip (w : Switch) : Switch := { w with on := !w.on }

/-- `picked` is the place of the switch that is to be taken away. -/
structure Panel where
  switches : List Switch
  picked   : Option Nat
  deriving DecidableEq, Repr

def panelStep (p : Panel) : Click → Panel
  | .save relayName relayGPIO _ =>
    if jsTrim relayName = "" ∨ jsTrim relayGPIO = "" then p
    else { p with switches := p.switches ++ [⟨jsTrim relayName, jsTrim relayGPIO, false⟩] }
  | .toggle i _ => { p with switches := p.switches.modify i Switch.flip }
  | .trash i => if i < p.switches.length then { p with picked := some i } else p
  | .cancel => p
  | .confirm =>
    { switches := p.picked.elim p.switches p.switches.eraseIdx
      picked   := none }

def panel (clicks : List Click) : Panel := Runs.run panelStep ⟨[], none⟩ clicks

/-! ## The switches of a page -/

def Relay.switch (r : Relay) : Switch := ⟨r.name, r.gpio, r.state⟩

def Desk.panel (s : Desk) : Panel := ⟨s.page.relayList.map Relay.switch, s.picked⟩

/-- What a card shows: the texts in its template, the ids in its handlers
apart. Markup in a name is not interpreted. -/
def Card.face (c : Card) : String × String × String × String :=
  (c.heading, c.gpio, c.buttonClass, c.buttonText)

/-- The texts in the card of a switch. -/
def Switch.face (w : Switch) : String × String × String × String :=
  (w.name, "GPIO: " ++ w.gpio, "toggle-btn " ++ (if w.on then "on" else ""),
    if w.on then "ON" else "OFF")

theorem faces_of_rendered {s : Desk} (h : Rendered s.page) :
    s.page.cards.map Card.face = s.panel.switches.map Switch.face := by
  unfold Rendered at h
  show s.page.cards.map Card.face = (s.page.relayList.map Relay.switch).map Switch.face
  rw [h, List.map_map, List.map_map]
  rfl

/-! ## The relay whose deletion was confirmed -/

theorem clickStep_trash {s : Desk} {i : Nat} {r : Relay} (h : Rendered s.page)
    (hr : s.page.relayList[i]? = some r) :
    clickStep s (.trash i) = ⟨showDeleteDialog r.id s.page, some i⟩ := by
  have hcall : Click.call s.page (.trash i) = some (.showDeleteDialog r.id) := by
    show s.page.cards[i]?.map _ = _
    rw [card_of_rendered h, hr]
    rfl
  rw [clickStep, hcall]
  rfl

/-- Where there is no card there is nothing to click on. -/
theorem clickStep_of_none {s : Desk} {i : Nat} (h : Rendered s.page)
    (hr : s.page.relayList[i]? = none) {c : Click}
    (hc : c = .trash i ∨ ∃ websocket, c = .toggle i websocket) : clickStep s c = s := by
  have hcall : c.call s.page = none := by
    rcases hc with rfl | ⟨websocket, rfl⟩
    · show s.page.cards[i]?.map _ = none
      rw [card_of_rendered h, hr]
      rfl
    · show s.page.cards[i]?.map _ = none
      rw [card_of_rendered h, hr]
      rfl
  rw [clickStep, hcall]

/-- `deleteTarget` is the id of a relay that was saved, and once its deletion
has been confirmed no relay has it. -/
structure Spent (clicks : List Click) (s : Desk) : Prop where
  saved : ∀ id, s.page.deleteTarget = some id → id ∈ readings clicks
  gone  : s.picked = none → ∀ id, s.page.deleteTarget = some id →
    ∀ r ∈ s.page.relayList, r.id ≠ id

/-- A click that leaves the target as it is, and adds no relay of its id. -/
theorem Spent.keep {clicks : List Click} {c : Click} {s s' : Desk} (h : Spent clicks s)
    (htarget : s'.page.deleteTarget = s.page.deleteTarget) (hpicked : s'.picked = s.picked)
    (hids : ∀ r ∈ s'.page.relayList,
      r.id ∈ s.page.relayList.map Relay.id ∨ r.id ∉ readings clicks) :
    Spent (clicks ++ [c]) s' := by
  refine ⟨?_, ?_⟩
  · intro id hid
    rw [htarget] at hid
    rw [readings_concat]
    exact List.mem_append_left _ (h.saved id hid)
  · intro hnone id hid r hr
    rw [htarget] at hid
    rw [hpicked] at hnone
    rcases hids r hr with hold | hnew
    · obtain ⟨r', hr', heq⟩ := List.mem_map.mp hold
      rw [← heq]
      exact h.gone hnone id hid r' hr'
    · intro heq
      exact hnew (heq ▸ h.saved id hid)

theorem spent_clickStep {clicks : List Click} {c : Click} (h : Spent clicks (desk clicks))
    (hnodup : (readings (clicks ++ [c])).Nodup) :
    Spent (clicks ++ [c]) (clickStep (desk clicks) c) := by
  have hids := ids_sublist_readings clicks
  have hsound := sound_desk clicks
  set s := desk clicks with hs
  have hsame : ∀ r ∈ s.page.relayList,
      r.id ∈ s.page.relayList.map Relay.id ∨ r.id ∉ readings clicks :=
    fun r hr => Or.inl (List.mem_map_of_mem hr)
  cases c with
  | save relayName relayGPIO now =>
    refine h.keep (deleteTarget_saveRelay relayName relayGPIO now s.page) rfl ?_
    show ∀ r ∈ (saveRelay relayName relayGPIO now s.page).relayList, _
    rcases relayList_saveRelay relayName relayGPIO now s.page with hlist | ⟨r, hread, hlist⟩
    · rw [hlist]
      exact hsame
    · rw [hlist]
      intro r' hr'
      rcases List.mem_append.mp hr' with hold | hnew
      · exact hsame r' hold
      · -- the clock has not read this before
        rw [List.mem_singleton.mp hnew]
        rw [readings_concat, List.nodup_append] at hnodup
        exact Or.inr fun hold => hnodup.2.2 r.id hold r.id (by simp [readings, hread]) rfl
  | toggle i websocket =>
    cases hr : s.page.relayList[i]? with
    | none =>
      rw [clickStep_of_none hsound.rendered hr (Or.inr ⟨websocket, rfl⟩)]
      exact h.keep rfl rfl hsame
    | some r =>
      rw [clickStep_toggle hsound.rendered hr]
      refine h.keep (deleteTarget_toggleRelay r.id websocket s.page) rfl ?_
      show ∀ r' ∈ (toggleRelay r.id websocket s.page).relayList, _
      have hid : ∀ r : Relay, r.flip.id = r.id := fun _ => rfl
      intro r' hr'
      rw [relayList_toggleRelay] at hr'
      have hmem := List.mem_map_of_mem (f := Relay.id) hr'
      rw [Keyed.map_update hid] at hmem
      exact Or.inl hmem
  | trash i =>
    cases hr : s.page.relayList[i]? with
    | none =>
      rw [clickStep_of_none hsound.rendered hr (Or.inl rfl)]
      exact h.keep rfl rfl hsame
    | some r =>
      rw [clickStep_trash hsound.rendered hr]
      refine ⟨?_, fun hnone => absurd hnone (by simp)⟩
      intro id hid
      obtain rfl := Option.some.inj hid
      rw [readings_concat]
      exact List.mem_append_left _ (hids.subset (List.mem_map_of_mem (List.mem_of_getElem? hr)))
  | cancel => exact h.keep rfl rfl hsame
  | confirm =>
    refine ⟨?_, ?_⟩
    · intro id hid
      rw [readings_concat]
      exact List.mem_append_left _ (h.saved id hid)
    · intro _ id hid r hr heq
      -- the relays of that id have just been removed
      change s.page.deleteTarget = some id at hid
      have hkept := (List.mem_filter.mp hr).2
      rw [heq] at hkept
      exact absurd hid.symm (by simpa using hkept)

theorem spent_desk {clicks : List Click} (h : (readings clicks).Nodup) :
    Spent clicks (desk clicks) := by
  induction clicks using List.reverseRecOn with
  | nil => exact ⟨by simp [desk, Page.loaded], by simp [desk, Page.loaded]⟩
  | append_singleton clicks c ih =>
    have hshort : (readings clicks).Nodup :=
      h.sublist ((List.prefix_append clicks [c]).filterMap _).sublist
    rw [desk, Runs.run_concat, ← desk]
    exact spent_clickStep (ih hshort) h

/-! ## One click -/

/-- The relays without those of the target are the ones that the panel keeps. -/
theorem relayList_confirm {s : Desk} {clicks : List Click} (hsound : Sound s)
    (hd : DistinctIds s.page) (hspent : Spent clicks s) :
    (confirmDelete s.page).relayList =
      s.picked.elim s.page.relayList s.page.relayList.eraseIdx := by
  show s.page.relayList.filter (fun r => some r.id ≠ s.page.deleteTarget) = _
  cases hpicked : s.picked with
  | none =>
    rw [Option.elim_none, List.filter_eq_self]
    intro r hr
    rw [decide_eq_true_iff]
    intro hid
    exact hspent.gone hpicked r.id hid.symm r hr rfl
  | some i =>
    obtain ⟨r, hr, hid⟩ := hsound.target i hpicked
    have honly := unambiguous_of_distinctIds hd .confirm i hpicked r hr
    have herased := (Keyed.filter_eq_eraseIdx_iff hr).mpr honly
    rw [Option.elim_some, ← herased]
    simp only [hid, ne_eq, Option.some.injEq]

theorem panel_clickStep {s : Desk} {clicks : List Click} (hsound : Sound s)
    (hd : DistinctIds s.page) (hspent : Spent clicks s) (c : Click) :
    (clickStep s c).panel = panelStep s.panel c := by
  have hlength : s.panel.switches.length = s.page.relayList.length := List.length_map _
  cases c with
  | save relayName relayGPIO now =>
    show Desk.panel ⟨saveRelay relayName relayGPIO now s.page, s.picked⟩ = _
    unfold saveRelay panelStep
    dsimp only
    split
    · rfl
    · show (⟨(s.page.relayList ++ [_]).map Relay.switch, s.picked⟩ : Panel) = _
      rw [List.map_append]
      rfl
  | toggle i websocket =>
    cases hr : s.page.relayList[i]? with
    | none =>
      have hle : s.panel.switches.length ≤ i := by
        rw [hlength]
        exact List.getElem?_eq_none_iff.mp hr
      rw [clickStep_of_none hsound.rendered hr (Or.inr ⟨websocket, rfl⟩), panelStep,
        List.modify_eq_self hle]
    | some r =>
      have hfirst := unambiguous_of_distinctIds hd (.toggle i websocket) r hr
      have hlist : (toggleRelay r.id websocket s.page).relayList =
          s.page.relayList.set i r.flip := by
        rw [relayList_toggleRelay]
        exact (Keyed.update_eq_set_iff Relay.flip_ne hr).mpr hfirst
      have hswitch : s.panel.switches[i]? = some r.switch := by
        show (s.page.relayList.map Relay.switch)[i]? = _
        rw [List.getElem?_map, hr]
        rfl
      rw [clickStep_toggle hsound.rendered hr, panelStep, List.modify_eq_set_getElem?, hswitch]
      show (⟨(toggleRelay r.id websocket s.page).relayList.map Relay.switch, s.picked⟩ : Panel) = _
      rw [hlist, List.map_set]
      rfl
  | trash i =>
    cases hr : s.page.relayList[i]? with
    | none =>
      have hle : ¬ i < s.panel.switches.length := by
        rw [hlength, Nat.not_lt]
        exact List.getElem?_eq_none_iff.mp hr
      rw [clickStep_of_none hsound.rendered hr (Or.inl rfl), panelStep, if_neg hle]
    | some r =>
      have hlt : i < s.panel.switches.length := by
        rw [hlength]
        exact (List.getElem?_eq_some_iff.mp hr).1
      rw [clickStep_trash hsound.rendered hr, panelStep, if_pos hlt]
      rfl
  | cancel => rfl
  | confirm =>
    show (⟨(confirmDelete s.page).relayList.map Relay.switch, none⟩ : Panel) = _
    rw [relayList_confirm hsound hd hspent, panelStep]
    show _ = (⟨s.picked.elim (s.page.relayList.map Relay.switch)
      (s.page.relayList.map Relay.switch).eraseIdx, none⟩ : Panel)
    cases s.picked with
    | none => rfl
    | some i => rw [Option.elim_some, Option.elim_some, List.eraseIdx_map]

/-! ## Whole runs -/

theorem panel_desk {clicks : List Click} (h : (readings clicks).Nodup) :
    (desk clicks).panel = panel clicks := by
  induction clicks using List.reverseRecOn with
  | nil => rfl
  | append_singleton clicks c ih =>
    have hshort : (readings clicks).Nodup :=
      h.sublist ((List.prefix_append clicks [c]).filterMap _).sublist
    have hd : DistinctIds (desk clicks).page := hshort.sublist (ids_sublist_readings clicks)
    rw [desk, Runs.run_concat, ← desk, panel, Runs.run_concat, ← panel, ← ih hshort]
    exact panel_clickStep (sound_desk clicks) hd (spent_desk hshort) c

/-- **The page is the panel.** In every run that saves no two relays at the
same reading of the clock, the relays are the switches of a panel on which
the same clicks act by place, and the texts in the cards are theirs. -/
theorem desk_panel {clicks : List Click} (h : (readings clicks).Nodup) :
    (desk clicks).panel = panel clicks ∧
      (desk clicks).page.cards.map Card.face = (panel clicks).switches.map Switch.face := by
  refine ⟨panel_desk h, ?_⟩
  rw [faces_of_rendered (sound_desk clicks).rendered, panel_desk h]

/-- Two relays; the deletion of the first is cancelled, and confirmed later. -/
def rethought : List Click :=
  [.save "lamp" "5" 1, .save " fan " "6" 2, .trash 0, .cancel, .toggle 1 none, .confirm, .confirm]

theorem desk_panel_rethought :
    (desk rethought).panel = panel rethought ∧
      (desk rethought).page.cards.map Card.face = (panel rethought).switches.map Switch.face :=
  desk_panel (by decide)

end YoloUno
