import YoloUno.Dashboard.RelayState

/-!
# The relay that was picked

A user picks a relay by its card, the page finds it again by its id, which is
the reading of the clock when the relay was saved. `toggleRelay` takes the
first relay of the id and `confirmDelete` all of them, and nothing checks
that there is one only.

A run is a list of `Click`s here: the toggle button and the delete icon are
those of a rendered card, named by its place.

* `actsOnPicked_iff` — every toggle and every confirmed deletion of a run acts
  on the relay that was picked exactly when each is `Unambiguous`.
* `actsOnPicked_of_ticking` — this is so in every run that saves no two relays
  at the same reading of the clock.
-/

namespace YoloUno

inductive Click
  | save (relayName relayGPIO : String) (now : Int)
  /-- The toggle button of the `i`-th card. -/
  | toggle (i : Nat) (websocket : Option ReadyState)
  /-- The delete icon of the `i`-th card. -/
  | trash (i : Nat)
  | cancel
  | confirm
  deriving DecidableEq, Repr

/-- The call a click makes; there is none where there is no card. -/
def Click.call (p : Page) : Click → Option Op
  | .save relayName relayGPIO now => some (.saveRelay relayName relayGPIO now)
  | .toggle i websocket => p.cards[i]?.map fun c => .toggleRelay c.toggleId websocket
  | .trash i => p.cards[i]?.map fun c => .showDeleteDialog c.deleteId
  | .cancel => some .closeConfirmDelete
  | .confirm => some .confirmDelete

/-- The page in the hands of its user: `picked` is the place of the card from
which the deletion was opened that has not been confirmed yet. -/
structure Desk where
  page   : Page
  picked : Option Nat

/-- What a click that makes a call leaves picked. -/
def Click.pick (picked : Option Nat) : Click → Option Nat
  | .trash i => some i
  | .confirm => none
  -- a cancelled deletion stays the one that `deleteTarget` names
  | _ => picked

def clickStep (s : Desk) (c : Click) : Desk :=
  match c.call s.page with
  | none => s
  | some op => ⟨pageStep s.page op, c.pick s.picked⟩

def desk (clicks : List Click) : Desk := Runs.run clickStep ⟨Page.loaded, none⟩ clicks

/-- The reading of the clock at which a click saves a relay. With a blank field
none is saved, and the clock is not read. -/
def Click.reading : Click → Option Int
  | .save relayName relayGPIO now =>
    if jsTrim relayName = "" ∨ jsTrim relayGPIO = "" then none else some now
  | _ => none

/-- The readings of the clock at which the relays of a run are saved. -/
def readings (clicks : List Click) : List Int := clicks.filterMap Click.reading

-- ---------------------------------------------------------------------------
-- The property and its condition
-- ---------------------------------------------------------------------------

/-- The click does what its user meant. A toggle from the `i`-th card flips
the `i`-th relay and no other, and hands its name and pin to `Send_Data`; a
confirmed deletion removes the relay that was picked and no other. -/
def ActsOnPicked (s : Desk) : Click → Prop
  | .toggle i websocket => ∀ c, s.page.cards[i]? = some c →
      ∃ r, s.page.relayList[i]? = some r ∧
        (clickStep s (.toggle i websocket)).page.relayList = s.page.relayList.set i r.flip ∧
        (clickStep s (.toggle i websocket)).page.log = s.page.log ++
          [if websocket = some .open then .sent r.id ⟨"device", r.name, r.flip.status, r.gpio⟩
           else .alert "⚠️ WebSocket chưa kết nối!"]
  | .confirm => ∀ i, s.picked = some i →
      i < s.page.relayList.length ∧
        (clickStep s .confirm).page.relayList = s.page.relayList.eraseIdx i
  | _ => True

/-- No relay before the toggled one has its id; no other relay has the id of
the one whose deletion is confirmed. -/
def Unambiguous (s : Desk) : Click → Prop
  | .toggle i _ => ∀ r, s.page.relayList[i]? = some r →
      ∀ j < i, ∀ r', s.page.relayList[j]? = some r' → r'.id ≠ r.id
  | .confirm => ∀ i, s.picked = some i → ∀ r, s.page.relayList[i]? = some r →
      ∀ j r', s.page.relayList[j]? = some r' → r'.id = r.id → j = i
  | _ => True

-- ---------------------------------------------------------------------------
-- What the clicks keep
-- ---------------------------------------------------------------------------

/-- What a user cannot change about a relay once it is saved. -/
def Relay.face (r : Relay) : Int × String × String := (r.id, r.name, r.gpio)

theorem card_of_rendered {p : Page} (h : Rendered p) (i : Nat) :
    p.cards[i]? = p.relayList[i]?.map card := by
  unfold Rendered at h
  rw [h, List.getElem?_map]

theorem relayList_toggleRelay (id : Int) (websocket : Option ReadyState) (p : Page) :
    (toggleRelay id websocket p).relayList = Keyed.update Relay.id id Relay.flip p.relayList := by
  cases hfind : p.relayList.find? (fun r => r.id = id) with
  | some r => exact (toggleRelay_of_find websocket hfind).1
  | none =>
    rw [Keyed.update_of_find_none hfind, toggleRelay, hfind]

theorem relayList_saveRelay (relayName relayGPIO : String) (now : Int) (p : Page) :
    (saveRelay relayName relayGPIO now p).relayList = p.relayList ∨
      ∃ r, (Click.save relayName relayGPIO now).reading = some r.id ∧
        (saveRelay relayName relayGPIO now p).relayList = p.relayList ++ [r] := by
  unfold saveRelay
  dsimp only
  split
  · exact Or.inl rfl
  · next hfilled =>
    refine Or.inr ⟨_, ?_, rfl⟩
    exact if_neg hfilled

/-- **Relays stay in their places**, and keep id, name and pin, until a
deletion is confirmed. -/
theorem faces_pageStep (p : Page) {op : Op} (hop : op ≠ .confirmDelete) :
    p.relayList.map Relay.face <+: (pageStep p op).relayList.map Relay.face := by
  cases op with
  | saveRelay relayName relayGPIO now =>
    show _ <+: (saveRelay relayName relayGPIO now p).relayList.map Relay.face
    rcases relayList_saveRelay relayName relayGPIO now p with hsame | ⟨r, -, hnew⟩
    · rw [hsame]
    · rw [hnew, List.map_append]
      exact List.prefix_append _ _
  | toggleRelay id websocket =>
    show _ <+: (toggleRelay id websocket p).relayList.map Relay.face
    have hface : ∀ r : Relay, r.flip.face = r.face := fun _ => rfl
    rw [relayList_toggleRelay, Keyed.map_update hface]
  | showDeleteDialog id => exact List.prefix_rfl
  | closeConfirmDelete => exact List.prefix_rfl
  | confirmDelete => exact absurd rfl hop

/-- The relay that was picked is in its place, and `deleteTarget` is its id. -/
structure Sound (s : Desk) : Prop where
  rendered : Rendered s.page
  target   : ∀ i, s.picked = some i →
    ∃ r, s.page.relayList[i]? = some r ∧ s.page.deleteTarget = some r.id

theorem relay_of_card {p : Page} (h : Rendered p) {i : Nat} {c : Card}
    (hc : p.cards[i]? = some c) : ∃ r, p.relayList[i]? = some r ∧ c = card r := by
  rw [card_of_rendered h, Option.map_eq_some_iff] at hc
  obtain ⟨r, hr, rfl⟩ := hc
  exact ⟨r, hr, rfl⟩

/-- A call that removes nothing and opens no deletion leaves the pick as it is. -/
theorem Sound.keep {s : Desk} (h : Sound s) {op : Op} (hop : op ≠ .confirmDelete)
    (htarget : (pageStep s.page op).deleteTarget = s.page.deleteTarget) :
    Sound ⟨pageStep s.page op, s.picked⟩ := by
  refine ⟨rendered_pageStep h.rendered op, ?_⟩
  intro i hi
  obtain ⟨r, hr, hid⟩ := h.target i hi
  -- the relay in its place has the same face
  obtain ⟨rest, hrest⟩ := faces_pageStep s.page hop
  have hface : ((pageStep s.page op).relayList.map Relay.face)[i]? = some r.face := by
    obtain ⟨hlt, -⟩ := List.getElem?_eq_some_iff.mp hr
    rw [← hrest, List.getElem?_append_left (by simpa using hlt), List.getElem?_map, hr]
    rfl
  rw [List.getElem?_map, Option.map_eq_some_iff] at hface
  obtain ⟨r', hr', hsame⟩ := hface
  refine ⟨r', hr', ?_⟩
  rw [htarget, hid, (Prod.mk.inj hsame).1]

theorem deleteTarget_saveRelay (relayName relayGPIO : String) (now : Int) (p : Page) :
    (saveRelay relayName relayGPIO now p).deleteTarget = p.deleteTarget := by
  unfold saveRelay
  dsimp only
  split <;> rfl

theorem deleteTarget_toggleRelay (id : Int) (websocket : Option ReadyState) (p : Page) :
    (toggleRelay id websocket p).deleteTarget = p.deleteTarget := by
  unfold toggleRelay
  split
  · rfl
  · dsimp only
    unfold sendData
    split <;> rfl

theorem sound_clickStep {s : Desk} (h : Sound s) (c : Click) : Sound (clickStep s c) := by
  unfold clickStep
  cases hcall : c.call s.page with
  | none => exact h
  | some op =>
    show Sound ⟨pageStep s.page op, c.pick s.picked⟩
    cases c with
    | save relayName relayGPIO now =>
      obtain rfl := Option.some.inj hcall
      exact h.keep (by simp) (deleteTarget_saveRelay relayName relayGPIO now s.page)
    | toggle i websocket =>
      obtain ⟨c, -, rfl⟩ := Option.map_eq_some_iff.mp hcall
      exact h.keep (by simp) (deleteTarget_toggleRelay c.toggleId websocket s.page)
    | trash i =>
      -- the id on the card is that of the relay in its place
      obtain ⟨c, hcard, rfl⟩ := Option.map_eq_some_iff.mp hcall
      obtain ⟨r, hr, rfl⟩ := relay_of_card h.rendered hcard
      refine ⟨h.rendered, ?_⟩
      intro j hj
      rw [← Option.some.inj hj]
      exact ⟨r, hr, rfl⟩
    | cancel =>
      obtain rfl := Option.some.inj hcall
      exact h.keep (by simp) rfl
    | confirm => exact ⟨rendered_pageStep h.rendered op, by simp [Click.pick]⟩

theorem sound_desk (clicks : List Click) : Sound (desk clicks) := by
  have h0 : Sound ⟨Page.loaded, none⟩ := ⟨rfl, by simp⟩
  exact Runs.run_invariant h0 (fun _ c h => sound_clickStep h c) clicks

-- ---------------------------------------------------------------------------
-- One click
-- ---------------------------------------------------------------------------

theorem Relay.flip_ne (r : Relay) : r.flip ≠ r := by
  intro h
  exact r.flip_status_ne (congrArg Relay.status h)

theorem clickStep_toggle {s : Desk} {i : Nat} {r : Relay} (h : Rendered s.page)
    (hr : s.page.relayList[i]? = some r) (websocket : Option ReadyState) :
    clickStep s (.toggle i websocket) = ⟨toggleRelay r.id websocket s.page, s.picked⟩ := by
  have hcall : Click.call s.page (.toggle i websocket) = some (.toggleRelay r.id websocket) := by
    show s.page.cards[i]?.map _ = _
    rw [card_of_rendered h, hr]
    rfl
  rw [clickStep, hcall]
  rfl

/-- **One click acts on its relay exactly when it is unambiguous.** -/
theorem actsOnPicked_iff_unambiguous {s : Desk} (h : Sound s) (c : Click) :
    ActsOnPicked s c ↔ Unambiguous s c := by
  cases c with
  | save relayName relayGPIO now => exact Iff.rfl
  | toggle i websocket =>
    constructor
    · intro hacts r hr
      obtain ⟨r', hr', hlist, -⟩ := hacts (card r) (by rw [card_of_rendered h.rendered, hr]; rfl)
      rw [hr, Option.some.injEq] at hr'
      subst hr'
      rw [clickStep_toggle h.rendered hr, relayList_toggleRelay,
        Keyed.update_eq_set_iff Relay.flip_ne hr] at hlist
      exact hlist
    · intro hfirst c hc
      obtain ⟨r, hr, rfl⟩ := relay_of_card h.rendered hc
      have hfind := Keyed.find_eq_of_first hr (hfirst r hr)
      rw [clickStep_toggle h.rendered hr]
      refine ⟨r, hr, ?_, (toggleRelay_of_find websocket hfind).2⟩
      rw [relayList_toggleRelay]
      exact (Keyed.update_eq_set_iff Relay.flip_ne hr).mpr (hfirst r hr)
  | trash i => exact Iff.rfl
  | cancel => exact Iff.rfl
  | confirm =>
    have hlist : ∀ r : Relay, s.page.deleteTarget = some r.id →
        (clickStep s .confirm).page.relayList = s.page.relayList.filter fun r' => r'.id ≠ r.id := by
      intro r hid
      show s.page.relayList.filter (fun r' => some r'.id ≠ s.page.deleteTarget) = _
      simp only [hid, ne_eq, Option.some.injEq]
    constructor
    · intro hacts i hi r hr
      obtain ⟨r', hr', hid⟩ := h.target i hi
      rw [hr, Option.some.injEq] at hr'
      subst hr'
      obtain ⟨-, herased⟩ := hacts i hi
      rw [hlist r hid] at herased
      exact (Keyed.filter_eq_eraseIdx_iff hr).mp herased
    · intro honly i hi
      obtain ⟨r, hr, hid⟩ := h.target i hi
      refine ⟨(List.getElem?_eq_some_iff.mp hr).1, ?_⟩
      rw [hlist r hid]
      exact (Keyed.filter_eq_eraseIdx_iff hr).mpr (honly i hi r hr)

-- ---------------------------------------------------------------------------
-- Whole runs
-- ---------------------------------------------------------------------------

/--
**When the dashboard acts on the relay that was picked.** In every run, each
toggle and each confirmed deletion does so exactly when each of them is
unambiguous.
-/
theorem actsOnPicked_iff (clicks : List Click) :
    (∀ pre c, pre ++ [c] <+: clicks → ActsOnPicked (desk pre) c) ↔
      ∀ pre c, pre ++ [c] <+: clicks → Unambiguous (desk pre) c := by
  constructor
  · intro hacts pre c hpre
    exact (actsOnPicked_iff_unambiguous (sound_desk pre) c).mp (hacts pre c hpre)
  · intro hclear pre c hpre
    exact (actsOnPicked_iff_unambiguous (sound_desk pre) c).mpr (hclear pre c hpre)

/-- Two relays saved at one reading of the clock; the second is toggled. -/
def twins : List Click :=
  [.save "lamp" "5" 1, .save "fan" "6" 1, .toggle 1 (some .open)]

/-- The clock does not go backwards, and the button of the fan switches the lamp. -/
theorem not_actsOnPicked_twins :
    (readings twins).Pairwise (· ≤ ·) ∧
      ¬ ∀ pre c, pre ++ [c] <+: twins → ActsOnPicked (desk pre) c := by
  refine ⟨by decide, ?_⟩
  intro hacts
  have hfan : (desk (twins.take 2)).page.relayList[1]? = some ⟨1, "fan", "6", false⟩ := by decide
  obtain ⟨r, hr, hlist, -⟩ := hacts (twins.take 2) (.toggle 1 (some .open)) ⟨[], rfl⟩
    (card ⟨1, "fan", "6", false⟩) (by decide)
  rw [hfan, Option.some.injEq] at hr
  subst hr
  exact absurd hlist (by decide)

-- ---------------------------------------------------------------------------
-- A clock that ticks between saves
-- ---------------------------------------------------------------------------

theorem unambiguous_of_distinctIds {s : Desk} (h : DistinctIds s.page) (c : Click) :
    Unambiguous s c := by
  -- two places with one id are one place
  have hplace : ∀ (i j : Nat) (r r' : Relay), s.page.relayList[i]? = some r →
      s.page.relayList[j]? = some r' → r'.id = r.id → j = i := by
    intro i j r r' hr hr' hid
    obtain ⟨hj, -⟩ := List.getElem?_eq_some_iff.mp hr'
    refine (List.getElem?_inj (by simpa using hj) h).mp ?_
    rw [List.getElem?_map, List.getElem?_map, hr, hr', Option.map_some, Option.map_some, hid]
  cases c with
  | toggle i websocket =>
    intro r hr j hj r' hr' hid
    have := hplace i j r r' hr hr' hid
    omega
  | confirm =>
    intro i _ r hr j r' hr' hid
    exact hplace i j r r' hr hr' hid
  | _ => exact trivial

theorem readings_concat (clicks : List Click) (c : Click) :
    readings (clicks ++ [c]) = readings clicks ++ readings [c] :=
  List.filterMap_append

/-- The ids of a page are readings of the clock, in their order. -/
theorem ids_sublist_readings (clicks : List Click) :
    ((desk clicks).page.relayList.map Relay.id).Sublist (readings clicks) := by
  induction clicks using List.reverseRecOn with
  | nil => exact List.Sublist.refl _
  | append_singleton clicks c ih =>
    rw [desk, Runs.run_concat, ← desk, readings_concat]
    set s := desk clicks with hs
    have hmore : (readings clicks).Sublist (readings clicks ++ readings [c]) :=
      List.sublist_append_left ..
    unfold clickStep
    cases hcall : c.call s.page with
    | none => exact ih.trans hmore
    | some op =>
      show ((pageStep s.page op).relayList.map Relay.id).Sublist _
      cases c with
      | save relayName relayGPIO now =>
        obtain rfl := Option.some.inj hcall
        show ((saveRelay relayName relayGPIO now s.page).relayList.map Relay.id).Sublist _
        rcases relayList_saveRelay relayName relayGPIO now s.page with hsame | ⟨r, hread, hnew⟩
        · rw [hsame]
          exact ih.trans hmore
        · -- the relay that is appended has the reading that is appended
          have hone : readings [.save relayName relayGPIO now] = [r].map Relay.id := by
            simp [readings, hread]
          rw [hnew, List.map_append, hone]
          exact ih.append (List.Sublist.refl _)
      | toggle i websocket =>
        obtain ⟨c, -, rfl⟩ := Option.map_eq_some_iff.mp hcall
        have hid : ∀ r : Relay, r.flip.id = r.id := fun _ => rfl
        show ((toggleRelay c.toggleId websocket s.page).relayList.map Relay.id).Sublist _
        rw [relayList_toggleRelay, Keyed.map_update hid]
        exact ih.trans hmore
      | trash i =>
        obtain ⟨c, -, rfl⟩ := Option.map_eq_some_iff.mp hcall
        exact ih.trans hmore
      | cancel =>
        obtain rfl := Option.some.inj hcall
        exact ih.trans hmore
      | confirm =>
        obtain rfl := Option.some.inj hcall
        exact ((List.filter_sublist.map Relay.id).trans ih).trans hmore

/-- **A clock that ticks between any two saves** makes every click act on the
relay that was picked. -/
theorem actsOnPicked_of_ticking {clicks : List Click} (h : (readings clicks).Nodup) :
    ∀ pre c, pre ++ [c] <+: clicks → ActsOnPicked (desk pre) c := by
  intro pre c hpre
  have hshort : pre <+: clicks := (List.prefix_append pre [c]).trans hpre
  have hreadings : (readings pre).Nodup := h.sublist (hshort.filterMap _).sublist
  have hdistinct : DistinctIds (desk pre).page := hreadings.sublist (ids_sublist_readings pre)
  exact (actsOnPicked_iff_unambiguous (sound_desk pre) c).mpr
    (unambiguous_of_distinctIds hdistinct c)

end YoloUno
