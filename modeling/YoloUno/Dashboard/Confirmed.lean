import YoloUno.Dashboard.Whole

/-!
# What the settings form confirms

The submit handler tells the user that the settings were sent, whatever
`Send_Data` has made of them. The alert is on the log of the dashboard behind
the message, or behind the refusal.

`settings_confirmed_iff`: each of these alerts is true exactly when every form
is submitted while the socket is open.
-/

namespace YoloUno

def confirmation : LinkEvent := .alert "✅ Cấu hình đã được gửi đến thiết bị!"

/-- The forms that are submitted in a run. -/
def formsOf (acts : List Act) : List Settings :=
  acts.filterMap fun
    | .submit form => some form
    | _ => none

/-- The last thing on the log is that `value` went out as settings. -/
def SettingsSent (value : Settings) (log : List LinkEvent) : Prop :=
  ∃ socket data, log.getLast? = some (.sent socket data) ∧ receive data = some (.setting value)

/-- `P` holds of what is on the log before each confirmation. -/
def BeforeEach (P : List LinkEvent → Prop) (log : List LinkEvent) : Prop :=
  ∀ pre post, log = pre ++ confirmation :: post → P pre

/-- Settings went out right before each confirmation that they did. -/
def Confirms : List LinkEvent → Prop := BeforeEach fun before => ∃ value, SettingsSent value before

/-- Right before the `n`-th confirmation the fields of the `n`-th form went
out, as the submit handler trims them. -/
def ConfirmsForms (forms : List Settings) : List LinkEvent → Prop :=
  BeforeEach fun before => ∃ form, forms[before.count confirmation]? = some form ∧
    SettingsSent form.trim before

section
variable {P Q : List LinkEvent → Prop} {log : List LinkEvent}

theorem BeforeEach.mono (h : BeforeEach P log) (hPQ : ∀ before, P before → Q before) :
    BeforeEach Q log :=
  fun pre post hlog => hPQ pre (h pre post hlog)

theorem beforeEach_concat {e : LinkEvent} :
    BeforeEach P (log ++ [e]) ↔ BeforeEach P log ∧ (e = confirmation → P log) := by
  constructor
  · intro h
    refine ⟨fun pre post hlog => h pre (post ++ [e]) (by simp [hlog]), ?_⟩
    rintro rfl
    exact h log [] rfl
  · rintro ⟨h, hlast⟩ pre post hlog
    -- the confirmation is the new event, or an old one
    rcases post.eq_nil_or_concat with rfl | ⟨post', x, rfl⟩
    · obtain ⟨rfl, he⟩ := List.append_inj' hlog rfl
      exact hlast (List.singleton_inj.mp he)
    · rw [List.concat_eq_append, ← List.cons_append, ← List.append_assoc] at hlog
      exact h pre post' (List.append_inj' hlog rfl).1

theorem beforeEach_append {events : List LinkEvent} (h : confirmation ∉ events) :
    BeforeEach P (log ++ events) ↔ BeforeEach P log := by
  induction events using List.reverseRecOn with
  | nil => rw [List.append_nil]
  | append_singleton events e ih =>
    rw [List.mem_append, List.mem_singleton, not_or] at h
    rw [← List.append_assoc, beforeEach_concat, ih h.1]
    exact and_iff_left fun he => absurd he.symm h.2

end

/-- Nothing that the relay page does confirms anything. -/
theorem news_pageStep (websocket : Option Nat) (p : Page) (op : Op) :
    ∃ news, (pageStep p op).log = p.log ++ news ∧
      ∀ e ∈ news, e.onLink websocket ≠ some confirmation := by
  cases op with
  | saveRelay relayName relayGPIO now =>
    refine ⟨_, log_saveRelay relayName relayGPIO now p, ?_⟩
    split <;> simp [PageEvent.onLink, confirmation]
  | toggleRelay id websocket' =>
    show ∃ news, (toggleRelay id websocket' p).log = p.log ++ news ∧ _
    cases hfind : p.relayList.find? (fun r => r.id = id) with
    | none =>
      refine ⟨[], ?_, by simp⟩
      rw [toggleRelay, hfind, List.append_nil]
    | some relay =>
      refine ⟨_, (toggleRelay_of_find websocket' hfind).2, ?_⟩
      split <;> simp [PageEvent.onLink, confirmation]
  | _ => exact ⟨[], (List.append_nil _).symm, by simp⟩

theorem news_click (s : Dashboard) (c : Click) :
    ∃ events, (s.click c).link.log = s.link.log ++ events ∧ confirmation ∉ events := by
  have hnews : ∃ news, (clickStep s.desk c).page.log = s.desk.page.log ++ news ∧
      ∀ e ∈ news, e.onLink s.link.websocket ≠ some confirmation := by
    unfold clickStep
    cases c.call s.desk.page with
    | none => exact ⟨[], (List.append_nil _).symm, by simp⟩
    | some op => exact news_pageStep s.link.websocket s.desk.page op
  obtain ⟨news, hlog, hquiet⟩ := hnews
  refine ⟨_, congrArg (fun s => s.link.log) (click_eq hlog), ?_⟩
  intro hmem
  obtain ⟨e, he, hsaid⟩ := List.mem_filterMap.mp hmem
  exact hquiet e he hsaid

/-- **What an act does to the log**: a submission is one of the connection, and
any other act adds no confirmation. -/
theorem dashboardStep_cases (s : Dashboard) (a : Act) :
    (∃ form, a = .submit form ∧ formsOf [a] = [form] ∧
        (dashboardStep s a).link = submitSettings form s.link) ∨
      (∀ form, a ≠ .submit form) ∧ formsOf [a] = [] ∧
        ∃ events, (dashboardStep s a).link.log = s.link.log ++ events ∧
          confirmation ∉ events := by
  cases a with
  | submit form => exact Or.inl ⟨form, rfl, rfl, rfl⟩
  | signal e =>
    refine Or.inr ⟨by simp, rfl, [], ?_, List.not_mem_nil⟩
    rw [List.append_nil]
    exact log_netStep fun data => by cases e <;> simp [Signal.event]
  | _ => exact Or.inr ⟨by simp, rfl, news_click s _⟩

/-- A submission adds one, after what `Send_Data` has made of the settings. -/
theorem log_submitSettings (form : Settings) (c : Connection) :
    ∃ e, (submitSettings form c).log = c.log ++ [e] ++ [confirmation] ∧ e ≠ confirmation ∧
      (c.readyState = some .open → ∃ socket, e = .sent socket form.trim.text) ∧
      (c.readyState ≠ some .open → e = .alert "⚠️ WebSocket chưa kết nối!") := by
  have hlog : (submitSettings form c).log = (c.sendData form.trim.text).log ++ [confirmation] := rfl
  rw [hlog]
  by_cases hopen : c.readyState = some .open
  · obtain ⟨socket, -, hsent⟩ := sendData_of_open hopen form.trim.text
    rw [hsent]
    exact ⟨_, rfl, by simp [confirmation], fun _ => ⟨socket, rfl⟩, fun h => absurd hopen h⟩
  · rw [sendData_of_not_open hopen]
    exact ⟨_, rfl, by simp [confirmation], fun h => absurd h hopen, fun _ => rfl⟩

theorem settingsSent_concat (value : Settings) (log : List LinkEvent) (socket : Nat) :
    SettingsSent value (log ++ [.sent socket value.text]) :=
  ⟨socket, value.text, List.getLast?_concat, receive_text (.setting value)⟩

/-- **One submission** is confirmed truly exactly when the socket is open. -/
theorem confirms_submitSettings (form : Settings) (c : Connection) :
    Confirms (submitSettings form c).log ↔ Confirms c.log ∧ c.readyState = some .open := by
  obtain ⟨e, hlog, he, hopen, hrefused⟩ := log_submitSettings form c
  unfold Confirms
  rw [hlog, beforeEach_concat, beforeEach_concat, and_iff_left fun h => absurd h he]
  refine and_congr_right fun _ => ?_
  constructor
  · intro h
    by_contra hclosed
    obtain ⟨value, socket, data, hlast, -⟩ := h rfl
    rw [hrefused hclosed, List.getLast?_concat] at hlast
    exact absurd hlast (by simp)
  · intro hready _
    obtain ⟨socket, rfl⟩ := hopen hready
    exact ⟨form.trim, settingsSent_concat form.trim c.log socket⟩

theorem confirms_dashboardStep (s : Dashboard) (a : Act) :
    Confirms (dashboardStep s a).link.log ↔
      Confirms s.link.log ∧ ∀ form, a = .submit form → s.link.readyState = some .open := by
  rcases dashboardStep_cases s a with ⟨form, rfl, -, hlink⟩ | ⟨ha, -, events, hlog, hquiet⟩
  · rw [hlink, confirms_submitSettings]
    simp
  · unfold Confirms
    rw [hlog, beforeEach_append hquiet]
    exact (and_iff_left fun form h => absurd h (ha form)).symm

theorem formsOf_concat (acts : List Act) (a : Act) :
    formsOf (acts ++ [a]) = formsOf acts ++ formsOf [a] :=
  List.filterMap_append

/-- Every form is confirmed once, whether it was sent or not. -/
theorem count_confirmation (hostname : String) (acts : List Act) :
    (dashboard hostname acts).link.log.count confirmation = (formsOf acts).length := by
  induction acts using List.reverseRecOn with
  | nil =>
    rw [log_loaded]
    rfl
  | append_singleton acts a ih =>
    rw [dashboard_concat, formsOf_concat, List.length_append, ← ih]
    rcases dashboardStep_cases (dashboard hostname acts) a with
      ⟨form, -, hforms, hlink⟩ | ⟨-, hforms, events, hlog, hquiet⟩
    · obtain ⟨e, hlog, he, -⟩ := log_submitSettings form (dashboard hostname acts).link
      rw [hlink, hlog, hforms]
      simp [he]
    · rw [hlog, hforms, List.count_append, List.count_eq_zero.mpr hquiet]
      rfl

/-- The settings that went out before a confirmation are those of its form. -/
theorem confirmsForms_of_confirms {hostname : String} {acts : List Act}
    (h : Confirms (dashboard hostname acts).link.log) :
    ConfirmsForms (formsOf acts) (dashboard hostname acts).link.log := by
  induction acts using List.reverseRecOn with
  | nil =>
    intro pre post hlog
    rw [log_loaded] at hlog
    exact absurd hlog (by simp)
  | append_singleton acts a ih =>
    rw [dashboard_concat] at h ⊢
    obtain ⟨hbefore, hopen⟩ := (confirms_dashboardStep _ a).mp h
    have hearlier := ih hbefore
    unfold ConfirmsForms
    rw [formsOf_concat]
    rcases dashboardStep_cases (dashboard hostname acts) a with
      ⟨form, ha, hforms, hlink⟩ | ⟨-, hforms, events, hlog, hquiet⟩
    · obtain ⟨e, hlog, he, hsent, -⟩ := log_submitSettings form (dashboard hostname acts).link
      obtain ⟨socket, rfl⟩ := hsent (hopen form ha)
      rw [hlink, hlog, hforms, beforeEach_concat, beforeEach_concat]
      refine ⟨⟨hearlier.mono ?_, fun h => absurd h he⟩, fun _ => ?_⟩
      · -- the earlier forms keep their places
        rintro before ⟨form', hform, hbefore⟩
        obtain ⟨hlt, -⟩ := List.getElem?_eq_some_iff.mp hform
        exact ⟨form', by rw [List.getElem?_append_left hlt, hform], hbefore⟩
      · -- and the new one has the place of its confirmation
        refine ⟨form, ?_, settingsSent_concat form.trim _ socket⟩
        rw [List.count_append, count_confirmation, List.count_singleton, if_neg (by simpa using he)]
        simp
    · rw [hlog, hforms, beforeEach_append hquiet, List.append_nil]
      exact hearlier

/-- **When the settings really were sent.** In a run of any acts every form is
confirmed once. Each confirmation follows settings that went out exactly when
every form is submitted while the socket is open, and then it follows the
fields of its own form. -/
theorem settings_confirmed_iff (hostname : String) (acts : List Act) :
    (dashboard hostname acts).link.log.count confirmation = (formsOf acts).length ∧
      (Confirms (dashboard hostname acts).link.log ↔
        ∀ pre form, pre ++ [.submit form] <+: acts →
          (dashboard hostname pre).link.readyState = some .open) ∧
      (Confirms (dashboard hostname acts).link.log →
        ConfirmsForms (formsOf acts) (dashboard hostname acts).link.log) := by
  refine ⟨count_confirmation hostname acts, ?_, confirmsForms_of_confirms⟩
  induction acts using List.reverseRecOn with
  | nil =>
    refine iff_of_true (fun pre post h => ?_) (fun pre form h => ?_)
    · rw [log_loaded] at h
      exact absurd h (by simp)
    · exact absurd (List.prefix_nil.mp h) (by simp)
  | append_singleton acts a ih =>
    rw [dashboard_concat, confirms_dashboardStep, ih]
    constructor
    · rintro ⟨hbefore, hlast⟩ pre form hpre
      rcases List.prefix_concat_iff.mp hpre with heq | hshort
      · obtain ⟨rfl, ha⟩ := List.append_inj' heq rfl
        exact hlast form (List.singleton_inj.mp ha).symm
      · exact hbefore pre form hshort
    · intro h
      refine ⟨fun pre form hpre => h pre form (hpre.trans (List.prefix_append acts [a])), ?_⟩
      rintro form rfl
      exact h acts form List.prefix_rfl

end YoloUno
