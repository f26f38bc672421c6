import YoloUno.Dashboard.Circuit

/-!
# The pace of reconnection

The events of a connection, with the time of each in milliseconds since the
page loaded. Time does not go backwards, and a timer fires no earlier than its
delay after it was set; it may fire later, and everything else may happen at
any time.

* `attempts_apart` — attempts to connect lie two seconds or more apart,
  however often sockets close, so that their number is bounded by the time.
-/

namespace YoloUno

/-- A connection, when its timers were set, and when its sockets were made. -/
structure Timed where
  link : Connection
  set  : List Nat
  made : List Nat

def Timed.step (s : Timed) (x : Nat × NetEvent) : Timed :=
  let link := netStep s.link x.2
  { link
    set  := s.set ++ List.replicate (link.timers.length - s.link.timers.length) x.1
    made := s.made ++ List.replicate (link.sockets.length - s.link.sockets.length) x.1 }

/-- `load` is fired at time 0. -/
def timed (hostname : String) (events : List (Nat × NetEvent)) : Timed :=
  Runs.run Timed.step ⟨onLoad (Connection.initial hostname), [], [0]⟩ events

/-- A timer does not fire before its delay has passed. -/
def Due (s : Timed) : Nat × NetEvent → Prop
  | (now, .timer t) =>
    ∀ timer ∈ s.link.timers[t]?, ∀ time ∈ s.set[t]?, time + timer.delay ≤ now
  | _ => True

instance (s : Timed) (x : Nat × NetEvent) : Decidable (Due s x) :=
  match x with
  | (now, .timer t) => inferInstanceAs (Decidable
      (∀ timer ∈ s.link.timers[t]?, ∀ time ∈ s.set[t]?, time + timer.delay ≤ now))
  | (_, .open _) | (_, .message _ _) | (_, .closing _) | (_, .close _) | (_, .sendData _) =>
    isTrue trivial

structure Timely (hostname : String) (events : List (Nat × NetEvent)) : Prop where
  ordered : (events.map Prod.fst).Pairwise (· ≤ ·)
  due     : ∀ pre x, pre ++ [x] <+: events → Due (timed hostname pre) x

/-! ## The invariant -/

/-- The times of a circuit, up to the present. -/
structure Paced (hostname : String) (now : Nat) (c : Circuit) (s : Timed) : Prop where
  link  : s.link = c.connection hostname
  set   : s.set.length = c.earlier + c.phase.timers.length
  made  : s.made.length = c.earlier + 1
  apart : s.made.Pairwise fun a b => a + 2000 ≤ b
  past  : ∀ a ∈ s.made, a ≤ now
  /-- The timer of a circuit that waits was set after the last attempt. -/
  after : ∀ time, s.set[c.earlier]? = some time → time ≤ now ∧ ∀ a ∈ s.made, a ≤ time

theorem Paced.later {hostname : String} {now now' : Nat} {c : Circuit} {s : Timed}
    (h : Paced hostname now c s) (hle : now ≤ now') : Paced hostname now' c s := by
  refine ⟨h.link, h.set, h.made, h.apart, fun a ha => (h.past a ha).trans hle, ?_⟩
  intro time htime
  exact ⟨(h.after time htime).1.trans hle, (h.after time htime).2⟩

theorem length_sockets_circuit (hostname : String) (c : Circuit) :
    (c.connection hostname).sockets.length = c.earlier + 1 := by
  simp [Circuit.connection]

theorem length_timers_circuit (hostname : String) (c : Circuit) :
    (c.connection hostname).timers.length = c.earlier + c.phase.timers.length := by
  simp [Circuit.connection]

theorem circuitStep_close {c : Circuit} (h : c.phase ≠ .waiting) :
    circuitStep c (.close c.earlier) = { c with phase := .waiting } :=
  if_pos ⟨rfl, h⟩

theorem circuitStep_timer {c : Circuit} (h : c.phase = .waiting) :
    circuitStep c (.timer c.earlier) =
      { c with earlier := c.earlier + 1, phase := .connecting } :=
  if_pos ⟨rfl, h⟩

/-- A step on the connection of a circuit. -/
theorem Paced.step_eq {hostname : String} {now : Nat} {c c' : Circuit} {s : Timed}
    {x : Nat × NetEvent} (h : Paced hostname now c s) (hstep : circuitStep c x.2 = c') :
    s.step x = ⟨c'.connection hostname,
      s.set ++ List.replicate
        (c'.earlier + c'.phase.timers.length - (c.earlier + c.phase.timers.length)) x.1,
      s.made ++ List.replicate (c'.earlier - c.earlier) x.1⟩ := by
  have hlink : netStep s.link x.2 = c'.connection hostname := by
    rw [h.link, netStep_circuit, hstep]
  unfold Timed.step
  rw [hlink, h.link]
  simp only [length_sockets_circuit, length_timers_circuit, Nat.add_sub_add_right]

/-- An event that neither makes a socket nor sets a timer. -/
theorem Paced.same {hostname : String} {now : Nat} {c c' : Circuit} {s : Timed} {x : Nat × NetEvent}
    (h : Paced hostname now c s) (hstep : circuitStep c x.2 = c')
    (hearlier : c'.earlier = c.earlier) (htimers : c'.phase.timers = c.phase.timers) :
    Paced hostname now c' (s.step x) := by
  have hsame : s.step x = ⟨c'.connection hostname, s.set, s.made⟩ := by
    rw [h.step_eq hstep, hearlier, htimers]
    simp
  rw [hsame]
  refine ⟨rfl, ?_, ?_, h.apart, h.past, ?_⟩
  · rw [hearlier, htimers]
    exact h.set
  · rw [hearlier]
    exact h.made
  · rw [hearlier]
    exact h.after

/-- The present socket closes, and the timer is set now. -/
theorem Paced.closes {hostname : String} {now : Nat} {c : Circuit} {s : Timed}
    (h : Paced hostname now c s) (hphase : c.phase ≠ .waiting) :
    Paced hostname now { c with phase := .waiting } (s.step (now, .close c.earlier)) := by
  have hnone : c.phase.timers = [] := if_neg hphase
  have hnext : s.step (now, .close c.earlier) =
      ⟨({ c with phase := .waiting } : Circuit).connection hostname, s.set ++ [now], s.made⟩ := by
    rw [h.step_eq (x := (now, .close c.earlier)) (circuitStep_close hphase), hnone]
    simp [Phase.timers]
  have hlength : s.set.length = c.earlier := by rw [h.set, hnone, List.length_nil, Nat.add_zero]
  rw [hnext]
  refine ⟨rfl, ?_, h.made, h.apart, h.past, ?_⟩
  · show (s.set ++ [now]).length = _
    rw [List.length_append, hlength]
    rfl
  · intro time htime
    rw [← hlength, List.getElem?_concat_length, Option.some.injEq] at htime
    rw [← htime]
    exact ⟨Nat.le_refl now, h.past⟩

/-- The timer of a circuit that waits fires, two seconds after it was set at
least, and the next attempt is made. -/
theorem Paced.retries {hostname : String} {now now' : Nat} {c : Circuit} {s : Timed}
    (h : Paced hostname now c s) (hnow : now ≤ now') (hphase : c.phase = .waiting)
    (hdue : Due s (now', .timer c.earlier)) :
    Paced hostname now' { c with earlier := c.earlier + 1, phase := .connecting }
      (s.step (now', .timer c.earlier)) := by
  have hone : c.phase.timers = [⟨2000, false⟩] := if_pos hphase
  have hnext : s.step (now', .timer c.earlier) =
      ⟨({ c with earlier := c.earlier + 1, phase := .connecting } : Circuit).connection hostname,
        s.set, s.made ++ [now']⟩ := by
    rw [h.step_eq (x := (now', .timer c.earlier)) (circuitStep_timer hphase), hone]
    simp [Phase.timers]
  have hlength : s.set.length = c.earlier + 1 := by
    rw [h.set, hone]
    rfl
  -- the timer that fires, and when it was set
  obtain ⟨time, htime⟩ : ∃ time, s.set[c.earlier]? = some time :=
    ⟨_, List.getElem?_eq_getElem (by omega)⟩
  have htimer : s.link.timers[c.earlier]? = some ⟨2000, false⟩ := by
    rw [h.link]
    simp [Circuit.connection, hone]
  have hdelay : time + 2000 ≤ now' := hdue _ htimer time htime
  obtain ⟨-, hafter⟩ := h.after time htime
  have hspaced : ∀ a ∈ s.made, a + 2000 ≤ now' := by
    intro a ha
    have := hafter a ha
    omega
  rw [hnext]
  refine ⟨rfl, hlength, ?_, ?_, ?_, ?_⟩
  · show (s.made ++ [now']).length = _
    rw [List.length_append, h.made]
    rfl
  · show (s.made ++ [now']).Pairwise _
    rw [List.pairwise_append]
    refine ⟨h.apart, List.pairwise_singleton _ now', ?_⟩
    intro a ha b hb
    rw [List.mem_singleton.mp hb]
    exact hspaced a ha
  · intro a ha
    rcases List.mem_append.mp ha with hold | hnew
    · exact (h.past a hold).trans hnow
    · exact Nat.le_of_eq (List.mem_singleton.mp hnew)
  · -- no timer is set for the new attempt yet
    intro time htime
    rw [List.getElem?_eq_none (Nat.le_of_eq hlength)] at htime
    exact absurd htime (by simp)

theorem paced_step {hostname : String} {now : Nat} {c : Circuit} {s : Timed} {x : Nat × NetEvent}
    (h : Paced hostname now c s) (hnow : now ≤ x.1) (hdue : Due s x) :
    Paced hostname x.1 (circuitStep c x.2) (s.step x) := by
  obtain ⟨now', e⟩ := x
  have hlater := h.later hnow
  cases e with
  | «open» socket =>
    by_cases hacts : socket = c.earlier ∧ c.phase = .connecting
    · exact hlater.same rfl (by simp [circuitStep, hacts])
        (by simp [circuitStep, hacts, Phase.timers])
    · exact hlater.same rfl (by simp [circuitStep, hacts]) (by simp [circuitStep, hacts])
  | message socket data => exact hlater.same rfl rfl rfl
  | closing socket =>
    by_cases hacts : socket = c.earlier ∧ c.phase ≠ .waiting
    · exact hlater.same rfl (by simp [circuitStep, hacts])
        (by simp [circuitStep, hacts, Phase.timers])
    · exact hlater.same rfl (by simp [circuitStep, hacts]) (by simp [circuitStep, hacts])
  | close socket =>
    by_cases hacts : socket = c.earlier ∧ c.phase ≠ .waiting
    · obtain ⟨rfl, hphase⟩ := hacts
      rw [circuitStep_close hphase]
      exact hlater.closes hphase
    · have hstep : circuitStep c (.close socket) = c := if_neg hacts
      rw [hstep]
      exact hlater.same hstep rfl rfl
  | timer t =>
    by_cases hacts : t = c.earlier ∧ c.phase = .waiting
    · obtain ⟨rfl, hphase⟩ := hacts
      rw [circuitStep_timer hphase]
      exact h.retries hnow hphase hdue
    · have hstep : circuitStep c (.timer t) = c := if_neg hacts
      rw [hstep]
      exact hlater.same hstep rfl rfl
  | sendData data => exact hlater.same rfl rfl rfl

/-! ## Whole runs -/

theorem paced_timed {hostname : String} {events : List (Nat × NetEvent)}
    (h : Timely hostname events) :
    ∀ pre now, pre <+: events → (∀ x ∈ pre, x.1 ≤ now) →
      Paced hostname now (circuit (pre.map Prod.snd)) (timed hostname pre) := by
  intro pre
  induction pre using List.reverseRecOn with
  | nil =>
    intro now _ _
    exact ⟨onLoad_circuit hostname, rfl, rfl, List.pairwise_singleton _ 0, by simp [timed],
      by simp [timed]⟩
  | append_singleton pre x ih =>
    intro now hpre hpast
    have hshort : pre <+: events := (List.prefix_append pre [x]).trans hpre
    have hbefore : ∀ y ∈ pre, y.1 ≤ x.1 := by
      have hsorted := h.ordered.sublist (hpre.map Prod.fst).sublist
      rw [List.map_append, List.pairwise_append] at hsorted
      intro y hy
      exact hsorted.2.2 y.1 (List.mem_map_of_mem hy) x.1 (by simp)
    have hstep := paced_step (ih x.1 hshort hbefore) (Nat.le_refl _) (h.due pre x hpre)
    rw [List.map_append, timed, Runs.run_concat, circuit, List.map_singleton, Runs.run_concat]
    exact hstep.later (hpast x (by simp))

/-- Times that lie apart, the last of them past, have room before it. -/
theorem length_le_of_apart {times : List Nat} {gap now : Nat} (hgap : 0 < gap)
    (h : times.Pairwise fun a b => a + gap ≤ b) (hpast : ∀ a ∈ times, a ≤ now) :
    times.length ≤ now / gap + 1 := by
  induction times using List.reverseRecOn generalizing now with
  | nil => exact Nat.zero_le _
  | append_singleton times b ih =>
    rw [List.pairwise_append] at h
    have hb : b ≤ now := hpast b (by simp)
    rw [List.length_append, List.length_singleton]
    rcases times.eq_nil_or_concat with rfl | ⟨init, a, hlast⟩
    · exact Nat.succ_le_succ (Nat.zero_le _)
    · rw [List.concat_eq_append] at hlast
      subst hlast
      have hgaps : ∀ a' ∈ init ++ [a], a' ≤ b - gap := by
        intro a' ha'
        have := h.2.2 a' ha' b (by simp)
        omega
      have hroom : a + gap ≤ b := h.2.2 a (by simp) b (by simp)
      have hinit := ih h.1 hgaps
      have hdiv : (b - gap) / gap + 1 = b / gap := by
        rw [← Nat.add_div_right _ hgap, Nat.sub_add_cancel (by omega)]
      have hmono : b / gap ≤ now / gap := Nat.div_le_div_right hb
      omega

/-- **Reconnection keeps its pace.** Attempts to connect lie two seconds or
more apart, so that there are at most as many as the time since the load has
room for. -/
theorem attempts_apart {hostname : String} {events : List (Nat × NetEvent)}
    (h : Timely hostname events) {now : Nat} (hnow : ∀ x ∈ events, x.1 ≤ now) :
    (timed hostname events).made.Pairwise (fun a b => a + 2000 ≤ b) ∧
      (timed hostname events).link.sockets.length ≤ now / 2000 + 1 := by
  have hpaced := paced_timed h events now List.prefix_rfl hnow
  refine ⟨hpaced.apart, ?_⟩
  rw [hpaced.link, length_sockets_circuit, ← hpaced.made]
  exact length_le_of_apart (by decide) hpaced.apart hpaced.past

/-- Two sockets that close, the second before it has opened. -/
def twoLosses : List (Nat × NetEvent) :=
  [(40, .open 0), (900, .close 0), (2900, .timer 0), (2901, .close 1), (5000, .timer 1)]

theorem timely_twoLosses : Timely "yolo" twoLosses := by
  have hall : ∀ pre ∈ twoLosses.inits, ∀ x ∈ pre.getLast?, Due (timed "yolo" pre.dropLast) x := by
    decide
  refine ⟨by decide, ?_⟩
  intro pre x hpre
  have hdue := hall (pre ++ [x]) ((List.mem_inits _ _).mpr hpre) x (by simp)
  rwa [List.dropLast_concat] at hdue

theorem attempts_apart_twoLosses :
    (timed "yolo" twoLosses).made.Pairwise (fun a b => a + 2000 ≤ b) ∧
      (timed "yolo" twoLosses).link.sockets.length ≤ 5000 / 2000 + 1 :=
  attempts_apart timely_twoLosses (by decide)

end YoloUno
