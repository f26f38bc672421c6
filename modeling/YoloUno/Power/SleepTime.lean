import YoloUno.Power.Accepted
import YoloUno.Lib.Counter

/-!
# The light-sleep time that is reported

`enter_light_sleep` measures the sleep as the difference of two readings of
`millis` in a `uint32_t` and prints it in seconds. `reportsElapsed_iff` says
when the number printed is the true one: exactly when the sleep took less
than one period of the counter, 2³² ms or about 49.7 days. `parse_command`
admits sleeps of up to 2³¹ − 1 seconds.
-/

namespace YoloUno

/-- The seconds reported by the events of a call. -/
def reportedSeconds (events : List Event) : List Int :=
  events.filterMap fun
    | .printf .sleptFor arg => some arg.toInt
    | _ => none

/-- A light sleep reports one number of seconds, and it is the true time
rounded down. -/
def ReportsElapsed (timeSec : UInt32) (nap : Nap) (d : Device) : Prop :=
  reportedSeconds (emitted d (.returned (enterLightSleep timeSec nap d))) =
    [((nap.elapsed / 1000 : Nat) : Int)]

/-- What is printed, as a number: `%d` shows the `uint32_t` unchanged. -/
theorem sleptSeconds_toInt (nap : Nap) :
    (sleptSeconds nap).toInt32.toInt = ((nap.elapsed % 2 ^ 32 / 1000 : Nat) : Int) := by
  have hnat : (sleptSeconds nap).toNat = nap.elapsed % 2 ^ 32 / 1000 := by
    unfold sleptSeconds millis
    rw [Counter.ofNat_sub_ofNat, UInt32.toNat_div, UInt32.toNat_ofNat']
    rfl
  have hlt : (sleptSeconds nap).toBitVec.toNat < 2 ^ 31 := by
    show (sleptSeconds nap).toNat < 2 ^ 31
    rw [hnat]
    omega
  show (sleptSeconds nap).toBitVec.toInt = _
  rw [BitVec.toInt_eq_toNat_of_lt (by omega)]
  show ((sleptSeconds nap).toNat : Int) = _
  rw [hnat]

theorem reportedSeconds_enterLightSleep (timeSec : UInt32) (nap : Nap) (d : Device) :
    reportedSeconds (emitted d (.returned (enterLightSleep timeSec nap d))) =
      [((nap.elapsed % 2 ^ 32 / 1000 : Nat) : Int)] := by
  have hlog : emitted d (.returned (enterLightSleep timeSec nap d)) =
      commandEvents (.sleep .light timeSec) nap d := by
    show emitted d (execute (.sleep .light timeSec) nap d) = _
    rw [emitted, execute_log, List.drop_left]
  rw [hlog, ← sleptSeconds_toInt]
  rfl

/-- **When the reported time is right**: for every duration, every reading
of the counter at the start and every true elapsed time, exactly when less
than 2³² ms have elapsed. -/
theorem reportsElapsed_iff (timeSec : UInt32) (nap : Nap) (d : Device) :
    ReportsElapsed timeSec nap d ↔ nap.elapsed < 2 ^ 32 := by
  rw [ReportsElapsed, reportedSeconds_enterLightSleep, List.cons.injEq, Nat.cast_inj]
  simp only [and_true]
  exact Counter.mod_div_eq_div_iff (by omega) (by omega) nap.elapsed

/-- A sleep of 4 294 968 seconds is reported as one of 0 seconds. -/
theorem not_reportsElapsed_long :
    1000 * 4294968 ≤ 4294968000 ∧ 4294968000 < 1000 * (4294968 + 1) ∧
      ¬ ReportsElapsed 4294968 ⟨0, 4294968000⟩ ⟨Board.powerOn, [], []⟩ := by
  refine ⟨by decide, by decide, ?_⟩
  rw [ReportsElapsed, reportedSeconds_enterLightSleep]
  decide

end YoloUno
