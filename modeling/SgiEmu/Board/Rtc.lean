import SgiEmu.Board.Events
import SgiEmu.Device.Dp8573a.Advance

open se_core se_core.bus se_device.dp8573a

namespace se_machine.ip12

/-! ## The other devices

What the other devices do to the shared event clock: each synchronizes and
schedules slots that are not the RTC's. -/

inductive OtherUpdate where
  | Synchronize (kind : EventKind) (other : kind ≠ .Rtc)
  | Schedule (kind : EventKind) (other : kind ≠ .Rtc) (after : Option Nat)
deriving DecidableEq

def Ip12Events.update (events : Ip12Events) : OtherUpdate → Ip12Events
  | .Synchronize kind _ => (events.synchronize kind).2
  | .Schedule kind _ after => events.schedule kind after

def Ip12Events.updates (events : Ip12Events) (updates : List OtherUpdate) : Ip12Events := updates.foldl Ip12Events.update events

/-! ## The RTC on the bus -/

/-- The event clock of the board and its RTC. -/
structure RtcPath where
  events : Ip12Events
  rtc : Dp8573a

namespace RtcPath

/-- A constructed board: `schedule_timed_devices` on a new event clock. -/
def schedule_timed_devices (path : RtcPath) (int2 : Option Nat) (others : List OtherUpdate) : RtcPath :=
  { path with
    events := (((path.events.schedule .Int2 int2).schedule .Rtc path.rtc.time_until_event).updates others) }

def new (int2 : Option Nat) (others : List OtherUpdate) : RtcPath :=
  { events := Ip12Events.new, rtc := Dp8573a.new : RtcPath }.schedule_timed_devices int2 others

def synchronize_rtc_time (path : RtcPath) : RtcPath :=
  let synchronized := path.events.synchronize .Rtc
  let rtc := path.rtc.advance_time synchronized.1
  { events := synchronized.2.schedule .Rtc rtc.time_until_event, rtc }

/-- Serves the due events in order. `handlers` are the updates of the other devices,
one list for each event served; the loop is undefined where more are due. -/
def serve_due : List (List OtherUpdate) → RtcPath → Option RtcPath
  | handlers, path =>
    match path.events.take_due, handlers with
    | none, _ => some path
    | some _, [] => none
    | some (kind, events), updates :: handlers =>
      if kind = .Rtc then serve_due handlers { path with events }.synchronize_rtc_time
      else serve_due handlers { path with events := events.updates updates }

def advance_time (path : RtcPath) (elapsed : Nat) (handlers : List (List OtherUpdate)) : Option RtcPath :=
  serve_due handlers { path with events := path.events.advance elapsed }

/-- Schedules the RTC after an access. -/
def reschedule_rtc (path : RtcPath) : RtcPath :=
  { path with events := path.events.schedule .Rtc path.rtc.time_until_event }

def read_rtc (path : RtcPath) (address length : Nat) : Except BusError (List U8) × RtcPath :=
  let path := path.synchronize_rtc_time
  let result := path.rtc.read address length
  (result.1, { path with rtc := result.2 }.reschedule_rtc)

def write_rtc (path : RtcPath) (address : Nat) (data : List U8) : Except BusError Unit × RtcPath :=
  let path := path.synchronize_rtc_time
  let result := path.rtc.write address data
  (result.1, { path with rtc := result.2 }.reschedule_rtc)

/-- A system reset, which rewinds the event clock. -/
def reset (path : RtcPath) (int2 : Option Nat) (others : List OtherUpdate) : RtcPath :=
  { path with events := Ip12Events.reset }.schedule_timed_devices int2 others

def nonvolatile_state (path : RtcPath) : Dp8573a := path.rtc

def restore_nonvolatile_state (path : RtcPath) (rtc : Dp8573aBatteryState) (offline_milliseconds : Nat) : RtcPath :=
  { path with rtc := Dp8573a.restore_battery_state rtc offline_milliseconds }

/-! ## Runs -/

inductive RtcEvent where
  | AdvanceTime (elapsed : Nat) (handlers : List (List OtherUpdate))
  | ReadRtc (address length : Nat)
  | WriteRtc (address : Nat) (data : List U8)
  | OtherAccess (updates : List OtherUpdate)
  | Reset (int2 : Option Nat) (others : List OtherUpdate)
  | RestoreNonvolatileState (rtc : Dp8573aBatteryState) (offline_milliseconds : Nat)

def step (path : RtcPath) : RtcEvent → Option RtcPath
  | .AdvanceTime elapsed handlers => path.advance_time elapsed handlers
  | .ReadRtc address length => some (path.read_rtc address length).2
  | .WriteRtc address data => some (path.write_rtc address data).2
  | .OtherAccess updates => some { path with events := path.events.updates updates }
  | .Reset int2 others => some (path.reset int2 others)
  | .RestoreNonvolatileState rtc offline_milliseconds => some (path.restore_nonvolatile_state rtc offline_milliseconds)

def run (path : RtcPath) : List RtcEvent → Option RtcPath
  | [] => some path
  | event :: events =>
    match path.step event with
    | none => none
    | some next => next.run events

/-- An RTC that keeps its own time: every event changes it at once, and no reset
or other device reaches it. -/
def ideal_step (rtc : Dp8573a) : RtcEvent → Dp8573a
  | .AdvanceTime elapsed _ => rtc.advance_time elapsed
  | .ReadRtc address length => (rtc.read address length).2
  | .WriteRtc address data => (rtc.write address data).2
  | .OtherAccess _ => rtc
  | .Reset _ _ => rtc
  | .RestoreNonvolatileState rtc offline_milliseconds => Dp8573a.restore_battery_state rtc offline_milliseconds

def ideal_run (rtc : Dp8573a) (events : List RtcEvent) : Dp8573a := events.foldl ideal_step rtc

/-- The reported state is the ideal one but for the last part of a millisecond. -/
def TimeKept (path : RtcPath) (ideal : Dp8573a) : Prop :=
  ideal.running = true → ∃ lag < ATTOSECONDS_PER_MILLISECOND, ideal = path.nonvolatile_state.advance_time lag

/-- Whether an event drops time of a running clock that is not yet synchronized, or
restores a running clock that no deadline advances. -/
def loses_time (path : RtcPath) : RtcEvent → Bool
  | .Reset _ _ => path.rtc.running && (path.events.slots .Rtc).synchronized_at != path.events.now
  | .RestoreNonvolatileState rtc _ =>
    rtc.counters.running &&
      ((path.events.slots .Rtc).synchronized_at != path.events.now || (path.events.slots .Rtc).deadline.isNone)
  | _ => false

/-- No event of a run loses time. -/
def keeps_time (path : RtcPath) : List RtcEvent → Bool
  | [] => true
  | event :: events =>
    !path.loses_time event &&
      match path.step event with
      | none => true
      | some next => next.keeps_time events

/-! ## The invariant -/

/-- The RTC slot while events are served: the ideal clock is ahead by the time since
the slot was synchronized, and a deadline within a millisecond of that drives a
running clock. -/
structure Tracks (path : RtcPath) (ideal : Dp8573a) : Prop where
  cached : path.events.Cached
  synchronized : (path.events.slots .Rtc).synchronized_at ≤ path.events.now
  ideal_eq : ideal = path.rtc.advance_time (path.events.now - (path.events.slots .Rtc).synchronized_at)
  deadline_le : ∀ deadline, (path.events.slots .Rtc).deadline = some deadline →
    deadline ≤ (path.events.slots .Rtc).synchronized_at + ATTOSECONDS_PER_MILLISECOND
  scheduled : path.rtc.running = true → (path.events.slots .Rtc).deadline.isSome = true

/-- Between events no deadline is due. -/
structure Settled (path : RtcPath) (ideal : Dp8573a) : Prop extends Tracks path ideal where
  ahead : ∀ deadline, (path.events.slots .Rtc).deadline = some deadline → path.events.now < deadline

theorem Settled.time_kept {path : RtcPath} {ideal : Dp8573a} (h : Settled path ideal) : path.TimeKept ideal := by
  intro hrunning
  have hactual : path.rtc.running = true := by
    rw [h.ideal_eq, Dp8573a.running_advance_time] at hrunning
    exact hrunning
  refine ⟨path.events.now - (path.events.slots .Rtc).synchronized_at, ?_, h.ideal_eq⟩
  obtain ⟨deadline, hdeadline⟩ := Option.isSome_iff_exists.mp (h.scheduled hactual)
  have hahead := h.ahead deadline hdeadline
  have hle := h.deadline_le deadline hdeadline
  have hsynchronized := h.synchronized
  omega

variable {path next : RtcPath} {ideal : Dp8573a}

theorem updates_spec (events : Ip12Events) (hcached : events.Cached) (updates : List OtherUpdate) :
    (events.updates updates).Cached ∧ (events.updates updates).now = events.now ∧
      (events.updates updates).slots .Rtc = events.slots .Rtc := by
  induction updates generalizing events with
  | nil => exact ⟨hcached, rfl, rfl⟩
  | cons update updates ih =>
    cases update with
    | Synchronize kind other =>
      obtain ⟨hlast, hnow, hslot⟩ := ih (events.synchronize kind).2 (hcached.synchronize kind)
      exact ⟨hlast, hnow, hslot.trans (Ip12Events.synchronize_other (Ne.symm other))⟩
    | Schedule kind other after =>
      obtain ⟨hlast, hnow, hslot⟩ := ih (events.schedule kind after) (Ip12Events.cached_schedule kind after)
      exact ⟨hlast, hnow, hslot.trans (Ip12Events.schedule_other (Ne.symm other) after)⟩

theorem Tracks.updates (h : Tracks path ideal) (updates : List OtherUpdate) :
    Tracks { path with events := path.events.updates updates } ideal := by
  obtain ⟨hcached, hnow, hslot⟩ := updates_spec path.events h.cached updates
  refine ⟨hcached, ?_, ?_, ?_, ?_⟩
  · rw [hslot, hnow]
    exact h.synchronized
  · rw [hslot, hnow]
    exact h.ideal_eq
  · rw [hslot]
    exact h.deadline_le
  · rw [hslot]
    exact h.scheduled

theorem Settled.updates (h : Settled path ideal) (updates : List OtherUpdate) :
    Settled { path with events := path.events.updates updates } ideal := by
  obtain ⟨_, hnow, hslot⟩ := updates_spec path.events h.cached updates
  refine ⟨h.toTracks.updates updates, ?_⟩
  rw [hslot, hnow]
  exact h.ahead

/-- A clock synchronized now and then scheduled is settled. -/
theorem settled_reschedule (hnow : (path.events.slots .Rtc).synchronized_at = path.events.now) :
    Settled path.reschedule_rtc path.rtc := by
  have hphase := path.rtc.phase_lt
  refine ⟨⟨Ip12Events.cached_schedule _ _, ?_, ?_, fun deadline hdeadline => ?_, fun hrunning => ?_⟩,
    fun deadline hdeadline => ?_⟩
  · simp [reschedule_rtc, hnow]
  · simp [reschedule_rtc, hnow, Dp8573a.advance_time_zero]
  · simp only [reschedule_rtc, Ip12Events.schedule_slot, Dp8573a.time_until_event] at hdeadline ⊢
    split at hdeadline
    · simp at hdeadline
    · simp only [Option.map_some, Option.some.injEq] at hdeadline
      omega
  · have hrunning : path.rtc.running = true := hrunning
    simp [reschedule_rtc, Dp8573a.time_until_event, hrunning]
  · simp only [reschedule_rtc, Ip12Events.schedule_slot, Dp8573a.time_until_event] at hdeadline ⊢
    split at hdeadline
    · simp at hdeadline
    · simp only [Option.map_some, Option.some.injEq] at hdeadline
      simp only [Ip12Events.schedule_now]
      omega

/-- Synchronizing catches up with the ideal clock. -/
theorem synchronize_settled
    (hideal : ideal = path.rtc.advance_time (path.events.now - (path.events.slots .Rtc).synchronized_at)) :
    Settled path.synchronize_rtc_time ideal ∧ path.synchronize_rtc_time.rtc = ideal ∧
      (path.synchronize_rtc_time.events.slots .Rtc).synchronized_at = path.synchronize_rtc_time.events.now := by
  have hsettled := @settled_reschedule { events := (path.events.synchronize .Rtc).2, rtc := ideal } (by simp)
  have hsame : path.synchronize_rtc_time =
      { events := (path.events.synchronize .Rtc).2, rtc := ideal : RtcPath }.reschedule_rtc := by
    rw [hideal]
    rfl
  rw [hsame]
  exact ⟨hsettled, rfl, by simp [reschedule_rtc]⟩

/-- Serving every due event settles the clock. -/
theorem serve_due_settled (handlers : List (List OtherUpdate)) (h : Tracks path ideal)
    (hserved : serve_due handlers path = some next) : Settled next ideal := by
  induction handlers generalizing path with
  | nil =>
    unfold serve_due at hserved
    split at hserved
    case h_1 hdue =>
      obtain rfl := Option.some.inj hserved
      exact ⟨h, fun deadline hdeadline => h.cached.now_lt hdue hdeadline⟩
    case h_2 => simp at hserved
    case h_3 heq => simp at heq
  | cons updates handlers ih =>
    unfold serve_due at hserved
    split at hserved
    case h_1 hdue =>
      obtain rfl := Option.some.inj hserved
      exact ⟨h, fun deadline hdeadline => h.cached.now_lt hdue hdeadline⟩
    case h_2 heq => simp at heq
    case h_3 kind events updates' handlers' hdue heq =>
      obtain ⟨rfl, rfl⟩ := List.cons.inj heq
      obtain ⟨hcached, hnow, hsame, hother⟩ := Ip12Events.take_due_spec hdue
      split at hserved
      case isTrue hkind =>
        subst hkind
        have hsynchronized := @synchronize_settled { path with events } ideal (by rw [hnow, hsame]; exact h.ideal_eq)
        exact ih hsynchronized.1.toTracks hserved
      case isFalse hkind =>
        have hslot := hother .Rtc (Ne.symm hkind)
        have htaken : Tracks { path with events } ideal := by
          refine ⟨hcached, ?_, ?_, ?_, ?_⟩
          · rw [hslot, hnow]
            exact h.synchronized
          · rw [hslot, hnow]
            exact h.ideal_eq
          · rw [hslot]
            exact h.deadline_le
          · rw [hslot]
            exact h.scheduled
        exact ih (htaken.updates updates) hserved

/-! ## Every event -/

theorem advance_time_settled (h : Settled path ideal) (elapsed : Nat) (handlers : List (List OtherUpdate))
    (hstep : path.advance_time elapsed handlers = some next) : Settled next (ideal.advance_time elapsed) := by
  have htracks : Tracks { path with events := path.events.advance elapsed } (ideal.advance_time elapsed) := by
    refine ⟨h.cached.advance elapsed, ?_, ?_, h.deadline_le, h.scheduled⟩
    · exact Nat.le_trans h.synchronized (Nat.le_add_right _ _)
    · have hsynchronized := h.synchronized
      have helapsed : (path.events.advance elapsed).now - ((path.events.advance elapsed).slots .Rtc).synchronized_at =
          path.events.now - (path.events.slots .Rtc).synchronized_at + elapsed := by
        simp only [Ip12Events.advance]
        omega
      rw [helapsed, Dp8573a.advance_time_add, ← h.ideal_eq]
  exact serve_due_settled handlers htracks hstep

theorem access_settled (h : Settled path ideal) (access : Dp8573a → Dp8573a) :
    Settled ({ path.synchronize_rtc_time with rtc := access path.synchronize_rtc_time.rtc } : RtcPath).reschedule_rtc
      (access ideal) := by
  obtain ⟨_, hrtc, hnow⟩ := synchronize_settled h.ideal_eq
  rw [hrtc]
  exact settled_reschedule hnow

theorem schedule_timed_devices_settled (rtc : Dp8573a) (int2 : Option Nat) (others : List OtherUpdate) :
    Settled ({ events := Ip12Events.new, rtc : RtcPath }.schedule_timed_devices int2 others) rtc := by
  have hscheduled := @settled_reschedule { events := Ip12Events.new.schedule .Int2 int2, rtc } (by
    rw [Ip12Events.schedule_other (by simp)]
    rfl)
  exact hscheduled.updates others

theorem reset_settled (h : Settled path ideal) (int2 : Option Nat) (others : List OtherUpdate)
    (hkept : path.loses_time (.Reset int2 others) = false) : Settled (path.reset int2 others) ideal := by
  have hideal : ideal = path.rtc := by
    rw [h.ideal_eq]
    cases hrunning : path.rtc.running with
    | false => exact Dp8573a.advance_time_stopped hrunning _
    | true =>
      have hnow : (path.events.slots .Rtc).synchronized_at = path.events.now := by
        simpa [loses_time, hrunning] using hkept
      rw [hnow, Nat.sub_self, Dp8573a.advance_time_zero]
  rw [hideal]
  exact schedule_timed_devices_settled path.rtc int2 others

theorem restore_settled (h : Settled path ideal) (rtc : Dp8573aBatteryState) (offline_milliseconds : Nat)
    (hkept : path.loses_time (.RestoreNonvolatileState rtc offline_milliseconds) = false) :
    Settled (path.restore_nonvolatile_state rtc offline_milliseconds)
      (Dp8573a.restore_battery_state rtc offline_milliseconds) := by
  have hrunning := Dp8573a.running_restore rtc offline_milliseconds
  refine ⟨⟨h.cached, h.synchronized, ?_, h.deadline_le, fun hrestored => ?_⟩, h.ahead⟩
  · simp only [restore_nonvolatile_state]
    cases hclock : rtc.counters.running with
    | false => exact (Dp8573a.advance_time_stopped (hrunning.trans hclock) _).symm
    | true =>
      simp only [loses_time, hclock, Bool.true_and, Bool.or_eq_false_iff, bne_eq_false_iff_eq] at hkept
      rw [hkept.1, Nat.sub_self, Dp8573a.advance_time_zero]
  · have hclock : rtc.counters.running = true := hrunning.symm.trans hrestored
    simp only [loses_time, hclock, Bool.true_and, Bool.or_eq_false_iff] at hkept
    have hscheduled : (path.events.slots .Rtc).deadline.isSome = true := by simpa using hkept.2
    exact hscheduled

/-- No event that loses no time takes the clock from the ideal one. -/
theorem step_settled (h : Settled path ideal) (event : RtcEvent) (hkept : path.loses_time event = false)
    (hstep : path.step event = some next) : Settled next (ideal_step ideal event) := by
  cases event with
  | AdvanceTime elapsed handlers => exact advance_time_settled h elapsed handlers hstep
  | ReadRtc address length =>
    obtain rfl := Option.some.inj hstep
    exact access_settled h fun rtc => (rtc.read address length).2
  | WriteRtc address data =>
    obtain rfl := Option.some.inj hstep
    exact access_settled h fun rtc => (rtc.write address data).2
  | OtherAccess updates =>
    obtain rfl := Option.some.inj hstep
    exact h.updates updates
  | Reset int2 others =>
    obtain rfl := Option.some.inj hstep
    exact reset_settled h int2 others hkept
  | RestoreNonvolatileState rtc offline_milliseconds =>
    obtain rfl := Option.some.inj hstep
    exact restore_settled h rtc offline_milliseconds hkept

theorem run_settled (h : Settled path ideal) (events : List RtcEvent) (hkept : path.keeps_time events = true)
    (hrun : path.run events = some next) : Settled next (ideal_run ideal events) := by
  induction events generalizing path ideal with
  | nil =>
    obtain rfl := Option.some.inj hrun
    exact h
  | cons event events ih =>
    simp only [keeps_time, Bool.and_eq_true, Bool.not_eq_true'] at hkept
    simp only [run] at hrun
    split at hrun
    · simp at hrun
    case h_2 middle hstep =>
      rw [hstep] at hkept
      exact ih (step_settled h event hkept.1 hstep) hkept.2 hrun

/-- In every run that neither resets a running clock between its synchronizations nor
restores a running clock without a deadline, the reported state keeps the time of
the ideal clock to less than a millisecond. -/
theorem run_time_kept (int2 : Option Nat) (others : List OtherUpdate) (events : List RtcEvent)
    (hkept : (new int2 others).keeps_time events = true) (path : RtcPath) (hrun : (new int2 others).run events = some path) :
    path.TimeKept (ideal_run Dp8573a.new events) := by
  have hnew : Settled (new int2 others) Dp8573a.new := schedule_timed_devices_settled Dp8573a.new int2 others
  exact (run_settled hnew events hkept hrun).time_kept

/-- A retained running clock. -/
def running_state : Dp8573aBatteryState :=
  { Dp8573a.new with
    counters := Dp8573a.new.counters.set_control REAL_TIME_MODE CLOCK_START
    millisecond_lt := by decide }

/-- A clock set running, a reset right after the deadline that drives it, and a
retained clock restored that goes on from there. -/
def restored_clock : List RtcEvent :=
  [.WriteRtc 0x03 [0x40], .WriteRtc 0x07 [0x08], .WriteRtc 0x03 [0],
    .AdvanceTime ATTOSECONDS_PER_MILLISECOND [[]], .Reset none [], .RestoreNonvolatileState running_state 1234,
    .AdvanceTime (10 * ATTOSECONDS_PER_MILLISECOND + ATTOSECONDS_PER_MILLISECOND / 2) [[]], .ReadRtc 0x17 1]

/-- The restored clock has counted 1.234 seconds off line and ten milliseconds since. -/
theorem run_time_kept_restored :
    (ideal_run Dp8573a.new restored_clock).counters ≠ running_state.counters ∧
      ∃ path, (new none []).run restored_clock = some path ∧ path.TimeKept (ideal_run Dp8573a.new restored_clock) := by
  have hruns : ((new none []).run restored_clock).isSome = true := by decide +kernel
  obtain ⟨path, hrun⟩ := Option.isSome_iff_exists.mp hruns
  exact ⟨by decide +kernel, path, hrun, run_time_kept none [] restored_clock (by decide +kernel) path hrun⟩

/-- Within a millisecond from phase zero no counter moves. -/
theorem not_time_kept (hrunning : ideal.running = true ∧ path.rtc.running = true)
    (hphase : path.rtc.prescaler_phase_attoseconds = 0) (hcounters : ideal.counters ≠ path.rtc.counters) :
    ¬ path.TimeKept ideal := by
  intro h
  obtain ⟨lag, hlag, rfl⟩ := h hrunning.1
  have hsame := (Dp8573a.advance_time_running hrunning.2 lag).1
  rw [hphase, Nat.zero_add, Nat.div_eq_of_lt hlag] at hsame
  exact hcounters hsame

/-- The clock restored on a new board has no deadline: time passes without it. -/
def unscheduled_restore : List RtcEvent :=
  [.RestoreNonvolatileState running_state 0, .AdvanceTime ATTOSECONDS_PER_MILLISECOND []]

/-- Each reset drops what has passed of a millisecond. -/
def repeated_resets : List RtcEvent :=
  [.WriteRtc 0x03 [0x40], .WriteRtc 0x07 [0x08], .WriteRtc 0x03 [0],
    .AdvanceTime (ATTOSECONDS_PER_MILLISECOND / 2) [], .Reset none [],
    .AdvanceTime (ATTOSECONDS_PER_MILLISECOND / 2) [], .Reset none []]

theorem time_lost {events : List RtcEvent} (h : ((new none []).run events).any (fun path =>
      (ideal_run Dp8573a.new events).running && path.rtc.running && path.rtc.prescaler_phase_attoseconds == 0 &&
        (ideal_run Dp8573a.new events).counters != path.rtc.counters) = true) :
    ∃ path, (new none []).run events = some path ∧ ¬ path.TimeKept (ideal_run Dp8573a.new events) := by
  obtain ⟨path, hrun, hstate⟩ := (Option.any_eq_true _ _).mp h
  simp only [Bool.and_eq_true, beq_iff_eq, bne_iff_ne] at hstate
  exact ⟨path, hrun, not_time_kept hstate.1.1 hstate.1.2 hstate.2⟩

theorem restore_and_resets_lose_time :
    (∃ path, (new none []).run unscheduled_restore = some path ∧
        ¬ path.TimeKept (ideal_run Dp8573a.new unscheduled_restore)) ∧
      ∃ path, (new none []).run repeated_resets = some path ∧ ¬ path.TimeKept (ideal_run Dp8573a.new repeated_resets) :=
  ⟨time_lost (by decide +kernel), time_lost (by decide +kernel)⟩

end RtcPath

end se_machine.ip12
