import SgiEmu.Core.Time

open se_core.time

namespace se_machine.ip12

inductive EventKind where
  | Int2
  | Rtc
  | Hpc1Time
  | Serial0
  | Serial1
  | Scsi
  | Ethernet
  | Gio
  | Pic1
deriving DecidableEq, Repr

/-- Every kind, in the order due events are taken. -/
def EventKind.ALL : List EventKind := [.Int2, .Rtc, .Hpc1Time, .Serial0, .Serial1, .Scsi, .Ethernet, .Gio, .Pic1]

theorem EventKind.mem_ALL (kind : EventKind) : kind ∈ EventKind.ALL := by cases kind <;> simp [EventKind.ALL]

/-- Instants are attoseconds since the origin of the event clock. -/
structure EventSlot where
  synchronized_at : Nat
  deadline : Option Nat
deriving DecidableEq, Repr

def EventSlot.EMPTY : EventSlot := { synchronized_at := 0, deadline := none }

structure Ip12Events where
  now : Nat
  slots : EventKind → EventSlot
  next_event : Option (Nat × EventKind)

namespace Ip12Events

variable (events : Ip12Events)

def new : Ip12Events := { now := 0, slots := fun _ => .EMPTY, next_event := none }

/-- The earliest deadline among `kinds`, the first of equal ones, after what was
found before them. -/
def earliest (slots : EventKind → EventSlot) : List EventKind → Option (Nat × EventKind) → Option (Nat × EventKind)
  | [], found => found
  | kind :: kinds, found =>
    match (slots kind).deadline with
    | none => earliest slots kinds found
    | some deadline =>
      if found.all fun next => deadline < next.1 then earliest slots kinds (some (deadline, kind))
      else earliest slots kinds found

def recompute_next_event : Ip12Events := { events with next_event := earliest events.slots EventKind.ALL none }

def set_slot (kind : EventKind) (slot : EventSlot) : Ip12Events :=
  { events with slots := fun other => if other = kind then slot else events.slots other }

def advance (elapsed : Nat) : Ip12Events := { events with now := events.now + elapsed }

def schedule (kind : EventKind) (after : Option Nat) : Ip12Events :=
  (events.set_slot kind
    { events.slots kind with deadline := after.map fun after => events.now + after }).recompute_next_event

/-- Takes the next event if it is due. -/
def take_due : Option (EventKind × Ip12Events) :=
  match events.next_event with
  | none => none
  | some (deadline, kind) =>
    if events.now < deadline then none
    else some (kind, (events.set_slot kind { events.slots kind with deadline := none }).recompute_next_event)

/-- The time since a device was last synchronized, which it is now. -/
def synchronize (kind : EventKind) : Nat × Ip12Events :=
  (events.now - (events.slots kind).synchronized_at,
    events.set_slot kind { events.slots kind with synchronized_at := events.now })

def reset : Ip12Events := new

/-- The cached next event is the earliest deadline. -/
def Cached : Prop := events.next_event = earliest events.slots EventKind.ALL none

variable {events}

/-! ## Slots -/

@[simp] theorem schedule_now (kind : EventKind) (after : Option Nat) : (events.schedule kind after).now = events.now := rfl

@[simp] theorem synchronize_now (kind : EventKind) : (events.synchronize kind).2.now = events.now := rfl

@[simp] theorem schedule_slot (kind : EventKind) (after : Option Nat) :
    (events.schedule kind after).slots kind =
      { events.slots kind with deadline := after.map fun after => events.now + after } := by
  simp [schedule, recompute_next_event, set_slot]

@[simp] theorem synchronize_slot (kind : EventKind) :
    (events.synchronize kind).2.slots kind = { events.slots kind with synchronized_at := events.now } := by
  simp [synchronize, set_slot]

theorem schedule_other {kind other : EventKind} (h : other ≠ kind) (after : Option Nat) :
    (events.schedule kind after).slots other = events.slots other := by
  simp [schedule, recompute_next_event, set_slot, h]

theorem synchronize_other {kind other : EventKind} (h : other ≠ kind) :
    (events.synchronize kind).2.slots other = events.slots other := by
  simp [synchronize, set_slot, h]

/-! ## The next event -/

theorem Cached.advance (h : events.Cached) (elapsed : Nat) : (events.advance elapsed).Cached := h

theorem cached_schedule (kind : EventKind) (after : Option Nat) : (events.schedule kind after).Cached := rfl

theorem Cached.synchronize (h : events.Cached) (kind : EventKind) : (events.synchronize kind).2.Cached := by
  have hsame (kinds : List EventKind) (found : Option (Nat × EventKind)) :
      earliest (events.synchronize kind).2.slots kinds found = earliest events.slots kinds found := by
    induction kinds generalizing found with
    | nil => rfl
    | cons other kinds ih =>
      have hdeadline : ((events.synchronize kind).2.slots other).deadline = (events.slots other).deadline := by
        by_cases hother : other = kind
        · subst hother
          simp
        · rw [synchronize_other hother]
      simp only [earliest, hdeadline, ih]
  exact h.trans (hsame EventKind.ALL none).symm

/-- What is found is no later than what was found before, nor than any deadline
looked at. -/
theorem earliest_le {slots : EventKind → EventSlot} {kinds : List EventKind} {found : Option (Nat × EventKind)} :
    (∀ before, found = some before → ∃ next, earliest slots kinds found = some next ∧ next.1 ≤ before.1) ∧
      ∀ kind ∈ kinds, ∀ deadline, (slots kind).deadline = some deadline →
        ∃ next, earliest slots kinds found = some next ∧ next.1 ≤ deadline := by
  induction kinds generalizing found with
  | nil => exact ⟨fun before hfound => ⟨before, hfound, Nat.le_refl _⟩, by simp⟩
  | cons kind kinds ih =>
    cases hdeadline : (slots kind).deadline with
    | none =>
      simp only [earliest, hdeadline]
      refine ⟨ih.1, fun other hother deadline hsome => ?_⟩
      rcases List.mem_cons.mp hother with rfl | hrest
      · simp [hdeadline] at hsome
      · exact ih.2 other hrest deadline hsome
    | some first =>
      simp only [earliest, hdeadline]
      split
      case isTrue hearlier =>
        obtain ⟨next, hnext, hle⟩ := (@ih (some (first, kind))).1 (first, kind) rfl
        refine ⟨fun before hfound => ⟨next, hnext, ?_⟩, fun other hother deadline hsome => ?_⟩
        · have hlt : first < before.1 := by simpa [hfound] using hearlier
          exact Nat.le_trans hle (Nat.le_of_lt hlt)
        · rcases List.mem_cons.mp hother with rfl | hrest
          · obtain rfl : first = deadline := by simpa [hdeadline] using hsome
            exact ⟨next, hnext, hle⟩
          · exact ih.2 other hrest deadline hsome
      case isFalse hlater =>
        refine ⟨ih.1, fun other hother deadline hsome => ?_⟩
        rcases List.mem_cons.mp hother with rfl | hrest
        · obtain rfl : first = deadline := by simpa [hdeadline] using hsome
          cases found with
          | none => simp at hlater
          | some before =>
            obtain ⟨next, hnext, hle⟩ := (@ih (some before)).1 before rfl
            have hge : before.1 ≤ first := by simpa using hlater
            exact ⟨next, hnext, Nat.le_trans hle hge⟩
        · exact ih.2 other hrest deadline hsome

/-- Where no event is due, every deadline lies ahead. -/
theorem Cached.now_lt (h : events.Cached) (hdue : events.take_due = none) {kind : EventKind} {deadline : Nat}
    (hdeadline : (events.slots kind).deadline = some deadline) : events.now < deadline := by
  obtain ⟨next, hnext, hle⟩ := (@earliest_le events.slots EventKind.ALL none).2 kind kind.mem_ALL deadline hdeadline
  obtain ⟨first, first_kind⟩ := next
  rw [Cached, hnext] at h
  simp only [take_due, h] at hdue
  split at hdue
  case isTrue hlt => exact Nat.lt_of_lt_of_le hlt hle
  case isFalse => simp at hdue

/-- Taking a due event clears its deadline and leaves every other slot. -/
theorem take_due_spec {kind : EventKind} {next : Ip12Events} (h : events.take_due = some (kind, next)) :
    next.Cached ∧ next.now = events.now ∧ (next.slots kind).synchronized_at = (events.slots kind).synchronized_at ∧
      ∀ other, other ≠ kind → next.slots other = events.slots other := by
  simp only [take_due] at h
  split at h
  · simp at h
  · split at h
    · simp at h
    · obtain ⟨rfl, rfl⟩ := Prod.mk.inj (Option.some.inj h)
      exact ⟨rfl, rfl, by simp [recompute_next_event, set_slot], fun other hother => by
        simp [recompute_next_event, set_slot, hother]⟩

end Ip12Events

end se_machine.ip12
