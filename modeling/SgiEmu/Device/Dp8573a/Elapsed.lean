import SgiEmu.Device.Dp8573a.Advance
import SgiEmu.Device.Dp8573a.Ticked

open se_core

namespace se_device.dp8573a

namespace Counters

variable {base rtc counters : Counters} {clock : ClockState}

/-! ## Periodic events over many steps -/

/-- The periodic events of some seconds. -/
def second_flags (clock : ClockState) (second_steps : Nat) : U8 :=
  if second_steps = 0 then 0
  else
    PERIODIC_SECOND ||| (if crosses_cyclic_target clock.seconds second_steps 10 then PERIODIC_TEN_SECONDS else 0)
      ||| (if crosses_cyclic_target clock.seconds second_steps 60 then PERIODIC_MINUTE else 0)

def hundredth_flags (clock : ClockState) (hundredth_steps : Nat) : U8 :=
  if hundredth_steps = 0 then 0
  else
    PERIODIC_TEN_MILLISECONDS
      ||| (if crosses_cyclic_target clock.hundredths hundredth_steps 10 then PERIODIC_HUNDRED_MILLISECONDS else 0)
      ||| second_flags clock ((clock.hundredths + hundredth_steps) / 100)

def millisecond_flags (clock : ClockState) (millisecond milliseconds : Nat) : U8 :=
  if milliseconds = 0 then 0 else PERIODIC_MILLISECOND ||| hundredth_flags clock ((millisecond + milliseconds) / 10)

theorem flag_or (first second : Bool) (flag : U8) : (if first || second then flag else 0) =
    (if first then flag else 0) ||| (if second then flag else 0) := by
  cases first <;> cases second <;> simp

theorem or_interleave (step first second before now : U8) :
    step ||| (first ||| second) ||| (before ||| now) = step ||| first ||| before ||| (step ||| (second ||| now)) := by
  ext i hi
  simp only [BitVec.getElem_or]
  cases step[i] <;> cases first[i] <;> cases second[i] <;> cases before[i] <;> cases now[i] <;> rfl

/-- One more second adds its events. -/
theorem second_flags_succ (hvalid : clock.Valid) (seconds : Nat) : second_flags clock (seconds + 1) =
    second_flags clock seconds ||| (PERIODIC_SECOND ||| second_events (clock.after_seconds seconds)) := by
  have hseconds := hvalid.seconds_lt
  have hshown : (clock.after_seconds seconds).seconds = (clock.seconds + seconds) % 60 := by
    simp only [ClockState.after_seconds, ClockState.at_total, ClockState.seconds_of_day, SECONDS_PER_DAY]
    omega
  have hten : (if (if (clock.after_seconds seconds).seconds = 59 then 0 else (clock.after_seconds seconds).seconds + 1) % 10 = 0
      then PERIODIC_TEN_SECONDS else 0) =
      if (clock.seconds + seconds + 1) % 10 == 0 then PERIODIC_TEN_SECONDS else 0 := by
    refine if_congr ?_ rfl rfl
    rw [hshown, beq_iff_eq]
    split
    all_goals omega
  have hminute : (if (clock.after_seconds seconds).seconds = 59 then PERIODIC_MINUTE else 0) =
      if (clock.seconds + seconds + 1) % 60 == 0 then PERIODIC_MINUTE else 0 := by
    refine if_congr ?_ rfl rfl
    rw [hshown, beq_iff_eq]
    omega
  unfold second_events
  rw [hten, hminute]
  unfold second_flags
  rw [if_neg (Nat.succ_ne_zero seconds), crosses_ten_succ, crosses_sixty_succ, flag_or, flag_or, or_interleave]
  by_cases hzero : seconds = 0
  · subst hzero
    simp only [crosses_zero, Bool.false_eq_true, if_false, if_true, BitVec.ofNat_eq_ofNat, BitVec.or_zero, BitVec.zero_or]
    rw [← BitVec.or_assoc, BitVec.or_self]
  · rw [if_neg hzero]

theorem hundredth_flags_succ (hvalid : clock.Valid) (hundredths : Nat) : hundredth_flags clock (hundredths + 1) =
    hundredth_flags clock hundredths ||| (PERIODIC_TEN_MILLISECONDS |||
      ((if (clock.hundredths + hundredths + 1) % 10 == 0 then PERIODIC_HUNDRED_MILLISECONDS else 0) |||
        if (clock.after hundredths).hundredths = 99 then PERIODIC_SECOND ||| second_events (clock.after hundredths)
        else 0)) := by
  have hevents : second_events (clock.after hundredths) =
      second_events (clock.after_seconds ((clock.hundredths + hundredths) / 100)) := rfl
  have hshown : (clock.after hundredths).hundredths = (clock.hundredths + hundredths) % 100 := rfl
  have hsecond : second_flags clock ((clock.hundredths + (hundredths + 1)) / 100) =
      second_flags clock ((clock.hundredths + hundredths) / 100) |||
        if (clock.after hundredths).hundredths = 99 then PERIODIC_SECOND ||| second_events (clock.after hundredths)
        else 0 := by
    rw [hshown, hevents]
    by_cases hlast : (clock.hundredths + hundredths) % 100 = 99
    · have hdiv : (clock.hundredths + (hundredths + 1)) / 100 = (clock.hundredths + hundredths) / 100 + 1 := by omega
      rw [hdiv, if_pos hlast, second_flags_succ hvalid]
    · have hdiv : (clock.hundredths + (hundredths + 1)) / 100 = (clock.hundredths + hundredths) / 100 := by omega
      rw [hdiv, if_neg hlast]
      simp
  unfold hundredth_flags
  rw [if_neg (Nat.succ_ne_zero hundredths), crosses_ten_succ, flag_or, hsecond, or_interleave]
  by_cases hzero : hundredths = 0
  · subst hzero
    have hlt := hvalid.hundredths_lt
    have hnone : second_flags clock ((clock.hundredths + 0) / 100) = 0 := by
      rw [Nat.add_zero, Nat.div_eq_of_lt hlt]
      rfl
    rw [hnone, crosses_zero]
    simp only [Bool.false_eq_true, if_false, if_true, BitVec.ofNat_eq_ofNat, BitVec.or_zero, BitVec.zero_or]
    rw [← BitVec.or_assoc, BitVec.or_self]
  · rw [if_neg hzero]

/-! ## Alarm edges -/

/-- Whether the alarm rises within some seconds. -/
def alarm_rises (base : Counters) (clock : ClockState) : (seconds : Nat) → Bool
  | 0 => false
  | seconds + 1 =>
    base.alarm_rises clock seconds
      || base.alarm_matches_at (clock.after_seconds (seconds + 1)) && !base.alarm_matches_at (clock.after_seconds seconds)

theorem alarm_rises_iff (seconds : Nat) : base.alarm_rises clock seconds = true ↔
    ∃ passed < seconds, base.alarm_matches_at (clock.after_seconds (passed + 1)) = true ∧
      base.alarm_matches_at (clock.after_seconds passed) = false := by
  induction seconds with
  | zero => simp [alarm_rises]
  | succ seconds ih =>
    simp only [alarm_rises, Bool.or_eq_true, Bool.and_eq_true, Bool.not_eq_true', ih]
    constructor
    · rintro (⟨passed, hlt, hrises⟩ | hrises)
      · exact ⟨passed, Nat.lt_succ_of_lt hlt, hrises⟩
      · exact ⟨seconds, Nat.lt_succ_self seconds, hrises⟩
    · rintro ⟨passed, hlt, hrises⟩
      rcases Nat.lt_succ_iff_lt_or_eq.mp hlt with hlt | rfl
      · exact Or.inl ⟨passed, hlt, hrises⟩
      · exact Or.inr hrises

/-! ## Ticking -/

theorem advance_milliseconds_succ (milliseconds : Nat) :
    base.advance_milliseconds (milliseconds + 1) = (base.advance_milliseconds milliseconds).advance_millisecond :=
  advance_milliseconds_add milliseconds 1

theorem finish_millisecond : rtc.finish_clock_change.millisecond_within_hundredth = rtc.millisecond_within_hundredth := by
  have hrecompute (next : Counters) :
      next.recompute_alarm_match.millisecond_within_hundredth = next.millisecond_within_hundredth := by
    unfold recompute_alarm_match
    dsimp only
    split
    all_goals rfl
  unfold finish_clock_change
  rw [hrecompute, save_eq]

/-- A hundredth of a second more. -/
theorem Ticked.advance_hundredth {hundredths : Nat} {events : U8} (hvalid : clock.Valid)
    (h : Ticked base (clock.after hundredths) (decide ((clock.hundredths + hundredths) / 100 ≠ 0))
      (base.alarm_rises clock ((clock.hundredths + hundredths) / 100))
      (base.alarm_matches_at (clock.after_seconds ((clock.hundredths + hundredths) / 100))) events rtc) :
    rtc.advance_hundredth.2.millisecond_within_hundredth = rtc.millisecond_within_hundredth ∧
      Ticked base (clock.after (hundredths + 1)) (decide ((clock.hundredths + (hundredths + 1)) / 100 ≠ 0))
        (base.alarm_rises clock ((clock.hundredths + (hundredths + 1)) / 100))
        (base.alarm_matches_at (clock.after_seconds ((clock.hundredths + (hundredths + 1)) / 100)))
        events rtc.advance_hundredth.2 ∧
      rtc.advance_hundredth.1 = (if (clock.hundredths + hundredths + 1) % 10 == 0 then PERIODIC_HUNDRED_MILLISECONDS else 0)
        ||| (if (clock.after hundredths).hundredths = 99 then PERIODIC_SECOND ||| second_events (clock.after hundredths)
          else 0) := by
  have hnow := hvalid.after hundredths
  have hshown : (clock.after hundredths).hundredths = (clock.hundredths + hundredths) % 100 := rfl
  have hnext := @ClockState.after_succ clock hundredths
  by_cases hends : (clock.after hundredths).hundredths = 99
  · -- the second ends
    obtain ⟨next, heq, hmoved⟩ := advance_hundredth_ends h.shows.moved hnow hends
    rw [if_pos hends] at hnext
    rw [← hnext] at hmoved
    rw [hshown] at hends
    have hdiv : (clock.hundredths + (hundredths + 1)) / 100 = (clock.hundredths + hundredths) / 100 + 1 := by omega
    have hten : ((clock.hundredths + hundredths + 1) % 10 == 0) = true := by
      rw [beq_iff_eq]
      omega
    have hmatches : base.alarm_matches_at (clock.after (hundredths + 1)) =
        base.alarm_matches_at (clock.after_seconds ((clock.hundredths + hundredths) / 100 + 1)) := by
      rw [← hdiv]
      rfl
    have hfinished := h.finish hmoved (hvalid.after (hundredths + 1))
    rw [hmatches] at hfinished
    have hsaved : decide ((clock.hundredths + hundredths) / 100 + 1 ≠ 0) = true := by simp
    rw [heq, hdiv, hten, if_pos rfl, if_pos (hshown.trans hends), hsaved]
    exact ⟨finish_millisecond.trans hmoved.frame.millisecond, hfinished, BitVec.or_assoc _ _ _⟩
  · obtain ⟨next, heq, hmoved⟩ := advance_hundredth_inside h.shows.moved hnow hends
    rw [if_neg hends] at hnext
    rw [← hnext] at hmoved
    have hkept := h.moved hmoved fun f hf => by
      rw [hnext]
      cases f <;> first | rfl | exact absurd rfl hf
    have hinside := hends
    rw [hshown] at hinside
    have hdiv : (clock.hundredths + (hundredths + 1)) / 100 = (clock.hundredths + hundredths) / 100 := by omega
    rw [heq, hdiv, if_neg hends]
    refine ⟨hmoved.frame.millisecond, hkept, ?_⟩
    have hten : (if ((clock.after hundredths).hundredths + 1) % 10 = 0 then PERIODIC_HUNDRED_MILLISECONDS else 0) =
        if (clock.hundredths + hundredths + 1) % 10 == 0 then PERIODIC_HUNDRED_MILLISECONDS else 0 := by
      refine if_congr ?_ rfl rfl
      rw [hshown, beq_iff_eq]
      omega
    rw [hten]
    exact (BitVec.or_zero).symm

theorem Shows.ticked (h : Shows base clock base) : Ticked base clock false false base.alarm_match_active 0 base := by
  refine ⟨h, fun index _ _ => rfl, ?_, (BitVec.or_zero).symm, fun _ _ _ _ _ => rfl, rfl, rfl, rfl⟩
  simp

/-- What a clock that decodes shows after some milliseconds. -/
theorem advance_milliseconds_ticked (h : Shows base clock base) (hvalid : clock.Valid)
    (hmillisecond : base.millisecond_within_hundredth < 10)
    (hactive : base.alarm_match_active = base.alarm_matches_at clock) (milliseconds : Nat) :
    (base.advance_milliseconds milliseconds).millisecond_within_hundredth =
        (base.millisecond_within_hundredth + milliseconds) % 10 ∧
      Ticked base (clock.after ((base.millisecond_within_hundredth + milliseconds) / 10))
        (decide ((clock.hundredths + (base.millisecond_within_hundredth + milliseconds) / 10) / 100 ≠ 0))
        (base.alarm_rises clock ((clock.hundredths + (base.millisecond_within_hundredth + milliseconds) / 10) / 100))
        (base.alarm_matches_at
          (clock.after_seconds ((clock.hundredths + (base.millisecond_within_hundredth + milliseconds) / 10) / 100)))
        (millisecond_flags clock base.millisecond_within_hundredth milliseconds)
        (base.advance_milliseconds milliseconds) := by
  induction milliseconds with
  | zero =>
    have hhundredths := hvalid.hundredths_lt
    rw [Nat.add_zero, Nat.div_eq_of_lt hmillisecond, Nat.mod_eq_of_lt hmillisecond, Nat.add_zero,
      Nat.div_eq_of_lt hhundredths, ClockState.after_zero hvalid, ClockState.after_seconds_zero hvalid, ← hactive]
    exact ⟨rfl, h.ticked⟩
  | succ milliseconds ih =>
    obtain ⟨hcounted, hticked⟩ := ih
    rw [advance_milliseconds_succ]
    generalize base.advance_milliseconds milliseconds = rtc at hcounted hticked
    generalize hstart : base.millisecond_within_hundredth = start at *
    have hraised : millisecond_flags clock start (milliseconds + 1) =
        PERIODIC_MILLISECOND ||| hundredth_flags clock ((start + milliseconds + 1) / 10) := rfl
    have hbefore : PERIODIC_MILLISECOND ||| hundredth_flags clock ((start + milliseconds) / 10) =
        PERIODIC_MILLISECOND ||| millisecond_flags clock start milliseconds := by
      unfold millisecond_flags
      split
      case isTrue hzero =>
        rw [hzero, Nat.add_zero, Nat.div_eq_of_lt hmillisecond]
        rfl
      case isFalse => rw [← BitVec.or_assoc, BitVec.or_self]
    rw [← Nat.add_assoc, hraised]
    unfold advance_millisecond
    by_cases hends : rtc.millisecond_within_hundredth + 1 = 10
    · -- a hundredth of a second ends
      have hdiv : (start + milliseconds + 1) / 10 = (start + milliseconds) / 10 + 1 := by omega
      have hmod : (start + milliseconds + 1) % 10 = 0 := by omega
      obtain ⟨hkept, hnext, hevents⟩ := (hticked.set_millisecond 0).advance_hundredth hvalid
      rw [if_pos hends, hdiv, hmod]
      have hadded := hnext.raise (PERIODIC_MILLISECOND ||| PERIODIC_TEN_MILLISECONDS |||
        ({ rtc with millisecond_within_hundredth := 0 } : Counters).advance_hundredth.1)
      refine ⟨?_, ?_⟩
      · refine Eq.trans ?_ hkept
        unfold raise_periodic_events
        dsimp only
        split
        all_goals rfl
      · have hflags : PERIODIC_MILLISECOND ||| hundredth_flags clock ((start + milliseconds) / 10 + 1) =
            millisecond_flags clock start milliseconds ||| (PERIODIC_MILLISECOND ||| PERIODIC_TEN_MILLISECONDS |||
              ({ rtc with millisecond_within_hundredth := 0 } : Counters).advance_hundredth.1) := by
          rw [hundredth_flags_succ hvalid, hevents, ← BitVec.or_assoc, hbefore]
          ac_rfl
        rw [hflags]
        exact hadded
    · have hdiv : (start + milliseconds + 1) / 10 = (start + milliseconds) / 10 := by omega
      have hmod : (start + milliseconds + 1) % 10 = (start + milliseconds) % 10 + 1 := by omega
      rw [if_neg hends, hdiv, hmod]
      have hadded := (hticked.set_millisecond (rtc.millisecond_within_hundredth + 1)).raise PERIODIC_MILLISECOND
      refine ⟨?_, ?_⟩
      · rw [← hcounted]
        unfold raise_periodic_events
        dsimp only
        split
        all_goals rfl
      · rw [hbefore, BitVec.or_comm]
        exact hadded

end Counters

end se_device.dp8573a
