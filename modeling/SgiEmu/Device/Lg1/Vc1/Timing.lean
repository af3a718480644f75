import SgiEmu.Device.Lg1.Vc1
import SgiEmu.Library.Divider

open Library se_core

namespace se_device.lg1.vc1

/-- Whatever moves the controller. -/
inductive Operation where
  | write (selector : Selector) (value : U8)
  | read (selector : Selector)
  | advance_time (elapsed : Nat)
  | reset

def Operation.apply (vc1 : Vc1) : Operation → Vc1
  | .write selector value => (vc1.write selector value).2
  | .read selector => (vc1.read selector).2
  | .advance_time elapsed => (vc1.advance_time elapsed).2
  | .reset => vc1.reset

variable {sram : Nat → U8} {entries offset lines total : Nat}

/-- A table that decodes has lines, at most 255 for an entry. -/
theorem decode_lines_bounds (h : decode_lines sram entries offset lines = some total) :
    0 < total ∧ total ≤ lines + entries * 255 := by
  induction entries generalizing offset lines with
  | zero => cases h
  | succ entries ih =>
    unfold decode_lines at h
    split at h
    · cases h
    · split at h
      · obtain ⟨hlines, htotal⟩ := Option.ite_none_right_eq_some.mp h
        cases htotal
        exact ⟨hlines, Nat.le_add_right _ _⟩
      · have hcount := (sram offset).isLt
        obtain ⟨hpositive, hbound⟩ := ih h
        exact ⟨hpositive, by omega⟩

def MAX_TOTAL_LINES : Nat := MAX_FRAME_TABLE_ENTRIES * 255

theorem decode_frame_total_lines_bounds {table : Nat} (h : decode_frame_total_lines sram table = some total) :
    0 < total ∧ total ≤ MAX_TOTAL_LINES := by
  obtain ⟨hpositive, hbound⟩ := decode_lines_bounds h
  rw [Nat.zero_add] at hbound
  exact ⟨hpositive, hbound⟩

namespace Vc1

/-- The next software-visible timing boundary: the start of vertical blanking, or
the end of the frame. -/
def time_until_event (vc1 : Vc1) : Option Nat :=
  if vc1.signal_state = .NoSignal then none
  else
    let blanking_start := min DISPLAY_HEIGHT vc1.total_lines * LINE_PERIOD_ATTOSECONDS
    let next := if vc1.frame_elapsed < blanking_start then blanking_start else vc1.frame_period_attoseconds
    some (next - vc1.frame_elapsed)

def run (vc1 : Vc1) (operations : List Operation) : Vc1 := operations.foldl Operation.apply vc1

/-- The scan lies inside the frame, which has lines but not too many. -/
structure Timed (vc1 : Vc1) : Prop where
  phase : vc1.frame_elapsed < vc1.frame_period_attoseconds
  lines : vc1.total_lines ≤ MAX_TOTAL_LINES

variable {vc1 next : Vc1} {elapsed : Nat}

theorem Timed.total_lines_pos (h : vc1.Timed) : 0 < vc1.total_lines :=
  Nat.pos_of_mul_pos_right (Nat.zero_lt_of_lt h.phase)

theorem Timed.period_pos (h : vc1.Timed) : 0 < vc1.frame_period_attoseconds := Nat.zero_lt_of_lt h.phase

theorem timed_new : new.Timed := ⟨by decide, by decide⟩

/-- Where the timing is untouched, it stays as it is. -/
theorem Timed.of_same (h : vc1.Timed) (hphase : next.frame_elapsed = vc1.frame_elapsed)
    (hlines : next.total_lines = vc1.total_lines) : next.Timed := by
  obtain ⟨hbelow, hbound⟩ := h
  unfold frame_period_attoseconds at hbelow
  constructor
  · rwa [frame_period_attoseconds, hphase, hlines]
  · rwa [hlines]

/-- A table that is decoded brings the scan back into its frame. -/
theorem Timed.reload (h : vc1.Timed) : vc1.reload_frame_total_lines.Timed := by
  unfold reload_frame_total_lines
  dsimp only
  split
  · exact h
  · case h_2 lines hlines =>
    obtain ⟨hpositive, hbound⟩ := decode_frame_total_lines_bounds hlines
    have hline : 0 < LINE_PERIOD_ATTOSECONDS := by decide
    exact ⟨Nat.mod_lt _ (Nat.mul_pos hpositive hline), hbound⟩

theorem Timed.write (h : vc1.Timed) (selector : Selector) (value : U8) : (vc1.write selector value).2.Timed := by
  cases selector with
  | Control =>
    apply Timed.reload
    exact h.of_same rfl rfl
  | Sram =>
    apply Timed.reload
    exact h.of_same rfl rfl
  | AddressLow => exact h.of_same rfl rfl
  | AddressHigh => exact h.of_same rfl rfl
  | SystemControl => exact h.of_same rfl rfl
  | XmapMode => exact h.of_same rfl rfl
  | Test => exact h.of_same rfl rfl

theorem Timed.read (h : vc1.Timed) (selector : Selector) : (vc1.read selector).2.Timed := by
  cases selector <;> exact h.of_same rfl rfl

theorem Timed.advance_time (h : vc1.Timed) (elapsed : Nat) : (vc1.advance_time elapsed).2.Timed := by
  unfold Vc1.advance_time
  split
  · exact h
  · exact ⟨Nat.mod_lt _ h.period_pos, h.lines⟩

theorem Timed.apply (h : vc1.Timed) (operation : Operation) : (operation.apply vc1).Timed := by
  cases operation with
  | write selector value => exact h.write selector value
  | read selector => exact h.read selector
  | advance_time elapsed => exact h.advance_time elapsed
  | reset => exact timed_new

theorem Timed.run (h : vc1.Timed) (operations : List Operation) : (vc1.run operations).Timed := by
  induction operations generalizing vc1 with
  | nil => exact h
  | cons operation rest ih => exact ih (h.apply operation)

/-! ## Time in pieces -/

/-- One tick for every frame that is completed. -/
def Timed.frames (h : vc1.Timed) : Divider :=
  { numerator := 1, denominator := vc1.frame_period_attoseconds, numerator_pos := Nat.one_pos, denominator_pos := h.period_pos }

/-- The frames of two pieces, and where in a frame the second ends. -/
theorem Timed.frames_add (h : vc1.Timed) (first second : Nat) :
    (vc1.frame_elapsed + (first + second)) / vc1.frame_period_attoseconds =
        (vc1.frame_elapsed + first) / vc1.frame_period_attoseconds +
          ((vc1.frame_elapsed + first) % vc1.frame_period_attoseconds + second) / vc1.frame_period_attoseconds ∧
      (vc1.frame_elapsed + (first + second)) % vc1.frame_period_attoseconds =
        ((vc1.frame_elapsed + first) % vc1.frame_period_attoseconds + second) % vc1.frame_period_attoseconds := by
  have hticks := h.frames.ticks_add vc1.frame_elapsed first second
  have hcarried := h.frames.carried_add vc1.frame_elapsed first second
  simp only [Divider.ticks, Divider.carried, Timed.frames, Nat.mul_one] at hticks hcarried
  exact ⟨hticks, hcarried⟩

theorem advance_time_silent (h : vc1.signal_state = .NoSignal) (elapsed : Nat) : vc1.advance_time elapsed = (0, vc1) :=
  if_pos h

/-- The controller with its scan elsewhere and some frames later. -/
def scanned (phase frames : Nat) (vc1 : Vc1) : Vc1 :=
  { vc1 with frame_elapsed := phase, frame_counter := vc1.frame_counter + BitVec.ofNat 16 frames }

theorem scanned_scanned (phase frames last more : Nat) (vc1 : Vc1) :
    (vc1.scanned phase frames).scanned last more = vc1.scanned last (frames + more) := by
  have hcounter : vc1.frame_counter + BitVec.ofNat 16 frames + BitVec.ofNat 16 more =
      vc1.frame_counter + BitVec.ofNat 16 (frames + more) := by
    rw [BitVec.ofNat_add, BitVec.add_assoc]
  unfold scanned
  dsimp only
  rw [hcounter]

/-- The frames that time completes, saturated as they are returned. -/
theorem advance_time_signal (h : vc1.signal_state ≠ .NoSignal) (elapsed : Nat) :
    vc1.advance_time elapsed =
      (min ((vc1.frame_elapsed + elapsed) / vc1.frame_period_attoseconds) 0xffffffff,
        vc1.scanned ((vc1.frame_elapsed + elapsed) % vc1.frame_period_attoseconds)
          (min ((vc1.frame_elapsed + elapsed) / vc1.frame_period_attoseconds) 0xffffffff)) :=
  if_neg h

theorem advance_time_scanned (h : vc1.signal_state ≠ .NoSignal) (phase frames elapsed : Nat) :
    (vc1.scanned phase frames).advance_time elapsed =
      (min ((phase + elapsed) / vc1.frame_period_attoseconds) 0xffffffff,
        (vc1.scanned phase frames).scanned ((phase + elapsed) % vc1.frame_period_attoseconds)
          (min ((phase + elapsed) / vc1.frame_period_attoseconds) 0xffffffff)) :=
  if_neg h

/-- Time in two pieces is the time in one, as far as the `u128` sum with the phase goes and
but for frames past what the count can hold. -/
structure Additive (vc1 : Vc1) (first second : Nat) : Prop where
  completed : vc1.frame_elapsed + (first + second) < 2 ^ 128 →
    (vc1.advance_time (first + second)).1 =
      min ((vc1.advance_time first).1 + ((vc1.advance_time first).2.advance_time second).1) 0xffffffff
  phase : vc1.frame_elapsed + (first + second) < 2 ^ 128 →
    (vc1.advance_time (first + second)).2.frame_elapsed =
      ((vc1.advance_time first).2.advance_time second).2.frame_elapsed
  counted : (vc1.frame_elapsed + (first + second)) / vc1.frame_period_attoseconds ≤ 0xffffffff →
    vc1.frame_elapsed + (first + second) < 2 ^ 128 ∧
      vc1.advance_time (first + second) =
        ((vc1.advance_time first).1 + ((vc1.advance_time first).2.advance_time second).1,
          ((vc1.advance_time first).2.advance_time second).2)

/-- As long as the frames can be counted, the time can be told. -/
theorem Timed.elapsed_lt (h : vc1.Timed) (hcount : elapsed / vc1.frame_period_attoseconds ≤ 0xffffffff) :
    elapsed < 2 ^ 128 := by
  have hperiod : vc1.frame_period_attoseconds ≤ MAX_TOTAL_LINES * LINE_PERIOD_ATTOSECONDS := Nat.mul_le_mul_right _ h.lines
  have hbelow : elapsed < vc1.frame_period_attoseconds * (elapsed / vc1.frame_period_attoseconds + 1) :=
    Nat.lt_mul_div_succ elapsed h.period_pos
  calc elapsed < vc1.frame_period_attoseconds * (elapsed / vc1.frame_period_attoseconds + 1) := hbelow
    _ ≤ MAX_TOTAL_LINES * LINE_PERIOD_ATTOSECONDS * 2 ^ 32 := Nat.mul_le_mul hperiod (Nat.succ_le_succ hcount)
    _ < 2 ^ 128 := by decide +kernel

theorem saturated_add (first second bound : Nat) :
    min (first + second) bound = min (min first bound + min second bound) bound := by omega

theorem counted_add {first second bound : Nat} (h : first + second ≤ bound) :
    min (first + second) bound = min first bound + min second bound := by omega

theorem additive (h : vc1.Timed) (first second : Nat) : vc1.Additive first second := by
  by_cases hsignal : vc1.signal_state = .NoSignal
  · have hsame := vc1.advance_time_silent hsignal
    refine ⟨fun _ => ?_, fun _ => ?_, fun hcount => ⟨h.elapsed_lt hcount, ?_⟩⟩
    · rw [hsame, hsame, hsame]
      rfl
    · rw [hsame, hsame, hsame]
    · rw [hsame, hsame, hsame]
      rfl
  · obtain ⟨hticks, hcarried⟩ := h.frames_add first second
    have hsecond := advance_time_scanned hsignal ((vc1.frame_elapsed + first) % vc1.frame_period_attoseconds)
      (min ((vc1.frame_elapsed + first) / vc1.frame_period_attoseconds) 0xffffffff) second
    rw [scanned_scanned] at hsecond
    constructor
    case completed =>
      intro _
      rw [advance_time_signal hsignal, advance_time_signal hsignal, hsecond, hticks]
      exact saturated_add _ _ _
    case phase =>
      intro _
      rw [advance_time_signal hsignal, advance_time_signal hsignal, hsecond]
      exact hcarried
    case counted =>
      intro hcount
      have hbound := h.elapsed_lt hcount
      rw [hticks] at hcount
      refine ⟨hbound, ?_⟩
      rw [advance_time_signal hsignal, advance_time_signal hsignal, hsecond, hticks, hcarried, counted_add hcount]

/-! ## The next boundary -/

theorem in_vertical_blanking_iff (vc1 : Vc1) :
    vc1.in_vertical_blanking = true ↔
      DISPLAY_HEIGHT * LINE_PERIOD_ATTOSECONDS ≤ vc1.frame_elapsed ∧ DISPLAY_HEIGHT < vc1.total_lines := by
  have hline : 0 < LINE_PERIOD_ATTOSECONDS := by decide
  have hheight : 0 < DISPLAY_HEIGHT := by decide
  unfold in_vertical_blanking current_line
  rw [decide_eq_true_iff, Nat.le_min, Nat.le_div_iff_mul_le hline]
  refine and_congr_right fun _ => ?_
  omega

/-- Inside a frame, time only moves the scan. -/
theorem advance_time_inside (h : vc1.signal_state ≠ .NoSignal)
    (hinside : vc1.frame_elapsed + elapsed < vc1.frame_period_attoseconds) :
    vc1.advance_time elapsed = (0, vc1.scanned (vc1.frame_elapsed + elapsed) 0) := by
  rw [advance_time_signal h, Nat.div_eq_of_lt hinside, Nat.mod_eq_of_lt hinside, Nat.zero_min]

/-- The next boundary is announced exactly: until then no frame is completed and the
blanking stays as it is, and then one of the two changes. -/
structure Announces (vc1 : Vc1) (next : Nat) : Prop where
  positive : 0 < next
  quiet : ∀ elapsed, elapsed < next →
    (vc1.advance_time elapsed).1 = 0 ∧ (vc1.advance_time elapsed).2.in_vertical_blanking = vc1.in_vertical_blanking
  changes : (vc1.advance_time next).1 ≠ 0 ∨ (vc1.advance_time next).2.in_vertical_blanking ≠ vc1.in_vertical_blanking
  frame_end : vc1.total_lines ≤ DISPLAY_HEIGHT → next = vc1.frame_period_attoseconds - vc1.frame_elapsed

/-- The boundary is the end of the frame, with the blanking unchanged before it. -/
theorem announces_frame_end (h : vc1.Timed) (hsignal : vc1.signal_state ≠ .NoSignal)
    (hblanking : ∀ elapsed, vc1.frame_elapsed + elapsed < vc1.frame_period_attoseconds →
      (vc1.scanned (vc1.frame_elapsed + elapsed) 0).in_vertical_blanking = vc1.in_vertical_blanking) :
    vc1.Announces (vc1.frame_period_attoseconds - vc1.frame_elapsed) := by
  have hphase := h.phase
  constructor
  case positive => exact Nat.sub_pos_of_lt hphase
  case quiet =>
    intro elapsed hbefore
    have hinside : vc1.frame_elapsed + elapsed < vc1.frame_period_attoseconds := Nat.add_lt_of_lt_sub' hbefore
    rw [advance_time_inside hsignal hinside]
    exact ⟨rfl, hblanking elapsed hinside⟩
  case changes =>
    apply Or.inl
    rw [advance_time_signal hsignal, Nat.add_sub_cancel' (Nat.le_of_lt hphase), Nat.div_self h.period_pos]
    nofun
  case frame_end => exact fun _ => rfl

/-- The boundary is the first blanked line. -/
theorem announces_blanking (hsignal : vc1.signal_state ≠ .NoSignal) (hlines : DISPLAY_HEIGHT < vc1.total_lines)
    (hbefore : vc1.frame_elapsed < DISPLAY_HEIGHT * LINE_PERIOD_ATTOSECONDS) :
    vc1.Announces (DISPLAY_HEIGHT * LINE_PERIOD_ATTOSECONDS - vc1.frame_elapsed) := by
  have hline : 0 < LINE_PERIOD_ATTOSECONDS := by decide
  have hinside : DISPLAY_HEIGHT * LINE_PERIOD_ATTOSECONDS < vc1.frame_period_attoseconds :=
    Nat.mul_lt_mul_of_pos_right hlines hline
  have hdisplayed : ∀ state : Vc1, state.frame_elapsed < DISPLAY_HEIGHT * LINE_PERIOD_ATTOSECONDS →
      state.in_vertical_blanking = false := by
    intro state hphase
    rw [Bool.eq_false_iff, Ne, in_vertical_blanking_iff]
    exact fun h => Nat.not_le.mpr hphase h.1
  constructor
  case positive => exact Nat.sub_pos_of_lt hbefore
  case quiet =>
    intro elapsed hshort
    have hphase : vc1.frame_elapsed + elapsed < DISPLAY_HEIGHT * LINE_PERIOD_ATTOSECONDS := Nat.add_lt_of_lt_sub' hshort
    rw [advance_time_inside hsignal (Nat.lt_trans hphase hinside), hdisplayed vc1 hbefore]
    exact ⟨rfl, hdisplayed _ hphase⟩
  case changes =>
    apply Or.inr
    have hreached := Nat.add_sub_cancel' (Nat.le_of_lt hbefore)
    have hblanked : (vc1.scanned (DISPLAY_HEIGHT * LINE_PERIOD_ATTOSECONDS) 0).in_vertical_blanking = true :=
      (in_vertical_blanking_iff _).mpr ⟨Nat.le_refl _, hlines⟩
    rw [advance_time_inside hsignal (Nat.lt_of_le_of_lt (Nat.le_of_eq hreached) hinside), hreached, hdisplayed vc1 hbefore, hblanked]
    nofun
  case frame_end => exact fun hfew => absurd hfew (Nat.not_le.mpr hlines)

theorem announces (h : vc1.Timed) {next : Nat} (hnext : vc1.time_until_event = some next) : vc1.Announces next := by
  unfold time_until_event at hnext
  split at hnext
  · cases hnext
  · case isFalse hsignal =>
    have hphase := h.phase
    by_cases hlines : DISPLAY_HEIGHT < vc1.total_lines
    · rw [Nat.min_eq_left (Nat.le_of_lt hlines)] at hnext
      dsimp only at hnext
      split at hnext
      · case isTrue hbefore =>
        cases hnext
        exact announces_blanking hsignal hlines hbefore
      · case isFalse hafter =>
        cases hnext
        refine announces_frame_end h hsignal fun elapsed _ => ?_
        have hreached := Nat.le_of_not_lt hafter
        have hblanked := (in_vertical_blanking_iff vc1).mpr ⟨hreached, hlines⟩
        rw [hblanked]
        exact (in_vertical_blanking_iff _).mpr ⟨Nat.le_add_right_of_le hreached, hlines⟩
    · -- Without lines below the display the scan is never blanked.
      rw [Nat.min_eq_right (Nat.le_of_not_lt hlines)] at hnext
      dsimp only at hnext
      have hwithin : vc1.frame_elapsed < vc1.total_lines * LINE_PERIOD_ATTOSECONDS := hphase
      rw [if_pos hwithin] at hnext
      cases hnext
      refine announces_frame_end h hsignal fun elapsed _ => ?_
      have hdisplayed : ∀ state : Vc1, state.total_lines = vc1.total_lines → state.in_vertical_blanking = false := by
        intro state hsame
        rw [Bool.eq_false_iff, Ne, in_vertical_blanking_iff, hsame]
        exact fun h => hlines h.2
      rw [hdisplayed vc1 rfl]
      exact hdisplayed _ rfl

theorem time_until_event_none : vc1.time_until_event = none ↔ vc1.signal_state = .NoSignal := by
  unfold time_until_event
  split
  · case isTrue hsilent => exact iff_of_true rfl hsilent
  · case isFalse hsignal => exact iff_of_false nofun hsignal

/-! ## Every run -/

/-- The timing of a controller: the scan inside its frame, time additive as far as
frames can be counted, and the next boundary announced exactly. -/
structure KeepsTime (vc1 : Vc1) : Prop where
  phase : vc1.frame_elapsed < vc1.frame_period_attoseconds
  lines : 0 < vc1.total_lines
  additive : ∀ first second, vc1.Additive first second
  announces : ∀ next, vc1.time_until_event = some next → vc1.Announces next
  silent : vc1.time_until_event = none → ∀ elapsed, vc1.advance_time elapsed = (0, vc1)

theorem keeps_time (operations : List Operation) : (new.run operations).KeepsTime := by
  have h := timed_new.run operations
  constructor
  case phase => exact h.phase
  case lines => exact h.total_lines_pos
  case additive => exact additive h
  case announces => exact fun _ hnext => announces h hnext
  case silent => exact fun hnone => advance_time_silent (time_until_event_none.mp hnone)

/-- One frame past what the count can hold is lost. -/
theorem frames_past_the_count :
    ¬ ∀ operations first second,
      let vc1 := new.run operations
      let split := (vc1.advance_time first).2.advance_time second
      (vc1.advance_time (first + second)).1 = (vc1.advance_time first).1 + split.1 ∧
        (vc1.advance_time (first + second)).2.frame_counter = split.2.frame_counter ∧
        (vc1.advance_time (first + second)).2.frame_elapsed = split.2.frame_elapsed := by
  intro h
  have hframes := (h [.write .SystemControl SYS_CTRL_VC1] (0xffffffff * (DISPLAY_HEIGHT * LINE_PERIOD_ATTOSECONDS))
    (DISPLAY_HEIGHT * LINE_PERIOD_ATTOSECONDS)).1
  revert hframes
  decide +kernel

end Vc1

end se_device.lg1.vc1
