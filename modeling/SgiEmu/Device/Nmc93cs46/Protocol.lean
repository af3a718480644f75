import SgiEmu.Device.Nmc93cs46.Frame

open se_core

namespace se_device.nmc93cs46

/-! ## The device after a frame -/

/-- The transfer a frame leaves open. -/
def transfer_of (words : Vector U16 WORD_COUNT) (frame : List Bool) : Transfer :=
  if frame.length < COMMAND_BITS then .Command (word frame) frame.length
  else if operation frame = READ then
    if frame.length < COMMAND_BITS + DATA_BITS then .Read (words.get (address frame)) (frame.length - COMMAND_BITS)
    else .Ignore
  else if operation frame = WRITE then
    if frame.length < COMMAND_BITS + DATA_BITS then
      .Write (address frame) (word (payload frame)) (frame.length - COMMAND_BITS)
    else .Ignore
  else .Ignore

/-- The bit a read frame has just shifted out. -/
def ReadsBit (frame : List Bool) (i : Nat) : Prop :=
  operation frame = READ ∧ i < DATA_BITS ∧ frame.length = COMMAND_BITS + i + 1

/-- A device in step with the observer of its pins. -/
structure Follows (contents : Nmc93cs46Contents) (device : Nmc93cs46) (observer : Observer) : Prop where
  clock : device.clock = observer.clock
  enabled : device.write_enabled = observer.enabled
  words : ∀ address, device.words.get address = last_stored contents address observer.writes
  transfer : device.transfer = transfer_of device.words observer.frame
  selected : device.chip_select = false → observer.frame = []
  output : ∀ i, ReadsBit observer.frame i →
    device.data_out = (device.words.get (address observer.frame)).getLsbD (DATA_BITS - 1 - i)

theorem ReadsBit.ne_nil {frame : List Bool} {i : Nat} (h : ReadsBit frame i) : frame ≠ [] := by
  rintro rfl
  have hlength := h.2.2
  simp at hlength

/-! ## Longer frames -/

section Longer

variable {frame : List Bool} {bit : Bool}

theorem operation_append (hlong : COMMAND_BITS ≤ frame.length) : operation (frame ++ [bit]) = operation frame := by
  have hfive : 5 ≤ frame.length := Nat.le_trans (by decide) hlong
  exact List.take_append_of_le_length hfive

theorem address_append (hlong : COMMAND_BITS ≤ frame.length) : address (frame ++ [bit]) = address frame := by
  have hbits : COMMAND_BITS = 11 := rfl
  have hfive : 5 ≤ frame.length := by omega
  have hsix : 6 ≤ (frame.drop 5).length := by
    rw [List.length_drop]
    omega
  have hsame : ((frame ++ [bit]).drop 5).take 6 = (frame.drop 5).take 6 := by
    rw [List.drop_append_of_le_length hfive, List.take_append_of_le_length hsix]
  simp only [address, hsame]

theorem payload_append (hlong : COMMAND_BITS ≤ frame.length) : payload (frame ++ [bit]) = payload frame ++ [bit] :=
  List.drop_append_of_le_length hlong

theorem length_payload (frame : List Bool) : (payload frame).length = frame.length - COMMAND_BITS := List.length_drop

/-- Only a whole frame writes. -/
theorem written_eq_none (h : operation frame ≠ WRITE ∨ frame.length ≠ COMMAND_BITS + DATA_BITS) : written frame = none := by
  apply if_neg
  rintro ⟨hwrite, hlength⟩
  exact h.elim (fun hne => hne hwrite) (fun hne => hne hlength)

theorem ne_enable (h : frame.length ≠ COMMAND_BITS) : frame ≠ WRITE_ENABLE ∧ frame ≠ WRITE_DISABLE := by
  constructor
  · rintro rfl
    exact h rfl
  · rintro rfl
    exact h rfl

end Longer

/-! ## One edge -/

section Edge

variable {contents : Nmc93cs46Contents} {device next : Nmc93cs46} {observer : Observer} {data_in : Bool}

/-- A bit that neither completes a write nor switches writes leaves the words alone. -/
theorem Follows.of_frame (h : Follows contents device observer)
    (hsame : next.clock = device.clock ∧ next.write_enabled = device.write_enabled ∧ next.words = device.words ∧
      next.chip_select = device.chip_select)
    (hselected : device.chip_select = true)
    (hswitch : observer.clocked data_in ≠ WRITE_ENABLE ∧ observer.clocked data_in ≠ WRITE_DISABLE)
    (hwritten : written (observer.clocked data_in) = none)
    (htransfer : next.transfer = transfer_of device.words (observer.clocked data_in))
    (houtput : ∀ i, ReadsBit (observer.clocked data_in) i →
      next.data_out = (device.words.get (address (observer.clocked data_in))).getLsbD (DATA_BITS - 1 - i)) :
    Follows contents next (observer.edge data_in) := by
  obtain ⟨hclock, henabled, hwords, hselect⟩ := hsame
  refine ⟨hclock.trans h.clock, ?_, fun address => ?_, ?_, fun hoff => ?_, ?_⟩
  · simp only [Observer.edge, if_neg hswitch.1, if_neg hswitch.2]
    exact henabled.trans h.enabled
  · simp only [Observer.edge, hwritten, hwords]
    exact h.words address
  · rw [hwords]
    exact htransfer
  · rw [hselect, hselected] at hoff
    exact absurd hoff (by simp)
  · rw [hwords]
    exact houtput

/-- A bit of the command, or a zero before the start bit. -/
theorem Follows.command_bit (h : Follows contents device observer) (hselected : device.chip_select = true)
    (hshort : observer.frame.length + 1 < COMMAND_BITS) :
    Follows contents (device.clock_rising_edge data_in) (observer.edge data_in) := by
  have hlong : observer.frame.length < COMMAND_BITS := by omega
  have htransfer : device.transfer = .Command (word observer.frame) observer.frame.length := by
    rw [h.transfer, transfer_of, if_pos hlong]
  have hlength : (observer.clocked data_in).length < COMMAND_BITS := by
    unfold Observer.clocked
    split
    · simp [COMMAND_BITS]
    · simpa using hshort
  have hbits : COMMAND_BITS < COMMAND_BITS + DATA_BITS := by decide
  apply h.of_frame _ hselected (ne_enable (by omega)) (written_eq_none (Or.inr (by omega)))
  · unfold Nmc93cs46.clock_rising_edge
    rw [htransfer]
    unfold transfer_of
    rw [if_pos hlength]
    unfold Observer.clocked
    by_cases hzero : observer.frame = [] ∧ data_in = false
    · simp only [hzero, List.length_nil, and_self, if_true]
    · have hcount : ¬ (observer.frame.length = 0 ∧ data_in = false) := by rwa [List.length_eq_zero_iff]
      have hopen : observer.frame.length + 1 ≠ COMMAND_BITS := by omega
      simp only [if_neg hzero, if_neg hcount, if_neg hopen, word_append, List.length_append, List.length_cons,
        List.length_nil, Nat.zero_add]
  · rintro i ⟨-, -, hi⟩
    omega
  · unfold Nmc93cs46.clock_rising_edge
    rw [htransfer]
    dsimp only
    split
    · exact ⟨rfl, rfl, rfl, rfl⟩
    · rw [if_neg (by omega)]
      exact ⟨rfl, rfl, rfl, rfl⟩

/-- A whole command opens its transfer or switches writes. -/
theorem decode_command_eq {frame : List Bool} (hlength : frame.length = COMMAND_BITS) :
    device.decode_command (word frame) =
      { device with
        data_out := true
        transfer := transfer_of device.words frame
        write_enabled :=
          if frame = WRITE_ENABLE then true else if frame = WRITE_DISABLE then false else device.write_enabled } := by
  obtain ⟨hread, hwrite, henable, hdisable, haddress⟩ := command_bits hlength
  have hpayload : word (payload frame) = 0 := by
    rw [payload, List.drop_eq_nil_of_le (Nat.le_of_eq hlength)]
    rfl
  have hroom : COMMAND_BITS < COMMAND_BITS + DATA_BITS := by decide
  have hswitch (hoperation : operation frame = READ ∨ operation frame = WRITE) :
      frame ≠ WRITE_ENABLE ∧ frame ≠ WRITE_DISABLE := by
    constructor
    · rintro rfl
      exact absurd hoperation (by decide)
    · rintro rfl
      exact absurd hoperation (by decide)
  simp only [Nmc93cs46.decode_command, hread, hwrite, henable, hdisable, transfer_of, hlength, Nat.lt_irrefl, hroom,
    if_false, if_true, hpayload, Nat.sub_self, haddress]
  by_cases hisread : operation frame = READ
  · have hne := hswitch (Or.inl hisread)
    simp only [hisread, hne.1, hne.2, if_true, if_false]
  · by_cases hiswrite : operation frame = WRITE
    · have hne := hswitch (Or.inr hiswrite)
      have hother : WRITE ≠ READ := by decide
      simp only [hiswrite, hother, hne.1, hne.2, if_true, if_false]
    · simp only [hisread, hiswrite, if_false]
      split
      · rfl
      · split
        · rfl
        · rfl

/-- The last bit of the command. -/
theorem Follows.command_end (h : Follows contents device observer) (hselected : device.chip_select = true)
    (hlast : observer.frame.length + 1 = COMMAND_BITS) :
    Follows contents (device.clock_rising_edge data_in) (observer.edge data_in) := by
  have hstarted : observer.frame ≠ [] := by
    intro hnil
    rw [hnil] at hlast
    simp [COMMAND_BITS] at hlast
  have htransfer : device.transfer = .Command (word observer.frame) observer.frame.length := by
    rw [h.transfer, transfer_of, if_pos (by omega)]
  have hclocked : observer.clocked data_in = observer.frame ++ [data_in] := if_neg fun hzero => hstarted hzero.1
  have hlength : (observer.frame ++ [data_in]).length = COMMAND_BITS := by simpa using hlast
  have hcount : ¬ (observer.frame.length = 0 ∧ data_in = false) := by
    rw [List.length_eq_zero_iff]
    exact fun hzero => hstarted hzero.1
  have hdecoded : device.clock_rising_edge data_in = device.decode_command (word (observer.frame ++ [data_in])) := by
    simp only [Nmc93cs46.clock_rising_edge, htransfer, if_neg hcount, if_pos hlast, word_append]
  have hwritten : written (observer.frame ++ [data_in]) = none :=
    written_eq_none (Or.inr (by rw [hlength]; decide))
  rw [hdecoded, decode_command_eq hlength]
  refine ⟨h.clock, ?_, fun address => ?_, ?_, fun hoff => ?_, fun i hi => ?_⟩
  · simp only [Observer.edge, hclocked, h.enabled]
  · simp only [Observer.edge, hclocked, hwritten]
    exact h.words address
  · simp only [Observer.edge, hclocked]
  · exact absurd (hselected.symm.trans hoff) (by simp)
  · simp only [Observer.edge, hclocked] at hi
    obtain ⟨-, -, hi⟩ := hi
    omega

theorem mask_bit (value : U16) {i : Nat} (hi : i < DATA_BITS) : (value &&& ((1 : U16) <<< i) != 0) = value.getLsbD i := by
  have hone : (1 : U16) <<< i = BitVec.twoPow 16 i := rfl
  have hpower : BitVec.twoPow 16 i ≠ 0 := by
    intro hzero
    have hbit : (BitVec.twoPow 16 i).getLsbD i = true := by
      simpa [BitVec.getLsbD_twoPow, DATA_BITS] using hi
    rw [hzero] at hbit
    simp at hbit
  rw [hone, BitVec.and_twoPow]
  cases value.getLsbD i with
  | true => simpa using hpower
  | false => simp

section Payload

variable (h : Follows contents device observer) (hselected : device.chip_select = true)
  (hlong : COMMAND_BITS ≤ observer.frame.length)

include hlong

theorem clocked_long : observer.clocked data_in = observer.frame ++ [data_in] := by
  apply if_neg
  rintro ⟨hnil, -⟩
  rw [hnil] at hlong
  exact absurd hlong (by decide)

theorem clocked_long_ne :
    observer.clocked data_in ≠ WRITE_ENABLE ∧ observer.clocked data_in ≠ WRITE_DISABLE := by
  rw [clocked_long hlong]
  apply ne_enable
  rw [List.length_append, List.length_singleton]
  omega

include h hselected

theorem Follows.ignored_bit (hignored : device.transfer = .Ignore)
    (hstill : transfer_of device.words (observer.frame ++ [data_in]) = .Ignore)
    (hwritten : written (observer.frame ++ [data_in]) = none)
    (hnone : ∀ i, ¬ ReadsBit (observer.frame ++ [data_in]) i) :
    Follows contents (device.clock_rising_edge data_in) (observer.edge data_in) := by
  have hsame : device.clock_rising_edge data_in = device := by
    rw [Nmc93cs46.clock_rising_edge, hignored]
  have hclocked := @clocked_long observer data_in hlong
  rw [hsame]
  apply h.of_frame ⟨rfl, rfl, rfl, rfl⟩ hselected (clocked_long_ne hlong)
  · rw [hclocked]
    exact hwritten
  · rw [hclocked, hstill]
    exact hignored
  · rw [hclocked]
    exact fun i hi => absurd hi (hnone i)

theorem Follows.read_bit (hread : operation observer.frame = READ)
    (hroom : observer.frame.length < COMMAND_BITS + DATA_BITS) :
    Follows contents (device.clock_rising_edge data_in) (observer.edge data_in) := by
  have hclocked := @clocked_long observer data_in hlong
  have haddress : address (observer.frame ++ [data_in]) = address observer.frame := address_append hlong
  have hoperation : operation (observer.frame ++ [data_in]) = READ := (operation_append hlong).trans hread
  have hother : READ ≠ WRITE := by decide
  have hopen : device.transfer =
      .Read (device.words.get (address observer.frame)) (observer.frame.length - COMMAND_BITS) := by
    rw [h.transfer, transfer_of, if_neg (by omega), if_pos hread, if_pos hroom]
  have hedge : device.clock_rising_edge data_in =
      { device with
        data_out := (device.words.get (address observer.frame)).getLsbD
          (DATA_BITS - 1 - (observer.frame.length - COMMAND_BITS))
        transfer := transfer_of device.words (observer.frame ++ [data_in]) } := by
    have hindex : DATA_BITS - 1 - (observer.frame.length - COMMAND_BITS) < DATA_BITS := by
      have hbits : 0 < DATA_BITS := by decide
      omega
    simp only [Nmc93cs46.clock_rising_edge, hopen, mask_bit _ hindex, transfer_of, hoperation, if_true, haddress,
      List.length_append, List.length_singleton]
    rw [if_neg (show ¬ observer.frame.length + 1 < COMMAND_BITS by omega)]
    by_cases hlast : observer.frame.length - COMMAND_BITS + 1 = DATA_BITS
    · rw [if_pos hlast, if_neg (by omega)]
    · rw [if_neg hlast, if_pos (by omega), Nat.sub_add_comm hlong]
  rw [hedge]
  apply h.of_frame _ hselected (clocked_long_ne hlong)
  · rw [hclocked]
    exact written_eq_none (Or.inl (by rw [hoperation]; exact hother))
  · rw [hclocked]
  · rw [hclocked, haddress]
    rintro i ⟨-, -, hi⟩
    have hbit : observer.frame.length - COMMAND_BITS = i := by
      rw [List.length_append, List.length_singleton] at hi
      omega
    rw [hbit]
  · exact ⟨rfl, rfl, rfl, rfl⟩

theorem Follows.write_bit (hwrite : operation observer.frame = WRITE)
    (hroom : observer.frame.length < COMMAND_BITS + DATA_BITS) :
    Follows contents (device.clock_rising_edge data_in) (observer.edge data_in) := by
  have hclocked := @clocked_long observer data_in hlong
  have haddress : address (observer.frame ++ [data_in]) = address observer.frame := address_append hlong
  have hpayload : payload (observer.frame ++ [data_in]) = payload observer.frame ++ [data_in] := payload_append hlong
  have hoperation : operation (observer.frame ++ [data_in]) = WRITE := (operation_append hlong).trans hwrite
  have hother : WRITE ≠ READ := by decide
  have hnone (i : Nat) : ¬ ReadsBit (observer.frame ++ [data_in]) i := by
    rintro ⟨hread, -⟩
    exact hother (hoperation.symm.trans hread)
  have hlength : (observer.frame ++ [data_in]).length = observer.frame.length + 1 := by
    rw [List.length_append, List.length_singleton]
  have hopen : device.transfer =
      .Write (address observer.frame) (word (payload observer.frame)) (observer.frame.length - COMMAND_BITS) := by
    rw [h.transfer, transfer_of, if_neg (by omega), hwrite, if_neg hother, if_pos rfl, if_pos hroom]
  have htransfer_of (words : Vector U16 WORD_COUNT) : transfer_of words (observer.frame ++ [data_in]) =
      if observer.frame.length + 1 < COMMAND_BITS + DATA_BITS then
        .Write (address observer.frame) (word (payload observer.frame ++ [data_in]))
          (observer.frame.length + 1 - COMMAND_BITS)
      else .Ignore := by
    simp only [transfer_of, hlength, hoperation, hother, if_false, if_true, haddress, hpayload]
    rw [if_neg (show ¬ observer.frame.length + 1 < COMMAND_BITS by omega)]
  by_cases hlast : observer.frame.length - COMMAND_BITS + 1 = DATA_BITS
  · have hwritten : written (observer.frame ++ [data_in]) =
        some (address observer.frame, word (payload observer.frame ++ [data_in])) := by
      rw [written, if_pos ⟨hoperation, by omega⟩, haddress, hpayload]
    have hswitch := @clocked_long_ne observer data_in hlong
    have hedge : device.clock_rising_edge data_in =
        { device with
          words :=
            if device.write_enabled then
              device.words.set (address observer.frame) (word (payload observer.frame ++ [data_in]))
            else device.words
          transfer := .Ignore
          data_out := true } := by
      simp only [Nmc93cs46.clock_rising_edge, hopen, if_pos hlast, word_append]
    rw [hedge]
    refine ⟨h.clock, ?_, fun other => ?_, ?_, fun hoff => ?_, fun i hi => ?_⟩
    · simp only [Observer.edge, if_neg hswitch.1, if_neg hswitch.2]
      exact h.enabled
    · simp only [Observer.edge, hclocked, hwritten, h.enabled]
      cases observer.enabled with
      | false => exact h.words other
      | true =>
        have hget (words : Vector U16 WORD_COUNT) : words.get other = words[other.val] := rfl
        simp only [if_true, last_stored]
        rw [← h.words other, hget, hget, Vector.getElem_set]
        simp only [Fin.ext_iff]
    · simp only [Observer.edge, hclocked, htransfer_of]
      rw [if_neg (by omega)]
    · exact absurd (hselected.symm.trans hoff) (by simp)
    · simp only [Observer.edge, hclocked] at hi
      exact absurd hi (hnone i)
  · have hwritten : written (observer.frame ++ [data_in]) = none := written_eq_none (Or.inr (by omega))
    have hedge : device.clock_rising_edge data_in =
        { device with transfer := transfer_of device.words (observer.frame ++ [data_in]) } := by
      simp only [Nmc93cs46.clock_rising_edge, hopen, if_neg hlast, htransfer_of, word_append]
      rw [if_pos (by omega), Nat.sub_add_comm hlong]
    rw [hedge]
    apply h.of_frame _ hselected (clocked_long_ne hlong)
    · rw [hclocked]
      exact hwritten
    · rw [hclocked]
    · rw [hclocked]
      exact fun i hi => absurd hi (hnone i)
    · exact ⟨rfl, rfl, rfl, rfl⟩

/-- A bit after the command. -/
theorem Follows.payload_bit : Follows contents (device.clock_rising_edge data_in) (observer.edge data_in) := by
  have hlength : (observer.frame ++ [data_in]).length = observer.frame.length + 1 := by
    rw [List.length_append, List.length_singleton]
  have hoperation : operation (observer.frame ++ [data_in]) = operation observer.frame := operation_append hlong
  by_cases hroom : observer.frame.length < COMMAND_BITS + DATA_BITS
  · by_cases hread : operation observer.frame = READ
    · exact h.read_bit hselected hlong hread hroom
    · by_cases hwrite : operation observer.frame = WRITE
      · exact h.write_bit hselected hlong hwrite hroom
      · apply h.ignored_bit hselected hlong
        · rw [h.transfer, transfer_of, if_neg (by omega), if_neg hread, if_neg hwrite]
        · rw [transfer_of, if_neg (by omega), hoperation, if_neg hread, if_neg hwrite]
        · exact written_eq_none (Or.inl (by rwa [hoperation]))
        · rintro i ⟨hisread, -⟩
          exact hread (hoperation.symm.trans hisread)
  · have hover (words : Vector U16 WORD_COUNT) (frame : List Bool) (hframe : COMMAND_BITS + DATA_BITS ≤ frame.length) :
        transfer_of words frame = .Ignore := by
      rw [transfer_of, if_neg (by omega)]
      split
      · rw [if_neg (by omega)]
      · split
        · rw [if_neg (by omega)]
        · rfl
    apply h.ignored_bit hselected hlong
    · rw [h.transfer, hover _ _ (by omega)]
    · exact hover _ _ (by omega)
    · exact written_eq_none (Or.inr (by omega))
    · rintro i ⟨-, hi, hframe⟩
      omega

end Payload

theorem Follows.rising_edge (h : Follows contents device observer) (hselected : device.chip_select = true) :
    Follows contents (device.clock_rising_edge data_in) (observer.edge data_in) := by
  by_cases hlong : COMMAND_BITS ≤ observer.frame.length
  · exact h.payload_bit hselected hlong
  · by_cases hlast : observer.frame.length + 1 = COMMAND_BITS
    · exact h.command_end hselected hlast
    · exact h.command_bit hselected (by omega)

end Edge

/-! ## Traces of the pins -/

section Traces

variable {contents : Nmc93cs46Contents} {device : Nmc93cs46} {observer : Observer}

theorem Follows.initial (device : Nmc93cs46) (contents : Nmc93cs46Contents) :
    Follows contents (device.restore_contents contents) (observed []) where
  clock := rfl
  enabled := rfl
  words _ := rfl
  transfer := rfl
  selected _ := rfl
  output _ h := absurd rfl h.ne_nil

/-- An erased EEPROM is one restored with its own contents. -/
example : Nmc93cs46.new.restore_contents Nmc93cs46.new.contents = Nmc93cs46.new := rfl

/-- Chip select starts a frame afresh. -/
theorem Follows.select (h : Follows contents device observer) (hselected : device.chip_select = false) :
    Follows contents { device with transfer := .Command 0 0, data_out := true } observer := by
  have hframe := h.selected hselected
  refine ⟨h.clock, h.enabled, h.words, ?_, h.selected, fun i hi => absurd hframe hi.ne_nil⟩
  rw [hframe]
  rfl

theorem Follows.drive_pins (h : Follows contents device observer) (pins : Pins) :
    Follows contents (device.drive_pins pins) (observer.after pins) := by
  by_cases hon : pins.chip_select = true
  · have hselected : Follows contents
        (if device.chip_select = false then { device with transfer := .Command 0 0, data_out := true } else device)
        observer := by
      split
      case isTrue hselect => exact h.select hselect
      case isFalse => exact h
    have hdrive : device.drive_pins pins =
        let selected :=
          if device.chip_select = false then { device with transfer := .Command 0 0, data_out := true } else device
        let driven := { selected with chip_select := true, clock := pins.clock }
        if !selected.clock && pins.clock then driven.clock_rising_edge pins.data_in else driven := by
      simp [Nmc93cs46.drive_pins, hon]
    have hafter : observer.after pins =
        if !observer.clock && pins.clock then { observer with clock := pins.clock }.edge pins.data_in
        else { observer with clock := pins.clock } := by
      simp only [Observer.after, Observer.rises, hon, Bool.not_true, Bool.false_eq_true, if_false, Bool.true_and]
      rfl
    rw [hdrive, hafter]
    generalize (if device.chip_select = false then { device with transfer := .Command 0 0, data_out := true }
      else device) = selected at hselected ⊢
    have hdriven : Follows contents { selected with chip_select := true, clock := pins.clock }
        { observer with clock := pins.clock } :=
      ⟨rfl, hselected.enabled, hselected.words, hselected.transfer, fun hoff => by simp at hoff, hselected.output⟩
    simp only [hselected.clock]
    split
    · exact hdriven.rising_edge rfl
    · exact hdriven
  · have hoff : pins.chip_select = false := by simpa using hon
    simp only [Nmc93cs46.drive_pins, Observer.after, hoff, Bool.not_false, if_true]
    exact ⟨rfl, h.enabled, h.words, rfl, fun _ => rfl, fun _ hi => absurd rfl hi.ne_nil⟩

theorem observed_append (history : List Pins) (pins : Pins) : observed (history ++ [pins]) = (observed history).after pins := by
  simp only [observed, List.foldl_append, List.foldl_cons, List.foldl_nil]

/-- The device is in step with the observer after every history. -/
theorem Follows.drive_all (device : Nmc93cs46) (contents : Nmc93cs46Contents) (history : List Pins) :
    Follows contents ((device.restore_contents contents).drive_all history) (observed history) := by
  induction history using List.reverseRecOn with
  | nil => exact .initial device contents
  | append_singleton history pins ih =>
    rw [observed_append, Nmc93cs46.drive_all, List.foldl_append]
    exact ih.drive_pins pins

end Traces

/-! ## Words written and read -/

theorem writes_of_completed {observer : Observer} {pins : Pins} {address : Fin WORD_COUNT} {value : U16}
    (h : observer.CompletesWrite pins address value) :
    (observer.after pins).writes = (address, value) :: observer.writes := by
  obtain ⟨hrises, henabled, hwritten⟩ := h
  have hselect : pins.chip_select = true := by
    simp only [Observer.rises, Bool.and_eq_true] at hrises
    exact hrises.1
  simp [Observer.after, hselect, hrises, Observer.edge, hwritten, henabled]

theorem writes_of_not_completed {observer : Observer} {pins : Pins}
    (h : ∀ address value, ¬ observer.CompletesWrite pins address value) :
    (observer.after pins).writes = observer.writes := by
  unfold Observer.after
  split
  · rfl
  · split
    case isTrue hrises =>
      simp only [Observer.edge]
      split
      case h_1 write hwritten =>
        split
        case isTrue henabled => exact absurd ⟨hrises, henabled, hwritten⟩ (h write.1 write.2)
        case isFalse => rfl
      case h_2 => rfl
    case isFalse => rfl

/-- Over every trace of the pins a word changes only on the edge that completes a
write frame with writes enabled, to the data bits of that frame and no other word
with it; and a read frame shifts out the word last stored at its address. -/
theorem trace_writes_and_reads (before : Nmc93cs46) (contents : Nmc93cs46Contents) (history : List Pins) (pins : Pins) :
    let device := (before.restore_contents contents).drive_all history
    let next := device.drive_pins pins
    let observer := observed history
    let frame := observer.clocked pins.data_in
    (∀ changed, next.words.get changed ≠ device.words.get changed →
      ∃ value, observer.CompletesWrite pins changed value) ∧
    (∀ written value, observer.CompletesWrite pins written value →
      written = address frame ∧ (payload frame).length = DATA_BITS ∧
      (∀ i (hi : i < (payload frame).length), (next.words.get written).getLsbD (DATA_BITS - 1 - i) = (payload frame)[i]) ∧
      ∀ other, other ≠ written → next.words.get other = device.words.get other) ∧
    (∀ i, ReadsBit (observer.after pins).frame i →
      next.data_out_pin =
        (last_stored contents (address (observer.after pins).frame) (observer.after pins).writes).getLsbD
          (DATA_BITS - 1 - i)) ∧
    next.write_enabled = (observer.after pins).enabled := by
  intro device next observer frame
  have hdevice : Follows contents device observer := .drive_all before contents history
  have hnext : Follows contents next (observer.after pins) := hdevice.drive_pins pins
  refine ⟨fun changed hchanged => ?_, fun target value hcompletes => ?_, fun i hi => ?_, hnext.enabled⟩
  · by_contra hnone
    rw [hnext.words, hdevice.words] at hchanged
    by_cases hany : ∃ target value, observer.CompletesWrite pins target value
    · obtain ⟨target, value, hcompletes⟩ := hany
      rw [writes_of_completed hcompletes, last_stored] at hchanged
      by_cases hsame : target = changed
      · exact hnone ⟨value, hsame ▸ hcompletes⟩
      · exact hchanged (if_neg hsame)
    · rw [writes_of_not_completed fun target value hcompletes => hany ⟨target, value, hcompletes⟩] at hchanged
      exact hchanged rfl
  · have hwrites := writes_of_completed hcompletes
    have hwritten := hcompletes.2.2
    unfold written at hwritten
    split at hwritten
    case isFalse => simp at hwritten
    case isTrue hframe =>
      obtain ⟨rfl, rfl⟩ := Prod.mk.inj (Option.some.inj hwritten)
      have hlength : (payload frame).length = DATA_BITS := by
        rw [length_payload, hframe.2, Nat.add_sub_cancel_left]
      refine ⟨rfl, hlength, fun i hi => ?_, fun other hother => ?_⟩
      · rw [hnext.words, hwrites, last_stored, if_pos rfl]
        exact word_bit (payload frame) hlength i hi
      · rw [hnext.words, hwrites, last_stored, if_neg (Ne.symm hother), hdevice.words]
  · have hselected : next.chip_select = true := by
      by_contra hoff
      exact hi.ne_nil (hnext.selected (by simpa using hoff))
    rw [Nmc93cs46.data_out_pin, hselected, Bool.true_and, hnext.output i hi, hnext.words]

end se_device.nmc93cs46
