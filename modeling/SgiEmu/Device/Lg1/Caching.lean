import SgiEmu.Device.Lg1

open se_core se_core.bus se_device.lg1.bt479 se_device.lg1.display se_device.lg1.rex1
open se_device.lg1.vc1 se_device.lg1.vram

namespace se_device.lg1.Lg1

/-- What the machine and the guest do to a board; `checks` is whether the build
panics on arithmetic overflow, and a panicking operation leads nowhere. -/
inductive Step (checks : Bool) : Lg1 → Lg1 → Prop where
  | reset (board : Lg1) : Step checks board board.reset
  | take_display_update (board : Lg1) : Step checks board board.take_display_update.2
  | advance_time (elapsed : Nat) (board : Lg1) : Step checks board (board.advance_time elapsed)
  | read {address : U64} {length : Nat} {board next : Lg1} {result : Except BusError (List U8)}
    (h : board.read checks address length = some (result, next)) : Step checks board next
  | write {address : U64} {data : List U8} {board next : Lg1} {result : Except BusError Unit}
    (h : board.write checks address data = some (result, next)) : Step checks board next
  | read_dma {address : U64} {length : Nat} {board next : Lg1} {result : Except BusError (List U8)}
    (h : board.read_dma checks address length = some (result, next)) : Step checks board next
  | write_dma {address : U64} {data : List U8} {board next : Lg1} {result : Except BusError Unit}
    (h : board.write_dma checks address data = some (result, next)) : Step checks board next

/-- The boards that operations lead to from power on; a snapshot that is restored
was taken of such a board. -/
inductive Reachable (checks : Bool) : Lg1 → Prop where
  | new : Reachable checks new
  | step {board next : Lg1} (h : Reachable checks board) (hstep : Step checks board next) : Reachable checks next
  | restore {board saved : Lg1} (h : Reachable checks board) (hsaved : Reachable checks saved) :
    Reachable checks (restore_snapshot saved.snapshot board)

/-- The frame of a board that is not marked dirty is what composition would make now. -/
def Coherent (board : Lg1) : Prop :=
  ∀ frame, board.frame = some frame → board.composition_dirty = false → board.vram.display_dirty = false →
    frame = compose board.vram board.vc1 board.dac

/-- A step of the board that composes nothing: it keeps or drops the frame, and if
it leaves the board clean then it started clean and changed nothing composition reads. -/
structure Marks (board next : Lg1) : Prop where
  frame : next.frame = board.frame ∨ next.frame = none
  stored : board.vram.Stored → next.vram.Stored
  clean : next.composition_dirty = false → next.vram.display_dirty = false →
    board.composition_dirty = false ∧ board.vram.display_dirty = false ∧ Vram.SameDisplay board.vram next.vram ∧
      Vc1.SamePicture board.vc1 next.vc1 ∧ next.dac.palette = board.dac.palette

variable {checks : Bool} {board next last : Lg1}

theorem Marks.refl (board : Lg1) : Marks board board :=
  ⟨.inl rfl, id, fun hcomposition hdisplay =>
    ⟨hcomposition, hdisplay, Vram.SameDisplay.refl _, Vc1.SamePicture.refl _, rfl⟩⟩

theorem Marks.trans (h : Marks board next) (hlast : Marks next last) : Marks board last := by
  constructor
  · obtain hkept | hdropped := hlast.frame
    · rw [hkept]
      exact h.frame
    · exact .inr hdropped
  · exact fun hstored => hlast.stored (h.stored hstored)
  · intro hcomposition hdisplay
    obtain ⟨hcomposition, hdisplay, hvram, hvc1, hdac⟩ := hlast.clean hcomposition hdisplay
    obtain ⟨hcomposition, hdisplay, hvram', hvc1', hdac'⟩ := h.clean hcomposition hdisplay
    exact ⟨hcomposition, hdisplay, hvram'.trans hvram, hvc1'.trans hvc1, hdac.trans hdac'⟩

theorem Marks.coherent (h : Marks board next) (hboard : Coherent board) : Coherent next := by
  intro frame hframe hcomposition hdisplay
  obtain ⟨hcomposition, hdisplay, hvram, hvc1, hdac⟩ := h.clean hcomposition hdisplay
  obtain hkept | hdropped := h.frame
  · rw [compose_congr hvram hvc1 hdac]
    exact hboard frame (hkept ▸ hframe) hcomposition hdisplay
  · rw [hdropped] at hframe
    cases hframe

/-- The raster engine, and what a frontend is told, are nothing composition reads. -/
theorem Marks.engine (rex : Rex1) (display_changed : Bool) (board : Lg1) :
    Marks board { board with rex, display_changed } :=
  ⟨.inl rfl, id, (Marks.refl board).clean⟩

theorem command_marks {α : Type} {program : Raster (α × Rex1)} {value : α}
    (h : board.command checks program = some (value, next)) : Marks board next := by
  unfold command at h
  dsimp only at h
  obtain ⟨⟨value', rex⟩, _, heq⟩ := Option.map_eq_some_iff.mp h
  cases heq
  refine ⟨.inl rfl, Raster.stored_run, fun hcomposition hdisplay => ?_⟩
  obtain ⟨hclean, hsame⟩ := Raster.run_clean hdisplay
  exact ⟨hcomposition, hclean, hsame, Vc1.SamePicture.refl _, rfl⟩

/-- A change of the video signal keeps the frame or drops it. -/
theorem Marks.signal (h : Marks board next) (state : SignalState) :
    Marks board
      (if state = next.vc1.signal_state then next
      else { next with frame := if next.vc1.signal_state = .NoSignal then none else next.frame, display_changed := true }) := by
  split
  · exact h
  · refine h.trans ⟨?_, id, (Marks.refl next).clean⟩
    dsimp only
    split
    · exact .inr rfl
    · exact .inl rfl

theorem deliver_marks (port : PeripheralPort) (value : U8) (board : Lg1) :
    Marks board
      { (board.deliver port value).2 with composition_dirty := board.composition_dirty || (board.deliver port value).1 } := by
  cases port with
  | Dac =>
    refine ⟨.inl rfl, id, fun hcomposition hdisplay => ?_⟩
    obtain ⟨hclean, hunchanged⟩ := Bool.or_eq_false_iff.mp hcomposition
    exact ⟨hclean, hdisplay, Vram.SameDisplay.refl _, Vc1.SamePicture.refl _, Bt479.palette_write hunchanged⟩
  | Vc1 =>
    refine ⟨.inl rfl, id, fun hcomposition hdisplay => ?_⟩
    obtain ⟨hclean, hunchanged⟩ := Bool.or_eq_false_iff.mp hcomposition
    exact ⟨hclean, hdisplay, Vram.SameDisplay.refl _, Vc1.samePicture_write hunchanged, rfl⟩
  | Clock =>
    refine ⟨.inl rfl, id, fun hcomposition hdisplay => ?_⟩
    obtain ⟨hclean, _⟩ := Bool.or_eq_false_iff.mp hcomposition
    exact ⟨hclean, hdisplay, Vram.SameDisplay.refl _, Vc1.SamePicture.refl _, rfl⟩

theorem write_peripheral_marks (port : PeripheralPort) (value : U8) (board : Lg1) :
    Marks board (board.write_peripheral port value) :=
  (deliver_marks port value board).signal board.vc1.signal_state

theorem read_peripheral_marks (port : PeripheralPort) (board : Lg1) : Marks board (board.read_peripheral port).2 := by
  cases port with
  | Dac =>
    exact ⟨.inl rfl, id, fun hcomposition hdisplay => ⟨hcomposition, hdisplay, Vram.SameDisplay.refl _,
      Vc1.SamePicture.refl _, Bt479.palette_read _ board.dac⟩⟩
  | Vc1 =>
    exact ⟨.inl rfl, id, fun hcomposition hdisplay => ⟨hcomposition, hdisplay, Vram.SameDisplay.refl _,
      Vc1.samePicture_read _ board.vc1, rfl⟩⟩
  | Clock => exact Marks.refl board

theorem read_marks {address : U64} {length : Nat} {result : Except BusError (List U8)}
    (h : board.read checks address length = some (result, next)) : Marks board next := by
  unfold read at h
  split at h
  · cases h
    exact Marks.refl board
  · cases h
    exact Marks.refl board
  · split at h
    · cases h
      exact Marks.refl board
    · obtain ⟨⟨value, after⟩, hcommand, heq⟩ := Option.map_eq_some_iff.mp h
      cases heq
      exact command_marks hcommand
    · cases h
      exact Marks.refl board
    · cases h
      exact Marks.refl board
    · dsimp only at h
      split at h
      · rename_i port _
        cases h
        have hread := read_peripheral_marks port board
        exact hread.trans (Marks.engine _ _ _)
      · cases h
        exact Marks.refl board
    · cases h
      exact Marks.refl board

theorem write_marks {address : U64} {data : List U8} {result : Except BusError Unit}
    (h : board.write checks address data = some (result, next)) : Marks board next := by
  unfold write at h
  split at h
  · cases h
    exact Marks.refl board
  · cases h
    exact Marks.refl board
  · split at h
    · cases h
      exact Marks.refl board
    · split at h
      · cases h
        exact Marks.engine _ _ board
      · exact command_marks h
      · cases h
        exact Marks.engine _ _ board
      · cases h
        exact Marks.engine _ _ board
      · dsimp only at h
        split at h
        · rename_i port byte _
          cases h
          exact (Marks.engine _ _ board).trans (write_peripheral_marks port byte _)
        · cases h
          exact Marks.engine _ _ board
      · cases h
        exact Marks.refl board

theorem read_words_marks {words : Nat} {data : List U8} (h : board.read_words checks words = some (data, next)) :
    Marks board next := by
  induction words generalizing board data with
  | zero =>
    cases h
    exact Marks.refl _
  | succ words ih =>
    unfold read_words at h
    obtain ⟨⟨value, middle⟩, hcommand, h⟩ := Option.bind_eq_some_iff.mp h
    obtain ⟨⟨rest, after⟩, hrest, h⟩ := Option.bind_eq_some_iff.mp h
    cases h
    exact (command_marks hcommand).trans (ih hrest)

theorem write_words_marks {data : List U8} (h : board.write_words checks data = some next) : Marks board next := by
  induction data, board using write_words.induct with
  | case1 first second third fourth data board ih =>
    unfold write_words at h
    obtain ⟨⟨value, middle⟩, hcommand, h⟩ := Option.bind_eq_some_iff.mp h
    exact (command_marks hcommand).trans (ih middle h)
  | case2 data board hshort =>
    rw [write_words] at h
    · cases h
      exact Marks.refl _
    · exact hshort

theorem read_dma_marks {address : U64} {length : Nat} {result : Except BusError (List U8)}
    (h : board.read_dma checks address length = some (result, next)) : Marks board next := by
  unfold read_dma at h
  split at h
  · cases h
    exact Marks.refl _
  · split at h
    · cases h
      exact Marks.refl _
    · obtain ⟨⟨data, after⟩, hwords, heq⟩ := Option.map_eq_some_iff.mp h
      cases heq
      exact read_words_marks hwords

theorem write_dma_marks {address : U64} {data : List U8} {result : Except BusError Unit}
    (h : board.write_dma checks address data = some (result, next)) : Marks board next := by
  unfold write_dma at h
  split at h
  · cases h
    exact Marks.refl _
  · split at h
    · cases h
      exact Marks.refl _
    · obtain ⟨after, hwords, heq⟩ := Option.map_eq_some_iff.mp h
      cases heq
      exact write_words_marks hwords

/-- Display timing is nothing composition reads. -/
theorem Marks.timing (elapsed : Nat) (board : Lg1) : Marks board { board with vc1 := (board.vc1.advance_time elapsed).2 } :=
  ⟨.inl rfl, id, fun hcomposition hdisplay =>
    ⟨hcomposition, hdisplay, Vram.SameDisplay.refl _, Vc1.samePicture_advance_time elapsed board.vc1, rfl⟩⟩

theorem compose_frame_coherent (board : Lg1) : Coherent board.compose_frame := by
  intro frame hframe _ _
  cases hframe
  have hsame : Vram.SameDisplay board.vram board.vram.clear_display_dirty := fun _ _ _ _ => ⟨rfl, rfl⟩
  exact (compose_congr hsame (Vc1.SamePicture.refl _) rfl).symm

theorem advance_time_coherent (elapsed : Nat) (h : Coherent board) : Coherent (board.advance_time elapsed) := by
  have hadvanced := (Marks.timing elapsed board).coherent h
  unfold advance_time
  dsimp only
  split
  · exact hadvanced
  · split
    · exact hadvanced
    · split
      · exact hadvanced
      · exact compose_frame_coherent _

/-- What one step of the board preserves. -/
theorem Step.coherent (hstep : Step checks board next) (h : Coherent board) : Coherent next := by
  cases hstep with
  | reset =>
    intro frame hframe
    cases hframe
  | take_display_update => exact (Marks.engine board.rex false board).coherent h
  | advance_time elapsed => exact advance_time_coherent elapsed h
  | read hread => exact (read_marks hread).coherent h
  | write hwrite => exact (write_marks hwrite).coherent h
  | read_dma hread => exact (read_dma_marks hread).coherent h
  | write_dma hwrite => exact (write_dma_marks hwrite).coherent h

/-- What a whole run preserves. -/
theorem Reachable.coherent (h : Reachable checks board) : Coherent board := by
  induction h with
  | new =>
    intro frame hframe
    cases hframe
  | step _ hstep ih => exact hstep.coherent ih
  | restore _ _ _ ih => exact ih

theorem advance_time_stored (elapsed : Nat) (h : board.vram.Stored) : (board.advance_time elapsed).vram.Stored := by
  unfold advance_time
  dsimp only
  split
  · exact h
  · split
    · exact h
    · split
      · exact h
      · intro group position
        have hposition := h group position
        cases group <;> exact hposition

theorem Step.stored (hstep : Step checks board next) (h : board.vram.Stored) : next.vram.Stored := by
  cases hstep with
  | reset => exact Vram.stored_new
  | take_display_update => exact h
  | advance_time elapsed => exact advance_time_stored elapsed h
  | read hread => exact (read_marks hread).stored h
  | write hwrite => exact (write_marks hwrite).stored h
  | read_dma hread => exact (read_dma_marks hread).stored h
  | write_dma hwrite => exact (write_dma_marks hwrite).stored h

theorem Reachable.stored (h : Reachable checks board) : board.vram.Stored := by
  induction h with
  | new => exact Vram.stored_new
  | step _ hstep ih => exact hstep.stored ih
  | restore _ _ _ ih => exact ih

/-- A frame boundary with an active signal leaves a frame, and leaves the board clean. -/
theorem advance_time_presents (elapsed : Nat) (hcompleted : (board.vc1.advance_time elapsed).1 ≠ 0)
    (hactive : (board.advance_time elapsed).vc1.signal_state = .Active) :
    (∃ frame, (board.advance_time elapsed).frame = some frame) ∧
      (board.advance_time elapsed).composition_dirty = false ∧
      (board.advance_time elapsed).vram.display_dirty = false := by
  unfold advance_time at hactive ⊢
  dsimp only at hactive ⊢
  rw [if_neg hcompleted] at hactive ⊢
  by_cases hsignal : (board.vc1.advance_time elapsed).2.signal_state ≠ .Active
  · rw [if_pos hsignal] at hactive
    exact absurd hactive hsignal
  · rw [if_neg hsignal]
    split
    · rename_i hheld
      obtain ⟨hheld, hdisplay⟩ := Bool.and_eq_true_iff.mp hheld
      obtain ⟨hheld, hcomposition⟩ := Bool.and_eq_true_iff.mp hheld
      exact ⟨Option.isSome_iff_exists.mp hheld, Bool.not_eq_eq_eq_not.mp hcomposition, Bool.not_eq_eq_eq_not.mp hdisplay⟩
    · exact ⟨⟨_, rfl⟩, rfl, rfl⟩

/-- A held frame that is not marked dirty is a fresh composition, and so is what
the board shows after every frame boundary with an active signal. -/
theorem frame_is_composition (h : Reachable checks board) :
    (∀ frame, board.frame = some frame → board.composition_dirty = false → board.vram.display_dirty = false →
        board.vc1.signal_state = .Active → frame = compose board.vram board.vc1 board.dac) ∧
      ∀ elapsed, (board.vc1.advance_time elapsed).1 ≠ 0 → (board.advance_time elapsed).vc1.signal_state = .Active →
        (board.advance_time elapsed).display_state =
          .Active (compose (board.advance_time elapsed).vram (board.advance_time elapsed).vc1
            (board.advance_time elapsed).dac) := by
  constructor
  · intro frame hframe hcomposition hdisplay _
    exact h.coherent frame hframe hcomposition hdisplay
  · intro elapsed hcompleted hactive
    obtain ⟨⟨frame, hframe⟩, hcomposition, hdisplay⟩ := advance_time_presents elapsed hcompleted hactive
    have hfresh := advance_time_coherent elapsed h.coherent frame hframe hcomposition hdisplay
    unfold display_state
    rw [hactive, hframe, hfresh]

/-- `CONFIGSEL` selects the system control of the controller, the byte after it
enables the signal, and the frame that then completes is composed. -/
theorem frame_is_composition_signalled :
    ∃ selected signalled : Lg1,
      new.write true 0x3f47ec [0, 0, 0, 6] = some (.ok (), selected) ∧
        selected.write true 0x3f4ff0 [0, 0, 0, 4] = some (.ok (), signalled) ∧
          let shown := signalled.advance_time signalled.vc1.frame_period_attoseconds
          shown.display_state = .Active (compose shown.vram shown.vc1 shown.dac) := by
  refine ⟨_, _, rfl, rfl, ?_⟩
  have hselected : Reachable true _ :=
    .step .new (.write (rfl : new.write true 0x3f47ec [0, 0, 0, 6] = some (.ok (), _)))
  have hsignalled : Reachable true _ :=
    .step hselected (.write (rfl : write true 0x3f4ff0 [0, 0, 0, 4] _ = some (.ok (), _)))
  exact (frame_is_composition hsignalled).2 _ (by decide) (by decide)

end se_device.lg1.Lg1
