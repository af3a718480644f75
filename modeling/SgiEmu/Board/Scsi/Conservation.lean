import SgiEmu.Board.Scsi.Dma

open se_core se_device.hpc1 se_device.scsi se_device.wd33c93b

namespace se_device.wd33c93b.Wd33c93b

variable {wd : Wd33c93b}

/-- The controller counts as many bytes as a window asks for. -/
def covers (wd : Wd33c93b) (byte_count : Nat) : Bool :=
  if wd.single_byte then byte_count = 1 ∧ wd.pio_remaining = 1 else byte_count ≤ wd.transfer_count

/-- A chunk of a covered window is counted, and the rest stays covered. -/
theorem consume_covered {chunk byte_count : Nat} (h : wd.covers byte_count = true) (hpos : 0 < chunk)
    (hfits : chunk ≤ byte_count) :
    ∃ next, wd.consume_transfer_bytes chunk = some next ∧
      (byte_count - chunk ≠ 0 → next.covers (byte_count - chunk) = true) := by
  unfold covers at h
  unfold consume_transfer_bytes
  by_cases hsingle : wd.single_byte = true
  · simp only [hsingle, if_true, decide_eq_true_eq] at h ⊢
    obtain ⟨hone, hremaining⟩ := h
    have hchunk : chunk = 1 := by omega
    have haccepted : ¬(chunk ≠ 1 ∨ wd.pio_remaining ≠ 1) := by omega
    rw [if_neg haccepted]
    refine ⟨_, rfl, ?_⟩
    intro hrest
    omega
  · simp only [if_neg hsingle, decide_eq_true_eq] at h ⊢
    have haccepted : ¬chunk > wd.transfer_count := by omega
    rw [if_neg haccepted]
    refine ⟨_, rfl, ?_⟩
    intro _
    simp only [covers, if_neg hsingle, decide_eq_true_eq]
    omega

/-- A counted chunk is what the counter loses; a single byte clears it. -/
theorem consume_transfer_bytes_count {next : Wd33c93b} {byte_count : Nat}
    (h : wd.consume_transfer_bytes byte_count = some next) :
    next.single_byte = wd.single_byte ∧
      (wd.single_byte = false → wd.transfer_count = next.transfer_count + byte_count) ∧
      (wd.single_byte = true →
        byte_count = 1 ∧ wd.pio_remaining = 1 ∧ next.pio_remaining = 0 ∧ next.transfer_count = 0) := by
  unfold consume_transfer_bytes at h
  by_cases hsingle : wd.single_byte = true
  · rw [if_pos hsingle] at h
    split at h
    · simp at h
    case isFalse haccepted =>
      obtain rfl := Option.some.inj h
      have hone : byte_count = 1 ∧ wd.pio_remaining = 1 := by omega
      refine ⟨rfl, ?_, fun _ => ⟨hone.1, hone.2, rfl, rfl⟩⟩
      intro hnot
      simp [hsingle] at hnot
  · rw [if_neg hsingle] at h
    split at h
    · simp at h
    case isFalse haccepted =>
      obtain rfl := Option.some.inj h
      refine ⟨rfl, fun _ => ?_, fun hnot => absurd hnot hsingle⟩
      exact (Nat.sub_add_cancel (Nat.le_of_not_gt haccepted)).symm

end se_device.wd33c93b.Wd33c93b

namespace se_machine.ip12.ScsiPath

open ScsiDma

variable {τ μ : Type} [ScsiTarget τ] [StorageMedium μ] {path next : ScsiPath τ μ ScsiDma} {direction : ScsiDataDirection}
  {bytes : List U8}

/-! ## Moved bytes -/

/-- One chunk that moves: the target, the memory and channel, and the controller's
counter all advance over it. -/
structure ChunkMoved (direction : ScsiDataDirection) (path : ScsiPath τ μ ScsiDma) (bytes : List U8)
    (next : ScsiPath τ μ ScsiDma) : Prop where
  target : path.bus.Moves bytes next.bus direction
  memory : path.engine.Moves bytes direction next.engine
  counter : path.wd.consume_transfer_bytes bytes.length = some next.wd
  loaded : path.engine.hpc1.descriptor_loaded = true

/-- The chunks of a transfer in order, in the windows the chain gives. `loaded` is the
sum of the counts of the descriptors fetched on the way. -/
inductive Moved (direction : ScsiDataDirection) :
    ScsiPath τ μ ScsiDma → (loaded : Nat) → (moved : List U8) → ScsiPath τ μ ScsiDma → Prop
  | stop (path : ScsiPath τ μ ScsiDma) : Moved direction path 0 [] path
  | fetch {path after : ScsiPath τ μ ScsiDma} {loaded later : Nat} {moved : List U8} (window : DmaWindow)
      (engine : ScsiDma) (hwindow : ScsiDma.engine.next_window path.engine = (some window, engine))
      (hloaded : path.engine.held + loaded = engine.held)
      (hrest : Moved direction { path with engine } later moved after) :
      Moved direction path (loaded + later) moved after
  | chunk {path middle after : ScsiPath τ μ ScsiDma} {loaded : Nat} {bytes moved : List U8}
      (hchunk : ChunkMoved direction path bytes middle) (hrest : Moved direction middle loaded moved after) :
      Moved direction path loaded (bytes ++ moved) after

/-- How a transfer ends after its last chunk. -/
inductive Ends [LawfulStorageMedium μ] (after : ScsiPath τ μ ScsiDma) : Except ScsiFault (ScsiPath τ μ ScsiDma) → Prop
  /-- The chain gives no further window. -/
  | starved (engine : ScsiDma) (hwindow : ScsiDma.engine.next_window after.engine = (none, engine))
      (hmemory : engine.memory = after.engine.memory) : Ends after (.ok { after with engine })
  | stopped : Ends after (.ok (after.stop_scsi_dma ScsiDma.engine))
  /-- A faulted chunk. -/
  | rejected (bus : ScsiBus τ μ) (engine : ScsiDma) (hbus : after.bus.Undisturbed bus)
      (hengine : after.engine.Faults engine) :
      Ends after (.ok ({ after with bus, engine }.stop_scsi_dma ScsiDma.engine))
  /-- The target fails and ends the transfer. -/
  | failed (bus : ScsiBus τ μ) (status : ScsiStatus) (hended : bus.active_transaction = none) :
      Ends after ({ after with bus }.finish_scsi_dma_window ScsiDma.engine (some status))
  | finished (status : Option ScsiStatus) : Ends after (after.finish_scsi_dma_window ScsiDma.engine status)

/-- What the moved bytes cost each of the parties. -/
structure Conserved (path : ScsiPath τ μ ScsiDma) (loaded : Nat) (moved : List U8) (after : ScsiPath τ μ ScsiDma) :
    Prop where
  target : path.bus.remaining = after.bus.remaining + moved.length
  descriptors : path.engine.held + loaded = after.engine.held + moved.length
  counter : path.wd.single_byte = false → path.wd.transfer_count = after.wd.transfer_count + moved.length
  /-- A single byte clears the counter, whatever it held. -/
  single : path.wd.single_byte = true → moved ≠ [] → moved.length = 1 ∧ after.wd.transfer_count = 0

/-! ## Conservation -/

theorem moved_single {after : ScsiPath τ μ ScsiDma} {loaded : Nat} {moved : List U8}
    (h : Moved direction path loaded moved after) (hsingle : path.wd.single_byte = true) :
    (moved = [] ∧ after.wd = path.wd) ∨
      (moved.length = 1 ∧ path.wd.pio_remaining = 1 ∧ after.wd.pio_remaining = 0 ∧ after.wd.transfer_count = 0) := by
  induction h with
  | stop path => exact Or.inl ⟨rfl, rfl⟩
  | fetch window engine hwindow hloaded hrest ih => exact ih hsingle
  | chunk hchunk hrest ih =>
    obtain ⟨hkept, -, hone⟩ := Wd33c93b.consume_transfer_bytes_count hchunk.counter
    obtain ⟨hlength, hpio, hcleared, hzero⟩ := hone hsingle
    refine Or.inr ?_
    obtain ⟨rfl, hsame⟩ | ⟨_, hagain, _⟩ := ih (hkept.trans hsingle)
    · rw [List.append_nil, hsame]
      exact ⟨hlength, hpio, hcleared, hzero⟩
    · omega

/-- Every party loses exactly the moved bytes. -/
theorem Moved.conserved {after : ScsiPath τ μ ScsiDma} {loaded : Nat} {moved : List U8}
    (h : Moved direction path loaded moved after) : Conserved path loaded moved after := by
  induction h with
  | stop path =>
    refine ⟨rfl, rfl, fun _ => rfl, ?_⟩
    intro _ hmoved
    exact absurd rfl hmoved
  | fetch window engine hwindow hloaded hrest ih =>
    refine ⟨ih.target, ?_, ih.counter, ih.single⟩
    have hdescriptors := ih.descriptors
    dsimp only at hdescriptors
    omega
  | @chunk path middle after loaded bytes moved hchunk hrest ih =>
    obtain ⟨hkept, hcount, hone⟩ := Wd33c93b.consume_transfer_bytes_count hchunk.counter
    have htarget := hchunk.target.remaining
    have hheld : path.engine.held = middle.engine.held + bytes.length :=
      held_of_consumed hchunk.loaded hchunk.memory.consumed
    have hlength : (bytes ++ moved).length = bytes.length + moved.length := List.length_append
    refine ⟨?_, ?_, ?_, ?_⟩
    · have hrest := ih.target
      omega
    · have hrest := ih.descriptors
      omega
    · intro hsingle
      have hrest := ih.counter (hkept.trans hsingle)
      have hchunk := hcount hsingle
      omega
    · intro hsingle _
      obtain ⟨hempty, _⟩ | ⟨hmoved, _, hcleared, hzero⟩ := moved_single (.chunk hchunk hrest) hsingle
      · have hnone : bytes.length = 0 := by
          rw [(List.append_eq_nil_iff.mp hempty).1]
          rfl
        have hbyte := (hone hsingle).1
        omega
      · exact ⟨hmoved, hzero⟩

/-! ## Data In -/

variable [LawfulStorageMedium μ] [ExactStorageMedium μ]

omit [ScsiTarget τ] [StorageMedium μ] [LawfulStorageMedium μ] [ExactStorageMedium μ] in
/-- The initiator takes a chunk with memory, channel and counter, or none of them. -/
theorem accept_data_in_cases {dma : ScsiDma} {wd : Wd33c93b} {byte_count : Nat} (hcovers : wd.covers byte_count = true)
    (hcount : bytes.length ≤ byte_count) (hwindow : bytes.length ≤ dma.hpc1.byte_count) :
    (∃ faulted, accept_data_in ScsiDma.engine bytes (dma, wd) = (false, faulted, wd) ∧ dma.Faults faulted) ∨
      ∃ stored counted, accept_data_in ScsiDma.engine bytes (dma, wd) = (true, stored, counted) ∧
        dma.Moves bytes .In stored ∧ wd.consume_transfer_bytes bytes.length = some counted ∧ bytes ≠ [] ∧
        (byte_count - bytes.length ≠ 0 → counted.covers (byte_count - bytes.length) = true) := by
  obtain ⟨faulted, hstored, hfaults⟩ | ⟨stored, hstored, hmoves⟩ := store_cases hwindow
  · have hengine : ScsiDma.engine.store dma bytes = (false, faulted) := hstored
    refine Or.inl ⟨faulted, ?_, hfaults⟩
    simp only [accept_data_in, hengine]
  · have hengine : ScsiDma.engine.store dma bytes = (true, stored) := hstored
    have hnonempty := stored_nonempty (hmoves.stored rfl)
    obtain ⟨counted, hcounted, hrest⟩ := Wd33c93b.consume_covered hcovers (List.length_pos_iff.mpr hnonempty) hcount
    refine Or.inr ⟨stored, counted, ?_, hmoves, hcounted, hnonempty, hrest⟩
    simp only [accept_data_in, hengine, hcounted]

/-- A Data In transfer over a covered window moves chunks until it ends. -/
theorem transfer_scsi_data_in_moves (turns : Nat) {wd_bytes_remaining : Nat} (hturns : wd_bytes_remaining ≤ turns)
    (hpos : 0 < wd_bytes_remaining) (hcovers : path.wd.covers wd_bytes_remaining = true) :
    ∃ loaded moved after, Moved .In path loaded moved after ∧
      Ends after (path.transfer_scsi_data_in ScsiDma.engine turns wd_bytes_remaining) := by
  induction turns generalizing path wd_bytes_remaining with
  | zero => omega
  | succ turns ih =>
    unfold transfer_scsi_data_in
    split
    case h_1 dma hwindow => exact ⟨0, [], path, .stop path, .starved dma hwindow (next_window_none hwindow)⟩
    case h_2 window dma hwindow =>
      obtain ⟨hopens, loaded, hfetches⟩ := next_window_some hwindow
      have hfetched : ∀ {later moved} {after : ScsiPath τ μ ScsiDma}, Moved .In { path with engine := dma } later moved after →
          Moved .In path (loaded + later) moved after := Moved.fetch window dma hwindow hfetches.count
      have hlimits : ∀ {bytes : List U8}, bytes.length ≤ min window.byte_count wd_bytes_remaining →
          bytes.length ≤ dma.hpc1.byte_count ∧ bytes.length ≤ wd_bytes_remaining := by
        intro bytes hfits
        rw [← hopens.count]
        omega
      dsimp only
      split
      · exact ⟨loaded + 0, [], { path with engine := dma }, hfetched (.stop _), .stopped⟩
      · have hchunk := @ScsiBus.transfer_data_in_chunk _ _ _ path.bus _ _ _ _ (min window.byte_count wd_bytes_remaining)
          (accept_data_in ScsiDma.engine) (dma, path.wd)
        generalize path.bus.transfer_data_in (min window.byte_count wd_bytes_remaining) (accept_data_in ScsiDma.engine)
          (dma, path.wd) = result at hchunk
        cases hchunk with
        | refused error =>
          exact ⟨loaded + 0, [], { path with engine := dma }, hfetched (.stop _), .stopped⟩
        | rejected bytes bus after hfits hanswer hbus =>
          obtain ⟨hwindow, hcount⟩ := hlimits hfits
          obtain ⟨faulted, haccepted, hfaults⟩ | ⟨stored, counted, haccepted, _⟩ :=
            accept_data_in_cases hcovers hcount hwindow
          · obtain ⟨-, rfl⟩ := Prod.mk.inj (hanswer.symm.trans haccepted)
            exact ⟨loaded + 0, [], { path with engine := dma }, hfetched (.stop _), .rejected bus faulted hbus hfaults⟩
          · rw [haccepted] at hanswer
            simp at hanswer
        | more bytes bus after rest hfits hanswer hmoves =>
          obtain ⟨hwindow, hcount⟩ := hlimits hfits
          obtain ⟨faulted, haccepted, hfaults⟩ | ⟨stored, counted, haccepted, hstored, hcounted, hnonempty, hrest⟩ :=
            accept_data_in_cases hcovers hcount hwindow
          · rw [haccepted] at hanswer
            simp at hanswer
          · obtain ⟨-, rfl⟩ := Prod.mk.inj (hanswer.symm.trans haccepted)
            have hmoved : ChunkMoved .In { path with engine := dma } bytes
                { path with bus, engine := stored, wd := counted } := ⟨hmoves, hstored, hcounted, hopens.loaded⟩
            dsimp only
            split
            case isTrue =>
              exact ⟨loaded + 0, bytes ++ [], _, hfetched (.chunk hmoved (.stop _)), .finished none⟩
            case isFalse hleft =>
              have hlength := List.length_pos_iff.mpr hnonempty
              obtain ⟨later, moved, last, hlater, hends⟩ :=
                @ih { path with bus, engine := stored, wd := counted } (wd_bytes_remaining - bytes.length) (by omega)
                  (by omega) (hrest hleft)
              exact ⟨loaded + later, bytes ++ moved, last, hfetched (.chunk hmoved hlater), hends⟩
        | complete bytes bus after status hfits hanswer hmoves =>
          obtain ⟨hwindow, hcount⟩ := hlimits hfits
          obtain ⟨faulted, haccepted, hfaults⟩ | ⟨stored, counted, haccepted, hstored, hcounted, hnonempty, hrest⟩ :=
            accept_data_in_cases hcovers hcount hwindow
          · rw [haccepted] at hanswer
            simp at hanswer
          · obtain ⟨-, rfl⟩ := Prod.mk.inj (hanswer.symm.trans haccepted)
            have hmoved : ChunkMoved .In { path with engine := dma } bytes
                { path with bus, engine := stored, wd := counted } := ⟨hmoves, hstored, hcounted, hopens.loaded⟩
            exact ⟨loaded + 0, bytes ++ [], _, hfetched (.chunk hmoved (.stop _)), .finished (some status)⟩
        | failed bus after status hended hkept =>
          obtain rfl | ⟨hout, _⟩ := hkept
          · exact ⟨loaded + 0, [], { path with engine := dma }, hfetched (.stop _), .failed bus status hended⟩
          · simp at hout

/-! ## Data Out -/

omit [ScsiTarget τ] [StorageMedium μ] [LawfulStorageMedium μ] [ExactStorageMedium μ] in
/-- A chunk the board provides is the run of memory at the cursor. -/
theorem load_provides {dma after : ScsiDma} (h : ScsiBus.Provides (fun byte_count engine => ScsiDma.engine.load engine byte_count)
    dma bytes true after) :
    after = dma ∧ LocalMemory.Loaded dma.memory dma.pic1 dma.hpc1.current_buffer_address bytes := by
  simp only [ScsiBus.Provides, if_true] at h
  obtain ⟨filled, hprovided, hbytes⟩ := h
  have hload : dma.load bytes.length = (some filled, after) := hprovided
  obtain ⟨faulted, hread, _⟩ | ⟨data, hread, hlength, hloaded⟩ := load_cases dma bytes.length
  · rw [hread] at hload
    simp at hload
  · rw [hread] at hload
    obtain ⟨hdata, rfl⟩ := Prod.mk.inj hload
    obtain rfl := Option.some.inj hdata
    rw [← hlength, ScsiBus.fill_buffer_whole] at hbytes
    rw [hbytes]
    exact ⟨rfl, hloaded⟩

omit [ScsiTarget τ] [StorageMedium μ] [LawfulStorageMedium μ] [ExactStorageMedium μ] in
theorem load_refuses {dma after : ScsiDma} (h : ScsiBus.Provides (fun byte_count engine => ScsiDma.engine.load engine byte_count)
    dma bytes false after) : dma.Faults after := by
  simp only [ScsiBus.Provides, Bool.false_eq_true, if_false] at h
  have hload : dma.load bytes.length = (none, after) := h
  obtain ⟨faulted, hread, hfaults⟩ | ⟨data, hread, _⟩ := load_cases dma bytes.length
  · rw [hread] at hload
    obtain ⟨-, rfl⟩ := Prod.mk.inj hload
    exact hfaults
  · rw [hread] at hload
    simp at hload

omit [LawfulStorageMedium μ] [ExactStorageMedium μ] in
/-- The counters have every delivered chunk of a covered window. -/
theorem advance_scsi_data_out_moves {bus : ScsiBus τ μ} {byte_count : Nat} (hcovers : path.wd.covers byte_count = true)
    (hcount : bytes.length ≤ byte_count) (hwindow : bytes.length ≤ path.engine.hpc1.byte_count)
    (hopen : path.engine.hpc1.descriptor_loaded = true) (hmoves : path.bus.Moves bytes bus .Out)
    (hloaded : LocalMemory.Loaded path.engine.memory path.engine.pic1 path.engine.hpc1.current_buffer_address bytes) :
    ∃ next, ({ path with bus } : ScsiPath τ μ ScsiDma).advance_scsi_data_out ScsiDma.engine bytes.length = .ok next ∧
      ChunkMoved .Out path bytes next ∧
      (byte_count - bytes.length ≠ 0 → next.wd.covers (byte_count - bytes.length) = true) := by
  obtain ⟨channel, hchannel⟩ := ScsiChannel.consume_scsi_dma_bytes_some hwindow
  have hnonempty := List.length_pos_iff.mpr (loaded_nonempty hloaded)
  obtain ⟨counted, hcounted, hrest⟩ := Wd33c93b.consume_covered hcovers hnonempty hcount
  have hconsumed : ScsiDma.engine.consume path.engine bytes.length = (true, { path.engine with hpc1 := channel }) := by
    have hconsume : ScsiDma.engine.consume path.engine bytes.length = path.engine.consume bytes.length := rfl
    rw [hconsume]
    simp only [ScsiDma.consume, hchannel]
  refine ⟨{ path with bus, engine := { path.engine with hpc1 := channel }, wd := counted }, ?_, ?_, hrest⟩
  · simp only [advance_scsi_data_out, hconsumed, hcounted]
  · refine ⟨hmoves, ⟨hchannel, ?_, fun _ => ⟨hloaded, rfl⟩⟩, hcounted, hopen⟩
    rintro ⟨⟩

omit [ExactStorageMedium μ] in
/-- A Data Out transfer over a covered window moves chunks until it ends. -/
theorem transfer_scsi_data_out_moves (turns : Nat) {wd_bytes_remaining : Nat} (hturns : wd_bytes_remaining ≤ turns)
    (hpos : 0 < wd_bytes_remaining) (hcovers : path.wd.covers wd_bytes_remaining = true) :
    ∃ loaded moved after, Moved .Out path loaded moved after ∧
      Ends after (path.transfer_scsi_data_out ScsiDma.engine turns wd_bytes_remaining) := by
  induction turns generalizing path wd_bytes_remaining with
  | zero => omega
  | succ turns ih =>
    unfold transfer_scsi_data_out
    split
    case h_1 dma hwindow => exact ⟨0, [], path, .stop path, .starved dma hwindow (next_window_none hwindow)⟩
    case h_2 window dma hwindow =>
      obtain ⟨hopens, loaded, hfetches⟩ := next_window_some hwindow
      have hfetched : ∀ {later moved} {after : ScsiPath τ μ ScsiDma}, Moved .Out { path with engine := dma } later moved after →
          Moved .Out path (loaded + later) moved after := Moved.fetch window dma hwindow hfetches.count
      have hlimits : ∀ {bytes : List U8}, bytes.length ≤ min window.byte_count wd_bytes_remaining →
          bytes.length ≤ dma.hpc1.byte_count ∧ bytes.length ≤ wd_bytes_remaining := by
        intro bytes hfits
        rw [← hopens.count]
        omega
      dsimp only
      split
      · exact ⟨loaded + 0, [], { path with engine := dma }, hfetched (.stop _), .stopped⟩
      · have hchunk := @ScsiBus.transfer_data_out_chunk _ _ _ path.bus _ _ _ (min window.byte_count wd_bytes_remaining)
          (fun byte_count engine => ScsiDma.engine.load engine byte_count) dma
        generalize path.bus.transfer_data_out (min window.byte_count wd_bytes_remaining)
          (fun byte_count engine => ScsiDma.engine.load engine byte_count) dma = result at hchunk
        cases hchunk with
        | refused error =>
          exact ⟨loaded + 0, [], { path with engine := dma }, hfetched (.stop _), .stopped⟩
        | rejected bytes bus after hfits hanswer hbus =>
          exact ⟨loaded + 0, [], { path with engine := dma }, hfetched (.stop _), .rejected bus after hbus (load_refuses hanswer)⟩
        | more bytes bus after rest hfits hanswer hmoves =>
          obtain ⟨hwindow, hcount⟩ := hlimits hfits
          obtain ⟨rfl, hread⟩ := load_provides hanswer
          obtain ⟨next, hadvanced, hmoved, hrest⟩ := @advance_scsi_data_out_moves _ _ _ _ { path with engine := after } _ bus
            wd_bytes_remaining hcovers hcount hwindow hopens.loaded hmoves hread
          have hadvanced : ({ path with bus, engine := after } : ScsiPath τ μ ScsiDma).advance_scsi_data_out ScsiDma.engine
              bytes.length = .ok next := hadvanced
          simp only [hadvanced, if_neg (Nat.not_lt_of_le hcount)]
          split
          case isTrue =>
            exact ⟨loaded + 0, bytes ++ [], next, hfetched (.chunk hmoved (.stop _)), .finished none⟩
          case isFalse hleft =>
            have hlength := List.length_pos_iff.mpr (loaded_nonempty hread)
            obtain ⟨later, moved, last, hlater, hends⟩ :=
              @ih next (wd_bytes_remaining - bytes.length) (by omega) (by omega) (hrest hleft)
            exact ⟨loaded + later, bytes ++ moved, last, hfetched (.chunk hmoved hlater), hends⟩
        | complete bytes bus after status hfits hanswer hmoves =>
          obtain ⟨hwindow, hcount⟩ := hlimits hfits
          obtain ⟨rfl, hread⟩ := load_provides hanswer
          obtain ⟨next, hadvanced, hmoved, hrest⟩ := @advance_scsi_data_out_moves _ _ _ _ { path with engine := after } _ bus
            wd_bytes_remaining hcovers hcount hwindow hopens.loaded hmoves hread
          have hadvanced : ({ path with bus, engine := after } : ScsiPath τ μ ScsiDma).advance_scsi_data_out ScsiDma.engine
              bytes.length = .ok next := hadvanced
          have hsome : bytes.length ≠ 0 := Nat.pos_iff_ne_zero.mp (List.length_pos_iff.mpr (loaded_nonempty hread))
          simp only [if_neg hsome, hadvanced]
          exact ⟨loaded + 0, bytes ++ [], next, hfetched (.chunk hmoved (.stop _)), .finished (some status)⟩
        | failed bus after status hended hkept =>
          have hsame : after = dma := by
            obtain rfl | ⟨_, bytes, _, hanswer⟩ := hkept
            · rfl
            · exact (load_provides hanswer).1
          rw [hsame]
          simp only [if_true]
          exact ⟨loaded + 0, [], { path with engine := dma }, hfetched (.stop _), .failed bus status hended⟩

/-! ## A request -/

omit [ExactStorageMedium μ] in
/-- A window that ends does not trip an assertion of the board. -/
theorem Ends.no_assertion {after : ScsiPath τ μ ScsiDma} {result : Except ScsiFault (ScsiPath τ μ ScsiDma)}
    (h : Ends after result) : result ≠ .error .Assertion := by
  cases h with
  | starved engine hwindow hmemory => simp
  | stopped => simp
  | rejected bus engine hbus hengine => simp
  | failed bus status hended =>
    unfold finish_scsi_dma_window
    split
    · simp
    · simp
  | finished status =>
    unfold finish_scsi_dma_window
    split
    · simp
    · simp

/-- A descriptor of 16 bytes whose buffer starts at `0x200` and ends the chain. -/
def descriptor : List U8 := [0, 0, 0, 16, 0x80, 0, 2, 0, 0, 0, 0, 0]

/-- One installed module at address zero, with the descriptor at `0x100`. -/
def one_descriptor (control : U8) : ScsiDma where
  hpc1 :=
    { byte_count := 0, current_buffer_address := 0, next_descriptor_pointer := 0x100, descriptor_end := false
      descriptor_loaded := false, descriptor_fetch_pending := true, control }
  memory :=
    { modules := #v[some ⟨4194304, Library.ByteMemory.store (fun _ => 0) 0x100 descriptor⟩, none, none, none] }
  pic1 := { memory_descriptors := #v[0, 0x200, 0x200, 0x200], address_error_pending := false }

/-- A drive about to answer INQUIRY with 36 bytes. -/
def inquiry_drive : ScsiPath ScsiTargetSnapshot MemoryStorage ScsiDma :=
  { new 10000000 ScsiBus.lone_cdrom (one_descriptor (SCSI_START_DMA ||| SCSI_TO_MEMORY)) with
    bus := ([0x12, 0, 0, 0, 36, 0] : List U8).foldl (fun bus value => (bus.write_information value false).2)
      ((ScsiBus.with_targets ScsiBus.lone_cdrom).select 0 false).2 }

def counted_drive : ScsiPath ScsiTargetSnapshot MemoryStorage ScsiDma :=
  { inquiry_drive with wd := { inquiry_drive.wd with transfer_count := 20 } }

/-- The counts of the parties: what the transaction has left, what the descriptor has
left, and the controller's counter. -/
def counts (path : ScsiPath τ μ ScsiDma) : Nat × Nat × Nat := (path.bus.remaining, path.engine.held, path.wd.transfer_count)

/-- The chain takes 16 of the 20 bytes and stops the transfer. -/
example : (counted_drive.transfer_scsi_data ScsiDma.engine .In 20).toOption.map counts = some (20, 0, 4) := by
  decide +kernel

/-- A transfer command with a zero count moves one byte. -/
def transfer_command : List (ScsiEvent ScsiDma) :=
  [.WritePort .Address (BitVec.ofNat 8 CONTROL), .WritePort .Data 0x20,
    .WritePort .Address (BitVec.ofNat 8 COMMAND), .WritePort .Data 0x20]

omit [ScsiTarget τ] [StorageMedium μ] in
theorem counts_of_toOption {result : Except ScsiFault (ScsiPath τ μ ScsiDma)} {left : Nat × Nat × Nat}
    (h : result.toOption.map counts = some left) : ∃ path, result = .ok path ∧ path.counts = left := by
  cases result with
  | ok path => exact ⟨path, rfl, Option.some.inj h⟩
  | error fault => simp [Except.toOption] at h

end se_machine.ip12.ScsiPath
