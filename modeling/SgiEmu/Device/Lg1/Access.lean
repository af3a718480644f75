import SgiEmu.Device.Lg1.Coordinates

open se_core se_core.bus se_device.lg1.rex1 se_device.lg1.vram

namespace se_device.lg1.rex1.Rex1

variable {rex : Rex1}

/-! ## Register windows -/

theorem Bounded.with_xstart (h : Bounded rex) {value : Nat} (hvalue : value ≤ 0x07ffffff) :
    Bounded { rex with next := rex.next.write_xstart value } := by
  have hxsave : value / COORDINATE_UNIT ≤ 0xfff := by
    unfold COORDINATE_UNIT
    omega
  exact ⟨h.current, ⟨hxsave, hvalue, h.next.ystart⟩, h.xendf, h.yendf, h.xywin⟩

/-- Every coordinate register masks what is written to it. -/
theorem Bounded.write_drawing (h : Bounded rex) (offset : Nat) (value : U32) : Bounded (rex.write_drawing offset value) := by
  have hinteger : (value &&& 0xfff).toNat ≤ 0xfff := Nat.and_le_right
  have hfraction : (value &&& 0x007fffff).toNat ≤ 0x007fffff := Nat.and_le_right
  have hfull : (value &&& 0x07ffffff).toNat ≤ 0x07ffffff := Nat.and_le_right
  have hend : (value &&& 0x007ff800).toNat ≤ 0x007ff800 := Nat.and_le_right
  unfold Rex1.write_drawing Registers.write
  split
  case h_4 => exact h.with_xstart (by unfold COORDINATE_UNIT; omega)
  case h_5 => exact h.with_xstart (by omega)
  case h_6 => exact h.with_xstart hfull
  case h_7 => exact ⟨h.current, ⟨h.next.xsave, h.next.xstart, h.next.ystart⟩, hend, h.yendf, h.xywin⟩
  case h_8 => exact h.with_ystart (by unfold COORDINATE_UNIT; omega)
  case h_9 => exact h.with_ystart (by omega)
  case h_10 => exact h.with_ystart hfull
  case h_11 => exact ⟨h.current, ⟨h.next.xsave, h.next.xstart, h.next.ystart⟩, h.xendf, hend, h.xywin⟩
  case h_12 => exact h.with_xsave hinteger
  case h_34 =>
    refine ⟨h.current, ⟨h.next.xsave, h.next.xstart, h.next.ystart⟩, ?_, h.yendf, h.xywin⟩
    dsimp only [END_UNIT]
    omega
  case h_35 =>
    refine ⟨h.current, ⟨h.next.xsave, h.next.xstart, h.next.ystart⟩, h.xendf, ?_, h.xywin⟩
    dsimp only [END_UNIT]
    omega
  all_goals exact ⟨h.current, ⟨h.next.xsave, h.next.xstart, h.next.ystart⟩, h.xendf, h.yendf, h.xywin⟩

theorem Bounded.write_config (h : Bounded rex) (offset : Nat) (value : U32) : Bounded (rex.write_config offset value).2 := by
  have hxywin : (value &&& 0x0fff0fff).toNat ≤ 0x0fff0fff := Nat.and_le_right
  unfold Rex1.write_config
  dsimp only
  split
  case h_14 => exact ⟨h.next, h.next, h.xendf, h.yendf, h.xywin⟩
  case h_16 => exact ⟨h.current, h.next, h.xendf, h.yendf, hxywin⟩
  all_goals exact ⟨h.current, ⟨h.next.xsave, h.next.xstart, h.next.ystart⟩, h.xendf, h.yendf, h.xywin⟩

theorem Bounded.complete_config_read (h : Bounded rex) (port : PeripheralPort) (value : U8) :
    Bounded (rex.complete_config_read port value) := by
  cases port <;> exact ⟨h.current, h.next, h.xendf, h.yendf, h.xywin⟩

/-- A command whose access answers with a value of its own. -/
theorem paired_safe {α : Type} (h : Bounded rex) (hfits : rex.fits) (value : α) :
    Raster.Safe (fun result : α × Rex1 => result.2.Bounded) (do
      let rex ← rex.execute
      .done (value, rex)) :=
  Raster.safe_bind (execute_safe h hfits) fun _ hafter => hafter

theorem read_host_data_go_safe (h : Bounded rex) (hfits : rex.fits) :
    rex.read_host_data_go.Safe fun result => result.2.Bounded := by
  unfold read_host_data_go
  exact Raster.safe_bind (execute_safe h hfits) fun _ hafter => hafter

theorem read_drawing_go_safe (h : Bounded rex) (hfits : rex.fits) (offset : Nat) :
    (rex.read_drawing_go offset).Safe fun result => result.2.Bounded := by
  unfold read_drawing_go
  split
  · exact read_host_data_go_safe h hfits
  · exact Raster.safe_bind (execute_safe h hfits) fun _ hafter => hafter

end se_device.lg1.rex1.Rex1

namespace se_device.lg1.Lg1

/-! ## Accesses of the board -/

/-- What the guest and graphics DMA ask of the board. -/
inductive Access where
  | read (address : U64) (length : Nat)
  | write (address : U64) (data : List U8)
  | read_dma (address : U64) (length : Nat)
  | write_dma (address : U64) (data : List U8)
deriving DecidableEq, Repr

/-- The board after an access; none after a panic. -/
def perform (checks : Bool) (access : Access) (board : Lg1) : Option Lg1 :=
  match access with
  | .read address length => (board.read checks address length).map Prod.snd
  | .write address data => (board.write checks address data).map Prod.snd
  | .read_dma address length => (board.read_dma checks address length).map Prod.snd
  | .write_dma address data => (board.write_dma checks address data).map Prod.snd

def run (checks : Bool) : List Access → Lg1 → Option Lg1
  | [], board => some board
  | access :: accesses, board => do
    let board ← board.perform checks access
    run checks accesses board

/-- Every word of a DMA read finds a command that fits. -/
def read_words_fit (checks : Bool) : Nat → Lg1 → Prop
  | 0, _ => True
  | words + 1, board => board.rex.fits ∧
    ∀ value next, board.command checks board.rex.read_host_data_go = some (value, next) → read_words_fit checks words next

/-- Every word of a DMA write finds a command that fits. -/
def write_words_fit (checks : Bool) : List U8 → Lg1 → Prop
  | first :: second :: third :: fourth :: data, board =>
    let value := from_be_bytes #v[first, second, third, fourth]
    Rex1.fits { board.rex with next := { board.rex.next with rwaux1 := value } } ∧
      ∀ next, board.command checks (do
        let rex ← board.rex.write_host_data_go value
        .done ((), rex)) = some ((), next) → write_words_fit checks data next
  | _, _ => True

/-- Every command that the access starts keeps its coordinates in range. -/
def fits (checks : Bool) (access : Access) (board : Lg1) : Prop :=
  match access with
  | .read address length =>
    match register_offset address length with
    | .ok (some offset) =>
      match decode offset with
      | some (.DrawingGo _) => board.rex.fits
      | _ => True
    | _ => True
  | .write address data =>
    match register_offset address data.length, word_of data with
    | .ok (some offset), .ok value =>
      match decode offset with
      | some (.DrawingGo offset) => (board.rex.write_drawing offset value).fits
      | _ => True
    | _, _ => True
  | .read_dma _ length => read_words_fit checks (length / 4) board
  | .write_dma _ data => write_words_fit checks data board

/-- The commands of a run fit, access by access. -/
def run_fits (checks : Bool) : List Access → Lg1 → Prop
  | [], _ => True
  | access :: accesses, board =>
    board.fits checks access ∧ ∀ next, board.perform checks access = some next → run_fits checks accesses next

variable {checks : Bool} {board : Lg1}

theorem command_safe {α : Type} {program : Raster (α × Rex1)} (h : program.Safe fun result => result.2.Bounded)
    (checks : Bool) (board : Lg1) : ∃ value next, board.command checks program = some (value, next) ∧ next.rex.Bounded := by
  obtain ⟨result, hrun, hbounded⟩ := Raster.safe_run h checks board.vram
  refine ⟨result.1, { board with rex := result.2, vram := (program.run checks board.vram).2 }, ?_, hbounded⟩
  unfold command
  dsimp only
  rw [hrun]
  rfl

theorem read_peripheral_rex (port : PeripheralPort) (board : Lg1) : (board.read_peripheral port).2.rex = board.rex := by
  cases port <;> rfl

theorem write_peripheral_rex (port : PeripheralPort) (value : U8) (board : Lg1) :
    (board.write_peripheral port value).rex = board.rex := by
  unfold write_peripheral
  cases port <;> dsimp only [deliver] <;> split <;> rfl

theorem read_safe {address : U64} {length : Nat} (h : board.rex.Bounded) (hfits : board.fits checks (.read address length)) :
    ∃ result next, board.read checks address length = some (result, next) ∧ next.rex.Bounded := by
  unfold fits at hfits
  dsimp only at hfits
  unfold read
  cases hoffset : register_offset address length with
  | error fault => exact ⟨_, _, rfl, h⟩
  | ok offset =>
    cases offset with
    | none => exact ⟨_, _, rfl, h⟩
    | some offset =>
      rw [hoffset] at hfits
      dsimp only at hfits ⊢
      cases hregister : decode offset with
      | none => exact ⟨_, _, rfl, h⟩
      | some register =>
        rw [hregister] at hfits
        cases register with
        | Drawing offset => exact ⟨_, _, rfl, h⟩
        | DrawingGo offset =>
          obtain ⟨value, next, hcommand, hnext⟩ := command_safe (Rex1.read_drawing_go_safe h hfits offset) checks board
          exact ⟨_, next, Option.map_eq_some_iff.mpr ⟨_, hcommand, rfl⟩, hnext⟩
        | Dummy => exact ⟨_, _, rfl, h⟩
        | Config offset => exact ⟨_, _, rfl, h⟩
        | ConfigGo offset =>
          refine ⟨_, _, rfl, ?_⟩
          cases (board.rex.read_config offset).2 with
          | Read port =>
            have hread : (board.read_peripheral port).2.rex.Bounded := (read_peripheral_rex port board).symm ▸ h
            exact hread.complete_config_read port _
          | _ => exact h

theorem write_safe {address : U64} {data : List U8} (h : board.rex.Bounded) (hfits : board.fits checks (.write address data)) :
    ∃ result next, board.write checks address data = some (result, next) ∧ next.rex.Bounded := by
  unfold fits at hfits
  dsimp only at hfits
  unfold write
  cases hoffset : register_offset address data.length with
  | error fault => exact ⟨_, _, rfl, h⟩
  | ok offset =>
    cases offset with
    | none => exact ⟨_, _, rfl, h⟩
    | some offset =>
      cases hword : word_of data with
      | error fault => exact ⟨_, _, rfl, h⟩
      | ok value =>
        rw [hoffset, hword] at hfits
        dsimp only at hfits ⊢
        cases hregister : decode offset with
        | none => exact ⟨_, _, rfl, h⟩
        | some register =>
          rw [hregister] at hfits
          cases register with
          | Drawing offset => exact ⟨_, _, rfl, h.write_drawing offset value⟩
          | DrawingGo offset =>
            have hexecute := Rex1.paired_safe (h.write_drawing offset value) hfits (.ok () : Except BusError Unit)
            obtain ⟨result, next, hcommand, hnext⟩ := command_safe hexecute checks board
            exact ⟨_, _, hcommand, hnext⟩
          | Dummy => exact ⟨_, _, rfl, ⟨h.current, h.next, h.xendf, h.yendf, h.xywin⟩⟩
          | Config offset => exact ⟨_, _, rfl, h.write_config offset value⟩
          | ConfigGo offset =>
            dsimp only
            split
            · rename_i port byte _
              refine ⟨_, _, rfl, ?_⟩
              rw [write_peripheral_rex]
              exact h.write_config offset value
            · exact ⟨_, _, rfl, h.write_config offset value⟩

theorem read_words_safe {words : Nat} (h : board.rex.Bounded) (hfits : read_words_fit checks words board) :
    ∃ data next, board.read_words checks words = some (data, next) ∧ next.rex.Bounded := by
  induction words generalizing board with
  | zero => exact ⟨_, _, rfl, h⟩
  | succ words ih =>
    obtain ⟨hword, hrest⟩ := hfits
    obtain ⟨value, next, hcommand, hnext⟩ := command_safe (Rex1.read_host_data_go_safe h hword) checks board
    obtain ⟨rest, last, hwords, hlast⟩ := ih hnext (hrest value next hcommand)
    refine ⟨(to_be_bytes value).toList ++ rest, last, ?_, hlast⟩
    unfold read_words
    rw [hcommand, Option.bind_eq_bind, Option.bind_some]
    dsimp only
    rw [hwords]
    rfl

theorem write_words_safe {data : List U8} (h : board.rex.Bounded) (hfits : write_words_fit checks data board) :
    ∃ next, board.write_words checks data = some next ∧ next.rex.Bounded := by
  induction data, board using write_words.induct with
  | case1 first second third fourth data board ih =>
    obtain ⟨hword, hrest⟩ := hfits
    have hexecute := Rex1.paired_safe (h.with_rwaux1 (from_be_bytes #v[first, second, third, fourth])) hword ()
    obtain ⟨value, next, hcommand, hnext⟩ := command_safe hexecute checks board
    obtain ⟨last, hwords, hlast⟩ := ih next hnext (hrest next hcommand)
    refine ⟨last, ?_, hlast⟩
    unfold write_words
    exact (congrArg (Option.bind · _) hcommand).trans hwords
  | case2 data board hshort =>
    refine ⟨board, ?_, h⟩
    rw [write_words]
    exact hshort

/-- What one access does: nothing panics, and the coordinates stay in range. -/
theorem perform_safe {access : Access} (h : board.rex.Bounded) (hfits : board.fits checks access) :
    ∃ next, board.perform checks access = some next ∧ next.rex.Bounded := by
  cases access with
  | read address length =>
    obtain ⟨result, next, hread, hnext⟩ := read_safe h hfits
    exact ⟨next, Option.map_eq_some_iff.mpr ⟨_, hread, rfl⟩, hnext⟩
  | write address data =>
    obtain ⟨result, next, hwrite, hnext⟩ := write_safe h hfits
    exact ⟨next, Option.map_eq_some_iff.mpr ⟨_, hwrite, rfl⟩, hnext⟩
  | read_dma address length =>
    obtain ⟨data, next, hwords, hnext⟩ := read_words_safe h hfits
    unfold perform read_dma
    dsimp only
    split
    · exact ⟨board, rfl, h⟩
    · split
      · exact ⟨board, rfl, h⟩
      · rw [hwords]
        exact ⟨next, rfl, hnext⟩
  | write_dma address data =>
    obtain ⟨next, hwords, hnext⟩ := write_words_safe h hfits
    unfold perform write_dma
    dsimp only
    split
    · exact ⟨board, rfl, h⟩
    · split
      · exact ⟨board, rfl, h⟩
      · rw [hwords]
        exact ⟨next, rfl, hnext⟩

theorem run_safe {front back : List Access} (h : board.rex.Bounded) (hfits : board.run_fits checks (front ++ back)) :
    ∃ next, board.run checks front = some next ∧ next.rex.Bounded := by
  induction front generalizing board with
  | nil => exact ⟨board, rfl, h⟩
  | cons access front ih =>
    obtain ⟨haccess, hrest⟩ := hfits
    obtain ⟨middle, hperform, hmiddle⟩ := perform_safe h haccess
    obtain ⟨next, hrun, hnext⟩ := ih hmiddle (hrest middle hperform)
    refine ⟨next, ?_, hnext⟩
    unfold run
    rw [hperform]
    exact hrun

/-- While the commands fit, no access panics, and after each of them the
coordinates of both contexts are in range. -/
theorem coordinates_in_range {front back : List Access} (hfits : new.run_fits checks (front ++ back)) :
    ∃ board, new.run checks front = some board ∧ board.rex.current.InRange ∧ board.rex.next.InRange ∧
      board.rex.integer_x ≤ 0xfff ∧ board.rex.integer_y ≤ 0xfff := by
  obtain ⟨board, hrun, hbounded⟩ := run_safe Rex1.Bounded.new hfits
  exact ⟨board, hrun, hbounded.current, hbounded.next, hbounded.integer_x, hbounded.integer_y⟩

/-- A Z pattern drawn from column 5 continues at column 21. -/
theorem coordinates_in_range_pattern :
    ∃ board, new.run true [.write 0x3f000c [0, 0, 0, 5], .write 0x3f0800 [0, 0, 4, 1]] = some board ∧
      board.rex.current.InRange ∧ board.rex.next.InRange ∧ board.rex.integer_x ≤ 0xfff ∧ board.rex.integer_y ≤ 0xfff := by
  have hfits : new.run_fits true ([.write 0x3f000c [0, 0, 0, 5], .write 0x3f0800 [0, 0, 4, 1]] ++ []) := by
    refine ⟨trivial, fun next hnext => ⟨?_, fun _ _ => trivial⟩⟩
    obtain rfl := Option.some.inj hnext
    exact (by decide : 5 + 16 ≤ 0xfff)
  exact coordinates_in_range hfits

/-- Host pixels that go left from column 1 without a stop step below column 0,
and a Z pattern drawn from the last column continues past it. -/
theorem coordinates_escape :
    new.run true [.write 0x3f000c [0, 0, 0, 1], .write 0x3f0800 [0, 0x20, 0, 1]] = none ∧
      ∃ board, new.run true [.write 0x3f000c [0, 0, 0x0f, 0xff], .write 0x3f0800 [0, 0, 4, 1]] = some board ∧
        ¬board.rex.next.InRange := by
  refine ⟨rfl, _, rfl, ?_⟩
  intro h
  exact absurd h.xsave (by decide)

end se_device.lg1.Lg1
