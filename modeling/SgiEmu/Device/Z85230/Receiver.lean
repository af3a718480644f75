import SgiEmu.Device.Z85230
import SgiEmu.Library.Ring

open Library se_core

namespace se_device.z85230

/-! ## The receive half as it is laid out -/

instance : NeZero RECEIVE_FIFO_BYTES := ⟨by decide⟩

/-- The receive half of a channel, its FIFO in an array. -/
structure Receiver where
  write_registers : Vector U8 16
  receive_fifo : Ring ReceiveCharacter RECEIVE_FIFO_BYTES
  first_character_interrupt_armed : Bool
  receive_error_latch : U8
  receive_fifo_locked : Bool

namespace Receiver

def new : Receiver :=
  { write_registers := RESET_WRITE_REGISTERS
    receive_fifo := { entries := Vector.replicate _ { value := 0, status := ASYNC_EIGHT_BIT_RESIDUE }, head := 0, length := 0 }
    first_character_interrupt_armed := false, receive_error_latch := 0, receive_fifo_locked := false }

def write_register (receiver : Receiver) (register : Fin 16) : U8 := receiver.write_registers.get register

def receive_interrupt_mode (receiver : Receiver) : Nat := (receiver.write_register 1 >>> 3 &&& 3).toNat

def set_write_register (register : Fin 16) (value : U8) (receiver : Receiver) : Receiver :=
  let receiver := { receiver with write_registers := receiver.write_registers.set register value (ChannelState.register_lt register) }
  if register = 1 then { receiver with first_character_interrupt_armed := receiver.receive_interrupt_mode == 1 }
  else receiver

def local_loopback_enabled (receiver : Receiver) : Bool := receiver.write_register 14 &&& LOCAL_LOOPBACK != 0

def receiver_enabled (receiver : Receiver) : Bool :=
  let wr3 := receiver.write_register 3
  wr3 &&& RECEIVER_ENABLE != 0 && (wr3 &&& AUTO_ENABLE == 0 || dcd_asserted)

def receive_character (value : U8) (receiver : Receiver) : Option Receiver :=
  if receiver.receive_fifo.length = RECEIVE_FIFO_BYTES then
    (receiver.receive_fifo.replace_newest { value, status := ASYNC_EIGHT_BIT_RESIDUE ||| RECEIVE_OVERRUN_ERROR }).map
      fun receive_fifo => { receiver with receive_fifo }
  else some { receiver with receive_fifo := receiver.receive_fifo.push { value, status := ASYNC_EIGHT_BIT_RESIDUE } }

def receive_external_character (value : U8) (receiver : Receiver) : Option Receiver :=
  if receiver.local_loopback_enabled || !receiver.receiver_enabled then some receiver else receiver.receive_character value

def receive_local_loopback (value : U8) (receiver : Receiver) : Option Receiver :=
  if receiver.write_register 3 &&& RECEIVER_ENABLE ≠ 0 then receiver.receive_character value else some receiver

def special_receive_condition_mask (receiver : Receiver) : U8 :=
  let mask := RECEIVE_OVERRUN_ERROR ||| CRC_FRAMING_ERROR ||| END_OF_FRAME
  if receiver.write_register 1 &&& 0x04 ≠ 0 then mask ||| PARITY_ERROR else mask

def read_data (receiver : Receiver) : Option (U8 × Receiver) :=
  if receiver.receive_fifo.length = 0 then some (0, receiver)
  else
    receiver.receive_fifo.front.bind fun character =>
      if receiver.receive_fifo_locked then some (character.value, receiver)
      else
        let mode := receiver.receive_interrupt_mode
        let special_condition := character.status &&& receiver.special_receive_condition_mask
        let receiver :=
          { receiver with
            receive_error_latch := receiver.receive_error_latch ||| character.status &&& LATCHED_RECEIVE_ERRORS }
        if (mode = 1 ∨ mode = 3) ∧ special_condition ≠ 0 then
          some (character.value, { receiver with receive_fifo_locked := true, first_character_interrupt_armed := false })
        else
          receiver.receive_fifo.pop.map fun receive_fifo =>
            (character.value,
              { receiver with
                receive_fifo
                first_character_interrupt_armed := receiver.first_character_interrupt_armed && mode != 1 })

def enable_interrupt_on_next_receive_character (receiver : Receiver) : Receiver :=
  { receiver with first_character_interrupt_armed := true }

def reset_receive_errors (receiver : Receiver) : Option Receiver :=
  let mode := receiver.receive_interrupt_mode
  let unread_special_character : Option Bool :=
    if (mode == 1 || mode == 3) && receiver.receive_fifo.length != 0 then
      receiver.receive_fifo.front.map fun character => character.status &&& receiver.special_receive_condition_mask != 0
    else some false
  unread_special_character.bind fun unread_special_character =>
    let receive_fifo : Option (Ring ReceiveCharacter RECEIVE_FIFO_BYTES) :=
      if receiver.receive_fifo_locked || unread_special_character then receiver.receive_fifo.pop
      else some receiver.receive_fifo
    receive_fifo.map fun receive_fifo => { receiver with receive_fifo, receive_error_latch := 0, receive_fifo_locked := false }

/-- The channel with this receive half. -/
def onto (rest : ChannelState) (receiver : Receiver) : ChannelState :=
  { rest with
    write_registers := receiver.write_registers
    receive_fifo := receiver.receive_fifo.contents
    first_character_interrupt_armed := receiver.first_character_interrupt_armed
    receive_error_latch := receiver.receive_error_latch
    receive_fifo_locked := receiver.receive_fifo_locked }

end Receiver

/-- What happens to the receive half of a channel. -/
inductive ReceiveEvent where
  | receive_external_character (value : U8)
  | receive_local_loopback (value : U8)
  | read_data
  | reset_receive_errors
  | set_write_register (register : Fin 16) (value : U8)
  | enable_interrupt_on_next_receive_character
deriving DecidableEq

namespace ReceiveEvent

/-- The value an event reads, if any, and the receive half after it; `none` if the
code panics. -/
def apply (receiver : Receiver) : ReceiveEvent → Option (Option U8 × Receiver)
  | receive_external_character value => (receiver.receive_external_character value).map (none, ·)
  | receive_local_loopback value => (receiver.receive_local_loopback value).map (none, ·)
  | read_data => receiver.read_data.map fun (value, receiver) => (some value, receiver)
  | reset_receive_errors => receiver.reset_receive_errors.map (none, ·)
  | set_write_register register value => some (none, receiver.set_write_register register value)
  | enable_interrupt_on_next_receive_character => some (none, receiver.enable_interrupt_on_next_receive_character)

def on_channel (channel : ChannelState) : ReceiveEvent → Option U8 × ChannelState
  | receive_external_character value => (none, channel.receive_external_character value)
  | receive_local_loopback value => (none, channel.receive_local_loopback value)
  | read_data => (some channel.read_data.1, channel.read_data.2)
  | reset_receive_errors => (none, channel.reset_receive_errors)
  | set_write_register register value => (none, channel.set_write_register register value)
  | enable_interrupt_on_next_receive_character => (none, channel.enable_interrupt_on_next_receive_character)

end ReceiveEvent

/-! ## Reading the list -/

namespace ChannelState

variable {channel : ChannelState} {character : ReceiveCharacter} {later : List ReceiveCharacter}

/-- A character of the FIFO that locks it when it is read. -/
def Locks (channel : ChannelState) (character : ReceiveCharacter) : Prop :=
  (channel.receive_interrupt_mode = 1 ∨ channel.receive_interrupt_mode = 3) ∧
    character.status &&& channel.special_receive_condition_mask ≠ 0

theorem read_data_empty (h : channel.receive_fifo = []) : channel.read_data = (0, channel) := by
  unfold read_data
  rw [h]

theorem read_data_locked (h : channel.receive_fifo = character :: later) (hlocked : channel.receive_fifo_locked = true) :
    channel.read_data = (character.value, channel) := by
  unfold read_data
  rw [h]
  exact if_pos hlocked

theorem read_data_locks (h : channel.receive_fifo = character :: later) (hlocked : ¬channel.receive_fifo_locked = true)
    (hlocks : channel.Locks character) :
    channel.read_data =
      (character.value,
        { channel with
          receive_error_latch := channel.receive_error_latch ||| character.status &&& LATCHED_RECEIVE_ERRORS
          receive_fifo_locked := true, first_character_interrupt_armed := false }) := by
  unfold read_data
  rw [h]
  dsimp only
  rw [if_neg hlocked]
  exact if_pos hlocks

theorem read_data_next (h : channel.receive_fifo = character :: later) (hlocked : ¬channel.receive_fifo_locked = true)
    (hlocks : ¬channel.Locks character) :
    channel.read_data =
      (character.value,
        { channel with
          receive_error_latch := channel.receive_error_latch ||| character.status &&& LATCHED_RECEIVE_ERRORS
          receive_fifo := later
          first_character_interrupt_armed :=
            channel.first_character_interrupt_armed && channel.receive_interrupt_mode != 1 }) := by
  unfold read_data
  rw [h]
  dsimp only
  rw [if_neg hlocked]
  exact if_neg hlocks

end ChannelState

/-! ## The array stands for the list -/

namespace Receiver

variable {receiver : Receiver}

theorem receive_character_onto (h : receiver.receive_fifo.InRange) (value : U8) :
    ∃ next, receiver.receive_character value = some next ∧ next.receive_fifo.InRange ∧
      ∀ rest, (receiver.onto rest).receive_character value = next.onto rest := by
  have hlength := receiver.receive_fifo.contents_length
  by_cases hfull : receiver.receive_fifo.length = RECEIVE_FIFO_BYTES
  · obtain ⟨fifo, hreplace, hrange, hcontents, -⟩ :=
      @Ring.replace_newest_spec _ _ _ _ { value, status := ASYNC_EIGHT_BIT_RESIDUE ||| RECEIVE_OVERRUN_ERROR } h
        (by rw [hfull]; decide)
    refine ⟨{ receiver with receive_fifo := fifo }, ?_, hrange, fun rest => ?_⟩
    · rw [receive_character, if_pos hfull, hreplace]
      rfl
    · refine (if_pos (hlength.trans hfull)).trans ?_
      simp only [onto, hcontents]
  · have hroom : receiver.receive_fifo.length < RECEIVE_FIFO_BYTES := Nat.lt_of_le_of_ne h.length hfull
    refine ⟨_, if_neg hfull, h.push hroom, fun rest => ?_⟩
    refine (if_neg (fun heq => hfull (hlength.symm.trans heq))).trans ?_
    simp only [onto, Ring.contents_push hroom]

theorem read_data_onto (h : receiver.receive_fifo.InRange) :
    ∃ value next, receiver.read_data = some (value, next) ∧ next.receive_fifo.InRange ∧
      ∀ rest, (receiver.onto rest).read_data = (value, next.onto rest) := by
  have hlength := receiver.receive_fifo.contents_length
  cases hcontents : receiver.receive_fifo.contents with
  | nil =>
    rw [hcontents] at hlength
    exact ⟨0, receiver, if_pos hlength.symm, h, fun rest => ChannelState.read_data_empty hcontents⟩
  | cons character later =>
    rw [hcontents] at hlength
    have hsome : receiver.receive_fifo.length ≠ 0 := by
      rw [← hlength]
      exact Nat.succ_ne_zero _
    have hfront := Ring.front_spec h hcontents
    obtain ⟨fifo, hpop, hrange, hrest⟩ := Ring.pop_spec h (Nat.pos_iff_ne_zero.mpr hsome)
    rw [hcontents, List.tail_cons] at hrest
    unfold read_data
    rw [if_neg hsome, hfront, Option.bind_some]
    by_cases hlocked : receiver.receive_fifo_locked = true
    · exact ⟨character.value, receiver, if_pos hlocked, h, fun rest => ChannelState.read_data_locked hcontents hlocked⟩
    · rw [if_neg hlocked]
      dsimp only
      by_cases hlocks : (receiver.receive_interrupt_mode = 1 ∨ receiver.receive_interrupt_mode = 3) ∧
          character.status &&& receiver.special_receive_condition_mask ≠ 0
      · refine ⟨character.value, _, if_pos hlocks, h, fun rest => ?_⟩
        have honto : (receiver.onto rest).Locks character := hlocks
        exact ChannelState.read_data_locks hcontents hlocked honto
      · rw [if_neg hlocks, hpop]
        refine ⟨character.value, _, rfl, hrange, fun rest => ?_⟩
        have honto : ¬(receiver.onto rest).Locks character := hlocks
        refine (ChannelState.read_data_next hcontents hlocked honto).trans ?_
        rw [← hrest]
        rfl

/-- The test whether the oldest character is one that a reset of the errors drops. -/
def unread_special (receiver : Receiver) (entries : List ReceiveCharacter) : Bool :=
  (receiver.receive_interrupt_mode == 1 || receiver.receive_interrupt_mode == 3) &&
    (entries.take 1).any fun character => character.status &&& receiver.special_receive_condition_mask != 0

theorem reset_receive_errors_eq (h : receiver.receive_fifo.InRange) :
    receiver.reset_receive_errors =
      (if receiver.receive_fifo_locked || receiver.unread_special receiver.receive_fifo.contents then receiver.receive_fifo.pop
        else some receiver.receive_fifo).map fun receive_fifo =>
          { receiver with receive_fifo, receive_error_latch := 0, receive_fifo_locked := false } := by
  have hlength := receiver.receive_fifo.contents_length
  unfold reset_receive_errors unread_special
  dsimp only
  cases hmode : receiver.receive_interrupt_mode == 1 || receiver.receive_interrupt_mode == 3 with
  | false => rfl
  | true =>
    cases hcontents : receiver.receive_fifo.contents with
    | nil =>
      rw [hcontents] at hlength
      rw [← hlength]
      rfl
    | cons character later =>
      rw [hcontents] at hlength
      have hsome : receiver.receive_fifo.length != 0 := by
        rw [← hlength]
        rfl
      simp only [hsome, Ring.front_spec h hcontents, Bool.true_and, if_true, Option.map_some, Option.bind_some, List.take_succ_cons,
        List.take_zero, List.any_cons, List.any_nil, Bool.or_false]

theorem reset_receive_errors_onto (h : receiver.receive_fifo.InRange)
    (hlocked : receiver.receive_fifo_locked = true → receiver.receive_fifo.contents ≠ []) :
    ∃ next, receiver.reset_receive_errors = some next ∧ next.receive_fifo.InRange ∧
      ∀ rest, (receiver.onto rest).reset_receive_errors = next.onto rest := by
  have hlength := receiver.receive_fifo.contents_length
  rw [reset_receive_errors_eq h]
  have honto (rest : ChannelState) : (receiver.onto rest).reset_receive_errors =
      { receiver.onto rest with
        receive_fifo :=
          if receiver.receive_fifo_locked || receiver.unread_special receiver.receive_fifo.contents then
            receiver.receive_fifo.contents.drop 1
          else receiver.receive_fifo.contents
        receive_error_latch := 0, receive_fifo_locked := false } := rfl
  by_cases hdrop : (receiver.receive_fifo_locked || receiver.unread_special receiver.receive_fifo.contents) = true
  · have hsome : receiver.receive_fifo.contents ≠ [] := by
      intro hempty
      rw [hempty, unread_special, List.take_nil, List.any_nil, Bool.and_false, Bool.or_false] at hdrop
      exact hlocked hdrop hempty
    have hpositive : 0 < receiver.receive_fifo.length := by
      rw [← hlength]
      exact List.length_pos_iff.mpr hsome
    obtain ⟨fifo, hpop, hrange, hrest⟩ := Ring.pop_spec h hpositive
    rw [if_pos hdrop, hpop]
    refine ⟨_, rfl, hrange, fun rest => ?_⟩
    rw [honto, if_pos hdrop, List.drop_one, ← hrest]
    rfl
  · rw [if_neg hdrop]
    refine ⟨_, rfl, h, fun rest => ?_⟩
    rw [honto, if_neg hdrop]
    rfl

theorem receive_external_character_onto (h : receiver.receive_fifo.InRange) (value : U8) :
    ∃ next, receiver.receive_external_character value = some next ∧ next.receive_fifo.InRange ∧
      ∀ rest, (receiver.onto rest).receive_external_character value = next.onto rest := by
  by_cases hoff : (receiver.local_loopback_enabled || !receiver.receiver_enabled) = true
  · exact ⟨receiver, if_pos hoff, h, fun rest => if_pos hoff⟩
  · obtain ⟨next, hnext, hrange, honto⟩ := receive_character_onto h value
    exact ⟨next, (if_neg hoff).trans hnext, hrange, fun rest => (if_neg hoff).trans (honto rest)⟩

theorem receive_local_loopback_onto (h : receiver.receive_fifo.InRange) (value : U8) :
    ∃ next, receiver.receive_local_loopback value = some next ∧ next.receive_fifo.InRange ∧
      ∀ rest, (receiver.onto rest).receive_local_loopback value = next.onto rest := by
  by_cases hon : receiver.write_register 3 &&& RECEIVER_ENABLE ≠ 0
  · obtain ⟨next, hnext, hrange, honto⟩ := receive_character_onto h value
    exact ⟨next, (if_pos hon).trans hnext, hrange, fun rest => (if_pos hon).trans (honto rest)⟩
  · exact ⟨receiver, if_neg hon, h, fun rest => if_neg hon⟩

theorem set_write_register_onto (register : Fin 16) (value : U8) (rest : ChannelState) :
    (receiver.onto rest).set_write_register register value = (receiver.set_write_register register value).onto rest := by
  unfold set_write_register ChannelState.set_write_register
  by_cases hmode : register = 1
  · simp only [hmode, if_true]
    rfl
  · simp only [hmode, if_false]
    rfl

/-- Each event does to the array what it does to the list. -/
theorem apply_onto (h : receiver.receive_fifo.InRange)
    (hlocked : receiver.receive_fifo_locked = true → receiver.receive_fifo.contents ≠ []) (event : ReceiveEvent) :
    ∃ value next, event.apply receiver = some (value, next) ∧ next.receive_fifo.InRange ∧
      ∀ rest, event.on_channel (receiver.onto rest) = (value, next.onto rest) := by
  cases event with
  | receive_external_character value =>
    obtain ⟨next, hnext, hrange, honto⟩ := receive_external_character_onto h value
    exact ⟨none, next, congrArg (Option.map (none, ·)) hnext, hrange, fun rest => congrArg (none, ·) (honto rest)⟩
  | receive_local_loopback value =>
    obtain ⟨next, hnext, hrange, honto⟩ := receive_local_loopback_onto h value
    exact ⟨none, next, congrArg (Option.map (none, ·)) hnext, hrange, fun rest => congrArg (none, ·) (honto rest)⟩
  | reset_receive_errors =>
    obtain ⟨next, hnext, hrange, honto⟩ := reset_receive_errors_onto h hlocked
    exact ⟨none, next, congrArg (Option.map (none, ·)) hnext, hrange, fun rest => congrArg (none, ·) (honto rest)⟩
  | read_data =>
    obtain ⟨value, next, hnext, hrange, honto⟩ := read_data_onto h
    refine ⟨some value, next, ?_, hrange, fun rest => ?_⟩
    · simp only [ReceiveEvent.apply, hnext, Option.map_some]
    · simp only [ReceiveEvent.on_channel, honto]
  | set_write_register register value =>
    refine ⟨none, _, rfl, ?_, fun rest => congrArg (none, ·) (set_write_register_onto register value rest)⟩
    unfold set_write_register
    split <;> exact h
  | enable_interrupt_on_next_receive_character => exact ⟨none, _, rfl, h, fun rest => rfl⟩

end Receiver

/-! ## What arrives and what is read -/

/-- What is seen of a receiver: a character it accepts, a character it hands out, and
the same once more while the FIFO is locked. -/
inductive ReceiveNote where
  | Accepted (value : U8)
  | Delivered (value : U8)
  | Repeated (value : U8)
deriving DecidableEq

/-- The characters accepted. -/
def accepted (notes : List ReceiveNote) : List U8 :=
  notes.filterMap fun
    | .Accepted value => some value
    | _ => none

/-- The characters handed out, each once. -/
def delivered (notes : List ReceiveNote) : List U8 :=
  notes.filterMap fun
    | .Delivered value => some value
    | _ => none

@[simp] theorem accepted_append (first second : List ReceiveNote) : accepted (first ++ second) = accepted first ++ accepted second :=
  List.filterMap_append

@[simp] theorem delivered_append (first second : List ReceiveNote) :
    delivered (first ++ second) = delivered first ++ delivered second := List.filterMap_append

@[simp] theorem accepted_Accepted (value : U8) : accepted [.Accepted value] = [value] := rfl
@[simp] theorem accepted_Delivered (value : U8) : accepted [.Delivered value] = [] := rfl
@[simp] theorem accepted_Repeated (value : U8) : accepted [.Repeated value] = [] := rfl
@[simp] theorem delivered_Accepted (value : U8) : delivered [.Accepted value] = [] := rfl
@[simp] theorem delivered_Delivered (value : U8) : delivered [.Delivered value] = [value] := rfl
@[simp] theorem delivered_Repeated (value : U8) : delivered [.Repeated value] = [] := rfl

/-- What an event shows of a channel, `read` being the value that it reads. -/
def ReceiveEvent.notes (channel : ChannelState) (read : Option U8) : ReceiveEvent → List ReceiveNote
  | receive_external_character value =>
    if channel.local_loopback_enabled || !channel.receiver_enabled then [] else [.Accepted value]
  | receive_local_loopback value => if channel.write_register 3 &&& RECEIVER_ENABLE ≠ 0 then [.Accepted value] else []
  | read_data =>
    match channel.receive_fifo, read with
    | _ :: _, some value => if channel.receive_fifo_locked then [.Repeated value] else [.Delivered value]
    | _, _ => []
  | reset_receive_errors | set_write_register _ _ | enable_interrupt_on_next_receive_character => []

/-- The values in the FIFO that have not been read; the oldest of a locked one has. -/
def unread (locked : Bool) (entries : List ReceiveCharacter) : List U8 :=
  (if locked then entries.tail else entries).map (·.value)

/-- The status a character gets. -/
def Received (character : ReceiveCharacter) : Prop :=
  character.status = ASYNC_EIGHT_BIT_RESIDUE ∨ character.status = ASYNC_EIGHT_BIT_RESIDUE ||| RECEIVE_OVERRUN_ERROR

/-- The FIFO holds, in order, what has arrived and has not been read, less what was
lost. -/
structure Receives (notes : List ReceiveNote) (channel : ChannelState) : Prop where
  length : channel.receive_fifo.length ≤ RECEIVE_FIFO_BYTES
  received : ∀ character ∈ channel.receive_fifo, Received character
  order : (delivered notes ++ unread channel.receive_fifo_locked channel.receive_fifo).Sublist (accepted notes)
  locked : channel.receive_fifo_locked = true → ∃ character later, channel.receive_fifo = character :: later ∧
    character.status = ASYNC_EIGHT_BIT_RESIDUE ||| RECEIVE_OVERRUN_ERROR ∧
      (delivered notes).getLast? = some character.value

namespace Receives

variable {notes : List ReceiveNote} {channel other : ChannelState}

/-- An event that leaves the FIFO alone. -/
theorem congr (h : Receives notes channel) (hfifo : other.receive_fifo = channel.receive_fifo)
    (hlocked : other.receive_fifo_locked = channel.receive_fifo_locked) : Receives notes other where
  length := by
    rw [hfifo]
    exact h.length
  received := by
    rw [hfifo]
    exact h.received
  order := by
    rw [hfifo, hlocked]
    exact h.order
  locked := by
    rw [hfifo, hlocked]
    exact h.locked

theorem unread_append {locked : Bool} {entries : List ReceiveCharacter} (h : locked = true → entries ≠ [])
    (character : ReceiveCharacter) : unread locked (entries ++ [character]) = unread locked entries ++ [character.value] := by
  unfold unread
  cases locked with
  | false => exact List.map_append
  | true =>
    rw [if_pos rfl, if_pos rfl, List.tail_append_of_ne_nil (h rfl)]
    exact List.map_append

/-- An event that queues a character behind some of the FIFO. -/
theorem queue (h : Receives notes channel) {entries : List ReceiveCharacter} {character : ReceiveCharacter}
    (hfront : entries <+: channel.receive_fifo) (hroom : entries.length < RECEIVE_FIFO_BYTES)
    (hsome : channel.receive_fifo_locked = true → entries ≠ []) (hstatus : Received character) :
    Receives (notes ++ [.Accepted character.value]) { channel with receive_fifo := entries ++ [character] } where
  length := by
    rw [List.length_append]
    exact hroom
  received := by
    intro other hother
    rcases List.mem_append.mp hother with hold | hnew
    · exact h.received other (hfront.subset hold)
    · rwa [List.mem_singleton.mp hnew]
  order := by
    have hunread : (unread channel.receive_fifo_locked entries).Sublist
        (unread channel.receive_fifo_locked channel.receive_fifo) := by
      unfold unread
      apply List.Sublist.map
      split
      · exact hfront.sublist.tail
      · exact hfront.sublist
    have horder := ((hunread.append_left _).trans h.order).append (List.Sublist.refl [character.value])
    rw [List.append_assoc, ← unread_append hsome] at horder
    simpa using horder
  locked := by
    intro hlocked
    obtain ⟨first, later, hfifo, hoverrun, hread⟩ := h.locked hlocked
    rw [hfifo] at hfront
    rcases List.prefix_cons_iff.mp hfront with hempty | ⟨rest, hentries, -⟩
    · exact absurd hempty (hsome hlocked)
    · refine ⟨first, rest ++ [character], ?_, hoverrun, ?_⟩
      · rw [hentries]
        rfl
      · simpa using hread

/-- A character that arrives is the newest; it takes the place of the newest of a full
FIFO. -/
theorem receive_character (h : Receives notes channel) (value : U8) :
    Receives (notes ++ [.Accepted value]) (channel.receive_character value) := by
  unfold ChannelState.receive_character
  have hlength := h.length
  split
  · case isTrue hfull =>
    have hdrop : channel.receive_fifo.dropLast.length = 7 := by
      rw [List.length_dropLast, hfull]
      rfl
    refine @queue _ _ h _ { value, status := ASYNC_EIGHT_BIT_RESIDUE ||| RECEIVE_OVERRUN_ERROR } (List.dropLast_prefix _)
      (by rw [hdrop]; decide) (fun _ hempty => ?_) (Or.inr rfl)
    rw [hempty] at hdrop
    cases hdrop
  · case isFalse hroom =>
    refine @queue _ _ h _ { value, status := ASYNC_EIGHT_BIT_RESIDUE } (List.prefix_refl _)
      (Nat.lt_of_le_of_ne hlength hroom) (fun hlocked hempty => ?_) (Or.inl rfl)
    obtain ⟨first, later, hfifo, -⟩ := h.locked hlocked
    rw [hfifo] at hempty
    cases hempty

theorem special (channel : ChannelState) : (ASYNC_EIGHT_BIT_RESIDUE ||| RECEIVE_OVERRUN_ERROR) &&&
    channel.special_receive_condition_mask ≠ 0 := by
  unfold ChannelState.special_receive_condition_mask
  split <;> decide

theorem not_special (channel : ChannelState) : ASYNC_EIGHT_BIT_RESIDUE &&& channel.special_receive_condition_mask = 0 := by
  unfold ChannelState.special_receive_condition_mask
  split <;> decide

/-- A read hands out the oldest character once, and again while the FIFO is locked. -/
theorem read_data (h : Receives notes channel) :
    Receives (notes ++ ReceiveEvent.read_data.notes channel (some channel.read_data.1)) channel.read_data.2 := by
  unfold ReceiveEvent.notes
  cases hfifo : channel.receive_fifo with
  | nil =>
    rw [ChannelState.read_data_empty hfifo, List.append_nil]
    exact h
  | cons character later =>
    dsimp only
    have horder := h.order
    have hlength := h.length
    have hreceived := List.forall_mem_cons.mp (hfifo ▸ h.received)
    by_cases hlocked : channel.receive_fifo_locked = true
    · rw [ChannelState.read_data_locked hfifo hlocked, if_pos hlocked]
      refine ⟨h.length, h.received, ?_, fun hlock => ?_⟩
      · simpa using h.order
      · simpa using h.locked hlock
    · have hunlocked : channel.receive_fifo_locked = false := Bool.not_eq_true _ ▸ hlocked
      rw [hfifo, hunlocked] at horder
      rw [if_neg hlocked]
      by_cases hlocks : channel.Locks character
      · rw [ChannelState.read_data_locks hfifo hlocked hlocks]
        refine ⟨h.length, h.received, ?_, fun _ => ⟨character, later, hfifo, ?_, ?_⟩⟩
        · simpa [unread, hfifo] using horder
        · rcases hreceived.1 with hplain | hoverrun
          · have hspecial := hlocks.2
            rw [hplain, not_special] at hspecial
            exact absurd rfl hspecial
          · exact hoverrun
        · simp
      · rw [ChannelState.read_data_next hfifo hlocked hlocks]
        rw [hfifo, List.length_cons] at hlength
        refine ⟨Nat.le_of_succ_le hlength, hreceived.2, ?_, fun hlock => absurd hlock hlocked⟩
        simpa [unread, hunlocked] using horder

/-- A reset of the errors drops the character of a locked FIFO, which has been read. -/
theorem reset_receive_errors (h : Receives notes channel) : Receives notes channel.reset_receive_errors := by
  unfold ChannelState.reset_receive_errors
  dsimp only
  have horder := h.order
  split
  · refine ⟨?_, ?_, ?_, nofun⟩
    · rw [List.length_drop]
      exact Nat.le_trans (Nat.sub_le _ _) h.length
    · exact fun character hcharacter => h.received character (List.mem_of_mem_drop hcharacter)
    · dsimp only
      refine List.Sublist.trans ?_ horder
      apply List.Sublist.append_left
      rw [List.drop_one]
      simp only [unread, Bool.false_eq_true, if_false]
      apply List.Sublist.map
      split
      · exact List.Sublist.refl _
      · exact List.tail_sublist _
  · case isFalse hkeep =>
    have hunlocked : channel.receive_fifo_locked = false := by
      rw [← Bool.not_eq_true]
      intro hlocked
      rw [hlocked] at hkeep
      exact hkeep rfl
    rw [hunlocked] at horder
    exact ⟨h.length, h.received, horder, nofun⟩

theorem on_channel (h : Receives notes channel) (event : ReceiveEvent) :
    Receives (notes ++ event.notes channel (event.on_channel channel).1) (event.on_channel channel).2 := by
  cases event with
  | receive_external_character value =>
    unfold ReceiveEvent.notes ReceiveEvent.on_channel ChannelState.receive_external_character
    dsimp only
    split
    · rw [List.append_nil]
      exact h
    · exact h.receive_character value
  | receive_local_loopback value =>
    unfold ReceiveEvent.notes ReceiveEvent.on_channel ChannelState.receive_local_loopback
    dsimp only
    split
    · exact h.receive_character value
    · rw [List.append_nil]
      exact h
  | read_data => exact h.read_data
  | reset_receive_errors =>
    rw [ReceiveEvent.notes, List.append_nil]
    exact h.reset_receive_errors
  | set_write_register register value =>
    rw [ReceiveEvent.notes, List.append_nil]
    refine h.congr ?_ ?_
    all_goals
      unfold ReceiveEvent.on_channel ChannelState.set_write_register
      dsimp only
      split <;> rfl
  | enable_interrupt_on_next_receive_character =>
    rw [ReceiveEvent.notes, List.append_nil]
    exact h.congr rfl rfl

end Receives

/-! ## Runs -/

/-- What a run of events shows and the receive half after it. -/
def receive_run (receiver : Receiver) : List ReceiveEvent → Option (List ReceiveNote × Receiver)
  | [] => some ([], receiver)
  | event :: events =>
    (event.apply receiver).bind fun (read, next) =>
      (receive_run next events).map fun (notes, last) => (event.notes (receiver.onto .new) read ++ notes, last)

variable {notes : List ReceiveNote} {receiver : Receiver}

theorem Receives.nonempty (h : Receives notes (receiver.onto .new)) :
    receiver.receive_fifo_locked = true → receiver.receive_fifo.contents ≠ [] := by
  intro hlocked hempty
  obtain ⟨first, later, hfifo, -⟩ := h.locked hlocked
  have hcontents : receiver.receive_fifo.contents = first :: later := hfifo
  rw [hempty] at hcontents
  cases hcontents

/-- No run panics, and the array keeps to the list. -/
theorem receive_run_spec (h : Receives notes (receiver.onto .new)) (hrange : receiver.receive_fifo.InRange)
    (events : List ReceiveEvent) :
    ∃ more last, receive_run receiver events = some (more, last) ∧ last.receive_fifo.InRange ∧
      Receives (notes ++ more) (last.onto .new) := by
  induction events generalizing notes receiver with
  | nil => exact ⟨[], receiver, rfl, hrange, by rwa [List.append_nil]⟩
  | cons event events ih =>
    obtain ⟨value, next, hnext, hinside, honto⟩ := Receiver.apply_onto hrange h.nonempty event
    have hstep := h.on_channel event
    rw [honto] at hstep
    obtain ⟨more, last, hrun, hlast, hreceives⟩ := ih hstep hinside
    refine ⟨event.notes (receiver.onto .new) value ++ more, last, ?_, hlast, ?_⟩
    · simp only [receive_run, hnext, hrun, Option.bind_some, Option.map_some]
    · rwa [← List.append_assoc]

theorem receives_new : Receives [] (Receiver.new.onto .new) := ⟨Nat.zero_le _, nofun, List.Sublist.refl _, nofun⟩

/-- A character that arrives behind another leaves it the oldest. -/
theorem receive_character_head (channel : ChannelState) (value : U8) (h : channel.receive_fifo ≠ []) :
    (channel.receive_character value).receive_fifo_locked = channel.receive_fifo_locked ∧
      (channel.receive_character value).receive_fifo.head? = channel.receive_fifo.head? := by
  unfold ChannelState.receive_character
  split
  · case isTrue hfull =>
    refine ⟨rfl, ?_⟩
    obtain ⟨first, later, hfifo⟩ := List.exists_cons_of_ne_nil h
    rw [hfifo] at hfull
    have hmore : later ≠ [] := by
      rintro rfl
      cases hfull
    dsimp only
    rw [hfifo, List.dropLast_cons_of_ne_nil hmore]
    rfl
  · obtain ⟨first, later, hfifo⟩ := List.exists_cons_of_ne_nil h
    refine ⟨rfl, ?_⟩
    dsimp only
    rw [hfifo]
    rfl

/-- A locked FIFO keeps its oldest character until the errors are reset. -/
theorem on_channel_locked {channel : ChannelState} (hlocked : channel.receive_fifo_locked = true)
    (hsome : channel.receive_fifo ≠ []) (event : ReceiveEvent) :
    if event = .reset_receive_errors then
      (event.on_channel channel).2.receive_fifo_locked = false ∧
        (event.on_channel channel).2.receive_fifo = channel.receive_fifo.tail
    else
      (event.on_channel channel).2.receive_fifo_locked = true ∧
        (event.on_channel channel).2.receive_fifo.head? = channel.receive_fifo.head? := by
  have harrival (value : U8) := receive_character_head channel value hsome
  rw [hlocked] at harrival
  cases event with
  | receive_external_character value =>
    rw [if_neg nofun]
    unfold ReceiveEvent.on_channel ChannelState.receive_external_character
    dsimp only
    split
    · exact ⟨hlocked, rfl⟩
    · exact harrival value
  | receive_local_loopback value =>
    rw [if_neg nofun]
    unfold ReceiveEvent.on_channel ChannelState.receive_local_loopback
    dsimp only
    split
    · exact harrival value
    · exact ⟨hlocked, rfl⟩
  | read_data =>
    obtain ⟨first, later, hfifo⟩ := List.exists_cons_of_ne_nil hsome
    rw [if_neg nofun, ReceiveEvent.on_channel, ChannelState.read_data_locked hfifo hlocked]
    exact ⟨hlocked, rfl⟩
  | reset_receive_errors =>
    rw [if_pos rfl]
    unfold ReceiveEvent.on_channel ChannelState.reset_receive_errors
    dsimp only
    rw [hlocked, Bool.true_or, if_pos rfl, List.drop_one]
    exact ⟨rfl, rfl⟩
  | set_write_register register value =>
    rw [if_neg nofun]
    unfold ReceiveEvent.on_channel ChannelState.set_write_register
    dsimp only
    split <;> exact ⟨hlocked, rfl⟩
  | enable_interrupt_on_next_receive_character =>
    rw [if_neg nofun]
    exact ⟨hlocked, rfl⟩

end se_device.z85230
