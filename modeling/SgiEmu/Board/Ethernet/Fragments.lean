import SgiEmu.Board.Ethernet.Gather

open se_core se_device se_device.hpc1 Library.Mask

namespace se_device.hpc1

/-- The bytes the present buffer still has to give. -/
def TransmitHalf.count (half : TransmitHalf) : Nat := (half.byte_count &&& ETHERNET_BYTE_COUNT_MASK).toNat

/-- A packet is being gathered, or its fault waits to be reported. -/
structure TransmitHalf.Gathering (half : TransmitHalf) : Prop where
  not_idle : half.stage ≠ .Idle
  not_wire : half.stage ≠ .Wire
  active : half.stage ≠ .Fault → half.active = true
  fits : half.frame.length ≤ MAX_ETHERNET_FRAME_BYTES

end se_device.hpc1

namespace se_machine.ip12

/-- What the packet that is being gathered comes to, after so many requests more. -/
def Remaining (memory : U32 → Option U8) (half : TransmitHalf) (outcome : PacketOutcome) (requests : Nat) : Prop :=
  match half.stage with
  | .Descriptor => Gathers memory half.next_descriptor_pointer half.frame outcome requests
  | .Data =>
    ∃ rest, requests = chunks half.count + rest ∧
      Continues memory half.frame (fragment_bytes memory half.current_buffer_pointer half.count) half.end_of_packet
        half.end_of_chain half.next_descriptor_pointer outcome rest
  | .Send => outcome = .sent half.frame half.next_descriptor_pointer half.end_of_chain ∧ requests = 1
  | .Fault => outcome = .underflow ∧ requests = 1
  | .Idle | .Wire => False

/-- A read of the packet brings it on and leaves what it comes to. -/
structure Goes (memory : U32 → Option U8) (before after : TransmitHalf) : Prop where
  gathering : after.Gathering
  alone : after.inflight = none
  begun : after.stage ≠ .Descriptor
  back : ∀ outcome requests, Remaining memory after outcome requests → ∃ more, Remaining memory before outcome more
  forth : ∀ outcome requests, Remaining memory before outcome requests →
    ∃ fewer, fewer < requests ∧ Remaining memory after outcome fewer

variable {memory : U32 → Option U8}

theorem read_dma_length {address : U32} {length : Nat} {data : List U8} (h : read_dma memory address length = some data) :
    data.length = length := by
  have hmapM : ∀ (list : List Nat) (f : Nat → Option U8) (data : List U8), list.mapM f = some data →
      data.length = list.length := by
    intro list f
    induction list with
    | nil =>
      intro data h
      obtain rfl := Option.some.inj h
      rfl
    | cons head tail ih =>
      intro data h
      rw [List.mapM_cons] at h
      obtain ⟨byte, -, h⟩ := Option.bind_eq_some_iff.mp h
      obtain ⟨rest, hrest, h⟩ := Option.bind_eq_some_iff.mp h
      obtain rfl := Option.some.inj h
      rw [List.length_cons, List.length_cons, ih rest hrest]
  rw [hmapM _ _ _ h, List.length_range]

theorem chunks_zero : chunks 0 = 0 := rfl

theorem chunks_succ {count : Nat} (h : count ≠ 0) : chunks count = chunks (count - min count 32) + 1 := by
  unfold chunks
  omega

theorem fragment_bytes_zero (memory : U32 → Option U8) (buffer : U32) : fragment_bytes memory buffer 0 = some [] := rfl

/-- Bytes move from what is to come to what is gathered. -/
theorem continues_append {frame chunk : List U8} {rest : Option (List U8)} {end_of_packet end_of_chain : Bool} {next : U32}
    {outcome : PacketOutcome} {requests : Nat} :
    Continues memory frame (rest.map (chunk ++ ·)) end_of_packet end_of_chain next outcome requests ↔
      Continues memory (frame ++ chunk) rest end_of_packet end_of_chain next outcome requests := by
  cases rest with
  | none => exact Iff.rfl
  | some bytes =>
    unfold Continues
    dsimp only [Option.map_some]
    rw [List.append_assoc]

/-- A frame that is too long already comes to an underflow, whatever follows. -/
theorem continues_oversize {frame chunk : List U8} (hlong : MAX_ETHERNET_FRAME_BYTES < frame.length + chunk.length)
    {rest : Option (List U8)} {end_of_packet end_of_chain : Bool} {next : U32} {outcome : PacketOutcome} {requests : Nat} :
    Continues memory frame (rest.map (chunk ++ ·)) end_of_packet end_of_chain next outcome requests ↔
      outcome = .underflow ∧ requests = 1 := by
  cases rest with
  | none => exact Iff.rfl
  | some bytes =>
    unfold Continues
    dsimp only [Option.map_some]
    rw [if_pos]
    rw [List.length_append, List.length_append]
    omega

theorem remaining_descriptor {half : TransmitHalf} (hstage : half.stage = .Descriptor) (outcome : PacketOutcome)
    (requests : Nat) : Remaining memory half outcome requests ↔
      Gathers memory half.next_descriptor_pointer half.frame outcome requests := by
  unfold Remaining
  rw [hstage]

theorem remaining_data {half : TransmitHalf} (hstage : half.stage = .Data) (outcome : PacketOutcome) (requests : Nat) :
    Remaining memory half outcome requests ↔ ∃ rest, requests = chunks half.count + rest ∧
      Continues memory half.frame (fragment_bytes memory half.current_buffer_pointer half.count) half.end_of_packet
        half.end_of_chain half.next_descriptor_pointer outcome rest := by
  unfold Remaining
  rw [hstage]

theorem remaining_fault {half : TransmitHalf} (hstage : half.stage = .Fault) (outcome : PacketOutcome) (requests : Nat) :
    Remaining memory half outcome requests ↔ outcome = .underflow ∧ requests = 1 := by
  unfold Remaining
  rw [hstage]

variable {channel : EthernetChannel}

/-! ## One read -/

theorem fail_read_gathering {kind : EthernetReadKind} (hkind : kind ≠ .ReceiveDescriptor)
    (hnone : channel.transmit_inflight = none) :
    (channel.fail_read kind).transmit_half.Gathering ∧ (channel.fail_read kind).transmit_half.inflight = none ∧
      (channel.fail_read kind).transmit_half.stage = .Fault := by
  cases kind with
  | ReceiveDescriptor => exact absurd rfl hkind
  | TransmitDescriptor => exact ⟨⟨nofun, nofun, fun h => absurd rfl h, Nat.zero_le _⟩, hnone, rfl⟩
  | TransmitData => exact ⟨⟨nofun, nofun, fun h => absurd rfl h, Nat.zero_le _⟩, hnone, rfl⟩

/-- A read fails that the packet cannot do without. -/
theorem Goes.fails {before : TransmitHalf} {kind : EthernetReadKind} (hkind : kind ≠ .ReceiveDescriptor)
    (hnone : channel.transmit_inflight = none)
    (hunderflow : ∀ outcome requests, Remaining memory before outcome requests → outcome = .underflow ∧ 1 < requests)
    (hsome : ∃ requests, Remaining memory before .underflow requests) :
    Goes memory before (channel.fail_read kind).transmit_half := by
  obtain ⟨hgathering, halone, hstage⟩ := fail_read_gathering hkind hnone
  refine ⟨hgathering, halone, by rw [hstage]; decide, ?_, ?_⟩
  · intro outcome requests hremaining
    obtain ⟨rfl, -⟩ := (remaining_fault hstage _ _).mp hremaining
    exact hsome
  · intro outcome requests hremaining
    obtain ⟨rfl, hmore⟩ := hunderflow outcome requests hremaining
    exact ⟨1, hmore, (remaining_fault hstage _ _).mpr ⟨rfl, rfl⟩⟩

theorem loaded_count (channel : EthernetChannel) (data : List U8) :
    (channel.load_transmit_descriptor (be_word data 0) (be_word data 4)
      (be_word data 8 &&& ETHERNET_ADDRESS_MASK)).transmit_half.count = (TransmitDescriptor.parse data).count := by
  unfold TransmitHalf.count TransmitDescriptor.count
  apply congrArg BitVec.toNat
  show be_word data 0 &&& ETHERNET_TRANSMIT_BYTE_COUNT_MASK &&& ETHERNET_BYTE_COUNT_MASK = _
  rw [BitVec.and_assoc]
  rfl

/-- The buffer pointer keeps the address of the buffer. -/
theorem loaded_bytes (channel : EthernetChannel) (data : List U8) (count : Nat) :
    fragment_bytes memory (channel.load_transmit_descriptor (be_word data 0) (be_word data 4)
      (be_word data 8 &&& ETHERNET_ADDRESS_MASK)).transmit_half.current_buffer_pointer count =
        fragment_bytes memory (TransmitDescriptor.parse data).buffer count := by
  rw [← fragment_bytes_mask, ← fragment_bytes_mask memory (TransmitDescriptor.parse data).buffer]
  show fragment_bytes memory (be_word data 4 &&& ETHERNET_CURRENT_BUFFER_POINTER_MASK &&& ETHERNET_ADDRESS_MASK) _ = _
  rw [BitVec.and_assoc]
  rfl

/-- A descriptor is read. -/
theorem descriptor_goes (h : channel.transmit_half.Gathering) (hnone : channel.transmit_inflight = none)
    (hstage : channel.transmit_half.stage = .Descriptor) :
    Goes memory channel.transmit_half (channel.complete_read .TransmitDescriptor
      (read_dma memory channel.next_transmit_descriptor_pointer 12)).transmit_half := by
  have hactive : channel.transmit_half.active = true := h.active (by rw [hstage]; decide)
  cases hread : read_dma memory channel.next_transmit_descriptor_pointer 12 with
  | none =>
    have hunreadable : TransmitDescriptor.read memory channel.next_transmit_descriptor_pointer = none := by
      unfold TransmitDescriptor.read
      rw [hread]
      rfl
    refine Goes.fails nofun hnone ?_ ⟨2, (remaining_descriptor hstage _ _).mpr (.unreadable hunreadable)⟩
    intro outcome requests hbefore
    obtain ⟨rfl, rfl⟩ := (gathers_unreadable hunreadable).mp ((remaining_descriptor hstage _ _).mp hbefore)
    exact ⟨rfl, by decide⟩
  | some data =>
    have hreadable : TransmitDescriptor.read memory channel.next_transmit_descriptor_pointer =
        some (TransmitDescriptor.parse data) := by
      unfold TransmitDescriptor.read
      rw [hread]
      rfl
    unfold EthernetChannel.complete_read
    dsimp only
    rw [if_neg (not_not_intro (read_dma_length hread))]
    generalize hdelayed : ({ channel with dma_delay_attoseconds := _ } : EthernetChannel) = delayed
    have hloaded : ∀ outcome requests, Remaining memory (delayed.load_transmit_descriptor (be_word data 0)
        (be_word data 4) (be_word data 8 &&& ETHERNET_ADDRESS_MASK)).transmit_half outcome requests ↔
          ∃ rest, requests = chunks (TransmitDescriptor.parse data).count + rest ∧
            Continues memory channel.transmit_frame ((TransmitDescriptor.parse data).bytes memory)
              (TransmitDescriptor.parse data).end_of_packet (TransmitDescriptor.parse data).end_of_chain
              (TransmitDescriptor.parse data).next outcome rest := by
      intro outcome requests
      rw [remaining_data (by rfl), loaded_count, loaded_bytes, ← hdelayed]
      exact Iff.rfl
    refine ⟨?_, by rw [← hdelayed]; exact hnone, nofun, ?_, ?_⟩
    · rw [← hdelayed]
      exact ⟨nofun, nofun, fun _ => hactive, h.fits⟩
    · intro outcome requests hrest
      obtain ⟨rest, -, hcontinues⟩ := (hloaded _ _).mp hrest
      exact ⟨_, (remaining_descriptor hstage _ _).mpr ((gathers_readable hreadable).mpr ⟨rest, rfl, hcontinues⟩)⟩
    · intro outcome requests hbefore
      obtain ⟨rest, rfl, hcontinues⟩ := (gathers_readable hreadable).mp ((remaining_descriptor hstage _ _).mp hbefore)
      exact ⟨_, by omega, (hloaded _ _).mpr ⟨rest, rfl, hcontinues⟩⟩

theorem gathered_count {chunk : List U8} (h : chunk.length ≤ channel.transmit_half.count) :
    (channel.gather_transmit_data chunk).transmit_half.count = channel.transmit_half.count - chunk.length := by
  have hmask : ETHERNET_BYTE_COUNT_MASK.toNat = 2 ^ 13 - 1 := by decide
  have hlt : channel.transmit_half.count < 2 ^ 13 := by
    unfold TransmitHalf.count
    rw [toNat_and_low hmask]
    omega
  show ((channel.transmit_byte_count &&& ~~~ETHERNET_BYTE_COUNT_MASK |||
    BitVec.ofNat 32 (channel.transmit_half.count - chunk.length)) &&& ETHERNET_BYTE_COUNT_MASK).toNat = _
  rw [or_and_of_disjoint_left (and_not_and_self ..), toNat_and_low hmask, BitVec.toNat_ofNat]
  omega

theorem gathered_bytes (channel : EthernetChannel) (chunk : List U8) (count : Nat) :
    fragment_bytes memory (channel.gather_transmit_data chunk).transmit_half.current_buffer_pointer count =
      fragment_bytes memory (wrapped channel.current_transmit_buffer_pointer chunk.length) count := by
  rw [← fragment_bytes_mask, ← advanced_pointer channel.current_transmit_buffer_pointer]
  rfl

/-- A chunk of the buffer is read. -/
theorem data_goes (h : channel.transmit_half.Gathering) (hnone : channel.transmit_inflight = none)
    (hstage : channel.transmit_half.stage = .Data) (hlength : channel.transmit_length ≠ 0) :
    Goes memory channel.transmit_half (channel.complete_read .TransmitData
      (read_dma memory (channel.current_transmit_buffer_pointer &&& ETHERNET_ADDRESS_MASK)
        channel.transmit_length)).transmit_half := by
  have hactive : channel.transmit_half.active = true := h.active (by rw [hstage]; decide)
  have hlength' : channel.transmit_length = min channel.transmit_half.count 32 := rfl
  have hchunks : chunks channel.transmit_half.count = chunks (channel.transmit_half.count - channel.transmit_length) + 1 := by
    rw [hlength']
    apply chunks_succ
    omega
  have hbefore : ∀ outcome requests, Remaining memory channel.transmit_half outcome requests ↔
      ∃ rest, requests = chunks channel.transmit_half.count + rest ∧ Continues memory channel.transmit_frame
        (fragment_bytes memory channel.current_transmit_buffer_pointer channel.transmit_half.count)
        channel.transmit_end_of_packet channel.transmit_end_of_chain channel.next_transmit_descriptor_pointer outcome rest :=
    remaining_data hstage
  rw [fragment_bytes_chunk, ← hlength'] at hbefore
  cases hread : read_dma memory (channel.current_transmit_buffer_pointer &&& ETHERNET_ADDRESS_MASK)
      channel.transmit_length with
  | none =>
    rw [hread] at hbefore
    refine Goes.fails nofun hnone ?_ ⟨_, (hbefore _ _).mpr ⟨1, rfl, rfl, rfl⟩⟩
    intro outcome requests hremaining
    obtain ⟨rest, rfl, rfl, rfl⟩ := (hbefore _ _).mp hremaining
    exact ⟨rfl, by omega⟩
  | some chunk =>
    rw [hread] at hbefore
    have hchunk : chunk.length = channel.transmit_length := read_dma_length hread
    unfold EthernetChannel.complete_read
    dsimp only
    split
    · rename_i hlong
      refine Goes.fails nofun ?_ ?_ ⟨_, (hbefore _ _).mpr ⟨1, rfl, (continues_oversize hlong).mpr ⟨rfl, rfl⟩⟩⟩
      · exact hnone
      · intro outcome requests hremaining
        obtain ⟨rest, rfl, hcontinues⟩ := (hbefore _ _).mp hremaining
        obtain ⟨rfl, rfl⟩ := (continues_oversize hlong).mp hcontinues
        exact ⟨rfl, by omega⟩
    · rename_i hfits
      generalize hdelayed : ({ channel with dma_delay_attoseconds := _ } : EthernetChannel) = delayed
      have hcount : (delayed.gather_transmit_data chunk).transmit_half.count =
          channel.transmit_half.count - channel.transmit_length := by
        rw [gathered_count (by rw [← hdelayed]; show _ ≤ channel.transmit_half.count; omega), ← hdelayed, hchunk]
        rfl
      have hafter : ∀ outcome requests, Remaining memory (delayed.gather_transmit_data chunk).transmit_half outcome requests ↔
          ∃ rest, requests = chunks (channel.transmit_half.count - channel.transmit_length) + rest ∧
            Continues memory (channel.transmit_frame ++ chunk)
              (fragment_bytes memory (wrapped channel.current_transmit_buffer_pointer channel.transmit_length)
                (channel.transmit_half.count - channel.transmit_length))
              channel.transmit_end_of_packet channel.transmit_end_of_chain channel.next_transmit_descriptor_pointer
              outcome rest := by
        intro outcome requests
        rw [remaining_data (by rw [← hdelayed]; exact hstage), hcount, gathered_bytes, ← hdelayed, hchunk]
        exact Iff.rfl
      have hstage' : (delayed.gather_transmit_data chunk).transmit_half.stage = .Data := by
        rw [← hdelayed]
        exact hstage
      refine ⟨?_, by rw [← hdelayed]; exact hnone, by rw [hstage']; decide, ?_, ?_⟩
      · rw [← hdelayed]
        refine ⟨h.not_idle, h.not_wire, fun _ => hactive, ?_⟩
        show (channel.transmit_frame ++ chunk).length ≤ _
        rw [List.length_append]
        exact Nat.le_of_not_lt hfits
      · intro outcome requests hrest
        obtain ⟨rest, -, hcontinues⟩ := (hafter _ _).mp hrest
        exact ⟨_, (hbefore _ _).mpr ⟨rest, rfl, continues_append.mpr hcontinues⟩⟩
      · intro outcome requests hremaining
        obtain ⟨rest, rfl, hcontinues⟩ := (hbefore _ _).mp hremaining
        exact ⟨_, by omega, (hafter _ _).mpr ⟨rest, rfl, continues_append.mp hcontinues⟩⟩

/-- An exhausted buffer leads where the packet goes on. -/
theorem leave_data_remaining (h : channel.transmit_half.Gathering) (hstage : channel.transmit_stage = .Data)
    (hlength : channel.transmit_length = 0) (outcome : PacketOutcome) (requests : Nat) :
    Remaining memory channel.leave_data.transmit_half outcome requests ↔
      Remaining memory channel.transmit_half outcome requests := by
  have hcount : channel.transmit_half.count = 0 := by
    have hlength' : channel.transmit_length = min channel.transmit_half.count 32 := rfl
    omega
  have hfits : ¬MAX_ETHERNET_FRAME_BYTES < (channel.transmit_frame ++ []).length := by
    rw [List.append_nil]
    exact Nat.not_lt_of_le h.fits
  have hbefore : Remaining memory channel.transmit_half outcome requests ↔
      Continues memory channel.transmit_frame (some []) channel.transmit_end_of_packet channel.transmit_end_of_chain
        channel.next_transmit_descriptor_pointer outcome requests := by
    unfold Remaining
    rw [show channel.transmit_half.stage = .Data from hstage]
    dsimp only
    rw [hcount, chunks_zero, fragment_bytes_zero]
    constructor
    · rintro ⟨rest, rfl, hcontinues⟩
      rw [Nat.zero_add]
      exact hcontinues
    · intro hcontinues
      exact ⟨requests, (Nat.zero_add _).symm, hcontinues⟩
  have hafter : channel.leave_data.transmit_half = { channel.transmit_half with
      stage := if channel.transmit_end_of_packet then .Send else if channel.transmit_end_of_chain then .Fault else .Descriptor } := rfl
  rw [hbefore, hafter]
  unfold Continues Remaining
  dsimp only
  rw [if_neg hfits, List.append_nil]
  cases channel.transmit_end_of_packet with
  | true => exact Iff.rfl
  | false =>
    cases channel.transmit_end_of_chain with
    | true => exact Iff.rfl
    | false => exact Iff.rfl

/-! ## One request -/

/-- What the transmit side asks while it gathers a packet: it reads, it waits for
the controller, or it hands over what the packet has come to. -/
inductive Asked (memory : U32 → Option U8) (ready : Bool) (before : TransmitHalf) :
    Option EthernetRequest × EthernetChannel → Prop where
  | reads {address : U32} {length : Nat} {kind : EthernetReadKind} {after : EthernetChannel}
      (hgoes : Goes memory before (after.complete_read kind (read_dma memory address length)).transmit_half) :
      Asked memory ready before (some (.Read address length kind), after)
  | waits {after : EthernetChannel} (hready : ready = false) (hgathering : after.transmit_half.Gathering)
      (hnone : after.transmit_half.inflight = none) (hbegun : after.transmit_half.stage ≠ .Descriptor)
      (hsame : ∀ outcome requests, Remaining memory after.transmit_half outcome requests ↔
        Remaining memory before outcome requests) : Asked memory ready before (none, after)
  | sends {after : EthernetChannel} {context : EthernetTransmitContext} (hattached : context.dma_attached = true)
      (hchain : context.end_of_chain = before.end_of_chain)
      (hafter : after.transmit_half = { before with stage := .Wire, inflight := some context, frame := [] })
      (hremaining : Remaining memory before (.sent before.frame before.next_descriptor_pointer before.end_of_chain) 1) :
      Asked memory ready before (some (.Transmit before.frame), after)
  | reports {after : EthernetChannel} (hnone : after.transmit_half.inflight = none)
      (hremaining : Remaining memory before .underflow 1) : Asked memory ready before (some .Underflow, after)

/-- A request for a stage other than an exhausted buffer's. -/
theorem transmit_request_from_asked (h : channel.transmit_half.Gathering) (hnone : channel.transmit_half.inflight = none)
    (ready : Bool) (again : EthernetChannel → Option EthernetRequest × EthernetChannel)
    (hbuffer : channel.transmit_half.stage = .Data → channel.transmit_length ≠ 0) :
    Asked memory ready channel.transmit_half (channel.transmit_request_from ready again) := by
  fun_cases EthernetChannel.transmit_request_from
  case case1 hsome =>
    rw [show channel.transmit_inflight = none from hnone] at hsome
    cases hsome
  case case2 _ hfault => exact .reports hnone ((remaining_fault hfault _ _).mpr ⟨rfl, rfl⟩)
  case case3 _ hfault hinactive =>
    rw [show channel.transmit_active = true from h.active hfault] at hinactive
    cases hinactive
  case case4 hidle => exact absurd hidle h.not_idle
  case case5 hwire => exact absurd hwire h.not_wire
  case case6 _ hfault _ hstage => exact absurd hstage hfault
  case case7 hstage => exact .reads (descriptor_goes h hnone hstage)
  case case8 hstage hlength => exact absurd hlength (hbuffer hstage)
  case case9 hstage hlength => exact .reads (data_goes h hnone hstage hlength)
  case case10 hstage hready =>
    refine .sends ?_ ?_ rfl ?_
    · rfl
    · rfl
    · unfold Remaining
      rw [show channel.transmit_half.stage = .Send from hstage]
      exact ⟨rfl, rfl⟩
  case case11 hstage hready =>
    refine .waits (Bool.eq_false_iff.mpr hready) h hnone ?_ fun _ _ => Iff.rfl
    rw [show channel.transmit_half.stage = .Send from hstage]
    decide

/-- A stage that leaves the packet what it comes to is asked the same. -/
theorem Asked.of_stage {ready : Bool} {before : TransmitHalf} {stage : EthernetTxStage}
    {result : Option EthernetRequest × EthernetChannel}
    (hsame : ∀ outcome requests, Remaining memory { before with stage } outcome requests ↔
      Remaining memory before outcome requests)
    (h : Asked memory ready { before with stage } result) : Asked memory ready before result := by
  cases h with
  | reads hgoes =>
    refine .reads ⟨hgoes.gathering, hgoes.alone, hgoes.begun, ?_, ?_⟩
    · intro outcome requests hremaining
      obtain ⟨more, hmore⟩ := hgoes.back outcome requests hremaining
      exact ⟨more, (hsame _ _).mp hmore⟩
    · intro outcome requests hremaining
      exact hgoes.forth outcome requests ((hsame _ _).mpr hremaining)
  | waits hready hgathering hnone hbegun hgoes =>
    exact .waits hready hgathering hnone hbegun fun outcome requests => (hgoes _ _).trans (hsame _ _)
  | sends hattached hchain hafter hremaining => exact .sends hattached hchain hafter ((hsame _ _).mp hremaining)
  | reports hnone hremaining => exact .reports hnone ((hsame _ _).mp hremaining)

theorem leave_data_transmit_half (channel : EthernetChannel) :
    channel.leave_data.transmit_half = { channel.transmit_half with stage := channel.leave_data.transmit_stage } := rfl

/-- An exhausted buffer is left at once, for another stage. -/
theorem leave_data_gathering (h : channel.transmit_half.Gathering) (hstage : channel.transmit_half.stage = .Data) :
    channel.leave_data.transmit_half.Gathering ∧ channel.leave_data.transmit_half.stage ≠ .Data := by
  have hactive : channel.transmit_half.active = true := h.active (by rw [hstage]; decide)
  have hstages : channel.leave_data.transmit_half.stage ∈ [.Send, .Fault, .Descriptor] := by
    show (if channel.transmit_end_of_packet then .Send else if channel.transmit_end_of_chain then .Fault else .Descriptor :
      EthernetTxStage) ∈ _
    cases channel.transmit_end_of_packet <;> cases channel.transmit_end_of_chain <;> decide
  refine ⟨⟨?_, ?_, fun _ => hactive, h.fits⟩, ?_⟩
  · intro hidle
    rw [hidle] at hstages
    exact absurd hstages (by decide)
  · intro hwire
    rw [hwire] at hstages
    exact absurd hstages (by decide)
  · intro hdata
    rw [hdata] at hstages
    exact absurd hstages (by decide)

/-- What an exhausted buffer leads to is asked for at once. -/
theorem transmit_request_asked (h : channel.transmit_half.Gathering) (hnone : channel.transmit_half.inflight = none)
    (ready : Bool) : Asked memory ready channel.transmit_half (channel.transmit_request ready) := by
  unfold EthernetChannel.transmit_request
  by_cases hexhausted : channel.transmit_half.stage = .Data ∧ channel.transmit_length = 0
  · obtain ⟨hstage, hlength⟩ := hexhausted
    have hleft : channel.transmit_request_from ready (EthernetChannel.transmit_request_from ready fun channel => (none, channel)) =
        channel.leave_data.transmit_request_from ready fun channel => (none, channel) := by
      have hactive : channel.transmit_active = true := h.active (by rw [hstage]; decide)
      rw [EthernetChannel.transmit_request_from, show channel.transmit_inflight = none from hnone,
        show channel.transmit_stage = .Data from hstage, hactive]
      dsimp only
      rw [if_neg (by simp), if_neg (by simp), if_neg (by simp), if_pos hlength]
    obtain ⟨hgathering, hother⟩ := leave_data_gathering h hstage
    have hasked := @transmit_request_from_asked memory _ hgathering hnone ready (fun channel => (none, channel))
      fun hdata => absurd hdata hother
    rw [hleft]
    rw [leave_data_transmit_half] at hasked
    apply hasked.of_stage
    exact leave_data_remaining h hstage hlength
  · exact transmit_request_from_asked h hnone ready _ fun hstage hlength => hexhausted ⟨hstage, hlength⟩

end se_machine.ip12
