import SgiEmu.Device.Pic1.GraphicsDma

open se_core se_device.pic1

namespace se_machine.ip12

/-- What graphics DMA reaches of the board: local memory behind PIC1, and the devices of
the GIO slots an address routes to. -/
structure GraphicsBoard (ε : Type) where
  Slot : Type
  route : U32 → Option (Slot × U32)
  read_dma : ε → U32 → (length : Nat) → Option (Vector U8 length) × ε
  write_dma : ε → U32 → List U8 → Bool × ε
  gio_read_dma : ε → Slot → U32 → (length : Nat) → Option (Vector U8 length) × ε
  gio_write_dma : ε → Slot → U32 → List U8 → Bool × ε

variable {ε : Type}

def GraphicsBoard.transfer_graphics_dma_line (board : GraphicsBoard ε) (env : ε) (direction : GraphicsDmaDirection)
    (memory_address gio_address : U32) (length : Nat) : Bool × ε :=
  if length = 0 then (true, env)
  else
    match board.route gio_address with
    | none => (false, env)
    | some (slot, device_address) =>
      match direction with
      | .MemoryToGio =>
        match board.read_dma env memory_address length with
        | (none, env) => (false, env)
        | (some bytes, env) => board.gio_write_dma env slot device_address bytes.toList
      | .GioToMemory =>
        match board.gio_read_dma env slot device_address length with
        | (none, env) => (false, env)
        | (some bytes, env) => board.write_dma env memory_address bytes.toList

/-- One request the board has served, with its result. -/
inductive GraphicsEvent where
  | ReadDescriptor (address : U32) (descriptor : Option (Vector U8 20))
  | TransferLine (direction : GraphicsDmaDirection) (memory_address gio_address : U32) (length : Nat) (success : Bool)
deriving DecidableEq, Repr

/-- The channel and the board around it. -/
structure GraphicsPath (ε : Type) where
  channel : GraphicsDmaChannel
  env : ε

namespace GraphicsPath

/-- Services at most one request. -/
def service_graphics_dma_request (board : GraphicsBoard ε) (path : GraphicsPath ε) :
    List GraphicsEvent × GraphicsPath ε :=
  match path.channel.next_request with
  | (none, channel) => ([], { path with channel })
  | (some (.ReadDescriptor address), channel) =>
    let (descriptor, env) := board.read_dma path.env address 20
    ([.ReadDescriptor address descriptor], { channel := channel.complete_descriptor descriptor, env })
  | (some (.TransferLine direction memory_address gio_address length), channel) =>
    let (success, env) :=
      board.transfer_graphics_dma_line path.env direction memory_address gio_address length
    ([.TransferLine direction memory_address gio_address length success],
      { channel := channel.complete_line success, env })

/-- An event of the channel is due. -/
def due (path : GraphicsPath ε) : Bool := path.channel.time_until_event == some 0

end GraphicsPath

end se_machine.ip12
