import SgiEmu.Core.Word
import SgiEmu.Library.ByteMemory

open Library.ByteMemory

namespace se_core.bus

/-- A byte address in the machine's physical address space. -/
@[ext]
structure PhysAddr where
  get : Nat
deriving DecidableEq, Repr

inductive BusError where
  | HardwareFault
  | InvalidTransaction
  | UnimplementedAccess
deriving DecidableEq, Repr

/-- Fixed-width physical bus transactions over a bus state `β`. A successful
read yields exactly as many bytes as the buffer it was asked to fill; what a
failed read leaves in its buffer is not modelled, since no caller looks at it. -/
structure PhysicalBus (β : Type) where
  read : β → PhysAddr → (length : Nat) → Except BusError (Vector U8 length) × β
  write : β → PhysAddr → List U8 → Except BusError Unit × β

/-- A byte-addressed memory behind a bus: every access either performs exactly
the requested transfer or fails and leaves the memory unchanged. -/
structure PhysicalBus.Bytewise {β : Type} (bus : PhysicalBus β) (memory : β → Nat → U8) : Prop where
  read_memory : ∀ bus_state address length,
    memory (bus.read bus_state address length).2 = memory bus_state
  read_data : ∀ bus_state address length data, (bus.read bus_state address length).1 = .ok data →
    ∀ i : Fin length, data[i] = memory bus_state (address.get + i)
  write_ok : ∀ bus_state address data, (bus.write bus_state address data).1 = .ok () →
    memory (bus.write bus_state address data).2 = store (memory bus_state) address.get data
  write_error : ∀ bus_state address data fault, (bus.write bus_state address data).1 = .error fault →
    memory (bus.write bus_state address data).2 = memory bus_state

end se_core.bus
