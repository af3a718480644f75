import SgiEmu.Board.Ethernet.Transmit
import SgiEmu.Board.Graphics.Chain
import SgiEmu.Board.Rtc
import SgiEmu.Board.Scsi.Conservation
import SgiEmu.Board.Scsi.Sound
import SgiEmu.Board.Serial.Fragmentation
import SgiEmu.Device.Dp8573a.Battery
import SgiEmu.Device.Lg1.SaveUnder
import SgiEmu.Device.Scsi.Range
import SgiEmu.Device.Scsi.Restorable
import SgiEmu.R3000.Cache.Transparency
import SgiEmu.R3000.Cp1.Trap
import SgiEmu.R3000.Mmu.Translate
import SgiEmu.R3000.State.Functional
import SgiEmu.R3000.State.Nesting
import SgiEmu.R3000.Step.Precise
import SgiEmu.R3000.Step.Retry
import SgiEmu.Runtime.Network.Delivery
import SgiEmu.Runtime.Catalog.Recovery
import SgiEmu.Runtime.Record.Recorder
import SgiEmu.Session.Storage.Transparency
import SgiEmu.Library.DelayLine
import SgiEmu.R3000.State.InstructionView
import SgiEmu.R3000.Step.Fetched
import SgiEmu.R3000.Step.Registers
import SgiEmu.R3000.Step.Replay
import SgiEmu.R3000.Mmu.WordOffset
import SgiEmu.R3000.State.DataPath
import SgiEmu.R3000.Step.Unaligned
import SgiEmu.Device.Int2.Timer
import SgiEmu.Device.Int2.Timer.Elapsed
import SgiEmu.Device.Hpc1
import SgiEmu.Device.Hpc1.Clock
import SgiEmu.Board.Ethernet.Receive
import SgiEmu.Board.Ethernet.Reception
import SgiEmu.Board.Ethernet.Gather
import SgiEmu.Board.Ethernet.Fragments
import SgiEmu.Board.Ethernet.Packets
import SgiEmu.Library.Scatter
import SgiEmu.Device.Lg1.Rectangle
import SgiEmu.Device.Lg1.Rectangle.Drawn
import SgiEmu.Device.Scsi.Decoding
import SgiEmu.Device.Wd33c93b.Decoded
import SgiEmu.Device.Nmc93cs46
import SgiEmu.Device.Nmc93cs46.Frame
import SgiEmu.Device.Nmc93cs46.Protocol
import SgiEmu.Board.Memory.Access
import SgiEmu.Device.SgiMouse.Packets
import SgiEmu.Device.Z85230.Receiver
import SgiEmu.Device.Z85230.Transmitter
import SgiEmu.Device.Seeq8003.Controller
import SgiEmu.Device.Seeq8003.Link
import SgiEmu.Board.Ethernet.Acceptance
import SgiEmu.Device.Lg1.Vc1.Timing
import SgiEmu.Device.Lg1.Vector
import SgiEmu.Machine.Output
import SgiEmu.Runtime.Worker
import SgiEmu.Runtime.Worker.Configure
import SgiEmu.Runtime.Worker.Replaced
import SgiEmu.Config.Draft
import SgiEmu.Machine.Plan
import SgiEmu.Library.Forest
import SgiEmu.Machine.Definition
import SgiEmu.Machine.Definition.Topology
import SgiEmu.Machine.Definition.Validity
import SgiEmu.Machine.Definition.Contents
import SgiEmu.Machine.Definition.Compiled
import SgiEmu.Machine.Definition.Planned
import SgiEmu.Runtime.Worker.CpuClock
import SgiEmu.Device.Dp8573a.Edges
import SgiEmu.Library.Journal
import SgiEmu.Runtime.Worker.Execute
import SgiEmu.Runtime.Worker.Execution
import SgiEmu.Runtime.Worker.Sessions
import SgiEmu.Runtime.Worker.Recording
import SgiEmu.Runtime.Worker.Recorded
import SgiEmu.Runtime.Worker.Replay
import SgiEmu.Runtime.Worker.Replayed
import SgiEmu.Runtime.Worker.Cursor
import SgiEmu.Runtime.Worker.Snapshot
import SgiEmu.R3000.Cache.Transactions
import SgiEmu.R3000.Step.Abreast
import SgiEmu.R3000.Step.Resume
import SgiEmu.R3000.Step.UserMode
