import SgiEmu.Machine.Input

open se_core

namespace se_machine

variable {Video : Type}

def EndpointDirection.accepts_output : EndpointDirection → Bool
  | .Output | .Bidirectional => true
  | .Input => false

/-- One output stream or current state; what a display shows is only handed on. -/
inductive EndpointOutput (Video : Type) where
  | Serial (bytes : List U8)
  | Ethernet (frames : List (List U8))
  | Video (video : Video)
deriving DecidableEq, Repr

def EndpointOutput.kind : EndpointOutput Video → EndpointKind
  | .Serial _ => .Serial
  | .Ethernet _ => .Ethernet
  | .Video _ => .Video

/-- Output of one machine, keyed by endpoint. -/
abbrev MachineOutput (Video : Type) : Type := List (EndpointKey × EndpointOutput Video)

end se_machine
