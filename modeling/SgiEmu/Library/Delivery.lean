import Mathlib.Data.List.Basic
import Mathlib.Tactic.Common

/-! What a sender shows, compared with a queue: an item is sent once, and only after
all that were accepted before it, unless the sender is reset first. -/

namespace Library.Delivery

/-- What is seen of a sender: an item it accepts, one it has sent, a reset. -/
inductive Note (α : Type) where
  | Accepted (item : α)
  | Sent (item : α)
  | Reset
deriving DecidableEq

variable {α : Type} [DecidableEq α]

/-- A queue that takes a note; an item that is not first in line cannot be sent. -/
def Note.step (queue : List α) : Note α → Option (List α)
  | .Accepted item => some (queue ++ [item])
  | .Sent item =>
    match queue with
    | [] => none
    | first :: rest => if first = item then some rest else none
  | .Reset => some []

/-- The queue after some notes, if they are those of a queue. -/
def follow (queue : List α) (notes : List (Note α)) : Option (List α) := notes.foldlM Note.step queue

theorem follow_append (queue : List α) (first second : List (Note α)) :
    follow queue (first ++ second) = (follow queue first).bind (follow · second) := List.foldlM_append

theorem follow_sent (item : α) (rest : List α) : follow (item :: rest) [.Sent item] = some rest := by
  simp only [follow, List.foldlM_cons, List.foldlM_nil, Note.step, if_pos]
  rfl

end Library.Delivery
