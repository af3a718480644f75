import Mathlib.Algebra.Ring.Nat
import SgiEmu.Core.Word

open se_core

namespace se_network.queue

def MAX_FRAME_BYTES : Nat := 16384
def MAX_FRAMES : Nat := 256
def MAX_BYTES : Nat := 512 * 1024

/-- A drop-newest queue bounded in frames and in bytes. -/
structure FrameQueue where
  frames : List (List U8)
  bytes : Nat
deriving DecidableEq, Repr

namespace FrameQueue

def default : FrameQueue := { frames := [], bytes := 0 }

def push (queue : FrameQueue) (bytes : List U8) : Bool × FrameQueue :=
  if bytes.length > MAX_FRAME_BYTES ∨ queue.frames.length ≥ MAX_FRAMES ∨ queue.bytes + bytes.length > MAX_BYTES then
    (false, queue)
  else (true, { frames := queue.frames ++ [bytes], bytes := queue.bytes + bytes.length })

def pop (queue : FrameQueue) : Option (List U8) × FrameQueue :=
  match queue.frames with
  | [] => (none, queue)
  | frame :: frames => (some frame, { frames, bytes := queue.bytes - frame.length })

def is_empty (queue : FrameQueue) : Bool := queue.frames.isEmpty

/-! ## Accounting -/

/-- The byte count is that of the queued frames, and no bound is exceeded. -/
structure Valid (queue : FrameQueue) : Prop where
  bytes : queue.bytes = (queue.frames.map List.length).sum
  frame_bytes : ∀ frame ∈ queue.frames, frame.length ≤ MAX_FRAME_BYTES
  max_frames : queue.frames.length ≤ MAX_FRAMES
  max_bytes : queue.bytes ≤ MAX_BYTES

variable {queue : FrameQueue}

theorem valid_default : default.Valid :=
  ⟨rfl, fun _ hmem => absurd hmem List.not_mem_nil, by decide, by decide⟩

theorem is_empty_iff : queue.is_empty = true ↔ queue.frames = [] := by
  unfold is_empty
  exact List.isEmpty_iff

/-- An accepted frame goes to the end of the queue; a refused one changes nothing. -/
theorem push_spec (hvalid : queue.Valid) (bytes : List U8) :
    (queue.push bytes).2.Valid ∧
      ((queue.push bytes).1 = true ∧ (queue.push bytes).2.frames = queue.frames ++ [bytes] ∨
        (queue.push bytes).1 = false ∧ (queue.push bytes).2 = queue) := by
  obtain ⟨hbytes, hframe, hframes, hmax⟩ := hvalid
  unfold push
  split
  case isTrue => exact ⟨⟨hbytes, hframe, hframes, hmax⟩, Or.inr ⟨rfl, rfl⟩⟩
  case isFalse hfits =>
    rw [not_or, not_or] at hfits
    obtain ⟨hlength, hroom, hcount⟩ := hfits
    refine ⟨⟨?_, ?_, ?_, Nat.le_of_not_lt hcount⟩, Or.inl ⟨rfl, rfl⟩⟩
    · simp only [List.map_append, List.map_cons, List.map_nil, List.sum_append, List.sum_singleton, hbytes]
    · intro frame hmem
      rw [List.mem_append, List.mem_singleton] at hmem
      obtain hold | rfl := hmem
      · exact hframe frame hold
      · exact Nat.le_of_not_lt hlength
    · simp only [List.length_append, List.length_singleton]
      omega

/-- A pop takes the oldest frame. -/
theorem pop_spec (hvalid : queue.Valid) :
    queue.pop.2.Valid ∧ queue.frames = queue.pop.1.toList ++ queue.pop.2.frames ∧
      (∀ frame, queue.pop.1 = some frame → frame.length ≤ MAX_FRAME_BYTES) ∧
        (queue.pop.1 = none ↔ queue.frames = []) := by
  obtain ⟨hbytes, hframe, hframes, hmax⟩ := hvalid
  unfold pop
  cases hqueued : queue.frames with
  | nil =>
    refine ⟨⟨hbytes, hframe, hframes, hmax⟩, ?_, ?_, ?_⟩
    · simp [hqueued]
    · intro frame hnone
      simp at hnone
    · simp
  | cons frame frames =>
    rw [hqueued] at hbytes hframe hframes
    simp only [List.map_cons, List.sum_cons, List.length_cons] at hbytes hframes
    refine ⟨⟨?_, ?_, ?_, ?_⟩, rfl, ?_, by simp⟩
    · simp only
      omega
    · intro queued hmem
      exact hframe queued (List.mem_cons_of_mem frame hmem)
    · simp only
      omega
    · simp only
      omega
    · rintro popped ⟨⟩
      exact hframe frame List.mem_cons_self

end FrameQueue

end se_network.queue
