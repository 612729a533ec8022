import Mathlib.Tactic.Common

namespace Foundation
universe u
variable {α : Type u}

/-- The frames of a fixed size that a stream is cut into, up to less than one
frame at its end. -/
structure Framed (size : Nat) (frames : List (List α)) (stream : List α) : Prop where
  full : ∀ frame ∈ frames, frame.length = size
  pending : ∃ rest, rest.length < size ∧ frames.flatten ++ rest = stream

namespace Framed
variable {size : Nat} {frames : List (List α)}

/-- Frames that are the whole stream leave nothing pending. -/
theorem flatten_iff (pos : 0 < size) : Framed size frames frames.flatten ↔ ∀ frame ∈ frames, frame.length = size :=
  ⟨fun framed => framed.full, fun full => ⟨full, [], pos, List.append_nil _⟩⟩

/-- What comes after the last frame has to wait until it is a frame. -/
theorem append_iff {more : List α} (full : ∀ frame ∈ frames, frame.length = size) :
    Framed size frames (frames.flatten ++ more) ↔ more.length < size := by
  constructor
  · rintro ⟨_, rest, short, same⟩
    rwa [← List.append_cancel_left same]
  · exact fun short => ⟨full, more, short, rfl⟩

theorem concat_iff {frame : List α} (pos : 0 < size) (full : ∀ frame ∈ frames, frame.length = size) :
    Framed size (frames ++ [frame]) (frames ++ [frame]).flatten ↔ frame.length = size := by
  rw [flatten_iff pos, List.forall_mem_append, List.forall_mem_singleton]
  exact and_iff_right full

end Framed
end Foundation
