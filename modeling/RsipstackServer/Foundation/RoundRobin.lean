import Mathlib.Order.Interval.Finset.Nat

namespace Foundation
universe u

/-- One turn of a round robin over `slots` slots, numbered from zero. -/
def nextSlot (slots slot : Nat) : Nat := if slot + 1 < slots then slot + 1 else 0

theorem nextSlot_mod {slots : Nat} (positive : 0 < slots) (turn : Nat) :
    nextSlot slots (turn % slots) = (turn + 1) % slots := by
  have bound := Nat.mod_lt turn positive
  unfold nextSlot
  rw [← Nat.mod_add_mod turn slots 1]
  split
  · rename_i inside
    exact (Nat.mod_eq_of_lt inside).symm
  · have wraps : turn % slots + 1 = slots := by omega
    rw [wraps, Nat.mod_self]

/-- A full round of consecutive turns meets the slots in some order, each
of them once, whatever turn it starts with. -/
theorem round_perm (slots start : Nat) :
    ((List.range' start slots).map (· % slots)).Perm (List.range slots) := by
  have turns : Multiset.Ico start (start + slots) = (List.range' start slots : Multiset Nat) := by
    rw [Multiset.Ico, Nat.Ico_eq_range', Nat.add_sub_cancel_left]
  have same := Nat.multiset_Ico_map_mod start slots
  rw [turns] at same
  exact Multiset.coe_eq_coe.mp same

theorem round_covers {slots slot : Nat} (start : Nat) (inside : slot < slots) :
    ∃ turn, start ≤ turn ∧ turn < start + slots ∧ turn % slots = slot := by
  have member := (round_perm slots start).mem_iff.mpr (List.mem_range.mpr inside)
  obtain ⟨turn, place, value⟩ := List.mem_map.mp member
  have bounds := List.mem_range'_1.mp place
  exact ⟨turn, bounds.1, bounds.2, value⟩

/-- A stretch of consecutive turns, cut out of a longer one. -/
theorem turns_window {α : Type u} {atTurn : Nat → α} {start : Nat} {before during after : List α}
    (whole : before ++ (during ++ after) = (List.range' start (before ++ (during ++ after)).length).map atTurn) :
    during = (List.range' (start + before.length) during.length).map atTurn := by
  rw [List.length_append, List.length_append, ← List.range'_append_1, ← List.range'_append_1, List.map_append,
    List.map_append] at whole
  obtain ⟨_, rest⟩ := List.append_inj whole (by rw [List.length_map, List.length_range'])
  exact (List.append_inj rest (by rw [List.length_map, List.length_range'])).1

end Foundation
