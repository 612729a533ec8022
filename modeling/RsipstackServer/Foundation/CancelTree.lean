import Mathlib.Data.List.Infix

namespace Foundation

/-- A cancellation token, named by the way down to it from the root. -/
abbrev Token := List Nat

/-- A tree of cancellation tokens: the tokens on which `cancel` was called,
and how many children were created so far. -/
structure CancelTree where
  cancelled : List Token
  created : Nat

namespace CancelTree

def empty : CancelTree := ⟨[], 0⟩

def childToken (tree : CancelTree) (parent : Token) : Token × CancelTree :=
  (parent ++ [tree.created], { tree with created := tree.created + 1 })

def cancel (tree : CancelTree) (token : Token) : CancelTree :=
  { tree with cancelled := token :: tree.cancelled }

/-- A token is cancelled together with any token above it. -/
def isCancelled (tree : CancelTree) (token : Token) : Bool :=
  tree.cancelled.any fun above => above.isPrefixOf token

theorem isCancelled_cancel (tree : CancelTree) (above token : Token) :
    (tree.cancel above).isCancelled token = (above.isPrefixOf token || tree.isCancelled token) := rfl

theorem isCancelled_cancel_self (tree : CancelTree) (token : Token) :
    (tree.cancel token).isCancelled token = true := by
  rw [isCancelled_cancel, List.isPrefixOf_iff_prefix.mpr List.prefix_rfl, Bool.true_or]

theorem isCancelled_of_above {tree : CancelTree} {above token : Token} (lies : above <+: token)
    (cancelled : tree.isCancelled above = true) : tree.isCancelled token = true := by
  obtain ⟨top, called, reaches⟩ := List.any_eq_true.mp cancelled
  exact List.any_eq_true.mpr ⟨top, called,
    List.isPrefixOf_iff_prefix.mpr ((List.isPrefixOf_iff_prefix.mp reaches).trans lies)⟩

theorem isCancelled_cancel_of {tree : CancelTree} {token : Token} (above : Token)
    (cancelled : tree.isCancelled token = true) :
    (tree.cancel above).isCancelled token = true := by
  rw [isCancelled_cancel, cancelled, Bool.or_true]

/-- Cancelling does not travel upwards. -/
theorem isCancelled_cancel_below (tree : CancelTree) (token : Token) (step : Nat) (down : List Nat) :
    (tree.cancel (token ++ step :: down)).isCancelled token = tree.isCancelled token := by
  have longer : ¬ (token ++ step :: down) <+: token := by
    intro lies
    have bound := lies.length_le
    rw [List.length_append, List.length_cons] at bound
    omega
  rw [isCancelled_cancel, Bool.eq_false_iff.mpr (mt List.isPrefixOf_iff_prefix.mp longer), Bool.false_or]

end CancelTree
end Foundation
