import Mathlib.Algebra.GroupWithZero.Nat
import Mathlib.Algebra.BigOperators.Group.List.Basic
import Mathlib.Algebra.Order.Group.Nat

namespace Foundation

/-- How long after its predecessor each event came, the first of which comes
after `prev`. An event that seems to come before its predecessor is taken to
come at the same time. -/
def gapsFrom (prev : Nat) : List Nat → List Nat
  | [] => []
  | now :: later => (now - prev) :: gapsFrom now later

/-- The same for all events but the first, which has no predecessor. -/
def gaps : List Nat → List Nat
  | [] => []
  | first :: later => gapsFrom first later

/-- The time from the first event to the last. -/
def elapsed : List Nat → Nat
  | [] => 0
  | first :: later => later.getLastD first - first

theorem gapsFrom_concat (prev : Nat) (later : List Nat) (now : Nat) :
    gapsFrom prev (later ++ [now]) = gapsFrom prev later ++ [now - later.getLastD prev] := by
  induction later generalizing prev with
  | nil => rfl
  | cons next later ih => rw [List.cons_append, gapsFrom, ih, gapsFrom, List.cons_append, List.getLastD_cons]

/-- A further event adds one gap, if there was an event before. -/
theorem gaps_concat (events : List Nat) (now : Nat) :
    gaps (events ++ [now]) = gaps events ++ (events.getLast?.map fun prev => now - prev).toList := by
  cases events with
  | nil => rfl
  | cons first later =>
    rw [List.cons_append, gaps, gapsFrom_concat, gaps, List.getLast?_cons, List.getLastD_eq_getLast?]
    rfl

theorem length_gapsFrom (prev : Nat) (later : List Nat) : (gapsFrom prev later).length = later.length := by
  induction later generalizing prev with
  | nil => rfl
  | cons next later ih => rw [gapsFrom, List.length_cons, List.length_cons, ih]

/-- There is a gap for each event that has a predecessor. -/
theorem length_gaps (events : List Nat) : (gaps events).length + (if events = [] then 0 else 1) = events.length := by
  cases events with
  | nil => rfl
  | cons first later =>
    rw [gaps, length_gapsFrom, if_neg (List.cons_ne_nil first later)]
    rfl

theorem getLastD_ge {prev : Nat} {later : List Nat} (sorted : (prev :: later).Pairwise (· ≤ ·)) :
    prev ≤ later.getLastD prev := by
  rw [List.getLastD_eq_getLast?]
  cases last : later.getLast? with
  | none => exact le_refl prev
  | some event => exact List.rel_of_pairwise_cons sorted (List.mem_of_getLast? last)

theorem sum_gapsFrom {prev : Nat} {later : List Nat} (sorted : (prev :: later).Pairwise (· ≤ ·)) :
    (gapsFrom prev later).sum = later.getLastD prev - prev := by
  induction later generalizing prev with
  | nil => simp [gapsFrom]
  | cons next later ih =>
    have rest := ih sorted.of_cons
    have last := getLastD_ge sorted.of_cons
    have first : prev ≤ next := List.rel_of_pairwise_cons sorted List.mem_cons_self
    rw [gapsFrom, List.sum_cons, List.getLastD_cons]
    omega

/-- The gaps add up to the time between the first and the last event. -/
theorem sum_gaps {events : List Nat} (sorted : events.Pairwise (· ≤ ·)) : (gaps events).sum = elapsed events := by
  cases events with
  | nil => rfl
  | cons first later => exact sum_gapsFrom sorted

end Foundation
