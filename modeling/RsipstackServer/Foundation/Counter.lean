import Mathlib.Algebra.GroupWithZero.Nat
import Mathlib.Algebra.BigOperators.Group.Finset.Piecewise
import Mathlib.Algebra.BigOperators.Group.List.Basic

namespace Foundation
universe u v w x
variable {κ : Type u} {α : Type v} {β : Type w}

/-- A family of counters, one for each value of a label. -/
abbrev Counter (κ : Type u) := κ → Nat

namespace Counter

def zero : Counter κ := fun _ => 0

def increment [DecidableEq κ] (counter : Counter κ) (label : κ) : Counter κ :=
  Function.update counter label (counter label + 1)

/-- The sum over all labels. -/
def total [Fintype κ] (counter : Counter κ) : Nat := Finset.univ.sum counter

theorem total_zero [Fintype κ] : (zero : Counter κ).total = 0 := Finset.sum_const_zero

theorem total_increment [Fintype κ] [DecidableEq κ] (counter : Counter κ) (label : κ) :
    (counter.increment label).total = counter.total + 1 := by
  have others := Finset.sum_update_of_mem (Finset.mem_univ label) counter (counter label + 1)
  have whole := Finset.sum_eq_add_sum_sdiff_singleton_of_mem (Finset.mem_univ label) counter
  unfold total increment
  rw [others, whole]
  omega

theorem increment_apply [DecidableEq κ] (counter : Counter κ) (label other : κ) :
    counter.increment label other = counter other + (if other = label then 1 else 0) := by
  by_cases same : other = label
  · rw [same, increment, Function.update_self, if_pos rfl]
  · rw [increment, Function.update_of_ne same, if_neg same, Nat.add_zero]

/-- A counter moves by the same amount wherever it stands. -/
theorem increment_shift [DecidableEq κ] (counter other : Counter κ) (label : κ) :
    counter.increment label + other = counter + other.increment label := by
  funext entry
  simp only [Pi.add_apply, increment_apply]
  omega

end Counter

/-- What the replacement of one entry of a list does to a sum over the list. -/
theorem sum_map_set {μ : Type x} [AddCommMonoid μ] {entries : List α} {i : Nat} {old : α} (weight : α → μ) (new : α)
    (entry : entries[i]? = some old) :
    ((entries.set i new).map weight).sum + weight old = (entries.map weight).sum + weight new := by
  induction entries generalizing i with
  | nil => cases entry
  | cons head tail ih =>
    cases i with
    | zero =>
      cases Option.some.inj entry
      simp only [List.set_cons_zero, List.map_cons, List.sum_cons]
      rw [add_right_comm, add_comm (weight new), add_right_comm]
    | succ i =>
      have later := ih (i := i) entry
      simp only [List.set_cons_succ, List.map_cons, List.sum_cons]
      rw [add_assoc, later, add_assoc]

/-- The entries of a list are counted by their places. -/
theorem countP_range {p : α → Bool} {q : Nat → Bool} {entries : List α}
    (same : ∀ i entry, entries[i]? = some entry → q i = p entry) :
    (List.range entries.length).countP q = entries.countP p := by
  induction entries generalizing q with
  | nil => rfl
  | cons head tail ih =>
    have first : q 0 = p head := same 0 head rfl
    have later : (List.range tail.length).countP (q ∘ Nat.succ) = tail.countP p :=
      ih fun i entry there => same (i + 1) entry there
    rw [List.length_cons, List.range_succ_eq_map, List.countP_cons, List.countP_map, List.countP_cons, later, first]

/-- What one entry of a range gains, the sum over the range gains. -/
theorem sum_range_add {μ : Type x} [AddCommMonoid μ] {f g : Nat → μ} {gain : μ} {n i : Nat} (inside : i < n)
    (own : g i = f i + gain) (others : ∀ j, j ≠ i → g j = f j) :
    ((List.range n).map g).sum = ((List.range n).map f).sum + gain := by
  induction n with
  | zero => omega
  | succ n ih =>
    rw [List.range_succ, List.map_append, List.map_append, List.sum_append, List.sum_append, List.map_singleton,
      List.map_singleton, List.sum_singleton, List.sum_singleton]
    by_cases last : i = n
    · subst last
      have before : (List.range i).map g = (List.range i).map f :=
        List.map_congr_left fun j member => others j (by have := List.mem_range.mp member; omega)
      rw [before, own, add_assoc]
    · rw [ih (by omega), others n (Ne.symm last), add_right_comm]

theorem coe_flatMap (entries : List α) (f : α → List β) :
    ((entries.flatMap f : List β) : Multiset β) = (entries.map fun entry => (f entry : Multiset β)).sum := by
  induction entries with
  | nil => rfl
  | cons entry later ih => rw [List.flatMap_cons, ← Multiset.coe_add, ih, List.map_cons, List.sum_cons]

theorem countP_eq_sum (p : α → Bool) (entries : List α) :
    entries.countP p = (entries.map fun entry => if p entry then 1 else 0).sum := by
  induction entries with
  | nil => rfl
  | cons head tail ih =>
    rw [List.countP_cons, List.map_cons, List.sum_cons, ih, Nat.add_comm]

/-- A number kept up to date from one entry to the next is the number of
entries that have the property. -/
theorem countP_set {entries : List α} {i : Nat} {old : α} (p : α → Bool) (new : α) (entry : entries[i]? = some old) :
    (entries.set i new).countP p + (if p old then 1 else 0) = entries.countP p + (if p new then 1 else 0) := by
  rw [countP_eq_sum, countP_eq_sum]
  exact sum_map_set _ new entry

/-- Where each entry has the property as often as the two others together, so
does the list. -/
theorem countP_eq_add {p first second : α → Bool} {entries : List α}
    (each : ∀ entry ∈ entries,
      (if p entry then 1 else 0) = (if first entry then 1 else 0) + (if second entry then 1 else 0)) :
    entries.countP p = entries.countP first + entries.countP second := by
  induction entries with
  | nil => rfl
  | cons head tail ih =>
    rw [List.forall_mem_cons] at each
    have later := ih each.2
    have here := each.1
    rw [List.countP_cons, List.countP_cons, List.countP_cons]
    omega

/-- Where an entry is shown through a partial view, its replacement replaces
what the view shows. -/
theorem filterMap_set {entries : List α} {i : Nat} {old new : α} {view : α → Option β} {shown next : β}
    (entry : entries[i]? = some old) (before : view old = some shown) (after : view new = some next) :
    ∃ j, (entries.filterMap view)[j]? = some shown ∧
      (entries.set i new).filterMap view = (entries.filterMap view).set j next := by
  induction entries generalizing i with
  | nil => cases entry
  | cons head tail ih =>
    cases i with
    | zero =>
      cases Option.some.inj entry
      refine ⟨0, ?_, ?_⟩
      · rw [List.filterMap_cons_some before, List.getElem?_cons_zero]
      · rw [List.set_cons_zero, List.filterMap_cons_some before, List.filterMap_cons_some after, List.set_cons_zero]
    | succ i =>
      obtain ⟨j, there, later⟩ := ih (i := i) entry
      cases first : view head with
      | none =>
        refine ⟨j, ?_, ?_⟩
        · rw [List.filterMap_cons_none first, there]
        · rw [List.set_cons_succ, List.filterMap_cons_none first, List.filterMap_cons_none first, later]
      | some seen =>
        refine ⟨j + 1, ?_, ?_⟩
        · rw [List.filterMap_cons_some first, List.getElem?_cons_succ, there]
        · rw [List.set_cons_succ, List.filterMap_cons_some first, List.filterMap_cons_some first, List.set_cons_succ,
            later]

theorem filterMap_set_same {entries : List α} {i : Nat} {old new : α} {view : α → Option β}
    (entry : entries[i]? = some old) (same : view new = view old) :
    (entries.set i new).filterMap view = entries.filterMap view := by
  induction entries generalizing i with
  | nil => cases entry
  | cons head tail ih =>
    cases i with
    | zero =>
      cases Option.some.inj entry
      rw [List.set_cons_zero, List.filterMap_cons, List.filterMap_cons, same]
    | succ i => rw [List.set_cons_succ, List.filterMap_cons, List.filterMap_cons, ih entry]

/-- An entry that comes into view is one more, at some place. -/
theorem filterMap_set_perm {entries : List α} {i : Nat} {old new : α} {view : α → Option β} {next : β}
    (entry : entries[i]? = some old) (before : view old = none) (after : view new = some next) :
    ((entries.set i new).filterMap view).Perm (entries.filterMap view ++ [next]) := by
  induction entries generalizing i with
  | nil => cases entry
  | cons head tail ih =>
    cases i with
    | zero =>
      cases Option.some.inj entry
      rw [List.set_cons_zero, List.filterMap_cons_none before, List.filterMap_cons_some after]
      exact (List.perm_append_singleton next _).symm
    | succ i =>
      have later := ih (i := i) entry
      rw [List.set_cons_succ]
      cases first : view head with
      | none =>
        rw [List.filterMap_cons_none first, List.filterMap_cons_none first]
        exact later
      | some seen =>
        rw [List.filterMap_cons_some first, List.filterMap_cons_some first]
        exact later.cons seen

end Foundation
