import Mathlib.Algebra.Group.Nat.Defs

namespace RsipstackServer

/-- `Instant + Duration` where the sum is at most the greatest instant. -/
def instantAdd (maxInstant now duration : Nat) : Option Nat :=
  if now + duration ≤ maxInstant then some (now + duration) else none

/-- `sleep` is the instant the timer fires at, `none` one beyond every
instant, which tokio puts into the far future. -/
structure Deadline where
  sleep : Option Nat
  duration : Nat
  deriving DecidableEq, Repr

namespace Deadline

def new (maxInstant now duration : Nat) : Deadline := ⟨instantAdd maxInstant now duration, duration⟩

/-- A `none` is the panic of the addition of instants. -/
def reset (maxInstant : Nat) (deadline : Deadline) (now : Nat) : Option Deadline :=
  (instantAdd maxInstant now deadline.duration).map fun fires => { deadline with sleep := some fires }

def elapsed (deadline : Deadline) (now : Nat) : Bool :=
  match deadline.sleep with
  | some fires => decide (fires ≤ now)
  | none => false

theorem reset_eq_none {maxInstant now : Nat} {deadline : Deadline} :
    deadline.reset maxInstant now = none ↔ maxInstant < now + deadline.duration := by
  unfold reset instantAdd
  split <;> simp <;> omega

theorem reset_duration {maxInstant now : Nat} {deadline renewed : Deadline}
    (reset : deadline.reset maxInstant now = some renewed) : renewed.duration = deadline.duration := by
  obtain ⟨_, _, rfl⟩ := Option.map_eq_some_iff.mp reset
  rfl

/-- The resets at these times, one after the other. -/
def resets (maxInstant : Nat) (deadline : Deadline) (times : List Nat) : Option Deadline :=
  times.foldlM (reset maxInstant) deadline

/-- A reset that does not panic is a creation at its own time. -/
theorem reset_eq_some_iff {maxInstant now : Nat} {deadline renewed : Deadline} :
    deadline.reset maxInstant now = some renewed ↔
      now + deadline.duration ≤ maxInstant ∧ new maxInstant now deadline.duration = renewed := by
  unfold reset new instantAdd
  by_cases fits : now + deadline.duration ≤ maxInstant
  · rw [if_pos fits, Option.map_some, Option.some_inj]
    exact (and_iff_right fits).symm
  · rw [if_neg fits, Option.map_none]
    exact iff_of_false (fun same => by cases same) fun both => fits both.1

theorem resets_eq_some_iff {maxInstant start duration : Nat} {times : List Nat} {last : Deadline} :
    (new maxInstant start duration).resets maxInstant times = some last ↔
      (∀ time ∈ times, time + duration ≤ maxInstant) ∧ new maxInstant (times.getLastD start) duration = last := by
  unfold resets
  induction times generalizing start with
  | nil =>
    rw [List.foldlM_nil, List.getLastD_nil]
    exact Option.some_inj.trans (and_iff_right fun time member => absurd member List.not_mem_nil).symm
  | cons time later ih =>
    rw [List.foldlM_cons, List.getLastD_cons, List.forall_mem_cons, and_assoc, ← ih]
    constructor
    · intro run
      obtain ⟨renewed, first, rest⟩ := Option.bind_eq_some_iff.mp run
      obtain ⟨fits, rfl⟩ := reset_eq_some_iff.mp first
      exact ⟨fits, rest⟩
    · rintro ⟨fits, rest⟩
      exact Option.bind_eq_some_iff.mpr ⟨_, reset_eq_some_iff.mpr ⟨fits, rfl⟩, rest⟩

/-- A deadline that has not been reset elapses when its duration is over, and
never if that is beyond every instant. -/
theorem elapsed_new {maxInstant start duration t : Nat} :
    (new maxInstant start duration).elapsed t = true ↔ start + duration ≤ maxInstant ∧ start + duration ≤ t := by
  unfold elapsed new instantAdd
  by_cases fits : start + duration ≤ maxInstant
  · rw [if_pos fits]
    exact decide_eq_true_iff.trans (and_iff_right fits).symm
  · rw [if_neg fits]
    exact iff_of_false Bool.false_ne_true fun both => fits both.1

/-- After each of the resets there is a deadline, which elapses when its
duration is over since the latest one, or since its creation. -/
def Exact (maxInstant start duration : Nat) (times : List Nat) : Prop :=
  ∀ done, done <+: times → ∃ deadline, (new maxInstant start duration).resets maxInstant done = some deadline ∧
    ∀ t, deadline.elapsed t = true ↔
      done.getLastD start + duration ≤ maxInstant ∧ done.getLastD start + duration ≤ t

/-- Creation does not mind a duration that leads beyond every instant, but
every reset does. -/
theorem exact_iff {maxInstant start duration : Nat} {times : List Nat} :
    Exact maxInstant start duration times ↔ ∀ time ∈ times, time + duration ≤ maxInstant := by
  constructor
  · intro exact
    obtain ⟨last, run, _⟩ := exact times (List.prefix_refl times)
    exact (resets_eq_some_iff.mp run).1
  · intro fits done early
    have first := fun time member => fits time (early.subset member)
    exact ⟨_, resets_eq_some_iff.mpr ⟨first, rfl⟩, fun t => elapsed_new⟩

/-- In nanoseconds, with instants of `i64` seconds: the longest `Duration` is
fine at creation, 5 s after the clock started, and the first reset panics. -/
theorem exact_fails : (new (2 ^ 63 * 10 ^ 9 - 1) (5 * 10 ^ 9) (2 ^ 64 * 10 ^ 9 - 1)).reset (2 ^ 63 * 10 ^ 9 - 1)
      (5 * 10 ^ 9 + 20 * 10 ^ 6) = none ∧
    ¬ Exact (2 ^ 63 * 10 ^ 9 - 1) (5 * 10 ^ 9) (2 ^ 64 * 10 ^ 9 - 1) [5 * 10 ^ 9 + 20 * 10 ^ 6] := by
  have beyond : 2 ^ 63 * 10 ^ 9 - 1 < 5 * 10 ^ 9 + 20 * 10 ^ 6 + (2 ^ 64 * 10 ^ 9 - 1) := by decide
  refine ⟨reset_eq_none.mpr beyond, fun exact => ?_⟩
  have fits := exact_iff.mp exact _ (List.mem_cons_self ..)
  omega

end Deadline
end RsipstackServer
