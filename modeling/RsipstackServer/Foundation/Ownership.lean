import Mathlib.Logic.Function.Basic

namespace Foundation
universe u v w
variable {ι : Type u} {ο : Type v} {ρ : Type w} {key : ι → ο} {table table' : ρ → Option ο}
  {holds holds' : ι → ρ → Prop}

/-- A table of resources shows exactly what the parties hold. Owners without a
key may hold more of them. -/
def Ownership (key : ι → ο) (table : ρ → Option ο) (holds : ι → ρ → Prop) : Prop :=
  ∀ party resource, table resource = some (key party) ↔ holds party resource

/-- What one step of an owner can do to the table and to what it holds. -/
inductive Transfers [DecidableEq ρ] (owner : ο) (table : ρ → Option ο) (held : ρ → Prop) :
    (ρ → Option ο) → (ρ → Prop) → Prop
  | keeps {held'} : (∀ place, held' place ↔ held place) → Transfers owner table held table held'
  | acquires {resource held'} : table resource = none → (∀ place, held' place ↔ held place ∨ place = resource) →
      Transfers owner table held (Function.update table resource (some owner)) held'
  | releases {resource held'} : held resource → (∀ place, held' place ↔ held place ∧ place ≠ resource) →
      Transfers owner table held (Function.update table resource none) held'

namespace Ownership

theorem unique (owned : Ownership key table holds) (injective : Function.Injective key) {party other : ι}
    {resource : ρ} (mine : holds party resource) (theirs : holds other resource) : party = other := by
  have atParty := (owned party resource).mpr mine
  have atOther := (owned other resource).mpr theirs
  exact injective (Option.some.inj (atParty.symm.trans atOther))

variable [DecidableEq ρ]

/-- A step of one party keeps the table right, if what the others hold stays. -/
theorem transfers (owned : Ownership key table holds) (injective : Function.Injective key) (party : ι)
    (moved : Transfers (key party) table (holds party) table' (holds' party))
    (others : ∀ other, other ≠ party → holds' other = holds other) : Ownership key table' holds' := by
  intro other place
  by_cases mine : other = party
  · subst mine
    cases moved with
    | keeps same => rw [same, owned]
    | @acquires resource held' free gains =>
      rw [gains, ← owned]
      by_cases here : place = resource
      · rw [here, Function.update_self]
        exact iff_of_true rfl (Or.inr rfl)
      · rw [Function.update_of_ne here, or_iff_left here]
    | @releases resource held' held loses =>
      rw [loses, ← owned]
      by_cases here : place = resource
      · rw [here, Function.update_self]
        exact iff_of_false nofun fun both => both.2 rfl
      · rw [Function.update_of_ne here, and_iff_left here]
  · rw [others other mine, ← owned]
    cases moved with
    | keeps => rfl
    | @acquires resource held' free =>
      by_cases here : place = resource
      · rw [here, Function.update_self, free]
        exact iff_of_false (fun same => mine (injective (Option.some.inj same)).symm) nofun
      · rw [Function.update_of_ne here]
    | @releases resource held' held =>
      by_cases here : place = resource
      · rw [here, Function.update_self, (owned party resource).mpr held]
        exact iff_of_false nofun fun same => mine (injective (Option.some.inj same)).symm
      · rw [Function.update_of_ne here]

/-- An owner without a key may take a free resource. -/
theorem foreign (owned : Ownership key table holds) {owner : ο} (keyless : ∀ party, key party ≠ owner) {resource : ρ}
    (free : table resource = none) : Ownership key (Function.update table resource (some owner)) holds := by
  intro party place
  rw [← owned]
  by_cases here : place = resource
  · rw [here, Function.update_self, free]
    exact iff_of_false (fun same => keyless party (Option.some.inj same).symm) nofun
  · rw [Function.update_of_ne here]

end Ownership
end Foundation
