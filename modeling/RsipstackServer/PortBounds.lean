import RsipstackServer.RtpPortRange

namespace RsipstackServer
open Foundation
namespace RtpPortRange

/-- Below the last `u16` every accepted range is sound. At the top of `u16`
only the ranges with odd ports are, because they stop one port earlier. -/
theorem sound_of_new {minPort maxPort : UInt16} {range : RtpPortRange}
    (built : RtpPortRange.new minPort maxPort = some (.ok range))
    (top : maxPort.toNat < 65535 ∨ minPort.toNat % 2 = 1) : range.Sound := by
  have bound := maxPort.toNat_lt
  obtain ⟨below, first, _, last, ordered⟩ := new_ok built
  refine ⟨ordered, ?_⟩
  unfold slots
  rw [first] at ordered ⊢
  split at last <;> omega

theorem Sound.slotPair_bounds {minPort maxPort : UInt16} {range : RtpPortRange} (sound : range.Sound)
    (built : RtpPortRange.new minPort maxPort = some (.ok range)) {slot : Nat} (inside : slot < range.slots) :
    minPort ≤ (range.slotPair slot).rtpPort ∧
      (range.slotPair slot).rtcpPort.toNat = (range.slotPair slot).rtpPort.toNat + 1 ∧
      (range.slotPair slot).rtcpPort ≤ maxPort := by
  obtain ⟨below, first, _, last, ordered⟩ := new_ok built
  have rtp := sound.rtp_toNat inside
  have rtcp := sound.rtcp_toNat inside
  have least := congrArg UInt16.toNat first
  unfold slots at inside
  refine ⟨UInt16.le_iff_toNat_le.mpr (by omega), by omega, UInt16.le_iff_toNat_le.mpr ?_⟩
  split at last <;> omega

/-- Every operation on the range is defined, for any number of calls, and
all pairs they return lie inside the configured bounds. -/
def BoundsSafe (minPort maxPort : UInt16) : Prop :=
  ∃ range, RtpPortRange.new minPort maxPort = some (.ok range) ∧ range.firstRtpPort ≤ range.lastRtpPort ∧
    ∀ n, ∃ pairs later, range.draws n = some (pairs, later) ∧ later.capacity.isSome ∧
      ∀ pair ∈ pairs, minPort ≤ pair.rtpPort ∧ pair.rtcpPort.toNat = pair.rtpPort.toNat + 1 ∧ pair.rtcpPort ≤ maxPort

theorem Sound.boundsSafe {minPort maxPort : UInt16} {range : RtpPortRange} (sound : range.Sound)
    (built : RtpPortRange.new minPort maxPort = some (.ok range)) : BoundsSafe minPort maxPort := by
  obtain ⟨_, first, current, _, ordered⟩ := new_ok built
  have fresh := sound.draws_eq range.slots_pos
  rw [atSlot_zero (current.trans first.symm)] at fresh
  refine ⟨range, built, UInt16.le_iff_toNat_le.mpr ordered, ?_⟩
  intro n
  refine ⟨_, _, fresh n, ?_, ?_⟩
  · have kept : ∀ slot, (range.atSlot slot).capacity = range.capacity := fun _ => rfl
    rw [kept, sound.capacity_eq]
    rfl
  · intro pair member
    obtain ⟨turn, _, rfl⟩ := List.mem_map.mp member
    exact sound.slotPair_bounds built (Nat.mod_lt turn range.slots_pos)

/-- While two more than the cursor still fits below the last port, a call
moves the cursor up by two. This needs no soundness. -/
theorem nextPort_climbs {range : RtpPortRange} {port : UInt16} (below : port.toNat + 2 ≤ range.lastRtpPort.toNat) :
    range.nextPort port = some (port + 2) := by
  have bound := range.lastRtpPort.toNat_lt
  have bumped : checkedAdd port 2 = some (port + 2) := by
    rw [checkedAdd_eq_some, UInt16.toNat_add, Nat.mod_eq_of_lt (by rw [show (2 : UInt16).toNat = 2 from rfl]; omega)]
  have value := checkedAdd_eq_some.mp bumped
  rw [show (2 : UInt16).toNat = 2 from rfl] at value
  simp only [nextPort, bumped, Option.bind_eq_bind, Option.bind_some]
  rw [if_neg (by rw [UInt16.lt_iff_toNat_lt]; omega)]

/-- If no call overflows, the cursor passes every port of the parity of the
first one up to the last. -/
theorem draws_climb {range : RtpPortRange} (total : ∀ n, (range.draws n).isSome)
    (start : range.currentRtpPort = range.firstRtpPort) (n : Nat)
    (below : range.firstRtpPort.toNat + 2 * n ≤ range.lastRtpPort.toNat) :
    ∃ pairs later, range.draws n = some (pairs, later) ∧ later.lastRtpPort = range.lastRtpPort ∧
      later.currentRtpPort.toNat = range.firstRtpPort.toNat + 2 * n := by
  induction n with
  | zero => exact ⟨[], range, rfl, rfl, by rw [start, Nat.mul_zero, Nat.add_zero]⟩
  | succ n ih =>
    obtain ⟨pairs, later, reach, last, cursor⟩ := ih (by omega)
    obtain ⟨⟨longer, final⟩, next⟩ := Option.isSome_iff_exists.mp (total (n + 1))
    refine ⟨longer, final, next, ?_⟩
    have climbs : later.nextPort later.currentRtpPort = some (later.currentRtpPort + 2) :=
      nextPort_climbs (by rw [last]; omega)
    simp only [draws, reach, nextPortPair, climbs, Option.bind_eq_bind, Option.bind_some] at next
    obtain ⟨⟨pair, after⟩, inner, result⟩ := Option.bind_eq_some_iff.mp next
    obtain ⟨_, _, same⟩ := Option.bind_eq_some_iff.mp inner
    cases Option.some.inj same
    cases Option.some.inj result
    have bound := range.lastRtpPort.toNat_lt
    refine ⟨last, ?_⟩
    change (later.currentRtpPort + 2).toNat = _
    rw [UInt16.toNat_add, cursor, show (2 : UInt16).toNat = 2 from rfl]
    omega

theorem not_boundsSafe_of_even_top {minPort maxPort : UInt16} (even : minPort.toNat % 2 = 0)
    (top : maxPort.toNat = 65535) : ¬ BoundsSafe minPort maxPort := by
  rintro ⟨range, built, _, runs⟩
  obtain ⟨below, first, current, last, ordered⟩ := new_ok built
  rw [if_neg (by omega), top] at last
  have total : ∀ n, (range.draws n).isSome := by
    intro n
    obtain ⟨pairs, later, reach, _⟩ := runs n
    rw [reach]
    rfl
  obtain ⟨pairs, later, reach, _, cursor⟩ :=
    draws_climb total (current.trans first.symm) ((65534 - minPort.toNat) / 2) (by rw [first]; omega)
  have overflow : later.nextPort later.currentRtpPort = none := by
    have none : checkedAdd later.currentRtpPort 2 = none := by
      rw [checkedAdd_eq_none, cursor, first, show (2 : UInt16).toNat = 2 from rfl]
      omega
    simp only [nextPort, none, Option.bind_eq_bind, Option.bind_none]
  have next := total ((65534 - minPort.toNat) / 2 + 1)
  simp only [draws, reach, nextPortPair, overflow, Option.bind_eq_bind, Option.bind_some, Option.bind_none] at next
  cases next

theorem not_boundsSafe_of_odd_pair {minPort maxPort : UInt16} (odd : minPort.toNat % 2 = 1)
    (next : maxPort.toNat = minPort.toNat + 1) : ¬ BoundsSafe minPort maxPort := by
  rintro ⟨range, built, _⟩
  obtain ⟨_, first, _, last, ordered⟩ := new_ok built
  rw [if_pos (by omega), next] at last
  rw [first] at ordered
  omega

/-- Bounds that `new` does not reject are safe unless the lower one is odd
and directly below the upper one, or it is even and the upper one is the
last `u16`. -/
theorem boundsSafe_iff {minPort maxPort : UInt16}
    (accepted : ∀ e, RtpPortRange.new minPort maxPort ≠ some (.error e)) :
    BoundsSafe minPort maxPort ↔
      ¬(minPort % 2 = 1 ∧ maxPort.toNat = minPort.toNat + 1) ∧ ¬(minPort % 2 = 0 ∧ maxPort = 65535) := by
  have below : minPort < maxPort := by
    by_contra rejected
    exact accepted _ (if_pos (UInt16.not_lt.mp rejected))
  have positive := UInt16.lt_iff_toNat_lt.mp below
  have bound := maxPort.toNat_lt
  have odd : minPort % 2 = 1 ↔ minPort.toNat % 2 = 1 := by
    rw [← UInt16.toNat_inj, UInt16.toNat_mod]
    rfl
  have top : maxPort = 65535 ↔ maxPort.toNat = 65535 := UInt16.toNat_inj.symm
  rw [odd, word_even_iff, top]
  constructor
  · intro safe
    exact ⟨fun bad => not_boundsSafe_of_odd_pair bad.1 bad.2 safe,
      fun bad => not_boundsSafe_of_even_top bad.1 bad.2 safe⟩
  · rintro ⟨notOddPair, notEvenTop⟩
    obtain ⟨range, built⟩ := new_of_room below (by split <;> omega)
    exact (sound_of_new built (by omega)).boundsSafe built

theorem boundsSafe_default : BoundsSafe 10000 10099 :=
  (boundsSafe_iff (by intro e built; exact absurd (Option.some.inj built) (by simp))).mpr (by decide)

/-- The narrowest range at the top of `u16`, where the first call overflows,
and an odd port with its successor, where `capacity` underflows in `new`. -/
theorem boundsSafe_fails :
    (RtpPortRange.new 65534 65535 = some (.ok ⟨65534, 65534, 65534⟩) ∧ ¬ BoundsSafe 65534 65535) ∧
      RtpPortRange.new 10001 10002 = none ∧ ¬ BoundsSafe 10001 10002 :=
  ⟨⟨by decide, not_boundsSafe_of_even_top rfl rfl⟩, by decide, not_boundsSafe_of_odd_pair rfl rfl⟩

end RtpPortRange
end RsipstackServer
