import RsipstackServer.Foundation.CheckedWord
import RsipstackServer.Foundation.RoundRobin
import Mathlib.Tactic.Ring

namespace RsipstackServer
open Foundation

structure RtpPortPair where
  rtpPort : UInt16
  rtcpPort : UInt16
  deriving DecidableEq, Repr

theorem RtpPortPair.eq_of_toNat {p q : RtpPortPair} (rtp : p.rtpPort.toNat = q.rtpPort.toNat)
    (rtcp : p.rtcpPort.toNat = q.rtcpPort.toNat) : p = q := by
  cases p
  cases q
  exact congrArg₂ mk (UInt16.toNat_inj.mp rtp) (UInt16.toNat_inj.mp rtcp)

/-- `currentRtpPort` is the value of the atomic cursor that all callers of
`nextPortPair` share. -/
structure RtpPortRange where
  firstRtpPort : UInt16
  lastRtpPort : UInt16
  currentRtpPort : UInt16
  deriving DecidableEq, Repr

namespace RtpPortRange

def capacity (range : RtpPortRange) : Option UInt16 := do
  let width ← checkedSub range.lastRtpPort range.firstRtpPort
  checkedAdd (width / 2) 1

/-- The two branches of `new` for the greatest RTP port. The sum in the even
branch is the one the warning prints. -/
def lastPort (maxPort : UInt16) : Option UInt16 :=
  if maxPort % 2 = 0 then do
    let lastRtpPort ← checkedSub maxPort 2
    let _ ← checkedAdd lastRtpPort 1
    pure lastRtpPort
  else checkedSub maxPort 1

/-- The outer `none` is a `u16` operation that overflows. The capacity is
computed because `new` sets a gauge to it. -/
def new (minPort maxPort : UInt16) : Option (Except String RtpPortRange) :=
  if maxPort ≤ minPort then
    some (.error s!"Max port {maxPort} must be larger than min port {minPort}.")
  else do
    let lastRtpPort ← lastPort maxPort
    let range : RtpPortRange := ⟨minPort, lastRtpPort, minPort⟩
    let _ ← range.capacity
    pure (.ok range)

/-- The value a caller that has loaded `currentPort` wants to store. -/
def nextPort (range : RtpPortRange) (currentPort : UInt16) : Option UInt16 := do
  let bumped ← checkedAdd currentPort 2
  if range.lastRtpPort < bumped then pure range.firstRtpPort else checkedAdd currentPort 2

/-- The pair a caller returns once its exchange of `currentPort` succeeded. -/
def pairAt (currentPort : UInt16) : Option RtpPortPair := do
  let rtcpPort ← checkedAdd currentPort 1
  pure ⟨currentPort, rtcpPort⟩

/-- One call that nobody disturbs: its first exchange succeeds. -/
def nextPortPair (range : RtpPortRange) : Option (RtpPortPair × RtpPortRange) := do
  let nextPort ← range.nextPort range.currentRtpPort
  let pair ← pairAt range.currentRtpPort
  pure (pair, { range with currentRtpPort := nextPort })

/-- The pairs of `n` calls one after another, and the range after them. -/
def draws (range : RtpPortRange) : Nat → Option (List RtpPortPair × RtpPortRange)
  | 0 => some ([], range)
  | n + 1 => do
    let (pairs, later) ← range.draws n
    let (pair, last) ← later.nextPortPair
    pure (pairs ++ [pair], last)

/-- How many places the rotation has, and the RTP port at each of them. -/
def slots (range : RtpPortRange) : Nat :=
  (range.lastRtpPort.toNat - range.firstRtpPort.toNat) / 2 + 1

def slotPort (range : RtpPortRange) (slot : Nat) : UInt16 :=
  UInt16.ofNat (range.firstRtpPort.toNat + 2 * slot)

def slotPair (range : RtpPortRange) (slot : Nat) : RtpPortPair :=
  ⟨range.slotPort slot, range.slotPort slot + 1⟩

/-- A range that never overflows: it has a first pair, and two more than its
greatest port is still a port. -/
structure Sound (range : RtpPortRange) : Prop where
  ordered : range.firstRtpPort.toNat ≤ range.lastRtpPort.toNat
  room : range.firstRtpPort.toNat + 2 * range.slots < 2 ^ 16

theorem slots_pos (range : RtpPortRange) : 0 < range.slots := Nat.succ_pos _

theorem Sound.capacity_eq {range : RtpPortRange} (sound : range.Sound) :
    range.capacity = some (UInt16.ofNat range.slots) := by
  have ordered := sound.ordered
  have room := sound.room
  unfold slots at *
  have width : checkedSub range.lastRtpPort range.firstRtpPort = some (range.lastRtpPort - range.firstRtpPort) := by
    rw [checkedSub_eq_some, UInt16.toNat_sub_of_le _ _ (UInt16.le_iff_toNat_le.mpr ordered)]
    omega
  simp only [capacity, width, Option.bind_eq_bind, Option.bind_some]
  rw [checkedAdd_eq_some, word_ofNat_toNat (by omega), UInt16.toNat_div,
    UInt16.toNat_sub_of_le _ _ (UInt16.le_iff_toNat_le.mpr ordered)]
  rfl

theorem Sound.slotPort_toNat {range : RtpPortRange} (sound : range.Sound) {slot : Nat} (inside : slot ≤ range.slots) :
    (range.slotPort slot).toNat = range.firstRtpPort.toNat + 2 * slot := by
  have room := sound.room
  exact word_ofNat_toNat (by omega)

theorem slotPort_zero (range : RtpPortRange) : range.slotPort 0 = range.firstRtpPort := by
  rw [slotPort, Nat.mul_zero, Nat.add_zero, UInt16.ofNat_toNat]

theorem Sound.rtp_toNat {range : RtpPortRange} (sound : range.Sound) {slot : Nat} (inside : slot < range.slots) :
    (range.slotPair slot).rtpPort.toNat = range.firstRtpPort.toNat + 2 * slot :=
  sound.slotPort_toNat inside.le

theorem Sound.rtcp_toNat {range : RtpPortRange} (sound : range.Sound) {slot : Nat} (inside : slot < range.slots) :
    (range.slotPair slot).rtcpPort.toNat = range.firstRtpPort.toNat + 2 * slot + 1 := by
  have room := sound.room
  have port := sound.slotPort_toNat inside.le
  change (range.slotPort slot + 1).toNat = _
  rw [UInt16.toNat_add, port, show (1 : UInt16).toNat = 1 from rfl]
  omega

theorem Sound.pairAt_slotPort {range : RtpPortRange} (sound : range.Sound) {slot : Nat}
    (inside : slot < range.slots) :
    pairAt (range.slotPort slot) = some (range.slotPair slot) := by
  have rtcp : checkedAdd (range.slotPort slot) 1 = some (range.slotPair slot).rtcpPort := by
    rw [checkedAdd_eq_some, sound.rtcp_toNat inside, sound.slotPort_toNat inside.le]
    rfl
  simp only [pairAt, rtcp, Option.bind_eq_bind, Option.bind_some]
  rfl

/-- The rotation of a sound range is the round robin over its slots. -/
theorem Sound.nextPort_slotPort {range : RtpPortRange} (sound : range.Sound) {slot : Nat}
    (inside : slot < range.slots) :
    range.nextPort (range.slotPort slot) = some (range.slotPort (nextSlot range.slots slot)) := by
  have ordered := sound.ordered
  have here := sound.slotPort_toNat inside.le
  have after : (range.slotPort (slot + 1)).toNat = _ := sound.slotPort_toNat inside
  have bumped : checkedAdd (range.slotPort slot) 2 = some (range.slotPort (slot + 1)) := by
    rw [checkedAdd_eq_some, here, after]
    rfl
  simp only [nextPort, bumped, Option.bind_eq_bind, Option.bind_some, nextSlot, UInt16.lt_iff_toNat_lt, after]
  unfold slots at *
  split
  · rename_i beyond
    rw [if_neg (by omega), slotPort_zero]
    rfl
  · rw [if_pos (by omega)]

/-- The range with its cursor at a place of the rotation. -/
def atSlot (range : RtpPortRange) (slot : Nat) : RtpPortRange :=
  { range with currentRtpPort := range.slotPort slot }

/-- One call on a sound range returns the pair under the cursor and moves
the cursor one place on. -/
theorem Sound.nextPortPair_atSlot {range : RtpPortRange} (sound : range.Sound) (turn : Nat) :
    (range.atSlot (turn % range.slots)).nextPortPair =
      some (range.slotPair (turn % range.slots), range.atSlot ((turn + 1) % range.slots)) := by
  have inside := Nat.mod_lt turn range.slots_pos
  have next : (range.atSlot (turn % range.slots)).nextPort (range.slotPort (turn % range.slots)) = _ :=
    sound.nextPort_slotPort inside
  have pair := sound.pairAt_slotPort inside
  rw [nextSlot_mod range.slots_pos] at next
  have cursor : (range.atSlot (turn % range.slots)).currentRtpPort = range.slotPort (turn % range.slots) := rfl
  simp only [nextPortPair, cursor, next, pair, Option.bind_eq_bind, Option.bind_some]
  rfl

/-- The pairs of consecutive calls on a sound range go round its slots. -/
theorem Sound.draws_eq {range : RtpPortRange} (sound : range.Sound) {slot : Nat} (inside : slot < range.slots)
    (n : Nat) :
    (range.atSlot slot).draws n = some ((List.range' slot n).map (fun turn => range.slotPair (turn % range.slots)),
      range.atSlot ((slot + n) % range.slots)) := by
  induction n with
  | zero => simp only [draws, List.range'_zero, List.map_nil, Nat.add_zero, Nat.mod_eq_of_lt inside]
  | succ n ih =>
    simp only [draws, ih, sound.nextPortPair_atSlot, Option.bind_eq_bind, Option.bind_some,
      List.range'_concat, List.map_append, List.map_singleton, Nat.one_mul]
    rfl

theorem atSlot_zero {range : RtpPortRange} (cursor : range.currentRtpPort = range.firstRtpPort) :
    range.atSlot 0 = range := by
  cases range
  exact congrArg _ ((slotPort_zero _).trans cursor.symm)

theorem lastPort_eq {maxPort : UInt16} (positive : 0 < maxPort.toNat) : lastPort maxPort =
    some (UInt16.ofNat (if maxPort.toNat % 2 = 0 then maxPort.toNat - 2 else maxPort.toNat - 1)) := by
  have bound := maxPort.toNat_lt
  simp only [lastPort, word_even_iff]
  split
  · have last : checkedSub maxPort 2 = some (UInt16.ofNat (maxPort.toNat - 2)) := by
      rw [checkedSub_eq_some, word_ofNat_toNat (by omega), show (2 : UInt16).toNat = 2 from rfl]
      omega
    have shown : checkedAdd (UInt16.ofNat (maxPort.toNat - 2)) 1 = some (UInt16.ofNat (maxPort.toNat - 1)) := by
      rw [checkedAdd_eq_some, word_ofNat_toNat (by omega), word_ofNat_toNat (by omega),
        show (1 : UInt16).toNat = 1 from rfl]
      omega
    simp only [last, shown, Option.bind_eq_bind, Option.bind_some, Option.pure_def]
  · rw [checkedSub_eq_some, word_ofNat_toNat (by omega), show (1 : UInt16).toNat = 1 from rfl]
    omega

/-- Everything an accepted construction says about its range. -/
theorem new_ok {minPort maxPort : UInt16} {range : RtpPortRange}
    (built : RtpPortRange.new minPort maxPort = some (.ok range)) :
    minPort.toNat < maxPort.toNat ∧ range.firstRtpPort = minPort ∧ range.currentRtpPort = minPort ∧
      range.lastRtpPort.toNat = (if maxPort.toNat % 2 = 0 then maxPort.toNat - 2 else maxPort.toNat - 1) ∧
      range.firstRtpPort.toNat ≤ range.lastRtpPort.toNat := by
  have bound := maxPort.toNat_lt
  unfold RtpPortRange.new at built
  split at built
  · simp at built
  · rename_i above
    have below := UInt16.lt_iff_toNat_lt.mp (UInt16.not_le.mp above)
    rw [lastPort_eq (by omega)] at built
    obtain ⟨last, value, built⟩ := Option.bind_eq_some_iff.mp built
    cases Option.some.inj value
    obtain ⟨_, capacity, result⟩ := Option.bind_eq_some_iff.mp built
    cases Option.some.inj result
    obtain ⟨_, width, _⟩ := Option.bind_eq_some_iff.mp capacity
    refine ⟨below, rfl, rfl, word_ofNat_toNat (by split <;> omega), ?_⟩
    have balance := checkedSub_eq_some.mp width
    omega

theorem new_of_room {minPort maxPort : UInt16} (below : minPort < maxPort)
    (room : minPort.toNat ≤ if maxPort.toNat % 2 = 0 then maxPort.toNat - 2 else maxPort.toNat - 1) :
    ∃ range, RtpPortRange.new minPort maxPort = some (.ok range) := by
  have bound := maxPort.toNat_lt
  have positive := UInt16.lt_iff_toNat_lt.mp below
  let last := UInt16.ofNat (if maxPort.toNat % 2 = 0 then maxPort.toNat - 2 else maxPort.toNat - 1)
  have value : last.toNat = _ := word_ofNat_toNat (by split <;> omega)
  have width : checkedSub last minPort = some (last - minPort) := by
    rw [checkedSub_eq_some, UInt16.toNat_sub_of_le _ _ (UInt16.le_iff_toNat_le.mpr (value ▸ room))]
    omega
  have count : checkedAdd ((last - minPort) / 2) 1 = some ((last - minPort) / 2 + 1) := by
    have half : ((last - minPort) / 2).toNat = (last - minPort).toNat / 2 := UInt16.toNat_div _ _
    have limit := (last - minPort).toNat_lt
    rw [checkedAdd_eq_some, UInt16.toNat_add, half, show (1 : UInt16).toNat = 1 from rfl]
    omega
  refine ⟨⟨minPort, last, minPort⟩, ?_⟩
  rw [RtpPortRange.new, if_neg (UInt16.not_le.mpr below), lastPort_eq (by omega)]
  simp only [Option.bind_eq_bind, Option.bind_some, capacity, last, width, count, Option.pure_def]

end RtpPortRange
end RsipstackServer
