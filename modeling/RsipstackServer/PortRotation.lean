import RsipstackServer.PortBounds
import RsipstackServer.Foundation.CasLoop
import Mathlib.Data.List.Nodup

namespace RsipstackServer
open Foundation
universe u
variable {ι : Type u} [DecidableEq ι]

/-- The callers of `nextPortPair` on one range: each of them loads the cursor
and tries to exchange it until it succeeds, as often as it is called. -/
def RtpPortRange.rotate (range : RtpPortRange) : CasState ι UInt16 → CasAct ι → Option (CasState ι UInt16) :=
  casStep range.nextPort

/-- What the calls returned so far, in the order their exchanges succeeded. -/
def returnedPairs (s : CasState ι UInt16) : List (Option RtpPortPair) :=
  s.taken.map fun exchange => RtpPortRange.pairAt exchange.2

def RtpPortPair.Disjoint (p q : RtpPortPair) : Prop :=
  p.rtpPort ≠ q.rtpPort ∧ p.rtpPort ≠ q.rtcpPort ∧ p.rtcpPort ≠ q.rtpPort ∧ p.rtcpPort ≠ q.rtcpPort

theorem RtpPortPair.Disjoint.symm {p q : RtpPortPair} (apart : p.Disjoint q) : q.Disjoint p :=
  ⟨apart.1.symm, apart.2.2.1.symm, apart.2.1.symm, apart.2.2.2.symm⟩

namespace RtpPortRange

/-- A pair of the range: an RTP port of the parity of the first one, no later
than the last one, and the port after it. -/
def HasPair (range : RtpPortRange) (pair : RtpPortPair) : Prop :=
  range.firstRtpPort ≤ pair.rtpPort ∧ pair.rtpPort ≤ range.lastRtpPort ∧
    (pair.rtpPort.toNat - range.firstRtpPort.toNat) % 2 = 0 ∧ pair.rtcpPort.toNat = pair.rtpPort.toNat + 1

/-- The range begins at the least port, and its last RTP port is one below the
greatest port, or two where that is even. -/
structure Spans (range : RtpPortRange) (minPort maxPort : UInt16) : Prop where
  first : range.firstRtpPort = minPort
  current : range.currentRtpPort = minPort
  last : range.lastRtpPort.toNat = if maxPort.toNat % 2 = 0 then maxPort.toNat - 2 else maxPort.toNat - 1

def allPairs (range : RtpPortRange) : List RtpPortPair := (List.range range.slots).map range.slotPair

theorem Sound.slotPair_hasPair {range : RtpPortRange} (sound : range.Sound) {slot : Nat}
    (inside : slot < range.slots) :
    range.HasPair (range.slotPair slot) := by
  have ordered := sound.ordered
  have rtp := sound.rtp_toNat inside
  have rtcp := sound.rtcp_toNat inside
  unfold slots at inside
  exact ⟨UInt16.le_iff_toNat_le.mpr (by omega), UInt16.le_iff_toNat_le.mpr (by omega), by omega, by omega⟩

theorem Sound.exists_slot {range : RtpPortRange} (sound : range.Sound) {pair : RtpPortPair}
    (has : range.HasPair pair) :
    ∃ slot, slot < range.slots ∧ range.slotPair slot = pair := by
  obtain ⟨lower, upper, parity, rtcp⟩ := has
  have ordered := sound.ordered
  rw [UInt16.le_iff_toNat_le] at lower upper
  have inside : (pair.rtpPort.toNat - range.firstRtpPort.toNat) / 2 < range.slots := by
    unfold slots
    omega
  refine ⟨_, inside, ?_⟩
  have rtpPort := sound.rtp_toNat inside
  have rtcpPort := sound.rtcp_toNat inside
  exact RtpPortPair.eq_of_toNat (by omega) (by omega)

theorem Sound.mem_allPairs {range : RtpPortRange} (sound : range.Sound) {pair : RtpPortPair} :
    pair ∈ range.allPairs ↔ range.HasPair pair := by
  constructor
  · intro member
    obtain ⟨slot, place, rfl⟩ := List.mem_map.mp member
    exact sound.slotPair_hasPair (List.mem_range.mp place)
  · intro has
    obtain ⟨slot, inside, same⟩ := sound.exists_slot has
    exact List.mem_map.mpr ⟨slot, List.mem_range.mpr inside, same⟩

theorem Sound.slotPair_disjoint {range : RtpPortRange} (sound : range.Sound) {a b : Nat}
    (inA : a < range.slots) (inB : b < range.slots) (apart : a ≠ b) :
    (range.slotPair a).Disjoint (range.slotPair b) := by
  have rtpA := sound.rtp_toNat inA
  have rtpB := sound.rtp_toNat inB
  have rtcpA := sound.rtcp_toNat inA
  have rtcpB := sound.rtcp_toNat inB
  simp only [RtpPortPair.Disjoint, ne_eq, ← UInt16.toNat_inj]
  omega

theorem Sound.allPairs_disjoint {range : RtpPortRange} (sound : range.Sound) :
    range.allPairs.Pairwise RtpPortPair.Disjoint := by
  rw [allPairs, List.pairwise_map]
  refine List.nodup_range.imp_of_mem ?_
  intro a b inA inB apart
  exact sound.slotPair_disjoint (List.mem_range.mp inA) (List.mem_range.mp inB) apart

theorem Sound.allPairs_nodup {range : RtpPortRange} (sound : range.Sound) : range.allPairs.Nodup := by
  refine sound.allPairs_disjoint.imp ?_
  rintro p q apart rfl
  exact apart.1 rfl

/-- A full round of the rotation is a permutation of the pairs. -/
theorem round_pairs_perm (range : RtpPortRange) (start : Nat) :
    ((List.range' start range.slots).map fun turn => range.slotPair (turn % range.slots)).Perm range.allPairs := by
  have round := (round_perm range.slots start).map range.slotPair
  rwa [List.map_map] at round

theorem Sound.rotation_onOrbit {range : RtpPortRange} (sound : range.Sound)
    (cursor : range.currentRtpPort = range.firstRtpPort) {acts : List (CasAct ι)} {s : CasState ι UInt16}
    (reach : run range.rotate (CasState.start range.currentRtpPort) acts = some s) :
    s.OnOrbit range.nextPort (fun turn => range.slotPort (turn % range.slots)) := by
  have first : range.currentRtpPort = range.slotPort (0 % range.slots) := by rw [Nat.zero_mod, slotPort_zero, cursor]
  rw [first] at reach
  refine casRun_onOrbit ?_ reach
  intro turn
  rw [sound.nextPort_slotPort (Nat.mod_lt turn range.slots_pos), nextSlot_mod range.slots_pos]

/-- The calls went round the range as one sequential caller would, and every
`capacity` results in a row are all the pairs of the range, each once. -/
def RotatesFairly (range : RtpPortRange) (s : CasState ι UInt16) : Prop :=
  ∃ capacity returned, range.capacity = some capacity ∧ returnedPairs s = returned.map some ∧
    returned = (List.range s.taken.length).map (fun turn => range.slotPair (turn % capacity.toNat)) ∧
    ∀ skipped, skipped + capacity.toNat ≤ returned.length →
      ((returned.drop skipped).take capacity.toNat).Pairwise RtpPortPair.Disjoint ∧
      ∀ pair, range.HasPair pair → ((returned.drop skipped).take capacity.toNat).count pair = 1

/-- Linearizability and fairness of the rotation over the ports that `new` was
asked for. Stale loads, retries and a cursor that has come back to a loaded
value are all among the interleavings. -/
theorem rotation_linearizable {minPort maxPort : UInt16} {range : RtpPortRange} {acts : List (CasAct ι)}
    {s : CasState ι UInt16} (built : RtpPortRange.new minPort maxPort = some (.ok range)) (below : maxPort < 65535)
    (reach : run range.rotate (CasState.start range.currentRtpPort) acts = some s) :
    range.Spans minPort maxPort ∧ range.RotatesFairly s := by
  have sound := sound_of_new built (Or.inl (UInt16.lt_iff_toNat_lt.mp below))
  obtain ⟨_, first, current, last, _⟩ := new_ok built
  have room := sound.room
  have count : (UInt16.ofNat range.slots).toNat = range.slots := word_ofNat_toNat (by omega)
  have on := sound.rotation_onOrbit (current.trans first.symm) reach
  refine ⟨⟨first, current, last⟩, _, _, sound.capacity_eq, ?_, rfl, ?_⟩
  · have pairs := congrArg (List.map pairAt) on.taken
    rw [List.map_map, List.map_map] at pairs
    rw [returnedPairs, List.map_map, count]
    refine pairs.trans (List.map_congr_left ?_)
    intro turn _
    exact sound.pairAt_slotPort (Nat.mod_lt turn range.slots_pos)
  · intro skipped inside
    rw [count] at inside ⊢
    rw [List.length_map, List.length_range] at inside
    have round : (((List.range s.taken.length).map fun turn => range.slotPair (turn % range.slots)).drop skipped).take
        range.slots = (List.range' skipped range.slots).map fun turn => range.slotPair (turn % range.slots) := by
      rw [← List.map_drop, ← List.map_take, List.range_eq_range', List.drop_range', Nat.zero_add, Nat.mul_one,
        List.take_range'_of_length_ge (by omega)]
    have perm := range.round_pairs_perm skipped
    rw [round]
    refine ⟨(perm.pairwise_iff fun apart => RtpPortPair.Disjoint.symm apart).mpr sound.allPairs_disjoint, ?_⟩
    intro pair has
    rw [perm.count_eq]
    exact List.count_eq_one_of_mem sound.allPairs_nodup (sound.mem_allPairs.mpr has)

/-- Caller 0 loads the cursor, caller 1 takes a whole round meanwhile, and
the exchange of caller 0 then succeeds on the value that has come back. -/
theorem rotation_linearizable_restored :
    ∃ s : CasState (Fin 2) UInt16, run (RtpPortRange.rotate ⟨10000, 10002, 10000⟩) (CasState.start 10000)
      [.load 0 0, .load 1 0, .exchange 1 0, .load 1 1, .exchange 1 0, .load 1 0, .exchange 1 0, .exchange 0 0] =
        some s ∧
      s.taken = [(1, 10000), (1, 10002), (0, 10000)] ∧
      Spans ⟨10000, 10002, 10000⟩ 10000 10003 ∧ RotatesFairly ⟨10000, 10002, 10000⟩ s := by
  refine exists_of_run ?_ fun s reach => ⟨?_, ?_⟩
  · rfl
  · exact Option.some.inj (congrArg (Option.map CasState.taken) reach).symm
  · exact rotation_linearizable (by decide : RtpPortRange.new 10000 10003 = _) (by decide) reach

end RtpPortRange
end RsipstackServer
