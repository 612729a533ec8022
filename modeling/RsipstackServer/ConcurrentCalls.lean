import RsipstackServer.LivePorts
import Mathlib.Data.List.Perm.Subperm

namespace RsipstackServer
open Foundation
universe u
variable {κ : Type u} {session : CallId → MediaSession κ}

/-- The pair that a call was given, if it was given one. -/
def LiveCalls.pairOf (s : LiveCalls κ) (id : CallId) : RtpPortPair :=
  match s.alloc.phase id with
  | .returned (some sockets) => sockets.rtpPortPair
  | _ => ⟨0, 0⟩

theorem LiveCalls.holdsPair_pairOf {s : LiveCalls κ} {id : CallId} (holds : ∃ pair, s.HoldsPair id pair) :
    s.HoldsPair id (s.pairOf id) := by
  obtain ⟨pair, live, sockets, returned, rfl⟩ := holds
  refine ⟨live, sockets, returned, ?_⟩
  rw [pairOf, returned]

theorem LiveCalls.InRange.hasPair {range : RtpPortRange} {slot : Nat} {s : LiveCalls κ}
    (reached : s.InRange range slot) {id : CallId} {pair : RtpPortPair} (holds : s.HoldsPair id pair) :
    range.HasPair pair := by
  obtain ⟨_, sockets, returned, rfl⟩ := holds
  have fits := reached.fits id
  rw [returned] at fits
  exact fits.1

/-- Distinct live calls have distinct pairs, and these all lie in the range. -/
theorem LiveCalls.InRange.length_le {range : RtpPortRange} {slot : Nat} {s : LiveCalls κ} (sound : range.Sound)
    (reached : s.InRange range slot) {calls : List CallId} (distinct : calls.Nodup)
    (live : ∀ id ∈ calls, ∃ pair, s.HoldsPair id pair) : calls.length ≤ range.slots := by
  have owns := reached.ownsRtp sound
  have holds : ∀ id ∈ calls, s.HoldsPair id (s.pairOf id) := fun id mine => LiveCalls.holdsPair_pairOf (live id mine)
  have nodup : (calls.map s.pairOf).Nodup := by
    refine (List.nodup_map_iff_inj_on distinct).mpr fun id mine other theirs same => ?_
    by_contra apart
    exact (owns.apart id other _ _ apart (holds id mine) (holds other theirs)).1 (congrArg RtpPortPair.rtpPort same)
  have inside : calls.map s.pairOf ⊆ range.allPairs := by
    intro pair member
    obtain ⟨id, mine, rfl⟩ := List.mem_map.mp member
    exact sound.mem_allPairs.mpr (reached.hasPair (holds id mine))
  have short := (nodup.subperm inside).length_le
  rwa [List.length_map, RtpPortRange.allPairs, List.length_map, List.length_range] at short

/-- In every state that the calls of a server can reach on a configured range,
each live call has a pair within the configured bounds, and there are at most as
many live calls as `capacity` says. -/
theorem liveCalls_le_capacity {minPort maxPort : UInt16} {range : RtpPortRange} {slot : Nat}
    (built : RtpPortRange.new minPort maxPort = some (.ok range)) (below : maxPort < 65535) (positive : minPort ≠ 0)
    (inside : slot < range.slots) {taken : UInt16 → Bool} {acts : List LiveAct} {last : LiveCalls κ}
    (reach : run (liveStep session) (.start (range.atSlot slot) taken) acts = some last) :
    (∀ id pair, last.HoldsPair id pair → minPort ≤ pair.rtpPort ∧ pair.rtcpPort ≤ maxPort) ∧
      ∃ capacity, range.capacity = some capacity ∧ ∀ calls : List CallId, calls.Nodup →
        (∀ id ∈ calls, ∃ pair, last.HoldsPair id pair) → calls.length ≤ capacity.toNat := by
  have sound := RtpPortRange.sound_of_new built (Or.inl (UInt16.lt_iff_toNat_lt.mp below))
  obtain ⟨_, first, _⟩ := RtpPortRange.new_ok built
  rw [← first] at positive
  have start := AllocInvariant.start inside taken
  have reached : last.InRange range slot := run_invariant (P := LiveCalls.InRange range slot)
    ⟨.start _ taken, start.rotated, start.fits⟩ (fun _ _ _ before step => before.step sound positive step) reach
  refine ⟨fun id pair holds => ?_, _, sound.capacity_eq, fun calls distinct live => ?_⟩
  · obtain ⟨place, within, rfl⟩ := sound.exists_slot (reached.hasPair holds)
    obtain ⟨lower, _, upper⟩ := sound.slotPair_bounds built within
    exact ⟨lower, upper⟩
  · have room := sound.room
    rw [word_ofNat_toNat (by omega)]
    exact reached.length_le sound distinct live

/-- A range with one pair, on which the call 1 finds nothing while the call 0
lives. -/
theorem liveCalls_le_capacity_onePair : ∃ last,
    run (liveStep fun _ => silentSession 30) (.start (RtpPortRange.atSlot ⟨10000, 10000, 10000⟩ 0) fun _ => false)
      [.alloc (.advance 0 0), .alloc (.advance 1 0), .alloc (.advance 0 0), .alloc (.advance 1 0),
        .alloc (.advance 0 0),
        .alloc (.advance 1 0), .alloc (.advance 1 0), .alloc (.advance 0 0)] = some last ∧
      (last.alloc.phase 0, last.alloc.phase 1) =
        (.returned (some ⟨⟨10000, 10001⟩, 10000, 10001⟩), .returned none) ∧
      (∀ id pair, last.HoldsPair id pair → 10000 ≤ pair.rtpPort ∧ pair.rtcpPort ≤ 10001) ∧
      ∃ capacity, RtpPortRange.capacity ⟨10000, 10000, 10000⟩ = some capacity ∧ ∀ calls : List CallId, calls.Nodup →
        (∀ id ∈ calls, ∃ pair, last.HoldsPair id pair) → calls.length ≤ capacity.toNat := by
  have phases : (run (liveStep fun _ => silentSession 30) (.start (RtpPortRange.atSlot ⟨10000, 10000, 10000⟩ 0)
    fun _ => false)
      [.alloc (.advance 0 0), .alloc (.advance 1 0), .alloc (.advance 0 0), .alloc (.advance 1 0),
        .alloc (.advance 0 0),
        .alloc (.advance 1 0), .alloc (.advance 1 0), .alloc (.advance 0 0)]).map
      (fun s => (s.alloc.phase 0, s.alloc.phase 1)) =
      some (.returned (some ⟨⟨10000, 10001⟩, 10000, 10001⟩), .returned none) := by decide +kernel
  have built : RtpPortRange.new 10000 10001 = some (.ok ⟨10000, 10000, 10000⟩) := by decide
  refine exists_of_run (by decide +kernel) fun last reach => ?_
  rw [reach] at phases
  exact ⟨Option.some.inj phases, liveCalls_le_capacity built (by decide) (by decide) (by decide) reach⟩

end RsipstackServer
