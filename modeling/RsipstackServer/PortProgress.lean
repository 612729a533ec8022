import RsipstackServer.PortRotation
import RsipstackServer.Foundation.CasProgress

namespace RsipstackServer
open Foundation
universe u
variable {ι : Type u} [DecidableEq ι]

namespace RtpPortRange

/-- The callers of `nextPortPair` as `rotate` has them, each of which sees the
cursor in the order in which it changes. -/
def rotateInView (range : RtpPortRange) : ViewState ι UInt16 → CasAct ι → Option (ViewState ι UInt16) :=
  viewStep range.nextPort

/-- One caller always makes progress: so many accesses, of one caller or of all
`callers` together, are not made without so many results, and each caller can
get its result by three accesses of its own, with a load of the newest value. -/
structure MakesProgress (range : RtpPortRange) (callers : List ι) (acts : List (CasAct ι)) (s : ViewState ι UInt16) :
    Prop where
  each : ∀ caller, acts.countP (fun act => act.caller = caller) ≤ 2 * (returnedPairs s.cell).length + 1
  together : acts.length ≤ callers.length * (2 * (returnedPairs s.cell).length + 1)
  alone : ∀ caller, ∃ own t pair, own.length ≤ 3 ∧ (∀ act ∈ own, act.caller = caller) ∧
    run range.rotateInView s own = some t ∧ range.HasPair pair ∧
    returnedPairs t.cell = returnedPairs s.cell ++ [some pair]

/-- `nextPortPair` is lock-free: in every interleaving of the loads and the
exchanges of any number of callers, stale loads included, no caller waits for
another one and the calls together get on. -/
theorem nextPortPair_lockFree {minPort maxPort : UInt16} {range : RtpPortRange} {callers : List ι}
    {acts : List (CasAct ι)} {s : ViewState ι UInt16} (built : RtpPortRange.new minPort maxPort = some (.ok range))
    (below : maxPort < 65535) (inside : ∀ act ∈ acts, act.caller ∈ callers)
    (reach : run range.rotateInView (ViewState.start range.currentRtpPort) acts = some s) :
    range.MakesProgress callers acts s := by
  have sound := sound_of_new built (Or.inl (UInt16.lt_iff_toNat_lt.mp below))
  obtain ⟨_, first, current, _, _⟩ := new_ok built
  have on := sound.rotation_onOrbit (current.trans first.symm) (viewRun_cell reach)
  have results : (returnedPairs s.cell).length = s.cell.taken.length := by rw [returnedPairs, List.length_map]
  refine ⟨?_, ?_, fun caller => ?_⟩
  · rw [results]
    exact viewRun_steps reach
  · rw [results]
    exact viewRun_length_le reach inside
  · have slot := Nat.mod_lt s.cell.taken.length range.slots_pos
    have next := sound.nextPort_slotPort slot
    rw [← on.newest] at next
    obtain ⟨own, t, short, mine, there, taken⟩ := (viewRun_coherent reach).finishes (on.moving caller) next
    refine ⟨own, t, _, short, mine, there, sound.slotPair_hasPair slot, ?_⟩
    rw [returnedPairs, taken, List.map_append, List.map_singleton, on.newest, sound.pairAt_slotPort slot]
    rfl

/-- The caller 0 loads the cursor, the caller 1 gets the pair, and the exchange
of the caller 0 fails on the new value. -/
theorem nextPortPair_lockFree_retry : ∃ s : ViewState (Fin 2) UInt16,
    run (rotateInView ⟨10000, 10002, 10000⟩) (ViewState.start 10000)
      [.load 0 0, .load 1 0, .exchange 1 0, .exchange 0 0, .load 0 0, .load 1 0] = some s ∧
      s.cell.taken = [(1, 10000)] ∧ MakesProgress ⟨10000, 10002, 10000⟩ [0, 1]
        [.load 0 0, .load 1 0, .exchange 1 0, .exchange 0 0, .load 0 0, .load 1 0] s := by
  refine exists_of_run (by rfl) fun s reach => ⟨?_, ?_⟩
  · exact (Option.some.inj (congrArg (Option.map fun s : ViewState (Fin 2) UInt16 => s.cell.taken) reach)).symm
  · exact nextPortPair_lockFree (by decide : RtpPortRange.new 10000 10003 = _) (by decide) (by decide) reach

end RtpPortRange
end RsipstackServer
