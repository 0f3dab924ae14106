import SyncCircuit.Proofs.Graph.BackEdges
import SyncCircuit.Proofs.Run.Stability

/-!
# How many passes settling takes

A pass recomputes the gates in declaration order, so a value goes along any number of gates that are
declared one after the other, and stops where a gate is declared before the one driving it. What a
pass cannot do is go back: settling takes as many passes as there are edges back on a path of gates,
one more for the gates after the last of them, and one that finds nothing changed.

## Main definitions

* `Network.maxBackEdges` — the greatest number of edges back on a path of gates.
-/
namespace SyncCircuit

namespace Network

variable {net : Network}

/-- A path from gate to gate. -/
abbrev IsGatePath (net : Network) (path : List Nat) : Prop :=
  Graph.IsWalk net.IsGate net.Feeds path

/-- The greatest number of edges on a path of gates whose target is declared before its source. -/
noncomputable def maxBackEdges (net : Network) : Nat := Graph.maxBackEdges net.IsGate net.Feeds

theorem mem_gates_of_isGate (i : Nat) (hi : net.IsGate i) :
    i ∈ (net.indicesOf (·.isGate)).toFinset :=
  mem_gates_iff.mpr hi

theorem LoopFree.isGreatest_maxBackEdges (hl : net.LoopFree) :
    IsGreatest {n | ∃ path, net.IsGatePath path ∧ Graph.backEdges path = n} net.maxBackEdges :=
  Graph.isGreatest_maxBackEdges hl mem_gates_of_isGate

theorem LoopFree.maxBackEdges_lt_gateCount (hl : net.LoopFree) (hgates : 0 < net.gateCount) :
    net.maxBackEdges < net.gateCount := by
  rw [← card_gates] at hgates ⊢
  exact Graph.maxBackEdges_lt_card hl mem_gates_of_isGate (Finset.card_pos.mp hgates)

/-- If every gate is declared after the gates driving it, there is no way back. -/
theorem LoopFree.maxBackEdges_eq_zero (hl : net.LoopFree)
    (hforward : ∀ i j, net.Feeds i j → i < j) : net.maxBackEdges = 0 := by
  obtain ⟨path, hpath, hcount⟩ := hl.isGreatest_maxBackEdges.1
  rw [← hcount, Graph.backEdges_eq_zero hpath.chain hforward]

/-- **Gates ranked by edges back**, as the passes reach them. -/
theorem LoopFree.exists_backRank (hl : net.LoopFree) (h : net.WellFormed) :
    ∃ rank : Nat → Nat, Propagation.Ranked net.devices rank ∧
      ∀ o, IsGateOutput net.devices o → rank o ≤ net.maxBackEdges := by
  obtain ⟨rank, hgrow, hle⟩ := Graph.exists_backRank hl (net.mem_gates_of_isGate)
  refine ⟨net.outputRank rank, ?_, ?_⟩
  · intro i j dev dev' hi hj hgate hgate' hdrives
    rw [h.outputRank_firstOutput rank hi, h.outputRank_firstOutput rank hj]
    exact hgrow j i ⟨dev', hj, hgate'⟩ ⟨dev, hi, hgate⟩
      (h.feeds_of_driver hi hj hgate hgate' hdrives)
  · rintro o ⟨dev, hmem, hgate, rfl⟩
    obtain ⟨i, hi⟩ := List.mem_iff_getElem?.mp hmem
    rw [h.outputRank_firstOutput rank hi]
    exact hle i ⟨dev, hi, hgate⟩

theorem LoopFree.exists_settle_of_backEdges (hl : net.LoopFree) (h : net.WellFormed) {s : Signals}
    (hsize : net.outputCount ≤ s.size) (probes : Array Probe) {budget : Nat}
    (hbudget : net.maxBackEdges + 2 ≤ budget) :
    ∃ k p, Propagation.settle net.devices budget 1 ⟨s, probes⟩ = (some k, p) ∧
      k ≤ net.maxBackEdges + 2 := by
  obtain ⟨rank, hranked, hle⟩ := hl.exists_backRank h
  exact hl.exists_settle_of_ranked h (.refl _) hsize probes hranked
    (fun o ho => Nat.lt_succ_of_le (hle o ho)) hbudget

/-- **A sharp bound on the passes.** A loop-free network settles within two passes more than there are
edges back on a path of gates, from any values of its outputs: within two passes if every gate is
declared after those driving it, and never in more than one pass more than there are gates. Switches,
clocks and flip-flops keep their values, and these decide what the gates end with. -/
theorem build_settles_by_backEdges (d : Description) (options : BuildOptions) (net : Network)
    (hb : d.build options = .ok net) (hl : net.LoopFree) :
    IsGreatest {n | ∃ path, net.IsGatePath path ∧ Graph.backEdges path = n} net.maxBackEdges ∧
    (∀ s probes budget, net.outputCount ≤ s.size → net.maxBackEdges + 2 ≤ budget →
      ∃ k p, Propagation.settle net.devices budget 1 ⟨s, probes⟩ = (some k, p) ∧
        k ≤ net.maxBackEdges + 2 ∧
        ((∀ i j, net.Feeds i j → i < j) → k ≤ 2) ∧ (0 < net.gateCount → k ≤ net.gateCount + 1)) ∧
    (∀ s probes budget k p,
      Propagation.settle net.devices budget 1 ⟨s, probes⟩ = (some k, p) → net.outputCount ≤ s.size →
        (∀ o, net.IsSource o → p.signals.get o = s.get o) ∧
        ∀ s' probes' budget' k' p',
          Propagation.settle net.devices budget' 1 ⟨s', probes'⟩ = (some k', p') →
          net.outputCount ≤ s'.size → (∀ o, net.IsSource o → s'.get o = s.get o) →
          ∀ o < net.outputCount, p'.signals.get o = p.signals.get o) := by
  have h := Description.build_wellFormed hb
  refine ⟨hl.isGreatest_maxBackEdges, ?_, ?_⟩
  · intro s probes budget hsize hbudget
    obtain ⟨k, p, hsettle, hk⟩ := hl.exists_settle_of_backEdges h hsize probes hbudget
    refine ⟨k, p, hsettle, hk, fun hforward => ?_, fun hgates => ?_⟩
    · rwa [hl.maxBackEdges_eq_zero hforward] at hk
    · have := hl.maxBackEdges_lt_gateCount hgates
      omega
  · intro s probes budget k p hsettle hsize
    constructor
    · intro o ho
      have hkept := Propagation.get_settle_of_not_isGateOutput (h.not_isGateOutput_of_isSource ho)
        budget 1 ⟨s, probes⟩
      rwa [hsettle] at hkept
    · intro s' probes' budget' k' p' hsettle' hsize' hsources o ho
      rw [hl.get_settle h (.refl _) hsize (fun _ _ => rfl) hsettle o ho,
        hl.get_settle h (.refl _) hsize' hsources hsettle' o ho]

/-- Two inverters in a row, declared from the end. -/
def reversedInverters : Description where
  devices := [⟨"B", .gate .not, none⟩, ⟨"A", .gate .not, none⟩, ⟨"S", .switch, some 0⟩]
  connections := [⟨⟨"A", none⟩, ⟨"B", "I1"⟩⟩, ⟨⟨"S", none⟩, ⟨"A", "I1"⟩⟩]

/-- From low outputs, two inverters that are declared from the end need all the passes. -/
theorem reversedInverters_settle_by_backEdges :
    reversedInverters.build {} = .ok reversedInverters.network ∧
      reversedInverters.network.LoopFree ∧ reversedInverters.network.maxBackEdges = 1 ∧
      (∃ p, Propagation.settle reversedInverters.network.devices 3 1 ⟨.ofSize 3, #[]⟩ =
        (some 3, p)) ∧
      ∀ s probes, 3 ≤ s.size → ∃ k p,
        Propagation.settle reversedInverters.network.devices 3 1 ⟨s, probes⟩ = (some k, p) ∧
          k ≤ 3 := by
  have hb : reversedInverters.build {} = .ok reversedInverters.network := rfl
  have hl := Description.build_loopFree hb rfl
  obtain ⟨hgreatest, hsettles, -⟩ := build_settles_by_backEdges reversedInverters {} _ hb hl
  have hedge : reversedInverters.network.Feeds 1 0 :=
    ⟨⟨_, rfl, rfl⟩, ⟨_, rfl, rfl⟩, _, rfl, 1, by decide, by decide⟩
  have hpath : reversedInverters.network.IsGatePath [1, 0] := by
    refine ⟨?_, List.isChain_pair.mpr hedge⟩
    simp [hedge.1, hedge.2.1]
  have hbound : reversedInverters.network.maxBackEdges = 1 := by
    have hge := hgreatest.2 ⟨_, hpath, rfl⟩
    have hlt := hl.maxBackEdges_lt_gateCount (by decide)
    have hgates : reversedInverters.network.gateCount = 2 := by decide
    have hone : Graph.backEdges [1, 0] = 1 := by decide
    omega
  refine ⟨hb, hl, hbound, ⟨_, Prod.ext (by decide +kernel) rfl⟩, fun s probes hsize => ?_⟩
  rw [hbound] at hsettles
  obtain ⟨k, p, hsettle, hk, -⟩ := hsettles s probes 3 hsize le_rfl
  exact ⟨k, p, hsettle, hk⟩

end Network

end SyncCircuit
