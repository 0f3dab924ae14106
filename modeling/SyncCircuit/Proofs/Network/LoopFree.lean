import SyncCircuit.Proofs.Graph.Acyclic
import SyncCircuit.Proofs.Network.Lookup

/-!
# Loop-free networks

A network is loop-free if no loop runs through gates only. Its gates can be ranked so that every
gate comes after the gates driving it, and a network that is not empty has a device that is no gate:
the gate with the least rank has an input, and something must drive it.

## Main definitions

* `Network.Feeds` — the wiring between gates.
* `Network.LoopFree` — no loop in that wiring.
-/
namespace SyncCircuit.Network

variable {net : Network}

/-- The device with an index is a gate. -/
def IsGate (net : Network) (i : Nat) : Prop :=
  ∃ dev, net.devices[i]? = some dev ∧ dev.component.isGate

/-- Gate `i` drives an input of gate `j`. -/
def Feeds (net : Network) (i j : Nat) : Prop :=
  net.IsGate i ∧ net.IsGate j ∧ ∃ dev, net.devices[j]? = some dev ∧
    ∃ o ∈ dev.drivers, net.outputDevice? o = some i

/-- No loop runs through gates only. -/
def LoopFree (net : Network) : Prop := Graph.Acyclic net.Feeds

/-- The number of gates. -/
def gateCount (net : Network) : Nat := (net.indicesOf (·.isGate)).length

theorem mem_gates_iff {i : Nat} :
    i ∈ (net.indicesOf (·.isGate)).toFinset ↔ net.IsGate i := by
  rw [List.mem_toFinset, mem_indicesOf_iff]
  rfl

theorem card_gates (net : Network) :
    (net.indicesOf (·.isGate)).toFinset.card = net.gateCount :=
  List.toFinset_card_of_nodup ((net.pairwise_indicesOf _).imp fun hlt => Nat.ne_of_lt hlt)

theorem IsGate.lt_size {i : Nat} (h : net.IsGate i) : i < net.size := by
  obtain ⟨dev, hdev, -⟩ := h
  exact (List.getElem?_eq_some_iff.mp hdev).1

theorem gates_subset_range (net : Network) :
    (net.indicesOf (·.isGate)).toFinset ⊆ Finset.range net.size := by
  intro i hi
  exact Finset.mem_range.mpr (mem_gates_iff.mp hi).lt_size

theorem gateCount_le_size (net : Network) : net.gateCount ≤ net.size := by
  have := Finset.card_le_card net.gates_subset_range
  rwa [card_gates, Finset.card_range] at this

/-- **A gate needs a device that is none**: a loop-free network that is not empty has fewer gates
than devices. -/
theorem LoopFree.gateCount_lt_size (hl : net.LoopFree) (h : net.WellFormed) (hne : net.size ≠ 0) :
    net.gateCount < net.size := by
  by_contra hge
  have hall : (net.indicesOf (·.isGate)).toFinset = Finset.range net.size := by
    apply Finset.eq_of_subset_of_card_le net.gates_subset_range
    rw [card_gates, Finset.card_range]
    omega
  have hgate : ∀ i < net.size, net.IsGate i := by
    intro i hi
    rw [← mem_gates_iff, hall]
    exact Finset.mem_range.mpr hi
  have hnonempty : (Finset.range net.size).Nonempty := Finset.nonempty_range_iff.mpr hne
  obtain ⟨j, hj, hsource⟩ := Graph.Acyclic.exists_source hl hnonempty
  have hjgate := hgate j (Finset.mem_range.mp hj)
  obtain ⟨dev, hdev, hisgate⟩ := id hjgate
  have hmem := List.mem_of_getElem? hdev
  -- The gate no gate feeds has an input all the same.
  have hpos : 0 < dev.drivers.length := by
    have hallows := h.allowsInputs dev hmem
    cases hcomp : dev.component with
    | gate g =>
      rw [hcomp] at hallows
      exact hallows.pos
    | switch initial | clock halfPeriod | dtype => simp [hcomp, Component.isGate] at hisgate
  have ho := h.driver_lt dev hmem _ (List.getElem_mem hpos)
  obtain ⟨i, k, dev', hdev', hk, heq⟩ := h.exists_of_lt ho
  have hi : i < net.size := (List.getElem?_eq_some_iff.mp hdev').1
  refine hsource i (Finset.mem_range.mpr hi)
    ⟨hgate i hi, hjgate, dev, hdev, _, List.getElem_mem hpos, ?_⟩
  rw [heq, outputDevice?, h.getElem?_outputs hdev' hk]
  rfl

/-! ## Ranks -/

/-- The number is that of the output of a gate. -/
def IsGateOutput (devices : List Device) (o : Nat) : Prop :=
  ∃ dev ∈ devices, dev.component.isGate ∧ dev.firstOutput = o

theorem WellFormed.outputDevice?_firstOutput (h : net.WellFormed) {i : Nat} {dev : Device}
    (hdev : net.devices[i]? = some dev) : net.outputDevice? dev.firstOutput = some i := by
  have hout := h.getElem?_outputs hdev dev.component.outputCount_pos
  rw [Nat.add_zero] at hout
  rw [outputDevice?, hout]
  rfl

/-- A gate with an input that is driven by the output of another one. -/
theorem WellFormed.feeds_of_driver (h : net.WellFormed) {i j : Nat} {dev dev' : Device}
    (hdev : net.devices[i]? = some dev) (hdev' : net.devices[j]? = some dev')
    (hgate : dev.component.isGate) (hgate' : dev'.component.isGate)
    (hdrives : dev'.firstOutput ∈ dev.drivers) : net.Feeds j i :=
  ⟨⟨dev', hdev', hgate'⟩, ⟨dev, hdev, hgate⟩, dev, hdev, _, hdrives,
    h.outputDevice?_firstOutput hdev'⟩

/-- Ranks of devices as ranks of their outputs. -/
def outputRank (net : Network) (rank : Nat → Nat) (o : Nat) : Nat :=
  ((net.outputDevice? o).map rank).getD 0

theorem WellFormed.outputRank_firstOutput (h : net.WellFormed) (rank : Nat → Nat) {i : Nat}
    {dev : Device} (hdev : net.devices[i]? = some dev) :
    net.outputRank rank dev.firstOutput = rank i := by
  rw [outputRank, h.outputDevice?_firstOutput hdev]
  rfl

/-- **Ranks of gate outputs** that grow from gate to gate, all below the number of gates. -/
theorem LoopFree.exists_rank (hl : net.LoopFree) (h : net.WellFormed) :
    ∃ rank : Nat → Nat,
      (∀ dev ∈ net.devices, dev.component.isGate → ∀ o ∈ dev.drivers,
        IsGateOutput net.devices o → rank o < rank dev.firstOutput) ∧
      ∀ o, IsGateOutput net.devices o → rank o < net.gateCount := by
  obtain ⟨rank, hgrow, hlt⟩ := Graph.Acyclic.exists_rank hl (net.indicesOf (·.isGate)).toFinset
    fun i j hij => mem_gates_iff.mpr hij.1
  refine ⟨net.outputRank rank, ?_, ?_⟩
  · rintro dev hmem hgate o ho ⟨dev', hmem', hgate', rfl⟩
    obtain ⟨i, hi⟩ := List.mem_iff_getElem?.mp hmem
    obtain ⟨j, hj⟩ := List.mem_iff_getElem?.mp hmem'
    rw [h.outputRank_firstOutput rank hi, h.outputRank_firstOutput rank hj]
    exact hgrow j i (h.feeds_of_driver hi hj hgate hgate' ho)
  · rintro o ⟨dev, hmem, hgate, rfl⟩
    obtain ⟨i, hi⟩ := List.mem_iff_getElem?.mp hmem
    rw [h.outputRank_firstOutput rank hi, ← card_gates]
    exact hlt i (mem_gates_iff.mpr ⟨dev, hi, hgate⟩)

end SyncCircuit.Network
