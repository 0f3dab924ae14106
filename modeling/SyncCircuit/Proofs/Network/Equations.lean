import Mathlib.Logic.Function.Iterate
import SyncCircuit.Proofs.Network.LoopFree
import SyncCircuit.Run.Settle

/-!
# Gate equations

The values of all outputs solve the equations of a network if every gate has the value its inputs
call for, and if the sources, which are all other outputs, have the values they are given. In a
loop-free network there is exactly one solution for every choice of values for the sources: two
solutions agree gate by gate in the order of the ranks, and recomputing all gates at once, once for
each device, reaches one.

## Main definitions

* `Network.Solves` — the equations.
* `Network.eval` — the solution in a loop-free network.
-/
namespace SyncCircuit

namespace Device

/-- The value of a gate, given the values of all outputs. -/
def output? (d : Device) (v : Nat → Bool) : Option Bool :=
  match d.component with
  | .gate g => some (g.evaluate (d.drivers.map v))
  | .switch _ | .clock _ | .dtype => none

/-- The output of a gate is what its inputs call for. -/
def Solved (d : Device) (v : Nat → Bool) : Prop := ∀ b, d.output? v = some b → v d.firstOutput = b

theorem next?_eq_output? (d : Device) (s : Signals) : d.next? s = d.output? s.get := by
  cases hcomp : d.component <;> simp only [next?, output?, hcomp]

theorem isSome_output?_iff {d : Device} {v : Nat → Bool} :
    (d.output? v).isSome ↔ d.component.isGate := by
  rw [output?]
  cases d.component <;> simp [Component.isGate]

theorem output?_congr {d : Device} {v w : Nat → Bool} (h : ∀ o ∈ d.drivers, v o = w o) :
    d.output? v = d.output? w := by
  rw [output?, output?, List.map_congr_left h]

theorem outputCount_of_isGate {d : Device} (h : d.component.isGate) :
    d.component.outputCount = 1 := by
  cases hcomp : d.component with
  | gate g => rfl
  | switch initial | clock halfPeriod | dtype => simp [hcomp, Component.isGate] at h

end Device

namespace Network

variable {net : Network} {v w src : Nat → Bool}

/-- The number is that of an output of a switch, a clock or a flip-flop. -/
def IsSource (net : Network) (o : Nat) : Prop :=
  ∃ (i k : Nat) (dev : Device), net.devices[i]? = some dev ∧ dev.component.isGate = false ∧
    k < dev.component.outputCount ∧ o = dev.firstOutput + k

/-- **The equations of a network**: the gates have the values they should have, the sources the
values they are given. -/
structure Solves (net : Network) (src v : Nat → Bool) : Prop where
  gates : ∀ dev ∈ net.devices, dev.Solved v
  sources : ∀ o, net.IsSource o → v o = src o

theorem WellFormed.isSource_or_isGateOutput (h : net.WellFormed) {o : Nat}
    (ho : o < net.outputCount) : net.IsSource o ∨ IsGateOutput net.devices o := by
  obtain ⟨i, k, dev, hdev, hk, heq⟩ := h.exists_of_lt ho
  by_cases hgate : dev.component.isGate
  · right
    rw [Device.outputCount_of_isGate hgate] at hk
    exact ⟨dev, List.mem_of_getElem? hdev, hgate, by omega⟩
  · left
    exact ⟨i, k, dev, hdev, by simpa using hgate, hk, heq⟩

theorem WellFormed.lt_of_isSource (h : net.WellFormed) {o : Nat} (ho : net.IsSource o) :
    o < net.outputCount := by
  obtain ⟨i, k, dev, hdev, -, hk, rfl⟩ := ho
  exact h.output_lt hdev hk

theorem WellFormed.not_isGateOutput_of_isSource (h : net.WellFormed) {o : Nat}
    (ho : net.IsSource o) : ¬ IsGateOutput net.devices o := by
  intro ⟨dev', hmem, hgate, hfirst⟩
  obtain ⟨i, k, dev, hdev, hsource, hk, heq⟩ := ho
  obtain ⟨j, hj⟩ := List.mem_iff_getElem?.mp hmem
  have hsame := h.output_inj hdev hj hk dev'.component.outputCount_pos (by omega)
  rw [hsame.1, hj] at hdev
  obtain rfl := Option.some.inj hdev
  rw [hgate] at hsource
  cases hsource

/-! ## Uniqueness -/

/-- The equations do not look at the values given to gates. -/
theorem Solves.congr {src' : Nat → Bool} (hv : net.Solves src v)
    (hsrc : ∀ o, net.IsSource o → src o = src' o) : net.Solves src' v where
  gates := hv.gates
  sources o ho := by rw [hv.sources o ho, hsrc o ho]

/-- **Solutions agree** on outputs that depend on no others, wherever they are given the same sources
there, seen gate by gate in the order of the ranks. -/
theorem Solves.agree {src' : Nat → Bool} {P : Nat → Prop} (hv : net.Solves src v)
    (hw : net.Solves src' w) (hl : net.LoopFree) (h : net.WellFormed)
    (hclosed : ∀ dev ∈ net.devices, dev.component.isGate → P dev.firstOutput →
      ∀ o ∈ dev.drivers, P o)
    (hsrc : ∀ o, net.IsSource o → P o → src o = src' o) :
    ∀ o < net.outputCount, P o → v o = w o := by
  obtain ⟨rank, hgrow, -⟩ := hl.exists_rank h
  intro o ho hP
  induction hr : rank o using Nat.strong_induction_on generalizing o with
  | _ r ih =>
  rcases h.isSource_or_isGateOutput ho with hsource | ⟨dev, hmem, hgate, hfirst⟩
  · rw [hv.sources o hsource, hw.sources o hsource, hsrc o hsource hP]
  · have hdrivers : ∀ o' ∈ dev.drivers, v o' = w o' := by
      intro o' ho'
      have hlt := h.driver_lt dev hmem o' ho'
      have hP' := hclosed dev hmem hgate (hfirst ▸ hP) o' ho'
      rcases h.isSource_or_isGateOutput hlt with hsource | hout
      · rw [hv.sources o' hsource, hw.sources o' hsource, hsrc o' hsource hP']
      · have hless := hgrow dev hmem hgate o' ho' hout
        rw [hfirst, hr] at hless
        exact ih (rank o') hless o' hlt hP' rfl
    obtain ⟨b, hb⟩ := Option.isSome_iff_exists.mp (Device.isSome_output?_iff (v := v).mpr hgate)
    have hb' : dev.output? w = some b := by rw [← Device.output?_congr hdrivers, hb]
    rw [← hfirst, hv.gates dev hmem b hb, hw.gates dev hmem b hb']

/-- **At most one solution.** -/
theorem Solves.unique (hv : net.Solves src v) (hw : net.Solves src w) (hl : net.LoopFree)
    (h : net.WellFormed) : ∀ o < net.outputCount, v o = w o := fun o ho =>
  hv.agree (P := fun _ => True) hw hl h (fun _ _ _ _ _ _ => trivial) (fun _ _ _ => rfl) o ho trivial

/-! ## Existence -/

/-- The gate with this output. -/
def gate? (net : Network) (o : Nat) : Option Device :=
  net.devices.find? fun d => d.component.isGate && d.firstOutput == o

/-- Recomputes all gates at once. -/
def relax (net : Network) (v : Nat → Bool) (o : Nat) : Bool :=
  ((net.gate? o).bind (·.output? v)).getD (v o)

/-- The values of all outputs that the sources determine in a loop-free network. -/
def eval (net : Network) (src : Nat → Bool) : Nat → Bool := net.relax^[net.size] src

theorem WellFormed.gate?_firstOutput (h : net.WellFormed) {dev : Device}
    (hmem : dev ∈ net.devices) (hgate : dev.component.isGate) :
    net.gate? dev.firstOutput = some dev := by
  have hfound : (net.gate? dev.firstOutput).isSome :=
    List.find?_isSome.mpr ⟨dev, hmem, by simp [hgate]⟩
  obtain ⟨dev', hdev'⟩ := Option.isSome_iff_exists.mp hfound
  have hfirst : dev'.firstOutput = dev.firstOutput := by
    have := List.find?_some hdev'
    simp only [Bool.and_eq_true, beq_iff_eq] at this
    exact this.2
  obtain ⟨i, hi⟩ := List.mem_iff_getElem?.mp hmem
  obtain ⟨j, hj⟩ := List.mem_iff_getElem?.mp (List.mem_of_find?_eq_some hdev')
  have hsame := h.output_inj hj hi dev'.component.outputCount_pos dev.component.outputCount_pos
    (by omega)
  rw [hsame.1, hi] at hj
  rw [hdev', ← hj]

theorem WellFormed.relax_firstOutput (h : net.WellFormed) {dev : Device}
    (hmem : dev ∈ net.devices) {b : Bool} (hb : dev.output? v = some b) :
    net.relax v dev.firstOutput = b := by
  have hgate : dev.component.isGate := Device.isSome_output?_iff.mp (by rw [hb]; rfl)
  rw [relax, h.gate?_firstOutput hmem hgate, Option.bind_some, hb, Option.getD_some]

theorem relax_of_not_isGateOutput {o : Nat} (ho : ¬ IsGateOutput net.devices o) :
    net.relax v o = v o := by
  have hnone : net.gate? o = none := by
    rw [gate?, List.find?_eq_none]
    intro dev hmem htest
    simp only [Bool.and_eq_true, beq_iff_eq] at htest
    exact ho ⟨dev, hmem, htest⟩
  rw [relax, hnone]
  rfl

theorem iterate_relax_of_not_isGateOutput {o : Nat} (ho : ¬ IsGateOutput net.devices o) (n : Nat) :
    net.relax^[n] v o = v o := by
  induction n with
  | zero => rfl
  | succ n ih => rw [Function.iterate_succ_apply', relax_of_not_isGateOutput ho, ih]

/-- After `n` rounds, gates of rank below `n` keep their values. -/
theorem WellFormed.iterate_relax_succ (h : net.WellFormed) {rank : Nat → Nat}
    (hgrow : ∀ dev ∈ net.devices, dev.component.isGate → ∀ o ∈ dev.drivers,
      IsGateOutput net.devices o → rank o < rank dev.firstOutput)
    (src : Nat → Bool) {n o : Nat} (ho : IsGateOutput net.devices o) (hlt : rank o < n) :
    net.relax^[n + 1] src o = net.relax^[n] src o := by
  induction n generalizing o with
  | zero => omega
  | succ n ih =>
    obtain ⟨dev, hmem, hgate, hfirst⟩ := ho
    have hdrivers : ∀ o' ∈ dev.drivers, net.relax^[n + 1] src o' = net.relax^[n] src o' := by
      intro o' ho'
      by_cases hout : IsGateOutput net.devices o'
      · have hless := hgrow dev hmem hgate o' ho' hout
        rw [hfirst] at hless
        exact ih hout (by omega)
      · rw [iterate_relax_of_not_isGateOutput hout, iterate_relax_of_not_isGateOutput hout]
    obtain ⟨b, hb⟩ := Option.isSome_iff_exists.mp
      (Device.isSome_output?_iff (v := net.relax^[n] src).mpr hgate)
    have hb' : dev.output? (net.relax^[n + 1] src) = some b := by
      rw [Device.output?_congr hdrivers, hb]
    rw [Function.iterate_succ_apply', ← hfirst, h.relax_firstOutput hmem hb',
      Function.iterate_succ_apply', h.relax_firstOutput hmem hb]

theorem LoopFree.eval_solves (hl : net.LoopFree) (h : net.WellFormed) (src : Nat → Bool) :
    net.Solves src (net.eval src) := by
  obtain ⟨rank, hgrow, hbound⟩ := hl.exists_rank h
  constructor
  · intro dev hmem b hb
    have hgate : dev.component.isGate := Device.isSome_output?_iff.mp (by rw [hb]; rfl)
    have hout : IsGateOutput net.devices dev.firstOutput := ⟨dev, hmem, hgate, rfl⟩
    have hlt : rank dev.firstOutput < net.size :=
      Nat.lt_of_lt_of_le (hbound _ hout) net.gateCount_le_size
    -- No rank reaches the number of devices, so one more round changes nothing.
    rw [eval, ← h.iterate_relax_succ hgrow src hout hlt, Function.iterate_succ_apply']
    exact h.relax_firstOutput hmem hb
  · intro o ho
    exact iterate_relax_of_not_isGateOutput (h.not_isGateOutput_of_isSource ho) net.size

/-- Whatever solves the equations is the evaluation. -/
theorem Solves.eq_eval (hv : net.Solves src v) (hl : net.LoopFree) (h : net.WellFormed) :
    ∀ o < net.outputCount, v o = net.eval src o :=
  hv.unique (hl.eval_solves h src) hl h

end Network

end SyncCircuit
