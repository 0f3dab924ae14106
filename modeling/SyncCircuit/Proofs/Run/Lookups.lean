import SyncCircuit.Proofs.Network.Tables
import SyncCircuit.Proofs.Run.Workspace
import SyncCircuit.Run.Checked

/-!
# Lookups in the course of a cycle

On the tables of a well-formed network, with signals that have a bit for every output and memory
with an entry for every device, no step of a cycle and of the cold start misses: it does what the
step does that looks up nothing. Steps leave such signals and such memory behind.

## Main definitions

* `CircuitState.Fits` — signals and memory have room for a network.
* `visit` — what a loop over the devices does with each of them and what it remembers.
-/
namespace SyncCircuit

/-! ## Loops -/

section Loops

variable {α σ ε : Type} {P : σ → Prop} {F : σ → α → Except ε σ} {G : σ → α → σ} {xs : List α}

/-- **A loop over a selection** is a loop over everything that does nothing with the others, if
there is an invariant under which no step misses. -/
theorem foldlM_filter_eq_ok {test : α → Bool}
    (hstep : ∀ a, P a → ∀ x ∈ xs, test x = true → F a x = .ok (G a x) ∧ P (G a x))
    (hskip : ∀ a, P a → ∀ x ∈ xs, test x = false → G a x = a) {a : σ} (ha : P a) :
    (xs.filter test).foldlM F a = .ok (xs.foldl G a) := by
  induction xs generalizing a with
  | nil => rfl
  | cons x xs ih =>
    have ih' := fun {b} => ih (a := b) (fun b hb y hy => hstep b hb y (List.mem_cons_of_mem x hy))
      (fun b hb y hy => hskip b hb y (List.mem_cons_of_mem x hy))
    rw [List.foldl_cons]
    cases htest : test x with
    | true =>
      obtain ⟨hok, hP⟩ := hstep a ha x List.mem_cons_self htest
      rw [List.filter_cons_of_pos htest, List.foldlM_cons, hok, ok_bind, ih' hP]
    | false =>
      rw [List.filter_cons_of_neg (by simp [htest]), hskip a ha x List.mem_cons_self htest, ih' ha]

theorem foldlM_eq_ok (hstep : ∀ a, P a → ∀ x ∈ xs, F a x = .ok (G a x) ∧ P (G a x)) {a : σ}
    (ha : P a) : xs.foldlM F a = .ok (xs.foldl G a) := by
  have hall : (xs.filter fun _ => true).foldlM F a = .ok (xs.foldl G a) :=
    foldlM_filter_eq_ok (fun a ha x hx _ => hstep a ha x hx)
      (fun _ _ _ _ (h : true = false) => nomatch h) ha
  rwa [List.filter_true] at hall

theorem foldl_zipIdx (f : σ → α → σ) (xs : List α) (a : σ) :
    xs.zipIdx.foldl (fun a (x, _) => f a x) a = xs.foldl f a := by
  have hmap : (xs.zipIdx.map Prod.fst).foldl f a = xs.zipIdx.foldl (fun a (x, _) => f a x) a :=
    List.foldl_map
  rw [List.zipIdx_map_fst] at hmap
  exact hmap.symm

end Loops

namespace Network

variable {net : Network} {σ ε : Type} {P : σ → Prop} {test : Component → Bool}

/-- A loop over the devices of some sort, by index. -/
theorem foldlM_indicesOf {F : σ → Nat → Except ε σ} {G : σ → Device × Nat → σ}
    (hstep : ∀ a, P a → ∀ i dev, net.devices[i]? = some dev → test dev.component = true →
      F a i = .ok (G a (dev, i)) ∧ P (G a (dev, i)))
    (hskip : ∀ a, P a → ∀ i dev, net.devices[i]? = some dev → test dev.component = false →
      G a (dev, i) = a) {a : σ} (ha : P a) :
    (net.indicesOf test).foldlM F a = .ok (net.devices.zipIdx.foldl G a) := by
  rw [indicesOf, List.foldlM_map]
  exact foldlM_filter_eq_ok
    (fun a ha p hmem => hstep a ha p.2 p.1 (List.mk_mem_zipIdx_iff_getElem?.mp hmem))
    (fun a ha p hmem => hskip a ha p.2 p.1 (List.mk_mem_zipIdx_iff_getElem?.mp hmem)) ha

end Network

/-! ## Devices and what they remember -/

section Visit

variable {σ : Type} (f : σ → Device × Nat → Memory → σ) (g : Device → Memory → Memory)

/-- What a loop does with a device and its entry of the memory, which is replaced. -/
def visit : σ × List Memory → Device × Nat → σ × List Memory
  | (a, memory), (dev, i) =>
    match memory[i]? with
    | some m => (f a (dev, i) m, memory.set i (g dev m))
    | none => (a, memory)

variable {f g}

theorem visit_of_getElem? {a : σ} {memory : List Memory} {dev : Device} {i : Nat} {m : Memory}
    (hm : memory[i]? = some m) :
    visit f g (a, memory) (dev, i) = (f a (dev, i) m, memory.set i (g dev m)) := by
  rw [visit, hm]

theorem set_of_getElem? {memory : List Memory} {i : Nat} {m : Memory} (hm : memory[i]? = some m) :
    memory.set i m = memory := by
  obtain ⟨hlt, rfl⟩ := List.getElem?_eq_some_iff.mp hm
  exact List.set_getElem_self hlt

theorem visit_of_idle {a : σ} {memory : List Memory} {dev : Device} {i : Nat}
    (hf : ∀ m, f a (dev, i) m = a) (hg : ∀ m, g dev m = m) :
    visit f g (a, memory) (dev, i) = (a, memory) := by
  rw [visit]
  cases hm : memory[i]? with
  | none => rfl
  | some m =>
    dsimp only
    rw [hf, hg, set_of_getElem? hm]

/-- Every visit sees the entry as it was before the loop, whatever the visits before have written. -/
theorem foldl_visit_append (devices : List Device) (a : σ) (front rest : List Memory)
    (hlength : rest.length = devices.length) :
    (devices.zipIdx front.length).foldl (visit f g) (a, front ++ rest) =
      (((devices.zipIdx front.length).zip rest).foldl (fun a (p, m) => f a p m) a,
        front ++ devices.zipWith g rest) := by
  -- The entries in front have been replaced, and the rest is still as it was.
  induction devices generalizing a front rest with
  | nil =>
    obtain rfl := List.length_eq_zero_iff.mp hlength
    rfl
  | cons dev devices ih =>
    obtain ⟨m, rest, rfl⟩ := List.exists_cons_of_length_eq_add_one hlength
    have hvisit : visit f g (a, front ++ m :: rest) (dev, front.length) =
        (f a (dev, front.length) m, (front ++ [g dev m]) ++ rest) := by
      rw [visit_of_getElem? (m := m) (by simp)]
      simp
    have hnext := ih (f a (dev, front.length) m) (front ++ [g dev m]) rest (by simpa using hlength)
    rw [List.length_append, List.length_singleton] at hnext
    rw [List.zipIdx_cons, List.foldl_cons, hvisit, hnext, List.zip_cons_cons, List.foldl_cons,
      List.zipWith_cons_cons, List.append_assoc, List.singleton_append]

/-- **A loop over the devices** reads the old memory and writes the new one. -/
theorem foldl_visit (devices : List Device) (a : σ) {memory : List Memory}
    (hlength : memory.length = devices.length) :
    devices.zipIdx.foldl (visit f g) (a, memory) =
      ((devices.zipIdx.zip memory).foldl (fun a (p, m) => f a p m) a,
        devices.zipWith g memory) :=
  foldl_visit_append devices a [] memory hlength

theorem map_zip_zipIdx {α β : Type} (as : List α) (bs : List β) :
    (as.zipIdx.zip bs).map (fun p => (p.1.1, p.2)) = as.zip bs := by
  have hmap : (as.zipIdx.map Prod.fst).zip bs = (as.zipIdx.zip bs).map (Prod.map Prod.fst id) :=
    List.zip_map_left
  rw [List.zipIdx_map_fst] at hmap
  exact hmap.symm

end Visit

/-! ## Settling -/

theorem Propagation.step_of_not_isGate {dev : Device} (hgate : dev.component.isGate = false)
    (pass : Nat) (p : Propagation) : p.step pass dev = p := by
  have hnext : dev.next? p.signals = none := by
    cases hcomp : dev.component with
    | gate g => simp [hcomp, Component.isGate] at hgate
    | switch initial | clock halfPeriod | dtype => simp [Device.next?, hcomp]
  rw [Propagation.step, Device.update, Device.probe?, hnext]
  rfl

namespace Network.WellFormed

variable {net : Network} {i : Nat} {dev : Device} {s : Signals}

theorem mapM_readBit (h : net.WellFormed) (hdev : net.devices[i]? = some dev)
    (hs : net.outputCount ≤ s.size) : dev.drivers.mapM s.readBit = .ok (dev.drivers.map s.get) :=
  mapM_eq_ok fun o ho =>
    Signals.readBit_of_lt (Nat.lt_of_lt_of_le (h.driver_lt dev (List.mem_of_getElem? hdev) o ho) hs)

theorem stepGate_tables (h : net.WellFormed) (hdev : net.devices[i]? = some dev)
    (hgate : dev.component.isGate = true) (pass : Nat) {p : Propagation}
    (hp : net.outputCount ≤ p.signals.size) :
    net.tables.stepGate pass p i = .ok (p.step pass dev) := by
  have hlt := h.firstOutput_lt (List.mem_of_getElem? hdev)
  cases hcomp : dev.component with
  | switch initial | clock halfPeriod | dtype => simp [hcomp, Component.isGate] at hgate
  | gate g =>
    have hnext : dev.next? p.signals = some (g.evaluate (dev.drivers.map p.signals.get)) := by
      rw [Device.next?, hcomp]
    rw [Tables.stepGate, node_tables hdev, ok_bind]
    simp only [Device.node, hcomp, h.mapM_readBit hdev hp, ok_bind,
      Signals.writeBit_of_lt (Nat.lt_of_lt_of_le hlt hp), outputLabel_tables hlt]
    rw [Propagation.step, Device.update, Device.probe?, hnext]
    dsimp only
    split
    · rfl
    · rfl

theorem sweep_tables (h : net.WellFormed) (pass : Nat) {p : Propagation}
    (hp : net.outputCount ≤ p.signals.size) :
    net.tables.sweep pass p = .ok (p.sweep net.devices pass) := by
  have hloop : net.tables.gates.foldlM (net.tables.stepGate pass)
      { p with signals := p.signals.tick } = .ok (net.devices.zipIdx.foldl
        (fun p x => p.step pass x.1) { p with signals := p.signals.tick }) := by
    refine foldlM_indicesOf (P := fun p => net.outputCount ≤ p.signals.size) ?_ ?_ hp
    · intro p hp i dev hdev hgate
      exact ⟨h.stepGate_tables hdev hgate pass hp, by simpa using hp⟩
    · intro p _ i dev _ hgate
      exact Propagation.step_of_not_isGate hgate pass p
  rw [Propagation.sweep, ← foldl_zipIdx]
  exact hloop

theorem settle_tables (h : net.WellFormed) (budget pass : Nat) {p : Propagation}
    (hp : net.outputCount ≤ p.signals.size) :
    net.tables.settle budget pass p = .ok (Propagation.settle net.devices budget pass p) := by
  induction budget generalizing pass p with
  | zero => rfl
  | succ budget ih =>
    have hswept : net.outputCount ≤ (p.sweep net.devices pass).signals.size := by simpa using hp
    rw [Tables.settle, h.sweep_tables pass hp, ok_bind, Propagation.settle]
    split
    · exact ih (pass + 1) hswept
    · rfl

end Network.WellFormed

/-! ## Room for a network -/

/-- The signals have a bit for every output, and the memory has an entry for every device. -/
structure CircuitState.Fits (st : CircuitState) (net : Network) : Prop where
  signals : net.outputCount ≤ st.signals.size
  memory : st.memory.length = net.size

namespace CircuitState.Fits

variable {net : Network} {st : CircuitState}

theorem coldState (net : Network) : net.coldState.Fits net where
  signals := net.size_coldState
  memory := length_memory_coldState net

theorem tickClocks (hst : st.Fits net) : (st.tickClocks net.devices).Fits net where
  signals := by rw [size_tickClocks]; exact hst.signals
  memory := length_memory_tickClocks hst.memory

theorem sampleClks (hst : st.Fits net) : (st.sampleClks net.devices).Fits net where
  signals := hst.signals
  memory := length_memory_sampleClks hst.memory

theorem clockFlipFlops (hst : st.Fits net) : (st.clockFlipFlops net.devices).1.Fits net where
  signals := by rw [size_clockFlipFlops]; exact hst.signals
  memory := length_memory_sampleClks hst.memory

/-- Settling, whether or not it ends. -/
theorem settle (hst : st.Fits net) {devices : List Device} {budget pass : Nat} {probes : Array Probe}
    {o : Option Nat} {p : Propagation}
    (hp : Propagation.settle devices budget pass ⟨st.signals, probes⟩ = (o, p)) :
    ({ st with signals := p.signals } : CircuitState).Fits net where
  signals := by
    have hsize := Propagation.size_of_settle hp
    rw [hsize]
    exact hst.signals
  memory := hst.memory

theorem of_settle (hst : st.Fits net) {devices : List Device} {budget passes : Nat}
    {probes probes' : Array Probe} {st' : CircuitState}
    (hsettle : st.settle devices budget probes = ⟨some (passes, st'), probes'⟩) : st'.Fits net := by
  rcases hp : Propagation.settle devices budget 1 ⟨st.signals, probes⟩ with ⟨_ | k, p⟩
  · rw [CircuitState.settle, hp] at hsettle
    cases hsettle
  · rw [CircuitState.settle, hp] at hsettle
    cases hsettle
    exact hst.settle hp

end CircuitState.Fits

/-! ## Clocks -/

/-- The memory has an entry for each device. -/
theorem Network.exists_memory {net : Network} {i : Nat} {dev : Device} {memory : List Memory}
    (hmemory : memory.length = net.size) (hdev : net.devices[i]? = some dev) :
    ∃ m, memory[i]? = some m ∧ i < memory.length := by
  have hlt : i < memory.length := hmemory ▸ (List.getElem?_eq_some_iff.mp hdev).1
  exact ⟨_, List.getElem?_eq_getElem hlt, hlt⟩

theorem Device.tick_of_not_isClock {dev : Device} (hclock : dev.component.isClock = false)
    (s : Signals) (m : Memory) : Device.tickSignals s (dev, m) = s ∧ dev.tickMemory m = m := by
  have htick : dev.clockTick? m = none := by
    cases hcomp : dev.component with
    | clock halfPeriod => simp [hcomp, Component.isClock] at hclock
    | gate g | switch initial | dtype => simp [Device.clockTick?, hcomp]
  rw [Device.tickSignals, Device.tickMemory, htick]
  exact ⟨rfl, rfl⟩

namespace Network.WellFormed

variable {net : Network} {i : Nat} {dev : Device} {s : Signals} {memory : List Memory}

theorem tickClock_tables (h : net.WellFormed) (hdev : net.devices[i]? = some dev)
    (hclock : dev.component.isClock = true) (hs : net.outputCount ≤ s.size)
    (hmemory : memory.length = net.size) :
    net.tables.tickClock (s, memory) i =
      .ok (visit (fun s (dev, _) m => Device.tickSignals s (dev, m)) Device.tickMemory (s, memory)
        (dev, i)) := by
  obtain ⟨m, hm, hlt⟩ := exists_memory hmemory hdev
  have hout : dev.firstOutput < s.size :=
    Nat.lt_of_lt_of_le (h.firstOutput_lt (List.mem_of_getElem? hdev)) hs
  rw [visit_of_getElem? hm, Tables.tickClock, node_tables hdev, ok_bind,
    TableName.read_of_getElem? _ hm, ok_bind]
  cases hcomp : dev.component with
  | gate g | switch initial | dtype => simp [hcomp, Component.isClock] at hclock
  | clock halfPeriod =>
    cases m with
    | stateless | flipFlop lastClk =>
      simp only [Device.node, Device.tickSignals, Device.tickMemory, hcomp, Device.clockTick?]
      rw [set_of_getElem? hm]
      rfl
    | clock ticks =>
      rcases htick : Clock.tick ticks halfPeriod with ⟨next, _ | _⟩
      · simp only [Device.node, Device.tickSignals, Device.tickMemory, hcomp, Device.clockTick?,
          htick, TableName.write_of_lt _ hlt, ok_bind]
        rfl
      · simp only [Device.node, Device.tickSignals, Device.tickMemory, hcomp, Device.clockTick?,
          htick, TableName.write_of_lt _ hlt, ok_bind, Signals.readBit_of_lt hout,
          Signals.writeBit_of_lt hout]
        rfl

theorem tickClocks_tables (h : net.WellFormed) {st : CircuitState} (hst : st.Fits net) :
    net.tables.tickClocks st = .ok (st.tickClocks net.devices) := by
  have hloop : net.tables.clocks.foldlM net.tables.tickClock (st.signals, st.memory) =
      .ok (net.devices.zipIdx.foldl
        (visit (fun s (dev, _) m => Device.tickSignals s (dev, m)) Device.tickMemory)
        (st.signals, st.memory)) := by
    refine foldlM_indicesOf
      (P := fun a => net.outputCount ≤ a.1.size ∧ a.2.length = net.size) ?_ ?_
      ⟨hst.signals, hst.memory⟩
    · intro (s, memory) ⟨hs, hmemory⟩ i dev hdev hclock
      obtain ⟨m, hm, -⟩ := exists_memory hmemory hdev
      refine ⟨h.tickClock_tables hdev hclock hs hmemory, ?_⟩
      rw [visit_of_getElem? hm, List.length_set, localStep_tickSignals.size]
      exact ⟨hs, hmemory⟩
    · intro (s, memory) _ i dev _ hclock
      have hidle := Device.tick_of_not_isClock hclock s
      exact visit_of_idle (fun m => (hidle m).1) fun m => (hidle m).2
  have hzip : ((net.devices.zipIdx.zip st.memory).map fun p => (p.1.1, p.2)).foldl
      Device.tickSignals st.signals =
      (net.devices.zipIdx.zip st.memory).foldl (fun s (p, m) => Device.tickSignals s (p.1, m))
        st.signals := List.foldl_map
  rw [map_zip_zipIdx] at hzip
  rw [Tables.tickClocks, hloop, ok_bind, foldl_visit net.devices st.signals hst.memory,
    CircuitState.tickClocks, hzip]
  rfl

end Network.WellFormed

/-! ## Flip-flops -/

theorem Device.commit_of_not_isFlipFlop {dev : Device} (hflip : dev.component.isFlipFlop = false)
    (s : Signals) (m : Memory) : dev.commit? m s = none ∧ dev.sampleClk s m = m := by
  cases hcomp : dev.component with
  | dtype => simp [hcomp, Component.isFlipFlop] at hflip
  | gate g | switch initial | clock halfPeriod =>
    exact ⟨by simp [Device.commit?, hcomp], by rw [Device.sampleClk, hcomp]⟩

/-- What a flip-flop adds to what is about to be stored, by index. -/
def Signals.addDue (s : Signals) (pending : List (Nat × Bool)) (p : Device × Nat) (m : Memory) :
    List (Nat × Bool) := pending ++ ((p.1.commit? m s).map (p.2, ·)).toList

namespace Network.WellFormed

variable {net : Network} {i : Nat} {dev : Device} {s : Signals} {memory : List Memory}

/-- **A flip-flop has a driver** for each of its inputs. -/
theorem exists_driver (h : net.WellFormed) (hmem : dev ∈ net.devices)
    (hcomp : dev.component = .dtype) (pin : FlipFlop.Input) :
    ∃ o, dev.driver? pin.index = some o ∧ o < net.outputCount := by
  have hlength := h.allowsInputs dev hmem
  rw [hcomp] at hlength
  have hlt : pin.index < dev.drivers.length := by
    rw [hlength]
    cases pin <;> decide
  exact ⟨_, List.getElem?_eq_getElem hlt, h.driver_lt dev hmem _ (List.getElem_mem hlt)⟩

theorem input_tables (h : net.WellFormed) (hdev : net.devices[i]? = some dev)
    (hcomp : dev.component = .dtype) (hs : net.outputCount ≤ s.size) (pin : FlipFlop.Input) :
    net.tables.input s i pin = .ok (dev.input s pin) := by
  obtain ⟨o, ho, hlt⟩ := h.exists_driver (List.mem_of_getElem? hdev) hcomp pin
  rw [Tables.input, node_tables hdev, ok_bind]
  dsimp only [Device.node]
  rw [TableName.read_of_getElem? _ ho, ok_bind,
    Signals.readBit_of_lt (Nat.lt_of_lt_of_le hlt hs), Device.input, ho]
  rfl

theorem commit?_tables (h : net.WellFormed) (hdev : net.devices[i]? = some dev)
    (hcomp : dev.component = .dtype) (hs : net.outputCount ≤ s.size) (m : Memory) :
    net.tables.commit? s i m (dev.input s .clk) = .ok (dev.commit? m s) := by
  cases m with
  | stateless | clock ticks =>
    rw [Tables.commit?, Device.commit?]
    · rfl
    · simp
  | flipFlop lastClk =>
    simp only [Tables.commit?, Device.commit?, hcomp]
    split
    · simp only [h.input_tables hdev hcomp hs, ok_bind]
      rfl
    · rfl

theorem look_tables (h : net.WellFormed) (hdev : net.devices[i]? = some dev)
    (hflip : dev.component.isFlipFlop = true) (hs : net.outputCount ≤ s.size)
    (hmemory : memory.length = net.size) (pending : List (Nat × Bool)) :
    net.tables.look s (pending, memory) i =
      .ok (visit s.addDue (Device.sampleClk s) (pending, memory) (dev, i)) := by
  obtain ⟨m, hm, hlt⟩ := exists_memory hmemory hdev
  cases hcomp : dev.component with
  | gate g | switch initial | clock halfPeriod => simp [hcomp, Component.isFlipFlop] at hflip
  | dtype =>
    rw [visit_of_getElem? hm, Tables.look, h.input_tables hdev hcomp hs, ok_bind,
      TableName.read_of_getElem? _ hm, ok_bind, h.commit?_tables hdev hcomp hs, ok_bind,
      TableName.write_of_lt _ hlt, ok_bind, Device.sampleClk, hcomp]
    rfl

theorem store_tables (h : net.WellFormed) (hdev : net.devices[i]? = some dev)
    (hcomp : dev.component = .dtype) (hs : net.outputCount ≤ s.size) (changed q : Bool) :
    net.tables.store (s, changed) (i, q) =
      .ok (FlipFlop.commit (s, changed) (dev.firstOutput, q)) := by
  have hlt : ∀ pin : FlipFlop.Output, dev.firstOutput + pin.index < s.size := fun pin =>
    Nat.lt_of_lt_of_le (h.output_lt hdev (by rw [hcomp]; cases pin <;> decide)) hs
  have hlt' : ∀ v, dev.firstOutput + FlipFlop.Output.qbar.index <
      (s.set (dev.firstOutput + FlipFlop.Output.q.index) v).size := fun v => by
    rw [Signals.size_set]
    exact hlt .qbar
  rw [Tables.store, node_tables hdev, ok_bind]
  dsimp only [Device.node]
  rw [Signals.writeBit_of_lt (hlt .q), ok_bind]
  dsimp only
  rw [Signals.writeBit_of_lt (hlt' q)]
  rfl

end Network.WellFormed

namespace CircuitState

variable {net : Network} (st : CircuitState)

/-- The flip-flops about to store a value, with their indices. -/
def due (net : Network) : List ((Device × Nat) × Bool) :=
  (net.devices.zipIdx.zip st.memory).filterMap fun (p, m) =>
    (p.1.commit? m st.signals).map (p, ·)

theorem foldl_due : (net.devices.zipIdx.zip st.memory).foldl
      (fun a (p, m) => st.signals.addDue a p m) [] =
    (st.due net).map fun (p, q) => (p.2, q) := by
  have hcollect := foldl_toList (fun x : (Device × Nat) × Memory =>
    (x.1.1.commit? x.2 st.signals).map (x.1.2, ·)) (net.devices.zipIdx.zip st.memory) []
  rw [List.nil_append] at hcollect
  rw [due, List.map_filterMap]
  refine hcollect.trans (List.filterMap_congr fun x _ => ?_)
  rw [Option.map_map]
  rfl

theorem commits_eq_map_due :
    st.commits net.devices = (st.due net).map fun (p, q) => (p.1.firstOutput, q) := by
  rw [commits, ← map_zip_zipIdx, List.filterMap_map, due, List.map_filterMap]
  refine List.filterMap_congr fun x _ => ?_
  rw [Option.map_map]
  rfl

theorem mem_due {p : (Device × Nat) × Bool} (hp : p ∈ st.due net) :
    net.devices[p.1.2]? = some p.1.1 ∧ p.1.1.component = .dtype := by
  obtain ⟨⟨⟨dev, i⟩, m⟩, hmem, hq⟩ := List.mem_filterMap.mp hp
  obtain ⟨q, hcommit, rfl⟩ := Option.map_eq_some_iff.mp hq
  refine ⟨List.mk_mem_zipIdx_iff_getElem?.mp (List.of_mem_zip hmem).1, ?_⟩
  cases hflip : dev.component.isFlipFlop with
  | true => exact Component.isFlipFlop_iff.mp hflip
  | false =>
    have hidle := (Device.commit_of_not_isFlipFlop hflip st.signals m).1
    exact absurd (hcommit.symm.trans hidle) (by simp)

end CircuitState

namespace Network.WellFormed

variable {net : Network} {st : CircuitState}

theorem foldlM_look_tables (h : net.WellFormed) (hst : st.Fits net) :
    net.tables.flipFlops.foldlM (net.tables.look st.signals) ([], st.memory) =
      .ok ((st.due net).map (fun (p, q) => (p.2, q)), (st.sampleClks net.devices).memory) := by
  have hloop : net.tables.flipFlops.foldlM (net.tables.look st.signals) ([], st.memory) =
      .ok (net.devices.zipIdx.foldl (visit st.signals.addDue (Device.sampleClk st.signals))
        ([], st.memory)) := by
    refine foldlM_indicesOf (P := fun a => a.2.length = net.size) ?_ ?_ hst.memory
    · intro (pending, memory) hmemory i dev hdev hflip
      obtain ⟨m, hm, -⟩ := exists_memory hmemory hdev
      refine ⟨h.look_tables hdev hflip hst.signals hmemory pending, ?_⟩
      rw [visit_of_getElem? hm, List.length_set]
      exact hmemory
    · intro (pending, memory) _ i dev _ hflip
      have hidle := Device.commit_of_not_isFlipFlop hflip st.signals
      refine visit_of_idle (fun m => ?_) fun m => (hidle m).2
      rw [Signals.addDue, (hidle m).1]
      exact List.append_nil pending
  rw [hloop, foldl_visit net.devices [] hst.memory, st.foldl_due]
  rfl

theorem foldlM_store_tables (h : net.WellFormed) (hst : st.Fits net) :
    ((st.due net).map fun (p, q) => (p.2, q)).foldlM net.tables.store (st.signals, false) =
      .ok ((st.commits net.devices).foldl FlipFlop.commit (st.signals, false)) := by
  rw [st.commits_eq_map_due, List.foldlM_map, List.foldl_map]
  refine foldlM_eq_ok (P := fun a : Signals × Bool => net.outputCount ≤ a.1.size) ?_ hst.signals
  intro (s, changed) hs ((dev, i), q) hp
  obtain ⟨hdev, hcomp⟩ := st.mem_due hp
  refine ⟨h.store_tables hdev hcomp hs changed q, ?_⟩
  simpa [FlipFlop.commit] using hs

/-- **Flip-flops** find their drivers, and the outputs they store to. -/
theorem clockFlipFlops_tables (h : net.WellFormed) (hst : st.Fits net) :
    net.tables.clockFlipFlops st = .ok (st.clockFlipFlops net.devices) := by
  rw [Tables.clockFlipFlops, h.foldlM_look_tables hst, ok_bind]
  dsimp only
  rw [h.foldlM_store_tables hst]
  rfl

theorem sampleClk_tables (h : net.WellFormed) {i : Nat} {dev : Device} {s : Signals}
    {memory : List Memory} (hdev : net.devices[i]? = some dev)
    (hflip : dev.component.isFlipFlop = true) (hs : net.outputCount ≤ s.size)
    (hmemory : memory.length = net.size) :
    net.tables.sampleClk (s, memory) i =
      .ok (visit (fun s _ _ => s) (Device.sampleClk s) (s, memory) (dev, i)) := by
  obtain ⟨m, hm, hlt⟩ := exists_memory hmemory hdev
  have hcomp := Component.isFlipFlop_iff.mp hflip
  rw [visit_of_getElem? hm, Tables.sampleClk, h.input_tables hdev hcomp hs, ok_bind,
    TableName.write_of_lt _ hlt, Device.sampleClk, hcomp]
  rfl

theorem sampleClks_tables (h : net.WellFormed) (hst : st.Fits net) :
    net.tables.sampleClks st = .ok (st.sampleClks net.devices) := by
  have hloop : net.tables.flipFlops.foldlM net.tables.sampleClk (st.signals, st.memory) =
      .ok (net.devices.zipIdx.foldl (visit (fun s _ _ => s) (Device.sampleClk st.signals))
        (st.signals, st.memory)) := by
    refine foldlM_indicesOf (P := fun a => a.1 = st.signals ∧ a.2.length = net.size) ?_ ?_
      ⟨rfl, hst.memory⟩
    · intro (s, memory) ⟨hs, hmemory⟩ i dev hdev hflip
      obtain rfl : s = st.signals := hs
      obtain ⟨m, hm, -⟩ := exists_memory hmemory hdev
      refine ⟨h.sampleClk_tables hdev hflip hst.signals hmemory, ?_⟩
      rw [visit_of_getElem? hm, List.length_set]
      exact ⟨rfl, hmemory⟩
    · intro (s, memory) _ i dev _ hflip
      have hidle := Device.commit_of_not_isFlipFlop hflip st.signals
      exact visit_of_idle (fun _ => rfl) fun m => (hidle m).2
  have hsignals : (net.devices.zipIdx.zip st.memory).foldl (fun s _ => s) st.signals =
      st.signals := List.foldl_fixed _
  rw [Tables.sampleClks, hloop, foldl_visit net.devices st.signals hst.memory]
  refine congrArg Except.ok ?_
  rw [CircuitState.sampleClks]
  exact congrArg (CircuitState.mk · _) hsignals

/-! ## Whole cycles -/

theorem settleState_tables (h : net.WellFormed) (hst : st.Fits net) (budget : Nat)
    (probes : Array Probe) :
    net.tables.settleState budget st probes = .ok (st.settle net.devices budget probes) := by
  rw [Tables.settleState, h.settle_tables budget 1 (p := ⟨st.signals, probes⟩) hst.signals,
    ok_bind, CircuitState.settle]
  rcases Propagation.settle net.devices budget 1 ⟨st.signals, probes⟩ with ⟨passes, p⟩
  rfl

theorem attempt_tables (h : net.WellFormed) (hst : st.Fits net) (budget : Nat) :
    net.tables.attempt budget st = .ok (st.attempt net.devices budget) := by
  rw [Tables.attempt, h.tickClocks_tables hst, ok_bind,
    h.settleState_tables hst.tickClocks, ok_bind, CircuitState.attempt]
  rcases hfirst : (st.tickClocks net.devices).settle net.devices budget #[]
    with ⟨_ | ⟨first, st'⟩, probes⟩
  · rfl
  dsimp only
  have hst' := hst.tickClocks.of_settle hfirst
  rw [h.clockFlipFlops_tables hst', ok_bind]
  have hst'' := hst'.clockFlipFlops
  rcases hclock : st'.clockFlipFlops net.devices with ⟨st'', _ | _⟩
  · rfl
  dsimp only
  rw [hclock] at hst''
  rw [h.settleState_tables hst'', ok_bind]
  rcases st''.settle net.devices budget probes with ⟨_ | ⟨second, st⟩, probes⟩ <;> rfl

/-! ## The cold start -/

theorem chill_tables (h : net.WellFormed) {i : Nat} {dev : Device}
    (hdev : net.devices[i]? = some dev) (hst : st.Fits net) :
    Tables.chill st (dev.node, i) = .ok (st.chill (dev, i)) := by
  have hlt : ∀ k < dev.component.outputCount, dev.firstOutput + k < st.signals.size := fun k hk =>
    Nat.lt_of_lt_of_le (h.output_lt hdev hk) hst.signals
  have hi : i < st.memory.length := hst.memory ▸ (List.getElem?_eq_some_iff.mp hdev).1
  rw [Tables.chill, CircuitState.chill, Device.coldSignals]
  dsimp only [Device.node]
  rw [TableName.write_of_lt _ hi]
  cases hcomp : dev.component with
  | gate g | clock halfPeriod => rfl
  | switch initial =>
    have hout : dev.firstOutput < st.signals.size := hlt 0 dev.component.outputCount_pos
    dsimp only
    rw [Signals.writeBit_of_lt hout]
    rfl
  | dtype =>
    have hout := hlt FlipFlop.Output.qbar.index (by rw [hcomp]; decide)
    dsimp only
    rw [Signals.writeBit_of_lt hout]
    rfl

theorem chillAll_tables (h : net.WellFormed) (hmemory : st.memory.length = net.size) :
    net.tables.chillAll st = .ok net.coldState := by
  have hnodes : net.tables.nodes.zipIdx = net.devices.zipIdx.map (Prod.map Device.node id) :=
    List.zipIdx_map
  have hloop : net.devices.zipIdx.foldlM (fun st p => Tables.chill st (Prod.map Device.node id p))
      { st with signals := .ofSize net.outputCount } = .ok (st.chillAll net) := by
    refine foldlM_eq_ok (P := fun st : CircuitState => st.Fits net) ?_ ?_
    · intro st hst (dev, i) hp
      refine ⟨h.chill_tables (List.mk_mem_zipIdx_iff_getElem?.mp hp) hst, ?_, ?_⟩
      · rw [CircuitState.chill, localStep_coldSignals.size]
        exact hst.signals
      · rw [CircuitState.chill, List.length_set]
        exact hst.memory
    · refine ⟨?_, hmemory⟩
      rw [Signals.size_ofSize]
      omega
  have houtputs : net.tables.outputs.length = net.outputCount := rfl
  rw [Tables.chillAll, hnodes, List.foldlM_map, houtputs, hloop,
    CircuitState.chillAll_eq_coldState hmemory]

end Network.WellFormed

end SyncCircuit
