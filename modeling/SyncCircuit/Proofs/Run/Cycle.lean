import SyncCircuit.Proofs.Network.Layout
import SyncCircuit.Run.Cycle

/-!
# What the steps of a cycle write

Besides settling, the signals change in three loops: the cold start, the ticks of the clocks and the
commits of the flip-flops. In each of them a device writes its own outputs only, so what an output
holds in the end is what its own device has made of it.
-/
namespace SyncCircuit

/-- The number is that of an output of the device. -/
def Device.Owns (d : Device) (o : Nat) : Prop :=
  ∃ k < d.component.outputCount, o = d.firstOutput + k

theorem Network.WellFormed.owner_unique {net : Network} (h : net.WellFormed) {i j o : Nat}
    {dev dev' : Device} (hi : net.devices[i]? = some dev) (hj : net.devices[j]? = some dev')
    (ho : dev.Owns o) (ho' : dev'.Owns o) : i = j := by
  obtain ⟨k, hk, rfl⟩ := ho
  obtain ⟨l, hl, heq⟩ := ho'
  exact (h.output_inj hi hj hk hl heq).1

/-! ## Loops over the devices -/

section Loop

variable {α : Type} {step : Signals → α → Signals} {xs : List α} {o : Nat}

theorem size_foldl (h : ∀ s x, (step s x).size = s.size) (s : Signals) :
    (xs.foldl step s).size = s.size := by
  induction xs generalizing s with
  | nil => rfl
  | cons x xs ih => rw [List.foldl_cons, ih, h]

theorem get_foldl_of_frame (h : ∀ x ∈ xs, ∀ s, (step s x).get o = s.get o) (s : Signals) :
    (xs.foldl step s).get o = s.get o := by
  induction xs generalizing s with
  | nil => rfl
  | cons x xs ih =>
    rw [List.foldl_cons, ih fun y hy => h y (List.mem_cons_of_mem x hy), h x List.mem_cons_self]

/-- A bit that one element of a list may change and all others leave alone. -/
theorem get_foldl_of_local {i : Nat} {x : α} {f : Bool → Bool} (hx : xs[i]? = some x)
    (hsize : ∀ s x, (step s x).size = s.size)
    (hself : ∀ s : Signals, o < s.size → (step s x).get o = f (s.get o))
    (hother : ∀ j y, xs[j]? = some y → j ≠ i → ∀ s, (step s y).get o = s.get o) {s : Signals}
    (hs : o < s.size) : (xs.foldl step s).get o = f (s.get o) := by
  induction xs generalizing i s with
  | nil => cases hx
  | cons y ys ih =>
    rw [List.foldl_cons]
    cases i with
    | zero =>
      obtain rfl : y = x := Option.some.inj hx
      rw [get_foldl_of_frame, hself s hs]
      intro z hz
      obtain ⟨j, hj⟩ := List.mem_iff_getElem?.mp hz
      exact hother (j + 1) z hj (Nat.succ_ne_zero j)
    | succ i =>
      have hhead : (step s y).get o = s.get o := hother 0 y rfl (Nat.succ_ne_zero i).symm s
      rw [ih hx (fun j z hz hne => hother (j + 1) z hz (by omega)) (by rwa [hsize]), hhead]

/-- A step of a loop in which a device writes its own outputs only. -/
structure LocalStep (owner : α → Device) (step : Signals → α → Signals) : Prop where
  size : ∀ s x, (step s x).size = s.size
  frame : ∀ s x o, ¬ (owner x).Owns o → (step s x).get o = s.get o

/-- **After a loop**, an output is what its own device has made of it. -/
theorem LocalStep.get_foldl {owner : α → Device} (hstep : LocalStep owner step) {net : Network}
    (h : net.WellFormed)
    (hxs : ∀ (j : Nat) (y : α), xs[j]? = some y → net.devices[j]? = some (owner y)) {i : Nat}
    {x : α} (hx : xs[i]? = some x) (ho : (owner x).Owns o) {f : Bool → Bool}
    (hself : ∀ s : Signals, o < s.size → (step s x).get o = f (s.get o)) {s : Signals}
    (hs : o < s.size) : (xs.foldl step s).get o = f (s.get o) := by
  refine get_foldl_of_local hx hstep.size hself (fun j y hy hne s => ?_) hs
  refine hstep.frame s y o fun ho' => hne ?_
  exact h.owner_unique (hxs j y hy) (hxs i x hx) ho' ho

end Loop

/-! ## The cold state -/

/-- The value of an output of a flip-flop that stores `q`. Positions other than that of QBAR show
the stored value, so the single output of any other device can be read in the same way. -/
def FlipFlop.outputAt (q : Bool) (position : Nat) : Bool :=
  if position = Output.qbar.index then !q else q

/-- What a device stores before the first cycle: the declared state of a switch, otherwise low. -/
def Component.coldLevel : Component → Bool
  | .switch initial => initial
  | .gate _ | .clock _ | .dtype => false

theorem localStep_coldSignals : LocalStep id Device.coldSignals := by
  constructor
  · intro s d
    cases hcomp : d.component <;> simp [Device.coldSignals, hcomp]
  · intro s d o ho
    have hne : ∀ k < d.component.outputCount, d.firstOutput + k ≠ o :=
      fun k hk heq => ho ⟨k, hk, heq.symm⟩
    cases hcomp : d.component with
    | gate g | clock halfPeriod => simp [Device.coldSignals, hcomp]
    | switch initial =>
      have := hne 0 d.component.outputCount_pos
      rw [Device.coldSignals, hcomp]
      dsimp only
      rw [Signals.get_set, if_neg fun hand => this hand.1]
    | dtype =>
      have := hne FlipFlop.Output.qbar.index (by rw [hcomp]; decide)
      rw [Device.coldSignals, hcomp]
      dsimp only
      rw [Signals.get_set, if_neg fun hand => this hand.1]

namespace Network

variable {net : Network}

theorem size_coldState (net : Network) : net.outputCount ≤ net.coldState.signals.size := by
  rw [coldState]
  dsimp only
  rw [size_foldl localStep_coldSignals.size, Signals.size_ofSize]
  omega

/-- **In the cold state** every source shows what its device stores, and every gate is low. -/
theorem WellFormed.get_coldState (h : net.WellFormed) {i k : Nat} {dev : Device}
    (hdev : net.devices[i]? = some dev) (hk : k < dev.component.outputCount) :
    net.coldState.signals.get (dev.firstOutput + k) =
      FlipFlop.outputAt dev.component.coldLevel k := by
  have hlt : dev.firstOutput + k < (Signals.ofSize net.outputCount).size := by
    have := h.output_lt hdev hk
    rw [Signals.size_ofSize]
    omega
  have hfold : ∀ f : Bool → Bool, (∀ s : Signals, dev.firstOutput + k < s.size →
      (dev.coldSignals s).get (dev.firstOutput + k) = f (s.get (dev.firstOutput + k))) →
      net.coldState.signals.get (dev.firstOutput + k) = f false := by
    intro f hself
    rw [← Signals.get_ofSize net.outputCount (dev.firstOutput + k)]
    exact localStep_coldSignals.get_foldl h (fun _ _ hj => hj) hdev ⟨k, hk, rfl⟩ hself hlt
  cases hcomp : dev.component with
  | gate g | clock halfPeriod =>
    rw [hcomp] at hk
    obtain rfl : k = 0 := Nat.lt_one_iff.mp hk
    exact hfold id fun s _ => by simp [Device.coldSignals, hcomp]
  | switch initial =>
    rw [hcomp] at hk
    obtain rfl : k = 0 := Nat.lt_one_iff.mp hk
    refine hfold (fun _ => initial) fun s hs => ?_
    rw [Device.coldSignals, hcomp]
    dsimp only
    rw [Nat.add_zero] at hs ⊢
    rw [Signals.get_set, if_pos ⟨rfl, hs⟩]
  | dtype =>
    by_cases hqbar : k = FlipFlop.Output.qbar.index
    · rw [FlipFlop.outputAt, if_pos hqbar]
      refine hfold (fun _ => true) fun s hs => ?_
      rw [Device.coldSignals, hcomp]
      dsimp only
      rw [← hqbar, Signals.get_set, if_pos ⟨rfl, hs⟩]
    · rw [FlipFlop.outputAt, if_neg hqbar]
      refine hfold id fun s hs => ?_
      rw [Device.coldSignals, hcomp]
      dsimp only
      rw [Signals.get_set, if_neg fun hand => hqbar (by omega)]
      rfl

theorem getElem?_memory_coldState {i : Nat} {dev : Device} (hdev : net.devices[i]? = some dev) :
    net.coldState.memory[i]? = some (.cold dev.component) := by
  rw [coldState, List.getElem?_map, hdev]
  rfl

end Network

/-! ## Clocks -/

theorem Device.clockTick?_eq_some_iff {d : Device} {m : Memory} {tick : UInt32 × Bool} :
    d.clockTick? m = some tick ↔ ∃ halfPeriod ticks, d.component = .clock halfPeriod ∧
      m = .clock ticks ∧ Clock.tick ticks halfPeriod = tick := by
  simp only [clockTick?]
  split
  · rename_i hcomp
    simp [hcomp]
  · rename_i hne
    refine iff_of_false (by simp) ?_
    intro ⟨halfPeriod, ticks, hcomp, hm, _⟩
    exact hne halfPeriod ticks hcomp hm

theorem localStep_tickSignals : LocalStep Prod.fst Device.tickSignals := by
  constructor
  · intro s ⟨d, m⟩
    rw [Device.tickSignals]
    split <;> simp
  · intro s ⟨d, m⟩ o ho
    rw [Device.tickSignals]
    split
    · rw [Signals.get_set, if_neg fun hand => ho ⟨0, d.component.outputCount_pos, hand.1.symm⟩]
    · rfl

namespace CircuitState

variable {net : Network} {st : CircuitState}

theorem size_tickClocks (devices : List Device) (st : CircuitState) :
    (st.tickClocks devices).signals.size = st.signals.size :=
  size_foldl localStep_tickSignals.size _

theorem getElem?_memory_tickClocks {devices : List Device} {i : Nat} {dev : Device} {m : Memory}
    (hdev : devices[i]? = some dev) (hm : st.memory[i]? = some m) :
    (st.tickClocks devices).memory[i]? = some (dev.tickMemory m) := by
  rw [tickClocks, List.getElem?_zipWith, hdev, hm]

/-- **After the ticks** an output has turned over if its device says so. -/
theorem get_tickClocks (h : net.WellFormed) {i k : Nat} {dev : Device} {m : Memory}
    (hdev : net.devices[i]? = some dev) (hm : st.memory[i]? = some m)
    (hk : k < dev.component.outputCount) (hsize : net.outputCount ≤ st.signals.size) :
    (st.tickClocks net.devices).signals.get (dev.firstOutput + k) =
      ((dev.clockTick? m).any (·.2) ^^ st.signals.get (dev.firstOutput + k)) := by
  have hlt : dev.firstOutput + k < st.signals.size :=
    Nat.lt_of_lt_of_le (h.output_lt hdev hk) hsize
  have hpair : (net.devices.zip st.memory)[i]? = some (dev, m) :=
    List.getElem?_zip_eq_some.mpr ⟨hdev, hm⟩
  refine localStep_tickSignals.get_foldl h (fun j y hj => (List.getElem?_zip_eq_some.mp hj).1)
    hpair ⟨k, hk, rfl⟩ (f := fun b => (dev.clockTick? m).any (·.2) ^^ b) (fun s hs => ?_) hlt
  rw [Device.tickSignals]
  cases htick : dev.clockTick? m with
  | none => simp
  | some tick =>
    obtain ⟨next, turns⟩ := tick
    cases turns with
    | false => simp
    | true =>
      obtain ⟨halfPeriod, ticks, hcomp, -, -⟩ := Device.clockTick?_eq_some_iff.mp htick
      rw [hcomp] at hk
      obtain rfl : k = 0 := Nat.lt_one_iff.mp hk
      rw [Nat.add_zero] at hs ⊢
      dsimp only
      rw [Signals.get_set, if_pos ⟨rfl, hs⟩]
      simp

end CircuitState

/-! ## Flip-flops -/

/-- Writes both outputs of a flip-flop. -/
def FlipFlop.write (s : Signals) (c : Nat × Bool) : Signals :=
  (s.set (c.1 + Output.q.index) c.2).set (c.1 + Output.qbar.index) !c.2

theorem FlipFlop.get_write {s : Signals} {c : Nat × Bool} {k : Nat} (hk : k < 2)
    (hs : c.1 + k < s.size) : (write s c).get (c.1 + k) = outputAt c.2 k := by
  rw [write, outputAt, Signals.get_set, Signals.get_set, Signals.size_set]
  have hq : Output.q.index = 0 := rfl
  have hqbar : Output.qbar.index = 1 := rfl
  by_cases h : k = Output.qbar.index
  · rw [if_pos h, ← h, if_pos ⟨rfl, hs⟩]
  · rw [if_neg h, if_neg (by omega), if_pos (by omega)]

theorem FlipFlop.get_write_of_ne {s : Signals} {c : Nat × Bool} {o : Nat} (hq : o ≠ c.1)
    (hqbar : o ≠ c.1 + 1) : (write s c).get o = s.get o := by
  have hq' : Output.q.index = 0 := rfl
  have hqbar' : Output.qbar.index = 1 := rfl
  rw [write, Signals.get_set, if_neg (by omega), Signals.get_set, if_neg (by omega)]

theorem FlipFlop.fst_foldl_commit (cs : List (Nat × Bool)) (s : Signals) (changed : Bool) :
    (cs.foldl commit (s, changed)).1 = cs.foldl write s := by
  induction cs generalizing s changed with
  | nil => rfl
  | cons c cs ih => exact ih _ _

/-- If no Q is reported changed, every flip-flop has stored the value it had, provided that no
commit writes the Q of a later one. -/
theorem FlipFlop.snd_foldl_commit_eq_false {cs : List (Nat × Bool)} {s : Signals} {changed : Bool}
    (hpair : cs.Pairwise fun c c' => c'.1 ≠ c.1 ∧ c'.1 ≠ c.1 + 1)
    (h : (cs.foldl commit (s, changed)).2 = false) :
    changed = false ∧ ∀ c ∈ cs, s.get c.1 = c.2 := by
  induction cs generalizing s changed with
  | nil => exact ⟨h, by simp⟩
  | cons c cs ih =>
    rw [List.pairwise_cons] at hpair
    obtain ⟨hsofar, hrest⟩ := ih hpair.2 h
    obtain ⟨hchanged, hdiffers⟩ := Bool.or_eq_false_iff.mp hsofar
    refine ⟨hchanged, List.forall_mem_cons.mpr ⟨?_, fun c' hc' => ?_⟩⟩
    · simpa [Signals.differs, Output.index] using hdiffers
    · obtain ⟨hq, hqbar⟩ := hpair.1 c' hc'
      rw [← hrest c' hc']
      exact (get_write_of_ne hq hqbar).symm

theorem Device.component_of_commit? {d : Device} {m : Memory} {s : Signals} {q : Bool}
    (h : d.commit? m s = some q) : d.component = .dtype := by
  simp only [commit?] at h
  split at h
  · assumption
  · cases h

theorem Device.isGate_of_commit? {d : Device} {m : Memory} {s : Signals} {q : Bool}
    (h : d.commit? m s = some q) : d.component.isGate = false := by
  rw [component_of_commit? h]
  rfl

/-- What committing does for one device, given the signals all inputs are read from. -/
def Device.commitSignals (seen : Signals) (s : Signals) : Device × Memory → Signals
  | (d, m) =>
    match d.commit? m seen with
    | some q => FlipFlop.write s (d.firstOutput, q)
    | none => s

theorem localStep_commitSignals (seen : Signals) :
    LocalStep Prod.fst (Device.commitSignals seen) := by
  constructor
  · intro s ⟨d, m⟩
    rw [Device.commitSignals]
    split <;> simp [FlipFlop.write]
  · intro s ⟨d, m⟩ o ho
    rw [Device.commitSignals]
    split
    · rename_i q hq
      have hcomp := Device.component_of_commit? hq
      have hcount : 1 < d.component.outputCount := by rw [hcomp]; decide
      exact FlipFlop.get_write_of_ne (fun heq => ho ⟨0, d.component.outputCount_pos, heq⟩)
        (fun heq => ho ⟨1, hcount, heq⟩)
    · rfl

namespace CircuitState

variable {net : Network} {st : CircuitState}

theorem signals_clockFlipFlops (devices : List Device) (st : CircuitState) :
    (st.clockFlipFlops devices).1.signals =
      (devices.zip st.memory).foldl (Device.commitSignals st.signals) st.signals := by
  rw [clockFlipFlops]
  dsimp only
  rw [FlipFlop.fst_foldl_commit, commits, List.foldl_filterMap]
  congr 1
  funext s ⟨d, m⟩
  rw [Device.commitSignals]
  cases hq : d.commit? m st.signals <;> simp [hq]

theorem size_clockFlipFlops (devices : List Device) (st : CircuitState) :
    (st.clockFlipFlops devices).1.signals.size = st.signals.size := by
  rw [signals_clockFlipFlops]
  exact size_foldl (localStep_commitSignals st.signals).size _

theorem getElem?_memory_sampleClks {devices : List Device} {i : Nat} {dev : Device} {m : Memory}
    (hdev : devices[i]? = some dev) (hm : st.memory[i]? = some m) :
    (st.sampleClks devices).memory[i]? = some (dev.sampleClk st.signals m) := by
  rw [sampleClks, List.getElem?_zipWith, hdev, hm]

/-- **After the commits** both outputs of a flip-flop show the value it stored, if it did. -/
theorem get_clockFlipFlops (h : net.WellFormed) {i k : Nat} {dev : Device} {m : Memory}
    (hdev : net.devices[i]? = some dev) (hm : st.memory[i]? = some m)
    (hk : k < dev.component.outputCount) (hsize : net.outputCount ≤ st.signals.size) :
    (st.clockFlipFlops net.devices).1.signals.get (dev.firstOutput + k) =
      (dev.commit? m st.signals).elim (st.signals.get (dev.firstOutput + k))
        (FlipFlop.outputAt · k) := by
  have hlt : dev.firstOutput + k < st.signals.size :=
    Nat.lt_of_lt_of_le (h.output_lt hdev hk) hsize
  have hpair : (net.devices.zip st.memory)[i]? = some (dev, m) :=
    List.getElem?_zip_eq_some.mpr ⟨hdev, hm⟩
  rw [signals_clockFlipFlops]
  refine (localStep_commitSignals st.signals).get_foldl h
    (fun j y hj => (List.getElem?_zip_eq_some.mp hj).1) hpair ⟨k, hk, rfl⟩
    (f := fun b => (dev.commit? m st.signals).elim b (FlipFlop.outputAt · k)) (fun s hs => ?_) hlt
  rw [Device.commitSignals]
  cases hq : dev.commit? m st.signals with
  | none => rfl
  | some q =>
    have hcomp := Device.component_of_commit? hq
    rw [hcomp] at hk
    exact FlipFlop.get_write (c := (dev.firstOutput, q)) hk hs

/-- Without a change of some Q, a flip-flop can only have stored the value it had. -/
theorem get_of_unchanged (h : net.WellFormed) (hflag : (st.clockFlipFlops net.devices).2 = false)
    {i : Nat} {dev : Device} {m : Memory} (hdev : net.devices[i]? = some dev)
    (hm : st.memory[i]? = some m) {q : Bool} (hq : dev.commit? m st.signals = some q) :
    st.signals.get dev.firstOutput = q := by
  have hpair : (st.commits net.devices).Pairwise fun c c' => c'.1 ≠ c.1 ∧ c'.1 ≠ c.1 + 1 := by
    rw [commits, List.pairwise_filterMap, List.pairwise_iff_getElem]
    intro a b ha hb hab
    obtain ⟨hda, -⟩ := List.getElem?_zip_eq_some.mp (List.getElem?_eq_getElem ha)
    obtain ⟨hdb, -⟩ := List.getElem?_zip_eq_some.mp (List.getElem?_eq_getElem hb)
    generalize (net.devices.zip st.memory)[a] = x at hda ⊢
    generalize (net.devices.zip st.memory)[b] = y at hdb ⊢
    intro c hc c' hc'
    obtain ⟨q, hq, rfl⟩ := Option.map_eq_some_iff.mp hc
    obtain ⟨q', hq', rfl⟩ := Option.map_eq_some_iff.mp hc'
    have hcount : x.1.component.outputCount = 2 := by rw [Device.component_of_commit? hq]; rfl
    have hne : ∀ l < 2, y.1.firstOutput ≠ x.1.firstOutput + l := by
      intro l hl heq
      have := h.output_inj hdb hda y.1.component.outputCount_pos (by omega) heq
      omega
    exact ⟨hne 0 (by decide), hne 1 (by decide)⟩
  have hmem : (dev.firstOutput, q) ∈ st.commits net.devices := by
    rw [commits, List.mem_filterMap]
    refine ⟨(dev, m), List.mem_of_getElem? (List.getElem?_zip_eq_some.mpr ⟨hdev, hm⟩), ?_⟩
    simp [hq]
  have hstored := (FlipFlop.snd_foldl_commit_eq_false hpair hflag).2 _ hmem
  exact hstored

end CircuitState

end SyncCircuit
