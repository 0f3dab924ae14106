import SyncCircuit.Proofs.Run.Settle

/-!
# The probes of a settling

A settling writes down every change of a gate output when it happens. Each probe turns over the
value it finds, so the probes lead from the values at the start to the values at the end
(`Turns`). A pass writes down at most one change of each gate, in declaration order, and some change
unless it is the last one; so the passes that occur tell how long the settling took
(`Propagation.exists_told`).

## Main definitions

* `replay` — the values of outputs after some changes.
* `Turns` — changes that lead from one valuation to another.
* `Propagation.Told` — what the probes of some passes say.
-/
namespace SyncCircuit

/-! ## Changes one after the other -/

/-- The values of outputs after some changes. -/
def replay (v : Nat → Bool) (probes : List Probe) : Nat → Bool :=
  probes.foldl (fun v p => Function.update v p.output p.value) v

@[simp] theorem replay_nil (v : Nat → Bool) : replay v [] = v := rfl

@[simp] theorem replay_cons (v : Nat → Bool) (p : Probe) (probes : List Probe) :
    replay v (p :: probes) = replay (Function.update v p.output p.value) probes := rfl

theorem replay_append (v : Nat → Bool) (probes later : List Probe) :
    replay v (probes ++ later) = replay (replay v probes) later := List.foldl_append

/-- Only the values at an output and the changes to it decide what it shows after the changes. -/
theorem replay_congr {v w : Nat → Bool} {o : Nat} (h : v o = w o) (probes : List Probe) :
    replay v probes o = replay w probes o := by
  induction probes generalizing v w with
  | nil => exact h
  | cons p probes ih =>
    rw [replay_cons, replay_cons]
    refine ih ?_
    by_cases ho : o = p.output
    · rw [ho, Function.update_self, Function.update_self]
    · rw [Function.update_of_ne ho, Function.update_of_ne ho, h]

/-- The changes lead from one valuation to the other, and each turns over the value it finds. -/
inductive Turns : (Nat → Bool) → List Probe → (Nat → Bool) → Prop
  | nil (v : Nat → Bool) : Turns v [] v
  | cons {v w : Nat → Bool} {p : Probe} {probes : List Probe} (hvalue : p.value = !v p.output)
      (hrest : Turns (Function.update v p.output p.value) probes w) : Turns v (p :: probes) w

namespace Turns

variable {v w : Nat → Bool} {probes : List Probe}

theorem append {u : Nat → Bool} {later : List Probe} (h : Turns u probes v)
    (hlater : Turns v later w) : Turns u (probes ++ later) w := by
  induction h with
  | nil v => exact hlater
  | cons hvalue hrest ih => exact .cons hvalue (ih hlater)

theorem replay_eq (h : Turns v probes w) : replay v probes = w := by
  induction h with
  | nil v => rfl
  | cons hvalue hrest ih => exact ih

/-- A change is the opposite of what the changes before it have left. -/
theorem value_eq {earlier later : List Probe} {p : Probe} (h : Turns v (earlier ++ p :: later) w) :
    p.value = !replay v earlier p.output := by
  induction earlier generalizing v with
  | nil =>
    cases h with
    | cons hvalue hrest => exact hvalue
  | cons q earlier ih =>
    cases h with
    | cons hvalue hrest => exact ih hrest

end Turns

/-! ## One gate -/

namespace Device

variable {d : Device} {s : Signals}

/-- The outputs of the gates among some devices, in order. -/
def gateOutputs (devices : List Device) : List Nat :=
  (devices.filter (·.component.isGate)).map (·.firstOutput)

theorem isGateOutput_of_mem_gateOutputs {devices : List Device} {o : Nat}
    (h : o ∈ gateOutputs devices) : Network.IsGateOutput devices o := by
  obtain ⟨d, hd, ho⟩ := List.mem_map.mp h
  obtain ⟨hmem, hgate⟩ := List.mem_filter.mp hd
  exact ⟨d, hmem, hgate, ho⟩

theorem probe?_of_none (h : d.output? s.get = none) (pass : Nat) : d.probe? pass s = none := by
  rw [probe?, next?_eq_output?, h]

theorem probe?_of_some {b : Bool} (h : d.output? s.get = some b) (pass : Nat) :
    d.probe? pass s =
      if s.differs d.firstOutput b then some ⟨pass, d.firstOutput, b⟩ else none := by
  rw [probe?, next?_eq_output?, h]

/-- What is written down about a device is its output, and it is a gate. -/
theorem of_probe? {pass : Nat} {p : Probe} (h : d.probe? pass s = some p) :
    p.pass = pass ∧ p.output = d.firstOutput ∧ d.component.isGate := by
  cases hb : d.output? s.get with
  | none =>
    rw [probe?_of_none hb] at h
    cases h
  | some b =>
    have hgate : d.component.isGate := isSome_output?_iff.mp (by rw [hb]; rfl)
    rw [probe?_of_some hb] at h
    split at h
    · obtain rfl := Option.some.inj h
      exact ⟨rfl, rfl, hgate⟩
    · cases h

/-- **The probe of a gate** turns its output over, if recomputing it does. -/
theorem turns_probe? (hlt : d.firstOutput < s.size) (pass : Nat) :
    Turns s.get (d.probe? pass s).toList (d.update s).get := by
  cases hb : d.output? s.get with
  | none =>
    rw [probe?_of_none hb, update_of_none hb]
    exact .nil _
  | some b =>
    rw [probe?_of_some hb, update_of_some hb]
    by_cases hdiffers : s.differs d.firstOutput b
    · rw [if_pos hdiffers]
      have hget : Function.update s.get d.firstOutput b = (s.set d.firstOutput b).get := by
        funext o
        rw [Signals.get_set, Function.update_apply]
        by_cases ho : o = d.firstOutput
        · rw [if_pos ho, if_pos ⟨ho.symm, hlt⟩]
        · rw [if_neg ho, if_neg fun hand => ho hand.1.symm]
      refine .cons ?_ (hget ▸ .nil _)
      rw [Signals.differs] at hdiffers
      cases b <;> simpa using hdiffers
    · rw [if_neg hdiffers, Signals.set, if_neg hdiffers]
      exact .nil _

/-- Recomputing a gate leaves a mark exactly if there is something to write down. -/
theorem anyChanged_update (hlt : d.firstOutput < s.size) (pass : Nat) :
    (d.update s).anyChanged = (s.anyChanged || (d.probe? pass s).isSome) := by
  cases hb : d.output? s.get with
  | none => rw [probe?_of_none hb, update_of_none hb, Option.isSome_none, Bool.or_false]
  | some b =>
    rw [probe?_of_some hb, update_of_some hb]
    by_cases hdiffers : s.differs d.firstOutput b
    · rw [if_pos hdiffers, Option.isSome_some, Bool.or_true, Signals.anyChanged_eq_true_iff]
      refine ⟨d.firstOutput, ?_⟩
      simp [Signals.isChanged_set, hlt, hdiffers]
    · rw [if_neg hdiffers, Signals.set, if_neg hdiffers, Option.isSome_none, Bool.or_false]

end Device

namespace Propagation

variable {devices : List Device} {pass : Nat} {p : Propagation}

/-! ## One pass -/

/-- What the probes of a pass say, given the signals around it. -/
structure SweepTold (devices : List Device) (pass : Nat) (s s' : Signals) (probes : List Probe) :
    Prop where
  turns : Turns s.get probes s'.get
  pass_eq : ∀ p ∈ probes, p.pass = pass
  outputs : (probes.map (·.output)).Sublist (Device.gateOutputs devices)
  marked : s'.anyChanged = (s.anyChanged || !probes.isEmpty)

theorem sweepTold_cons {d : Device} {ds : List Device} {s s' : Signals} {probes : List Probe}
    (hlt : d.firstOutput < s.size) (h : SweepTold ds pass (d.update s) s' probes) :
    SweepTold (d :: ds) pass s s' ((d.probe? pass s).toList ++ probes) where
  turns := (Device.turns_probe? hlt pass).append h.turns
  pass_eq q hq := by
    rcases List.mem_append.mp hq with hq | hq
    · exact (Device.of_probe? (Option.mem_toList.mp hq)).1
    · exact h.pass_eq q hq
  outputs := by
    have hcons : (Device.gateOutputs ds).Sublist (Device.gateOutputs (d :: ds)) :=
      ((List.sublist_cons_self d ds).filter _).map _
    cases hprobe : d.probe? pass s with
    | none => exact h.outputs.trans hcons
    | some q =>
      obtain ⟨-, houtput, hgate⟩ := Device.of_probe? hprobe
      have hfilter : (d :: ds).filter (·.component.isGate) = d :: ds.filter (·.component.isGate) :=
        List.filter_cons_of_pos hgate
      rw [Device.gateOutputs, hfilter, List.map_cons, ← houtput]
      exact h.outputs.cons_cons _
  marked := by
    rw [h.marked, Device.anyChanged_update hlt pass]
    cases d.probe? pass s <;> simp

/-- **One pass**: what it adds to the probes says what it does to the signals. -/
theorem exists_sweepTold (hlt : ∀ d ∈ devices, d.firstOutput < p.signals.size) (pass : Nat) :
    ∃ probes, (devices.foldl (step pass) p).probes.toList = p.probes.toList ++ probes ∧
      SweepTold devices pass p.signals (devices.foldl (step pass) p).signals probes := by
  induction devices generalizing p with
  | nil => exact ⟨[], (List.append_nil _).symm, .nil _, by simp, by simp, by simp⟩
  | cons d ds ih =>
    rw [List.forall_mem_cons] at hlt
    obtain ⟨probes, hprobes, htold⟩ := ih (p := p.step pass d)
      (by simpa only [signals_step, Device.size_update] using hlt.2)
    refine ⟨(d.probe? pass p.signals).toList ++ probes, ?_, sweepTold_cons hlt.1 htold⟩
    rw [List.foldl_cons, hprobes, ← List.append_assoc]
    congr 1
    rw [step]
    cases d.probe? pass p.signals <;> simp

/-! ## All passes -/

/-- What the probes of a settling say, given the signals around it, the number of its first pass and
the number of the first pass that changed nothing. -/
structure Told (devices : List Device) (first quiet : Nat) (s s' : Signals) (probes : List Probe) :
    Prop where
  turns : Turns s.get probes s'.get
  outputs : ∀ p ∈ probes, p.output ∈ Device.gateOutputs devices
  ordered : probes.Pairwise fun p q => p.pass < q.pass ∨
    p.pass = q.pass ∧ [p.output, q.output].Sublist (Device.gateOutputs devices)
  passes : ∀ n, (∃ p ∈ probes, p.pass = n) ↔ first ≤ n ∧ n < quiet

/-- A pass that changes nothing has no probes. -/
theorem Told.of_quiet {s s' : Signals} (h : SweepTold devices pass s.tick s' []) :
    Told devices pass pass s s' [] :=
  ⟨h.turns, by simp, .nil, fun n => by simp⟩

/-- A pass with probes goes before what follows. -/
theorem Told.cons {s s' s'' : Signals} {probes later : List Probe} {quiet : Nat}
    (h : SweepTold devices pass s.tick s' probes) (hne : probes ≠ []) (hquiet : pass < quiet)
    (hlater : Told devices (pass + 1) quiet s' s'' later) :
    Told devices pass quiet s s'' (probes ++ later) where
  turns := h.turns.append hlater.turns
  outputs q hq := by
    rcases List.mem_append.mp hq with hq | hq
    · exact h.outputs.subset (List.mem_map_of_mem hq)
    · exact hlater.outputs q hq
  ordered := by
    rw [List.pairwise_append]
    refine ⟨List.pairwise_iff_forall_sublist.mpr fun {q q'} hsub => ?_, hlater.ordered, ?_⟩
    · have hpass : q.pass = q'.pass := by
        rw [h.pass_eq q (hsub.subset (by simp)), h.pass_eq q' (hsub.subset (by simp))]
      exact .inr ⟨hpass, (hsub.map _).trans h.outputs⟩
    · intro q hq q' hq'
      have hle := ((hlater.passes q'.pass).mp ⟨q', hq', rfl⟩).1
      rw [h.pass_eq q hq]
      exact .inl hle
  passes n := by
    have hhere : (∃ p ∈ probes, p.pass = n) ↔ n = pass := by
      constructor
      · rintro ⟨q, hq, rfl⟩
        exact h.pass_eq q hq
      · rintro rfl
        obtain ⟨q, hq⟩ := List.exists_mem_of_ne_nil probes hne
        exact ⟨q, hq, h.pass_eq q hq⟩
    simp only [List.mem_append, or_and_right, exists_or, hhere, hlater.passes n]
    omega

/-- **The probes of a settling**, whether or not it ends: in every pass but the last of a settling
that ends, some gate has changed. -/
theorem exists_told (hlt : ∀ d ∈ devices, d.firstOutput < p.signals.size) (budget pass : Nat) :
    ∃ probes, (settle devices budget pass p).2.probes.toList = p.probes.toList ++ probes ∧
      pass ≤ (settle devices budget pass p).1.getD (pass + budget) ∧
      Told devices pass ((settle devices budget pass p).1.getD (pass + budget)) p.signals
        (settle devices budget pass p).2.signals probes := by
  induction budget generalizing pass p with
  | zero =>
    exact ⟨[], (List.append_nil _).symm, Nat.le_refl _, .nil _, by simp, .nil, fun n => by
      simp only [settle, Option.getD_none]
      simp⟩
  | succ budget ih =>
    obtain ⟨probes, hprobes, htold⟩ := exists_sweepTold (p := { p with signals := p.signals.tick })
      (by simpa only [Signals.size_tick] using hlt) pass
    have hmarked := htold.marked
    have htick : p.signals.tick.anyChanged = false :=
      anyChanged_eq_false_iff.mpr (Signals.isChanged_tick p.signals)
    rw [htick, Bool.false_or] at hmarked
    rw [settle]
    by_cases hchanged : (p.sweep devices pass).signals.anyChanged
    · rw [if_pos hchanged]
      obtain ⟨later, hlater, hle, hrest⟩ := ih (p := p.sweep devices pass)
        (by simpa only [size_sweep] using hlt) (pass + 1)
      have hne : probes ≠ [] := by
        rintro rfl
        rw [sweep, hmarked] at hchanged
        cases hchanged
      rw [show pass + 1 + budget = pass + (budget + 1) by omega] at hle hrest
      refine ⟨probes ++ later, ?_, by omega, .cons htold hne (by omega) hrest⟩
      rw [hlater, sweep, hprobes, List.append_assoc]
    · rw [if_neg hchanged]
      have hnil : probes = [] := by
        rw [sweep, hmarked] at hchanged
        simpa using hchanged
      subst hnil
      exact ⟨[], hprobes, Nat.le_refl _, .of_quiet htold⟩

/-! ## Probes from before -/

/-- The same signals, with more probes from before. -/
def prepend (before : Array Probe) (p : Propagation) : Propagation :=
  { p with probes := before ++ p.probes }

theorem step_prepend (before : Array Probe) (pass : Nat) (p : Propagation) (d : Device) :
    (p.prepend before).step pass d = (p.step pass d).prepend before := by
  rw [step, step, prepend, prepend]
  cases d.probe? pass p.signals with
  | none => rfl
  | some q => exact congrArg _ Array.push_append

theorem foldl_step_prepend (before : Array Probe) (pass : Nat) (p : Propagation) :
    devices.foldl (step pass) (p.prepend before) =
      (devices.foldl (step pass) p).prepend before := by
  induction devices generalizing p with
  | nil => rfl
  | cons d ds ih => rw [List.foldl_cons, step_prepend, ih, List.foldl_cons]

/-- **Settling does not look at probes**: it goes the same way whatever was written down before. -/
theorem settle_prepend (devices : List Device) (before : Array Probe) (budget pass : Nat)
    (p : Propagation) :
    settle devices budget pass (p.prepend before) =
      ((settle devices budget pass p).1, (settle devices budget pass p).2.prepend before) := by
  induction budget generalizing pass p with
  | zero => rfl
  | succ budget ih =>
    have hsweep : sweep devices pass (p.prepend before) = (p.sweep devices pass).prepend before :=
      foldl_step_prepend before pass { p with signals := p.signals.tick }
    rw [settle, settle, hsweep]
    by_cases hchanged : (p.sweep devices pass).signals.anyChanged
    · rw [if_pos hchanged, if_pos (by exact hchanged), ih]
    · rw [if_neg hchanged, if_neg (by exact hchanged)]

end Propagation

end SyncCircuit
