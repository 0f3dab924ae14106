import SyncCircuit.Proofs.Network.Equations

/-!
# What settling reaches

A pass that changes nothing has found every gate at the value its inputs call for, so settling ends
in a solution of the gate equations, whatever the wiring. If the gates are ranked along the wiring,
pass `n + 1` makes the gates of rank `n` right for good, and settling ends when the ranks are used
up. A gate may have the rank of a gate driving it if that one is recomputed earlier in the pass.
-/
namespace SyncCircuit

variable {devices : List Device} {s : Signals}

/-! ## One gate -/

namespace Device

variable {d : Device}

theorem update_of_none (h : d.output? s.get = none) : d.update s = s := by
  rw [update, next?_eq_output?, h]

theorem update_of_some {b : Bool} (h : d.output? s.get = some b) :
    d.update s = s.set d.firstOutput b := by
  rw [update, next?_eq_output?, h]

theorem get_update_of_ne {o : Nat} (h : d.component.isGate → d.firstOutput ≠ o) :
    (d.update s).get o = s.get o := by
  cases hb : d.output? s.get with
  | none => rw [update_of_none hb]
  | some b =>
    have hgate : d.component.isGate := isSome_output?_iff.mp (by rw [hb]; rfl)
    rw [update_of_some hb, Signals.get_set, if_neg fun hand => h hgate hand.1]

theorem get_update_firstOutput {b : Bool} (h : d.output? s.get = some b)
    (hlt : d.firstOutput < s.size) : (d.update s).get d.firstOutput = b := by
  rw [update_of_some h, Signals.get_set, if_pos ⟨rfl, hlt⟩]

theorem update_eq_self (h : d.Solved s.get) : d.update s = s := by
  cases hb : d.output? s.get with
  | none => exact update_of_none hb
  | some b =>
    have hsame : ¬ s.differs d.firstOutput b := by simp [Signals.differs, h b hb]
    rw [update_of_some hb, Signals.set, if_neg hsame]

/-- A gate that was recomputed without a mark was right before. -/
theorem solved_of_unchanged (hlt : d.firstOutput < s.size)
    (h : ∀ i, (d.update s).isChanged i = false) : d.Solved s.get := by
  intro b hb
  have hmark := h d.firstOutput
  rw [update_of_some hb, Signals.isChanged_set] at hmark
  by_cases hdiffers : s.differs d.firstOutput b
  · simp [hlt, hdiffers] at hmark
  · simpa [Signals.differs] using hdiffers

end Device

/-! ## One pass -/

theorem get_foldl_update_of_not_isGateOutput {o : Nat}
    (h : ¬ Network.IsGateOutput devices o) (s : Signals) :
    (devices.foldl (fun s d => d.update s) s).get o = s.get o := by
  induction devices generalizing s with
  | nil => rfl
  | cons d ds ih =>
    have hd : d.component.isGate → d.firstOutput ≠ o :=
      fun hgate hfirst => h ⟨d, List.mem_cons_self, hgate, hfirst⟩
    have hds : ¬ Network.IsGateOutput ds o :=
      fun ⟨d', hmem, hrest⟩ => h ⟨d', List.mem_cons_of_mem d hmem, hrest⟩
    rw [List.foldl_cons, ih hds, Device.get_update_of_ne hd]

theorem foldl_update_eq_self (h : ∀ d ∈ devices, d.Solved s.get) :
    devices.foldl (fun s d => d.update s) s = s := by
  induction devices with
  | nil => rfl
  | cons d ds ih =>
    rw [List.foldl_cons, Device.update_eq_self (h d List.mem_cons_self)]
    exact ih fun d' hd' => h d' (List.mem_cons_of_mem d hd')

/-- **A pass without a mark** changes nothing, and all gates are right. -/
theorem foldl_update_of_unchanged (hlt : ∀ d ∈ devices, d.firstOutput < s.size)
    (h : ∀ i, (devices.foldl (fun s d => d.update s) s).isChanged i = false) :
    devices.foldl (fun s d => d.update s) s = s ∧ ∀ d ∈ devices, d.Solved s.get := by
  induction devices generalizing s with
  | nil => exact ⟨rfl, by simp⟩
  | cons d ds ih =>
    rw [List.foldl_cons] at h ⊢
    obtain ⟨hfold, hsolved⟩ := ih
      (fun d' hd' => by rw [Device.size_update]; exact hlt d' (List.mem_cons_of_mem d hd')) h
    rw [hfold] at h ⊢
    have hd := Device.solved_of_unchanged (hlt d List.mem_cons_self) h
    rw [Device.update_eq_self hd] at hsolved ⊢
    exact ⟨rfl, List.forall_mem_cons.mpr ⟨hd, hsolved⟩⟩

/-! ## All passes -/

namespace Propagation

theorem anyChanged_eq_false_iff : s.anyChanged = false ↔ ∀ i, s.isChanged i = false := by
  rw [← Bool.not_eq_true, Signals.anyChanged_eq_true_iff]
  simp

theorem get_sweep_of_not_isGateOutput {o : Nat} (h : ¬ Network.IsGateOutput devices o)
    (pass : Nat) (p : Propagation) : (p.sweep devices pass).signals.get o = p.signals.get o := by
  rw [signals_sweep, get_foldl_update_of_not_isGateOutput h, Signals.get_tick]

/-- Settling leaves everything but the outputs of gates alone. -/
theorem get_settle_of_not_isGateOutput {o : Nat} (h : ¬ Network.IsGateOutput devices o)
    (budget pass : Nat) (p : Propagation) :
    (settle devices budget pass p).2.signals.get o = p.signals.get o := by
  induction budget generalizing pass p with
  | zero => rfl
  | succ budget ih =>
    rw [settle]
    split
    · rw [ih, get_sweep_of_not_isGateOutput h]
    · rw [get_sweep_of_not_isGateOutput h]

theorem size_of_settle {budget pass : Nat} {p p' : Propagation} {o : Option Nat}
    (h : settle devices budget pass p = (o, p')) : p'.signals.size = p.signals.size := by
  have := size_settle devices budget pass p
  rwa [h] at this

/-- **Settled means consistent**: if settling ends, every gate has the value its inputs call for. -/
theorem solved_of_settle_eq_some {budget pass k : Nat} {p p' : Propagation}
    (hlt : ∀ d ∈ devices, d.firstOutput < p.signals.size)
    (h : settle devices budget pass p = (some k, p')) :
    ∀ d ∈ devices, d.Solved p'.signals.get := by
  induction budget generalizing pass p with
  | zero => cases h
  | succ budget ih =>
    rw [settle] at h
    by_cases hchanged : (p.sweep devices pass).signals.anyChanged
    · rw [if_pos hchanged] at h
      exact ih (by rwa [size_sweep]) h
    · rw [if_neg hchanged] at h
      obtain rfl := (Prod.mk.inj h).2
      rw [Bool.not_eq_true, anyChanged_eq_false_iff, signals_sweep] at hchanged
      rw [signals_sweep]
      obtain ⟨hsame, hsolved⟩ := foldl_update_of_unchanged (s := p.signals.tick) hlt hchanged
      rw [hsame]
      exact hsolved

/-! ## Passes and ranks -/

/-- Ranks of gate outputs that grow along the wiring; they may stay the same where the driving gate
comes first. -/
def Ranked (devices : List Device) (rank : Nat → Nat) : Prop :=
  ∀ (i j : Nat) (d d' : Device), devices[i]? = some d → devices[j]? = some d' →
    d.component.isGate → d'.component.isGate → d'.firstOutput ∈ d.drivers →
      rank d'.firstOutput < rank d.firstOutput ∨
        j < i ∧ rank d'.firstOutput ≤ rank d.firstOutput

variable {rank : Nat → Nat} {v : Nat → Bool}

/-- The gates of rank below `n` have their final value, and so have those of rank `n` among the
first `m` devices. -/
def RightUpTo (devices : List Device) (rank : Nat → Nat) (v : Nat → Bool) (n m : Nat)
    (s : Signals) : Prop :=
  ∀ (j : Nat) (d : Device), devices[j]? = some d → d.component.isGate →
    rank d.firstOutput < n ∨ j < m ∧ rank d.firstOutput ≤ n → s.get d.firstOutput = v d.firstOutput

theorem RightUpTo.next_pass {n : Nat} (h : RightUpTo devices rank v n devices.length s) :
    RightUpTo devices rank v (n + 1) 0 s := by
  intro j d hd hgate hcase
  have hj : j < devices.length := (List.getElem?_eq_some_iff.mp hd).1
  exact h j d hd hgate (by omega)

/-- **Recomputing the next device** makes it right if its rank is reached, and spoils none that is
right already. -/
theorem RightUpTo.update {n m : Nat} {d : Device} (h : RightUpTo devices rank v n m s)
    (hd : devices[m]? = some d) (hlt : d.firstOutput < s.size) (hsolved : d.Solved v)
    (hranked : Ranked devices rank)
    (hother : ∀ o, ¬ Network.IsGateOutput devices o → s.get o = v o) :
    RightUpTo devices rank v n (m + 1) (d.update s) := by
  intro j d' hd' hgate' hcase
  by_cases hreached : d.component.isGate ∧ rank d.firstOutput ≤ n
  · -- The gates that drive `d` are of lower rank, or of the same rank and in front of it.
    have hdrivers : ∀ o ∈ d.drivers, s.get o = v o := by
      intro o ho
      by_cases hout : Network.IsGateOutput devices o
      · obtain ⟨e, hmem, hgate, rfl⟩ := hout
        obtain ⟨i, hi⟩ := List.mem_iff_getElem?.mp hmem
        have hrank := hranked m i d e hd hi hreached.1 hgate ho
        exact h i e hi hgate (by omega)
      · exact hother o hout
    obtain ⟨b, hb⟩ := Option.isSome_iff_exists.mp
      (Device.isSome_output?_iff (v := v).mpr hreached.1)
    have hb' : d.output? s.get = some b := by rw [Device.output?_congr hdrivers, hb]
    by_cases hsame : d.firstOutput = d'.firstOutput
    · rw [← hsame, Device.get_update_firstOutput hb' hlt, hsolved b hb]
    · have hj : j ≠ m := by
        intro hj
        rw [hj, hd] at hd'
        exact hsame (congrArg Device.firstOutput (Option.some.inj hd'))
      rw [Device.get_update_of_ne fun _ => hsame]
      exact h j d' hd' hgate' (by omega)
  · -- The new value of `d` may be wrong, but nothing has been promised about it.
    have hne : d.component.isGate → d.firstOutput ≠ d'.firstOutput := by
      intro hgate hsame
      have : ¬ rank d.firstOutput ≤ n := fun hle => hreached ⟨hgate, hle⟩
      rw [hsame] at this
      omega
    have hj : j ≠ m := by
      intro hj
      rw [hj, hd] at hd'
      obtain rfl := Option.some.inj hd'
      exact hne hgate' rfl
    rw [Device.get_update_of_ne hne]
    exact h j d' hd' hgate' (by omega)

theorem RightUpTo.foldl {n : Nat} (h : RightUpTo devices rank v n 0 s)
    (hlt : ∀ d ∈ devices, d.firstOutput < s.size) (hsolved : ∀ d ∈ devices, d.Solved v)
    (hranked : Ranked devices rank)
    (hother : ∀ o, ¬ Network.IsGateOutput devices o → s.get o = v o) {m : Nat}
    (hm : m ≤ devices.length) :
    RightUpTo devices rank v n m ((devices.take m).foldl (fun s d => d.update s) s) := by
  induction m with
  | zero => exact h
  | succ m ih =>
    have hd : devices[m]? = some devices[m] := List.getElem?_eq_getElem hm
    have hmem : devices[m] ∈ devices := List.getElem_mem hm
    rw [List.take_add_one, hd, Option.toList_some, List.foldl_append, List.foldl_cons,
      List.foldl_nil]
    refine (ih (Nat.le_of_lt hm)).update hd ?_ (hsolved _ hmem) hranked fun o ho => ?_
    · rw [size_foldl_update]
      exact hlt _ hmem
    · have hprefix : ¬ Network.IsGateOutput (devices.take m) o :=
        fun ⟨d, hd, hrest⟩ => ho ⟨d, List.mem_of_mem_take hd, hrest⟩
      rw [get_foldl_update_of_not_isGateOutput hprefix, hother o ho]

/-- A pass makes the gates of one more rank right. -/
theorem RightUpTo.sweep {n : Nat} {p : Propagation} (h : RightUpTo devices rank v n 0 p.signals)
    (hlt : ∀ d ∈ devices, d.firstOutput < p.signals.size) (hsolved : ∀ d ∈ devices, d.Solved v)
    (hranked : Ranked devices rank)
    (hother : ∀ o, ¬ Network.IsGateOutput devices o → p.signals.get o = v o) (pass : Nat) :
    RightUpTo devices rank v (n + 1) 0 (p.sweep devices pass).signals := by
  have htick : RightUpTo devices rank v n 0 p.signals.tick := h
  have := htick.foldl hlt hsolved hranked hother (Nat.le_refl _)
  rw [List.take_length] at this
  rw [signals_sweep]
  exact this.next_pass

/-- A pass over gates that are right already leaves no mark. -/
theorem anyChanged_sweep_of_right {p : Propagation} (hsolved : ∀ d ∈ devices, d.Solved v)
    (hright : ∀ o, p.signals.get o = v o) (pass : Nat) :
    (p.sweep devices pass).signals.anyChanged = false := by
  have hget : p.signals.tick.get = v := funext hright
  rw [anyChanged_eq_false_iff, signals_sweep,
    foldl_update_eq_self fun d hd => by rw [hget]; exact hsolved d hd]
  exact Signals.isChanged_tick p.signals

/-- **Settling ends** as soon as the passes outnumber the ranks. -/
theorem RightUpTo.settle {bound n budget : Nat} {p : Propagation}
    (h : RightUpTo devices rank v n 0 p.signals)
    (hlt : ∀ d ∈ devices, d.firstOutput < p.signals.size) (hsolved : ∀ d ∈ devices, d.Solved v)
    (hranked : Ranked devices rank)
    (hbound : ∀ o, Network.IsGateOutput devices o → rank o < bound)
    (hother : ∀ o, ¬ Network.IsGateOutput devices o → p.signals.get o = v o) (hn : n ≤ bound)
    (hbudget : bound < n + budget) (pass : Nat) :
    ∃ k p', Propagation.settle devices budget pass p = (some k, p') ∧ k ≤ pass + (bound - n) := by
  induction budget generalizing n pass p with
  | zero => omega
  | succ budget ih =>
    rw [Propagation.settle]
    by_cases hchanged : (p.sweep devices pass).signals.anyChanged
    · rw [if_pos hchanged]
      have hless : n ≠ bound := by
        intro heq
        have hright : ∀ o, p.signals.get o = v o := by
          intro o
          by_cases hout : Network.IsGateOutput devices o
          · obtain ⟨d, hmem, hgate, rfl⟩ := id hout
            obtain ⟨j, hj⟩ := List.mem_iff_getElem?.mp hmem
            exact h j d hj hgate (.inl (heq ▸ hbound _ hout))
          · exact hother o hout
        rw [anyChanged_sweep_of_right hsolved hright] at hchanged
        cases hchanged
      obtain ⟨k, p', hsettle, hk⟩ := ih (h.sweep hlt hsolved hranked hother pass)
        (by rwa [size_sweep])
        (fun o ho => by rw [get_sweep_of_not_isGateOutput ho, hother o ho])
        (by omega) (by omega) (pass + 1)
      exact ⟨k, p', hsettle, by omega⟩
    · rw [if_neg hchanged]
      exact ⟨pass, _, rfl, by omega⟩

end Propagation

/-! ## Solutions -/

namespace Network

variable {net : Network}

theorem WellFormed.firstOutput_lt (h : net.WellFormed) {dev : Device} (hmem : dev ∈ net.devices) :
    dev.firstOutput < net.outputCount := by
  obtain ⟨i, hi⟩ := List.mem_iff_getElem?.mp hmem
  exact h.output_lt hi dev.component.outputCount_pos

theorem isGateOutput_perm (hperm : devices.Perm net.devices) {o : Nat} :
    IsGateOutput devices o ↔ IsGateOutput net.devices o := by
  simp only [IsGateOutput, hperm.mem_iff]

/-- **Where settling ends**, the outputs solve the equations of the network for the sources it
started from. The order in which the devices are recomputed does not matter. -/
theorem WellFormed.solves_of_settle (h : net.WellFormed) (hperm : devices.Perm net.devices)
    (hsize : net.outputCount ≤ s.size) {probes : Array Probe} {budget pass k : Nat}
    {p : Propagation}
    (hsettle : Propagation.settle devices budget pass ⟨s, probes⟩ = (some k, p)) :
    net.Solves s.get p.signals.get where
  gates dev hmem := by
    refine Propagation.solved_of_settle_eq_some (fun d hd => ?_) hsettle dev
      (hperm.mem_iff.mpr hmem)
    exact Nat.lt_of_lt_of_le (h.firstOutput_lt (hperm.mem_iff.mp hd)) hsize
  sources o ho := by
    have hnot : ¬ IsGateOutput devices o :=
      fun hout => h.not_isGateOutput_of_isSource ho ((isGateOutput_perm hperm).mp hout)
    have hkept := Propagation.get_settle_of_not_isGateOutput hnot budget pass ⟨s, probes⟩
    rwa [hsettle] at hkept

end Network

end SyncCircuit
