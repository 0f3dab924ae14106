import SyncCircuit.Proofs.Build.Containment

/-!
# Statements in another order

Which devices and connections a description makes matters, and not in which order it makes them. A
description whose declarations and connections are permuted contains the original and is contained
in it, so it is valid under the same conditions, and each of the two networks sits inside the other.

## Main definitions

* `Description.Reordered` — the same statements in another order.
-/
namespace SyncCircuit

/-! ## Unique places -/

section Unique

variable {α : Type} {P : α → Prop}

/-- Exactly one place of a list has a property. -/
def OnePlace (P : α → Prop) (l : List α) : Prop := ∃! k : Nat, ∃ a, l[k]? = some a ∧ P a

/-- One place has a property exactly if one element is counted. -/
theorem onePlace_iff_countP [DecidablePred P] (l : List α) :
    OnePlace P l ↔ l.countP (fun a => decide (P a)) = 1 := by
  induction l with
  | nil => simp [OnePlace, ExistsUnique]
  | cons a l ih =>
    by_cases ha : P a
    · rw [List.countP_cons_of_pos (by simpa using ha), Nat.add_eq_right, List.countP_eq_zero]
      constructor
      · rintro ⟨k, -, hunique⟩ b hb hPb
        obtain ⟨j, hj⟩ := List.mem_iff_getElem?.mp hb
        have hzero := hunique 0 ⟨a, rfl, ha⟩
        have hsucc := hunique (j + 1) ⟨b, hj, by simpa using hPb⟩
        omega
      · intro hnone
        refine ⟨0, ⟨a, rfl, ha⟩, ?_⟩
        rintro (_ | j) ⟨b, hb, hPb⟩
        · rfl
        · exact absurd (decide_eq_true hPb) (hnone b (List.mem_of_getElem? hb))
    · rw [List.countP_cons_of_neg (by simpa using ha), ← ih]
      constructor
      · rintro ⟨_ | k, ⟨b, hb, hPb⟩, hunique⟩
        · exact absurd (Option.some.inj hb ▸ hPb) ha
        · exact ⟨k, ⟨b, hb, hPb⟩, fun j hj => Nat.succ.inj (hunique (j + 1) hj)⟩
      · rintro ⟨k, hk, hunique⟩
        refine ⟨k + 1, hk, ?_⟩
        rintro (_ | j) ⟨b, hb, hPb⟩
        · exact absurd (Option.some.inj hb ▸ hPb) ha
        · exact congrArg (· + 1) (hunique j ⟨b, hb, hPb⟩)

theorem OnePlace.perm {l l' : List α} (h : OnePlace P l) (hperm : l'.Perm l) : OnePlace P l' := by
  classical
  rw [onePlace_iff_countP] at h ⊢
  rw [hperm.countP_eq, h]

end Unique

namespace Description

variable {d d' : Description}

/-- The same declarations and connections in any order, and the same monitors. -/
structure Reordered (d d' : Description) : Prop where
  devices : d'.devices.Perm d.devices
  connections : d'.connections.Perm d.connections
  monitors : d'.monitors = d.monitors

/-- Where another description makes the declaration with an index. -/
def place (d d' : Description) (i : Nat) : Nat := (d.devices[i]?).elim 0 (d'.devices.idxOf ·)

namespace Reordered

theorem symm (h : d.Reordered d') : d'.Reordered d :=
  ⟨h.devices.symm, h.connections.symm, h.monitors.symm⟩

theorem within (h : d.Reordered d') : d.Within d' (d.place d') where
  devices i c hc := by
    have hmem : c ∈ d'.devices := h.devices.mem_iff.mpr (List.mem_of_getElem? hc)
    rw [place, hc]
    exact List.getElem?_idxOf hmem
  connections _ hc := h.connections.mem_iff.mpr hc

theorem wellDeclared (h : d.Reordered d') (hd : d.WellDeclared) : d'.WellDeclared where
  names c hc := hd.names c (h.devices.mem_iff.mp hc)
  distinct := (h.devices.map _).nodup_iff.mpr hd.distinct
  parameters c hc := hd.parameters c (h.devices.mem_iff.mp hc)

/-- Every input has one driver in either order. -/
theorem wellConnected (h : d.Reordered d') (hc : d.WellConnected) : d'.WellConnected where
  sources c hmem := by
    obtain ⟨pin, hpin⟩ := hc.sources c (h.connections.mem_iff.mp hmem)
    exact ⟨_, h.within.namesOutput hpin⟩
  targets c hmem := by
    obtain ⟨pin, hpin⟩ := hc.targets c (h.connections.mem_iff.mp hmem)
    exact ⟨_, h.within.namesInput hpin⟩
  driven pin hpin := by
    have hdriven := OnePlace.perm (hc.driven _ (h.symm.within.isInput hpin)) h.connections
    simpa only [OnePlace, h.symm.within.namesInput_iff hpin] using hdriven

theorem wellMonitored (h : d.Reordered d') (hm : d.WellMonitored) : d'.WellMonitored where
  outputs r hr := by
    rw [h.monitors] at hr
    obtain ⟨pin, hpin⟩ := hm.outputs r hr
    exact ⟨_, h.within.namesOutput hpin⟩
  distinct := by
    rw [h.monitors]
    exact hm.distinct.imp fun hne pin hr hr' =>
      hne _ (h.symm.within.namesOutput hr) (h.symm.within.namesOutput hr')

/-- **Validity does not depend on the order** of declarations and connections. -/
theorem valid (h : d.Reordered d') {options : BuildOptions} (hv : d.Valid options) :
    d'.Valid options where
  toWellDeclared := h.wellDeclared hv.toWellDeclared
  toWellConnected := h.wellConnected hv.toWellConnected
  monitored := h.wellMonitored hv.monitored
  loopFree hoff := (hv.loopFree hoff).of_map fun _ _ => h.symm.within.feeds

/-! ## The networks -/

/-- The number of an output, if the declarations come in another order. -/
def renumber (d d' : Description) (o : Nat) : Nat :=
  d.network.outputs[o]?.elim 0 fun pin => d'.table.outputNumber (pin.at (d.place d'))

theorem renumber_outputNumber (hd : d.WellDeclared) {pin : Pin} (hpin : d.IsOutput pin) :
    renumber d d' (d.table.outputNumber pin) = d'.table.outputNumber (pin.at (d.place d')) := by
  rw [renumber, hd.getElem?_outputs_of_isOutput hpin]
  rfl

/-- Where the network is in that of the reordered description. -/
def embedding (h : d.Reordered d') {options : BuildOptions} (hv : d.Valid options) :
    d.network.Embedding d'.network :=
  h.within.embedding hv.toWellDeclared hv.toWellConnected (h.valid hv).toWellDeclared
    (h.valid hv).toWellConnected (renumber d d') fun _ => renumber_outputNumber hv.toWellDeclared

theorem monitors_network (h : d.Reordered d') {options : BuildOptions} (hv : d.Valid options) :
    d'.network.monitors = d.network.monitors.map (h.embedding hv).output := by
  have hmonitors := h.within.monitors_network hv.toWellDeclared hv.monitored
    (h.valid hv).toWellDeclared (h.valid hv).monitored
    (fun _ => renumber_outputNumber hv.toWellDeclared)
    (h.monitors.trans (List.append_nil _).symm)
  rw [List.filterMap_nil, List.append_nil] at hmonitors
  exact hmonitors

end Reordered

end Description

end SyncCircuit
