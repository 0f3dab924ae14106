import SyncCircuit.Proofs.Build.Connections
import SyncCircuit.Proofs.Graph.Search

/-!
# The wiring of a well-connected description

Nothing is dropped on the way from the connections to the wiring: it holds one attachment for each
connection, in order. What drives a pin, which devices depend on one and which loops there are can
therefore be said of the connections themselves.
-/
namespace SyncCircuit.Description

variable {d : Description}

namespace WellDeclared

theorem isGate_wiring_iff (h : d.WellDeclared) {i : Nat} : d.wiring.isGate i ↔ d.IsGate i := by
  rw [Wiring.isGate, Option.any_eq_true]
  constructor
  · intro ⟨part, hpart, hgate⟩
    obtain ⟨name, hdecl⟩ := h.part?_table_eq_some_iff.mp hpart
    exact ⟨name, part, hdecl, hgate⟩
  · intro ⟨name, part, hdecl, hgate⟩
    exact ⟨part, h.part?_table_eq_some_iff.mpr ⟨name, hdecl⟩, hgate⟩

theorem lt_length_of_isGate (h : d.WellDeclared) {i : Nat} (hi : d.IsGate i) :
    i < d.table.entries.length := by
  obtain ⟨name, part, ⟨c, hc, -, -⟩, -⟩ := hi
  rw [h.length_entries]
  exact (List.getElem?_eq_some_iff.mp hc).1

end WellDeclared

namespace WellConnected

theorem nodup_targets (hc : d.WellConnected) (hd : d.WellDeclared) :
    ((d.connections.filterMap d.table.attachment?).map (·.target)).Nodup :=
  (Table.connectionErrors_eq_nil_iff.mp (hd.wellConnected_iff.mpr hc).1).2.1

theorem attachments_wiring (hc : d.WellConnected) (hd : d.WellDeclared) :
    d.wiring.attachments = d.connections.filterMap d.table.attachment? :=
  firsts_eq_self (hc.nodup_targets hd)

theorem getElem?_attachments_wiring (hc : d.WellConnected) (hd : d.WellDeclared) {k : Nat}
    {a : Attachment} : d.wiring.attachments[k]? = some a ↔ d.Takes k a := by
  rw [hc.attachments_wiring hd]
  exact hd.getElem?_attachments hc.sources hc.targets

/-! ## Drivers -/

/-- The driver of a pin is the output that the connection to it names. -/
theorem driver?_eq_some_iff (hc : d.WellConnected) (hd : d.WellDeclared) {pin source : Pin} :
    d.wiring.driver? pin = some source ↔ ∃ (k : Nat) (c : Connection), d.connections[k]? = some c ∧
      d.NamesInput c.target pin ∧ d.NamesOutput c.source source := by
  rw [Wiring.driver?, Option.bind_eq_some_iff]
  constructor
  · intro ⟨a, ha, hdriver⟩
    have hmem := List.mem_of_find?_eq_some ha
    have htarget := List.find?_some ha
    obtain ⟨k, hk⟩ := List.mem_iff_getElem?.mp hmem
    obtain ⟨hck, source', hdriver', hsource, hinput⟩ :=
      hd.takes_iff.mp ((hc.getElem?_attachments_wiring hd).mp hk)
    obtain rfl := Option.some.inj (hdriver'.symm.trans hdriver)
    obtain rfl : a.target = pin := by simpa using htarget
    exact ⟨k, a.connection, hck, hinput, hsource⟩
  · intro ⟨k, c, hk, hinput, hsource⟩
    have htakes : d.Takes k ⟨pin, some source, c⟩ :=
      hd.takes_iff.mpr ⟨hk, source, rfl, hsource, hinput⟩
    refine ⟨⟨pin, some source, c⟩, ?_, rfl⟩
    have hmem := List.mem_of_getElem? ((hc.getElem?_attachments_wiring hd).mpr htakes)
    have hfound : (d.wiring.holder? pin).isSome := List.find?_isSome.mpr ⟨_, hmem, by simp⟩
    obtain ⟨b, hb⟩ := Option.isSome_iff_exists.mp hfound
    have hbtarget : b.target = pin := by simpa using List.find?_some hb
    obtain ⟨l, hl⟩ := List.mem_iff_getElem?.mp (List.mem_of_find?_eq_some hb)
    -- The pin is the target of one connection only, so the holder is the given one.
    have hlb := (hc.getElem?_attachments_wiring hd).mp hl
    obtain rfl : k = l := (hc.driven pin hinput.isInput).unique ⟨c, hk, hinput⟩
      ((hd.exists_takes_iff hc.sources).mp ⟨b, hlb, hbtarget⟩)
    rw [htakes.unique hlb]
    exact hb

theorem exists_driver? (hc : d.WellConnected) (hd : d.WellDeclared) {pin : Pin}
    (hpin : d.IsInput pin) : ∃ source, d.wiring.driver? pin = some source := by
  obtain ⟨k, ⟨c, hk, hinput⟩, -⟩ := hc.driven pin hpin
  obtain ⟨source, hsource⟩ := hc.sources c (List.mem_of_getElem? hk)
  exact ⟨source, (hc.driver?_eq_some_iff hd).mpr ⟨k, c, hk, hinput, hsource⟩⟩

end WellConnected

/-! ## Dependents -/

/-- The device a connection leads to, if it comes from device `i`. -/
def dependent? (d : Description) (i : Nat) (c : Connection) : Option Nat :=
  (d.table.attachment? c).bind fun a =>
    if a.driver.any (·.device == i) then some a.target.device else none

theorem WellDeclared.dependent?_eq_some_iff (h : d.WellDeclared) {k i j : Nat} :
    d.connections[k]?.bind (d.dependent? i) = some j ↔ d.Connects k i j := by
  rw [Option.bind_eq_some_iff]
  constructor
  · intro ⟨c, hk, hdep⟩
    obtain ⟨a, ha, hif⟩ := Option.bind_eq_some_iff.mp hdep
    obtain ⟨source, hsource, hinput, hdriver, -⟩ := h.attachment?_eq_some_iff.mp ha
    rw [hdriver] at hif
    obtain ⟨hi, hj⟩ : source.device = i ∧ a.target.device = j := by simpa using hif
    exact ⟨c, source, a.target, hk, hsource, hinput, hi, hj⟩
  · intro ⟨c, source, target, hk, hsource, hinput, hi, hj⟩
    have hsome : d.table.attachment? c = some ⟨target, some source, c⟩ :=
      h.attachment?_eq_some_iff.mpr ⟨source, hsource, hinput, rfl, rfl⟩
    refine ⟨c, hk, ?_⟩
    rw [dependent?, hsome]
    simp [hi, hj]

namespace WellConnected

theorem dependents_wiring (hc : d.WellConnected) (hd : d.WellDeclared) (i : Nat) :
    d.wiring.dependents i = (d.connections.filterMap (d.dependent? i)).eraseDups := by
  rw [Wiring.dependents, hc.attachments_wiring hd, ← List.filterMap_eq_map, List.filterMap_filter,
    List.filterMap_filterMap]
  rfl

theorem mem_dependents_iff (hc : d.WellConnected) (hd : d.WellDeclared) {i j : Nat} :
    j ∈ d.wiring.dependents i ↔ ∃ k, d.Connects k i j := by
  rw [hc.dependents_wiring hd, List.mem_eraseDups, List.mem_filterMap]
  simp only [← hd.dependent?_eq_some_iff, Option.bind_eq_some_iff]
  constructor
  · intro ⟨c, hmem, hdep⟩
    obtain ⟨k, hk⟩ := List.mem_iff_getElem?.mp hmem
    exact ⟨k, c, hk, hdep⟩
  · intro ⟨k, c, hk, hdep⟩
    exact ⟨c, List.mem_of_getElem? hk, hdep⟩

theorem nodup_dependents (hc : d.WellConnected) (hd : d.WellDeclared) (i : Nat) :
    (d.wiring.dependents i).Nodup := by
  rw [hc.dependents_wiring hd]
  exact nodup_eraseDups _

/-- Dependents are listed in the order of the first connections to them. -/
theorem pairwise_dependents (hc : d.WellConnected) (hd : d.WellDeclared) (i : Nat) :
    (d.wiring.dependents i).Pairwise fun j j' =>
      ∃ k, d.Connects k i j ∧ ∀ k', d.Connects k' i j' → k < k' := by
  simp only [← hd.dependent?_eq_some_iff]
  rw [hc.dependents_wiring hd]
  exact pairwise_eraseDups_filterMap (d.dependent? i) d.connections

/-! ## Loops -/

/-- **The loops reported** are none exactly if no loop runs through gates only. -/
theorem loops_eq_nil_iff (hc : d.WellConnected) (hd : d.WellDeclared) :
    d.wiring.loops = [] ↔ Graph.Acyclic d.Feeds := by
  have hnext : ∀ u < d.table.entries.length, ∀ w ∈ d.wiring.dependents u,
      w < d.table.entries.length := fun u _ w hw => (Table.lt_of_mem_dependents hw).2
  rw [Wiring.loops, show d.wiring.table = d.table from rfl, Graph.findLoops_eq_nil_iff _ hnext]
  refine Graph.acyclic_congr fun u w => ?_
  rw [hd.isGate_wiring_iff, hd.isGate_wiring_iff, hc.mem_dependents_iff hd]
  constructor
  · intro ⟨_, hu, hk, hw⟩
    exact ⟨hu, hw, hk⟩
  · intro ⟨hu, hw, hk⟩
    exact ⟨hd.lt_length_of_isGate hu, hu, hk, hw⟩

end WellConnected

end SyncCircuit.Description
