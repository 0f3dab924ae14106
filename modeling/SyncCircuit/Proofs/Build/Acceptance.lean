import SyncCircuit.Proofs.Build.Wiring

/-!
# Which descriptions build

Each stage of the report is empty exactly if the part of `Description.Valid` it is about holds,
given what the stages before it have established. Together: a description builds exactly if it is
valid.
-/
namespace SyncCircuit.Description

variable {d : Description}

/-- The monitors are faultless exactly if they name outputs that are distinct and were not named
before. -/
theorem WellDeclared.monitorErrors_eq_nil_iff (h : d.WellDeclared) {seen : List Pin}
    {rs : List OutputRef} :
    d.table.monitorErrors seen rs = [] ↔ (∀ r ∈ rs, ∃ pin, d.NamesOutput r pin) ∧
      (rs.Pairwise fun r r' => ∀ pin, d.NamesOutput r pin → ¬ d.NamesOutput r' pin) ∧
      ∀ r ∈ rs, ∀ pin, d.NamesOutput r pin → pin ∉ seen := by
  induction rs generalizing seen with
  | nil => simp [Table.monitorErrors]
  | cons r rs ih =>
    rw [Table.monitorErrors, List.forall_mem_cons, List.forall_mem_cons, List.pairwise_cons]
    have hnone := h.fault?_resolveOutput_eq_none_iff (r := r)
    cases hres : d.table.resolveOutput r with
    | rejected => exact absurd hres h.resolve_ne_rejected
    | invalid fault =>
      refine iff_of_false (by simp) fun hall => ?_
      rw [hres] at hnone
      exact absurd (hnone.mpr hall.1.1) (by simp [Resolution.fault?])
    | found pin =>
      have hpin : ∀ p, d.NamesOutput r p ↔ pin = p := by
        intro p
        rw [← h.resolveOutput_eq_found_iff, hres, Resolution.found.injEq]
      simp only [hpin, forall_eq', exists_eq', true_and]
      by_cases hseen : pin ∈ seen
      · rw [if_pos hseen]
        exact iff_of_false (by simp) fun hall => hall.2.2.1 hseen
      · rw [if_neg hseen, ih]
        constructor
        · rintro ⟨houtputs, hdistinct, hfresh⟩
          refine ⟨houtputs, ⟨fun r' hr' hp => ?_, hdistinct⟩, hseen, fun r' hr' p hp hmem => ?_⟩
          · exact hfresh r' hr' pin hp List.mem_cons_self
          · exact hfresh r' hr' p hp (List.mem_cons_of_mem pin hmem)
        · rintro ⟨houtputs, ⟨hne, hdistinct⟩, -, hfresh⟩
          refine ⟨houtputs, hdistinct, fun r' hr' p hp hmem => ?_⟩
          rcases List.mem_cons.mp hmem with rfl | hmem
          · exact hne r' hr' hp
          · exact hfresh r' hr' p hp hmem

theorem WellDeclared.monitorErrors_nil_eq_nil_iff (h : d.WellDeclared) :
    d.table.monitorErrors [] d.monitors = [] ↔ d.WellMonitored := by
  rw [h.monitorErrors_eq_nil_iff]
  constructor
  · intro ⟨houtputs, hdistinct, _⟩
    exact ⟨houtputs, hdistinct⟩
  · intro hm
    exact ⟨hm.outputs, hm.distinct, by simp⟩

theorem WellConnected.loopErrors_eq_nil_iff (hc : d.WellConnected) (hd : d.WellDeclared) :
    d.wiring.loopErrors = [] ↔ Graph.Acyclic d.Feeds := by
  rw [Wiring.loopErrors, List.map_eq_nil_iff, hc.loops_eq_nil_iff hd]

/-- **Nothing is reported** exactly if the description is valid. -/
theorem errors_eq_nil_iff {options : BuildOptions} :
    d.errors options = [] ↔ d.Valid options := by
  simp only [errors, List.append_eq_nil_iff, ite_eq_left_iff, Bool.not_eq_true]
  constructor
  · intro ⟨⟨⟨⟨hdecl, hconn⟩, hopen⟩, hloops⟩, hmonitors⟩
    have hd := declarationErrors_eq_nil_iff.mp hdecl
    have hc := hd.wellConnected_iff.mp ⟨hconn, hopen⟩
    exact ⟨hd, hc, hd.monitorErrors_nil_eq_nil_iff.mp hmonitors,
      fun hoff => (hc.loopErrors_eq_nil_iff hd).mp (hloops hoff)⟩
  · intro ⟨hd, hc, hmonitors, hloops⟩
    obtain ⟨hconn, hopen⟩ := hd.wellConnected_iff.mpr hc
    exact ⟨⟨⟨⟨declarationErrors_eq_nil_iff.mpr hd, hconn⟩, hopen⟩,
      fun hoff => (hc.loopErrors_eq_nil_iff hd).mpr (hloops hoff)⟩,
      hd.monitorErrors_nil_eq_nil_iff.mpr hmonitors⟩

theorem build_eq_ok_iff {options : BuildOptions} {net : Network} :
    d.build options = .ok net ↔ d.Valid options ∧ net = d.network := by
  rw [← errors_eq_nil_iff, build]
  by_cases h : d.errors options = []
  · rw [dif_pos h]
    simp [h, eq_comm]
  · rw [dif_neg h]
    simp [h]

/-- **The builder accepts exactly the valid descriptions**, and has something to say about every
other one. -/
theorem build_accepts_exactly_valid (d : Description) (options : BuildOptions) :
    ((∃ net, d.build options = .ok net) ↔ d.Valid options) ∧
      ((∃ e, d.build options = .error e ∧ e.errors ≠ []) ↔ ¬ d.Valid options) := by
  constructor
  · simp only [build_eq_ok_iff, exists_and_left, exists_eq, and_true]
  · rw [← errors_eq_nil_iff, build]
    by_cases h : d.errors options = []
    · rw [dif_pos h]
      simp [h]
    · rw [dif_neg h]
      simp [h]

end SyncCircuit.Description
