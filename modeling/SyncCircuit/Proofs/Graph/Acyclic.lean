import Mathlib.Data.Finset.Max
import Mathlib.Logic.Relation

/-!
# Acyclic relations

Relations on vertices without closed walks. A rank that grows along every edge excludes them, and
conversely an acyclic relation whose edges leave finitely many vertices has such a rank, which stays
below the number of those vertices.
-/
namespace SyncCircuit.Graph

/-- No walk along edges returns to where it started. -/
def Acyclic (edge : Nat → Nat → Prop) : Prop := ∀ v, ¬ Relation.TransGen edge v v

variable {edge : Nat → Nat → Prop}

theorem Acyclic.mono {edge' : Nat → Nat → Prop} (h : Acyclic edge)
    (hle : ∀ u w, edge' u w → edge u w) : Acyclic edge' :=
  fun v hv => h v (Relation.TransGen.mono hle _ _ hv)

/-- A relation is acyclic if its edges are mapped to edges of an acyclic one. -/
theorem Acyclic.of_map {edge' : Nat → Nat → Prop} {f : Nat → Nat} (h : Acyclic edge)
    (hmap : ∀ u w, edge' u w → edge (f u) (f w)) : Acyclic edge' :=
  fun v hv => h (f v) (Relation.TransGen.lift f hmap v v hv)

theorem acyclic_congr {edge' : Nat → Nat → Prop} (h : ∀ u w, edge u w ↔ edge' u w) :
    Acyclic edge ↔ Acyclic edge' :=
  ⟨fun ha => ha.mono fun u w => (h u w).mpr, fun ha => ha.mono fun u w => (h u w).mp⟩

theorem rank_lt_of_transGen {rank : Nat → Nat} (h : ∀ u w, edge u w → rank u < rank w) {u w : Nat}
    (hw : Relation.TransGen edge u w) : rank u < rank w := by
  induction hw with
  | single he => exact h _ _ he
  | tail _ he ih => exact ih.trans (h _ _ he)

/-- A rank that grows along every edge excludes closed walks. -/
theorem acyclic_of_rank (rank : Nat → Nat) (h : ∀ u w, edge u w → rank u < rank w) :
    Acyclic edge :=
  fun _ hv => Nat.lt_irrefl _ (rank_lt_of_transGen h hv)

/-- **Ranks of an acyclic relation.** The number of vertices a walk can come from grows along every
edge, and no vertex is counted at itself. -/
theorem Acyclic.exists_rank (h : Acyclic edge) (vertices : Finset Nat)
    (hsource : ∀ u w, edge u w → u ∈ vertices) :
    ∃ rank : Nat → Nat, (∀ u w, edge u w → rank u < rank w) ∧
      ∀ v ∈ vertices, rank v < vertices.card := by
  classical
  refine ⟨fun v => (vertices.filter fun u => Relation.TransGen edge u v).card, ?_, ?_⟩
  · intro u w he
    apply Finset.card_lt_card
    rw [Finset.ssubset_iff_of_subset]
    · refine ⟨u, ?_, ?_⟩
      · exact Finset.mem_filter.mpr ⟨hsource u w he, .single he⟩
      · exact fun hu => h u (Finset.mem_filter.mp hu).2
    · intro x hx
      obtain ⟨hmem, hwalk⟩ := Finset.mem_filter.mp hx
      exact Finset.mem_filter.mpr ⟨hmem, hwalk.tail he⟩
  · intro v hv
    apply Finset.card_lt_card
    rw [Finset.ssubset_iff_of_subset (Finset.filter_subset _ _)]
    exact ⟨v, hv, fun hmem => h v (Finset.mem_filter.mp hmem).2⟩

/-- In an acyclic relation, a finite set with a vertex has one that no edge enters from it. -/
theorem Acyclic.exists_source (h : Acyclic edge) {vertices : Finset Nat}
    (hne : vertices.Nonempty) : ∃ v ∈ vertices, ∀ u ∈ vertices, ¬ edge u v := by
  have hinner : Acyclic fun u w => u ∈ vertices ∧ edge u w := h.mono fun _ _ he => he.2
  obtain ⟨rank, hrank, -⟩ := hinner.exists_rank vertices fun _ _ he => he.1
  obtain ⟨v, hv, hmin⟩ := Finset.exists_min_image vertices rank hne
  refine ⟨v, hv, fun u hu he => ?_⟩
  have := hrank u v ⟨hu, he⟩
  exact Nat.not_lt.mpr (hmin u hu) this

end SyncCircuit.Graph
