import Mathlib.Data.Finset.Dedup
import Mathlib.Data.List.Chain
import Mathlib.Order.Lattice.Nat
import SyncCircuit.Proofs.Graph.Acyclic

/-!
# Edges that lead back

Vertices are numbers, and an edge may lead to a greater one or back to a smaller one. In an acyclic
relation on finitely many vertices no walk repeats a vertex, so there is a greatest number of edges
back on a walk. The greatest number on the walks that end at a vertex ranks the vertices: it grows
along every edge back, and does not fall along the others.

## Main definitions

* `backEdges` — the number of edges back on a walk.
* `maxBackEdges` — the greatest such number.
-/
namespace SyncCircuit.Graph

/-- The number of edges of a walk that lead back to a smaller vertex. -/
def backEdges : List Nat → Nat
  | u :: w :: walk => (if w < u then 1 else 0) + backEdges (w :: walk)
  | [_] | [] => 0

/-- A walk along edges from vertex to vertex. -/
structure IsWalk (vertex : Nat → Prop) (edge : Nat → Nat → Prop) (walk : List Nat) : Prop where
  vertex : ∀ v ∈ walk, vertex v
  chain : walk.IsChain edge

/-- The greatest number of edges back on a walk. -/
noncomputable def maxBackEdges (vertex : Nat → Prop) (edge : Nat → Nat → Prop) : Nat :=
  sSup {n | ∃ walk, IsWalk vertex edge walk ∧ backEdges walk = n}

theorem backEdges_concat (walk : List Nat) (u w : Nat) :
    backEdges (walk ++ [u] ++ [w]) = backEdges (walk ++ [u]) + if w < u then 1 else 0 := by
  induction walk with
  | nil => simp [backEdges]
  | cons v walk ih =>
    cases walk with
    | nil => simp [backEdges]
    | cons v' walk =>
      simp only [List.cons_append, backEdges] at ih ⊢
      omega

theorem backEdges_lt_length {walk : List Nat} (h : walk ≠ []) :
    backEdges walk < walk.length := by
  induction walk with
  | nil => exact absurd rfl h
  | cons u walk ih =>
    cases walk with
    | nil => simp [backEdges]
    | cons w walk =>
      have := ih (by simp)
      rw [backEdges, List.length_cons]
      split <;> omega

/-- If all edges lead forward, none of a walk leads back. -/
theorem backEdges_eq_zero {edge : Nat → Nat → Prop} {walk : List Nat} (h : walk.IsChain edge)
    (hforward : ∀ u w, edge u w → u < w) : backEdges walk = 0 := by
  induction walk with
  | nil => rfl
  | cons u walk ih =>
    cases walk with
    | nil => rfl
    | cons w walk =>
      rw [List.isChain_cons_cons] at h
      have := hforward u w h.1
      rw [backEdges, ih h.2, if_neg (by omega)]

variable {vertex : Nat → Prop} {edge : Nat → Nat → Prop}

/-- No walk of an acyclic relation repeats a vertex. -/
theorem Acyclic.nodup (h : Acyclic edge) {walk : List Nat} (hwalk : walk.IsChain edge) :
    walk.Nodup := by
  have hreach : walk.Pairwise (Relation.TransGen edge) :=
    (hwalk.imp fun _ _ => .single).pairwise
  refine hreach.imp fun {u w} hw => ?_
  rintro rfl
  exact h u hw

theorem isWalk_singleton {v : Nat} (h : vertex v) : IsWalk vertex edge [v] :=
  ⟨by simpa, List.isChain_singleton v⟩

theorem IsWalk.concat {walk : List Nat} {u w : Nat} (h : IsWalk vertex edge (walk ++ [u]))
    (hw : vertex w) (hedge : edge u w) : IsWalk vertex edge (walk ++ [u] ++ [w]) := by
  constructor
  · intro v hv
    rcases List.mem_append.mp hv with hv | hv
    · exact h.vertex v hv
    · exact List.mem_singleton.mp hv ▸ hw
  · rw [List.append_assoc]
    exact List.isChain_append_cons_cons.mpr ⟨h.chain, hedge, List.isChain_singleton w⟩

section Finite

variable {vertices : Finset Nat} (h : Acyclic edge) (hfinite : ∀ v, vertex v → v ∈ vertices)

include h hfinite

theorem IsWalk.length_le {walk : List Nat} (hwalk : IsWalk vertex edge walk) :
    walk.length ≤ vertices.card := by
  have hsub : walk.toFinset ⊆ vertices := fun v hv =>
    hfinite v (hwalk.vertex v (List.mem_toFinset.mp hv))
  rw [← List.toFinset_card_of_nodup (h.nodup hwalk.chain)]
  exact Finset.card_le_card hsub

theorem IsWalk.backEdges_le {walk : List Nat} (hwalk : IsWalk vertex edge walk) :
    backEdges walk ≤ vertices.card := by
  by_cases hne : walk = []
  · simp [hne, backEdges]
  · exact (backEdges_lt_length hne).le.trans (hwalk.length_le h hfinite)

/-- **The greatest number of edges back** is attained. -/
theorem isGreatest_maxBackEdges :
    IsGreatest {n | ∃ walk, IsWalk vertex edge walk ∧ backEdges walk = n}
      (maxBackEdges vertex edge) := by
  have hbdd : BddAbove {n | ∃ walk, IsWalk vertex edge walk ∧ backEdges walk = n} := by
    refine ⟨vertices.card, ?_⟩
    rintro n ⟨walk, hwalk, rfl⟩
    exact hwalk.backEdges_le h hfinite
  have hnil : IsWalk vertex edge [] := ⟨by simp, List.isChain_nil⟩
  exact ⟨Nat.sSup_mem ⟨0, [], hnil, rfl⟩ hbdd, fun n hn => le_csSup hbdd hn⟩

theorem maxBackEdges_lt_card (hne : vertices.Nonempty) :
    maxBackEdges vertex edge < vertices.card := by
  obtain ⟨⟨walk, hwalk, heq⟩, -⟩ := isGreatest_maxBackEdges h hfinite
  rw [← heq]
  by_cases hnil : walk = []
  · rw [hnil]
    exact hne.card_pos
  · exact (backEdges_lt_length hnil).trans_le (hwalk.length_le h hfinite)

/-- **Ranks by edges back**: the greatest number on the walks that end at a vertex. -/
theorem exists_backRank : ∃ rank : Nat → Nat,
    (∀ u w, vertex u → vertex w → edge u w → rank u < rank w ∨ u < w ∧ rank u ≤ rank w) ∧
      ∀ v, vertex v → rank v ≤ maxBackEdges vertex edge := by
  let counts (v : Nat) : Set Nat :=
    {n | ∃ walk, IsWalk vertex edge walk ∧ [v] <:+ walk ∧ backEdges walk = n}
  have hbdd : ∀ v, BddAbove (counts v) := by
    refine fun v => ⟨vertices.card, ?_⟩
    rintro n ⟨walk, hwalk, -, rfl⟩
    exact hwalk.backEdges_le h hfinite
  have hmem : ∀ v, vertex v → sSup (counts v) ∈ counts v := fun v hv =>
    Nat.sSup_mem ⟨0, [v], isWalk_singleton hv, List.suffix_rfl, rfl⟩ (hbdd v)
  refine ⟨fun v => sSup (counts v), fun u w hu hw hedge => ?_, fun v hv => ?_⟩
  · obtain ⟨_, hwalk, ⟨walk, rfl⟩, hcount⟩ := hmem u hu
    -- A walk to `u` goes on to `w`.
    have hle : backEdges (walk ++ [u] ++ [w]) ≤ sSup (counts w) :=
      le_csSup (hbdd w) ⟨_, hwalk.concat hw hedge, List.suffix_append _ _, rfl⟩
    rw [backEdges_concat, hcount] at hle
    have hne : u ≠ w := by
      rintro rfl
      exact h u (.single hedge)
    by_cases hback : w < u
    · rw [if_pos hback] at hle
      exact .inl hle
    · rw [if_neg hback] at hle
      exact .inr ⟨by omega, hle⟩
  · obtain ⟨walk, hwalk, -, hcount⟩ := hmem v hv
    exact (isGreatest_maxBackEdges h hfinite).2 ⟨walk, hwalk, hcount⟩

end Finite

end SyncCircuit.Graph
