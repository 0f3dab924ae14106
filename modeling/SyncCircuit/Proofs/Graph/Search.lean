import Mathlib.Data.List.Chain
import Mathlib.Data.List.Nodup
import SyncCircuit.Graph.Loop
import SyncCircuit.Proofs.Graph.Acyclic

/-!
# Correctness of the search for loops

The vertices a search is done with are listed in the order they were finished, the last one first.
Every edge out of such a vertex leads to one finished before it, unless the edge closes a reported
loop: that is the invariant `Search.Ordered`. So a search that reports nothing has listed its
vertices in an order that excludes loops, and whatever a search reports is a loop.

## Main statements

* `Search.explore_spec` — what a search below one vertex keeps and adds.
* `exists_search` — what the whole search comes to.
* `findLoops_eq_nil_iff` — no loop is reported exactly if there is none.
-/
namespace SyncCircuit.Graph

/-- An edge to a successor of a vertex of the graph. -/
def Edge (vertex : Nat → Prop) (next : Nat → List Nat) (u w : Nat) : Prop := vertex u ∧ w ∈ next u

/-- A closed walk that ends with the vertex it starts with and repeats no other. -/
def IsLoop (edge : Nat → Nat → Prop) (loop : List Nat) : Prop :=
  ∃ v body, loop = v :: body ++ [v] ∧ (v :: body).Nodup ∧ loop.IsChain edge

/-- A chain of edges leads from its first vertex to its last. -/
theorem transGen_of_isChain {edge : Nat → Nat → Prop} {v w : Nat} {body : List Nat}
    (h : (v :: body ++ [w]).IsChain edge) : Relation.TransGen edge v w := by
  induction body generalizing v with
  | nil => exact .single (List.isChain_pair.mp h)
  | cons u body ih =>
    rw [List.cons_append, List.cons_append, List.isChain_cons_cons] at h
    exact .head h.1 (ih h.2)

theorem IsLoop.not_acyclic {edge : Nat → Nat → Prop} {loop : List Nat} (h : IsLoop edge loop) :
    ¬ Acyclic edge := by
  obtain ⟨v, body, rfl, -, hchain⟩ := h
  exact fun hacyclic => hacyclic v (transGen_of_isChain hchain)

namespace Search

variable {vertex : Nat → Prop} {next : Nat → List Nat} {size : Nat} {path : List Nat}
variable {s t u : Search} {v w : Nat}

/-! ## Paths -/

/-- A walk without repetitions. -/
structure IsPath (vertex : Nat → Prop) (next : Nat → List Nat) (path : List Nat) : Prop where
  nodup : path.Nodup
  chain : path.IsChain (Edge vertex next)
  vertex : ∀ u ∈ path, vertex u

theorem isPath_singleton (hv : vertex v) : IsPath vertex next [v] :=
  ⟨List.nodup_singleton v, List.isChain_singleton v, by simpa using hv⟩

theorem IsPath.length_le (h : IsPath vertex next path) (hsize : ∀ v, vertex v → v < size) :
    path.length ≤ size := by
  have hsub : path ⊆ List.range size := fun u hu => List.mem_range.mpr (hsize u (h.vertex u hu))
  simpa using (h.nodup.subperm hsub).length_le

theorem IsPath.concat (h : IsPath vertex next (path ++ [v])) (he : w ∈ next v) (hw : vertex w)
    (hmem : w ∉ path ++ [v]) : IsPath vertex next (path ++ [v] ++ [w]) := by
  have hv : vertex v := h.vertex v (by simp)
  refine ⟨?_, ?_, ?_⟩
  · rw [List.nodup_append]
    refine ⟨h.nodup, List.nodup_singleton w, fun a ha b hb => ?_⟩
    rintro rfl
    exact hmem (List.mem_singleton.mp hb ▸ ha)
  · rw [List.isChain_append]
    refine ⟨h.chain, List.isChain_singleton w, fun a ha b hb => ?_⟩
    obtain rfl : v = a := by simpa using ha
    obtain rfl : w = b := by simpa using hb
    exact ⟨hv, he⟩
  · intro u hu
    rcases List.mem_append.mp hu with hu | hu
    · exact h.vertex u hu
    · exact List.mem_singleton.mp hu ▸ hw

/-- The part of a path from one of its vertices on starts there and ends where the path ends. -/
theorem dropWhile_path (hw : w ∈ path ++ [v]) :
    ∃ body, (path ++ [v]).dropWhile (· != w) = w :: body ∧ (w :: body) <:+ path ++ [v] ∧
      [v] <:+ w :: body := by
  obtain ⟨before, body, hsplit, hbefore⟩ := List.eq_append_cons_of_mem hw
  have hpos : ∀ a ∈ before, (a != w) = true := fun a ha => by
    simpa using fun e : a = w => hbefore (e ▸ ha)
  have hsuffix : (w :: body) <:+ path ++ [v] := hsplit ▸ List.suffix_append _ _
  refine ⟨body, ?_, hsuffix, ?_⟩
  · rw [hsplit, List.dropWhile_append_of_pos hpos, List.dropWhile_cons_of_neg (by simp)]
  · exact List.suffix_of_suffix_length_le (List.suffix_append _ _) hsuffix (by simp)

/-- The edge from the end of a path back to one of its vertices closes a loop. -/
theorem IsPath.isLoop (h : IsPath vertex next (path ++ [v])) (he : w ∈ next v)
    (hw : w ∈ path ++ [v]) :
    IsLoop (Edge vertex next) ((path ++ [v]).dropWhile (· != w) ++ [w]) := by
  obtain ⟨body, hdrop, hsuffix, hend⟩ := dropWhile_path hw
  refine ⟨w, body, by rw [hdrop], hsuffix.nodup h.nodup, ?_⟩
  rw [hdrop, List.isChain_append]
  refine ⟨h.chain.suffix hsuffix, List.isChain_singleton w, fun a ha b hb => ?_⟩
  obtain ⟨before, hbefore⟩ := hend
  obtain rfl : v = a := by rw [← hbefore] at ha; simpa using ha
  obtain rfl : w = b := by simpa using hb
  exact ⟨h.vertex v (by simp), he⟩

/-! ## The invariant -/

/-- Whether an edge ends a reported loop. -/
def Closes (s : Search) (u w : Nat) : Prop := ∃ loop ∈ s.loops, [u, w] <:+ loop

theorem Closes.mono (h : s.Closes v w) (hle : s.loops <+: t.loops) : t.Closes v w := by
  obtain ⟨loop, hmem, hend⟩ := h
  exact ⟨loop, hle.subset hmem, hend⟩

/-- The invariant of a search: all reports are loops, and an edge out of a vertex that is done with
leads to one done with earlier or closes a reported loop. -/
structure Ordered (vertex : Nat → Prop) (next : Nat → List Nat) (s : Search) : Prop where
  isLoop : ∀ loop ∈ s.loops, IsLoop (Edge vertex next) loop
  nodup : s.done.Nodup
  edge : ∀ later u earlier, s.done = later ++ u :: earlier →
    ∀ w ∈ next u, w ∈ earlier ∨ s.Closes u w

theorem ordered_empty : Ordered vertex next {} := by
  refine ⟨by simp, List.nodup_nil, fun later u earlier h => ?_⟩
  simp at h

/-- The edges that close no reported loop run against the order of the search. -/
theorem Ordered.acyclic (h : s.Ordered vertex next) :
    Acyclic fun u w => u ∈ s.done ∧ w ∈ next u ∧ ¬ s.Closes u w := by
  apply acyclic_of_rank fun v => s.done.idxOf v
  rintro u w ⟨hu, hw, hopen⟩
  obtain ⟨later, earlier, hsplit, hlater⟩ := List.eq_append_cons_of_mem hu
  have hearlier : w ∈ earlier := (h.edge later u earlier hsplit w hw).resolve_right hopen
  have hnodup := h.nodup
  rw [hsplit, List.nodup_append] at hnodup
  have hwlater : w ∉ later := fun hmem => hnodup.2.2 w hmem w (by simp [hearlier]) rfl
  have hne : u ≠ w := by
    rintro rfl
    exact (List.nodup_cons.mp hnodup.2.1).1 hearlier
  simp only [hsplit, List.idxOf_append_of_notMem hlater, List.idxOf_append_of_notMem hwlater,
    List.idxOf_cons_self, List.idxOf_cons_ne _ hne]
  omega

theorem Ordered.report (h : s.Ordered vertex next) (hpath : IsPath vertex next (path ++ [v]))
    (he : w ∈ next v) (hw : w ∈ path ++ [v]) : (s.report (path ++ [v]) w).Ordered vertex next := by
  refine ⟨?_, h.nodup, ?_⟩
  · intro loop hmem
    rcases List.mem_append.mp hmem with hmem | hmem
    · exact h.isLoop loop hmem
    · exact List.mem_singleton.mp hmem ▸ hpath.isLoop he hw
  · intro later u earlier hsplit x hx
    exact (h.edge later u earlier hsplit x hx).imp_right fun hc =>
      hc.mono (List.prefix_append _ _)

theorem closes_report (s : Search) (hw : w ∈ path ++ [v]) :
    (s.report (path ++ [v]) w).Closes v w := by
  obtain ⟨body, hdrop, -, before, hbefore⟩ := dropWhile_path hw
  refine ⟨w :: body ++ [w], by simp [Search.report, hdrop], before, ?_⟩
  rw [← hbefore]
  simp

theorem Ordered.finish (h : s.Ordered vertex next) (hv : v ∉ s.done)
    (hnext : ∀ w ∈ next v, w ∈ s.done ∨ s.Closes v w) : (s.finish v).Ordered vertex next := by
  refine ⟨h.isLoop, List.nodup_cons.mpr ⟨hv, h.nodup⟩, ?_⟩
  intro later u earlier hsplit w hw
  cases later with
  | nil =>
    obtain ⟨rfl, rfl⟩ : v = u ∧ s.done = earlier := by simpa [Search.finish] using hsplit
    exact hnext w hw
  | cons x later =>
    have hsplit' : s.done = later ++ u :: earlier := (List.cons.inj hsplit).2
    exact h.edge later u earlier hsplit' w hw

/-! ## What a search adds -/

/-- What a search below the end of a path keeps and adds: the vertices on the path are not done
with, and nothing already found is given up. -/
structure Grows (vertex : Nat → Prop) (next : Nat → List Nat) (path : List Nat) (s t : Search) :
    Prop where
  ordered : t.Ordered vertex next
  fresh : ∀ u ∈ path, u ∉ t.done
  done : s.done <:+ t.done
  loops : s.loops <+: t.loops

theorem Grows.refl (hord : s.Ordered vertex next) (hfresh : ∀ u ∈ path, u ∉ s.done) :
    Grows vertex next path s s := ⟨hord, hfresh, List.suffix_refl _, List.prefix_refl _⟩

theorem Grows.trans (h : Grows vertex next path s t) (h' : Grows vertex next path t u) :
    Grows vertex next path s u :=
  ⟨h'.ordered, h'.fresh, h.done.trans h'.done, h.loops.trans h'.loops⟩

/-- A fold of growing steps grows, and what each step reaches for its vertex holds at the end. -/
theorem Grows.foldl {step : Search → Nat → Search} (reached : Nat → Search → Prop)
    {vs : List Nat} (hmono : ∀ v s t, Grows vertex next path s t → reached v s → reached v t)
    (hstep : ∀ s, s.Ordered vertex next → (∀ u ∈ path, u ∉ s.done) → ∀ v ∈ vs,
      Grows vertex next path s (step s v) ∧ reached v (step s v))
    (hord : s.Ordered vertex next) (hfresh : ∀ u ∈ path, u ∉ s.done) :
    Grows vertex next path s (vs.foldl step s) ∧ ∀ v ∈ vs, reached v (vs.foldl step s) := by
  induction vs generalizing s with
  | nil => exact ⟨.refl hord hfresh, by simp⟩
  | cons v vs ih =>
    obtain ⟨hgrow, hv⟩ := hstep s hord hfresh v (by simp)
    obtain ⟨hrest, hvs⟩ := ih (fun s hs hf x hx => hstep s hs hf x (List.mem_cons_of_mem v hx))
      hgrow.ordered hgrow.fresh
    refine ⟨hgrow.trans hrest, fun x hx => ?_⟩
    rcases List.mem_cons.mp hx with rfl | hx
    · exact hmono x _ _ hrest hv
    · exact hvs x hx

/-- **The search below a vertex** is done with it in the end, with no vertex on the path. The depth
is enough: a path that leaves none would have more vertices than there are. -/
theorem explore_spec (hsize : ∀ v, vertex v → v < size)
    (hnext : ∀ u, vertex u → ∀ w ∈ next u, vertex w) {depth : Nat}
    (hdepth : size ≤ depth + path.length) (hpath : IsPath vertex next (path ++ [v]))
    (hord : s.Ordered vertex next) (hfresh : ∀ u ∈ path ++ [v], u ∉ s.done) :
    Grows vertex next path s (explore next depth path s v) ∧
      v ∈ (explore next depth path s v).done := by
  induction depth generalizing path s v with
  | zero =>
    have := hpath.length_le hsize
    simp at this
    omega
  | succ depth ih =>
    have hstep : ∀ s : Search, s.Ordered vertex next → (∀ u ∈ path ++ [v], u ∉ s.done) →
        ∀ w ∈ next v,
          let t := if w ∈ path ++ [v] then s.report (path ++ [v]) w
            else if w ∈ s.done then s else explore next depth (path ++ [v]) s w
          Grows vertex next (path ++ [v]) s t ∧ (w ∈ t.done ∨ t.Closes v w) := by
      intro s hord hfresh w hw
      dsimp only
      split
      case isTrue hmem =>
        refine ⟨⟨hord.report hpath hw hmem, hfresh, List.suffix_refl _,
          List.prefix_append _ _⟩, .inr (closes_report s hmem)⟩
      case isFalse hmem =>
        split
        case isTrue hdone => exact ⟨.refl hord hfresh, .inl hdone⟩
        case isFalse hdone =>
          have hvertex : vertex w := hnext v (hpath.vertex v (by simp)) w hw
          obtain ⟨hgrow, hin⟩ := ih (by simp; omega) (hpath.concat hw hvertex hmem) hord
            (fun u hu => by
              rcases List.mem_append.mp hu with hu | hu
              · exact hfresh u hu
              · exact List.mem_singleton.mp hu ▸ hdone)
          exact ⟨hgrow, .inl hin⟩
    have hmono : ∀ w (s t : Search), Grows vertex next (path ++ [v]) s t →
        w ∈ s.done ∨ s.Closes v w → w ∈ t.done ∨ t.Closes v w :=
      fun w s t hgrow h => h.imp (hgrow.done.subset ·) (·.mono hgrow.loops)
    obtain ⟨hgrow, hall⟩ := Grows.foldl (fun w s => w ∈ s.done ∨ s.Closes v w) hmono hstep hord hfresh
    rw [explore]
    refine ⟨⟨hgrow.ordered.finish (hgrow.fresh v (by simp)) hall, ?_, ?_, hgrow.loops⟩, ?_⟩
    · intro u hu hmem
      rcases List.mem_cons.mp hmem with rfl | hmem
      · have hnodup := hpath.nodup
        rw [List.nodup_append] at hnodup
        exact hnodup.2.2 u hu u (by simp) rfl
      · exact hgrow.fresh u (List.mem_append_left _ hu) hmem
    · exact hgrow.done.trans (List.suffix_cons _ _)
    · exact List.mem_cons_self

end Search

/-! ## The whole search -/

variable {size : Nat} {next : Nat → List Nat}

/-- Edges between chosen vertices do not leave the vertices of the graph. -/
theorem chosen_closed {chosen : Nat → Bool} (hnext : ∀ u < size, ∀ w ∈ next u, w < size) :
    ∀ u, u < size ∧ chosen u → ∀ w ∈ (next u).filter chosen, w < size ∧ chosen w := by
  intro u hu w hw
  obtain ⟨hmem, hchosen⟩ := List.mem_filter.mp hw
  exact ⟨hnext u hu.1 w hmem, hchosen⟩

/-- The search ends, done with every chosen vertex. -/
theorem exists_search (chosen : Nat → Bool) (hnext : ∀ u < size, ∀ w ∈ next u, w < size) :
    ∃ s : Search, s.loops = findLoops size chosen next ∧
      s.Ordered (fun v => v < size ∧ chosen v) (fun v => (next v).filter chosen) ∧
      ∀ v, v < size ∧ chosen v → v ∈ s.done := by
  let vertex := fun v => v < size ∧ chosen v = true
  have hstep : ∀ s : Search, s.Ordered vertex (fun v => (next v).filter chosen) →
      (∀ u ∈ ([] : List Nat), u ∉ s.done) → ∀ v ∈ List.range size,
        let t := if chosen v && !s.done.contains v then
            Search.explore (fun v => (next v).filter chosen) size [] s v
          else s
        Search.Grows vertex (fun v => (next v).filter chosen) [] s t ∧
          (chosen v = true → v ∈ t.done) := by
    intro s hord hfresh v hv
    dsimp only
    split
    case isTrue h =>
      have hcond : chosen v = true ∧ v ∉ s.done := by simpa using h
      have hpath : Search.IsPath vertex (fun v => (next v).filter chosen) ([] ++ [v]) :=
        Search.isPath_singleton ⟨List.mem_range.mp hv, hcond.1⟩
      obtain ⟨hgrow, hin⟩ := Search.explore_spec (fun _ hu => hu.1) (chosen_closed hnext)
        (Nat.le_refl size) hpath hord (by simpa using hcond.2)
      exact ⟨hgrow, fun _ => hin⟩
    case isFalse h =>
      refine ⟨.refl hord hfresh, fun hchosen => ?_⟩
      simpa [hchosen] using h
  obtain ⟨hgrow, hall⟩ := Search.Grows.foldl (fun v s => chosen v = true → v ∈ s.done)
    (fun v s t hst h hc => hst.done.subset (h hc)) hstep Search.ordered_empty (by simp)
  exact ⟨_, rfl, hgrow.ordered, fun v hv => hall v (List.mem_range.mpr hv.1) hv.2⟩

/-- **The search finds a loop if there is one**, and reports loops only. -/
theorem findLoops_eq_nil_iff (chosen : Nat → Bool) (hnext : ∀ u < size, ∀ w ∈ next u, w < size) :
    findLoops size chosen next = [] ↔
      Acyclic fun u w => u < size ∧ chosen u ∧ w ∈ next u ∧ chosen w := by
  obtain ⟨s, hloops, hord, hdone⟩ := exists_search chosen hnext
  rw [← hloops]
  constructor
  · intro hnil
    apply hord.acyclic.mono
    rintro u w ⟨hu, hcu, hw, hcw⟩
    refine ⟨hdone u ⟨hu, hcu⟩, List.mem_filter.mpr ⟨hw, hcw⟩, ?_⟩
    simp [Search.Closes, hnil]
  · intro hacyclic
    rw [List.eq_nil_iff_forall_not_mem]
    intro loop hmem
    apply (hord.isLoop loop hmem).not_acyclic
    apply hacyclic.mono
    rintro u w ⟨⟨hu, hcu⟩, hw⟩
    obtain ⟨hmem, hcw⟩ := List.mem_filter.mp hw
    exact ⟨hu, hcu, hmem, hcw⟩

end SyncCircuit.Graph
