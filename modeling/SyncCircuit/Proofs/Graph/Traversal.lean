import SyncCircuit.Graph.Traversal
import SyncCircuit.Proofs.Graph.Search

/-!
# What the search on a stack finds

The search for loops on a stack finds what `findLoops` finds, since a step keeps its marks and its
stack in line with the path and the finished vertices there (`Traversal.loops?_eq`). So it misses no
lookup, and what it reports are loops of the graph, with at least one if there is one.

## Main definitions

* `Traversal.At` — a traversal stands where a search stands.
-/
namespace SyncCircuit.Graph

namespace Traversal

/-! ## Single steps -/

section Step

variable {next : Nat → List Nat} {t t' : Traversal} {v w : Nat} {ws : List Nat} {below : List Frame}

theorem run_of_isEmpty (h : t.stack = []) : t.run next = some t := by rw [run, dif_pos h]

theorem run_of_step (hstack : t.stack ≠ []) (hstep : t.step next = some t') :
    t.run next = t'.run next := by
  rw [run, dif_neg hstack]
  split
  · rename_i hnone
    rw [hstep] at hnone
    cases hnone
  · rename_i t'' hsome
    obtain rfl := Option.some.inj (hstep.symm.trans hsome)
    rfl

theorem run_leave (h : t.stack = ⟨v, []⟩ :: below) :
    t.run next = ({ t with marks := t.marks.set v .done, stack := below } : Traversal).run next :=
  run_of_step (by simp [h]) (by simp [step, h])

theorem run_unvisited (h : t.stack = ⟨v, w :: ws⟩ :: below) (hw : t.marks[w]? = some .unvisited) :
    t.run next =
      (({ t with stack := ⟨v, ws⟩ :: below } : Traversal).enter next w).run next :=
  run_of_step (by simp [h]) (by simp [step, h, hw])

theorem run_onPath (h : t.stack = ⟨v, w :: ws⟩ :: below) (hw : t.marks[w]? = some .onPath) :
    t.run next =
      ({ t with
        stack := ⟨v, ws⟩ :: below
        loops := t.loops ++ [t.loopTo w] } : Traversal).run next :=
  run_of_step (by simp [h]) (by simp [step, h, hw])

theorem run_done (h : t.stack = ⟨v, w :: ws⟩ :: below) (hw : t.marks[w]? = some .done) :
    t.run next = ({ t with stack := ⟨v, ws⟩ :: below } : Traversal).run next :=
  run_of_step (by simp [h]) (by simp [step, h, hw])

end Step

/-! ## The stack and the path -/

variable {size : Nat} {vertex : Nat → Prop} {next : Nat → List Nat} {path : List Nat} {v w : Nat}
variable {s : Search} {t t' : Traversal} {ws : List Nat} {below : List Frame}

/-- The mark that a vertex has while a search is on a path. -/
def markOf (path : List Nat) (s : Search) (u : Nat) : Mark :=
  if u ∈ path then .onPath else if u ∈ s.done then .done else .unvisited

/-- A traversal stands where a search stands that is on a path. -/
structure At (size : Nat) (t : Traversal) (path : List Nat) (s : Search) : Prop where
  length : t.marks.length = size
  marks : ∀ u < size, t.marks[u]? = some (markOf path s u)
  loops : t.loops = s.loops
  path : t.path = path

theorem path_cons (h : t.stack = ⟨v, ws⟩ :: below) :
    t.path = below.reverse.map (·.vertex) ++ [v] := by
  rw [path, h, List.reverse_cons, List.map_append, List.map_singleton]

/-- The successors that are left do not matter to the place. -/
theorem At.setPending (h : t.At size path s) {pending : List Nat}
    (hstack : t.stack = ⟨v, pending⟩ :: below)
    (ws : List Nat) : ({ t with stack := ⟨v, ws⟩ :: below } : Traversal).At size path s :=
  ⟨h.length, h.marks, h.loops, by rw [← h.path, path_cons hstack, path_cons rfl]⟩

theorem At.enter (h : t.At size path s) (hw : w < size) :
    (t.enter next w).At size (path ++ [w]) s := by
  refine ⟨?_, fun u hu => ?_, h.loops, ?_⟩
  · rw [Traversal.enter, List.length_set, h.length]
  · rw [Traversal.enter, List.getElem?_set]
    by_cases huw : w = u
    · rw [if_pos huw, if_pos (h.length ▸ hw), markOf, if_pos (by simp [huw])]
    · have hmem : u ∈ path ++ [w] ↔ u ∈ path := by simp [Ne.symm huw]
      rw [if_neg huw, h.marks u hu, markOf, markOf, if_congr hmem rfl rfl]
  · rw [path_cons rfl, ← h.path, Traversal.path]

theorem At.leave (h : t.At size (path ++ [v]) s) (hstack : t.stack = ⟨v, []⟩ :: below)
    (hnodup : (path ++ [v]).Nodup) :
    ({ t with marks := t.marks.set v .done, stack := below } : Traversal).At size path
      (s.finish v) := by
  refine ⟨?_, fun u hu => ?_, h.loops, ?_⟩
  · rw [List.length_set, h.length]
  · have hv : v ∉ path := by
      rw [List.nodup_append] at hnodup
      exact fun hmem => hnodup.2.2 v hmem v (List.mem_singleton_self v) rfl
    rw [List.getElem?_set]
    by_cases huv : v = u
    · subst huv
      have hdone : v ∈ (s.finish v).done := List.mem_cons_self
      rw [if_pos rfl, if_pos (h.length ▸ hu), markOf, if_neg hv, if_pos hdone]
    · have hmem : u ∈ path ++ [v] ↔ u ∈ path := by simp [Ne.symm huv]
      have hdone : u ∈ (s.finish v).done ↔ u ∈ s.done := by simp [Search.finish, Ne.symm huv]
      rw [if_neg huv, h.marks u hu, markOf, markOf, if_congr hmem rfl rfl, if_congr hdone rfl rfl]
  · have hpath := h.path
    rw [path_cons hstack] at hpath
    exact (List.append_inj' hpath rfl).1

/-- The first place of a vertex on the path is where the reported loop starts. -/
theorem At.loopTo (h : t.At size path s) (hw : w ∈ path) :
    t.loopTo w = path.dropWhile (· != w) ++ [w] := by
  obtain ⟨before, after, hsplit, hbefore⟩ := List.eq_append_cons_of_mem hw
  have hpos : ∀ a ∈ before, (a != w) = true := fun a ha => by
    simpa using fun e : a = w => hbefore (e ▸ ha)
  have hidx : path.findIdx? (· == w) = some before.length := by
    rw [hsplit, List.findIdx?_append,
      List.findIdx?_eq_none_iff.mpr fun a ha => by simpa using hpos a ha]
    simp [List.findIdx?_cons]
  rw [Traversal.loopTo, h.path, hidx, Option.getD_some, hsplit, List.drop_left,
    List.dropWhile_append_of_pos hpos, List.dropWhile_cons_of_neg (by simp)]

theorem At.report (h : t.At size path s) {pending : List Nat}
    (hstack : t.stack = ⟨v, pending⟩ :: below)
    (hw : w ∈ path) (ws : List Nat) :
    ({ t with
      stack := ⟨v, ws⟩ :: below
      loops := t.loops ++ [t.loopTo w] } : Traversal).At size path (s.report path w) := by
  refine ⟨h.length, h.marks, ?_, (h.setPending hstack ws).path⟩
  rw [h.loops, h.loopTo hw, Search.report]

/-- **A traversal follows the search**: the successors of the end of the path are explored, and then
it is left. The depth is enough, as it is for the search. -/
theorem At.exists_run (hsize : ∀ v, vertex v → v < size)
    (hnext : ∀ u, vertex u → ∀ w ∈ next u, vertex w) {depth : Nat} {pending : List Nat}
    (hdepth : size ≤ depth + path.length + 1) (hat : t.At size (path ++ [v]) s)
    (hstack : t.stack = ⟨v, pending⟩ :: below) (hpath : Search.IsPath vertex next (path ++ [v]))
    (hpending : ∀ w ∈ pending, w ∈ next v) :
    ∃ t' : Traversal, t.run next = t'.run next ∧ t'.stack = below ∧
      t'.At size path ((pending.foldl
        (fun s w =>
          if w ∈ path ++ [v] then s.report (path ++ [v]) w
          else if w ∈ s.done then s
          else Search.explore next depth (path ++ [v]) s w) s).finish v) := by
  -- The outer induction is on the depth below the path, the inner one on the successors.
  induction depth using Nat.strongRecOn generalizing path v pending s t below with
  | ind depth ih =>
    induction pending generalizing s t with
    | nil => exact ⟨_, run_leave hstack, rfl, hat.leave hstack hpath.nodup⟩
    | cons w ws ihw =>
      have hedge : w ∈ next v := hpending w List.mem_cons_self
      have hws : ∀ x ∈ ws, x ∈ next v := fun x hx => hpending x (List.mem_cons_of_mem w hx)
      have hvertex : vertex w := hnext v (hpath.vertex v (by simp)) w hedge
      have hmark := hat.marks w (hsize w hvertex)
      rw [List.foldl_cons]
      by_cases hmem : w ∈ path ++ [v]
      · rw [markOf, if_pos hmem] at hmark
        rw [if_pos hmem, run_onPath hstack hmark]
        exact ihw (hat.report hstack hmem ws) rfl hws
      · rw [markOf, if_neg hmem] at hmark
        rw [if_neg hmem]
        by_cases hdone : w ∈ s.done
        · rw [if_pos hdone] at hmark
          rw [if_pos hdone, run_done hstack hmark]
          exact ihw (hat.setPending hstack ws) rfl hws
        · rw [if_neg hdone] at hmark
          -- The path goes on to a new vertex, so there is some depth left.
          have hlonger := hpath.concat hedge hvertex hmem
          have hlength := hlonger.length_le hsize
          simp only [List.length_append, List.length_singleton] at hlength
          obtain ⟨depth, rfl⟩ : ∃ d, depth = d + 1 := ⟨depth - 1, by omega⟩
          obtain ⟨t', hrun, hstack', hat'⟩ := ih depth (by omega) (by simp; omega)
            ((hat.setPending hstack ws).enter (hsize w hvertex)) rfl hlonger fun _ hx => hx
          rw [if_neg hdone, run_unvisited hstack hmark, hrun]
          exact ihw hat' hstack' hws

/-! ## All roots -/

variable (chosen : Nat → Bool)

/-- From one root, the traversal follows the search to its end. -/
theorem At.exists_visit (hnext : ∀ u < size, ∀ w ∈ next u, w < size) (hat : t.At size [] s)
    (hv : v < size) :
    ∃ t', t.visit chosen (fun u => (next u).filter chosen) v = some t' ∧
      t'.At size [] (if chosen v && !s.done.contains v then
        Search.explore (fun u => (next u).filter chosen) size [] s v else s) := by
  have hstack : t.stack = [] := by
    have hpath := hat.path
    rw [Traversal.path, List.map_eq_nil_iff, List.reverse_eq_nil_iff] at hpath
    exact hpath
  have hmark := hat.marks v hv
  rw [markOf, if_neg List.not_mem_nil] at hmark
  by_cases hroot : chosen v = true ∧ v ∉ s.done
  · -- The root is the whole path, and all but the root is left for the depth.
    rw [if_neg hroot.2] at hmark
    obtain ⟨depth, rfl⟩ : ∃ d, size = d + 1 := ⟨size - 1, by omega⟩
    have hpath : Search.IsPath (fun u => u < depth + 1 ∧ chosen u = true)
        (fun u => (next u).filter chosen) ([] ++ [v]) := Search.isPath_singleton ⟨hv, hroot.1⟩
    have hdepth : depth + 1 ≤ depth + ([] : List Nat).length + 1 := Nat.le_refl _
    have hentered : (t.enter (fun u => (next u).filter chosen) v).At (depth + 1) ([] ++ [v]) s :=
      hat.enter hv
    obtain ⟨t', hrun, hempty, hat'⟩ := hentered.exists_run (fun _ hu => hu.1)
      (chosen_closed hnext) hdepth rfl hpath fun _ hw => hw
    refine ⟨t', ?_, ?_⟩
    · rw [visit, hmark]
      dsimp only
      rw [if_pos ⟨rfl, hroot.1⟩, hrun, run_of_isEmpty (hempty.trans hstack)]
    · rw [if_pos (by simpa using hroot)]
      exact hat'
  · refine ⟨t, ?_, ?_⟩
    · rw [visit, hmark]
      dsimp only
      rw [if_neg]
      rintro ⟨hnew, hchosen⟩
      by_cases hdone : v ∈ s.done
      · rw [if_pos hdone] at hnew
        cases hnew
      · exact hroot ⟨hchosen, hdone⟩
    · rw [if_neg (by simpa using hroot)]
      exact hat

theorem At.exists_foldlM (hnext : ∀ u < size, ∀ w ∈ next u, w < size) (hat : t.At size [] s)
    {roots : List Nat} (hroots : ∀ v ∈ roots, v < size) :
    ∃ t', roots.foldlM (visit chosen fun u => (next u).filter chosen) t = some t' ∧
      t'.At size [] (roots.foldl (fun s v => if chosen v && !s.done.contains v then
        Search.explore (fun u => (next u).filter chosen) size [] s v else s) s) := by
  induction roots generalizing t s with
  | nil => exact ⟨t, rfl, hat⟩
  | cons v roots ih =>
    obtain ⟨t', hvisit, hat'⟩ := hat.exists_visit chosen hnext (hroots v List.mem_cons_self)
    obtain ⟨t'', hrest, hat''⟩ := ih hat' fun u hu => hroots u (List.mem_cons_of_mem v hu)
    refine ⟨t'', ?_, hat''⟩
    rw [List.foldlM_cons, hvisit]
    exact hrest

/-- **The traversal ends**, with a mark for every vertex that it looks up, and reports the loops that
the search reports. -/
theorem loops?_eq (hnext : ∀ u < size, ∀ w ∈ next u, w < size) :
    loops? size chosen next = some (findLoops size chosen next) := by
  have hat : (⟨List.replicate size .unvisited, [], []⟩ : Traversal).At size [] {} := by
    refine ⟨List.length_replicate, fun u hu => ?_, rfl, rfl⟩
    rw [List.getElem?_replicate, if_pos hu]
    simp [markOf]
  obtain ⟨t', hrun, hat'⟩ := hat.exists_foldlM chosen hnext fun v hv => List.mem_range.mp hv
  rw [loops?, hrun, Option.map_some, hat'.loops]
  rfl

end Traversal

/-! ## What is reported, and what is left -/

section Loops

variable {edge : Nat → Nat → Prop} {loop : List Nat}

theorem IsLoop.mono {edge' : Nat → Nat → Prop} (h : IsLoop edge loop)
    (hle : ∀ u w, edge u w → edge' u w) : IsLoop edge' loop := by
  obtain ⟨v, body, hloop, hnodup, hchain⟩ := h
  exact ⟨v, body, hloop, hnodup, hchain.imp hle⟩

/-- An edge leads on from every vertex of a loop. -/
theorem IsLoop.exists_edge (h : IsLoop edge loop) {u : Nat} (hu : u ∈ loop) : ∃ w, edge u w := by
  obtain ⟨v, body, rfl, -, hchain⟩ := h
  have hmem : u ∈ v :: body := by
    rcases List.mem_append.mp hu with hu | hu
    · exact hu
    · exact List.mem_singleton.mp hu ▸ List.mem_cons_self
  obtain ⟨before, after, hsplit⟩ := List.append_of_mem hmem
  rw [hsplit, List.append_assoc, List.cons_append] at hchain
  have hrest := (List.isChain_append.mp hchain).2.1
  cases after with
  | nil => exact ⟨v, (List.isChain_cons_cons.mp hrest).1⟩
  | cons w after => exact ⟨w, (List.isChain_cons_cons.mp hrest).1⟩

/-- A closed walk uses one of the edges without which there is none. -/
theorem exists_cut_of_isChain {cut : Nat → Nat → Prop}
    (h : Acyclic fun u w => edge u w ∧ ¬ cut u w) {v : Nat} {body : List Nat}
    (hwalk : (v :: body ++ [v]).IsChain edge) :
    ∃ u w, [u, w] <:+: v :: body ++ [v] ∧ cut u w := by
  by_contra hnone
  have hleft : (v :: body ++ [v]).IsChain fun u w => edge u w ∧ ¬ cut u w := by
    rw [List.isChain_iff_forall_rel_of_append_cons_cons] at hwalk ⊢
    intro u w before after hsplit
    refine ⟨hwalk hsplit, fun hcut => hnone ⟨u, w, ⟨before, after, ?_⟩, hcut⟩⟩
    rw [hsplit, List.append_assoc]
    rfl
  exact h v (transGen_of_isChain hleft)

end Loops

/-- An edge between chosen vertices. -/
def ChosenEdge (size : Nat) (chosen : Nat → Bool) (next : Nat → List Nat) (u w : Nat) : Prop :=
  u < size ∧ chosen u ∧ w ∈ next u ∧ chosen w

/-- The edge that closes one of some loops. -/
def Closing (loops : List (List Nat)) (u w : Nat) : Prop := ∃ loop ∈ loops, [u, w] <:+ loop

theorem chosenEdge_of_edge {size : Nat} {chosen : Nat → Bool} {next : Nat → List Nat} {u w : Nat}
    (h : Edge (fun v => v < size ∧ chosen v) (fun v => (next v).filter chosen) u w) :
    ChosenEdge size chosen next u w := by
  obtain ⟨⟨hu, hcu⟩, hw⟩ := h
  obtain ⟨hmem, hcw⟩ := List.mem_filter.mp hw
  exact ⟨hu, hcu, hmem, hcw⟩

/-- **What is reported** are loops of chosen vertices. -/
theorem isLoop_of_mem_findLoops {size : Nat} {chosen : Nat → Bool} {next : Nat → List Nat}
    (hnext : ∀ u < size, ∀ w ∈ next u, w < size) {loop : List Nat}
    (hmem : loop ∈ findLoops size chosen next) :
    IsLoop (ChosenEdge size chosen next) loop ∧ ∀ v ∈ loop, v < size ∧ chosen v := by
  obtain ⟨s, hloops, hord, -⟩ := exists_search chosen hnext
  have hloop := (hord.isLoop loop (hloops ▸ hmem)).mono fun _ _ => chosenEdge_of_edge
  refine ⟨hloop, fun v hv => ?_⟩
  obtain ⟨w, hvw⟩ := hloop.exists_edge hv
  exact ⟨hvw.1, hvw.2.1⟩

/-- **The search is sound and complete.** On every finite graph the traversal ends without a missing
lookup, and its report is that of the search. What it reports are loops of chosen vertices. There are
none exactly if the chosen vertices have no closed walk; and without the edges that close a reported
loop no closed walk is left, so every closed walk uses one of these edges. -/
theorem traversal_sound_and_complete (size : Nat) (chosen : Nat → Bool) (next : Nat → List Nat)
    (hnext : ∀ u < size, ∀ w ∈ next u, w < size) :
    ∃ loops, Traversal.loops? size chosen next = some loops ∧ findLoops size chosen next = loops ∧
      (∀ loop ∈ loops, IsLoop (ChosenEdge size chosen next) loop ∧
        ∀ v ∈ loop, v < size ∧ chosen v) ∧
      (loops = [] ↔ Acyclic (ChosenEdge size chosen next)) ∧
      Acyclic (fun u w => ChosenEdge size chosen next u w ∧ ¬ Closing loops u w) ∧
      ∀ v body, (v :: body ++ [v]).IsChain (ChosenEdge size chosen next) →
        ∃ u w, [u, w] <:+: v :: body ++ [v] ∧ Closing loops u w := by
  obtain ⟨s, hloops, hord, hdone⟩ := exists_search chosen hnext
  have hleft : Acyclic fun u w =>
      ChosenEdge size chosen next u w ∧ ¬ Closing (findLoops size chosen next) u w := by
    apply hord.acyclic.mono
    rintro u w ⟨⟨hu, hcu, hw, hcw⟩, hopen⟩
    rw [← hloops] at hopen
    exact ⟨hdone u ⟨hu, hcu⟩, List.mem_filter.mpr ⟨hw, hcw⟩, hopen⟩
  exact ⟨_, Traversal.loops?_eq chosen hnext, rfl, fun loop => isLoop_of_mem_findLoops hnext,
    findLoops_eq_nil_iff chosen hnext, hleft, fun v body => exists_cut_of_isChain hleft⟩

/-- Two rings that share an edge, a vertex that is its own successor, and a vertex that leads from one
to the other. -/
def rings (v : Nat) : List Nat := [[1], [2, 0], [0, 4], [3, 4], [0, 3]].getD v []

theorem rings_sound_and_complete :
    (∀ u < 5, ∀ w ∈ rings u, w < 5) ∧
    ∃ loops, Traversal.loops? 5 (· != 4) rings = some loops ∧
      loops = [[0, 1, 2, 0], [0, 1, 0], [3, 3]] ∧
      Acyclic (fun u w => ChosenEdge 5 (· != 4) rings u w ∧ ¬ Closing loops u w) ∧
      ∃ u w, [u, w] <:+: [1, 2, 0, 1] ∧ Closing loops u w := by
  have hnext : ∀ u < 5, ∀ w ∈ rings u, w < 5 := by decide
  obtain ⟨loops, hrun, hsame, -, -, hleft, hwalks⟩ :=
    traversal_sound_and_complete 5 (· != 4) rings hnext
  refine ⟨hnext, loops, hrun, hsame ▸ by decide, hleft, hwalks 1 [2, 0] ?_⟩
  simp [ChosenEdge, rings]

end SyncCircuit.Graph
