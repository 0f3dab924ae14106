/-!
# The search on a stack

The search for loops, one step at a time: the path is kept on a stack, every vertex on it with its
successors that have not been looked at, and every vertex has a mark that says whether it is on the
path or done with. A step looks at one successor, or leaves the end of the path. Every step uses up a
vertex without a mark or a successor, so the traversal ends (`Traversal.step_decreases`).

## Main definitions

* `Traversal.step` — one step.
* `Traversal.run` — steps until the stack is empty.
* `Traversal.loops?` — the loops that the traversal reports.
-/
namespace SyncCircuit.Graph

/-- What a traversal knows of a vertex. -/
inductive Mark where
  | unvisited
  | onPath
  | done
deriving DecidableEq, Repr

/-- A vertex on the path. -/
structure Frame where
  vertex : Nat
  /-- The successors that have not been looked at. -/
  pending : List Nat
deriving DecidableEq, Repr

/-- A search for loops under way. -/
structure Traversal where
  /-- The marks of all vertices. -/
  marks : List Mark
  /-- The path, its end first. -/
  stack : List Frame := []
  loops : List (List Nat) := []
deriving DecidableEq, Repr

namespace Traversal

/-- The vertices on the stack, the first one first. -/
def path (t : Traversal) : List Nat := t.stack.reverse.map (·.vertex)

/-- Goes on to a vertex. -/
def enter (next : Nat → List Nat) (t : Traversal) (v : Nat) : Traversal :=
  { t with marks := t.marks.set v .onPath, stack := ⟨v, next v⟩ :: t.stack }

/-- The part of the path from a vertex on, with the vertex at the end. -/
def loopTo (t : Traversal) (w : Nat) : List Nat :=
  t.path.drop ((t.path.findIdx? (· == w)).getD 0) ++ [w]

/-- One step: the next successor of the vertex at the end of the path is entered, closes a loop or is
done with; a vertex without further successors is left. There is no step to a successor that has no
mark. -/
def step (next : Nat → List Nat) (t : Traversal) : Option Traversal :=
  match t.stack with
  | [] => some t
  | ⟨v, []⟩ :: below => some { t with marks := t.marks.set v .done, stack := below }
  | ⟨v, w :: ws⟩ :: below =>
    let t' := { t with stack := ⟨v, ws⟩ :: below }
    match t.marks[w]? with
    | none => none
    | some .unvisited => some (t'.enter next w)
    | some .onPath => some { t' with loops := t.loops ++ [t.loopTo w] }
    | some .done => some t'

/-! ## The end of a traversal -/

/-- The successors to be looked at and the vertices to be left. -/
def remaining (t : Traversal) : Nat := (t.stack.flatMap (·.pending)).length + t.stack.length

theorem count_set_le (marks : List Mark) (v : Nat) {m : Mark} (hm : m ≠ .unvisited) :
    (marks.set v m).count .unvisited ≤ marks.count .unvisited := by
  rcases Nat.lt_or_ge v marks.length with hlt | hge
  · rw [List.count_set hlt, beq_false_of_ne hm]
    simp
  · exact Nat.le_of_eq (by rw [List.set_eq_of_length_le hge])

theorem count_set_lt {marks : List Mark} {v : Nat} (hv : marks[v]? = some .unvisited) :
    (marks.set v .onPath).count .unvisited < marks.count .unvisited := by
  obtain ⟨hlt, hget⟩ := List.getElem?_eq_some_iff.mp hv
  have hpos : 0 < marks.count .unvisited := List.count_pos_iff.mpr (hget ▸ List.getElem_mem hlt)
  have hne : (Mark.onPath == Mark.unvisited) = false := rfl
  rw [List.count_set hlt, hget, hne, beq_self_eq_true, if_pos rfl, if_neg Bool.false_ne_true,
    Nat.add_zero]
  exact Nat.sub_lt hpos Nat.one_pos

/-- **Every step uses something up**: a vertex without a mark, or else a successor or a vertex on the
path. -/
theorem step_decreases {next : Nat → List Nat} {t t' : Traversal} (hstack : t.stack ≠ [])
    (hstep : t.step next = some t') :
    t'.marks.count .unvisited < t.marks.count .unvisited ∨
      t'.marks.count .unvisited ≤ t.marks.count .unvisited ∧ t'.remaining < t.remaining := by
  rcases hs : t.stack with _ | ⟨⟨v, _ | ⟨w, ws⟩⟩, below⟩
  · exact absurd hs hstack
  · rw [step, hs] at hstep
    obtain rfl := Option.some.inj hstep
    refine .inr ⟨count_set_le _ _ (by decide), ?_⟩
    simp [remaining, hs]
  · rw [step, hs] at hstep
    dsimp only at hstep
    cases hmark : t.marks[w]? with
    | none => simp [hmark] at hstep
    | some m =>
      cases m <;> rw [hmark] at hstep <;> obtain rfl := Option.some.inj hstep
      case unvisited => exact .inl (count_set_lt hmark)
      case onPath | done => exact .inr ⟨Nat.le_refl _, by simp [remaining, hs]⟩

/-- Steps until the stack is empty. -/
def run (next : Nat → List Nat) (t : Traversal) : Option Traversal :=
  if _hstack : t.stack = [] then some t
  else
    match _hstep : t.step next with
    | none => none
    | some t' => t'.run next
termination_by (t.marks.count .unvisited, t.remaining)
decreasing_by
  rcases step_decreases _hstack _hstep with hlt | ⟨hle, hlt⟩
  · exact Prod.Lex.left _ _ hlt
  · exact Prod.Lex.right' _ hle hlt

/-- Starts from a vertex that is chosen and has not been reached. -/
def visit (chosen : Nat → Bool) (next : Nat → List Nat) (t : Traversal) (root : Nat) :
    Option Traversal :=
  match t.marks[root]? with
  | none => none
  | some m => if m = .unvisited ∧ chosen root then (t.enter next root).run next else some t

/-- The loops among the chosen ones of the vertices `0` to `size - 1`. -/
def loops? (size : Nat) (chosen : Nat → Bool) (next : Nat → List Nat) :
    Option (List (List Nat)) :=
  ((List.range size).foldlM (visit chosen fun v => (next v).filter chosen)
    ⟨List.replicate size .unvisited, [], []⟩).map (·.loops)

end Traversal

end SyncCircuit.Graph
