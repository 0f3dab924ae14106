/-!
# Lines of a text

A text made of lines can be taken apart into them again, whether the lines are joined with line ends
between them or each of them is ended.

## Main definitions

* `lines` — the lines of a text.
* `unlines` — lines, each with its end.
-/
namespace SyncCircuit

/-- The lines of a text, without their ends. The last one need not be ended. -/
def splitLines : List Char → List (List Char)
  | [] => []
  | c :: cs =>
    if c = '\n' then
      [] :: splitLines cs
    else
      match splitLines cs with
      | [] => [[c]]
      | l :: ls => (c :: l) :: ls

/-- The lines of a text. -/
def lines (s : String) : List String := (splitLines s.toList).map String.ofList

/-- Lines, each with its end. -/
def unlines (ls : List String) : String := String.join (ls.map (· ++ "\n"))

@[simp] theorem unlines_nil : unlines [] = "" := String.join_nil

@[simp] theorem unlines_cons (l : String) (ls : List String) :
    unlines (l :: ls) = l ++ "\n" ++ unlines ls := String.join_cons

@[simp] theorem unlines_append (ls ls' : List String) :
    unlines (ls ++ ls') = unlines ls ++ unlines ls' := by
  rw [unlines, List.map_append, String.join_append]
  rfl

/-! ## Taking apart -/

theorem splitLines_append {l : List Char} (h : '\n' ∉ l) (cs : List Char) :
    splitLines (l ++ '\n' :: cs) = l :: splitLines cs := by
  induction l with
  | nil => simp [splitLines]
  | cons c l ih =>
    rw [List.mem_cons, not_or] at h
    rw [List.cons_append, splitLines, if_neg (Ne.symm h.1), ih h.2]

theorem splitLines_of_not_mem {l : List Char} (h : '\n' ∉ l) (hne : l ≠ []) :
    splitLines l = [l] := by
  induction l with
  | nil => exact absurd rfl hne
  | cons c l ih =>
    rw [List.mem_cons, not_or] at h
    rw [splitLines, if_neg (Ne.symm h.1)]
    cases l with
    | nil => rfl
    | cons c' l => rw [ih h.2 (List.cons_ne_nil _ _)]

theorem lines_append {l : String} (h : '\n' ∉ l.toList) (t : String) :
    lines (l ++ "\n" ++ t) = l :: lines t := by
  have hchars : (l ++ "\n" ++ t).toList = l.toList ++ '\n' :: t.toList := by simp
  rw [lines, hchars, splitLines_append h, List.map_cons, String.ofList_toList]
  rfl

theorem lines_of_not_mem {l : String} (h : '\n' ∉ l.toList) (hne : l ≠ "") : lines l = [l] := by
  have hchars : l.toList ≠ [] := fun hnil => hne (String.toList_inj.mp hnil)
  rw [lines, splitLines_of_not_mem h hchars, List.map_singleton, String.ofList_toList]

/-- **Joined lines are told apart.** -/
theorem lines_intercalate {ls : List String} (h : ∀ l ∈ ls, '\n' ∉ l.toList)
    (hne : ∀ l ∈ ls, l ≠ "") : lines ("\n".intercalate ls) = ls := by
  induction ls with
  | nil => rfl
  | cons l ls ih =>
    rw [List.forall_mem_cons] at h hne
    cases ls with
    | nil => rw [String.intercalate_singleton, lines_of_not_mem h.1 hne.1]
    | cons l' ls => rw [String.intercalate_cons_cons, lines_append h.1, ih h.2 hne.2]

/-- **Ended lines are told apart.** -/
theorem lines_unlines {ls : List String} (h : ∀ l ∈ ls, '\n' ∉ l.toList) :
    lines (unlines ls) = ls := by
  induction ls with
  | nil => rfl
  | cons l ls ih =>
    rw [List.forall_mem_cons] at h
    rw [unlines_cons, lines_append h.1, ih h.2]

/-- Ended lines are joined ones with one more end. -/
theorem unlines_eq_intercalate {ls : List String} (hne : ls ≠ []) :
    unlines ls = "\n".intercalate ls ++ "\n" := by
  induction ls with
  | nil => exact absurd rfl hne
  | cons l ls ih =>
    cases ls with
    | nil => simp
    | cons l' ls =>
      rw [unlines_cons, ih (List.cons_ne_nil _ _)]
      simp only [String.intercalate_cons_cons, String.append_assoc]

/-! ## Separators -/

/-- What stands before the first separator and what stands behind it are told apart. -/
theorem append_separator_inj {c : Char} {xs xs' ys ys' : List Char} (h : c ∉ xs) (h' : c ∉ xs')
    (heq : xs ++ c :: ys = xs' ++ c :: ys') : xs = xs' ∧ ys = ys' := by
  induction xs generalizing xs' with
  | nil =>
    cases xs' with
    | nil => exact ⟨rfl, (List.cons.inj heq).2⟩
    | cons x xs' => exact absurd ((List.cons.inj heq).1 ▸ List.mem_cons_self) h'
  | cons x xs ih =>
    cases xs' with
    | nil => exact absurd ((List.cons.inj heq).1 ▸ List.mem_cons_self) h
    | cons x' xs' =>
      obtain ⟨rfl, htail⟩ := List.cons.inj heq
      rw [List.mem_cons, not_or] at h h'
      obtain ⟨rfl, rfl⟩ := ih h.2 h'.2 htail
      exact ⟨rfl, rfl⟩

end SyncCircuit
