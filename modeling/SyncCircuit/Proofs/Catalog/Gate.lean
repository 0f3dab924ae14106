import Mathlib.Algebra.Ring.Parity
import Mathlib.Data.List.Perm.Basic
import SyncCircuit.Catalog.Gate

/-!
# Gate functions

A gate stops its fold at the first input that decides it. Folding on would keep the value reached
there, so a gate computes the plain fold of all its inputs (`accumulate_eq_foldl`). Its operation is
commutative and associative, so the inputs may come in any order, and the fold is the boolean
function that the gate is named for, whatever the number of inputs.

## Main definitions

* `Gate.function` — the boolean functions, with no order in which the inputs are looked at.
-/
namespace SyncCircuit.Gate

/-- The boolean function of a gate: whether all inputs are high, whether some input is, or whether an
odd number of them is. The negated gates tell the opposite. -/
def function : Gate → List Bool → Bool
  | .and, bs => bs.all id
  | .or, bs => bs.any id
  | .nand, bs => !bs.all id
  | .nor, bs | .not, bs => !bs.any id
  | .xor, bs => decide (Odd (bs.count true))

/-! ## Stopping early -/

/-- The deciding value survives every further input. -/
theorem combine_of_absorbs {g : Gate} (h : g.absorbs) (b : Bool) :
    g.combine (!g.neutral) b = !g.neutral := by
  cases g <;> simp_all [absorbs, combine, neutral]

theorem foldl_combine_of_absorbs {g : Gate} (h : g.absorbs) (bs : List Bool) :
    bs.foldl g.combine (!g.neutral) = !g.neutral := by
  induction bs with
  | nil => rfl
  | cons b bs ih => rw [List.foldl_cons, combine_of_absorbs h, ih]

/-- **Stopping early does not matter.** -/
theorem accumulate_eq_foldl (g : Gate) (acc : Bool) (bs : List Bool) :
    g.accumulate acc bs = bs.foldl g.combine acc := by
  induction bs generalizing acc with
  | nil => rfl
  | cons b bs ih =>
    rw [accumulate, List.foldl_cons]
    split
    · rename_i hstop
      simp only [Bool.and_eq_true, beq_iff_eq] at hstop
      rw [hstop.2, foldl_combine_of_absorbs hstop.1]
    · exact ih _

/-- The negation is left for the end of the fold, wherever that is. -/
theorem evaluate_eq_foldl (g : Gate) (bs : List Bool) :
    g.evaluate bs = (g.isNegated ^^ bs.foldl g.combine g.neutral) := by
  rw [evaluate, accumulate_eq_foldl]

/-! ## The order of the inputs -/

instance (g : Gate) : Std.Commutative g.combine where
  comm a b := by cases g <;> simp [combine, Bool.and_comm, Bool.or_comm, Bool.xor_comm]

instance (g : Gate) : Std.Associative g.combine where
  assoc a b c := by cases g <;> simp [combine, Bool.and_assoc, Bool.or_assoc]

/-- A gate does not tell its inputs apart. -/
theorem evaluate_perm {g : Gate} {bs bs' : List Bool} (h : bs'.Perm bs) :
    g.evaluate bs' = g.evaluate bs := by
  rw [evaluate_eq_foldl, evaluate_eq_foldl, h.foldl_eq]

/-! ## The folds -/

theorem foldl_and (acc : Bool) (bs : List Bool) :
    bs.foldl and.combine acc = (acc && bs.all id) := by
  induction bs generalizing acc with
  | nil => simp
  | cons b bs ih => simp [ih, combine, Bool.and_assoc]

theorem foldl_or (acc : Bool) (bs : List Bool) :
    bs.foldl or.combine acc = (acc || bs.any id) := by
  induction bs generalizing acc with
  | nil => simp
  | cons b bs ih => simp [ih, combine, Bool.or_assoc]

/-- Every high input turns the value over. -/
theorem foldl_xor (acc : Bool) (bs : List Bool) :
    bs.foldl xor.combine acc = (acc ^^ decide (Odd (bs.count true))) := by
  induction bs generalizing acc with
  | nil => simp
  | cons b bs ih =>
    rw [List.foldl_cons, ih, combine]
    cases b with
    | false => simp
    | true =>
      have hodd : decide (Odd ((true :: bs).count true)) = !decide (Odd (bs.count true)) := by
        simp only [List.count_cons_self, Nat.odd_add_one, decide_not]
      rw [hodd, Bool.xor_assoc, Bool.true_xor]

/-- **The fold is the function of the gate.** -/
theorem evaluate_eq_function (g : Gate) (bs : List Bool) : g.evaluate bs = g.function bs := by
  rw [evaluate_eq_foldl]
  -- Gates with one operation differ in the negation alone.
  have hand := foldl_and true bs
  have hor := foldl_or false bs
  have hxor := foldl_xor false bs
  rw [Bool.true_and] at hand
  rw [Bool.false_or] at hor
  rw [Bool.false_xor] at hxor
  cases g with
  | and => exact (Bool.false_xor _).trans hand
  | or => exact (Bool.false_xor _).trans hor
  | xor => exact (Bool.false_xor _).trans hxor
  | nand => exact (Bool.true_xor _).trans (congrArg (!·) hand)
  | nor | not => exact (Bool.true_xor _).trans (congrArg (!·) hor)

/-- A NOR gate is low as soon as one of its inputs is high. -/
theorem evaluate_nor_of_mem {bs : List Bool} (h : true ∈ bs) : nor.evaluate bs = false := by
  have hany : bs.any id = true := List.any_eq_true.mpr ⟨true, h, rfl⟩
  rw [evaluate_eq_function, function, hany]
  rfl

/-- **A gate computes its function.** It gives what folding all its inputs would give, although it
may stop early: their conjunction, disjunction or odd parity, or the negation of that, for any number
of inputs in any order. -/
theorem evaluate_computes_function (g : Gate) (bs : List Bool) :
    g.evaluate bs = (g.isNegated ^^ bs.foldl g.combine g.neutral) ∧
      g.evaluate bs = g.function bs ∧
      ∀ bs', bs'.Perm bs → g.evaluate bs' = g.evaluate bs :=
  ⟨g.evaluate_eq_foldl bs, g.evaluate_eq_function bs, fun _ h => evaluate_perm h⟩

/-- The low input may come first, where the gate stops at it, or last. -/
theorem nand_of_permuted_inputs :
    [false, true, true].Perm [true, true, false] ∧
    nand.evaluate [true, true, false] = true ∧ nand.evaluate [false, true, true] = true := by
  obtain ⟨-, hfunction, hperm⟩ := evaluate_computes_function nand [true, true, false]
  have hinputs : [false, true, true].Perm [true, true, false] := by decide
  exact ⟨hinputs, hfunction, (hperm _ hinputs).trans hfunction⟩

end SyncCircuit.Gate
