import Mathlib.Data.List.Induction
import SyncCircuit.Catalog.Pin

/-!
# Decimal numerals

What a string of digits stands for, as rules: a digit stands for itself, and a further digit behind
a numeral shifts its value by one place (`Numeral`). Any string of ASCII digits but the empty one is
a numeral, with one value; zeros in front do not change it. `numeral?` reads exactly the numerals
whose value is below its bound, and numbers are written as numerals of their own.
-/
namespace SyncCircuit

/-- The characters are ASCII digits with this decimal value. -/
inductive Numeral : List Char → Nat → Prop where
  | digit {c : Char} (hc : c.isDigit) : Numeral [c] (c.toNat - '0'.toNat)
  | snoc {digits : List Char} {n : Nat} {c : Char} (h : Numeral digits n) (hc : c.isDigit) :
      Numeral (digits ++ [c]) (10 * n + (c.toNat - '0'.toNat))

namespace Numeral

variable {digits : List Char} {n : Nat}

theorem ne_nil (h : Numeral digits n) : digits ≠ [] := by
  cases h <;> simp

theorem isDigit (h : Numeral digits n) : ∀ c ∈ digits, c.isDigit := by
  induction h with
  | digit hc => simpa using hc
  | snoc h hc ih =>
    rw [List.forall_mem_append]
    exact ⟨ih, by simpa using hc⟩

/-- The value of a numeral is that of its digits read from the left. -/
theorem ofDigitChars (h : Numeral digits n) : Nat.ofDigitChars 10 digits 0 = n := by
  induction h with
  | digit hc => simp [Nat.ofDigitChars_cons]
  | snoc h hc ih => simp [Nat.ofDigitChars_append, Nat.ofDigitChars_cons, ih]

/-- **A numeral has one value.** -/
theorem unique {n' : Nat} (h : Numeral digits n) (h' : Numeral digits n') : n = n' :=
  h.ofDigitChars.symm.trans h'.ofDigitChars

/-- Every string of digits but the empty one is a numeral. -/
theorem of_isDigit (hne : digits ≠ []) (hdigits : ∀ c ∈ digits, c.isDigit) :
    Numeral digits (Nat.ofDigitChars 10 digits 0) := by
  induction digits using List.reverseRecOn with
  | nil => exact absurd rfl hne
  | append_singleton digits c ih =>
    rw [List.forall_mem_append, List.forall_mem_singleton] at hdigits
    obtain ⟨hinit, hc⟩ := hdigits
    rw [Nat.ofDigitChars_append, Nat.ofDigitChars_cons, Nat.ofDigitChars_nil]
    by_cases hnil : digits = []
    · subst hnil
      simpa using digit hc
    · exact (ih hnil hinit).snoc hc

theorem iff_ofDigitChars : Numeral digits n ↔
    digits ≠ [] ∧ (∀ c ∈ digits, c.isDigit) ∧ Nat.ofDigitChars 10 digits 0 = n := by
  constructor
  · exact fun h => ⟨h.ne_nil, h.isDigit, h.ofDigitChars⟩
  · rintro ⟨hne, hdigits, rfl⟩
    exact of_isDigit hne hdigits

/-- Zeros in front do not count. -/
theorem replicate_zero (h : Numeral digits n) (k : Nat) :
    Numeral (List.replicate k '0' ++ digits) n := by
  have hzeros : Nat.ofDigitChars 10 (List.replicate k '0') 0 = 0 := by
    induction k with
    | zero => rfl
    | succ k ih =>
      rw [List.replicate_succ, Nat.ofDigitChars_cons]
      exact ih
  refine iff_ofDigitChars.mpr ⟨by simp [h.ne_nil], ?_, ?_⟩
  · rw [List.forall_mem_append]
    refine ⟨fun c hc => ?_, h.isDigit⟩
    rw [List.eq_of_mem_replicate hc]
    decide
  · rw [Nat.ofDigitChars_append, hzeros, h.ofDigitChars]

/-- The digits that a number is written with. -/
theorem toDigits (n : Nat) : Numeral (Nat.toDigits 10 n) n :=
  iff_ofDigitChars.mpr ⟨Nat.toDigits_ne_nil,
    fun _ hc => Nat.isDigit_of_mem_toDigits (by decide) (by decide) hc,
    Nat.ofDigitChars_toDigits (by decide) (by decide)⟩

end Numeral

/-- **Numerals are read** exactly if they are below the bound. -/
theorem numeral?_eq_some_iff {digits : List Char} {n : Nat} :
    numeral? digits = some n ↔ Numeral digits n ∧ n < numeralBound := by
  rw [Numeral.iff_ofDigitChars, numeral?]
  constructor
  · intro h
    split at h
    · rename_i hcond
      obtain ⟨hne, hdigits, hlt⟩ := hcond
      obtain rfl := Option.some.inj h
      exact ⟨⟨hne, List.all_eq_true.mp hdigits, rfl⟩, hlt⟩
    · cases h
  · rintro ⟨⟨hne, hdigits, rfl⟩, hlt⟩
    exact if_pos ⟨hne, List.all_eq_true.mpr hdigits, hlt⟩

/-- Numbers are written with digits only. -/
theorem not_mem_toString {c : Char} (hc : ¬ c.isDigit) (n : Nat) : c ∉ (toString n).toList := by
  rw [Nat.toString_eq_repr, Nat.toList_repr]
  exact fun hmem => hc ((Numeral.toDigits n).isDigit c hmem)

end SyncCircuit
