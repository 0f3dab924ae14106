/-!
# Clocks

A clock counts cycles in a 32-bit word and turns its output over each time a half period is
complete. It is left to itself, so the number of cycles says everything about it: its count is that
number modulo the half period, and it is high in every second half period. The count stays below the
half period, so the word it is kept in never overflows.

## Main definitions

* `Clock.tick` — one cycle of a clock.
* `Clock.After` — the count and the output of a clock after a number of cycles.
-/
namespace SyncCircuit.Clock

/-- One cycle of a clock: the new count, and whether the output turns over. The count starts
again when it reaches the half period, so it stays below it. -/
def tick (ticks halfPeriod : UInt32) : UInt32 × Bool :=
  let next := ticks + 1
  if next ≥ halfPeriod then (0, true) else (next, false)

/-- What a clock has come to after `n` cycles from a low output and no count. -/
structure After (halfPeriod : UInt32) (n : Nat) (ticks : UInt32) (level : Bool) : Prop where
  ticks : ticks.toNat = n % halfPeriod.toNat
  level : level = true ↔ n / halfPeriod.toNat % 2 = 1

theorem after_zero (halfPeriod : UInt32) : After halfPeriod 0 0 false where
  ticks := (Nat.zero_mod _).symm
  level := by simp

namespace After

variable {halfPeriod ticks : UInt32} {n : Nat} {level : Bool}

theorem ticks_lt (h : After halfPeriod n ticks level) (hpos : 0 < halfPeriod.toNat) :
    ticks.toNat < halfPeriod.toNat := by
  rw [h.ticks]
  exact Nat.mod_lt n hpos

/-- Counting one more cycle does not overflow, not even for the longest half period. -/
theorem toNat_ticks_add_one (h : After halfPeriod n ticks level) (hpos : 0 < halfPeriod.toNat) :
    (ticks + 1).toNat = ticks.toNat + 1 := by
  have hlt := h.ticks_lt hpos
  have hsize := halfPeriod.toNat_lt
  rw [UInt32.toNat_add, UInt32.toNat_one]
  omega

/-- **One more cycle**: the count goes on, or a half period is complete and the output turns
over. -/
theorem tick (h : After halfPeriod n ticks level) (hpos : 0 < halfPeriod.toNat) :
    After halfPeriod (n + 1) (Clock.tick ticks halfPeriod).1
      ((Clock.tick ticks halfPeriod).2 ^^ level) := by
  have hlt := h.ticks_lt hpos
  have hnext := h.toNat_ticks_add_one hpos
  have hsplit := Nat.div_add_mod n halfPeriod.toNat
  have hticks := h.ticks
  rw [Clock.tick]
  by_cases hdone : ticks + 1 ≥ halfPeriod
  · have hfull : ticks.toNat + 1 = halfPeriod.toNat := by
      rw [ge_iff_le, UInt32.le_iff_toNat_le, hnext] at hdone
      omega
    obtain ⟨hdiv, hmod⟩ : (n + 1) / halfPeriod.toNat = n / halfPeriod.toNat + 1 ∧
        (n + 1) % halfPeriod.toNat = 0 := by
      refine (Nat.div_mod_unique hpos).mpr ⟨?_, hpos⟩
      rw [Nat.mul_add_one]
      omega
    have hturn : (n / halfPeriod.toNat + 1) % 2 = 1 ↔ ¬ n / halfPeriod.toNat % 2 = 1 := by omega
    simp only [if_pos hdone]
    refine ⟨hmod.symm, ?_⟩
    rw [hdiv, hturn, ← h.level]
    simp
  · have hroom : ticks.toNat + 1 < halfPeriod.toNat := by
      rw [ge_iff_le, UInt32.le_iff_toNat_le, hnext] at hdone
      omega
    obtain ⟨hdiv, hmod⟩ : (n + 1) / halfPeriod.toNat = n / halfPeriod.toNat ∧
        (n + 1) % halfPeriod.toNat = ticks.toNat + 1 := by
      refine (Nat.div_mod_unique hpos).mpr ⟨?_, hroom⟩
      omega
    simp only [if_neg hdone]
    refine ⟨hnext.trans hmod.symm, ?_⟩
    rw [hdiv, Bool.false_xor]
    exact h.level

end After

end SyncCircuit.Clock
