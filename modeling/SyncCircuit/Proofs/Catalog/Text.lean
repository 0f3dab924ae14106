import Mathlib
import SyncCircuit.Proofs.Catalog.Numeral

/-!
# What is written of components

The text of a component says all there is to a component, and neither it nor the label of an input
breaks a line.
-/
namespace SyncCircuit.Component

theorem text_clock (halfPeriod : UInt32) :
    (clock halfPeriod).text = "CLOCK " ++ toString halfPeriod.toNat := rfl

/-- The first word of the text is the kind. -/
theorem takeWhile_text (c : Component) :
    c.text.toList.takeWhile (· != ' ') = c.kind.name.toList := by
  cases c with
  | gate g => cases g <;> decide
  | switch initial => cases initial <;> decide
  | clock halfPeriod =>
    rw [text_clock, String.toList_append]
    simp [kind, Kind.name]
  | dtype => decide

/-- **Different components have different texts.** -/
theorem text_inj {c c' : Component} (h : c.text = c'.text) : c = c' := by
  have hkind : c.kind = c'.kind := by
    have hname : c.kind.name = c'.kind.name := by
      rw [← String.toList_inj, ← takeWhile_text, ← takeWhile_text, h]
    have hread := Kind.ofName?_name c.kind
    rw [hname, Kind.ofName?_name] at hread
    exact (Option.some.inj hread).symm
  cases c <;> cases c' <;> simp only [kind, Kind.gate.injEq, reduceCtorEq] at hkind
  case gate.gate g g' => rw [hkind]
  case switch.switch b b' =>
    revert h
    cases b <;> cases b' <;> decide
  case clock.clock n n' =>
    rw [text_clock, text_clock, String.append_right_inj] at h
    rw [UInt32.toNat_inj.mp (Nat.repr_inj.mp h)]
  case dtype.dtype => rfl

/-- Texts of components are on one line. -/
theorem newline_not_mem_text (c : Component) : '\n' ∉ c.text.toList := by
  cases c with
  | gate g => cases g <;> decide
  | switch initial => cases initial <;> decide
  | clock halfPeriod =>
    rw [text_clock, String.toList_append, List.mem_append, not_or]
    exact ⟨by decide, not_mem_toString (by decide) _⟩
  | dtype => decide

/-- Labels of inputs are on one line. -/
theorem newline_not_mem_inputLabel (c : Component) (slot : Nat) :
    '\n' ∉ (c.inputLabel slot).toList := by
  have hnumber : ∀ (s : String) (n : Nat), '\n' ∉ s.toList → '\n' ∉ (s ++ toString n).toList := by
    intro s n hs
    rw [String.toList_append, List.mem_append, not_or]
    exact ⟨hs, not_mem_toString (by decide) n⟩
  cases c with
  | gate g => exact hnumber "I" (slot + 1) (by decide)
  | switch initial => exact hnumber "I" (slot + 1) (by decide)
  | clock halfPeriod => exact hnumber "I" (slot + 1) (by decide)
  | dtype =>
    rw [inputLabel]
    cases FlipFlop.Input.ofIndex? (slot % 256) with
    | none => exact hnumber "#" slot (by decide)
    | some p =>
      rw [Option.elim_some]
      cases p <;> decide

end SyncCircuit.Component
