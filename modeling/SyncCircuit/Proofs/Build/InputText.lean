import SyncCircuit.Proofs.Build.Declarations

/-!
# How inputs are written

The texts that name an input pin, of any device of a well-declared description: the name of the
device, a dot, and behind it the letter I and a numeral for a gate or the word for a pin of a
flip-flop. Every other text names none. The reading takes three steps — the text is split at its
first dot, the name looked up, the rest read as a label — and each is inverted here.
-/
namespace SyncCircuit

/-! ## Labels -/

namespace Component

variable {inputs slot : Nat} {label : String}

/-- The label of a gate input is the letter I and a numeral that counts from one. -/
theorem hasInput_gate_iff_numeral {g : Gate} : (gate g).HasInput inputs label slot ↔
    ∃ digits, label = "I" ++ String.ofList digits ∧ Numeral digits (slot + 1) ∧
      slot + 1 ≤ inputs := by
  constructor
  · rintro ⟨_, hlabel, hne, hdigits, hvalue, hlt⟩
    refine ⟨_, ?_, Numeral.iff_ofDigitChars.mpr ⟨hne, hdigits, hvalue⟩, hlt⟩
    rw [← String.toList_inj, hlabel]
    simp
  · rintro ⟨digits, rfl, hnumeral, hle⟩
    exact .gate g (by simp) hnumeral.ne_nil hnumeral.isDigit hnumeral.ofDigitChars hle

/-- No input has the empty label. -/
theorem HasInput.label_ne_empty {c : Component} (h : c.HasInput inputs label slot) :
    label ≠ "" := by
  cases h with
  | gate g hlabel hne hdigits hvalue hlt =>
    rintro rfl
    cases hlabel
  | data | clk | set | clear => decide

end Component

/-! ## References -/

/-- A text with a dot is read as what stands before the first dot and what stands behind it. -/
theorem InputRef.ofText_append {name : String} (hdot : '.' ∉ name.toList) (pin : String) :
    ofText (name ++ "." ++ pin) = ⟨name, pin⟩ := by
  rw [ofText, splitAtDot_append hdot]
  rfl

/-- Reading loses nothing unless there is nothing behind the name. -/
theorem InputRef.eq_of_ofText {s : String} (h : (ofText s).pin ≠ "") :
    s = (ofText s).device ++ "." ++ (ofText s).pin := by
  rcases hsplit : splitAtDot s with ⟨name, _ | pin⟩
  · exact absurd (by rw [ofText, hsplit]; rfl) h
  · rw [ofText, hsplit]
    exact append_of_splitAtDot hsplit

namespace Description

variable {d : Description}

theorem Declares.valid {i : Nat} {name : String} {part : Instance} (hd : d.Declares i name part)
    (h : d.WellDeclared) : ValidName name := by
  obtain ⟨c, hc, rfl, -⟩ := hd
  exact h.names c (List.mem_of_getElem? hc)

/-- **A text names an input** exactly if it is the name of a declared device, a dot and a label. -/
theorem WellDeclared.resolveInput_ofText_eq_found_iff (h : d.WellDeclared) {s : String}
    {pin : Pin} : d.table.resolveInput (.ofText s) = .found pin ↔ ∃ name part label,
      d.Declares pin.device name part ∧ part.component.HasInput part.inputs label pin.position ∧
        s = name ++ "." ++ label := by
  rw [h.resolveInput_eq_found_iff]
  constructor
  · rintro ⟨part, hd, hinput⟩
    exact ⟨_, part, _, hd, hinput, InputRef.eq_of_ofText hinput.label_ne_empty⟩
  · rintro ⟨name, part, label, hd, hinput, rfl⟩
    rw [InputRef.ofText_append ((hd.valid h).not_mem (by decide))]
    exact ⟨part, hd, hinput⟩

/-- The inputs of a given device. -/
theorem Declares.resolveInput_ofText_iff {i k : Nat} {name s : String} {part : Instance}
    (hd : d.Declares i name part) (h : d.WellDeclared) :
    d.table.resolveInput (.ofText s) = .found ⟨i, k⟩ ↔ ∃ label,
      s = name ++ "." ++ label ∧ part.component.HasInput part.inputs label k := by
  rw [h.resolveInput_ofText_eq_found_iff]
  constructor
  · rintro ⟨name', part', label, hd', hinput, rfl⟩
    obtain ⟨rfl, rfl⟩ := hd.unique hd'
    exact ⟨label, rfl, hinput⟩
  · rintro ⟨label, rfl, hinput⟩
    exact ⟨name, part, label, hd, hinput, rfl⟩

/-- **Inputs are written as their grammar says**, and in no other way. The numeral of a gate input
may have any number of leading zeros; its value is one more than the slot and at most the number of
inputs. Switches and clocks have no inputs, and what names no input is a fault. -/
theorem WellDeclared.input_texts (h : d.WellDeclared) (s : String) :
    (∀ i name g inputs k, d.Declares i name ⟨.gate g, inputs⟩ →
      (d.table.resolveInput (.ofText s) = .found ⟨i, k⟩ ↔ ∃ digits,
        s = name ++ "." ++ ("I" ++ String.ofList digits) ∧ Numeral digits (k + 1) ∧
          k + 1 ≤ inputs)) ∧
    (∀ i name inputs k, d.Declares i name ⟨.dtype, inputs⟩ →
      (d.table.resolveInput (.ofText s) = .found ⟨i, k⟩ ↔
        s = name ++ "." ++ "DATA" ∧ k = 0 ∨ s = name ++ "." ++ "CLK" ∧ k = 1 ∨
          s = name ++ "." ++ "SET" ∧ k = 2 ∨ s = name ++ "." ++ "CLEAR" ∧ k = 3)) ∧
    (∀ pin, d.table.resolveInput (.ofText s) = .found pin → ∃ name part,
      d.Declares pin.device name part ∧ (part.component.isGate ∨ part.component = .dtype)) ∧
    ((∀ pin, d.table.resolveInput (.ofText s) ≠ .found pin) →
      ∃ fault, d.table.resolveInput (.ofText s) = .invalid fault) := by
  refine ⟨fun i name g inputs k hd => ?_, fun i name inputs k hd => ?_, fun pin hpin => ?_,
    fun hnone => ?_⟩
  · simp only [hd.resolveInput_ofText_iff h, Component.hasInput_gate_iff_numeral]
    constructor
    · rintro ⟨_, hs, digits, rfl, hnumeral⟩
      exact ⟨digits, hs, hnumeral⟩
    · rintro ⟨digits, hs, hnumeral⟩
      exact ⟨_, hs, digits, rfl, hnumeral⟩
  · rw [hd.resolveInput_ofText_iff h]
    constructor
    · rintro ⟨label, rfl, hinput⟩
      cases hinput <;> simp
    · rintro (⟨rfl, rfl⟩ | ⟨rfl, rfl⟩ | ⟨rfl, rfl⟩ | ⟨rfl, rfl⟩)
      · exact ⟨"DATA", rfl, .data inputs⟩
      · exact ⟨"CLK", rfl, .clk inputs⟩
      · exact ⟨"SET", rfl, .set inputs⟩
      · exact ⟨"CLEAR", rfl, .clear inputs⟩
  · obtain ⟨name, part, label, hd, hinput, -⟩ := h.resolveInput_ofText_eq_found_iff.mp hpin
    refine ⟨name, part, hd, ?_⟩
    generalize part.component = c, pin.position = k at hinput
    cases hinput with
    | gate g hlabel hne hdigits hvalue hlt => exact .inl rfl
    | data | clk | set | clear => exact .inr rfl
  · have hdeclared : d.table.resolveInput (.ofText s) ≠ .rejected := h.resolve_ne_rejected
    cases hres : d.table.resolveInput (.ofText s) with
    | found pin => exact absurd hres (hnone pin)
    | rejected => exact absurd hres hdeclared
    | invalid fault => exact ⟨fault, rfl⟩

/-- A device of every sort, the gate as wide as gates get. -/
def assorted : Description where
  devices := [⟨"S", .switch, some 0⟩, ⟨"C", .clock, some 2⟩, ⟨"F", .dtype, none⟩,
    ⟨"G", .gate .and, some 16⟩]

/-- The last input of the gate may have zeros before its number, but no number is taken modulo the
word size. -/
theorem assorted_input_texts :
    assorted.WellDeclared ∧
    assorted.Declares 3 "G" ⟨.gate .and, 16⟩ ∧ assorted.Declares 2 "F" ⟨.dtype, 4⟩ ∧
    assorted.table.resolveInput (.ofText "G.I0016") = .found ⟨3, 15⟩ ∧
    assorted.table.resolveInput (.ofText "F.CLEAR") = .found ⟨2, 3⟩ ∧
    (∀ k, assorted.table.resolveInput (.ofText "G.I18446744073709551617") ≠ .found ⟨3, k⟩) ∧
    ∃ fault, assorted.table.resolveInput (.ofText "C.I1") = .invalid fault := by
  have h : assorted.WellDeclared := declarationErrors_eq_nil_iff.mp (by decide +kernel)
  have hgate : assorted.Declares 3 "G" ⟨.gate .and, 16⟩ := ⟨_, rfl, rfl, rfl⟩
  have hflip : assorted.Declares 2 "F" ⟨.dtype, 4⟩ := ⟨_, rfl, rfl, rfl⟩
  refine ⟨h, hgate, hflip, ?_, ?_, fun k hk => ?_, ?_⟩
  · exact ((h.input_texts "G.I0016").1 3 "G" .and 16 15 hgate).mpr
      ⟨['0', '0', '1', '6'], rfl, (Numeral.toDigits 16).replicate_zero 2, by decide⟩
  · exact ((h.input_texts "F.CLEAR").2.1 2 "F" 4 3 hflip).mpr (by decide)
  · obtain ⟨digits, hs, hnumeral, hle⟩ :=
      ((h.input_texts "G.I18446744073709551617").1 3 "G" .and 16 k hgate).mp hk
    obtain rfl : digits = "18446744073709551617".toList := by
      simpa using congrArg (List.drop 3) (String.toList_inj.mpr hs).symm
    have hvalue : Nat.ofDigitChars 10 "18446744073709551617".toList 0 = 18446744073709551617 := by
      decide +kernel
    have := hvalue.symm.trans hnumeral.ofDigitChars
    omega
  · refine (h.input_texts "C.I1").2.2.2 fun pin hpin => ?_
    have hnone : (assorted.table.resolveInput (.ofText "C.I1")).pin? = none := by decide +kernel
    rw [hpin] at hnone
    cases hnone

end Description

end SyncCircuit
