import SyncCircuit.Proofs.Catalog.Numeral

/-!
# The pins a component has

Which labels name which pins is stated here as rules, apart from the functions that read labels:
`HasOutput` and `HasInput`. A gate input may be written with any number of leading zeros, so several
labels can name one pin. Reading a label succeeds exactly by these rules.
-/
namespace SyncCircuit

namespace Component

/-- An output by its label and its distance from the first output of its device. -/
inductive HasOutput : Component → Option String → Nat → Prop where
  | gate (g : Gate) : HasOutput (.gate g) none 0
  | switch (initial : Bool) : HasOutput (.switch initial) none 0
  | clock (halfPeriod : UInt32) : HasOutput (.clock halfPeriod) none 0
  | q : HasOutput .dtype (some "Q") 0
  | qbar : HasOutput .dtype (some "QBAR") 1

/-- An input by its label and its slot, for a device with a number of inputs. -/
inductive HasInput : Component → Nat → String → Nat → Prop where
  | gate (g : Gate) {inputs slot : Nat} {label : String} {digits : List Char}
      (hlabel : label.toList = 'I' :: digits) (hne : digits ≠ [])
      (hdigits : ∀ c ∈ digits, c.isDigit) (hvalue : Nat.ofDigitChars 10 digits 0 = slot + 1)
      (hlt : slot < inputs) : HasInput (.gate g) inputs label slot
  | data (inputs : Nat) : HasInput .dtype inputs "DATA" 0
  | clk (inputs : Nat) : HasInput .dtype inputs "CLK" 1
  | set (inputs : Nat) : HasInput .dtype inputs "SET" 2
  | clear (inputs : Nat) : HasInput .dtype inputs "CLEAR" 3

/-- The numbers of inputs a component can be given. -/
def AllowsInputs : Component → Nat → Prop
  | .gate g, inputs =>
    match g.fixedInputs? with
    | some n => inputs = n
    | none => 1 ≤ inputs ∧ inputs ≤ maxGateInputs
  | .switch _, inputs | .clock _, inputs => inputs = 0
  | .dtype, inputs => inputs = 4

end Component

/-! ## Outputs -/

theorem FlipFlop.Output.ofLabel?_eq_some_iff {label : String} {p : FlipFlop.Output} :
    ofLabel? label = some p ↔ label = p.label := by
  constructor
  · intro h
    rw [ofLabel?] at h
    have := List.find?_some h
    exact (beq_iff_eq.mp this).symm
  · rintro rfl
    exact ofLabel?_label p

theorem Component.outputOffset_eq_ok_iff {c : Component} {label : Option String} {offset : Nat} :
    c.outputOffset label = .ok offset ↔ c.HasOutput label offset := by
  constructor
  · intro h
    cases c with
    | dtype =>
      cases label with
      | none => simp [outputOffset] at h
      | some label =>
        cases hp : FlipFlop.Output.ofLabel? label with
        | none => simp [outputOffset, hp] at h
        | some p =>
          obtain rfl := FlipFlop.Output.ofLabel?_eq_some_iff.mp hp
          obtain rfl : p.index = offset := by simpa [outputOffset] using h
          cases p
          · exact .q
          · exact .qbar
    | gate g =>
      cases label <;> simp [outputOffset] at h
      exact h ▸ .gate g
    | switch initial =>
      cases label <;> simp [outputOffset] at h
      exact h ▸ .switch initial
    | clock halfPeriod =>
      cases label <;> simp [outputOffset] at h
      exact h ▸ .clock halfPeriod
  · intro h
    have hflip : ∀ p : FlipFlop.Output, dtype.outputOffset (some p.label) = .ok p.index :=
      fun p => by simp [outputOffset]
    cases h with
    | q => exact hflip .q
    | qbar => exact hflip .qbar
    | gate g => rfl
    | switch initial => rfl
    | clock halfPeriod => rfl

theorem Component.HasOutput.lt_outputCount {c : Component} {label : Option String} {offset : Nat}
    (h : c.HasOutput label offset) : offset < c.outputCount := by
  cases h <;> simp [outputCount]

theorem Component.HasOutput.unique {c : Component} {label : Option String} {k l : Nat}
    (hk : c.HasOutput label k) (hl : c.HasOutput label l) : k = l := by
  have := outputOffset_eq_ok_iff.mpr hk
  rw [outputOffset_eq_ok_iff.mpr hl] at this
  exact (Except.ok.inj this).symm

/-! ## Inputs -/

theorem FlipFlop.Input.ofLabel?_eq_some_iff {label : String} {p : FlipFlop.Input} :
    ofLabel? label = some p ↔ label = p.label := by
  constructor
  · intro h
    rw [ofLabel?] at h
    have := List.find?_some h
    exact (beq_iff_eq.mp this).symm
  · rintro rfl
    exact ofLabel?_label p

/-- Pins have labels of their own. -/
theorem FlipFlop.Input.label_inj {p p' : FlipFlop.Input} (h : p.label = p'.label) : p = p' := by
  have hread := ofLabel?_label p
  rw [h, ofLabel?_label] at hread
  exact (Option.some.inj hread).symm

/-- Every slot is that of a pin. -/
theorem FlipFlop.Input.exists_of_lt {k : Nat} (h : k < all.length) : ∃ p ∈ all, k = p.index := by
  have hall : ∀ k < all.length, ∃ p ∈ all, k = p.index := by decide
  exact hall k h

/-- A gate input label is read as the decimal value of its digits, however long, if that value is
within the bound. -/
theorem gateInputNumber?_eq_some_iff {label : String} {n : Nat} (hn : n < numeralBound) :
    gateInputNumber? label = some n ↔ ∃ digits, label.toList = 'I' :: digits ∧ digits ≠ [] ∧
      (∀ c ∈ digits, c.isDigit) ∧ Nat.ofDigitChars 10 digits 0 = n := by
  have hnumeral : ∀ digits, numeral? digits = some n ↔ digits ≠ [] ∧
      (∀ c ∈ digits, c.isDigit) ∧ Nat.ofDigitChars 10 digits 0 = n := by
    intro digits
    rw [numeral?_eq_some_iff, Numeral.iff_ofDigitChars]
    exact and_iff_left hn
  constructor
  · intro h
    unfold gateInputNumber? at h
    split at h
    · rename_i digits hlabel
      exact ⟨digits, hlabel, (hnumeral digits).mp h⟩
    · cases h
  · rintro ⟨digits, hlabel, hdigits⟩
    rw [gateInputNumber?, hlabel]
    exact (hnumeral digits).mpr hdigits

theorem Component.inputSlot_eq_ok_iff {c : Component} {inputs slot : Nat} {label : String}
    (hinputs : inputs < numeralBound) :
    c.inputSlot inputs label = .ok slot ↔ c.HasInput inputs label slot := by
  constructor
  · intro h
    cases c with
    | gate g =>
      simp only [inputSlot] at h
      split at h
      · rename_i n hn
        split at h
        · rename_i hrange
          obtain rfl : n - 1 = slot := Except.ok.inj h
          have hbound : n < numeralBound := by omega
          obtain ⟨digits, hlabel, hne, hdigits, hvalue⟩ :=
            (gateInputNumber?_eq_some_iff hbound).mp hn
          exact .gate g hlabel hne hdigits (by omega) (by omega)
        · cases h
      · cases h
    | dtype =>
      cases hp : FlipFlop.Input.ofLabel? label with
      | none => simp [inputSlot, hp] at h
      | some p =>
        obtain rfl := FlipFlop.Input.ofLabel?_eq_some_iff.mp hp
        obtain rfl : p.index = slot := by simpa [inputSlot] using h
        cases p
        · exact .data inputs
        · exact .clk inputs
        · exact .set inputs
        · exact .clear inputs
    | switch initial => simp [inputSlot] at h
    | clock halfPeriod => simp [inputSlot] at h
  · intro h
    have hflip : ∀ p : FlipFlop.Input, dtype.inputSlot inputs p.label = .ok p.index :=
      fun p => by simp [inputSlot]
    cases h with
    | gate g hlabel hne hdigits hvalue hlt =>
      have hn : gateInputNumber? label = some (slot + 1) :=
        (gateInputNumber?_eq_some_iff (by omega)).mpr ⟨_, hlabel, hne, hdigits, hvalue⟩
      have hrange : 1 ≤ slot + 1 ∧ slot + 1 ≤ inputs := by omega
      simp [inputSlot, hn, hrange]
    | data => exact hflip .data
    | clk => exact hflip .clk
    | set => exact hflip .set
    | clear => exact hflip .clear

theorem Component.HasInput.lt {c : Component} {inputs slot : Nat} {label : String}
    (h : c.HasInput inputs label slot) (hallows : c.AllowsInputs inputs) : slot < inputs := by
  cases h with
  | gate g hlabel hne hdigits hvalue hlt => exact hlt
  | data | clk | set | clear =>
    obtain rfl : inputs = 4 := hallows
    decide

/-! ## Checked parameters -/

/-- A checked parameter leaves the declared kind and a number of inputs it can have. -/
theorem Kind.instantiate_spec {k : Kind} {parameter : Option UInt32} {part : Instance}
    (h : k.instantiate parameter = .ok part) :
    part.component.kind = k ∧ part.component.AllowsInputs part.inputs := by
  cases k with
  | gate g =>
    simp only [instantiate, Gate.instantiate] at h
    split at h
    · rename_i n hfixed
      cases h
      exact ⟨rfl, by simp [Component.AllowsInputs, hfixed]⟩
    · rename_i n w hfixed
      split at h
      · cases h
        exact ⟨rfl, by simp [Component.AllowsInputs, hfixed]⟩
      · cases h
    · cases h
    · rename_i w hfree
      split at h
      · rename_i hrange
        cases h
        exact ⟨rfl, by simpa [Component.AllowsInputs, hfree] using hrange⟩
      · cases h
  | switch =>
    cases parameter with
    | none => cases h
    | some n =>
      simp only [instantiate] at h
      split at h
      · cases h; exact ⟨rfl, rfl⟩
      · split at h
        · cases h; exact ⟨rfl, rfl⟩
        · cases h
  | clock =>
    cases parameter with
    | none => cases h
    | some n =>
      simp only [instantiate] at h
      split at h
      · cases h
      · cases h; exact ⟨rfl, rfl⟩
  | dtype =>
    cases parameter with
    | none => cases h; exact ⟨rfl, rfl⟩
    | some n => cases h

/-- A half period of zero is refused. -/
theorem Kind.halfPeriod_pos_of_instantiate {k : Kind} {parameter : Option UInt32} {part : Instance}
    (h : k.instantiate parameter = .ok part) {halfPeriod : UInt32}
    (hclock : part.component = .clock halfPeriod) : 0 < halfPeriod.toNat := by
  obtain rfl : k = .clock := by rw [← (instantiate_spec h).1, hclock]; rfl
  cases parameter with
  | none => cases h
  | some n =>
    simp only [instantiate] at h
    split at h
    · cases h
    · rename_i hne
      cases h
      obtain rfl := Component.clock.inj hclock
      exact UInt32.pos_iff_ne_zero.mpr hne

theorem Component.AllowsInputs.lt_numeralBound {c : Component} {inputs : Nat}
    (h : c.AllowsInputs inputs) : inputs < numeralBound := by
  have hmax : maxGateInputs < numeralBound := by decide
  have hfixed : ∀ (g : Gate) (n : Nat), g.fixedInputs? = some n → n < numeralBound := by
    intro g n hn
    cases g <;> simp [Gate.fixedInputs?] at hn <;> subst hn <;> decide
  cases c with
  | gate g =>
    simp only [AllowsInputs] at h
    split at h
    · rename_i n hn
      exact h ▸ hfixed g n hn
    · omega
  | switch initial | clock halfPeriod => obtain rfl : inputs = 0 := h; decide
  | dtype => obtain rfl : inputs = 4 := h; decide

/-- A gate has an input. -/
theorem Component.AllowsInputs.pos {g : Gate} {inputs : Nat}
    (h : (Component.gate g).AllowsInputs inputs) : 0 < inputs := by
  simp only [AllowsInputs] at h
  split at h
  · rename_i n hn
    cases g <;> simp [Gate.fixedInputs?] at hn <;> omega
  · omega

/-! ## Deciding which pins there are -/

namespace Component

variable {inputs slot offset : Nat}

theorem hasInput_gate_iff {g : Gate} {label : String} :
    (gate g).HasInput inputs label slot ↔ label.toList.head? = some 'I' ∧
      label.toList.tail ≠ [] ∧ label.toList.tail.all (·.isDigit) ∧
      Nat.ofDigitChars 10 label.toList.tail 0 = slot + 1 ∧ slot < inputs := by
  constructor
  · rintro ⟨_, hlabel, hne, hdigits, hvalue, hlt⟩
    rw [hlabel]
    exact ⟨rfl, hne, List.all_eq_true.mpr hdigits, hvalue, hlt⟩
  · rintro ⟨hhead, hne, hdigits, hvalue, hlt⟩
    rw [List.all_eq_true] at hdigits
    obtain ⟨digits, hlabel⟩ := List.head?_eq_some_iff.mp hhead
    rw [hlabel, List.tail_cons] at hne hdigits hvalue
    exact .gate g hlabel hne hdigits hvalue hlt

theorem hasInput_dtype_iff {label : String} :
    dtype.HasInput inputs label slot ↔ ∃ p ∈ FlipFlop.Input.all, label = p.label ∧ slot = p.index := by
  constructor
  · intro h
    cases h <;> decide
  · rintro ⟨p, -, rfl, rfl⟩
    cases p
    · exact .data inputs
    · exact .clk inputs
    · exact .set inputs
    · exact .clear inputs

instance (c : Component) (label : String) : Decidable (c.HasInput inputs label slot) :=
  match c with
  | .gate _ => decidable_of_iff _ hasInput_gate_iff.symm
  | .dtype => decidable_of_iff _ hasInput_dtype_iff.symm
  | .switch _ | .clock _ => isFalse nofun

/-- No slot is beyond the inputs of a gate and those of a flip-flop. -/
theorem HasInput.lt_max {c : Component} {label : String} (h : c.HasInput inputs label slot) :
    slot < max inputs 4 := by
  cases h <;> omega

instance (c : Component) (label : String) : Decidable (∃ slot, c.HasInput inputs label slot) :=
  decidable_of_iff (∃ slot, slot < max inputs 4 ∧ c.HasInput inputs label slot)
    ⟨fun ⟨slot, _, h⟩ => ⟨slot, h⟩, fun ⟨slot, h⟩ => ⟨slot, h.lt_max, h⟩⟩

instance (c : Component) (label : Option String) : Decidable (c.HasOutput label offset) :=
  decidable_of_iff ((c.outputOffset label).toOption = some offset) (by
    rw [← outputOffset_eq_ok_iff]
    cases c.outputOffset label <;> simp [Except.toOption])

instance (c : Component) (label : Option String) : Decidable (∃ offset, c.HasOutput label offset) :=
  decidable_of_iff (∃ offset, offset < c.outputCount ∧ c.HasOutput label offset)
    ⟨fun ⟨offset, _, h⟩ => ⟨offset, h⟩, fun ⟨offset, h⟩ => ⟨offset, h.lt_outputCount, h⟩⟩

end Component

/-! ## Labels of inputs -/

namespace Component

variable {c : Component} {inputs slot : Nat}

theorem HasInput.unique {label : String} {inputs' slot' : Nat} (h : c.HasInput inputs label slot)
    (h' : c.HasInput inputs' label slot') : slot = slot' := by
  cases c with
  | gate g =>
    obtain ⟨_, hlabel, -, -, hvalue, -⟩ := h
    obtain ⟨_, hlabel', -, -, hvalue', -⟩ := h'
    obtain ⟨-, rfl⟩ := List.cons.inj (hlabel.symm.trans hlabel')
    omega
  | dtype =>
    obtain ⟨p, -, hp, rfl⟩ := hasInput_dtype_iff.mp h
    obtain ⟨p', -, hp', rfl⟩ := hasInput_dtype_iff.mp h'
    rw [FlipFlop.Input.label_inj (hp.symm.trans hp')]
  | switch initial | clock halfPeriod => nomatch h

/-- An input is called by its label. -/
theorem hasInput_inputLabel (h : c.AllowsInputs inputs) (hlt : slot < inputs) :
    c.HasInput inputs (c.inputLabel slot) slot := by
  cases c with
  | gate g =>
    have hbound : slot + 1 < numeralBound := Nat.lt_of_le_of_lt hlt h.lt_numeralBound
    have hrange : 1 ≤ slot + 1 ∧ slot + 1 ≤ inputs := by omega
    rw [← inputSlot_eq_ok_iff h.lt_numeralBound]
    simp [inputSlot, gateInputNumber?_inputLabel hbound, hrange]
  | dtype =>
    have hslot : slot < 4 := Nat.lt_of_lt_of_eq hlt h
    obtain ⟨p, hp, rfl⟩ := FlipFlop.Input.exists_of_lt hslot
    exact hasInput_dtype_iff.mpr ⟨p, hp, by cases p <;> rfl, rfl⟩
  | switch initial | clock halfPeriod =>
    obtain rfl : inputs = 0 := h
    omega

theorem inputLabel_inj {slot' : Nat} (h : c.AllowsInputs inputs) (hlt : slot < inputs)
    (hlt' : slot' < inputs) (heq : c.inputLabel slot = c.inputLabel slot') : slot = slot' := by
  have hslot := hasInput_inputLabel h hlt
  rw [heq] at hslot
  exact hslot.unique (hasInput_inputLabel h hlt')

theorem HasInput.noDot {label : String} (h : c.HasInput inputs label slot) :
    '.' ∉ label.toList := by
  cases h with
  | gate g hlabel hne hdigits hvalue hlt =>
    rw [hlabel]
    intro hmem
    rcases List.mem_cons.mp hmem with hletter | hdigit
    · exact absurd hletter (by decide)
    · exact absurd (hdigits '.' hdigit) (by decide)
  | data | clk | set | clear => decide

end Component

end SyncCircuit
