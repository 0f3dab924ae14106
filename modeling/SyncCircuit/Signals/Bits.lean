/-!
# Packed bits

A sequence of bits stored in words of 64, least significant bit first. Reading and writing are
total: outside the stored words every bit is false and a write has no effect. `get_set` describes
a write through the view `get`, and `ext_get` says that nothing but this view and the size matters.
-/
namespace SyncCircuit

/-- Bits in words of 64. -/
structure Bits where
  words : Array (BitVec 64)
deriving DecidableEq, Repr

namespace Bits

/-- Room for at least `n` bits, all false. -/
def zeros (n : Nat) : Bits := ⟨Array.replicate ((n + 63) / 64) 0⟩

/-- The number of bits stored. -/
def size (b : Bits) : Nat := b.words.size * 64

/-- The bit at index `i`. -/
def get (b : Bits) (i : Nat) : Bool := (b.words.getD (i / 64) 0).getLsbD (i % 64)

/-- The word with one bit selected. -/
def mask (i : Nat) : BitVec 64 := 1#64 <<< (i % 64)

/-- Writes the bit at index `i`. -/
def set (b : Bits) (i : Nat) (v : Bool) : Bits :=
  ⟨b.words.modify (i / 64) fun w => if v then w ||| mask i else w &&& ~~~(mask i)⟩

/-- The same number of bits, all false. -/
def clear (b : Bits) : Bits := ⟨b.words.map fun _ => 0⟩

/-- Whether some bit is true. -/
def any (b : Bits) : Bool := b.words.any (· != 0)

/-- Puts the words of `s` where the words of `t` are: those that both have are overwritten, and `t`
loses the words it has too many of or gets those it lacks. -/
def overwrite (t s : Bits) : Bits :=
  ⟨Array.zipWith (fun _ w => w) t.words s.words ++ s.words.extract t.words.size⟩

/-! ## Sizes -/

@[simp] theorem size_zeros (n : Nat) : (zeros n).size = (n + 63) / 64 * 64 := by simp [zeros, size]

@[simp] theorem size_set (b : Bits) (i : Nat) (v : Bool) : (b.set i v).size = b.size := by
  simp [set, size]

@[simp] theorem size_clear (b : Bits) : b.clear.size = b.size := by simp [clear, size]

/-! ## The view `get` -/

theorem get_of_le {b : Bits} {i : Nat} (h : b.size ≤ i) : b.get i = false := by
  have : b.words.size ≤ i / 64 := by simp only [size] at h; omega
  simp [get, this]

@[simp] theorem get_zeros (n i : Nat) : (zeros n).get i = false := by
  simp only [get, zeros, Array.getD_eq_getD_getElem?, Array.getElem?_replicate]
  split <;> simp

@[simp] theorem get_clear (b : Bits) (i : Nat) : b.clear.get i = false := by
  simp only [get, clear, Array.getD_eq_getD_getElem?, Array.getElem?_map]
  cases b.words[i / 64]? <;> simp

theorem getLsbD_mask (i k : Nat) (hk : k < 64) : (mask i).getLsbD k = decide (k = i % 64) := by
  simp only [mask, BitVec.getLsbD_shiftLeft, BitVec.getLsbD_one]
  grind

theorem get_set (b : Bits) (i j : Nat) (v : Bool) :
    (b.set i v).get j = if i = j ∧ i < b.size then v else b.get j := by
  have hj : j % 64 < 64 := Nat.mod_lt _ (by decide)
  simp only [get, set, size, Array.getD_eq_getD_getElem?, Array.getElem?_modify]
  by_cases hw : i / 64 = j / 64
  · by_cases hs : j / 64 < b.words.size
    · rw [if_pos hw, Array.getElem?_eq_getElem hs]
      by_cases hij : i = j
      · subst hij
        have : i < b.words.size * 64 := by omega
        cases v <;> simp [getLsbD_mask, this, hj, -BitVec.getLsbD_eq_getElem]
      · have : j % 64 ≠ i % 64 := by omega
        cases v <;> simp [getLsbD_mask, this, hj, hij, -BitVec.getLsbD_eq_getElem]
    · have : ¬ i < b.words.size * 64 := by omega
      have hn : b.words[j / 64]? = none := by simp; omega
      simp [hw, hn, this]
  · have : i ≠ j := fun h => hw (by rw [h])
    simp [hw, this]

theorem ext_get {a b : Bits} (hs : a.size = b.size) (h : ∀ i, a.get i = b.get i) : a = b := by
  have hw : a.words.size = b.words.size := by simp only [size] at hs; omega
  cases a with | mk u =>
  cases b with | mk v =>
  congr 1
  apply Array.ext hw
  intro k hu hv
  apply BitVec.eq_of_getLsbD_eq
  intro l hl
  have := h (64 * k + l)
  have hk : (64 * k + l) / 64 = k := by omega
  have hm : (64 * k + l) % 64 = l := by omega
  simp only at hu hv
  simpa [get, hk, hm, hu, hv] using this

theorem any_eq_true_iff (b : Bits) : b.any = true ↔ ∃ i, b.get i = true := by
  simp only [any, Array.any_eq_true, bne_iff_ne, ne_eq]
  constructor
  · rintro ⟨k, hk, hne⟩
    have : ∃ l, b.words[k].getLsbD l = true := by
      apply Classical.byContradiction
      intro hall
      apply hne
      apply BitVec.eq_of_getLsbD_eq
      intro l _
      cases hb : b.words[k].getLsbD l with
      | false => simp
      | true => exact absurd ⟨l, hb⟩ hall
    obtain ⟨l, hl⟩ := this
    have hlt : l < 64 := BitVec.lt_of_getLsbD hl
    refine ⟨64 * k + l, ?_⟩
    have h1 : (64 * k + l) / 64 = k := by omega
    have h2 : (64 * k + l) % 64 = l := by omega
    simpa [get, h1, h2, hk] using hl
  · rintro ⟨i, hi⟩
    have hlt : i / 64 < b.words.size := by
      apply Classical.byContradiction
      intro hge
      have : b.size ≤ i := by simp only [size]; omega
      rw [get_of_le this] at hi
      exact Bool.noConfusion hi
    refine ⟨i / 64, hlt, fun h0 => ?_⟩
    simp [get, hlt, h0] at hi

/-! ## Copies -/

/-- What `t` held before does not show. -/
@[simp] theorem overwrite_eq (t s : Bits) : t.overwrite s = s := by
  have hsize : (Array.zipWith (fun _ w => w) t.words s.words).size =
      min t.words.size s.words.size := by simp
  have hwords : (t.overwrite s).words.size = s.words.size := by simp [overwrite]; omega
  refine congrArg Bits.mk (Array.ext hwords fun i hi hi' => ?_)
  by_cases h : i < t.words.size
  · rw [Array.getElem_append_left (by omega), Array.getElem_zipWith]
  · have hindex : t.words.size + (i - min t.words.size s.words.size) = i := by omega
    rw [Array.getElem_append_right (by omega), Array.getElem_extract]
    simp only [hsize, hindex]

end Bits

end SyncCircuit
