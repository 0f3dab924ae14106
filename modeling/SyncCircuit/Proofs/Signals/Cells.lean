import Mathlib.Order.Bounds.Basic
import SyncCircuit.Signals.Bounded

/-!
# Signals as an array of cells

What `Signals` packs into words is a plain array of bits with their marks. Every operation on the
words does to the cells what its name says, the cells tell signals apart, and an operation that
checks its index checks the bounds of the array.

## Main definitions

* `Cell` — a bit and its mark.
* `Signals.cells` — the array that signals stand for.
* `Signals.Lawful` — what each operation observes of the others.
-/
namespace SyncCircuit

/-- A bit, and whether it changed since the last `tick`. -/
structure Cell where
  value : Bool
  changed : Bool
deriving DecidableEq, Repr

namespace Cell

/-- A cell that has not been written. -/
def blank : Cell := ⟨false, false⟩

/-- Writes the cell. Only another value is a change. -/
def put (c : Cell) (v : Bool) : Cell := ⟨v, c.changed || c.value != v⟩

/-- Takes the mark away. -/
def unmark (c : Cell) : Cell := ⟨c.value, false⟩

end Cell

namespace Signals

/-- The number of bits allocated for `n`. -/
def allocated (n : Nat) : Nat := (n + 63) / 64 * 64

theorem isLeast_allocated (n : Nat) : IsLeast {m | 64 ∣ m ∧ n ≤ m} (allocated n) := by
  refine ⟨⟨Nat.dvd_mul_left _ _, by unfold allocated; omega⟩, fun m hm => ?_⟩
  obtain ⟨⟨k, rfl⟩, hle⟩ := hm
  unfold allocated
  omega

/-- The cells that signals stand for. -/
def cells (s : Signals) : List Cell := (List.range s.size).map fun i => ⟨s.get i, s.isChanged i⟩

variable {s t : Signals} {i j : Nat}

@[simp] theorem length_cells (s : Signals) : s.cells.length = s.size := by simp [cells]

theorem getElem?_cells (s : Signals) (i : Nat) :
    s.cells[i]? = if i < s.size then some ⟨s.get i, s.isChanged i⟩ else none := by
  by_cases h : i < s.size <;> simp [cells, h]

theorem isChanged_of_le (h : s.size ≤ i) : s.isChanged i = false :=
  Bits.get_of_le (s.size_marks.trans_le h)

/-- **The cells tell signals apart.** -/
theorem cells_inj : s.cells = t.cells ↔ s = t := by
  refine ⟨fun h => ?_, congrArg cells⟩
  have hsize : s.size = t.size := by simpa using congrArg List.length h
  have hcell : ∀ i < s.size, s.get i = t.get i ∧ s.isChanged i = t.isChanged i := by
    intro i hi
    have hget : s.cells[i]? = t.cells[i]? := by rw [h]
    rw [getElem?_cells, getElem?_cells, if_pos hi, if_pos (hsize ▸ hi)] at hget
    simpa using hget
  refine ext_get hsize (fun i => ?_) fun i => ?_
  · by_cases hi : i < s.size
    · exact (hcell i hi).1
    · rw [get_of_le (by omega), get_of_le (by omega)]
  · by_cases hi : i < s.size
    · exact (hcell i hi).2
    · rw [isChanged_of_le (by omega), isChanged_of_le (by omega)]

/-! ## Operations -/

theorem cells_ofSize (n : Nat) : (ofSize n).cells = List.replicate (allocated n) Cell.blank := by
  refine List.ext_getElem? fun i => ?_
  rw [getElem?_cells, List.getElem?_replicate, size_ofSize, get_ofSize, isChanged_ofSize]
  rfl

theorem cells_set (s : Signals) (i : Nat) (v : Bool) :
    (s.set i v).cells = s.cells.set i (Cell.put ⟨s.get i, s.isChanged i⟩ v) := by
  refine List.ext_getElem? fun j => ?_
  rw [List.getElem?_set, getElem?_cells, getElem?_cells, size_set, get_set, isChanged_set,
    length_cells]
  by_cases hij : i = j
  · subst hij
    by_cases hi : i < s.size <;> simp [hi, Cell.put, differs]
  · simp [hij]

theorem cells_tick (s : Signals) : s.tick.cells = s.cells.map Cell.unmark := by
  refine List.ext_getElem? fun i => ?_
  rw [List.getElem?_map, getElem?_cells, getElem?_cells, size_tick, get_tick, isChanged_tick]
  by_cases h : i < s.size <;> simp [h, Cell.unmark]

theorem anyChanged_eq_any (s : Signals) : s.anyChanged = s.cells.any (·.changed) := by
  rw [Bool.eq_iff_iff, anyChanged_eq_true_iff, List.any_eq_true]
  constructor
  · rintro ⟨i, hi⟩
    have hlt : i < s.size := by
      by_contra hle
      rw [isChanged_of_le (by omega)] at hi
      exact Bool.noConfusion hi
    exact ⟨_, List.mem_of_getElem? ((getElem?_cells s i).trans (if_pos hlt)), hi⟩
  · rintro ⟨c, hc, hchanged⟩
    obtain ⟨i, -, rfl⟩ := List.mem_map.mp hc
    exact ⟨i, hchanged⟩

/-! ## Checked operations -/

/-- Signals are the same exactly if all that can be read of them is. -/
theorem eq_iff_reads : s = t ↔
    s.size = t.size ∧ ∀ i, s.read i = t.read i ∧ s.readChanged i = t.readChanged i := by
  constructor
  · rintro rfl
    exact ⟨rfl, fun i => ⟨rfl, rfl⟩⟩
  · rintro ⟨hsize, hreads⟩
    rw [← cells_inj]
    refine List.ext_getElem? fun i => ?_
    rw [getElem?_cells, getElem?_cells]
    by_cases hi : i < s.size
    · obtain ⟨hread, hchanged⟩ := hreads i
      rw [read_of_lt hi, read_of_lt (by omega)] at hread
      rw [readChanged_of_lt hi, readChanged_of_lt (by omega)] at hchanged
      rw [if_pos hi, if_pos (by omega), Except.ok.inj hread, Except.ok.inj hchanged]
    · rw [if_neg hi, if_neg (by omega)]

/-- **What the operations observe of each other.** -/
structure Lawful (s : Signals) : Prop where
  refused : ∀ i, s.size ≤ i → s.read i = .error ⟨i, s.size⟩ ∧
    s.readChanged i = .error ⟨i, s.size⟩ ∧ ∀ v, s.write i v = .error ⟨i, s.size⟩
  write : ∀ i < s.size, ∀ v, ∃ old marked s', s.read i = .ok old ∧ s.readChanged i = .ok marked ∧
    s.write i v = .ok (old != v, s') ∧ s'.size = s.size ∧ s'.read i = .ok v ∧
    s'.readChanged i = .ok (marked || old != v) ∧
    ∀ j ≠ i, s'.read j = s.read j ∧ s'.readChanged j = s.readChanged j
  anyChanged : s.anyChanged = true ↔ ∃ i, s.readChanged i = .ok true
  tick : s.tick.size = s.size ∧ s.tick.anyChanged = false ∧ ∀ i, s.tick.read i = s.read i
  overwrite : ∀ t : Signals, t.overwrite s = s
  equal : ∀ t : Signals, s = t ↔
    s.size = t.size ∧ ∀ i, s.read i = t.read i ∧ s.readChanged i = t.readChanged i

theorem lawful (s : Signals) : s.Lawful where
  refused i h := ⟨within_of_le h _, within_of_le h _, fun v => within_of_le h _⟩
  write i h v := by
    refine ⟨_, _, s.set i v, read_of_lt h, readChanged_of_lt h, write_of_lt h v, size_set s i v,
      ?_, ?_, fun j hj => ?_⟩
    · rw [read_of_lt (by simpa using h), get_set, if_pos ⟨rfl, h⟩]
    · rw [readChanged_of_lt (by simpa using h), isChanged_set]
      simp [h, differs]
    · have hij : ¬ (i = j ∧ i < s.size) := fun hij => hj hij.1.symm
      simp [read, readChanged, within, get_set, isChanged_set, hij]
  anyChanged := by
    rw [anyChanged_eq_true_iff]
    refine exists_congr fun i => ?_
    by_cases hi : i < s.size
    · rw [readChanged_of_lt hi, Except.ok.injEq]
    · simp [readChanged, within, hi, isChanged_of_le (Nat.le_of_not_lt hi)]
  tick := by
    refine ⟨rfl, ?_, fun i => rfl⟩
    rw [anyChanged_eq_any, cells_tick]
    simp [Cell.unmark]
  overwrite t := t.overwrite_eq s
  equal t := eq_iff_reads

end Signals

end SyncCircuit
