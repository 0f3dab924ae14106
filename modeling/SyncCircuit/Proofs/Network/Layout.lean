import SyncCircuit.Network.Basic
import SyncCircuit.Proofs.Catalog.Pin

/-!
# The numbering of outputs

The outputs of a network are numbered device by device. In any network, number `o` belongs to the
device before which at most `o` outputs are counted; a network is `WellFormed` if the numbers its
devices carry agree with this count. Then outputs of different devices never share a number.
-/
namespace SyncCircuit

/-! ## Places in concatenations -/

section Flatten

variable {α β : Type} {f : α → List β}

theorem getElem?_flatMap_of_lt {as : List α} {a : α} {i k : Nat} (ha : as[i]? = some a)
    (hk : k < (f a).length) :
    (as.flatMap f)[((as.take i).flatMap f).length + k]? = (f a)[k]? := by
  induction as generalizing i with
  | nil => simp at ha
  | cons b as ih =>
    cases i with
    | zero =>
      obtain rfl : b = a := by simpa using ha
      simp [List.getElem?_append_left hk]
    | succ i =>
      have := ih (by simpa using ha)
      rw [List.take_succ_cons, List.flatMap_cons, List.flatMap_cons, List.length_append,
        List.getElem?_append_right (by omega), ← this]
      congr 1
      omega

theorem exists_of_getElem?_flatMap {as : List α} {o : Nat} {b : β}
    (h : (as.flatMap f)[o]? = some b) : ∃ i a k, as[i]? = some a ∧ (f a)[k]? = some b ∧
      o = ((as.take i).flatMap f).length + k := by
  induction as generalizing o with
  | nil => simp at h
  | cons a as ih =>
    rw [List.flatMap_cons] at h
    by_cases ho : o < (f a).length
    · rw [List.getElem?_append_left ho] at h
      exact ⟨0, a, o, rfl, h, by simp⟩
    · rw [List.getElem?_append_right (by omega)] at h
      obtain ⟨i, a', k, ha', hk, heq⟩ := ih h
      refine ⟨i + 1, a', k, by simpa using ha', hk, ?_⟩
      rw [List.take_succ_cons, List.flatMap_cons, List.length_append]
      omega

theorem take_zipIdx (as : List α) (i : Nat) : as.zipIdx.take i = (as.take i).zipIdx := by
  refine List.ext_getElem? fun j => ?_
  by_cases h : j < i <;> simp [List.getElem?_take, h]

end Flatten

/-! ## Numbered outputs -/

section Pins

variable {α : Type} (count : α → Nat) (as : List α)

theorem pins_map {β : Type} (f : β → α) (bs : List β) :
    pins count (bs.map f) = pins (fun b => count (f b)) bs := by
  rw [pins, List.zipIdx_map, List.flatMap_map]
  rfl

/-- Of the devices only the numbers of their pins are looked at. -/
theorem pins_congr {β : Type} {count : α → Nat} {as : List α} {count' : β → Nat} {bs : List β}
    (h : as.map count = bs.map count') : pins count as = pins count' bs :=
  calc pins count as
    _ = pins id (as.map count) := (pins_map id count as).symm
    _ = pins id (bs.map count') := by rw [h]
    _ = pins count' bs := pins_map id count' bs

theorem pinsBefore_congr {β : Type} {count : α → Nat} {as : List α} {count' : β → Nat}
    {bs : List β} (h : as.map count = bs.map count') (i : Nat) :
    pinsBefore count as i = pinsBefore count' bs i := by
  have htake : (as.take i).map count = (bs.take i).map count' := by
    rw [List.map_take, List.map_take, h]
  rw [pinsBefore, pinsBefore, pins_congr htake]

theorem pinsBefore_append (bs : List α) {i : Nat} (hi : i ≤ as.length) :
    pinsBefore count (as ++ bs) i = pinsBefore count as i := by
  rw [pinsBefore, pinsBefore, List.take_append_of_le_length hi]

theorem length_pins : (pins count as).length = pinsBefore count as as.length := by
  rw [pinsBefore, List.take_length]

theorem length_flatMap_take (i : Nat) :
    ((as.zipIdx.take i).flatMap fun (a, i) => (List.range (count a)).map fun k => Pin.mk i k).length =
      pinsBefore count as i := by
  rw [take_zipIdx]
  rfl

/-- **A number belongs to the output** it is reached by in counting. -/
theorem getElem?_pins_eq_some_iff {o : Nat} {pin : Pin} :
    (pins count as)[o]? = some pin ↔ ∃ a, as[pin.device]? = some a ∧ pin.position < count a ∧
      o = pinsBefore count as pin.device + pin.position := by
  constructor
  · intro h
    obtain ⟨i, ⟨a, j⟩, k, hi, hk, ho⟩ := exists_of_getElem?_flatMap h
    rw [List.getElem?_zipIdx, Option.map_eq_some_iff] at hi
    obtain ⟨a', ha, heq⟩ := hi
    obtain ⟨rfl, rfl⟩ : a' = a ∧ i = j := by simpa using heq
    rw [List.getElem?_map, Option.map_eq_some_iff] at hk
    obtain ⟨k', hk', rfl⟩ := hk
    obtain ⟨hlt, rfl⟩ := List.getElem?_eq_some_iff.mp hk'
    rw [List.length_range] at hlt
    rw [List.getElem_range]
    rw [length_flatMap_take] at ho
    exact ⟨a', ha, hlt, ho⟩
  · intro ⟨a, ha, hlt, ho⟩
    have hi : as.zipIdx[pin.device]? = some (a, pin.device) := by
      rw [List.getElem?_zipIdx, ha]
      simp
    rw [ho, ← length_flatMap_take, pins, getElem?_flatMap_of_lt hi (by simpa using hlt)]
    simp [hlt]

end Pins

namespace Network

variable {net : Network}

/-- The number of outputs of the devices before an index. -/
def outputsBefore (net : Network) (i : Nat) : Nat :=
  pinsBefore (·.component.outputCount) net.devices i

/-- The table of outputs. -/
theorem getElem?_outputs_eq_some_iff {o : Nat} {pin : Pin} :
    net.outputs[o]? = some pin ↔ ∃ dev, net.devices[pin.device]? = some dev ∧
      pin.position < dev.component.outputCount ∧ o = net.outputsBefore pin.device + pin.position :=
  getElem?_pins_eq_some_iff (·.component.outputCount) net.devices

/-- What the rest of the program relies on in a network. -/
structure WellFormed (net : Network) : Prop where
  nodup_names : (net.devices.map (·.name)).Nodup
  firstOutput : ∀ i dev, net.devices[i]? = some dev → dev.firstOutput = net.outputsBefore i
  allowsInputs : ∀ dev ∈ net.devices, dev.component.AllowsInputs dev.drivers.length
  driver_lt : ∀ dev ∈ net.devices, ∀ o ∈ dev.drivers, o < net.outputCount

namespace WellFormed

theorem getElem?_outputs (h : net.WellFormed) {i k : Nat} {dev : Device}
    (hdev : net.devices[i]? = some dev) (hk : k < dev.component.outputCount) :
    net.outputs[dev.firstOutput + k]? = some ⟨i, k⟩ := by
  rw [getElem?_outputs_eq_some_iff, h.firstOutput i dev hdev]
  exact ⟨dev, hdev, hk, rfl⟩

theorem exists_of_lt (h : net.WellFormed) {o : Nat} (ho : o < net.outputCount) :
    ∃ (i k : Nat) (dev : Device), net.devices[i]? = some dev ∧ k < dev.component.outputCount ∧
      o = dev.firstOutput + k := by
  obtain ⟨dev, hdev, hk, heq⟩ :=
    getElem?_outputs_eq_some_iff.mp (List.getElem?_eq_getElem ho)
  rw [← h.firstOutput _ dev hdev] at heq
  exact ⟨_, _, dev, hdev, hk, heq⟩

theorem output_lt (h : net.WellFormed) {i k : Nat} {dev : Device}
    (hdev : net.devices[i]? = some dev) (hk : k < dev.component.outputCount) :
    dev.firstOutput + k < net.outputCount :=
  (List.getElem?_eq_some_iff.mp (h.getElem?_outputs hdev hk)).1

/-- Outputs of different devices have different numbers. -/
theorem output_inj (h : net.WellFormed) {i j k l : Nat} {dev dev' : Device}
    (hi : net.devices[i]? = some dev) (hj : net.devices[j]? = some dev')
    (hk : k < dev.component.outputCount) (hl : l < dev'.component.outputCount)
    (heq : dev.firstOutput + k = dev'.firstOutput + l) : i = j ∧ k = l := by
  have hik := h.getElem?_outputs hi hk
  rw [heq, h.getElem?_outputs hj hl] at hik
  have hpin := Option.some.inj hik
  exact ⟨(congrArg Pin.device hpin).symm, (congrArg Pin.position hpin).symm⟩

end WellFormed

end Network

end SyncCircuit
