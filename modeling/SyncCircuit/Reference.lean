/-!
# References to pins

A pin is referred to by the name of its device and its own label, written with a dot between them.
A reference to an output that has no label is the bare name. Reading splits at the first dot;
`text_ofText` says that a reference read from a text is displayed as that text.
-/
namespace SyncCircuit

/-- The text before the first dot, and the text behind it if there is a dot. -/
def splitAtDot (s : String) : String × Option String :=
  match s.toList.dropWhile (· != '.') with
  | [] => (s, none)
  | _ :: rest => (String.ofList (s.toList.takeWhile (· != '.')), some (String.ofList rest))

/-- A reference to an output pin. -/
structure OutputRef where
  device : String
  pin : Option String
deriving DecidableEq, Repr

/-- A reference to an input pin. -/
structure InputRef where
  device : String
  pin : String
deriving DecidableEq, Repr

/-- Reads a reference; without a dot it has no pin label. -/
def OutputRef.ofText (s : String) : OutputRef := ⟨(splitAtDot s).1, (splitAtDot s).2⟩

/-- The displayed form of a reference. -/
def OutputRef.text (r : OutputRef) : String :=
  match r.pin with
  | some pin => r.device ++ "." ++ pin
  | none => r.device

/-- Reads a reference; without a dot its pin label is empty. -/
def InputRef.ofText (s : String) : InputRef := ⟨(splitAtDot s).1, (splitAtDot s).2.getD ""⟩

/-- The displayed form of a reference, always with a dot. -/
def InputRef.text (r : InputRef) : String := r.device ++ "." ++ r.pin

/-! ## Reading what was written -/

theorem splitAtDot_of_not_mem {s : String} (h : '.' ∉ s.toList) : splitAtDot s = (s, none) := by
  have hp : ∀ c ∈ s.toList, (c != '.') = true := fun c hc => by
    simpa using fun (e : c = '.') => h (e ▸ hc)
  have hd : s.toList.dropWhile (· != '.') = [] := by
    rw [← List.append_nil s.toList, List.dropWhile_append_of_pos hp, List.dropWhile_nil]
  rw [splitAtDot, hd]

theorem splitAtDot_append {s t : String} (h : '.' ∉ s.toList) :
    splitAtDot (s ++ "." ++ t) = (s, some t) := by
  have hp : ∀ c ∈ s.toList, (c != '.') = true := fun c hc => by
    simpa using fun (e : c = '.') => h (e ▸ hc)
  have hd : (s ++ "." ++ t).toList.dropWhile (· != '.') = '.' :: t.toList := by
    simp [List.dropWhile_append_of_pos hp]
  have ht : (s ++ "." ++ t).toList.takeWhile (· != '.') = s.toList := by
    simp [List.takeWhile_append_of_pos hp]
  rw [splitAtDot, hd, ht]
  simp

theorem append_of_splitAtDot {s u v : String} (h : splitAtDot s = (u, some v)) :
    s = u ++ "." ++ v := by
  unfold splitAtDot at h
  split at h
  · simp at h
  · rename_i c rest hrest
    have hc : c = '.' := by
      have := List.head_dropWhile_not (· != '.') (l := s.toList) (by simp [hrest])
      simpa [hrest] using this
    have happ := List.takeWhile_append_dropWhile (p := (· != '.')) (l := s.toList)
    obtain ⟨rfl, rfl⟩ : String.ofList (s.toList.takeWhile (· != '.')) = u ∧
        String.ofList rest = v := by simpa using h
    rw [hrest, hc] at happ
    apply String.toList_inj.mp
    simpa using happ.symm

theorem fst_splitAtDot_of_none {s : String} (h : (splitAtDot s).2 = none) :
    (splitAtDot s).1 = s := by
  unfold splitAtDot at h ⊢
  split <;> simp_all

/-- Reading and displaying a reference gives its text back. -/
@[simp] theorem OutputRef.text_ofText (s : String) : (OutputRef.ofText s).text = s := by
  simp only [OutputRef.text, OutputRef.ofText]
  split
  · rename_i pin h
    exact (append_of_splitAtDot (Prod.ext rfl h)).symm
  · rename_i h
    exact fst_splitAtDot_of_none h

end SyncCircuit
