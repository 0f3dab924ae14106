import Mathlib.Data.List.DropRight
import Mathlib.Data.List.Nodup
import SyncCircuit.Run.Basic

/-!
# What traces hold

A trace holds the newest values of its output, from those since its monitor was added, and the cycle
of the first one. Both move when a sample is recorded, and more so when old samples are dropped, but
they stay in step: `Trace.Records` is kept by `Trace.push`, and it says what every cycle shows.

## Main definitions

* `newest` — the last elements of a list, as many as a bound allows.
* `Trace.Records` — a trace holds the newest values of a history.
-/
namespace SyncCircuit

/-! ## The newest elements of a list -/

section Newest

variable {α : Type} (bound : Option Nat)

/-- The last elements of a list, as many as a bound allows. -/
def newest (l : List α) : List α := bound.elim l l.rtake

theorem newest_suffix (l : List α) : newest bound l <:+ l := by
  cases bound with
  | none => exact List.suffix_refl l
  | some n => exact List.drop_suffix _ l

theorem length_newest (l : List α) : (newest bound l).length = bound.elim id min l.length := by
  cases bound with
  | none => rfl
  | some n =>
    show (l.drop (l.length - n)).length = min n l.length
    rw [List.length_drop]
    omega

/-- Older elements may be dropped before a new one comes, or after. -/
theorem newest_newest_concat (l : List α) (a : α) :
    newest bound (newest bound l ++ [a]) = newest bound (l ++ [a]) := by
  cases bound with
  | none => rfl
  | some n =>
    show (l.drop (l.length - n) ++ [a]).drop ((l.drop (l.length - n) ++ [a]).length - n) =
      (l ++ [a]).drop ((l ++ [a]).length - n)
    rw [← List.drop_append_of_le_length (Nat.sub_le _ _), List.drop_drop]
    congr 1
    simp only [List.length_drop, List.length_append, List.length_singleton]
    omega

end Newest

/-! ## Traces -/

namespace Trace

theorem toList_push (t : Trace) (v : Bool) (bound : Option Nat) :
    (t.push v bound).samples.toList = newest bound (t.samples.toList ++ [v]) := by
  cases bound with
  | none => exact Array.toList_push
  | some n =>
    show ((t.samples.push v).extract ((t.samples.push v).size - n) (t.samples.push v).size).toList =
      (t.samples.toList ++ [v]).drop ((t.samples.toList ++ [v]).length - n)
    rw [Array.toList_extract, List.extract_eq_take_drop, ← Array.toList_push, Array.length_toList,
      List.take_of_length_le (by rw [List.length_drop, Array.length_toList])]

theorem length_toList (t : Trace) : t.samples.toList.length = t.length := Array.length_toList

theorem atCycle?_eq (t : Trace) (c : Nat) :
    t.atCycle? c = if t.firstCycle ≤ c then t.samples.toList[c - t.firstCycle]? else none := by
  rw [atCycle?, Array.getElem?_toList]

/-- The trace holds the newest values of a history, which starts with cycle one, from those after
the first `since` cycles. The sample recorded next belongs to the cycle after the history. -/
structure Records (t : Trace) (bound : Option Nat) (since : Nat) (history : List Bool) : Prop where
  since_le : since ≤ history.length
  samples : t.samples.toList = newest bound (history.drop since)
  dated : t.firstCycle + t.length = history.length + 1

namespace Records

variable {t : Trace} {bound : Option Nat} {since : Nat} {history : List Bool}

/-- A trace without samples. -/
theorem of_isEmpty (hsamples : t.samples = #[]) (hfirst : t.firstCycle = history.length + 1) :
    t.Records bound history.length history where
  since_le := le_rfl
  samples := by
    rw [hsamples, List.drop_length]
    exact (List.suffix_nil.mp (newest_suffix bound [])).symm
  dated := by rw [length, hsamples, hfirst]; rfl

/-- **Recording a sample** extends the history. -/
theorem push (h : t.Records bound since history) (v : Bool) :
    (t.push v bound).Records bound since (history ++ [v]) where
  since_le := by
    rw [List.length_append]
    exact h.since_le.trans (Nat.le_add_right _ _)
  samples := by
    rw [toList_push, h.samples, newest_newest_concat, List.drop_append_of_le_length h.since_le]
  dated := by
    rw [firstCycle_add_length_push, h.dated, List.length_append, List.length_singleton]

theorem length_eq (h : t.Records bound since history) :
    t.length = bound.elim id min (history.length - since) := by
  rw [← length_toList, h.samples, length_newest, List.length_drop]

/-- The samples are the values of the history from the first cycle that is kept. -/
theorem eq_drop (h : t.Records bound since history) :
    t.samples.toList = history.drop (t.firstCycle - 1) := by
  have hsuffix : t.samples.toList <:+ history := by
    rw [h.samples]
    exact (newest_suffix bound _).trans (List.drop_suffix since history)
  have hdated := h.dated
  have hlength := t.length_toList
  have hle := hsuffix.length_le
  conv_lhs => rw [List.suffix_iff_eq_drop.mp hsuffix]
  congr 1
  omega

theorem since_lt_firstCycle (h : t.Records bound since history) : since < t.firstCycle := by
  have hdated := h.dated
  have hsince := h.since_le
  have hle : t.length ≤ history.length - since := by
    rw [← length_toList, ← List.length_drop, h.samples]
    exact (newest_suffix bound _).length_le
  omega

/-- **Every cycle that is kept** shows the value of the history. -/
theorem atCycle? (h : t.Records bound since history) {c : Nat} (hc : t.firstCycle ≤ c) :
    t.atCycle? c = history[c - 1]? := by
  have hfirst := h.since_lt_firstCycle
  rw [atCycle?_eq, if_pos hc, h.eq_drop, List.getElem?_drop]
  congr 1
  omega

theorem isSome_atCycle?_iff (h : t.Records bound since history) (c : Nat) :
    (t.atCycle? c).isSome ↔ t.firstCycle ≤ c ∧ c ≤ history.length := by
  have hfirst := h.since_lt_firstCycle
  by_cases hc : t.firstCycle ≤ c
  · rw [h.atCycle? hc, isSome_getElem?]
    omega
  · rw [atCycle?_eq, if_neg hc]
    exact iff_of_false Bool.false_ne_true fun h => hc h.1

end Records

end Trace

/-! ## Monitors -/

namespace Monitors

variable {m m' : Monitors}

/-- Labels that differ find what was computed from each trace. -/
theorem lookup_of_nodup {α : Type} {f : Trace → α} (h : m.labels.Nodup) {t : Trace}
    (ht : t ∈ m.traces) : (m.traces.map fun t => (t.label, f t)).lookup t.label = some (f t) := by
  rw [labels] at h
  generalize m.traces = traces at h ht
  induction traces with
  | nil => cases ht
  | cons u traces ih =>
    rw [List.map_cons, List.nodup_cons] at h
    rw [List.map_cons, List.lookup_cons]
    obtain rfl | hmem := List.mem_cons.mp ht
    · rw [beq_self_eq_true]
    · have hne : t.label ≠ u.label := by
        intro heq
        exact h.1 (heq ▸ List.mem_map_of_mem hmem)
      rw [beq_false_of_ne hne]
      exact ih h.2 hmem

theorem find?_of_nodup (h : m.labels.Nodup) {t : Trace} (ht : t ∈ m.traces) :
    m.find? t.label = some t := by
  cases hfind : m.find? t.label with
  | none => exact absurd (List.mem_map_of_mem ht) ((m.find?_eq_none_iff _).mp hfind)
  | some u =>
    rw [find?] at hfind
    have hlabel : u.label = t.label := by simpa using List.find?_some hfind
    rw [List.inj_on_of_nodup_map h (List.mem_of_find?_eq_some hfind) ht hlabel]

theorem add?_cases {label : String} {output firstCycle : Nat}
    (h : m.add? label output firstCycle = some m') :
    label ∉ m.labels ∧ m'.bound = m.bound ∧
      m'.traces = m.traces ++ [⟨label, output, firstCycle, #[]⟩] := by
  rw [add?] at h
  split at h
  · cases h
  · rename_i hnone
    cases h
    exact ⟨(m.find?_eq_none_iff label).mp hnone, rfl, rfl⟩

theorem nodup_labels_add? {label : String} {output firstCycle : Nat} (h : m.labels.Nodup)
    (hadd : m.add? label output firstCycle = some m') : m'.labels.Nodup := by
  rw [labels_add? hadd, ← List.concat_eq_append]
  exact List.Nodup.concat (add?_cases hadd).1 h

theorem add?_of_notMem {label : String} (h : label ∉ m.labels) (output firstCycle : Nat) :
    m.add? label output firstCycle =
      some { m with traces := m.traces ++ [⟨label, output, firstCycle, #[]⟩] } := by
  rw [add?, (m.find?_eq_none_iff label).mpr h]

/-- Adding outputs one after the other, under their labels, if these are all different. -/
theorem foldl_add? {net : Network} {ts : List Trace}
    (hlabel : ∀ t ∈ ts, t.label = net.outputLabel t.output)
    (hnodup : (m.labels ++ ts.map (·.label)).Nodup) :
    (ts.map (·.output)).foldl (fun m o => (m.add? (net.outputLabel o) o 1).getD m) m =
      { m with traces := m.traces ++ ts.map (·.clear 1) } := by
  induction ts generalizing m with
  | nil => rw [List.map_nil, List.foldl_nil, List.map_nil, List.append_nil]
  | cons t ts ih =>
    rw [List.map_cons] at hnodup
    have hnew : t.label ∉ m.labels := fun hmem =>
      (List.nodup_cons.mp (List.nodup_middle.mp hnodup)).1 (List.mem_append_left _ hmem)
    rw [List.map_cons, List.foldl_cons, ← hlabel t List.mem_cons_self, add?_of_notMem hnew,
      Option.getD_some, ih (fun u hu => hlabel u (List.mem_cons_of_mem t hu)), List.map_cons,
      List.append_assoc]
    · rfl
    · rw [labels, List.map_append, List.append_assoc]
      exact hnodup

/-- The monitors have no samples yet, and the next cycle is the first. -/
structure Fresh (m : Monitors) (net : Network) (bound : Option Nat) : Prop where
  bound : m.bound = bound
  nodup : m.labels.Nodup
  label : ∀ t ∈ m.traces, t.label = net.outputLabel t.output
  samples : ∀ t ∈ m.traces, t.samples = #[]
  firstCycle : ∀ t ∈ m.traces, t.firstCycle = 1

theorem Fresh.add {net : Network} {bound : Option Nat} (h : m.Fresh net bound) (o : Nat) :
    ((m.add? (net.outputLabel o) o 1).getD m).Fresh net bound := by
  cases hadd : m.add? (net.outputLabel o) o 1 with
  | none => exact h
  | some m' =>
    obtain ⟨-, hbound, htraces⟩ := add?_cases hadd
    have hmem : ∀ t ∈ m'.traces, t ∈ m.traces ∨ t = ⟨net.outputLabel o, o, 1, #[]⟩ := by
      intro t ht
      rwa [htraces, List.mem_append, List.mem_singleton] at ht
    refine ⟨hbound.trans h.bound, ?_, fun t ht => ?_, fun t ht => ?_, fun t ht => ?_⟩
    · exact nodup_labels_add? h.nodup hadd
    all_goals obtain hold | rfl := hmem t ht
    · exact h.label t hold
    · rfl
    · exact h.samples t hold
    · rfl
    · exact h.firstCycle t hold
    · rfl

/-- The monitors that a network wants from the start. -/
theorem fresh_initialMonitors (net : Network) (bound : Option Nat) :
    (Run.initialMonitors net bound).Fresh net bound := by
  refine List.foldlRecOn (motive := fun m => Fresh m net bound) net.monitors _ ?_
    fun m hm o _ => hm.add o
  exact ⟨rfl, List.nodup_nil, by simp, by simp, by simp⟩

/-- Whatever is added, exactly its labels and those from before are in use. -/
theorem mem_labels_foldl_add?_iff {net : Network} {os : List Nat} {label : String} :
    label ∈ (os.foldl (fun m o => (m.add? (net.outputLabel o) o 1).getD m) m).labels ↔
      label ∈ m.labels ∨ ∃ o ∈ os, net.outputLabel o = label := by
  induction os generalizing m with
  | nil => simp
  | cons o os ih =>
    rw [List.foldl_cons, ih, List.exists_mem_cons_iff, ← or_assoc]
    refine or_congr_left ?_
    cases hadd : m.add? (net.outputLabel o) o 1 with
    | none =>
      rw [Option.getD_none]
      refine (or_iff_left_of_imp ?_).symm
      rintro rfl
      by_contra hnew
      rw [add?_of_notMem hnew] at hadd
      cases hadd
    | some m' =>
      rw [Option.getD_some, labels_add? hadd, List.mem_append, List.mem_singleton,
        eq_comm (a := label)]

/-- The labels in use at the start are those of the outputs that the network asks for. -/
theorem mem_labels_initialMonitors_iff {net : Network} {bound : Option Nat} {label : String} :
    label ∈ (Run.initialMonitors net bound).labels ↔
      ∃ o ∈ net.monitors, net.outputLabel o = label := by
  rw [Run.initialMonitors, mem_labels_foldl_add?_iff]
  simp [labels]

/-- Nothing is monitored from the start that the network does not ask for. -/
theorem output_mem_of_mem_initialMonitors {net : Network} {bound : Option Nat} {t : Trace}
    (ht : t ∈ (Run.initialMonitors net bound).traces) : t.output ∈ net.monitors := by
  have hstart : ∀ t ∈ (⟨[], bound⟩ : Monitors).traces, t.output ∈ net.monitors := by simp
  refine List.foldlRecOn (motive := fun m : Monitors => ∀ t ∈ m.traces, t.output ∈ net.monitors)
    net.monitors _ hstart (fun m hm o ho t ht => ?_) t ht
  cases hadd : m.add? (net.outputLabel o) o 1 with
  | none =>
    rw [hadd] at ht
    exact hm t ht
  | some m' =>
    rw [hadd, Option.getD_some, (add?_cases hadd).2.2, List.mem_append, List.mem_singleton] at ht
    rcases ht with ht | rfl
    · exact hm t ht
    · exact ho

end Monitors

end SyncCircuit
