import SyncCircuit.Proofs.Monitor.Trace

/-!
# Monitors with more in them

What is found under a label after each request to monitors, given that labels differ. Then two lists
of monitors can be compared label by label: one may record more outputs than the other, and some of
them for longer, while both are asked for the same. What both have recorded is the same.

## Main definitions

* `Trace.Extends` — a trace goes further back than another one of the same output.
* `Monitors.Includes` — for every trace there is one that extends it.
-/
namespace SyncCircuit

/-! ## Traces that go further back -/

/-- The newest elements of a list that ends with another one. -/
theorem newest_suffix_newest {α : Type} (bound : Option Nat) {l l' : List α} (h : l <:+ l') :
    newest bound l <:+ newest bound l' := by
  refine List.suffix_of_suffix_length_le ((newest_suffix bound l).trans h) (newest_suffix bound l') ?_
  have hle := h.length_le
  rw [length_newest, length_newest]
  cases bound with
  | none => exact hle
  | some n =>
    show min n l.length ≤ min n l'.length
    omega

namespace Trace

variable {t t' : Trace}

/-- The trace ends with all samples of the other one, and with the same cycle. -/
structure Extends (t' t : Trace) : Prop where
  label : t'.label = t.label
  output : t'.output = t.output
  dated : t'.firstCycle + t'.length = t.firstCycle + t.length
  samples : t.samples.toList <:+ t'.samples.toList

theorem Extends.refl (t : Trace) : t.Extends t := ⟨rfl, rfl, rfl, List.suffix_refl _⟩

/-- Both record the same sample. -/
theorem Extends.push (h : t'.Extends t) (v : Bool) (bound : Option Nat) :
    (t'.push v bound).Extends (t.push v bound) where
  label := by rw [label_push, label_push, h.label]
  output := by rw [output_push, output_push, h.output]
  dated := by rw [firstCycle_add_length_push, firstCycle_add_length_push, h.dated]
  samples := by
    obtain ⟨older, holder⟩ := h.samples
    rw [toList_push, toList_push, ← holder, List.append_assoc]
    exact newest_suffix_newest bound (List.suffix_append older _)

theorem Extends.clear (h : t'.Extends t) (firstCycle : Nat) :
    (t'.clear firstCycle).Extends (t.clear firstCycle) :=
  ⟨h.label, h.output, rfl, List.suffix_refl _⟩

/-- **The same samples**, as far as the shorter trace goes. -/
theorem Extends.atCycle? (h : t'.Extends t) {c : Nat} {v : Bool} (hv : t.atCycle? c = some v) :
    t'.atCycle? c = some v := by
  obtain ⟨older, holder⟩ := h.samples
  have hlength := congrArg List.length holder
  rw [List.length_append, length_toList, length_toList] at hlength
  have hdated := h.dated
  rw [atCycle?_eq] at hv ⊢
  split at hv
  · rename_i hc
    rw [if_pos (by omega), ← holder, List.getElem?_append_right (by omega), ← hv]
    congr 1
    omega
  · cases hv

end Trace

/-! ## Finding traces -/

namespace Monitors

variable {m m' : Monitors} {label : String}

theorem mem_of_find? {t : Trace} (h : m.find? label = some t) : t ∈ m.traces ∧ t.label = label := by
  rw [find?] at h
  exact ⟨List.mem_of_find?_eq_some h, by simpa using List.find?_some h⟩

theorem find?_record (m : Monitors) (s : Signals) (label : String) :
    (m.record s).find? label = (m.find? label).map fun t => t.push (s.get t.output) m.bound := by
  obtain ⟨traces, bound⟩ := m
  rw [find?, record, find?, List.find?_map]
  congr 2
  funext t
  rw [Function.comp_apply, Trace.label_push]

theorem find?_clear (m : Monitors) (firstCycle : Nat) (label : String) :
    (m.clear firstCycle).find? label = (m.find? label).map (·.clear firstCycle) :=
  List.find?_map ..

/-- After adding an output, its label is in use, as before if it was. -/
theorem find?_getD_add? (m : Monitors) (label : String) (o firstCycle : Nat) (other : String) :
    ((m.add? label o firstCycle).getD m).find? other =
      if other = label then some ((m.find? label).getD ⟨label, o, firstCycle, #[]⟩)
      else m.find? other := by
  cases hfound : m.find? label with
  | some t =>
    rw [add?, hfound, Option.getD_none, Option.getD_some]
    split
    case isTrue h => rw [h, hfound]
    case isFalse h => rfl
  | none =>
    rw [add?, hfound, Option.getD_some, Option.getD_none, find?, List.find?_append]
    rw [find?] at hfound
    by_cases h : other = label
    · rw [if_pos h, h, hfound, Option.none_or, List.find?_singleton, if_pos (beq_self_eq_true label)]
    · rw [if_neg h, List.find?_singleton, if_neg (by simpa using Ne.symm h), Option.or_none, find?]

theorem bound_getD_add? (m : Monitors) (label : String) (o firstCycle : Nat) :
    ((m.add? label o firstCycle).getD m).bound = m.bound := by
  cases hadd : m.add? label o firstCycle with
  | none => rfl
  | some m' => exact (add?_cases hadd).2.1

/-- Removing a label erases its trace, if there is one. -/
theorem getD_remove? (m : Monitors) (label : String) :
    ((m.remove? label).map Prod.snd).getD m =
      { m with traces := m.traces.eraseP (·.label == label) } := by
  rw [remove?]
  cases hfound : m.find? label with
  | some t => rfl
  | none =>
    rw [find?, List.find?_eq_none] at hfound
    rw [List.eraseP_of_forall_not hfound]
    rfl

/-- After removing a label, it is not in use. -/
theorem find?_eraseP (hnodup : m.labels.Nodup) (label other : String) :
    ({ m with traces := m.traces.eraseP (·.label == label) } : Monitors).find? other =
      if other = label then none else m.find? other := by
  rw [labels] at hnodup
  rw [find?, find?]
  dsimp only
  generalize m.traces = traces at hnodup ⊢
  induction traces with
  | nil => exact (ite_self none).symm
  | cons t traces ih =>
    rw [List.map_cons, List.nodup_cons] at hnodup
    by_cases ht : t.label = label
    · have herase : (t :: traces).eraseP (·.label == label) = traces :=
        List.eraseP_cons_of_pos (beq_iff_eq.mpr ht)
      rw [herase]
      by_cases hother : other = label
      · -- The head had the label, so no later trace has it.
        rw [if_pos hother, List.find?_eq_none]
        intro u hu heq
        exact hnodup.1 (List.mem_map.mpr ⟨u, hu, (beq_iff_eq.mp heq).trans (hother.trans ht.symm)⟩)
      · have hne : t.label ≠ other := fun heq => hother (heq.symm.trans ht)
        rw [if_neg hother, List.find?_cons, beq_false_of_ne hne]
    · have herase : (t :: traces).eraseP (·.label == label) =
          t :: traces.eraseP (·.label == label) :=
        List.eraseP_cons_of_neg fun heq => ht (beq_iff_eq.mp heq)
      rw [herase, List.find?_cons, List.find?_cons, ih hnodup.2]
      by_cases hother : t.label = other
      · have hne : other ≠ label := hother ▸ ht
        rw [beq_iff_eq.mpr hother, if_neg hne, if_neg hne]
      · rw [beq_false_of_ne hother]

/-! ## Monitors with more in them -/

variable {kept : String → Prop}

/-- For every trace there is one under the same label that extends it, and what some labels find is
the same. -/
structure Includes (m' : Monitors) (kept : String → Prop) (m : Monitors) : Prop where
  bound : m'.bound = m.bound
  traces : ∀ label t, m.find? label = some t → ∃ t', m'.find? label = some t' ∧ t'.Extends t
  same : ∀ label, kept label → m'.find? label = m.find? label

namespace Includes

theorem refl (kept : String → Prop) (m : Monitors) : m.Includes kept m :=
  ⟨rfl, fun _ t ht => ⟨t, ht, .refl t⟩, fun _ _ => rfl⟩

/-- Both record the same values of the outputs that both monitor. -/
theorem record (h : m'.Includes kept m) {s s' : Signals}
    (hs : ∀ t ∈ m.traces, s'.get t.output = s.get t.output) :
    (m'.record s').Includes kept (m.record s) where
  bound := h.bound
  traces label t ht := by
    rw [find?_record, Option.map_eq_some_iff] at ht
    obtain ⟨u, hu, rfl⟩ := ht
    obtain ⟨u', hu', hextends⟩ := h.traces label u hu
    refine ⟨u'.push (s.get u.output) m.bound, ?_, hextends.push _ _⟩
    rw [find?_record, hu', Option.map_some, h.bound, hextends.output, hs u (mem_of_find? hu).1]
  same label hlabel := by
    rw [find?_record, find?_record, h.same label hlabel, h.bound]
    refine Option.map_congr fun t ht => ?_
    rw [hs t (mem_of_find? ht).1]

theorem clear (h : m'.Includes kept m) (firstCycle : Nat) :
    (m'.clear firstCycle).Includes kept (m.clear firstCycle) where
  bound := h.bound
  traces label t ht := by
    rw [find?_clear, Option.map_eq_some_iff] at ht
    obtain ⟨u, hu, rfl⟩ := ht
    obtain ⟨u', hu', hextends⟩ := h.traces label u hu
    exact ⟨u'.clear firstCycle, by rw [find?_clear, hu', Option.map_some], hextends.clear firstCycle⟩
  same label hlabel := by rw [find?_clear, find?_clear, h.same label hlabel]

/-- An output is added to both, or the larger one has monitored it for some time. -/
theorem add (h : m'.Includes kept m) {label : String} {o firstCycle : Nat}
    (hlonger : ∀ t', m'.find? label = some t' → t'.Extends ⟨label, o, firstCycle, #[]⟩) :
    ((m'.add? label o firstCycle).getD m').Includes kept
      ((m.add? label o firstCycle).getD m) where
  bound := by rw [bound_getD_add?, bound_getD_add?, h.bound]
  traces other t ht := by
    rw [find?_getD_add?] at ht ⊢
    split at ht
    case isFalse hother =>
      rw [if_neg hother]
      exact h.traces other t ht
    case isTrue hother =>
      rw [if_pos hother]
      refine ⟨_, rfl, ?_⟩
      obtain rfl := Option.some.inj ht
      cases hfind : m.find? label with
      | some u =>
        obtain ⟨u', hu', hextends⟩ := h.traces label u hfind
        rw [hu']
        exact hextends
      | none =>
        cases hfind' : m'.find? label with
        | none => exact .refl _
        | some t' => exact hlonger t' hfind'
  same other hother := by
    rw [find?_getD_add?, find?_getD_add?]
    split
    case isTrue heq => rw [h.same label (heq ▸ hother)]
    case isFalse => exact h.same other hother

/-- An output is added to the larger one only. -/
theorem add_larger (h : m'.Includes kept m) {label : String} (hkept : ¬ kept label)
    (o firstCycle : Nat) : ((m'.add? label o firstCycle).getD m').Includes kept m where
  bound := by rw [bound_getD_add?, h.bound]
  traces other t ht := by
    rw [find?_getD_add?]
    obtain ⟨t', ht', hextends⟩ := h.traces other t ht
    refine ⟨t', ?_, hextends⟩
    split
    case isTrue heq => rw [← heq, ht', Option.getD_some]
    case isFalse => exact ht'
  same other hother := by
    have hne : other ≠ label := fun heq => hkept (heq ▸ hother)
    rw [find?_getD_add?, if_neg hne]
    exact h.same other hother

/-- A label is removed from both. -/
theorem remove (h : m'.Includes kept m) (hnodup : m.labels.Nodup) (hnodup' : m'.labels.Nodup)
    (label : String) :
    (((m'.remove? label).map Prod.snd).getD m').Includes kept
      (((m.remove? label).map Prod.snd).getD m) := by
  rw [getD_remove?, getD_remove?]
  refine ⟨h.bound, fun other t ht => ?_, fun other hother => ?_⟩
  · rw [find?_eraseP hnodup] at ht
    rw [find?_eraseP hnodup']
    split at ht
    case isTrue => cases ht
    case isFalse hne =>
      rw [if_neg hne]
      exact h.traces other t ht
  · rw [find?_eraseP hnodup, find?_eraseP hnodup', h.same other hother]

end Includes

end Monitors

end SyncCircuit
