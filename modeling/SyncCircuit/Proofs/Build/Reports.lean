import SyncCircuit.Build.Basic
import SyncCircuit.Proofs.Build.Distinct

/-!
# Reports, one statement at a time

What one more statement at the end adds to the report about the declarations, the connections or the
monitors, and to the wiring. It depends on the statements before it through what they have taken: the
names, the input pins and the monitored outputs.

## Main definitions

* `Table.takeErrors`, `Table.monitorStep` — the errors of one more connection and one more monitor.
-/
namespace SyncCircuit

/-! ## Declarations -/

theorem declarationErrors_concat (seen : List String) (ds : List Declaration) (c : Declaration) :
    declarationErrors seen (ds ++ [c]) = declarationErrors seen ds ++ (c.nameErrors ++
      if c.name ∈ seen ∨ c.name ∈ ds.map (·.name) then [.duplicateDeviceName c.name]
      else c.parameterErrors) := by
  induction ds generalizing seen with
  | nil => simp [declarationErrors]
  | cons d ds ih =>
    rw [List.cons_append, declarationErrors, declarationErrors, List.append_assoc, List.map_cons]
    congr 1
    split
    case isTrue hd =>
      have hseen : c.name ∈ seen ∨ c.name ∈ ds.map (·.name) ↔
          c.name ∈ seen ∨ c.name ∈ d.name :: ds.map (·.name) := by
        rw [List.mem_cons, or_left_comm]
        exact (or_iff_right_of_imp fun heq => .inl (heq ▸ hd)).symm
      rw [ih, if_congr hseen rfl rfl, List.cons_append]
    case isFalse hd =>
      have hseen : c.name ∈ d.name :: seen ∨ c.name ∈ ds.map (·.name) ↔
          c.name ∈ seen ∨ c.name ∈ d.name :: ds.map (·.name) := by
        rw [List.mem_cons, List.mem_cons, or_left_comm, or_assoc]
      rw [ih, if_congr hseen rfl rfl, List.append_assoc]

theorem entries_ofDeclarations_concat (ds : List Declaration) (c : Declaration) :
    (Table.ofDeclarations (ds ++ [c])).entries =
      if c.name ∈ ds.map (·.name) then (Table.ofDeclarations ds).entries
      else (Table.ofDeclarations ds).entries ++ [.ofDeclaration c] := by
  rw [Table.ofDeclarations, firstDeclarations, firsts_concat]
  split
  · rfl
  · exact List.map_append

/-! ## Connections -/

namespace Table

variable (t : Table)

theorem connection_of_attachment? {c : Connection} {a : Attachment}
    (h : t.attachment? c = some a) : a.connection = c := by
  rw [attachment?] at h
  split at h <;> cases h <;> rfl

/-- The error of a connection to a pin that another one holds. -/
def takeErrors (c : Connection) (holder? : Option Attachment) : List BuildError :=
  holder?.toList.map fun first =>
    .duplicateDriver c.target.text first.connection.source.text c.source.text

theorem connectionErrors_concat (held : List Attachment) (cs : List Connection) (c : Connection) :
    t.connectionErrors held (cs ++ [c]) = t.connectionErrors held cs ++ (t.endErrors c ++
      takeErrors c ((t.attachment? c).bind fun a => (held.find? (·.target == a.target)).or
        ((cs.filterMap t.attachment?).find? (·.target == a.target)))) := by
  induction cs generalizing held with
  | nil =>
    rw [List.nil_append, connectionErrors, connectionErrors, List.nil_append]
    congr 1
    cases t.attachment? c with
    | none => rfl
    | some a =>
      rw [Option.bind_some, List.filterMap_nil, List.find?_nil, Option.or_none]
      dsimp only
      cases held.find? (·.target == a.target) <;> rfl
  | cons c' cs ih =>
    rw [List.cons_append, connectionErrors, connectionErrors, List.append_assoc]
    congr 1
    cases ha' : t.attachment? c' with
    | none =>
      rw [List.filterMap_cons_none ha']
      exact ih held
    | some a' =>
      rw [List.filterMap_cons_some ha']
      dsimp only
      cases hheld : held.find? (·.target == a'.target) with
      | some first =>
        dsimp only
        rw [List.cons_append, ih]
        congr 4
        refine Option.bind_congr fun a _ => ?_
        -- The holder of its pin comes before `c'`, so nobody finds `c'` in the list.
        rw [List.find?_cons]
        by_cases hsame : a'.target = a.target
        · rw [← hsame, hheld, Option.some_or, Option.some_or]
        · rw [beq_false_of_ne hsame]
      | none =>
        dsimp only
        rw [ih]
        congr 3
        refine Option.bind_congr fun a _ => ?_
        rw [List.find?_cons, List.find?_cons]
        by_cases hsame : a'.target = a.target
        · rw [← hsame, hheld, beq_self_eq_true]
          rfl
        · rw [beq_false_of_ne hsame]

end Table

namespace Wiring

variable {t : Table} {cs : List Connection} {c : Connection} {a : Attachment}

theorem ofConnections_concat_of_none (h : t.attachment? c = none) :
    ofConnections t (cs ++ [c]) = ofConnections t cs := by
  rw [ofConnections, List.filterMap_append, List.filterMap_cons_none h, List.filterMap_nil,
    List.append_nil]
  rfl

theorem isSome_holder?_iff {pin : Pin} : ((ofConnections t cs).holder? pin).isSome ↔
    pin ∈ (cs.filterMap t.attachment?).map (·.target) := by
  rw [holder?_ofConnections, List.find?_isSome, List.mem_map]
  simp only [beq_iff_eq]

/-- A connection to a pin that is held changes nothing. -/
theorem ofConnections_concat_of_held (h : t.attachment? c = some a)
    (hheld : ((ofConnections t cs).holder? a.target).isSome) :
    ofConnections t (cs ++ [c]) = ofConnections t cs := by
  rw [ofConnections, List.filterMap_append, List.filterMap_cons_some h, List.filterMap_nil,
    firsts_concat, if_pos (isSome_holder?_iff.mp hheld)]
  rfl

/-- **A connection to a free pin** holds it from then on. -/
theorem attachments_concat_of_free (h : t.attachment? c = some a)
    (hfree : (ofConnections t cs).holder? a.target = none) :
    (ofConnections t (cs ++ [c])).attachments = (ofConnections t cs).attachments ++ [a] := by
  have hnew : a.target ∉ (cs.filterMap t.attachment?).map (·.target) := by
    rw [← isSome_holder?_iff, hfree]
    exact Bool.false_ne_true
  rw [ofConnections, List.filterMap_append, List.filterMap_cons_some h, List.filterMap_nil,
    firsts_concat, if_neg hnew]
  rfl

/-- A device gets a dependent if it drives the pin. -/
theorem dependents_concat_of_free (h : t.attachment? c = some a)
    (hfree : (ofConnections t cs).holder? a.target = none) (i : Nat) :
    (ofConnections t (cs ++ [c])).dependents i =
      if a.driver.any (·.device == i) ∧ a.target.device ∉ (ofConnections t cs).dependents i then
        (ofConnections t cs).dependents i ++ [a.target.device]
      else (ofConnections t cs).dependents i := by
  rw [dependents, dependents, attachments_concat_of_free h hfree, List.filter_append,
    List.filter_singleton]
  cases hdrives : a.driver.any (·.device == i) with
  | true =>
    rw [cond_true, List.map_append, List.map_singleton, eraseDups_concat]
    simp only [List.mem_eraseDups, true_and, ite_not]
  | false => rw [cond_false, List.append_nil, if_neg fun hboth => Bool.false_ne_true hboth.1]

end Wiring

/-! ## Monitors -/

namespace Table

variable (t : Table)

/-- What is wrong with one monitor, given the outputs named before it. -/
def monitorStep (named : List Pin) (r : OutputRef) : List BuildError :=
  match t.resolveOutput r with
  | .rejected => []
  | .invalid fault => [.invalidMonitorTarget r.text (.reference fault)]
  | .found pin => if pin ∈ named then [.invalidMonitorTarget r.text .alreadyMonitored] else []

theorem monitorStep_congr {r : OutputRef} {named named' : List Pin}
    (h : ∀ pin, pin ∈ named ↔ pin ∈ named') : t.monitorStep named r = t.monitorStep named' r := by
  rw [monitorStep, monitorStep]
  simp only [h]

theorem monitorErrors_concat (seen : List Pin) (rs : List OutputRef) (r : OutputRef) :
    t.monitorErrors seen (rs ++ [r]) = t.monitorErrors seen rs ++
      t.monitorStep (seen ++ rs.filterMap fun r => (t.resolveOutput r).pin?) r := by
  induction rs generalizing seen with
  | nil =>
    rw [List.nil_append, monitorErrors, monitorErrors, monitorErrors, List.nil_append, monitorStep,
      List.filterMap_nil, List.append_nil]
    rfl
  | cons r' rs ih =>
    rw [List.cons_append, monitorErrors, monitorErrors]
    cases hres : t.resolveOutput r' with
    | rejected =>
      have hpin : (t.resolveOutput r').pin? = none := by rw [hres]; rfl
      rw [List.filterMap_cons_none (f := fun r => (t.resolveOutput r).pin?) hpin]
      exact ih seen
    | invalid fault =>
      have hpin : (t.resolveOutput r').pin? = none := by rw [hres]; rfl
      rw [List.filterMap_cons_none (f := fun r => (t.resolveOutput r).pin?) hpin]
      exact congrArg (_ :: ·) (ih seen)
    | found pin =>
      have hpin : (t.resolveOutput r').pin? = some pin := by rw [hres]; rfl
      rw [List.filterMap_cons_some (f := fun r => (t.resolveOutput r).pin?) hpin]
      dsimp only
      split
      case isTrue hmem =>
        rw [List.cons_append, ih]
        congr 2
        refine t.monitorStep_congr fun p => ?_
        rw [List.mem_append, List.mem_append, List.mem_cons, or_left_comm]
        exact (or_iff_right_of_imp fun heq => .inl (heq ▸ hmem)).symm
      case isFalse hmem =>
        rw [ih]
        congr 1
        refine t.monitorStep_congr fun p => ?_
        rw [List.mem_append, List.mem_append, List.mem_cons, List.mem_cons, or_left_comm, or_assoc]

end Table
end SyncCircuit
