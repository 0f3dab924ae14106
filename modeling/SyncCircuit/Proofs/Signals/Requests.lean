import Mathlib.Data.List.Induction
import Mathlib.Logic.Function.Basic
import SyncCircuit.Proofs.Signals.Cells

/-!
# Signals after any requests

A program that uses signals keeps them in variables and creates, writes, reads, ticks, compares and
copies them in any order. Over packed words and over plain arrays of cells it gets the same replies.
What it reads is what its requests have written: a bit has the last value written to it, and is marked
if some write since the last tick has really changed it. Copies take the past of their source along.

## Main definitions

* `Interface`, `packed`, `plain` — the operations, on words and on cells.
* `Request`, `Interface.after`, `Interface.reply` — programs over variables.
* `Past`, `Signals.Remembers` — what has been done to signals, and signals that show it.
-/
namespace SyncCircuit

namespace Signals

/-! ## Two representations -/

/-- The operations on signals, for some way to represent them. -/
structure Interface (σ : Type) where
  make : Nat → σ
  size : σ → Nat
  read : σ → Nat → Except OutOfBounds Bool
  readChanged : σ → Nat → Except OutOfBounds Bool
  write : σ → Nat → Bool → Except OutOfBounds (Bool × σ)
  tick : σ → σ
  anyChanged : σ → Bool
  /-- Copies the second over the first. -/
  overwrite : σ → σ → σ
  equal : σ → σ → Bool

/-- Signals packed into words. -/
def packed : Interface Signals where
  make := ofSize
  size := size
  read := read
  readChanged := readChanged
  write := write
  tick := tick
  anyChanged := anyChanged
  overwrite := overwrite
  equal s t := decide (s = t)

/-- The cell at an index. -/
def cell (cs : List Cell) (i : Nat) : Except OutOfBounds Cell :=
  (cs[i]?).elim (.error ⟨i, cs.length⟩) .ok

/-- Signals as a plain array of cells. -/
def plain : Interface (List Cell) where
  make n := List.replicate (allocated n) Cell.blank
  size := List.length
  read cs i := (cell cs i).map (·.value)
  readChanged cs i := (cell cs i).map (·.changed)
  write cs i v := (cell cs i).map fun c => (c.value != v, cs.set i (c.put v))
  tick cs := cs.map Cell.unmark
  anyChanged cs := cs.any (·.changed)
  overwrite _ cs := cs
  equal cs cs' := decide (cs = cs')

namespace Interface

variable {σ τ : Type}

/-- The operations do the same, seen through `f`. -/
structure Refines (I : Interface σ) (J : Interface τ) (f : σ → τ) : Prop where
  make : ∀ n, f (I.make n) = J.make n
  size : ∀ s, I.size s = J.size (f s)
  read : ∀ s i, I.read s i = J.read (f s) i
  readChanged : ∀ s i, I.readChanged s i = J.readChanged (f s) i
  write : ∀ s i v, (I.write s i v).map (Prod.map id f) = J.write (f s) i v
  tick : ∀ s, f (I.tick s) = J.tick (f s)
  anyChanged : ∀ s, I.anyChanged s = J.anyChanged (f s)
  overwrite : ∀ t s, f (I.overwrite t s) = J.overwrite (f t) (f s)
  equal : ∀ s t, I.equal s t = J.equal (f s) (f t)

end Interface

theorem cell_cells (s : Signals) (i : Nat) :
    cell s.cells i = s.within i ⟨s.get i, s.isChanged i⟩ := by
  rw [cell, getElem?_cells, within, length_cells]
  split <;> rfl

theorem map_within {α β : Type} (s : Signals) (i : Nat) (a : α) (f : α → β) :
    (s.within i a).map f = s.within i (f a) := by
  rw [within, within]
  split <;> rfl

/-- **Packing refines the plain array.** -/
theorem packed_refines : packed.Refines plain cells where
  make := cells_ofSize
  size s := (length_cells s).symm
  read s i := by
    show s.within i _ = (cell s.cells i).map _
    rw [cell_cells, map_within]
  readChanged s i := by
    show s.within i _ = (cell s.cells i).map _
    rw [cell_cells, map_within]
  write s i v := by
    show (s.within i _).map _ = (cell s.cells i).map _
    rw [cell_cells, map_within, map_within]
    simp only [Prod.map_apply, id_eq, cells_set, differs]
  tick := cells_tick
  anyChanged := anyChanged_eq_any
  overwrite t s := congrArg cells (t.overwrite_eq s)
  equal s t := by simp [packed, plain, cells_inj]

/-! ## Programs -/

/-- A request about signals that are kept in numbered variables. -/
inductive Request where
  /-- Puts new signals into the variable. -/
  | make (x n : Nat)
  | write (x i : Nat) (v : Bool)
  | read (x i : Nat)
  | readChanged (x i : Nat)
  | tick (x : Nat)
  | anyChanged (x : Nat)
  | size (x : Nat)
  /-- Puts a copy of the second variable into the first. -/
  | copy (x y : Nat)
  /-- Copies the second variable over the signals in the first. -/
  | overwrite (x y : Nat)
  | equal (x y : Nat)
deriving DecidableEq, Repr

/-- The reply to a request. -/
inductive Reply where
  | done
  | flag (b : Bool)
  | count (n : Nat)
  | refused (fault : OutOfBounds)
deriving DecidableEq, Repr

/-- The reply to a request that reads a bit. -/
def Reply.ofRead : Except OutOfBounds Bool → Reply
  | .ok b => .flag b
  | .error fault => .refused fault

namespace Interface

variable {σ τ : Type}

open Function (update)

/-- Carries out a request. A refused write leaves the variables alone. -/
def perform (I : Interface σ) (vars : Nat → σ) : Request → (Nat → σ) × Reply
  | .make x n => (update vars x (I.make n), .done)
  | .write x i v =>
    match I.write (vars x) i v with
    | .ok (differs, s) => (update vars x s, .flag differs)
    | .error fault => (vars, .refused fault)
  | .read x i => (vars, .ofRead (I.read (vars x) i))
  | .readChanged x i => (vars, .ofRead (I.readChanged (vars x) i))
  | .tick x => (update vars x (I.tick (vars x)), .done)
  | .anyChanged x => (vars, .flag (I.anyChanged (vars x)))
  | .size x => (vars, .count (I.size (vars x)))
  | .copy x y => (update vars x (vars y), .done)
  | .overwrite x y => (update vars x (I.overwrite (vars x) (vars y)), .done)
  | .equal x y => (vars, .flag (I.equal (vars x) (vars y)))

/-- The variables after some requests. At first they hold no bits. -/
def after (I : Interface σ) (rs : List Request) : Nat → σ :=
  rs.foldl (fun vars r => (I.perform vars r).1) fun _ => I.make 0

/-- The reply to one more request. -/
def reply (I : Interface σ) (rs : List Request) (r : Request) : Reply := (I.perform (I.after rs) r).2

variable {I : Interface σ} {J : Interface τ} {f : σ → τ}

theorem after_concat (I : Interface σ) (rs : List Request) (r : Request) :
    I.after (rs ++ [r]) = (I.perform (I.after rs) r).1 := by
  rw [after, List.foldl_append]
  rfl

namespace Refines

/-- One request leads to the same. -/
theorem perform (h : I.Refines J f) (vars : Nat → σ) (r : Request) :
    J.perform (f ∘ vars) r = (f ∘ (I.perform vars r).1, (I.perform vars r).2) := by
  cases r with
  | write x i v =>
    have hwrite := h.write (vars x) i v
    simp only [Interface.perform, Function.comp_apply, ← hwrite]
    cases I.write (vars x) i v with
    | error fault => rfl
    | ok answer => simp [Except.map, Function.comp_update]
  | make x n => simp [Interface.perform, Function.comp_update, h.make]
  | tick x => simp [Interface.perform, Function.comp_update, h.tick]
  | copy x y => simp [Interface.perform, Function.comp_update]
  | overwrite x y => simp [Interface.perform, Function.comp_update, h.overwrite]
  | read x i => simp [Interface.perform, h.read]
  | readChanged x i => simp [Interface.perform, h.readChanged]
  | anyChanged x => simp [Interface.perform, h.anyChanged]
  | size x => simp [Interface.perform, h.size]
  | equal x y => simp [Interface.perform, h.equal]

/-- **Any requests** lead to the same. -/
theorem after (h : I.Refines J f) (rs : List Request) : f ∘ I.after rs = J.after rs := by
  induction rs using List.reverseRecOn with
  | nil => exact funext fun _ => h.make 0
  | append_singleton rs r ih => rw [after_concat, after_concat, ← ih, h.perform]

theorem reply (h : I.Refines J f) (rs : List Request) (r : Request) :
    I.reply rs r = J.reply rs r := by
  rw [Interface.reply, Interface.reply, ← h.after, h.perform]

end Refines

/-- A refusal changes nothing. -/
theorem after_of_refused {rs : List Request} {r : Request} {fault : OutOfBounds}
    (h : I.reply rs r = .refused fault) : I.after (rs ++ [r]) = I.after rs := by
  rw [after_concat]
  rw [reply] at h
  cases r with
  | write x i v =>
    cases hwrite : I.write (I.after rs x) i v <;> simp_all [Interface.perform]
  | _ => first | rfl | cases h

end Interface

/-! ## The past -/

/-- What can be done to signals after their creation. -/
inductive Step where
  | write (i : Nat) (v : Bool)
  | tick
deriving DecidableEq, Repr

/-- The value a step writes to a bit. -/
def Step.writes? (i : Nat) : Step → Option Bool
  | .write j v => if j = i then some v else none
  | .tick => none

/-- The last value that has been written to a bit, at first false. -/
def lastWritten (steps : List Step) (i : Nat) : Bool :=
  (steps.reverse.findSome? (·.writes? i)).getD false

/-- Some write since the last tick has really changed the bit. -/
def Altered (steps : List Step) (i : Nat) : Prop := ∃ before v since,
  steps = before ++ .write i v :: since ∧ .tick ∉ since ∧ lastWritten before i ≠ v

section Steps

variable {steps : List Step} {i j : Nat} {v : Bool}

theorem lastWritten_concat (steps : List Step) (step : Step) (i : Nat) :
    lastWritten (steps ++ [step]) i = (step.writes? i).getD (lastWritten steps i) := by
  rw [lastWritten, List.reverse_concat, List.findSome?_cons]
  cases step.writes? i <;> rfl

/-- What one more step means for the mark of a bit. -/
theorem altered_concat {step : Step} : Altered (steps ++ [step]) i ↔
    (Altered steps i ∧ step ≠ .tick) ∨ ∃ v, step = .write i v ∧ lastWritten steps i ≠ v := by
  constructor
  · rintro ⟨before, v, since, heq, htick, hne⟩
    rcases List.eq_nil_or_concat since with rfl | ⟨since, last, rfl⟩
    · obtain ⟨rfl, hlast⟩ := List.append_inj' heq rfl
      exact .inr ⟨v, List.singleton_inj.mp hlast, hne⟩
    · rw [List.concat_eq_append] at heq htick
      rw [← List.cons_append, ← List.append_assoc] at heq
      obtain ⟨rfl, hlast⟩ := List.append_inj' heq rfl
      obtain rfl := List.singleton_inj.mp hlast
      refine .inl ⟨⟨before, v, since, rfl, fun h => htick (by simp [h]), hne⟩, ?_⟩
      rintro rfl
      exact htick (by simp)
  · rintro (⟨⟨before, v, since, rfl, htick, hne⟩, hstep⟩ | ⟨v, rfl, hne⟩)
    · exact ⟨before, v, since ++ [step], by simp, by simp [htick, hstep.symm], hne⟩
    · exact ⟨steps, v, [], rfl, List.not_mem_nil, hne⟩

theorem altered_concat_write :
    Altered (steps ++ [.write j v]) i ↔ Altered steps i ∨ (j = i ∧ lastWritten steps i ≠ v) := by
  rw [altered_concat]
  by_cases hij : j = i <;> simp [hij]

theorem not_altered_concat_tick : ¬ Altered (steps ++ [.tick]) i := by simp [altered_concat]

theorem not_altered_nil : ¬ Altered [] i := by
  rintro ⟨before, v, since, heq, -⟩
  simp at heq

end Steps

/-- What has been done to signals: the number of bits that were asked for, and the steps since. Writes
that were refused are among them, since they do not show. -/
structure Past where
  asked : Nat
  steps : List Step
deriving DecidableEq, Repr

namespace Past

open Function (update)

/-- Adds a step. -/
def push (p : Past) (step : Step) : Past := { p with steps := p.steps ++ [step] }

/-- What a request adds to the past of the variables. -/
def record (pasts : Nat → Past) : Request → Nat → Past
  | .make x n => update pasts x ⟨n, []⟩
  | .write x i v => update pasts x ((pasts x).push (.write i v))
  | .tick x => update pasts x ((pasts x).push .tick)
  | .copy x y | .overwrite x y => update pasts x (pasts y)
  | .read _ _ | .readChanged _ _ | .anyChanged _ | .size _ | .equal _ _ => pasts

/-- The past of the variables after some requests. -/
def after (rs : List Request) : Nat → Past := rs.foldl record fun _ => ⟨0, []⟩

theorem after_concat (rs : List Request) (r : Request) :
    after (rs ++ [r]) = record (after rs) r := by
  rw [after, List.foldl_append]
  rfl

end Past

/-- **Signals that show their past.** They have the least multiple of 64 bits that were asked for. -/
structure Remembers (s : Signals) (p : Past) : Prop where
  size : IsLeast {m | 64 ∣ m ∧ p.asked ≤ m} s.size
  value : ∀ i < s.size, s.read i = .ok (lastWritten p.steps i)
  mark : ∀ i < s.size, ∃ marked, s.readChanged i = .ok marked ∧
    (marked = true ↔ Altered p.steps i)

namespace Remembers

variable {s : Signals} {p : Past}

theorem get (h : s.Remembers p) {i : Nat} (hi : i < s.size) : s.get i = lastWritten p.steps i :=
  Except.ok.inj ((read_of_lt hi).symm.trans (h.value i hi))

theorem isChanged_iff (h : s.Remembers p) {i : Nat} (hi : i < s.size) :
    s.isChanged i = true ↔ Altered p.steps i := by
  obtain ⟨marked, hmarked, hiff⟩ := h.mark i hi
  rwa [Except.ok.inj ((readChanged_of_lt hi).symm.trans hmarked)]

theorem of_get (hsize : IsLeast {m | 64 ∣ m ∧ p.asked ≤ m} s.size)
    (hget : ∀ i < s.size, s.get i = lastWritten p.steps i)
    (hmark : ∀ i < s.size, s.isChanged i = true ↔ Altered p.steps i) : s.Remembers p where
  size := hsize
  value i hi := by rw [read_of_lt hi, hget i hi]
  mark i hi := ⟨_, readChanged_of_lt hi, hmark i hi⟩

theorem make (n : Nat) : (ofSize n).Remembers ⟨n, []⟩ := by
  refine of_get ?_ (fun i _ => get_ofSize n i) fun i _ => ?_
  · rw [size_ofSize]
    exact isLeast_allocated n
  · rw [isChanged_ofSize]
    exact iff_of_false Bool.false_ne_true not_altered_nil

theorem tick (h : s.Remembers p) : s.tick.Remembers (p.push .tick) := by
  refine of_get h.size (fun i hi => ?_) fun i _ => ?_
  · rw [get_tick, h.get hi, Past.push, lastWritten_concat]
    rfl
  · rw [isChanged_tick]
    exact iff_of_false Bool.false_ne_true not_altered_concat_tick

/-- A write outside the allocated bits does not show. -/
theorem write_of_le (h : s.Remembers p) {i : Nat} (hi : s.size ≤ i) (v : Bool) :
    s.Remembers (p.push (.write i v)) := by
  refine of_get h.size (fun j hj => ?_) fun j hj => ?_
  · have hij : i ≠ j := by omega
    rw [h.get hj, Past.push, lastWritten_concat, Step.writes?, if_neg hij]
    rfl
  · have hij : i ≠ j := by omega
    rw [h.isChanged_iff hj, Past.push, altered_concat_write]
    simp [hij]

theorem write (h : s.Remembers p) {i : Nat} (hi : i < s.size) (v : Bool) :
    (s.set i v).Remembers (p.push (.write i v)) := by
  refine of_get ?_ (fun j hj => ?_) fun j hj => ?_
  · rw [size_set]
    exact h.size
  · rw [size_set] at hj
    rw [get_set, h.get hj, Past.push, lastWritten_concat, Step.writes?]
    by_cases hij : i = j <;> simp [hij, hj]
  · rw [size_set] at hj
    rw [isChanged_set, Past.push, altered_concat_write, ← h.isChanged_iff hj, ← h.get hj]
    by_cases hij : i = j
    · subst hij
      simp [hi, differs]
    · simp [hij]

/-- **One request** keeps all variables in step with their past. -/
theorem perform {vars : Nat → Signals} {pasts : Nat → Past} (h : ∀ x, (vars x).Remembers (pasts x))
    (r : Request) (x : Nat) : ((packed.perform vars r).1 x).Remembers (Past.record pasts r x) := by
  have hupdate : ∀ y {s p}, s.Remembers p →
      (Function.update vars y s x).Remembers (Function.update pasts y p x) := by
    intro y s p hs
    by_cases hxy : x = y
    · subst hxy
      rwa [Function.update_self, Function.update_self]
    · rw [Function.update_of_ne hxy, Function.update_of_ne hxy]
      exact h x
  cases r with
  | make y n => exact hupdate y (make n)
  | tick y => exact hupdate y (h y).tick
  | copy y z => exact hupdate y (h z)
  | overwrite y z =>
    have hcopy : packed.overwrite (vars y) (vars z) = vars z := (vars y).overwrite_eq (vars z)
    rw [Interface.perform, hcopy]
    exact hupdate y (h z)
  | write y i v =>
    by_cases hi : i < (vars y).size
    · have hwrite : packed.write (vars y) i v = .ok _ := write_of_lt hi v
      rw [Interface.perform, hwrite]
      exact hupdate y ((h y).write hi v)
    · have hwrite : packed.write (vars y) i v = .error _ := within_of_le (Nat.le_of_not_lt hi) _
      have hself := hupdate y ((h y).write_of_le (Nat.le_of_not_lt hi) v)
      rw [Function.update_eq_self] at hself
      rw [Interface.perform, hwrite]
      exact hself
  | read _ _ | readChanged _ _ | anyChanged _ | size _ | equal _ _ => exact h x

theorem after (rs : List Request) (x : Nat) :
    (packed.after rs x).Remembers (Past.after rs x) := by
  induction rs using List.reverseRecOn generalizing x with
  | nil => exact make 0
  | append_singleton rs r ih =>
    rw [Interface.after_concat, Past.after_concat]
    exact perform ih r x

end Remembers

/-- **Packed signals refine a plain array of bits and marks**, whatever is asked of them. Every reply
is the one of the array, a refusal changes nothing, and after any requests all variables stand for the
array in their place, show their past, and obey the laws of their operations. -/
theorem requests_refine_plain (rs : List Request) :
    (∀ r, packed.reply rs r = plain.reply rs r) ∧
    (∀ r fault, packed.reply rs r = .refused fault → packed.after (rs ++ [r]) = packed.after rs) ∧
    ∀ x, (packed.after rs x).cells = plain.after rs x ∧
      (packed.after rs x).Remembers (Past.after rs x) ∧ (packed.after rs x).Lawful := by
  refine ⟨packed_refines.reply rs, fun r fault => Interface.after_of_refused, fun x => ?_⟩
  exact ⟨congrFun (packed_refines.after rs) x, Remembers.after rs x, lawful _⟩

/-- A bit that has been changed back is still marked, also in a copy that outlives the next tick. -/
theorem copied_mark_outlives_tick :
    let rs : List Request := [.make 0 65, .make 1 200, .write 0 64 true, .write 0 64 false,
      .overwrite 1 0, .tick 0]
    (packed.after rs 1).size = 128 ∧ (packed.after rs 1).read 64 = .ok false ∧
      (packed.after rs 1).readChanged 64 = .ok true ∧
      (packed.after rs 1).write 128 true = .error ⟨128, 128⟩ := by
  intro rs
  obtain ⟨-, hpast, hlaws⟩ := (requests_refine_plain rs).2.2 1
  have hsize : (packed.after rs 1).size = 128 := hpast.size.unique (isLeast_allocated 65)
  obtain ⟨marked, hmarked, hiff⟩ := hpast.mark 64 (by omega)
  have haltered : Altered (Past.after rs 1).steps 64 :=
    ⟨[.write 64 true], false, [], rfl, List.not_mem_nil, by decide⟩
  rw [hiff.mpr haltered] at hmarked
  refine ⟨hsize, hpast.value 64 (by omega), hmarked, ?_⟩
  rw [← hsize]
  exact (hlaws.refused _ le_rfl).2.2 true

end Signals

end SyncCircuit
