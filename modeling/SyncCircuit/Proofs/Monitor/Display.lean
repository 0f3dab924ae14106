import Mathlib.Data.List.DropRight
import SyncCircuit.Monitor.Display
import SyncCircuit.Text.Lines

/-!
# What the displayed traces say

The coloured display is the plain one with escape sequences put in (`plainText_paintedDisplay`),
whatever sequences there are for the colours. The plain display can be read: if labels are words of
letters, digits and dots, its lines give the labels and all samples back (`reading?_display`).

## Main definitions

* `plainText` — a text without its escape sequences.
* `reading?` — a displayed line, read.
-/
namespace SyncCircuit

/-! ## Escape sequences -/

/-- The text without its escape sequences, from outside one or from inside one. A sequence ends at
the first `m`. -/
def dropEscapes : Bool → List Char → List Char
  | _, [] => []
  | true, c :: cs => dropEscapes (c != 'm') cs
  | false, c :: cs => if c = '\x1b' then dropEscapes true cs else c :: dropEscapes false cs

/-- The text without its escape sequences. -/
def plainText (s : String) : String := String.ofList (dropEscapes false s.toList)

theorem dropEscapes_append {cs : List Char} (h : '\x1b' ∉ cs) (rest : List Char) :
    dropEscapes false (cs ++ rest) = cs ++ dropEscapes false rest := by
  induction cs with
  | nil => rfl
  | cons c cs ih =>
    rw [List.mem_cons, not_or] at h
    rw [List.cons_append, dropEscapes, if_neg (Ne.symm h.1), ih h.2, List.cons_append]

theorem dropEscapes_inside {codes : List Char} (h : 'm' ∉ codes) (rest : List Char) :
    dropEscapes true (codes ++ 'm' :: rest) = dropEscapes false rest := by
  induction codes with
  | nil => rfl
  | cons c codes ih =>
    rw [List.mem_cons, not_or] at h
    have hc : (c != 'm') = true := bne_iff_ne.mpr (Ne.symm h.1)
    rw [List.cons_append, dropEscapes, hc, ih h.2]

/-- A way to write text in a colour: behind an escape sequence that turns the colour on, and before
the one that turns it off. -/
def Escaping (paint : Colour → String → String) : Prop :=
  ∀ c s, ∃ codes : String, 'm' ∉ codes.toList ∧
    paint c s = "\x1b[" ++ codes ++ "m" ++ s ++ "\x1b[0m"

theorem escaping_paint : Escaping Colour.paint := by
  intro c s
  refine ⟨"38;5;" ++ toString c.code, ?_, ?_⟩
  · cases c <;> decide
  · simp only [Colour.paint, String.append_assoc]
    rfl

/-- Without escape sequences coloured text is plain. -/
theorem Escaping.dropEscapes_paint {paint : Colour → String → String} (h : Escaping paint)
    (c : Colour) {s : String} (hs : '\x1b' ∉ s.toList) (rest : List Char) :
    dropEscapes false ((paint c s).toList ++ rest) = s.toList ++ dropEscapes false rest := by
  obtain ⟨codes, hcodes, hpaint⟩ := h c s
  have hchars : (paint c s).toList ++ rest = '\x1b' :: ('[' :: codes.toList ++
      'm' :: (s.toList ++ '\x1b' :: (['[', '0'] ++ 'm' :: rest))) := by
    rw [hpaint]
    simp
  have hopen : 'm' ∉ '[' :: codes.toList := by simp [hcodes]
  rw [hchars, dropEscapes, if_pos rfl, dropEscapes_inside hopen, dropEscapes_append hs, dropEscapes,
    if_pos rfl, dropEscapes_inside (by decide)]

/-! ## Both displays -/

theorem Monitors.colouredDisplay_eq (m : Monitors) :
    m.colouredDisplay = m.paintedDisplay Colour.paint := rfl

namespace Trace

variable {t : Trace} {width : Nat}

theorem mem_heading {c : Char} (h : c ∈ (t.heading width).toList) :
    c ∈ t.label.toList ∨ c = ' ' ∨ c = ':' := by
  simp only [heading, padRight, String.toList_append, List.mem_append, String.toList_ofList] at h
  rcases h with (h | h) | h
  · exact .inl h
  · exact .inr (.inl (List.eq_of_mem_replicate h))
  · have hsep : c ∈ [' ', ':', ' '] := h
    simp at hsep
    tauto

theorem toList_line (t : Trace) (width : Nat) :
    (t.line width).toList = (t.heading width).toList ++ t.samples.toList.map sampleChar := by
  simp [line, pattern]

/-- A line shows no characters but those of the label, of the samples, blanks and a colon. -/
theorem mem_line {c : Char} (h : c ∈ (t.line width).toList) :
    c ∈ t.label.toList ∨ c = ' ' ∨ c = ':' ∨ c = '-' ∨ c = '_' := by
  rw [toList_line, List.mem_append] at h
  rcases h with h | h
  · have := mem_heading h
    tauto
  · obtain ⟨v, -, rfl⟩ := List.mem_map.mp h
    cases v <;> simp [sampleChar]

end Trace

namespace Escaping

variable {paint : Colour → String → String} (h : Escaping paint)
include h

theorem dropEscapes_samples (samples : List Bool) (rest : List Char) :
    dropEscapes false ((String.join (samples.map fun v =>
        paint (if v then .green else .red) (String.singleton (sampleChar v)))).toList ++ rest) =
      samples.map sampleChar ++ dropEscapes false rest := by
  induction samples with
  | nil => rfl
  | cons v samples ih =>
    have hv : '\x1b' ∉ (String.singleton (sampleChar v)).toList := by
      cases v <;> simp [sampleChar]
    rw [List.map_cons, String.join_cons, String.toList_append, List.append_assoc,
      h.dropEscapes_paint _ hv, ih]
    simp

/-- A coloured line shows what the plain one does. -/
theorem dropEscapes_paintedLine {t : Trace} (ht : '\x1b' ∉ t.label.toList) (width : Nat)
    (rest : List Char) : dropEscapes false ((t.paintedLine paint width).toList ++ rest) =
      (t.line width ++ "\n").toList ++ dropEscapes false rest := by
  have hheading : '\x1b' ∉ (t.heading width).toList := fun hmem => by
    rcases Trace.mem_heading hmem with hlabel | hblank | hcolon
    · exact ht hlabel
    · exact absurd hblank (by decide)
    · exact absurd hcolon (by decide)
  have hend : '\x1b' ∉ "\n".toList := by decide
  rw [Trace.paintedLine, String.toList_append, String.toList_append, List.append_assoc,
    List.append_assoc, h.dropEscapes_paint _ hheading, h.dropEscapes_samples,
    dropEscapes_append hend, String.toList_append, Trace.toList_line]
  simp

/-- **The coloured display without its escape sequences** is the plain one, every line ended. -/
theorem plainText_paintedDisplay {m : Monitors} (hm : ∀ t ∈ m.traces, '\x1b' ∉ t.label.toList) :
    plainText (m.paintedDisplay paint) = unlines (m.traces.map (·.line m.margin)) := by
  have hlines : ∀ (width : Nat) (ts : List Trace), (∀ t ∈ ts, '\x1b' ∉ t.label.toList) →
      dropEscapes false (String.join (ts.map (·.paintedLine paint width))).toList =
        (unlines (ts.map (·.line width))).toList := by
    intro width ts hts
    induction ts with
    | nil => rfl
    | cons t ts ih =>
      rw [List.forall_mem_cons] at hts
      rw [List.map_cons, String.join_cons, String.toList_append,
        h.dropEscapes_paintedLine hts.1, ih hts.2, ← String.toList_append, List.map_cons,
        unlines_cons]
  rw [plainText, Monitors.paintedDisplay, hlines _ _ hm, String.ofList_toList]

end Escaping

/-- The plain lines, every one ended, are the plain display and one more end, if there are any. -/
theorem Monitors.unlines_lines (m : Monitors) : unlines (m.traces.map (·.line m.margin)) =
    if m.traces = [] then "" else m.display ++ "\n" := by
  split
  · rename_i hnil
    rw [hnil]
    rfl
  · rename_i hne
    rw [unlines_eq_intercalate (by simpa using hne), display]

/-! ## Reading a display -/

/-- The text before the first ` : ` and the text behind it. -/
def splitAtSeparator? : List Char → Option (List Char × List Char)
  | [] => none
  | c :: cs =>
    if [' ', ':', ' '].isPrefixOf (c :: cs) then some ([], cs.drop 2)
    else (splitAtSeparator? cs).map fun (before, behind) => (c :: before, behind)

/-- The sample a character stands for. -/
def sampleOf? : Char → Option Bool
  | '-' => some true
  | '_' => some false
  | _ => none

/-- What a line of a display says: where the separator stands, the label and the samples. -/
structure Reading where
  column : Nat
  label : String
  samples : List Bool
deriving DecidableEq, Repr

/-- Reads a line of a display. The label is the text before the separator without blanks at its
end. -/
def reading? (line : String) : Option Reading := do
  let (before, behind) ← splitAtSeparator? line.toList
  let samples ← behind.mapM sampleOf?
  pure ⟨before.length, String.ofList (before.rdropWhile (· == ' ')), samples⟩

theorem splitAtSeparator?_append {before : List Char} (h : ':' ∉ before) (behind : List Char) :
    splitAtSeparator? (before ++ [' ', ':', ' '] ++ behind) = some (before, behind) := by
  induction before with
  | nil => rfl
  | cons c before ih =>
    rw [List.mem_cons, not_or] at h
    have hprefix : ¬ [' ', ':', ' '].isPrefixOf (c :: before ++ [' ', ':', ' '] ++ behind) := by
      cases before with
      | nil => simp [List.isPrefixOf]
      | cons c' before =>
        have hc' : (':' == c') = false := beq_false_of_ne fun heq =>
          h.2 (heq ▸ List.mem_cons_self)
        simp [List.isPrefixOf, hc']
    rw [List.cons_append, List.cons_append, splitAtSeparator?, ← List.cons_append,
      ← List.cons_append, if_neg hprefix, ih h.2]
    rfl

theorem mapM_sampleOf? (samples : List Bool) :
    (samples.map sampleChar).mapM sampleOf? = some samples := by
  have hsome : sampleOf? ∘ sampleChar = some := funext fun v => by cases v <;> rfl
  rw [List.mapM_map, hsome]
  exact (List.mapM_pure ..).trans (congrArg some (List.map_id _))

theorem rdropWhile_blanks {label : List Char} (h : ' ' ∉ label) (n : Nat) :
    (label ++ List.replicate n ' ').rdropWhile (· == ' ') = label := by
  induction n with
  | zero =>
    rw [List.replicate_zero, List.append_nil, List.rdropWhile_eq_self_iff]
    intro hne hblank
    exact h (beq_iff_eq.mp hblank ▸ List.getLast_mem hne)
  | succ n ih =>
    rw [List.replicate_succ', ← List.append_assoc, List.rdropWhile_concat_pos _ _ _ rfl, ih]

/-- ASCII letters and digits take one byte each. -/
theorem utf8Size_of_isAlphanum {c : Char} (h : c.isAlphanum) : c.utf8Size = 1 := by
  rw [Char.utf8Size_eq_one_iff]
  have hranges : (decide ('A'.val ≤ c.val ∧ c.val ≤ 'Z'.val) ||
      decide ('a'.val ≤ c.val) && decide (c.val ≤ 'z'.val) ||
      decide ('0'.val ≤ c.val) && decide (c.val ≤ '9'.val)) = true := h
  simp only [Bool.or_eq_true, Bool.and_eq_true, decide_eq_true_eq] at hranges
  rcases hranges with (⟨-, h⟩ | ⟨-, h⟩) | ⟨-, h⟩
  · exact UInt32.le_trans h (by decide)
  · exact UInt32.le_trans h (by decide)
  · exact UInt32.le_trans h (by decide)

namespace Trace

variable {t : Trace} {width : Nat}

/-- The label is made of letters, digits and dots. -/
def Legible (t : Trace) : Prop := ∀ c ∈ t.label.toList, c.isAlphanum ∨ c = '.'

theorem Legible.not_mem (h : t.Legible) {c : Char} (hc : ¬ c.isAlphanum) (hdot : c ≠ '.') :
    c ∉ t.label.toList :=
  fun hmem => (h c hmem).elim hc hdot

/-- A legible label is as wide as it is long. -/
theorem Legible.utf8ByteSize_label (h : t.Legible) : t.label.utf8ByteSize = t.label.length := by
  have hbytes : ∀ cs : List Char, (∀ c ∈ cs, c.isAlphanum ∨ c = '.') →
      (String.ofList cs).utf8ByteSize = cs.length := by
    intro cs hcs
    induction cs with
    | nil => rfl
    | cons c cs ih =>
      rw [List.forall_mem_cons] at hcs
      have hc : c.utf8Size = 1 := hcs.1.elim utf8Size_of_isAlphanum fun hdot => hdot ▸ by decide
      rw [← List.singleton_append, String.ofList_append, String.utf8ByteSize_append, ih hcs.2]
      simp [String.utf8ByteSize_singleton, hc, Nat.add_comm]
  rw [← String.length_toList, ← hbytes _ h, String.ofList_toList]

theorem length_padding {s : String} (h : s.length ≤ width) : (padRight s width).length = width := by
  simp [padRight, h]

/-- **A line is read back**, if the width leaves room for the label. -/
theorem reading?_line (h : t.Legible) (hle : t.label.length ≤ width) :
    reading? (t.line width) = some ⟨width, t.label, t.samples.toList⟩ := by
  have hcolon : ':' ∉ (padRight t.label width).toList := by
    simp [padRight, h.not_mem]
  have hblank : ' ' ∉ t.label.toList := h.not_mem (by decide) (by decide)
  have hline : (t.line width).toList = (padRight t.label width).toList ++ [' ', ':', ' '] ++
      t.samples.toList.map sampleChar := by
    rw [toList_line, heading, String.toList_append]
    rfl
  rw [reading?, hline, splitAtSeparator?_append hcolon]
  simp only [Option.bind_eq_bind, Option.bind_some, mapM_sampleOf?]
  rw [String.length_toList, length_padding hle, padRight, String.toList_append,
    String.toList_ofList, rdropWhile_blanks hblank, String.ofList_toList]
  rfl

end Trace

namespace Monitors

variable {m : Monitors} {t : Trace}

theorem utf8ByteSize_le_margin (h : t ∈ m.traces) : t.label.utf8ByteSize ≤ m.margin := by
  have hmax : ∀ (ns : List Nat) (a : Nat), a ≤ ns.foldl max a ∧ ∀ n ∈ ns, n ≤ ns.foldl max a := by
    intro ns
    induction ns with
    | nil => simp
    | cons n ns ih =>
      intro a
      obtain ⟨hstart, hrest⟩ := ih (max a n)
      rw [List.foldl_cons, List.forall_mem_cons]
      exact ⟨le_trans (le_max_left _ _) hstart, le_trans (le_max_right _ _) hstart, hrest⟩
  exact (hmax _ 0).2 _ (List.mem_map_of_mem h)

theorem lines_display (hm : ∀ t ∈ m.traces, t.Legible) :
    lines m.display = m.traces.map (·.line m.margin) := by
  refine lines_intercalate ?_ ?_
  · intro l hl hend
    obtain ⟨t, ht, rfl⟩ := List.mem_map.mp hl
    rcases Trace.mem_line hend with hlabel | hother
    · exact (hm t ht).not_mem (by decide) (by decide) hlabel
    · revert hother
      decide
  · intro l hl hempty
    obtain ⟨t, -, rfl⟩ := List.mem_map.mp hl
    have hcolon : ':' ∈ (t.line m.margin).toList := by
      simp [Trace.toList_line, Trace.heading]
    rw [hempty] at hcolon
    cases hcolon

/-- **A display is read back**, line for line. -/
theorem reading?_display (hm : ∀ t ∈ m.traces, t.Legible) :
    (lines m.display).map reading? =
      m.traces.map fun t => some ⟨m.margin, t.label, t.samples.toList⟩ := by
  rw [lines_display hm, List.map_map]
  refine List.map_congr_left fun t ht => ?_
  have hle := utf8ByteSize_le_margin ht
  rw [(hm t ht).utf8ByteSize_label] at hle
  exact Trace.reading?_line (hm t ht) hle

end Monitors

end SyncCircuit
