import Mathlib.Data.List.Nodup
import SyncCircuit.Build.Distinct

/-!
# Lists with distinct keys

Dropping the elements whose key is repeated changes nothing if no key is, a key then names at most
one place, and of an arbitrary list `eraseDups` keeps every element where it first occurs.
-/
namespace SyncCircuit

variable {α β : Type} [DecidableEq β]

theorem firsts_eq_self {key : α → β} {as : List α} (h : (as.map key).Nodup) :
    firsts key as = as := by
  induction as with
  | nil => rfl
  | cons a as ih =>
    obtain ⟨ha, has⟩ := List.nodup_cons.mp h
    have hkeep : as.filter (fun b => key b ≠ key a) = as := by
      refine List.filter_eq_self.mpr fun b hb => ?_
      have hne : key b ≠ key a := fun e => ha (e ▸ List.mem_map_of_mem hb)
      simpa using hne
    rw [firsts_cons, hkeep, ih has]

theorem mem_map_firsts_iff {key : α → β} {as : List α} {k : β} :
    k ∈ (firsts key as).map key ↔ k ∈ as.map key := by
  have hfind : ∀ as : List α, k ∈ as.map key ↔ (as.find? (key · == k)).isSome := fun as => by
    simp [List.find?_isSome]
  rw [hfind, hfind, find?_firsts]

/-- One more element is kept if its key is new. -/
theorem firsts_concat (key : α → β) (as : List α) (a : α) :
    firsts key (as ++ [a]) =
      if key a ∈ as.map key then firsts key as else firsts key as ++ [a] := by
  induction as using firsts_induction key with
  | nil => rfl
  | cons b bs ih =>
    rw [List.cons_append, firsts_cons, firsts_cons, List.filter_append]
    by_cases hb : key a = key b
    · rw [List.filter_cons_of_neg (by simp [hb]), List.filter_nil, List.append_nil,
        if_pos (by simp [hb])]
    · have hmem : key a ∈ (bs.filter fun c => key c ≠ key b).map key ↔
          key a ∈ (b :: bs).map key := by
        simp only [List.mem_map, List.mem_filter, List.mem_cons, decide_eq_true_eq]
        constructor
        · rintro ⟨c, ⟨hc, -⟩, hkey⟩
          exact ⟨c, .inr hc, hkey⟩
        · rintro ⟨c, rfl | hc, hkey⟩
          · exact absurd hkey.symm hb
          · exact ⟨c, ⟨hc, hkey ▸ hb⟩, hkey⟩
      rw [List.filter_cons_of_pos (by simpa using hb), List.filter_nil, ih,
        if_congr hmem rfl rfl]
      split
      · rfl
      · rfl

/-- With distinct keys, looking for a key finds the place that has it. -/
theorem findIdx?_key_eq_some_iff {key : α → β} {as : List α} (h : (as.map key).Nodup) {k : β}
    {i : Nat} : as.findIdx? (key · == k) = some i ↔ ∃ a, as[i]? = some a ∧ key a = k := by
  rw [List.findIdx?_eq_some_iff_getElem]
  constructor
  · rintro ⟨hi, hkey, -⟩
    exact ⟨as[i], List.getElem?_eq_getElem hi, by simpa using hkey⟩
  · rintro ⟨a, ha, rfl⟩
    obtain ⟨hi, rfl⟩ := List.getElem?_eq_some_iff.mp ha
    refine ⟨hi, by simp, fun j hj hkey => ?_⟩
    have hj' : j < as.length := by omega
    have hsame : (as.map key)[j]? = (as.map key)[i]? := by
      simpa [List.getElem?_eq_getElem, hi, hj'] using hkey
    have := (List.getElem?_inj (by simpa using hj') h).mp hsame
    omega

/-! ## Erasing duplicates -/

theorem nodup_eraseDups (as : List β) : as.eraseDups.Nodup := by
  simpa [firsts, List.eraseDups] using nodup_map_firsts id as

theorem eraseDups_eq_self {as : List β} (h : as.Nodup) : as.eraseDups = as := by
  have : firsts id as = as := firsts_eq_self (by simpa using h)
  simpa [firsts, List.eraseDups] using this

/-- One more element is kept if it is new. -/
theorem eraseDups_concat (as : List β) (a : β) :
    (as ++ [a]).eraseDups = if a ∈ as then as.eraseDups else as.eraseDups ++ [a] := by
  simpa [firsts, List.eraseDups] using firsts_concat id as a

/-- The order of `eraseDups`: of two elements it keeps, the one whose first source comes first. -/
theorem pairwise_eraseDups_filterMap (f : α → Option β) (as : List α) :
    (as.filterMap f).eraseDups.Pairwise fun b c =>
      ∃ i : Nat, as[i]?.bind f = some b ∧ ∀ j : Nat, as[j]?.bind f = some c → i < j := by
  -- The rest goes on without what the head answers, so the induction is over all `f`.
  induction as generalizing f with
  | nil => simp
  | cons a as ih =>
    cases ha : f a with
    | none =>
      rw [List.filterMap_cons_none ha]
      refine (ih f).imp ?_
      rintro b c ⟨i, hi, hlt⟩
      refine ⟨i + 1, by simpa using hi, fun j hj => ?_⟩
      cases j with
      | zero => simp [ha] at hj
      | succ j => exact Nat.succ_lt_succ (hlt j (by simpa using hj))
    | some b₀ =>
      -- The rest is the same list with `b₀` left out of the answers.
      have hrest : (as.filterMap f).filter (fun b => !b == b₀) =
          as.filterMap fun x => (f x).filter fun b => !b == b₀ := by
        simp [List.filter_filterMap]
      have hne : ∀ c ∈ (as.filterMap fun x => (f x).filter fun b => !b == b₀).eraseDups,
          c ≠ b₀ := by
        intro c hc
        obtain ⟨x, -, hx⟩ := List.mem_filterMap.mp (List.mem_eraseDups.mp hc)
        simpa using (Option.filter_eq_some_iff.mp hx).2
      rw [List.filterMap_cons_some ha, List.eraseDups_cons, List.pairwise_cons, hrest]
      constructor
      · intro c hc
        refine ⟨0, by simpa using ha, fun j hj => ?_⟩
        cases j with
        | zero =>
          obtain rfl : b₀ = c := by simpa [ha] using hj
          exact absurd rfl (hne b₀ hc)
        | succ j => omega
      · refine (ih _).imp_of_mem ?_
        rintro b c - hc ⟨i, hi, hlt⟩
        obtain ⟨x, hx, hfx⟩ := Option.bind_eq_some_iff.mp hi
        refine ⟨i + 1, by simp [hx, (Option.filter_eq_some_iff.mp hfx).1], fun j hj => ?_⟩
        cases j with
        | zero =>
          obtain rfl : b₀ = c := by simpa [ha] using hj
          exact absurd rfl (hne b₀ hc)
        | succ j =>
          obtain ⟨y, hy, hfy⟩ := Option.bind_eq_some_iff.mp (show as[j]?.bind f = some c by
            simpa using hj)
          have := hlt j (by simpa [hy, Option.filter_eq_some_iff, hfy] using hne c hc)
          omega

end SyncCircuit
