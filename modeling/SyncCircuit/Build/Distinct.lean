/-!
# The first element of each key

`firsts key` keeps, of the elements of a list with the same key, the first. The keys of the result
are distinct (`nodup_map_firsts`), and looking an element up by its key gives the same answer before
and after (`find?_firsts`).
-/
namespace SyncCircuit

variable {α β : Type} [DecidableEq β]

/-- The elements whose key no earlier element has, in order. -/
def firsts (key : α → β) : List α → List α := List.eraseDupsBy fun a b => key a == key b

@[simp] theorem firsts_nil (key : α → β) : firsts key [] = [] := rfl

theorem firsts_cons (key : α → β) (a : α) (as : List α) :
    firsts key (a :: as) = a :: firsts key (as.filter fun b => key b ≠ key a) := by
  simp [firsts, List.eraseDupsBy_cons]

/-- **Induction along `firsts`**: behind the head, the list goes on with the elements that have
another key. -/
theorem firsts_induction (key : α → β) {motive : List α → Prop} (nil : motive [])
    (cons : ∀ b bs, motive (bs.filter fun c => key c ≠ key b) → motive (b :: bs)) (as : List α) :
    motive as := by
  induction hn : as.length using Nat.strongRecOn generalizing as with
  | ind n ih =>
    cases as with
    | nil => exact nil
    | cons b bs =>
      have hlt : (bs.filter fun c => key c ≠ key b).length < n :=
        hn ▸ Nat.lt_succ_of_le (List.length_filter_le _ bs)
      exact cons b bs (ih _ hlt _ rfl)

theorem mem_of_mem_firsts {key : α → β} {a : α} {as : List α} (h : a ∈ firsts key as) :
    a ∈ as := by
  induction as using firsts_induction key with
  | nil => exact h
  | cons b bs ih =>
    rw [firsts_cons, List.mem_cons] at h
    rcases h with h | h
    · exact h ▸ List.mem_cons_self
    · exact List.mem_cons_of_mem _ (List.mem_filter.mp (ih h)).1

theorem nodup_map_firsts (key : α → β) (as : List α) : ((firsts key as).map key).Nodup := by
  induction as using firsts_induction key with
  | nil => exact List.nodup_nil
  | cons b bs ih =>
    rw [firsts_cons, List.map_cons, List.nodup_cons]
    refine ⟨fun hb => ?_, ih⟩
    obtain ⟨c, hc, e⟩ := List.mem_map.mp hb
    have := (List.mem_filter.mp (mem_of_mem_firsts hc)).2
    simp [e] at this

theorem find?_firsts (key : α → β) (as : List α) (k : β) :
    (firsts key as).find? (key · == k) = as.find? (key · == k) := by
  induction as using firsts_induction key with
  | nil => rfl
  | cons b bs ih =>
    rw [firsts_cons, List.find?_cons, List.find?_cons, ih, List.find?_filter]
    by_cases hb : key b = k
    · simp [hb]
    · simp only [beq_eq_false_iff_ne.mpr hb]
      congr 1
      funext c
      by_cases hc : key c = k
      · simp [hc, Ne.symm hb]
      · simp [hc]

end SyncCircuit
