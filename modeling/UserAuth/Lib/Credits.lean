import Mathlib.Algebra.Order.BigOperators.Group.Finset

-- Items come from numbered origins, of each at most a limit. An origin with
-- something active may still ask for as much work as is left of its limit.
namespace Credits

def owed (limit origins : Nat) (active taken : List Nat) : Nat :=
  ∑ origin ∈ Finset.range origins, if origin ∈ active then limit - taken.count origin else 0

variable {limit origins : Nat} {active taken : List Nat}

theorem owed_idle : owed limit origins [] taken = 0 := by simp [owed]

theorem owed_mono (fewer : ∀ origin ∈ active', origin ∈ active) :
    owed limit origins active' taken ≤ owed limit origins active taken := by
  apply Finset.sum_le_sum
  intro origin _
  by_cases still : origin ∈ active'
  · rw [if_pos still,if_pos (fewer origin still)]
  · rw [if_neg still]
    exact Nat.zero_le _

-- A new origin brings its whole limit.
theorem owed_new (active taken : List Nat) :
    owed limit (origins + 1) (active ++ [origins]) taken ≤ owed limit origins active taken + limit := by
  rw [owed,Finset.sum_range_succ]
  apply Nat.add_le_add
  · apply Finset.sum_le_sum
    intro origin old
    have different : origin ≠ origins := (Finset.mem_range.mp old).ne
    simp only [List.mem_append,List.mem_singleton,different,or_false]
    exact Nat.le_refl _
  · split
    · exact Nat.sub_le _ _
    · exact Nat.zero_le _

-- Taking one item of an active origin uses up one of its credits.
theorem owed_take (known : origin < origins) (here : origin ∈ active) (left : taken.count origin < limit) :
    owed limit origins active (taken ++ [origin]) < owed limit origins active taken := by
  apply Finset.sum_lt_sum
  · intro other _
    rw [List.count_append]
    split
    · omega
    · exact Nat.le_refl _
  · refine ⟨origin,Finset.mem_range.mpr known,?_⟩
    rw [if_pos here,if_pos here,List.count_append,List.count_singleton_self]
    omega

theorem owed_nothing (spent : owed limit origins active taken = 0)
    (left : ∀ origin ∈ active, origin < origins ∧ taken.count origin < limit) : active = [] := by
  apply List.eq_nil_iff_forall_not_mem.mpr
  intro origin here
  obtain ⟨known,more⟩ := left origin here
  have none := Finset.sum_eq_zero_iff.mp spent origin (Finset.mem_range.mpr known)
  rw [if_pos here] at none
  omega

end Credits
