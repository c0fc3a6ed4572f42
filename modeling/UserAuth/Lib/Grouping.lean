import Mathlib.Data.List.Nodup
import Std.Data.ExtTreeMap.Lemmas
import UserAuth.Lib.RecordMap

-- A list sorted into groups by a key, each group in the list's own order.
namespace Grouping
open Std
variable {κ : Type u} {α : Type v} [Ord κ] [TransOrd κ] (key : α → κ)

def extend (groups : ExtTreeMap κ (List α)) (item : α) : ExtTreeMap κ (List α) :=
  groups.insert (key item) (groups.getD (key item) [] ++ [item])

def group (items : List α) : ExtTreeMap κ (List α) := items.foldl (extend key) ∅

variable [LawfulEqOrd κ]

theorem mem_foldl (groups : ExtTreeMap κ (List α)) (items : List α) (k : κ) :
    k ∈ items.foldl (extend key) groups ↔ k ∈ groups ∨ ∃ item ∈ items, key item = k := by
  induction items generalizing groups with
  | nil => simp
  | cons item rest ih =>
    rw [List.foldl_cons,ih,extend,ExtTreeMap.mem_insert]
    simp only [LawfulEqOrd.compare_eq_iff_eq,List.exists_mem_cons_iff]
    tauto

variable [DecidableEq κ]

theorem getD_foldl (groups : ExtTreeMap κ (List α)) (items : List α) (k : κ) :
    (items.foldl (extend key) groups).getD k [] = groups.getD k [] ++ items.filter (key · = k) := by
  induction items generalizing groups with
  | nil => simp
  | cons item rest ih =>
    rw [List.foldl_cons,ih,extend,ExtTreeMap.getD_insert]
    by_cases same : key item = k
    · subst same
      simp
    · simp [same]

-- A key has a group where it has an item, and that group is its items.
theorem getElem?_group (items : List α) (k : κ) : (group key items)[k]? =
    if items.filter (key · = k) = [] then none else some (items.filter (key · = k)) := by
  have held := getD_foldl key ∅ items k
  have named := mem_foldl key ∅ items k
  rw [ExtTreeMap.getD_empty,List.nil_append] at held
  by_cases empty : items.filter (key · = k) = []
  · rw [if_pos empty]
    refine ExtTreeMap.getElem?_eq_none fun member => ?_
    obtain ⟨item,member,same⟩ := (named.mp member).resolve_left ExtTreeMap.not_mem_empty
    exact List.ne_nil_of_mem (List.mem_filter.mpr ⟨member,decide_eq_true same⟩) empty
  · obtain ⟨item,member⟩ := List.exists_mem_of_ne_nil _ empty
    obtain ⟨member,same⟩ := List.mem_filter.mp member
    have found : k ∈ group key items := named.mpr (.inr ⟨item,member,of_decide_eq_true same⟩)
    rw [if_neg empty,← held]
    exact ExtTreeMap.getElem?_eq_some_getD found

end Grouping
