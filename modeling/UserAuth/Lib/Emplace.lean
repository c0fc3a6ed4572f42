import Mathlib.Data.List.Basic

open Std

-- Ordered maps filled by repeated emplace: the first value under a key stays.
namespace Emplace
variable {κ : Type u} {α : Type v} [Ord κ] [TransOrd κ] (key : α → κ)

def emplaceAll (m : ExtTreeMap κ α) (xs : List α) : ExtTreeMap κ α :=
  xs.foldl (fun m x => m.insertIfNew (key x) x) m

@[simp] theorem emplaceAll_nil (m : ExtTreeMap κ α) : emplaceAll key m [] = m := rfl
@[simp] theorem emplaceAll_cons (m : ExtTreeMap κ α) (x : α) (xs : List α) :
    emplaceAll key m (x :: xs) = emplaceAll key (m.insertIfNew (key x) x) xs := rfl
theorem emplaceAll_append (m : ExtTreeMap κ α) (xs ys : List α) :
    emplaceAll key m (xs ++ ys) = emplaceAll key (emplaceAll key m xs) ys := List.foldl_append

variable [LawfulEqOrd κ] [DecidableEq κ]

theorem getElem?_emplaceAll (m : ExtTreeMap κ α) (xs : List α) (k : κ) :
    (emplaceAll key m xs)[k]? = m[k]?.or (xs.find? fun x => key x = k) := by
  induction xs generalizing m with
  | nil => simp
  | cons x xs ih =>
    rw [emplaceAll_cons,ih,ExtTreeMap.getElem?_insertIfNew]
    by_cases same : key x = k
    · subst same
      by_cases held : key x ∈ m
      · simp [held]
      · simp [held]
    · simp [same]

-- Where keys tell the candidates apart, an emplaced candidate is found under its key.
theorem emplaceAll_holds (m : ExtTreeMap κ α) (xs members : List α)
    (distinct : ∀ x ∈ members, ∀ y ∈ members, key x = key y → x = y)
    (old : ∀ k x, m[k]? = some x → key x = k ∧ x ∈ members) (within : ∀ x ∈ xs, x ∈ members)
    (member : x ∈ members) :
    (emplaceAll key m xs)[key x]? = some x ↔ m[key x]? = some x ∨ x ∈ xs := by
  rw [getElem?_emplaceAll]
  cases held : m[key x]? with
  | some y =>
    obtain ⟨same,inside⟩ := old _ _ held
    simp [distinct y inside x member same]
  | none =>
    simp only [Option.none_or,reduceCtorEq,false_or]
    constructor
    · exact List.mem_of_find?_eq_some
    · intro among
      cases found : xs.find? (fun y => decide (key y = key x)) with
      | none => simpa using List.find?_eq_none.mp found x among
      | some y =>
        have same : key y = key x := by simpa using List.find?_some found
        rw [distinct y (within y (List.mem_of_find?_eq_some found)) x member same]

theorem emplaceAll_old (m : ExtTreeMap κ α) (xs members : List α)
    (old : ∀ k x, m[k]? = some x → key x = k ∧ x ∈ members) (within : ∀ x ∈ xs, x ∈ members) :
    ∀ k x, (emplaceAll key m xs)[k]? = some x → key x = k ∧ x ∈ members := by
  intro k x held
  rw [getElem?_emplaceAll,Option.or_eq_some_iff] at held
  rcases held with before | ⟨_,found⟩
  · exact old k x before
  · exact ⟨by simpa using List.find?_some found,within x (List.mem_of_find?_eq_some found)⟩

end Emplace
