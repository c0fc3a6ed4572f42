import Std.Data.ExtTreeMap.Lemmas
import Mathlib.Data.List.Basic

-- A map with one row for each key of a list and no others, where the list and the
-- map are edited apart.
namespace Tabulation
open Std
variable {κ : Type u} {α : Type v} [Ord κ] [TransOrd κ] [DecidableEq κ]

def Tabulates (rows : ExtTreeMap κ α) (keys : List κ) (row : κ → α) : Prop :=
  ∀ key, rows[key]? = if key ∈ keys then some (row key) else none

variable {rows : ExtTreeMap κ α} {keys : List κ} {row : κ → α} {key : κ}

theorem tabulates_empty (row : κ → α) : Tabulates (∅ : ExtTreeMap κ α) [] row := fun _ => by simp

theorem Tabulates.mem_iff (tabulates : Tabulates rows keys row) : key ∈ rows ↔ key ∈ keys := by
  rw [ExtTreeMap.mem_iff_isSome_getElem?,tabulates]
  split
  · exact iff_of_true rfl ‹_›
  · exact iff_of_false nofun ‹_›

theorem Tabulates.row_eq (tabulates : Tabulates rows keys row) (found : rows[key]? = some value) :
    key ∈ keys ∧ value = row key := by
  rw [tabulates] at found
  split at found
  · exact ⟨‹_›,(Option.some.inj found).symm⟩
  · cases found

variable [LawfulEqOrd κ]

theorem Tabulates.insert (tabulates : Tabulates rows keys row) (key : κ) :
    Tabulates (rows.insert key (row key)) (keys ++ [key]) row := by
  intro other
  rw [ExtTreeMap.getElem?_insert]
  by_cases same : key = other
  · subst same
    simp
  · rw [if_neg (mt LawfulEqOrd.eq_of_compare same),tabulates]
    simp [Ne.symm same]

theorem Tabulates.erase (tabulates : Tabulates rows keys row) (key : κ) :
    Tabulates (rows.erase key) (keys.filter (· ≠ key)) row := by
  intro other
  rw [ExtTreeMap.getElem?_erase]
  by_cases same : key = other
  · subst same
    simp
  · rw [if_neg (mt LawfulEqOrd.eq_of_compare same),tabulates]
    simp [Ne.symm same]

-- A row that goes again right after it came leaves the map as it was.
theorem Tabulates.pass (tabulates : Tabulates rows keys row) (value : α) (fresh : key ∉ keys) :
    Tabulates ((rows.insert key value).erase key) keys row := by
  intro other
  rw [ExtTreeMap.getElem?_erase,ExtTreeMap.getElem?_insert]
  by_cases same : key = other
  · subst same
    simp [fresh]
  · rw [if_neg (mt LawfulEqOrd.eq_of_compare same),if_neg (mt LawfulEqOrd.eq_of_compare same),tabulates]

end Tabulation
