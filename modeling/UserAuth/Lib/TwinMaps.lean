import Std.Data.ExtTreeMap.Lemmas
import Mathlib.Data.List.Basic

-- Two maps over the same objects, one by number and one by name. An object
-- without a name stands in the first map alone.
namespace TwinMaps
open Std
variable {ι κ α : Type*} [Ord ι] [TransOrd ι] [Ord κ] [TransOrd κ]

structure Twin (idOf : α → ι) (nameOf : α → Option κ) (ids : ExtTreeMap ι α) (names : ExtTreeMap κ α) : Prop where
  own : ∀ (i : ι) (a : α), ids[i]? = some a → idOf a = i
  named : ∀ (name : κ) (a : α), names[name]? = some a → nameOf a = some name ∧ ids[idOf a]? = some a
  found : ∀ (i : ι) (a : α) (name : κ), ids[i]? = some a → nameOf a = some name → names[name]? = some a

variable {idOf : α → ι} {nameOf : α → Option κ} {ids : ExtTreeMap ι α} {names : ExtTreeMap κ α}
  {a : α} {i : ι} {name : κ}

theorem twin_empty : Twin idOf nameOf (∅ : ExtTreeMap ι α) (∅ : ExtTreeMap κ α) := by
  refine ⟨?_,?_,?_⟩ <;> simp

variable [LawfulEqOrd ι]

theorem getElem?_insertIfNew_free {m : ExtTreeMap ι α} {i other : ι} (free : i ∉ m) :
    (m.insertIfNew i a)[other]? = some b ↔ (i = other ∧ a = b) ∨ m[other]? = some b := by
  rw [ExtTreeMap.getElem?_insertIfNew]
  by_cases same : i = other
  · subst same
    simp [free]
  · simp [same]

theorem insertIfNew_used {m : ExtTreeMap ι α} {i : ι} (used : i ∈ m) : m.insertIfNew i a = m := by
  ext other b
  rw [ExtTreeMap.getElem?_insertIfNew,if_neg (fun both => both.2 used)]

theorem getElem?_insertIfNew_some {m : ExtTreeMap ι α} {i other : ι} (held : (m.insertIfNew i a)[other]? = some b) :
    (i = other ∧ a = b) ∨ m[other]? = some b := by
  by_cases free : i ∉ m
  · exact (getElem?_insertIfNew_free free).mp held
  · rw [insertIfNew_used (not_not.mp free)] at held
    exact .inr held

theorem getElem?_erase_some {m : ExtTreeMap ι α} {i other : ι} :
    (m.erase i)[other]? = some b ↔ i ≠ other ∧ m[other]? = some b := by
  rw [ExtTreeMap.getElem?_erase]
  by_cases same : i = other <;> simp [same]

theorem erase_absent {m : ExtTreeMap ι α} {i : ι} (absent : i ∉ m) : m.erase i = m := by
  ext other b
  rw [getElem?_erase_some]
  refine and_iff_right_of_imp ?_
  rintro held rfl
  exact absent (ExtTreeMap.mem_iff_isSome_getElem?.mpr (Option.isSome_of_eq_some held))

-- An object without a name joins and leaves the first map only.
theorem Twin.joined (twin : Twin idOf nameOf ids names) (nameless : nameOf a = none) :
    Twin idOf nameOf (ids.insertIfNew (idOf a) a) names := by
  by_cases free : idOf a ∉ ids
  · refine ⟨?_,?_,?_⟩
    · intro i b held
      rcases (getElem?_insertIfNew_free free).mp held with ⟨same,rfl⟩ | old
      · exact same
      · exact twin.own i b old
    · intro other b held
      obtain ⟨name,inside⟩ := twin.named other b held
      exact ⟨name,(getElem?_insertIfNew_free free).mpr (.inr inside)⟩
    · intro i b other held named
      rcases (getElem?_insertIfNew_free free).mp held with ⟨_,rfl⟩ | old
      · rw [nameless] at named
        cases named
      · exact twin.found i b other old named
  · rwa [insertIfNew_used (not_not.mp free)]

theorem Twin.left (twin : Twin idOf nameOf ids names) (held : ids[i]? = some a) (nameless : nameOf a = none) :
    Twin idOf nameOf (ids.erase i) names := by
  refine ⟨?_,?_,?_⟩
  · intro other b inside
    exact twin.own other b (getElem?_erase_some.mp inside).2
  · intro other b inside
    obtain ⟨called,placed⟩ := twin.named other b inside
    refine ⟨called,getElem?_erase_some.mpr ⟨?_,placed⟩⟩
    rintro rfl
    cases held.symm.trans placed
    rw [nameless] at called
    cases called
  · intro other b given inside called
    exact twin.found other b given (getElem?_erase_some.mp inside).2 called

variable [LawfulEqOrd κ]

theorem Twin.opened (twin : Twin idOf nameOf ids names) (freeId : idOf a ∉ ids) (freeName : name ∉ names)
    (called : nameOf a = some name) : Twin idOf nameOf (ids.insertIfNew (idOf a) a) (names.insertIfNew name a) := by
  refine ⟨?_,?_,?_⟩
  · intro i b held
    rcases (getElem?_insertIfNew_free freeId).mp held with ⟨same,rfl⟩ | old
    · exact same
    · exact twin.own i b old
  · intro other b held
    rw [getElem?_insertIfNew_free freeId]
    rcases (getElem?_insertIfNew_free freeName).mp held with ⟨rfl,rfl⟩ | old
    · exact ⟨called,.inl ⟨rfl,rfl⟩⟩
    · obtain ⟨name,inside⟩ := twin.named other b old
      exact ⟨name,.inr inside⟩
  · intro i b other held named
    rw [getElem?_insertIfNew_free freeName]
    rcases (getElem?_insertIfNew_free freeId).mp held with ⟨_,rfl⟩ | old
    · exact .inl ⟨Option.some.inj (called.symm.trans named),rfl⟩
    · exact .inr (twin.found i b other old named)

-- An object that is in neither map takes a place in both or in none.
theorem Twin.opened_iff (twin : Twin idOf nameOf ids names) (fresh : ∀ i : ι, ids[i]? ≠ some a)
    (unnamed : ∀ other : κ, names[other]? ≠ some a) (called : nameOf a = some name) :
    Twin idOf nameOf (ids.insertIfNew (idOf a) a) (names.insertIfNew name a) ↔ (name ∈ names ↔ idOf a ∈ ids) := by
  by_cases usedName : name ∈ names
  · by_cases usedId : idOf a ∈ ids
    · rw [insertIfNew_used usedName,insertIfNew_used usedId]
      exact iff_of_true twin (iff_of_true usedName usedId)
    · refine iff_of_false ?_ fun both => usedId (both.mp usedName)
      intro broken
      have placed := (getElem?_insertIfNew_free (a:=a) usedId).mpr (.inl ⟨rfl,rfl⟩)
      have kept := broken.found (idOf a) a name placed called
      rw [insertIfNew_used usedName] at kept
      exact unnamed name kept
  · by_cases usedId : idOf a ∈ ids
    · refine iff_of_false ?_ fun both => usedName (both.mpr usedId)
      intro broken
      have given := (getElem?_insertIfNew_free (a:=a) usedName).mpr (.inl ⟨rfl,rfl⟩)
      have kept := (broken.named name a given).2
      rw [insertIfNew_used usedId] at kept
      exact fresh (idOf a) kept
    · exact iff_of_true (twin.opened usedId usedName called) (iff_of_false usedName usedId)

theorem Twin.closed (twin : Twin idOf nameOf ids names) (held : ids[i]? = some a) (called : nameOf a = some name) :
    Twin idOf nameOf (ids.erase i) (names.erase name) := by
  have first := twin.found i a name held called
  refine ⟨?_,?_,?_⟩
  · intro other b inside
    exact twin.own other b (getElem?_erase_some.mp inside).2
  · intro other b inside
    obtain ⟨apart,old⟩ := getElem?_erase_some.mp inside
    obtain ⟨called',placed⟩ := twin.named other b old
    refine ⟨called',getElem?_erase_some.mpr ⟨?_,placed⟩⟩
    rintro rfl
    cases held.symm.trans placed
    exact apart (Option.some.inj (called.symm.trans called'))
  · intro other b given inside called'
    obtain ⟨apart,old⟩ := getElem?_erase_some.mp inside
    refine getElem?_erase_some.mpr ⟨?_,twin.found other b given old called'⟩
    rintro rfl
    cases first.symm.trans (twin.found other b name old called')
    exact apart ((twin.own i a held).symm.trans (twin.own other a old))

end TwinMaps
