import Mathlib.Data.List.Basic
import Mathlib.Data.List.Nodup
import Mathlib.Data.List.Sort

open Std

-- An ordered map as the list of its records, and the map that a list of records
-- with distinct keys stands for.
namespace RecordMap
variable {κ : Type u} {α : Type v} [Ord κ] [TransOrd κ]

def Distinct (records : List (κ × α)) : Prop := (records.map Prod.fst).Nodup
def Ascending (records : List (κ × α)) : Prop := records.Pairwise fun a b => compare a.1 b.1 = .lt

theorem toList_ascending (m : ExtTreeMap κ α) : Ascending m.toList := ExtTreeMap.ordered_keys_toList

theorem Ascending.distinct {records : List (κ × α)} (ascending : Ascending records) : Distinct records := by
  refine List.pairwise_map.mpr (ascending.imp ?_)
  intro a b less same
  rw [same] at less
  cases ReflOrd.compare_self.symm.trans less

-- Two ascending lists of the same records are one list.
theorem Ascending.eq_of_perm {xs ys : List (κ × α)} (left : Ascending xs) (right : Ascending ys)
    (perm : xs.Perm ys) : xs = ys := by
  apply List.Perm.eq_of_pairwise ?_ left right perm
  intro a b _ _ less more
  cases (OrientedCmp.gt_of_lt less).symm.trans more

variable [LawfulEqOrd κ] [DecidableEq κ]

-- What a map holds once records with new, distinct keys are inserted.
theorem getElem?_insertMany (m : ExtTreeMap κ α) (records : List (κ × α)) (distinct : Distinct records)
    (fresh : ∀ r ∈ records, r.1 ∉ m) (key : κ) (value : α) :
    (m.insertMany records)[key]? = some value ↔ m[key]? = some value ∨ (key,value) ∈ records := by
  induction records generalizing m with
  | nil => simp
  | cons r rest ih =>
    obtain ⟨new,distinct⟩ := List.nodup_cons.mp distinct
    have later : ∀ s ∈ rest, s.1 ∉ m.insert r.1 r.2 := by
      intro s member held
      rcases ExtTreeMap.mem_insert.mp held with same | old
      · exact new (LawfulEqOrd.eq_of_compare same ▸ List.mem_map_of_mem member)
      · exact fresh s (List.mem_cons_of_mem r member) old
    have missing : m[r.1]? = none := ExtTreeMap.getElem?_eq_none (fresh r List.mem_cons_self)
    have alone : ∀ v, (r.1,v) ∉ rest := fun v member => new (List.mem_map.mpr ⟨(r.1,v),member,rfl⟩)
    rw [ExtTreeMap.insertMany_cons,ih _ distinct later,ExtTreeMap.getElem?_insert,List.mem_cons]
    by_cases same : r.1 = key
    · subst same
      simp [missing,alone,Prod.ext_iff,eq_comm]
    · simp [same,Prod.ext_iff,Ne.symm same]

theorem size_insertMany (m : ExtTreeMap κ α) (records : List (κ × α)) (distinct : Distinct records)
    (fresh : ∀ r ∈ records, r.1 ∉ m) : (m.insertMany records).size = m.size + records.length := by
  apply ExtTreeMap.size_insertMany_list
  · exact (List.pairwise_map.mp distinct).imp fun apart same => apart (LawfulEqOrd.eq_of_compare same)
  · intro key held
    apply Bool.eq_false_iff.mpr
    intro named
    obtain ⟨r,member,rfl⟩ := List.mem_map.mp (List.contains_iff_mem.mp named)
    exact fresh r member held

theorem insertMany_toList (m : ExtTreeMap κ α) : (∅ : ExtTreeMap κ α).insertMany m.toList = m := by
  apply ExtTreeMap.ext_getElem?
  intro key
  apply Option.ext
  intro value
  rw [getElem?_insertMany _ _ (toList_ascending m).distinct (fun _ _ held => ExtTreeMap.not_mem_empty held),
    ExtTreeMap.mem_toList_iff_getElem?_eq_some]
  simp

theorem toList_insertMany (records : List (κ × α)) (distinct : Distinct records) :
    ((∅ : ExtTreeMap κ α).insertMany records).toList.Perm records := by
  apply (List.perm_ext_iff_of_nodup (toList_ascending _).distinct.of_map distinct.of_map).mpr
  intro r
  rw [ExtTreeMap.mem_toList_iff_getElem?_eq_some,
    getElem?_insertMany _ _ distinct (fun _ _ held => ExtTreeMap.not_mem_empty held)]
  simp

-- Of distinct records at most one has a given key.
omit [Ord κ] [TransOrd κ] [LawfulEqOrd κ] in
theorem Distinct.filter_key {records : List (κ × α)} (distinct : Distinct records) (member : (key,value) ∈ records) :
    records.filter (·.1 = key) = [(key,value)] := by
  induction records with
  | nil => cases member
  | cons record rest ih =>
    obtain ⟨new,later⟩ := List.nodup_cons.mp distinct
    rcases List.mem_cons.mp member with rfl | member
    · have none : rest.filter (·.1 = key) = [] := by
        refine List.filter_eq_nil_iff.mpr fun other held same => ?_
        exact new (List.mem_map.mpr ⟨other,held,of_decide_eq_true same⟩)
      simp [none]
    · have other : record.1 ≠ key := by
        rintro rfl
        exact new (List.mem_map.mpr ⟨_,member,rfl⟩)
      simp [other,ih later member]

theorem toList_filter_key (m : ExtTreeMap κ α) (key : κ) :
    m.toList.filter (·.1 = key) = (m[key]?.map (key,·)).toList := by
  cases found : m[key]? with
  | some value =>
    exact (toList_ascending m).distinct.filter_key (ExtTreeMap.mem_toList_iff_getElem?_eq_some.mpr found)
  | none =>
    refine List.filter_eq_nil_iff.mpr fun record member same => ?_
    have held := ExtTreeMap.mem_toList_iff_getElem?_eq_some.mp member
    rw [of_decide_eq_true same,found] at held
    cases held

end RecordMap
