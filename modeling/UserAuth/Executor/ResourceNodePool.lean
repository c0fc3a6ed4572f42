import Mathlib.Data.List.Basic

namespace UserAuth
open Std

-- How often a node came in under its index, and the last one that did.
structure ResourceNodeParam (N : Type) where
  count : Nat
  node : N
  deriving DecidableEq

abbrev ResourceNodePool (N : Type) := ExtTreeMap UInt64 (ResourceNodeParam N)

-- What the listeners are told of.
inductive PoolNotice (N : Type) where
  | inserted (node : N)
  | updated (node : N)
  | deleted (node : N)
  deriving DecidableEq,Repr

def PoolNotice.node : PoolNotice N → N
  | .inserted node => node
  | .updated node => node
  | .deleted node => node

namespace ResourceNodePool
variable (pool : ResourceNodePool N)

def UINT32_MAX : Nat := 4294967295

def select (executorIndex : UInt64) : Option N := pool[executorIndex]?.map (·.node)

def insertNode (executorIndex : UInt64) (resource : N) : Option (ResourceNodePool N × PoolNotice N) :=
  match pool[executorIndex]? with
  | none => some (pool.insert executorIndex ⟨1,resource⟩,.inserted resource)
  | some param =>
    if param.count ≥ UINT32_MAX then none
    else some (pool.insert executorIndex ⟨param.count + 1,resource⟩,.updated resource)

def delete (executorIndex : UInt64) : Option (ResourceNodePool N × List (PoolNotice N)) :=
  match pool[executorIndex]? with
  | none => none
  | some param =>
    if param.count > 1 then some (pool.insert executorIndex {param with count:=param.count - 1},[])
    else some (pool.erase executorIndex,[.deleted param.node])

def deleteAll : ResourceNodePool N × List (PoolNotice N) :=
  (∅,pool.toList.map fun entry => .deleted entry.2.node)

section Lemmas
variable {pool}

theorem select_some : pool.select executorIndex = some node ↔
    ∃ param, pool[executorIndex]? = some param ∧ param.node = node := by
  simp [select,Option.map_eq_some_iff]

theorem find_insert (pool : ResourceNodePool N) (executorIndex : UInt64) (param : ResourceNodeParam N) (other : UInt64) :
    (pool.insert executorIndex param)[other]? = if executorIndex = other then some param else pool[other]? := by
  simp [ExtTreeMap.getElem?_insert]

theorem find_erase (pool : ResourceNodePool N) (executorIndex other : UInt64) :
    (pool.erase executorIndex)[other]? = if executorIndex = other then none else pool[other]? := by
  simp [ExtTreeMap.getElem?_erase]

theorem select_insert (executorIndex : UInt64) (param : ResourceNodeParam N) (other : UInt64) :
    select (pool.insert executorIndex param) other =
      if executorIndex = other then some param.node else pool.select other := by
  rw [select,find_insert,apply_ite (Option.map _)]
  rfl

theorem select_erase (executorIndex other : UInt64) : select (pool.erase executorIndex) other =
    if executorIndex = other then none else pool.select other := by
  rw [select,find_erase,apply_ite (Option.map _)]
  rfl

-- Whatever the count was, the new node is the one under its index.
theorem insertNode_cases (executorIndex : UInt64) (resource : N) : pool.insertNode executorIndex resource = none ∨
    ∃ count notice, 0 < count ∧
      pool.insertNode executorIndex resource = some (pool.insert executorIndex ⟨count,resource⟩,notice) := by
  unfold insertNode
  cases pool[executorIndex]? with
  | none => exact .inr ⟨1,_,Nat.one_pos,rfl⟩
  | some param =>
    dsimp only
    split
    · exact .inl rfl
    · exact .inr ⟨param.count + 1,_,Nat.succ_pos _,rfl⟩

-- Only the last of the deletes that an index has been inserted for takes its node out.
theorem delete_cases (executorIndex : UInt64) : pool[executorIndex]? = none ∧ pool.delete executorIndex = none ∨
    ∃ param, pool[executorIndex]? = some param ∧
      (1 < param.count ∧
          pool.delete executorIndex = some (pool.insert executorIndex {param with count:=param.count - 1},[]) ∨
        param.count ≤ 1 ∧ pool.delete executorIndex = some (pool.erase executorIndex,[.deleted param.node])) := by
  unfold delete
  cases found : pool[executorIndex]? with
  | none => exact .inl ⟨rfl,rfl⟩
  | some param =>
    refine .inr ⟨param,rfl,?_⟩
    dsimp only
    split
    · rename_i more
      exact .inl ⟨more,rfl⟩
    · rename_i last
      exact .inr ⟨Nat.le_of_not_lt last,rfl⟩

theorem insertNode_inserts (inserted : pool.insertNode executorIndex resource = some (next,notice)) :
    ∃ param, next = pool.insert executorIndex param := by
  unfold insertNode at inserted
  split at inserted
  · cases inserted
    exact ⟨_,rfl⟩
  · split at inserted
    · cases inserted
    · cases inserted
      exact ⟨_,rfl⟩

-- What a delete takes from its index it tells.
theorem delete_tells (deleted : pool.delete executorIndex = some (next,told)) (was : pool.select other = some node)
    (gone : next.select other ≠ some node) : .deleted node ∈ told := by
  unfold delete at deleted
  split at deleted
  · cases deleted
  · rename_i param found
    by_cases here : executorIndex = other
    · subst here
      have same : param.node = node := by simpa [select,found] using was
      split at deleted
      · cases deleted
        rw [select_insert,if_pos rfl,same] at gone
        exact absurd rfl gone
      · cases deleted
        simp [same]
    · split at deleted <;> cases deleted
      · rw [select_insert,if_neg here] at gone
        exact absurd was gone
      · rw [select_erase,if_neg here] at gone
        exact absurd was gone

-- Who is there after a delete was there before.
theorem delete_keeps (deleted : pool.delete executorIndex = some (next,told)) (held : next.select other = some node) :
    pool.select other = some node := by
  unfold delete at deleted
  split at deleted
  · cases deleted
  rename_i param found
  split at deleted
  · cases deleted
    rw [select_insert] at held
    split at held
    · rename_i here
      exact select_some.mpr ⟨param,here ▸ found,Option.some.inj held⟩
    · exact held
  · cases deleted
    rw [select_erase] at held
    split at held
    · cases held
    · exact held

theorem deleteAll_tells (was : pool.select other = some node) : .deleted node ∈ pool.deleteAll.2 := by
  obtain ⟨param,found,rfl⟩ := select_some.mp was
  exact List.mem_map.mpr ⟨(other,param),ExtTreeMap.mem_toList_iff_getElem?_eq_some.mpr found,rfl⟩

end Lemmas
end ResourceNodePool
end UserAuth
