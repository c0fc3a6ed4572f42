import Mathlib.Data.List.Induction
import Mathlib.Data.List.Nodup
import UserAuth.Executor.ResourceNodePool
import UserAuth.Lib.Mealy

namespace UserAuth
open Std

-- Two nodes of one index are told apart by the order they were made in.
structure ResourceNodeImpl where
  ref : Nat
  executorIndex : UInt64
  deriving DecidableEq

inductive NodeInput where
  -- A fresh node, which MakeNewResource has added to the engine, is inserted.
  | insert (executorIndex : UInt64)
  | delete (executorIndex : UInt64)
  | deleteAll
  -- The last shared pointer to a node goes.
  | destroy (node : ResourceNodeImpl)
  | registerListener (listener : Option Nat)
  | deregisterListener (listener : Option Nat)

def NodeInput.isInsert : NodeInput → Bool
  | .insert _ => true
  | _ => false

def NodeInput.inserts (executorIndex : UInt64) : NodeInput → Bool
  | .insert index => index == executorIndex
  | _ => false

def NodeInput.deletes (executorIndex : UInt64) : NodeInput → Bool
  | .delete index => index == executorIndex
  | _ => false

inductive NodeOutput where
  | deleteExecutor (node : ResourceNodeImpl)
  | told (listener : Nat) (notice : PoolNotice ResourceNodeImpl)
  deriving DecidableEq

structure NodeReferences where
  pool : ResourceNodePool ResourceNodeImpl := ∅
  listenerSet : List Nat := []
  -- The nodes whose addedToEngine_ is set.
  addedToEngine : List ResourceNodeImpl := []
  -- The nodes that something still points to.
  held : List ResourceNodeImpl := []
  made : Nat := 0

namespace NodeReferences
open ResourceNodePool

def detachFromEngine (s : NodeReferences) (node : ResourceNodeImpl) : NodeReferences :=
  {s with addedToEngine:=s.addedToEngine.filter (· ≠ node)}

-- DeleteFromEngine, and what the destructor does.
def deleteFromEngine (s : NodeReferences) (node : ResourceNodeImpl) : NodeReferences × List NodeOutput :=
  if node ∈ s.addedToEngine then (s.detachFromEngine node,[.deleteExecutor node]) else (s,[])

def deleteNodes (s : NodeReferences) : List ResourceNodeImpl → NodeReferences × List NodeOutput
  | [] => (s,[])
  | node :: rest => Mealy.andThen (s.deleteFromEngine node) fun s => s.deleteNodes rest

def tell (s : NodeReferences) (notice : PoolNotice ResourceNodeImpl) : List NodeOutput :=
  s.listenerSet.map (.told · notice)

def makeNode (s : NodeReferences) (executorIndex : UInt64) : NodeReferences :=
  let node : ResourceNodeImpl := ⟨s.made,executorIndex⟩
  {s with addedToEngine:=node :: s.addedToEngine,held:=node :: s.held,made:=s.made + 1}

def insert (s : NodeReferences) (resource : ResourceNodeImpl) : NodeReferences × List NodeOutput :=
  match s.pool.insertNode resource.executorIndex resource with
  | none => (s,[])
  | some (pool,notice) =>
    let detached := match s.pool.select resource.executorIndex with
      | none => s
      | some old => s.detachFromEngine old
    ({detached with pool:=pool},s.tell notice)

-- What leaves the pool is deleted from the engine before the listeners hear of it.
def takeOut (s : NodeReferences) (pool : ResourceNodePool ResourceNodeImpl) (gone : List ResourceNodeImpl) :
    NodeReferences × List NodeOutput :=
  let deleted := s.deleteNodes gone
  ({deleted.1 with pool:=pool},deleted.2 ++ gone.flatMap fun node => s.tell (.deleted node))

def delete (s : NodeReferences) (executorIndex : UInt64) : NodeReferences × List NodeOutput :=
  match s.pool.delete executorIndex with
  | none => (s,[])
  | some (pool,notices) => s.takeOut pool (notices.map PoolNotice.node)

def deleteAll (s : NodeReferences) : NodeReferences × List NodeOutput :=
  s.takeOut s.pool.deleteAll.1 (s.pool.deleteAll.2.map PoolNotice.node)

def holds (s : NodeReferences) (node : ResourceNodeImpl) : Prop := s.pool.select node.executorIndex = some node

instance (s : NodeReferences) (node : ResourceNodeImpl) : Decidable (s.holds node) :=
  inferInstanceAs (Decidable (_ = _))

def destroy (s : NodeReferences) (node : ResourceNodeImpl) : NodeReferences × List NodeOutput :=
  if node ∈ s.held ∧ ¬s.holds node then
    {s with held:=s.held.filter (· ≠ node)}.deleteFromEngine node
  else (s,[])

def registerListener (s : NodeReferences) : Option Nat → NodeReferences
  | none => s
  | some listener => {s with listenerSet:=s.listenerSet.insert listener}

def deregisterListener (s : NodeReferences) : Option Nat → NodeReferences
  | none => s
  | some listener => {s with listenerSet:=s.listenerSet.filter (· ≠ listener)}

def step (s : NodeReferences) : NodeInput → NodeReferences × List NodeOutput
  | .insert executorIndex => (s.makeNode executorIndex).insert ⟨s.made,executorIndex⟩
  | .delete executorIndex => s.delete executorIndex
  | .deleteAll => s.deleteAll
  | .destroy node => s.destroy node
  | .registerListener listener => (s.registerListener listener,[])
  | .deregisterListener listener => (s.deregisterListener listener,[])

def machine : Mealy NodeReferences NodeInput NodeOutput := ⟨step⟩

def countOf (s : NodeReferences) (executorIndex : UInt64) : Nat :=
  match s.pool[executorIndex]? with
  | none => 0
  | some param => param.count

def absent (s : NodeReferences) (executorIndex : UInt64) : Prop := s.pool.select executorIndex = none

-- The engine and the listeners hear of a step what it does to the pool, once.
structure Reported (s next : NodeReferences) (outputs : List NodeOutput) : Prop where
  once : outputs.Nodup
  engine : ∀ node, .deleteExecutor node ∈ outputs ↔ s.holds node ∧ next.absent node.executorIndex
  inserted : ∀ listener node, .told listener (.inserted node) ∈ outputs ↔
    listener ∈ s.listenerSet ∧ s.absent node.executorIndex ∧ next.holds node
  updated : ∀ listener node, .told listener (.updated node) ∈ outputs ↔ listener ∈ s.listenerSet ∧
    next.holds node ∧ ∃ old, old ≠ node ∧ s.pool.select node.executorIndex = some old
  deleted : ∀ listener node, .told listener (.deleted node) ∈ outputs ↔
    listener ∈ s.listenerSet ∧ s.holds node ∧ next.absent node.executorIndex

-- Only the nodes of the pool are in the engine by their own flag, each under its index.
structure Valid (s : NodeReferences) : Prop where
  indexed : ∀ executorIndex node, s.pool.select executorIndex = some node → node.executorIndex = executorIndex
  counted : ∀ executorIndex, s.countOf executorIndex ≤ s.made
  positive : ∀ executorIndex, s.countOf executorIndex = 0 → s.absent executorIndex
  added : ∀ node, node ∈ s.addedToEngine ↔ s.holds node
  older : ∀ node, s.holds node → node.ref < s.made
  listeners : s.listenerSet.Nodup

section Steps
variable {s next : NodeReferences}

theorem holds_of_selected (valid : Valid s) (found : s.pool.select executorIndex = some node) : s.holds node := by
  rw [holds,valid.indexed executorIndex node found]
  exact found

theorem deleteNodes_spec (gone : List ResourceNodeImpl) (distinct : gone.Nodup)
    (added : ∀ node ∈ gone, node ∈ s.addedToEngine) :
    s.deleteNodes gone =
      ({s with addedToEngine:=s.addedToEngine.filter (· ∉ gone)},gone.map .deleteExecutor) := by
  induction gone generalizing s with
  | nil => simp [deleteNodes]
  | cons node rest ih =>
    obtain ⟨apart,distinct⟩ := List.nodup_cons.mp distinct
    have here : node ∈ s.addedToEngine := added node List.mem_cons_self
    have later : ∀ other ∈ rest, other ∈ (s.detachFromEngine node).addedToEngine := by
      intro other member
      have different : other ≠ node := fun same => apart (same ▸ member)
      simp [detachFromEngine,different,added other (List.mem_cons_of_mem _ member)]
    have moved := ih distinct later
    simp only [deleteNodes,deleteFromEngine,if_pos here,Mealy.andThen,moved]
    simp [detachFromEngine,List.filter_filter,Bool.and_comm]

theorem mem_tell : .told listener notice ∈ s.tell told ↔ listener ∈ s.listenerSet ∧ notice = told := by
  simp [tell,eq_comm]

theorem tell_nodup (listeners : s.listenerSet.Nodup) (told : PoolNotice ResourceNodeImpl) : (s.tell told).Nodup := by
  refine List.Nodup.map ?_ listeners
  intro first second same
  cases same
  rfl

-- A step that leaves every node in its place asks and tells nothing.
theorem quiet_reported (same : ∀ executorIndex, next.pool.select executorIndex = s.pool.select executorIndex) :
    Reported s next [] := by
  have stays : ∀ node, ¬(s.holds node ∧ next.absent node.executorIndex) := by
    intro node ⟨held,gone⟩
    rw [absent,same,held] at gone
    cases gone
  constructor
  · exact List.nodup_nil
  · intro node
    simpa using stays node
  · intro listener node
    simp only [List.not_mem_nil,false_iff]
    rintro ⟨_,missing,held⟩
    rw [holds,same,missing] at held
    cases held
  · intro listener node
    simp only [List.not_mem_nil,false_iff]
    rintro ⟨_,held,old,different,found⟩
    rw [holds,same,found] at held
    exact different (Option.some.inj held)
  · intro listener node
    simpa using fun _ => stays node

-- A fresh node takes the place of whatever was under its index.
theorem arrival_reported (valid : Valid s) (node : ResourceNodeImpl) (fresh : s.made ≤ node.ref)
    (placed : ∀ executorIndex, next.pool.select executorIndex =
      if node.executorIndex = executorIndex then some node else s.pool.select executorIndex)
    (notice : PoolNotice ResourceNodeImpl)
    (noticed : (s.absent node.executorIndex ∧ notice = .inserted node) ∨
      ((∃ old, s.pool.select node.executorIndex = some old) ∧ notice = .updated node)) :
    Reported s next (s.tell notice) := by
  have unknown : ¬s.holds node := fun held => absurd (valid.older node held) (Nat.not_lt.mpr fresh)
  have stays : ∀ other, ¬(s.holds other ∧ next.absent other.executorIndex) := by
    intro other ⟨held,gone⟩
    rw [absent,placed] at gone
    split at gone
    · cases gone
    · rw [held] at gone
      cases gone
  have arrived : ∀ other, next.holds other → s.holds other ∨ other = node := by
    intro other held
    rw [holds,placed] at held
    split at held
    · exact .inr (Option.some.inj held).symm
    · exact .inl held
  have here : next.holds node := by rw [holds,placed,if_pos rfl]
  constructor
  · exact tell_nodup valid.listeners notice
  · intro other
    simpa [tell] using stays other
  · intro listener other
    rw [mem_tell]
    refine and_congr_right fun _ => ⟨?_,?_⟩
    · rintro rfl
      obtain ⟨missing,same⟩ | ⟨_,same⟩ := noticed <;> cases same
      exact ⟨missing,here⟩
    · rintro ⟨missing,held⟩
      obtain was | rfl := arrived other held
      · rw [holds,missing] at was
        cases was
      · obtain ⟨_,same⟩ | ⟨⟨old,found⟩,_⟩ := noticed
        · exact same.symm
        · rw [missing] at found
          cases found
  · intro listener other
    rw [mem_tell]
    refine and_congr_right fun _ => ⟨?_,?_⟩
    · rintro rfl
      obtain ⟨_,same⟩ | ⟨⟨old,found⟩,same⟩ := noticed <;> cases same
      refine ⟨here,old,?_,found⟩
      rintro rfl
      exact unknown found
    · rintro ⟨held,old,different,found⟩
      obtain was | rfl := arrived other held
      · rw [holds,found] at was
        exact absurd (Option.some.inj was) different
      · obtain ⟨missing,_⟩ | ⟨_,same⟩ := noticed
        · rw [absent,found] at missing
          cases missing
        · exact same.symm
  · intro listener other
    rw [mem_tell]
    constructor
    · rintro ⟨_,rfl⟩
      obtain ⟨_,same⟩ | ⟨_,same⟩ := noticed <;> cases same
    · rintro ⟨_,gone⟩
      exact absurd gone (stays other)

-- The nodes of some indices go, with nothing put in their place.
theorem departure_reported (valid : Valid s) (gone : List ResourceNodeImpl) (distinct : gone.Nodup)
    (left : ∀ node, node ∈ gone ↔ s.holds node ∧ next.absent node.executorIndex)
    (rest : ∀ executorIndex, next.absent executorIndex ∨
      next.pool.select executorIndex = s.pool.select executorIndex) :
    Reported s next (gone.map .deleteExecutor ++ gone.flatMap fun node => s.tell (.deleted node)) := by
  have remained : ∀ node, next.holds node → s.holds node := by
    intro node held
    obtain none | same := rest node.executorIndex
    · rw [absent,held] at none
      cases none
    · rw [holds,← same]
      exact held
  have told : ∀ listener notice, .told listener notice ∈
      gone.map NodeOutput.deleteExecutor ++ gone.flatMap (fun node => s.tell (.deleted node)) ↔
        listener ∈ s.listenerSet ∧ ∃ node ∈ gone, notice = .deleted node := by
    intro listener notice
    simp only [List.mem_append,List.mem_map,reduceCtorEq,and_false,exists_false,false_or,List.mem_flatMap,mem_tell]
    constructor
    · rintro ⟨node,member,known,rfl⟩
      exact ⟨known,node,member,rfl⟩
    · rintro ⟨known,node,member,rfl⟩
      exact ⟨node,member,known,rfl⟩
  constructor
  · refine List.nodup_append.mpr ⟨?_,?_,?_⟩
    · exact distinct.map fun _ _ same => NodeOutput.deleteExecutor.inj same
    · refine List.nodup_flatMap.mpr ⟨fun node _ => tell_nodup valid.listeners _,?_⟩
      refine distinct.imp ?_
      intro first second different output inFirst inSecond
      obtain ⟨listener,_,rfl⟩ := List.mem_map.mp inFirst
      obtain ⟨_,same⟩ := mem_tell.mp inSecond
      exact different (PoolNotice.deleted.inj same)
    · intro first inFirst second inSecond same
      obtain ⟨node,_,rfl⟩ := List.mem_map.mp inFirst
      obtain ⟨other,_,inSecond⟩ := List.mem_flatMap.mp inSecond
      obtain ⟨listener,_,rfl⟩ := List.mem_map.mp inSecond
      cases same
  · intro node
    rw [← left]
    simp [tell]
  · intro listener node
    rw [told]
    constructor
    · rintro ⟨_,other,_,same⟩
      cases same
    · rintro ⟨_,missing,held⟩
      have was := remained node held
      rw [holds,missing] at was
      cases was
  · intro listener node
    rw [told]
    constructor
    · rintro ⟨_,other,_,same⟩
      cases same
    · rintro ⟨_,held,old,different,found⟩
      have was := remained node held
      rw [holds,found] at was
      exact absurd (Option.some.inj was) different
  · intro listener node
    rw [told]
    refine and_congr_right fun _ => ?_
    rw [← left]
    constructor
    · rintro ⟨other,member,same⟩
      cases same
      exact member
    · intro member
      exact ⟨node,member,rfl⟩

-- What one step keeps and how it moves the counts.
structure Kept (s : NodeReferences) (input : NodeInput) (next : NodeReferences) (outputs : List NodeOutput) : Prop where
  valid : Valid next
  reported : Reported s next outputs
  came : ∀ node, next.holds node → s.holds node ∨ s.made ≤ node.ref
  made : next.made = s.made + input.isInsert.toNat
  count : ∀ executorIndex, next.absent executorIndex ∨
    next.countOf executorIndex + (input.deletes executorIndex).toNat =
      s.countOf executorIndex + (input.inserts executorIndex).toNat

theorem countOf_found (found : s.pool[executorIndex]? = some param) : s.countOf executorIndex = param.count := by
  rw [countOf,found]

theorem countOf_insert (pool : next.pool = s.pool.insert executorIndex param) (other : UInt64) :
    next.countOf other = if executorIndex = other then param.count else s.countOf other := by
  rw [countOf,pool,find_insert]
  by_cases here : executorIndex = other
  · rw [if_pos here,if_pos here]
  · rw [if_neg here,if_neg here]
    rfl

theorem absent_iff : s.absent executorIndex ↔ s.pool[executorIndex]? = none := Option.map_eq_none_iff

theorem countOf_absent (missing : s.absent executorIndex) : s.countOf executorIndex = 0 := by
  rw [countOf,absent_iff.mp missing]

-- The pool stays as it is.
theorem still_kept (valid : Valid s) (pool : next.pool = s.pool)
    (added : ∀ node, node ∈ next.addedToEngine ↔ node ∈ s.addedToEngine)
    (made : next.made = s.made) (listeners : next.listenerSet.Nodup) (others : input.isInsert = false)
    (none : ∀ executorIndex, input.inserts executorIndex = false)
    (missed : ∀ executorIndex, input.deletes executorIndex = true → s.absent executorIndex) : Kept s input next [] := by
  have holds : ∀ node, next.holds node ↔ s.holds node := fun node => by
    rw [NodeReferences.holds,pool,NodeReferences.holds]
  have count : ∀ executorIndex, next.countOf executorIndex = s.countOf executorIndex := fun _ => by
    rw [countOf,pool,countOf]
  have absent : ∀ executorIndex, next.absent executorIndex ↔ s.absent executorIndex := fun _ => by
    rw [NodeReferences.absent,pool,NodeReferences.absent]
  constructor
  · constructor
    · rw [pool]
      exact valid.indexed
    · intro executorIndex
      rw [count,made]
      exact valid.counted executorIndex
    · intro executorIndex
      rw [count,absent]
      exact valid.positive executorIndex
    · intro node
      rw [added,holds]
      exact valid.added node
    · intro node
      rw [holds,made]
      exact valid.older node
    · exact listeners
  · exact quiet_reported fun _ => by rw [pool]
  · exact fun node held => .inl ((holds node).mp held)
  · rw [made,others]
    rfl
  · intro executorIndex
    rw [absent,count,none]
    cases deletes : input.deletes executorIndex with
    | false => exact .inr rfl
    | true => exact .inl (missed executorIndex deletes)

-- A delete that is not the last one of its index takes one from its count.
theorem decrease_kept (valid : Valid s) (found : s.pool[executorIndex]? = some param) (more : 1 < param.count)
    (moved : next = {s with pool:=s.pool.insert executorIndex {param with count:=param.count - 1}}) :
    Kept s (.delete executorIndex) next [] := by
  have pool : next.pool = s.pool.insert executorIndex {param with count:=param.count - 1} := by rw [moved]
  have placed : ∀ other, next.pool.select other = s.pool.select other := by
    intro other
    rw [pool,select_insert]
    split
    · rename_i here
      rw [← here]
      exact (select_some.mpr ⟨param,found,rfl⟩).symm
    · rfl
  have count := countOf_insert pool
  have holds : ∀ node, next.holds node ↔ s.holds node := fun node => by
    rw [NodeReferences.holds,placed,NodeReferences.holds]
  constructor
  · constructor
    · intro other node
      rw [placed]
      exact valid.indexed other node
    · intro other
      rw [count,moved]
      split
      · have bound := valid.counted executorIndex
        rw [countOf_found found] at bound
        dsimp only
        omega
      · exact valid.counted other
    · intro other
      rw [count,absent,placed]
      split
      · dsimp only
        omega
      · exact valid.positive other
    · intro node
      rw [holds,moved]
      exact valid.added node
    · intro node
      rw [holds,moved]
      exact valid.older node
    · rw [moved]
      exact valid.listeners
  · exact quiet_reported placed
  · exact fun node held => .inl ((holds node).mp held)
  · rw [moved]
    rfl
  · intro other
    refine .inr ?_
    rw [count]
    by_cases here : executorIndex = other
    · subst here
      rw [if_pos rfl,countOf_found found]
      simp [NodeInput.deletes,NodeInput.inserts]
      omega
    · simp [NodeInput.deletes,NodeInput.inserts,here]

section TakeOut
variable {pool : ResourceNodePool ResourceNodeImpl} {gone : List ResourceNodeImpl}

theorem rest_selects (rest : ∀ executorIndex : UInt64, pool[executorIndex]? = none ∨
      pool[executorIndex]? = s.pool[executorIndex]?) (executorIndex : UInt64) :
    pool.select executorIndex = none ∨ pool.select executorIndex = s.pool.select executorIndex := by
  obtain gone | same := rest executorIndex
  · exact .inl (by rw [select,gone]; rfl)
  · exact .inr (by rw [select,same]; rfl)

theorem rest_holds (rest : ∀ executorIndex : UInt64, pool[executorIndex]? = none ∨
      pool[executorIndex]? = s.pool[executorIndex]?) (held : pool.select node.executorIndex = some node) : s.holds node := by
  obtain gone | same := rest_selects rest node.executorIndex
  · rw [held] at gone
    cases gone
  · rw [holds,← same]
    exact held

-- The nodes that leave the pool lose their flag with it.
theorem takeOut_valid (valid : Valid s)
    (left : ∀ node, node ∈ gone ↔ s.holds node ∧ pool.select node.executorIndex = none)
    (rest : ∀ executorIndex : UInt64, pool[executorIndex]? = none ∨ pool[executorIndex]? = s.pool[executorIndex]?) :
    Valid {s with pool,addedToEngine:=s.addedToEngine.filter (· ∉ gone)} := by
  constructor
  · intro executorIndex node found
    obtain gone | same := rest_selects rest executorIndex
    · rw [show pool.select executorIndex = some node from found] at gone
      cases gone
    · exact valid.indexed executorIndex node (same ▸ found)
  · intro executorIndex
    obtain gone | same := rest executorIndex
    · simp [countOf,gone]
    · simpa [countOf,same] using valid.counted executorIndex
  · intro executorIndex zero
    obtain gone | same := rest executorIndex
    · exact absent_iff.mpr gone
    · rw [absent_iff]
      have missing := valid.positive executorIndex (by simpa [countOf,same] using zero)
      exact same.trans (absent_iff.mp missing)
  · intro node
    simp only [List.mem_filter,valid.added,decide_eq_true_eq,left,not_and]
    constructor
    · rintro ⟨held,stays⟩
      obtain gone | same := rest_selects rest node.executorIndex
      · exact absurd gone (stays held)
      · exact same.trans held
    · intro held
      refine ⟨rest_holds rest held,fun _ gone => ?_⟩
      rw [show pool.select node.executorIndex = some node from held] at gone
      cases gone
  · exact fun node held => valid.older node (rest_holds rest held)
  · exact valid.listeners

theorem takeOut_kept (valid : Valid s) (pool : ResourceNodePool ResourceNodeImpl) (gone : List ResourceNodeImpl)
    (distinct : gone.Nodup) (left : ∀ node, node ∈ gone ↔ s.holds node ∧ pool.select node.executorIndex = none)
    (rest : ∀ executorIndex : UInt64, pool[executorIndex]? = none ∨ pool[executorIndex]? = s.pool[executorIndex]?)
    (others : input.isInsert = false) (none : ∀ executorIndex, input.inserts executorIndex = false)
    (only : ∀ executorIndex : UInt64, input.deletes executorIndex = true → pool[executorIndex]? = .none) :
    Kept s input (s.takeOut pool gone).1 (s.takeOut pool gone).2 := by
  have deleted := deleteNodes_spec gone distinct fun node member => (valid.added node).mpr ((left node).mp member).1
  rw [takeOut,deleted]
  constructor
  · exact takeOut_valid valid left rest
  · exact departure_reported valid gone distinct left (rest_selects rest)
  · exact fun node held => .inl (rest_holds rest held)
  · simp [others]
  · intro executorIndex
    obtain gone | same := rest executorIndex
    · exact .inl (absent_iff.mpr gone)
    · cases deletes : input.deletes executorIndex with
      | true => exact .inl (absent_iff.mpr (only executorIndex deletes))
      | false =>
        refine .inr ?_
        simp [countOf,same,none]

end TakeOut

-- A fresh node is one more of its index, and only the node it replaces loses its flag.
structure Arrived (s next : NodeReferences) (node : ResourceNodeImpl) (notice : PoolNotice ResourceNodeImpl) : Prop where
  pool : next.pool = s.pool.insert node.executorIndex ⟨s.countOf node.executorIndex + 1,node⟩
  added : ∀ other, other ∈ next.addedToEngine ↔ (other = node ∨ other ∈ s.addedToEngine) ∧
    s.pool.select node.executorIndex ≠ some other
  made : next.made = s.made + 1
  listeners : next.listenerSet = s.listenerSet
  noticed : (s.absent node.executorIndex ∧ notice = .inserted node) ∨
    ((∃ old, s.pool.select node.executorIndex = some old) ∧ notice = .updated node)

theorem insert_spec (executorIndex : UInt64) (few : s.countOf executorIndex < UINT32_MAX) : ∃ next notice,
    s.step (.insert executorIndex) = (next,s.tell notice) ∧ Arrived s next ⟨s.made,executorIndex⟩ notice := by
  have pool : (s.makeNode executorIndex).pool = s.pool := rfl
  cases found : s.pool[executorIndex]? with
  | none =>
    have missing : s.pool.select executorIndex = none := absent_iff.mpr found
    have empty := countOf_absent (s:=s) missing
    refine ⟨{s.makeNode executorIndex with pool:=s.pool.insert executorIndex ⟨1,⟨s.made,executorIndex⟩⟩},
      .inserted ⟨s.made,executorIndex⟩,?_,?_⟩
    · rw [step,insert,insertNode,pool,found,missing]
      rfl
    · refine ⟨by rw [empty],fun other => ?_,rfl,rfl,.inl ⟨missing,rfl⟩⟩
      rw [missing,makeNode,List.mem_cons]
      exact (and_iff_left nofun).symm
  | some param =>
    have count := countOf_found (s:=s) found
    rw [count] at few
    have here : s.pool.select executorIndex = some param.node := select_some.mpr ⟨param,found,rfl⟩
    refine ⟨{(s.makeNode executorIndex).detachFromEngine param.node with
      pool:=s.pool.insert executorIndex ⟨param.count + 1,⟨s.made,executorIndex⟩⟩},
      .updated ⟨s.made,executorIndex⟩,?_,?_⟩
    · rw [step,insert,insertNode,pool,found,here]
      dsimp only
      rw [if_neg (Nat.not_le.mpr few)]
      rfl
    · refine ⟨by rw [count],fun other => ?_,rfl,rfl,.inr ⟨⟨_,here⟩,rfl⟩⟩
      rw [here,detachFromEngine,List.mem_filter,decide_eq_true_eq,ne_comm,makeNode,List.mem_cons,ne_eq,ne_eq,
        Option.some_inj]

theorem Arrived.placed (arrived : Arrived s next ⟨ref,executorIndex⟩ notice) (other : UInt64) :
    next.pool.select other = if executorIndex = other then some ⟨ref,executorIndex⟩ else s.pool.select other := by
  rw [arrived.pool,select_insert]

theorem Arrived.came (arrived : Arrived s next ⟨ref,executorIndex⟩ notice) (held : next.holds node) :
    s.holds node ∧ executorIndex ≠ node.executorIndex ∨ node = ⟨ref,executorIndex⟩ := by
  rw [holds,arrived.placed] at held
  split at held
  · exact .inr (Option.some.inj held).symm
  · rename_i elsewhere
    exact .inl ⟨held,elsewhere⟩

theorem arrived_valid (valid : Valid s) (arrived : Arrived s next ⟨s.made,executorIndex⟩ notice) : Valid next := by
  have count := countOf_insert arrived.pool
  constructor
  · intro other node found
    rw [arrived.placed] at found
    split at found
    · rename_i here
      cases found
      exact here
    · exact valid.indexed other node found
  · intro other
    have bound := valid.counted other
    rw [count,arrived.made]
    split
    · rename_i here
      dsimp only at here ⊢
      rw [here]
      omega
    · omega
  · intro other
    rw [count,absent,arrived.placed]
    split
    · dsimp only
      omega
    · exact valid.positive other
  · intro node
    rw [arrived.added]
    constructor
    · rintro ⟨rfl | was,still⟩
      · exact (arrived.placed executorIndex).trans (if_pos rfl)
      · have held := (valid.added node).mp was
        have elsewhere : executorIndex ≠ node.executorIndex := by
          rintro rfl
          exact still held
        exact (arrived.placed _).trans ((if_neg elsewhere).trans held)
    · intro held
      obtain ⟨held,elsewhere⟩ | rfl := arrived.came held
      · refine ⟨.inr ((valid.added node).mpr held),fun found => ?_⟩
        exact elsewhere (valid.indexed _ _ found).symm
      · refine ⟨.inl rfl,fun found => ?_⟩
        exact absurd (valid.older _ (holds_of_selected valid found)) (Nat.lt_irrefl _)
  · intro node held
    rw [arrived.made]
    obtain ⟨held,_⟩ | rfl := arrived.came held
    · exact Nat.lt_succ_of_lt (valid.older node held)
    · exact Nat.lt_succ_self _
  · rw [arrived.listeners]
    exact valid.listeners

theorem arrived_kept (valid : Valid s) (arrived : Arrived s next ⟨s.made,executorIndex⟩ notice) :
    Kept s (.insert executorIndex) next (s.tell notice) := by
  constructor
  · exact arrived_valid valid arrived
  · exact arrival_reported valid ⟨s.made,executorIndex⟩ (Nat.le_refl _) arrived.placed notice arrived.noticed
  · intro node held
    obtain ⟨held,_⟩ | rfl := arrived.came held
    · exact .inl held
    · exact .inr (Nat.le_refl _)
  · exact arrived.made
  · intro other
    refine .inr ?_
    rw [countOf_insert arrived.pool]
    by_cases here : executorIndex = other
    · subst here
      simp [NodeInput.deletes,NodeInput.inserts]
    · simp [NodeInput.deletes,NodeInput.inserts,here]

theorem insert_kept (valid : Valid s) (executorIndex : UInt64) (room : s.made < UINT32_MAX) :
    Kept s (.insert executorIndex) (s.step (.insert executorIndex)).1 (s.step (.insert executorIndex)).2 := by
  have few : s.countOf executorIndex < UINT32_MAX := Nat.lt_of_le_of_lt (valid.counted executorIndex) room
  obtain ⟨next,notice,stepped,arrived⟩ := insert_spec executorIndex few
  rw [stepped]
  exact arrived_kept valid arrived

theorem delete_kept (valid : Valid s) (executorIndex : UInt64) :
    Kept s (.delete executorIndex) (s.step (.delete executorIndex)).1 (s.step (.delete executorIndex)).2 := by
  obtain ⟨missing,refused⟩ | ⟨param,found,⟨more,deleted⟩ | ⟨last,deleted⟩⟩ :=
    @delete_cases _ s.pool executorIndex
  · rw [step,delete,refused]
    refine still_kept valid rfl (fun _ => Iff.rfl) rfl valid.listeners rfl (fun _ => rfl) ?_
    intro other deletes
    rw [← eq_of_beq deletes]
    exact absent_iff.mpr missing
  · have nothing : ∀ pool, s.takeOut pool [] = ({s with pool:=pool},[]) := fun _ => rfl
    rw [step,delete,deleted]
    dsimp only
    rw [List.map_nil,nothing]
    exact decrease_kept valid found more rfl
  · rw [step,delete,deleted]
    have here : s.pool.select executorIndex = some param.node := select_some.mpr ⟨param,found,rfl⟩
    refine takeOut_kept valid _ [param.node] (List.nodup_singleton _) ?_ ?_ rfl (fun _ => rfl) ?_
    · intro node
      rw [List.mem_singleton,select_erase]
      constructor
      · rintro rfl
        exact ⟨holds_of_selected valid here,if_pos (valid.indexed _ _ here).symm⟩
      · rintro ⟨held,gone⟩
        by_cases same : executorIndex = node.executorIndex
        · subst same
          exact Option.some.inj (held.symm.trans here)
        · rw [if_neg same,held] at gone
          cases gone
    · intro other
      rw [find_erase]
      by_cases same : executorIndex = other
      · exact .inl (if_pos same)
      · exact .inr (if_neg same)
    · intro other deletes
      rw [find_erase,if_pos (eq_of_beq deletes)]

theorem deleteAll_kept (valid : Valid s) : Kept s .deleteAll (s.step .deleteAll).1 (s.step .deleteAll).2 := by
  have selected : ∀ entry ∈ s.pool.toList, s.pool.select entry.1 = some entry.2.node := fun entry member =>
    select_some.mpr ⟨entry.2,ExtTreeMap.mem_toList_iff_getElem?_eq_some.mp member,rfl⟩
  have nodes : s.pool.deleteAll.2.map PoolNotice.node = s.pool.toList.map fun entry => entry.2.node := by
    rw [ResourceNodePool.deleteAll,List.map_map]
    rfl
  rw [step,deleteAll,nodes]
  refine takeOut_kept valid _ _ ?_ ?_ (fun _ => .inl ExtTreeMap.getElem?_empty) rfl (fun _ => rfl) fun _ _ =>
    ExtTreeMap.getElem?_empty
  · refine List.pairwise_map.mpr ?_
    refine ExtTreeMap.distinct_keys_toList.imp_of_mem ?_
    intro first second inFirst inSecond different same
    have index := valid.indexed _ _ (selected first inFirst)
    rw [same,valid.indexed _ _ (selected second inSecond)] at index
    exact different (compare_eq_iff_eq.mpr index.symm)
  · intro node
    have gone : select (s.pool.deleteAll.1) node.executorIndex = none := by
      rw [select,ResourceNodePool.deleteAll,ExtTreeMap.getElem?_empty]
      rfl
    rw [List.mem_map]
    constructor
    · rintro ⟨entry,member,rfl⟩
      exact ⟨holds_of_selected valid (selected entry member),gone⟩
    · rintro ⟨held,_⟩
      obtain ⟨param,found,same⟩ := select_some.mp held
      exact ⟨(node.executorIndex,param),ExtTreeMap.mem_toList_iff_getElem?_eq_some.mpr found,same⟩

theorem destroy_kept (valid : Valid s) (node : ResourceNodeImpl) :
    Kept s (.destroy node) (s.step (.destroy node)).1 (s.step (.destroy node)).2 := by
  rw [step,destroy]
  split
  · rename_i free
    have detached : node ∉ s.addedToEngine := fun added => free.2 ((valid.added node).mp added)
    rw [deleteFromEngine,if_neg detached]
    exact still_kept valid rfl (fun _ => Iff.rfl) rfl valid.listeners rfl (fun _ => rfl) nofun
  · exact still_kept valid rfl (fun _ => Iff.rfl) rfl valid.listeners rfl (fun _ => rfl) nofun

theorem listeners_kept (valid : Valid s) (listeners : next.listenerSet.Nodup)
    (same : next = {s with listenerSet:=next.listenerSet})
    (others : input.isInsert = false) (none : ∀ executorIndex, input.inserts executorIndex = false)
    (missed : ∀ executorIndex, input.deletes executorIndex = true → s.absent executorIndex) : Kept s input next [] := by
  refine still_kept valid ?_ ?_ ?_ listeners others none missed
  · rw [same]
  · rw [same]
    exact fun _ => Iff.rfl
  · rw [same]

theorem step_kept (valid : Valid s) (input : NodeInput) (room : s.made + input.isInsert.toNat ≤ UINT32_MAX) :
    Kept s input (s.step input).1 (s.step input).2 := by
  cases input with
  | insert executorIndex => exact insert_kept valid executorIndex room
  | delete executorIndex => exact delete_kept valid executorIndex
  | deleteAll => exact deleteAll_kept valid
  | destroy node => exact destroy_kept valid node
  | registerListener listener =>
    cases listener with
    | none => exact listeners_kept valid valid.listeners rfl rfl (fun _ => rfl) nofun
    | some listener => exact listeners_kept valid valid.listeners.insert rfl rfl (fun _ => rfl) nofun
  | deregisterListener listener =>
    cases listener with
    | none => exact listeners_kept valid valid.listeners rfl rfl (fun _ => rfl) nofun
    | some listener => exact listeners_kept valid (valid.listeners.filter _) rfl rfl (fun _ => rfl) nofun

end Steps

def inserts (inputs : List NodeInput) : Nat := inputs.countP NodeInput.isInsert

theorem valid_empty : Valid {} where
  indexed := fun executorIndex node found => by simp [select] at found
  counted := fun executorIndex => by simp [countOf]
  positive := fun executorIndex _ => by simp [absent,select]
  added := fun node => by simp [holds,select]
  older := fun node held => by simp [holds,select] at held
  listeners := List.nodup_nil

theorem inserts_cons (input : NodeInput) (rest : List NodeInput) :
    inserts (input :: rest) = inserts rest + input.isInsert.toNat := by
  rw [inserts,List.countP_cons]
  cases input.isInsert <;> rfl

theorem inserts_append (before rest : List NodeInput) : inserts (before ++ rest) = inserts before + inserts rest :=
  List.countP_append

theorem valid_after (valid : Valid s) (inputs : List NodeInput) (few : s.made + inserts inputs ≤ UINT32_MAX) :
    Valid (machine.after s inputs) ∧ (machine.after s inputs).made = s.made + inserts inputs := by
  induction inputs generalizing s with
  | nil => exact ⟨valid,rfl⟩
  | cons input rest ih =>
    rw [inserts_cons] at few ⊢
    have kept := step_kept valid input (by omega)
    have made := kept.made
    obtain ⟨valid,total⟩ := ih kept.valid (by omega)
    refine ⟨valid,total.trans ?_⟩
    omega

-- The run cut at a step: the state before it is valid and the step keeps it so.
theorem kept_within (before : List NodeInput) (input : NodeInput)
    (few : inserts before + input.isInsert.toNat ≤ UINT32_MAX) :
    Valid (machine.after {} before) ∧ (machine.after {} before).made = inserts before ∧
      Kept (machine.after {} before) input ((machine.after {} before).step input).1
        ((machine.after {} before).step input).2 := by
  obtain ⟨valid,made⟩ := valid_after valid_empty before (by dsimp only; omega)
  rw [Nat.zero_add] at made
  exact ⟨valid,made,step_kept valid input (by omega)⟩

-- A node that is out of the pool stays out, and nobody asks for it again.
theorem gone_stays (valid : Valid s) (old : node.ref < s.made) (out : ¬s.holds node) (inputs : List NodeInput)
    (few : s.made + inserts inputs ≤ UINT32_MAX) :
    .deleteExecutor node ∉ machine.trace s inputs ∧ ¬(machine.after s inputs).holds node := by
  induction inputs generalizing s with
  | nil => exact ⟨List.not_mem_nil,out⟩
  | cons input rest ih =>
    rw [inserts_cons] at few
    have kept := step_kept valid input (by omega)
    have made := kept.made
    have still : ¬(s.step input).1.holds node := by
      intro held
      obtain was | young := kept.came node held
      · exact out was
      · omega
    obtain ⟨never,later⟩ := ih kept.valid (made ▸ Nat.lt_add_right _ old) still (made ▸ (by omega))
    rw [Mealy.trace_cons,List.mem_append,not_or]
    exact ⟨⟨fun asked => out ((kept.reported.engine node).mp asked).1,never⟩,later⟩

-- Of one node the engine is asked at most once, and not before the node leaves the pool.
theorem asked_once (valid : Valid s) (node : ResourceNodeImpl) (inputs : List NodeInput)
    (few : s.made + inserts inputs ≤ UINT32_MAX) : (machine.trace s inputs).count (.deleteExecutor node) ≤ 1 ∧
      ((machine.after s inputs).holds node → .deleteExecutor node ∉ machine.trace s inputs) := by
  induction inputs generalizing s with
  | nil => exact ⟨Nat.zero_le _,fun _ => List.not_mem_nil⟩
  | cons input rest ih =>
    rw [inserts_cons] at few
    have kept := step_kept valid input (by omega)
    have made := kept.made
    have stepped : machine.step s input = s.step input := rfl
    rw [Mealy.trace_cons,List.count_append,List.mem_append,Mealy.after_cons,stepped]
    by_cases asked : .deleteExecutor node ∈ (s.step input).2
    · obtain ⟨held,gone⟩ := (kept.reported.engine node).mp asked
      have out : ¬(s.step input).1.holds node := by
        intro held
        rw [absent,held] at gone
        cases gone
      have old := valid.older node held
      obtain ⟨never,later⟩ := gone_stays kept.valid (by omega) out rest (by omega)
      refine ⟨?_,fun held => absurd held later⟩
      have once : (s.step input).2.count (.deleteExecutor node) ≤ 1 := List.nodup_iff_count_le_one.mp kept.reported.once _
      have none : (machine.trace (s.step input).1 rest).count (.deleteExecutor node) = 0 := List.count_eq_zero.mpr never
      exact Nat.add_le_add once (Nat.le_of_eq none)
    · obtain ⟨once,never⟩ := ih kept.valid (by omega)
      have none : (s.step input).2.count (.deleteExecutor node) = 0 := List.count_eq_zero.mpr asked
      refine ⟨by omega,fun held => ?_⟩
      exact not_or.mpr ⟨asked,never held⟩

-- The inputs since an index was last absent, with the count they leave.
def CountedSince (inputs : List NodeInput) (executorIndex : UInt64) : Prop :=
  ∃ before since, inputs = before ++ since ∧ (machine.after {} before).absent executorIndex ∧
    (∀ sofar, sofar <+: since → sofar ≠ [] → ¬(machine.after {} (before ++ sofar)).absent executorIndex) ∧
    (machine.after {} inputs).countOf executorIndex + since.countP (NodeInput.deletes executorIndex) =
      since.countP (NodeInput.inserts executorIndex)

theorem counted_since (inputs : List NodeInput) (executorIndex : UInt64) (few : inserts inputs ≤ UINT32_MAX) :
    CountedSince inputs executorIndex := by
  induction inputs using List.reverseRecOn with
  | nil =>
    have start : (machine.after {} []).absent executorIndex := by simp [absent,select]
    refine ⟨[],[],rfl,start,fun sofar within some => ?_,?_⟩
    · exact absurd (List.prefix_nil.mp within) some
    · rw [countOf_absent start]
      rfl
  | append_singleton inputs input ih =>
    rw [inserts_append,inserts_cons] at few
    obtain ⟨_,_,kept⟩ := kept_within inputs input (by omega)
    obtain ⟨before,since,rfl,start,present,counted⟩ := ih (by omega)
    have stepped : machine.after {} ((before ++ since) ++ [input]) =
        ((machine.after {} (before ++ since)).step input).1 := by
      rw [Mealy.after_append]
      rfl
    obtain gone | count := kept.count executorIndex
    · rw [← stepped] at gone
      refine ⟨_,[],(List.append_nil _).symm,gone,fun sofar within some => ?_,?_⟩
      · exact absurd (List.prefix_nil.mp within) some
      · rw [countOf_absent gone]
        rfl
    · by_cases gone : (machine.after {} ((before ++ since) ++ [input])).absent executorIndex
      · refine ⟨_,[],(List.append_nil _).symm,gone,fun sofar within some => ?_,?_⟩
        · exact absurd (List.prefix_nil.mp within) some
        · rw [countOf_absent gone]
          rfl
      · refine ⟨before,since ++ [input],List.append_assoc _ _ _,start,fun sofar within some => ?_,?_⟩
        · obtain whole | within := List.prefix_concat_iff.mp within
          · rw [whole,← List.append_assoc]
            exact gone
          · exact present sofar within some
        · rw [stepped,List.countP_append,List.countP_append,List.countP_singleton,List.countP_singleton]
          have deletes : (if input.deletes executorIndex = true then 1 else 0) = (input.deletes executorIndex).toNat := by
            cases input.deletes executorIndex <;> rfl
          have inserts : (if input.inserts executorIndex = true then 1 else 0) = (input.inserts executorIndex).toNat := by
            cases input.inserts executorIndex <;> rfl
          rw [deletes,inserts]
          omega

-- A node that another has taken the place of is never asked for, before or after.
theorem replaced_unasked (split : inputs = before ++ input :: rest) (few : inserts inputs ≤ UINT32_MAX)
    (held : (machine.after {} before).holds old)
    (replaced : ((machine.after {} before).step input).1.pool.select old.executorIndex = some new)
    (different : new ≠ old) :
    .deleteExecutor old ∉ machine.trace {} inputs := by
  rw [split,inserts_append,inserts_cons] at few
  obtain ⟨valid,made,kept⟩ := kept_within before input (by omega)
  have older := valid.older old held
  have grown := kept.made
  have out : ¬((machine.after {} before).step input).1.holds old := by
    intro still
    exact different (Option.some.inj (replaced.symm.trans still))
  rw [split,Mealy.trace_append,Mealy.trace_cons,List.mem_append,List.mem_append,not_or,not_or]
  refine ⟨?_,?_,?_⟩
  · exact (asked_once valid_empty old before (by dsimp only; omega)).2 held
  · intro asked
    obtain ⟨_,gone⟩ := (kept.reported.engine old).mp asked
    rw [absent,replaced] at gone
    cases gone
  · exact (gone_stays kept.valid (by omega) out rest (by omega)).1

-- While every insert finds room to count, the counts are those of the calls,
-- each step is reported as it changed the pool, no node is asked for twice, and
-- none that another has replaced.
theorem references_counted (inputs : List NodeInput) (few : inserts inputs < UINT32_MAX) :
    (∀ executorIndex, CountedSince inputs executorIndex) ∧
    (∀ before input rest, inputs = before ++ input :: rest →
      Reported (machine.after {} before) ((machine.after {} before).step input).1
        ((machine.after {} before).step input).2) ∧
    (∀ node, (machine.trace {} inputs).count (.deleteExecutor node) ≤ 1) ∧
    ∀ before input rest old new, inputs = before ++ input :: rest → (machine.after {} before).holds old →
      ((machine.after {} before).step input).1.pool.select old.executorIndex = some new → new ≠ old →
        .deleteExecutor old ∉ machine.trace {} inputs := by
  have few := Nat.le_of_lt few
  refine ⟨fun executorIndex => counted_since inputs executorIndex few,?_,?_,?_⟩
  · intro before input rest split
    rw [split,inserts_append,inserts_cons] at few
    obtain ⟨_,_,kept⟩ := kept_within before input (by omega)
    exact kept.reported
  · exact fun node => (asked_once valid_empty node inputs (by dsimp only; omega)).1
  · intro before input rest old new split held replaced different
    exact replaced_unasked split few held replaced different

def twice : List NodeInput := [.registerListener (some 1),.insert 7,.insert 7,.delete 7,.delete 7]

theorem two_inserts_two_deletes : inserts twice < UINT32_MAX ∧ CountedSince twice 7 ∧
    (machine.trace {} twice).count (.deleteExecutor ⟨1,7⟩) ≤ 1 ∧
      .deleteExecutor ⟨0,7⟩ ∉ machine.trace {} twice := by
  have few : inserts twice < UINT32_MAX := by decide
  obtain ⟨since,_,once,unasked⟩ := references_counted twice few
  refine ⟨few,since 7,once _,?_⟩
  exact unasked [.registerListener (some 1),.insert 7] (.insert 7) _ ⟨0,7⟩ ⟨1,7⟩ rfl rfl rfl (by decide)

end NodeReferences
end UserAuth
