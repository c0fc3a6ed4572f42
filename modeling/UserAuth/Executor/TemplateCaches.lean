import UserAuth.Executor.TemplateCacheManager

namespace UserAuth
open Std

namespace CacheEvent

def isServed (node : PooledExecutor) : CacheEvent → Bool
  | .served other => other = node
  | _ => false

-- The user of each query for a type.
def asked (authType : AuthType) : CacheEvent → Option Int32
  | .queried userId other _ => if other = authType then some userId else none
  | _ => none

def templatesOf (node : PooledExecutor) (infos : List EngCredentialInfo) : List UInt64 :=
  (infos.filter (·.executorIndex = node.executorIndex)).map (·.templateId)

-- What an answer wants a node's driver to have cached. One that has credentials,
-- but none on the node, leaves there what was before.
def wanted (node : PooledExecutor) : CacheEvent → Option (List UInt64)
  | .queried _ authType (.answered infos) =>
    if infos.isEmpty then if node.authType = authType then some [] else none
    else if templatesOf node infos = [] then none else some (templatesOf node infos)
  | _ => none

def sentTo (node : PooledExecutor) : CacheEvent → Option (List UInt64)
  | .sent other templateIds _ _ => if other = node then some templateIds else none
  | _ => none

def calls : CacheEvent → Prop
  | .sent _ templateIds connected call =>
    call = if connected ∧ templateIds.length * 8 ≤ Attributes.MAX_ATTR_LENGTH then some (.setCachedTemplates templateIds)
      else none
  | _ => True

-- What happened since the node was registered.
def since (node : PooledExecutor) (h : List CacheEvent) : List CacheEvent := Since.since (isServed node) h

theorem since_more (node : PooledExecutor) (h : List CacheEvent) (plain : ∀ event ∈ more, isServed node event = false) :
    since node (h ++ more) = since node h ++ more := Since.since_append plain h

variable {h more : List CacheEvent}

theorem served_earlier {node : PooledExecutor} (plain : ∀ event ∈ more, isServed node event = false)
    (member : .served node ∈ h ++ more) : .served node ∈ h := by
  refine (List.mem_append.mp member).resolve_right fun new => ?_
  have marked : isServed node (.served node) = true := decide_eq_true rfl
  exact Bool.noConfusion ((plain _ new).symm.trans marked)

theorem served_of_marked {node : PooledExecutor} (marked : ∃ event ∈ h, isServed node event = true) :
    .served node ∈ h := by
  obtain ⟨event,member,served⟩ := marked
  cases event with
  | served other =>
    have same : other = node := of_decide_eq_true served
    exact same ▸ member
  | queried => cases served
  | sent => cases served

end CacheEvent

namespace TemplateCacheManager
open ResourceNodeUtils CacheEvent
variable {s : TemplateCacheManager} {h : List CacheEvent}

-- What the running update has left for a node.
def owed (s : TemplateCacheManager) (node : PooledExecutor) : List (List UInt64) :=
  (s.id2Cred.filter (·.1 = node.executorIndex)).map fun pair => pair.2.map (·.templateId)

def Pooled (s : TemplateCacheManager) (node : PooledExecutor) : Prop := s.pool.select node.executorIndex = some node

instance (s : TemplateCacheManager) (node : PooledExecutor) : Decidable (s.Pooled node) :=
  inferInstanceAs (Decidable (_ = _))

-- The last query for a type was for a user.
def LastAsked (h : List CacheEvent) (authType : AuthType) (userId : Int32) : Prop :=
  (h.filterMap (asked authType)).getLast? = some userId

structure Sound (s : TemplateCacheManager) (h : List CacheEvent) : Prop where
  keyed : ExecutorPool.Keyed s.pool
  fresh : ∀ node, s.Pooled node → node.ref < s.nextRef
  posted : ∀ node, .registered node ∈ s.tasks → node.ref < s.nextRef
  served : ∀ node, .served node ∈ h → node.ref < s.nextRef
  exact : ∀ node, s.Pooled node → .served node ∈ h →
    (since node h).filterMap (sentTo node) ++ s.owed node = (since node h).filterMap (wanted node)
  current : s.currUserId ≠ INVALID_USER_ID → ∀ authType ∈ [AuthType.FACE,AuthType.FINGERPRINT],
    authType ∈ s.updates ∨ LastAsked h authType s.currUserId
  calls : ∀ event ∈ h, event.calls

theorem sound_initial (callbacks : Callbacks) : Sound {callbacks} [] where
  keyed := nofun
  fresh := nofun
  posted := nofun
  served := nofun
  exact := nofun
  current := fun valid => absurd rfl valid
  calls := nofun

section Pool

-- Whatever else the pool does, who is in it was there before.
theorem Sound.shrink {pool : ExecutorPool} (sound : Sound s h) (keyed : ExecutorPool.Keyed pool)
    (old : ∀ node : PooledExecutor, pool.select node.executorIndex = some node → s.Pooled node) :
      Sound {s with pool} h where
  keyed := keyed
  fresh := fun node pooled => sound.fresh node (old node pooled)
  posted := sound.posted
  served := sound.served
  exact := fun node pooled served => sound.exact node (old node pooled) served
  current := sound.current
  calls := sound.calls

theorem Sound.executorDelete (sound : Sound s h) (executorIndex : UInt64) : Sound (s.executorDelete executorIndex) h := by
  unfold TemplateCacheManager.executorDelete
  split
  · exact sound
  · rename_i deleted
    refine sound.shrink (fun other node held => ?_) fun node pooled => ResourceNodePool.delete_keeps deleted pooled
    exact sound.keyed other node (ResourceNodePool.delete_keeps deleted held)

-- A node is new to its pool, so no task of it can have run.
theorem Sound.executorRegister (sound : Sound s h) (executorIndex : UInt64) (authType : AuthType)
    (executorRole : ExecutorRole) : Sound (s.executorRegister executorIndex authType executorRole) h := by
  have later : ∀ {node : PooledExecutor}, node.ref < s.nextRef → node.ref < s.nextRef + 1 := fun less =>
    Nat.lt_succ_of_lt less
  unfold TemplateCacheManager.executorRegister
  dsimp only
  have registered :=
    @ResourceNodePool.insertNode_cases PooledExecutor s.pool executorIndex ⟨s.nextRef,executorIndex,authType,executorRole⟩
  rcases registered with
    refused | ⟨count,notice,_,inserted⟩
  · rw [refused]
    exact {sound with
      fresh := fun node pooled => later (sound.fresh node pooled)
      posted := fun node member => later (sound.posted node member)
      served := fun node member => later (sound.served node member)}
  · rw [inserted]
    have split : ∀ node : PooledExecutor,
        ResourceNodePool.select (s.pool.insert executorIndex ⟨count,⟨s.nextRef,executorIndex,authType,executorRole⟩⟩) node.executorIndex =
          some node → node.ref = s.nextRef ∨ s.Pooled node := by
      intro node pooled
      rw [ResourceNodePool.select_insert] at pooled
      split at pooled
      · cases pooled
        exact .inl rfl
      · exact .inr pooled
    exact {
      keyed := sound.keyed.insert rfl
      fresh := by
        intro node pooled
        rcases split node pooled with new | old
        · exact new ▸ Nat.lt_succ_self _
        · exact later (sound.fresh node old)
      posted := by
        intro node member
        rcases List.mem_append.mp member with old | new
        · exact later (sound.posted node old)
        · cases List.mem_singleton.mp new
          exact Nat.lt_succ_self _
      served := fun node member => later (sound.served node member)
      exact := by
        intro node pooled served
        rcases split node pooled with new | old
        · exact absurd (sound.served node served) (new ▸ Nat.lt_irrefl _)
        · exact sound.exact node old served
      current := sound.current
      calls := sound.calls}

end Pool

section Tasks

theorem Sound.handleAccountsChanged (sound : Sound s h) (id : Int32) : Sound (s.handleAccountsChanged id) h :=
  {sound with posted := fun node member => sound.posted node ((List.mem_append.mp member).resolve_right (by simp))}

theorem Sound.onOsAccountSaAdd (sound : Sound s h) (subscribed : Bool) (active : Option Int32) :
    Sound (s.onOsAccountSaAdd subscribed active) h := by
  unfold TemplateCacheManager.onOsAccountSaAdd syncOsAccountIdStatus
  split
  · exact sound
  split
  · exact sound
  have subscribed : Sound {s with subscriber:=true} h := {sound with}
  split
  · exact subscribed
  split
  · exact subscribed
  · exact subscribed.handleAccountsChanged _

theorem Sound.onOsAccountSaRemove (sound : Sound s h) (unsubscribed : Bool) :
    Sound (s.onOsAccountSaRemove unsubscribed) h := by
  unfold TemplateCacheManager.onOsAccountSaRemove
  split
  · exact sound
  split
  · exact sound
  · exact {sound with}

-- A new user has both types to be asked for.
theorem Sound.processUserIdChange (sound : Sound s h) (newUserId : Int32) :
    Sound (s.processUserIdChange newUserId) h := by
  unfold TemplateCacheManager.processUserIdChange
  split
  · exact sound
  · exact {sound with current := fun _ authType member => .inl member}

-- With nothing left to do and nothing since, a node has just what it is wanted to have.
theorem Sound.serve (sound : Sound s h) (idle : s.idle = true) (made : node.ref < s.nextRef) :
    Sound {s with updates:=[node.authType]} (h ++ [.served node]) := by
  obtain ⟨noUpdates,noCreds⟩ := Bool.and_eq_true_iff.mp idle
  have noUpdates : s.updates = [] := List.isEmpty_iff.mp noUpdates
  have noCreds : s.id2Cred = [] := List.isEmpty_iff.mp noCreds
  exact {
    keyed := sound.keyed
    fresh := sound.fresh
    posted := sound.posted
    served := by
      intro other member
      rcases List.mem_append.mp member with old | new
      · exact sound.served other old
      · cases List.mem_singleton.mp new
        exact made
    exact := by
      intro other pooled served
      have nothing : TemplateCacheManager.owed {s with updates:=[node.authType]} other = [] := by
        simp [owed,noCreds]
      rw [nothing,List.append_nil]
      by_cases here : node = other
      · have none : since other (h ++ [.served node]) = [] := by
          have marked : isServed other (.served node) = true := decide_eq_true here
          rw [since,Since.since_concat,if_pos marked]
        simp [none]
      · have plain : ∀ event ∈ [CacheEvent.served node], isServed other event = false := by
          intro event member
          cases List.mem_singleton.mp member
          exact decide_eq_false here
        have before := sound.exact other pooled (served_earlier plain served)
        have owes : s.owed other = [] := by simp [owed,noCreds]
        rw [owes,List.append_nil] at before
        rw [since_more other h plain,List.filterMap_append,List.filterMap_append,before]
        rfl
    current := by
      intro valid authType member
      refine .inr ?_
      have asked := (sound.current valid authType member).resolve_left (by simp [noUpdates])
      unfold LastAsked at asked ⊢
      rw [List.filterMap_append]
      simpa [CacheEvent.asked] using asked
    calls := by
      intro event member
      rcases List.mem_append.mp member with old | new
      · exact sound.calls event old
      · cases List.mem_singleton.mp new
        trivial}

theorem Sound.runTask (sound : Sound s h) (index : Nat) (kept : Bool) :
    Sound (s.runTask index kept).1 (h ++ (s.runTask index kept).2) := by
  unfold TemplateCacheManager.runTask
  split
  · simpa using sound
  rename_i busy
  have idle : s.idle = true := by simpa using busy
  split
  · simpa using sound
  rename_i task found
  have taken : Sound {s with tasks:=s.tasks.eraseIdx index} h :=
    {sound with posted := fun node member => sound.posted node (List.mem_of_mem_eraseIdx member)}
  dsimp only
  split
  · rw [List.append_nil]
    exact taken.processUserIdChange _
  rename_i node
  split
  · exact taken.serve idle (sound.posted node (List.mem_of_getElem? found))
  · rw [List.append_nil]
    exact taken

end Tasks

section Updates

theorem setCached_cases (s : TemplateCacheManager) (executorIndex : UInt64) (infos : List EngCredentialInfo) :
    s.pool.select executorIndex = none ∧ setCachedTemplates s.pool s.callbacks executorIndex infos = none ∨
      ∃ node, s.pool.select executorIndex = some node ∧ setCachedTemplates s.pool s.callbacks executorIndex infos =
        some (node,infos.map (·.templateId),node.setProperty s.callbacks (.cachedTemplates (infos.map (·.templateId)))) := by
  unfold setCachedTemplates
  cases s.pool.select executorIndex with
  | none => exact .inl ⟨rfl,rfl⟩
  | some node => exact .inr ⟨node,rfl,rfl⟩

theorem sentEvent_calls (s : TemplateCacheManager) (executorIndex : UInt64) (infos : List EngCredentialInfo)
    (member : event ∈ (setCachedTemplates s.pool s.callbacks executorIndex infos).map s.sentEvent) : event.calls := by
  rcases setCached_cases s executorIndex infos with ⟨_,none⟩ | ⟨node,_,made⟩
  · rw [none] at member
    cases member
  · rw [made] at member
    cases member
    exact PooledExecutor.setProperty_cached node s.callbacks _

-- A node of the pool is sent what is set under its own index, and that alone.
theorem setCached_sentTo (keyed : ExecutorPool.Keyed s.pool) (pooled : s.Pooled node) (executorIndex : UInt64)
    (infos : List EngCredentialInfo) :
    ((setCachedTemplates s.pool s.callbacks executorIndex infos).map s.sentEvent).bind (sentTo node) =
      if executorIndex = node.executorIndex then some (infos.map (·.templateId)) else none := by
  rcases setCached_cases s executorIndex infos with ⟨gone,none⟩ | ⟨other,held,made⟩
  · rw [none]
    by_cases here : executorIndex = node.executorIndex
    · rw [here,pooled] at gone
      cases gone
    · rw [if_neg here]
      rfl
  · rw [made]
    by_cases here : executorIndex = node.executorIndex
    · rw [here,pooled] at held
      cases held
      rw [if_pos here]
      exact if_pos rfl
    · have apart : other ≠ node := by
        rintro rfl
        exact here (keyed executorIndex other held).symm
      rw [if_neg here]
      exact if_neg apart

theorem sentEvent_plain (s : TemplateCacheManager) (node : PooledExecutor) (executorIndex : UInt64)
    (infos : List EngCredentialInfo)
    (member : event ∈ (setCachedTemplates s.pool s.callbacks executorIndex infos).map s.sentEvent) :
    isServed node event = false ∧ wanted node event = none ∧ ∀ authType, asked authType event = none := by
  rcases setCached_cases s executorIndex infos with ⟨_,none⟩ | ⟨other,_,made⟩
  · rw [none] at member
    cases member
  · rw [made] at member
    cases member
    exact ⟨rfl,rfl,fun _ => rfl⟩

-- Of the pool's nodes one is a node that is in it.
theorem enumerated (keyed : ExecutorPool.Keyed s.pool) (pooled : s.Pooled node) :
    (s.pool.toList.map (·.2.node)).filter (· = node) = [node] := by
  obtain ⟨param,found,same⟩ := ResourceNodePool.select_some.mp pooled
  have entries : ∀ entry ∈ s.pool.toList, (entry.2.node = node ↔ entry.1 = node.executorIndex) := by
    intro entry member
    have held := ExtTreeMap.mem_toList_iff_getElem?_eq_some.mp member
    constructor
    · rintro rfl
      exact (keyed entry.1 entry.2.node (ResourceNodePool.select_some.mpr ⟨entry.2,held,rfl⟩)).symm
    · intro key
      rw [key,found] at held
      cases held
      exact same
  have alone := RecordMap.toList_filter_key s.pool node.executorIndex
  rw [found] at alone
  rw [List.filter_map]
  have same_filter : s.pool.toList.filter ((· = node) ∘ (·.2.node)) = s.pool.toList.filter (·.1 = node.executorIndex) :=
    List.filter_congr fun entry member => by simpa using entries entry member
  rw [same_filter,alone]
  simp [same]

theorem clearCached_sentTo (keyed : ExecutorPool.Keyed s.pool) (pooled : s.Pooled node) (authType : AuthType) :
    (s.clearCached authType).filterMap (sentTo node) = (if node.authType = authType then some [] else none).toList := by
  unfold clearCached
  rw [List.filterMap_filterMap]
  have each : ∀ other ∈ (s.pool.toList.map (·.2.node)).filter (·.authType = authType),
      ((setCachedTemplates s.pool s.callbacks other.executorIndex []).map s.sentEvent).bind (sentTo node) =
        if other = node then some [] else none := by
    intro other member
    rw [setCached_sentTo keyed pooled]
    obtain ⟨entry,listed,rfl⟩ := List.mem_map.mp (List.mem_filter.mp member).1
    have held := ExtTreeMap.mem_toList_iff_getElem?_eq_some.mp listed
    have other : s.pool.select entry.1 = some entry.2.node := ResourceNodePool.select_some.mpr ⟨entry.2,held,rfl⟩
    have key := keyed entry.1 entry.2.node other
    by_cases here : entry.2.node.executorIndex = node.executorIndex
    · rw [← key,here,pooled] at other
      cases other
      simp
    · have apart : entry.2.node ≠ node := fun same => here (congrArg PooledExecutor.executorIndex same)
      simp [here,apart]
  rw [List.filterMap_congr each]
  have singled : ∀ nodes : List PooledExecutor,
    nodes.filterMap (fun other => if other = node then some ([] : List UInt64) else none) =
      (nodes.filter (· = node)).map fun _ => [] := by
    intro nodes
    rw [← List.filterMap_eq_map,List.filterMap_filter]
    refine List.filterMap_congr fun other _ => ?_
    by_cases same : other = node <;> simp [same]
  rw [singled,List.filter_filter,List.filter_congr fun other _ =>
    Bool.and_comm _ _,← List.filter_filter,enumerated keyed pooled]
  by_cases same : node.authType = authType <;> simp [same]

-- Events that tell of no query and no registration, with what they leave to do.
theorem Sound.send {id2Cred : List (UInt64 × List EngCredentialInfo)} {events : List CacheEvent} (sound : Sound s h)
    (plain : ∀ event ∈ events, event.calls ∧ ∀ node, isServed node event = false ∧ wanted node event = none ∧
      ∀ authType, asked authType event = none)
    (exact : ∀ node, s.Pooled node →
      events.filterMap (sentTo node) ++ TemplateCacheManager.owed {s with id2Cred} node = s.owed node) :
    Sound {s with id2Cred} (h ++ events) where
  keyed := sound.keyed
  fresh := sound.fresh
  posted := sound.posted
  served := fun node member => sound.served node (served_earlier (fun event new => ((plain event new).2 node).1) member)
  exact := by
    intro node pooled served
    have unserved : ∀ event ∈ events, isServed node event = false := fun event new => ((plain event new).2 node).1
    have old := served_earlier unserved served
    have silent : events.filterMap (wanted node) = [] :=
      List.filterMap_eq_nil_iff.mpr fun event member => ((plain event member).2 node).2.1
    rw [since_more node h unserved,List.filterMap_append,List.filterMap_append,
      silent,List.append_nil,List.append_assoc]
    exact (congrArg _ (exact node pooled)).trans (sound.exact node pooled old)
  current := by
    intro valid authType member
    have silent : events.filterMap (asked authType) = [] :=
      List.filterMap_eq_nil_iff.mpr fun event member => ((plain event member).2 ⟨0,0,0,0⟩).2.2 authType
    unfold LastAsked
    rw [List.filterMap_append,silent,List.append_nil]
    exact sound.current valid authType member
  calls := by
    intro event member
    rcases List.mem_append.mp member with old | new
    · exact sound.calls event old
    · exact (plain event new).1

-- A query of a user's credentials, with what the running update then has to do.
theorem Sound.query {updates : List AuthType} {id2Cred : List (UInt64 × List EngCredentialInfo)} (sound : Sound s h)
    (looped : s.id2Cred = [])
    (only : s.updates = authType :: updates) (answer : EngineReply (List EngCredentialInfo)) {events : List CacheEvent}
    (plain : ∀ event ∈ events, event.calls ∧ ∀ node, isServed node event = false ∧ wanted node event = none ∧
      ∀ authType, asked authType event = none)
    (exact : ∀ node, s.Pooled node → events.filterMap (sentTo node) ++ TemplateCacheManager.owed {s with id2Cred} node =
      (wanted node (.queried s.currUserId authType answer)).toList) :
    Sound {s with updates,id2Cred} (h ++ .queried s.currUserId authType answer :: events) := by
  have unserved : ∀ node, ∀ event ∈ CacheEvent.queried s.currUserId authType answer :: events, isServed node event =
    false := by
    intro node event member
    rcases List.mem_cons.mp member with rfl | member
    · rfl
    · exact ((plain event member).2 node).1
  exact {
    keyed := sound.keyed
    fresh := sound.fresh
    posted := sound.posted
    served := fun node member => sound.served node (served_earlier (unserved node) member)
    exact := by
      intro node pooled served
      have before := sound.exact node pooled (served_earlier (unserved node) served)
      have owes : s.owed node = [] := by simp [owed,looped]
      rw [owes,List.append_nil] at before
      have silent : events.filterMap (wanted node) = [] :=
        List.filterMap_eq_nil_iff.mpr fun event member => ((plain event member).2 node).2.1
      have unsent : sentTo node (.queried s.currUserId authType answer) = none := rfl
      have now := exact node pooled
      rw [since_more node h (unserved node),List.filterMap_append,List.filterMap_append,List.filterMap_cons_none unsent,
        List.append_assoc]
      change _ ++ (_ ++ TemplateCacheManager.owed {s with id2Cred} node) = _
      rw [now,before]
      congr 1
      cases wants : wanted node (.queried s.currUserId authType answer) with
      | none => rw [List.filterMap_cons_none wants,silent]; rfl
      | some templateIds => rw [List.filterMap_cons_some wants,silent]; rfl
    current := by
      intro valid other member
      have silent : events.filterMap (asked other) = [] :=
        List.filterMap_eq_nil_iff.mpr fun event member => ((plain event member).2 ⟨0,0,0,0⟩).2.2 other
      unfold LastAsked
      by_cases here : authType = other
      · have now : asked other (.queried s.currUserId authType answer) = some s.currUserId := if_pos here
        refine .inr ?_
        rw [List.filterMap_append,List.filterMap_cons_some now,silent]
        exact List.getLast?_concat
      · have apart : asked other (.queried s.currUserId authType answer) = none := if_neg here
        rw [List.filterMap_append,List.filterMap_cons_none apart,silent,List.append_nil]
        refine (sound.current valid other member).imp_left fun waits => ?_
        rw [only] at waits
        exact (List.mem_cons.mp waits).resolve_left fun same => here same.symm
    calls := by
      intro event member
      rcases List.mem_append.mp member with old | new
      · exact sound.calls event old
      rcases List.mem_cons.mp new with rfl | new
      · trivial
      · exact (plain event new).1}

theorem Sound.updateTemplateCache {updates : List AuthType} (sound : Sound s h) (looped : s.id2Cred = [])
    (only : s.updates = authType :: updates)
    (answer : EngineReply (List EngCredentialInfo)) :
    Sound (TemplateCacheManager.updateTemplateCache {s with updates} authType answer).1
      (h ++ (TemplateCacheManager.updateTemplateCache {s with updates} authType answer).2) := by
  have owes : ∀ node, TemplateCacheManager.owed {s with id2Cred:=[]} node = [] := fun _ => rfl
  have same : ({s with updates} : TemplateCacheManager) = {s with updates,id2Cred:=[]} := by rw [← looped]
  unfold TemplateCacheManager.updateTemplateCache
  split
  · rename_i invalid
    rw [List.append_nil]
    exact {sound with current := fun valid => absurd invalid valid}
  rename_i valid
  split
  · rename_i uncached
    rw [List.append_nil]
    refine {sound with current := fun valid other member => (sound.current valid other member).imp_left fun waits => ?_}
    rw [only] at waits
    refine (List.mem_cons.mp waits).resolve_left fun here => ?_
    rw [here] at member
    simp only [List.mem_cons,List.not_mem_nil,or_false] at member
    exact member.elim uncached.1 uncached.2
  dsimp only
  split
  · rename_i code failed
    rw [same]
    refine sound.query looped only (.refused code failed) nofun fun node _ => ?_
    rw [owes]
    rfl
  · rename_i credentialInfos
    split
    · rename_i empty
      rw [same]
      refine sound.query looped only (.answered credentialInfos) ?_ fun node pooled => ?_
      · intro event member
        obtain ⟨other,_,sent⟩ := List.mem_filterMap.mp member
        exact ⟨sentEvent_calls s _ _ sent,fun node => sentEvent_plain s node _ _ sent⟩
      · rw [owes,List.append_nil]
        refine (clearCached_sentTo sound.keyed pooled authType).trans ?_
        simp only [wanted,empty,if_true]
    · rename_i found
      refine sound.query looped only (.answered credentialInfos) nofun fun node _ => ?_
      simp only [owed,List.filterMap_nil,List.nil_append,classifyCredInfoByExecutor,RecordMap.toList_filter_key,
        Grouping.getElem?_group,wanted,templatesOf,List.map_eq_nil_iff]
      rw [if_neg found]
      split <;> rfl

theorem Sound.proceed (sound : Sound s h) (answer : EngineReply (List EngCredentialInfo)) :
    Sound (s.proceed answer).1 (h ++ (s.proceed answer).2) := by
  unfold TemplateCacheManager.proceed
  split
  · rename_i pair id2Cred left
    refine sound.send ?_ fun node pooled => ?_
    · intro event member
      have sent := Option.mem_toList.mp member
      exact ⟨sentEvent_calls s _ _ sent,fun node => sentEvent_plain s node _ _ sent⟩
    · have now := setCached_sentTo sound.keyed pooled pair.1 pair.2
      have taken : ((setCachedTemplates s.pool s.callbacks pair.1 pair.2).map s.sentEvent).toList.filterMap (sentTo node) =
          (if pair.1 = node.executorIndex then some (pair.2.map (·.templateId)) else none).toList := by
        rw [← now]
        cases (setCachedTemplates s.pool s.callbacks pair.1 pair.2).map s.sentEvent with
        | none => rfl
        | some event => cases made : sentTo node event <;> simp [made]
      rw [taken]
      simp only [owed,left]
      by_cases here : pair.1 = node.executorIndex <;> simp [here]
  · rename_i looped
    split
    · simpa using sound
    · rename_i authType updates only
      exact sound.updateTemplateCache looped only answer

end Updates

theorem step_sound (s : TemplateCacheManager) (h : List CacheEvent) (input : CacheInput) (sound : Sound s h) :
    Sound (s.step input).1 (h ++ (s.step input).2) := by
  cases input with
  | executorRegister executorIndex authType executorRole =>
    simpa [step] using sound.executorRegister executorIndex authType executorRole
  | executorDelete executorIndex => simpa [step] using sound.executorDelete executorIndex
  | deleteAll =>
    simp only [step,List.append_nil]
    exact sound.shrink nofun nofun
  | callback ref callback =>
    simp only [step,List.append_nil]
    exact {sound with}
  | onAccountsChanged id => simpa [step] using sound.handleAccountsChanged id
  | onOsAccountSaAdd subscribed active => simpa [step] using sound.onOsAccountSaAdd subscribed active
  | onOsAccountSaRemove unsubscribed => simpa [step] using sound.onOsAccountSaRemove unsubscribed
  | runTask index kept => exact sound.runTask index kept
  | proceed answer => exact sound.proceed answer

theorem run_sound (callbacks : Callbacks) (inputs : List CacheInput) :
    Sound (machine.after {callbacks} inputs) (machine.trace {callbacks} inputs) :=
  Mealy.history (P:=Sound) step_sound (sound_initial callbacks) inputs

-- Whenever no update runs: the driver of a pooled node has been sent, since the
-- node was registered, just what each answer of the engine had for it, in order;
-- and both cached types were last asked of the current user.
theorem caches_follow_engine (callbacks : Callbacks) (inputs : List CacheInput) :
    let s := machine.after {callbacks} inputs
    let h := machine.trace {callbacks} inputs
    s.idle = true →
      (∀ node, s.Pooled node → .served node ∈ h →
        (since node h).filterMap (sentTo node) = (since node h).filterMap (wanted node)) ∧
      (s.currUserId ≠ INVALID_USER_ID →
        LastAsked h AuthType.FACE s.currUserId ∧ LastAsked h AuthType.FINGERPRINT s.currUserId) ∧
      ∀ event ∈ h, event.calls := by
  intro s h idle
  have sound : Sound s h := run_sound callbacks inputs
  obtain ⟨noUpdates,noCreds⟩ := Bool.and_eq_true_iff.mp idle
  have noUpdates : s.updates = [] := List.isEmpty_iff.mp noUpdates
  have noCreds : s.id2Cred = [] := List.isEmpty_iff.mp noCreds
  refine ⟨fun node pooled served => ?_,fun valid => ?_,sound.calls⟩
  · have exact := sound.exact node pooled served
    have owes : s.owed node = [] := by simp [owed,noCreds]
    rwa [owes,List.append_nil] at exact
  · have asked : ∀ authType ∈ [AuthType.FACE,AuthType.FINGERPRINT],LastAsked h authType s.currUserId :=
      fun authType member =>
      (sound.current valid authType member).resolve_left (by simp [noUpdates])
    exact ⟨asked AuthType.FACE (by simp),asked AuthType.FINGERPRINT (by simp)⟩

-- A driver registers before there is a user. Of the user's two faces one is its own.
def userRun : List CacheInput :=
  [.executorRegister 5 AuthType.FACE ExecutorRole.ALL_IN_ONE,.callback 0 ⟨some ⟨ExecutorRole.ALL_IN_ONE,true⟩,true⟩,.onAccountsChanged 100,
    .runTask 0 false,.proceed (.answered []),.runTask 0 false,
    .proceed (.answered [⟨1,5,11,AuthType.FACE⟩,⟨2,6,12,AuthType.FACE⟩]),.proceed (.answered []),.proceed (.answered []),
    .proceed (.answered [])]

theorem caches_follow_engine_user :
    let node : PooledExecutor := ⟨0,5,AuthType.FACE,ExecutorRole.ALL_IN_ONE⟩
    let h := machine.trace {callbacks:=fun _ => ⟨none,false⟩} userRun
    (since node h).filterMap (wanted node) = [[11]] ∧
      (since node h).filterMap (sentTo node) = (since node h).filterMap (wanted node) ∧
      LastAsked h AuthType.FACE 100 := by
  have follows := caches_follow_engine (fun _ => ⟨none,false⟩) userRun (by decide +kernel)
  have exact := follows.1 ⟨0,5,AuthType.FACE,ExecutorRole.ALL_IN_ONE⟩ (by decide +kernel) (served_of_marked (by decide +kernel))
  exact ⟨by decide +kernel,exact,(follows.2.1 (by decide +kernel)).1⟩

end TemplateCacheManager
end UserAuth
