import UserAuth.Remote.RemoteService

namespace UserAuth
open Attributes ContextPoolImpl FirstMatch RemoteConnectListenerManager Std

-- What one set-up leaves of the context pool: it as it was, or the new stub's
-- holder in it besides.
inductive Hosted (before after : PoolState) : Option UInt64 → Prop where
  | nowhere (same : after.pool = before.pool) : Hosted before after none
  | holder (preempt : PreemptAnswers) (context : Context)
      (joined : after = (before.step (.schedule preempt context)).1)
      (scheduled : (before.step (.schedule preempt context)).2 ≠ []) : Hosted before after (some context.contextId)

section Pool
variable {before after : PoolState}

theorem schedule_fails {preempt : PreemptAnswers} {context : Context}
    (failed : (before.step (.schedule preempt context)).2 = []) :
    (before.step (.schedule preempt context)).1.pool = before.pool := by
  rcases PoolState.schedule_cases preempt before.pool {context with ref:=before.nextRef} with refused | ⟨_,accepted⟩
  · simp only [PoolState.step,refused,PoolState.settle]
  · simp only [PoolState.step,accepted,PoolState.settle] at failed
    cases failed

theorem schedule_new {preempt : PreemptAnswers} {context : Context}
    (scheduled : (before.step (.schedule preempt context)).2 ≠ []) :
    ∀ a ∈ before.pool.contexts, a.contextId ≠ context.contextId := by
  rcases PoolState.schedule_cases preempt before.pool {context with ref:=before.nextRef} with refused | ⟨absent,_⟩
  · simp only [PoolState.step,refused] at scheduled
    exact absurd rfl scheduled
  · exact absent

def PoolState.release (s : PoolState) (removing : PreemptAnswers) : Option UInt64 → PoolState
  | none => s
  | some contextId => (s.step (.delete removing contextId)).1

structure Retains (before after : PoolState) : Prop where
  running : ∀ a ∈ before.pool.runningContexts, a ∈ after.pool.runningContexts
  contexts : ∀ a ∈ before.pool.contexts, a ∈ after.pool.contexts

theorem Hosted.distinct (hosted : Hosted before after contextId) (distinct : DistinctIds before.pool.contexts) :
    DistinctIds after.pool.contexts := by
  cases hosted with
  | nowhere same =>
    rw [same]
    exact distinct
  | holder preempt context joined =>
    rw [joined]
    exact step_distinct distinct

theorem Hosted.retains (hosted : Hosted before after contextId) (distinct : DistinctIds before.pool.contexts) :
    Retains before after := by
  cases hosted with
  | nowhere same => exact ⟨fun a member => by rwa [same],fun a member => by rwa [same]⟩
  | holder preempt context joined =>
    have spared : ∀ id, ¬(PoolOp.schedule preempt context).Deletes id := fun _ ⟨_,same⟩ => by cases same
    rw [joined]
    exact ⟨fun a member => running_stays distinct member (spared _),
      fun a member => (member_stays_iff distinct member).mpr (spared _)⟩

-- Taking the new holder back leaves everybody else where they were.
theorem Hosted.undone (hosted : Hosted before after contextId) (distinct : DistinctIds before.pool.contexts)
    (removing : PreemptAnswers) : Retains before (after.release removing contextId) := by
  have kept := hosted.retains distinct
  have still := hosted.distinct distinct
  cases hosted with
  | nowhere => exact kept
  | holder preempt context joined scheduled =>
    have spared : ∀ a ∈ before.pool.contexts, ¬(PoolOp.delete removing context.contextId).Deletes a.contextId := by
      rintro a member ⟨_,same⟩
      exact schedule_new scheduled a member (PoolOp.delete.inj same).2.symm
    refine ⟨fun a member => ?_,fun a member => ?_⟩
    · exact running_stays still (kept.running a member) (spared a (List.mem_append_left _ member))
    · exact (member_stays_iff still (kept.contexts a member)).mpr (spared a member)

theorem release_distinct (removing : PreemptAnswers) (contextId : Option UInt64) (distinct : DistinctIds after.pool.contexts) :
    DistinctIds (after.release removing contextId).pool.contexts := by
  cases contextId with
  | none => exact distinct
  | some contextId => exact step_distinct distinct

end Pool

namespace RemoteExecutorStub

def entry (stub : RemoteExecutorStub) : ListenerInfo Listener :=
  ⟨⟨stub.connectionName,EXECUTOR_STUB_ENDPOINT_NAME⟩,.executorStub stub.ref⟩

-- How far a set-up can come. Only the last case has a listener of its own.
inductive Outcome (s : Beginning) (attr : Attributes) : Beginning × ResultCode → Prop where
  | unnamed (missing : attr.getUint64Value ATTR_SCHEDULE_ID = none) : Outcome s attr (s,ResultCode.GENERAL_ERROR)
  | unregistered (scheduleId : UInt64) (named : attr.getUint64Value ATTR_SCHEDULE_ID = some scheduleId)
      (free : ∀ connectionName, attr.getStringValue ATTR_CONNECTION_NAME = some connectionName →
        lookup ListenerInfo.covers s.listeners ⟨connectionName,EXECUTOR_STUB_ENDPOINT_NAME⟩ ≠ none) :
      Outcome s attr
        ({s with
          stub:={s.stub with
            connectionCallback:=some scheduleId,
            connectionName:=(attr.getStringValue ATTR_CONNECTION_NAME).getD s.stub.connectionName},
          scheduleId},
          ResultCode.GENERAL_ERROR)
  | listening (scheduleId : UInt64) (named : attr.getUint64Value ATTR_SCHEDULE_ID = some scheduleId)
      (connectionName : Bytes) (connected : attr.getStringValue ATTR_CONNECTION_NAME = some connectionName)
      (free : lookup ListenerInfo.covers s.listeners ⟨connectionName,EXECUTOR_STUB_ENDPOINT_NAME⟩ = none)
      (reached : Beginning × ResultCode) (traced : reached.1.scheduleId = scheduleId)
      (listens : reached.1.listeners = s.listeners ++ [reached.1.stub.entry])
      (stub : reached.1.stub.ref = s.stub.ref ∧ reached.1.stub.connectionCallback = some scheduleId ∧
        reached.1.stub.connectionName = connectionName)
      (hosted : Hosted s.contextPool reached.1.contextPool reached.1.stub.contextId) : Outcome s attr reached

-- The second half touches neither the listeners nor what names the stub.
structure Listening (s reached : Beginning) : Prop where
  traced : reached.scheduleId = s.scheduleId
  listeners : reached.listeners = s.listeners
  ref : reached.stub.ref = s.stub.ref
  callback : reached.stub.connectionCallback = s.stub.connectionCallback
  connectionName : reached.stub.connectionName = s.stub.connectionName
  hosted : Hosted s.contextPool reached.contextPool reached.stub.contextId

theorem beginListening_keeps (s : Beginning) (attr : Attributes) (answers : BeginAnswers)
    (fresh : s.stub.contextId = none) : Listening s (beginListening s attr answers).1 := by
  have unhosted : Hosted s.contextPool s.contextPool s.stub.contextId := by
    rw [fresh]
    exact .nowhere rfl
  unfold beginListening
  cases localSchedule attr answers with
  | none => exact ⟨rfl,rfl,rfl,rfl,rfl,unhosted⟩
  | some schedule =>
    obtain ⟨scheduleId,executorIndex,message⟩ := schedule
    dsimp only
    by_cases selected : answers.select executorIndex = true
    · by_cases registered : answers.registerResourceNodePoolListener = true
      · simp only [selected,registered,Bool.not_true,Bool.false_eq_true,if_false]
        generalize ContextFactory.createScheduleHolderContext answers.newContextId answers.createTime = context
        cases scheduled : (s.contextPool.step (.schedule answers.admitting context)).2 with
        | nil =>
          simp only [List.isEmpty_nil,if_true]
          refine ⟨rfl,rfl,rfl,rfl,rfl,?_⟩
          simp only [fresh]
          exact .nowhere (schedule_fails scheduled)
        | cons plan plans =>
          have hosted : Hosted s.contextPool (s.contextPool.step (.schedule answers.admitting context)).1
              (some context.contextId) := .holder _ context rfl (by simp [scheduled])
          simp only [List.isEmpty_cons,Bool.false_eq_true,if_false]
          cases attr.set (setUint8ArrayValue ATTR_EXTRA_INFO message) with
          | none => exact ⟨rfl,rfl,rfl,rfl,rfl,hosted⟩
          | some attr => exact ⟨rfl,rfl,rfl,rfl,rfl,hosted⟩
      · simp only [selected,registered,Bool.not_true,Bool.not_false,Bool.false_eq_true,if_false,if_true]
        exact ⟨rfl,rfl,rfl,rfl,rfl,unhosted⟩
    · simp only [selected,Bool.not_false,if_true]
      exact ⟨rfl,rfl,rfl,rfl,rfl,unhosted⟩

theorem begin_outcome (s : Beginning) (attr : Attributes) (answers : BeginAnswers) (fresh : s.stub.contextId = none) :
    Outcome s attr (procBeginExecuteRequest s attr answers) := by
  unfold procBeginExecuteRequest
  cases named : attr.getUint64Value ATTR_SCHEDULE_ID with
  | none => exact .unnamed named
  | some scheduleId =>
    dsimp only
    cases connected : attr.getStringValue ATTR_CONNECTION_NAME with
    | none =>
      have stopped := @Outcome.unregistered s attr scheduleId named (by simp [connected])
      simpa only [connected,Option.getD_none] using stopped
    | some connectionName =>
      dsimp only
      cases registered : registerListener s.listeners connectionName EXECUTOR_STUB_ENDPOINT_NAME
          (.executorStub s.stub.ref) with
      | none =>
        obtain ⟨other,found⟩ := register_refused registered
        have stopped := @Outcome.unregistered s attr scheduleId named (by
          intro name same
          rw [connected] at same
          cases same
          simp [found])
        simpa only [connected,Option.getD_some] using stopped
      | some listeners =>
        obtain ⟨free,grown⟩ := register_eq registered
        dsimp only
        have kept := beginListening_keeps
          {s with stub:={s.stub with connectionCallback:=some scheduleId,connectionName},scheduleId,listeners} attr answers fresh
        refine .listening scheduleId named connectionName connected free _ kept.traced ?_
          ⟨kept.ref,kept.callback,kept.connectionName⟩ kept.hosted
        rw [kept.listeners,entry,kept.ref,kept.connectionName]
        exact grown

end RemoteExecutorStub

namespace RemoteAuthService
open RemoteExecutorStub

-- Every listener of the stubs' endpoint is that of a live stub, and the one a
-- search under its stub's name finds.
structure Valid (s : RemoteAuthService) : Prop where
  pool : DistinctIds s.contextPool.pool.contexts
  unshadowed : Unshadowed ListenerInfo.covers ListenerInfo.toListenerKey s.listeners
  owned : ∀ info ∈ s.listeners, info.endPointName = EXECUTOR_STUB_ENDPOINT_NAME →
    ∃ (scheduleId : UInt64) (stub : RemoteExecutorStub),
      s.scheduleId2executorStub[scheduleId]? = some stub ∧ info = stub.entry
  listening : ∀ (scheduleId : UInt64) stub, s.scheduleId2executorStub[scheduleId]? = some stub → stub.connectionCallback.isSome
  known : ∀ (scheduleId : UInt64) stub, s.scheduleId2executorStub[scheduleId]? = some stub → stub.ref < s.nextRef
  apart : ∀ (one other : UInt64) stub twin, s.scheduleId2executorStub[one]? = some stub →
    s.scheduleId2executorStub[other]? = some twin → stub.ref = twin.ref → one = other

def registrations (listeners : List (ListenerInfo Listener)) (stub : RemoteExecutorStub) : List (ListenerInfo Listener) :=
  listeners.filter (·.listener = .executorStub stub.ref)

-- One live stub's registration, map entry and holder context.
structure KeepsStub (s next : RemoteAuthService) (scheduleId : UInt64) (stub : RemoteExecutorStub) : Prop where
  registration : registrations next.listeners stub = registrations s.listeners stub
  entry : next.scheduleId2executorStub[scheduleId]? = some stub
  holder : ∀ holder, stub.contextId = some (Context.contextId holder) →
    (holder ∈ s.contextPool.pool.runningContexts → holder ∈ next.contextPool.pool.runningContexts) ∧
      (holder ∈ s.contextPool.pool.contexts → holder ∈ next.contextPool.pool.contexts)

def KeepsLive (s next : RemoteAuthService) : Prop :=
  ∀ (scheduleId : UInt64) stub, s.scheduleId2executorStub[scheduleId]? = some stub → KeepsStub s next scheduleId stub

def connectionOf (request : Attributes) : Bytes := (request.getStringValue ATTR_CONNECTION_NAME).getD []

-- The message names no schedule, or a connection on which no stub listens.
def Harmless (s : RemoteAuthService) (request : Attributes) : Prop :=
  request.getUint64Value ATTR_SCHEDULE_ID = none ∨
    ∀ info ∈ s.listeners, info.endPointName = EXECUTOR_STUB_ENDPOINT_NAME →
      info.connectionName ≠ connectionOf request ∧ info.connectionName ≠ GLOBAL_CONNECTION_NAME

theorem harmless_iff {s : RemoteAuthService} : s.Harmless request ↔ request.getUint64Value ATTR_SCHEDULE_ID = none ∨
    lookup ListenerInfo.covers s.listeners ⟨connectionOf request,EXECUTOR_STUB_ENDPOINT_NAME⟩ = none := by
  apply or_congr_right
  rw [lookup_none]
  refine forall_congr' fun info => forall_congr' fun _ => ?_
  rw [←Bool.not_eq_true,covers_iff,not_and,not_or]

theorem initial_valid : Valid RemoteSystem.initial.toRemoteAuthService := by
  refine ⟨.nil,List.pairwise_singleton _ _,?_,?_,?_,?_⟩
  · intro info member endPoint
    cases List.mem_singleton.mp member
    exact absurd endPoint (by decide)
  · intro scheduleId stub found
    simp [RemoteSystem.initial] at found
  · intro scheduleId stub found
    simp [RemoteSystem.initial] at found
  · intro one other stub twin found
    simp [RemoteSystem.initial] at found

section Begin
variable {s : RemoteAuthService} {request : Attributes}

-- The new stub, before it is in the map, and what it has changed by then.
def attempt (s : RemoteAuthService) (request : Attributes) (answers : BeginAnswers) : Beginning × ResultCode :=
  RemoteExecutorStub.procBeginExecuteRequest ⟨{ref:=s.nextRef},0,s.listeners,s.contextPool,s.scheduleNodes⟩ request answers

def tried (s : RemoteAuthService) (begun : Beginning) : RemoteAuthService :=
  {s with
    listeners:=begun.listeners,
    contextPool:=begun.contextPool,
    scheduleNodes:=begun.scheduleNodes,
    nextRef:=s.nextRef + 1}

theorem destroy_pool (s : RemoteAuthService) (removing : PreemptAnswers) (stub : RemoteExecutorStub) :
    (s.destroy removing stub).contextPool = s.contextPool.release removing stub.contextId := by
  unfold destroy
  cases stub.contextId <;> rfl

-- A begin ends with the new stub in the map, or gone again.
theorem begin_cases (s : RemoteAuthService) (request : Attributes) (answers : BeginAnswers) :
    let begun := s.attempt request answers
    let next := (s.procBeginExecuteRequest request answers).1
    next = (s.tried begun.1).destroy answers.removing begun.1.stub ∨
      (begun.2 = ResultCode.SUCCESS ∧ s.scheduleId2executorStub[begun.1.scheduleId]? = none ∧
        next = {s.tried begun.1 with
          scheduleId2executorStub:=s.scheduleId2executorStub.insert begun.1.scheduleId begun.1.stub}) := by
  intro begun next
  have shape : s.procBeginExecuteRequest request answers =
      if begun.2 != ResultCode.SUCCESS then
        ((s.tried begun.1).destroy answers.removing begun.1.stub,ResultCode.GENERAL_ERROR)
      else if s.scheduleId2executorStub.contains begun.1.scheduleId then
        ((s.tried begun.1).destroy answers.removing begun.1.stub,ResultCode.SUCCESS)
      else
        ({s.tried begun.1 with
          scheduleId2executorStub:=s.scheduleId2executorStub.insert begun.1.scheduleId begun.1.stub},ResultCode.SUCCESS) := rfl
  unfold next
  rw [shape]
  by_cases succeeded : begun.2 = ResultCode.SUCCESS
  · rw [if_neg (by simpa using succeeded)]
    by_cases held : s.scheduleId2executorStub.contains begun.1.scheduleId = true
    · rw [if_pos held]
      exact .inl rfl
    · rw [if_neg held]
      exact .inr ⟨succeeded,by simpa using held,rfl⟩
  · rw [if_pos (by simpa using succeeded)]
    exact .inl rfl

theorem keeps_live {next : RemoteAuthService}
    (registration : ∀ (scheduleId : UInt64) stub, s.scheduleId2executorStub[scheduleId]? = some stub →
      registrations next.listeners stub = registrations s.listeners stub)
    (entry : ∀ (scheduleId : UInt64) stub, s.scheduleId2executorStub[scheduleId]? = some stub →
      next.scheduleId2executorStub[scheduleId]? = some stub)
    (retains : Retains s.contextPool next.contextPool) : KeepsLive s next :=
  fun scheduleId stub found => ⟨registration scheduleId stub found,entry scheduleId stub found,
    fun holder _ => ⟨retains.running holder,retains.contexts holder⟩⟩

-- Removing the first match takes a live stub's listener away.
theorem unregister_harms (valid : Valid s) {next : RemoteAuthService} {connectionName : Bytes} (keeps : KeepsLive s next)
    (removed : next.listeners = unregisterListener s.listeners connectionName EXECUTOR_STUB_ENDPOINT_NAME) :
    lookup ListenerInfo.covers s.listeners ⟨connectionName,EXECUTOR_STUB_ENDPOINT_NAME⟩ = none := by
  by_contra present
  obtain ⟨info,found⟩ := Option.ne_none_iff_exists'.mp present
  obtain ⟨member,covered⟩ := lookup_mem found
  obtain ⟨scheduleId,stub,live,rfl⟩ := valid.owned info member (covers_iff.mp covered).1
  obtain ⟨front,back,whole,rest⟩ := unregister_first found
  have same := (keeps scheduleId stub live).registration
  rw [removed,unregisterListener,rest,whole] at same
  have shorter := congrArg List.length same
  simp only [registrations,List.filter_append,List.filter_cons,RemoteExecutorStub.entry,decide_true,if_true,
    List.length_append,List.length_cons] at shorter
  omega

theorem other_registrations (valid : Valid s) {scheduleId : UInt64} {stub new : RemoteExecutorStub}
    (live : s.scheduleId2executorStub[scheduleId]? = some stub) (fresh : new.ref = s.nextRef) :
    registrations (s.listeners ++ [new.entry]) stub = registrations s.listeners stub := by
  have apart : new.ref ≠ stub.ref := by
    have known := valid.known scheduleId stub live
    omega
  simp [registrations,RemoteExecutorStub.entry,apart]

-- A stub that goes again at once takes back the listener it registered.
theorem destroy_undoes (begun : Beginning) (removing : PreemptAnswers) {connectionName : Bytes} {scheduleId : UInt64}
    (free : lookup ListenerInfo.covers s.listeners ⟨connectionName,EXECUTOR_STUB_ENDPOINT_NAME⟩ = none)
    (callback : begun.stub.connectionCallback = some scheduleId) (named : begun.stub.connectionName = connectionName)
    (listens : begun.listeners = s.listeners ++ [begun.stub.entry]) :
    ((s.tried begun).destroy removing begun.stub).listeners = s.listeners := by
  have own : begun.stub.entry.covers ⟨connectionName,EXECUTOR_STUB_ENDPOINT_NAME⟩ = true := by
    rw [←named]
    exact covers_own begun.stub.entry
  simp only [destroy,tried,callback,Option.isSome_some,if_true,unregisterListener,listens,named]
  exact unregister_undoes free own

-- On a state with that invariant, whatever becomes of the begin.
theorem begin_keeps_iff (valid : Valid s) (request : Attributes) (answers : BeginAnswers) :
    KeepsLive s (s.procBeginExecuteRequest request answers).1 ↔ s.Harmless request := by
  have outcome := begin_outcome ⟨{ref:=s.nextRef},0,s.listeners,s.contextPool,s.scheduleNodes⟩ request answers rfl
  have ends := s.begin_cases request answers
  rw [harmless_iff]
  unfold attempt at ends
  generalize RemoteExecutorStub.procBeginExecuteRequest
    ⟨{ref:=s.nextRef},0,s.listeners,s.contextPool,s.scheduleNodes⟩ request answers = begun at outcome ends
  generalize (s.procBeginExecuteRequest request answers).1 = next at ends ⊢
  have unchanged : Retains s.contextPool s.contextPool := ⟨fun _ member => member,fun _ member => member⟩
  cases outcome with
  | unnamed missing =>
    rcases ends with rfl | ⟨succeeded,_⟩
    · exact iff_of_true (keeps_live (fun _ _ _ => rfl) (fun _ _ found => found) unchanged) (.inl missing)
    · exact absurd succeeded generalError_failure
  | unregistered scheduleId named taken =>
    rcases ends with rfl | ⟨succeeded,_⟩
    · rw [named]
      constructor
      · exact fun keeps => .inr (unregister_harms valid keeps rfl)
      · rintro (missing | absent)
        · cases missing
        · refine keeps_live (fun _ stub _ => ?_) (fun _ _ found => found) unchanged
          exact congrArg (registrations · stub) (unregister_absent absent)
    · exact absurd succeeded generalError_failure
  | listening scheduleId named connectionName connected free reached traced listens stub hosted =>
    have harmless : lookup ListenerInfo.covers s.listeners ⟨connectionOf request,EXECUTOR_STUB_ENDPOINT_NAME⟩ = none := by
      rw [connectionOf,connected]
      exact free
    refine iff_of_true ?_ (.inr harmless)
    rcases ends with rfl | ⟨_,vacant,rfl⟩
    · have undone := destroy_undoes begun.1 answers.removing free stub.2.1 stub.2.2 listens
      refine keeps_live (fun _ _ _ => by rw [undone]) (fun _ _ found => found) ?_
      rw [destroy_pool]
      exact hosted.undone valid.pool answers.removing
    · refine keeps_live (fun _ old live => ?_) (fun other old live => ?_) (hosted.retains valid.pool)
      · simp only [tried,listens]
        exact other_registrations valid live stub.1
      · have apart : begun.1.scheduleId ≠ other := by
          rintro rfl
          rw [live] at vacant
          cases vacant
        simpa [ExtTreeMap.getElem?_insert,apart] using live

end Begin

section Steps
variable {s : RemoteAuthService}

theorem valid_smaller (valid : Valid s) (next : RemoteAuthService) (part : next.listeners.Sublist s.listeners)
    (map : next.scheduleId2executorStub = s.scheduleId2executorStub)
    (pool : DistinctIds next.contextPool.pool.contexts) (later : s.nextRef ≤ next.nextRef) : Valid next := by
  refine ⟨pool,valid.unshadowed.sublist part,?_,?_,?_,?_⟩ <;> rw [map]
  · exact fun info member => valid.owned info (part.subset member)
  · exact valid.listening
  · exact fun scheduleId stub live => Nat.lt_of_lt_of_le (valid.known scheduleId stub live) later
  · exact valid.apart

theorem valid_elsewhere (valid : Valid s) {info : ListenerInfo Listener} (nextRef : Nat) (later : s.nextRef ≤ nextRef)
    (elsewhere : info.endPointName ≠ EXECUTOR_STUB_ENDPOINT_NAME)
    (free : lookup ListenerInfo.covers s.listeners info.toListenerKey = none) :
    Valid {s with listeners:=s.listeners ++ [info],nextRef} := by
  refine ⟨valid.pool,unshadowed_register valid.unshadowed free,?_,valid.listening,?_,valid.apart⟩
  · intro other member stubs
    rcases List.mem_append.mp member with old | new
    · exact valid.owned other old stubs
    · cases List.mem_singleton.mp new
      exact absurd stubs elsewhere
  · exact fun scheduleId stub live => Nat.lt_of_lt_of_le (valid.known scheduleId stub live) later

theorem valid_registered (valid : Valid s) (connectionName endPointName : Bytes) (listener : Listener) (nextRef : Nat)
    (later : s.nextRef ≤ nextRef) (elsewhere : endPointName ≠ EXECUTOR_STUB_ENDPOINT_NAME) :
    Valid {s with
      listeners:=(registerListener s.listeners connectionName endPointName listener).getD s.listeners,
      nextRef} := by
  cases registered : registerListener s.listeners connectionName endPointName listener with
  | none => exact valid_smaller valid _ (.refl _) rfl valid.pool later
  | some listeners =>
    obtain ⟨free,rfl⟩ := register_eq registered
    exact @valid_elsewhere _ valid ⟨⟨connectionName,endPointName⟩,listener⟩ nextRef later elsewhere free

theorem valid_joined (valid : Valid s) (begun : Beginning) (scheduleId : UInt64) (fresh : begun.stub.ref = s.nextRef)
    (callback : begun.stub.connectionCallback = some scheduleId)
    (free : lookup ListenerInfo.covers s.listeners begun.stub.entry.toListenerKey = none)
    (listens : begun.listeners = s.listeners ++ [begun.stub.entry])
    (vacant : s.scheduleId2executorStub[begun.scheduleId]? = none) (pool : DistinctIds begun.contextPool.pool.contexts) :
    Valid {s.tried begun with
      scheduleId2executorStub:=s.scheduleId2executorStub.insert begun.scheduleId begun.stub} := by
  have stored : ∀ other : UInt64, (s.scheduleId2executorStub.insert begun.scheduleId begun.stub)[other]? =
      if begun.scheduleId = other then some begun.stub else s.scheduleId2executorStub[other]? := by
    intro other
    simp [ExtTreeMap.getElem?_insert]
  have kept : ∀ (other : UInt64) stub, s.scheduleId2executorStub[other]? = some stub →
      (s.scheduleId2executorStub.insert begun.scheduleId begun.stub)[other]? = some stub := by
    intro other stub live
    rw [stored,if_neg]
    · exact live
    · rintro rfl
      rw [live] at vacant
      cases vacant
  have either : ∀ (other : UInt64) stub, (s.scheduleId2executorStub.insert begun.scheduleId begun.stub)[other]? = some stub →
      (begun.scheduleId = other ∧ stub = begun.stub) ∨ s.scheduleId2executorStub[other]? = some stub := by
    intro other stub found
    rw [stored] at found
    split at found
    · exact .inl ⟨‹_›,(Option.some.inj found).symm⟩
    · exact .inr found
  refine ⟨pool,?_,?_,?_,?_,?_⟩
  · simp only [tried,listens]
    exact unshadowed_register valid.unshadowed free
  · intro info member stubs
    simp only [tried,listens] at member
    rcases List.mem_append.mp member with old | new
    · obtain ⟨other,stub,live,same⟩ := valid.owned info old stubs
      exact ⟨other,stub,kept other stub live,same⟩
    · exact ⟨begun.scheduleId,begun.stub,by simp,List.mem_singleton.mp new⟩
  · intro other stub found
    rcases either other stub found with ⟨_,rfl⟩ | live
    · simp [callback]
    · exact valid.listening other stub live
  · intro other stub found
    simp only [tried]
    rcases either other stub found with ⟨_,rfl⟩ | live
    · omega
    · have known := valid.known other stub live
      omega
  · intro one other stub twin first second same
    rcases either one stub first with ⟨rfl,rfl⟩ | left <;> rcases either other twin second with ⟨rfl,rfl⟩ | right
    · rfl
    · have known := valid.known other twin right
      omega
    · have known := valid.known one stub left
      omega
    · exact valid.apart one other stub twin left right same

theorem begin_valid (valid : Valid s) (request : Attributes) (answers : BeginAnswers) :
    Valid (s.procBeginExecuteRequest request answers).1 := by
  have outcome := begin_outcome ⟨{ref:=s.nextRef},0,s.listeners,s.contextPool,s.scheduleNodes⟩ request answers rfl
  have ends := s.begin_cases request answers
  unfold attempt at ends
  generalize RemoteExecutorStub.procBeginExecuteRequest
    ⟨{ref:=s.nextRef},0,s.listeners,s.contextPool,s.scheduleNodes⟩ request answers = begun at outcome ends
  generalize (s.procBeginExecuteRequest request answers).1 = next at ends ⊢
  cases outcome with
  | unnamed missing =>
    rcases ends with rfl | ⟨succeeded,_⟩
    · exact valid_smaller valid _ (.refl _) rfl valid.pool (Nat.le_succ _)
    · exact absurd succeeded generalError_failure
  | unregistered scheduleId named taken =>
    rcases ends with rfl | ⟨succeeded,_⟩
    · exact valid_smaller valid _ unregister_sublist rfl valid.pool (Nat.le_succ _)
    · exact absurd succeeded generalError_failure
  | listening scheduleId named connectionName connected free reached traced listens stub hosted =>
    rcases ends with rfl | ⟨_,vacant,rfl⟩
    · have undone := destroy_undoes begun.1 answers.removing free stub.2.1 stub.2.2 listens
      refine valid_smaller valid _ (by rw [undone]) rfl ?_ (Nat.le_succ _)
      rw [destroy_pool]
      exact release_distinct _ _ (hosted.distinct valid.pool)
    · refine valid_joined valid begun.1 scheduleId stub.1 stub.2.1 ?_ listens vacant (hosted.distinct valid.pool)
      rw [RemoteExecutorStub.entry,stub.2.2]
      exact free

-- The listener of a stub that goes is the one found under its name, so none of
-- the listeners left is its own.
theorem end_valid (valid : Valid s) (request : Attributes) (removing : PreemptAnswers) :
    Valid (s.procEndExecuteRequest request removing).1 := by
  unfold procEndExecuteRequest
  cases request.getUint64Value ATTR_SCHEDULE_ID with
  | none => exact valid
  | some scheduleId =>
    dsimp only
    cases live : s.scheduleId2executorStub[scheduleId]? with
    | none => exact valid
    | some stub =>
      have erased : ∀ (other : UInt64) twin, (s.scheduleId2executorStub.erase scheduleId)[other]? = some twin →
          scheduleId ≠ other ∧ s.scheduleId2executorStub[other]? = some twin := by
        intro other twin found
        simpa [ExtTreeMap.getElem?_erase] using found
      have remaining : ({s with scheduleId2executorStub:=s.scheduleId2executorStub.erase scheduleId}.destroy
          removing stub).listeners = unregister ListenerInfo.covers s.listeners stub.entry.toListenerKey := by
        simp only [destroy,valid.listening scheduleId stub live,if_true]
        rfl
      refine ⟨?_,?_,?_,?_,?_,?_⟩
      · rw [destroy_pool]
        exact release_distinct _ _ valid.pool
      · rw [remaining]
        exact valid.unshadowed.sublist unregister_sublist
      · intro info member stubs
        rw [remaining] at member
        obtain ⟨other,owner,found,rfl⟩ := valid.owned info (unregister_sublist.subset member) stubs
        refine ⟨other,owner,?_,rfl⟩
        have differs : scheduleId ≠ other := by
          rintro rfl
          rw [live] at found
          cases found
          exact unshadowed_unregister valid.unshadowed (covers_own stub.entry) member
        simpa [destroy,ExtTreeMap.getElem?_erase,differs] using found
      · exact fun other twin found => valid.listening other twin (erased other twin found).2
      · exact fun other twin found => valid.known other twin (erased other twin found).2
      · exact fun one other left right first second => valid.apart one other left right
          (erased one left first).2 (erased other right second).2

end Steps
end RemoteAuthService

namespace RemoteSystem
open RemoteAuthService

theorem receive_valid (s : RemoteSystem) (valid : Valid s.toRemoteAuthService) (message : Attributes) (answers : BeginAnswers) :
    Valid (s.receive message answers).1.toRemoteAuthService := by
  unfold receive
  cases parseMessage message with
  | none => exact valid
  | some addressed =>
    dsimp only
    split
    · unfold serviceMessage
      split
      · exact valid
      · split
        · exact begin_valid valid message answers
        · split
          · exact end_valid valid message answers.removing
          · exact valid
    · split
      · exact valid
      · unfold stubMessage
        repeat' split
        all_goals exact valid
    · split
      · exact valid
      · unfold proxyMessage
        repeat' split
        all_goals exact valid
    · exact valid

theorem step_valid (s : RemoteSystem) (op : RemoteOp) (valid : Valid s.toRemoteAuthService) :
    Valid (s.step op).1.toRemoteAuthService := by
  cases op with
  | receive message answers => exact receive_valid s valid message answers
  | endExecute request removing => exact end_valid valid request removing
  | connectionDown connectionName => exact valid_smaller valid _ List.filter_sublist rfl valid.pool (Nat.le_refl _)
  | listen key ref =>
    dsimp only [step]
    split
    · rename_i outside
      have outside : key.endPointName ≠ EXECUTOR_STUB_ENDPOINT_NAME := by
        simp only [elsewhere,Bool.and_eq_true,bne_iff_ne] at outside
        exact outside.1
      exact valid_registered valid key.connectionName key.endPointName _ s.nextRef (Nat.le_refl _) outside
    · exact valid
  | unlisten key =>
    dsimp only [step]
    split
    · exact valid_smaller valid _ unregister_sublist rfl valid.pool (Nat.le_refl _)
    · exact valid
  | startProxy connectionName =>
    exact valid_registered valid connectionName EXECUTOR_PROXY_ENDPOINT_NAME _ (s.nextRef + 1) (Nat.le_succ _) (by decide)
  | messengerReady ref => exact valid
  | destroyProxy ref =>
    dsimp only [step,destroyProxy]
    split
    · exact valid
    · exact valid_smaller valid _ unregister_sublist rfl valid.pool (Nat.le_refl _)
  | setScheduleList ref schedules =>
    dsimp only [step]
    split
    · exact valid_smaller valid _ (.refl _) rfl valid.pool (Nat.le_refl _)
    · exact valid
  | beginExecution execution => exact valid
  | endExecution execution => exact valid
  | pool op => exact valid_smaller valid _ (.refl _) rfl (step_distinct valid.pool) (Nat.le_refl _)

theorem runs_valid (ops : List RemoteOp) : Valid (remoteMachine.after .initial ops).toRemoteAuthService :=
  Mealy.invariant (Q:=fun s : RemoteSystem => Valid s.toRemoteAuthService) step_valid initial_valid ops

-- In every state that a run leads to, a BEGIN_EXECUTE spares all live stubs
-- exactly if it names no schedule or no connection that one listens on.
theorem begin_spares_iff (ops : List RemoteOp) (request : Attributes) (answers : BeginAnswers) :
    KeepsLive (remoteMachine.after .initial ops).toRemoteAuthService
        ((remoteMachine.after .initial ops).procBeginExecuteRequest request answers).1 ↔
      (remoteMachine.after .initial ops).Harmless request :=
  begin_keeps_iff (runs_valid ops) request answers

-- One peer begins two executions over one connection.
def beginMessage (connectionName : String) (scheduleId : UInt8) : Attributes :=
  ⟨ExtTreeMap.ofList [
    (ATTR_MSG_SEQ_NUM,[1,0,0,0]),(ATTR_MSG_ACK,[0]),(ATTR_MSG_SRC_UDID,ascii "peer" ++ [0]),
    (ATTR_MSG_SRC_END_POINT,EXECUTOR_PROXY_ENDPOINT_NAME ++ [0]),(ATTR_MSG_DEST_END_POINT,REMOTE_SERVICE_ENDPOINT ++ [0]),
    (ATTR_CONNECTION_NAME,ascii connectionName ++ [0]),(ATTR_MSG_VERSION,[0,0,0,0]),(ATTR_MSG_TYPE,[5,0,0,0]),
    (ATTR_SCHEDULE_ID,[scheduleId,0,0,0,0,0,0,0]),(ATTR_SCHEDULE_DATA,[7])] compare⟩

def willing (contextId : UInt64) : BeginAnswers where
  getLocalScheduleFromMessage _ _ := .answered ⟨21,AuthType.PIN,[9],[[1]]⟩
  select _ := true
  registerResourceNodePoolListener := true
  newContextId := contextId
  createTime := 0
  beginExecute _ _ := ResultCode.SUCCESS
  admitting _ _ := .keepRunning
  removing _ _ := .keepRunning

def firstStub : RemoteExecutorStub where
  ref := 0
  connectionCallback := some 1
  remoteScheduleNode := some 21
  executorIndex := 9
  connectionName := ascii "a1b2:0007"
  contextId := some 5

theorem second_begin_unlistens :
    ¬KeepsLive (remoteMachine.after .initial [.receive (beginMessage "a1b2:0007" 1) (willing 5)]).toRemoteAuthService
      ((remoteMachine.after .initial [.receive (beginMessage "a1b2:0007" 1) (willing 5)]).procBeginExecuteRequest
        (beginMessage "a1b2:0007" 2) (willing 6)).1 := by
  intro keeps
  have kept := (keeps 1 firstStub (by decide)).registration
  exact absurd kept (by decide)

end RemoteSystem
end UserAuth
