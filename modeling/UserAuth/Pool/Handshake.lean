import UserAuth.Contexts.ContextObject
import UserAuth.Pool.PoolRun

namespace UserAuth
open ContextPoolImpl ContextObject

-- The next call on a context within a task, each up to the following call.
inductive SerialCall where
  | stop
  | reportStop
  | start
  | onStart
  | startFailed
  deriving DecidableEq,Repr

-- Where the serial thread stands in the task it has taken.
inductive SerialStep where
  | selecting (contextId : UInt64)
  | calling (call : SerialCall) (context : Context)
  deriving DecidableEq,Repr

inductive HandshakeEvent where
  | start (context : Context) (answer : StartAnswer)
  | stop (context : Context)
  | onStartFailed (context : Context) (resultCode : ResultCode)
  | onResult (context : Context) (resultCode : ResultCode)
  | removed (context : Context)
  deriving DecidableEq

structure WidgetMaking where
  para : ContextFactory.AuthWidgetContextPara
  modalCallback : Bool
  remoteAuthCallback : Bool

-- An object is as its constructor left it until the first call reaches it.
structure Handshake extends PoolState where
  serial : Option SerialStep
  objects : Context → ContextObject

-- The pool's own operations come from any thread, also from within a call.
inductive HandshakeOp where
  | pool (op : PoolOp)
  | proceed (answers : Answers)
  | callback (context : Context) (answers : Answers) (call : WidgetContext.Call)

namespace Handshake

def initial (making : Context → WidgetMaking) : Handshake where
  toPoolState := .initial
  serial := none
  objects context := create context.contextType
    (WidgetContext.create (making context).para (making context).modalCallback (making context).remoteAuthCallback)

def callOf (s : Handshake) (context : Context) : Option SerialCall :=
  match s.serial with
  | some (.calling call other) => if other = context then some call else none
  | _ => none

-- A task's first locked section. StopIfPooled only drops the cancel request
-- there; StartIfPooled gives up where one is on record.
def firstStep (pool : ContextPoolImpl) : PoolTask → Option SerialStep
  | .stopIfPooled contextId => some (.selecting contextId)
  | .startIfPooled contextId =>
    match pool.runningContexts.find? (·.contextId == contextId) with
    | none => none
    | some context => if contextId ∈ pool.cancelRequestedIds then none else some (.calling .start context)

def callObject (answers : Answers) (context : Context) (object : ContextObject) :
    SerialCall → ContextObject × Option SerialCall × List HandshakeEvent
  | .stop =>
    let stopped := object.stop answers
    (stopped.1,if stopped.2.1 then some .reportStop else none,.stop context :: stopped.2.2.map (.onResult context))
  | .reportStop =>
    let failed := object.onStartFailed ResultCode.CANCELED
    (failed.1,none,failed.2.map (.onStartFailed context))
  | .start =>
    let started := object.start
    (started.1,
      match started.2 with
      | .onStart => some .onStart
      | .refused => some .startFailed
      | .done | .absorbed => none,
      [.start context started.2])
  | .onStart =>
    let body := object.onStart answers
    (body.1,if body.2.1 then none else some .startFailed,body.2.2.map (.onResult context))
  | .startFailed =>
    let failed := object.onStartFailed object.getLatestError
    (failed.1,none,failed.2.map (.onStartFailed context))

def proceed (s : Handshake) (answers : Answers) : Handshake × List HandshakeEvent :=
  match s.serial with
  | none => (s,[])
  | some (.selecting contextId) => ({s with serial:=(s.pool.selectLocked contextId).map (.calling .stop)},[])
  | some (.calling call context) =>
    let called := callObject answers context (s.objects context) call
    ({s with objects:=Function.update s.objects context called.1,serial:=called.2.1.map (.calling · context)},called.2.2)

def callback (s : Handshake) (context : Context) (answers : Answers) (call : WidgetContext.Call) :
    Handshake × List HandshakeEvent :=
  let called := (s.objects context).callback answers call
  ({s with objects:=Function.update s.objects context called.1},called.2.map (.onResult context))

-- One task at a time, whichever of the posted ones is taken first.
def takeTask (s : Handshake) (position : Nat) : Handshake :=
  match s.serial,s.tasks[position]? with
  | none,some task => {s with toPoolState:=s.toPoolState.runTask position,serial:=firstStep s.pool task}
  | _,_ => s

def removals (s : Handshake) : PoolOp → List HandshakeEvent
  | .delete _ contextId => (s.pool.contexts.filter (·.contextId == contextId)).map .removed
  | _ => []

def step (s : Handshake) : HandshakeOp → Handshake × List HandshakeEvent
  | .pool (.runTask position) => (s.takeTask position,[])
  | .pool op => ({s with toPoolState:=(s.toPoolState.step op).1},s.removals op)
  | .proceed answers => s.proceed answers
  | .callback context answers call => s.callback context answers call

end Handshake

-- A posted task counts as pending from the moment its call leaves the lock: the
-- post that follows can only delay it, and tasks run in any order.
def handshakeMachine : Mealy Handshake HandshakeOp HandshakeEvent := ⟨Handshake.step⟩

namespace Handshake

def StartPending (s : Handshake) (context : Context) : Prop :=
  .startIfPooled context.contextId ∈ s.tasks ∨ s.callOf context = some .start

def StopPending (s : Handshake) (context : Context) : Prop :=
  .stopIfPooled context.contextId ∈ s.tasks ∨ s.serial = some (.selecting context.contextId) ∨
    s.callOf context = some .stop ∨ s.callOf context = some .reportStop

end Handshake

section Pool
variable {s : PoolState} {op : PoolOp}

theorem step_running (distinct : DistinctIds s.pool.contexts) (member : context ∈ (s.step op).1.pool.runningContexts) :
    context ∈ s.pool.runningContexts ∨ ∃ plan ∈ (s.step op).2, context ∈ plan.toStart := by
  rcases s.step_cases op distinct with ⟨running,_,_⟩ | ⟨_,held,_,_,p,pass⟩
  · rw [running] at member
    exact .inl member
  · rw [pass.running,pass.promoted.running,List.mem_append] at member
    rcases member with held | started
    · exact .inl (pass.heldFrom.subset held)
    · exact .inr ⟨p.plan,by simp [pass.plan],started⟩

-- Only a task taken leaves the list, and a request on record outlives the rest.
structure Posts (s next : PoolState) (plans : List AdmissionPlan) : Prop where
  tasks : s.tasks ⊆ next.tasks
  starts : ∀ plan ∈ plans, ∀ context ∈ plan.toStart, .startIfPooled context.contextId ∈ next.tasks
  kept : s.pool.cancelRequestedIds ⊆ next.pool.cancelRequestedIds
  recorded : ∀ id ∈ next.pool.cancelRequestedIds, id ∈ s.pool.cancelRequestedIds ∨ .stopIfPooled id ∈ next.tasks

theorem settle_posts (base : PoolState) (preempt : PreemptAnswers) (pool : ContextPoolImpl) (tasks : base.tasks = s.tasks)
    (same : pool.cancelRequestedIds = s.pool.cancelRequestedIds) :
    Posts s (base.settle (some (promoteWaitingLocked preempt pool))).1
      (base.settle (some (promoteWaitingLocked preempt pool))).2 := by
  refine ⟨?_,?_,?_,?_⟩
  · intro task member
    rw [←tasks] at member
    exact List.mem_append_left _ member
  · intro plan member context started
    cases List.mem_singleton.mp member
    exact List.mem_append_right _ (List.mem_append_right _ (List.mem_map_of_mem started))
  · exact fun id member => same ▸ member
  · exact fun id member => .inl (same ▸ member)

theorem unchanged_posts (tasks : next.tasks = s.tasks) (pool : next.pool = s.pool) : Posts s next [] := by
  refine ⟨?_,by simp,?_,?_⟩
  · rw [tasks]
    exact List.Subset.refl _
  · rw [pool]
  · rw [pool]
    exact fun _ member => .inl member

theorem step_posts (s : PoolState) (op : PoolOp) (posting : ∀ position, op ≠ .runTask position) :
    Posts s (s.step op).1 (s.step op).2 := by
  cases op with
  | schedule preempt context =>
    dsimp only [PoolState.step]
    rcases PoolState.schedule_cases preempt s.pool {context with ref:=s.nextRef} with refused | ⟨_,accepted⟩
    · rw [refused]
      exact unchanged_posts rfl rfl
    · rw [accepted]
      exact settle_posts _ _ _ rfl rfl
  | cancel contextId =>
    refine ⟨List.subset_append_left _ _,by simp [PoolState.step],Finset.subset_insert _ _,?_⟩
    intro id member
    rcases Finset.mem_insert.mp member with same | old
    · exact .inr (List.mem_append_right _ (by rw [same]; exact List.mem_singleton_self _))
    · exact .inl old
  | delete preempt contextId =>
    dsimp only [PoolState.step]
    rcases PoolState.delete_cases preempt s.pool contextId with refused | accepted
    · rw [refused]
      exact unchanged_posts rfl rfl
    · rw [accepted]
      exact settle_posts _ _ _ rfl rfl
  | notifyPreemptStateChanged preempt => exact settle_posts s preempt s.pool rfl rfl
  | runTask position => exact absurd rfl (posting position)

theorem promote_shares (preempt : PreemptAnswers) (pool : ContextPoolImpl) (distinct : DistinctIds pool.contexts) :
    (promoteWaitingLocked preempt pool).1.contexts.Perm pool.contexts := by
  have promoted : Promoted preempt pool.runningContexts pool.waitingFifo (promotion preempt pool) :=
    promotion_promoted pool distinct
  simp only [promoteWaitingLocked,contexts,promoted.running,List.append_assoc]
  exact promoted.shared.append_left _

theorem step_keeps (distinct : DistinctIds s.pool.contexts) (member : context ∈ s.pool.contexts)
    (spared : ∀ preempt, op ≠ .delete preempt context.contextId) : context ∈ (s.step op).1.pool.contexts := by
  cases op with
  | schedule preempt arrival =>
    dsimp only [PoolState.step]
    rcases PoolState.schedule_cases preempt s.pool {arrival with ref:=s.nextRef} with refused | ⟨absent,accepted⟩
    · rw [refused]
      exact member
    · have grown := PoolState.distinct_arrival distinct absent
      rw [contexts,List.append_assoc] at grown
      rw [accepted]
      refine (promote_shares preempt {s.pool with waitingFifo:=s.pool.waitingFifo ++ [_]} grown).symm.subset ?_
      simp only [contexts,List.mem_append] at member ⊢
      exact member.imp_right .inl
  | cancel => exact member
  | delete preempt contextId =>
    have apart : context.contextId ≠ contextId := fun same => spared preempt (by rw [same])
    dsimp only [PoolState.step]
    rcases PoolState.delete_cases preempt s.pool contextId with refused | accepted
    · rw [refused]
      exact member
    · rw [accepted]
      refine (promote_shares preempt _ (PoolState.withdraw_distinct distinct contextId)).symm.subset ?_
      exact (PoolState.mem_withdraw distinct).mpr ⟨member,apart⟩
  | notifyPreemptStateChanged preempt => exact (promote_shares preempt s.pool distinct).symm.subset member
  | runTask position =>
    simp only [PoolState.step,PoolState.runTask]
    split <;> exact member

theorem step_strangers (ordered : Ordered s plans) (known : context.ref < s.nextRef)
    (absent : context ∉ s.pool.contexts) : context ∉ (s.step op).1.pool.contexts := by
  rcases s.step_cases op ordered.distinct with ⟨running,waiting,_⟩ | ⟨_,held,queue,arrivals,p,pass⟩
  · unfold contexts
    rw [running,waiting]
    exact absent
  · intro member
    unfold contexts at member
    rw [pass.running,pass.waiting,pass.promoted.running,List.append_assoc] at member
    have member := (pass.promoted.shared.append_left held).subset member
    rcases List.mem_append.mp member with inside | queued
    · exact absent (List.mem_append_left _ (pass.heldFrom.subset inside))
    · rcases List.mem_append.mp (pass.queueFrom.subset queued) with waited | arrived
      · exact absent (List.mem_append_right _ waited)
      · have fresh := (pass.fresh context arrived).1
        omega

end Pool
end UserAuth
