import Mathlib.Data.List.Nodup
import Mathlib.Data.Finset.Basic
import UserAuth.Pool.Context

namespace UserAuth
open Std

def MAX_CONTEXT_NUM : Nat := 100

structure AdmissionPlan where
  toStop : ExtTreeMap UInt64 Context
  toStart : List Context

def AdmissionPlan.Stops (plan : AdmissionPlan) (context : Context) : Prop :=
  plan.toStop[context.contextId]? = some context

-- A preemption answer is asked of the member, about the waiter. It is drawn
-- anew for every promotion pass: contexts change their minds in between.
abbrev PreemptAnswers := Context → Context → PreemptDecision

-- `runningContexts` keeps the order of admission. The source's unordered map
-- fixes no order of its own, and no result below depends on the one chosen.
structure ContextPoolImpl where
  runningContexts : List Context
  waitingFifo : List Context
  cancelRequestedIds : Finset UInt64

namespace ContextPoolImpl

def empty : ContextPoolImpl := ⟨[],[],∅⟩

def contexts (pool : ContextPoolImpl) : List Context := pool.runningContexts ++ pool.waitingFifo

structure Survey where
  toStop : ExtTreeMap UInt64 Context
  pendingVictims : List (UInt64 × Context)
  visible : List Context

def surveyMember (preempt : PreemptAnswers) (waiter : Context) (s : Survey) (member : Context) : Survey :=
  let canCollect := decide (waiter.createTime > member.createTime)
  if canCollect && isSameCallerDuplicate waiter member then
    {s with toStop:=s.toStop.insertIfNew member.contextId member}
  else if canCollect && preempt member waiter == .stopNow then
    {s with pendingVictims:=s.pendingVictims ++ [(member.contextId,member)]}
  else {s with visible:=s.visible ++ [member]}

def survey (preempt : PreemptAnswers) (waiter : Context) (predecessors : List Context)
    (toStop : ExtTreeMap UInt64 Context) : Survey :=
  predecessors.foldl (surveyMember preempt waiter) ⟨toStop,[],[]⟩

def emplaceVictims (toStop : ExtTreeMap UInt64 Context) (victims : List (UInt64 × Context)) :
    ExtTreeMap UInt64 Context :=
  victims.foldl (fun toStop victim => toStop.insertIfNew victim.1 victim.2) toStop

def emplace (running : List Context) (context : Context) : List Context :=
  if running.any (·.contextId == context.contextId) then running else running ++ [context]

structure Promotion where
  predecessors : List Context
  runningContexts : List Context
  waitingFifo : List Context
  plan : AdmissionPlan

-- One turn of the loop over the queue. The waiter joins the predecessors of
-- those behind it whether or not it is admitted.
def promoteWaiter (preempt : PreemptAnswers) (p : Promotion) (waiter : Context) : Promotion :=
  let s := survey preempt waiter p.predecessors p.plan.toStop
  let toStop := emplaceVictims s.toStop s.pendingVictims
  let predecessors := p.predecessors ++ [waiter]
  if !waiter.canStart s.visible then
    ⟨predecessors,p.runningContexts,p.waitingFifo ++ [waiter],{p.plan with toStop}⟩
  else
    ⟨predecessors,emplace p.runningContexts waiter,p.waitingFifo,⟨toStop,p.plan.toStart ++ [waiter]⟩⟩

def promotion (preempt : PreemptAnswers) (pool : ContextPoolImpl) : Promotion :=
  pool.waitingFifo.foldl (promoteWaiter preempt) ⟨pool.runningContexts,pool.runningContexts,[],⟨∅,[]⟩⟩

def promoteWaitingLocked (preempt : PreemptAnswers) (pool : ContextPoolImpl) : ContextPoolImpl × AdmissionPlan :=
  let p := promotion preempt pool
  ({pool with runningContexts:=p.runningContexts,waitingFifo:=p.waitingFifo},p.plan)

def selectLocked (pool : ContextPoolImpl) (contextId : UInt64) : Option Context :=
  (pool.runningContexts.find? (·.contextId == contextId)).or
    (pool.waitingFifo.find? (·.contextId == contextId))

def schedule (preempt : PreemptAnswers) (pool : ContextPoolImpl) (context : Context) :
    Option (ContextPoolImpl × AdmissionPlan) :=
  if pool.runningContexts.length + pool.waitingFifo.length ≥ MAX_CONTEXT_NUM then none
  else if (pool.selectLocked context.contextId).isSome then none
  else some (promoteWaitingLocked preempt {pool with waitingFifo:=pool.waitingFifo ++ [context]})

def cancel (pool : ContextPoolImpl) (contextId : UInt64) : ContextPoolImpl :=
  {pool with cancelRequestedIds:=insert contextId pool.cancelRequestedIds}

def delete (preempt : PreemptAnswers) (pool : ContextPoolImpl) (contextId : UInt64) :
    Option (ContextPoolImpl × AdmissionPlan) :=
  if !pool.contexts.any (·.contextId == contextId) then none
  else some (promoteWaitingLocked preempt {pool with
    waitingFifo:=pool.waitingFifo.eraseP (·.contextId == contextId),
    runningContexts:=pool.runningContexts.eraseP (·.contextId == contextId)})

def notifyPreemptStateChanged (preempt : PreemptAnswers) (pool : ContextPoolImpl) :
    ContextPoolImpl × AdmissionPlan :=
  promoteWaitingLocked preempt pool

def forgetCancel (pool : ContextPoolImpl) (contextId : UInt64) : ContextPoolImpl :=
  {pool with cancelRequestedIds:=pool.cancelRequestedIds.erase contextId}

end ContextPoolImpl

inductive PoolTask where
  | stopIfPooled (contextId : UInt64)
  | startIfPooled (contextId : UInt64)
  deriving DecidableEq,Repr

def executePlan (plan : AdmissionPlan) : List PoolTask :=
  plan.toStop.toList.map (fun iter => .stopIfPooled iter.2.contextId) ++
    plan.toStart.map (fun context => .startIfPooled context.contextId)

end UserAuth
