import UserAuth.Engine.EngineReply
import UserAuth.Executor.ResourceNodePool
import UserAuth.Schedule.ScheduleNode

namespace UserAuth
open ScheduleNode

-- A node in the pool as a schedule sees it, told from others by its reference.
structure ExecutorNode where
  ref : Nat
  executorIndex : UInt64
  authType : AuthType
  executorRole : ExecutorRole
  executorMatcher : UInt32
  deriving DecidableEq,Repr

structure ScheduleHeld where
  scheduleId : UInt64
  collector : ExecutorNode
  verifier : ExecutorNode
  started : Bool := false
  machine : ScheduleNodeImpl

namespace ScheduleHeld

def holds (schedule : ScheduleHeld) (node : ExecutorNode) : Bool := schedule.collector == node || schedule.verifier == node

def running (schedule : ScheduleHeld) : Bool := schedule.started && schedule.machine.currentState != .S_END

end ScheduleHeld

namespace ScheduleNodeBuilder

def checkExecutors (collector verifier : ExecutorNode) : Bool :=
  if collector.authType != verifier.authType then false
  else if collector.executorMatcher != verifier.executorMatcher then false
  else if collector == verifier && collector.executorRole == ExecutorRole.ALL_IN_ONE then true
  else collector.executorRole == ExecutorRole.COLLECTOR && verifier.executorRole == ExecutorRole.VERIFIER

def checkParameters (collector : ExecutorNode) (authType : AuthType) : Bool := collector.authType == authType

end ScheduleNodeBuilder

namespace ScheduleNodeHelper
open ScheduleNodeBuilder

def takeExecutors (pool : ResourceNodePool ExecutorNode) : List UInt64 → Option ExecutorNode → Option ExecutorNode →
    Option (ExecutorNode × ExecutorNode)
  | [],some collector,some verifier => some (collector,verifier)
  | [],_,_ => none
  | executorIndex :: rest,collector,verifier =>
    match pool.select executorIndex with
    | none => none
    | some resource =>
      if resource.executorRole == ExecutorRole.COLLECTOR then takeExecutors pool rest (some resource) verifier
      else if resource.executorRole == ExecutorRole.VERIFIER then takeExecutors pool rest collector (some resource)
      else if resource.executorRole == ExecutorRole.ALL_IN_ONE then takeExecutors pool rest (some resource) (some resource)
      else takeExecutors pool rest collector verifier

def scheduleInfoToExecutors (pool : ResourceNodePool ExecutorNode) (info : EngScheduleInfo) :
    Option (ExecutorNode × ExecutorNode) :=
  if info.executorIndexes.length != info.executorMessages.length then none
  else takeExecutors pool info.executorIndexes none none

def scheduleInfoToScheduleNode (pool : ResourceNodePool ExecutorNode) (expires : Bool) (info : EngScheduleInfo) :
    Option ScheduleHeld :=
  match scheduleInfoToExecutors pool info with
  | none => none
  | some (collector,verifier) =>
    if !checkExecutors collector verifier then none
    else if !checkParameters collector info.authType then none
    else some {scheduleId:=info.scheduleId,collector,verifier,machine:=ScheduleNodeImpl.create expires}

def buildFromHdi (pool : ResourceNodePool ExecutorNode) (expires : Bool) (infos : List EngScheduleInfo) :
    Option (List ScheduleHeld) :=
  infos.mapM (scheduleInfoToScheduleNode pool expires)

theorem scheduled_unstarted (scheduled : scheduleInfoToScheduleNode pool expires info = some schedule) :
    schedule.started = false := by
  unfold scheduleInfoToScheduleNode at scheduled
  split at scheduled
  · cases scheduled
  · split at scheduled
    · cases scheduled
    · split at scheduled
      · cases scheduled
      · cases scheduled
        rfl

theorem built_one (built : buildFromHdi pool expires [info] = some scheduleList) :
    ∃ schedule, scheduleList = [schedule] := by
  simp only [buildFromHdi,List.mapM_cons,List.mapM_nil] at built
  cases scheduled : scheduleInfoToScheduleNode pool expires info with
  | none => simp [scheduled] at built
  | some schedule => exact ⟨schedule,by simpa [scheduled] using built.symm⟩

end ScheduleNodeHelper

end UserAuth
