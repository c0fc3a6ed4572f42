import Mathlib.Logic.Function.Basic
import UserAuth.Schedule.ScheduleNodeHelper

namespace UserAuth

-- A listener is known by the schedule it was made for. `notices` are being told:
-- the listeners were copied when the pool changed, and are called after that.
-- Every node that comes in and every schedule that is built has a reference of
-- its own.
structure SchedulePool where
  pool : ResourceNodePool ExecutorNode
  listenerSet : List Nat
  notices : List (Nat × PoolNotice ExecutorNode)
  schedules : Nat → Option ScheduleHeld
  nextRef : Nat

inductive ScheduleEvent where
  | loses (schedule : Nat) (node : ExecutorNode)
  | stopRequested (schedule : Nat) (errorCode : ResultCode)
  deriving DecidableEq,Repr

namespace SchedulePool
variable (s : SchedulePool)

def putSchedule (ref : Nat) (schedule : ScheduleHeld) : SchedulePool :=
  {s with schedules:=Function.update s.schedules ref (some schedule)}

def notify (pool : ResourceNodePool ExecutorNode) (told : List (PoolNotice ExecutorNode)) : SchedulePool :=
  {s with pool,notices:=s.notices ++ told.flatMap fun notice => s.listenerSet.map fun ref => (ref,notice)}

def insert (resource : ExecutorNode) : SchedulePool :=
  match s.pool.insertNode resource.executorIndex {resource with ref:=s.nextRef} with
  | none => s
  | some (pool,notice) => {s with nextRef:=s.nextRef + 1}.notify pool [notice]

def delete (executorIndex : UInt64) : SchedulePool :=
  match s.pool.delete executorIndex with
  | none => s
  | some (pool,told) => s.notify pool told

def deleteAll : SchedulePool := s.notify s.pool.deleteAll.1 s.pool.deleteAll.2

def stopSchedule (ref : Nat) (schedule : ScheduleHeld) (errorCode : ResultCode) : SchedulePool × List ScheduleEvent :=
  (s.putSchedule ref {schedule with machine:=schedule.machine.stopSchedule errorCode},[.stopRequested ref errorCode])

-- ScheduleResourceNodeListener: OnResourceNodePoolInsert and
-- OnResourceNodePoolUpdate have empty bodies.
def onResourceNodePool (ref : Nat) (notice : PoolNotice ExecutorNode) : SchedulePool × List ScheduleEvent :=
  match notice with
  | .inserted _ | .updated _ => (s,[])
  | .deleted resource =>
    match s.schedules ref with
    | none => (s,[])
    | some schedule =>
      if schedule.holds resource then s.stopSchedule ref schedule ResultCode.GENERAL_ERROR else (s,[])

def build (info : EngScheduleInfo) (expires : Bool) : SchedulePool :=
  match ScheduleNodeHelper.scheduleInfoToScheduleNode s.pool expires info with
  | none => s
  | some schedule => {s.putSchedule s.nextRef schedule with nextRef:=s.nextRef + 1}

def startSchedule (ref : Nat) (schedule : ScheduleHeld) : SchedulePool :=
  {s.putSchedule ref {schedule with started:=true,machine:=schedule.machine.startSchedule} with
    listenerSet:=ref :: s.listenerSet}

inductive Input where
  | insert (resource : ExecutorNode)
  | delete (executorIndex : UInt64)
  | deleteAll
  | tell (listener : Nat) (notice : PoolNotice ExecutorNode)
  | build (info : EngScheduleInfo) (expires : Bool)
  | startSchedule (ref : Nat)
  | stopSchedule (ref : Nat) (errorCode : ResultCode)
  | machine (ref : Nat) (input : ScheduleNodeImpl.Input)
  | destroy (ref : Nat)

def act (s : SchedulePool) (input : Input) : SchedulePool × List ScheduleEvent :=
  match input with
  | .insert resource => (s.insert resource,[])
  | .delete executorIndex => (s.delete executorIndex,[])
  | .deleteAll => (s.deleteAll,[])
  | .tell listener notice =>
    if s.notices.contains (listener,notice) then
      {s with notices:=s.notices.erase (listener,notice)}.onResourceNodePool listener notice
    else (s,[])
  | .build info expires => (s.build info expires,[])
  | .startSchedule ref =>
    match s.schedules ref with
    | none => (s,[])
    | some schedule => (s.startSchedule ref schedule,[])
  | .stopSchedule ref errorCode =>
    match s.schedules ref with
    | none => (s,[])
    | some schedule => s.stopSchedule ref schedule errorCode
  | .machine ref input =>
    match s.schedules ref with
    | none => (s,[])
    | some schedule => (s.putSchedule ref {schedule with machine:=(schedule.machine.step input).1},[])
  | .destroy ref =>
    ({s with schedules:=Function.update s.schedules ref none,listenerSet:=s.listenerSet.erase ref},[])

-- The running schedules whose collector or verifier was the pool's node for its
-- index and is so no more.
def losses (s t : SchedulePool) : List ScheduleEvent :=
  (List.range s.nextRef).flatMap fun ref =>
    (s.schedules ref).toList.flatMap fun schedule =>
      ([schedule.collector,schedule.verifier].filter fun node =>
        schedule.running && s.pool.select node.executorIndex == some node &&
          t.pool.select node.executorIndex != some node).map (.loses ref)

def step (s : SchedulePool) (input : Input) : SchedulePool × List ScheduleEvent :=
  let acted := s.act input
  (acted.1,acted.2 ++ s.losses acted.1)

def initial : SchedulePool := ⟨∅,[],[],fun _ => none,0⟩

end SchedulePool

def schedulePool : Mealy SchedulePool SchedulePool.Input ScheduleEvent := ⟨SchedulePool.step⟩

end UserAuth
