import UserAuth.Base.FiniteStateMachine
import UserAuth.Common.Attributes
import UserAuth.Lib.Mealy

namespace UserAuth
namespace ScheduleNode

inductive State where
  | S_INIT | S_VERIFY_STARING | S_COLLECT_STARING | S_AUTH_PROCESSING | S_COLLECT_STOPPING | S_VERIFY_STOPPING | S_END
  deriving DecidableEq,Repr

inductive Event where
  | E_START_AUTH | E_VERIFY_STARTED_SUCCESS | E_VERIFY_STARTED_FAILED | E_COLLECT_STARTED_SUCCESS
  | E_COLLECT_STARTED_FAILED | E_SCHEDULE_RESULT_RECEIVED | E_COLLECT_STOPPED_SUCCESS | E_COLLECT_STOPPED_FAILED
  | E_VERIFY_STOPPED_SUCCESS | E_VERIFY_STOPPED_FAILED | E_STOP_AUTH | E_TIME_OUT
  deriving DecidableEq,Repr

-- The two weak executor references and their answers while one event is handled.
structure Env where
  verifierAlive : Bool
  collectorAlive : Bool
  allInOne : Bool
  beginVerifier : ResultCode
  beginCollector : ResultCode
  endVerifier : ResultCode
  endCollector : ResultCode

structure Owner where
  expires : Bool
  callback : Bool
  timer : Bool
  fwkResultCode : Option ResultCode
  executorResultCode : ResultCode
  scheduleResult : Option Attributes

inductive Effect where
  | beginVerifier (result : ResultCode)
  | beginCollector (result : ResultCode)
  | notifyCollectorReady
  | endVerifier (result : ResultCode)
  | endCollector (result : ResultCode)
  | onScheduleStarted
  | onScheduleStoped (result : ResultCode) (scheduleResult : Option Attributes)

abbrev Action := FsmAction Env Owner Event Effect

def processBeginVerifier : Action := fun env owner =>
  if !env.collectorAlive || !env.verifierAlive then
    ({owner with fwkResultCode:=some ResultCode.GENERAL_ERROR},[.E_VERIFY_STARTED_FAILED],[])
  else if env.beginVerifier != ResultCode.SUCCESS then
    ({owner with executorResultCode:=env.beginVerifier},[.E_VERIFY_STARTED_FAILED],[.beginVerifier env.beginVerifier])
  else (owner,[.E_VERIFY_STARTED_SUCCESS],[.beginVerifier env.beginVerifier])

def processBeginCollector : Action := fun env owner =>
  if !env.collectorAlive || !env.verifierAlive then
    ({owner with fwkResultCode:=some ResultCode.GENERAL_ERROR},[.E_COLLECT_STARTED_FAILED],[])
  else if env.allInOne then (owner,[.E_COLLECT_STARTED_SUCCESS],[])
  else if env.beginCollector != ResultCode.SUCCESS then
    ({owner with executorResultCode:=env.beginCollector},[.E_COLLECT_STARTED_FAILED],[.beginCollector env.beginCollector])
  else (owner,[.E_COLLECT_STARTED_SUCCESS],[.beginCollector env.beginCollector,.notifyCollectorReady])

def processEndCollector : Action := fun env owner =>
  if !env.collectorAlive || !env.verifierAlive then
    ({owner with fwkResultCode:=some ResultCode.GENERAL_ERROR},[.E_COLLECT_STOPPED_FAILED],[])
  else if env.allInOne then (owner,[.E_COLLECT_STOPPED_SUCCESS],[])
  else if env.endCollector != ResultCode.SUCCESS then
    ({owner with executorResultCode:=env.endCollector},[.E_COLLECT_STOPPED_FAILED],[.endCollector env.endCollector])
  else (owner,[.E_COLLECT_STOPPED_SUCCESS],[.endCollector env.endCollector])

def processEndVerifier : Action := fun env owner =>
  if !env.verifierAlive then
    ({owner with fwkResultCode:=some ResultCode.GENERAL_ERROR},[.E_VERIFY_STOPPED_FAILED],[])
  else if env.endVerifier != ResultCode.SUCCESS then
    ({owner with executorResultCode:=env.endVerifier},[.E_VERIFY_STOPPED_FAILED],[.endVerifier env.endVerifier])
  else (owner,[.E_VERIFY_STOPPED_SUCCESS],[.endVerifier env.endVerifier])

def onScheduleProcessing : Action := fun _ owner => (owner,[],if owner.callback then [.onScheduleStarted] else [])

def finalCode (owner : Owner) : ResultCode := owner.fwkResultCode.getD owner.executorResultCode

def onScheduleFinished : Action := fun _ owner =>
  if !owner.callback then ({owner with timer:=false},[],[])
  else ({owner with timer:=false,callback:=false},[],[.onScheduleStoped (finalCode owner) owner.scheduleResult])

def transitionMap : State → Event → Option (State × Action)
  | .S_INIT,.E_START_AUTH => some (.S_VERIFY_STARING,processBeginVerifier)
  | .S_VERIFY_STARING,.E_VERIFY_STARTED_SUCCESS => some (.S_COLLECT_STARING,processBeginCollector)
  | .S_VERIFY_STARING,.E_VERIFY_STARTED_FAILED => some (.S_END,FiniteStateMachineImpl.noAction)
  | .S_VERIFY_STARING,.E_SCHEDULE_RESULT_RECEIVED => some (.S_END,FiniteStateMachineImpl.noAction)
  | .S_VERIFY_STARING,.E_STOP_AUTH => some (.S_VERIFY_STOPPING,processEndVerifier)
  | .S_VERIFY_STARING,.E_TIME_OUT => some (.S_VERIFY_STOPPING,processEndVerifier)
  | .S_COLLECT_STARING,.E_COLLECT_STARTED_SUCCESS => some (.S_AUTH_PROCESSING,FiniteStateMachineImpl.noAction)
  | .S_COLLECT_STARING,.E_SCHEDULE_RESULT_RECEIVED => some (.S_END,FiniteStateMachineImpl.noAction)
  | .S_COLLECT_STARING,.E_STOP_AUTH => some (.S_COLLECT_STOPPING,processEndCollector)
  | .S_AUTH_PROCESSING,.E_SCHEDULE_RESULT_RECEIVED => some (.S_END,FiniteStateMachineImpl.noAction)
  | .S_AUTH_PROCESSING,.E_STOP_AUTH => some (.S_COLLECT_STOPPING,processEndCollector)
  | .S_AUTH_PROCESSING,.E_TIME_OUT => some (.S_COLLECT_STOPPING,processEndCollector)
  | .S_COLLECT_STOPPING,.E_SCHEDULE_RESULT_RECEIVED => some (.S_END,FiniteStateMachineImpl.noAction)
  | .S_COLLECT_STOPPING,.E_COLLECT_STOPPED_SUCCESS => some (.S_VERIFY_STOPPING,processEndVerifier)
  | .S_COLLECT_STOPPING,.E_COLLECT_STOPPED_FAILED => some (.S_VERIFY_STOPPING,processEndVerifier)
  | .S_COLLECT_STOPPING,.E_TIME_OUT => some (.S_VERIFY_STOPPING,processEndVerifier)
  | .S_VERIFY_STOPPING,.E_SCHEDULE_RESULT_RECEIVED => some (.S_END,FiniteStateMachineImpl.noAction)
  | .S_VERIFY_STOPPING,.E_VERIFY_STOPPED_SUCCESS => some (.S_END,FiniteStateMachineImpl.noAction)
  | .S_VERIFY_STOPPING,.E_VERIFY_STOPPED_FAILED => some (.S_END,FiniteStateMachineImpl.noAction)
  | .S_VERIFY_STOPPING,.E_TIME_OUT => some (.S_END,FiniteStateMachineImpl.noAction)
  | _,_ => none

def enterMap : State → Action
  | .S_AUTH_PROCESSING => onScheduleProcessing
  | .S_END => onScheduleFinished
  | _ => FiniteStateMachineImpl.noAction

def table : FsmTable Env Owner State Event Effect := ⟨transitionMap,enterMap⟩

end ScheduleNode

abbrev ScheduleNodeImpl := FiniteStateMachineImpl ScheduleNode.Owner ScheduleNode.State ScheduleNode.Event

namespace ScheduleNodeImpl
open ScheduleNode

def create (expires : Bool) : ScheduleNodeImpl :=
  ⟨.S_INIT,[],⟨expires,true,false,none,ResultCode.GENERAL_ERROR,none⟩⟩

def startSchedule (node : ScheduleNodeImpl) : ScheduleNodeImpl :=
  let node := node.schedule .E_START_AUTH
  {node with owner.timer:=node.owner.expires || node.owner.timer}

def stopSchedule (node : ScheduleNodeImpl) (errorCode : ResultCode) : ScheduleNodeImpl :=
  {node with owner.fwkResultCode:=some errorCode}.schedule .E_STOP_AUTH

def continueSchedule (node : ScheduleNodeImpl) (resultCode : ResultCode) (finalResult : Option Attributes) :
    ScheduleNodeImpl :=
  {node with owner.executorResultCode:=resultCode,owner.scheduleResult:=finalResult}.schedule .E_SCHEDULE_RESULT_RECEIVED

def timeOut (node : ScheduleNodeImpl) : ScheduleNodeImpl :=
  if !node.owner.timer then node
  else {node with owner.timer:=false,owner.fwkResultCode:=some ResultCode.TIMEOUT}.schedule .E_TIME_OUT

inductive Input where
  | startSchedule
  | stopSchedule (errorCode : ResultCode)
  | continueSchedule (resultCode : ResultCode) (finalResult : Option Attributes)
  | timeOut
  | scheduleInner (env : Env)

def step (node : ScheduleNodeImpl) : Input → ScheduleNodeImpl × List Effect
  | .startSchedule => (node.startSchedule,[])
  | .stopSchedule errorCode => (node.stopSchedule errorCode,[])
  | .continueSchedule resultCode finalResult => (node.continueSchedule resultCode finalResult,[])
  | .timeOut => (node.timeOut,[])
  | .scheduleInner env => FiniteStateMachineImpl.scheduleInner table env node

-- Handling the next event ends the schedule and tells the callback.
def finishing (node : ScheduleNodeImpl) : Bool :=
  node.owner.callback && node.currentState != .S_END &&
    node.pendingEvents.head?.any fun event => (transitionMap node.currentState event).any (·.1 == .S_END)

end ScheduleNodeImpl

namespace ScheduleNode

def Effect.isStoped : Effect → Bool
  | .onScheduleStoped _ _ => true
  | _ => false

theorem action_silent (found : transitionMap state event = some (next,action)) (env : Env) (owner : Owner) :
    ∀ effect ∈ (action env owner).2.2, effect.isStoped = false := by
  have verifier : ∀ effect ∈ (processEndVerifier env owner).2.2, effect.isStoped = false := by
    unfold processEndVerifier
    split
    · simp
    · split <;> simp [Effect.isStoped]
  have collector : ∀ effect ∈ (processEndCollector env owner).2.2, effect.isStoped = false := by
    unfold processEndCollector
    split
    · simp
    · split
      · simp
      · split <;> simp [Effect.isStoped]
  have beginVerifier : ∀ effect ∈ (processBeginVerifier env owner).2.2, effect.isStoped = false := by
    unfold processBeginVerifier
    split
    · simp
    · split <;> simp [Effect.isStoped]
  have beginCollector : ∀ effect ∈ (processBeginCollector env owner).2.2, effect.isStoped = false := by
    unfold processBeginCollector
    split
    · simp
    · split
      · simp
      · split <;> simp [Effect.isStoped]
  have idle : ∀ effect ∈ ((FiniteStateMachineImpl.noAction : Action) env owner).2.2, effect.isStoped = false := by
    simp [FiniteStateMachineImpl.noAction]
  cases state <;> cases event <;> simp only [transitionMap,Option.some.injEq,Prod.mk.injEq,reduceCtorEq] at found <;>
    obtain ⟨_,rfl⟩ := found <;> assumption

theorem ending_action (found : transitionMap state event = some (.S_END,action)) :
    action = FiniteStateMachineImpl.noAction := by
  cases state <;> cases event <;> simp [transitionMap] at found <;> exact found.symm

theorem enter_silent (other : state ≠ .S_END) (env : Env) (owner : Owner) :
    ∀ effect ∈ (enterMap state env owner).2.2, effect.isStoped = false := by
  cases state with
  | S_END => exact absurd rfl other
  | S_AUTH_PROCESSING =>
    simp only [enterMap,onScheduleProcessing]
    split <;> simp [Effect.isStoped]
  | S_INIT | S_VERIFY_STARING | S_COLLECT_STARING | S_COLLECT_STOPPING | S_VERIFY_STOPPING =>
    simp [enterMap,FiniteStateMachineImpl.noAction]

end ScheduleNode

namespace ScheduleNodeImpl
open ScheduleNode FiniteStateMachineImpl

theorem scheduleInner_finishing (node : ScheduleNodeImpl) (env : Env) (ends : finishing node = true) :
    (FiniteStateMachineImpl.scheduleInner table env node).2 =
      [.onScheduleStoped (finalCode node.owner) node.owner.scheduleResult] := by
  simp only [finishing,Bool.and_eq_true,bne_iff_ne,ne_eq,Option.any_eq_true,beq_iff_eq] at ends
  obtain ⟨⟨callback,running⟩,event,pending,⟨next,action⟩,found,target⟩ := ends
  obtain ⟨rest,pending⟩ := List.head?_eq_some_iff.mp pending
  dsimp only at target
  subst target
  have quiet := ending_action found
  subst quiet
  have entered : enterMap .S_END = onScheduleFinished := rfl
  rw [scheduleInner_taken table env node pending found]
  simp [FiniteStateMachineImpl.enter,noAction,table,running,entered,onScheduleFinished,callback]

theorem scheduleInner_silent (node : ScheduleNodeImpl) (env : Env) (goes_on : finishing node = false) :
    ∀ effect ∈ (FiniteStateMachineImpl.scheduleInner table env node).2, effect.isStoped = false := by
  cases pending : node.pendingEvents with
  | nil => simp [scheduleInner_idle table env node pending]
  | cons event rest =>
    cases found : transitionMap node.currentState event with
    | none => simp [scheduleInner_dropped table env node pending found]
    | some target =>
      obtain ⟨next,action⟩ := target
      rw [scheduleInner_taken table env node pending found]
      intro effect member
      cases List.mem_append.mp member with
      | inl acted => exact action_silent found _ _ effect acted
      | inr entered =>
        unfold FiniteStateMachineImpl.enter at entered
        dsimp only at entered
        split at entered
        · cases entered
        · rename_i moved
          by_cases last : next = .S_END
          · subst last
            have quiet := ending_action found
            subst quiet
            have silent : node.owner.callback = false := by
              simpa [finishing,pending,found,moved] using goes_on
            simp [table,enterMap,onScheduleFinished,noAction,silent] at entered
          · exact enter_silent last _ _ effect entered

end ScheduleNodeImpl
end UserAuth
