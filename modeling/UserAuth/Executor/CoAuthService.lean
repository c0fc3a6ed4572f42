import Mathlib.Logic.Function.Basic
import UserAuth.Common.Defines
import UserAuth.Executor.ResourceNodePool
import UserAuth.Lib.Mealy

namespace UserAuth
open Std

def INVALID_EXECUTOR_INDEX : UInt64 := 0

-- A node is told from every other by its reference. Its callback lives in the
-- process that registered it.
structure ResourceNode where
  ref : Nat
  process : Nat
  executorIndex : UInt64
  deriving DecidableEq,Repr

-- Of the driver framework in a client process.
structure Executor where
  process : Nat
  executorIndex : Option UInt64 := none

-- `tasks` were posted by registrations, `deathRecipients` set by such a task.
structure CoAuthService where
  isReady : Bool := false
  accessTokenReady : Bool := false
  pool : ResourceNodePool ResourceNode := ∅
  tasks : List ResourceNode := []
  deathRecipients : List ResourceNode := []
  dead : Nat → Bool := fun _ => false
  executors : Nat → Executor
  nextRef : Nat := 0

-- What came about, as the clients can know it.
inductive Registration where
  | registered (node : ResourceNode)
  | unregistered (process : Nat) (executorIndex : UInt64)
  | died (process : Nat)
  | cleared
  deriving DecidableEq,Repr

namespace CoAuthService
variable (s : CoAuthService)

def isFwkReady : Bool := s.isReady && s.accessTokenReady

-- The pool alone keeps a node, so a weak reference can be locked while it does.
def locks (node : ResourceNode) : Bool := s.pool.select node.executorIndex == some node

-- `answer` is the index that the engine adds the executor under.
def executorRegister (process : Nat) (permission : Bool) (answer : Option UInt64) :
    CoAuthService × (ResultCode × UInt64) × List Registration :=
  if !s.isFwkReady then (s,(ResultCode.GENERAL_ERROR,INVALID_EXECUTOR_INDEX),[])
  else if !permission then (s,(ResultCode.CHECK_PERMISSION_FAILED,INVALID_EXECUTOR_INDEX),[])
  else
    match answer with
    | none => (s,(ResultCode.GENERAL_ERROR,INVALID_EXECUTOR_INDEX),[])
    | some executorIndex =>
      let resourceNode : ResourceNode := ⟨s.nextRef,process,executorIndex⟩
      match s.pool.insertNode executorIndex resourceNode with
      | none => (s,(ResultCode.GENERAL_ERROR,INVALID_EXECUTOR_INDEX),[])
      | some (pool,_) =>
        ({s with pool,tasks:=s.tasks ++ [resourceNode],nextRef:=s.nextRef + 1},(ResultCode.SUCCESS,executorIndex),
          [.registered resourceNode])

def executorUnregister (process : Nat) (permission : Bool) (executorIndex : UInt64) :
    CoAuthService × ResultCode × List Registration :=
  if !s.isFwkReady then (s,ResultCode.SUCCESS,[])
  else if !permission then (s,ResultCode.CHECK_PERMISSION_FAILED,[])
  else
    match s.pool.delete executorIndex with
    | none => (s,ResultCode.GENERAL_ERROR,[])
    | some (pool,_) => ({s with pool},ResultCode.SUCCESS,[.unregistered process executorIndex])

-- ProcExecutorRegisterSuccess. A recipient cannot be added to a dead callback.
def runTask : CoAuthService × List Registration :=
  match s.tasks with
  | [] => (s,[])
  | node :: tasks =>
    let s := {s with tasks}
    if s.locks node && !s.dead node.process then ({s with deathRecipients:=s.deathRecipients ++ [node]},[]) else (s,[])

-- The death recipient of `node`, which knows no more than its index.
def onRemoteDied (node : ResourceNode) : CoAuthService × List Registration :=
  if !s.dead node.process || !s.deathRecipients.contains node then (s,[])
  else
    let s := {s with deathRecipients:=s.deathRecipients.erase node}
    match s.pool.delete node.executorIndex with
    | none => (s,[])
    | some (pool,_) => ({s with pool},[])

def onEngineUnavailable : CoAuthService × List Registration :=
  if s.isReady then ({s with pool:=s.pool.deleteAll.1,isReady:=false},[.cleared]) else (s,[])

-- The service's process ends and starts anew. The clients keep what they have.
def restart : CoAuthService × List Registration :=
  ({s with isReady:=false,accessTokenReady:=false,pool:=∅,tasks:=[],deathRecipients:=[]},[.cleared])

def putExecutorIndex (executor : Nat) (executorIndex : Option UInt64) : CoAuthService :=
  {s with executors:=Function.update s.executors executor {s.executors executor with executorIndex}}

def unregisterExecutorCallback (executor : Nat) (permission : Bool) : CoAuthService × List Registration :=
  match (s.executors executor).executorIndex with
  | none => (s,[])
  | some executorIndex =>
    let unregistered :=
      (s.putExecutorIndex executor none).executorUnregister (s.executors executor).process permission executorIndex
    (unregistered.1,unregistered.2.2)

-- An executor that has an index tries to unregister it before all else. The
-- client's Register answers with no index where the service fails.
def registerExecutorCallback (executor : Nat) (permission : Bool) (answer : Option UInt64) :
    CoAuthService × List Registration :=
  let process := (s.executors executor).process
  Mealy.andThen (s.unregisterExecutorCallback executor permission) fun s =>
    let registered := s.executorRegister process permission answer
    let executorIndex := if registered.2.1.1 != ResultCode.SUCCESS then INVALID_EXECUTOR_INDEX else registered.2.1.2
    if executorIndex = INVALID_EXECUTOR_INDEX then (registered.1,registered.2.2)
    else (registered.1.putExecutorIndex executor (some executorIndex),registered.2.2)

-- Any live client calls the service, and the driver framework's way is one of
-- them. `permission` is CheckPermission's answer.
inductive Input where
  | executorRegister (process : Nat) (permission : Bool) (answer : Option UInt64)
  | executorUnregister (process : Nat) (permission : Bool) (executorIndex : UInt64)
  | registerExecutorCallback (executor : Nat) (permission : Bool) (answer : Option UInt64)
  | unregisterExecutorCallback (executor : Nat) (permission : Bool)
  | runTask
  | die (process : Nat)
  | onRemoteDied (node : ResourceNode)
  | onEngineReady
  | onEngineUnavailable
  | setAccessTokenReady (isReady : Bool)
  | restart

def step (s : CoAuthService) (input : Input) : CoAuthService × List Registration :=
  match input with
  | .executorRegister process permission answer =>
    if s.dead process then (s,[])
    else
      let registered := s.executorRegister process permission answer
      (registered.1,registered.2.2)
  | .executorUnregister process permission executorIndex =>
    if s.dead process then (s,[])
    else
      let unregistered := s.executorUnregister process permission executorIndex
      (unregistered.1,unregistered.2.2)
  | .registerExecutorCallback executor permission answer =>
    if s.dead (s.executors executor).process then (s,[]) else s.registerExecutorCallback executor permission answer
  | .unregisterExecutorCallback executor permission =>
    if s.dead (s.executors executor).process then (s,[]) else s.unregisterExecutorCallback executor permission
  | .runTask => s.runTask
  | .die process => ({s with dead:=Function.update s.dead process true},[.died process])
  | .onRemoteDied node => s.onRemoteDied node
  | .onEngineReady => ({s with isReady:=true},[])
  | .onEngineUnavailable => s.onEngineUnavailable
  | .setAccessTokenReady isReady => ({s with accessTokenReady:=isReady},[])
  | .restart => s.restart

-- The drivers' executors, each in its own process.
def initial (process : Nat → Nat) : CoAuthService := {executors:=fun executor => ⟨process executor,none⟩}

end CoAuthService

def coAuthService : Mealy CoAuthService CoAuthService.Input Registration := ⟨CoAuthService.step⟩

end UserAuth
