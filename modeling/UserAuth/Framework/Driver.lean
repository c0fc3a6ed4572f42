import Mathlib.Data.List.Nodup
import UserAuth.Executor.CoAuthService
import UserAuth.Lib.Since
import UserAuth.Remote.RemoteMsgUtil

namespace UserAuth

def combineUint16ToUint32 (upper lower : UInt16) : UInt32 := (upper.toUInt32 <<< 16) ||| lower.toUInt32

-- An Executor as its driver has it. `ref` tells it from every other of the driver.
structure DriverExecutor where
  ref : Nat
  executorHdi : Bool := true
  executorCallback : Bool := false
  executorIndex : Option UInt64 := none

-- What a registration meets: GetExecutorInfo's answer, whether a callback can be
-- allocated, and the index that the client's Register returns.
structure RegisterAnswer where
  executorInfo : Option ExecutorInfo
  allocated : Bool
  executorIndex : UInt64

-- The marks `connected`, `ready` and `down` stand for the driver's own reports
-- of them; `register` for a call of Executor::Register, and `registered` for the
-- client's Register, with what GetExecutorInfo answered before.
inductive DriverEvent where
  | connected
  | ready
  | down
  | register (executor : Nat)
  | registered (executor : Nat) (answered executorInfo : ExecutorInfo) (executorIndex : UInt64)
  | unregistered (executor : Nat) (executorIndex : UInt64)
  | responded (executor : Nat)
  | hdiDisconnected
  | frameworkDown

namespace DriverExecutor

def unregisterExecutorCallback (executor : DriverExecutor) : DriverExecutor × List DriverEvent :=
  match executor.executorIndex with
  | none => (executor,[])
  | some executorIndex => ({executor with executorIndex:=none},[.unregistered executor.ref executorIndex])

-- An executor that has an index gives it back before it registers anew.
def registerExecutorCallback (executor : DriverExecutor) (hdiId : UInt16) (executorInfo : ExecutorInfo)
    (answer : RegisterAnswer) : DriverExecutor × List DriverEvent :=
  let combineExecutorId := combineUint16ToUint32 hdiId executorInfo.executorSensorHint.toUInt16
  let answered := executorInfo
  let executorInfo := {executorInfo with executorSensorHint:=combineExecutorId}
  if !executor.executorCallback && !answer.allocated then (executor,[])
  else
    Mealy.andThen {executor with executorCallback:=true}.unregisterExecutorCallback fun executor =>
      let registered := .registered executor.ref answered executorInfo answer.executorIndex
      if answer.executorIndex = INVALID_EXECUTOR_INDEX then (executor,[registered])
      else ({executor with executorIndex:=some answer.executorIndex},[registered])

def register (executor : DriverExecutor) (hdiId : UInt16) (answer : RegisterAnswer) :
    DriverExecutor × List DriverEvent :=
  Mealy.andThen (executor,[.register executor.ref]) fun executor =>
    if !executor.executorHdi then (executor,[])
    else
      match answer.executorInfo with
      | none => (executor,[])
      | some executorInfo => executor.registerExecutorCallback hdiId executorInfo answer

def onHdiDisconnect (executor : DriverExecutor) : DriverExecutor × List DriverEvent :=
  Mealy.andThen ({executor with executorHdi:=false},[.responded executor.ref]) unregisterExecutorCallback

end DriverExecutor

-- `checkFwkReadyTimer` is the timer of its FrameworkReadyListener.
structure Driver where
  hdiId : UInt16
  hdiConnected : Bool := false
  isFwkReady : Bool := false
  executorList : List DriverExecutor := []
  checkFwkReadyTimer : Bool := false
  nextRef : Nat := 0

-- `answers` says for each executor what its registration would meet.
inductive DriverInput where
  -- GetExecutorList's answer, by whether an entry gives an executor, and whether
  -- the wrapper of the client can be allocated.
  | onHdiConnect (executorHdiList : List Bool) (allocated : Bool) (answers : Nat → RegisterAnswer)
  | onHdiDisconnect
  | onFrameworkReady (answers : Nat → RegisterAnswer)
  | onFrameworkDown
  -- The retry timer, which looks at the ready parameter.
  | onTimer (isFwkReady : Bool) (answers : Nat → RegisterAnswer)

namespace Driver
variable (s : Driver)

def registerExecutors (answers : Nat → RegisterAnswer) : Driver × List DriverEvent :=
  let registered := s.executorList.map fun executor => executor.register s.hdiId (answers executor.ref)
  ({s with executorList:=registered.map (·.1)},registered.flatMap (·.2))

-- EnsureRegisterExecutors of the FrameworkReadyListener.
def ensureRegisterExecutors : Driver × List DriverEvent := ({s with checkFwkReadyTimer:=true},[])

-- Entries that give no executor are skipped, and yet the driver is connected.
def onHdiConnect (executorHdiList : List Bool) (allocated : Bool) (answers : Nat → RegisterAnswer) :
    Driver × List DriverEvent :=
  if s.hdiConnected then (s,[])
  else if executorHdiList.isEmpty then (s,[])
  else if !allocated then (s,[])
  else
    let executors := (List.range' s.nextRef (executorHdiList.count true)).map fun ref => {ref}
    let s := {s with
      hdiConnected:=true,executorList:=s.executorList ++ executors,nextRef:=s.nextRef + executorHdiList.count true}
    Mealy.andThen (s,[.connected]) fun s =>
      if s.isFwkReady then s.registerExecutors answers else s.ensureRegisterExecutors

def onHdiDisconnect : Driver × List DriverEvent :=
  let disconnected := s.executorList.map DriverExecutor.onHdiDisconnect
  ({s with hdiConnected:=false,executorList:=[]},disconnected.flatMap (·.2) ++ [.hdiDisconnected])

def onFrameworkReady (answers : Nat → RegisterAnswer) : Driver × List DriverEvent :=
  let s := {s with checkFwkReadyTimer:=false}
  if s.isFwkReady then (s,[])
  else
    Mealy.andThen ({s with isFwkReady:=true},[.ready]) fun s =>
      if !s.hdiConnected then (s,[]) else s.registerExecutors answers

def onFrameworkDown : Driver × List DriverEvent :=
  let s := {s with checkFwkReadyTimer:=false}
  if !s.isFwkReady then (s,[.down]) else ({s with isFwkReady:=false},[.down,.frameworkDown])

def onTimer (isFwkReady : Bool) (answers : Nat → RegisterAnswer) : Driver × List DriverEvent :=
  if s.checkFwkReadyTimer && isFwkReady then s.onFrameworkReady answers else (s,[])

def step (s : Driver) : DriverInput → Driver × List DriverEvent
  | .onHdiConnect executorHdiList allocated answers => s.onHdiConnect executorHdiList allocated answers
  | .onHdiDisconnect => s.onHdiDisconnect
  | .onFrameworkReady answers => s.onFrameworkReady answers
  | .onFrameworkDown => s.onFrameworkDown
  | .onTimer isFwkReady answers => s.onTimer isFwkReady answers

def machine : Mealy Driver DriverInput DriverEvent := ⟨step⟩

end Driver
end UserAuth
