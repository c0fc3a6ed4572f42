import Mathlib.Data.Finset.Erase
import Mathlib.Data.Finset.Insert
import Mathlib.Logic.Function.Basic
import UserAuth.Common.TypedValue
import UserAuth.Lib.History
import UserAuth.Lib.Mealy

namespace UserAuth

namespace Attributes
def ATTR_END_AFTER_FIRST_FAIL : AttributeKey := 100038
def ATTR_ACCESS_TOKEN_ID : AttributeKey := 100048
def ATTR_AUTH_INTENTION : AttributeKey := 100086
def ATTR_ADDITIONAL_INFO : AttributeKey := 100094
def ATTR_AUTH_SCENE : AttributeKey := 100095
def ATTR_WIDGET_TITLE : AttributeKey := 100096
end Attributes

def AUTH_SCENE_DEFAULT : Int32 := 0

inductive ScheduleCommand where
  | enroll | auth | collect | identify | abandon
  deriving DecidableEq

-- The commands as they are built: their attributes, if those could be allocated, and
-- whether there was a messenger then. A CustomCommand is built without one.
inductive AsyncCommand where
  | schedule (type : ScheduleCommand) (scheduleId : UInt64) (attributes : Option Attributes) (executorMessenger : Bool)
  | custom (attributes : Option Attributes)

inductive HdiRequest where
  | enroll (tokenId : UInt32) (extraInfo : Bytes) (userId : Int32) (additionalInfo : Bytes)
  | authenticate (tokenId : UInt32) (templateIdList : List UInt64) (extraInfo : Bytes) (endAfterFirstFail : Bool)
    (authIntent userId authScene : Int32) (title : Bytes)
  | collect (collectorTokenId : UInt32) (extraInfo : Bytes)
  | identify (tokenId : UInt32) (extraInfo : Bytes)
  | abandon (tokenId : UInt32) (userId : Int32) (templateId : UInt64) (extraInfo : Bytes)
  | sendCommand (commandId : UInt32) (extraInfo : Bytes)

namespace AsyncCommand
open Attributes

def attributes : AsyncCommand → Option Attributes
  | .schedule _ _ attributes _ | .custom attributes => attributes

def executorMessenger : AsyncCommand → Bool
  | .schedule _ _ _ executorMessenger => executorMessenger
  | .custom _ => false

-- What SendRequest reads for the driver.
def request (attributes : Attributes) : ScheduleCommand → Option HdiRequest
  | .enroll => do
    let tokenId ← attributes.getUint32Value ATTR_ACCESS_TOKEN_ID
    let extraInfo ← attributes.getUint8ArrayValue ATTR_EXTRA_INFO
    let userId ← attributes.getInt32Value ATTR_USER_ID
    return .enroll tokenId extraInfo userId ((attributes.getStringValue ATTR_ADDITIONAL_INFO).getD [])
  | .auth => do
    let templateIdList ← attributes.getUint64ArrayValue ATTR_TEMPLATE_ID_LIST
    let tokenId ← attributes.getUint32Value ATTR_ACCESS_TOKEN_ID
    let endAfterFirstFail ← attributes.getBoolValue ATTR_END_AFTER_FIRST_FAIL
    let extraInfo ← attributes.getUint8ArrayValue ATTR_EXTRA_INFO
    let authIntent ← attributes.getInt32Value ATTR_AUTH_INTENTION
    let userId ← attributes.getInt32Value ATTR_USER_ID
    let authScene := (attributes.getInt32Value ATTR_AUTH_SCENE).getD AUTH_SCENE_DEFAULT
    let title := (attributes.getStringValue ATTR_WIDGET_TITLE).getD []
    return .authenticate tokenId templateIdList extraInfo endAfterFirstFail authIntent userId authScene title
  | .collect => do
    let collectorTokenId ← attributes.getUint32Value ATTR_COLLECTOR_TOKEN_ID
    let extraInfo ← attributes.getUint8ArrayValue ATTR_EXTRA_INFO
    return .collect collectorTokenId extraInfo
  | .identify => do
    let tokenId ← attributes.getUint32Value ATTR_ACCESS_TOKEN_ID
    let extraInfo ← attributes.getUint8ArrayValue ATTR_EXTRA_INFO
    return .identify tokenId extraInfo
  | .abandon => do
    let tokenId ← attributes.getUint32Value ATTR_ACCESS_TOKEN_ID
    let extraInfo ← attributes.getUint8ArrayValue ATTR_EXTRA_INFO
    let userId ← attributes.getInt32Value ATTR_USER_ID
    let templateIds ← attributes.getUint64ArrayValue ATTR_TEMPLATE_ID_LIST
    let templateId ← templateIds.head?
    return .abandon tokenId userId templateId extraInfo

def hdiRequest : AsyncCommand → Option HdiRequest
  | .schedule type _ attributes _ => attributes.bind fun attributes => request attributes type
  | .custom attributes => do
    let attributes ← attributes
    let commandId ← attributes.getUint32Value ATTR_PROPERTY_MODE
    let extraInfo ← attributes.getUint8ArrayValue ATTR_EXTRA_INFO
    return .sendCommand commandId extraInfo

-- The attributes that go with Finish.
def finalResult (allocated : Bool) (result : ResultCode) (extraInfo : Bytes) : Option Attributes :=
  if !allocated then none
  else (empty.set (setUint32Value ATTR_RESULT_CODE result.toUInt32)).bind (·.set (setUint8ArrayValue ATTR_RESULT extraInfo))

end AsyncCommand

-- Where the StartProcess call of a command is. A CustomCommand that the driver
-- refuses reports that to itself before its EndProcess.
inductive StartPhase where
  | idle
  | added
  | fetched
  | called
  | reporting (ret : ResultCode)
  | reported (ret : ResultCode)
  | failing (ret : ResultCode)
  | returned (ret : ResultCode)
  deriving DecidableEq

inductive ResultCaller where
  | driver
  | disconnect
  | startProcess
  deriving DecidableEq

structure CommandState where
  phase : StartPhase := .idle
  -- The request has reached the driver.
  reached : Bool := false
  isFinished : Bool := false
  -- Whether MessengerFinish has reset the messenger.
  messengerReset : Bool := false
  -- Who holds the mutex in OnResult, with EndProcess still to come.
  ending : Option ResultCaller := none
  -- A result of the driver has been processed.
  answered : Bool := false

-- The walk of RespondCallbackOnDisconnect has the rest of its copy to go through,
-- and may be in the OnResult of one command.
inductive DisconnectPhase where
  | before
  | cleared
  | walking (rest : Finset Nat) (current : Option Nat)
  | done
  deriving DecidableEq

structure CommandExecutor where
  commands : Nat → CommandState := fun _ => {}
  command2Respond : Finset Nat := ∅
  executorHdi : Bool := true
  disconnect : DisconnectPhase := .before
  -- StartProcess calls, which keep the executor from its release.
  starting : Nat := 0
  released : Bool := false

inductive CommandInput where
  | startProcess (command : Nat)
  | getExecutorHdi (command : Nat)
  | sendRequest (command : Nat)
  -- The driver's answer to the request.
  | answer (command : Nat) (ret : ResultCode)
  | report (command : Nat)
  | endStart (command : Nat)
  -- The driver's result.
  | onResult (command : Nat) (result : ResultCode) (extraInfo : Bytes) (allocated : Bool)
  | endProcess (command : Nat)
  | onHdiDisconnect
  | respondCallbackOnDisconnect
  | notify (command : Nat) (allocated : Bool)
  | endDisconnect
  | release

inductive CommandEvent where
  | requested (command : Nat) (request : HdiRequest)
  | finish (command : Nat) (scheduleId : UInt64) (resultCode : ResultCode) (finalResult : Attributes)
  | setResult (command : Nat) (result : ResultCode)
  | returned (command : Nat) (ret : ResultCode)

namespace CommandExecutor
open AsyncCommand

def onCommand (s : CommandExecutor) (command : Nat) (f : CommandState → CommandState) : CommandExecutor :=
  {s with commands:=Function.update s.commands command (f (s.commands command))}

def inPhase (s : CommandExecutor) (command : Nat) (phase : StartPhase) : CommandExecutor :=
  s.onCommand command ({· with phase})

def getExecutorHdi (s : CommandExecutor) : Bool := !s.released && s.executorHdi

def removeCommand (s : CommandExecutor) (command : Nat) : CommandExecutor :=
  if s.released then s else {s with command2Respond:=s.command2Respond.erase command}

-- A command is started once, right after it is built.
def startProcess (s : CommandExecutor) (command : Nat) : CommandExecutor × List CommandEvent :=
  if (s.commands command).phase ≠ .idle then (s,[])
  else if s.released then
    (s.inPhase command (.returned ResultCode.GENERAL_ERROR),[.returned command ResultCode.GENERAL_ERROR])
  else ({s.inPhase command .added with
    command2Respond:=insert command s.command2Respond,starting:=s.starting + 1},[])

section Commands
variable (commands : Nat → AsyncCommand)

def fetchExecutorHdi (s : CommandExecutor) (command : Nat) : CommandExecutor :=
  if (s.commands command).phase ≠ .added then s
  else if (commands command).attributes.isNone then s.inPhase command (.failing ResultCode.GENERAL_ERROR)
  else if !s.getExecutorHdi then s.inPhase command (.failing ResultCode.GENERAL_ERROR)
  else s.inPhase command .fetched

def sendRequest (s : CommandExecutor) (command : Nat) : CommandExecutor × List CommandEvent :=
  if (s.commands command).phase ≠ .fetched then (s,[])
  else match (commands command).hdiRequest with
    | none => (s.inPhase command (.failing ResultCode.GENERAL_ERROR),[])
    | some request => (s.onCommand command ({· with phase:=.called,reached:=true}),[.requested command request])

def answer (s : CommandExecutor) (command : Nat) (ret : ResultCode) : CommandExecutor × List CommandEvent :=
  if (s.commands command).phase ≠ .called then (s,[])
  else if ret = ResultCode.SUCCESS then
    ({s.inPhase command (.returned ResultCode.SUCCESS) with starting:=s.starting - 1},
      [.returned command ResultCode.SUCCESS])
  else match commands command with
    | .schedule .. => (s.inPhase command (.failing ret),[])
    | .custom _ => (s.inPhase command (.reporting ret),[])

def onResultInner (reset : Bool) (command : Nat) (result : ResultCode) (extraInfo : Bytes) (allocated : Bool) :
    Bool × List CommandEvent :=
  match commands command with
  | .custom _ => (reset,[.setResult command result])
  | .schedule _ scheduleId _ executorMessenger =>
    match finalResult allocated result extraInfo with
    | none => (reset,[])
    | some final =>
      if !executorMessenger || reset then (reset,[]) else (true,[.finish command scheduleId result final])

-- OnResult has the mutex and finishes a command that is not finished yet.
def finish (s : CommandExecutor) (caller : ResultCaller) (command : Nat) (result : ResultCode) (extraInfo : Bytes)
    (allocated : Bool) : CommandExecutor × List CommandEvent :=
  let inner := onResultInner commands (s.commands command).messengerReset command result extraInfo allocated
  (s.onCommand command ({· with isFinished:=true,messengerReset:=inner.1,ending:=some caller}),inner.2)

def report (s : CommandExecutor) (command : Nat) : CommandExecutor × List CommandEvent :=
  match (s.commands command).phase,(s.commands command).ending with
  | .reporting ret,none =>
    if (s.commands command).isFinished then (s.inPhase command (.failing ret),[])
    else
      let finished := s.finish commands .startProcess command ret [] true
      (finished.1.inPhase command (.reported ret),finished.2)
  | _,_ => (s,[])

-- The driver has a result for a request that reached it.
def onResult (s : CommandExecutor) (command : Nat) (result : ResultCode) (extraInfo : Bytes) (allocated : Bool) :
    CommandExecutor × List CommandEvent :=
  if !(s.commands command).reached || (s.commands command).ending.isSome then (s,[])
  else if (s.commands command).isFinished then (s.onCommand command ({· with answered:=true}),[])
  else s.finish commands .driver command result extraInfo allocated

def notify (s : CommandExecutor) (command : Nat) (allocated : Bool) : CommandExecutor × List CommandEvent :=
  match s.disconnect,(s.commands command).ending with
  | .walking rest none,none =>
    if command ∉ rest then (s,[])
    else if (s.commands command).isFinished then ({s with disconnect:=.walking (rest.erase command) none},[])
    else
      let finished := s.finish commands .disconnect command ResultCode.GENERAL_ERROR [] allocated
      ({finished.1 with disconnect:=.walking (rest.erase command) (some command)},finished.2)
  | _,_ => (s,[])

end Commands

-- The rest of OnResult, and what its caller does next.
def endProcess (s : CommandExecutor) (command : Nat) : CommandExecutor :=
  let removed := s.removeCommand command
  match (s.commands command).ending with
  | none => s
  | some .driver => removed.onCommand command ({· with ending:=none,answered:=true})
  | some .disconnect =>
    let freed := removed.onCommand command ({· with ending:=none})
    match s.disconnect with
    | .walking rest _ => {freed with disconnect:=.walking rest none}
    | _ => freed
  | some .startProcess =>
    removed.onCommand command fun state => {state with
      ending:=none,
      phase:=match state.phase with | .reported ret => .failing ret | phase => phase}

-- The EndProcess of a StartProcess call that fails, and its return.
def endStart (s : CommandExecutor) (command : Nat) : CommandExecutor × List CommandEvent :=
  match (s.commands command).phase with
  | .failing ret =>
    ({(s.removeCommand command).inPhase command (.returned ret) with starting:=s.starting - 1},[.returned command ret])
  | _ => (s,[])

def onHdiDisconnect (s : CommandExecutor) : CommandExecutor :=
  if s.released then s
  else match s.disconnect with
    | .before => {s with executorHdi:=false,disconnect:=.cleared}
    | _ => s

def respondCallbackOnDisconnect (s : CommandExecutor) : CommandExecutor :=
  match s.disconnect with
  | .cleared => {s with disconnect:=.walking s.command2Respond none}
  | _ => s

def endDisconnect (s : CommandExecutor) : CommandExecutor :=
  match s.disconnect with
  | .walking rest none => if rest = ∅ then {s with disconnect:=.done} else s
  | _ => s

def release (s : CommandExecutor) : CommandExecutor :=
  if s.starting = 0 ∧ (s.disconnect = .before ∨ s.disconnect = .done) then {s with released:=true,command2Respond:=∅}
  else s

def step (commands : Nat → AsyncCommand) (s : CommandExecutor) : CommandInput → CommandExecutor × List CommandEvent
  | .startProcess command => s.startProcess command
  | .getExecutorHdi command => (s.fetchExecutorHdi commands command,[])
  | .sendRequest command => s.sendRequest commands command
  | .answer command ret => s.answer commands command ret
  | .report command => s.report commands command
  | .endStart command => s.endStart command
  | .onResult command result extraInfo allocated => s.onResult commands command result extraInfo allocated
  | .endProcess command => (s.endProcess command,[])
  | .onHdiDisconnect => (s.onHdiDisconnect,[])
  | .respondCallbackOnDisconnect => (s.respondCallbackOnDisconnect,[])
  | .notify command allocated => s.notify commands command allocated
  | .endDisconnect => (s.endDisconnect,[])
  | .release => (s.release,[])

def machine (commands : Nat → AsyncCommand) : Mealy CommandExecutor CommandInput CommandEvent := ⟨step commands⟩

def isFinish (command : Nat) : CommandEvent → Bool
  | .finish finished .. => finished = command
  | _ => false

-- The result's payload is within the limits of the attributes.
def WithinLimits : CommandInput → Prop
  | .onResult _ _ extraInfo _ => extraInfo.length ≤ Attributes.MAX_ATTR_LENGTH
  | _ => True

-- The attributes of the command's result can be allocated.
def Allocated (command : Nat) : CommandInput → Prop
  | .onResult ended _ _ allocated | .notify ended allocated => ended = command → allocated = true
  | _ => True

-- The result of a command that has been started is in, from the driver or the disconnect.
def Settled (s : CommandExecutor) (command : Nat) : Prop :=
  (s.commands command).phase = .returned ResultCode.SUCCESS ∧ ((s.commands command).answered = true ∨ s.disconnect = .done)

-- The command has its result, or was not started after all.
def Ended (s : CommandExecutor) (command : Nat) : Prop :=
  (s.commands command).isFinished = true ∨ ∃ ret ≠ ResultCode.SUCCESS, (s.commands command).phase = .returned ret

-- `finishing` are the commands that are to send a Finish with their result.
structure FinishedOnce (finishing : Nat → Prop) (s : CommandExecutor) (h : List CommandEvent) : Prop where
  once : ∀ command, h.countP (isFinish command) ≤ 1
  sent : ∀ command, finishing command → (s.commands command).isFinished = true → h.countP (isFinish command) = 1
  settled : ∀ command, Settled s command → (s.commands command).isFinished = true ∧ command ∉ s.command2Respond
  -- The walk has every command before it whose request is with the driver and that
  -- has not ended, and leaves none behind.
  notified : ∀ rest current, s.disconnect = .walking rest current → ∀ command,
    (s.commands command).reached = true → command ∈ rest ∨ current = some command ∨ Ended s command
  missed : s.disconnect = .done → ∀ command, (s.commands command).reached = true → Ended s command

end CommandExecutor
end UserAuth
