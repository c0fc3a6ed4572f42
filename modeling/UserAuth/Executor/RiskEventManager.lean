import UserAuth.Executor.ResourceNodeUtils
import UserAuth.Lib.Mealy

namespace UserAuth
open Std

-- What waits for the handler's thread.
inductive RiskTask where
  | strongAuthChanged (userId : Int32)
  | screenLock
  -- ProcExecutorRegisterSuccess, with its weak reference.
  | registered (node : PooledExecutor)
  deriving DecidableEq

-- What the running task has still to do. The nodes of a type are looked for once
-- their attributes are set, and are held weakly.
inductive RiskWork where
  | syncRiskEvents
  | syncUser (userId : Int32)
  | handleStrongAuthEvent (userId : Int32)
  | setRiskEventProperty (userId : Int32) (authType : AuthType)
  | setProperty (node : PooledExecutor) (userId : Int32) (authType : AuthType) (templateIds : List UInt64)
  deriving DecidableEq

inductive RiskEvent where
  | locked
  | strong (userId : Int32)
  | pooled (node : PooledExecutor)
  -- SetAttributes fails on this answer of the engine, or sets what this one has found.
  | failed (userId : Int32) (authType : AuthType) (answer : EngineReply (List EngCredentialInfo))
  | found (userId : Int32) (authType : AuthType) (infos : List EngCredentialInfo)
  | set (node : PooledExecutor) (userId : Int32) (authType : AuthType) (templateIds : List UInt64) (connected : Bool)
      (call : Option DriverCall)

-- The lock service's state is beside this service's, with the notices that are
-- on their way. `listening` says whether the listener is known to the lock service.
structure RiskEventManager where
  pool : ExecutorPool := ∅
  callbacks : Callbacks
  nextRef : Nat := 0
  isScreenLocked : Bool := false
  securityEnhancement : Int32 → Bool := fun _ => false
  strongAuthListener : Bool := false
  listening : Bool := false
  subscriber : Bool := false
  authNotices : List Int32 := []
  lockNotices : Nat := 0
  syncStrongAuthStatus : Bool := false
  syncScreenlockStatus : Bool := false
  tasks : List RiskTask := []
  work : List RiskWork := []

inductive RiskInput where
  | executorRegister (executorIndex : UInt64) (authType : AuthType) (executorRole : ExecutorRole)
  | executorDelete (executorIndex : UInt64)
  | deleteAll
  | callback (ref : Nat) (callback : FrameworkExecutorCallback)
  | setScreenLock (isScreenLocked : Bool)
  | setStrongAuth (userId : Int32) (securityEnhancement : Bool)
  -- `available` is whether there is a ScreenLockManager.
  | registerStrongAuthListener (available : Bool)
  | syncStrongAuthStatusForAllAccounts (userIdList : List Int32)
  | unRegisterStrongAuthListener (available : Bool)
  | registerScreenLockedCallback (subscribed : Bool)
  | syncScreenlockStatus
  | unRegisterScreenLockedCallback
  -- A notice comes in. Any that is on its way may be the next.
  | onStrongAuthChanged (index : Nat)
  | onReceiveEvent (userId : Int32)
  -- Any task that waits may be the next. Its node lives while the pool has it or
  -- another keeps it.
  | runTask (index : Nat) (kept : Bool)
  | proceed (kept : Bool) (userIdList : List Int32) (answer : EngineReply (List EngCredentialInfo))

namespace RiskEventManager
variable (s : RiskEventManager)

def postTask (task : RiskTask) : RiskEventManager := {s with tasks:=s.tasks ++ [task]}

def executorRegister (executorIndex : UInt64) (authType : AuthType) (executorRole : ExecutorRole) :
    RiskEventManager × List RiskEvent :=
  let resourceNode : PooledExecutor := ⟨s.nextRef,executorIndex,authType,executorRole⟩
  match s.pool.insertNode executorIndex resourceNode with
  | none => (s,[])
  | some (pool,_) => ({s with pool,nextRef:=s.nextRef + 1}.postTask (.registered resourceNode),[.pooled resourceNode])

def executorDelete (executorIndex : UInt64) : RiskEventManager :=
  match s.pool.delete executorIndex with
  | none => s
  | some (pool,_) => {s with pool}

-- The lock service tells of every lock, and of strong authentication as it comes and goes.
def setScreenLock (isScreenLocked : Bool) : RiskEventManager × List RiskEvent :=
  if isScreenLocked then
    ({s with isScreenLocked,lockNotices:=if s.subscriber then s.lockNotices + 1 else s.lockNotices},[.locked])
  else ({s with isScreenLocked},[])

def setStrongAuth (userId : Int32) (securityEnhancement : Bool) : RiskEventManager × List RiskEvent :=
  ({s with
      securityEnhancement:=Function.update s.securityEnhancement userId securityEnhancement
      authNotices:=if s.listening then s.authNotices ++ [userId] else s.authNotices},
    if securityEnhancement then [.strong userId] else [])

-- The member is set even where there is nobody to register it with.
def registerStrongAuthListener (available : Bool) : RiskEventManager :=
  if s.strongAuthListener then s
  else if !available then {s with strongAuthListener:=true}
  else {s with strongAuthListener:=true,listening:=true,syncStrongAuthStatus:=true}

-- The listener is told of each account as if its status had changed.
def syncStrongAuthStatusForAllAccounts (userIdList : List Int32) : RiskEventManager :=
  if !s.syncStrongAuthStatus then s
  else {s with syncStrongAuthStatus:=false,tasks:=s.tasks ++ userIdList.map .strongAuthChanged}

def unRegisterStrongAuthListener (available : Bool) : RiskEventManager :=
  if s.syncStrongAuthStatus || !s.strongAuthListener then s
  else if !available then s
  else {s with strongAuthListener:=false,listening:=false}

def registerScreenLockedCallback (subscribed : Bool) : RiskEventManager :=
  if s.subscriber then s else if !subscribed then s else {s with subscriber:=true,syncScreenlockStatus:=true}

def runSyncScreenlockStatus : RiskEventManager :=
  if !s.syncScreenlockStatus then s
  else if !s.isScreenLocked then {s with syncScreenlockStatus:=false}
  else {s with syncScreenlockStatus:=false}.postTask .screenLock

def unRegisterScreenLockedCallback : RiskEventManager := if s.syncScreenlockStatus then s else {s with subscriber:=false}

def onStrongAuthChanged (index : Nat) : RiskEventManager :=
  match s.authNotices[index]? with
  | none => s
  | some userId => {s with authNotices:=s.authNotices.eraseIdx index}.postTask (.strongAuthChanged userId)

def onReceiveEvent (userId : Int32) : RiskEventManager :=
  if s.lockNotices = 0 then s
  else
    let s := {s with lockNotices:=s.lockNotices - 1}
    if userId = INVALID_USER_ID then s else s.postTask .screenLock

def runTask (index : Nat) (kept : Bool) : RiskEventManager :=
  if !s.work.isEmpty then s
  else
    match s.tasks[index]? with
    | none => s
    | some task =>
      let s := {s with tasks:=s.tasks.eraseIdx index}
      match task with
      | .strongAuthChanged userId =>
        if !s.securityEnhancement userId then s else {s with work:=[.handleStrongAuthEvent userId]}
      | .screenLock => {s with work:=[.syncRiskEvents]}
      | .registered node =>
        if s.pool.select node.executorIndex = some node ∨ kept then {s with work:=[.syncRiskEvents]} else s

def getResourceNodeByTypeAndRole (authType : AuthType) (executorRole : ExecutorRole) : List PooledExecutor :=
  (s.pool.toList.map (·.2.node)).filter fun node => node.authType = authType ∧ node.executorRole = executorRole

-- The attributes are set before the nodes are looked for.
def setRiskEventPropertyForAuthType (userId : Int32) (authType : AuthType)
    (answer : EngineReply (List EngCredentialInfo)) :
    List RiskWork × List RiskEvent :=
  match answer with
  | .refused code failed => ([],[.failed userId authType (.refused code failed)])
  | .answered infos =>
    let templateIds := infos.map (·.templateId)
    if (ExecutorProperty.riskEvent authType templateIds).properties.isNone then
      ([],[.failed userId authType (.answered infos)])
    else
      ((s.getResourceNodeByTypeAndRole authType ExecutorRole.ALL_IN_ONE).map fun node =>
        .setProperty node userId authType templateIds,[.found userId authType infos])

def proceed (kept : Bool) (userIdList : List Int32) (answer : EngineReply (List EngCredentialInfo)) :
    RiskEventManager × List RiskEvent :=
  match s.work with
  | [] => (s,[])
  | next :: work =>
    let s := {s with work}
    match next with
    | .syncRiskEvents => ({s with work:=userIdList.map .syncUser ++ work},[])
    | .syncUser userId =>
      if !s.securityEnhancement userId then (s,[]) else ({s with work:=.handleStrongAuthEvent userId :: work},[])
    | .handleStrongAuthEvent userId =>
      if !s.isScreenLocked then (s,[])
      else
        let set := [AuthType.FACE,AuthType.FINGERPRINT].map (RiskWork.setRiskEventProperty userId)
        ({s with work:=set ++ work},[])
    | .setRiskEventProperty userId authType =>
      let set := s.setRiskEventPropertyForAuthType userId authType answer
      ({s with work:=set.1 ++ work},set.2)
    | .setProperty node userId authType templateIds =>
      if s.pool.select node.executorIndex = some node ∨ kept then
        (s,[.set node userId authType templateIds (s.callbacks node.ref).hasHdi
          (node.setProperty s.callbacks (.riskEvent authType templateIds))])
      else (s,[])

def step (s : RiskEventManager) : RiskInput → RiskEventManager × List RiskEvent
  | .executorRegister executorIndex authType executorRole => s.executorRegister executorIndex authType executorRole
  | .executorDelete executorIndex => (s.executorDelete executorIndex,[])
  | .deleteAll => ({s with pool:=s.pool.deleteAll.1},[])
  | .callback ref callback => ({s with callbacks:=Function.update s.callbacks ref callback},[])
  | .setScreenLock isScreenLocked => s.setScreenLock isScreenLocked
  | .setStrongAuth userId securityEnhancement => s.setStrongAuth userId securityEnhancement
  | .registerStrongAuthListener available => (s.registerStrongAuthListener available,[])
  | .syncStrongAuthStatusForAllAccounts userIdList => (s.syncStrongAuthStatusForAllAccounts userIdList,[])
  | .unRegisterStrongAuthListener available => (s.unRegisterStrongAuthListener available,[])
  | .registerScreenLockedCallback subscribed => (s.registerScreenLockedCallback subscribed,[])
  | .syncScreenlockStatus => (s.runSyncScreenlockStatus,[])
  | .unRegisterScreenLockedCallback => (s.unRegisterScreenLockedCallback,[])
  | .onStrongAuthChanged index => (s.onStrongAuthChanged index,[])
  | .onReceiveEvent userId => (s.onReceiveEvent userId,[])
  | .runTask index kept => (s.runTask index kept,[])
  | .proceed kept userIdList answer => s.proceed kept userIdList answer

def machine : Mealy RiskEventManager RiskInput RiskEvent := ⟨step⟩

end RiskEventManager
end UserAuth
