import UserAuth.Executor.ResourceNodeUtils
import UserAuth.Lib.Mealy
import UserAuth.Lib.Since

namespace UserAuth
open Std

-- What waits for the handler's thread.
inductive CacheTask where
  | processUserIdChange (newUserId : Int32)
  -- ProcExecutorRegisterSuccess, with its weak reference.
  | registered (node : PooledExecutor)
  deriving DecidableEq

inductive CacheEvent where
  -- The task of a registration found its node alive.
  | served (node : PooledExecutor)
  | queried (userId : Int32) (authType : AuthType) (answer : EngineReply (List EngCredentialInfo))
  | sent (node : PooledExecutor) (templateIds : List UInt64) (connected : Bool) (call : Option DriverCall)

-- `updates` are the calls of UpdateTemplateCache that the running task still has
-- to make, and `id2Cred` is what the loop of the current one has left.
structure TemplateCacheManager where
  pool : ExecutorPool := ∅
  callbacks : Callbacks
  nextRef : Nat := 0
  subscriber : Bool := false
  currUserId : Int32 := INVALID_USER_ID
  tasks : List CacheTask := []
  updates : List AuthType := []
  id2Cred : List (UInt64 × List EngCredentialInfo) := []

-- Executors, drivers and accounts change between any two steps of a task.
inductive CacheInput where
  | executorRegister (executorIndex : UInt64) (authType : AuthType) (executorRole : ExecutorRole)
  | executorDelete (executorIndex : UInt64)
  | deleteAll
  | callback (ref : Nat) (callback : FrameworkExecutorCallback)
  | onAccountsChanged (id : Int32)
  -- `active` is GetActiveUserId's answer.
  | onOsAccountSaAdd (subscribed : Bool) (active : Option Int32)
  | onOsAccountSaRemove (unsubscribed : Bool)
  -- Any task that waits may be the next. Its node lives while the pool has it or
  -- another keeps it.
  | runTask (index : Nat) (kept : Bool)
  | proceed (answer : EngineReply (List EngCredentialInfo))

namespace TemplateCacheManager
open ResourceNodeUtils
variable (s : TemplateCacheManager)

def idle : Bool := s.updates.isEmpty && s.id2Cred.isEmpty

def sentEvent (sent : PooledExecutor × List UInt64 × Option DriverCall) : CacheEvent :=
  .sent sent.1 sent.2.1 (s.callbacks sent.1.ref).hasHdi sent.2.2

def executorRegister (executorIndex : UInt64) (authType : AuthType) (executorRole : ExecutorRole) :
    TemplateCacheManager :=
  let resourceNode : PooledExecutor := ⟨s.nextRef,executorIndex,authType,executorRole⟩
  match s.pool.insertNode executorIndex resourceNode with
  | none => {s with nextRef:=s.nextRef + 1}
  | some (pool,_) => {s with pool,nextRef:=s.nextRef + 1,tasks:=s.tasks ++ [.registered resourceNode]}

def executorDelete (executorIndex : UInt64) : TemplateCacheManager :=
  match s.pool.delete executorIndex with
  | none => s
  | some (pool,_) => {s with pool}

def handleAccountsChanged (id : Int32) : TemplateCacheManager := {s with tasks:=s.tasks ++ [.processUserIdChange id]}

def syncOsAccountIdStatus (active : Option Int32) : TemplateCacheManager :=
  match active with
  | none => s
  | some userId => if userId = INVALID_USER_ID then s else s.handleAccountsChanged userId

def onOsAccountSaAdd (subscribed : Bool) (active : Option Int32) : TemplateCacheManager :=
  if s.subscriber then s
  else if !subscribed then s
  else {s with subscriber:=true}.syncOsAccountIdStatus active

def onOsAccountSaRemove (unsubscribed : Bool) : TemplateCacheManager :=
  if !s.subscriber then s else if !unsubscribed then s else {s with subscriber:=false}

def processUserIdChange (newUserId : Int32) : TemplateCacheManager :=
  if newUserId = s.currUserId then s
  else {s with currUserId:=newUserId,updates:=[AuthType.FACE,AuthType.FINGERPRINT]}

def runTask (index : Nat) (kept : Bool) : TemplateCacheManager × List CacheEvent :=
  if !s.idle then (s,[])
  else
    match s.tasks[index]? with
    | none => (s,[])
    | some task =>
      let s := {s with tasks:=s.tasks.eraseIdx index}
      match task with
      | .processUserIdChange newUserId => (s.processUserIdChange newUserId,[])
      | .registered node =>
        if s.pool.select node.executorIndex = some node ∨ kept then ({s with updates:=[node.authType]},[.served node])
        else (s,[])

-- A node is enumerated once, in an order that nothing says.
def clearCached (authType : AuthType) : List CacheEvent :=
  ((s.pool.toList.map (·.2.node)).filter (·.authType = authType)).filterMap fun node =>
    (setCachedTemplates s.pool s.callbacks node.executorIndex []).map s.sentEvent

def updateTemplateCache (authType : AuthType) (answer : EngineReply (List EngCredentialInfo)) :
    TemplateCacheManager × List CacheEvent :=
  if s.currUserId = INVALID_USER_ID then (s,[])
  else if authType ≠ AuthType.FACE ∧ authType ≠ AuthType.FINGERPRINT then (s,[])
  else
    let queried : CacheEvent := .queried s.currUserId authType answer
    match answer with
    | .refused _ _ => (s,[queried])
    | .answered credentialInfos =>
      if credentialInfos.isEmpty then (s,queried :: s.clearCached authType)
      else ({s with id2Cred:=(classifyCredInfoByExecutor credentialInfos).toList},[queried])

-- The next call of the running task. An engine that is not asked gives no answer.
def proceed (answer : EngineReply (List EngCredentialInfo)) : TemplateCacheManager × List CacheEvent :=
  match s.id2Cred with
  | pair :: id2Cred =>
    ({s with id2Cred},((setCachedTemplates s.pool s.callbacks pair.1 pair.2).map s.sentEvent).toList)
  | [] =>
    match s.updates with
    | [] => (s,[])
    | authType :: updates => {s with updates}.updateTemplateCache authType answer

def step (s : TemplateCacheManager) : CacheInput → TemplateCacheManager × List CacheEvent
  | .executorRegister executorIndex authType executorRole => (s.executorRegister executorIndex authType executorRole,[])
  | .executorDelete executorIndex => (s.executorDelete executorIndex,[])
  | .deleteAll => ({s with pool:=s.pool.deleteAll.1},[])
  | .callback ref callback => ({s with callbacks:=Function.update s.callbacks ref callback},[])
  | .onAccountsChanged id => (s.handleAccountsChanged id,[])
  | .onOsAccountSaAdd subscribed active => (s.onOsAccountSaAdd subscribed active,[])
  | .onOsAccountSaRemove unsubscribed => (s.onOsAccountSaRemove unsubscribed,[])
  | .runTask index kept => s.runTask index kept
  | .proceed answer => s.proceed answer

def machine : Mealy TemplateCacheManager CacheInput CacheEvent := ⟨step⟩

end TemplateCacheManager
end UserAuth
