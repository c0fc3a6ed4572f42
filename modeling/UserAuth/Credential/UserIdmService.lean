import UserAuth.Executor.ResourceNodeUtils
import UserAuth.Pool.HandshakeRun

namespace UserAuth
open ContextPoolImpl

def ResultCode.IPC_ERROR : ResultCode := 1001

inductive IdmPermission where
  | MANAGE_USER_IDM_PERMISSION | USE_USER_IDM_PERMISSION | ENFORCE_USER_IDM | CLEAR_REDUNDANCY_PERMISSION
  deriving DecidableEq

-- Who calls, with CheckPermission's answers.
structure IdmCaller where
  tokenId : UInt32
  callerName : String
  callerType : Int32
  checkPermission : IdmPermission → Bool

structure CredentialInfoImpl extends EngCredentialInfo where
  authSubType : Int32 := 0
  abandonFlag : Bool := false
  validPeriod : Int64 := 0
  deriving DecidableEq

inductive UserDeletion where
  | DEL_USER | ENFORCE_DEL_USER
  deriving DecidableEq

inductive IdmEffect where
  -- The engine has opened a session, or is told to close the one there is.
  | openSession (tokenId : UInt32)
  | closeSession (tokenId : UInt32)
  -- The engine has deleted these of a user, with the root secret it gives back for them.
  | engineDeleted (userId : Int32) (infos : List CredentialInfoImpl) (rootSecret : Bytes)
  -- The executor's node, whether its driver is connected, and what the driver is told.
  | notified (info : CredentialInfoImpl) (resourceNode : Option (PooledExecutor × Bool)) (call : Option DriverCall)
  | publishDeletedEvent (userId : Int32)
  | onNotifyCredChangeEvent (userId : Int32) (authType : AuthType) (eventType : UserDeletion)
      (changeInfo : CredChangeEventInfo)
  | processUserDeleted (userId : Int32)
  | cancel (context : Context)
  | onCredentialInfos (code : ResultCode) (infos : List CredentialInfoImpl)
  | onResult (code : ResultCode)
  | returned (code : ResultCode) (infos : List CredentialInfoImpl)

-- What a call still has to do.
inductive IdmWork where
  | lock
  | cancelCurrentEnrollIfExist
  | cancelCurrentEnroll (contextList : List Context)
  | cancelOwnEnroll (tokenId : UInt32)
  | cancelOwn (tokenId : UInt32) (contextList : List Context) (ret : ResultCode)
  | openSession (tokenId : UInt32)
  | closeSession (tokenId : UInt32) (answer : EngineReply Unit)
  | schedule (context : Option Context) (tokenId : UInt32)
  | notifyExecutorToDeleteTemplates (info : CredentialInfoImpl) (changeReasonTrace : Bytes)
  | emit (effect : IdmEffect)
  | unlock

-- A context as its class makes it: what the base class leaves as it is, here too.
def idmContext (contextType : ContextType) (contextId : UInt64) (createTime : Nat) (userId : Int32) : Context where
  ref := 0
  contextId
  createTime
  contextType
  userId
  authType := AuthType.INVALID_AUTH_TYPE
  authTypeList := [AuthType.INVALID_AUTH_TYPE]
  authIntent := .DEFAULT
  callerName := ""
  isPrimaryContext := false

-- The calls, each with the answers that it meets. `made` is what ContextFactory draws,
-- where it makes a context. No call comes without its callback.
inductive IdmRequest where
  | openSession (answer : EngineReply Unit)
  | closeSession (answer : EngineReply Unit)
  | getCredentialInfo (sync : Bool) (userId : Int32) (answer : EngineReply (List CredentialInfoImpl))
      (cleared : EngineReply (List CredentialInfoImpl))
  | addCredential (userId : Int32) (made : Option (UInt64 × Nat))
  | updateCredential (userId : Int32) (credInfos : EngineReply (List CredentialInfoImpl)) (made : Option (UInt64 × Nat))
  | cancel
  | deleteSubProfile (userId : Int32) (answer : EngineReply (List CredentialInfoImpl))
  | enforceDelUser (userId : Int32) (enrolledInfo : EngineReply (List AuthType))
      (answer : EngineReply (List CredentialInfoImpl))
  | delUser (userId : Int32) (answer : EngineReply (List CredentialInfoImpl × Bytes))
  | delCredential (userId : Int32) (made : Option (UInt64 × Nat))
  | clearRedundancy (accountInfo : Option (List Int32))
      (userInfos : EngineReply (List (Int32 × EngineReply (List CredentialInfoImpl))))

namespace UserIdmService
open IdmWork

def notifyExecutorToDeleteTemplates (infos : List CredentialInfoImpl) (changeReasonTrace : String) : List IdmWork :=
  infos.map fun info => .notifyExecutorToDeleteTemplates info (changeReasonTrace.toUTF8.data.toList ++ [0])

-- An abandoned PIN goes unannounced.
def announced (info : CredentialInfoImpl) : Bool := !(info.authType == AuthType.PIN && info.abandonFlag)

def postProcessForDelete (userId : Int32) (credInfos : List CredentialInfoImpl) (changeReasonTrace : String)
    (eventType : UserDeletion) (caller : IdmCaller) : List IdmWork :=
  notifyExecutorToDeleteTemplates credInfos changeReasonTrace ++ [emit (.publishDeletedEvent userId)] ++
    (credInfos.filter announced).map (fun cred => emit (.onNotifyCredChangeEvent userId cred.authType eventType
      ⟨caller.callerName,caller.callerType,0,cred.credentialId,false⟩)) ++
    if (credInfos.filter announced).any (·.authType = AuthType.PIN) then [emit (.processUserDeleted userId)] else []

def answer (code : ResultCode) : List IdmWork := [emit (.onResult code),emit (.returned code [])]

def underLock (work : List IdmWork) (code : ResultCode) : List IdmWork :=
  [lock] ++ work ++ [unlock,emit (.returned code [])]

def enforceDelUserInner (userId : Int32) (answer : EngineReply (List CredentialInfoImpl)) (changeReasonTrace : String)
    (caller : IdmCaller) : List IdmWork × ResultCode :=
  match answer with
  | .refused code _ => ([],code)
  | .answered credInfos =>
    ([emit (.engineDeleted userId credInfos [])] ++
      postProcessForDelete userId credInfos changeReasonTrace .ENFORCE_DEL_USER caller,ResultCode.SUCCESS)

-- A user's answer is asked for only where no account has the user's id.
def clearRedundancyCredentialInner (accountInfo : Option (List Int32))
    (userInfos : EngineReply (List (Int32 × EngineReply (List CredentialInfoImpl)))) (caller : IdmCaller) :
    List IdmWork × ResultCode :=
  match accountInfo with
  | none => ([],ResultCode.IPC_ERROR)
  | some accountInfo =>
    match userInfos with
    | .refused code _ => ([],if code = ResultCode.NOT_ENROLLED then ResultCode.SUCCESS else code)
    | .answered userInfos =>
      ((userInfos.filter fun user => user.1 ∉ accountInfo).flatMap fun user =>
        (enforceDelUserInner user.1 user.2 "DeleteRedundancy" caller).1,ResultCode.SUCCESS)

def convertGetCredentialResult (resultCode : ResultCode) (isNotEnrollReturnSuccess : Bool) : ResultCode :=
  if resultCode = ResultCode.SUCCESS then ResultCode.SUCCESS
  else if resultCode = ResultCode.NOT_ENROLLED then
    if isNotEnrollReturnSuccess then ResultCode.SUCCESS else ResultCode.NOT_ENROLLED
  else if resultCode = ResultCode.INVALID_PARAMETERS || resultCode = ResultCode.CHECK_PERMISSION_FAILED then resultCode
  else ResultCode.GENERAL_ERROR

def getCredentialInfoInner (answer : EngineReply (List CredentialInfoImpl)) (caller : IdmCaller) :
    ResultCode × List CredentialInfoImpl :=
  if !caller.checkPermission .USE_USER_IDM_PERMISSION then (ResultCode.CHECK_PERMISSION_FAILED,[])
  else match answer with
    | .refused code _ => (code,[])
    | .answered credInfos => if credInfos.isEmpty then (ResultCode.NOT_ENROLLED,[]) else (ResultCode.SUCCESS,credInfos)

def unavailable (info : CredentialInfoImpl) : Bool := info.abandonFlag && info.validPeriod == 0

def clearUnavailableCredential (userId : Int32) : EngineReply (List CredentialInfoImpl) → List IdmWork
  | .refused _ _ => []
  | .answered credInfos =>
    [emit (.engineDeleted userId credInfos [])] ++ notifyExecutorToDeleteTemplates credInfos "ClearExpiredTemplate"

def addCredential (userId : Int32) (made : Option (UInt64 × Nat)) (caller : IdmCaller) : List IdmWork :=
  if !caller.checkPermission .MANAGE_USER_IDM_PERMISSION then answer ResultCode.CHECK_PERMISSION_FAILED
  else [lock,cancelCurrentEnrollIfExist,
    schedule (made.map fun drawn => idmContext .enroll drawn.1 drawn.2 userId) caller.tokenId,unlock]

def workOf (caller : IdmCaller) : IdmRequest → List IdmWork
  | .openSession answer =>
    if !caller.checkPermission .MANAGE_USER_IDM_PERMISSION then [emit (.returned ResultCode.CHECK_PERMISSION_FAILED [])]
    else match answer with
      | .refused _ _ => underLock [cancelCurrentEnrollIfExist] ResultCode.GENERAL_ERROR
      | .answered _ => underLock [cancelCurrentEnrollIfExist,.openSession caller.tokenId] ResultCode.SUCCESS
  | .closeSession answer =>
    if !caller.checkPermission .MANAGE_USER_IDM_PERMISSION then [emit (.returned ResultCode.CHECK_PERMISSION_FAILED [])]
    else [lock,.closeSession caller.tokenId answer,unlock]
  | .getCredentialInfo sync userId answer cleared =>
    let found := getCredentialInfoInner answer caller
    let code := convertGetCredentialResult found.1 sync
    let infos := found.2.filter (!unavailable ·)
    let clear := if found.2.any unavailable then clearUnavailableCredential userId cleared else []
    if sync then clear ++ [emit (.returned code infos)]
    else [emit (.onCredentialInfos code infos)] ++ clear ++ [emit (.returned code [])]
  | .addCredential userId made => addCredential userId made caller
  | .updateCredential userId credInfos made =>
    match credInfos with
    | .refused _ _ => answer ResultCode.GENERAL_ERROR
    | .answered credInfos =>
      if credInfos.isEmpty then [emit (.onResult ResultCode.NOT_ENROLLED),emit (.returned ResultCode.SUCCESS [])]
      else addCredential userId made caller
  | .cancel =>
    if !caller.checkPermission .MANAGE_USER_IDM_PERMISSION then [emit (.returned ResultCode.CHECK_PERMISSION_FAILED [])]
    else [lock,cancelOwnEnroll caller.tokenId,unlock]
  | .deleteSubProfile userId reply =>
    if !caller.checkPermission .ENFORCE_USER_IDM then answer ResultCode.CHECK_PERMISSION_FAILED
    else match reply with
      | .refused code _ => answer code
      | .answered hdiInfos => [emit (.engineDeleted userId hdiInfos [])] ++
        notifyExecutorToDeleteTemplates hdiInfos "DeleteSubProfile" ++ answer ResultCode.SUCCESS
  | .enforceDelUser userId enrolledInfo reply =>
    if !caller.checkPermission .ENFORCE_USER_IDM then answer ResultCode.CHECK_PERMISSION_FAILED
    else
      let done : List IdmWork × ResultCode := match enrolledInfo with
        | .refused _ _ => ([],ResultCode.GENERAL_ERROR)
        | .answered [] => ([],ResultCode.NOT_ENROLLED)
        | .answered _ => enforceDelUserInner userId reply "EnforceDeleteUser" caller
      underLock ([cancelCurrentEnrollIfExist] ++ done.1 ++ [emit (.onResult done.2)]) done.2
  | .delUser userId reply =>
    if !caller.checkPermission .MANAGE_USER_IDM_PERMISSION then answer ResultCode.CHECK_PERMISSION_FAILED
    else match reply with
      | .refused code _ => underLock [cancelCurrentEnrollIfExist,emit (.onResult code)] code
      | .answered (credInfos,rootSecret) =>
        -- A root secret that does not fit ends the call before the drivers are told.
        let post := if rootSecret.length > Attributes.MAX_ATTR_LENGTH then []
          else postProcessForDelete userId credInfos "DeleteUser" .DEL_USER caller
        underLock ([cancelCurrentEnrollIfExist,emit (.engineDeleted userId credInfos rootSecret),
          emit (.onResult ResultCode.SUCCESS)] ++ post) ResultCode.SUCCESS
  | .delCredential userId made =>
    if !caller.checkPermission .MANAGE_USER_IDM_PERMISSION then answer ResultCode.CHECK_PERMISSION_FAILED
    else [lock,cancelCurrentEnrollIfExist,
      schedule (made.map fun drawn => idmContext .deletion drawn.1 drawn.2 userId) caller.tokenId,unlock]
  | .clearRedundancy accountInfo userInfos =>
    if !caller.checkPermission .CLEAR_REDUNDANCY_PERMISSION then answer ResultCode.CHECK_PERMISSION_FAILED
    else
      let done := clearRedundancyCredentialInner accountInfo userInfos caller
      underLock ([cancelCurrentEnrollIfExist] ++ done.1 ++ [emit (.onResult done.2)]) done.2

end UserIdmService

-- `mutex` is the call that holds mutex_, and `tokens` is each context's own.
structure UserIdmService where
  handshake : Handshake
  resourceNodes : ExecutorPool := ∅
  nextNode : Nat := 0
  callbacks : Callbacks
  sessionTokenId : Option UInt32 := none
  mutex : Option Nat := none
  tokens : Nat → UInt32 := fun _ => 0
  calls : Nat → List IdmWork := fun _ => []
  nextCall : Nat := 0

inductive IdmEvent where
  | handshake (event : HandshakeEvent)
  | request (call : Nat) (caller : IdmCaller) (request : IdmRequest)
  | effect (call : Nat) (effect : IdmEffect)

-- `alive` says whether a context that has left the pool still is there, and
-- `preempt` is drawn for the pool's promotion pass.
inductive IdmInput where
  | request (caller : IdmCaller) (request : IdmRequest)
  | proceed (call : Nat) (alive : Bool) (preempt : PreemptAnswers)
  | handshake (op : HandshakeOp)
  | executorRegister (executorIndex : UInt64) (authType : AuthType) (executorRole : ExecutorRole)
  | executorDelete (executorIndex : UInt64)
  | callback (ref : Nat) (callback : FrameworkExecutorCallback)

namespace UserIdmService
variable (s : UserIdmService)

def enrollments : List Context := s.handshake.pool.contexts.filter (·.contextType = .enroll)

def poolOp (op : PoolOp) : UserIdmService := {s with handshake:=(s.handshake.step (.pool op)).1}

def cancelContext (context : Context) : UserIdmService × List IdmEffect :=
  (s.poolOp (.cancel context.contextId),[.cancel context])

-- With what the call then still has to do.
def schedule (context : Option Context) (tokenId : UInt32) (preempt : PreemptAnswers) :
    UserIdmService × List IdmWork × List IdmEffect :=
  let failed := [.onResult ResultCode.GENERAL_ERROR,.returned ResultCode.GENERAL_ERROR []]
  match context with
  | none => (s,[],failed)
  | some context =>
    let ref := s.handshake.nextRef
    let scheduled := {s.poolOp (.schedule preempt context) with tokens:=Function.update s.tokens ref tokenId}
    match s.handshake.pool.schedule preempt {context with ref} with
    | none => (scheduled,[],failed)
    | some _ => (scheduled,[],[.returned ResultCode.SUCCESS []])

def notify (info : CredentialInfoImpl) (changeReasonTrace : Bytes) : IdmEffect :=
  match s.resourceNodes.select info.executorIndex with
  | none => .notified info none none
  | some resourceNode => .notified info (some (resourceNode,(s.callbacks resourceNode.ref).hasHdi))
    (resourceNode.setProperty s.callbacks (.deleteTemplate info.templateId changeReasonTrace))

def perform (alive : Bool) (preempt : PreemptAnswers) : IdmWork → UserIdmService × List IdmWork × List IdmEffect
  -- A call that meets the lock is dealt with where it is taken.
  | .lock => (s,[],[])
  | .unlock => ({s with mutex:=none},[],[])
  | .cancelCurrentEnrollIfExist => (s,[.cancelCurrentEnroll s.enrollments],[])
  | .cancelCurrentEnroll [] => (s,[],[])
  | .cancelCurrentEnroll (context :: contextList) =>
    let cancelled := if context ∈ s.handshake.pool.contexts ∨ alive then s.cancelContext context else (s,[])
    (cancelled.1,[.cancelCurrentEnroll contextList],cancelled.2)
  | .cancelOwnEnroll tokenId => (s,[.cancelOwn tokenId s.enrollments ResultCode.GENERAL_ERROR],[])
  | .cancelOwn _ [] ret => (s,[],[.returned ret []])
  | .cancelOwn tokenId (context :: contextList) ret =>
    if (context ∈ s.handshake.pool.contexts ∨ alive) ∧ tokenId = s.tokens context.ref then
      let cancelled := s.cancelContext context
      (cancelled.1,[.cancelOwn tokenId contextList ResultCode.SUCCESS],cancelled.2)
    else (s,[.cancelOwn tokenId contextList ret],[])
  | .openSession tokenId => ({s with sessionTokenId:=some tokenId},[],[.openSession tokenId])
  | .closeSession tokenId answer =>
    if s.sessionTokenId ≠ some tokenId then (s,[],[.returned ResultCode.SUCCESS []])
    else (s,[],[.closeSession tokenId,.returned (match answer with
      | .refused _ _ => ResultCode.GENERAL_ERROR
      | .answered _ => ResultCode.SUCCESS) []])
  | .schedule context tokenId => s.schedule context tokenId preempt
  | .notifyExecutorToDeleteTemplates info changeReasonTrace => (s,[],[s.notify info changeReasonTrace])
  | .emit effect => (s,[],[effect])

def proceed (call : Nat) (alive : Bool) (preempt : PreemptAnswers) : UserIdmService × List IdmEvent :=
  match s.calls call with
  | [] => (s,[])
  | .lock :: rest =>
    if s.mutex.isSome then (s,[]) else ({s with mutex:=some call,calls:=Function.update s.calls call rest},[])
  | item :: rest =>
    let done := s.perform alive preempt item
    ({done.1 with calls:=Function.update s.calls call (done.2.1 ++ rest)},done.2.2.map (.effect call))

theorem proceed_item {s : UserIdmService} (here : s.calls call = item :: rest) (inside : item ≠ .lock) (alive : Bool)
    (preempt : PreemptAnswers) :
    s.proceed call alive preempt = ({(s.perform alive preempt item).1 with
      calls:=Function.update s.calls call ((s.perform alive preempt item).2.1 ++ rest)},
      (s.perform alive preempt item).2.2.map (.effect call)) := by
  unfold UserIdmService.proceed
  rw [here]
  cases item with
  | lock => exact absurd rfl inside
  | _ => rfl

-- Only the service makes contexts that enroll.
def othersOp : HandshakeOp → Bool
  | .pool (.schedule _ context) => context.contextType != .enroll
  | _ => true

def step (s : UserIdmService) : IdmInput → UserIdmService × List IdmEvent
  | .request caller request =>
    ({s with calls:=Function.update s.calls s.nextCall (workOf caller request),nextCall:=s.nextCall + 1},
      [.request s.nextCall caller request])
  | .proceed call alive preempt => s.proceed call alive preempt
  | .handshake op =>
    if othersOp op then
      let moved := s.handshake.step op
      ({s with handshake:=moved.1},moved.2.map .handshake)
    else (s,[])
  | .executorRegister executorIndex authType executorRole =>
    let resourceNode : PooledExecutor := ⟨s.nextNode,executorIndex,authType,executorRole⟩
    ({s with
      nextNode:=s.nextNode + 1
      resourceNodes:=((s.resourceNodes.insertNode executorIndex resourceNode).map (·.1)).getD s.resourceNodes},[])
  | .executorDelete executorIndex =>
    ({s with resourceNodes:=((s.resourceNodes.delete executorIndex).map (·.1)).getD s.resourceNodes},[])
  | .callback ref callback => ({s with callbacks:=Function.update s.callbacks ref callback},[])

def machine : Mealy UserIdmService IdmInput IdmEvent := ⟨step⟩

section Perform
variable (alive : Bool) (preempt : PreemptAnswers) (item : IdmWork)

-- What a piece of work leaves as it is.
structure Kept (s later : UserIdmService) : Prop where
  calls : later.calls = s.calls
  nextCall : later.nextCall = s.nextCall
  resourceNodes : later.resourceNodes = s.resourceNodes

theorem kept_refl : Kept s s := ⟨rfl,rfl,rfl⟩

theorem schedule_kept (context : Option Context) (tokenId : UInt32) : Kept s (s.schedule context tokenId preempt).1 := by
  unfold UserIdmService.schedule
  cases context with
  | none => exact kept_refl s
  | some context =>
    dsimp only
    split <;> exact ⟨rfl,rfl,rfl⟩

theorem perform_kept : Kept s (s.perform alive preempt item).1 := by
  cases item with
  | cancelCurrentEnroll contextList =>
    cases contextList with
    | nil => exact kept_refl s
    | cons context contextList =>
      simp only [perform]
      split <;> exact ⟨rfl,rfl,rfl⟩
  | cancelOwn tokenId contextList ret =>
    cases contextList with
    | nil => exact kept_refl s
    | cons context contextList =>
      simp only [perform]
      split <;> exact ⟨rfl,rfl,rfl⟩
  | closeSession tokenId answer =>
    simp only [perform]
    split <;> exact ⟨rfl,rfl,rfl⟩
  | schedule context tokenId => exact schedule_kept s preempt context tokenId
  | _ => exact ⟨rfl,rfl,rfl⟩

theorem perform_mutex (item : IdmWork) (inside : item ≠ .unlock) : (s.perform alive preempt item).1.mutex = s.mutex := by
  cases item with
  | unlock => exact absurd rfl inside
  | cancelCurrentEnroll contextList =>
    cases contextList with
    | nil => rfl
    | cons context contextList =>
      simp only [perform]
      split <;> rfl
  | cancelOwn tokenId contextList ret =>
    cases contextList with
    | nil => rfl
    | cons context contextList =>
      simp only [perform]
      split <;> rfl
  | closeSession tokenId answer =>
    simp only [perform]
    split <;> rfl
  | schedule context tokenId =>
    cases context with
    | none => rfl
    | some context =>
      simp only [perform,schedule]
      split <;> rfl
  | _ => rfl

end Perform

end UserIdmService
end UserAuth
