import UserAuth.Common.UserAuthHelper
import UserAuth.Contexts.ContextFactory
import UserAuth.Pool.ContextPool
import UserAuth.Remote.RemoteAuth

namespace UserAuth

def ATL2 : AuthTrustLevel := 20000
def ATL3 : AuthTrustLevel := 30000
def ATL4 : AuthTrustLevel := 40000
def BAD_CONTEXT_ID : UInt64 := 0
-- The enumerator of the result codes, which Cleaner compares ids with.
def INVALID_CONTEXT_ID : UInt64 := 1002
def REUSE_AUTH_RESULT_CONTEXT_ID : UInt64 := 1
def NETWORK_ID_LENGTH : Nat := 64
def TITLE_MAX : Nat := 500

inductive Permission where
  | ACCESS_USER_AUTH_INTERNAL_PERMISSION | USER_AUTH_FROM_BACKGROUND | IS_SYSTEM_APP
  deriving DecidableEq,Repr

-- What AuthUser reads of its parameters besides what goes to the other device.
structure IpcAuthParamInner extends AuthParamInner where
  authIntent : AuthIntent := .DEFAULT
  skipLockedBiometricAuth : Bool := false
  credentialIdList : List UInt64 := []
  isReuse : Bool := false
  additionalInfo : Bytes := []

structure RemoteAuthParam where
  verifierNetworkId : Option Bytes := none
  collectorNetworkId : Option Bytes := none
  collectorTokenId : Option UInt32 := none

-- Both network ids are set once CompleteRemoteAuthParam has succeeded.
structure CompleteRemoteAuthParam where
  verifierNetworkId : Bytes
  collectorNetworkId : Bytes
  collectorTokenId : Option UInt32

-- The context a call asks ContextFactory for.
inductive NewContext where
  | simple (para : AuthenticationPara) (needSubscribeAppState : Bool)
  | sudo (para : ContextFactory.SudoAuthContextPara)
  | localRemote (para : AuthenticationPara) (collectorTokenId : UInt32) (collectorNetworkId : Bytes)
  | remoteInvoker (authParam : AuthParamInner) (verifierNetworkId collectorNetworkId : Bytes)
      (tokenId collectorTokenId : UInt32) (callerName : String) (callerType : Int32)
  | remote (para : AuthenticationPara) (collectorTokenId : UInt32) (param : RemoteAuthContextParam)

inductive CallEffect where
  | onResult (resultCode : ResultCode)
  -- The cleaner that the callback runs after a result.
  | delete (contextId : UInt64)
  | scheduled (context : NewContext) (contextId : UInt64)

def CallEffect.isResult : CallEffect → Bool
  | .onResult _ => true
  | _ => false

-- What the call meets: the caller's identity and permissions, the device
-- manager, the random numbers, the allocations and the pool.
structure AuthUserEnv where
  getCallerName : Option (String × Int32)
  checkPermission : Permission → Bool
  nativeCaller : Bool
  tokenId : UInt32
  isOsAccountVerified : Bool
  localDeviceNetworkId : Option Bytes
  generateRand : Nat → Option UInt64
  -- The pool while an id is drawn. Other threads may change it before Schedule.
  drawnFrom : ContextPoolImpl
  makeShared : Bool
  getConnectionName : Bool
  handler : Bool
  pool : ContextPoolImpl

-- The caller's callback, with the cleaner set on it.
structure AuthUserCall where
  cleaner : Option UInt64 := none
  effects : List CallEffect := []

namespace UserAuthService

def MAX_TRY_TIMES : Nat := 10

-- The last number drawn stays the id when none of the tries is good.
def drawContextId (generateRand : Nat → Option UInt64) (pool : ContextPoolImpl) : Nat → Nat → UInt64 → UInt64
  | 0,_,contextId => contextId
  | tries + 1,i,_ =>
    match generateRand i with
    | none => 0
    | some contextId =>
      if contextId = 0 ∨ contextId = REUSE_AUTH_RESULT_CONTEXT_ID ∨ (pool.selectLocked contextId).isSome then
        drawContextId generateRand pool tries (i + 1) contextId
      else contextId

def getNewContextId (env : AuthUserEnv) : UInt64 := drawContextId env.generateRand env.drawnFrom MAX_TRY_TIMES 0 0

def needsConnectionName : NewContext → Bool
  | .remoteInvoker .. => true
  | .remote _ _ param => param.connectionName.isEmpty
  | _ => false

def createContext (env : AuthUserEnv) (context : NewContext) : Option UInt64 :=
  if !env.makeShared then none
  else if needsConnectionName context && !env.getConnectionName then none
  else some (getNewContextId env)

def scheduleContext (env : AuthUserEnv) (contextId : UInt64) : Bool :=
  env.handler && decide (env.pool.runningContexts.length + env.pool.waitingFifo.length < MAX_CONTEXT_NUM) &&
    (env.pool.selectLocked contextId).isNone

-- The pool as modelled elsewhere takes the same contexts.
theorem scheduleContext_iff (env : AuthUserEnv) (preempt : PreemptAnswers) (context : Context) :
    scheduleContext env context.contextId = true ↔
      env.handler = true ∧ (ContextPoolImpl.schedule preempt env.pool context).isSome := by
  rw [scheduleContext,Bool.and_eq_true,Bool.and_eq_true,and_assoc,decide_eq_true_eq,ContextPoolImpl.schedule]
  refine and_congr_right fun _ => ?_
  by_cases room : env.pool.runningContexts.length + env.pool.waitingFifo.length < MAX_CONTEXT_NUM
  · rw [if_neg (Nat.not_le.mpr room)]
    cases env.pool.selectLocked context.contextId <;> simp [room]
  · simp [room]

def onResult (s : AuthUserCall) (resultCode : ResultCode) : AuthUserCall :=
  let cleaned := match s.cleaner with
    | none => []
    | some contextId => if contextId = INVALID_CONTEXT_ID then [] else [.delete contextId]
  {s with effects:=s.effects ++ .onResult resultCode :: cleaned}

-- What the five starts share: the guard reports when the context is missing or refused.
def startContext (env : AuthUserEnv) (context : NewContext) (s : AuthUserCall) : UInt64 × AuthUserCall :=
  match createContext env context with
  | none => (BAD_CONTEXT_ID,onResult s ResultCode.GENERAL_ERROR)
  | some contextId =>
    let s : AuthUserCall := {s with cleaner:=some contextId}
    if scheduleContext env contextId then (contextId,{s with effects:=s.effects ++ [.scheduled context contextId]})
    else (BAD_CONTEXT_ID,onResult s ResultCode.GENERAL_ERROR)

def startAuthContext (env : AuthUserEnv) (para : AuthenticationPara) (needSubscribeAppState : Bool)
    (s : AuthUserCall) : UInt64 × AuthUserCall := startContext env (.simple para needSubscribeAppState) s

def startRemoteAuthInvokerContext (env : AuthUserEnv) (authParam : AuthParamInner) (para : AuthenticationPara)
    (remote : CompleteRemoteAuthParam) (collectorTokenId : UInt32) (s : AuthUserCall) : UInt64 × AuthUserCall :=
  startContext env (.remoteInvoker authParam remote.verifierNetworkId remote.collectorNetworkId para.tokenId
    collectorTokenId para.callerName para.callerType) s

def startLocalRemoteAuthContext (env : AuthUserEnv) (para : AuthenticationPara) (collectorTokenId : UInt32)
    (collectorNetworkId : Bytes) (s : AuthUserCall) : UInt64 × AuthUserCall :=
  startContext env (.localRemote para collectorTokenId collectorNetworkId) s

def startRemoteAuthContext (env : AuthUserEnv) (para : AuthenticationPara) (collectorTokenId : UInt32)
    (param : RemoteAuthContextParam) (s : AuthUserCall) : UInt64 × AuthUserCall :=
  startContext env (.remote para collectorTokenId param) s

def sudoPara (env : AuthUserEnv) (authParam : IpcAuthParamInner) (para : AuthenticationPara) :
    ContextFactory.SudoAuthContextPara where
  userId := para.userId
  tokenId := para.tokenId
  sdkVersion := para.sdkVersion
  callerType := para.callerType
  callerName := para.callerName
  challenge := para.challenge
  atl := para.atl
  additionalInfo := authParam.additionalInfo
  isOsAccountVerified := para.isOsAccountVerified
  needSubscribeAppState := !env.checkPermission .USER_AUTH_FROM_BACKGROUND

def startSudoAuthContext (env : AuthUserEnv) (authParam : IpcAuthParamInner) (para : AuthenticationPara)
    (s : AuthUserCall) : UInt64 × AuthUserCall := startContext env (.sudo (sudoPara env authParam para)) s

def checkAuthTrustLevel (authTrustLevel : AuthTrustLevel) (authType : AuthType) : Bool :=
  if authType = AuthType.COMPANION_DEVICE then true
  else if authTrustLevel ≠ ATL1 ∧ authTrustLevel ≠ ATL2 ∧ authTrustLevel ≠ ATL3 ∧ authTrustLevel ≠ ATL4 then false
  else true

def checkAuthPermissionAndParam (env : AuthUserEnv) (authType : AuthType) (authTrustLevel : AuthTrustLevel)
    (s : AuthUserCall) : AuthUserCall × Bool :=
  if !checkAuthTrustLevel authTrustLevel authType then (onResult s ResultCode.TRUST_LEVEL_NOT_SUPPORT,false)
  else if !env.checkPermission .ACCESS_USER_AUTH_INTERNAL_PERMISSION then
    (onResult s ResultCode.CHECK_PERMISSION_FAILED,false)
  else (s,true)

def checkSudoAuthParam (authParam : IpcAuthParamInner) (remoteAuthParam : Option RemoteAuthParam) : ResultCode :=
  if remoteAuthParam.isSome then ResultCode.INVALID_PARAMETERS
  else if authParam.authType ≠ AuthType.PIN then ResultCode.INVALID_PARAMETERS
  else if authParam.additionalInfo.isEmpty ||
      decide (UserAuthHelper.getUtf8CharCount authParam.additionalInfo > TITLE_MAX) then ResultCode.INVALID_PARAMETERS
  else if authParam.isReuse then ResultCode.INVALID_PARAMETERS
  else ResultCode.SUCCESS

def completeRemoteAuthParam (env : AuthUserEnv) (remote : RemoteAuthParam) (localNetworkId : Bytes) :
    Option CompleteRemoteAuthParam :=
  if remote.verifierNetworkId.any (·.length ≠ NETWORK_ID_LENGTH) then none
  else if remote.collectorNetworkId.any (·.length ≠ NETWORK_ID_LENGTH) then none
  else if remote.verifierNetworkId.isNone && remote.collectorNetworkId.isNone then none
  else
    let verifierNetworkId := remote.verifierNetworkId.getD localNetworkId
    let collectorNetworkId := remote.collectorNetworkId.getD localNetworkId
    if verifierNetworkId ≠ localNetworkId ∧ collectorNetworkId ≠ localNetworkId then none
    else if verifierNetworkId = collectorNetworkId ∧ verifierNetworkId ≠ localNetworkId then none
    else if collectorNetworkId ≠ localNetworkId ∧ remote.collectorTokenId.isNone then none
    else
      let collectorTokenId := if collectorNetworkId = localNetworkId ∧ remote.collectorTokenId.isNone then
        some env.tokenId else remote.collectorTokenId
      some ⟨verifierNetworkId,collectorNetworkId,collectorTokenId⟩

-- The completed parameter, with the token that the collector's side is asked for.
def processAuthParamForRemoteAuth (env : AuthUserEnv) (para : AuthenticationPara) (remote : RemoteAuthParam)
    (localNetworkId : Bytes) : Option (CompleteRemoteAuthParam × UInt32) :=
  if para.authType ≠ AuthType.PIN then none
  else
    match completeRemoteAuthParam env remote localNetworkId with
    | none => none
    | some complete => some (complete,complete.collectorTokenId.getD para.tokenId)

-- A result reason goes back to the caller, which reports it for a bad id.
def authRemoteUser (env : AuthUserEnv) (authParam : IpcAuthParamInner) (para : AuthenticationPara)
    (remote : RemoteAuthParam) (s : AuthUserCall) : UInt64 × ResultCode × AuthUserCall :=
  match env.localDeviceNetworkId with
  | none => (BAD_CONTEXT_ID,ResultCode.GENERAL_ERROR,s)
  | some localNetworkId =>
    match processAuthParamForRemoteAuth env para remote localNetworkId with
    | none => (BAD_CONTEXT_ID,ResultCode.INVALID_PARAMETERS,s)
    | some (complete,collectorTokenId) =>
      let started :=
        if complete.verifierNetworkId = localNetworkId ∧ complete.collectorNetworkId = localNetworkId then
          startLocalRemoteAuthContext env para collectorTokenId complete.collectorNetworkId s
        else if complete.collectorNetworkId = localNetworkId then
          startRemoteAuthInvokerContext env authParam.toAuthParamInner para complete collectorTokenId s
        else
          startRemoteAuthContext env para collectorTokenId
            {authType:=authParam.authType,collectorNetworkId:=complete.collectorNetworkId} s
      (started.1,ResultCode.GENERAL_ERROR,started.2)

structure AuthUserReply where
  ret : ResultCode
  contextId : UInt64
  call : AuthUserCall

def startSudoAuthUser (env : AuthUserEnv) (authParam : IpcAuthParamInner) (remoteAuthParam : Option RemoteAuthParam)
    (para : AuthenticationPara) (s : AuthUserCall) : AuthUserReply :=
  if !env.nativeCaller && !env.checkPermission .IS_SYSTEM_APP then
    ⟨ResultCode.CHECK_PERMISSION_FAILED,BAD_CONTEXT_ID,onResult s ResultCode.CHECK_PERMISSION_FAILED⟩
  else
    let sudoCheckRet := checkSudoAuthParam authParam remoteAuthParam
    if sudoCheckRet ≠ ResultCode.SUCCESS then ⟨sudoCheckRet,BAD_CONTEXT_ID,onResult s sudoCheckRet⟩
    else
      let started := startSudoAuthContext env authParam para s
      ⟨if started.1 = BAD_CONTEXT_ID then ResultCode.GENERAL_ERROR else ResultCode.SUCCESS,started.1,started.2⟩

def startAuthUser (env : AuthUserEnv) (authParam : IpcAuthParamInner) (remoteAuthParam : Option RemoteAuthParam)
    (para : AuthenticationPara) (s : AuthUserCall) : AuthUserReply :=
  match remoteAuthParam with
  | none =>
    let started := startAuthContext env para (!env.checkPermission .USER_AUTH_FROM_BACKGROUND) s
    ⟨if started.1 = BAD_CONTEXT_ID then ResultCode.GENERAL_ERROR else ResultCode.SUCCESS,started.1,started.2⟩
  | some remote =>
    let started := authRemoteUser env authParam para remote s
    if started.1 = BAD_CONTEXT_ID then ⟨started.2.1,started.1,onResult started.2.2 started.2.1⟩
    else ⟨ResultCode.SUCCESS,started.1,started.2.2⟩

def authenticationPara (env : AuthUserEnv) (authParam : IpcAuthParamInner) (caller : String × Int32) :
    AuthenticationPara where
  tokenId := env.tokenId
  userId := authParam.userId
  authType := authParam.authType
  atl := authParam.authTrustLevel
  challenge := authParam.challenge
  endAfterFirstFail := false
  callerName := caller.1
  sdkVersion := INNER_API_VERSION_10000
  callerType := caller.2
  authIntent := authParam.authIntent
  skipLockedBiometricAuth := authParam.skipLockedBiometricAuth
  credentialIdList := authParam.credentialIdList
  isOsAccountVerified := env.isOsAccountVerified

-- From where the context callback has been created.
def authUser (env : AuthUserEnv) (authParam : IpcAuthParamInner) (remoteAuthParam : Option RemoteAuthParam) :
    AuthUserReply :=
  match env.getCallerName with
  | none => ⟨ResultCode.GENERAL_ERROR,BAD_CONTEXT_ID,onResult {} ResultCode.GENERAL_ERROR⟩
  | some caller =>
    let checked := checkAuthPermissionAndParam env authParam.authType authParam.authTrustLevel {}
    if checked.2 = false then ⟨ResultCode.CHECK_PERMISSION_FAILED,BAD_CONTEXT_ID,checked.1⟩
    else
      let para := authenticationPara env authParam caller
      if authParam.authIntent = .SUDO_PIN_AUTH then startSudoAuthUser env authParam remoteAuthParam para checked.1
      else startAuthUser env authParam remoteAuthParam para checked.1

-- The context that a call asks for once it has passed all of its checks.
def requestedRemote (env : AuthUserEnv) (authParam : IpcAuthParamInner) (para : AuthenticationPara)
    (remote : RemoteAuthParam) : Option NewContext := do
  let localNetworkId ← env.localDeviceNetworkId
  let (complete,collectorTokenId) ← processAuthParamForRemoteAuth env para remote localNetworkId
  if complete.verifierNetworkId = localNetworkId ∧ complete.collectorNetworkId = localNetworkId then
    some (.localRemote para collectorTokenId complete.collectorNetworkId)
  else if complete.collectorNetworkId = localNetworkId then
    some (.remoteInvoker authParam.toAuthParamInner complete.verifierNetworkId complete.collectorNetworkId
      para.tokenId collectorTokenId para.callerName para.callerType)
  else some (.remote para collectorTokenId
    {authType:=authParam.authType,collectorNetworkId:=complete.collectorNetworkId})

def requested (env : AuthUserEnv) (authParam : IpcAuthParamInner) (remoteAuthParam : Option RemoteAuthParam) :
    Option NewContext := do
  let caller ← env.getCallerName
  guard (checkAuthTrustLevel authParam.authTrustLevel authParam.authType)
  guard (env.checkPermission .ACCESS_USER_AUTH_INTERNAL_PERMISSION)
  let para := authenticationPara env authParam caller
  if authParam.authIntent = .SUDO_PIN_AUTH then
    guard (env.nativeCaller || env.checkPermission .IS_SYSTEM_APP)
    guard (checkSudoAuthParam authParam remoteAuthParam = ResultCode.SUCCESS)
    some (.sudo (sudoPara env authParam para))
  else
    match remoteAuthParam with
    | none => some (.simple para (!env.checkPermission .USER_AUTH_FROM_BACKGROUND))
    | some remote => requestedRemote env authParam para remote

def startsRemote : NewContext → Bool
  | .simple .. | .sudo _ => false
  | .localRemote .. | .remoteInvoker .. | .remote .. => true

-- The id under which the pool takes the context, if it comes to that.
def admittedAs (env : AuthUserEnv) (context : NewContext) : Option UInt64 :=
  (createContext env context).filter (scheduleContext env)

def results (s : AuthUserCall) : Nat := s.effects.countP CallEffect.isResult

-- One result for a bad context id, none for a good one.
def Reports (reply : AuthUserReply) : Prop :=
  results reply.call = if reply.contextId = BAD_CONTEXT_ID then 1 else 0

-- A remote start is admitted, and a local one does not get the bad id for a context admitted.
def ReportedOnce (env : AuthUserEnv) (authParam : IpcAuthParamInner) (remoteAuthParam : Option RemoteAuthParam) : Prop :=
  ∀ context, requested env authParam remoteAuthParam = some context →
    if startsRemote context then (admittedAs env context).isSome else admittedAs env context ≠ some BAD_CONTEXT_ID

section Calls
variable {env : AuthUserEnv} {authParam : IpcAuthParamInner} {remoteAuthParam : Option RemoteAuthParam} {s : AuthUserCall}

theorem results_onResult (s : AuthUserCall) (resultCode : ResultCode) : results (onResult s resultCode) = results s + 1 := by
  rw [results,results,onResult]
  dsimp only
  rw [List.countP_append,List.countP_cons_of_pos rfl]
  split
  · rfl
  · split <;> rfl

theorem startContext_spec (env : AuthUserEnv) (context : NewContext) (s : AuthUserCall) :
    (startContext env context s).1 = (admittedAs env context).getD BAD_CONTEXT_ID ∧
      results (startContext env context s).2 = results s + if (admittedAs env context).isSome then 0 else 1 := by
  cases created : createContext env context with
  | none =>
    simp only [startContext,admittedAs,created,results_onResult]
    exact ⟨rfl,rfl⟩
  | some contextId =>
    cases taken : scheduleContext env contextId with
    | false =>
      simp only [startContext,admittedAs,created,taken,results_onResult,Option.filter,Bool.false_eq_true,if_false]
      exact ⟨rfl,rfl⟩
    | true =>
      simp only [startContext,admittedAs,created,taken,Option.filter,if_true]
      refine ⟨rfl,?_⟩
      rw [results,List.countP_append]
      rfl

-- A bad id comes back with one result of the guard and another of the caller's.
theorem authRemoteUser_spec (env : AuthUserEnv) (authParam : IpcAuthParamInner) (para : AuthenticationPara)
    (remote : RemoteAuthParam) (s : AuthUserCall) :
    (requestedRemote env authParam para remote = none ∧
      ∃ failReason, authRemoteUser env authParam para remote s = (BAD_CONTEXT_ID,failReason,s)) ∨
    ∃ context, requestedRemote env authParam para remote = some context ∧ startsRemote context = true ∧
      authRemoteUser env authParam para remote s =
        ((startContext env context s).1,ResultCode.GENERAL_ERROR,(startContext env context s).2) := by
  unfold requestedRemote authRemoteUser
  cases found : env.localDeviceNetworkId with
  | none => exact .inl ⟨rfl,_,rfl⟩
  | some localNetworkId =>
    cases processed : processAuthParamForRemoteAuth env para remote localNetworkId with
    | none =>
      simp only [Option.bind_eq_bind,Option.bind_some,processed]
      exact .inl ⟨rfl,_,rfl⟩
    | some complete =>
      obtain ⟨complete,collectorTokenId⟩ := complete
      refine .inr ?_
      simp only [Option.bind_eq_bind,Option.bind_some,processed]
      split
      · exact ⟨_,rfl,rfl,rfl⟩
      · split
        · exact ⟨_,rfl,rfl,rfl⟩
        · exact ⟨_,rfl,rfl,rfl⟩

-- What a call tells of itself, by the context it comes to ask for.
def Tells (env : AuthUserEnv) (request : Option NewContext) (reply : AuthUserReply) : Prop :=
  match request with
  | none => reply.contextId = BAD_CONTEXT_ID ∧ results reply.call = 1
  | some context =>
    let admitted := admittedAs env context
    reply.contextId = admitted.getD BAD_CONTEXT_ID ∧
      results reply.call = (if admitted.isSome then 0 else 1) +
        if startsRemote context && reply.contextId == BAD_CONTEXT_ID then 1 else 0

theorem tells_started (context : NewContext) (plain : startsRemote context = false) (ret : ResultCode) :
    Tells env (some context) ⟨ret,(startContext env context {}).1,(startContext env context {}).2⟩ := by
  obtain ⟨contextId,told⟩ := startContext_spec env context {}
  refine ⟨contextId,told.trans ?_⟩
  rw [plain]
  exact Nat.zero_add _

theorem startSudoAuthUser_tells (env : AuthUserEnv) (authParam : IpcAuthParamInner)
    (remoteAuthParam : Option RemoteAuthParam) (para : AuthenticationPara) :
    Tells env (do
        guard (env.nativeCaller || env.checkPermission .IS_SYSTEM_APP)
        guard (checkSudoAuthParam authParam remoteAuthParam = ResultCode.SUCCESS)
        some (.sudo (sudoPara env authParam para)))
      (startSudoAuthUser env authParam remoteAuthParam para {}) := by
  rw [startSudoAuthUser]
  by_cases caller : (env.nativeCaller || env.checkPermission .IS_SYSTEM_APP) = true
  · have passed : (!env.nativeCaller && !env.checkPermission .IS_SYSTEM_APP) = false := by
      rw [← Bool.not_or,caller]
      rfl
    rw [passed,if_neg (by nofun)]
    by_cases checked : checkSudoAuthParam authParam remoteAuthParam = ResultCode.SUCCESS
    · simp only [caller,checked,guard_true]
      exact tells_started _ rfl _
    · simp [caller,checked]
      exact ⟨rfl,rfl⟩
  · have refused : (!env.nativeCaller && !env.checkPermission .IS_SYSTEM_APP) = true := by
      rw [← Bool.not_or,Bool.eq_false_iff.mpr caller]
      rfl
    rw [refused,if_pos rfl]
    simp [caller]
    exact ⟨rfl,rfl⟩

theorem startAuthUser_tells (env : AuthUserEnv) (authParam : IpcAuthParamInner)
    (remoteAuthParam : Option RemoteAuthParam) (para : AuthenticationPara) :
    Tells env (match remoteAuthParam with
        | none => some (.simple para (!env.checkPermission .USER_AUTH_FROM_BACKGROUND))
        | some remote => requestedRemote env authParam para remote)
      (startAuthUser env authParam remoteAuthParam para {}) := by
  cases remoteAuthParam with
  | none => exact tells_started _ rfl _
  | some remote =>
    rw [startAuthUser]
    obtain ⟨refused,failReason,started⟩ | ⟨context,asked,far,started⟩ := authRemoteUser_spec env authParam para remote {}
    · dsimp only
      rw [refused,started,if_pos rfl]
      exact ⟨rfl,results_onResult _ _⟩
    · dsimp only
      rw [asked,started]
      obtain ⟨contextId,told⟩ := startContext_spec env context {}
      dsimp only
      split
      · rename_i bad
        refine ⟨contextId,(results_onResult _ _).trans ?_⟩
        rw [told,far,bad]
        exact congrArg (· + 1) (Nat.zero_add _)
      · rename_i good
        refine ⟨contextId,told.trans ?_⟩
        rw [far,beq_false_of_ne good]
        exact Nat.zero_add _

theorem authUser_tells (env : AuthUserEnv) (authParam : IpcAuthParamInner) (remoteAuthParam : Option RemoteAuthParam) :
    Tells env (requested env authParam remoteAuthParam) (authUser env authParam remoteAuthParam) := by
  rw [requested,authUser]
  cases env.getCallerName with
  | none => exact ⟨rfl,rfl⟩
  | some caller =>
    rw [checkAuthPermissionAndParam]
    by_cases level : checkAuthTrustLevel authParam.authTrustLevel authParam.authType = true
    · by_cases permitted : env.checkPermission .ACCESS_USER_AUTH_INTERNAL_PERMISSION = true
      · simp only [Option.bind_eq_bind,Option.bind_some,level,permitted,guard_true,Option.pure_def,Bool.not_true,
          Bool.false_eq_true,if_false,Bool.true_eq_false]
        split
        · exact startSudoAuthUser_tells env authParam remoteAuthParam _
        · exact startAuthUser_tells env authParam remoteAuthParam _
      · simp [level,permitted]
        exact ⟨rfl,rfl⟩
    · simp [level]
      exact ⟨rfl,rfl⟩

theorem reports_iff (request : Option NewContext) (reply : AuthUserReply) (tells : Tells env request reply) :
    Reports reply ↔ ∀ context, request = some context →
      if startsRemote context then (admittedAs env context).isSome
      else admittedAs env context ≠ some BAD_CONTEXT_ID := by
  unfold Reports
  cases request with
  | none =>
    obtain ⟨bad,told⟩ := tells
    rw [told,if_pos bad]
    refine iff_of_true rfl ?_
    intro context asked
    cases asked
  | some context =>
    obtain ⟨contextId,told⟩ := tells
    simp only [Option.some.injEq,forall_eq']
    rw [told,contextId]
    cases admittedAs env context with
    | none => cases startsRemote context <;> simp
    | some admitted =>
      by_cases bad : admitted = BAD_CONTEXT_ID
      · cases startsRemote context <;> simp [bad]
      · cases startsRemote context <;> simp [bad]

-- The whole call, whatever it meets: it reports as it should just when a remote
-- start is admitted and a local one is not admitted under the bad id.
theorem user_told_iff (env : AuthUserEnv) (authParam : IpcAuthParamInner) (remoteAuthParam : Option RemoteAuthParam) :
    Reports (authUser env authParam remoteAuthParam) ↔ ReportedOnce env authParam remoteAuthParam :=
  reports_iff _ _ (authUser_tells env authParam remoteAuthParam)

end Calls

theorem checkSudoAuthParam_title (passed : checkSudoAuthParam authParam remoteAuthParam = ResultCode.SUCCESS) :
    UserAuthHelper.getUtf8CharCount authParam.additionalInfo ≤ TITLE_MAX := by
  unfold checkSudoAuthParam at passed
  split at passed
  · cases passed
  · split at passed
    · cases passed
    · split at passed
      · cases passed
      · rename_i short
        rw [Bool.or_eq_true,not_or,decide_eq_true_eq] at short
        exact Nat.le_of_not_lt short.2

-- The count is the number of code points where the bytes are text, and within a
-- factor of four of the size whatever they are, so the title's size is bounded too.
theorem char_count_bounds_size (str : Bytes) :
    (∀ text : String, str = text.toUTF8.data.toList → UserAuthHelper.getUtf8CharCount str = text.length) ∧
      (∀ turns > str.length,
        UserAuthHelper.countLoop str turns 0 0 = some (UserAuthHelper.getUtf8CharCount str)) ∧
      UserAuthHelper.getUtf8CharCount str ≤ str.length ∧ str.length ≤ 4 * UserAuthHelper.getUtf8CharCount str ∧
      ∀ authParam remoteAuthParam, authParam.additionalInfo = str →
        checkSudoAuthParam authParam remoteAuthParam = ResultCode.SUCCESS → str.length ≤ 4 * TITLE_MAX := by
  have bounds := UserAuthHelper.getUtf8CharCount_bounds str
  refine ⟨?_,?_,bounds.1,bounds.2,?_⟩
  · intro text encoded
    rw [encoded]
    exact UserAuthHelper.getUtf8CharCount_text text
  · intro turns enough
    have returned := UserAuthHelper.countLoop_returns str turns 0 0 enough
    rwa [List.drop_zero,Nat.zero_add] at returned
  · intro authParam remoteAuthParam title passed
    have few := checkSudoAuthParam_title passed
    rw [title] at few
    exact bounds.2.trans (Nat.mul_le_mul_left 4 few)

-- Two characters, of one byte and of four; and two bytes that are no text.
theorem two_characters_counted : UserAuthHelper.getUtf8CharCount [0x61,0xF0,0x9F,0x98,0x80] = 2 ∧
    UserAuthHelper.countLoop [0x80,0xF8] 3 0 0 = some (UserAuthHelper.getUtf8CharCount [0x80,0xF8]) ∧
    [(0x61 : UInt8),0xF0,0x9F,0x98,0x80].length ≤ 4 * TITLE_MAX := by
  have counted := char_count_bounds_size [0x61,0xF0,0x9F,0x98,0x80]
  refine ⟨counted.1 "a😀" (by decide),(char_count_bounds_size [0x80,0xF8]).2.1 3 (by decide),?_⟩
  exact counted.2.2.2.2 {authType:=AuthType.PIN,additionalInfo:=[0x61,0xF0,0x9F,0x98,0x80]} none rfl (by decide +kernel)

def caller : AuthUserEnv where
  getCallerName := some ("caller",1)
  checkPermission := fun _ => true
  nativeCaller := true
  tokenId := 5
  isOsAccountVerified := true
  localDeviceNetworkId := some (List.replicate 64 1)
  generateRand := fun _ => some 77
  drawnFrom := ContextPoolImpl.empty
  makeShared := true
  getConnectionName := true
  handler := true
  pool := ContextPoolImpl.empty

def pooled (contextId : UInt64) : Context where
  ref := contextId.toNat
  contextId := contextId
  createTime := 0
  contextType := .enroll
  userId := 100
  authType := AuthType.PIN
  authTypeList := [AuthType.PIN]
  authIntent := .DEFAULT
  callerName := "caller"
  isPrimaryContext := true

def fullPool : ContextPoolImpl := {ContextPoolImpl.empty with
  waitingFifo:=(List.range MAX_CONTEXT_NUM).map fun n => pooled (UInt64.ofNat (n + 100))}

def otherVerifier : RemoteAuthParam := {verifierNetworkId:=some (List.replicate 64 2)}

-- The pool is full: the guard reports, and then the caller of AuthRemoteUser once more.
theorem full_pool_told_twice : ¬∀ env authParam remoteAuthParam, Reports (authUser env authParam remoteAuthParam) := by
  intro all
  have told := all {caller with pool:=fullPool} {} (some otherVerifier)
  rw [Reports] at told
  exact absurd told (by decide)

end UserAuthService
end UserAuth
