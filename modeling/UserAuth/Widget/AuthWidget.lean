import UserAuth.Common.UserAuthHelper
import UserAuth.Contexts.AuthUser
import UserAuth.Widget.AuthWidgetHelper

namespace UserAuth
open Std ContextFactory

def MAX_AUTH_TYPE_SIZE : Nat := 8
def MAX_USER_CREDENTIAL_SIZE : Nat := 100
def BUTTON_TEXT_MAX : Nat := 60
def TOKEN_HAP : Int32 := 0
def ENG_CALLER_PERM_ENTERPRISE_MANAGE_SECURITY : UInt32 := 0x1

inductive WidgetPermission where
  | ACCESS_USER_AUTH_INTERNAL_PERMISSION | ACCESS_BIOMETRIC_PERMISSION | USER_AUTH_FROM_BACKGROUND | IS_SYSTEM_APP
  | ENTERPRISE_MANAGE_SECURITY
  deriving DecidableEq

-- What the call meets: its callbacks, the caller's identity and permissions, the
-- account, the sources of the types, the remote callbacks and the context pool.
structure AuthWidgetEnv where
  userAuthCallback : Bool := true
  contextCallback : Bool := true
  -- Name, type, app id and app identifier, as far as they are found.
  getCallerName : String × Int32
  getCallingAppID : String × String := ("","")
  checkForegroundApplication : String → Bool
  getCallingUserId : Option Int32
  checkPermission : WidgetPermission → Bool
  getAccessTokenId : UInt32 := 0
  isOsAccountVerified : Int32 → Bool
  sources : AuthWidgetSources
  getRemoteAuthCallback : UInt32 → Bool
  getRemoteAuthCallerName : UInt32 → String
  createWidgetContext : AuthWidgetContextPara → Option UInt64
  schedule : UInt64 → Bool

inductive AuthWidgetEffect where
  | onResult (resultCode : ResultCode) (extraInfo : Attributes)
  -- StartWidgetContext is called, with the types and the parameters so far.
  | startWidgetContext (validType : List AuthType) (para : AuthWidgetContextPara)
  | createWidgetContext (para : AuthWidgetContextPara)
  | scheduled (contextId : UInt64)
  deriving DecidableEq

-- `contextId` is none where the call leaves it as it is.
structure AuthWidgetReply where
  ret : ResultCode
  contextId : Option UInt64 := none
  effects : List AuthWidgetEffect := []

namespace AuthWidget
open AuthWidgetHelper

def WIDGET_AUTH_TYPE_VALID_SET : List AuthType :=
  [AuthType.PIN,AuthType.FACE,AuthType.FINGERPRINT,AuthType.PRIVATE_PIN,AuthType.COMPANION_DEVICE]

def checkAuthWidgetType (authType : List AuthType) : ResultCode :=
  if authType.isEmpty || authType.length > MAX_AUTH_TYPE_SIZE then ResultCode.INVALID_PARAMETERS
  else if !authType.all (WIDGET_AUTH_TYPE_VALID_SET.contains ·) then ResultCode.TYPE_NOT_SUPPORT
  else if authType.dedup.length ≠ authType.length then ResultCode.INVALID_PARAMETERS
  else if authType.contains AuthType.PIN && authType.contains AuthType.PRIVATE_PIN then ResultCode.INVALID_PARAMETERS
  else if authType.contains AuthType.COMPANION_DEVICE && authType.length ≠ 1 then ResultCode.INVALID_PARAMETERS
  else ResultCode.SUCCESS

def checkAuthTypeOnly (checkedTypes onlyContainTypes : List AuthType) : Bool :=
  checkedTypes.all (onlyContainTypes.contains ·)

def checkPrivatePinEnroll (authType validType : List AuthType) : Bool :=
  if !authType.contains AuthType.PRIVATE_PIN then true
  else !(validType.length = 2 && validType.contains AuthType.FACE && validType.contains AuthType.FINGERPRINT)

def checkAuthWidgetParam (authParam : AuthWidgetRequest) (widgetParam : WidgetParamInner) : ResultCode :=
  if widgetParam.navigationButtonText.isEmpty && authParam.authTypes.length = 2 &&
      checkAuthTypeOnly authParam.authTypes [AuthType.FACE,AuthType.FINGERPRINT] then ResultCode.INVALID_PARAMETERS
  else if UserAuthHelper.getUtf8CharCount widgetParam.navigationButtonText > BUTTON_TEXT_MAX then
    ResultCode.INVALID_PARAMETERS
  else if widgetParam.title.isEmpty || UserAuthHelper.getUtf8CharCount widgetParam.title > TITLE_MAX then
    ResultCode.INVALID_PARAMETERS
  else ResultCode.SUCCESS

section Env
variable (env : AuthWidgetEnv)

def checkCallerPermissionForPrivatePin (authParam : AuthWidgetRequest) : ResultCode :=
  if !authParam.authTypes.contains AuthType.PRIVATE_PIN then ResultCode.SUCCESS
  else if env.checkPermission .ACCESS_USER_AUTH_INTERNAL_PERMISSION then ResultCode.SUCCESS
  else if env.checkPermission .IS_SYSTEM_APP then ResultCode.SUCCESS
  else ResultCode.CHECK_PERMISSION_FAILED

def checkCallerPermissionForUserId (authParam : AuthWidgetRequest) : ResultCode :=
  if !authParam.isUserIdSpecified then
    if !env.checkPermission .ACCESS_BIOMETRIC_PERMISSION then ResultCode.CHECK_PERMISSION_FAILED else ResultCode.SUCCESS
  else if env.checkPermission .ACCESS_USER_AUTH_INTERNAL_PERMISSION then ResultCode.SUCCESS
  else match env.getCallingUserId with
    | none => ResultCode.GENERAL_ERROR
    | some userId =>
      if env.checkPermission .ACCESS_BIOMETRIC_PERMISSION &&
          (env.checkPermission .IS_SYSTEM_APP || authParam.userId = userId) then ResultCode.SUCCESS
      else ResultCode.CHECK_PERMISSION_FAILED

def checkWindowMode (widgetParam : WidgetParamInner) : ResultCode :=
  if !env.checkPermission .IS_SYSTEM_APP && widgetParam.windowMode = .NONE_INTERRUPTION_DIALOG_BOX then
    ResultCode.CHECK_SYSTEM_APP_FAILED
  else if !env.checkPermission .IS_SYSTEM_APP && widgetParam.windowMode ≠ .UNKNOWN_WINDOW_MODE then
    ResultCode.INVALID_PARAMETERS
  else ResultCode.SUCCESS

def checkAuthPermissionAndParam (authParam : AuthWidgetRequest) (widgetParam : WidgetParamInner)
    (isBackgroundApplication : Bool) : ResultCode :=
  let checkRet := checkWindowMode env widgetParam
  let ret := checkAuthWidgetType authParam.authTypes
  if authParam.credentialIdList.length > MAX_USER_CREDENTIAL_SIZE then ResultCode.INVALID_PARAMETERS
  else if checkRet ≠ ResultCode.SUCCESS then checkRet
  else if checkCallerPermissionForPrivatePin env authParam ≠ ResultCode.SUCCESS then ResultCode.CHECK_PERMISSION_FAILED
  else if checkCallerPermissionForUserId env authParam ≠ ResultCode.SUCCESS then ResultCode.CHECK_PERMISSION_FAILED
  else if isBackgroundApplication && !env.checkPermission .USER_AUTH_FROM_BACKGROUND then
    ResultCode.CHECK_PERMISSION_FAILED
  else if ret ≠ ResultCode.SUCCESS then ret
  else if !UserAuthService.checkAuthTrustLevel authParam.authTrustLevel authParam.authType then
    ResultCode.TRUST_LEVEL_NOT_SUPPORT
  else checkAuthWidgetParam authParam widgetParam

def getCallerInfo (isUserIdSpecified : Bool) (userId : Int32) (para : AuthWidgetContextPara) :
    Option AuthWidgetContextPara :=
  let (callerName,callerType) := env.getCallerName
  let (callingAppID,callingAppIdentifier) := env.getCallingAppID
  let isBackgroundApplication := para.sdkVersion < INNER_API_VERSION_10000 && callerType = TOKEN_HAP &&
    !env.checkForegroundApplication callerName
  let isBackgroundApplication := para.isBackgroundApplication || isBackgroundApplication
  let para := {para with callerName,callerType,callingAppID,callingAppIdentifier,isBackgroundApplication}
  if isUserIdSpecified then some {para with userId}
  else match env.getCallingUserId with
    | none => none
    | some userId => some {para with userId}

-- The types are those of the credentials that are found, each credential once.
def getAuthTypesFromCredentialIds (authParam : AuthWidgetRequest) : List AuthType :=
  if authParam.credentialIdList.isEmpty then authParam.authTypes
  else (authParam.credentialIdList.mergeSort (· ≤ ·)).dedup.filterMap fun credId =>
    match env.sources.getCredentialInfoById credId with
    | .refused _ _ => none
    | .answered credInfo => some credInfo.authType

abbrev AuthProfileMap := ExtTreeMap AuthType AuthProfile

-- The loop of CheckSkipLockedBiometricAuth, with the types that stay and those to come.
def skipLocked (userId : Int32) (authParam : AuthWidgetRequest) (stay : List AuthType) :
    List AuthType → AuthProfileMap → List AuthType × AuthProfileMap
  | [],authProfileMap => (stay,authProfileMap)
  | type :: rest,authProfileMap =>
    let (ret,profile) := getUserAuthProfile env.sources userId type authParam.credentialIdList
    if ret ≠ ResultCode.SUCCESS ∧ ret ≠ ResultCode.NOT_ENROLLED then skipLocked userId authParam stay rest authProfileMap
    else
      let authProfileMap := authProfileMap.insert type profile
      if authParam.skipLockedBiometricAuth ∧ profile.remainTimes = 0 ∧ type ≠ AuthType.PIN ∧ type ≠ AuthType.PRIVATE_PIN then
        skipLocked userId authParam stay rest (authProfileMap.erase type)
      else skipLocked userId authParam (stay ++ [type]) rest authProfileMap

-- A check hands back its code with the valid types and the parameters as it leaves them.
abbrev Checked := ResultCode × List AuthType × AuthWidgetContextPara

def checkSkipLockedBiometricAuth (para : AuthWidgetContextPara) (authParam : AuthWidgetRequest)
    (widgetParam : WidgetParamInner) (validType : List AuthType) : Checked :=
  if validType.isEmpty then (ResultCode.TYPE_NOT_SUPPORT,validType,para)
  else
    let (validType,authProfileMap) := skipLocked env para.userId authParam [] validType para.authProfileMap
    let para := {para with authProfileMap}
    if !widgetParam.navigationButtonText.isEmpty && validType.isEmpty then
      (ResultCode.CANCELED_FROM_WIDGET,validType,para)
    else if validType.isEmpty then (ResultCode.LOCKED,validType,para)
    else (ResultCode.SUCCESS,validType,para)

def checkValidSolution (para : AuthWidgetContextPara) (authParam : AuthWidgetRequest) (widgetParam : WidgetParamInner) :
    Checked :=
  let authTypes := getAuthTypesFromCredentialIds env authParam
  match AuthWidgetHelper.checkValidSolution env.sources para.userId authTypes authParam.authTrustLevel with
  | .refused code _ => (code,[],para)
  | .answered validType =>
    let biometric := checkAuthTypeOnly validType [AuthType.FACE,AuthType.FINGERPRINT]
    if !widgetParam.navigationButtonText.isEmpty && !biometric then (ResultCode.INVALID_PARAMETERS,validType,para)
    else if widgetParam.windowMode = .FULLSCREEN && biometric then (ResultCode.INVALID_PARAMETERS,validType,para)
    else if !checkPrivatePinEnroll authParam.authTypes validType then (ResultCode.INVALID_PARAMETERS,validType,para)
    else
      let validType := if env.isOsAccountVerified para.userId then validType
        else validType.filter fun authType =>
          authType = AuthType.PIN ∨ authType = AuthType.PRIVATE_PIN ∨ authType = AuthType.ENTERPRISE_ACCOUNT
      checkSkipLockedBiometricAuth env para authParam widgetParam validType

-- The PIN that is asked for when it has expired.
def expiredPin (authParam : AuthWidgetRequest) : AuthType :=
  if authParam.authTypes.contains AuthType.PRIVATE_PIN then AuthType.PRIVATE_PIN else AuthType.PIN

def processPinExpired (ret : ResultCode) (authParam : AuthWidgetRequest) (validType : List AuthType)
    (para : AuthWidgetContextPara) : Checked :=
  if ret ≠ ResultCode.PIN_EXPIRED then (ResultCode.SUCCESS,validType,para)
  else
    let para := {para with isPinExpired:=true}
    let pinType := expiredPin authParam
    let validType := if authParam.authTypes.contains AuthType.PRIVATE_PIN then [pinType] else validType ++ [pinType]
    if pinType ∈ para.authProfileMap then (ResultCode.SUCCESS,validType,para)
    else
      let (queryRet,profile) := getUserAuthProfile env.sources para.userId pinType authParam.credentialIdList
      if queryRet ≠ ResultCode.SUCCESS ∧ queryRet ≠ ResultCode.NOT_ENROLLED then
        (ResultCode.GENERAL_ERROR,validType,para)
      else (ResultCode.SUCCESS,validType,{para with authProfileMap:=para.authProfileMap.insert pinType profile})

def filterFaceNotAvailable (para : AuthWidgetContextPara) (validType : List AuthType) :
    List AuthType × AuthWidgetContextPara :=
  if validType.length = 1 then (validType,para)
  else match para.authProfileMap[AuthType.FACE]? with
    | none => (validType,para)
    | some profile =>
      if profile.cameraStatus = CameraStatus.CAMERA_NOT_AVAILABLE then
        (validType.filter (· ≠ AuthType.FACE),{para with authProfileMap:=para.authProfileMap.erase AuthType.FACE})
      else (validType,para)

-- The context's id and what is done on the way.
def startWidgetContext (authParam : AuthWidgetRequest) (widgetParam : WidgetParamInner) (validType : List AuthType)
    (para : AuthWidgetContextPara) : UInt64 × List AuthWidgetEffect :=
  let started : AuthWidgetEffect := .startWidgetContext validType para
  let failed : AuthWidgetEffect := .onResult ResultCode.GENERAL_ERROR Attributes.empty
  let para := {para with tokenId:=env.getAccessTokenId,isOsAccountVerified:=env.isOsAccountVerified para.userId}
  let para := initWidgetContextParam authParam validType widgetParam para
  if authParam.remoteTokenId.any (!env.getRemoteAuthCallback ·) then (BAD_CONTEXT_ID,[started,failed])
  else
    let callerName := authParam.remoteTokenId.elim "" env.getRemoteAuthCallerName
    let para := if callerName.isEmpty then para else {para with remoteCallerName:=callerName}
    match env.createWidgetContext para with
    | none => (BAD_CONTEXT_ID,[started,.createWidgetContext para,failed])
    | some contextId =>
      if env.schedule contextId then (contextId,[started,.createWidgetContext para,.scheduled contextId])
      else (BAD_CONTEXT_ID,[started,.createWidgetContext para,failed])

def startAuthWidget (authParam : AuthWidgetRequest) (widgetParam : WidgetParamInner) (para : AuthWidgetContextPara) :
    AuthWidgetReply :=
  let (checkRet,validType,para) := checkValidSolution env para authParam widgetParam
  if checkRet ≠ ResultCode.SUCCESS ∧ checkRet ≠ ResultCode.PIN_EXPIRED then
    {ret:=checkRet,effects:=[.onResult checkRet Attributes.empty]}
  else
    let (pinExpiredRet,validType,para) := processPinExpired env checkRet authParam validType para
    if pinExpiredRet ≠ ResultCode.SUCCESS then {ret:=pinExpiredRet,effects:=[.onResult pinExpiredRet Attributes.empty]}
    else
      let (validType,para) := filterFaceNotAvailable para validType
      let (contextId,effects) := startWidgetContext env authParam widgetParam validType para
      if contextId = BAD_CONTEXT_ID then {ret:=ResultCode.GENERAL_ERROR,contextId:=some contextId,effects}
      else {ret:=ResultCode.SUCCESS,contextId:=some contextId,effects}

-- The widget's own parameters are set when its context starts.
def callerPara (apiVersion : Int32) (widgetParam : WidgetParamInner) : AuthWidgetContextPara :=
  {sdkVersion:=apiVersion,widgetParam}

def authWidget (apiVersion : Int32) (authParam : AuthWidgetRequest) (widgetParam : WidgetParamInner) : AuthWidgetReply :=
  if !env.userAuthCallback then {ret:=ResultCode.GENERAL_ERROR}
  else if !env.contextCallback then
    {ret:=ResultCode.GENERAL_ERROR,effects:=[.onResult ResultCode.GENERAL_ERROR Attributes.empty]}
  else match getCallerInfo env authParam.isUserIdSpecified authParam.userId (callerPara apiVersion widgetParam) with
    | none => {ret:=ResultCode.GENERAL_ERROR,effects:=[.onResult ResultCode.GENERAL_ERROR Attributes.empty]}
    | some para =>
      let checkRet := checkAuthPermissionAndParam env authParam widgetParam para.isBackgroundApplication
      if checkRet ≠ ResultCode.SUCCESS then {ret:=checkRet,effects:=[.onResult checkRet Attributes.empty]}
      else
        let para := if env.checkPermission .ENTERPRISE_MANAGE_SECURITY then
          {para with callerPermissions:=para.callerPermissions ||| ENG_CALLER_PERM_ENTERPRISE_MANAGE_SECURITY} else para
        match checkReuseUnlockResult env.sources para authParam with
        | some extraInfo =>
          ⟨ResultCode.SUCCESS,some REUSE_AUTH_RESULT_CONTEXT_ID,[.onResult ResultCode.SUCCESS extraInfo]⟩
        | none => startAuthWidget env authParam widgetParam para

end Env
end AuthWidget
end UserAuth
