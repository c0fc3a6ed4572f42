import UserAuth.Common.TypedValue
import UserAuth.Contexts.ContextFactory
import UserAuth.Credential.CredentialUpdated
import UserAuth.Executor.ResourceNodePool

namespace UserAuth
open Std

def ResultCode.PIN_EXPIRED : ResultCode := 13
def ResultCode.CHECK_SYSTEM_APP_FAILED : ResultCode := 1007
def AuthType.ENTERPRISE_ACCOUNT : AuthType := 1024
def CameraStatus.CAMERA_NOT_AVAILABLE : UInt32 := 1
def Attributes.ATTR_PIN_SUB_TYPE : AttributeKey := 100021
def Attributes.ATTR_SENSOR_INFO : AttributeKey := 100036
def Attributes.ATTR_CAMERA_STATUS : AttributeKey := 100097

-- A cast of any uint32.
abbrev ReuseMode := UInt32
namespace ReuseMode
def AUTH_TYPE_RELEVANT : ReuseMode := 1
def AUTH_TYPE_IRRELEVANT : ReuseMode := 2
def CALLER_IRRELEVANT_AUTH_TYPE_RELEVANT : ReuseMode := 3
def CALLER_IRRELEVANT_AUTH_TYPE_IRRELEVANT : ReuseMode := 4
end ReuseMode

def MAX_ALLOWABLE_REUSE_DURATION : UInt64 := 5 * 60 * 1000

structure ReuseUnlockResult where
  isReuse : Bool := false
  reuseMode : ReuseMode := ReuseMode.AUTH_TYPE_IRRELEVANT
  reuseDuration : UInt64 := 0

-- What AuthWidget reads of its request.
structure AuthWidgetRequest where
  userId : Int32 := 0
  isUserIdSpecified : Bool := false
  challenge : Bytes := []
  authType : AuthType := 0
  authTypes : List AuthType := []
  authTrustLevel : AuthTrustLevel := 0
  reuseUnlockResult : ReuseUnlockResult := {}
  skipLockedBiometricAuth : Bool := false
  credentialIdList : List UInt64 := []
  remoteTokenId : Option UInt32 := none

structure EngReuseUnlockParam where
  userId : Int32
  authTrustLevel : AuthTrustLevel
  challenge : Bytes
  authTypes : List AuthType
  reuseUnlockResultMode : ReuseMode
  reuseUnlockResultDuration : UInt64

structure EngReuseUnlockInfo where
  authType : AuthType := 0
  token : Bytes := []
  credentialDigest : UInt64 := 0
  credentialCount : UInt16 := 0

-- What AuthWidgetHelper asks while one request is served: the engine, the credential
-- database and the properties of the resource nodes.
structure AuthWidgetSources where
  getValidSolution : Int32 → List AuthType → AuthTrustLevel → EngineReply (List AuthType)
  checkReuseUnlockResult : EngReuseUnlockParam → EngineReply EngReuseUnlockInfo
  getCredentialInfo : Int32 → AuthType → EngineReply (List EngCredentialInfo)
  getCredentialInfoById : UInt64 → EngineReply EngCredentialInfo
  nodes : ResourceNodePool (Attributes → EngineReply Attributes)

namespace AuthWidgetHelper
open Attributes ContextFactory

def initWidgetContextParam (authParam : AuthWidgetRequest) (validType : List AuthType) (widgetParam : WidgetParamInner)
    (para : AuthWidgetContextPara) : AuthWidgetContextPara :=
  {para with
    challenge:=authParam.challenge
    authTypeList:=validType
    atl:=authParam.authTrustLevel
    skipLockedBiometricAuth:=authParam.skipLockedBiometricAuth
    widgetParam:={widgetParam with
      windowMode:=if widgetParam.windowMode = .UNKNOWN_WINDOW_MODE then .DIALOG_BOX else widgetParam.windowMode}
    credentialIdList:=authParam.credentialIdList}

def setReuseUnlockResult (apiVersion : Int32) (info : EngReuseUnlockInfo) : Attributes × Bool :=
  let credentialDigest :=
    if apiVersion < INNER_API_VERSION_10000 then info.credentialDigest &&& 0xffff else info.credentialDigest
  Attributes.empty.setAll [setUint8ArrayValue ATTR_SIGNATURE info.token,setInt32Value ATTR_AUTH_TYPE info.authType,
    setInt32Value ATTR_RESULT_CODE ResultCode.SUCCESS,setUint64Value ATTR_CREDENTIAL_DIGEST credentialDigest,
    setUint16Value ATTR_CREDENTIAL_COUNT info.credentialCount]

def getUint32PropertyKeys (authType : AuthType) : List AttributeKey :=
  [ATTR_REMAIN_TIMES,ATTR_FREEZING_TIME] ++
    if authType = AuthType.PIN ∨ authType = AuthType.PRIVATE_PIN then [ATTR_PIN_SUB_TYPE,ATTR_NEXT_FAIL_LOCKOUT_DURATION]
    else if authType = AuthType.FINGERPRINT then [ATTR_SENSOR_INFO]
    else if authType = AuthType.FACE then [ATTR_CAMERA_STATUS]
    else []

-- The values of other types keep their defaults.
def parseAttributes (values : Attributes) (authType : AuthType) : Option AuthProfile := do
  let isPin := authType = AuthType.PIN ∨ authType = AuthType.PRIVATE_PIN
  let profile : AuthProfile := {}
  let pinSubType ← if isPin then values.getInt32Value ATTR_PIN_SUB_TYPE else some profile.pinSubType
  let sensorInfo ← if authType = AuthType.FINGERPRINT then values.getStringValue ATTR_SENSOR_INFO else some profile.sensorInfo
  let remainTimes ← values.getInt32Value ATTR_REMAIN_TIMES
  let freezingTime ← values.getInt32Value ATTR_FREEZING_TIME
  let nextPhaseFreezingTime :=
    if isPin then (values.getInt32Value ATTR_NEXT_FAIL_LOCKOUT_DURATION).getD profile.nextPhaseFreezingTime
    else profile.nextPhaseFreezingTime
  let cameraStatus ← if authType = AuthType.FACE then values.getUint32Value ATTR_CAMERA_STATUS else some profile.cameraStatus
  return {pinSubType,sensorInfo,remainTimes,freezingTime,nextPhaseFreezingTime,cameraStatus}

section Sources
variable (sources : AuthWidgetSources)

def getAuthCredentialList (userId : Int32) (authType : AuthType) (credentialIdList : List UInt64) :
    Option (List EngCredentialInfo) :=
  if credentialIdList.isEmpty then
    match sources.getCredentialInfo userId authType with
    | .refused _ _ => none
    | .answered credentialInfos => some credentialInfos
  else credentialIdList.mapM fun credId =>
    match sources.getCredentialInfoById credId with
    | .refused _ _ => none
    | .answered credInfo => some credInfo

-- Its callers drop the profile of a query that fails.
def getUserAuthProfile (userId : Int32) (authType : AuthType) (credentialIdList : List UInt64) :
    ResultCode × AuthProfile :=
  match getAuthCredentialList sources userId authType credentialIdList with
  | none => (ResultCode.GENERAL_ERROR,{})
  | some [] => (ResultCode.NOT_ENROLLED,{})
  | some (first :: rest) =>
    match sources.nodes.select first.executorIndex with
    | none => if authType = AuthType.ENTERPRISE_ACCOUNT then (ResultCode.SUCCESS,{}) else (ResultCode.GENERAL_ERROR,{})
    | some getProperty =>
      let attr := Attributes.empty.setEach [setInt32Value ATTR_AUTH_TYPE authType,
        setUint32Value ATTR_PROPERTY_MODE PROPERTY_MODE_GET,
        setUint64ArrayValue ATTR_TEMPLATE_ID_LIST ((first :: rest).map (·.templateId)),
        setUint32ArrayValue ATTR_KEY_LIST (getUint32PropertyKeys authType)]
      match getProperty attr with
      | .refused _ _ => (ResultCode.GENERAL_ERROR,{})
      | .answered values =>
        match parseAttributes values authType with
        | none => (ResultCode.GENERAL_ERROR,{})
        | some profile => (ResultCode.SUCCESS,profile)

def checkValidSolution (userId : Int32) (authTypeList : List AuthType) (atl : AuthTrustLevel) :
    EngineReply (List AuthType) :=
  sources.getValidSolution userId authTypeList atl

def queryReusableAuthResult (userId : Int32) (authParam : AuthWidgetRequest) : EngineReply EngReuseUnlockInfo :=
  let reuse := authParam.reuseUnlockResult
  if !reuse.isReuse || reuse.reuseDuration = 0 || reuse.reuseDuration > MAX_ALLOWABLE_REUSE_DURATION ||
      (reuse.reuseMode ≠ ReuseMode.AUTH_TYPE_RELEVANT ∧ reuse.reuseMode ≠ ReuseMode.AUTH_TYPE_IRRELEVANT ∧
        reuse.reuseMode ≠ ReuseMode.CALLER_IRRELEVANT_AUTH_TYPE_RELEVANT ∧
        reuse.reuseMode ≠ ReuseMode.CALLER_IRRELEVANT_AUTH_TYPE_IRRELEVANT) then
    .refused ResultCode.INVALID_PARAMETERS (by decide)
  else sources.checkReuseUnlockResult ⟨userId,authParam.authTrustLevel,authParam.challenge,authParam.authTypes,
    reuse.reuseMode,reuse.reuseDuration⟩

-- The attributes of a result that may be used again.
def checkReuseUnlockResult (para : AuthWidgetContextPara) (authParam : AuthWidgetRequest) : Option Attributes :=
  match queryReusableAuthResult sources para.userId authParam with
  | .refused _ _ => none
  | .answered reuseResultInfo =>
    let extraInfo := setReuseUnlockResult para.sdkVersion reuseResultInfo
    if extraInfo.2 then some extraInfo.1 else none

end Sources
end AuthWidgetHelper
end UserAuth
