import UserAuth.Common.Attributes

namespace UserAuth
open Std

abbrev AuthTrustLevel := UInt32
def ATL1 : AuthTrustLevel := 10000

inductive WindowModeType where
  | DIALOG_BOX | FULLSCREEN | UNKNOWN_WINDOW_MODE | NONE_INTERRUPTION_DIALOG_BOX
  deriving DecidableEq,Repr

structure WidgetParamInner where
  title : Bytes := []
  navigationButtonText : Bytes := []
  windowMode : WindowModeType
  hasContext : Bool := false
  deriving DecidableEq

namespace ContextFactory

structure AuthProfile where
  pinSubType : Int32 := 0
  sensorInfo : Bytes := []
  remainTimes : Int32 := 0
  freezingTime : Int32 := 0
  nextPhaseFreezingTime : Int32 := -1
  cameraStatus : UInt32 := 0
  deriving DecidableEq

structure AuthWidgetContextPara where
  userId : Int32 := INVALID_USER_ID
  sdkVersion : Int32 := 0
  tokenId : UInt32 := 0
  callerName : String := ""
  challenge : Bytes := []
  authTypeList : List AuthType := []
  atl : AuthTrustLevel := ATL1
  widgetParam : WidgetParamInner
  authProfileMap : ExtTreeMap AuthType AuthProfile := ∅
  callerType : Int32 := 0
  callingAppID : String := ""
  callingAppIdentifier : String := ""
  isPinExpired : Bool := false
  isOsAccountVerified : Bool := false
  isBackgroundApplication : Bool := false
  skipLockedBiometricAuth : Bool := false
  credentialIdList : List UInt64 := []
  remoteCallerName : String := ""
  callerPermissions : UInt32 := 0
  deriving DecidableEq

structure SudoAuthContextPara where
  userId : Int32 := INVALID_USER_ID
  tokenId : UInt32 := 0
  sdkVersion : Int32 := 0
  callerType : Int32 := 0
  callerName : String := ""
  challenge : Bytes := []
  atl : AuthTrustLevel := ATL1
  additionalInfo : Bytes := []
  isOsAccountVerified : Bool := false
  needSubscribeAppState : Bool := true
  deriving DecidableEq

end ContextFactory

inductive AuthScene where
  | AUTH_SCENE_DEFAULT | AUTH_SCENE_WIDGET_AUTH_NO_DISTURB
  deriving DecidableEq,Repr

structure AuthenticationPara where
  userId : Int32 := 0
  authType : AuthType := AuthType.ALL
  atl : AuthTrustLevel := ATL1
  tokenId : UInt32 := 0
  challenge : Bytes := []
  endAfterFirstFail : Bool := false
  callerName : String := ""
  sdkVersion : Int32 := 0
  callerType : Int32 := 0
  authIntent : AuthIntent := .DEFAULT
  isOsAccountVerified : Bool := false
  skipLockedBiometricAuth : Bool := false
  credentialIdList : List UInt64 := []
  title : Bytes := []
  authScene : AuthScene := .AUTH_SCENE_DEFAULT
  callerPermissions : UInt32 := 0
  deriving DecidableEq

end UserAuth
