import Mathlib.Data.List.Basic

namespace UserAuth

abbrev Bytes := List UInt8

-- The codes are an open set: executors and the engine answer with any int32.
abbrev ResultCode := Int32
namespace ResultCode
def SUCCESS : ResultCode := 0
def FAIL : ResultCode := 1
def GENERAL_ERROR : ResultCode := 2
def CANCELED : ResultCode := 3
def TIMEOUT : ResultCode := 4
def TYPE_NOT_SUPPORT : ResultCode := 5
def TRUST_LEVEL_NOT_SUPPORT : ResultCode := 6
def INVALID_PARAMETERS : ResultCode := 8
def LOCKED : ResultCode := 9
def NOT_ENROLLED : ResultCode := 10
def CANCELED_FROM_WIDGET : ResultCode := 11

def COMPLEXITY_CHECK_FAILED : ResultCode := 14
def CHECK_PERMISSION_FAILED : ResultCode := 1005
def REMOTE_DEVICE_CONNECTION_FAIL : ResultCode := 1008
end ResultCode

abbrev AuthType := Int32
namespace AuthType
def INVALID_AUTH_TYPE : AuthType := -1
def ALL : AuthType := 0
def PIN : AuthType := 1
def FACE : AuthType := 2
def FINGERPRINT : AuthType := 4
def PRIVATE_PIN : AuthType := 16
def COMPANION_DEVICE : AuthType := 64
end AuthType

-- A cast of any int32, so roles without a name occur.
abbrev ExecutorRole := Int32
namespace ExecutorRole
def COLLECTOR : ExecutorRole := 1
def VERIFIER : ExecutorRole := 2
def ALL_IN_ONE : ExecutorRole := 3
end ExecutorRole

inductive AuthIntent where
  | DEFAULT | UNLOCK | SILENT_AUTH | QUESTION_AUTH | ABANDONED_PIN_AUTH | SUDO_PIN_AUTH
  deriving DecidableEq,Repr

def INVALID_USER_ID : Int32 := -1
def API_VERSION_9 : Int32 := 9
def INNER_API_VERSION_10000 : Int32 := 10000
def QUESTION_AUTH : Int32 := 3
def PIN_QUESTION : Int32 := 10005
def PROPERTY_MODE_GET : UInt32 := 3

end UserAuth
