import UserAuth.Contexts.ContextFactory

namespace UserAuth
open Attributes

def START_REMOTE_AUTH : Int32 := 1
def SEND_REMOTE_AUTH_TIP : Int32 := 2
def SEND_REMOTE_AUTH_RESULT : Int32 := 3

def REMOTE_SERVICE_ENDPOINT_NAME := "RemoteService"
def REMOTE_AUTH_INVOKER_CONTEXT_ENDPOINT_NAME := "RemoteAuthInvokerContext"

inductive ConnectStatus where
  | DISCONNECTED | CONNECTED
  deriving DecidableEq,Repr

structure AuthParamInner where
  userId : Int32 := 0
  challenge : Bytes := []
  authType : AuthType := AuthType.PIN
  authTrustLevel : AuthTrustLevel := ATL1

namespace RemoteMsgUtil

def encodeAuthParam (authParam : AuthParamInner) : List Setter :=
  [setInt32Value ATTR_USER_ID authParam.userId,setUint8ArrayValue ATTR_CHALLENGE authParam.challenge,
    setInt32Value ATTR_AUTH_TYPE authParam.authType,
    setInt32Value ATTR_AUTH_TRUST_LEVEL authParam.authTrustLevel.toInt32]

end RemoteMsgUtil
end UserAuth
