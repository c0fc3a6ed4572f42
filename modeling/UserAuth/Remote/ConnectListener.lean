import UserAuth.Common.Attributes
import UserAuth.Lib.FirstMatch

namespace UserAuth
open FirstMatch

def ascii (text : String) : Bytes := text.toList.map fun c => UInt8.ofNat c.toNat

def GLOBAL_CONNECTION_NAME : Bytes := ascii "GLOBAL"
def REMOTE_SERVICE_ENDPOINT : Bytes := ascii "RemoteService"
def REMOTE_AUTH_CONTEXT_ENDPOINT_NAME : Bytes := ascii "RemoteAuthContext"
def EXECUTOR_PROXY_ENDPOINT_NAME : Bytes := ascii "RemoteExecutorProxy"
def EXECUTOR_STUB_ENDPOINT_NAME : Bytes := ascii "RemoteExecutorStub"
def DEFAULT_MESSAGE_VERSION : UInt32 := 0

structure ListenerKey where
  connectionName : Bytes
  endPointName : Bytes
  deriving DecidableEq

structure ListenerInfo (L : Type) extends ListenerKey where
  listener : L
  deriving DecidableEq

-- The comparison that every search of the list makes: an entry made for all
-- connections answers for each of them, not the other way round.
def ListenerInfo.covers (info : ListenerInfo L) (key : ListenerKey) : Bool :=
  info.endPointName == key.endPointName &&
    (info.connectionName == key.connectionName || info.connectionName == GLOBAL_CONNECTION_NAME)

namespace RemoteConnectListenerManager

def registerListener (listeners : List (ListenerInfo L)) (connectionName endPointName : Bytes) (listener : L) :
    Option (List (ListenerInfo L)) :=
  register ListenerInfo.covers listeners ⟨connectionName,endPointName⟩ ⟨⟨connectionName,endPointName⟩,listener⟩

def unregisterListener (listeners : List (ListenerInfo L)) (connectionName endPointName : Bytes) : List (ListenerInfo L) :=
  unregister ListenerInfo.covers listeners ⟨connectionName,endPointName⟩

def findListener (listeners : List (ListenerInfo L)) (connectionName endPointName : Bytes) : Option L :=
  (lookup ListenerInfo.covers listeners ⟨connectionName,endPointName⟩).map ListenerInfo.listener

def onConnectionDown (listeners : List (ListenerInfo L)) (connectionName : Bytes) : List (ListenerInfo L) :=
  listeners.filter (·.connectionName != connectionName)

end RemoteConnectListenerManager

@[simp] theorem covers_own (info : ListenerInfo L) : info.covers info.toListenerKey = true := by
  simp [ListenerInfo.covers]

theorem covers_iff {info : ListenerInfo L} : info.covers key = true ↔
    info.endPointName = key.endPointName ∧
      (info.connectionName = key.connectionName ∨ info.connectionName = GLOBAL_CONNECTION_NAME) := by
  simp [ListenerInfo.covers]

end UserAuth
