import UserAuth.Lib.Mealy
import UserAuth.Lib.TwinMaps
import UserAuth.Remote.BaseSocket

namespace UserAuth
open Std TwinMaps

def USER_AUTH_SOCKET_NAME : Bytes := ascii "ohos.useriam."
def USER_AUTH_PACKAGE_NAME : Bytes := ascii "ohos.useriam"
def SOCKET_NAME_MAX_LEN : Nat := 256
def PACKAGE_NAME_MAX_LEN : Nat := 256

inductive SocketKind where
  | client (connectionName networkId : Bytes)
  | server
  deriving DecidableEq

-- Two sockets of one id and name are told apart by the order they were created in.
structure SocketObject where
  ref : Nat
  socketId : Int32
  kind : SocketKind
  deriving DecidableEq

namespace SocketObject

def getConnectionName (socket : SocketObject) : Bytes :=
  match socket.kind with
  | .client connectionName _ => connectionName
  | .server => []

def isClient (socket : SocketObject) : Bool :=
  match socket.kind with
  | .client _ _ => true
  | .server => false

end SocketObject

-- What an attempt to open meets outside: the id that Socket gives, whether
-- the object is created, and whether Bind or Listen succeeds in the end.
structure SocketEnv where
  socketId : Int32
  created : Bool
  bound : Bool

inductive SocketCall where
  | openConnection (connectionName networkId : Bytes) (env : SocketEnv)
  | closeConnection (connectionName : Bytes)
  | onShutdown (socketId : Int32)
  | doServiceSocketInit (env : SocketEnv)
  | serviceSocketUnInit

-- What the manager asks of its collaborators. The server socket keeps maps of
-- its own for the connections that peers opened.
inductive SocketAction where
  | connectionUp (connectionName : Bytes)
  | connectionDown (connectionName : Bytes)
  | shutdown (socketId : Int32)
  | serverShutdown (socketId : Int32)
  deriving DecidableEq

structure SoftBusManager where
  socketMap : ExtTreeMap Int32 SocketObject := ∅
  clientSocketMap : ExtTreeMap Bytes SocketObject := ∅
  serverSocket : Option SocketObject := none
  created : Nat := 0

namespace SoftBusManager

def addSocket (s : SoftBusManager) (socketId : Int32) (socket : SocketObject) : SoftBusManager :=
  if socketId = INVALID_SOCKET_ID then s else {s with socketMap:=s.socketMap.insertIfNew socketId socket}

def deleteSocket (s : SoftBusManager) (socketId : Int32) : SoftBusManager :=
  if socketId = INVALID_SOCKET_ID then s else {s with socketMap:=s.socketMap.erase socketId}

def findSocketBySocketId (s : SoftBusManager) (socketId : Int32) : Option SocketObject :=
  if socketId = INVALID_SOCKET_ID then none else s.socketMap[socketId]?

def addConnection (s : SoftBusManager) (connectionName : Bytes) (socket : SocketObject) : SoftBusManager :=
  {s with clientSocketMap:=s.clientSocketMap.insertIfNew connectionName socket}

def deleteConnection (s : SoftBusManager) (connectionName : Bytes) : SoftBusManager :=
  {s with clientSocketMap:=s.clientSocketMap.erase connectionName}

def findClientSocket (s : SoftBusManager) (connectionName : Bytes) : Option SocketObject :=
  s.clientSocketMap[connectionName]?

def checkAndCopyStr (destLen : Nat) (src : Bytes) : Bool := !decide (destLen < src.length + 1)

def clientSocketInit (connectionName networkId : Bytes) (socket : Int32) : Int32 :=
  if !checkAndCopyStr SOCKET_NAME_MAX_LEN (USER_AUTH_SOCKET_NAME ++ connectionName) then INVALID_SOCKET_ID
  else if !checkAndCopyStr SOCKET_NAME_MAX_LEN (USER_AUTH_SOCKET_NAME ++ ascii "service") then INVALID_SOCKET_ID
  else if !checkAndCopyStr SOCKET_NAME_MAX_LEN networkId then INVALID_SOCKET_ID
  else if !checkAndCopyStr PACKAGE_NAME_MAX_LEN USER_AUTH_PACKAGE_NAME then INVALID_SOCKET_ID
  else socket

def doOpenConnectionInner (s : SoftBusManager) (connectionName networkId : Bytes) (env : SocketEnv) :
    SoftBusManager × List SocketAction × Bool :=
  let socketId := clientSocketInit connectionName networkId env.socketId
  if socketId ≤ INVALID_SOCKET_ID then (s,[],false)
  else if !env.created then (s,[.shutdown socketId],false)
  else
    let clientSocket : SocketObject := ⟨s.created,socketId,.client connectionName networkId⟩
    let s := {s with created:=s.created + 1}
    if !env.bound then (s,[.shutdown socketId],false)
    else ((s.addConnection connectionName clientSocket).addSocket socketId clientSocket,[],true)

def doOpenConnection (s : SoftBusManager) (connectionName networkId : Bytes) (env : SocketEnv) :
    SoftBusManager × List SocketAction :=
  match s.doOpenConnectionInner connectionName networkId env with
  | (s,actions,false) => (s,actions ++ [.connectionDown connectionName])
  | (s,actions,true) => (s,actions ++ [.connectionUp connectionName])

def doCloseConnection (s : SoftBusManager) (connectionName : Bytes) : SoftBusManager × List SocketAction :=
  match s.findClientSocket connectionName with
  | none => (s,[])
  | some clientSocket =>
    if clientSocket.socketId = INVALID_SOCKET_ID then (s,[])
    else ((s.deleteSocket clientSocket.socketId).deleteConnection connectionName,[.connectionDown connectionName])

def socketShutdown (socket : SocketObject) (socketId : Int32) : List SocketAction :=
  match socket.kind with
  | .client connectionName _ => if connectionName = [] then [] else [.connectionDown connectionName]
  | .server => [.serverShutdown socketId]

def onShutdown (s : SoftBusManager) (socketId : Int32) : SoftBusManager × List SocketAction :=
  if socketId ≤ INVALID_SOCKET_ID then (s,[])
  else
    let told := if s.serverSocket.isSome then [.serverShutdown socketId] else []
    match s.findSocketBySocketId socketId with
    | none => (s,told)
    | some clientSocket =>
      ((s.deleteSocket socketId).deleteConnection clientSocket.getConnectionName,
        told ++ socketShutdown clientSocket socketId)

-- One attempt of the retried initialisation. The names it copies are constants that fit.
def doServiceSocketInit (s : SoftBusManager) (env : SocketEnv) : SoftBusManager × List SocketAction :=
  if env.socketId ≤ INVALID_SOCKET_ID then (s,[])
  else if !env.bound || !env.created then (s,[.shutdown env.socketId])
  else
    let serverSocket : SocketObject := ⟨s.created,env.socketId,.server⟩
    let s := {s with created:=s.created + 1}
    ({s.addSocket env.socketId serverSocket with serverSocket:=some serverSocket},[])

def shutdownAll (s : SoftBusManager) : List Int32 → SoftBusManager × List SocketAction
  | [] => (s,[])
  | socketId :: rest => Mealy.andThen (s.onShutdown socketId) fun s => s.shutdownAll rest

def serviceSocketUnInit (s : SoftBusManager) : SoftBusManager × List SocketAction :=
  match s.serverSocket with
  | none => (s,[])
  | some serverSocket =>
    let s := {s.deleteSocket serverSocket.socketId with serverSocket:=none}
    s.shutdownAll s.socketMap.keys

def step (s : SoftBusManager) : SocketCall → SoftBusManager × List SocketAction
  | .openConnection connectionName networkId env => s.doOpenConnection connectionName networkId env
  | .closeConnection connectionName => s.doCloseConnection connectionName
  | .onShutdown socketId => s.onShutdown socketId
  | .doServiceSocketInit env => s.doServiceSocketInit env
  | .serviceSocketUnInit => s.serviceSocketUnInit

def machine : Mealy SoftBusManager SocketCall SocketAction := ⟨step⟩

end SoftBusManager
end UserAuth
