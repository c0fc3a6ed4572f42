import Mathlib.Logic.Function.Basic
import UserAuth.Lib.Mealy
import UserAuth.Remote.BaseSocket

namespace UserAuth
open Std Attributes BaseSocket

def MAX_ONBYTES_RECEIVED_DATA_LEN : Nat := 1024 * 1024 * 10

-- What a request is sent on: a client socket, told by its object, or a peer of
-- the server socket, told by its id and how often that id was bound or shut down.
inductive Connection where
  | client (ref : Nat)
  | server (socketId : Int32) (bound : Nat)
  deriving DecidableEq

-- A callback carries the connection that its request was sent on.
structure ClientSocket (C : Type) where
  socketId : Int32
  connectionName : Bytes
  networkId : Bytes
  callbackMap : CallbackMap (Connection × C) := ∅

structure ServerSocket (C : Type) where
  socketId : Int32 := INVALID_SOCKET_ID
  serverSocketBindMap : ExtTreeMap Int32 Bytes := ∅
  clientConnectionMap : ExtTreeMap Int32 Bytes := ∅
  callbackMap : CallbackMap (Connection × C) := ∅

inductive PeerAction (C : Type) where
  | sendBytes (socketId : Int32) (data : Bytes)
  | callback (callback : Connection × C) (attributes : Attributes)
  | unregisterTimer (info : CallbackInfo (Connection × C))
  | connectionDown (connectionName : Bytes)
  | onMessage (softBusMessage : SoftBusMessage)

-- What SendMessage meets outside: the device's udid, whether the bytes are
-- sent, and the timer id that Register answers with.
structure SendEnv where
  udid : Option LocalUdid
  sent : Bool
  timerId : UInt32

inductive PeerCall (C : Type) where
  | serverCreated (socketId : Int32)
  | clientCreated (socketId : Int32) (connectionName networkId : Bytes)
  | clientReleased (ref : Nat)
  | onBind (socketId : Int32) (networkId : Option Bytes)
  | onShutdown (socketId : Int32)
  | serverSends (connectionName srcEndPoint destEndPoint : Bytes) (attributes : Option Attributes) (callback : Option C)
      (env : SendEnv)
  | clientSends (ref : Nat) (connectionName srcEndPoint destEndPoint : Bytes) (attributes : Option Attributes)
      (callback : Option C) (env : SendEnv)
  | onClientBytes (socketId : Int32) (data : Bytes)
  | onServerBytes (ref : Nat) (data : Bytes)
  | serverTimeOut (messageSeq : UInt32)
  | clientTimeOut (ref : Nat) (messageSeq : UInt32)

structure PeerSockets (C : Type) where
  messageSeq : UInt32 := 0
  server : ServerSocket C := {}
  clients : Nat → Option (ClientSocket C) := fun _ => none
  created : Nat := 0
  bound : Int32 → Nat := fun _ => 0

namespace ServerSocket
variable {C : Type}

def addServerSocket (self : ServerSocket C) (socketId : Int32) (networkId : Bytes) : ServerSocket C :=
  if socketId = INVALID_SOCKET_ID then self
  else {self with serverSocketBindMap:=self.serverSocketBindMap.insert socketId networkId}

def deleteServerSocket (self : ServerSocket C) (socketId : Int32) : ServerSocket C :=
  if socketId = INVALID_SOCKET_ID then self
  else {self with serverSocketBindMap:=self.serverSocketBindMap.erase socketId}

def getNetworkIdBySocketId (self : ServerSocket C) (socketId : Int32) : Bytes :=
  if socketId = INVALID_SOCKET_ID then [] else self.serverSocketBindMap[socketId]?.getD []

def addClientConnection (self : ServerSocket C) (socketId : Int32) (connectionName : Bytes) : ServerSocket C :=
  if socketId = INVALID_SOCKET_ID then self
  else {self with clientConnectionMap:=self.clientConnectionMap.insertIfNew socketId connectionName}

def deleteClientConnection (self : ServerSocket C) (socketId : Int32) : ServerSocket C :=
  if socketId = INVALID_SOCKET_ID then self
  else {self with clientConnectionMap:=self.clientConnectionMap.erase socketId}

def getClientConnectionName (self : ServerSocket C) (socketId : Int32) : Bytes :=
  if socketId = INVALID_SOCKET_ID then [] else self.clientConnectionMap[socketId]?.getD []

-- The first id, in their order, that the name was heard from.
def getSocketIdByClientConnectionName (self : ServerSocket C) (connectionName : Bytes) : Int32 :=
  (self.clientConnectionMap.toList.find? (·.2 == connectionName)).elim INVALID_SOCKET_ID Prod.fst

end ServerSocket

namespace PeerSockets
variable {C : Type}

-- The acknowledgement branch of ProcDataReceive.
def processAck (callbackMap : CallbackMap (Connection × C)) (messageSeq : UInt32) (attributes : Attributes) :
    CallbackMap (Connection × C) × List (PeerAction C) :=
  match callbackMap[messageSeq]? with
  | none => (callbackMap,[])
  | some info =>
    let timer := if getReplyTimer callbackMap messageSeq = INVALID_TIMER_ID then [] else [.unregisterTimer info]
    (removeMsgCallback callbackMap messageSeq,.callback info.msgCallback attributes :: timer)

-- SendRequest: the callback is in the map afterwards where the bytes were sent and a timer was given.
def sendRequest (callbackMap : CallbackMap (Connection × C)) (info : ConnectionInfo (Connection × C))
    (messageSeq : UInt32) (env : SendEnv) : CallbackMap (Connection × C) × List (PeerAction C) :=
  match createRequest info messageSeq env.udid with
  | none => (callbackMap,[])
  | some request =>
    let actions := [.sendBytes info.socketId (serialize request)]
    if !env.sent then (callbackMap,actions)
    else
      let started := getReplyTimer callbackMap messageSeq
      let timerId := if started ≠ INVALID_TIMER_ID then started else env.timerId
      if timerId = INVALID_TIMER_ID then (callbackMap,actions)
      else (insertMsgCallback callbackMap messageSeq info.connectionName info.callback timerId,actions)

-- The message that a socket takes from the bytes of a peer it knows.
def takes (networkId data : Bytes) : Option SoftBusMessage :=
  if data.length > MAX_ONBYTES_RECEIVED_DATA_LEN then none
  else if networkId = [] then none
  else BaseSocket.parseMessage networkId data

def serverTakes (s : PeerSockets C) (socketId : Int32) (data : Bytes) : Option SoftBusMessage :=
  if socketId ≤ INVALID_SOCKET_ID then none else takes (s.server.getNetworkIdBySocketId socketId) data

def onBind (s : PeerSockets C) (socketId : Int32) (networkId : Option Bytes) : PeerSockets C :=
  if socketId ≤ INVALID_SOCKET_ID then s
  else
    match networkId with
    | none => s
    | some networkId =>
      {s with server:=s.server.addServerSocket socketId networkId,
              bound:=Function.update s.bound socketId (s.bound socketId + 1)}

def onShutdown (s : PeerSockets C) (socketId : Int32) : PeerSockets C × List (PeerAction C) :=
  if socketId ≤ INVALID_SOCKET_ID then (s,[])
  else
    let connectionName := s.server.getClientConnectionName socketId
    let server := (s.server.deleteServerSocket socketId).deleteClientConnection socketId
    ({s with server:=server,bound:=Function.update s.bound socketId (s.bound socketId + 1)},
      if connectionName = [] then [] else [.connectionDown connectionName])

def serverSends (s : PeerSockets C) (connectionName srcEndPoint destEndPoint : Bytes) (attributes : Option Attributes)
    (callback : Option C) (env : SendEnv) : PeerSockets C × List (PeerAction C) :=
  let socketId := s.server.getSocketIdByClientConnectionName connectionName
  if socketId = INVALID_SOCKET_ID ∨ attributes = none then (s,[])
  else
    let callback := callback.map fun callback => (.server socketId (s.bound socketId),callback)
    let sent := sendRequest s.server.callbackMap
      ⟨socketId,connectionName,srcEndPoint,destEndPoint,attributes,callback⟩ (s.messageSeq + 1) env
    ({s with messageSeq:=s.messageSeq + 1,server:={s.server with callbackMap:=sent.1}},sent.2)

def setClient (s : PeerSockets C) (ref : Nat) (socket : ClientSocket C) (callbackMap : CallbackMap (Connection × C)) :
    PeerSockets C :=
  {s with clients:=Function.update s.clients ref (some {socket with callbackMap:=callbackMap})}

def clientSends (s : PeerSockets C) (ref : Nat) (connectionName srcEndPoint destEndPoint : Bytes)
    (attributes : Option Attributes) (callback : Option C) (env : SendEnv) : PeerSockets C × List (PeerAction C) :=
  match s.clients ref with
  | none => (s,[])
  | some socket =>
    if socket.socketId = INVALID_SOCKET_ID ∨ attributes = none then (s,[])
    else
      let callback := callback.map fun callback => (.client ref,callback)
      let sent := sendRequest socket.callbackMap
        ⟨socket.socketId,connectionName,srcEndPoint,destEndPoint,attributes,callback⟩ (s.messageSeq + 1) env
      (setClient {s with messageSeq:=s.messageSeq + 1} ref socket sent.1,sent.2)

def onClientBytes (s : PeerSockets C) (socketId : Int32) (data : Bytes) : PeerSockets C × List (PeerAction C) :=
  match s.serverTakes socketId data with
  | none => (s,[])
  | some softBusMessage =>
    match softBusMessage.isAck,softBusMessage.attributes with
    | _,none => (s,[])
    | true,some attributes =>
      let processed := processAck s.server.callbackMap softBusMessage.messageSeq attributes
      ({s with server:={s.server with callbackMap:=processed.1}},processed.2)
    | false,some _ =>
      let server :=
        if softBusMessage.connectionName = [] then s.server
        else s.server.addClientConnection socketId softBusMessage.connectionName
      ({s with server:=server},[.onMessage softBusMessage])

def onServerBytes (s : PeerSockets C) (ref : Nat) (data : Bytes) : PeerSockets C × List (PeerAction C) :=
  match s.clients ref with
  | none => (s,[])
  | some socket =>
    match takes socket.networkId data with
    | none => (s,[])
    | some softBusMessage =>
      match softBusMessage.isAck,softBusMessage.attributes with
      | _,none => (s,[])
      | true,some attributes =>
        let processed := processAck socket.callbackMap softBusMessage.messageSeq attributes
        (s.setClient ref socket processed.1,processed.2)
      | false,some _ => (s,[.onMessage softBusMessage])

def timeOut (callbackMap : CallbackMap (Connection × C)) (messageSeq : UInt32) :
    CallbackMap (Connection × C) × List (PeerAction C) :=
  let connectionName := getConnectionName callbackMap messageSeq
  if connectionName = [] then (callbackMap,[])
  else (removeMsgCallback callbackMap messageSeq,[.connectionDown connectionName])

def serverTimeOut (s : PeerSockets C) (messageSeq : UInt32) : PeerSockets C × List (PeerAction C) :=
  let timedOut := timeOut s.server.callbackMap messageSeq
  ({s with server:={s.server with callbackMap:=timedOut.1}},timedOut.2)

def clientTimeOut (s : PeerSockets C) (ref : Nat) (messageSeq : UInt32) : PeerSockets C × List (PeerAction C) :=
  match s.clients ref with
  | none => (s,[])
  | some socket =>
    let timedOut := timeOut socket.callbackMap messageSeq
    (s.setClient ref socket timedOut.1,timedOut.2)

def step (s : PeerSockets C) : PeerCall C → PeerSockets C × List (PeerAction C)
  | .serverCreated socketId => ({s with server:={socketId:=socketId}},[])
  | .clientCreated socketId connectionName networkId =>
    ({s with created:=s.created + 1,
             clients:=Function.update s.clients s.created (some ⟨socketId,connectionName,networkId,∅⟩)},[])
  | .clientReleased ref => ({s with clients:=Function.update s.clients ref none},[])
  | .onBind socketId networkId => (s.onBind socketId networkId,[])
  | .onShutdown socketId => s.onShutdown socketId
  | .serverSends connectionName srcEndPoint destEndPoint attributes callback env =>
    s.serverSends connectionName srcEndPoint destEndPoint attributes callback env
  | .clientSends ref connectionName srcEndPoint destEndPoint attributes callback env =>
    s.clientSends ref connectionName srcEndPoint destEndPoint attributes callback env
  | .onClientBytes socketId data => s.onClientBytes socketId data
  | .onServerBytes ref data => s.onServerBytes ref data
  | .serverTimeOut messageSeq => s.serverTimeOut messageSeq
  | .clientTimeOut ref messageSeq => s.clientTimeOut ref messageSeq

def machine : Mealy (PeerSockets C) (PeerCall C) (PeerAction C) := ⟨step⟩

end PeerSockets
end UserAuth
