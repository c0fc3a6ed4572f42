import UserAuth.Remote.SoftBusMessage

namespace UserAuth
open Std Attributes

def INVALID_SOCKET_ID : Int32 := -1
def INVALID_TIMER_ID : UInt32 := 0

-- A null callback is none. Callbacks are opaque, told apart by their values.
structure ConnectionInfo (C : Type) where
  socketId : Int32
  connectionName : Bytes
  srcEndPoint : Bytes
  destEndPoint : Bytes
  attributes : Option Attributes
  callback : Option C

structure CallbackInfo (C : Type) where
  connectionName : Bytes
  msgCallback : C
  timerId : UInt32

abbrev CallbackMap (C : Type) := ExtTreeMap UInt32 (CallbackInfo C)

namespace BaseSocket
variable {C : Type}

def insertMsgCallback (callbackMap : CallbackMap C) (messageSeq : UInt32) (connectionName : Bytes) (callback : Option C)
    (timerId : UInt32) : CallbackMap C :=
  match callback with
  | none => callbackMap
  | some msgCallback => callbackMap.insertIfNew messageSeq ⟨connectionName,msgCallback,timerId⟩

def removeMsgCallback (callbackMap : CallbackMap C) (messageSeq : UInt32) : CallbackMap C := callbackMap.erase messageSeq

def getConnectionName (callbackMap : CallbackMap C) (messageSeq : UInt32) : Bytes :=
  callbackMap[messageSeq]?.elim [] CallbackInfo.connectionName

def getMsgCallback (callbackMap : CallbackMap C) (messageSeq : UInt32) : Option C :=
  callbackMap[messageSeq]?.map CallbackInfo.msgCallback

def getReplyTimer (callbackMap : CallbackMap C) (messageSeq : UInt32) : UInt32 :=
  callbackMap[messageSeq]?.elim INVALID_TIMER_ID CallbackInfo.timerId

-- The request that SendRequest serializes under a new sequence number.
def createRequest (info : ConnectionInfo C) (messageSeq : UInt32) (udid : Option LocalUdid) : Option Attributes :=
  (SoftBusMessage.create messageSeq.toInt32 info.connectionName info.srcEndPoint info.destEndPoint
    info.attributes).createMessage false udid

def setDeviceNetworkId (networkId : Bytes) (attributes : Attributes) : Option Attributes :=
  attributes.set (setStringBytes ATTR_COLLECTOR_NETWORK_ID networkId)

-- The attributes that the listener or callback gets name the peer they came from.
def parseMessage (networkId message : Bytes) : Option SoftBusMessage :=
  match SoftBusMessage.parseMessage {} message with
  | (_,none) => none
  | (softBusMessage,some attributes) =>
    (setDeviceNetworkId networkId attributes).map fun named => {softBusMessage with attributes:=some named}

end BaseSocket
end UserAuth
