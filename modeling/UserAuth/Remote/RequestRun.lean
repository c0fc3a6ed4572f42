import Mathlib.Logic.Function.Basic
import UserAuth.Lib.Mealy
import UserAuth.Remote.BaseSocket

namespace UserAuth
open Std Attributes BaseSocket

-- What a thread in SendRequest does next, after SendBytes.
inductive SendStage where
  | startReplyTimer
  | insertMsgCallback (timerId : UInt32)
  deriving DecidableEq

structure Sender (C : Type) where
  request : Nat
  connectionName : Bytes
  callback : Option C
  stage : SendStage

-- What a thread in ProcDataReceive does next, after it found a callback.
inductive AckStage where
  | callback | stopReplyTimer | removeMsgCallback
  deriving DecidableEq

structure Receiver (C : Type) where
  request : Nat
  callback : C
  attributes : Attributes
  stage : AckStage

-- What ReplyTimerTimeOut does next, after it found a connection name.
inductive TimeoutStage where
  | onConnectionDown | removeMsgCallback
  deriving DecidableEq

structure Timeout where
  request : Nat
  connectionName : Bytes
  stage : TimeoutStage

structure ReplyTimer where
  timerId : UInt32
  request : Nat

-- The record of a request whose bytes were sent: the acknowledgement that came
-- first and before its timer, and what became of it.
structure SentRequest (C : Type) where
  connectionName : Bytes
  callback : Option C
  acked : Option Attributes := none
  fired : Bool := false
  answers : List (C × Attributes) := []
  reported : Bool := false

-- All that runs under one sequence number. Requests are numbered in the order
-- they took it, and threads, timers and callbacks carry the number of theirs.
structure Exchange (C : Type) where
  senders : List (Sender C) := []
  timers : List ReplyTimer := []
  receivers : List (Receiver C) := []
  timeouts : List Timeout := []
  requests : List (SentRequest C) := []

structure RequestSocket (C : Type) where
  messageSeq : UInt32 := 0
  callbackMap : CallbackMap (Nat × C) := ∅
  exchanges : UInt32 → Exchange C := fun _ => {}
  released : Bool := false

-- A thread takes its next operation; each one is atomic, under the map's lock
-- or the timer's. Register answers with a timer id, or INVALID_TIMER_ID.
inductive RequestCall (C : Type) where
  | sendRequest (info : ConnectionInfo C) (udid : Option LocalUdid) (sent : Bool)
  | otherRequest
  | senderRuns (messageSeq : UInt32) (thread : Nat) (timerId : UInt32)
  | procDataReceive (softBusMessage : SoftBusMessage)
  | receiverRuns (messageSeq : UInt32) (thread : Nat)
  | timerFires (messageSeq : UInt32) (timer : Nat)
  | timeoutRuns (messageSeq : UInt32) (thread : Nat)
  | onShutdown (connectionName : Bytes)
  | release

inductive RequestAction (C : Type) where
  | sendBytes (socketId : Int32) (data : Bytes)
  | callback (callback : C) (attributes : Attributes)
  | onConnectionDown (connectionName : Bytes)

namespace SentRequest
variable {C : Type}

def pending (r : SentRequest C) : Bool := r.answers.isEmpty && !r.reported

def receive (attributes : Attributes) (r : SentRequest C) : SentRequest C :=
  if r.pending && !r.fired && r.acked.isNone then {r with acked:=some attributes} else r

def answer (callback : C) (attributes : Attributes) (r : SentRequest C) : SentRequest C :=
  {r with answers:=r.answers ++ [(callback,attributes)]}

def fire (r : SentRequest C) : SentRequest C := {r with fired:=true}
def report (r : SentRequest C) : SentRequest C := {r with reported:=true}

-- A shutdown reports the connection of every request still without an answer.
def shutdown (connectionName : Bytes) (r : SentRequest C) : SentRequest C :=
  if r.connectionName = connectionName ∧ r.answers.isEmpty = true then r.report else r

end SentRequest

namespace RequestSocket
variable {C : Type}

def setExchange (s : RequestSocket C) (messageSeq : UInt32) (exchange : Exchange C) : RequestSocket C :=
  {s with exchanges:=Function.update s.exchanges messageSeq exchange}

def sendRequest (s : RequestSocket C) (info : ConnectionInfo C) (udid : Option LocalUdid) (sent : Bool) :
    RequestSocket C × List (RequestAction C) :=
  if s.released then (s,[])
  else if info.attributes.isNone then (s,[])
  else if info.socketId = INVALID_SOCKET_ID then (s,[])
  else
    let s := {s with messageSeq:=s.messageSeq + 1}
    match createRequest info s.messageSeq udid with
    | none => (s,[])
    | some request =>
      let actions := [.sendBytes info.socketId (serialize request)]
      if !sent then (s,actions)
      else
        let exchange := s.exchanges s.messageSeq
        let sender := ⟨exchange.requests.length,info.connectionName,info.callback,.startReplyTimer⟩
        (s.setExchange s.messageSeq
          {exchange with senders:=exchange.senders ++ [sender],
                         requests:=exchange.requests ++ [⟨info.connectionName,info.callback,none,false,[],false⟩]},
          actions)

def senderRuns (s : RequestSocket C) (messageSeq : UInt32) (thread : Nat) (timerId : UInt32) : RequestSocket C :=
  let exchange := s.exchanges messageSeq
  match exchange.senders[thread]? with
  | none => s
  | some sender =>
    match sender.stage with
    | .startReplyTimer =>
      let started := getReplyTimer s.callbackMap messageSeq
      if started ≠ INVALID_TIMER_ID then
        let sender := {sender with stage:=.insertMsgCallback started}
        s.setExchange messageSeq {exchange with senders:=exchange.senders.set thread sender}
      else if timerId = INVALID_TIMER_ID then
        s.setExchange messageSeq {exchange with senders:=exchange.senders.eraseIdx thread}
      else
        let next := {sender with stage:=.insertMsgCallback timerId}
        s.setExchange messageSeq
          {exchange with senders:=exchange.senders.set thread next,
                         timers:=exchange.timers ++ [⟨timerId,sender.request⟩]}
    | .insertMsgCallback timerId =>
      let callback := sender.callback.map fun callback => (sender.request,callback)
      let s := {s with callbackMap:=insertMsgCallback s.callbackMap messageSeq sender.connectionName callback timerId}
      s.setExchange messageSeq {exchange with senders:=exchange.senders.eraseIdx thread}

-- A message that is no acknowledgement goes to a listener and touches none of this.
def procDataReceive (s : RequestSocket C) (softBusMessage : SoftBusMessage) : RequestSocket C :=
  if s.released then s
  else
    match softBusMessage.attributes with
    | none => s
    | some attributes =>
      if !softBusMessage.isAck then s
      else
        let exchange := s.exchanges softBusMessage.messageSeq
        let requests := exchange.requests.modify (exchange.requests.length - 1) (SentRequest.receive attributes)
        match getMsgCallback s.callbackMap softBusMessage.messageSeq with
        | none => s.setExchange softBusMessage.messageSeq {exchange with requests:=requests}
        | some (request,callback) =>
          let receiver := ⟨request,callback,attributes,.callback⟩
          s.setExchange softBusMessage.messageSeq
            {exchange with receivers:=exchange.receivers ++ [receiver],requests:=requests}

def receiverRuns (s : RequestSocket C) (messageSeq : UInt32) (thread : Nat) :
    RequestSocket C × List (RequestAction C) :=
  let exchange := s.exchanges messageSeq
  match exchange.receivers[thread]? with
  | none => (s,[])
  | some receiver =>
    match receiver.stage with
    | .callback =>
      let next := {receiver with stage:=.stopReplyTimer}
      let answer := SentRequest.answer receiver.callback receiver.attributes
      (s.setExchange messageSeq
        {exchange with receivers:=exchange.receivers.set thread next,
                       requests:=exchange.requests.modify receiver.request answer},
        [.callback receiver.callback receiver.attributes])
    | .stopReplyTimer =>
      let next := {receiver with stage:=.removeMsgCallback}
      let timerId := getReplyTimer s.callbackMap messageSeq
      let timers :=
        if timerId = INVALID_TIMER_ID then exchange.timers else exchange.timers.filter (·.timerId != timerId)
      (s.setExchange messageSeq {exchange with receivers:=exchange.receivers.set thread next,timers:=timers},[])
    | .removeMsgCallback =>
      let s := {s with callbackMap:=removeMsgCallback s.callbackMap messageSeq}
      (s.setExchange messageSeq {exchange with receivers:=exchange.receivers.eraseIdx thread},[])

-- The timer holds the socket weakly: once that is released it does nothing.
def timerFires (s : RequestSocket C) (messageSeq : UInt32) (timer : Nat) : RequestSocket C :=
  let exchange := s.exchanges messageSeq
  match exchange.timers[timer]? with
  | none => s
  | some replyTimer =>
    let exchange :=
      {exchange with timers:=exchange.timers.eraseIdx timer,
                     requests:=exchange.requests.modify replyTimer.request SentRequest.fire}
    if s.released then s.setExchange messageSeq exchange
    else
      let connectionName := getConnectionName s.callbackMap messageSeq
      if connectionName = [] then s.setExchange messageSeq exchange
      else
        let timeout := ⟨replyTimer.request,connectionName,.onConnectionDown⟩
        s.setExchange messageSeq {exchange with timeouts:=exchange.timeouts ++ [timeout]}

def timeoutRuns (s : RequestSocket C) (messageSeq : UInt32) (thread : Nat) :
    RequestSocket C × List (RequestAction C) :=
  let exchange := s.exchanges messageSeq
  match exchange.timeouts[thread]? with
  | none => (s,[])
  | some timeout =>
    match timeout.stage with
    | .onConnectionDown =>
      let next := {timeout with stage:=.removeMsgCallback}
      (s.setExchange messageSeq
        {exchange with timeouts:=exchange.timeouts.set thread next,
                       requests:=exchange.requests.modify timeout.request SentRequest.report},
        [.onConnectionDown timeout.connectionName])
    | .removeMsgCallback =>
      let s := {s with callbackMap:=removeMsgCallback s.callbackMap messageSeq}
      (s.setExchange messageSeq {exchange with timeouts:=exchange.timeouts.eraseIdx thread},[])

def onShutdown (s : RequestSocket C) (connectionName : Bytes) : RequestSocket C × List (RequestAction C) :=
  if s.released || connectionName.isEmpty then (s,[])
  else
    let reported := fun exchange : Exchange C =>
      {exchange with requests:=exchange.requests.map (SentRequest.shutdown connectionName)}
    ({s with exchanges:=fun messageSeq => reported (s.exchanges messageSeq)},[.onConnectionDown connectionName])

def release (s : RequestSocket C) : RequestSocket C := {s with released:=true,callbackMap:=∅}

def step (s : RequestSocket C) : RequestCall C → RequestSocket C × List (RequestAction C)
  | .sendRequest info udid sent => s.sendRequest info udid sent
  | .otherRequest => ({s with messageSeq:=s.messageSeq + 1},[])
  | .senderRuns messageSeq thread timerId => (s.senderRuns messageSeq thread timerId,[])
  | .procDataReceive softBusMessage => (s.procDataReceive softBusMessage,[])
  | .receiverRuns messageSeq thread => s.receiverRuns messageSeq thread
  | .timerFires messageSeq timer => (s.timerFires messageSeq timer,[])
  | .timeoutRuns messageSeq thread => s.timeoutRuns messageSeq thread
  | .onShutdown connectionName => s.onShutdown connectionName
  | .release => (s.release,[])

def machine : Mealy (RequestSocket C) (RequestCall C) (RequestAction C) := ⟨step⟩

end RequestSocket
end UserAuth
