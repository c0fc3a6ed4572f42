import Mathlib.Logic.Function.Basic
import UserAuth.Lib.Mealy
import UserAuth.Remote.ConnectListener
import UserAuth.Remote.RemoteMessage

namespace UserAuth
open RemoteConnectListenerManager

namespace RemoteMsgUtil

def TRUCKED_NETWORK_ID_PRINT_LEN : Nat := 4

def hexDigit (n : Nat) : UInt8 := UInt8.ofNat (if n < 10 then 48 + n else 87 + n)

-- What setw(4), setfill('0') and hex print of a uint16_t.
def printContextId (contextId : UInt64) : Bytes :=
  let id := contextId.toUInt16.toNat
  [hexDigit (id / 4096 % 16),hexDigit (id / 256 % 16),hexDigit (id / 16 % 16),hexDigit (id % 16)]

-- `networkId` is the device manager's answer for the local device.
def getConnectionName (networkId : Option Bytes) (contextId : UInt64) : Option Bytes :=
  match networkId with
  | none => none
  | some networkId =>
    if networkId.isEmpty then none
    else some (networkId.take TRUCKED_NETWORK_ID_PRINT_LEN ++ ascii ":" ++ printContextId contextId)

end RemoteMsgUtil

-- A context, or the executor proxy that a context owns.
inductive RemoteParty where
  | context (ref : Nat)
  | proxy (context ref : Nat)
  deriving DecidableEq,Repr

namespace RemoteParty

def session : RemoteParty → Nat
  | .context ref => ref
  | .proxy owner _ => owner

-- References are handed out in the order of creation.
def ref : RemoteParty → Nat
  | .context ref => ref
  | .proxy _ ref => ref

end RemoteParty

inductive RemoteContextKind where
  | invoker
  | auth
  deriving DecidableEq,Repr

-- `queries` counts the CONNECTED notices whose QUERY_EXECUTOR_INFO is still to
-- be answered. `destroyed` tells how many objects were made before the end.
structure RemoteSession where
  kind : RemoteContextKind
  connectionName : Bytes
  executorInfoMsg : Bytes := []
  needSetupConnection : Bool := true
  hasStarted : Bool := false
  queries : Nat := 0
  startAuthPosted : Bool := false
  remoteExecutorProxy : Option Nat := none
  destroyed : Option Nat := none
  deriving DecidableEq

def RemoteSession.endPointName (session : RemoteSession) : Bytes :=
  match session.kind with
  | .invoker => ascii REMOTE_AUTH_INVOKER_CONTEXT_ENDPOINT_NAME
  | .auth => REMOTE_AUTH_CONTEXT_ENDPOINT_NAME

-- Only a RemoteAuthContext asks for executor info when it is told.
def RemoteSession.onConnected (session : RemoteSession) : RemoteSession :=
  match session.kind with
  | .invoker => session
  | .auth => {session with queries:=session.queries + 1}

-- A task knows which context posted it.
inductive HandlerTask where
  | openConnection (context : Nat)
  | closeConnection (context : Nat)
  | deleteThreadHandler (context : Nat)
  deriving DecidableEq,Repr

structure ThreadHandler where
  owner : Nat
  tasks : List HandlerTask := []
  isSuspended : Bool := false
  deriving DecidableEq

-- SINGLETON_THREAD_NAME is apart: every handler here has a generated name, with
-- a colon in it.
namespace ThreadHandlerManager
variable (threadHandlerMap : Bytes → Option ThreadHandler) (name : Bytes)

def createThreadHandler (owner : Nat) : Bytes → Option ThreadHandler :=
  if (threadHandlerMap name).isSome then threadHandlerMap else Function.update threadHandlerMap name (some {owner})

def postTask (task : HandlerTask) : Bytes → Option ThreadHandler :=
  match threadHandlerMap name with
  | none => threadHandlerMap
  | some handler =>
    if handler.isSuspended then threadHandlerMap
    else Function.update threadHandlerMap name (some {handler with tasks:=handler.tasks ++ [task]})

def suspend : Bytes → Option ThreadHandler :=
  match threadHandlerMap name with
  | none => threadHandlerMap
  | some handler => Function.update threadHandlerMap name (some {handler with isSuspended:=true})

def destroyThreadHandler (context : Nat) : Bytes → Option ThreadHandler :=
  suspend (postTask threadHandlerMap name (.deleteThreadHandler context)) name

end ThreadHandlerManager

inductive SessionResource where
  | listener
  | connection
  | threadHandler
  deriving DecidableEq,Repr

structure Release where
  releaser : RemoteParty
  resource : SessionResource
  owner : RemoteParty
  deriving DecidableEq,Repr

-- `deletions` waits on the singleton thread.
structure RemoteSessions where
  sessions : Nat → Option RemoteSession
  listeners : List (ListenerInfo RemoteParty)
  threadHandlerMap : Bytes → Option ThreadHandler
  clientSocketMap : Bytes → Option Nat
  deletions : List (Bytes × Nat)
  nextRef : Nat

namespace RemoteSessions
section Shared
variable (s : RemoteSessions)

def live (ref : Nat) : Option RemoteSession := (s.sessions ref).filter (·.destroyed.isNone)

def alive : RemoteParty → Bool
  | .context ref => (s.live ref).isSome
  | .proxy context ref => (s.live context).any (·.remoteExecutorProxy == some ref)

-- A posted task can outlive the context that posted it.
def endedBefore : RemoteParty → Nat → Bool
  | .context ref,made => ((s.sessions ref).bind (·.destroyed)).any (· ≤ made)
  | .proxy _ _,_ => false

-- A party takes a resource from its owner, who lives and has been there with it.
def release (releaser : RemoteParty) (resource : SessionResource) (owner : RemoteParty) : List Release :=
  if s.alive owner && !s.endedBefore releaser owner.ref then [⟨releaser,resource,owner⟩] else []

def putSession (ref : Nat) (session : RemoteSession) : RemoteSessions :=
  {s with sessions:=Function.update s.sessions ref (some session)}

def destroyThreadHandler (context : Nat) (name : Bytes) : RemoteSessions × List Release :=
  ({s with threadHandlerMap:=ThreadHandlerManager.destroyThreadHandler s.threadHandlerMap name context},
    (s.threadHandlerMap name).toList.flatMap fun handler =>
      s.release (.context context) .threadHandler (.context handler.owner))

def deleteThreadHandler (context : Nat) (name : Bytes) : RemoteSessions × List Release :=
  ({s with threadHandlerMap:=Function.update s.threadHandlerMap name none},
    (s.threadHandlerMap name).toList.flatMap fun handler =>
      s.release (.context context) .threadHandler (.context handler.owner))

def unregisterConnectionListener (releaser : RemoteParty) (connectionName endPointName : Bytes) :
    RemoteSessions × List Release :=
  ({s with listeners:=unregisterListener s.listeners connectionName endPointName},
    (findListener s.listeners connectionName endPointName).toList.flatMap (s.release releaser .listener))

def onConnectionDown (releaser : RemoteParty) (connectionName : Bytes) : RemoteSessions × List Release :=
  ({s with listeners:=RemoteConnectListenerManager.onConnectionDown s.listeners connectionName},
    (s.listeners.filter (·.connectionName == connectionName)).flatMap fun info =>
      s.release releaser .listener info.listener)

def onConnectionUp (connectionName : Bytes) : RemoteSessions :=
  {s with sessions:=fun ref =>
    if s.listeners.any fun info => info.connectionName == connectionName && info.listener == .context ref then
      (s.sessions ref).map RemoteSession.onConnected
    else s.sessions ref}

end Shared

section Life
variable (s : RemoteSessions)

def create (session : RemoteSession) : RemoteSessions :=
  {s.putSession s.nextRef session with
    threadHandlerMap:=
      if session.needSetupConnection then
        ThreadHandlerManager.createThreadHandler s.threadHandlerMap session.connectionName s.nextRef
      else s.threadHandlerMap,
    nextRef:=s.nextRef + 1}

def setupConnection (ref : Nat) (session : RemoteSession) : RemoteSessions :=
  match registerListener s.listeners session.connectionName session.endPointName (.context ref) with
  | none => s
  | some listeners =>
    {s with
      listeners,
      threadHandlerMap:=ThreadHandlerManager.postTask s.threadHandlerMap session.connectionName (.openConnection ref)}

-- The old proxy goes when the new one takes its place, before that one starts.
def dropProxy (ref : Nat) (session : RemoteSession) : RemoteSessions × List Release :=
  match session.remoteExecutorProxy with
  | none => (s,[])
  | some proxy =>
    s.unregisterConnectionListener (.proxy ref proxy) session.connectionName EXECUTOR_PROXY_ENDPOINT_NAME

-- `executorInfos`: the message holds the info of an executor.
def startAuth (ref : Nat) (session : RemoteSession) (executorInfos : Bool) : RemoteSessions × List Release :=
  if session.executorInfoMsg.isEmpty || !executorInfos then (s,[])
  else Mealy.andThen (s.dropProxy ref session) fun s =>
    let made := {s.putSession ref {session with remoteExecutorProxy:=some s.nextRef} with nextRef:=s.nextRef + 1}
    match registerListener s.listeners session.connectionName EXECUTOR_PROXY_ENDPOINT_NAME (.proxy ref s.nextRef) with
    | none => (made,[])
    | some listeners => ({made with listeners},[])

-- `known`: what the body asks first is answered, the udid of the verifier and
-- the local one, or the infos of the executors.
def start (ref : Nat) (session : RemoteSession) (known : Bool) : RemoteSessions × List Release :=
  let session := {session with hasStarted:=true}
  let started := s.putSession ref session
  match session.kind with
  | .invoker => if known then (started.setupConnection ref session,[]) else (started,[])
  | .auth =>
    if session.needSetupConnection then (started.setupConnection ref session,[])
    else started.startAuth ref session known

def closeAndDestroy (ref : Nat) (session : RemoteSession) : RemoteSessions × List Release :=
  if session.needSetupConnection then
    let closing := ThreadHandlerManager.postTask s.threadHandlerMap session.connectionName (.closeConnection ref)
    {s with threadHandlerMap:=closing}.destroyThreadHandler ref session.connectionName
  else (s,[])

def destroy (ref : Nat) (session : RemoteSession) : RemoteSessions × List Release :=
  Mealy.andThen (s.unregisterConnectionListener (.context ref) session.connectionName session.endPointName) fun s =>
  Mealy.andThen (s.closeAndDestroy ref session) fun s =>
  Mealy.andThen (s.dropProxy ref session) fun s => (s.putSession ref {session with destroyed:=some s.nextRef},[])

def doOpenConnection (context : Nat) (connectionName : Bytes) (opened : Bool) : RemoteSessions × List Release :=
  if !opened then s.onConnectionDown (.context context) connectionName
  else
    -- insert keeps a socket that is there
    let clientSocketMap :=
      if (s.clientSocketMap connectionName).isSome then s.clientSocketMap
      else Function.update s.clientSocketMap connectionName (some context)
    ({s with clientSocketMap}.onConnectionUp connectionName,[])

def doCloseConnection (context : Nat) (connectionName : Bytes) : RemoteSessions × List Release :=
  match s.clientSocketMap connectionName with
  | none => (s,[])
  | some owner =>
    Mealy.andThen (s.onConnectionDown (.context context) connectionName) fun s =>
      ({s with clientSocketMap:=Function.update s.clientSocketMap connectionName none},
        s.release (.context context) .connection (.context owner))

def runTask (name : Bytes) (opened : Bool) : RemoteSessions × List Release :=
  match s.threadHandlerMap name with
  | none => (s,[])
  | some handler =>
    match handler.tasks with
    | [] => (s,[])
    | task :: tasks =>
      let s := {s with threadHandlerMap:=Function.update s.threadHandlerMap name (some {handler with tasks})}
      match task with
      | .openConnection context => s.doOpenConnection context name opened
      | .closeConnection context => s.doCloseConnection context name
      | .deleteThreadHandler context => ({s with deletions:=s.deletions ++ [(name,context)]},[])

def runDeletion : RemoteSessions × List Release :=
  match s.deletions with
  | [] => (s,[])
  | (name,context) :: deletions => {s with deletions}.deleteThreadHandler context name

end Life

-- The request of a peer has been read, so it is not empty.
inductive Input where
  | createRemoteAuthInvokerContext (networkId : Option Bytes) (contextId : UInt64)
  | createRemoteAuthContext (networkId : Option Bytes) (contextId : UInt64)
  | procStartRemoteAuthRequest (networkId : Option Bytes) (contextId : UInt64) (connectionName : Bytes)
    (request : {request : Bytes // request ≠ []})
  | start (ref : Nat) (known : Bool)
  | queryReply (ref : Nat) (reply : Bytes)
  | startAuthDelayed (ref : Nat) (executorInfos : Bool)
  | destroy (ref : Nat)
  | runTask (name : Bytes) (opened : Bool)
  | runDeletion
  -- the transport's own: a client socket is gone, or an answer is overdue
  | onShutdown (connectionName : Bytes)
  | onReplyTimeOut (connectionName : Bytes)

-- The context that an input makes, where its connection name can be had.
def Input.made : Input → Option RemoteSession
  | .createRemoteAuthInvokerContext networkId contextId =>
    (RemoteMsgUtil.getConnectionName networkId contextId).map fun connectionName => {kind:=.invoker,connectionName}
  | .createRemoteAuthContext networkId contextId =>
    (RemoteMsgUtil.getConnectionName networkId contextId).map fun connectionName => {kind:=.auth,connectionName}
  | .procStartRemoteAuthRequest networkId contextId connectionName request =>
    let named := if connectionName.isEmpty then RemoteMsgUtil.getConnectionName networkId contextId else some connectionName
    named.map fun connectionName =>
      {kind:=.auth,connectionName,executorInfoMsg:=request.val,needSetupConnection:=request.val.isEmpty}
  | _ => none

def step (s : RemoteSessions) (input : Input) : RemoteSessions × List Release :=
  match input with
  | .createRemoteAuthInvokerContext _ _ | .createRemoteAuthContext _ _ | .procStartRemoteAuthRequest _ _ _ _ =>
    match input.made with
    | none => (s,[])
    | some session => (s.create session,[])
  | .start ref known =>
    match s.live ref with
    | none => (s,[])
    | some session => if session.hasStarted then (s,[]) else s.start ref session known
  | .queryReply ref reply =>
    match s.live ref with
    | none => (s,[])
    | some session =>
      if session.queries = 0 then (s,[])
      else
        (s.putSession ref
          {session with queries:=session.queries - 1,executorInfoMsg:=reply,startAuthPosted:=true},[])
  | .startAuthDelayed ref executorInfos =>
    match s.live ref with
    | none => (s,[])
    | some session =>
      if !session.startAuthPosted then (s,[])
      else
        let session := {session with startAuthPosted:=false}
        (s.putSession ref session).startAuth ref session executorInfos
  | .destroy ref =>
    match s.live ref with
    | none => (s,[])
    | some session => s.destroy ref session
  | .runTask name opened => s.runTask name opened
  | .runDeletion => s.runDeletion
  | .onShutdown connectionName =>
    ({s with
      listeners:=RemoteConnectListenerManager.onConnectionDown s.listeners connectionName,
      clientSocketMap:=Function.update s.clientSocketMap connectionName none},[])
  | .onReplyTimeOut connectionName =>
    ({s with listeners:=RemoteConnectListenerManager.onConnectionDown s.listeners connectionName},[])

def initial : RemoteSessions := ⟨fun _ => none,[],fun _ => none,fun _ => none,[],0⟩

end RemoteSessions

def remoteSessions : Mealy RemoteSessions RemoteSessions.Input Release := ⟨RemoteSessions.step⟩

end UserAuth
