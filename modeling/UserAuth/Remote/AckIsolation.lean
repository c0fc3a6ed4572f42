import UserAuth.Remote.ServerSocket

namespace UserAuth
open Std Attributes BaseSocket

-- The connection of the request that an action completes or whose timer it cancels.
def PeerAction.touches {C : Type} : PeerAction C → Option Connection
  | .callback completed _ => some completed.1
  | .unregisterTimer info => some info.msgCallback.1
  | .sendBytes .. | .connectionDown _ | .onMessage _ => none

-- Every request waiting in the map was sent on the connection.
def SentOn {C : Type} (connection : Connection) (callbackMap : CallbackMap (Connection × C)) : Prop :=
  ∀ (messageSeq : UInt32) (info : CallbackInfo (Connection × C)), callbackMap[messageSeq]? = some info →
    info.msgCallback.1 = connection

-- The requests sent on other connections still wait.
def Keeps {C : Type} (connection : Connection) (before after : CallbackMap (Connection × C)) : Prop :=
  ∀ (messageSeq : UInt32) (info : CallbackInfo (Connection × C)), before[messageSeq]? = some info →
    info.msgCallback.1 ≠ connection → after[messageSeq]? = some info

namespace PeerSockets
variable {C : Type}

structure Spares (connection : Connection) (before after : PeerSockets C) (actions : List (PeerAction C)) : Prop where
  touched : ∀ action ∈ actions, ∀ sent, action.touches = some sent → sent = connection
  server : Keeps connection before.server.callbackMap after.server.callbackMap
  clients : ∀ ref socket, before.clients ref = some socket →
    ∃ later, after.clients ref = some later ∧ Keeps connection socket.callbackMap later.callbackMap

-- The connection that a message comes in on.
def arrives (s : PeerSockets C) : PeerCall C → Option Connection
  | .onClientBytes socketId _ => some (.server socketId (s.bound socketId))
  | .onServerBytes ref _ => some (.client ref)
  | _ => none

def Isolated (s : PeerSockets C) (call : PeerCall C) : Prop :=
  ∀ connection, s.arrives call = some connection → Spares connection s (s.step call).1 (s.step call).2

-- An acknowledgement to the server socket carries no sequence number of a request to another peer.
def AcksOwn (s : PeerSockets C) : PeerCall C → Prop
  | .onClientBytes socketId data =>
    ∀ softBusMessage, s.serverTakes socketId data = some softBusMessage → softBusMessage.isAck = true →
      ∀ info, s.server.callbackMap[softBusMessage.messageSeq]? = some info →
        info.msgCallback.1 = .server socketId (s.bound socketId)
  | _ => True

section Maps
variable {connection : Connection} {callbackMap : CallbackMap (Connection × C)}

theorem sentOn_empty : SentOn connection (∅ : CallbackMap (Connection × C)) := by
  intro messageSeq info held
  rw [ExtTreeMap.getElem?_empty] at held
  cases held

theorem sentOn_remove (own : SentOn connection callbackMap) (removed : UInt32) :
    SentOn connection (removeMsgCallback callbackMap removed) := by
  intro messageSeq info held
  rw [removeMsgCallback,ExtTreeMap.getElem?_erase] at held
  split at held
  · cases held
  · exact own messageSeq info held

theorem sentOn_insert (own : SentOn connection callbackMap) (added : UInt32) (connectionName : Bytes)
    (callback : Option C) (timerId : UInt32) :
    SentOn connection (insertMsgCallback callbackMap added connectionName
      (callback.map fun callback => (connection,callback)) timerId) := by
  cases callback with
  | none => exact own
  | some callback =>
    intro messageSeq info held
    rw [Option.map_some,insertMsgCallback,ExtTreeMap.getElem?_insertIfNew] at held
    split at held
    · cases held
      rfl
    · exact own messageSeq info held

theorem sentOn_request (own : SentOn connection callbackMap) (socketId : Int32)
    (connectionName srcEndPoint destEndPoint : Bytes) (attributes : Option Attributes) (callback : Option C)
    (sequence : UInt32) (env : SendEnv) :
    SentOn connection (sendRequest callbackMap ⟨socketId,connectionName,srcEndPoint,destEndPoint,attributes,
      callback.map fun callback => (connection,callback)⟩ sequence env).1 := by
  unfold sendRequest
  dsimp only
  repeat' split
  all_goals first | exact own | exact sentOn_insert own sequence connectionName callback _

theorem sentOn_ack (own : SentOn connection callbackMap) (sequence : UInt32) (attributes : Attributes) :
    SentOn connection (processAck callbackMap sequence attributes).1 := by
  unfold processAck
  split
  · exact own
  · exact sentOn_remove own sequence

theorem sentOn_timeOut (own : SentOn connection callbackMap) (sequence : UInt32) :
    SentOn connection (timeOut callbackMap sequence).1 := by
  unfold timeOut
  dsimp only
  split
  · exact own
  · exact sentOn_remove own sequence

theorem keeps_refl (connection : Connection) (callbackMap : CallbackMap (Connection × C)) :
    Keeps connection callbackMap callbackMap :=
  fun _ _ held _ => held

theorem ack_keeps {sequence : UInt32}
    (own : ∀ info, callbackMap[sequence]? = some info → info.msgCallback.1 = connection) (attributes : Attributes) :
    Keeps connection callbackMap (processAck callbackMap sequence attributes).1 := by
  intro messageSeq info held other
  unfold processAck
  split
  · exact held
  · have distinct : sequence ≠ messageSeq := by
      rintro rfl
      exact other (own info held)
    rw [removeMsgCallback,ExtTreeMap.getElem?_erase,if_neg (by simpa using distinct)]
    exact held

theorem ack_touches (sequence : UInt32) (attributes : Attributes) :
    (∀ action ∈ (processAck callbackMap sequence attributes).2, ∀ sent, action.touches = some sent →
      sent = connection) ↔
      ∀ info, callbackMap[sequence]? = some info → info.msgCallback.1 = connection := by
  unfold processAck
  split
  · rename_i absent
    simp [absent]
  · rename_i info held
    constructor
    · intro own other same
      rw [held] at same
      cases same
      exact own _ List.mem_cons_self _ rfl
    · intro own action member sent touched
      have label := own info held
      split at member <;> simp only [List.mem_cons,List.not_mem_nil,or_false] at member
      · subst member
        cases touched
        exact label
      · rcases member with rfl | rfl <;> cases touched <;> exact label

end Maps

-- Every client socket waits only for what was sent on it.
def Labelled (s : PeerSockets C) : Prop :=
  ∀ ref socket, s.clients ref = some socket → SentOn (.client ref) socket.callbackMap

section Labels
variable {s : PeerSockets C}

theorem labelled_update (labelled : Labelled s) (ref : Nat) (socket : Option (ClientSocket C))
    (own : ∀ later, socket = some later → SentOn (.client ref) later.callbackMap) :
    Labelled {s with clients:=Function.update s.clients ref socket} := by
  intro other later live
  change Function.update s.clients ref socket other = some later at live
  by_cases same : other = ref
  · subst same
    rw [Function.update_self] at live
    exact own later live
  · rw [Function.update_of_ne same] at live
    exact labelled other later live

theorem labelled_setClient (labelled : Labelled s) {ref : Nat} {socket : ClientSocket C}
    {callbackMap : CallbackMap (Connection × C)} (own : SentOn (.client ref) callbackMap) :
    Labelled (s.setClient ref socket callbackMap) := by
  apply labelled_update labelled
  intro later same
  cases same
  exact own

theorem clientSends_labelled (labelled : Labelled s) (ref : Nat) (connectionName srcEndPoint destEndPoint : Bytes)
    (attributes : Option Attributes) (callback : Option C) (env : SendEnv) :
    Labelled (s.clientSends ref connectionName srcEndPoint destEndPoint attributes callback env).1 := by
  unfold clientSends
  dsimp only
  repeat' split
  · exact labelled
  · exact labelled
  · rename_i socket live _
    apply labelled_setClient labelled
    apply sentOn_request (labelled ref socket live)

-- Bytes for a client socket are an acknowledgement to its own map, or touch no request.
theorem onServerBytes_cases (s : PeerSockets C) (ref : Nat) (data : Bytes) :
    (∃ actions, s.onServerBytes ref data = (s,actions) ∧ ∀ action ∈ actions, action.touches = none) ∨
      ∃ socket sequence attributes, s.clients ref = some socket ∧ s.onServerBytes ref data =
        (s.setClient ref socket (processAck socket.callbackMap sequence attributes).1,
          (processAck socket.callbackMap sequence attributes).2) := by
  unfold onServerBytes
  cases live : s.clients ref with
  | none => exact .inl ⟨[],rfl,nofun⟩
  | some socket =>
    dsimp only
    split
    · exact .inl ⟨[],rfl,nofun⟩
    · split
      · exact .inl ⟨[],rfl,nofun⟩
      · exact .inr ⟨socket,_,_,rfl,rfl⟩
      · exact .inl ⟨_,rfl,by simp [PeerAction.touches]⟩

theorem onServerBytes_labelled (labelled : Labelled s) (ref : Nat) (data : Bytes) :
    Labelled (s.onServerBytes ref data).1 := by
  rcases s.onServerBytes_cases ref data with ⟨actions,same,_⟩ | ⟨socket,sequence,attributes,live,same⟩
  · rwa [same]
  · rw [same]
    exact labelled_setClient labelled (sentOn_ack (labelled ref socket live) sequence attributes)

theorem clientTimeOut_labelled (labelled : Labelled s) (ref : Nat) (sequence : UInt32) :
    Labelled (s.clientTimeOut ref sequence).1 := by
  unfold clientTimeOut
  split
  · exact labelled
  · rename_i socket live
    exact labelled_setClient labelled (sentOn_timeOut (labelled ref socket live) sequence)

theorem onClientBytes_clients (s : PeerSockets C) (socketId : Int32) (data : Bytes) :
    (s.onClientBytes socketId data).1.clients = s.clients := by
  unfold onClientBytes
  dsimp only
  repeat' split
  all_goals rfl

theorem serverSends_clients (s : PeerSockets C) (connectionName srcEndPoint destEndPoint : Bytes)
    (attributes : Option Attributes) (callback : Option C) (env : SendEnv) :
    (s.serverSends connectionName srcEndPoint destEndPoint attributes callback env).1.clients = s.clients := by
  unfold serverSends
  dsimp only
  split <;> rfl

theorem onBind_clients (s : PeerSockets C) (socketId : Int32) (networkId : Option Bytes) :
    (s.onBind socketId networkId).clients = s.clients := by
  unfold onBind
  repeat' split
  all_goals rfl

theorem onShutdown_clients (s : PeerSockets C) (socketId : Int32) : (s.onShutdown socketId).1.clients = s.clients := by
  unfold onShutdown
  split <;> rfl

theorem Labelled.of_clients {later : PeerSockets C} (labelled : Labelled s) (same : later.clients = s.clients) :
    Labelled later := by
  intro ref socket live
  rw [same] at live
  exact labelled ref socket live

theorem step_labelled (s : PeerSockets C) (call : PeerCall C) (labelled : Labelled s) : Labelled (s.step call).1 := by
  cases call with
  | serverCreated | serverTimeOut => exact labelled
  | clientCreated socketId connectionName networkId =>
    apply labelled_update labelled
    intro later same
    cases same
    exact sentOn_empty
  | clientReleased ref =>
    apply labelled_update labelled
    intro later same
    cases same
  | onBind socketId networkId => exact labelled.of_clients (s.onBind_clients socketId networkId)
  | onShutdown socketId => exact labelled.of_clients (s.onShutdown_clients socketId)
  | serverSends => exact labelled.of_clients (s.serverSends_clients ..)
  | clientSends => apply clientSends_labelled labelled
  | onClientBytes socketId data => exact labelled.of_clients (s.onClientBytes_clients socketId data)
  | onServerBytes ref data => exact onServerBytes_labelled labelled ref data
  | clientTimeOut ref messageSeq => exact clientTimeOut_labelled labelled ref messageSeq

end Labels

section Arrivals
variable {s : PeerSockets C} {connection : Connection}

theorem clients_kept (connection : Connection) {later : PeerSockets C} (same : later.clients = s.clients) (ref : Nat)
    (socket : ClientSocket C) (live : s.clients ref = some socket) :
    ∃ kept, later.clients ref = some kept ∧ Keeps connection socket.callbackMap kept.callbackMap :=
  ⟨socket,by rw [same,live],keeps_refl _ _⟩

theorem Spares.quiet {later : PeerSockets C} {actions : List (PeerAction C)}
    (server : later.server.callbackMap = s.server.callbackMap) (clients : later.clients = s.clients)
    (silent : ∀ action ∈ actions, action.touches = none) : Spares connection s later actions := by
  refine ⟨?_,server ▸ keeps_refl _ _,clients_kept connection clients⟩
  intro action member sent touched
  rw [silent action member] at touched
  cases touched

theorem takes_attributes {networkId data : Bytes} {softBusMessage : SoftBusMessage}
    (taken : takes networkId data = some softBusMessage) : softBusMessage.attributes.isSome := by
  unfold takes BaseSocket.parseMessage at taken
  repeat' split at taken
  all_goals first | cases taken | skip
  obtain ⟨named,_,rfl⟩ := Option.map_eq_some_iff.mp taken
  rfl

theorem serverTakes_attributes {socketId : Int32} {data : Bytes} {softBusMessage : SoftBusMessage}
    (taken : s.serverTakes socketId data = some softBusMessage) : softBusMessage.attributes.isSome := by
  unfold serverTakes at taken
  split at taken
  · cases taken
  · exact takes_attributes taken

theorem addClientConnection_callbackMap (server : ServerSocket C) (socketId : Int32) (connectionName : Bytes) :
    (server.addClientConnection socketId connectionName).callbackMap = server.callbackMap := by
  unfold ServerSocket.addClientConnection
  split <;> rfl

theorem client_spares (labelled : Labelled s) (ref : Nat) (data : Bytes) :
    Spares (.client ref) s (s.onServerBytes ref data).1 (s.onServerBytes ref data).2 := by
  rcases s.onServerBytes_cases ref data with ⟨actions,same,silent⟩ | ⟨socket,sequence,attributes,live,same⟩
  · rw [same]
    exact .quiet rfl rfl silent
  · rw [same]
    have own := labelled ref socket live sequence
    refine ⟨(ack_touches ..).mpr own,keeps_refl _ _,?_⟩
    intro other waiting held
    by_cases here : other = ref
    · subst here
      rw [live] at held
      cases held
      exact ⟨_,Function.update_self ..,ack_keeps own attributes⟩
    · exact ⟨waiting,(Function.update_of_ne here ..).trans held,keeps_refl _ _⟩

theorem server_spares_iff (s : PeerSockets C) (socketId : Int32) (data : Bytes) :
    Spares (.server socketId (s.bound socketId)) s (s.onClientBytes socketId data).1 (s.onClientBytes socketId data).2 ↔
      s.AcksOwn (.onClientBytes socketId data) := by
  unfold onClientBytes AcksOwn
  cases taken : s.serverTakes socketId data with
  | none =>
    apply iff_of_true (.quiet rfl rfl (by simp))
    intro softBusMessage same
    rw [taken] at same
    cases same
  | some softBusMessage =>
    obtain ⟨attributes,kept⟩ := Option.isSome_iff_exists.mp (serverTakes_attributes taken)
    cases flag : softBusMessage.isAck with
    | false =>
      dsimp only
      rw [flag,kept]
      apply iff_of_true
      · refine .quiet ?_ rfl (by simp [PeerAction.touches])
        dsimp only
        split
        · rfl
        · exact addClientConnection_callbackMap ..
      · intro message same acks
        rw [taken] at same
        cases same
        rw [flag] at acks
        cases acks
    | true =>
      dsimp only
      rw [flag,kept]
      constructor
      · intro spares message same _
        rw [taken] at same
        cases same
        exact (ack_touches ..).mp spares.touched
      · intro acks
        have own := acks softBusMessage taken flag
        exact ⟨(ack_touches ..).mpr own,ack_keeps own attributes,clients_kept _ rfl⟩

theorem isolated_iff (s : PeerSockets C) (call : PeerCall C) (labelled : Labelled s) :
    s.Isolated call ↔ s.AcksOwn call := by
  cases call with
  | onClientBytes socketId data =>
    rw [← server_spares_iff]
    constructor
    · intro isolated
      exact isolated _ rfl
    · rintro spares _ ⟨⟩
      exact spares
  | onServerBytes ref data =>
    apply iff_of_true
    · rintro _ ⟨⟩
      exact client_spares labelled ref data
    · trivial
  | serverCreated | clientCreated | clientReleased | onBind | onShutdown | serverSends | clientSends | serverTimeOut
  | clientTimeOut => exact iff_of_true nofun trivial

end Arrivals

-- Client sockets isolate by having a map each; the server socket's peers share one.
theorem acks_isolated_iff (calls : List (PeerCall C)) :
    machine.Meets Isolated {} calls ↔ machine.Meets AcksOwn {} calls := by
  apply Mealy.meets_congr (m:=machine) (Q:=Labelled)
  · exact step_labelled
  · exact isolated_iff
  · exact nofun

def messageOf (connectionName : Bytes) (isAck : Bool) : Bytes :=
  ((SoftBusMessage.create 1 connectionName (ascii "src") (ascii "dest") (some empty)).createMessage isAck
    (some SoftBusMessage.ownUdid)).elim [] serialize

def twoPeers : List (PeerCall Nat) :=
  [.onBind 1 (some (ascii "first")),.onBind 2 (some (ascii "second")),.onClientBytes 1 (messageOf (ascii "name") false),
    .serverSends (ascii "name") (ascii "src") (ascii "dest") (some empty) (some 7) ⟨some SoftBusMessage.ownUdid,true,1⟩]

-- The second peer acknowledges the first request that went to the first peer.
theorem other_peer_completes : ¬∀ calls : List (PeerCall Nat), machine.Meets Isolated {} calls := by
  intro all
  have met := all (twoPeers ++ [.onClientBytes 2 (messageOf [] true)])
  rw [Mealy.meets_append] at met
  have spares := met.2.1 _ rfl
  have completed : .server 1 1 ∈ ((machine.after {} twoPeers).step (.onClientBytes 2 (messageOf [] true))).2.filterMap
      PeerAction.touches := by decide +kernel
  obtain ⟨action,member,touched⟩ := List.mem_filterMap.mp completed
  have crossed := (Connection.server.inj (spares.touched action member _ touched)).1
  revert crossed
  decide

end PeerSockets
end UserAuth
