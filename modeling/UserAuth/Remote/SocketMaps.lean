import UserAuth.Remote.SoftBusManager

namespace UserAuth.SoftBusManager
open Std TwinMaps

-- An open connection's name leads to its socket and the socket's name back.
structure Consistent (s : SoftBusManager) : Prop where
  present : ∀ (connectionName : Bytes) (socket : SocketObject), s.clientSocketMap[connectionName]? = some socket →
    (∃ socketId : Int32, s.socketMap[socketId]? = some socket) ∧ socket.getConnectionName = connectionName
  reachable : ∀ (socketId : Int32) (socket : SocketObject), s.socketMap[socketId]? = some socket →
    socket.isClient = true → s.clientSocketMap[socket.getConnectionName]? = some socket

-- Closing a name leaves the sockets and the entries of all other names.
def ClosesOwn (s next : SoftBusManager) : SocketCall → Prop
  | .closeConnection connectionName =>
    (∀ (socketId : Int32) (socket : SocketObject), s.socketMap[socketId]? = some socket →
      (socket.isClient = true → socket.getConnectionName ≠ connectionName) → next.socketMap[socketId]? = some socket) ∧
    ∀ other : Bytes, other ≠ connectionName → next.clientSocketMap[other]? = s.clientSocketMap[other]?
  | _ => True

structure Sound (s : SoftBusManager) (call : SocketCall) : Prop where
  consistent : Consistent (s.step call).1
  closesOwn : ClosesOwn s (s.step call).1 call

-- Whether an attempt to open gets as far as the two maps.
def Opens (connectionName networkId : Bytes) (env : SocketEnv) : Prop :=
  INVALID_SOCKET_ID < clientSocketInit connectionName networkId env.socketId ∧ env.created = true ∧ env.bound = true

-- The inserts do not overwrite, and a server socket answers with an empty name.
def Clear (s : SoftBusManager) : SocketCall → Prop
  | .openConnection connectionName networkId env => Opens connectionName networkId env →
    (connectionName ∈ s.clientSocketMap ↔ clientSocketInit connectionName networkId env.socketId ∈ s.socketMap)
  | .onShutdown socketId => INVALID_SOCKET_ID < socketId → ∀ socket, s.socketMap[socketId]? = some socket →
    socket.isClient = false → [] ∉ s.clientSocketMap
  | .serviceSocketUnInit => ∀ serverSocket, s.serverSocket = some serverSocket →
    ∀ socket, s.socketMap[serverSocket.socketId]? = some socket → socket.isClient = true →
      ∃ (socketId : Int32) (other : SocketObject), socketId ≠ serverSocket.socketId ∧
        s.socketMap[socketId]? = some other ∧ other.getConnectionName = socket.getConnectionName
  | _ => True

def nameOf (socket : SocketObject) : Option Bytes :=
  if socket.isClient then some socket.getConnectionName else none

-- What every run keeps, consistent or not.
structure Formed (s : SoftBusManager) : Prop where
  stored : ∀ (socketId : Int32) (socket : SocketObject), s.socketMap[socketId]? = some socket →
    socket.socketId = socketId ∧ INVALID_SOCKET_ID < socketId ∧ socket.ref < s.created
  clients : ∀ (connectionName : Bytes) (socket : SocketObject), s.clientSocketMap[connectionName]? = some socket →
    socket.isClient = true ∧ INVALID_SOCKET_ID < socket.socketId ∧ socket.ref < s.created
  server : ∀ socket, s.serverSocket = some socket → INVALID_SOCKET_ID < socket.socketId

abbrev Twins (s : SoftBusManager) : Prop := Twin SocketObject.socketId nameOf s.socketMap s.clientSocketMap

theorem nameOf_client {socket : SocketObject} (client : socket.isClient = true) :
    nameOf socket = some socket.getConnectionName := if_pos client

theorem nameOf_server {socket : SocketObject} (server : socket.isClient = false) : nameOf socket = none := by
  rw [nameOf,server]
  rfl

theorem Formed.consistent_iff {s : SoftBusManager} (formed : Formed s) : Consistent s ↔ Twins s := by
  constructor
  · intro consistent
    refine ⟨fun socketId socket held => (formed.stored socketId socket held).1,?_,?_⟩
    · intro connectionName socket held
      obtain ⟨⟨socketId,placed⟩,called⟩ := consistent.present connectionName socket held
      have own := (formed.stored socketId socket placed).1
      rw [nameOf_client (formed.clients connectionName socket held).1,called,own]
      exact ⟨rfl,placed⟩
    · intro socketId socket connectionName held called
      by_cases client : socket.isClient = true
      · rw [nameOf_client client] at called
        cases called
        exact consistent.reachable socketId socket held client
      · rw [nameOf_server (Bool.eq_false_iff.mpr client)] at called
        cases called
  · intro twins
    refine ⟨?_,?_⟩
    · intro connectionName socket held
      obtain ⟨called,placed⟩ := twins.named connectionName socket held
      rw [nameOf_client (formed.clients connectionName socket held).1] at called
      exact ⟨⟨_,placed⟩,Option.some.inj called⟩
    · intro socketId socket held client
      exact twins.found socketId socket _ held (nameOf_client client)

theorem Formed.shrink {s next : SoftBusManager} (formed : Formed s)
    (ids : ∀ (socketId : Int32) (socket : SocketObject), next.socketMap[socketId]? = some socket →
      s.socketMap[socketId]? = some socket)
    (names : ∀ (connectionName : Bytes) (socket : SocketObject), next.clientSocketMap[connectionName]? = some socket →
      s.clientSocketMap[connectionName]? = some socket)
    (server : ∀ socket, next.serverSocket = some socket → s.serverSocket = some socket)
    (later : s.created ≤ next.created) : Formed next := by
  refine ⟨?_,?_,?_⟩
  · intro socketId socket held
    obtain ⟨own,valid,old⟩ := formed.stored socketId socket (ids socketId socket held)
    exact ⟨own,valid,old.trans_le later⟩
  · intro connectionName socket held
    obtain ⟨client,valid,old⟩ := formed.clients connectionName socket (names connectionName socket held)
    exact ⟨client,valid,old.trans_le later⟩
  · exact fun socket held => formed.server socket (server socket held)

section Open
variable {s : SoftBusManager} {connectionName networkId : Bytes} {env : SocketEnv}

def newClient (s : SoftBusManager) (connectionName networkId : Bytes) (env : SocketEnv) : SocketObject :=
  ⟨s.created,clientSocketInit connectionName networkId env.socketId,.client connectionName networkId⟩

theorem open_succeeds (opens : Opens connectionName networkId env) :
    (s.doOpenConnection connectionName networkId env).1 =
      ⟨s.socketMap.insertIfNew (clientSocketInit connectionName networkId env.socketId)
          (s.newClient connectionName networkId env),
        s.clientSocketMap.insertIfNew connectionName (s.newClient connectionName networkId env),s.serverSocket,
        s.created + 1⟩ := by
  obtain ⟨valid,created,bound⟩ := opens
  have low : ¬clientSocketInit connectionName networkId env.socketId ≤ INVALID_SOCKET_ID := Int32.not_le.mpr valid
  have apart : clientSocketInit connectionName networkId env.socketId ≠ INVALID_SOCKET_ID := (Int32.ne_of_lt valid).symm
  delta doOpenConnection doOpenConnectionInner
  dsimp only
  rw [if_neg low,created,bound,addSocket,if_neg apart]
  rfl

theorem open_fails (fails : ¬Opens connectionName networkId env) :
    ∃ created, s.created ≤ created ∧
      (s.doOpenConnection connectionName networkId env).1 = {s with created:=created} := by
  delta doOpenConnection doOpenConnectionInner
  dsimp only
  by_cases low : clientSocketInit connectionName networkId env.socketId ≤ INVALID_SOCKET_ID
  · rw [if_pos low]
    exact ⟨_,Nat.le_refl _,rfl⟩
  · rw [if_neg low]
    cases created : env.created with
    | false => exact ⟨_,Nat.le_refl _,rfl⟩
    | true =>
      cases bound : env.bound with
      | false => exact ⟨_,Nat.le_succ _,rfl⟩
      | true => exact absurd ⟨Int32.not_le.mp low,created,bound⟩ fails

theorem open_formed (formed : Formed s) : Formed (s.doOpenConnection connectionName networkId env).1 := by
  by_cases opens : Opens connectionName networkId env
  · rw [open_succeeds opens]
    refine ⟨?_,?_,formed.server⟩
    · intro socketId socket held
      rcases getElem?_insertIfNew_some held with ⟨rfl,rfl⟩ | old
      · exact ⟨rfl,opens.1,Nat.lt_succ_self _⟩
      · obtain ⟨own,valid,older⟩ := formed.stored socketId socket old
        exact ⟨own,valid,Nat.lt_succ_of_lt older⟩
    · intro other socket held
      rcases getElem?_insertIfNew_some held with ⟨rfl,rfl⟩ | old
      · exact ⟨rfl,opens.1,Nat.lt_succ_self _⟩
      · obtain ⟨client,valid,older⟩ := formed.clients other socket old
        exact ⟨client,valid,Nat.lt_succ_of_lt older⟩
  · obtain ⟨created,later,same⟩ := open_fails (s:=s) opens
    rw [same]
    exact formed.shrink (fun _ _ => id) (fun _ _ => id) (fun _ => id) later

theorem open_twins_iff (formed : Formed s) (twins : Twins s) :
    Twins (s.doOpenConnection connectionName networkId env).1 ↔
      s.Clear (.openConnection connectionName networkId env) := by
  rw [Clear]
  by_cases opens : Opens connectionName networkId env
  · rw [open_succeeds opens,forall_prop_of_true opens]
    have fresh : ∀ socketId : Int32, s.socketMap[socketId]? ≠ some (s.newClient connectionName networkId env) := by
      intro socketId held
      exact Nat.lt_irrefl _ (formed.stored socketId _ held).2.2
    have unnamed : ∀ other : Bytes, s.clientSocketMap[other]? ≠ some (s.newClient connectionName networkId env) := by
      intro other held
      exact Nat.lt_irrefl _ (formed.clients other _ held).2.2
    exact twins.opened_iff fresh unnamed (nameOf_client rfl)
  · obtain ⟨created,_,same⟩ := open_fails (s:=s) opens
    rw [same]
    exact iff_of_true twins fun given => absurd given opens

end Open

section Delete
variable {s : SoftBusManager} {socketId : Int32} {connectionName : Bytes} {socket : SocketObject}

-- The state after a socket and a connection are deleted.
def without (s : SoftBusManager) (socketId : Int32) (connectionName : Bytes) : SoftBusManager :=
  {s with socketMap:=s.socketMap.erase socketId,clientSocketMap:=s.clientSocketMap.erase connectionName}

theorem without_formed (formed : Formed s) : Formed (s.without socketId connectionName) :=
  formed.shrink (fun _ _ held => (getElem?_erase_some.mp held).2) (fun _ _ held => (getElem?_erase_some.mp held).2)
    (fun _ => id) (Nat.le_refl _)

theorem delete_both (valid : INVALID_SOCKET_ID < socketId) :
    (s.deleteSocket socketId).deleteConnection connectionName = s.without socketId connectionName := by
  rw [deleteSocket,if_neg (Int32.ne_of_lt valid).symm]
  rfl

theorem close_absent (absent : s.clientSocketMap[connectionName]? = none) :
    (s.doCloseConnection connectionName).1 = s := by
  rw [doCloseConnection,findClientSocket,absent]

theorem close_present (formed : Formed s) (held : s.clientSocketMap[connectionName]? = some socket) :
    (s.doCloseConnection connectionName).1 = s.without socket.socketId connectionName := by
  have valid := (formed.clients connectionName socket held).2.1
  rw [doCloseConnection,findClientSocket,held]
  dsimp only
  rw [if_neg (Int32.ne_of_lt valid).symm,delete_both valid]

theorem close_formed (formed : Formed s) : Formed (s.doCloseConnection connectionName).1 := by
  cases held : s.clientSocketMap[connectionName]? with
  | none => rwa [close_absent held]
  | some socket =>
    rw [close_present formed held]
    exact without_formed formed

theorem close_twins (formed : Formed s) (twins : Twins s) : Twins (s.doCloseConnection connectionName).1 := by
  cases held : s.clientSocketMap[connectionName]? with
  | none => rwa [close_absent held]
  | some socket =>
    obtain ⟨called,placed⟩ := twins.named connectionName socket held
    rw [close_present formed held]
    exact twins.closed placed called

theorem close_own (formed : Formed s) (twins : Twins s) :
    ClosesOwn s (s.doCloseConnection connectionName).1 (.closeConnection connectionName) := by
  cases held : s.clientSocketMap[connectionName]? with
  | none =>
    rw [close_absent held]
    exact ⟨fun _ _ placed _ => placed,fun _ _ => rfl⟩
  | some socket =>
    obtain ⟨called,placed⟩ := twins.named connectionName socket held
    have client := (formed.clients connectionName socket held).1
    rw [nameOf_client client] at called
    rw [close_present formed held]
    refine ⟨?_,?_⟩
    · intro other kept inside apart
      refine getElem?_erase_some.mpr ⟨?_,inside⟩
      rintro rfl
      cases placed.symm.trans inside
      exact apart client (Option.some.inj called)
    · intro other apart
      exact ExtTreeMap.getElem?_erase.trans (if_neg fun same => apart (compare_eq_iff_eq.mp same).symm)

theorem shutdown_ignored (idle : s.socketMap[socketId]? = none) : (s.onShutdown socketId).1 = s := by
  rw [onShutdown]
  split
  · rfl
  · rename_i low
    have valid : socketId ≠ INVALID_SOCKET_ID := fun same => low (same ▸ Int32.le_refl _)
    rw [findSocketBySocketId,if_neg valid,idle]

theorem shutdown_found (formed : Formed s) (held : s.socketMap[socketId]? = some socket) :
    (s.onShutdown socketId).1 = s.without socketId socket.getConnectionName := by
  have valid := (formed.stored socketId socket held).2.1
  rw [onShutdown,if_neg (Int32.not_le.mpr valid),findSocketBySocketId,if_neg (Int32.ne_of_lt valid).symm,held]
  dsimp only
  rw [delete_both valid]

theorem shutdown_formed (formed : Formed s) : Formed (s.onShutdown socketId).1 := by
  cases held : s.socketMap[socketId]? with
  | none => rwa [shutdown_ignored held]
  | some socket =>
    rw [shutdown_found formed held]
    exact without_formed formed

theorem server_name (server : socket.isClient = false) : socket.getConnectionName = [] := by
  obtain ⟨ref,socketId,kind⟩ := socket
  cases kind with
  | client => cases server
  | server => rfl

-- A socket that is no client deletes the connection of the empty name.
theorem shutdown_twins_iff (formed : Formed s) (twins : Twins s) :
    Twins (s.onShutdown socketId).1 ↔ s.Clear (.onShutdown socketId) := by
  cases held : s.socketMap[socketId]? with
  | none =>
    rw [shutdown_ignored held]
    refine iff_of_true twins ?_
    intro _ socket inside
    rw [held] at inside
    cases inside
  | some socket =>
    have valid := (formed.stored socketId socket held).2.1
    rw [shutdown_found formed held,Clear,forall_prop_of_true valid,held]
    by_cases client : socket.isClient = true
    · refine iff_of_true (twins.closed held (nameOf_client client)) ?_
      intro other same server
      cases same
      rw [client] at server
      cases server
    · have server := Bool.eq_false_iff.mpr client
      have left := twins.left held (nameOf_server server)
      rw [without,server_name server]
      constructor
      · intro kept other same _ used
        cases same
        obtain ⟨open_,found⟩ := Option.isSome_iff_exists.mp (ExtTreeMap.mem_iff_isSome_getElem?.mp used)
        obtain ⟨called,placed⟩ := left.named [] open_ found
        exact (getElem?_erase_some.mp (kept.found _ open_ [] placed called)).1 rfl
      · intro clear
        have absent := clear socket rfl server
        have same : s.clientSocketMap.erase [] = s.clientSocketMap := erase_absent absent
        rw [Twins]
        dsimp only
        rwa [same]

end Delete

section Service
variable {s : SoftBusManager} {env : SocketEnv} {serverSocket : SocketObject}

theorem init_state (s : SoftBusManager) (env : SocketEnv) :
    (s.doServiceSocketInit env).1 = s ∨ INVALID_SOCKET_ID < env.socketId ∧ ∃ socket : SocketObject,
      socket.socketId = env.socketId ∧ socket.isClient = false ∧ socket.ref = s.created ∧
      (s.doServiceSocketInit env).1 =
        ⟨s.socketMap.insertIfNew env.socketId socket,s.clientSocketMap,some socket,s.created + 1⟩ := by
  rw [doServiceSocketInit]
  split
  · exact .inl rfl
  · rename_i low
    have valid := Int32.not_le.mp low
    split
    · exact .inl rfl
    · refine .inr ⟨valid,⟨s.created,env.socketId,.server⟩,rfl,rfl,rfl,?_⟩
      dsimp only
      rw [addSocket,if_neg (Int32.ne_of_lt valid).symm]

theorem init_formed (formed : Formed s) : Formed (s.doServiceSocketInit env).1 := by
  rcases init_state s env with same | ⟨valid,socket,id,_,ref,same⟩
  · rwa [same]
  · rw [same]
    refine ⟨?_,?_,?_⟩
    · intro socketId other held
      rcases getElem?_insertIfNew_some held with ⟨rfl,rfl⟩ | old
      · exact ⟨id,valid,ref ▸ Nat.lt_succ_self _⟩
      · obtain ⟨own,above,older⟩ := formed.stored socketId other old
        exact ⟨own,above,Nat.lt_succ_of_lt older⟩
    · intro connectionName other held
      obtain ⟨client,above,older⟩ := formed.clients connectionName other held
      exact ⟨client,above,Nat.lt_succ_of_lt older⟩
    · intro other held
      cases held
      rwa [id]

theorem init_twins (twins : Twins s) : Twins (s.doServiceSocketInit env).1 := by
  rcases init_state s env with same | ⟨_,socket,id,server,_,same⟩
  · rwa [same]
  · rw [same,← id]
    exact twins.joined (nameOf_server server)

theorem shutdownAll_cons (s : SoftBusManager) (socketId : Int32) (rest : List Int32) :
    (s.shutdownAll (socketId :: rest)).1 = ((s.onShutdown socketId).1.shutdownAll rest).1 := rfl

theorem shutdownAll_formed (formed : Formed s) (ids : List Int32) : Formed (s.shutdownAll ids).1 := by
  induction ids generalizing s with
  | nil => exact formed
  | cons socketId rest ih => exact ih (shutdown_formed formed)

theorem shutdownAll_sockets (formed : Formed s) (ids : List Int32) (other : Int32) (socket : SocketObject) :
    (s.shutdownAll ids).1.socketMap[other]? = some socket ↔ s.socketMap[other]? = some socket ∧ other ∉ ids := by
  induction ids generalizing s with
  | nil => exact (and_iff_left List.not_mem_nil).symm
  | cons socketId rest ih =>
    rw [shutdownAll_cons,ih (shutdown_formed formed),List.mem_cons,not_or,← and_assoc]
    apply and_congr_left'
    cases held : s.socketMap[socketId]? with
    | none =>
      rw [shutdown_ignored held]
      refine (and_iff_left_of_imp ?_).symm
      rintro inside rfl
      rw [held] at inside
      cases inside
    | some first =>
      rw [shutdown_found formed held]
      exact getElem?_erase_some.trans (and_comm.trans (and_congr_right' ne_comm))

-- A connection stays open where no socket that is shut down answers with its name.
theorem shutdownAll_names (formed : Formed s) (ids : List Int32) (connectionName : Bytes) (socket : SocketObject) :
    (s.shutdownAll ids).1.clientSocketMap[connectionName]? = some socket ↔
      s.clientSocketMap[connectionName]? = some socket ∧ ∀ socketId ∈ ids, ∀ other,
        s.socketMap[socketId]? = some other → other.getConnectionName ≠ connectionName := by
  induction ids generalizing s with
  | nil => exact (and_iff_left fun _ none_ => (List.not_mem_nil none_).elim).symm
  | cons socketId rest ih =>
    rw [shutdownAll_cons,ih (shutdown_formed formed),List.forall_mem_cons]
    cases held : s.socketMap[socketId]? with
    | none =>
      rw [shutdown_ignored held]
      simp
    | some first =>
      rw [shutdown_found formed held]
      constructor
      · rintro ⟨kept,others⟩
        obtain ⟨apart,open_⟩ := getElem?_erase_some.mp kept
        refine ⟨open_,?_,?_⟩
        · rintro other same
          cases same
          exact apart
        · intro id inside other placed
          by_cases again : socketId = id
          · subst again
            cases held.symm.trans placed
            exact apart
          · exact others id inside other (getElem?_erase_some.mpr ⟨again,placed⟩)
      · rintro ⟨open_,apart,others⟩
        refine ⟨getElem?_erase_some.mpr ⟨apart first rfl,open_⟩,?_⟩
        intro id inside other placed
        exact others id inside other (getElem?_erase_some.mp placed).2

theorem stop_idle (down : s.serverSocket = none) : s.serviceSocketUnInit.1 = s := by
  rw [serviceSocketUnInit,down]

def stopping (s : SoftBusManager) (serverSocket : SocketObject) : SoftBusManager :=
  {s with socketMap:=s.socketMap.erase serverSocket.socketId,serverSocket:=none}

theorem stopping_formed (formed : Formed s) (serverSocket : SocketObject) : Formed (s.stopping serverSocket) :=
  formed.shrink (fun _ _ held => (getElem?_erase_some.mp held).2) (fun _ _ => id) (fun _ none_ => nomatch none_)
    (Nat.le_refl _)

theorem stop_state (formed : Formed s) (up : s.serverSocket = some serverSocket) :
    s.serviceSocketUnInit.1 =
      ((s.stopping serverSocket).shutdownAll (s.stopping serverSocket).socketMap.keys).1 := by
  have valid := formed.server serverSocket up
  rw [serviceSocketUnInit,up]
  dsimp only
  rw [deleteSocket,if_neg (Int32.ne_of_lt valid).symm]
  rfl

theorem stop_formed (formed : Formed s) : Formed s.serviceSocketUnInit.1 := by
  cases up : s.serverSocket with
  | none => rwa [stop_idle up]
  | some serverSocket =>
    rw [stop_state formed up]
    exact shutdownAll_formed (stopping_formed formed serverSocket) _

theorem stop_sockets (formed : Formed s) (up : s.serverSocket = some serverSocket) (socketId : Int32)
    (socket : SocketObject) : s.serviceSocketUnInit.1.socketMap[socketId]? ≠ some socket := by
  intro held
  rw [stop_state formed up,shutdownAll_sockets (stopping_formed formed serverSocket)] at held
  apply held.2
  rw [ExtTreeMap.mem_keys,ExtTreeMap.mem_iff_isSome_getElem?,held.1]
  rfl

-- A connection outlasts the stop where only the socket under the server's id has its name.
theorem stop_names (formed : Formed s) (up : s.serverSocket = some serverSocket) (connectionName : Bytes)
    (socket : SocketObject) : s.serviceSocketUnInit.1.clientSocketMap[connectionName]? = some socket ↔
      s.clientSocketMap[connectionName]? = some socket ∧ ¬∃ (socketId : Int32) (other : SocketObject),
        socketId ≠ serverSocket.socketId ∧ s.socketMap[socketId]? = some other ∧
          other.getConnectionName = connectionName := by
  rw [stop_state formed up,shutdownAll_names (stopping_formed formed serverSocket)]
  apply and_congr_right'
  constructor
  · rintro apart ⟨socketId,other,own,inside,called⟩
    have remains : (s.stopping serverSocket).socketMap[socketId]? = some other :=
      getElem?_erase_some.mpr ⟨own.symm,inside⟩
    refine apart socketId ?_ other remains called
    rw [ExtTreeMap.mem_keys,ExtTreeMap.mem_iff_isSome_getElem?,remains]
    rfl
  · rintro alone socketId _ other remains called
    obtain ⟨own,inside⟩ := getElem?_erase_some.mp remains
    exact alone ⟨socketId,other,own.symm,inside,called⟩

theorem stop_twins_iff (formed : Formed s) (twins : Twins s) :
    Twins s.serviceSocketUnInit.1 ↔ s.Clear .serviceSocketUnInit := by
  cases up : s.serverSocket with
  | none =>
    rw [stop_idle up,Clear,up]
    exact iff_of_true twins fun _ none_ => nomatch none_
  | some serverSocket =>
    have gone := stop_sockets formed up
    have closed := stop_names formed up
    rw [Clear,up]
    constructor
    · intro kept server same socket held client
      cases same
      by_contra alone
      have open_ := twins.found _ socket _ held (nameOf_client client)
      exact gone _ socket (kept.named _ socket ((closed _ socket).mpr ⟨open_,alone⟩)).2
    · intro clear
      refine ⟨fun _ _ held => absurd held (gone _ _),?_,fun _ _ _ held => absurd held (gone _ _)⟩
      intro connectionName socket held
      obtain ⟨open_,alone⟩ := (closed connectionName socket).mp held
      obtain ⟨called,placed⟩ := twins.named connectionName socket open_
      have client := (formed.clients connectionName socket open_).1
      rw [nameOf_client client] at called
      refine absurd ?_ alone
      by_cases own : socket.socketId = serverSocket.socketId
      · obtain ⟨socketId,other,apart,inside,same⟩ := clear serverSocket rfl socket (own ▸ placed) client
        exact ⟨socketId,other,apart,inside,same.trans (Option.some.inj called)⟩
      · exact ⟨socket.socketId,socket,own,placed,Option.some.inj called⟩

end Service

theorem step_formed (s : SoftBusManager) (call : SocketCall) (formed : Formed s) : Formed (s.step call).1 := by
  cases call with
  | openConnection => exact open_formed formed
  | closeConnection => exact close_formed formed
  | onShutdown => exact shutdown_formed formed
  | doServiceSocketInit => exact init_formed formed
  | serviceSocketUnInit => exact stop_formed formed

theorem step_twins_iff (s : SoftBusManager) (call : SocketCall) (formed : Formed s) (twins : Twins s) :
    Twins (s.step call).1 ↔ s.Clear call := by
  cases call with
  | openConnection => exact open_twins_iff formed twins
  | closeConnection => exact iff_of_true (close_twins formed twins) trivial
  | onShutdown => exact shutdown_twins_iff formed twins
  | doServiceSocketInit => exact iff_of_true (init_twins twins) trivial
  | serviceSocketUnInit => exact stop_twins_iff formed twins

theorem step_closesOwn (s : SoftBusManager) (call : SocketCall) (formed : Formed s) (twins : Twins s) :
    ClosesOwn s (s.step call).1 call := by
  cases call with
  | closeConnection => exact close_own formed twins
  | openConnection | onShutdown | doServiceSocketInit | serviceSocketUnInit => trivial

theorem sound_iff (s : SoftBusManager) (call : SocketCall) (valid : Formed s ∧ Consistent s) :
    s.Sound call ↔ s.Clear call := by
  obtain ⟨formed,consistent⟩ := valid
  have twins := formed.consistent_iff.mp consistent
  rw [← step_twins_iff s call formed twins,← (step_formed s call formed).consistent_iff]
  exact ⟨Sound.consistent,fun next => ⟨next,step_closesOwn s call formed twins⟩⟩

theorem formed_empty : Formed {} := by
  refine ⟨?_,?_,?_⟩ <;> simp

theorem consistent_empty : Consistent {} := formed_empty.consistent_iff.mpr twin_empty

theorem socket_maps_consistent_iff (calls : List SocketCall) :
    machine.Meets Sound {} calls ↔ machine.Meets Clear {} calls := by
  apply Mealy.meets_iff (m:=machine) (Q:=fun s => Formed s ∧ Consistent s)
  · exact sound_iff
  · intro s call valid sound
    exact ⟨step_formed s call valid.1,sound.consistent⟩
  · exact ⟨formed_empty,consistent_empty⟩

-- The second socket of a name stands under its id alone and outlasts the close.
theorem name_opened_twice : ¬∀ calls : List SocketCall, machine.Meets Sound {} calls := by
  intro all
  have met := all [.openConnection (ascii "name") (ascii "peer") ⟨1,true,true⟩,
    .openConnection (ascii "name") (ascii "peer") ⟨2,true,true⟩]
  have reachable := met.2.1.consistent.reachable 2 ⟨1,2,.client (ascii "name") (ascii "peer")⟩
  revert reachable
  decide

end UserAuth.SoftBusManager
