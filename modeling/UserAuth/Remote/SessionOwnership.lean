import UserAuth.Remote.RemoteSession

namespace UserAuth
open RemoteConnectListenerManager FirstMatch

namespace RemoteMsgUtil

theorem hexDigit_injective : ∀ a < 16,∀ b < 16,hexDigit a = hexDigit b → a = b := by decide

theorem printContextId_eq : printContextId a = printContextId b ↔ a.toUInt16 = b.toUInt16 := by
  constructor
  · intro same
    simp only [printContextId,List.cons.injEq,and_true] at same
    obtain ⟨first,second,third,last⟩ := same
    have first := hexDigit_injective _ (Nat.mod_lt _ (by decide)) _ (Nat.mod_lt _ (by decide)) first
    have second := hexDigit_injective _ (Nat.mod_lt _ (by decide)) _ (Nat.mod_lt _ (by decide)) second
    have third := hexDigit_injective _ (Nat.mod_lt _ (by decide)) _ (Nat.mod_lt _ (by decide)) third
    have last := hexDigit_injective _ (Nat.mod_lt _ (by decide)) _ (Nat.mod_lt _ (by decide)) last
    have small := a.toUInt16.toNat_lt
    have small' := b.toUInt16.toNat_lt
    apply UInt16.toNat_inj.mp
    omega
  · intro same
    simp only [printContextId,same]

theorem getConnectionName_eq (named : getConnectionName networkId contextId = some name) :
    ∃ id, networkId = some id ∧ name = id.take TRUCKED_NETWORK_ID_PRINT_LEN ++ (ascii ":" ++ printContextId contextId) := by
  unfold getConnectionName at named
  split at named
  · cases named
  · rename_i id
    split at named
    · cases named
    · exact ⟨id,rfl,by rw [←Option.some.inj named,List.append_assoc]⟩

-- Only four characters of the network id and sixteen bits of the context id
-- tell two names apart.
theorem names_shared_iff {first second : Bytes} (one : getConnectionName (some first) a = some name)
    (two : getConnectionName (some second) b = some other) : name = other ↔
      first.take TRUCKED_NETWORK_ID_PRINT_LEN = second.take TRUCKED_NETWORK_ID_PRINT_LEN ∧ a.toUInt16 = b.toUInt16 := by
  obtain ⟨id,here,rfl⟩ := getConnectionName_eq one
  cases here
  obtain ⟨id,here,rfl⟩ := getConnectionName_eq two
  cases here
  constructor
  · intro same
    obtain ⟨networks,rest⟩ := List.append_inj' same rfl
    exact ⟨networks,printContextId_eq.mp (List.append_cancel_left rest)⟩
  · intro ⟨networks,ids⟩
    rw [networks,printContextId_eq.mpr ids]

theorem generated_not_global (named : getConnectionName networkId contextId = some name) : name ≠ GLOBAL_CONNECTION_NAME := by
  obtain ⟨id,_,rfl⟩ := getConnectionName_eq named
  intro same
  have colon : (58 : UInt8) ∈ GLOBAL_CONNECTION_NAME := by
    rw [←same]
    simp [ascii]
  exact absurd colon (by decide)

end RemoteMsgUtil

namespace RemoteSession

-- The context has asked its peer for nothing yet and has no proxy.
def Untouched (session : RemoteSession) : Prop :=
  session.queries = 0 ∧ session.startAuthPosted = false ∧ session.remoteExecutorProxy = none

structure Valid (session : RemoteSession) (ref nextRef : Nat) : Prop where
  made : ref < nextRef
  named : session.connectionName ≠ GLOBAL_CONNECTION_NAME
  ended : ∀ d, session.destroyed = some d → d ≤ nextRef
  proxy : ∀ p, session.remoteExecutorProxy = some p → ref < p
  quiet : session.hasStarted = false → session.Untouched

-- What a step keeps of a context.
structure Kept (old new : RemoteSession) : Prop where
  kind : new.kind = old.kind
  name : new.connectionName = old.connectionName
  setup : new.needSetupConnection = old.needSetupConnection
  started : old.hasStarted = true → new.hasStarted = true
  alive : old.destroyed = none ∨ new.destroyed = old.destroyed

theorem Kept.refl (session : RemoteSession) : Kept session session := ⟨rfl,rfl,rfl,id,.inr rfl⟩

theorem Kept.endPoint {old new : RemoteSession} (kept : Kept old new) : new.endPointName = old.endPointName := by
  simp only [endPointName,kept.kind]

theorem endPoint_not_proxy (session : RemoteSession) : session.endPointName ≠ EXECUTOR_PROXY_ENDPOINT_NAME := by
  unfold endPointName
  cases session.kind <;> decide

end RemoteSession

-- A handler is used by the context it was made for, which opens its connection
-- once, before all else, and leaves the handler suspended.
structure ThreadHandler.Valid (handler : ThreadHandler) (session : RemoteSession) (name : Bytes) : Prop where
  named : session.connectionName = name
  setup : session.needSetupConnection = true
  running : handler.isSuspended = false → session.destroyed = none
  opensOnce : handler.tasks.count (.openConnection handler.owner) ≤ 1
  opening : .openConnection handler.owner ∈ handler.tasks → session.hasStarted = true ∧ session.Untouched
  closing : .closeConnection handler.owner ∈ handler.tasks → session.destroyed ≠ none

namespace ThreadHandler.Valid
variable {handler : ThreadHandler} (fits : handler.Valid session name)
include fits

theorem suspends : {handler with isSuspended:=true}.Valid session name :=
  ⟨fits.named,fits.setup,by simp,fits.opensOnce,fits.opening,fits.closing⟩

-- The handler of a context that goes is suspended, with or without the tasks that
-- close what it opened.
theorem ends (last : Nat) : {handler with isSuspended:=true}.Valid {session with destroyed:=some last} name :=
  ⟨fits.named,fits.setup,by simp,fits.opensOnce,fits.opening,by simp⟩

theorem shuts (ref last : Nat) :
    {handler with isSuspended:=true,tasks:=handler.tasks ++ [HandlerTask.closeConnection ref,.deleteThreadHandler ref]}.Valid
      {session with destroyed:=some last} name := by
  refine ⟨fits.named,fits.setup,by simp,?_,?_,by simp⟩
  · simpa [List.count_append] using fits.opensOnce
  · intro opening
    exact fits.opening (by simpa using opening)

end ThreadHandler.Valid

def HandlerTask.context : HandlerTask → Nat
  | .openConnection ref | .closeConnection ref | .deleteThreadHandler ref => ref

def RemoteParty.endPointName (session : RemoteSession) : RemoteParty → Bytes
  | .context _ => session.endPointName
  | .proxy _ _ => EXECUTOR_PROXY_ENDPOINT_NAME

namespace RemoteSessions

def Bears (s : RemoteSessions) (ref : Nat) (name : Bytes) : Prop :=
  ∃ session, s.sessions ref = some session ∧ session.connectionName = name

def Listens (s : RemoteSessions) (info : ListenerInfo RemoteParty) : Prop :=
  ∃ session, s.sessions info.listener.session = some session ∧ session.connectionName = info.connectionName ∧
    session.hasStarted = true ∧ info.endPointName = info.listener.endPointName session

-- Two contexts whose lives meet have different names: the earlier one was there
-- when the later was made.
def Apart (s : RemoteSessions) : Prop :=
  ∀ a b first second, s.sessions a = some first → s.sessions b = some second → a < b →
    (∀ d, first.destroyed = some d → b < d) → first.connectionName ≠ second.connectionName

structure Valid (s : RemoteSessions) : Prop where
  each : ∀ ref session, s.sessions ref = some session → session.Valid ref s.nextRef
  apart : s.Apart
  listening : ∀ info ∈ s.listeners, s.Listens info
  handlers : ∀ name handler, s.threadHandlerMap name = some handler →
    (∃ session, s.sessions handler.owner = some session ∧ handler.Valid session name) ∧
      ∀ task ∈ handler.tasks, task.context = handler.owner
  sockets : ∀ name ref, s.clientSocketMap name = some ref → s.Bears ref name
  deleting : ∀ pending ∈ s.deletions, s.Bears pending.2 pending.1

theorem create_old {s : RemoteSessions} (session : RemoteSession) (there : ref ≠ s.nextRef) :
    (s.create session).sessions ref = s.sessions ref := Function.update_of_ne there ..

theorem create_new (s : RemoteSessions) (session : RemoteSession) :
    (s.create session).sessions s.nextRef = some session := Function.update_self ..

theorem live_iff {s : RemoteSessions} : s.live ref = some session ↔
    s.sessions ref = some session ∧ session.destroyed = none := by
  simp [live,Option.filter_eq_some_iff]

-- A release is reported where the owner lives and the two lives met.
theorem release_mem {s : RemoteSessions} : r ∈ s.release releaser resource owner ↔
    (s.alive owner = true ∧ s.endedBefore releaser owner.ref = false) ∧ r = ⟨releaser,resource,owner⟩ := by
  unfold release
  split <;> simp_all

theorem alive_live {s : RemoteSessions} (alive : s.alive owner = true) : ∃ other, s.live owner.session = some other ∧
    ∀ c p, owner = .proxy c p → other.remoteExecutorProxy = some p := by
  cases owner with
  | context ref =>
    obtain ⟨other,there⟩ := Option.isSome_iff_exists.mp alive
    exact ⟨other,there,fun _ _ same => by cases same⟩
  | proxy c p =>
    simp only [RemoteSessions.alive,Option.any_eq_true,beq_iff_eq] at alive
    obtain ⟨other,found,current⟩ := alive
    refine ⟨other,found,?_⟩
    intro _ _ same
    cases same
    exact current

namespace Valid
variable {s : RemoteSessions} (valid : s.Valid)
include valid

-- Contexts of one name whose lives meet are the same.
theorem same_name_same (first : s.Bears a name) (alive : s.live b = some other) (named : other.connectionName = name)
    (made : b ≤ owner) (meet : s.endedBefore (.context a) owner = false) : a = b := by
  obtain ⟨session,found,bears⟩ := first
  obtain ⟨present,living⟩ := live_iff.mp alive
  have outlives : ∀ d, session.destroyed = some d → b < d := by
    intro d ended
    simp only [endedBefore,found,Option.bind_some,ended,Option.any_some,decide_eq_false_iff_not] at meet
    omega
  rcases Nat.lt_trichotomy a b with before | same | after
  · exact absurd (bears.trans named.symm) (valid.apart a b session other found present before outlives)
  · exact same
  · have still : ∀ d, other.destroyed = some d → a < d := fun d ended => by rw [living] at ended; cases ended
    exact absurd (named.trans bears.symm) (valid.apart b a other session present found after still)

-- Whoever takes what bears its own name takes it from its own context.
theorem taken_within (bears : s.Bears a name) (owned : s.Bears owner.session name) (alive : s.alive owner = true)
    (meet : s.endedBefore (.context a) owner.ref = false) : owner.session = a := by
  obtain ⟨other,there,current⟩ := alive_live alive
  obtain ⟨session,found,named⟩ := owned
  obtain ⟨present,_⟩ := live_iff.mp there
  rw [present] at found
  cases found
  refine (valid.same_name_same bears there named ?_ meet).symm
  cases owner with
  | context ref => exact Nat.le_refl _
  | proxy c p => exact Nat.le_of_lt ((valid.each _ _ present).proxy p (current c p rfl))

-- No listener is made for all connections, so a search finds the name it asks for.
theorem found_listens (found : findListener s.listeners name endPointName = some owner) :
    ∃ other, s.sessions owner.session = some other ∧ other.connectionName = name ∧
      endPointName = owner.endPointName other := by
  unfold findListener at found
  obtain ⟨info,first,rfl⟩ := Option.map_eq_some_iff.mp found
  obtain ⟨member,covers⟩ := lookup_mem first
  obtain ⟨endPoint,named⟩ := covers_iff.mp covers
  obtain ⟨other,present,bears,_,listens⟩ := valid.listening info member
  refine ⟨other,present,?_,endPoint.symm.trans listens⟩
  rcases named with same | all
  · exact bears.trans same
  · exact absurd (bears.trans all) (valid.each _ _ present).named

theorem context_unregisters (alive : s.live ref = some session) (r : Release)
    (taken : r ∈ (s.unregisterConnectionListener (.context ref) session.connectionName session.endPointName).2) :
    r.releaser = r.owner := by
  obtain ⟨there,living⟩ := live_iff.mp alive
  obtain ⟨owner,found,taken⟩ := List.mem_flatMap.mp taken
  obtain ⟨⟨present,meet⟩,rfl⟩ := release_mem.mp taken
  obtain ⟨other,made,named,endPoint⟩ := valid.found_listens (Option.mem_toList.mp found)
  have same := valid.taken_within ⟨session,there,rfl⟩ ⟨other,made,named⟩ present meet
  cases owner with
  | context owner => exact congrArg RemoteParty.context same.symm
  | proxy c p => exact absurd endPoint session.endPoint_not_proxy

theorem proxy_unregisters (alive : s.live ref = some session) (r : Release)
    (taken : r ∈ (s.dropProxy ref session).2) : r.releaser = r.owner := by
  obtain ⟨there,living⟩ := live_iff.mp alive
  unfold dropProxy at taken
  cases held : session.remoteExecutorProxy with
  | none => simp [held] at taken
  | some proxy =>
    rw [held] at taken
    obtain ⟨owner,found,taken⟩ := List.mem_flatMap.mp taken
    obtain ⟨⟨present,_⟩,rfl⟩ := release_mem.mp taken
    obtain ⟨other,made,named,endPoint⟩ := valid.found_listens (Option.mem_toList.mp found)
    have meet : s.endedBefore (.context ref) owner.ref = false := by simp [endedBefore,there,living]
    have same := valid.taken_within ⟨session,there,rfl⟩ ⟨other,made,named⟩ present meet
    cases owner with
    | context owner => exact absurd endPoint.symm other.endPoint_not_proxy
    | proxy c p =>
      obtain ⟨holder,alive',current⟩ := alive_live present
      cases same
      rw [alive] at alive'
      cases alive'
      have still := current _ _ rfl
      rw [held] at still
      cases still
      rfl

-- What is taken from a handler or a socket belongs to a context of that name.
theorem context_takes (bears : s.Bears a name) (owned : s.Bears b name) (r : Release)
    (taken : r ∈ s.release (.context a) resource (.context b)) : r.releaser = r.owner := by
  obtain ⟨⟨present,meet⟩,rfl⟩ := release_mem.mp taken
  have same : RemoteParty.session (.context b) = a := valid.taken_within bears owned present meet
  exact congrArg RemoteParty.context same.symm

-- A lost connection takes nothing from a proxy while its context has none.
theorem context_down (bears : s.Bears a name)
    (unproxied : ∀ session, s.live a = some session → session.remoteExecutorProxy = none) (r : Release)
    (taken : r ∈ (s.onConnectionDown (.context a) name).2) : r.releaser = r.owner := by
  obtain ⟨info,member,taken⟩ := List.mem_flatMap.mp taken
  obtain ⟨⟨present,meet⟩,rfl⟩ := release_mem.mp taken
  obtain ⟨listed,named⟩ := List.mem_filter.mp member
  obtain ⟨other,made,bears',_,_⟩ := valid.listening info listed
  have same := valid.taken_within bears ⟨other,made,bears'.trans (beq_iff_eq.mp named)⟩ present meet
  obtain ⟨holder,alive,current⟩ := alive_live present
  rw [same] at alive
  cases owner : info.listener with
  | context owner =>
    rw [owner] at same
    exact congrArg RemoteParty.context same.symm
  | proxy c p =>
    have held := current c p owner
    rw [unproxied holder alive] at held
    cases held

end Valid

section Frames
variable {s t : RemoteSessions}

def Keeps (s t : RemoteSessions) : Prop :=
  ∀ ref old, s.sessions ref = some old → ∃ new, t.sessions ref = some new ∧ old.Kept new

theorem Bears.kept (bears : s.Bears ref name) (keeps : s.Keeps t) : t.Bears ref name := by
  obtain ⟨old,found,named⟩ := bears
  obtain ⟨new,present,kept⟩ := keeps ref old found
  exact ⟨new,present,kept.name.trans named⟩

theorem Listens.kept {info : ListenerInfo RemoteParty} (listens : s.Listens info) (keeps : s.Keeps t) :
    t.Listens info := by
  obtain ⟨old,found,named,started,endPoint⟩ := listens
  obtain ⟨new,present,kept⟩ := keeps _ old found
  refine ⟨new,present,kept.name.trans named,kept.started started,endPoint.trans ?_⟩
  cases info.listener with
  | context ref => exact kept.endPoint.symm
  | proxy c p => rfl

theorem Apart.kept (apart : s.Apart) (back : ∀ ref new, t.sessions ref = some new →
    ∃ old, s.sessions ref = some old ∧ old.Kept new) : t.Apart := by
  intro a b first second isFirst isSecond before outlives
  obtain ⟨one,wasFirst,keptFirst⟩ := back a first isFirst
  obtain ⟨two,wasSecond,keptSecond⟩ := back b second isSecond
  rw [keptFirst.name,keptSecond.name]
  apply apart a b one two wasFirst wasSecond before
  intro d ended
  rcases keptFirst.alive with living | same
  · rw [living] at ended
    cases ended
  · exact outlives d (same.trans ended)

end Frames

end RemoteSessions
end UserAuth
