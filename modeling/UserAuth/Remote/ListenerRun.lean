import UserAuth.Lib.Mealy
import UserAuth.Remote.ConnectListener
import UserAuth.Remote.RemoteMessage

namespace UserAuth
open FirstMatch RemoteConnectListenerManager

structure ConnectNotice (L : Type) where
  listener : L
  connectionName : Bytes
  status : ConnectStatus
  deriving DecidableEq

inductive ListenerCall (L : Type) where
  | registerListener (connectionName endPointName : Bytes) (listener : Option L)
  | unregisterListener (connectionName endPointName : Bytes)
  | onConnectionDown (connectionName : Bytes)
  | onConnectionUp (connectionName : Bytes)

namespace ListenerCall

-- The overload without a connection name.
def registerGlobal (endPointName : Bytes) (listener : Option L) : ListenerCall L :=
  .registerListener GLOBAL_CONNECTION_NAME endPointName listener

end ListenerCall

-- Beside the manager's list, the registrations that were accepted and neither
-- withdrawn under their own key nor lost with their connection.
structure ListenerSystem (L : Type) where
  listeners : List (ListenerInfo L) := []
  registered : List (ListenerInfo L) := []

namespace ListenerSystem
variable {L : Type}

def notify (listeners : List (ListenerInfo L)) (connectionName : Bytes) (status : ConnectStatus) :
    List (ConnectNotice L) :=
  (listeners.filter (·.connectionName == connectionName)).map fun info => ⟨info.listener,connectionName,status⟩

def step (s : ListenerSystem L) : ListenerCall L → ListenerSystem L × List (ConnectNotice L)
  | .registerListener _ _ none => (s,[])
  | .registerListener connectionName endPointName (some listener) =>
    match registerListener s.listeners connectionName endPointName listener with
    | none => (s,[])
    | some next => ({listeners:=next,registered:=s.registered ++ [⟨⟨connectionName,endPointName⟩,listener⟩]},[])
  | .unregisterListener connectionName endPointName =>
    ({listeners:=unregisterListener s.listeners connectionName endPointName,
      registered:=s.registered.filter (·.toListenerKey != ⟨connectionName,endPointName⟩)},[])
  | .onConnectionDown connectionName =>
    ({listeners:=onConnectionDown s.listeners connectionName,
      registered:=s.registered.filter (·.connectionName != connectionName)},
      notify s.listeners connectionName .DISCONNECTED)
  | .onConnectionUp connectionName => (s,notify s.listeners connectionName .CONNECTED)

def machine : Mealy (ListenerSystem L) (ListenerCall L) (ConnectNotice L) := ⟨step⟩

-- Registered for this connection and end point, or for the end point on all connections.
def Serves (info : ListenerInfo L) (connectionName endPointName : Bytes) : Prop :=
  info.toListenerKey = ⟨connectionName,endPointName⟩ ∨ info.toListenerKey = ⟨GLOBAL_CONNECTION_NAME,endPointName⟩

structure Answers (s : ListenerSystem L) (connectionName endPointName : Bytes) : Prop where
  found : ∀ listener, findListener s.listeners connectionName endPointName = some listener →
    ∃ info ∈ s.registered, Serves info connectionName endPointName ∧ info.listener = listener
  whenever : (findListener s.listeners connectionName endPointName).isSome ↔
    ∃ info ∈ s.registered, Serves info connectionName endPointName

-- The other registrations in the manager's list.
def others (s : ListenerSystem L) (key : ListenerKey) : List (ListenerInfo L) :=
  s.listeners.filter (·.toListenerKey != key)

-- What one call may do to the registrations, and whom it notifies.
def OwnOnly (s next : ListenerSystem L) (notices : List (ConnectNotice L)) : ListenerCall L → Prop
  | .registerListener connectionName endPointName _ | .unregisterListener connectionName endPointName =>
    next.others ⟨connectionName,endPointName⟩ = s.others ⟨connectionName,endPointName⟩ ∧ notices = []
  | .onConnectionDown connectionName =>
    next.listeners = s.registered.filter (·.connectionName != connectionName) ∧
      notices = (s.registered.filter (·.connectionName == connectionName)).map
        fun info => ⟨info.listener,connectionName,.DISCONNECTED⟩
  | .onConnectionUp connectionName =>
    next.listeners = s.registered ∧
      notices = (s.registered.filter (·.connectionName == connectionName)).map
        fun info => ⟨info.listener,connectionName,.CONNECTED⟩

structure Isolated (s : ListenerSystem L) (call : ListenerCall L) : Prop where
  answers : ∀ connectionName endPointName, (s.step call).1.Answers connectionName endPointName
  distinct : ((s.step call).1.registered.map ListenerInfo.toListenerKey).Nodup
  ownOnly : OwnOnly s (s.step call).1 (s.step call).2 call

-- No call withdraws what was never registered while a listener for all
-- connections stands in for it.
def Withdraws (s : ListenerSystem L) : ListenerCall L → Prop
  | .unregisterListener connectionName endPointName =>
    (∃ info ∈ s.registered, info.toListenerKey = ⟨connectionName,endPointName⟩) ∨
      ∀ info ∈ s.registered, info.toListenerKey ≠ ⟨GLOBAL_CONNECTION_NAME,endPointName⟩
  | _ => True

structure Agreed (s : ListenerSystem L) : Prop where
  same : s.listeners = s.registered
  unshadowed : Unshadowed ListenerInfo.covers ListenerInfo.toListenerKey s.listeners

theorem serves_iff {info : ListenerInfo L} :
    Serves info connectionName endPointName ↔ info.covers ⟨connectionName,endPointName⟩ = true := by
  obtain ⟨⟨ownConnection,ownEndPoint⟩,listener⟩ := info
  rw [covers_iff,Serves,ListenerKey.mk.injEq,ListenerKey.mk.injEq]
  constructor
  · rintro (⟨connection,endPoint⟩ | ⟨connection,endPoint⟩)
    · exact ⟨endPoint,.inl connection⟩
    · exact ⟨endPoint,.inr connection⟩
  · rintro ⟨endPoint,connection | connection⟩
    · exact .inl ⟨connection,endPoint⟩
    · exact .inr ⟨connection,endPoint⟩

theorem Agreed.answers {s : ListenerSystem L} (agreed : Agreed s) (connectionName endPointName : Bytes) :
    s.Answers connectionName endPointName := by
  refine ⟨?_,?_⟩
  · intro listener answered
    obtain ⟨info,found,named⟩ := Option.map_eq_some_iff.mp answered
    obtain ⟨member,covered⟩ := lookup_mem found
    exact ⟨info,agreed.same ▸ member,serves_iff.mpr covered,named⟩
  · rw [findListener,Option.isSome_map,lookup,List.find?_isSome,agreed.same]
    simp only [serves_iff]

-- An earlier entry covers its own key, so a later one has another.
theorem Agreed.distinct {s : ListenerSystem L} (agreed : Agreed s) :
    (s.registered.map ListenerInfo.toListenerKey).Nodup := by
  have ordered := agreed.unshadowed
  rw [agreed.same] at ordered
  apply List.pairwise_map.mpr
  apply ordered.imp
  intro earlier later missed same
  rw [← same,covers_own] at missed
  cases missed

theorem notify_agreed {s : ListenerSystem L} (agreed : Agreed s) (connectionName : Bytes) (status : ConnectStatus) :
    notify s.listeners connectionName status = (s.registered.filter (·.connectionName == connectionName)).map
      fun info => ⟨info.listener,connectionName,status⟩ := by
  rw [notify,agreed.same]

section Register
variable {s : ListenerSystem L} {connectionName endPointName : Bytes} {listener : L}

theorem register_agreed (agreed : Agreed s)
    (registered : registerListener s.listeners connectionName endPointName listener = some next) :
    Agreed {listeners:=next,registered:=s.registered ++ [⟨⟨connectionName,endPointName⟩,listener⟩]} := by
  obtain ⟨free,rfl⟩ := register_eq registered
  exact ⟨by rw [agreed.same],unshadowed_register agreed.unshadowed free⟩

theorem register_others (registered : registerListener s.listeners connectionName endPointName listener = some next) :
    next.filter (·.toListenerKey != ⟨connectionName,endPointName⟩) = s.others ⟨connectionName,endPointName⟩ := by
  obtain ⟨_,rfl⟩ := register_eq registered
  rw [List.filter_append,List.filter_cons_of_neg (by simp),List.filter_nil,List.append_nil]
  rfl

end Register

section Unregister
variable {s : ListenerSystem L} {connectionName endPointName : Bytes}

-- Under the condition the first entry found is the call's own, if there is one.
theorem withdraws_own (agreed : Agreed s) (withdraws : s.Withdraws (.unregisterListener connectionName endPointName))
    (found : lookup ListenerInfo.covers s.listeners ⟨connectionName,endPointName⟩ = some info) :
    info.toListenerKey = ⟨connectionName,endPointName⟩ := by
  obtain ⟨member,covered⟩ := lookup_mem found
  cases withdraws with
  | inl own =>
    obtain ⟨other,inside,key⟩ := own
    have first := unshadowed_lookup agreed.unshadowed (agreed.same ▸ inside) (covers_own other)
    rw [key,found] at first
    cases first
    exact key
  | inr alone =>
    cases serves_iff.mpr covered with
    | inl own => exact own
    | inr global => exact absurd global (alone info (agreed.same ▸ member))

theorem unregister_filters (agreed : Agreed s)
    (withdraws : s.Withdraws (.unregisterListener connectionName endPointName)) :
    unregisterListener s.listeners connectionName endPointName = s.others ⟨connectionName,endPointName⟩ := by
  cases found : lookup ListenerInfo.covers s.listeners ⟨connectionName,endPointName⟩ with
  | some info =>
    exact unregister_own agreed.unshadowed covers_own found (withdraws_own agreed withdraws found)
  | none =>
    rw [unregisterListener,unregister_absent found,others,List.filter_eq_self.mpr]
    intro other member
    apply bne_iff_ne.mpr
    intro same
    have missed := lookup_none.mp found other member
    rw [← same,covers_own] at missed
    cases missed

theorem unregister_agreed (agreed : Agreed s)
    (withdraws : s.Withdraws (.unregisterListener connectionName endPointName)) :
    Agreed (s.step (.unregisterListener connectionName endPointName)).1 := by
  refine ⟨?_,agreed.unshadowed.sublist unregister_sublist⟩
  rw [step,unregister_filters agreed withdraws,others,agreed.same]

-- Otherwise the entry found stands for all connections, and goes.
theorem unregister_takes (agreed : Agreed s) (stray : ¬s.Withdraws (.unregisterListener connectionName endPointName)) :
    (s.step (.unregisterListener connectionName endPointName)).1.others ⟨connectionName,endPointName⟩ ≠
      s.others ⟨connectionName,endPointName⟩ := by
  rw [Withdraws,not_or,not_exists] at stray
  obtain ⟨missing,global⟩ := stray
  have absent : ∀ info ∈ s.listeners, (info.toListenerKey != ⟨connectionName,endPointName⟩) = true := by
    intro info member
    apply bne_iff_ne.mpr
    intro own
    exact missing info ⟨agreed.same ▸ member,own⟩
  push Not at global
  obtain ⟨info,member,key⟩ := global
  have answered : (lookup ListenerInfo.covers s.listeners ⟨connectionName,endPointName⟩).isSome :=
    List.find?_isSome.mpr ⟨info,agreed.same ▸ member,serves_iff.mp (.inr key)⟩
  obtain ⟨first,found⟩ := Option.isSome_iff_exists.mp answered
  obtain ⟨front,back,whole,rest⟩ := unregister_first found
  have kept : ∀ other ∈ front ++ back, (other.toListenerKey != ⟨connectionName,endPointName⟩) = true := by
    intro other inside
    exact absent other ((rest ▸ unregister_sublist).subset inside)
  intro same
  rw [others,others,List.filter_eq_self.mpr absent,step,unregisterListener,rest,List.filter_eq_self.mpr kept,
    whole] at same
  have sizes := congrArg List.length same
  rw [List.length_append,List.length_append,List.length_cons] at sizes
  omega

end Unregister

theorem down_agreed {s : ListenerSystem L} (agreed : Agreed s) (connectionName : Bytes) :
    Agreed (s.step (.onConnectionDown connectionName)).1 :=
  ⟨congrArg _ agreed.same,agreed.unshadowed.sublist List.filter_sublist⟩

theorem step_agreed (s : ListenerSystem L) (call : ListenerCall L) (agreed : Agreed s) (withdraws : s.Withdraws call) :
    Agreed (s.step call).1 := by
  cases call with
  | registerListener connectionName endPointName listener =>
    cases listener with
    | none => exact agreed
    | some listener =>
      rw [step]
      split
      · exact agreed
      · rename_i registered
        exact register_agreed agreed registered
  | unregisterListener => exact unregister_agreed agreed withdraws
  | onConnectionDown connectionName => exact down_agreed agreed connectionName
  | onConnectionUp => exact agreed

theorem step_ownOnly (s : ListenerSystem L) (call : ListenerCall L) (agreed : Agreed s) (withdraws : s.Withdraws call) :
    OwnOnly s (s.step call).1 (s.step call).2 call := by
  cases call with
  | registerListener connectionName endPointName listener =>
    cases listener with
    | none => exact ⟨rfl,rfl⟩
    | some listener =>
      rw [step]
      split
      · exact ⟨rfl,rfl⟩
      · rename_i registered
        exact ⟨register_others registered,rfl⟩
  | unregisterListener connectionName endPointName =>
    refine ⟨?_,rfl⟩
    rw [others,step,unregister_filters agreed withdraws]
    exact (List.filter_filter ..).trans (by simp only [Bool.and_self]; rfl)
  | onConnectionDown connectionName =>
    exact ⟨congrArg _ agreed.same,notify_agreed agreed connectionName _⟩
  | onConnectionUp connectionName => exact ⟨agreed.same,notify_agreed agreed connectionName _⟩

theorem isolated_iff (s : ListenerSystem L) (call : ListenerCall L) (agreed : Agreed s) :
    s.Isolated call ↔ s.Withdraws call := by
  constructor
  · intro isolated
    cases call with
    | unregisterListener connectionName endPointName =>
      by_contra stray
      exact unregister_takes agreed stray isolated.ownOnly.1
    | registerListener | onConnectionDown | onConnectionUp => trivial
  · intro withdraws
    have next := step_agreed s call agreed withdraws
    exact ⟨next.answers,next.distinct,step_ownOnly s call agreed withdraws⟩

theorem listeners_isolated_iff (calls : List (ListenerCall L)) :
    machine.Meets Isolated {} calls ↔ machine.Meets Withdraws {} calls := by
  apply Mealy.meets_iff (m:=machine) (Q:=Agreed)
  · exact isolated_iff
  · intro s call agreed isolated
    exact step_agreed s call agreed ((isolated_iff s call agreed).mp isolated)
  · exact ⟨rfl,List.Pairwise.nil⟩

-- Withdrawing a connection's listener that never was takes the one for all connections.
theorem global_listener_withdrawn :
    ¬∀ calls : List (ListenerCall Nat), machine.Meets Isolated {} calls := by
  intro all
  have met := all [.registerGlobal REMOTE_SERVICE_ENDPOINT (some 1),
    .unregisterListener (ascii "name") REMOTE_SERVICE_ENDPOINT]
  have kept := met.2.1.ownOnly.1
  revert kept
  decide

end ListenerSystem
end UserAuth
