import UserAuth.Remote.SessionSteps

namespace UserAuth
open RemoteConnectListenerManager FirstMatch

namespace RemoteSessions

-- The handler map as a destructor leaves it.
def shutHandlers (s : RemoteSessions) (ref : Nat) (session : RemoteSession) : Bytes → Option ThreadHandler :=
  if session.needSetupConnection then
    ThreadHandlerManager.destroyThreadHandler
      (ThreadHandlerManager.postTask s.threadHandlerMap session.connectionName (.closeConnection ref))
      session.connectionName ref
  else s.threadHandlerMap

theorem postTask_owner (there : ThreadHandlerManager.postTask map name task other = some posted) :
    ∃ handler, map other = some handler ∧ handler.owner = posted.owner := by
  unfold ThreadHandlerManager.postTask at there
  cases held : map name with
  | none =>
    simp only [held] at there
    exact ⟨posted,there,rfl⟩
  | some handler =>
    simp only [held] at there
    split at there
    · exact ⟨posted,there,rfl⟩
    · by_cases here : other = name
      · subst here
        simp only [Function.update_self,Option.some.injEq] at there
        exact ⟨handler,held,by rw [←there]⟩
      · rw [Function.update_of_ne here] at there
        exact ⟨posted,there,rfl⟩

theorem shut_cases (there : ThreadHandlerManager.destroyThreadHandler
      (ThreadHandlerManager.postTask map name (.closeConnection ref)) name ref other = some shut) :
    ∃ handler, map other = some handler ∧ (other ≠ name ∧ shut = handler ∨ other = name ∧ shut =
      {handler with
        isSuspended:=true,
        tasks:=
          if handler.isSuspended then handler.tasks
          else handler.tasks ++ [.closeConnection ref,.deleteThreadHandler ref]}) := by
  unfold ThreadHandlerManager.destroyThreadHandler ThreadHandlerManager.postTask ThreadHandlerManager.suspend at there
  cases held : map name with
  | none =>
    simp only [held] at there
    refine ⟨shut,there,.inl ⟨?_,rfl⟩⟩
    intro here
    rw [here,held] at there
    cases there
  | some handler =>
    by_cases here : other = name
    · subst here
      refine ⟨handler,held,.inr ⟨rfl,?_⟩⟩
      cases suspended : handler.isSuspended <;> simp [held,suspended] at there <;> simp [←there]
    · refine ⟨shut,?_,.inl ⟨here,rfl⟩⟩
      cases suspended : handler.isSuspended <;> simpa [held,suspended,here] using there

theorem destroy_shape (s : RemoteSessions) (ref : Nat) (session : RemoteSession) :
    ∃ rest : List (ListenerInfo RemoteParty), (∀ info ∈ rest, info ∈ s.listeners) ∧ (s.destroy ref session).1 =
      {s.putSession ref {session with destroyed:=some s.nextRef} with
        listeners:=rest,threadHandlerMap:=s.shutHandlers ref session} := by
  have once : (unregisterListener s.listeners session.connectionName session.endPointName).Sublist s.listeners :=
    unregister_sublist
  unfold destroy closeAndDestroy dropProxy shutHandlers
  cases session.remoteExecutorProxy with
  | none =>
    refine ⟨_,fun info member => once.subset member,?_⟩
    cases session.needSetupConnection <;> rfl
  | some proxy =>
    refine ⟨unregisterListener (unregisterListener s.listeners session.connectionName session.endPointName)
      session.connectionName EXECUTOR_PROXY_ENDPOINT_NAME,
      fun info member => once.subset (unregister_sublist.subset member),?_⟩
    cases session.needSetupConnection <;> rfl

namespace Valid
variable {s : RemoteSessions} (valid : s.Valid)
include valid

theorem shuts (alive : s.live ref = some session) :
    {s.putSession ref {session with destroyed:=some s.nextRef} with
      threadHandlerMap:=s.shutHandlers ref session}.Valid := by
  obtain ⟨found,living⟩ := live_iff.mp alive
  have fine := valid.each ref session found
  refine valid.puts_with found ⟨rfl,rfl,rfl,id,.inl living⟩ ⟨fine.made,fine.named,?_,fine.proxy,fine.quiet⟩ ?_
  · intro d ended
    exact Nat.le_of_eq (Option.some.inj ended).symm
  · intro name shut there
    unfold shutHandlers at there
    have others : ∀ handler, s.threadHandlerMap name = some handler → handler.owner ≠ ref →
        ∃ other, (s.putSession ref {session with destroyed:=some s.nextRef}).sessions handler.owner = some other ∧
          handler.Valid other name := by
      intro handler held apart
      obtain ⟨⟨other,present,fits⟩,_⟩ := valid.handlers name handler held
      exact ⟨other,(Function.update_of_ne apart ..).trans present,fits⟩
    split at there
    · obtain ⟨handler,held,kind⟩ := shut_cases there
      obtain ⟨⟨other,present,fits⟩,mine⟩ := valid.handlers name handler held
      rcases kind with ⟨elsewhere,rfl⟩ | ⟨here,rfl⟩
      · refine ⟨others shut held ?_,mine⟩
        intro own
        rw [own,found] at present
        cases present
        exact elsewhere fits.named.symm
      · subst here
        cases suspended : handler.isSuspended with
        | true =>
          simp only [if_true]
          refine ⟨?_,mine⟩
          by_cases own : handler.owner = ref
          · rw [own,found] at present
            cases present
            exact ⟨{session with destroyed:=some s.nextRef},by simp [putSession,own],fits.ends s.nextRef⟩
          · obtain ⟨other,present,fits⟩ := others handler held own
            exact ⟨other,present,fits.suspends⟩
        | false =>
          have own := valid.handler_own alive held suspended
          rw [own,found] at present
          cases present
          simp only [Bool.false_eq_true,if_false]
          refine ⟨⟨{session with destroyed:=some s.nextRef},by simp [putSession,own],fits.shuts ref s.nextRef⟩,?_⟩
          intro task member
          rcases List.mem_append.mp member with before | last
          · exact mine task before
          · rcases List.mem_pair.mp last with rfl | rfl <;> exact own.symm
    · rename_i unset
      obtain ⟨⟨other,present,fits⟩,mine⟩ := valid.handlers name shut there
      refine ⟨others shut there ?_,mine⟩
      intro own
      rw [own,found] at present
      cases present
      exact unset fits.setup

theorem destroys (alive : s.live ref = some session) :
    (s.destroy ref session).1.Valid ∧ ∀ r ∈ (s.destroy ref session).2, r.releaser = r.owner := by
  obtain ⟨found,_⟩ := live_iff.mp alive
  constructor
  · obtain ⟨rest,fewer,shape⟩ := s.destroy_shape ref session
    rw [shape]
    exact (valid.shuts alive).fewer_listeners fewer
  · have bears : s.Bears ref session.connectionName := ⟨session,found,rfl⟩
    have first : (s.unregisterConnectionListener (.context ref) session.connectionName session.endPointName).1.Valid :=
      valid.fewer_listeners fun _ member => unregister_sublist.subset member
    have released := valid.context_unregisters alive
    unfold destroy
    rw [Mealy.forall_andThen,Mealy.forall_andThen,Mealy.forall_andThen]
    refine ⟨released,?_,?_,by simp⟩
    · intro r taken
      unfold closeAndDestroy at taken
      split at taken
      · obtain ⟨handler,there,taken⟩ := List.mem_flatMap.mp taken
        obtain ⟨before,held,own⟩ := postTask_owner (Option.mem_toList.mp there)
        exact valid.context_takes bears (own ▸ valid.handler_bears held) r taken
      · cases taken
    · have proxies := first.proxy_unregisters alive
      unfold closeAndDestroy
      unfold dropProxy at proxies ⊢
      split at proxies <;> split <;> exact proxies

end Valid

theorem made_new (input : Input) (session : RemoteSession) (made : session ∈ input.made) :
    session.destroyed = none ∧ session.Untouched := by
  cases input with
  | createRemoteAuthInvokerContext | createRemoteAuthContext | procStartRemoteAuthRequest =>
    obtain ⟨name,_,rfl⟩ := Option.map_eq_some_iff.mp made
    exact ⟨rfl,rfl,rfl,rfl⟩
  | _ => cases made

-- No live context has the name that a new one is made for, and the name is not
-- the one that stands for all.
def Unshared (s : RemoteSessions) (input : Input) : Prop :=
  ∀ session ∈ input.made, session.connectionName ≠ GLOBAL_CONNECTION_NAME ∧
    ∀ ref < s.nextRef, ∀ other ∈ s.live ref, other.connectionName ≠ session.connectionName

instance (s : RemoteSessions) (input : Input) : Decidable (s.Unshared input) := by
  unfold Unshared
  infer_instance

theorem initial_valid : initial.Valid := by
  refine ⟨?_,?_,?_,?_,?_,?_⟩
  · intro ref session found
    cases found
  · intro a b first second found
    cases found
  · intro info member
    cases member
  · intro name handler there
    cases there
  · intro name ref socket
    cases socket
  · intro pending member
    cases member

theorem step_valid {s : RemoteSessions} (valid : s.Valid) (input : Input) (unshared : s.Unshared input) :
    (s.step input).1.Valid ∧ ∀ r ∈ (s.step input).2, r.releaser = r.owner := by
  have creation : ∀ session, input.made = some session → (s.create session).Valid := by
    intro session made
    obtain ⟨living,untouched⟩ := made_new input session made
    obtain ⟨named,apart⟩ := unshared session made
    refine valid.creates named living untouched fun ref other alive => ?_
    exact apart ref (valid.each ref other (live_iff.mp alive).1).made other alive
  cases input with
  | createRemoteAuthInvokerContext | createRemoteAuthContext | procStartRemoteAuthRequest =>
    dsimp only [step]
    split
    · exact ⟨valid,by simp⟩
    · rename_i session made
      exact ⟨creation session made,by simp⟩
  | start ref known =>
    dsimp only [step]
    split
    · exact ⟨valid,by simp⟩
    · rename_i session alive
      split
      · exact ⟨valid,by simp⟩
      · rename_i unstarted
        exact valid.starts alive (Bool.eq_false_iff.mpr unstarted) known
  | queryReply ref reply =>
    dsimp only [step]
    split
    · exact ⟨valid,by simp⟩
    · rename_i session alive
      split
      · exact ⟨valid,by simp⟩
      · rename_i asked
        exact ⟨valid.puts_asked (live_iff.mp alive).1 (fun untouched => asked untouched.1) ⟨rfl,rfl,rfl,id,.inr rfl⟩ rfl rfl,
          by simp⟩
  | startAuthDelayed ref executorInfos =>
    dsimp only [step]
    split
    · exact ⟨valid,by simp⟩
    · rename_i session alive
      split
      · exact ⟨valid,by simp⟩
      · rename_i posted
        obtain ⟨found,living⟩ := live_iff.mp alive
        have asked : ¬session.Untouched := fun untouched => by simp [untouched.2.1] at posted
        have kept : session.Kept {session with startAuthPosted:=false} := ⟨rfl,rfl,rfl,id,.inr rfl⟩
        have put := valid.puts_asked found asked kept rfl rfl
        have started : session.hasStarted = true := by
          cases was : session.hasStarted with
          | true => rfl
          | false => exact absurd ((valid.each ref session found).quiet was) asked
        have still : (s.putSession ref {session with startAuthPosted:=false}).live ref =
            some {session with startAuthPosted:=false} := live_iff.mpr ⟨by simp [putSession],living⟩
        exact put.starts_auth still started (valid.unopened found fun past => asked past.2) executorInfos
  | destroy ref =>
    dsimp only [step]
    split
    · exact ⟨valid,by simp⟩
    · rename_i session alive
      exact valid.destroys alive
  | runTask name opened => exact valid.runs_task name opened
  | runDeletion => exact valid.runs_deletion
  | onShutdown name => exact ⟨(valid.down_listeners name).drops_socket name,by simp [step]⟩
  | onReplyTimeOut name => exact ⟨valid.down_listeners name,by simp [step]⟩

-- While every context is made for a name that no live one has, nothing that a
-- context or a proxy does takes a listener, a connection or a handler from another.
theorem sessions_isolated (inputs : List Input) (unshared : remoteSessions.Meets Unshared .initial inputs) :
    ∀ r ∈ remoteSessions.trace .initial inputs, r.releaser = r.owner := by
  have preserved : ∀ (s : RemoteSessions) (h : List Release) (input : Input),
      (s.Valid ∧ ∀ r ∈ h, r.releaser = r.owner) → s.Unshared input →
        (s.step input).1.Valid ∧ ∀ r ∈ h ++ (s.step input).2, r.releaser = r.owner := by
    intro s h input valid fresh
    obtain ⟨next,released⟩ := step_valid valid.1 input fresh
    refine ⟨next,fun r member => ?_⟩
    rcases List.mem_append.mp member with before | now
    · exact valid.2 r before
    · exact released r now
  have kept := Mealy.guarded_history (m:=remoteSessions) (h:=[]) preserved ⟨initial_valid,by simp⟩ unshared
  exact kept.2

-- Ids 1 and 2 of one device, the second gone while the first lives.
theorem apart_ids_isolated : (remoteSessions.trace .initial
    [.createRemoteAuthInvokerContext (some (ascii "a1b2c3")) 1,.start 0 true,
      .createRemoteAuthInvokerContext (some (ascii "a1b2c3")) 2,.start 1 true,.destroy 1,.destroy 0]).all
    (fun r => r.releaser == r.owner) = true := by
  simp only [List.all_eq_true,beq_iff_eq]
  exact sessions_isolated _ ⟨by decide,by decide,by decide,by decide,by decide,by decide,trivial⟩

-- Ids 1 and 0x10001: the second is refused the name at every turn, and on its
-- way out takes the first one's listener, handler and connection.
def sharedName : List Input :=
  [.createRemoteAuthInvokerContext (some (ascii "a1b2c3")) 1,.start 0 true,.runTask (ascii "a1b2:0001") true,
    .createRemoteAuthInvokerContext (some (ascii "a1b2c3")) 0x10001,.start 1 true,.destroy 1,
    .runTask (ascii "a1b2:0001") true]

theorem namesake_takes_all : ¬∀ r ∈ remoteSessions.trace .initial sharedName, r.releaser = r.owner := by
  have takes : remoteSessions.trace .initial sharedName =
      [⟨.context 1,.listener,.context 0⟩,⟨.context 1,.threadHandler,.context 0⟩,⟨.context 1,.connection,.context 0⟩] := by
    decide
  rw [takes]
  decide

end RemoteSessions
end UserAuth
