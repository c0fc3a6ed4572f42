import UserAuth.Remote.SessionOwnership

namespace UserAuth
open RemoteConnectListenerManager FirstMatch

namespace RemoteSessions

namespace Valid
variable {s : RemoteSessions} (valid : s.Valid)
include valid

theorem fewer_listeners {rest : List (ListenerInfo RemoteParty)} (fewer : ∀ info ∈ rest, info ∈ s.listeners) :
    {s with listeners:=rest}.Valid :=
  ⟨valid.each,valid.apart,fun info member => valid.listening info (fewer info member),valid.handlers,valid.sockets,
    valid.deleting⟩

theorem down_listeners (name : Bytes) :
    {s with listeners:=RemoteConnectListenerManager.onConnectionDown s.listeners name}.Valid :=
  valid.fewer_listeners fun _ member => List.mem_of_mem_filter member

theorem registers {more : List (ListenerInfo RemoteParty)}
    (registered : registerListener s.listeners name endPointName party = some more)
    (listens : s.Listens ⟨⟨name,endPointName⟩,party⟩) : {s with listeners:=more}.Valid := by
  refine ⟨valid.each,valid.apart,?_,valid.handlers,valid.sockets,valid.deleting⟩
  intro info member
  rw [(register_eq registered).2] at member
  rcases List.mem_append.mp member with before | last
  · exact valid.listening info before
  · rw [List.mem_singleton.mp last]
    exact listens

theorem later : {s with nextRef:=s.nextRef + 1}.Valid := by
  refine ⟨?_,valid.apart,valid.listening,valid.handlers,valid.sockets,valid.deleting⟩
  intro ref session found
  have old := valid.each ref session found
  exact ⟨Nat.lt_succ_of_lt old.made,old.named,fun d ended => Nat.le_succ_of_le (old.ended d ended),old.proxy,old.quiet⟩

-- The contexts move on, and the handlers with them.
theorem reshapes {moved : Nat → Option RemoteSession} {handlers : Bytes → Option ThreadHandler}
    (unmade : ∀ ref, s.sessions ref = none → moved ref = none)
    (moves : ∀ ref old, s.sessions ref = some old → ∃ new, moved ref = some new ∧ old.Kept new ∧ new.Valid ref s.nextRef)
    (suits : ∀ name handler, handlers name = some handler →
      (∃ new, moved handler.owner = some new ∧ handler.Valid new name) ∧
        ∀ task ∈ handler.tasks, task.context = handler.owner) :
    {s with sessions:=moved,threadHandlerMap:=handlers}.Valid := by
  have back : ∀ ref new, moved ref = some new → ∃ old, s.sessions ref = some old ∧ old.Kept new ∧
      new.Valid ref s.nextRef := by
    intro ref new present
    cases found : s.sessions ref with
    | none =>
      rw [unmade ref found] at present
      cases present
    | some old =>
      obtain ⟨other,same,kept,fine⟩ := moves ref old found
      rw [present] at same
      cases same
      exact ⟨old,rfl,kept,fine⟩
  have keeps : s.Keeps {s with sessions:=moved,threadHandlerMap:=handlers} := by
    intro ref old found
    obtain ⟨new,present,kept,_⟩ := moves ref old found
    exact ⟨new,present,kept⟩
  refine ⟨?_,?_,fun info member => (valid.listening info member).kept keeps,suits,
    fun name owner socket => (valid.sockets name owner socket).kept keeps,
    fun pending member => (valid.deleting pending member).kept keeps⟩
  · intro ref new present
    obtain ⟨_,_,_,fine⟩ := back ref new present
    exact fine
  · refine valid.apart.kept fun ref new present => ?_
    obtain ⟨old,found,kept,_⟩ := back ref new present
    exact ⟨old,found,kept⟩

-- Each context moves on in a way that suits the handler it made.
theorem evolves {moved : Nat → Option RemoteSession} (unmade : ∀ ref, s.sessions ref = none → moved ref = none)
    (moves : ∀ ref old, s.sessions ref = some old → ∃ new, moved ref = some new ∧ (old.Kept new ∧ new.Valid ref s.nextRef) ∧
      ∀ name handler, s.threadHandlerMap name = some handler → handler.owner = ref →
        handler.Valid old name → handler.Valid new name) : {s with sessions:=moved}.Valid := by
  refine valid.reshapes unmade ?_ ?_
  · intro ref old found
    obtain ⟨new,present,fine,_⟩ := moves ref old found
    exact ⟨new,present,fine⟩
  · intro name handler there
    obtain ⟨⟨old,found,fits⟩,own⟩ := valid.handlers name handler there
    obtain ⟨new,present,_,suits⟩ := moves _ old found
    exact ⟨⟨new,present,suits name handler there rfl fits⟩,own⟩

theorem puts_with {handlers : Bytes → Option ThreadHandler} (found : s.sessions ref = some old) (kept : old.Kept new)
    (newValid : new.Valid ref s.nextRef) (suits : ∀ name handler, handlers name = some handler →
      (∃ session, (s.putSession ref new).sessions handler.owner = some session ∧ handler.Valid session name) ∧
        ∀ task ∈ handler.tasks, task.context = handler.owner) :
    {s.putSession ref new with threadHandlerMap:=handlers}.Valid := by
  refine valid.reshapes ?_ ?_ suits
  · intro other unmade
    have apart : other ≠ ref := by
      intro same
      rw [same,found] at unmade
      cases unmade
    exact (Function.update_of_ne apart ..).trans unmade
  · intro other session present
    by_cases same : other = ref
    · subst same
      cases found.symm.trans present
      exact ⟨new,Function.update_self ..,kept,newValid⟩
    · exact ⟨session,(Function.update_of_ne same ..).trans present,.refl session,valid.each other session present⟩

theorem puts (found : s.sessions ref = some old) (kept : old.Kept new) (newValid : new.Valid ref s.nextRef)
    (suits : ∀ name handler, s.threadHandlerMap name = some handler → handler.owner = ref → handler.Valid old name →
      handler.Valid new name) : (s.putSession ref new).Valid := by
  apply valid.puts_with found kept newValid
  intro name handler there
  obtain ⟨⟨session,present,fits⟩,own⟩ := valid.handlers name handler there
  refine ⟨?_,own⟩
  by_cases same : handler.owner = ref
  · rw [same,found] at present
    cases present
    exact ⟨new,by simp [putSession,same],suits name handler there same fits⟩
  · exact ⟨session,by simp [putSession,same,present],fits⟩

theorem drops_proxy (ref : Nat) (session : RemoteSession) : (s.dropProxy ref session).1.Valid := by
  unfold dropProxy
  cases session.remoteExecutorProxy with
  | none => exact valid
  | some proxy => exact valid.fewer_listeners fun _ member => unregister_sublist.subset member

-- The handler that takes a live context's task is its own.
theorem handler_own (alive : s.live ref = some session) (there : s.threadHandlerMap session.connectionName = some handler)
    (running : handler.isSuspended = false) : handler.owner = ref := by
  obtain ⟨⟨other,present,fits⟩,_⟩ := valid.handlers _ handler there
  obtain ⟨found,living⟩ := live_iff.mp alive
  have meet : s.endedBefore (.context handler.owner) ref = false := by
    simp [endedBefore,present,fits.running running]
  exact valid.same_name_same ⟨other,present,fits.named⟩ alive rfl (Nat.le_refl _) meet

theorem opens (alive : s.live ref = some session) (started : session.hasStarted = true) (untouched : session.Untouched)
    (unopened : ∀ name handler, s.threadHandlerMap name = some handler → handler.owner = ref →
      .openConnection ref ∉ handler.tasks) :
    {s with threadHandlerMap:=
      ThreadHandlerManager.postTask s.threadHandlerMap session.connectionName (.openConnection ref)}.Valid := by
  refine ⟨valid.each,valid.apart,valid.listening,?_,valid.sockets,valid.deleting⟩
  unfold ThreadHandlerManager.postTask
  split
  · exact valid.handlers
  · rename_i handler there
    split
    · exact valid.handlers
    · rename_i running
      have running : handler.isSuspended = false := Bool.eq_false_iff.mpr running
      have own := valid.handler_own alive there running
      obtain ⟨⟨other,present,fits⟩,mine⟩ := valid.handlers _ handler there
      have same : other = session := Option.some.inj ((own ▸ present).symm.trans (live_iff.mp alive).1)
      subst same
      have absent := unopened _ handler there own
      subst own
      intro name changed found
      by_cases here : name = other.connectionName
      · subst here
        simp only [Function.update_self,Option.some.injEq] at found
        subst found
        refine ⟨⟨other,present,⟨rfl,fits.setup,fits.running,?_,fun _ => ⟨started,untouched⟩,?_⟩⟩,?_⟩
        · simp [List.count_append,List.count_eq_zero.mpr absent]
        · intro closing
          exact fits.closing (by simpa using closing)
        · intro task member
          rcases List.mem_append.mp member with before | last
          · exact mine task before
          · rw [List.mem_singleton.mp last]
            rfl
      · simp only [Function.update_of_ne here] at found
        exact valid.handlers name changed found

theorem sets_up (alive : s.live ref = some session) (started : session.hasStarted = true) (untouched : session.Untouched)
    (unopened : ∀ name handler, s.threadHandlerMap name = some handler → handler.owner = ref →
      .openConnection ref ∉ handler.tasks) : (s.setupConnection ref session).Valid := by
  unfold setupConnection
  split
  · exact valid
  · rename_i listeners registered
    have listens : s.Listens ⟨⟨session.connectionName,session.endPointName⟩,.context ref⟩ :=
      ⟨session,(live_iff.mp alive).1,rfl,started,rfl⟩
    exact (valid.registers registered listens).opens alive started untouched unopened

theorem takes_proxy (alive : s.live ref = some session) (started : session.hasStarted = true)
    (unopened : ∀ name handler, s.threadHandlerMap name = some handler → handler.owner = ref →
      .openConnection ref ∉ handler.tasks) :
    {s.putSession ref {session with remoteExecutorProxy:=some s.nextRef} with nextRef:=s.nextRef + 1}.Valid := by
  obtain ⟨found,_⟩ := live_iff.mp alive
  have old := valid.each ref session found
  have kept : session.Kept {session with remoteExecutorProxy:=some s.nextRef} := ⟨rfl,rfl,rfl,id,.inr rfl⟩
  refine (valid.puts found kept ?_ ?_).later
  · refine ⟨old.made,old.named,old.ended,?_,?_⟩
    · intro p taken
      rw [←Option.some.inj taken]
      exact old.made
    · intro quiet
      rw [started] at quiet
      cases quiet
  · intro name handler there own fits
    refine ⟨fits.named,fits.setup,fits.running,fits.opensOnce,?_,fits.closing⟩
    rw [own]
    exact fun opening => absurd opening (unopened name handler there own)

theorem starts_auth (alive : s.live ref = some session) (started : session.hasStarted = true)
    (unopened : ∀ name handler, s.threadHandlerMap name = some handler → handler.owner = ref →
      .openConnection ref ∉ handler.tasks) (executorInfos : Bool) :
    (s.startAuth ref session executorInfos).1.Valid ∧
      ∀ r ∈ (s.startAuth ref session executorInfos).2, r.releaser = r.owner := by
  unfold startAuth
  split
  · exact ⟨valid,by simp⟩
  · rw [Mealy.forall_andThen]
    have released := valid.proxy_unregisters alive
    have dropped := valid.drops_proxy ref session
    have sessions : (s.dropProxy ref session).1.sessions = s.sessions := by
      unfold dropProxy
      cases session.remoteExecutorProxy <;> rfl
    have handlers : (s.dropProxy ref session).1.threadHandlerMap = s.threadHandlerMap := by
      unfold dropProxy
      cases session.remoteExecutorProxy <;> rfl
    unfold Mealy.andThen
    generalize s.dropProxy ref session = first at released dropped sessions handlers
    have alive : first.1.live ref = some session := by rw [←alive,live,live,sessions]
    rw [←handlers] at unopened
    have made := dropped.takes_proxy alive started unopened
    dsimp only
    split
    · exact ⟨made,released,by simp⟩
    · rename_i listeners registered
      have listens : {first.1.putSession ref {session with remoteExecutorProxy:=some first.1.nextRef} with
          nextRef:=first.1.nextRef + 1}.Listens
          ⟨⟨session.connectionName,EXECUTOR_PROXY_ENDPOINT_NAME⟩,.proxy ref first.1.nextRef⟩ :=
        ⟨{session with remoteExecutorProxy:=some first.1.nextRef},by simp [putSession,RemoteParty.session],rfl,started,rfl⟩
      exact ⟨made.registers registered listens,released,by simp⟩

-- Before its start and after its first answer a context has no open to come.
theorem unopened (found : s.sessions ref = some session) (past : ¬(session.hasStarted = true ∧ session.Untouched))
    (name : Bytes) (handler : ThreadHandler) (there : s.threadHandlerMap name = some handler)
    (own : handler.owner = ref) : .openConnection ref ∉ handler.tasks := by
  intro opening
  subst own
  obtain ⟨⟨other,present,fits⟩,_⟩ := valid.handlers name handler there
  rw [found] at present
  cases present
  exact past (fits.opening opening)

theorem marks_started (found : s.sessions ref = some session) :
    (s.putSession ref {session with hasStarted:=true}).Valid := by
  have old := valid.each ref session found
  refine valid.puts found ⟨rfl,rfl,rfl,fun _ => rfl,.inr rfl⟩ ⟨old.made,old.named,old.ended,old.proxy,?_⟩ ?_
  · intro quiet
    cases quiet
  · intro name handler there own fits
    exact ⟨fits.named,fits.setup,fits.running,fits.opensOnce,fun opening => ⟨rfl,(fits.opening opening).2⟩,fits.closing⟩

theorem starts (alive : s.live ref = some session) (unstarted : session.hasStarted = false) (known : Bool) :
    (s.start ref session known).1.Valid ∧ ∀ r ∈ (s.start ref session known).2, r.releaser = r.owner := by
  obtain ⟨found,living⟩ := live_iff.mp alive
  have marked := valid.marks_started found
  have alive' : (s.putSession ref {session with hasStarted:=true}).live ref = some {session with hasStarted:=true} :=
    live_iff.mpr ⟨by simp [putSession],living⟩
  have untouched := (valid.each ref session found).quiet unstarted
  have unopened := valid.unopened found fun past => by simp [unstarted] at past
  unfold start
  dsimp only
  split
  · split
    · exact ⟨marked.sets_up alive' rfl untouched unopened,by simp⟩
    · exact ⟨marked,by simp⟩
  · split
    · exact ⟨marked.sets_up alive' rfl untouched unopened,by simp⟩
    · exact marked.starts_auth alive' rfl unopened known

-- Answers come only to a context whose connection has been opened.
theorem puts_asked (found : s.sessions ref = some session) (asked : ¬session.Untouched) (kept : session.Kept new)
    (ended : new.destroyed = session.destroyed) (proxy : new.remoteExecutorProxy = session.remoteExecutorProxy) :
    (s.putSession ref new).Valid := by
  have old := valid.each ref session found
  refine valid.puts found kept ⟨old.made,?_,?_,?_,?_⟩ ?_
  · rw [kept.name]
    exact old.named
  · rw [ended]
    exact old.ended
  · rw [proxy]
    exact old.proxy
  · intro unstarted
    cases was : session.hasStarted with
    | false => exact absurd (old.quiet was) asked
    | true =>
      rw [kept.started was] at unstarted
      cases unstarted
  · intro name handler there own fits
    refine ⟨kept.name.trans fits.named,kept.setup.trans fits.setup,fun running => ended.trans (fits.running running),
      fits.opensOnce,fun opening => absurd (fits.opening opening).2 asked,fun closing => ?_⟩
    rw [ended]
    exact fits.closing closing

theorem handler_bears (there : s.threadHandlerMap name = some handler) : s.Bears handler.owner name := by
  obtain ⟨⟨other,present,fits⟩,_⟩ := valid.handlers name handler there
  exact ⟨other,present,fits.named⟩

theorem deletes (bears : s.Bears ref name) : (s.deleteThreadHandler ref name).1.Valid ∧
    ∀ r ∈ (s.deleteThreadHandler ref name).2, r.releaser = r.owner := by
  refine ⟨⟨valid.each,valid.apart,valid.listening,?_,valid.sockets,valid.deleting⟩,?_⟩
  · intro other handler there
    by_cases here : other = name
    · simp [deleteThreadHandler,here] at there
    · simp only [deleteThreadHandler,Function.update_of_ne here] at there
      exact valid.handlers other handler there
  · intro r taken
    obtain ⟨handler,there,taken⟩ := List.mem_flatMap.mp taken
    exact valid.context_takes bears (valid.handler_bears (Option.mem_toList.mp there)) r taken

theorem closes_down (bears : s.Bears ref name)
    (unproxied : ∀ session, s.live ref = some session → session.remoteExecutorProxy = none) :
    (s.onConnectionDown (.context ref) name).1.Valid ∧
      ∀ r ∈ (s.onConnectionDown (.context ref) name).2, r.releaser = r.owner :=
  ⟨valid.down_listeners name,valid.context_down bears unproxied⟩

theorem drops_socket (name : Bytes) : {s with clientSocketMap:=Function.update s.clientSocketMap name none}.Valid := by
  refine ⟨valid.each,valid.apart,valid.listening,valid.handlers,?_,valid.deleting⟩
  intro other ref socket
  by_cases here : other = name
  · simp [here] at socket
  · simp only [Function.update_of_ne here] at socket
    exact valid.sockets other ref socket

theorem closes (bears : s.Bears ref name)
    (unproxied : ∀ session, s.live ref = some session → session.remoteExecutorProxy = none) :
    (s.doCloseConnection ref name).1.Valid ∧ ∀ r ∈ (s.doCloseConnection ref name).2, r.releaser = r.owner := by
  unfold doCloseConnection
  split
  · exact ⟨valid,by simp⟩
  · rename_i owner socket
    obtain ⟨down,released⟩ := valid.closes_down bears unproxied
    rw [Mealy.forall_andThen]
    refine ⟨down.drops_socket name,released,?_⟩
    exact down.context_takes bears (valid.sockets name owner socket)

theorem connects (there : s.threadHandlerMap name = some handler)
    (popped : .openConnection handler.owner ∉ handler.tasks) : (s.onConnectionUp name).Valid := by
  refine valid.evolves (fun ref unmade => by simp [unmade]) ?_
  intro ref old found
  have fine := valid.each ref old found
  split
  · rename_i told
    obtain ⟨info,listed,told⟩ := List.any_eq_true.mp told
    obtain ⟨named,own⟩ := Bool.and_eq_true_iff.mp told
    obtain ⟨other,present,bears,started,_⟩ := valid.listening info listed
    rw [beq_iff_eq.mp own] at present
    cases found.symm.trans present
    have same : old.onConnected = {old with queries:=old.onConnected.queries} := by
      unfold RemoteSession.onConnected
      split <;> rfl
    rw [found,Option.map_some,same]
    refine ⟨_,rfl,⟨⟨rfl,rfl,rfl,id,.inr rfl⟩,⟨fine.made,fine.named,fine.ended,fine.proxy,?_⟩⟩,?_⟩
    · intro unstarted
      rw [started] at unstarted
      cases unstarted
    · intro other user used mine fits
      refine ⟨fits.named,fits.setup,fits.running,fits.opensOnce,?_,fits.closing⟩
      have here : other = name := fits.named.symm.trans (bears.trans (beq_iff_eq.mp named))
      subst here
      cases there.symm.trans used
      exact fun opening => absurd opening popped
  · exact ⟨old,found,⟨.refl old,fine⟩,fun _ _ _ _ fits => fits⟩

theorem gains_socket (bears : s.Bears ref name) :
    {s with clientSocketMap:=Function.update s.clientSocketMap name (some ref)}.Valid := by
  refine ⟨valid.each,valid.apart,valid.listening,valid.handlers,?_,valid.deleting⟩
  intro other owner socket
  by_cases here : other = name
  · simp only [here,Function.update_self,Option.some.injEq] at socket
    rw [here,←socket]
    exact bears
  · simp only [Function.update_of_ne here] at socket
    exact valid.sockets other owner socket

theorem pops (there : s.threadHandlerMap name = some handler) (head : handler.tasks = task :: rest) :
    {s with threadHandlerMap:=Function.update s.threadHandlerMap name (some {handler with tasks:=rest})}.Valid := by
  refine ⟨valid.each,valid.apart,valid.listening,?_,valid.sockets,valid.deleting⟩
  intro other changed found
  by_cases here : other = name
  · subst here
    simp only [Function.update_self,Option.some.injEq] at found
    subst found
    obtain ⟨⟨session,present,fits⟩,own⟩ := valid.handlers other handler there
    have later : ∀ task ∈ rest, task ∈ handler.tasks := fun task member => by simp [head,member]
    refine ⟨⟨session,present,⟨fits.named,fits.setup,fits.running,?_,fun opening => fits.opening (later _ opening),
      fun closing => fits.closing (later _ closing)⟩⟩,fun task member => own task (later task member)⟩
    have once := fits.opensOnce
    rw [head] at once
    exact Nat.le_trans (List.count_le_count_cons ..) once
  · simp only [Function.update_of_ne here] at found
    exact valid.handlers other changed found

theorem runs_task (name : Bytes) (opened : Bool) :
    (s.runTask name opened).1.Valid ∧ ∀ r ∈ (s.runTask name opened).2, r.releaser = r.owner := by
  unfold runTask
  split
  · exact ⟨valid,by simp⟩
  · rename_i handler there
    split
    · exact ⟨valid,by simp⟩
    · rename_i task rest head
      have popped := valid.pops there head
      obtain ⟨⟨session,present,fits⟩,mine⟩ := valid.handlers name handler there
      have own := mine task (by simp [head])
      have bears : s.Bears handler.owner name := ⟨session,present,fits.named⟩
      cases task with
      | openConnection ref =>
        cases own
        have untouched := (fits.opening (by simp [head])).2
        have once := fits.opensOnce
        rw [head,List.count_cons_self] at once
        have gone : .openConnection handler.owner ∉ rest := List.count_eq_zero.mp (by omega)
        dsimp only [doOpenConnection]
        split
        · refine popped.closes_down bears fun other alive => ?_
          cases present.symm.trans (live_iff.mp alive).1
          exact untouched.2.2
        · refine ⟨?_,by simp⟩
          split
          · exact popped.connects (Function.update_self ..) gone
          · exact (popped.gains_socket bears).connects (Function.update_self ..) gone
      | closeConnection ref =>
        cases own
        refine popped.closes bears fun other alive => ?_
        obtain ⟨found,living⟩ := live_iff.mp alive
        cases present.symm.trans found
        exact absurd living (fits.closing (by simp [head]))
      | deleteThreadHandler ref =>
        cases own
        refine ⟨⟨popped.each,popped.apart,popped.listening,popped.handlers,popped.sockets,?_⟩,by simp⟩
        intro pending member
        rcases List.mem_append.mp member with before | last
        · exact valid.deleting pending before
        · rw [List.mem_singleton.mp last]
          exact bears

theorem runs_deletion : s.runDeletion.1.Valid ∧ ∀ r ∈ s.runDeletion.2, r.releaser = r.owner := by
  unfold runDeletion
  split
  · exact ⟨valid,by simp⟩
  · rename_i name ref rest head
    have first := valid.deleting (name,ref) (by simp [head])
    have fewer : {s with deletions:=rest}.Valid :=
      ⟨valid.each,valid.apart,valid.listening,valid.handlers,valid.sockets,
        fun pending member => valid.deleting pending (by simp [head,member])⟩
    exact fewer.deletes first

theorem older (found : s.sessions ref = some session) : ref ≠ s.nextRef := Nat.ne_of_lt (valid.each ref session found).made

-- A context that has gone ended before the new one was made.
theorem creates_apart (apart : ∀ ref other, s.live ref = some other → other.connectionName ≠ session.connectionName) :
    (s.create session).Apart := by
  intro a b first second isFirst isSecond before outlives
  by_cases last : b = s.nextRef
  · subst last
    rw [create_old session (Nat.ne_of_lt before)] at isFirst
    rw [create_new] at isSecond
    cases isSecond
    cases ended : first.destroyed with
    | none => exact apart a first (live_iff.mpr ⟨isFirst,ended⟩)
    | some d =>
      have within := (valid.each a first isFirst).ended d ended
      have beyond := outlives d ended
      omega
  · rw [create_old session last] at isSecond
    have made := (valid.each b second isSecond).made
    rw [create_old session (by omega)] at isFirst
    exact valid.apart a b first second isFirst isSecond before outlives

theorem creates_handlers (living : session.destroyed = none) (name : Bytes) (handler : ThreadHandler)
    (there : (s.create session).threadHandlerMap name = some handler) :
    (∃ user, (s.create session).sessions handler.owner = some user ∧ handler.Valid user name) ∧
      ∀ task ∈ handler.tasks, task.context = handler.owner := by
  have others : s.threadHandlerMap name = some handler →
      (∃ user, (s.create session).sessions handler.owner = some user ∧ handler.Valid user name) ∧
        ∀ task ∈ handler.tasks, task.context = handler.owner := by
    intro there
    obtain ⟨⟨other,present,fits⟩,own⟩ := valid.handlers name handler there
    exact ⟨⟨other,(create_old session (valid.older present)).trans present,fits⟩,own⟩
  simp only [create,ThreadHandlerManager.createThreadHandler] at there
  split at there
  · rename_i setup
    split at there
    · exact others there
    · by_cases here : name = session.connectionName
      · subst here
        simp only [Function.update_self,Option.some.injEq] at there
        subst there
        refine ⟨⟨session,create_new s session,⟨rfl,setup,fun _ => living,?_,?_,?_⟩⟩,?_⟩ <;> simp
      · simp only [Function.update_of_ne here] at there
        exact others there
  · exact others there

theorem creates (named : session.connectionName ≠ GLOBAL_CONNECTION_NAME) (living : session.destroyed = none)
    (untouched : session.Untouched)
    (apart : ∀ ref other, s.live ref = some other → other.connectionName ≠ session.connectionName) :
    (s.create session).Valid := by
  have keeps : s.Keeps (s.create session) := fun ref other found =>
    ⟨other,(create_old session (valid.older found)).trans found,.refl other⟩
  refine ⟨?_,valid.creates_apart apart,fun info member => (valid.listening info member).kept keeps,
    valid.creates_handlers living,fun name owner socket => (valid.sockets name owner socket).kept keeps,
    fun pending member => (valid.deleting pending member).kept keeps⟩
  intro ref other present
  by_cases here : ref = s.nextRef
  · subst here
    rw [create_new] at present
    cases present
    refine ⟨Nat.lt_succ_self _,named,?_,?_,fun _ => untouched⟩
    · intro d ended
      rw [living] at ended
      cases ended
    · intro p held
      rw [untouched.2.2] at held
      cases held
  · rw [create_old session here] at present
    exact valid.later.each ref other present

end Valid

end RemoteSessions
end UserAuth
