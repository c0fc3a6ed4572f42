import UserAuth.Framework.Driver

namespace UserAuth
open Since

namespace DriverEvent

-- The executor that an event is about.
def executor : DriverEvent → Option Nat
  | .register ref | .registered ref _ _ _ | .unregistered ref _ | .responded ref => some ref
  | _ => none

def isConnected : DriverEvent → Bool
  | .connected => true
  | _ => false

def isReady : DriverEvent → Bool
  | .ready => true
  | _ => false

def isRegister : DriverEvent → Bool
  | .register _ => true
  | _ => false

def registeredIndex : DriverEvent → Option UInt64
  | .registered _ _ _ executorIndex => if executorIndex = INVALID_EXECUTOR_INDEX then none else some executorIndex
  | _ => none

def unregisteredIndex : DriverEvent → Option UInt64
  | .unregistered _ executorIndex => some executorIndex
  | _ => none

end DriverEvent

namespace Driver

def own (ref : Nat) (events : List DriverEvent) : List DriverEvent :=
  events.filter fun event => event.executor == some ref

-- The indices that an executor was given and those it gave back, in order.
def registrations (ref : Nat) (events : List DriverEvent) : List UInt64 := (own ref events).filterMap (·.registeredIndex)
def unregistrations (ref : Nat) (events : List DriverEvent) : List UInt64 :=
  (own ref events).filterMap (·.unregisteredIndex)

def registerCalls (ref : Nat) (events : List DriverEvent) : Nat := (own ref events).countP (·.isRegister)

def held (ref : Nat) (executorList : List DriverExecutor) : List UInt64 :=
  executorList.flatMap fun executor => if executor.ref = ref then executor.executorIndex.toList else []

theorem own_append (ref : Nat) (events more : List DriverEvent) :
    own ref (events ++ more) = own ref events ++ own ref more :=
  List.filter_append _ _

end Driver

namespace DriverExecutor
variable {executor : DriverExecutor}

-- What an executor does on its own: its events are its own, and what it had and
-- was given is what it gave back and has.
structure Acts (executor : DriverExecutor) (acted : DriverExecutor × List DriverEvent) : Prop where
  ref : acted.1.ref = executor.ref
  own : ∀ event ∈ acted.2, event.executor = some executor.ref
  balanced : executor.executorIndex.toList ++ acted.2.filterMap (·.registeredIndex) =
    acted.2.filterMap (·.unregisteredIndex) ++ acted.1.executorIndex.toList

theorem Acts.andThen (acts : Acts executor first) (next : DriverExecutor → DriverExecutor × List DriverEvent)
    (later : Acts first.1 (next first.1)) : Acts executor (Mealy.andThen first next) := by
  obtain ⟨ref,own,balanced⟩ := acts
  obtain ⟨ref',own',balanced'⟩ := later
  rw [ref] at own'
  refine ⟨ref'.trans ref,?_,?_⟩
  · exact (Mealy.forall_andThen _).mpr ⟨own,own'⟩
  · unfold Mealy.andThen
    dsimp only
    rw [List.filterMap_append,List.filterMap_append,← List.append_assoc,balanced,List.append_assoc,balanced',
      List.append_assoc]

theorem acts_silent (ref : next.ref = executor.ref) (index : next.executorIndex = executor.executorIndex) :
    Acts executor (next,[]) := ⟨ref,nofun,by simp [index]⟩

-- A change of other fields, told by an event that is no registration.
theorem acts_other (ref : next.ref = executor.ref) (index : next.executorIndex = executor.executorIndex)
    (own : event.executor = some executor.ref) (given : event.registeredIndex = none)
    (back : event.unregisteredIndex = none) : Acts executor (next,[event]) :=
  ⟨ref,by simpa using own,by simp [given,back,index]⟩

theorem unregisterExecutorCallback_acts (executor : DriverExecutor) :
    Acts executor executor.unregisterExecutorCallback ∧ executor.unregisterExecutorCallback.1.executorIndex = none ∧
      executor.unregisterExecutorCallback.2.countP (·.isRegister) = 0 := by
  unfold unregisterExecutorCallback
  cases index : executor.executorIndex with
  | none => exact ⟨acts_silent rfl rfl,index,rfl⟩
  | some executorIndex =>
    refine ⟨⟨rfl,by simp [DriverEvent.executor],?_⟩,rfl,rfl⟩
    simp [index,DriverEvent.registeredIndex,DriverEvent.unregisteredIndex]

theorem registerExecutorCallback_acts (executor : DriverExecutor) (hdiId : UInt16) (executorInfo : ExecutorInfo)
    (answer : RegisterAnswer) : Acts executor (executor.registerExecutorCallback hdiId executorInfo answer) ∧
      (executor.registerExecutorCallback hdiId executorInfo answer).2.countP (·.isRegister) = 0 := by
  unfold registerExecutorCallback
  dsimp only
  split
  · exact ⟨acts_silent rfl rfl,rfl⟩
  · obtain ⟨acts,bare,uncalled⟩ := unregisterExecutorCallback_acts {executor with executorCallback:=true}
    have unregistered : Acts executor _ := ⟨acts.ref,acts.own,acts.balanced⟩
    refine ⟨unregistered.andThen _ ?_,?_⟩
    · split
      · rename_i invalid
        exact acts_other rfl rfl rfl (if_pos invalid) rfl
      · rename_i valid
        refine ⟨rfl,by simp [DriverEvent.executor],?_⟩
        simp [bare,valid,DriverEvent.registeredIndex,DriverEvent.unregisteredIndex]
    · unfold Mealy.andThen
      dsimp only
      rw [List.countP_append,uncalled]
      split <;> rfl

theorem register_acts (executor : DriverExecutor) (hdiId : UInt16) (answer : RegisterAnswer) :
    Acts executor (executor.register hdiId answer) ∧ (executor.register hdiId answer).2.countP (·.isRegister) = 1 := by
  have called : Acts executor (executor,[.register executor.ref]) := acts_other rfl rfl rfl rfl rfl
  unfold register
  constructor
  · apply called.andThen
    split
    · exact acts_silent rfl rfl
    · split
      · exact acts_silent rfl rfl
      · exact (registerExecutorCallback_acts _ _ _ _).1
  · unfold Mealy.andThen
    dsimp only
    rw [List.countP_append]
    split
    · rfl
    · split
      · rfl
      · rw [(registerExecutorCallback_acts _ _ _ _).2]
        rfl

theorem onHdiDisconnect_acts (executor : DriverExecutor) :
    Acts executor executor.onHdiDisconnect ∧ executor.onHdiDisconnect.1.executorIndex = none := by
  obtain ⟨acts,bare,_⟩ := unregisterExecutorCallback_acts {executor with executorHdi:=false}
  have told : Acts executor ({executor with executorHdi:=false},[.responded executor.ref]) :=
    acts_other rfl rfl rfl rfl rfl
  exact ⟨told.andThen _ acts,bare⟩

end DriverExecutor

namespace Driver
section Together
variable {executorList : List DriverExecutor} {act : DriverExecutor → DriverExecutor × List DriverEvent}

-- An executor of the list and the others, none of which has its reference.
theorem split_own (refs : (executorList.map (·.ref)).Nodup) (member : executor ∈ executorList) :
    ∃ before after, executorList = before ++ executor :: after ∧
      (∀ other ∈ before, other.ref ≠ executor.ref) ∧ ∀ other ∈ after, other.ref ≠ executor.ref := by
  obtain ⟨before,after,rfl⟩ := List.append_of_mem member
  rw [List.map_append,List.map_cons] at refs
  obtain ⟨_,later,apart⟩ := List.nodup_append.mp refs
  refine ⟨before,after,rfl,?_,?_⟩
  · intro other among
    exact apart _ (List.mem_map_of_mem among) _ List.mem_cons_self
  · intro other among same
    exact (List.nodup_cons.mp later).1 (same ▸ List.mem_map_of_mem among)

theorem held_elsewhere (apart : ∀ other ∈ executorList, other.ref ≠ ref) : held ref executorList = [] :=
  List.flatMap_eq_nil_iff.mpr fun other member => if_neg (apart other member)

theorem held_append (ref : Nat) (before after : List DriverExecutor) :
    held ref (before ++ after) = held ref before ++ held ref after := List.flatMap_append

theorem held_own (refs : (executorList.map (·.ref)).Nodup) (member : executor ∈ executorList) :
    held executor.ref executorList = executor.executorIndex.toList := by
  obtain ⟨before,after,rfl,first,later⟩ := split_own refs member
  have here : held executor.ref [executor] = executor.executorIndex.toList := by simp [held]
  rw [List.append_cons,held_append,held_append,held_elsewhere first,held_elsewhere later,here,List.nil_append,
    List.append_nil]

theorem own_elsewhere (acts : ∀ executor ∈ executorList, executor.Acts (act executor))
    (apart : ∀ other ∈ executorList, other.ref ≠ ref) :
      own ref (executorList.flatMap fun executor => (act executor).2) = [] := by
  apply List.filter_eq_nil_iff.mpr
  intro event member same
  obtain ⟨other,among,told⟩ := List.mem_flatMap.mp member
  have about := (acts other among).own event told
  rw [about,beq_iff_eq] at same
  exact apart other among (Option.some.inj same)

-- Of what all executors do, an executor's own is what it does alone.
theorem own_flatMap (acts : ∀ executor ∈ executorList, executor.Acts (act executor))
    (refs : (executorList.map (·.ref)).Nodup) (member : executor ∈ executorList) :
    own executor.ref (executorList.flatMap fun executor => (act executor).2) = (act executor).2 := by
  have whole := acts executor member
  obtain ⟨before,after,rfl,first,later⟩ := split_own refs member
  have early := own_elsewhere (fun other among => acts other (List.mem_append_left _ among)) first
  have late := own_elsewhere (fun other among =>
    acts other (List.mem_append_right _ (List.mem_cons_of_mem _ among))) later
  have here : own executor.ref (act executor).2 = (act executor).2 := by
    apply List.filter_eq_self.mpr
    intro event told
    rw [whole.own event told]
    exact beq_self_eq_true _
  rw [List.flatMap_append,List.flatMap_cons,own_append,own_append,early,late,here,List.nil_append,List.append_nil]

theorem map_refs (acts : ∀ executor ∈ executorList, executor.Acts (act executor)) :
    (executorList.map fun executor => (act executor).1).map (·.ref) = executorList.map (·.ref) := by
  rw [List.map_map]
  apply List.map_congr_left
  intro executor member
  exact (acts executor member).ref

theorem held_balanced (acts : ∀ executor ∈ executorList, executor.Acts (act executor))
    (refs : (executorList.map (·.ref)).Nodup) (ref : Nat) :
    held ref executorList ++ registrations ref (executorList.flatMap fun executor => (act executor).2) =
      unregistrations ref (executorList.flatMap fun executor => (act executor).2) ++
        held ref (executorList.map fun executor => (act executor).1) := by
  by_cases found : ∃ executor ∈ executorList, executor.ref = ref
  · obtain ⟨executor,member,rfl⟩ := found
    have refs' := refs
    rw [← map_refs acts] at refs'
    have moved := held_own refs' (List.mem_map_of_mem member)
    rw [(acts executor member).ref] at moved
    unfold registrations unregistrations
    rw [held_own refs member,own_flatMap acts refs member,moved]
    exact (acts executor member).balanced
  · have apart : ∀ other ∈ executorList, other.ref ≠ ref := fun other member same => found ⟨other,member,same⟩
    have apart' : ∀ other ∈ executorList.map fun executor => (act executor).1, other.ref ≠ ref := by
      intro other member
      obtain ⟨executor,among,rfl⟩ := List.mem_map.mp member
      rw [(acts executor among).ref]
      exact apart executor among
    unfold registrations unregistrations
    rw [held_elsewhere apart,held_elsewhere apart',own_elsewhere acts apart]
    rfl

end Together

theorem registrations_append (ref : Nat) (events more : List DriverEvent) :
    registrations ref (events ++ more) = registrations ref events ++ registrations ref more := by
  unfold registrations
  rw [own_append,List.filterMap_append]

theorem unregistrations_append (ref : Nat) (events more : List DriverEvent) :
    unregistrations ref (events ++ more) = unregistrations ref events ++ unregistrations ref more := by
  unfold unregistrations
  rw [own_append,List.filterMap_append]

theorem registerCalls_append (ref : Nat) (events more : List DriverEvent) :
    registerCalls ref (events ++ more) = registerCalls ref events + registerCalls ref more := by
  unfold registerCalls
  rw [own_append,List.countP_append]

-- No event is about an executor that is still to come.
theorem own_unborn (told : ∀ event ∈ h, ∀ ref ∈ event.executor, ref < bound) (born : bound ≤ ref) : own ref h = [] := by
  apply List.filter_eq_nil_iff.mpr
  intro event member about
  exact Nat.not_lt.mpr born (told event member ref (beq_iff_eq.mp about))

theorem own_nobody (nobody : ∀ event ∈ more, event.executor = none) (ref : Nat) : own ref more = [] := by
  apply List.filter_eq_nil_iff.mpr
  intro event member
  simp [nobody event member]

-- The executors of a driver and their accounts.
structure Sound (s : Driver) (h : List DriverEvent) : Prop where
  refs : (s.executorList.map (·.ref)).Nodup
  early : ∀ executor ∈ s.executorList, executor.ref < s.nextRef
  told : ∀ event ∈ h, ∀ ref ∈ event.executor, ref < s.nextRef
  bare : s.hdiConnected = false → s.executorList = []
  balanced : ∀ ref, registrations ref h = unregistrations ref h ++ held ref s.executorList

structure Kept (s : Driver) (h : List DriverEvent) : Prop extends Sound s h where
  called : s.isFwkReady = true → ∀ executor ∈ s.executorList, registerCalls executor.ref (since (·.isReady) h) = 1
  waiting : s.hdiConnected = true → s.isFwkReady = false → s.checkFwkReadyTimer = true ∨ .down ∈ since (·.isConnected) h

theorem initial_kept (hdiId : UInt16) : Kept {hdiId} [] :=
  ⟨⟨List.nodup_nil,nofun,nofun,fun _ => rfl,fun _ => rfl⟩,nofun,nofun⟩

theorem Sound.tell (sound : Sound s h) (more : List DriverEvent) (nobody : ∀ event ∈ more, event.executor = none) :
    Sound s (h ++ more) := by
  refine ⟨sound.refs,sound.early,?_,sound.bare,?_⟩
  · intro event member ref about
    rcases List.mem_append.mp member with before | now
    · exact sound.told event before ref about
    · rw [nobody event now] at about
      cases about
  · intro ref
    unfold registrations unregistrations
    rw [own_append,own_nobody nobody ref,List.append_nil]
    exact sound.balanced ref

theorem Sound.act {act : DriverExecutor → DriverExecutor × List DriverEvent} (sound : Sound s h)
    (acts : ∀ executor ∈ s.executorList, executor.Acts (act executor)) :
    Sound {s with executorList:=s.executorList.map fun executor => (act executor).1}
      (h ++ s.executorList.flatMap fun executor => (act executor).2) := by
  refine ⟨?_,?_,?_,?_,?_⟩
  · dsimp only
    rw [map_refs acts]
    exact sound.refs
  · intro executor member
    obtain ⟨earlier,among,rfl⟩ := List.mem_map.mp member
    rw [(acts earlier among).ref]
    exact sound.early earlier among
  · intro event member ref about
    rcases List.mem_append.mp member with before | now
    · exact sound.told event before ref about
    · obtain ⟨executor,among,told⟩ := List.mem_flatMap.mp now
      rw [(acts executor among).own event told] at about
      cases about
      exact sound.early executor among
  · intro apart
    dsimp only
    rw [sound.bare apart]
    rfl
  · intro ref
    rw [registrations_append,unregistrations_append,sound.balanced ref,List.append_assoc,List.append_assoc]
    congr 1
    exact held_balanced acts sound.refs ref

-- Nobody's events are marks.
theorem unmarked {executorList : List DriverExecutor} {act : DriverExecutor → DriverExecutor × List DriverEvent}
    (acts : ∀ executor ∈ executorList, executor.Acts (act executor)) {marker : DriverEvent → Bool}
    (nobody : ∀ event, marker event = true → event.executor = none) :
    ∀ event ∈ executorList.flatMap fun executor => (act executor).2, marker event = false := by
  intro event member
  obtain ⟨executor,among,told⟩ := List.mem_flatMap.mp member
  cases marks : marker event with
  | false => rfl
  | true =>
    have about := (acts executor among).own event told
    rw [nobody event marks] at about
    cases about

theorem ready_nobody (event : DriverEvent) (marks : event.isReady = true) : event.executor = none := by
  cases event <;> first | rfl | cases marks

theorem registerExecutors_kept (sound : Sound s h) (ready : s.isFwkReady = true)
    (uncalled : ∀ executor ∈ s.executorList, registerCalls executor.ref (since (·.isReady) h) = 0)
    (answers : Nat → RegisterAnswer) : Kept (s.registerExecutors answers).1 (h ++ (s.registerExecutors answers).2) := by
  let act := fun executor : DriverExecutor => executor.register s.hdiId (answers executor.ref)
  have acts : ∀ executor ∈ s.executorList, executor.Acts (act executor) :=
    fun executor _ => (DriverExecutor.register_acts executor s.hdiId (answers executor.ref)).1
  have state : (s.registerExecutors answers).1 =
      {s with executorList:=s.executorList.map fun executor => (act executor).1} := by
    unfold registerExecutors
    simp [act]
  have events : (s.registerExecutors answers).2 = s.executorList.flatMap fun executor => (act executor).2 := by
    unfold registerExecutors
    simp [act,List.flatMap_map]
  rw [state,events]
  refine ⟨sound.act acts,?_,?_⟩
  · intro _ executor member
    obtain ⟨earlier,among,rfl⟩ := List.mem_map.mp member
    rw [(acts earlier among).ref,since_append (unmarked acts ready_nobody),registerCalls_append,uncalled earlier among]
    unfold registerCalls
    rw [own_flatMap acts sound.refs among,(DriverExecutor.register_acts _ _ _).2]
  · intro _ down
    rw [ready] at down
    cases down

-- The driver with the executors of a connection, and none of theirs told of yet.
def connect (s : Driver) (count : Nat) : Driver :=
  {s with hdiConnected:=true,executorList:=(List.range' s.nextRef count).map fun ref => {ref},nextRef:=s.nextRef + count}

theorem connect_refs (s : Driver) (count : Nat) :
    (s.connect count).executorList.map (·.ref) = List.range' s.nextRef count := by
  simp [connect,Function.comp_def]

theorem connect_bounds (member : executor ∈ (connect s count).executorList) :
    s.nextRef ≤ executor.ref ∧ executor.ref < s.nextRef + count := by
  have among := List.mem_map_of_mem (f:=(·.ref)) member
  rw [connect_refs] at among
  exact List.mem_range'_1.mp among

theorem connect_held (s : Driver) (count ref : Nat) : held ref (s.connect count).executorList = [] := by
  apply List.flatMap_eq_nil_iff.mpr
  intro executor member
  obtain ⟨_,_,rfl⟩ := List.mem_map.mp member
  split <;> rfl

theorem connect_sound (sound : Sound s h) (bare : s.executorList = []) (count : Nat) : Sound (s.connect count) h := by
  refine ⟨?_,fun executor member => (connect_bounds member).2,?_,nofun,?_⟩
  · rw [connect_refs]
    exact List.nodup_range'
  · intro event member ref about
    exact Nat.lt_add_right _ (sound.told event member ref about)
  · intro ref
    have balanced := sound.balanced ref
    rw [bare] at balanced
    rw [balanced,connect_held]
    rfl

theorem connect_uncalled (sound : Sound s h) (executor : DriverExecutor) (count : Nat)
    (member : executor ∈ (connect s count).executorList) :
    registerCalls executor.ref (since (·.isReady) h) = 0 := by
  have unborn : own executor.ref (since (·.isReady) h) = [] := by
    refine own_unborn (fun event among => ?_) (connect_bounds member).1
    exact sound.told event ((List.rtakeWhile_suffix _ _).subset among)
  unfold registerCalls
  rw [unborn]
  rfl

theorem onHdiConnect_kept (kept : Kept s h) (executorHdiList : List Bool) (allocated : Bool)
    (answers : Nat → RegisterAnswer) : Kept (s.onHdiConnect executorHdiList allocated answers).1
      (h ++ (s.onHdiConnect executorHdiList allocated answers).2) := by
  have same : Kept s (h ++ []) := by simpa using kept
  unfold onHdiConnect
  split
  · exact same
  split
  · exact same
  split
  · exact same
  rename_i apart _ _
  have bare := kept.bare (by simpa using apart)
  have told := kept.toSound.tell [.connected] (by simp [DriverEvent.executor])
  have sound := connect_sound told bare (executorHdiList.count true)
  have uncalled := fun executor member => connect_uncalled told executor (executorHdiList.count true) member
  dsimp only
  rw [bare]
  change Kept (Mealy.andThen (s.connect (executorHdiList.count true),[DriverEvent.connected]) _).1
    (h ++ (Mealy.andThen (s.connect (executorHdiList.count true),[DriverEvent.connected]) _).2)
  unfold Mealy.andThen
  dsimp only
  split
  · rename_i ready
    have registered := registerExecutors_kept sound ready uncalled answers
    rw [List.append_assoc] at registered
    exact registered
  · rename_i down
    rw [ensureRegisterExecutors,List.append_nil]
    refine ⟨⟨sound.refs,sound.early,sound.told,sound.bare,sound.balanced⟩,?_,fun _ _ => .inl rfl⟩
    intro ready
    exact absurd ready down

theorem onHdiDisconnect_kept (kept : Kept s h) : Kept s.onHdiDisconnect.1 (h ++ s.onHdiDisconnect.2) := by
  have acts : ∀ executor ∈ s.executorList, executor.Acts executor.onHdiDisconnect :=
    fun executor _ => (DriverExecutor.onHdiDisconnect_acts executor).1
  have acted := kept.toSound.act acts
  have told := acted.tell [.hdiDisconnected] (by simp [DriverEvent.executor])
  have unheld : ∀ ref, held ref (s.executorList.map fun executor => executor.onHdiDisconnect.1) = [] := by
    intro ref
    apply List.flatMap_eq_nil_iff.mpr
    intro executor member
    obtain ⟨earlier,_,rfl⟩ := List.mem_map.mp member
    rw [(DriverExecutor.onHdiDisconnect_acts earlier).2]
    split <;> rfl
  have events : h ++ s.onHdiDisconnect.2 =
      (h ++ s.executorList.flatMap fun executor => executor.onHdiDisconnect.2) ++ [.hdiDisconnected] := by
    unfold onHdiDisconnect
    simp [List.flatMap_map]
  rw [events]
  refine ⟨⟨List.nodup_nil,nofun,told.told,fun _ => rfl,?_⟩,nofun,nofun⟩
  intro ref
  have balanced := told.balanced ref
  rw [unheld] at balanced
  exact balanced

theorem onFrameworkReady_kept (kept : Kept s h) (answers : Nat → RegisterAnswer) :
    Kept (s.onFrameworkReady answers).1 (h ++ (s.onFrameworkReady answers).2) := by
  unfold onFrameworkReady
  dsimp only
  split
  · rename_i ready
    rw [List.append_nil]
    refine ⟨⟨kept.refs,kept.early,kept.told,kept.bare,kept.balanced⟩,kept.called,?_⟩
    intro _ down
    exact absurd (ready.symm.trans down) nofun
  · have told := kept.toSound.tell [.ready] (by simp [DriverEvent.executor])
    have sound : Sound {s with checkFwkReadyTimer:=false,isFwkReady:=true} (h ++ [.ready]) :=
      ⟨told.refs,told.early,told.told,told.bare,told.balanced⟩
    have uncalled : ∀ executor ∈ s.executorList, registerCalls executor.ref (since (·.isReady) (h ++ [.ready])) = 0 := by
      intro executor _
      rw [since_concat]
      rfl
    unfold Mealy.andThen
    dsimp only
    split
    · rename_i apart
      rw [List.append_nil]
      have bare := kept.bare (by simpa using apart)
      refine ⟨sound,?_,nofun⟩
      intro _ executor member
      change executor ∈ s.executorList at member
      rw [bare] at member
      cases member
    · have registered := registerExecutors_kept sound rfl uncalled answers
      rw [List.append_assoc] at registered
      exact registered

theorem onFrameworkDown_kept (kept : Kept s h) : Kept s.onFrameworkDown.1 (h ++ s.onFrameworkDown.2) := by
  have told : ∀ more : List DriverEvent, (∀ event ∈ more, event.isConnected = false) →
      .down ∈ since (·.isConnected) (h ++ [.down] ++ more) := by
    intro more unmarked
    rw [since_append unmarked,since_concat]
    simp [DriverEvent.isConnected]
  unfold onFrameworkDown
  dsimp only
  split
  · rename_i down
    have sound := kept.toSound.tell [.down] (by simp [DriverEvent.executor])
    refine ⟨⟨sound.refs,sound.early,sound.told,sound.bare,sound.balanced⟩,?_,fun _ _ => ?_⟩
    · intro ready
      change s.isFwkReady = true at ready
      simp [ready] at down
    · have now := told [] nofun
      rw [List.append_nil] at now
      exact .inr now
  · have sound := kept.toSound.tell [.down,.frameworkDown] (by simp [DriverEvent.executor])
    refine ⟨⟨sound.refs,sound.early,sound.told,sound.bare,sound.balanced⟩,nofun,fun _ _ => ?_⟩
    have now := told [.frameworkDown] (by simp [DriverEvent.isConnected])
    rw [List.append_assoc] at now
    exact .inr now

theorem step_kept (kept : Kept s h) (input : DriverInput) : Kept (s.step input).1 (h ++ (s.step input).2) := by
  cases input with
  | onHdiConnect executorHdiList allocated answers => exact onHdiConnect_kept kept executorHdiList allocated answers
  | onHdiDisconnect => exact onHdiDisconnect_kept kept
  | onFrameworkReady answers => exact onFrameworkReady_kept kept answers
  | onFrameworkDown => exact onFrameworkDown_kept kept
  | onTimer isFwkReady answers =>
    change Kept (s.onTimer isFwkReady answers).1 (h ++ (s.onTimer isFwkReady answers).2)
    unfold onTimer
    split
    · exact onFrameworkReady_kept kept answers
    · simpa using kept

theorem kept_after (hdiId : UInt16) (inputs : List DriverInput) :
    Kept (machine.after {hdiId} inputs) (machine.trace {hdiId} inputs) :=
  Mealy.history (P:=Kept) (fun _ _ input kept => step_kept kept input) (initial_kept hdiId) inputs

-- In every run: what an executor was given and does not hold it gave back, in
-- order. A driver that is not connected holds nothing. Since the framework was
-- last reported ready each executor there is has been told to register once. A
-- connected driver without a framework has its timer, or was told that it is down.
theorem registrations_follow_driver (hdiId : UInt16) (inputs : List DriverInput) :
    let s := machine.after {hdiId} inputs
    let h := machine.trace {hdiId} inputs
    (∀ ref, registrations ref h = unregistrations ref h ++ held ref s.executorList) ∧
      (s.hdiConnected = false → ∀ ref, registrations ref h = unregistrations ref h) ∧
      (s.isFwkReady = true → ∀ executor ∈ s.executorList, registerCalls executor.ref (since (·.isReady) h) = 1) ∧
      (s.hdiConnected = true → s.isFwkReady = false →
        s.checkFwkReadyTimer = true ∨ .down ∈ since (·.isConnected) h) := by
  intro s h
  have kept := kept_after hdiId inputs
  refine ⟨kept.balanced,?_,kept.called,kept.waiting⟩
  intro apart ref
  have balanced := kept.balanced ref
  rw [kept.bare apart] at balanced
  rw [balanced]
  exact List.append_nil _

end Driver
end UserAuth
