import UserAuth.Pool.StartCancel

namespace UserAuth
open ContextPoolImpl ContextObject

theorem Seated.recall (before : Seated context object call log seat)
    (same : SerialCall.seats later = SerialCall.seats call) : Seated context object later log seat :=
  ⟨before.sits,before.records,same ▸ before.meets,before.caller,before.holder,before.first⟩

namespace Handshake

-- No context in the pool is left without something still to come for it.
structure Valid (s : Handshake) (log : List HandshakeEvent) : Prop where
  ordered : ∃ plans, Ordered s.toPoolState plans
  seated : ∀ context, ∃ seat, Seated context (s.objects context) (s.callOf context) log seat
  recorded : ∀ id ∈ s.pool.cancelRequestedIds, .stopIfPooled id ∈ s.tasks
  pending : ∀ context ∈ s.pool.runningContexts,
    Started log context ∨ .stop context ∈ log ∨ s.StartPending context ∨ s.StopPending context

theorem initial_valid (making : Context → WidgetMaking) : Valid (.initial making) [] where
  ordered := ⟨[],initial_ordered⟩
  seated context := ⟨.free,create_sits _ _ _ _,⟨by simp [Started],by simp,rfl⟩,idle_free,create_caller _ _,by simp,by simp⟩
  recorded := by simp [Handshake.initial,PoolState.initial,empty]
  pending := by simp [Handshake.initial,PoolState.initial,empty]

section Steps
variable {s : Handshake} {log : List HandshakeEvent}

theorem removals_unrelated (s : Handshake) (op : PoolOp) (context : Context) :
    ∀ event ∈ s.removals op, event.concerns context = false := by
  intro event member
  cases op with
  | delete preempt contextId =>
    obtain ⟨removed,_,rfl⟩ := List.mem_map.mp member
    rfl
  | _ => cases member

theorem pool_valid (op : PoolOp) (posting : ∀ position, op ≠ .runTask position) (before : Valid s log) :
    Valid {s with toPoolState:=(s.toPoolState.step op).1} (log ++ s.removals op) := by
  obtain ⟨plans,ordered⟩ := before.ordered
  have posts := step_posts s.toPoolState op posting
  refine ⟨⟨_,step_ordered _ plans op ordered⟩,?_,?_,?_⟩
  · intro context
    obtain ⟨seat,seated⟩ := before.seated context
    exact ⟨seat,seated.elsewhere (removals_unrelated s op context)⟩
  · intro id member
    rcases posts.recorded id member with old | posted
    · exact posts.tasks (before.recorded id old)
    · exact posted
  · intro context member
    rcases step_running ordered.distinct member with old | ⟨plan,told,started⟩
    · rcases before.pending context old with begun | stopped | start | stop
      · exact .inl (started_append.mpr (.inl begun))
      · exact .inr (.inl (List.mem_append_left _ stopped))
      · exact .inr (.inr (.inl (start.imp_left fun posted => posts.tasks posted)))
      · exact .inr (.inr (.inr (stop.imp_left fun posted => posts.tasks posted)))
    · exact .inr (.inr (.inl (.inl (posts.starts plan told context started))))

theorem task_stays {tasks : List PoolTask} (taken : tasks[position]? = some task) (member : other ∈ tasks)
    (apart : other ≠ task) : other ∈ tasks.eraseIdx position := by
  obtain ⟨place,here⟩ := List.mem_iff_getElem?.mp member
  refine List.mem_eraseIdx_iff_getElem?.mpr ⟨place,?_,here⟩
  rintro rfl
  exact apart (Option.some.inj (here.symm.trans taken))

theorem find_member (distinct : DistinctIds members) (member : context ∈ members) :
    members.find? (·.contextId == context.contextId) = some context := by
  cases found : members.find? (·.contextId == context.contextId) with
  | none => exact absurd (List.find?_eq_none.mp found context member) (by simp)
  | some other =>
    have same : other.contextId = context.contextId := by simpa using List.find?_some found
    rw [distinct.eq (List.mem_of_find?_eq_some found) member same]

theorem select_member {pool : ContextPoolImpl} (distinct : DistinctIds pool.contexts) (member : context ∈ pool.contexts) :
    pool.selectLocked context.contextId = some context := by
  have found := find_member distinct member
  rw [contexts,List.find?_append] at found
  exact found

-- The first section of a task: a stop is on its way to its context, and a
-- start too unless a cancel request and with it a stop task are outstanding.
theorem take_stop_valid (contextId : UInt64) (idle : s.serial = none)
    (taken : s.tasks[position]? = some (.stopIfPooled contextId)) (before : Valid s log) :
    Valid {s with toPoolState:=s.toPoolState.runTask position,serial:=some (.selecting contextId)} log := by
  obtain ⟨plans,ordered⟩ := before.ordered
  have moved := step_ordered _ plans (.runTask position) ordered
  have none : ∀ context, s.callOf context = none := fun context => by simp [Handshake.callOf,idle]
  have tasks : (s.toPoolState.runTask position).tasks = s.tasks.eraseIdx position := by simp [PoolState.runTask,taken]
  have pool : (s.toPoolState.runTask position).pool = s.pool.forgetCancel contextId := by simp [PoolState.runTask,taken]
  refine ⟨⟨_,moved⟩,?_,?_,?_⟩
  · intro context
    obtain ⟨seat,seated⟩ := before.seated context
    exact ⟨seat,seated.recall (by rw [none context]; rfl)⟩
  · intro id member
    simp only [pool,tasks] at member ⊢
    obtain ⟨apart,member⟩ := Finset.mem_erase.mp member
    exact task_stays taken (before.recorded id member) fun same => apart (PoolTask.stopIfPooled.inj same)
  · intro context member
    simp only [pool] at member
    rcases before.pending context member with begun | stopped | start | stop
    · exact .inl begun
    · exact .inr (.inl stopped)
    · refine .inr (.inr (.inl (.inl ?_)))
      rw [Handshake.StartPending,none context] at start
      rcases start with posted | called
      · simp only [tasks]
        exact task_stays taken posted (by simp)
      · cases called
    · refine .inr (.inr (.inr ?_))
      by_cases same : context.contextId = contextId
      · exact .inr (.inl (by rw [same]))
      · rw [Handshake.StopPending,none context,idle] at stop
        rcases stop with posted | selecting | called | called
        · left
          simp only [tasks]
          exact task_stays taken posted fun equal => same (PoolTask.stopIfPooled.inj equal)
        · cases selecting
        · cases called
        · cases called

theorem firstStep_start (pool : ContextPoolImpl) (contextId : UInt64) :
    Handshake.firstStep pool (.startIfPooled contextId) = none ∨ ∃ context ∈ pool.runningContexts,
      context.contextId = contextId ∧ contextId ∉ pool.cancelRequestedIds ∧
      Handshake.firstStep pool (.startIfPooled contextId) = some (.calling .start context) := by
  simp only [Handshake.firstStep]
  split
  · exact .inl rfl
  · rename_i context found
    split
    · exact .inl rfl
    · rename_i free
      exact .inr ⟨context,List.mem_of_find?_eq_some found,by simpa using List.find?_some found,free,rfl⟩

theorem take_start_valid (contextId : UInt64) (idle : s.serial = none)
    (taken : s.tasks[position]? = some (.startIfPooled contextId)) (before : Valid s log) :
    Valid {s with toPoolState:=s.toPoolState.runTask position,serial:=Handshake.firstStep s.pool (.startIfPooled contextId)} log := by
  obtain ⟨plans,ordered⟩ := before.ordered
  have moved := step_ordered _ plans (.runTask position) ordered
  have none : ∀ context, s.callOf context = none := fun context => by simp [Handshake.callOf,idle]
  have tasks : (s.toPoolState.runTask position).tasks = s.tasks.eraseIdx position := by simp [PoolState.runTask,taken]
  have pool : (s.toPoolState.runTask position).pool = s.pool := by simp [PoolState.runTask,taken]
  have stays : ∀ id, .stopIfPooled id ∈ s.tasks → .stopIfPooled id ∈ s.tasks.eraseIdx position :=
    fun id posted => task_stays taken posted (by simp)
  refine ⟨⟨_,moved⟩,?_,?_,?_⟩
  · intro context
    obtain ⟨seat,seated⟩ := before.seated context
    refine ⟨seat,seated.recall ?_⟩
    rw [none context]
    rcases firstStep_start s.pool contextId with dropped | ⟨other,_,_,_,called⟩
    · simp only [Handshake.callOf,dropped]
    · simp only [Handshake.callOf,called]
      split <;> rfl
  · intro id member
    simp only [pool,tasks] at member ⊢
    exact stays id (before.recorded id member)
  · intro context member
    simp only [pool] at member
    rcases before.pending context member with begun | stopped | start | stop
    · exact .inl begun
    · exact .inr (.inl stopped)
    · by_cases same : context.contextId = contextId
      · by_cases asked : contextId ∈ s.pool.cancelRequestedIds
        · refine .inr (.inr (.inr (.inl ?_)))
          simp only [tasks,same]
          exact stays _ (before.recorded _ asked)
        · have found := find_member ordered.distinct.front member
          refine .inr (.inr (.inl (.inr ?_)))
          simp [Handshake.callOf,Handshake.firstStep,←same,found,same ▸ asked]
      · rw [Handshake.StartPending,none context] at start
        rcases start with posted | called
        · refine .inr (.inr (.inl (.inl ?_)))
          simp only [tasks]
          exact task_stays taken posted fun equal => same (PoolTask.startIfPooled.inj equal)
        · cases called
    · rw [Handshake.StopPending,none context,idle] at stop
      rcases stop with posted | selecting | called | called
      · refine .inr (.inr (.inr (.inl ?_)))
        simp only [tasks]
        exact stays _ posted
      · cases selecting
      · cases called
      · cases called

theorem takeTask_valid (position : Nat) (before : Valid s log) : Valid (s.takeTask position) log := by
  unfold Handshake.takeTask
  split
  · rename_i task idle taken
    cases task with
    | stopIfPooled contextId => exact take_stop_valid contextId idle taken before
    | startIfPooled contextId => exact take_start_valid contextId idle taken before
  · exact before

theorem select_valid (contextId : UInt64) (here : s.serial = some (.selecting contextId)) (before : Valid s log) :
    Valid {s with serial:=(s.pool.selectLocked contextId).map (.calling .stop)} log := by
  obtain ⟨plans,ordered⟩ := before.ordered
  have none : ∀ context, s.callOf context = none := fun context => by simp [Handshake.callOf,here]
  refine ⟨before.ordered,?_,before.recorded,?_⟩
  · intro context
    obtain ⟨seat,seated⟩ := before.seated context
    refine ⟨seat,seated.recall ?_⟩
    rw [none context]
    cases found : s.pool.selectLocked contextId with
    | none => simp [Handshake.callOf]
    | some other =>
      simp only [Handshake.callOf,Option.map_some]
      split <;> rfl
  · intro context member
    rcases before.pending context member with begun | stopped | start | stop
    · exact .inl begun
    · exact .inr (.inl stopped)
    · rw [Handshake.StartPending,none context] at start
      rcases start with posted | called
      · exact .inr (.inr (.inl (.inl posted)))
      · cases called
    · rw [Handshake.StopPending,none context,here] at stop
      rcases stop with posted | selecting | called | called
      · exact .inr (.inr (.inr (.inl posted)))
      · cases selecting
        have found := select_member ordered.distinct (List.mem_append_left _ member)
        exact .inr (.inr (.inr (.inr (.inr (.inl (by simp [Handshake.callOf,found]))))))
      · cases called
      · cases called

theorem callOf_moved (s : Handshake) (objects : Context → ContextObject) (next : Option SerialCall) (context : Context) :
    Handshake.callOf {s with objects,serial:=next.map (.calling · context)} context = next := by
  cases next <;> simp [Handshake.callOf]

theorem never_back_to_start (answers : Answers) (context : Context) (object : ContextObject) (call : SerialCall) :
    (Handshake.callObject answers context object call).2.1 ≠ some .start := by
  cases call with
  | reportStop => simp [Handshake.callObject]
  | startFailed => simp [Handshake.callObject]
  | start =>
    simp only [Handshake.callObject]
    split <;> simp
  | stop =>
    simp only [Handshake.callObject]
    split <;> simp
  | onStart =>
    simp only [Handshake.callObject]
    split <;> simp

theorem callObject_concerns (answers : Answers) (call : SerialCall) (object : ContextObject) (apart : other ≠ context) :
    ∀ event ∈ (Handshake.callObject answers other object call).2.2, event.concerns context = false := by
  intro event member
  cases call with
  | stop =>
    rcases List.mem_cons.mp member with rfl | member
    · simpa [HandshakeEvent.concerns] using apart
    · obtain ⟨code,_,rfl⟩ := List.mem_map.mp member
      simpa [HandshakeEvent.concerns] using apart
  | start =>
    cases List.mem_singleton.mp member
    simpa [HandshakeEvent.concerns] using apart
  | _ =>
    obtain ⟨code,_,rfl⟩ := List.mem_map.mp member
    simpa [HandshakeEvent.concerns] using apart

-- A call made on the context leaves a trace of it in the log.
theorem call_settles (answers : Answers) (call : SerialCall) (before : Seated context object (some call) log seat)
    (pends : call = .start ∨ call = .stop ∨ call = .reportStop) :
    Started (log ++ (Handshake.callObject answers context object call).2.2) context ∨
      .stop context ∈ log ++ (Handshake.callObject answers context object call).2.2 := by
  rcases pends with rfl | rfl | rfl
  · by_cases starts : object.start.2.Starts
    · refine .inl (started_append.mpr (.inr ?_))
      rcases starts with granted | done
      · exact .inl (by simp [Handshake.callObject,granted])
      · exact .inr (by simp [Handshake.callObject,done])
    · rcases start_refused before starts with rfl | rfl
      · exact .inl (started_append.mpr (.inl before.records))
      · exact .inr (List.mem_append_left _ before.records.2.1)
  · exact .inr (List.mem_append_right _ (by simp [Handshake.callObject]))
  · cases List.mem_singleton.mp before.meets
    exact .inr (List.mem_append_left _ before.records.2.1)

theorem call_valid (answers : Answers) (call : SerialCall) (context : Context)
    (here : s.serial = some (.calling call context)) (before : Valid s log) :
    Valid (s.proceed answers).1 (log ++ (s.proceed answers).2) := by
  have own : s.callOf context = some call := by simp [Handshake.callOf,here]
  simp only [Handshake.proceed,here]
  refine ⟨before.ordered,?_,before.recorded,?_⟩
  · intro other
    obtain ⟨seat,seated⟩ := before.seated other
    by_cases same : other = context
    · subst same
      rw [own] at seated
      obtain ⟨moved,called⟩ := call_seated answers call seated
      refine ⟨moved,?_⟩
      rw [callOf_moved]
      simpa using called
    · have apart : context ≠ other := fun equal => same equal.symm
      have idle : s.callOf other = none := by simp [Handshake.callOf,here,apart]
      rw [idle] at seated
      refine ⟨seat,?_⟩
      simp only [Function.update_of_ne same]
      refine (seated.elsewhere (callObject_concerns answers call _ apart)).recall ?_
      cases next : (Handshake.callObject answers context (s.objects context) call).2.1 <;>
        simp [Handshake.callOf,apart]
  · intro other member
    have concluded : ∀ called, s.callOf other = some called → (called = .start ∨ called = .stop ∨ called = .reportStop) →
        Started (log ++ (Handshake.callObject answers context (s.objects context) call).2.2) other ∨
          .stop other ∈ log ++ (Handshake.callObject answers context (s.objects context) call).2.2 := by
      intro called same pends
      simp only [Handshake.callOf,here] at same
      split at same
      · rename_i equal
        cases equal
        cases same
        obtain ⟨seat,seated⟩ := before.seated context
        rw [own] at seated
        exact call_settles answers call seated pends
      · cases same
    rcases before.pending other member with begun | stopped | start | stop
    · exact .inl (started_append.mpr (.inl begun))
    · exact .inr (.inl (List.mem_append_left _ stopped))
    · rcases start with posted | called
      · exact .inr (.inr (.inl (.inl posted)))
      · exact or_assoc.mp (.inl (concluded _ called (.inl rfl)))
    · rcases stop with posted | selecting | called | called
      · exact .inr (.inr (.inr (.inl posted)))
      · rw [here] at selecting
        cases selecting
      · exact or_assoc.mp (.inl (concluded _ called (.inr (.inl rfl))))
      · exact or_assoc.mp (.inl (concluded _ called (.inr (.inr rfl))))

theorem callback_valid (context : Context) (answers : Answers) (entry : WidgetContext.Call) (before : Valid s log) :
    Valid (s.callback context answers entry).1 (log ++ (s.callback context answers entry).2) := by
  refine ⟨before.ordered,?_,before.recorded,?_⟩
  · intro other
    obtain ⟨seat,seated⟩ := before.seated other
    refine ⟨seat,?_⟩
    by_cases same : other = context
    · subst same
      have put : (s.callback other answers entry).1.objects other = ((s.objects other).callback answers entry).1 :=
        Function.update_self ..
      rw [put]
      exact callback_seated answers entry seated
    · have unrelated : ∀ event ∈ (s.callback context answers entry).2, event.concerns other = false := by
        intro event member
        obtain ⟨code,_,rfl⟩ := List.mem_map.mp member
        simpa [HandshakeEvent.concerns] using fun equal => same equal.symm
      have kept : (s.callback context answers entry).1.objects other = s.objects other := Function.update_of_ne same ..
      rw [kept]
      exact seated.elsewhere unrelated
  · intro other member
    rcases before.pending other member with begun | stopped | pends
    · exact .inl (started_append.mpr (.inl begun))
    · exact .inr (.inl (List.mem_append_left _ stopped))
    · exact .inr (.inr pends)

theorem proceed_valid (answers : Answers) (before : Valid s log) :
    Valid (s.proceed answers).1 (log ++ (s.proceed answers).2) := by
  cases here : s.serial with
  | none => simpa [Handshake.proceed,here] using before
  | some place =>
    cases place with
    | selecting contextId => simpa [Handshake.proceed,here] using select_valid contextId here before
    | calling call context => exact call_valid answers call context here before

end Steps

theorem step_valid (s : Handshake) (log : List HandshakeEvent) (op : HandshakeOp) (before : Valid s log) :
    Valid (s.step op).1 (log ++ (s.step op).2) := by
  cases op with
  | pool op =>
    cases op with
    | runTask position => simpa [Handshake.step] using takeTask_valid position before
    | schedule preempt context => exact pool_valid (.schedule preempt context) (by simp) before
    | cancel contextId => exact pool_valid (.cancel contextId) (by simp) before
    | delete preempt contextId => exact pool_valid (.delete preempt contextId) (by simp) before
    | notifyPreemptStateChanged preempt => exact pool_valid (.notifyPreemptStateChanged preempt) (by simp) before
  | proceed answers => exact proceed_valid answers before
  | callback context answers entry => exact callback_valid context answers entry before

theorem runs_valid (making : Context → WidgetMaking) (ops : List HandshakeOp) :
    Valid (handshakeMachine.after (.initial making) ops) (handshakeMachine.trace (.initial making) ops) :=
  Mealy.history (m:=handshakeMachine) step_valid (initial_valid making) ops

end Handshake

section Cancelled
open Handshake
variable {s : Handshake} {log : List HandshakeEvent} {context : Context}

-- A context on whose id a cancel is recorded before it starts: from here on its
-- stop has been called, or is under way, or it has been taken out of the pool.
def Fated (s : Handshake) (log : List HandshakeEvent) (context : Context) : Prop :=
  .stop context ∈ log ∨ (s.callOf context ≠ some .start ∧
    ((context ∈ s.pool.contexts ∧ (context.contextId ∈ s.pool.cancelRequestedIds ∨
      s.serial = some (.selecting context.contextId) ∨ s.callOf context = some .stop)) ∨
    (context ∉ s.pool.contexts ∧ .removed context ∈ log)))

structure Doomed (s : Handshake) (log : List HandshakeEvent) (context : Context) : Prop where
  known : context.ref < s.nextRef
  never : .start context .onStart ∉ log
  fated : Fated s log context

theorem onStart_granted (valid : Valid s log) (granted : .start context .onStart ∈ (s.step op).2) :
    s.callOf context = some .start ∧ .stop context ∉ log := by
  cases op with
  | pool op =>
    cases op with
    | delete preempt contextId =>
      obtain ⟨_,_,same⟩ := List.mem_map.mp granted
      cases same
    | _ => cases granted
  | callback other answers entry =>
    obtain ⟨_,_,same⟩ := List.mem_map.mp granted
    cases same
  | proceed answers =>
    simp only [Handshake.step,Handshake.proceed] at granted
    split at granted
    · cases granted
    · cases granted
    · rename_i call other here
      cases call with
      | start =>
        obtain ⟨rfl,answer⟩ := HandshakeEvent.start.inj (List.mem_singleton.mp granted)
        have own : s.callOf context = some .start := by simp [Handshake.callOf,here]
        obtain ⟨seat,seated⟩ := valid.seated context
        cases onStart_from_free _ seat seated.sits answer.symm
        exact ⟨own,seated.records.2.1⟩
      | stop => simp [Handshake.callObject] at granted
      | _ =>
        obtain ⟨_,_,same⟩ := List.mem_map.mp granted
        cases same

theorem pool_fated (op : PoolOp) (posting : ∀ position, op ≠ .runTask position) (valid : Valid s log)
    (known : context.ref < s.nextRef) (before : Fated s log context) :
    Fated {s with toPoolState:=(s.toPoolState.step op).1} (log ++ s.removals op) context := by
  obtain ⟨plans,ordered⟩ := valid.ordered
  have posts := step_posts s.toPoolState op posting
  rcases before with stopped | ⟨unstarted,⟨member,coming⟩ | ⟨absent,removed⟩⟩
  · exact .inl (List.mem_append_left _ stopped)
  · refine .inr ⟨unstarted,?_⟩
    by_cases stays : context ∈ (s.toPoolState.step op).1.pool.contexts
    · exact .inl ⟨stays,coming.imp_left fun asked => posts.kept asked⟩
    · refine .inr ⟨stays,List.mem_append_right _ ?_⟩
      have taken : ∃ preempt, op = .delete preempt context.contextId := by
        by_contra spared
        exact stays (step_keeps ordered.distinct member fun preempt same => spared ⟨preempt,same⟩)
      obtain ⟨preempt,rfl⟩ := taken
      exact List.mem_map_of_mem (List.mem_filter.mpr ⟨member,beq_self_eq_true _⟩)
  · exact .inr ⟨unstarted,.inr ⟨step_strangers ordered known absent,List.mem_append_left _ removed⟩⟩

theorem take_stop_fated (contextId : UInt64) (idle : s.serial = none)
    (taken : s.tasks[position]? = some (.stopIfPooled contextId)) (before : Fated s log context) :
    Fated {s with toPoolState:=s.toPoolState.runTask position,serial:=some (.selecting contextId)} log context := by
  have none : s.callOf context = none := by simp [Handshake.callOf,idle]
  have pool : (s.toPoolState.runTask position).pool = s.pool.forgetCancel contextId := by simp [PoolState.runTask,taken]
  rcases before with stopped | ⟨_,fate⟩
  · exact .inl stopped
  · rw [idle,none] at fate
    refine .inr ⟨by simp [Handshake.callOf],?_⟩
    simp only [pool]
    refine fate.imp (fun pooled => ?_) id
    obtain ⟨member,coming⟩ := pooled
    refine ⟨member,?_⟩
    rcases coming with asked | selecting | called
    · by_cases same : context.contextId = contextId
      · exact .inr (.inl (by simp [same]))
      · exact .inl (Finset.mem_erase.mpr ⟨same,asked⟩)
    · cases selecting
    · cases called

-- A start is not taken for a context that a cancel is recorded for.
theorem take_start_fated (contextId : UInt64) (idle : s.serial = none)
    (taken : s.tasks[position]? = some (.startIfPooled contextId)) (before : Fated s log context) :
    Fated {s with toPoolState:=s.toPoolState.runTask position,serial:=Handshake.firstStep s.pool (.startIfPooled contextId)}
      log context := by
  have none : s.callOf context = none := by simp [Handshake.callOf,idle]
  have pool : (s.toPoolState.runTask position).pool = s.pool := by simp [PoolState.runTask,taken]
  rcases before with stopped | ⟨_,fate⟩
  · exact .inl stopped
  · rw [idle,none] at fate
    right
    simp only [pool]
    refine ⟨?_,fate.imp (And.imp_right (Or.imp_right ?_)) id⟩
    · rcases firstStep_start s.pool contextId with dropped | ⟨other,running,named,free,called⟩
      · simp [Handshake.callOf,dropped]
      · have apart : other ≠ context := by
          rintro rfl
          rcases fate with ⟨_,asked | selecting | called⟩ | ⟨absent,_⟩
          · exact free (named ▸ asked)
          · cases selecting
          · cases called
          · exact absent (List.mem_append_left _ running)
        simp [Handshake.callOf,called,apart]
    · rintro (selecting | called)
      · cases selecting
      · cases called

theorem takeTask_fated (position : Nat) (before : Fated s log context) : Fated (s.takeTask position) log context := by
  unfold Handshake.takeTask
  split
  · rename_i task idle taken
    cases task with
    | stopIfPooled contextId => exact take_stop_fated contextId idle taken before
    | startIfPooled contextId => exact take_start_fated contextId idle taken before
  · exact before

theorem select_fated (contextId : UInt64) (here : s.serial = some (.selecting contextId)) (valid : Valid s log)
    (before : Fated s log context) :
    Fated {s with serial:=(s.pool.selectLocked contextId).map (.calling .stop)} log context := by
  obtain ⟨plans,ordered⟩ := valid.ordered
  rcases before with stopped | ⟨_,fate⟩
  · exact .inl stopped
  · have later : Handshake.callOf {s with serial:=(s.pool.selectLocked contextId).map (.calling .stop)} context ≠
        some .start := by
      cases found : s.pool.selectLocked contextId with
      | none => simp [Handshake.callOf]
      | some other =>
        simp only [Handshake.callOf,Option.map_some]
        split <;> simp
    refine .inr ⟨later,fate.imp (fun pooled => ?_) id⟩
    obtain ⟨member,coming⟩ := pooled
    refine ⟨member,?_⟩
    rcases coming with asked | selecting | called
    · exact .inl asked
    · cases here.symm.trans selecting
      exact .inr (.inr (by simp [Handshake.callOf,select_member ordered.distinct member]))
    · simp [Handshake.callOf,here] at called

theorem call_fated (answers : Answers) (call : SerialCall) (other : Context)
    (here : s.serial = some (.calling call other)) (before : Fated s log context) :
    Fated (s.proceed answers).1 (log ++ (s.proceed answers).2) context := by
  rcases before with stopped | ⟨unstarted,fate⟩
  · exact .inl (List.mem_append_left _ stopped)
  · simp only [Handshake.proceed,here]
    by_cases same : other = context
    · subst same
      have own : s.callOf other = some call := by simp [Handshake.callOf,here]
      rw [own] at unstarted fate
      cases call with
      | start => exact absurd rfl unstarted
      | stop => exact .inl (List.mem_append_right _ (by simp [Handshake.callObject]))
      | _ =>
        refine .inr ⟨?_,fate.imp (And.imp_right fun coming => .inl ?_) (.imp_right (List.mem_append_left _))⟩
        · rw [callOf_moved]
          exact never_back_to_start answers other _ _
        · rcases coming with asked | selecting | called
          · exact asked
          · rw [here] at selecting
            cases selecting
          · cases called
    · have idle : s.callOf context = none := by simp [Handshake.callOf,here,same]
      rw [here,idle] at fate
      refine .inr ⟨?_,fate.imp (And.imp_right fun coming => .inl ?_) (.imp_right (List.mem_append_left _))⟩
      · cases next : (Handshake.callObject answers other (s.objects other) call).2.1 <;> simp [Handshake.callOf,same]
      · rcases coming with asked | selecting | called
        · exact asked
        · cases selecting
        · cases called

theorem proceed_fated (answers : Answers) (valid : Valid s log) (before : Fated s log context) :
    Fated (s.proceed answers).1 (log ++ (s.proceed answers).2) context := by
  cases here : s.serial with
  | none => simpa [Handshake.proceed,here] using before
  | some place =>
    cases place with
    | selecting contextId => simpa [Handshake.proceed,here] using select_fated contextId here valid before
    | calling call other => exact call_fated answers call other here before

theorem step_doomed (s : Handshake) (log : List HandshakeEvent) (op : HandshakeOp) (valid : Valid s log)
    (before : Doomed s log context) : Doomed (s.step op).1 (log ++ (s.step op).2) context := by
  have never : .start context .onStart ∉ log ++ (s.step op).2 := by
    intro run
    rcases List.mem_append.mp run with old | granted
    · exact before.never old
    · obtain ⟨called,unstopped⟩ := onStart_granted valid granted
      rcases before.fated with stopped | ⟨unstarted,_⟩
      · exact unstopped stopped
      · exact unstarted called
  cases op with
  | pool op =>
    have grows := nextRef_grows s.toPoolState op
    cases op with
    | runTask position =>
      refine ⟨?_,never,by simpa [Handshake.step] using takeTask_fated position before.fated⟩
      simp only [Handshake.step,Handshake.takeTask]
      split
      · exact Nat.lt_of_lt_of_le before.known grows
      · exact before.known
    | schedule preempt arrival =>
      exact ⟨Nat.lt_of_lt_of_le before.known grows,never,pool_fated (.schedule preempt arrival) (by simp) valid before.known before.fated⟩
    | cancel contextId =>
      exact ⟨Nat.lt_of_lt_of_le before.known grows,never,pool_fated (.cancel contextId) (by simp) valid before.known before.fated⟩
    | delete preempt contextId =>
      exact ⟨Nat.lt_of_lt_of_le before.known grows,never,pool_fated (.delete preempt contextId) (by simp) valid before.known before.fated⟩
    | notifyPreemptStateChanged preempt =>
      exact ⟨Nat.lt_of_lt_of_le before.known grows,never,pool_fated (.notifyPreemptStateChanged preempt) (by simp) valid before.known before.fated⟩
  | proceed answers =>
    refine ⟨?_,never,proceed_fated answers valid before.fated⟩
    simp only [Handshake.step,Handshake.proceed]
    split <;> exact before.known
  | callback other answers entry =>
    refine ⟨before.known,never,?_⟩
    rcases before.fated with stopped | ⟨unstarted,fate⟩
    · exact .inl (List.mem_append_left _ stopped)
    · exact .inr ⟨unstarted,fate.imp_right (.imp_right (List.mem_append_left _))⟩

-- The cancel is recorded for a pooled context that has not started, and no
-- start task has got past its look at the record.
def CancelledFirst (s : Handshake) (log : List HandshakeEvent) (context : Context) : Prop :=
  context ∈ s.pool.contexts ∧ context.contextId ∈ s.pool.cancelRequestedIds ∧ ¬Started log context ∧
    s.callOf context ≠ some .start

theorem cancelledFirst_doomed (valid : Valid s log) (cancelled : CancelledFirst s log context) : Doomed s log context := by
  obtain ⟨member,asked,unstarted,clear⟩ := cancelled
  obtain ⟨plans,ordered⟩ := valid.ordered
  refine ⟨ordered.known context ?_,fun run => unstarted (.inl run),.inr ⟨clear,.inl ⟨member,.inl asked⟩⟩⟩
  rcases List.mem_append.mp member with running | waiting
  · exact List.mem_append_left _ (ordered.running.subset running)
  · exact List.mem_append_right _ waiting

theorem runs_doomed (valid : Valid s log) (cancelled : CancelledFirst s log context) (ops : List HandshakeOp) :
    Valid (handshakeMachine.after s ops) (log ++ handshakeMachine.trace s ops) ∧
      Doomed (handshakeMachine.after s ops) (log ++ handshakeMachine.trace s ops) context :=
  Mealy.guarded_history (m:=handshakeMachine) (P:=fun s log => Valid s log ∧ Doomed s log context) (c:=fun _ _ => True)
    (fun s log op both _ => ⟨step_valid s log op both.1,step_doomed s log op both.1 both.2⟩)
    ⟨valid,cancelledFirst_doomed valid cancelled⟩ (Mealy.meets_trivially ops)

theorem stoppedFirst_stopped (first : StoppedFirst log context) : .stop context ∈ log := List.mem_of_find?_eq_some first

-- A context with a caller whose OnStart has not run has sent the one result
-- that its stop owes, or no result yet.
theorem unstarted_results (valid : Valid s log) (never : .start context .onStart ∉ log)
    (kind : context.contextType ≠ .scheduleHolder) :
    (.stop context ∈ log ∧ results log context = [.onStartFailed context ResultCode.CANCELED]) ∨
      (results log context = [] ∧ (.stop context ∈ log → s.callOf context = some .reportStop)) := by
  obtain ⟨seat,seated⟩ := valid.seated context
  cases seat with
  | started => exact (seated.records.elim never fun done => kind (seated.holder done)).elim
  | free => exact .inr ⟨seated.records.2.2,fun stopped => absurd stopped seated.records.2.1⟩
  | answered => exact .inl ⟨seated.records.2.1,by simpa [owed,kind] using seated.records.2.2⟩
  | stopping =>
    refine .inr ⟨seated.records.2.2,fun _ => ?_⟩
    have meets := seated.meets
    cases called : s.callOf context with
    | none => simp [called,SerialCall.seats] at meets
    | some call => cases call <;> simp [called,SerialCall.seats] at meets ⊢

-- BaseContext's own flags say the same as the log.
theorem flags_tell {own : BaseContext} (valid : Valid s log) (object : s.objects context = .base own) :
    (own.hasStarted = true ↔ Started log context) ∧
      (own.stopRequested = true ∧ own.hasStarted = false ↔ .stop context ∈ log ∧ ¬Started log context) := by
  obtain ⟨seat,seated⟩ := valid.seated context
  have sits := seated.sits
  have records := seated.records
  rw [object] at sits
  cases seat with
  | started =>
    have begun : own.hasStarted = true := sits
    have logged : Started log context := records
    simp [begun,logged]
  | _ => simp [sits.1,sits.2.1,records.1,records.2.1]

end Cancelled

open Handshake in
theorem start_cancel_handshake (making : Context → WidgetMaking) (ops : List HandshakeOp) :
    let s := handshakeMachine.after (.initial making) ops
    let log := handshakeMachine.trace (.initial making) ops
    (∀ context ∈ s.pool.runningContexts,
      Started log context ∨ .stop context ∈ log ∨ s.StartPending context ∨ s.StopPending context) ∧
    (∀ id ∈ s.pool.cancelRequestedIds, .stopIfPooled id ∈ s.tasks) ∧
    (∀ context, StoppedFirst log context → .start context .onStart ∉ log ∧
      (context.contextType ≠ .scheduleHolder → results log context = [.onStartFailed context ResultCode.CANCELED] ∨
        (results log context = [] ∧ s.callOf context = some .reportStop))) ∧
    (∀ earlier later context, ops = earlier ++ later →
      CancelledFirst (handshakeMachine.after (.initial making) earlier) (handshakeMachine.trace (.initial making) earlier)
        context →
      .start context .onStart ∉ log ∧ (context.contextType ≠ .scheduleHolder →
        results log context = [.onStartFailed context ResultCode.CANCELED] ∨
          (results log context = [] ∧ (s.StopPending context ∨ .removed context ∈ log)))) := by
  intro s log
  have valid : Valid s log := runs_valid making ops
  refine ⟨valid.pending,valid.recorded,?_,?_⟩
  · intro context first
    obtain ⟨seat,seated⟩ := valid.seated context
    have never := seated.first first
    refine ⟨never,fun kind => ?_⟩
    rcases unstarted_results valid never kind with ⟨_,answered⟩ | ⟨silent,reporting⟩
    · exact .inl answered
    · exact .inr ⟨silent,reporting (stoppedFirst_stopped first)⟩
  · intro earlier later context split cancelled
    have doomed : Doomed s log context := by
      have both := runs_doomed (runs_valid making earlier) cancelled later
      rw [←Mealy.after_append,←Mealy.trace_append,←split] at both
      exact both.2
    refine ⟨doomed.never,fun kind => ?_⟩
    rcases unstarted_results valid doomed.never kind with ⟨_,answered⟩ | ⟨silent,reporting⟩
    · exact .inl answered
    · refine .inr ⟨silent,?_⟩
      rcases doomed.fated with stopped | ⟨_,⟨_,asked | selecting | called⟩ | ⟨_,removed⟩⟩
      · exact .inl (.inr (.inr (.inr (reporting stopped))))
      · exact .inl (.inl (valid.recorded _ asked))
      · exact .inl (.inr (.inl selecting))
      · exact .inl (.inr (.inr (.inl called)))
      · exact .inr removed

-- The cancel comes between a sudo session's admission and its start task.
def cancelledSudo : List HandshakeOp :=
  let answers : Answers := ⟨WidgetContext.fairEnv,true,ResultCode.SUCCESS,[]⟩
  [.pool (.schedule (fun _ _ => .keepRunning) dialogSudo),.pool (.cancel 11),.pool (.runTask 0),.pool (.runTask 0),
    .proceed answers,.proceed answers,.proceed answers]

def pinMaking (_ : Context) : WidgetMaking := ⟨WidgetContext.pinPara,false,false⟩

theorem cancelled_sudo_answered :
    .start dialogSudo .onStart ∉ handshakeMachine.trace (.initial pinMaking) cancelledSudo ∧
      results (handshakeMachine.trace (.initial pinMaking) cancelledSudo) dialogSudo =
        [.onStartFailed dialogSudo ResultCode.CANCELED] := by
  have cancelled : CancelledFirst (handshakeMachine.after (.initial pinMaking) (cancelledSudo.take 2))
      (handshakeMachine.trace (.initial pinMaking) (cancelledSudo.take 2)) dialogSudo := by
    unfold CancelledFirst Started
    decide
  have settled := (start_cancel_handshake pinMaking cancelledSudo).2.2.2 _ (cancelledSudo.drop 2) dialogSudo
    (List.take_append_drop 2 cancelledSudo).symm cancelled
  exact ⟨settled.1,by decide⟩

end UserAuth
