import Mathlib.Data.List.Perm.Basic
import Mathlib.Logic.Function.Basic
import Std.Data.ExtTreeMap.Lemmas
import UserAuth.Common.Defines
import UserAuth.Lib.History
import UserAuth.Lib.Mealy

namespace UserAuth
open Std

def SINGLETON_THREAD_NAME : Bytes := "ThreadHandler".toUTF8.data.toList

-- Created handlers are numbered.
inductive HandlerRef where
  | singleton
  | impl (handler : Nat)
  deriving DecidableEq

-- The callers' tasks are numbered as they are accepted. The hop is the task that
-- DestroyThreadHandler posts, and from GetThreadHandler on it has the singleton's handler.
inductive ThreadTask where
  | call (task : Nat)
  | monitor
  | hop (name : Bytes)
  | postDelete (name : Bytes)
  deriving DecidableEq

-- With the pool's one thread.
structure ThreadHandlerImpl where
  canSuspend : Bool := true
  isSuspended : Bool := false
  queue : List ThreadTask := []
  running : Option ThreadTask := none

namespace ThreadHandlerImpl

def postTask (handler : ThreadHandlerImpl) (task : ThreadTask) (monitored : Bool) : ThreadHandlerImpl :=
  if handler.isSuspended then handler
  else {handler with queue:=handler.queue ++ task :: if monitored then [.monitor] else []}

def suspend (handler : ThreadHandlerImpl) : ThreadHandlerImpl :=
  if !handler.canSuspend then handler else {handler with isSuspended:=true}

-- The thread of the pool is free and takes the next task.
def take (handler : ThreadHandlerImpl) : ThreadHandlerImpl :=
  match handler.running,handler.queue with
  | none,task :: rest => {handler with queue:=rest,running:=some task}
  | _,_ => handler

def tasks (handler : ThreadHandlerImpl) : List ThreadTask := handler.running.toList ++ handler.queue

end ThreadHandlerImpl

-- What the timer behind the singleton handler has to run. A deletion goes by the
-- name; the handler it was requested for is kept for the history.
inductive SingletonTask where
  | call (task : Nat)
  | delete (name : Bytes) (origin : Nat)
  deriving DecidableEq

-- The singleton's entry, which nothing takes out of the map, is kept apart from it,
-- and its handler may not have been allocated.
structure ThreadHandlers where
  singleton : Bool := true
  threadHandlerMap : ExtTreeMap Bytes Nat := ∅
  handlers : Nat → ThreadHandlerImpl := fun _ => {}
  created : Nat := 0
  timer : List SingletonTask := []
  -- The handler of the DestroyThreadHandler call that has the lock.
  destroying : Option Nat := none
  held : List HandlerRef := []
  accepted : Nat := 0

inductive ThreadInput where
  | createThreadHandler (name : Bytes) (allocated : Bool)
  | getThreadHandler (name : Bytes)
  | postTask (name : Bytes) (monitored : Bool)
  -- By a caller that has got the handler before.
  | postTaskHeld (handler : HandlerRef) (monitored : Bool)
  | destroyThreadHandler (name : Bytes) (monitored : Bool)
  -- The rest of the DestroyThreadHandler call that has the lock.
  | suspend
  | take (handler : Nat)
  -- The task of the handler's thread goes on.
  | proceed (handler : Nat)
  | expire (index : Nat)

inductive ThreadEvent where
  | accepted (handler : HandlerRef) (task : Nat)
  | ran (handler : HandlerRef) (task : Nat)
  | destroyRequested (handler : Nat)
  -- The deletion of the handler is posted.
  | deferred (handler : Nat)
  -- The deletion requested for `origin` removes `handler`.
  | deleted (handler origin : Nat)
  deriving DecidableEq

namespace ThreadHandlers

def getThreadHandler (s : ThreadHandlers) (name : Bytes) : Option HandlerRef :=
  if name = SINGLETON_THREAD_NAME then if s.singleton then some .singleton else none
  else s.threadHandlerMap[name]?.map .impl

def createThreadHandler (s : ThreadHandlers) (name : Bytes) (allocated : Bool) : ThreadHandlers × Bool :=
  if name = SINGLETON_THREAD_NAME ∨ name ∈ s.threadHandlerMap then (s,false)
  else if !allocated then (s,false)
  else ({s with
    threadHandlerMap:=s.threadHandlerMap.insert name s.created,
    handlers:=Function.update s.handlers s.created {canSuspend:=true},
    created:=s.created + 1},true)

def onHandler (s : ThreadHandlers) (handler : Nat) (f : ThreadHandlerImpl → ThreadHandlerImpl) : ThreadHandlers :=
  {s with handlers:=Function.update s.handlers handler (f (s.handlers handler))}

-- The singleton takes every task, and a created handler until it is suspended.
def accept (s : ThreadHandlers) (monitored : Bool) : HandlerRef → ThreadHandlers × List ThreadEvent
  | .singleton =>
    ({s with timer:=s.timer ++ [.call s.accepted],accepted:=s.accepted + 1},[.accepted .singleton s.accepted])
  | .impl handler =>
    if (s.handlers handler).isSuspended then (s,[])
    else ({s.onHandler handler (·.postTask (.call s.accepted) monitored) with accepted:=s.accepted + 1},
      [.accepted (.impl handler) s.accepted])

def postTask (s : ThreadHandlers) (name : Bytes) (monitored : Bool) : ThreadHandlers × List ThreadEvent :=
  match s.getThreadHandler name with
  | none => (s,[])
  | some handler => s.accept monitored handler

def destroyThreadHandler (s : ThreadHandlers) (name : Bytes) (monitored : Bool) :
    ThreadHandlers × List ThreadEvent :=
  if name = SINGLETON_THREAD_NAME then (s,[])
  else match s.threadHandlerMap[name]? with
    | none => (s,[])
    | some handler => ({s.onHandler handler (·.postTask (.hop name) monitored) with destroying:=some handler},
        [.destroyRequested handler])

def suspend (s : ThreadHandlers) : ThreadHandlers :=
  match s.destroying with
  | none => s
  | some handler => {s.onHandler handler (·.suspend) with destroying:=none}

def deleteThreadHandler (s : ThreadHandlers) (name : Bytes) (origin : Nat) :
    ThreadHandlers × List ThreadEvent :=
  if name = SINGLETON_THREAD_NAME then (s,[])
  else match s.threadHandlerMap[name]? with
    | none => (s,[])
    | some handler => ({s with threadHandlerMap:=s.threadHandlerMap.erase name},[.deleted handler origin])

def proceed (s : ThreadHandlers) (handler : Nat) : ThreadHandlers × List ThreadEvent :=
  let free := s.onHandler handler ({· with running:=none})
  match (s.handlers handler).running with
  | none => (s,[])
  | some (.call task) => (free,[.ran (.impl handler) task])
  | some .monitor => (free,[])
  | some (.hop name) =>
    if s.destroying.isSome then (s,[])
    else match s.getThreadHandler SINGLETON_THREAD_NAME with
      | none => (free,[])
      | some _ => (s.onHandler handler ({· with running:=some (.postDelete name)}),[])
  | some (.postDelete name) => ({free with timer:=s.timer ++ [.delete name handler]},[.deferred handler])

-- The timer has its own order.
def expire (s : ThreadHandlers) (index : Nat) : ThreadHandlers × List ThreadEvent :=
  let rest := {s with timer:=s.timer.eraseIdx index}
  match s.timer[index]? with
  | none => (s,[])
  | some (.call task) => (rest,[.ran .singleton task])
  | some (.delete name origin) => if s.destroying.isSome then (s,[]) else rest.deleteThreadHandler name origin

-- The lock keeps the manager's functions out of a DestroyThreadHandler call.
def step (s : ThreadHandlers) : ThreadInput → ThreadHandlers × List ThreadEvent
  | .createThreadHandler name allocated =>
    if s.destroying.isSome then (s,[]) else ((s.createThreadHandler name allocated).1,[])
  | .getThreadHandler name =>
    if s.destroying.isSome then (s,[]) else ({s with held:=(s.getThreadHandler name).toList ++ s.held},[])
  | .postTask name monitored => if s.destroying.isSome then (s,[]) else s.postTask name monitored
  | .postTaskHeld handler monitored => if handler ∈ s.held then s.accept monitored handler else (s,[])
  | .destroyThreadHandler name monitored =>
    if s.destroying.isSome then (s,[]) else s.destroyThreadHandler name monitored
  | .suspend => (s.suspend,[])
  | .take handler => (s.onHandler handler (·.take),[])
  | .proceed handler => s.proceed handler
  | .expire index => s.expire index

def machine : Mealy ThreadHandlers ThreadInput ThreadEvent := ⟨step⟩

end ThreadHandlers

namespace ThreadHandlerImpl
variable {handler : ThreadHandlerImpl} {early early' : Nat → Prop}

theorem postTask_suspended (suspended : handler.isSuspended = true) (task : ThreadTask) (monitored : Bool) :
    handler.postTask task monitored = handler := if_pos suspended

theorem postTask_awake (awake : ¬handler.isSuspended = true) (task : ThreadTask) (monitored : Bool) :
    handler.postTask task monitored = {handler with queue:=handler.queue ++ task :: if monitored then [.monitor] else []} :=
  if_neg awake

theorem postTask_tasks (awake : ¬handler.isSuspended = true) (task : ThreadTask) (monitored : Bool) :
    (handler.postTask task monitored).tasks = handler.tasks ++ task :: if monitored then [.monitor] else [] := by
  rw [postTask_awake awake,tasks,tasks,List.append_assoc]

theorem take_cases (handler : ThreadHandlerImpl) : handler.take = handler ∨ ∃ task rest, handler.running = none ∧
    handler.queue = task :: rest ∧ handler.take = {handler with queue:=rest,running:=some task} := by
  unfold take
  cases running : handler.running with
  | some task => exact .inl rfl
  | none =>
    cases queue : handler.queue with
    | nil => exact .inl rfl
    | cons task rest => exact .inr ⟨task,rest,rfl,rfl,rfl⟩

theorem take_tasks (handler : ThreadHandlerImpl) : handler.take.tasks = handler.tasks := by
  obtain same | ⟨task,rest,running,queue,taken⟩ := take_cases handler
  · rw [same]
  · rw [taken,tasks,tasks,running,queue]
    rfl

-- The early tasks are ahead of the hop, or through.
def Past (handler : ThreadHandlerImpl) (early : Nat → Prop) : Prop :=
  (∃ front name back, handler.queue = front ++ .hop name :: back ∧ ∀ task, early task → .call task ∉ back) ∨
    ∀ task, early task → .call task ∉ handler.tasks

theorem Past.mono (past : Past handler early) (fewer : ∀ task, early' task → early task) : Past handler early' := by
  obtain ⟨front,name,back,queue,late⟩ | through := past
  · exact .inl ⟨front,name,back,queue,fun task now => late task (fewer task now)⟩
  · exact .inr fun task now => through task (fewer task now)

theorem monitor_only (task : Nat) (monitored : Bool) : .call task ∉ if monitored then [ThreadTask.monitor] else [] := by
  cases monitored with
  | false => exact List.not_mem_nil
  | true => exact fun same => nomatch List.mem_singleton.mp same

theorem hop_only (task : Nat) (name : Bytes) (monitored : Bool) :
    .call task ∉ ThreadTask.hop name :: if monitored then [.monitor] else [] := by
  intro member
  rcases List.mem_cons.mp member with same | monitor
  · cases same
  · exact monitor_only task monitored monitor

theorem Past.postTask (past : Past handler early) (late : ¬early task) (monitored : Bool) :
    Past (handler.postTask (.call task) monitored) early := by
  by_cases suspended : handler.isSuspended = true
  · rwa [postTask_suspended suspended]
  · have behind : ∀ other, early other → .call other ∉ .call task :: if monitored then [ThreadTask.monitor] else [] := by
      intro other now member
      rcases List.mem_cons.mp member with same | monitor
      · cases same
        exact late now
      · exact monitor_only other monitored monitor
    obtain ⟨front,name,back,queue,absent⟩ | through := past
    · left
      rw [postTask_awake suspended]
      refine ⟨front,name,back ++ .call task :: if monitored then [.monitor] else [],?_,?_⟩
      · rw [queue,List.append_assoc]
        rfl
      · intro other now member
        exact (List.mem_append.mp member).elim (absent other now) (behind other now)
    · right
      rw [postTask_tasks suspended]
      intro other now member
      exact (List.mem_append.mp member).elim (through other now) (behind other now)

theorem past_hop (awake : ¬handler.isSuspended = true) (name : Bytes) (monitored : Bool) (early : Nat → Prop) :
    Past (handler.postTask (.hop name) monitored) early := by
  rw [postTask_awake awake]
  exact .inl ⟨handler.queue,name,_,rfl,fun task _ => monitor_only task monitored⟩

theorem Past.take (past : Past handler early) : Past handler.take early := by
  obtain same | ⟨task,rest,running,queue,taken⟩ := take_cases handler
  · rwa [same]
  · obtain ⟨front,name,back,ahead,late⟩ | through := past
    · rw [queue] at ahead
      rw [taken]
      cases front with
      | nil =>
        cases ahead
        refine .inr fun other now member => ?_
        rcases List.mem_cons.mp member with same | member
        · cases same
        · exact late other now member
      | cons first front =>
        cases ahead
        exact .inl ⟨front,name,back,rfl,late⟩
    · refine .inr fun other now => ?_
      rw [take_tasks]
      exact through other now

-- A task that ends, or a hop that goes on, leaves the queue as it is.
theorem Past.proceed (past : Past handler early) (next : Option ThreadTask) (quiet : ∀ task, next ≠ some (.call task)) :
    Past {handler with running:=next} early := by
  obtain behind | through := past
  · exact .inl behind
  · refine .inr fun task now member => ?_
    rcases List.mem_append.mp member with running | waiting
    · exact quiet task (Option.mem_toList.mp running)
    · exact through task now (List.mem_append_right _ waiting)

end ThreadHandlerImpl

namespace ThreadHandlers
open ThreadHandlerImpl

section Steps
variable {s : ThreadHandlers} {h : List ThreadEvent}

-- Where an accepted task waits or runs.
def holds (s : ThreadHandlers) : HandlerRef → Nat → Nat
  | .singleton,task => s.timer.count (.call task)
  | .impl handler,task => (s.handlers handler).tasks.count (.call task)

structure Accounted (s : ThreadHandlers) (h : List ThreadEvent) : Prop where
  tasks : ∀ handler task, h.count (.ran handler task) + s.holds handler task = h.count (.accepted handler task)
  once : ∀ handler task, h.count (.accepted handler task) ≤ 1
  home : ∀ handler other task, .accepted handler task ∈ h → .accepted other task ∈ h → other = handler
  numbered : ∀ handler task, .accepted handler task ∈ h → task < s.accepted
  made : ∀ handler task, .accepted (.impl handler) task ∈ h → handler < s.created
  mapped : ∀ (name : Bytes) (handler : Nat), s.threadHandlerMap[name]? = some handler → handler < s.created
  held : ∀ handler, .impl handler ∈ s.held → handler < s.created

-- Events about deletions leave the account as it is.
theorem Accounted.tell (accounted : Accounted s h) (event : ThreadEvent)
    (other : ∀ handler task, event ≠ .accepted handler task ∧ event ≠ .ran handler task) :
    Accounted s (h ++ [event]) := by
  have accepted : ∀ handler task, (h ++ [event]).count (.accepted handler task) = h.count (.accepted handler task) := by
    intro handler task
    rw [History.count_concat,if_neg (other handler task).1,Nat.add_zero]
  have member : ∀ handler task, ThreadEvent.accepted handler task ∈ h ++ [event] → .accepted handler task ∈ h := by
    intro handler task told
    exact (History.mem_concat.mp told).resolve_right (other handler task).1.symm
  constructor
  · intro handler task
    rw [accepted,History.count_concat,if_neg (other handler task).2,Nat.add_zero]
    exact accounted.tasks handler task
  · intro handler task
    rw [accepted]
    exact accounted.once handler task
  · exact fun handler other task here there =>
      accounted.home handler other task (member handler task here) (member other task there)
  · exact fun handler task told => accounted.numbered handler task (member handler task told)
  · exact fun handler task told => accounted.made handler task (member (.impl handler) task told)
  · exact accounted.mapped
  · exact accounted.held

theorem onHandler_holds (s : ThreadHandlers) (handler : Nat) (f : ThreadHandlerImpl → ThreadHandlerImpl)
    (other : HandlerRef) (task : Nat) : (s.onHandler handler f).holds other task =
      if other = .impl handler then (f (s.handlers handler)).tasks.count (.call task) else s.holds other task := by
  cases other with
  | singleton => rfl
  | impl other =>
    unfold holds onHandler
    dsimp only
    by_cases here : other = handler
    · subst here
      rw [Function.update_self,if_pos rfl]
    · rw [Function.update_of_ne here,if_neg fun same => here (HandlerRef.impl.inj same)]

-- One handler moves its tasks, and no caller's task comes or goes.
theorem Accounted.onHandler (accounted : Accounted s h) (handler : Nat) (f : ThreadHandlerImpl → ThreadHandlerImpl)
    (same : ∀ task, (f (s.handlers handler)).tasks.count (.call task) = (s.handlers handler).tasks.count (.call task)) :
    Accounted (s.onHandler handler f) h := by
  refine {accounted with tasks:=fun other task => ?_}
  rw [← accounted.tasks other task,onHandler_holds]
  split
  · rename_i here
    rw [here,same]
    rfl
  · rfl

theorem Accounted.onTimer (accounted : Accounted s h) (timer : List SingletonTask)
    (same : ∀ task, timer.count (.call task) = s.timer.count (.call task)) : Accounted {s with timer} h := by
  refine {accounted with tasks:=fun other task => ?_}
  rw [← accounted.tasks other task]
  cases other with
  | singleton => exact congrArg (_ + ·) (same task)
  | impl => rfl

-- A handler's next task has a number of its own.
theorem Accounted.accepted (accounted : Accounted s h) (next : ThreadHandlers) (handler : HandlerRef)
    (known : ∀ i, handler = .impl i → i < s.created) (count : next.accepted = s.accepted + 1)
    (created : next.created = s.created) (map : next.threadHandlerMap = s.threadHandlerMap) (held : next.held = s.held)
    (holds : ∀ other task, next.holds other task =
      s.holds other task + if other = handler ∧ task = s.accepted then 1 else 0) :
    Accounted next (h ++ [.accepted handler s.accepted]) := by
  have fresh : ∀ other, ThreadEvent.accepted other s.accepted ∉ h := by
    intro other told
    exact Nat.lt_irrefl _ (accounted.numbered other s.accepted told)
  have accepted : ∀ other task, (h ++ [ThreadEvent.accepted handler s.accepted]).count (.accepted other task) =
      h.count (.accepted other task) + if other = handler ∧ task = s.accepted then 1 else 0 := by
    intro other task
    have same : ThreadEvent.accepted handler s.accepted = .accepted other task ↔ other = handler ∧ task = s.accepted := by
      rw [ThreadEvent.accepted.injEq,@eq_comm _ handler,@eq_comm _ s.accepted]
    rw [History.count_concat,if_congr same rfl rfl]
  have member : ∀ other task, ThreadEvent.accepted other task ∈ h ++ [.accepted handler s.accepted] →
      .accepted other task ∈ h ∨ (other = handler ∧ task = s.accepted) := by
    intro other task told
    rwa [History.mem_concat,ThreadEvent.accepted.injEq] at told
  constructor
  · intro other task
    rw [accepted,holds,History.count_concat,if_neg nofun,← accounted.tasks other task]
    omega
  · intro other task
    rw [accepted]
    split
    · rename_i same
      rw [same.2]
      exact Nat.le_of_eq (congrArg (· + 1) (List.count_eq_zero_of_not_mem (fresh other)))
    · exact accounted.once other task
  · intro one other task here there
    rcases member one task here with first | ⟨rfl,rfl⟩
    · rcases member other task there with second | ⟨-,rfl⟩
      · exact accounted.home one other task first second
      · exact absurd first (fresh one)
    · rcases member other s.accepted there with second | ⟨same,-⟩
      · exact absurd second (fresh other)
      · exact same
  · intro other task told
    rw [count]
    rcases member other task told with told | ⟨-,rfl⟩
    · exact Nat.lt_succ_of_lt (accounted.numbered other task told)
    · exact Nat.lt_succ_self _
  · intro other task told
    rw [created]
    rcases member (.impl other) task told with told | ⟨same,-⟩
    · exact accounted.made other task told
    · exact known other same.symm
  · rw [map,created]
    exact accounted.mapped
  · rw [held,created]
    exact accounted.held

-- A task that has run is no longer held.
theorem Accounted.ran (accounted : Accounted s h) (next : ThreadHandlers) (handler : HandlerRef) (done : Nat)
    (count : next.accepted = s.accepted) (created : next.created = s.created)
    (map : next.threadHandlerMap = s.threadHandlerMap) (held : next.held = s.held)
    (holds : ∀ other task, next.holds other task + (if other = handler ∧ task = done then 1 else 0) =
      s.holds other task) : Accounted next (h ++ [.ran handler done]) := by
  have accepted : ∀ other task, (h ++ [ThreadEvent.ran handler done]).count (.accepted other task) =
      h.count (.accepted other task) := by
    intro other task
    rw [History.count_concat,if_neg nofun,Nat.add_zero]
  have member : ∀ other task, ThreadEvent.accepted other task ∈ h ++ [.ran handler done] → .accepted other task ∈ h :=
    fun other task told => (History.mem_concat.mp told).resolve_right nofun
  constructor
  · intro other task
    have same : ThreadEvent.ran handler done = .ran other task ↔ other = handler ∧ task = done := by
      rw [ThreadEvent.ran.injEq,@eq_comm _ handler,@eq_comm _ done]
    rw [accepted,← accounted.tasks other task,← holds other task,History.count_concat,if_congr same rfl rfl]
    omega
  · intro other task
    rw [accepted]
    exact accounted.once other task
  · exact fun one other task here there =>
      accounted.home one other task (member one task here) (member other task there)
  · intro other task told
    rw [count]
    exact accounted.numbered other task (member other task told)
  · intro other task told
    rw [created]
    exact accounted.made other task (member (.impl other) task told)
  · rw [map,created]
    exact accounted.mapped
  · rw [held,created]
    exact accounted.held

theorem createThreadHandler_accounted (accounted : Accounted s h) (name : Bytes) (allocated : Bool) :
    Accounted (s.createThreadHandler name allocated).1 h := by
  unfold createThreadHandler
  split
  · exact accounted
  · split
    · exact accounted
    · have none : ∀ task, s.holds (.impl s.created) task = 0 := by
        intro task
        have absent : ThreadEvent.accepted (.impl s.created) task ∉ h := fun told =>
          Nat.lt_irrefl _ (accounted.made s.created task told)
        have account := accounted.tasks (.impl s.created) task
        rw [List.count_eq_zero_of_not_mem absent] at account
        omega
      have holds : ∀ other task, (s.onHandler s.created fun _ => {canSuspend:=true}).holds other task =
          s.holds other task := by
        intro other task
        rw [onHandler_holds]
        split
        · rename_i here
          rw [here,none]
          rfl
        · rfl
      constructor
      · intro other task
        rw [← accounted.tasks other task,← holds other task]
        cases other with
        | singleton => rfl
        | impl => rfl
      · exact accounted.once
      · exact accounted.home
      · exact accounted.numbered
      · exact fun other task told => Nat.lt_succ_of_lt (accounted.made other task told)
      · intro other handler found
        rw [ExtTreeMap.getElem?_insert] at found
        split at found
        · cases found
          exact Nat.lt_succ_self _
        · exact Nat.lt_succ_of_lt (accounted.mapped other handler found)
      · exact fun handler member => Nat.lt_succ_of_lt (accounted.held handler member)

theorem getThreadHandler_made (accounted : Accounted s h) (found : s.getThreadHandler name = some (.impl handler)) :
    handler < s.created := by
  unfold getThreadHandler at found
  split at found
  · split at found
    · cases found
    · cases found
  · obtain ⟨_,mapped,same⟩ := Option.map_eq_some_iff.mp found
    cases same
    exact accounted.mapped name handler mapped

theorem accept_accounted (accounted : Accounted s h) (monitored : Bool) (handler : HandlerRef)
    (known : ∀ i, handler = .impl i → i < s.created) :
    Accounted (s.accept monitored handler).1 (h ++ (s.accept monitored handler).2) := by
  cases handler with
  | singleton =>
    refine accounted.accepted _ .singleton known rfl rfl rfl rfl fun other task => ?_
    cases other with
    | singleton =>
      have same : SingletonTask.call s.accepted = .call task ↔ (HandlerRef.singleton = .singleton ∧ task = s.accepted) := by
        rw [SingletonTask.call.injEq,eq_comm,eq_self,true_and]
      refine (History.count_concat s.timer (.call s.accepted) (.call task)).trans ?_
      rw [if_congr same rfl rfl]
      rfl
    | impl => rfl
  | impl i =>
    unfold accept
    dsimp only
    split
    · rw [List.append_nil]
      exact accounted
    · rename_i awake
      refine accounted.accepted _ (.impl i) known rfl rfl rfl rfl fun other task => ?_
      have held := onHandler_holds s i (·.postTask (.call s.accepted) monitored) other task
      have quiet : (if monitored then [ThreadTask.monitor] else []).count (.call task) = 0 :=
        List.count_eq_zero_of_not_mem (monitor_only task monitored)
      rw [postTask_tasks awake,List.count_append,List.count_cons,quiet] at held
      cases other with
      | singleton => exact held.trans (by rw [if_neg nofun,if_neg (by simp)]; rfl)
      | impl other =>
        refine held.trans ?_
        by_cases here : other = i
        · subst here
          rw [if_pos rfl,Nat.zero_add]
          congr 1
          exact if_congr (by rw [beq_iff_eq,ThreadTask.call.injEq,eq_comm,eq_self,true_and]) rfl rfl
        · rw [if_neg fun same => here (HandlerRef.impl.inj same),
            if_neg fun both => here (HandlerRef.impl.inj both.1)]
          rfl

theorem postTask_accounted (accounted : Accounted s h) (name : Bytes) (monitored : Bool) :
    Accounted (s.postTask name monitored).1 (h ++ (s.postTask name monitored).2) := by
  unfold postTask
  cases found : s.getThreadHandler name with
  | none =>
    rw [List.append_nil]
    exact accounted
  | some handler =>
    apply accept_accounted accounted monitored handler
    intro i same
    exact getThreadHandler_made accounted (same ▸ found)

theorem destroyThreadHandler_accounted (accounted : Accounted s h) (name : Bytes) (monitored : Bool) :
    Accounted (s.destroyThreadHandler name monitored).1 (h ++ (s.destroyThreadHandler name monitored).2) := by
  unfold destroyThreadHandler
  split
  · rw [List.append_nil]
    exact accounted
  · cases s.threadHandlerMap[name]? with
    | none =>
      rw [List.append_nil]
      exact accounted
    | some handler =>
      have posted : Accounted (s.onHandler handler (·.postTask (.hop name) monitored)) h := by
        apply accounted.onHandler
        intro task
        by_cases suspended : (s.handlers handler).isSuspended = true
        · rw [postTask_suspended suspended]
        · rw [postTask_tasks suspended,List.count_append,
            List.count_eq_zero_of_not_mem (hop_only task name monitored),Nat.add_zero]
      have told := posted.tell (.destroyRequested handler) fun _ _ => ⟨nofun,nofun⟩
      exact {told with tasks:=told.tasks}

theorem suspend_accounted (accounted : Accounted s h) : Accounted s.suspend h := by
  unfold suspend
  cases s.destroying with
  | none => exact accounted
  | some handler =>
    have suspended : Accounted (s.onHandler handler (·.suspend)) h := by
      apply accounted.onHandler
      intro task
      unfold ThreadHandlerImpl.suspend
      split
      · rfl
      · rfl
    exact {suspended with tasks:=suspended.tasks}

theorem tasks_running {handler : ThreadHandlerImpl} (running : handler.running = some task) :
    handler.tasks = task :: handler.queue := by
  rw [tasks,running]
  rfl

theorem proceed_accounted (accounted : Accounted s h) (handler : Nat) :
    Accounted (s.proceed handler).1 (h ++ (s.proceed handler).2) := by
  have ends : ∀ task next, (s.handlers handler).running = some task → (∀ call, task ≠ .call call) →
      (∀ call, next ≠ some (.call call)) → Accounted (s.onHandler handler ({· with running:=next})) h := by
    intro task next running quiet calm
    apply accounted.onHandler
    intro call
    rw [tasks_running running,List.count_cons_of_ne (quiet call),tasks,List.count_append,
      List.count_eq_zero_of_not_mem fun member => calm call (Option.mem_toList.mp member),Nat.zero_add]
  unfold proceed
  dsimp only
  cases running : (s.handlers handler).running with
  | none =>
    rw [List.append_nil]
    exact accounted
  | some task =>
    cases task with
    | call task =>
      refine accounted.ran _ (.impl handler) task rfl rfl rfl rfl fun other call => ?_
      dsimp only
      rw [onHandler_holds]
      by_cases here : other = .impl handler
      · subst here
        rw [if_pos rfl]
        refine Eq.trans ?_ (congrArg (List.count (.call call)) (tasks_running running)).symm
        rw [List.count_cons]
        congr 1
        exact if_congr (by rw [beq_iff_eq,ThreadTask.call.injEq,@eq_comm _ call,eq_self,true_and]) rfl rfl
      · rw [if_neg here,if_neg fun both => here both.1,Nat.add_zero]
    | monitor =>
      rw [List.append_nil]
      exact ends .monitor none running nofun nofun
    | hop name =>
      dsimp only
      split
      · rw [List.append_nil]
        exact accounted
      · cases s.getThreadHandler SINGLETON_THREAD_NAME with
        | none =>
          rw [List.append_nil]
          exact ends (.hop name) none running nofun nofun
        | some =>
          rw [List.append_nil]
          exact ends (.hop name) (some (.postDelete name)) running nofun nofun
    | postDelete name =>
      have ended := (ends (.postDelete name) none running nofun nofun).tell (.deferred handler) fun _ _ => ⟨nofun,nofun⟩
      apply ended.onTimer
      intro call
      refine (History.count_concat s.timer (.delete name handler) (.call call)).trans ?_
      rw [if_neg nofun]
      rfl

theorem deleteThreadHandler_accounted (accounted : Accounted s h) (name : Bytes) (origin : Nat) :
    Accounted (s.deleteThreadHandler name origin).1 (h ++ (s.deleteThreadHandler name origin).2) := by
  unfold deleteThreadHandler
  split
  · rw [List.append_nil]
    exact accounted
  · cases s.threadHandlerMap[name]? with
    | none =>
      rw [List.append_nil]
      exact accounted
    | some handler =>
      have told := accounted.tell (.deleted handler origin) fun _ _ => ⟨nofun,nofun⟩
      refine {told with tasks:=told.tasks,mapped:=fun other i found => ?_}
      rw [ExtTreeMap.getElem?_erase] at found
      split at found
      · cases found
      · exact told.mapped other i found

theorem expired_perm {timer : List SingletonTask} (found : timer[index]? = some task) :
    (task :: timer.eraseIdx index).Perm timer := by
  obtain ⟨within,here⟩ := List.getElem?_eq_some_iff.mp found
  exact here ▸ List.getElem_cons_eraseIdx_perm within

theorem expire_accounted (accounted : Accounted s h) (index : Nat) :
    Accounted (s.expire index).1 (h ++ (s.expire index).2) := by
  unfold expire
  dsimp only
  cases found : s.timer[index]? with
  | none =>
    rw [List.append_nil]
    exact accounted
  | some task =>
    have counted := fun call => (expired_perm found).count_eq (SingletonTask.call call)
    cases task with
    | call task =>
      refine accounted.ran _ .singleton task rfl rfl rfl rfl fun other call => ?_
      cases other with
      | singleton =>
        refine Eq.trans ?_ (counted call)
        rw [List.count_cons]
        congr 1
        exact if_congr (by rw [beq_iff_eq,SingletonTask.call.injEq,@eq_comm _ call,eq_self,true_and]) rfl rfl
      | impl => rfl
    | delete name origin =>
      have rest : Accounted {s with timer:=s.timer.eraseIdx index} h := by
        apply accounted.onTimer
        intro call
        rw [← counted call,List.count_cons,if_neg (by simp),Nat.add_zero]
      dsimp only
      split
      · rw [List.append_nil]
        exact accounted
      · exact deleteThreadHandler_accounted rest name origin

theorem step_accounted (accounted : Accounted s h) (input : ThreadInput) :
    Accounted (s.step input).1 (h ++ (s.step input).2) := by
  have waits : Accounted s (h ++ []) := by rwa [List.append_nil]
  cases input with
  | createThreadHandler name allocated =>
    unfold step
    dsimp only
    split
    · exact waits
    · rw [List.append_nil]
      exact createThreadHandler_accounted accounted name allocated
  | getThreadHandler name =>
    unfold step
    dsimp only
    split
    · exact waits
    · have held : ∀ handler, .impl handler ∈ (s.getThreadHandler name).toList ++ s.held → handler < s.created := by
        intro handler member
        rcases List.mem_append.mp member with got | had
        · exact getThreadHandler_made accounted (Option.mem_toList.mp got)
        · exact accounted.held handler had
      exact {waits with tasks:=waits.tasks,held:=held}
  | postTask name monitored =>
    unfold step
    dsimp only
    split
    · exact waits
    · exact postTask_accounted accounted name monitored
  | postTaskHeld handler monitored =>
    unfold step
    dsimp only
    split
    · rename_i held
      exact accept_accounted accounted monitored handler fun i same => accounted.held i (same ▸ held)
    · exact waits
  | destroyThreadHandler name monitored =>
    unfold step
    dsimp only
    split
    · exact waits
    · exact destroyThreadHandler_accounted accounted name monitored
  | suspend =>
    unfold step
    rw [List.append_nil]
    exact suspend_accounted accounted
  | take handler =>
    unfold step
    rw [List.append_nil]
    exact accounted.onHandler handler (·.take) fun task => by rw [take_tasks]
  | proceed handler => exact proceed_accounted accounted handler
  | expire index => exact expire_accounted accounted index

end Steps
end ThreadHandlers
end UserAuth
