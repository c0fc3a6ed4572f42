import Std.Data.ExtTreeMap.Lemmas
import UserAuth.Base.ThreadHandlerManager
import UserAuth.Lib.History

namespace UserAuth
open Std

-- The name that a hop is to delete.
def ThreadTask.hopName : ThreadTask → Option Bytes
  | .hop name | .postDelete name => some name
  | _ => none

def ThreadHandlerImpl.hops (handler : ThreadHandlerImpl) : Nat := handler.tasks.countP (·.hopName.isSome)

namespace ThreadHandlers
open ThreadHandlerImpl

-- The handler took the task before any request for its destruction.
def Early (h : List ThreadEvent) (handler task : Nat) : Prop :=
  ∃ before after, h = before ++ .accepted (.impl handler) task :: after ∧ .destroyRequested handler ∉ before

def isDeletionOf (handler : Nat) : ThreadEvent → Bool
  | .deleted removed _ => removed = handler
  | _ => false

-- A handler that leaves the map has run what it took before its destruction was
-- asked for. Each leaves it once, by the one deletion asked for itself.
structure Orderly (h : List ThreadEvent) : Prop where
  drained : History.Each (fun before event => ∀ handler origin, event = .deleted handler origin →
    ∀ task, Early before handler task → before.count (.ran (.impl handler) task) = 1) h
  home : ∀ handler other task, .accepted handler task ∈ h → .ran other task ∈ h → other = handler
  once : ∀ handler, h.countP (isDeletionOf handler) ≤ 1
  deferred : ∀ handler, h.count (.deferred handler) ≤ 1
  own : ∀ handler origin, .deleted handler origin ∈ h → handler = origin

def isDeletionBy (origin : Nat) : ThreadEvent → Bool
  | .deleted _ requested => requested = origin
  | _ => false

def isDelete (origin : Nat) : SingletonTask → Bool
  | .delete _ requested => requested = origin
  | _ => false

section Steps
variable {s : ThreadHandlers} {h : List ThreadEvent} {map : ExtTreeMap Bytes Nat} {destroying : Option Nat}
  {i : Nat} {handler : ThreadHandlerImpl}

theorem early_accepted (early : Early h i task) : ThreadEvent.accepted (.impl i) task ∈ h := by
  obtain ⟨before,after,rfl,-⟩ := early
  exact List.mem_append_right before List.mem_cons_self

-- From the request on, no task is early that was not.
theorem early_concat (requested : .destroyRequested i ∈ h) (early : Early (h ++ [event]) i task) : Early h i task := by
  obtain ⟨before,after,whole,unasked⟩ := early
  obtain ⟨more,longer,-⟩ | ⟨more,shorter,rest⟩ := List.append_eq_append_iff.mp whole
  · rw [longer] at unasked
    exact absurd (List.mem_append_left more requested) unasked
  · cases more with
    | nil =>
      rw [List.append_nil] at shorter
      exact absurd (shorter ▸ requested) unasked
    | cons first more =>
      cases rest
      exact ⟨before,more,shorter,unasked⟩

-- What holds of one handler: it is suspended from the request on, and the one hop
-- of the request is in the queue, running, or has posted the deletion.
structure Fit (map : ExtTreeMap Bytes Nat) (destroying : Option Nat) (h : List ThreadEvent) (i : Nat)
    (handler : ThreadHandlerImpl) : Prop where
  canSuspend : handler.canSuspend = true
  asked : handler.isSuspended = true → .destroyRequested i ∈ h
  suspended : .destroyRequested i ∈ h → handler.isSuspended = true ∨ destroying = some i
  hops : handler.hops + h.count (.deferred i) ≤ if .destroyRequested i ∈ h then 1 else 0
  names : ∀ task ∈ handler.tasks, ∀ name, task.hopName = some name → map[name]? = some i
  past : .destroyRequested i ∈ h → handler.Past (Early h i)

structure Deleting (s : ThreadHandlers) (h : List ThreadEvent) : Prop where
  fits : ∀ i, Fit s.threadHandlerMap s.destroying h i (s.handlers i)
  requested : ∀ i, .destroyRequested i ∈ h → i < s.created
  destroying : ∀ i, s.destroying = some i → .destroyRequested i ∈ h
  deletions : ∀ i, s.timer.countP (isDelete i) + h.countP (isDeletionBy i) ≤ h.count (.deferred i)
  deleteNames : ∀ (name : Bytes) (i : Nat), .delete name i ∈ s.timer → s.threadHandlerMap[name]? = some i
  drained : History.Each (fun before event => ∀ handler origin, event = .deleted handler origin →
    ∀ task, Early before handler task → before.count (.ran (.impl handler) task) = 1) h
  own : ∀ handler origin, .deleted handler origin ∈ h → handler = origin

theorem Fit.tell (fit : Fit map destroying h i handler) (event : ThreadEvent)
    (other : event ≠ .destroyRequested i ∧ event ≠ .deferred i) : Fit map destroying (h ++ [event]) i handler := by
  have requested : .destroyRequested i ∈ h ++ [event] ↔ .destroyRequested i ∈ h :=
    History.mem_concat.trans (or_iff_left other.1.symm)
  constructor
  · exact fit.canSuspend
  · exact fun suspended => requested.mpr (fit.asked suspended)
  · exact fun asked => fit.suspended (requested.mp asked)
  · rw [History.count_concat,if_neg other.2,Nat.add_zero,if_congr requested rfl rfl]
    exact fit.hops
  · exact fit.names
  · intro asked
    have before := requested.mp asked
    exact (fit.past before).mono fun task => early_concat before

theorem Fit.remap (fit : Fit map destroying h i handler)
    (same : ∀ task ∈ handler.tasks, ∀ name, task.hopName = some name → map'[name]? = map[name]?) :
    Fit map' destroying h i handler :=
  {fit with names:=fun task member name hop => (same task member name hop).trans (fit.names task member name hop)}

-- Events that are about tasks.
theorem Deleting.tell (deleting : Deleting s h) (event : ThreadEvent)
    (other : ∀ i, event ≠ .destroyRequested i ∧ event ≠ .deferred i ∧ ∀ origin, event ≠ .deleted i origin) :
    Deleting s (h ++ [event]) := by
  have undeleted : ∀ i, [event].countP (isDeletionBy i) = 0 := by
    intro i
    rw [List.countP_eq_zero]
    intro last member
    cases List.mem_singleton.mp member
    cases event with
    | deleted handler origin => exact absurd rfl ((other handler).2.2 origin)
    | _ => exact Bool.false_ne_true
  constructor
  · exact fun i => (deleting.fits i).tell event ⟨(other i).1,(other i).2.1⟩
  · exact fun i asked => deleting.requested i ((History.mem_concat.mp asked).resolve_right (other i).1.symm)
  · exact fun i locked => List.mem_append_left _ (deleting.destroying i locked)
  · intro i
    rw [List.countP_append,undeleted,History.count_concat,if_neg (other i).2.1]
    exact deleting.deletions i
  · exact deleting.deleteNames
  · refine History.each_concat.mpr ⟨deleting.drained,fun handler origin last => ?_⟩
    exact absurd last ((other handler).2.2 origin)
  · intro handler origin told
    exact deleting.own handler origin ((History.mem_concat.mp told).resolve_right ((other handler).2.2 origin).symm)

theorem Deleting.onHandler (deleting : Deleting s h) (i : Nat) (f : ThreadHandlerImpl → ThreadHandlerImpl)
    (fit : Fit s.threadHandlerMap s.destroying h i (f (s.handlers i))) : Deleting (s.onHandler i f) h := by
  refine {deleting with fits:=fun j => ?_}
  unfold ThreadHandlers.onHandler
  dsimp only
  by_cases here : j = i
  · subst here
    rw [Function.update_self]
    exact fit
  · rw [Function.update_of_ne here]
    exact deleting.fits j

theorem fit_fresh (unasked : .destroyRequested i ∉ h) (none : h.count (.deferred i) = 0) : Fit map destroying h i {} := by
  refine ⟨rfl,nofun,fun asked => absurd asked unasked,?_,fun _ member => absurd member List.not_mem_nil,
    fun asked => absurd asked unasked⟩
  rw [none]
  exact Nat.zero_le _

theorem createThreadHandler_deleting (deleting : Deleting s h) (name : Bytes) (allocated : Bool) :
    Deleting (s.createThreadHandler name allocated).1 h := by
  unfold createThreadHandler
  split
  · exact deleting
  · rename_i absent
    split
    · exact deleting
    · have unasked : .destroyRequested s.created ∉ h := fun asked =>
        Nat.lt_irrefl _ (deleting.requested s.created asked)
      have none : h.count (.deferred s.created) = 0 := by
        have hops := (deleting.fits s.created).hops
        rw [if_neg unasked] at hops
        omega
      -- What is to be deleted is in the map, so its name is not the new one.
      have kept : ∀ (other : Bytes) (i : Nat), s.threadHandlerMap[other]? = some i →
          (s.threadHandlerMap.insert name s.created)[other]? = s.threadHandlerMap[other]? := by
        intro other i found
        rw [ExtTreeMap.getElem?_insert,if_neg]
        intro same
        rw [LawfulEqCmp.eq_of_compare same] at absent
        exact absent (.inr (ExtTreeMap.mem_iff_isSome_getElem?.mpr (Option.isSome_of_eq_some found)))
      refine {deleting with fits:=fun i => ?_,requested:=?_,deleteNames:=?_}
      · dsimp only
        by_cases here : i = s.created
        · subst here
          rw [Function.update_self]
          exact fit_fresh unasked none
        · rw [Function.update_of_ne here]
          refine (deleting.fits i).remap fun task member other hop => ?_
          exact kept other i ((deleting.fits i).names task member other hop)
      · exact fun i asked => Nat.lt_succ_of_lt (deleting.requested i asked)
      · intro other i waits
        have found := deleting.deleteNames other i waits
        exact (kept other i found).trans found

theorem monitor_quiet (monitored : Bool) :
    ∀ task ∈ if monitored then [ThreadTask.monitor] else [], task.hopName = none := by
  intro task member
  cases monitored with
  | false => exact absurd member List.not_mem_nil
  | true =>
    cases List.mem_singleton.mp member
    rfl

theorem quiet_hops {tasks : List ThreadTask} (quiet : ∀ task ∈ tasks, task.hopName = none) :
    tasks.countP (·.hopName.isSome) = 0 := by
  rw [List.countP_eq_zero]
  intro task member
  rw [quiet task member]
  exact Bool.false_ne_true

theorem Fit.postTask (fit : Fit map destroying h i handler) (late : ¬Early h i task) (monitored : Bool) :
    Fit map destroying h i (handler.postTask (.call task) monitored) := by
  by_cases suspended : handler.isSuspended = true
  · rwa [postTask_suspended suspended]
  · have queued : ∀ other ∈ ThreadTask.call task :: if monitored then [ThreadTask.monitor] else [],
        other.hopName = none := by
      intro other member
      rcases List.mem_cons.mp member with same | monitor
      · rw [same]
        rfl
      · exact monitor_quiet monitored other monitor
    have past := fun asked => (fit.past asked).postTask late monitored
    have tasks := postTask_tasks suspended (.call task) monitored
    rw [postTask_awake suspended] at past tasks ⊢
    refine ⟨fit.canSuspend,fit.asked,fit.suspended,?_,?_,past⟩
    · rw [ThreadHandlerImpl.hops,tasks,List.countP_append,quiet_hops queued]
      exact fit.hops
    · intro other member name hop
      rw [tasks] at member
      rcases List.mem_append.mp member with before | after
      · exact fit.names other before name hop
      · rw [queued other after] at hop
        cases hop

theorem accept_deleting (accounted : Accounted s h) (deleting : Deleting s h) (monitored : Bool) (handler : HandlerRef) :
    Deleting (s.accept monitored handler).1 (h ++ (s.accept monitored handler).2) := by
  cases handler with
  | singleton =>
    have told := deleting.tell (.accepted .singleton s.accepted) fun _ => ⟨nofun,nofun,fun _ => nofun⟩
    refine {told with fits:=told.fits,deletions:=fun i => ?_,deleteNames:=fun name i waits => ?_}
    · rw [accept,List.countP_append]
      exact told.deletions i
    · exact told.deleteNames name i ((History.mem_concat.mp waits).resolve_right nofun)
  | impl i =>
    unfold accept
    dsimp only
    split
    · rw [List.append_nil]
      exact deleting
    · have late : ¬Early h i s.accepted := fun early =>
        Nat.lt_irrefl _ (accounted.numbered (.impl i) s.accepted (early_accepted early))
      have posted := deleting.onHandler i (·.postTask (.call s.accepted) monitored)
        ((deleting.fits i).postTask late monitored)
      have told := posted.tell (.accepted (.impl i) s.accepted) fun _ => ⟨nofun,nofun,fun _ => nofun⟩
      exact {told with fits:=told.fits}

-- The first request finds the handler awake, and leaves the hop in its queue.
theorem Fit.request (fit : Fit map none h i handler) (unasked : .destroyRequested i ∉ h) (mapped : map[name]? = some i)
    (monitored : Bool) :
    Fit map (some i) (h ++ [.destroyRequested i]) i (handler.postTask (.hop name) monitored) := by
  have awake : ¬handler.isSuspended = true := fun suspended => unasked (fit.asked suspended)
  have idle : handler.hops = 0 ∧ h.count (.deferred i) = 0 := by
    have hops := fit.hops
    rw [if_neg unasked] at hops
    omega
  have past := past_hop awake name monitored (Early (h ++ [.destroyRequested i]) i)
  have tasks := postTask_tasks awake (.hop name) monitored
  rw [postTask_awake awake] at past tasks ⊢
  refine ⟨fit.canSuspend,fun suspended => absurd suspended awake,fun _ => .inr rfl,?_,?_,fun _ => past⟩
  · have before := idle.1
    have untold : (h ++ [ThreadEvent.destroyRequested i]).count (.deferred i) = 0 := by
      rw [History.count_concat,idle.2,if_neg nofun]
    rw [ThreadHandlerImpl.hops] at before
    rw [ThreadHandlerImpl.hops,tasks,List.countP_append,before,untold,List.countP_cons,
      quiet_hops (monitor_quiet monitored),if_pos (History.mem_concat.mpr (.inr rfl))]
    exact Nat.le_refl 1
  · intro task member other hop
    rw [tasks] at member
    rcases List.mem_append.mp member with before | after
    · exact fit.names task before other hop
    · rcases List.mem_cons.mp after with same | monitor
      · subst same
        cases hop
        exact mapped
      · rw [monitor_quiet monitored task monitor] at hop
        cases hop

theorem Fit.lock (fit : Fit map none h i handler) (destroying : Option Nat) : Fit map destroying h i handler :=
  {fit with suspended:=fun asked => .inl ((fit.suspended asked).resolve_right nofun)}

-- A request for a suspended handler changes nothing.
theorem Fit.again (fit : Fit map none h i handler) (asked : .destroyRequested i ∈ h) (destroying : Option Nat) :
    Fit map destroying (h ++ [.destroyRequested i]) i handler := by
  have again : .destroyRequested i ∈ h ++ [.destroyRequested i] := List.mem_append_left _ asked
  refine ⟨fit.canSuspend,fun _ => again,fun _ => .inl ((fit.suspended asked).resolve_right nofun),?_,fit.names,
    fun _ => (fit.past asked).mono fun task => early_concat asked⟩
  have hops := fit.hops
  rw [if_pos asked] at hops
  rw [History.count_concat,if_neg nofun,if_pos again]
  exact hops

theorem destroyThreadHandler_deleting (accounted : Accounted s h) (deleting : Deleting s h)
    (free : s.destroying = none) (name : Bytes) (monitored : Bool) :
    Deleting (s.destroyThreadHandler name monitored).1 (h ++ (s.destroyThreadHandler name monitored).2) := by
  unfold destroyThreadHandler
  split
  · rw [List.append_nil]
    exact deleting
  · cases mapped : s.threadHandlerMap[name]? with
    | none =>
      rw [List.append_nil]
      exact deleting
    | some handler =>
      have fits : ∀ i, Fit s.threadHandlerMap none h i (s.handlers i) := fun i => free ▸ deleting.fits i
      have others : ∀ i, i ≠ handler → ThreadEvent.destroyRequested handler ≠ .destroyRequested i := by
        intro i here same
        exact here (ThreadEvent.destroyRequested.inj same).symm
      have undeleted : ∀ i, [ThreadEvent.destroyRequested handler].countP (isDeletionBy i) = 0 := fun _ => rfl
      constructor
      · intro i
        unfold onHandler
        dsimp only
        by_cases here : i = handler
        · subst here
          rw [Function.update_self]
          by_cases asked : .destroyRequested i ∈ h
          · rw [postTask_suspended (((fits i).suspended asked).resolve_right nofun)]
            exact (fits i).again asked (some i)
          · exact (fits i).request asked mapped monitored
        · rw [Function.update_of_ne here]
          exact ((fits i).lock (some handler)).tell _ ⟨others i here,nofun⟩
      · intro i asked
        rcases History.mem_concat.mp asked with asked | same
        · exact deleting.requested i asked
        · cases same
          exact accounted.mapped name handler mapped
      · intro i locked
        cases locked
        exact History.mem_concat.mpr (.inr rfl)
      · intro i
        rw [List.countP_append,undeleted,History.count_concat,if_neg nofun]
        exact deleting.deletions i
      · exact deleting.deleteNames
      · exact History.each_concat.mpr ⟨deleting.drained,nofun⟩
      · exact fun i origin told => deleting.own i origin ((History.mem_concat.mp told).resolve_right nofun)

theorem suspend_deleting (deleting : Deleting s h) : Deleting s.suspend h := by
  unfold suspend
  cases locked : s.destroying with
  | none => exact deleting
  | some handler =>
    have asked := deleting.destroying handler locked
    refine {deleting with fits:=fun i => ?_,destroying:=nofun}
    have fit := deleting.fits i
    unfold onHandler
    dsimp only
    by_cases here : i = handler
    · subst here
      have suspended : (s.handlers i).suspend = {s.handlers i with isSuspended:=true} :=
        if_neg (by simp only [fit.canSuspend,Bool.not_true,Bool.false_eq_true,not_false_iff])
      rw [Function.update_self,suspended]
      exact ⟨fit.canSuspend,fun _ => asked,fun _ => .inl rfl,fit.hops,fit.names,fit.past⟩
    · rw [Function.update_of_ne here]
      refine {fit with suspended:=fun other => (fit.suspended other).imp_right fun same => ?_}
      rw [locked] at same
      exact absurd (Option.some.inj same).symm here

theorem Fit.take (fit : Fit map destroying h i handler) : Fit map destroying h i handler.take := by
  have past := fun asked => (fit.past asked).take
  have tasks := take_tasks handler
  obtain same | ⟨task,rest,-,-,taken⟩ := take_cases handler
  · rwa [same]
  · rw [taken] at past tasks ⊢
    refine ⟨fit.canSuspend,fit.asked,fit.suspended,?_,?_,past⟩
    · rw [ThreadHandlerImpl.hops,tasks]
      exact fit.hops
    · rw [tasks]
      exact fit.names

-- The running task ends, or goes on as one that deletes no other name.
theorem Fit.proceed (fit : Fit map destroying h i handler) (running : handler.running = some task)
    (next : Option ThreadTask) (quiet : ∀ call, next ≠ some (.call call))
    (same : ∀ other, next = some other → other.hopName = task.hopName) :
    Fit map destroying h i {handler with running:=next} := by
  have tasks := tasks_running running
  refine ⟨fit.canSuspend,fit.asked,fit.suspended,?_,?_,fun asked => (fit.past asked).proceed next quiet⟩
  · refine Nat.le_trans (Nat.add_le_add_right ?_ _) fit.hops
    rw [ThreadHandlerImpl.hops,ThreadHandlerImpl.hops,tasks,List.countP_cons,ThreadHandlerImpl.tasks,List.countP_append]
    cases next with
    | none => exact Nat.le_trans (Nat.le_of_eq (Nat.zero_add _)) (Nat.le_add_right _ _)
    | some other =>
      rw [Option.toList_some,List.countP_singleton,same other rfl]
      exact Nat.le_of_eq (Nat.add_comm _ _)
  · intro other member name hop
    rcases List.mem_append.mp member with now | waiting
    · have next := same other (Option.mem_toList.mp now)
      exact fit.names task (tasks ▸ List.mem_cons_self) name (next.symm.trans hop)
    · exact fit.names other (tasks ▸ List.mem_cons_of_mem _ waiting) name hop

-- The hop that posts the deletion leaves the handler for good.
theorem Fit.defer (fit : Fit map destroying h i handler) (running : handler.running = some (.postDelete name)) :
    Fit map destroying (h ++ [.deferred i]) i {handler with running:=none} := by
  have tasks := tasks_running running
  have requested : .destroyRequested i ∈ h ++ [.deferred i] ↔ .destroyRequested i ∈ h :=
    History.mem_concat.trans (or_iff_left nofun)
  have hops := fit.hops
  rw [ThreadHandlerImpl.hops,tasks,List.countP_cons_of_pos rfl] at hops
  refine ⟨fit.canSuspend,fun suspended => requested.mpr (fit.asked suspended),fun asked =>
    fit.suspended (requested.mp asked),?_,?_,?_⟩
  · rw [History.count_concat,if_pos rfl,if_congr requested rfl rfl,← Nat.add_assoc,Nat.add_right_comm]
    exact hops
  · exact fun task member => fit.names task (tasks ▸ List.mem_cons_of_mem _ member)
  · intro asked
    have before := requested.mp asked
    exact ((fit.past before).proceed none nofun).mono fun task => early_concat before

theorem postDelete_deleting (deleting : Deleting s h) (running : (s.handlers i).running = some (.postDelete name)) :
    Deleting {s.onHandler i ({· with running:=none}) with timer:=s.timer ++ [.delete name i]} (h ++ [.deferred i]) := by
  have fit := deleting.fits i
  have mapped := fit.names (.postDelete name) (tasks_running running ▸ List.mem_cons_self) name rfl
  constructor
  · intro j
    unfold onHandler
    dsimp only
    by_cases here : j = i
    · subst here
      rw [Function.update_self]
      exact fit.defer running
    · rw [Function.update_of_ne here]
      exact (deleting.fits j).tell _ ⟨nofun,fun same => here (ThreadEvent.deferred.inj same).symm⟩
  · exact fun j asked => deleting.requested j ((History.mem_concat.mp asked).resolve_right nofun)
  · exact fun j locked => List.mem_append_left _ (deleting.destroying j locked)
  · intro j
    have before := deleting.deletions j
    have undeleted : [ThreadEvent.deferred i].countP (isDeletionBy j) = 0 := rfl
    have posted : [SingletonTask.delete name i].countP (isDelete j) = if i = j then 1 else 0 := by
      rw [List.countP_singleton]
      exact if_congr decide_eq_true_iff rfl rfl
    rw [List.countP_append,posted,List.countP_append,undeleted,History.count_concat]
    by_cases here : i = j
    · rw [if_pos here,if_pos (congrArg _ here)]
      omega
    · rw [if_neg here,if_neg fun same => here (ThreadEvent.deferred.inj same)]
      exact before
  · intro other j waits
    rcases History.mem_concat.mp waits with waits | same
    · exact deleting.deleteNames other j waits
    · cases same
      exact mapped
  · exact History.each_concat.mpr ⟨deleting.drained,nofun⟩
  · exact fun j origin told => deleting.own j origin ((History.mem_concat.mp told).resolve_right nofun)

theorem proceed_deleting (deleting : Deleting s h) (i : Nat) :
    Deleting (s.proceed i).1 (h ++ (s.proceed i).2) := by
  have fit := deleting.fits i
  unfold proceed
  dsimp only
  cases running : (s.handlers i).running with
  | none =>
    rw [List.append_nil]
    exact deleting
  | some task =>
    have ended := deleting.onHandler i ({· with running:=none}) (fit.proceed running none nofun nofun)
    cases task with
    | call task => exact ended.tell (.ran (.impl i) task) fun _ => ⟨nofun,nofun,fun _ => nofun⟩
    | monitor =>
      rw [List.append_nil]
      exact ended
    | hop name =>
      dsimp only
      split
      · rw [List.append_nil]
        exact deleting
      · cases s.getThreadHandler SINGLETON_THREAD_NAME with
        | none =>
          rw [List.append_nil]
          exact ended
        | some =>
          rw [List.append_nil]
          have next := fit.proceed running (some (.postDelete name)) nofun fun other same => by cases same; rfl
          exact deleting.onHandler i ({· with running:=some (.postDelete name)}) next
    | postDelete name => exact postDelete_deleting deleting running

-- A deletion that waits is the only one for its handler, and the hop is through.
theorem waits_alone (deleting : Deleting s h) (waits : .delete name origin ∈ s.timer) :
    .destroyRequested origin ∈ h ∧ (∀ task ∈ (s.handlers origin).tasks, task.hopName = none) ∧
      s.timer.countP (isDelete origin) = 1 ∧ h.countP (isDeletionBy origin) = 0 := by
  have posted : 0 < s.timer.countP (isDelete origin) :=
    List.countP_pos_iff.mpr ⟨.delete name origin,waits,decide_eq_true rfl⟩
  have hops := (deleting.fits origin).hops
  have deletions := deleting.deletions origin
  have asked : .destroyRequested origin ∈ h := by
    by_contra unasked
    rw [if_neg unasked] at hops
    omega
  rw [if_pos asked] at hops
  refine ⟨asked,fun task member => ?_,by omega,by omega⟩
  have none : (s.handlers origin).hops = 0 := by omega
  have quiet := List.countP_eq_zero.mp none task member
  rwa [Bool.not_eq_true,Option.isSome_eq_false_iff,Option.isNone_iff_eq_none] at quiet

theorem delete_drained (accounted : Accounted s h) (deleting : Deleting s h)
    (waits : .delete name origin ∈ s.timer) (early : Early h origin task) :
    h.count (.ran (.impl origin) task) = 1 := by
  obtain ⟨asked,quiet,-,-⟩ := waits_alone deleting waits
  have through : .call task ∉ (s.handlers origin).tasks := by
    obtain ⟨front,other,back,queue,-⟩ | through := (deleting.fits origin).past asked
    · have hop : ThreadTask.hop other ∈ (s.handlers origin).tasks := by
        rw [ThreadHandlerImpl.tasks,queue]
        exact List.mem_append_right _ (List.mem_append_right _ List.mem_cons_self)
      cases quiet _ hop
    · exact through task early
  have account := accounted.tasks (.impl origin) task
  have once := accounted.once (.impl origin) task
  have accepted := List.count_pos_iff.mpr (early_accepted early)
  rw [holds,List.count_eq_zero_of_not_mem through] at account
  omega

theorem expired_countP {timer : List SingletonTask} (found : timer[index]? = some (.delete name origin)) (i : Nat) :
    timer.countP (isDelete i) = (timer.eraseIdx index).countP (isDelete i) + if origin = i then 1 else 0 := by
  rw [← (expired_perm found).countP_eq,List.countP_cons]
  congr 1
  exact if_congr decide_eq_true_iff rfl rfl

theorem deletion_told (origin i : Nat) :
    [ThreadEvent.deleted origin origin].countP (isDeletionBy i) = if origin = i then 1 else 0 := by
  rw [List.countP_singleton]
  exact if_congr decide_eq_true_iff rfl rfl

-- The handlers under other names stay in the map.
theorem erase_others (mapped : s.threadHandlerMap[name]? = some origin) (other : Bytes) (i : Nat)
    (there : s.threadHandlerMap[other]? = some i) (different : i ≠ origin) :
    (s.threadHandlerMap.erase name)[other]? = s.threadHandlerMap[other]? := by
  rw [ExtTreeMap.getElem?_erase,if_neg]
  intro same
  rw [← LawfulEqCmp.eq_of_compare same,mapped] at there
  exact different (Option.some.inj there).symm

-- A deferred deletion takes its own handler out of the map, and nothing else is to
-- delete that one.
theorem delete_deleting (accounted : Accounted s h) (deleting : Deleting s h)
    (found : s.timer[index]? = some (.delete name origin)) :
    Deleting ({s with timer:=s.timer.eraseIdx index}.deleteThreadHandler name origin).1
      (h ++ ({s with timer:=s.timer.eraseIdx index}.deleteThreadHandler name origin).2) := by
  have waits := List.mem_of_getElem? found
  have mapped := deleting.deleteNames name origin waits
  have fewer := expired_countP found
  have rest : ∀ other i, .delete other i ∈ s.timer.eraseIdx index → .delete other i ∈ s.timer := fun other i member =>
    List.mem_of_mem_eraseIdx member
  unfold deleteThreadHandler
  split
  · rw [List.append_nil]
    refine {deleting with fits:=deleting.fits,deletions:=fun i => ?_,deleteNames:=fun other i member => ?_}
    · have before := deleting.deletions i
      have left := fewer i
      dsimp only
      omega
    · exact deleting.deleteNames other i (rest other i member)
  · dsimp only
    rw [mapped]
    dsimp only
    obtain ⟨-,quiet,single,-⟩ := waits_alone deleting waits
    constructor
    · intro i
      refine ((deleting.fits i).tell (.deleted origin origin) ⟨nofun,nofun⟩).remap fun task member other hop => ?_
      apply erase_others mapped other i ((deleting.fits i).names task member other hop)
      intro same
      subst same
      rw [quiet task member] at hop
      cases hop
    · exact fun i asked => deleting.requested i ((History.mem_concat.mp asked).resolve_right nofun)
    · exact fun i locked => List.mem_append_left _ (deleting.destroying i locked)
    · intro i
      have before := deleting.deletions i
      have left := fewer i
      rw [List.countP_append,History.count_concat,if_neg nofun,deletion_told]
      dsimp only
      omega
    · intro other i member
      have there := deleting.deleteNames other i (rest other i member)
      refine (erase_others mapped other i there ?_).trans there
      intro same
      subst same
      have again : 0 < (s.timer.eraseIdx index).countP (isDelete i) :=
        List.countP_pos_iff.mpr ⟨.delete other i,member,decide_eq_true rfl⟩
      rw [fewer,if_pos rfl] at single
      omega
    · refine History.each_concat.mpr ⟨deleting.drained,fun handler asker last task early => ?_⟩
      cases last
      exact delete_drained accounted deleting waits early
    · intro handler asker told
      rcases History.mem_concat.mp told with told | last
      · exact deleting.own handler asker told
      · cases last
        rfl

theorem expire_deleting (accounted : Accounted s h) (deleting : Deleting s h) (index : Nat) :
    Deleting (s.expire index).1 (h ++ (s.expire index).2) := by
  unfold expire
  dsimp only
  cases found : s.timer[index]? with
  | none =>
    rw [List.append_nil]
    exact deleting
  | some task =>
    cases task with
    | call task =>
      have told := deleting.tell (.ran .singleton task) fun _ => ⟨nofun,nofun,fun _ => nofun⟩
      refine {told with fits:=told.fits,deletions:=fun i => ?_,deleteNames:=fun name i member => ?_}
      · have same := (expired_perm found).countP_eq (isDelete i)
        rw [List.countP_cons_of_neg Bool.false_ne_true] at same
        dsimp only
        rw [same]
        exact told.deletions i
      · exact deleting.deleteNames name i (List.mem_of_mem_eraseIdx member)
    | delete name origin =>
      dsimp only
      split
      · rw [List.append_nil]
        exact deleting
      · exact delete_deleting accounted deleting found

theorem step_deleting (accounted : Accounted s h) (deleting : Deleting s h) (input : ThreadInput) :
    Deleting (s.step input).1 (h ++ (s.step input).2) := by
  have waits : Deleting s (h ++ []) := by rwa [List.append_nil]
  cases input with
  | createThreadHandler name allocated =>
    unfold step
    dsimp only
    split
    · exact waits
    · rw [List.append_nil]
      exact createThreadHandler_deleting deleting name allocated
  | getThreadHandler name =>
    unfold step
    dsimp only
    split
    · exact waits
    · exact {waits with fits:=waits.fits}
  | postTask name monitored =>
    unfold step postTask
    dsimp only
    split
    · exact waits
    · cases s.getThreadHandler name with
      | none => exact waits
      | some handler => exact accept_deleting accounted deleting monitored handler
  | postTaskHeld handler monitored =>
    unfold step
    dsimp only
    split
    · exact accept_deleting accounted deleting monitored handler
    · exact waits
  | destroyThreadHandler name monitored =>
    unfold step
    dsimp only
    split
    · exact waits
    · rename_i free
      rw [Bool.not_eq_true,Option.isSome_eq_false_iff,Option.isNone_iff_eq_none] at free
      exact destroyThreadHandler_deleting accounted deleting free name monitored
  | suspend =>
    unfold step
    rw [List.append_nil]
    exact suspend_deleting deleting
  | take handler =>
    unfold step
    rw [List.append_nil]
    exact deleting.onHandler handler (·.take) (deleting.fits handler).take
  | proceed handler => exact proceed_deleting deleting handler
  | expire index => exact expire_deleting accounted deleting index

theorem initial_accounted (singleton : Bool) : Accounted {singleton} [] := by
  refine ⟨fun handler task => ?_,fun _ _ => Nat.zero_le _,nofun,nofun,nofun,fun name handler found => ?_,nofun⟩
  · cases handler with
    | singleton => rfl
    | impl => rfl
  · rw [ExtTreeMap.getElem?_empty] at found
    cases found

theorem initial_deleting (singleton : Bool) : Deleting {singleton} [] :=
  ⟨fun _ => fit_fresh List.not_mem_nil rfl,nofun,nofun,fun _ => Nat.le_refl 0,nofun,History.each_nil _,nofun⟩

theorem orderly (accounted : Accounted s h) (deleting : Deleting s h) : Orderly h := by
  have deferred : ∀ handler, h.count (.deferred handler) ≤ 1 := by
    intro handler
    have hops := (deleting.fits handler).hops
    split at hops
    · omega
    · omega
  refine ⟨deleting.drained,?_,?_,deferred,deleting.own⟩
  · intro handler other task accepted ran
    have account := accounted.tasks other task
    have told := List.count_pos_iff.mpr ran
    exact accounted.home handler other task accepted (List.count_pos_iff.mp (by omega))
  · intro handler
    have same : h.countP (isDeletionOf handler) = h.countP (isDeletionBy handler) := by
      apply List.countP_congr
      intro event told
      cases event with
      | deleted removed origin =>
        have own := deleting.own removed origin told
        subst own
        rfl
      | _ => rfl
    have deletions := deleting.deletions handler
    have once := deferred handler
    omega

end Steps

-- Whether or not the singleton handler was allocated, every run is orderly.
theorem deletions_orderly (singleton : Bool) (inputs : List ThreadInput) :
    Orderly (machine.trace {singleton} inputs) := by
  have kept := Mealy.history (m:=machine) (P:=fun s h => Accounted s h ∧ Deleting s h)
    (fun s h input both => ⟨step_accounted both.1 input,step_deleting both.1 both.2 input⟩)
    ⟨initial_accounted singleton,initial_deleting singleton⟩ inputs
  exact orderly kept.1 kept.2

-- A handler is made, takes a task and goes.
example : .deleted 0 0 ∈ machine.trace {} [.createThreadHandler [1] true,.postTask [1] false,
    .destroyThreadHandler [1] false,.suspend,.take 0,.proceed 0,.take 0,.proceed 0,.proceed 0,.expire 0] := by
  decide +kernel

end ThreadHandlers
end UserAuth
