import UserAuth.Lib.Mealy
import UserAuth.Pool.Promotion

namespace UserAuth
open ContextPoolImpl

structure PoolState where
  pool : ContextPoolImpl
  tasks : List PoolTask
  nextRef : Nat

inductive PoolOp where
  | schedule (preempt : PreemptAnswers) (context : Context)
  | cancel (contextId : UInt64)
  | delete (preempt : PreemptAnswers) (contextId : UInt64)
  | notifyPreemptStateChanged (preempt : PreemptAnswers)
  | runTask (position : Nat)

namespace PoolState

def initial : PoolState := ⟨.empty,[],0⟩

def settle (s : PoolState) : Option (ContextPoolImpl × AdmissionPlan) → PoolState × List AdmissionPlan
  | none => (s,[])
  | some (pool,plan) => ({s with pool,tasks:=s.tasks ++ executePlan plan},[plan])

def runTask (s : PoolState) (position : Nat) : PoolState :=
  match s.tasks[position]? with
  | none => s
  | some (.stopIfPooled contextId) =>
    {s with pool:=s.pool.forgetCancel contextId,tasks:=s.tasks.eraseIdx position}
  | some (.startIfPooled _) => {s with tasks:=s.tasks.eraseIdx position}

def step (s : PoolState) : PoolOp → PoolState × List AdmissionPlan
  | .schedule preempt context =>
    settle {s with nextRef:=s.nextRef + 1} (s.pool.schedule preempt {context with ref:=s.nextRef})
  | .cancel contextId =>
    ({s with pool:=s.pool.cancel contextId,tasks:=s.tasks ++ [.stopIfPooled contextId]},[])
  | .delete preempt contextId => s.settle (s.pool.delete preempt contextId)
  | .notifyPreemptStateChanged preempt => s.settle (some (s.pool.notifyPreemptStateChanged preempt))
  | .runTask position => (s.runTask position,[])

end PoolState

-- The posted tasks run in any order: the thread handler keeps them as timers
-- that are due at once. What Start and Stop do to the pool are further operations.
def poolMachine : Mealy PoolState PoolOp AdmissionPlan := ⟨PoolState.step⟩

namespace PoolState

theorem selectLocked_none {state : ContextPoolImpl} {id : UInt64} (absent : state.selectLocked id = none) :
    ∀ context ∈ state.contexts, context.contextId ≠ id := by
  simp only [selectLocked,Option.or_eq_none_iff,List.find?_eq_none,beq_iff_eq] at absent
  intro context inside
  rcases List.mem_append.mp inside with running | waiting
  · exact absent.1 context running
  · exact absent.2 context waiting

theorem schedule_cases (preempt : PreemptAnswers) (state : ContextPoolImpl) (context : Context) :
    state.schedule preempt context = none ∨
      ((∀ member ∈ state.contexts, member.contextId ≠ context.contextId) ∧ state.schedule preempt context =
        some (promoteWaitingLocked preempt {state with waitingFifo:=state.waitingFifo ++ [context]})) := by
  unfold schedule
  split
  · exact .inl rfl
  · split
    · exact .inl rfl
    · rename_i absent
      exact .inr ⟨selectLocked_none (Option.not_isSome_iff_eq_none.mp absent),rfl⟩

-- What Delete leaves for the pass that follows.
def withdraw (state : ContextPoolImpl) (id : UInt64) : ContextPoolImpl :=
  {state with
    waitingFifo:=state.waitingFifo.eraseP (·.contextId == id),
    runningContexts:=state.runningContexts.eraseP (·.contextId == id)}

theorem delete_cases (preempt : PreemptAnswers) (state : ContextPoolImpl) (id : UInt64) :
    state.delete preempt id = none ∨ state.delete preempt id = some (promoteWaitingLocked preempt (withdraw state id)) := by
  unfold delete
  split
  · exact .inl rfl
  · exact .inr rfl

theorem distinct_arrival (distinct : DistinctIds members) (fresh : ∀ a ∈ members, a.contextId ≠ last.contextId) :
    DistinctIds (members ++ [last]) := by
  simp only [DistinctIds,List.map_append,List.map_cons,List.map_nil,List.nodup_append]
  refine ⟨distinct,by simp,?_⟩
  intro id old other new
  obtain ⟨a,inside,rfl⟩ := List.mem_map.mp old
  rw [List.mem_singleton.mp new]
  exact fresh a inside

theorem distinct_sublist (distinct : DistinctIds members) (part : others.Sublist members) : DistinctIds others :=
  distinct.sublist (part.map _)

theorem withdraw_distinct {state : ContextPoolImpl} (distinct : DistinctIds state.contexts) (id : UInt64) :
    DistinctIds (withdraw state id).contexts :=
  distinct_sublist distinct (List.eraseP_sublist.append List.eraseP_sublist)

theorem mem_erased {id : UInt64} (distinct : DistinctIds members) :
    a ∈ members.eraseP (·.contextId == id) ↔ a ∈ members ∧ a.contextId ≠ id := by
  induction members with
  | nil => simp
  | cons head rest ih =>
    obtain ⟨apart,distinct⟩ := List.nodup_cons.mp distinct
    have others : ∀ c ∈ rest, c.contextId ≠ head.contextId := fun c inside same => apart (same ▸ List.mem_map_of_mem inside)
    by_cases hit : head.contextId = id
    · subst hit
      rw [List.eraseP_cons_of_pos (by simp)]
      constructor
      · intro inside
        exact ⟨List.mem_cons_of_mem _ inside,others a inside⟩
      · rintro ⟨inside,differs⟩
        exact (List.mem_cons.mp inside).resolve_left fun same => differs (same ▸ rfl)
    · rw [List.eraseP_cons_of_neg (by simpa using hit),List.mem_cons,ih distinct,List.mem_cons]
      constructor
      · rintro (rfl | ⟨inside,differs⟩)
        · exact ⟨.inl rfl,hit⟩
        · exact ⟨.inr inside,differs⟩
      · rintro ⟨rfl | inside,differs⟩
        · exact .inl rfl
        · exact .inr ⟨inside,differs⟩

theorem mem_withdraw {state : ContextPoolImpl} {id : UInt64} (distinct : DistinctIds state.contexts) :
    a ∈ (withdraw state id).contexts ↔ a ∈ state.contexts ∧ a.contextId ≠ id := by
  have back : DistinctIds state.waitingFifo := distinct_sublist distinct (List.sublist_append_right _ _)
  simp only [withdraw,contexts,List.mem_append,mem_erased distinct.front,mem_erased back,or_and_right]

-- All an operation does to the two lists: nothing, or one pass over what is
-- left of them, with at most one fresh object behind the queue.
structure Pass (s next : PoolState) (plans : List AdmissionPlan) (preempt : PreemptAnswers)
    (held queue arrivals : List Context) (p : Promotion) : Prop where
  heldFrom : held.Sublist s.pool.runningContexts
  queueFrom : queue.Sublist (s.pool.waitingFifo ++ arrivals)
  fresh : ∀ context ∈ arrivals, context.ref = s.nextRef ∧ s.nextRef < next.nextRef
  single : arrivals.length ≤ 1
  distinct : DistinctIds (held ++ queue)
  promoted : Promoted preempt held queue p
  running : next.pool.runningContexts = p.runningContexts
  waiting : next.pool.waitingFifo = p.waitingFifo
  plan : plans = [p.plan]

theorem pass_of (s base : PoolState) (preempt : PreemptAnswers) (state : ContextPoolImpl) (arrivals : List Context)
    (distinct : DistinctIds state.contexts) (heldFrom : state.runningContexts.Sublist s.pool.runningContexts)
    (queueFrom : state.waitingFifo.Sublist (s.pool.waitingFifo ++ arrivals)) (single : arrivals.length ≤ 1)
    (fresh : ∀ context ∈ arrivals, context.ref = s.nextRef ∧ s.nextRef < base.nextRef) :
    Pass s (base.settle (some (promoteWaitingLocked preempt state))).1
      (base.settle (some (promoteWaitingLocked preempt state))).2
      preempt state.runningContexts state.waitingFifo arrivals (promotion preempt state) :=
  ⟨heldFrom,queueFrom,fresh,single,distinct,promotion_promoted state distinct,rfl,rfl,rfl⟩

theorem step_cases (s : PoolState) (op : PoolOp) (distinct : DistinctIds s.pool.contexts) :
    ((s.step op).1.pool.runningContexts = s.pool.runningContexts ∧
      (s.step op).1.pool.waitingFifo = s.pool.waitingFifo ∧ (s.step op).2 = []) ∨
    ∃ preempt held queue arrivals p, Pass s (s.step op).1 (s.step op).2 preempt held queue arrivals p := by
  cases op with
  | schedule preempt context =>
    dsimp only [step]
    rcases schedule_cases preempt s.pool {context with ref:=s.nextRef} with refused | ⟨absent,accepted⟩
    · rw [refused]
      exact .inl ⟨rfl,rfl,rfl⟩
    · rw [accepted]
      have grown := distinct_arrival distinct absent
      rw [contexts,List.append_assoc] at grown
      exact .inr ⟨_,_,_,_,_,pass_of s _ preempt _ [{context with ref:=s.nextRef}] grown (.refl _) (.refl _)
        (by simp) (by simp)⟩
  | cancel => exact .inl ⟨rfl,rfl,rfl⟩
  | delete preempt id =>
    dsimp only [step]
    rcases delete_cases preempt s.pool id with refused | accepted
    · rw [refused]
      exact .inl ⟨rfl,rfl,rfl⟩
    · rw [accepted]
      exact .inr ⟨_,_,_,_,_,pass_of s _ preempt _ [] (withdraw_distinct distinct id) List.eraseP_sublist
        (List.eraseP_sublist.trans (List.sublist_append_left _ _)) (by simp) (by simp)⟩
  | notifyPreemptStateChanged preempt =>
    exact .inr ⟨_,_,_,_,_,pass_of s _ preempt s.pool [] distinct (.refl _) (by simp) (by simp) (by simp)⟩
  | runTask position =>
    dsimp only [step,runTask]
    split <;> exact .inl ⟨rfl,rfl,rfl⟩

end PoolState

def admissions (plans : List AdmissionPlan) : List Context := plans.flatMap AdmissionPlan.toStart

def AdmittedBefore (plans : List AdmissionPlan) (a b : Context) : Prop := [a,b].Sublist (admissions plans)

-- `a` is in the stop list of a plan no later than the one that starts `b`,
-- and that plan's execution posts the stop.
def ToldToStopBy (plans : List AdmissionPlan) (a b : Context) : Prop :=
  ∃ earlier plan later, plans = earlier ++ plan :: later ∧ b ∈ plan.toStart ∧
    ∃ told ∈ earlier ++ [plan], told.Stops a ∧ .stopIfPooled a.contextId ∈ executePlan told

theorem ToldToStopBy.later (told : ToldToStopBy plans a b) (more : List AdmissionPlan) :
    ToldToStopBy (plans ++ more) a b := by
  obtain ⟨earlier,plan,rest,rfl,holds⟩ := told
  exact ⟨earlier,plan,rest ++ more,by simp,holds⟩

theorem stops_posted {plan : AdmissionPlan} (stops : plan.Stops context) :
    .stopIfPooled context.contextId ∈ executePlan plan := by
  refine List.mem_append_left _ (List.mem_map.mpr ⟨(context.contextId,context),?_,rfl⟩)
  rwa [Std.ExtTreeMap.mem_toList_iff_getElem?_eq_some]

theorem pair_order (nodup : (whole : List Context).Nodup) (ordered : [a,b].Sublist whole)
    (part : kept.Sublist whole) (left : a ∈ kept) (right : b ∈ kept) : [a,b].Sublist kept := by
  induction part with
  | slnil => cases left
  | cons c part ih =>
    rw [List.nodup_cons] at nodup
    refine ih nodup.2 ?_ left right
    cases ordered with
    | cons _ rest => exact rest
    | cons_cons _ rest => exact absurd (part.subset left) nodup.1
  | cons_cons c part ih =>
    rw [List.nodup_cons] at nodup
    cases ordered with
    | cons_cons _ rest =>
      refine .cons_cons _ (List.singleton_sublist.mpr ?_)
      rcases List.mem_cons.mp right with same | inside
      · exact absurd (same ▸ List.singleton_sublist.mp rest) nodup.1
      · exact inside
    | cons _ rest =>
      have apart : ∀ x ∈ [a,b], x ≠ c := fun x inside same => nodup.1 (same ▸ rest.subset inside)
      exact .cons _ (ih nodup.2 rest ((List.mem_cons.mp left).resolve_left (apart a (by simp)))
        ((List.mem_cons.mp right).resolve_left (apart b (by simp))))

theorem pair_total {kept : List Context} (left : a ∈ kept) (right : b ∈ kept) (apart : a ≠ b) :
    [a,b].Sublist kept ∨ [b,a].Sublist kept := by
  obtain ⟨front,back,rfl⟩ := List.append_of_mem left
  rcases List.mem_append.mp right with inside | inside
  · exact .inr ((List.singleton_sublist.mpr inside).append (List.singleton_sublist.mpr (by simp)))
  · refine .inl (List.sublist_append_of_sublist_right (.cons_cons _ (List.singleton_sublist.mpr ?_)))
    exact (List.mem_cons.mp inside).resolve_left apart.symm

theorem before_pivot {queue : List Context} (nodup : queue.Nodup) (ordered : [a,b].Sublist queue)
    (here : front ++ [b] <+: queue) : a ∈ front := by
  obtain ⟨back,rfl⟩ := here
  rw [List.append_assoc,List.singleton_append] at nodup ordered
  have apart : b ∉ back := (List.nodup_cons.mp (List.Nodup.of_append_right nodup)).1
  obtain ⟨low,high,split,lowPart,highPart⟩ := List.sublist_append_iff.mp ordered
  cases low with
  | cons x rest =>
    cases (List.cons.inj split).1
    exact lowPart.subset (by simp)
  | nil =>
    rw [List.nil_append] at split
    rw [←split] at highPart
    cases highPart with
    | cons _ rest => exact absurd (rest.subset (by simp)) apart
    | cons_cons _ rest => exact absurd (rest.subset (by simp)) apart

theorem nodup_of_ids (distinct : DistinctIds members) : members.Nodup := List.Nodup.of_map _ distinct

-- Admission order is the order of the running list, and each contender in it
-- was stopped by the plan that let a later one in.
structure Ordered (s : PoolState) (plans : List AdmissionPlan) : Prop where
  distinct : DistinctIds s.pool.contexts
  once : (admissions plans ++ s.pool.waitingFifo).Nodup
  known : ∀ context ∈ admissions plans ++ s.pool.waitingFifo, context.ref < s.nextRef
  running : s.pool.runningContexts.Sublist (admissions plans)
  told : s.pool.runningContexts.Pairwise fun a b => Contend a b → ToldToStopBy plans a b

theorem initial_ordered : Ordered PoolState.initial [] where
  distinct := .nil
  once := .nil
  known := by simp [admissions,PoolState.initial,empty]
  running := .slnil
  told := .nil

theorem admissions_append (plans more : List AdmissionPlan) :
    admissions (plans ++ more) = admissions plans ++ admissions more := List.flatMap_append

namespace PoolState.Pass
variable {s next : PoolState} {plans more : List AdmissionPlan}

theorem admitted_told (pass : Pass s next more preempt held queue arrivals p) (started : b ∈ p.plan.toStart)
    (contend : Contend a b) (ahead : ∀ front, front ++ [b] <+: queue → a ∈ held ++ front) :
    ToldToStopBy (plans ++ more) a b := by
  obtain ⟨front,here,allowed⟩ := pass.promoted.admitted b started
  have seen := ahead front here
  have newer : Supersedes preempt b a := by
    by_contra hidden
    exact canStart_excludes contend.symm allowed (mem_visibleTo.mpr ⟨seen,hidden⟩)
  have member : a ∈ held ++ queue := by
    have front : front <+: queue := (List.prefix_append _ _).trans here
    exact List.mem_append.mpr ((List.mem_append.mp seen).imp_right fun inside => front.subset inside)
  have stops := (pass.promoted.stops a member).mpr ⟨front,b,here,seen,newer⟩
  exact ⟨plans,p.plan,[],by rw [pass.plan],started,p.plan,by simp,stops,stops_posted stops⟩

theorem running_told (pass : Pass s next more preempt held queue arrivals p) (before : Ordered s plans) :
    next.pool.runningContexts.Pairwise fun a b => Contend a b → ToldToStopBy (plans ++ more) a b := by
  rw [pass.running,pass.promoted.running,List.pairwise_append]
  refine ⟨?_,?_,?_⟩
  · exact (before.told.sublist pass.heldFrom).imp fun old contend => (old contend).later more
  · refine List.pairwise_iff_forall_sublist.mpr fun {a b} ordered contend => ?_
    have nodup : queue.Nodup := (List.Nodup.of_append_right (nodup_of_ids pass.distinct))
    refine pass.admitted_told (ordered.subset (by simp)) contend fun front here => ?_
    exact List.mem_append_right _ (before_pivot nodup (ordered.trans pass.promoted.started) here)
  · intro a inside b started contend
    exact pass.admitted_told started contend fun front _ => List.mem_append_left front inside

theorem shares (pass : Pass s next more preempt held queue arrivals p) :
    (admissions (plans ++ more) ++ next.pool.waitingFifo).Perm (admissions plans ++ queue) := by
  rw [admissions_append,pass.plan,pass.waiting,List.append_assoc]
  apply List.Perm.append_left _
  simpa [admissions] using pass.promoted.shared

theorem ordered (pass : Pass s next more preempt held queue arrivals p) (before : Ordered s plans)
    (grows : s.nextRef ≤ next.nextRef) : Ordered next (plans ++ more) := by
  have queued : (admissions plans ++ queue).Sublist (admissions plans ++ (s.pool.waitingFifo ++ arrivals)) :=
    (List.Sublist.refl _).append pass.queueFrom
  have shares : (admissions (plans ++ more) ++ next.pool.waitingFifo).Perm (admissions plans ++ queue) := pass.shares
  refine ⟨?_,?_,?_,?_,pass.running_told before⟩
  · unfold DistinctIds contexts
    rw [pass.running,pass.waiting,pass.promoted.running,List.append_assoc]
    exact ((pass.promoted.shared.append_left held).map _).nodup_iff.mpr pass.distinct
  · refine shares.nodup_iff.mpr (List.Nodup.sublist queued ?_)
    rw [←List.append_assoc,List.nodup_append]
    refine ⟨before.once,?_,fun old inside new arrived same => ?_⟩
    · exact List.Nodup.of_map Context.ref (by
        cases arrivals with
        | nil => simp
        | cons c rest => have := pass.single; cases rest <;> simp_all)
    · have known := before.known old inside
      have fresh := (pass.fresh new arrived).1
      rw [same] at known
      omega
  · intro context inside
    have inside := queued.subset (shares.subset inside)
    rw [←List.append_assoc,List.mem_append] at inside
    rcases inside with old | new
    · exact Nat.lt_of_lt_of_le (before.known context old) grows
    · have fresh := pass.fresh context new
      omega
  · rw [pass.running,pass.promoted.running,admissions_append,pass.plan]
    refine (pass.heldFrom.trans before.running).append ?_
    simp [admissions]

end PoolState.Pass

@[simp] theorem settle_nextRef (s : PoolState) (answer : Option (ContextPoolImpl × AdmissionPlan)) :
    (s.settle answer).1.nextRef = s.nextRef := by
  cases answer <;> rfl

theorem nextRef_grows (s : PoolState) (op : PoolOp) : s.nextRef ≤ (s.step op).1.nextRef := by
  cases op with
  | schedule => simp [PoolState.step]
  | cancel => simp [PoolState.step]
  | delete => simp [PoolState.step]
  | notifyPreemptStateChanged => simp [PoolState.step]
  | runTask position =>
    simp only [PoolState.step,PoolState.runTask]
    split <;> simp

theorem step_ordered (s : PoolState) (plans : List AdmissionPlan) (op : PoolOp) (before : Ordered s plans) :
    Ordered (s.step op).1 (plans ++ (s.step op).2) := by
  rcases s.step_cases op before.distinct with ⟨running,waiting,none⟩ | ⟨preempt,held,queue,arrivals,p,pass⟩
  · rw [none,List.append_nil]
    refine ⟨?_,?_,?_,?_,?_⟩
    · unfold DistinctIds contexts
      rw [running,waiting]
      exact before.distinct
    · rw [waiting]; exact before.once
    · intro context inside
      rw [waiting] at inside
      exact Nat.lt_of_lt_of_le (before.known context inside) (nextRef_grows s op)
    · rw [running]; exact before.running
    · rw [running]; exact before.told
  · exact pass.ordered before (nextRef_grows s op)

theorem runs_ordered (ops : List PoolOp) :
    Ordered (poolMachine.after .initial ops) (poolMachine.trace .initial ops) :=
  Mealy.history step_ordered initial_ordered ops

-- Of two contenders that run together the earlier one has been told to stop,
-- and any two running contexts were admitted in some order.
theorem contenders_told_to_stop (ops : List PoolOp) (a b : Context)
    (left : a ∈ (poolMachine.after .initial ops).pool.runningContexts)
    (right : b ∈ (poolMachine.after .initial ops).pool.runningContexts) (contend : Contend a b) :
    (AdmittedBefore (poolMachine.trace .initial ops) a b → ToldToStopBy (poolMachine.trace .initial ops) a b) ∧
    (AdmittedBefore (poolMachine.trace .initial ops) b a → ToldToStopBy (poolMachine.trace .initial ops) b a) ∧
    (a ≠ b → AdmittedBefore (poolMachine.trace .initial ops) a b ∨ AdmittedBefore (poolMachine.trace .initial ops) b a) := by
  have valid := runs_ordered ops
  have once := List.Nodup.of_append_left valid.once
  have told : ∀ x y, [x,y].Sublist _ → Contend x y → ToldToStopBy (poolMachine.trace .initial ops) x y :=
    fun _ _ => List.pairwise_iff_forall_sublist.mp valid.told
  refine ⟨fun ordered => ?_,fun ordered => ?_,fun apart => ?_⟩
  · exact told _ _ (pair_order once ordered valid.running left right) contend
  · exact told _ _ (pair_order once ordered valid.running right left) contend.symm
  · exact (pair_total left right apart).imp (·.trans valid.running) (·.trans valid.running)

-- A sudo session with its dialog up and the widget session that takes the
-- window over, both of one user.
def dialogSudo : Context :=
  ⟨0,11,1,.sudoAuth,100,AuthType.PIN,[AuthType.PIN],.SUDO_PIN_AUTH,"terminal",true⟩
def takeoverWidget : Context :=
  ⟨1,12,2,.widgetAuth,100,AuthType.INVALID_AUTH_TYPE,[AuthType.PIN],.DEFAULT,"settings",true⟩
def dialogTakeover : List PoolOp :=
  [.schedule (fun _ _ => .keepRunning) dialogSudo,
    .schedule (Context.getPreemptDecision fun _ => true) takeoverWidget]

theorem dialog_takeover_told :
    dialogSudo ∈ (poolMachine.after .initial dialogTakeover).pool.runningContexts ∧
      takeoverWidget ∈ (poolMachine.after .initial dialogTakeover).pool.runningContexts ∧
      ToldToStopBy (poolMachine.trace .initial dialogTakeover) dialogSudo takeoverWidget := by
  have left : dialogSudo ∈ (poolMachine.after .initial dialogTakeover).pool.runningContexts := by decide
  have right : takeoverWidget ∈ (poolMachine.after .initial dialogTakeover).pool.runningContexts := by decide
  have ordered : AdmittedBefore (poolMachine.trace .initial dialogTakeover) dialogSudo takeoverWidget := by
    unfold AdmittedBefore
    decide
  exact ⟨left,right,(contenders_told_to_stop _ _ _ left right (by decide)).1 ordered⟩

end UserAuth
