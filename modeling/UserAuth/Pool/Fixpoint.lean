import UserAuth.Pool.PoolRun

namespace UserAuth
namespace ContextPoolImpl
variable {preempt : PreemptAnswers}

-- Why a waiter waits: a running context holds it up, or a waiter in front of it
-- that is held up itself. Each link of the chain is one of contention.
inductive Blocked (preempt : PreemptAnswers) (pool : ContextPoolImpl) : Context → Prop where
  | directly (running : holder ∈ pool.runningContexts) (contend : Contend waiter holder)
      (seen : ¬Supersedes preempt waiter holder) : Blocked preempt pool waiter
  | through (ahead : front ++ [waiter] <+: pool.waitingFifo) (inFront : earlier ∈ front)
      (contend : Contend waiter earlier) (seen : ¬Supersedes preempt waiter earlier)
      (blocked : Blocked preempt pool earlier) : Blocked preempt pool waiter

theorem Blocked.runs (blocked : Blocked preempt pool waiter) : pool.runningContexts ≠ [] := by
  induction blocked with
  | directly running => exact List.ne_nil_of_mem running
  | through _ _ _ _ _ ih => exact ih

theorem canStart_refused (refused : waiter.canStart visible = false) : ∃ holder ∈ visible, Contend waiter holder := by
  have auth : isAuthContext waiter.contextType = true := by
    by_contra other
    unfold Context.canStart at refused
    cases kind : waiter.contextType <;> simp_all [isAuthContext]
  rw [canStart_policy auth] at refused
  simp only [ContextAdmissionPolicy.canStart,auth] at refused
  cases primary : waiter.isPrimaryContext with
  | false => simp [primary] at refused
  | true =>
    simp only [primary,Bool.not_true,Bool.or_self,Bool.false_eq_true,if_false,List.all_eq_false,Bool.or_eq_true,
      Bool.not_eq_true',not_or,Bool.not_eq_false] at refused
    obtain ⟨holder,inside,⟨otherPrimary,otherAuth⟩,contends⟩ := refused
    refine ⟨holder,inside,primary,otherPrimary,auth,otherAuth,?_⟩
    unfold blockedBySudoPinContention at contends
    split at contends
    · cases contends
    · split at contends
      · cases contends
      · rename_i valid pins
        simp only [Bool.or_eq_true,beq_iff_eq,bne_iff_ne,not_or,ne_eq,not_not,Bool.not_eq_true',Bool.not_eq_false]
          at valid pins contends
        exact ⟨valid.2,valid.1,pins.1,pins.2,contends⟩

theorem canStart_shrinks {waiter : Context} (part : ∀ holder ∈ fewer, holder ∈ more) (allowed : waiter.canStart more = true) :
    waiter.canStart fewer = true := by
  by_contra refused
  obtain ⟨holder,inside,contend⟩ := canStart_refused (Bool.not_eq_true _ ▸ refused)
  exact canStart_excludes contend allowed (part holder inside)

-- After a pass with these answers another one would change nothing.
structure AtFixpoint (preempt : PreemptAnswers) (pool : ContextPoolImpl) : Prop where
  stays : (promoteWaitingLocked preempt pool).1 = pool
  admits : (promoteWaitingLocked preempt pool).2.toStart = []
  blocked : ∀ waiter ∈ pool.waitingFifo, Blocked preempt pool waiter
  drained : pool.runningContexts = [] → pool.waitingFifo = []

section Settled
variable {held queue : List Context} {p : Promotion}

-- Whoever stands in front of a waiter left over has been admitted, or still
-- stands in front of it.
theorem Promoted.front_kept (promoted : Promoted preempt held queue p) (nodup : queue.Nodup)
    (here : front ++ [waiter] <+: queue) (still : remains ++ [waiter] <+: p.waitingFifo) (inFront : other ∈ front) :
    other ∈ p.plan.toStart ∨ other ∈ remains := by
  have queued : other ∈ queue := ((List.prefix_append _ _).trans here).subset inFront
  rcases List.mem_append.mp (promoted.shared.symm.subset queued) with started | waits
  · exact .inl started
  · have ordered : [other,waiter].Sublist queue :=
      ((List.singleton_sublist.mpr inFront).append (List.Sublist.refl [waiter])).trans here.sublist
    have waiting : waiter ∈ p.waitingFifo := still.subset (by simp)
    exact .inr (before_pivot (nodup.sublist promoted.waiting) (pair_order nodup ordered promoted.waiting waits waiting) still)

theorem Promoted.holders_kept (promoted : Promoted preempt held queue p) (nodup : queue.Nodup)
    (here : front ++ [waiter] <+: queue) (still : remains ++ [waiter] <+: p.waitingFifo)
    (member : other ∈ held ++ front) : other ∈ p.runningContexts ∨ other ∈ remains := by
  rw [promoted.running,List.mem_append]
  rcases List.mem_append.mp member with holds | inFront
  · exact .inl (.inl holds)
  · exact (promoted.front_kept nodup here still inFront).imp_left .inr

end Settled

section Pass
variable (preempt : PreemptAnswers) (pool : ContextPoolImpl) (distinct : DistinctIds pool.contexts)
include distinct

theorem promoted_distinct : DistinctIds (promoteWaitingLocked preempt pool).1.contexts := by
  have promoted : Promoted preempt pool.runningContexts pool.waitingFifo (promotion preempt pool) :=
    promotion_promoted pool distinct
  unfold DistinctIds promoteWaitingLocked contexts
  dsimp only
  rw [promoted.running,List.append_assoc]
  exact ((promoted.shared.append_left _).map _).nodup_iff.mpr distinct

theorem second_pass_idle :
    (promotion preempt (promoteWaitingLocked preempt pool).1).plan.toStart = [] := by
  have first : Promoted preempt pool.runningContexts pool.waitingFifo (promotion preempt pool) :=
    promotion_promoted pool distinct
  have second : Promoted preempt _ _ (promotion preempt (promoteWaitingLocked preempt pool).1) :=
    promotion_promoted _ (promoted_distinct preempt pool distinct)
  have nodup : pool.waitingFifo.Nodup := List.Nodup.of_append_right (nodup_of_ids distinct)
  refine List.eq_nil_iff_forall_not_mem.mpr fun waiter started => ?_
  obtain ⟨remains,still,allowed⟩ := second.admitted waiter started
  obtain ⟨front,here,refused⟩ := first.kept waiter (second.started.subset started)
  have seen : ∀ holder ∈ visibleTo preempt waiter (pool.runningContexts ++ front),
      holder ∈ visibleTo preempt waiter ((promoteWaitingLocked preempt pool).1.runningContexts ++ remains) := by
    intro holder visible
    obtain ⟨member,visible⟩ := mem_visibleTo.mp visible
    exact mem_visibleTo.mpr ⟨List.mem_append.mpr (first.holders_kept nodup here still member),visible⟩
  rw [canStart_shrinks seen allowed] at refused
  cases refused

theorem waiter_blocked (remains : List Context) (waiter : Context)
    (still : remains ++ [waiter] <+: (promoteWaitingLocked preempt pool).1.waitingFifo) :
    Blocked preempt (promoteWaitingLocked preempt pool).1 waiter := by
  have promoted : Promoted preempt pool.runningContexts pool.waitingFifo (promotion preempt pool) :=
    promotion_promoted pool distinct
  have nodup : pool.waitingFifo.Nodup := List.Nodup.of_append_right (nodup_of_ids distinct)
  obtain ⟨front,here,refused⟩ := promoted.kept waiter (still.subset (by simp))
  obtain ⟨holder,visible,contend⟩ := canStart_refused refused
  obtain ⟨member,seen⟩ := mem_visibleTo.mp visible
  rcases promoted.holders_kept nodup here still member with running | inFront
  · exact .directly running contend seen
  · -- the waiters in front are fewer, and each of them is blocked
    obtain ⟨before,after,split⟩ := List.append_of_mem inFront
    have shorter : before.length < remains.length := by
      rw [split,List.length_append]
      simp
    refine .through still inFront contend seen (waiter_blocked before holder ?_)
    rw [split] at still
    exact (List.prefix_append (before ++ [holder]) (after ++ [waiter])).trans (by simpa using still)
termination_by remains.length

theorem promotion_settles : AtFixpoint preempt (promoteWaitingLocked preempt pool).1 := by
  have idle := second_pass_idle preempt pool distinct
  have second : Promoted preempt _ _ (promotion preempt (promoteWaitingLocked preempt pool).1) :=
    promotion_promoted _ (promoted_distinct preempt pool distinct)
  have blocked : ∀ waiter ∈ (promoteWaitingLocked preempt pool).1.waitingFifo,
      Blocked preempt (promoteWaitingLocked preempt pool).1 waiter := by
    intro waiter member
    obtain ⟨before,after,split⟩ := List.append_of_mem member
    apply waiter_blocked preempt pool distinct before waiter
    rw [split]
    exact ⟨after,by simp⟩
  refine ⟨?_,idle,blocked,?_⟩
  · have shared := second.shared
    rw [idle,List.nil_append] at shared
    have running := second.running
    rw [idle,List.append_nil] at running
    have waiting := second.waiting.eq_of_length shared.length_eq
    unfold promoteWaitingLocked at running waiting ⊢
    dsimp only at running waiting ⊢
    rw [running,waiting]
  · intro none
    refine List.eq_nil_iff_forall_not_mem.mpr fun waiter member => ?_
    exact (blocked waiter member).runs none

end Pass

theorem AtFixpoint.congr (settled : AtFixpoint preempt pool) (running : next.runningContexts = pool.runningContexts)
    (waiting : next.waitingFifo = pool.waitingFifo) : AtFixpoint preempt next := by
  obtain ⟨heldNow,queuedNow,requests⟩ := next
  cases running
  cases waiting
  have same : ∀ waiter, Blocked preempt pool waiter →
      Blocked preempt ⟨pool.runningContexts,pool.waitingFifo,requests⟩ waiter := by
    intro waiter blocked
    induction blocked with
    | directly running contend seen => exact .directly running contend seen
    | through ahead inFront contend seen _ ih => exact .through ahead inFront contend seen ih
  have stays := settled.stays
  unfold promoteWaitingLocked promotion at stays
  have running := congrArg runningContexts stays
  have waiting := congrArg waitingFifo stays
  refine ⟨?_,settled.admits,fun waiter member => same waiter (settled.blocked waiter member),settled.drained⟩
  unfold promoteWaitingLocked promotion
  dsimp only at running waiting ⊢
  rw [running,waiting]

end ContextPoolImpl

open ContextPoolImpl

def PoolOp.answers (preempt : PreemptAnswers) : PoolOp → PreemptAnswers
  | .schedule answers _ | .delete answers _ | .notifyPreemptStateChanged answers => answers
  | _ => preempt

-- The answers that the latest pass of a run has been given.
def latestAnswers (preempt : PreemptAnswers) : PoolState → List PoolOp → PreemptAnswers
  | _,[] => preempt
  | s,op :: rest => latestAnswers (if (s.step op).2.isEmpty then preempt else op.answers preempt) (s.step op).1 rest

-- Both operations fail, or make one pass over contents with distinct ids.
theorem schedule_passes (preempt : PreemptAnswers) {pool : ContextPoolImpl} (distinct : DistinctIds pool.contexts) (context : Context) :
    pool.schedule preempt context = none ∨ ∃ state, DistinctIds (contexts state) ∧
      pool.schedule preempt context = some (promoteWaitingLocked preempt state) := by
  rcases PoolState.schedule_cases preempt pool context with refused | ⟨absent,accepted⟩
  · exact .inl refused
  · have grown := PoolState.distinct_arrival distinct absent
    rw [contexts,List.append_assoc] at grown
    exact .inr ⟨{pool with waitingFifo:=pool.waitingFifo ++ [context]},grown,accepted⟩

theorem delete_passes (preempt : PreemptAnswers) {pool : ContextPoolImpl} (distinct : DistinctIds pool.contexts) (contextId : UInt64) :
    pool.delete preempt contextId = none ∨ ∃ state, DistinctIds (contexts state) ∧
      pool.delete preempt contextId = some (promoteWaitingLocked preempt state) := by
  rcases PoolState.delete_cases preempt pool contextId with refused | accepted
  · exact .inl refused
  · exact .inr ⟨_,PoolState.withdraw_distinct distinct contextId,accepted⟩

theorem step_settles (s : PoolState) (op : PoolOp) (distinct : DistinctIds s.pool.contexts)
    (before : AtFixpoint preempt s.pool) :
    AtFixpoint (if (s.step op).2.isEmpty then preempt else op.answers preempt) (s.step op).1.pool := by
  cases op with
  | schedule answers context =>
    rcases schedule_passes answers distinct {context with ref:=s.nextRef} with refused | ⟨state,whole,accepted⟩
    · simp only [PoolState.step,refused]
      exact before
    · simp only [PoolState.step,accepted]
      exact promotion_settles answers state whole
  | cancel => exact before.congr rfl rfl
  | delete answers contextId =>
    rcases delete_passes answers distinct contextId with refused | ⟨state,whole,accepted⟩
    · simp only [PoolState.step,refused]
      exact before
    · simp only [PoolState.step,accepted]
      exact promotion_settles answers state whole
  | notifyPreemptStateChanged answers => exact promotion_settles answers s.pool distinct
  | runTask position =>
    refine before.congr ?_ ?_ <;>
    · simp only [PoolState.step,PoolState.runTask]
      split <;> rfl

theorem runs_settled (preempt : PreemptAnswers) (s : PoolState) (plans : List AdmissionPlan) (ordered : Ordered s plans)
    (before : AtFixpoint preempt s.pool) (ops : List PoolOp) :
    AtFixpoint (latestAnswers preempt s ops) (poolMachine.after s ops).pool := by
  induction ops generalizing preempt s plans with
  | nil => exact before
  | cons op rest ih => exact ih _ _ _ (step_ordered s plans op ordered) (step_settles s op ordered.distinct before)

theorem empty_settled (preempt : PreemptAnswers) : AtFixpoint preempt empty :=
  ⟨rfl,rfl,by simp [empty],fun _ => rfl⟩

-- Of any pool contents, and of those that runs lead to.
theorem promotion_reaches_fixpoint :
    (∀ (preempt : PreemptAnswers) (pool next : ContextPoolImpl) (context : Context) (plan : AdmissionPlan),
      DistinctIds pool.contexts → pool.schedule preempt context = some (next,plan) → AtFixpoint preempt next) ∧
    (∀ (preempt : PreemptAnswers) (pool next : ContextPoolImpl) (contextId : UInt64) (plan : AdmissionPlan),
      DistinctIds pool.contexts → pool.delete preempt contextId = some (next,plan) → AtFixpoint preempt next) ∧
    (∀ (preempt : PreemptAnswers) (pool : ContextPoolImpl),
      DistinctIds pool.contexts → AtFixpoint preempt (pool.notifyPreemptStateChanged preempt).1) ∧
    ∀ preempt ops, AtFixpoint (latestAnswers preempt .initial ops) (poolMachine.after .initial ops).pool := by
  refine ⟨?_,?_,promotion_settles,
    fun preempt ops => runs_settled preempt _ [] initial_ordered (empty_settled preempt) ops⟩
  · intro preempt pool next context plan distinct scheduled
    rcases schedule_passes preempt distinct context with refused | ⟨state,whole,accepted⟩
    · rw [refused] at scheduled
      cases scheduled
    · rw [accepted] at scheduled
      have settled := promotion_settles preempt state whole
      rwa [Option.some.inj scheduled] at settled
  · intro preempt pool next contextId plan distinct deleted
    rcases delete_passes preempt distinct contextId with refused | ⟨state,whole,accepted⟩
    · rw [refused] at deleted
      cases deleted
    · rw [accepted] at deleted
      have settled := promotion_settles preempt state whole
      rwa [Option.some.inj deleted] at settled

end UserAuth
