import UserAuth.Pool.Fairness

namespace UserAuth
open ContextPoolImpl

def PoolOp.Deletes (op : PoolOp) (contextId : UInt64) : Prop := ∃ preempt, op = .delete preempt contextId

def ContextPoolImpl.InOneList (pool : ContextPoolImpl) (context : Context) : Prop :=
  Xor (context ∈ pool.runningContexts) (context ∈ pool.waitingFifo)

theorem member_in_one {pool : ContextPoolImpl} (distinct : DistinctIds pool.contexts) (member : a ∈ pool.contexts) :
    pool.InOneList a := by
  have apart := (List.nodup_append.mp (nodup_of_ids distinct)).2.2
  rcases List.mem_append.mp member with running | waiting
  · exact .inl ⟨running,fun waiting => apart a running a waiting rfl⟩
  · exact .inr ⟨waiting,fun running => apart a running a waiting rfl⟩

section Members
variable {s : PoolState} {op : PoolOp}

theorem delete_removes (distinct : DistinctIds s.pool.contexts) (preempt : PreemptAnswers) (contextId : UInt64) :
    ∀ a ∈ (s.step (.delete preempt contextId)).1.pool.contexts, a.contextId ≠ contextId := by
  intro a member
  by_cases found : s.pool.contexts.any (·.contextId == contextId) = true
  · have accepted : s.pool.delete preempt contextId =
        some (promoteWaitingLocked preempt (PoolState.withdraw s.pool contextId)) := by
      simp [delete,found,PoolState.withdraw]
    simp only [PoolState.step,accepted,PoolState.settle] at member
    have shares : (promoteWaitingLocked preempt (PoolState.withdraw s.pool contextId)).1.contexts.Perm
        (PoolState.withdraw s.pool contextId).contexts :=
      promote_shares preempt _ (PoolState.withdraw_distinct distinct contextId)
    exact ((PoolState.mem_withdraw distinct).mp (shares.subset member)).2
  · have refused : s.pool.delete preempt contextId = none := by
      simp only [Bool.not_eq_true] at found
      simp [delete,found]
    simp only [PoolState.step,refused,PoolState.settle] at member
    rintro same
    exact found (List.any_eq_true.mpr ⟨a,member,by simpa using same⟩)

theorem member_stays_iff (distinct : DistinctIds s.pool.contexts) (member : a ∈ s.pool.contexts) :
    a ∈ (s.step op).1.pool.contexts ↔ ¬op.Deletes a.contextId := by
  constructor
  · rintro still ⟨preempt,rfl⟩
    exact delete_removes distinct preempt a.contextId a still rfl
  · exact fun spared => step_keeps distinct member fun preempt same => spared ⟨preempt,same⟩

theorem promotion_holds (preempt : PreemptAnswers) (pool : ContextPoolImpl) (distinct : DistinctIds pool.contexts)
    (running : a ∈ pool.runningContexts) : a ∈ (promoteWaitingLocked preempt pool).1.runningContexts := by
  have promoted : Promoted preempt pool.runningContexts pool.waitingFifo (promotion preempt pool) :=
    promotion_promoted pool distinct
  simp only [promoteWaitingLocked,promoted.running]
  exact List.mem_append_left _ running

theorem running_stays (distinct : DistinctIds s.pool.contexts) (running : a ∈ s.pool.runningContexts)
    (spared : ¬op.Deletes a.contextId) : a ∈ (s.step op).1.pool.runningContexts := by
  cases op with
  | schedule preempt context =>
    rcases PoolState.schedule_cases preempt s.pool {context with ref:=s.nextRef} with refused | ⟨absent,accepted⟩
    · simp only [PoolState.step,refused]
      exact running
    · have grown := PoolState.distinct_arrival distinct absent
      rw [contexts,List.append_assoc] at grown
      simp only [PoolState.step,accepted]
      exact promotion_holds preempt {s.pool with waitingFifo:=s.pool.waitingFifo ++ [_]} grown running
  | cancel => exact running
  | delete preempt contextId =>
    have apart : a.contextId ≠ contextId := fun same => spared ⟨preempt,by rw [same]⟩
    rcases PoolState.delete_cases preempt s.pool contextId with refused | accepted
    · simp only [PoolState.step,refused]
      exact running
    · simp only [PoolState.step,accepted]
      apply promotion_holds preempt _ (PoolState.withdraw_distinct distinct contextId)
      exact (PoolState.mem_erased distinct.front).mpr ⟨running,apart⟩
  | notifyPreemptStateChanged preempt => exact promotion_holds preempt s.pool distinct running
  | runTask position =>
    simp only [PoolState.step,PoolState.runTask]
    split <;> exact running

theorem step_distinct (distinct : DistinctIds s.pool.contexts) : DistinctIds (s.step op).1.pool.contexts := by
  rcases s.step_cases op distinct with ⟨running,waiting,_⟩ | ⟨_,held,queue,arrived,p,pass⟩
  · unfold DistinctIds contexts
    rw [running,waiting]
    exact distinct
  · exact ((pass_members pass).map _).nodup_iff.mpr pass.distinct

theorem arrival_joins (distinct : DistinctIds s.pool.contexts)
    (scheduled : s.pool.schedule preempt {context with ref:=s.nextRef} = some outcome) :
    {context with ref:=s.nextRef} ∈ (s.step (.schedule preempt context)).1.pool.contexts := by
  rcases PoolState.schedule_cases preempt s.pool {context with ref:=s.nextRef} with refused | ⟨absent,accepted⟩
  · rw [refused] at scheduled
    cases scheduled
  · have grown := PoolState.distinct_arrival distinct absent
    rw [contexts,List.append_assoc] at grown
    simp only [PoolState.step,accepted]
    exact (promote_shares preempt {s.pool with waitingFifo:=s.pool.waitingFifo ++ [_]} grown).symm.subset
      (by simp [contexts])

-- No room is made before the check, and a pass only moves members.
theorem step_bounded (distinct : DistinctIds s.pool.contexts) (bounded : s.pool.contexts.length ≤ MAX_CONTEXT_NUM) :
    (s.step op).1.pool.contexts.length ≤ MAX_CONTEXT_NUM := by
  cases op with
  | schedule preempt context =>
    by_cases full : s.pool.runningContexts.length + s.pool.waitingFifo.length ≥ MAX_CONTEXT_NUM
    · have refused : s.pool.schedule preempt {context with ref:=s.nextRef} = none := by
        unfold schedule
        rw [if_pos full]
      simp only [PoolState.step,refused]
      exact bounded
    · rcases PoolState.schedule_cases preempt s.pool {context with ref:=s.nextRef} with refused | ⟨absent,accepted⟩
      · simp only [PoolState.step,refused]
        exact bounded
      · have grown := PoolState.distinct_arrival distinct absent
        rw [contexts,List.append_assoc] at grown
        have shares := promote_shares preempt {s.pool with waitingFifo:=s.pool.waitingFifo ++ [_]} grown
        simp only [PoolState.step,accepted,PoolState.settle,shares.length_eq]
        simp only [contexts,List.length_append,List.length_cons,List.length_nil]
        omega
  | cancel => exact bounded
  | delete preempt contextId =>
    rcases PoolState.delete_cases preempt s.pool contextId with refused | accepted
    · simp only [PoolState.step,refused]
      exact bounded
    · have shares := promote_shares preempt _ (PoolState.withdraw_distinct distinct contextId)
      simp only [PoolState.step,accepted,PoolState.settle,shares.length_eq]
      exact Nat.le_trans (List.eraseP_sublist.append List.eraseP_sublist).length_le bounded
  | notifyPreemptStateChanged preempt =>
    have shares := promote_shares preempt s.pool distinct
    simp only [PoolState.step,PoolState.settle,notifyPreemptStateChanged,shares.length_eq]
    exact bounded
  | runTask position =>
    simp only [PoolState.step,PoolState.runTask]
    split <;> exact bounded

-- From its admission to the pool on, a context is in the lists exactly as
-- long as no Delete has named it: later arrivals are other objects.
theorem strangers_stay_out (ordered : Ordered s plans) (known : a.ref < s.nextRef) (absent : a ∉ s.pool.contexts)
    (later : List PoolOp) : a ∉ (poolMachine.after s later).pool.contexts := by
  induction later generalizing s plans with
  | nil => exact absent
  | cons op rest ih =>
    have known : a.ref < (s.step op).1.nextRef := Nat.lt_of_lt_of_le known (nextRef_grows s op)
    exact ih (step_ordered s plans op ordered) known (step_strangers ordered ‹_› absent)

theorem members_until_deleted (ordered : Ordered s plans) (known : a.ref < s.nextRef) (member : a ∈ s.pool.contexts)
    (later : List PoolOp) :
    a ∈ (poolMachine.after s later).pool.contexts ↔ ∀ op ∈ later, ¬op.Deletes a.contextId := by
  induction later generalizing s plans with
  | nil => simpa using member
  | cons op rest ih =>
    have next := step_ordered s plans op ordered
    have grown : a.ref < (s.step op).1.nextRef := Nat.lt_of_lt_of_le known (nextRef_grows s op)
    rw [List.forall_mem_cons,Mealy.after_cons]
    by_cases deleted : op.Deletes a.contextId
    · have gone : a ∉ (s.step op).1.pool.contexts := fun still =>
        (member_stays_iff ordered.distinct member).mp still deleted
      exact iff_of_false (strangers_stay_out next grown gone rest) fun spared => spared.1 deleted
    · have still := (member_stays_iff ordered.distinct member).mpr deleted
      exact (ih next grown still).trans (by simp [deleted])

end Members

theorem runs_bounded (ops : List PoolOp) : (poolMachine.after .initial ops).pool.contexts.length ≤ MAX_CONTEXT_NUM := by
  have both : Ordered (poolMachine.after .initial ops) (poolMachine.trace .initial ops) ∧
      (poolMachine.after .initial ops).pool.contexts.length ≤ MAX_CONTEXT_NUM :=
    Mealy.history (P:=fun s plans => Ordered s plans ∧ s.pool.contexts.length ≤ MAX_CONTEXT_NUM)
      (fun s plans op before => ⟨step_ordered s plans op before.1,step_bounded before.1.distinct before.2⟩)
      ⟨initial_ordered,by decide⟩ ops
  exact both.2

-- Where a context scheduled along the way stands at the end of a run.
structure Settled (ops later : List PoolOp) (arrival : Context) : Prop where
  whereabouts : (∀ op ∈ later, ¬op.Deletes arrival.contextId) → (poolMachine.after .initial ops).pool.InOneList arrival
  gone : (∃ op ∈ later, op.Deletes arrival.contextId) → arrival ∉ (poolMachine.after .initial ops).pool.contexts
  startedOnce : (admissions (poolMachine.trace .initial ops)).count arrival ≤ 1

theorem scheduled_settled (earlier later : List PoolOp) (preempt : PreemptAnswers) (context : Context)
    (scheduled : (poolMachine.after .initial earlier).pool.schedule preempt
      {context with ref:=(poolMachine.after .initial earlier).nextRef} = some outcome) :
    Settled (earlier ++ .schedule preempt context :: later) later
      {context with ref:=(poolMachine.after .initial earlier).nextRef} := by
  have before := runs_ordered earlier
  have next := step_ordered _ _ (.schedule preempt context) before
  have joined := arrival_joins before.distinct scheduled
  have known : (poolMachine.after .initial earlier).nextRef <
      ((poolMachine.after .initial earlier).step (.schedule preempt context)).1.nextRef := by
    simp [PoolState.step]
  have whereabouts : {context with ref:=(poolMachine.after .initial earlier).nextRef} ∈
      (poolMachine.after .initial (earlier ++ .schedule preempt context :: later)).pool.contexts ↔
        ∀ op ∈ later, ¬op.Deletes context.contextId := by
    rw [Mealy.after_append,Mealy.after_cons]
    exact members_until_deleted next known joined later
  have ended := runs_ordered (earlier ++ .schedule preempt context :: later)
  refine ⟨?_,?_,?_⟩
  · exact fun spared => member_in_one ended.distinct (whereabouts.mpr spared)
  · rintro ⟨op,inside,deletes⟩ still
    exact whereabouts.mp still op inside deletes
  · exact List.nodup_iff_count_le_one.mp (List.Nodup.of_append_left ended.once) _

structure PassConserves (pool next : ContextPoolImpl) (plan : AdmissionPlan) : Prop where
  moved : next.runningContexts = pool.runningContexts ++ plan.toStart
  shared : (plan.toStart ++ next.waitingFifo).Perm pool.waitingFifo
  inOrder : next.waitingFifo.Sublist pool.waitingFifo

theorem promotion_conserves (preempt : PreemptAnswers) (pool : ContextPoolImpl) (distinct : DistinctIds pool.contexts) :
    PassConserves pool (promoteWaitingLocked preempt pool).1 (promoteWaitingLocked preempt pool).2 := by
  have promoted : Promoted preempt pool.runningContexts pool.waitingFifo (promotion preempt pool) :=
    promotion_promoted pool distinct
  exact ⟨promoted.running,promoted.shared,promoted.waiting⟩

def PoolState.Fails (s : PoolState) : PoolOp → Prop
  | .schedule preempt context => s.pool.schedule preempt {context with ref:=s.nextRef} = none
  | .delete preempt contextId => s.pool.delete preempt contextId = none
  | _ => False

structure Untouched (s next : PoolState) (plans : List AdmissionPlan) : Prop where
  pool : next.pool = s.pool
  tasks : next.tasks = s.tasks
  plans : plans = []

theorem failure_changes_nothing (s : PoolState) (op : PoolOp) (fails : s.Fails op) :
    Untouched s (s.step op).1 (s.step op).2 := by
  cases op with
  | schedule preempt context =>
    simp only [PoolState.Fails] at fails
    simp only [PoolState.step,fails]
    exact ⟨rfl,rfl,rfl⟩
  | delete preempt contextId =>
    simp only [PoolState.Fails] at fails
    simp only [PoolState.step,fails]
    exact ⟨rfl,rfl,rfl⟩
  | cancel => cases fails
  | notifyPreemptStateChanged => cases fails
  | runTask => cases fails

theorem pool_conserves :
    (∀ earlier later preempt context,
      ((poolMachine.after .initial earlier).pool.schedule preempt
        {context with ref:=(poolMachine.after .initial earlier).nextRef}).isSome →
      Settled (earlier ++ .schedule preempt context :: later) later
        {context with ref:=(poolMachine.after .initial earlier).nextRef}) ∧
    (∀ ops, DistinctIds (poolMachine.after .initial ops).pool.contexts ∧
      (poolMachine.after .initial ops).pool.contexts.length ≤ MAX_CONTEXT_NUM) ∧
    (∀ preempt pool, DistinctIds (contexts pool) →
      PassConserves pool (promoteWaitingLocked preempt pool).1 (promoteWaitingLocked preempt pool).2) ∧
    ∀ s op, PoolState.Fails s op → Untouched s (s.step op).1 (s.step op).2 := by
  refine ⟨?_,?_,promotion_conserves,failure_changes_nothing⟩
  · intro earlier later preempt context scheduled
    obtain ⟨outcome,scheduled⟩ := Option.isSome_iff_exists.mp scheduled
    exact scheduled_settled earlier later preempt context scheduled
  · exact fun ops => ⟨(runs_ordered ops).distinct,runs_bounded ops⟩

end UserAuth
