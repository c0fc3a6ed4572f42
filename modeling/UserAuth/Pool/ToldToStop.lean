import UserAuth.Pool.HandshakeRun

namespace UserAuth
open ContextPoolImpl ContextObject

namespace Handshake
variable {s : Handshake} {log : List HandshakeEvent} {context : Context}

-- A pooled context's stop has been called, or a cancel that names it is on its way there.
def Told (s : Handshake) (log : List HandshakeEvent) (context : Context) : Prop :=
  .stop context ∈ log ∨ context.contextId ∈ s.pool.cancelRequestedIds ∨ s.serial = some (.selecting context.contextId) ∨
    s.callOf context = some .stop

theorem Told.pending (valid : Valid s log) (told : Told s log context) : .stop context ∈ log ∨ s.StopPending context := by
  rcases told with stopped | asked | selecting | called
  · exact .inl stopped
  · exact .inr (.inl (valid.recorded _ asked))
  · exact .inr (.inr (.inl selecting))
  · exact .inr (.inr (.inr (.inl called)))

theorem Told.more (told : Told s log context) (more : List HandshakeEvent) : Told s (log ++ more) context :=
  told.imp_left (List.mem_append_left more)

theorem told_cancel (s : Handshake) (log : List HandshakeEvent) (context : Context) :
    Told (s.step (.pool (.cancel context.contextId))).1 log context :=
  .inr (.inl (Finset.mem_insert_self _ _))

theorem pool_told (op : PoolOp) (posting : ∀ position, op ≠ .runTask position) (told : Told s log context) :
    Told {s with toPoolState:=(s.toPoolState.step op).1} log context :=
  told.imp_right (Or.imp_left fun asked => (step_posts s.toPoolState op posting).kept asked)

theorem takeTask_told (position : Nat) (told : Told s log context) : Told (s.takeTask position) log context := by
  unfold Handshake.takeTask
  split
  · rename_i task idle taken
    have none : s.callOf context = none := by simp [Handshake.callOf,idle]
    rcases told with stopped | asked | selecting | called
    · exact .inl stopped
    · cases task with
      | stopIfPooled contextId =>
        by_cases same : context.contextId = contextId
        · exact .inr (.inr (.inl (by simp [firstStep,same])))
        · refine .inr (.inl ?_)
          simpa [PoolState.runTask,taken,forgetCancel] using ⟨same,asked⟩
      | startIfPooled contextId =>
        refine .inr (.inl ?_)
        simpa [PoolState.runTask,taken] using asked
    · cases idle.symm.trans selecting
    · cases none.symm.trans called
  · exact told

theorem proceed_told (answers : Answers) (valid : Valid s log) (member : context ∈ s.pool.contexts)
    (told : Told s log context) : Told (s.proceed answers).1 (log ++ (s.proceed answers).2) context := by
  obtain ⟨plans,ordered⟩ := valid.ordered
  rcases told with stopped | asked | selecting | called
  · exact .inl (List.mem_append_left _ stopped)
  · refine .inr (.inl ?_)
    unfold Handshake.proceed
    split <;> exact asked
  · refine .inr (.inr (.inr ?_))
    simp [Handshake.proceed,selecting,select_member ordered.distinct member,Handshake.callOf]
  · refine .inl (List.mem_append_right _ ?_)
    unfold Handshake.callOf at called
    split at called
    · rename_i call other here
      split at called
      · rename_i same
        cases called
        subst same
        simp [Handshake.proceed,here,callObject]
      · cases called
    · cases called

theorem step_told (op : HandshakeOp) (valid : Valid s log) (member : context ∈ s.pool.contexts)
    (told : Told s log context) : Told (s.step op).1 (log ++ (s.step op).2) context := by
  cases op with
  | pool op =>
    refine Told.more ?_ _
    cases op with
    | runTask position => exact takeTask_told position told
    | schedule preempt arrival => exact pool_told (.schedule preempt arrival) (by simp) told
    | cancel contextId => exact pool_told (.cancel contextId) (by simp) told
    | delete preempt contextId => exact pool_told (.delete preempt contextId) (by simp) told
    | notifyPreemptStateChanged preempt => exact pool_told (.notifyPreemptStateChanged preempt) (by simp) told
  | proceed answers => exact proceed_told answers valid member told
  | callback other answers entry => exact told.more _

-- A step of the handshake brings at most what it schedules into the pool.
theorem step_arrivals (op : HandshakeOp) (valid : Valid s log) (member : context ∈ (s.step op).1.pool.contexts) :
    context ∈ s.pool.contexts ∨
      ∃ preempt arrival, op = .pool (.schedule preempt arrival) ∧ context = {arrival with ref:=s.nextRef} := by
  obtain ⟨plans,ordered⟩ := valid.ordered
  cases op with
  | pool op =>
    cases op with
    | runTask position =>
      left
      simp only [Handshake.step,Handshake.takeTask] at member
      split at member
      · rename_i task _ taken
        simp only [PoolState.runTask,taken] at member
        cases task <;> exact member
      · exact member
    | schedule preempt arrival =>
      simp only [Handshake.step,PoolState.step] at member
      rcases PoolState.schedule_cases preempt s.pool {arrival with ref:=s.nextRef} with refused | ⟨absent,accepted⟩
      · rw [refused] at member
        exact .inl member
      · have grown := PoolState.distinct_arrival ordered.distinct absent
        rw [contexts,List.append_assoc] at grown
        rw [accepted] at member
        have before := (promote_shares preempt {s.pool with waitingFifo:=s.pool.waitingFifo ++ [_]} grown).subset member
        simp only [contexts,List.mem_append,List.mem_singleton] at before
        rcases before with running | waiting | new
        · exact .inl (List.mem_append_left _ running)
        · exact .inl (List.mem_append_right _ waiting)
        · exact .inr ⟨preempt,arrival,rfl,new⟩
    | cancel contextId => exact .inl member
    | delete preempt contextId =>
      left
      simp only [Handshake.step,PoolState.step] at member
      rcases PoolState.delete_cases preempt s.pool contextId with refused | accepted
      · rw [refused] at member
        exact member
      · rw [accepted] at member
        have before := (promote_shares preempt _ (PoolState.withdraw_distinct ordered.distinct contextId)).subset member
        exact ((PoolState.mem_withdraw ordered.distinct).mp before).1
    | notifyPreemptStateChanged preempt => exact .inl ((promote_shares preempt s.pool ordered.distinct).subset member)
  | proceed answers =>
    left
    simp only [Handshake.step,Handshake.proceed] at member
    split at member <;> exact member
  | callback other answers entry => exact .inl member

theorem known (valid : Valid s log) (member : context ∈ s.pool.contexts) : context.ref < s.nextRef := by
  obtain ⟨plans,ordered⟩ := valid.ordered
  refine ordered.known context ?_
  rcases List.mem_append.mp member with running | waiting
  · exact List.mem_append_left _ (ordered.running.subset running)
  · exact List.mem_append_right _ waiting

end Handshake
end UserAuth
