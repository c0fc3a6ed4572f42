import UserAuth.Pool.Handshake

namespace UserAuth
open ContextPoolImpl

-- Every context handed to Schedule, refused ones included, in order.
def arrivals : PoolState → List PoolOp → List Context
  | _,[] => []
  | s,op :: rest =>
    (match op with
      | .schedule _ context => [{context with ref:=s.nextRef}]
      | _ => []) ++ arrivals (s.step op).1 rest

def ScheduledBefore (ops : List PoolOp) (a b : Context) : Prop := [a,b].Sublist (arrivals .initial ops)

def Earlier (a b : Context) : Prop := a.ref < b.ref

theorem arrivals_ordered (s : PoolState) (ops : List PoolOp) :
    (∀ context ∈ arrivals s ops, s.nextRef ≤ context.ref) ∧ (arrivals s ops).Pairwise Earlier := by
  induction ops generalizing s with
  | nil => exact ⟨by simp [arrivals],.nil⟩
  | cons op rest ih =>
    obtain ⟨bound,ordered⟩ := ih (s.step op).1
    have grows := nextRef_grows s op
    have later : ∀ context ∈ arrivals (s.step op).1 rest, s.nextRef ≤ context.ref :=
      fun context inside => Nat.le_trans grows (bound context inside)
    cases op with
    | schedule preempt context =>
      have moved : (s.step (.schedule preempt context)).1.nextRef = s.nextRef + 1 := settle_nextRef _ _
      rw [moved] at bound
      simp only [arrivals,List.singleton_append]
      refine ⟨?_,List.pairwise_cons.mpr ⟨?_,ordered⟩⟩
      · intro member inside
        rcases List.mem_cons.mp inside with rfl | inside
        · exact Nat.le_refl _
        · exact later member inside
      · intro member inside
        exact bound member inside
    | cancel => exact ⟨later,ordered⟩
    | delete => exact ⟨later,ordered⟩
    | notifyPreemptStateChanged => exact ⟨later,ordered⟩
    | runTask => exact ⟨later,ordered⟩

theorem ScheduledBefore.earlier (before : ScheduledBefore ops a b) : Earlier a b :=
  List.pairwise_iff_forall_sublist.mp (arrivals_ordered .initial ops).2 before

-- The queue keeps the order of arrival: a pass takes waiters out, and only
-- Schedule puts one in, at the back.
structure Queued (s : PoolState) (plans : List AdmissionPlan) : Prop extends Ordered s plans where
  inOrder : s.pool.waitingFifo.Pairwise Earlier

section Passes
variable {s next : PoolState} {more : List AdmissionPlan} {held queue arrived : List Context} {p : Promotion}

theorem queue_ordered (pass : PoolState.Pass s next more preempt held queue arrived p) (before : Queued s plans) :
    queue.Pairwise Earlier := by
  refine List.Pairwise.sublist pass.queueFrom (List.pairwise_append.mpr ⟨before.inOrder,?_,?_⟩)
  · cases arrived with
    | nil => exact .nil
    | cons context rest =>
      have single := pass.single
      cases rest with
      | nil => exact List.pairwise_singleton _ _
      | cons => simp at single
  · intro old waited new arrival
    have known := before.known old (List.mem_append_right _ waited)
    rw [Earlier,(pass.fresh new arrival).1]
    exact known

theorem step_queued (s : PoolState) (plans : List AdmissionPlan) (op : PoolOp) (before : Queued s plans) :
    Queued (s.step op).1 (plans ++ (s.step op).2) := by
  refine ⟨step_ordered s plans op before.toOrdered,?_⟩
  rcases s.step_cases op before.distinct with ⟨_,waiting,_⟩ | ⟨preempt,held,queue,arrived,p,pass⟩
  · rw [waiting]
    exact before.inOrder
  · rw [pass.waiting]
    exact (queue_ordered pass before).sublist pass.promoted.waiting

theorem pass_members (pass : PoolState.Pass s next more preempt held queue arrived p) :
    next.pool.contexts.Perm (held ++ queue) := by
  unfold contexts
  rw [pass.running,pass.waiting,pass.promoted.running,List.append_assoc]
  exact pass.promoted.shared.append_left held

-- A member that came earlier stands in front of the waiter admitted, so the
-- waiter sees it unless the same pass tells it to stop.
theorem earlier_stops (pass : PoolState.Pass s next more preempt held queue arrived p) (before : Queued s plans)
    (started : b ∈ p.plan.toStart) (still : a ∈ next.pool.contexts) (earlier : Earlier a b) (contend : Contend a b) :
    p.plan.Stops a := by
  have member : a ∈ held ++ queue := (pass_members pass).subset still
  obtain ⟨front,here,allowed⟩ := pass.promoted.admitted b started
  have ahead : a ∈ held ++ front := by
    rcases List.mem_append.mp member with inside | waited
    · exact List.mem_append_left _ inside
    · obtain ⟨back,rfl⟩ := here
      apply List.mem_append_right _
      rw [List.append_assoc] at waited
      rcases List.mem_append.mp waited with inside | behind
      · exact inside
      · have ordered := queue_ordered pass before
        rw [List.append_assoc] at ordered
        have sorted := (List.pairwise_append.mp ordered).2.1
        rcases List.mem_cons.mp behind with same | after
        · rw [same] at earlier
          exact absurd earlier (Nat.lt_irrefl _)
        · exact absurd earlier (Nat.lt_asymm ((List.pairwise_cons.mp sorted).1 a after))
  have newer : Supersedes preempt b a := by
    by_contra hidden
    exact canStart_excludes contend.symm allowed (mem_visibleTo.mpr ⟨ahead,hidden⟩)
  exact (pass.promoted.stops a member).mpr ⟨front,b,here,ahead,newer⟩

end Passes

theorem runs_queued (ops : List PoolOp) :
    Queued (poolMachine.after .initial ops) (poolMachine.trace .initial ops) :=
  Mealy.history step_queued ⟨initial_ordered,.nil⟩ ops

theorem leaves_deleted {s : PoolState} (distinct : DistinctIds s.pool.contexts) (member : a ∈ s.pool.contexts)
    (gone : a ∉ (s.step op).1.pool.contexts) : ∃ preempt, op = .delete preempt a.contextId := by
  by_contra spared
  exact gone (step_keeps distinct member fun preempt same => spared ⟨preempt,same⟩)

-- Nobody is admitted past an earlier contender still in the pool unless that
-- very plan tells the contender to stop, and Delete is the one way out.
theorem contenders_first_come (ops : List PoolOp) (op : PoolOp) :
    (∀ plan ∈ ((poolMachine.after .initial ops).step op).2, ∀ b ∈ plan.toStart,
      ∀ a ∈ ((poolMachine.after .initial ops).step op).1.pool.contexts,
        ScheduledBefore (ops ++ [op]) a b → Contend a b → plan.Stops a) ∧
    ∀ a ∈ (poolMachine.after .initial ops).pool.contexts,
      a ∉ ((poolMachine.after .initial ops).step op).1.pool.contexts → ∃ preempt, op = .delete preempt a.contextId := by
  have before := runs_queued ops
  refine ⟨?_,fun a member gone => leaves_deleted before.distinct member gone⟩
  intro plan emitted b started a still scheduled contend
  rcases PoolState.step_cases _ op before.distinct with ⟨_,_,none⟩ | ⟨preempt,held,queue,arrived,p,pass⟩
  · rw [none] at emitted
    cases emitted
  · rw [pass.plan] at emitted
    cases List.mem_singleton.mp emitted
    exact earlier_stops pass before started still scheduled.earlier contend

end UserAuth
