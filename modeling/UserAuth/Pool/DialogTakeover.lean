import UserAuth.Pool.PoolRun

namespace UserAuth
open ContextPoolImpl

namespace SudoAuthContext

-- The dialog child as StartWidgetChild parameterises it: PIN only, not primary.
def widgetChild (self : Context) (contextId : UInt64) (now : Nat) : Context where
  ref := 0
  contextId
  createTime := now
  contextType := .widgetAuth
  userId := self.userId
  authType := AuthType.INVALID_AUTH_TYPE
  authTypeList := [AuthType.PIN]
  authIntent := .DEFAULT
  callerName := self.callerName
  isPrimaryContext := false

def storeDialogActive (dialogs : Nat → Bool) (self : Context) : Nat → Bool :=
  fun ref => ref == self.ref || dialogs ref

def notifyDialog (dialogs : Nat → Bool) (s : PoolState) (self : Context) : PoolState × List AdmissionPlan :=
  s.step (.notifyPreemptStateChanged (Context.getPreemptDecision (storeDialogActive dialogs self)))

def launchChildInPool (dialogs : Nat → Bool) (s : PoolState) (child : Context) : PoolState × List AdmissionPlan :=
  s.step (.schedule (Context.getPreemptDecision dialogs) child)

-- One run of StartWidgetChild in a pool with a past. `between` is what other
-- threads do to the pool after the notification and before the child's own
-- Schedule; `later` are the dialog flags by then.
structure WidgetStart where
  history : List PoolOp
  dialogs : Nat → Bool
  self : Context
  childId : UInt64
  now : Nat
  between : List PoolOp
  later : Nat → Bool

namespace WidgetStart

def before (w : WidgetStart) : PoolState := poolMachine.after .initial w.history
def child (w : WidgetStart) : Context := widgetChild w.self w.childId w.now
def notified (w : WidgetStart) : PoolState × List AdmissionPlan := notifyDialog w.dialogs w.before w.self
def atLaunch (w : WidgetStart) : PoolState := poolMachine.after w.notified.1 w.between
def launched (w : WidgetStart) : PoolState × List AdmissionPlan := launchChildInPool w.later w.atLaunch w.child

end WidgetStart
end SudoAuthContext

open SudoAuthContext

-- The notification lets `session` in at the expense of the sudo.
def TakesOver (w : WidgetStart) (session : Context) : Prop :=
  session ∈ w.before.pool.waitingFifo ∧
    ∃ plan ∈ w.notified.2, session ∈ plan.toStart ∧ plan.Stops w.self

def StoppedByLaunch (w : WidgetStart) (session : Context) : Prop := ∃ plan ∈ w.launched.2, plan.Stops session

-- The pool takes no child, or neither the child nor a queued context is newer
-- and collects the session's yield.
def Spared (w : WidgetStart) (session : Context) : Prop :=
  session ∉ w.atLaunch.pool.runningContexts ∨
  w.atLaunch.pool.runningContexts.length + w.atLaunch.pool.waitingFifo.length ≥ MAX_CONTEXT_NUM ∨
  (w.atLaunch.pool.selectLocked w.childId).isSome ∨
  (¬(session.contextType = .widgetAuth ∧ session.createTime < w.now) ∧
    ∀ queued ∈ w.atLaunch.pool.waitingFifo, ¬Supersedes (Context.getPreemptDecision w.later) queued session)

theorem child_supersedes (w : WidgetStart) (session : Context) (ref : Nat) :
    Supersedes (Context.getPreemptDecision w.later) {w.child with ref} session ↔
      session.contextType = .widgetAuth ∧ session.createTime < w.now := by
  have primary : w.child.isPrimaryContext = false := rfl
  have kind : w.child.contextType = .widgetAuth := rfl
  have time : w.child.createTime = w.now := rfl
  unfold Supersedes
  rw [and_comm]
  refine and_congr ?_ (by rw [time])
  have repeated : isSameCallerDuplicate {w.child with ref} session = false := by
    simp [isSameCallerDuplicate,primary]
  rw [repeated]
  cases session_kind : session.contextType <;>
    simp [Context.getPreemptDecision,session_kind,WidgetContext.getPreemptDecision,SudoAuthContext.getPreemptDecision,
      kind,primary]

-- Schedule's plan stops a running context exactly when some context of the
-- queue, the arrival included, supersedes it.
theorem schedule_stops (s : PoolState) (preempt : PreemptAnswers) (context session : Context)
    (distinct : DistinctIds s.pool.contexts) (member : session ∈ s.pool.runningContexts) :
    (∃ plan ∈ (s.step (.schedule preempt context)).2, plan.Stops session) ↔
      s.pool.runningContexts.length + s.pool.waitingFifo.length < MAX_CONTEXT_NUM ∧
      s.pool.selectLocked context.contextId = none ∧
      ∃ waiter ∈ s.pool.waitingFifo ++ [{context with ref:=s.nextRef}], Supersedes preempt waiter session := by
  dsimp only [PoolState.step,schedule]
  by_cases full : s.pool.runningContexts.length + s.pool.waitingFifo.length ≥ MAX_CONTEXT_NUM
  · rw [if_pos full]
    simp [PoolState.settle,Nat.not_lt.mpr full]
  · cases held : s.pool.selectLocked context.contextId with
    | some other => simp [PoolState.settle,full]
    | none =>
      have grown : DistinctIds (s.pool.contexts ++ [{context with ref:=s.nextRef}]) :=
        PoolState.distinct_arrival distinct (PoolState.selectLocked_none held)
      rw [contexts,List.append_assoc] at grown
      have promoted := @promotion_promoted preempt
        {s.pool with waitingFifo:=s.pool.waitingFifo ++ [{context with ref:=s.nextRef}]} grown
      have stops := promoted.stops session (List.mem_append_left _ member)
      simp only [full,if_false,Option.isSome_none,Bool.false_eq_true,PoolState.settle,List.mem_singleton,
        exists_eq_left,promoteWaitingLocked]
      rw [stops]
      constructor
      · intro stopped
        obtain ⟨front,waiter,here,_,newer⟩ := stopped
        exact ⟨by omega,trivial,waiter,here.subset (by simp),newer⟩
      · intro supersedes
        obtain ⟨_,_,waiter,inside,newer⟩ := supersedes
        obtain ⟨front,back,split⟩ := List.append_of_mem inside
        exact ⟨front,waiter,⟨back,by simp [split]⟩,List.mem_append_left _ member,newer⟩

theorem stopped_was_pooled (s : PoolState) (op : PoolOp) (distinct : DistinctIds s.pool.contexts)
    (emitted : plan ∈ (s.step op).2) (stops : plan.Stops context) :
    context ∈ s.pool.contexts ∨ context.ref = s.nextRef := by
  rcases s.step_cases op distinct with ⟨_,_,none⟩ | ⟨preempt,held,queue,arrivals,p,pass⟩
  · simp [none] at emitted
  · rw [pass.plan,List.mem_singleton] at emitted
    subst emitted
    have inside := (pass.promoted.filed _ _ stops).2
    rcases List.mem_append.mp inside with running | queued
    · exact .inl (List.mem_append_left _ (pass.heldFrom.subset running))
    · rcases List.mem_append.mp (pass.queueFrom.subset queued) with waiting | arrived
      · exact .inl (List.mem_append_right _ waiting)
      · exact .inr (pass.fresh context arrived).1

namespace SudoAuthContext.WidgetStart

def opsToLaunch (w : WidgetStart) : List PoolOp :=
  w.history ++ .notifyPreemptStateChanged (Context.getPreemptDecision (storeDialogActive w.dialogs w.self)) :: w.between

theorem atLaunch_run (w : WidgetStart) : w.atLaunch = poolMachine.after .initial w.opsToLaunch := by
  rw [opsToLaunch,Mealy.after_append]
  rfl

theorem notified_emitted (w : WidgetStart) (emitted : plan ∈ w.notified.2) :
    plan ∈ poolMachine.trace .initial w.opsToLaunch := by
  rw [opsToLaunch,Mealy.trace_append,Mealy.trace_cons]
  exact List.mem_append_right _ (List.mem_append_left _ emitted)

end SudoAuthContext.WidgetStart

-- A session that took the window over survives the child's Schedule exactly
-- when it is spared.
theorem takeover_survives (w : WidgetStart) (session : Context) (taken : TakesOver w session) :
    ¬StoppedByLaunch w session ↔ Spared w session := by
  have valid := runs_ordered w.opsToLaunch
  rw [←w.atLaunch_run] at valid
  obtain ⟨_,plan,emitted,started,_⟩ := taken
  have admitted : session ∈ admissions (poolMachine.trace .initial w.opsToLaunch) :=
    List.mem_flatMap.mpr ⟨plan,w.notified_emitted emitted,started⟩
  have known := valid.known session (List.mem_append_left _ admitted)
  by_cases running : session ∈ w.atLaunch.pool.runningContexts
  · have stops := schedule_stops w.atLaunch (Context.getPreemptDecision w.later) w.child session valid.distinct running
    unfold StoppedByLaunch Spared WidgetStart.launched launchChildInPool
    rw [stops]
    have id : w.child.contextId = w.childId := rfl
    have collectors : (∃ waiter ∈ w.atLaunch.pool.waitingFifo ++ [{w.child with ref:=w.atLaunch.nextRef}],
        Supersedes (Context.getPreemptDecision w.later) waiter session) ↔
        (∃ queued ∈ w.atLaunch.pool.waitingFifo, Supersedes (Context.getPreemptDecision w.later) queued session) ∨
          (session.contextType = .widgetAuth ∧ session.createTime < w.now) := by
      rw [←child_supersedes w session w.atLaunch.nextRef]
      simp only [List.mem_append,List.mem_singleton,or_and_right,exists_or,exists_eq_left]
    rw [collectors,id]
    by_cases full : w.atLaunch.pool.runningContexts.length + w.atLaunch.pool.waitingFifo.length ≥ MAX_CONTEXT_NUM
    · exact iff_of_true (fun ⟨room,_⟩ => absurd full (Nat.not_le.mpr room)) (.inr (.inl full))
    · cases held : w.atLaunch.pool.selectLocked w.childId with
      | some other => simp
      | none =>
        simp only [Nat.not_le.mp full,running,full,true_and,not_true_eq_false,Option.isSome_none,Bool.false_eq_true,
          false_or,not_or,not_exists,not_and]
        exact and_comm
  · have gone : ¬StoppedByLaunch w session := by
      rintro ⟨later,launched,stops⟩
      rcases stopped_was_pooled _ _ valid.distinct launched stops with inside | fresh
      · rcases List.mem_append.mp inside with held | waiting
        · exact running held
        · exact (List.nodup_append.mp valid.once).2.2 _ admitted _ waiting rfl
      · omega
    exact iff_of_true gone (.inl running)

-- The sudo of `dialogSudo` raises its dialog with `waiting` queued behind it.
def dialogRises (waiting : Context) : WidgetStart where
  history := [.schedule (Context.getPreemptDecision fun _ => false) dialogSudo,
    .schedule (Context.getPreemptDecision fun _ => false) waiting]
  dialogs := fun _ => false
  self := dialogSudo
  childId := 13
  now := 3
  between := []
  later := storeDialogActive (fun _ => false) dialogSudo

def pinSession : Context :=
  ⟨1,12,2,.simpleAuth,100,AuthType.PIN,[AuthType.PIN],.DEFAULT,"settings",true⟩

theorem pin_session_survives : ¬StoppedByLaunch (dialogRises pinSession) pinSession := by
  have taken : TakesOver (dialogRises pinSession) pinSession := by
    unfold TakesOver AdmissionPlan.Stops
    decide
  refine (takeover_survives _ _ taken).mpr ?_
  unfold Spared
  decide

-- The waiting widget stops the sudo and is stopped by the sudo's own child:
-- its preemption answer looks at the newcomer's type and not at its rank.
theorem takeover_widget_stopped :
    TakesOver (dialogRises takeoverWidget) takeoverWidget ∧
      StoppedByLaunch (dialogRises takeoverWidget) takeoverWidget := by
  unfold TakesOver StoppedByLaunch AdmissionPlan.Stops
  decide

end UserAuth
