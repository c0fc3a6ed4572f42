import UserAuth.Contexts.BaseContext
import UserAuth.Pool.Context
import UserAuth.Widget.WidgetLifecycle

namespace UserAuth

-- What the pool's tasks call through the Context interface. Start and Stop are
-- final in BaseContext and none of its subclasses replaces OnStartFailed.
inductive ContextObject where
  | base (context : BaseContext)
  | widget (session : WidgetContext)
  | scheduleHolder

-- What is left open while a context's own code runs: the surroundings of a
-- widget session, and what the other contexts' OnStart and OnStop come to.
structure Answers where
  env : WidgetContext.Env
  started : Bool
  latestError : ResultCode
  reports : List ResultCode

namespace WidgetContext

def Output.callerResult : Output → Option ResultCode
  | .onResult resultCode _ => some resultCode
  | _ => none

def callerResults (outputs : List Output) : List ResultCode := outputs.filterMap Output.callerResult

theorem callerResults_append (xs ys : List Output) : callerResults (xs ++ ys) = callerResults xs ++ callerResults ys :=
  List.filterMap_append

theorem callerResults_delivery (s : WidgetContext) (resultCode : ResultCode) (attr : Attributes) :
    callerResults (deliverResultLocked s resultCode attr) = [resultCode] := by
  unfold deliverResultLocked
  split <;> rfl

end WidgetContext

namespace ContextObject
open WidgetContext.Phase

def create (contextType : ContextType) (session : WidgetContext) : ContextObject :=
  match contextType with
  | .widgetAuth => .widget session
  | .scheduleHolder => .scheduleHolder
  | _ => .base {}

-- What a call of Start comes to. A widget session that was stopped first
-- absorbs it, and a schedule holder needs none.
inductive StartAnswer where
  | onStart
  | done
  | absorbed
  | refused
  deriving DecidableEq,Repr

def StartAnswer.Starts (answer : StartAnswer) : Prop := answer = .onStart ∨ answer = .done

instance (answer : StartAnswer) : Decidable answer.Starts := by unfold StartAnswer.Starts; infer_instance

def start : ContextObject → ContextObject × StartAnswer
  | .base context => (.base context.start.1,if context.start.2 then .onStart else .refused)
  | .widget session =>
    (.widget (WidgetContext.start session).1,
      if session.phase == NOT_STARTED then .onStart
      else if (WidgetContext.start session).2 then .absorbed else .refused)
  | .scheduleHolder => (.scheduleHolder,.done)

def absorbAnswers (context : BaseContext) (answers : Answers) : ContextObject :=
  .base {context with latestError:=setLatestError context.latestError answers.latestError}

-- The body, whether it was done, and the results it reported meanwhile.
def onStart (answers : Answers) : ContextObject → ContextObject × Bool × List ResultCode
  | .base context => (absorbAnswers context answers,answers.started,answers.reports)
  | .widget session =>
    let body := WidgetContext.onStart answers.env {session with starting:=false}
    (.widget body.1.1,body.2,WidgetContext.callerResults body.1.2)
  | .scheduleHolder => (.scheduleHolder,true,[])

def getLatestError : ContextObject → ResultCode
  | .base context => context.latestError
  | .widget session => session.latestError
  | .scheduleHolder => ResultCode.SUCCESS

def onStartFailed (errorCode : ResultCode) : ContextObject → ContextObject × List ResultCode
  | .base context => (.base (context.onStartFailed errorCode).1,(context.onStartFailed errorCode).2.toList)
  | .widget session =>
    let failed := WidgetContext.onStartFailed session errorCode
    (.widget failed.1,WidgetContext.callerResults failed.2)
  | .scheduleHolder => (.scheduleHolder,[])

-- Stop up to its call of OnStartFailed, which follows where the answer is true.
-- Otherwise OnStop has run and has reported what it did.
def stop (answers : Answers) : ContextObject → ContextObject × Bool × List ResultCode
  | .base context =>
    match context.stop with
    | (context,.alreadyRequested) => (.base context,false,[])
    | (context,.beforeStart) => (.base context,true,[])
    | (context,.onStop) => (absorbAnswers context answers,false,answers.reports)
  | .widget session =>
    let stopped := WidgetContext.stop answers.env session
    (.widget stopped.1,session.phase == NOT_STARTED,WidgetContext.callerResults stopped.2)
  | .scheduleHolder => (.scheduleHolder,false,[])

-- Anything a context does outside the pool's tasks. Its schedules, children,
-- timers and connections call back, and only OnStart sets these up.
def callback (answers : Answers) (call : WidgetContext.Call) : ContextObject → ContextObject × List ResultCode
  | .base context => if context.hasStarted then (absorbAnswers context answers,answers.reports) else (.base context,[])
  | .widget session =>
    if session.schedule then
      let called := WidgetContext.step session ⟨call,answers.env⟩
      (.widget called.1,WidgetContext.callerResults called.2)
    else (.widget session,[])
  | .scheduleHolder => (.scheduleHolder,[])

-- A schedule holder is made for no caller.
def hasCaller : ContextObject → Bool
  | .scheduleHolder => false
  | _ => true

end ContextObject

-- Where a context stands between its start and its stop, whatever its class.
inductive Seat where
  | free
  | started
  | stopping
  | answered
  deriving DecidableEq,Repr

namespace ContextObject
open WidgetContext.Phase

def Sits : ContextObject → Seat → Prop
  | .base context,.free => context.hasStarted = false ∧ context.stopRequested = false ∧ context.startFailDelivered = false
  | .base context,.started => context.hasStarted = true
  | .base context,.stopping => context.hasStarted = false ∧ context.stopRequested = true ∧ context.startFailDelivered = false
  | .base context,.answered => context.hasStarted = false ∧ context.stopRequested = true ∧ context.startFailDelivered = true
  | .widget session,.free => session.phase = NOT_STARTED ∧ session.schedule = false
  | .widget session,.started => session.phase ≠ NOT_STARTED
  | .widget session,.stopping => session.phase = STOPPING ∧ session.schedule = false
  | .widget session,.answered => session.phase = RELEASED ∧ session.schedule = false
  | .scheduleHolder,_ => True

theorem create_sits (contextType : ContextType) (para : ContextFactory.AuthWidgetContextPara)
    (modalCallback remoteAuthCallback : Bool) :
    (create contextType (WidgetContext.create para modalCallback remoteAuthCallback)).Sits .free := by
  cases contextType <;> trivial

theorem create_caller (contextType : ContextType) (session : WidgetContext) :
    (create contextType session).hasCaller = decide (contextType ≠ .scheduleHolder) := by
  cases contextType <;> rfl

@[simp] theorem start_caller (object : ContextObject) : object.start.1.hasCaller = object.hasCaller := by
  cases object <;> rfl

@[simp] theorem onStart_caller (answers : Answers) (object : ContextObject) :
    (object.onStart answers).1.hasCaller = object.hasCaller := by cases object <;> rfl

@[simp] theorem onStartFailed_caller (errorCode : ResultCode) (object : ContextObject) :
    (object.onStartFailed errorCode).1.hasCaller = object.hasCaller := by cases object <;> rfl

@[simp] theorem stop_caller (answers : Answers) (object : ContextObject) :
    (object.stop answers).1.hasCaller = object.hasCaller := by
  cases object with
  | base context =>
    simp only [stop]
    split <;> rfl
  | widget => rfl
  | scheduleHolder => rfl

@[simp] theorem callback_caller (answers : Answers) (call : WidgetContext.Call) (object : ContextObject) :
    (object.callback answers call).1.hasCaller = object.hasCaller := by
  cases object with
  | base context =>
    simp only [callback]
    split <;> rfl
  | widget session =>
    simp only [callback]
    split <;> rfl
  | scheduleHolder => rfl

theorem moves_on {s : WidgetContext} {outcome : WidgetContext.Outcome} (counts : WidgetContext.Counts s outcome)
    (begun : s.phase ≠ NOT_STARTED) : outcome.1.phase ≠ NOT_STARTED := by
  intro back
  have forward : s.phase.rank ≤ outcome.1.phase.rank := counts.forward
  rw [back] at forward
  exact begun (WidgetContext.Phase.rank_injective (Nat.le_zero.mp forward))

theorem start_free (object : ContextObject) (sits : object.Sits .free) : object.start.2.Starts := by
  cases object with
  | base context => exact .inl (by simp [start,BaseContext.start,sits.1,sits.2.1])
  | widget session => exact .inl (by simp [start,sits.1])
  | scheduleHolder => exact .inr rfl

-- OnStart only ever runs from the seat that is free.
theorem onStart_from_free (object : ContextObject) (seat : Seat) (sits : object.Sits seat)
    (granted : object.start.2 = .onStart) : seat = .free := by
  cases object with
  | base context =>
    simp only [start,BaseContext.start] at granted
    cases seat with
    | free => rfl
    | started => simp [show context.hasStarted = true from sits] at granted
    | stopping => simp [sits.1,sits.2.1] at granted
    | answered => simp [sits.1,sits.2.1] at granted
  | widget session =>
    have fresh : session.phase = NOT_STARTED := by
      by_contra begun
      simp only [start,beq_iff_eq,begun,if_false] at granted
      split at granted <;> cases granted
    cases seat with
    | free => rfl
    | started => exact absurd fresh sits
    | stopping => exact absurd (fresh.symm.trans sits.1) (by decide)
    | answered => exact absurd (fresh.symm.trans sits.1) (by decide)
  | scheduleHolder => cases granted

theorem start_starts (object : ContextObject) (starts : object.start.2.Starts) : object.start.1.Sits .started := by
  cases object with
  | base context =>
    cases begun : context.hasStarted with
    | true => simp [start,BaseContext.start,begun,Sits]
    | false =>
      cases asked : context.stopRequested with
      | true => simp [start,BaseContext.start,begun,asked,StartAnswer.Starts] at starts
      | false => simp [start,BaseContext.start,begun,asked,Sits]
  | widget session =>
    by_cases fresh : session.phase = NOT_STARTED
    · have taken : WidgetContext.advancePhaseLocked session RUNNING = ({session with phase:=RUNNING},true) :=
        WidgetContext.advance_taken (by simp [fresh])
      simp [start,WidgetContext.start,fresh,taken,Sits]
    · have moves : WidgetContext.Moves .any session ((WidgetContext.start session).1,[]) := WidgetContext.start_moves
      exact moves_on moves.toCounts fresh
  | scheduleHolder => trivial

theorem start_again (object : ContextObject) (seat : Seat) (sits : object.Sits seat) (begun : seat ≠ .free) :
    object.start.1.Sits seat := by
  cases object with
  | base context =>
    cases seat with
    | free => exact absurd rfl begun
    | started => simpa [start,BaseContext.start,show context.hasStarted = true from sits] using sits
    | stopping => simp [start,BaseContext.start,Sits,sits.1,sits.2.1,sits.2.2]
    | answered => simp [start,BaseContext.start,Sits,sits.1,sits.2.1,sits.2.2]
  | widget session =>
    have late : seat ≠ .started → session.phase ≠ NOT_STARTED ∧ STOPPING.rank ≤ session.phase.rank := by
      intro apart
      cases seat with
      | free => exact absurd rfl begun
      | started => exact absurd rfl apart
      | stopping => simp [show session.phase = STOPPING from sits.1]
      | answered => simp [show session.phase = RELEASED from sits.1]
    by_cases same : seat = .started
    · subst same
      have moves : WidgetContext.Moves .any session ((WidgetContext.start session).1,[]) := WidgetContext.start_moves
      exact moves_on moves.toCounts sits
    · obtain ⟨begun,reached⟩ := late same
      have absorbed : WidgetContext.start session = (session,true) := by
        simp only [WidgetContext.start,bne_iff_ne,ne_eq,begun,not_false_eq_true,if_true]
        exact if_pos reached
      simpa only [start,absorbed] using sits
  | scheduleHolder => trivial

theorem onStart_started (answers : Answers) (object : ContextObject) (sits : object.Sits .started) :
    (object.onStart answers).1.Sits .started := by
  cases object with
  | base => exact sits
  | widget session =>
    have moves : WidgetContext.Moves .any {session with starting:=false}
        (WidgetContext.onStart answers.env {session with starting:=false}).1 := WidgetContext.onStart_moves
    exact moves_on moves.toCounts sits
  | scheduleHolder => trivial

theorem onStartFailed_started (errorCode : ResultCode) (object : ContextObject) (sits : object.Sits .started) :
    (object.onStartFailed errorCode).1.Sits .started := by
  cases object with
  | base context =>
    simp only [onStartFailed,BaseContext.onStartFailed]
    split <;> exact sits
  | widget session =>
    have moves : WidgetContext.Moves .any session (WidgetContext.onStartFailed session errorCode) :=
      WidgetContext.onStartFailed_moves errorCode
    exact moves_on moves.toCounts sits
  | scheduleHolder => trivial

theorem onStartFailed_stopping (errorCode : ResultCode) (object : ContextObject) (sits : object.Sits .stopping) :
    (object.onStartFailed errorCode).1.Sits .answered ∧
      (object.onStartFailed errorCode).2 = if object.hasCaller then [errorCode] else [] := by
  cases object with
  | base context =>
    simp [onStartFailed,BaseContext.onStartFailed,Sits,hasCaller,sits.1,sits.2.1,sits.2.2]
  | widget session =>
    have advanced : WidgetContext.advancePhaseLocked session RESULT_DELIVERED = ({session with phase:=RESULT_DELIVERED},true) :=
      WidgetContext.advance_taken (by simp [show session.phase = STOPPING from sits.1])
    have live : ({session with phase:=RESULT_DELIVERED} : WidgetContext).phase ≠ RELEASED := by simp
    have late : ¬({session with phase:=RESULT_DELIVERED} : WidgetContext).phase < RESULT_DELIVERED := by simp
    simp only [onStartFailed,WidgetContext.onStartFailed,advanced,Bool.not_true,Bool.false_eq_true,if_false,
      Mealy.andThen,WidgetContext.endLocked_open live,if_neg late,WidgetContext.callerResults_append,
      WidgetContext.callerResults_delivery]
    exact ⟨⟨rfl,sits.2⟩,rfl⟩
  | scheduleHolder => exact ⟨trivial,rfl⟩

theorem onStartFailed_answered (errorCode : ResultCode) (object : ContextObject) (sits : object.Sits .answered) :
    (object.onStartFailed errorCode).1.Sits .answered ∧ (object.onStartFailed errorCode).2 = [] := by
  cases object with
  | base context => simp [onStartFailed,BaseContext.onStartFailed,Sits,sits.1,sits.2.1,sits.2.2]
  | widget session =>
    have refused : WidgetContext.advancePhaseLocked session RESULT_DELIVERED = (session,false) :=
      WidgetContext.advance_refused (by simp [show session.phase = RELEASED from sits.1])
    simp only [onStartFailed,WidgetContext.onStartFailed,refused]
    exact ⟨sits,rfl⟩
  | scheduleHolder => exact ⟨trivial,rfl⟩

theorem stop_free (answers : Answers) (object : ContextObject) (sits : object.Sits .free) :
    (object.stop answers).1.Sits .stopping ∧ (object.stop answers).2 = (object.hasCaller,[]) := by
  cases object with
  | base context => simp [stop,BaseContext.stop,Sits,hasCaller,sits.1,sits.2.1,sits.2.2]
  | widget session =>
    have advanced : WidgetContext.advancePhaseLocked session STOPPING = ({session with phase:=STOPPING},true) :=
      WidgetContext.advance_taken (by simp [show session.phase = NOT_STARTED from sits.1])
    simp only [stop,WidgetContext.stop,sits.1,beq_self_eq_true,if_true,advanced]
    exact ⟨⟨rfl,sits.2⟩,rfl⟩
  | scheduleHolder => exact ⟨trivial,rfl⟩

theorem stop_answered (answers : Answers) (object : ContextObject) (sits : object.Sits .answered) :
    (object.stop answers).1.Sits .answered ∧ (object.stop answers).2 = (false,[]) := by
  cases object with
  | base context => simp [stop,BaseContext.stop,Sits,sits.1,sits.2.1,sits.2.2]
  | widget session =>
    have ended : STOPPING ≤ session.phase := by simp [show session.phase = RELEASED from sits.1]
    have apart : (session.phase == NOT_STARTED) = false := by rw [sits.1]; rfl
    simp only [stop,WidgetContext.stop,apart,Bool.false_eq_true,if_false,WidgetContext.onStop,
      WidgetContext.endWith_ended answers.env ended,Mealy.andThen]
    exact ⟨sits,rfl⟩
  | scheduleHolder => exact ⟨trivial,rfl⟩

theorem stop_started (answers : Answers) (object : ContextObject) (sits : object.Sits .started) :
    (object.stop answers).1.Sits .started ∧ (object.stop answers).2.1 = false := by
  cases object with
  | base context =>
    have begun : context.hasStarted = true := sits
    simp [stop,BaseContext.stop,absorbAnswers,Sits,begun]
  | widget session =>
    have counts : WidgetContext.Counts session (WidgetContext.stop answers.env session) :=
      (WidgetContext.step_counts session ⟨.stop,answers.env⟩).toCounts
    exact ⟨moves_on counts sits,beq_eq_false_iff_ne.mpr sits⟩
  | scheduleHolder => exact ⟨trivial,rfl⟩

theorem callback_started (answers : Answers) (call : WidgetContext.Call) (object : ContextObject)
    (sits : object.Sits .started) : (object.callback answers call).1.Sits .started := by
  cases object with
  | base context =>
    simp only [callback]
    split <;> exact sits
  | widget session =>
    simp only [callback]
    split
    · exact moves_on (WidgetContext.step_counts session ⟨call,answers.env⟩).toCounts sits
    · exact sits
  | scheduleHolder => trivial

theorem callback_idle (answers : Answers) (call : WidgetContext.Call) (object : ContextObject) (seat : Seat)
    (sits : object.Sits seat) (idle : seat ≠ .started) : object.callback answers call = (object,[]) := by
  cases object with
  | base context =>
    have unstarted : context.hasStarted = false := by
      cases seat with
      | started => exact absurd rfl idle
      | _ => exact sits.1
    simp [callback,unstarted]
  | widget session =>
    have bare : session.schedule = false := by
      cases seat with
      | started => exact absurd rfl idle
      | _ => exact sits.2
    simp [callback,bare]
  | scheduleHolder => rfl

end ContextObject
end UserAuth
