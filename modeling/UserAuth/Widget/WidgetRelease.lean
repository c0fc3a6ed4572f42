import UserAuth.Widget.WidgetScheduleNode

namespace UserAuth
open WidgetContext WidgetScheduleNode

-- A session with the number of times its schedule has called the callback's
-- ClearSchedule.
structure WidgetReleaseRun where
  session : WidgetSession
  cleared : Nat := 0

namespace WidgetSession

-- The rows whose action is OnWidgetRelease.
def clearsSchedule : State → Event → Bool
  | .S_WIDGET_PARAM_WAITING,_ => false
  | .S_WIDGET_RELEASED,_ => false
  | _,.E_WIDGET_RELEASE => true
  | _,_ => false

-- The event that a turn takes up.
def taken (s : WidgetSession) : Input → Option Event
  | .scheduleInner _ => s.pendingEvents.head?
  | _ => none

section Rows

-- No other action leaves this owner's context released.
def parent : Owner where
  context := {para:=pinPara,phase:=.RUNNING,activeChildCount:=1}

theorem clearsSchedule_iff :
    clearsSchedule state event = true ↔ ∃ next, transitionMap state event = some (next,onWidgetRelease) := by
  constructor
  · intro clears
    cases state <;> cases event <;> first | exact ⟨_,rfl⟩ | cases clears
  · intro ⟨next,row⟩
    have only : ∀ action, transitionMap state event = some (next,action) →
        (action fairEnv parent).1.context.scheduleReleased = true → clearsSchedule state event = true := by
      intro action found released
      unfold transitionMap at found
      split at found <;> cases found <;> first | rfl | exact absurd released (by decide)
    exact only _ row (by decide)

-- The schedule is released on OnWidgetRelease, and on a cancel while it waits
-- for its parameters.
theorem released_row (found : transitionMap state event = some (.S_WIDGET_RELEASED,action)) :
    clearsSchedule state event = true ∨ (state = .S_WIDGET_PARAM_WAITING ∧ event = .E_CANCEL_AUTH) := by
  cases state <;> cases event <;> first | exact .inl rfl | exact .inr ⟨rfl,rfl⟩ | cases found

theorem clears_releases (clears : clearsSchedule state event = true) :
    ∃ action, transitionMap state event = some (.S_WIDGET_RELEASED,action) := by
  cases state <;> cases event <;> first | exact ⟨_,rfl⟩ | cases clears

end Rows

section Turns
variable {s : WidgetSession}

theorem turn_acts (env : WidgetContext.Env) (pending : s.pendingEvents = event :: rest)
    (found : transitionMap s.currentState event = some (next,action)) :
    step s (.scheduleInner env) =
      (⟨next,rest ++ (action env s.owner).2.1,(action env s.owner).1⟩,(action env s.owner).2.2) := by
  rw [step,FiniteStateMachineImpl.scheduleInner_taken table env s pending found]
  unfold FiniteStateMachineImpl.enter
  split
  · simp
  · simp [table,FiniteStateMachineImpl.noAction]

theorem turn_drops (env : WidgetContext.Env) (pending : s.pendingEvents = event :: rest)
    (missing : transitionMap s.currentState event = none) :
    step s (.scheduleInner env) = ({s with pendingEvents:=rest},[]) :=
  FiniteStateMachineImpl.scheduleInner_dropped table env s pending missing

theorem turn_idles (env : WidgetContext.Env) (idle : s.pendingEvents = []) : step s (.scheduleInner env) = (s,[]) :=
  FiniteStateMachineImpl.scheduleInner_idle table env s idle

theorem turn_state (env : WidgetContext.Env) (pending : s.pendingEvents = event :: rest) :
    (step s (.scheduleInner env)).1.currentState =
      ((transitionMap s.currentState event).map Prod.fst).getD s.currentState := by
  cases found : transitionMap s.currentState event with
  | none =>
    rw [turn_drops env pending found]
    rfl
  | some transition =>
    rw [turn_acts env pending found]
    rfl

-- Only a turn that takes an event up moves the schedule.
theorem step_state (untaken : s.taken input = none) : (step s input).1.currentState = s.currentState := by
  cases input with
  | scheduleInner env =>
    rw [turn_idles env (List.head?_eq_none_iff.mp untaken)]
  | _ => rfl

theorem taken_state (found : s.taken input = some event) :
    (step s input).1.currentState = ((transitionMap s.currentState event).map Prod.fst).getD s.currentState := by
  cases input with
  | scheduleInner env =>
    obtain ⟨rest,pending⟩ := List.head?_eq_some_iff.mp found
    exact turn_state env pending
  | _ => cases found

end Turns
end WidgetSession

namespace WidgetReleaseRun
open WidgetSession

inductive Input where
  | session (input : WidgetSession.Input)
  -- Any event, whoever queues it.
  | event (event : Event)

def taken (s : WidgetReleaseRun) : Input → Option Event
  | .session input => s.session.taken input
  | .event _ => none

def step (s : WidgetReleaseRun) : Input → WidgetReleaseRun × List Output
  | .session input =>
    let moved := WidgetSession.step s.session input
    let clears := (s.session.taken input).any fun event => clearsSchedule s.session.currentState event
    (⟨moved.1,if clears then s.cleared + 1 else s.cleared⟩,moved.2)
  | .event event => ({s with session:=s.session.schedule event},[])

def machine : Mealy WidgetReleaseRun Input Output := ⟨step⟩

def create (context : WidgetContext) : WidgetReleaseRun := ⟨WidgetSession.create context,0⟩

def ToldOnce (s : WidgetReleaseRun) : Prop := s.session.currentState = .S_WIDGET_RELEASED → s.cleared = 1

def ReleaseHeeded (s : WidgetReleaseRun) (input : Input) : Prop :=
  s.taken input = some .E_WIDGET_RELEASE → (step s input).1.session.currentState = .S_WIDGET_RELEASED

-- The schedule is cancelled, or asked for its release, while it waits for the
-- parameters of a remote widget.
def EndedWaiting (s : WidgetReleaseRun) (input : Input) : Prop :=
  s.session.currentState = .S_WIDGET_PARAM_WAITING ∧
    (s.taken input = some .E_CANCEL_AUTH ∨ s.taken input = some .E_WIDGET_RELEASE)

section Steps
variable {s : WidgetReleaseRun}

def Counted (s : WidgetReleaseRun) : Prop :=
  s.cleared = if s.session.currentState = .S_WIDGET_RELEASED then 1 else 0

theorem untaken_keeps (untaken : s.taken input = none) :
    (step s input).1.session.currentState = s.session.currentState ∧ (step s input).1.cleared = s.cleared := by
  cases input with
  | session input =>
    have none : s.session.taken input = none := untaken
    refine ⟨step_state none,?_⟩
    simp [step,none]
  | event => exact ⟨rfl,rfl⟩

theorem taken_moves (found : s.taken input = some event) :
    (step s input).1.session.currentState =
        ((transitionMap s.session.currentState event).map Prod.fst).getD s.session.currentState ∧
      (step s input).1.cleared = if clearsSchedule s.session.currentState event then s.cleared + 1 else s.cleared := by
  cases input with
  | session input =>
    have some : s.session.taken input = some event := found
    refine ⟨taken_state some,?_⟩
    simp [step,some]
  | event => cases found

theorem released_stays (released : s.session.currentState = .S_WIDGET_RELEASED) (input : Input) :
    (step s input).1.session.currentState = .S_WIDGET_RELEASED ∧ (step s input).1.cleared = s.cleared := by
  cases found : s.taken input with
  | none =>
    obtain ⟨state,cleared⟩ := untaken_keeps found
    exact ⟨state.trans released,cleared⟩
  | some event =>
    obtain ⟨state,cleared⟩ := taken_moves found
    rw [released] at state cleared
    exact ⟨state,cleared⟩

theorem run_released (released : s.session.currentState = .S_WIDGET_RELEASED) (inputs : List Input) :
    (machine.after s inputs).session.currentState = .S_WIDGET_RELEASED ∧ (machine.after s inputs).cleared = s.cleared := by
  induction inputs generalizing s with
  | nil => exact ⟨released,rfl⟩
  | cons input rest ih =>
    obtain ⟨state,cleared⟩ := released_stays released input
    obtain ⟨final,kept⟩ := ih state
    exact ⟨final,kept.trans cleared⟩

theorem counted_step (counted : Counted s) (fair : ¬EndedWaiting s input) : Counted (step s input).1 := by
  unfold Counted at counted ⊢
  cases found : s.taken input with
  | none =>
    obtain ⟨state,cleared⟩ := untaken_keeps found
    rw [state,cleared,counted]
  | some event =>
    obtain ⟨state,cleared⟩ := taken_moves found
    by_cases clears : clearsSchedule s.session.currentState event = true
    · obtain ⟨action,row⟩ := clears_releases clears
      have live : s.session.currentState ≠ .S_WIDGET_RELEASED := by
        intro released
        rw [released] at clears
        cases clears
      rw [cleared,if_pos clears,counted,if_neg live,state,row]
      rfl
    · rw [cleared,if_neg clears,counted]
      cases row : transitionMap s.session.currentState event with
      | none =>
        rw [state,row]
        rfl
      | some transition =>
        obtain ⟨next,action⟩ := transition
        have moved : (step s input).1.session.currentState = next := by rw [state,row]; rfl
        have live : s.session.currentState ≠ .S_WIDGET_RELEASED := by
          intro released
          rw [released] at row
          cases row
        have unreleased : next ≠ .S_WIDGET_RELEASED := by
          rintro rfl
          rcases released_row row with released | ⟨waiting,rfl⟩
          · exact clears released
          · exact fair ⟨waiting,.inl found⟩
        rw [moved,if_neg live,if_neg unreleased]

theorem heeded_step (fair : ¬EndedWaiting s input) : ReleaseHeeded s input := by
  intro found
  obtain ⟨state,_⟩ := taken_moves found
  rw [state]
  have waited : s.session.currentState ≠ .S_WIDGET_PARAM_WAITING := fun waiting => fair ⟨waiting,.inr found⟩
  cases current : s.session.currentState <;> first | rfl | exact absurd current waited

-- Ended so, the schedule either takes no notice of the release or reaches its
-- last state without a word to the callback.
theorem ended_untold (counted : Counted s) (ended : EndedWaiting s input) (inputs : List Input) :
    ¬(ToldOnce (machine.after (step s input).1 inputs) ∧ ReleaseHeeded s input) := by
  intro ⟨told,heeded⟩
  obtain ⟨waiting,cancel | release⟩ := ended
  · obtain ⟨state,cleared⟩ := taken_moves cancel
    rw [waiting] at state cleared
    obtain ⟨final,kept⟩ := run_released state inputs
    have once := told final
    rw [kept,cleared,counted,waiting] at once
    cases once
  · obtain ⟨state,_⟩ := taken_moves release
    rw [heeded release,waiting] at state
    cases state

end Steps

theorem told_iff {s : WidgetReleaseRun} (counted : Counted s) (inputs : List Input) :
    (ToldOnce (machine.after s inputs) ∧ machine.Meets ReleaseHeeded s inputs) ↔
      machine.Meets (fun s input => ¬EndedWaiting s input) s inputs := by
  induction inputs generalizing s with
  | nil =>
    refine iff_of_true ⟨fun released => ?_,trivial⟩ trivial
    exact counted.trans (if_pos released)
  | cons input rest ih =>
    by_cases ended : EndedWaiting s input
    · refine iff_of_false ?_ fun fair => fair.1 ended
      exact fun ⟨told,heeded⟩ => ended_untold counted ended rest ⟨told,heeded.1⟩
    · have later := ih (counted_step counted ended)
      rw [Mealy.meets_cons,Mealy.meets_cons,and_iff_right ended,and_iff_right (heeded_step ended)]
      exact later

theorem release_told_iff (context : WidgetContext) (inputs : List Input) :
    (ToldOnce (machine.after (create context) inputs) ∧ machine.Meets ReleaseHeeded (create context) inputs) ↔
      machine.Meets (fun s input => ¬EndedWaiting s input) (create context) inputs := by
  have counted : Counted (create context) := rfl
  exact told_iff counted inputs

-- The caller stops a remote session that has asked for its widget's parameters.
def stopWaiting (env : WidgetContext.Env) : List Input :=
  [.session (.context .start env),.session (.context .onStart env),.session (.scheduleInner env),
    .session (.context .stop env),.session (.scheduleInner env)]

theorem stopped_waiting_untold :
    ¬ToldOnce (machine.after (create (WidgetContext.create pinPara false true)) (stopWaiting fairEnv)) := by
  intro told
  exact absurd (told (by decide)) (by decide)

end WidgetReleaseRun
end UserAuth
