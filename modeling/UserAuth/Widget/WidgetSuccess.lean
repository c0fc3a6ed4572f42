import UserAuth.Widget.WidgetRequests

namespace UserAuth
open WidgetContext WidgetScheduleNode

namespace WidgetSession

-- The type that a turn hands to the callback's OnAuthSuccess.
def successReport (s : WidgetSession) (input : Input) : Option AuthType :=
  if s.currentState = .S_WIDGET_AUTH_RUNNING ∧ s.taken input = some .E_COMPLETE_AUTH then some s.owner.node.successAuthType
  else none

-- It is OnSuccessAuth that makes the report, and no other row runs it.
theorem success_row : transitionMap state .E_COMPLETE_AUTH =
    if state = .S_WIDGET_AUTH_RUNNING then some (.S_WIDGET_AUTH_FINISHED,onSuccessAuth) else none := by
  cases state <;> rfl

end WidgetSession

namespace WidgetRequestRun
open WidgetRequest WidgetSession

-- States in which the widget is up, or about to be up again.
def liveState (state : State) : Bool :=
  state == .S_WIDGET_WAITING || state == .S_WIDGET_AUTH_RUNNING || state == .S_WIDGET_RELOAD_WAITING

def SuccessTaken (s : WidgetRequestRun) (env : WidgetContext.Env) : Prop :=
  s.due (.session (.scheduleInner env)) = some .E_COMPLETE_AUTH ∧ liveState s.session.currentState = true

-- The schedule ends on the child's success, with that success reported.
def Heard (s : WidgetRequestRun) : Input → Prop
  | .session (.scheduleInner env) => s.SuccessTaken env →
    ∃ authType, s.waiting.head? = some (.success authType) ∧
      let next := step s (.session (.scheduleInner env))
      next.1.session.currentState = .S_WIDGET_AUTH_FINISHED ∧
        s.session.successReport (.scheduleInner env) = some authType ∧
        next.1.session.owner.context = (onAuthSuccess env s.session.owner.context).1 ∧
        (onAuthSuccess env s.session.owner.context).2 ⊆ next.2
  | _ => True

-- The success comes up while the widget is not running, or another success has
-- been written over it.
def Unheard (s : WidgetRequestRun) : Input → Prop
  | .session (.scheduleInner env) => s.SuccessTaken env ∧
    (s.session.currentState ≠ .S_WIDGET_AUTH_RUNNING ∨
      s.waiting.head? ≠ some (.success s.session.owner.node.successAuthType))
  | _ => False

section Steps
variable {s : WidgetRequestRun} {env : WidgetContext.Env}

theorem success_turn (aligned : Aligned s) (taken : s.SuccessTaken env) :
    ∃ authType rest later, s.waiting = .success authType :: rest ∧ s.session.pendingEvents = .E_COMPLETE_AUTH :: later := by
  obtain ⟨request,rest,waiting,same,later,pending⟩ := aligned_due aligned taken.1
  cases request with
  | success authType => exact ⟨authType,rest,later,waiting,pending⟩
  | _ => cases same

theorem heard_iff (aligned : Aligned s) (input : Input) : Heard s input ↔ ¬Unheard s input := by
  cases input with
  | session input =>
    cases input with
    | scheduleInner env =>
      constructor
      · rintro heard ⟨taken,lost⟩
        obtain ⟨authType,head,_,report,_⟩ := heard taken
        unfold successReport at report
        split at report
        · rename_i running
          refine lost.elim (fun elsewhere => elsewhere running.1) fun overwritten => overwritten ?_
          rw [head,Option.some.inj report]
        · cases report
      · intro kept taken
        obtain ⟨authType,rest,later,waiting,pending⟩ := success_turn aligned taken
        have running : s.session.currentState = .S_WIDGET_AUTH_RUNNING := by
          by_contra elsewhere
          exact kept ⟨taken,.inl elsewhere⟩
        have own : s.waiting.head? = some (.success s.session.owner.node.successAuthType) := by
          by_contra overwritten
          exact kept ⟨taken,.inr overwritten⟩
        have row : transitionMap s.session.currentState .E_COMPLETE_AUTH = some (.S_WIDGET_AUTH_FINISHED,onSuccessAuth) := by
          rw [running]
          rfl
        have turn := turn_acts env pending row
        have next : (step s (.session (.scheduleInner env))).1.session.owner = (onSuccessAuth env s.session.owner).1 := by
          simp only [step,Input.toSession,turn]
        have outputs : (step s (.session (.scheduleInner env))).2 = (onSuccessAuth env s.session.owner).2.2 := by
          simp only [step,Input.toSession,turn]
        refine ⟨s.session.owner.node.successAuthType,own,?_,?_,?_,?_⟩
        · simp only [step,Input.toSession,turn]
        · exact if_pos ⟨running,by simp [WidgetSession.taken,pending]⟩
        · rw [next]
          exact (route_keeps _ _).1
        · rw [outputs]
          exact route_sends _ _
    | _ => exact iff_of_true trivial not_false
  | result => exact iff_of_true trivial not_false

end Steps

theorem successes_heard_iff (context : WidgetContext) (inputs : List Input) :
    machine.Meets Heard (create context) inputs ↔
      machine.Meets (fun s input => ¬Unheard s input) (create context) inputs := by
  have created : Aligned (create context) := rfl
  exact Mealy.meets_congr (m:=machine) (Q:=Aligned) (fun s input aligned => (step_waiting aligned input).1)
    (fun s input aligned => heard_iff aligned input) created inputs

-- The child succeeds while the widget's reload is on its way.
def succeedsWhileReloading (env : WidgetContext.Env) : List Input :=
  [.session (.context .start env),.session (.context .onStart env),.session (.scheduleInner env),
    .session (.notice {event:=.NOTICE_EVENT_AUTH_READY} [AuthType.PIN]),.session (.scheduleInner env),
    .session (.notice {event:=.NOTICE_EVENT_RELOAD} [AuthType.PIN]),.result 0 ResultCode.SUCCESS Attributes.empty env,
    .session (.scheduleInner env)]

theorem success_dropped : ¬machine.Meets Heard (create pinSession)
    (succeedsWhileReloading fairEnv ++ [.session (.scheduleInner fairEnv)]) := by
  intro met
  have heard := ((Mealy.meets_append machine Heard _ _ _).mp met).2.1
  obtain ⟨authType,_,finished,_⟩ := heard ⟨by decide +kernel,by decide +kernel⟩
  exact absurd finished (by decide +kernel)

end WidgetRequestRun
end UserAuth
