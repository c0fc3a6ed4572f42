import UserAuth.Widget.WidgetTasks

namespace UserAuth
open WidgetContext WidgetScheduleNode

namespace WidgetContext

theorem stopAuthList_sends (s : WidgetContext) (authTypeList : List AuthType)
    (member : .poolCancel taskId ∈ (stopAuthList s authTypeList).2) :
    ∃ taskInfo ∈ s.runTaskInfoList, taskInfo.authType ∈ authTypeList ∧ taskInfo.taskId = taskId := by
  induction authTypeList generalizing s with
  | nil => cases member
  | cons authType rest ih =>
    unfold stopAuthList at member
    split at member
    · obtain ⟨taskInfo,task,named,same⟩ := ih s member
      exact ⟨taskInfo,task,List.mem_cons_of_mem _ named,same⟩
    · next found here =>
      rcases List.mem_append.mp member with first | later
      · cases List.mem_singleton.mp first
        have own : found.authType = authType := by simpa using List.find?_some here
        exact ⟨found,List.mem_of_find?_eq_some here,List.mem_cons.mpr (.inl own),rfl⟩
      · obtain ⟨taskInfo,task,named,same⟩ := ih _ later
        exact ⟨taskInfo,List.mem_of_mem_erase task,List.mem_cons_of_mem _ named,same⟩

end WidgetContext

namespace WidgetSession

-- Routing adds nothing but tips to what the context sends out.
theorem route_cancels (owner : Owner) (outputs : List Output) :
    .poolCancel taskId ∈ (route owner outputs).2.2 → .poolCancel taskId ∈ outputs := by
  induction outputs generalizing owner with
  | nil => exact id
  | cons output rest ih =>
    have tips : .poolCancel taskId ∉ (take owner output).2.2 := by
      cases output with
      | clientClearSchedule =>
        simp only [take,clearSchedule]
        split
        · exact List.not_mem_nil
        · dsimp only
          split
          · intro member
            obtain ⟨authType,_,tip⟩ := List.mem_flatMap.mp member
            unfold onScheduleAuthTip at tip
            split at tip
            · cases tip
            · cases List.mem_singleton.mp tip
          · exact List.not_mem_nil
      | _ => exact List.not_mem_nil
    simp only [route,List.mem_cons,List.mem_append,tips,false_or]
    exact Or.imp_right (ih _)

end WidgetSession

namespace WidgetRequestRun
open WidgetRequest WidgetSession

-- A child that lives and that the session has not told to stop.
def Runs (s : WidgetRequestRun) (taskInfo : TaskInfo) : Prop :=
  taskInfo ∈ s.live ∧ taskInfo ∈ s.session.owner.context.runTaskInfoList

-- A stop event is taken up while the schedule runs.
def StopTaken (s : WidgetRequestRun) (env : WidgetContext.Env) : Prop :=
  s.due (.session (.scheduleInner env)) = some .E_UPDATE_AUTH ∧ s.session.currentState = .S_WIDGET_AUTH_RUNNING

-- Each type of a start request has a child that runs, or gets one with the
-- request's own data where it can; no other child is launched, and none twice.
structure StartServed (s : WidgetRequestRun) (env : WidgetContext.Env) (outputs : List Output)
    (authTypeList : List AuthType) (endAfterFirstFail : Bool) (authIntent : AuthIntent) : Prop where
  requested : ∀ authType ∈ authTypeList, ∀ taskId, env.launchedChild authType = some taskId →
    (∃ taskInfo, s.Runs taskInfo ∧ taskInfo.authType = authType) ∨
      ∃ child, Asked [authType] endAfterFirstFail authIntent child ∧ .scheduleChild child taskId ∈ outputs
  own : ∀ child taskId, .scheduleChild child taskId ∈ outputs → Asked authTypeList endAfterFirstFail authIntent child ∧
    ∀ taskInfo, s.Runs taskInfo → taskInfo.authType ≠ child.authType
  once : ((launchedChildren env outputs).map (·.authType)).Nodup

-- Each live child of a type of a stop request is told to stop by then, and no
-- other child is.
structure StopServed (s : WidgetRequestRun) (told : List Output) (next : WidgetRequestRun × List Output)
    (authTypeList : List AuthType) : Prop where
  requested : ∀ taskInfo ∈ s.live, taskInfo.authType ∈ authTypeList →
    .poolCancel taskInfo.taskId ∈ told ++ next.2 ∧ ¬next.1.Runs taskInfo
  own : ∀ taskId, .poolCancel taskId ∈ next.2 → ∃ taskInfo ∈ s.session.owner.context.runTaskInfoList,
    taskInfo.authType ∈ authTypeList ∧ taskInfo.taskId = taskId

-- A turn serves the oldest request that waits, which it takes off. `told` is what
-- went out before.
def Served (s : WidgetRequestRun) (told : List Output) : Input → Prop
  | .session (.scheduleInner env) =>
    (s.StartTaken env → ∃ authTypeList endAfterFirstFail authIntent,
      s.waiting.head? = some (.start authTypeList endAfterFirstFail authIntent) ∧
        s.StartServed env (step s (.session (.scheduleInner env))).2 authTypeList endAfterFirstFail authIntent) ∧
    (s.StopTaken env → ∃ authTypeList, s.waiting.head? = some (.stop authTypeList) ∧
      s.StopServed told (step s (.session (.scheduleInner env))) authTypeList)
  | _ => True

-- A type to start that has no child that runs, and could have one, is still in
-- the running set.
def Stale (s : WidgetRequestRun) (env : WidgetContext.Env) : WidgetRequest → Prop
  | .start authTypeList _ _ => ∃ authType ∈ authTypeList,
    (∀ taskInfo ∈ s.live, taskInfo ∈ s.session.owner.context.runTaskInfoList → taskInfo.authType ≠ authType) ∧
      (env.launchedChild authType).isSome = true ∧ s.session.owner.node.runningAuthTypeSet.contains authType = true
  | _ => False

-- No request comes to wait beside another of its kind with different data, and
-- no start is taken up with one of its types stale.
def Fair (s : WidgetRequestRun) (input : Input) : Prop :=
  Undisputed s input ∧ match input with
    | .session (.scheduleInner env) => s.StartTaken env → ∀ request ∈ s.waiting.head?, ¬s.Stale env request
    | _ => True

structure Tracked (s : WidgetRequestRun) (told : List Output) : Prop where
  registered : Registered (isOpen s.session.currentState) s.session.owner
  live : ∀ taskInfo ∈ s.live,
    taskInfo ∈ s.session.owner.context.runTaskInfoList ∨ .poolCancel taskInfo.taskId ∈ told

section Steps
variable {s : WidgetRequestRun} {env : WidgetContext.Env}

theorem step_tracked (tracked : Tracked s told) (input : Input) :
    Tracked (step s input).1 (told ++ (step s input).2) := by
  unfold step
  cases inner : input.toSession s.live with
  | none => exact ⟨tracked.registered,fun taskInfo member => (tracked.live taskInfo member).imp_right (List.mem_append_left _)⟩
  | some input' =>
    have tends := step_tends s.session input'
    refine ⟨tends.registered tracked.registered,fun taskInfo member => ?_⟩
    rcases List.mem_append.mp member with old | new
    · have before : taskInfo ∈ s.live := by
        cases input with
        | session => exact old
        | result => exact List.mem_of_mem_eraseIdx old
      rcases tracked.live taskInfo before with task | cancelled
      · exact (tends.told taskInfo task).imp_right (List.mem_append_right _)
      · exact .inr (List.mem_append_left _ cancelled)
    · exact .inl (tends.born taskInfo new)

theorem start_served (aligned : Aligned s) (held : HeldAll s) (tracked : Tracked s told) (taken : s.StartTaken env)
    (fresh : ∀ request ∈ s.waiting.head?, ¬s.Stale env request) : ∃ authTypeList endAfterFirstFail authIntent,
      s.waiting.head? = some (.start authTypeList endAfterFirstFail authIntent) ∧
        s.StartServed env (step s (.session (.scheduleInner env))).2 authTypeList endAfterFirstFail authIntent := by
  obtain ⟨⟨authTypeList,endAfterFirstFail,authIntent,head⟩,turn⟩ := start_turn aligned taken
  have opened : isOpen s.session.currentState = true := by
    rcases taken.2.1 with state | state <;> rw [state] <;> rfl
  obtain ⟨rfl,rfl,rfl⟩ := held _ (List.mem_of_mem_head? head)
  refine ⟨_,_,_,head,⟨fun authType named taskId launched => ?_,fun child taskId member => ?_,?_⟩⟩
  · by_cases runs : ∃ taskInfo, s.Runs taskInfo ∧ taskInfo.authType = authType
    · exact .inl runs
    · have handed : authType ∈ (startSet s.session.owner.node).toList := by
        rw [Std.ExtTreeSet.mem_toList,mem_startSet]
        refine ⟨named,fun kept => fresh _ head ⟨authType,named,fun taskInfo live task same => ?_,?_,?_⟩⟩
        · exact runs ⟨taskInfo,⟨live,task⟩,same⟩
        · rw [launched]
          rfl
        · exact Std.ExtTreeSet.contains_iff_mem.mpr kept
      obtain ⟨child,same,member⟩ := launchTasks_launches_child _ _ _ handed launched
      obtain ⟨_,own⟩ := launchTasks_sends _ _ _ member
      exact .inr ⟨child,⟨List.mem_singleton.mpr same,own⟩,(turn child taskId).mpr member⟩
  · obtain ⟨started,own⟩ := launchTasks_sends _ _ _ ((turn child taskId).mp member)
    obtain ⟨named,absent⟩ := (mem_startSet _ _).mp (Std.ExtTreeSet.mem_toList.mp started)
    refine ⟨⟨named,own⟩,fun taskInfo runs same => absent ?_⟩
    exact same ▸ tracked.registered.running opened taskInfo runs.2
  · obtain ⟨due,state,early⟩ := taken
    obtain ⟨_,_,_,_,_,pending⟩ := aligned_due aligned due
    have row : transitionMap s.session.currentState .E_START_AUTH = some (.S_WIDGET_AUTH_RUNNING,onStartAuth) := by
      rcases state with state | state <;> rw [state] <;> rfl
    have outputs : (step s (.session (.scheduleInner env))).2 = (onStartAuth env s.session.owner).2.2 := by
      simp only [step,Input.toSession]
      rw [turn_acts env pending row]
    have launches : executeAuthList env s.session.owner.context (startSet s.session.owner.node).toList
        s.session.owner.node.endAfterFirstFail s.session.owner.node.authIntent = launchTasks env s.session.owner.context
        s.session.owner.node.endAfterFirstFail s.session.owner.node.authIntent (startSet s.session.owner.node).toList :=
      if_neg (Nat.not_le.mpr early)
    rw [outputs,onStartAuth_acts,launches,run,route_launchedChildren]
    exact (startSet_nodup s.session.owner.node).sublist (launchTasks_tasks _ _ _).2

theorem stop_served (aligned : Aligned s) (held : HeldAll s) (tracked : Tracked s told) (taken : s.StopTaken env) :
    ∃ authTypeList, s.waiting.head? = some (.stop authTypeList) ∧
      s.StopServed told (step s (.session (.scheduleInner env))) authTypeList := by
  obtain ⟨due,state⟩ := taken
  obtain ⟨request,rest,waiting,same,later,pending⟩ := aligned_due aligned due
  cases request with
  | stop authTypeList =>
    have named : s.session.owner.node.stopAuthTypeList = authTypeList :=
      held (.stop authTypeList) (by simp [waiting])
    have row : transitionMap s.session.currentState .E_UPDATE_AUTH = some (.S_WIDGET_AUTH_RUNNING,onStopAuthList) := by
      rw [state]
      rfl
    have turned : step s (.session (.scheduleInner env)) =
        (⟨⟨.S_WIDGET_AUTH_RUNNING,later ++ (onStopAuthList env s.session.owner).2.1,(onStopAuthList env s.session.owner).1⟩,
          s.live ++ launchedChildren env (onStopAuthList env s.session.owner).2.2,
          s.left (.session (.scheduleInner env)) ++ s.session.made (.scheduleInner env)⟩,
          (onStopAuthList env s.session.owner).2.2) := by
      simp only [step,Input.toSession]
      rw [turn_acts env pending row]
      rfl
    have context : (onStopAuthList env s.session.owner).1.context =
        (WidgetContext.stopAuthList s.session.owner.context authTypeList).1 := named ▸ (route_keeps _ _).1
    have tends := onStopAuthList_tended env s.session.owner
    have cleared := stopAuthList_clears tracked.registered.distinct authTypeList
    rw [turned]
    refine ⟨authTypeList,by rw [waiting]; rfl,fun taskInfo live requested => ?_,fun taskId member => ?_⟩
    · have gone : taskInfo ∉ (onStopAuthList env s.session.owner).1.context.runTaskInfoList := by
        rw [context]
        exact fun kept => cleared taskInfo kept requested
      refine ⟨?_,fun runs => gone runs.2⟩
      rcases tracked.live taskInfo live with task | cancelled
      · exact List.mem_append_right _ ((tends.told taskInfo task).resolve_left gone)
      · exact List.mem_append_left _ cancelled
    · have sent : .poolCancel taskId ∈ (WidgetContext.stopAuthList s.session.owner.context authTypeList).2 :=
        named ▸ route_cancels _ _ member
      exact stopAuthList_sends _ _ sent
  | _ => cases same

end Steps

theorem requests_served (para : ContextFactory.AuthWidgetContextPara) (modalCallback remoteAuthCallback : Bool)
    (inputs : List Input)
    (fair : machine.Meets Fair (create (WidgetContext.create para modalCallback remoteAuthCallback)) inputs) :
    let start := create (WidgetContext.create para modalCallback remoteAuthCallback)
    ∀ before input later, inputs = before ++ input :: later →
      Served (machine.after start before) (machine.trace start before) input := by
  intro start before input later split
  subst split
  obtain ⟨earlier,now,_⟩ := (Mealy.meets_append machine Fair start before (input :: later)).mp fair
  have created : Aligned start ∧ HeldAll start ∧ Tracked start [] :=
    ⟨rfl,fun _ member => (List.not_mem_nil member).elim,⟨List.nodup_nil,fun _ _ member => (List.not_mem_nil member).elim⟩,
      fun _ member => (List.not_mem_nil member).elim⟩
  have valid := Mealy.guarded_history (m:=machine) (c:=Fair)
    (P:=fun s told => Aligned s ∧ HeldAll s ∧ Tracked s told)
    (fun s told input valid fair =>
      have stepped := step_waiting valid.1 input
      ⟨stepped.1,stepped.2 valid.2.1 fair.1,step_tracked valid.2.2 input⟩) created earlier
  rw [List.nil_append] at valid
  obtain ⟨aligned,held,tracked⟩ := valid
  cases input with
  | session inner =>
    cases inner with
    | scheduleInner env =>
      exact ⟨fun taken => start_served aligned held tracked taken (now.2 taken),stop_served aligned held tracked⟩
    | _ => trivial
  | result => trivial

instance (s : WidgetRequestRun) (env : WidgetContext.Env) : Decidable (s.StartTaken env) :=
  inferInstanceAs (Decidable (_ ∧ (_ ∨ _) ∧ _ < _))

instance (s : WidgetRequestRun) (env : WidgetContext.Env) : (request : WidgetRequest) → Decidable (s.Stale env request)
  | .start authTypeList _ _ =>
    inferInstanceAs (Decidable (∃ authType ∈ authTypeList, (∀ taskInfo ∈ s.live, _ → _) ∧ _ = _ ∧ _ = _))
  | .stop _ | .success _ => .isFalse id

instance (s : WidgetRequestRun) : (input : Input) → Decidable (s.Fair input)
  | .session (.scheduleInner _) => inferInstanceAs (Decidable (_ ∧ (_ → ∀ request ∈ s.waiting.head?, _)))
  | .session (.context _ _) | .session (.notice _ _) | .session .forceStopAuth | .session .forceStopAuthOf
  | .session (.clientMoved _) | .result _ _ _ _ => inferInstanceAs (Decidable (_ ∧ True))

-- Nothing is asked while another request of the kind waits.
def oneByOne (env : WidgetContext.Env) : List Input :=
  [.session (.context .start env),.session (.context .onStart env),.session (.scheduleInner env),
    .session (.notice {event:=.NOTICE_EVENT_AUTH_READY} [AuthType.PIN]),.session (.scheduleInner env),
    .session (.notice {event:=.NOTICE_EVENT_AUTH_READY} [AuthType.PIN,AuthType.FACE])]

theorem one_by_one_served : Served (machine.after (create pinSession) (oneByOne fairEnv))
    (machine.trace (create pinSession) (oneByOne fairEnv)) (.session (.scheduleInner fairEnv)) :=
  requests_served pinPara false false (oneByOne fairEnv ++ [.session (.scheduleInner fairEnv)]) (by decide +kernel)
    (oneByOne fairEnv) _ [] rfl

-- The widget asks for the face and then for the fingerprint before the schedule
-- has taken up the first.
def twoAtOnce (env : WidgetContext.Env) : List Input :=
  [.session (.context .start env),.session (.context .onStart env),.session (.scheduleInner env),
    .session (.notice {event:=.NOTICE_EVENT_AUTH_READY} [AuthType.PIN]),.session (.scheduleInner env),
    .session (.notice {event:=.NOTICE_EVENT_AUTH_READY} [AuthType.FACE]),
    .session (.notice {event:=.NOTICE_EVENT_AUTH_READY} [AuthType.FINGERPRINT])]

theorem earlier_request_dropped : ¬Served (machine.after (create pinSession) (twoAtOnce fairEnv))
    (machine.trace (create pinSession) (twoAtOnce fairEnv)) (.session (.scheduleInner fairEnv)) := by
  intro served
  have asked : (machine.after (create pinSession) (twoAtOnce fairEnv)).waiting.head? =
    some (.start [AuthType.FACE] false .DEFAULT) := by decide +kernel
  have launched : launchedChildren fairEnv (step (machine.after (create pinSession) (twoAtOnce fairEnv))
    (.session (.scheduleInner fairEnv))).2 = [⟨AuthType.FINGERPRINT,12⟩] := by decide +kernel
  have live : (machine.after (create pinSession) (twoAtOnce fairEnv)).live = [⟨AuthType.PIN,12⟩] := by decide +kernel
  obtain ⟨_,_,_,head,start⟩ := served.1 (by decide +kernel)
  rw [asked] at head
  cases head
  rcases start.requested AuthType.FACE (List.mem_singleton_self _) 12 rfl with ⟨taskInfo,runs,same⟩ | ⟨child,asked,sent⟩
  · have pin := runs.1
    rw [live,List.mem_singleton] at pin
    rw [pin] at same
    exact absurd same (by decide)
  · have taken : (⟨child.authType,12⟩ : TaskInfo) ∈ launchedChildren fairEnv
      (step (machine.after (create pinSession) (twoAtOnce fairEnv)) (.session (.scheduleInner fairEnv))).2 :=
        List.mem_filterMap.mpr ⟨_,sent,rfl⟩
    rw [launched,List.mem_singleton,List.mem_singleton.mp asked.1] at taken
    exact absurd (congrArg TaskInfo.authType taken) (by decide)

end WidgetRequestRun
end UserAuth
