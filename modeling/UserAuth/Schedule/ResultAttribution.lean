import UserAuth.Schedule.ScheduleRun

namespace UserAuth
open ScheduleNode

-- A schedule run and what was asked of it: the code of the last ContinueSchedule,
-- whether a stop or timeout event has moved the schedule, the last code a stop
-- request, the timer or a lost executor wrote, and an executor's refusal since
-- that ContinueSchedule.
structure ResultAttribution where
  run : ScheduleRun
  given : Option ResultCode := none
  stopped : Bool := false
  overruled : Option ResultCode := none
  refused : Option ResultCode := none

-- S_END entered on a result event before any stop or timeout event had an
-- effect: the executor's code, another one written before this turn, and what
-- the callback was told.
structure ResultEnding where
  executorCode : Option ResultCode
  other : Option ResultCode
  reported : List ResultCode
  deriving DecidableEq

namespace ResultAttribution

def reportedCode : ScheduleRun.RunEvent → Option ResultCode
  | .effect (.onScheduleStoped result _) => some result
  | _ => none

def taken (s : ResultAttribution) : Option Event := s.run.node.pendingEvents.head?

def stops (s : ResultAttribution) : Bool := s.taken.any fun event =>
  (event == .E_STOP_AUTH || event == .E_TIME_OUT) && (transitionMap s.run.node.currentState event).isSome

def endsOnResult (s : ResultAttribution) : Bool := s.taken.any fun event =>
  event == .E_SCHEDULE_RESULT_RECEIVED && (transitionMap s.run.node.currentState event).any (·.1 == .S_END)

-- The state the next turn leads to.
def entered (s : ResultAttribution) : Option State :=
  s.taken.bind fun event => (transitionMap s.run.node.currentState event).map (·.1)

-- An executor that the action of a transition needs is gone.
def lost (run : ScheduleRun) : State → Bool
  | .S_VERIFY_STARING | .S_COLLECT_STARING | .S_COLLECT_STOPPING => !run.collectorAlive || !run.verifierAlive
  | .S_VERIFY_STOPPING => !run.verifierAlive
  | .S_INIT | .S_AUTH_PROCESSING | .S_END => false

-- What the executor that the action asks answers. A collector that is the
-- verifier's own node is not asked.
def answer (run : ScheduleRun) (answers : ExecutorAnswers) : State → Option ResultCode
  | .S_VERIFY_STARING => some answers.beginVerifier
  | .S_VERIFY_STOPPING => some answers.endVerifier
  | .S_COLLECT_STARING => if run.collector.isSome then some answers.beginCollector else none
  | .S_COLLECT_STOPPING => if run.collector.isSome then some answers.endCollector else none
  | .S_INIT | .S_AUTH_PROCESSING | .S_END => none

def refusal (run : ScheduleRun) (answers : ExecutorAnswers) (next : State) : Option ResultCode :=
  if lost run next then none else (answer run answers next).filter (· != ResultCode.SUCCESS)

def step (s : ResultAttribution) (input : ScheduleRun.Input) : ResultAttribution × List ResultEnding :=
  let stepped := s.run.step input
  match input with
  | .stopSchedule errorCode => ({s with run:=stepped.1,overruled:=some errorCode},[])
  | .continueSchedule resultCode _ => ({s with run:=stepped.1,given:=some resultCode,refused:=none},[])
  | .timeOut => ({s with run:=stepped.1,overruled:=if s.run.armed then some ResultCode.TIMEOUT else s.overruled},[])
  | .turn answers =>
    (⟨stepped.1,s.given,s.stopped || s.stops,
        if s.entered.any (lost s.run) then some ResultCode.GENERAL_ERROR else s.overruled,
        (s.entered.bind (refusal s.run answers)).or s.refused⟩,
      if s.endsOnResult && !s.stopped then
        [⟨s.given,s.overruled.or s.refused,stepped.2.filterMap reportedCode⟩]
      else [])
  | _ => ({s with run:=stepped.1},[])

def machine : Mealy ResultAttribution ScheduleRun.Input ResultEnding := ⟨step⟩

def initial (expires verifierAlive : Bool) (collector : Option Bool) : ResultAttribution :=
  {run:=ScheduleRun.initial expires verifierAlive collector}

-- Before a result event ends the schedule, with no stop or timeout event having
-- moved it, nobody asked to stop, the timer did not fire, no turn found an
-- executor gone, and none refused since its result.
def Undisturbed (s : ResultAttribution) : ScheduleRun.Input → Prop
  | .turn _ => s.endsOnResult = true → s.stopped = false → s.overruled = none ∧ s.refused = none
  | _ => True

def Attributed (ending : ResultEnding) : Prop := ending.reported = ending.executorCode.toList

-- The schedule's own codes are the last ones asked for, a queued result event has
-- come with a code, and the callback is there until S_END.
structure Matched (s : ResultAttribution) : Prop where
  framework : s.run.node.owner.fwkResultCode = s.overruled
  executor : s.run.node.owner.executorResultCode = (s.refused.or s.given).getD ResultCode.GENERAL_ERROR
  results : .E_SCHEDULE_RESULT_RECEIVED ∈ s.run.node.pendingEvents → s.given.isSome
  callback : s.run.node.owner.callback = (s.run.node.currentState != .S_END)

section Steps
variable {s : ResultAttribution}

theorem initial_matched (expires verifierAlive : Bool) (collector : Option Bool) :
    Matched (initial expires verifierAlive collector) := ⟨rfl,rfl,nofun,rfl⟩

theorem entryAction_codes (run : ScheduleRun) (answers : ExecutorAnswers) (next : State) (owner : Owner) :
    let acted := (entryAction next (run.env answers) owner).1
    acted.fwkResultCode = (if lost run next then some ResultCode.GENERAL_ERROR else owner.fwkResultCode) ∧
      acted.executorResultCode = (refusal run answers next).getD owner.executorResultCode := by
  cases next with
  | S_VERIFY_STARING =>
    cases gone : !run.collectorAlive || !run.verifierAlive <;>
      simp only [entryAction,processBeginVerifier,refusal,lost,answer,ScheduleRun.env,gone]
    · by_cases agreed : answers.beginVerifier = ResultCode.SUCCESS <;> simp [Option.filter,agreed]
    · exact ⟨rfl,rfl⟩
  | S_COLLECT_STARING =>
    cases gone : !run.collectorAlive || !run.verifierAlive <;>
      simp only [entryAction,processBeginCollector,refusal,lost,answer,ScheduleRun.env,gone]
    · by_cases shared : run.collector = none
      · simp [shared]
      · obtain ⟨alive,distinct⟩ := Option.ne_none_iff_exists'.mp shared
        by_cases agreed : answers.beginCollector = ResultCode.SUCCESS <;> simp [Option.filter,distinct,agreed]
    · exact ⟨rfl,rfl⟩
  | S_COLLECT_STOPPING =>
    cases gone : !run.collectorAlive || !run.verifierAlive <;>
      simp only [entryAction,processEndCollector,refusal,lost,answer,ScheduleRun.env,gone]
    · by_cases shared : run.collector = none
      · simp [shared]
      · obtain ⟨alive,distinct⟩ := Option.ne_none_iff_exists'.mp shared
        by_cases agreed : answers.endCollector = ResultCode.SUCCESS <;> simp [Option.filter,distinct,agreed]
    · exact ⟨rfl,rfl⟩
  | S_VERIFY_STOPPING =>
    cases gone : run.verifierAlive <;>
      simp only [entryAction,processEndVerifier,refusal,lost,answer,ScheduleRun.env,gone]
    · exact ⟨rfl,rfl⟩
    · by_cases agreed : answers.endVerifier = ResultCode.SUCCESS <;> simp [Option.filter,agreed]
  | S_INIT | S_AUTH_PROCESSING | S_END => exact ⟨rfl,rfl⟩

theorem enterMap_codes (next : State) (env : Env) (owner : Owner) :
    (enterMap next env owner).1.fwkResultCode = owner.fwkResultCode ∧
      (enterMap next env owner).1.executorResultCode = owner.executorResultCode := by
  cases next with
  | S_END =>
    simp only [enterMap,onScheduleFinished]
    split <;> exact ⟨rfl,rfl⟩
  | S_INIT | S_VERIFY_STARING | S_COLLECT_STARING | S_AUTH_PROCESSING | S_COLLECT_STOPPING | S_VERIFY_STOPPING =>
    exact ⟨rfl,rfl⟩

theorem turn_codes (s : ResultAttribution) (answers : ExecutorAnswers) :
    let owner := (s.run.step (.turn answers)).1.node.owner
    owner.fwkResultCode = (if s.entered.any (lost s.run) then some ResultCode.GENERAL_ERROR
        else s.run.node.owner.fwkResultCode) ∧
      owner.executorResultCode = (s.entered.bind (refusal s.run answers)).getD s.run.node.owner.executorResultCode := by
  cases pending : s.run.node.pendingEvents with
  | nil =>
    have idle : s.entered = none := by simp [entered,taken,pending]
    simp only [ScheduleRun.step,ScheduleRun.turn,idle]
    rw [FiniteStateMachineImpl.scheduleInner_idle table _ s.run.node pending]
    exact ⟨rfl,rfl⟩
  | cons event rest =>
    cases found : transitionMap s.run.node.currentState event with
    | none =>
      have dropped : s.entered = none := by simp [entered,taken,pending,found]
      simp only [ScheduleRun.step,ScheduleRun.turn,dropped]
      rw [FiniteStateMachineImpl.scheduleInner_dropped table _ s.run.node pending found]
      exact ⟨rfl,rfl⟩
    | some target =>
      obtain ⟨next,action⟩ := target
      have reached : s.entered = some next := by simp [entered,taken,pending,found]
      obtain ⟨framework,executor⟩ := entryAction_codes s.run answers next s.run.node.owner
      obtain ⟨keptFramework,keptExecutor⟩ := enterMap_codes next (s.run.env answers)
        (entryAction next (s.run.env answers) s.run.node.owner).1
      simp only [ScheduleRun.step,ScheduleRun.turn,reached]
      rw [scheduleInner_arrives s.run.node _ pending found]
      exact ⟨keptFramework.trans framework,keptExecutor.trans executor⟩

theorem entry_unresulted {run : ScheduleRun} (entry : run.Entry next posted effects) :
    .E_SCHEDULE_RESULT_RECEIVED ∉ posted := by
  cases entry with
  | collectorEnded result event answered => rcases answered with rfl | rfl <;> simp
  | verifierEnded result event answered => rcases answered with rfl | rfl <;> simp
  | _ => simp

theorem turned_results {run : ScheduleRun} (turned : run.Turned stepped)
    (queued : .E_SCHEDULE_RESULT_RECEIVED ∈ stepped.1.node.pendingEvents) :
    .E_SCHEDULE_RESULT_RECEIVED ∈ run.node.pendingEvents := by
  cases turned with
  | idle armed kept empty => exact queued
  | dropped armed kept event rest pending undeclared =>
    rw [pending]
    exact List.mem_cons_of_mem event queued
  | moved armed kept event rest posted next effects owner pending moves entry callback =>
    rw [pending]
    cases List.mem_append.mp queued with
    | inl waiting => exact List.mem_cons_of_mem event waiting
    | inr added => exact absurd added (entry_unresulted entry)

theorem turned_callback {run : ScheduleRun} (turned : run.Turned stepped)
    (told : run.node.owner.callback = (run.node.currentState != .S_END)) :
    stepped.1.node.owner.callback = (stepped.1.node.currentState != .S_END) := by
  cases turned with
  | idle armed kept empty => exact told
  | dropped armed kept event rest pending undeclared => exact told
  | moved armed kept event rest posted next effects owner pending moves entry callback =>
    have running : run.node.owner.callback = true := by
      rw [told]
      exact bne_iff_ne.mpr moves.going
    show owner.callback = (next != .S_END)
    rw [callback,running,Bool.true_and]

theorem Matched.turn (matched : Matched s) (answers : ExecutorAnswers) : Matched (s.step (.turn answers)).1 := by
  have turned : s.run.Turned (s.run.step (.turn answers)) := s.run.turn_turned answers
  obtain ⟨framework,executor⟩ := turn_codes s answers
  refine ⟨?_,?_,fun queued => matched.results (turned_results turned queued),turned_callback turned matched.callback⟩
  · rw [matched.framework] at framework
    exact framework
  · rw [matched.executor] at executor
    show (s.run.step (.turn answers)).1.node.owner.executorResultCode =
      (((s.entered.bind (refusal s.run answers)).or s.refused).or s.given).getD ResultCode.GENERAL_ERROR
    rw [executor]
    cases s.entered.bind (refusal s.run answers) <;> rfl

theorem posted_results (matched : Matched s) (other : posted ≠ Event.E_SCHEDULE_RESULT_RECEIVED)
    (queued : .E_SCHEDULE_RESULT_RECEIVED ∈ s.run.node.pendingEvents ++ [posted]) : s.given.isSome := by
  cases List.mem_append.mp queued with
  | inl waiting => exact matched.results waiting
  | inr added => exact absurd (List.mem_singleton.mp added).symm other

theorem step_matched (s : ResultAttribution) (input : ScheduleRun.Input) (matched : Matched s) :
    Matched (s.step input).1 := by
  cases input with
  | startSchedule =>
    exact ⟨matched.framework,matched.executor,posted_results matched (by simp),matched.callback⟩
  | startTimer =>
    simp only [step,ScheduleRun.step,ScheduleRun.startTimer]
    split
    · exact matched
    · split <;> exact ⟨matched.framework,matched.executor,matched.results,matched.callback⟩
  | stopSchedule errorCode => exact ⟨rfl,matched.executor,posted_results matched (by simp),matched.callback⟩
  | continueSchedule resultCode finalResult => exact ⟨matched.framework,rfl,fun _ => rfl,matched.callback⟩
  | timeOut =>
    simp only [step,ScheduleRun.step,ScheduleRun.timeOut]
    cases s.run.armed with
    | false => exact ⟨matched.framework,matched.executor,matched.results,matched.callback⟩
    | true => exact ⟨rfl,matched.executor,posted_results matched (by simp),matched.callback⟩
  | verifierGone => exact ⟨matched.framework,matched.executor,matched.results,matched.callback⟩
  | collectorGone => exact ⟨matched.framework,matched.executor,matched.results,matched.callback⟩
  | turn answers => exact matched.turn answers

-- The turn that ends the schedule on a result event tells the framework's code, else the executor's.
theorem ending_reports (matched : Matched s) (ends : s.endsOnResult = true) (answers : ExecutorAnswers) :
    (s.run.step (.turn answers)).2.filterMap reportedCode = [finalCode s.run.node.owner] := by
  simp only [endsOnResult,taken,Option.any_eq_true,Bool.and_eq_true,beq_iff_eq] at ends
  obtain ⟨event,pending,_,⟨next,action⟩,found,target⟩ := ends
  obtain ⟨rest,queued⟩ := List.head?_eq_some_iff.mp pending
  dsimp only at target
  subst target
  have going := (transition_moves found).1.going
  have finishing : ScheduleNodeImpl.finishing s.run.node = true := by
    simp [ScheduleNodeImpl.finishing,matched.callback,going,queued,found]
  have told := ScheduleNodeImpl.scheduleInner_finishing s.run.node (s.run.env answers) finishing
  simp only [ScheduleRun.step,ScheduleRun.turn,told,queued,ScheduleRun.turnEvents]
  rw [List.filterMap_cons_none rfl,List.filterMap_append]
  have posts : ∀ events : List Event, (events.map ScheduleRun.RunEvent.posted).filterMap reportedCode = [] := by
    intro events
    rw [List.filterMap_eq_nil_iff]
    intro event member
    obtain ⟨_,_,rfl⟩ := List.mem_map.mp member
    rfl
  rw [posts,List.nil_append]
  rfl

theorem ending_given (matched : Matched s) (ends : s.endsOnResult = true) : ∃ code, s.given = some code := by
  simp only [endsOnResult,taken,Option.any_eq_true,Bool.and_eq_true,beq_iff_eq] at ends
  obtain ⟨event,pending,rfl,_⟩ := ends
  exact Option.isSome_iff_exists.mp (matched.results (List.mem_of_mem_head? pending))

-- An ending tells the other code where one was written, else the executor's.
structure Told (ending : ResultEnding) : Prop where
  given : ∃ code, ending.executorCode = some code
  reported : ending.reported = (ending.other.or ending.executorCode).toList

theorem step_told (s : ResultAttribution) (input : ScheduleRun.Input) (matched : Matched s) :
    ∀ ending ∈ (s.step input).2, Told ending := by
  cases input with
  | turn answers =>
    intro ending member
    simp only [step] at member
    split at member
    · next ends =>
      rw [Bool.and_eq_true] at ends
      obtain rfl := List.mem_singleton.mp member
      obtain ⟨code,given⟩ := ending_given matched ends.1
      refine ⟨⟨code,given⟩,?_⟩
      show _ = ((s.overruled.or s.refused).or s.given).toList
      rw [ending_reports matched ends.1 answers,finalCode,matched.framework,matched.executor,given]
      cases s.overruled with
      | none => cases s.refused <;> rfl
      | some written => rfl
    · cases member
  | _ => exact nofun

theorem step_other (s : ResultAttribution) (input : ScheduleRun.Input) (undisturbed : s.Undisturbed input) :
    ∀ ending ∈ (s.step input).2, ending.other = none := by
  cases input with
  | turn answers =>
    intro ending member
    simp only [step] at member
    split at member
    · next ends =>
      rw [Bool.and_eq_true,Bool.not_eq_true'] at ends
      obtain rfl := List.mem_singleton.mp member
      obtain ⟨untouched,accepted⟩ := undisturbed ends.1 ends.2
      show s.overruled.or s.refused = none
      rw [untouched,accepted]
      rfl
    · cases member
  | _ => exact nofun

theorem trace_told (expires verifierAlive : Bool) (collector : Option Bool) (inputs : List ScheduleRun.Input) :
    ∀ ending ∈ machine.trace (initial expires verifierAlive collector) inputs, Told ending :=
  (machine.history (P:=fun s endings => Matched s ∧ ∀ ending ∈ endings, Told ending)
    (fun s _ input valid => ⟨step_matched s input valid.1,
      List.forall_mem_append.mpr ⟨valid.2,step_told s input valid.1⟩⟩)
    ⟨initial_matched expires verifierAlive collector,nofun⟩ inputs).2

end Steps

-- In every run whose steps meet the condition a schedule that ends on its executor's
-- result tells that executor's code; in any run it does not where another code differs.
theorem results_attributed (expires verifierAlive : Bool) (collector : Option Bool) (inputs : List ScheduleRun.Input) :
    let endings := machine.trace (initial expires verifierAlive collector) inputs
    (machine.Meets Undisturbed (initial expires verifierAlive collector) inputs → ∀ ending ∈ endings, Attributed ending) ∧
      ∀ ending ∈ endings, ∀ code ∈ ending.other, some code ≠ ending.executorCode → ¬Attributed ending := by
  have told := trace_told expires verifierAlive collector inputs
  refine ⟨?_,?_⟩
  · intro met ending member
    have alone := Mealy.guarded_history (m:=machine) (P:=fun _ endings => ∀ ending ∈ endings, ending.other = none)
      (h:=[]) (fun s _ input quiet undisturbed => List.forall_mem_append.mpr ⟨quiet,step_other s input undisturbed⟩)
      (List.forall_mem_nil _) met ending member
    rw [Attributed,(told ending member).reported,alone,Option.none_or]
  · intro ending member code written differs attributed
    have reported := (told ending member).reported
    rw [attributed,Option.mem_def.mp written,Option.some_or] at reported
    obtain ⟨given,own⟩ := (told ending member).given
    rw [own,Option.toList_some,Option.toList_some,List.cons.injEq] at reported
    exact differs (by rw [own,reported.1])

-- The stop request comes when the executor's result is already queued.
def stoppedLate : List ScheduleRun.Input := [.startSchedule,.turn .succeeding,.turn .succeeding,.turn .succeeding,
  .continueSchedule ResultCode.SUCCESS none,.stopSchedule ResultCode.CANCELED,.turn .succeeding]

theorem stopped_late_misreported : ¬∀ expires verifierAlive collector inputs,
    ∀ ending ∈ machine.trace (initial expires verifierAlive collector) inputs, Attributed ending := by
  intro all
  have reported := all false true none stoppedLate ⟨some ResultCode.SUCCESS,some ResultCode.CANCELED,[ResultCode.CANCELED]⟩
    (List.mem_singleton_self _)
  cases reported

end ResultAttribution
end UserAuth
