import UserAuth.Contexts.BaseContext
import UserAuth.Credential.CredentialUpdated
import UserAuth.Lib.Mealy

namespace UserAuth

-- What EnrollContext and DeleteContext share: the base context, the schedule
-- list with at most one node, and the process-wide adapter.
structure CredentialContext (Impl : Type) where
  base : BaseContext := {}
  impl : Impl
  schedule : Option ScheduleNodeImpl := none
  adapter : PublishEventAdapter := {}

namespace CredentialContext
variable {Impl Begin Cancel Answers : Type}

abbrev Outcome (Impl : Type) := CredentialContext Impl × List CredentialOutput

structure Virtuals (Impl Begin Cancel Answers : Type) where
  latestError : Impl → ResultCode
  onStart : Begin → CredentialContext Impl → Outcome Impl × Bool
  onStop : Cancel → CredentialContext Impl → CredentialContext Impl
  onResult : Answers → CredentialContext Impl → ResultCode → Option Attributes → Outcome Impl

def setError (s : CredentialContext Impl) (error : ResultCode) : CredentialContext Impl :=
  {s with base.latestError:=setLatestError s.base.latestError error}

def stopSchedule (s : CredentialContext Impl) : CredentialContext Impl :=
  {s with schedule:=s.schedule.map (·.stopSchedule ResultCode.CANCELED)}

def onStartFailed (s : CredentialContext Impl) (errorCode : ResultCode) : Outcome Impl :=
  let failed := s.base.onStartFailed errorCode
  ({s with base:=failed.1},failed.2.toList.map fun code => .onResult code Attributes.empty)

section Runs
variable (code : Virtuals Impl Begin Cancel Answers)

-- The pool's start task.
def startTask (s : CredentialContext Impl) (answers : Begin) : Outcome Impl :=
  let granted := s.base.start
  let s := {s with base:=granted.1}
  if !granted.2 then onStartFailed s s.base.latestError
  else
    let started := code.onStart answers s
    if started.2 then started.1 else Mealy.andThen started.1 fun s => onStartFailed s s.base.latestError

def stop (s : CredentialContext Impl) (reply : Cancel) : Outcome Impl :=
  let stopped := s.base.stop
  let s := {s with base:=stopped.1}
  match stopped.2 with
  | .alreadyRequested => (s,[])
  | .beforeStart => onStartFailed s ResultCode.CANCELED
  | .onStop => (code.onStop reply s,[])

-- The node's end notification calls back into the context.
def onEffect (answers : Answers) (s : CredentialContext Impl) (effect : ScheduleNode.Effect) : Outcome Impl :=
  match effect with
  | .onScheduleStoped result scheduleResult =>
    let reported := code.onResult answers s result scheduleResult
    (reported.1,.scheduleEffect effect :: reported.2)
  | _ => (s,[.scheduleEffect effect])

def onEffects (answers : Answers) (s : CredentialContext Impl) : List ScheduleNode.Effect → Outcome Impl
  | [] => (s,[])
  | effect :: rest => Mealy.andThen (onEffect code answers s effect) fun s => onEffects answers s rest

inductive Input (Begin Cancel Answers : Type) where
  | start (answers : Begin)
  | stop (reply : Cancel)
  | schedule (input : ScheduleNodeImpl.Input) (answers : Answers)
  -- Other contexts at work on the adapter.
  | adapterMoved (adapter : PublishEventAdapter)

def step (s : CredentialContext Impl) : Input Begin Cancel Answers → Outcome Impl
  | .start answers => startTask code s answers
  | .stop reply => stop code s reply
  | .schedule input answers =>
    match s.schedule with
    | none => (s,[])
    | some node =>
      let moved := node.step input
      onEffects code answers {s with schedule:=some moved.1} moved.2
  | .adapterMoved adapter => ({s with adapter},[])

def machine : Mealy (CredentialContext Impl) (Input Begin Cancel Answers) CredentialOutput := ⟨step code⟩

end Runs

-- The caller is told success exactly when the engine committed, and what it
-- committed is announced.
structure Agrees (outcome : Outcome Impl) : Prop where
  reported : (∃ extraInfo, .onResult ResultCode.SUCCESS extraInfo ∈ outcome.2) ↔ ∃ changes, .committed changes ∈ outcome.2
  announced : ∀ changes, .committed changes ∈ outcome.2 → Published outcome.1.adapter outcome.2 changes

def Neutral : CredentialOutput → Prop
  | .committed _ => False
  | .onResult resultCode _ => resultCode ≠ ResultCode.SUCCESS
  | _ => True

theorem agrees_neutral {outcome : Outcome Impl} (neutral : ∀ output ∈ outcome.2, Neutral output) : Agrees outcome := by
  have uncommitted (changes : List CredentialChange) : .committed changes ∉ outcome.2 := neutral _
  have unreported (extraInfo : Attributes) : .onResult ResultCode.SUCCESS extraInfo ∉ outcome.2 :=
    fun member => neutral _ member rfl
  constructor
  · exact iff_of_false (fun ⟨_,member⟩ => unreported _ member) fun ⟨_,member⟩ => uncommitted _ member
  · exact fun _ member => absurd member (uncommitted _)

-- A schedule's own effect beside a result says nothing of it.
theorem agrees_scheduled (s : CredentialContext Impl) (effect : ScheduleNode.Effect) (outputs : List CredentialOutput) :
    Agrees (s,.scheduleEffect effect :: outputs) ↔ Agrees (s,outputs) := by
  have published (changes : List CredentialChange) :
      Published s.adapter (.scheduleEffect effect :: outputs) changes ↔ Published s.adapter outputs changes :=
    published_congr rfl rfl
  constructor
  · intro agrees
    exact ⟨by simpa using agrees.reported,by simpa [published] using agrees.announced⟩
  · intro agrees
    exact ⟨by simpa using agrees.reported,by simpa [published] using agrees.announced⟩

-- A commit, what follows it, and the report if there is one.
theorem agrees_commit (s : CredentialContext Impl) (changes : List CredentialChange)
    (aside : ∀ output ∈ middle, CredentialUpdatedManager.Aside output) (resultCode : ResultCode) (report : Option Attributes) :
    Agrees (s,.committed changes :: (middle ++ (report.map (.onResult resultCode)).toList)) ↔
      (resultCode = ResultCode.SUCCESS ∧ report.isSome = true) ∧ Published s.adapter middle changes := by
  have committed (others : List CredentialChange) :
      .committed others ∈ .committed changes :: (middle ++ (report.map (.onResult resultCode)).toList) ↔ others = changes := by
    have absent : .committed others ∉ middle := aside _
    simp [absent]
  have reported : (∃ extraInfo, .onResult ResultCode.SUCCESS extraInfo ∈
      .committed changes :: (middle ++ (report.map (.onResult resultCode)).toList)) ↔
        resultCode = ResultCode.SUCCESS ∧ report.isSome = true := by
    have absent (extraInfo : Attributes) : .onResult ResultCode.SUCCESS extraInfo ∉ middle := aside _
    cases report with
    | none => simp [absent]
    | some attr => simp [absent,eq_comm]
  have published : Published s.adapter (.committed changes :: (middle ++ (report.map (.onResult resultCode)).toList)) changes ↔
      Published s.adapter middle changes := by
    have silent : (report.map (CredentialOutput.onResult resultCode)).toList.filterMap (·.updated) = [] ∧
        (report.map (CredentialOutput.onResult resultCode)).toList.filterMap (·.notified) = [] := by
      cases report <;> exact ⟨rfl,rfl⟩
    apply published_congr
    · rw [List.filterMap_cons_none rfl,List.filterMap_append,silent.1,List.append_nil]
    · rw [List.filterMap_cons_none rfl,List.filterMap_append,silent.2,List.append_nil]
  constructor
  · intro agrees
    refine ⟨reported.mp (agrees.reported.mpr ⟨changes,List.mem_cons_self⟩),?_⟩
    exact published.mp (agrees.announced changes List.mem_cons_self)
  · intro ⟨told,announced⟩
    refine ⟨iff_of_true (reported.mpr told) ⟨changes,List.mem_cons_self⟩,?_⟩
    intro others member
    obtain rfl := (committed others).mp member
    exact published.mpr announced

theorem onStartFailed_neutral {s : CredentialContext Impl} (failed : errorCode ≠ ResultCode.SUCCESS) :
    ∀ output ∈ (onStartFailed s errorCode).2, Neutral output := by
  unfold onStartFailed BaseContext.onStartFailed
  split
  · simp
  · simpa [Neutral] using failed

theorem onStartFailed_base (s : CredentialContext Impl) (errorCode : ResultCode) :
    (onStartFailed s errorCode).1.base.latestError = s.base.latestError :=
  BaseContext.onStartFailed_error errorCode

section Decision
variable (code : Virtuals Impl Begin Cancel Answers)

def Failing (s : CredentialContext Impl) : Prop :=
  s.base.latestError ≠ ResultCode.SUCCESS ∧ code.latestError s.impl ≠ ResultCode.SUCCESS

-- What a run may meet: a start that is granted, and the schedule's end.
def Orderly (beginOk : Begin → Impl → Prop) (endOk : Answers → Impl → ResultCode → Option Attributes → Prop)
    (s : CredentialContext Impl) : Input Begin Cancel Answers → Prop
  | .start answers => s.base.start.2 = true → beginOk answers s.impl
  | .schedule (.scheduleInner _) answers => ∀ node, s.schedule = some node → ScheduleNodeImpl.finishing node = true →
    endOk answers s.impl (ScheduleNode.finalCode node.owner) node.owner.scheduleResult
  | _ => True

-- The duties of the virtual functions. A start that fails has done nothing yet.
structure Virtuals.Lawful (beginOk : Begin → Impl → Prop)
    (endOk : Answers → Impl → ResultCode → Option Attributes → Prop) : Prop where
  startFailing : ∀ answers s, Failing code s → Failing code (code.onStart answers s).1.1
  stopFailing : ∀ reply s, Failing code s → Failing code (code.onStop reply s)
  resultFailing : ∀ answers s result scheduleResult, Failing code s →
    Failing code (code.onResult answers s result scheduleResult).1
  refused : ∀ answers s, (code.onStart answers s).2 = false →
    (∀ output ∈ (code.onStart answers s).1.2, Neutral output) ∧ beginOk answers s.impl
  begun : ∀ answers s, (code.onStart answers s).2 = true → (Agrees (code.onStart answers s).1 ↔ beginOk answers s.impl)
  ended : ∀ answers s result scheduleResult, Failing code s →
    (Agrees (code.onResult answers s result scheduleResult) ↔ endOk answers s.impl result scheduleResult)

variable {code} {beginOk : Begin → Impl → Prop} {endOk : Answers → Impl → ResultCode → Option Attributes → Prop}

theorem startTask_failing (lawful : code.Lawful beginOk endOk) (s : CredentialContext Impl) (answers : Begin)
    (failing : Failing code s) : Failing code (startTask code s answers).1 := by
  have granted : Failing code {s with base:=s.base.start.1} := ⟨BaseContext.start_failing failing.1,failing.2⟩
  unfold startTask
  dsimp only
  split
  · exact ⟨by rw [onStartFailed_base]; exact granted.1,failing.2⟩
  · have started := lawful.startFailing answers _ granted
    split
    · exact started
    · refine ⟨?_,started.2⟩
      unfold Mealy.andThen
      dsimp only
      rw [onStartFailed_base]
      exact started.1

theorem onEffects_failing (lawful : code.Lawful beginOk endOk) (failing : Failing code s) :
    Failing code (onEffects code answers s effects).1 := by
  induction effects generalizing s with
  | nil => exact failing
  | cons effect rest ih =>
    apply ih
    cases effect with
    | onScheduleStoped result scheduleResult => exact lawful.resultFailing answers s result scheduleResult failing
    | _ => exact failing

theorem step_failing (lawful : code.Lawful beginOk endOk) (s : CredentialContext Impl)
    (input : Input Begin Cancel Answers) (failing : Failing code s) : Failing code (step code s input).1 := by
  cases input with
  | start answers => exact startTask_failing lawful s answers failing
  | stop reply =>
    have kept : Failing code {s with base:=s.base.stop.1} := ⟨BaseContext.stop_error.trans_ne failing.1,failing.2⟩
    simp only [step,stop]
    split
    · exact kept
    · exact ⟨by rw [onStartFailed_base]; exact kept.1,kept.2⟩
    · exact lawful.stopFailing reply _ kept
  | schedule input answers =>
    simp only [step]
    split
    · exact failing
    · exact onEffects_failing lawful failing
  | adapterMoved => exact failing

theorem startTask_agrees (lawful : code.Lawful beginOk endOk) (s : CredentialContext Impl) (answers : Begin)
    (failing : Failing code s) : Agrees (startTask code s answers) ↔ (s.base.start.2 = true → beginOk answers s.impl) := by
  have failed : Failing code {s with base:=s.base.start.1} := ⟨BaseContext.start_failing failing.1,failing.2⟩
  unfold startTask
  dsimp only
  cases granted : s.base.start.2 with
  | false => exact iff_of_true (agrees_neutral (onStartFailed_neutral failed.1)) fun absurdly => by cases absurdly
  | true =>
    simp only [Bool.not_true,Bool.false_eq_true,if_false,forall_const]
    cases started : (code.onStart answers {s with base:=s.base.start.1}).2 with
    | true => exact lawful.begun answers _ started
    | false =>
      have refused := lawful.refused answers _ started
      refine iff_of_true (agrees_neutral ?_) refused.2
      rw [if_neg Bool.false_ne_true,Mealy.forall_andThen]
      exact ⟨refused.1,onStartFailed_neutral (lawful.startFailing answers _ failed).1⟩

theorem onEffects_neutral (silent : ∀ effect ∈ effects, ScheduleNode.Effect.isStoped effect = false) :
    ∀ output ∈ (onEffects code answers s effects).2, Neutral output := by
  induction effects generalizing s with
  | nil => simp [onEffects]
  | cons effect rest ih =>
    rw [List.forall_mem_cons] at silent
    rw [onEffects,Mealy.forall_andThen]
    refine ⟨?_,ih silent.2⟩
    cases effect with
    | onScheduleStoped => simp [ScheduleNode.Effect.isStoped] at silent
    | _ => simp [onEffect,Neutral]

theorem step_agrees (lawful : code.Lawful beginOk endOk) (s : CredentialContext Impl)
    (input : Input Begin Cancel Answers) (failing : Failing code s) :
    Agrees (step code s input) ↔ Orderly beginOk endOk s input := by
  cases input with
  | start answers => exact startTask_agrees lawful s answers failing
  | stop reply =>
    refine iff_of_true (agrees_neutral ?_) trivial
    simp only [step,stop]
    split
    · simp
    · exact onStartFailed_neutral (by decide)
    · simp
  | adapterMoved => exact iff_of_true (agrees_neutral (by simp [step])) trivial
  | schedule input answers =>
    cases held : s.schedule with
    | none =>
      apply iff_of_true (agrees_neutral (by simp [step,held]))
      cases input with
      | scheduleInner env =>
        intro node same
        rw [held] at same
        cases same
      | _ => trivial
    | some node =>
      simp only [step,held]
      cases input with
      | scheduleInner env =>
        have only : Orderly beginOk endOk s (.schedule (.scheduleInner env) answers : Input Begin Cancel Answers) ↔
            (ScheduleNodeImpl.finishing node = true →
              endOk answers s.impl (ScheduleNode.finalCode node.owner) node.owner.scheduleResult) := by
          simp only [Orderly,held,Option.some.injEq,forall_eq']
        rw [only]
        cases ends : ScheduleNodeImpl.finishing node with
        | false =>
          apply iff_of_true (agrees_neutral (onEffects_neutral (ScheduleNodeImpl.scheduleInner_silent node env ends)))
          intro absurdly
          cases absurdly
        | true =>
          have effects : (node.step (.scheduleInner env)).2 = _ := ScheduleNodeImpl.scheduleInner_finishing node env ends
          simp only [effects,onEffects,onEffect,Mealy.andThen,List.append_nil,forall_const]
          rw [agrees_scheduled]
          exact lawful.ended answers _ _ _ failing
      | startSchedule | stopSchedule _ | continueSchedule _ _ | timeOut =>
        exact iff_of_true (agrees_neutral (onEffects_neutral (by simp [ScheduleNodeImpl.step]))) trivial

theorem runs_agree (lawful : code.Lawful beginOk endOk) (s : CredentialContext Impl) (failing : Failing code s)
    (inputs : List (Input Begin Cancel Answers)) :
    (machine code).Meets (fun s input => Agrees (step code s input)) s inputs ↔
      (machine code).Meets (Orderly beginOk endOk) s inputs :=
  Mealy.meets_congr (m:=machine code) (step_failing lawful) (step_agrees lawful) failing inputs

end Decision
end CredentialContext
end UserAuth
