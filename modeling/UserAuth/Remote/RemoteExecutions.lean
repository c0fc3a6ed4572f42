import UserAuth.Remote.BeginExecute

namespace UserAuth
open Attributes RemoteConnectListenerManager

-- What the service asks of an executor's resource node.
inductive ExecutorCall where
  | beginExecute (executorIndex scheduleId : UInt64)
  | sendData (executorIndex scheduleId : UInt64)
  | endExecute (executorIndex scheduleId : UInt64)
  deriving DecidableEq,Repr

-- A BeginExecute that a stub has issued, under the connection and the schedule id
-- of the request, with its answer and what became of it since: the executor
-- finished, its connection was lost before that, an END_EXECUTE or that loss has
-- been dealt with, EndExecute was sent.
structure RemoteExecution where
  stub : Nat
  connectionName : Bytes
  requestId : UInt64
  executorIndex : UInt64
  scheduleId : UInt64
  answer : ResultCode
  finished : Bool := false
  disconnected : Bool := false
  terminated : Bool := false
  ended : Bool := false
  deriving DecidableEq

namespace RemoteExecutorStub

-- The BeginExecute that a set-up comes to, where it comes so far.
def issues (s : Beginning) (attr : Attributes) (answers : BeginAnswers) : Option (UInt64 × UInt64 × Attributes) :=
  match (procBeginExecuteRequest s attr answers).1.stub.contextId,localSchedule attr answers with
  | some _,some (scheduleId,executorIndex,message) =>
    (attr.set (setUint8ArrayValue ATTR_EXTRA_INFO message)).map fun attr => (executorIndex,scheduleId,attr)
  | _,_ => none

def procSendDataMsg (stub : RemoteExecutorStub) (attr : Attributes) (select : UInt64 → Bool) : List ExecutorCall :=
  match attr.getUint64Value ATTR_SCHEDULE_ID with
  | none => []
  | some scheduleId => if !select stub.executorIndex then [] else [.sendData stub.executorIndex scheduleId]

theorem listening_answer (s : Beginning) (attr : Attributes) (answers : BeginAnswers)
    (fresh : s.stub.contextId = none) :
    (beginListening s attr answers).2 =
      match (beginListening s attr answers).1.stub.contextId,localSchedule attr answers with
      | some _,some (scheduleId,_,message) =>
        match attr.set (setUint8ArrayValue ATTR_EXTRA_INFO message) with
        | none => ResultCode.GENERAL_ERROR
        | some attr => answers.beginExecute scheduleId attr
      | _,_ => ResultCode.GENERAL_ERROR := by
  unfold beginListening
  cases found : localSchedule attr answers with
  | none => simp
  | some schedule =>
    obtain ⟨scheduleId,executorIndex,message⟩ := schedule
    dsimp only
    split
    · simp [fresh]
    · split
      · simp [fresh]
      · split
        · simp [fresh]
        · cases stored : attr.set (setUint8ArrayValue ATTR_EXTRA_INFO message) with
          | none => simp [stored]
          | some attr => simp [stored]

-- The answer to a request is the executor's where BeginExecute was issued.
theorem issues_answer (s : Beginning) (attr : Attributes) (answers : BeginAnswers) (fresh : s.stub.contextId = none) :
    (procBeginExecuteRequest s attr answers).2 =
      match issues s attr answers with
      | none => ResultCode.GENERAL_ERROR
      | some (_,scheduleId,attr) => answers.beginExecute scheduleId attr := by
  unfold issues procBeginExecuteRequest
  cases attr.getUint64Value ATTR_SCHEDULE_ID with
  | none => simp [fresh]
  | some requestId =>
    dsimp only
    cases attr.getStringValue ATTR_CONNECTION_NAME with
    | none => simp [fresh]
    | some connectionName =>
      dsimp only
      cases registerListener s.listeners connectionName EXECUTOR_STUB_ENDPOINT_NAME (.executorStub s.stub.ref) with
      | none => simp [fresh]
      | some listeners =>
        dsimp only
        rw [listening_answer _ _ _ (by exact fresh)]
        generalize (beginListening _ attr answers).1.stub.contextId = contextId
        cases contextId with
        | none => rfl
        | some contextId =>
          cases localSchedule attr answers with
          | none => rfl
          | some schedule =>
            obtain ⟨scheduleId,executorIndex,message⟩ := schedule
            dsimp only
            cases attr.set (setUint8ArrayValue ATTR_EXTRA_INFO message) with
            | none => rfl
            | some attr => rfl

end RemoteExecutorStub

structure RemoteExecutions extends RemoteAuthService where
  -- The schedule id that each stub's connection callback holds.
  callbacks : Nat → Option UInt64
  -- What OnConnectStatus has posted, in order: the schedule ids to end, under the
  -- stub whose callback posted them.
  tasks : List (Nat × UInt64)
  executions : List RemoteExecution

namespace RemoteExecutions

inductive Input where
  | beginExecute (request : Attributes) (answers : BeginAnswers)
  | endExecute (request : Attributes) (removing : PreemptAnswers)
  | sendData (requestId : UInt64) (request : Attributes) (select : UInt64 → Bool)
  | finish (executorIndex scheduleId : UInt64)
  | connectionDown (connectionName : Bytes)
  | runTask (removing : PreemptAnswers)
  -- What other contexts do with the pool.
  | pool (op : PoolOp)

def initial : RemoteExecutions := ⟨RemoteSystem.initial.toRemoteAuthService,fun _ => none,[],[]⟩

def procBeginExecuteRequest (s : RemoteExecutions) (request : Attributes) (answers : BeginAnswers) :
    RemoteExecutions × List ExecutorCall :=
  let begun := s.attempt request answers
  let next := {s with
    toRemoteAuthService:=(s.toRemoteAuthService.procBeginExecuteRequest request answers).1,
    callbacks:=Function.update s.callbacks s.nextRef begun.1.stub.connectionCallback}
  match RemoteExecutorStub.issues ⟨{ref:=s.nextRef},0,s.listeners,s.contextPool,s.scheduleNodes⟩ request
      answers with
  | none => (next,[])
  | some (executorIndex,scheduleId,attr) =>
    ({next with executions:=s.executions ++
        [{stub:=s.nextRef,connectionName:=begun.1.stub.connectionName,requestId:=begun.1.scheduleId,executorIndex,scheduleId,
          answer:=answers.beginExecute scheduleId attr}]},[.beginExecute executorIndex scheduleId])

-- For these nothing waits any more that could still end them.
def terminate (s : RemoteExecutions) (due : RemoteExecution → Bool) : RemoteExecutions :=
  {s with executions:=s.executions.map fun execution =>
    {execution with terminated:=execution.terminated || due execution}}

def disconnect (s : RemoteExecutions) (connectionName : Bytes) : RemoteExecutions :=
  {s with executions:=s.executions.map fun execution => {execution with
    disconnected:=execution.disconnected || (execution.connectionName == connectionName && !execution.finished)}}

def procEndExecuteRequest (s : RemoteExecutions) (request : Attributes) (removing : PreemptAnswers) :
    RemoteExecutions × List ExecutorCall :=
  ({s with toRemoteAuthService:=(s.toRemoteAuthService.procEndExecuteRequest request removing).1},[])

-- OnConnectStatus of the stubs' callbacks on the connection that is lost.
def lost (s : RemoteExecutions) (connectionName : Bytes) : List (Nat × UInt64) :=
  (s.listeners.filter (·.connectionName == connectionName)).filterMap fun info =>
    match info.listener with
    | .executorStub ref => (s.callbacks ref).map (ref,·)
    | _ => none

def onConnectionDown (s : RemoteExecutions) (connectionName : Bytes) : RemoteExecutions :=
  {s with
    listeners:=RemoteConnectListenerManager.onConnectionDown s.listeners connectionName,
    tasks:=s.tasks ++ s.lost connectionName}

def runTask (s : RemoteExecutions) (removing : PreemptAnswers) : RemoteExecutions × List ExecutorCall :=
  match s.tasks with
  | [] => (s,[])
  | (_,scheduleId) :: rest =>
    let s := {s with tasks:=rest}
    match empty.set (setUint64Value ATTR_SCHEDULE_ID scheduleId) with
    | none => (s,[])
    | some request => s.procEndExecuteRequest request removing

-- An END_EXECUTE is dealt with as it comes, a disconnect once the task that the
-- stub's callback has posted runs, or as it comes where it posts none.
def named (request : Attributes) (execution : RemoteExecution) : Bool :=
  request.getUint64Value ATTR_SCHEDULE_ID == some execution.requestId && !execution.finished

def unposted (s : RemoteExecutions) (connectionName : Bytes) (execution : RemoteExecution) : Bool :=
  execution.connectionName == connectionName && !execution.finished &&
    !(s.tasks ++ s.lost connectionName).any (·.1 == execution.stub)

def taskDue (s : RemoteExecutions) (execution : RemoteExecution) : Bool :=
  execution.disconnected && s.tasks.head?.any (·.1 == execution.stub)

def act (s : RemoteExecutions) : Input → RemoteExecutions × List ExecutorCall
  | .beginExecute request answers => s.procBeginExecuteRequest request answers
  | .endExecute request removing =>
    (s.terminate (named request)).procEndExecuteRequest request removing
  | .sendData requestId request select =>
    (s,match s.scheduleId2executorStub[requestId]? with
      | none => []
      | some stub => stub.procSendDataMsg request select)
  | .finish executorIndex scheduleId =>
    ({s with executions:=s.executions.map fun execution => {execution with
      finished:=execution.finished ||
        (execution.executorIndex == executorIndex && execution.scheduleId == scheduleId)}},[])
  | .connectionDown connectionName =>
    (((s.terminate (s.unposted connectionName)).disconnect connectionName).onConnectionDown connectionName,[])
  | .runTask removing => (s.terminate s.taskDue).runTask removing
  | .pool op => ({s with contextPool:=(s.contextPool.step op).1},[])

-- An execution has ended once its EndExecute is among the calls.
def settle (s : RemoteExecutions) (calls : List ExecutorCall) : RemoteExecutions :=
  {s with executions:=s.executions.map fun execution => {execution with
    ended:=execution.ended || calls.contains (.endExecute execution.executorIndex execution.scheduleId)}}

def step (s : RemoteExecutions) (input : Input) : RemoteExecutions × List ExecutorCall :=
  ((s.act input).1.settle (s.act input).2,(s.act input).2)

def machine : Mealy RemoteExecutions Input ExecutorCall := ⟨step⟩

-- Every execution for which an END_EXECUTE or a disconnect came before it finished has
-- been ended, unless its own task still waits.
def Ended (begun : ResultCode → Prop) (s : RemoteExecutions) : Prop :=
  ∀ execution ∈ s.executions, begun execution.answer → execution.terminated = true → execution.ended = true

-- No END_EXECUTE comes for an execution that has not finished, and for a disconnect
-- of its connection before that its own task is posted and does not run yet.
def Spares (begun : ResultCode → Prop) (s : RemoteExecutions) : Input → Prop
  | .endExecute request _ => ∀ execution ∈ s.executions, begun execution.answer →
      request.getUint64Value ATTR_SCHEDULE_ID = some execution.requestId → execution.finished = true
  | .connectionDown connectionName => ∀ execution ∈ s.executions, begun execution.answer →
      execution.connectionName = connectionName → execution.finished = false →
        ∃ task ∈ s.tasks ++ s.lost connectionName, task.1 = execution.stub
  | .runTask _ => ∀ task ∈ s.tasks.head?, ∀ execution ∈ s.executions, begun execution.answer →
      task.1 = execution.stub → execution.disconnected = false
  | _ => True

def NoneTerminated (begun : ResultCode → Prop) (s : RemoteExecutions) : Prop :=
  ∀ execution ∈ s.executions, begun execution.answer → execution.terminated = false

section Steps
variable {s : RemoteExecutions} {begun : ResultCode → Prop}

theorem terminate_none (begun : ResultCode → Prop) (s : RemoteExecutions) (due : RemoteExecution → Bool) :
    NoneTerminated begun (s.terminate due) ↔ NoneTerminated begun s ∧
      ∀ execution ∈ s.executions, begun execution.answer → due execution = false := by
  simp only [NoneTerminated,terminate,List.forall_mem_map,Bool.or_eq_false_iff,imp_and,forall_and]

theorem disconnect_none (s : RemoteExecutions) (connectionName : Bytes) :
    NoneTerminated begun (s.disconnect connectionName) ↔ NoneTerminated begun s := by
  simp only [NoneTerminated,disconnect,List.forall_mem_map]

theorem named_iff (request : Attributes) (execution : RemoteExecution) : named request execution = false ↔
    (request.getUint64Value ATTR_SCHEDULE_ID = some execution.requestId → execution.finished = true) := by
  unfold named
  by_cases same : request.getUint64Value ATTR_SCHEDULE_ID = some execution.requestId <;> simp [same]

theorem unposted_iff (s : RemoteExecutions) (connectionName : Bytes) (execution : RemoteExecution) :
    s.unposted connectionName execution = false ↔
      (execution.connectionName = connectionName → execution.finished = false →
        ∃ task ∈ s.tasks ++ s.lost connectionName, task.1 = execution.stub) := by
  unfold unposted
  by_cases same : execution.connectionName = connectionName
  · cases execution.finished with
    | true => simp
    | false =>
      simp only [same,beq_self_eq_true,Bool.not_false,Bool.and_self,Bool.true_and,Bool.not_eq_false',List.any_eq_true,
        beq_iff_eq,forall_const]
  · simp [same]

theorem taskDue_iff (s : RemoteExecutions) (execution : RemoteExecution) : s.taskDue execution = false ↔
    ∀ task ∈ s.tasks.head?, task.1 = execution.stub → execution.disconnected = false := by
  unfold taskDue
  cases s.tasks.head? with
  | none => simp
  | some task =>
    by_cases own : task.1 = execution.stub <;> simp [own]

theorem begin_none (s : RemoteExecutions) (request : Attributes) (answers : BeginAnswers) :
    NoneTerminated begun (s.procBeginExecuteRequest request answers).1 ↔ NoneTerminated begun s := by
  unfold procBeginExecuteRequest
  dsimp only
  split
  · exact Iff.rfl
  · constructor
    · intro none execution member
      exact none execution (List.mem_append_left _ member)
    · intro none execution member
      obtain old | new := List.mem_append.mp member
      · exact none execution old
      · rw [List.mem_singleton.mp new]
        exact fun _ => rfl

theorem runTask_executions (s : RemoteExecutions) (removing : PreemptAnswers) :
    (s.runTask removing).1.executions = s.executions ∧ (s.runTask removing).2 = [] := by
  unfold runTask
  split
  · exact ⟨rfl,rfl⟩
  · dsimp only
    split <;> exact ⟨rfl,rfl⟩

theorem act_none (s : RemoteExecutions) (input : Input) :
    NoneTerminated begun (s.act input).1 ↔ NoneTerminated begun s ∧ Spares begun s input := by
  cases input with
  | beginExecute request answers => exact (begin_none s request answers).trans (and_iff_left trivial).symm
  | endExecute request removing =>
    have terminated := terminate_none begun s (named request)
    simp only [named_iff] at terminated
    exact terminated
  | finish executorIndex scheduleId =>
    refine Iff.trans ?_ (and_iff_left trivial).symm
    simp only [NoneTerminated,act,List.forall_mem_map]
  | connectionDown connectionName =>
    have terminated := terminate_none begun s (s.unposted connectionName)
    simp only [unposted_iff] at terminated
    exact (disconnect_none _ connectionName).trans terminated
  | runTask removing =>
    have terminated := terminate_none begun s s.taskDue
    simp only [taskDue_iff] at terminated
    rw [NoneTerminated,act,((s.terminate s.taskDue).runTask_executions removing).1]
    refine terminated.trans (and_congr_right fun _ => ?_)
    constructor
    · intro spared task head execution member answered own
      exact spared execution member answered task head own
    · intro spared execution member answered task head own
      exact spared task head execution member answered own
  | sendData => exact (and_iff_left trivial).symm
  | pool => exact (and_iff_left trivial).symm

-- No path of the service sends EndExecute.
theorem act_silent (s : RemoteExecutions) (input : Input) (executorIndex scheduleId : UInt64) :
    .endExecute executorIndex scheduleId ∉ (s.act input).2 := by
  cases input with
  | beginExecute request answers =>
    simp only [act,procBeginExecuteRequest]
    split <;> simp
  | sendData requestId request select =>
    simp only [act,RemoteExecutorStub.procSendDataMsg]
    split
    · simp
    · split
      · simp
      · split <;> simp
  | runTask removing =>
    rw [act,((s.terminate s.taskDue).runTask_executions removing).2]
    exact List.not_mem_nil
  | endExecute | finish | connectionDown | pool => exact List.not_mem_nil

theorem settle_silent (calls : List ExecutorCall)
    (silent : ∀ executorIndex scheduleId, .endExecute executorIndex scheduleId ∉ calls) : s.settle calls = s := by
  have same : ∀ execution ∈ s.executions, {execution with
      ended:=execution.ended || calls.contains (.endExecute execution.executorIndex execution.scheduleId)} =
        execution := by
    intro execution _
    have unsent : calls.contains (.endExecute execution.executorIndex execution.scheduleId) = false := by
      rw [List.contains_eq_mem,decide_eq_false_iff_not]
      exact silent _ _
    rw [unsent,Bool.or_false]
  rw [settle,List.map_congr_left same,List.map_id']

theorem step_none (s : RemoteExecutions) (input : Input) :
    NoneTerminated begun (s.step input).1 ↔ NoneTerminated begun s ∧ Spares begun s input := by
  rw [step,settle_silent _ (s.act_silent input)]
  exact s.act_none input

def Unended (s : RemoteExecutions) : Prop := ∀ execution ∈ s.executions, execution.ended = false

theorem step_unended (s : RemoteExecutions) (input : Input) (unended : Unended s) : Unended (s.step input).1 := by
  rw [step,settle_silent _ (s.act_silent input)]
  cases input with
  | beginExecute request answers =>
    simp only [act,procBeginExecuteRequest]
    split
    · exact unended
    · intro execution member
      obtain old | new := List.mem_append.mp member
      · exact unended execution old
      · rw [List.mem_singleton.mp new]
  | endExecute request removing => exact List.forall_mem_map.mpr unended
  | finish executorIndex scheduleId => exact List.forall_mem_map.mpr unended
  | connectionDown connectionName => exact List.forall_mem_map.mpr (List.forall_mem_map.mpr unended)
  | runTask removing =>
    rw [Unended,act,((s.terminate s.taskDue).runTask_executions removing).1]
    exact List.forall_mem_map.mpr unended
  | sendData | pool => exact unended

end Steps

theorem run_none (begun : ResultCode → Prop) (s : RemoteExecutions) (inputs : List Input) :
    NoneTerminated begun (machine.after s inputs) ↔
      NoneTerminated begun s ∧ machine.Meets (Spares begun) s inputs := by
  induction inputs generalizing s with
  | nil => exact (and_iff_left trivial).symm
  | cons input rest ih =>
    rw [Mealy.after_cons,Mealy.meets_cons,ih,← and_assoc]
    exact and_congr_left' (s.step_none input)

theorem run_unended (inputs : List Input) : Unended (machine.after initial inputs) :=
  Mealy.invariant (Q:=Unended) step_unended (fun _ member => absurd member List.not_mem_nil) inputs

-- Whichever answers of BeginExecute leave an execution to be ended: a run ends
-- each one exactly if it leaves none to end.
theorem ended_iff (begun : ResultCode → Prop) (inputs : List Input) :
    Ended begun (machine.after initial inputs) ↔ machine.Meets (Spares begun) initial inputs := by
  have none := run_none begun initial inputs
  have fresh : NoneTerminated begun initial := fun _ member => absurd member List.not_mem_nil
  rw [and_iff_right fresh] at none
  rw [← none]
  refine forall_congr' fun execution => forall_congr' fun member => forall_congr' fun _ => ?_
  rw [run_unended inputs execution member]
  cases execution.terminated <;> simp

-- The peer begins an execution and ends it at once.
def endMessage (scheduleId : UInt8) : Attributes :=
  ⟨Std.ExtTreeMap.ofList [(ATTR_MSG_TYPE,[6,0,0,0]),(ATTR_SCHEDULE_ID,[scheduleId,0,0,0,0,0,0,0])] compare⟩

theorem ended_request_runs_on : ¬∀ inputs, Ended (· = ResultCode.SUCCESS) (machine.after initial inputs) := by
  intro all
  have ended := all [.beginExecute (RemoteSystem.beginMessage "a1b2:0007" 1) (RemoteSystem.willing 5),
    .endExecute (endMessage 1) fun _ _ => .keepRunning]
  have unsent := ended ⟨0,ascii "a1b2:0007",1,9,21,ResultCode.SUCCESS,false,false,true,false⟩ (by decide) rfl rfl
  cases unsent

end RemoteExecutions
end UserAuth
