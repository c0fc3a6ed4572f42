import UserAuth.Lib.Callers
import UserAuth.Remote.RemoteAuth

namespace UserAuth
open Attributes

namespace RemoteAuthContext

-- A schedule that has still to report to the context.
def inFlight (s : RemoteAuthContext) : Bool := s.schedules.any (·.owner.callback)

def startsAuth (s : RemoteAuthContext) (env : StartAuthEnv) : Bool :=
  s.executorInfoMsg.length != 0 && (env.executorInfos s.executorInfoMsg).any fun executorInfos =>
    !(executorInfos == 0 || env.startExecutorRet != ResultCode.SUCCESS || env.collectorUdid.isNone || !env.localUdid) &&
      env.begin.value false

def connects (env : StartEnv) : Bool :=
  env.registerResult == ResultCode.SUCCESS && env.connectResult == ResultCode.SUCCESS

def begins (s : RemoteAuthContext) (env : StartEnv) : Bool :=
  if s.needSetupConnection then connects env else s.startsAuth env.auth

-- What a handler finds ends the session: by the context's own report, or in the
-- turn in which a schedule reports.
def ends (s : RemoteAuthContext) : Handler → Bool
  | .start env => !s.base.startFailDelivered && (s.base.hasStarted || s.base.stopRequested || !s.begins env)
  | .stop _ => !s.base.hasStarted && !s.base.stopRequested && !s.base.startFailDelivered
  | .timeOut => s.cancelTimer
  | .connectStatus connectionName status localUdid sendMsgRet => s.connectionName == connectionName &&
      (status == .DISCONNECTED || !(sendQueryExecutorInfoMsg s localUdid sendMsgRet).2)
  | .queryReply reply => (reply.getInt32Value ATTR_RESULT_CODE).any (· != ResultCode.SUCCESS)
  | .startAuthDelayed env => s.delayed != 0 && !s.startsAuth env
  | .scheduleInner schedule _ _ => s.schedules[schedule]?.any ScheduleNodeImpl.finishing

section Bodies
variable {s : RemoteAuthContext}

@[simp] theorem results_append (outputs more : List Output) :
    results (outputs ++ more) = results outputs + results more :=
  List.countP_append

-- A handler reports once where it ends the session and never elsewhere.
def Acted (s : RemoteAuthContext) (handler : Handler) (out : Outcome) : Prop :=
  results out.2 = if s.ends handler then 1 else 0

theorem onStartFailed_results (errorCode : ResultCode) :
    results (onStartFailed s errorCode).2 = if s.base.startFailDelivered then 0 else 1 := by
  unfold onStartFailed BaseContext.onStartFailed
  split <;> rfl

theorem authStart_started (reply : EngineReply Bool) (expires : Bool) :
    (authStart s reply expires).2 = reply.value false ∧
      (authStart s reply expires).1.base.startFailDelivered = s.base.startFailDelivered := by
  unfold authStart
  cases reply.value false with
  | true => exact ⟨rfl,rfl⟩
  | false => exact ⟨rfl,rfl⟩

theorem startAuth_started (env : StartAuthEnv) :
    (startAuth s env).2 = s.startsAuth env ∧
      (startAuth s env).1.base.startFailDelivered = s.base.startFailDelivered := by
  unfold startAuth
  split
  · next missing =>
    have refused : s.startsAuth env = false := by
      rw [startsAuth,bne,missing]
      rfl
    exact ⟨refused.symm,rfl⟩
  · next present =>
    have message : (s.executorInfoMsg.length != 0) = true := by simpa using present
    split
    · next undecoded =>
      have refused : s.startsAuth env = false := by simp [startsAuth,undecoded]
      exact ⟨refused.symm,rfl⟩
    · next executorInfos decoded =>
      split
      · next failed =>
        have refused : s.startsAuth env = false := by
          rw [startsAuth,decoded,Option.any_some,failed]
          exact Bool.and_false _
        exact ⟨refused.symm,rfl⟩
      · next ready =>
        have same : s.startsAuth env = env.begin.value false := by
          rw [startsAuth,decoded,Option.any_some,message,Bool.eq_false_iff.mpr ready]
          rfl
        obtain ⟨started,delivered⟩ := authStart_started (s:=s) env.begin env.expires
        exact ⟨started.trans same.symm,delivered⟩

structure Started (s : RemoteAuthContext) (env : StartEnv) (out : Outcome × Bool) : Prop where
  started : out.2 = s.begins env
  silent : results out.1.2 = 0
  delivered : out.1.1.base.startFailDelivered = s.base.startFailDelivered

theorem onStart_started (env : StartEnv) : Started s env (onStart s env) := by
  unfold onStart
  dsimp only
  by_cases connected : s.needSetupConnection = true
  · rw [if_pos connected]
    unfold setupConnection
    dsimp only
    split
    · next failed => exact ⟨by simp_all [begins,connects],rfl,rfl⟩
    · next registered =>
      split
      · next failed => exact ⟨by simp_all [begins,connects],rfl,rfl⟩
      · next opened => exact ⟨by simp_all [begins,connects],rfl,rfl⟩
  · rw [if_neg connected]
    obtain ⟨started,delivered⟩ := startAuth_started (s:={s with cancelTimer:=true}) env.auth
    have same : s.begins env = s.startsAuth env.auth := if_neg connected
    exact ⟨started.trans same.symm,rfl,delivered⟩

-- A failed start of the session reports, unless that was done before.
theorem failed_acted (first : List Output) (ended : s.ends handler = !s.base.startFailDelivered)
    (delivered : c.base.startFailDelivered = s.base.startFailDelivered) (silent : results first = 0)
    (errorCode : ResultCode) :
    Acted s handler ((onStartFailed c errorCode).1,first ++ (onStartFailed c errorCode).2) := by
  rw [Acted,results_append,silent,onStartFailed_results,ended,delivered]
  cases s.base.startFailDelivered <;> rfl

theorem start_acted (env : StartEnv) : Acted s (.start env) (start s env) := by
  by_cases begun : s.base.hasStarted = true ∨ s.base.stopRequested = true
  · have ended : s.ends (.start env) = !s.base.startFailDelivered := by
      rcases begun with started | stopped
      · simp [ends,started]
      · simp [ends,stopped]
    rw [start]
    simp only [BaseContext.start_refused begun,Bool.not_false,if_true]
    exact failed_acted (c:={s with base:=s.base.start.1}) [] ended BaseContext.start_delivered rfl _
  · simp only [not_or,Bool.not_eq_true] at begun
    obtain ⟨fresh,going⟩ := begun
    have started := onStart_started (s:={s with base:={s.base with hasStarted:=true}}) env
    rw [start,BaseContext.start_granted fresh going]
    simp only [Bool.not_true,Bool.false_eq_true,if_false]
    generalize onStart {s with base:={s.base with hasStarted:=true}} env = out at started ⊢
    have begun : out.2 = s.begins env := started.started
    split
    · next failed =>
      have refused : s.begins env = false := by simpa [begun] using failed
      have ended : s.ends (.start env) = !s.base.startFailDelivered := by simp [ends,fresh,going,refused]
      exact failed_acted out.1.2 ended started.delivered started.silent _
    · next succeeded =>
      have accepted : s.begins env = true := by simpa [begun] using succeeded
      have calm : s.ends (.start env) = false := by simp [ends,fresh,going,accepted]
      rw [Acted,started.silent,calm]
      rfl

theorem stop_acted (reply : EngineReply Unit) : Acted s (.stop reply) (stop s reply) := by
  by_cases started : s.base.hasStarted = true
  · have stopped : stop s reply = (onStop s reply,[]) := by simp [stop,BaseContext.stop_begun started]
    rw [stopped]
    simp [Acted,ends,started,results]
  · have fresh : s.base.hasStarted = false := by simpa using started
    by_cases again : s.base.stopRequested = true
    · have ignored : stop s reply = (s,[]) := by simp [stop,BaseContext.stop_again fresh again]
      rw [ignored]
      simp [Acted,ends,again,results]
    · have going : s.base.stopRequested = false := by simpa using again
      have ended : s.ends (.stop reply) = !s.base.startFailDelivered := by simp [ends,fresh,going]
      have refused : stop s reply = onStartFailed {s with base:={s.base with stopRequested:=true}} ResultCode.CANCELED := by
        simp [stop,BaseContext.stop_fresh fresh going]
      rw [refused]
      exact failed_acted (c:={s with base:={s.base with stopRequested:=true}}) [] ended rfl rfl _

theorem sendQuery_silent (localUdid : Bool) (sendMsgRet : ResultCode) :
    results (sendQueryExecutorInfoMsg s localUdid sendMsgRet).1 = 0 := by
  unfold sendQueryExecutorInfoMsg
  dsimp only
  split <;> rfl

theorem connectStatus_acted (connectionName : Bytes) (status : ConnectStatus) (localUdid : Bool)
    (sendMsgRet : ResultCode) :
    Acted s (.connectStatus connectionName status localUdid sendMsgRet)
      (onConnectStatus s connectionName status localUdid sendMsgRet) := by
  have silent := sendQuery_silent (s:=s) localUdid sendMsgRet
  unfold onConnectStatus
  by_cases own : s.connectionName = connectionName
  · rw [if_neg (by simp [own])]
    cases status with
    | DISCONNECTED => simp [Acted,ends,own,results,isResult]
    | CONNECTED =>
      rw [Acted,results_append,silent]
      cases sent : (sendQueryExecutorInfoMsg s localUdid sendMsgRet).2 with
      | true => simp [ends,sent,results]
      | false => simp [ends,own,sent,results,isResult]
  · rw [if_pos (by simp [own])]
    simp [Acted,ends,own,results]

theorem timeOut_acted : Acted s .timeOut (act s .timeOut) := by
  simp only [act]
  split
  · next registered => simp [Acted,ends,registered,onTimeOut,results,isResult]
  · next unregistered => simp [Acted,ends,unregistered,results]

theorem queryReply_acted (reply : Attributes) : Acted s (.queryReply reply) (onQueryReply s reply) := by
  unfold onQueryReply
  split
  · next missing => simp [Acted,ends,missing,results]
  · next resultCode found =>
    split
    · next failed => simp_all [Acted,ends,results,isResult]
    · next succeeded => simp_all [Acted,ends,results]

theorem startAuthDelayed_acted (env : StartAuthEnv) :
    Acted s (.startAuthDelayed env) (act s (.startAuthDelayed env)) := by
  simp only [act]
  split
  · next none => simp [Acted,ends,none,results]
  · next posted =>
    have started := (startAuth_started (s:={s with delayed:=s.delayed - 1}) env).1
    have waiting : (s.delayed != 0) = true := by simpa using posted
    have same : startsAuth {s with delayed:=s.delayed - 1} env = s.startsAuth env := rfl
    unfold startAuthDelayed
    dsimp only
    rw [started,same]
    cases begins : s.startsAuth env with
    | true => simp [Acted,ends,begins,results]
    | false => simp [Acted,ends,waiting,begins,results,isResult]

theorem onResult_reports (answers : SimpleAuthContext.ResultAnswers) (c : SimpleAuthContext.State)
    (resultCode : ResultCode) (scheduleResult : Option Attributes) :
    results ((SimpleAuthContext.onResult c answers resultCode scheduleResult).2.map .simple) = 1 := by
  simp only [SimpleAuthContext.onResult,List.map_append,results_append]
  split <;> rfl

theorem onEffects_reports (answers : SimpleAuthContext.ResultAnswers) (c : SimpleAuthContext.State)
    (effects : List ScheduleNode.Effect) :
    results ((SimpleAuthContext.onEffects answers c effects).2.map .simple) =
      effects.countP ScheduleNode.Effect.isStoped := by
  induction effects generalizing c with
  | nil => rfl
  | cons effect rest ih =>
    have first : results ((SimpleAuthContext.onEffect answers c effect).2.map .simple) =
        if effect.isStoped then 1 else 0 := by
      cases effect with
      | onScheduleStoped result scheduleResult => exact onResult_reports answers c result scheduleResult
      | _ => rfl
    rw [SimpleAuthContext.onEffects,List.map_append,results_append,first,ih,List.countP_cons]
    exact Nat.add_comm _ _

theorem scheduleInner_stoped (node : ScheduleNodeImpl) (env : ScheduleNode.Env) :
    (FiniteStateMachineImpl.scheduleInner ScheduleNode.table env node).2.countP ScheduleNode.Effect.isStoped =
      if node.finishing then 1 else 0 := by
  cases ends : node.finishing with
  | true =>
    rw [ScheduleNodeImpl.scheduleInner_finishing node env ends]
    rfl
  | false =>
    have silent := ScheduleNodeImpl.scheduleInner_silent node env ends
    exact List.countP_eq_zero.mpr fun effect member => by simp [silent effect member]

theorem scheduleInner_acted (schedule : Nat) (env : ScheduleNode.Env) (answers : SimpleAuthContext.ResultAnswers) :
    Acted s (.scheduleInner schedule env answers) (scheduleInner s schedule env answers) := by
  unfold scheduleInner
  split
  · next missing => simp [Acted,ends,missing,results]
  · next node found =>
    have concludes : s.ends (.scheduleInner schedule env answers) = ScheduleNodeImpl.finishing node := by
      simp [ends,found]
    have stoped := scheduleInner_stoped node env
    dsimp only
    rw [Acted,onEffects_reports,stoped,concludes]

theorem act_acted (handler : Handler) : Acted s handler (act s handler) := by
  cases handler with
  | start env => exact start_acted env
  | stop reply => exact stop_acted reply
  | timeOut => exact timeOut_acted
  | connectStatus connectionName status localUdid sendMsgRet =>
    exact connectStatus_acted connectionName status localUdid sendMsgRet
  | queryReply reply => exact queryReply_acted reply
  | startAuthDelayed env => exact startAuthDelayed_acted env
  | scheduleInner schedule env answers => exact scheduleInner_acted schedule env answers

end Bodies

-- A reply that brings executor info changes what a start that waits comes to.
def informs : Handler → Handler → Bool
  | .queryReply reply,.start _ | .queryReply reply,.startAuthDelayed _ =>
    reply.getInt32Value ATTR_RESULT_CODE == some ResultCode.SUCCESS
  | _,_ => false

theorem ends_reply (s : RemoteAuthContext) (reply : Attributes) (other : Handler)
    (apart : informs (.queryReply reply) other = false) (ready : s.ready other = true) :
    (onQueryReply s reply).1.ready other = true ∧ (onQueryReply s reply).1.ends other = s.ends other := by
  unfold onQueryReply
  split
  · exact ⟨ready,rfl⟩
  · next resultCode found =>
    split
    · exact ⟨ready,rfl⟩
    · next succeeded =>
      have success : resultCode = ResultCode.SUCCESS := by simpa using succeeded
      cases other with
      | start | startAuthDelayed => simp [informs,found,success] at apart
      | _ => exact ⟨ready,rfl⟩

-- Of two handlers that are not both posted one is a reply.
theorem ends_kept (s : RemoteAuthContext) (handler other : Handler) (ready : s.ready other = true)
    (apart : informs handler other = false) (free : handler.posted = false ∨ other.posted = false) :
    (act s handler).1.ready other = true ∧ (act s handler).1.ends other = s.ends other := by
  cases own : handler.posted with
  | true =>
    have reply : other.posted = false := by simpa [own] using free
    cases other with
    | queryReply reply => exact ⟨rfl,rfl⟩
    | _ => cases reply
  | false =>
    cases handler with
    | queryReply reply => exact ends_reply s reply other apart ready
    | _ => cases own

-- An event behind the one that a schedule is to handle.
def Queued (push : ScheduleNodeImpl → ScheduleNodeImpl) : Prop :=
  ∀ node, node.pendingEvents.isEmpty = false →
    (push node).pendingEvents.isEmpty = false ∧ (push node).finishing = node.finishing

theorem schedule_queued (owner : ScheduleNode.Owner → ScheduleNode.Owner) (event : ScheduleNode.Event)
    (kept : ∀ o, (owner o).callback = o.callback) :
    Queued fun node => {node with owner:=owner node.owner}.schedule event := by
  intro node waiting
  obtain ⟨state,events,o⟩ := node
  cases events with
  | nil => cases waiting
  | cons first rest => exact ⟨rfl,by simp [ScheduleNodeImpl.finishing,FiniteStateMachineImpl.schedule,kept]⟩

theorem timeOut_queued : Queued ScheduleNodeImpl.timeOut := by
  intro node waiting
  unfold ScheduleNodeImpl.timeOut
  split
  · exact ⟨waiting,rfl⟩
  · exact schedule_queued (fun o => {o with timer:=false,fwkResultCode:=some ResultCode.TIMEOUT}) .E_TIME_OUT
      (fun _ => rfl) node waiting

theorem modify_kept (s : RemoteAuthContext) (queued : Queued push) (schedule : Nat) (other : Handler)
    (ready : s.ready other = true) :
    RemoteAuthContext.ready {s with schedules:=s.schedules.modify schedule push} other = true ∧
      ends {s with schedules:=s.schedules.modify schedule push} other = s.ends other := by
  cases other with
  | scheduleInner index env answers =>
    simp only [RemoteAuthContext.ready,ends,List.getElem?_modify] at ready ⊢
    cases found : s.schedules[index]? with
    | none => simp [found] at ready
    | some node =>
      have waiting : node.pendingEvents.isEmpty = false := by simpa [found] using ready
      have kept := queued node waiting
      by_cases here : schedule = index
      · simp [here,kept]
      · simp [here,waiting]
  | _ => exact ⟨ready,rfl⟩

theorem post_kept (owned : Bool) (s : RemoteAuthContext) (posted : Posted) (other : Handler)
    (ready : s.ready other = true) :
    (s.post owned posted).ready other = true ∧ (s.post owned posted).ends other = s.ends other := by
  have same (finishing : List (Nat × ResultCode × Option Attributes)) (c : RemoteAuthContext) :
      RemoteAuthContext.ready {c with finishing} other = c.ready other ∧ ends {c with finishing} other = c.ends other := by
    cases other <;> exact ⟨rfl,rfl⟩
  cases posted with
  | finish schedule resultCode finalResult =>
    simp only [post]
    split
    · exact ⟨(same _ s).1.trans ready,(same _ s).2⟩
    · exact ⟨ready,rfl⟩
  | continueSchedule position =>
    simp only [post]
    split
    · exact ⟨ready,rfl⟩
    · next schedule resultCode finalResult found =>
      have queued : Queued fun node => node.continueSchedule resultCode finalResult :=
        schedule_queued (fun o => {o with executorResultCode:=resultCode,scheduleResult:=finalResult}) _ fun _ => rfl
      have kept := modify_kept s queued schedule other ready
      exact ⟨(same _ _).1.trans kept.1,(same _ _).2.trans kept.2⟩
  | scheduleTimeOut schedule => exact modify_kept s timeOut_queued schedule other ready
  | executorDeleted schedule =>
    exact modify_kept s
      (schedule_queued (fun o => {o with fwkResultCode:=some ResultCode.GENERAL_ERROR}) _ fun _ => rfl)
      schedule other ready

end RemoteAuthContext

-- The context in the pool, in the call that made it, and in the handlers; its
-- schedules hold it too until they have reported.
abbrev RemoteAuthSession := Called RemoteAuthContext RemoteAuthContext.Handler

namespace RemoteAuthSession
open RemoteAuthContext

abbrev Input := Called.Move Handler Posted

def rules : CallRules RemoteAuthContext Handler Posted Output where
  act := act
  outer := post
  reports := isResult
  ends := ends
  ready := ready
  keeps := inFlight
  selected := Handler.selected
  serial := Handler.posted
  mixes := informs

def machine : Mealy RemoteAuthSession Input Output := Called.machine rules

def initial (param : RemoteAuthContextParam) (tokenId : UInt32) (auth : AuthenticationImpl) : RemoteAuthSession :=
  ⟨.create param tokenId auth,true,true,[]⟩

-- A handler that is to end the session, a schedule's turn among them, comes while
-- the context is in the pool and no other such handler is inside.
def Alone (s : RemoteAuthSession) (i : Input) : Prop := Called.Alone rules s i

-- No executor info arrives between a start's taking its reference and its body.
def Unmixed (s : RemoteAuthSession) (i : Input) : Prop := Called.Unmixed rules s i

instance (s : RemoteAuthSession) (i : Input) : Decidable (s.Alone i) := inferInstanceAs (Decidable (Called.Alone _ s i))
instance (s : RemoteAuthSession) (i : Input) : Decidable (s.Unmixed i) :=
  inferInstanceAs (Decidable (Called.Unmixed _ s i))

theorem rules_sound : Called.Sound rules fun _ => True where
  acts _ _ _ := trivial
  reports _ handler _ := act_acted handler
  acted c handler other _ ready apart free := ends_kept c handler other ready apart free
  outer _ _ _ _ := trivial
  outside owned c posted other _ ready := post_kept owned c posted other ready

-- One result where no two handlers that end the session meet. Where two do, both
-- deliver theirs by the time the last handler has left.
theorem one_result (param : RemoteAuthContextParam) (tokenId : UInt32) (auth : AuthenticationImpl) (inputs : List Input)
    (unmixed : machine.Meets Unmixed (initial param tokenId auth) inputs) :
    let start := initial param tokenId auth
    let delivered := results (machine.trace start inputs)
    (machine.Meets Alone start inputs → delivered ≤ 1) ∧
    ((machine.after start inputs).inside = [] → delivered ≤ 1 → machine.Meets Alone start inputs) := by
  have report := Called.one_report rules_sound trivial inputs unmixed
  exact ⟨fun alone => (report.1 alone).1,report.2⟩

def granted : StartEnv :=
  ⟨ResultCode.SUCCESS,ResultCode.SUCCESS,fun _ => some 1,ResultCode.SUCCESS,some [0],true,.answered true,false⟩

def unanswered : SimpleAuthContext.ResultAnswers where
  update _ := .refused ResultCode.GENERAL_ERROR generalError_failure
  source := ⟨none,0,none,fun _ _ => .refused ResultCode.GENERAL_ERROR generalError_failure,none⟩

def oneExecutor : ScheduleNode.Env :=
  ⟨true,true,true,ResultCode.SUCCESS,ResultCode.SUCCESS,ResultCode.SUCCESS,ResultCode.SUCCESS⟩

def remoteAuthentication : AuthenticationImpl := ⟨100,AuthType.PIN,10000,0,false,ResultCode.GENERAL_ERROR,[]⟩

def entered (handler : Handler) : List Input := [.enter handler,.run 0,.leave 0]

def turn : List Input := entered (.scheduleInner 0 oneExecutor unanswered)

def scheduled : List Input := entered (.start granted) ++ [.returned] ++ turn ++ turn ++ turn

-- The executor's result is queued while the context is in the pool.
def scheduleFails : List Input := [.outer (.finish 0 ResultCode.FAIL none),.outer (.continueSchedule 0)]

theorem schedule_result_delivered :
    results (machine.trace (initial {executorInfoMsg:=[0]} 0 remoteAuthentication)
      (scheduled ++ scheduleFails ++ turn)) = 1 :=
  Nat.le_antisymm
    ((one_result {executorInfoMsg:=[0]} 0 remoteAuthentication (scheduled ++ scheduleFails ++ turn)
      (by decide +kernel)).1 (by decide +kernel))
    (by decide +kernel)

-- The context times out between the executor's result and the schedule's turn.
theorem late_result_delivered :
    results (machine.trace (initial {executorInfoMsg:=[0]} 0 remoteAuthentication)
      (scheduled ++ scheduleFails ++ entered .timeOut ++ turn)) = 2 := by
  decide +kernel

end RemoteAuthSession
end UserAuth
