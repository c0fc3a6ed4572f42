import UserAuth.Lib.Callers
import UserAuth.Remote.RemoteAuthInvoker

namespace UserAuth
open Attributes

namespace RemoteAuthInvokerContext

-- The tasks and callbacks that lead into a context.
inductive Handler where
  | start (env : StartEnv)
  | stop
  | timeOut
  | connectStatus (connectionName : String) (connectStatus : ConnectStatus) (executorInfo : EngineReply Attributes)
      (sendMsgRet : ResultCode)
  | beginReply (reply : Attributes)
  | message (request : Attributes) (engine : AuthResultEngine)

namespace Handler

-- Posted tasks and timers run on the service's one thread. The connection
-- brings messages and replies on its own.
def posted : Handler → Bool
  | .beginReply _ | .message _ _ => false
  | _ => true

-- These look the context up in the pool, the others lock a weak reference.
def selected : Handler → Bool
  | .start _ | .stop => true
  | _ => false

def inputs : Handler → List Input
  | .start env => [.start,.started env]
  | .stop => [.stop]
  | .timeOut => [.timeOut]
  | .connectStatus connectionName status executorInfo sendMsgRet =>
    [.connectStatus connectionName status executorInfo sendMsgRet]
  | .beginReply reply => [.beginReply reply]
  | .message request engine => [.message request engine]

end Handler

def act (s : RemoteAuthInvokerContext) (handler : Handler) : Outcome :=
  (machine.after s handler.inputs,machine.trace s handler.inputs)

def isResult : Output → Bool
  | .onResult _ _ => true
  | _ => false

def results (outputs : List Output) : Nat := outputs.countP isResult

namespace StartEnv

def refuses (env : StartEnv) : Bool :=
  env.verifierUdid.isNone || !env.localUdid || !env.messageCallback || env.registerResult != ResultCode.SUCCESS ||
    env.connectResult != ResultCode.SUCCESS

end StartEnv

-- What a handler finds ends the session.
def ends (s : RemoteAuthInvokerContext) : Handler → Bool
  | .start env => !s.base.startFailDelivered && (s.base.hasStarted || s.base.stopRequested || env.refuses)
  | .stop => s.base.hasStarted || !s.base.stopRequested && !s.base.startFailDelivered
  | .timeOut => s.cancelTimer
  | .connectStatus connectionName connectStatus executorInfo sendMsgRet =>
    s.param.connectionName == connectionName &&
      (connectStatus == .DISCONNECTED || !(sendRequest s executorInfo sendMsgRet).2)
  | .beginReply reply => (reply.getInt32Value ATTR_RESULT_CODE).any (· != ResultCode.SUCCESS)
  | .message request _ => request.getInt32Value ATTR_MSG_TYPE == some SEND_REMOTE_AUTH_RESULT

section Bodies
variable {s : RemoteAuthInvokerContext}

@[simp] theorem results_append (outputs more : List Output) :
    results (outputs ++ more) = results outputs + results more :=
  List.countP_append

theorem onStartFailed_results (errorCode : ResultCode) :
    results (onStartFailed s errorCode).2 = if s.base.startFailDelivered then 0 else 1 := by
  unfold onStartFailed BaseContext.onStartFailed
  split <;> rfl

theorem onStartFailed_starting (errorCode : ResultCode) : (onStartFailed s errorCode).1.starting = s.starting := by
  unfold onStartFailed BaseContext.onStartFailed
  split <;> rfl

-- OnStart reports nothing itself; its refusal does.
structure Started (s : RemoteAuthInvokerContext) (env : StartEnv) (started : Outcome × Bool) : Prop where
  refused : started.2 = !env.refuses
  silent : results started.1.2 = 0
  starting : started.1.1.starting = s.starting
  delivered : started.1.1.base.startFailDelivered = s.base.startFailDelivered

theorem onStart_started (env : StartEnv) : Started s env (onStart s env) := by
  unfold onStart
  dsimp only
  split
  · next missing => exact ⟨by simp [StartEnv.refuses,missing],rfl,rfl,rfl⟩
  · next verifierUdid found =>
    split
    · next missing =>
      refine ⟨?_,rfl,rfl,rfl⟩
      simp only [Bool.or_eq_true,Bool.not_eq_true'] at missing
      rcases missing with absent | absent <;> simp [StartEnv.refuses,absent]
    · next present =>
      simp only [Bool.or_eq_true,Bool.not_eq_true',not_or,Bool.not_eq_false] at present
      split
      · next failed => exact ⟨by simp_all [StartEnv.refuses],rfl,rfl,rfl⟩
      · next registered =>
        split
        · next failed => exact ⟨by simp_all [StartEnv.refuses],rfl,rfl,rfl⟩
        · next connected => exact ⟨by simp_all [StartEnv.refuses],rfl,rfl,rfl⟩

-- A handler that ends the session reports once, any other not at all.
structure Acted (s : RemoteAuthInvokerContext) (handler : Handler) (out : Outcome) : Prop where
  reports : results out.2 = if ends s handler then 1 else 0
  starting : out.1.starting = false

theorem start_refused (begun : s.base.hasStarted = true ∨ s.base.stopRequested = true) :
    start s = onStartFailed {s with base:=s.base.start.1} s.base.start.1.latestError := by
  unfold start
  dsimp only
  rw [BaseContext.start_refused begun]
  rfl

theorem start_granted (fresh : s.base.hasStarted = false) (going : s.base.stopRequested = false) :
    start s = ({s with base:={s.base with hasStarted:=true},starting:=true},[]) := by
  simp [start,BaseContext.start_granted fresh going]

theorem started_resting (resting : s.starting = false) (env : StartEnv) : step s (.started env) = (s,[]) := by
  simp [step,resting]

theorem act_start (env : StartEnv) : act s (.start env) = Mealy.andThen (start s) fun s => step s (.started env) := by
  simp [act,Handler.inputs,machine,step,Mealy.andThen]

theorem start_acted (resting : s.starting = false) (env : StartEnv) : Acted s (.start env) (act s (.start env)) := by
  rw [act_start]
  by_cases begun : s.base.hasStarted = true ∨ s.base.stopRequested = true
  · have rests : (start s).1.starting = false := by
      rw [start_refused begun]
      exact (onStartFailed_starting _).trans resting
    have ends : ends s (.start env) = !s.base.startFailDelivered := by
      rcases begun with started | stopped
      · simp [ends,started]
      · simp [ends,stopped]
    rw [Mealy.andThen,started_resting rests]
    refine ⟨?_,rests⟩
    rw [start_refused begun,results_append,onStartFailed_results,BaseContext.start_delivered,ends]
    cases s.base.startFailDelivered <;> rfl
  · simp only [not_or,Bool.not_eq_true] at begun
    obtain ⟨fresh,going⟩ := begun
    rw [start_granted fresh going,Mealy.andThen]
    have started := onStart_started (s:={s with base:={s.base with hasStarted:=true},starting:=false}) env
    simp only [step,Bool.not_true,Bool.false_eq_true,if_false]
    generalize onStart {s with base:={s.base with hasStarted:=true},starting:=false} env = out at started ⊢
    have ends : ends s (.start env) = (!s.base.startFailDelivered && env.refuses) := by simp [ends,fresh,going]
    split
    · next failed =>
      have refuses : env.refuses = true := by simpa [started.refused] using failed
      refine ⟨?_,(onStartFailed_starting _).trans started.starting⟩
      rw [Mealy.andThen,List.nil_append,results_append,onStartFailed_results,started.silent,started.delivered,ends,refuses]
      cases s.base.startFailDelivered <;> rfl
    · next succeeded =>
      have accepts : env.refuses = false := by simpa [started.refused] using succeeded
      refine ⟨?_,started.starting⟩
      rw [List.nil_append,started.silent,ends,accepts,Bool.and_false]
      rfl

theorem stop_acted (resting : s.starting = false) : Acted s .stop (stop s) := by
  by_cases started : s.base.hasStarted = true
  · have stopped : stop s = onStop s := by simp [stop,BaseContext.stop_begun started]
    rw [stopped]
    exact ⟨by simp [ends,started,onStop,results,isResult],resting⟩
  · have fresh : s.base.hasStarted = false := by simpa using started
    by_cases again : s.base.stopRequested = true
    · have ignored : stop s = (s,[]) := by simp [stop,BaseContext.stop_again fresh again]
      rw [ignored]
      exact ⟨by simp [ends,fresh,again,results],resting⟩
    · have going : s.base.stopRequested = false := by simpa using again
      have ends : ends s .stop = !s.base.startFailDelivered := by simp [ends,fresh,going]
      have refused : stop s = onStartFailed {s with base:={s.base with stopRequested:=true}} ResultCode.CANCELED := by
        simp [stop,BaseContext.stop_fresh fresh going]
      rw [refused]
      refine ⟨?_,(onStartFailed_starting _).trans resting⟩
      rw [onStartFailed_results,ends]
      cases s.base.startFailDelivered <;> rfl

theorem sendRequest_silent (executorInfo : EngineReply Attributes) (sendMsgRet : ResultCode) :
    results (sendRequest s executorInfo sendMsgRet).1.2 = 0 ∧
      (sendRequest s executorInfo sendMsgRet).1.1.starting = s.starting := by
  cases executorInfo with
  | refused => exact ⟨rfl,rfl⟩
  | answered request =>
    unfold sendRequest
    dsimp only
    split <;> exact ⟨rfl,rfl⟩

theorem connectStatus_acted (resting : s.starting = false) (connectionName : String) (status : ConnectStatus)
    (executorInfo : EngineReply Attributes) (sendMsgRet : ResultCode) :
    Acted s (.connectStatus connectionName status executorInfo sendMsgRet)
      (onConnectStatus s connectionName status executorInfo sendMsgRet) := by
  obtain ⟨silent,starting⟩ := sendRequest_silent (s:=s) executorInfo sendMsgRet
  unfold onConnectStatus
  by_cases own : s.param.connectionName = connectionName
  · rw [if_neg (by simp [own])]
    cases status with
    | DISCONNECTED => exact ⟨by simp [ends,own,results,isResult],resting⟩
    | CONNECTED =>
      dsimp only
      split
      · next failed =>
        have ends : ends s (.connectStatus connectionName .CONNECTED executorInfo sendMsgRet) = true := by
          simpa [ends,own] using failed
        refine ⟨?_,starting.trans resting⟩
        rw [ends,Mealy.andThen,results_append,silent]
        rfl
      · next sent =>
        have ends : ends s (.connectStatus connectionName .CONNECTED executorInfo sendMsgRet) = false := by
          simpa [ends,own] using sent
        exact ⟨by simp [ends,silent],starting.trans resting⟩
  · rw [if_pos (by simp [own])]
    exact ⟨by simp [ends,own,results],resting⟩

theorem timeOut_acted (resting : s.starting = false) : Acted s .timeOut (step s .timeOut) := by
  simp only [step]
  split
  · next registered => exact ⟨by simp [ends,registered,onTimeOut,results,isResult],resting⟩
  · next unregistered => exact ⟨by simp [ends,unregistered,results],resting⟩

theorem beginReply_acted (resting : s.starting = false) (reply : Attributes) :
    Acted s (.beginReply reply) (onBeginReply s reply) := by
  unfold onBeginReply
  split
  · next missing => exact ⟨by simp [ends,missing,results],resting⟩
  · next resultCode found =>
    split
    · next failed => exact ⟨by simp_all [ends,results,isResult],resting⟩
    · next succeeded =>
      have quiet : ends s (.beginReply reply) = false := by simp_all [ends]
      split <;> exact ⟨by simp [quiet,results],resting⟩

theorem message_acted (resting : s.starting = false) (request : Attributes) (engine : AuthResultEngine) :
    Acted s (.message request engine) (onMessage s request engine) := by
  have tip : results (procAuthTipMsg request).1 = 0 := by
    unfold procAuthTipMsg
    split <;> rfl
  have replied (condition : Bool) : results (if condition then [Output.reply ResultCode.SUCCESS] else []) = 0 := by
    cases condition <;> rfl
  have apart : SEND_REMOTE_AUTH_TIP ≠ SEND_REMOTE_AUTH_RESULT := by decide
  refine ⟨?_,?_⟩
  · unfold onMessage
    cases type : request.getInt32Value ATTR_MSG_TYPE with
    | none => simp [ends,type,results]
    | some msgType =>
      simp only [ends,type,results_append,replied,Nat.add_zero]
      by_cases isTip : msgType = SEND_REMOTE_AUTH_TIP
      · simp [isTip,tip,apart]
      · by_cases isResult : msgType = SEND_REMOTE_AUTH_RESULT
        · subst isResult
          simp [isTip,procAuthResultMsg,results,RemoteAuthInvokerContext.isResult]
        · simp [isTip,isResult,results]
  · unfold onMessage
    split <;> exact resting

theorem act_acted (resting : s.starting = false) (handler : Handler) : Acted s handler (act s handler) := by
  cases handler with
  | start env => exact start_acted resting env
  | stop => simpa [act,Handler.inputs,machine,step] using stop_acted resting
  | timeOut => simpa [act,Handler.inputs,machine] using timeOut_acted resting
  | connectStatus connectionName status executorInfo sendMsgRet =>
    simpa [act,Handler.inputs,machine,step] using connectStatus_acted resting connectionName status executorInfo sendMsgRet
  | beginReply reply => simpa [act,Handler.inputs,machine,step] using beginReply_acted resting reply
  | message request engine => simpa [act,Handler.inputs,machine,step] using message_acted resting request engine

end Bodies

end RemoteAuthInvokerContext

-- The context in the pool, in the call that made it, and in the handlers. OnResult
-- tells the caller and then has the Cleaner delete the context.
abbrev InvokerSession := Called RemoteAuthInvokerContext RemoteAuthInvokerContext.Handler

namespace InvokerSession
open RemoteAuthInvokerContext

abbrev Input := Called.Move Handler Empty

def rules : CallRules RemoteAuthInvokerContext Handler Empty Output where
  act := act
  outer _ _ := nofun
  reports := isResult
  ends := ends
  ready _ _ := true
  keeps _ := false
  selected := Handler.selected
  serial := Handler.posted
  mixes _ _ := false

def machine : Mealy InvokerSession Input Output := Called.machine rules

def initial (authParam : AuthParamInner) (param : RemoteAuthInvokerContextParam) : InvokerSession :=
  ⟨{authParam,param},true,true,[]⟩

-- A handler that is to end the session takes its reference while the context is
-- in the pool and no other such handler has one.
def Alone (s : InvokerSession) (i : Input) : Prop := Called.Alone rules s i

-- The step runs no handler that is to end the session.
def Quiet (s : InvokerSession) (i : Input) : Prop := Called.Quiet rules s i

theorem ends_verifier (c : RemoteAuthInvokerContext) (contextId : UInt64) (handler : Handler) :
    ends {c with verifierContextId:=some contextId} handler = c.ends handler := by
  cases handler with
  | connectStatus connectionName status executorInfo sendMsgRet =>
    cases executorInfo with
    | refused => rfl
    | answered request =>
      have sent : (sendRequest {c with verifierContextId:=some contextId} (.answered request) sendMsgRet).2 =
          (sendRequest c (.answered request) sendMsgRet).2 := by
        unfold sendRequest
        dsimp only
        have same : requestSetters {c with verifierContextId:=some contextId} = requestSetters c := rfl
        rw [same]
        split <;> rfl
      simp only [ends,sent]
  | _ => rfl

-- The connection's handlers change nothing that a posted one goes by.
theorem ends_kept (c : RemoteAuthInvokerContext) (handler other : Handler)
    (apart : handler.posted = false ∨ other.posted = false) : (act c handler).1.ends other = c.ends other := by
  cases own : handler.posted with
  | true =>
    have free : other.posted = false := by simpa [own] using apart
    cases other with
    | beginReply | message => rfl
    | _ => cases free
  | false =>
    cases handler with
    | beginReply reply =>
      change (onBeginReply c reply).1.ends other = _
      unfold onBeginReply
      split
      · rfl
      · split
        · rfl
        · split
          · rfl
          · exact ends_verifier c _ other
    | message request engine =>
      change (onMessage c request engine).1.ends other = _
      unfold onMessage
      split <;> rfl
    | _ => cases own

theorem rules_sound : Called.Sound rules fun context => context.starting = false where
  acts _ handler resting := (act_acted resting handler).starting
  reports _ handler resting := (act_acted resting handler).reports
  acted object handler other _ _ _ apart := ⟨rfl,ends_kept object handler other apart⟩
  outer _ _ := nofun
  outside _ _ := nofun

theorem one_result_iff (authParam : AuthParamInner) (param : RemoteAuthInvokerContextParam) (inputs : List Input) :
    let start := initial authParam param
    let delivered := results (machine.trace start inputs)
    let final := machine.after start inputs
    (machine.Meets Alone start inputs →
      delivered ≤ 1 ∧ (¬machine.Meets Quiet start inputs ∨ final.owned = false → delivered = 1)) ∧
    (final.inside = [] → delivered ≤ 1 → machine.Meets Alone start inputs) := by
  have unmixed (s : InvokerSession) (i : Input) (_ : True) : Called.Unmixed rules s i := by
    cases i <;> simp [Called.Unmixed,rules]
  have created : (initial authParam param).object.starting = false := rfl
  exact Called.one_report rules_sound created inputs
    (Mealy.meets_of_guarded (Q:=fun _ => True) (fun s i _ _ => ⟨trivial,unmixed s i trivial⟩) trivial
      (Mealy.meets_trivially inputs))

-- The result's message and the timer have both locked the context before either
-- has it removed.
def resultMessage : Attributes :=
  Attributes.empty.setEach [setInt32Value ATTR_MSG_TYPE SEND_REMOTE_AUTH_RESULT,setInt32Value ATTR_RESULT ResultCode.FAIL]

def timerMeetsResult : List Input :=
  [.enter (.start ⟨some "verifier",true,true,ResultCode.SUCCESS,ResultCode.SUCCESS⟩),.run 0,.leave 0,.returned,
    .enter (.message resultMessage fun _ _ => .refused ResultCode.GENERAL_ERROR generalError_failure),.enter .timeOut,
    .run 0,.run 1,.leave 0,.leave 0]

theorem two_results_delivered : results (machine.trace (initial {} {}) timerMeetsResult) = 2 := by
  decide

end InvokerSession
end UserAuth
