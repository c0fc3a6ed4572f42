import UserAuth.Contexts.BaseContext
import UserAuth.Contexts.ContextFactory
import UserAuth.Lib.Mealy

namespace UserAuth
open Attributes ContextFactory

-- No secret: neither the token nor the root secret.
def NoSecret (attrs : Attributes) : Prop :=
  attrs.hasAttribute ATTR_SIGNATURE = false ∧ attrs.hasAttribute ATTR_ROOT_SECRET = false

instance (attrs : Attributes) : Decidable (NoSecret attrs) := by unfold NoSecret; infer_instance

inductive SudoPhase where
  | PHASE_QUERY | PHASE_RUN | PHASE_END
  deriving DecidableEq,Repr

structure SudoAuthContext where
  base : BaseContext := {}
  para : SudoAuthContextPara
  -- Start was granted and the query of OnStart has not come back.
  querying : Bool := false
  dialogActive : Bool := false
  phase : SudoPhase := .PHASE_QUERY
  childContextId : Option UInt64 := none
  childIsWidget : Bool := false
  stopping : Bool := false

namespace SudoAuthContext
open SudoPhase

def FIRST_LOCKOUT_DURATION_OF_PIN : Int32 := 60 * 1000

-- A child attaches secrets to nothing but success.
structure ChildResult where
  resultCode : ResultCode
  finalResult : Attributes
  guarded : resultCode ≠ ResultCode.SUCCESS → NoSecret finalResult

-- How making and scheduling the child turned out.
structure Launch where
  childCallback : Bool
  child : Option UInt64
  scheduled : Bool

inductive Output where
  | createSimpleAuthContext (para : AuthenticationPara)
  | createWidgetContext (para : AuthWidgetContextPara)
  | setCleaner (childId : UInt64)
  | notifyPreemptStateChanged
  | schedule (childId : UInt64)
  | cancel (childId : UInt64)
  | onResult (resultCode : ResultCode) (finalResult : Attributes)

abbrev Outcome := SudoAuthContext × List Output

def endWithResult (s : SudoAuthContext) (resultCode : ResultCode) (finalResult : Attributes) : Outcome :=
  if s.phase == PHASE_END then (s,[])
  else ({s with phase:=PHASE_END,dialogActive:=false,childContextId:=none},[.onResult resultCode finalResult])

def lockedResult (profile : AuthProfile) : Attributes :=
  let nextPhase := if profile.nextPhaseFreezingTime > 0 then profile.nextPhaseFreezingTime else FIRST_LOCKOUT_DURATION_OF_PIN
  Attributes.empty.setEach [setInt32Value ATTR_RESULT_CODE ResultCode.LOCKED,setInt32Value ATTR_REMAIN_TIMES 0,
    setInt32Value ATTR_FREEZING_TIME profile.freezingTime,setInt32Value ATTR_NEXT_FAIL_LOCKOUT_DURATION nextPhase]

def endWithLocked (s : SudoAuthContext) (profile : AuthProfile) : Outcome :=
  endWithResult s ResultCode.LOCKED (lockedResult profile)

def launchChild (s : SudoAuthContext) (child : UInt64) (scheduled : Bool) : Outcome × Bool :=
  (({s with childContextId:=some child,phase:=PHASE_RUN},[.schedule child]),scheduled)

def startSilentChild (s : SudoAuthContext) (launch : Launch) : Outcome × Bool :=
  if !launch.childCallback then ((s,[]),false)
  else
    let para : AuthenticationPara := {
      tokenId := s.para.tokenId
      userId := s.para.userId
      authType := AuthType.PIN
      atl := s.para.atl
      challenge := s.para.challenge
      endAfterFirstFail := true
      callerName := s.para.callerName
      callerType := s.para.callerType
      sdkVersion := s.para.sdkVersion
      authIntent := .DEFAULT
      isOsAccountVerified := s.para.isOsAccountVerified}
    match launch.child with
    | none => ((s,[.createSimpleAuthContext para]),false)
    | some child =>
      let launched := launchChild s child launch.scheduled
      ((launched.1.1,.createSimpleAuthContext para :: .setCleaner child :: launched.1.2),launched.2)

def startWidgetChild (s : SudoAuthContext) (profile : AuthProfile) (launch : Launch) : Outcome × Bool :=
  if !launch.childCallback then ((s,[]),false)
  else
    let para : AuthWidgetContextPara := {
      isBackgroundApplication := !s.para.needSubscribeAppState
      userId := s.para.userId
      sdkVersion := s.para.sdkVersion
      isOsAccountVerified := s.para.isOsAccountVerified
      tokenId := s.para.tokenId
      callerName := s.para.callerName
      callerType := s.para.callerType
      challenge := s.para.challenge
      authTypeList := [AuthType.PIN]
      atl := s.para.atl
      widgetParam := {title:=s.para.additionalInfo,windowMode:=.DIALOG_BOX}
      authProfileMap := (∅ : Std.ExtTreeMap AuthType AuthProfile).insert AuthType.PIN profile}
    match launch.child with
    | none => ((s,[.createWidgetContext para]),false)
    | some child =>
      let launched := launchChild {s with dialogActive:=true} child launch.scheduled
      ((launched.1.1,.createWidgetContext para :: .notifyPreemptStateChanged :: launched.1.2),launched.2)

def dispatchByProfile (s : SudoAuthContext) (profile : AuthProfile) (launch : Launch) : Outcome :=
  if s.phase != PHASE_QUERY then (s,[])
  else if profile.freezingTime > 0 then endWithLocked s profile
  else if profile.remainTimes == 1 then
    let started := startWidgetChild {s with childIsWidget:=true} profile launch
    if !started.2 then
      Mealy.andThen started.1 fun s => endWithResult {s with childIsWidget:=false} ResultCode.GENERAL_ERROR Attributes.empty
    else started.1
  else
    let started := startSilentChild s launch
    if !started.2 then Mealy.andThen started.1 fun s => endWithResult s ResultCode.GENERAL_ERROR Attributes.empty
    else started.1

def onStart (s : SudoAuthContext) (query : EngineReply AuthProfile) (launch : Launch) : Outcome :=
  match query with
  | .refused code _ =>
    if code == ResultCode.NOT_ENROLLED then endWithResult s ResultCode.NOT_ENROLLED Attributes.empty
    else endWithResult s ResultCode.GENERAL_ERROR Attributes.empty
  | .answered profile => dispatchByProfile s profile launch

def onChildResult (s : SudoAuthContext) (result : ChildResult) (requery : EngineReply AuthProfile) : Outcome :=
  if s.phase != PHASE_RUN then (s,[])
  else if s.stopping || result.resultCode == ResultCode.CANCELED then
    endWithResult s ResultCode.CANCELED result.finalResult
  else if result.resultCode == ResultCode.SUCCESS || !s.childIsWidget then
    endWithResult s result.resultCode result.finalResult
  else match requery with
    | .refused _ _ => endWithResult s result.resultCode result.finalResult
    | .answered profile =>
      if profile.freezingTime > 0 then endWithLocked s profile else endWithResult s result.resultCode result.finalResult

def onStop (s : SudoAuthContext) : Outcome :=
  match s.phase,s.childContextId with
  | PHASE_END,_ => (s,[])
  | PHASE_RUN,some childId => ({s with stopping:=true},[.cancel childId])
  | _,_ => endWithResult s ResultCode.CANCELED Attributes.empty

def onStartFailed (s : SudoAuthContext) (errorCode : ResultCode) : Outcome :=
  let failed := s.base.onStartFailed errorCode
  ({s with base:=failed.1},match failed.2 with
    | none => []
    | some code => [.onResult code Attributes.empty])

-- A start task of the pool: Start, and OnStartFailed where it is refused.
def start (s : SudoAuthContext) : Outcome :=
  let started := s.base.start
  let s := {s with base:=started.1}
  if started.2 then ({s with querying:=true},[]) else onStartFailed s s.base.latestError

def stop (s : SudoAuthContext) : Outcome :=
  let stopped := s.base.stop
  let s := {s with base:=stopped.1}
  match stopped.2 with
  | .alreadyRequested => (s,[])
  | .beforeStart => onStartFailed s ResultCode.CANCELED
  | .onStop => onStop s

-- The profile query runs outside the lock, so that a stop may come between
-- Start and the dispatch.
inductive Input where
  | start
  | profile (query : EngineReply AuthProfile) (launch : Launch)
  | childResult (result : ChildResult) (requery : EngineReply AuthProfile)
  | stop

def step (s : SudoAuthContext) : Input → Outcome
  | .start => start s
  | .profile query launch => if s.querying then onStart {s with querying:=false} query launch else (s,[])
  | .childResult result requery => onChildResult s result requery
  | .stop => stop s

def machine : Mealy SudoAuthContext Input Output := ⟨step⟩

def Guarded : Output → Prop
  | .onResult resultCode finalResult => resultCode ≠ ResultCode.SUCCESS → NoSecret finalResult
  | _ => True

-- A success that finds the stop already accepted brings no secret.
def Withheld (s : SudoAuthContext) : Input → Prop
  | .childResult result _ =>
    s.phase = PHASE_RUN → s.stopping = true → result.resultCode = ResultCode.SUCCESS → NoSecret result.finalResult
  | _ => True

theorem empty_noSecret : NoSecret Attributes.empty := by decide

theorem locked_noSecret (profile : AuthProfile) : NoSecret (lockedResult profile) := by
  have others (key : AttributeKey)
      (apart : key ∉ [ATTR_RESULT_CODE,ATTR_REMAIN_TIMES,ATTR_FREEZING_TIME,ATTR_NEXT_FAIL_LOCKOUT_DURATION]) :
      (lockedResult profile).hasAttribute key = Attributes.empty.hasAttribute key := by
    apply setEach_keeps _
    intro setter member same
    subst same
    apply apart
    simp only [List.mem_cons,List.not_mem_nil,or_false] at member
    obtain rfl | rfl | rfl | rfl := member <;> simp [setInt32Value]
  exact ⟨others _ (by decide),others _ (by decide)⟩

section Results
variable (s : SudoAuthContext)

theorem endWithResult_guarded (bare : resultCode ≠ ResultCode.SUCCESS → NoSecret finalResult) :
    ∀ output ∈ (endWithResult s resultCode finalResult).2, Guarded output := by
  unfold endWithResult
  split
  · simp
  · simpa [Guarded] using bare

theorem endWithLocked_guarded (profile : AuthProfile) : ∀ output ∈ (endWithLocked s profile).2, Guarded output :=
  endWithResult_guarded s fun _ => locked_noSecret profile

theorem endEmpty_guarded (resultCode : ResultCode) :
    ∀ output ∈ (endWithResult s resultCode Attributes.empty).2, Guarded output :=
  endWithResult_guarded s fun _ => empty_noSecret

theorem startSilentChild_guarded (launch : Launch) : ∀ output ∈ (startSilentChild s launch).1.2, Guarded output := by
  unfold startSilentChild
  split
  · simp
  · dsimp only
    split <;> simp [launchChild,Guarded]

theorem startWidgetChild_guarded (profile : AuthProfile) (launch : Launch) :
    ∀ output ∈ (startWidgetChild s profile launch).1.2, Guarded output := by
  unfold startWidgetChild
  split
  · simp
  · dsimp only
    split <;> simp [launchChild,Guarded]

theorem dispatchByProfile_guarded (profile : AuthProfile) (launch : Launch) :
    ∀ output ∈ (dispatchByProfile s profile launch).2, Guarded output := by
  unfold dispatchByProfile
  split
  · simp
  · split
    · exact endWithLocked_guarded s profile
    · split
      · have started := startWidgetChild_guarded {s with childIsWidget:=true} profile launch
        dsimp only
        split
        · exact (Mealy.forall_andThen Guarded).mpr ⟨started,endEmpty_guarded _ _⟩
        · exact started
      · have started := startSilentChild_guarded s launch
        dsimp only
        split
        · exact (Mealy.forall_andThen Guarded).mpr ⟨started,endEmpty_guarded _ _⟩
        · exact started

theorem onStart_guarded (query : EngineReply AuthProfile) (launch : Launch) :
    ∀ output ∈ (onStart s query launch).2, Guarded output := by
  cases query with
  | refused code failed =>
    simp only [onStart]
    split <;> exact endEmpty_guarded s _
  | answered profile => exact dispatchByProfile_guarded s profile launch

theorem onStop_guarded : ∀ output ∈ (onStop s).2, Guarded output := by
  unfold onStop
  split
  · simp
  · simp [Guarded]
  · exact endEmpty_guarded s _

theorem onStartFailed_guarded (errorCode : ResultCode) : ∀ output ∈ (onStartFailed s errorCode).2, Guarded output := by
  unfold onStartFailed
  dsimp only
  split
  · simp
  · simp [Guarded,empty_noSecret]

theorem start_guarded : ∀ output ∈ (start s).2, Guarded output := by
  unfold start
  dsimp only
  split
  · simp
  · exact onStartFailed_guarded _ _

theorem stop_guarded : ∀ output ∈ (stop s).2, Guarded output := by
  unfold stop
  dsimp only
  split
  · simp
  · exact onStartFailed_guarded _ _
  · exact onStop_guarded _

-- Only the branch of an accepted stop changes the code and keeps the child's
-- attributes.
theorem onChildResult_decides (result : ChildResult) (requery : EngineReply AuthProfile) :
    (∀ output ∈ (onChildResult s result requery).2, Guarded output) ↔
      (s.phase = PHASE_RUN → s.stopping = true → result.resultCode = ResultCode.SUCCESS → NoSecret result.finalResult) := by
  have own : ∀ output ∈ (endWithResult s result.resultCode result.finalResult).2, Guarded output :=
    endWithResult_guarded s result.guarded
  by_cases running : s.phase = PHASE_RUN
  · by_cases hurried : s.stopping = true
    · simp only [onChildResult,endWithResult,running,hurried,Bool.true_or,if_true,true_implies]
      have failed : ResultCode.CANCELED ≠ ResultCode.SUCCESS := by decide
      by_cases success : result.resultCode = ResultCode.SUCCESS
      · simp [Guarded,failed,success]
      · simp [Guarded,failed,success,result.guarded success]
    · refine iff_of_true ?_ fun _ accepted => absurd accepted hurried
      rw [Bool.not_eq_true] at hurried
      by_cases cancelled : result.resultCode = ResultCode.CANCELED
      · have bare := result.guarded (by rw [cancelled]; decide)
        simp [onChildResult,running,cancelled,Guarded,endWithResult,bare]
      · simp only [onChildResult,running,bne_self_eq_false,Bool.false_eq_true,if_false,hurried,Bool.false_or,
          beq_eq_false_iff_ne.mpr cancelled]
        split
        · exact own
        · split
          · exact own
          · split
            · exact endWithLocked_guarded s _
            · exact own
  · refine iff_of_true ?_ fun held => absurd held running
    simp [onChildResult,running]

theorem step_decides (input : Input) : (∀ output ∈ (step s input).2, Guarded output) ↔ Withheld s input := by
  cases input with
  | start => exact iff_of_true (start_guarded s) trivial
  | profile query launch =>
    refine iff_of_true ?_ trivial
    simp only [step]
    split
    · exact onStart_guarded _ query launch
    · simp
  | childResult result requery => exact onChildResult_decides s result requery
  | stop => exact iff_of_true (stop_guarded s) trivial

-- Over a whole run: nothing secret leaves under another code exactly when no
-- success carrying a secret finds the stop accepted.
theorem results_guarded (para : SudoAuthContextPara) (inputs : List Input) :
    (∀ output ∈ machine.trace {para} inputs, Guarded output) ↔ machine.Meets Withheld {para} inputs :=
  Mealy.good_iff_meets (Q:=fun _ => True) (fun _ _ _ => trivial) (fun s input _ => step_decides s input) trivial inputs

end Results

instance (output : Output) : Decidable (Guarded output) := by
  cases output <;> unfold Guarded <;> infer_instance

-- The silent child succeeds after the caller's stop and before the pool's
-- cancel task.
def successAfterStop : List Input :=
  [.start,.profile (.answered {remainTimes:=5}) ⟨true,some 12,true⟩,.stop,
    .childResult ⟨ResultCode.SUCCESS,Attributes.empty.setEach [setUint8ArrayValue ATTR_SIGNATURE [7]],fun failed => absurd rfl failed⟩
      (.answered {})]

theorem success_after_stop_leaks : ¬∀ output ∈ machine.trace {para:={userId:=100}} successAfterStop, Guarded output := by
  decide

end SudoAuthContext
end UserAuth
