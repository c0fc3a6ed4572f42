import UserAuth.Engine.EngineReply
import UserAuth.Schedule.ScheduleNode

namespace UserAuth
open Attributes

namespace Authentication

structure AuthResultInfo where
  result : ResultCode := 0
  authTrustLevel : UInt32 := 0
  freezingTime : Int32 := 0
  remainTimes : Int32 := 0
  token : Bytes := []
  rootSecret : Bytes := []
  credentialDigest : UInt64 := 0
  credentialCount : UInt16 := 0
  sdkVersion : Int32 := 0
  userId : Int32 := 0
  nextFailLockoutDuration : Int32 := 0
  pinExpiredInfo : Int64 := 0
  remoteAuthResultMsg : Bytes := []
  credentialId : UInt64 := 0
  reEnrollFlag : Bool := false

end Authentication

structure AuthenticationImpl where
  userId : Int32
  authType : AuthType
  atl : UInt32
  sdkVersion : Int32
  running : Bool
  latestError : ResultCode
  authExecutorMsgs : List EngExecutorSendMsg

namespace AuthenticationImpl
open Authentication

def update (auth : AuthenticationImpl) (reply : EngineReply AuthUpdateAnswer) :
    AuthenticationImpl × AuthResultInfo × Bool :=
  let info := reply.value ⟨{},{},by simp⟩ |>.info
  let enrolledState := reply.value ⟨{},{},by simp⟩ |>.enrolledState
  let resultInfo : AuthResultInfo := {
    result := info.result
    authTrustLevel := if info.result == ResultCode.SUCCESS then info.authTrustLevel.getD auth.atl else 0
    freezingTime := info.lockoutDuration
    remainTimes := info.remainAttempts
    token := info.token
    rootSecret := info.rootSecret
    pinExpiredInfo := info.pinExpiredInfo
    credentialDigest := enrolledState.credentialDigest
    credentialCount := enrolledState.credentialCount
    sdkVersion := auth.sdkVersion
    userId := info.userId
    remoteAuthResultMsg := info.remoteAuthResultMsg
    credentialId := info.credentialId
    reEnrollFlag := info.reEnrollFlag}
  ({auth with
      latestError:=setLatestError (setLatestError auth.latestError reply.code) info.result
      authExecutorMsgs:=auth.authExecutorMsgs ++ info.msgs},
    resultInfo,reply.code == ResultCode.SUCCESS && info.result == ResultCode.SUCCESS)

def cancel (auth : AuthenticationImpl) (reply : EngineReply Unit) : AuthenticationImpl × Bool :=
  if !auth.running then (auth,false)
  else
    let auth := {auth with running:=false}
    if reply.code != ResultCode.SUCCESS then ({auth with latestError:=setLatestError auth.latestError reply.code},false)
    else (auth,true)

end AuthenticationImpl

-- What GetPropertyForAuthResult asks: the one schedule node, its verifier's
-- property, and the credential database for the templates of a private PIN.
structure PropertySource where
  schedule : Option AuthType
  authIntent : Int32
  templateIdList : Option (List UInt64)
  credentialInfo : Int32 → AuthType → EngineReply (List (Int32 × UInt64))
  verifier : Option (Attributes → EngineReply Attributes)

namespace SimpleAuthContext
open Authentication

def FIRST_LOCKOUT_DURATION_OF_PIN : Int32 := 60 * 1000
def FIRST_LOCKOUT_DURATION_EXCEPT_PIN : Int32 := 30 * 1000

def getPropertyTemplateIds (source : PropertySource) (authType : AuthType) (resultInfo : AuthResultInfo) :
    Option (List UInt64) :=
  if authType != AuthType.PRIVATE_PIN then source.templateIdList
  else match source.credentialInfo resultInfo.userId authType with
    | .refused _ _ => none
    | .answered infos =>
      let wanted := infos.find? fun info =>
        if source.authIntent == QUESTION_AUTH then info.1 == PIN_QUESTION else info.1 != PIN_QUESTION
      some (wanted.map (·.2)).toList

-- Each value read is stored before the next is tried.
def readProperty (authType : AuthType) (values : Attributes) (resultInfo : AuthResultInfo) : AuthResultInfo :=
  let readTimes (resultInfo : AuthResultInfo) : AuthResultInfo :=
    match values.getInt32Value ATTR_FREEZING_TIME with
    | none => resultInfo
    | some freezingTime =>
      let resultInfo := {resultInfo with freezingTime}
      match values.getInt32Value ATTR_REMAIN_TIMES with
      | none => resultInfo
      | some remainTimes => {resultInfo with remainTimes}
  if authType == AuthType.PIN then
    match values.getInt32Value ATTR_NEXT_FAIL_LOCKOUT_DURATION with
    | none => resultInfo
    | some nextFailLockoutDuration => readTimes {resultInfo with nextFailLockoutDuration}
  else readTimes resultInfo

def getPropertyForAuthResult (source : PropertySource) (resultInfo : AuthResultInfo) : AuthResultInfo :=
  match source.schedule with
  | none => resultInfo
  | some authType =>
    let resultInfo := {resultInfo with nextFailLockoutDuration:=
      if authType == AuthType.PIN then FIRST_LOCKOUT_DURATION_OF_PIN else FIRST_LOCKOUT_DURATION_EXCEPT_PIN}
    if resultInfo.result != ResultCode.FAIL && resultInfo.result != ResultCode.LOCKED then resultInfo
    else match source.verifier,getPropertyTemplateIds source authType resultInfo with
      | some verifier,some templateIdList =>
        let keys := [ATTR_FREEZING_TIME,ATTR_REMAIN_TIMES] ++
          (if authType == AuthType.PIN then [ATTR_NEXT_FAIL_LOCKOUT_DURATION] else [])
        let attr := Attributes.empty.setEach [setUint32ArrayValue ATTR_KEY_LIST keys,
          setUint32Value ATTR_PROPERTY_MODE PROPERTY_MODE_GET,setUint64ArrayValue ATTR_TEMPLATE_ID_LIST templateIdList]
        match verifier attr with
        | .refused _ _ => resultInfo
        | .answered values => readProperty authType values resultInfo
      | _,_ => resultInfo

def credentialDigestSetters (resultInfo : AuthResultInfo) : List Setter :=
  let credentialDigest := if resultInfo.sdkVersion < INNER_API_VERSION_10000 then resultInfo.credentialDigest &&& 0xFFFF
    else resultInfo.credentialDigest
  [setUint64Value ATTR_CREDENTIAL_DIGEST credentialDigest,setUint16Value ATTR_CREDENTIAL_COUNT resultInfo.credentialCount]

def plainSetters (resultInfo : AuthResultInfo) : List Setter :=
  [setInt32Value ATTR_RESULT_CODE resultInfo.result,
    setInt32Value ATTR_NEXT_FAIL_LOCKOUT_DURATION resultInfo.nextFailLockoutDuration] ++
  given (resultInfo.result == ResultCode.FAIL || resultInfo.result == ResultCode.LOCKED ||
      resultInfo.result == ResultCode.SUCCESS)
    [setInt32Value ATTR_FREEZING_TIME resultInfo.freezingTime,setInt32Value ATTR_REMAIN_TIMES resultInfo.remainTimes] ++
  given ((resultInfo.result == ResultCode.SUCCESS || resultInfo.token.length != 0) && resultInfo.sdkVersion > API_VERSION_9)
    (credentialDigestSetters resultInfo) ++
  given (resultInfo.result == ResultCode.SUCCESS)
    [setInt32Value ATTR_USER_ID resultInfo.userId,setUint64Value ATTR_CREDENTIAL_ID resultInfo.credentialId,
      setInt64Value ATTR_PIN_EXPIRED_INFO resultInfo.pinExpiredInfo]

def secretSetters (resultInfo : AuthResultInfo) : List Setter :=
  given (resultInfo.token.length != 0) [setUint8ArrayValue ATTR_SIGNATURE resultInfo.token] ++
  given (resultInfo.rootSecret.length != 0) [setUint8ArrayValue ATTR_ROOT_SECRET resultInfo.rootSecret] ++
  given (resultInfo.remoteAuthResultMsg.length != 0)
    [setUint8ArrayValue ATTR_SIGNED_AUTH_RESULT resultInfo.remoteAuthResultMsg] ++
  [setBoolValue ATTR_RE_ENROLL_FLAG resultInfo.reEnrollFlag]

def setAuthResultAttributes (resultInfo : AuthResultInfo) : Attributes :=
  (Attributes.empty.setAll (plainSetters resultInfo ++ secretSetters resultInfo)).1

-- What a run shows outside. A report carries what it was made from: the
-- schedule's final code, absent for a failed start, and the update's verdict.
structure Report where
  finalCode : Option ResultCode
  updated : Bool
  resultCode : ResultCode
  extraInfo : Attributes

inductive Output where
  | scheduleEffect (effect : ScheduleNode.Effect)
  | cachePinUpdateParam (reEnrollFlag : Bool)
  | sendAuthExecutorMsg (msgs : List EngExecutorSendMsg)
  | postAuthResult (resultCode : ResultCode) (credentialId : UInt64) (authTrustLevel : UInt32)
  | report (report : Report)

structure State where
  auth : AuthenticationImpl
  latestError : ResultCode
  startFailDelivered : Bool
  node : ScheduleNodeImpl

-- The engine's answer to the payload and the properties read afterwards.
structure ResultAnswers where
  update : Bytes → EngineReply AuthUpdateAnswer
  source : PropertySource

def updateScheduleResult (s : State) (answers : ResultAnswers) (scheduleResultAttr : Option Attributes) :
    State × AuthResultInfo × Bool :=
  match scheduleResultAttr.bind fun attrs => attrs.getUint8ArrayValue ATTR_RESULT with
  | none => (s,{},false)
  | some scheduleResult =>
    let updated := s.auth.update (answers.update scheduleResult)
    let auth := updated.1
    if !updated.2.2 then ({s with auth,latestError:=setLatestError s.latestError auth.latestError},updated.2.1,false)
    else ({s with auth},updated.2.1,true)

def mergeResult (latestError resultCode : ResultCode) (updateRet : Bool) (resultInfo : AuthResultInfo) : AuthResultInfo :=
  if !updateRet then {resultInfo with result:=if resultCode == ResultCode.SUCCESS then latestError else resultCode}
  else if resultCode != resultInfo.result then
    {resultInfo with result:=if resultInfo.result == ResultCode.SUCCESS then resultCode else resultInfo.result}
  else resultInfo

def onResult (s : State) (answers : ResultAnswers) (resultCode : ResultCode) (scheduleResultAttr : Option Attributes) :
    State × List Output :=
  let updated := updateScheduleResult s answers scheduleResultAttr
  let s := updated.1
  let resultInfo := getPropertyForAuthResult answers.source (mergeResult s.latestError resultCode updated.2.2 updated.2.1)
  (s,
    (if resultInfo.result == ResultCode.SUCCESS && s.auth.authType == AuthType.PIN then
      [.cachePinUpdateParam resultInfo.reEnrollFlag] else []) ++
    [.sendAuthExecutorMsg s.auth.authExecutorMsgs,
      .postAuthResult resultInfo.result resultInfo.credentialId resultInfo.authTrustLevel,
      .report ⟨some resultCode,updated.2.2,resultInfo.result,setAuthResultAttributes resultInfo⟩])

def onStop (s : State) (reply : EngineReply Unit) : State :=
  let s := {s with node:=s.node.stopSchedule ResultCode.CANCELED}
  let cancelled := s.auth.cancel reply
  if !cancelled.2 then {s with auth:=cancelled.1,latestError:=setLatestError s.latestError cancelled.1.latestError}
  else {s with auth:=cancelled.1}

def onStartFailed (s : State) (errorCode : ResultCode) : State × List Output :=
  if s.startFailDelivered then (s,[])
  else ({s with startFailDelivered:=true},[.report ⟨none,false,errorCode,Attributes.empty⟩])

-- The node's end notification calls back into the context.
def onEffect (answers : ResultAnswers) (s : State) (effect : ScheduleNode.Effect) : State × List Output :=
  match effect with
  | .onScheduleStoped result scheduleResult =>
    let reported := onResult s answers result scheduleResult
    (reported.1,.scheduleEffect effect :: reported.2)
  | _ => (s,[.scheduleEffect effect])

def onEffects (answers : ResultAnswers) (s : State) : List ScheduleNode.Effect → State × List Output
  | [] => (s,[])
  | effect :: rest =>
    let first := onEffect answers s effect
    let later := onEffects answers first.1 rest
    (later.1,first.2 ++ later.2)

-- A start that the engine grants still fails when no schedule can be built from
-- it; only a refusal leaves an error of its own.
def authStart (s : State) (reply : EngineReply Bool) : State :=
  if reply.value false then {s with auth.running:=true}
  else
    let auth := {s.auth with latestError:=setLatestError s.auth.latestError reply.code}
    {s with auth,latestError:=setLatestError s.latestError auth.latestError}

inductive Input where
  | authStart (reply : EngineReply Bool)
  | startFailed
  | stoppedBeforeStart
  | onStop (reply : EngineReply Unit)
  | schedule (input : ScheduleNodeImpl.Input) (answers : ResultAnswers)

def step (s : State) : Input → State × List Output
  | .authStart reply => (authStart s reply,[])
  | .startFailed => onStartFailed s s.latestError
  | .stoppedBeforeStart => onStartFailed s ResultCode.CANCELED
  | .onStop reply => (onStop s reply,[])
  | .schedule input answers =>
    let moved := s.node.step input
    onEffects answers {s with node:=moved.1} moved.2

def machine : Mealy State Input Output := ⟨step⟩

def create (userId : Int32) (authType : AuthType) (atl : UInt32) (sdkVersion : Int32) (expires : Bool) : State :=
  ⟨⟨userId,authType,atl,sdkVersion,false,ResultCode.GENERAL_ERROR,[]⟩,ResultCode.GENERAL_ERROR,false,
    ScheduleNodeImpl.create expires⟩

def Report.Consistent (r : Report) : Prop :=
  (r.resultCode = ResultCode.SUCCESS ↔ r.finalCode = some ResultCode.SUCCESS ∧ r.updated = true) ∧
  (r.resultCode ≠ ResultCode.SUCCESS → r.resultCode ≠ ResultCode.COMPLEXITY_CHECK_FAILED →
    r.extraInfo.hasAttribute ATTR_SIGNATURE = false ∧ r.extraInfo.hasAttribute ATTR_ROOT_SECRET = false)

def Consistent : Output → Prop
  | .report report => report.Consistent
  | _ => True

-- A secret that the result attributes can hold. A token too long for them
-- ends the setting before the root secret's turn.
def Discloses (token rootSecret : Bytes) : Prop :=
  token.length ≤ MAX_ATTR_LENGTH ∧
    (token ≠ [] ∨ (rootSecret ≠ [] ∧ rootSecret.length ≤ MAX_ATTR_LENGTH))

-- The payload reached the engine and this is what came back.
def Answered (answers : ResultAnswers) (scheduleResult : Option Attributes) (answer : AuthUpdateAnswer) : Prop :=
  ∃ attrs payload, scheduleResult = some attrs ∧ attrs.getUint8ArrayValue ATTR_RESULT = some payload ∧
    answers.update payload = .answered answer

-- Where the schedule ends, a final code other than success and the complexity
-- verdict comes with no payload or with an engine answer that has no secret.
def Withheld (s : State) : Input → Prop
  | .schedule (.scheduleInner _) answers =>
    ScheduleNodeImpl.finishing s.node = true →
    ScheduleNode.finalCode s.node.owner ≠ ResultCode.SUCCESS →
    ScheduleNode.finalCode s.node.owner ≠ ResultCode.COMPLEXITY_CHECK_FAILED →
    ∀ answer, Answered answers s.node.owner.scheduleResult answer →
      ¬Discloses answer.info.token answer.info.rootSecret
  | _ => True

def Failing (s : State) : Prop := s.latestError ≠ ResultCode.SUCCESS ∧ s.auth.latestError ≠ ResultCode.SUCCESS

def plainKeys : List AttributeKey :=
  [ATTR_RESULT_CODE,ATTR_NEXT_FAIL_LOCKOUT_DURATION,ATTR_FREEZING_TIME,ATTR_REMAIN_TIMES,ATTR_CREDENTIAL_DIGEST,
    ATTR_CREDENTIAL_COUNT,ATTR_USER_ID,ATTR_CREDENTIAL_ID,ATTR_PIN_EXPIRED_INFO]
def secretKeys : List AttributeKey :=
  [ATTR_SIGNATURE,ATTR_ROOT_SECRET,ATTR_SIGNED_AUTH_RESULT,ATTR_RE_ENROLL_FLAG]

theorem given_keys (condition : Bool) (setters : List Setter) :
    ((given condition setters).map Setter.key).Sublist (setters.map Setter.key) := (given_sublist _ _).map _

theorem plain_keys (r : AuthResultInfo) : ((plainSetters r).map Setter.key).Sublist plainKeys := by
  unfold plainSetters
  simp only [List.map_append,List.append_assoc]
  refine .append (.refl [ATTR_RESULT_CODE,ATTR_NEXT_FAIL_LOCKOUT_DURATION]) ?_
  exact .append (given_keys _ _) (.append (given_keys _ _) (given_keys _ _))

theorem secret_keys (r : AuthResultInfo) : ((secretSetters r).map Setter.key).Sublist secretKeys := by
  unfold secretSetters
  simp only [List.map_append,List.append_assoc]
  exact .append (given_keys _ _) (.append (given_keys _ _) (.append (given_keys _ _) (.refl _)))

theorem plain_encoded (r : AuthResultInfo) : ∀ setter ∈ plainSetters r, setter.dest.isSome = true := by
  intro setter member
  simp only [plainSetters,List.mem_append] at member
  rcases member with ((member | member) | member) | member
  · simp at member; rcases member with rfl | rfl <;> rfl
  all_goals have member := (given_sublist _ _).subset member
  · simp at member; rcases member with rfl | rfl <;> rfl
  · simp [credentialDigestSetters] at member; rcases member with rfl | rfl <;> rfl
  · simp at member; rcases member with rfl | rfl | rfl <;> rfl

theorem secret_exact (r : AuthResultInfo) (secret : key ∉ plainKeys) :
    (setAuthResultAttributes r).hasAttribute key = true ↔
      ∃ setter ∈ (secretSetters r).takeWhile (·.dest.isSome), setter.key = key := by
  have keys := (plain_keys r).append (secret_keys r)
  rw [←List.map_append] at keys
  have few : (plainSetters r ++ secretSetters r).length ≤ MAX_ATTR_COUNT := by
    have short := keys.length_le
    rw [List.length_map] at short
    exact short.trans (by decide)
  rw [setAuthResultAttributes,setAll_has _ few (keys.nodup (by decide)),List.takeWhile_append_of_pos (plain_encoded r)]
  constructor
  · rintro ⟨setter,member,rfl⟩
    cases List.mem_append.mp member with
    | inl plain => exact absurd ((plain_keys r).subset (List.mem_map_of_mem plain)) secret
    | inr held => exact ⟨setter,held,rfl⟩
  · rintro ⟨setter,member,rfl⟩
    exact ⟨setter,List.mem_append_right _ member,rfl⟩

theorem discloses_exact (r : AuthResultInfo) :
    ((setAuthResultAttributes r).hasAttribute ATTR_SIGNATURE = false ∧
      (setAuthResultAttributes r).hasAttribute ATTR_ROOT_SECRET = false) ↔ ¬Discloses r.token r.rootSecret := by
  have signatureSecret : ATTR_SIGNATURE ∉ plainKeys := by decide
  have rootSecret : ATTR_ROOT_SECRET ∉ plainKeys := by decide
  simp only [←Bool.not_eq_true,secret_exact r signatureSecret,secret_exact r rootSecret]
  rw [←not_or,not_iff_not,Discloses]
  let rest := given (r.remoteAuthResultMsg.length != 0) [setUint8ArrayValue ATTR_SIGNED_AUTH_RESULT r.remoteAuthResultMsg] ++
    [setBoolValue ATTR_RE_ENROLL_FLAG r.reEnrollFlag]
  have others : ∀ setter ∈ rest.takeWhile (·.dest.isSome), setter.key ≠ ATTR_SIGNATURE ∧ setter.key ≠ ATTR_ROOT_SECRET := by
    intro setter member
    cases List.mem_append.mp ((List.takeWhile_sublist _).subset member) with
    | inl message =>
      rw [List.mem_singleton.mp ((given_sublist _ _).subset message)]
      exact (by decide : ATTR_SIGNED_AUTH_RESULT ≠ ATTR_SIGNATURE ∧ ATTR_SIGNED_AUTH_RESULT ≠ ATTR_ROOT_SECRET)
    | inr flag =>
      rw [List.mem_singleton.mp flag]
      exact (by decide : ATTR_RE_ENROLL_FLAG ≠ ATTR_SIGNATURE ∧ ATTR_RE_ENROLL_FLAG ≠ ATTR_ROOT_SECRET)
  have split : secretSetters r = given (r.token.length != 0) [setUint8ArrayValue ATTR_SIGNATURE r.token] ++
      (given (r.rootSecret.length != 0) [setUint8ArrayValue ATTR_ROOT_SECRET r.rootSecret] ++ rest) := by
    simp only [secretSetters,rest,List.append_assoc]
  have signature (value : Bytes) : (setUint8ArrayValue ATTR_SIGNATURE value).key = ATTR_SIGNATURE := rfl
  have secret (value : Bytes) : (setUint8ArrayValue ATTR_ROOT_SECRET value).key = ATTR_ROOT_SECRET := rfl
  have apart : ATTR_SIGNATURE ≠ ATTR_ROOT_SECRET := by decide
  have noSignature : ¬∃ setter ∈ rest.takeWhile (·.dest.isSome), setter.key = ATTR_SIGNATURE :=
    fun ⟨setter,member,same⟩ => (others setter member).1 same
  have noSecret : ¬∃ setter ∈ rest.takeWhile (·.dest.isSome), setter.key = ATTR_ROOT_SECRET :=
    fun ⟨setter,member,same⟩ => (others setter member).2 same
  rw [split]
  by_cases bare : r.token = []
  · by_cases hidden : r.rootSecret = []
    · simp [bare,hidden,noSignature,noSecret]
    · have present : (r.rootSecret.length != 0) = true := by simpa using hidden
      by_cases fits : r.rootSecret.length ≤ MAX_ATTR_LENGTH
      · simp [bare,hidden,present,array_encoded,fits,secret]
      · simp [bare,present,array_encoded,fits]
  · have present : (r.token.length != 0) = true := by simpa using bare
    by_cases fits : r.token.length ≤ MAX_ATTR_LENGTH
    · simp [bare,present,array_encoded,fits,signature]
    · simp [present,array_encoded,fits]

structure SameVerdict (a b : AuthResultInfo) : Prop where
  result : a.result = b.result
  token : a.token = b.token
  rootSecret : a.rootSecret = b.rootSecret

theorem readProperty_verdict (authType : AuthType) (values : Attributes) (r : AuthResultInfo) :
    SameVerdict (readProperty authType values r) r := by
  have times (r : AuthResultInfo) : SameVerdict (match values.getInt32Value ATTR_FREEZING_TIME with
      | none => r
      | some freezingTime => match values.getInt32Value ATTR_REMAIN_TIMES with
        | none => {r with freezingTime}
        | some remainTimes => {r with freezingTime,remainTimes}) r := by
    split
    · exact ⟨rfl,rfl,rfl⟩
    · split <;> exact ⟨rfl,rfl,rfl⟩
  unfold readProperty
  dsimp only
  split
  · split
    · exact ⟨rfl,rfl,rfl⟩
    · rename_i next _
      obtain ⟨result,token,rootSecret⟩ := times {r with nextFailLockoutDuration:=next}
      exact ⟨result,token,rootSecret⟩
  · exact times r

theorem property_verdict (source : PropertySource) (r : AuthResultInfo) :
    SameVerdict (getPropertyForAuthResult source r) r := by
  unfold getPropertyForAuthResult
  split
  · exact ⟨rfl,rfl,rfl⟩
  · dsimp only
    split
    · exact ⟨rfl,rfl,rfl⟩
    · split
      · split
        · exact ⟨rfl,rfl,rfl⟩
        · obtain ⟨result,token,rootSecret⟩ := readProperty_verdict _ _ _
          exact ⟨result,token,rootSecret⟩
      · exact ⟨rfl,rfl,rfl⟩

theorem answered_unique (left : Answered answers scheduleResult a) (right : Answered answers scheduleResult b) : a = b := by
  obtain ⟨attrs,payload,rfl,held,reply⟩ := left
  obtain ⟨_,_,same,other,back⟩ := right
  cases same
  rw [held] at other
  cases other
  rw [reply] at back
  cases back
  rfl

theorem update_failing (s : State) (answers : ResultAnswers) (scheduleResult : Option Attributes) (failing : Failing s) :
    Failing (updateScheduleResult s answers scheduleResult).1 := by
  unfold updateScheduleResult
  split
  · exact failing
  · rename_i payload _
    have error : (s.auth.update (answers.update payload)).1.latestError ≠ ResultCode.SUCCESS :=
      setLatestError_failure (setLatestError_failure failing.2)
    dsimp only
    split
    · exact ⟨setLatestError_failure failing.1,error⟩
    · exact ⟨failing.1,error⟩

theorem update_cases (s : State) (answers : ResultAnswers) (scheduleResult : Option Attributes) :
    let updated := updateScheduleResult s answers scheduleResult
    (updated.2.2 = false ∧ updated.2.1.token = [] ∧ updated.2.1.rootSecret = [] ∧
      ∀ answer, ¬Answered answers scheduleResult answer) ∨
    ∃ answer, Answered answers scheduleResult answer ∧ updated.2.1.token = answer.info.token ∧
      updated.2.1.rootSecret = answer.info.rootSecret ∧ updated.2.1.result = answer.info.result ∧
      updated.2.2 = (answer.info.result == ResultCode.SUCCESS) ∧
      (answer.info.result ≠ ResultCode.SUCCESS → updated.1.latestError = answer.info.result) := by
  intro updated
  cases read : scheduleResult.bind fun attrs => attrs.getUint8ArrayValue ATTR_RESULT with
  | none =>
    left
    simp only [updated,updateScheduleResult,read,true_and]
    rintro answer ⟨attrs,payload,rfl,held,_⟩
    simp [held] at read
  | some payload =>
    obtain ⟨attrs,rfl,held⟩ := Option.bind_eq_some_iff.mp read
    cases reply : answers.update payload with
    | refused code failed =>
      left
      simp only [updated,updateScheduleResult,read,AuthenticationImpl.update,reply,EngineReply.code,EngineReply.value,
        beq_eq_false_iff_ne.mpr failed,Bool.false_and,Bool.not_false,if_true,true_and]
      rintro answer ⟨other,same,equal,got,back⟩
      cases equal
      rw [held] at got
      cases got
      rw [reply] at back
      cases back
    | answered answer =>
      right
      refine ⟨answer,⟨attrs,payload,rfl,held,reply⟩,?_⟩
      simp only [updated,updateScheduleResult,read,AuthenticationImpl.update,reply,EngineReply.code,EngineReply.value,
        beq_self_eq_true,Bool.true_and]
      cases verdict : answer.info.result == ResultCode.SUCCESS with
      | true => simpa using fun failed => absurd (beq_iff_eq.mp verdict) failed
      | false =>
        have failed : answer.info.result ≠ ResultCode.SUCCESS := beq_eq_false_iff_ne.mp verdict
        simp [setLatestError,failed]

theorem merged_verdict (latestError resultCode : ResultCode) (updateRet : Bool) (r : AuthResultInfo)
    (agrees : updateRet = true → r.result = ResultCode.SUCCESS) :
    (mergeResult latestError resultCode updateRet r).result =
      (if updateRet = false ∧ resultCode = ResultCode.SUCCESS then latestError else resultCode) ∧
    (mergeResult latestError resultCode updateRet r).token = r.token ∧
    (mergeResult latestError resultCode updateRet r).rootSecret = r.rootSecret := by
  unfold mergeResult
  cases updateRet with
  | false =>
    refine ⟨?_,rfl,rfl⟩
    by_cases success : resultCode = ResultCode.SUCCESS <;> simp [success]
  | true =>
    have agrees := agrees rfl
    by_cases success : resultCode = ResultCode.SUCCESS <;> simp [agrees,success]

-- The report of an end notification is right exactly when a code that is no
-- success and no complexity verdict comes without a secret.
theorem onResult_consistent (s : State) (answers : ResultAnswers) (code : ResultCode) (scheduleResult : Option Attributes)
    (failing : Failing s) :
    (∀ output ∈ (onResult s answers code scheduleResult).2, Consistent output) ↔
      (code ≠ ResultCode.SUCCESS → code ≠ ResultCode.COMPLEXITY_CHECK_FAILED →
        ∀ answer, Answered answers scheduleResult answer → ¬Discloses answer.info.token answer.info.rootSecret) := by
  have failing := update_failing s answers scheduleResult failing
  have source := update_cases s answers scheduleResult
  unfold onResult
  dsimp only at source ⊢
  generalize updateScheduleResult s answers scheduleResult = updated at failing source
  obtain ⟨next,info,updateRet⟩ := updated
  dsimp only at failing source ⊢
  have agrees : updateRet = true → info.result = ResultCode.SUCCESS := by
    intro succeeded
    rcases source with ⟨refused,_⟩ | ⟨answer,_,_,_,result,verdict,_⟩
    · simp [succeeded] at refused
    · rw [result]
      simpa [succeeded] using verdict.symm
  obtain ⟨result,token,secret⟩ := merged_verdict next.latestError code updateRet info agrees
  have property := property_verdict answers.source (mergeResult next.latestError code updateRet info)
  have cached (condition : Bool) (flag : Bool) :
      ∀ output ∈ (if condition then [Output.cachePinUpdateParam flag] else []), Consistent output := by
    cases condition <;> simp [Consistent]
  rw [List.forall_mem_append,iff_true_intro (cached _ _),true_and]
  simp only [List.forall_mem_cons,Consistent,true_and,Report.Consistent,discloses_exact]
  rw [property.result,property.token,property.rootSecret,result,token,secret]
  simp only [List.not_mem_nil,false_imp_iff,implies_true,and_true,Option.some.injEq]
  rcases source with ⟨refused,bare,hidden,unanswered⟩ | ⟨answer,answered,tokenAt,secretAt,_,verdict,error⟩
  · have nothing : ¬Discloses info.token info.rootSecret := by simp [Discloses,bare,hidden]
    refine iff_of_true ⟨?_,fun _ _ => nothing⟩ fun _ _ answer held => absurd held (unanswered answer)
    subst refused
    by_cases success : code = ResultCode.SUCCESS <;> simp [success,failing.1]
  · have unique : (∀ other, Answered answers scheduleResult other →
        ¬Discloses other.info.token other.info.rootSecret) ↔ ¬Discloses info.token info.rootSecret := by
      rw [tokenAt,secretAt]
      exact ⟨fun all => all answer answered,fun held other same => by rwa [answered_unique same answered]⟩
    rw [unique]
    by_cases success : code = ResultCode.SUCCESS
    · refine iff_of_true ?_ fun failed => absurd success failed
      cases updateRet with
      | true => simp [success]
      | false =>
        have failed : answer.info.result ≠ ResultCode.SUCCESS := beq_eq_false_iff_ne.mp verdict.symm
        simp only [success,true_and,if_true,failing.1,Bool.false_eq_true,and_false,ne_eq,not_false_eq_true,true_implies]
        intro other discloses
        rw [error failed] at other
        refine absurd (answer.guarded ?_) (not_or.mpr ⟨failed,other⟩)
        rw [←tokenAt,←secretAt]
        exact discloses.2.imp_right And.left
    · simp [success]

theorem onResult_failing (code : ResultCode) (failing : Failing s) : Failing (onResult s answers code scheduleResult).1 :=
  update_failing s answers scheduleResult failing

theorem onEffects_failing (failing : Failing s) : Failing (onEffects answers s effects).1 := by
  induction effects generalizing s with
  | nil => exact failing
  | cons effect rest ih =>
    apply ih
    cases effect with
    | onScheduleStoped result scheduleResult => exact onResult_failing result failing
    | _ => exact failing

theorem onEffects_silent (silent : ∀ effect ∈ effects, ScheduleNode.Effect.isStoped effect = false) :
    ∀ output ∈ (onEffects answers s effects).2, Consistent output := by
  induction effects generalizing s with
  | nil => simp [onEffects]
  | cons effect rest ih =>
    rw [List.forall_mem_cons] at silent
    rw [onEffects,List.forall_mem_append]
    refine ⟨?_,ih silent.2⟩
    cases effect with
    | onScheduleStoped => simp [ScheduleNode.Effect.isStoped] at silent
    | _ => simp [onEffect,Consistent]

theorem onStartFailed_consistent (failed : errorCode ≠ ResultCode.SUCCESS) :
    ∀ output ∈ (onStartFailed s errorCode).2, Consistent output := by
  unfold onStartFailed
  split
  · simp
  · simp [Consistent,Report.Consistent,failed,Attributes.empty,hasAttribute]

theorem cancel_failing {auth : AuthenticationImpl} (reply : EngineReply Unit) (failure : auth.latestError ≠ ResultCode.SUCCESS) :
    (auth.cancel reply).1.latestError ≠ ResultCode.SUCCESS := by
  unfold AuthenticationImpl.cancel
  split
  · exact failure
  · dsimp only
    split
    · exact setLatestError_failure failure
    · exact failure

theorem step_failing (s : State) (input : Input) (failing : Failing s) : Failing (step s input).1 := by
  have error {reply : ResultCode} : setLatestError s.auth.latestError reply ≠ ResultCode.SUCCESS :=
    setLatestError_failure failing.2
  have started (code : ResultCode) : Failing (onStartFailed s code).1 := by
    unfold onStartFailed
    split <;> exact failing
  cases input with
  | authStart reply =>
    simp only [step,authStart]
    split
    · exact failing
    · exact ⟨setLatestError_failure failing.1,error⟩
  | startFailed => exact started _
  | stoppedBeforeStart => exact started _
  | onStop reply =>
    have cancelled := cancel_failing reply failing.2
    simp only [step,onStop]
    split
    · exact ⟨setLatestError_failure failing.1,cancelled⟩
    · exact ⟨failing.1,cancelled⟩
  | schedule input answers =>
    have kept : Failing {s with node:=(s.node.step input).1} := failing
    exact onEffects_failing kept

theorem step_decides (s : State) (input : Input) (failing : Failing s) :
    (∀ output ∈ (step s input).2, Consistent output) ↔ Withheld s input := by
  cases input with
  | authStart reply => simp [step,Withheld]
  | startFailed => exact iff_of_true (onStartFailed_consistent failing.1) trivial
  | stoppedBeforeStart => exact iff_of_true (onStartFailed_consistent (by decide)) trivial
  | onStop reply => simp [step,Withheld]
  | schedule input answers =>
    have kept : Failing {s with node:=(s.node.step input).1} := failing
    cases input with
    | scheduleInner env =>
      cases ends : ScheduleNodeImpl.finishing s.node with
      | false =>
        apply iff_of_true (onEffects_silent (ScheduleNodeImpl.scheduleInner_silent s.node env ends))
        intro finishing
        rw [ends] at finishing
        cases finishing
      | true =>
        have effects : (s.node.step (.scheduleInner env)).2 = _ := ScheduleNodeImpl.scheduleInner_finishing s.node env ends
        simp only [step,effects,onEffects,onEffect,List.append_nil,List.forall_mem_cons,Consistent,true_and,Withheld,ends,
          forall_const]
        exact onResult_consistent _ answers _ _ kept
    | startSchedule | stopSchedule _ | continueSchedule _ _ | timeOut =>
      exact iff_of_true (onEffects_silent (by simp [ScheduleNodeImpl.step])) trivial

theorem create_failing : Failing (create userId authType atl sdkVersion expires) :=
  ⟨generalError_failure,generalError_failure⟩

-- Over a whole run: every report is right exactly when each end notification withholds.
theorem reports_consistent (userId : Int32) (authType : AuthType) (atl : UInt32) (sdkVersion : Int32) (expires : Bool)
    (inputs : List Input) :
    (∀ output ∈ machine.trace (create userId authType atl sdkVersion expires) inputs, Consistent output) ↔
      machine.Meets Withheld (create userId authType atl sdkVersion expires) inputs :=
  Mealy.good_iff_meets step_failing step_decides create_failing inputs

instance (report : Report) : Decidable report.Consistent := by unfold Report.Consistent; infer_instance
instance (output : Output) : Decidable (Consistent output) := by
  cases output <;> unfold Consistent <;> infer_instance

-- The executor's success waits in the queue when the caller stops the session.
def lateStop : List Input :=
  let env : ScheduleNode.Env := ⟨true,true,true,ResultCode.SUCCESS,ResultCode.SUCCESS,ResultCode.SUCCESS,ResultCode.SUCCESS⟩
  let answers : ResultAnswers :=
    ⟨fun _ => .answered ⟨{token:=[7]},{},fun _ => .inl rfl⟩,⟨some AuthType.PIN,0,none,fun _ _ => .answered [],none⟩⟩
  [.authStart (.answered true),.schedule .startSchedule answers,.schedule (.scheduleInner env) answers,
    .schedule (.scheduleInner env) answers,.schedule (.scheduleInner env) answers,
    .schedule (.continueSchedule ResultCode.SUCCESS (Attributes.empty.set (setUint8ArrayValue ATTR_RESULT [1]))) answers,
    .onStop (.answered ()),.schedule (.scheduleInner env) answers]

theorem late_stop_discloses :
    ¬∀ output ∈ machine.trace (create 100 AuthType.PIN 10000 20 true) lateStop, Consistent output := by decide

end SimpleAuthContext
end UserAuth
