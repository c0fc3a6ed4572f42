import UserAuth.Credential.CredentialContext

namespace UserAuth
open Attributes

structure UpdatePinParam where
  oldCredentialId : UInt64
  oldRootSecret : Bytes
  rootSecret : Bytes
  authToken : Bytes

structure EnrollmentImpl where
  enrollPara : Enrollment.EnrollmentPara
  isUpdate : Bool := false
  secUserId : Option UInt64 := none
  scheduleId : UInt64 := 0
  running : Bool := false
  latestError : ResultCode := ResultCode.GENERAL_ERROR

namespace EnrollmentImpl

-- What a start meets: the caller and user types, the database, the engine, and
-- the schedule that is built from its answer.
structure BeginAnswers where
  callerType : Bool
  userType : Bool
  database : UserIdmDatabase
  beginEnrollment : EngineReply Unit
  built : Option (UInt64 × Bool)

structure Answers where
  updateEnrollmentResult : Bytes → EngineReply EngEnrollResultInfo
  database : UserIdmDatabase

def getSecUserId (enroll : EnrollmentImpl) (database : UserIdmDatabase) : Option UInt64 × Bool × List CredentialOutput :=
  if enroll.enrollPara.authType != AuthType.PIN then (none,true,[])
  else match database.secUserInfo enroll.enrollPara.userId with
    | .refused _ _ => (none,false,[])
    | .answered (some secUserId) => (some secUserId,true,[])
    | .answered none =>
      if enroll.isUpdate then (none,false,[]) else (none,false,[.deleteUserEnforce enroll.enrollPara.userId])

-- The schedule's id and whether it expires, where the start succeeds. A start
-- asks for the user only to update, and then deletes nothing.
def start (enroll : EnrollmentImpl) (answers : BeginAnswers) : EnrollmentImpl × Option (UInt64 × Bool) :=
  if !answers.callerType then (enroll,none)
  else
    let cached := enroll.getSecUserId answers.database
    let enroll := if enroll.isUpdate then {enroll with secUserId:=cached.1} else enroll
    if enroll.isUpdate && !cached.2.1 then (enroll,none)
    else if !answers.userType then (enroll,none)
    else match answers.beginEnrollment with
      | .refused code _ => ({enroll with latestError:=setLatestError enroll.latestError code},none)
      | .answered _ =>
        match answers.built with
        | none => (enroll,none)
        | some built => ({enroll with scheduleId:=built.1,running:=true},some built)

-- An update reports the user that its start has cached.
def resultSecUserId (enroll : EnrollmentImpl) (database : UserIdmDatabase) : Option UInt64 × Bool × List CredentialOutput :=
  if enroll.isUpdate then (enroll.secUserId,true,[]) else enroll.getSecUserId database

structure Updated where
  enroll : EnrollmentImpl
  adapter : PublishEventAdapter
  ok : Bool := false
  credentialId : UInt64 := 0
  info : Option EngCredentialInfo := none
  pinInfo : Option UpdatePinParam := none
  secUserId : Option UInt64 := none
  outputs : List CredentialOutput := []

def pinParam (resultInfo : EngEnrollResultInfo) : UpdatePinParam :=
  ⟨resultInfo.oldInfo.credentialId,resultInfo.oldRootSecret,resultInfo.rootSecret,resultInfo.authToken⟩

def change (enroll : EnrollmentImpl) (resultInfo : EngEnrollResultInfo) : CredentialChange where
  userId := enroll.enrollPara.userId
  authType := enroll.enrollPara.authType
  eventType := if enroll.isUpdate then .UPDATE_CRED else .ADD_CRED
  credentialId := resultInfo.credentialId
  updatedPin := if enroll.isUpdate && enroll.enrollPara.authType == AuthType.PIN then some resultInfo.oldInfo.credentialId
    else none

def update (enroll : EnrollmentImpl) (adapter : PublishEventAdapter) (answers : Answers) (scheduleResult : Bytes) : Updated :=
  match answers.updateEnrollmentResult scheduleResult with
  | .refused code _ => {enroll:={enroll with latestError:=setLatestError enroll.latestError code},adapter}
  | .answered resultInfo =>
    let secUser := enroll.resultSecUserId answers.database
    let updated : Updated := {
      enroll,adapter,credentialId:=resultInfo.credentialId,pinInfo:=some (pinParam resultInfo),secUserId:=secUser.1
      outputs:=.committed [enroll.change resultInfo] :: secUser.2.2}
    if !secUser.2.1 then updated
    else
      let processed := CredentialUpdatedManager.processCredentialEnrolled answers.database adapter enroll.enrollPara
        resultInfo enroll.isUpdate enroll.scheduleId
      {updated with
        ok:=true,adapter:=processed.1,info:=if enroll.isUpdate then some resultInfo.oldInfo else none
        outputs:=updated.outputs ++ processed.2}

def cancel (enroll : EnrollmentImpl) (reply : EngineReply Unit) : EnrollmentImpl × Bool :=
  if !enroll.running then (enroll,false)
  else
    let enroll := {enroll with running:=false}
    if reply.code != ResultCode.SUCCESS then
      ({enroll with latestError:=setLatestError enroll.latestError reply.code},false)
    else (enroll,true)

end EnrollmentImpl

abbrev EnrollContext := CredentialContext EnrollmentImpl

namespace EnrollContext
open CredentialContext EnrollmentImpl

def onStart (answers : BeginAnswers) (s : EnrollContext) : Outcome EnrollmentImpl × Bool :=
  let started := s.impl.start answers
  let s := {s with impl:=started.1}
  match started.2 with
  | none => ((s.setError started.1.latestError,[]),false)
  | some built => (({s with schedule:=some (ScheduleNodeImpl.create built.2).startSchedule},[]),true)

def onStop (reply : EngineReply Unit) (s : EnrollContext) : EnrollContext :=
  let s := s.stopSchedule
  let cancelled := s.impl.cancel reply
  let s := {s with impl:=cancelled.1}
  if !cancelled.2 then s.setError cancelled.1.latestError else s

def updateScheduleResult (answers : Answers) (s : EnrollContext) (scheduleResultAttr : Option Attributes) :
    EnrollContext × Updated :=
  match scheduleResultAttr.bind fun attrs => attrs.getUint8ArrayValue ATTR_RESULT with
  | none => (s,{enroll:=s.impl,adapter:=s.adapter})
  | some scheduleResult =>
    let updated := s.impl.update s.adapter answers scheduleResult
    let s := {s with impl:=updated.enroll,adapter:=updated.adapter}
    if !updated.ok then (s.setError updated.enroll.latestError,updated)
    else match updated.info with
      | none => (s,updated)
      | some infoToDel =>
        if infoToDel.authType != AuthType.PIN then
          (s,{updated with outputs:=updated.outputs ++ [.notifyExecutorToDeleteTemplates [infoToDel]]})
        else (s,updated)

def pinSetters (pinInfo : UpdatePinParam) : List Setter :=
  [setUint64Value ATTR_OLD_CREDENTIAL_ID pinInfo.oldCredentialId] ++
  given (pinInfo.rootSecret.length != 0) [setUint8ArrayValue ATTR_ROOT_SECRET pinInfo.rootSecret] ++
  given (pinInfo.oldRootSecret.length != 0) [setUint8ArrayValue ATTR_OLD_ROOT_SECRET pinInfo.oldRootSecret] ++
  given (pinInfo.authToken.length != 0) [setUint8ArrayValue ATTR_AUTH_TOKEN pinInfo.authToken]

def resultSetters (credentialId : UInt64) (pinInfo : Option UpdatePinParam) (secUserId : Option UInt64) : List Setter :=
  (secUserId.map (setUint64Value ATTR_SEC_USER_ID)).toList ++ [setUint64Value ATTR_CREDENTIAL_ID credentialId] ++
    (pinInfo.map pinSetters).getD []

-- A value that cannot be set leaves the caller without any result.
def invokeResultCallback (resultCode : ResultCode) (credentialId : UInt64) (pinInfo : Option UpdatePinParam)
    (secUserId : Option UInt64) : List CredentialOutput :=
  let finalResult := Attributes.empty.setAll (resultSetters credentialId pinInfo secUserId)
  if !finalResult.2 then [] else [.onResult resultCode finalResult.1]

def onResult (answers : Answers) (s : EnrollContext) (resultCode : ResultCode) (scheduleResultAttr : Option Attributes) :
    Outcome EnrollmentImpl :=
  let updated := updateScheduleResult answers s scheduleResultAttr
  let resultCode := if !updated.2.ok && resultCode == ResultCode.SUCCESS then updated.1.base.latestError else resultCode
  (updated.1,updated.2.outputs ++
    invokeResultCallback resultCode updated.2.credentialId updated.2.pinInfo updated.2.secUserId)

def virtuals : Virtuals EnrollmentImpl BeginAnswers (EngineReply Unit) Answers where
  latestError := EnrollmentImpl.latestError
  onStart := onStart
  onStop := onStop
  onResult := onResult

-- The executor's payload reaches the engine, which commits it.
def Commits (answers : Answers) (scheduleResult : Option Attributes) (resultInfo : EngEnrollResultInfo) : Prop :=
  ∃ payload, (scheduleResult.bind fun attrs => attrs.getUint8ArrayValue ATTR_RESULT) = some payload ∧
    answers.updateEnrollmentResult payload = .answered resultInfo

-- The steps after a commit that may still fail, and do not.
structure Completes (answers : Answers) (enroll : EnrollmentImpl) (resultInfo : EngEnrollResultInfo) : Prop where
  secUser : enroll.isUpdate = true ∨ enroll.enrollPara.authType ≠ AuthType.PIN ∨
    ∃ secUserId, answers.database.secUserInfo enroll.enrollPara.userId = .answered (some secUserId)
  announced : (enroll.isUpdate = true ∧ enroll.enrollPara.authType = AuthType.PIN) ∨
    (answers.database.credentialInfo enroll.enrollPara.userId enroll.enrollPara.authType).code = ResultCode.SUCCESS
  rootSecret : resultInfo.rootSecret.length ≤ MAX_ATTR_LENGTH
  oldRootSecret : resultInfo.oldRootSecret.length ≤ MAX_ATTR_LENGTH
  authToken : resultInfo.authToken.length ≤ MAX_ATTR_LENGTH

-- A payload that the engine commits comes with a final code of success, and
-- nothing fails after it.
def EndsWell (answers : Answers) (enroll : EnrollmentImpl) (resultCode : ResultCode) (scheduleResult : Option Attributes) :
    Prop :=
  ∀ resultInfo, Commits answers scheduleResult resultInfo →
    resultCode = ResultCode.SUCCESS ∧ Completes answers enroll resultInfo

section Attributes
variable (credentialId : UInt64) (pinInfo : Option UpdatePinParam) (secUserId : Option UInt64)

theorem pin_keys (pin : UpdatePinParam) : ((pinSetters pin).map Setter.key).Sublist
    [ATTR_OLD_CREDENTIAL_ID,ATTR_ROOT_SECRET,ATTR_OLD_ROOT_SECRET,ATTR_AUTH_TOKEN] := by
  unfold pinSetters
  simp only [List.map_append]
  have root := (given_sublist (pin.rootSecret.length != 0) [setUint8ArrayValue ATTR_ROOT_SECRET pin.rootSecret]).map Setter.key
  have oldRoot := (given_sublist (pin.oldRootSecret.length != 0)
    [setUint8ArrayValue ATTR_OLD_ROOT_SECRET pin.oldRootSecret]).map Setter.key
  have token := (given_sublist (pin.authToken.length != 0) [setUint8ArrayValue ATTR_AUTH_TOKEN pin.authToken]).map Setter.key
  exact (((List.Sublist.refl [ATTR_OLD_CREDENTIAL_ID]).append root).append oldRoot).append token

theorem result_keys : ((resultSetters credentialId pinInfo secUserId).map Setter.key).Sublist
    [ATTR_SEC_USER_ID,ATTR_CREDENTIAL_ID,ATTR_OLD_CREDENTIAL_ID,ATTR_ROOT_SECRET,ATTR_OLD_ROOT_SECRET,ATTR_AUTH_TOKEN] := by
  unfold resultSetters
  simp only [List.map_append]
  have user : ((secUserId.map (setUint64Value ATTR_SEC_USER_ID)).toList.map Setter.key).Sublist [ATTR_SEC_USER_ID] := by
    cases secUserId with
    | none => exact List.nil_sublist _
    | some => exact .refl _
  have pin : (((pinInfo.map pinSetters).getD []).map Setter.key).Sublist
      [ATTR_OLD_CREDENTIAL_ID,ATTR_ROOT_SECRET,ATTR_OLD_ROOT_SECRET,ATTR_AUTH_TOKEN] := by
    cases pinInfo with
    | none => exact List.nil_sublist _
    | some pin => exact pin_keys pin
  exact (user.append (.refl [ATTR_CREDENTIAL_ID])).append pin

theorem result_settable : Settable Attributes.empty (resultSetters credentialId pinInfo secUserId) := by
  have keys := result_keys credentialId pinInfo secUserId
  refine settable_empty ?_ (keys.nodup (by decide))
  have short := keys.length_le
  rw [List.length_map] at short
  exact short.trans (by decide)

theorem given_array (key : AttributeKey) (value : Bytes) :
    (given (value.length != 0) [setUint8ArrayValue key value]).all (·.dest.isSome) = decide (value.length ≤ MAX_ATTR_LENGTH) := by
  by_cases bare : value = []
  · simp [bare]
  · have present : (value.length != 0) = true := by simpa using bare
    simp [present,array_encoded]

theorem plain_set : ((secUserId.map (setUint64Value ATTR_SEC_USER_ID)).toList ++
    [setUint64Value ATTR_CREDENTIAL_ID credentialId]).all (·.dest.isSome) = true := by
  cases secUserId <;> rfl

theorem pin_set (pin : UpdatePinParam) : (Attributes.empty.setAll (resultSetters credentialId (some pin) secUserId)).2 = true ↔
    pin.rootSecret.length ≤ MAX_ATTR_LENGTH ∧ pin.oldRootSecret.length ≤ MAX_ATTR_LENGTH ∧
      pin.authToken.length ≤ MAX_ATTR_LENGTH := by
  rw [setAll_complete _ _ (result_settable credentialId (some pin) secUserId),resultSetters,List.all_append,plain_set,
    Bool.true_and]
  have number : [setUint64Value ATTR_OLD_CREDENTIAL_ID pin.oldCredentialId].all (·.dest.isSome) = true := rfl
  simp only [Option.map_some,Option.getD_some,pinSetters,List.all_append,number,given_array,Bool.true_and,Bool.and_eq_true,
    decide_eq_true_eq,and_assoc]

end Attributes

theorem invoke_neutral (failed : resultCode ≠ ResultCode.SUCCESS) (credentialId : UInt64) (pinInfo : Option UpdatePinParam)
    (secUserId : Option UInt64) : ∀ output ∈ invokeResultCallback resultCode credentialId pinInfo secUserId, Neutral output := by
  unfold invokeResultCallback
  dsimp only
  split
  · simp
  · simpa [Neutral] using failed

theorem invoke_report (resultCode : ResultCode) (credentialId : UInt64) (pin : UpdatePinParam) (secUserId : Option UInt64) :
    ∃ report : Option Attributes,
      invokeResultCallback resultCode credentialId (some pin) secUserId = (report.map (.onResult resultCode)).toList ∧
      (report.isSome = true ↔ pin.rootSecret.length ≤ MAX_ATTR_LENGTH ∧ pin.oldRootSecret.length ≤ MAX_ATTR_LENGTH ∧
        pin.authToken.length ≤ MAX_ATTR_LENGTH) := by
  have settable := pin_set credentialId secUserId pin
  unfold invokeResultCallback
  dsimp only
  cases complete : (Attributes.empty.setAll (resultSetters credentialId (some pin) secUserId)).2 with
  | false => exact ⟨none,rfl,by simpa [complete] using settable⟩
  | true => exact ⟨some _,rfl,by simpa [complete] using settable⟩

-- The update goes on past the user's id exactly where that is known.
theorem secUser_known (enroll : EnrollmentImpl) (database : UserIdmDatabase) :
    (enroll.resultSecUserId database).2.1 = true ↔ enroll.isUpdate = true ∨ enroll.enrollPara.authType ≠ AuthType.PIN ∨
      ∃ secUserId, database.secUserInfo enroll.enrollPara.userId = .answered (some secUserId) := by
  unfold resultSecUserId
  by_cases renewed : enroll.isUpdate = true
  · simp [renewed]
  · rw [if_neg renewed,or_iff_right renewed]
    unfold getSecUserId
    by_cases pin : enroll.enrollPara.authType = AuthType.PIN
    · simp only [pin,bne_self_eq_false,Bool.false_eq_true,if_false,ne_eq,not_true,false_or]
      cases database.secUserInfo enroll.enrollPara.userId with
      | refused => simp
      | answered secUserId =>
        cases secUserId with
        | none => simp [renewed]
        | some => simp
    · simp [pin]

theorem secUser_outputs (enroll : EnrollmentImpl) (database : UserIdmDatabase) :
    (enroll.resultSecUserId database).2.2 = [] ∨
      (enroll.resultSecUserId database).2.2 = [.deleteUserEnforce enroll.enrollPara.userId] := by
  unfold resultSecUserId getSecUserId
  split
  · exact .inl rfl
  · split
    · exact .inl rfl
    · split
      · exact .inl rfl
      · exact .inl rfl
      · exact .inr rfl

def announcement (answers : Answers) (s : EnrollContext) (resultInfo : EngEnrollResultInfo) :
    PublishEventAdapter × List CredentialOutput :=
  CredentialUpdatedManager.processCredentialEnrolled answers.database s.adapter s.impl.enrollPara resultInfo s.impl.isUpdate
    s.impl.scheduleId

section Result
variable {answers : Answers} {s : EnrollContext} {scheduleResult : Option Attributes} {resultInfo : EngEnrollResultInfo}

theorem update_pin (commits : Commits answers scheduleResult resultInfo) :
    (updateScheduleResult answers s scheduleResult).2.ok = (s.impl.resultSecUserId answers.database).2.1 ∧
      (updateScheduleResult answers s scheduleResult).2.pinInfo = some (pinParam resultInfo) := by
  obtain ⟨payload,read,reply⟩ := commits
  unfold updateScheduleResult EnrollmentImpl.update
  simp only [read,reply]
  cases known : (s.impl.resultSecUserId answers.database).2.1 with
  | false => simp
  | true =>
    cases s.impl.isUpdate with
    | false => simp
    | true =>
      by_cases other : (resultInfo.oldInfo.authType != AuthType.PIN) = true <;> simp [other]

theorem update_unknown (commits : Commits answers scheduleResult resultInfo)
    (unknown : (s.impl.resultSecUserId answers.database).2.1 = false) :
    (updateScheduleResult answers s scheduleResult).1.base.latestError =
        setLatestError s.base.latestError s.impl.latestError ∧
      (updateScheduleResult answers s scheduleResult).2.outputs =
        .committed [s.impl.change resultInfo] :: (s.impl.resultSecUserId answers.database).2.2 := by
  obtain ⟨payload,read,reply⟩ := commits
  unfold updateScheduleResult EnrollmentImpl.update
  simp [read,reply,unknown,setError]

theorem update_known (commits : Commits answers scheduleResult resultInfo)
    (known : (s.impl.resultSecUserId answers.database).2.1 = true) :
    (updateScheduleResult answers s scheduleResult).1.adapter = (announcement answers s resultInfo).1 ∧ ∃ deletion,
      (deletion = [] ∨ ∃ info, deletion = [.notifyExecutorToDeleteTemplates [info]]) ∧
      (updateScheduleResult answers s scheduleResult).2.outputs = .committed [s.impl.change resultInfo] ::
        ((s.impl.resultSecUserId answers.database).2.2 ++ (announcement answers s resultInfo).2 ++ deletion) := by
  obtain ⟨payload,read,reply⟩ := commits
  unfold updateScheduleResult EnrollmentImpl.update announcement
  simp only [read,reply,known]
  cases s.impl.isUpdate with
  | false => simp
  | true =>
    by_cases other : (resultInfo.oldInfo.authType != AuthType.PIN) = true <;> simp [other]

theorem secUser_aside (enroll : EnrollmentImpl) (database : UserIdmDatabase) :
    ∀ output ∈ (enroll.resultSecUserId database).2.2, CredentialUpdatedManager.Aside output := by
  rcases secUser_outputs enroll database with none | deleted
  · simp [none]
  · simp [deleted,CredentialUpdatedManager.Aside]

-- Without the user's id the update fails behind the engine's back.
theorem unknown_disagrees (failing : Failing virtuals s) (commits : Commits answers scheduleResult resultInfo)
    (unknown : (s.impl.resultSecUserId answers.database).2.1 = false) (resultCode : ResultCode) :
    ¬Agrees (onResult answers s resultCode scheduleResult) := by
  obtain ⟨ok,pin⟩ := @update_pin answers s scheduleResult resultInfo commits
  obtain ⟨error,outputs⟩ := update_unknown commits unknown
  have failed : (updateScheduleResult answers s scheduleResult).1.base.latestError ≠ ResultCode.SUCCESS := by
    rw [error]
    exact setLatestError_failure failing.1
  unfold onResult
  dsimp only
  rw [ok,pin,unknown,outputs]
  obtain ⟨report,invoked,_⟩ := invoke_report (if !false && resultCode == ResultCode.SUCCESS then
      (updateScheduleResult answers s scheduleResult).1.base.latestError else resultCode)
    (updateScheduleResult answers s scheduleResult).2.credentialId (pinParam resultInfo)
    (updateScheduleResult answers s scheduleResult).2.secUserId
  rw [invoked,List.cons_append,agrees_commit _ _ (secUser_aside _ _)]
  intro told
  by_cases success : resultCode = ResultCode.SUCCESS
  · exact failed (by simpa [success] using told.1.1)
  · exact success (by simpa [success] using told.1.1)

theorem announced_exact (outputs : List CredentialOutput)
    (adapter : (updateScheduleResult answers s scheduleResult).1.adapter = (announcement answers s resultInfo).1)
    (either : outputs = [] ∨ ∃ info, outputs = [.notifyExecutorToDeleteTemplates [info]]) :
    Published (updateScheduleResult answers s scheduleResult).1.adapter
        ((s.impl.resultSecUserId answers.database).2.2 ++ (announcement answers s resultInfo).2 ++ outputs)
        [s.impl.change resultInfo] ↔
      (s.impl.isUpdate = true ∧ s.impl.enrollPara.authType = AuthType.PIN) ∨
        (answers.database.credentialInfo s.impl.enrollPara.userId s.impl.enrollPara.authType).code = ResultCode.SUCCESS := by
  have silent : (s.impl.resultSecUserId answers.database).2.2.filterMap (·.updated) = [] ∧
      (s.impl.resultSecUserId answers.database).2.2.filterMap (·.notified) = [] := by
    rcases secUser_outputs s.impl answers.database with none | deleted
    · rw [none]
      exact ⟨rfl,rfl⟩
    · rw [deleted]
      exact ⟨rfl,rfl⟩
  have after : outputs.filterMap (·.updated) = [] ∧ outputs.filterMap (·.notified) = [] := by
    rcases either with rfl | ⟨info,rfl⟩ <;> exact ⟨rfl,rfl⟩
  rw [adapter]
  refine Iff.trans (published_congr ?_ ?_) (CredentialUpdatedManager.enrolled_published s.impl.enrollPara resultInfo
    s.impl.isUpdate s.impl.scheduleId)
  · rw [List.filterMap_append,List.filterMap_append,silent.1,after.1,List.append_nil,List.nil_append]
    rfl
  · rw [List.filterMap_append,List.filterMap_append,silent.2,after.2,List.append_nil,List.nil_append]
    rfl

theorem commit_agrees (failing : Failing virtuals s) (commits : Commits answers scheduleResult resultInfo)
    (resultCode : ResultCode) :
    Agrees (onResult answers s resultCode scheduleResult) ↔
      resultCode = ResultCode.SUCCESS ∧ Completes answers s.impl resultInfo := by
  have sec := secUser_known s.impl answers.database
  cases reached : (s.impl.resultSecUserId answers.database).2.1 with
  | false =>
    apply iff_of_false (unknown_disagrees failing commits reached resultCode)
    intro completed
    rw [sec.mpr completed.2.secUser] at reached
    cases reached
  | true =>
    obtain ⟨ok,pin⟩ := @update_pin answers s scheduleResult resultInfo commits
    obtain ⟨adapter,deletion,either,outputs⟩ := update_known commits reached
    have removed : ∀ output ∈ deletion, CredentialUpdatedManager.Aside output := by
      rcases either with rfl | ⟨info,rfl⟩
      · simp
      · simp [CredentialUpdatedManager.Aside]
    have said : ∀ output ∈ (announcement answers s resultInfo).2, CredentialUpdatedManager.Aside output :=
      CredentialUpdatedManager.enrolled_aside _ _ _ _
    have aside := List.forall_mem_append.mpr ⟨List.forall_mem_append.mpr ⟨secUser_aside s.impl answers.database,said⟩,removed⟩
    have announced := announced_exact deletion adapter either
    obtain ⟨report,invoked,complete⟩ := invoke_report resultCode
      (updateScheduleResult answers s scheduleResult).2.credentialId (pinParam resultInfo)
      (updateScheduleResult answers s scheduleResult).2.secUserId
    unfold onResult
    dsimp only
    rw [ok,pin,reached]
    simp only [Bool.not_true,Bool.false_and,Bool.false_eq_true,if_false]
    rw [outputs,invoked,List.cons_append,agrees_commit _ _ aside,complete,announced]
    constructor
    · intro agrees
      obtain ⟨⟨success,root,oldRoot,token⟩,told⟩ := agrees
      exact ⟨success,sec.mp reached,told,root,oldRoot,token⟩
    · intro completes
      obtain ⟨success,completed⟩ := completes
      exact ⟨⟨success,completed.rootSecret,completed.oldRootSecret,completed.authToken⟩,completed.announced⟩

theorem commits_unique (left : Commits answers scheduleResult one) (right : Commits answers scheduleResult two) :
    one = two := by
  obtain ⟨payload,read,reply⟩ := left
  obtain ⟨_,same,back⟩ := right
  rw [read] at same
  cases same
  rw [reply] at back
  cases back
  rfl

theorem update_uncommitted (failing : Failing virtuals s) (none : ¬∃ resultInfo, Commits answers scheduleResult resultInfo) :
    (updateScheduleResult answers s scheduleResult).1.base.latestError ≠ ResultCode.SUCCESS ∧
      (updateScheduleResult answers s scheduleResult).2.ok = false ∧
      (updateScheduleResult answers s scheduleResult).2.outputs = [] := by
  unfold updateScheduleResult EnrollmentImpl.update
  cases read : scheduleResult.bind fun attrs => attrs.getUint8ArrayValue ATTR_RESULT with
  | none => exact ⟨failing.1,rfl,rfl⟩
  | some payload =>
    cases reply : answers.updateEnrollmentResult payload with
    | refused code failed =>
      have error : setLatestError s.base.latestError (setLatestError s.impl.latestError code) ≠ ResultCode.SUCCESS :=
        setLatestError_failure failing.1
      simp [reply,setError,error]
    | answered resultInfo => exact absurd ⟨resultInfo,payload,read,reply⟩ none

theorem result_agrees (failing : Failing virtuals s) (resultCode : ResultCode) :
    Agrees (onResult answers s resultCode scheduleResult) ↔ EndsWell answers s.impl resultCode scheduleResult := by
  by_cases committed : ∃ resultInfo, Commits answers scheduleResult resultInfo
  · obtain ⟨resultInfo,commits⟩ := committed
    rw [commit_agrees failing commits]
    constructor
    · intro well other again
      cases commits_unique commits again
      exact well
    · exact fun well => well resultInfo commits
  · obtain ⟨failed,ok,outputs⟩ := update_uncommitted failing committed
    refine iff_of_true (agrees_neutral ?_) fun resultInfo commits => absurd ⟨resultInfo,commits⟩ committed
    unfold onResult
    dsimp only
    rw [ok,outputs,List.nil_append]
    refine invoke_neutral ?_ _ _ _
    by_cases success : resultCode = ResultCode.SUCCESS
    · simpa [success] using failed
    · simp [success]

theorem update_failing (failing : Failing virtuals s) :
    Failing virtuals (updateScheduleResult answers s scheduleResult).1 := by
  unfold updateScheduleResult
  split
  · exact failing
  · rename_i payload _
    have kept : (s.impl.update s.adapter answers payload).enroll.latestError ≠ ResultCode.SUCCESS := by
      unfold EnrollmentImpl.update
      split
      · exact setLatestError_failure failing.2
      · dsimp only
        split <;> exact failing.2
    dsimp only
    split
    · exact ⟨setLatestError_failure failing.1,kept⟩
    · split
      · exact ⟨failing.1,kept⟩
      · split <;> exact ⟨failing.1,kept⟩

end Result

theorem start_error (enroll : EnrollmentImpl) (answers : BeginAnswers) (failed : enroll.latestError ≠ ResultCode.SUCCESS) :
    (enroll.start answers).1.latestError ≠ ResultCode.SUCCESS := by
  unfold EnrollmentImpl.start
  dsimp only
  have kept : (if enroll.isUpdate = true then {enroll with secUserId:=(enroll.getSecUserId answers.database).1}
      else enroll).latestError ≠ ResultCode.SUCCESS := by split <;> exact failed
  generalize (if enroll.isUpdate = true then {enroll with secUserId:=(enroll.getSecUserId answers.database).1}
      else enroll) = cached at kept ⊢
  split
  · exact failed
  · split
    · exact kept
    · split
      · exact kept
      · split
        · exact setLatestError_failure kept
        · split <;> exact kept

theorem cancel_error (enroll : EnrollmentImpl) (reply : EngineReply Unit) (failed : enroll.latestError ≠ ResultCode.SUCCESS) :
    (enroll.cancel reply).1.latestError ≠ ResultCode.SUCCESS := by
  unfold EnrollmentImpl.cancel
  split
  · exact failed
  · dsimp only
    split
    · exact setLatestError_failure failed
    · exact failed

theorem virtuals_lawful : virtuals.Lawful (fun _ _ => True) EndsWell where
  startFailing answers s failing := by
    have kept := start_error s.impl answers failing.2
    simp only [virtuals,onStart]
    split
    · exact ⟨setLatestError_failure failing.1,kept⟩
    · exact ⟨failing.1,kept⟩
  stopFailing reply s failing := by
    have kept := cancel_error s.impl reply failing.2
    simp only [virtuals,onStop]
    split
    · exact ⟨setLatestError_failure failing.1,kept⟩
    · exact ⟨failing.1,kept⟩
  resultFailing answers s result scheduleResult failing := update_failing failing
  refused answers s _ := by
    simp only [virtuals,onStart]
    split <;> simp
  begun answers s _ := by
    refine iff_of_true (agrees_neutral ?_) trivial
    simp only [virtuals,onStart]
    split <;> simp
  ended answers s result scheduleResult failing := result_agrees failing result

def create (enrollPara : Enrollment.EnrollmentPara) (isUpdate : Bool) (adapter : PublishEventAdapter) : EnrollContext :=
  {impl:={enrollPara,isUpdate},adapter}

theorem create_failing (enrollPara : Enrollment.EnrollmentPara) (isUpdate : Bool) (adapter : PublishEventAdapter) :
    Failing virtuals (create enrollPara isUpdate adapter) :=
  ⟨generalError_failure,generalError_failure⟩

end EnrollContext
end UserAuth
