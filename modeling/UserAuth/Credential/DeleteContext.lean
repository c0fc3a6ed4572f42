import UserAuth.Credential.CredentialContext

namespace UserAuth
open Attributes

def CREDENTIAL_DELETE : Int32 := 1
def CREDENTIAL_ABANDON : Int32 := 2
def PIN_UPDATE : Int32 := 3

structure EngCredentialOperateResult where
  operateType : Int32 := 0
  credentialInfos : List EngCredentialInfo := []

structure DeleteImpl where
  deletePara : Deletion.DeleteParam
  scheduleId : UInt64 := 0
  latestError : ResultCode := ResultCode.GENERAL_ERROR

namespace DeleteImpl

-- The database is asked once for every credential that is deleted.
structure BeginAnswers where
  deleteCredential : EngineReply EngCredentialOperateResult
  built : Option (UInt64 × Bool)
  database : Nat → UserIdmDatabase

structure Answers where
  updateAbandonResult : Bytes → EngineReply (List EngCredentialInfo)
  database : UserIdmDatabase

inductive Started where
  | scheduled (expires : Bool)
  | deleted

def asked (answers : BeginAnswers) (credentialInfos : List EngCredentialInfo) : List (UserIdmDatabase × EngCredentialInfo) :=
  credentialInfos.zipIdx.map fun entry => (answers.database entry.2,entry.1)

def processDeleted (deletePara : Deletion.DeleteParam) (adapter : PublishEventAdapter) :
    List (UserIdmDatabase × EngCredentialInfo) → PublishEventAdapter × List CredentialOutput
  | [] => (adapter,[])
  | (database,info) :: rest =>
    let first := CredentialUpdatedManager.processCredentialDeleted database adapter deletePara info.credentialId info.authType
    let later := processDeleted deletePara first.1 rest
    (later.1,first.2 ++ later.2)

def deleteCredential (delete : DeleteImpl) (adapter : PublishEventAdapter) (answers : BeginAnswers)
    (credentialInfos : List EngCredentialInfo) : PublishEventAdapter × List CredentialOutput :=
  let processed := processDeleted delete.deletePara adapter (asked answers credentialInfos)
  (processed.1,.notifyExecutorToDeleteTemplates credentialInfos :: processed.2)

def change (delete : DeleteImpl) (authType : AuthType) (credentialId : UInt64) : CredentialChange where
  userId := delete.deletePara.userId
  authType := authType
  eventType := .DEL_CRED
  credentialId := credentialId

def changes (delete : DeleteImpl) (credentialInfos : List EngCredentialInfo) : List CredentialChange :=
  credentialInfos.map fun info => delete.change info.authType info.credentialId

def abandoned (delete : DeleteImpl) : CredentialChange :=
  delete.change AuthType.PIN delete.deletePara.credentialId

-- An abandoned credential goes through a schedule. Any other is gone with the
-- engine's answer.
def start (delete : DeleteImpl) (adapter : PublishEventAdapter) (answers : BeginAnswers) :
    DeleteImpl × PublishEventAdapter × List CredentialOutput × Option Started :=
  match answers.deleteCredential with
  | .refused code _ => ({delete with latestError:=setLatestError delete.latestError code},adapter,[],none)
  | .answered hdiResult =>
    if hdiResult.operateType == CREDENTIAL_ABANDON then
      match answers.built with
      | none => (delete,adapter,[],none)
      | some (scheduleId,expires) => ({delete with scheduleId},adapter,[],some (.scheduled expires))
    else if hdiResult.operateType == CREDENTIAL_DELETE || hdiResult.operateType == PIN_UPDATE then
      let deleted := delete.deleteCredential adapter answers hdiResult.credentialInfos
      (delete,deleted.1,.committed (delete.changes hdiResult.credentialInfos) :: deleted.2,some .deleted)
    else (delete,adapter,[],none)

structure Updated where
  delete : DeleteImpl
  adapter : PublishEventAdapter
  ok : Bool := false
  info : Option EngCredentialInfo := none
  outputs : List CredentialOutput := []

def update (delete : DeleteImpl) (adapter : PublishEventAdapter) (answers : Answers) (scheduleResult : Bytes) : Updated :=
  match answers.updateAbandonResult scheduleResult with
  | .refused code _ => {delete:={delete with latestError:=setLatestError delete.latestError code},adapter}
  | .answered credentialInfos =>
    let processed := CredentialUpdatedManager.processCredentialDeleted answers.database adapter delete.deletePara
      delete.deletePara.credentialId AuthType.PIN
    {delete,adapter:=processed.1,ok:=true,info:=credentialInfos.head?
     outputs:=.committed [delete.abandoned] :: processed.2}

end DeleteImpl

abbrev DeleteContext := CredentialContext DeleteImpl

namespace DeleteContext
open CredentialContext DeleteImpl

def invokeResultCallback (resultCode : ResultCode) : List CredentialOutput := [.onResult resultCode Attributes.empty]

def onStart (answers : BeginAnswers) (s : DeleteContext) : Outcome DeleteImpl × Bool :=
  let started := s.impl.start s.adapter answers
  let s := {s with impl:=started.1,adapter:=started.2.1}
  match started.2.2.2 with
  | none => ((s.setError started.1.latestError,started.2.2.1),false)
  | some .deleted => ((s,started.2.2.1 ++ invokeResultCallback ResultCode.SUCCESS),true)
  | some (.scheduled expires) =>
    (({s with schedule:=some (ScheduleNodeImpl.create expires).startSchedule},started.2.2.1),true)

-- There is nothing to cancel in the engine.
def onStop (_ : Unit) (s : DeleteContext) : DeleteContext := s.stopSchedule

def updateScheduleResult (answers : Answers) (s : DeleteContext) (scheduleResultAttr : Option Attributes) :
    DeleteContext × Updated :=
  match scheduleResultAttr.bind fun attrs => attrs.getUint8ArrayValue ATTR_RESULT with
  | none => (s,{delete:=s.impl,adapter:=s.adapter})
  | some scheduleResult =>
    let updated := s.impl.update s.adapter answers scheduleResult
    let s := {s with impl:=updated.delete,adapter:=updated.adapter}
    if !updated.ok then (s.setError updated.delete.latestError,updated)
    else match updated.info with
      | none => (s,updated)
      | some infoToDel => (s,{updated with outputs:=updated.outputs ++ [.notifyExecutorToDeleteTemplates [infoToDel]]})

def onResult (answers : Answers) (s : DeleteContext) (resultCode : ResultCode) (scheduleResultAttr : Option Attributes) :
    Outcome DeleteImpl :=
  let updated := updateScheduleResult answers s scheduleResultAttr
  let resultCode := if !updated.2.ok && resultCode == ResultCode.SUCCESS then updated.1.base.latestError else resultCode
  (updated.1,updated.2.outputs ++ invokeResultCallback resultCode)

def virtuals : Virtuals DeleteImpl BeginAnswers Unit Answers where
  latestError := DeleteImpl.latestError
  onStart := onStart
  onStop := onStop
  onResult := onResult

-- The database answers for every credential that is deleted.
def BeginsWell (answers : BeginAnswers) (delete : DeleteImpl) : Prop :=
  ∀ hdiResult, answers.deleteCredential = .answered hdiResult →
    (hdiResult.operateType = CREDENTIAL_DELETE ∨ hdiResult.operateType = PIN_UPDATE) →
      ∀ query ∈ asked answers hdiResult.credentialInfos,
        (query.1.credentialInfo delete.deletePara.userId query.2.authType).code = ResultCode.SUCCESS

def Commits (answers : Answers) (scheduleResult : Option Attributes) (credentialInfos : List EngCredentialInfo) : Prop :=
  ∃ payload, (scheduleResult.bind fun attrs => attrs.getUint8ArrayValue ATTR_RESULT) = some payload ∧
    answers.updateAbandonResult payload = .answered credentialInfos

def EndsWell (answers : Answers) (delete : DeleteImpl) (resultCode : ResultCode) (scheduleResult : Option Attributes) : Prop :=
  ∀ credentialInfos, Commits answers scheduleResult credentialInfos → resultCode = ResultCode.SUCCESS ∧
    (answers.database.credentialInfo delete.deletePara.userId AuthType.PIN).code = ResultCode.SUCCESS

section Deleted
variable (deletePara : Deletion.DeleteParam)

def Read (deletePara : Deletion.DeleteParam) (query : UserIdmDatabase × EngCredentialInfo) : Prop :=
  (query.1.credentialInfo deletePara.userId query.2.authType).code = ResultCode.SUCCESS

instance : DecidablePred (Read deletePara) := fun _ => inferInstanceAs (Decidable (_ = _))

theorem processed_events (adapter : PublishEventAdapter) (queries : List (UserIdmDatabase × EngCredentialInfo)) :
    (processDeleted deletePara adapter queries).2.filterMap (·.updated) =
      (queries.filter (Read deletePara)).map fun query => (deletePara.userId,query.2.authType) := by
  induction queries generalizing adapter with
  | nil => rfl
  | cons query rest ih =>
    rw [processDeleted,List.filterMap_append,ih,CredentialUpdatedManager.deleted_events]
    by_cases read : (query.1.credentialInfo deletePara.userId query.2.authType).code = ResultCode.SUCCESS
    · rw [if_pos read,List.filter_cons_of_pos (p:=fun query => decide (Read deletePara query)) (decide_eq_true read)]
      rfl
    · rw [if_neg read,List.filter_cons_of_neg (p:=fun query => decide (Read deletePara query))
        fun held => read (of_decide_eq_true held)]
      rfl

-- One event for each query is one for each that was answered, where all were.
theorem processed_all (adapter : PublishEventAdapter) (queries : List (UserIdmDatabase × EngCredentialInfo)) :
    (processDeleted deletePara adapter queries).2.filterMap (·.updated) =
        queries.map (fun query => (deletePara.userId,query.2.authType)) ↔ ∀ query ∈ queries, Read deletePara query := by
  rw [processed_events]
  constructor
  · intro same
    have lengths : (queries.filter (Read deletePara)).length = queries.length := by
      simpa using congrArg List.length same
    simpa using List.length_filter_eq_length_iff.mp lengths
  · intro all
    rw [List.filter_eq_self.mpr (by simpa using all)]

theorem processed_notice (adapter : PublishEventAdapter) (queries : List (UserIdmDatabase × EngCredentialInfo))
    (member : query ∈ queries) (read : Read deletePara query) (named : query.2.authType ≠ AuthType.PIN) :
    (deletePara.userId,query.2.authType,.DEL_CRED,query.2.credentialId) ∈
      (processDeleted deletePara adapter queries).2.filterMap (·.notified) := by
  induction queries generalizing adapter with
  | nil => cases member
  | cons first rest ih =>
    rw [processDeleted,List.filterMap_append]
    rcases List.mem_cons.mp member with rfl | later
    · exact List.mem_append_left _ (CredentialUpdatedManager.deleted_notice deletePara _ named read)
    · exact List.mem_append_right _ (ih _ later)

-- Each deletion has its own answer of the database, on which its announcement depends.
theorem deletions_published (delete : DeleteImpl) (answers : BeginAnswers) (adapter next : PublishEventAdapter)
    (credentialInfos : List EngCredentialInfo) :
    Published next (.notifyExecutorToDeleteTemplates credentialInfos ::
        (processDeleted delete.deletePara adapter (asked answers credentialInfos)).2) (delete.changes credentialInfos) ↔
      ∀ query ∈ asked answers credentialInfos, Read delete.deletePara query := by
  let deletion (query : UserIdmDatabase × EngCredentialInfo) := delete.change query.2.authType query.2.credentialId
  have same : delete.changes credentialInfos = (asked answers credentialInfos).map deletion := by
    have infos : (asked answers credentialInfos).map (·.2) = credentialInfos := by
      rw [asked,List.map_map]
      exact List.zipIdx_map_fst 0 credentialInfos
    rw [changes,← infos,List.map_map,infos]
    rfl
  have plain : ((asked answers credentialInfos).map deletion).filter (·.updatedPin.isNone) =
      (asked answers credentialInfos).map deletion := by
    refine List.filter_eq_self.mpr fun change member => ?_
    obtain ⟨query,_,rfl⟩ := List.mem_map.mp member
    rfl
  rw [same]
  constructor
  · intro published
    have events := published.events
    rw [plain,List.filterMap_cons_none rfl,List.map_map] at events
    exact (processed_all delete.deletePara adapter _).mp events
  · intro all
    refine ⟨?_,?_,?_⟩
    · rw [plain,List.filterMap_cons_none rfl,List.map_map]
      exact (processed_all delete.deletePara adapter _).mpr all
    · intro change member _ named
      obtain ⟨query,asked,rfl⟩ := List.mem_map.mp member
      rw [List.filterMap_cons_none rfl]
      exact processed_notice delete.deletePara adapter _ asked (all query asked) (named rfl)
    · intro change member credentialId some
      obtain ⟨query,_,rfl⟩ := List.mem_map.mp member
      cases some

theorem processed_aside (adapter : PublishEventAdapter) (queries : List (UserIdmDatabase × EngCredentialInfo)) :
    ∀ output ∈ (processDeleted deletePara adapter queries).2, CredentialUpdatedManager.Aside output := by
  induction queries generalizing adapter with
  | nil => simp [processDeleted]
  | cons query rest ih =>
    exact List.forall_mem_append.mpr ⟨CredentialUpdatedManager.deleted_aside _ _ _,ih _⟩

end Deleted

section Start
variable {answers : BeginAnswers} {delete : DeleteImpl} {adapter : PublishEventAdapter}

-- A start that deletes nothing itself says nothing and has nothing to announce.
theorem start_idle (idle : (delete.start adapter answers).2.2.2 ≠ some .deleted) :
    (delete.start adapter answers).2.2.1 = [] ∧ BeginsWell answers delete := by
  unfold BeginsWell
  unfold DeleteImpl.start at idle ⊢
  cases reply : answers.deleteCredential with
  | refused code failed =>
    refine ⟨rfl,?_⟩
    intro hdiResult absurdly
    cases absurdly
  | answered hdiResult =>
    simp only [reply] at idle ⊢
    by_cases abandon : (hdiResult.operateType == CREDENTIAL_ABANDON) = true
    · rw [if_pos abandon]
      refine ⟨by cases answers.built <;> rfl,?_⟩
      intro other same operate
      cases same
      rw [beq_iff_eq.mp abandon] at operate
      exact absurd operate (by decide)
    · rw [if_neg abandon] at idle ⊢
      by_cases direct : (hdiResult.operateType == CREDENTIAL_DELETE || hdiResult.operateType == PIN_UPDATE) = true
      · rw [if_pos direct] at idle
        exact absurd rfl idle
      · rw [if_neg direct]
        refine ⟨rfl,?_⟩
        intro other same operate
        cases same
        exact absurd (by simpa using operate) direct

theorem start_deleted (deleted : (delete.start adapter answers).2.2.2 = some .deleted) :
    ∃ hdiResult, answers.deleteCredential = .answered hdiResult ∧
      (hdiResult.operateType = CREDENTIAL_DELETE ∨ hdiResult.operateType = PIN_UPDATE) ∧
      (delete.start adapter answers).2.2.1 = .committed (delete.changes hdiResult.credentialInfos) ::
        .notifyExecutorToDeleteTemplates hdiResult.credentialInfos ::
          (processDeleted delete.deletePara adapter (asked answers hdiResult.credentialInfos)).2 := by
  unfold DeleteImpl.start at deleted ⊢
  cases reply : answers.deleteCredential with
  | refused code failed =>
    rw [reply] at deleted
    cases deleted
  | answered hdiResult =>
    simp only [reply] at deleted ⊢
    by_cases abandon : (hdiResult.operateType == CREDENTIAL_ABANDON) = true
    · rw [if_pos abandon] at deleted
      cases built : answers.built with
      | none => simp [built] at deleted
      | some => simp [built] at deleted
    · rw [if_neg abandon] at deleted ⊢
      by_cases direct : (hdiResult.operateType == CREDENTIAL_DELETE || hdiResult.operateType == PIN_UPDATE) = true
      · rw [if_pos direct]
        exact ⟨hdiResult,rfl,by simpa using direct,rfl⟩
      · rw [if_neg direct] at deleted
        cases deleted

theorem start_error (failed : delete.latestError ≠ ResultCode.SUCCESS) :
    (delete.start adapter answers).1.latestError ≠ ResultCode.SUCCESS := by
  unfold DeleteImpl.start
  split
  · exact setLatestError_failure failed
  · split
    · split <;> exact failed
    · split <;> exact failed

theorem deletion_agrees (s : DeleteContext) (deleted : (s.impl.start s.adapter answers).2.2.2 = some .deleted) :
    Agrees (onStart answers s).1 ↔ BeginsWell answers s.impl := by
  obtain ⟨hdiResult,reply,direct,outputs⟩ := start_deleted deleted
  have aside : ∀ output ∈ CredentialOutput.notifyExecutorToDeleteTemplates hdiResult.credentialInfos ::
      (processDeleted s.impl.deletePara s.adapter (asked answers hdiResult.credentialInfos)).2,
      CredentialUpdatedManager.Aside output := List.forall_mem_cons.mpr ⟨trivial,processed_aside _ _ _⟩
  have report : invokeResultCallback ResultCode.SUCCESS =
      ((some Attributes.empty).map (CredentialOutput.onResult ResultCode.SUCCESS)).toList := rfl
  unfold onStart
  simp only [deleted]
  rw [outputs,report,List.cons_append,agrees_commit _ _ aside,deletions_published]
  simp only [Option.isSome_some,and_self,true_and]
  constructor
  · intro told other same _
    rw [reply] at same
    cases same
    exact told
  · exact fun well => well hdiResult reply direct

end Start

section Result
variable {answers : Answers} {s : DeleteContext} {scheduleResult : Option Attributes} {credentialInfos : List EngCredentialInfo}

theorem commits_unique (left : Commits answers scheduleResult one) (right : Commits answers scheduleResult two) :
    one = two := by
  obtain ⟨payload,read,reply⟩ := left
  obtain ⟨_,same,back⟩ := right
  rw [read] at same
  cases same
  rw [reply] at back
  cases back
  rfl

def announcement (answers : Answers) (s : DeleteContext) : PublishEventAdapter × List CredentialOutput :=
  CredentialUpdatedManager.processCredentialDeleted answers.database s.adapter s.impl.deletePara s.impl.deletePara.credentialId
    AuthType.PIN

theorem update_committed (commits : Commits answers scheduleResult credentialInfos) :
    (updateScheduleResult answers s scheduleResult).2.ok = true ∧
    (updateScheduleResult answers s scheduleResult).1.adapter = (announcement answers s).1 ∧ ∃ deletion,
      (deletion = [] ∨ ∃ info, deletion = [.notifyExecutorToDeleteTemplates [info]]) ∧
      (updateScheduleResult answers s scheduleResult).2.outputs =
        .committed [s.impl.abandoned] :: ((announcement answers s).2 ++ deletion) := by
  obtain ⟨payload,read,reply⟩ := commits
  unfold updateScheduleResult DeleteImpl.update announcement
  simp only [read,reply]
  cases credentialInfos with
  | nil => simp
  | cons info rest => simp

theorem commit_agrees (commits : Commits answers scheduleResult credentialInfos) (resultCode : ResultCode) :
    Agrees (onResult answers s resultCode scheduleResult) ↔ resultCode = ResultCode.SUCCESS ∧
      (answers.database.credentialInfo s.impl.deletePara.userId AuthType.PIN).code = ResultCode.SUCCESS := by
  obtain ⟨ok,adapter,deletion,either,outputs⟩ := @update_committed answers s scheduleResult credentialInfos commits
  have removed : ∀ output ∈ deletion, CredentialUpdatedManager.Aside output := by
    rcases either with rfl | ⟨info,rfl⟩
    · simp
    · simp [CredentialUpdatedManager.Aside]
  have said : ∀ output ∈ (announcement answers s).2, CredentialUpdatedManager.Aside output :=
    CredentialUpdatedManager.deleted_aside _ _ _
  have announced : Published (updateScheduleResult answers s scheduleResult).1.adapter ((announcement answers s).2 ++ deletion)
      [s.impl.abandoned] ↔
      (answers.database.credentialInfo s.impl.deletePara.userId AuthType.PIN).code = ResultCode.SUCCESS := by
    have events := @CredentialUpdatedManager.deleted_events answers.database s.adapter s.impl.deletePara
      s.impl.deletePara.credentialId AuthType.PIN
    have silent : deletion.filterMap (·.updated) = [] := by
      rcases either with rfl | ⟨info,rfl⟩ <;> rfl
    constructor
    · intro published
      have own := published.events
      rw [List.filterMap_append,silent,List.append_nil,announcement,events] at own
      by_contra unread
      rw [if_neg unread] at own
      cases own
    · intro read
      refine ⟨?_,?_,?_⟩
      · rw [List.filterMap_append,silent,List.append_nil,announcement,events,if_pos read]
        rfl
      · intro change member _ named
        cases List.mem_singleton.mp member
        exact absurd rfl (named rfl)
      · intro change member credentialId some
        cases List.mem_singleton.mp member
        cases some
  have report : invokeResultCallback resultCode =
      ((some Attributes.empty).map (CredentialOutput.onResult resultCode)).toList := rfl
  unfold onResult
  dsimp only
  rw [ok]
  simp only [Bool.not_true,Bool.false_and,Bool.false_eq_true,if_false]
  rw [outputs,report,List.cons_append,agrees_commit _ _ (List.forall_mem_append.mpr ⟨said,removed⟩),
    announced]
  simp

theorem update_uncommitted (failing : Failing virtuals s)
    (none : ¬∃ credentialInfos, Commits answers scheduleResult credentialInfos) :
    (updateScheduleResult answers s scheduleResult).1.base.latestError ≠ ResultCode.SUCCESS ∧
      (updateScheduleResult answers s scheduleResult).2.ok = false ∧
      (updateScheduleResult answers s scheduleResult).2.outputs = [] := by
  unfold updateScheduleResult DeleteImpl.update
  cases read : scheduleResult.bind fun attrs => attrs.getUint8ArrayValue ATTR_RESULT with
  | none => exact ⟨failing.1,rfl,rfl⟩
  | some payload =>
    cases reply : answers.updateAbandonResult payload with
    | refused code failed =>
      have error : setLatestError s.base.latestError (setLatestError s.impl.latestError code) ≠ ResultCode.SUCCESS :=
        setLatestError_failure failing.1
      simp [reply,setError,error]
    | answered credentialInfos => exact absurd ⟨credentialInfos,payload,read,reply⟩ none

theorem result_agrees (failing : Failing virtuals s) (resultCode : ResultCode) :
    Agrees (onResult answers s resultCode scheduleResult) ↔ EndsWell answers s.impl resultCode scheduleResult := by
  by_cases committed : ∃ credentialInfos, Commits answers scheduleResult credentialInfos
  · obtain ⟨credentialInfos,commits⟩ := committed
    rw [commit_agrees commits]
    constructor
    · intro well other again
      exact well
    · exact fun well => well credentialInfos commits
  · obtain ⟨failed,ok,outputs⟩ := update_uncommitted failing committed
    refine iff_of_true (agrees_neutral ?_) fun credentialInfos commits => absurd ⟨credentialInfos,commits⟩ committed
    unfold onResult
    dsimp only
    rw [ok,outputs,List.nil_append]
    refine List.forall_mem_singleton.mpr ?_
    by_cases success : resultCode = ResultCode.SUCCESS
    · simpa [success,Neutral] using failed
    · simp [success,Neutral]

theorem update_failing (failing : Failing virtuals s) :
    Failing virtuals (updateScheduleResult answers s scheduleResult).1 := by
  unfold updateScheduleResult
  split
  · exact failing
  · rename_i payload _
    have kept : (s.impl.update s.adapter answers payload).delete.latestError ≠ ResultCode.SUCCESS := by
      unfold DeleteImpl.update
      split
      · exact setLatestError_failure failing.2
      · exact failing.2
    dsimp only
    split
    · exact ⟨setLatestError_failure failing.1,kept⟩
    · split <;> exact ⟨failing.1,kept⟩

end Result

theorem virtuals_lawful : virtuals.Lawful BeginsWell EndsWell where
  startFailing answers s failing := by
    have kept := @start_error answers s.impl s.adapter failing.2
    simp only [virtuals,onStart]
    split
    · exact ⟨setLatestError_failure failing.1,kept⟩
    · exact ⟨failing.1,kept⟩
    · exact ⟨failing.1,kept⟩
  stopFailing _ _ failing := failing
  resultFailing answers s result scheduleResult failing := update_failing failing
  refused answers s refused := by
    have idle : (s.impl.start s.adapter answers).2.2.2 ≠ some .deleted := by
      intro deleted
      simp [virtuals,onStart,deleted] at refused
    obtain ⟨quiet,well⟩ := start_idle idle
    refine ⟨?_,well⟩
    simp only [virtuals,onStart]
    split
    · simp [quiet]
    · rename_i deleted
      exact absurd deleted idle
    · simp [quiet]
  begun answers s _ := by
    by_cases deleted : (s.impl.start s.adapter answers).2.2.2 = some .deleted
    · exact deletion_agrees s deleted
    · obtain ⟨quiet,well⟩ := start_idle deleted
      refine iff_of_true (agrees_neutral ?_) well
      simp only [virtuals,onStart]
      split
      · simp [quiet]
      · rename_i other
        exact absurd other deleted
      · simp [quiet]
  ended answers s result scheduleResult failing := result_agrees failing result

def create (deletePara : Deletion.DeleteParam) (adapter : PublishEventAdapter) : DeleteContext := {impl:={deletePara},adapter}

theorem create_failing (deletePara : Deletion.DeleteParam) (adapter : PublishEventAdapter) :
    Failing virtuals (create deletePara adapter) := ⟨generalError_failure,generalError_failure⟩

end DeleteContext
end UserAuth
