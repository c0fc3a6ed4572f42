import UserAuth.Engine.EngineReply
import UserAuth.Schedule.ScheduleNode

namespace UserAuth
open Attributes

structure EngCredentialInfo where
  credentialId : UInt64 := 0
  executorIndex : UInt64 := 0
  templateId : UInt64 := 0
  authType : AuthType := 0
  deriving DecidableEq

structure CredChangeEventInfo where
  callerName : String := ""
  callerType : Int32 := 0
  credentialId : UInt64 := 0
  lastCredentialId : UInt64 := 0
  isSilentCredChange : Bool := false
  deriving DecidableEq

inductive CredChangeEventType where
  | ADD_CRED | UPDATE_CRED | DEL_CRED
  deriving DecidableEq,Repr

-- The credential that came or went. A PIN update also names the PIN it replaces.
structure CredentialChange where
  userId : Int32
  authType : AuthType
  eventType : CredChangeEventType
  credentialId : UInt64
  updatedPin : Option UInt64 := none
  deriving DecidableEq

inductive CredentialOutput where
  | scheduleEffect (effect : ScheduleNode.Effect)
  -- The engine's call came back with success, having made these changes.
  | committed (changes : List CredentialChange)
  | onResult (resultCode : ResultCode) (extraInfo : Attributes)
  | notifyExecutorToDeleteTemplates (infos : List EngCredentialInfo)
  | deleteUserEnforce (userId : Int32)
  | userPinCreatedEvent (userId : Int32) (scheduleId : UInt64)
  | userPinUpdatedEvent (userId : Int32) (scheduleId : UInt64) (isSilentCredChange : Bool)
  | userCredentialUpdatedEvent (userId : Int32) (authType : AuthType) (credentialCount : UInt32) (isSilentCredChange : Bool)
  | saveCredentialUpdatedEvent (userId : Int32) (authType : AuthType) (credentialCount : UInt32)
  | onNotifyCredChangeEvent (userId : Int32) (authType : AuthType) (eventType : CredChangeEventType)
      (changeInfo : CredChangeEventInfo)

structure PublishEventAdapter where
  userId : Int32 := 0
  scheduleId : UInt64 := 0
  credChangeEventInfo : CredChangeEventInfo := {}
  reEnrollFlag : Bool := false
  deriving DecidableEq

namespace PublishEventAdapter

def publishCreatedEvent (userId : Int32) (scheduleId : UInt64) : List CredentialOutput :=
  if scheduleId == 0 then [] else [.userPinCreatedEvent userId scheduleId]

def publishUpdatedEvent (adapter : PublishEventAdapter) (userId : Int32) (credentialId : UInt64) :
    PublishEventAdapter × List CredentialOutput :=
  if userId != adapter.userId || credentialId != adapter.credChangeEventInfo.lastCredentialId then (adapter,[])
  else ({adapter with credChangeEventInfo:={},reEnrollFlag:=false},
    [.onNotifyCredChangeEvent userId AuthType.PIN .UPDATE_CRED adapter.credChangeEventInfo,
      .userPinUpdatedEvent userId adapter.scheduleId adapter.credChangeEventInfo.isSilentCredChange])

def cachePinUpdateParam (adapter : PublishEventAdapter) (userId : Int32) (scheduleId : UInt64)
    (changeInfo : CredChangeEventInfo) : PublishEventAdapter :=
  {adapter with userId,scheduleId,credChangeEventInfo:={changeInfo with isSilentCredChange:=adapter.reEnrollFlag}}

def publishCredentialUpdatedEvent (adapter : PublishEventAdapter) (userId : Int32) (authType : AuthType)
    (credentialCount : UInt32) : CredentialOutput :=
  .userCredentialUpdatedEvent userId authType credentialCount
    (authType == AuthType.PIN && adapter.credChangeEventInfo.isSilentCredChange)

end PublishEventAdapter

namespace Deletion

structure DeleteParam where
  userId : Int32 := 0
  credentialId : UInt64 := 0
  tokenId : UInt32 := 0
  callerName : String := ""
  callerType : Int32 := -1
  token : Bytes := []

end Deletion

namespace Enrollment

structure EnrollmentPara where
  userId : Int32 := 0
  authType : AuthType := AuthType.ALL
  pinType : Int32 := 0
  isUpdate : Bool := false
  tokenId : UInt32 := 0
  token : Bytes := []
  callerName : String := ""
  sdkVersion : Int32 := 0
  callerType : Int32 := 0
  additionalInfo : String := ""

end Enrollment

structure EngEnrollResultInfo where
  credentialId : UInt64 := 0
  oldInfo : EngCredentialInfo := {}
  rootSecret : Bytes := []
  oldRootSecret : Bytes := []
  authToken : Bytes := []

-- The id database while one result is handled.
structure UserIdmDatabase where
  credentialInfo : Int32 → AuthType → EngineReply (List EngCredentialInfo)
  secUserInfo : Int32 → EngineReply (Option UInt64)

namespace CredentialUpdatedManager
variable (database : UserIdmDatabase) (adapter : PublishEventAdapter)

def publishCredentialUpdated (userId : Int32) (authType : AuthType) (credentialInfos : List EngCredentialInfo) :
    List CredentialOutput :=
  let credentialCount := UInt32.ofNat credentialInfos.length
  [adapter.publishCredentialUpdatedEvent userId authType credentialCount,
    .saveCredentialUpdatedEvent userId authType credentialCount]

def processCredentialDeleted (deletePara : Deletion.DeleteParam) (credentialId : UInt64) (authType : AuthType) :
    PublishEventAdapter × List CredentialOutput :=
  match database.credentialInfo deletePara.userId authType with
  | .refused _ _ => (adapter,[])
  | .answered credentialInfos =>
    let updated := adapter.publishUpdatedEvent deletePara.userId credentialId
    let changeInfo : CredChangeEventInfo := ⟨deletePara.callerName,deletePara.callerType,0,credentialId,false⟩
    (updated.1,publishCredentialUpdated adapter deletePara.userId authType credentialInfos ++ updated.2 ++
      if authType != AuthType.PIN then [.onNotifyCredChangeEvent deletePara.userId authType .DEL_CRED changeInfo] else [])

def processCredentialEnrolled (enrollPara : Enrollment.EnrollmentPara) (resultInfo : EngEnrollResultInfo)
    (isUpdate : Bool) (scheduleId : UInt64) : PublishEventAdapter × List CredentialOutput :=
  let changeInfo : CredChangeEventInfo := ⟨enrollPara.callerName,enrollPara.callerType,resultInfo.credentialId,0,false⟩
  let updateInfo := {changeInfo with lastCredentialId:=resultInfo.oldInfo.credentialId}
  if isUpdate && enrollPara.authType == AuthType.PIN then
    (adapter.cachePinUpdateParam enrollPara.userId scheduleId updateInfo,[])
  else match database.credentialInfo enrollPara.userId enrollPara.authType with
    | .refused _ _ => (adapter,[])
    | .answered credentialInfos =>
      (adapter,publishCredentialUpdated adapter enrollPara.userId enrollPara.authType credentialInfos ++
        if isUpdate && enrollPara.authType != AuthType.PIN then
          [.onNotifyCredChangeEvent enrollPara.userId enrollPara.authType .UPDATE_CRED updateInfo]
        else if !isUpdate && enrollPara.authType != AuthType.PIN then
          [.onNotifyCredChangeEvent enrollPara.userId enrollPara.authType .ADD_CRED changeInfo]
        else PublishEventAdapter.publishCreatedEvent enrollPara.userId scheduleId ++
          [.onNotifyCredChangeEvent enrollPara.userId enrollPara.authType .ADD_CRED changeInfo])

end CredentialUpdatedManager

-- The user and the type that a credential event names.
def CredentialOutput.updated : CredentialOutput → Option (Int32 × AuthType)
  | .userCredentialUpdatedEvent userId authType _ _ => some (userId,authType)
  | _ => none

-- The credential that the listeners are told of: the one that is there now, or is not any more.
def CredentialOutput.notified : CredentialOutput → Option (Int32 × AuthType × CredChangeEventType × UInt64)
  | .onNotifyCredChangeEvent userId authType .DEL_CRED changeInfo => some (userId,authType,.DEL_CRED,changeInfo.lastCredentialId)
  | .onNotifyCredChangeEvent userId authType eventType changeInfo => some (userId,authType,eventType,changeInfo.credentialId)
  | _ => none

def CredentialChange.notice (change : CredentialChange) : Int32 × AuthType × CredChangeEventType × UInt64 :=
  (change.userId,change.authType,change.eventType,change.credentialId)

-- Of a PIN that is deleted the listeners are told nothing, by the source's design.
def CredentialChange.Named (change : CredentialChange) : Prop := change.eventType = .DEL_CRED → change.authType ≠ AuthType.PIN

-- Every change has a credential event of its own, and the listeners are told the
-- credential. The announcement of a PIN update waits for the old PIN's deletion:
-- it is made once the adapter holds it, so that this deletion sends it out.
structure Published (adapter : PublishEventAdapter) (outputs : List CredentialOutput) (changes : List CredentialChange) :
    Prop where
  events : outputs.filterMap (·.updated) =
    (changes.filter (·.updatedPin.isNone)).map fun change => (change.userId,change.authType)
  notices : ∀ change ∈ changes, change.updatedPin = none → change.Named → change.notice ∈ outputs.filterMap (·.notified)
  held : ∀ change ∈ changes, ∀ credentialId, change.updatedPin = some credentialId →
    change.notice ∈ (adapter.publishUpdatedEvent change.userId credentialId).2.filterMap (·.notified) ∧
      ∃ scheduleId isSilentCredChange, .userPinUpdatedEvent change.userId scheduleId isSilentCredChange ∈
        (adapter.publishUpdatedEvent change.userId credentialId).2

theorem published_congr (events : xs.filterMap (·.updated) = ys.filterMap (·.updated))
    (notices : xs.filterMap (·.notified) = ys.filterMap (·.notified)) :
    Published adapter xs changes ↔ Published adapter ys changes := by
  constructor
  · intro published
    exact ⟨events ▸ published.events,notices ▸ published.notices,published.held⟩
  · intro published
    exact ⟨events ▸ published.events,notices ▸ published.notices,published.held⟩

namespace CredentialUpdatedManager
variable {database : UserIdmDatabase} {adapter : PublishEventAdapter}

-- What the adapter sends out for a PIN update is none of these events.
theorem updatedEvent_none (userId : Int32) (credentialId : UInt64) :
    (adapter.publishUpdatedEvent userId credentialId).2.filterMap (·.updated) = [] := by
  unfold PublishEventAdapter.publishUpdatedEvent
  split <;> rfl

-- The database alone decides whether a deletion is announced.
theorem deleted_events (deletePara : Deletion.DeleteParam) (credentialId : UInt64) (authType : AuthType) :
    (processCredentialDeleted database adapter deletePara credentialId authType).2.filterMap (·.updated) =
      if (database.credentialInfo deletePara.userId authType).code = ResultCode.SUCCESS
      then [(deletePara.userId,authType)] else [] := by
  unfold processCredentialDeleted
  cases read : database.credentialInfo deletePara.userId authType with
  | refused code failed => exact (if_neg failed).symm
  | answered credentialInfos =>
    have told : (if authType != AuthType.PIN then [CredentialOutput.onNotifyCredChangeEvent deletePara.userId authType .DEL_CRED
        ⟨deletePara.callerName,deletePara.callerType,0,credentialId,false⟩] else []).filterMap (·.updated) = [] := by
      split <;> rfl
    dsimp only
    rw [List.filterMap_append,List.filterMap_append,updatedEvent_none,told]
    rfl

theorem deleted_notice (deletePara : Deletion.DeleteParam) (credentialId : UInt64) (named : authType ≠ AuthType.PIN)
    (read : (database.credentialInfo deletePara.userId authType).code = ResultCode.SUCCESS) :
    (deletePara.userId,authType,.DEL_CRED,credentialId) ∈
      (processCredentialDeleted database adapter deletePara credentialId authType).2.filterMap (·.notified) := by
  unfold processCredentialDeleted
  cases reply : database.credentialInfo deletePara.userId authType with
  | refused code failed =>
    rw [reply] at read
    exact absurd read failed
  | answered credentialInfos =>
    have other : (authType != AuthType.PIN) = true := by simpa using named
    dsimp only
    rw [if_pos other,List.filterMap_append]
    exact List.mem_append_right _ List.mem_cons_self

-- A PIN update is left with the adapter. Of any other enrollment the database
-- decides.
theorem enrolled_published (enrollPara : Enrollment.EnrollmentPara) (resultInfo : EngEnrollResultInfo) (isUpdate : Bool)
    (scheduleId : UInt64) :
    Published (processCredentialEnrolled database adapter enrollPara resultInfo isUpdate scheduleId).1
        (processCredentialEnrolled database adapter enrollPara resultInfo isUpdate scheduleId).2
        [⟨enrollPara.userId,enrollPara.authType,if isUpdate then .UPDATE_CRED else .ADD_CRED,resultInfo.credentialId,
          if isUpdate && enrollPara.authType == AuthType.PIN then some resultInfo.oldInfo.credentialId else none⟩] ↔
      (isUpdate = true ∧ enrollPara.authType = AuthType.PIN) ∨
        (database.credentialInfo enrollPara.userId enrollPara.authType).code = ResultCode.SUCCESS := by
  unfold processCredentialEnrolled
  dsimp only
  by_cases pinUpdate : (isUpdate && enrollPara.authType == AuthType.PIN) = true
  · rw [if_pos pinUpdate,if_pos pinUpdate]
    obtain ⟨update,pin⟩ : isUpdate = true ∧ enrollPara.authType = AuthType.PIN := by simpa using pinUpdate
    refine iff_of_true ⟨rfl,?_,?_⟩ (.inl ⟨update,pin⟩)
    · intro change member none
      rw [List.mem_singleton.mp member] at none
      cases none
    · intro change member credentialId some
      cases List.mem_singleton.mp member
      cases some
      rw [update,pin,PublishEventAdapter.publishUpdatedEvent,PublishEventAdapter.cachePinUpdateParam,
        if_neg (by simp)]
      exact ⟨List.mem_cons_self,scheduleId,adapter.reEnrollFlag,List.mem_cons_of_mem _ List.mem_cons_self⟩
  · rw [if_neg pinUpdate,if_neg pinUpdate]
    have other : ¬(isUpdate = true ∧ enrollPara.authType = AuthType.PIN) := by simpa using pinUpdate
    rw [or_iff_right other]
    cases read : database.credentialInfo enrollPara.userId enrollPara.authType with
    | refused code failed =>
      refine iff_of_false (fun published => ?_) failed
      have events := published.events
      cases events
    | answered credentialInfos =>
      refine iff_of_true ⟨?_,?_,?_⟩ rfl
      · dsimp only
        rw [List.filterMap_append]
        split
        · rfl
        · split
          · rfl
          · unfold PublishEventAdapter.publishCreatedEvent
            split <;> rfl
      · intro change member _ _
        cases List.mem_singleton.mp member
        dsimp only
        rw [List.filterMap_append]
        refine List.mem_append_right _ ?_
        cases isUpdate with
        | true =>
          have biometric : enrollPara.authType ≠ AuthType.PIN := fun pin => other ⟨rfl,pin⟩
          rw [if_pos (by simpa using biometric)]
          exact List.mem_cons_self
        | false =>
          rw [if_neg (by simp)]
          split
          · exact List.mem_cons_self
          · rw [List.filterMap_append]
            exact List.mem_append_right _ List.mem_cons_self
      · intro change member credentialId some
        rw [List.mem_singleton.mp member] at some
        cases some

-- Neither hook speaks to the caller or commits anything.
def Aside : CredentialOutput → Prop
  | .committed _ => False
  | .onResult _ _ => False
  | _ => True

theorem published_aside (userId : Int32) (authType : AuthType) (credentialInfos : List EngCredentialInfo) :
    ∀ output ∈ publishCredentialUpdated adapter userId authType credentialInfos, Aside output := by
  simp [publishCredentialUpdated,PublishEventAdapter.publishCredentialUpdatedEvent,Aside]

theorem deleted_aside (deletePara : Deletion.DeleteParam) (credentialId : UInt64) (authType : AuthType) :
    ∀ output ∈ (processCredentialDeleted database adapter deletePara credentialId authType).2, Aside output := by
  unfold processCredentialDeleted
  split
  · simp
  · dsimp only
    rw [List.forall_mem_append,List.forall_mem_append]
    refine ⟨⟨published_aside _ _ _,?_⟩,?_⟩
    · unfold PublishEventAdapter.publishUpdatedEvent
      split <;> simp [Aside]
    · split <;> simp [Aside]

theorem enrolled_aside (enrollPara : Enrollment.EnrollmentPara) (resultInfo : EngEnrollResultInfo) (isUpdate : Bool)
    (scheduleId : UInt64) :
    ∀ output ∈ (processCredentialEnrolled database adapter enrollPara resultInfo isUpdate scheduleId).2, Aside output := by
  unfold processCredentialEnrolled
  dsimp only
  split
  · simp
  · split
    · simp
    · rw [List.forall_mem_append]
      refine ⟨published_aside _ _ _,?_⟩
      split
      · simp [Aside]
      · split
        · simp [Aside]
        · unfold PublishEventAdapter.publishCreatedEvent
          split <;> simp [Aside]

end CredentialUpdatedManager
end UserAuth
