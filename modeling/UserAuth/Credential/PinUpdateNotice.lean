import Mathlib.Data.List.Basic
import UserAuth.Credential.CredentialUpdated
import UserAuth.Lib.Mealy

namespace UserAuth

namespace PublishEventAdapter

-- CachePinUpdateParam for a flag alone, which names no user.
def cacheReEnrollFlag (adapter : PublishEventAdapter) (reEnrollFlag : Bool) : PublishEventAdapter :=
  {adapter with reEnrollFlag}

end PublishEventAdapter

-- A recorded PIN update, with its own user's flag in the change info.
structure PinUpdate where
  userId : Int32
  scheduleId : UInt64
  changeInfo : CredChangeEventInfo
  deriving DecidableEq

-- What the slot of the adapter stands for: each user's flag, and the updates
-- whose old credential is not deleted yet.
structure PinUpdateLedger where
  reEnrollFlags : Int32 → Bool := fun _ => false
  pending : List PinUpdate := []

inductive PinUpdateInput where
  | authResult (userId : Int32) (authType : AuthType) (result : ResultCode) (reEnrollFlag : Bool)
  | enrolled (database : UserIdmDatabase) (enrollPara : Enrollment.EnrollmentPara) (resultInfo : EngEnrollResultInfo)
      (isUpdate : Bool) (scheduleId : UInt64)
  | deleted (database : UserIdmDatabase) (deletePara : Deletion.DeleteParam) (credentialId : UInt64)
      (authType : AuthType)

namespace PinUpdate

def Replaces (update : PinUpdate) (userId : Int32) (credentialId : UInt64) : Prop :=
  update.userId = userId ∧ update.changeInfo.lastCredentialId = credentialId

instance (update : PinUpdate) (userId : Int32) (credentialId : UInt64) :
    Decidable (update.Replaces userId credentialId) :=
  inferInstanceAs (Decidable (_ ∧ _))

-- The one UPDATED event, to the listeners and as a common event.
def events (update : PinUpdate) : List CredentialOutput :=
  [.onNotifyCredChangeEvent update.userId AuthType.PIN .UPDATE_CRED update.changeInfo,
    .userPinUpdatedEvent update.userId update.scheduleId update.changeInfo.isSilentCredChange]

theorem events_injective {update other : PinUpdate} (same : update.events = other.events) : update = other := by
  cases update
  cases other
  simp only [events,List.cons.injEq,CredentialOutput.onNotifyCredChangeEvent.injEq,
    CredentialOutput.userPinUpdatedEvent.injEq] at same
  obtain ⟨⟨rfl,-,-,rfl⟩,⟨-,rfl,-⟩,-⟩ := same
  rfl

end PinUpdate

namespace PinUpdateLedger

def authResult (ledger : PinUpdateLedger) (userId : Int32) (authType : AuthType) (result : ResultCode)
    (reEnrollFlag : Bool) : PinUpdateLedger :=
  if result = ResultCode.SUCCESS ∧ authType = AuthType.PIN then
    {ledger with reEnrollFlags:=fun user => if user = userId then reEnrollFlag else ledger.reEnrollFlags user}
  else ledger

def recorded (ledger : PinUpdateLedger) (enrollPara : Enrollment.EnrollmentPara) (resultInfo : EngEnrollResultInfo)
    (scheduleId : UInt64) : PinUpdate :=
  ⟨enrollPara.userId,scheduleId,⟨enrollPara.callerName,enrollPara.callerType,resultInfo.credentialId,
    resultInfo.oldInfo.credentialId,ledger.reEnrollFlags enrollPara.userId⟩⟩

def enrolled (ledger : PinUpdateLedger) (enrollPara : Enrollment.EnrollmentPara) (resultInfo : EngEnrollResultInfo)
    (isUpdate : Bool) (scheduleId : UInt64) : PinUpdateLedger :=
  if isUpdate = true ∧ enrollPara.authType = AuthType.PIN then
    {ledger with pending:=ledger.pending ++ [ledger.recorded enrollPara resultInfo scheduleId]}
  else ledger

-- The updates that wait for this deletion.
def due (ledger : PinUpdateLedger) (userId : Int32) (credentialId : UInt64) (authType : AuthType) : List PinUpdate :=
  if authType = AuthType.PIN then ledger.pending.filter fun update => update.Replaces userId credentialId else []

def deleted (ledger : PinUpdateLedger) (userId : Int32) (credentialId : UInt64) (authType : AuthType) :
    PinUpdateLedger :=
  if ledger.due userId credentialId authType = [] then ledger
  else ⟨fun user => if user = userId then false else ledger.reEnrollFlags user,
    ledger.pending.filter fun update => ¬update.Replaces userId credentialId⟩

end PinUpdateLedger

-- The adapter beside the ledger it stands for.
structure PinUpdateNotice where
  adapter : PublishEventAdapter := {}
  ledger : PinUpdateLedger := {}

-- What one step published of PIN updates, and what was due.
structure PinUpdateEvents where
  published : List CredentialOutput
  due : List PinUpdate

namespace PinUpdateNotice

def Updated : CredentialOutput → Bool
  | .onNotifyCredChangeEvent _ authType .UPDATE_CRED _ => authType == AuthType.PIN
  | .userPinUpdatedEvent _ _ _ => true
  | _ => false

def authResult (s : PinUpdateNotice) (userId : Int32) (authType : AuthType) (result : ResultCode)
    (reEnrollFlag : Bool) : PinUpdateNotice :=
  ⟨if result = ResultCode.SUCCESS ∧ authType = AuthType.PIN then s.adapter.cacheReEnrollFlag reEnrollFlag
    else s.adapter,s.ledger.authResult userId authType result reEnrollFlag⟩

def step (s : PinUpdateNotice) : PinUpdateInput → PinUpdateNotice × List PinUpdateEvents
  | .authResult userId authType result reEnrollFlag => (s.authResult userId authType result reEnrollFlag,[⟨[],[]⟩])
  | .enrolled database enrollPara resultInfo isUpdate scheduleId =>
    let processed := CredentialUpdatedManager.processCredentialEnrolled database s.adapter enrollPara resultInfo
      isUpdate scheduleId
    (⟨processed.1,s.ledger.enrolled enrollPara resultInfo isUpdate scheduleId⟩,[⟨processed.2.filter Updated,[]⟩])
  | .deleted database deletePara credentialId authType =>
    let processed := CredentialUpdatedManager.processCredentialDeleted database s.adapter deletePara credentialId
      authType
    (⟨processed.1,s.ledger.deleted deletePara.userId credentialId authType⟩,
      [⟨processed.2.filter Updated,s.ledger.due deletePara.userId credentialId authType⟩])

def machine : Mealy PinUpdateNotice PinUpdateInput PinUpdateEvents := ⟨step⟩

-- The update that the adapter would publish.
def held (adapter : PublishEventAdapter) : PinUpdate :=
  ⟨adapter.userId,adapter.scheduleId,adapter.credChangeEventInfo⟩

-- A deletion that an update waits for finds the database readable and that
-- update, and no other, still in the adapter. One that none waits for is not
-- taken for the adapter's.
def Held (s : PinUpdateNotice) : PinUpdateInput → Prop
  | .deleted database deletePara credentialId authType =>
    let read := (database.credentialInfo deletePara.userId authType).code = ResultCode.SUCCESS
    if s.ledger.due deletePara.userId credentialId authType = [] then
      ¬(read ∧ (held s.adapter).Replaces deletePara.userId credentialId)
    else read ∧ s.ledger.due deletePara.userId credentialId authType = [held s.adapter]
  | _ => True

def Notified (events : PinUpdateEvents) : Prop := events.published = events.due.flatMap PinUpdate.events

section Steps
variable {s : PinUpdateNotice} {adapter : PublishEventAdapter}

theorem updated_credential (userId : Int32) (authType : AuthType) (credentialInfos : List EngCredentialInfo) :
    (CredentialUpdatedManager.publishCredentialUpdated adapter userId authType credentialInfos).filter Updated = [] := rfl

theorem enrolled_quiet (database : UserIdmDatabase) (enrollPara : Enrollment.EnrollmentPara)
    (resultInfo : EngEnrollResultInfo) (isUpdate : Bool) (scheduleId : UInt64) :
    (CredentialUpdatedManager.processCredentialEnrolled database adapter enrollPara resultInfo isUpdate
      scheduleId).2.filter Updated = [] := by
  unfold CredentialUpdatedManager.processCredentialEnrolled
  dsimp only
  split
  · rfl
  · split
    · rfl
    · rw [List.filter_append,updated_credential,List.nil_append]
      split
      · rename_i other
        have face : enrollPara.authType ≠ AuthType.PIN := by simpa using (Bool.and_eq_true_iff.mp other).2
        simp [Updated,face]
      · split
        · rfl
        · unfold PublishEventAdapter.publishCreatedEvent
          split <;> rfl

theorem passes_over_iff (adapter : PublishEventAdapter) (userId : Int32) (credentialId : UInt64) :
    (userId != adapter.userId || credentialId != adapter.credChangeEventInfo.lastCredentialId) = true ↔
      ¬(held adapter).Replaces userId credentialId := by
  rw [Bool.or_eq_true,bne_iff_ne,bne_iff_ne,PinUpdate.Replaces,not_and_or]
  exact or_congr ne_comm ne_comm

theorem publishUpdatedEvent_eq (adapter : PublishEventAdapter) (userId : Int32) (credentialId : UInt64) :
    adapter.publishUpdatedEvent userId credentialId =
      if (held adapter).Replaces userId credentialId
      then ({adapter with credChangeEventInfo:={},reEnrollFlag:=false},(held adapter).events) else (adapter,[]) := by
  unfold PublishEventAdapter.publishUpdatedEvent
  by_cases named : (held adapter).Replaces userId credentialId
  · rw [if_pos named,if_neg fun other => (passes_over_iff adapter userId credentialId).mp other named]
    obtain ⟨rfl,-⟩ := named
    rfl
  · rw [if_neg named,if_pos ((passes_over_iff adapter userId credentialId).mpr named)]

theorem events_updated (update : PinUpdate) : update.events.filter Updated = update.events := rfl

-- The adapter alone decides what a deletion does, once the database is read.
theorem processCredentialDeleted_eq (database : UserIdmDatabase) (deletePara : Deletion.DeleteParam)
    (credentialId : UInt64) (authType : AuthType) :
    let processed := CredentialUpdatedManager.processCredentialDeleted database adapter deletePara credentialId authType
    (processed.1,processed.2.filter Updated) =
      if (database.credentialInfo deletePara.userId authType).code = ResultCode.SUCCESS ∧
        (held adapter).Replaces deletePara.userId credentialId
      then ({adapter with credChangeEventInfo:={},reEnrollFlag:=false},(held adapter).events) else (adapter,[]) := by
  unfold CredentialUpdatedManager.processCredentialDeleted
  cases read : database.credentialInfo deletePara.userId authType with
  | refused code failed =>
    rw [if_neg fun found => failed found.1]
    rfl
  | answered credentialInfos =>
    dsimp only
    rw [List.filter_append,List.filter_append,updated_credential,List.nil_append,publishUpdatedEvent_eq]
    have told : (if (authType != AuthType.PIN) = true then [CredentialOutput.onNotifyCredChangeEvent deletePara.userId
        authType .DEL_CRED ⟨deletePara.callerName,deletePara.callerType,0,credentialId,false⟩] else []).filter
          Updated = [] := by
      split <;> rfl
    rw [told,List.append_nil]
    by_cases named : (held adapter).Replaces deletePara.userId credentialId
    · rw [if_pos named,if_pos ⟨rfl,named⟩,events_updated]
    · rw [if_neg named,if_neg fun found => named found.2]
      rfl

theorem deleted_publishes (database : UserIdmDatabase) (deletePara : Deletion.DeleteParam) (credentialId : UInt64)
    (authType : AuthType) :
    (CredentialUpdatedManager.processCredentialDeleted database adapter deletePara credentialId authType).2.filter
        Updated =
      if (database.credentialInfo deletePara.userId authType).code = ResultCode.SUCCESS ∧
        (held adapter).Replaces deletePara.userId credentialId then (held adapter).events else [] := by
  have both := congrArg Prod.snd (@processCredentialDeleted_eq adapter database deletePara credentialId authType)
  exact both.trans (apply_ite Prod.snd _ _ _)

theorem deleted_adapter (database : UserIdmDatabase) (deletePara : Deletion.DeleteParam) (credentialId : UInt64)
    (authType : AuthType) :
    (CredentialUpdatedManager.processCredentialDeleted database adapter deletePara credentialId authType).1 =
      if (database.credentialInfo deletePara.userId authType).code = ResultCode.SUCCESS ∧
        (held adapter).Replaces deletePara.userId credentialId
      then {adapter with credChangeEventInfo:={},reEnrollFlag:=false} else adapter := by
  have both := congrArg Prod.fst (@processCredentialDeleted_eq adapter database deletePara credentialId authType)
  exact both.trans (apply_ite Prod.fst _ _ _)

theorem due_replaced (member : update ∈ s.ledger.due userId credentialId authType) :
    update.Replaces userId credentialId := by
  unfold PinUpdateLedger.due at member
  split at member
  · exact of_decide_eq_true (List.mem_filter.mp member).2
  · cases member

theorem events_single {updates : List PinUpdate} (same : update.events = updates.flatMap PinUpdate.events) :
    updates = [update] := by
  cases updates with
  | nil => cases same
  | cons first rest =>
    cases rest with
    | nil =>
      rw [List.flatMap_cons,List.flatMap_nil,List.append_nil] at same
      rw [PinUpdate.events_injective same]
    | cons second rest =>
      have lengths := congrArg List.length same
      simp [PinUpdate.events] at lengths

theorem step_decides (s : PinUpdateNotice) (input : PinUpdateInput) :
    (∀ events ∈ (s.step input).2, Notified events) ↔ s.Held input := by
  cases input with
  | authResult => simp [step,Notified,Held]
  | enrolled database enrollPara resultInfo isUpdate scheduleId =>
    simp [step,Notified,Held,enrolled_quiet]
  | deleted database deletePara credentialId authType =>
    simp only [step,List.mem_singleton,forall_eq,Notified,Held,deleted_publishes]
    by_cases none : s.ledger.due deletePara.userId credentialId authType = []
    · rw [if_pos none,none,List.flatMap_nil]
      constructor
      · intro quiet named
        rw [if_pos named] at quiet
        cases quiet
      · intro other
        rw [if_neg other]
    · rw [if_neg none]
      constructor
      · intro same
        by_cases named : (database.credentialInfo deletePara.userId authType).code = ResultCode.SUCCESS ∧
            (held s.adapter).Replaces deletePara.userId credentialId
        · rw [if_pos named] at same
          exact ⟨named.1,events_single same⟩
        · rw [if_neg named] at same
          obtain ⟨update,member⟩ := List.exists_mem_of_ne_nil _ none
          have silent := List.flatMap_eq_nil_iff.mp same.symm update member
          cases silent
      · rintro ⟨read,only⟩
        have member : held s.adapter ∈ s.ledger.due deletePara.userId credentialId authType := by
          rw [only]
          exact List.mem_singleton_self _
        have named := due_replaced member
        rw [if_pos ⟨read,named⟩,only]
        simp

-- The adapter holds the one update that is pending, or nothing.
def Settled (s : PinUpdateNotice) : Prop :=
  (s.ledger.pending = [] ∧ s.adapter.credChangeEventInfo.lastCredentialId = 0) ∨ s.ledger.pending = [held s.adapter]

-- Updates that do not overlap: each is recorded while none is pending and after
-- a flag of its own user's, and its deletion can read the database.
def Serial (s : PinUpdateNotice) : PinUpdateInput → Prop
  | .authResult _ _ _ _ => True
  | .enrolled _ enrollPara _ isUpdate _ => isUpdate = true ∧ enrollPara.authType = AuthType.PIN →
      s.ledger.pending = [] ∧ s.adapter.reEnrollFlag = s.ledger.reEnrollFlags enrollPara.userId
  | .deleted database deletePara credentialId authType => credentialId ≠ 0 ∧
      ∀ update ∈ s.ledger.pending, update.Replaces deletePara.userId credentialId →
        authType = AuthType.PIN ∧ (database.credentialInfo deletePara.userId authType).code = ResultCode.SUCCESS

theorem enrolled_settled (settled : Settled s) (database : UserIdmDatabase) (enrollPara : Enrollment.EnrollmentPara)
    (resultInfo : EngEnrollResultInfo) (isUpdate : Bool) (scheduleId : UInt64)
    (serial : s.Serial (.enrolled database enrollPara resultInfo isUpdate scheduleId)) :
    Settled (s.step (.enrolled database enrollPara resultInfo isUpdate scheduleId)).1 := by
  simp only [step,CredentialUpdatedManager.processCredentialEnrolled,PinUpdateLedger.enrolled]
  by_cases update : isUpdate = true ∧ enrollPara.authType = AuthType.PIN
  · obtain ⟨alone,own⟩ := serial update
    right
    simp [update,alone,held,PinUpdateLedger.recorded,PublishEventAdapter.cachePinUpdateParam,own]
  · have other : ¬(isUpdate && enrollPara.authType == AuthType.PIN) = true := by
      simpa using update
    rw [if_neg update,if_neg other]
    split <;> exact settled

theorem due_named (only : s.ledger.pending = [update]) (named : update.Replaces userId credentialId) :
    s.ledger.due userId credentialId AuthType.PIN = [update] := by
  rw [PinUpdateLedger.due,if_pos rfl,only]
  simp [named]

theorem due_unnamed (other : ∀ update ∈ s.ledger.pending, ¬update.Replaces userId credentialId) :
    s.ledger.due userId credentialId authType = [] := by
  unfold PinUpdateLedger.due
  split
  · rw [List.filter_eq_nil_iff]
    intro update member named
    exact other update member (of_decide_eq_true named)
  · rfl

theorem deleted_settled (settled : Settled s) (database : UserIdmDatabase) (deletePara : Deletion.DeleteParam)
    (credentialId : UInt64) (authType : AuthType)
    (serial : s.Serial (.deleted database deletePara credentialId authType)) :
    Settled (s.step (.deleted database deletePara credentialId authType)).1 ∧
      s.Held (.deleted database deletePara credentialId authType) := by
  simp only [step,Held,PinUpdateLedger.deleted,deleted_adapter,Settled]
  by_cases named : ∃ update ∈ s.ledger.pending, update.Replaces deletePara.userId credentialId
  · obtain ⟨update,member,names⟩ := named
    obtain ⟨rfl,read⟩ := serial.2 update member names
    have only := settled.resolve_left fun idle => List.not_mem_nil (idle.1 ▸ member)
    rw [only,List.mem_singleton] at member
    subst member
    have due := due_named only names
    rw [due,if_neg (List.cons_ne_nil _ _),if_neg (List.cons_ne_nil _ _),if_pos ⟨read,names⟩]
    refine ⟨.inl ⟨?_,rfl⟩,read,rfl⟩
    simp [only,names]
  · have other : ∀ update ∈ s.ledger.pending, ¬update.Replaces deletePara.userId credentialId :=
      fun update member names => named ⟨update,member,names⟩
    have unheld : ¬(held s.adapter).Replaces deletePara.userId credentialId := by
      cases settled with
      | inl idle => exact fun names => serial.1 (names.2.symm.trans idle.2)
      | inr only => exact other _ (only ▸ List.mem_singleton_self _)
    rw [due_unnamed other,if_pos rfl,if_pos rfl,if_neg fun found => unheld found.2]
    exact ⟨settled,fun found => unheld found.2⟩

theorem step_settled (settled : Settled s) (input : PinUpdateInput) (serial : s.Serial input) :
    Settled (s.step input).1 ∧ s.Held input := by
  cases input with
  | authResult userId authType result reEnrollFlag =>
    refine ⟨?_,trivial⟩
    simp only [step,authResult,PinUpdateLedger.authResult]
    split <;> exact settled
  | enrolled database enrollPara resultInfo isUpdate scheduleId =>
    exact ⟨enrolled_settled settled database enrollPara resultInfo isUpdate scheduleId serial,trivial⟩
  | deleted database deletePara credentialId authType =>
    exact deleted_settled settled database deletePara credentialId authType serial

end Steps

-- Updates that do not overlap are published, each as its own user's.
theorem serial_notified (inputs : List PinUpdateInput) (serial : machine.Meets Serial {} inputs) :
    ∀ events ∈ machine.trace {} inputs, Notified events := by
  have held : machine.Meets Held {} inputs :=
    Mealy.meets_of_guarded (Q:=Settled) (fun s input settled serial => step_settled settled input serial)
      (.inl ⟨rfl,rfl⟩) serial
  exact (Mealy.good_iff_meets (Q:=fun _ => True) (fun _ _ _ => trivial) (fun s input _ => step_decides s input)
    trivial inputs).mpr held

-- Exactly the runs whose steps meet the condition publish what is due.
theorem notified_iff (inputs : List PinUpdateInput) :
    (∀ events ∈ machine.trace {} inputs, Notified events) ↔ machine.Meets Held {} inputs :=
  Mealy.good_iff_meets (Q:=fun _ => True) (fun _ _ _ => trivial) (fun s input _ => step_decides s input) trivial inputs

def readable : UserIdmDatabase := ⟨fun _ _ => .answered [],fun _ => .answered none⟩

-- A second user's update comes between the first one's and its deletion.
def overwritten : List PinUpdateInput :=
  [.enrolled readable {userId:=100,authType:=AuthType.PIN} {credentialId:=11,oldInfo:={credentialId:=1}} true 501,
    .enrolled readable {userId:=101,authType:=AuthType.PIN} {credentialId:=12,oldInfo:={credentialId:=2}} true 502,
    .deleted readable {userId:=100,credentialId:=1} 1 AuthType.PIN]

theorem overwritten_unpublished : ¬∀ inputs, ∀ events ∈ machine.trace {} inputs, Notified events := by
  intro all
  have lost : (machine.trace {} overwritten)[2]? = some ⟨[],[⟨100,501,⟨"",0,11,1,false⟩⟩]⟩ := by rfl
  have silent := all overwritten _ (List.mem_of_getElem? lost)
  cases silent

end PinUpdateNotice
end UserAuth
