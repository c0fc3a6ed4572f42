import UserAuth.Credential.UserIdmService

namespace UserAuth

-- Of a call's effects those that are certain from the start, less what the pool has to say.
def IdmEffect.trail : IdmEffect → Option IdmEffect
  | .engineDeleted userId infos rootSecret => some (.engineDeleted userId infos rootSecret)
  | .notified info _ _ => some (.notified info none none)
  | .publishDeletedEvent userId => some (.publishDeletedEvent userId)
  | .onNotifyCredChangeEvent userId authType eventType changeInfo =>
    some (.onNotifyCredChangeEvent userId authType eventType changeInfo)
  | .processUserDeleted userId => some (.processUserDeleted userId)
  | .onResult code => if code = ResultCode.SUCCESS then some (.onResult code) else none
  | .onCredentialInfos code infos => if code = ResultCode.SUCCESS then some (.onCredentialInfos code infos) else none
  | _ => none

def IdmWork.trail : IdmWork → Option IdmEffect
  | .notifyExecutorToDeleteTemplates info _ => some (.notified info none none)
  | .emit effect => effect.trail
  | _ => none

-- The caller hears of success.
def IdmEffect.success : IdmEffect → Bool
  | .onResult code | .onCredentialInfos code _ | .returned code _ => code == ResultCode.SUCCESS
  | _ => false

namespace UserIdmService
open IdmWork

-- What executors are told of, and what they have to be told of.
def toldOf : IdmEffect → List CredentialInfoImpl
  | .notified info _ _ => [info]
  | _ => []

def owedOf : IdmEffect → List CredentialInfoImpl
  | .engineDeleted _ infos rootSecret => if rootSecret.length > Attributes.MAX_ATTR_LENGTH then [] else infos
  | _ => []

def told (effects : List IdmEffect) : List CredentialInfoImpl := effects.flatMap toldOf
def owed (effects : List IdmEffect) : List CredentialInfoImpl := effects.flatMap owedOf

-- Of one user, the credentials that have to go and those that listeners hear of.
def deletedOf (user : Int32) : IdmEffect → List CredentialInfoImpl
  | .engineDeleted userId infos rootSecret =>
    if userId = user then owedOf (.engineDeleted userId infos rootSecret) else []
  | _ => []

def changedOf (user : Int32) : IdmEffect → List UInt64
  | .onNotifyCredChangeEvent userId _ _ changeInfo => if userId = user then [changeInfo.lastCredentialId] else []
  | _ => []

def deleted (user : Int32) (effects : List IdmEffect) : List CredentialInfoImpl := effects.flatMap (deletedOf user)
def changed (user : Int32) (effects : List IdmEffect) : List UInt64 := effects.flatMap (changedOf user)

section Trail
variable {effects more : List IdmEffect}

theorem told_append (effects more : List IdmEffect) : told (effects ++ more) = told effects ++ told more :=
  List.flatMap_append

theorem owed_append (effects more : List IdmEffect) : owed (effects ++ more) = owed effects ++ owed more :=
  List.flatMap_append

theorem deleted_append (user : Int32) (effects more : List IdmEffect) :
    deleted user (effects ++ more) = deleted user effects ++ deleted user more := List.flatMap_append

theorem changed_append (user : Int32) (effects more : List IdmEffect) :
    changed user (effects ++ more) = changed user effects ++ changed user more := List.flatMap_append

theorem deletedOf_nil (user : Int32) {effect : IdmEffect} (unowed : owedOf effect = []) : deletedOf user effect = [] := by
  cases effect with
  | engineDeleted userId infos rootSecret =>
    rw [deletedOf,unowed]
    exact ite_self []
  | _ => rfl

-- Each deletion is passed on in the end, and nothing is that was not deleted before.
structure Settled (effects : List IdmEffect) : Prop where
  all : told effects = owed effects
  ordered : ∀ part rest, effects = part ++ rest → told part <+: owed part

theorem Settled.append (one : Settled effects) (two : Settled more) : Settled (effects ++ more) where
  all := by rw [told_append,owed_append,one.all,two.all]
  ordered := by
    intro part rest split
    rcases List.append_eq_append_iff.mp split with ⟨beyond,rfl,later⟩ | ⟨left,inside,_⟩
    · rw [told_append,owed_append,one.all]
      exact (List.prefix_append_right_inj _).mpr (two.ordered beyond rest later)
    · exact one.ordered part left inside

theorem settled_other {effect : IdmEffect} (untold : toldOf effect = []) (unowed : owedOf effect = []) :
    Settled [effect] := by
  refine ⟨by simp [told,owed,untold,unowed],fun part rest split => ?_⟩
  cases part with
  | nil => exact List.prefix_refl _
  | cons first part =>
    obtain ⟨rfl,nothing⟩ := List.cons.inj split
    obtain ⟨rfl,rfl⟩ := List.append_eq_nil_iff.mp nothing.symm
    simp [told,owed,untold,unowed]

def noticesOf (infos : List CredentialInfoImpl) : List IdmEffect := infos.map fun info => .notified info none none

end Trail
def trailOf (work : List IdmWork) : List IdmEffect := work.filterMap IdmWork.trail

-- Of a user listeners hear of just those deletions that are to be announced.
structure Announced (user : Int32) (effects : List IdmEffect) : Prop where
  all : changed user effects = ((deleted user effects).filter announced).map (·.credentialId)
  pin : .processUserDeleted user ∈ effects ↔
    ∃ info ∈ deleted user effects, announced info = true ∧ info.authType = AuthType.PIN

-- Of a call as a whole: who deletes users has it announced for each, and but for what it
-- says early nobody hears of success before the executors are told.
structure Trailed (deletesUser : Bool) (early : IdmEffect → Bool) (effects : List IdmEffect) : Prop where
  settled : Settled effects
  announced : deletesUser = true → ∀ user, Announced user effects
  answers : ∀ effect, effect.success = true → early effect = false → ∀ part rest, effects = part ++ rest →
    effect ∈ part → told part = owed part

section Work
variable {work more : List IdmWork} {effects later : List IdmEffect}

theorem trailOf_append (work more : List IdmWork) : trailOf (work ++ more) = trailOf work ++ trailOf more :=
  List.filterMap_append

theorem Announced.append {user : Int32} (one : Announced user effects) (two : Announced user later) :
    Announced user (effects ++ later) where
  all := by rw [changed_append,deleted_append,one.all,two.all,List.filter_append,List.map_append]
  pin := by simp only [List.mem_append,deleted_append,or_and_right,exists_or,one.pin,two.pin]

-- What neither deletes nor announces.
theorem announced_other {user : Int32} (silent : ∀ effect ∈ effects, changedOf user effect = [] ∧
    deletedOf user effect = [] ∧ effect ≠ .processUserDeleted user) : Announced user effects := by
  have unchanged : changed user effects = [] := List.flatMap_eq_nil_iff.mpr fun effect member => (silent effect member).1
  have undeleted : deleted user effects = [] :=
    List.flatMap_eq_nil_iff.mpr fun effect member => (silent effect member).2.1
  refine ⟨by rw [unchanged,undeleted]; rfl,?_⟩
  rw [undeleted]
  exact iff_of_false (fun member => (silent _ member).2.2 rfl) (by simp)

-- What PostProcessForDelete says after the executors are told.
def announcements (userId : Int32) (credInfos : List CredentialInfoImpl) (eventType : UserDeletion) (caller : IdmCaller) :
    List IdmEffect :=
  [.publishDeletedEvent userId] ++ (credInfos.filter announced).map (fun cred => .onNotifyCredChangeEvent userId
    cred.authType eventType ⟨caller.callerName,caller.callerType,0,cred.credentialId,false⟩) ++
    if (credInfos.filter announced).any (·.authType = AuthType.PIN) then [.processUserDeleted userId] else []

section Deletion
variable (userId : Int32) (credInfos : List CredentialInfoImpl) (rootSecret : Bytes) (eventType : UserDeletion)
  (caller : IdmCaller)

-- All that a user's deletion does.
def deletion : List IdmEffect :=
  (.engineDeleted userId credInfos rootSecret :: noticesOf credInfos) ++ announcements userId credInfos eventType caller

variable (fits : ¬rootSecret.length > Attributes.MAX_ATTR_LENGTH)
include fits

end Deletion

-- Work whose deletions are all passed on and announced, with no answer yet.
structure Thorough (effects : List IdmEffect) : Prop where
  settled : Settled effects
  announced : ∀ user, Announced user effects
  unanswered : ∀ effect ∈ effects, effect.success = false

theorem Thorough.append (one : Thorough effects) (two : Thorough later) : Thorough (effects ++ later) :=
  ⟨one.settled.append two.settled,fun user => (one.announced user).append (two.announced user),fun effect member =>
    (List.mem_append.mp member).elim (one.unanswered effect) (two.unanswered effect)⟩

-- An answer that comes last.
theorem answered_last (settled : Settled effects) (unanswered : ∀ effect ∈ effects, effect.success = false)
    (split : effects ++ [.onResult ResultCode.SUCCESS] = part ++ rest) (member : effect ∈ part)
    (success : effect.success = true) : told part = owed part := by
  have answer : Settled [.onResult ResultCode.SUCCESS] := settled_other rfl rfl
  rcases List.append_eq_append_iff.mp split with ⟨beyond,same,tail⟩ | ⟨left,inside,_⟩
  · cases beyond with
    | nil =>
      rw [same,List.append_nil] at member
      exact absurd success (Bool.eq_false_iff.mp (unanswered effect member))
    | cons head beyond =>
      obtain ⟨rfl,nothing⟩ := List.cons.inj tail
      obtain ⟨rfl,rfl⟩ := List.append_eq_nil_iff.mp nothing.symm
      rw [same]
      exact (settled.append answer).all
  · exact absurd success (Bool.eq_false_iff.mp (unanswered effect (inside ▸ List.mem_append_left left member)))

-- Where all that is said of success is said early.
theorem trailed_early {early : IdmEffect → Bool} (settled : Settled effects)
    (announced : deletesUser = true → ∀ user, Announced user effects)
    (first : ∀ effect ∈ effects, effect.success = true → early effect = true) : Trailed deletesUser early effects := by
  refine ⟨settled,announced,fun effect success late part rest split member => ?_⟩
  have said := first effect (split ▸ List.mem_append_left rest member) success
  exact absurd said (Bool.eq_false_iff.mp late)

theorem Thorough.answered (thorough : Thorough effects) (code : ResultCode) (deletesUser : Bool)
    (early : IdmEffect → Bool) : Trailed deletesUser early (effects ++ trailOf [emit (.onResult code)]) := by
  by_cases success : code = ResultCode.SUCCESS
  · have last : trailOf [emit (.onResult code)] = [.onResult ResultCode.SUCCESS] := by
      simp [trailOf,IdmWork.trail,IdmEffect.trail,success]
    rw [last]
    exact ⟨thorough.settled.append (settled_other rfl rfl),
      fun _ user => (thorough.announced user).append (announced_other (by simp [changedOf,deletedOf])),
      fun effect success _ part rest split member =>
        answered_last thorough.settled thorough.unanswered split member success⟩
  · have none : trailOf [emit (.onResult code)] = [] := by simp [trailOf,IdmWork.trail,IdmEffect.trail,success]
    rw [none,List.append_nil]
    refine trailed_early thorough.settled (fun _ => thorough.announced) fun effect member said => ?_
    exact absurd said (Bool.eq_false_iff.mp (thorough.unanswered effect member))

-- One more effect that has nothing to do with the deletions.
theorem Settled.insert (first last : List IdmEffect) (settled : Settled (first ++ last)) (untold : toldOf effect = [])
    (unowed : owedOf effect = []) : Settled (first ++ effect :: last) := by
  have tolds (first last : List IdmEffect) : told (first ++ effect :: last) = told (first ++ last) := by
    simp [told,untold]
  have oweds (first last : List IdmEffect) : owed (first ++ effect :: last) = owed (first ++ last) := by
    simp [owed,unowed]
  refine ⟨by rw [tolds,oweds,settled.all],fun part rest split => ?_⟩
  rcases List.append_eq_append_iff.mp split with ⟨beyond,same,tail⟩ | ⟨left,inside,_⟩
  · cases beyond with
    | nil =>
      rw [same,List.append_nil]
      exact settled.ordered first last rfl
    | cons head beyond =>
      obtain ⟨rfl,further⟩ := List.cons.inj tail
      rw [same,tolds,oweds]
      refine settled.ordered (first ++ beyond) rest ?_
      rw [List.append_assoc]
      exact congrArg (first ++ ·) further
  · exact settled.ordered part (left ++ last) (by rw [inside,List.append_assoc])

theorem Announced.insert {user : Int32} (first last : List IdmEffect) (announced : Announced user (first ++ last))
    (unchanged : changedOf user effect = []) (unowed : owedOf effect = []) (other : effect ≠ .processUserDeleted user) :
    Announced user (first ++ effect :: last) := by
  have deletions : deleted user (first ++ effect :: last) = deleted user (first ++ last) := by
    simp [deleted,deletedOf_nil user unowed]
  have changes : changed user (first ++ effect :: last) = changed user (first ++ last) := by simp [changed,unchanged]
  have gone : .processUserDeleted user ∈ first ++ effect :: last ↔ .processUserDeleted user ∈ first ++ last := by
    simp [Ne.symm other]
  exact ⟨by rw [changes,deletions,announced.all],by rw [gone,deletions,announced.pin]⟩

end Work

end UserIdmService

-- Whether a request is to delete all that is left of users, and what it says of success
-- before that is done.
def IdmRequest.deletesUser : IdmRequest → Bool
  | .delUser _ _ | .enforceDelUser _ _ _ | .clearRedundancy _ _ => true
  | _ => false

def IdmRequest.early : IdmRequest → IdmEffect → Bool
  | .delUser _ _,.onResult _ => true
  | .getCredentialInfo false _ _ _,.onCredentialInfos _ _ => true
  | _,_ => false

namespace UserIdmService
open IdmWork

end UserIdmService

def IdmRequest.permission : IdmRequest → IdmPermission
  | .getCredentialInfo _ _ _ _ => .USE_USER_IDM_PERMISSION
  | .deleteSubProfile _ _ | .enforceDelUser _ _ _ => .ENFORCE_USER_IDM
  | .clearRedundancy _ _ => .CLEAR_REDUNDANCY_PERMISSION
  | _ => .MANAGE_USER_IDM_PERMISSION

-- What is done for a caller who lacks the permission. UpdateCredential looks for the
-- credentials before it asks.
def IdmRequest.refusal : IdmRequest → List IdmEffect
  | .openSession _ | .closeSession _ | .cancel => [.returned ResultCode.CHECK_PERMISSION_FAILED []]
  | .getCredentialInfo sync _ _ _ =>
    (if sync then [] else [.onCredentialInfos ResultCode.CHECK_PERMISSION_FAILED []]) ++
      [.returned ResultCode.CHECK_PERMISSION_FAILED []]
  | .updateCredential _ (.refused _ _) _ => [.onResult ResultCode.GENERAL_ERROR,.returned ResultCode.GENERAL_ERROR []]
  | .updateCredential _ (.answered []) _ => [.onResult ResultCode.NOT_ENROLLED,.returned ResultCode.SUCCESS []]
  | _ => [.onResult ResultCode.CHECK_PERMISSION_FAILED,.returned ResultCode.CHECK_PERMISSION_FAILED []]

-- The driver of an executor that is there and connected is told to delete the template.
def IdmEffect.Right : IdmEffect → Prop
  | .notified info resourceNode call =>
    match resourceNode with
    | none => call = none
    | some (node,connected) => node.executorIndex = info.executorIndex ∧
      call = if connected then some (.delete [info.templateId]) else none
  | _ => True

-- Work that may give the call's return value.
def IdmWork.returns : IdmWork → Bool
  | .cancelOwnEnroll _ | .cancelOwn _ _ _ | .closeSession _ _ | .schedule _ _ => true
  | .emit (.returned _ _) => true
  | _ => false

def IdmEffect.plain : IdmEffect → Bool
  | .notified _ _ _ => false
  | _ => true

-- A reason that fits, and nothing said in an executor's place.
def IdmWork.short : IdmWork → Bool
  | .notifyExecutorToDeleteTemplates _ changeReasonTrace => changeReasonTrace.length < Attributes.MAX_ATTR_LENGTH
  | .emit effect => effect.plain
  | _ => true

def IdmWork.spare (item : IdmWork) : Bool := item.short && !item.returns

namespace UserIdmService
open IdmWork

def effectOf (call : Nat) : IdmEvent → Option IdmEffect
  | .effect other effect => if other = call then some effect else none
  | _ => none

def effectsOf (call : Nat) (h : List IdmEvent) : List IdmEffect := h.filterMap (effectOf call)

section Plans

-- Work in which the call does not return.
def Spare (work : List IdmWork) : Prop := ∀ item ∈ work, item.spare = true

-- Reasons fit, and nothing is left for executors and listeners after the return value.
structure Planned (work : List IdmWork) : Prop where
  brief : ∀ item ∈ work, item.short = true
  closing : work.Pairwise fun item later => item.returns = true → later.trail = none

theorem Spare.append (one : Spare work) (two : Spare more) : Spare (work ++ more) :=
  fun item member => (List.mem_append.mp member).elim (one item) (two item)

theorem planned_last (last : ∀ item ∈ work, item.short = true ∧ item.trail = none) : Planned work where
  brief := fun item member => (last item member).1
  closing := List.pairwise_iff_forall_sublist.mpr fun sub _ =>
    (last _ (sub.subset (List.mem_cons_of_mem _ List.mem_cons_self))).2

theorem Planned.after (planned : Planned more) (spare : Spare work) : Planned (work ++ more) := by
  have split : ∀ item ∈ work, item.short = true ∧ item.returns = false := by
    intro item member
    have here := spare item member
    rwa [IdmWork.spare,Bool.and_eq_true,Bool.not_eq_true'] at here
  refine ⟨?_,List.pairwise_append.mpr ⟨?_,planned.closing,?_⟩⟩
  · exact fun item member => (List.mem_append.mp member).elim (fun first => (split item first).1) (planned.brief item)
  · exact List.pairwise_iff_forall_sublist.mpr fun sub returns =>
      absurd returns (Bool.eq_false_iff.mp (split _ (sub.subset List.mem_cons_self)).2)
  · exact fun item member _ _ returns => absurd returns (Bool.eq_false_iff.mp (split item member).2)

theorem spare_notify (infos : List CredentialInfoImpl) (changeReasonTrace : String)
    (short : (changeReasonTrace.toUTF8.data.toList ++ [0]).length < Attributes.MAX_ATTR_LENGTH) :
    Spare (notifyExecutorToDeleteTemplates infos changeReasonTrace) := by
  intro item member
  obtain ⟨info,_,rfl⟩ := List.mem_map.mp member
  exact Bool.and_eq_true_iff.mpr ⟨decide_eq_true short,rfl⟩

theorem spare_post (userId : Int32) (credInfos : List CredentialInfoImpl) (changeReasonTrace : String)
    (eventType : UserDeletion) (caller : IdmCaller)
    (short : (changeReasonTrace.toUTF8.data.toList ++ [0]).length < Attributes.MAX_ATTR_LENGTH) :
    Spare (postProcessForDelete userId credInfos changeReasonTrace eventType caller) := by
  unfold postProcessForDelete
  refine (((spare_notify _ _ short).append ?_).append ?_).append ?_
  · simp [Spare,IdmWork.spare,IdmWork.short,IdmWork.returns,IdmEffect.plain]
  · intro item member
    obtain ⟨info,_,rfl⟩ := List.mem_map.mp member
    rfl
  · split <;> simp [Spare,IdmWork.spare,IdmWork.short,IdmWork.returns,IdmEffect.plain]

theorem spare_nil : Spare [] := fun _ member => absurd member List.not_mem_nil

theorem spare_one {item : IdmWork} (spare : item.spare = true) : Spare [item] := by simpa [Spare] using spare

theorem spare_inner (userId : Int32) (answer : EngineReply (List CredentialInfoImpl)) (changeReasonTrace : String)
    (caller : IdmCaller) (short : (changeReasonTrace.toUTF8.data.toList ++ [0]).length < Attributes.MAX_ATTR_LENGTH) :
    Spare (enforceDelUserInner userId answer changeReasonTrace caller).1 := by
  cases answer with
  | refused code failed => exact spare_nil
  | answered credInfos => exact (spare_one rfl).append (spare_post _ _ _ _ _ short)

theorem spare_redundancy (accountInfo : Option (List Int32))
    (userInfos : EngineReply (List (Int32 × EngineReply (List CredentialInfoImpl)))) (caller : IdmCaller) :
    Spare (clearRedundancyCredentialInner accountInfo userInfos caller).1 := by
  cases accountInfo with
  | none => exact spare_nil
  | some accountInfo =>
    cases userInfos with
    | refused code failed => exact spare_nil
    | answered userInfos =>
      intro item member
      obtain ⟨user,_,here⟩ := List.mem_flatMap.mp member
      exact spare_inner _ _ "DeleteRedundancy" _ (by decide) item here

theorem spare_clear (userId : Int32) (answer : EngineReply (List CredentialInfoImpl)) :
    Spare (clearUnavailableCredential userId answer) := by
  cases answer with
  | refused code failed => exact spare_nil
  | answered credInfos => exact (spare_one rfl).append (spare_notify _ "ClearExpiredTemplate" (by decide))

theorem planned_underLock (spare : Spare work) (code : ResultCode) : Planned (underLock work code) :=
  (planned_last (by simp [IdmWork.short,IdmEffect.plain,IdmWork.trail,IdmEffect.trail])).after
    ((spare_one rfl).append spare)

theorem planned_returned (code : ResultCode) (infos : List CredentialInfoImpl) :
    Planned [emit (.returned code infos)] :=
  planned_last (by simp [IdmWork.short,IdmEffect.plain,IdmWork.trail,IdmEffect.trail])

theorem planned_answer (code : ResultCode) : Planned (answer code) := (planned_returned code []).after (spare_one rfl)

theorem planned_add (userId : Int32) (made : Option (UInt64 × Nat)) (caller : IdmCaller) :
    Planned (addCredential userId made caller) := by
  unfold addCredential
  split
  · exact planned_answer _
  · exact planned_last (by simp [IdmWork.short,IdmWork.trail])

theorem workOf_planned (caller : IdmCaller) (request : IdmRequest) : Planned (workOf caller request) := by
  cases request with
  | openSession reply =>
    simp only [workOf]
    split
    · exact planned_returned _ _
    cases reply with
    | refused code failed => exact planned_underLock (spare_one rfl) _
    | answered _ => exact planned_underLock (by simp [Spare,IdmWork.spare,IdmWork.short,IdmWork.returns]) _
  | closeSession reply =>
    simp only [workOf]
    split
    · exact planned_returned _ _
    · exact planned_last (by simp [IdmWork.short,IdmWork.trail])
  | getCredentialInfo sync userId reply cleared =>
    have clear : ∀ wanted : Bool, Spare (if wanted then clearUnavailableCredential userId cleared else []) := by
      intro wanted
      cases wanted with
      | true => exact spare_clear userId cleared
      | false => exact spare_nil
    simp only [workOf]
    split
    · exact (planned_returned _ _).after (clear _)
    · exact (planned_returned _ _).after ((spare_one rfl).append (clear _))
  | addCredential userId made => exact planned_add userId made caller
  | updateCredential userId credInfos made =>
    simp only [workOf]
    cases credInfos with
    | refused code failed => exact planned_answer _
    | answered credInfos =>
      dsimp only
      split
      · exact (planned_returned _ _).after (spare_one rfl)
      · exact planned_add userId made caller
  | cancel =>
    simp only [workOf]
    split
    · exact planned_returned _ _
    · exact planned_last (by simp [IdmWork.short,IdmWork.trail])
  | deleteSubProfile userId reply =>
    simp only [workOf]
    split
    · exact planned_answer _
    cases reply with
    | refused code failed => exact planned_answer _
    | answered hdiInfos =>
      exact (planned_answer _).after ((spare_one rfl).append (spare_notify _ "DeleteSubProfile" (by decide)))
  | enforceDelUser userId enrolledInfo reply =>
    simp only [workOf]
    split
    · exact planned_answer _
    refine planned_underLock (((spare_one rfl).append ?_).append (spare_one rfl)) _
    cases enrolledInfo with
    | refused code failed => exact spare_nil
    | answered enrolledInfo =>
      cases enrolledInfo with
      | nil => exact spare_nil
      | cons first enrolledInfo => exact spare_inner _ _ "EnforceDeleteUser" _ (by decide)
  | delUser userId reply =>
    simp only [workOf]
    split
    · exact planned_answer _
    cases reply with
    | refused code failed => exact planned_underLock ((spare_one rfl).append (spare_one rfl)) _
    | answered given =>
      refine planned_underLock (Spare.append ?_ ?_) _
      · simp [Spare,IdmWork.spare,IdmWork.short,IdmWork.returns,IdmEffect.plain]
      · split
        · exact spare_nil
        · exact spare_post _ _ "DeleteUser" _ _ (by decide)
  | delCredential userId made =>
    simp only [workOf]
    split
    · exact planned_answer _
    · exact planned_last (by simp [IdmWork.short,IdmWork.trail])
  | clearRedundancy accountInfo userInfos =>
    simp only [workOf]
    split
    · exact planned_answer _
    · exact planned_underLock (((spare_one rfl).append (spare_redundancy _ _ _)).append (spare_one rfl)) _

-- Whoever may not ask is told so, and nothing else is done.
theorem workOf_refused (caller : IdmCaller) (request : IdmRequest)
    (denied : caller.checkPermission request.permission = false) : workOf caller request = request.refusal.map emit := by
  cases request with
  | getCredentialInfo sync userId reply cleared =>
    have found : getCredentialInfoInner reply caller = (ResultCode.CHECK_PERMISSION_FAILED,[]) := by
      simp only [IdmRequest.permission] at denied
      simp [getCredentialInfoInner,denied]
    cases sync <;> simp [workOf,found,IdmRequest.refusal] <;> rfl
  | updateCredential userId credInfos made =>
    simp only [IdmRequest.permission] at denied
    cases credInfos with
    | refused code other => rfl
    | answered credInfos =>
      cases credInfos with
      | nil => rfl
      | cons first credInfos => simp [workOf,addCredential,denied,answer,IdmRequest.refusal]
  | _ =>
    simp only [IdmRequest.permission] at denied
    simp [workOf,addCredential,denied,answer,IdmRequest.refusal]

end Plans
end UserIdmService
end UserAuth
