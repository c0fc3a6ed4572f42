import Mathlib.Data.List.Nodup
import UserAuth.Lib.Tabulation
import UserAuth.Widget.AuthWidget

namespace UserAuth.AuthWidget
open Std ContextFactory AuthWidgetHelper Tabulation

-- The engine finds that the PIN has expired, instead of any valid types.
def PinExpired (env : AuthWidgetEnv) (authParam : AuthWidgetRequest) (userId : Int32) : Prop :=
  (AuthWidgetHelper.checkValidSolution env.sources userId (getAuthTypesFromCredentialIds env authParam)
    authParam.authTrustLevel).code = ResultCode.PIN_EXPIRED

-- What the widget context starts with.
structure WidgetTypes (env : AuthWidgetEnv) (authParam : AuthWidgetRequest) (validType : List AuthType)
    (para : AuthWidgetContextPara) : Prop where
  keys : ∀ type, type ∈ para.authProfileMap ↔ type ∈ validType
  nonempty : validType ≠ []
  asked : ∀ type ∈ validType, type ∈ getAuthTypesFromCredentialIds env authParam ∨
    PinExpired env authParam para.userId ∧ type = expiredPin authParam
  unverified : env.isOsAccountVerified para.userId = false → ∀ type ∈ validType,
    type = AuthType.PIN ∨ type = AuthType.PRIVATE_PIN ∨ type = AuthType.ENTERPRISE_ACCOUNT
  unlocked : authParam.skipLockedBiometricAuth = true → ∀ type profile, para.authProfileMap[type]? = some profile →
    type ≠ AuthType.PIN → type ≠ AuthType.PRIVATE_PIN → profile.remainTimes ≠ 0

def profileOf (env : AuthWidgetEnv) (authParam : AuthWidgetRequest) (userId : Int32) (type : AuthType) : AuthProfile :=
  (getUserAuthProfile env.sources userId type authParam.credentialIdList).2

-- A type that the request may be served with.
structure Allowed (env : AuthWidgetEnv) (authParam : AuthWidgetRequest) (userId : Int32) (type : AuthType) : Prop where
  asked : type ∈ getAuthTypesFromCredentialIds env authParam ∨
    PinExpired env authParam userId ∧ type = expiredPin authParam
  unverified : env.isOsAccountVerified userId = false →
    type = AuthType.PIN ∨ type = AuthType.PRIVATE_PIN ∨ type = AuthType.ENTERPRISE_ACCOUNT
  unlocked : authParam.skipLockedBiometricAuth = true → type ≠ AuthType.PIN → type ≠ AuthType.PRIVATE_PIN →
    (profileOf env authParam userId type).remainTimes ≠ 0

-- The valid types and the profiles, in whatever order they are edited.
structure Filtered (env : AuthWidgetEnv) (authParam : AuthWidgetRequest) (validType : List AuthType)
    (para : AuthWidgetContextPara) : Prop where
  distinct : validType.Nodup
  nonempty : validType ≠ []
  profiles : Tabulates para.authProfileMap validType (profileOf env authParam para.userId)
  allowed : ∀ type ∈ validType, Allowed env authParam para.userId type

section Stages
variable {env : AuthWidgetEnv} {authParam : AuthWidgetRequest} {widgetParam : WidgetParamInner} {userId : Int32}
  {para : AuthWidgetContextPara} {validType : List AuthType}

theorem Filtered.types (filtered : Filtered env authParam validType para) : WidgetTypes env authParam validType para := by
  refine ⟨fun type => filtered.profiles.mem_iff,filtered.nonempty,fun type member => (filtered.allowed type member).asked,
    fun unverified type member => (filtered.allowed type member).unverified unverified,
    fun skip type profile found pin privatePin => ?_⟩
  obtain ⟨member,rfl⟩ := filtered.profiles.row_eq found
  exact (filtered.allowed type member).unlocked skip pin privatePin

theorem profiles_bare (env : AuthWidgetEnv) (authParam : AuthWidgetRequest) (bare : para.authProfileMap = ∅) :
    Tabulates para.authProfileMap [] (profileOf env authParam para.userId) := by
  rw [bare]
  exact tabulates_empty _

theorem expiredPin_cases (authParam : AuthWidgetRequest) :
    expiredPin authParam = AuthType.PIN ∨ expiredPin authParam = AuthType.PRIVATE_PIN := by
  unfold expiredPin
  split
  · exact .inr rfl
  · exact .inl rfl

theorem allowed_expired (expired : PinExpired env authParam userId) :
    Allowed env authParam userId (expiredPin authParam) := by
  refine ⟨.inr ⟨expired,rfl⟩,fun _ => ?_,fun _ pin privatePin => ?_⟩
  · rcases expiredPin_cases authParam with pin | privatePin
    · exact .inl pin
    · exact .inr (.inl privatePin)
  · rcases expiredPin_cases authParam with same | same
    · exact absurd same pin
    · exact absurd same privatePin

def LockedOut (env : AuthWidgetEnv) (authParam : AuthWidgetRequest) (userId : Int32) (type : AuthType) : Prop :=
  authParam.skipLockedBiometricAuth = true ∧ (profileOf env authParam userId type).remainTimes = 0 ∧
    type ≠ AuthType.PIN ∧ type ≠ AuthType.PRIVATE_PIN

-- At each type the map has a profile for those before it that stay.
theorem skipLocked_stay (stay rest : List AuthType) (authProfileMap : AuthProfileMap) (distinct : (stay ++ rest).Nodup)
    (profiles : Tabulates authProfileMap stay (profileOf env authParam userId)) :
    (skipLocked env userId authParam stay rest authProfileMap).1.Nodup ∧
      Tabulates (skipLocked env userId authParam stay rest authProfileMap).2
        (skipLocked env userId authParam stay rest authProfileMap).1 (profileOf env authParam userId) ∧
      ∀ type ∈ (skipLocked env userId authParam stay rest authProfileMap).1,
        type ∈ stay ∨ type ∈ rest ∧ ¬LockedOut env authParam userId type := by
  induction rest generalizing stay authProfileMap with
  | nil =>
    rw [List.append_nil] at distinct
    exact ⟨distinct,profiles,fun _ member => .inl member⟩
  | cons type rest ih =>
    have fresh : type ∉ stay := fun member =>
      List.disjoint_of_nodup_append distinct member List.mem_cons_self
    have without : (stay ++ rest).Nodup := distinct.sublist ((List.sublist_cons_self type rest).append_left stay)
    have later : ∀ other, other ∈ stay ∨ other ∈ rest ∧ ¬LockedOut env authParam userId other →
        other ∈ stay ∨ other ∈ type :: rest ∧ ¬LockedOut env authParam userId other :=
      fun other => Or.imp_right fun found => ⟨List.mem_cons_of_mem type found.1,found.2⟩
    rw [skipLocked]
    dsimp only
    split
    · obtain ⟨apart,tabulates,members⟩ := ih stay authProfileMap without profiles
      exact ⟨apart,tabulates,fun other member => later other (members other member)⟩
    · split
      · obtain ⟨apart,tabulates,members⟩ := ih stay _ without (profiles.pass _ fresh)
        exact ⟨apart,tabulates,fun other member => later other (members other member)⟩
      · rename_i unlocked
        have moved : (stay ++ [type] ++ rest).Nodup := by rwa [List.append_assoc]
        obtain ⟨apart,tabulates,members⟩ := ih (stay ++ [type]) _ moved (profiles.insert type)
        refine ⟨apart,tabulates,fun other member => ?_⟩
        rcases members other member with stays | left
        · rcases List.mem_append.mp stays with before | last
          · exact .inl before
          · cases List.mem_singleton.mp last
            exact .inr ⟨List.mem_cons_self,unlocked⟩
        · exact later other (.inr left)

theorem checkSkipLockedBiometricAuth_filtered (bare : para.authProfileMap = ∅) (distinct : validType.Nodup)
    (asked : ∀ type ∈ validType, type ∈ getAuthTypesFromCredentialIds env authParam)
    (unverified : env.isOsAccountVerified para.userId = false → ∀ type ∈ validType,
      type = AuthType.PIN ∨ type = AuthType.PRIVATE_PIN ∨ type = AuthType.ENTERPRISE_ACCOUNT)
    (succeeded : (checkSkipLockedBiometricAuth env para authParam widgetParam validType).1 = ResultCode.SUCCESS) :
    Filtered env authParam (checkSkipLockedBiometricAuth env para authParam widgetParam validType).2.1
      (checkSkipLockedBiometricAuth env para authParam widgetParam validType).2.2 := by
  have start := profiles_bare env authParam bare
  obtain ⟨apart,tabulates,members⟩ := skipLocked_stay [] validType para.authProfileMap distinct start
  unfold checkSkipLockedBiometricAuth at succeeded ⊢
  split at succeeded
  · cases succeeded
  · rename_i present
    rw [if_neg present]
    dsimp only at succeeded ⊢
    split at succeeded
    · cases succeeded
    · split at succeeded
      · cases succeeded
      · rename_i left
        rw [if_neg ‹_›,if_neg left]
        refine ⟨apart,fun empty => left (List.isEmpty_iff.mpr empty),tabulates,fun type member => ?_⟩
        obtain ⟨valid,unlocked⟩ := (members type member).resolve_left List.not_mem_nil
        exact ⟨.inl (asked type valid),fun now => unverified now type valid,
          fun skip pin privatePin locked => unlocked ⟨skip,locked,pin,privatePin⟩⟩

theorem checkSkipLockedBiometricAuth_unexpired (env : AuthWidgetEnv) (para : AuthWidgetContextPara)
    (authParam : AuthWidgetRequest) (widgetParam : WidgetParamInner) (validType : List AuthType) :
    (checkSkipLockedBiometricAuth env para authParam widgetParam validType).1 ≠ ResultCode.PIN_EXPIRED := by
  unfold checkSkipLockedBiometricAuth
  split
  · nofun
  · dsimp only
    split
    · nofun
    · split
      · nofun
      · nofun

-- The engine's answer has no type twice and only types it was asked for.
def SoundAnswer (env : AuthWidgetEnv) (authParam : AuthWidgetRequest) (userId : Int32) : Prop :=
  ∀ answer, env.sources.getValidSolution userId (getAuthTypesFromCredentialIds env authParam) authParam.authTrustLevel =
    .answered answer → answer.Nodup ∧ ∀ type ∈ answer, type ∈ getAuthTypesFromCredentialIds env authParam

theorem checkValidSolution_done (env : AuthWidgetEnv) (authParam : AuthWidgetRequest) (widgetParam : WidgetParamInner)
    (para : AuthWidgetContextPara) (bare : para.authProfileMap = ∅) (sound : SoundAnswer env authParam para.userId) :
    let checked := checkValidSolution env para authParam widgetParam
    (checked.1 = ResultCode.SUCCESS → Filtered env authParam checked.2.1 checked.2.2) ∧
      (checked.1 = ResultCode.PIN_EXPIRED → PinExpired env authParam para.userId ∧ checked.2 = ([],para)) := by
  dsimp only
  unfold checkValidSolution
  dsimp only
  cases answered : AuthWidgetHelper.checkValidSolution env.sources para.userId (getAuthTypesFromCredentialIds env authParam)
      authParam.authTrustLevel with
  | refused code failed =>
    refine ⟨fun succeeded => absurd succeeded failed,fun expired => ⟨?_,rfl⟩⟩
    rw [PinExpired,answered]
    exact expired
  | answered validType =>
    obtain ⟨distinct,asked⟩ := sound validType answered
    dsimp only
    split
    · exact ⟨nofun,nofun⟩
    · split
      · exact ⟨nofun,nofun⟩
      · split
        · exact ⟨nofun,nofun⟩
        · refine ⟨fun succeeded => ?_,fun expired =>
            absurd expired (checkSkipLockedBiometricAuth_unexpired _ _ _ _ _)⟩
          refine checkSkipLockedBiometricAuth_filtered bare ?_ ?_ ?_ succeeded
          · split
            · exact distinct
            · exact distinct.filter _
          · intro type member
            split at member
            · exact asked type member
            · exact asked type (List.mem_of_mem_filter member)
          · intro unverified type member
            rw [unverified] at member
            exact of_decide_eq_true (List.mem_filter.mp member).2

-- Where the PIN has expired, the PIN is the one type.
theorem processPinExpired_filtered (bare : para.authProfileMap = ∅) (expired : PinExpired env authParam para.userId)
    (succeeded : (processPinExpired env ResultCode.PIN_EXPIRED authParam [] para).1 = ResultCode.SUCCESS) :
    Filtered env authParam (processPinExpired env ResultCode.PIN_EXPIRED authParam [] para).2.1
      (processPinExpired env ResultCode.PIN_EXPIRED authParam [] para).2.2 := by
  have start := profiles_bare env authParam bare
  have absent : expiredPin authParam ∉ para.authProfileMap := fun member => nomatch start.mem_iff.mp member
  have single : (if authParam.authTypes.contains AuthType.PRIVATE_PIN then [expiredPin authParam]
      else [] ++ [expiredPin authParam]) = [expiredPin authParam] := ite_self _
  unfold processPinExpired at succeeded ⊢
  rw [if_neg (not_not.mpr rfl)] at succeeded ⊢
  dsimp only at succeeded ⊢
  rw [if_neg absent] at succeeded ⊢
  split at succeeded
  · cases succeeded
  · rename_i queried
    rw [if_neg queried]
    dsimp only
    rw [single]
    refine ⟨List.nodup_singleton _,nofun,start.insert _,fun type member => ?_⟩
    cases List.mem_singleton.mp member
    exact allowed_expired expired

-- The face is not the only type where it is taken out.
theorem filterFaceNotAvailable_filtered (filtered : Filtered env authParam validType para) :
    Filtered env authParam (filterFaceNotAvailable para validType).1 (filterFaceNotAvailable para validType).2 := by
  unfold filterFaceNotAvailable
  split
  · exact filtered
  · rename_i several
    split
    · exact filtered
    · split
      · refine ⟨filtered.distinct.filter _,fun empty => several ?_,filtered.profiles.erase _,fun type member =>
          filtered.allowed type (List.mem_of_mem_filter member)⟩
        have only : ∀ type ∈ validType, type = AuthType.FACE := fun type member => by
          simpa using List.filter_eq_nil_iff.mp empty type member
        have same := List.eq_replicate_of_mem only
        have once := filtered.distinct
        rw [same,List.nodup_replicate] at once
        exact Nat.le_antisymm once (List.length_pos_iff.mpr filtered.nonempty)
      · exact filtered

theorem startWidgetContext_started (env : AuthWidgetEnv) (authParam : AuthWidgetRequest) (widgetParam : WidgetParamInner)
    (started : .startWidgetContext types now ∈ (startWidgetContext env authParam widgetParam validType para).2) :
    types = validType ∧ now = para := by
  unfold startWidgetContext at started
  dsimp only at started
  split at started
  · simpa using started
  · split at started
    · simpa using started
    · split at started
      · simpa using started
      · simpa using started

-- No stage changes the user.
theorem checkSkipLockedBiometricAuth_user (env : AuthWidgetEnv) (para : AuthWidgetContextPara)
    (authParam : AuthWidgetRequest) (widgetParam : WidgetParamInner) (validType : List AuthType) :
    (checkSkipLockedBiometricAuth env para authParam widgetParam validType).2.2.userId = para.userId := by
  unfold checkSkipLockedBiometricAuth
  split
  · rfl
  · dsimp only
    split
    · rfl
    · split
      · rfl
      · rfl

theorem checkValidSolution_user (env : AuthWidgetEnv) (para : AuthWidgetContextPara) (authParam : AuthWidgetRequest)
    (widgetParam : WidgetParamInner) : (checkValidSolution env para authParam widgetParam).2.2.userId = para.userId := by
  unfold checkValidSolution
  dsimp only
  split
  · rfl
  · split
    · rfl
    · split
      · rfl
      · split
        · rfl
        · exact checkSkipLockedBiometricAuth_user _ _ _ _ _

theorem processPinExpired_user (env : AuthWidgetEnv) (ret : ResultCode) (authParam : AuthWidgetRequest)
    (validType : List AuthType) (para : AuthWidgetContextPara) :
    (processPinExpired env ret authParam validType para).2.2.userId = para.userId := by
  unfold processPinExpired
  split
  · rfl
  · dsimp only
    split
    · rfl
    · split
      · rfl
      · rfl

theorem filterFaceNotAvailable_user (para : AuthWidgetContextPara) (validType : List AuthType) :
    (filterFaceNotAvailable para validType).2.userId = para.userId := by
  unfold filterFaceNotAvailable
  split
  · rfl
  · split
    · rfl
    · split
      · rfl
      · rfl

-- The context starts with what the two stages and the face filter leave.
theorem startAuthWidget_started (env : AuthWidgetEnv) (authParam : AuthWidgetRequest) (widgetParam : WidgetParamInner)
    (para : AuthWidgetContextPara)
    (started : .startWidgetContext types now ∈ (startAuthWidget env authParam widgetParam para).effects) :
    let checked := checkValidSolution env para authParam widgetParam
    let processed := processPinExpired env checked.1 authParam checked.2.1 checked.2.2
    (checked.1 = ResultCode.SUCCESS ∨ checked.1 = ResultCode.PIN_EXPIRED) ∧ processed.1 = ResultCode.SUCCESS ∧
      types = (filterFaceNotAvailable processed.2.2 processed.2.1).1 ∧
      now = (filterFaceNotAvailable processed.2.2 processed.2.1).2 := by
  unfold startAuthWidget at started
  dsimp only at started ⊢
  split at started
  · simp at started
  · rename_i checked
    split at started
    · simp at started
    · rename_i processed
      rw [apply_ite AuthWidgetReply.effects,ite_self] at started
      obtain ⟨rfl,rfl⟩ := startWidgetContext_started env authParam widgetParam started
      exact ⟨(not_and_or.mp checked).imp not_not.mp not_not.mp,not_not.mp processed,rfl,rfl⟩

theorem startAuthWidget_filtered (env : AuthWidgetEnv) (authParam : AuthWidgetRequest) (widgetParam : WidgetParamInner)
    (bare : para.authProfileMap = ∅) (sound : SoundAnswer env authParam now.userId)
    (started : .startWidgetContext types now ∈ (startAuthWidget env authParam widgetParam para).effects) :
    Filtered env authParam types now := by
  obtain ⟨checked,processed,rfl,rfl⟩ := startAuthWidget_started env authParam widgetParam para started
  rw [filterFaceNotAvailable_user,processPinExpired_user,checkValidSolution_user] at sound
  obtain ⟨succeeds,expires⟩ := checkValidSolution_done env authParam widgetParam para bare sound
  refine filterFaceNotAvailable_filtered ?_
  rcases checked with succeeded | expired
  · rw [processPinExpired,if_pos (by rw [succeeded]; decide)]
    exact succeeds succeeded
  · obtain ⟨pinExpired,none⟩ := expires expired
    rw [expired,none] at processed ⊢
    exact processPinExpired_filtered bare pinExpired processed

end Stages

-- Until StartAuthWidget no profile is read.
theorem getCallerInfo_bare (env : AuthWidgetEnv) (isUserIdSpecified : Bool) (userId : Int32) (para : AuthWidgetContextPara)
    (found : getCallerInfo env isUserIdSpecified userId para = some now) : now.authProfileMap = para.authProfileMap := by
  unfold getCallerInfo at found
  dsimp only at found
  split at found
  · cases found
    rfl
  · split at found
    · cases found
    · cases found
      rfl

theorem authWidget_starts (env : AuthWidgetEnv) (apiVersion : Int32) (authParam : AuthWidgetRequest)
    (widgetParam : WidgetParamInner)
    (started : .startWidgetContext validType para ∈ (authWidget env apiVersion authParam widgetParam).effects) :
    ∃ before : AuthWidgetContextPara, before.authProfileMap = ∅ ∧
      .startWidgetContext validType para ∈ (startAuthWidget env authParam widgetParam before).effects := by
  unfold authWidget at started
  split at started
  · simp at started
  · split at started
    · simp at started
    · split at started
      · simp at started
      · rename_i called found
        have bare := getCallerInfo_bare env _ _ _ found
        dsimp only at started
        split at started
        · simp at started
        · split at started
          · simp at started
          · refine ⟨_,?_,started⟩
            split
            · exact bare
            · exact bare

theorem widget_types_filtered (env : AuthWidgetEnv) (apiVersion : Int32) (authParam : AuthWidgetRequest)
    (widgetParam : WidgetParamInner) (validType : List AuthType) (para : AuthWidgetContextPara)
    (sound : SoundAnswer env authParam para.userId)
    (started : .startWidgetContext validType para ∈ (authWidget env apiVersion authParam widgetParam).effects) :
    WidgetTypes env authParam validType para := by
  obtain ⟨before,bare,started⟩ := authWidget_starts env apiVersion authParam widgetParam started
  exact (startAuthWidget_filtered env authParam widgetParam bare sound started).types

-- A request with the face locked and the finger not.
def fingerRequest : AuthWidgetRequest := {
  authTypes:=[AuthType.FACE,AuthType.FINGERPRINT,AuthType.PIN]
  authTrustLevel:=ATL1
  skipLockedBiometricAuth:=true}

def property (remainTimes : Int32) : Attributes :=
  Attributes.empty.setEach [Attributes.setInt32Value Attributes.ATTR_REMAIN_TIMES remainTimes,
    Attributes.setInt32Value Attributes.ATTR_FREEZING_TIME 0,Attributes.setUint32Value Attributes.ATTR_CAMERA_STATUS 0,
    Attributes.setStringValue Attributes.ATTR_SENSOR_INFO "",Attributes.setInt32Value Attributes.ATTR_PIN_SUB_TYPE 0]

def lockedNodes : ResourceNodePool (Attributes → EngineReply Attributes) :=
  ((∅ : ResourceNodePool _).insert 1 ⟨1,fun _ => .answered (property 5)⟩).insert 2 ⟨1,fun _ => .answered (property 0)⟩

def lockedFace : AuthWidgetEnv where
  getCallerName := ("unlock",TOKEN_HAP)
  checkForegroundApplication _ := true
  getCallingUserId := some 100
  checkPermission _ := true
  isOsAccountVerified _ := true
  sources := {
    getValidSolution := fun _ authTypes _ => .answered authTypes
    checkReuseUnlockResult := fun _ => .refused ResultCode.GENERAL_ERROR (by decide)
    getCredentialInfo := fun _ authType => .answered [{executorIndex:=if authType = AuthType.FACE then 2 else 1}]
    getCredentialInfoById := fun _ => .refused ResultCode.GENERAL_ERROR (by decide)
    nodes := lockedNodes}
  getRemoteAuthCallback _ := false
  getRemoteAuthCallerName _ := ""
  createWidgetContext _ := some 7
  schedule _ := true

def dialog : WidgetParamInner := {title:=[85],windowMode:=.DIALOG_BOX}

def fingerPara : AuthWidgetContextPara := {
  userId:=100
  sdkVersion:=10
  callerName:="unlock"
  widgetParam:=dialog
  authProfileMap:=((∅ : AuthProfileMap).insert AuthType.FINGERPRINT {remainTimes:=5}).insert AuthType.PIN {remainTimes:=5}
  callerType:=TOKEN_HAP
  callerPermissions:=ENG_CALLER_PERM_ENTERPRISE_MANAGE_SECURITY}

theorem finger_left : WidgetTypes lockedFace fingerRequest [AuthType.FINGERPRINT,AuthType.PIN] fingerPara := by
  refine widget_types_filtered lockedFace 10 fingerRequest dialog _ _ (fun answer answered => ?_) (by decide +kernel)
  cases answered
  exact ⟨by decide,fun _ member => member⟩

end UserAuth.AuthWidget
