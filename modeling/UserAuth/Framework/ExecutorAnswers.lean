import UserAuth.Framework.ExecutorProperties

namespace UserAuth
open Attributes

namespace FrameworkExecutorCallback
open AuthWidgetHelper ContextFactory
variable (s : FrameworkExecutorCallback) (hdi : List UInt64 → List AttributeKey → Option Property)

-- ResourceNodeImpl::GetProperty, of a node behind which the callback is.
def getProperty (condition : Attributes) : EngineReply Attributes :=
  match s.onGetProperty hdi (serialize condition) with
  | none => .refused ResultCode.GENERAL_ERROR generalError_failure
  | some values => .answered (ofRaw values)

-- AsyncCommandBase::OnMessageInner, as far as what it sends.
def onMessageInner (executorRole : ExecutorRole) (msg : Bytes) : Option Bytes :=
  let attr := empty.setAll [setInt32Value ATTR_SRC_ROLE executorRole,setUint8ArrayValue ATTR_EXTRA_INFO msg]
  if attr.2 then some (serialize attr.1) else none

-- ScheduleNodeImpl::SendMessage. What is for the scheduler goes to no driver.
def sendMessage (verifier collector : Option FrameworkExecutorCallback) (scheduleId : UInt64) (dstRole : ExecutorRole)
    (msg : Bytes) : Option DriverCall :=
  let node :=
    if dstRole = ExecutorRole.ALL_IN_ONE ∨ dstRole = ExecutorRole.VERIFIER then verifier
    else if dstRole = ExecutorRole.COLLECTOR then collector
    else none
  node.bind fun node => node.onSendData scheduleId (serialize (ofRaw msg))

-- What a driver's property says of an authentication type.
def profileOf (authType : AuthType) (property : Property) : AuthProfile :=
  let profile : AuthProfile := {remainTimes:=property.remainAttempts,freezingTime:=property.lockoutDuration}
  if authType = AuthType.PIN ∨ authType = AuthType.PRIVATE_PIN then
    {profile with
      pinSubType:=property.authSubType.toUInt32.toInt32
      nextPhaseFreezingTime:=property.nextFailLockoutDuration}
  else if authType = AuthType.FINGERPRINT then {profile with sensorInfo:=property.sensorInfo}
  else if authType = AuthType.FACE then {profile with cameraStatus:=property.cameraStatus}
  else profile

-- What GetUserAuthProfile asks, and what the keys are filled with.
def profileQuery (authType : AuthType) (templateIds : List UInt64) : List Call :=
  [⟨.int32,ATTR_AUTH_TYPE,authType⟩,⟨.uint32,ATTR_PROPERTY_MODE,PROPERTY_MODE_GET⟩,
    ⟨.uint64Array,ATTR_TEMPLATE_ID_LIST,templateIds⟩,⟨.uint32Array,ATTR_KEY_LIST,getUint32PropertyKeys authType⟩]

def profileCalls (authType : AuthType) (property : Property) : List Call :=
  [⟨.int32,ATTR_REMAIN_TIMES,property.remainAttempts⟩,⟨.int32,ATTR_FREEZING_TIME,property.lockoutDuration⟩] ++
    if authType = AuthType.PIN ∨ authType = AuthType.PRIVATE_PIN then
      [⟨.int32,ATTR_PIN_SUB_TYPE,property.authSubType.toUInt32.toInt32⟩,
        ⟨.int32,ATTR_NEXT_FAIL_LOCKOUT_DURATION,property.nextFailLockoutDuration⟩]
    else if authType = AuthType.FINGERPRINT then [⟨.string,ATTR_SENSOR_INFO,property.sensorInfo⟩]
    else if authType = AuthType.FACE then [⟨.uint32,ATTR_CAMERA_STATUS,property.cameraStatus⟩]
    else []

-- The sensor's text leaves room for its closing zero.
def SensorFits (authType : AuthType) (property : Property) : Prop :=
  authType = AuthType.FINGERPRINT → property.sensorInfo.length < MAX_ATTR_LENGTH

theorem setAll_sent (attrs : Attributes) (setters : List Setter) (done : attrs.setAll setters = (next,true)) :
    attrs.setEach setters = next := by
  induction setters generalizing attrs with
  | nil =>
    cases done
    rfl
  | cons setter rest ih =>
    rw [setAll] at done
    rw [setEach_cons]
    cases stored : attrs.set setter with
    | none =>
      rw [stored] at done
      cases done
    | some mid =>
      rw [stored] at done
      exact ih mid done

-- Calls that all take what they are given.
theorem setAll_accepted (sendable : Attributes.Sendable sends) (accepted : ∀ call ∈ sends, Accepted call.type call.value) :
    empty.setAll (sends.map Call.setter) = (sentBy sends,true) := by
  have whole : (empty.setAll (sends.map Call.setter)).2 = true := by
    rw [setAll_complete empty _ sendable.settable,List.all_eq_true]
    intro setter among
    obtain ⟨call,member,rfl⟩ := List.mem_map.mp among
    exact (accepted_iff call.type call.key call.value).mpr (accepted call member)
  have done : empty.setAll (sends.map Call.setter) = ((empty.setAll (sends.map Call.setter)).1,true) := Prod.ext rfl whole
  exact done.trans (congrArg (·,true) (setAll_sent empty _ done).symm)

theorem fill_setAll (property : Property) (calls : List Call)
    (filled : ∀ call ∈ calls, propertyFillers property call.key = some [call.setter]) (values : Attributes) :
    fillPropertyToAttribute property (calls.map Call.key) values =
      if (values.setAll (calls.map Call.setter)).2 then some (values.setAll (calls.map Call.setter)).1 else none := by
  induction calls generalizing values with
  | nil => rfl
  | cons call rest ih =>
    have first := filled call List.mem_cons_self
    have later := ih fun other member => filled other (List.mem_cons_of_mem _ member)
    cases stored : values.set call.setter with
    | none => simp [fillPropertyToAttribute,first,setAll,stored]
    | some next => simpa [fillPropertyToAttribute,first,setAll,stored] using later next

theorem profileCalls_keys (authType : AuthType) (property : Property) :
    (profileCalls authType property).map Call.key = getUint32PropertyKeys authType := by
  unfold profileCalls getUint32PropertyKeys
  split
  · rfl
  split
  · rfl
  split <;> rfl

theorem profileCalls_filled (property : Property) :
    ∀ call ∈ profileCalls authType property, propertyFillers property call.key = some [call.setter] := by
  unfold profileCalls
  split
  · simp only [List.cons_append,List.nil_append,List.forall_mem_cons]
    exact ⟨rfl,rfl,rfl,rfl,nofun⟩
  split
  · simp only [List.cons_append,List.nil_append,List.forall_mem_cons]
    exact ⟨rfl,rfl,rfl,nofun⟩
  split
  · simp only [List.cons_append,List.nil_append,List.forall_mem_cons]
    exact ⟨rfl,rfl,rfl,nofun⟩
  · simp only [List.append_nil,List.forall_mem_cons]
    exact ⟨rfl,rfl,nofun⟩

theorem profileKeys (authType : AuthType) :
    (getUint32PropertyKeys authType).length ≤ MAX_ATTR_COUNT ∧ (getUint32PropertyKeys authType).Nodup := by
  unfold getUint32PropertyKeys
  split
  · decide
  split
  · decide
  split <;> decide

theorem profileCalls_fit (fits : SensorFits authType property) :
    ∀ call ∈ profileCalls authType property, Fits call.type call.value ∧ Accepted call.type call.value := by
  unfold profileCalls
  split
  · simp only [List.cons_append,List.nil_append,List.forall_mem_cons]
    exact ⟨⟨trivial,trivial⟩,⟨trivial,trivial⟩,⟨trivial,trivial⟩,⟨trivial,trivial⟩,nofun⟩
  split
  · rename_i finger
    simp only [List.cons_append,List.nil_append,List.forall_mem_cons]
    exact ⟨⟨trivial,trivial⟩,⟨trivial,trivial⟩,⟨fits finger,Nat.le_of_lt (fits finger)⟩,nofun⟩
  split
  · simp only [List.cons_append,List.nil_append,List.forall_mem_cons]
    exact ⟨⟨trivial,trivial⟩,⟨trivial,trivial⟩,⟨trivial,trivial⟩,nofun⟩
  · simp only [List.append_nil,List.forall_mem_cons]
    exact ⟨⟨trivial,trivial⟩,⟨trivial,trivial⟩,nofun⟩

theorem profileCalls_sendable (fits : SensorFits authType property) :
    Attributes.Sendable (profileCalls authType property) := by
  obtain ⟨few,distinct⟩ := profileKeys authType
  rw [← profileCalls_keys authType property] at few distinct
  rw [List.length_map] at few
  exact ⟨few,distinct,fun call member => (profileCalls_fit fits call member).1⟩

-- The driver's property under the keys asked for.
theorem fill_profile (fits : SensorFits authType property) :
    fillPropertyToAttribute property (getUint32PropertyKeys authType) empty =
      some (sentBy (profileCalls authType property)) := by
  have accepted := setAll_accepted (profileCalls_sendable fits) fun call member => (profileCalls_fit fits call member).2
  rw [← profileCalls_keys authType property,fill_setAll property _ (profileCalls_filled property),accepted]
  rfl

theorem parse_profile (fits : SensorFits authType property) :
    AuthWidgetHelper.parseAttributes (sentBy (profileCalls authType property)) authType =
      some (profileOf authType property) := by
  have sendable := profileCalls_sendable fits
  have remain : (sentBy (profileCalls authType property)).getInt32Value ATTR_REMAIN_TIMES = some property.remainAttempts :=
    sent_get sendable .int32 _ (.head _) trivial trivial
  have freezing : (sentBy (profileCalls authType property)).getInt32Value ATTR_FREEZING_TIME =
    some property.lockoutDuration := sent_get sendable .int32 _ (.tail _ (.head _)) trivial trivial
  unfold AuthWidgetHelper.parseAttributes profileOf
  by_cases pin : authType = AuthType.PIN ∨ authType = AuthType.PRIVATE_PIN
  · have notFinger : ¬authType = AuthType.FINGERPRINT := by rcases pin with rfl | rfl <;> decide
    have notFace : ¬authType = AuthType.FACE := by rcases pin with rfl | rfl <;> decide
    have subType : (sentBy (profileCalls authType property)).getInt32Value ATTR_PIN_SUB_TYPE =
        some property.authSubType.toUInt32.toInt32 :=
      sent_get sendable .int32 _ (by simp [profileCalls,pin]) trivial trivial
    have next : (sentBy (profileCalls authType property)).getInt32Value ATTR_NEXT_FAIL_LOCKOUT_DURATION =
        some property.nextFailLockoutDuration :=
      sent_get sendable .int32 _ (by simp [profileCalls,pin]) trivial trivial
    simp [pin,notFinger,notFace,subType,next,remain,freezing]
  by_cases finger : authType = AuthType.FINGERPRINT
  · subst finger
    have sensor : (sentBy (profileCalls AuthType.FINGERPRINT property)).getStringValue ATTR_SENSOR_INFO =
        some property.sensorInfo :=
      sent_get sendable .string _ (by simp [profileCalls,pin]) (Nat.le_of_lt (fits rfl)) trivial
    have notFace : ¬AuthType.FINGERPRINT = AuthType.FACE := by decide
    simp [pin,notFace,sensor,remain,freezing]
  by_cases face : authType = AuthType.FACE
  · subst face
    have camera : (sentBy (profileCalls AuthType.FACE property)).getUint32Value ATTR_CAMERA_STATUS =
        some property.cameraStatus :=
      sent_get sendable .uint32 _ (by simp [profileCalls,pin,finger]) trivial trivial
    simp [pin,finger,camera,remain,freezing]
  · simp [pin,finger,face,remain,freezing]

variable (authType : AuthType) (templateIds : List UInt64)

theorem profileQuery_sendable : Attributes.Sendable (profileQuery authType templateIds) := by
  have distinct : [ATTR_AUTH_TYPE,ATTR_PROPERTY_MODE,ATTR_TEMPLATE_ID_LIST,ATTR_KEY_LIST].Nodup := by decide
  refine ⟨(by decide : 4 ≤ MAX_ATTR_COUNT),distinct,?_⟩
  unfold profileQuery
  simp only [List.forall_mem_cons]
  exact ⟨trivial,trivial,trivial,trivial,nofun⟩

theorem profileKeys_fit : (getUint32PropertyKeys authType).length * 4 ≤ MAX_ATTR_LENGTH := by
  have few := (profileKeys authType).1
  have room : MAX_ATTR_COUNT * 4 ≤ MAX_ATTR_LENGTH := by decide
  omega

-- The driver is asked what the query says. Template ids too many for one value are
-- not in it, and then the driver is not asked.
theorem query_asks_driver :
    s.onGetProperty hdi (serialize (sentBy (profileQuery authType templateIds))) =
      if s.hasHdi ∧ templateIds.length * 8 ≤ MAX_ATTR_LENGTH then
        (hdi templateIds (getUint32PropertyKeys authType)).bind fun property =>
          (fillPropertyToAttribute property (getUint32PropertyKeys authType) empty).map serialize
      else none := by
  have sendable := profileQuery_sendable authType templateIds
  have mode : (sentBy (profileQuery authType templateIds)).getUint32Value ATTR_PROPERTY_MODE = some PROPERTY_MODE_GET :=
    sent_get sendable .uint32 _ (.tail _ (.head _)) trivial trivial
  have keys : (sentBy (profileQuery authType templateIds)).getUint32ArrayValue ATTR_KEY_LIST =
      some (getUint32PropertyKeys authType) :=
    sent_get sendable .uint32Array _ (.tail _ (.tail _ (.tail _ (.head _)))) (profileKeys_fit authType) trivial
  unfold onGetProperty processGetPropertyCommand
  simp only [sent_received sendable,mode]
  by_cases fits : templateIds.length * 8 ≤ MAX_ATTR_LENGTH
  · have templates : (sentBy (profileQuery authType templateIds)).getUint64ArrayValue ATTR_TEMPLATE_ID_LIST =
        some templateIds := sent_get sendable .uint64Array _ (.tail _ (.tail _ (.head _))) fits trivial
    cases s.hasHdi with
    | false => simp
    | true =>
      cases answered : hdi templateIds (getUint32PropertyKeys authType) <;> simp [templates,keys,fits,answered]
  · have refused : (setUint64ArrayValue ATTR_TEMPLATE_ID_LIST templateIds).dest = none := by
      rw [← Option.not_isSome_iff_eq_none]
      exact fun set => fits ((accepted_iff .uint64Array ATTR_TEMPLATE_ID_LIST templateIds).mp set)
    have absent := (sent_lookup sendable (.tail _ (.tail _ (.head _)))).trans refused
    have nothing : (sentBy (profileQuery authType templateIds)).getUint64ArrayValue ATTR_TEMPLATE_ID_LIST = none :=
      getValue_absent .uint64Array absent
    simp [fits,nothing]

-- The profile is what the driver of the node answers of the user's templates.
theorem profile_from_driver (sources : AuthWidgetSources) (userId : Int32) (credentialIdList : List UInt64)
    (found : getAuthCredentialList sources userId authType credentialIdList = some (first :: rest))
    (selected : sources.nodes.select first.executorIndex = some (s.getProperty hdi))
    (short : ∀ property, hdi ((first :: rest).map (·.templateId)) (getUint32PropertyKeys authType) = some property →
      SensorFits authType property) :
    getUserAuthProfile sources userId authType credentialIdList =
      if s.hasHdi ∧ (first :: rest).length * 8 ≤ MAX_ATTR_LENGTH then
        (hdi ((first :: rest).map (·.templateId)) (getUint32PropertyKeys authType)).elim (ResultCode.GENERAL_ERROR,{})
          fun property => (ResultCode.SUCCESS,profileOf authType property)
      else (ResultCode.GENERAL_ERROR,{}) := by
  have asked := s.query_asks_driver hdi authType ((first :: rest).map (·.templateId))
  rw [List.length_map] at asked
  have query : empty.setEach [setInt32Value ATTR_AUTH_TYPE authType,setUint32Value ATTR_PROPERTY_MODE PROPERTY_MODE_GET,
      setUint64ArrayValue ATTR_TEMPLATE_ID_LIST ((first :: rest).map (·.templateId)),
      setUint32ArrayValue ATTR_KEY_LIST (getUint32PropertyKeys authType)] =
        sentBy (profileQuery authType ((first :: rest).map (·.templateId))) := rfl
  unfold getUserAuthProfile
  simp only [found,selected,query,getProperty,asked]
  by_cases reached : s.hasHdi ∧ (first :: rest).length * 8 ≤ MAX_ATTR_LENGTH
  · simp only [if_pos reached]
    cases answered : hdi ((first :: rest).map (·.templateId)) (getUint32PropertyKeys authType) with
    | none => rfl
    | some property =>
      have fits := short property answered
      have back := sent_received (profileCalls_sendable fits)
      simp only [Option.bind_some,fill_profile fits,Option.map_some,back,parse_profile fits,Option.elim_some]
  · simp only [if_neg reached]

-- What one executor's driver says goes as it is to the driver of the role it names,
-- under the role of the executor that says it.
theorem message_between_drivers (verifier collector : Option FrameworkExecutorCallback) (scheduleId : UInt64)
    (executorRole dstRole : ExecutorRole) (msg : Bytes) :
    ((onMessageInner executorRole msg).bind fun data => sendMessage verifier collector scheduleId dstRole data) =
      if msg.length ≤ MAX_ATTR_LENGTH then
        ((if dstRole = ExecutorRole.ALL_IN_ONE ∨ dstRole = ExecutorRole.VERIFIER then verifier
          else if dstRole = ExecutorRole.COLLECTOR then collector else none).bind fun node =>
            if node.hasHdi then some (.sendMessage scheduleId executorRole msg) else none)
      else none := by
  have distinct : [ATTR_SRC_ROLE,ATTR_EXTRA_INFO].Nodup := by decide
  have sendable : Attributes.Sendable [⟨.int32,ATTR_SRC_ROLE,executorRole⟩,⟨.uint8Array,ATTR_EXTRA_INFO,msg⟩] :=
    ExecutorProperty.pair_sendable distinct trivial trivial
  by_cases fits : msg.length ≤ MAX_ATTR_LENGTH
  · have done : empty.setAll [setInt32Value ATTR_SRC_ROLE executorRole,setUint8ArrayValue ATTR_EXTRA_INFO msg] =
        (sentBy [⟨.int32,ATTR_SRC_ROLE,executorRole⟩,⟨.uint8Array,ATTR_EXTRA_INFO,msg⟩],true) := by
      refine setAll_accepted sendable ?_
      simp only [List.forall_mem_cons]
      exact ⟨trivial,fits,nofun⟩
    have role : (sentBy [⟨.int32,ATTR_SRC_ROLE,executorRole⟩,⟨.uint8Array,ATTR_EXTRA_INFO,msg⟩]).getInt32Value
        ATTR_SRC_ROLE = some executorRole := sent_get sendable .int32 _ (.head _) trivial trivial
    have info : (sentBy [⟨.int32,ATTR_SRC_ROLE,executorRole⟩,⟨.uint8Array,ATTR_EXTRA_INFO,msg⟩]).getUint8ArrayValue
        ATTR_EXTRA_INFO = some msg := sent_get sendable .uint8Array _ (.tail _ (.head _)) fits trivial
    have back := sent_received sendable
    simp only [onMessageInner,sendMessage,onSendData,done,back,role,info,fits,if_true,Option.bind_some,
      Option.bind_eq_bind]
    congr 1
    funext node
    cases node.hasHdi <;> rfl
  · have refused : (setUint8ArrayValue ATTR_EXTRA_INFO msg).dest = none := by
      rw [← Option.not_isSome_iff_eq_none]
      exact fun set => fits ((accepted_iff .uint8Array ATTR_EXTRA_INFO msg).mp set)
    have failed : (empty.setAll [setInt32Value ATTR_SRC_ROLE executorRole,setUint8ArrayValue ATTR_EXTRA_INFO msg]).2 =
        false := by
      have complete := setAll_complete empty _ sendable.settable
      exact complete.trans (by simp [Call.setter,setValue,refused])
    simp [onMessageInner,failed,fits]

end FrameworkExecutorCallback
end UserAuth
