import UserAuth.Framework.FrameworkExecutorCallback

namespace UserAuth
open Attributes

-- Of a ScheduleNodeImpl, what it begins its executors with.
structure ScheduleInfo where
  scheduleId : UInt64
  scheduleMode : ScheduleMode
  tokenId : Option UInt32 := none
  pinSubType : Int32 := 0
  collectorTokenId : UInt32 := 0
  endAfterFirstFail : Bool := false
  authIntent : Int32 := 0
  userId : Int32 := 0
  verifierMessage : Bytes := []
  collectorMessage : Bytes := []
  templateIdList : List UInt64 := []
  additionalInfo : Bytes := []
  title : Bytes := []
  authScene : Int32 := 0

namespace ScheduleInfo
variable (info : ScheduleInfo) (isVerifier : Bool)

def tokenCalls : List Call := info.tokenId.toList.map fun tokenId => ⟨.uint32,ATTR_ACCESS_TOKEN_ID,tokenId⟩

def pinCalls : List Call := if info.pinSubType = 0 then [] else [⟨.int32,ATTR_PIN_SUB_TYPE,info.pinSubType⟩]

def roleCalls : List Call :=
  if isVerifier then
    [⟨.int32,ATTR_AUTH_INTENTION,info.authIntent⟩,⟨.int32,ATTR_USER_ID,info.userId⟩,
      ⟨.uint8Array,ATTR_EXTRA_INFO,info.verifierMessage⟩]
  else [⟨.uint8Array,ATTR_EXTRA_INFO,info.collectorMessage⟩]

def templateCalls : List Call :=
  match info.templateIdList with
  | [] => []
  | [templateId] => [⟨.uint64Array,ATTR_TEMPLATE_ID_LIST,[templateId]⟩,⟨.uint64,ATTR_TEMPLATE_ID,templateId⟩]
  | templateIdList => [⟨.uint64Array,ATTR_TEMPLATE_ID_LIST,templateIdList⟩]

def textCalls (key : AttributeKey) (text : Bytes) : List Call := if text = [] then [] else [⟨.string,key,text⟩]

-- The setters of GetScheduleAttribute, whose results are not looked at.
def scheduleCalls : List Call :=
  [⟨.int32,ATTR_SCHEDULE_MODE,info.scheduleMode⟩] ++ info.tokenCalls ++ info.pinCalls ++
    [⟨.uint32,ATTR_COLLECTOR_TOKEN_ID,info.collectorTokenId⟩,⟨.bool,ATTR_END_AFTER_FIRST_FAIL,info.endAfterFirstFail⟩] ++
    info.roleCalls isVerifier ++ info.templateCalls ++ textCalls ATTR_ADDITIONAL_INFO info.additionalInfo ++
    textCalls ATTR_WIDGET_TITLE info.title ++ [⟨.int32,ATTR_AUTH_SCENE,info.authScene⟩]

def getScheduleAttribute : Attributes := sentBy (info.scheduleCalls isVerifier)

-- Everything that is sent fits its setter, and each text the parser too.
structure Sendable : Prop where
  verifierMessage : info.verifierMessage.length ≤ MAX_ATTR_LENGTH
  collectorMessage : info.collectorMessage.length ≤ MAX_ATTR_LENGTH
  templateIdList : info.templateIdList.length * 8 ≤ MAX_ATTR_LENGTH
  additionalInfo : info.additionalInfo.length < MAX_ATTR_LENGTH
  title : info.title.length < MAX_ATTR_LENGTH

def message : Bytes := if isVerifier then info.verifierMessage else info.collectorMessage

-- What the driver of an executor is to be asked for: with all that belongs to
-- the mode, or for nothing.
def wanted (executorRole : ExecutorRole) : Option HdiRequest :=
  if info.scheduleMode = ScheduleMode.ENROLL then
    if isVerifier then info.tokenId.map (.enroll · info.verifierMessage info.userId info.additionalInfo) else none
  else if info.scheduleMode = ScheduleMode.AUTH then
    if executorRole = ExecutorRole.COLLECTOR then some (.collect info.collectorTokenId (info.message isVerifier))
    else if isVerifier && !info.templateIdList.isEmpty then
      info.tokenId.map (.authenticate · info.templateIdList info.verifierMessage info.endAfterFirstFail info.authIntent
        info.userId info.authScene info.title)
    else none
  else if info.scheduleMode = ScheduleMode.IDENTIFY then info.tokenId.map (.identify · (info.message isVerifier))
  else if info.scheduleMode = ScheduleMode.ABANDON then
    if isVerifier then
      info.templateIdList.head?.bind fun templateId =>
        info.tokenId.map (.abandon · info.userId templateId info.verifierMessage)
    else none
  else none

def scheduleKeys : List AttributeKey :=
  [ATTR_SCHEDULE_MODE,ATTR_ACCESS_TOKEN_ID,ATTR_PIN_SUB_TYPE,ATTR_COLLECTOR_TOKEN_ID,ATTR_END_AFTER_FIRST_FAIL,
    ATTR_AUTH_INTENTION,ATTR_USER_ID,ATTR_EXTRA_INFO,ATTR_TEMPLATE_ID_LIST,ATTR_TEMPLATE_ID,ATTR_ADDITIONAL_INFO,
    ATTR_WIDGET_TITLE,ATTR_AUTH_SCENE]

theorem templateCalls_keys :
    (info.templateCalls.map Call.key).Sublist [ATTR_TEMPLATE_ID_LIST,ATTR_TEMPLATE_ID] := by
  unfold templateCalls
  split
  · exact List.nil_sublist _
  · exact .refl _
  · exact .cons_cons _ (List.nil_sublist _)

theorem textCalls_keys (key : AttributeKey) (text : Bytes) : ((textCalls key text).map Call.key).Sublist [key] := by
  unfold textCalls
  split
  · exact List.nil_sublist _
  · exact .refl _

theorem tokenCalls_keys : (info.tokenCalls.map Call.key).Sublist [ATTR_ACCESS_TOKEN_ID] := by
  unfold tokenCalls
  cases info.tokenId with
  | none => exact List.nil_sublist _
  | some tokenId => exact .refl _

theorem pinCalls_keys : (info.pinCalls.map Call.key).Sublist [ATTR_PIN_SUB_TYPE] := by
  unfold pinCalls
  split
  · exact List.nil_sublist _
  · exact .refl _

theorem roleCalls_keys :
    ((info.roleCalls isVerifier).map Call.key).Sublist [ATTR_AUTH_INTENTION,ATTR_USER_ID,ATTR_EXTRA_INFO] := by
  cases isVerifier with
  | true => exact .refl _
  | false => exact .cons _ (.cons _ (.refl _))

theorem collectorCalls_keys : ((info.roleCalls false).map Call.key).Sublist [ATTR_EXTRA_INFO] := .refl _

theorem scheduleCalls_keys : ((info.scheduleCalls isVerifier).map Call.key).Sublist scheduleKeys := by
  unfold scheduleCalls
  simp only [List.map_append]
  exact ((((((((List.Sublist.refl [ATTR_SCHEDULE_MODE]).append info.tokenCalls_keys).append info.pinCalls_keys).append
    (.refl [ATTR_COLLECTOR_TOKEN_ID,ATTR_END_AFTER_FIRST_FAIL])).append (info.roleCalls_keys isVerifier)).append
    info.templateCalls_keys).append (textCalls_keys _ _)).append (textCalls_keys _ _)).append (.refl [ATTR_AUTH_SCENE])

theorem apart_of (keys : ((List.map Call.key calls)).Sublist fixed) (outside : key ∉ fixed) : key ∉ calls.map Call.key :=
  fun member => outside (keys.subset member)

-- A key is in the calls only by the piece of its own.
theorem scheduleCalls_absent (token : key ∉ info.tokenCalls.map Call.key)
    (role : key ∉ (info.roleCalls isVerifier).map Call.key)
    (template : key ∉ info.templateCalls.map Call.key)
    (additional : key ∉ (textCalls ATTR_ADDITIONAL_INFO info.additionalInfo).map Call.key)
    (title : key ∉ (textCalls ATTR_WIDGET_TITLE info.title).map Call.key)
    (fixed : key ∉ [ATTR_SCHEDULE_MODE,ATTR_PIN_SUB_TYPE,ATTR_COLLECTOR_TOKEN_ID,ATTR_END_AFTER_FIRST_FAIL,ATTR_AUTH_SCENE]) :
    ∀ call ∈ info.scheduleCalls isVerifier, call.key ≠ key := by
  simp only [List.mem_cons,List.not_mem_nil,or_false,not_or] at fixed
  obtain ⟨mode,pin,collector,ending,scene⟩ := fixed
  have pins : key ∉ info.pinCalls.map Call.key := fun member =>
    pin (List.mem_singleton.mp (info.pinCalls_keys.subset member))
  have absent : key ∉ (info.scheduleCalls isVerifier).map Call.key := by
    unfold scheduleCalls
    simp [-List.mem_map,token,role,template,additional,title,pins,mode,collector,ending,scene]
  intro call member same
  exact absent (same ▸ List.mem_map_of_mem member)

theorem scheduleCalls_sendable (sendable : info.Sendable) : Attributes.Sendable (info.scheduleCalls isVerifier) := by
  have keys := info.scheduleCalls_keys isVerifier
  refine ⟨?_,keys.nodup (by decide),?_⟩
  · have bound := keys.length_le
    rw [List.length_map] at bound
    exact bound.trans (by decide)
  · have texts : ∀ key text, text.length < MAX_ATTR_LENGTH → ∀ call ∈ textCalls key text, Fits call.type call.value := by
      intro key text short call member
      unfold textCalls at member
      split at member
      · cases member
      · cases List.mem_singleton.mp member
        exact short
    intro call member
    unfold scheduleCalls at member
    simp only [List.mem_append] at member
    rcases member with (((((((member | member) | member) | member) | member) | member) | member) | member) | member
    · cases List.mem_singleton.mp member
      trivial
    · obtain ⟨_,_,rfl⟩ := List.mem_map.mp member
      trivial
    · unfold pinCalls at member
      split at member
      · cases member
      · cases List.mem_singleton.mp member
        trivial
    · simp only [List.mem_cons,List.not_mem_nil,or_false] at member
      rcases member with rfl | rfl <;> trivial
    · unfold roleCalls at member
      split at member
      · simp only [List.mem_cons,List.not_mem_nil,or_false] at member
        rcases member with rfl | rfl | rfl <;> trivial
      · cases List.mem_singleton.mp member
        trivial
    · unfold templateCalls at member
      split at member
      · cases member
      · simp only [List.mem_cons,List.not_mem_nil,or_false] at member
        rcases member with rfl | rfl <;> trivial
      · cases List.mem_singleton.mp member
        trivial
    · exact texts _ _ sendable.additionalInfo call member
    · exact texts _ _ sendable.title call member
    · cases List.mem_singleton.mp member
      trivial

section Reading
variable {info isVerifier}

theorem read_value (sendable : info.Sendable) (type : ValueType) (value : type.Value)
    (member : ⟨type,key,value⟩ ∈ info.scheduleCalls isVerifier) (accepted : Accepted type value)
    (whole : Rereadable type value) : getValue type (info.getScheduleAttribute isVerifier) key = some value :=
  sent_get (info.scheduleCalls_sendable isVerifier sendable) type value member accepted whole

theorem read_nothing (sendable : info.Sendable) (type : ValueType)
    (absent : ∀ call ∈ info.scheduleCalls isVerifier, call.key ≠ key) :
    getValue type (info.getScheduleAttribute isVerifier) key = none :=
  sent_get_absent (info.scheduleCalls_sendable isVerifier sendable) type absent

theorem read_scheduleMode (sendable : info.Sendable) :
    (info.getScheduleAttribute isVerifier).getInt32Value ATTR_SCHEDULE_MODE = some info.scheduleMode :=
  read_value sendable .int32 info.scheduleMode (by simp [scheduleCalls]) trivial trivial

theorem read_tokenId (sendable : info.Sendable) :
    (info.getScheduleAttribute isVerifier).getUint32Value ATTR_ACCESS_TOKEN_ID = info.tokenId := by
  cases token : info.tokenId with
  | some tokenId => exact read_value sendable .uint32 tokenId (by simp [scheduleCalls,tokenCalls,token]) trivial trivial
  | none =>
    refine read_nothing sendable .uint32 (scheduleCalls_absent info isVerifier ?_ ?_ ?_ ?_ ?_ (by decide))
    · simp [tokenCalls,token]
    · exact apart_of (roleCalls_keys _ _) (by decide)
    · exact apart_of (templateCalls_keys _) (by decide)
    · exact apart_of (textCalls_keys _ _) (by decide)
    · exact apart_of (textCalls_keys _ _) (by decide)

theorem read_collectorTokenId (sendable : info.Sendable) :
    (info.getScheduleAttribute isVerifier).getUint32Value ATTR_COLLECTOR_TOKEN_ID = some info.collectorTokenId :=
  read_value sendable .uint32 info.collectorTokenId (by simp [scheduleCalls]) trivial trivial

theorem read_endAfterFirstFail (sendable : info.Sendable) :
    (info.getScheduleAttribute isVerifier).getBoolValue ATTR_END_AFTER_FIRST_FAIL = some info.endAfterFirstFail :=
  read_value sendable .bool info.endAfterFirstFail (by simp [scheduleCalls]) trivial trivial

theorem read_authScene (sendable : info.Sendable) :
    (info.getScheduleAttribute isVerifier).getInt32Value ATTR_AUTH_SCENE = some info.authScene :=
  read_value sendable .int32 info.authScene (by simp [scheduleCalls]) trivial trivial

theorem read_extraInfo (sendable : info.Sendable) :
    (info.getScheduleAttribute isVerifier).getUint8ArrayValue ATTR_EXTRA_INFO = some (info.message isVerifier) := by
  refine read_value sendable .uint8Array (info.message isVerifier) ?_ ?_ trivial
  · cases isVerifier <;> simp [scheduleCalls,roleCalls,message]
  · cases isVerifier with
    | true => exact sendable.verifierMessage
    | false => exact sendable.collectorMessage

theorem read_authIntent (sendable : info.Sendable) :
    (info.getScheduleAttribute true).getInt32Value ATTR_AUTH_INTENTION = some info.authIntent :=
  read_value sendable .int32 info.authIntent (by simp [scheduleCalls,roleCalls]) trivial trivial

theorem read_userId (sendable : info.Sendable) : (info.getScheduleAttribute isVerifier).getInt32Value ATTR_USER_ID =
    if isVerifier then some info.userId else none := by
  cases isVerifier with
  | true => exact read_value sendable .int32 info.userId (by simp [scheduleCalls,roleCalls]) trivial trivial
  | false =>
    refine read_nothing sendable .int32 (scheduleCalls_absent info false ?_ ?_ ?_ ?_ ?_ (by decide))
    · exact apart_of (tokenCalls_keys _) (by decide)
    · exact apart_of (collectorCalls_keys _) (by decide)
    · exact apart_of (templateCalls_keys _) (by decide)
    · exact apart_of (textCalls_keys _ _) (by decide)
    · exact apart_of (textCalls_keys _ _) (by decide)

theorem read_authIntent_absent (sendable : info.Sendable) :
    (info.getScheduleAttribute false).getInt32Value ATTR_AUTH_INTENTION = none := by
  refine read_nothing sendable .int32 (scheduleCalls_absent info false ?_ ?_ ?_ ?_ ?_ (by decide))
  · exact apart_of (tokenCalls_keys _) (by decide)
  · exact apart_of (collectorCalls_keys _) (by decide)
  · exact apart_of (templateCalls_keys _) (by decide)
  · exact apart_of (textCalls_keys _ _) (by decide)
  · exact apart_of (textCalls_keys _ _) (by decide)

theorem read_templateIdList (sendable : info.Sendable) :
    (info.getScheduleAttribute isVerifier).getUint64ArrayValue ATTR_TEMPLATE_ID_LIST =
      if info.templateIdList.isEmpty then none else some info.templateIdList := by
  cases templates : info.templateIdList with
  | nil =>
    refine read_nothing sendable .uint64Array (scheduleCalls_absent info isVerifier ?_ ?_ ?_ ?_ ?_ (by decide))
    · exact apart_of (tokenCalls_keys _) (by decide)
    · exact apart_of (roleCalls_keys _ _) (by decide)
    · simp [templateCalls,templates]
    · exact apart_of (textCalls_keys _ _) (by decide)
    · exact apart_of (textCalls_keys _ _) (by decide)
  | cons first rest =>
    have fits := sendable.templateIdList
    rw [templates] at fits
    refine read_value sendable .uint64Array (first :: rest) ?_ fits trivial
    cases rest with
    | nil => simp [scheduleCalls,templateCalls,templates]
    | cons second rest => simp [scheduleCalls,templateCalls,templates]

theorem read_additionalInfo (sendable : info.Sendable) :
    ((info.getScheduleAttribute isVerifier).getStringValue ATTR_ADDITIONAL_INFO).getD [] = info.additionalInfo := by
  by_cases bare : info.additionalInfo = []
  · have nothing : (info.getScheduleAttribute isVerifier).getStringValue ATTR_ADDITIONAL_INFO = none := by
      refine read_nothing sendable .string (scheduleCalls_absent info isVerifier ?_ ?_ ?_ ?_ ?_ (by decide))
      · exact apart_of (tokenCalls_keys _) (by decide)
      · exact apart_of (roleCalls_keys _ _) (by decide)
      · exact apart_of (templateCalls_keys _) (by decide)
      · simp [textCalls,bare]
      · exact apart_of (textCalls_keys _ _) (by decide)
    rw [nothing,bare]
    rfl
  · have text : (info.getScheduleAttribute isVerifier).getStringValue ATTR_ADDITIONAL_INFO = some info.additionalInfo :=
      read_value sendable .string info.additionalInfo (by simp [scheduleCalls,textCalls,bare])
        (Nat.le_of_lt sendable.additionalInfo) trivial
    rw [text]
    rfl

theorem read_title (sendable : info.Sendable) :
    ((info.getScheduleAttribute isVerifier).getStringValue ATTR_WIDGET_TITLE).getD [] = info.title := by
  by_cases bare : info.title = []
  · have nothing : (info.getScheduleAttribute isVerifier).getStringValue ATTR_WIDGET_TITLE = none := by
      refine read_nothing sendable .string (scheduleCalls_absent info isVerifier ?_ ?_ ?_ ?_ ?_ (by decide))
      · exact apart_of (tokenCalls_keys _) (by decide)
      · exact apart_of (roleCalls_keys _ _) (by decide)
      · exact apart_of (templateCalls_keys _) (by decide)
      · exact apart_of (textCalls_keys _ _) (by decide)
      · simp [textCalls,bare]
    rw [nothing,bare]
    rfl
  · have text : (info.getScheduleAttribute isVerifier).getStringValue ATTR_WIDGET_TITLE = some info.title :=
      read_value sendable .string info.title (by simp [scheduleCalls,textCalls,bare]) (Nat.le_of_lt sendable.title) trivial
    rw [text]
    rfl

theorem attribute_received (sendable : info.Sendable) :
    ofRaw (serialize (info.getScheduleAttribute isVerifier)) = info.getScheduleAttribute isVerifier :=
  sent_received (info.scheduleCalls_sendable isVerifier sendable)

-- What each command reads of it for the driver.
theorem request_enroll (sendable : info.Sendable) : AsyncCommand.request (info.getScheduleAttribute isVerifier) .enroll =
    if isVerifier then info.tokenId.map (.enroll · info.verifierMessage info.userId info.additionalInfo) else none := by
  simp only [AsyncCommand.request,read_tokenId sendable,read_extraInfo sendable,read_userId sendable,
    read_additionalInfo sendable]
  cases info.tokenId <;> cases isVerifier <;> rfl

theorem request_auth (sendable : info.Sendable) : AsyncCommand.request (info.getScheduleAttribute isVerifier) .auth =
    if isVerifier && !info.templateIdList.isEmpty then
      info.tokenId.map (.authenticate · info.templateIdList info.verifierMessage info.endAfterFirstFail info.authIntent
        info.userId info.authScene info.title)
    else none := by
  cases isVerifier with
  | true =>
    simp only [AsyncCommand.request,read_tokenId sendable,read_extraInfo sendable,read_userId sendable,
      read_templateIdList sendable,read_endAfterFirstFail sendable,read_authIntent sendable,read_authScene sendable,
      read_title sendable]
    cases info.tokenId <;> cases info.templateIdList <;> rfl
  | false =>
    simp only [AsyncCommand.request,read_tokenId sendable,read_extraInfo sendable,read_templateIdList sendable,
      read_endAfterFirstFail sendable,read_authIntent_absent sendable]
    cases info.tokenId <;> cases info.templateIdList <;> rfl

theorem request_collect (sendable : info.Sendable) :
    AsyncCommand.request (info.getScheduleAttribute isVerifier) .collect =
    some (.collect info.collectorTokenId (info.message isVerifier)) := by
  simp only [AsyncCommand.request,read_collectorTokenId sendable,read_extraInfo sendable]
  rfl

theorem request_identify (sendable : info.Sendable) :
    AsyncCommand.request (info.getScheduleAttribute isVerifier) .identify =
      info.tokenId.map (.identify · (info.message isVerifier)) := by
  simp only [AsyncCommand.request,read_tokenId sendable,read_extraInfo sendable]
  cases info.tokenId <;> rfl

theorem request_abandon (sendable : info.Sendable) :
    AsyncCommand.request (info.getScheduleAttribute isVerifier) .abandon =
    if isVerifier then
      info.templateIdList.head?.bind fun templateId =>
        info.tokenId.map (.abandon · info.userId templateId info.verifierMessage)
    else none := by
  simp only [AsyncCommand.request,read_tokenId sendable,read_extraInfo sendable,read_userId sendable,
    read_templateIdList sendable]
  cases info.tokenId <;> cases isVerifier <;> cases info.templateIdList <;> rfl

end Reading

-- The request that a driver gets for a begun schedule is the one that belongs to
-- the schedule, or there is none.
theorem begin_reaches_driver (s : FrameworkExecutorCallback) (sendable : info.Sendable) :
    s.onBeginExecute info.scheduleId (serialize (info.getScheduleAttribute isVerifier)) =
      (s.executor.filter (·.executorHdi)).bind fun executor =>
        (info.wanted isVerifier executor.executorRole).map (.request info.scheduleId) := by
  have copied : ∀ type, (s.command type info.scheduleId (info.getScheduleAttribute isVerifier)).hdiRequest =
      AsyncCommand.request (info.getScheduleAttribute isVerifier) type := by
    intro type
    unfold FrameworkExecutorCallback.command
    rw [attribute_received sendable]
    rfl
  have started : ∀ type, s.startProcess (s.command type info.scheduleId (info.getScheduleAttribute isVerifier)) =
      if !s.hasHdi then none else AsyncCommand.request (info.getScheduleAttribute isVerifier) type := by
    intro type
    rw [FrameworkExecutorCallback.startProcess,copied]
  unfold FrameworkExecutorCallback.onBeginExecute FrameworkExecutorCallback.onBeginExecuteInner
  rw [attribute_received sendable,read_scheduleMode sendable,Option.bind_some]
  cases present : s.executor with
  | none =>
    have gone : s.hasHdi = false := by simp [FrameworkExecutorCallback.hasHdi,present]
    simp only [FrameworkExecutorCallback.processAuthCommand,present,Option.map_none,Option.filter_none,Option.bind_none]
    split
    · simp [started,gone]
    split
    · rfl
    split
    · simp [started,gone]
    split
    · simp [started,gone]
    · rfl
  | some executor =>
    have held : s.hasHdi = executor.executorHdi := by simp [FrameworkExecutorCallback.hasHdi,present]
    simp only [FrameworkExecutorCallback.processAuthCommand,present,Option.map_some]
    unfold wanted
    cases hdi : executor.executorHdi with
    | false =>
      have gone : s.hasHdi = false := held.trans hdi
      have none : (some executor).filter (·.executorHdi) = none := by simp [hdi]
      rw [none]
      split
      · simp [started,gone]
      split
      · split <;> simp [started,gone]
      split
      · simp [started,gone]
      split
      · simp [started,gone]
      · rfl
    | true =>
      have there : s.hasHdi = true := held.trans hdi
      have one : (some executor).filter (·.executorHdi) = some executor := by simp [hdi]
      rw [one,Option.bind_some]
      split
      · simp [started,there,request_enroll sendable]
      split
      · split
        · simp [started,there,request_collect sendable]
        · simp [started,there,request_auth sendable]
      split
      · simp [started,there,request_identify sendable]
      split
      · simp [started,there,request_abandon sendable]
      · rfl

def faceSchedule : ScheduleInfo :=
  {scheduleId:=5,scheduleMode:=ScheduleMode.AUTH,tokenId:=some 7,userId:=100,templateIdList:=[11,12],endAfterFirstFail:=true,
    verifierMessage:=[1,2]}

theorem begin_reaches_driver_face :
    (⟨some ⟨ExecutorRole.ALL_IN_ONE,true⟩,true⟩ : FrameworkExecutorCallback).onBeginExecute 5
      (serialize (faceSchedule.getScheduleAttribute true)) =
        some (.request 5 (.authenticate 7 [11,12] [1,2] true 0 100 0 [])) :=
  begin_reaches_driver faceSchedule true _ ⟨by decide,by decide,by decide,by decide,by decide⟩

end ScheduleInfo
end UserAuth
