import UserAuth.Executor.ResourceNodePool
import UserAuth.Framework.FrameworkExecutorCallback

namespace UserAuth
open Attributes

-- What the service sets an executor's property to.
inductive ExecutorProperty where
  | deleteTemplate (templateId : UInt64) (changeReasonTrace : Bytes)
  | cachedTemplates (templateIds : List UInt64)
  | collectorReady (scheduleId : UInt64)
  | message (commandId : Int32) (msg : Bytes)
  -- Of the strong authentication that locks a screen.
  | riskEvent (authType : AuthType) (templateIds : List UInt64)

namespace ExecutorProperty

-- GetStrongAuthExtraInfo, after the templates are found.
def strongAuthExtraInfo (authType : AuthType) (templateIds : List UInt64) : Option Bytes :=
  let extraInfoAttr := empty.setAll [setUint64ArrayValue ATTR_TEMPLATE_ID_LIST templateIds,setInt32Value ATTR_AUTH_TYPE authType]
  if extraInfoAttr.2 then some (serialize extraInfoAttr.1) else none

-- Two senders look at what their setters return, and send nothing where one fails.
def calls : ExecutorProperty → Option (List Call)
  | .deleteTemplate templateId changeReasonTrace =>
    some [⟨.uint32,ATTR_PROPERTY_MODE,PROPERTY_MODE_DEL⟩,⟨.uint64,ATTR_TEMPLATE_ID,templateId⟩,
      ⟨.string,ATTR_TEMPLATE_CHANGE_REASON,changeReasonTrace⟩]
  | .cachedTemplates templateIds =>
    some [⟨.uint32,ATTR_PROPERTY_MODE,PROPERTY_MODE_SET_CACHED_TEMPLATES⟩,⟨.uint64Array,ATTR_TEMPLATE_ID_LIST,templateIds⟩]
  | .collectorReady scheduleId =>
    some [⟨.int32,ATTR_PROPERTY_MODE,PROPERTY_MODE_NOTIFY_COLLECTOR_READY.toInt32⟩,⟨.uint64,ATTR_SCHEDULE_ID,scheduleId⟩]
  | .message commandId msg =>
    if msg.length > MAX_ATTR_LENGTH then none
    else some [⟨.int32,ATTR_PROPERTY_MODE,commandId⟩,⟨.uint8Array,ATTR_EXTRA_INFO,msg⟩]
  | .riskEvent authType templateIds =>
    (strongAuthExtraInfo authType templateIds).bind fun extraInfo =>
      if extraInfo.length > MAX_ATTR_LENGTH then none
      else some [⟨.uint32,ATTR_PROPERTY_MODE,PROPERTY_MODE_RISK_EVENT⟩,⟨.uint8Array,ATTR_EXTRA_INFO,extraInfo⟩]

def properties (property : ExecutorProperty) : Option Attributes := property.calls.map sentBy

-- A text of exactly the limit makes the receiver refuse the whole.
def Sendable : ExecutorProperty → Prop
  | .deleteTemplate _ changeReasonTrace => changeReasonTrace.length < MAX_ATTR_LENGTH
  | _ => True

-- A message whose command is one of the framework's own has not what that needs.
def wanted : ExecutorProperty → Option DriverCall
  | .deleteTemplate templateId _ => some (.delete [templateId])
  | .cachedTemplates templateIds =>
    if templateIds.length * 8 ≤ MAX_ATTR_LENGTH then some (.setCachedTemplates templateIds) else none
  | .collectorReady scheduleId => some (.notifyCollectorReady scheduleId)
  | .message commandId msg =>
    if msg.length ≤ MAX_ATTR_LENGTH ∧ commandId.toUInt32 ∉
        [PROPERTY_MODE_DEL,PROPERTY_MODE_SET_CACHED_TEMPLATES,PROPERTY_MODE_NOTIFY_COLLECTOR_READY] then
      some (.request 0 (.sendCommand commandId.toUInt32 msg))
    else none
  | .riskEvent authType templateIds =>
    (strongAuthExtraInfo authType templateIds).bind fun extraInfo =>
      if extraInfo.length ≤ MAX_ATTR_LENGTH then some (.request 0 (.sendCommand PROPERTY_MODE_RISK_EVENT extraInfo))
        else none

theorem pair_sendable (apart : [Call.key first,Call.key second].Nodup) (fits : Fits first.type first.value)
    (fits' : Fits second.type second.value) : Attributes.Sendable [first,second] := by
  refine ⟨(by decide : 2 ≤ MAX_ATTR_COUNT),apart,?_⟩
  simp only [List.forall_mem_cons]
  exact ⟨fits,fits',nofun⟩

theorem calls_sendable (property : ExecutorProperty) (sendable : property.Sendable) (made : property.calls = some sends) :
    Attributes.Sendable sends := by
  cases property with
  | deleteTemplate templateId changeReasonTrace =>
    cases made
    have distinct : [ATTR_PROPERTY_MODE,ATTR_TEMPLATE_ID,ATTR_TEMPLATE_CHANGE_REASON].Nodup := by decide
    refine ⟨(by decide : 3 ≤ MAX_ATTR_COUNT),distinct,?_⟩
    simp only [List.forall_mem_cons]
    exact ⟨trivial,trivial,sendable,nofun⟩
  | cachedTemplates templateIds =>
    have distinct : [ATTR_PROPERTY_MODE,ATTR_TEMPLATE_ID_LIST].Nodup := by decide
    cases made
    exact pair_sendable distinct trivial trivial
  | collectorReady scheduleId =>
    have distinct : [ATTR_PROPERTY_MODE,ATTR_SCHEDULE_ID].Nodup := by decide
    cases made
    exact pair_sendable distinct trivial trivial
  | message commandId msg =>
    have distinct : [ATTR_PROPERTY_MODE,ATTR_EXTRA_INFO].Nodup := by decide
    simp only [calls] at made
    split at made
    · cases made
    cases made
    exact pair_sendable distinct trivial trivial
  | riskEvent authType templateIds =>
    have distinct : [ATTR_PROPERTY_MODE,ATTR_EXTRA_INFO].Nodup := by decide
    obtain ⟨extraInfo,_,made⟩ := Option.bind_eq_some_iff.mp made
    split at made
    · cases made
    cases made
    exact pair_sendable distinct trivial trivial

end ExecutorProperty

namespace FrameworkExecutorCallback
variable {sends : List Call}

-- A command that goes to the driver as it is.
theorem custom_request (s : FrameworkExecutorCallback) (sendable : Attributes.Sendable sends)
    (mode : (sentBy sends).getUint32Value ATTR_PROPERTY_MODE = some commandId)
    (msg : (sentBy sends).getUint8ArrayValue ATTR_EXTRA_INFO = some extraInfo) :
    s.processCustomCommand (sentBy sends) = if s.hasHdi then some (.request 0 (.sendCommand commandId extraInfo))
      else none := by
  unfold processCustomCommand startProcess
  rw [sent_received sendable]
  cases s.hasHdi with
  | false => rfl
  | true =>
    simp only [AsyncCommand.hdiRequest,Option.bind_eq_bind,Option.bind_some,mode,msg]
    rfl

end FrameworkExecutorCallback

namespace ExecutorProperty
open FrameworkExecutorCallback

-- An int32 is read as the uint32 of its bits.
theorem int32_as_uint32 (sendable : Attributes.Sendable sends) (value : Int32) (member : ⟨.int32,key,value⟩ ∈ sends) :
    (sentBy sends).getUint32Value key = some value.toUInt32 := by
  have held : (sentBy sends).map[key]? = some (LittleEndian.encode 4 value.toUInt32.toNat) := sent_lookup sendable member
  exact fixed_back UInt32.ofNat_toNat value.toUInt32.toNat_lt held

theorem set_property (s : FrameworkExecutorCallback) (sendable : Attributes.Sendable sends)
    (mode : (sentBy sends).getUint32Value ATTR_PROPERTY_MODE = some commandId) :
    s.onSetProperty (serialize (sentBy sends)) =
      if commandId = PROPERTY_MODE_DEL then s.processDeleteTemplateCommand (sentBy sends)
      else if commandId = PROPERTY_MODE_SET_CACHED_TEMPLATES then s.processSetCachedTemplates (sentBy sends)
      else if commandId = PROPERTY_MODE_NOTIFY_COLLECTOR_READY then s.processNotifyExecutorReady (sentBy sends)
      else s.processCustomCommand (sentBy sends) := by
  unfold onSetProperty
  rw [sent_received sendable]
  simp only [mode,Option.bind_some]

-- A command read as one of the framework's own lacks what that one needs.
theorem message_reaches (s : FrameworkExecutorCallback) (commandId : Int32) (msg : Bytes)
    (fits : msg.length ≤ MAX_ATTR_LENGTH) :
    s.onSetProperty (serialize (sentBy [⟨.int32,ATTR_PROPERTY_MODE,commandId⟩,⟨.uint8Array,ATTR_EXTRA_INFO,msg⟩])) =
      if s.hasHdi ∧ commandId.toUInt32 ∉
          [PROPERTY_MODE_DEL,PROPERTY_MODE_SET_CACHED_TEMPLATES,PROPERTY_MODE_NOTIFY_COLLECTOR_READY] then
        some (.request 0 (.sendCommand commandId.toUInt32 msg))
      else none := by
  have distinct : [ATTR_PROPERTY_MODE,ATTR_EXTRA_INFO].Nodup := by decide
  have sendable : Attributes.Sendable [⟨.int32,ATTR_PROPERTY_MODE,commandId⟩,⟨.uint8Array,ATTR_EXTRA_INFO,msg⟩] :=
    pair_sendable distinct trivial trivial
  have mode := int32_as_uint32 sendable commandId List.mem_cons_self
  have held := sent_get sendable .uint8Array msg (.tail _ (.head _)) fits trivial
  have others : ∀ (type : ValueType) (key : AttributeKey), key ∉ [ATTR_PROPERTY_MODE,ATTR_EXTRA_INFO] →
      getValue type (sentBy [⟨.int32,ATTR_PROPERTY_MODE,commandId⟩,⟨.uint8Array,ATTR_EXTRA_INFO,msg⟩]) key = none := by
    intro type key absent
    apply sent_get_absent sendable
    intro call member same
    exact absent (same ▸ List.mem_map_of_mem (f:=Call.key) member)
  rw [set_property s sendable mode]
  split
  · rename_i own
    have noTemplate := others .uint64 ATTR_TEMPLATE_ID (by decide)
    simp only [getValue] at noTemplate
    simp [processDeleteTemplateCommand,noTemplate,own]
  split
  · rename_i own
    have noTemplates := others .uint64Array ATTR_TEMPLATE_ID_LIST (by decide)
    simp only [getValue] at noTemplates
    simp [processSetCachedTemplates,noTemplates,own]
  split
  · rename_i own
    have noSchedule := others .uint64 ATTR_SCHEDULE_ID (by decide)
    simp only [getValue] at noSchedule
    simp [processNotifyExecutorReady,noSchedule,own]
  · rename_i notDelete notCached notReady
    rw [custom_request s sendable mode held]
    simp [notDelete,notCached,notReady]

theorem delete_reaches (s : FrameworkExecutorCallback) (templateId : UInt64) (changeReasonTrace : Bytes)
    (short : changeReasonTrace.length < MAX_ATTR_LENGTH) :
    s.onSetProperty (serialize (sentBy [⟨.uint32,ATTR_PROPERTY_MODE,PROPERTY_MODE_DEL⟩,⟨.uint64,ATTR_TEMPLATE_ID,templateId⟩,
      ⟨.string,ATTR_TEMPLATE_CHANGE_REASON,changeReasonTrace⟩])) = if s.hasHdi then some (.delete [templateId])
        else none := by
  have sendable := calls_sendable (.deleteTemplate templateId changeReasonTrace) short rfl
  have mode := sent_get sendable .uint32 PROPERTY_MODE_DEL (.head _) trivial trivial
  have template := sent_get sendable .uint64 templateId (.tail _ (.head _)) trivial trivial
  simp only [getValue] at mode template
  rw [set_property s sendable mode,if_pos rfl,processDeleteTemplateCommand,template]
  cases s.hasHdi <;> rfl

theorem cached_reaches (s : FrameworkExecutorCallback) (templateIds : List UInt64) :
    s.onSetProperty (serialize (sentBy [⟨.uint32,ATTR_PROPERTY_MODE,PROPERTY_MODE_SET_CACHED_TEMPLATES⟩,
      ⟨.uint64Array,ATTR_TEMPLATE_ID_LIST,templateIds⟩])) =
        if s.hasHdi ∧ templateIds.length * 8 ≤ MAX_ATTR_LENGTH then some (.setCachedTemplates templateIds) else none := by
  have sendable := calls_sendable (.cachedTemplates templateIds) trivial rfl
  have mode := sent_get sendable .uint32 PROPERTY_MODE_SET_CACHED_TEMPLATES (.head _) trivial trivial
  simp only [getValue] at mode
  rw [set_property s sendable mode,if_neg (by decide),if_pos rfl,processSetCachedTemplates]
  by_cases fits : templateIds.length * 8 ≤ MAX_ATTR_LENGTH
  · have templates := sent_get sendable .uint64Array templateIds (.tail _ (.head _)) fits trivial
    simp only [getValue] at templates
    rw [templates]
    cases s.hasHdi <;> simp [fits]
  · have refused : (setUint64ArrayValue ATTR_TEMPLATE_ID_LIST templateIds).dest = none := by
      rw [← Option.not_isSome_iff_eq_none]
      exact fun set => fits ((accepted_iff .uint64Array ATTR_TEMPLATE_ID_LIST templateIds).mp set)
    have absent := (sent_lookup sendable (.tail _ (.head _))).trans refused
    have nothing := getValue_absent .uint64Array absent
    simp only [getValue] at nothing
    rw [nothing]
    cases s.hasHdi <;> simp [fits]

theorem ready_reaches (s : FrameworkExecutorCallback) (scheduleId : UInt64) :
    s.onSetProperty (serialize (sentBy [⟨.int32,ATTR_PROPERTY_MODE,PROPERTY_MODE_NOTIFY_COLLECTOR_READY.toInt32⟩,
      ⟨.uint64,ATTR_SCHEDULE_ID,scheduleId⟩])) = if s.hasHdi then some (.notifyCollectorReady scheduleId) else none := by
  have sendable := calls_sendable (.collectorReady scheduleId) trivial rfl
  have mode := int32_as_uint32 sendable PROPERTY_MODE_NOTIFY_COLLECTOR_READY.toInt32 List.mem_cons_self
  have schedule := sent_get sendable .uint64 scheduleId (.tail _ (.head _)) trivial trivial
  simp only [getValue] at schedule
  rw [set_property s sendable mode,if_neg (by decide),if_neg (by decide),if_pos (by decide),processNotifyExecutorReady,schedule]
  cases s.hasHdi <;> rfl

theorem riskEvent_reaches (s : FrameworkExecutorCallback) (extraInfo : Bytes)
    (fits : extraInfo.length ≤ MAX_ATTR_LENGTH) :
    s.onSetProperty (serialize (sentBy [⟨.uint32,ATTR_PROPERTY_MODE,PROPERTY_MODE_RISK_EVENT⟩,
      ⟨.uint8Array,ATTR_EXTRA_INFO,extraInfo⟩])) =
        if s.hasHdi then some (.request 0 (.sendCommand PROPERTY_MODE_RISK_EVENT extraInfo)) else none := by
  have distinct : [ATTR_PROPERTY_MODE,ATTR_EXTRA_INFO].Nodup := by decide
  have sendable : Attributes.Sendable [⟨.uint32,ATTR_PROPERTY_MODE,PROPERTY_MODE_RISK_EVENT⟩,
      ⟨.uint8Array,ATTR_EXTRA_INFO,extraInfo⟩] := pair_sendable distinct trivial trivial
  have mode := sent_get sendable .uint32 PROPERTY_MODE_RISK_EVENT (.head _) trivial trivial
  have held := sent_get sendable .uint8Array extraInfo (.tail _ (.head _)) fits trivial
  rw [set_property s sendable mode,if_neg (by decide),if_neg (by decide),if_neg (by decide),
    custom_request s sendable mode held]

theorem risk_wanted (s : FrameworkExecutorCallback) (authType : AuthType) (templateIds : List UInt64) :
    ((riskEvent authType templateIds).properties.bind fun properties => s.onSetProperty (serialize properties)) =
      if s.hasHdi then (riskEvent authType templateIds).wanted else none := by
  simp only [properties,calls,wanted]
  cases made : strongAuthExtraInfo authType templateIds with
  | none => simp
  | some extraInfo =>
    by_cases long : extraInfo.length > MAX_ATTR_LENGTH
    · have unfit : ¬extraInfo.length ≤ MAX_ATTR_LENGTH := Nat.not_le.mpr long
      simp [long,unfit]
    · have fits : extraInfo.length ≤ MAX_ATTR_LENGTH := Nat.not_lt.mp long
      rw [Option.bind_some,if_neg long,Option.map_some,Option.bind_some,riskEvent_reaches s extraInfo fits]
      simp [fits]

-- Each property gives its driver the call that it wants, or none, and no other.
theorem property_reaches_driver (s : FrameworkExecutorCallback) (property : ExecutorProperty)
    (sendable : property.Sendable) :
    (property.properties.bind fun properties => s.onSetProperty (serialize properties)) =
      if s.hasHdi then property.wanted else none := by
  unfold properties
  cases property with
  | deleteTemplate templateId changeReasonTrace => exact delete_reaches s templateId changeReasonTrace sendable
  | cachedTemplates templateIds =>
    refine (cached_reaches s templateIds).trans ?_
    simp only [wanted]
    cases s.hasHdi <;> simp
  | collectorReady scheduleId => exact ready_reaches s scheduleId
  | message commandId msg =>
    simp only [calls,wanted]
    by_cases long : msg.length > MAX_ATTR_LENGTH
    · have unfit : ¬msg.length ≤ MAX_ATTR_LENGTH := Nat.not_le.mpr long
      simp [long,unfit]
    · have fits : msg.length ≤ MAX_ATTR_LENGTH := Nat.not_lt.mp long
      rw [if_neg long,Option.map_some,Option.bind_some,message_reaches s commandId msg fits]
      cases s.hasHdi <;> simp [fits]
  | riskEvent authType templateIds => exact risk_wanted s authType templateIds

theorem property_reaches_driver_delete :
    ((ExecutorProperty.deleteTemplate 11 [68]).properties.bind fun properties =>
      (⟨some ⟨ExecutorRole.ALL_IN_ONE,true⟩,true⟩ : FrameworkExecutorCallback).onSetProperty (serialize properties)) =
        some (.delete [11]) :=
  property_reaches_driver _ (.deleteTemplate 11 [68]) (by decide : 1 < MAX_ATTR_LENGTH)

end ExecutorProperty
end UserAuth
