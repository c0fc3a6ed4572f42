import UserAuth.Common.AttributeWire
import UserAuth.Framework.AsyncCommand
import UserAuth.Widget.AuthWidgetHelper

namespace UserAuth

namespace Attributes
def ATTR_TEMPLATE_ID : AttributeKey := 100006
def ATTR_SCHEDULE_MODE : AttributeKey := 100022
def ATTR_ENROLL_PROGRESS : AttributeKey := 100035
def ATTR_SRC_ROLE : AttributeKey := 100042
def ATTR_TEMPLATE_CHANGE_REASON : AttributeKey := 100049
def ATTR_CREDENTIAL_LENGTH : AttributeKey := 100092
end Attributes

-- Modes of a cast int32, so others occur.
abbrev ScheduleMode := Int32
namespace ScheduleMode
def ENROLL : ScheduleMode := 0
def AUTH : ScheduleMode := 1
def IDENTIFY : ScheduleMode := 2
def ABANDON : ScheduleMode := 4
end ScheduleMode

def PROPERTY_MODE_DEL : UInt32 := 2
def PROPERTY_MODE_SET_CACHED_TEMPLATES : UInt32 := 7
def PROPERTY_MODE_NOTIFY_COLLECTOR_READY : UInt32 := 8
def PROPERTY_MODE_RISK_EVENT : UInt32 := 9

-- What a driver answers a property query with.
structure Property where
  authSubType : UInt64 := 0
  lockoutDuration : Int32 := 0
  remainAttempts : Int32 := 0
  enrollmentProgress : Bytes := []
  sensorInfo : Bytes := []
  nextFailLockoutDuration : Int32 := 0
  credentialLength : UInt32 := 0
  cameraStatus : UInt32 := 0

-- What the executor framework asks of its driver.
inductive DriverCall where
  | request (scheduleId : UInt64) (request : HdiRequest)
  | sendMessage (scheduleId : UInt64) (srcRole : Int32) (msg : Bytes)
  | delete (templateIdList : List UInt64)
  | setCachedTemplates (templateIdList : List UInt64)
  | notifyCollectorReady (scheduleId : UInt64)

-- The Executor of a callback, while there is one, and whether it has its driver.
structure CallbackExecutor where
  executorRole : ExecutorRole
  executorHdi : Bool

structure FrameworkExecutorCallback where
  executor : Option CallbackExecutor
  executorMessenger : Bool

namespace FrameworkExecutorCallback
open Attributes
variable (s : FrameworkExecutorCallback)

-- The executor is not released and its driver is connected.
def hasHdi : Bool := s.executor.any (·.executorHdi)

-- A command keeps its own copy of the attributes.
def command (type : ScheduleCommand) (scheduleId : UInt64) (commandAttrs : Attributes) : AsyncCommand :=
  .schedule type scheduleId (some (ofRaw (serialize commandAttrs))) s.executorMessenger

def processAuthCommand (scheduleId : UInt64) (properties : Attributes) : Option AsyncCommand :=
  s.executor.map fun executor =>
    if executor.executorRole = ExecutorRole.COLLECTOR then s.command .collect scheduleId properties
    else s.command .auth scheduleId properties

-- The command that a begin starts. With none it returns GENERAL_ERROR.
def onBeginExecuteInner (scheduleId : UInt64) (commandAttrs : Attributes) : Option AsyncCommand :=
  (commandAttrs.getInt32Value ATTR_SCHEDULE_MODE).bind fun commandId =>
    if commandId = ScheduleMode.ENROLL then some (s.command .enroll scheduleId commandAttrs)
    else if commandId = ScheduleMode.AUTH then s.processAuthCommand scheduleId commandAttrs
    else if commandId = ScheduleMode.IDENTIFY then some (s.command .identify scheduleId commandAttrs)
    else if commandId = ScheduleMode.ABANDON then some (s.command .abandon scheduleId commandAttrs)
    else none

-- StartProcess up to the request. The driver's answer is the caller's.
def startProcess (command : AsyncCommand) : Option HdiRequest := if !s.hasHdi then none else command.hdiRequest

def onBeginExecute (scheduleId : UInt64) (command : Bytes) : Option DriverCall :=
  ((s.onBeginExecuteInner scheduleId (ofRaw command)).bind s.startProcess).map (.request scheduleId)

def onSendData (scheduleId : UInt64) (extraInfo : Bytes) : Option DriverCall := do
  let data := ofRaw extraInfo
  let srcRole ← data.getInt32Value ATTR_SRC_ROLE
  let msg ← data.getUint8ArrayValue ATTR_EXTRA_INFO
  if !s.hasHdi then none else some (.sendMessage scheduleId srcRole msg)

def processDeleteTemplateCommand (properties : Attributes) : Option DriverCall :=
  if !s.hasHdi then none else (properties.getUint64Value ATTR_TEMPLATE_ID).map fun templateId => .delete [templateId]

def processSetCachedTemplates (properties : Attributes) : Option DriverCall :=
  if !s.hasHdi then none else (properties.getUint64ArrayValue ATTR_TEMPLATE_ID_LIST).map .setCachedTemplates

def processNotifyExecutorReady (properties : Attributes) : Option DriverCall :=
  if !s.hasHdi then none else (properties.getUint64Value ATTR_SCHEDULE_ID).map .notifyCollectorReady

def processCustomCommand (properties : Attributes) : Option DriverCall :=
  (s.startProcess (.custom (some (ofRaw (serialize properties))))).map (.request 0)

def onSetProperty (properties : Bytes) : Option DriverCall :=
  let properties := ofRaw properties
  (properties.getUint32Value ATTR_PROPERTY_MODE).bind fun commandId =>
    if commandId = PROPERTY_MODE_DEL then s.processDeleteTemplateCommand properties
    else if commandId = PROPERTY_MODE_SET_CACHED_TEMPLATES then s.processSetCachedTemplates properties
    else if commandId = PROPERTY_MODE_NOTIFY_COLLECTOR_READY then s.processNotifyExecutorReady properties
    else s.processCustomCommand properties

-- What one key has filled in: nothing, for an empty credential length. A key that
-- is not recognized has no filler.
def propertyFillers (property : Property) (key : AttributeKey) : Option (List Setter) :=
  if key = ATTR_PIN_SUB_TYPE then some [setInt32Value key property.authSubType.toUInt32.toInt32]
  else if key = ATTR_FREEZING_TIME then some [setInt32Value key property.lockoutDuration]
  else if key = ATTR_REMAIN_TIMES then some [setInt32Value key property.remainAttempts]
  else if key = ATTR_ENROLL_PROGRESS then some [setStringBytes key property.enrollmentProgress]
  else if key = ATTR_SENSOR_INFO then some [setStringBytes key property.sensorInfo]
  else if key = ATTR_NEXT_FAIL_LOCKOUT_DURATION then some [setInt32Value key property.nextFailLockoutDuration]
  else if key = ATTR_CREDENTIAL_LENGTH then
    if property.credentialLength = 0 then some [] else some [setUint32Value key property.credentialLength]
  else if key = ATTR_CAMERA_STATUS then some [setUint32Value key property.cameraStatus]
  else none

def fillPropertyToAttribute (property : Property) : List AttributeKey → Attributes → Option Attributes
  | [],values => some values
  | key :: rest,values => do
    let setters ← propertyFillers property key
    let filled := values.setAll setters
    if !filled.2 then none else fillPropertyToAttribute property rest filled.1

-- `getProperty` is the driver's answer, of a code or a property.
def processGetPropertyCommand (getProperty : List UInt64 → List AttributeKey → Option Property)
    (conditions values : Attributes) : Option Attributes := do
  if !s.hasHdi then none
  else
    let templateIdList ← conditions.getUint64ArrayValue ATTR_TEMPLATE_ID_LIST
    let keyList ← conditions.getUint32ArrayValue ATTR_KEY_LIST
    let property ← getProperty templateIdList keyList
    fillPropertyToAttribute property keyList values

def onGetProperty (getProperty : List UInt64 → List AttributeKey → Option Property) (conditions : Bytes) :
    Option Bytes := do
  let conditions := ofRaw (serialize (ofRaw conditions))
  let commandId ← conditions.getUint32Value ATTR_PROPERTY_MODE
  if commandId ≠ PROPERTY_MODE_GET then none
  else (s.processGetPropertyCommand getProperty conditions empty).map serialize

end FrameworkExecutorCallback
end UserAuth
