import UserAuth.Lib.Mealy
import UserAuth.Widget.WidgetScheduleNode

namespace UserAuth
open Std WidgetContext WidgetSession

-- The calls that the client makes on a schedule.
inductive NodeCall where
  | call (call : ScheduleCall)
  | widgetParaInvalid
  | widgetReload (orientation needRotate alreadyLoad : UInt32) (rotateAuthType : AuthType)
  | onWidgetTip (authTypeList : List AuthType) (tipCode : Int32)
  | onWidgetResult (resultCode : ResultCode) (authType : AuthType) (token : Bytes)
  deriving DecidableEq

-- `known`: the event's text is that of a NoticeEvent.
structure ClientNotice extends WidgetNotice where
  widgetContextId : UInt64 := 0
  known : Bool := true
  authTypeList : List AuthType := []

def WIDGET_NOTICE : Int32 := 1

-- Schedules are objects. The map keeps the first one that comes under an id.
structure WidgetClient where
  widgetContextId : UInt64 := 0
  schedule : Option Nat := none
  scheduleMap : ExtTreeMap UInt64 Nat := ∅
  authTypeList : List AuthType := []
  loadedAuthTypeList : List AuthType := []

-- A session registers its types and its schedule in two steps.
inductive ClientInput where
  | setAuthTypeList (contextId : UInt64) (authTypeList : List AuthType)
  | setWidgetSchedule (contextId : UInt64) (schedule : Option Nat)
  | clearSchedule (contextId : UInt64)
  | onNotice (type : Int32) (eventData : Option ClientNotice)

def ClientInput.concerns (contextId : UInt64) : ClientInput → Bool
  | .setAuthTypeList id _ => id == contextId
  | .setWidgetSchedule id _ => id == contextId
  | .clearSchedule id => id == contextId
  | .onNotice _ eventData => eventData.any (·.widgetContextId == contextId)

namespace WidgetClient

abbrev Calls := List (Nat × NodeCall)

def setAuthTypeList (client : WidgetClient) (authTypeList : List AuthType) : WidgetClient := {client with authTypeList}

def setWidgetSchedule (client : WidgetClient) (contextId : UInt64) : Option Nat → WidgetClient
  | none => client
  | some schedule => {client with
    widgetContextId:=contextId,schedule:=some schedule,scheduleMap:=client.scheduleMap.insertIfNew contextId schedule}

def reset (client : WidgetClient) : WidgetClient := {client with widgetContextId:=0,schedule:=none}

def clearSchedule (client : WidgetClient) (contextId : UInt64) : WidgetClient × Calls :=
  match client.scheduleMap[contextId]? with
  | none => (client,[])
  | some schedule =>
    if contextId = client.widgetContextId then
      ({client.reset with loadedAuthTypeList:=[],scheduleMap:=client.scheduleMap.erase contextId},
        (if client.loadedAuthTypeList.isEmpty then []
          else [(schedule,.onWidgetTip client.loadedAuthTypeList TIP_CODE_WIDGET_RELEASED)]) ++
          [(schedule,.call .stopSchedule),(schedule,.call .clearSchedule)])
    else ({client with scheduleMap:=client.scheduleMap.erase contextId},
      [(schedule,.call .stopSchedule),(schedule,.call .clearSchedule)])

def getAuthTypeList (client : WidgetClient) (notice : ClientNotice) : Option (List AuthType) :=
  if client.authTypeList.isEmpty then none
  else if notice.authTypeList.isEmpty then none
  else if notice.authTypeList = [AuthType.ALL] then
    if notice.event ≠ .NOTICE_EVENT_CANCEL_AUTH ∧ notice.event ≠ .NOTICE_EVENT_PROCESS_TERMINATE then none
    else some [AuthType.ALL]
  else if notice.authTypeList.length = client.authTypeList.length ∧ notice.event = .NOTICE_EVENT_CANCEL_AUTH then
    some [AuthType.ALL]
  else some notice.authTypeList

def processNotice (client : WidgetClient) (notice : ClientNotice) (authTypeList : List AuthType) :
    WidgetClient × Calls :=
  match client.scheduleMap[notice.widgetContextId]? with
  | none => (client,[])
  | some schedule =>
    match notice.event with
    | .NOTICE_EVENT_AUTH_READY =>
      (client,[(schedule,.call (.startAuthList authTypeList notice.endAfterFirstFail notice.authIntent))])
    | .NOTICE_EVENT_CANCEL_AUTH =>
      (client,[(schedule,.call (if authTypeList = [AuthType.ALL] then .stopSchedule else .stopAuthList authTypeList))])
    | .NOTICE_EVENT_USER_NAVIGATION => (client,[(schedule,.call .naviPinAuth)])
    | .NOTICE_EVENT_WIDGET_PARA_INVALID => (client,[(schedule,.widgetParaInvalid)])
    | .NOTICE_EVENT_END => (client,[(schedule,.call (.stopAuthList authTypeList))])
    | .NOTICE_EVENT_RELOAD =>
      (client,[(schedule,match authTypeList with
        | [authType] =>
          if authType = AuthType.ALL then .widgetParaInvalid
          else .widgetReload notice.orientation notice.needRotate notice.alreadyLoad authType
        | _ => .widgetParaInvalid)])
    | .NOTICE_EVENT_AUTH_WIDGET_LOADED =>
      if notice.widgetContextId ≠ client.widgetContextId then (client,[])
      else ({client with loadedAuthTypeList:=authTypeList},
        [(schedule,.onWidgetTip authTypeList TIP_CODE_WIDGET_LOADED)])
    | .NOTICE_EVENT_AUTH_WIDGET_RELEASED =>
      (if notice.widgetContextId ≠ client.widgetContextId then client else {client with loadedAuthTypeList:=[]},
        [(schedule,.onWidgetTip authTypeList TIP_CODE_WIDGET_RELEASED)])
    | .NOTICE_EVENT_PROCESS_TERMINATE => client.clearSchedule notice.widgetContextId
    | .NOTICE_EVENT_AUTH_SEND_TIP => (client,[(schedule,.onWidgetTip authTypeList notice.tipCode)])
    | .NOTICE_EVENT_COMPLETE_AUTH =>
      (client,match authTypeList with
        | [] => []
        | authType :: _ => [(schedule,.onWidgetResult notice.resultCode authType notice.authToken)])

-- `eventData` is the parsed notice, nothing where the text is empty or no notice.
def onNotice (client : WidgetClient) (type : Int32) (eventData : Option ClientNotice) :
    WidgetClient × ResultCode × Calls :=
  if type ≠ WIDGET_NOTICE then (client,ResultCode.INVALID_PARAMETERS,[])
  else match eventData with
    | none => (client,ResultCode.INVALID_PARAMETERS,[])
    | some notice =>
      if notice.widgetContextId = 0 then (client,ResultCode.INVALID_PARAMETERS,[])
      else if !notice.known then (client,ResultCode.INVALID_PARAMETERS,[])
      else if client.schedule.isNone then (client,ResultCode.GENERAL_ERROR,[])
      else match client.getAuthTypeList notice with
        | none => (client,ResultCode.INVALID_PARAMETERS,[])
        | some authTypeList =>
          let processed := client.processNotice notice authTypeList
          (processed.1,ResultCode.SUCCESS,processed.2)

-- What a notice came back with, and the calls on schedules.
structure Handled where
  resultCode : Option ResultCode
  calls : Calls
  deriving DecidableEq

def step (client : WidgetClient) : ClientInput → WidgetClient × List Handled
  | .setAuthTypeList _ authTypeList => (client.setAuthTypeList authTypeList,[])
  | .setWidgetSchedule contextId schedule => (client.setWidgetSchedule contextId schedule,[])
  | .clearSchedule contextId =>
    let cleared := client.clearSchedule contextId
    (cleared.1,[⟨none,cleared.2⟩])
  | .onNotice type eventData =>
    let handled := client.onNotice type eventData
    (handled.1,[⟨some handled.2.1,handled.2.2⟩])

def machine : Mealy WidgetClient ClientInput Handled := ⟨step⟩

-- What clearing the session tells its schedule to release.
def releasing (client : WidgetClient) (contextId : UInt64) : List AuthType :=
  if contextId = client.widgetContextId then client.loadedAuthTypeList else []

def released (schedule : Nat) (authTypeList : List AuthType) : Calls :=
  if authTypeList.isEmpty then [] else [(schedule,.onWidgetTip authTypeList TIP_CODE_WIDGET_RELEASED)]

-- The checks that look at the notice alone.
def Admits (type : Int32) (notice : ClientNotice) : Prop :=
  type = WIDGET_NOTICE ∧ notice.widgetContextId ≠ 0 ∧ notice.known = true

section Handling
variable {client alone : WidgetClient} {notice : ClientNotice} {contextId : UInt64} {type : Int32} {node : Nat}
  {types : List AuthType}

theorem clearSchedule_calls (client : WidgetClient) (contextId : UInt64) :
    (client.clearSchedule contextId).2 = match client.scheduleMap[contextId]? with
      | none => []
      | some schedule => released schedule (client.releasing contextId) ++
        [(schedule,.call .stopSchedule),(schedule,.call .clearSchedule)] := by
  unfold clearSchedule releasing
  cases client.scheduleMap[contextId]? with
  | none => rfl
  | some schedule =>
    dsimp only
    split <;> rfl

theorem clearSchedule_own (client : WidgetClient) (contextId : UInt64) :
    (client.clearSchedule contextId).1.scheduleMap[contextId]? = none := by
  unfold clearSchedule
  cases found : client.scheduleMap[contextId]? with
  | none => exact found
  | some schedule =>
    dsimp only
    split <;> exact ExtTreeMap.getElem?_erase_self

theorem clearSchedule_other (client : WidgetClient) (other : cleared ≠ contextId) :
    (client.clearSchedule cleared).1.scheduleMap[contextId]? = client.scheduleMap[contextId]? := by
  unfold clearSchedule
  cases client.scheduleMap[cleared]? with
  | none => rfl
  | some schedule =>
    have kept : (client.scheduleMap.erase cleared)[contextId]? = client.scheduleMap[contextId]? := by
      rw [ExtTreeMap.getElem?_erase,if_neg fun same => other (Std.compare_eq_iff_eq.mp same)]
    dsimp only
    split <;> exact kept

theorem setWidgetSchedule_own (same : client.scheduleMap[contextId]? = alone.scheduleMap[contextId]?)
    (schedule : Option Nat) :
    (client.setWidgetSchedule contextId schedule).scheduleMap[contextId]? =
      (alone.setWidgetSchedule contextId schedule).scheduleMap[contextId]? := by
  cases schedule with
  | none => exact same
  | some schedule =>
    have member : contextId ∈ client.scheduleMap ↔ contextId ∈ alone.scheduleMap := by
      rw [← ExtTreeMap.isSome_getElem?_iff_mem,← ExtTreeMap.isSome_getElem?_iff_mem,same]
    simp only [setWidgetSchedule,ExtTreeMap.getElem?_insertIfNew,member,same]

theorem setWidgetSchedule_other (client : WidgetClient) (other : registered ≠ contextId) (schedule : Option Nat) :
    (client.setWidgetSchedule registered schedule).scheduleMap[contextId]? = client.scheduleMap[contextId]? := by
  cases schedule with
  | none => rfl
  | some schedule =>
    simp only [setWidgetSchedule]
    rw [ExtTreeMap.getElem?_insertIfNew,if_neg fun same => other (Std.compare_eq_iff_eq.mp same.1)]

theorem processNotice_other (client : WidgetClient) (other : notice.widgetContextId ≠ contextId)
    (authTypeList : List AuthType) :
    (client.processNotice notice authTypeList).1.scheduleMap[contextId]? = client.scheduleMap[contextId]? := by
  unfold processNotice
  cases client.scheduleMap[notice.widgetContextId]? with
  | none => rfl
  | some schedule =>
    cases event : notice.event with
    | NOTICE_EVENT_PROCESS_TERMINATE => exact clearSchedule_other client other
    | NOTICE_EVENT_AUTH_WIDGET_LOADED =>
      dsimp only
      split <;> rfl
    | NOTICE_EVENT_AUTH_WIDGET_RELEASED =>
      dsimp only
      split <;> rfl
    | _ => rfl

def clears (calls : Calls) : Bool := calls.any fun call => call.2 == .call .clearSchedule

-- A session leaves the map when its schedule is cleared, and not before.
theorem processNotice_own (client : WidgetClient) (notice : ClientNotice) (types : List AuthType) :
    (client.processNotice notice types).1.scheduleMap[notice.widgetContextId]? =
      if clears (client.processNotice notice types).2 then none
      else client.scheduleMap[notice.widgetContextId]? := by
  unfold processNotice
  cases found : client.scheduleMap[notice.widgetContextId]? with
  | none =>
    rw [ite_self]
    exact found
  | some node =>
    cases event : notice.event with
    | NOTICE_EVENT_PROCESS_TERMINATE =>
      dsimp only
      rw [clearSchedule_calls,found,if_pos (by simp [clears])]
      exact clearSchedule_own client notice.widgetContextId
    | NOTICE_EVENT_AUTH_WIDGET_LOADED =>
      dsimp only
      split <;> exact found
    | NOTICE_EVENT_AUTH_WIDGET_RELEASED =>
      dsimp only
      split <;> exact found
    | NOTICE_EVENT_CANCEL_AUTH =>
      dsimp only
      split <;> exact found
    | NOTICE_EVENT_RELOAD =>
      dsimp only
      split
      · split <;> exact found
      · exact found
    | NOTICE_EVENT_COMPLETE_AUTH => cases types <;> exact found
    | _ => exact found

theorem onNotice_refused (client : WidgetClient) (refused : ¬Admits type notice) :
    client.onNotice type (some notice) = (client,ResultCode.INVALID_PARAMETERS,[]) := by
  unfold onNotice
  split
  · rfl
  · rename_i typed
    dsimp only
    split
    · rfl
    · rename_i named
      split
      · rfl
      · rename_i known
        exact absurd ⟨not_not.mp typed,named,by simpa using known⟩ refused

theorem onNotice_admitted (client : WidgetClient) (admits : Admits type notice) :
    client.onNotice type (some notice) =
      if client.schedule.isNone then (client,ResultCode.GENERAL_ERROR,[])
      else match client.getAuthTypeList notice with
        | none => (client,ResultCode.INVALID_PARAMETERS,[])
        | some authTypeList => ((client.processNotice notice authTypeList).1,ResultCode.SUCCESS,
          (client.processNotice notice authTypeList).2) := by
  obtain ⟨typed,named,known⟩ := admits
  unfold onNotice
  rw [if_neg (not_not.mpr typed)]
  dsimp only
  rw [if_neg named,if_neg (by simp [known])]

-- Every call goes to the schedule registered under the notice's id.
theorem processNotice_calls (client : WidgetClient) (notice : ClientNotice) (authTypeList : List AuthType) :
    ∀ call ∈ (client.processNotice notice authTypeList).2,
      client.scheduleMap[notice.widgetContextId]? = some call.1 := by
  unfold processNotice
  cases found : client.scheduleMap[notice.widgetContextId]? with
  | none => simp
  | some schedule =>
    cases event : notice.event with
    | NOTICE_EVENT_PROCESS_TERMINATE =>
      simp only [clearSchedule_calls,found,released]
      split <;> simp
    | NOTICE_EVENT_AUTH_WIDGET_LOADED =>
      dsimp only
      split <;> simp
    | NOTICE_EVENT_COMPLETE_AUTH => cases authTypeList <;> simp
    | _ => simp

theorem onNotice_calls (client : WidgetClient) (type : Int32) (notice : ClientNotice) :
    ∀ call ∈ (client.onNotice type (some notice)).2.2,
      client.scheduleMap[notice.widgetContextId]? = some call.1 := by
  by_cases admits : Admits type notice
  · rw [onNotice_admitted client admits]
    split
    · simp
    · split
      · simp
      · exact processNotice_calls client notice _
  · rw [onNotice_refused client admits]
    simp

theorem onNotice_own (client : WidgetClient) (type : Int32) (notice : ClientNotice) :
    (client.onNotice type (some notice)).1.scheduleMap[notice.widgetContextId]? =
      if clears (client.onNotice type (some notice)).2.2 then none
      else client.scheduleMap[notice.widgetContextId]? := by
  by_cases admits : Admits type notice
  · rw [onNotice_admitted client admits]
    split
    · rfl
    · split
      · rfl
      · exact processNotice_own client notice _
  · rw [onNotice_refused client admits]
    rfl

theorem onNotice_other (client : WidgetClient) (type : Int32) (other : notice.widgetContextId ≠ contextId) :
    (client.onNotice type (some notice)).1.scheduleMap[contextId]? = client.scheduleMap[contextId]? := by
  by_cases admits : Admits type notice
  · rw [onNotice_admitted client admits]
    split
    · rfl
    · split
      · rfl
      · exact processNotice_other client other _
  · rw [onNotice_refused client admits]

end Handling

-- A session takes the calls on its node one after the other.
def perform (owner : Owner) : NodeCall → Ran
  | .call call => kicked (kick owner call)
  | .widgetParaInvalid => (owner,[.E_WIDGET_PARA_INVALID],[])
  | .widgetReload orientation needRotate alreadyLoad rotateAuthType =>
    kicked (widgetReload owner orientation needRotate alreadyLoad rotateAuthType)
  | .onWidgetTip authTypeList tipCode => (owner,[],WidgetSession.onWidgetTip authTypeList tipCode)
  | .onWidgetResult resultCode authType token =>
    kicked (WidgetSession.onWidgetResult owner resultCode authType token)

def performAll (owner : Owner) : List NodeCall → Ran
  | [] => (owner,[],[])
  | call :: rest =>
    let first := perform owner call
    let later := performAll first.1 rest
    (later.1,first.2.1 ++ later.2.1,first.2.2 ++ later.2.2)

-- What the single session's model keeps about the client.
def entry (client : WidgetClient) (contextId : UInt64) : WidgetClientEntry :=
  ⟨client.scheduleMap.contains contextId,contextId == client.widgetContextId,client.loadedAuthTypeList⟩

-- The session after the client's calls on its node, and the client's new entry for it.
def performed (owner : Owner) (contextId : UInt64) (handled : WidgetClient × Calls) : Ran :=
  let ran := performAll owner (handled.2.map Prod.snd)
  ({ran.1 with client:=handled.1.entry contextId},ran.2.1,ran.2.2)

theorem contains_found {client : WidgetClient} (found : client.scheduleMap[contextId]? = some node) :
    client.scheduleMap.contains contextId = true := by
  rw [ExtTreeMap.contains_eq_isSome_getElem?,found]
  rfl

theorem contains_missing {client : WidgetClient} (missing : client.scheduleMap[contextId]? = none) :
    client.scheduleMap.contains contextId = false := by
  rw [ExtTreeMap.contains_eq_isSome_getElem?,missing]
  rfl

-- The single session's client is this one, seen from the session's own id.
theorem session_clearSchedule (client : WidgetClient) (named : contextId ≠ 0) (owner : Owner)
    (kept : owner.client = client.entry contextId) :
    WidgetSession.clearSchedule owner = performed owner contextId (client.clearSchedule contextId) := by
  obtain ⟨context,node,_⟩ := owner
  cases kept
  unfold WidgetSession.clearSchedule WidgetClient.clearSchedule
  cases found : client.scheduleMap[contextId]? with
  | none =>
    have missing := contains_missing found
    simp [entry,missing,performed,performAll]
  | some schedule =>
    have present := contains_found found
    by_cases current : contextId = client.widgetContextId
    · subst current
      have apart : (client.widgetContextId == 0) = false := beq_eq_false_iff_ne.mpr named
      cases loaded : client.loadedAuthTypeList with
      | nil => simp [entry,present,apart,loaded,performed,performAll,perform,kick,kicked,reset,onWidgetTip]
      | cons => simp [entry,present,apart,loaded,performed,performAll,perform,kick,kicked,reset,onWidgetTip]
    · simp [entry,present,current,performed,performAll,perform,kick,kicked]

theorem session_setWidgetSchedule (client : WidgetClient) (schedule : Nat) (owner : Owner)
    (kept : owner.client = client.entry contextId) :
    (WidgetSession.setWidgetSchedule owner).client =
      (client.setWidgetSchedule contextId (some schedule)).entry contextId := by
  obtain ⟨context,node,_⟩ := owner
  cases kept
  have present : (client.scheduleMap.insertIfNew contextId schedule).contains contextId = true :=
    ExtTreeMap.contains_insertIfNew_self
  simp [WidgetSession.setWidgetSchedule,setWidgetSchedule,entry,present]

theorem entry_registered (client : WidgetClient) (other : registered ≠ contextId) (schedule : Nat) :
    (client.setWidgetSchedule registered (some schedule)).entry contextId =
      {client.entry contextId with current:=false} := by
  have missing : compare registered contextId ≠ .eq := fun same => other (Std.compare_eq_iff_eq.mp same)
  simp [setWidgetSchedule,entry,ExtTreeMap.contains_insertIfNew,missing,Ne.symm other]

-- Where another session is cleared, its loaded list goes with it.
theorem entry_cleared (client : WidgetClient) (other : cleared ≠ contextId) (named : contextId ≠ 0) :
    (client.clearSchedule cleared).1.entry contextId = client.entry contextId ∨
      (client.clearSchedule cleared).1.entry contextId =
        {client.entry contextId with current:=false,loadedAuthTypeList:=[]} := by
  have kept : (client.scheduleMap.erase cleared).contains contextId = client.scheduleMap.contains contextId := by
    rw [ExtTreeMap.contains_erase]
    simp [other]
  unfold clearSchedule
  cases client.scheduleMap[cleared]? with
  | none => exact .inl rfl
  | some schedule =>
    dsimp only
    split
    · right
      simp [entry,reset,kept,named]
    · left
      simp [entry,kept]

theorem session_processNotice (client : WidgetClient) (notice : ClientNotice) (named : notice.widgetContextId ≠ 0)
    (owner : Owner) (kept : owner.client = client.entry notice.widgetContextId) (types : List AuthType) :
    WidgetSession.processNotice owner notice.toWidgetNotice types =
      performed owner notice.widgetContextId (client.processNotice notice types) := by
  have clears := session_clearSchedule client named owner kept
  obtain ⟨context,node,_⟩ := owner
  cases kept
  unfold WidgetSession.processNotice WidgetClient.processNotice
  cases found : client.scheduleMap[notice.widgetContextId]? with
  | none =>
    have missing := contains_missing found
    simp [entry,missing,performed,performAll]
  | some schedule =>
    have present := contains_found found
    have scheduled : ¬(!client.scheduleMap.contains notice.widgetContextId) = true := by
      rw [present]
      exact Bool.false_ne_true
    dsimp only
    rw [if_neg scheduled]
    cases event : notice.event with
    | NOTICE_EVENT_PROCESS_TERMINATE => exact clears
    | NOTICE_EVENT_CANCEL_AUTH =>
      by_cases all : types = [AuthType.ALL] <;> simp [all,entry,performed,performAll,perform,kick,kicked]
    | NOTICE_EVENT_RELOAD =>
      cases types with
      | nil => simp [entry,performed,performAll,perform]
      | cons authType rest =>
        cases rest with
        | nil =>
          by_cases all : authType = AuthType.ALL <;>
            simp [all,entry,performed,performAll,perform,kicked,widgetReload]
        | cons => simp [entry,performed,performAll,perform]
    | NOTICE_EVENT_AUTH_WIDGET_LOADED =>
      by_cases current : notice.widgetContextId = client.widgetContextId <;>
        simp [widgetLoad,entry,present,current,performed,performAll,perform]
    | NOTICE_EVENT_AUTH_WIDGET_RELEASED =>
      by_cases current : notice.widgetContextId = client.widgetContextId <;>
        simp [widgetRelease,entry,present,current,performed,performAll,perform]
    | NOTICE_EVENT_COMPLETE_AUTH =>
      cases types <;> simp [entry,performed,performAll,perform,kicked,WidgetSession.onWidgetResult]
    | _ => simp [entry,performed,performAll,perform,kick,kicked]

end WidgetClient
end UserAuth
