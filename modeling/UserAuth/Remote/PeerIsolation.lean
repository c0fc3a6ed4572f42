import UserAuth.Remote.BeginExecute

namespace UserAuth
open Attributes RemoteConnectListenerManager RemoteAuthService RemoteExecutorStub Std

def Touch.Within (touch : Touch) : Prop := touch.origin = .connection touch.connectionName

namespace RemoteSystem
section Handlers
variable (s : RemoteSystem) (connectionName : Bytes) (scheduleId : UInt64)

-- The three things that a schedule id can name, each begun on the connection.
def OwnStub : Prop :=
  ∀ stub, s.scheduleId2executorStub[scheduleId]? = some stub → stub.connectionName = connectionName

def OwnExecutions (executorIndex : UInt64) : Prop :=
  (∀ (other : UInt64) stub, s.scheduleId2executorStub[other]? = some stub → stub.executorIndex = executorIndex →
    stub.remoteScheduleNode = some scheduleId → stub.connectionName = connectionName) ∧
  ∀ execution ∈ s.executions, execution.executorIndex = executorIndex → execution.scheduleId = scheduleId →
    execution.origin = .connection connectionName

def OwnSchedule : Prop :=
  ∀ node, s.selectScheduleNodeByScheduleId scheduleId = some node → node.origin = .connection connectionName

theorem service_within (request : Attributes) (answers : BeginAnswers) :
    (∀ touch ∈ (s.serviceMessage connectionName request answers).2, touch.Within) ↔
      ∀ msgType scheduleId, request.getInt32Value ATTR_MSG_TYPE = some msgType →
        request.getUint64Value ATTR_SCHEDULE_ID = some scheduleId → msgType = MessageType.END_EXECUTE →
          s.OwnStub connectionName scheduleId := by
  unfold serviceMessage
  cases typed : request.getInt32Value ATTR_MSG_TYPE with
  | none => simp
  | some msgType =>
    dsimp only
    by_cases begins : msgType = MessageType.BEGIN_EXECUTE
    · subst begins
      apply iff_of_true (by simp)
      intro other scheduleId same _ ends
      rw [←Option.some.inj same] at ends
      exact absurd ends (by decide)
    · rw [if_neg (by simpa using begins)]
      by_cases ends : msgType = MessageType.END_EXECUTE
      · rw [if_pos (by simpa using ends)]
        cases named : request.getUint64Value ATTR_SCHEDULE_ID with
        | none => simp
        | some scheduleId =>
          constructor
          · rintro within other _ _ same _ stub live
            cases same
            have touched := within ⟨connectionName,.ended,.connection stub.connectionName⟩ (by simp [live])
            exact Origin.connection.inj touched
          · intro own touch member
            simp only [Option.bind_some,List.mem_map,Option.mem_toList] at member
            obtain ⟨stub,live,rfl⟩ := member
            exact congrArg Origin.connection (own msgType scheduleId rfl rfl ends stub live)
      · rw [if_neg (by simpa using ends)]
        apply iff_of_true (by simp)
        intro other scheduleId same _ also
        rw [←Option.some.inj same] at also
        exact absurd also ends

theorem mem_executionsAt {executorIndex : UInt64} {origin : Origin} : origin ∈ s.executionsAt executorIndex scheduleId ↔
    (∃ (other : UInt64) (stub : RemoteExecutorStub), s.scheduleId2executorStub[other]? = some stub ∧
      stub.executorIndex = executorIndex ∧ stub.remoteScheduleNode = some scheduleId ∧
        .connection stub.connectionName = origin) ∨
    ∃ execution ∈ s.executions, execution.executorIndex = executorIndex ∧ execution.scheduleId = scheduleId ∧
      execution.origin = origin := by
  simp only [executionsAt,List.mem_append,List.mem_map,List.mem_filter,Bool.and_eq_true,beq_iff_eq,
    ExtTreeMap.mem_toList_iff_getElem?_eq_some,Prod.exists,and_assoc]
  refine or_congr_left ⟨?_,?_⟩
  · rintro ⟨stub,⟨other,_,live,rfl⟩,rest⟩
    exact ⟨other,_,live,rest⟩
  · rintro ⟨other,stub,live,rest⟩
    exact ⟨stub,⟨other,stub,live,rfl⟩,rest⟩

theorem stub_within (stub : RemoteExecutorStub) (request : Attributes) (answers : BeginAnswers) :
    (∀ touch ∈ (s.stubMessage stub connectionName request answers).2, touch.Within) ↔
      ∀ msgType scheduleId, request.getInt32Value ATTR_MSG_TYPE = some msgType →
        request.getUint64Value ATTR_SCHEDULE_ID = some scheduleId → msgType = MessageType.SEND_DATA_TO_EXECUTOR →
          answers.select stub.executorIndex = true → s.OwnExecutions connectionName scheduleId stub.executorIndex := by
  unfold stubMessage
  cases typed : request.getInt32Value ATTR_MSG_TYPE with
  | none => simp
  | some msgType =>
    cases named : request.getUint64Value ATTR_SCHEDULE_ID with
    | none => simp
    | some scheduleId =>
      dsimp only
      by_cases sends : msgType = MessageType.SEND_DATA_TO_EXECUTOR ∧ answers.select stub.executorIndex = true
      · rw [if_pos (by simpa using sends)]
        constructor
        · rintro within _ _ _ same _ _
          cases same
          have reached : ∀ origin ∈ s.executionsAt stub.executorIndex scheduleId, origin = .connection connectionName :=
            fun origin member => within _ (List.mem_map_of_mem member)
          refine ⟨fun other owner live index node => ?_,fun execution member index node => ?_⟩
          · exact Origin.connection.inj (reached _ ((s.mem_executionsAt scheduleId).mpr (.inl ⟨other,owner,live,index,node,rfl⟩)))
          · exact reached _ ((s.mem_executionsAt scheduleId).mpr (.inr ⟨execution,member,index,node,rfl⟩))
        · intro own touch member
          obtain ⟨stubs,locals⟩ := own msgType scheduleId rfl rfl sends.1 sends.2
          obtain ⟨origin,inside,rfl⟩ := List.mem_map.mp member
          rcases (s.mem_executionsAt scheduleId).mp inside with ⟨other,owner,live,index,node,rfl⟩ | ⟨execution,held,index,node,rfl⟩
          · exact congrArg Origin.connection (stubs other owner live index node)
          · exact locals execution held index node
      · rw [if_neg (by simpa using sends)]
        apply iff_of_true (by simp)
        intro other _ same _ also selected
        rw [←Option.some.inj same] at also
        exact absurd ⟨also,selected⟩ sends

-- What the proxy passes on, and the field it needs besides the schedule id.
def Forwards (request : Attributes) (msgType : Int32) : Prop :=
  (msgType = MessageType.EXECUTOR_SEND_DATA ∧ (request.getInt32Value ATTR_DEST_ROLE).isSome) ∨
    (msgType = MessageType.EXECUTOR_FINISH ∧ (request.getInt32Value ATTR_RESULT_CODE).isSome)

theorem forwarded_within (kind : TouchKind) :
    (∀ touch ∈ (s.selectScheduleNodeByScheduleId scheduleId).toList.map
      (fun schedule => (⟨connectionName,kind,schedule.origin⟩ : Touch)), touch.Within) ↔
      s.OwnSchedule connectionName scheduleId := by
  simp only [List.mem_map,Option.mem_toList,forall_exists_index,and_imp,forall_apply_eq_imp_iff₂]
  exact Iff.rfl

-- A proxy passes on what it knows the needed field of, once it has its messenger.
theorem passed_within (kind : TouchKind) (ready : Bool) (known : Forwards request msgType ↔ field = true) :
    (∀ touch ∈ (if field && ready then
        (s,(s.selectScheduleNodeByScheduleId scheduleId).toList.map fun schedule =>
          (⟨connectionName,kind,schedule.origin⟩ : Touch))
      else (s,[])).2, touch.Within) ↔
      (ready = true → Forwards request msgType → s.OwnSchedule connectionName scheduleId) := by
  rw [known]
  cases field with
  | false => simp
  | true =>
    cases ready with
    | false => simp
    | true => simp only [Bool.and_self,if_true,forwarded_within,true_implies]

theorem proxy_within (proxy : RemoteExecutorProxy) (request : Attributes) :
    (∀ touch ∈ (s.proxyMessage proxy connectionName request).2, touch.Within) ↔
      ∀ msgType scheduleId, request.getInt32Value ATTR_MSG_TYPE = some msgType →
        request.getUint64Value ATTR_SCHEDULE_ID = some scheduleId → proxy.connectionName = connectionName →
          proxy.messenger = true → Forwards request msgType → s.OwnSchedule connectionName scheduleId := by
  unfold proxyMessage
  by_cases connected : proxy.connectionName = connectionName
  · rw [if_neg (by simpa using connected)]
    cases typed : request.getInt32Value ATTR_MSG_TYPE with
    | none => simp
    | some msgType =>
      cases named : request.getUint64Value ATTR_SCHEDULE_ID with
      | none => simp
      | some scheduleId =>
        have here : (∀ other id, some msgType = some other → some scheduleId = some id →
            proxy.connectionName = connectionName → proxy.messenger = true → Forwards request other →
              s.OwnSchedule connectionName id) ↔
            (proxy.messenger = true → Forwards request msgType → s.OwnSchedule connectionName scheduleId) := by
          constructor
          · exact fun own => own msgType scheduleId rfl rfl connected
          · intro own other id same also _
            cases same
            cases also
            exact own
        rw [here]
        dsimp only
        by_cases sends : msgType = MessageType.EXECUTOR_SEND_DATA
        · subst sends
          rw [if_pos (by simp)]
          apply s.passed_within connectionName scheduleId .delivered proxy.messenger
          simp [Forwards,MessageType.EXECUTOR_SEND_DATA,MessageType.EXECUTOR_FINISH]
        · rw [if_neg (by simpa using sends)]
          by_cases finishes : msgType = MessageType.EXECUTOR_FINISH
          · subst finishes
            rw [if_pos (by simp)]
            apply s.passed_within connectionName scheduleId .finished proxy.messenger
            simp [Forwards,sends]
          · rw [if_neg (by simpa using finishes)]
            simp [Forwards,sends,finishes]
  · rw [if_pos (by simpa using connected)]
    apply iff_of_true (by simp)
    exact fun _ _ _ _ same => absurd same connected

end Handlers

-- At the handler that a message reaches, its schedule id names nothing but
-- what was begun over the connection it came on.
structure Rightful (s : RemoteSystem) (message : Attributes) (answers : BeginAnswers) (connectionName destEndPoint : Bytes)
    (msgType : Int32) (scheduleId : UInt64) : Prop where
  ended : findListener s.listeners connectionName destEndPoint = some .remoteAuthService →
    msgType = MessageType.END_EXECUTE → s.OwnStub connectionName scheduleId
  sent : ∀ ref stub, findListener s.listeners connectionName destEndPoint = some (.executorStub ref) →
    s.liveStub ref = some stub → msgType = MessageType.SEND_DATA_TO_EXECUTOR → answers.select stub.executorIndex = true →
      s.OwnExecutions connectionName scheduleId stub.executorIndex
  forwarded : ∀ ref proxy, findListener s.listeners connectionName destEndPoint = some (.executorProxy ref) →
    s.proxies.find? (·.ref == ref) = some proxy → proxy.connectionName = connectionName → proxy.messenger = true →
      Forwards message msgType → s.OwnSchedule connectionName scheduleId

section Reached
variable {s : RemoteSystem} {message : Attributes} {answers : BeginAnswers} {connectionName destEndPoint : Bytes} {ref : Nat}

theorem rightful_service (found : findListener s.listeners connectionName destEndPoint = some .remoteAuthService) :
    s.Rightful message answers connectionName destEndPoint msgType scheduleId ↔
      (msgType = MessageType.END_EXECUTE → s.OwnStub connectionName scheduleId) := by
  constructor
  · exact fun rightful => rightful.ended found
  · exact fun own => ⟨fun _ => own,by simp [found],by simp [found]⟩

theorem rightful_stub (found : findListener s.listeners connectionName destEndPoint = some (.executorStub ref)) :
    s.Rightful message answers connectionName destEndPoint msgType scheduleId ↔ ∀ stub, s.liveStub ref = some stub →
      msgType = MessageType.SEND_DATA_TO_EXECUTOR → answers.select stub.executorIndex = true →
        s.OwnExecutions connectionName scheduleId stub.executorIndex := by
  constructor
  · exact fun rightful stub live => rightful.sent ref stub found live
  · intro own
    refine ⟨by simp [found],?_,by simp [found]⟩
    intro other stub same live
    cases found.symm.trans same
    exact own stub live

theorem rightful_proxy (found : findListener s.listeners connectionName destEndPoint = some (.executorProxy ref)) :
    s.Rightful message answers connectionName destEndPoint msgType scheduleId ↔
      ∀ proxy, s.proxies.find? (·.ref == ref) = some proxy → proxy.connectionName = connectionName →
        proxy.messenger = true → Forwards message msgType → s.OwnSchedule connectionName scheduleId := by
  constructor
  · exact fun rightful proxy live => rightful.forwarded ref proxy found live
  · intro own
    refine ⟨by simp [found],by simp [found],?_⟩
    intro other proxy same live
    cases found.symm.trans same
    exact own proxy live

end Reached

def StepRightful (s : RemoteSystem) : RemoteOp → Prop
  | .receive message answers => ∀ connectionName destEndPoint msgType scheduleId,
    parseMessage message = some (connectionName,destEndPoint) → message.getInt32Value ATTR_MSG_TYPE = some msgType →
      message.getUint64Value ATTR_SCHEDULE_ID = some scheduleId →
        s.Rightful message answers connectionName destEndPoint msgType scheduleId
  | _ => True

theorem receive_within (s : RemoteSystem) (message : Attributes) (answers : BeginAnswers) :
    (∀ touch ∈ (s.receive message answers).2, touch.Within) ↔ s.StepRightful (.receive message answers) := by
  unfold receive
  cases addressed : parseMessage message with
  | none => simp [StepRightful,addressed]
  | some route =>
    obtain ⟨connectionName,destEndPoint⟩ := route
    have routed : s.StepRightful (.receive message answers) ↔ ∀ msgType scheduleId,
        message.getInt32Value ATTR_MSG_TYPE = some msgType → message.getUint64Value ATTR_SCHEDULE_ID = some scheduleId →
          s.Rightful message answers connectionName destEndPoint msgType scheduleId := by
      constructor
      · exact fun rightful msgType scheduleId => rightful _ _ msgType scheduleId addressed
      · intro rightful _ _ msgType scheduleId same
        rw [addressed] at same
        cases same
        exact rightful msgType scheduleId
    rw [routed]
    dsimp only
    cases found : findListener s.listeners connectionName destEndPoint with
    | none => exact iff_of_true (by simp) fun _ _ _ _ => ⟨by simp [found],by simp [found],by simp [found]⟩
    | some listener =>
      cases listener with
      | other ref => exact iff_of_true (by simp) fun _ _ _ _ => ⟨by simp [found],by simp [found],by simp [found]⟩
      | remoteAuthService =>
        simp only [rightful_service found]
        exact service_within ..
      | executorStub ref =>
        simp only [rightful_stub found]
        cases live : s.liveStub ref with
        | none => simp
        | some stub =>
          simp only [Option.some.injEq,forall_eq']
          exact stub_within ..
      | executorProxy ref =>
        simp only [rightful_proxy found]
        cases live : s.proxies.find? (·.ref == ref) with
        | none => simp
        | some proxy =>
          simp only [Option.some.injEq,forall_eq']
          exact proxy_within ..

theorem step_within (s : RemoteSystem) (op : RemoteOp) : (∀ touch ∈ (s.step op).2, touch.Within) ↔ s.StepRightful op := by
  cases op with
  | receive message answers => exact receive_within s message answers
  | endExecute | connectionDown | listen | unlisten | startProxy | messengerReady | destroyProxy | setScheduleList
  | beginExecution | endExecution | pool => exact iff_of_true (by simp [step]) trivial

-- A stub's record of its connection is where its begin came in.
theorem begun_on (s : RemoteSystem) (message : Attributes) (answers : BeginAnswers) (connectionName destEndPoint : Bytes)
    (addressed : parseMessage message = some (connectionName,destEndPoint)) (scheduleId : UInt64) (stub : RemoteExecutorStub)
    (live : (s.procBeginExecuteRequest message answers).1.scheduleId2executorStub[scheduleId]? = some stub) :
    s.scheduleId2executorStub[scheduleId]? = some stub ∨ stub.connectionName = connectionName := by
  have named : message.getStringValue ATTR_CONNECTION_NAME = some connectionName := by
    unfold parseMessage at addressed
    split at addressed
    · split at addressed
      · cases addressed
      · cases addressed
        assumption
    · cases addressed
  have outcome := begin_outcome ⟨{ref:=s.nextRef},0,s.listeners,s.contextPool,s.scheduleNodes⟩ message answers rfl
  rcases s.toRemoteAuthService.begin_cases message answers with gone | ⟨succeeded,_,joined⟩
  · rw [gone] at live
    exact .inl live
  · rw [joined] at live
    by_cases new : (s.attempt message answers).1.scheduleId = scheduleId
    · simp only [new,ExtTreeMap.getElem?_insert_self,Option.some.injEq] at live
      unfold attempt at live succeeded
      generalize RemoteExecutorStub.procBeginExecuteRequest
        ⟨{ref:=s.nextRef},0,s.listeners,s.contextPool,s.scheduleNodes⟩ message answers = begun at outcome live succeeded
      cases outcome with
      | unnamed => exact absurd succeeded generalError_failure
      | unregistered => exact absurd succeeded generalError_failure
      | listening _ _ name connected _ _ _ _ shape _ =>
        rw [connected] at named
        cases named
        exact .inr (live ▸ shape.2.2)
    · simp only [ExtTreeMap.getElem?_insert] at live
      rw [if_neg (by simpa using new)] at live
      exact .inl live

-- Over a whole run every effect of a message stays with its own connection
-- exactly if no message names a schedule of somebody else.
theorem effects_within_iff (ops : List RemoteOp) :
    (∀ touch ∈ remoteMachine.trace .initial ops, touch.Within) ↔ remoteMachine.Meets StepRightful .initial ops :=
  Mealy.good_iff_meets (Q:=fun _ => True) (fun _ _ _ => trivial) (fun s op _ => step_within s op) trivial ops

-- A peer ends another peer's execution, and finishes a schedule that is local
-- to the device by way of its own proxy.
def peerMessage (destEndPoint : Bytes) (connectionName : String) (msgType scheduleId : UInt8) : Attributes :=
  ⟨ExtTreeMap.ofList [
    (ATTR_MSG_SEQ_NUM,[1,0,0,0]),(ATTR_MSG_ACK,[0]),(ATTR_MSG_SRC_END_POINT,ascii "peer" ++ [0]),
    (ATTR_MSG_DEST_END_POINT,destEndPoint ++ [0]),(ATTR_CONNECTION_NAME,ascii connectionName ++ [0]),
    (ATTR_MSG_VERSION,[0,0,0,0]),(ATTR_MSG_TYPE,[msgType,0,0,0]),(ATTR_SCHEDULE_ID,[scheduleId,0,0,0,0,0,0,0]),
    (ATTR_RESULT_CODE,[0,0,0,0])] compare⟩

def strangerEnds : List RemoteOp :=
  [.receive (beginMessage "a1b2:0007" 1) (willing 5),
    .receive (peerMessage REMOTE_SERVICE_ENDPOINT "ffff:0001" 6 1) (willing 6)]

def strangerFinishes : List RemoteOp :=
  [.startProxy (ascii "ffff:0001"),.messengerReady 0,
    .pool (.schedule (fun _ _ => .keepRunning)
      ⟨0,11,1,.simpleAuth,100,AuthType.PIN,[AuthType.PIN],.DEFAULT,"settings",true⟩),
    .setScheduleList 0 [⟨33,.here⟩],
    .receive (peerMessage EXECUTOR_PROXY_ENDPOINT_NAME "ffff:0001" 8 33) (willing 6)]

theorem strangers_reach_executions :
    (¬∀ touch ∈ remoteMachine.trace .initial strangerEnds, touch.Within) ∧
      ¬∀ touch ∈ remoteMachine.trace .initial strangerFinishes, touch.Within := by
  constructor
  · intro within
    have ended := within ⟨ascii "ffff:0001",.ended,.connection (ascii "a1b2:0007")⟩ (by decide)
    exact absurd ended (by unfold Touch.Within; decide)
  · intro within
    have finished := within ⟨ascii "ffff:0001",.finished,.here⟩ (by decide)
    exact absurd finished (by unfold Touch.Within; decide)

end RemoteSystem
end UserAuth
