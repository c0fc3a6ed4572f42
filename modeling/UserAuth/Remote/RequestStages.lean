import UserAuth.Remote.RequestRun

namespace UserAuth
open Std Attributes BaseSocket

variable {C : Type}

namespace RequestSocket

-- Under this sequence number no request waits: neither is its callback registered nor a thread about to.
structure Vacant (s : RequestSocket C) (messageSeq : UInt32) : Prop where
  unregistered : s.callbackMap[messageSeq]? = none
  unsent : (s.exchanges messageSeq).senders = []

-- A request waits, registered, and neither an acknowledgement nor its timer
-- nor a shutdown has come for it.
structure Awaiting (s : RequestSocket C) (messageSeq : UInt32) : Prop where
  registered : s.callbackMap[messageSeq]?.isSome = true
  unanswered : (s.exchanges messageSeq).receivers = []
  untimed : (s.exchanges messageSeq).timeouts = []
  up : ∀ r, (s.exchanges messageSeq).requests.getLast? = some r → r.reported = false

-- SendRequest gets as far as the bytes, and they are sent.
def Sends (s : RequestSocket C) (info : ConnectionInfo C) (udid : Option LocalUdid) (sent : Bool) : Prop :=
  s.released = false ∧ info.attributes.isSome = true ∧ info.socketId ≠ INVALID_SOCKET_ID ∧
    (createRequest info (s.messageSeq + 1) udid).isSome = true ∧ sent = true

def Orderly (s : RequestSocket C) : RequestCall C → Prop
  | .sendRequest info udid sent => s.Sends info udid sent →
    info.callback.isSome = true ∧ info.connectionName ≠ [] ∧ s.Vacant (s.messageSeq + 1)
  | .senderRuns messageSeq thread timerId => ∀ sender, (s.exchanges messageSeq).senders[thread]? = some sender →
    sender.stage = .startReplyTimer → timerId ≠ INVALID_TIMER_ID
  | .procDataReceive softBusMessage => s.released = true ∨ softBusMessage.isAck = false ∨
    s.Vacant softBusMessage.messageSeq ∨ s.Awaiting softBusMessage.messageSeq
  | .timerFires messageSeq timer => s.released = true ∨ ∀ replyTimer,
    (s.exchanges messageSeq).timers[timer]? = some replyTimer →
      s.callbackMap[messageSeq]?.isSome = true ∧ (s.exchanges messageSeq).receivers = []
  | .onShutdown connectionName => ∀ messageSeq, ∀ receiver ∈ (s.exchanges messageSeq).receivers,
    receiver.stage = .callback → ∀ r, (s.exchanges messageSeq).requests[receiver.request]? = some r →
      r.connectionName ≠ connectionName
  | .release => ∀ messageSeq, (s.exchanges messageSeq).senders = [] ∧ (s.exchanges messageSeq).receivers = [] ∧
    (s.exchanges messageSeq).timeouts = [] ∧ ∀ r ∈ (s.exchanges messageSeq).requests, r.pending = false
  | _ => True

-- A request with an outcome: answered by the acknowledgement that came, or its connection reported down.
inductive Ended : SentRequest C → Prop where
  | answered (callback : C) (attributes : Attributes) :
      Ended ⟨connectionName,some callback,some attributes,fired,[(callback,attributes)],false⟩
  | reported : Ended ⟨connectionName,callback,none,fired,[],true⟩

-- The last request under a sequence number, behind requests that ended.
structure Latest (C : Type) where
  old : List (SentRequest C)
  ended : ∀ r ∈ old, Ended r
  name : Bytes
  named : name ≠ []
  callback : C

namespace Latest

def sent (x : Latest C) (fired reported : Bool) : List (SentRequest C) :=
  x.old ++ [⟨x.name,some x.callback,none,fired,[],reported⟩]
def acked (x : Latest C) (attributes : Attributes) : List (SentRequest C) :=
  x.old ++ [⟨x.name,some x.callback,some attributes,false,[],false⟩]
def answered (x : Latest C) (attributes : Attributes) : List (SentRequest C) :=
  x.old ++ [⟨x.name,some x.callback,some attributes,false,[(x.callback,attributes)],false⟩]
def info (x : Latest C) (timerId : UInt32) : CallbackInfo (Nat × C) := ⟨x.name,(x.old.length,x.callback),timerId⟩
def timer (x : Latest C) (timerId : UInt32) : ReplyTimer := ⟨timerId,x.old.length⟩
def sender (x : Latest C) (stage : SendStage) : Sender C := ⟨x.old.length,x.name,some x.callback,stage⟩
def receiver (x : Latest C) (attributes : Attributes) (stage : AckStage) : Receiver C :=
  ⟨x.old.length,x.callback,attributes,stage⟩
def timeout (x : Latest C) (stage : TimeoutStage) : Timeout := ⟨x.old.length,x.name,stage⟩

end Latest

-- What an orderly run leaves under one sequence number: ended requests, and at
-- most one more, the last, at one of these stages.
inductive Tidy : Bool → Option (CallbackInfo (Nat × C)) → Exchange C → Prop where
  | idle (released : Bool) (old : List (SentRequest C)) (ended : ∀ r ∈ old, Ended r) :
      Tidy released none {requests:=old}
  | sent (x : Latest C) (down : Bool) :
      Tidy false none {senders:=[x.sender .startReplyTimer],requests:=x.sent false down}
  | timed (x : Latest C) (down : Bool) (timerId : UInt32) (valid : timerId ≠ INVALID_TIMER_ID) :
      Tidy false none {senders:=[x.sender (.insertMsgCallback timerId)],timers:=[x.timer timerId],
                       requests:=x.sent false down}
  | registered (x : Latest C) (down : Bool) (timerId : UInt32) (valid : timerId ≠ INVALID_TIMER_ID) :
      Tidy false (some (x.info timerId)) {timers:=[x.timer timerId],requests:=x.sent false down}
  | found (x : Latest C) (attributes : Attributes) (timerId : UInt32) (valid : timerId ≠ INVALID_TIMER_ID) :
      Tidy false (some (x.info timerId)) {timers:=[x.timer timerId],receivers:=[x.receiver attributes .callback],
                                          requests:=x.acked attributes}
  | called (x : Latest C) (attributes : Attributes) (timerId : UInt32) (valid : timerId ≠ INVALID_TIMER_ID) :
      Tidy false (some (x.info timerId)) {timers:=[x.timer timerId],receivers:=[x.receiver attributes .stopReplyTimer],
                                          requests:=x.answered attributes}
  | stopped (x : Latest C) (attributes : Attributes) (timerId : UInt32) :
      Tidy false (some (x.info timerId)) {receivers:=[x.receiver attributes .removeMsgCallback],
                                          requests:=x.answered attributes}
  | firing (x : Latest C) (down : Bool) (timerId : UInt32) :
      Tidy false (some (x.info timerId)) {timeouts:=[x.timeout .onConnectionDown],requests:=x.sent true down}
  | told (x : Latest C) (timerId : UInt32) :
      Tidy false (some (x.info timerId)) {timeouts:=[x.timeout .removeMsgCallback],requests:=x.sent true true}
  | abandoned (x : Latest C) (timerId : UInt32) :
      Tidy true none {timers:=[x.timer timerId],requests:=x.sent false true}

def AllTidy (s : RequestSocket C) : Prop :=
  ∀ messageSeq, Tidy s.released s.callbackMap[messageSeq]? (s.exchanges messageSeq)

section Requests
variable {old : List (SentRequest C)} {r : SentRequest C}

theorem modify_last {f : SentRequest C → SentRequest C} : (old ++ [r]).modify old.length f = old ++ [f r] := by
  induction old with
  | nil => rfl
  | cons first rest ih => exact congrArg (first :: ·) ih

theorem modify_fixed {f : SentRequest C → SentRequest C} (fixed : ∀ r ∈ old, f r = r) (n : Nat) :
    old.modify n f = old := by
  induction old generalizing n with
  | nil => cases n <;> rfl
  | cons first rest ih =>
    rw [List.forall_mem_cons] at fixed
    cases n with
    | zero => exact congrArg (· :: rest) fixed.1
    | succ n => exact congrArg (first :: ·) (ih fixed.2 n)

theorem Ended.receive_same (ended : Ended r) (attributes : Attributes) : r.receive attributes = r := by
  cases ended <;> rfl

theorem Ended.shutdown_same (ended : Ended r) (connectionName : Bytes) : r.shutdown connectionName = r := by
  cases ended with
  | answered => exact if_neg fun both => Bool.noConfusion both.2
  | reported => exact ite_self _

theorem ended_snoc (ended : ∀ r ∈ old, Ended r) (last : Ended r) : ∀ other ∈ old ++ [r], Ended other :=
  List.forall_mem_append.mpr ⟨ended,List.forall_mem_singleton.mpr last⟩

theorem shutdown_map (ended : ∀ r ∈ old, Ended r) (connectionName : Bytes) :
    (old ++ [r]).map (SentRequest.shutdown connectionName) = old ++ [r.shutdown connectionName] := by
  rw [List.map_append,List.map_singleton]
  congr 1
  exact (List.map_congr_left fun r member => (ended r member).shutdown_same connectionName).trans (List.map_id _)

end Requests

theorem singleton_some {α : Type} {a b : α} {n : Nat} (found : ([a] : List α)[n]? = some b) : n = 0 ∧ a = b := by
  cases n with
  | zero => exact ⟨rfl,Option.some.inj found⟩
  | succ n => cases found

section Steps
variable {s next : RequestSocket C} {exchange : Exchange C} {seq : UInt32} {thread : Nat} {released : Bool}
  {entry : Option (CallbackInfo (Nat × C))} {e : Exchange C}

-- Only what stands under the sequence number changes.
theorem tidy_store {callbackMap : CallbackMap (Nat × C)} (tidy : AllTidy s)
    (others : ∀ other, other ≠ seq → callbackMap[other]? = s.callbackMap[other]?)
    (here : Tidy s.released callbackMap[seq]? exchange) :
    AllTidy ({s with callbackMap:=callbackMap}.setExchange seq exchange) := by
  intro other
  dsimp only [setExchange]
  by_cases same : other = seq
  · subst same
    rwa [Function.update_self]
  · rw [Function.update_of_ne same,others other same]
    exact tidy other

theorem tidy_set (tidy : AllTidy s) (here : Tidy s.released s.callbackMap[seq]? exchange) :
    AllTidy (s.setExchange seq exchange) :=
  tidy_store tidy (fun _ _ => rfl) here

theorem tidy_erase (tidy : AllTidy s) (here : Tidy s.released none exchange) :
    AllTidy ({s with callbackMap:=removeMsgCallback s.callbackMap seq}.setExchange seq exchange) := by
  apply tidy_store tidy
  · intro other apart
    exact ExtTreeMap.getElem?_erase.trans (if_neg fun same => apart (compare_eq_iff_eq.mp same).symm)
  · have erased : (removeMsgCallback s.callbackMap seq)[seq]? = none := ExtTreeMap.getElem?_erase_self
    rwa [erased]

theorem sender_stage {sender : Sender C} (here : Tidy released entry e) (running : e.senders[thread]? = some sender) :
    thread = 0 ∧ released = false ∧ entry = none ∧ ∃ (x : Latest C) (down : Bool),
      (e = {senders:=[sender],requests:=x.sent false down} ∧ sender = x.sender .startReplyTimer) ∨
      ∃ timerId, timerId ≠ INVALID_TIMER_ID ∧ sender = x.sender (.insertMsgCallback timerId) ∧
        e = {senders:=[sender],timers:=[x.timer timerId],requests:=x.sent false down} := by
  cases here with
  | sent x down =>
    obtain ⟨first,rfl⟩ := singleton_some running
    exact ⟨first,rfl,rfl,x,down,.inl ⟨rfl,rfl⟩⟩
  | timed x down timerId valid =>
    obtain ⟨first,rfl⟩ := singleton_some running
    exact ⟨first,rfl,rfl,x,down,.inr ⟨timerId,valid,rfl,rfl⟩⟩
  | idle | registered | found | called | stopped | firing | told | abandoned => cases running

theorem sender_tidy (tidy : AllTidy s) (orderly : s.Orderly (.senderRuns seq thread timerId)) :
    AllTidy (s.senderRuns seq thread timerId) := by
  unfold senderRuns
  dsimp only
  cases running : (s.exchanges seq).senders[thread]? with
  | none => exact tidy
  | some sender =>
    obtain ⟨rfl,up,entry,x,down,⟨exchange,rfl⟩ | ⟨own,valid,rfl,exchange⟩⟩ := sender_stage (tidy seq) running
    · have granted := orderly _ running rfl
      have started : getReplyTimer s.callbackMap seq = INVALID_TIMER_ID := by
        rw [getReplyTimer,entry]
        rfl
      dsimp only [Latest.sender]
      rw [started,if_neg (not_not.mpr rfl),if_neg granted,exchange]
      apply tidy_set tidy
      rw [up,entry]
      exact .timed x down timerId granted
    · dsimp only [Latest.sender,Option.map_some,insertMsgCallback]
      have free : seq ∉ s.callbackMap := by
        rw [ExtTreeMap.mem_iff_isSome_getElem?,entry]
        exact Bool.false_ne_true
      apply tidy_store tidy
      · intro other apart
        exact ExtTreeMap.getElem?_insertIfNew.trans
          (if_neg fun both => apart (compare_eq_iff_eq.mp both.1).symm)
      · rw [up,exchange,ExtTreeMap.getElem?_insertIfNew,if_pos ⟨compare_self,free⟩]
        exact .registered x down own valid

theorem vacant_idle (here : Tidy false none e) (unsent : e.senders = []) :
    ∃ old : List (SentRequest C), (∀ r ∈ old, Ended r) ∧ e = {requests:=old} := by
  cases here with
  | idle _ old ended => exact ⟨old,ended,rfl⟩
  | sent | timed => cases unsent

theorem send_tidy {info : ConnectionInfo C} (tidy : AllTidy s) (orderly : s.Orderly (.sendRequest info udid sent)) :
    AllTidy (s.sendRequest info udid sent).1 := by
  unfold sendRequest
  dsimp only
  split
  · exact tidy
  · rename_i done
    split
    · exact tidy
    · rename_i missing
      split
      · exact tidy
      · rename_i valid
        split
        · exact tidy
        · rename_i request made
          split
          · exact tidy
          · rename_i failed
            have up : s.released = false := Bool.eq_false_iff.mpr done
            have given : info.attributes.isSome = true := by simpa [Option.isSome_iff_ne_none] using missing
            obtain ⟨callable,named,unregistered,unsent⟩ := orderly
              ⟨up,given,valid,Option.isSome_of_eq_some made,by simpa using failed⟩
            obtain ⟨callback,given⟩ := Option.isSome_iff_exists.mp callable
            have here := tidy (s.messageSeq + 1)
            rw [up,unregistered] at here
            obtain ⟨old,ended,exchange⟩ := vacant_idle here unsent
            apply tidy_set (s:={s with messageSeq:=s.messageSeq + 1}) tidy
            rw [up,unregistered,exchange,given]
            exact .sent ⟨old,ended,info.connectionName,named,callback⟩ false

theorem awaiting_registered (here : Tidy false entry e) (registered : entry.isSome = true)
    (unanswered : e.receivers = []) (untimed : e.timeouts = [])
    (up : ∀ r, e.requests.getLast? = some r → r.reported = false) :
    ∃ (x : Latest C) (timerId : UInt32), timerId ≠ INVALID_TIMER_ID ∧ entry = some (x.info timerId) ∧
      e = {timers:=[x.timer timerId],requests:=x.sent false false} := by
  cases here with
  | registered x down timerId valid =>
    have last := up _ List.getLast?_concat
    cases last
    exact ⟨x,timerId,valid,rfl,rfl⟩
  | idle | sent | timed => cases registered
  | found | called | stopped => cases unanswered
  | firing | told => cases untimed

theorem ack_tidy {softBusMessage : SoftBusMessage} (tidy : AllTidy s)
    (orderly : s.Orderly (.procDataReceive softBusMessage)) : AllTidy (s.procDataReceive softBusMessage) := by
  unfold procDataReceive
  dsimp only
  split
  · exact tidy
  · rename_i up
    have up : s.released = false := Bool.eq_false_iff.mpr up
    have here := tidy softBusMessage.messageSeq
    rw [up] at here
    split
    · exact tidy
    · rename_i attributes _
      split
      · exact tidy
      · rename_i ack
        rcases orderly with down | request | vacant | awaiting
        · rw [up] at down
          cases down
        · rw [request] at ack
          exact absurd rfl ack
        · obtain ⟨unregistered,unsent⟩ := vacant
          rw [unregistered] at here
          obtain ⟨old,ended,exchange⟩ := vacant_idle here unsent
          rw [getMsgCallback,unregistered,exchange]
          dsimp only [Option.map_none]
          apply tidy_set tidy
          rw [up,unregistered,modify_fixed fun r member => (ended r member).receive_same attributes]
          exact .idle false old ended
        · obtain ⟨x,timerId,valid,registered,exchange⟩ := awaiting_registered here awaiting.registered
            awaiting.unanswered awaiting.untimed awaiting.up
          have marked : (x.sent false false).modify ((x.sent false false).length - 1) (SentRequest.receive attributes) =
              x.acked attributes := by
            rw [Latest.sent,List.length_append,List.length_singleton,Nat.add_sub_cancel,modify_last]
            rfl
          rw [getMsgCallback,registered,exchange]
          dsimp only [Option.map_some,Latest.info]
          apply tidy_set tidy
          rw [up,registered,marked]
          exact .found x attributes timerId valid

theorem receiver_stage {receiver : Receiver C} (here : Tidy released entry e)
    (running : e.receivers[thread]? = some receiver) : thread = 0 ∧ released = false ∧
      ∃ (x : Latest C) (attributes : Attributes) (timerId : UInt32), entry = some (x.info timerId) ∧
        ((timerId ≠ INVALID_TIMER_ID ∧ receiver = x.receiver attributes .callback ∧
            e = {timers:=[x.timer timerId],receivers:=[receiver],requests:=x.acked attributes}) ∨
          (timerId ≠ INVALID_TIMER_ID ∧ receiver = x.receiver attributes .stopReplyTimer ∧
            e = {timers:=[x.timer timerId],receivers:=[receiver],requests:=x.answered attributes}) ∨
          (receiver = x.receiver attributes .removeMsgCallback ∧
            e = {receivers:=[receiver],requests:=x.answered attributes})) := by
  cases here with
  | found x attributes timerId valid =>
    obtain ⟨first,rfl⟩ := singleton_some running
    exact ⟨first,rfl,x,attributes,timerId,rfl,.inl ⟨valid,rfl,rfl⟩⟩
  | called x attributes timerId valid =>
    obtain ⟨first,rfl⟩ := singleton_some running
    exact ⟨first,rfl,x,attributes,timerId,rfl,.inr (.inl ⟨valid,rfl,rfl⟩)⟩
  | stopped x attributes timerId =>
    obtain ⟨first,rfl⟩ := singleton_some running
    exact ⟨first,rfl,x,attributes,timerId,rfl,.inr (.inr ⟨rfl,rfl⟩)⟩
  | idle | sent | timed | registered | firing | told | abandoned => cases running

theorem receiver_tidy (tidy : AllTidy s) : AllTidy (s.receiverRuns seq thread).1 := by
  unfold receiverRuns
  dsimp only
  cases running : (s.exchanges seq).receivers[thread]? with
  | none => exact tidy
  | some receiver =>
    obtain ⟨rfl,up,x,attributes,timerId,registered,stage⟩ := receiver_stage (tidy seq) running
    rcases stage with ⟨valid,rfl,exchange⟩ | ⟨valid,rfl,exchange⟩ | ⟨rfl,exchange⟩
    · have answered : (x.acked attributes).modify x.old.length (SentRequest.answer x.callback attributes) =
          x.answered attributes := modify_last
      dsimp only [Latest.receiver]
      apply tidy_set tidy
      rw [up,registered,exchange,answered]
      exact .called x attributes timerId valid
    · have timer : getReplyTimer s.callbackMap seq = timerId := by
        rw [getReplyTimer,registered]
        rfl
      have none_ : [x.timer timerId].filter (·.timerId != timerId) = [] := by simp [Latest.timer]
      dsimp only [Latest.receiver]
      apply tidy_set tidy
      rw [up,registered,timer,if_neg valid,exchange,none_]
      exact .stopped x attributes timerId
    · dsimp only [Latest.receiver]
      apply tidy_erase tidy
      rw [exchange]
      exact .idle _ _ (ended_snoc x.ended (.answered x.callback attributes))

theorem timer_stage {replyTimer : ReplyTimer} (here : Tidy released entry e)
    (running : e.timers[thread]? = some replyTimer)
    (orderly : released = true ∨ entry.isSome = true ∧ e.receivers = []) :
    thread = 0 ∧ ∃ (x : Latest C) (timerId : UInt32), replyTimer = x.timer timerId ∧
        ((released = true ∧ entry = none ∧ e = {timers:=[replyTimer],requests:=x.sent false true}) ∨
          (released = false ∧ entry = some (x.info timerId) ∧
            ∃ down, e = {timers:=[replyTimer],requests:=x.sent false down})) := by
  cases here with
  | registered x down timerId valid =>
    obtain ⟨first,rfl⟩ := singleton_some running
    exact ⟨first,x,timerId,rfl,.inr ⟨rfl,rfl,down,rfl⟩⟩
  | abandoned x timerId =>
    obtain ⟨first,rfl⟩ := singleton_some running
    exact ⟨first,x,timerId,rfl,.inl ⟨rfl,rfl,rfl⟩⟩
  | timed | found | called => rcases orderly with finished | ⟨registered,unanswered⟩ <;> contradiction
  | idle | sent | stopped | firing | told => cases running

theorem timer_tidy (tidy : AllTidy s) (orderly : s.Orderly (.timerFires seq thread)) :
    AllTidy (s.timerFires seq thread) := by
  unfold timerFires
  dsimp only
  cases running : (s.exchanges seq).timers[thread]? with
  | none => exact tidy
  | some replyTimer =>
    have orderly := orderly.imp_right fun alone => alone replyTimer running
    obtain ⟨rfl,x,timerId,rfl,stage⟩ := timer_stage (tidy seq) running orderly
    have fired : ∀ down, (x.sent false down).modify x.old.length SentRequest.fire = x.sent true down :=
      fun _ => modify_last
    dsimp only [Latest.timer]
    rcases stage with ⟨finished,registered,exchange⟩ | ⟨up,registered,down,exchange⟩
    · rw [if_pos finished]
      apply tidy_set tidy
      rw [registered,exchange,fired]
      exact .idle _ _ (ended_snoc x.ended .reported)
    · have named : getConnectionName s.callbackMap seq = x.name := by
        rw [getConnectionName,registered]
        rfl
      rw [if_neg (Bool.eq_false_iff.mp up),named,if_neg x.named]
      apply tidy_set tidy
      rw [up,registered,exchange,fired]
      exact .firing x down timerId

theorem timeout_stage {timeout : Timeout} (here : Tidy released entry e)
    (running : e.timeouts[thread]? = some timeout) : thread = 0 ∧ released = false ∧
      ∃ (x : Latest C) (timerId : UInt32), entry = some (x.info timerId) ∧
        ((timeout = x.timeout .onConnectionDown ∧ ∃ down, e = {timeouts:=[timeout],requests:=x.sent true down}) ∨
          (timeout = x.timeout .removeMsgCallback ∧ e = {timeouts:=[timeout],requests:=x.sent true true})) := by
  cases here with
  | firing x down timerId =>
    obtain ⟨first,rfl⟩ := singleton_some running
    exact ⟨first,rfl,x,timerId,rfl,.inl ⟨rfl,down,rfl⟩⟩
  | told x timerId =>
    obtain ⟨first,rfl⟩ := singleton_some running
    exact ⟨first,rfl,x,timerId,rfl,.inr ⟨rfl,rfl⟩⟩
  | idle | sent | timed | registered | found | called | stopped | abandoned => cases running

theorem timeout_tidy (tidy : AllTidy s) : AllTidy (s.timeoutRuns seq thread).1 := by
  unfold timeoutRuns
  dsimp only
  cases running : (s.exchanges seq).timeouts[thread]? with
  | none => exact tidy
  | some timeout =>
    obtain ⟨rfl,up,x,timerId,registered,stage⟩ := timeout_stage (tidy seq) running
    rcases stage with ⟨rfl,down,exchange⟩ | ⟨rfl,exchange⟩
    · have told : (x.sent true down).modify x.old.length SentRequest.report = x.sent true true := modify_last
      dsimp only [Latest.timeout]
      apply tidy_set tidy
      rw [up,registered,exchange,told]
      exact .told x timerId
    · dsimp only [Latest.timeout]
      apply tidy_erase tidy
      rw [exchange]
      exact .idle _ _ (ended_snoc x.ended .reported)

-- A request without an answer is reported if the connection is its own.
theorem shutdown_sent (x : Latest C) (fired down : Bool) (connectionName : Bytes) :
    ∃ next, (down = true → next = true) ∧
      (x.sent fired down).map (SentRequest.shutdown connectionName) = x.sent fired next := by
  rw [Latest.sent,shutdown_map x.ended]
  by_cases own : x.name = connectionName
  · exact ⟨true,fun _ => rfl,congrArg (fun r => x.old ++ [r]) (if_pos ⟨own,rfl⟩)⟩
  · exact ⟨down,id,congrArg (fun r => x.old ++ [r]) (if_neg fun both => own both.1)⟩

theorem shutdown_answered (x : Latest C) (attributes : Attributes) (connectionName : Bytes) :
    (x.answered attributes).map (SentRequest.shutdown connectionName) = x.answered attributes := by
  rw [Latest.answered,shutdown_map x.ended]
  exact congrArg (fun r => x.old ++ [r]) (if_neg fun both => Bool.noConfusion both.2)

theorem shutdown_exchange (here : Tidy released entry e) (connectionName : Bytes)
    (orderly : ∀ receiver ∈ e.receivers, receiver.stage = .callback →
      ∀ r, e.requests[receiver.request]? = some r → r.connectionName ≠ connectionName) :
    Tidy released entry {e with requests:=e.requests.map (SentRequest.shutdown connectionName)} := by
  cases here with
  | idle _ old ended =>
    have same : old.map (SentRequest.shutdown connectionName) = old :=
      (List.map_congr_left fun r member => (ended r member).shutdown_same connectionName).trans (List.map_id _)
    rw [same]
    exact .idle released old ended
  | sent x down =>
    obtain ⟨next,_,same⟩ := shutdown_sent x false down connectionName
    rw [same]
    exact .sent x next
  | timed x down timerId valid =>
    obtain ⟨next,_,same⟩ := shutdown_sent x false down connectionName
    rw [same]
    exact .timed x next timerId valid
  | registered x down timerId valid =>
    obtain ⟨next,_,same⟩ := shutdown_sent x false down connectionName
    rw [same]
    exact .registered x next timerId valid
  | found x attributes timerId valid =>
    have other := orderly _ List.mem_cons_self rfl _ List.getElem?_concat_length
    have same : (x.acked attributes).map (SentRequest.shutdown connectionName) = x.acked attributes := by
      rw [Latest.acked,shutdown_map x.ended]
      exact congrArg (fun r => x.old ++ [r]) (if_neg fun both => other both.1)
    rw [same]
    exact .found x attributes timerId valid
  | called x attributes timerId valid =>
    rw [shutdown_answered]
    exact .called x attributes timerId valid
  | stopped x attributes timerId =>
    rw [shutdown_answered]
    exact .stopped x attributes timerId
  | firing x down timerId =>
    obtain ⟨next,_,same⟩ := shutdown_sent x true down connectionName
    rw [same]
    exact .firing x next timerId
  | told x timerId =>
    obtain ⟨next,kept,same⟩ := shutdown_sent x true true connectionName
    rw [same,kept rfl]
    exact .told x timerId
  | abandoned x timerId =>
    obtain ⟨next,kept,same⟩ := shutdown_sent x false true connectionName
    rw [same,kept rfl]
    exact .abandoned x timerId

theorem shutdown_tidy (tidy : AllTidy s) (orderly : s.Orderly (.onShutdown connectionName)) :
    AllTidy (s.onShutdown connectionName).1 := by
  unfold onShutdown
  split
  · exact tidy
  · intro seq
    exact shutdown_exchange (tidy seq) connectionName (orderly seq)

-- With no thread inside, a request is over or waits with its connection reported.
theorem release_exchange (here : Tidy released entry e) (unsent : e.senders = []) (unanswered : e.receivers = [])
    (untimed : e.timeouts = []) (finished : ∀ r ∈ e.requests, r.pending = false) : Tidy true none e := by
  cases here with
  | idle _ old ended => exact .idle true old ended
  | registered x down timerId valid =>
    have reported := finished _ (List.mem_append_right _ List.mem_cons_self)
    cases down with
    | true => exact .abandoned x timerId
    | false => cases reported
  | abandoned x timerId => exact .abandoned x timerId
  | sent | timed => cases unsent
  | found | called | stopped => cases unanswered
  | firing | told => cases untimed

theorem release_tidy (tidy : AllTidy s) (orderly : s.Orderly .release) : AllTidy s.release := by
  intro seq
  obtain ⟨unsent,unanswered,untimed,finished⟩ := orderly seq
  have gone : s.release.callbackMap[seq]? = none := ExtTreeMap.getElem?_empty
  rw [gone]
  exact release_exchange (tidy seq) unsent unanswered untimed finished

theorem step_tidy (s : RequestSocket C) (call : RequestCall C) (tidy : AllTidy s) (orderly : s.Orderly call) :
    AllTidy (s.step call).1 := by
  cases call with
  | sendRequest => exact send_tidy tidy orderly
  | otherRequest => exact tidy
  | senderRuns => exact sender_tidy tidy orderly
  | procDataReceive => exact ack_tidy tidy orderly
  | receiverRuns => exact receiver_tidy tidy
  | timerFires => exact timer_tidy tidy orderly
  | timeoutRuns => exact timeout_tidy tidy
  | onShutdown => exact shutdown_tidy tidy orderly
  | release => exact release_tidy tidy orderly

end Steps

end RequestSocket
end UserAuth
