import Mathlib.Algebra.BigOperators.Group.List.Basic
import Mathlib.Data.List.InsertIdx
import UserAuth.Remote.RequestStages

namespace UserAuth
open Std Attributes BaseSocket

variable {C : Type}

namespace Exchange

-- Nothing of the request is left to run.
structure Finished (e : Exchange C) (request : Nat) : Prop where
  sent : ∀ sender ∈ e.senders, sender.request ≠ request
  still : ∀ timer ∈ e.timers, timer.request ≠ request
  handled : ∀ receiver ∈ e.receivers, receiver.request ≠ request
  done : ∀ timeout ∈ e.timeouts, timeout.request ≠ request

structure Settled (e : Exchange C) (request : Nat) (r : SentRequest C) : Prop where
  once : r.answers.length ≤ 1
  own : ∀ callback attributes, (callback,attributes) ∈ r.answers →
    r.callback = some callback ∧ r.acked = some attributes
  apart : r.answers ≠ [] → r.reported = false
  ends : e.Finished request → r.answers ≠ [] ∨ r.reported = true
  delivered : ∀ attributes, r.acked = some attributes → (∀ receiver ∈ e.receivers, receiver.request ≠ request) →
    (∃ callback, r.callback = some callback ∧ r.answers = [(callback,attributes)]) ∧
      ∀ timer ∈ e.timers, timer.request ≠ request

-- How many operations its threads and timers still have before them.
def sendWork (sender : Sender C) : Nat :=
  match sender.stage with
  | .startReplyTimer => 5
  | .insertMsgCallback _ => 1

def ackWork (receiver : Receiver C) : Nat :=
  match receiver.stage with
  | .callback => 3
  | .stopReplyTimer => 2
  | .removeMsgCallback => 1

def timeoutWork (timeout : Timeout) : Nat :=
  match timeout.stage with
  | .onConnectionDown => 2
  | .removeMsgCallback => 1

def work (e : Exchange C) : Nat :=
  (e.senders.map sendWork).sum + e.timers.length * 3 + (e.receivers.map ackWork).sum + (e.timeouts.map timeoutWork).sum

end Exchange

namespace RequestSocket

-- Each operation of a request's own threads and timers brings it closer to its end.
def Descends (s : RequestSocket C) (call : RequestCall C) : Prop :=
  let next := (s.step call).1
  match call with
  | .senderRuns messageSeq thread _ => thread < (s.exchanges messageSeq).senders.length →
    (next.exchanges messageSeq).work < (s.exchanges messageSeq).work
  | .receiverRuns messageSeq thread => thread < (s.exchanges messageSeq).receivers.length →
    (next.exchanges messageSeq).work < (s.exchanges messageSeq).work
  | .timerFires messageSeq timer => timer < (s.exchanges messageSeq).timers.length →
    (next.exchanges messageSeq).work < (s.exchanges messageSeq).work
  | .timeoutRuns messageSeq thread => thread < (s.exchanges messageSeq).timeouts.length →
    (next.exchanges messageSeq).work < (s.exchanges messageSeq).work
  | _ => True

section Outcomes
variable {e : Exchange C} {n : Nat} {r : SentRequest C}

theorem Ended.settled (ended : Ended r) (still : ∀ timer ∈ e.timers, timer.request ≠ n) : e.Settled n r := by
  cases ended with
  | answered callback attributes =>
    refine ⟨Nat.le_refl _,?_,fun _ => rfl,fun _ => .inl (List.cons_ne_nil _ _),?_⟩
    · intro other received inside
      cases List.mem_singleton.mp inside
      exact ⟨rfl,rfl⟩
    · intro received acked _
      cases acked
      exact ⟨⟨callback,rfl,rfl⟩,still⟩
  | reported =>
    refine ⟨Nat.zero_le _,?_,fun answered => absurd rfl answered,fun _ => .inr rfl,?_⟩
    · exact fun _ _ none_ => (List.not_mem_nil none_).elim
    · exact fun _ none_ => nomatch none_

theorem waiting_settled {callback : Option C} (open_ : e.Finished n → reported = true) :
    e.Settled n ⟨name,callback,none,fired,[],reported⟩ := by
  refine ⟨Nat.zero_le _,?_,fun answered => absurd rfl answered,fun finished => .inr (open_ finished),?_⟩
  · exact fun _ _ none_ => (List.not_mem_nil none_).elim
  · exact fun _ none_ => nomatch none_

-- While an acknowledgement is handled, its request is as good as answered.
theorem handling_settled (handled : receiver ∈ e.receivers) (own : receiver.request = n) :
    e.Settled n ⟨name,some callback,some attributes,fired,[],false⟩ := by
  refine ⟨Nat.zero_le _,?_,fun answered => absurd rfl answered,?_,?_⟩
  · exact fun _ _ none_ => (List.not_mem_nil none_).elim
  · exact fun finished => absurd own (finished.handled receiver handled)
  · exact fun _ _ none_ => absurd own (none_ receiver handled)

theorem answered_settled {callback : C} (handled : receiver ∈ e.receivers) (own : receiver.request = n) :
    e.Settled n ⟨name,some callback,some attributes,fired,[(callback,attributes)],false⟩ := by
  refine ⟨Nat.le_refl _,?_,fun _ => rfl,fun _ => .inl (List.cons_ne_nil _ _),?_⟩
  · intro other received inside
    cases List.mem_singleton.mp inside
    exact ⟨rfl,rfl⟩
  · exact fun _ _ none_ => absurd own (none_ receiver handled)

theorem snoc_some {old : List (SentRequest C)} {last : SentRequest C} (held : (old ++ [last])[n]? = some r) :
    (n < old.length ∧ r ∈ old) ∨ (n = old.length ∧ last = r) := by
  rcases Nat.lt_or_ge n old.length with before | after
  · rw [List.getElem?_append_left before] at held
    exact .inl ⟨before,List.mem_of_getElem? held⟩
  · rw [List.getElem?_append_right after] at held
    obtain ⟨first,same⟩ := singleton_some held
    exact .inr ⟨by omega,same⟩

-- The requests before the last are over, and the timer left is the last one's.
theorem latest_settled (x : Latest C) {last : SentRequest C} (requests : e.requests = x.old ++ [last])
    (timers : ∀ timer ∈ e.timers, timer.request = x.old.length) (settled : e.Settled x.old.length last)
    (held : e.requests[n]? = some r) : e.Settled n r := by
  rw [requests] at held
  rcases snoc_some held with ⟨before,inside⟩ | ⟨rfl,rfl⟩
  · exact (x.ended r inside).settled fun timer member => timers timer member ▸ before.ne'
  · exact settled

theorem tidy_settled {released : Bool} {entry : Option (CallbackInfo (Nat × C))} (here : Tidy released entry e)
    (held : e.requests[n]? = some r) : e.Settled n r := by
  have none_ : ∀ {x : Latest C}, ∀ timer ∈ ([] : List ReplyTimer), timer.request = x.old.length :=
    fun _ member => (List.not_mem_nil member).elim
  have own : ∀ {x : Latest C} {timerId : UInt32}, ∀ timer ∈ [x.timer timerId], timer.request = x.old.length :=
    List.forall_mem_singleton.mpr rfl
  cases here with
  | idle _ old ended =>
    exact (ended r (List.mem_of_getElem? held)).settled fun _ member => (List.not_mem_nil member).elim
  | sent x down =>
    apply latest_settled x rfl none_ _ held
    exact waiting_settled fun finished => absurd rfl (finished.sent _ List.mem_cons_self)
  | timed x down timerId valid =>
    apply latest_settled x rfl own _ held
    exact waiting_settled fun finished => absurd rfl (finished.sent _ List.mem_cons_self)
  | registered x down timerId valid =>
    apply latest_settled x rfl own _ held
    exact waiting_settled fun finished => absurd rfl (finished.still _ List.mem_cons_self)
  | found x attributes timerId valid => exact latest_settled x rfl own (handling_settled List.mem_cons_self rfl) held
  | called x attributes timerId valid => exact latest_settled x rfl own (answered_settled List.mem_cons_self rfl) held
  | stopped x attributes timerId => exact latest_settled x rfl none_ (answered_settled List.mem_cons_self rfl) held
  | firing x down timerId =>
    apply latest_settled x rfl none_ _ held
    exact waiting_settled fun finished => absurd rfl (finished.done _ List.mem_cons_self)
  | told x timerId => exact latest_settled x rfl none_ (waiting_settled fun _ => rfl) held
  | abandoned x timerId => exact latest_settled x rfl own (waiting_settled fun _ => rfl) held

end Outcomes

section Work
variable {α : Type} (weight : α → Nat) {threads : List α} {thread : Nat} {current : α}

theorem sum_set (next : α) (running : threads[thread]? = some current) :
    ((threads.set thread next).map weight).sum + weight current = (threads.map weight).sum + weight next := by
  induction threads generalizing thread with
  | nil => cases running
  | cons first rest ih =>
    cases thread with
    | zero =>
      cases running
      simp only [List.set_cons_zero,List.map_cons,List.sum_cons]
      omega
    | succ thread =>
      have later : ((rest.set thread next).map weight).sum + weight current = (rest.map weight).sum + weight next :=
        ih running
      simp only [List.set_cons_succ,List.map_cons,List.sum_cons]
      omega

theorem sum_eraseIdx (running : threads[thread]? = some current) :
    weight current + ((threads.eraseIdx thread).map weight).sum = (threads.map weight).sum := by
  obtain ⟨inside,rfl⟩ := List.getElem?_eq_some_iff.mp running
  have placed : thread < (threads.map weight).length := by rwa [List.length_map]
  rw [← List.eraseIdx_map,← List.CommMonoid.add_sum_eraseIdx placed,List.getElem_map]

theorem length_eraseIdx_some (running : threads[thread]? = some current) :
    (threads.eraseIdx thread).length + 1 = threads.length := by
  obtain ⟨inside,_⟩ := List.getElem?_eq_some_iff.mp running
  rw [List.length_eraseIdx_of_lt inside]
  omega

end Work

section Descent
variable {s : RequestSocket C} {seq : UInt32} {thread : Nat}

theorem set_work (s : RequestSocket C) (seq : UInt32) (e : Exchange C) :
    ((s.setExchange seq e).exchanges seq).work = e.work := by
  rw [setExchange]
  dsimp only
  rw [Function.update_self]

theorem sender_descends {sender : Sender C} (running : (s.exchanges seq).senders[thread]? = some sender)
    (timerId : UInt32) : ((s.senderRuns seq thread timerId).exchanges seq).work < (s.exchanges seq).work := by
  unfold senderRuns
  dsimp only
  rw [running]
  obtain ⟨request,name,callback,stage⟩ := sender
  have erased := sum_eraseIdx Exchange.sendWork running
  cases stage with
  | startReplyTimer =>
    have set := fun timerId => sum_set Exchange.sendWork
      ⟨request,name,callback,.insertMsgCallback timerId⟩ running
    dsimp only [Exchange.sendWork] at erased set
    dsimp only
    split
    · have less := set (getReplyTimer s.callbackMap seq)
      rw [set_work]
      dsimp only [Exchange.work]
      omega
    · split
      · rw [set_work]
        dsimp only [Exchange.work]
        omega
      · have less := set timerId
        rw [set_work]
        dsimp only [Exchange.work]
        rw [List.length_append,List.length_singleton]
        omega
  | insertMsgCallback timerId =>
    dsimp only [Exchange.sendWork] at erased
    dsimp only
    rw [set_work]
    dsimp only [Exchange.work]
    omega

theorem receiver_descends {receiver : Receiver C} (running : (s.exchanges seq).receivers[thread]? = some receiver) :
    ((s.receiverRuns seq thread).1.exchanges seq).work < (s.exchanges seq).work := by
  unfold receiverRuns
  dsimp only
  rw [running]
  obtain ⟨request,callback,attributes,stage⟩ := receiver
  have erased := sum_eraseIdx Exchange.ackWork running
  cases stage with
  | callback =>
    have set := sum_set Exchange.ackWork ⟨request,callback,attributes,.stopReplyTimer⟩ running
    dsimp only [Exchange.ackWork] at set
    dsimp only
    rw [set_work]
    dsimp only [Exchange.work]
    omega
  | stopReplyTimer =>
    have set := sum_set Exchange.ackWork ⟨request,callback,attributes,.removeMsgCallback⟩ running
    have fewer := List.length_filter_le (·.timerId != getReplyTimer s.callbackMap seq) (s.exchanges seq).timers
    dsimp only [Exchange.ackWork] at set
    dsimp only
    rw [set_work]
    dsimp only [Exchange.work]
    split <;> omega
  | removeMsgCallback =>
    dsimp only [Exchange.ackWork] at erased
    dsimp only
    rw [set_work]
    dsimp only [Exchange.work]
    omega

theorem timer_descends {replyTimer : ReplyTimer} (running : (s.exchanges seq).timers[thread]? = some replyTimer) :
    ((s.timerFires seq thread).exchanges seq).work < (s.exchanges seq).work := by
  unfold timerFires
  dsimp only
  rw [running]
  have fewer := length_eraseIdx_some running
  dsimp only
  split
  · rw [set_work]
    dsimp only [Exchange.work]
    omega
  · split
    · rw [set_work]
      dsimp only [Exchange.work]
      omega
    · rw [set_work]
      dsimp only [Exchange.work]
      rw [List.map_append,List.sum_append,List.map_singleton,List.sum_singleton]
      dsimp only [Exchange.timeoutWork]
      omega

theorem timeout_descends {timeout : Timeout} (running : (s.exchanges seq).timeouts[thread]? = some timeout) :
    ((s.timeoutRuns seq thread).1.exchanges seq).work < (s.exchanges seq).work := by
  unfold timeoutRuns
  dsimp only
  rw [running]
  obtain ⟨request,name,stage⟩ := timeout
  have erased := sum_eraseIdx Exchange.timeoutWork running
  cases stage with
  | onConnectionDown =>
    have set := sum_set Exchange.timeoutWork ⟨request,name,.removeMsgCallback⟩ running
    dsimp only [Exchange.timeoutWork] at set
    dsimp only
    rw [set_work]
    dsimp only [Exchange.work]
    omega
  | removeMsgCallback =>
    dsimp only [Exchange.timeoutWork] at erased
    dsimp only
    rw [set_work]
    dsimp only [Exchange.work]
    omega

theorem step_descends (s : RequestSocket C) (call : RequestCall C) : s.Descends call := by
  cases call with
  | senderRuns seq thread timerId => exact fun inside => sender_descends (List.getElem?_eq_getElem inside) timerId
  | receiverRuns seq thread => exact fun inside => receiver_descends (List.getElem?_eq_getElem inside)
  | timerFires seq timer => exact fun inside => timer_descends (List.getElem?_eq_getElem inside)
  | timeoutRuns seq thread => exact fun inside => timeout_descends (List.getElem?_eq_getElem inside)
  | sendRequest | otherRequest | procDataReceive | onShutdown | release => trivial

end Descent

theorem empty_tidy : AllTidy ({} : RequestSocket C) := by
  intro seq
  have none_ : (({} : RequestSocket C).callbackMap)[seq]? = none := ExtTreeMap.getElem?_empty
  rw [none_]
  exact .idle false [] fun _ member => (List.not_mem_nil member).elim

theorem requests_settle (calls : List (RequestCall C)) (orderly : machine.Meets Orderly {} calls) :
    (∀ (messageSeq : UInt32) (request : Nat) (r : SentRequest C),
      ((machine.after {} calls).exchanges messageSeq).requests[request]? = some r →
        ((machine.after {} calls).exchanges messageSeq).Settled request r) ∧
    machine.Meets Descends {} calls := by
  constructor
  · intro messageSeq request r held
    have tidy : AllTidy (machine.after {} calls) :=
      Mealy.guarded_history (m:=machine) (P:=fun s _ => AllTidy s) (fun s _ call tidy met => step_tidy s call tidy met)
        (h:=[]) empty_tidy orderly
    exact tidy_settled (tidy messageSeq) held
  · apply Mealy.meets_of_guarded (m:=machine) (Q:=fun _ => True) (c:=Orderly) _ trivial orderly
    exact fun s call _ _ => ⟨trivial,step_descends s call⟩

def requestInfo : ConnectionInfo Nat := ⟨1,ascii "name",ascii "src",ascii "dest",some empty,some 7⟩
def requestSent : RequestCall Nat := .sendRequest requestInfo (some SoftBusMessage.ownUdid) true
def requestAck : SoftBusMessage := {messageSeq:=1,isAck:=true,attributes:=some empty}

def afterSending : RequestSocket Nat :=
  setExchange {messageSeq:=1} 1
    {senders:=[⟨0,ascii "name",some 7,.startReplyTimer⟩],requests:=[⟨ascii "name",some 7,none,false,[],false⟩]}

theorem request_sent : (machine.step {} requestSent).1 = afterSending := by
  have names : ∀ name ∈ (SoftBusMessage.create 1 (ascii "name") (ascii "src") (ascii "dest") (some empty)).names,
      name.length ≤ MAX_ATTR_LENGTH := by decide
  obtain ⟨request,made⟩ := Option.isSome_iff_exists.mp
    ((SoftBusMessage.createMessage_isSome SoftBusMessage.payload_empty rfl).mpr names)
  have made : createRequest requestInfo 1 (some SoftBusMessage.ownUdid) = some request := made
  change (sendRequest {} requestInfo (some SoftBusMessage.ownUdid) true).1 = afterSending
  unfold sendRequest
  have first : ({} : RequestSocket Nat).messageSeq + 1 = 1 := rfl
  have valid : ¬requestInfo.socketId = INVALID_SOCKET_ID := by decide
  dsimp only
  rw [if_neg Bool.false_ne_true,if_neg (by decide),if_neg valid,first,made]
  rfl

def oneRequest : List (RequestCall Nat) :=
  [requestSent,.senderRuns 1 0 1,.senderRuns 1 0 1,.procDataReceive requestAck,.receiverRuns 1 0,.receiverRuns 1 0,
    .receiverRuns 1 0]

theorem one_request_orderly : machine.Meets Orderly {} oneRequest := by
  refine ⟨fun _ => ⟨rfl,by decide,⟨ExtTreeMap.getElem?_empty,rfl⟩⟩,?_⟩
  rw [request_sent]
  refine ⟨?_,?_,?_,trivial,trivial,trivial,trivial⟩
  · intro sender _ _
    decide
  · intro sender _ _
    decide
  · refine .inr (.inr (.inr ⟨by decide,rfl,rfl,?_⟩))
    intro r last
    cases last
    rfl

theorem one_request_settles : ∃ r : SentRequest Nat, r.answers = [(7,empty)] ∧ r.reported = false ∧
    ((machine.after {} oneRequest).exchanges 1).Settled 0 r := by
  have held : ((machine.after {} oneRequest).exchanges 1).requests[0]? =
      some ⟨ascii "name",some 7,some empty,false,[(7,empty)],false⟩ := by
    rw [oneRequest,Mealy.after_cons,request_sent]
    rfl
  exact ⟨_,rfl,rfl,(requests_settle oneRequest one_request_orderly).1 1 0 _ held⟩

-- The acknowledgement overtakes InsertMsgCallback, finds nothing and is dropped.
theorem early_ack_dropped :
    ¬∀ (calls : List (RequestCall Nat)) (messageSeq : UInt32) (request : Nat) (r : SentRequest Nat),
      ((machine.after {} calls).exchanges messageSeq).requests[request]? = some r →
        ((machine.after {} calls).exchanges messageSeq).Settled request r := by
  intro all
  have held : ((machine.after {} [requestSent,.procDataReceive requestAck,.senderRuns 1 0 1,
      .senderRuns 1 0 1]).exchanges 1).requests[0]? = some ⟨ascii "name",some 7,some empty,false,[],false⟩ := by
    rw [Mealy.after_cons,request_sent]
    rfl
  have settled := all _ 1 0 _ held
  obtain ⟨⟨_,_,answered⟩,_⟩ := settled.delivered empty rfl (by
    rw [Mealy.after_cons,request_sent]
    exact fun _ none_ => (List.not_mem_nil none_).elim)
  cases answered

end RequestSocket
end UserAuth
