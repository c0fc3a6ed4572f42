import UserAuth.Widget.WidgetChildren
import UserAuth.Widget.WidgetRelease

namespace UserAuth
open Attributes WidgetContext WidgetScheduleNode

-- What a call hands to the schedule: the data goes into the node's fields, and
-- the event goes into the queue.
inductive WidgetRequest where
  | start (authTypeList : List AuthType) (endAfterFirstFail : Bool) (authIntent : AuthIntent)
  | stop (authTypeList : List AuthType)
  | success (authType : AuthType)
  deriving DecidableEq

namespace WidgetRequest

def event : WidgetRequest → Event
  | .start _ _ _ => .E_START_AUTH
  | .stop _ => .E_UPDATE_AUTH
  | .success _ => .E_COMPLETE_AUTH

-- Two requests of one kind with different data.
def clashes : WidgetRequest → WidgetRequest → Bool
  | .start authTypeList endAfterFirstFail authIntent,.start authTypeList' endAfterFirstFail' authIntent' =>
    authTypeList != authTypeList' || endAfterFirstFail != endAfterFirstFail' || authIntent != authIntent'
  | .stop authTypeList,.stop authTypeList' => authTypeList != authTypeList'
  | _,_ => false

-- The node's fields hold the request's data.
def Held (node : WidgetScheduleNodeImpl) : WidgetRequest → Prop
  | .start authTypeList endAfterFirstFail authIntent =>
    node.startAuthTypeList = authTypeList ∧ node.endAfterFirstFail = endAfterFirstFail ∧ node.authIntent = authIntent
  | .stop authTypeList => node.stopAuthTypeList = authTypeList
  | .success _ => True

end WidgetRequest

-- A session with its live children and the requests whose events are queued,
-- oldest first.
structure WidgetRequestRun where
  session : WidgetSession
  live : List TaskInfo := []
  waiting : List WidgetRequest := []

def WidgetContext.ScheduleCall.request : ScheduleCall → Option WidgetRequest
  | .startAuthList authTypeList endAfterFirstFail authIntent => some (.start authTypeList endAfterFirstFail authIntent)
  | .stopAuthList authTypeList => some (.stop authTypeList)
  | .notifyAuthSuccess authType => some (.success authType)
  | _ => none

def WidgetScheduleNode.Event.carries : Event → Bool
  | .E_START_AUTH | .E_UPDATE_AUTH | .E_COMPLETE_AUTH => true
  | _ => false

namespace WidgetSession

def requestOf : Output → Option WidgetRequest
  | .schedule call => call.request
  | _ => none

def requests (outputs : List Output) : List WidgetRequest := outputs.filterMap requestOf

-- The widget's notices ask the schedule directly.
def noticeRequests (owner : Owner) (notice : WidgetNotice) (authTypeList : List AuthType) : List WidgetRequest :=
  if !owner.client.scheduled then []
  else match notice.event with
    | .NOTICE_EVENT_AUTH_READY => [.start authTypeList notice.endAfterFirstFail notice.authIntent]
    | .NOTICE_EVENT_CANCEL_AUTH => if authTypeList == [AuthType.ALL] then [] else [.stop authTypeList]
    | .NOTICE_EVENT_END => [.stop authTypeList]
    | _ => []

-- Every request made in a step, in the order of the calls.
def made (s : WidgetSession) : Input → List WidgetRequest
  | .notice notice authTypeList => noticeRequests s.owner notice authTypeList
  | input => requests (step s input).2

def launchedBy : Input → List Output → List TaskInfo
  | .scheduleInner env,outputs => launchedChildren env outputs
  | .context _ env,outputs => launchedChildren env outputs
  | _,_ => []

end WidgetSession

namespace WidgetRequestRun
open WidgetSession

inductive Input where
  | session (input : WidgetSession.Input)
  -- One of the live children reports.
  | result (index : Nat) (resultCode : ResultCode) (finalResult : Attributes) (env : WidgetContext.Env)

def Input.toSession (live : List TaskInfo) : Input → Option WidgetSession.Input
  | .session (.context (.onChildAuthResult _ _ _) _) => none
  | .session input => some input
  | .result index resultCode finalResult env =>
    live[index]?.map fun taskInfo => .context (.onChildAuthResult resultCode taskInfo.authType finalResult) env

def Input.leaves (live : List TaskInfo) : Input → List TaskInfo
  | .session _ => live
  | .result index _ _ _ => live.eraseIdx index

-- The event that a step takes up, where it carries a request.
def due (s : WidgetRequestRun) (input : Input) : Option Event :=
  ((input.toSession s.live).bind s.session.taken).filter Event.carries

def left (s : WidgetRequestRun) (input : Input) : List WidgetRequest :=
  if (s.due input).isSome then s.waiting.tail else s.waiting

def step (s : WidgetRequestRun) (input : Input) : WidgetRequestRun × List Output :=
  match input.toSession s.live with
  | none => (s,[])
  | some inner =>
    let moved := WidgetSession.step s.session inner
    (⟨moved.1,input.leaves s.live ++ launchedBy inner moved.2,s.left input ++ made s.session inner⟩,moved.2)

def machine : Mealy WidgetRequestRun Input Output := ⟨step⟩

def create (context : WidgetContext) : WidgetRequestRun := ⟨WidgetSession.create context,[],[]⟩

end WidgetRequestRun

namespace WidgetSession
open WidgetRequest

theorem requests_append (xs ys : List Output) : requests (xs ++ ys) = requests xs ++ requests ys :=
  List.filterMap_append

@[simp] theorem requests_nil : requests [] = [] := rfl

-- A stretch of the schedule's work: what it queues for requests is what it asks,
-- and where no two requests clash the fields hold all of them.
structure Asks (node : WidgetScheduleNodeImpl) (asked : List WidgetRequest) (moved : Owner × List Event) : Prop where
  queued : moved.2.filter Event.carries = asked.map event
  held : ∀ waiting : List WidgetRequest, (∀ request ∈ waiting, Held node request) →
    (∀ one ∈ waiting ++ asked, ∀ two ∈ waiting ++ asked, one.clashes two = false) →
      ∀ request ∈ waiting ++ asked, Held moved.1.node request

section Asking
variable {owner : Owner} {node : WidgetScheduleNodeImpl}

structure SameRequests (node next : WidgetScheduleNodeImpl) : Prop where
  start : next.startAuthTypeList = node.startAuthTypeList
  flag : next.endAfterFirstFail = node.endAfterFirstFail
  intent : next.authIntent = node.authIntent
  stop : next.stopAuthTypeList = node.stopAuthTypeList

theorem SameRequests.held (same : SameRequests node next) (held : Held node request) : Held next request := by
  cases request with
  | start authTypeList endAfterFirstFail authIntent =>
    exact ⟨same.start.trans held.1,same.flag.trans held.2.1,same.intent.trans held.2.2⟩
  | stop authTypeList => exact same.stop.trans held
  | success authType => trivial

theorem asks_none {moved : Owner × List Event} (queued : moved.2.filter Event.carries = [])
    (same : SameRequests node moved.1.node) : Asks node [] moved := by
  refine ⟨queued,fun waiting held _ request member => same.held (held request ?_)⟩
  simpa using member

-- One request goes in: those of its kind hold the same data or clash with it.
theorem asks_one {moved : Owner × List Event} (queued : moved.2.filter Event.carries = [request.event])
    (now : Held moved.1.node request)
    (others : ∀ other, other.clashes request = false → Held node other → Held moved.1.node other) :
    Asks node [request] moved := by
  refine ⟨queued,fun waiting held apart other member => ?_⟩
  rcases List.mem_append.mp member with before | last
  · exact others other (apart other member request (by simp)) (held other before)
  · obtain rfl := List.mem_singleton.mp last
    exact now

theorem Asks.trans {first second third : Owner × List Event} (one : Asks node asked first)
    (two : Asks first.1.node more second) (same : third = (second.1,first.2 ++ second.2)) :
    Asks node (asked ++ more) third := by
  subst same
  refine ⟨?_,fun waiting held apart request member => ?_⟩
  · rw [List.filter_append,one.queued,two.queued,List.map_append]
  · rw [←List.append_assoc] at member apart
    refine two.held (waiting ++ asked) ?_ apart request member
    refine one.held waiting held fun a first b second => ?_
    exact apart a (List.mem_append_left _ first) b (List.mem_append_left _ second)

theorem kick_asks (owner : Owner) (call : ScheduleCall) : Asks owner.node call.request.toList (kick owner call) := by
  have same : SameRequests owner.node owner.node := ⟨rfl,rfl,rfl,rfl⟩
  cases call with
  | startAuthList authTypeList endAfterFirstFail authIntent =>
    refine asks_one rfl ⟨rfl,rfl,rfl⟩ fun other agrees held => ?_
    cases other with
    | start authTypeList' endAfterFirstFail' authIntent' =>
      simp only [clashes,Bool.or_eq_false_iff,bne_eq_false_iff_eq] at agrees
      exact ⟨agrees.1.1.symm,agrees.1.2.symm,agrees.2.symm⟩
    | stop authTypeList' => exact held
    | success authType => trivial
  | stopAuthList authTypeList =>
    refine asks_one rfl rfl fun other agrees held => ?_
    cases other with
    | start authTypeList' endAfterFirstFail' authIntent' => exact held
    | stop authTypeList' =>
      simp only [clashes,bne_eq_false_iff_eq] at agrees
      exact agrees.symm
    | success authType => trivial
  | notifyAuthSuccess authType =>
    refine asks_one rfl trivial fun other _ held => ?_
    have same : SameRequests owner.node (kick owner (.notifyAuthSuccess authType)).1.node := ⟨rfl,rfl,rfl,rfl⟩
    exact same.held held
  | _ => exact asks_none rfl ⟨rfl,rfl,rfl,rfl⟩

theorem Asks.start (asks : Asks node asked moved) (same : SameRequests before node) : Asks before asked moved :=
  ⟨asks.queued,fun waiting held => asks.held waiting fun request member => same.held (held request member)⟩

def moved (ran : Ran) : Owner × List Event := (ran.1,ran.2.1)

theorem clearSchedule_asks (owner : Owner) : Asks owner.node [] (moved (clearSchedule owner)) := by
  unfold clearSchedule
  split
  · exact asks_none rfl ⟨rfl,rfl,rfl,rfl⟩
  · exact asks_none rfl ⟨rfl,rfl,rfl,rfl⟩

theorem take_asks (owner : Owner) (output : Output) :
    Asks owner.node (requestOf output).toList (moved (take owner output)) := by
  cases output with
  | schedule call => exact kick_asks owner call
  | clientClearSchedule => exact clearSchedule_asks owner
  | _ => exact asks_none rfl ⟨rfl,rfl,rfl,rfl⟩

theorem requests_cons (output : Output) (rest : List Output) :
    requests (output :: rest) = (requestOf output).toList ++ requests rest := by
  cases asked : requestOf output <;> simp [requests,asked]

theorem route_asks (owner : Owner) (outputs : List Output) :
    Asks owner.node (requests outputs) (moved (route owner outputs)) := by
  induction outputs generalizing owner with
  | nil => exact asks_none rfl ⟨rfl,rfl,rfl,rfl⟩
  | cons output rest ih =>
    rw [requests_cons]
    exact (take_asks owner output).trans (ih (take owner output).1) rfl

theorem onWidgetTip_unasked (authTypeList : List AuthType) (tipCode : Int32) :
    requests (onWidgetTip authTypeList tipCode) = [] := by
  induction authTypeList with
  | nil => rfl
  | cons authType rest ih =>
    have split : onWidgetTip (authType :: rest) tipCode =
      onScheduleAuthTip authType tipCode ++ onWidgetTip rest tipCode := List.flatMap_cons
    have none : requests (onScheduleAuthTip authType tipCode) = [] := by
      unfold onScheduleAuthTip
      cases Attributes.empty.set (setInt32Value ATTR_TIP_INFO tipCode) <;> rfl
    rw [split,requests_append,none,ih]
    rfl

theorem clearSchedule_unasked (owner : Owner) : requests (clearSchedule owner).2.2 = [] := by
  unfold clearSchedule
  split
  · rfl
  · dsimp only
    split
    · exact onWidgetTip_unasked _ _
    · rfl

theorem take_unasked (owner : Owner) (output : Output) : requests (take owner output).2.2 = [] := by
  cases output with
  | clientClearSchedule => exact clearSchedule_unasked owner
  | _ => rfl

theorem route_requests (owner : Owner) (outputs : List Output) : requests (route owner outputs).2.2 = requests outputs := by
  induction outputs generalizing owner with
  | nil => rfl
  | cons output rest ih => rw [route,requests_cons,requests_append,take_unasked,ih,requests_cons,List.nil_append]

end Asking

-- An action that queues what it asks.
def Asking (action : Action) : Prop :=
  ∀ env owner, Asks owner.node (requests (action env owner).2.2) (moved (action env owner))

section Actions

theorem run_asks (owner : Owner) (outcome : Outcome) :
    Asks owner.node (requests (run owner outcome).2.2) (moved (run owner outcome)) := by
  have asks := route_asks {owner with context:=outcome.1} outcome.2
  rw [←route_requests {owner with context:=outcome.1} outcome.2] at asks
  exact asks

theorem asking_of {handler : WidgetContext.Env → Owner → Outcome} {before : Owner → Owner}
    (same : ∀ owner, SameRequests owner.node (before owner).node) :
    Asking fun env owner => run (before owner) (handler env owner) :=
  fun _ owner => (run_asks _ _).start (same owner)

theorem runOrCancel_asking {handler : WidgetContext.Env → Owner → Outcome × Bool} :
    Asking fun env owner => runOrCancel owner (handler env owner) := by
  intro env owner
  have asks := run_asks owner (handler env owner).1
  unfold runOrCancel
  dsimp only
  split
  · exact asks
  · have cancel : Asks (run owner (handler env owner).1).1.node [] ((run owner (handler env owner).1).1,[.E_CANCEL_AUTH]) :=
      asks_none rfl ⟨rfl,rfl,rfl,rfl⟩
    have both : Asks owner.node (requests (run owner (handler env owner).1).2.2 ++ []) (_,_) := asks.trans cancel rfl
    rw [List.append_nil] at both
    exact both

@[simp] theorem onGetRemoteAuthParam_asking : Asking onGetRemoteAuthParam := asking_of fun _ => ⟨rfl,rfl,rfl,rfl⟩
@[simp] theorem onStartSchedule_asking : Asking onStartSchedule := runOrCancel_asking
@[simp] theorem onStopSchedule_asking : Asking onStopSchedule := asking_of fun _ => ⟨rfl,rfl,rfl,rfl⟩
@[simp] theorem onStartAuth_asking : Asking onStartAuth := asking_of fun _ => ⟨rfl,rfl,rfl,rfl⟩
@[simp] theorem onStartDirectAuth_asking : Asking onStartDirectAuth := onStartAuth_asking
@[simp] theorem onStopAuthList_asking : Asking onStopAuthList := asking_of fun _ => ⟨rfl,rfl,rfl,rfl⟩
@[simp] theorem onSuccessAuth_asking : Asking onSuccessAuth := asking_of fun _ => ⟨rfl,rfl,rfl,rfl⟩
@[simp] theorem onFailAuth_asking : Asking onFailAuth := asking_of fun _ => ⟨rfl,rfl,rfl,rfl⟩
@[simp] theorem onNaviPinAuth_asking : Asking onNaviPinAuth := asking_of fun _ => ⟨rfl,rfl,rfl,rfl⟩
@[simp] theorem onWidgetParaInvalid_asking : Asking onWidgetParaInvalid := asking_of fun _ => ⟨rfl,rfl,rfl,rfl⟩
@[simp] theorem onWidgetReloadInit_asking : Asking onWidgetReloadInit := asking_of fun _ => ⟨rfl,rfl,rfl,rfl⟩
@[simp] theorem onWidgetReload_asking : Asking onWidgetReload := runOrCancel_asking
@[simp] theorem onWidgetRelease_asking : Asking onWidgetRelease := asking_of fun _ => ⟨rfl,rfl,rfl,rfl⟩
@[simp] theorem onSendAuthResult_asking : Asking onSendAuthResult := asking_of fun _ => ⟨rfl,rfl,rfl,rfl⟩

theorem transition_asking (found : transitionMap state cause = some (next,action)) : Asking action := by
  unfold transitionMap at found
  split at found <;> cases found <;> simp

theorem processNotice_asks (owner : Owner) (notice : WidgetNotice) (authTypeList : List AuthType) :
    Asks owner.node (noticeRequests owner notice authTypeList) (moved (processNotice owner notice authTypeList)) := by
  have none {ran : Ran} (queued : ran.2.1.filter Event.carries = []) (same : SameRequests owner.node ran.1.node) :
    Asks owner.node [] (moved ran) := asks_none queued same
  unfold processNotice noticeRequests
  split
  · exact none rfl ⟨rfl,rfl,rfl,rfl⟩
  · cases notice.event with
    | NOTICE_EVENT_AUTH_READY => exact kick_asks owner (.startAuthList authTypeList notice.endAfterFirstFail notice.authIntent)
    | NOTICE_EVENT_CANCEL_AUTH =>
      dsimp only
      split
      · exact none rfl ⟨rfl,rfl,rfl,rfl⟩
      · exact kick_asks owner (.stopAuthList authTypeList)
    | NOTICE_EVENT_END => exact kick_asks owner (.stopAuthList authTypeList)
    | NOTICE_EVENT_RELOAD =>
      dsimp only
      split
      · split <;> exact none rfl ⟨rfl,rfl,rfl,rfl⟩
      · exact none rfl ⟨rfl,rfl,rfl,rfl⟩
    | NOTICE_EVENT_AUTH_WIDGET_LOADED =>
      dsimp only [widgetLoad]
      split <;> exact none rfl ⟨rfl,rfl,rfl,rfl⟩
    | NOTICE_EVENT_PROCESS_TERMINATE => exact clearSchedule_asks owner
    | NOTICE_EVENT_COMPLETE_AUTH =>
      dsimp only
      split
      · exact none rfl ⟨rfl,rfl,rfl,rfl⟩
      · simp only [onWidgetResult]
        split <;> exact none rfl ⟨rfl,rfl,rfl,rfl⟩
    | _ => exact none rfl ⟨rfl,rfl,rfl,rfl⟩

theorem forceStopAuth_asks (owner : Owner) : Asks owner.node [] (moved (forceStopAuth owner)) := by
  unfold forceStopAuth
  split
  · exact asks_none rfl ⟨rfl,rfl,rfl,rfl⟩
  · have cleared := clearSchedule_asks owner
    exact ⟨cleared.queued,cleared.held⟩

theorem forceStopAuth_unasked (owner : Owner) : requests (forceStopAuth owner).2.2 = [] := by
  unfold forceStopAuth
  split
  · rfl
  · exact clearSchedule_unasked owner

end Actions

-- What a step leaves in the queue: the rest, and then what it has asked.
theorem step_asks (s : WidgetSession) (input : Input) : ∃ new,
    (step s input).1.pendingEvents = (if (s.taken input).isSome then s.pendingEvents.tail else s.pendingEvents) ++ new ∧
      Asks s.owner.node (made s input) ((step s input).1.owner,new) := by
  cases input with
  | scheduleInner env =>
    cases pending : s.pendingEvents with
    | nil =>
      refine ⟨[],?_,?_⟩
      · simp [taken,turn_idles env pending,pending]
      · simp only [made,turn_idles env pending]
        exact asks_none rfl ⟨rfl,rfl,rfl,rfl⟩
    | cons first rest =>
      cases found : transitionMap s.currentState first with
      | none =>
        refine ⟨[],?_,?_⟩
        · simp [taken,turn_drops env pending found,pending]
        · simp only [made,turn_drops env pending found]
          exact asks_none rfl ⟨rfl,rfl,rfl,rfl⟩
      | some transition =>
        obtain ⟨next,action⟩ := transition
        refine ⟨(action env s.owner).2.1,?_,?_⟩
        · simp [taken,turn_acts env pending found,pending]
        · simp only [made,turn_acts env pending found]
          exact transition_asking found env s.owner
  | context call env =>
    exact ⟨_,rfl,run_asks s.owner _⟩
  | notice notice authTypeList => exact ⟨_,rfl,processNotice_asks s.owner notice authTypeList⟩
  | forceStopAuth =>
    have silent : made s .forceStopAuth = [] := forceStopAuth_unasked s.owner
    rw [silent]
    exact ⟨_,rfl,forceStopAuth_asks s.owner⟩
  | forceStopAuthOf =>
    have silent : made s .forceStopAuthOf = [] := clearSchedule_unasked s.owner
    rw [silent]
    exact ⟨_,rfl,clearSchedule_asks s.owner⟩
  | clientMoved loadedAuthTypeList => exact ⟨[],by simp [taken,step],asks_none rfl ⟨rfl,rfl,rfl,rfl⟩⟩

end WidgetSession

namespace WidgetRequestRun
open WidgetRequest

-- The queue holds one event for each request that waits.
def Aligned (s : WidgetRequestRun) : Prop := s.session.pendingEvents.filter Event.carries = s.waiting.map event

-- No two requests of a kind wait with different data.
def Undisputed (s : WidgetRequestRun) (input : Input) : Prop :=
  ∀ one ∈ (step s input).1.waiting, ∀ two ∈ (step s input).1.waiting, one.clashes two = false

def HeldAll (s : WidgetRequestRun) : Prop := ∀ request ∈ s.waiting, Held s.session.owner.node request

section Steps
variable {s : WidgetRequestRun}

theorem taken_head (found : WidgetSession.taken s.session input = some first) :
    ∃ rest, s.session.pendingEvents = first :: rest := by
  cases input with
  | scheduleInner env => exact List.head?_eq_some_iff.mp found
  | _ => cases found

theorem left_aligned (aligned : Aligned s) (inner : Input.toSession s.live input = some input') :
    (if (s.session.taken input').isSome then s.session.pendingEvents.tail else s.session.pendingEvents).filter
      Event.carries = (s.left input).map event := by
  have due : s.due input = (s.session.taken input').filter Event.carries := by simp [WidgetRequestRun.due,inner]
  unfold left
  rw [due]
  cases found : s.session.taken input' with
  | none => exact aligned
  | some first =>
    obtain ⟨rest,pending⟩ := taken_head found
    unfold Aligned at aligned
    rw [pending] at aligned ⊢
    by_cases carries : first.carries = true
    · rw [List.filter_cons_of_pos carries] at aligned
      simp only [Option.isSome_some,if_true,Option.filter_some,carries,List.tail_cons,List.map_tail,←aligned]
    · rw [List.filter_cons_of_neg carries] at aligned
      simpa [Option.filter_some,carries] using aligned

-- The requests that wait after a step, and what the session has made of them.
theorem step_waiting (aligned : Aligned s) (input : Input) :
    Aligned (step s input).1 ∧ (HeldAll s → Undisputed s input → HeldAll (step s input).1) := by
  cases inner : input.toSession s.live with
  | none =>
    have idle : step s input = (s,[]) := by simp [step,inner]
    rw [idle]
    exact ⟨aligned,fun held _ => held⟩
  | some input' =>
    obtain ⟨new,pending,asks⟩ := WidgetSession.step_asks s.session input'
    have waiting : (step s input).1.waiting = s.left input ++ s.session.made input' := by simp [step,inner]
    have session : (step s input).1.session = (WidgetSession.step s.session input').1 := by simp [step,inner]
    constructor
    · unfold Aligned
      rw [session,waiting,pending,List.filter_append,asks.queued,List.map_append,left_aligned aligned inner]
    · intro held undisputed
      unfold HeldAll
      unfold Undisputed at undisputed
      rw [waiting] at undisputed ⊢
      rw [session]
      refine asks.held (s.left input) (fun request member => held request ?_) undisputed
      unfold left at member
      split at member
      · exact List.mem_of_mem_tail member
      · exact member

-- The event that is due is the oldest request's.
theorem aligned_due (aligned : Aligned s) (due : s.due input = some first) :
    ∃ request rest, s.waiting = request :: rest ∧ request.event = first ∧
      ∃ later, s.session.pendingEvents = first :: later := by
  unfold WidgetRequestRun.due at due
  obtain ⟨taken,carries⟩ := Option.filter_eq_some_iff.mp due
  obtain ⟨input',_,found⟩ := Option.bind_eq_some_iff.mp taken
  obtain ⟨later,pending⟩ := taken_head found
  unfold Aligned at aligned
  rw [pending,List.filter_cons_of_pos carries] at aligned
  obtain ⟨request,rest,waiting,same,_⟩ := List.map_eq_cons_iff.mp aligned.symm
  exact ⟨request,rest,waiting,same,later,pending⟩

end Steps

end WidgetRequestRun

namespace WidgetSession

section Routing
variable (owner : Owner)

theorem take_keeps (output : Output) : (take owner output).1.context = owner.context ∧
    (take owner output).1.node.runningAuthTypeSet = owner.node.runningAuthTypeSet := by
  cases output with
  | schedule call => cases call <;> exact ⟨rfl,rfl⟩
  | clientClearSchedule =>
    simp only [take,clearSchedule]
    split <;> exact ⟨rfl,rfl⟩
  | _ => exact ⟨rfl,rfl⟩

theorem route_keeps (outputs : List Output) : (route owner outputs).1.context = owner.context ∧
    (route owner outputs).1.node.runningAuthTypeSet = owner.node.runningAuthTypeSet := by
  induction outputs generalizing owner with
  | nil => exact ⟨rfl,rfl⟩
  | cons output rest ih =>
    obtain ⟨context,running⟩ := ih (take owner output).1
    exact ⟨context.trans (take_keeps owner output).1,running.trans (take_keeps owner output).2⟩

theorem route_sends (outputs : List Output) : outputs ⊆ (route owner outputs).2.2 := by
  induction outputs generalizing owner with
  | nil => exact List.nil_subset _
  | cons output rest ih =>
    refine List.cons_subset.mpr ⟨List.mem_cons_self,fun later member => ?_⟩
    exact List.mem_cons_of_mem _ (List.mem_append_right _ (ih _ member))

end Routing

-- The types that a start event hands to the context.
def startSet (node : WidgetScheduleNodeImpl) : Std.ExtTreeSet AuthType :=
  .ofList (node.startAuthTypeList.filter fun authType => !node.runningAuthTypeSet.contains authType)

theorem mem_startSet (node : WidgetScheduleNodeImpl) (authType : AuthType) :
    authType ∈ startSet node ↔ authType ∈ node.startAuthTypeList ∧ authType ∉ node.runningAuthTypeSet := by
  have absent : node.runningAuthTypeSet.contains authType = false ↔ authType ∉ node.runningAuthTypeSet := by
    rw [←Bool.not_eq_true,Std.ExtTreeSet.contains_iff_mem]
  simp [startSet,absent]

theorem startSet_nodup (node : WidgetScheduleNodeImpl) : (startSet node).toList.Nodup :=
  Std.ExtTreeSet.distinct_toList.imp fun apart same => apart (Std.LawfulEqCmp.compare_eq_iff_eq.mpr same)

theorem onStartAuth_acts (env : WidgetContext.Env) (owner : Owner) :
    onStartAuth env owner = run {owner with node:={owner.node with
        runningAuthTypeSet:=owner.node.runningAuthTypeSet.insertMany (startSet owner.node).toList}}
      (executeAuthList env owner.context (startSet owner.node).toList owner.node.endAfterFirstFail owner.node.authIntent) :=
  rfl

end WidgetSession

namespace WidgetRequestRun
open WidgetRequest WidgetSession

instance decidableUndisputed (s : WidgetRequestRun) (input : Input) : Decidable (Undisputed s input) :=
  inferInstanceAs (Decidable (∀ one ∈ (step s input).1.waiting, ∀ two ∈ (step s input).1.waiting, one.clashes two = false))

def pinSession : WidgetContext := WidgetContext.create pinPara false false

end WidgetRequestRun
end UserAuth
