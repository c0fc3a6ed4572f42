import UserAuth.Schedule.ScheduleNode

namespace UserAuth
namespace ScheduleNode

-- The declared transitions, by the state they lead to.
inductive Moves : State → Event → State → Prop where
  | start : Moves .S_INIT .E_START_AUTH .S_VERIFY_STARING
  | verified : Moves .S_VERIFY_STARING .E_VERIFY_STARTED_SUCCESS .S_COLLECT_STARING
  | collected : Moves .S_COLLECT_STARING .E_COLLECT_STARTED_SUCCESS .S_AUTH_PROCESSING
  | stopsCollecting : Moves .S_COLLECT_STARING .E_STOP_AUTH .S_COLLECT_STOPPING
  | stopsProcessing (event : Event) (asked : event = .E_STOP_AUTH ∨ event = .E_TIME_OUT) :
      Moves .S_AUTH_PROCESSING event .S_COLLECT_STOPPING
  | stopsVerifying (event : Event) (asked : event = .E_STOP_AUTH ∨ event = .E_TIME_OUT) :
      Moves .S_VERIFY_STARING event .S_VERIFY_STOPPING
  | collectorStopped (event : Event)
      (answered : event = .E_COLLECT_STOPPED_SUCCESS ∨ event = .E_COLLECT_STOPPED_FAILED ∨ event = .E_TIME_OUT) :
      Moves .S_COLLECT_STOPPING event .S_VERIFY_STOPPING
  | verifyFailed : Moves .S_VERIFY_STARING .E_VERIFY_STARTED_FAILED .S_END
  | result (state : State) (going : state ≠ .S_INIT ∧ state ≠ .S_END) :
      Moves state .E_SCHEDULE_RESULT_RECEIVED .S_END
  | verifierStopped (event : Event)
      (answered : event = .E_VERIFY_STOPPED_SUCCESS ∨ event = .E_VERIFY_STOPPED_FAILED ∨ event = .E_TIME_OUT) :
      Moves .S_VERIFY_STOPPING event .S_END

def entryAction : State → Action
  | .S_VERIFY_STARING => processBeginVerifier
  | .S_COLLECT_STARING => processBeginCollector
  | .S_COLLECT_STOPPING => processEndCollector
  | .S_VERIFY_STOPPING => processEndVerifier
  | _ => FiniteStateMachineImpl.noAction

-- The action of a transition depends on the state it leads to only.
theorem transition_moves (found : transitionMap state event = some (next,action)) :
    Moves state event next ∧ action = entryAction next := by
  cases state <;> cases event <;> simp only [transitionMap,Option.some.injEq,Prod.mk.injEq,reduceCtorEq] at found <;>
    obtain ⟨rfl,rfl⟩ := found <;> refine ⟨?_,rfl⟩ <;> constructor <;> simp

def rank : State → Nat
  | .S_INIT => 0
  | .S_VERIFY_STARING => 1
  | .S_COLLECT_STARING => 2
  | .S_AUTH_PROCESSING => 3
  | .S_COLLECT_STOPPING => 4
  | .S_VERIFY_STOPPING => 5
  | .S_END => 6

theorem rank_injective : Function.Injective rank := by
  intro state other same
  cases state <;> cases other <;> first | rfl | cases same

theorem Moves.advances (moves : Moves state event next) : rank state < rank next := by
  cases moves with
  | result state going =>
    cases state with
    | S_INIT => exact absurd rfl going.1
    | S_END => exact absurd rfl going.2
    | _ => decide
  | _ => decide

theorem rank_end (state : State) : rank state ≤ rank .S_END := by
  cases state <;> decide

theorem ended_of_rank (reached : rank .S_END ≤ rank state) : state = .S_END :=
  rank_injective (Nat.le_antisymm (rank_end state) reached)

theorem Moves.going (moves : Moves state event next) : state ≠ .S_END := by
  intro ended
  have advances := moves.advances
  rw [ended] at advances
  exact absurd (rank_end next) (Nat.not_le_of_lt advances)

theorem Moves.running (moves : Moves state event next) : next ≠ .S_INIT := by
  intro same
  have advances := moves.advances
  rw [same] at advances
  exact absurd advances (Nat.not_lt_zero _)

-- A state has an action on the transitions into it or on entering it, never both.
def arrival (next : State) (env : Env) (owner : Owner) : Owner × List Event × List Effect :=
  let acted := entryAction next env owner
  let entered := enterMap next env acted.1
  (entered.1,acted.2.1 ++ entered.2.1,acted.2.2 ++ entered.2.2)

theorem scheduleInner_arrives (node : ScheduleNodeImpl) (env : Env) (pending : node.pendingEvents = event :: rest)
    (found : transitionMap node.currentState event = some (next,action)) :
    let arrived := arrival next env node.owner
    FiniteStateMachineImpl.scheduleInner table env node = (⟨next,rest ++ arrived.2.1,arrived.1⟩,arrived.2.2) := by
  obtain ⟨moves,rfl⟩ := transition_moves found
  have apart : node.currentState ≠ next := fun same => Nat.lt_irrefl _ (same ▸ moves.advances)
  rw [FiniteStateMachineImpl.scheduleInner_taken table _ node pending found]
  simp only [FiniteStateMachineImpl.enter,apart,if_false,table,arrival,List.append_assoc]

theorem entryAction_callback (next : State) (env : Env) (owner : Owner) :
    (entryAction next env owner).1.callback = owner.callback := by
  cases next with
  | S_VERIFY_STARING =>
    simp only [entryAction,processBeginVerifier]
    split
    · rfl
    · split <;> rfl
  | S_COLLECT_STARING =>
    simp only [entryAction,processBeginCollector]
    split
    · rfl
    · split
      · rfl
      · split <;> rfl
  | S_COLLECT_STOPPING =>
    simp only [entryAction,processEndCollector]
    split
    · rfl
    · split
      · rfl
      · split <;> rfl
  | S_VERIFY_STOPPING =>
    simp only [entryAction,processEndVerifier]
    split
    · rfl
    · split <;> rfl
  | S_INIT | S_AUTH_PROCESSING | S_END => rfl

-- The callback is given up on entering S_END, and only there.
theorem arrival_callback (next : State) (env : Env) (owner : Owner) :
    (arrival next env owner).1.callback = (owner.callback && next != .S_END) := by
  have kept := entryAction_callback next env owner
  cases next with
  | S_END =>
    simp only [arrival,enterMap,onScheduleFinished,kept]
    split
    · next cleared => simpa using cleared
    · simp
  | S_INIT | S_VERIFY_STARING | S_COLLECT_STARING | S_AUTH_PROCESSING | S_COLLECT_STOPPING | S_VERIFY_STOPPING =>
    rw [bne_iff_ne.mpr (by simp),Bool.and_true]
    exact kept

end ScheduleNode

-- What the executors answer within one turn of the machine.
structure ExecutorAnswers where
  beginVerifier : ResultCode
  beginCollector : ResultCode
  endVerifier : ResultCode
  endCollector : ResultCode

def ExecutorAnswers.succeeding : ExecutorAnswers :=
  ⟨ResultCode.SUCCESS,ResultCode.SUCCESS,ResultCode.SUCCESS,ResultCode.SUCCESS⟩

-- A schedule node among its executors. The collector is absent where it is the
-- verifier's own resource node; a node that is gone stays gone. The timer is
-- registered after StartSchedule has kicked the machine.
structure ScheduleRun where
  node : ScheduleNodeImpl
  verifierAlive : Bool
  collector : Option Bool
  starting : Nat := 0
  armed : Bool := false

namespace ScheduleRun
open ScheduleNode

inductive RunEvent where
  | posted (event : Event)
  | handled (found : State) (event : Event) (next : Option State)
  | effect (effect : Effect)

inductive Input where
  | startSchedule
  | startTimer
  | stopSchedule (errorCode : ResultCode)
  | continueSchedule (resultCode : ResultCode) (finalResult : Option Attributes)
  | timeOut
  | verifierGone
  | collectorGone
  | turn (answers : ExecutorAnswers)

def collectorAlive (s : ScheduleRun) : Bool := s.collector.getD s.verifierAlive

def env (s : ScheduleRun) (answers : ExecutorAnswers) : Env where
  verifierAlive := s.verifierAlive
  collectorAlive := s.collectorAlive
  allInOne := s.collector.isNone
  beginVerifier := answers.beginVerifier
  beginCollector := answers.beginCollector
  endVerifier := answers.endVerifier
  endCollector := answers.endCollector

-- What was posted while a turn ran stands behind what was queued before it.
def turnEvents (found : State) (pending : List Event) (moved : ScheduleNodeImpl × List Effect) : List RunEvent :=
  match pending with
  | [] => []
  | event :: rest =>
    .handled found event ((transitionMap found event).map (·.1)) ::
      ((moved.1.pendingEvents.drop rest.length).map .posted ++ moved.2.map .effect)

def turn (s : ScheduleRun) (answers : ExecutorAnswers) : ScheduleRun × List RunEvent :=
  let moved := FiniteStateMachineImpl.scheduleInner table (s.env answers) s.node
  ({s with node:=moved.1,armed:=s.armed && moved.1.owner.timer},
    turnEvents s.node.currentState s.node.pendingEvents moved)

def startTimer (s : ScheduleRun) : ScheduleRun :=
  if s.starting = 0 then s
  else
    let s := {s with starting:=s.starting - 1}
    if !s.node.owner.expires || s.node.owner.timer then s else {s with node.owner.timer:=true,armed:=true}

-- The timer fires once and keeps its id.
def timeOut (s : ScheduleRun) : ScheduleRun × List RunEvent :=
  if !s.armed then (s,[])
  else ({s with armed:=false,node:={s.node with owner.fwkResultCode:=some ResultCode.TIMEOUT}.schedule .E_TIME_OUT},
    [.posted .E_TIME_OUT])

def step (s : ScheduleRun) : Input → ScheduleRun × List RunEvent
  | .startSchedule => ({s with node:=s.node.schedule .E_START_AUTH,starting:=s.starting + 1},[.posted .E_START_AUTH])
  | .startTimer => (s.startTimer,[])
  | .stopSchedule errorCode => ({s with node:=s.node.stopSchedule errorCode},[.posted .E_STOP_AUTH])
  | .continueSchedule resultCode finalResult =>
    ({s with node:=s.node.continueSchedule resultCode finalResult},[.posted .E_SCHEDULE_RESULT_RECEIVED])
  | .timeOut => s.timeOut
  | .verifierGone => ({s with verifierAlive:=false},[])
  | .collectorGone => ({s with collector:=s.collector.map fun _ => false},[])
  | .turn answers => s.turn answers

def machine : Mealy ScheduleRun Input RunEvent := ⟨step⟩

def initial (expires verifierAlive : Bool) (collector : Option Bool) : ScheduleRun :=
  ⟨.create expires,verifierAlive,collector,0,false⟩

-- All that entering a state can post and do outside.
inductive Entry (s : ScheduleRun) : State → List Event → List Effect → Prop where
  | verifierMissing (missing : s.verifierAlive = false ∨ s.collectorAlive = false) :
      Entry s .S_VERIFY_STARING [.E_VERIFY_STARTED_FAILED] []
  | verifierRefused (result : ResultCode) (refused : result ≠ ResultCode.SUCCESS) :
      Entry s .S_VERIFY_STARING [.E_VERIFY_STARTED_FAILED] [.beginVerifier result]
  | verifierBegun : Entry s .S_VERIFY_STARING [.E_VERIFY_STARTED_SUCCESS] [.beginVerifier ResultCode.SUCCESS]
  | collectorMissing (missing : s.verifierAlive = false ∨ s.collectorAlive = false) :
      Entry s .S_COLLECT_STARING [.E_COLLECT_STARTED_FAILED] []
  | collectorShared (shared : s.collector = none) : Entry s .S_COLLECT_STARING [.E_COLLECT_STARTED_SUCCESS] []
  | collectorRefused (result : ResultCode) (refused : result ≠ ResultCode.SUCCESS) (distinct : s.collector.isSome) :
      Entry s .S_COLLECT_STARING [.E_COLLECT_STARTED_FAILED] [.beginCollector result]
  | collectorBegun (distinct : s.collector.isSome) : Entry s .S_COLLECT_STARING [.E_COLLECT_STARTED_SUCCESS]
      [.beginCollector ResultCode.SUCCESS,.notifyCollectorReady]
  | processing (effects : List Effect) (told : effects = [] ∨ effects = [.onScheduleStarted]) :
      Entry s .S_AUTH_PROCESSING [] effects
  | endMissing (missing : s.verifierAlive = false ∨ s.collectorAlive = false) :
      Entry s .S_COLLECT_STOPPING [.E_COLLECT_STOPPED_FAILED] []
  | endShared (shared : s.collector = none) : Entry s .S_COLLECT_STOPPING [.E_COLLECT_STOPPED_SUCCESS] []
  | collectorEnded (result : ResultCode) (event : Event)
      (answered : event = .E_COLLECT_STOPPED_SUCCESS ∨ event = .E_COLLECT_STOPPED_FAILED) :
      Entry s .S_COLLECT_STOPPING [event] [.endCollector result]
  | verifierLost (lost : s.verifierAlive = false) : Entry s .S_VERIFY_STOPPING [.E_VERIFY_STOPPED_FAILED] []
  | verifierEnded (result : ResultCode) (event : Event)
      (answered : event = .E_VERIFY_STOPPED_SUCCESS ∨ event = .E_VERIFY_STOPPED_FAILED) :
      Entry s .S_VERIFY_STOPPING [event] [.endVerifier result]
  | told (result : ResultCode) (scheduleResult : Option Attributes) (callback : s.node.owner.callback = true) :
      Entry s .S_END [] [.onScheduleStoped result scheduleResult]
  | untold (cleared : s.node.owner.callback = false) : Entry s .S_END [] []

-- A turn does nothing, drops an event, or moves. Its timer may be unregistered.
inductive Turned (s : ScheduleRun) : ScheduleRun × List RunEvent → Prop where
  | idle (armed : Bool) (kept : armed = true → s.armed = true) (empty : s.node.pendingEvents = []) :
      Turned s ({s with armed},[])
  | dropped (armed : Bool) (kept : armed = true → s.armed = true) (event : Event) (rest : List Event)
      (pending : s.node.pendingEvents = event :: rest) (undeclared : transitionMap s.node.currentState event = none) :
      Turned s ({s with node.pendingEvents:=rest,armed},[.handled s.node.currentState event none])
  | moved (armed : Bool) (kept : armed = true → s.armed = true) (event : Event) (rest posted : List Event)
      (next : State) (effects : List Effect) (owner : Owner) (pending : s.node.pendingEvents = event :: rest)
      (moves : Moves s.node.currentState event next) (entry : Entry s next posted effects)
      (callback : owner.callback = (s.node.owner.callback && next != .S_END)) :
      Turned s ({s with node:=⟨next,rest ++ posted,owner⟩,armed},
        .handled s.node.currentState event (some next) :: (posted.map .posted ++ effects.map .effect))

theorem missing_of (s : ScheduleRun) (answers : ExecutorAnswers)
    (missing : (!(s.env answers).collectorAlive || !(s.env answers).verifierAlive) = true) :
    s.verifierAlive = false ∨ s.collectorAlive = false := by
  simp only [env,Bool.or_eq_true,Bool.not_eq_true'] at missing
  exact missing.symm

theorem distinct_of (s : ScheduleRun) (answers : ExecutorAnswers) (other : ¬(s.env answers).allInOne = true) :
    s.collector.isSome := by
  cases collector : s.collector with
  | none => simp [env,collector] at other
  | some alive => rfl

theorem shared_of (s : ScheduleRun) (answers : ExecutorAnswers) (same : (s.env answers).allInOne = true) :
    s.collector = none := by
  simpa [env] using same

def Enters (s : ScheduleRun) (next : State) (acted : Owner × List Event × List Effect) : Prop :=
  Entry s next acted.2.1 acted.2.2

theorem beginVerifier_enters (s : ScheduleRun) (answers : ExecutorAnswers) :
    s.Enters .S_VERIFY_STARING (processBeginVerifier (s.env answers) s.node.owner) := by
  unfold processBeginVerifier
  split
  · next missing => exact .verifierMissing (s.missing_of answers missing)
  · split
    · next refused => exact .verifierRefused _ (by simpa using refused)
    · next begun =>
      have succeeded : (s.env answers).beginVerifier = ResultCode.SUCCESS := by simpa using begun
      rw [succeeded]
      exact .verifierBegun

theorem beginCollector_enters (s : ScheduleRun) (answers : ExecutorAnswers) :
    s.Enters .S_COLLECT_STARING (processBeginCollector (s.env answers) s.node.owner) := by
  unfold processBeginCollector
  split
  · next missing => exact .collectorMissing (s.missing_of answers missing)
  · split
    · next same => exact .collectorShared (s.shared_of answers same)
    · next other =>
      split
      · next refused => exact .collectorRefused _ (by simpa using refused) (s.distinct_of answers other)
      · next begun =>
        have succeeded : (s.env answers).beginCollector = ResultCode.SUCCESS := by simpa using begun
        rw [succeeded]
        exact .collectorBegun (s.distinct_of answers other)

theorem endCollector_enters (s : ScheduleRun) (answers : ExecutorAnswers) :
    s.Enters .S_COLLECT_STOPPING (processEndCollector (s.env answers) s.node.owner) := by
  unfold processEndCollector
  split
  · next missing => exact .endMissing (s.missing_of answers missing)
  · split
    · next same => exact .endShared (s.shared_of answers same)
    · split
      · exact .collectorEnded _ _ (.inr rfl)
      · exact .collectorEnded _ _ (.inl rfl)

theorem endVerifier_enters (s : ScheduleRun) (answers : ExecutorAnswers) :
    s.Enters .S_VERIFY_STOPPING (processEndVerifier (s.env answers) s.node.owner) := by
  unfold processEndVerifier
  split
  · next lost => exact .verifierLost (by simpa [env] using lost)
  · split
    · exact .verifierEnded _ _ (.inr rfl)
    · exact .verifierEnded _ _ (.inl rfl)

theorem processing_enters (s : ScheduleRun) (answers : ExecutorAnswers) :
    s.Enters .S_AUTH_PROCESSING (onScheduleProcessing (s.env answers) s.node.owner) := by
  refine .processing _ ?_
  unfold onScheduleProcessing
  split
  · exact .inr rfl
  · exact .inl rfl

theorem finished_enters (s : ScheduleRun) (answers : ExecutorAnswers) :
    s.Enters .S_END (onScheduleFinished (s.env answers) s.node.owner) := by
  unfold onScheduleFinished
  split
  · next cleared => exact .untold (by simpa using cleared)
  · next callback => exact .told _ _ (by simpa using callback)

theorem arrival_enters (s : ScheduleRun) (answers : ExecutorAnswers) (next : State) (running : next ≠ .S_INIT) :
    s.Enters next (arrival next (s.env answers) s.node.owner) := by
  unfold arrival entryAction enterMap FiniteStateMachineImpl.noAction
  cases next with
  | S_INIT => exact absurd rfl running
  | S_VERIFY_STARING => simpa using s.beginVerifier_enters answers
  | S_COLLECT_STARING => simpa using s.beginCollector_enters answers
  | S_COLLECT_STOPPING => simpa using s.endCollector_enters answers
  | S_VERIFY_STOPPING => simpa using s.endVerifier_enters answers
  | S_AUTH_PROCESSING => simpa using s.processing_enters answers
  | S_END => simpa using s.finished_enters answers

theorem turn_turned (s : ScheduleRun) (answers : ExecutorAnswers) : s.Turned (s.turn answers) := by
  unfold turn
  cases pending : s.node.pendingEvents with
  | nil =>
    rw [FiniteStateMachineImpl.scheduleInner_idle table _ s.node pending]
    exact .idle _ (by simp +contextual) pending
  | cons event rest =>
    cases found : transitionMap s.node.currentState event with
    | none =>
      rw [FiniteStateMachineImpl.scheduleInner_dropped table _ s.node pending found]
      simpa [turnEvents,found] using Turned.dropped _ (by simp +contextual) event rest pending found
    | some target =>
      obtain ⟨next,action⟩ := target
      have moves := (transition_moves found).1
      have entry := s.arrival_enters answers next moves.running
      have callback := arrival_callback next (s.env answers) s.node.owner
      rw [scheduleInner_arrives s.node _ pending found]
      simpa [turnEvents,found] using
        Turned.moved _ (by simp +contextual) event rest _ next _ _ pending moves entry callback

theorem queued_behind {s : ScheduleRun} (pending : s.node.pendingEvents = event :: rest) :
    ∀ other ∈ rest, other ∈ s.node.pendingEvents := by
  intro other member
  rw [pending]
  exact List.mem_cons_of_mem _ member

-- The timer is registered or will be.
def clocked (s : ScheduleRun) : Prop := 0 < s.starting ∨ s.armed = true

-- What a step outside the machine's own turns leaves to them.
structure Asked (s : ScheduleRun) (posted : List Event) (asked : ScheduleRun × List RunEvent) : Prop where
  currentState : asked.1.node.currentState = s.node.currentState
  pendingEvents : asked.1.node.pendingEvents = s.node.pendingEvents ++ posted
  callback : asked.1.node.owner.callback = s.node.owner.callback
  verifier : asked.1.verifierAlive = true → s.verifierAlive = true
  collector : asked.1.collector = s.collector ∨ asked.1.collector = s.collector.map fun _ => false
  outer : ∀ event ∈ posted, event = .E_START_AUTH ∨ event = .E_STOP_AUTH ∨
    event = .E_SCHEDULE_RESULT_RECEIVED ∨ event = .E_TIME_OUT ∧ s.clocked
  clock : asked.1.clocked → s.clocked ∨ posted = [.E_START_AUTH]
  events : asked.2 = posted.map .posted

inductive Stepped (s : ScheduleRun) (i : Input) (stepped : ScheduleRun × List RunEvent) : Prop where
  | asked (posted : List Event) (asked : s.Asked posted stepped)
  | turned (answers : ExecutorAnswers) (turn : i = .turn answers) (turned : s.Turned stepped)

theorem startTimer_asked (s : ScheduleRun) : s.Asked [] (s.startTimer,[]) := by
  unfold startTimer
  split
  · exact ⟨rfl,by simp,rfl,id,.inl rfl,by simp,.inl,rfl⟩
  · next going =>
    have clocked : s.clocked := .inl (Nat.pos_of_ne_zero going)
    dsimp only
    split <;> exact ⟨rfl,by simp,rfl,id,.inl rfl,by simp,fun _ => .inl clocked,rfl⟩

theorem timeOut_asked (s : ScheduleRun) : ∃ posted, s.Asked posted s.timeOut := by
  unfold timeOut
  split
  · exact ⟨[],rfl,by simp,rfl,id,.inl rfl,by simp,.inl,rfl⟩
  · next armed =>
    have clocked : s.clocked := .inr (by simpa using armed)
    exact ⟨[.E_TIME_OUT],rfl,rfl,rfl,id,.inl rfl,by simp [clocked],fun _ => .inl clocked,rfl⟩

theorem step_stepped (s : ScheduleRun) (i : Input) : s.Stepped i (s.step i) := by
  cases i with
  | startSchedule => exact .asked [.E_START_AUTH] ⟨rfl,rfl,rfl,id,.inl rfl,by simp,fun _ => .inr rfl,rfl⟩
  | startTimer => exact .asked [] s.startTimer_asked
  | stopSchedule errorCode => exact .asked [.E_STOP_AUTH] ⟨rfl,rfl,rfl,id,.inl rfl,by simp,.inl,rfl⟩
  | continueSchedule resultCode finalResult =>
    exact .asked [.E_SCHEDULE_RESULT_RECEIVED] ⟨rfl,rfl,rfl,id,.inl rfl,by simp,.inl,rfl⟩
  | timeOut =>
    obtain ⟨posted,asked⟩ := s.timeOut_asked
    exact .asked posted asked
  | verifierGone => exact .asked [] ⟨rfl,by simp [step],rfl,by simp [step],.inl rfl,by simp,.inl,rfl⟩
  | collectorGone => exact .asked [] ⟨rfl,by simp [step],rfl,id,.inr rfl,by simp,.inl,rfl⟩
  | turn answers => exact .turned answers rfl (s.turn_turned answers)

end ScheduleRun
end UserAuth
