import UserAuth.Schedule.ScheduleRun

namespace UserAuth
namespace ScheduleNode

-- The state on entering which an event is posted; outer events have none.
def origin : Event → State
  | .E_VERIFY_STARTED_SUCCESS | .E_VERIFY_STARTED_FAILED => .S_VERIFY_STARING
  | .E_COLLECT_STARTED_SUCCESS | .E_COLLECT_STARTED_FAILED => .S_COLLECT_STARING
  | .E_COLLECT_STOPPED_SUCCESS | .E_COLLECT_STOPPED_FAILED => .S_COLLECT_STOPPING
  | .E_VERIFY_STOPPED_SUCCESS | .E_VERIFY_STOPPED_FAILED => .S_VERIFY_STOPPING
  | _ => .S_INIT

-- An executor is being asked, so its answer is to come.
def asking : State → Bool
  | .S_VERIFY_STARING | .S_COLLECT_STARING | .S_COLLECT_STOPPING | .S_VERIFY_STOPPING => true
  | _ => false

-- The events after which the schedule may not go on.
def aborts : Event → Bool
  | .E_TIME_OUT | .E_VERIFY_STARTED_FAILED | .E_COLLECT_STARTED_FAILED => true
  | _ => false

-- The aborts for which the state before the last of the starting ones has no row.
def ignores (state : State) (event : Event) : Bool :=
  state == .S_COLLECT_STARING && (event == .E_TIME_OUT || event == .E_COLLECT_STARTED_FAILED)

theorem Moves.aborting (moves : Moves state event next) (abort : aborts event = true) :
    rank .S_COLLECT_STOPPING ≤ rank next := by
  cases moves with
  | start | verified | collected => cases abort
  | _ => decide

-- Going on takes the answer of the executor that was asked.
theorem Moves.answered (moves : Moves state event next) (asked : asking state = true) :
    origin event = state ∨ rank .S_COLLECT_STOPPING ≤ rank next := by
  cases moves with
  | verified | collected => exact .inl rfl
  | start => cases asked
  | _ => exact .inr (by decide)

-- What is dropped is never the answer that a state waits for, nor an abort.
theorem answer_declared (undeclared : transitionMap state event = none) (own : origin event = state)
    (asked : asking state = true) : ignores state event = true := by
  subst own
  cases event <;> first | rfl | (cases asked; done) | simp [origin,transitionMap] at undeclared

theorem abort_asked (abort : aborts event = true) (untimed : event ≠ .E_TIME_OUT) : asking (origin event) = true := by
  cases event <;> first | rfl | (cases abort; done) | exact absurd rfl untimed

-- An abort is dropped in a state that ignores it, before the start or after the end.
theorem abort_declared (undeclared : transitionMap state event = none) (abort : aborts event = true)
    (own : event = .E_TIME_OUT ∨ origin event = state) :
    ignores state event = true ∨ (state = .S_INIT ∧ event = .E_TIME_OUT) ∨ state = .S_END := by
  by_cases timed : event = .E_TIME_OUT
  · subst timed
    cases state <;> simp [transitionMap,ignores] at undeclared ⊢
  · have own := own.resolve_left timed
    exact .inl (answer_declared undeclared own (own ▸ abort_asked abort timed))

end ScheduleNode

namespace ScheduleRun
open ScheduleNode
variable {s : ScheduleRun} {events : List RunEvent} {stepped : ScheduleRun × List RunEvent} {armed : Bool}

theorem Entry.posts (entry : Entry s next posted effects) :
    (∃ event, posted = [event] ∧ origin event = next) ∨ posted = [] ∧ asking next = false := by
  cases entry with
  | collectorEnded result event answered => exact .inl ⟨event,rfl,by rcases answered with rfl | rfl <;> rfl⟩
  | verifierEnded result event answered => exact .inl ⟨event,rfl,by rcases answered with rfl | rfl <;> rfl⟩
  | processing | told | untold => exact .inr ⟨rfl,rfl⟩
  | _ => exact .inl ⟨_,rfl,rfl⟩

-- Where no event was queued, the timer is not to be heard of before the start.
def Unclocked (s : ScheduleRun) : Prop :=
  (¬s.clocked ∧ .E_TIME_OUT ∉ s.node.pendingEvents) ∨
    ∃ early late, s.node.pendingEvents = early ++ .E_START_AUTH :: late ∧ .E_TIME_OUT ∉ early

structure Heeded (s : ScheduleRun) (events : List RunEvent) : Prop where
  unclocked : s.node.currentState = .S_INIT → s.Unclocked
  reached : ∀ event ∈ s.node.pendingEvents, rank (origin event) ≤ rank s.node.currentState
  alone : s.node.currentState ≠ .S_INIT → ∀ one ∈ s.node.pendingEvents, ∀ other ∈ s.node.pendingEvents,
    origin one = s.node.currentState → origin other = s.node.currentState → one = other
  awaited : asking s.node.currentState = true → ∃ event ∈ s.node.pendingEvents, origin event = s.node.currentState
  kept : ∀ event, aborts event = true → .posted event ∈ events →
    (event ∈ s.node.pendingEvents ∧ (event = .E_TIME_OUT ∨ origin event = s.node.currentState)) ∨
      rank .S_COLLECT_STOPPING ≤ rank s.node.currentState

theorem initial_heeded (expires verifierAlive : Bool) (collector : Option Bool) :
    (initial expires verifierAlive collector).Heeded [] where
  unclocked _ := .inl ⟨by simp [clocked,initial],by simp [initial,ScheduleNodeImpl.create]⟩
  reached := by simp [initial,ScheduleNodeImpl.create]
  alone := by simp [initial,ScheduleNodeImpl.create]
  awaited := nofun
  kept := nofun

theorem Asked.outer_origin (asked : s.Asked posted stepped) : ∀ event ∈ posted, origin event = .S_INIT := by
  intro event member
  rcases asked.outer event member with rfl | rfl | rfl | ⟨rfl,-⟩ <;> rfl

theorem Unclocked.asked (unclocked : s.Unclocked) (asked : s.Asked posted stepped) : stepped.1.Unclocked := by
  rcases unclocked with ⟨still,absent⟩ | ⟨early,late,queued,absent⟩
  · by_cases starts : posted = [.E_START_AUTH]
    · refine .inr ⟨s.node.pendingEvents,[],?_,absent⟩
      rw [asked.pendingEvents,starts]
    · refine .inl ⟨fun clocked => ?_,?_⟩
      · rcases asked.clock clocked with before | started
        · exact still before
        · exact starts started
      · rw [asked.pendingEvents,List.mem_append,not_or]
        refine ⟨absent,fun timed => ?_⟩
        rcases asked.outer _ timed with other | other | other | ⟨-,clocked⟩
        · cases other
        · cases other
        · cases other
        · exact still clocked
  · refine .inr ⟨early,late ++ posted,?_,absent⟩
    rw [asked.pendingEvents,queued,List.append_assoc,List.cons_append]

theorem Unclocked.dropped (unclocked : s.Unclocked) (pending : s.node.pendingEvents = event :: rest)
    (other : event ≠ .E_START_AUTH) (kept : armed = true → s.armed = true) :
    Unclocked {s with node.pendingEvents:=rest,armed} := by
  rcases unclocked with ⟨still,absent⟩ | ⟨early,late,queued,absent⟩
  · exact .inl ⟨fun clocked => still (clocked.imp_right kept),fun timed => absent (queued_behind pending _ timed)⟩
  · rw [pending] at queued
    cases early with
    | nil =>
      cases queued
      exact absurd rfl other
    | cons head early =>
      cases queued
      exact .inr ⟨early,late,rfl,fun timed => absent (List.mem_cons_of_mem _ timed)⟩

-- A timeout is never the next event before the start was handled.
theorem Unclocked.next (unclocked : s.Unclocked) (pending : s.node.pendingEvents = event :: rest) :
    event ≠ .E_TIME_OUT := by
  rintro rfl
  rcases unclocked with ⟨-,absent⟩ | ⟨early,late,queued,absent⟩
  · exact absent (by simp [pending])
  · rw [pending] at queued
    cases early with
    | nil => cases queued
    | cons head early =>
      cases queued
      exact absent List.mem_cons_self

theorem Heeded.asked (heeded : s.Heeded events) (asked : s.Asked posted stepped) :
    stepped.1.Heeded (events ++ stepped.2) := by
  have outer := asked.outer_origin
  constructor
  · rw [asked.currentState]
    exact fun init => (heeded.unclocked init).asked asked
  · rw [asked.currentState,asked.pendingEvents]
    intro event member
    rcases List.mem_append.mp member with queued | now
    · exact heeded.reached event queued
    · rw [outer event now]
      exact Nat.zero_le _
  · rw [asked.currentState,asked.pendingEvents]
    intro begun one member other member' own own'
    have queued : ∀ event ∈ s.node.pendingEvents ++ posted, origin event = s.node.currentState →
        event ∈ s.node.pendingEvents := by
      intro event member own
      rcases List.mem_append.mp member with queued | now
      · exact queued
      · exact absurd (own.symm.trans (outer event now)) begun
    exact heeded.alone begun one (queued one member own) other (queued other member' own') own own'
  · rw [asked.currentState,asked.pendingEvents]
    intro asking
    obtain ⟨event,queued,own⟩ := heeded.awaited asking
    exact ⟨event,List.mem_append_left _ queued,own⟩
  · rw [asked.currentState,asked.pendingEvents,asked.events]
    intro event abort reported
    rcases List.mem_append.mp reported with before | now
    · rcases heeded.kept event abort before with ⟨queued,own⟩ | stopping
      · exact .inl ⟨List.mem_append_left _ queued,own⟩
      · exact .inr stopping
    · have now : event ∈ posted := by simpa using now
      refine .inl ⟨List.mem_append_right _ now,.inl ?_⟩
      rcases asked.outer event now with rfl | rfl | rfl | ⟨timed,-⟩
      · cases abort
      · cases abort
      · cases abort
      · exact timed

theorem Heeded.idle (heeded : s.Heeded events) (kept : armed = true → s.armed = true) :
    Heeded {s with armed} events where
  unclocked init := by
    rcases heeded.unclocked init with ⟨still,absent⟩ | started
    · exact .inl ⟨fun clocked => still (clocked.imp_right kept),absent⟩
    · exact .inr started
  reached := heeded.reached
  alone := heeded.alone
  awaited := heeded.awaited
  kept := heeded.kept

theorem Heeded.dropped (heeded : s.Heeded events) (pending : s.node.pendingEvents = event :: rest)
    (undeclared : transitionMap s.node.currentState event = none) (heeds : ignores s.node.currentState event = false)
    (kept : armed = true → s.armed = true) :
    Heeded {s with node.pendingEvents:=rest,armed} (events ++ [.handled s.node.currentState event none]) := by
  have later := queued_behind pending
  constructor
  · intro init
    refine (heeded.unclocked init).dropped pending ?_ kept
    rintro rfl
    rw [show s.node.currentState = .S_INIT from init] at undeclared
    cases undeclared
  · exact fun other member => heeded.reached other (later other member)
  · exact fun begun one member other member' => heeded.alone begun one (later one member) other (later other member')
  · intro asked
    obtain ⟨other,queued,own⟩ := heeded.awaited asked
    rw [pending] at queued
    rcases List.mem_cons.mp queued with rfl | member
    · exact absurd (answer_declared undeclared own asked) (by simp [heeds])
    · exact ⟨other,member,own⟩
  · intro other abort reported
    have before : .posted other ∈ events := by simpa using reported
    rcases heeded.kept other abort before with ⟨queued,own⟩ | stopping
    · rw [pending] at queued
      rcases List.mem_cons.mp queued with rfl | member
      · rcases abort_declared undeclared abort own with ignored | ⟨init,timed⟩ | ended
        · simp [ignored] at heeds
        · exact absurd timed ((heeded.unclocked init).next pending)
        · exact .inr (ended ▸ rank_end _)
      · exact .inl ⟨member,own⟩
    · exact .inr stopping

theorem Heeded.behind (heeded : s.Heeded events) (pending : s.node.pendingEvents = event :: rest)
    (moves : Moves s.node.currentState event next) : ∀ other ∈ rest, rank (origin other) < rank next := by
  intro other member
  exact Nat.lt_of_le_of_lt (heeded.reached other (queued_behind pending other member)) moves.advances

theorem Entry.own (entry : Entry s next posted effects) : ∀ other ∈ posted, origin other = next := by
  intro other member
  rcases entry.posts with ⟨only,rfl,own⟩ | ⟨rfl,-⟩
  · exact List.mem_singleton.mp member ▸ own
  · cases member

-- Of the answers that belong to the new state there is only the one just posted.
theorem Heeded.moved_alone (heeded : s.Heeded events) (pending : s.node.pendingEvents = event :: rest)
    (moves : Moves s.node.currentState event next) (entry : Entry s next posted effects) :
    ∀ one ∈ rest ++ posted, ∀ other ∈ rest ++ posted, origin one = next → origin other = next → one = other := by
  have now : ∀ other ∈ rest ++ posted, origin other = next → other ∈ posted := by
    intro other member same
    rcases List.mem_append.mp member with before | now
    · exact absurd (heeded.behind pending moves other before) (same ▸ Nat.lt_irrefl _)
    · exact now
  intro one member other member' same same'
  have first := now one member same
  have second := now other member' same'
  rcases entry.posts with ⟨only,rfl,-⟩ | ⟨rfl,-⟩
  · exact (List.mem_singleton.mp first).trans (List.mem_singleton.mp second).symm
  · cases first

-- A queued abort outlasts a move, if it is a timeout, or is what makes it.
theorem Heeded.moved_kept (heeded : s.Heeded events) (pending : s.node.pendingEvents = event :: rest)
    (moves : Moves s.node.currentState event next) (abort : aborts other = true)
    (queued : other ∈ s.node.pendingEvents) (mine : other = .E_TIME_OUT ∨ origin other = s.node.currentState) :
    other ∈ rest ∧ other = .E_TIME_OUT ∨ rank .S_COLLECT_STOPPING ≤ rank next := by
  rw [pending] at queued
  rcases List.mem_cons.mp queued with rfl | member
  · exact .inr (moves.aborting abort)
  · by_cases timed : other = .E_TIME_OUT
    · exact .inl ⟨member,timed⟩
    · have mine := mine.resolve_left timed
      have asked := mine ▸ abort_asked abort timed
      rcases moves.answered asked with answer | stops
      · have begun : s.node.currentState ≠ .S_INIT := fun init => by simp [init,asking] at asked
        have same := heeded.alone begun event (by simp [pending]) other (queued_behind pending other member) answer mine
        exact .inr (moves.aborting (same ▸ abort))
      · exact .inr stops

theorem Heeded.moved (heeded : s.Heeded events) (pending : s.node.pendingEvents = event :: rest)
    (moves : Moves s.node.currentState event next) (entry : Entry s next posted effects) :
    Heeded {s with node:=⟨next,rest ++ posted,owner⟩,armed}
      (events ++ .handled s.node.currentState event (some next) :: (posted.map .posted ++ effects.map .effect)) := by
  constructor
  · exact fun init => absurd init moves.running
  · intro other member
    rcases List.mem_append.mp member with before | now
    · exact Nat.le_of_lt (heeded.behind pending moves other before)
    · exact Nat.le_of_eq (congrArg rank (entry.own other now))
  · exact fun _ => heeded.moved_alone pending moves entry
  · intro asked
    rcases entry.posts with ⟨only,rfl,own⟩ | ⟨-,quiet⟩
    · exact ⟨only,List.mem_append_right _ List.mem_cons_self,own⟩
    · simp [show asking next = true from asked] at quiet
  · intro other abort reported
    have reported : .posted other ∈ events ∨ other ∈ posted := by simpa using reported
    rcases reported with before | now
    · rcases heeded.kept other abort before with ⟨queued,mine⟩ | stopping
      · rcases heeded.moved_kept pending moves abort queued mine with ⟨member,timed⟩ | stops
        · exact .inl ⟨List.mem_append_left _ member,.inl timed⟩
        · exact .inr stops
      · exact .inr (Nat.le_trans stopping (Nat.le_of_lt moves.advances))
    · exact .inl ⟨List.mem_append_right _ now,.inr (entry.own other now)⟩

-- The next event is not one that the starting of the collector ignores.
def Heeds (s : ScheduleRun) : Input → Prop
  | .turn _ => s.node.pendingEvents.head?.any (ignores s.node.currentState) = false
  | _ => True

theorem step_heeded (s : ScheduleRun) (events : List RunEvent) (i : Input) (heeded : s.Heeded events)
    (heeds : s.Heeds i) : (s.step i).1.Heeded (events ++ (s.step i).2) := by
  cases s.step_stepped i with
  | asked posted asked => exact heeded.asked asked
  | turned answers turn turned =>
    subst turn
    generalize s.step (.turn answers) = stepped at turned ⊢
    cases turned with
    | idle armed kept empty =>
      rw [List.append_nil]
      exact heeded.idle kept
    | dropped armed kept event rest pending undeclared =>
      exact heeded.dropped pending undeclared (by simpa [Heeds,pending] using heeds) kept
    | moved armed kept event rest posted next effects owner pending moves entry callback =>
      exact heeded.moved pending moves entry

theorem run_heeded (expires verifierAlive : Bool) (collector : Option Bool) (inputs : List Input)
    (met : machine.Meets Heeds (initial expires verifierAlive collector) inputs) :
    (machine.after (initial expires verifierAlive collector) inputs).Heeded
      (machine.trace (initial expires verifierAlive collector) inputs) :=
  Mealy.guarded_history (m:=machine) (h:=[]) (P:=Heeded) (c:=Heeds) step_heeded
    (initial_heeded expires verifierAlive collector) met

-- With nothing queued no executor is being asked, so an abort has ended the run.
theorem Heeded.settled (heeded : s.Heeded events) (empty : s.node.pendingEvents = []) (abort : aborts event = true)
    (reported : .posted event ∈ events) : s.node.currentState = .S_END := by
  have quiet : asking s.node.currentState ≠ true := by
    intro asked
    obtain ⟨answer,queued,-⟩ := heeded.awaited asked
    simp [empty] at queued
  rcases heeded.kept event abort reported with ⟨queued,-⟩ | stopping
  · simp [empty] at queued
  · cases state : s.node.currentState with
    | S_END => rfl
    | S_COLLECT_STOPPING | S_VERIFY_STOPPING => exact absurd rfl (state ▸ quiet)
    | _ => exact absurd (state ▸ stopping) (by decide)

theorem aborted_run_ends (expires verifierAlive : Bool) (collector : Option Bool) (inputs : List Input)
    (met : machine.Meets Heeds (initial expires verifierAlive collector) inputs) :
    let start := initial expires verifierAlive collector
    (machine.after start inputs).node.pendingEvents = [] →
      .posted .E_TIME_OUT ∈ machine.trace start inputs ∨
        .posted .E_VERIFY_STARTED_FAILED ∈ machine.trace start inputs ∨
        .posted .E_COLLECT_STARTED_FAILED ∈ machine.trace start inputs →
      (machine.after start inputs).node.currentState = .S_END := by
  intro start empty reported
  have heeded := run_heeded expires verifierAlive collector inputs met
  rcases reported with timed | refused | refused
  · exact heeded.settled empty rfl timed
  · exact heeded.settled empty rfl refused
  · exact heeded.settled empty rfl refused

theorem timed_out_run_ends :
    let start := initial true true (some true)
    let inputs := [.startSchedule,.startTimer,.timeOut,.turn .succeeding,.turn .succeeding,.turn .succeeding,
      .turn .succeeding]
    .posted .E_TIME_OUT ∈ machine.trace start inputs ∧ (machine.after start inputs).node.currentState = .S_END := by
  intro start inputs
  have reported : .posted .E_TIME_OUT ∈ machine.trace start inputs := List.mem_of_getElem? (i:=1) rfl
  have met : machine.Meets Heeds start inputs := ⟨trivial,trivial,trivial,rfl,rfl,rfl,rfl,trivial⟩
  exact ⟨reported,aborted_run_ends true true (some true) inputs met rfl (.inl reported)⟩

-- The collector refuses to begin, and then the timer fires.
theorem refused_collector_stuck :
    let start := initial true true (some true)
    let refusing := {ExecutorAnswers.succeeding with beginCollector:=ResultCode.GENERAL_ERROR}
    let inputs := [.startSchedule,.startTimer,.turn refusing,.turn refusing,.turn refusing,.timeOut,.turn refusing]
    (machine.after start inputs).node.pendingEvents = [] ∧
      .posted .E_TIME_OUT ∈ machine.trace start inputs ∧
      .posted .E_COLLECT_STARTED_FAILED ∈ machine.trace start inputs ∧
      (machine.after start inputs).node.currentState = .S_COLLECT_STARING :=
  ⟨rfl,List.mem_of_getElem? (i:=8) rfl,List.mem_of_getElem? (i:=5) rfl,rfl⟩

end ScheduleRun
end UserAuth
