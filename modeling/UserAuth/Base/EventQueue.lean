import UserAuth.Base.FiniteStateMachine
import UserAuth.Lib.Credits
import UserAuth.Lib.Mealy

namespace UserAuth

-- A queued event with the external event it goes back to, itself or the one
-- whose handling scheduled it.
structure QueuedEvent (Event : Type) where
  event : Event
  origin : Nat
  internal : Bool
  deriving DecidableEq

-- Where a task stands in ScheduleInner's loop: between two events, in the
-- invoker of a transition, or in the leave and enter invokers after it.
inductive LoopPhase (State Event : Type) where
  | between
  | invoking (event : QueuedEvent Event) (newState : State)
  | entering (event : QueuedEvent Event)

structure EventQueue (State Event : Type) where
  currentState : State
  threadHandler : Bool
  pendingEvents : List (QueuedEvent Event) := []
  -- Schedule calls that have pushed their event and not posted their task yet.
  posting : Nat := 0
  -- Posted tasks that do not hold the mutex yet.
  tasks : Nat := 0
  run : Option (Nat × LoopPhase State Event) := none
  ownerReleased : Bool := false
  -- Every event ever pushed, and how many of them from outside.
  pushed : List (QueuedEvent Event) := []
  externals : Nat := 0

inductive QueueInput (Event : Type) where
  | schedule (event : Event)
  | post
  | beginTask
  | turn
  -- The running invoker calls Inner::Schedule.
  | innerSchedule (event : Event)
  | release

namespace EventQueue
variable {State Event : Type}

def MAX_SCHEDULE_TIMES : Nat := 100

def push (s : EventQueue State Event) (queued : QueuedEvent Event) : EventQueue State Event :=
  {s with pendingEvents:=s.pendingEvents ++ [queued],pushed:=s.pushed ++ [queued]}

def schedule (s : EventQueue State Event) (event : Event) : EventQueue State Event :=
  if s.threadHandler then
    let pushed := s.push ⟨event,s.externals,false⟩
    {pushed with externals:=s.externals + 1,posting:=s.posting + 1}
  else s

def post (s : EventQueue State Event) : EventQueue State Event :=
  match s.posting with
  | 0 => s
  | calls + 1 => {s with posting:=calls,tasks:=s.tasks + 1}

-- The mutex lets one task in at a time, and a task whose owner is gone does nothing.
def beginTask (s : EventQueue State Event) : EventQueue State Event :=
  match s.run,s.tasks with
  | none,tasks + 1 => {s with tasks:=tasks,run:=if s.ownerReleased then none else some (0,.between)}
  | _,_ => s

-- The next part of the loop, with the event whose transition it completes.
def turn [DecidableEq State] (transitionMap : State → Event → Option State) (s : EventQueue State Event) :
    EventQueue State Event × List (QueuedEvent Event) :=
  match s.run with
  | none => (s,[])
  | some (runTimes,.between) =>
    if runTimes < MAX_SCHEDULE_TIMES then
      match s.pendingEvents with
      | [] => ({s with run:=none},[])
      | queued :: rest =>
        match transitionMap s.currentState queued.event with
        | none => ({s with pendingEvents:=rest,run:=some (runTimes + 1,.between)},[queued])
        | some newState => ({s with pendingEvents:=rest,run:=some (runTimes,.invoking queued newState)},[])
    else ({s with run:=none},[])
  | some (runTimes,.invoking queued newState) =>
    let phase := if s.currentState = newState then (runTimes + 1,.between) else (runTimes,.entering queued)
    ({s with currentState:=newState,run:=some phase},[queued])
  | some (runTimes,.entering _) => ({s with run:=some (runTimes + 1,.between)},[])

-- The event whose invokers are running.
def handled (s : EventQueue State Event) : Option (QueuedEvent Event) :=
  match s.run with
  | some (_,.invoking queued _) => some queued
  | some (_,.entering queued) => some queued
  | _ => none

def innerSchedule (s : EventQueue State Event) (event : Event) : EventQueue State Event :=
  match s.handled with
  | none => s
  | some queued => s.push ⟨event,queued.origin,true⟩

-- A running task holds its owner.
def release (s : EventQueue State Event) : EventQueue State Event :=
  match s.run with
  | none => {s with ownerReleased:=true}
  | some _ => s

def step [DecidableEq State] (transitionMap : State → Event → Option State) (s : EventQueue State Event) :
    QueueInput Event → EventQueue State Event × List (QueuedEvent Event)
  | .schedule event => (s.schedule event,[])
  | .post => (s.post,[])
  | .beginTask => (s.beginTask,[])
  | .turn => s.turn transitionMap
  | .innerSchedule event => (s.innerSchedule event,[])
  | .release => (s.release,[])

-- The outputs are the events processed, in order.
def machine [DecidableEq State] (transitionMap : State → Event → Option State) :
    Mealy (EventQueue State Event) (QueueInput Event) (QueuedEvent Event) := ⟨step transitionMap⟩

-- The event taken from the queue whose transition is not complete.
def inFlight (s : EventQueue State Event) : List (QueuedEvent Event) :=
  match s.run with
  | some (_,.invoking queued _) => [queued]
  | _ => []

def nextState (transitionMap : State → Event → Option State) (state : State) (queued : QueuedEvent Event) : State :=
  (transitionMap state queued.event).getD state

-- What of the work in hand the task in the loop may still take.
def loopCredit (s : EventQueue State Event) : Nat :=
  match s.run with
  | none => 0
  | some (runTimes,.between) => MAX_SCHEDULE_TIMES - runTimes
  | some (runTimes,_) => MAX_SCHEDULE_TIMES - (runTimes + 1)

def active (s : EventQueue State Event) : List Nat := (s.handled.toList ++ s.pendingEvents).map QueuedEvent.origin

def taken (s : EventQueue State Event) (processed : List (QueuedEvent Event)) : List Nat :=
  (processed ++ s.inFlight).map QueuedEvent.origin

-- Every pushed event is in one place, in the order of the pushes.
structure Ordered (transitionMap : State → Event → Option State) (initial : State) (s : EventQueue State Event)
    (processed : List (QueuedEvent Event)) : Prop where
  pushed : s.pushed = processed ++ s.inFlight ++ s.pendingEvents
  state : s.currentState = processed.foldl (nextState transitionMap) initial
  target : ∀ runTimes queued newState, s.run = some (runTimes,.invoking queued newState) →
    transitionMap s.currentState queued.event = some newState
  entered : ∀ runTimes queued, s.run = some (runTimes,.entering queued) → queued ∈ processed
  numbered : (s.pushed.filter (!·.internal)).map QueuedEvent.origin = List.range s.externals
  known : ∀ queued ∈ s.pushed, queued.origin < s.externals

section Order
variable {transitionMap : State → Event → Option State} {initial : State} {s : EventQueue State Event}
  {processed : List (QueuedEvent Event)}

theorem handled_pushed (ordered : Ordered transitionMap initial s processed) (running : s.handled = some queued) :
    queued ∈ s.pushed := by
  rw [ordered.pushed]
  unfold handled at running
  split at running
  · rename_i runTimes event newState found
    cases running
    simp [inFlight,found]
  · rename_i runTimes event found
    cases running
    exact List.mem_append_left _ (List.mem_append_left _ (ordered.entered _ _ found))
  · cases running

theorem schedule_ordered (ordered : Ordered transitionMap initial s processed) (event : Event) :
    Ordered transitionMap initial (s.schedule event) processed := by
  unfold schedule
  split
  · constructor
    · show s.pushed ++ _ = processed ++ s.inFlight ++ (s.pendingEvents ++ _)
      rw [ordered.pushed,List.append_assoc]
    · exact ordered.state
    · exact ordered.target
    · exact ordered.entered
    · show ((s.pushed ++ _).filter _).map _ = List.range (s.externals + 1)
      rw [List.filter_append,List.map_append,ordered.numbered,List.range_succ]
      rfl
    · intro queued member
      show queued.origin < s.externals + 1
      obtain old | new := List.mem_append.mp member
      · exact Nat.lt_succ_of_lt (ordered.known queued old)
      · rw [List.mem_singleton.mp new]
        exact Nat.lt_succ_self _
  · exact ordered

theorem innerSchedule_ordered (ordered : Ordered transitionMap initial s processed) (event : Event) :
    Ordered transitionMap initial (s.innerSchedule event) processed := by
  unfold innerSchedule
  cases running : s.handled with
  | none => exact ordered
  | some queued =>
    constructor
    · show s.pushed ++ _ = processed ++ s.inFlight ++ (s.pendingEvents ++ _)
      rw [ordered.pushed,List.append_assoc]
    · exact ordered.state
    · exact ordered.target
    · exact ordered.entered
    · show ((s.pushed ++ _).filter _).map _ = List.range s.externals
      rw [List.filter_append,List.map_append,ordered.numbered]
      exact List.append_nil _
    · intro other member
      obtain old | new := List.mem_append.mp member
      · exact ordered.known other old
      · rw [List.mem_singleton.mp new]
        exact ordered.known queued (handled_pushed ordered running)

-- A step that leaves the queue and the event in hand alone.
theorem same_ordered (ordered : Ordered transitionMap initial s processed) (queue : next.pendingEvents = s.pendingEvents)
    (pushed : next.pushed = s.pushed) (externals : next.externals = s.externals)
    (state : next.currentState = s.currentState) (inFlight : next.inFlight = s.inFlight)
    (loop : ∀ phase, next.run = some phase → s.run = some phase ∨ ∃ runTimes, phase = (runTimes,.between)) :
    Ordered transitionMap initial next processed := by
  constructor
  · rw [pushed,queue,inFlight]
    exact ordered.pushed
  · rw [state]
    exact ordered.state
  · intro runTimes queued newState found
    rw [state]
    obtain same | fresh := loop _ found
    · exact ordered.target runTimes queued newState same
    · obtain ⟨_,fresh⟩ := fresh
      cases fresh
  · intro runTimes queued found
    obtain same | fresh := loop _ found
    · exact ordered.entered runTimes queued same
    · obtain ⟨_,fresh⟩ := fresh
      cases fresh
  · rw [pushed,externals]
    exact ordered.numbered
  · rw [pushed,externals]
    exact ordered.known

theorem post_ordered (ordered : Ordered transitionMap initial s processed) :
    Ordered transitionMap initial s.post processed := by
  unfold post
  split
  · exact ordered
  · exact same_ordered ordered rfl rfl rfl rfl rfl fun _ found => .inl found

theorem beginTask_ordered (ordered : Ordered transitionMap initial s processed) :
    Ordered transitionMap initial s.beginTask processed := by
  unfold beginTask
  split
  · rename_i idle waiting
    split
    · exact same_ordered ordered rfl rfl rfl rfl (by simp [inFlight,idle]) nofun
    · refine same_ordered ordered rfl rfl rfl rfl (by simp [inFlight,idle]) fun phase found => .inr ⟨0,?_⟩
      exact (Option.some.inj found).symm
  · exact ordered

theorem release_ordered (ordered : Ordered transitionMap initial s processed) :
    Ordered transitionMap initial s.release processed := by
  unfold release
  split
  · exact same_ordered ordered rfl rfl rfl rfl rfl fun _ found => .inl found
  · exact ordered

end Order

-- One part of the loop: what it does to the queue, the state and its credit.
inductive Turned (transitionMap : State → Event → Option State) (s : EventQueue State Event) :
    EventQueue State Event → List (QueuedEvent Event) → Prop where
  | idle (free : s.run = none) : Turned transitionMap s s []
  | drained (running : s.run = some (runTimes,.between)) (empty : s.pendingEvents = []) :
      Turned transitionMap s {s with run:=none} []
  | worn (running : s.run = some (runTimes,.between)) (many : MAX_SCHEDULE_TIMES ≤ runTimes) :
      Turned transitionMap s {s with run:=none} []
  | dropped (running : s.run = some (runTimes,.between)) (few : runTimes < MAX_SCHEDULE_TIMES)
      (front : s.pendingEvents = queued :: rest) (missing : transitionMap s.currentState queued.event = none) :
      Turned transitionMap s {s with pendingEvents:=rest,run:=some (runTimes + 1,.between)} [queued]
  | taken (running : s.run = some (runTimes,.between)) (few : runTimes < MAX_SCHEDULE_TIMES)
      (front : s.pendingEvents = queued :: rest) (found : transitionMap s.currentState queued.event = some newState) :
      Turned transitionMap s {s with pendingEvents:=rest,run:=some (runTimes,.invoking queued newState)} []
  | stayed (running : s.run = some (runTimes,.invoking queued newState)) (same : s.currentState = newState) :
      Turned transitionMap s {s with run:=some (runTimes + 1,.between)} [queued]
  | moved (running : s.run = some (runTimes,.invoking queued newState)) (different : s.currentState ≠ newState) :
      Turned transitionMap s {s with currentState:=newState,run:=some (runTimes,.entering queued)} [queued]
  | entered (running : s.run = some (runTimes,.entering queued)) :
      Turned transitionMap s {s with run:=some (runTimes + 1,.between)} []

section Turns
variable {transitionMap : State → Event → Option State} {initial : State}
  {s next : EventQueue State Event} {processed outputs : List (QueuedEvent Event)}

theorem turn_cases [DecidableEq State] (transitionMap : State → Event → Option State) (s : EventQueue State Event) :
    Turned transitionMap s (s.turn transitionMap).1 (s.turn transitionMap).2 := by
  unfold turn
  split
  · rename_i free
    exact .idle free
  · rename_i runTimes running
    split
    · rename_i few
      split
      · rename_i empty
        exact .drained running empty
      · rename_i queued rest front
        split
        · rename_i missing
          exact .dropped running few front missing
        · rename_i newState found
          exact .taken running few front found
    · rename_i many
      exact .worn running (Nat.le_of_not_lt many)
  · rename_i runTimes queued newState running
    by_cases same : s.currentState = newState
    · subst same
      rw [if_pos rfl]
      exact .stayed running rfl
    · rw [if_neg same]
      exact .moved running same
  · rename_i runTimes queued running
    exact .entered running

theorem turned_ordered (ordered : Ordered transitionMap initial s processed) (turned : Turned transitionMap s next outputs) :
    Ordered transitionMap initial next (processed ++ outputs) := by
  have pushed := ordered.pushed
  cases turned with
  | idle =>
    rw [List.append_nil]
    exact ordered
  | drained running empty =>
    rw [List.append_nil]
    exact same_ordered ordered rfl rfl rfl rfl (by simp [inFlight,running]) nofun
  | worn running many =>
    rw [List.append_nil]
    exact same_ordered ordered rfl rfl rfl rfl (by simp [inFlight,running]) nofun
  | dropped running few front missing =>
    constructor
    · simpa [inFlight,running,front] using pushed
    · rw [List.foldl_append,← ordered.state]
      simp [nextState,missing]
    · nofun
    · nofun
    · exact ordered.numbered
    · exact ordered.known
  | taken running few front found =>
    rw [List.append_nil]
    constructor
    · simpa [inFlight,running,front] using pushed
    · exact ordered.state
    · intro _ _ _ same
      cases same
      exact found
    · nofun
    · exact ordered.numbered
    · exact ordered.known
  | stayed running same =>
    have found := ordered.target _ _ _ running
    constructor
    · simpa [inFlight,running] using pushed
    · rw [List.foldl_append,← ordered.state]
      simpa [nextState,found] using same
    · nofun
    · nofun
    · exact ordered.numbered
    · exact ordered.known
  | moved running different =>
    have found := ordered.target _ _ _ running
    constructor
    · simpa [inFlight,running] using pushed
    · rw [List.foldl_append,← ordered.state]
      simp [nextState,found]
    · nofun
    · intro _ _ same
      cases same
      exact List.mem_append_right _ List.mem_cons_self
    · exact ordered.numbered
    · exact ordered.known
  | entered running =>
    rw [List.append_nil]
    refine same_ordered ordered rfl rfl rfl rfl (by simp [inFlight,running]) ?_
    intro phase found
    cases found
    exact .inr ⟨_,rfl⟩

theorem step_ordered [DecidableEq State] (ordered : Ordered transitionMap initial s processed) (input : QueueInput Event) :
    Ordered transitionMap initial (s.step transitionMap input).1 (processed ++ (s.step transitionMap input).2) := by
  cases input with
  | turn => exact turned_ordered ordered (turn_cases transitionMap s)
  | schedule event =>
    rw [step,List.append_nil]
    exact schedule_ordered ordered event
  | post =>
    rw [step,List.append_nil]
    exact post_ordered ordered
  | beginTask =>
    rw [step,List.append_nil]
    exact beginTask_ordered ordered
  | innerSchedule event =>
    rw [step,List.append_nil]
    exact innerSchedule_ordered ordered event
  | release =>
    rw [step,List.append_nil]
    exact release_ordered ordered

-- Of each origin at most as many events are pushed as one task takes.
def Bounded (s : EventQueue State Event) : Prop :=
  ∀ origin, (s.pushed.map QueuedEvent.origin).count origin ≤ MAX_SCHEDULE_TIMES

-- The work that the active origins may still ask for is covered by the tasks
-- that are to come and by what is left of the one in the loop.
def Covered (s : EventQueue State Event) (processed : List (QueuedEvent Event)) : Prop :=
  Credits.owed MAX_SCHEDULE_TIMES s.externals s.active (s.taken processed) ≤
    MAX_SCHEDULE_TIMES * (s.posting + s.tasks) + s.loopCredit

theorem handled_inFlight (free : s.handled = none) : s.inFlight = [] := by
  unfold handled at free
  unfold inFlight
  split at free
  · cases free
  · cases free
  · rename_i none _
    split
    · rename_i runTimes queued newState found
      exact absurd found (none runTimes queued newState)
    · rfl

-- The queue's first event is one more of its origin than were taken before it.
theorem front_left (ordered : Ordered transitionMap initial s processed) (bounded : Bounded s)
    (front : s.pendingEvents = queued :: rest) :
    queued.origin < s.externals ∧ (s.taken processed).count queued.origin < MAX_SCHEDULE_TIMES := by
  have known := ordered.known queued (by rw [ordered.pushed,front]; simp)
  have count := bounded queued.origin
  rw [ordered.pushed,front,List.map_append,List.count_append,List.map_cons,List.count_cons_self] at count
  refine ⟨known,?_⟩
  rw [taken]
  omega

-- A step that takes nothing from the queue and leaves no more work than before.
theorem same_covered (covered : Covered s processed) (externals : next.externals = s.externals)
    (fewer : ∀ origin ∈ next.active, origin ∈ s.active) (taken : next.taken later = s.taken processed)
    (credit : MAX_SCHEDULE_TIMES * (s.posting + s.tasks) + s.loopCredit ≤
      MAX_SCHEDULE_TIMES * (next.posting + next.tasks) + next.loopCredit) : Covered next later := by
  rw [Covered,externals,taken]
  exact Nat.le_trans (Credits.owed_mono fewer) (Nat.le_trans covered credit)

theorem schedule_covered (covered : Covered s processed) (event : Event) : Covered (s.schedule event) processed := by
  unfold schedule
  split
  · have grown : Credits.owed MAX_SCHEDULE_TIMES (s.externals + 1) (s.active ++ [s.externals]) (s.taken processed) ≤
        Credits.owed MAX_SCHEDULE_TIMES s.externals s.active (s.taken processed) + MAX_SCHEDULE_TIMES :=
      Credits.owed_new _ _
    have active : s.active ++ [s.externals] =
        (s.handled.toList ++ (s.pendingEvents ++ [QueuedEvent.mk event s.externals false])).map QueuedEvent.origin := by
      simp [EventQueue.active]
    rw [active] at grown
    have covered : Credits.owed _ _ _ _ ≤ _ := covered
    show Credits.owed MAX_SCHEDULE_TIMES (s.externals + 1) _ (s.taken processed) ≤
      MAX_SCHEDULE_TIMES * (s.posting + 1 + s.tasks) + s.loopCredit
    refine Nat.le_trans grown ?_
    have split : MAX_SCHEDULE_TIMES * (s.posting + 1 + s.tasks) =
        MAX_SCHEDULE_TIMES * (s.posting + s.tasks) + MAX_SCHEDULE_TIMES := by
      unfold MAX_SCHEDULE_TIMES
      omega
    omega
  · exact covered

theorem post_covered (covered : Covered s processed) : Covered s.post processed := by
  unfold post
  split
  · exact covered
  · rename_i calls posting
    refine same_covered covered rfl (fun _ member => member) rfl ?_
    show _ ≤ MAX_SCHEDULE_TIMES * (calls + (s.tasks + 1)) + s.loopCredit
    rw [posting]
    unfold MAX_SCHEDULE_TIMES
    omega

theorem beginTask_covered (covered : Covered s processed) (alive : s.ownerReleased = false) :
    Covered s.beginTask processed := by
  unfold beginTask
  split
  · rename_i tasks idle waiting
    rw [if_neg (by rw [alive]; nofun)]
    refine same_covered covered rfl ?_ (by simp [taken,inFlight,idle]) ?_
    · simp [active,handled,idle]
    · show _ ≤ MAX_SCHEDULE_TIMES * (s.posting + tasks) + (MAX_SCHEDULE_TIMES - 0)
      rw [waiting,loopCredit,idle]
      unfold MAX_SCHEDULE_TIMES
      dsimp only
      omega
  · exact covered

-- What an invoker schedules is of an origin that is active already.
theorem innerSchedule_covered (covered : Covered s processed) (event : Event) :
    Covered (s.innerSchedule event) processed := by
  unfold innerSchedule
  cases running : s.handled with
  | none => exact covered
  | some queued =>
    refine same_covered covered rfl ?_ rfl (Nat.le_refl _)
    intro origin member
    have here : queued.origin ∈ s.active := by simp [active,running]
    have split : (s.push ⟨event,queued.origin,true⟩).active = s.active ++ [queued.origin] := by
      simp [active,push,handled]
    rw [split] at member
    obtain old | new := List.mem_append.mp member
    · exact old
    · rw [List.mem_singleton.mp new]
      exact here

-- Taking the first event spends one turn of the task in the loop.
theorem front_covered (ordered : Ordered transitionMap initial s processed) (bounded : Bounded s)
    (covered : Covered s processed) (running : s.run = some (runTimes,.between)) (few : runTimes < MAX_SCHEDULE_TIMES)
    (front : s.pendingEvents = queued :: rest) :
    Credits.owed MAX_SCHEDULE_TIMES s.externals (queued.origin :: rest.map QueuedEvent.origin)
        ((processed ++ [queued]).map QueuedEvent.origin) ≤
      MAX_SCHEDULE_TIMES * (s.posting + s.tasks) + (MAX_SCHEDULE_TIMES - (runTimes + 1)) := by
  obtain ⟨known,left⟩ := front_left ordered bounded front
  have active : s.active = queued.origin :: rest.map QueuedEvent.origin := by simp [active,handled,running,front]
  have taken : s.taken processed = processed.map QueuedEvent.origin := by simp [taken,inFlight,running]
  have credit : s.loopCredit = MAX_SCHEDULE_TIMES - runTimes := by simp [loopCredit,running]
  have spent := Credits.owed_take known (active ▸ List.mem_cons_self) left
  rw [Covered,credit] at covered
  rw [active,taken] at spent covered
  rw [List.map_append,List.map_singleton]
  omega

theorem turned_covered (ordered : Ordered transitionMap initial s processed) (bounded : Bounded s)
    (covered : Covered s processed) (turned : Turned transitionMap s next outputs) : Covered next (processed ++ outputs) := by
  cases turned with
  | idle =>
    rw [List.append_nil]
    exact covered
  | drained running empty =>
    have none : active {s with run:=none} = [] := by simp [active,handled,empty]
    rw [Covered,none,Credits.owed_idle]
    exact Nat.zero_le _
  | worn running many =>
    refine same_covered covered rfl ?_ (by simp [taken,inFlight,running]) ?_
    · simp [active,handled,running]
    · rw [loopCredit,running]
      show MAX_SCHEDULE_TIMES * (s.posting + s.tasks) + (MAX_SCHEDULE_TIMES - _) ≤
        MAX_SCHEDULE_TIMES * (s.posting + s.tasks) + 0
      omega
  | dropped running few front missing =>
    have owed := front_covered ordered bounded covered running few front
    rename_i runTimes queued rest
    refine Nat.le_trans ?_ owed
    show Credits.owed MAX_SCHEDULE_TIMES s.externals (rest.map QueuedEvent.origin)
      (((processed ++ [queued]) ++ []).map QueuedEvent.origin) ≤ _
    rw [List.append_nil]
    exact Credits.owed_mono fun _ member => List.mem_cons_of_mem _ member
  | taken running few front found =>
    rw [List.append_nil]
    have owed := front_covered ordered bounded covered running few front
    exact owed
  | stayed running same =>
    refine same_covered covered rfl ?_ (by simp [taken,inFlight,running]) (by simp [loopCredit,running])
    · simp only [active,handled,running]
      exact fun origin member => List.mem_cons_of_mem _ member
  | moved running different =>
    exact same_covered covered rfl (by simp [active,handled,running]) (by simp [taken,inFlight,running])
      (by simp [loopCredit,running])
  | entered running =>
    refine same_covered covered rfl ?_ (by simp [taken,inFlight,running]) (by simp [loopCredit,running])
    · simp only [active,handled,running]
      exact fun origin member => List.mem_cons_of_mem _ member

theorem step_covered [DecidableEq State] (ordered : Ordered transitionMap initial s processed) (bounded : Bounded s)
    (alive : s.ownerReleased = false) (covered : Covered s processed) (input : QueueInput Event) :
    Covered (s.step transitionMap input).1 (processed ++ (s.step transitionMap input).2) := by
  cases input with
  | turn => exact turned_covered ordered bounded covered (turn_cases transitionMap s)
  | schedule event =>
    rw [step,List.append_nil]
    exact schedule_covered covered event
  | post =>
    rw [step,List.append_nil]
    exact post_covered covered
  | beginTask =>
    rw [step,List.append_nil]
    exact beginTask_covered covered alive
  | innerSchedule event =>
    rw [step,List.append_nil]
    exact innerSchedule_covered covered event
  | release =>
    rw [step,List.append_nil,release]
    split
    · exact same_covered covered rfl (fun _ member => member) rfl (Nat.le_refl _)
    · exact covered

-- Events are only ever added, and a released owner does not come back.
theorem turned_frame (turned : Turned transitionMap s next outputs) :
    next.pushed = s.pushed ∧ next.ownerReleased = s.ownerReleased := by
  cases turned <;> exact ⟨rfl,rfl⟩

theorem step_frame [DecidableEq State] (transitionMap : State → Event → Option State) (s : EventQueue State Event)
    (input : QueueInput Event) : s.pushed <+: (s.step transitionMap input).1.pushed ∧
      ((s.step transitionMap input).1.ownerReleased = false → s.ownerReleased = false) := by
  cases input with
  | turn =>
    obtain ⟨pushed,released⟩ := turned_frame (turn_cases transitionMap s)
    rw [step,pushed,released]
    exact ⟨List.prefix_rfl,id⟩
  | schedule event =>
    rw [step,schedule]
    split
    · exact ⟨List.prefix_append _ _,id⟩
    · exact ⟨List.prefix_rfl,id⟩
  | post =>
    rw [step,post]
    split <;> exact ⟨List.prefix_rfl,id⟩
  | beginTask =>
    rw [step,beginTask]
    split <;> exact ⟨List.prefix_rfl,id⟩
  | innerSchedule event =>
    rw [step,innerSchedule]
    split
    · exact ⟨List.prefix_rfl,id⟩
    · exact ⟨List.prefix_append _ _,id⟩
  | release =>
    rw [step,release]
    split
    · exact ⟨List.prefix_rfl,nofun⟩
    · exact ⟨List.prefix_rfl,id⟩

end Turns

section Runs

theorem bounded_before {s later : EventQueue State Event} (bounded : Bounded later) (grown : s.pushed <+: later.pushed) :
    Bounded s := fun origin =>
  Nat.le_trans ((grown.map QueuedEvent.origin).sublist.count_le origin) (bounded origin)

def start (initial : State) (threadHandler : Bool) : EventQueue State Event :=
  {currentState:=initial,threadHandler:=threadHandler}

theorem start_ordered (transitionMap : State → Event → Option State) (initial : State) (threadHandler : Bool) :
    Ordered transitionMap initial (start initial threadHandler) [] := by
  constructor
  · rfl
  · rfl
  · nofun
  · nofun
  · rfl
  · nofun

variable [DecidableEq State]

theorem run_valid (transitionMap : State → Event → Option State) (initial : State) (threadHandler : Bool)
    (inputs : List (QueueInput Event)) :
    let s := (machine transitionMap).after (start initial threadHandler) inputs
    let processed := (machine transitionMap).trace (start initial threadHandler) inputs
    Ordered transitionMap initial s processed ∧ (Bounded s → s.ownerReleased = false → Covered s processed) := by
  refine Mealy.history (m:=machine transitionMap) (P:=fun s processed => Ordered transitionMap initial s processed ∧
    (Bounded s → s.ownerReleased = false → Covered s processed)) ?_ ?_ inputs
  · intro s processed input valid
    obtain ⟨grown,lived⟩ := step_frame transitionMap s input
    refine ⟨step_ordered valid.1 input,fun bounded alive => ?_⟩
    have bounded := bounded_before bounded grown
    exact step_covered valid.1 bounded (lived alive) (valid.2 bounded (lived alive)) input
  · exact ⟨start_ordered transitionMap initial threadHandler,fun _ _ => Nat.zero_le _⟩

-- The loop has let go of the mutex, and nothing is to enter it any more.
def Quiescent (s : EventQueue State Event) : Prop := s.run = none ∧ s.tasks = 0 ∧ s.posting = 0

theorem quiescent_drained (ordered : Ordered transitionMap initial s processed) (bounded : Bounded s)
    (covered : Covered s processed) (quiet : Quiescent s) : s.pendingEvents = [] := by
  obtain ⟨free,tasks,posting⟩ := quiet
  have spent : Credits.owed MAX_SCHEDULE_TIMES s.externals s.active (s.taken processed) = 0 := by
    rw [Covered,tasks,posting,loopCredit,free] at covered
    exact Nat.le_zero.mp covered
  have active : s.active = s.pendingEvents.map QueuedEvent.origin := by simp [active,handled,free]
  have none : s.active = [] := by
    refine Credits.owed_nothing spent fun origin member => ?_
    rw [active] at member
    obtain ⟨queued,waiting,rfl⟩ := List.mem_map.mp member
    obtain ⟨before,after,split⟩ := List.append_of_mem waiting
    have count := bounded queued.origin
    rw [ordered.pushed,split] at count
    simp only [List.map_append,List.count_append,List.map_cons,List.count_cons_self] at count
    have taken : (s.taken processed).count queued.origin =
        (processed.map QueuedEvent.origin).count queued.origin +
          (s.inFlight.map QueuedEvent.origin).count queued.origin := by
      rw [EventQueue.taken,List.map_append,List.count_append]
    have pushed : queued ∈ s.pushed := by
      rw [ordered.pushed]
      exact List.mem_append_right _ waiting
    exact ⟨ordered.known queued pushed,by omega⟩
  rw [active] at none
  exact List.map_eq_nil_iff.mp none

-- How many events an external event made the invokers schedule, directly or not.
def internals (s : EventQueue State Event) (origin : Nat) : Nat :=
  s.pushed.countP fun queued => queued.internal && queued.origin == origin

omit [DecidableEq State] in
theorem origins_count (pushed : List (QueuedEvent Event)) (origin : Nat) :
    (pushed.map QueuedEvent.origin).count origin = pushed.countP (fun queued => queued.internal && queued.origin == origin) +
      ((pushed.filter (!·.internal)).map QueuedEvent.origin).count origin := by
  induction pushed with
  | nil => rfl
  | cons queued rest ih =>
    rw [List.map_cons,List.count_cons,List.countP_cons,ih]
    cases internal : queued.internal with
    | true =>
      rw [List.filter_cons_of_neg (by rw [internal]; nofun)]
      simp only [Bool.true_and]
      omega
    | false =>
      rw [List.filter_cons_of_pos (by rw [internal]; rfl),List.map_cons,List.count_cons]
      simp only [Bool.false_and,Bool.false_eq_true,if_false]
      omega

omit [DecidableEq State] in
theorem bounded_of_internals {s : EventQueue State Event} (ordered : Ordered transitionMap initial s processed)
    (few : ∀ origin, s.internals origin ≤ 99) : Bounded s := by
  intro origin
  rw [origins_count,ordered.numbered]
  have once : (List.range s.externals).count origin ≤ 1 := List.nodup_iff_count_le_one.mp List.nodup_range origin
  have few : List.countP _ s.pushed ≤ 99 := few origin
  show _ ≤ 100
  omega

def scheduledEvent : QueueInput Event → Option Event
  | .schedule event => some event
  | _ => none

def externalEvents (s : EventQueue State Event) : List Event := (s.pushed.filter (!·.internal)).map QueuedEvent.event

-- What a step leaves of the handler and adds to the events from outside.
def Heard (s : EventQueue State Event) (input : QueueInput Event) (next : EventQueue State Event) : Prop :=
  next.threadHandler = s.threadHandler ∧
    next.externalEvents = s.externalEvents ++ if s.threadHandler then (scheduledEvent input).toList else []

omit [DecidableEq State] in
theorem heard_nothing {s next : EventQueue State Event} (other : scheduledEvent input = none)
    (handler : next.threadHandler = s.threadHandler) (same : next.externalEvents = s.externalEvents) :
    Heard s input next := by
  refine ⟨handler,?_⟩
  rw [other,same]
  split <;> exact (List.append_nil _).symm

omit [DecidableEq State] in
theorem turned_heard (turned : Turned transitionMap s next outputs) : Heard s .turn next := by
  cases turned <;> exact heard_nothing rfl rfl rfl

theorem step_heard (transitionMap : State → Event → Option State) (s : EventQueue State Event)
    (input : QueueInput Event) : Heard s input (s.step transitionMap input).1 := by
  cases input with
  | turn => exact turned_heard (turn_cases transitionMap s)
  | schedule event =>
    rw [step,schedule]
    split
    · rename_i handler
      refine ⟨rfl,?_⟩
      simp [externalEvents,push,scheduledEvent,handler]
    · rename_i handler
      refine ⟨rfl,?_⟩
      rw [if_neg handler,List.append_nil]
  | post =>
    rw [step,post]
    split <;> exact heard_nothing rfl rfl rfl
  | beginTask =>
    rw [step,beginTask]
    split <;> exact heard_nothing rfl rfl rfl
  | innerSchedule event =>
    rw [step,innerSchedule]
    split
    · exact heard_nothing rfl rfl rfl
    · exact heard_nothing rfl rfl (by simp [externalEvents,push])
  | release =>
    rw [step,release]
    split <;> exact heard_nothing rfl rfl rfl

theorem run_external (transitionMap : State → Event → Option State) (s : EventQueue State Event)
    (inputs : List (QueueInput Event)) : ((machine transitionMap).after s inputs).externalEvents =
      s.externalEvents ++ if s.threadHandler then inputs.filterMap scheduledEvent else [] := by
  induction inputs generalizing s with
  | nil => simp
  | cons input rest ih =>
    obtain ⟨handler,came⟩ := step_heard transitionMap s input
    have rest := ih (s.step transitionMap input).1
    rw [handler,came,List.append_assoc] at rest
    rw [Mealy.after_cons]
    refine Eq.trans rest ?_
    congr 1
    split
    · rw [List.filterMap_cons]
      cases scheduledEvent input <;> rfl
    · rfl

-- While the owner is alive every event pushed is processed once and in the order
-- of the pushes, and nothing waits any more once the posted tasks have run.
theorem events_processed (transitionMap : State → Event → Option State) (initial : State) (threadHandler : Bool)
    (inputs : List (QueueInput Event))
    (few : ∀ origin, ((machine transitionMap).after (start initial threadHandler) inputs).internals origin ≤ 99)
    (alive : ((machine transitionMap).after (start initial threadHandler) inputs).ownerReleased = false) :
    let s := (machine transitionMap).after (start initial threadHandler) inputs
    let processed := (machine transitionMap).trace (start initial threadHandler) inputs
    s.pushed = processed ++ s.inFlight ++ s.pendingEvents ∧
      s.externalEvents = (if threadHandler then inputs.filterMap scheduledEvent else []) ∧
      (Quiescent s → s.pendingEvents = [] ∧ processed = s.pushed) ∧
      s.currentState = processed.foldl (nextState transitionMap) initial := by
  obtain ⟨ordered,covered⟩ := run_valid transitionMap initial threadHandler inputs
  have bounded := bounded_of_internals ordered few
  refine ⟨ordered.pushed,run_external transitionMap _ inputs,fun quiet => ?_,ordered.state⟩
  have drained := quiescent_drained ordered bounded (covered bounded alive) quiet
  have free := handled_inFlight (by rw [handled,quiet.1])
  have pushed := ordered.pushed
  rw [drained,free,List.append_nil,List.append_nil] at pushed
  exact ⟨drained,pushed.symm⟩

-- The turns taken at once elsewhere are runs of this machine, in which the
-- invokers schedule what the actions of the table push.
structure Matches (s : EventQueue State Event) (fsm : FiniteStateMachineImpl Owner State Event) : Prop where
  state : s.currentState = fsm.currentState
  pending : s.pendingEvents.map QueuedEvent.event = fsm.pendingEvents

def target (table : FsmTable Env Owner State Event Effect) (state : State) (event : Event) : Option State :=
  (table.transitionMap state event).map Prod.fst

def pushAll (s : EventQueue State Event) (origin : Nat) (events : List Event) : EventQueue State Event :=
  {s with pendingEvents:=s.pendingEvents ++ events.map (QueuedEvent.mk · origin true),
          pushed:=s.pushed ++ events.map (QueuedEvent.mk · origin true)}

theorem after_innerSchedule (transitionMap : State → Event → Option State) (events : List Event)
    {s : EventQueue State Event} (running : s.handled = some queued) :
    (machine transitionMap).after s (events.map .innerSchedule) = s.pushAll queued.origin events := by
  induction events generalizing s with
  | nil => simp [pushAll]
  | cons event rest ih =>
    have stepped : (machine transitionMap).step s (.innerSchedule event) =
        (s.push ⟨event,queued.origin,true⟩,[]) := by
      show (s.innerSchedule event,[]) = _
      rw [innerSchedule,running]
    have same : (s.push ⟨event,queued.origin,true⟩).handled = some queued := running
    rw [List.map_cons,Mealy.after_cons,stepped,ih same]
    simp [pushAll,push]

omit [DecidableEq State] in
theorem inner_unheard (events : List Event) :
    (events.map QueueInput.innerSchedule).filterMap scheduledEvent = [] := by
  rw [List.filterMap_eq_nil_iff]
  intro input member
  obtain ⟨event,_,rfl⟩ := List.mem_map.mp member
  rfl

-- From the invoker of a transition on: the state is stored, and the enter invoker
-- runs where it is another one.
theorem enter_simulated (table : FsmTable Env Owner State Event Effect) (env : Env)
    (fsm : FiniteStateMachineImpl Owner State Event) {s : EventQueue State Event}
    (running : s.run = some (runTimes,.invoking queued fsm.currentState))
    (pending : s.pendingEvents.map QueuedEvent.event = fsm.pendingEvents) :
    ∃ inputs, inputs.filterMap scheduledEvent = [] ∧
      Matches ((machine (target table)).after s inputs) (FiniteStateMachineImpl.enter table env s.currentState fsm).1 := by
  by_cases same : s.currentState = fsm.currentState
  · have storing : (machine (target table)).step s .turn =
        ({s with currentState:=fsm.currentState,run:=some (runTimes + 1,.between)},[queued]) := by
      show s.turn (target table) = _
      simp only [turn,running,if_pos same]
    refine ⟨[.turn],rfl,?_⟩
    rw [Mealy.after_cons,storing,FiniteStateMachineImpl.enter,if_pos same]
    exact ⟨rfl,pending⟩
  · let entered := table.enterMap fsm.currentState env fsm.owner
    let entering : EventQueue State Event :=
      {s with currentState:=fsm.currentState,run:=some (runTimes,.entering queued)}
    have storing : (machine (target table)).step s .turn = (entering,[queued]) := by
      show s.turn (target table) = _
      simp only [turn,running,if_neg same,entering]
    have going : (machine (target table)).after entering (entered.2.1.map .innerSchedule) =
        entering.pushAll queued.origin entered.2.1 := after_innerSchedule (target table) entered.2.1 rfl
    have closing : (machine (target table)).step (entering.pushAll queued.origin entered.2.1) .turn =
        ({entering.pushAll queued.origin entered.2.1 with run:=some (runTimes + 1,.between)},[]) := rfl
    refine ⟨.turn :: (entered.2.1.map .innerSchedule ++ [.turn]),?_,?_⟩
    · show List.filterMap scheduledEvent (_ ++ [_]) = []
      rw [List.filterMap_append,inner_unheard]
      rfl
    · rw [Mealy.after_cons,storing,Mealy.after_append,going,Mealy.after_cons,closing,FiniteStateMachineImpl.enter,
        if_neg same]
      refine ⟨rfl,?_⟩
      show (s.pendingEvents ++ _).map _ = _ ++ entered.2.1
      rw [List.map_append,pending]
      simp [Function.comp_def]

theorem scheduleInner_simulated (table : FsmTable Env Owner State Event Effect) (env : Env)
    (fsm : FiniteStateMachineImpl Owner State Event) {s : EventQueue State Event} (matched : Matches s fsm)
    (running : s.run = some (runTimes,.between)) (few : runTimes < MAX_SCHEDULE_TIMES) :
    ∃ inputs, inputs.filterMap scheduledEvent = [] ∧
      Matches ((machine (target table)).after s inputs) (FiniteStateMachineImpl.scheduleInner table env fsm).1 := by
  obtain ⟨state,pending⟩ := matched
  cases front : s.pendingEvents with
  | nil =>
    rw [front] at pending
    refine ⟨[],rfl,?_⟩
    rw [FiniteStateMachineImpl.scheduleInner_idle table env fsm pending.symm]
    exact ⟨state,by rw [Mealy.after_nil,front]; exact pending⟩
  | cons queued rest =>
    rw [front,List.map_cons] at pending
    cases found : table.transitionMap fsm.currentState queued.event with
    | none =>
      have missing : target table s.currentState queued.event = none := by rw [target,state,found]; rfl
      have stepped : (machine (target table)).step s .turn =
          ({s with pendingEvents:=rest,run:=some (runTimes + 1,.between)},[queued]) := by
        show s.turn (target table) = _
        simp only [turn,running,if_pos few,front,missing]
      refine ⟨[.turn],rfl,?_⟩
      rw [FiniteStateMachineImpl.scheduleInner_dropped table env fsm pending.symm found,Mealy.after_cons,stepped]
      exact ⟨state,rfl⟩
    | some entry =>
      obtain ⟨newState,action⟩ := entry
      have here : target table s.currentState queued.event = some newState := by rw [target,state,found]; rfl
      let acted := action env fsm.owner
      let invoking : EventQueue State Event := {s with pendingEvents:=rest,run:=some (runTimes,.invoking queued newState)}
      let invoked := invoking.pushAll queued.origin acted.2.1
      have taking : (machine (target table)).step s .turn = (invoking,[]) := by
        show s.turn (target table) = _
        simp only [turn,running,if_pos few,front,here]
        rfl
      have acting : (machine (target table)).after invoking (acted.2.1.map .innerSchedule) = invoked :=
        after_innerSchedule (target table) acted.2.1 rfl
      have events : invoked.pendingEvents.map QueuedEvent.event = rest.map QueuedEvent.event ++ acted.2.1 := by
        simp [invoked,invoking,pushAll,Function.comp_def]
      have invokes : invoked.run = some (runTimes,.invoking queued newState) := rfl
      obtain ⟨inputs,unheard,enters⟩ := enter_simulated table env ⟨newState,_,acted.1⟩ invokes events
      refine ⟨.turn :: (acted.2.1.map .innerSchedule ++ inputs),?_,?_⟩
      · show List.filterMap scheduledEvent (_ ++ _) = []
        rw [List.filterMap_append,inner_unheard,unheard]
        rfl
      · rw [FiniteStateMachineImpl.scheduleInner_taken table env fsm pending.symm found,Mealy.after_cons,taking,
          Mealy.after_append,acting,← state]
        exact enters

-- The invoker of the first of two events from outside schedules a third.
def twoEvents : List (QueueInput Nat) :=
  [.schedule 1,.post,.beginTask,.turn,.schedule 2,.innerSchedule 3,.turn,.turn,.turn,.turn,.turn,.turn,.turn,.turn,.turn,
    .post,.beginTask,.turn]

def countUp (state event : Nat) : Option Nat := some (state * 10 + event)

theorem two_events_processed : ((machine countUp).after (start 0 true) twoEvents).pendingEvents = [] ∧
    (machine countUp).trace (start 0 true) twoEvents = ((machine countUp).after (start 0 true) twoEvents).pushed := by
  have few : ∀ origin, ((machine countUp).after (start 0 true) twoEvents).internals origin ≤ 99 := fun origin =>
    Nat.le_trans List.countP_le_length (by decide)
  exact (events_processed countUp 0 true twoEvents few rfl).2.2.1 ⟨rfl,rfl,rfl⟩

end Runs

end EventQueue
end UserAuth
