import Mathlib.Data.List.Nodup
import UserAuth.Schedule.ScheduleRun

namespace UserAuth
namespace ScheduleRun
open ScheduleNode
variable {s : ScheduleRun} {events : List RunEvent} {stepped : ScheduleRun × List RunEvent}

-- What the executors and the result callback are told.
inductive Call where
  | beginVerifier | beginCollector | endCollector | endVerifier | onScheduleStoped
  deriving DecidableEq,Repr

def RunEvent.call : RunEvent → Option Call
  | .effect (.beginVerifier _) => some .beginVerifier
  | .effect (.beginCollector _) => some .beginCollector
  | .effect (.endCollector _) => some .endCollector
  | .effect (.endVerifier _) => some .endVerifier
  | .effect (.onScheduleStoped _ _) => some .onScheduleStoped
  | _ => none

def calls (events : List RunEvent) : List Call := events.filterMap RunEvent.call

-- The state that a call is made on entering.
def Call.due : Call → State
  | .beginVerifier => .S_VERIFY_STARING
  | .beginCollector => .S_COLLECT_STARING
  | .endCollector => .S_COLLECT_STOPPING
  | .endVerifier => .S_VERIFY_STOPPING
  | .onScheduleStoped => .S_END

@[simp] theorem calls_append (events more : List RunEvent) : calls (events ++ more) = calls events ++ calls more :=
  List.filterMap_append

@[simp] theorem calls_posted (posted : List Event) : calls (posted.map .posted) = [] := by
  induction posted with
  | nil => rfl
  | cons event rest ih => exact ih

@[simp] theorem calls_handled (found : State) (event : Event) (next : Option State) (events : List RunEvent) :
    calls (.handled found event next :: events) = calls events := rfl

-- Entering a state makes one call at most, and one of its own.
theorem Entry.calls (entry : Entry s next posted effects) :
    calls (effects.map .effect) = [] ∨
      ∃ call : Call, call.due = next ∧ calls (effects.map .effect) = [call] := by
  cases entry with
  | verifierRefused result | verifierBegun => exact .inr ⟨.beginVerifier,rfl,rfl⟩
  | collectorRefused result | collectorBegun => exact .inr ⟨.beginCollector,rfl,rfl⟩
  | collectorEnded result => exact .inr ⟨.endCollector,rfl,rfl⟩
  | verifierEnded result => exact .inr ⟨.endVerifier,rfl,rfl⟩
  | told result scheduleResult => exact .inr ⟨.onScheduleStoped,rfl,rfl⟩
  | processing effects told =>
    rcases told with rfl | rfl
    · exact .inl rfl
    · exact .inl rfl
  | _ => exact .inl rfl

theorem Entry.stoped (entry : Entry s .S_END posted effects) (callback : s.node.owner.callback = true) :
    ScheduleRun.calls (effects.map .effect) = [.onScheduleStoped] := by
  cases entry with
  | told result scheduleResult => rfl
  | untold cleared => simp [cleared] at callback

-- Calls follow the order of the states they are made on entering, and the
-- callback is held until the last of them is entered.
structure Orderly (s : ScheduleRun) (events : List RunEvent) : Prop where
  ordered : (calls events).Pairwise fun one other => rank one.due < rank other.due
  reached : ∀ call ∈ calls events, rank call.due ≤ rank s.node.currentState
  callback : s.node.owner.callback = (s.node.currentState != .S_END)
  stoped : s.node.currentState = .S_END → .onScheduleStoped ∈ calls events

theorem initial_orderly (expires verifierAlive : Bool) (collector : Option Bool) :
    (initial expires verifierAlive collector).Orderly [] :=
  ⟨.nil,by simp [calls],rfl,nofun⟩

theorem Orderly.asked (orderly : s.Orderly events) (asked : s.Asked posted stepped) :
    stepped.1.Orderly (events ++ stepped.2) := by
  have same : calls (events ++ stepped.2) = calls events := by
    rw [asked.events,calls_append,calls_posted,List.append_nil]
  constructor
  · rw [same]
    exact orderly.ordered
  · rw [same,asked.currentState]
    exact orderly.reached
  · rw [asked.callback,asked.currentState]
    exact orderly.callback
  · rw [same,asked.currentState]
    exact orderly.stoped

theorem Orderly.moved (orderly : s.Orderly events)
    (moves : Moves s.node.currentState event next) (entry : Entry s next posted effects)
    (callback : owner.callback = (s.node.owner.callback && next != .S_END)) (armed : Bool) :
    Orderly {s with node:=⟨next,queued,owner⟩,armed}
      (events ++ .handled s.node.currentState event (some next) :: (posted.map .posted ++ effects.map .effect)) := by
  have advances := moves.advances
  have held : s.node.owner.callback = true := by simpa [orderly.callback] using moves.going
  have same :
      calls (events ++ .handled s.node.currentState event (some next) ::
        (posted.map .posted ++ effects.map .effect)) = calls events ++ calls (effects.map .effect) := by
    rw [calls_append,calls_handled,calls_append,calls_posted,List.nil_append]
  have earlier : ∀ call ∈ calls events, rank call.due < rank next := fun call made =>
    Nat.lt_of_le_of_lt (orderly.reached call made) advances
  have later : ∀ call ∈ calls (effects.map .effect), call.due = next := by
    intro call made
    rcases entry.calls with none | ⟨only,due,one⟩
    · simp [none] at made
    · simp only [one,List.mem_singleton] at made
      rw [made,due]
  constructor
  · rw [same,List.pairwise_append]
    refine ⟨orderly.ordered,?_,?_⟩
    · rcases entry.calls with none | ⟨only,due,one⟩
      · rw [none]
        exact .nil
      · rw [one]
        exact List.pairwise_singleton _ _
    · intro call made other made'
      rw [later other made']
      exact earlier call made
  · rw [same]
    intro call made
    rcases List.mem_append.mp made with before | now
    · exact Nat.le_of_lt (earlier call before)
    · exact Nat.le_of_eq (congrArg rank (later call now))
  · change owner.callback = (next != .S_END)
    rw [callback,held,Bool.true_and]
  · intro ended
    change next = .S_END at ended
    subst ended
    rw [same,entry.stoped held]
    exact List.mem_append_right _ List.mem_cons_self

theorem Orderly.turned (orderly : s.Orderly events) (turned : s.Turned stepped) :
    stepped.1.Orderly (events ++ stepped.2) := by
  cases turned with
  | idle armed kept empty =>
    rw [List.append_nil]
    exact ⟨orderly.ordered,orderly.reached,orderly.callback,orderly.stoped⟩
  | dropped armed kept event rest pending undeclared =>
    have same : calls (events ++ [.handled s.node.currentState event none]) = calls events := by
      rw [calls_append,calls_handled]
      exact List.append_nil _
    constructor
    · rw [same]
      exact orderly.ordered
    · rw [same]
      exact orderly.reached
    · exact orderly.callback
    · rw [same]
      exact orderly.stoped
  | moved armed kept event rest posted next effects owner pending moves entry callback =>
    exact orderly.moved moves entry callback armed

theorem step_orderly (s : ScheduleRun) (events : List RunEvent) (i : Input) (orderly : s.Orderly events) :
    (s.step i).1.Orderly (events ++ (s.step i).2) := by
  cases s.step_stepped i with
  | asked posted asked => exact orderly.asked asked
  | turned answers turn turned => exact orderly.turned turned

theorem run_orderly (expires verifierAlive : Bool) (collector : Option Bool) (inputs : List Input) :
    (machine.after (initial expires verifierAlive collector) inputs).Orderly
      (machine.trace (initial expires verifierAlive collector) inputs) :=
  Mealy.history step_orderly (initial_orderly expires verifierAlive collector) inputs

-- Distinct calls are due in distinct states.
theorem Orderly.once (orderly : s.Orderly events) : (calls events).Nodup :=
  orderly.ordered.imp fun earlier same => absurd (same ▸ earlier) (Nat.lt_irrefl _)

theorem Orderly.stoped_count (orderly : s.Orderly events) :
    (calls events).count .onScheduleStoped = if s.node.currentState = .S_END then 1 else 0 := by
  split
  · next ended => exact List.count_eq_one_of_mem orderly.once (orderly.stoped ended)
  · next running =>
    apply List.count_eq_zero_of_not_mem
    intro made
    exact running (ended_of_rank (orderly.reached _ made))

theorem step_advances (s : ScheduleRun) (i : Input) :
    rank s.node.currentState ≤ rank (s.step i).1.node.currentState := by
  cases s.step_stepped i with
  | asked posted asked => exact Nat.le_of_eq (congrArg rank asked.currentState.symm)
  | turned answers turn turned =>
    generalize s.step i = stepped at turned
    cases turned with
    | idle | dropped => exact Nat.le_refl _
    | moved armed kept event rest posted next effects owner pending moves => exact Nat.le_of_lt moves.advances

theorem run_advances (s : ScheduleRun) (inputs : List Input) :
    rank s.node.currentState ≤ rank (machine.after s inputs).node.currentState := by
  induction inputs generalizing s with
  | nil => exact Nat.le_refl _
  | cons i rest ih => exact Nat.le_trans (s.step_advances i) (ih _)

theorem step_ended (s : ScheduleRun) (i : Input) (ended : s.node.currentState = .S_END) :
    (s.step i).1.node.currentState = .S_END ∧ calls (s.step i).2 = [] := by
  cases s.step_stepped i with
  | asked posted asked => exact ⟨asked.currentState.trans ended,by rw [asked.events,calls_posted]⟩
  | turned answers turn turned =>
    generalize s.step i = stepped at turned
    cases turned with
    | idle => exact ⟨ended,rfl⟩
    | dropped => exact ⟨ended,rfl⟩
    | moved armed kept event rest posted next effects owner pending moves => exact absurd ended moves.going

theorem run_ended (s : ScheduleRun) (inputs : List Input) (ended : s.node.currentState = .S_END) :
    calls (machine.trace s inputs) = [] := by
  induction inputs generalizing s with
  | nil => rfl
  | cons i rest ih =>
    obtain ⟨stays,quiet⟩ := s.step_ended i ended
    rw [Mealy.trace_cons,calls_append]
    exact List.append_eq_nil_iff.mpr ⟨quiet,ih _ stays⟩

theorem schedule_run_safe (expires verifierAlive : Bool) (collector : Option Bool) (earlier later : List Input) :
    let start := initial expires verifierAlive collector
    let reached := machine.after start earlier
    rank reached.node.currentState ≤ rank (machine.after start (earlier ++ later)).node.currentState ∧
      (∀ call, (calls (machine.trace start earlier)).count call ≤ 1) ∧
      (calls (machine.trace start earlier)).count .onScheduleStoped =
        (if reached.node.currentState = .S_END then 1 else 0) ∧
      (reached.node.currentState = .S_END → calls (machine.trace reached later) = []) := by
  intro start reached
  have orderly := run_orderly expires verifierAlive collector earlier
  have once := List.nodup_iff_count_le_one.mp orderly.once
  refine ⟨?_,once,orderly.stoped_count,run_ended reached later⟩
  rw [Mealy.after_append]
  exact run_advances reached later

end ScheduleRun
end UserAuth
