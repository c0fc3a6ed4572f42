import Mathlib.Data.List.Basic

namespace UserAuth

-- An action works on the machine's owner under answers of its surroundings. It
-- may push events of its own, and what it does outside is its effects.
abbrev FsmAction (Env Owner Event Effect : Type) := Env → Owner → Owner × List Event × List Effect

structure FsmTable (Env Owner State Event Effect : Type) where
  transitionMap : State → Event → Option (State × FsmAction Env Owner Event Effect)
  enterMap : State → FsmAction Env Owner Event Effect

structure FiniteStateMachineImpl (Owner State Event : Type) where
  currentState : State
  pendingEvents : List Event
  owner : Owner

namespace FiniteStateMachineImpl
variable {Env Owner State Event Effect : Type} [DecidableEq State]

def noAction : FsmAction Env Owner Event Effect := fun _ owner => (owner,[],[])

def schedule (machine : FiniteStateMachineImpl Owner State Event) (event : Event) :
    FiniteStateMachineImpl Owner State Event :=
  {machine with pendingEvents:=machine.pendingEvents ++ [event]}

def enter (table : FsmTable Env Owner State Event Effect) (env : Env) (old : State)
    (machine : FiniteStateMachineImpl Owner State Event) : FiniteStateMachineImpl Owner State Event × List Effect :=
  if old = machine.currentState then (machine,[])
  else
    let entered := table.enterMap machine.currentState env machine.owner
    ({machine with pendingEvents:=machine.pendingEvents ++ entered.2.1,owner:=entered.1},entered.2.2)

-- One turn of ScheduleInner's loop: events without a transition are dropped.
def scheduleInner (table : FsmTable Env Owner State Event Effect) (env : Env)
    (machine : FiniteStateMachineImpl Owner State Event) : FiniteStateMachineImpl Owner State Event × List Effect :=
  match machine.pendingEvents with
  | [] => (machine,[])
  | event :: rest =>
    match table.transitionMap machine.currentState event with
    | none => ({machine with pendingEvents:=rest},[])
    | some (next,action) =>
      let acted := action env machine.owner
      let entered := enter table env machine.currentState ⟨next,rest ++ acted.2.1,acted.1⟩
      (entered.1,acted.2.2 ++ entered.2)

theorem scheduleInner_idle (table : FsmTable Env Owner State Event Effect) (env : Env)
    (machine : FiniteStateMachineImpl Owner State Event) (idle : machine.pendingEvents = []) :
    scheduleInner table env machine = (machine,[]) := by simp only [scheduleInner,idle]

theorem scheduleInner_dropped (table : FsmTable Env Owner State Event Effect) (env : Env)
    (machine : FiniteStateMachineImpl Owner State Event) (pending : machine.pendingEvents = event :: rest)
    (missing : table.transitionMap machine.currentState event = none) :
    scheduleInner table env machine = ({machine with pendingEvents:=rest},[]) := by
  simp only [scheduleInner,pending,missing]

theorem scheduleInner_taken (table : FsmTable Env Owner State Event Effect) (env : Env)
    (machine : FiniteStateMachineImpl Owner State Event) (pending : machine.pendingEvents = event :: rest)
    (found : table.transitionMap machine.currentState event = some (next,action)) :
    scheduleInner table env machine =
      ((enter table env machine.currentState ⟨next,rest ++ (action env machine.owner).2.1,(action env machine.owner).1⟩).1,
        (action env machine.owner).2.2 ++
          (enter table env machine.currentState ⟨next,rest ++ (action env machine.owner).2.1,(action env machine.owner).1⟩).2) := by
  simp only [scheduleInner,pending,found]

end FiniteStateMachineImpl
end UserAuth
