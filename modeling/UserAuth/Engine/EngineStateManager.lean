import Mathlib.Data.List.Count
import Mathlib.Logic.Function.Basic
import UserAuth.Lib.Mealy

namespace UserAuth

def FWK_READY_KEY : String := "bootevent.useriam.fwkready"
def IS_PIN_FUNCTION_READY_KEY : String := "useriam.isPinFunctionReady"
def FALSE_STR : String := "false"

-- Calls are numbered as they come, and a callback goes by the call that
-- registered it. What a call still has to fire outside the lock is its own.
structure EngineStateManager where
  isEngineRunning : Option Bool := none
  startCallbacks : List Nat := []
  stopCallbacks : List Nat := []
  firing : Nat → List Nat := fun _ => []
  calls : Nat := 0

inductive EngineStateInput where
  | onEngineReady
  | onEngineUnavailable
  -- Whether the callback is one, and not null.
  | registerEngineReadyCallback (callback : Bool)
  | registerEngineUnavailableCallback (callback : Bool)
  -- A call goes on with the callbacks it has to fire.
  | fire (call : Nat)
  deriving DecidableEq

inductive EngineStateOutput where
  | setParam (key value : String)
  | fired (registration call : Nat)
  deriving DecidableEq

namespace EngineStateManager

-- A call leaves the lock with callbacks to fire.
def leave (s : EngineStateManager) (callbacks : List Nat) : EngineStateManager :=
  {s with firing:=Function.update s.firing s.calls callbacks}

def onEngineReady (s : EngineStateManager) : EngineStateManager :=
  if s.isEngineRunning = some true then s
  else {s with isEngineRunning:=some true}.leave s.startCallbacks

def onEngineUnavailable (s : EngineStateManager) : EngineStateManager × List EngineStateOutput :=
  if s.isEngineRunning ≠ some true then (s,[])
  else ({s with isEngineRunning:=some false}.leave s.stopCallbacks,
    [.setParam FWK_READY_KEY FALSE_STR,.setParam IS_PIN_FUNCTION_READY_KEY FALSE_STR])

def registerEngineReadyCallback (s : EngineStateManager) (callback : Bool) : EngineStateManager :=
  if !callback then s
  else {s with startCallbacks:=s.startCallbacks ++ [s.calls]}.leave
    (if s.isEngineRunning = some true then [s.calls] else [])

def registerEngineUnavailableCallback (s : EngineStateManager) (callback : Bool) : EngineStateManager :=
  if !callback then s
  else {s with stopCallbacks:=s.stopCallbacks ++ [s.calls]}.leave
    (if s.isEngineRunning = some false then [s.calls] else [])

def fire (s : EngineStateManager) (call : Nat) : EngineStateManager × List EngineStateOutput :=
  match s.firing call with
  | [] => (s,[])
  | registration :: rest => ({s with firing:=Function.update s.firing call rest},[.fired registration call])

def handle (s : EngineStateManager) : EngineStateInput → EngineStateManager × List EngineStateOutput
  | .onEngineReady => (s.onEngineReady,[])
  | .onEngineUnavailable => s.onEngineUnavailable
  | .registerEngineReadyCallback callback => (s.registerEngineReadyCallback callback,[])
  | .registerEngineUnavailableCallback callback => (s.registerEngineUnavailableCallback callback,[])
  | .fire call => s.fire call

def step (s : EngineStateManager) (input : EngineStateInput) : EngineStateManager × List EngineStateOutput :=
  let handled := s.handle input
  ({handled.1 with calls:=s.calls + 1},handled.2)

def machine : Mealy EngineStateManager EngineStateInput EngineStateOutput := ⟨step⟩

-- What the notifications say, the first one not before it came.
def running (inputs : List EngineStateInput) : Bool :=
  inputs.foldl (fun running input => match input with
    | .onEngineReady => true
    | .onEngineUnavailable => false
    | _ => running) false

def state (inputs : List EngineStateInput) : Option Bool :=
  if .onEngineReady ∈ inputs then some (running inputs) else none

-- A call, after those before it, owes the callback that another registered a
-- firing. `heard` is what must have been heard of the engine for a callback to be
-- told at once that it is not running.
def Owes (heard : List EngineStateInput → Prop) (before : List EngineStateInput) (registration : Nat) :
    EngineStateInput → Prop
  | .onEngineReady => running before = false ∧
      before[registration]? = some (.registerEngineReadyCallback true)
  | .onEngineUnavailable => running before = true ∧
      before[registration]? = some (.registerEngineUnavailableCallback true)
  | .registerEngineReadyCallback callback => callback = true ∧ registration = before.length ∧ running before = true
  | .registerEngineUnavailableCallback callback => callback = true ∧ registration = before.length ∧
      running before = false ∧ heard before
  | .fire _ => False

def Due (heard : List EngineStateInput → Prop) (inputs : List EngineStateInput) (registration call : Nat) : Prop :=
  match inputs[call]? with
  | none => False
  | some input => Owes heard (inputs.take call) registration input

instance (heard : List EngineStateInput → Prop) [DecidablePred heard] (before : List EngineStateInput)
    (registration : Nat) : (input : EngineStateInput) → Decidable (Owes heard before registration input)
  | .onEngineReady | .onEngineUnavailable => inferInstanceAs (Decidable (_ ∧ _))
  | .registerEngineReadyCallback _ | .registerEngineUnavailableCallback _ => inferInstanceAs (Decidable (_ ∧ _))
  | .fire _ => inferInstanceAs (Decidable False)

instance (heard : List EngineStateInput → Prop) [DecidablePred heard] (inputs : List EngineStateInput)
    (registration call : Nat) : Decidable (Due heard inputs registration call) :=
  match found : inputs[call]? with
  | none => .isFalse fun due => by simp [Due,found] at due
  | some input => decidable_of_iff (Owes heard (inputs.take call) registration input) (by simp [Due,found])

-- No callback is fired twice by one call, or by one that does not owe it; and each
-- firing owed has come once every call has run to its end.
structure Exact (heard : List EngineStateInput → Prop) (inputs : List EngineStateInput) : Prop where
  once : ∀ registration call, (machine.trace {} inputs).count (.fired registration call) ≤ 1
  owed : ∀ registration call, .fired registration call ∈ machine.trace {} inputs → Due heard inputs registration call
  fired : (∀ call, (machine.after {} inputs).firing call = []) → ∀ registration call,
    Due heard inputs registration call → .fired registration call ∈ machine.trace {} inputs

-- The engine has run before.
def HasRun (before : List EngineStateInput) : Prop := .onEngineReady ∈ before

instance : DecidablePred HasRun := fun before => inferInstanceAs (Decidable (_ ∈ before))

section Firing
variable {inputs : List EngineStateInput} {input : EngineStateInput} {s : EngineStateManager}
  {h : List EngineStateOutput}

@[simp] theorem running_concat (inputs : List EngineStateInput) (input : EngineStateInput) :
    running (inputs ++ [input]) = match input with
      | .onEngineReady => true
      | .onEngineUnavailable => false
      | _ => running inputs := by
  rw [running,List.foldl_append]
  rfl

theorem due_concat (heard : List EngineStateInput → Prop) (inputs : List EngineStateInput) (input : EngineStateInput)
    (registration call : Nat) : Due heard (inputs ++ [input]) registration call ↔
      if call = inputs.length then Owes heard inputs registration input else Due heard inputs registration call := by
  unfold Due
  by_cases last : call = inputs.length
  · subst last
    rw [if_pos rfl,List.getElem?_concat_length,List.take_left]
  · rw [if_neg last]
    by_cases inside : call < inputs.length
    · rw [List.getElem?_append_left inside,List.take_append_of_le_length (Nat.le_of_lt inside)]
    · have beyond : inputs.length < call := by omega
      rw [List.getElem?_eq_none (by rw [List.length_append]; exact beyond),List.getElem?_eq_none (Nat.le_of_lt beyond)]

-- What the calls so far make of the state, and where each firing owed is.
structure Tells (inputs : List EngineStateInput) (s : EngineStateManager) (h : List EngineStateOutput) : Prop where
  calls : s.calls = inputs.length
  engine : s.isEngineRunning = state inputs
  start : ∀ registration, s.startCallbacks.count registration =
    if inputs[registration]? = some (.registerEngineReadyCallback true) then 1 else 0
  stop : ∀ registration, s.stopCallbacks.count registration =
    if inputs[registration]? = some (.registerEngineUnavailableCallback true) then 1 else 0
  firings : ∀ registration call, h.count (.fired registration call) + (s.firing call).count registration =
    (if Due HasRun inputs registration call then 1 else 0)

theorem running_hasRun (running : running inputs = true) : HasRun inputs := by
  induction inputs using List.reverseRecOn with
  | nil => cases running
  | append_singleton before input ih =>
    rw [running_concat] at running
    cases input with
    | onEngineReady => exact List.mem_append_right before (List.mem_singleton_self _)
    | onEngineUnavailable => cases running
    | registerEngineReadyCallback | registerEngineUnavailableCallback | fire =>
      exact List.mem_append_left _ (ih running)

theorem state_true : state inputs = some true ↔ running inputs = true := by
  unfold state
  constructor
  · intro running
    split at running
    · exact Option.some.inj running
    · cases running
  · intro running
    have ran : EngineStateInput.onEngineReady ∈ inputs := running_hasRun running
    rw [if_pos ran,running]

theorem state_false : state inputs = some false ↔ running inputs = false ∧ HasRun inputs := by
  unfold state HasRun
  constructor
  · intro stopped
    split at stopped
    · rename_i ran
      exact ⟨Option.some.inj stopped,ran⟩
    · cases stopped
  · intro stopped
    rw [if_pos stopped.2,stopped.1]

theorem state_concat (inputs : List EngineStateInput) (input : EngineStateInput) :
    state (inputs ++ [input]) = match input with
      | .onEngineReady => some true
      | .onEngineUnavailable => if running inputs then some false else state inputs
      | _ => state inputs := by
  cases input with
  | onEngineReady => rw [state,if_pos (by simp),running_concat]
  | onEngineUnavailable =>
    cases now : running inputs with
    | true =>
      have ran : EngineStateInput.onEngineReady ∈ inputs ++ [.onEngineUnavailable] :=
        List.mem_append_left _ (running_hasRun now)
      rw [state,if_pos ran,running_concat]
      rfl
    | false =>
      rw [state,state,running_concat]
      simp [now]
  | registerEngineReadyCallback | registerEngineUnavailableCallback | fire => simp [state]

theorem registered_concat (input registers : EngineStateInput) {callbacks : List Nat}
    (counts : ∀ registration, callbacks.count registration = if inputs[registration]? = some registers then 1 else 0)
    (registration : Nat) :
    (if input = registers then callbacks ++ [inputs.length] else callbacks).count registration =
      if (inputs ++ [input])[registration]? = some registers then 1 else 0 := by
  have before := counts registration
  by_cases last : registration = inputs.length
  · subst last
    rw [if_neg (by simp)] at before
    rw [List.getElem?_concat_length]
    split
    · rename_i same
      rw [same,if_pos rfl,List.count_append,before,List.count_singleton_self]
    · rename_i other
      rw [before,if_neg fun same => other (Option.some.inj same)]
  · have within : (inputs ++ [input])[registration]? = inputs[registration]? := by
      by_cases inside : registration < inputs.length
      · exact List.getElem?_append_left inside
      · rw [List.getElem?_eq_none (by rw [List.length_append]; show _ + 1 ≤ _; omega),
          List.getElem?_eq_none (Nat.le_of_not_lt inside)]
    rw [within,← before]
    split
    · rw [List.count_append,List.count_singleton,if_neg (by simpa using Ne.symm last),Nat.add_zero]
    · rfl

theorem initial_tells : Tells [] {} [] := by
  refine ⟨rfl,rfl,?_,?_,?_⟩
  · intro registration
    rfl
  · intro registration
    rfl
  · intro registration call
    rw [if_neg (by simp [Due])]
    rfl

-- The number of the next call is not in use.
theorem Tells.idle (tells : Tells inputs s h) : s.firing s.calls = [] := by
  rw [List.eq_nil_iff_forall_not_mem]
  intro registration waits
  have none := tells.firings registration s.calls
  rw [if_neg (by rw [tells.calls]; simp [Due])] at none
  exact absurd (List.count_pos_iff.mpr waits) (by omega)

-- A call that leaves with the callbacks it owes, and no others.
theorem Tells.leaves (tells : Tells inputs s h) (input : EngineStateInput) (callbacks : List Nat)
    (owed : ∀ registration, callbacks.count registration = if Owes HasRun inputs registration input then 1 else 0)
    (registration call : Nat) :
    h.count (.fired registration call) + (Function.update s.firing s.calls callbacks call).count registration =
      if Due HasRun (inputs ++ [input]) registration call then 1 else 0 := by
  have before := tells.firings registration call
  by_cases last : call = inputs.length
  · have idle := tells.idle
    rw [tells.calls] at idle ⊢
    subst last
    rw [if_neg (by simp [Due])] at before
    have due : Due HasRun (inputs ++ [input]) registration inputs.length ↔ Owes HasRun inputs registration input := by
      rw [due_concat,if_pos rfl]
    rw [Function.update_self,owed,if_congr due rfl rfl]
    omega
  · have due : Due HasRun (inputs ++ [input]) registration call ↔ Due HasRun inputs registration call := by
      rw [due_concat,if_neg last]
    rw [Function.update_of_ne (tells.calls ▸ last),before,if_congr due rfl rfl]

-- A call that leaves nothing to fire owes nothing.
theorem Tells.stays (tells : Tells inputs s h) (input : EngineStateInput)
    (quiet : ∀ registration, ¬Owes HasRun inputs registration input) (registration call : Nat) : h.count (.fired registration call) + (s.firing call).count registration =
      if Due HasRun (inputs ++ [input]) registration call then 1 else 0 := by
  have left := tells.leaves input [] (fun registration => by rw [if_neg (quiet registration)]; rfl)
    registration call
  rwa [← tells.idle,Function.update_eq_self] at left

theorem Tells.next (tells : Tells inputs s h) (input : EngineStateInput) : s.calls + 1 = (inputs ++ [input]).length := by
  rw [tells.calls,List.length_append]
  rfl

theorem ready_tells (tells : Tells inputs s h) : Tells (inputs ++ [.onEngineReady]) (s.step .onEngineReady).1 h := by
  have engine := state_concat inputs .onEngineReady
  have start := registered_concat .onEngineReady (.registerEngineReadyCallback true) tells.start
  have stop := registered_concat .onEngineReady (.registerEngineUnavailableCallback true) tells.stop
  by_cases now : s.isEngineRunning = some true
  · have stepped : (s.step .onEngineReady).1 = {s with calls:=s.calls + 1} := by
      simp only [step,handle,onEngineReady,if_pos now]
    have quiet : ∀ registration, ¬Owes HasRun inputs registration .onEngineReady := by
      intro registration owes
      rw [tells.engine,state_true,owes.1] at now
      cases now
    rw [stepped]
    exact ⟨tells.next _,now.trans engine.symm,start,stop,tells.stays _ quiet⟩
  · have stepped : (s.step .onEngineReady).1 =
        {{s with isEngineRunning:=some true}.leave s.startCallbacks with calls:=s.calls + 1} := by
      simp only [step,handle,onEngineReady,if_neg now]
    have idle : running inputs = false := by
      rw [tells.engine,state_true,Bool.not_eq_true] at now
      exact now
    have owed : ∀ registration, s.startCallbacks.count registration =
        if Owes HasRun inputs registration .onEngineReady then 1 else 0 := by
      intro registration
      rw [tells.start,if_congr (and_iff_right idle).symm rfl rfl]
      rfl
    rw [stepped]
    exact ⟨tells.next _,engine.symm,start,stop,tells.leaves _ s.startCallbacks owed⟩

theorem unavailable_tells (tells : Tells inputs s h) : Tells (inputs ++ [.onEngineUnavailable])
    (s.step .onEngineUnavailable).1 (h ++ (s.step .onEngineUnavailable).2) := by
  have engine := state_concat inputs .onEngineUnavailable
  have start := registered_concat .onEngineUnavailable (.registerEngineReadyCallback true) tells.start
  have stop := registered_concat .onEngineUnavailable (.registerEngineUnavailableCallback true) tells.stop
  by_cases now : s.isEngineRunning = some true
  · have stepped : s.step .onEngineUnavailable =
        ({{s with isEngineRunning:=some false}.leave s.stopCallbacks with calls:=s.calls + 1},
          [.setParam FWK_READY_KEY FALSE_STR,.setParam IS_PIN_FUNCTION_READY_KEY FALSE_STR]) := by
      simp only [step,handle,onEngineUnavailable,now,ne_eq,not_true_eq_false,if_false]
    have runs : running inputs = true := by
      rwa [tells.engine,state_true] at now
    have owed : ∀ registration, s.stopCallbacks.count registration =
        if Owes HasRun inputs registration .onEngineUnavailable then 1 else 0 := by
      intro registration
      rw [tells.stop,if_congr (and_iff_right runs).symm rfl rfl]
      rfl
    rw [stepped]
    refine ⟨tells.next _,?_,start,stop,?_⟩
    · rw [engine]
      exact (if_pos runs).symm
    · intro registration call
      rw [List.count_append]
      exact tells.leaves _ s.stopCallbacks owed registration call
  · have stepped : s.step .onEngineUnavailable = ({s with calls:=s.calls + 1},[]) := by
      simp only [step,handle,onEngineUnavailable,ne_eq,now,not_false_eq_true,if_true]
    have idle : running inputs = false := by
      rw [tells.engine,state_true,Bool.not_eq_true] at now
      exact now
    have quiet : ∀ registration, ¬Owes HasRun inputs registration .onEngineUnavailable := by
      intro registration owes
      cases idle.symm.trans owes.1
    rw [stepped,List.append_nil]
    refine ⟨tells.next _,?_,start,stop,tells.stays _ quiet⟩
    rw [engine]
    exact tells.engine.trans (if_neg (by simp [idle])).symm

-- A registration owes its own callback a firing, or nothing.
theorem Tells.own (tells : Tells inputs s h) (input : EngineStateInput) (told : Prop) [Decidable told]
    (owes : ∀ registration, Owes HasRun inputs registration input ↔ registration = inputs.length ∧ told)
    (registration : Nat) : (if told then [s.calls] else []).count registration =
      if Owes HasRun inputs registration input then 1 else 0 := by
  rw [if_congr (owes registration) rfl rfl,tells.calls]
  by_cases now : told
  · rw [if_pos now,List.count_singleton,if_congr ((and_iff_left now).trans eq_comm) rfl rfl]
    simp only [beq_iff_eq]
  · rw [if_neg now,if_neg fun both => now both.2]
    rfl

theorem registerReady_tells (tells : Tells inputs s h) (callback : Bool) :
    Tells (inputs ++ [.registerEngineReadyCallback callback]) (s.step (.registerEngineReadyCallback callback)).1 h := by
  have engine := state_concat inputs (.registerEngineReadyCallback callback)
  have start := registered_concat (.registerEngineReadyCallback callback) (.registerEngineReadyCallback true)
    tells.start
  have stop := registered_concat (.registerEngineReadyCallback callback)
    (.registerEngineUnavailableCallback true) tells.stop
  cases callback with
  | false =>
    have quiet : ∀ registration, ¬Owes HasRun inputs registration (.registerEngineReadyCallback false) := by
      intro registration owes
      cases owes.1
    exact ⟨tells.next _,tells.engine.trans engine.symm,start,stop,tells.stays _ quiet⟩
  | true =>
    have owed := tells.own (.registerEngineReadyCallback true) (s.isEngineRunning = some true) (by
      intro registration
      rw [tells.engine,state_true]
      exact and_iff_right rfl)
    rw [if_pos rfl,← tells.calls] at start
    exact ⟨tells.next _,tells.engine.trans engine.symm,start,stop,tells.leaves _ _ owed⟩

theorem registerUnavailable_tells (tells : Tells inputs s h) (callback : Bool) :
    Tells (inputs ++ [.registerEngineUnavailableCallback callback])
      (s.step (.registerEngineUnavailableCallback callback)).1 h := by
  have engine := state_concat inputs (.registerEngineUnavailableCallback callback)
  have start := registered_concat (.registerEngineUnavailableCallback callback)
    (.registerEngineReadyCallback true) tells.start
  have stop := registered_concat (.registerEngineUnavailableCallback callback)
    (.registerEngineUnavailableCallback true) tells.stop
  cases callback with
  | false =>
    have quiet : ∀ registration, ¬Owes HasRun inputs registration (.registerEngineUnavailableCallback false) := by
      intro registration owes
      cases owes.1
    exact ⟨tells.next _,tells.engine.trans engine.symm,start,stop,tells.stays _ quiet⟩
  | true =>
    have owed := tells.own (.registerEngineUnavailableCallback true) (s.isEngineRunning = some false) (by
      intro registration
      rw [tells.engine,state_false]
      exact and_iff_right rfl)
    rw [if_pos rfl,← tells.calls] at stop
    exact ⟨tells.next _,tells.engine.trans engine.symm,start,stop,tells.leaves _ _ owed⟩

-- Firing moves a callback from the call that has it to the history.
theorem fire_tells (tells : Tells inputs s h) (call : Nat) :
    Tells (inputs ++ [.fire call]) (s.step (.fire call)).1 (h ++ (s.step (.fire call)).2) := by
  have engine := state_concat inputs (.fire call)
  have start := registered_concat (.fire call) (.registerEngineReadyCallback true) tells.start
  have stop := registered_concat (.fire call) (.registerEngineUnavailableCallback true) tells.stop
  have stays := tells.stays (.fire call) fun _ owes => owes
  cases waits : s.firing call with
  | nil =>
    have stepped : s.step (.fire call) = ({s with calls:=s.calls + 1},[]) := by
      simp only [step,handle,fire,waits]
    rw [stepped,List.append_nil]
    exact ⟨tells.next _,tells.engine.trans engine.symm,start,stop,stays⟩
  | cons first rest =>
    have stepped : s.step (.fire call) =
        ({s with firing:=Function.update s.firing call rest,calls:=s.calls + 1},[.fired first call]) := by
      simp only [step,handle,fire,waits]
    rw [stepped]
    refine ⟨tells.next _,tells.engine.trans engine.symm,start,stop,?_⟩
    intro registration other
    rw [← stays registration other,List.count_append]
    dsimp only
    by_cases here : other = call
    · subst here
      rw [Function.update_self,waits]
      by_cases same : first = registration
      · subst same
        rw [List.count_singleton_self,List.count_cons_self]
        omega
      · rw [List.count_cons_of_ne same]
        simp [same]
    · rw [Function.update_of_ne here]
      simp [Ne.symm here]

theorem step_tells (inputs : List EngineStateInput) (s : EngineStateManager) (h : List EngineStateOutput)
    (input : EngineStateInput) (tells : Tells inputs s h) :
    Tells (inputs ++ [input]) (s.step input).1 (h ++ (s.step input).2) := by
  cases input with
  | onEngineReady =>
    rw [show (s.step .onEngineReady).2 = [] from rfl,List.append_nil]
    exact ready_tells tells
  | onEngineUnavailable => exact unavailable_tells tells
  | registerEngineReadyCallback callback =>
    rw [show (s.step (.registerEngineReadyCallback callback)).2 = [] from rfl,List.append_nil]
    exact registerReady_tells tells callback
  | registerEngineUnavailableCallback callback =>
    rw [show (s.step (.registerEngineUnavailableCallback callback)).2 = [] from rfl,List.append_nil]
    exact registerUnavailable_tells tells callback
  | fire call => exact fire_tells tells call

theorem run_tells (inputs : List EngineStateInput) : Tells inputs (machine.after {} inputs) (machine.trace {} inputs) :=
  Mealy.input_history step_tells initial_tells inputs

end Firing

-- Each callback is fired once by each call that owes it a firing. One that waits
-- for the engine to stop is told of an engine not running only if it has run before.
theorem callbacks_fired_exactly (inputs : List EngineStateInput) : Exact HasRun inputs := by
  have tells := run_tells inputs
  refine ⟨?_,?_,?_⟩
  · intro registration call
    have count := tells.firings registration call
    split at count <;> omega
  · intro registration call fired
    have count := tells.firings registration call
    have once := List.count_pos_iff.mpr fired
    split at count
    · rename_i due
      exact due
    · omega
  · intro drained registration call due
    have count := tells.firings registration call
    rw [drained,if_pos due,List.count_nil] at count
    exact List.count_pos_iff.mp (by omega)

theorem unknown_engine_untold : ¬∀ inputs, Exact (fun _ => True) inputs := by
  intro all
  have quiet : ∀ call, (machine.after {} [.registerEngineUnavailableCallback true]).firing call = [] := by
    intro call
    exact congrFun (Function.update_eq_self 0 fun _ => []) call
  have fired := (all [.registerEngineUnavailableCallback true]).fired quiet 0 0 ⟨rfl,rfl,rfl,trivial⟩
  exact absurd fired (by decide)

end EngineStateManager
end UserAuth
