import Std.Data.ExtTreeSet.Lemmas
import UserAuth.Common.Defines
import UserAuth.Lib.Mealy

namespace UserAuth
open Std

-- Listeners are objects. One manager is for one kind of event.
structure EventListenerCallbackManager where
  eventListenerMap : ExtTreeMap AuthType (ExtTreeSet Nat) := ∅
  deriving DecidableEq

namespace EventListenerCallbackManager

def getEventListenerSet (manager : EventListenerCallbackManager) (authType : AuthType) : ExtTreeSet Nat :=
  manager.eventListenerMap[authType]?.getD ∅

def isExistEventListener (manager : EventListenerCallbackManager) : Bool := manager.eventListenerMap.size != 0

def addListener (manager : EventListenerCallbackManager) (authType : AuthType) (listener : Nat) :
    EventListenerCallbackManager :=
  ⟨manager.eventListenerMap.insert authType ((manager.getEventListenerSet authType).insert listener)⟩

def addListeners (manager : EventListenerCallbackManager) (authTypes : List AuthType) (listener : Nat) :
    EventListenerCallbackManager :=
  authTypes.foldl (fun manager authType => manager.addListener authType listener) manager

-- Types without a listener leave the map.
def removeListener (manager : EventListenerCallbackManager) (listener : Nat) : EventListenerCallbackManager :=
  ⟨manager.eventListenerMap.filterMap fun _ listeners =>
    if (listeners.erase listener).size = 0 then none else some (listeners.erase listener)⟩

end EventListenerCallbackManager

-- What a call meets: the service's proxy, the dispatcher's stub, and the service's answer.
structure ServiceAnswer where
  proxy : Bool := true
  listenerImpl : Bool := true
  result : ResultCode := ResultCode.SUCCESS

def ServiceAnswer.Succeeds (answer : ServiceAnswer) : Prop :=
  answer.proxy = true ∧ answer.listenerImpl = true ∧ answer.result = ResultCode.SUCCESS

-- The manager, and whether the service has the client's dispatcher.
structure EventListenerClient where
  manager : EventListenerCallbackManager := {}
  registered : Bool := false
  deriving DecidableEq

inductive EventListenerInput where
  | registerListener (authType : AuthType) (others : List AuthType) (listener : Option Nat) (answer : ServiceAnswer)
  | unRegisterListener (listener : Option Nat) (answer : ServiceAnswer)
  -- The service goes and comes back, and takes a dispatcher that registers.
  | restart

namespace EventListenerClient
open EventListenerCallbackManager

-- A call of the service that fails leaves it as it was.
def dispatch (s : EventListenerClient) (answer : ServiceAnswer) (registered : Bool) : EventListenerClient × ResultCode :=
  if !answer.proxy then (s,ResultCode.GENERAL_ERROR)
  else if !answer.listenerImpl then (s,ResultCode.GENERAL_ERROR)
  else if answer.result ≠ ResultCode.SUCCESS then (s,answer.result)
  else ({s with registered},ResultCode.SUCCESS)

def registerListenerDispatcher (s : EventListenerClient) (answer : ServiceAnswer) : EventListenerClient × ResultCode :=
  s.dispatch answer true

def unRegisterListenerDispatcher (s : EventListenerClient) (answer : ServiceAnswer) : EventListenerClient × ResultCode :=
  s.dispatch answer false

def registerListener (s : EventListenerClient) (authTypes : List AuthType) (listener : Option Nat)
    (answer : ServiceAnswer) : EventListenerClient × ResultCode :=
  match listener with
  | none => (s,ResultCode.INVALID_PARAMETERS)
  | some listener =>
    let dispatched := if s.manager.isExistEventListener then (s,ResultCode.SUCCESS)
      else s.registerListenerDispatcher answer
    if dispatched.2 ≠ ResultCode.SUCCESS then dispatched
    else ({dispatched.1 with manager:=dispatched.1.manager.addListeners authTypes listener},ResultCode.SUCCESS)

def unRegisterListener (s : EventListenerClient) (listener : Option Nat) (answer : ServiceAnswer) :
    EventListenerClient × ResultCode :=
  match listener with
  | none => (s,ResultCode.INVALID_PARAMETERS)
  | some listener =>
    let removed := {s with manager:=s.manager.removeListener listener}
    if !removed.manager.isExistEventListener then removed.unRegisterListenerDispatcher answer
    else (removed,ResultCode.SUCCESS)

def onAddSystemAbility (s : EventListenerClient) (answer : ServiceAnswer) : EventListenerClient :=
  if !s.manager.isExistEventListener then s else (s.registerListenerDispatcher answer).1

def step (s : EventListenerClient) : EventListenerInput → EventListenerClient × List ResultCode
  | .registerListener authType others listener answer =>
    let called := s.registerListener (authType :: others) listener answer
    (called.1,[called.2])
  | .unRegisterListener listener answer =>
    let called := s.unRegisterListener listener answer
    (called.1,[called.2])
  | .restart => ({s with registered:=false}.onAddSystemAbility {},[])

def machine : Mealy EventListenerClient EventListenerInput ResultCode := ⟨step⟩

def HasListener (s : EventListenerClient) : Prop :=
  ∃ authType listener, listener ∈ s.manager.getEventListenerSet authType

-- The dispatcher is registered just when a listener exists, and a call that fails
-- has changed nothing.
def InStep (s : EventListenerClient) (input : EventListenerInput) : Prop :=
  ((s.step input).1.registered = true ↔ (s.step input).1.HasListener) ∧
    ∀ code ∈ (s.step input).2, code ≠ ResultCode.SUCCESS → (s.step input).1 = s

-- The unregistration that takes the last listener away is not refused.
def Lasting (s : EventListenerClient) : EventListenerInput → Prop
  | .unRegisterListener (some listener) answer => s.manager.isExistEventListener = true →
      (s.manager.removeListener listener).isExistEventListener = false → answer.Succeeds
  | _ => True

end EventListenerClient

namespace EventListenerCallbackManager
variable {manager : EventListenerCallbackManager}

-- A type is in the map only with a listener.
def Populated (manager : EventListenerCallbackManager) : Prop :=
  ∀ authType : AuthType, manager.eventListenerMap[authType]? ≠ some ∅

theorem isExistEventListener_iff (manager : EventListenerCallbackManager) :
    manager.isExistEventListener = true ↔ ∃ authType : AuthType, authType ∈ manager.eventListenerMap := by
  rw [isExistEventListener,bne_iff_ne,ne_eq,← ExtTreeMap.eq_empty_iff_size_eq_zero,
    ExtTreeMap.eq_empty_iff_forall_not_mem,not_forall]
  exact exists_congr fun authType => not_not

theorem exists_listener (populated : manager.Populated) : manager.isExistEventListener = true ↔
    ∃ authType listener, listener ∈ manager.getEventListenerSet authType := by
  rw [isExistEventListener_iff]
  refine exists_congr fun authType => ?_
  unfold getEventListenerSet
  rw [← ExtTreeMap.isSome_getElem?_iff_mem]
  cases found : manager.eventListenerMap[authType]? with
  | none => exact iff_of_false nofun fun ⟨_,member⟩ => ExtTreeSet.not_mem_empty member
  | some listeners =>
    refine iff_of_true rfl ?_
    have some : listeners ≠ ∅ := fun bare => populated authType (bare ▸ found)
    rw [ne_eq,ExtTreeSet.eq_empty_iff_forall_not_mem,not_forall] at some
    obtain ⟨listener,member⟩ := some
    exact ⟨listener,not_not.mp member⟩

theorem addListener_populated (populated : manager.Populated) (authType : AuthType) (listener : Nat) :
    (manager.addListener authType listener).Populated := by
  intro other
  unfold addListener
  rw [ExtTreeMap.getElem?_insert]
  split
  · intro bare
    have member : listener ∈ (manager.getEventListenerSet authType).insert listener := ExtTreeSet.mem_insert_self
    rw [Option.some.inj bare] at member
    exact ExtTreeSet.not_mem_empty member
  · exact populated other

theorem addListeners_populated (populated : manager.Populated) (authTypes : List AuthType) (listener : Nat) :
    (manager.addListeners authTypes listener).Populated := by
  induction authTypes generalizing manager with
  | nil => exact populated
  | cons authType rest ih => exact ih (addListener_populated populated authType listener)

theorem addListener_kept (kept : authType ∈ manager.eventListenerMap) (other : AuthType) (listener : Nat) :
    authType ∈ (manager.addListener other listener).eventListenerMap :=
  ExtTreeMap.mem_insert.mpr (.inr kept)

theorem addListeners_kept (kept : authType ∈ manager.eventListenerMap) (authTypes : List AuthType) (listener : Nat) :
    authType ∈ (manager.addListeners authTypes listener).eventListenerMap := by
  induction authTypes generalizing manager with
  | nil => exact kept
  | cons other rest ih => exact ih (addListener_kept kept other listener)

theorem addListeners_exist (manager : EventListenerCallbackManager) (authType : AuthType) (others : List AuthType)
    (listener : Nat) : (manager.addListeners (authType :: others) listener).isExistEventListener = true := by
  rw [isExistEventListener_iff]
  have added : authType ∈ (manager.addListener authType listener).eventListenerMap := ExtTreeMap.mem_insert_self
  exact ⟨authType,addListeners_kept added others listener⟩

theorem removeListener_populated (manager : EventListenerCallbackManager) (listener : Nat) :
    (manager.removeListener listener).Populated := by
  intro authType
  unfold removeListener
  rw [ExtTreeMap.getElem?_filterMap']
  cases manager.eventListenerMap[authType]? with
  | none => nofun
  | some listeners =>
    rw [Option.bind_some]
    split
    · nofun
    · rename_i left
      intro bare
      exact left (ExtTreeSet.eq_empty_iff_size_eq_zero.mp (Option.some.inj bare))

-- With no listener there is nothing to remove.
theorem removeListener_none (none : manager.isExistEventListener = false) (listener : Nat) :
    manager.removeListener listener = manager := by
  have bare : manager.eventListenerMap = ∅ := by
    rw [ExtTreeMap.eq_empty_iff_size_eq_zero]
    simpa [isExistEventListener] using none
  obtain ⟨map⟩ := manager
  cases bare
  rfl

end EventListenerCallbackManager

namespace EventListenerClient
open EventListenerCallbackManager

section Steps
variable {s : EventListenerClient} {answer : ServiceAnswer}

structure Kept (s : EventListenerClient) : Prop where
  populated : s.manager.Populated
  registered : s.registered = s.manager.isExistEventListener

theorem dispatch_cases (s : EventListenerClient) (answer : ServiceAnswer) (registered : Bool) :
    (answer.Succeeds ∧ s.dispatch answer registered = ({s with registered},ResultCode.SUCCESS)) ∨
      ∃ code ≠ ResultCode.SUCCESS, ¬answer.Succeeds ∧ s.dispatch answer registered = (s,code) := by
  unfold dispatch
  split
  · rename_i proxy
    exact .inr ⟨_,by decide,fun succeeds => by simp [succeeds.1] at proxy,rfl⟩
  · rename_i proxy
    split
    · rename_i listenerImpl
      exact .inr ⟨_,by decide,fun succeeds => by simp [succeeds.2.1] at listenerImpl,rfl⟩
    · rename_i listenerImpl
      split
      · rename_i failed
        exact .inr ⟨_,failed,fun succeeds => failed succeeds.2.2,rfl⟩
      · rename_i result
        exact .inl ⟨⟨by simpa using proxy,by simpa using listenerImpl,not_not.mp result⟩,rfl⟩

-- Where nothing has changed, the two sides agree as before.
theorem unchanged (kept : Kept s) : s.registered = true ↔ s.HasListener := by
  rw [kept.registered]
  exact exists_listener kept.populated

-- A registration takes place on both sides, or on neither.
theorem registerListener_cases (kept : Kept s) (authTypes : List AuthType) (listener : Nat) (answer : ServiceAnswer) :
    s.registerListener authTypes (some listener) answer =
        (⟨s.manager.addListeners authTypes listener,true⟩,ResultCode.SUCCESS) ∨
      ∃ code ≠ ResultCode.SUCCESS, s.registerListener authTypes (some listener) answer = (s,code) := by
  unfold registerListener registerListenerDispatcher
  dsimp only
  by_cases now : s.manager.isExistEventListener = true
  · left
    rw [if_pos now,if_neg (not_not.mpr rfl),kept.registered.trans now]
  · rw [if_neg now]
    obtain ⟨-,called⟩ | ⟨code,failed,-,called⟩ := dispatch_cases s answer true
    · left
      rw [called,if_neg (not_not.mpr rfl)]
    · right
      rw [called,if_pos failed]
      exact ⟨code,failed,rfl⟩

theorem register_inStep (kept : Kept s) (authType : AuthType) (others : List AuthType) (listener : Option Nat)
    (answer : ServiceAnswer) : InStep s (.registerListener authType others listener answer) := by
  cases listener with
  | none => exact ⟨unchanged kept,fun _ _ _ => rfl⟩
  | some listener =>
    unfold InStep step
    dsimp only
    obtain called | ⟨code,_,called⟩ := registerListener_cases kept (authType :: others) listener answer
    · have populated := addListeners_populated kept.populated (authType :: others) listener
      have heard := (exists_listener populated).mp (addListeners_exist s.manager authType others listener)
      rw [called]
      exact ⟨iff_of_true rfl heard,fun code returned failed => absurd (List.mem_singleton.mp returned) failed⟩
    · rw [called]
      exact ⟨unchanged kept,fun _ _ _ => rfl⟩

theorem unRegister_inStep (kept : Kept s) (listener : Nat) (answer : ServiceAnswer) :
    InStep s (.unRegisterListener (some listener) answer) ↔ Lasting s (.unRegisterListener (some listener) answer) := by
  have populated := removeListener_populated s.manager listener
  unfold InStep step unRegisterListener Lasting
  dsimp only
  cases left : (s.manager.removeListener listener).isExistEventListener with
  | true =>
    have before : s.manager.isExistEventListener = true := by
      by_contra none
      rw [Bool.not_eq_true] at none
      rw [removeListener_none none,none] at left
      cases left
    refine iff_of_true ⟨?_,fun code returned failed => absurd (List.mem_singleton.mp returned) failed⟩ nofun
    exact iff_of_true (kept.registered.trans before) ((exists_listener populated).mp left)
  | false =>
    have gone : ¬∃ authType other, other ∈ (s.manager.removeListener listener).getEventListenerSet authType := by
      intro found
      rw [(exists_listener populated).mpr found] at left
      cases left
    simp only [Bool.not_false,if_true]
    obtain ⟨succeeds,called⟩ | ⟨code,failed,refused,called⟩ :=
      dispatch_cases {s with manager:=s.manager.removeListener listener} answer false
    · rw [unRegisterListenerDispatcher,called]
      refine iff_of_true ⟨iff_of_false nofun gone,?_⟩ fun _ _ => succeeds
      exact fun code returned failed => absurd (List.mem_singleton.mp returned) failed
    · rw [unRegisterListenerDispatcher,called]
      cases before : s.manager.isExistEventListener with
      | true =>
        refine iff_of_false (fun inStep => ?_) fun lasting => refused (lasting rfl trivial)
        exact gone (inStep.1.mp (kept.registered.trans before))
      | false =>
        rw [removeListener_none before]
        exact iff_of_true ⟨unchanged kept,fun _ _ _ => rfl⟩ nofun

theorem restart_inStep (kept : Kept s) : InStep s .restart := by
  refine ⟨?_,nofun⟩
  unfold step onAddSystemAbility
  cases now : s.manager.isExistEventListener with
  | true => exact iff_of_true rfl ((exists_listener kept.populated).mp now)
  | false =>
    refine iff_of_false nofun fun found => ?_
    rw [(exists_listener kept.populated).mpr found] at now
    cases now

theorem inStep_iff (kept : Kept s) (input : EventListenerInput) : InStep s input ↔ Lasting s input := by
  cases input with
  | registerListener authType others listener answer =>
    exact iff_of_true (register_inStep kept authType others listener answer) trivial
  | unRegisterListener listener answer =>
    cases listener with
    | none => exact iff_of_true ⟨unchanged kept,fun _ _ _ => rfl⟩ trivial
    | some listener => exact unRegister_inStep kept listener answer
  | restart => exact iff_of_true (restart_inStep kept) trivial

theorem dispatch_manager (s : EventListenerClient) (answer : ServiceAnswer) (registered : Bool) :
    (s.dispatch answer registered).1.manager = s.manager := by
  obtain ⟨-,called⟩ | ⟨_,-,-,called⟩ := dispatch_cases s answer registered
  · rw [called]
  · rw [called]

theorem step_populated (kept : Kept s) (input : EventListenerInput) : (s.step input).1.manager.Populated := by
  have populated := kept.populated
  cases input with
  | registerListener authType others listener answer =>
    cases listener with
    | none => exact populated
    | some listener =>
      unfold step
      dsimp only
      obtain called | ⟨_,_,called⟩ := registerListener_cases kept (authType :: others) listener answer
      · rw [called]
        exact addListeners_populated populated (authType :: others) listener
      · rw [called]
        exact populated
  | unRegisterListener listener answer =>
    cases listener with
    | none => exact populated
    | some listener =>
      have removed := removeListener_populated s.manager listener
      unfold step unRegisterListener
      dsimp only
      split
      · rw [unRegisterListenerDispatcher,dispatch_manager]
        exact removed
      · exact removed
  | restart =>
    unfold step onAddSystemAbility
    dsimp only
    split
    · exact populated
    · rw [registerListenerDispatcher,dispatch_manager]
      exact populated

theorem step_kept (kept : Kept s) (input : EventListenerInput) (inStep : InStep s input) : Kept (s.step input).1 := by
  have populated := step_populated kept input
  refine ⟨populated,?_⟩
  rw [Bool.eq_iff_iff,exists_listener populated]
  exact inStep.1

theorem initial_kept : Kept {} := by
  refine ⟨fun authType => ?_,rfl⟩
  rw [ExtTreeMap.getElem?_empty]
  nofun

end Steps

-- In every run the two sides stay in step just when no unregistration that takes
-- the last listener away is refused.
theorem in_step_iff (inputs : List EventListenerInput) :
    machine.Meets InStep {} inputs ↔ machine.Meets Lasting {} inputs :=
  Mealy.meets_iff (Q:=Kept) (fun _ input kept => inStep_iff kept input)
    (fun _ input kept inStep => step_kept kept input inStep) initial_kept inputs

-- The listener is gone, and the service keeps the dispatcher.
def refused : List EventListenerInput :=
  [.registerListener AuthType.PIN [] (some 1) {},.unRegisterListener (some 1) {result:=ResultCode.GENERAL_ERROR}]

theorem refused_out_of_step : ¬∀ inputs, machine.Meets InStep {} inputs := by
  intro all
  have unchanged := (all refused).2.1.2 ResultCode.GENERAL_ERROR (by decide +kernel) (by decide)
  exact absurd unchanged (by decide +kernel)
end EventListenerClient
end UserAuth
