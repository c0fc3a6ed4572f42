import UserAuth.Framework.DriverRegistrations
import Std.Data.ExtTreeMap.Lemmas

namespace UserAuth
open Std

structure HdiConfig where
  id : UInt16
  driver : Bool

-- What the start of one driver meets.
structure DriverStart where
  allocated : Bool
  isFwkReady : Bool
  service : Bool
  executorHdiList : List Bool
  wrapper : Bool
  answers : Nat → RegisterAnswer

structure DriverManager where
  serviceName2Driver : ExtTreeMap String Driver := ∅

inductive DriverManagerInput where
  | start (hdiName2Config : ExtTreeMap String HdiConfig) (servMgr hasHdi : Bool) (starts : String → DriverStart)
  | driver (serviceName : String) (input : DriverInput)

namespace DriverManager
variable (s : DriverManager)

def idsAreValid (idSet : List UInt16) : List (String × HdiConfig) → Bool
  | [] => true
  | (_,config) :: rest =>
    if idSet.contains config.id then false
    else if !config.driver then false
    else idsAreValid (config.id :: idSet) rest

def hdiConfigIsValid (hdiName2Config : ExtTreeMap String HdiConfig) : Bool := idsAreValid [] hdiName2Config.toList

def named (hdiName : String) (events : List DriverEvent) : List (String × DriverEvent) := events.map (hdiName,·)

-- The driver of one entry, which looks at the ready parameter before it connects.
def startDriver (hasHdi : Bool) (start : DriverStart) (config : HdiConfig) : Driver × List DriverEvent :=
  let driver : Driver := {hdiId:=config.id}
  Mealy.andThen (if start.isFwkReady then driver.onFrameworkReady start.answers else (driver,[])) fun driver =>
    if hasHdi && !start.service then (driver,[])
    else driver.onHdiConnect start.executorHdiList start.wrapper start.answers

def addDriver (hasHdi : Bool) (starts : String → DriverStart) (entry : String × HdiConfig) :
    DriverManager × List (String × DriverEvent) :=
  if !(starts entry.1).allocated then (s,[])
  else if s.serviceName2Driver.contains entry.1 then (s,[])
  else
    let started := startDriver hasHdi (starts entry.1) entry.2
    (⟨s.serviceName2Driver.insert entry.1 started.1⟩,named entry.1 started.2)

def addDrivers (hasHdi : Bool) (starts : String → DriverStart) :
    DriverManager → List (String × HdiConfig) → DriverManager × List (String × DriverEvent)
  | s,[] => (s,[])
  | s,entry :: rest => Mealy.andThen (s.addDriver hasHdi starts entry) fun s => addDrivers hasHdi starts s rest

def start (hdiName2Config : ExtTreeMap String HdiConfig) (servMgr hasHdi : Bool) (starts : String → DriverStart) :
    DriverManager × List (String × DriverEvent) :=
  if !hdiConfigIsValid hdiName2Config then (s,[])
  else if !servMgr then (s,[])
  else addDrivers hasHdi starts s hdiName2Config.toList

def onDriver (serviceName : String) (input : DriverInput) : DriverManager × List (String × DriverEvent) :=
  match s.serviceName2Driver[serviceName]? with
  | none => (s,[])
  | some driver =>
    let stepped := driver.step input
    (⟨s.serviceName2Driver.insert serviceName stepped.1⟩,named serviceName stepped.2)

def step (s : DriverManager) : DriverManagerInput → DriverManager × List (String × DriverEvent)
  | .start hdiName2Config servMgr hasHdi starts => s.start hdiName2Config servMgr hasHdi starts
  | .driver serviceName input => s.onDriver serviceName input

def machine : Mealy DriverManager DriverManagerInput (String × DriverEvent) := ⟨step⟩

-- A start names no id that a driver of another name has. HdiConfigIsValid sees to
-- that within one start only.
def OwnIds (s : DriverManager) : DriverManagerInput → Prop
  | .start hdiName2Config _ _ _ => ∀ entry ∈ hdiName2Config.toList, ∀ other ∈ s.serviceName2Driver.toList,
      other.1 ≠ entry.1 → other.2.hdiId ≠ entry.2.id
  | .driver _ _ => True

-- Executors that are registered under one combined id are of one driver, and of one
-- id there: the low half of the hint that GetExecutorInfo answers.
def TellApart (events : List (String × DriverEvent)) : Prop :=
  ∀ one ∈ events, ∀ other ∈ events, ∀ ref answered executorInfo executorIndex ref' answered' executorInfo' executorIndex',
    one.2 = .registered ref answered executorInfo executorIndex →
      other.2 = .registered ref' answered' executorInfo' executorIndex' →
      executorInfo.executorSensorHint = executorInfo'.executorSensorHint →
        one.1 = other.1 ∧ answered.executorSensorHint.toUInt16 = answered'.executorSensorHint.toUInt16

end DriverManager

theorem toNat_combineUint16ToUint32 (upper lower : UInt16) :
    (combineUint16ToUint32 upper lower).toNat = upper.toNat * 65536 + lower.toNat := by
  have small := upper.toNat_lt
  have low : lower.toNat < 2 ^ 16 := lower.toNat_lt
  have shifted : upper.toNat <<< 16 % 2 ^ 32 = upper.toNat <<< 16 := by
    rw [Nat.shiftLeft_eq]
    omega
  unfold combineUint16ToUint32
  simp only [UInt32.toNat_or,UInt32.toNat_shiftLeft,UInt16.toNat_toUInt32]
  change upper.toNat <<< 16 % 2 ^ 32 ||| lower.toNat = _
  rw [shifted,← Nat.shiftLeft_add_eq_or_of_lt low,Nat.shiftLeft_eq]

theorem combineUint16ToUint32_inj (same : combineUint16ToUint32 upper lower = combineUint16ToUint32 upper' lower') :
    upper = upper' ∧ lower = lower' := by
  have sums := congrArg UInt32.toNat same
  rw [toNat_combineUint16ToUint32,toNat_combineUint16ToUint32] at sums
  have low : lower.toNat < 65536 := lower.toNat_lt
  have low' : lower'.toNat < 65536 := lower'.toNat_lt
  constructor
  · exact UInt16.toNat_inj.mp (by omega)
  · exact UInt16.toNat_inj.mp (by omega)

-- A registration shows which driver and which of its executors it is of.
def DriverEvent.HintOf (hdiId : UInt16) : DriverEvent → Prop
  | .registered _ answered executorInfo _ =>
    executorInfo.executorSensorHint = combineUint16ToUint32 hdiId answered.executorSensorHint.toUInt16
  | _ => True

namespace DriverExecutor

theorem unregisterExecutorCallback_hints (executor : DriverExecutor) (hdiId : UInt16) :
    ∀ event ∈ executor.unregisterExecutorCallback.2, event.HintOf hdiId := by
  unfold unregisterExecutorCallback
  split
  · nofun
  · simp [DriverEvent.HintOf]

theorem register_hints (executor : DriverExecutor) (hdiId : UInt16) (answer : RegisterAnswer) :
    ∀ event ∈ (executor.register hdiId answer).2, event.HintOf hdiId := by
  unfold register
  rw [Mealy.forall_andThen]
  refine ⟨by simp [DriverEvent.HintOf],?_⟩
  split
  · nofun
  split
  · nofun
  unfold registerExecutorCallback
  dsimp only
  split
  · nofun
  rw [Mealy.forall_andThen]
  refine ⟨unregisterExecutorCallback_hints _ hdiId,?_⟩
  split
  · intro event member
    cases List.mem_singleton.mp member
    rfl
  · intro event member
    cases List.mem_singleton.mp member
    rfl

end DriverExecutor

namespace Driver
variable {s : Driver}

-- A driver keeps its id, and registers under no other.
def Hints (s : Driver) (stepped : Driver × List DriverEvent) : Prop :=
  stepped.1.hdiId = s.hdiId ∧ ∀ event ∈ stepped.2, event.HintOf s.hdiId

theorem Hints.andThen (hints : Hints s first) (next : Driver → Driver × List DriverEvent)
    (later : Hints first.1 (next first.1)) : Hints s (Mealy.andThen first next) := by
  obtain ⟨same,told⟩ := hints
  obtain ⟨same',told'⟩ := later
  rw [same] at same' told'
  exact ⟨same',(Mealy.forall_andThen _).mpr ⟨told,told'⟩⟩

theorem hints_marks (same : next.hdiId = s.hdiId) (nobody : ∀ event ∈ more, DriverEvent.executor event = none) :
    Hints s (next,more) := by
  refine ⟨same,fun event member => ?_⟩
  have unnamed := nobody event member
  cases event <;> trivial

theorem registerExecutors_hints (s : Driver) (answers : Nat → RegisterAnswer) :
    Hints s (s.registerExecutors answers) := by
  refine ⟨rfl,fun event member => ?_⟩
  obtain ⟨registered,among,told⟩ := List.mem_flatMap.mp member
  obtain ⟨executor,_,rfl⟩ := List.mem_map.mp among
  exact DriverExecutor.register_hints _ _ _ event told

theorem onFrameworkReady_hints (s : Driver) (answers : Nat → RegisterAnswer) : Hints s (s.onFrameworkReady answers) := by
  unfold onFrameworkReady
  dsimp only
  split
  · exact hints_marks rfl nofun
  · apply Hints.andThen (hints_marks rfl (by simp [DriverEvent.executor]))
    split
    · exact hints_marks rfl nofun
    · exact registerExecutors_hints _ _

theorem onHdiConnect_hints (s : Driver) (executorHdiList : List Bool) (allocated : Bool)
    (answers : Nat → RegisterAnswer) :
    Hints s (s.onHdiConnect executorHdiList allocated answers) := by
  unfold onHdiConnect
  split
  · exact hints_marks rfl nofun
  split
  · exact hints_marks rfl nofun
  split
  · exact hints_marks rfl nofun
  apply Hints.andThen (hints_marks rfl (by simp [DriverEvent.executor]))
  split
  · exact registerExecutors_hints _ _
  · exact hints_marks rfl nofun

theorem step_hints (s : Driver) (input : DriverInput) : Hints s (s.step input) := by
  cases input with
  | onHdiConnect executorHdiList allocated answers => exact onHdiConnect_hints s executorHdiList allocated answers
  | onHdiDisconnect =>
    refine ⟨rfl,fun event member => ?_⟩
    rcases List.mem_append.mp member with earlier | last
    · obtain ⟨disconnected,among,told⟩ := List.mem_flatMap.mp earlier
      obtain ⟨executor,_,rfl⟩ := List.mem_map.mp among
      have responded := DriverExecutor.unregisterExecutorCallback_hints {executor with executorHdi:=false} s.hdiId
      refine (Mealy.forall_andThen _).mpr ⟨?_,responded⟩ event told
      simp [DriverEvent.HintOf]
    · cases List.mem_singleton.mp last
      trivial
  | onFrameworkReady answers => exact onFrameworkReady_hints s answers
  | onFrameworkDown =>
    change Hints s s.onFrameworkDown
    unfold onFrameworkDown
    dsimp only
    split
    · exact hints_marks rfl (by simp [DriverEvent.executor])
    · exact hints_marks rfl (by simp [DriverEvent.executor])
  | onTimer isFwkReady answers =>
    change Hints s (s.onTimer isFwkReady answers)
    unfold onTimer
    split
    · exact onFrameworkReady_hints s answers
    · exact hints_marks rfl (by simp)

end Driver

namespace DriverManager
variable {s : DriverManager}

-- Each driver has an id of its own, and each registration is of a driver there.
structure Apart (s : DriverManager) (h : List (String × DriverEvent)) : Prop where
  ids : ∀ (name other : String) driver driver', s.serviceName2Driver[name]? = some driver →
    s.serviceName2Driver[other]? = some driver' → driver.hdiId = driver'.hdiId → name = other
  hints : ∀ event ∈ h, ∃ driver, s.serviceName2Driver[event.1]? = some driver ∧ event.2.HintOf driver.hdiId

-- A driver comes, or its step is put in its place.
theorem Apart.put (apart : Apart s h) (name : String) (stepped : Driver × List DriverEvent)
    (others : ∀ other driver, s.serviceName2Driver[other]? = some driver → other ≠ name → driver.hdiId ≠ stepped.1.hdiId)
    (before : ∀ driver, s.serviceName2Driver[name]? = some driver → driver.hdiId = stepped.1.hdiId)
    (hints : ∀ event ∈ stepped.2, event.HintOf stepped.1.hdiId) :
    Apart ⟨s.serviceName2Driver.insert name stepped.1⟩ (h ++ named name stepped.2) := by
  have at_name : (s.serviceName2Driver.insert name stepped.1)[name]? = some stepped.1 := ExtTreeMap.getElem?_insert_self
  have elsewhere : ∀ other : String, other ≠ name →
      (s.serviceName2Driver.insert name stepped.1)[other]? = s.serviceName2Driver[other]? := by
    intro other different
    rw [ExtTreeMap.getElem?_insert,if_neg]
    exact fun same => different (LawfulEqOrd.eq_of_compare same).symm
  constructor
  · intro one other driver driver' found found' same
    by_cases first : one = name
    · subst first
      cases at_name.symm.trans found
      by_cases second : other = one
      · exact second.symm
      · rw [elsewhere other second] at found'
        exact absurd same.symm (others other driver' found' second)
    · rw [elsewhere one first] at found
      by_cases second : other = name
      · subst second
        cases at_name.symm.trans found'
        exact absurd same (others one driver found first)
      · rw [elsewhere other second] at found'
        exact apart.ids one other driver driver' found found' same
  · intro event member
    rcases List.mem_append.mp member with earlier | now
    · obtain ⟨driver,found,hint⟩ := apart.hints event earlier
      by_cases here : event.1 = name
      · rw [here] at found ⊢
        rw [before driver found] at hint
        exact ⟨_,at_name,hint⟩
      · exact ⟨driver,(elsewhere event.1 here).trans found,hint⟩
    · obtain ⟨told,among,rfl⟩ := List.mem_map.mp now
      exact ⟨_,at_name,hints told among⟩

theorem startDriver_hints (hasHdi : Bool) (start : DriverStart) (config : HdiConfig) :
    Driver.Hints {hdiId:=config.id} (startDriver hasHdi start config) := by
  have ready : Driver.Hints {hdiId:=config.id}
      (if start.isFwkReady then Driver.onFrameworkReady {hdiId:=config.id} start.answers
        else ({hdiId:=config.id},[])) := by
    split
    · exact Driver.onFrameworkReady_hints _ _
    · exact Driver.hints_marks rfl nofun
  have connects : ∀ driver : Driver, Driver.Hints driver (if hasHdi && !start.service then (driver,[])
      else driver.onHdiConnect start.executorHdiList start.wrapper start.answers) := by
    intro driver
    split
    · exact Driver.hints_marks rfl nofun
    · exact Driver.onHdiConnect_hints _ _ _ _
  exact ready.andThen _ (connects _)

-- No driver of another name has the entry's id.
def Free (s : DriverManager) (entry : String × HdiConfig) : Prop :=
  ∀ (other : String) driver, s.serviceName2Driver[other]? = some driver → other ≠ entry.1 → driver.hdiId ≠ entry.2.id

theorem addDriver_apart (apart : Apart s h) (free : s.Free entry) (hasHdi : Bool) (starts : String → DriverStart) :
    Apart (s.addDriver hasHdi starts entry).1 (h ++ (s.addDriver hasHdi starts entry).2) := by
  unfold addDriver
  split
  · simpa using apart
  split
  · simpa using apart
  rename_i absent
  obtain ⟨same,hints⟩ := startDriver_hints hasHdi (starts entry.1) entry.2
  apply apart.put
  · intro other driver found different
    rw [same]
    exact free other driver found different
  · intro driver found
    refine absurd ?_ absent
    rw [ExtTreeMap.contains_eq_isSome_getElem?,found]
    rfl
  · rw [same]
    exact hints

-- An entry that is added takes no other's id.
theorem addDriver_free (free : s.Free other) (different : entry.2.id ≠ other.2.id) (hasHdi : Bool)
    (starts : String → DriverStart) : (s.addDriver hasHdi starts entry).1.Free other := by
  unfold addDriver
  split
  · exact free
  split
  · exact free
  obtain ⟨same,_⟩ := startDriver_hints hasHdi (starts entry.1) entry.2
  intro name driver found apart
  dsimp only at found
  rw [ExtTreeMap.getElem?_insert] at found
  split at found
  · cases found
    rw [same]
    exact different
  · exact free name driver found apart

theorem addDrivers_apart (apart : Apart s h) (free : ∀ entry ∈ entries, s.Free entry)
    (ids : entries.Pairwise fun entry other => entry.2.id ≠ other.2.id) (hasHdi : Bool) (starts : String → DriverStart) :
    Apart (addDrivers hasHdi starts s entries).1 (h ++ (addDrivers hasHdi starts s entries).2) := by
  induction entries generalizing s h with
  | nil => simpa [addDrivers] using apart
  | cons entry rest ih =>
    obtain ⟨different,later⟩ := List.pairwise_cons.mp ids
    have added := addDriver_apart apart (free entry List.mem_cons_self) hasHdi starts
    have still : ∀ other ∈ rest, (s.addDriver hasHdi starts entry).1.Free other := by
      intro other among
      exact addDriver_free (free other (List.mem_cons_of_mem _ among)) (different other among) hasHdi starts
    have all := ih added still later
    rw [List.append_assoc] at all
    exact all

theorem idsAreValid_pairwise (valid : idsAreValid idSet entries = true) :
    (∀ entry ∈ entries, entry.2.id ∉ idSet) ∧ entries.Pairwise fun entry other => entry.2.id ≠ other.2.id := by
  induction entries generalizing idSet with
  | nil => exact ⟨nofun,.nil⟩
  | cons entry rest ih =>
    unfold idsAreValid at valid
    split at valid
    · cases valid
    split at valid
    · cases valid
    rename_i fresh _
    obtain ⟨outside,pairwise⟩ := ih valid
    refine ⟨?_,List.pairwise_cons.mpr ⟨?_,pairwise⟩⟩
    · intro other among
      rcases List.mem_cons.mp among with rfl | later
      · simpa using fresh
      · exact fun inside => outside other later (List.mem_cons_of_mem _ inside)
    · intro other later same
      exact outside other later (same ▸ List.mem_cons_self)

theorem step_apart (apart : Apart s h) (input : DriverManagerInput) (ownIds : s.OwnIds input) :
    Apart (s.step input).1 (h ++ (s.step input).2) := by
  cases input with
  | start hdiName2Config servMgr hasHdi starts =>
    change Apart (s.start hdiName2Config servMgr hasHdi starts).1 (h ++ (s.start hdiName2Config servMgr hasHdi starts).2)
    unfold start
    split
    · simpa using apart
    split
    · simpa using apart
    rename_i valid _
    have ids := (idsAreValid_pairwise (by simpa [hdiConfigIsValid] using valid)).2
    refine addDrivers_apart apart (fun entry member other driver found different => ?_) ids hasHdi starts
    exact ownIds entry member (other,driver) (ExtTreeMap.mem_toList_iff_getElem?_eq_some.mpr found) different
  | driver serviceName input =>
    change Apart (s.onDriver serviceName input).1 (h ++ (s.onDriver serviceName input).2)
    unfold onDriver
    cases found : s.serviceName2Driver[serviceName]? with
    | none => simpa using apart
    | some driver =>
      obtain ⟨same,hints⟩ := Driver.step_hints driver input
      apply apart.put
      · intro other driver' found' different equal
        exact different (apart.ids other serviceName driver' driver found' found (equal.trans same))
      · intro driver' found'
        cases found.symm.trans found'
        exact same.symm
      · rw [same]
        exact hints

-- Whatever the drivers of a process are told and answered, and however often
-- drivers are started.
theorem registered_hints_apart (inputs : List DriverManagerInput) (ownIds : machine.Meets OwnIds {} inputs) :
    TellApart (machine.trace {} inputs) := by
  have start : Apart {} [] := ⟨fun name _ _ _ found => by simp at found,nofun⟩
  have apart := Mealy.guarded_history (P:=Apart)
    (fun _ _ input apart ownIds => step_apart apart input ownIds) start ownIds
  rw [List.nil_append] at apart
  intro one among other among' ref answered executorInfo executorIndex ref' answered' executorInfo' executorIndex' told
    told' same
  obtain ⟨driver,found,hint⟩ := apart.hints one among
  obtain ⟨driver',found',hint'⟩ := apart.hints other among'
  rw [told,DriverEvent.HintOf] at hint
  rw [told',DriverEvent.HintOf] at hint'
  rw [hint,hint'] at same
  obtain ⟨ids,executors⟩ := combineUint16ToUint32_inj same
  exact ⟨apart.ids one.1 other.1 driver driver' found found' ids,executors⟩

-- Two drivers with a sensor of one hint each.
def twoDrivers : List DriverManagerInput :=
  let configs : List (String × HdiConfig) :=
    [("face_auth_interface_service",⟨1,true⟩),("pin_auth_interface_service",⟨2,true⟩)]
  [.start (.ofList configs) true false fun _ => ⟨true,true,true,[true],true,fun _ => ⟨some {},true,7⟩⟩]

theorem registered_hints_apart_two :
    (machine.trace {} twoDrivers).length = 8 ∧ TellApart (machine.trace {} twoDrivers) := by
  refine ⟨by decide +kernel,registered_hints_apart twoDrivers ⟨?_,trivial⟩⟩
  intro entry _ other member
  have found := ExtTreeMap.mem_toList_iff_getElem?_eq_some.mp member
  simp at found

end DriverManager
end UserAuth
