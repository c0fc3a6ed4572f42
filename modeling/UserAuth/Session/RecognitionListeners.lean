import Mathlib.Logic.Function.Basic
import UserAuth.Common.Defines
import UserAuth.Lib.History
import UserAuth.Session.UserRecognition

namespace UserAuth

structure UserRecognitionResult where
  status : Int32 := UserRecognitionStatus.UNCERTAIN
  userId : Int32 := 0
  userInfo : String := ""
  authTrustLevel : Option UInt32 := none
  deriving DecidableEq

def userRecognitionStatusFromInt (status : Int32) : Int32 :=
  if status < UserRecognitionStatus.UNCERTAIN ∨ status > UserRecognitionStatus.MATCH then UserRecognitionStatus.UNCERTAIN
  else status

def convertIpcUserRecognitionResult (result : IpcUserRecognitionResult) : UserRecognitionResult where
  status := userRecognitionStatusFromInt result.status
  userId := result.userId
  userInfo := result.userInfo
  authTrustLevel := if result.hasAuthTrustLevel then some result.authTrustLevel else none

-- What the service of the client side calls, on behalf of the listeners.
structure UserRecognitionCallbackService where
  listeners : List Nat := []
  active : Bool := true
  latestResult : Option UserRecognitionResult := none

structure RecognitionClient where
  -- Every one that was made, by its number.
  services : Nat → UserRecognitionCallbackService := fun _ => {}
  nextService : Nat := 0
  recognitionService : Option Nat := none
  recognitionServiceStatusSubscribed : Bool := false
  -- Registrations that have left the lock and are to join their service.
  joining : List (Nat × Nat) := []
  -- Events that have found their service active.
  events : List (Nat × UserRecognitionResult) := []
  -- And those that have their snapshot, with the listeners still to call.
  deliveries : List (List Nat × UserRecognitionResult) := []

-- `proxy` says if the service is there, `ret` is what it answers.
inductive RecognitionClientInput where
  | register (listener : Option Nat) (subscribed proxy : Bool) (ret : ResultCode)
  | join (position : Nat)
  | unregister (listener : Option Nat) (proxy : Bool) (ret : ResultCode)
  | onUserRecognitionEvent (service : Nat) (result : IpcUserRecognitionResult)
  | takeSnapshot (position : Nat)
  | deliver (position : Nat)
  | onAddSystemAbility (proxy : Bool) (ret : ResultCode)
  | onRemoveSystemAbility

inductive RecognitionClientOutput where
  | registered (listener service : Nat)
  | unregistered (listener : Nat) (resultCode : ResultCode)
  | refused (resultCode : ResultCode)
  -- A service is given up, while the `waiting` are still to join it.
  | dropped (service : Nat) (waiting : List Nat)
  | event (listener : Nat) (result : UserRecognitionResult)
  deriving DecidableEq

namespace RecognitionClient
variable (s : RecognitionClient)

def putService (service : Nat) (held : UserRecognitionCallbackService) : RecognitionClient :=
  {s with services:=Function.update s.services service held}

def registerUserRecognitionEventListener (listener : Option Nat) (subscribed proxy : Bool) (ret : ResultCode) :
    RecognitionClient × List RecognitionClientOutput :=
  match listener with
  | none => (s,[.refused ResultCode.INVALID_PARAMETERS])
  | some listener =>
    let s := {s with recognitionServiceStatusSubscribed:=s.recognitionServiceStatusSubscribed || subscribed}
    if !proxy then (s,[.refused ResultCode.GENERAL_ERROR])
    else
      match s.recognitionService with
      | some service => ({s with joining:=s.joining ++ [(service,listener)]},[])
      | none =>
        if ret ≠ ResultCode.SUCCESS then (s,[.refused ret])
        else
          ({s with
            recognitionService:=some s.nextService
            nextService:=s.nextService + 1
            joining:=s.joining ++ [(s.nextService,listener)]},[])

-- AddListenerWithCatchUp, in a section of its own.
def join (position : Nat) : RecognitionClient × List RecognitionClientOutput :=
  match s.joining[position]? with
  | none => (s,[])
  | some (service,listener) =>
    let s := {s with joining:=s.joining.eraseIdx position}
    let held := s.services service
    if listener ∈ held.listeners then (s,[.registered listener service])
    else
      (s.putService service {held with listeners:=held.listeners ++ [listener]},
        (held.latestResult.toList.map (.event listener)) ++ [.registered listener service])

def unregisterUserRecognitionEventListener (listener : Option Nat) (proxy : Bool) (ret : ResultCode) :
    RecognitionClient × List RecognitionClientOutput :=
  match listener with
  | none => (s,[.refused ResultCode.INVALID_PARAMETERS])
  | some listener =>
    match s.recognitionService with
    | none => (s,[.unregistered listener ResultCode.SUCCESS])
    | some service =>
      let held := s.services service
      let listeners := held.listeners.erase listener
      if listeners.isEmpty then
        let waiting := (s.joining.filter (·.1 = service)).map (·.2)
        ({s.putService service {held with listeners,active:=false} with recognitionService:=none},
          [.dropped service waiting,.unregistered listener (if proxy then ret else ResultCode.SUCCESS)])
      else (s.putService service {held with listeners},[.unregistered listener ResultCode.SUCCESS])

def onUserRecognitionEvent (service : Nat) (result : IpcUserRecognitionResult) : RecognitionClient :=
  if !(s.services service).active then s
  else {s with events:=s.events ++ [(service,convertIpcUserRecognitionResult result)]}

def takeSnapshot (position : Nat) : RecognitionClient :=
  match s.events[position]? with
  | none => s
  | some (service,result) =>
    let held := s.services service
    let s := {s with events:=s.events.eraseIdx position}
    {s.putService service {held with latestResult:=some result} with
      deliveries:=s.deliveries ++ [(held.listeners,result)]}

def deliver (position : Nat) : RecognitionClient × List RecognitionClientOutput :=
  match s.deliveries[position]? with
  | none => (s,[])
  | some ([],_) => ({s with deliveries:=s.deliveries.eraseIdx position},[])
  | some (listener :: rest,result) => ({s with deliveries:=s.deliveries.set position (rest,result)},[.event listener result])

-- ReregisterUserRecognitionListeners, of the service that is back. What it answers is not looked at.
def onAddSystemAbility (proxy : Bool) (_ret : ResultCode) : RecognitionClient :=
  if !s.recognitionServiceStatusSubscribed || !proxy then s
  else
    match s.recognitionService with
    | none => s
    | some service => s.putService service {s.services service with latestResult:=none}

-- NotifyUserRecognitionServiceUnavailable
def onRemoveSystemAbility : RecognitionClient :=
  if !s.recognitionServiceStatusSubscribed then s
  else
    match s.recognitionService with
    | none => s
    | some service => s.onUserRecognitionEvent service {status:=UserRecognitionStatus.UNCERTAIN}

def step (s : RecognitionClient) : RecognitionClientInput → RecognitionClient × List RecognitionClientOutput
  | .register listener subscribed proxy ret => s.registerUserRecognitionEventListener listener subscribed proxy ret
  | .join position => s.join position
  | .unregister listener proxy ret => s.unregisterUserRecognitionEventListener listener proxy ret
  | .onUserRecognitionEvent service result =>
    if service < s.nextService then (s.onUserRecognitionEvent service result,[]) else (s,[])
  | .takeSnapshot position => (s.takeSnapshot position,[])
  | .deliver position => s.deliver position
  | .onAddSystemAbility proxy ret => (s.onAddSystemAbility proxy ret,[])
  | .onRemoveSystemAbility => (s.onRemoveSystemAbility,[])

def machine : Mealy RecognitionClient RecognitionClientInput RecognitionClientOutput := ⟨step⟩

def Attached (listener : Nat) : Prop :=
  ∃ service, s.recognitionService = some service ∧ (s.services service).active = true ∧
    listener ∈ (s.services service).listeners

-- Registered, and not unregistered since.
def Held (listener : Nat) (h : List RecognitionClientOutput) : Prop :=
  ∃ before service after, h = before ++ .registered listener service :: after ∧
    ∀ resultCode, .unregistered listener resultCode ∉ after

-- The service was given up while the listener was still to join it.
def GivenUp (service listener : Nat) (h : List RecognitionClientOutput) : Prop :=
  ∃ waiting, .dropped service waiting ∈ h ∧ listener ∈ waiting

-- Its registration in force joined a service that had been given up.
def Stranded (listener : Nat) (h : List RecognitionClientOutput) : Prop :=
  ∃ before service after, h = before ++ .registered listener service :: after ∧
    (∀ resultCode, .unregistered listener resultCode ∉ after) ∧ GivenUp service listener before

variable {s} {h : List RecognitionClientOutput}

theorem held_concat : Held listener (h ++ [output]) ↔
    (∃ service, output = .registered listener service) ∨
      Held listener h ∧ ∀ resultCode, output ≠ .unregistered listener resultCode := by
  constructor
  · rintro ⟨before,service,after,split,lasting⟩
    rcases List.eq_nil_or_concat after with rfl | ⟨after,last,rfl⟩
    · obtain ⟨rfl,same⟩ := List.append_inj' split rfl
      cases same
      exact .inl ⟨service,rfl⟩
    · rw [List.concat_eq_append] at split lasting
      rw [← List.cons_append,← List.append_assoc] at split
      obtain ⟨rfl,same⟩ := List.append_inj' split rfl
      cases same
      refine .inr ⟨⟨before,service,after,rfl,fun resultCode member => ?_⟩,fun resultCode same => ?_⟩
      · exact lasting resultCode (List.mem_append_left _ member)
      · exact lasting resultCode (List.mem_append_right _ (same ▸ List.mem_cons_self))
  · rintro (⟨service,rfl⟩ | ⟨⟨before,service,after,rfl,lasting⟩,other⟩)
    · exact ⟨h,service,[],rfl,fun _ => List.not_mem_nil⟩
    · refine ⟨before,service,after ++ [output],by simp,fun resultCode member => ?_⟩
      rcases List.mem_append.mp member with within | last
      · exact lasting resultCode within
      · exact other resultCode (List.mem_singleton.mp last).symm

-- Events change nothing about who is registered.
theorem held_events (events : ∀ output ∈ more, ∃ listener result, output = .event listener result) :
    Held listener (h ++ more) ↔ Held listener h := by
  induction more using List.reverseRecOn with
  | nil => rw [List.append_nil]
  | append_singleton more last ih =>
    have earlier := ih fun output member => events output (List.mem_append_left _ member)
    obtain ⟨other,result,rfl⟩ := events last (List.mem_append_right _ List.mem_cons_self)
    rw [← List.append_assoc,held_concat,earlier]
    simp

theorem givenUp_append (givenUp : GivenUp service listener h) : GivenUp service listener (h ++ more) := by
  obtain ⟨waiting,dropped,member⟩ := givenUp
  exact ⟨waiting,List.mem_append_left _ dropped,member⟩

-- Only its own unregistration ends it.
theorem stranded_append (lasting : ∀ resultCode, .unregistered listener resultCode ∉ more)
    (stranded : Stranded listener h) : Stranded listener (h ++ more) := by
  obtain ⟨before,service,after,rfl,kept,givenUp⟩ := stranded
  refine ⟨before,service,after ++ more,by simp,fun resultCode member => ?_,givenUp⟩
  rcases List.mem_append.mp member with earlier | later
  · exact kept resultCode earlier
  · exact lasting resultCode later

theorem stranded_joins (givenUp : GivenUp service listener h) : Stranded listener (h ++ [.registered listener service]) :=
  ⟨h,service,[],rfl,fun _ => List.not_mem_nil,givenUp⟩

theorem events_lasting {more : List RecognitionClientOutput}
    (told : ∀ output ∈ more, ∃ other result, output = .event other result) :
    ∀ resultCode, .unregistered listener resultCode ∉ more := by
  intro resultCode member
  obtain ⟨other,result,same⟩ := told _ member
  cases same

structure Kept (s : RecognitionClient) (h : List RecognitionClientOutput) : Prop where
  fresh : ∀ service, s.nextService ≤ service → s.services service = {}
  current : ∀ service, s.recognitionService = some service →
    service < s.nextService ∧ (s.services service).active = true
  joins : ∀ service listener, (service,listener) ∈ s.joining →
    service < s.nextService ∧ (s.recognitionService = some service ∨ GivenUp service listener h)
  events : ∀ service result, (service,result) ∈ s.events → service < s.nextService
  nodup : ∀ service, (s.services service).listeners.Nodup
  attached : ∀ listener, s.Attached listener → Held listener h
  held : ∀ listener, Held listener h → s.Attached listener ∨ Stranded listener h

theorem initial_kept : Kept {} [] where
  fresh service later := rfl
  current service none := by cases none
  joins service listener none := by cases none
  events service result none := by cases none
  nodup service := List.nodup_nil
  attached listener attached := by
    obtain ⟨_,none,_⟩ := attached
    cases none
  held listener held := by
    obtain ⟨before,service,after,split,_⟩ := held
    exact absurd split.symm (by simp)

-- A step that leaves the lists of listeners as they are, and tells some an event.
theorem Kept.frame (kept : Kept s h) (next : RecognitionClient)
    (same : next.recognitionService = s.recognitionService ∧ next.nextService = s.nextService ∧ next.joining = s.joining)
    (lists : ∀ service, (next.services service).listeners = (s.services service).listeners ∧
      (next.services service).active = (s.services service).active)
    (fresh : ∀ service, s.nextService ≤ service → next.services service = {})
    (bound : ∀ service result, (service,result) ∈ next.events → service < s.nextService)
    (told : ∀ output ∈ more, ∃ listener result, output = .event listener result) : Kept next (h ++ more) := by
  obtain ⟨current,nextService,joining⟩ := same
  have attached : ∀ listener, next.Attached listener ↔ s.Attached listener := by
    intro listener
    unfold Attached
    simp only [current,(lists _).1,(lists _).2]
  refine ⟨?_,?_,?_,?_,?_,?_,?_⟩
  · rw [nextService]
    exact fresh
  · intro service found
    rw [nextService,(lists service).2]
    exact kept.current service (current ▸ found)
  · intro service listener member
    rw [nextService,current]
    obtain ⟨known,either⟩ := kept.joins service listener (joining ▸ member)
    exact ⟨known,either.imp_right givenUp_append⟩
  · rw [nextService]
    exact bound
  · intro service
    rw [(lists service).1]
    exact kept.nodup service
  · intro listener found
    exact (held_events told).mpr (kept.attached listener ((attached listener).mp found))
  · intro listener found
    rw [attached]
    exact (kept.held listener ((held_events told).mp found)).imp_right (stranded_append (events_lasting told))

theorem refused_kept (kept : Kept s h) (resultCode : ResultCode) (subscribed : Bool) :
    Kept {s with recognitionServiceStatusSubscribed:=subscribed} (h ++ [.refused resultCode]) := by
  have same : ∀ listener, Held listener (h ++ [.refused resultCode]) ↔ Held listener h := by
    intro listener
    rw [held_concat]
    simp
  refine {kept with joins:=?_,attached:=?_,held:=?_}
  · intro service listener member
    exact (kept.joins service listener member).imp_right (Or.imp_right givenUp_append)
  · intro listener found
    exact (same listener).mpr (kept.attached listener found)
  · intro listener found
    exact (kept.held listener ((same listener).mp found)).imp_right (stranded_append (by simp))

theorem register_kept (kept : Kept s h) (listener : Option Nat) (subscribed proxy : Bool) (ret : ResultCode) :
    Kept (s.registerUserRecognitionEventListener listener subscribed proxy ret).1
      (h ++ (s.registerUserRecognitionEventListener listener subscribed proxy ret).2) := by
  unfold registerUserRecognitionEventListener
  cases listener with
  | none => exact refused_kept kept ResultCode.INVALID_PARAMETERS s.recognitionServiceStatusSubscribed
  | some listener =>
    dsimp only
    split
    · exact refused_kept kept ResultCode.GENERAL_ERROR _
    split
    · rename_i service found
      rw [List.append_nil]
      refine {kept with joins:=?_}
      intro other joiner member
      rcases List.mem_append.mp member with earlier | last
      · exact kept.joins other joiner earlier
      · cases List.mem_singleton.mp last
        exact ⟨(kept.current service found).1,.inl found⟩
    · rename_i none
      split
      · exact refused_kept kept ret _
      rw [List.append_nil]
      have detached : ∀ other, ¬s.Attached other := by
        rintro other ⟨service,found,_⟩
        rw [none] at found
        cases found
      refine {kept with fresh:=?_,current:=?_,joins:=?_,events:=?_,attached:=?_,held:=?_}
      · intro service later
        exact kept.fresh service (Nat.le_of_succ_le later)
      · intro service found
        cases found
        refine ⟨Nat.lt_succ_self _,?_⟩
        exact congrArg UserRecognitionCallbackService.active (kept.fresh s.nextService (Nat.le_refl _))
      · intro service joiner member
        rcases List.mem_append.mp member with earlier | last
        · obtain ⟨known,either⟩ := kept.joins service joiner earlier
          refine ⟨Nat.lt_succ_of_lt known,.inr (either.resolve_left ?_)⟩
          rw [none]
          exact nofun
        · cases List.mem_singleton.mp last
          exact ⟨Nat.lt_succ_self _,.inl rfl⟩
      · intro service result member
        exact Nat.lt_succ_of_lt (kept.events service result member)
      · rintro other ⟨service,found,_,member⟩
        cases found
        change other ∈ (s.services s.nextService).listeners at member
        rw [kept.fresh s.nextService (Nat.le_refl _)] at member
        cases member
      · intro other found
        exact .inr ((kept.held other found).resolve_left (detached other))

theorem mem_of_eraseIdx {items : List α} (member : item ∈ items.eraseIdx position) : item ∈ items :=
  (List.eraseIdx_sublist items position).subset member

theorem catchUp_told (latest : Option UserRecognitionResult) (listener : Nat) :
    ∀ output ∈ latest.toList.map (RecognitionClientOutput.event listener),
      ∃ other result, output = .event other result := by
  intro output member
  obtain ⟨result,_,rfl⟩ := List.mem_map.mp member
  exact ⟨listener,result,rfl⟩

section Put
variable {service : Nat} {held : UserRecognitionCallbackService}

theorem services_self : (s.putService service held).services service = held := Function.update_self ..

theorem services_other (apart : other ≠ service) : (s.putService service held).services other = s.services other :=
  Function.update_of_ne apart ..

theorem Kept.put_fresh (kept : Kept s h) (known : service < s.nextService) :
    ∀ other, s.nextService ≤ other → (s.putService service held).services other = {} := by
  intro other later
  have apart : other ≠ service := fun same => absurd (same ▸ known) (Nat.not_lt.mpr later)
  exact (services_other apart).trans (kept.fresh other later)

theorem Kept.put_nodup (kept : Kept s h) (nodup : held.listeners.Nodup) :
    ∀ other, ((s.putService service held).services other).listeners.Nodup := by
  intro other
  by_cases same : other = service
  · rw [same,services_self]
    exact nodup
  · rw [services_other same]
    exact kept.nodup other

theorem Kept.put_current (kept : Kept s h) (active : held.active = (s.services service).active) :
    ∀ other, s.recognitionService = some other →
      other < s.nextService ∧ ((s.putService service held).services other).active = true := by
  intro other current
  obtain ⟨known,there⟩ := kept.current other current
  refine ⟨known,?_⟩
  by_cases same : other = service
  · rw [same,services_self,active,← same]
    exact there
  · rw [services_other same]
    exact there

theorem put_attached (current : s.recognitionService = some service) :
    (s.putService service held).Attached listener ↔ held.active = true ∧ listener ∈ held.listeners := by
  constructor
  · rintro ⟨other,there,attached⟩
    cases current.symm.trans there
    rwa [services_self] at attached
  · intro attached
    exact ⟨service,current,by rwa [services_self]⟩

theorem put_aside (away : s.recognitionService ≠ some service) :
    (s.putService service held).Attached listener ↔ s.Attached listener := by
  have same : ∀ other, s.recognitionService = some other → (s.putService service held).services other = s.services other :=
    fun other current => services_other fun same => away (same ▸ current)
  constructor
  · rintro ⟨other,current,attached⟩
    exact ⟨other,current,same other current ▸ attached⟩
  · rintro ⟨other,current,attached⟩
    exact ⟨other,current,(same other current).symm ▸ attached⟩

end Put

-- Whoever has joined is registered, and attached if its service is still the client's.
theorem join_kept (kept : Kept s h) (position : Nat) : Kept (s.join position).1 (h ++ (s.join position).2) := by
  unfold join
  split
  · simpa using kept
  rename_i service listener found
  have member := List.mem_of_getElem? found
  obtain ⟨known,either⟩ := kept.joins service listener member
  dsimp only
  split
  · rename_i inside
    have held : ∀ other, Held other (h ++ [.registered listener service]) ↔ other = listener ∨ Held other h := by
      intro other
      rw [held_concat]
      simp [eq_comm]
    refine {kept with joins:=?_,attached:=?_,held:=?_}
    · intro other joiner member
      exact (kept.joins other joiner (mem_of_eraseIdx member)).imp_right (Or.imp_right givenUp_append)
    · intro other found
      exact (held other).mpr (.inr (kept.attached other found))
    · intro other found
      rcases (held other).mp found with rfl | found
      · rcases either with current | givenUp
        · exact .inl ⟨service,current,(kept.current service current).2,inside⟩
        · exact .inr (stranded_joins givenUp)
      · exact (kept.held other found).imp_right (stranded_append (by simp))
  · rename_i outside
    have held : ∀ other, Held other (h ++ ((s.services service).latestResult.toList.map (.event listener) ++
        [.registered listener service])) ↔ other = listener ∨ Held other h := by
      intro other
      rw [← List.append_assoc,held_concat,held_events (catchUp_told _ _)]
      simp [eq_comm]
    have longer : ((s.services service).listeners ++ [listener]).Nodup := by
      rw [List.nodup_append]
      refine ⟨kept.nodup service,by simp,?_⟩
      intro one inside last member same
      exact outside (List.mem_singleton.mp member ▸ same ▸ inside)
    refine ⟨kept.put_fresh known,kept.put_current rfl,?_,kept.events,kept.put_nodup longer,?_,?_⟩
    · intro other joiner member
      exact (kept.joins other joiner (mem_of_eraseIdx member)).imp_right (Or.imp_right givenUp_append)
    · intro other attached
      rw [held]
      by_cases current : s.recognitionService = some service
      · obtain ⟨active,inside⟩ := (put_attached current).mp attached
        rcases List.mem_append.mp inside with inside | last
        · exact .inr (kept.attached other ⟨service,current,active,inside⟩)
        · exact .inl (List.mem_singleton.mp last)
      · exact .inr (kept.attached other ((put_aside current).mp attached))
    · intro other found
      rw [← List.append_assoc]
      rcases (held other).mp found with rfl | found
      · rcases either with current | givenUp
        · exact .inl ((put_attached current).mpr ⟨(kept.current service current).2,by simp⟩)
        · exact .inr (stranded_joins (givenUp_append givenUp))
      · rcases kept.held other found with attached | stranded
        · left
          by_cases current : s.recognitionService = some service
          · obtain ⟨there,found,active,inside⟩ := attached
            cases current.symm.trans found
            exact (put_attached current).mpr ⟨active,List.mem_append_left _ inside⟩
          · exact (put_aside current).mpr attached
        · have caught := stranded_append (events_lasting (catchUp_told (s.services service).latestResult listener)) stranded
          exact .inr (stranded_append (by simp) caught)

theorem held_unregistered : Held other (h ++ [.unregistered listener resultCode]) ↔ other ≠ listener ∧ Held other h := by
  rw [held_concat]
  simp [and_comm,eq_comm]

theorem stranded_apart (apart : other ≠ listener) (stranded : Stranded other h) :
    Stranded other (h ++ [.unregistered listener resultCode]) := by
  refine stranded_append (fun code member => apart ?_) stranded
  cases List.mem_singleton.mp member
  rfl

theorem held_dropped : Held other (h ++ [.dropped service waiting]) ↔ Held other h := by
  rw [held_concat]
  simp

-- The last one to leave takes the service along, and strands whoever is still to join it.
theorem unregister_kept (kept : Kept s h) (listener : Option Nat) (proxy : Bool) (ret : ResultCode) :
    Kept (s.unregisterUserRecognitionEventListener listener proxy ret).1
      (h ++ (s.unregisterUserRecognitionEventListener listener proxy ret).2) := by
  unfold unregisterUserRecognitionEventListener
  cases listener with
  | none => exact refused_kept kept ResultCode.INVALID_PARAMETERS s.recognitionServiceStatusSubscribed
  | some listener =>
    dsimp only
    split
    · rename_i none
      refine {kept with joins:=?_,attached:=?_,held:=?_}
      · intro service joiner member
        exact (kept.joins service joiner member).imp_right (Or.imp_right givenUp_append)
      · rintro other ⟨service,found,_⟩
        rw [none] at found
        cases found
      · intro other found
        obtain ⟨apart,found⟩ := held_unregistered.mp found
        exact (kept.held other found).imp_right (stranded_apart apart)
    · rename_i service current
      obtain ⟨known,_⟩ := kept.current service current
      have erased : ∀ other, other ∈ (s.services service).listeners.erase listener ↔
          other ≠ listener ∧ other ∈ (s.services service).listeners := fun other => (kept.nodup service).mem_erase_iff
      have fewer : ((s.services service).listeners.erase listener).Nodup := (kept.nodup service).erase listener
      split
      · rename_i bare
        have alone : ∀ other, s.Attached other → other = listener := by
          rintro other ⟨found,there,_,inside⟩
          rw [current] at there
          cases there
          by_contra apart
          have left := (erased other).mpr ⟨apart,inside⟩
          rw [List.isEmpty_iff.mp bare] at left
          cases left
        rw [List.append_cons]
        refine ⟨kept.put_fresh known,?_,?_,kept.events,kept.put_nodup fewer,?_,?_⟩
        · intro other found
          cases found
        · intro other joiner member
          obtain ⟨known,either⟩ := kept.joins other joiner member
          refine ⟨known,.inr ?_⟩
          rcases either with there | givenUp
          · rw [current] at there
            cases there
            have waits : joiner ∈ (s.joining.filter (·.1 = service)).map (·.2) :=
              List.mem_map.mpr ⟨(service,joiner),List.mem_filter.mpr ⟨member,by simp⟩,rfl⟩
            exact ⟨_,by simp,waits⟩
          · exact givenUp_append (givenUp_append givenUp)
        · rintro other ⟨found,there,_⟩
          cases there
        · intro other found
          obtain ⟨apart,found⟩ := held_unregistered.mp found
          rcases kept.held other (held_dropped.mp found) with attached | stranded
          · exact absurd (alone other attached) apart
          · exact .inr (stranded_apart apart (stranded_append (by simp) stranded))
      · refine ⟨kept.put_fresh known,kept.put_current rfl,?_,kept.events,kept.put_nodup fewer,?_,?_⟩
        · intro other joiner member
          exact (kept.joins other joiner member).imp_right (Or.imp_right givenUp_append)
        · intro other attached
          obtain ⟨active,inside⟩ := (put_attached current).mp attached
          obtain ⟨apart,inside⟩ := (erased other).mp inside
          exact held_unregistered.mpr ⟨apart,kept.attached other ⟨service,current,active,inside⟩⟩
        · intro other found
          obtain ⟨apart,found⟩ := held_unregistered.mp found
          rcases kept.held other found with ⟨found,there,active,inside⟩ | stranded
          · cases current.symm.trans there
            exact .inl ((put_attached current).mpr ⟨active,(erased other).mpr ⟨apart,inside⟩⟩)
          · exact .inr (stranded_apart apart stranded)

theorem event_kept (kept : Kept s h) (service : Nat) (known : service < s.nextService)
    (result : IpcUserRecognitionResult) :
    Kept (s.onUserRecognitionEvent service result) h := by
  unfold onUserRecognitionEvent
  split
  · exact kept
  · refine {kept with events:=?_}
    intro other seen member
    rcases List.mem_append.mp member with earlier | last
    · exact kept.events other seen earlier
    · cases List.mem_singleton.mp last
      exact known

theorem latest_same (s : RecognitionClient) (service : Nat) (latest : Option UserRecognitionResult) (other : Nat) :
    ((s.putService service {s.services service with latestResult:=latest}).services other).listeners =
      (s.services other).listeners ∧
    ((s.putService service {s.services service with latestResult:=latest}).services other).active =
      (s.services other).active := by
  unfold putService
  by_cases same : other = service
  · subst same
    simp
  · simp [Function.update_of_ne same]

theorem takeSnapshot_kept (kept : Kept s h) (position : Nat) : Kept (s.takeSnapshot position) h := by
  unfold takeSnapshot
  split
  · exact kept
  rename_i service result found
  have known := kept.events service result (List.mem_of_getElem? found)
  rw [← List.append_nil h]
  refine kept.frame _ ⟨rfl,rfl,rfl⟩ (latest_same s service _) (kept.put_fresh known) ?_ nofun
  intro other seen member
  exact kept.events other seen (mem_of_eraseIdx member)

theorem deliver_kept (kept : Kept s h) (position : Nat) : Kept (s.deliver position).1 (h ++ (s.deliver position).2) := by
  unfold deliver
  split
  · simpa using kept
  · exact kept.frame _ ⟨rfl,rfl,rfl⟩ (fun _ => ⟨rfl,rfl⟩) kept.fresh kept.events nofun
  · rename_i listener rest result found
    refine kept.frame _ ⟨rfl,rfl,rfl⟩ (fun _ => ⟨rfl,rfl⟩) kept.fresh kept.events ?_
    intro output member
    exact ⟨listener,result,List.mem_singleton.mp member⟩

theorem onAddSystemAbility_kept (kept : Kept s h) (proxy : Bool) (ret : ResultCode) :
    Kept (s.onAddSystemAbility proxy ret) h := by
  unfold onAddSystemAbility
  split
  · exact kept
  split
  · exact kept
  rename_i service current
  rw [← List.append_nil h]
  exact kept.frame _ ⟨rfl,rfl,rfl⟩ (latest_same s service _) (kept.put_fresh (kept.current service current).1)
    kept.events nofun

theorem onRemoveSystemAbility_kept (kept : Kept s h) : Kept s.onRemoveSystemAbility h := by
  unfold onRemoveSystemAbility
  split
  · exact kept
  split
  · exact kept
  · rename_i service current
    exact event_kept kept service (kept.current service current).1 _

theorem step_kept (kept : Kept s h) (input : RecognitionClientInput) : Kept (s.step input).1 (h ++ (s.step input).2) := by
  cases input with
  | register listener subscribed proxy ret => exact register_kept kept listener subscribed proxy ret
  | join position => exact join_kept kept position
  | unregister listener proxy ret => exact unregister_kept kept listener proxy ret
  | onUserRecognitionEvent service result =>
    simp only [step]
    split
    · rename_i known
      simpa using event_kept kept service known result
    · simpa using kept
  | takeSnapshot position => simpa [step] using takeSnapshot_kept kept position
  | deliver position => exact deliver_kept kept position
  | onAddSystemAbility proxy ret => simpa [step] using onAddSystemAbility_kept kept proxy ret
  | onRemoveSystemAbility => simpa [step] using onRemoveSystemAbility_kept kept

theorem run_kept (inputs : List RecognitionClientInput) : Kept (machine.after {} inputs) (machine.trace {} inputs) :=
  Mealy.history (P:=Kept) (fun _ _ input kept => step_kept kept input) initial_kept inputs

-- The listeners of the client's service are registered ones, and every registered
-- one is among them but for those that were stranded on a service given up.
theorem registered_attached (inputs : List RecognitionClientInput) (listener : Nat) :
    ((machine.after {} inputs).Attached listener → Held listener (machine.trace {} inputs)) ∧
    (Held listener (machine.trace {} inputs) →
      (machine.after {} inputs).Attached listener ∨ Stranded listener (machine.trace {} inputs)) :=
  ⟨(run_kept inputs).attached listener,(run_kept inputs).held listener⟩

-- Events come one after the other, and whoever joins a service or brings it an
-- event finds it to be the client's.
def Serial (s : RecognitionClient) : RecognitionClientInput → Prop
  | .join position => ∀ joiner ∈ s.joining[position]?, s.recognitionService = some joiner.1
  | .takeSnapshot position => ∀ event ∈ s.events[position]?, s.deliveries = [] ∧ s.recognitionService = some event.1
  | _ => True

instance (s : RecognitionClient) (input : RecognitionClientInput) : Decidable (s.Serial input) := by
  cases input <;> unfold Serial <;> infer_instance

def eventTo (listener : Nat) : RecognitionClientOutput → Option UserRecognitionResult
  | .event other result => if other = listener then some result else none
  | _ => none

def lastEvent (listener : Nat) (h : List RecognitionClientOutput) : Option UserRecognitionResult :=
  (h.filterMap (eventTo listener)).getLast?

theorem lastEvent_quiet (quiet : ∀ output ∈ more, eventTo listener output = none) :
    lastEvent listener (h ++ more) = lastEvent listener h := by
  unfold lastEvent
  rw [List.filterMap_append,List.filterMap_eq_nil_iff.mpr quiet,List.append_nil]

theorem lastEvent_event (quiet : ∀ output ∈ more, eventTo listener output = none) :
    lastEvent listener (h ++ .event listener result :: more) = some result := by
  unfold lastEvent
  rw [List.filterMap_append,List.filterMap_cons,List.filterMap_eq_nil_iff.mpr quiet]
  simp [eventTo]

structure Informed (s : RecognitionClient) (h : List RecognitionClientOutput) : Prop where
  single : s.deliveries = [] ∨ ∃ rest result, s.deliveries = [(rest,result)] ∧
    ∀ service latest, s.recognitionService = some service → (s.services service).latestResult = some latest →
      latest = result
  told : ∀ listener service latest, s.recognitionService = some service → listener ∈ (s.services service).listeners →
    (s.services service).latestResult = some latest →
      lastEvent listener h = some latest ∨ ∃ rest, s.deliveries = [(rest,latest)] ∧ listener ∈ rest

-- Nobody new, nothing newer and nothing told.
theorem Informed.frame (informed : Informed s h) (deliveries : next.deliveries = s.deliveries)
    (same : ∀ service, next.recognitionService = some service →
      s.recognitionService = some service ∧
        (∀ latest, (next.services service).latestResult = some latest → (s.services service).latestResult = some latest) ∧
          ∀ listener ∈ (next.services service).listeners, listener ∈ (s.services service).listeners)
    (quiet : ∀ listener, ∀ output ∈ more, eventTo listener output = none) : Informed next (h ++ more) := by
  refine ⟨?_,?_⟩
  · rw [deliveries]
    refine informed.single.imp_right ?_
    rintro ⟨rest,result,flying,newest⟩
    refine ⟨rest,result,flying,fun service latest current held => ?_⟩
    obtain ⟨current,latests,_⟩ := same service current
    exact newest service latest current (latests latest held)
  · intro listener service latest current inside held
    obtain ⟨current,latests,inner⟩ := same service current
    rw [deliveries,lastEvent_quiet (quiet listener)]
    exact informed.told listener service latest current (inner listener inside) (latests latest held)

theorem register_informed (kept : Kept s h) (informed : Informed s h) (listener : Option Nat) (subscribed proxy : Bool)
    (ret : ResultCode) : Informed (s.registerUserRecognitionEventListener listener subscribed proxy ret).1
      (h ++ (s.registerUserRecognitionEventListener listener subscribed proxy ret).2) := by
  have refused : ∀ (resultCode : ResultCode) (listener : Nat), ∀ output ∈ [RecognitionClientOutput.refused resultCode],
      eventTo listener output = none := by
    intro resultCode listener output member
    cases List.mem_singleton.mp member
    rfl
  unfold registerUserRecognitionEventListener
  cases listener with
  | none => exact informed.frame rfl (fun _ current => ⟨current,fun _ => id,fun _ => id⟩) (refused _)
  | some listener =>
    dsimp only
    split
    · exact informed.frame rfl (fun _ current => ⟨current,fun _ => id,fun _ => id⟩) (refused _)
    split
    · exact informed.frame rfl (fun _ current => ⟨current,fun _ => id,fun _ => id⟩) nofun
    · split
      · exact informed.frame rfl (fun _ current => ⟨current,fun _ => id,fun _ => id⟩) (refused _)
      · have bare := kept.fresh s.nextService (Nat.le_refl _)
        refine ⟨?_,?_⟩
        · refine informed.single.imp_right ?_
          rintro ⟨rest,result,flying,_⟩
          refine ⟨rest,result,flying,fun service latest current held => ?_⟩
          cases current
          change (s.services s.nextService).latestResult = some latest at held
          rw [bare] at held
          cases held
        · intro listener service latest current inside
          cases current
          change listener ∈ (s.services s.nextService).listeners at inside
          rw [bare] at inside
          cases inside

theorem join_informed (informed : Informed s h) (position : Nat) (serial : s.Serial (.join position)) :
    Informed (s.join position).1 (h ++ (s.join position).2) := by
  unfold join
  split
  · exact informed.frame rfl (fun _ current => ⟨current,fun _ => id,fun _ => id⟩) nofun
  rename_i joined listener found
  have current : s.recognitionService = some joined := serial (joined,listener) found
  dsimp only
  split
  · refine informed.frame rfl (fun _ current => ⟨current,fun _ => id,fun _ => id⟩) ?_
    intro _ output member
    cases List.mem_singleton.mp member
    rfl
  have latest_same : ∀ service, ((s.putService joined {s.services joined with
      listeners:=(s.services joined).listeners ++ [listener]}).services service).latestResult =
        (s.services service).latestResult := by
    intro service
    by_cases same : service = joined
    · subst same
      simp [putService]
    · simp [putService,Function.update_of_ne same]
  refine ⟨?_,?_⟩
  · refine informed.single.imp_right ?_
    rintro ⟨rest,result,flying,newest⟩
    refine ⟨rest,result,flying,fun service latest current held => ?_⟩
    exact newest service latest current ((latest_same service).symm.trans held)
  · intro other service latest there inside held
    have held := (latest_same service).symm.trans held
    cases current.symm.trans there
    have inside : other ∈ (s.services joined).listeners ∨ other = listener := by simpa [putService] using inside
    have quiet : ∀ output ∈ [RecognitionClientOutput.registered listener joined], eventTo other output = none := by
      intro output member
      cases List.mem_singleton.mp member
      rfl
    rw [held,Option.toList_some,List.map_singleton,List.singleton_append]
    by_cases same : listener = other
    · subst same
      exact .inl (lastEvent_event quiet)
    · have unheard : ∀ output ∈ [RecognitionClientOutput.event listener latest,.registered listener joined],
        eventTo other output = none := by
        simp [eventTo,same]
      rw [lastEvent_quiet unheard]
      exact informed.told other joined latest current (inside.resolve_right (Ne.symm same)) held

theorem unregister_informed (informed : Informed s h) (listener : Option Nat) (proxy : Bool) (ret : ResultCode) :
    Informed (s.unregisterUserRecognitionEventListener listener proxy ret).1
      (h ++ (s.unregisterUserRecognitionEventListener listener proxy ret).2) := by
  unfold unregisterUserRecognitionEventListener
  cases listener with
  | none =>
    refine informed.frame rfl (fun _ current => ⟨current,fun _ => id,fun _ => id⟩) ?_
    intro _ output member
    cases List.mem_singleton.mp member
    rfl
  | some listener =>
    dsimp only
    split
    · refine informed.frame rfl (fun _ current => ⟨current,fun _ => id,fun _ => id⟩) ?_
      intro _ output member
      cases List.mem_singleton.mp member
      rfl
    · rename_i left current
      split
      · refine informed.frame rfl (fun _ current => by cases current) ?_
        intro _ output member
        rcases List.mem_cons.mp member with rfl | member
        · rfl
        · cases List.mem_singleton.mp member
          rfl
      · refine informed.frame rfl ?_ ?_
        · intro service there
          change s.recognitionService = some service at there
          cases current.symm.trans there
          refine ⟨current,fun latest held => by simpa [putService] using held,fun other inside => ?_⟩
          have inside : other ∈ (s.services left).listeners.erase listener := by simpa [putService] using inside
          exact List.mem_of_mem_erase inside
        · intro _ output member
          cases List.mem_singleton.mp member
          rfl

theorem takeSnapshot_informed (informed : Informed s h) (position : Nat) (serial : s.Serial (.takeSnapshot position)) :
    Informed (s.takeSnapshot position) h := by
  unfold takeSnapshot
  split
  · exact informed
  rename_i told result found
  obtain ⟨idle,current⟩ := serial (told,result) found
  rw [idle]
  have newest : ∀ service latest, s.recognitionService = some service →
      ((s.putService told {s.services told with latestResult:=some result}).services service).latestResult = some latest →
        latest = result := by
    intro service latest there held
    cases current.symm.trans there
    simpa [putService,eq_comm] using held
  refine ⟨.inr ⟨_,result,rfl,newest⟩,?_⟩
  intro listener service latest there inside held
  have same := newest service latest there held
  cases current.symm.trans there
  refine .inr ⟨_,by rw [same]; rfl,?_⟩
  simpa [putService] using inside

theorem deliver_informed (informed : Informed s h) (position : Nat) :
    Informed (s.deliver position).1 (h ++ (s.deliver position).2) := by
  rcases informed.single with idle | ⟨rest,result,flying,newest⟩
  · have none : s.deliveries[position]? = none := by simp [idle]
    simp only [deliver,none,List.append_nil]
    exact informed
  cases position with
  | succ position =>
    have none : s.deliveries[position + 1]? = none := by simp [flying]
    simp only [deliver,none,List.append_nil]
    exact informed
  | zero =>
    have first : s.deliveries[0]? = some (rest,result) := by simp [flying]
    cases rest with
    | nil =>
      simp only [deliver,first,List.append_nil]
      refine ⟨.inl (by simp [flying]),?_⟩
      intro listener service latest current inside held
      refine .inl ((informed.told listener service latest current inside held).resolve_right ?_)
      rintro ⟨others,same,member⟩
      cases flying.symm.trans same
      cases member
    | cons next rest =>
      simp only [deliver,first]
      refine ⟨.inr ⟨rest,result,by simp [flying],newest⟩,?_⟩
      intro listener service latest current inside held
      have same := newest service latest current held
      subst same
      by_cases here : next = listener
      · subst here
        exact .inl (lastEvent_event nofun)
      · have unheard : ∀ output ∈ [RecognitionClientOutput.event next latest], eventTo listener output = none := by
          simp [eventTo,here]
        rw [lastEvent_quiet unheard]
        rcases informed.told listener service latest current inside held with last | ⟨others,same,member⟩
        · exact .inl last
        · cases flying.symm.trans same
          refine .inr ⟨rest,by simp [flying],(List.mem_cons.mp member).resolve_left (Ne.symm here)⟩

theorem event_informed (informed : Informed s h) (service : Nat) (result : IpcUserRecognitionResult) :
    Informed (s.onUserRecognitionEvent service result) h := by
  unfold onUserRecognitionEvent
  split
  · exact informed
  · exact ⟨informed.single,informed.told⟩

theorem onAddSystemAbility_informed (informed : Informed s h) (proxy : Bool) (ret : ResultCode) :
    Informed (s.onAddSystemAbility proxy ret) h := by
  unfold onAddSystemAbility
  split
  · exact informed
  split
  · exact informed
  rename_i service current
  rw [← List.append_nil h]
  refine informed.frame rfl ?_ nofun
  intro other there
  cases current.symm.trans there
  refine ⟨current,fun latest held => ?_,fun listener inside => by simpa [putService] using inside⟩
  simp [putService] at held

theorem step_informed (kept : Kept s h) (informed : Informed s h) (input : RecognitionClientInput)
    (serial : s.Serial input) :
    Informed (s.step input).1 (h ++ (s.step input).2) := by
  cases input with
  | register listener subscribed proxy ret => exact register_informed kept informed listener subscribed proxy ret
  | join position => exact join_informed informed position serial
  | unregister listener proxy ret => exact unregister_informed informed listener proxy ret
  | onUserRecognitionEvent service result =>
    simp only [step]
    split
    · simpa using event_informed informed service result
    · simpa using informed
  | takeSnapshot position => simpa [step] using takeSnapshot_informed informed position serial
  | deliver position => exact deliver_informed informed position
  | onAddSystemAbility proxy ret => simpa [step] using onAddSystemAbility_informed informed proxy ret
  | onRemoveSystemAbility =>
    simp only [step,onRemoveSystemAbility]
    split
    · simpa using informed
    split
    · simpa using informed
    · simpa using event_informed informed _ _

-- A listener has had the latest result last, however late it came, or is still to
-- be called with it.
theorem listeners_informed (inputs : List RecognitionClientInput) (serial : machine.Meets Serial {} inputs)
    (attached : (machine.after {} inputs).recognitionService = some service ∧
      listener ∈ ((machine.after {} inputs).services service).listeners)
    (latest : ((machine.after {} inputs).services service).latestResult = some result) :
    lastEvent listener (machine.trace {} inputs) = some result ∨
      ∃ rest, (machine.after {} inputs).deliveries = [(rest,result)] ∧ listener ∈ rest := by
  have start : Kept {} [] ∧ Informed {} [] :=
    ⟨initial_kept,.inl rfl,fun _ _ _ none => by cases none⟩
  have run := Mealy.guarded_history (P:=fun s h => Kept s h ∧ Informed s h)
    (fun s h input both serial => ⟨step_kept both.1 input,step_informed both.1 both.2 input serial⟩) start serial
  simp only [List.nil_append] at run
  exact run.2.told listener service result attached.1 attached.2 latest

def lateListener : List RecognitionClientInput :=
  [.register (some 1) true true ResultCode.SUCCESS,.join 0,.onUserRecognitionEvent 0 {status:=UserRecognitionStatus.MATCH},
    .takeSnapshot 0,.deliver 0,.register (some 2) true true ResultCode.SUCCESS,.join 0]

theorem listeners_informed_late :
    lastEvent 2 (machine.trace {} lateListener) = some {status:=UserRecognitionStatus.MATCH} ∨
      ∃ rest, (machine.after {} lateListener).deliveries = [(rest,{status:=UserRecognitionStatus.MATCH})] ∧ 2 ∈ rest :=
  listeners_informed lateListener (by decide) (by decide : _ = some 0 ∧ _) (by decide)

end RecognitionClient
end UserAuth
