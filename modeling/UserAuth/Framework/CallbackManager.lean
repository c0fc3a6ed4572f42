import Mathlib.Data.List.Nodup
import Mathlib.Logic.Function.Basic
import Std.Data.ExtTreeMap
import UserAuth.Common.Defines
import UserAuth.Lib.History
import UserAuth.Lib.Mealy

namespace UserAuth
open Std

-- The clients of a process. Each has a proxy of its own, with a death recipient.
inductive ServiceClient where
  | userAuth | userAuthNapi | userIdm | userAccessCtrl | coAuth
  deriving DecidableEq,Repr

def ServiceClient.all : List ServiceClient := [.userAuth,.userAuthNapi,.userIdm,.userAccessCtrl,.coAuth]

-- A callback that a request hands to the service: for which start of the service
-- it was made, and `ref`, since its address is used again once it is gone.
structure CallbackStub where
  ref : Nat
  client : ServiceClient
  start : Nat
  deriving DecidableEq

-- One process of the CallbackManager and its clients.
structure ClientProcess where
  callbackActionMap : ExtTreeMap Nat CallbackStub := ∅
  stubs : ExtTreeMap Nat CallbackStub := ∅
  nextRef : Nat := 0
  service : Option Nat := none
  starts : Nat := 0
  proxies : ServiceClient → Option Nat := fun _ => none
  -- Deaths on their way to a client's recipient.
  deaths : List (ServiceClient × Nat) := []

inductive CallbackOutput where
  | created (ref : Nat)
  | destroyed (ref : Nat)
  | onServiceDeath (client : ServiceClient) (start : Nat)
  -- What the action of a callback gives its caller.
  | defaultResult (ref : Nat)
  | onResult (ref : Nat) (resultCode : ResultCode)
  deriving DecidableEq

inductive ClientProcessInput where
  | startService
  | serviceDies
  | request (client : ServiceClient) (address : Nat)
  | onResult (address : Nat) (resultCode : ResultCode)
  | release (address : Nat)
  | onRemoteDied (client : ServiceClient) (start : Nat)

namespace ClientProcess
variable (s : ClientProcess)

-- A proxy is kept, also of a service that is gone.
def getProxy (client : ServiceClient) : ClientProcess × Option Nat :=
  match s.proxies client with
  | some start => (s,some start)
  | none =>
    match s.service with
    | none => (s,none)
    | some start => ({s with proxies:=Function.update s.proxies client (some start)},some start)

-- The constructor of a callback, which adds its action, and its destructor.
def create (address : Nat) (stub : CallbackStub) : ClientProcess :=
  {s with
    callbackActionMap:=s.callbackActionMap.insertIfNew address stub
    stubs:=s.stubs.insert address stub
    nextRef:=s.nextRef + 1}

def destroy (address : Nat) : ClientProcess :=
  {s with callbackActionMap:=s.callbackActionMap.erase address,stubs:=s.stubs.erase address}

-- A call of a service that is gone fails, and the callback goes with it.
def request (client : ServiceClient) (address : Nat) : ClientProcess × List CallbackOutput :=
  if address ∈ s.stubs then (s,[])
  else
    match s.getProxy client with
    | (s,none) => (s,[])
    | (s,some start) =>
      let created := s.create address ⟨s.nextRef,client,start⟩
      if s.service = some start then (created,[.created s.nextRef])
      else (created.destroy address,[.created s.nextRef,.destroyed s.nextRef])

def onResult (address : Nat) (resultCode : ResultCode) : List CallbackOutput :=
  match s.stubs[address]? with
  | none => []
  | some stub => if s.service = some stub.start then [.onResult stub.ref resultCode] else []

def release (address : Nat) : ClientProcess × List CallbackOutput :=
  match s.stubs[address]? with
  | none => (s,[])
  | some stub => (s.destroy address,[.destroyed stub.ref])

def onServiceDeath : ClientProcess × List CallbackOutput :=
  ({s with callbackActionMap:=∅},s.callbackActionMap.toList.map fun entry => .defaultResult entry.2.ref)

def resetProxy (client : ServiceClient) (start : Nat) : ClientProcess :=
  if s.proxies client = some start then {s with proxies:=Function.update s.proxies client none} else s

def onRemoteDied (client : ServiceClient) (start : Nat) : ClientProcess × List CallbackOutput :=
  if (client,start) ∈ s.deaths then
    let told := {s with deaths:=s.deaths.erase (client,start)}.onServiceDeath
    (told.1.resetProxy client start,.onServiceDeath client start :: told.2)
  else (s,[])

def startService : ClientProcess :=
  match s.service with
  | some _ => s
  | none => {s with service:=some s.starts,starts:=s.starts + 1}

def serviceDies : ClientProcess :=
  match s.service with
  | none => s
  | some start =>
    let reports := (ServiceClient.all.filter fun client => s.proxies client = some start).map (·,start)
    {s with service:=none,deaths:=s.deaths ++ reports}

def step (s : ClientProcess) : ClientProcessInput → ClientProcess × List CallbackOutput
  | .startService => (s.startService,[])
  | .serviceDies => (s.serviceDies,[])
  | .request client address => s.request client address
  | .onResult address resultCode => (s,s.onResult address resultCode)
  | .release address => s.release address
  | .onRemoteDied client start => s.onRemoteDied client start

def machine : Mealy ClientProcess ClientProcessInput CallbackOutput := ⟨step⟩

end ClientProcess

namespace CallbackOutput
variable {h : List CallbackOutput}

def Lives (ref : Nat) (h : List CallbackOutput) : Prop := .created ref ∈ h ∧ .destroyed ref ∉ h

-- A death was handled while the callback was there.
def Struck (ref : Nat) (h : List CallbackOutput) : Prop :=
  ∃ before client start after, h = before ++ .onServiceDeath client start :: after ∧ Lives ref before

-- Whatever a caller is given comes through a callback that is there.
def Living (before : List CallbackOutput) : CallbackOutput → Prop
  | .defaultResult ref => Lives ref before
  | .onResult ref _ => Lives ref before
  | _ => True

theorem struck_concat : Struck ref (h ++ [event]) ↔
    Struck ref h ∨ (∃ client start, event = .onServiceDeath client start) ∧ Lives ref h := by
  constructor
  · rintro ⟨before,client,start,after,split,lives⟩
    rcases List.eq_nil_or_concat after with rfl | ⟨after,last,rfl⟩
    · obtain ⟨rfl,same⟩ := List.append_inj' split rfl
      cases same
      exact .inr ⟨⟨client,start,rfl⟩,lives⟩
    · rw [List.concat_eq_append,← List.cons_append,← List.append_assoc] at split
      obtain ⟨rfl,_⟩ := List.append_inj' split rfl
      exact .inl ⟨before,client,start,after,rfl,lives⟩
  · rintro (⟨before,client,start,after,rfl,lives⟩ | ⟨⟨client,start,rfl⟩,lives⟩)
    · exact ⟨before,client,start,after ++ [event],by simp,lives⟩
    · exact ⟨h,client,start,[],rfl,lives⟩

theorem struck_append (quiet : ∀ event ∈ more, ∀ client start, event ≠ .onServiceDeath client start) :
    Struck ref (h ++ more) ↔ Struck ref h := by
  induction more using List.reverseRecOn with
  | nil => rw [List.append_nil]
  | append_singleton more last ih =>
    have earlier := ih fun event member => quiet event (List.mem_append_left _ member)
    rw [← List.append_assoc,struck_concat,earlier]
    refine or_iff_left ?_
    rintro ⟨⟨client,start,same⟩,_⟩
    exact quiet last (List.mem_append_right _ List.mem_cons_self) client start same

theorem struck_created (struck : Struck ref h) : .created ref ∈ h := by
  obtain ⟨before,_,_,_,rfl,lives⟩ := struck
  exact List.mem_append_left _ lives.1

-- Neither made nor taken away by other outputs.
theorem lives_append (none : ∀ event ∈ more, event ≠ .created ref ∧ event ≠ .destroyed ref) :
    Lives ref (h ++ more) ↔ Lives ref h := by
  have made : .created ref ∉ more := fun member => (none _ member).1 rfl
  have gone : .destroyed ref ∉ more := fun member => (none _ member).2 rfl
  simp [Lives,made,gone]

end CallbackOutput

namespace ClientProcess
open CallbackOutput
variable {s : ClientProcess} {h : List CallbackOutput}

structure Kept (s : ClientProcess) (h : List CallbackOutput) : Prop where
  held : ∀ (address : Nat) (stub : CallbackStub), s.stubs[address]? = some stub → Lives stub.ref h
  known : ∀ ref, Lives ref h → ∃ (address : Nat) (stub : CallbackStub), s.stubs[address]? = some stub ∧ stub.ref = ref
  single : ∀ (address other : Nat) (stub same : CallbackStub), s.stubs[address]? = some stub →
    s.stubs[other]? = some same →
    stub.ref = same.ref → address = other
  actions : ∀ (address : Nat) (stub : CallbackStub), s.callbackActionMap[address]? = some stub ↔
    s.stubs[address]? = some stub ∧ ¬Struck stub.ref h
  bounded : ∀ ref, .created ref ∈ h ∨ .destroyed ref ∈ h → ref < s.nextRef
  given : ∀ ref, .defaultResult ref ∈ h ↔ Struck ref h
  once : ∀ ref, h.count (.defaultResult ref) ≤ 1
  living : History.Each Living h
  served : ∀ (address : Nat) (stub : CallbackStub), s.stubs[address]? = some stub → ¬Struck stub.ref h →
    s.proxies stub.client = some stub.start
  reported : ∀ client start, s.proxies client = some start → s.service = some start ∨ (client,start) ∈ s.deaths

theorem initial_kept : Kept {} [] where
  held address stub held := by simp at held
  known ref lives := by cases lives.1
  single address other stub same held := by simp at held
  actions address stub := by simp
  bounded ref made := by simp at made
  given ref := by
    refine iff_of_false List.not_mem_nil ?_
    intro struck
    cases struck_created struck
  once ref := by simp
  living := History.each_nil _
  served address stub held := by simp at held
  reported client start proxied := by cases proxied

-- The clients' proxies and the service may change, as long as a death is reported.
theorem Kept.moved (kept : Kept s h)
    (proxies : ∀ client start, s.proxies client = some start → next.proxies client = some start)
    (reported : ∀ client start, next.proxies client = some start → next.service = some start ∨
      (client,start) ∈ next.deaths)
    (same : next.callbackActionMap = s.callbackActionMap ∧ next.stubs = s.stubs ∧ next.nextRef = s.nextRef) :
      Kept next h := by
  obtain ⟨map,stubs,nextRef⟩ := same
  refine {kept with held:=?_,known:=?_,single:=?_,actions:=?_,bounded:=?_,served:=?_,reported}
  · rw [stubs]
    exact kept.held
  · rw [stubs]
    exact kept.known
  · rw [stubs]
    exact kept.single
  · rw [stubs,map]
    exact kept.actions
  · rw [nextRef]
    exact kept.bounded
  · rw [stubs]
    intro address stub held free
    exact proxies _ _ (kept.served address stub held free)

theorem getProxy_cases (s : ClientProcess) (client : ServiceClient) :
    (∃ start, s.proxies client = some start ∧ s.getProxy client = (s,some start)) ∨ s.getProxy client = (s,none) ∨
      ∃ start, s.proxies client = none ∧ s.service = some start ∧
        s.getProxy client = ({s with proxies:=Function.update s.proxies client (some start)},some start) := by
  unfold getProxy
  split
  · rename_i start proxied
    exact .inl ⟨start,proxied,rfl⟩
  · rename_i proxied
    split
    · exact .inr (.inl rfl)
    · rename_i start running
      exact .inr (.inr ⟨start,proxied,running,rfl⟩)

theorem getProxy_kept (kept : Kept s h) (client : ServiceClient) : Kept (s.getProxy client).1 h := by
  rcases s.getProxy_cases client with ⟨start,_,same⟩ | same | ⟨start,proxied,running,same⟩
  · rw [same]
    exact kept
  · rw [same]
    exact kept
  · rw [same]
    refine kept.moved ?_ ?_ ⟨rfl,rfl,rfl⟩
    · intro other start' held
      have apart : other ≠ client := fun same => by rw [same,proxied] at held; cases held
      simpa [Function.update_of_ne apart] using held
    · intro other start' held
      change Function.update s.proxies client (some start) other = some start' at held
      by_cases same : other = client
      · rw [same,Function.update_self] at held
        cases held
        exact .inl running
      · rw [Function.update_of_ne same] at held
        exact kept.reported other start' held

-- A proxy that is got is the client's own from then on.
theorem getProxy_proxied (found : (s.getProxy client).2 = some start) :
    (s.getProxy client).1.proxies client = some start := by
  rcases s.getProxy_cases client with ⟨start',proxied,same⟩ | same | ⟨start',_,_,same⟩
  · rw [same] at found ⊢
    exact proxied.trans found
  · rw [same] at found
    cases found
  · rw [same] at found ⊢
    cases found
    exact Function.update_self ..

theorem getProxy_same (s : ClientProcess) (client : ServiceClient) :
    (s.getProxy client).1.stubs = s.stubs ∧ (s.getProxy client).1.nextRef = s.nextRef := by
  rcases s.getProxy_cases client with ⟨_,_,same⟩ | same | ⟨_,_,_,same⟩ <;> rw [same] <;> exact ⟨rfl,rfl⟩

theorem startService_kept (kept : Kept s h) : Kept s.startService h := by
  unfold startService
  cases running : s.service with
  | some start => exact kept
  | none =>
    refine kept.moved (fun _ _ => id) ?_ ⟨rfl,rfl,rfl⟩
    intro client start proxied
    rcases kept.reported client start proxied with served | pending
    · rw [running] at served
      cases served
    · exact .inr pending

theorem serviceDies_kept (kept : Kept s h) : Kept s.serviceDies h := by
  unfold serviceDies
  cases running : s.service with
  | none => exact kept
  | some start =>
    refine kept.moved (fun _ _ => id) ?_ ⟨rfl,rfl,rfl⟩
    intro client start' proxied
    refine .inr (List.mem_append.mpr ?_)
    rcases kept.reported client start' proxied with served | pending
    · rw [running] at served
      cases served
      refine .inr (List.mem_map.mpr ⟨client,List.mem_filter.mpr ⟨?_,by simpa using proxied⟩,rfl⟩)
      cases client <;> decide
    · exact .inl pending

theorem create_kept (kept : Kept s h) (free : address ∉ s.stubs) (proxied : s.proxies client = some start) :
    Kept (s.create address ⟨s.nextRef,client,start⟩) (h ++ [.created s.nextRef]) := by
  have fresh : ∀ {ref}, .created ref ∈ h ∨ .destroyed ref ∈ h → ref ≠ s.nextRef :=
    fun made => Nat.ne_of_lt (kept.bounded _ made)
  have quiet : ∀ ref, Struck ref (h ++ [.created s.nextRef]) ↔ Struck ref h := by
    intro ref
    apply struck_append
    intro event member client start
    cases List.mem_singleton.mp member
    exact nofun
  have unstruck : ¬Struck s.nextRef h := fun struck => fresh (.inl (struck_created struck)) rfl
  have lives : ∀ ref, Lives ref (h ++ [.created s.nextRef]) ↔ Lives ref h ∨ ref = s.nextRef := by
    intro ref
    have last : .destroyed s.nextRef ∉ h := fun gone => fresh (.inr gone) rfl
    by_cases same : ref = s.nextRef
    · subst same
      simp [Lives,last]
    · simp [Lives,same]
  have found : ∀ other, (s.create address ⟨s.nextRef,client,start⟩).stubs[other]? =
      if address = other then some ⟨s.nextRef,client,start⟩ else s.stubs[other]? := by
    intro other
    simp [create,ExtTreeMap.getElem?_insert]
  have none : s.stubs[address]? = none := ExtTreeMap.getElem?_eq_none free
  refine ⟨?_,?_,?_,?_,?_,?_,?_,?_,?_,kept.reported⟩
  · intro other stub held
    rw [found] at held
    split at held
    · cases held
      exact (lives _).mpr (.inr rfl)
    · exact (lives _).mpr (.inl (kept.held other stub held))
  · intro ref alive
    rcases (lives ref).mp alive with alive | rfl
    · obtain ⟨other,stub,held,same⟩ := kept.known ref alive
      refine ⟨other,stub,?_,same⟩
      rw [found,if_neg]
      · exact held
      · rintro rfl
        rw [none] at held
        cases held
    · exact ⟨address,⟨s.nextRef,client,start⟩,(found address).trans (if_pos rfl),rfl⟩
  · intro one other stub same held held' equal
    rw [found] at held held'
    split at held
    · rename_i here
      split at held'
      · rename_i there
        exact here.symm.trans there
      · cases held
        exact absurd equal.symm (fresh (.inl (kept.held other same held').1))
    · split at held'
      · cases held'
        exact absurd equal (fresh (.inl (kept.held one stub held).1))
      · exact kept.single one other stub same held held' equal
  · intro other stub
    have absent : address ∉ s.callbackActionMap := by
      intro present
      have held := (kept.actions address _).mp (ExtTreeMap.getElem?_eq_some_getElem present)
      rw [none] at held
      cases held.1
    rw [quiet,found]
    have action : (s.create address ⟨s.nextRef,client,start⟩).callbackActionMap[other]? =
        if address = other then some ⟨s.nextRef,client,start⟩ else s.callbackActionMap[other]? := by
      simp [create,ExtTreeMap.getElem?_insertIfNew,absent]
    rw [action]
    split
    · constructor
      · intro same
        cases same
        exact ⟨rfl,unstruck⟩
      · exact And.left
    · exact kept.actions other stub
  · intro ref made
    simp only [List.mem_append,List.mem_singleton,CallbackOutput.created.injEq,reduceCtorEq,or_false] at made
    change ref < s.nextRef + 1
    rcases made with (made | rfl) | gone
    · exact Nat.lt_succ_of_lt (kept.bounded ref (.inl made))
    · exact Nat.lt_succ_self _
    · exact Nat.lt_succ_of_lt (kept.bounded ref (.inr gone))
  · intro ref
    rw [quiet,← kept.given ref]
    simp
  · intro ref
    rw [List.count_append]
    simpa using kept.once ref
  · exact History.each_concat.mpr ⟨kept.living,trivial⟩
  · intro other stub held free
    rw [quiet] at free
    rw [found] at held
    split at held
    · cases held
      exact proxied
    · exact kept.served other stub held free

theorem destroy_kept (kept : Kept s h) (there : s.stubs[address]? = some gone) :
    Kept (s.destroy address) (h ++ [.destroyed gone.ref]) := by
  have quiet : ∀ ref, Struck ref (h ++ [.destroyed gone.ref]) ↔ Struck ref h := by
    intro ref
    apply struck_append
    intro event member client start
    cases List.mem_singleton.mp member
    exact nofun
  have lives : ∀ ref, Lives ref (h ++ [.destroyed gone.ref]) ↔ Lives ref h ∧ ref ≠ gone.ref := by
    intro ref
    by_cases same : ref = gone.ref
    · subst same
      simp [Lives]
    · simp [Lives,same]
  have found : ∀ other, (s.destroy address).stubs[other]? = if address = other then none else s.stubs[other]? := by
    intro other
    simp [destroy,ExtTreeMap.getElem?_erase]
  have apart : ∀ {other stub}, address ≠ other → s.stubs[other]? = some stub → stub.ref ≠ gone.ref := by
    intro other stub apart held same
    exact apart (kept.single address other gone stub there held same.symm)
  refine ⟨?_,?_,?_,?_,?_,?_,?_,?_,?_,kept.reported⟩
  · intro other stub held
    rw [found] at held
    split at held
    · cases held
    · rename_i other
      exact (lives _).mpr ⟨kept.held _ stub held,apart other held⟩
  · intro ref alive
    obtain ⟨alive,apart⟩ := (lives ref).mp alive
    obtain ⟨other,stub,held,same⟩ := kept.known ref alive
    refine ⟨other,stub,?_,same⟩
    rw [found,if_neg]
    · exact held
    · rintro rfl
      rw [there] at held
      cases held
      exact apart same.symm
  · intro one other stub same held held' equal
    rw [found] at held held'
    split at held
    · cases held
    split at held'
    · cases held'
    exact kept.single one other stub same held held' equal
  · intro other stub
    have action : (s.destroy address).callbackActionMap[other]? =
        if address = other then none else s.callbackActionMap[other]? := by
      simp [destroy,ExtTreeMap.getElem?_erase]
    rw [quiet,found,action]
    split
    · simp
    · exact kept.actions other stub
  · intro ref made
    simp only [List.mem_append,List.mem_singleton,CallbackOutput.destroyed.injEq,reduceCtorEq,or_false] at made
    rcases made with made | gone | rfl
    · exact kept.bounded ref (.inl made)
    · exact kept.bounded ref (.inr gone)
    · exact kept.bounded _ (.inl (kept.held address gone there).1)
  · intro ref
    rw [quiet,← kept.given ref]
    simp
  · intro ref
    rw [List.count_append]
    simpa using kept.once ref
  · exact History.each_concat.mpr ⟨kept.living,trivial⟩
  · intro other stub held free
    rw [quiet] at free
    rw [found] at held
    split at held
    · cases held
    · exact kept.served other stub held free

theorem request_kept (kept : Kept s h) (client : ServiceClient) (address : Nat) :
    Kept (s.request client address).1 (h ++ (s.request client address).2) := by
  unfold request
  split
  · simpa using kept
  rename_i free
  have got := getProxy_kept kept client
  obtain ⟨stubs,_⟩ := s.getProxy_same client
  cases found : s.getProxy client with
  | mk next answer =>
    rw [found] at got stubs
    cases answer with
    | none => simpa using got
    | some start =>
      have proxied := getProxy_proxied (congrArg Prod.snd found)
      rw [found] at proxied
      have made := create_kept got (by rwa [stubs] : address ∉ next.stubs) proxied
      dsimp only
      split
      · exact made
      · have there : (next.create address ⟨next.nextRef,client,start⟩).stubs[address]? =
          some ⟨next.nextRef,client,start⟩ := by
          simp [create]
        simpa using destroy_kept made there

theorem release_kept (kept : Kept s h) (address : Nat) : Kept (s.release address).1 (h ++ (s.release address).2) := by
  unfold release
  split
  · simpa using kept
  · rename_i stub there
    exact destroy_kept kept there

theorem onResult_kept (kept : Kept s h) (address : Nat) (resultCode : ResultCode) :
    Kept s (h ++ s.onResult address resultCode) := by
  unfold onResult
  split
  · simpa using kept
  rename_i stub there
  split
  · have quiet : ∀ ref, Struck ref (h ++ [.onResult stub.ref resultCode]) ↔ Struck ref h := by
      intro ref
      apply struck_append
      intro event member client start
      cases List.mem_singleton.mp member
      exact nofun
    have lives : ∀ ref, Lives ref (h ++ [.onResult stub.ref resultCode]) ↔ Lives ref h := by
      intro ref
      apply lives_append
      intro event member
      cases List.mem_singleton.mp member
      exact ⟨nofun,nofun⟩
    refine {kept with held:=?_,known:=?_,actions:=?_,bounded:=?_,given:=?_,once:=?_,living:=?_,served:=?_}
    · intro other held there
      exact (lives _).mpr (kept.held other held there)
    · intro ref alive
      exact kept.known ref ((lives ref).mp alive)
    · intro other held
      rw [quiet]
      exact kept.actions other held
    · intro ref made
      exact kept.bounded ref (by simpa using made)
    · intro ref
      rw [quiet,← kept.given ref]
      simp
    · intro ref
      rw [List.count_append]
      simpa using kept.once ref
    · exact History.each_concat.mpr ⟨kept.living,kept.held address stub there⟩
    · intro other held there free
      rw [quiet] at free
      exact kept.served other held there free
  · simpa using kept

theorem mem_defaults (s : ClientProcess) (ref : Nat) : .defaultResult ref ∈ s.onServiceDeath.2 ↔
    ∃ (address : Nat) (stub : CallbackStub), s.callbackActionMap[address]? = some stub ∧ stub.ref = ref := by
  unfold onServiceDeath
  simp only [List.mem_map,CallbackOutput.defaultResult.injEq]
  constructor
  · rintro ⟨⟨address,stub⟩,member,same⟩
    exact ⟨address,stub,ExtTreeMap.mem_toList_iff_getElem?_eq_some.mp member,same⟩
  · rintro ⟨address,stub,held,same⟩
    exact ⟨(address,stub),ExtTreeMap.mem_toList_iff_getElem?_eq_some.mpr held,same⟩

theorem defaults_only (member : event ∈ s.onServiceDeath.2) : ∃ ref, event = .defaultResult ref := by
  obtain ⟨entry,_,rfl⟩ := List.mem_map.mp member
  exact ⟨_,rfl⟩

-- No two actions are of one callback.
theorem defaults_nodup (kept : Kept s h) : s.onServiceDeath.2.Nodup := by
  unfold onServiceDeath
  have distinct : s.callbackActionMap.toList.Nodup :=
    ExtTreeMap.distinct_keys_toList.imp fun apart same => apart (by simp [same])
  refine List.Nodup.map_on ?_ distinct
  rintro ⟨address,stub⟩ member ⟨other,same⟩ member' equal
  have held := (kept.actions address stub).mp (ExtTreeMap.mem_toList_iff_getElem?_eq_some.mp member)
  have held' := (kept.actions other same).mp (ExtTreeMap.mem_toList_iff_getElem?_eq_some.mp member')
  have here := kept.single address other stub same held.1 held'.1 (by simpa using equal)
  rw [here,held'.1] at held
  cases held.1
  rw [here]

theorem living_more (each : History.Each Living h)
    (alive : ∀ event ∈ more, ∃ ref, event = .defaultResult ref ∧ Lives ref h) :
    History.Each Living (h ++ more) := by
  induction more using List.reverseRecOn with
  | nil => rwa [List.append_nil]
  | append_singleton more last ih =>
    have earlier := ih fun event member => alive event (List.mem_append_left _ member)
    obtain ⟨ref,rfl,lives⟩ := alive last (List.mem_append_right _ List.mem_cons_self)
    rw [← List.append_assoc]
    refine History.each_concat.mpr ⟨earlier,(lives_append ?_).mpr lives⟩
    intro event member
    obtain ⟨_,rfl,_⟩ := alive event (List.mem_append_left _ member)
    exact ⟨nofun,nofun⟩

theorem resetProxy_same (s : ClientProcess) (client : ServiceClient) (start : Nat) :
    (s.resetProxy client start).stubs = s.stubs ∧ (s.resetProxy client start).callbackActionMap = s.callbackActionMap ∧
      (s.resetProxy client start).nextRef = s.nextRef ∧ (s.resetProxy client start).service = s.service ∧
      (s.resetProxy client start).deaths = s.deaths := by
  unfold resetProxy
  split <;> exact ⟨rfl,rfl,rfl,rfl,rfl⟩

theorem resetProxy_proxied (s : ClientProcess) (client : ServiceClient) (start : Nat) (other : ServiceClient)
    (start' : Nat) :
    (s.resetProxy client start).proxies other = some start' ↔
      s.proxies other = some start' ∧ (other,start') ≠ (client,start) := by
  unfold resetProxy
  split
  · rename_i held
    dsimp only
    by_cases here : other = client
    · subst here
      rw [Function.update_self,held]
      simp [eq_comm]
    · rw [Function.update_of_ne here]
      simp [here]
  · rename_i other_held
    refine (and_iff_left_of_imp ?_).symm
    intro proxied same
    cases same
    exact other_held proxied

theorem onRemoteDied_kept (kept : Kept s h) (client : ServiceClient) (start : Nat) :
    Kept (s.onRemoteDied client start).1 (h ++ (s.onRemoteDied client start).2) := by
  unfold onRemoteDied
  split
  swap
  · simpa using kept
  have quiet : ∀ event ∈ s.onServiceDeath.2, ∀ client start, event ≠ .onServiceDeath client start := by
    intro event member client start
    obtain ⟨ref,rfl⟩ := defaults_only member
    exact nofun
  have lives : ∀ ref, Lives ref (h ++ .onServiceDeath client start :: s.onServiceDeath.2) ↔ Lives ref h := by
    intro ref
    apply lives_append
    intro event member
    rcases List.mem_cons.mp member with rfl | member
    · exact ⟨nofun,nofun⟩
    · obtain ⟨ref,rfl⟩ := defaults_only member
      exact ⟨nofun,nofun⟩
  have struck : ∀ ref, Struck ref (h ++ .onServiceDeath client start :: s.onServiceDeath.2) ↔
      Struck ref h ∨ Lives ref h := by
    intro ref
    rw [List.append_cons,struck_append quiet,struck_concat]
    exact or_congr_right (and_iff_right ⟨client,start,rfl⟩)
  have defaults : ∀ ref, .defaultResult ref ∈ s.onServiceDeath.2 ↔ Lives ref h ∧ ¬Struck ref h := by
    intro ref
    rw [mem_defaults]
    constructor
    · rintro ⟨address,stub,held,rfl⟩
      obtain ⟨there,free⟩ := (kept.actions address stub).mp held
      exact ⟨kept.held address stub there,free⟩
    · rintro ⟨alive,free⟩
      obtain ⟨address,stub,there,rfl⟩ := kept.known ref alive
      exact ⟨address,stub,(kept.actions address stub).mpr ⟨there,free⟩,rfl⟩
  have moved := resetProxy_same {s with deaths:=s.deaths.erase (client,start),callbackActionMap:=∅} client start
  have proxied := resetProxy_proxied {s with deaths:=s.deaths.erase (client,start),callbackActionMap:=∅} client start
  change Kept ({s with deaths:=s.deaths.erase (client,start),callbackActionMap:=∅}.resetProxy client start)
    (h ++ .onServiceDeath client start :: s.onServiceDeath.2)
  generalize {s with deaths:=s.deaths.erase (client,start),callbackActionMap:=∅}.resetProxy client start = next
    at moved proxied ⊢
  obtain ⟨stubs,map,nextRef,service,deaths⟩ := moved
  have there : ∀ address : Nat, next.stubs[address]? = s.stubs[address]? := fun address => by rw [stubs]
  refine ⟨?_,?_,?_,?_,?_,?_,?_,?_,?_,?_⟩
  · intro address stub held
    exact (lives _).mpr (kept.held address stub ((there address).symm.trans held))
  · intro ref alive
    obtain ⟨address,stub,held,same⟩ := kept.known ref ((lives ref).mp alive)
    exact ⟨address,stub,(there address).trans held,same⟩
  · intro address other stub same held held'
    exact kept.single address other stub same ((there address).symm.trans held) ((there other).symm.trans held')
  · intro address stub
    rw [map,there,struck]
    constructor
    · intro held
      cases ExtTreeMap.getElem?_empty.symm.trans held
    · rintro ⟨held,free⟩
      exact absurd (.inr (kept.held address stub held)) free
  · intro ref made
    rw [nextRef]
    apply kept.bounded ref
    simp only [List.mem_append,List.mem_cons,reduceCtorEq,false_or] at made
    rcases made with (made | made) | (made | made)
    · exact .inl made
    · obtain ⟨_,same⟩ := defaults_only made
      cases same
    · exact .inr made
    · obtain ⟨_,same⟩ := defaults_only made
      cases same
  · intro ref
    rw [struck,List.mem_append,List.mem_cons,kept.given,defaults]
    constructor
    · rintro (struck | same | ⟨alive,_⟩)
      · exact .inl struck
      · cases same
      · exact .inr alive
    · intro either
      by_cases struck : Struck ref h
      · exact .inl struck
      · exact .inr (.inr ⟨either.resolve_left struck,struck⟩)
  · intro ref
    rw [List.count_append,List.count_cons_of_ne (by simp)]
    by_cases struck : Struck ref h
    · have none : s.onServiceDeath.2.count (.defaultResult ref) = 0 :=
        List.count_eq_zero.mpr fun member => ((defaults ref).mp member).2 struck
      have once := kept.once ref
      omega
    · have none : h.count (.defaultResult ref) = 0 :=
        List.count_eq_zero.mpr fun member => struck ((kept.given ref).mp member)
      have once := List.nodup_iff_count_le_one.mp (defaults_nodup kept) (.defaultResult ref)
      omega
  · rw [List.append_cons]
    have marked : History.Each Living (h ++ [.onServiceDeath client start]) :=
      History.each_concat.mpr ⟨kept.living,trivial⟩
    apply living_more marked
    intro event member
    obtain ⟨ref,rfl⟩ := defaults_only member
    refine ⟨ref,rfl,(lives_append ?_).mpr ((defaults ref).mp member).1⟩
    intro event member
    cases List.mem_singleton.mp member
    exact ⟨nofun,nofun⟩
  · intro address stub held free
    exact absurd ((struck _).mpr (.inr (kept.held address stub ((there address).symm.trans held)))) free
  · intro other start' held
    obtain ⟨before,apart⟩ := (proxied other start').mp held
    rw [service,deaths]
    rcases kept.reported other start' before with running | pending
    · exact .inl running
    · exact .inr ((List.mem_erase_of_ne apart).mpr pending)

theorem step_kept (kept : Kept s h) (input : ClientProcessInput) : Kept (s.step input).1 (h ++ (s.step input).2) := by
  cases input with
  | startService => simpa [step] using startService_kept kept
  | serviceDies => simpa [step] using serviceDies_kept kept
  | request client address => exact request_kept kept client address
  | onResult address resultCode => exact onResult_kept kept address resultCode
  | release address => exact release_kept kept address
  | onRemoteDied client start => exact onRemoteDied_kept kept client start

-- A caller gets the default result once for all, if a death is handled while its
-- callback is there, and nothing once that is gone. No callback of a service that
-- is gone is forgotten: its death was handled, or is still on its way to its client.
theorem default_results (inputs : List ClientProcessInput) :
    (∀ ref, (machine.trace {} inputs).count (.defaultResult ref) ≤ 1 ∧
      (.defaultResult ref ∈ machine.trace {} inputs ↔ Struck ref (machine.trace {} inputs))) ∧
    History.Each Living (machine.trace {} inputs) ∧
    ∀ (address : Nat) (stub : CallbackStub), (machine.after {} inputs).stubs[address]? = some stub →
      (machine.after {} inputs).service = some stub.start ∨ .defaultResult stub.ref ∈ machine.trace {} inputs ∨
        (stub.client,stub.start) ∈ (machine.after {} inputs).deaths := by
  have kept : Kept (machine.after {} inputs) (machine.trace {} inputs) :=
    Mealy.history (P:=Kept) (fun _ _ input kept => step_kept kept input) initial_kept inputs
  refine ⟨fun ref => ⟨kept.once ref,kept.given ref⟩,kept.living,?_⟩
  intro address stub there
  by_cases struck : Struck stub.ref (machine.trace {} inputs)
  · exact .inr (.inl ((kept.given _).mpr struck))
  · rcases kept.reported _ _ (kept.served address stub there struck) with running | pending
    · exact .inl running
    · exact .inr (.inr pending)

end ClientProcess
end UserAuth
