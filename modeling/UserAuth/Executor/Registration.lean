import UserAuth.Executor.CoAuthService

namespace UserAuth
open Std

-- The registrations that stand after an event: none is ended but by its own
-- process, which may register the executor anew, by its death, or by the
-- engine's or the service's end.
def Registration.apply (standing : List ResourceNode) : Registration → List ResourceNode
  | .registered node =>
    node :: standing.filter fun old => !(old.process == node.process && old.executorIndex == node.executorIndex)
  | .unregistered process executorIndex =>
    standing.filter fun node => !(node.process == process && node.executorIndex == executorIndex)
  | .died process => standing.filter fun node => node.process != process
  | .cleared => []

def standing (events : List Registration) : List ResourceNode := events.foldl Registration.apply []

theorem standing_append (events later : List Registration) :
    standing (events ++ later) = later.foldl Registration.apply (standing events) := List.foldl_append

namespace CoAuthService

-- The node of a dead process is in the pool only while a death is still to be
-- told under its index.
structure Follows (s : CoAuthService) (events : List Registration) : Prop where
  selectable : ∀ node ∈ standing events, s.pool.select node.executorIndex = some node
  removed : ∀ executorIndex node, s.pool.select executorIndex = some node → s.dead node.process = true →
    ∃ recipient ∈ s.deathRecipients, recipient.executorIndex = executorIndex ∧ s.dead recipient.process = true

def deathsToTell (recipients : List ResourceNode) (dead : Nat → Bool) (executorIndex : UInt64) : Nat :=
  recipients.countP fun recipient => recipient.executorIndex == executorIndex && dead recipient.process

section Conditions
variable (s : CoAuthService)

def grants (process : Nat) (permission : Bool) : Bool := !s.dead process && s.isFwkReady && permission

-- The engine gives out no index that another living process has.
def RegistersFree (process : Nat) (permission : Bool) (answer : Option UInt64) : Prop :=
  s.grants process permission = true → ∀ executorIndex ∈ answer, ∀ node ∈ s.pool.select executorIndex,
    node.process ≠ process → s.dead node.process = true

-- A delete that takes a node out finds one that is its process's own or dead.
def DeletesOwn (process : Nat) (executorIndex : UInt64) : Prop :=
  ∀ param ∈ s.pool[executorIndex]?, param.count ≤ 1 → param.node.process ≠ process → s.dead param.node.process = true

def UnregistersOwn (process : Nat) (permission : Bool) (executorIndex : UInt64) : Prop :=
  s.grants process permission = true → s.DeletesOwn process executorIndex

def ExecutorUnregistersOwn (executor : Nat) (permission : Bool) : Prop :=
  ∀ executorIndex ∈ (s.executors executor).executorIndex,
    s.UnregistersOwn (s.executors executor).process permission executorIndex

-- As many deaths will be told under each index of the process as it takes.
def DiesWatched (process : Nat) : Prop :=
  ∀ entry ∈ s.pool.toList, entry.2.node.process = process →
    entry.2.count ≤ deathsToTell s.deathRecipients (Function.update s.dead process true) entry.1

def NamesOwn : Input → Prop
  | .executorRegister process permission answer => s.RegistersFree process permission answer
  | .executorUnregister process permission executorIndex => s.UnregistersOwn process permission executorIndex
  | .registerExecutorCallback executor permission answer =>
    s.ExecutorUnregistersOwn executor permission ∧
      (s.unregisterExecutorCallback executor permission).1.RegistersFree (s.executors executor).process permission answer
  | .unregisterExecutorCallback executor permission => s.ExecutorUnregistersOwn executor permission
  | .die process => s.DiesWatched process
  | .onRemoteDied node => s.dead node.process = true → node ∈ s.deathRecipients →
      s.DeletesOwn node.process node.executorIndex
  | _ => True

-- Only the index at hand is looked at, not every index there is.
instance : Decidable (s.RegistersFree process permission answer) :=
  @instDecidableForall _ _ _ <| @Option.decidableForallMem _ _ (fun executorIndex =>
    Option.decidableForallMem (s.pool.select executorIndex)) answer

instance : Decidable (s.DeletesOwn process executorIndex) := Option.decidableForallMem s.pool[executorIndex]?

instance : Decidable (s.UnregistersOwn process permission executorIndex) := by
  unfold UnregistersOwn
  infer_instance

instance : Decidable (s.ExecutorUnregistersOwn executor permission) :=
  Option.decidableForallMem (s.executors executor).executorIndex

instance : Decidable (s.DiesWatched process) := by
  unfold DiesWatched
  infer_instance

instance (input : Input) : Decidable (s.NamesOwn input) := by
  cases input <;> dsimp only [NamesOwn] <;> infer_instance

end Conditions

-- Each delete that is to come for a dead process's node is one of a death to
-- be told.
structure Valid (s : CoAuthService) (events : List Registration) : Prop where
  own : ∀ (executorIndex : UInt64) param, s.pool[executorIndex]? = some param →
    0 < param.count ∧ param.node.executorIndex = executorIndex
  selectable : ∀ node ∈ standing events, s.pool.select node.executorIndex = some node
  living : ∀ node ∈ standing events, s.dead node.process = false
  counted : ∀ (executorIndex : UInt64) param, s.pool[executorIndex]? = some param →
    s.dead param.node.process = true → param.count ≤ deathsToTell s.deathRecipients s.dead executorIndex

theorem grants_iff {s : CoAuthService} : s.grants process permission = true ↔
    s.dead process = false ∧ ¬(!s.isFwkReady) = true ∧ ¬(!permission) = true := by
  simp [grants,and_assoc]

theorem deathsToTell_mono (recipients : List ResourceNode) {dead later : Nat → Bool}
    (grown : ∀ process, dead process = true → later process = true) (executorIndex : UInt64) :
    deathsToTell recipients dead executorIndex ≤ deathsToTell recipients later executorIndex := by
  apply List.countP_mono_left
  intro recipient _ counts
  simp only [Bool.and_eq_true] at counts ⊢
  exact ⟨counts.1,grown _ counts.2⟩

-- One death told is one less to tell, under its own index.
theorem deathsToTell_erase (recipients : List ResourceNode) (dead : Nat → Bool) (node : ResourceNode) (executorIndex : UInt64) :
    deathsToTell recipients dead executorIndex ≤
      deathsToTell (recipients.erase node) dead executorIndex + if node.executorIndex = executorIndex then 1 else 0 := by
  by_cases member : node ∈ recipients
  · unfold deathsToTell
    rw [(List.perm_cons_erase member).countP_eq,List.countP_cons]
    by_cases here : node.executorIndex = executorIndex
    · rw [if_pos here]
      split <;> omega
    · simp [here]
  · rw [List.erase_of_not_mem member]
    exact Nat.le_add_right _ _

theorem cleared_valid {s : CoAuthService} (events : List Registration) (empty : s.pool = ∅) :
    s.Valid (events ++ [.cleared]) := by
  have none : standing (events ++ [.cleared]) = [] := by simp [standing_append,Registration.apply]
  refine ⟨?_,?_,?_,?_⟩
  · intro executorIndex param found
    simp [empty] at found
  · simp [none]
  · simp [none]
  · intro executorIndex param found
    simp [empty] at found

theorem unregister_deaths (s : CoAuthService) (executor : Nat) (permission : Bool) :
    (s.unregisterExecutorCallback executor permission).1.dead = s.dead := by
  unfold unregisterExecutorCallback executorUnregister
  split
  · rfl
  · dsimp only
    split
    · rfl
    · split
      · rfl
      · split <;> rfl

namespace Valid
variable {s : CoAuthService} {events : List Registration} (valid : s.Valid events)
include valid

theorem follows : s.Follows events := by
  refine ⟨valid.selectable,?_⟩
  intro executorIndex node there died
  obtain ⟨param,found,rfl⟩ := ResourceNodePool.select_some.mp there
  have told := Nat.lt_of_lt_of_le (valid.own executorIndex param found).1 (valid.counted executorIndex param found died)
  obtain ⟨recipient,set,counts⟩ := List.countP_pos_iff.mp told
  exact ⟨recipient,set,by simpa using counts⟩

theorem selected {node : ResourceNode} {param : ResourceNodeParam ResourceNode} (stood : node ∈ standing events)
    (found : s.pool[node.executorIndex]? = some param) : param.node = node := by
  have there := valid.selectable node stood
  rw [ResourceNodePool.select,found] at there
  exact Option.some.inj there

-- A delete that leaves the node is one of those the index has been inserted for.
theorem lessens {recipients : List ResourceNode} (later : List Registration)
    (found : s.pool[executorIndex]? = some param) (more : 1 < param.count)
    (fewer : ∀ node ∈ standing (events ++ later), node ∈ standing events)
    (told : ∀ other, deathsToTell s.deathRecipients s.dead other ≤
      deathsToTell recipients s.dead other + if executorIndex = other then 1 else 0) :
    {s with
      pool:=s.pool.insert executorIndex {param with count:=param.count - 1},
      deathRecipients:=recipients}.Valid (events ++ later) := by
  refine ⟨?_,?_,fun node member => valid.living node (fewer node member),?_⟩
  · intro other held there
    rw [ResourceNodePool.find_insert] at there
    split at there
    · rename_i same
      cases there
      subst same
      exact ⟨Nat.sub_pos_of_lt more,(valid.own executorIndex param found).2⟩
    · exact valid.own other held there
  · intro node member
    rw [ResourceNodePool.select_insert]
    split
    · rename_i same
      subst same
      exact congrArg some (@selected s events valid node param (fewer node member) found)
    · exact valid.selectable node (fewer node member)
  · intro other held there died
    rw [ResourceNodePool.find_insert] at there
    have left := told other
    split at there
    · rename_i same
      cases there
      subst same
      have enough := valid.counted executorIndex param found died
      rw [if_pos rfl] at left
      dsimp only
      omega
    · rename_i apart
      rw [if_neg apart] at left
      exact Nat.le_trans (valid.counted other held there died) left

-- An index and its node go, with everything that stood for them.
theorem erases {recipients : List ResourceNode} (later : List Registration)
    (fewer : ∀ node ∈ standing (events ++ later), node ∈ standing events ∧ node.executorIndex ≠ executorIndex)
    (told : ∀ other, deathsToTell s.deathRecipients s.dead other ≤
      deathsToTell recipients s.dead other + if executorIndex = other then 1 else 0) :
    {s with pool:=s.pool.erase executorIndex,deathRecipients:=recipients}.Valid (events ++ later) := by
  refine ⟨?_,?_,fun node member => valid.living node (fewer node member).1,?_⟩
  · intro other param found
    rw [ResourceNodePool.find_erase] at found
    split at found
    · cases found
    · exact valid.own other param found
  · intro node member
    obtain ⟨before,apart⟩ := fewer node member
    rw [ResourceNodePool.select_erase,if_neg apart.symm]
    exact valid.selectable node before
  · intro other param found died
    rw [ResourceNodePool.find_erase] at found
    split at found
    · cases found
    · rename_i apart
      have left := told other
      rw [if_neg apart] at left
      exact Nat.le_trans (valid.counted other param found died) left

-- A node comes in, in the place of none or of one that is its process's own or dead.
theorem inserts (node : ResourceNode) (count : Nat) (positive : 0 < count) (alive : s.dead node.process = false)
    (free : ∀ old ∈ s.pool.select node.executorIndex, old.process ≠ node.process → s.dead old.process = true) (next : Nat) :
    {s with pool:=s.pool.insert node.executorIndex ⟨count,node⟩,tasks:=s.tasks ++ [node],nextRef:=next}.Valid
      (events ++ [Registration.registered node]) := by
  have stands : ∀ held ∈ standing (events ++ [.registered node]), held = node ∨
      held ∈ standing events ∧ (held.process = node.process → held.executorIndex ≠ node.executorIndex) := by
    intro held member
    simpa [standing_append,Registration.apply,imp_iff_not_or] using member
  refine ⟨?_,?_,?_,?_⟩
  · intro other param found
    rw [ResourceNodePool.find_insert] at found
    split at found
    · rename_i same
      cases found
      exact ⟨positive,same⟩
    · exact valid.own other param found
  · intro held member
    rw [ResourceNodePool.select_insert]
    rcases stands held member with rfl | ⟨before,apart⟩
    · exact if_pos rfl
    · have there := valid.selectable held before
      rw [if_neg]
      · exact there
      · intro same
        have died := free held (same ▸ there) fun mine => apart mine same.symm
        rw [valid.living held before] at died
        cases died
  · intro held member
    rcases stands held member with rfl | ⟨before,_⟩
    · exact alive
    · exact valid.living held before
  · intro other param found died
    rw [ResourceNodePool.find_insert] at found
    split at found
    · cases found
      rw [alive] at died
      cases died
    · exact valid.counted other param found died

theorem registers (process : Nat) (permission : Bool) (answer : Option UInt64) (alive : s.dead process = false)
    (free : s.RegistersFree process permission answer) :
    (s.executorRegister process permission answer).1.Valid
      (events ++ (s.executorRegister process permission answer).2.2) := by
  unfold executorRegister
  split
  · simpa using valid
  · rename_i ready
    split
    · simpa using valid
    · rename_i permitted
      cases answer with
      | none => simpa using valid
      | some executorIndex =>
        have free := free (grants_iff.mpr ⟨alive,ready,permitted⟩) executorIndex rfl
        dsimp only
        rcases s.pool.insertNode_cases executorIndex ⟨s.nextRef,process,executorIndex⟩ with
          refused | ⟨count,notice,positive,inserted⟩
        · simpa only [refused,List.append_nil] using valid
        · simp only [inserted]
          exact valid.inserts ⟨s.nextRef,process,executorIndex⟩ count positive alive free _

theorem unregisters (process : Nat) (permission : Bool) (executorIndex : UInt64) (alive : s.dead process = false)
    (own : s.UnregistersOwn process permission executorIndex) :
    (s.executorUnregister process permission executorIndex).1.Valid
      (events ++ (s.executorUnregister process permission executorIndex).2.2) := by
  have stands : ∀ node ∈ standing (events ++ [.unregistered process executorIndex]), node ∈ standing events ∧
      (node.process = process → node.executorIndex ≠ executorIndex) := by
    intro node member
    simpa [standing_append,Registration.apply,imp_iff_not_or] using member
  unfold executorUnregister
  split
  · simpa using valid
  · rename_i ready
    split
    · simpa using valid
    · rename_i permitted
      rcases s.pool.delete_cases executorIndex with
        ⟨_,refused⟩ | ⟨param,found,⟨more,deleted⟩ | ⟨last,deleted⟩⟩
      · simpa [refused] using valid
      · simp only [deleted]
        exact valid.lessens _ found more (fun node member => (stands node member).1) fun _ => Nat.le_add_right _ _
      · have spares := own (grants_iff.mpr ⟨alive,ready,permitted⟩) param found last
        simp only [deleted]
        refine valid.erases _ (fun node member => ⟨(stands node member).1,?_⟩) fun _ => Nat.le_add_right _ _
        rintro rfl
        obtain ⟨stood,apart⟩ := stands node member
        have same := valid.selected stood found
        rw [same] at spares
        have died := spares fun mine => apart mine rfl
        rw [valid.living node stood] at died
        cases died

theorem runs_task : s.runTask.1.Valid (events ++ s.runTask.2) := by
  unfold runTask
  split
  · simpa using valid
  · dsimp only
    split
    · rw [List.append_nil]
      refine ⟨valid.own,valid.selectable,valid.living,fun executorIndex param found died => ?_⟩
      refine Nat.le_trans (valid.counted executorIndex param found died) ?_
      exact (List.sublist_append_left _ _).countP_le
    · rw [List.append_nil]
      exact ⟨valid.own,valid.selectable,valid.living,valid.counted⟩

theorem dies (process : Nat) (watched : s.DiesWatched process) :
    {s with dead:=Function.update s.dead process true}.Valid (events ++ [Registration.died process]) := by
  have stands : ∀ node ∈ standing (events ++ [.died process]), node ∈ standing events ∧ node.process ≠ process := by
    intro node member
    simpa [standing_append,Registration.apply] using member
  refine ⟨valid.own,fun node member => valid.selectable node (stands node member).1,?_,?_⟩
  · intro node member
    obtain ⟨stood,other⟩ := stands node member
    simp only [Function.update_of_ne other]
    exact valid.living node stood
  · intro executorIndex param found died
    by_cases mine : param.node.process = process
    · exact watched (executorIndex,param) (ExtTreeMap.mem_toList_iff_getElem?_eq_some.mpr found) mine
    · simp only [Function.update_of_ne mine] at died
      refine Nat.le_trans (valid.counted executorIndex param found died) (deathsToTell_mono _ ?_ _)
      intro other gone
      by_cases same : other = process
      · subst same
        exact Function.update_self other true s.dead
      · exact (Function.update_of_ne same true s.dead).trans gone

theorem tells (node : ResourceNode) (own : s.dead node.process = true → node ∈ s.deathRecipients →
    s.DeletesOwn node.process node.executorIndex) :
    (s.onRemoteDied node).1.Valid (events ++ (s.onRemoteDied node).2) := by
  unfold onRemoteDied
  split
  · simpa using valid
  · rename_i told
    have told : s.dead node.process = true ∧ node ∈ s.deathRecipients := by simpa using told
    have fewer := deathsToTell_erase s.deathRecipients s.dead node
    dsimp only
    rcases s.pool.delete_cases node.executorIndex with
      ⟨absent,refused⟩ | ⟨param,found,⟨more,deleted⟩ | ⟨last,deleted⟩⟩
    · simp only [refused,List.append_nil]
      refine ⟨valid.own,valid.selectable,valid.living,fun executorIndex param found died => ?_⟩
      have enough := valid.counted executorIndex param found died
      have left := fewer executorIndex
      rw [if_neg] at left
      · exact Nat.le_trans enough left
      · rintro rfl
        rw [absent] at found
        cases found
    · simp only [deleted]
      exact valid.lessens [] found more (by simp) fewer
    · simp only [deleted]
      refine valid.erases [] (fun held member => ?_) fewer
      have stood : held ∈ standing events := by simpa using member
      refine ⟨stood,fun same => ?_⟩
      rw [←same] at found
      have held_selected := valid.selected stood found
      have living := valid.living held stood
      by_cases mine : held.process = node.process
      · rw [mine,told.1] at living
        cases living
      · have died := own told.1 told.2 param (same ▸ found) last (held_selected ▸ mine)
        rw [held_selected,living] at died
        cases died

-- What the clients remember and whether the framework is ready is no matter.
theorem ignores {t : CoAuthService} (pool : t.pool = s.pool) (recipients : t.deathRecipients = s.deathRecipients)
    (dead : t.dead = s.dead) : t.Valid events := by
  refine ⟨?_,?_,?_,?_⟩
  · rw [pool]
    exact valid.own
  · rw [pool]
    exact valid.selectable
  · rw [dead]
    exact valid.living
  · rw [pool,recipients,dead]
    exact valid.counted

theorem puts (executor : Nat) (executorIndex : Option UInt64) : (s.putExecutorIndex executor executorIndex).Valid events :=
  valid.ignores rfl rfl rfl

theorem executor_unregisters (executor : Nat) (permission : Bool)
    (alive : s.dead (s.executors executor).process = false) (own : s.ExecutorUnregistersOwn executor permission) :
    (s.unregisterExecutorCallback executor permission).1.Valid
      (events ++ (s.unregisterExecutorCallback executor permission).2) := by
  unfold unregisterExecutorCallback
  split
  · simpa using valid
  · rename_i executorIndex kept
    exact (valid.puts executor none).unregisters _ permission executorIndex alive (own executorIndex kept)

theorem executor_registers (executor : Nat) (permission : Bool) (answer : Option UInt64)
    (alive : s.dead (s.executors executor).process = false)
    (own : s.NamesOwn (.registerExecutorCallback executor permission answer)) :
    (s.registerExecutorCallback executor permission answer).1.Valid
      (events ++ (s.registerExecutorCallback executor permission answer).2) := by
  unfold registerExecutorCallback Mealy.andThen
  dsimp only
  rw [←List.append_assoc]
  have first := valid.executor_unregisters executor permission alive own.1
  have alive : (s.unregisterExecutorCallback executor permission).1.dead (s.executors executor).process = false := by
    rw [unregister_deaths]
    exact alive
  have second := first.registers (s.executors executor).process permission answer alive own.2
  generalize ((s.unregisterExecutorCallback executor permission).1.executorRegister
    (s.executors executor).process permission answer) = registered at second
  generalize (if registered.2.1.1 != ResultCode.SUCCESS then INVALID_EXECUTOR_INDEX else registered.2.1.2) = executorIndex
  split
  · exact second
  · exact second.puts executor _

theorem steps (input : Input) (own : s.NamesOwn input) : (s.step input).1.Valid (events ++ (s.step input).2) := by
  cases input with
  | executorRegister process permission answer =>
    dsimp only [step]
    split
    · simpa using valid
    · rename_i alive
      exact valid.registers process permission answer (Bool.eq_false_iff.mpr alive) own
  | executorUnregister process permission executorIndex =>
    dsimp only [step]
    split
    · simpa using valid
    · rename_i alive
      exact valid.unregisters process permission executorIndex (Bool.eq_false_iff.mpr alive) own
  | registerExecutorCallback executor permission answer =>
    dsimp only [step]
    split
    · simpa using valid
    · rename_i alive
      exact valid.executor_registers executor permission answer (Bool.eq_false_iff.mpr alive) own
  | unregisterExecutorCallback executor permission =>
    dsimp only [step]
    split
    · simpa using valid
    · rename_i alive
      exact valid.executor_unregisters executor permission (Bool.eq_false_iff.mpr alive) own
  | runTask => exact valid.runs_task
  | die process => exact valid.dies process own
  | onRemoteDied node => exact valid.tells node own
  | onEngineReady | setAccessTokenReady =>
    rw [step,List.append_nil]
    exact valid.ignores rfl rfl rfl
  | onEngineUnavailable =>
    dsimp only [step,onEngineUnavailable]
    split
    · exact cleared_valid events rfl
    · simpa using valid
  | restart => exact cleared_valid events rfl

end Valid

theorem initial_valid (process : Nat → Nat) : (initial process).Valid [] := by
  refine ⟨?_,?_,?_,?_⟩
  · intro executorIndex param found
    simp [initial] at found
  · intro node member
    cases member
  · intro node member
    cases member
  · intro executorIndex node there
    simp [initial] at there

-- While every step names an index that is the caller's own, whatever is
-- registered can be selected, and whatever is dead goes.
theorem registrations_followed (process : Nat → Nat) (inputs : List Input)
    (own : coAuthService.Meets NamesOwn (initial process) inputs) :
    Follows (coAuthService.after (initial process) inputs) (coAuthService.trace (initial process) inputs) := by
  have kept := Mealy.guarded_history (m:=coAuthService) (h:=[]) (P:=Valid) (c:=NamesOwn)
    (fun s h input valid own => valid.steps input own) (initial_valid process) own
  exact kept.follows

-- A driver dies, and its executor is registered by its next process before the
-- death is told.
def driverRestarts : List Input :=
  [.onEngineReady,.setAccessTokenReady true,.registerExecutorCallback 0 true (some 7),
    .registerExecutorCallback 1 true (some 8),.runTask,.runTask,.die 1,.registerExecutorCallback 2 true (some 8),
    .onRemoteDied ⟨1,1,8⟩,.runTask]

theorem two_drivers_followed :
    Follows (coAuthService.after (initial id) driverRestarts) (coAuthService.trace (initial id) driverRestarts) :=
  registrations_followed id driverRestarts
    ⟨by decide,by decide,by decide,by decide,by decide,by decide,by decide,by decide,by decide,by decide,trivial⟩

-- A driver comes back after the framework's restart and unregisters, by the
-- index it had, an executor of another.
def staleIndex : List Input :=
  [.onEngineReady,.setAccessTokenReady true,.registerExecutorCallback 0 true (some 7),.runTask,.restart,
    .onEngineReady,.setAccessTokenReady true,.registerExecutorCallback 1 true (some 7),.runTask,
    .registerExecutorCallback 0 true (some 8)]

-- A driver dies before its recipient is set.
def earlyDeath : List Input :=
  [.onEngineReady,.setAccessTokenReady true,.registerExecutorCallback 0 true (some 7),.die 0,.runTask]

theorem registrations_lost_and_kept :
    ¬Follows (coAuthService.after (initial id) staleIndex) (coAuthService.trace (initial id) staleIndex) ∧
      ¬Follows (coAuthService.after (initial id) earlyDeath) (coAuthService.trace (initial id) earlyDeath) := by
  constructor
  · intro follows
    have selected := follows.selectable ⟨1,1,7⟩ (by decide)
    exact absurd selected (by decide)
  · intro follows
    obtain ⟨recipient,set,_⟩ := follows.removed 7 ⟨0,0,7⟩ (by decide) (by decide)
    have none : (coAuthService.after (initial id) earlyDeath).deathRecipients = [] := by decide
    rw [none] at set
    cases set

end CoAuthService
end UserAuth
