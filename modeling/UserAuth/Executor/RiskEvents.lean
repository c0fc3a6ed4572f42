import UserAuth.Executor.RiskEventManager
import UserAuth.Lib.Since

namespace UserAuth
open Std

namespace RiskEvent

-- What brings a driver to be told of a user anew.
def marks (node : PooledExecutor) (user : Int32) : RiskEvent → Bool
  | .locked => true
  | .strong userId => userId = user
  | .pooled other => other = node
  | _ => false

-- A driver that is connected is asked with the templates that were found.
def calls : RiskEvent → Prop
  | .set _ _ authType templateIds connected call => connected = true →
    ∃ extraInfo, ExecutorProperty.strongAuthExtraInfo authType templateIds = some extraInfo ∧
      call = some (.request 0 (.sendCommand PROPERTY_MODE_RISK_EVENT extraInfo))
  | _ => True

-- There is nothing to tell a driver of a user with: the engine has refused to
-- answer, or the templates it has do not fit into attributes.
def Unset (node : PooledExecutor) (user : Int32) : RiskEvent → Prop
  | .failed userId authType (.refused _ _) => userId = user ∧ authType = node.authType
  | .failed userId authType (.answered infos) => userId = user ∧ authType = node.authType ∧
    (ExecutorProperty.riskEvent authType (infos.map (·.templateId))).properties = none
  | _ => False

-- The templates of the user that the engine has given for the driver's type since
-- the last of its marks.
def Found (node : PooledExecutor) (user : Int32) (templateIds : List UInt64) (h : List RiskEvent) : Prop :=
  ∃ infos, .found user node.authType infos ∈ Since.since (marks node user) h ∧ templateIds = infos.map (·.templateId)

-- Since the last of its marks a driver has been told with templates found since
-- then, or there was nothing to tell it with.
inductive Told (node : PooledExecutor) (user : Int32) (h : List RiskEvent) : Prop where
  | unset (event : RiskEvent) (recent : event ∈ Since.since (marks node user) h) (unset : Unset node user event)
  | set (templateIds : List UInt64) (found : Found node user templateIds h) (connected : Bool) (call : Option DriverCall)
      (recent : .set node user node.authType templateIds connected call ∈ Since.since (marks node user) h)

section More
variable {node : PooledExecutor} {user : Int32} {h more : List RiskEvent}

theorem recent_more (plain : ∀ event ∈ more, marks node user event = false)
    (recent : event ∈ Since.since (marks node user) h) : event ∈ Since.since (marks node user) (h ++ more) := by
  rw [Since.since_append plain]
  exact List.mem_append_left _ recent

theorem recent_now (plain : ∀ event ∈ more, marks node user event = false) (member : event ∈ more) :
    event ∈ Since.since (marks node user) (h ++ more) := by
  rw [Since.since_append plain]
  exact List.mem_append_right _ member

theorem Found.later (found : Found node user templateIds h) (plain : ∀ event ∈ more, marks node user event = false) :
    Found node user templateIds (h ++ more) := by
  obtain ⟨infos,recent,same⟩ := found
  exact ⟨infos,recent_more plain recent,same⟩

theorem told_more (plain : ∀ event ∈ more, marks node user event = false) (told : Told node user h) :
    Told node user (h ++ more) := by
  cases told with
  | unset event recent unset => exact .unset event (recent_more plain recent) unset
  | set templateIds found connected call recent =>
    exact .set templateIds (found.later plain) connected call (recent_more plain recent)

end More

end RiskEvent

namespace RiskWork

-- Work that comes to a node's driver for a user, if nothing changes.
def leads (node : PooledExecutor) (user : Int32) (h : List RiskEvent) : RiskWork → Prop
  | .syncRiskEvents => True
  | .syncUser userId => userId = user
  | .handleStrongAuthEvent userId => userId = user
  | .setRiskEventProperty userId authType => userId = user ∧ authType = node.authType
  | .setProperty other userId authType templateIds =>
    other = node ∧ userId = user ∧ authType = node.authType ∧ RiskEvent.Found node user templateIds h

theorem leads_more {item : RiskWork} (plain : ∀ event ∈ more, RiskEvent.marks node user event = false)
    (leads : item.leads node user h) : item.leads node user (h ++ more) := by
  cases item with
  | setProperty other userId authType templateIds =>
    obtain ⟨same,named,type,found⟩ := leads
    exact ⟨same,named,type,found.later plain⟩
  | _ => exact leads

end RiskWork

namespace RiskEventManager
open RiskEvent RiskWork
variable {s : RiskEventManager} {h : List RiskEvent} {user : Int32}

def Pooled (s : RiskEventManager) (node : PooledExecutor) : Prop := s.pool.select node.executorIndex = some node

instance (s : RiskEventManager) (node : PooledExecutor) : Decidable (s.Pooled node) :=
  inferInstanceAs (Decidable (_ = _))

-- A biometric driver under the strong authentication of a user, while the service
-- hears of it and the screen is locked.
structure Frozen (s : RiskEventManager) (user : Int32) (node : PooledExecutor) : Prop where
  pooled : s.Pooled node
  biometric : node.authType = AuthType.FACE ∨ node.authType = AuthType.FINGERPRINT
  allInOne : node.executorRole = ExecutorRole.ALL_IN_ONE
  listening : s.listening = true
  subscriber : s.subscriber = true
  locked : s.isScreenLocked = true
  strong : s.securityEnhancement user = true

inductive Due (s : RiskEventManager) (user : Int32) (node : PooledExecutor) (h : List RiskEvent) : Prop where
  | authNotice (member : user ∈ s.authNotices)
  | lockNotice (some : 0 < s.lockNotices)
  | syncAuth (waits : s.syncStrongAuthStatus = true)
  | syncLock (waits : s.syncScreenlockStatus = true)
  | authTask (member : .strongAuthChanged user ∈ s.tasks)
  | lockTask (member : .screenLock ∈ s.tasks)
  | registered (member : .registered node ∈ s.tasks)
  | work (item : RiskWork) (member : item ∈ s.work) (leads : item.leads node user h)

structure Sound (user : Int32) (s : RiskEventManager) (h : List RiskEvent) : Prop where
  reach : ∀ node, s.Frozen user node → s.Due user node h ∨ Told node user h
  whole : ∀ node userId authType templateIds, .setProperty node userId authType templateIds ∈ s.work →
    (ExecutorProperty.riskEvent authType templateIds).properties.isSome = true
  calls : ∀ event ∈ h, event.calls

theorem sound_initial (callbacks : Callbacks) (user : Int32) : Sound user {callbacks} [] where
  reach := fun _ frozen => absurd frozen.listening Bool.false_ne_true
  whole := nofun
  calls := nofun

-- A step without an event leaves whoever was due still due.
theorem Sound.quiet {next : RiskEventManager} (sound : Sound user s h) (work : next.work = s.work)
    (keeps : ∀ node, next.Frozen user node → s.Frozen user node ∧ (s.Due user node h → next.Due user node h) ∨
      next.Due user node h) :
    Sound user next h where
  reach := by
    intro node frozen
    rcases keeps node frozen with ⟨was,due⟩ | now
    · exact (sound.reach node was).imp_left due
    · exact .inl now
  whole := fun node userId authType templateIds member => sound.whole node userId authType templateIds (work ▸ member)
  calls := sound.calls

theorem Due.later {node : PooledExecutor} (due : s.Due user node h)
    (plain : ∀ event ∈ more, marks node user event = false) : s.Due user node (h ++ more) := by
  cases due with
  | authNotice member => exact .authNotice member
  | lockNotice some => exact .lockNotice some
  | syncAuth waits => exact .syncAuth waits
  | syncLock waits => exact .syncLock waits
  | authTask member => exact .authTask member
  | lockTask member => exact .lockTask member
  | registered member => exact .registered member
  | work item member leads => exact .work item member (leads_more plain leads)

-- A step that marks makes due whom it marks.
theorem Sound.mark {next : RiskEventManager} (sound : Sound user s h) (work : next.work = s.work) (event : RiskEvent)
    (silent : event.calls) (keeps : ∀ node, next.Frozen user node →
      marks node user event = false ∧ s.Frozen user node ∧ (s.Due user node h → next.Due user node h) ∨
        next.Due user node (h ++ [event])) :
    Sound user next (h ++ [event]) where
  reach := by
    intro node frozen
    rcases keeps node frozen with ⟨plain,was,due⟩ | now
    · have unmarked : ∀ other ∈ [event], marks node user other = false := by simpa using plain
      exact (sound.reach node was).imp (fun waits => (due waits).later unmarked) (told_more unmarked)
    · exact .inl now
  whole := fun node userId authType templateIds member => sound.whole node userId authType templateIds (work ▸ member)
  calls := by
    intro other member
    rcases List.mem_append.mp member with old | new
    · exact sound.calls other old
    · cases List.mem_singleton.mp new
      exact silent

-- Where everything that waited waits still.
theorem Due.frame {next : RiskEventManager} {node : PooledExecutor} (due : s.Due user node h)
    (authNotices : ∀ userId ∈ s.authNotices, userId ∈ next.authNotices) (lockNotices : s.lockNotices ≤ next.lockNotices)
    (syncAuth : s.syncStrongAuthStatus = true → next.syncStrongAuthStatus = true)
    (syncLock : s.syncScreenlockStatus = true → next.syncScreenlockStatus = true)
    (tasks : ∀ task ∈ s.tasks, task ∈ next.tasks) (work : ∀ item ∈ s.work, item ∈ next.work) : next.Due user node h := by
  cases due with
  | authNotice member => exact .authNotice (authNotices _ member)
  | lockNotice some => exact .lockNotice (Nat.lt_of_lt_of_le some lockNotices)
  | syncAuth waits => exact .syncAuth (syncAuth waits)
  | syncLock waits => exact .syncLock (syncLock waits)
  | authTask member => exact .authTask (tasks _ member)
  | lockTask member => exact .lockTask (tasks _ member)
  | registered member => exact .registered (tasks _ member)
  | work item member leads => exact .work item (work _ member) leads

section Pool

theorem Sound.executorRegister (sound : Sound user s h) (executorIndex : UInt64) (authType : AuthType)
    (executorRole : ExecutorRole) : Sound user (s.executorRegister executorIndex authType executorRole).1
      (h ++ (s.executorRegister executorIndex authType executorRole).2) := by
  unfold RiskEventManager.executorRegister
  dsimp only
  have registered :=
    @ResourceNodePool.insertNode_cases PooledExecutor s.pool executorIndex ⟨s.nextRef,executorIndex,authType,executorRole⟩
  rcases registered with
    refused | ⟨count,notice,_,inserted⟩
  · rw [refused]
    simpa using sound
  rw [inserted]
  dsimp only
  refine sound.mark (by rfl) (.pooled ⟨s.nextRef,executorIndex,authType,executorRole⟩) trivial fun node frozen => ?_
  have pooled := frozen.pooled
  change ResourceNodePool.select (s.pool.insert executorIndex _) node.executorIndex = some node at pooled
  rw [ResourceNodePool.select_insert] at pooled
  by_cases new : (⟨s.nextRef,executorIndex,authType,executorRole⟩ : PooledExecutor) = node
  · exact .inr (.registered (List.mem_append_right _ (new ▸ List.mem_cons_self)))
  · have old : s.Pooled node := by
      split at pooled
      · exact absurd (Option.some.inj pooled) new
      · exact pooled
    have was : s.Frozen user node := {frozen with pooled := old}
    refine .inl ⟨decide_eq_false new,was,fun due => ?_⟩
    exact due.frame (fun _ member => member) (Nat.le_refl _) id id (fun _ member => List.mem_append_left _ member)
      fun _ member => member

theorem Sound.shrink {pool : ExecutorPool} (sound : Sound user s h)
    (old : ∀ node : PooledExecutor, pool.select node.executorIndex = some node → s.Pooled node) :
    Sound user {s with pool} h := by
  refine sound.quiet rfl fun node frozen => .inl ⟨?_,fun due => ?_⟩
  · exact {frozen with pooled := old node frozen.pooled}
  · exact due.frame (fun _ member => member) (Nat.le_refl _) id id (fun _ member => member) fun _ member => member

theorem Sound.executorDelete (sound : Sound user s h) (executorIndex : UInt64) :
    Sound user (s.executorDelete executorIndex) h := by
  unfold RiskEventManager.executorDelete
  split
  · exact sound
  · rename_i deleted
    exact sound.shrink fun node pooled => ResourceNodePool.delete_keeps deleted pooled

end Pool

section Notices

theorem Sound.setScreenLock (sound : Sound user s h) (isScreenLocked : Bool) :
    Sound user (s.setScreenLock isScreenLocked).1 (h ++ (s.setScreenLock isScreenLocked).2) := by
  unfold RiskEventManager.setScreenLock
  cases isScreenLocked with
  | true =>
    simp only [if_true]
    refine sound.mark (by rfl) .locked trivial fun node frozen => .inr (.lockNotice ?_)
    have subscribed : s.subscriber = true := frozen.subscriber
    simp [subscribed]
  | false =>
    simp only [Bool.false_eq_true,if_false,List.append_nil]
    exact sound.quiet rfl fun node frozen => absurd frozen.locked Bool.false_ne_true

theorem Sound.setStrongAuth (sound : Sound user s h) (userId : Int32) (securityEnhancement : Bool) :
    Sound user (s.setStrongAuth userId securityEnhancement).1 (h ++ (s.setStrongAuth userId securityEnhancement).2) := by
  have keeps : ∀ node, userId ≠ user → (s.setStrongAuth userId securityEnhancement).1.Frozen user node →
      s.Frozen user node ∧ (s.Due user node h → (s.setStrongAuth userId securityEnhancement).1.Due user node h) := by
    intro node other frozen
    have strong : s.securityEnhancement user = true := by
      have now := frozen.strong
      simpa [RiskEventManager.setStrongAuth,Function.update_of_ne (Ne.symm other)] using now
    refine ⟨{frozen with strong},fun due => ?_⟩
    refine due.frame (fun member held => ?_) (Nat.le_refl _) id id (fun _ member => member) fun _ member => member
    simp only [RiskEventManager.setStrongAuth]
    split
    · exact List.mem_append_left _ held
    · exact held
  cases securityEnhancement with
  | true =>
    have marked : (s.setStrongAuth userId true).2 = [.strong userId] := rfl
    rw [marked]
    refine sound.mark (by rfl) (.strong userId) trivial fun node frozen => ?_
    by_cases same : userId = user
    · have listened : s.listening = true := frozen.listening
      refine .inr (.authNotice ?_)
      simp [RiskEventManager.setStrongAuth,listened,same]
    · exact .inl ⟨decide_eq_false same,keeps node same frozen⟩
  | false =>
    simp only [RiskEventManager.setStrongAuth,Bool.false_eq_true,if_false,List.append_nil]
    refine sound.quiet rfl fun node frozen => ?_
    by_cases same : userId = user
    · have strong := frozen.strong
      simp [same] at strong
    · exact .inl (keeps node same frozen)

theorem Sound.registerStrongAuthListener (sound : Sound user s h) (available : Bool) :
    Sound user (s.registerStrongAuthListener available) h := by
  unfold RiskEventManager.registerStrongAuthListener
  split
  · exact sound
  split
  · exact sound.quiet rfl fun node frozen => .inl ⟨{frozen with},fun due =>
      due.frame (fun _ member => member) (Nat.le_refl _) id id (fun _ member => member) fun _ member => member⟩
  · exact sound.quiet rfl fun _ _ => .inr (.syncAuth rfl)

theorem Sound.syncStrongAuth (sound : Sound user s h) (named : user ∈ userIdList) :
    Sound user (s.syncStrongAuthStatusForAllAccounts userIdList) h := by
  unfold RiskEventManager.syncStrongAuthStatusForAllAccounts
  split
  · exact sound
  · refine sound.quiet rfl fun _ _ => .inr (.authTask ?_)
    exact List.mem_append_right _ (List.mem_map_of_mem named)

theorem Sound.unRegisterStrongAuthListener (sound : Sound user s h) (available : Bool) :
    Sound user (s.unRegisterStrongAuthListener available) h := by
  unfold RiskEventManager.unRegisterStrongAuthListener
  split
  · exact sound
  split
  · exact sound
  · exact sound.quiet rfl fun _ frozen => absurd frozen.listening Bool.false_ne_true

theorem Sound.registerScreenLockedCallback (sound : Sound user s h) (subscribed : Bool) :
    Sound user (s.registerScreenLockedCallback subscribed) h := by
  unfold RiskEventManager.registerScreenLockedCallback
  split
  · exact sound
  split
  · exact sound
  · exact sound.quiet rfl fun _ _ => .inr (.syncLock rfl)

theorem Sound.runSyncScreenlockStatus (sound : Sound user s h) : Sound user s.runSyncScreenlockStatus h := by
  unfold RiskEventManager.runSyncScreenlockStatus
  split
  · exact sound
  split
  · rename_i unlocked
    refine sound.quiet rfl fun _ frozen => ?_
    have locked : s.isScreenLocked = true := frozen.locked
    simp [locked] at unlocked
  · exact sound.quiet rfl fun _ _ => .inr (.lockTask (List.mem_append_right _ List.mem_cons_self))

theorem Sound.unRegisterScreenLockedCallback (sound : Sound user s h) :
    Sound user s.unRegisterScreenLockedCallback h := by
  unfold RiskEventManager.unRegisterScreenLockedCallback
  split
  · exact sound
  · exact sound.quiet rfl fun _ frozen => absurd frozen.subscriber Bool.false_ne_true

theorem Sound.onStrongAuthChanged (sound : Sound user s h) (index : Nat) :
    Sound user (s.onStrongAuthChanged index) h := by
  unfold RiskEventManager.onStrongAuthChanged
  split
  · exact sound
  rename_i userId found
  refine sound.quiet rfl fun node frozen => ?_
  by_cases same : userId = user
  · exact .inr (.authTask (List.mem_append_right _ (same ▸ List.mem_cons_self)))
  refine .inl ⟨{frozen with},fun due => ?_⟩
  cases due with
  | authNotice member =>
    obtain ⟨other,here⟩ := List.mem_iff_getElem?.mp member
    refine .authNotice (List.mem_eraseIdx_iff_getElem?.mpr ⟨other,?_,here⟩)
    rintro rfl
    exact same (Option.some.inj (found.symm.trans here))
  | lockNotice some => exact .lockNotice some
  | syncAuth waits => exact .syncAuth waits
  | syncLock waits => exact .syncLock waits
  | authTask member => exact .authTask (List.mem_append_left _ member)
  | lockTask member => exact .lockTask (List.mem_append_left _ member)
  | registered member => exact .registered (List.mem_append_left _ member)
  | work item member leads => exact .work item member leads

theorem Sound.onReceiveEvent (sound : Sound user s h) (valid : userId ≠ INVALID_USER_ID) :
    Sound user (s.onReceiveEvent userId) h := by
  unfold RiskEventManager.onReceiveEvent
  split
  · exact sound
  · exact sound.quiet rfl fun _ _ => .inr (.lockTask (List.mem_append_right _ List.mem_cons_self))

end Notices

section Tasks

-- A task that is taken leaves due whom it was not for.
theorem Due.take {work : List RiskWork} {node : PooledExecutor} (due : s.Due user node h) (idle : s.work = [])
    (found : s.tasks[index]? = some task) (auth : task ≠ .strongAuthChanged user) (lock : task ≠ .screenLock)
    (registered : task ≠ .registered node) : Due {s with tasks:=s.tasks.eraseIdx index,work} user node h := by
  have stays : ∀ other ∈ s.tasks, task ≠ other → other ∈ s.tasks.eraseIdx index := by
    intro other member apart
    obtain ⟨place,here⟩ := List.mem_iff_getElem?.mp member
    refine List.mem_eraseIdx_iff_getElem?.mpr ⟨place,?_,here⟩
    rintro rfl
    exact apart (Option.some.inj (found.symm.trans here))
  cases due with
  | authNotice member => exact .authNotice member
  | lockNotice some => exact .lockNotice some
  | syncAuth waits => exact .syncAuth waits
  | syncLock waits => exact .syncLock waits
  | authTask member => exact .authTask (stays _ member auth)
  | lockTask member => exact .lockTask (stays _ member lock)
  | registered member => exact .registered (stays _ member registered)
  | work item member leads =>
    rw [idle] at member
    cases member

-- What a task starts with is nothing to set yet.
theorem Sound.start {work : List RiskWork} (sound : Sound user s h) (idle : s.work = [])
    (found : s.tasks[index]? = some task)
    (fresh : ∀ node userId authType templateIds, .setProperty node userId authType templateIds ∉ work)
    (keeps : ∀ node, s.Frozen user node → (∃ item ∈ work, item.leads node user h) ∨
      task ≠ .strongAuthChanged user ∧ task ≠ .screenLock ∧ task ≠ .registered node) :
    Sound user {s with tasks:=s.tasks.eraseIdx index,work} h where
  reach := by
    intro node frozen
    have was : s.Frozen user node := {frozen with}
    rcases keeps node was with ⟨item,member,leads⟩ | ⟨auth,lock,registered⟩
    · exact .inl (.work item member leads)
    · exact (sound.reach node was).imp_left fun due => due.take idle found auth lock registered
  whole := fun node userId authType templateIds member => absurd member (fresh node userId authType templateIds)
  calls := sound.calls

theorem Sound.runTask (sound : Sound user s h) (index : Nat) (kept : Bool) : Sound user (s.runTask index kept) h := by
  unfold RiskEventManager.runTask
  split
  · exact sound
  rename_i busy
  have idle : s.work = [] := by simpa using busy
  split
  · exact sound
  rename_i task found
  cases task with
  | strongAuthChanged userId =>
    dsimp only
    split
    · rename_i weak
      refine sound.start idle found (by simp [idle]) fun node frozen => .inr ⟨?_,by simp,by simp⟩
      rintro same
      cases same
      simp [frozen.strong] at weak
    · refine sound.start idle found (by simp) fun node _ => ?_
      by_cases same : userId = user
      · exact .inl ⟨_,List.mem_cons_self,same⟩
      · exact .inr ⟨by simp [same],by simp,by simp⟩
  | screenLock => exact sound.start idle found (by simp) fun _ _ => .inl ⟨_,List.mem_cons_self,trivial⟩
  | registered other =>
    dsimp only
    split
    · exact sound.start idle found (by simp) fun _ _ => .inl ⟨_,List.mem_cons_self,trivial⟩
    · rename_i gone
      refine sound.start idle found (by simp [idle]) fun node frozen => .inr ⟨by simp,by simp,?_⟩
      rintro same
      cases same
      exact gone (.inl frozen.pooled)

-- One item of the work is done: who was due by it is due by what it adds, or is told.
theorem Sound.advance {work : List RiskWork} {events : List RiskEvent} (sound : Sound user s h) (added : List RiskWork)
    (left : s.work = item :: work) (plain : ∀ node, ∀ event ∈ events, marks node user event = false)
    (each : ∀ node, s.Frozen user node → item.leads node user h →
      (∃ more ∈ added, more.leads node user (h ++ events)) ∨ Told node user (h ++ events))
    (whole : ∀ node userId authType templateIds, .setProperty node userId authType templateIds ∈ added →
      (ExecutorProperty.riskEvent authType templateIds).properties.isSome = true)
    (calls : ∀ event ∈ events, event.calls) : Sound user {s with work:=added ++ work} (h ++ events) where
  reach := by
    intro node frozen
    have was : s.Frozen user node := {frozen with}
    rcases sound.reach node was with due | told
    · cases due with
      | authNotice member => exact .inl (.authNotice member)
      | lockNotice some => exact .inl (.lockNotice some)
      | syncAuth waits => exact .inl (.syncAuth waits)
      | syncLock waits => exact .inl (.syncLock waits)
      | authTask member => exact .inl (.authTask member)
      | lockTask member => exact .inl (.lockTask member)
      | registered member => exact .inl (.registered member)
      | work other member leads =>
        rw [left] at member
        rcases List.mem_cons.mp member with rfl | member
        · rcases each node was leads with ⟨more,member,leads⟩ | told
          · exact .inl (.work more (List.mem_append_left _ member) leads)
          · exact .inr told
        · exact .inl (.work other (List.mem_append_right _ member) (leads_more (plain node) leads))
    · exact .inr (told_more (plain node) told)
  whole := by
    intro node userId authType templateIds member
    rcases List.mem_append.mp member with new | old
    · exact whole node userId authType templateIds new
    · exact sound.whole node userId authType templateIds (left ▸ List.mem_cons_of_mem _ old)
  calls := by
    intro event member
    rcases List.mem_append.mp member with old | new
    · exact sound.calls event old
    · exact calls event new

-- A pooled node is found under its type and role.
theorem Frozen.found {node : PooledExecutor} (frozen : s.Frozen user node) :
    node ∈ s.getResourceNodeByTypeAndRole node.authType ExecutorRole.ALL_IN_ONE := by
  obtain ⟨param,held,same⟩ := ResourceNodePool.select_some.mp frozen.pooled
  refine List.mem_filter.mpr ⟨List.mem_map.mpr ⟨(node.executorIndex,param),?_,same⟩,?_⟩
  · exact ExtTreeMap.mem_toList_iff_getElem?_eq_some.mpr held
  · exact decide_eq_true ⟨rfl,frozen.allInOne⟩

theorem Sound.setRisk {work : List RiskWork} (sound : Sound user s h)
    (left : s.work = .setRiskEventProperty userId authType :: work) (answer : EngineReply (List EngCredentialInfo)) :
    Sound user {s with work:=(s.setRiskEventPropertyForAuthType userId authType answer).1 ++ work}
      (h ++ (s.setRiskEventPropertyForAuthType userId authType answer).2) := by
  unfold RiskEventManager.setRiskEventPropertyForAuthType
  split
  · rename_i code failed
    refine sound.advance _ left (by simp [marks]) (fun node _ leads => .inr ?_) (by simp) (by simp [RiskEvent.calls])
    exact .unset _ (recent_now (by simp [marks]) List.mem_cons_self) leads
  rename_i infos
  dsimp only
  split
  · rename_i unfit
    refine sound.advance _ left (by simp [marks]) (fun node _ leads => .inr ?_) (by simp) (by simp [RiskEvent.calls])
    exact .unset _ (recent_now (by simp [marks]) List.mem_cons_self) ⟨leads.1,leads.2,Option.isNone_iff_eq_none.mp unfit⟩
  · rename_i made
    refine sound.advance _ left (by simp [marks]) (fun node frozen leads => .inl ?_) ?_ (by simp [RiskEvent.calls])
    · obtain ⟨rfl,rfl⟩ := leads
      refine ⟨.setProperty node userId node.authType (infos.map (·.templateId)),?_,rfl,rfl,rfl,infos,?_,rfl⟩
      · exact List.mem_map.mpr ⟨node,frozen.found,rfl⟩
      · exact recent_now (by simp [marks]) List.mem_cons_self
    · intro node userId authType templateIds member
      obtain ⟨other,_,same⟩ := List.mem_map.mp member
      cases same
      simpa [Option.isSome_iff_ne_none] using made

theorem Sound.proceed (sound : Sound user s h) (kept : Bool) (answer : EngineReply (List EngCredentialInfo))
    (named : s.work.head? = some .syncRiskEvents → user ∈ userIdList) :
    Sound user (s.proceed kept userIdList answer).1 (h ++ (s.proceed kept userIdList answer).2) := by
  unfold RiskEventManager.proceed
  split
  · simpa using sound
  rename_i next work left
  cases next with
  | syncRiskEvents =>
    have member : user ∈ userIdList := named (by simp [left])
    exact sound.advance _ left (by simp) (fun _ _ _ =>
      .inl ⟨.syncUser user,List.mem_map_of_mem member,rfl⟩) (by simp) (by simp)
  | syncUser userId =>
    dsimp only
    split
    · rename_i weak
      refine sound.advance [] left (by simp) (fun node frozen leads => ?_) (by simp) (by simp)
      have same : userId = user := leads
      simp [same,frozen.strong] at weak
    · exact sound.advance [_] left (by simp) (fun _ _ leads => .inl ⟨_,List.mem_cons_self,leads⟩) (by simp) (by simp)
  | handleStrongAuthEvent userId =>
    dsimp only
    split
    · rename_i unlocked
      refine sound.advance [] left (by simp) (fun node frozen _ => ?_) (by simp) (by simp)
      simp [frozen.locked] at unlocked
    · refine sound.advance _ left (by simp) (fun node frozen leads => .inl ?_) (by simp) (by simp)
      rcases frozen.biometric with face | fingerprint
      · exact ⟨_,List.mem_cons_self,leads,face.symm⟩
      · exact ⟨_,List.mem_cons_of_mem _ List.mem_cons_self,leads,fingerprint.symm⟩
  | setRiskEventProperty userId authType => exact sound.setRisk left answer
  | setProperty other userId authType templateIds =>
    dsimp only
    split
    · refine sound.advance [] left (by simp [marks]) (fun node _ leads => .inr ?_) (by simp) ?_
      · obtain ⟨rfl,rfl,rfl,found⟩ := leads
        have plain : ∀ event ∈ [RiskEvent.set other userId other.authType templateIds (s.callbacks other.ref).hasHdi
            (other.setProperty s.callbacks (.riskEvent other.authType templateIds))],
            marks other userId event = false := by simp [marks]
        exact .set templateIds (found.later plain) _ _ (recent_now plain List.mem_cons_self)
      intro event member
      cases List.mem_singleton.mp member
      intro connected
      have set := sound.whole other userId authType templateIds (left ▸ List.mem_cons_self)
      exact PooledExecutor.setProperty_risk other s.callbacks authType templateIds set connected
    · rename_i gone
      refine sound.advance [] left (by simp) (fun node frozen leads => ?_) (by simp) (by simp)
      have same : other = node := leads.1
      exact absurd (.inl (same ▸ frozen.pooled)) gone

end Tasks

-- Every look at the accounts finds the user's, and every lock names some user.
def names (user : Int32) (s : RiskEventManager) : RiskInput → Bool
  | .syncStrongAuthStatusForAllAccounts userIdList => userIdList.contains user
  | .onReceiveEvent userId => userId != INVALID_USER_ID
  | .proceed _ userIdList _ => s.work.head? != some .syncRiskEvents || userIdList.contains user
  | _ => true

theorem step_sound (s : RiskEventManager) (h : List RiskEvent) (input : RiskInput) (sound : Sound user s h)
    (named : names user s input = true) : Sound user (s.step input).1 (h ++ (s.step input).2) := by
  cases input with
  | executorRegister executorIndex authType executorRole =>
    exact sound.executorRegister executorIndex authType executorRole
  | executorDelete executorIndex => simpa [step] using sound.executorDelete executorIndex
  | deleteAll =>
    simp only [step,List.append_nil]
    exact sound.shrink nofun
  | callback ref callback =>
    simp only [step,List.append_nil]
    exact sound.quiet rfl fun node frozen => .inl ⟨{frozen with},fun due =>
      due.frame (fun _ member => member) (Nat.le_refl _) id id (fun _ member => member) fun _ member => member⟩
  | setScreenLock isScreenLocked => exact sound.setScreenLock isScreenLocked
  | setStrongAuth userId securityEnhancement => exact sound.setStrongAuth userId securityEnhancement
  | registerStrongAuthListener available => simpa [step] using sound.registerStrongAuthListener available
  | syncStrongAuthStatusForAllAccounts userIdList =>
    simpa [step] using sound.syncStrongAuth (List.contains_iff_mem.mp named)
  | unRegisterStrongAuthListener available => simpa [step] using sound.unRegisterStrongAuthListener available
  | registerScreenLockedCallback subscribed => simpa [step] using sound.registerScreenLockedCallback subscribed
  | syncScreenlockStatus => simpa [step] using sound.runSyncScreenlockStatus
  | unRegisterScreenLockedCallback => simpa [step] using sound.unRegisterScreenLockedCallback
  | onStrongAuthChanged index => simpa [step] using sound.onStrongAuthChanged index
  | onReceiveEvent userId =>
    have valid : userId ≠ INVALID_USER_ID := by simpa [names] using named
    simpa [step] using sound.onReceiveEvent valid
  | runTask index kept => simpa [step] using sound.runTask index kept
  | proceed kept userIdList answer =>
    refine sound.proceed kept answer fun head => ?_
    simpa [names,head] using named

def quiescent (s : RiskEventManager) : Bool :=
  s.authNotices.isEmpty && s.lockNotices == 0 && !s.syncStrongAuthStatus && !s.syncScreenlockStatus && s.tasks.isEmpty &&
    s.work.isEmpty

theorem quiescent_undue (quiet : s.quiescent = true) (node : PooledExecutor) : ¬s.Due user node h := by
  intro due
  simp only [quiescent,Bool.and_eq_true,List.isEmpty_iff,beq_iff_eq,Bool.not_eq_true'] at quiet
  obtain ⟨⟨⟨⟨⟨authNotices,lockNotices⟩,syncAuth⟩,syncLock⟩,tasks⟩,work⟩ := quiet
  cases due <;> simp_all

-- In whichever order the lock, the strong authentication of a user, the notices
-- of both and a driver's registration come: when nothing is left to be done, each
-- biometric driver has been told of the user since the last of them.
theorem strong_auth_reaches (callbacks : Callbacks) (user : Int32) (inputs : List RiskInput)
    (named : machine.Meets (fun s input => names user s input = true) {callbacks} inputs) :
    let s := machine.after {callbacks} inputs
    let h := machine.trace {callbacks} inputs
    (s.quiescent = true → ∀ node, s.Frozen user node → Told node user h) ∧ ∀ event ∈ h, event.calls := by
  intro s h
  have sound : Sound user s h := by
    have kept := Mealy.guarded_history (P:=Sound user) step_sound (sound_initial callbacks user) named
    rwa [List.nil_append] at kept
  refine ⟨fun quiet node frozen => ?_,sound.calls⟩
  exact (sound.reach node frozen).resolve_left (quiescent_undue quiet node)

-- The screen is locked before anything is known of it, and the driver comes last.
def lockedRun : List RiskInput :=
  let proceed : RiskInput := .proceed false [100] (.answered [⟨1,5,11,AuthType.FACE⟩])
  let runTask := .runTask 0 false :: List.replicate 6 proceed
  [.setScreenLock true,.setStrongAuth 100 true,.registerStrongAuthListener true,
    .syncStrongAuthStatusForAllAccounts [100],.registerScreenLockedCallback true,.syncScreenlockStatus,
    .executorRegister 5 AuthType.FACE ExecutorRole.ALL_IN_ONE] ++ (runTask ++ runTask ++ runTask)

def lockedNode : PooledExecutor := ⟨0,5,AuthType.FACE,ExecutorRole.ALL_IN_ONE⟩

theorem strong_auth_reaches_locked :
    Told lockedNode 100 (machine.trace {callbacks:=fun _ => ⟨some ⟨ExecutorRole.ALL_IN_ONE,true⟩,true⟩} lockedRun) := by
  have reaches := strong_auth_reaches (fun _ =>
    ⟨some ⟨ExecutorRole.ALL_IN_ONE,true⟩,true⟩) 100 lockedRun (by decide +kernel)
  refine reaches.1 (by decide +kernel) lockedNode ⟨?_,.inl rfl,rfl,?_,?_,?_,?_⟩
  all_goals decide +kernel

end RiskEventManager
end UserAuth
