import UserAuth.Schedule.ResourceListener

namespace UserAuth
open Std

namespace SchedulePool

-- A schedule that lost an executor has been asked to stop, or its listener is
-- being told, or the schedule is gone.
def Answered (s : SchedulePool) (events : List ScheduleEvent) : Prop :=
  ∀ ref node, .loses ref node ∈ events →
    (∃ errorCode, .stopRequested ref errorCode ∈ events) ∨ (ref,.deleted node) ∈ s.notices ∨ s.schedules ref = none

-- No insert takes the place of a node that a running schedule holds.
def Unreplaced (s : SchedulePool) : Input → Prop
  | .insert resource =>
    (s.pool.insertNode resource.executorIndex {resource with ref:=s.nextRef}).isSome = true →
      ∀ node ∈ s.pool.select resource.executorIndex, ∀ ref < s.nextRef, ∀ schedule ∈ s.schedules ref,
        schedule.running = true → schedule.holds node = false
  | _ => True

instance (s : SchedulePool) (input : Input) : Decidable (s.Unreplaced input) := by
  cases input <;> dsimp only [Unreplaced] <;> infer_instance

theorem mem_losses {s t : SchedulePool} : event ∈ s.losses t ↔ ∃ ref < s.nextRef, ∃ schedule node,
    (s.schedules ref = some schedule ∧ schedule.running = true ∧ schedule.holds node = true) ∧
      (s.pool.select node.executorIndex = some node ∧ t.pool.select node.executorIndex ≠ some node) ∧
        event = .loses ref node := by
  simp only [losses,List.mem_flatMap,List.mem_range,Option.mem_toList,List.mem_map,List.mem_filter,
    List.mem_cons,List.not_mem_nil,or_false,Bool.and_eq_true,beq_iff_eq,bne_iff_ne,ScheduleHeld.holds,Bool.or_eq_true]
  constructor
  · rintro ⟨ref,made,schedule,found,node,⟨held,⟨running,was⟩,gone⟩,rfl⟩
    exact ⟨ref,made,schedule,node,⟨found,running,held.imp Eq.symm Eq.symm⟩,⟨was,gone⟩,rfl⟩
  · rintro ⟨ref,made,schedule,node,⟨found,running,held⟩,⟨was,gone⟩,rfl⟩
    exact ⟨ref,made,schedule,found,node,⟨held.imp Eq.symm Eq.symm,⟨running,was⟩,gone⟩,rfl⟩

structure Valid (s : SchedulePool) (events : List ScheduleEvent) : Prop where
  fresh : ∀ ref, s.nextRef ≤ ref → s.schedules ref = none
  listening : ∀ ref schedule, s.schedules ref = some schedule → schedule.started = true → ref ∈ s.listenerSet
  holding : ∀ ref node, .loses ref node ∈ events → ref < s.nextRef ∧
    ∀ schedule, s.schedules ref = some schedule → schedule.holds node = true
  answered : s.Answered events

-- How one step treats the schedules, the listeners and what is being told.
structure Carries (s t : SchedulePool) (events : List ScheduleEvent) : Prop where
  stops : ∀ event ∈ events, ∃ ref errorCode, event = .stopRequested ref errorCode
  later : s.nextRef ≤ t.nextRef
  fresh : ∀ ref, t.nextRef ≤ ref → t.schedules ref = none
  listening : ∀ ref schedule, t.schedules ref = some schedule → schedule.started = true → ref ∈ t.listenerSet
  same : ∀ ref schedule, ref < s.nextRef → t.schedules ref = some schedule →
    ∃ old, s.schedules ref = some old ∧ schedule.holds = old.holds
  told : ∀ ref node, (∃ schedule, s.schedules ref = some schedule ∧ schedule.holds node = true) →
    (ref,.deleted node) ∈ s.notices →
      (∃ errorCode, .stopRequested ref errorCode ∈ events) ∨ (ref,.deleted node) ∈ t.notices ∨ t.schedules ref = none
  lost : ∀ ref schedule node, s.schedules ref = some schedule → schedule.running = true → schedule.holds node = true →
    s.pool.select node.executorIndex = some node → t.pool.select node.executorIndex ≠ some node →
      (ref,.deleted node) ∈ t.notices

namespace Valid
variable {s t : SchedulePool} {events : List ScheduleEvent} (valid : s.Valid events)
include valid

theorem carried (carries : Carries s t acted) : t.Valid (events ++ (acted ++ s.losses t)) := by
  have split : ∀ ref node, .loses ref node ∈ events ++ (acted ++ s.losses t) →
      .loses ref node ∈ events ∨ ref < s.nextRef ∧ ∃ schedule, (s.schedules ref = some schedule ∧
        schedule.running = true ∧ schedule.holds node = true) ∧
          s.pool.select node.executorIndex = some node ∧ t.pool.select node.executorIndex ≠ some node := by
    intro ref node member
    rcases List.mem_append.mp member with before | now
    · exact .inl before
    · rcases List.mem_append.mp now with stop | loss
      · obtain ⟨_,_,same⟩ := carries.stops _ stop
        cases same
      · obtain ⟨_,made,schedule,_,held,gone,same⟩ := mem_losses.mp loss
        cases same
        exact .inr ⟨made,schedule,held,gone⟩
  have gone : ∀ ref, ref < s.nextRef → s.schedules ref = none → t.schedules ref = none := by
    intro ref made absent
    cases found : t.schedules ref with
    | none => rfl
    | some schedule =>
      obtain ⟨old,was,_⟩ := carries.same ref schedule made found
      rw [absent] at was
      cases was
  refine ⟨carries.fresh,carries.listening,?_,?_⟩
  · intro ref node member
    rcases split ref node member with before | ⟨made,old,⟨found,_,held⟩,_⟩
    · obtain ⟨made,holds⟩ := valid.holding ref node before
      refine ⟨Nat.lt_of_lt_of_le made carries.later,fun schedule present => ?_⟩
      obtain ⟨old,found,same⟩ := carries.same ref schedule made present
      rw [same]
      exact holds old found
    · refine ⟨Nat.lt_of_lt_of_le made carries.later,fun schedule present => ?_⟩
      obtain ⟨other,same,holds⟩ := carries.same ref schedule made present
      cases found.symm.trans same
      rw [holds]
      exact held
  · intro ref node member
    rcases split ref node member with before | ⟨_,old,⟨found,running,held⟩,was,lost⟩
    · obtain ⟨made,holds⟩ := valid.holding ref node before
      rcases valid.answered ref node before with ⟨errorCode,asked⟩ | told | absent
      · exact .inl ⟨errorCode,List.mem_append_left _ asked⟩
      · cases found : s.schedules ref with
        | none => exact .inr (.inr (gone ref made found))
        | some schedule =>
          rcases carries.told ref node ⟨schedule,found,holds schedule found⟩ told with ⟨errorCode,asked⟩ | still
          · exact .inl ⟨errorCode,List.mem_append_right _ (List.mem_append_left _ asked)⟩
          · exact .inr still
      · exact .inr (.inr (gone ref made absent))
    · exact .inr (.inl (carries.lost ref old node found running held was lost))

-- The pool changes, and the listeners will hear of every node that goes.
theorem notifies (pool : ResourceNodePool ExecutorNode) (told : List (PoolNotice ExecutorNode))
    (lost : ∀ ref schedule node, s.schedules ref = some schedule → schedule.running = true → schedule.holds node = true →
      s.pool.select node.executorIndex = some node → pool.select node.executorIndex ≠ some node → .deleted node ∈ told) :
    Carries s (s.notify pool told) [] := by
  refine ⟨by simp,Nat.le_refl _,valid.fresh,valid.listening,fun ref schedule _ found => ⟨schedule,found,rfl⟩,?_,?_⟩
  · intro ref node _ pending
    exact .inr (.inl (List.mem_append_left _ pending))
  · intro ref schedule node found running held was gone
    have started : schedule.started = true := by
      unfold ScheduleHeld.running at running
      exact (Bool.and_eq_true_iff.mp running).1
    have hears := valid.listening ref schedule found started
    refine List.mem_append_right _ (List.mem_flatMap.mpr ⟨_,lost ref schedule node found running held was gone,?_⟩)
    exact List.mem_map.mpr ⟨ref,hears,rfl⟩

theorem made (found : s.schedules ref = some schedule) : ref < s.nextRef := by
  apply Nat.lt_of_not_le
  intro unmade
  rw [valid.fresh ref unmade] at found
  cases found

theorem idles : Carries s s [] :=
  ⟨by simp,Nat.le_refl _,valid.fresh,valid.listening,fun ref schedule _ found => ⟨schedule,found,rfl⟩,
    fun _ _ _ pending => .inr (.inl pending),fun _ _ _ _ _ _ was gone => absurd was gone⟩

theorem inserts (resource : ExecutorNode) (unreplaced : s.Unreplaced (.insert resource)) :
    Carries s (s.insert resource) [] := by
  have free := unreplaced
  unfold insert
  dsimp only [Unreplaced] at free
  generalize ({resource with ref:=s.nextRef} : ExecutorNode) = fresh at free ⊢
  generalize resource.executorIndex = executorIndex at free ⊢
  cases inserted : s.pool.insertNode executorIndex fresh with
  | none => exact valid.idles
  | some moved =>
    obtain ⟨pool,notice⟩ := moved
    rw [inserted] at free
    have selects : ∀ other, executorIndex ≠ other → pool.select other = s.pool.select other := by
      intro other apart
      obtain ⟨param,rfl⟩ := ResourceNodePool.insertNode_inserts inserted
      rw [ResourceNodePool.select_insert,if_neg apart]
    have carries := valid.notifies pool [notice] ?_
    · exact ⟨carries.stops,Nat.le_succ _,fun ref made => valid.fresh ref (Nat.le_of_succ_le made),carries.listening,
        carries.same,carries.told,carries.lost⟩
    · intro ref schedule node found running held was gone
      by_cases here : executorIndex = node.executorIndex
      · rw [←here] at was
        rw [free rfl node was ref (valid.made found) schedule found running] at held
        cases held
      · rw [selects _ here] at gone
        exact absurd was gone

theorem deletes (executorIndex : UInt64) : Carries s (s.delete executorIndex) [] := by
  unfold delete
  cases deleted : s.pool.delete executorIndex with
  | none => exact valid.idles
  | some moved =>
    obtain ⟨pool,told⟩ := moved
    apply valid.notifies pool told
    intro ref schedule node found running held was gone
    exact ResourceNodePool.delete_tells deleted was gone

theorem deletes_all : Carries s s.deleteAll [] := by
  apply valid.notifies _ _
  intro ref schedule node found running held was gone
  exact ResourceNodePool.deleteAll_tells was

-- A schedule moves on and holds what it held.
theorem puts {listeners : List Nat} (found : s.schedules ref = some old) (holds : new.holds = old.holds)
    (more : ∀ other ∈ s.listenerSet, other ∈ listeners)
    (started : new.started = true → old.started = true ∨ ref ∈ listeners)
    (stops : ∀ event ∈ acted, ∃ ref errorCode, event = .stopRequested ref errorCode) :
    Carries s {s.putSchedule ref new with listenerSet:=listeners} acted := by
  have made := valid.made found
  refine ⟨stops,Nat.le_refl _,?_,?_,?_,fun _ _ _ pending => .inr (.inl pending),
    fun _ _ _ _ _ _ was gone => absurd was gone⟩
  · intro other unmade
    have apart : other ≠ ref := fun same => absurd made (Nat.not_lt.mpr (same ▸ unmade))
    exact (Function.update_of_ne apart ..).trans (valid.fresh other unmade)
  · intro other schedule present begun
    by_cases same : other = ref
    · subst same
      simp only [putSchedule,Function.update_self,Option.some.injEq] at present
      subst present
      rcases started begun with before | now
      · exact more other (valid.listening other old found before)
      · exact now
    · simp only [putSchedule,Function.update_of_ne same] at present
      exact more other (valid.listening other schedule present begun)
  · intro other schedule _ present
    by_cases same : other = ref
    · subst same
      simp only [putSchedule,Function.update_self,Option.some.injEq] at present
      subst present
      exact ⟨old,found,holds⟩
    · simp only [putSchedule,Function.update_of_ne same] at present
      exact ⟨schedule,present,rfl⟩

theorem stops (found : s.schedules ref = some schedule) (errorCode : ResultCode) :
    Carries s (s.stopSchedule ref schedule errorCode).1 (s.stopSchedule ref schedule errorCode).2 :=
  valid.puts found rfl (fun _ member => member) .inl fun _ member => ⟨ref,errorCode,List.mem_singleton.mp member⟩

theorem builds (info : EngScheduleInfo) (expires : Bool) : Carries s (s.build info expires) [] := by
  unfold build
  split
  · exact valid.idles
  · rename_i fresh built
    refine ⟨by simp,Nat.le_succ _,?_,?_,?_,fun _ _ _ pending => .inr (.inl pending),
      fun _ _ _ _ _ _ was gone => absurd was gone⟩
    · intro ref unmade
      have apart : ref ≠ s.nextRef := fun same => absurd unmade (by rw [same]; exact Nat.not_succ_le_self _)
      exact (Function.update_of_ne apart ..).trans (valid.fresh ref (Nat.le_of_succ_le unmade))
    · intro ref schedule present begun
      by_cases same : ref = s.nextRef
      · subst same
        simp only [putSchedule,Function.update_self,Option.some.injEq] at present
        subst present
        rw [ScheduleNodeHelper.scheduled_unstarted built] at begun
        cases begun
      · simp only [putSchedule,Function.update_of_ne same] at present
        exact valid.listening ref schedule present begun
    · intro ref schedule made present
      have apart : ref ≠ s.nextRef := Nat.ne_of_lt made
      simp only [putSchedule,Function.update_of_ne apart] at present
      exact ⟨schedule,present,rfl⟩

theorem destroys (ref : Nat) :
    Carries s {s with schedules:=Function.update s.schedules ref none,listenerSet:=s.listenerSet.erase ref} [] := by
  have kept : ∀ other schedule, Function.update s.schedules ref none other = some schedule →
      other ≠ ref ∧ s.schedules other = some schedule := by
    intro other schedule present
    by_cases same : other = ref
    · simp [same] at present
    · rw [Function.update_of_ne same] at present
      exact ⟨same,present⟩
  refine ⟨by simp,Nat.le_refl _,?_,?_,?_,fun _ _ _ pending => .inr (.inl pending),
    fun _ _ _ _ _ _ was gone => absurd was gone⟩
  · intro other unmade
    by_cases same : other = ref
    · subst same
      exact Function.update_self ..
    · exact (Function.update_of_ne same ..).trans (valid.fresh other unmade)
  · intro other schedule present begun
    obtain ⟨apart,found⟩ := kept other schedule present
    exact (List.mem_erase_of_ne apart).mpr (valid.listening other schedule found begun)
  · intro other schedule _ present
    exact ⟨schedule,(kept other schedule present).2,rfl⟩

end Valid

-- A notice has been told: nobody waits for it who was not asked to stop.
theorem Carries.forgets {s t : SchedulePool} (carries : Carries s t acted) (pool : t.pool = s.pool)
    (notices : t.notices = s.notices) (told : Nat × PoolNotice ExecutorNode)
    (asked : ∀ node schedule, told.2 = .deleted node → s.schedules told.1 = some schedule → schedule.holds node = true →
      ∃ errorCode, .stopRequested told.1 errorCode ∈ acted) :
    Carries s {t with notices:=t.notices.erase told} acted := by
  refine ⟨carries.stops,carries.later,carries.fresh,carries.listening,carries.same,?_,?_⟩
  · intro ref node holder pending
    by_cases same : told = (ref,.deleted node)
    · subst same
      obtain ⟨schedule,found,held⟩ := holder
      exact .inl (asked node schedule rfl found held)
    · rw [←notices] at pending
      exact .inr (.inl ((List.mem_erase_of_ne (Ne.symm same)).mpr pending))
  · intro ref schedule node _ _ _ was gone
    rw [←pool] at was
    exact absurd was gone

namespace Valid
variable {s : SchedulePool} {events : List ScheduleEvent} (valid : s.Valid events)
include valid

theorem tells (listener : Nat) (notice : PoolNotice ExecutorNode) :
    Carries s ({s with notices:=s.notices.erase (listener,notice)}.onResourceNodePool listener notice).1
      ({s with notices:=s.notices.erase (listener,notice)}.onResourceNodePool listener notice).2 := by
  unfold onResourceNodePool
  cases notice with
  | inserted node | updated node =>
    exact valid.idles.forgets rfl rfl _ fun _ _ same => by cases same
  | deleted resource =>
    dsimp only
    split
    · rename_i absent
      refine valid.idles.forgets rfl rfl _ fun node schedule same found => ?_
      rw [absent] at found
      cases found
    · rename_i schedule found
      split
      · refine (valid.stops found ResultCode.GENERAL_ERROR).forgets rfl rfl (listener,.deleted resource) ?_
        exact fun _ _ _ _ _ => ⟨ResultCode.GENERAL_ERROR,List.mem_singleton.mpr rfl⟩
      · rename_i other
        refine valid.idles.forgets rfl rfl _ fun node schedule' same found' held => ?_
        cases same
        cases found.symm.trans found'
        exact absurd held other

theorem acts (input : Input) (unreplaced : s.Unreplaced input) : Carries s (s.act input).1 (s.act input).2 := by
  cases input with
  | insert resource => exact valid.inserts resource unreplaced
  | delete executorIndex => exact valid.deletes executorIndex
  | deleteAll => exact valid.deletes_all
  | tell listener notice =>
    dsimp only [act]
    split
    · exact valid.tells listener notice
    · exact valid.idles
  | build info expires => exact valid.builds info expires
  | startSchedule ref =>
    dsimp only [act]
    split
    · exact valid.idles
    · rename_i schedule found
      exact valid.puts found rfl (fun _ member => List.mem_cons_of_mem _ member) (fun _ => .inr List.mem_cons_self)
        (by simp)
  | stopSchedule ref errorCode =>
    dsimp only [act]
    split
    · exact valid.idles
    · rename_i schedule found
      exact valid.stops found errorCode
  | machine ref input =>
    dsimp only [act]
    split
    · exact valid.idles
    · rename_i schedule found
      exact valid.puts found rfl (fun _ member => member) .inl (by simp)
  | destroy ref => exact valid.destroys ref

end Valid

theorem initial_valid : initial.Valid [] := by
  refine ⟨fun _ _ => rfl,?_,?_,?_⟩
  · intro ref schedule found
    cases found
  · intro ref node lost
    cases lost
  · intro ref node lost
    cases lost

-- While no insert replaces a node that a running schedule holds, every running
-- schedule that loses an executor is asked to stop.
theorem losses_answered (inputs : List Input) (unreplaced : schedulePool.Meets Unreplaced .initial inputs) :
    Answered (schedulePool.after .initial inputs) (schedulePool.trace .initial inputs) := by
  have kept := Mealy.guarded_history (m:=schedulePool) (h:=[]) (P:=Valid) (c:=Unreplaced)
    (fun s h input valid unreplaced => valid.carried (valid.acts input unreplaced)) initial_valid unreplaced
  exact kept.answered

def facePad (ref : Nat) : ExecutorNode := ⟨ref,5,AuthType.FACE,ExecutorRole.ALL_IN_ONE,1⟩

def faceScheduled : List Input := [.insert (facePad 0),.build ⟨7,AuthType.FACE,[5],[[]]⟩ false,.startSchedule 1]

-- A schedule starts on an executor, which is deleted; its listener hears of it.
theorem deleted_executor_stops : Answered
    (schedulePool.after .initial (faceScheduled ++ [.delete 5,.tell 1 (.deleted (facePad 0))]))
    (schedulePool.trace .initial (faceScheduled ++ [.delete 5,.tell 1 (.deleted (facePad 0))])) :=
  losses_answered _ ⟨by decide,by decide,by decide,by decide,by decide,trivial⟩

-- The executor registers again under its index: the schedule that held the old
-- node is told of an update and goes on.
theorem replaced_executor_unanswered : ¬Answered
    (schedulePool.after .initial (faceScheduled ++ [.insert (facePad 2),.tell 1 (.updated (facePad 2))]))
    (schedulePool.trace .initial (faceScheduled ++ [.insert (facePad 2),.tell 1 (.updated (facePad 2))])) := by
  intro answered
  rcases answered 1 (facePad 0) (by decide) with ⟨errorCode,asked⟩ | told | absent
  · have events : schedulePool.trace .initial (faceScheduled ++ [.insert (facePad 2),.tell 1 (.updated (facePad 2))]) =
        [.loses 1 (facePad 0),.loses 1 (facePad 0)] := by decide
    rw [events] at asked
    simp at asked
  · revert told
    decide
  · cases absent

end SchedulePool
end UserAuth
