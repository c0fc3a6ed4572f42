import UserAuth.Lib.Emplace
import UserAuth.Pool.ContextPool

namespace UserAuth.ContextPoolImpl
open Emplace Std
variable {preempt : PreemptAnswers}

-- A newer waiter makes a member invisible as its caller's repeat or by the
-- member's own answer. The same test decides who is told to stop.
def Supersedes (preempt : PreemptAnswers) (waiter member : Context) : Prop :=
  member.createTime < waiter.createTime ∧
    (isSameCallerDuplicate waiter member = true ∨ preempt member waiter = .stopNow)

instance : Decidable (Supersedes preempt waiter member) := by unfold Supersedes; infer_instance

def duplicates (waiter : Context) (predecessors : List Context) : List Context :=
  predecessors.filter fun member => decide (member.createTime < waiter.createTime) && isSameCallerDuplicate waiter member

def victims (preempt : PreemptAnswers) (waiter : Context) (predecessors : List Context) : List Context :=
  predecessors.filter fun member => decide (member.createTime < waiter.createTime) &&
    (!isSameCallerDuplicate waiter member && preempt member waiter == .stopNow)

def visibleTo (preempt : PreemptAnswers) (waiter : Context) (predecessors : List Context) : List Context :=
  predecessors.filter fun member => !decide (Supersedes preempt waiter member)

theorem mem_collected : member ∈ duplicates waiter predecessors ++ victims preempt waiter predecessors ↔
    member ∈ predecessors ∧ Supersedes preempt waiter member := by
  simp only [duplicates,victims,List.mem_append,List.mem_filter,Supersedes,Bool.and_eq_true,decide_eq_true_eq,
    Bool.not_eq_true',beq_iff_eq,←and_or_left]
  cases isSameCallerDuplicate waiter member <;> simp

theorem mem_visibleTo : member ∈ visibleTo preempt waiter predecessors ↔
    member ∈ predecessors ∧ ¬Supersedes preempt waiter member := by simp [visibleTo]

theorem survey_eq (waiter : Context) (predecessors : List Context) (s : Survey) :
    predecessors.foldl (surveyMember preempt waiter) s =
      ⟨emplaceAll Context.contextId s.toStop (duplicates waiter predecessors),
        s.pendingVictims ++ (victims preempt waiter predecessors).map (fun victim => (victim.contextId,victim)),
        s.visible ++ visibleTo preempt waiter predecessors⟩ := by
  induction predecessors generalizing s with
  | nil => simp [duplicates,victims,visibleTo]
  | cons member rest ih =>
    rw [List.foldl_cons,ih]
    by_cases newer : member.createTime < waiter.createTime
    · cases repeated : isSameCallerDuplicate waiter member with
      | true => simp [surveyMember,duplicates,victims,visibleTo,Supersedes,newer,repeated]
      | false =>
        by_cases yields : preempt member waiter = .stopNow <;>
          simp [surveyMember,duplicates,victims,visibleTo,Supersedes,newer,repeated,yields]
    · simp [surveyMember,duplicates,victims,visibleTo,Supersedes,newer]

theorem emplaceVictims_eq (toStop : ExtTreeMap UInt64 Context) (members : List Context) :
    emplaceVictims toStop (members.map fun victim => (victim.contextId,victim)) =
      emplaceAll Context.contextId toStop members := by
  unfold emplaceVictims emplaceAll
  rw [List.foldl_map]

theorem promoteWaiter_eq (p : Promotion) (waiter : Context) :
    promoteWaiter preempt p waiter =
      let toStop := emplaceAll Context.contextId p.plan.toStop
        (duplicates waiter p.predecessors ++ victims preempt waiter p.predecessors)
      if waiter.canStart (visibleTo preempt waiter p.predecessors) then
        ⟨p.predecessors ++ [waiter],emplace p.runningContexts waiter,p.waitingFifo,⟨toStop,p.plan.toStart ++ [waiter]⟩⟩
      else ⟨p.predecessors ++ [waiter],p.runningContexts,p.waitingFifo ++ [waiter],⟨toStop,p.plan.toStart⟩⟩ := by
  unfold promoteWaiter survey
  simp only [survey_eq,List.nil_append,emplaceVictims_eq,emplaceAll_append]
  cases waiter.canStart (visibleTo preempt waiter p.predecessors) <;> rfl

-- What a pass over `queue` on top of `held` has come to. Admission and
-- preemption of each waiter refer to everything in front of it.
structure Promoted (preempt : PreemptAnswers) (held queue : List Context) (p : Promotion) : Prop where
  predecessors : p.predecessors = held ++ queue
  running : p.runningContexts = held ++ p.plan.toStart
  started : p.plan.toStart.Sublist queue
  waiting : p.waitingFifo.Sublist queue
  shared : (p.plan.toStart ++ p.waitingFifo).Perm queue
  filed : ∀ id context, p.plan.toStop[id]? = some context → context.contextId = id ∧ context ∈ held ++ queue
  stops : ∀ context ∈ held ++ queue, (p.plan.Stops context ↔ ∃ front waiter, front ++ [waiter] <+: queue ∧
    context ∈ held ++ front ∧ Supersedes preempt waiter context)
  admitted : ∀ waiter ∈ p.plan.toStart, ∃ front, front ++ [waiter] <+: queue ∧
    waiter.canStart (visibleTo preempt waiter (held ++ front)) = true
  kept : ∀ waiter ∈ p.waitingFifo, ∃ front, front ++ [waiter] <+: queue ∧
    waiter.canStart (visibleTo preempt waiter (held ++ front)) = false

def DistinctIds (members : List Context) : Prop := (members.map Context.contextId).Nodup

theorem DistinctIds.eq (distinct : DistinctIds members) (left : a ∈ members) (right : b ∈ members)
    (same : a.contextId = b.contextId) : a = b := List.inj_on_of_nodup_map distinct left right same

theorem DistinctIds.front (distinct : DistinctIds (members ++ others)) : DistinctIds members :=
  List.Nodup.of_append_left (by simpa only [DistinctIds,List.map_append] using distinct)

theorem DistinctIds.fresh (distinct : DistinctIds (members ++ [last])) (member : a ∈ members) :
    a.contextId ≠ last.contextId := by
  simp only [DistinctIds,List.map_append,List.map_cons,List.map_nil,List.nodup_append] at distinct
  exact distinct.2.2 _ (List.mem_map_of_mem member) _ (List.mem_singleton_self _)

theorem emplace_fresh (fresh : ∀ a ∈ running, a.contextId ≠ context.contextId) :
    emplace running context = running ++ [context] := by
  unfold emplace
  rw [if_neg]
  simpa only [List.any_eq_true,beq_iff_eq,not_exists,not_and] using fresh

theorem prefix_snoc {front queue : List Context} :
    front ++ [waiter] <+: queue ++ [last] ↔ front ++ [waiter] <+: queue ∨ (front = queue ∧ waiter = last) := by
  rw [List.prefix_concat_iff,or_comm]
  refine or_congr_right ⟨fun same => ?_,fun ⟨same,end_⟩ => by rw [same,end_]⟩
  have parts := List.append_inj' same rfl
  exact ⟨parts.1,by simpa using parts.2⟩

theorem promoted_start (held : List Context) : Promoted preempt held [] ⟨held,held,[],⟨∅,[]⟩⟩ where
  predecessors := by simp
  running := by simp
  started := .slnil
  waiting := .slnil
  shared := .nil
  filed := by simp
  stops := by simp [AdmissionPlan.Stops]
  admitted := by simp
  kept := by simp

theorem promoted_stops (p : Promotion) (last : Context) (before : Promoted preempt held queue p)
    (distinct : DistinctIds (held ++ queue ++ [last])) :
    let toStop := emplaceAll Context.contextId p.plan.toStop
      (duplicates last p.predecessors ++ victims preempt last p.predecessors)
    (∀ id context, toStop[id]? = some context → context.contextId = id ∧ context ∈ held ++ queue) ∧
      ∀ context ∈ held ++ (queue ++ [last]), (toStop[context.contextId]? = some context ↔
        ∃ front waiter, front ++ [waiter] <+: queue ++ [last] ∧ context ∈ held ++ front ∧
          Supersedes preempt waiter context) := by
  intro toStop
  have within : ∀ member ∈ duplicates last p.predecessors ++ victims preempt last p.predecessors,
      member ∈ held ++ queue := by
    intro member collected
    simpa only [before.predecessors] using (mem_collected.mp collected).1
  have filed := emplaceAll_old Context.contextId _ _ _ before.filed within
  refine ⟨filed,?_⟩
  intro context member
  rw [←List.append_assoc,List.mem_append,List.mem_singleton] at member
  rcases member with member | rfl
  · rw [emplaceAll_holds Context.contextId _ _ _ (fun _ left _ right => distinct.front.eq left right) before.filed within member,
      mem_collected,before.predecessors]
    have old := before.stops context member
    simp only [AdmissionPlan.Stops] at old
    rw [old]
    constructor
    · rintro (⟨front,waiter,ahead,seen,newer⟩ | ⟨_,newer⟩)
      · exact ⟨front,waiter,prefix_snoc.mpr (.inl ahead),seen,newer⟩
      · exact ⟨queue,last,prefix_snoc.mpr (.inr ⟨rfl,rfl⟩),member,newer⟩
    · rintro ⟨front,waiter,ahead,seen,newer⟩
      rcases prefix_snoc.mp ahead with ahead | ⟨rfl,rfl⟩
      · exact .inl ⟨front,waiter,ahead,seen,newer⟩
      · exact .inr ⟨seen,newer⟩
  · have absent : context ∉ held ++ queue := fun seen => distinct.fresh seen rfl
    constructor
    · intro found
      exact absurd (filed _ _ found).2 absent
    · rintro ⟨front,waiter,ahead,seen,_⟩
      refine absurd ?_ absent
      rcases prefix_snoc.mp ahead with ahead | ⟨rfl,_⟩
      · have front : front <+: queue := (List.prefix_append _ _).trans ahead
        simp only [List.mem_append] at seen ⊢
        exact seen.imp_right fun inside => front.subset inside
      · exact seen

theorem promoted_snoc (p : Promotion) (last : Context) (before : Promoted preempt held queue p)
    (distinct : DistinctIds (held ++ queue ++ [last])) :
    Promoted preempt held (queue ++ [last]) (promoteWaiter preempt p last) := by
  obtain ⟨filed,stops⟩ := promoted_stops p last before distinct
  have filed : ∀ id context, (emplaceAll Context.contextId p.plan.toStop (duplicates last p.predecessors ++
      victims preempt last p.predecessors))[id]? = some context → context.contextId = id ∧ context ∈ held ++ (queue ++ [last]) := by
    intro id context found
    refine (filed id context found).imp_right fun inside => ?_
    rw [←List.append_assoc]
    exact List.mem_append_left _ inside
  have older : ∀ waiter (P : List Context → Prop), (∃ front, front ++ [waiter] <+: queue ∧ P front) →
      ∃ front, front ++ [waiter] <+: queue ++ [last] ∧ P front :=
    fun _ _ ⟨front,ahead,holds⟩ => ⟨front,prefix_snoc.mpr (.inl ahead),holds⟩
  have newest : queue ++ [last] <+: queue ++ [last] := List.prefix_refl _
  have fresh : ∀ a ∈ p.runningContexts, a.contextId ≠ last.contextId := by
    intro a inside
    rw [before.running,List.mem_append] at inside
    exact distinct.fresh (List.mem_append.mpr (inside.imp_right fun started => before.started.subset started))
  rw [promoteWaiter_eq]
  cases allowed : last.canStart (visibleTo preempt last p.predecessors) with
  | true =>
    simp only [if_true]
    exact {
      predecessors := by rw [before.predecessors,List.append_assoc]
      running := by rw [emplace_fresh fresh,before.running,List.append_assoc]
      started := before.started.append (List.Sublist.refl _)
      waiting := before.waiting.trans (List.sublist_append_left _ _)
      shared := by
        rw [List.append_assoc]
        refine (List.Perm.append_left _ List.perm_append_comm).trans ?_
        rw [←List.append_assoc]
        exact before.shared.append_right _
      filed
      stops
      admitted := by
        intro waiter started
        rcases List.mem_append.mp started with old | new
        · exact older _ _ (before.admitted waiter old)
        · cases List.mem_singleton.mp new
          exact ⟨queue,newest,by rw [←before.predecessors]; exact allowed⟩
      kept := fun waiter stays => older _ _ (before.kept waiter stays)}
  | false =>
    simp only [Bool.false_eq_true,if_false]
    exact {
      predecessors := by rw [before.predecessors,List.append_assoc]
      running := before.running
      started := before.started.trans (List.sublist_append_left _ _)
      waiting := before.waiting.append (List.Sublist.refl _)
      shared := by
        rw [←List.append_assoc]
        exact before.shared.append_right _
      filed
      stops
      admitted := fun waiter started => older _ _ (before.admitted waiter started)
      kept := by
        intro waiter stays
        rcases List.mem_append.mp stays with old | new
        · exact older _ _ (before.kept waiter old)
        · cases List.mem_singleton.mp new
          exact ⟨queue,newest,by rw [←before.predecessors]; exact allowed⟩}

theorem promoted_run (held queue : List Context) (distinct : DistinctIds (held ++ queue)) :
    Promoted preempt held queue (queue.foldl (promoteWaiter preempt) ⟨held,held,[],⟨∅,[]⟩⟩) := by
  induction queue using List.reverseRecOn with
  | nil => exact promoted_start held
  | append_singleton queue last ih =>
    rw [List.foldl_append]
    rw [←List.append_assoc] at distinct
    exact promoted_snoc _ _ (ih distinct.front) distinct

theorem promotion_promoted (pool : ContextPoolImpl) (distinct : DistinctIds pool.contexts) :
    Promoted preempt pool.runningContexts pool.waitingFifo (promotion preempt pool) :=
  promoted_run _ _ distinct

end UserAuth.ContextPoolImpl
