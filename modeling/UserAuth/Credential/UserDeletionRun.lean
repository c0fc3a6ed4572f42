import UserAuth.Credential.UserDeletions

namespace UserAuth
open Std

namespace UserIdmService
open IdmWork
variable {s : UserIdmService} {h : List IdmEvent}

section Perform
variable (s) (alive : Bool) (preempt : PreemptAnswers) (item : IdmWork)

theorem schedule_trail (context : Option Context) (tokenId : UInt32) :
    (s.schedule context tokenId preempt).2.2.filterMap IdmEffect.trail ++
      trailOf (s.schedule context tokenId preempt).2.1 = [] := by
  have failed : ResultCode.GENERAL_ERROR ≠ ResultCode.SUCCESS := by decide
  unfold UserIdmService.schedule
  cases context with
  | none => simp [IdmEffect.trail,trailOf,failed]
  | some context =>
    dsimp only
    split <;> simp [IdmEffect.trail,trailOf,failed]

-- What was planned is what is done, or still planned.
theorem perform_trail : (s.perform alive preempt item).2.2.filterMap IdmEffect.trail ++
    trailOf (s.perform alive preempt item).2.1 = trailOf [item] := by
  cases item with
  | cancelCurrentEnroll contextList =>
    cases contextList with
    | nil => rfl
    | cons context contextList =>
      simp only [perform]
      split <;> rfl
  | cancelOwn tokenId contextList ret =>
    cases contextList with
    | nil => rfl
    | cons context contextList =>
      simp only [perform]
      split <;> rfl
  | closeSession tokenId answer =>
    simp only [perform]
    split <;> rfl
  | schedule context tokenId => exact schedule_trail s preempt context tokenId
  | notifyExecutorToDeleteTemplates info changeReasonTrace =>
    simp only [perform,notify]
    split <;> rfl
  | emit effect =>
    simp only [perform,trailOf,IdmWork.trail]
    exact List.append_nil _
  | _ => rfl

-- What is added to the work leaves nobody to be told, and returns only where the item does.
theorem perform_adds : ∀ more ∈ (s.perform alive preempt item).2.1,
    more.short = true ∧ more.trail = none ∧ (more.returns = true → item.returns = true) := by
  cases item with
  | cancelCurrentEnroll contextList => cases contextList <;> simp [perform,IdmWork.short,IdmWork.trail,IdmWork.returns]
  | cancelOwn tokenId contextList ret =>
    cases contextList with
    | nil => exact fun _ new => absurd new List.not_mem_nil
    | cons context contextList =>
      simp only [perform]
      split <;> simp [IdmWork.short,IdmWork.trail,IdmWork.returns]
  | closeSession tokenId answer =>
    simp only [perform]
    split <;> exact fun _ new => absurd new List.not_mem_nil
  | schedule context tokenId =>
    cases context with
    | none => exact fun _ new => absurd new List.not_mem_nil
    | some context =>
      simp only [perform,UserIdmService.schedule]
      split <;> exact fun _ new => absurd new List.not_mem_nil
  | _ => simp [perform,IdmWork.short,IdmWork.trail,IdmWork.returns]

theorem perform_returns (returned : .returned code infos ∈ (s.perform alive preempt item).2.2) : item.returns = true := by
  cases item with
  | cancelCurrentEnroll contextList =>
    cases contextList with
    | nil => cases returned
    | cons context contextList =>
      simp only [perform] at returned
      split at returned <;> simp [cancelContext] at returned
  | notifyExecutorToDeleteTemplates info changeReasonTrace =>
    simp only [perform,notify] at returned
    split at returned <;> simp at returned
  | emit effect =>
    cases List.mem_singleton.mp returned
    rfl
  | cancelOwnEnroll | cancelOwn | closeSession | schedule => rfl
  | lock | unlock | cancelCurrentEnrollIfExist => cases returned
  | openSession tokenId => simp [perform] at returned

theorem trailOf_silent {work : List IdmWork} (silent : ∀ item ∈ work, item.trail = none) : trailOf work = [] :=
  List.filterMap_eq_nil_iff.mpr silent

theorem perform_planned {item : IdmWork} {rest : List IdmWork} (planned : Planned (item :: rest)) :
    Planned ((s.perform alive preempt item).2.1 ++ rest) := by
  have adds := perform_adds s alive preempt item
  obtain ⟨last,closing⟩ := List.pairwise_cons.mp planned.closing
  refine ⟨fun other member => ?_,List.pairwise_append.mpr ⟨?_,closing,?_⟩⟩
  · exact (List.mem_append.mp member).elim (fun new => (adds other new).1)
      fun old => planned.brief other (List.mem_cons_of_mem _ old)
  · exact List.pairwise_iff_forall_sublist.mpr fun sub _ =>
      (adds _ (sub.subset (List.mem_cons_of_mem _ List.mem_cons_self))).2.1
  · exact fun more new later old returns => last later old ((adds more new).2.2 returns)

variable {s item}

theorem notify_right (keyed : ExecutorPool.Keyed s.resourceNodes) (info : CredentialInfoImpl)
    (short : changeReasonTrace.length < Attributes.MAX_ATTR_LENGTH) : (s.notify info changeReasonTrace).Right := by
  unfold notify
  cases held : s.resourceNodes.select info.executorIndex with
  | none => rfl
  | some resourceNode =>
    refine ⟨keyed _ _ held,?_⟩
    exact PooledExecutor.setProperty_delete resourceNode s.callbacks info.templateId short

theorem perform_right (keyed : ExecutorPool.Keyed s.resourceNodes) (short : item.short = true) :
    ∀ effect ∈ (s.perform alive preempt item).2.2, effect.Right := by
  cases item with
  | cancelCurrentEnroll contextList =>
    cases contextList with
    | nil => exact fun _ member => absurd member List.not_mem_nil
    | cons context contextList =>
      simp only [perform]
      split <;> simp [cancelContext,IdmEffect.Right]
  | cancelOwn tokenId contextList ret =>
    cases contextList with
    | nil => simp [perform,IdmEffect.Right]
    | cons context contextList =>
      simp only [perform]
      split <;> simp [cancelContext,IdmEffect.Right]
  | closeSession tokenId answer =>
    simp only [perform]
    split <;> simp [IdmEffect.Right]
  | schedule context tokenId =>
    cases context with
    | none => simp [perform,UserIdmService.schedule,IdmEffect.Right]
    | some context =>
      simp only [perform,UserIdmService.schedule]
      split <;> simp [IdmEffect.Right]
  | notifyExecutorToDeleteTemplates info changeReasonTrace =>
    intro effect member
    cases List.mem_singleton.mp member
    exact notify_right keyed info (of_decide_eq_true short)
  | emit given =>
    intro effect member
    cases List.mem_singleton.mp member
    cases given with
    | notified info resourceNode call => cases short
    | _ => trivial
  | _ => simp [perform,IdmEffect.Right]

end Perform
section Effects

theorem effectsOf_append (call : Nat) (h more : List IdmEvent) : effectsOf call (h ++ more) =
    effectsOf call h ++ effectsOf call more := List.filterMap_append

theorem effectsOf_own (call : Nat) (effects : List IdmEffect) :
    effectsOf call (effects.map (.effect call)) = effects := by
  unfold effectsOf
  rw [List.filterMap_map]
  refine (List.filterMap_congr fun effect _ => ?_).trans List.filterMap_some
  exact if_pos rfl

theorem effectsOf_other (apart : other ≠ call) (effects : List IdmEffect) :
    effectsOf call (effects.map (.effect other)) = [] := by
  refine List.filterMap_eq_nil_iff.mpr fun event member => ?_
  obtain ⟨effect,_,rfl⟩ := List.mem_map.mp member
  exact if_neg apart

end Effects

structure Followed (s : UserIdmService) (h : List IdmEvent) : Prop where
  keyed : ExecutorPool.Keyed s.resourceNodes
  fresh : ∀ call, s.nextCall ≤ call → s.calls call = [] ∧ effectsOf call h = []
  known : ∀ call caller request, .request call caller request ∈ h → call < s.nextCall
  planned : ∀ call caller request, .request call caller request ∈ h →
    (effectsOf call h).filterMap IdmEffect.trail ++ trailOf (s.calls call) = trailOf (workOf caller request)
  work : ∀ call, Planned (s.calls call)
  returned : ∀ call code infos, .returned code infos ∈ effectsOf call h → trailOf (s.calls call) = []
  right : ∀ call, ∀ effect ∈ effectsOf call h, effect.Right
  refused : ∀ call caller request, .request call caller request ∈ h → caller.checkPermission request.permission = false →
    ∃ rest, effectsOf call h ++ rest = request.refusal ∧ s.calls call = rest.map emit

section Steps

-- Of events that are no call's.
theorem Followed.aside (followed : Followed s h) {more : List IdmEvent} (none : ∀ call, effectsOf call more = [])
    (unasked : ∀ call caller request, .request call caller request ∉ more) : Followed s (h ++ more) := by
  have same (call : Nat) : effectsOf call (h ++ more) = effectsOf call h := by
    rw [effectsOf_append,none,List.append_nil]
  have old {call caller request} (member : .request call caller request ∈ h ++ more) : .request call caller request ∈ h :=
    (List.mem_append.mp member).resolve_right (unasked call caller request)
  exact {
    keyed := followed.keyed
    fresh := fun call late => by
      rw [same]
      exact followed.fresh call late
    known := fun call caller request member => followed.known call caller request (old member)
    planned := fun call caller request member => by
      rw [same]
      exact followed.planned call caller request (old member)
    work := followed.work
    returned := fun call => by
      rw [same]
      exact followed.returned call
    right := fun call => by
      rw [same]
      exact followed.right call
    refused := fun call caller request member => by
      rw [same]
      exact followed.refused call caller request (old member)}

-- One call does a piece of its work.
theorem Followed.perform (followed : Followed s h) {call : Nat} {item : IdmWork} {rest : List IdmWork}
    (here : s.calls call = item :: rest) (alive : Bool) (preempt : PreemptAnswers) :
    let done := s.perform alive preempt item
    Followed {done.1 with calls:=Function.update s.calls call (done.2.1 ++ rest)} (h ++ done.2.2.map (.effect call)) := by
  intro done
  have kept : Kept s done.1 := perform_kept s alive preempt item
  have plan := here ▸ followed.work call
  have own : effectsOf call (h ++ done.2.2.map (.effect call)) = effectsOf call h ++ done.2.2 := by
    rw [effectsOf_append,effectsOf_own]
  have apart {other : Nat} (differs : other ≠ call) :
      effectsOf other (h ++ done.2.2.map (.effect call)) = effectsOf other h := by
    rw [effectsOf_append,effectsOf_other (Ne.symm differs),List.append_nil]
  have old {other caller request} (member : .request other caller request ∈ h ++ done.2.2.map (.effect call)) :
      .request other caller request ∈ h := (List.mem_append.mp member).resolve_right (by simp)
  exact {
    keyed := by
      rw [kept.resourceNodes]
      exact followed.keyed
    fresh := by
      intro other late
      rw [kept.nextCall] at late
      have differs : other ≠ call := by
        rintro rfl
        have none := (followed.fresh other late).1
        simp [here] at none
      rw [apart differs]
      exact ⟨(Function.update_of_ne differs _ _).trans (followed.fresh other late).1,(followed.fresh other late).2⟩
    known := by
      intro other caller request member
      rw [kept.nextCall]
      exact followed.known other caller request (old member)
    planned := by
      intro other caller request member
      have before := followed.planned other caller request (old member)
      dsimp only
      by_cases same : other = call
      · subst same
        rw [here] at before
        rw [own,Function.update_self,List.filterMap_append,trailOf_append]
        have moved := perform_trail s alive preempt item
        calc (effectsOf other h).filterMap IdmEffect.trail ++ done.2.2.filterMap IdmEffect.trail ++
              (trailOf done.2.1 ++ trailOf rest)
          _ = (effectsOf other h).filterMap IdmEffect.trail ++
                ((done.2.2.filterMap IdmEffect.trail ++ trailOf done.2.1) ++ trailOf rest) := by
              simp only [List.append_assoc]
          _ = (effectsOf other h).filterMap IdmEffect.trail ++ (trailOf [item] ++ trailOf rest) := by rw [moved]
          _ = trailOf (workOf caller request) := by
              rw [← trailOf_append]
              exact before
      · rw [apart same,Function.update_of_ne same]
        exact before
    work := by
      intro other
      dsimp only
      by_cases same : other = call
      · subst same
        rw [Function.update_self]
        exact perform_planned s alive preempt plan
      · rw [Function.update_of_ne same]
        exact followed.work other
    returned := by
      intro other code infos told
      dsimp only
      by_cases same : other = call
      · subst same
        rw [own] at told
        rw [Function.update_self,trailOf_append,
          trailOf_silent fun more new => (perform_adds s alive preempt item more new).2.1,List.nil_append]
        rcases List.mem_append.mp told with old | new
        · have before := followed.returned other code infos old
          rw [here] at before
          exact trailOf_silent fun later member =>
            List.filterMap_eq_nil_iff.mp before later (List.mem_cons_of_mem _ member)
        · exact trailOf_silent fun later member =>
            (List.pairwise_cons.mp plan.closing).1 later member (perform_returns s alive preempt item new)
      · rw [apart same] at told
        rw [Function.update_of_ne same]
        exact followed.returned other code infos told
    right := by
      intro other
      by_cases same : other = call
      · subst same
        rw [own]
        intro effect member
        rcases List.mem_append.mp member with old | new
        · exact followed.right other effect old
        · exact perform_right alive preempt followed.keyed (plan.brief item List.mem_cons_self) effect new
      · rw [apart same]
        exact followed.right other
    refused := by
      intro other caller request member denied
      obtain ⟨left,said,ahead⟩ := followed.refused other caller request (old member) denied
      dsimp only
      by_cases same : other = call
      · subst same
        rw [here] at ahead
        cases left with
        | nil => cases ahead
        | cons effect left =>
          obtain ⟨rfl,rfl⟩ := List.cons.inj ahead
          rw [own,Function.update_self]
          exact ⟨left,(List.append_assoc _ _ _).trans said,rfl⟩
      · rw [apart same,Function.update_of_ne same]
        exact ⟨left,said,ahead⟩}

theorem Followed.proceed (followed : Followed s h) (call : Nat) (alive : Bool) (preempt : PreemptAnswers) :
    Followed (s.proceed call alive preempt).1 (h ++ (s.proceed call alive preempt).2) := by
  cases here : s.calls call with
  | nil =>
    have idle : s.proceed call alive preempt = (s,[]) := by simp [UserIdmService.proceed,here]
    rw [idle]
    exact (List.append_nil h).symm ▸ followed
  | cons item rest =>
    have moved := followed.perform here alive preempt
    by_cases locking : item = .lock
    · subst locking
      simp only [UserIdmService.proceed,here]
      split
      · exact (List.append_nil h).symm ▸ followed
      · exact {moved with}
    · rw [proceed_item here locking alive preempt]
      exact moved

theorem Followed.request (followed : Followed s h) (caller : IdmCaller) (request : IdmRequest) :
    Followed {s with
      calls:=Function.update s.calls s.nextCall (workOf caller request)
      nextCall:=s.nextCall + 1} (h ++ [.request s.nextCall caller request]) := by
  obtain ⟨idle,silent⟩ := followed.fresh s.nextCall (Nat.le_refl _)
  have same (call : Nat) : effectsOf call (h ++ [.request s.nextCall caller request]) = effectsOf call h := by
    rw [effectsOf_append]
    exact List.append_nil _
  have older {call other given} (member : .request call other given ∈ h) : call ≠ s.nextCall :=
    Nat.ne_of_lt (followed.known call other given member)
  have split {call other given} (member : .request call other given ∈ h ++ [.request s.nextCall caller request]) :
      .request call other given ∈ h ∨ (call = s.nextCall ∧ other = caller ∧ given = request) := by
    refine (List.mem_append.mp member).imp_right fun new => ?_
    cases List.mem_singleton.mp new
    exact ⟨rfl,rfl,rfl⟩
  exact {
    keyed := followed.keyed
    fresh := by
      intro call late
      have apart : call ≠ s.nextCall := fun here => absurd (here ▸ late) (Nat.not_succ_le_self _)
      rw [same]
      have before := followed.fresh call (Nat.le_of_succ_le late)
      exact ⟨(Function.update_of_ne apart _ _).trans before.1,before.2⟩
    known := by
      intro call other given member
      rcases split member with old | ⟨rfl,_,_⟩
      · exact Nat.lt_succ_of_lt (followed.known call other given old)
      · exact Nat.lt_succ_self _
    planned := by
      intro call other given member
      rw [same]
      dsimp only
      rcases split member with old | ⟨rfl,rfl,rfl⟩
      · rw [Function.update_of_ne (older old)]
        exact followed.planned call other given old
      · rw [Function.update_self,silent]
        rfl
    work := by
      intro call
      dsimp only
      by_cases here : call = s.nextCall
      · subst here
        rw [Function.update_self]
        exact workOf_planned caller request
      · rw [Function.update_of_ne here]
        exact followed.work call
    returned := by
      intro call code infos told
      rw [same] at told
      dsimp only
      by_cases here : call = s.nextCall
      · subst here
        rw [silent] at told
        cases told
      · rw [Function.update_of_ne here]
        exact followed.returned call code infos told
    right := by
      intro call
      rw [same]
      exact followed.right call
    refused := by
      intro call other given member denied
      rw [same]
      dsimp only
      rcases split member with old | ⟨rfl,rfl,rfl⟩
      · rw [Function.update_of_ne (older old)]
        exact followed.refused call other given old denied
      · rw [Function.update_self,silent]
        exact ⟨given.refusal,rfl,workOf_refused other given denied⟩}

theorem Followed.executors (followed : Followed s h) {resourceNodes : ExecutorPool}
    (keyed : ExecutorPool.Keyed resourceNodes) : Followed {s with resourceNodes} h := {followed with keyed}

end Steps

end UserIdmService
end UserAuth
