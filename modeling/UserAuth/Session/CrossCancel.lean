import UserAuth.Session.SessionObject

namespace UserAuth
open SessionCall

namespace SessionObject

def enrolls : SessionObject → Bool
  | .enrollment _ => true
  | _ => false

theorem enrolls_user (object : SessionObject) (same : object.session = .enrollment userId) : object.enrolls = true := by
  cases object with
  | authentication | identification => cases same
  | enrollment => rfl

theorem user_enrolled (object : SessionObject) (enrolls : object.enrolls = true) : ∃ userId, object.session = .enrollment userId := by
  cases object with
  | authentication | identification => cases enrolls
  | enrollment enroll => exact ⟨_,rfl⟩

end SessionObject

namespace SessionObjects

-- An enrollment begins for a user while no other enrollment of that user runs.
def Unshared (s : SessionObjects) : Input → Prop
  | .start ref answers => ∀ object ∈ s.objects ref, object.begins answers = true → object.enrolls = true →
      ∀ other < s.nextRef, ∀ rival ∈ s.objects other, rival.running = true → rival.session = object.session → other = ref
  | _ => True

instance (s : SessionObjects) (input : Input) : Decidable (s.Unshared input) := by
  cases input <;> dsimp only [Unshared] <;> infer_instance

-- The session of a running enrollment's user, if there is one, is its own.
structure Owned (s : SessionObjects) (calls : List SessionCall) : Prop where
  fresh : s.Fresh
  owns : ∀ ref object, s.objects ref = some object → object.running = true → ∀ userId,
    object.session = .enrollment userId → ∀ owner ∈ holder (.enrollment userId) calls, owner = ref
  uncrossed : Uncrossed calls

-- After these calls the engine holds no session that it did not hold before.
def Fewer (calls after : List SessionCall) : Prop :=
  ∀ session, ∀ owner ∈ holder session after, owner ∈ holder session calls

theorem fewer_refl (calls : List SessionCall) : Fewer calls calls := fun _ _ member => member

theorem updates_fewer (calls : List SessionCall) (ref : Nat) (ended : EngineSession) :
    Fewer calls (calls ++ [.updates ref ended]) := by
  intro session owner member
  rw [holder_concat,leavesHolder] at member
  split at member
  · cases member
  · exact member

theorem cancels_fewer (calls : List SessionCall) (ref : Nat) (object : SessionObject) :
    Fewer calls (calls ++ cancels ref object) := by
  intro session owner member
  unfold cancels at member
  split at member
  · rw [holder_concat,leavesHolder] at member
    split at member
    · cases member
    · exact member
  · simpa using member

theorem put_keeps {s : SessionObjects} (found : s.objects ref = some object) (same : next.session = object.session)
    (running : next.running = true → object.running = true) :
    ∀ other held, (s.put ref next).objects other = some held → held.running = true →
      ∃ old, s.objects other = some old ∧ old.running = true ∧ held.session = old.session := by
  intro other held present runs
  by_cases here : other = ref
  · subst here
    simp only [put,Function.update_self,Option.some.injEq] at present
    subst present
    exact ⟨object,found,running runs,same⟩
  · simp only [put,Function.update_of_ne here] at present
    exact ⟨held,present,runs,rfl⟩

namespace Owned
variable {s t : SessionObjects} {calls : List SessionCall} (owned : s.Owned calls)
include owned

-- Nothing is opened, and no object begins to run.
theorem keeps (fewer : Fewer calls after)
    (kept : ∀ ref object, t.objects ref = some object → object.running = true →
      ∃ old, s.objects ref = some old ∧ old.running = true ∧ object.session = old.session) :
    ∀ ref object, t.objects ref = some object → object.running = true → ∀ userId,
      object.session = .enrollment userId → ∀ owner ∈ holder (.enrollment userId) after, owner = ref := by
  intro ref object found running userId same owner member
  obtain ⟨old,was,ran,session⟩ := kept ref object found running
  exact owned.owns ref old was ran userId (session ▸ same) owner (fewer _ owner member)

theorem cancels_own (found : s.objects ref = some object) : Uncrossed (calls ++ cancels ref object) := by
  unfold cancels
  split
  · rename_i running
    refine History.each_concat.mpr ⟨owned.uncrossed,?_⟩
    cases session : object.session with
    | authentication | identification => trivial
    | enrollment userId => exact owned.owns ref object found running userId session
  · simpa using owned.uncrossed

theorem begins (found : s.objects ref = some object) (same : next.session = object.session)
    (unshared : object.enrolls = true → ∀ other < s.nextRef, ∀ rival ∈ s.objects other, rival.running = true →
      rival.session = object.session → other = ref) :
    ∀ other held, (s.put ref next).objects other = some held → held.running = true → ∀ userId,
      held.session = .enrollment userId →
        ∀ owner ∈ holder (.enrollment userId) (calls ++ [.begins ref object.session]), owner = other := by
  intro other held present running userId session owner member
  rw [holder_concat,leavesHolder] at member
  by_cases here : other = ref
  · subst here
    simp only [put,Function.update_self,Option.some.injEq] at present
    subst present
    rw [←same,if_pos session] at member
    exact (Option.some.inj member).symm
  · simp only [put,Function.update_of_ne here] at present
    split at member
    · rename_i begun
      exact absurd (unshared (object.enrolls_user begun) other (owned.fresh.made present) held present running
        (session.trans begun.symm)) here
    · exact owned.owns other held present running userId session owner member

theorem moves (moved : s.Moves input t new) (unshared : s.Unshared input) : t.Owned (calls ++ new) := by
  have fresh := owned.fresh.moves moved
  cases moved with
  | idle => simpa using owned
  | created object idle =>
    rw [List.append_nil]
    refine ⟨fresh,owned.keeps (fewer_refl calls) fun ref held present running => ?_,owned.uncrossed⟩
    by_cases here : ref = s.nextRef
    · subst here
      simp only [create,put,Function.update_self,Option.some.injEq] at present
      subst present
      rw [idle] at running
      cases running
    · simp only [create,put,Function.update_of_ne here] at present
      exact ⟨held,present,running,rfl⟩
  | kept found same running =>
    rw [List.append_nil]
    exact ⟨fresh,owned.keeps (fewer_refl calls) (put_keeps found same (running ▸ id)),owned.uncrossed⟩
  | @begun ref object next answers found same begins running =>
    exact ⟨fresh,owned.begins found same (unshared object found begins),History.each_concat.mpr ⟨owned.uncrossed,trivial⟩⟩
  | updated found same running =>
    exact ⟨fresh,owned.keeps (updates_fewer calls _ _) (put_keeps found same (running ▸ id)),
      History.each_concat.mpr ⟨owned.uncrossed,trivial⟩⟩
  | @cancelled ref object next _ found same idle =>
    refine ⟨fresh,owned.keeps (cancels_fewer calls ref object) (put_keeps found same fun runs => ?_),
      owned.cancels_own found⟩
    rw [idle] at runs
    cases runs
  | @destroyed ref object _ found =>
    rw [←List.append_assoc]
    have fewer : Fewer calls (calls ++ cancels ref object ++ [.destroyed ref]) := by
      intro session owner member
      rw [holder_concat,leavesHolder] at member
      exact cancels_fewer calls ref object session owner member
    refine ⟨fresh,owned.keeps fewer fun other held present runs => ?_,
      History.each_concat.mpr ⟨owned.cancels_own found,trivial⟩⟩
    by_cases here : other = ref
    · subst here
      simp at present
    · simp only [Function.update_of_ne here] at present
      exact ⟨held,present,runs,rfl⟩

end Owned

theorem initial_owned : initial.Owned [] := by
  refine ⟨initial_fresh,fun ref object found => ?_,History.each_nil _⟩
  cases found

-- A begin beside another running enrollment of the user breaks the property as soon
-- as that other one goes.
theorem shared_crosses {s : SessionObjects} (before : List SessionCall) (shared : ¬s.Unshared input) :
    ∃ next, ¬Uncrossed (before ++ sessionObjects.trace s [input,next]) := by
  cases input with
  | start ref answers =>
    simp only [Unshared,not_forall] at shared
    obtain ⟨object,found,begins,enrolls,other,_,rival,present,running,same,apart⟩ := shared
    obtain ⟨userId,session⟩ := object.user_enrolled enrolls
    have calls : sessionObjects.trace s [.start ref answers,.destroy other] =
        [.begins ref (.enrollment userId)] ++ ([.cancels other (.enrollment userId)] ++ [.destroyed other]) := by
      have found : s.objects ref = some object := found
      have present : s.objects other = some rival := present
      simp [sessionObjects,step,found,present,put,object.start_begins,begins,cancels,running,same,session,
        Function.update_of_ne apart]
    refine ⟨.destroy other,fun uncrossed => apart ?_⟩
    rw [calls,←List.append_assoc,←List.append_assoc] at uncrossed
    have own := (History.each_concat.mp (History.each_concat.mp uncrossed).1).2
    simp only [Own,holder_concat,leavesHolder,if_true] at own
    exact (own ref rfl).symm
  | createAuthentication | createEnrollment | createIdentification | update | cancel | destroy => exact absurd trivial shared

-- While enrollments of one user run one at a time, a cancel closes no session but
-- its own object's; the first begin beside another may.
theorem cancels_uncrossed (inputs : List Input) :
    (sessionObjects.Meets Unshared .initial inputs → Uncrossed (sessionObjects.trace .initial inputs)) ∧
      ∀ input, ¬(sessionObjects.after .initial inputs).Unshared input →
        ∃ next, ¬Uncrossed (sessionObjects.trace .initial (inputs ++ [input,next])) := by
  constructor
  · intro unshared
    have kept := Mealy.guarded_history (m:=sessionObjects) (h:=[]) (P:=Owned) (c:=Unshared)
      (fun s _ input owned unshared => owned.moves (s.step_moves input) unshared) initial_owned unshared
    exact kept.uncrossed
  · intro input shared
    obtain ⟨next,crosses⟩ := shared_crosses (sessionObjects.trace .initial inputs) shared
    rw [←Mealy.trace_append] at crosses
    exact ⟨next,crosses⟩

def facePara : Enrollment.EnrollmentPara := {userId:=100,authType:=AuthType.FACE}

-- Two enrollments of one user, the second after the first has gone.
theorem successive_enrollments_uncrossed : Uncrossed (sessionObjects.trace .initial
    [.createEnrollment facePara false,.start 0 (granting facePool []),.update 0 accepting [],.destroy 0,
      .createEnrollment facePara false,.start 1 (granting facePool []),.cancel 1 (.answered ())]) :=
  (cancels_uncrossed _).1 ⟨by decide,by decide,by decide,by decide,by decide,by decide,by decide,trivial⟩

-- The first one's update is accepted, the second one begins, and only then the
-- first one goes.
theorem late_destructor_crosses : ¬Uncrossed (sessionObjects.trace .initial
    [.createEnrollment facePara false,.start 0 (granting facePool []),.update 0 accepting [],
      .createEnrollment facePara false,.start 1 (granting facePool []),.destroy 0]) := by
  intro uncrossed
  have own : ∀ owner ∈ holder (.enrollment 100) [.begins 0 (.enrollment 100),.updates 0 (.enrollment 100),
      .begins 1 (.enrollment 100)],owner = 0 :=
    uncrossed _ (.cancels 0 (.enrollment 100)) ⟨[.destroyed 0],rfl⟩
  exact absurd (own 1 rfl) (by decide)

end SessionObjects
end UserAuth
