import UserAuth.Session.SessionObject

namespace UserAuth
open SessionCall

namespace SessionObjects

-- A start whose begin the engine accepts finds its object running, or builds the
-- schedules that the engine asked for.
def Builds (s : SessionObjects) : Input → Prop
  | .start ref answers => ∀ object ∈ s.objects ref, object.begins answers = true →
      object.running = true ∨ object.builds answers = true
  | _ => True

instance (s : SessionObjects) : (input : Input) → Decidable (s.Builds input)
  | .start ref _ => Option.decidableForallMem (s.objects ref)
  | .createAuthentication .. | .createEnrollment .. | .createIdentification .. => instDecidableTrue
  | .update .. | .cancel .. | .destroy .. => instDecidableTrue

-- An object that still has to close a session is there and runs.
structure Tracked (s : SessionObjects) (calls : List SessionCall) : Prop where
  fresh : s.Fresh
  opened : ∀ ref, openBy ref calls = true → ∃ object, s.objects ref = some object ∧ object.running = true
  unleaked : Unleaked calls

namespace Tracked
variable {s : SessionObjects} {calls : List SessionCall} (tracked : s.Tracked calls)
include tracked

theorem runs (found : s.objects ref = some object) (opened : openBy ref calls = true) : object.running = true := by
  obtain ⟨other,same,running⟩ := tracked.opened ref opened
  cases found.symm.trans same
  exact running

-- An object moves on; the sessions of the others are as they were.
theorem puts (others : ∀ other, other ≠ ref → openBy other after = openBy other calls)
    (running : openBy ref after = true → next.running = true) (opened : openBy other after = true) :
    ∃ object, (s.put ref next).objects other = some object ∧ object.running = true := by
  by_cases same : other = ref
  · subst same
    exact ⟨next,Function.update_self ..,running opened⟩
  · rw [others other same] at opened
    obtain ⟨kept,found,running⟩ := tracked.opened other opened
    exact ⟨kept,(Function.update_of_ne same ..).trans found,running⟩

-- Cancelling closes the session of an object, if it opened one.
theorem cancelled (found : s.objects ref = some object) :
    openBy ref (calls ++ cancels ref object) = false ∧
      (∀ other, other ≠ ref → openBy other (calls ++ cancels ref object) = openBy other calls) ∧
        Unleaked (calls ++ cancels ref object) := by
  unfold cancels
  cases running : object.running with
  | false =>
    have closed : openBy ref calls = false := by
      apply Bool.eq_false_of_not_eq_true
      intro opened
      rw [tracked.runs found opened] at running
      cases running
    simpa using ⟨closed,tracked.unleaked⟩
  | true =>
    refine ⟨by simp [leavesOpen],fun other apart => ?_,History.each_concat.mpr ⟨tracked.unleaked,trivial⟩⟩
    simp [leavesOpen,Ne.symm apart]

theorem moves (moved : s.Moves input t new) (builds : s.Builds input) : t.Tracked (calls ++ new) := by
  have fresh := tracked.fresh.moves moved
  cases moved with
  | idle => simpa using tracked
  | created object idle =>
    rw [List.append_nil]
    refine ⟨fresh,fun ref opened => ?_,tracked.unleaked⟩
    obtain ⟨other,found,running⟩ := tracked.opened ref opened
    exact ⟨other,tracked.fresh.create_other object found,running⟩
  | kept found same running =>
    rw [List.append_nil]
    refine ⟨fresh,fun other => tracked.puts (fun _ _ => rfl) fun opened => ?_,tracked.unleaked⟩
    rw [running]
    exact tracked.runs found opened
  | @begun ref object next answers found same begins running =>
    refine ⟨fresh,fun other => tracked.puts (fun other apart => ?_) fun _ => ?_,
      History.each_concat.mpr ⟨tracked.unleaked,trivial⟩⟩
    · simp [leavesOpen,Ne.symm apart]
    · rw [running,Bool.or_eq_true]
      exact builds object found begins
  | updated found same running =>
    refine ⟨fresh,fun other => tracked.puts (fun other apart => ?_) fun opened => ?_,
      History.each_concat.mpr ⟨tracked.unleaked,trivial⟩⟩
    · simp [leavesOpen,Ne.symm apart]
    · simp [leavesOpen] at opened
  | cancelled found same idle =>
    obtain ⟨closed,others,unleaked⟩ := tracked.cancelled found
    refine ⟨fresh,fun other => tracked.puts others fun opened => ?_,unleaked⟩
    rw [closed] at opened
    cases opened
  | @destroyed ref object _ found =>
    obtain ⟨closed,others,unleaked⟩ := tracked.cancelled found
    rw [←List.append_assoc]
    refine ⟨fresh,fun other opened => ?_,History.each_concat.mpr ⟨unleaked,closed⟩⟩
    rw [openBy_concat] at opened
    by_cases same : other = ref
    · subst same
      rw [leavesOpen,closed] at opened
      cases opened
    · rw [leavesOpen,others other same] at opened
      obtain ⟨kept,found,running⟩ := tracked.opened other opened
      exact ⟨kept,(Function.update_of_ne same ..).trans found,running⟩

end Tracked

theorem initial_tracked : initial.Tracked [] := by
  refine ⟨initial_fresh,fun ref opened => ?_,History.each_nil _⟩
  cases opened

-- A start that breaks the condition leaks its session: the object may go next,
-- and nobody closes what it opened.
theorem unbuilt_leaks {s : SessionObjects} (before : List SessionCall) (unbuilt : ¬s.Builds input) :
    ∃ next, ¬Unleaked (before ++ sessionObjects.trace s [input,next]) := by
  cases input with
  | start ref answers =>
    simp only [Builds,not_forall,not_or] at unbuilt
    obtain ⟨object,found,begins,idle,unbuilt⟩ := unbuilt
    have stays : (object.start answers).1.running = false := by
      rw [object.start_running,Bool.eq_false_of_not_eq_true idle,Bool.eq_false_of_not_eq_true unbuilt]
      simp
    have calls : sessionObjects.trace s [.start ref answers,.destroy ref] = [.begins ref object.session] ++ [.destroyed ref] := by
      have found : s.objects ref = some object := found
      simp [sessionObjects,step,found,put,object.start_begins,begins,cancels,stays]
    refine ⟨.destroy ref,fun unleaked => ?_⟩
    rw [calls,←List.append_assoc] at unleaked
    have closed := (History.each_concat.mp unleaked).2
    simp [Settled,leavesOpen] at closed
  | createAuthentication | createEnrollment | createIdentification | update | cancel | destroy => exact absurd trivial unbuilt

-- While every accepted begin of an idle object builds its schedules, no session
-- is left open by an object that goes; the first that does not may be.
theorem sessions_unleaked (inputs : List Input) :
    (sessionObjects.Meets Builds .initial inputs → Unleaked (sessionObjects.trace .initial inputs)) ∧
      ∀ input, ¬(sessionObjects.after .initial inputs).Builds input →
        ∃ next, ¬Unleaked (sessionObjects.trace .initial (inputs ++ [input,next])) := by
  constructor
  · intro builds
    have kept := Mealy.guarded_history (m:=sessionObjects) (h:=[]) (P:=Tracked) (c:=Builds)
      (fun s _ input tracked builds => tracked.moves (s.step_moves input) builds) initial_tracked builds
    exact kept.unleaked
  · intro input unbuilt
    obtain ⟨next,leaks⟩ := unbuilt_leaks (sessionObjects.trace .initial inputs) unbuilt
    rw [←Mealy.trace_append] at leaks
    exact ⟨next,leaks⟩

def faceRun (answers : StartAnswers) : List Input :=
  [.createAuthentication 1 100 AuthType.FACE 10000 10,.start 0 answers,.destroy 0]

theorem built_session_closed :
    Unleaked (sessionObjects.trace .initial (faceRun (granting facePool [⟨7,AuthType.FACE,[5],[[]]⟩]))) :=
  (sessions_unleaked _).1 ⟨by decide,by decide,by decide,trivial⟩

-- The engine's begin succeeds with no schedule, or with one on an executor that
-- has gone.
theorem unbuilt_sessions_leak : ¬Unleaked (sessionObjects.trace .initial (faceRun (granting facePool []))) ∧
    ¬Unleaked (sessionObjects.trace .initial (faceRun (granting ∅ [⟨7,AuthType.FACE,[5],[[]]⟩]))) := by
  constructor
  · intro unleaked
    have closed : openBy 0 [.begins 0 (.authentication 1)] = false := unleaked _ (.destroyed 0) (List.prefix_refl _)
    cases closed
  · intro unleaked
    have closed : openBy 0 [.begins 0 (.authentication 1)] = false := unleaked _ (.destroyed 0) (List.prefix_refl _)
    cases closed

end SessionObjects
end UserAuth
