import UserAuth.Credential.DeleteContext
import UserAuth.Credential.EnrollContext

namespace UserAuth
open Attributes CredentialContext

def Matches {Impl Begin Cancel Answers : Type} (code : Virtuals Impl Begin Cancel Answers) (s : CredentialContext Impl)
    (input : Input Begin Cancel Answers) : Prop := Agrees (step code s input)

-- For every run of either context: what the caller is told matches the engine
-- exactly where every commit comes with a final code of success and nothing
-- fails after it.
theorem outcomes_match (enrollPara : Enrollment.EnrollmentPara) (isUpdate : Bool) (deletePara : Deletion.DeleteParam)
    (adapter : PublishEventAdapter)
    (enrolling : List (Input EnrollmentImpl.BeginAnswers (EngineReply Unit) EnrollmentImpl.Answers))
    (deleting : List (Input DeleteImpl.BeginAnswers Unit DeleteImpl.Answers)) :
    ((machine EnrollContext.virtuals).Meets (Matches EnrollContext.virtuals)
        (EnrollContext.create enrollPara isUpdate adapter) enrolling ↔
      (machine EnrollContext.virtuals).Meets (Orderly (fun _ _ => True) EnrollContext.EndsWell)
        (EnrollContext.create enrollPara isUpdate adapter) enrolling) ∧
    ((machine DeleteContext.virtuals).Meets (Matches DeleteContext.virtuals) (DeleteContext.create deletePara adapter) deleting ↔
      (machine DeleteContext.virtuals).Meets (Orderly DeleteContext.BeginsWell DeleteContext.EndsWell)
        (DeleteContext.create deletePara adapter) deleting) := by
  constructor
  · exact runs_agree EnrollContext.virtuals_lawful _ (EnrollContext.create_failing enrollPara isUpdate adapter) enrolling
  · exact runs_agree DeleteContext.virtuals_lawful _ (DeleteContext.create_failing deletePara adapter) deleting

namespace EnrollContext

def pinEnrollment : Enrollment.EnrollmentPara := {userId:=100,authType:=AuthType.PIN}

def knownUser : UserIdmDatabase := ⟨fun _ _ => .answered [{credentialId:=7,authType:=AuthType.PIN}],fun _ => .answered (some 9)⟩

def committing : EnrollmentImpl.Answers := ⟨fun _ => .answered {credentialId:=7},knownUser⟩

-- The executor's success waits in the queue when the caller stops the enrollment.
def lateStop : List (Input EnrollmentImpl.BeginAnswers (EngineReply Unit) EnrollmentImpl.Answers) :=
  let env : ScheduleNode.Env := ⟨true,true,true,ResultCode.SUCCESS,ResultCode.SUCCESS,ResultCode.SUCCESS,ResultCode.SUCCESS⟩
  [.start ⟨true,true,knownUser,.answered (),some (5,true)⟩,.schedule (.scheduleInner env) committing,
    .schedule (.scheduleInner env) committing,.schedule (.scheduleInner env) committing,
    .schedule (.continueSchedule ResultCode.SUCCESS (Attributes.empty.set (setUint8ArrayValue ATTR_RESULT [1]))) committing,
    .stop (.answered ()),.schedule (.scheduleInner env) committing]

theorem late_stop_cancels_commit :
    ¬(machine virtuals).Meets (Matches virtuals) (create pinEnrollment false {}) lateStop := by
  intro met
  have matched := met.2.2.2.2.2.2.1
  have failing : Failing virtuals ((machine virtuals).after (create pinEnrollment false {}) (lateStop.take 6)) :=
    Mealy.invariant (m:=machine virtuals) (step_failing virtuals_lawful) (create_failing pinEnrollment false {}) _
  have orderly := (step_agrees virtuals_lawful _ _ failing).mp matched
  have committed := orderly _ rfl (by decide) {credentialId:=7} ⟨[1],by decide,rfl⟩
  exact absurd committed.1 (by decide)

end EnrollContext
end UserAuth
