import Mathlib.Logic.Function.Basic
import UserAuth.Contexts.SimpleAuth
import UserAuth.Credential.EnrollContext
import UserAuth.Engine.EngineSession
import UserAuth.Lib.Mealy
import UserAuth.Schedule.ScheduleNodeHelper

namespace UserAuth
open ScheduleNodeHelper

-- What a start meets: the caller and user types, the database, the engine's
-- answer to the begin, and the pool that the schedules are built from.
structure StartAnswers where
  callerType : Bool
  userType : Bool
  database : UserIdmDatabase
  beginAuthentication : EngineReply (List EngScheduleInfo)
  beginEnrollment : EngineReply EngScheduleInfo
  beginIdentification : EngineReply EngScheduleInfo
  pool : ResourceNodePool ExecutorNode

structure EngIdentifyResultInfo where
  result : ResultCode := 0
  userId : Int32 := 0
  token : Bytes := []

structure UpdateAnswers where
  updateAuthenticationResult : EngineReply AuthUpdateAnswer
  updateEnrollmentResult : Bytes → EngineReply EngEnrollResultInfo
  updateIdentificationResult : EngineReply EngIdentifyResultInfo
  database : UserIdmDatabase
  adapter : PublishEventAdapter

-- The object after a start, whether the engine opened a session, and the
-- schedules of a start that succeeds.
structure StartOutcome (Impl : Type) where
  impl : Impl
  begun : Bool := false
  scheduleList : Option (List ScheduleHeld) := none

namespace AuthenticationImpl

def create (userId : Int32) (authType : AuthType) (atl : UInt32) (sdkVersion : Int32) : AuthenticationImpl :=
  ⟨userId,authType,atl,sdkVersion,false,ResultCode.GENERAL_ERROR,[]⟩

def start (auth : AuthenticationImpl) (answers : StartAnswers) : StartOutcome AuthenticationImpl :=
  if !answers.callerType then {impl:=auth}
  else match answers.beginAuthentication with
    | .refused code _ => {impl:={auth with latestError:=setLatestError auth.latestError code}}
    | .answered infos =>
      if infos.isEmpty then {impl:=auth,begun:=true}
      else match buildFromHdi answers.pool false infos with
        | none => {impl:=auth,begun:=true}
        | some scheduleList => {impl:={auth with running:=true},begun:=true,scheduleList:=some scheduleList}

end AuthenticationImpl

namespace EnrollmentImpl

-- Does a start get as far as the engine?
def asks (enroll : EnrollmentImpl) (answers : StartAnswers) : Bool :=
  answers.callerType && !(enroll.isUpdate && !(enroll.getSecUserId answers.database).2.1) && answers.userType

def build (answers : StartAnswers) : Option (List ScheduleHeld) :=
  match answers.beginEnrollment with
  | .refused _ _ => none
  | .answered info => buildFromHdi answers.pool false [info]

def beginAnswers (answers : StartAnswers) : BeginAnswers where
  callerType := answers.callerType
  userType := answers.userType
  database := answers.database
  beginEnrollment := match answers.beginEnrollment with
    | .refused code failed => .refused code failed
    | .answered _ => .answered ()
  built := (build answers).bind fun scheduleList => scheduleList.head?.map fun schedule => (schedule.scheduleId,false)

def startOver (enroll : EnrollmentImpl) (answers : StartAnswers) : StartOutcome EnrollmentImpl :=
  let started := enroll.start (beginAnswers answers)
  {impl:=started.1,begun:=enroll.asks answers && answers.beginEnrollment.code == ResultCode.SUCCESS
   scheduleList:=started.2.bind fun _ => build answers}

end EnrollmentImpl

namespace Identification

structure IdentifyResultInfo where
  result : ResultCode := 0
  userId : Int32 := 0
  token : Bytes := []

end Identification

structure IdentificationImpl where
  contextId : UInt64
  authType : AuthType
  running : Bool := false
  latestError : ResultCode := ResultCode.GENERAL_ERROR

namespace IdentificationImpl
open Identification

def start (identify : IdentificationImpl) (answers : StartAnswers) : StartOutcome IdentificationImpl :=
  match answers.beginIdentification with
  | .refused code _ => {impl:={identify with latestError:=setLatestError identify.latestError code}}
  | .answered info =>
    match buildFromHdi answers.pool false [info] with
    | none => {impl:=identify,begun:=true}
    | some scheduleList => {impl:={identify with running:=true},begun:=true,scheduleList:=some scheduleList}

def update (identify : IdentificationImpl) (reply : EngineReply EngIdentifyResultInfo) :
    IdentificationImpl × Option IdentifyResultInfo :=
  match reply with
  | .refused code _ => ({identify with latestError:=setLatestError identify.latestError code},none)
  | .answered info => (identify,some ⟨info.result,info.userId,info.token⟩)

def cancel (identify : IdentificationImpl) (reply : EngineReply Unit) : IdentificationImpl × Bool :=
  if !identify.running then (identify,false)
  else
    let identify := {identify with running:=false}
    if reply.code != ResultCode.SUCCESS then
      ({identify with latestError:=setLatestError identify.latestError reply.code},false)
    else (identify,true)

end IdentificationImpl

-- An authentication's session is told by the context it was made for.
inductive SessionObject where
  | authentication (contextId : UInt64) (auth : AuthenticationImpl)
  | enrollment (enroll : EnrollmentImpl)
  | identification (identify : IdentificationImpl)

namespace SessionObject

def session : SessionObject → EngineSession
  | .authentication contextId _ => .authentication contextId
  | .enrollment enroll => .enrollment enroll.enrollPara.userId
  | .identification identify => .identification identify.contextId

def running : SessionObject → Bool
  | .authentication _ auth => auth.running
  | .enrollment enroll => enroll.running
  | .identification identify => identify.running

-- The object after a start, and whether the engine opened a session.
def start (object : SessionObject) (answers : StartAnswers) : SessionObject × Bool :=
  match object with
  | .authentication contextId auth => let started := auth.start answers; (.authentication contextId started.impl,started.begun)
  | .enrollment enroll => let started := enroll.startOver answers; (.enrollment started.impl,started.begun)
  | .identification identify => let started := identify.start answers; (.identification started.impl,started.begun)

-- The object after an update, and whether the engine accepted it.
def update (object : SessionObject) (answers : UpdateAnswers) (scheduleResult : Bytes) : SessionObject × Bool :=
  match object with
  | .authentication contextId auth =>
    (.authentication contextId (auth.update answers.updateAuthenticationResult).1,
      answers.updateAuthenticationResult.code == ResultCode.SUCCESS)
  | .enrollment enroll =>
    (.enrollment (enroll.update answers.adapter ⟨answers.updateEnrollmentResult,answers.database⟩ scheduleResult).enroll,
      (answers.updateEnrollmentResult scheduleResult).code == ResultCode.SUCCESS)
  | .identification identify =>
    (.identification (identify.update answers.updateIdentificationResult).1,
      answers.updateIdentificationResult.code == ResultCode.SUCCESS)

def cancel (object : SessionObject) (reply : EngineReply Unit) : SessionObject :=
  match object with
  | .authentication contextId auth => .authentication contextId (auth.cancel reply).1
  | .enrollment enroll => .enrollment (enroll.cancel reply).1
  | .identification identify => .identification (identify.cancel reply).1

-- Does a start get as far as a begin that the engine accepts?
def begins (object : SessionObject) (answers : StartAnswers) : Bool :=
  match object with
  | .authentication _ _ => answers.callerType && answers.beginAuthentication.code == ResultCode.SUCCESS
  | .enrollment enroll => enroll.asks answers && answers.beginEnrollment.code == ResultCode.SUCCESS
  | .identification _ => answers.beginIdentification.code == ResultCode.SUCCESS

-- Can schedules be built from what the engine answers to the begin?
def builds (object : SessionObject) (answers : StartAnswers) : Bool :=
  match object with
  | .authentication _ _ =>
    match answers.beginAuthentication with
    | .refused _ _ => false
    | .answered infos => !infos.isEmpty && (buildFromHdi answers.pool false infos).isSome
  | .enrollment _ => (EnrollmentImpl.build answers).isSome
  | .identification _ =>
    match answers.beginIdentification with
    | .refused _ _ => false
    | .answered info => (buildFromHdi answers.pool false [info]).isSome

end SessionObject

namespace AuthenticationImpl

theorem start_spec (auth : AuthenticationImpl) (answers : StartAnswers) :
    (auth.start answers).begun = (SessionObject.authentication contextId auth).begins answers ∧
    (auth.start answers).impl.running = (auth.running || (SessionObject.authentication contextId auth).begins answers &&
      (SessionObject.authentication contextId auth).builds answers) := by
  unfold start SessionObject.begins SessionObject.builds
  cases answers.callerType with
  | false => simp
  | true =>
    cases answers.beginAuthentication with
    | refused code failed => simp [EngineReply.refused_code failed]
    | answered infos =>
      cases infos with
      | nil => simp [EngineReply.code]
      | cons info rest =>
        cases built : buildFromHdi answers.pool false (info :: rest) with
        | none => simp [EngineReply.code,built]
        | some scheduleList => simp [EngineReply.code,built]
end AuthenticationImpl

namespace IdentificationImpl

theorem start_spec (identify : IdentificationImpl) (answers : StartAnswers) :
    (identify.start answers).begun = (SessionObject.identification identify).begins answers ∧
    (identify.start answers).impl.running = (identify.running || (SessionObject.identification identify).begins answers &&
      (SessionObject.identification identify).builds answers) ∧ (identify.start answers).impl.contextId = identify.contextId := by
  unfold start SessionObject.begins SessionObject.builds
  cases answers.beginIdentification with
  | refused code failed => simp [EngineReply.refused_code failed]
  | answered info =>
    cases built : buildFromHdi answers.pool false [info] with
    | none => simp [EngineReply.code,built]
    | some scheduleList => simp [EngineReply.code,built]
end IdentificationImpl

namespace EnrollmentImpl

theorem start_spec (enroll : EnrollmentImpl) (answers : StartAnswers) :
    (enroll.startOver answers).impl.running = (enroll.running || (SessionObject.enrollment enroll).begins answers &&
      (SessionObject.enrollment enroll).builds answers) ∧
    (enroll.startOver answers).impl.enrollPara = enroll.enrollPara := by
  obtain ⟨enrollPara,isUpdate,secUserId,scheduleId,running,latestError⟩ := enroll
  unfold startOver start SessionObject.begins SessionObject.builds asks beginAnswers
  cases answers.callerType with
  | false => simp
  | true =>
    cases answers.userType with
    | false => cases isUpdate <;> simp
    | true =>
      generalize asked : (EnrollmentImpl.getSecUserId ⟨enrollPara,true,secUserId,scheduleId,running,latestError⟩
        answers.database).2.1 = known
      cases begun : answers.beginEnrollment with
      | refused code failed =>
        have refused := @EngineReply.refused_code EngScheduleInfo code failed
        cases isUpdate <;> cases known <;> simp [refused,asked]
      | answered info =>
        cases built : buildFromHdi answers.pool false [info] with
        | none => cases isUpdate <;> cases known <;> simp [build,begun,built,asked]
        | some scheduleList =>
          obtain ⟨schedule,rfl⟩ := built_one built
          cases isUpdate <;> cases known <;> simp [build,begun,built,asked,EngineReply.code]
end EnrollmentImpl

theorem EnrollmentImpl.update_keeps (enroll : EnrollmentImpl) (adapter : PublishEventAdapter) (answers : Answers)
    (scheduleResult : Bytes) : (enroll.update adapter answers scheduleResult).enroll.running = enroll.running ∧
      (enroll.update adapter answers scheduleResult).enroll.enrollPara = enroll.enrollPara := by
  unfold update
  cases answers.updateEnrollmentResult scheduleResult with
  | refused code failed => exact ⟨rfl,rfl⟩
  | answered resultInfo =>
    dsimp only
    split
    · exact ⟨rfl,rfl⟩
    · exact ⟨rfl,rfl⟩

namespace SessionObject

theorem start_begins (object : SessionObject) (answers : StartAnswers) :
    (object.start answers).2 = object.begins answers := by
  cases object with
  | authentication contextId auth => exact (auth.start_spec answers).1
  | enrollment enroll => rfl
  | identification identify => exact (identify.start_spec answers).1

theorem start_session (object : SessionObject) (answers : StartAnswers) :
    (object.start answers).1.session = object.session := by
  cases object with
  | authentication contextId auth => rfl
  | enrollment enroll => simp only [start,session,(enroll.start_spec answers).2]
  | identification identify => simp only [start,session,(identify.start_spec answers).2.2]

theorem start_running (object : SessionObject) (answers : StartAnswers) :
    (object.start answers).1.running = (object.running || object.begins answers && object.builds answers) := by
  cases object with
  | authentication contextId auth => exact (auth.start_spec answers).2
  | enrollment enroll => exact (enroll.start_spec answers).1
  | identification identify => exact (identify.start_spec answers).2.1

theorem update_keeps (object : SessionObject) (answers : UpdateAnswers) (scheduleResult : Bytes) :
    (object.update answers scheduleResult).1.session = object.session ∧
      (object.update answers scheduleResult).1.running = object.running := by
  cases object with
  | authentication contextId auth => exact ⟨rfl,rfl⟩
  | enrollment enroll =>
    have kept := enroll.update_keeps answers.adapter ⟨answers.updateEnrollmentResult,answers.database⟩ scheduleResult
    simp only [update,session,running,kept,true_and]
  | identification identify =>
    simp only [update,session,running,IdentificationImpl.update]
    cases answers.updateIdentificationResult with
    | refused code failed => exact ⟨rfl,rfl⟩
    | answered info => exact ⟨rfl,rfl⟩

theorem cancel_stops (object : SessionObject) (reply : EngineReply Unit) :
    (object.cancel reply).session = object.session ∧ (object.cancel reply).running = false := by
  cases object with
  | authentication contextId auth =>
    simp only [cancel,session,running,AuthenticationImpl.cancel]
    grind
  | enrollment enroll =>
    simp only [cancel,session,running,EnrollmentImpl.cancel]
    grind
  | identification identify =>
    simp only [cancel,session,running,IdentificationImpl.cancel]
    grind

end SessionObject

structure SessionObjects where
  objects : Nat → Option SessionObject
  nextRef : Nat

namespace SessionObjects
variable (s : SessionObjects)

def put (ref : Nat) (object : SessionObject) : SessionObjects :=
  {s with objects:=Function.update s.objects ref (some object)}

inductive Input where
  | createAuthentication (contextId : UInt64) (userId : Int32) (authType : AuthType) (atl : UInt32) (sdkVersion : Int32)
  | createEnrollment (enrollPara : Enrollment.EnrollmentPara) (isUpdate : Bool)
  | createIdentification (contextId : UInt64) (authType : AuthType)
  | start (ref : Nat) (answers : StartAnswers)
  | update (ref : Nat) (answers : UpdateAnswers) (scheduleResult : Bytes)
  | cancel (ref : Nat) (reply : EngineReply Unit)
  | destroy (ref : Nat)

def create (object : SessionObject) : SessionObjects := {s.put s.nextRef object with nextRef:=s.nextRef + 1}

-- A cancel reaches the engine from an object that runs.
def cancels (ref : Nat) (object : SessionObject) : List SessionCall :=
  if object.running then [.cancels ref object.session] else []

def step (s : SessionObjects) (input : Input) : SessionObjects × List SessionCall :=
  match input with
  | .createAuthentication contextId userId authType atl sdkVersion =>
    (s.create (.authentication contextId (AuthenticationImpl.create userId authType atl sdkVersion)),[])
  | .createEnrollment enrollPara isUpdate => (s.create (.enrollment {enrollPara,isUpdate}),[])
  | .createIdentification contextId authType => (s.create (.identification {contextId,authType}),[])
  | .start ref answers =>
    match s.objects ref with
    | none => (s,[])
    | some object =>
      let started := object.start answers
      (s.put ref started.1,if started.2 then [.begins ref object.session] else [])
  | .update ref answers scheduleResult =>
    match s.objects ref with
    | none => (s,[])
    | some object =>
      let updated := object.update answers scheduleResult
      (s.put ref updated.1,if updated.2 then [.updates ref object.session] else [])
  | .cancel ref reply =>
    match s.objects ref with
    | none => (s,[])
    | some object => (s.put ref (object.cancel reply),cancels ref object)
  -- The destructor cancels, and nobody is left to learn how that went.
  | .destroy ref =>
    match s.objects ref with
    | none => (s,[])
    | some object => ({s with objects:=Function.update s.objects ref none},cancels ref object ++ [.destroyed ref])

def initial : SessionObjects := ⟨fun _ => none,0⟩

-- All that a step does, as far as the sessions and the running flags go.
inductive Moves (s : SessionObjects) : Input → SessionObjects → List SessionCall → Prop where
  | idle : Moves s input s []
  | created (object : SessionObject) (idle : object.running = false) : Moves s input (s.create object) []
  | kept (found : s.objects ref = some object) (same : next.session = object.session)
      (running : next.running = object.running) : Moves s input (s.put ref next) []
  | begun (found : s.objects ref = some object) (same : next.session = object.session)
      (begins : object.begins answers = true) (running : next.running = (object.running || object.builds answers)) :
      Moves s (.start ref answers) (s.put ref next) [.begins ref object.session]
  | updated (found : s.objects ref = some object) (same : next.session = object.session)
      (running : next.running = object.running) : Moves s input (s.put ref next) [.updates ref object.session]
  | cancelled (found : s.objects ref = some object) (same : next.session = object.session)
      (idle : next.running = false) : Moves s input (s.put ref next) (cancels ref object)
  | destroyed (found : s.objects ref = some object) :
      Moves s input {s with objects:=Function.update s.objects ref none} (cancels ref object ++ [.destroyed ref])

theorem step_moves (s : SessionObjects) (input : Input) : s.Moves input (s.step input).1 (s.step input).2 := by
  cases input with
  | createAuthentication | createEnrollment | createIdentification => exact .created _ rfl
  | start ref answers =>
    cases found : s.objects ref with
    | none => simpa only [step,found] using .idle
    | some object =>
      have same := object.start_session answers
      have running := object.start_running answers
      cases begun : object.begins answers with
      | false =>
        simp only [begun,Bool.false_and,Bool.or_false] at running
        simpa [step,found,object.start_begins,begun] using .kept found same running
      | true =>
        simp only [begun,Bool.true_and] at running
        simpa [step,found,object.start_begins,begun] using .begun found same begun running
  | update ref answers scheduleResult =>
    cases found : s.objects ref with
    | none => simpa only [step,found] using .idle
    | some object =>
      obtain ⟨same,running⟩ := object.update_keeps answers scheduleResult
      cases accepted : (object.update answers scheduleResult).2 with
      | false => simpa [step,found,accepted] using .kept found same running
      | true => simpa [step,found,accepted] using .updated found same running
  | cancel ref reply =>
    cases found : s.objects ref with
    | none => simpa only [step,found] using .idle
    | some object =>
      obtain ⟨same,idle⟩ := object.cancel_stops reply
      simpa only [step,found] using .cancelled found same idle
  | destroy ref =>
    cases found : s.objects ref with
    | none => simpa only [step,found] using .idle
    | some object => simpa only [step,found] using .destroyed found

def Fresh (s : SessionObjects) : Prop := ∀ ref, s.nextRef ≤ ref → s.objects ref = none

theorem initial_fresh : initial.Fresh := fun _ _ => rfl

namespace Fresh
variable {s : SessionObjects} (fresh : s.Fresh)
include fresh

theorem made (found : s.objects ref = some object) : ref < s.nextRef := by
  apply Nat.lt_of_not_le
  intro unmade
  rw [fresh ref unmade] at found
  cases found

theorem create_other (object : SessionObject) (found : s.objects ref = some other) :
    (s.create object).objects ref = some other :=
  (Function.update_of_ne (Nat.ne_of_lt (fresh.made found)) ..).trans found

theorem updates (found : s.objects ref = some object) (next : Option SessionObject) :
    Fresh {s with objects:=Function.update s.objects ref next} := by
  intro other unmade
  have apart : other ≠ ref := fun same => absurd (fresh.made found) (Nat.not_lt.mpr (same ▸ unmade))
  exact (Function.update_of_ne apart ..).trans (fresh other unmade)

theorem moves (moved : s.Moves input t new) : t.Fresh := by
  cases moved with
  | idle => exact fresh
  | created object idle =>
    intro ref unmade
    have apart : ref ≠ s.nextRef := fun same => absurd unmade (same ▸ Nat.not_succ_le_self _)
    exact (Function.update_of_ne apart ..).trans (fresh ref (Nat.le_of_succ_le unmade))
  | kept found | begun found | updated found | cancelled found => exact fresh.updates found _
  | destroyed found => exact fresh.updates found none

end Fresh

-- An engine that accepts whatever it is asked, for the runs below.
def granting (pool : ResourceNodePool ExecutorNode) (infos : List EngScheduleInfo) : StartAnswers where
  callerType := true
  userType := true
  database := ⟨fun _ _ => .answered [],fun _ => .answered (some 1)⟩
  beginAuthentication := .answered infos
  beginEnrollment := .answered ⟨7,AuthType.FACE,[5],[[]]⟩
  beginIdentification := .answered ⟨7,AuthType.FACE,[5],[[]]⟩
  pool

def accepting : UpdateAnswers where
  updateAuthenticationResult := .answered ⟨{},{},fun secret => secret.elim (absurd rfl) (absurd rfl)⟩
  updateEnrollmentResult _ := .answered {credentialId:=3}
  updateIdentificationResult := .answered {}
  database := ⟨fun _ _ => .answered [],fun _ => .answered (some 1)⟩
  adapter := {}

def facePool : ResourceNodePool ExecutorNode := Std.ExtTreeMap.empty.insert 5 ⟨1,0,5,AuthType.FACE,ExecutorRole.ALL_IN_ONE,1⟩

end SessionObjects

def sessionObjects : Mealy SessionObjects SessionObjects.Input SessionCall := ⟨SessionObjects.step⟩

end UserAuth
