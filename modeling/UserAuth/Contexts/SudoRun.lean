import UserAuth.Contexts.SudoAuth
import UserAuth.Lib.History

namespace UserAuth.SudoAuthContext
open Attributes ContextFactory SudoPhase

-- OnChildResult for whatever a child reports.
def childReported (s : SudoAuthContext) (resultCode : ResultCode) (finalResult : Attributes)
    (requery : EngineReply AuthProfile) : Outcome :=
  if s.phase != PHASE_RUN then (s,[])
  else if s.stopping || resultCode == ResultCode.CANCELED then endWithResult s ResultCode.CANCELED finalResult
  else if resultCode == ResultCode.SUCCESS || !s.childIsWidget then endWithResult s resultCode finalResult
  else match requery with
    | .refused _ _ => endWithResult s resultCode finalResult
    | .answered profile =>
      if profile.freezingTime > 0 then endWithLocked s profile else endWithResult s resultCode finalResult

-- An operation that ends the session with one result, after outputs that are none.
structure Ends (s : SudoAuthContext) (out : Outcome) (first : List Output) (resultCode : ResultCode) : Prop where
  outputs : ∃ attrs, out.2 = first ++ [.onResult resultCode attrs]
  phase : out.1.phase = PHASE_END
  dialog : out.1.dialogActive = false
  base : out.1.base = s.base
  querying : out.1.querying = s.querying

theorem endWithResult_ends (s : SudoAuthContext) (resultCode : ResultCode) (finalResult : Attributes)
    (running : s.phase ≠ PHASE_END) : Ends s (endWithResult s resultCode finalResult) [] resultCode := by
  rw [endWithResult,if_neg (by simpa using running)]
  exact ⟨⟨finalResult,rfl⟩,rfl,rfl,rfl,rfl⟩

theorem endWithResult_ended (s : SudoAuthContext) (resultCode : ResultCode) (finalResult : Attributes)
    (ended : s.phase = PHASE_END) : endWithResult s resultCode finalResult = (s,[]) := by
  rw [endWithResult,if_pos (by simp [ended])]

theorem endWithLocked_ends (s : SudoAuthContext) (profile : AuthProfile) (running : s.phase ≠ PHASE_END) :
    Ends s (endWithLocked s profile) [] ResultCode.LOCKED := endWithResult_ends s _ _ running

def isResult : Output → Bool
  | .onResult _ _ => true
  | _ => false

-- A child on its way: made and scheduled, or not and nothing but the state to end.
structure Starts (s : SudoAuthContext) (out : Outcome × Bool) : Prop where
  silent : ∀ output ∈ out.1.2, isResult output = false
  base : out.1.1.base = s.base
  querying : out.1.1.querying = s.querying
  stopping : out.1.1.stopping = s.stopping
  running : out.1.1.phase ≠ PHASE_END
  child : out.2 = true → out.1.1.phase = PHASE_RUN ∧ out.1.1.childContextId.isSome

theorem startSilentChild_starts (s : SudoAuthContext) (launch : Launch) (running : s.phase = PHASE_QUERY) :
    Starts s (startSilentChild s launch) := by
  unfold startSilentChild
  split
  · exact ⟨by simp,rfl,rfl,rfl,by simp [running],by simp⟩
  · dsimp only
    split
    · exact ⟨by simp [isResult],rfl,rfl,rfl,by simp [running],by simp⟩
    · exact ⟨by simp [launchChild,isResult],rfl,rfl,rfl,by simp [launchChild],by simp [launchChild]⟩

theorem startWidgetChild_starts (s : SudoAuthContext) (profile : AuthProfile) (launch : Launch)
    (running : s.phase = PHASE_QUERY) : Starts s (startWidgetChild s profile launch) := by
  unfold startWidgetChild
  split
  · exact ⟨by simp,rfl,rfl,rfl,by simp [running],by simp⟩
  · dsimp only
    split
    · exact ⟨by simp [isResult],rfl,rfl,rfl,by simp [running],by simp⟩
    · exact ⟨by simp [launchChild,isResult],rfl,rfl,rfl,by simp [launchChild],by simp [launchChild]⟩

-- What a dispatch leaves: the session ended with a failure, LOCKED and with
-- nothing before it where the freezing time is positive, or a child runs.
inductive Dispatched (s : SudoAuthContext) (frozen : Prop) (out : Outcome) : Prop where
  | ended (first : List Output) (resultCode : ResultCode) (ends : Ends s out first resultCode)
      (failed : resultCode ≠ ResultCode.SUCCESS) (silent : ∀ output ∈ first, isResult output = false)
      (locked : frozen → first = [] ∧ resultCode = ResultCode.LOCKED)
  | runs (starts : Starts s (out,true)) (thawed : ¬frozen)

theorem Starts.dispatched (starts : Starts s started) (next : SudoAuthContext → SudoAuthContext)
    (phase : ∀ c, (next c).phase = c.phase) (base : ∀ c, (next c).base = c.base)
    (querying : ∀ c, (next c).querying = c.querying)
    (thawed : ¬frozen) : Dispatched s frozen (if !started.2 then
      Mealy.andThen started.1 fun c => endWithResult (next c) ResultCode.GENERAL_ERROR Attributes.empty else started.1) := by
  obtain ⟨out,launched⟩ := started
  cases launched with
  | true => exact .runs starts thawed
  | false =>
    have going : (next out.1).phase ≠ PHASE_END := phase out.1 ▸ starts.running
    have ends := endWithResult_ends (next out.1) ResultCode.GENERAL_ERROR Attributes.empty going
    obtain ⟨attrs,outputs⟩ := ends.outputs
    refine .ended out.2 ResultCode.GENERAL_ERROR ⟨⟨attrs,?_⟩,ends.phase,ends.dialog,?_,?_⟩ (by decide) starts.silent
      (absurd · thawed)
    · exact congrArg (out.2 ++ ·) outputs
    · exact ends.base.trans ((base out.1).trans starts.base)
    · exact ends.querying.trans ((querying out.1).trans starts.querying)

theorem dispatchByProfile_cases (s : SudoAuthContext) (profile : AuthProfile) (launch : Launch)
    (running : s.phase = PHASE_QUERY) :
    Dispatched s (profile.freezingTime > 0) (dispatchByProfile s profile launch) := by
  rw [dispatchByProfile,if_neg (by simp [running])]
  split
  · exact .ended [] _ (endWithLocked_ends s profile (by simp [running])) (by decide) (by simp) (fun _ => ⟨rfl,rfl⟩)
  · rename_i thawed
    split
    · have starts := startWidgetChild_starts {s with childIsWidget:=true} profile launch running
      have own : Starts s (startWidgetChild {s with childIsWidget:=true} profile launch) :=
        ⟨starts.silent,starts.base,starts.querying,starts.stopping,starts.running,starts.child⟩
      exact own.dispatched (fun c => {c with childIsWidget:=false}) (fun _ => rfl) (fun _ => rfl) (fun _ => rfl) thawed
    · exact (startSilentChild_starts s launch running).dispatched id (fun _ => rfl) (fun _ => rfl) (fun _ => rfl) thawed

def Frozen (query : EngineReply AuthProfile) : Prop := ∃ profile, query = .answered profile ∧ profile.freezingTime > 0

theorem onStart_cases (s : SudoAuthContext) (query : EngineReply AuthProfile) (launch : Launch)
    (running : s.phase = PHASE_QUERY) : Dispatched s (Frozen query) (onStart s query launch) := by
  have going : s.phase ≠ PHASE_END := by simp [running]
  cases query with
  | refused code failed =>
    have thawed : ¬Frozen (.refused code failed) := by
      rintro ⟨profile,answered,_⟩
      cases answered
    simp only [onStart]
    split
    · exact .ended [] _ (endWithResult_ends s _ _ going) (by decide) (by simp) (absurd · thawed)
    · exact .ended [] _ (endWithResult_ends s _ _ going) (by decide) (by simp) (absurd · thawed)
  | answered profile =>
    have same : Frozen (.answered profile) ↔ profile.freezingTime > 0 := by simp [Frozen]
    rw [same]
    exact dispatchByProfile_cases s profile launch running

theorem onStart_ended (s : SudoAuthContext) (query : EngineReply AuthProfile) (launch : Launch)
    (ended : s.phase = PHASE_END) : onStart s query launch = (s,[]) := by
  cases query with
  | refused code failed =>
    simp only [onStart]
    split
    · exact endWithResult_ended s _ _ ended
    · exact endWithResult_ended s _ _ ended
  | answered profile => exact if_pos (by simp [ended])

theorem stop_begun (s : SudoAuthContext) (begun : s.base.hasStarted = true) : s.stop = s.onStop := by
  simp only [stop,BaseContext.stop_begun begun]

theorem onStop_query (s : SudoAuthContext) (phase : s.phase = PHASE_QUERY) :
    s.onStop = endWithResult s ResultCode.CANCELED Attributes.empty := by
  cases s
  cases phase
  rfl

theorem onStop_run (s : SudoAuthContext) (phase : s.phase = PHASE_RUN) (child : s.childContextId = some childId) :
    s.onStop = ({s with stopping:=true},[.cancel childId]) := by
  cases s
  cases phase
  cases child
  rfl

theorem onStop_end (s : SudoAuthContext) (phase : s.phase = PHASE_END) : s.onStop = (s,[]) := by
  cases s
  cases phase
  rfl

-- The child's report ends a running session, and a stop decides how.
theorem childReported_ends (s : SudoAuthContext) (code : ResultCode) (attrs : Attributes)
    (requery : EngineReply AuthProfile) (running : s.phase = PHASE_RUN) :
    ∃ resultCode, Ends s (childReported s code attrs requery) [] resultCode ∧
      (s.stopping = true → resultCode = ResultCode.CANCELED) ∧
      (resultCode = ResultCode.SUCCESS → code = ResultCode.SUCCESS ∧ s.stopping = false) := by
  have going : s.phase ≠ PHASE_END := by simp [running]
  unfold childReported
  rw [if_neg (by simp [running])]
  by_cases stops : s.stopping || code == ResultCode.CANCELED
  · rw [if_pos stops]
    exact ⟨_,endWithResult_ends s _ _ going,fun _ => rfl,fun success => absurd success (by decide)⟩
  · rw [if_neg stops]
    simp only [Bool.or_eq_true,not_or,Bool.not_eq_true] at stops
    have unstopped {resultCode : ResultCode} : s.stopping = true → resultCode = ResultCode.CANCELED := by
      simp [stops.1]
    have own : Ends s (endWithResult s code attrs) [] code := endWithResult_ends s code attrs going
    split
    · exact ⟨_,own,unstopped,fun success => ⟨success,stops.1⟩⟩
    · split
      · exact ⟨_,own,unstopped,fun success => ⟨success,stops.1⟩⟩
      · split
        · exact ⟨_,endWithLocked_ends s _ going,unstopped,fun success => absurd success (by decide)⟩
        · exact ⟨_,own,unstopped,fun success => ⟨success,stops.1⟩⟩

end SudoAuthContext

-- A session with what its surroundings owe it: the one start task that the pool
-- posts for a context, and the report of a child that was scheduled.
structure SudoRun where
  context : SudoAuthContext
  startTask : Bool := true
  owed : Bool := false

namespace SudoRun
open SudoAuthContext ContextFactory SudoPhase

-- The phase is the one that the call found.
inductive Event where
  | stopped (found : SudoPhase)
  | profiled (found : SudoPhase) (profile : AuthProfile)
  | reported (found : SudoPhase) (resultCode : ResultCode)
  | effect (output : Output)

inductive Input where
  | start
  | profile (query : EngineReply AuthProfile) (launch : Launch)
  | childResult (resultCode : ResultCode) (finalResult : Attributes) (requery : EngineReply AuthProfile)
  | stop

def profiles (found : SudoPhase) : EngineReply AuthProfile → List Event
  | .refused _ _ => []
  | .answered profile => [.profiled found profile]

def step (s : SudoRun) : Input → SudoRun × List Event
  | .start =>
    if s.startTask then
      let started := s.context.start
      ({s with context:=started.1,startTask:=false},started.2.map .effect)
    else (s,[])
  | .profile query launch =>
    if s.context.querying then
      let dispatched := {s.context with querying:=false}.onStart query launch
      ({s with context:=dispatched.1,owed:=dispatched.1.phase == PHASE_RUN},
        profiles s.context.phase query ++ dispatched.2.map .effect)
    else (s,[])
  | .childResult resultCode finalResult requery =>
    let reported := s.context.childReported resultCode finalResult requery
    ({s with context:=reported.1,owed:=false},.reported s.context.phase resultCode :: reported.2.map .effect)
  | .stop =>
    let stopped := s.context.stop
    ({s with context:=stopped.1},.stopped s.context.phase :: stopped.2.map .effect)

def machine : Mealy SudoRun Input Event := ⟨step⟩

def resultOf : Event → Option ResultCode
  | .effect (.onResult resultCode _) => some resultCode
  | _ => none

def results (log : List Event) : List ResultCode := log.filterMap resultOf

def Launches (log : List Event) : Prop := ∃ childId, .effect (.schedule childId) ∈ log

-- Nothing is still to come: the session began or was stopped, its query is back,
-- and a scheduled child has reported.
structure Complete (s : SudoRun) : Prop where
  begun : s.context.base.hasStarted = true ∨ s.context.base.stopRequested = true
  queried : s.context.querying = false
  reported : s.owed = false

-- What a success rests on.
def Earned (before : List Event) : Event → Prop
  | .effect (.onResult resultCode _) => resultCode = ResultCode.SUCCESS →
      (∃ found, .reported found ResultCode.SUCCESS ∈ before) ∧ ∀ found, .stopped found ∉ before
  | _ => True

section Log
variable {log more : List Event}

theorem results_append : results (log ++ more) = results log ++ results more := List.filterMap_append

theorem results_silent (silent : ∀ event ∈ more, resultOf event = none) : results more = [] :=
  List.filterMap_eq_nil_iff.mpr silent

theorem effects_silent {outputs : List Output} (silent : ∀ output ∈ outputs, isResult output = false) :
    ∀ event ∈ outputs.map Event.effect, resultOf event = none := by
  intro event member
  obtain ⟨output,inside,rfl⟩ := List.mem_map.mp member
  have quiet := silent output inside
  cases output with
  | onResult resultCode finalResult => cases quiet
  | _ => rfl

theorem earned_silent (each : History.Each Earned log) (silent : ∀ event ∈ more, resultOf event = none) :
    History.Each Earned (log ++ more) := by
  induction more generalizing log with
  | nil => simpa using each
  | cons event rest ih =>
    obtain ⟨first,others⟩ := List.forall_mem_cons.mp silent
    rw [List.append_cons]
    refine ih (History.each_concat.mpr ⟨each,?_⟩) others
    cases event with
    | effect output =>
      cases output with
      | onResult resultCode finalResult => cases first
      | _ => trivial
    | _ => trivial

end Log

def Unstopped (log : List Event) : Prop := ∀ found, .stopped found ∉ log
def Unasked (log : List Event) : Prop := ∀ found profile, .profiled found profile ∉ log

-- What a positive freezing time came to.
def Froze (log : List Event) (resultCode : ResultCode) : Prop :=
  ∀ found profile, .profiled found profile ∈ log → profile.freezingTime > 0 → ¬Launches log ∧
    (found = PHASE_QUERY ∧ resultCode = ResultCode.LOCKED ∨
      found ≠ PHASE_QUERY ∧ resultCode = ResultCode.CANCELED ∧ .stopped PHASE_QUERY ∈ log)

-- A stop while the query is out leaves its answer to come.
def Late (log : List Event) (resultCode : ResultCode) : Prop :=
  resultCode = ResultCode.CANCELED ∧ .stopped PHASE_QUERY ∈ log ∧ Unasked log ∧ ¬Launches log

inductive Stage (s : SudoRun) (log : List Event) : Prop where
  | waiting (base : s.context.base = {}) (phase : s.context.phase = PHASE_QUERY) (asked : s.context.querying = false)
      (quiet : results log = []) (unstopped : Unstopped log) (unasked : Unasked log) (unlaunched : ¬Launches log)
  | cancelled (unbegun : s.context.base.hasStarted = false) (stopped : s.context.base.stopRequested = true)
      (told : s.context.base.startFailDelivered = true) (phase : s.context.phase = PHASE_QUERY)
      (asked : s.context.querying = false) (result : results log = [ResultCode.CANCELED]) (unasked : Unasked log)
      (between : .stopped PHASE_RUN ∉ log)
  | querying (done : s.startTask = false) (begun : s.context.base.hasStarted = true)
      (phase : s.context.phase = PHASE_QUERY) (asking : s.context.querying = true) (quiet : results log = [])
      (unstopped : Unstopped log) (unasked : Unasked log)
      (unlaunched : ¬Launches log)
  | running (done : s.startTask = false) (begun : s.context.base.hasStarted = true)
      (phase : s.context.phase = PHASE_RUN) (child : s.context.childContextId.isSome)
      (asked : s.context.querying = false) (owed : s.owed = true)
      (quiet : results log = []) (unstopped : s.context.stopping = false → Unstopped log)
      (thawed : ∀ found profile, .profiled found profile ∈ log → ¬profile.freezingTime > 0)
  | ended (resultCode : ResultCode) (done : s.startTask = false) (begun : s.context.base.hasStarted = true)
      (phase : s.context.phase = PHASE_END) (dialog : s.context.dialogActive = false)
      (result : results log = [resultCode])
      (between : .stopped PHASE_RUN ∈ log → resultCode = ResultCode.CANCELED) (froze : Froze log resultCode)
      (late : s.context.querying = true → Late log resultCode)

structure Valid (s : SudoRun) (log : List Event) : Prop where
  stage : Stage s log
  earned : History.Each Earned log

theorem start_valid (before : Valid s log) : Valid (s.step .start).1 (log ++ (s.step .start).2) := by
  obtain ⟨stage,earned⟩ := before
  by_cases task : s.startTask = true
  · simp only [step,task,if_true]
    cases stage with
    | waiting base phase asked quiet unstopped unasked unlaunched =>
      simp only [SudoAuthContext.start,base,BaseContext.start_granted,if_true,List.map_nil,List.append_nil]
      exact ⟨.querying rfl rfl phase rfl quiet unstopped unasked unlaunched,earned⟩
    | cancelled unbegun stopped told phase asked result unasked between =>
      simp only [SudoAuthContext.start,SudoAuthContext.onStartFailed,BaseContext.start,BaseContext.onStartFailed,
        unbegun,stopped,told,Bool.false_eq_true,if_false,if_true,List.map_nil,List.append_nil]
      exact ⟨.cancelled rfl rfl rfl phase asked result unasked between,earned⟩
    | querying done | running done | ended _ done => cases task.symm.trans done
  · simp only [step,task,Bool.false_eq_true,if_false,List.append_nil]
    exact ⟨stage,earned⟩

theorem results_quiet {log more : List Event} (silent : ∀ event ∈ more, resultOf event = none) :
    results (log ++ more) = results log := by
  rw [results_append,results_silent silent,List.append_nil]

theorem results_last {log : List Event} (event : Event) (code : ResultCode) (attrs : Attributes)
    (silent : resultOf event = none) :
    results (log ++ [event,.effect (.onResult code attrs)]) = results log ++ [code] := by
  have last : results [event,.effect (.onResult code attrs)] = [code] := by
    rw [results,List.filterMap_cons_none silent]
    rfl
  rw [results_append,last]

theorem earned_last {log : List Event} (event : Event) (code : ResultCode) (attrs : Attributes)
    (each : History.Each Earned log) (silent : resultOf event = none)
    (good : Earned (log ++ [event]) (.effect (.onResult code attrs))) :
    History.Each Earned (log ++ [event,.effect (.onResult code attrs)]) := by
  rw [List.append_cons]
  exact History.each_concat.mpr ⟨earned_silent each (by simpa using silent),good⟩

-- The report of the child that runs ends the session.
theorem childResult_ends (code : ResultCode) (attrs : Attributes) (requery : EngineReply AuthProfile)
    (before : Valid s log) (running : s.context.phase = PHASE_RUN) :
    Valid (s.step (.childResult code attrs requery)).1 (log ++ (s.step (.childResult code attrs requery)).2) := by
  obtain ⟨stage,earned⟩ := before
  cases stage with
  | waiting base phase | cancelled unbegun stopped told phase | querying done begun phase | ended _ done begun phase =>
    cases running.symm.trans phase
  | running done begun phase child asked owed quiet unstopped thawed =>
    obtain ⟨final,ends,stops,success⟩ := childReported_ends s.context code attrs requery running
    obtain ⟨finalAttrs,outputs⟩ := ends.outputs
    have more : (s.step (.childResult code attrs requery)).2 =
        [.reported PHASE_RUN code,.effect (.onResult final finalAttrs)] := by
      simp only [step,outputs,running,List.nil_append,List.map_singleton]
    rw [more]
    refine ⟨.ended final done (ends.base ▸ begun) ends.phase ends.dialog ?_ ?_ ?_ ?_,?_⟩
    · rw [results_last _ _ _ rfl,quiet,List.nil_append]
    · intro between
      have between : .stopped PHASE_RUN ∈ log := by simpa using between
      apply stops
      by_contra unhurried
      exact unstopped (by simpa using unhurried) _ between
    · intro found profile member cold
      have member : .profiled found profile ∈ log := by simpa using member
      exact absurd cold (thawed found profile member)
    · intro asking
      have still : s.context.querying = true := ends.querying.symm.trans asking
      cases asked.symm.trans still
    · apply earned_last _ _ _ earned rfl
      intro good
      obtain ⟨reported,unhurried⟩ := success good
      refine ⟨⟨PHASE_RUN,by simp [reported]⟩,?_⟩
      intro found
      have never := unstopped unhurried found
      simpa using never

-- Any other report is late or none of this session's and changes nothing.
theorem childResult_ignored (code : ResultCode) (attrs : Attributes) (requery : EngineReply AuthProfile)
    (before : Valid s log) (running : s.context.phase ≠ PHASE_RUN) :
    Valid (s.step (.childResult code attrs requery)).1 (log ++ (s.step (.childResult code attrs requery)).2) := by
  obtain ⟨stage,earned⟩ := before
  have same : s.context.childReported code attrs requery = (s.context,[]) := by
    unfold childReported
    rw [if_pos (by simpa using running)]
  have silent : ∀ event ∈ [Event.reported s.context.phase code], resultOf event = none := by simp [resultOf]
  simp only [step,same,List.map_nil]
  refine ⟨?_,earned_silent earned silent⟩
  have launches : Launches (log ++ [.reported s.context.phase code]) ↔ Launches log := by simp [Launches]
  cases stage with
  | waiting base phase asked quiet unstopped unasked unlaunched =>
    exact .waiting base phase asked (by rw [results_quiet silent,quiet]) (by simpa [Unstopped] using unstopped)
      (by simpa [Unasked] using unasked) (launches.not.mpr unlaunched)
  | cancelled unbegun stopped told phase asked result unasked between =>
    exact .cancelled unbegun stopped told phase asked (by rw [results_quiet silent,result])
      (by simpa [Unasked] using unasked) (by simpa using between)
  | querying done begun phase asking quiet unstopped unasked unlaunched =>
    exact .querying done begun phase asking (by rw [results_quiet silent,quiet])
      (by simpa [Unstopped] using unstopped) (by simpa [Unasked] using unasked) (launches.not.mpr unlaunched)
  | running done begun phase => exact absurd phase running
  | ended final done begun phase dialog result between froze late =>
    refine .ended final done begun phase dialog (by rw [results_quiet silent,result]) (by simpa using between) ?_ ?_
    · simpa [Froze,launches] using froze
    · simpa [Late,Unasked,launches] using late

theorem childResult_valid (code : ResultCode) (attrs : Attributes) (requery : EngineReply AuthProfile)
    (before : Valid s log) :
    Valid (s.step (.childResult code attrs requery)).1 (log ++ (s.step (.childResult code attrs requery)).2) := by
  by_cases running : s.context.phase = PHASE_RUN
  · exact childResult_ends code attrs requery before running
  · exact childResult_ignored code attrs requery before running

theorem stop_valid (before : Valid s log) : Valid (s.step .stop).1 (log ++ (s.step .stop).2) := by
  obtain ⟨stage,earned⟩ := before
  have failed : ResultCode.CANCELED ≠ ResultCode.SUCCESS := by decide
  cases stage with
  | waiting base phase asked quiet unstopped unasked unlaunched =>
    have stopped : s.context.stop = ({s.context with base:={stopRequested:=true,startFailDelivered:=true}},
        [.onResult ResultCode.CANCELED Attributes.empty]) := by
      simp [SudoAuthContext.stop,base,BaseContext.stop_fresh,SudoAuthContext.onStartFailed,BaseContext.onStartFailed_first]
    have found : Event.stopped s.context.phase = .stopped PHASE_QUERY := congrArg Event.stopped phase
    simp only [step,stopped,List.map_singleton]
    rw [found]
    refine ⟨.cancelled rfl rfl rfl phase asked ?_ ?_ ?_,?_⟩
    · rw [results_last _ _ _ rfl,quiet,List.nil_append]
    · simpa [Unasked] using unasked
    · simpa using unstopped PHASE_RUN
    · exact earned_last _ _ _ earned rfl (absurd · failed)
  | cancelled unbegun stopped told phase asked result unasked between =>
    have same : s.context.stop = (s.context,[]) := by simp [SudoAuthContext.stop,BaseContext.stop_again unbegun stopped]
    have silent : ∀ event ∈ [Event.stopped PHASE_QUERY], resultOf event = none := by simp [resultOf]
    simp only [step,same,phase,List.map_nil]
    refine ⟨.cancelled unbegun stopped told phase asked ?_ ?_ ?_,earned_silent earned silent⟩
    · rw [results_quiet silent,result]
    · simpa [Unasked] using unasked
    · simpa using between
  | querying done begun phase asking quiet unstopped unasked unlaunched =>
    have reaches := (stop_begun s.context begun).trans (onStop_query s.context phase)
    have ends := endWithResult_ends s.context ResultCode.CANCELED Attributes.empty (by simp [phase])
    obtain ⟨attrs,outputs⟩ := ends.outputs
    simp only [step,reaches,outputs,phase,List.nil_append,List.map_singleton]
    refine ⟨.ended ResultCode.CANCELED done (ends.base ▸ begun) ends.phase ends.dialog ?_ (fun _ => rfl) ?_ ?_,?_⟩
    · rw [results_last _ _ _ rfl,quiet,List.nil_append]
    · intro found profile member
      exact absurd (by simpa using member) (unasked found profile)
    · intro _
      exact ⟨rfl,by simp,by simpa [Unasked] using unasked,by simpa [Launches] using unlaunched⟩
    · exact earned_last _ _ _ earned rfl (absurd · failed)
  | running done begun phase child asked owed quiet unstopped thawed =>
    obtain ⟨childId,known⟩ := Option.isSome_iff_exists.mp child
    have reaches := (stop_begun s.context begun).trans (onStop_run s.context phase known)
    have silent : ∀ event ∈ [Event.stopped PHASE_RUN,.effect (.cancel childId)], resultOf event = none := by
      simp [resultOf]
    have found : Event.stopped s.context.phase = .stopped PHASE_RUN := congrArg Event.stopped phase
    simp only [step,reaches,List.map_singleton]
    rw [found]
    refine ⟨.running done begun phase child asked owed ?_ ?_ ?_,earned_silent earned silent⟩
    · rw [results_quiet silent,quiet]
    · intro unhurried
      cases unhurried
    · simpa using thawed
  | ended final done begun phase dialog result between froze late =>
    have same := (stop_begun s.context begun).trans (onStop_end s.context phase)
    have silent : ∀ event ∈ [Event.stopped PHASE_END], resultOf event = none := by simp [resultOf]
    simp only [step,same,phase,List.map_nil]
    refine ⟨.ended final done begun phase dialog ?_ ?_ ?_ ?_,earned_silent earned silent⟩
    · rw [results_quiet silent,result]
    · simpa using between
    · simpa [Froze,Launches] using froze
    · simpa [Late,Unasked,Launches] using late

theorem mem_profiles (found : SudoPhase) (query : EngineReply AuthProfile) :
    .profiled found' profile ∈ profiles found query ↔ found' = found ∧ query = .answered profile := by
  cases query with
  | refused code failed => simp [profiles]
  | answered own => simp [profiles,eq_comm]

theorem profiles_silent (found : SudoPhase) (query : EngineReply AuthProfile) :
    ∀ event ∈ profiles found query, resultOf event = none := by
  cases query with
  | refused code failed => simp [profiles]
  | answered own => simp [profiles,resultOf]

theorem thawed_profile (thawed : ¬Frozen query) (member : .profiled found profile ∈ profiles PHASE_QUERY query) :
    ¬profile.freezingTime > 0 :=
  fun cold => thawed ⟨profile,((mem_profiles _ _).mp member).2,cold⟩

theorem effects_plain {outputs : List Output} (event : Event) (plain : ∀ output, event ≠ .effect output) :
    event ∉ outputs.map Event.effect := by
  intro member
  obtain ⟨output,_,same⟩ := List.mem_map.mp member
  exact plain output same.symm

-- The query's answer reaches a session that still waits for it.
theorem dispatched_valid {s : SudoRun} (done : s.startTask = false) (begun : s.context.base.hasStarted = true)
    (quiet : results log = []) (unstopped : Unstopped log) (unasked : Unasked log) (unlaunched : ¬Launches log)
    (earned : History.Each Earned log) (dispatched : Dispatched {s.context with querying:=false} (Frozen query) out) :
    Valid {s with context:=out.1,owed:=out.1.phase == PHASE_RUN}
      (log ++ (profiles PHASE_QUERY query ++ out.2.map .effect)) := by
  have told : ∀ {found profile}, .profiled found profile ∈ log ++ (profiles PHASE_QUERY query ++ out.2.map .effect) →
      .profiled found profile ∈ profiles PHASE_QUERY query := by
    intro found profile member
    rcases List.mem_append.mp member with old | new
    · exact absurd old (unasked found profile)
    · exact (List.mem_append.mp new).resolve_right (effects_plain _ (by simp))
  have never : ∀ found, .stopped found ∉ log ++ (profiles PHASE_QUERY query ++ out.2.map .effect) := by
    intro found member
    rcases List.mem_append.mp member with old | new
    · exact unstopped found old
    · rcases List.mem_append.mp new with asked | told
      · cases query with
        | refused code failed => cases asked
        | answered profile => cases List.mem_singleton.mp asked
      · exact effects_plain _ (by simp) told
  cases dispatched with
  | ended first final ends failed silent locked =>
    obtain ⟨attrs,outputs⟩ := ends.outputs
    have quietFirst : ∀ event ∈ profiles PHASE_QUERY query ++ first.map .effect, resultOf event = none := by
      intro event member
      rcases List.mem_append.mp member with asked | told
      · exact profiles_silent _ _ event asked
      · exact effects_silent silent event told
    have whole : log ++ (profiles PHASE_QUERY query ++ out.2.map .effect) =
        (log ++ (profiles PHASE_QUERY query ++ first.map .effect)) ++ [.effect (.onResult final attrs)] := by
      simp only [outputs,List.map_append,List.map_singleton,List.append_assoc]
    refine ⟨.ended final done (ends.base ▸ begun) ends.phase ends.dialog ?_ ?_ ?_ ?_,?_⟩
    · rw [whole,results_append,results_quiet quietFirst,quiet]
      rfl
    · exact fun between => absurd between (never _)
    · intro found profile member cold
      obtain ⟨same,answered⟩ := (mem_profiles _ _).mp (told member)
      obtain ⟨rfl,code⟩ := locked ⟨profile,answered,cold⟩
      refine ⟨?_,.inl ⟨same,code⟩⟩
      subst answered
      simpa [Launches,outputs,profiles] using unlaunched
    · intro asking
      cases ends.querying.symm.trans asking
    · rw [whole]
      exact History.each_concat.mpr ⟨earned_silent earned quietFirst,(absurd · failed)⟩
  | runs starts thawed =>
    have quietAll : ∀ event ∈ profiles PHASE_QUERY query ++ out.2.map .effect, resultOf event = none := by
      intro event member
      rcases List.mem_append.mp member with asked | told
      · exact profiles_silent _ _ event asked
      · exact effects_silent starts.silent event told
    obtain ⟨phase,child⟩ := starts.child rfl
    have owed : (out.1.phase == PHASE_RUN) = true := beq_iff_eq.mpr phase
    refine ⟨.running done (starts.base ▸ begun) phase child starts.querying owed ?_ (fun _ => never) ?_,
      earned_silent earned quietAll⟩
    · rw [results_quiet quietAll,quiet]
    · exact fun found profile member => thawed_profile thawed (told member)

theorem profile_valid (query : EngineReply AuthProfile) (launch : Launch) (before : Valid s log) :
    Valid (s.step (.profile query launch)).1 (log ++ (s.step (.profile query launch)).2) := by
  obtain ⟨stage,earned⟩ := before
  by_cases asking : s.context.querying = true
  · simp only [step,asking,if_true]
    cases stage with
    | waiting base phase asked | cancelled unbegun stopped told phase asked | running done begun phase child asked =>
      cases asking.symm.trans asked
    | querying done begun phase asking quiet unstopped unasked unlaunched =>
      have found : profiles s.context.phase query = profiles PHASE_QUERY query := congrArg (profiles · query) phase
      rw [found]
      exact dispatched_valid done begun quiet unstopped unasked unlaunched earned (onStart_cases _ query launch phase)
    | ended final done begun phase dialog result between froze late =>
      have found : profiles s.context.phase query = profiles PHASE_END query := congrArg (profiles · query) phase
      have dropped := onStart_ended {s.context with querying:=false} query launch phase
      have silent := profiles_silent PHASE_END query
      obtain ⟨cancelled,early,unasked,unlaunched⟩ := late asking
      rw [found,dropped]
      simp only [List.map_nil,List.append_nil]
      refine ⟨.ended final done begun phase dialog ?_ ?_ ?_ ?_,earned_silent earned silent⟩
      · rw [results_quiet silent,result]
      · exact fun _ => cancelled
      · intro found profile member _
        have new := (List.mem_append.mp member).resolve_left (unasked found profile)
        obtain ⟨rfl,rfl⟩ := (mem_profiles _ _).mp new
        refine ⟨?_,.inr ⟨by decide,cancelled,List.mem_append_left _ early⟩⟩
        simpa [Launches,profiles] using unlaunched
      · intro again
        cases again
  · simp only [step,asking,Bool.false_eq_true,if_false,List.append_nil]
    exact ⟨stage,earned⟩

def initial (para : SudoAuthContextPara) : SudoRun := {context:={para}}

theorem initial_valid (para : SudoAuthContextPara) : Valid (initial para) [] := by
  refine ⟨.waiting rfl rfl rfl rfl ?_ ?_ ?_,History.each_nil Earned⟩
  · simp [Unstopped]
  · simp [Unasked]
  · simp [Launches]

theorem step_valid (s : SudoRun) (log : List Event) (input : Input) (before : Valid s log) :
    Valid (s.step input).1 (log ++ (s.step input).2) := by
  cases input with
  | start => exact start_valid before
  | profile query launch => exact profile_valid query launch before
  | childResult code attrs requery => exact childResult_valid code attrs requery before
  | stop => exact stop_valid before

theorem runs_valid (para : SudoAuthContextPara) (inputs : List Input) :
    Valid (machine.after (initial para) inputs) (machine.trace (initial para) inputs) :=
  Mealy.history step_valid (initial_valid para) inputs

section Reached
variable {s : SudoRun} {log : List Event}

theorem Stage.few (stage : Stage s log) : (results log).length ≤ 1 := by
  cases stage with
  | waiting _ _ _ quiet | querying _ _ _ _ quiet | running _ _ _ _ _ _ quiet => simp [quiet]
  | cancelled _ _ _ _ _ result | ended _ _ _ _ _ result => simp [result]

theorem Stage.complete (stage : Stage s log) (complete : Complete s) : (results log).length = 1 := by
  cases stage with
  | waiting base => simpa [base] using complete.begun
  | querying _ _ _ asking => cases asking.symm.trans complete.queried
  | running _ _ _ _ _ owed => cases owed.symm.trans complete.reported
  | cancelled _ _ _ _ _ result | ended _ _ _ _ _ result => simp [result]

theorem Stage.stopped (stage : Stage s log) (between : .stopped PHASE_RUN ∈ log) :
    ∀ code ∈ results log, code = ResultCode.CANCELED := by
  cases stage with
  | waiting _ _ _ quiet | querying _ _ _ _ quiet | running _ _ _ _ _ _ quiet => simp [quiet]
  | cancelled _ _ _ _ _ result => simp [result]
  | ended final _ _ _ _ result cancelled => simp [result,cancelled between]

theorem Stage.frozen (stage : Stage s log) (member : .profiled found profile ∈ log) (cold : profile.freezingTime > 0) :
    ¬Launches log ∧ (found = PHASE_QUERY ∧ results log = [ResultCode.LOCKED] ∨
      found ≠ PHASE_QUERY ∧ results log = [ResultCode.CANCELED] ∧ .stopped PHASE_QUERY ∈ log) := by
  cases stage with
  | waiting _ _ _ _ _ unasked | querying _ _ _ _ _ _ unasked | cancelled _ _ _ _ _ _ unasked =>
    exact absurd member (unasked _ _)
  | running _ _ _ _ _ _ _ _ thawed => exact absurd cold (thawed _ _ member)
  | ended final _ _ _ _ result _ froze =>
    rw [result]
    simpa using froze _ _ member cold

theorem Stage.dimmed (stage : Stage s log) (ended : s.context.phase = PHASE_END) : s.context.dialogActive = false := by
  cases stage with
  | waiting _ phase | cancelled _ _ _ phase | querying _ _ phase | running _ _ phase => cases ended.symm.trans phase
  | ended _ _ _ _ dialog => exact dialog

end Reached

-- Every order of the start task, the query's answer, stops and child reports.
theorem sudo_result (para : SudoAuthContextPara) (inputs : List Input) :
    let s := machine.after (initial para) inputs
    let log := machine.trace (initial para) inputs
    (results log).length ≤ 1 ∧
    (Complete s → (results log).length = 1) ∧
    (.stopped PHASE_RUN ∈ log → ∀ code ∈ results log, code = ResultCode.CANCELED) ∧
    (∀ before attrs, before ++ [.effect (.onResult ResultCode.SUCCESS attrs)] <+: log →
      (∃ found, .reported found ResultCode.SUCCESS ∈ before) ∧ ∀ found, .stopped found ∉ before) ∧
    (∀ found profile, .profiled found profile ∈ log → profile.freezingTime > 0 →
      (∀ childId, .effect (.schedule childId) ∉ log) ∧
      (found = PHASE_QUERY ∧ results log = [ResultCode.LOCKED] ∨
        found ≠ PHASE_QUERY ∧ results log = [ResultCode.CANCELED] ∧ .stopped PHASE_QUERY ∈ log)) ∧
    (s.context.phase = PHASE_END → s.context.dialogActive = false) := by
  intro s log
  have valid : Valid s log := runs_valid para inputs
  refine ⟨valid.stage.few,valid.stage.complete,valid.stage.stopped,?_,?_,valid.stage.dimmed⟩
  · intro before attrs earlier
    exact valid.earned before _ earlier rfl
  · intro found profile member cold
    obtain ⟨unlaunched,came⟩ := valid.stage.frozen member cold
    exact ⟨fun childId launched => unlaunched ⟨childId,launched⟩,came⟩

-- Stopped while its query is out, then told of a lockout.
def stoppedThenFrozen : List Input := [.start,.stop,.profile (.answered {freezingTime:=60000}) ⟨true,some 12,true⟩]

theorem stopped_query_not_locked :
    ¬∀ (para : SudoAuthContextPara) (inputs : List Input) found profile,
      .profiled found profile ∈ machine.trace (initial para) inputs → profile.freezingTime > 0 →
      results (machine.trace (initial para) inputs) = [ResultCode.LOCKED] := by
  intro locked
  have told := locked {} stoppedThenFrozen PHASE_END {freezingTime:=60000} ?_ (by decide)
  · cases told
  · exact List.mem_cons_of_mem _ (List.mem_cons_of_mem _ List.mem_cons_self)

end SudoRun
end UserAuth
