import UserAuth.Pool.Handshake

namespace UserAuth
open ContextPoolImpl ContextObject

section Log
variable (log : List HandshakeEvent) (context : Context)

def Started : Prop := .start context .onStart ∈ log ∨ .start context .done ∈ log

def isResultOf (context : Context) : HandshakeEvent → Bool
  | .onStartFailed other _ | .onResult other _ => other == context
  | _ => false

-- What the context's caller has been sent, and by which way.
def results : List HandshakeEvent := log.filter (isResultOf context)

def runsOrStops (context : Context) (event : HandshakeEvent) : Bool :=
  event == .start context .onStart || event == .stop context

-- Stop was called on the context, and no run of its OnStart comes before.
def StoppedFirst : Prop := log.find? (runsOrStops context) = some (.stop context)

-- The one result that a context stopped before its start owes its caller.
def owed : List HandshakeEvent :=
  if context.contextType = .scheduleHolder then [] else [.onStartFailed context ResultCode.CANCELED]

end Log

def HandshakeEvent.concerns (context : Context) : HandshakeEvent → Bool
  | .start other _ | .stop other | .onStartFailed other _ | .onResult other _ => other == context
  | .removed _ => false

-- What the events say of a context in this seat.
def Recorded (log : List HandshakeEvent) (context : Context) : Seat → Prop
  | .started => Started log context
  | .free => ¬Started log context ∧ .stop context ∉ log ∧ results log context = []
  | .stopping => ¬Started log context ∧ .stop context ∈ log ∧ results log context = []
  | .answered => ¬Started log context ∧ .stop context ∈ log ∧ results log context = owed context

-- The seats in which the serial thread can be about to make a call.
def SerialCall.seats : Option SerialCall → List Seat
  | none | some .stop | some .start => [.free,.started,.answered]
  | some .reportStop => [.stopping]
  | some .onStart => [.started]
  | some .startFailed => [.started,.answered]

structure Seated (context : Context) (object : ContextObject) (call : Option SerialCall) (log : List HandshakeEvent)
    (seat : Seat) : Prop where
  sits : object.Sits seat
  records : Recorded log context seat
  meets : seat ∈ SerialCall.seats call
  caller : object.hasCaller = decide (context.contextType ≠ .scheduleHolder)
  holder : .start context .done ∈ log → context.contextType = .scheduleHolder
  first : StoppedFirst log context → .start context .onStart ∉ log

section Unrelated
variable {log more : List HandshakeEvent} {context : Context}

theorem started_append : Started (log ++ more) context ↔ Started log context ∨ Started more context := by
  simp only [Started,List.mem_append]
  tauto

theorem results_append : results (log ++ more) context = results log context ++ results more context :=
  List.filter_append ..

theorem unrelated_absent (unrelated : ∀ event ∈ more, event.concerns context = false)
    (concerns : event.concerns context = true) : event ∉ more := by
  intro member
  rw [unrelated event member] at concerns
  cases concerns

theorem unrelated_results (unrelated : ∀ event ∈ more, event.concerns context = false) : results more context = [] := by
  refine List.filter_eq_nil_iff.mpr fun event member => ?_
  have apart := unrelated event member
  cases event with
  | start => exact Bool.false_ne_true
  | stop => exact Bool.false_ne_true
  | removed => exact Bool.false_ne_true
  | onStartFailed => simpa [isResultOf,HandshakeEvent.concerns] using apart
  | onResult => simpa [isResultOf,HandshakeEvent.concerns] using apart

theorem unrelated_started (unrelated : ∀ event ∈ more, event.concerns context = false) : ¬Started more context := by
  have self : ∀ answer, (HandshakeEvent.start context answer).concerns context = true := fun _ => beq_self_eq_true context
  rintro (run | done)
  · exact unrelated_absent unrelated (self _) run
  · exact unrelated_absent unrelated (self _) done

-- Events that neither run the context's OnStart nor begin another stop.
theorem stoppedFirst_old (before : StoppedFirst log context → .start context .onStart ∉ log)
    (quiet : .start context .onStart ∉ more) (stopped : StoppedFirst (log ++ more) context) :
    .start context .onStart ∉ log ++ more := by
  have old : .start context .onStart ∉ log := by
    intro run
    unfold StoppedFirst at stopped before
    rw [List.find?_append] at stopped
    cases found : log.find? (runsOrStops context) with
    | none => exact absurd (List.find?_eq_none.mp found _ run) (by simp [runsOrStops])
    | some event =>
      rw [found,Option.some_or] at stopped
      exact before (found.trans stopped) run
  simp [old,quiet]

theorem recorded_append (unrelated : ∀ event ∈ more, event.concerns context = false) :
    Recorded (log ++ more) context seat ↔ Recorded log context seat := by
  have begun := unrelated_started unrelated
  have sent := unrelated_results unrelated
  have stopped : .stop context ∉ more := unrelated_absent unrelated (beq_self_eq_true context)
  cases seat <;> simp [Recorded,started_append,results_append,begun,sent,stopped]

theorem Seated.elsewhere (before : Seated context object call log seat)
    (unrelated : ∀ event ∈ more, event.concerns context = false) : Seated context object call (log ++ more) seat := by
  have quiet : ∀ answer, .start context answer ∉ more := fun _ =>
    unrelated_absent unrelated (beq_self_eq_true context)
  refine ⟨before.sits,(recorded_append unrelated).mpr before.records,before.meets,before.caller,?_,?_⟩
  · intro done
    exact before.holder ((List.mem_append.mp done).resolve_right (quiet _))
  · exact stoppedFirst_old before.first (quiet _)

end Unrelated

section Calls
open Handshake (callObject)
variable {log more : List HandshakeEvent} {context : Context} {object next : ContextObject}

-- What any call but Start's own leaves to be shown.
theorem Seated.own (before : Seated context object call log seat) (caller : next.hasCaller = object.hasCaller)
    (quiet : ∀ answer, .start context answer ∉ more) (sits : next.Sits moved)
    (records : Recorded (log ++ more) context moved) (meets : moved ∈ SerialCall.seats later) :
    Seated context next later (log ++ more) moved := by
  refine ⟨sits,records,meets,caller.trans before.caller,?_,?_⟩
  · intro done
    exact before.holder ((List.mem_append.mp done).resolve_right (quiet _))
  · exact stoppedFirst_old before.first (quiet _)

theorem idle_free : .free ∈ SerialCall.seats none := by decide
theorem idle_started : .started ∈ SerialCall.seats none := by decide
theorem idle_answered : .answered ∈ SerialCall.seats none := by decide

theorem started_still (begun : Started log context) : Recorded (log ++ more) context .started :=
  started_append.mpr (.inl begun)

theorem holder_of (before : Seated context object call log seat) (none : object.hasCaller = false) :
    context.contextType = .scheduleHolder ∧ object = .scheduleHolder := by
  refine ⟨?_,?_⟩
  · have same := before.caller
    rw [none] at same
    simpa using same.symm
  · cases object with
    | scheduleHolder => rfl
    | base => cases none
    | widget => cases none

theorem recorded_stop (records : Recorded log context .free) : Recorded (log ++ [.stop context]) context .stopping := by
  obtain ⟨unstarted,_,silent⟩ := records
  refine ⟨?_,by simp,?_⟩
  · simpa [started_append,Started] using unstarted
  · rw [results_append,silent]
    rfl

theorem stop_seated (answers : Answers) (before : Seated context object (some .stop) log seat) :
    ∃ moved, Seated context (callObject answers context object .stop).1 (callObject answers context object .stop).2.1
      (log ++ (callObject answers context object .stop).2.2) moved := by
  have quiet : ∀ answer, .start context answer ∉ (callObject answers context object .stop).2.2 := by
    simp [callObject]
  have caller : (callObject answers context object .stop).1.hasCaller = object.hasCaller := stop_caller answers object
  cases seat with
  | free =>
    obtain ⟨sits,answer⟩ := stop_free answers object before.sits
    have asked := recorded_stop before.records
    simp only [callObject,answer,List.map_nil] at quiet caller ⊢
    cases called : object.hasCaller with
    | true => exact ⟨.stopping,before.own caller quiet sits asked (by decide)⟩
    | false =>
      obtain ⟨kind,rfl⟩ := holder_of before called
      refine ⟨.answered,before.own caller quiet trivial ⟨asked.1,asked.2.1,?_⟩ (by decide)⟩
      rw [asked.2.2,owed,if_pos kind]
  | started =>
    obtain ⟨sits,answer⟩ := stop_started answers object before.sits
    simp only [callObject,answer] at quiet caller ⊢
    exact ⟨.started,before.own caller quiet sits (started_still before.records) (by decide)⟩
  | stopping => exact absurd before.meets (by decide)
  | answered =>
    obtain ⟨sits,answer⟩ := stop_answered answers object before.sits
    obtain ⟨unstarted,stopped,paid⟩ := before.records
    simp only [callObject,answer,List.map_nil] at quiet caller ⊢
    refine ⟨.answered,before.own caller quiet sits ⟨?_,List.mem_append_left _ stopped,?_⟩ (by decide)⟩
    · simpa [started_append,Started] using unstarted
    · rw [results_append,paid]
      exact List.append_nil _

theorem reportStop_seated (answers : Answers) (before : Seated context object (some .reportStop) log seat) :
    ∃ moved, Seated context (callObject answers context object .reportStop).1
      (callObject answers context object .reportStop).2.1
      (log ++ (callObject answers context object .reportStop).2.2) moved := by
  cases List.mem_singleton.mp before.meets
  obtain ⟨sits,answer⟩ := onStartFailed_stopping ResultCode.CANCELED object before.sits
  obtain ⟨unstarted,stopped,silent⟩ := before.records
  have sent : (callObject answers context object .reportStop).2.2 = owed context := by
    simp only [callObject,answer,before.caller,owed]
    by_cases kind : context.contextType = .scheduleHolder <;> simp [kind]
  have quiet : ∀ answer, .start context answer ∉ owed context := by
    intro answer
    unfold owed
    split <;> simp
  rw [sent]
  refine ⟨.answered,before.own (onStartFailed_caller _ object) quiet sits ⟨?_,List.mem_append_left _ stopped,?_⟩
    idle_answered⟩
  · rw [started_append]
    rintro (begun | begun)
    · exact unstarted begun
    · exact begun.elim (quiet _) (quiet _)
  · rw [results_append,silent,List.nil_append,results,owed]
    split <;> simp [isResultOf]

theorem onStart_seated (answers : Answers) (before : Seated context object (some .onStart) log seat) :
    ∃ moved, Seated context (callObject answers context object .onStart).1
      (callObject answers context object .onStart).2.1
      (log ++ (callObject answers context object .onStart).2.2) moved := by
  have quiet : ∀ answer, .start context answer ∉ (callObject answers context object .onStart).2.2 := by
    simp [callObject]
  cases List.mem_singleton.mp before.meets
  refine ⟨.started,before.own (onStart_caller answers object) quiet (onStart_started answers object before.sits)
    (started_still before.records) ?_⟩
  simp only [callObject]
  split <;> decide

theorem startFailed_seated (answers : Answers) (before : Seated context object (some .startFailed) log seat) :
    ∃ moved, Seated context (callObject answers context object .startFailed).1
      (callObject answers context object .startFailed).2.1
      (log ++ (callObject answers context object .startFailed).2.2) moved := by
  have quiet : ∀ answer, .start context answer ∉ (callObject answers context object .startFailed).2.2 := by
    simp [callObject]
  have caller := onStartFailed_caller object.getLatestError object
  cases seat with
  | free => exact absurd before.meets (by decide)
  | stopping => exact absurd before.meets (by decide)
  | started =>
    exact ⟨.started,before.own caller quiet (onStartFailed_started _ object before.sits)
      (started_still before.records) idle_started⟩
  | answered =>
    obtain ⟨sits,answer⟩ := onStartFailed_answered object.getLatestError object before.sits
    simp only [callObject,answer,List.map_nil,List.append_nil]
    exact ⟨.answered,sits,before.records,by decide,caller.trans before.caller,before.holder,before.first⟩

-- A start that begins nothing finds the context started or stopped already.
theorem start_refused (before : Seated context object (some .start) log seat) (idle : ¬object.start.2.Starts) :
    seat = .started ∨ seat = .answered := by
  cases seat with
  | free => exact absurd (start_free object before.sits) idle
  | started => exact .inl rfl
  | stopping => exact absurd before.meets (by decide)
  | answered => exact .inr rfl

theorem start_granted_seated (answers : Answers) (before : Seated context object (some .start) log seat)
    (granted : object.start.2 = .onStart) :
    Seated context (callObject answers context object .start).1 (callObject answers context object .start).2.1
      (log ++ (callObject answers context object .start).2.2) .started := by
  have sits := start_starts object (.inl granted)
  cases onStart_from_free object seat before.sits granted
  obtain ⟨unstarted,unstopped,_⟩ := before.records
  simp only [callObject,granted]
  refine ⟨sits,.inl (by simp),by decide,(start_caller object).trans before.caller,?_,?_⟩
  · intro done
    exact before.holder (by simpa using done)
  · intro stopped
    have silent : log.find? (runsOrStops context) = none := by
      refine List.find?_eq_none.mpr fun event member concerned => ?_
      simp only [runsOrStops,Bool.or_eq_true,beq_iff_eq] at concerned
      rcases concerned with rfl | rfl
      · exact unstarted (.inl member)
      · exact unstopped member
    simp [StoppedFirst,List.find?_append,silent,runsOrStops] at stopped

-- Only a schedule holder ends with its start.
theorem done_callerless (done : object.start.2 = .done) : object.hasCaller = false := by
  cases object with
  | scheduleHolder => rfl
  | base _ =>
    simp only [start] at done
    split at done <;> cases done
  | widget _ =>
    simp only [start] at done
    split at done
    · cases done
    · split at done <;> cases done

theorem start_done_seated (answers : Answers) (before : Seated context object (some .start) log seat)
    (done : object.start.2 = .done) :
    Seated context (callObject answers context object .start).1 (callObject answers context object .start).2.1
      (log ++ (callObject answers context object .start).2.2) .started := by
  have sits := start_starts object (.inr done)
  obtain ⟨kind,rfl⟩ := holder_of before (done_callerless done)
  refine ⟨sits,.inr (by simp [callObject,done]),idle_started,(start_caller _).trans before.caller,fun _ => kind,?_⟩
  exact stoppedFirst_old before.first (by simp [callObject,done])

theorem start_refused_seated (answers : Answers) (before : Seated context object (some .start) log seat)
    (starts : ¬object.start.2.Starts) :
    Seated context (callObject answers context object .start).1 (callObject answers context object .start).2.1
      (log ++ (callObject answers context object .start).2.2) seat := by
  have refused := start_refused before starts
  have late : seat ≠ .free := by
    rcases refused with rfl | rfl <;> decide
  have quiet : ∀ answer, answer.Starts → .start context answer ∉ (callObject answers context object .start).2.2 := by
    rintro answer granted member
    cases List.mem_singleton.mp member
    exact starts granted
  have records : Recorded (log ++ (callObject answers context object .start).2.2) context seat := by
    rcases refused with rfl | rfl
    · exact started_still before.records
    · obtain ⟨unstarted,stopped,paid⟩ := before.records
      refine ⟨?_,List.mem_append_left _ stopped,?_⟩
      · rw [started_append]
        rintro (begun | begun)
        · exact unstarted begun
        · exact begun.elim (quiet _ (.inl rfl)) (quiet _ (.inr rfl))
      · rw [results_append,paid]
        exact List.append_nil _
  refine ⟨start_again object seat before.sits late,records,?_,(start_caller object).trans before.caller,?_,?_⟩
  · simp only [callObject]
    rcases refused with rfl | rfl <;> split <;> simp_all [SerialCall.seats,StartAnswer.Starts]
  · intro done
    exact before.holder ((List.mem_append.mp done).resolve_right (quiet _ (.inr rfl)))
  · exact stoppedFirst_old before.first (quiet _ (.inl rfl))

theorem start_seated (answers : Answers) (before : Seated context object (some .start) log seat) :
    ∃ moved, Seated context (callObject answers context object .start).1
      (callObject answers context object .start).2.1
      (log ++ (callObject answers context object .start).2.2) moved := by
  by_cases starts : object.start.2.Starts
  · rcases starts with granted | done
    · exact ⟨.started,start_granted_seated answers before granted⟩
    · exact ⟨.started,start_done_seated answers before done⟩
  · exact ⟨seat,start_refused_seated answers before starts⟩

theorem call_seated (answers : Answers) (call : SerialCall) (before : Seated context object (some call) log seat) :
    ∃ moved, Seated context (callObject answers context object call).1 (callObject answers context object call).2.1
      (log ++ (callObject answers context object call).2.2) moved := by
  cases call with
  | stop => exact stop_seated answers before
  | reportStop => exact reportStop_seated answers before
  | start => exact start_seated answers before
  | onStart => exact onStart_seated answers before
  | startFailed => exact startFailed_seated answers before

theorem callback_seated (answers : Answers) (entry : WidgetContext.Call) (before : Seated context object call log seat) :
    Seated context (object.callback answers entry).1 call
      (log ++ (object.callback answers entry).2.map (.onResult context)) seat := by
  by_cases begun : seat = .started
  · subst begun
    exact before.own (callback_caller answers entry object) (by simp) (callback_started answers entry object before.sits)
      (started_still before.records) before.meets
  · rw [callback_idle answers entry object seat before.sits begun]
    simpa using before

end Calls
end UserAuth
