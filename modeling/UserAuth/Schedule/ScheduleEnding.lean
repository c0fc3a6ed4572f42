import Mathlib.Data.List.TakeWhile
import UserAuth.Schedule.ScheduleSafety

namespace UserAuth
namespace ScheduleRun
open ScheduleNode
variable {s : ScheduleRun} {events : List RunEvent} {stepped : ScheduleRun × List RunEvent} {armed : Bool}

def RunEvent.runs : RunEvent → Bool
  | .handled _ _ (some .S_END) => false
  | _ => true

-- What happened before S_END was entered.
def untilEnd (events : List RunEvent) : List RunEvent := events.takeWhile RunEvent.runs

def Reported (events : List RunEvent) : Prop :=
  ∃ found, .handled found .E_SCHEDULE_RESULT_RECEIVED (some .S_END) ∈ events

def VerifierBegun (events : List RunEvent) : Prop := .effect (.beginVerifier ResultCode.SUCCESS) ∈ events

def CollectorBegun (events : List RunEvent) : Prop := .effect (.beginCollector ResultCode.SUCCESS) ∈ events

def VerifierEnded (events : List RunEvent) : Prop := ∃ result, .effect (.endVerifier result) ∈ untilEnd events

def CollectorEnded (events : List RunEvent) : Prop := ∃ result, .effect (.endCollector result) ∈ untilEnd events

theorem Reported.later (reported : Reported events) (more : List RunEvent) : Reported (events ++ more) := by
  obtain ⟨found,handled⟩ := reported
  exact ⟨found,List.mem_append_left _ handled⟩

theorem untilEnd_later (present : event ∈ untilEnd events) (more : List RunEvent) :
    event ∈ untilEnd (events ++ more) := by
  unfold untilEnd at present ⊢
  rw [List.takeWhile_append]
  split
  · exact List.mem_append_left _ ((List.takeWhile_prefix _).subset present)
  · exact present

-- What was settled with an executor stays so.
theorem settled_later {endExecutor : ResultCode → Effect}
    (settled : Reported events ∨ ∃ result, .effect (endExecutor result) ∈ untilEnd events) (more : List RunEvent) :
    Reported (events ++ more) ∨ ∃ result, .effect (endExecutor result) ∈ untilEnd (events ++ more) := by
  rcases settled with reported | ⟨result,told⟩
  · exact .inl (reported.later more)
  · exact .inr ⟨result,untilEnd_later told more⟩

-- The collector's begin was answered with success, or is about to be handled.
def collectorBegun (s : ScheduleRun) : Bool :=
  s.node.currentState == .S_AUTH_PROCESSING ||
    s.node.currentState == .S_COLLECT_STARING && s.node.pendingEvents.contains .E_COLLECT_STARTED_SUCCESS

def stopsCollector (s : ScheduleRun) : Bool :=
  s.node.pendingEvents.head?.any fun event => (transitionMap s.node.currentState event).any (·.1 == .S_COLLECT_STOPPING)

-- The begun collector is not to be stopped once the verifier's node is gone.
def Spares (s : ScheduleRun) : Input → Prop
  | .turn _ => (s.stopsCollector && s.collectorBegun && s.collector == some true && !s.verifierAlive) = false
  | _ => True

-- What is owed to the executors that have begun.
structure Owing (s : ScheduleRun) (events : List RunEvent) : Prop where
  runs : s.node.currentState ≠ .S_END → ∀ event ∈ events, event.runs = true
  refused : .E_VERIFY_STARTED_FAILED ∈ s.node.pendingEvents → s.node.currentState ≠ .S_INIT ∧ ¬VerifierBegun events
  started : CollectorBegun events → s.node.currentState = .S_COLLECT_STARING →
    .E_COLLECT_STARTED_SUCCESS ∈ s.node.pendingEvents
  verifier : s.verifierAlive = true → VerifierBegun events → rank .S_VERIFY_STOPPING ≤ rank s.node.currentState →
    Reported events ∨ VerifierEnded events
  collector : s.collector = some true → CollectorBegun events → rank .S_COLLECT_STOPPING ≤ rank s.node.currentState →
    Reported events ∨ CollectorEnded events

theorem initial_owing (expires verifierAlive : Bool) (collector : Option Bool) :
    (initial expires verifierAlive collector).Owing [] where
  runs _ _ happened := absurd happened List.not_mem_nil
  refused := by simp [initial,ScheduleNodeImpl.create]
  started begun := absurd begun List.not_mem_nil
  verifier _ begun := absurd begun List.not_mem_nil
  collector _ begun := absurd begun List.not_mem_nil

theorem Orderly.verifierBegun (orderly : s.Orderly events) (begun : VerifierBegun events) :
    rank .S_VERIFY_STARING ≤ rank s.node.currentState :=
  orderly.reached .beginVerifier (List.mem_filterMap.mpr ⟨_,begun,rfl⟩)

theorem Orderly.collectorBegun (orderly : s.Orderly events) (begun : CollectorBegun events) :
    rank .S_COLLECT_STARING ≤ rank s.node.currentState :=
  orderly.reached .beginCollector (List.mem_filterMap.mpr ⟨_,begun,rfl⟩)

theorem Owing.asked (owing : s.Owing events) (asked : s.Asked posted stepped) :
    stepped.1.Owing (events ++ stepped.2) := by
  have verifierBegun : VerifierBegun (events ++ stepped.2) → VerifierBegun events := by
    simp [VerifierBegun,asked.events]
  have collectorBegun : CollectorBegun (events ++ stepped.2) → CollectorBegun events := by
    simp [CollectorBegun,asked.events]
  constructor
  · rw [asked.currentState,asked.events]
    intro running event member
    rcases List.mem_append.mp member with before | now
    · exact owing.runs running event before
    · obtain ⟨other,-,rfl⟩ := List.mem_map.mp now
      rfl
  · rw [asked.currentState,asked.pendingEvents]
    intro member
    rcases List.mem_append.mp member with queued | now
    · obtain ⟨begun,refused⟩ := owing.refused queued
      exact ⟨begun,fun succeeded => refused (verifierBegun succeeded)⟩
    · rcases asked.outer _ now with other | other | other | ⟨other,-⟩ <;> cases other
  · rw [asked.currentState,asked.pendingEvents]
    intro begun starting
    exact List.mem_append_left _ (owing.started (collectorBegun begun) starting)
  · rw [asked.currentState]
    intro alive begun stopping
    exact settled_later (owing.verifier (asked.verifier alive) (verifierBegun begun) stopping) _
  · rw [asked.currentState]
    intro alive begun stopping
    have alive : s.collector = some true := by
      rcases asked.collector with same | gone
      · exact same.symm.trans alive
      · rw [gone] at alive
        cases collector : s.collector <;> simp [collector] at alive
    exact settled_later (owing.collector alive (collectorBegun begun) stopping) _

theorem Owing.dropped (owing : s.Owing events) (pending : s.node.pendingEvents = event :: rest)
    (undeclared : transitionMap s.node.currentState event = none) :
    Owing {s with node.pendingEvents:=rest,armed} (events ++ [.handled s.node.currentState event none]) := by
  have verifierBegun : VerifierBegun (events ++ [.handled s.node.currentState event none]) → VerifierBegun events := by
    simp [VerifierBegun]
  have collectorBegun : CollectorBegun (events ++ [.handled s.node.currentState event none]) → CollectorBegun events := by
    simp [CollectorBegun]
  constructor
  · intro running other member
    rcases List.mem_append.mp member with before | now
    · exact owing.runs running other before
    · rw [List.mem_singleton.mp now]
      rfl
  · intro member
    obtain ⟨begun,refused⟩ := owing.refused (queued_behind pending _ member)
    exact ⟨begun,fun succeeded => refused (verifierBegun succeeded)⟩
  · intro begun starting
    have queued := owing.started (collectorBegun begun) starting
    rw [pending] at queued
    rcases List.mem_cons.mp queued with rfl | member
    · rw [show s.node.currentState = .S_COLLECT_STARING from starting] at undeclared
      cases undeclared
    · exact member
  · intro alive begun stopping
    exact settled_later (owing.verifier alive (verifierBegun begun) stopping) _
  · intro alive begun stopping
    exact settled_later (owing.collector alive (collectorBegun begun) stopping) _

theorem Owing.idle (owing : s.Owing events) : Owing {s with armed} events :=
  ⟨owing.runs,owing.refused,owing.started,owing.verifier,owing.collector⟩

theorem Entry.begins_verifier (entry : Entry s next posted effects)
    (begun : .beginVerifier ResultCode.SUCCESS ∈ effects) :
    next = .S_VERIFY_STARING ∧ posted = [.E_VERIFY_STARTED_SUCCESS] := by
  cases entry with
  | verifierBegun => exact ⟨rfl,rfl⟩
  | verifierRefused result refused =>
    cases List.mem_singleton.mp begun
    exact absurd rfl refused
  | processing effects told => rcases told with rfl | rfl <;> simp at begun
  | _ => simp at begun

theorem Entry.begins_collector (entry : Entry s next posted effects)
    (begun : .beginCollector ResultCode.SUCCESS ∈ effects) :
    next = .S_COLLECT_STARING ∧ posted = [.E_COLLECT_STARTED_SUCCESS] := by
  cases entry with
  | collectorBegun => exact ⟨rfl,rfl⟩
  | collectorRefused result refused =>
    cases List.mem_singleton.mp begun
    exact absurd rfl refused
  | processing effects told => rcases told with rfl | rfl <;> simp at begun
  | _ => simp at begun

theorem Entry.refuses_verifier (entry : Entry s next posted effects) (refused : .E_VERIFY_STARTED_FAILED ∈ posted) :
    next = .S_VERIFY_STARING := by
  cases entry with
  | verifierMissing | verifierRefused => rfl
  | collectorEnded result event answered => rcases answered with rfl | rfl <;> simp at refused
  | verifierEnded result event answered => rcases answered with rfl | rfl <;> simp at refused
  | _ => simp at refused

-- The events of a turn that moves.
def arriving (found : State) (event : Event) (next : State) (posted : List Event) (effects : List Effect) :
    List RunEvent :=
  .handled found event (some next) :: (posted.map .posted ++ effects.map .effect)

theorem arriving_verifierBegun (begun : VerifierBegun (events ++ arriving found event next posted effects)) :
    VerifierBegun events ∨ .beginVerifier ResultCode.SUCCESS ∈ effects := by
  simpa [VerifierBegun,arriving] using begun

theorem arriving_collectorBegun (begun : CollectorBegun (events ++ arriving found event next posted effects)) :
    CollectorBegun events ∨ .beginCollector ResultCode.SUCCESS ∈ effects := by
  simpa [CollectorBegun,arriving] using begun

theorem arriving_runs (running : next ≠ .S_END) :
    ∀ one ∈ arriving found event next posted effects, one.runs = true := by
  intro one member
  rcases List.mem_cons.mp member with rfl | member
  · cases next <;> first | rfl | exact absurd rfl running
  · rcases List.mem_append.mp member with posted | told
    · obtain ⟨other,-,rfl⟩ := List.mem_map.mp posted
      rfl
    · obtain ⟨effect,-,rfl⟩ := List.mem_map.mp told
      rfl

theorem arriving_reported (found : State) (posted : List Event) (effects : List Effect) :
    Reported (events ++ arriving found .E_SCHEDULE_RESULT_RECEIVED .S_END posted effects) :=
  ⟨found,List.mem_append_right _ List.mem_cons_self⟩

theorem Owing.arriving_runs (owing : s.Owing events) (posted : List Event) (effects : List Effect)
    (moves : Moves s.node.currentState event next) (running : next ≠ .S_END) :
    ∀ one ∈ events ++ arriving s.node.currentState event next posted effects, one.runs = true := by
  intro one member
  rcases List.mem_append.mp member with before | now
  · exact owing.runs moves.going one before
  · exact ScheduleRun.arriving_runs running one now

theorem arriving_told (runs : ∀ one ∈ events ++ arriving found event next posted effects, one.runs = true)
    (told : effect ∈ effects) : .effect effect ∈ untilEnd (events ++ arriving found event next posted effects) := by
  rw [untilEnd,List.takeWhile_eq_self_iff.mpr runs]
  simp [arriving,told]

-- Entering S_VERIFY_STOPPING ends the verifier while its node is there.
theorem Owing.stops_verifier (owing : s.Owing events) (pending : s.node.pendingEvents = event :: rest)
    (moves : Moves s.node.currentState event next) (entry : Entry s next posted effects)
    (alive : s.verifierAlive = true) (begun : VerifierBegun events) (stopping : rank .S_VERIFY_STOPPING ≤ rank next) :
    Reported (events ++ arriving s.node.currentState event next posted effects) ∨
      VerifierEnded (events ++ arriving s.node.currentState event next posted effects) := by
  by_cases already : rank .S_VERIFY_STOPPING ≤ rank s.node.currentState
  · exact settled_later (owing.verifier alive begun already) _
  · by_cases last : next = .S_END
    · subst last
      generalize state : s.node.currentState = found at moves already ⊢
      cases moves with
      | verifyFailed =>
        have refused := owing.refused (by simp [pending])
        exact absurd begun refused.2
      | verifierStopped => exact absurd (Nat.le_refl _) already
      | result => exact .inl (arriving_reported found posted effects)
    · have runs := owing.arriving_runs posted effects moves last
      cases entry with
      | verifierLost lost => exact absurd alive (by simp [lost])
      | verifierEnded result event answered => exact .inr ⟨result,arriving_told runs List.mem_cons_self⟩
      | told | untold => exact absurd rfl last
      | _ => exact absurd stopping (by decide)

-- Entering S_COLLECT_STOPPING ends a distinct collector while both nodes are there.
theorem Owing.stops_collector (owing : s.Owing events) (orderly : s.Orderly events)
    (moves : Moves s.node.currentState event next) (entry : Entry s next posted effects)
    (spared : next = .S_COLLECT_STOPPING → s.collectorBegun = true → s.verifierAlive = true)
    (alive : s.collector = some true) (begun : CollectorBegun events)
    (stopping : rank .S_COLLECT_STOPPING ≤ rank next) :
    Reported (events ++ arriving s.node.currentState event next posted effects) ∨
      CollectorEnded (events ++ arriving s.node.currentState event next posted effects) := by
  by_cases already : rank .S_COLLECT_STOPPING ≤ rank s.node.currentState
  · exact settled_later (owing.collector alive begun already) _
  · have starting := orderly.collectorBegun begun
    by_cases last : next = .S_COLLECT_STOPPING
    · subst last
      have runs := owing.arriving_runs posted effects moves (by decide)
      have succeeded : s.collectorBegun = true := by
        generalize state : s.node.currentState = found at moves already starting
        cases moves with
        | stopsCollecting => simpa [collectorBegun,state] using owing.started begun state
        | stopsProcessing => simp [collectorBegun,state]
      have verifier := spared rfl succeeded
      cases entry with
      | endMissing missing => simp [verifier,collectorAlive,alive] at missing
      | endShared shared => simp [shared] at alive
      | collectorEnded result event answered => exact .inr ⟨result,arriving_told runs List.mem_cons_self⟩
    · generalize state : s.node.currentState = found at moves already starting ⊢
      cases moves with
      | result => exact .inl (arriving_reported found posted effects)
      | stopsVerifying | verifyFailed => exact absurd starting (by decide)
      | collectorStopped | verifierStopped => exact absurd (by decide) already
      | stopsCollecting | stopsProcessing => exact absurd rfl last
      | _ => exact absurd stopping (by decide)

theorem Moves.begins (moves : Moves state event .S_VERIFY_STARING) : state = .S_INIT := by
  cases moves
  rfl

-- A refusal is handled in the state that it was posted on entering, so the verifier never began.
theorem Owing.moved_refused (owing : s.Owing events) (orderly : s.Orderly events)
    (pending : s.node.pendingEvents = event :: rest) (moves : Moves s.node.currentState event next)
    (entry : Entry s next posted effects) (refused : .E_VERIFY_STARTED_FAILED ∈ rest ++ posted) :
    ¬VerifierBegun (events ++ arriving s.node.currentState event next posted effects) := by
  intro begun
  rcases List.mem_append.mp refused with before | now
  · obtain ⟨later,unbegun⟩ := owing.refused (queued_behind pending _ before)
    rcases arriving_verifierBegun begun with earlier | told
    · exact unbegun earlier
    · obtain ⟨rfl,-⟩ := entry.begins_verifier told
      exact later (Moves.begins moves)
  · have starting := entry.refuses_verifier now
    subst starting
    rcases arriving_verifierBegun begun with earlier | told
    · have begins := orderly.verifierBegun earlier
      rw [Moves.begins moves] at begins
      exact absurd begins (by decide)
    · obtain ⟨-,rfl⟩ := entry.begins_verifier told
      simp at now

-- The collector begins on entering S_COLLECT_STARING only, which posts its success.
theorem Orderly.moved_started (orderly : s.Orderly events) (moves : Moves s.node.currentState event .S_COLLECT_STARING)
    (entry : Entry s .S_COLLECT_STARING posted effects)
    (begun : CollectorBegun (events ++ arriving s.node.currentState event .S_COLLECT_STARING posted effects)) :
    .E_COLLECT_STARTED_SUCCESS ∈ posted := by
  rcases arriving_collectorBegun begun with earlier | told
  · exact absurd (orderly.collectorBegun earlier) (Nat.not_le_of_lt moves.advances)
  · obtain ⟨-,rfl⟩ := entry.begins_collector told
    exact List.mem_cons_self

theorem Owing.moved (owing : s.Owing events) (orderly : s.Orderly events)
    (pending : s.node.pendingEvents = event :: rest) (moves : Moves s.node.currentState event next)
    (entry : Entry s next posted effects)
    (spared : next = .S_COLLECT_STOPPING → s.collectorBegun = true → s.collector = some true → s.verifierAlive = true) :
    Owing {s with node:=⟨next,rest ++ posted,owner⟩,armed}
      (events ++ arriving s.node.currentState event next posted effects) := by
  constructor
  · exact fun running => owing.arriving_runs posted effects moves running
  · exact fun refused => ⟨moves.running,owing.moved_refused orderly pending moves entry refused⟩
  · intro begun starting
    change next = .S_COLLECT_STARING at starting
    subst starting
    exact List.mem_append_right _ (orderly.moved_started moves entry begun)
  · intro alive begun stopping
    rcases arriving_verifierBegun begun with earlier | told
    · exact owing.stops_verifier pending moves entry alive earlier stopping
    · obtain ⟨rfl,-⟩ := entry.begins_verifier told
      exact absurd stopping (show ¬rank .S_VERIFY_STOPPING ≤ rank .S_VERIFY_STARING by decide)
  · intro alive begun stopping
    rcases arriving_collectorBegun begun with earlier | told
    · have verifier := fun last succeeded => spared last succeeded alive
      exact owing.stops_collector orderly moves entry verifier alive earlier stopping
    · obtain ⟨rfl,-⟩ := entry.begins_collector told
      exact absurd stopping (show ¬rank .S_COLLECT_STOPPING ≤ rank .S_COLLECT_STARING by decide)

theorem Moves.declared (moves : Moves state event next) : transitionMap state event = some (next,entryAction next) := by
  cases moves with
  | stopsProcessing event asked | stopsVerifying event asked => rcases asked with rfl | rfl <;> rfl
  | collectorStopped event answered | verifierStopped event answered => rcases answered with rfl | rfl | rfl <;> rfl
  | result state going => cases state <;> first | rfl | exact absurd rfl going.1 | exact absurd rfl going.2
  | _ => rfl

theorem Spares.verifier (spares : s.Spares (.turn answers)) (pending : s.node.pendingEvents = event :: rest)
    (moves : Moves s.node.currentState event .S_COLLECT_STOPPING) (begun : s.collectorBegun = true)
    (alive : s.collector = some true) : s.verifierAlive = true := by
  have stops : s.stopsCollector = true := by simp [stopsCollector,pending,Moves.declared moves]
  simpa [Spares,stops,begun,alive] using spares

theorem step_owing (s : ScheduleRun) (events : List RunEvent) (i : Input) (owing : s.Orderly events ∧ s.Owing events)
    (spares : s.Spares i) :
    (s.step i).1.Orderly (events ++ (s.step i).2) ∧ (s.step i).1.Owing (events ++ (s.step i).2) := by
  refine ⟨step_orderly s events i owing.1,?_⟩
  cases s.step_stepped i with
  | asked posted asked => exact owing.2.asked asked
  | turned answers turn turned =>
    subst turn
    generalize s.step (.turn answers) = stepped at turned ⊢
    cases turned with
    | idle armed kept empty =>
      rw [List.append_nil]
      exact owing.2.idle
    | dropped armed kept event rest pending undeclared => exact owing.2.dropped pending undeclared
    | moved armed kept event rest posted next effects owner pending moves entry callback =>
      refine owing.2.moved owing.1 pending moves entry ?_
      intro last begun alive
      exact spares.verifier pending (last ▸ moves) begun alive

theorem begun_executors_ended (expires verifierAlive : Bool) (collector : Option Bool) (inputs : List Input)
    (met : machine.Meets Spares (initial expires verifierAlive collector) inputs) :
    let reached := machine.after (initial expires verifierAlive collector) inputs
    let events := machine.trace (initial expires verifierAlive collector) inputs
    reached.node.currentState = .S_END →
      (reached.verifierAlive = true → VerifierBegun events → Reported events ∨ VerifierEnded events) ∧
        (reached.collector = some true → CollectorBegun events → Reported events ∨ CollectorEnded events) := by
  intro reached events ended
  have owing : reached.Orderly events ∧ reached.Owing events :=
    Mealy.guarded_history (m:=machine) (h:=[]) (P:=fun s events => s.Orderly events ∧ s.Owing events) (c:=Spares)
      step_owing ⟨initial_orderly expires verifierAlive collector,initial_owing expires verifierAlive collector⟩ met
  constructor
  · intro alive begun
    exact owing.2.verifier alive begun (ended ▸ by decide)
  · intro alive begun
    exact owing.2.collector alive begun (ended ▸ by decide)

theorem stopped_executors_ended :
    let start := initial false true (some true)
    let inputs := [.startSchedule,.turn .succeeding,.turn .succeeding,.stopSchedule ResultCode.CANCELED,
      .turn .succeeding,.turn .succeeding,.turn .succeeding,.turn .succeeding]
    CollectorBegun (machine.trace start inputs) ∧
      (Reported (machine.trace start inputs) ∨ CollectorEnded (machine.trace start inputs)) := by
  intro start inputs
  have met : machine.Meets Spares start inputs := ⟨trivial,rfl,rfl,trivial,rfl,rfl,rfl,rfl,trivial⟩
  have begun : CollectorBegun (machine.trace start inputs) := List.mem_of_getElem? (i:=6) rfl
  exact ⟨begun,(begun_executors_ended false true (some true) inputs met rfl).2 rfl begun⟩

-- The verifier's node is lost while both run, and the schedule is stopped.
def abandoned : ScheduleRun :=
  ⟨⟨.S_AUTH_PROCESSING,[.E_STOP_AUTH],⟨false,true,false,some ResultCode.CANCELED,ResultCode.GENERAL_ERROR,none⟩⟩,
    false,some true,1,false⟩

def abandoning : List Input := [.startSchedule,.turn .succeeding,.turn .succeeding,.turn .succeeding,.verifierGone,
  .stopSchedule ResultCode.CANCELED]

theorem abandoned_reached : machine.after (initial false true (some true)) abandoning = abandoned := rfl

theorem lone_collector_runs_on :
    let start := initial false true (some true)
    let inputs := abandoning ++ [.turn .succeeding,.turn .succeeding,.turn .succeeding]
    let reached := machine.after start inputs
    let events := machine.trace start inputs
    reached.node.currentState = .S_END ∧ reached.collector = some true ∧ CollectorBegun events ∧
      ¬Reported events ∧ ¬CollectorEnded events := by
  intro start inputs reached events
  have ended : reached = machine.after abandoned [.turn .succeeding,.turn .succeeding,.turn .succeeding] := by
    rw [←abandoned_reached]
    exact Mealy.after_append _ _ _ _
  have happened : events = machine.trace start abandoning ++
      machine.trace abandoned [.turn .succeeding,.turn .succeeding,.turn .succeeding] := by
    rw [←abandoned_reached]
    exact Mealy.trace_append _ _ _ _
  have before : machine.trace start abandoning = [.posted .E_START_AUTH,
      .handled .S_INIT .E_START_AUTH (some .S_VERIFY_STARING),.posted .E_VERIFY_STARTED_SUCCESS,
      .effect (.beginVerifier ResultCode.SUCCESS),
      .handled .S_VERIFY_STARING .E_VERIFY_STARTED_SUCCESS (some .S_COLLECT_STARING),
      .posted .E_COLLECT_STARTED_SUCCESS,.effect (.beginCollector ResultCode.SUCCESS),.effect .notifyCollectorReady,
      .handled .S_COLLECT_STARING .E_COLLECT_STARTED_SUCCESS (some .S_AUTH_PROCESSING),.effect .onScheduleStarted,
      .posted .E_STOP_AUTH] := rfl
  have after : machine.trace abandoned [.turn .succeeding,.turn .succeeding,.turn .succeeding] =
      [.handled .S_AUTH_PROCESSING .E_STOP_AUTH (some .S_COLLECT_STOPPING),.posted .E_COLLECT_STOPPED_FAILED,
        .handled .S_COLLECT_STOPPING .E_COLLECT_STOPPED_FAILED (some .S_VERIFY_STOPPING),.posted .E_VERIFY_STOPPED_FAILED,
        .handled .S_VERIFY_STOPPING .E_VERIFY_STOPPED_FAILED (some .S_END),
        .effect (.onScheduleStoped ResultCode.GENERAL_ERROR none)] := rfl
  rw [ended,happened,before,after]
  refine ⟨rfl,rfl,?_,?_,?_⟩
  · simp [CollectorBegun]
  · simp [Reported]
  · rintro ⟨result,told⟩
    have present := (List.takeWhile_prefix _).subset told
    simp at present

end ScheduleRun
end UserAuth
