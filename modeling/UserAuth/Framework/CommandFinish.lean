import UserAuth.Framework.AsyncCommand

namespace UserAuth
namespace AsyncCommand
open Attributes

-- A payload within the limits can always be set.
theorem finalResult_some (result : ResultCode) (short : extraInfo.length ≤ MAX_ATTR_LENGTH) :
    (finalResult true result extraInfo).isSome = true := by
  have array := array_encoded ATTR_RESULT extraInfo
  rw [decide_eq_true short] at array
  obtain ⟨data,encoded⟩ := Option.isSome_iff_exists.mp array
  have room : Settable empty [setUint32Value ATTR_RESULT_CODE result.toUInt32,setUint8ArrayValue ATTR_RESULT extraInfo] :=
    settable_empty (by simp [MAX_ATTR_COUNT]) (by simp [setUint32Value,setUint8ArrayValue,ATTR_RESULT_CODE,ATTR_RESULT])
  obtain ⟨code,left⟩ := settable_next room rfl
  obtain ⟨payload,-⟩ := settable_next left encoded
  rw [finalResult,if_neg (by decide),code,Option.bind_some,payload]
  exact rfl

end AsyncCommand

namespace CommandExecutor
open AsyncCommand

-- A StartProcess call that is under way, or has succeeded.
def InProcess (phase : StartPhase) : Prop := phase ≠ .idle ∧ ∀ ret ≠ ResultCode.SUCCESS, phase ≠ .returned ret

def early : StartPhase → Bool
  | .idle | .added | .fetched => true
  | _ => false

-- The command has the driver's handle, or has used it.
def Held (state : CommandState) : Prop :=
  (state.phase = .fetched ∨ state.reached = true) ∧ ∀ ret ≠ ResultCode.SUCCESS, state.phase ≠ .returned ret

def Over (state : CommandState) : Prop := state.isFinished = true ∧ state.ending = none

def Waits (disconnect : DisconnectPhase) (command : Nat) : Prop :=
  match disconnect with
  | .walking rest current => command ∈ rest ∨ current = some command
  | _ => False

def Copied : DisconnectPhase → Prop
  | .walking .. | .done => True
  | _ => False

-- What holds of one command, of its place in the running set and of its events.
structure Sound (fit : Nat → Prop) (command : AsyncCommand) (listed : Prop) (released : Bool) (h : List CommandEvent)
    (c : Nat) (state : CommandState) : Prop where
  unfinished : state.isFinished = false →
    h.countP (isFinish c) = 0 ∧ state.messengerReset = false ∧ state.ending = none
  finished : state.isFinished = true →
    h.countP (isFinish c) ≤ 1 ∧ (fit c → command.executorMessenger = true → h.countP (isFinish c) = 1)
  answered : state.answered = true → Over state
  idle : state.phase = .idle → state.isFinished = false ∧ ¬listed
  running : InProcess state.phase → state.isFinished = false ∨ state.ending ≠ none → released = true ∨ listed
  removed : Over state → ¬listed
  failed : ∀ ret, state.phase = .reporting ret ∨ state.phase = .reported ret ∨ state.phase = .failing ret →
    ret ≠ ResultCode.SUCCESS
  reached : state.reached = true → early state.phase = false
  sent : state.phase = .called ∨ state.phase = .returned ResultCode.SUCCESS → state.reached = true

structure Kept (fit : Nat → Prop) (commands : Nat → AsyncCommand) (s : CommandExecutor) (h : List CommandEvent) : Prop where
  sound : ∀ c, Sound fit (commands c) (c ∈ s.command2Respond) s.released h c (s.commands c)
  hdi : s.disconnect ≠ .before → s.executorHdi = false
  alive : s.disconnect ≠ .before → s.disconnect ≠ .done → s.released = false
  walked : Copied s.disconnect → ∀ c, Held (s.commands c) → Over (s.commands c) ∨ Waits s.disconnect c
  started : ∀ c, Waits s.disconnect c → (s.commands c).phase ≠ .idle
  bare : s.released = true → s.command2Respond = ∅
  current : ∀ c, (s.commands c).ending = some .disconnect ↔ ∃ rest, s.disconnect = .walking rest (some c)

section Steps
variable {fit : Nat → Prop} {commands : Nat → AsyncCommand} {s : CommandExecutor} {h : List CommandEvent} {c : Nat}
  {command : AsyncCommand} {listed : Prop} {released : Bool} {state : CommandState} {more : List CommandEvent}

-- Other events leave what is known of the command.
theorem Sound.tell (sound : Sound fit command listed released h c state) (silent : more.countP (isFinish c) = 0) :
    Sound fit command listed released (h ++ more) c state := by
  have count : (h ++ more).countP (isFinish c) = h.countP (isFinish c) := by
    rw [List.countP_append,silent,Nat.add_zero]
  refine {sound with unfinished:=?_,finished:=?_}
  · rw [count]
    exact sound.unfinished
  · rw [count]
    exact sound.finished

-- The disconnect goes on with one command, and for the others it stays as it is.
structure Follows (last next : DisconnectPhase) (c : Nat) : Prop where
  begun : next ≠ .before → last ≠ .before
  going : next ≠ .done → last ≠ .done
  copied : Copied next → Copied last
  waits : ∀ d ≠ c, Waits next d ↔ Waits last d
  current : ∀ d ≠ c, (∃ rest, next = .walking rest (some d)) ↔ ∃ rest, last = .walking rest (some d)

theorem Follows.refl (disconnect : DisconnectPhase) (c : Nat) : Follows disconnect disconnect c :=
  ⟨id,id,id,fun _ _ => Iff.rfl,fun _ _ => Iff.rfl⟩

-- A step of one command, which may leave or enter the running set and tell of itself.
theorem Kept.move (kept : Kept fit commands s h) (c : Nat) (state : CommandState) (set : Finset Nat)
    (disconnect : DisconnectPhase) (starting : Nat) (more : List CommandEvent)
    (others : ∀ d ≠ c, d ∈ set ↔ d ∈ s.command2Respond) (bare : s.released = true → set = ∅)
    (elsewhere : ∀ d ≠ c, more.countP (isFinish d) = 0)
    (sound : Sound fit (commands c) (c ∈ set) s.released (h ++ more) c state) (started : state.phase ≠ .idle)
    (follows : Follows s.disconnect disconnect c)
    (held : Copied disconnect → Held state → Over state ∨ Waits disconnect c)
    (ending : state.ending = some .disconnect ↔ ∃ rest, disconnect = .walking rest (some c)) :
    Kept fit commands {s with
      commands:=Function.update s.commands c state,command2Respond:=set,disconnect,starting} (h ++ more) := by
  refine ⟨fun d => ?_,fun begun => kept.hdi (follows.begun begun),
    fun begun going => kept.alive (follows.begun begun) (follows.going going),fun copied d => ?_,fun d => ?_,bare,
    fun d => ?_⟩
  · dsimp only
    by_cases here : d = c
    · subst here
      rw [Function.update_self]
      exact sound
    · rw [Function.update_of_ne here,propext (others d here)]
      exact (kept.sound d).tell (elsewhere d here)
  · dsimp only
    by_cases here : d = c
    · subst here
      rw [Function.update_self]
      exact held copied
    · rw [Function.update_of_ne here,propext (follows.waits d here)]
      exact kept.walked (follows.copied copied) d
  · dsimp only
    by_cases here : d = c
    · subst here
      rw [Function.update_self]
      exact fun _ => started
    · rw [Function.update_of_ne here,propext (follows.waits d here)]
      exact kept.started d
  · dsimp only
    by_cases here : d = c
    · subst here
      rw [Function.update_self]
      exact ending
    · rw [Function.update_of_ne here,propext (follows.current d here)]
      exact kept.current d

theorem Kept.onCommand (kept : Kept fit commands s h) (c : Nat) (state : CommandState) (set : Finset Nat)
    (starting : Nat) (more : List CommandEvent) (others : ∀ d ≠ c, d ∈ set ↔ d ∈ s.command2Respond)
    (bare : s.released = true → set = ∅) (elsewhere : ∀ d ≠ c, more.countP (isFinish d) = 0)
    (sound : Sound fit (commands c) (c ∈ set) s.released (h ++ more) c state) (started : state.phase ≠ .idle)
    (held : Copied s.disconnect → Held state → Over state ∨ Waits s.disconnect c)
    (ending : state.ending = some .disconnect ↔ ∃ rest, s.disconnect = .walking rest (some c)) :
    Kept fit commands {s with commands:=Function.update s.commands c state,command2Respond:=set,starting} (h ++ more) :=
  kept.move c state set s.disconnect starting more others bare elsewhere sound started (.refl _ c) held ending

-- Where only the phase changes.
theorem Sound.inPhase (sound : Sound fit command listed released h c state) (phase : StartPhase) (started : phase ≠ .idle)
    (process : InProcess phase → InProcess state.phase)
    (failed : ∀ ret, phase = .reporting ret ∨ phase = .reported ret ∨ phase = .failing ret → ret ≠ ResultCode.SUCCESS)
    (reached : state.reached = true → early phase = false)
    (sent : phase = .called ∨ phase = .returned ResultCode.SUCCESS → state.reached = true) :
    Sound fit command listed released h c {state with phase} :=
  ⟨sound.unfinished,sound.finished,sound.answered,fun idle => absurd idle started,fun now => sound.running (process now),
    sound.removed,failed,reached,sent⟩

-- What OnResultInner tells: at most one Finish, and one where there is a messenger
-- and the payload can be set.
theorem onResultInner_cases (commands : Nat → AsyncCommand) (reset : Bool) (c : Nat) (result : ResultCode)
    (extraInfo : Bytes) (allocated : Bool) :
    (∀ d, (onResultInner commands reset c result extraInfo allocated).2.countP (isFinish d) = 0) ∨
      ∃ scheduleId final, (onResultInner commands reset c result extraInfo allocated).2 =
        [.finish c scheduleId result final] := by
  unfold onResultInner
  cases commands c with
  | custom attributes => exact .inl fun _ => rfl
  | schedule type scheduleId attributes executorMessenger =>
    dsimp only
    cases finalResult allocated result extraInfo with
    | none => exact .inl fun _ => rfl
    | some final =>
      dsimp only
      split
      · exact .inl fun _ => rfl
      · exact .inr ⟨scheduleId,final,rfl⟩

theorem onResultInner_once (commands : Nat → AsyncCommand) (reset : Bool) (c : Nat) (result : ResultCode)
    (extraInfo : Bytes) (allocated : Bool) :
    (onResultInner commands reset c result extraInfo allocated).2.countP (isFinish c) ≤ 1 := by
  obtain silent | ⟨_,_,told⟩ := onResultInner_cases commands reset c result extraInfo allocated
  · rw [silent]
    exact Nat.zero_le 1
  · rw [told]
    exact List.countP_le_length

theorem onResultInner_elsewhere (commands : Nat → AsyncCommand) (reset : Bool) (c : Nat) (result : ResultCode)
    (extraInfo : Bytes) (allocated : Bool) (d : Nat) (other : d ≠ c) :
    (onResultInner commands reset c result extraInfo allocated).2.countP (isFinish d) = 0 := by
  obtain silent | ⟨_,_,told⟩ := onResultInner_cases commands reset c result extraInfo allocated
  · exact silent d
  · rw [told,List.countP_singleton]
    exact if_neg fun same => other (of_decide_eq_true same).symm

theorem onResultInner_finish (c : Nat) (result : ResultCode) (short : extraInfo.length ≤ Attributes.MAX_ATTR_LENGTH)
    (messenger : (commands c).executorMessenger = true) :
    (onResultInner commands false c result extraInfo true).2.countP (isFinish c) = 1 := by
  obtain ⟨final,built⟩ := Option.isSome_iff_exists.mp (finalResult_some result short)
  unfold onResultInner
  cases made : commands c with
  | custom attributes =>
    rw [made] at messenger
    cases messenger
  | schedule type scheduleId attributes executorMessenger =>
    rw [made] at messenger
    dsimp only [AsyncCommand.executorMessenger] at messenger ⊢
    rw [built,messenger]
    exact List.countP_singleton.trans (if_pos (decide_eq_true rfl))

theorem Sound.finish (sound : Sound fit (commands c) listed released h c state) (unfinished : state.isFinished = false)
    (started : state.phase ≠ .idle) (caller : ResultCaller) (result : ResultCode) (extraInfo : Bytes) (allocated : Bool)
    (deliverable : fit c → extraInfo.length ≤ Attributes.MAX_ATTR_LENGTH ∧ allocated = true) :
    Sound fit (commands c) listed released
      (h ++ (onResultInner commands state.messengerReset c result extraInfo allocated).2) c
      {state with
        isFinished:=true
        messengerReset:=(onResultInner commands state.messengerReset c result extraInfo allocated).1
        ending:=some caller} := by
  obtain ⟨none,reset,-⟩ := sound.unfinished unfinished
  rw [reset]
  have once := onResultInner_once commands false c result extraInfo allocated
  refine ⟨nofun,fun _ => ⟨?_,fun now messenger => ?_⟩,fun answered => ?_,fun idle => absurd idle started,
    fun process _ => sound.running process (.inl unfinished),fun past => (nomatch past.2),sound.failed,
    sound.reached,sound.sent⟩
  · rw [List.countP_append,none]
    omega
  · obtain ⟨short,rfl⟩ := deliverable now
    rw [List.countP_append,none,onResultInner_finish c result short messenger]
  · exact absurd ((sound.answered answered).1.symm.trans unfinished) nofun

theorem Sound.early_unreached (sound : Sound fit command listed released h c state) (first : early state.phase = true) :
    state.reached = false := by
  by_contra reached
  rw [sound.reached ((Bool.not_eq_false _).mp reached)] at first
  cases first

theorem held_started (sound : Sound fit command listed released h c state) (held : Held state) : InProcess state.phase := by
  refine ⟨fun idle => ?_,held.2⟩
  rcases held.1 with fetched | reached
  · cases idle.symm.trans fetched
  · have first := sound.early_unreached (by rw [idle]; rfl)
    rw [first] at reached
    cases reached

-- A command that changes its phase alone.
theorem Kept.inPhase (kept : Kept fit commands s h) (c : Nat) (phase : StartPhase) (starting : Nat) (set : Finset Nat)
    (more : List CommandEvent) (others : ∀ d ≠ c, d ∈ set ↔ d ∈ s.command2Respond) (bare : s.released = true → set = ∅)
    (silent : ∀ d, more.countP (isFinish d) = 0)
    (sound : Sound fit (commands c) (c ∈ set) s.released h c {s.commands c with phase}) (started : phase ≠ .idle)
    (held : Copied s.disconnect → Held {s.commands c with phase} → Held (s.commands c)) :
    Kept fit commands {s with
      commands:=Function.update s.commands c {s.commands c with phase},command2Respond:=set,starting} (h ++ more) :=
  kept.onCommand c {s.commands c with phase} set starting more others bare (fun d _ => silent d) (sound.tell (silent c))
    started (fun copied now => kept.walked copied c (held copied now)) (kept.current c)

def Refuses (phase : StartPhase) (ret : ResultCode) : Prop :=
  phase = .reporting ret ∨ phase = .reported ret ∨ phase = .failing ret

theorem refuses_same (refuses : Refuses phase ret) (again : Refuses phase other) : other = ret := by
  rcases refuses with rfl | rfl | rfl
  · rcases again with same | same | same
    · exact (StartPhase.reporting.inj same).symm
    · cases same
    · cases same
  · rcases again with same | same | same
    · cases same
    · exact (StartPhase.reported.inj same).symm
    · cases same
  · rcases again with same | same | same
    · cases same
    · cases same
    · exact (StartPhase.failing.inj same).symm

-- A StartProcess call that fails before its request reaches the driver.
theorem fail_kept (kept : Kept fit commands s h) (c : Nat) (first : early (s.commands c).phase = true)
    (started : (s.commands c).phase ≠ .idle) : Kept fit commands (s.inPhase c (.failing ResultCode.GENERAL_ERROR)) h := by
  have sound := kept.sound c
  have unreached := sound.early_unreached first
  have next : Sound fit (commands c) (c ∈ s.command2Respond) s.released h c
      {s.commands c with phase:=.failing ResultCode.GENERAL_ERROR} := by
    refine sound.inPhase _ nofun (fun _ => ⟨started,fun ret _ same => ?_⟩) (fun other now => ?_) (fun reached => ?_) nofun
    · rw [same] at first
      cases first
    · rw [refuses_same (.inr (.inr rfl)) now]
      decide
    · cases unreached.symm.trans reached
  rw [← List.append_nil h]
  refine kept.inPhase c _ s.starting s.command2Respond [] (fun _ _ => Iff.rfl) kept.bare (fun _ => rfl) next nofun
    fun _ held => ?_
  rcases held.1 with fetched | reached
  · cases fetched
  · cases unreached.symm.trans reached

theorem fetch_kept (kept : Kept fit commands s h) (c : Nat) (added : (s.commands c).phase = .added)
    (handle : s.getExecutorHdi = true) : Kept fit commands (s.inPhase c .fetched) h := by
  have sound := kept.sound c
  have unreached := sound.early_unreached (by rw [added]; rfl)
  have next : Sound fit (commands c) (c ∈ s.command2Respond) s.released h c {s.commands c with phase:=.fetched} := by
    refine sound.inPhase .fetched nofun (fun _ => ?_) nofun (fun reached => ?_) nofun
    · rw [added]
      exact ⟨nofun,nofun⟩
    · cases unreached.symm.trans reached
  rw [← List.append_nil h]
  refine kept.inPhase c _ s.starting s.command2Respond [] (fun _ _ => Iff.rfl) kept.bare (fun _ => rfl) next nofun
    fun copied _ => ?_
  -- With the handle there is no disconnect yet.
  have gone := kept.hdi fun before => by
    rw [before] at copied
    exact copied
  rw [getExecutorHdi,gone,Bool.and_false] at handle
  cases handle

theorem fetchExecutorHdi_kept (kept : Kept fit commands s h) (c : Nat) :
    Kept fit commands (s.fetchExecutorHdi commands c) h := by
  unfold fetchExecutorHdi
  split
  · exact kept
  · rename_i added
    rw [not_not] at added
    have failing := fail_kept kept c (by rw [added]; rfl) (by rw [added]; nofun)
    split
    · exact failing
    · split
      · exact failing
      · rename_i handle
        rw [Bool.not_eq_true,Bool.not_eq_false'] at handle
        exact fetch_kept kept c added handle

theorem sendRequest_kept (kept : Kept fit commands s h) (c : Nat) :
    Kept fit commands (s.sendRequest commands c).1 (h ++ (s.sendRequest commands c).2) := by
  have sound := kept.sound c
  unfold sendRequest
  split
  · rw [List.append_nil]
    exact kept
  · rename_i fetched
    rw [not_not] at fetched
    cases (commands c).hdiRequest with
    | none =>
      rw [List.append_nil]
      exact fail_kept kept c (by rw [fetched]; rfl) (by rw [fetched]; nofun)
    | some request =>
      have next : Sound fit (commands c) (c ∈ s.command2Respond) s.released h c
          {s.commands c with phase:=.called,reached:=true} := by
        refine ⟨sound.unfinished,sound.finished,sound.answered,nofun,fun _ => sound.running ?_,sound.removed,nofun,
          fun _ => rfl,fun _ => rfl⟩
        rw [fetched]
        exact ⟨nofun,nofun⟩
      refine kept.onCommand c _ s.command2Respond s.starting _ (fun _ _ => Iff.rfl) kept.bare (fun _ _ => rfl)
        (next.tell rfl) nofun (fun copied _ => kept.walked copied c ⟨.inl fetched,?_⟩) (kept.current c)
      rw [fetched]
      nofun

theorem answer_kept (kept : Kept fit commands s h) (c : Nat) (ret : ResultCode) :
    Kept fit commands (s.answer commands c ret).1 (h ++ (s.answer commands c ret).2) := by
  have sound := kept.sound c
  unfold answer
  split
  · rw [List.append_nil]
    exact kept
  · rename_i called
    rw [not_not] at called
    have process : InProcess (s.commands c).phase := by
      rw [called]
      exact ⟨nofun,nofun⟩
    have held : ∀ phase, phase ≠ .fetched → Copied s.disconnect → Held {s.commands c with phase} →
        Held (s.commands c) := by
      intro phase other _ now
      exact ⟨.inr (now.1.resolve_left other),by rw [called]; nofun⟩
    split
    · exact kept.inPhase c (.returned ResultCode.SUCCESS) (s.starting - 1) s.command2Respond _ (fun _ _ => Iff.rfl)
        kept.bare (fun _ => rfl) (sound.inPhase _ nofun (fun _ => process) nofun (fun _ => rfl)
          fun _ => sound.sent (.inl called)) nofun (held _ nofun)
    · rename_i refused
      have failing := kept.inPhase c (.failing ret) s.starting s.command2Respond [] (fun _ _ => Iff.rfl) kept.bare
        (fun _ => rfl) (sound.inPhase _ nofun (fun _ => process) (fun other now =>
          refuses_same (.inr (.inr rfl)) now ▸ refused) (fun _ => rfl) nofun) nofun (held _ nofun)
      have reporting := kept.inPhase c (.reporting ret) s.starting s.command2Respond [] (fun _ _ => Iff.rfl) kept.bare
        (fun _ => rfl) (sound.inPhase _ nofun (fun _ => process) (fun other now =>
          refuses_same (.inl rfl) now ▸ refused) (fun _ => rfl) nofun) nofun (held _ nofun)
      cases commands c with
      | schedule => exact failing
      | custom => exact reporting

theorem startProcess_kept (kept : Kept fit commands s h) (c : Nat) :
    Kept fit commands (s.startProcess c).1 (h ++ (s.startProcess c).2) := by
  have sound := kept.sound c
  unfold startProcess
  split
  · rw [List.append_nil]
    exact kept
  · rename_i idle
    rw [not_not] at idle
    have unreached := sound.early_unreached (by rw [idle]; rfl)
    obtain ⟨unfinished,unlisted⟩ := sound.idle idle
    have unheld : ∀ phase, phase ≠ .fetched → ¬Held {s.commands c with phase} := by
      intro phase other held
      rcases held.1 with fetched | reached
      · exact other fetched
      · rw [unreached] at reached
        cases reached
    split
    · have process : ¬InProcess (.returned ResultCode.GENERAL_ERROR) := fun process =>
        process.2 ResultCode.GENERAL_ERROR (by decide) rfl
      have next := sound.inPhase (.returned ResultCode.GENERAL_ERROR) nofun (fun now => absurd now process) nofun
        (fun _ => rfl) fun now => absurd now (by decide)
      exact kept.inPhase c (.returned ResultCode.GENERAL_ERROR) s.starting s.command2Respond _ (fun _ _ => Iff.rfl)
        kept.bare (fun _ => rfl) next nofun fun _ held => absurd held (unheld _ nofun)
    · rename_i alive
      have next : Sound fit (commands c) (c ∈ insert c s.command2Respond) s.released h c
          {s.commands c with phase:=.added} := by
        refine ⟨sound.unfinished,sound.finished,sound.answered,nofun,fun _ _ => .inr (Finset.mem_insert_self c _),
          fun past => ?_,nofun,fun reached => ?_,nofun⟩
        · cases past.1.symm.trans unfinished
        · cases unreached.symm.trans reached
      refine kept.inPhase c .added (s.starting + 1) (insert c s.command2Respond) [] (fun d other => ?_)
        (fun released => absurd released alive) (fun _ => rfl) next nofun fun _ held => absurd held (unheld _ nofun)
      rw [Finset.mem_insert,or_iff_right other]

-- The running set without the command, unless the executor is gone with it.
theorem removeCommand_eq (s : CommandExecutor) (c : Nat) : s.removeCommand c =
    {s with command2Respond:=if s.released then s.command2Respond else s.command2Respond.erase c} := by
  unfold removeCommand
  split
  · rfl
  · rfl

theorem removed_others (s : CommandExecutor) (c : Nat) : ∀ d ≠ c,
    d ∈ (if s.released then s.command2Respond else s.command2Respond.erase c) ↔ d ∈ s.command2Respond := by
  intro d other
  split
  · rfl
  · rw [Finset.mem_erase,and_iff_right other]

theorem removed_bare (kept : Kept fit commands s h) (c : Nat) (released : s.released = true) :
    (if s.released then s.command2Respond else s.command2Respond.erase c) = ∅ := by
  rw [if_pos released]
  exact kept.bare released

theorem removed_absent (kept : Kept fit commands s h) (c : Nat) :
    c ∉ (if s.released then s.command2Respond else s.command2Respond.erase c) := by
  split
  · rename_i released
    rw [kept.bare released]
    exact Finset.notMem_empty c
  · exact Finset.notMem_erase c _

theorem endStart_kept (kept : Kept fit commands s h) (c : Nat) :
    Kept fit commands (s.endStart c).1 (h ++ (s.endStart c).2) := by
  have sound := kept.sound c
  unfold endStart
  cases phase : (s.commands c).phase with
  | failing ret =>
    have refused := sound.failed ret (.inr (.inr phase))
    have past : ¬InProcess (.returned ret) := fun process => process.2 ret refused rfl
    dsimp only
    rw [removeCommand_eq]
    have next : Sound fit (commands c) (c ∈ if s.released then s.command2Respond else s.command2Respond.erase c) s.released
        h c {s.commands c with phase:=.returned ret} := by
      have moved := sound.inPhase (.returned ret) nofun (fun now => absurd now past) nofun (fun _ => rfl) fun now => by
        rcases now with same | same
        · cases same
        · exact absurd (StartPhase.returned.inj same) refused
      exact ⟨moved.unfinished,moved.finished,moved.answered,nofun,fun now => absurd now past,
        fun _ => removed_absent kept c,moved.failed,moved.reached,moved.sent⟩
    exact kept.inPhase c (.returned ret) (s.starting - 1) _ _ (removed_others s c) (removed_bare kept c)
      (fun _ => rfl) next nofun fun _ held => absurd rfl (held.2 ret refused)
  | _ =>
    rw [List.append_nil]
    exact kept

-- OnResult on a command that is not finished, which nobody else is ending.
theorem finish_kept (kept : Kept fit commands s h) (c : Nat) (caller : ResultCaller) (other : caller ≠ .disconnect)
    (unfinished : (s.commands c).isFinished = false) (started : (s.commands c).phase ≠ .idle) (result : ResultCode)
    (extraInfo : Bytes) (allocated : Bool)
    (deliverable : fit c → extraInfo.length ≤ Attributes.MAX_ATTR_LENGTH ∧ allocated = true) :
    Kept fit commands (s.finish commands caller c result extraInfo allocated).1
      (h ++ (s.finish commands caller c result extraInfo allocated).2) := by
  have sound := kept.sound c
  have next := sound.finish unfinished started caller result extraInfo allocated deliverable
  refine kept.onCommand c _ s.command2Respond s.starting _ (fun _ _ => Iff.rfl) kept.bare
    (onResultInner_elsewhere commands _ c result extraInfo allocated) next started (fun copied held => ?_) ?_
  · rcases kept.walked copied c held with past | waits
    · cases past.1.symm.trans unfinished
    · exact .inr waits
  · have free := (sound.unfinished unfinished).2.2
    have current := kept.current c
    rw [free] at current
    exact ⟨fun same => absurd (Option.some.inj same) other,fun walking => nomatch current.mpr walking⟩

theorem report_kept (kept : Kept fit commands s h) (c : Nat) :
    Kept fit commands (s.report commands c).1 (h ++ (s.report commands c).2) := by
  have sound := kept.sound c
  have waits : Kept fit commands s (h ++ []) := by rwa [List.append_nil]
  unfold report
  cases phase : (s.commands c).phase with
  | reporting ret =>
    have refused := sound.failed ret (.inl phase)
    have process : InProcess (s.commands c).phase := by
      rw [phase]
      exact ⟨nofun,nofun⟩
    cases ending : (s.commands c).ending with
    | some caller => exact waits
    | none =>
      dsimp only
      cases finished : (s.commands c).isFinished with
      | true =>
        exact kept.inPhase c (.failing ret) s.starting s.command2Respond [] (fun _ _ => Iff.rfl) kept.bare (fun _ => rfl)
          (sound.inPhase _ nofun (fun _ => process) (fun other now =>
            refuses_same (.inr (.inr rfl)) now ▸ refused) (fun _ => rfl) nofun) nofun fun _ now =>
          ⟨.inr (now.1.resolve_left nofun),process.2⟩
      | false =>
        have done := finish_kept kept c .startProcess nofun finished process.1 ret [] true
          fun _ => ⟨Nat.zero_le _,rfl⟩
        have same : ((s.finish commands .startProcess c ret [] true).1.commands c).phase = (s.commands c).phase := by
          unfold CommandExecutor.finish CommandExecutor.onCommand
          dsimp only
          rw [Function.update_self]
        have still : InProcess ((s.finish commands .startProcess c ret [] true).1.commands c).phase := by rwa [same]
        have moved := done.inPhase c (.reported ret) s.starting s.command2Respond [] (fun _ _ => Iff.rfl) kept.bare
          (fun _ => rfl) ((done.sound c).inPhase _ nofun (fun _ => still) (fun other now =>
            refuses_same (.inr (.inl rfl)) now ▸ refused) (fun _ => rfl) nofun) nofun fun _ now =>
          ⟨.inr (now.1.resolve_left nofun),still.2⟩
        rwa [List.append_nil] at moved
  | _ => exact waits

theorem onResult_kept (kept : Kept fit commands s h) (c : Nat) (result : ResultCode) (extraInfo : Bytes) (allocated : Bool)
    (deliverable : fit c → extraInfo.length ≤ Attributes.MAX_ATTR_LENGTH ∧ allocated = true) :
    Kept fit commands (s.onResult commands c result extraInfo allocated).1
      (h ++ (s.onResult commands c result extraInfo allocated).2) := by
  have sound := kept.sound c
  have waits : Kept fit commands s (h ++ []) := by rwa [List.append_nil]
  unfold onResult
  split
  · exact waits
  · rename_i ready
    simp only [Bool.or_eq_true,Bool.not_eq_true',not_or,Bool.not_eq_false,Bool.not_eq_true,Option.isSome_eq_false_iff,
      Option.isNone_iff_eq_none] at ready
    obtain ⟨reached,free⟩ := ready
    have started : (s.commands c).phase ≠ .idle := fun idle => by
      have first := sound.reached reached
      rw [idle] at first
      cases first
    cases finished : (s.commands c).isFinished with
    | true =>
      have next : Sound fit (commands c) (c ∈ s.command2Respond) s.released h c {s.commands c with answered:=true} :=
        {sound with answered:=fun _ => ⟨finished,free⟩}
      exact kept.onCommand c _ s.command2Respond s.starting [] (fun _ _ => Iff.rfl) kept.bare (fun _ _ => rfl)
        (next.tell rfl) started (kept.walked · c) (kept.current c)
    | false => exact finish_kept kept c .driver nofun finished started result extraInfo allocated deliverable

theorem Sound.finished_busy (sound : Sound fit command listed released h c state) (ending : state.ending ≠ none) :
    state.isFinished = true := by
  by_contra unfinished
  exact ending (sound.unfinished (Bool.eq_false_of_not_eq_true unfinished)).2.2

-- EndProcess on a command that is being ended, whatever its phase becomes.
theorem Sound.ended (sound : Sound fit command listed released h c state) (ending : state.ending ≠ none)
    (absent : ¬listed') (phase : StartPhase) (answered : Bool) (started : phase ≠ .idle)
    (failed : ∀ ret, Refuses phase ret → ret ≠ ResultCode.SUCCESS)
    (reached : state.reached = true → early phase = false)
    (sent : phase = .called ∨ phase = .returned ResultCode.SUCCESS → state.reached = true) :
    Sound fit command listed' released h c {state with phase,ending:=none,answered} := by
  have finished := sound.finished_busy ending
  refine ⟨fun unfinished => ?_,sound.finished,fun _ => ⟨finished,rfl⟩,fun idle => absurd idle started,fun _ going => ?_,
    fun _ => absent,failed,reached,sent⟩
  · cases finished.symm.trans unfinished
  · rcases going with unfinished | other
    · cases finished.symm.trans unfinished
    · exact absurd rfl other

theorem Kept.ended (kept : Kept fit commands s h) (c : Nat) (ending : (s.commands c).ending ≠ none) (phase : StartPhase)
    (answered : Bool) (disconnect : DisconnectPhase) (started : phase ≠ .idle)
    (failed : ∀ ret, Refuses phase ret → ret ≠ ResultCode.SUCCESS)
    (reached : (s.commands c).reached = true → early phase = false)
    (sent : phase = .called ∨ phase = .returned ResultCode.SUCCESS → (s.commands c).reached = true)
    (follows : Follows s.disconnect disconnect c) (left : ∀ rest, disconnect ≠ .walking rest (some c)) :
    Kept fit commands {s with
      commands:=Function.update s.commands c {s.commands c with phase,ending:=none,answered}
      command2Respond:=if s.released then s.command2Respond else s.command2Respond.erase c
      disconnect} h := by
  have sound := kept.sound c
  have next := sound.ended ending (removed_absent kept c) phase answered started failed reached sent
  rw [← List.append_nil h]
  refine kept.move c _ _ disconnect s.starting [] (removed_others s c) (removed_bare kept c) (fun _ _ => rfl)
    (next.tell rfl) started follows (fun _ _ => .inl ⟨sound.finished_busy ending,rfl⟩) ⟨fun same => ?_,fun walking => ?_⟩
  · cases same
  · exact absurd walking.choose_spec (left _)

-- The walk turns to a command that waits, or away from it.
theorem follows_walking (rest rest' : Finset Nat) (current current' : Option Nat) (c : Nat)
    (same : ∀ d ≠ c, d ∈ rest' ↔ d ∈ rest) (only : ∀ d ≠ c, current ≠ some d ∧ current' ≠ some d) :
    Follows (.walking rest current) (.walking rest' current') c := by
  refine ⟨fun _ => nofun,fun _ => nofun,id,fun d other => ?_,fun d other => ?_⟩
  · show d ∈ rest' ∨ current' = some d ↔ d ∈ rest ∨ current = some d
    rw [same d other,or_iff_left (only d other).1,or_iff_left (only d other).2]
  · constructor
    · intro ⟨_,walking⟩
      cases walking
      exact absurd rfl (only d other).2
    · intro ⟨_,walking⟩
      cases walking
      exact absurd rfl (only d other).1

theorem endProcess_kept (kept : Kept fit commands s h) (c : Nat) : Kept fit commands (s.endProcess c) h := by
  have sound := kept.sound c
  have current := kept.current c
  unfold endProcess
  rw [removeCommand_eq]
  cases ending : (s.commands c).ending with
  | none => exact kept
  | some caller =>
    have busy : (s.commands c).ending ≠ none := by
      rw [ending]
      nofun
    have started : (s.commands c).phase ≠ .idle := fun idle => by
      cases (sound.idle idle).1.symm.trans (sound.finished_busy busy)
    have elsewhere : caller ≠ .disconnect → ∀ rest, s.disconnect ≠ .walking rest (some c) := fun other rest walking =>
      other (Option.some.inj (ending.symm.trans (current.mpr ⟨rest,walking⟩)))
    cases caller with
    | driver =>
      exact kept.ended c busy _ true s.disconnect started sound.failed sound.reached sound.sent (.refl _ c)
        (elsewhere nofun)
    | disconnect =>
      obtain ⟨rest,walking⟩ := current.mp ending
      dsimp only
      rw [walking]
      have follows : Follows s.disconnect (.walking rest none) c := by
        rw [walking]
        refine follows_walking rest rest (some c) none c (fun _ _ => Iff.rfl) fun d other => ⟨fun same => ?_,nofun⟩
        exact other (Option.some.inj same).symm
      exact kept.ended c busy _ _ (.walking rest none) started sound.failed sound.reached sound.sent follows nofun
    | startProcess =>
      have alone := elsewhere nofun
      unfold onCommand
      dsimp only
      cases same : (s.commands c).phase with
      | reported ret =>
        have refused := sound.failed ret (.inr (.inl same))
        have failed : ∀ other, Refuses (.failing ret) other → other ≠ ResultCode.SUCCESS := fun other now =>
          refuses_same (.inr (.inr rfl)) now ▸ refused
        exact kept.ended c busy (.failing ret) _ s.disconnect nofun failed (fun _ => rfl) nofun (.refl _ c) alone
      | _ =>
        have ended := kept.ended c busy _ (s.commands c).answered s.disconnect started sound.failed sound.reached
          sound.sent (.refl _ c) alone
        rw [same] at ended
        exact ended

theorem onHdiDisconnect_kept (kept : Kept fit commands s h) : Kept fit commands s.onHdiDisconnect h := by
  unfold onHdiDisconnect
  split
  · exact kept
  · rename_i alive
    cases disconnect : s.disconnect with
    | before =>
      refine ⟨kept.sound,fun _ => rfl,fun _ _ => Bool.eq_false_of_not_eq_true alive,nofun,nofun,kept.bare,fun c => ?_⟩
      rw [kept.current,disconnect]
      exact ⟨nofun,nofun⟩
    | _ => exact kept

-- The copy has every command with the driver's handle that is not over yet.
theorem copied (kept : Kept fit commands s h) (cleared : s.disconnect = .cleared) (held : Held (s.commands c)) :
    Over (s.commands c) ∨ c ∈ s.command2Respond := by
  have sound := kept.sound c
  have alive := kept.alive (by rw [cleared]; nofun) (by rw [cleared]; nofun)
  by_cases past : Over (s.commands c)
  · exact .inl past
  · right
    refine (sound.running (held_started sound held) ?_).resolve_left (by rw [alive]; nofun)
    by_contra done
    rw [not_or,not_not,Bool.not_eq_false] at done
    exact past done

theorem respond_kept (kept : Kept fit commands s h) : Kept fit commands s.respondCallbackOnDisconnect h := by
  unfold respondCallbackOnDisconnect
  cases cleared : s.disconnect with
  | cleared =>
    have begun : s.disconnect ≠ .before := by
      rw [cleared]
      nofun
    have going : s.disconnect ≠ .done := by
      rw [cleared]
      nofun
    refine ⟨kept.sound,fun _ => kept.hdi begun,fun _ _ => kept.alive begun going,
      fun _ c held => (copied kept cleared held).imp_right .inl,fun c waits => ?_,kept.bare,fun c => ?_⟩
    · rcases waits with member | current
      · exact fun idle => ((kept.sound c).idle idle).2 member
      · cases current
    · rw [kept.current,cleared]
      exact ⟨nofun,fun ⟨_,walking⟩ => nomatch walking⟩
  | _ => exact kept

theorem notify_kept (kept : Kept fit commands s h) (c : Nat) (allocated : Bool) (possible : fit c → allocated = true) :
    Kept fit commands (s.notify commands c allocated).1 (h ++ (s.notify commands c allocated).2) := by
  have sound := kept.sound c
  have current := kept.current c
  have waiting : Kept fit commands s (h ++ []) := by rwa [List.append_nil]
  unfold notify
  cases walking : s.disconnect with
  | walking rest now =>
    cases now with
    | some other => exact waiting
    | none =>
      cases ending : (s.commands c).ending with
      | some caller => exact waiting
      | none =>
        dsimp only
        split
        · exact waiting
        · rename_i member
          rw [not_not] at member
          have started := kept.started c (by rw [walking]; exact .inl member)
          have left : ∀ d ≠ c, d ∈ rest.erase c ↔ d ∈ rest := fun d other => by rw [Finset.mem_erase,and_iff_right other]
          cases finished : (s.commands c).isFinished with
          | true =>
            have follows : Follows s.disconnect (.walking (rest.erase c) none) c := by
              rw [walking]
              exact follows_walking rest _ none none c left fun _ _ => ⟨nofun,nofun⟩
            have moved := kept.move c (s.commands c) s.command2Respond (.walking (rest.erase c) none) s.starting []
              (fun _ _ => Iff.rfl) kept.bare (fun _ _ => rfl) (by rwa [List.append_nil]) started follows
              (fun _ _ => .inl ⟨finished,ending⟩) (by rw [ending]; exact ⟨nofun,nofun⟩)
            rwa [Function.update_eq_self] at moved
          | false =>
            have follows : Follows s.disconnect (.walking (rest.erase c) (some c)) c := by
              rw [walking]
              refine follows_walking rest _ none (some c) c left fun d other => ⟨nofun,fun same => ?_⟩
              exact other (Option.some.inj same).symm
            have next := sound.finish finished started .disconnect ResultCode.GENERAL_ERROR [] allocated
              fun now => ⟨Nat.zero_le Attributes.MAX_ATTR_LENGTH,possible now⟩
            exact kept.move c _ s.command2Respond (.walking (rest.erase c) (some c)) s.starting _ (fun _ _ => Iff.rfl)
              kept.bare (onResultInner_elsewhere commands _ c _ [] allocated) next started follows
              (fun _ _ => .inr (.inr rfl)) ⟨fun _ => ⟨_,rfl⟩,fun _ => rfl⟩
  | _ => exact waiting

theorem endDisconnect_kept (kept : Kept fit commands s h) : Kept fit commands s.endDisconnect h := by
  unfold endDisconnect
  cases walking : s.disconnect with
  | walking rest now =>
    cases now with
    | some other => exact kept
    | none =>
      dsimp only
      split
      · rename_i bare
        have begun : s.disconnect ≠ .before := by
          rw [walking]
          nofun
        refine ⟨kept.sound,fun _ => kept.hdi begun,nofun,fun _ c held => ?_,nofun,kept.bare,fun c => ?_⟩
        · have walked := kept.walked (by rw [walking]; trivial) c held
          rw [walking,bare] at walked
          refine .inl (walked.resolve_right fun waits => ?_)
          rcases waits with member | current
          · exact Finset.notMem_empty c member
          · cases current
        · rw [kept.current,walking]
          exact ⟨nofun,nofun⟩
      · exact kept
  | _ => exact kept

theorem release_kept (kept : Kept fit commands s h) : Kept fit commands s.release h := by
  unfold release
  split
  · rename_i idle
    refine ⟨fun c => ?_,kept.hdi,fun begun going => ?_,kept.walked,kept.started,fun _ => rfl,kept.current⟩
    · have sound := kept.sound c
      exact ⟨sound.unfinished,sound.finished,sound.answered,fun now => ⟨(sound.idle now).1,Finset.notMem_empty c⟩,
        fun _ _ => .inl rfl,fun _ => Finset.notMem_empty c,sound.failed,sound.reached,sound.sent⟩
    · rcases idle.2 with before | done
      · exact absurd before begun
      · exact absurd done going
  · exact kept

theorem initial_kept (fit : Nat → Prop) (commands : Nat → AsyncCommand) : Kept fit commands {} [] := by
  refine ⟨fun c => ⟨fun _ => ⟨rfl,rfl,rfl⟩,nofun,nofun,fun _ => ⟨rfl,Finset.notMem_empty c⟩,fun process => ?_,
    fun _ => Finset.notMem_empty c,nofun,nofun,nofun⟩,fun other => absurd rfl other,fun other => absurd rfl other,nofun,
    nofun,nofun,fun c => ⟨nofun,nofun⟩⟩
  exact absurd rfl process.1

theorem step_kept (kept : Kept fit commands s h) (input : CommandInput)
    (possible : ∀ c, fit c → WithinLimits input ∧ Allocated c input) :
    Kept fit commands (s.step commands input).1 (h ++ (s.step commands input).2) := by
  cases input with
  | startProcess c => exact startProcess_kept kept c
  | getExecutorHdi c =>
    rw [step,List.append_nil]
    exact fetchExecutorHdi_kept kept c
  | sendRequest c => exact sendRequest_kept kept c
  | answer c ret => exact answer_kept kept c ret
  | report c => exact report_kept kept c
  | endStart c => exact endStart_kept kept c
  | onResult c result extraInfo allocated =>
    exact onResult_kept kept c result extraInfo allocated fun now => (possible c now).imp_right fun will => will rfl
  | endProcess c =>
    rw [step,List.append_nil]
    exact endProcess_kept kept c
  | onHdiDisconnect =>
    rw [step,List.append_nil]
    exact onHdiDisconnect_kept kept
  | respondCallbackOnDisconnect =>
    rw [step,List.append_nil]
    exact respond_kept kept
  | notify c allocated => exact notify_kept kept c allocated fun now => (possible c now).2 rfl
  | endDisconnect =>
    rw [step,List.append_nil]
    exact endDisconnect_kept kept
  | release =>
    rw [step,List.append_nil]
    exact release_kept kept

-- A command whose request is with the driver holds on to it, or its start has failed.
theorem reached_held (reached : state.reached = true) :
    Held state ∨ ∃ ret ≠ ResultCode.SUCCESS, state.phase = .returned ret := by
  by_cases failed : ∃ ret ≠ ResultCode.SUCCESS, state.phase = .returned ret
  · exact .inr failed
  · exact .inl ⟨.inr reached,fun ret refused phase => failed ⟨ret,refused,phase⟩⟩

theorem Sound.held (sound : Sound fit command listed released h c state)
    (succeeded : state.phase = .returned ResultCode.SUCCESS) : Held state :=
  ⟨.inr (sound.sent (.inr succeeded)),fun _ refused same => refused (StartPhase.returned.inj (same.symm.trans succeeded))⟩

theorem finishedOnce (kept : Kept fit commands s h) :
    FinishedOnce (fun c => (commands c).executorMessenger = true ∧ fit c) s h := by
  have left : s.disconnect = .done → ∀ c, Held (s.commands c) → Over (s.commands c) := by
    intro done c held
    have walked := kept.walked (by rw [done]; trivial) c held
    rw [done] at walked
    exact walked.resolve_right id
  refine ⟨fun c => ?_,fun c finishing finished => ((kept.sound c).finished finished).2 finishing.2 finishing.1,
    fun c settled => ?_,fun rest current walking c reached => ?_,fun done c reached => ?_⟩
  · cases finished : (s.commands c).isFinished with
    | false => exact Nat.le_trans (Nat.le_of_eq ((kept.sound c).unfinished finished).1) (Nat.zero_le 1)
    | true => exact ((kept.sound c).finished finished).1
  · have sound := kept.sound c
    have past : Over (s.commands c) := by
      rcases settled.2 with answered | done
      · exact sound.answered answered
      · exact left done c (sound.held settled.1)
    exact ⟨past.1,sound.removed past⟩
  · rcases reached_held reached with held | failed
    · have walked := kept.walked (by rw [walking]; trivial) c held
      rw [walking] at walked
      rcases walked with past | member | now
      · exact .inr (.inr (.inl past.1))
      · exact .inl member
      · exact .inr (.inl now)
    · exact .inr (.inr (.inr failed))
  · rcases reached_held reached with held | failed
    · exact .inl (left done c held).1
    · exact .inr failed

end Steps

-- The commands that have a messenger, when every payload is within the limits and
-- the attributes of their results can be allocated.
def Finishing (commands : Nat → AsyncCommand) (inputs : List CommandInput) (command : Nat) : Prop :=
  (commands command).executorMessenger = true ∧ ∀ input ∈ inputs, WithinLimits input ∧ Allocated command input

theorem finishing_commands_finish_once (commands : Nat → AsyncCommand) (inputs : List CommandInput) :
    FinishedOnce (Finishing commands inputs) ((machine commands).after {} inputs) ((machine commands).trace {} inputs) := by
  have met : (machine commands).Meets (fun _ input => input ∈ inputs) {} inputs := by
    rw [Mealy.meets_iff_steps]
    intro before input rest split
    rw [split]
    exact List.mem_append_right before List.mem_cons_self
  have kept := Mealy.guarded_history (m:=machine commands)
    (P:=Kept (fun c => ∀ input ∈ inputs, WithinLimits input ∧ Allocated c input) commands)
    (fun s h input kept member => step_kept kept input fun c possible => possible input member)
    (initial_kept _ commands) met
  rw [List.nil_append] at kept
  exact finishedOnce kept

instance : DecidablePred WithinLimits
  | .onResult _ _ extraInfo _ => inferInstanceAs (Decidable (extraInfo.length ≤ Attributes.MAX_ATTR_LENGTH))
  | .startProcess _ | .getExecutorHdi _ | .sendRequest _ | .answer .. | .report _ | .endStart _ | .endProcess _
  | .onHdiDisconnect | .respondCallbackOnDisconnect | .notify .. | .endDisconnect | .release => .isTrue trivial

def sendCommand : AsyncCommand :=
  .custom (some (Attributes.empty.setEach [Attributes.setUint32Value Attributes.ATTR_PROPERTY_MODE 7,
    Attributes.setUint8ArrayValue Attributes.ATTR_EXTRA_INFO []]))

def identify : AsyncCommand :=
  .schedule .identify 1 (some (Attributes.empty.setEach [Attributes.setUint32Value Attributes.ATTR_ACCESS_TOKEN_ID 7,
    Attributes.setUint8ArrayValue Attributes.ATTR_EXTRA_INFO []])) true

def answered (allocated : Bool) : List CommandInput :=
  [.startProcess 0,.getExecutorHdi 0,.sendRequest 0,.answer 0 ResultCode.SUCCESS,
    .onResult 0 ResultCode.SUCCESS [] allocated,.endProcess 0]

-- A custom command has no Finish to send, and without attributes none is sent.
theorem custom_command_sends_none :
    (¬∀ (commands : Nat → AsyncCommand) (inputs : List CommandInput), (∀ input ∈ inputs, WithinLimits input) →
      ∀ c, Settled ((machine commands).after {} inputs) c →
        ((machine commands).trace {} inputs).countP (isFinish c) = 1) ∧
    ¬∀ (commands : Nat → AsyncCommand) (inputs : List CommandInput), (∀ input ∈ inputs, WithinLimits input) →
      ∀ c, (commands c).executorMessenger = true → Settled ((machine commands).after {} inputs) c →
        ((machine commands).trace {} inputs).countP (isFinish c) = 1 := by
  constructor
  · intro all
    have sent := all (fun _ => sendCommand) (answered true) (by decide) 0 ⟨by decide +kernel,.inl (by decide +kernel)⟩
    exact absurd sent (by decide +kernel)
  · intro all
    have sent := all (fun _ => identify) (answered false) (by decide) 0 rfl ⟨by decide +kernel,.inl (by decide +kernel)⟩
    exact absurd sent (by decide +kernel)

-- With its attributes the other one is sent.
example : ((machine fun _ => identify).trace {} (answered true)).countP (isFinish 0) = 1 := by decide +kernel

end CommandExecutor
end UserAuth
