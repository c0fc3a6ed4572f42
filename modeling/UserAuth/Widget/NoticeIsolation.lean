import UserAuth.Widget.WidgetClient

namespace UserAuth
open Std WidgetSession

namespace WidgetClient
section Handling
variable {client alone : WidgetClient} {notice : ClientNotice} {contextId : UInt64} {type : Int32} {node : Nat}
  {types : List AuthType}

theorem released_injective (same : released node xs = released node ys) : xs = ys := by
  cases xs with
  | nil =>
    cases ys with
    | nil => rfl
    | cons => cases same
  | cons =>
    cases ys with
    | nil => cases same
    | cons =>
      cases same
      rfl

-- With the same types a client that has this session alone makes the same calls,
-- unless the session is not current here or its loaded list is not its own.
theorem processNotice_same_iff (found : client.scheduleMap[notice.widgetContextId]? = some node)
    (registered : alone.scheduleMap[notice.widgetContextId]? = some node)
    (current : alone.widgetContextId = notice.widgetContextId) (authTypeList : List AuthType) :
    (client.processNotice notice authTypeList).2 = (alone.processNotice notice authTypeList).2 ↔
      (notice.event = .NOTICE_EVENT_AUTH_WIDGET_LOADED → client.widgetContextId = notice.widgetContextId) ∧
        (notice.event = .NOTICE_EVENT_PROCESS_TERMINATE →
          client.releasing notice.widgetContextId = alone.releasing notice.widgetContextId) := by
  unfold processNotice
  rw [found,registered]
  cases event : notice.event with
  | NOTICE_EVENT_AUTH_WIDGET_LOADED =>
    dsimp only
    rw [current,if_neg (not_not.mpr rfl)]
    by_cases here : client.widgetContextId = notice.widgetContextId
    · rw [if_neg (not_not.mpr here.symm)]
      exact iff_of_true rfl ⟨fun _ => here,nofun⟩
    · rw [if_pos (Ne.symm here)]
      exact iff_of_false nofun fun agrees => here (agrees.1 rfl)
  | NOTICE_EVENT_PROCESS_TERMINATE =>
    dsimp only
    rw [clearSchedule_calls,clearSchedule_calls,found,registered]
    dsimp only
    rw [List.append_cancel_right_eq]
    constructor
    · intro same
      exact ⟨nofun,fun _ => released_injective same⟩
    · intro agrees
      rw [agrees.2 rfl]
  | _ => exact iff_of_true rfl ⟨nofun,nofun⟩

theorem getAuthTypeList_value (interpreted : client.getAuthTypeList notice = some types) :
    types = notice.authTypeList ∨ (types = [AuthType.ALL] ∧ notice.event = .NOTICE_EVENT_CANCEL_AUTH) := by
  unfold getAuthTypeList at interpreted
  split at interpreted
  · cases interpreted
  · split at interpreted
    · cases interpreted
    · split at interpreted
      · rename_i all
        split at interpreted
        · cases interpreted
        · exact .inl ((Option.some.inj interpreted).symm.trans all.symm)
      · split at interpreted
        · rename_i cancels
          exact .inr ⟨(Option.some.inj interpreted).symm,cancels.2⟩
        · exact .inl (Option.some.inj interpreted).symm

-- Two readings of a notice that differ cancel all types here and some there.
theorem cancelled_apart (found : client.scheduleMap[notice.widgetContextId]? = some node)
    (registered : alone.scheduleMap[notice.widgetContextId]? = some node)
    (here : client.getAuthTypeList notice = some xs) (there : alone.getAuthTypeList notice = some ys)
    (differ : xs ≠ ys) : (client.processNotice notice xs).2 ≠ (alone.processNotice notice ys).2 := by
  have cancel : notice.event = .NOTICE_EVENT_CANCEL_AUTH ∧
      ((xs = [AuthType.ALL] ∧ ys ≠ [AuthType.ALL]) ∨ (xs ≠ [AuthType.ALL] ∧ ys = [AuthType.ALL])) := by
    obtain plain | ⟨all,event⟩ := getAuthTypeList_value here
    · obtain other | ⟨all,event⟩ := getAuthTypeList_value there
      · exact absurd (plain.trans other.symm) differ
      · exact ⟨event,.inr ⟨all ▸ differ,all⟩⟩
    · exact ⟨event,.inl ⟨all,fun same => differ (all.trans same.symm)⟩⟩
  unfold processNotice
  rw [found,registered,cancel.1]
  obtain ⟨all,some⟩ | ⟨some,all⟩ := cancel.2
  · simp [all,some]
  · simp [all,some]

-- A client that serves no other session.
def Lone (contextId : UInt64) (client : WidgetClient) : Prop :=
  match client.scheduleMap[contextId]? with
  | none => client.schedule = none
  | some _ => client.schedule.isSome = true ∧ client.widgetContextId = contextId

-- No session's list makes such a notice valid.
def Unreadable (notice : ClientNotice) : Prop :=
  notice.authTypeList = [] ∨ (notice.authTypeList = [AuthType.ALL] ∧
    notice.event ≠ .NOTICE_EVENT_CANCEL_AUTH ∧ notice.event ≠ .NOTICE_EVENT_PROCESS_TERMINATE)

def NamesAll (client : WidgetClient) (notice : ClientNotice) : Prop :=
  notice.authTypeList.length = client.authTypeList.length

-- The fields of the session registered last say about a notice what the session's
-- own would: whether there are types, whether the notice names all of them, and
-- for two events which session is current and what it has loaded.
def Agrees (contextId : UInt64) (client alone : WidgetClient) (type : Int32) (notice : ClientNotice) : Prop :=
  Admits type notice → match client.scheduleMap[contextId]? with
    | none => client.schedule = none
    | some _ => client.schedule.isSome = true ∧ (Unreadable notice ∨
      ((client.authTypeList = [] ↔ alone.authTypeList = []) ∧ (client.authTypeList ≠ [] →
        (notice.event = .NOTICE_EVENT_CANCEL_AUTH → notice.authTypeList ≠ [AuthType.ALL] →
          (client.NamesAll notice ↔ alone.NamesAll notice)) ∧
        (notice.event = .NOTICE_EVENT_AUTH_WIDGET_LOADED → client.widgetContextId = contextId) ∧
        (notice.event = .NOTICE_EVENT_PROCESS_TERMINATE →
          client.releasing contextId = alone.releasing contextId))))

theorem getAuthTypeList_none_iff (client : WidgetClient) (notice : ClientNotice) :
    client.getAuthTypeList notice = none ↔ client.authTypeList = [] ∨ Unreadable notice := by
  unfold getAuthTypeList Unreadable
  simp only [List.isEmpty_iff]
  split
  · rename_i bare
    exact iff_of_true rfl (.inl bare)
  · rename_i own
    rw [or_iff_right own]
    split
    · rename_i unnamed
      exact iff_of_true rfl (.inl unnamed)
    · rename_i some
      rw [or_iff_right some]
      split
      · rename_i all
        rw [and_iff_right all]
        split
        · rename_i other
          exact iff_of_true rfl other
        · rename_i covered
          exact iff_of_false nofun covered
      · rename_i single
        split <;> exact iff_of_false nofun fun all => single all.1

-- The own list's length is all that a valid notice is read with.
theorem getAuthTypeList_same_iff (readable : ¬Unreadable notice) (mine : client.authTypeList ≠ [])
    (theirs : alone.authTypeList ≠ []) :
    client.getAuthTypeList notice = alone.getAuthTypeList notice ↔
      (notice.event = .NOTICE_EVENT_CANCEL_AUTH → notice.authTypeList ≠ [AuthType.ALL] →
        (client.NamesAll notice ↔ alone.NamesAll notice)) := by
  have named : notice.authTypeList ≠ [] := fun bare => readable (.inl bare)
  unfold getAuthTypeList NamesAll
  simp only [List.isEmpty_iff]
  rw [if_neg mine,if_neg theirs,if_neg named,if_neg named]
  by_cases all : notice.authTypeList = [AuthType.ALL]
  · rw [if_pos all,if_pos all]
    exact iff_of_true rfl fun _ single => absurd all single
  · rw [if_neg all,if_neg all]
    by_cases cancels : notice.event = .NOTICE_EVENT_CANCEL_AUTH
    · rw [imp_iff_right cancels,imp_iff_right all]
      simp only [cancels,and_true]
      split <;> rename_i whole <;> split <;> rename_i other
      · exact iff_of_true rfl (iff_of_true whole other)
      · exact iff_of_false (fun same => all (Option.some.inj same).symm) fun same => other (same.mp whole)
      · exact iff_of_false (fun same => all (Option.some.inj same)) fun same => whole (same.mpr other)
      · exact iff_of_true rfl (iff_of_false whole other)
    · rw [if_neg fun both => cancels both.2,if_neg fun both => cancels both.2]
      exact iff_of_true rfl fun cancel => absurd cancel cancels

theorem reading_iff (client alone : WidgetClient) (notice : ClientNotice) (handled : Prop) :
    (client.getAuthTypeList notice = alone.getAuthTypeList notice ∧
        ((client.getAuthTypeList notice).isSome = true → handled)) ↔
      Unreadable notice ∨ ((client.authTypeList = [] ↔ alone.authTypeList = []) ∧ (client.authTypeList ≠ [] →
        (notice.event = .NOTICE_EVENT_CANCEL_AUTH → notice.authTypeList ≠ [AuthType.ALL] →
          (client.NamesAll notice ↔ alone.NamesAll notice)) ∧ handled)) := by
  by_cases unreadable : Unreadable notice
  · have mine := (getAuthTypeList_none_iff client notice).mpr (.inr unreadable)
    have theirs := (getAuthTypeList_none_iff alone notice).mpr (.inr unreadable)
    rw [mine,theirs]
    exact iff_of_true ⟨rfl,nofun⟩ (.inl unreadable)
  · rw [or_iff_right unreadable]
    have reads : ∀ other : WidgetClient, other.getAuthTypeList notice = none ↔ other.authTypeList = [] := by
      intro other
      rw [getAuthTypeList_none_iff,or_iff_left unreadable]
    by_cases mine : client.authTypeList = []
    · rw [(reads client).mpr mine,eq_comm,reads alone]
      constructor
      · intro agrees
        exact ⟨iff_of_true mine agrees.1,fun own => absurd mine own⟩
      · intro agrees
        exact ⟨agrees.1.mp mine,nofun⟩
    · have found : (client.getAuthTypeList notice).isSome = true :=
        Option.isSome_iff_ne_none.mpr fun none => mine ((reads client).mp none)
      rw [imp_iff_right found,imp_iff_right mine]
      by_cases theirs : alone.authTypeList = []
      · refine iff_of_false ?_ fun agrees => mine (agrees.1.mpr theirs)
        intro agrees
        exact mine ((reads client).mp (agrees.1.trans ((reads alone).mpr theirs)))
      · rw [getAuthTypeList_same_iff unreadable mine theirs,and_iff_right (iff_of_false mine theirs)]

theorem codes_apart {code other : ResultCode} (differ : code ≠ other) (calls more : Calls) :
    (code,calls) ≠ (other,more) := fun same => differ (Prod.mk.inj same).1

theorem general_ne_invalid : ResultCode.GENERAL_ERROR ≠ ResultCode.INVALID_PARAMETERS := by decide
theorem general_ne_success : ResultCode.GENERAL_ERROR ≠ ResultCode.SUCCESS := by decide
theorem invalid_ne_success : ResultCode.INVALID_PARAMETERS ≠ ResultCode.SUCCESS := by decide

-- A client with a current session never answers as one without.
theorem idle_apart (admits : Admits type notice) (idle : client.schedule = none)
    (busy : alone.schedule.isSome = true) :
    (client.onNotice type (some notice)).2 ≠ (alone.onNotice type (some notice)).2 := by
  have current : ¬alone.schedule.isNone = true := by
    simpa [Option.isSome_iff_ne_none] using busy
  rw [onNotice_admitted alone admits,if_neg current,onNotice_admitted client admits,
    if_pos (Option.isNone_iff_eq_none.mpr idle)]
  cases alone.getAuthTypeList notice with
  | none => exact codes_apart general_ne_invalid _ _
  | some types => exact codes_apart general_ne_success _ _

theorem handled_unregistered (admits : Admits type notice) (idle : alone.schedule = none) :
    (client.onNotice type (some notice)).2 = (alone.onNotice type (some notice)).2 ↔ client.schedule = none := by
  cases current : client.schedule with
  | none =>
    have both : ∀ other : WidgetClient, other.schedule = none →
        (other.onNotice type (some notice)).2 = (ResultCode.GENERAL_ERROR,[]) := by
      intro other none
      rw [onNotice_admitted other admits,if_pos (Option.isNone_iff_eq_none.mpr none)]
    exact iff_of_true ((both client current).trans (both alone idle).symm) rfl
  | some node =>
    have busy : client.schedule.isSome = true := by
      rw [current]
      rfl
    exact iff_of_false (fun same => idle_apart admits idle busy same.symm) nofun

theorem handled_registered (admits : Admits type notice)
    (found : client.scheduleMap[notice.widgetContextId]? = some node)
    (registered : alone.scheduleMap[notice.widgetContextId]? = some node)
    (current : alone.widgetContextId = notice.widgetContextId) (busy : client.schedule.isSome = true)
    (own : alone.schedule.isSome = true) :
    (client.onNotice type (some notice)).2 = (alone.onNotice type (some notice)).2 ↔
      client.getAuthTypeList notice = alone.getAuthTypeList notice ∧
        ((client.getAuthTypeList notice).isSome = true →
          (notice.event = .NOTICE_EVENT_AUTH_WIDGET_LOADED → client.widgetContextId = notice.widgetContextId) ∧
            (notice.event = .NOTICE_EVENT_PROCESS_TERMINATE →
              client.releasing notice.widgetContextId = alone.releasing notice.widgetContextId)) := by
  have here : ¬client.schedule.isNone = true := by
    simpa [Option.isSome_iff_ne_none] using busy
  have there : ¬alone.schedule.isNone = true := by
    simpa [Option.isSome_iff_ne_none] using own
  rw [onNotice_admitted client admits,if_neg here,onNotice_admitted alone admits,if_neg there]
  cases mine : client.getAuthTypeList notice with
  | none =>
    cases theirs : alone.getAuthTypeList notice with
    | none => exact iff_of_true rfl ⟨rfl,nofun⟩
    | some ys => exact iff_of_false (codes_apart invalid_ne_success _ _) nofun
  | some xs =>
    cases theirs : alone.getAuthTypeList notice with
    | none => exact iff_of_false (codes_apart invalid_ne_success.symm _ _) nofun
    | some ys =>
      by_cases equal : xs = ys
      · subst equal
        have calls := processNotice_same_iff found registered current xs
        constructor
        · intro handled
          exact ⟨rfl,fun _ => calls.mp (Prod.mk.inj handled).2⟩
        · intro agrees
          exact Prod.ext rfl (calls.mpr (agrees.2 rfl))
      · have apart := cancelled_apart found registered mine theirs equal
        exact iff_of_false (fun handled => apart (Prod.mk.inj handled).2)
          fun agrees => equal (Option.some.inj agrees.1)

theorem handled_iff (same : client.scheduleMap[contextId]? = alone.scheduleMap[contextId]?)
    (lone : Lone contextId alone) (named : notice.widgetContextId = contextId) :
    (client.onNotice type (some notice)).2 = (alone.onNotice type (some notice)).2 ↔
      Agrees contextId client alone type notice := by
  subst named
  by_cases admits : Admits type notice
  · unfold Agrees
    rw [imp_iff_right admits]
    unfold Lone at lone
    cases registered : alone.scheduleMap[notice.widgetContextId]? with
    | none =>
      rw [registered] at lone same
      rw [same]
      exact handled_unregistered admits lone
    | some node =>
      rw [registered] at lone same
      rw [same]
      dsimp only at lone ⊢
      cases busy : client.schedule.isSome with
      | true =>
        rw [and_iff_right rfl]
        rw [handled_registered admits same registered lone.2 busy lone.1]
        exact reading_iff client alone notice _
      | false =>
        refine iff_of_false ?_ nofun
        exact idle_apart admits (Option.not_isSome_iff_eq_none.mp (by simp [busy])) lone.1
  · rw [onNotice_refused client admits,onNotice_refused alone admits]
    exact iff_of_true rfl fun admitted => absurd admitted admits

theorem clearSchedule_lone (lone : Lone contextId client) : Lone contextId (client.clearSchedule contextId).1 := by
  unfold Lone clearSchedule at *
  cases found : client.scheduleMap[contextId]? with
  | none =>
    rw [found] at lone
    dsimp only
    rwa [found]
  | some node =>
    rw [found] at lone
    dsimp only at lone ⊢
    rw [if_pos lone.2.symm]
    dsimp only
    rw [ExtTreeMap.getElem?_erase_self]
    rfl

theorem setWidgetSchedule_lone (lone : Lone contextId client) (schedule : Option Nat) :
    Lone contextId (client.setWidgetSchedule contextId schedule) := by
  cases schedule with
  | none => exact lone
  | some node =>
    unfold Lone setWidgetSchedule
    dsimp only
    have present : (client.scheduleMap.insertIfNew contextId node)[contextId]?.isSome = true :=
      ExtTreeMap.isSome_getElem?_iff_mem.mpr ExtTreeMap.mem_insertIfNew_self
    cases found : (client.scheduleMap.insertIfNew contextId node)[contextId]? with
    | none =>
      rw [found] at present
      cases present
    | some _ => exact ⟨rfl,rfl⟩

theorem processNotice_lone (lone : Lone notice.widgetContextId client) (types : List AuthType) :
    Lone notice.widgetContextId (client.processNotice notice types).1 := by
  unfold processNotice
  cases client.scheduleMap[notice.widgetContextId]? with
  | none => exact lone
  | some node =>
    cases event : notice.event with
    | NOTICE_EVENT_PROCESS_TERMINATE => exact clearSchedule_lone lone
    | NOTICE_EVENT_AUTH_WIDGET_LOADED =>
      dsimp only
      split <;> exact lone
    | NOTICE_EVENT_AUTH_WIDGET_RELEASED =>
      dsimp only
      split <;> exact lone
    | _ => exact lone

theorem initial_lone (contextId : UInt64) : Lone contextId {} := by
  unfold Lone
  rw [ExtTreeMap.getElem?_empty]

theorem onNotice_lone (lone : Lone notice.widgetContextId client) (type : Int32) :
    Lone notice.widgetContextId (client.onNotice type (some notice)).1 := by
  by_cases admits : Admits type notice
  · rw [onNotice_admitted client admits]
    split
    · exact lone
    · split
      · exact lone
      · exact processNotice_lone lone _
  · rw [onNotice_refused client admits]
    exact lone

end Handling
end WidgetClient

-- The client, and beside it one that gets the inputs of one session alone.
structure SessionTwin where
  client : WidgetClient := {}
  alone : WidgetClient := {}

namespace SessionTwin
open WidgetClient

def step (contextId : UInt64) (s : SessionTwin) (input : ClientInput) : SessionTwin × List Handled :=
  (⟨(s.client.step input).1,if input.concerns contextId then (s.alone.step input).1 else s.alone⟩,[])

def machine (contextId : UInt64) : Mealy SessionTwin ClientInput Handled := ⟨step contextId⟩

-- The session's notice is handled here as it is there, by calls on its own schedule.
def Same (contextId : UInt64) (s : SessionTwin) : ClientInput → Prop
  | .onNotice type (some notice) => notice.widgetContextId = contextId →
      (s.client.onNotice type (some notice)).2 = (s.alone.onNotice type (some notice)).2 ∧
        ∀ call ∈ (s.client.onNotice type (some notice)).2.2, s.client.scheduleMap[contextId]? = some call.1
  | _ => True

def Agreeing (contextId : UInt64) (s : SessionTwin) : ClientInput → Prop
  | .onNotice type (some notice) =>
      notice.widgetContextId = contextId → Agrees contextId s.client s.alone type notice
  | _ => True

structure Paired (contextId : UInt64) (s : SessionTwin) : Prop where
  maps : s.client.scheduleMap[contextId]? = s.alone.scheduleMap[contextId]?
  lone : Lone contextId s.alone

section Steps
variable {contextId : UInt64} {s : SessionTwin}

theorem same_iff (paired : Paired contextId s) (input : ClientInput) :
    Same contextId s input ↔ Agreeing contextId s input := by
  cases input with
  | onNotice type eventData =>
    cases eventData with
    | none => exact Iff.rfl
    | some notice =>
      refine forall_congr' fun named => ?_
      rw [← handled_iff paired.maps paired.lone named]
      refine and_iff_left ?_
      subst named
      exact onNotice_calls s.client type notice
  | setAuthTypeList | setWidgetSchedule | clearSchedule => exact Iff.rfl

theorem notice_paired (paired : Paired contextId s) (type : Int32) (notice : ClientNotice)
    (same : Same contextId s (.onNotice type (some notice))) :
    Paired contextId (step contextId s (.onNotice type (some notice))).1 := by
  unfold step
  by_cases named : notice.widgetContextId = contextId
  · have concerns : (ClientInput.onNotice type (some notice)).concerns contextId = true := beq_iff_eq.mpr named
    rw [if_pos concerns]
    have handled := (same named).1
    subst named
    refine ⟨?_,onNotice_lone paired.lone type⟩
    show (s.client.onNotice type (some notice)).1.scheduleMap[_]? =
      (s.alone.onNotice type (some notice)).1.scheduleMap[_]?
    rw [onNotice_own,onNotice_own,handled,paired.maps]
  · have concerns : ¬(ClientInput.onNotice type (some notice)).concerns contextId = true :=
      fun same => named (beq_iff_eq.mp same)
    rw [if_neg concerns]
    exact ⟨(onNotice_other s.client type named).trans paired.maps,paired.lone⟩

theorem clear_paired (paired : Paired contextId s) (cleared : UInt64) :
    Paired contextId (step contextId s (.clearSchedule cleared)).1 := by
  unfold step
  by_cases named : cleared = contextId
  · subst named
    have concerns : (ClientInput.clearSchedule cleared).concerns cleared = true := beq_self_eq_true cleared
    rw [if_pos concerns]
    exact ⟨(clearSchedule_own s.client cleared).trans (clearSchedule_own s.alone cleared).symm,
      clearSchedule_lone paired.lone⟩
  · have concerns : ¬(ClientInput.clearSchedule cleared).concerns contextId = true :=
      fun same => named (beq_iff_eq.mp same)
    rw [if_neg concerns]
    exact ⟨(clearSchedule_other s.client named).trans paired.maps,paired.lone⟩

theorem register_paired (paired : Paired contextId s) (registered : UInt64) (schedule : Option Nat) :
    Paired contextId (step contextId s (.setWidgetSchedule registered schedule)).1 := by
  unfold step
  by_cases named : registered = contextId
  · subst named
    have concerns : (ClientInput.setWidgetSchedule registered schedule).concerns registered = true :=
      beq_self_eq_true registered
    rw [if_pos concerns]
    exact ⟨setWidgetSchedule_own paired.maps schedule,setWidgetSchedule_lone paired.lone schedule⟩
  · have concerns : ¬(ClientInput.setWidgetSchedule registered schedule).concerns contextId = true :=
      fun same => named (beq_iff_eq.mp same)
    rw [if_neg concerns]
    exact ⟨(setWidgetSchedule_other s.client named schedule).trans paired.maps,paired.lone⟩

theorem step_paired (paired : Paired contextId s) (input : ClientInput) (same : Same contextId s input) :
    Paired contextId (step contextId s input).1 := by
  cases input with
  | setAuthTypeList owner authTypeList =>
    unfold step
    split <;> exact ⟨paired.maps,paired.lone⟩
  | setWidgetSchedule registered schedule => exact register_paired paired registered schedule
  | clearSchedule cleared => exact clear_paired paired cleared
  | onNotice type eventData =>
    cases eventData with
    | none =>
      have unchanged : (s.client.onNotice type none).1 = s.client := by
        unfold onNotice
        split <;> rfl
      unfold step
      rw [if_neg (by simp [ClientInput.concerns])]
      show Paired contextId ⟨(s.client.onNotice type none).1,s.alone⟩
      rw [unchanged]
      exact paired
    | some notice => exact notice_paired paired type notice same

end Steps

-- The two clients are the run and the run without the other sessions.
theorem after_twin (contextId : UInt64) (s : SessionTwin) (inputs : List ClientInput) :
    (machine contextId).after s inputs = ⟨WidgetClient.machine.after s.client inputs,
      WidgetClient.machine.after s.alone (inputs.filter (·.concerns contextId))⟩ := by
  induction inputs generalizing s with
  | nil => rfl
  | cons input rest ih =>
    rw [Mealy.after_cons,ih,List.filter_cons]
    show _ = SessionTwin.mk _ _
    cases concerned : input.concerns contextId with
    | true => simp [machine,step,concerned,WidgetClient.machine]
    | false => simp [machine,step,concerned,WidgetClient.machine]

theorem run_same_iff (contextId : UInt64) (inputs : List ClientInput) :
    (machine contextId).Meets (Same contextId) {} inputs ↔ (machine contextId).Meets (Agreeing contextId) {} inputs :=
  Mealy.meets_iff (Q:=Paired contextId) (fun _ input paired => same_iff paired input)
    (fun _ input paired same => step_paired paired input same) ⟨rfl,initial_lone contextId⟩ inputs

end SessionTwin

namespace WidgetClient

-- Every notice of the session comes to the same code and the same calls, all on
-- its own schedule, as in the run without the other sessions.
def Isolated (contextId : UInt64) (inputs : List ClientInput) : Prop :=
  ∀ before type notice rest, inputs = before ++ .onNotice type (some notice) :: rest →
    notice.widgetContextId = contextId →
      let client := machine.after {} before
      let alone := machine.after {} (before.filter (·.concerns contextId))
      (client.onNotice type (some notice)).2 = (alone.onNotice type (some notice)).2 ∧
        ∀ call ∈ (client.onNotice type (some notice)).2.2, client.scheduleMap[contextId]? = some call.1

def Unaffected (contextId : UInt64) (inputs : List ClientInput) : Prop :=
  ∀ before type notice rest, inputs = before ++ .onNotice type (some notice) :: rest →
    notice.widgetContextId = contextId →
      Agrees contextId (machine.after {} before) (machine.after {} (before.filter (·.concerns contextId))) type notice

theorem notices_isolated_iff (contextId : UInt64) (inputs : List ClientInput) :
    Isolated contextId inputs ↔ Unaffected contextId inputs := by
  have runs := SessionTwin.run_same_iff contextId inputs
  rw [Mealy.meets_iff_steps,Mealy.meets_iff_steps] at runs
  simp only [SessionTwin.after_twin] at runs
  constructor
  · intro isolated before type notice rest split
    refine runs.mp ?_ before (.onNotice type (some notice)) rest split
    intro before input rest split
    cases input with
    | onNotice type eventData =>
      cases eventData with
      | none => trivial
      | some notice => exact isolated before type notice rest split
    | setAuthTypeList | setWidgetSchedule | clearSchedule => trivial
  · intro unaffected before type notice rest split
    refine runs.mpr ?_ before (.onNotice type (some notice)) rest split
    intro before input rest split
    cases input with
    | onNotice type eventData =>
      cases eventData with
      | none => trivial
      | some notice => exact unaffected before type notice rest split
    | setAuthTypeList | setWidgetSchedule | clearSchedule => trivial

-- The second session is for one type, and the first one's widget cancels one of its two.
def outnumbered : List ClientInput :=
  [.setAuthTypeList 1 [AuthType.PIN,AuthType.FACE],.setWidgetSchedule 1 (some 10),
    .setAuthTypeList 2 [AuthType.PIN],.setWidgetSchedule 2 (some 20)]

def cancelFace : ClientNotice :=
  {event:=.NOTICE_EVENT_CANCEL_AUTH,widgetContextId:=1,authTypeList:=[AuthType.FACE]}

theorem outnumbered_cancelled : ¬∀ contextId inputs, Isolated contextId inputs := by
  intro all
  have same := (all 1 (outnumbered ++ [.onNotice WIDGET_NOTICE (some cancelFace)]) outnumbered WIDGET_NOTICE
    cancelFace [] rfl rfl).1
  exact absurd same (by decide)

end WidgetClient
end UserAuth
