import UserAuth.Engine.LoadMode
import UserAuth.Lib.Watched

namespace UserAuth
open Watched

namespace OneShotTimer
variable {t : OneShotTimer}

-- A timer that is known runs, or its callback is on its way.
def Kept (t : OneShotTimer) : Prop := ∀ timerId, t.timerId = some timerId → timerId ∈ t.registered ∨ timerId ∈ t.due

theorem kept_register (t : OneShotTimer) : t.register.Kept := by
  intro timerId same
  cases same
  exact .inl (List.mem_append_right _ List.mem_cons_self)

@[simp] theorem unregister_timerId (t : OneShotTimer) : t.unregister.timerId = none := by
  unfold unregister
  split
  · assumption
  · rfl

theorem kept_unregister (t : OneShotTimer) : t.unregister.Kept := by
  intro timerId same
  simp at same

@[simp] theorem expire_timerId (t : OneShotTimer) (timerId : Nat) : (t.expire timerId).timerId = t.timerId := by
  unfold expire
  split <;> rfl

theorem Kept.expire (kept : t.Kept) (expired : Nat) : (t.expire expired).Kept := by
  intro timerId same
  rw [expire_timerId] at same
  have found := kept timerId same
  unfold OneShotTimer.expire
  split
  · by_cases here : timerId = expired
    · exact .inr (List.mem_append_right _ (here ▸ List.mem_cons_self))
    · exact found.imp (List.mem_erase_of_ne here).mpr (List.mem_append_left _)
  · exact found

theorem Kept.armed (kept : t.Kept) (waits : t.timerId ≠ none) (quiet : t.due = []) : t.Armed := by
  obtain ⟨timerId,same⟩ := Option.ne_none_iff_exists'.mp waits
  refine ⟨timerId,(kept timerId same).resolve_right ?_,same⟩
  simp [quiet]

end OneShotTimer

namespace ServiceUnloadManager
variable {s : ServiceUnloadManager}

theorem pin_kept (kept : s.timer.Kept) (isPinEnrolled : Bool) : (s.onIsPinEnrolledChange isPinEnrolled).timer.Kept := by
  unfold onIsPinEnrolledChange
  split
  · exact kept
  dsimp only
  split
  · exact OneShotTimer.kept_unregister _
  split
  · exact OneShotTimer.kept_register _
  · exact kept

theorem start_kept (kept : s.timer.Kept) (startSa : Bool) : (s.onStartSaChange startSa).timer.Kept := by
  unfold onStartSaChange
  split
  · exact kept
  dsimp only
  split
  · exact kept
  · exact OneShotTimer.kept_register _

theorem pin_isPinEnrolled (s : ServiceUnloadManager) (isPinEnrolled : Bool) :
    (s.onIsPinEnrolledChange isPinEnrolled).isPinEnrolled = isPinEnrolled := by
  unfold onIsPinEnrolledChange
  split
  · assumption
  dsimp only
  split
  · rfl
  split <;> rfl

theorem pin_checked (s : ServiceUnloadManager) (isPinEnrolled : Bool) :
    (s.onIsPinEnrolledChange isPinEnrolled).isCredentialChecked = s.isCredentialChecked := by
  unfold onIsPinEnrolledChange
  split
  · rfl
  dsimp only
  split
  · rfl
  split <;> rfl

theorem start_fields (s : ServiceUnloadManager) (startSa : Bool) :
    (s.onStartSaChange startSa).isPinEnrolled = s.isPinEnrolled ∧
      (s.onStartSaChange startSa).isCredentialChecked = s.isCredentialChecked ∧
      (s.timer.timerId.isSome → (s.onStartSaChange startSa).timer.timerId.isSome) := by
  unfold onStartSaChange
  split
  · exact ⟨rfl,rfl,id⟩
  dsimp only
  split
  · exact ⟨rfl,rfl,id⟩
  · exact ⟨rfl,rfl,fun _ => rfl⟩

end ServiceUnloadManager

namespace EngineLoadManager
variable {s : EngineLoadManager}

-- An engine that is not as it should be is tried again.
structure Retries (s : EngineLoadManager) : Prop where
  kept : s.timer.Kept
  waits : s.isEngineRunning ≠ !s.isSaStopping → s.timer.timerId ≠ none

theorem settled (kept : s.timer.Kept) : s.settleTimer.Retries ∧ s.settleTimer.isSaStopping = s.isSaStopping := by
  unfold settleTimer
  split
  · rename_i same
    exact ⟨⟨OneShotTimer.kept_unregister _,fun differs => absurd same differs⟩,rfl⟩
  split
  · rename_i known
    exact ⟨⟨kept,fun _ => Option.isSome_iff_ne_none.mp known⟩,rfl⟩
  · exact ⟨⟨OneShotTimer.kept_register _,fun _ => by simp [OneShotTimer.register]⟩,rfl⟩

theorem process_retries (kept : s.timer.Kept) (answer : Bool) :
    (s.processServiceStatus answer).1.Retries ∧ (s.processServiceStatus answer).1.isSaStopping = s.isSaStopping := by
  unfold processServiceStatus
  dsimp only
  split
  · exact settled kept
  split
  · exact settled (s:={s with isEngineRunning:=!s.isSaStopping}) kept
  · exact settled kept

theorem process_quiet (s : EngineLoadManager) (answer : Bool) :
    ∀ event ∈ (s.processServiceStatus answer).2, event = .load answer ∨ event = .unload answer := by
  unfold processServiceStatus
  dsimp only
  split
  · exact nofun
  · intro event member
    cases List.mem_singleton.mp member
    split
    · exact .inl rfl
    · exact .inr rfl

end EngineLoadManager

namespace LoadMode
variable {s : LoadMode} {h : List LoadModeEvent}

def valuesOf (key : WatchedParam) (notices : List (WatchedParam × Bool)) : List Bool :=
  (notices.filter (·.1 = key)).map (·.2)

theorem valuesOf_told (key : WatchedParam) (notices : List (WatchedParam × Bool)) (other : WatchedParam) (value : Bool) :
    valuesOf key (notices ++ [(other,value)]) = valuesOf key notices ++ if other = key then [value] else [] := by
  by_cases same : other = key <;> simp [valuesOf,same]

theorem valuesOf_cons (key : WatchedParam) (notices : List (WatchedParam × Bool)) (other : WatchedParam) (value : Bool) :
    valuesOf key ((other,value) :: notices) = if other = key then value :: valuesOf key notices
      else valuesOf key notices := by
  by_cases same : other = key <;> simp [valuesOf,same]

-- Whether, with the notices that are on their way, the manager ends with a PIN
-- enrolled or with its timer set. While a PIN is enrolled a timer counts for nothing.
def covers : Bool → Bool → Bool → List (WatchedParam × Bool) → Bool
  | _,enrolled,armed,[] => enrolled || armed
  | checked,enrolled,armed,(.isPinEnrolled,value) :: rest =>
    if value = enrolled then covers checked enrolled armed rest
    else if value then covers checked true false rest
    else covers checked false (checked || armed) rest
  | _,enrolled,armed,(.isCredentialChecked,value) :: rest => covers value enrolled armed rest
  | checked,enrolled,armed,_ :: rest => covers checked enrolled armed rest

section Covers
variable {checked enrolled armed : Bool} {notices : List (WatchedParam × Bool)}

theorem covers_mono (more : armed = true → later = true) (covered : covers checked enrolled armed notices = true) :
    covers checked enrolled later notices = true := by
  induction notices generalizing checked enrolled armed later with
  | nil =>
    simp only [covers,Bool.or_eq_true] at covered ⊢
    exact covered.imp_right more
  | cons notice rest ih =>
    obtain ⟨key,value⟩ := notice
    cases key with
    | isPinEnrolled =>
      simp only [covers] at covered ⊢
      split at covered
      · rename_i same
        rw [if_pos same]
        exact ih more covered
      · rename_i differs
        rw [if_neg differs]
        split at covered
        · rename_i now
          rw [if_pos now]
          exact covered
        · rename_i now
          rw [if_neg now]
          refine ih (fun either => ?_) covered
          exact Bool.or_eq_true_iff.mpr ((Bool.or_eq_true_iff.mp either).imp_right more)
    | isCredentialChecked => exact ih more covered
    | startSa => exact ih more covered
    | stopSa => exact ih more covered

theorem covers_enrolled (checked enrolled armed : Bool) (notices : List (WatchedParam × Bool)) :
    covers checked enrolled armed (notices ++ [(.isPinEnrolled,true)]) = true := by
  induction notices generalizing checked enrolled armed with
  | nil => cases enrolled <;> simp [covers]
  | cons notice rest ih =>
    obtain ⟨key,value⟩ := notice
    cases key with
    | isPinEnrolled =>
      simp only [List.cons_append,covers]
      split
      · exact ih _ _ _
      split <;> exact ih _ _ _
    | isCredentialChecked => exact ih _ _ _
    | startSa => exact ih _ _ _
    | stopSa => exact ih _ _ _

-- A PIN that goes once credentials are known to be checked sets the timer.
theorem covers_removed (covered : covers checked enrolled armed notices = true)
    (follows : Follows true checked (valuesOf .isCredentialChecked notices)) :
    covers checked enrolled armed (notices ++ [(.isPinEnrolled,false)]) = true := by
  induction notices generalizing checked enrolled armed with
  | nil =>
    have known : checked = true := follows.all_heard
    cases enrolled <;> simp_all [covers]
  | cons notice rest ih =>
    obtain ⟨key,value⟩ := notice
    rw [valuesOf_cons] at follows
    cases key with
    | isPinEnrolled =>
      simp only [List.cons_append,covers] at covered ⊢
      split at covered
      · rename_i same
        rw [if_pos same]
        exact ih covered follows
      · rename_i differs
        rw [if_neg differs]
        split at covered
        · rename_i now
          rw [if_pos now]
          exact ih covered follows
        · rename_i now
          rw [if_neg now]
          exact ih covered follows
    | isCredentialChecked => exact ih covered follows.heard
    | startSa => exact ih covered follows
    | stopSa => exact ih covered follows

theorem covers_other (other : key ≠ .isPinEnrolled) (covered : covers checked enrolled armed notices = true)
    (value : Bool) :
    covers checked enrolled armed (notices ++ [(key,value)]) = true := by
  induction notices generalizing checked enrolled armed with
  | nil => cases key <;> simp_all [covers]
  | cons notice rest ih =>
    obtain ⟨first,told⟩ := notice
    cases first with
    | isPinEnrolled =>
      simp only [List.cons_append,covers] at covered ⊢
      split at covered
      · rename_i same
        rw [if_pos same]
        exact ih covered
      · rename_i differs
        rw [if_neg differs]
        split at covered
        · rename_i now
          rw [if_pos now]
          exact ih covered
        · rename_i now
          rw [if_neg now]
          exact ih covered
    | isCredentialChecked => exact ih covered
    | startSa => exact ih covered
    | stopSa => exact ih covered

-- The last word is that a PIN is enrolled.
theorem covers_follows (follows : Follows true enrolled (valuesOf .isPinEnrolled notices)) (checked armed : Bool) :
    covers checked enrolled armed notices = true := by
  induction notices generalizing checked enrolled armed with
  | nil =>
    have last : enrolled = true := follows.all_heard
    simp [covers,last]
  | cons notice rest ih =>
    obtain ⟨key,value⟩ := notice
    rw [valuesOf_cons] at follows
    cases key with
    | isPinEnrolled =>
      have heard := Follows.heard follows
      simp only [covers]
      split
      · rename_i same
        exact ih (same ▸ heard) checked armed
      split
      · rename_i now
        exact ih (now ▸ heard) checked false
      · rename_i now
        exact ih (Bool.eq_false_iff.mpr now ▸ heard) checked _
    | isCredentialChecked => exact ih follows _ _
    | startSa => exact ih follows _ _
    | stopSa => exact ih follows _ _

-- Nothing that is on its way can take the timer away for good.
theorem covers_armed (positive : ∀ value, (.isCredentialChecked,value) ∈ notices → value = true)
    (either : enrolled = true ∨ armed = true) (kept :
      checked = true ∨ enrolled = false ∧ (.isPinEnrolled,true) ∉ notices) :
    covers checked enrolled armed notices = true := by
  induction notices generalizing checked enrolled armed with
  | nil => simpa [covers] using either
  | cons notice rest ih =>
    obtain ⟨key,value⟩ := notice
    have later : ∀ value, (.isCredentialChecked,value) ∈ rest → value = true := fun value member =>
      positive value (List.mem_cons_of_mem _ member)
    have rested : checked = true ∨ enrolled = false ∧ (.isPinEnrolled,true) ∉ rest :=
      kept.imp_right fun both => ⟨both.1,fun member => both.2 (List.mem_cons_of_mem _ member)⟩
    cases key with
    | isPinEnrolled =>
      simp only [covers]
      split
      · exact ih later either rested
      rename_i differs
      have known : checked = true := by
        refine kept.resolve_right fun both => ?_
        cases value with
        | true => exact both.2 List.mem_cons_self
        | false => exact differs both.1.symm
      split
      · exact ih later (.inl rfl) (.inl known)
      · exact ih later (.inr (by simp [known])) (.inl known)
    | isCredentialChecked =>
      have known : value = true := positive value List.mem_cons_self
      exact ih later either (.inl known)
    | startSa => exact ih later either rested
    | stopSa => exact ih later either rested

end Covers

-- What a manager holds of a parameter is the parameter, but for what it has not heard.
def Mirrors (s : LoadMode) (key : WatchedParam) (copy : Bool) : Prop :=
  s.isSubscribed = true → Follows (s.getParam key) copy (valuesOf key s.notices)

def Stopped (h : List LoadModeEvent) : Prop := ∃ enrolled noticed, .stopSa enrolled noticed ∈ h

-- OnFwkReady has come to the manager too early.
def Early (h : List LoadModeEvent) : Prop := ∃ isStopSa, .onFwkReady isStopSa false ∈ h

def Covered (s : LoadMode) : Prop :=
  covers s.unload.isCredentialChecked s.unload.isPinEnrolled (s.unload.timer.timerId.isSome && !s.unload.isPinEnrolled)
    s.notices = true

structure Decided (s : LoadMode) (h : List LoadModeEvent) : Prop where
  subscribed : s.isSubscribed = true
  checked : s.getParam .isCredentialChecked = true
  settles : Early h ∨ Stopped h ∨ s.Covered

structure Sound (s : LoadMode) (h : List LoadModeEvent) : Prop where
  pin : s.Mirrors .isPinEnrolled s.unload.isPinEnrolled
  checked : s.Mirrors .isCredentialChecked s.unload.isCredentialChecked
  stopping : s.Mirrors .stopSa s.engine.isSaStopping
  positive : ∀ value, (.isCredentialChecked,value) ∈ s.notices → value = true
  early : s.isSubscribed = false → s.unload = {} ∧ s.notices = [] ∧ s.readyCalls = []
  kept : s.unload.timer.Kept
  engineKept : s.engine.timer.Kept
  retries : s.isSubscribed = true → s.engine.Retries
  stops : ∀ enrolled noticed, .stopSa enrolled noticed ∈ h → enrolled = true → noticed = true
  calls : .unloadManager ∈ s.readyCalls → s.getParam .isCredentialChecked = true
  decided : ∀ isStopSa settled, .onFwkReady isStopSa settled ∈ h → s.Decided h

theorem sound_initial (params : WatchedParam → Option Bool) : Sound {params} [] where
  pin := fun subscribed => absurd subscribed Bool.false_ne_true
  checked := fun subscribed => absurd subscribed Bool.false_ne_true
  stopping := fun subscribed => absurd subscribed Bool.false_ne_true
  positive := nofun
  early := fun _ => ⟨rfl,rfl,rfl⟩
  kept := nofun
  engineKept := nofun
  retries := fun subscribed => absurd subscribed Bool.false_ne_true
  stops := nofun
  calls := nofun
  decided := nofun

def Plain (more : List LoadModeEvent) : Prop :=
  ∀ event ∈ more, (∀ enrolled noticed, event ≠ .stopSa enrolled noticed) ∧
    ∀ isStopSa settled, event ≠ .onFwkReady isStopSa settled

theorem Stopped.more (stopped : Stopped h) (more : List LoadModeEvent) : Stopped (h ++ more) := by
  obtain ⟨enrolled,noticed,member⟩ := stopped
  exact ⟨enrolled,noticed,List.mem_append_left _ member⟩

theorem Early.more (early : Early h) (more : List LoadModeEvent) : Early (h ++ more) := by
  obtain ⟨isStopSa,member⟩ := early
  exact ⟨isStopSa,List.mem_append_left _ member⟩

theorem Sound.more {more : List LoadModeEvent} (sound : Sound s h) (plain : Plain more) : Sound s (h ++ more) :=
  {sound with
    stops := fun enrolled noticed member => sound.stops enrolled noticed
      ((List.mem_append.mp member).resolve_right fun new => (plain _ new).1 enrolled noticed rfl)
    decided := by
      intro isStopSa settled member
      have decided := sound.decided isStopSa settled
        ((List.mem_append.mp member).resolve_right fun new => (plain _ new).2 isStopSa settled rfl)
      exact {decided with
        settles := decided.settles.imp (fun early => early.more more) (Or.imp_left fun stopped => stopped.more more)}}

section Params

theorem getParam_set (s : LoadMode) (key : WatchedParam) (value : Bool) (other : WatchedParam) :
    (s.setParameter key value).getParam other = if other = key then value else s.getParam other := by
  unfold getParam setParameter
  by_cases same : other = key
  · subst same
    cases value <;> simp
  · simp [same]

theorem Mirrors.setParameter (mirrors : s.Mirrors key copy) (other : WatchedParam) (value : Bool) :
    (s.setParameter other value).Mirrors key copy := by
  intro subscribed
  have before := mirrors subscribed
  rw [getParam_set]
  have told : (s.setParameter other value).notices = s.notices ++ [(other,value)] := if_pos subscribed
  rw [told,valuesOf_told]
  by_cases same : other = key
  · subst same
    rw [if_pos rfl,if_pos rfl]
    exact follows_told value copy _
  · rw [if_neg same,if_neg (Ne.symm same),List.append_nil]
    exact before

theorem Covered.setParameter (sound : Sound s h) (subscribed : s.isSubscribed = true)
    (checked : s.getParam .isCredentialChecked = true) (covered : s.Covered) (key : WatchedParam) (value : Bool) :
    (s.setParameter key value).Covered := by
  have told : (s.setParameter key value).notices = s.notices ++ [(key,value)] := if_pos subscribed
  unfold Covered at covered ⊢
  rw [told]
  by_cases pin : key = .isPinEnrolled
  · cases value with
    | true => exact pin ▸ covers_enrolled _ _ _ _
    | false =>
      have follows := sound.checked subscribed
      rw [checked] at follows
      exact pin ▸ covers_removed covered follows
  · exact covers_other pin covered value

theorem Sound.setParameter (sound : Sound s h) (key : WatchedParam) (value : Bool)
    (positive : key = .isCredentialChecked → value = true) : Sound (s.setParameter key value) h := by
  have known : s.getParam .isCredentialChecked = true →
    (s.setParameter key value).getParam .isCredentialChecked = true := by
    intro checked
    rw [getParam_set]
    split
    · rename_i same
      exact positive same.symm
    · exact checked
  exact {
    pin := sound.pin.setParameter key value
    checked := sound.checked.setParameter key value
    stopping := sound.stopping.setParameter key value
    positive := by
      intro told member
      simp only [LoadMode.setParameter] at member
      split at member
      · rcases List.mem_append.mp member with old | new
        · exact sound.positive told old
        · cases List.mem_singleton.mp new
          exact positive rfl
      · exact sound.positive told member
    early := by
      intro early
      have quiet : (s.setParameter key value).notices = s.notices := if_neg (Bool.eq_false_iff.mp early)
      exact ⟨(sound.early early).1,quiet.trans (sound.early early).2.1,(sound.early early).2.2⟩
    kept := sound.kept
    engineKept := sound.engineKept
    retries := sound.retries
    stops := sound.stops
    calls := fun member => known (sound.calls member)
    decided := by
      intro isStopSa settled member
      have decided := sound.decided isStopSa settled member
      exact ⟨decided.subscribed,known decided.checked,decided.settles.imp_right (Or.imp_right fun covered =>
        covered.setParameter sound decided.subscribed decided.checked key value)⟩}

theorem Sound.setParam (sound : Sound s h) (key : WatchedParam) (value : Bool)
    (positive : key = .isCredentialChecked → value = true) : Sound (s.setParam key value) h := by
  unfold LoadMode.setParam
  split
  · exact sound
  · exact sound.setParameter key value positive

theorem Sound.refreshIsPinEnrolled (sound : Sound s h) (accounts : PinQueries) :
    Sound (s.refreshIsPinEnrolled accounts) h := by
  unfold LoadMode.refreshIsPinEnrolled
  split
  · exact sound
  · exact sound.setParam _ _ (by simp)

theorem getParam_setParam (s : LoadMode) (key : WatchedParam) (value : Bool) :
    (s.setParam key value).getParam key = value := by
  unfold setParam
  split
  · rename_i same
    cases value <;> simp [getParam,same]
  · rw [getParam_set,if_pos rfl]

theorem setParam_isSubscribed (s : LoadMode) (key : WatchedParam) (value : Bool) :
    (s.setParam key value).isSubscribed = s.isSubscribed := by
  unfold setParam
  split <;> rfl

theorem stop_isSubscribed (s : LoadMode) : s.stop.1.isSubscribed = s.isSubscribed := setParam_isSubscribed s _ _

theorem stop_checked (s : LoadMode) : s.stop.1.getParam .isCredentialChecked = s.getParam .isCredentialChecked := by
  have other (t : LoadMode) (value : Bool) :
      (t.setParameter .stopSa value).getParam .isCredentialChecked = t.getParam .isCredentialChecked :=
    (getParam_set t _ _ _).trans (if_neg (by simp))
  unfold stop setParamTwice setParam
  split
  · exact other _ _
  · exact (other _ _).trans (other _ _)

-- What goes for any history goes for none.
theorem Sound.anew (sound : Sound s h) : Sound s [] := {sound with stops:=nofun,decided:=nofun}

-- Whoever stops the service has read that no PIN is enrolled, or reads late. With
-- that all is done, whatever there was to wait for.
theorem Sound.stop (sound : Sound s [])
    (stops : ∀ enrolled noticed, .stopSa enrolled noticed ∈ h → enrolled = true → noticed = true)
    (ready : ∀ isStopSa settled, .onFwkReady isStopSa settled ∈ h →
      s.isSubscribed = true ∧ s.getParam .isCredentialChecked = true)
    (safe : s.getParam .isPinEnrolled = true → (s.notices.any (·.1 = .isPinEnrolled)) = true) :
    Sound s.stop.1 (h ++ s.stop.2) := by
  have set : Sound s.stop.1 [] := (sound.setParam .stopSa false (by simp)).setParameter .stopSa true (by simp)
  exact {set with
    stops := by
      intro enrolled noticed member
      rcases List.mem_append.mp member with old | new
      · exact stops enrolled noticed old
      · cases List.mem_singleton.mp new
        exact safe
    decided := by
      intro isStopSa settled member
      have known := ready isStopSa settled ((List.mem_append.mp member).resolve_right (by simp [LoadMode.stop]))
      exact ⟨(stop_isSubscribed s).trans known.1,(stop_checked s).trans known.2,
        .inr (.inl ⟨_,_,List.mem_append_right _ List.mem_cons_self⟩)⟩}

theorem Sound.ready (sound : Sound s h) (isStopSa settled : Bool) (member : .onFwkReady isStopSa settled ∈ h) :
    s.isSubscribed = true ∧ s.getParam .isCredentialChecked = true :=
  ⟨(sound.decided isStopSa settled member).subscribed,(sound.decided isStopSa settled member).checked⟩

theorem Sound.onPinAuthServiceStop (sound : Sound s h) :
    Sound s.onPinAuthServiceStop.1 (h ++ s.onPinAuthServiceStop.2) := by
  unfold LoadMode.onPinAuthServiceStop
  split
  · exact (List.append_nil h).symm ▸ sound
  rename_i none
  split
  · exact (List.append_nil h).symm ▸ sound
  · exact sound.anew.stop sound.stops sound.ready fun enrolled => absurd enrolled none

end Params

section Engine

theorem plain_process (engine : EngineLoadManager) (answer : Bool) : Plain (engine.processServiceStatus answer).2 := by
  intro event member
  rcases EngineLoadManager.process_quiet engine answer event member with rfl | rfl
  · exact ⟨by simp,by simp⟩
  · exact ⟨by simp,by simp⟩

theorem Sound.engineStep (sound : Sound s h) (engine : EngineLoadManager) (kept : engine.timer.Kept)
    (stopping : s.Mirrors .stopSa engine.isSaStopping) (answer : Bool) :
    Sound {s with engine:=(engine.processServiceStatus answer).1} (h ++ (engine.processServiceStatus answer).2) := by
  have retries := EngineLoadManager.process_retries kept answer
  have moved : Sound {s with engine:=(engine.processServiceStatus answer).1} h := {sound with
    stopping := fun subscribed => retries.2.symm ▸ stopping subscribed
    engineKept := retries.1.kept
    retries := fun _ => retries.1
    decided := fun isStopSa settled member => {sound.decided isStopSa settled member with}}
  exact moved.more (plain_process engine answer)

theorem Sound.onRetry (sound : Sound s h) (answer : Bool) :
    Sound {s with engine:=(s.engine.onTimeout answer).1} (h ++ (s.engine.onTimeout answer).2) := by
  unfold EngineLoadManager.onTimeout
  split
  · exact (List.append_nil h).symm ▸ sound
  · rename_i due _
    refine sound.engineStep {s.engine with timer:={s.engine.timer with timerId:=none,due}} ?_ sound.stopping answer
    intro timerId known
    cases known

end Engine

section Notices

theorem Sound.isSubscribed (sound : Sound s h) (told : s.notices ≠ []) : s.isSubscribed = true := by
  cases same : s.isSubscribed with
  | true => rfl
  | false => exact absurd (sound.early same).2.1 told

-- The manager does with a notice what is foreseen.
theorem covers_pin (u : ServiceUnloadManager) (value : Bool) (notices : List (WatchedParam × Bool))
    (covered : covers u.isCredentialChecked u.isPinEnrolled (u.timer.timerId.isSome && !u.isPinEnrolled)
      ((.isPinEnrolled,value) :: notices) = true) :
    covers (u.onIsPinEnrolledChange value).isCredentialChecked (u.onIsPinEnrolledChange value).isPinEnrolled
      ((u.onIsPinEnrolledChange value).timer.timerId.isSome && !(u.onIsPinEnrolledChange value).isPinEnrolled)
      notices = true := by
  simp only [covers] at covered
  unfold ServiceUnloadManager.onIsPinEnrolledChange
  split
  · rename_i same
    rwa [if_pos same.symm] at covered
  rename_i differs
  rw [if_neg (Ne.symm differs)] at covered
  dsimp only
  cases value with
  | true =>
    simpa [ServiceUnloadManager.stopTimer] using covered
  | false =>
    have enrolled : u.isPinEnrolled = true := Bool.eq_true_of_not_eq_false differs
    simp only [enrolled,Bool.not_true,Bool.and_false,Bool.or_false,Bool.false_eq_true,if_false] at covered ⊢
    split
    · rename_i checked
      rw [checked] at covered
      simpa [ServiceUnloadManager.restartTimer,OneShotTimer.register,checked] using covered
    · rename_i checked
      rw [Bool.eq_false_iff.mpr checked] at covered
      have more : false = true → u.timer.timerId.isSome = true := fun absurdity => absurd absurdity Bool.false_ne_true
      simpa [Bool.eq_false_iff.mpr checked] using covers_mono more covered

theorem covers_start (u : ServiceUnloadManager) (value : Bool) (notices : List (WatchedParam × Bool))
    (covered : covers u.isCredentialChecked u.isPinEnrolled (u.timer.timerId.isSome && !u.isPinEnrolled) notices = true) :
    covers (u.onStartSaChange value).isCredentialChecked (u.onStartSaChange value).isPinEnrolled
      ((u.onStartSaChange value).timer.timerId.isSome && !(u.onStartSaChange value).isPinEnrolled) notices = true := by
  obtain ⟨enrolled,checked,timer⟩ := ServiceUnloadManager.start_fields u value
  rw [enrolled,checked]
  refine covers_mono (fun armed => ?_) covered
  simp only [Bool.and_eq_true] at armed ⊢
  exact ⟨timer armed.1,armed.2⟩

theorem Mirrors.other {key other : WatchedParam} {value copy : Bool} {notices : List (WatchedParam × Bool)}
    (mirrors : s.Mirrors key copy) (waits : s.notices = (other,value) :: notices) (differs : other ≠ key) :
    {s with notices}.Mirrors key copy := by
  intro subscribed
  have before := mirrors subscribed
  rwa [waits,valuesOf_cons,if_neg differs] at before

theorem Mirrors.heard {key : WatchedParam} {value copy : Bool} {notices : List (WatchedParam × Bool)}
    (mirrors : s.Mirrors key copy) (waits : s.notices = (key,value) :: notices) : {s with notices}.Mirrors key value := by
  intro subscribed
  have before := mirrors subscribed
  rw [waits,valuesOf_cons,if_pos rfl] at before
  exact before.heard

-- A notice is heard by the manager it is for, with what it then has for its timer.
theorem Sound.heard {key : WatchedParam} {value : Bool} {notices : List (WatchedParam × Bool)} (sound : Sound s h)
    (waits : s.notices = (key,value) :: notices) (unload : ServiceUnloadManager) (kept : unload.timer.Kept)
    (pin : {s with notices}.Mirrors .isPinEnrolled unload.isPinEnrolled)
    (checked : {s with notices}.Mirrors .isCredentialChecked unload.isCredentialChecked)
    (differs : key ≠ .stopSa) (covered : s.Covered → {s with notices,unload}.Covered) :
    Sound {s with notices,unload} h := by
  have subscribed : s.isSubscribed = true := sound.isSubscribed (by simp [waits])
  exact {sound with
    pin
    checked
    stopping := sound.stopping.other waits differs
    positive := fun told member => sound.positive told (waits ▸ List.mem_cons_of_mem _ member)
    early := fun early => absurd subscribed (Bool.eq_false_iff.mp early)
    kept
    decided := fun isStopSa settled member =>
      have decided := sound.decided isStopSa settled member
      ⟨decided.subscribed,decided.checked,decided.settles.imp_right (Or.imp_right covered)⟩}

theorem Sound.onParamChange (sound : Sound s h) (answer : Bool) :
    Sound (s.onParamChange answer).1 (h ++ (s.onParamChange answer).2) := by
  unfold LoadMode.onParamChange
  cases waits : s.notices with
  | nil => exact (List.append_nil h).symm ▸ sound
  | cons notice notices =>
    obtain ⟨key,value⟩ := notice
    cases key with
    | isPinEnrolled =>
      rw [List.append_nil]
      refine sound.heard waits _ (ServiceUnloadManager.pin_kept sound.kept value) ?_ ?_ (by simp) ?_
      · exact (ServiceUnloadManager.pin_isPinEnrolled s.unload value).symm ▸ sound.pin.heard waits
      · exact ServiceUnloadManager.pin_checked s.unload value ▸ sound.checked.other waits (by simp)
      · intro covered
        unfold Covered at covered
        rw [waits] at covered
        exact covers_pin s.unload value notices covered
    | startSa =>
      rw [List.append_nil]
      obtain ⟨enrolled,checked,_⟩ := ServiceUnloadManager.start_fields s.unload value
      refine sound.heard waits _ (ServiceUnloadManager.start_kept sound.kept value) ?_ ?_ (by simp) ?_
      · exact enrolled ▸ sound.pin.other waits (by simp)
      · exact checked ▸ sound.checked.other waits (by simp)
      · intro covered
        unfold Covered at covered
        rw [waits] at covered
        exact covers_start s.unload value notices covered
    | isCredentialChecked =>
      rw [List.append_nil]
      refine sound.heard waits (s.unload.onCredentialCheckedChange value) sound.kept ?_ ?_ (by simp) ?_
      · exact sound.pin.other waits (by simp)
      · exact sound.checked.heard waits
      · intro covered
        unfold Covered at covered
        rw [waits] at covered
        exact covered
    | stopSa =>
      -- The engine is seen to afterwards, so that here it is as it should be.
      have moved : Sound {s with notices,engine:={isEngineRunning:=!value,isSaStopping:=value}} h := {sound with
        pin := sound.pin.other waits (by simp)
        checked := sound.checked.other waits (by simp)
        stopping := sound.stopping.heard waits
        positive := fun told member => sound.positive told (waits ▸ List.mem_cons_of_mem _ member)
        early := fun early => absurd (sound.isSubscribed (by simp [waits])) (Bool.eq_false_iff.mp early)
        engineKept := nofun
        retries := fun _ => ⟨nofun,fun differs => absurd rfl differs⟩
        decided := fun isStopSa settled member =>
          have decided := sound.decided isStopSa settled member
          ⟨decided.subscribed,decided.checked,decided.settles.imp_right (Or.imp_right fun covered => by
            unfold Covered at covered
            rw [waits] at covered
            exact covered)⟩}
      exact moved.engineStep {s.engine with isSaStopping:=value} sound.engineKept (sound.stopping.heard waits) answer

-- What was missed is read.
theorem Sound.startSubscribe (sound : Sound s h) (answer : Bool) :
    Sound (s.startSubscribe answer).1 (h ++ (s.startSubscribe answer).2) := by
  unfold LoadMode.startSubscribe
  split
  · exact (List.append_nil h).symm ▸ sound
  rename_i early
  obtain ⟨unset,quiet,idle⟩ := sound.early (Bool.eq_false_iff.mpr early)
  have undecided : ∀ isStopSa settled, .onFwkReady isStopSa settled ∉ h := fun isStopSa settled member =>
    early (sound.decided isStopSa settled member).subscribed
  let read := s.unload.onIsPinEnrolledChange (s.getParam .isPinEnrolled)
  have pinKept : read.timer.Kept := ServiceUnloadManager.pin_kept sound.kept _
  obtain ⟨enrolled,-,-⟩ := ServiceUnloadManager.start_fields read (s.getParam .startSa)
  have moved : Sound {s with
      isSubscribed:=true
      unload:=(read.onStartSaChange (s.getParam .startSa)).onCredentialCheckedChange (s.getParam .isCredentialChecked)
      engine:={isEngineRunning:=!s.getParam .stopSa,isSaStopping:=s.getParam .stopSa}} h := {sound with
    pin := fun _ => by
      dsimp only
      rw [quiet]
      exact enrolled.trans (ServiceUnloadManager.pin_isPinEnrolled s.unload (s.getParam .isPinEnrolled))
    checked := fun _ => by
      dsimp only
      rw [quiet]
      exact follows_read _
    stopping := fun _ => by
      dsimp only
      rw [quiet]
      exact follows_read _
    early := nofun
    kept := ServiceUnloadManager.start_kept pinKept _
    engineKept := nofun
    retries := fun _ => ⟨nofun,fun differs => absurd rfl differs⟩
    decided := fun isStopSa settled member => absurd member (undecided isStopSa settled)}
  exact moved.engineStep {s.engine with isSaStopping:=s.getParam .stopSa} sound.engineKept moved.stopping answer

end Notices

section Ready

theorem Sound.readyCalls {readyCalls : List ReadyStep} (sound : Sound s h) (subscribed : s.isSubscribed = true)
    (known : .unloadManager ∈ readyCalls → s.getParam .isCredentialChecked = true) : Sound {s with readyCalls} h :=
  {sound with
    early := fun early => absurd subscribed (Bool.eq_false_iff.mp early)
    calls := known
    decided := fun isStopSa settled member => {sound.decided isStopSa settled member with}}

theorem setParam_readyCalls (s : LoadMode) (readyCalls : List ReadyStep) (key : WatchedParam) (value : Bool) :
    {s with readyCalls}.setParam key value = {s.setParam key value with readyCalls} := by
  unfold setParam
  split
  · rfl
  · rfl

-- Nobody takes the timer away from one who finds it set, if the manager knows by then
-- that credentials are checked or no notice of a PIN is on its way.
theorem Sound.decideUnload (sound : Sound s h) (subscribed : s.isSubscribed = true)
    (checked : s.getParam .isCredentialChecked = true) : Sound s.decideUnload.1 (h ++ s.decideUnload.2) := by
  have mirrors : s.Mirrors .isPinEnrolled (s.getParam .isPinEnrolled) := fun subscribed => (sound.pin subscribed).read
  have read : Sound {s with unload:={s.unload with isPinEnrolled:=s.getParam .isPinEnrolled}} [] := {sound.anew with
    pin := mirrors
    early := fun early => absurd subscribed (Bool.eq_false_iff.mp early)
    decided := nofun}
  unfold LoadMode.decideUnload
  dsimp only
  split
  · rename_i either
    refine {read with
      stops := ?_
      decided := fun _ _ _ => ⟨subscribed,checked,?_⟩}
    · intro enrolled noticed member
      exact sound.stops enrolled noticed ((List.mem_append.mp member).resolve_right (by simp))
    · cases enrolled : s.getParam .isPinEnrolled with
      | true =>
        have follows := mirrors subscribed
        rw [enrolled] at follows
        refine .inr (.inr ?_)
        unfold Covered
        exact covers_follows (enrolled.symm ▸ follows) _ _
      | false =>
        have armed : s.unload.timer.timerId.isSome = true := by simpa [enrolled] using either
        by_cases settled : s.unload.isCredentialChecked = true ∨ (.isPinEnrolled,true) ∉ s.notices
        · refine .inr (.inr ?_)
          unfold Covered
          simp only [armed]
          exact covers_armed sound.positive (.inr rfl) (settled.imp_right fun none => ⟨rfl,none⟩)
        · refine .inl ⟨false,List.mem_append_right _ ?_⟩
          obtain ⟨unchecked,told⟩ := not_or.mp settled
          simp [unchecked,not_not.mp told]
  · rename_i neither
    have none : s.getParam .isPinEnrolled ≠ true := fun enrolled => neither (by simp [enrolled])
    unfold Mealy.andThen
    dsimp only
    rw [← List.append_assoc]
    refine read.stop ?_ (fun _ _ _ => ⟨subscribed,checked⟩) fun enrolled => absurd enrolled none
    intro enrolled noticed member
    exact sound.stops enrolled noticed ((List.mem_append.mp member).resolve_right (by simp))

theorem Sound.readyStep (sound : Sound s h) (index : Nat) (accounts : PinQueries) :
    Sound (s.readyStep index accounts).1 (h ++ (s.readyStep index accounts).2) := by
  unfold LoadMode.readyStep
  cases found : s.readyCalls[index]? with
  | none => exact (List.append_nil h).symm ▸ sound
  | some ready =>
    have member := List.mem_of_getElem? found
    have subscribed : s.isSubscribed = true := by
      cases same : s.isSubscribed with
      | true => rfl
      | false => exact absurd (sound.early same).2.2 (List.ne_nil_of_mem member)
    cases ready with
    | refreshIsPinEnrolled =>
      rw [List.append_nil]
      refine Sound.refreshIsPinEnrolled (sound.readyCalls subscribed fun member => sound.calls ?_) accounts
      exact (List.mem_or_eq_of_mem_set member).resolve_right (by simp)
    | setCredentialChecked =>
      rw [List.append_nil,setParam_readyCalls]
      have set := sound.setParam .isCredentialChecked true (fun _ => rfl)
      exact set.readyCalls ((setParam_isSubscribed s _ _).trans subscribed) fun _ => getParam_setParam s _ _
    | unloadManager =>
      have rest : Sound {s with readyCalls:=s.readyCalls.eraseIdx index} h :=
        sound.readyCalls subscribed fun member => sound.calls (List.mem_of_mem_eraseIdx member)
      exact rest.decideUnload subscribed (sound.calls member)

end Ready

-- A timer that fires while its manager has not heard that a PIN is enrolled stops the
-- service, with the notice still to come.
theorem Sound.onTimeout (sound : Sound s h) : Sound s.onTimeout.1 (h ++ s.onTimeout.2) := by
  unfold LoadMode.onTimeout
  cases fired : s.unload.timer.due with
  | nil => exact (List.append_nil h).symm ▸ sound
  | cons timerId due =>
    have subscribed : s.isSubscribed = true := by
      cases same : s.isSubscribed with
      | true => rfl
      | false =>
        rw [(sound.early same).1] at fired
        exact absurd fired (by simp)
    have taken : Sound {s with unload:=({s.unload with timer:={s.unload.timer with due}} :
      ServiceUnloadManager).stopTimer} [] :=
      {sound.anew with
        early := fun early => absurd subscribed (Bool.eq_false_iff.mp early)
        kept := OneShotTimer.kept_unregister _
        decided := nofun}
    dsimp only
    split
    · rename_i enrolled
      rw [List.append_nil]
      refine {taken with
        stops := sound.stops
        decided := fun isStopSa settled member => ?_}
      have decided := sound.decided isStopSa settled member
      refine ⟨decided.subscribed,decided.checked,decided.settles.imp_right (Or.imp_right fun covered => ?_)⟩
      have before : s.unload.isPinEnrolled = true := enrolled
      unfold Covered at covered ⊢
      simpa [ServiceUnloadManager.stopTimer,before] using covered
    · rename_i none
      refine taken.stop sound.stops sound.ready fun enrolled => ?_
      have follows := sound.pin subscribed
      have unheard := follows.differs fun same => none (same.trans enrolled)
      obtain ⟨value,member⟩ := List.exists_mem_of_ne_nil _ unheard
      obtain ⟨notice,told,-⟩ := List.mem_map.mp member
      exact List.any_eq_true.mpr ⟨notice,List.mem_filter.mp told⟩

theorem sound_step (s : LoadMode) (h : List LoadModeEvent) (i : LoadModeInput) (sound : Sound s h) :
    Sound (s.step i).1 (h ++ (s.step i).2) := by
  cases i with
  | startSubscribe answer => exact sound.startSubscribe answer
  | setStartSa value => exact (List.append_nil h).symm ▸ sound.setParameter .startSa value (by simp)
  | setStopSa value => exact (List.append_nil h).symm ▸ sound.setParameter .stopSa value (by simp)
  | onParamChange answer => exact sound.onParamChange answer
  | onCredentialUpdated accounts => exact (List.append_nil h).symm ▸ sound.refreshIsPinEnrolled accounts
  | onPinAuthServiceStop => exact sound.onPinAuthServiceStop
  | onFwkReady =>
    simp only [step,List.append_nil]
    split
    · rename_i subscribed
      refine sound.readyCalls subscribed fun member => sound.calls ?_
      exact (List.mem_append.mp member).resolve_right (by simp)
    · exact sound
  | readyStep index accounts => exact sound.readyStep index accounts
  | expire timerId =>
    simp only [step,List.append_nil]
    exact {sound with
      early := fun early => by
        obtain ⟨unset,rest⟩ := sound.early early
        refine ⟨?_,rest⟩
        simp [unset,OneShotTimer.expire]
      kept := sound.kept.expire timerId
      decided := fun isStopSa settled member => by
        have decided := sound.decided isStopSa settled member
        refine ⟨decided.subscribed,decided.checked,decided.settles.imp_right (Or.imp_right fun covered => ?_)⟩
        unfold Covered at covered ⊢
        simpa using covered}
  | onTimeout => exact sound.onTimeout
  | expireRetry timerId =>
    simp only [step,List.append_nil]
    exact {sound with
      engineKept := sound.engineKept.expire timerId
      retries := fun subscribed => ⟨sound.engineKept.expire timerId,fun differs => by
        simpa using (sound.retries subscribed).waits differs⟩
      decided := fun isStopSa settled member => {sound.decided isStopSa settled member with}}
  | onRetry answer => exact sound.onRetry answer
  | onEngineReady answer =>
    exact sound.engineStep {s.engine with isEngineRunning:=true} sound.engineKept sound.stopping answer
  | onEngineUnavailable answer =>
    exact sound.engineStep {s.engine with isEngineRunning:=false} sound.engineKept sound.stopping answer

-- The service is not stopped for want of a PIN when there is one, but by one who has yet
-- to hear of it. When all is heard, the engine runs unless the service stops, or it will
-- be tried again; and once the framework was ready, the service has a PIN to run for, a
-- timer to stop it, or was stopped. A start by hand is not enough for that where PINs
-- come and go before the manager hears that credentials are checked.
theorem load_mode_settles (params : WatchedParam → Option Bool) (inputs : List LoadModeInput) :
    let s := machine.after {params} inputs
    let h := machine.trace {params} inputs
    (∀ enrolled noticed, .stopSa enrolled noticed ∈ h → enrolled = true → noticed = true) ∧
      (s.isSubscribed = true → s.notices = [] → s.unload.timer.due = [] → s.engine.timer.due = [] →
        (s.engine.isEngineRunning = (!s.getParam .stopSa) ∨ s.engine.timer.Armed) ∧
          ∀ isStopSa settled, .onFwkReady isStopSa settled ∈ h →
            s.getParam .isPinEnrolled = true ∨ s.unload.timer.Armed ∨ Stopped h ∨ Early h) := by
  intro s h
  have sound : Sound s h := Mealy.history (P:=Sound) sound_step (sound_initial params) inputs
  refine ⟨sound.stops,fun subscribed heard fired retried => ⟨?_,fun isStopSa settled member => ?_⟩⟩
  · have stopping := sound.stopping subscribed
    rw [heard] at stopping
    have retries := sound.retries subscribed
    by_cases running : s.engine.isEngineRunning = !s.engine.isSaStopping
    · exact .inl (running.trans (congrArg (!·) stopping.all_heard))
    · exact .inr (retries.kept.armed (retries.waits running) retried)
  · rcases (sound.decided isStopSa settled member).settles with early | stopped | covered
    · exact .inr (.inr (.inr early))
    · exact .inr (.inr (.inl stopped))
    · have pin := sound.pin subscribed
      unfold Covered at covered
      rw [heard] at covered pin
      have known : s.unload.isPinEnrolled = s.getParam .isPinEnrolled := pin.all_heard
      simp only [covers,Bool.or_eq_true,Bool.and_eq_true] at covered
      rcases covered with enrolled | armed
      · exact .inl (known.symm.trans enrolled)
      · exact .inr (.inl (sound.kept.armed (Option.isSome_iff_ne_none.mp armed.1) fired))

-- A service started by hand that is left to run on: a PIN came and went before the
-- manager heard of anything.
example :
    let inputs : List LoadModeInput :=
      [.setStartSa true,.startSubscribe true,.onFwkReady,.readyStep 0 none,.onCredentialUpdated (some [.answered [{}]]),
        .onCredentialUpdated (some []),.readyStep 0 none,.readyStep 0 none,.onParamChange true,.onParamChange true,
        .onParamChange true]
    let s := machine.after {params:=fun _ => none} inputs
    s.notices = [] ∧ s.unload.timer.timerId = none ∧ s.getParam .isPinEnrolled = false ∧
      machine.trace {params:=fun _ => none} inputs = [.load true,.onFwkReady false false,.fwkReady] := by decide

end LoadMode
end UserAuth
