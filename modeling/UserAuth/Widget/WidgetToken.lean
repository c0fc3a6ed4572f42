import UserAuth.Widget.WidgetLifecycle

namespace UserAuth.WidgetContext
open Attributes Phase

-- Codes that may come with the token: success, and the verdict on the
-- password's complexity.
def Carries (s : WidgetContext) (resultCode : ResultCode) : Prop :=
  resultCode = ResultCode.SUCCESS ∨
    (resultCode = ResultCode.TRUST_LEVEL_NOT_SUPPORT ∧ s.latestError = ResultCode.COMPLEXITY_CHECK_FAILED)

def TokenWithSuccess (s : WidgetContext) (input : Input) : Prop :=
  ∀ resultCode attr, .onResult resultCode attr ∈ (step s input).2 → ¬Carries s resultCode →
    attr.hasAttribute ATTR_SIGNATURE = false

-- A token that an attribute can hold.
def HoldsToken (s : WidgetContext) : Prop :=
  s.authResultInfo.token ≠ [] ∧ s.authResultInfo.token.length ≤ MAX_ATTR_LENGTH

-- An End that closes the session under another code finds no token.
def EndsTokenless (s : WidgetContext) (input : Input) : Prop :=
  ∀ ended ∈ ending s input, ended.1.phase < STOPPING → ¬Carries s ended.2 → ¬HoldsToken ended.1

section EndResult
variable (s : WidgetContext)

def successKeys : List AttributeKey :=
  [ATTR_AUTH_TYPE,ATTR_SIGNATURE,ATTR_CREDENTIAL_DIGEST,ATTR_CREDENTIAL_COUNT,ATTR_USER_ID]

theorem successSetters_keys : ((successSetters s).map Setter.key).Sublist successKeys := by
  unfold successSetters
  simp only [List.map_append,List.append_assoc]
  exact .append (.refl [ATTR_AUTH_TYPE]) (.append ((given_sublist _ _).map Setter.key) (.refl _))

theorem successSetters_few : (successSetters s).length ≤ MAX_ATTR_COUNT := by
  have short := (successSetters_keys s).length_le
  rw [List.length_map] at short
  exact short.trans (by decide)

theorem successSetters_distinct : ((successSetters s).map Setter.key).Nodup :=
  (successSetters_keys s).nodup (by decide)

theorem handled_signature : (handleAuthSuccessResult s).1.hasAttribute ATTR_SIGNATURE = true ↔ HoldsToken s := by
  rw [handleAuthSuccessResult,setAll_has _ (successSetters_few s) (successSetters_distinct s)]
  have apart : ATTR_AUTH_TYPE ≠ ATTR_SIGNATURE ∧ ATTR_CREDENTIAL_DIGEST ≠ ATTR_SIGNATURE ∧
    ATTR_CREDENTIAL_COUNT ≠ ATTR_SIGNATURE ∧ ATTR_USER_ID ≠ ATTR_SIGNATURE := by decide
  have number (value : Int32) : (setInt32Value ATTR_AUTH_TYPE value).dest.isSome = true := rfl
  have others : ∀ setter ∈ successSetters s, setter.key = ATTR_SIGNATURE →
      setter = setUint8ArrayValue ATTR_SIGNATURE s.authResultInfo.token ∧ s.authResultInfo.token ≠ [] := by
    intro setter member same
    simp only [successSetters,List.mem_append,List.mem_cons,List.not_mem_nil,or_false] at member
    obtain (rfl | given) | rfl | rfl | rfl := member
    · exact absurd same apart.1
    · by_cases bare : s.authResultInfo.token = []
      · simp [bare] at given
      · exact ⟨List.mem_singleton.mp ((given_sublist _ _).subset given),bare⟩
    · exact absurd same apart.2.1
    · exact absurd same apart.2.2.1
    · exact absurd same apart.2.2.2
  constructor
  · intro ⟨setter,member,same⟩
    obtain ⟨rfl,present⟩ := others setter ((List.takeWhile_sublist _).subset member) same
    have encoded := List.mem_takeWhile_imp (p:=fun t : Setter => t.dest.isSome) member
    exact ⟨present,of_decide_eq_true ((array_encoded _ _).symm.trans encoded)⟩
  · intro ⟨present,fits⟩
    have nonempty : decide (s.authResultInfo.token.length > 0) = true := by
      simpa using List.length_pos_iff.mpr present
    refine ⟨setUint8ArrayValue ATTR_SIGNATURE s.authResultInfo.token,?_,rfl⟩
    simp [successSetters,nonempty,number,array_encoded,fits]

theorem handled_complete (short : s.authResultInfo.token.length ≤ MAX_ATTR_LENGTH) :
    (handleAuthSuccessResult s).2 = true := by
  rw [handleAuthSuccessResult,setAll_complete _ _ (settable_empty (successSetters_few s) (successSetters_distinct s))]
  apply List.all_eq_true.mpr
  intro setter member
  simp only [successSetters,List.mem_append,List.mem_cons,List.not_mem_nil,or_false] at member
  obtain (rfl | signature) | rfl | rfl | rfl := member
  · rfl
  · obtain rfl := List.mem_singleton.mp ((given_sublist _ _).subset signature)
    exact (array_encoded _ _).trans (decide_eq_true short)
  · rfl
  · rfl
  · rfl

-- Where the token does not fit, the report stops short of it.
theorem endResult_code (short : s.authResultInfo.token.length ≤ MAX_ATTR_LENGTH) (resultCode : ResultCode) :
    (endResult s resultCode).1 = resultCode := by
  unfold endResult
  split
  · exact if_pos (handled_complete s short)
  · rfl

theorem endResult_signature (resultCode : ResultCode) :
    (endResult s resultCode).2.hasAttribute ATTR_SIGNATURE = true ↔ HoldsToken s := by
  unfold endResult
  split
  · exact handled_signature s
  · rename_i plain
    have bare : s.authResultInfo.token = [] := by
      by_contra present
      simp [present] at plain
    have none : Attributes.empty.hasAttribute ATTR_SIGNATURE = false := by decide
    simp [none,HoldsToken,bare]

end EndResult

-- A token may leave only with a code that carries it.
def tokenPolicy (s : WidgetContext) : ResultPolicy where
  allows := fun resultCode attr => ¬Carries s resultCode → attr.hasAttribute ATTR_SIGNATURE = false
  plain := fun _ _ => by decide

-- An End either brings the code it was given or has no token to show.
theorem end_allowed (s ended : WidgetContext) (resultCode : ResultCode) :
    (tokenPolicy s).allows (endResult ended resultCode).1 (endResult ended resultCode).2 ↔
      (¬Carries s resultCode → ¬HoldsToken ended) := by
  simp only [tokenPolicy,←Bool.not_eq_true,endResult_signature]
  by_cases holds : HoldsToken ended
  · rw [endResult_code ended holds.2]
  · exact iff_of_true (fun _ => holds) fun _ => holds

section Delivery
variable {env : Env} {s : WidgetContext}

theorem connectExtension_delivers (made : connectEnding env s widgetRotatePara = some ended)
    (before : ended.1.phase < STOPPING) :
    .onResult (endResult ended.1 ended.2).1 (endResult ended.1 ended.2).2 ∈
      (connectExtension env s widgetRotatePara).1.2 := by
  unfold connectEnding at made
  unfold connectExtension
  dsimp only at made ⊢
  generalize (if widgetRotatePara.isReload = true then refreshAuthProfiles env s.para.authProfileMap s.para.authTypeList
    else (s.para.authProfileMap,true)) = refreshed at made ⊢
  by_cases failed : (!refreshed.2) = true
  · rw [if_pos failed] at made
    cases made
  · rw [if_neg failed] at made ⊢
    by_cases locked : (lockedOut (storeProfiles s refreshed.1)).2 = true
    · rw [if_pos locked] at made ⊢
      cases made
      exact endWith_delivers before _
    · rw [if_neg locked] at made ⊢
      by_cases refused : (!isWidgetLaunchAllowed env) = true
      · rw [if_pos refused] at made ⊢
        cases made
        exact endWith_delivers before _
      · rw [if_neg refused] at made
        cases made

-- The result of the End that a step makes is among what the step sends.
theorem step_delivers (s : WidgetContext) (input : Input) (made : ending s input = some ended)
    (before : ended.1.phase < STOPPING) :
    .onResult (endResult ended.1 ended.2).1 (endResult ended.1 ended.2).2 ∈ (step s input).2 := by
  obtain ⟨call,env⟩ := input
  cases call with
  | stop =>
    simp only [ending] at made
    simp only [step,stop]
    split at made
    · cases made
    · rename_i started
      cases made
      rw [if_neg started]
      exact List.mem_append_left _ (endWith_delivers before _)
  | launchWidget =>
    simp only [ending] at made
    simp only [step,launchWidget]
    split at made
    · cases made
    · rename_i live
      rw [if_neg live]
      exact List.mem_append_right _ (connectExtension_delivers made before)
  | onAuthSuccess =>
    cases made
    have ends : onAuthSuccess env s = endWith env s (if s.latestError == ResultCode.COMPLEXITY_CHECK_FAILED then
        ResultCode.TRUST_LEVEL_NOT_SUPPORT else ResultCode.SUCCESS) := by
      unfold onAuthSuccess
      split <;> rfl
    simp only [step,ends]
    exact endWith_delivers before _
  | onAuthFail =>
    cases made
    exact endWith_delivers before _
  | endAuthAsCancel =>
    simp only [ending] at made
    simp only [step,endAuthAsCancel]
    split at made
    · rename_i complex
      cases made
      rw [if_pos complex]
      exact endWith_delivers before _
    · rename_i simple
      rw [if_neg simple]
      split at made
      · cases made
      · rename_i hidden
        cases made
        rw [if_neg hidden]
        exact endWith_delivers before _
  | endAuthAsNaviPin =>
    cases made
    exact endWith_delivers before _
  | endAuthAsWidgetParaInvalid =>
    cases made
    exact endWith_delivers before _
  | onScheduleAuthResult resultCode authType token =>
    cases made
    simp only [step,onScheduleAuthResult_ends]
    exact endWith_delivers before _
  | authWidgetReload => exact connectExtension_delivers made before
  | _ => cases made

end Delivery

theorem step_token (s : WidgetContext) (input : Input) : TokenWithSuccess s input ↔ EndsTokenless s input := by
  constructor
  · intro withSuccess ended made before
    exact (end_allowed s ended.1 ended.2).mp (withSuccess _ _ (step_delivers s input made before))
  · intro tokenless
    have moves : Moves (tokenPolicy s) s (step s input) := step_moves s input fun ended made before =>
      (end_allowed s ended.1 ended.2).mpr (tokenless ended made before)
    exact moves.allowed

theorem tokens_guarded (para : ContextFactory.AuthWidgetContextPara) (modalCallback remoteAuthCallback : Bool)
    (inputs : List Input) :
    machine.Meets TokenWithSuccess (create para modalCallback remoteAuthCallback) inputs ↔
      machine.Meets EndsTokenless (create para modalCallback remoteAuthCallback) inputs :=
  Mealy.meets_congr (m:=machine) (Q:=fun _ => True) (fun _ _ _ => trivial) (fun s input _ => step_token s input) trivial
    inputs

-- The caller stops the session after the child's success, before the widget
-- schedule has taken that success up.
def stopAfterSuccess : List Input :=
  [.start,.onStart,.executeAuthList [AuthType.PIN] false .DEFAULT,
    .onChildAuthResult ResultCode.SUCCESS AuthType.PIN (Attributes.empty.setEach [setUint8ArrayValue ATTR_SIGNATURE [7]]),
    .stop].map fun call => ⟨call,fairEnv⟩

theorem stopped_session_shows_token : ¬machine.Meets TokenWithSuccess (create pinPara false false) stopAfterSuccess := by
  intro met
  have holds : HoldsToken (machine.after (create pinPara false false) (stopAfterSuccess.take 4)) := by
    unfold HoldsToken
    decide
  have failed : ¬Carries (machine.after (create pinPara false false) (stopAfterSuccess.take 4)) ResultCode.CANCELED := by
    unfold Carries
    decide
  have tokenless := (step_token _ _).mp met.2.2.2.2.1
  exact tokenless _ rfl (by decide) failed holds

end UserAuth.WidgetContext
