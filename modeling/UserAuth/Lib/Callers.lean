import Mathlib.Data.List.Perm.Basic
import UserAuth.Lib.Mealy

-- An object that several threads call into. It lives while its owner, the call
-- that made it, a caller inside it or the object itself holds a reference. A
-- caller looks the object up at its owner or locks a weak reference, runs its
-- handler and leaves; leaving after a report makes the owner let go.
structure CallRules (σ : Type u) (η : Type v) (ι : Type w) (ε : Type x) where
  act : σ → η → σ × List ε
  -- What reaches the object from elsewhere, and whether its owner has it still.
  outer : Bool → σ → ι → σ
  reports : ε → Bool
  -- Whether the handler is to report on the object as it finds it.
  ends : σ → η → Bool
  -- Whether there is such a handler to come.
  ready : σ → η → Bool
  keeps : σ → Bool
  selected : η → Bool
  serial : η → Bool
  -- Running the first handler may change what a second that waits comes to.
  mixes : η → η → Bool

structure Caller (η : Type v) where
  handler : η
  -- Whether the handler was to report when the caller came.
  ends : Bool
  -- Whether the handler has run, and whether it has reported.
  reported : Option Bool

structure Called (σ : Type u) (η : Type v) where
  object : σ
  owned : Bool := true
  held : Bool := true
  inside : List (Caller η) := []

namespace Called
variable {σ : Type u} {η : Type v} {ι : Type w} {ε : Type x} (rules : CallRules σ η ι ε)

inductive Move (η : Type v) (ι : Type w) where
  | returned
  | enter (handler : η)
  | run (index : Nat)
  | leave (index : Nat)
  | outer (input : ι)

def alive (s : Called σ η) : Bool := s.owned || s.held || !s.inside.isEmpty || rules.keeps s.object

-- Serial handlers are tasks of one thread.
def admits (s : Called σ η) (handler : η) : Bool :=
  s.alive rules && rules.ready s.object handler && (!rules.selected handler || s.owned) &&
    (!rules.serial handler || !s.inside.any (rules.serial ·.handler))

def step (s : Called σ η) : Move η ι → Called σ η × List ε
  | .returned => ({s with held:=false},[])
  | .enter handler =>
    if s.admits rules handler then ({s with inside:=s.inside ++ [⟨handler,rules.ends s.object handler,none⟩]},[])
    else (s,[])
  | .run index =>
    match s.inside[index]? with
    | some ⟨handler,ends,none⟩ =>
      let out := rules.act s.object handler
      ({s with object:=out.1,inside:=s.inside.set index ⟨handler,ends,some (out.2.any rules.reports)⟩},out.2)
    | _ => (s,[])
  | .leave index =>
    match s.inside[index]? with
    | some ⟨_,_,some reported⟩ => ({s with inside:=s.inside.eraseIdx index,owned:=s.owned && !reported},[])
    | _ => (s,[])
  | .outer input => ({s with object:=rules.outer s.owned s.object input},[])

def machine : Mealy (Called σ η) (Move η ι) ε := ⟨step rules⟩

def results (outputs : List ε) : Nat := outputs.countP rules.reports

@[simp] theorem results_append (outputs more : List ε) :
    results rules (outputs ++ more) = results rules outputs + results rules more := List.countP_append

-- A caller comes in with a handler that is to report.
def arrives (s : Called σ η) : Move η ι → Bool
  | .enter handler => s.admits rules handler && rules.ends s.object handler
  | _ => false

-- A caller whose handler is to report finds the owner still there and no other
-- such caller inside.
def Alone (s : Called σ η) (m : Move η ι) : Prop :=
  s.arrives rules m = true → s.owned = true ∧ ∀ caller ∈ s.inside, caller.ends = false

-- A handler runs while no caller waits with one that it may change.
def Unmixed (s : Called σ η) : Move η ι → Prop
  | .run index => ∀ runner ∈ s.inside[index]?, ∀ caller ∈ s.inside, caller.reported = none →
    rules.mixes runner.handler caller.handler = false
  | _ => True

-- The handler that a move runs.
def running (s : Called σ η) : Move η ι → Option η
  | .run index => s.inside[index]?.bind fun caller => if caller.reported.isNone then some caller.handler else none
  | _ => none

-- No handler that is to report runs.
def Quiet (s : Called σ η) (m : Move η ι) : Prop := (s.running m).any (rules.ends s.object) = false

instance (s : Called σ η) (m : Move η ι) : Decidable (s.Alone rules m) :=
  inferInstanceAs (Decidable (_ → _ ∧ ∀ caller ∈ s.inside, _))

instance (s : Called σ η) : (m : Move η ι) → Decidable (s.Unmixed rules m)
  | .run index => inferInstanceAs (Decidable (∀ runner ∈ s.inside[index]?, ∀ caller ∈ s.inside, _))
  | .returned | .enter _ | .leave _ | .outer _ => .isTrue trivial

-- The callers that are still to report, and those that have and are about to leave.
def waiting (s : Called σ η) : Nat := s.inside.countP fun caller => caller.reported.isNone && caller.ends
def leaving (s : Called σ η) : Nat := s.inside.countP (·.reported == some true)

-- From any object that the handlers can leave behind, a handler reports once
-- where it is to end the object and never elsewhere; and what a waiting handler
-- comes to stays what it was, whatever else runs that does not mix with it.
structure Sound (rules : CallRules σ η ι ε) (valid : σ → Prop) : Prop where
  acts : ∀ object handler, valid object → valid (rules.act object handler).1
  reports : ∀ object handler, valid object →
    results rules (rules.act object handler).2 = if rules.ends object handler then 1 else 0
  acted : ∀ object handler other, valid object → rules.ready object other = true →
    rules.mixes handler other = false → rules.serial handler = false ∨ rules.serial other = false →
    rules.ready (rules.act object handler).1 other = true ∧
      rules.ends (rules.act object handler).1 other = rules.ends object other
  outer : ∀ owned object input, valid object → valid (rules.outer owned object input)
  outside : ∀ owned object input other, valid object → rules.ready object other = true →
    rules.ready (rules.outer owned object input) other = true ∧
      rules.ends (rules.outer owned object input) other = rules.ends object other

section Steps
variable {rules} {valid : σ → Prop} {object : σ} {s : Called σ η} {m : Move η ι}

-- What `delivered` reports before a state say of it: the owner is there until the
-- first caller that has reported leaves.
structure Told (rules : CallRules σ η ι ε) (valid : σ → Prop) (s : Called σ η) (delivered : Nat) : Prop where
  object : valid s.object
  foreseen : ∀ caller ∈ s.inside, caller.reported = none →
    rules.ready s.object caller.handler = true ∧ rules.ends s.object caller.handler = caller.ends
  reported : ∀ caller ∈ s.inside, ∀ reported, caller.reported = some reported → reported = caller.ends
  serial : s.inside.countP (rules.serial ·.handler) ≤ 1
  inside : s.leaving ≤ delivered
  owned : s.owned = true ↔ delivered = s.leaving

-- A step adds to the reports and to the callers that are to report one exactly
-- where such a caller comes in.
structure Stepped (rules : CallRules σ η ι ε) (valid : σ → Prop) (s : Called σ η) (delivered : Nat) (m : Move η ι)
    (stepped : Called σ η × List ε) : Prop where
  told : Told rules valid stepped.1 (delivered + results rules stepped.2)
  waiting : results rules stepped.2 + stepped.1.waiting = s.waiting + if s.arrives rules m then 1 else 0
  closes : 0 < results rules stepped.2 ↔ ¬s.Quiet rules m

theorem take_out {l : List α} (found : l[i]? = some x) :
    l.Perm (x :: l.eraseIdx i) ∧ ∀ y, (l.set i y).Perm (y :: l.eraseIdx i) := by
  obtain ⟨bound,here⟩ := List.getElem?_eq_some_iff.mp found
  exact ⟨here ▸ (List.getElem_cons_eraseIdx_perm bound).symm,List.set_perm_cons_eraseIdx bound⟩

theorem reported_iff (outputs : List ε) : outputs.any rules.reports = true ↔ 0 < results rules outputs := by
  rw [List.any_eq_true]
  exact List.countP_pos_iff.symm

theorem act_reported (sound : Sound rules valid) (good : valid object) (handler : η) :
    (rules.act object handler).2.any rules.reports = rules.ends object handler := by
  rw [Bool.eq_iff_iff,reported_iff,sound.reports object handler good]
  cases rules.ends object handler <;> decide

theorem idle_stepped (told : Told rules valid s delivered) (idle : step rules s m = (s,[]))
    (none : s.running m = none) (out : s.arrives rules m = false) : Stepped rules valid s delivered m (step rules s m) := by
  rw [idle]
  exact ⟨told,by simp [results,out],by simp [results,Quiet,none]⟩

theorem enter_stepped (told : Told rules valid s delivered) (admitted : s.admits rules handler = true) :
    Stepped rules valid s delivered (.enter handler : Move η ι) (step rules s (.enter handler)) := by
  obtain ⟨object,foreseen,reported,serial,inside,owned⟩ := told
  have moved : step rules s (.enter handler) =
      ({s with inside:=s.inside ++ [⟨handler,rules.ends s.object handler,none⟩]},[]) := by
    simp [step,admitted]
  have ready : rules.ready s.object handler = true := by
    simp only [admits,Bool.and_eq_true] at admitted
    exact admitted.1.1.2
  have first : rules.serial handler = true → s.inside.countP (rules.serial ·.handler) = 0 := by
    intro serial
    simp only [admits,serial,Bool.and_eq_true,Bool.not_true,Bool.false_or,Bool.not_eq_true'] at admitted
    rw [List.countP_eq_zero]
    exact fun caller member => by simpa using List.any_eq_false.mp admitted.2 caller member
  have leaves : leaving {s with inside:=s.inside ++ [⟨handler,rules.ends s.object handler,none⟩]} = s.leaving := by
    simp [leaving]
  rw [moved]
  refine ⟨⟨object,?_,?_,?_,?_,?_⟩,?_,by simp [results,Quiet,running]⟩
  · intro caller member unrun
    rcases List.mem_append.mp member with old | new
    · exact foreseen caller old unrun
    · cases List.mem_singleton.mp new
      exact ⟨ready,rfl⟩
  · intro caller member r run
    rcases List.mem_append.mp member with old | new
    · exact reported caller old r run
    · cases List.mem_singleton.mp new
      cases run
  · rw [List.countP_append,List.countP_singleton]
    split
    · next posted =>
      exact Nat.le_of_eq (congrArg (· + 1) (first posted))
    · exact serial
  · rw [leaves]
    exact inside
  · rw [leaves]
    exact owned
  · simp [results,waiting,arrives,admitted,List.countP_append,List.countP_singleton]

theorem run_stepped (sound : Sound rules valid) (told : Told rules valid s delivered)
    (unmixed : s.Unmixed rules (.run index)) (found : s.inside[index]? = some ⟨handler,ends,none⟩) :
    Stepped rules valid s delivered (.run index : Move η ι) (step rules s (.run index)) := by
  obtain ⟨object,foreseen,reported,serial,inside,owned⟩ := told
  obtain ⟨before,after⟩ := take_out found
  have predicted : rules.ends s.object handler = ends :=
    (foreseen ⟨handler,ends,none⟩ (List.mem_of_getElem? found) rfl).2
  have moved : step rules s (.run index) =
      ({s with object:=(rules.act s.object handler).1,inside:=s.inside.set index ⟨handler,ends,some ends⟩},
        (rules.act s.object handler).2) := by
    simp [step,found,act_reported sound object,predicted]
  have reports : results rules (rules.act s.object handler).2 = if ends then 1 else 0 :=
    predicted ▸ sound.reports s.object handler object
  have leaves : (s.inside.set index ⟨handler,ends,some ends⟩).countP (·.reported == some true) =
      s.leaving + if ends then 1 else 0 := by
    simp only [leaving]
    rw [(after _).countP_eq,before.countP_eq,List.countP_cons,List.countP_cons]
    cases ends <;> simp
  have others : ∀ caller ∈ s.inside.eraseIdx index, caller ∈ s.inside := fun caller => List.mem_of_mem_eraseIdx
  -- Of two serial handlers only one can be inside.
  have apart : ∀ caller ∈ s.inside.eraseIdx index, rules.serial handler = false ∨ rules.serial caller.handler = false := by
    intro caller member
    rw [before.countP_eq,List.countP_cons] at serial
    cases posted : rules.serial handler with
    | false => exact .inl rfl
    | true =>
      simp only [posted,if_true] at serial
      have none : (s.inside.eraseIdx index).countP (rules.serial ·.handler) = 0 := by omega
      exact .inr (by simpa using List.countP_eq_zero.mp none caller member)
  rw [moved]
  refine ⟨⟨sound.acts _ _ object,?_,?_,?_,?_,?_⟩,?_,?_⟩
  · intro caller member unrun
    rcases List.mem_cons.mp ((after _).mem_iff.mp member) with rfl | other
    · cases unrun
    · obtain ⟨ready,same⟩ := foreseen caller (others caller other) unrun
      have kept := sound.acted s.object handler caller.handler object ready
        (unmixed _ found caller (others caller other) unrun) (apart caller other)
      exact ⟨kept.1,kept.2.trans same⟩
  · intro caller member r run
    rcases List.mem_cons.mp ((after _).mem_iff.mp member) with rfl | other
    · exact (Option.some.inj run).symm
    · exact reported caller (others caller other) r run
  · rw [before.countP_eq,List.countP_cons] at serial
    rw [(after _).countP_eq,List.countP_cons]
    exact serial
  · dsimp only [leaving]
    rw [leaves,reports]
    omega
  · dsimp only
    rw [leaving,leaves,reports,owned]
    omega
  · simp only [waiting,arrives,reports,Bool.false_eq_true,if_false,Nat.add_zero]
    rw [(after _).countP_eq,before.countP_eq,List.countP_cons,List.countP_cons]
    cases ends <;> simp [Nat.add_comm]
  · simp only [reports,Quiet,running,found]
    cases ends <;> simp [predicted]

theorem leave_stepped (told : Told rules valid s delivered) (found : s.inside[index]? = some ⟨handler,ends,some reported⟩) :
    Stepped rules valid s delivered (.leave index : Move η ι) (step rules s (.leave index)) := by
  obtain ⟨object,foreseen,told,serial,inside,owned⟩ := told
  obtain ⟨before,_⟩ := take_out found
  have moved : step rules s (.leave index) =
      ({s with inside:=s.inside.eraseIdx index,owned:=s.owned && !reported},[]) := by
    simp [step,found]
  have leaves : s.leaving = leaving {s with inside:=s.inside.eraseIdx index,owned:=s.owned && !reported} +
      if reported then 1 else 0 := by
    simp only [leaving]
    rw [before.countP_eq,List.countP_cons]
    cases reported <;> simp
  rw [moved]
  refine ⟨⟨object,?_,?_,?_,?_,?_⟩,?_,by simp [results,Quiet,running]⟩
  · exact fun caller member => foreseen caller (List.mem_of_mem_eraseIdx member)
  · exact fun caller member => told caller (List.mem_of_mem_eraseIdx member)
  · rw [before.countP_eq,List.countP_cons] at serial
    exact Nat.le_trans (Nat.le_add_right _ _) serial
  · simp only [results,List.countP_nil]
    omega
  · simp only [results,List.countP_nil,Bool.and_eq_true,owned]
    cases reported <;> simp at leaves ⊢ <;> omega
  · simp only [results,List.countP_nil,waiting,arrives,Bool.false_eq_true,if_false]
    rw [before.countP_eq,List.countP_cons]
    simp

theorem outer_stepped (sound : Sound rules valid) (told : Told rules valid s delivered) (input : ι) :
    Stepped rules valid s delivered (.outer input : Move η ι) (step rules s (.outer input)) := by
  obtain ⟨object,foreseen,reported,serial,inside,owned⟩ := told
  refine ⟨⟨sound.outer _ _ _ object,?_,reported,serial,inside,owned⟩,by simp [step,results,waiting,arrives],
    by simp [step,results,Quiet,running]⟩
  intro caller member unrun
  obtain ⟨ready,same⟩ := foreseen caller member unrun
  have kept := sound.outside s.owned s.object input caller.handler object ready
  exact ⟨kept.1,kept.2.trans same⟩

theorem step_stepped (sound : Sound rules valid) (told : Told rules valid s delivered) (m : Move η ι)
    (unmixed : s.Unmixed rules m) : Stepped rules valid s delivered m (step rules s m) := by
  cases m with
  | returned =>
    exact ⟨⟨told.object,told.foreseen,told.reported,told.serial,told.inside,told.owned⟩,
      by simp [step,results,waiting,arrives],by simp [step,results,Quiet,running]⟩
  | enter handler =>
    cases admitted : s.admits rules handler with
    | true => exact enter_stepped told admitted
    | false => exact idle_stepped told (by simp [step,admitted]) rfl (by simp [arrives,admitted])
  | run index =>
    cases found : s.inside[index]? with
    | none => exact idle_stepped told (by simp [step,found]) (by simp [running,found]) rfl
    | some caller =>
      obtain ⟨handler,ends,reported⟩ := caller
      cases reported with
      | some reported => exact idle_stepped told (by simp [step,found]) (by simp [running,found]) rfl
      | none => exact run_stepped sound told unmixed found
  | leave index =>
    cases found : s.inside[index]? with
    | none => exact idle_stepped told (by simp [step,found]) rfl rfl
    | some caller =>
      obtain ⟨handler,ends,reported⟩ := caller
      cases reported with
      | none => exact idle_stepped told (by simp [step,found]) rfl rfl
      | some reported => exact leave_stepped told found
  | outer input => exact outer_stepped sound told input

-- The owner is there and no caller inside was to report exactly while nothing
-- has been reported and no caller is to report.
theorem clear_iff (told : Told rules valid s delivered) :
    (s.owned = true ∧ ∀ caller ∈ s.inside, caller.ends = false) ↔ delivered + s.waiting = 0 := by
  obtain ⟨_,_,reported,_,inside,owned⟩ := told
  constructor
  · rintro ⟨there,calm⟩
    have none : s.waiting = 0 := List.countP_eq_zero.mpr fun caller member => by simp [calm caller member]
    have untold : s.leaving = 0 := by
      refine List.countP_eq_zero.mpr fun caller member reporting => ?_
      have ends := reported caller member true (by simpa using reporting)
      rw [calm caller member] at ends
      cases ends
    have same := owned.mp there
    omega
  · intro clear
    have none : s.waiting = 0 := by omega
    have untold : s.leaving = 0 := by omega
    refine ⟨owned.mpr (by omega),fun caller member => ?_⟩
    have unwaited := List.countP_eq_zero.mp none caller member
    have unreported := List.countP_eq_zero.mp untold caller member
    cases found : caller.reported with
    | none => simpa [found] using unwaited
    | some r =>
      have ends := reported caller member r found
      simpa [found,ends] using unreported

theorem alone_iff (told : Told rules valid s delivered) (stepped : Stepped rules valid s delivered m (step rules s m))
    (once : delivered + s.waiting ≤ 1) :
    s.Alone rules m ↔ delivered + results rules (step rules s m).2 + (step rules s m).1.waiting ≤ 1 := by
  have moved := stepped.waiting
  rw [Alone,clear_iff told]
  cases arrives : s.arrives rules m <;> simp [arrives] at moved ⊢ <;> omega

end Steps

section Runs
variable {rules} {valid : σ → Prop} {object : σ} {s : Called σ η}

theorem created_told (rules : CallRules σ η ι ε) (created : valid object) :
    Told rules valid (⟨object,true,true,[]⟩ : Called σ η) 0 :=
  ⟨created,by simp,by simp,by simp,by simp [leaving],by simp [leaving]⟩

theorem run_told (sound : Sound rules valid) (told : Told rules valid s delivered) (moves : List (Move η ι))
    (unmixed : (machine rules).Meets (Unmixed rules) s moves) :
    Told rules valid ((machine rules).after s moves) (delivered + results rules ((machine rules).trace s moves)) := by
  induction moves generalizing s delivered with
  | nil => exact told
  | cons m rest ih =>
    have moved := ih (step_stepped sound told m unmixed.1).told unmixed.2
    rw [Mealy.trace_cons,results_append,←Nat.add_assoc]
    exact moved

theorem total_grows (sound : Sound rules valid) (told : Told rules valid s delivered) (moves : List (Move η ι))
    (unmixed : (machine rules).Meets (Unmixed rules) s moves) :
    s.waiting ≤ results rules ((machine rules).trace s moves) + ((machine rules).after s moves).waiting := by
  induction moves generalizing s delivered with
  | nil => exact Nat.le_add_left _ _
  | cons m rest ih =>
    have stepped := step_stepped sound told m unmixed.1
    have moved := stepped.waiting
    have grown := ih stepped.told unmixed.2
    rw [Mealy.trace_cons,Mealy.after_cons,results_append]
    simp only [machine] at grown ⊢
    omega

theorem total_le_iff (sound : Sound rules valid) (told : Told rules valid s delivered)
    (once : delivered + s.waiting ≤ 1) (moves : List (Move η ι))
    (unmixed : (machine rules).Meets (Unmixed rules) s moves) :
    delivered + results rules ((machine rules).trace s moves) + ((machine rules).after s moves).waiting ≤ 1 ↔
      (machine rules).Meets (Alone rules) s moves := by
  induction moves generalizing s delivered with
  | nil => exact iff_of_true once trivial
  | cons m rest ih =>
    have stepped := step_stepped sound told m unmixed.1
    have alone := alone_iff told stepped once
    rw [Mealy.trace_cons,Mealy.after_cons,Mealy.meets_cons,results_append,←Nat.add_assoc]
    by_cases still : delivered + results rules (step rules s m).2 + (step rules s m).1.waiting ≤ 1
    · rw [and_iff_right (alone.mpr still)]
      exact ih stepped.told still unmixed.2
    · refine iff_of_false (fun all => still ?_) (fun both => still (alone.mp both.1))
      have grown := total_grows sound stepped.told rest unmixed.2
      simp only [machine] at grown all ⊢
      omega

theorem closed_iff (sound : Sound rules valid) (told : Told rules valid s delivered) (moves : List (Move η ι))
    (unmixed : (machine rules).Meets (Unmixed rules) s moves) :
    0 < results rules ((machine rules).trace s moves) ↔ ¬(machine rules).Meets (Quiet rules) s moves := by
  induction moves generalizing s delivered with
  | nil => simp [results]
  | cons m rest ih =>
    have stepped := step_stepped sound told m unmixed.1
    have later := ih stepped.told unmixed.2
    rw [Mealy.trace_cons,Mealy.meets_cons,results_append,not_and_or]
    exact Nat.add_pos_iff_pos_or_pos.trans (or_congr stepped.closes later)

-- Where no two callers that are to report meet, one report in all, and one as
-- soon as a handler that is to report has run or the owner has let go. Where two
-- meet, a second report by the time the last caller has left.
theorem one_report (sound : Sound rules valid) (created : valid object) (moves : List (Move η ι))
    (unmixed : (machine rules).Meets (Unmixed rules) (⟨object,true,true,[]⟩ : Called σ η) moves) :
    let start : Called σ η := ⟨object,true,true,[]⟩
    let delivered := results rules ((machine rules).trace start moves)
    let final := (machine rules).after start moves
    ((machine rules).Meets (Alone rules) start moves → delivered ≤ 1 ∧
      (¬(machine rules).Meets (Quiet rules) start moves ∨ final.owned = false → delivered = 1)) ∧
    (final.inside = [] → delivered ≤ 1 → (machine rules).Meets (Alone rules) start moves) := by
  intro start delivered final
  have told := created_told (η:=η) rules created
  have once : 0 + start.waiting ≤ 1 := by simp [start,waiting]
  have total := total_le_iff sound told once moves unmixed
  have closed := closed_iff sound told moves unmixed
  have ended := run_told sound told moves unmixed
  rw [Nat.zero_add] at total ended
  refine ⟨fun alone => ?_,fun left once => total.mp ?_⟩
  · have bound : delivered ≤ 1 := Nat.le_trans (Nat.le_add_right _ _) (total.mpr alone)
    refine ⟨bound,fun ends => Nat.le_antisymm bound ?_⟩
    rcases ends with ran | gone
    · exact closed.mpr ran
    · rw [Nat.one_le_iff_ne_zero]
      intro none
      have inside : leaving final ≤ delivered := ended.inside
      have untold : delivered = leaving final := by omega
      have owned := ended.owned.mpr untold
      rw [gone] at owned
      cases owned
  · have none : waiting final = 0 := by simp [waiting,left]
    change delivered + waiting final ≤ 1
    omega

end Runs
end Called
