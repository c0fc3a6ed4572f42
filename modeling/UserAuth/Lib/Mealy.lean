import Mathlib.Data.List.Induction

-- Machines that read an input, move, and emit outputs. A system with free
-- choices is such a machine whose inputs carry the choices, so a statement
-- about every input list is a statement about every run.
structure Mealy (σ : Type u) (ι : Type v) (ε : Type w) where
  step : σ → ι → σ × List ε

namespace Mealy
variable {σ : Type u} {ι : Type v} {ε : Type w} (m : Mealy σ ι ε)

-- Two operations within one step: what the second emits follows.
def andThen (first : σ × List ε) (next : σ → σ × List ε) : σ × List ε :=
  let later := next first.1
  (later.1,first.2 ++ later.2)

theorem forall_andThen {first : σ × List ε} {next : σ → σ × List ε} (good : ε → Prop) :
    (∀ e ∈ (andThen first next).2, good e) ↔ (∀ e ∈ first.2, good e) ∧ ∀ e ∈ (next first.1).2, good e :=
  List.forall_mem_append

def after : σ → List ι → σ
  | s,[] => s
  | s,i :: rest => after (m.step s i).1 rest

def trace : σ → List ι → List ε
  | _,[] => []
  | s,i :: rest => (m.step s i).2 ++ trace (m.step s i).1 rest

-- Every step of the run meets a condition on the state before it and its input.
def Meets (c : σ → ι → Prop) : σ → List ι → Prop
  | _,[] => True
  | s,i :: rest => c s i ∧ Meets c (m.step s i).1 rest

@[simp] theorem after_nil (s : σ) : m.after s [] = s := rfl
@[simp] theorem after_cons (s : σ) (i : ι) (rest : List ι) :
    m.after s (i :: rest) = m.after (m.step s i).1 rest := rfl
@[simp] theorem trace_nil (s : σ) : m.trace s [] = [] := rfl
@[simp] theorem trace_cons (s : σ) (i : ι) (rest : List ι) :
    m.trace s (i :: rest) = (m.step s i).2 ++ m.trace (m.step s i).1 rest := rfl
@[simp] theorem meets_nil (c : σ → ι → Prop) (s : σ) : m.Meets c s [] = True := rfl
@[simp] theorem meets_cons (c : σ → ι → Prop) (s : σ) (i : ι) (rest : List ι) :
    m.Meets c s (i :: rest) = (c s i ∧ m.Meets c (m.step s i).1 rest) := rfl

instance decidableMeets (c : σ → ι → Prop) [decide : ∀ s i, Decidable (c s i)] :
    ∀ s inputs, Decidable (m.Meets c s inputs)
  | _,[] => .isTrue trivial
  | s,i :: rest => @instDecidableAnd _ _ (decide s i) (decidableMeets c (m.step s i).1 rest)

theorem after_append (s : σ) (xs ys : List ι) : m.after s (xs ++ ys) = m.after (m.after s xs) ys := by
  induction xs generalizing s with
  | nil => rfl
  | cons i rest ih => exact ih _

theorem trace_append (s : σ) (xs ys : List ι) :
    m.trace s (xs ++ ys) = m.trace s xs ++ m.trace (m.after s xs) ys := by
  induction xs generalizing s with
  | nil => rfl
  | cons i rest ih => simp only [List.cons_append,trace_cons,after_cons,ih,List.append_assoc]

theorem meets_append (c : σ → ι → Prop) (s : σ) (xs ys : List ι) :
    m.Meets c s (xs ++ ys) ↔ m.Meets c s xs ∧ m.Meets c (m.after s xs) ys := by
  induction xs generalizing s with
  | nil => exact (and_iff_right trivial).symm
  | cons i rest ih => simp only [List.cons_append,meets_cons,after_cons,ih,and_assoc]

-- Meeting a condition is a matter of each step on its own.
theorem meets_iff_steps (c : σ → ι → Prop) (s : σ) (inputs : List ι) :
    m.Meets c s inputs ↔ ∀ before i rest, inputs = before ++ i :: rest → c (m.after s before) i := by
  induction inputs generalizing s with
  | nil =>
    refine iff_of_true trivial fun before i rest split => ?_
    exact absurd split.symm (List.append_ne_nil_of_right_ne_nil before (List.cons_ne_nil i rest))
  | cons first inputs ih =>
    rw [meets_cons,ih]
    constructor
    · rintro ⟨met,later⟩ before i rest split
      cases before with
      | nil =>
        cases split
        exact met
      | cons _ before =>
        cases split
        exact later before i rest rfl
    · intro all
      refine ⟨all [] first inputs rfl,fun before i rest split => ?_⟩
      exact all (first :: before) i rest (congrArg (first :: ·) split)

section Invariants
variable {m} {P : σ → List ε → Prop} {c d : σ → ι → Prop}

-- The one induction over runs. `P` may speak of the state and of everything
-- emitted so far; the condition `c` is assumed of every step.
theorem guarded_history (preserved : ∀ s h i, P s h → c s i → P (m.step s i).1 (h ++ (m.step s i).2))
    (start : P s h) (met : m.Meets c s inputs) : P (m.after s inputs) (h ++ m.trace s inputs) := by
  induction inputs generalizing s h with
  | nil => simpa using start
  | cons i rest ih =>
    have moved := ih (preserved s h i start met.1) met.2
    simpa only [after_cons,trace_cons,List.append_assoc] using moved

theorem meets_trivially (inputs : List ι) : m.Meets (fun _ _ => True) s inputs := by
  induction inputs generalizing s with
  | nil => trivial
  | cons _ _ ih => exact ⟨trivial,ih⟩

theorem history (preserved : ∀ s h i, P s h → P (m.step s i).1 (h ++ (m.step s i).2))
    (start : P s []) (inputs : List ι) : P (m.after s inputs) (m.trace s inputs) := by
  have moved := guarded_history (c:=fun _ _ => True) (fun s h i valid _ => preserved s h i valid) start
    (meets_trivially inputs)
  simpa only [List.nil_append] using moved

-- The same where `P` speaks of the inputs too.
theorem input_history {P : List ι → σ → List ε → Prop}
    (preserved : ∀ inputs s h i, P inputs s h → P (inputs ++ [i]) (m.step s i).1 (h ++ (m.step s i).2))
    (start : P [] s []) (inputs : List ι) : P inputs (m.after s inputs) (m.trace s inputs) := by
  induction inputs using List.reverseRecOn with
  | nil => exact start
  | append_singleton before i ih =>
    have moved := preserved before _ _ i ih
    simpa only [after_append,trace_append,after_cons,after_nil,trace_cons,trace_nil,List.append_nil] using moved

variable {Q : σ → Prop} {good : ε → Prop}

theorem invariant (preserved : ∀ s i, Q s → Q (m.step s i).1) (start : Q s) (inputs : List ι) :
    Q (m.after s inputs) :=
  history (P:=fun s _ => Q s) (fun s _ i => preserved s i) start inputs

theorem meets_congr (preserved : ∀ s i, Q s → Q (m.step s i).1) (same : ∀ s i, Q s → (c s i ↔ d s i)) (start : Q s)
    (inputs : List ι) : m.Meets c s inputs ↔ m.Meets d s inputs := by
  induction inputs generalizing s with
  | nil => exact Iff.rfl
  | cons i rest ih => exact and_congr (same s i start) (ih (preserved s i start))

-- A condition that keeps an invariant and follows from another with it.
theorem meets_of_guarded (preserved : ∀ s i, Q s → c s i → Q (m.step s i).1 ∧ d s i) (start : Q s)
    (met : m.Meets c s inputs) : m.Meets d s inputs := by
  induction inputs generalizing s with
  | nil => trivial
  | cons i rest ih =>
    obtain ⟨next,good⟩ := preserved s i start met.1
    exact ⟨good,ih next met.2⟩

-- Two conditions that agree while an invariant holds, which the first of them keeps.
theorem meets_iff (decides : ∀ s i, Q s → (c s i ↔ d s i)) (preserved : ∀ s i, Q s → c s i → Q (m.step s i).1)
    (start : Q s) (inputs : List ι) : m.Meets c s inputs ↔ m.Meets d s inputs := by
  induction inputs generalizing s with
  | nil => exact Iff.rfl
  | cons i rest ih =>
    rw [meets_cons,meets_cons,decides s i start]
    apply and_congr_right
    intro met
    exact ih (preserved s i start ((decides s i start).mpr met))

-- When a condition on the step decides whether its outputs are good, the same
-- condition on every step decides it for a run.
theorem good_iff_meets (preserved : ∀ s i, Q s → Q (m.step s i).1)
    (decides : ∀ s i, Q s → ((∀ e ∈ (m.step s i).2, good e) ↔ c s i)) (start : Q s) (inputs : List ι) :
    (∀ e ∈ m.trace s inputs, good e) ↔ m.Meets c s inputs := by
  induction inputs generalizing s with
  | nil => simp
  | cons i rest ih =>
    simp only [trace_cons,meets_cons,List.mem_append,or_imp,forall_and]
    exact and_congr (decides s i start) (ih (preserved s i start))

end Invariants

section Schedules
variable {m} {goal : σ → Prop} {later : Nat → ι}

theorem goal_later (reached : ∃ n, goal (m.after (m.step s (later 0)).1 ((List.range n).map fun k => later (k + 1)))) :
    ∃ n, goal (m.after s ((List.range n).map later)) := by
  obtain ⟨n,now⟩ := reached
  refine ⟨n + 1,?_⟩
  rw [List.range_succ_eq_map,List.map_cons,after_cons,List.map_map]
  exact now

theorem often_later {turn : ι → Prop} (often : ∀ n, ∃ k, n ≤ k ∧ turn (later k)) (n : Nat) :
    ∃ k, n ≤ k ∧ turn (later (k + 1)) := by
  obtain ⟨k,late,turns⟩ := often (n + 1)
  cases k with
  | zero => exact absurd late (Nat.not_succ_le_zero n)
  | succ k => exact ⟨k,Nat.le_of_succ_le_succ late,turns⟩

-- Along an endless schedule in which turns of one kind keep coming: what each of them
-- brings nearer, and no other input takes away, comes about.
theorem goal_reached (goal : σ → Prop) (rank : σ → ρ) {Q : σ → Prop} {turn : ι → Prop} {less : ρ → ρ → Prop}
    (wf : WellFounded less)
    (waits : ∀ s i, Q s → ¬turn i → goal (m.step s i).1 ∨ Q (m.step s i).1 ∧ rank (m.step s i).1 = rank s)
    (nears : ∀ s i, Q s → turn i → goal (m.step s i).1 ∨ Q (m.step s i).1 ∧ less (rank (m.step s i).1) (rank s))
    (often : ∀ n, ∃ k, n ≤ k ∧ turn (later k)) (start : Q s) : ∃ n, goal (m.after s ((List.range n).map later)) := by
  induction place : rank s using wf.induction generalizing s later with
  | h here nearer =>
    subst place
    obtain ⟨k,-,turns⟩ := often 0
    induction k generalizing s later with
    | zero =>
      rcases nears s (later 0) start turns with now | ⟨valid,closer⟩
      · exact goal_later ⟨0,now⟩
      · exact goal_later (nearer _ closer (often_later often) valid rfl)
    | succ k ih =>
      by_cases turned : turn (later 0)
      · rcases nears s (later 0) start turned with now | ⟨valid,closer⟩
        · exact goal_later ⟨0,now⟩
        · exact goal_later (nearer _ closer (often_later often) valid rfl)
      · rcases waits s (later 0) start turned with now | ⟨valid,same⟩
        · exact goal_later ⟨0,now⟩
        · exact goal_later (ih (often_later often) valid (fun other closer => nearer other (same ▸ closer)) turns)

end Schedules
end Mealy
