import Mathlib.Data.List.Induction

-- Histories of events, oldest first, and what is asked of each event in view of
-- those before it.
namespace History
variable {ε : Type u}

def Each (good : List ε → ε → Prop) (events : List ε) : Prop :=
  ∀ before event, before ++ [event] <+: events → good before event

theorem each_nil (good : List ε → ε → Prop) : Each good [] := by
  intro before event earlier
  simp at earlier

theorem each_concat {good : List ε → ε → Prop} : Each good (events ++ [event]) ↔ Each good events ∧ good events event := by
  constructor
  · intro each
    refine ⟨fun before other earlier => each before other ?_,each events event (List.prefix_refl _)⟩
    exact earlier.trans (List.prefix_append _ _)
  · intro ⟨each,last⟩ before other earlier
    rcases List.prefix_concat_iff.mp earlier with whole | within
    · obtain ⟨rfl,same⟩ := List.append_inj' whole rfl
      cases same
      exact last
    · exact each before other within

-- What asks nothing of what came before may follow anything.
theorem Each.append {more : List ε} (each : Each good events) (fine : ∀ before, ∀ event ∈ more, good before event) :
    Each good (events ++ more) := by
  induction more using List.reverseRecOn with
  | nil => exact (List.append_nil events).symm ▸ each
  | append_singleton more last ih =>
    rw [← List.append_assoc,each_concat]
    refine ⟨ih fun before event member => fine before event (List.mem_append_left _ member),?_⟩
    exact fine _ last (List.mem_append_right _ List.mem_cons_self)

-- What holds after the events seen so far, and stays so as more come.
theorem Each.grow {more : List ε} (each : Each good events)
    (stays : ∀ before later event, good before event → good (before ++ later) event)
    (fine : ∀ event ∈ more, good events event) : Each good (events ++ more) := by
  induction more using List.reverseRecOn with
  | nil => exact (List.append_nil events).symm ▸ each
  | append_singleton more last ih =>
    rw [← List.append_assoc,each_concat]
    refine ⟨ih fun event member => fine event (List.mem_append_left _ member),?_⟩
    exact stays events more last (fine last (List.mem_append_right _ List.mem_cons_self))

theorem Each.earlier {good : List ε → ε → Prop} (each : Each good (events ++ more)) : Each good events :=
  fun before event earlier => each before event (earlier.trans (List.prefix_append _ _))

theorem count_concat [DecidableEq ε] (events : List ε) (last event : ε) :
    (events ++ [last]).count event = events.count event + if last = event then 1 else 0 := by
  rw [List.count_append,List.count_singleton]
  congr 1
  exact if_congr beq_iff_eq rfl rfl

theorem mem_concat {events : List ε} {last event : ε} : event ∈ events ++ [last] ↔ event ∈ events ∨ event = last := by
  rw [List.mem_append,List.mem_singleton]

end History
