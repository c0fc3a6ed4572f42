import Mathlib.Data.List.Basic

-- A copy of a value that is kept by notices of its changes, some of them still on
-- their way.
namespace Watched
variable {α : Type u}

def Follows (value copy : α) (notices : List α) : Prop := notices.getLast?.getD copy = value

variable {value copy : α} {notices : List α}

theorem follows_read (value : α) : Follows value value [] := rfl

-- Of a change one is told.
theorem follows_told (value copy : α) (notices : List α) : Follows value copy (notices ++ [value]) := by
  simp [Follows]

theorem Follows.heard (follows : Follows value copy (notice :: notices)) : Follows value notice notices := by
  unfold Follows at follows ⊢
  cases notices with
  | nil => exact follows
  | cons next rest =>
    rw [List.getLast?_cons_cons] at follows
    rw [List.getLast?_eq_some_getLast (List.cons_ne_nil next rest)] at follows ⊢
    exact follows

-- To look at the value itself does no harm.
theorem Follows.read (follows : Follows value copy notices) : Follows value value notices := by
  unfold Follows at follows ⊢
  cases notices with
  | nil => rfl
  | cons next rest =>
    rw [List.getLast?_eq_some_getLast (List.cons_ne_nil next rest)] at follows ⊢
    exact follows

theorem Follows.all_heard (follows : Follows value copy []) : copy = value := follows

theorem Follows.differs (follows : Follows value copy notices) (stale : copy ≠ value) : notices ≠ [] := by
  rintro rfl
  exact stale follows

end Watched
