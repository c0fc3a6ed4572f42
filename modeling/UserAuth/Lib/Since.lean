import Mathlib.Data.List.DropRight

-- The part of a history that comes after its last marker.
namespace Since
variable {ε : Type u} (marker : ε → Bool)

def since (events : List ε) : List ε := events.rtakeWhile fun event => !marker event

@[simp] theorem since_nil : since marker [] = [] := rfl

theorem since_concat (events : List ε) (last : ε) :
    since marker (events ++ [last]) = if marker last then [] else since marker events ++ [last] := by
  unfold since
  rw [List.rtakeWhile_concat]
  cases marker last <;> rfl

variable {marker}

theorem since_append (none : ∀ event ∈ more, marker event = false) (events : List ε) :
    since marker (events ++ more) = since marker events ++ more := by
  induction more using List.reverseRecOn with
  | nil => simp
  | append_singleton more last ih =>
    have earlier := ih fun event member => none event (List.mem_append_left _ member)
    have unmarked : marker last = false := none last (List.mem_append_right _ List.mem_cons_self)
    rw [← List.append_assoc,since_concat,earlier,unmarked,List.append_assoc]
    rfl

end Since
