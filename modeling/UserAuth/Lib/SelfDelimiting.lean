import Mathlib.Data.List.Basic

-- Words that can be told apart at the front of any text, so that a text of such
-- words is read in one way only.
namespace SelfDelimiting
variable {α : Type u} {β : Type v}

def Delimits (valid : α → Prop) (write : α → List β) : Prop :=
  ∀ a b, valid a → valid b → ∀ rest other, write a ++ rest = write b ++ other → a = b ∧ rest = other

-- A header of fixed width that tells the length of what follows it.
theorem header_delimits {valid : α → Prop} {header body : α → List β} {width : Nat}
    (fixed : ∀ a, valid a → (header a).length = width)
    (sized : ∀ a b, valid a → valid b → header a = header b → (body a).length = (body b).length)
    (whole : ∀ a b, header a = header b → body a = body b → valid a → valid b → a = b) :
    Delimits valid fun a => header a ++ body a := by
  intro a b validA validB rest other same
  rw [List.append_assoc,List.append_assoc] at same
  obtain ⟨front,back⟩ := List.append_inj same ((fixed a validA).trans (fixed b validB).symm)
  obtain ⟨bodies,rests⟩ := List.append_inj back (sized a b validA validB front)
  exact ⟨whole a b front bodies validA validB,rests⟩

theorem Delimits.flatMap_injective {valid : α → Prop} {write : α → List β} (delimits : Delimits valid write)
    (visible : ∀ a, write a ≠ []) {xs ys : List α} (left : ∀ a ∈ xs, valid a) (right : ∀ b ∈ ys, valid b)
    (same : xs.flatMap write = ys.flatMap write) : xs = ys := by
  induction xs generalizing ys with
  | nil =>
    cases ys with
    | nil => rfl
    | cons b rest =>
      rw [List.flatMap_nil,List.flatMap_cons] at same
      exact absurd (List.append_eq_nil_iff.mp same.symm).1 (visible b)
  | cons a rest ih =>
    cases ys with
    | nil =>
      rw [List.flatMap_nil,List.flatMap_cons] at same
      exact absurd (List.append_eq_nil_iff.mp same).1 (visible a)
    | cons b other =>
      rw [List.flatMap_cons,List.flatMap_cons] at same
      obtain ⟨rfl,rests⟩ := delimits a b (left a List.mem_cons_self) (right b List.mem_cons_self) _ _ same
      have tails := ih (fun c member => left c (List.mem_cons_of_mem a member))
        (fun c member => right c (List.mem_cons_of_mem a member)) rests
      rw [tails]

end SelfDelimiting
