import Std.Data.ExtTreeSet.Lemmas
import Mathlib.Data.List.Basic

-- Erasing a list of elements from a tree set.
namespace TreeErase
open Std
variable {α : Type u} {cmp : α → α → Ordering} [TransCmp cmp]

theorem foldl_val {P : σ → Prop} {f : {s // P s} → α → {s // P s}} {g : σ → α → σ}
    (same : ∀ s a, (f s a).1 = g s.1 a) (s : {s // P s}) (l : List α) : (l.foldl f s).1 = l.foldl g s.1 := by
  induction l generalizing s with
  | nil => rfl
  | cons a rest ih => rw [List.foldl_cons,List.foldl_cons,ih,same]

theorem map_eraseMany {β : α → Type v} (t : ExtDTreeMap α β cmp) (keys : List α) :
    t.eraseMany keys = keys.foldl .erase t := by
  unfold ExtDTreeMap.eraseMany
  simp only [List.forIn_pure_yield_eq_foldl]
  exact foldl_val (fun _ _ => rfl) _ keys

theorem eraseMany_cons (t : ExtTreeSet α cmp) (a : α) (rest : List α) :
    t.eraseMany (a :: rest) = (t.erase a).eraseMany rest := by
  have folded := map_eraseMany t.inner.inner (a :: rest)
  have later := map_eraseMany (t.inner.inner.erase a) rest
  have same : t.inner.inner.eraseMany (a :: rest) = (t.inner.inner.erase a).eraseMany rest := folded.trans later.symm
  unfold ExtTreeSet.eraseMany ExtTreeMap.eraseMany
  rw [same]
  rfl

theorem mem_eraseMany [LawfulEqCmp cmp] (t : ExtTreeSet α cmp) (l : List α) : a ∈ t.eraseMany l ↔ a ∈ t ∧ a ∉ l := by
  induction l generalizing t with
  | nil =>
    have same : t.eraseMany ([] : List α) = t := rfl
    simp [same]
  | cons b rest ih =>
    have apart : cmp b a ≠ .eq ↔ a ≠ b := LawfulEqCmp.compare_eq_iff_eq.not.trans ne_comm
    rw [eraseMany_cons,ih,ExtTreeSet.mem_erase,apart]
    simp only [List.mem_cons,not_or]
    rw [and_comm (a:=a ≠ b),and_assoc]

end TreeErase
