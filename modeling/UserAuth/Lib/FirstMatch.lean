import Mathlib.Data.List.Basic

-- An ordered list of entries, searched from the front. An entry may cover more
-- keys than the one it was registered under, so the order decides who answers.
namespace FirstMatch
variable {ε : Type u} {κ : Type v} (covers : ε → κ → Bool)

def lookup (entries : List ε) (key : κ) : Option ε := entries.find? (covers · key)

def register (entries : List ε) (key : κ) (entry : ε) : Option (List ε) :=
  if (lookup covers entries key).isSome then none else some (entries ++ [entry])

def unregister (entries : List ε) (key : κ) : List ε := entries.eraseP (covers · key)

-- No entry stands behind one that answers in its place.
def Unshadowed (keyOf : ε → κ) (entries : List ε) : Prop :=
  entries.Pairwise fun earlier later => covers earlier (keyOf later) = false

section Basics
variable {covers} {entries next : List ε} {entry : ε} {key : κ}

theorem register_eq (registered : register covers entries key entry = some next) :
    lookup covers entries key = none ∧ next = entries ++ [entry] := by
  unfold register at registered
  split at registered
  · cases registered
  · rename_i absent
    exact ⟨Option.not_isSome_iff_eq_none.mp absent,(Option.some.inj registered).symm⟩

theorem register_refused (refused : register covers entries key entry = none) :
    ∃ other, lookup covers entries key = some other := by
  unfold register at refused
  split at refused
  · exact Option.isSome_iff_exists.mp ‹_›
  · cases refused

theorem lookup_none : lookup covers entries key = none ↔ ∀ other ∈ entries, covers other key = false := by
  simp [lookup]

theorem lookup_mem (found : lookup covers entries key = some entry) : entry ∈ entries ∧ covers entry key = true :=
  ⟨List.mem_of_find?_eq_some found,List.find?_some (p:=(covers · key)) found⟩

theorem unregister_absent (absent : lookup covers entries key = none) : unregister covers entries key = entries := by
  refine List.eraseP_of_forall_not fun other member => ?_
  simp [lookup_none.mp absent other member]

theorem unregister_undoes (absent : lookup covers entries key = none) (own : covers entry key = true) :
    unregister covers (entries ++ [entry]) key = entries := by
  have none : ∀ other ∈ entries, ¬covers other key = true := fun other member => by
    simp [lookup_none.mp absent other member]
  rw [unregister,List.eraseP_append_right _ none,List.eraseP_cons_of_pos (p:=(covers · key)) own,List.append_nil]

theorem unregister_first (found : lookup covers entries key = some entry) :
    ∃ front back, entries = front ++ entry :: back ∧ unregister covers entries key = front ++ back := by
  obtain ⟨hit,front,back,whole,misses⟩ := List.find?_eq_some_iff_append.mp found
  refine ⟨front,back,whole,?_⟩
  have none : ∀ other ∈ front, ¬covers other key = true := fun other member => by
    simpa using misses other member
  rw [unregister,whole,List.eraseP_append_right _ none,List.eraseP_cons_of_pos (p:=(covers · key)) hit]

theorem unregister_sublist : (unregister covers entries key).Sublist entries := List.eraseP_sublist

end Basics

section Order
variable {covers} {keyOf : ε → κ} {entries : List ε} {entry : ε}

theorem unshadowed_register (ordered : Unshadowed covers keyOf entries)
    (absent : lookup covers entries (keyOf entry) = none) : Unshadowed covers keyOf (entries ++ [entry]) := by
  refine List.pairwise_append.mpr ⟨ordered,List.pairwise_singleton _ _,?_⟩
  intro earlier member later last
  rw [List.mem_singleton.mp last]
  exact lookup_none.mp absent earlier member

-- An entry in such a list is the one found and removed under its own key.
theorem unshadowed_lookup (ordered : Unshadowed covers keyOf entries) (member : entry ∈ entries)
    (own : covers entry (keyOf entry) = true) : lookup covers entries (keyOf entry) = some entry := by
  obtain ⟨front,back,rfl⟩ := List.append_of_mem member
  refine List.find?_eq_some_iff_append.mpr ⟨own,front,back,rfl,fun other before => ?_⟩
  have earlier := (List.pairwise_append.mp ordered).2.2 other before entry List.mem_cons_self
  simp [earlier]

theorem unshadowed_unregister (ordered : Unshadowed covers keyOf entries) (own : covers entry (keyOf entry) = true) :
    entry ∉ unregister covers entries (keyOf entry) := by
  intro still
  have member : entry ∈ entries := unregister_sublist.subset still
  obtain ⟨front,back,whole,rest⟩ := unregister_first (unshadowed_lookup ordered member own)
  rw [whole] at ordered
  obtain ⟨_,behind,across⟩ := List.pairwise_append.mp ordered
  rw [rest] at still
  rcases List.mem_append.mp still with before | after
  · have missed := across entry before entry List.mem_cons_self
    rw [own] at missed
    cases missed
  · have missed := (List.pairwise_cons.mp behind).1 entry after
    rw [own] at missed
    cases missed

-- Where the entry removed stands under the key itself, nothing else goes.
theorem unregister_own [DecidableEq κ] {key : κ} (ordered : Unshadowed covers keyOf entries)
    (reflexive : ∀ other, covers other (keyOf other) = true) (found : lookup covers entries key = some entry)
    (own : keyOf entry = key) : unregister covers entries key = entries.filter (keyOf · != key) := by
  subst own
  obtain ⟨hit,front,back,rfl,misses⟩ := List.find?_eq_some_iff_append.mp found
  obtain ⟨_,behind,_⟩ := List.pairwise_append.mp ordered
  have before : ∀ other ∈ front, (keyOf other != keyOf entry) = true := by
    intro other member
    apply bne_iff_ne.mpr
    intro same
    have missed := misses other member
    rw [← same,reflexive other] at missed
    cases missed
  have after : ∀ other ∈ back, (keyOf other != keyOf entry) = true := by
    intro other member
    apply bne_iff_ne.mpr
    intro same
    have missed := (List.pairwise_cons.mp behind).1 other member
    rw [same,hit] at missed
    cases missed
  have unmatched : ∀ other ∈ front, ¬covers other (keyOf entry) = true := fun other member => by
    simpa using misses other member
  rw [unregister,List.eraseP_append_right _ unmatched,List.eraseP_cons_of_pos (p:=(covers · (keyOf entry))) hit,
    List.filter_append,List.filter_eq_self.mpr before,List.filter_cons_of_neg (by simp),List.filter_eq_self.mpr after]

end Order
end FirstMatch
