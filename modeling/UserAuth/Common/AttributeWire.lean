import UserAuth.Common.SetterLimits

namespace UserAuth.Attributes
open Std

theorem setEach_cons (attrs : Attributes) (setter : Setter) (rest : List Setter) :
    attrs.setEach (setter :: rest) = ((attrs.set setter).getD attrs).setEach rest := rfl

theorem settable_skip (settable : Settable attrs (setter :: rest)) : Settable attrs rest := by
  obtain ⟨room,distinct,fresh⟩ := settable
  rw [List.length_cons] at room
  rw [List.map_cons,List.nodup_cons] at distinct
  exact ⟨by omega,distinct.2,fun other member => fresh other (List.mem_cons_of_mem _ member)⟩

-- A setter that fails leaves nothing under its key.
theorem setEach_lookup (settable : Settable attrs setters) (key : AttributeKey) :
    (attrs.setEach setters).map[key]? = (setters.find? (·.key == key)).elim attrs.map[key]? Setter.dest := by
  induction setters generalizing attrs with
  | nil => rfl
  | cons setter rest ih =>
    have distinct := settable.distinct
    rw [List.map_cons,List.nodup_cons] at distinct
    have alone : ∀ same : setter.key = key, rest.find? (·.key == key) = none := by
      intro same
      rw [List.find?_eq_none]
      intro other inside match_
      exact distinct.1 ((same.trans (beq_iff_eq.mp match_).symm) ▸ List.mem_map_of_mem inside)
    rw [setEach_cons]
    cases encoded : setter.dest with
    | none =>
      rw [set_undecodable attrs encoded,Option.getD_none,ih (settable_skip settable)]
      by_cases same : setter.key = key
      · have absent : attrs.map[key]? = none := by
          rw [← same]
          exact ExtTreeMap.getElem?_eq_none (settable.fresh setter List.mem_cons_self)
        simp [alone same,same,absent,encoded]
      · simp [same]
    | some dest =>
      obtain ⟨stored,next⟩ := settable_next settable encoded
      rw [stored,Option.getD_some,ih next]
      by_cases same : setter.key = key
      · simp [alone same,same,encoded]
      · simp [same,ExtTreeMap.getElem?_insert]

theorem setEach_size (attrs : Attributes) (setters : List Setter) :
    (attrs.setEach setters).map.size ≤ attrs.map.size + setters.length := by
  induction setters generalizing attrs with
  | nil => exact Nat.le_of_eq rfl
  | cons setter rest ih =>
    have grown : ((attrs.set setter).getD attrs).map.size ≤ attrs.map.size + 1 := by
      cases stored : attrs.set setter with
      | none => exact Nat.le_succ _
      | some next =>
        obtain ⟨dest,_,stored⟩ := Option.bind_eq_some_iff.mp stored
        split at stored
        · cases stored
        split at stored
        · cases stored
        cases stored
        rw [Option.getD_some,ExtTreeMap.size_insert]
        split
        · exact Nat.le_succ _
        · exact Nat.le_of_eq rfl
    have later := ih ((attrs.set setter).getD attrs)
    rw [setEach_cons,List.length_cons]
    omega

-- Calls that a sender makes without looking at what they return.
structure Sendable (calls : List Call) : Prop where
  few : calls.length ≤ MAX_ATTR_COUNT
  distinct : (calls.map Call.key).Nodup
  fits : ∀ call ∈ calls, Fits call.type call.value

def sentBy (calls : List Call) : Attributes := empty.setEach (calls.map Call.setter)

variable {calls : List Call}

theorem Sendable.settable (sendable : Sendable calls) : Settable empty (calls.map Call.setter) := by
  have keys : (calls.map Call.setter).map Setter.key = calls.map Call.key := map_setter_key calls
  exact settable_empty (by simpa using sendable.few) (keys ▸ sendable.distinct)

theorem sent_lookup (sendable : Sendable calls) (member : call ∈ calls) :
    (sentBy calls).map[call.key]? = call.setter.dest := by
  have found : (calls.map Call.setter).find? (·.key == call.key) = some call.setter := by
    obtain ⟨before,after,rfl⟩ := List.append_of_mem member
    have distinct := sendable.distinct
    rw [List.map_append,List.map_cons] at distinct
    have apart := (List.nodup_append.mp distinct).2.2
    rw [List.map_append,List.map_cons,List.find?_append]
    have early : (before.map Call.setter).find? (·.key == call.key) = none := by
      rw [List.find?_eq_none]
      intro setter among same
      obtain ⟨other,earlier,rfl⟩ := List.mem_map.mp among
      have key : other.key = call.key := (setValue_key _ _ _).symm.trans (beq_iff_eq.mp same)
      exact apart _ (List.mem_map_of_mem earlier) _ List.mem_cons_self key
    rw [early,Option.none_or]
    exact List.find?_cons_of_pos (beq_iff_eq.mpr (setValue_key _ _ _))
  unfold sentBy
  rw [setEach_lookup sendable.settable,found]
  rfl

theorem sent_absent (sendable : Sendable calls) (absent : ∀ call ∈ calls, call.key ≠ key) :
    (sentBy calls).map[key]? = none := by
  have missing : (calls.map Call.setter).find? (·.key == key) = none := by
    rw [List.find?_eq_none]
    intro setter among same
    obtain ⟨call,member,rfl⟩ := List.mem_map.mp among
    exact absent call member ((setValue_key _ _ _).symm.trans (beq_iff_eq.mp same))
  unfold sentBy
  rw [setEach_lookup sendable.settable,missing]
  exact ExtTreeMap.getElem?_empty

-- What is sent arrives as it is.
theorem sent_received (sendable : Sendable calls) : ofRaw (serialize (sentBy calls)) = sentBy calls := by
  apply serialized_read_back
  · have bound := setEach_size empty (calls.map Call.setter)
    have few := sendable.few
    have bare : empty.map.size = 0 := ExtTreeMap.size_empty
    rw [List.length_map] at bound
    unfold sentBy
    omega
  · intro key value held
    by_cases found : ∃ call ∈ calls, call.key = key
    · obtain ⟨call,member,rfl⟩ := found
      rw [sent_lookup sendable member] at held
      exact (encoded_short call.type call.key call.value held).mpr (sendable.fits call member)
    · rw [sent_absent sendable fun call member same => found ⟨call,member,same⟩] at held
      cases held

theorem getValue_absent (type : ValueType) (absent : attrs.map[key]? = none) : getValue type attrs key = none := by
  have bound {α : Type} (f : Bytes → Option α) : attrs.map[key]?.bind f = none := by
    rw [absent]
    rfl
  cases type with
  | uint8Array => exact absent
  | attributes => exact Option.map_eq_none_iff.mpr absent
  | _ => exact bound _

theorem sent_get (sendable : Sendable calls) (type : ValueType) (value : type.Value) (member : ⟨type,key,value⟩ ∈ calls)
    (accepted : Accepted type value) (whole : Rereadable type value) : getValue type (sentBy calls) key = some value := by
  obtain ⟨dest,encoded⟩ := Option.isSome_iff_exists.mp ((accepted_iff type key value).mpr accepted)
  have held : (sentBy calls).map[key]? = some dest := (sent_lookup sendable member).trans encoded
  exact (getValue_stored type key value _ encoded held).mpr whole

theorem sent_get_absent (sendable : Sendable calls) (type : ValueType) (absent : ∀ call ∈ calls, call.key ≠ key) :
    getValue type (sentBy calls) key = none := getValue_absent type (sent_absent sendable absent)

end UserAuth.Attributes
