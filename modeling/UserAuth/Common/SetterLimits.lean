import Mathlib.Data.List.Dedup
import UserAuth.Common.TypedValue

namespace UserAuth.Attributes
open Std LittleEndian

structure Call where
  type : ValueType
  key : AttributeKey
  value : type.Value

def Call.setter (call : Call) : Setter := setValue call.type call.key call.value

-- The size Serialize reserves.
def serializedSize (attrs : Attributes) : Nat := (attrs.map.toList.map fun r => 8 + r.2.length).sum

-- What the encoded value of an accepted call needs to be short enough for the parser:
-- a string leaves room for its closing zero, nested bytes have a length at all.
def Fits : (type : ValueType) → type.Value → Prop
  | .string,value => value.length < MAX_ATTR_LENGTH
  | .attributes,value => serializedSize value ≤ MAX_ATTR_LENGTH
  | _,_ => True

structure Agrees (calls : List Call) : Prop where
  few : (calls.map Call.key).dedup.length ≤ MAX_ATTR_COUNT
  fits : ∀ before call after, calls = before ++ call :: after → (∀ later ∈ after, later.key ≠ call.key) →
    Fits call.type call.value

theorem length_serialize (attrs : Attributes) : (serialize attrs).length = serializedSize attrs := by
  rw [serialize,serializedSize,List.length_flatMap]
  congr 2
  funext r
  rw [recordBytes,List.length_append,length_recordHeader]

theorem encoded_short (type : ValueType) (key : AttributeKey) (value : type.Value)
    (encoded : (setValue type key value).dest = some dest) : dest.length ≤ MAX_ATTR_LENGTH ↔ Fits type value := by
  cases type with
  | bool =>
    cases encoded
    cases value <;> exact iff_of_true (by decide) trivial
  | uint64 | uint32 | uint16 | int32 | int64 =>
    cases encoded
    refine iff_of_true ?_ trivial
    rw [length_encode]
    decide
  | uint8 =>
    cases encoded
    exact iff_of_true (by rw [List.length_singleton]; decide) trivial
  | string =>
    obtain ⟨_,rfl⟩ := encodeStringBytes_some.mp encoded
    rw [List.length_append,List.length_singleton]
    exact Iff.rfl
  | uint64Array | uint32Array | uint16Array | int32Array =>
    obtain ⟨short,rfl⟩ := encodeArrayValue_some.mp encoded
    exact iff_of_true ((length_encodeMany _ _).trans_le short) trivial
  | uint8Array | attributesArray =>
    obtain ⟨short,rfl⟩ := encodeUint8ArrayValue_some.mp encoded
    exact iff_of_true short trivial
  | attributes =>
    obtain ⟨_,rfl⟩ := encodeAttributesValue_some.mp encoded
    rw [length_serialize]
    exact Iff.rfl

theorem set_stores (attrs : Attributes) (setter : Setter) (stored : attrs.set setter = some next) :
    ∃ dest, setter.dest = some dest ∧ next = ⟨attrs.map.insert setter.key dest⟩ := by
  obtain ⟨dest,encoded,stored⟩ := Option.bind_eq_some_iff.mp stored
  split at stored
  · cases stored
  · split at stored
    · cases stored
    · cases stored
      exact ⟨dest,encoded,rfl⟩

theorem setAll_cons (attrs : Attributes) (done : attrs.setAll (setter :: rest) = (next,true)) :
    ∃ dest, setter.dest = some dest ∧ setAll ⟨attrs.map.insert setter.key dest⟩ rest = (next,true) := by
  rw [setAll] at done
  cases stored : attrs.set setter with
  | none =>
    rw [stored] at done
    cases done
  | some mid =>
    rw [stored] at done
    obtain ⟨dest,encoded,rfl⟩ := set_stores attrs setter stored
    exact ⟨dest,encoded,done⟩

theorem setAll_encoded (attrs : Attributes) (setters : List Setter) (done : attrs.setAll setters = (next,true)) :
    ∀ setter ∈ setters, ∃ dest, setter.dest = some dest := by
  induction setters generalizing attrs with
  | nil => simp
  | cons setter rest ih =>
    obtain ⟨dest,encoded,done⟩ := setAll_cons attrs done
    exact List.forall_mem_cons.mpr ⟨⟨dest,encoded⟩,ih _ done⟩

-- After calls that all returned true each key holds what the last call under it encoded.
theorem setAll_last (attrs : Attributes) (setters : List Setter) (done : attrs.setAll setters = (next,true))
    (key : AttributeKey) :
    next.map[key]? = (setters.reverse.find? (·.key == key)).elim attrs.map[key]? Setter.dest := by
  induction setters generalizing attrs with
  | nil =>
    cases done
    rfl
  | cons setter rest ih =>
    obtain ⟨dest,encoded,done⟩ := setAll_cons attrs done
    rw [ih _ done,List.reverse_cons,List.find?_append]
    cases found : rest.reverse.find? (·.key == key) with
    | some later => rfl
    | none =>
      by_cases same : setter.key = key
      · simp [same,encoded]
      · simp [same,ExtTreeMap.getElem?_insert]

-- Under distinct keys every setter is the last one under its key.
theorem setAll_holds (attrs : Attributes) (setters : List Setter) (done : attrs.setAll setters = (next,true))
    (distinct : (setters.map Setter.key).Nodup) (member : setter ∈ setters) : next.map[setter.key]? = setter.dest := by
  rw [setAll_last attrs setters done]
  cases found : setters.reverse.find? (·.key == setter.key) with
  | none => exact absurd (beq_self_eq_true _) (List.find?_eq_none.mp found setter (List.mem_reverse.mpr member))
  | some other =>
    have inside := List.mem_reverse.mp (List.mem_of_find?_eq_some found)
    have same : other.key = setter.key := by simpa using List.find?_some found
    rw [List.inj_on_of_nodup_map distinct inside member same]
    rfl

theorem mem_setAll (attrs : Attributes) (setters : List Setter) (done : attrs.setAll setters = (next,true))
    (key : AttributeKey) : key ∈ next.map ↔ key ∈ attrs.map ∨ key ∈ setters.map Setter.key := by
  induction setters generalizing attrs with
  | nil =>
    cases done
    simp
  | cons setter rest ih =>
    obtain ⟨dest,_,done⟩ := setAll_cons attrs done
    have grown : key ∈ attrs.map.insert setter.key dest ↔ setter.key = key ∨ key ∈ attrs.map := by simp
    rw [ih _ done,grown,List.map_cons,List.mem_cons,eq_comm (a:=key),or_assoc,or_left_comm]

theorem size_setAll (setters : List Setter) (done : empty.setAll setters = (next,true)) :
    next.map.size = (setters.map Setter.key).dedup.length := by
  have keys : next.map.keys.Perm (setters.map Setter.key).dedup := by
    apply (List.perm_ext_iff_of_nodup ExtTreeMap.nodup_keys (List.nodup_dedup _)).mpr
    intro key
    rw [ExtTreeMap.mem_keys,mem_setAll empty setters done,List.mem_dedup]
    simp [empty]
  rw [← ExtTreeMap.length_keys,keys.length_eq]

theorem setAll_size (settable : Settable attrs setters) (done : attrs.setAll setters = (next,true)) :
    next.map.size = attrs.map.size + setters.length := by
  induction setters generalizing attrs with
  | nil =>
    cases done
    rfl
  | cons setter rest ih =>
    obtain ⟨dest,encoded,done⟩ := setAll_cons attrs done
    have new : setter.key ∉ attrs.map := settable.fresh setter List.mem_cons_self
    have grown : (attrs.map.insert setter.key dest).size = attrs.map.size + 1 := by
      simp [ExtTreeMap.size_insert,new]
    rw [ih (settable_next settable encoded).2 done,List.length_cons]
    dsimp only
    omega

theorem map_setter_key (calls : List Call) : (calls.map Call.setter).map Setter.key = calls.map Call.key := by
  rw [List.map_map]
  exact List.map_congr_left fun call _ => setValue_key call.type call.key call.value

-- The last call under a key, as a place in the list.
theorem last_call (calls : List Call) (call : Call) :
    calls.reverse.find? (·.key == call.key) = some call ↔
      ∃ before after, calls = before ++ call :: after ∧ ∀ later ∈ after, later.key ≠ call.key := by
  rw [List.find?_eq_some_iff_append]
  constructor
  · rintro ⟨_,after,before,split,others⟩
    refine ⟨before.reverse,after.reverse,?_,?_⟩
    · rw [← List.reverse_reverse calls,split]
      simp
    · intro later member
      simpa using others later (List.mem_reverse.mp member)
  · rintro ⟨before,after,rfl,others⟩
    refine ⟨by simp,after.reverse,before.reverse,by simp,?_⟩
    intro later member
    simpa using others later (List.mem_reverse.mp member)

theorem find_setter (calls : List Call) (key : AttributeKey) :
    (calls.map Call.setter).reverse.find? (·.key == key) = (calls.reverse.find? (·.key == key)).map Call.setter := by
  rw [← List.map_reverse,List.find?_map]
  congr 2
  funext call
  exact congrArg (· == key) (setValue_key call.type call.key call.value)

theorem within_iff (calls : List Call) (built : empty.setAll (calls.map Call.setter) = (attrs,true)) :
    WithinLimits attrs ↔ Agrees calls := by
  have size := size_setAll _ built
  rw [map_setter_key] at size
  have held : ∀ key, attrs.map[key]? = (calls.reverse.find? (·.key == key)).bind fun call => call.setter.dest := by
    intro key
    rw [setAll_last empty _ built key,find_setter]
    cases calls.reverse.find? (·.key == key) with
    | none => simp [empty]
    | some call => rfl
  constructor
  · intro within
    refine ⟨size ▸ within.few,?_⟩
    intro before call after place others
    have member : call ∈ calls := place ▸ List.mem_append_right before List.mem_cons_self
    obtain ⟨dest,encoded⟩ := setAll_encoded empty _ built call.setter (List.mem_map_of_mem member)
    have last := (last_call calls call).mpr ⟨before,after,place,others⟩
    have stored := held call.key
    rw [last,Option.bind_some,encoded] at stored
    exact (encoded_short call.type call.key call.value encoded).mp (within.short call.key dest stored)
  · intro agrees
    refine ⟨size ▸ agrees.few,?_⟩
    intro key value stored
    rw [held] at stored
    obtain ⟨call,last,encoded⟩ := Option.bind_eq_some_iff.mp stored
    have same : call.key = key := by simpa using List.find?_some last
    subst same
    obtain ⟨before,after,place,others⟩ := (last_call calls call).mp last
    exact (encoded_short call.type call.key call.value encoded).mpr (agrees.fits before call after place others)

theorem accepted_calls_reparse_iff (calls : List Call) (attrs : Attributes)
    (built : empty.setAll (calls.map Call.setter) = (attrs,true)) : ofRaw (serialize attrs) = attrs ↔ Agrees calls :=
  (reparses_iff attrs).trans (within_iff calls built)

def nameCall (name : Bytes) : Call := ⟨.string,ATTR_CALLER_NAME,name⟩

theorem nameCall_built (name : Bytes) (short : name.length ≤ MAX_ATTR_LENGTH) :
    empty.setAll ([nameCall name].map Call.setter) = (⟨empty.map.insert ATTR_CALLER_NAME (name ++ [0])⟩,true) := by
  have encoded : (nameCall name).setter.dest = some (name ++ [0]) := if_neg (Nat.not_lt.mpr short)
  have stored := set_fresh empty encoded (Nat.zero_le _) ExtTreeMap.not_mem_empty
  rw [List.map_singleton,setAll,stored]
  rfl

-- As long as the setter allows, with its zero one byte longer than the parser allows.
theorem longest_string_rejected :
    ¬∀ (calls : List Call) (attrs : Attributes),
      empty.setAll (calls.map Call.setter) = (attrs,true) → ofRaw (serialize attrs) = attrs := by
  intro reparse
  have size : (List.replicate MAX_ATTR_LENGTH (97 : UInt8)).length = MAX_ATTR_LENGTH := List.length_replicate
  generalize List.replicate MAX_ATTR_LENGTH (97 : UInt8) = name at size
  have within := (reparses_iff _).mp (reparse [nameCall name] _ (nameCall_built name (Nat.le_of_eq size)))
  have short := within.short ATTR_CALLER_NAME (name ++ [0]) ExtTreeMap.getElem?_insert_self
  rw [List.length_append,size,List.length_singleton] at short
  omega

def twoCalls : List Call := [⟨.int64,ATTR_FREEZING_TIME,-1⟩,⟨.string,ATTR_CALLER_NAME,[104,105]⟩]

theorem two_calls_reparse :
    ofRaw (serialize (empty.setAll (twoCalls.map Call.setter)).1) = (empty.setAll (twoCalls.map Call.setter)).1 := by
  apply (accepted_calls_reparse_iff twoCalls _ ?_).mpr
  · refine ⟨by decide,?_⟩
    intro before call after place _
    have member : call ∈ twoCalls := place ▸ List.mem_append_right before List.mem_cons_self
    rcases List.mem_cons.mp member with rfl | second
    · trivial
    · cases List.mem_singleton.mp second
      change 2 < MAX_ATTR_LENGTH
      decide
  · decide

end UserAuth.Attributes
