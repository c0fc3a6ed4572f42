import Mathlib.Data.List.TakeWhile
import UserAuth.Common.Defines
import UserAuth.Lib.LittleEndian

namespace UserAuth
open Std LittleEndian

abbrev AttributeKey := UInt32

structure Attributes where
  map : ExtTreeMap AttributeKey Bytes
  deriving DecidableEq

namespace Attributes

def ATTR_RESULT_CODE : AttributeKey := 100001
def ATTR_SIGNATURE : AttributeKey := 100004
def ATTR_TEMPLATE_ID_LIST : AttributeKey := 100007
def ATTR_REMAIN_TIMES : AttributeKey := 100009
def ATTR_FREEZING_TIME : AttributeKey := 100010
def ATTR_CALLER_NAME : AttributeKey := 100015
def ATTR_SCHEDULE_ID : AttributeKey := 100017
def ATTR_AUTH_TYPE : AttributeKey := 100024
def ATTR_CREDENTIAL_ID : AttributeKey := 100025
def ATTR_RESULT : AttributeKey := 100028
def ATTR_ROOT_SECRET : AttributeKey := 100032
def ATTR_AUTH_TOKEN : AttributeKey := 100033
def ATTR_SEC_USER_ID : AttributeKey := 100034
def ATTR_KEY_LIST : AttributeKey := 100037
def ATTR_TIP_INFO : AttributeKey := 100039
def ATTR_OLD_ROOT_SECRET : AttributeKey := 100040
def ATTR_OLD_CREDENTIAL_ID : AttributeKey := 100041
def ATTR_USER_ID : AttributeKey := 100043
def ATTR_EXTRA_INFO : AttributeKey := 100044
def ATTR_CREDENTIAL_DIGEST : AttributeKey := 100050
def ATTR_CREDENTIAL_COUNT : AttributeKey := 100051
def ATTR_MSG_SEQ_NUM : AttributeKey := 100052
def ATTR_MSG_ACK : AttributeKey := 100053
def ATTR_MSG_SRC_UDID : AttributeKey := 100054
def ATTR_MSG_SRC_END_POINT : AttributeKey := 100055
def ATTR_MSG_DEST_END_POINT : AttributeKey := 100056
def ATTR_CONNECTION_NAME : AttributeKey := 100057
def ATTR_MSG_VERSION : AttributeKey := 100058
def ATTR_MSG_TYPE : AttributeKey := 100059
def ATTR_CONTEXT_ID : AttributeKey := 100061
def ATTR_SCHEDULE_DATA : AttributeKey := 100064
def ATTR_SIGNED_AUTH_RESULT : AttributeKey := 100065
def ATTR_DEST_ROLE : AttributeKey := 100066
def ATTR_CHALLENGE : AttributeKey := 100072
def ATTR_AUTH_TRUST_LEVEL : AttributeKey := 100075
def ATTR_COLLECTOR_NETWORK_ID : AttributeKey := 100081
def ATTR_COLLECTOR_TOKEN_ID : AttributeKey := 100082
def ATTR_CALLER_TYPE : AttributeKey := 100085
def ATTR_PIN_EXPIRED_INFO : AttributeKey := 100083
def ATTR_NEXT_FAIL_LOCKOUT_DURATION : AttributeKey := 100084
def ATTR_RE_ENROLL_FLAG : AttributeKey := 100088
def ATTR_TOKEN_FROM_REMOTE_DEVICE : AttributeKey := 100093
def ATTR_PROPERTY_MODE : AttributeKey := 100023
def ATTR_EXECUTOR_SENSOR_HINT : AttributeKey := 100046
def ATTR_EXECUTOR_MATCHER : AttributeKey := 100047
def ATTR_EXECUTOR_ROLE : AttributeKey := 100063
def ATTR_PUBLIC_KEY : AttributeKey := 100069
def ATTR_EXECUTOR_REGISTER_INFO_LIST : AttributeKey := 100070
def ATTR_ESL : AttributeKey := 100071
def ATTR_REMOTE_EXECUTOR_INFO : AttributeKey := 100073
def ATTR_DEVICE_UDID : AttributeKey := 100080
def ATTR_REMAIN_ATTEMPTS : AttributeKey := ATTR_REMAIN_TIMES
def ATTR_LOCKOUT_DURATION : AttributeKey := ATTR_FREEZING_TIME

def MAX_ATTR_LENGTH : Nat := 81920
def MAX_ATTR_COUNT : Nat := 512

def empty : Attributes := ⟨∅⟩

def encodeBoolValue (src : Bool) : Option Bytes := some [if src then 1 else 0]
def encodeUint64Value (src : UInt64) : Option Bytes := some (encode 8 src.toNat)
def encodeUint32Value (src : UInt32) : Option Bytes := some (encode 4 src.toNat)
def encodeUint16Value (src : UInt16) : Option Bytes := some (encode 2 src.toNat)
def encodeInt32Value (src : Int32) : Option Bytes := some (encode 4 src.toUInt32.toNat)
def encodeInt64Value (src : Int64) : Option Bytes := some (encode 8 src.toUInt64.toNat)
def encodeStringValue (src : String) : Option Bytes :=
  if src.toUTF8.toList.length > MAX_ATTR_LENGTH then none else some (src.toUTF8.toList ++ [0])
def encodeUint8ArrayValue (src : Bytes) : Option Bytes :=
  if src.length > MAX_ATTR_LENGTH then none else some src
def encodeArrayValue (width : Nat) (src : List Nat) : Option Bytes :=
  if src.length * width > MAX_ATTR_LENGTH then none else some (src.flatMap (encode width))
def encodeUint64ArrayValue (src : List UInt64) : Option Bytes := encodeArrayValue 8 (src.map UInt64.toNat)
def encodeUint32ArrayValue (src : List UInt32) : Option Bytes := encodeArrayValue 4 (src.map UInt32.toNat)

-- A setter call as a value: the encoded bytes, nothing where encoding fails,
-- and whether it emplaces (SetInt64Value) or assigns (all the others).
structure Setter where
  key : AttributeKey
  dest : Option Bytes
  emplaces : Bool
  deriving DecidableEq

def setBoolValue (key : AttributeKey) (value : Bool) : Setter := ⟨key,encodeBoolValue value,false⟩
def setUint64Value (key : AttributeKey) (value : UInt64) : Setter := ⟨key,encodeUint64Value value,false⟩
def setUint32Value (key : AttributeKey) (value : UInt32) : Setter := ⟨key,encodeUint32Value value,false⟩
def setUint16Value (key : AttributeKey) (value : UInt16) : Setter := ⟨key,encodeUint16Value value,false⟩
def setInt32Value (key : AttributeKey) (value : Int32) : Setter := ⟨key,encodeInt32Value value,false⟩
def setInt64Value (key : AttributeKey) (value : Int64) : Setter := ⟨key,encodeInt64Value value,true⟩
def setStringValue (key : AttributeKey) (value : String) : Setter := ⟨key,encodeStringValue value,false⟩
def setUint8ArrayValue (key : AttributeKey) (value : Bytes) : Setter := ⟨key,encodeUint8ArrayValue value,false⟩
def setUint64ArrayValue (key : AttributeKey) (value : List UInt64) : Setter := ⟨key,encodeUint64ArrayValue value,false⟩
def setUint32ArrayValue (key : AttributeKey) (value : List UInt32) : Setter := ⟨key,encodeUint32ArrayValue value,false⟩

-- A call that returns false leaves the map as it was, so the outcome is the
-- new map or nothing.
def set (attrs : Attributes) (setter : Setter) : Option Attributes :=
  setter.dest.bind fun dest =>
    if attrs.map.size > MAX_ATTR_COUNT then none
    else if setter.emplaces && attrs.map.contains setter.key then none
    else some ⟨attrs.map.insert setter.key dest⟩

def decodeWidth (width : Nat) (src : Bytes) : Option Nat :=
  if src.length != width then none else some (decode src)

def getUint8ArrayValue (attrs : Attributes) (key : AttributeKey) : Option Bytes := attrs.map[key]?
def getBoolValue (attrs : Attributes) (key : AttributeKey) : Option Bool :=
  attrs.map[key]?.bind fun src => (decodeWidth 1 src).map (· == 1)
def getUint64Value (attrs : Attributes) (key : AttributeKey) : Option UInt64 :=
  attrs.map[key]?.bind fun src => (decodeWidth 8 src).map UInt64.ofNat
def getUint32Value (attrs : Attributes) (key : AttributeKey) : Option UInt32 :=
  attrs.map[key]?.bind fun src => (decodeWidth 4 src).map UInt32.ofNat
def getUint16Value (attrs : Attributes) (key : AttributeKey) : Option UInt16 :=
  attrs.map[key]?.bind fun src => (decodeWidth 2 src).map UInt16.ofNat
def getInt32Value (attrs : Attributes) (key : AttributeKey) : Option Int32 :=
  attrs.map[key]?.bind fun src => (decodeWidth 4 src).map fun n => (UInt32.ofNat n).toInt32
-- A string is the bytes before the closing zero, whatever they encode.
def getStringValue (attrs : Attributes) (key : AttributeKey) : Option Bytes :=
  attrs.map[key]?.bind fun src => if src.getLast? == some 0 then some src.dropLast else none
def hasAttribute (attrs : Attributes) (key : AttributeKey) : Bool := attrs.map.contains key

-- The callers' pattern of setting one value after another and returning at the
-- first failure. What was set up to there stays set.
def setAll (attrs : Attributes) : List Setter → Attributes × Bool
  | [] => (attrs,true)
  | setter :: rest =>
    match attrs.set setter with
    | none => (attrs,false)
    | some next => next.setAll rest

def given (condition : Bool) (setters : List Setter) : List Setter := if condition then setters else []

-- The pattern that ignores the setters' results.
def setEach (attrs : Attributes) (setters : List Setter) : Attributes :=
  setters.foldl (fun attrs setter => (attrs.set setter).getD attrs) attrs

@[simp] theorem given_true (setters : List Setter) : given true setters = setters := rfl
@[simp] theorem given_false (setters : List Setter) : given false setters = [] := rfl

theorem given_sublist (condition : Bool) (setters : List Setter) : (given condition setters).Sublist setters := by
  cases condition with
  | true => exact .refl _
  | false => exact List.nil_sublist _

@[simp] theorem set_undecodable (attrs : Attributes) (missing : setter.dest = none) : attrs.set setter = none := by
  simp [set,missing]

theorem set_fresh (attrs : Attributes) (encoded : setter.dest = some dest)
    (room : attrs.map.size ≤ MAX_ATTR_COUNT) (fresh : setter.key ∉ attrs.map) :
    attrs.set setter = some ⟨attrs.map.insert setter.key dest⟩ := by
  simp [set,encoded,Nat.not_lt.mpr room,fresh]

theorem set_keeps (attrs : Attributes) (stored : attrs.set setter = some next) (other : setter.key ≠ key) :
    next.hasAttribute key = attrs.hasAttribute key := by
  obtain ⟨dest,_,stored⟩ := Option.bind_eq_some_iff.mp stored
  split at stored
  · cases stored
  · split at stored
    · cases stored
    · cases stored
      have apart : compare setter.key key ≠ .eq := fun same => other (compare_eq_iff_eq.mp same)
      simp [hasAttribute,apart]

theorem setEach_keeps (attrs : Attributes) (others : ∀ setter ∈ setters, setter.key ≠ key) :
    (attrs.setEach setters).hasAttribute key = attrs.hasAttribute key := by
  induction setters generalizing attrs with
  | nil => rfl
  | cons setter rest ih =>
    have first : ((attrs.set setter).getD attrs).hasAttribute key = attrs.hasAttribute key := by
      cases stored : attrs.set setter with
      | none => rfl
      | some next => exact set_keeps attrs stored (others setter List.mem_cons_self)
    exact (ih _ fun other member => others other (List.mem_cons_of_mem _ member)).trans first

theorem array_encoded (key : AttributeKey) (value : Bytes) :
    (setUint8ArrayValue key value).dest.isSome = decide (value.length ≤ MAX_ATTR_LENGTH) := by
  unfold setUint8ArrayValue encodeUint8ArrayValue
  by_cases long : value.length > MAX_ATTR_LENGTH
  · simp [long,Nat.not_le.mpr long]
  · simp [long,Nat.not_lt.mp long]

-- Room for the setters, distinct keys, none of them there yet.
structure Settable (attrs : Attributes) (setters : List Setter) : Prop where
  room : attrs.map.size + setters.length ≤ MAX_ATTR_COUNT + 1
  distinct : (setters.map Setter.key).Nodup
  fresh : ∀ setter ∈ setters, setter.key ∉ attrs.map

theorem settable_empty (room : setters.length ≤ MAX_ATTR_COUNT) (distinct : (setters.map Setter.key).Nodup) :
    Settable empty setters := by
  refine ⟨?_,distinct,by simp [empty]⟩
  simp only [empty,ExtTreeMap.size_empty]
  omega

theorem settable_next (settable : Settable attrs (setter :: rest)) (encoded : setter.dest = some dest) :
    attrs.set setter = some ⟨attrs.map.insert setter.key dest⟩ ∧
      Settable ⟨attrs.map.insert setter.key dest⟩ rest := by
  obtain ⟨room,distinct,fresh⟩ := settable
  rw [List.length_cons] at room
  rw [List.map_cons,List.nodup_cons] at distinct
  have new := fresh setter (by simp)
  have grown : (attrs.map.insert setter.key dest).size = attrs.map.size + 1 := by
    simp [ExtTreeMap.size_insert,new]
  refine ⟨set_fresh attrs encoded (by omega) new,?_,distinct.2,?_⟩
  · dsimp only
    omega
  · intro other inside held
    rw [ExtTreeMap.mem_insert] at held
    cases held with
    | inl same =>
      have same : setter.key = other.key := compare_eq_iff_eq.mp same
      exact distinct.1 (same ▸ List.mem_map_of_mem inside)
    | inr old => exact fresh other (List.mem_cons_of_mem _ inside) old

-- The map holds exactly what comes before the first value that does not encode.
theorem setAll_lookup (attrs : Attributes) (setters : List Setter) (settable : Settable attrs setters) (key : AttributeKey) :
    (attrs.setAll setters).1.map[key]? =
      ((setters.takeWhile (·.dest.isSome)).find? (·.key == key)).elim attrs.map[key]? Setter.dest := by
  induction setters generalizing attrs with
  | nil => simp [setAll]
  | cons setter rest ih =>
    cases encoded : setter.dest with
    | none => simp [setAll,encoded]
    | some dest =>
      obtain ⟨stored,next⟩ := settable_next settable encoded
      have distinct := settable.distinct
      rw [List.map_cons,List.nodup_cons] at distinct
      rw [setAll,stored]
      dsimp only
      rw [ih _ next]
      by_cases same : setter.key = key
      · subst same
        have absent : (rest.takeWhile (·.dest.isSome)).find? (·.key == setter.key) = none := by
          rw [List.find?_eq_none]
          intro other inside match_
          exact distinct.1 ((beq_iff_eq.mp match_) ▸ List.mem_map_of_mem ((List.takeWhile_sublist _).subset inside))
        simp [encoded,absent]
      · simp [encoded,same,ExtTreeMap.getElem?_insert]

theorem setAll_complete (attrs : Attributes) (setters : List Setter) (settable : Settable attrs setters) :
    (attrs.setAll setters).2 = setters.all (·.dest.isSome) := by
  induction setters generalizing attrs with
  | nil => rfl
  | cons setter rest ih =>
    cases encoded : setter.dest with
    | none => simp [setAll,encoded]
    | some dest =>
      obtain ⟨stored,next⟩ := settable_next settable encoded
      rw [setAll,stored]
      simpa [encoded] using ih _ next

theorem setAll_has (setters : List Setter) (room : setters.length ≤ MAX_ATTR_COUNT)
    (distinct : (setters.map Setter.key).Nodup) (key : AttributeKey) :
    (empty.setAll setters).1.hasAttribute key = true ↔
      ∃ setter ∈ setters.takeWhile (·.dest.isSome), setter.key = key := by
  have lookup := setAll_lookup empty setters (settable_empty room distinct) key
  have held : (empty.setAll setters).1.hasAttribute key = (empty.setAll setters).1.map[key]?.isSome :=
    ExtTreeMap.contains_eq_isSome_getElem?
  rw [held,lookup]
  cases found : (setters.takeWhile (·.dest.isSome)).find? (·.key == key) with
  | none => simpa [empty] using List.find?_eq_none.mp found
  | some setter =>
    have member := List.mem_of_find?_eq_some found
    have encoded : setter.dest.isSome = true := List.mem_takeWhile_imp (p:=fun s : Setter => s.dest.isSome) member
    exact iff_of_true encoded ⟨setter,member,by simpa using List.find?_some found⟩

end Attributes
end UserAuth
