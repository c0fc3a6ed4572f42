import UserAuth.Common.AttributeCodec

namespace UserAuth.Attributes
open Std LittleEndian

inductive ValueType where
  | bool | uint64 | uint32 | uint16 | uint8 | int32 | int64 | string
  | uint64Array | uint32Array | uint16Array | uint8Array | int32Array
  | attributes | attributesArray
  deriving DecidableEq,Repr

-- A std::string holds any bytes, zeros among them.
abbrev ValueType.Value : ValueType → Type
  | .bool => Bool
  | .uint64 => UInt64
  | .uint32 => UInt32
  | .uint16 => UInt16
  | .uint8 => UInt8
  | .int32 => Int32
  | .int64 => Int64
  | .string => Bytes
  | .uint64Array => List UInt64
  | .uint32Array => List UInt32
  | .uint16Array => List UInt16
  | .uint8Array => Bytes
  | .int32Array => List Int32
  | .attributes => Attributes
  | .attributesArray => List Attributes

def encodeUint8Value (src : UInt8) : Option Bytes := some [src]
def encodeStringBytes (src : Bytes) : Option Bytes := if src.length > MAX_ATTR_LENGTH then none else some (src ++ [0])
def encodeUint16ArrayValue (src : List UInt16) : Option Bytes := encodeArrayValue 2 (src.map UInt16.toNat)
def encodeInt32ArrayValue (src : List Int32) : Option Bytes := encodeArrayValue 4 (src.map fun n => n.toUInt32.toNat)
def encodeAttributesValue (src : Attributes) : Option Bytes := if serialize src = [] then none else some (serialize src)
def attributesArrayData (array : List Attributes) : Bytes :=
  array.flatMap fun item => encode 4 (serialize item).length ++ serialize item

def setUint8Value (key : AttributeKey) (value : UInt8) : Setter := ⟨key,encodeUint8Value value,false⟩
def setStringBytes (key : AttributeKey) (value : Bytes) : Setter := ⟨key,encodeStringBytes value,false⟩
def setUint16ArrayValue (key : AttributeKey) (value : List UInt16) : Setter := ⟨key,encodeUint16ArrayValue value,false⟩
def setInt32ArrayValue (key : AttributeKey) (value : List Int32) : Setter := ⟨key,encodeInt32ArrayValue value,false⟩
def setAttributesValue (key : AttributeKey) (value : Attributes) : Setter := ⟨key,encodeAttributesValue value,false⟩
def setAttributesArrayValue (key : AttributeKey) (array : List Attributes) : Setter :=
  setUint8ArrayValue key (attributesArrayData array)

-- The literals set elsewhere are strings of this kind.
theorem setStringValue_bytes (key : AttributeKey) (value : String) :
    setStringValue key value = setStringBytes key value.toUTF8.toList := rfl

def decodeArrayValue (width : Nat) (src : Bytes) : Option (List Nat) :=
  if src.length % width != 0 then none else some (decodeMany width (src.length / width) src)

def getUint8Value (attrs : Attributes) (key : AttributeKey) : Option UInt8 :=
  attrs.map[key]?.bind fun src => (decodeWidth 1 src).map UInt8.ofNat
def getInt64Value (attrs : Attributes) (key : AttributeKey) : Option Int64 :=
  attrs.map[key]?.bind fun src => (decodeWidth 8 src).map fun n => (UInt64.ofNat n).toInt64
def getUint64ArrayValue (attrs : Attributes) (key : AttributeKey) : Option (List UInt64) :=
  attrs.map[key]?.bind fun src => (decodeArrayValue 8 src).map (·.map UInt64.ofNat)
def getUint32ArrayValue (attrs : Attributes) (key : AttributeKey) : Option (List UInt32) :=
  attrs.map[key]?.bind fun src => (decodeArrayValue 4 src).map (·.map UInt32.ofNat)
def getUint16ArrayValue (attrs : Attributes) (key : AttributeKey) : Option (List UInt16) :=
  attrs.map[key]?.bind fun src => (decodeArrayValue 2 src).map (·.map UInt16.ofNat)
def getInt32ArrayValue (attrs : Attributes) (key : AttributeKey) : Option (List Int32) :=
  attrs.map[key]?.bind fun src => (decodeArrayValue 4 src).map (·.map fun n => (UInt32.ofNat n).toInt32)
-- Nested bytes that do not parse are an empty object, not a failure.
def getAttributesValue (attrs : Attributes) (key : AttributeKey) : Option Attributes :=
  attrs.map[key]?.map ofRaw

def readItems (data : Bytes) : Option (List Attributes) :=
  if data = [] then some []
  else if data.length < 4 then none
  else if (data.drop 4).length < decode (data.take 4) then none
  else (readItems ((data.drop 4).drop (decode (data.take 4)))).map
    (ofRaw ((data.drop 4).take (decode (data.take 4))) :: ·)
termination_by data.length
decreasing_by
  simp only [List.length_drop]
  omega

def getAttributesArrayValue (attrs : Attributes) (key : AttributeKey) : Option (List Attributes) :=
  (attrs.getUint8ArrayValue key).bind readItems

def setValue (type : ValueType) (key : AttributeKey) (value : type.Value) : Setter :=
  match type with
  | .bool => setBoolValue key value
  | .uint64 => setUint64Value key value
  | .uint32 => setUint32Value key value
  | .uint16 => setUint16Value key value
  | .uint8 => setUint8Value key value
  | .int32 => setInt32Value key value
  | .int64 => setInt64Value key value
  | .string => setStringBytes key value
  | .uint64Array => setUint64ArrayValue key value
  | .uint32Array => setUint32ArrayValue key value
  | .uint16Array => setUint16ArrayValue key value
  | .uint8Array => setUint8ArrayValue key value
  | .int32Array => setInt32ArrayValue key value
  | .attributes => setAttributesValue key value
  | .attributesArray => setAttributesArrayValue key value

def getValue (type : ValueType) (attrs : Attributes) (key : AttributeKey) : Option type.Value :=
  match type with
  | .bool => attrs.getBoolValue key
  | .uint64 => attrs.getUint64Value key
  | .uint32 => attrs.getUint32Value key
  | .uint16 => attrs.getUint16Value key
  | .uint8 => attrs.getUint8Value key
  | .int32 => attrs.getInt32Value key
  | .int64 => attrs.getInt64Value key
  | .string => attrs.getStringValue key
  | .uint64Array => attrs.getUint64ArrayValue key
  | .uint32Array => attrs.getUint32ArrayValue key
  | .uint16Array => attrs.getUint16ArrayValue key
  | .uint8Array => attrs.getUint8ArrayValue key
  | .int32Array => attrs.getInt32ArrayValue key
  | .attributes => attrs.getAttributesValue key
  | .attributesArray => attrs.getAttributesArrayValue key

-- The limit that the setter itself checks.
def Accepted : (type : ValueType) → type.Value → Prop
  | .string,value => value.length ≤ MAX_ATTR_LENGTH
  | .uint64Array,value => value.length * 8 ≤ MAX_ATTR_LENGTH
  | .uint32Array,value => value.length * 4 ≤ MAX_ATTR_LENGTH
  | .uint16Array,value => value.length * 2 ≤ MAX_ATTR_LENGTH
  | .uint8Array,value => value.length ≤ MAX_ATTR_LENGTH
  | .int32Array,value => value.length * 4 ≤ MAX_ATTR_LENGTH
  | .attributes,value => value.map ≠ ∅
  | .attributesArray,value => (attributesArrayData value).length ≤ MAX_ATTR_LENGTH
  | _,_ => True

-- Nested objects come back where the parser takes their bytes.
def Rereadable : (type : ValueType) → type.Value → Prop
  | .attributes,value => WithinLimits value
  | .attributesArray,value => ∀ item ∈ value, WithinLimits item
  | _,_ => True

theorem setValue_key (type : ValueType) (key : AttributeKey) (value : type.Value) :
    (setValue type key value).key = key := by
  cases type <;> rfl

-- SetInt64Value alone emplaces.
theorem setValue_emplaces (type : ValueType) (key : AttributeKey) (value : type.Value) :
    (setValue type key value).emplaces = decide (type = .int64) := by
  cases type <;> rfl

theorem decodeWidth_encode (small : n < 256 ^ width) : decodeWidth width (encode width n) = some n := by
  rw [decodeWidth,length_encode,decode_encode_of_lt small]
  simp

theorem serialize_eq_nil_iff (attrs : Attributes) : serialize attrs = [] ↔ attrs.map = ∅ := by
  rw [← ExtTreeMap.toList_eq_nil_iff,serialize,List.flatMap_eq_nil_iff]
  constructor
  · intro all
    cases list : attrs.map.toList with
    | nil => rfl
    | cons r rest => exact absurd (all r (list ▸ List.mem_cons_self)) (recordBytes_visible r)
  · intro none_
    simp [none_]

-- When an encoder with a limit answers, and with which bytes.
theorem encodeStringBytes_some :
    encodeStringBytes src = some dest ↔ src.length ≤ MAX_ATTR_LENGTH ∧ src ++ [0] = dest := by
  rw [encodeStringBytes,Option.ite_none_left_eq_some,Nat.not_lt,Option.some_inj]

theorem encodeUint8ArrayValue_some :
    encodeUint8ArrayValue src = some dest ↔ src.length ≤ MAX_ATTR_LENGTH ∧ src = dest := by
  rw [encodeUint8ArrayValue,Option.ite_none_left_eq_some,Nat.not_lt,Option.some_inj]

theorem encodeArrayValue_some :
    encodeArrayValue width ns = some dest ↔ ns.length * width ≤ MAX_ATTR_LENGTH ∧ encodeMany width ns = dest := by
  rw [encodeArrayValue,Option.ite_none_left_eq_some,Nat.not_lt,Option.some_inj]
  rfl

theorem encodeAttributesValue_some :
    encodeAttributesValue src = some dest ↔ ¬src.map = ∅ ∧ serialize src = dest := by
  rw [encodeAttributesValue,Option.ite_none_left_eq_some,Option.some_inj,serialize_eq_nil_iff]

theorem encodes_iff {encoded : Option Bytes} (answers : ∀ dest, encoded = some dest ↔ accepted ∧ bytes = dest) :
    encoded.isSome ↔ accepted := by
  rw [Option.isSome_iff_exists]
  constructor
  · rintro ⟨dest,answered⟩
    exact ((answers dest).mp answered).1
  · intro fits
    exact ⟨bytes,(answers bytes).mpr ⟨fits,rfl⟩⟩

theorem decodeArrayValue_encode (positive : 0 < width) (small : ∀ n ∈ ns, n < 256 ^ width)
    (encoded : encodeArrayValue width ns = some dest) : decodeArrayValue width dest = some ns := by
  obtain ⟨_,rfl⟩ := encodeArrayValue_some.mp encoded
  have whole : ns.length * width % width = 0 := Nat.mul_mod_left _ _
  have count : ns.length * width / width = ns.length := Nat.mul_div_cancel _ positive
  rw [decodeArrayValue,length_encodeMany,whole,count,decodeMany_encodeMany width ns small]
  rfl

theorem readItems_nil : readItems [] = some [] := by
  rw [readItems]
  rfl

-- Items come back one by one, each as its own bytes are parsed.
theorem readItems_data (array : List Attributes) (short : (attributesArrayData array).length ≤ MAX_ATTR_LENGTH) :
    readItems (attributesArrayData array) = some (array.map fun item => ofRaw (serialize item)) := by
  induction array with
  | nil => exact readItems_nil
  | cons item rest ih =>
    have data : attributesArrayData (item :: rest) =
        encode 4 (serialize item).length ++ (serialize item ++ attributesArrayData rest) := by
      simp only [attributesArrayData,List.flatMap_cons,List.append_assoc]
    rw [data] at short ⊢
    simp only [List.length_append,length_encode] at short
    have width := length_encode 4 (serialize item).length
    have header : (encode 4 (serialize item).length ++ (serialize item ++ attributesArrayData rest)).take 4 = _ :=
      List.take_left' width
    have after : (encode 4 (serialize item).length ++ (serialize item ++ attributesArrayData rest)).drop 4 = _ :=
      List.drop_left' width
    have size : decode (encode 4 (serialize item).length) = (serialize item).length := decode_length (by omega)
    have body : (serialize item ++ attributesArrayData rest).take (serialize item).length = _ := List.take_left
    have left : (serialize item ++ attributesArrayData rest).drop (serialize item).length = _ := List.drop_left
    rw [readItems,header,after,size,body,left,ih (by omega)]
    rw [if_neg,if_neg,if_neg]
    · rfl
    · rw [List.length_append]
      omega
    · rw [List.length_append,length_encode]
      omega
    · intro none_
      have zero := congrArg List.length none_
      rw [List.length_append,length_encode,List.length_nil] at zero
      omega

theorem accepted_iff (type : ValueType) (key : AttributeKey) (value : type.Value) :
    (setValue type key value).dest.isSome ↔ Accepted type value := by
  cases type with
  | bool | uint64 | uint32 | uint16 | uint8 | int32 | int64 => exact iff_of_true rfl trivial
  | string => exact encodes_iff fun _ => encodeStringBytes_some
  | uint64Array | uint32Array | uint16Array | int32Array =>
    exact (encodes_iff fun _ => encodeArrayValue_some).trans (by rw [List.length_map]; exact Iff.rfl)
  | uint8Array | attributesArray => exact encodes_iff fun _ => encodeUint8ArrayValue_some
  | attributes => exact encodes_iff fun _ => encodeAttributesValue_some

theorem map_back {f : α → β} {g : β → α} (back : ∀ a, g (f a) = a) (values : List α) :
    (values.map f).map g = values := by
  rw [List.map_map]
  exact List.map_id'' back values

theorem fixed_back {attrs : Attributes} {key : AttributeKey} {back : Nat → α} (inverse : back n = value)
    (small : n < 256 ^ width) (held : attrs.map[key]? = some (encode width n)) :
    (attrs.map[key]?.bind fun src => (decodeWidth width src).map back) = some value := by
  rw [held,Option.bind_some,decodeWidth_encode small,Option.map_some,inverse]

theorem array_back {attrs : Attributes} {key : AttributeKey} {number : α → Nat} {back : Nat → α} {values : List α}
    (inverse : ∀ value, back (number value) = value) (positive : 0 < width)
    (small : ∀ value, number value < 256 ^ width)
    (encoded : encodeArrayValue width (values.map number) = some dest) (held : attrs.map[key]? = some dest) :
    (attrs.map[key]?.bind fun src => (decodeArrayValue width src).map (·.map back)) = some values := by
  have numbers : ∀ n ∈ values.map number, n < 256 ^ width := by
    intro n member
    obtain ⟨value,_,rfl⟩ := List.mem_map.mp member
    exact small value
  rw [held,Option.bind_some,decodeArrayValue_encode positive numbers encoded,Option.map_some,map_back inverse]

theorem int32_back (value : Int32) : (UInt32.ofNat value.toUInt32.toNat).toInt32 = value := by
  rw [UInt32.ofNat_toNat,Int32.toInt32_toUInt32]

theorem int64_back (value : Int64) : (UInt64.ofNat value.toUInt64.toNat).toInt64 = value := by
  rw [UInt64.ofNat_toNat,Int64.toInt64_toUInt64]

-- The getter of the same type, over the bytes that the setter stored.
theorem getValue_stored (type : ValueType) (key : AttributeKey) (value : type.Value) (attrs : Attributes)
    (encoded : (setValue type key value).dest = some dest) (held : attrs.map[key]? = some dest) :
    getValue type attrs key = some value ↔ Rereadable type value := by
  cases type with
  | bool =>
    cases encoded
    refine iff_of_true ?_ trivial
    change attrs.map[key]?.bind _ = _
    rw [held]
    cases value <;> rfl
  | uint64 =>
    cases encoded
    exact iff_of_true (fixed_back UInt64.ofNat_toNat value.toNat_lt held) trivial
  | uint32 =>
    cases encoded
    exact iff_of_true (fixed_back UInt32.ofNat_toNat value.toNat_lt held) trivial
  | uint16 =>
    cases encoded
    exact iff_of_true (fixed_back UInt16.ofNat_toNat value.toNat_lt held) trivial
  | uint8 =>
    cases encoded
    refine iff_of_true ?_ trivial
    change attrs.map[key]?.bind _ = _
    rw [held]
    simp [decodeWidth,decode]
  | int32 =>
    cases encoded
    exact iff_of_true (fixed_back (int32_back value) value.toUInt32.toNat_lt held) trivial
  | int64 =>
    cases encoded
    exact iff_of_true (fixed_back (int64_back value) value.toUInt64.toNat_lt held) trivial
  | string =>
    obtain ⟨_,rfl⟩ := encodeStringBytes_some.mp encoded
    refine iff_of_true ?_ trivial
    change attrs.map[key]?.bind _ = _
    rw [held]
    simp
  | uint64Array =>
    exact iff_of_true (array_back (fun _ => UInt64.ofNat_toNat) (by decide) UInt64.toNat_lt encoded held) trivial
  | uint32Array =>
    exact iff_of_true (array_back (fun _ => UInt32.ofNat_toNat) (by decide) UInt32.toNat_lt encoded held) trivial
  | uint16Array =>
    exact iff_of_true (array_back (fun _ => UInt16.ofNat_toNat) (by decide) UInt16.toNat_lt encoded held) trivial
  | uint8Array =>
    obtain ⟨_,rfl⟩ := encodeUint8ArrayValue_some.mp encoded
    exact iff_of_true held trivial
  | int32Array =>
    exact iff_of_true (array_back int32_back (by decide) (fun value => value.toUInt32.toNat_lt) encoded held) trivial
  | attributes =>
    obtain ⟨_,rfl⟩ := encodeAttributesValue_some.mp encoded
    change attrs.map[key]?.map ofRaw = some value ↔ WithinLimits value
    rw [held,Option.map_some,Option.some_inj,reparses_iff]
  | attributesArray =>
    obtain ⟨short,rfl⟩ := encodeUint8ArrayValue_some.mp encoded
    change attrs.map[key]?.bind readItems = some value ↔ ∀ item ∈ value, WithinLimits item
    rw [held,Option.bind_some,readItems_data value short,Option.some_inj]
    refine Iff.trans (Iff.trans ?_ List.map_inj_left) (forall₂_congr fun item _ => reparses_iff item)
    rw [List.map_id']

-- What a caller of a setter relies on.
def LastWriteWins (attrs : Attributes) (type : ValueType) (key : AttributeKey) (value : type.Value) : Prop :=
  ∃ next, attrs.set (setValue type key value) = some next ∧ getValue type next key = some value ∧
    ∀ other, other ≠ key → next.map[other]? = attrs.map[other]?

theorem set_eq_some_iff (attrs : Attributes) (setter : Setter) (next : Attributes)
    (room : attrs.map.size ≤ MAX_ATTR_COUNT) : attrs.set setter = some next ↔
      ∃ dest, setter.dest = some dest ∧ (setter.emplaces = true → setter.key ∉ attrs.map) ∧
        next = ⟨attrs.map.insert setter.key dest⟩ := by
  cases encoded : setter.dest with
  | none => simp [set,encoded]
  | some dest =>
    rw [set,encoded,Option.bind_some,if_neg (Nat.not_lt.mpr room)]
    by_cases taken : setter.emplaces = true ∧ setter.key ∈ attrs.map
    · simp [taken]
    · rw [if_neg (by simpa using taken)]
      rw [not_and] at taken
      constructor
      · rintro ⟨rfl⟩
        exact ⟨dest,rfl,taken,rfl⟩
      · rintro ⟨_,⟨rfl⟩,_,rfl⟩
        rfl

theorem last_write_wins_iff (attrs : Attributes) (type : ValueType) (key : AttributeKey) (value : type.Value)
    (room : attrs.map.size ≤ MAX_ATTR_COUNT) (accepted : Accepted type value) :
    LastWriteWins attrs type key value ↔ (type = .int64 → key ∉ attrs.map) ∧ Rereadable type value := by
  obtain ⟨dest,encoded⟩ := Option.isSome_iff_exists.mp ((accepted_iff type key value).mpr accepted)
  have emplaces : (setValue type key value).emplaces = true ↔ type = .int64 := by
    rw [setValue_emplaces,decide_eq_true_iff]
  have held : (⟨attrs.map.insert key dest⟩ : Attributes).map[key]? = some dest := ExtTreeMap.getElem?_insert_self
  have read := getValue_stored type key value ⟨attrs.map.insert key dest⟩ encoded held
  constructor
  · rintro ⟨next,stored,got,_⟩
    obtain ⟨again,same,free,rfl⟩ := (set_eq_some_iff attrs _ next room).mp stored
    cases encoded.symm.trans same
    rw [setValue_key] at free got
    exact ⟨fun is => free (emplaces.mpr is),read.mp got⟩
  · rintro ⟨free,whole⟩
    refine ⟨⟨attrs.map.insert key dest⟩,?_,read.mpr whole,?_⟩
    · rw [set_eq_some_iff attrs _ _ room]
      refine ⟨dest,encoded,?_,?_⟩
      · intro is
        rw [setValue_key]
        exact free (emplaces.mp is)
      · rw [setValue_key]
    · intro other apart
      have apart : ¬key = other := fun same => apart same.symm
      simp [ExtTreeMap.getElem?_insert,apart]

def oneNumber : Attributes := ⟨(∅ : AttributeMap).insert ATTR_SCHEDULE_ID []⟩

-- A room in the map, an accepted value, and the setter refuses: the key was there.
theorem int64_never_rewritten :
    ¬∀ (attrs : Attributes) (type : ValueType) (key : AttributeKey) (value : type.Value),
      attrs.map.size < MAX_ATTR_COUNT → Accepted type value → LastWriteWins attrs type key value := by
  intro wins
  obtain ⟨next,stored,_⟩ := wins oneNumber .int64 ATTR_SCHEDULE_ID 7 (by decide) trivial
  have refused : oneNumber.set (setValue .int64 ATTR_SCHEDULE_ID 7) = none := by decide
  cases refused.symm.trans stored

theorem string_rewritten : LastWriteWins oneNumber .string ATTR_SCHEDULE_ID [104,105] := by
  apply (last_write_wins_iff oneNumber .string ATTR_SCHEDULE_ID [104,105] (by decide) ?_).mpr
  · refine ⟨?_,trivial⟩
    intro is
    cases is
  · change 2 ≤ MAX_ATTR_LENGTH
    decide

end UserAuth.Attributes
