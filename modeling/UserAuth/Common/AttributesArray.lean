import Mathlib.Algebra.Order.BigOperators.Group.List
import UserAuth.Common.SetterLimits

namespace UserAuth.Attributes
open Std LittleEndian RecordMap

-- The loop of GetAttributesArrayValue as it runs: an unsigned 32-bit index into
-- the data, and the items read so far.
structure ArrayReader where
  i : UInt32
  array : List Attributes

inductive ReadResult where
  | running (reader : ArrayReader)
  | returned (ok : Bool) (array : List Attributes)
  -- An access past the end of the data.
  | outside

def copyRange (data : Bytes) (first length : Nat) : Option Bytes :=
  if first + length ≤ data.length then some ((data.drop first).take length) else none

def readTurn (data : Bytes) (reader : ArrayReader) : ReadResult :=
  if data.length ≤ reader.i.toNat then .returned true reader.array
  else if data.length - reader.i.toNat < 4 then .returned false reader.array
  else
    match copyRange data reader.i.toNat 4 with
    | none => .outside
    | some arrayLenData =>
      match decodeWidth 4 arrayLenData with
      | none => .returned false reader.array
      | some arrayLen =>
        let i := reader.i + 4
        -- the next difference is unsigned too
        if data.length < i.toNat then .outside
        else if data.length - i.toNat < arrayLen then .returned false reader.array
        else
          match copyRange data i.toNat arrayLen with
          | none => .outside
          | some item => .running ⟨i + UInt32.ofNat arrayLen,reader.array ++ [ofRaw item]⟩

def readLoop (data : Bytes) : Nat → ArrayReader → ReadResult
  | 0,reader => .running reader
  | turns + 1,reader =>
    match readTurn data reader with
    | .running next => readLoop data turns next
    | .returned ok array => .returned ok array
    | .outside => .outside

-- What the call has come to after so many turns. The caller's array is cleared
-- only once there are data.
def readAttributesArray (attrs : Attributes) (key : AttributeKey) (array : List Attributes) (turns : Nat) : ReadResult :=
  match attrs.getUint8ArrayValue key with
  | none => .returned false array
  | some data => readLoop data turns ⟨0,[]⟩

def lengthAt (data : Bytes) (i : UInt32) : Nat := decode ((data.drop i.toNat).take 4)
def nextIndex (data : Bytes) (i : UInt32) : UInt32 := i + 4 + UInt32.ofNat (lengthAt data i)
def itemAt (data : Bytes) (i : UInt32) : Bytes := (data.drop (i + 4).toNat).take (lengthAt data i)

-- The length or the item at an index is cut off by the end of the data.
def CutOff (data : Bytes) (i : UInt32) : Prop :=
  data.length - i.toNat < 4 ∨ data.length - (i + 4).toNat < lengthAt data i

instance : Decidable (CutOff data i) := inferInstanceAs (Decidable (_ ∨ _))

-- Where the lengths lead, one after another, in 32 bits.
def indexAfter (data : Bytes) : Nat → UInt32
  | 0 => 0
  | n + 1 => nextIndex data (indexAfter data n)

-- The data are items one after another, each behind its length, and nothing else.
def Consumed (data : Bytes) (array : List Attributes) : Prop :=
  ∃ items : List Bytes, data = items.flatMap (fun item => encode 4 item.length ++ item) ∧ array = items.map ofRaw

theorem readTurn_end (ended : data.length ≤ reader.i.toNat) :
    readTurn data reader = .returned true reader.array := by
  rw [readTurn,if_pos ended]

theorem index_within {data : Bytes} {i : UInt32} (room : ¬data.length - i.toNat < 4) : (i + 4).toNat ≤ data.length := by
  have sum : (i + 4).toNat = (i.toNat + 4) % 2 ^ 32 := UInt32.toNat_add i 4
  have wrapped := Nat.mod_le (i.toNat + 4) (2 ^ 32)
  omega

-- The checks before each copy are enough for it, whatever the index has come to.
theorem readTurn_inside (inside : reader.i.toNat < data.length) :
    readTurn data reader =
      if CutOff data reader.i then .returned false reader.array
      else .running ⟨nextIndex data reader.i,reader.array ++ [ofRaw (itemAt data reader.i)]⟩ := by
  rw [readTurn,if_neg (Nat.not_le.mpr inside)]
  by_cases short : data.length - reader.i.toNat < 4
  · have cut : CutOff data reader.i := .inl short
    rw [if_pos short,if_pos cut]
  · have fits : reader.i.toNat + 4 ≤ data.length := by omega
    have width : ((data.drop reader.i.toNat).take 4).length = 4 := by
      rw [List.length_take,List.length_drop]
      omega
    have read : copyRange data reader.i.toNat 4 = some ((data.drop reader.i.toNat).take 4) := if_pos fits
    have decoded : decodeWidth 4 ((data.drop reader.i.toNat).take 4) = some (lengthAt data reader.i) := by
      rw [decodeWidth,width]
      rfl
    have within := index_within short
    rw [if_neg short,read]
    dsimp only
    rw [decoded]
    dsimp only
    rw [if_neg (Nat.not_lt.mpr within)]
    by_cases cut : data.length - (reader.i + 4).toNat < lengthAt data reader.i
    · have beyond : CutOff data reader.i := .inr cut
      rw [if_pos cut,if_pos beyond]
    · have whole : (reader.i + 4).toNat + lengthAt data reader.i ≤ data.length := by omega
      have item : copyRange data (reader.i + 4).toNat (lengthAt data reader.i) = some (itemAt data reader.i) :=
        if_pos whole
      have neither : ¬CutOff data reader.i := fun either => either.elim short cut
      rw [if_neg cut,item,if_neg neither]
      rfl

theorem readTurn_stays (data : Bytes) (reader : ArrayReader) : readTurn data reader ≠ .outside := by
  by_cases inside : reader.i.toNat < data.length
  · rw [readTurn_inside inside]
    split
    · intro outside
      cases outside
    · intro outside
      cases outside
  · rw [readTurn_end (Nat.not_lt.mp inside)]
    intro outside
    cases outside

theorem readLoop_stays (data : Bytes) (turns : Nat) (reader : ArrayReader) : readLoop data turns reader ≠ .outside := by
  induction turns generalizing reader with
  | zero =>
    intro outside
    cases outside
  | succ turns ih =>
    rw [readLoop]
    cases turned : readTurn data reader with
    | running next => exact ih next
    | returned ok array =>
      intro outside
      cases outside
    | outside => exact absurd turned (readTurn_stays data reader)

theorem readItems_canonical (data : Bytes) (read : readItems data = some array) : Consumed data array := by
  induction data using readItems.induct generalizing array with
  | case1 =>
    rw [readItems_nil] at read
    cases read
    exact ⟨[],rfl,rfl⟩
  | case2 data visible short =>
    rw [readItems,if_neg visible,if_pos short] at read
    cases read
  | case3 data visible long cut =>
    rw [readItems,if_neg visible,if_neg long,if_pos cut] at read
    cases read
  | case4 data visible long whole ih =>
    rw [readItems,if_neg visible,if_neg long,if_neg whole] at read
    obtain ⟨rest,after,rfl⟩ := Option.map_eq_some_iff.mp read
    obtain ⟨items,text,rfl⟩ := ih after
    have width : (data.take 4).length = 4 := by
      rw [List.length_take]
      omega
    have size : ((data.drop 4).take (decode (data.take 4))).length = decode (data.take 4) :=
      List.length_take_of_le (Nat.not_lt.mp whole)
    have header : encode 4 (decode (data.take 4)) = data.take 4 := by
      simpa only [width] using encode_decode (data.take 4)
    refine ⟨(data.drop 4).take (decode (data.take 4)) :: items,?_,rfl⟩
    rw [List.flatMap_cons,size,header,←text,List.append_assoc,List.take_append_drop,List.take_append_drop]

section Short
variable {data : Bytes} (small : data.length < 2 ^ 32)
include small

-- Within 32 bits the index is the position, and the loop reads what is left.
theorem nextIndex_exact (whole : ¬CutOff data i) :
    (i + 4).toNat = i.toNat + 4 ∧ (nextIndex data i).toNat = i.toNat + 4 + lengthAt data i ∧
      i.toNat + 4 + lengthAt data i ≤ data.length := by
  rw [CutOff,not_or,Nat.not_lt,Nat.not_lt] at whole
  have sum : (i + 4).toNat = (i.toNat + 4) % 2 ^ 32 := UInt32.toNat_add i 4
  have plain : (i + 4).toNat = i.toNat + 4 := by
    rw [sum]
    apply Nat.mod_eq_of_lt
    omega
  have fits : i.toNat + 4 + lengthAt data i ≤ data.length := by omega
  have length : (UInt32.ofNat (lengthAt data i)).toNat = lengthAt data i := by
    apply UInt32.toNat_ofNat_of_lt'
    change _ < 2 ^ 32
    omega
  refine ⟨plain,?_,fits⟩
  rw [nextIndex,UInt32.toNat_add,plain,length]
  apply Nat.mod_eq_of_lt
  omega

theorem readItems_cut (inside : i.toNat < data.length) (cut : CutOff data i) : readItems (data.drop i.toNat) = none := by
  have left : (data.drop i.toNat).length = data.length - i.toNat := List.length_drop
  have visible : data.drop i.toNat ≠ [] := by
    intro none_
    rw [none_,List.length_nil] at left
    omega
  rw [readItems,if_neg visible]
  by_cases short : data.length - i.toNat < 4
  · rw [if_pos (left ▸ short)]
  · have sum : (i + 4).toNat = (i.toNat + 4) % 2 ^ 32 := UInt32.toNat_add i 4
    have plain : (i + 4).toNat = i.toNat + 4 := by
      rw [sum]
      apply Nat.mod_eq_of_lt
      omega
    have beyond := cut.resolve_left short
    rw [plain] at beyond
    rw [if_neg (left ▸ short),if_pos]
    rw [List.length_drop,left]
    change data.length - i.toNat - 4 < lengthAt data i
    omega

theorem readItems_whole (inside : i.toNat < data.length) (whole : ¬CutOff data i) :
    readItems (data.drop i.toNat) =
      (readItems (data.drop (nextIndex data i).toNat)).map (ofRaw (itemAt data i) :: ·) := by
  obtain ⟨plain,next,fits⟩ := nextIndex_exact small whole
  have left : (data.drop i.toNat).length = data.length - i.toNat := List.length_drop
  have visible : data.drop i.toNat ≠ [] := by
    intro none_
    rw [none_,List.length_nil] at left
    omega
  have long : ¬(data.drop i.toNat).length < 4 := by omega
  have room : ¬((data.drop i.toNat).drop 4).length < decode ((data.drop i.toNat).take 4) := by
    rw [List.length_drop,left]
    change ¬data.length - i.toNat - 4 < lengthAt data i
    omega
  rw [readItems,if_neg visible,if_neg long,if_neg room,List.drop_drop,List.drop_drop,itemAt,plain,next]
  rfl

theorem readLoop_short (turns : Nat) (reader : ArrayReader) (within : reader.i.toNat ≤ data.length)
    (enough : data.length - reader.i.toNat < turns) :
    (∀ items, readItems (data.drop reader.i.toNat) = some items →
      readLoop data turns reader = .returned true (reader.array ++ items)) ∧
    (readItems (data.drop reader.i.toNat) = none → ∃ array, readLoop data turns reader = .returned false array) := by
  induction turns generalizing reader with
  | zero => omega
  | succ turns ih =>
    rw [readLoop]
    by_cases inside : reader.i.toNat < data.length
    · rw [readTurn_inside inside]
      by_cases cut : CutOff data reader.i
      · rw [readItems_cut small inside cut,if_pos cut]
        refine ⟨fun items read => ?_,fun _ => ⟨reader.array,rfl⟩⟩
        cases read
      · obtain ⟨_,next,fits⟩ := nextIndex_exact small cut
        rw [if_neg cut,readItems_whole small inside cut]
        obtain ⟨reads,fails⟩ := ih ⟨nextIndex data reader.i,reader.array ++ [ofRaw (itemAt data reader.i)]⟩
          (by rw [next]; exact fits) (by rw [next]; omega)
        refine ⟨fun items read => ?_,fun failed => fails (Option.map_eq_none_iff.mp failed)⟩
        obtain ⟨rest,after,rfl⟩ := Option.map_eq_some_iff.mp read
        simpa only [List.append_assoc,List.singleton_append] using reads rest after
    · have done : data.drop reader.i.toNat = [] := List.drop_eq_nil_of_le (Nat.not_lt.mp inside)
      rw [readTurn_end (Nat.not_lt.mp inside),done,readItems_nil]
      refine ⟨fun items read => ?_,fun failed => ?_⟩
      · cases read
        rw [List.append_nil]
      · cases failed

end Short

section Long
variable {data : Bytes} (large : 2 ^ 32 ≤ data.length)
include large

-- No index reaches the end: the loop leaves at a length that is cut off or never.
theorem readLoop_long (turns n : Nat) (acc : List Attributes)
    (returned : readLoop data turns ⟨indexAfter data n,acc⟩ = .returned ok array) :
    ok = false ∧ ∃ m, CutOff data (indexAfter data m) := by
  induction turns generalizing n acc with
  | zero => cases returned
  | succ turns ih =>
    have inside : (indexAfter data n).toNat < data.length := by
      have bound := (indexAfter data n).toNat_lt
      omega
    rw [readLoop,readTurn_inside inside] at returned
    by_cases cut : CutOff data (indexAfter data n)
    · rw [if_pos cut] at returned
      cases returned
      exact ⟨rfl,n,cut⟩
    · rw [if_neg cut] at returned
      exact ih (n + 1) _ returned

theorem readLoop_refuses (steps n : Nat) (acc : List Attributes) (cut : CutOff data (indexAfter data (n + steps))) :
    ∃ turns array, readLoop data turns ⟨indexAfter data n,acc⟩ = .returned false array := by
  have inside (m : Nat) : (indexAfter data m).toNat < data.length := by
    have bound := (indexAfter data m).toNat_lt
    omega
  induction steps generalizing n acc with
  | zero =>
    refine ⟨1,acc,?_⟩
    rw [Nat.add_zero] at cut
    rw [readLoop,readTurn_inside (inside n),if_pos cut]
  | succ steps ih =>
    by_cases here : CutOff data (indexAfter data n)
    · refine ⟨1,acc,?_⟩
      rw [readLoop,readTurn_inside (inside n),if_pos here]
    · have later : CutOff data (indexAfter data (n + 1 + steps)) := by
        rw [Nat.add_assoc,Nat.add_comm 1]
        exact cut
      obtain ⟨turns,array,returned⟩ := ih (n + 1) (acc ++ [ofRaw (itemAt data (indexAfter data n))]) later
      refine ⟨turns + 1,array,?_⟩
      rw [readLoop,readTurn_inside (inside n),if_neg here]
      exact returned

end Long

-- What an array set under a key comes back as.
def RoundTrips (attrs : Attributes) (key : AttributeKey) (array : List Attributes) : Prop :=
  ∃ next, attrs.set (setAttributesArrayValue key array) = some next ∧
    ∀ before, ∃ turns, readAttributesArray next key before turns = .returned true array

structure ReadsSafely (attrs : Attributes) (key : AttributeKey) (data : Bytes) : Prop where
  inside : ∀ before turns, readAttributesArray attrs key before turns ≠ .outside
  ends : ∀ before, ∃ turns ok array, readAttributesArray attrs key before turns = .returned ok array ∧
    (ok = true → Consumed data array)

theorem readAttributesArray_held (held : attrs.map[key]? = some data) (before : List Attributes) (turns : Nat) :
    readAttributesArray attrs key before turns = readLoop data turns ⟨0,[]⟩ := by
  simp only [readAttributesArray,getUint8ArrayValue,held]

theorem readLoop_all {data : Bytes} (small : data.length < 2 ^ 32) :
    (∀ items, readItems data = some items → readLoop data (data.length + 1) ⟨0,[]⟩ = .returned true items) ∧
    (readItems data = none → ∃ array, readLoop data (data.length + 1) ⟨0,[]⟩ = .returned false array) :=
  readLoop_short small (data.length + 1) ⟨0,[]⟩ (Nat.zero_le _) (by omega)

theorem returned_once {data : Bytes} (one : readLoop data turns reader = .returned ok array)
    (two : readLoop data turns' reader = .returned ok' array') : array = array' := by
  induction turns generalizing reader turns' with
  | zero => cases one
  | succ turns ih =>
    cases turns' with
    | zero => cases two
    | succ turns' =>
      rw [readLoop] at one two
      cases turned : readTurn data reader with
      | running next =>
        rw [turned] at one two
        exact ih one two
      | returned ok array =>
        rw [turned] at one two
        cases one
        cases two
        rfl
      | outside =>
        rw [turned] at one
        cases one

-- Packed bytes within the limit leave no room for a value past it.
theorem packed_item_within (packed : (attributesArrayData array).length ≤ MAX_ATTR_LENGTH) (member : item ∈ array) :
    WithinLimits item ↔ item.map.size ≤ MAX_ATTR_COUNT := by
  refine ⟨WithinLimits.few,fun few => ⟨few,fun key value held => ?_⟩⟩
  have record : (key,value) ∈ item.map.toList := ExtTreeMap.mem_toList_iff_getElem?_eq_some.mpr held
  have inItem : 8 + value.length ≤ serializedSize item :=
    List.le_sum_of_mem (List.mem_map_of_mem record)
  have inArray : 4 + serializedSize item ≤ (attributesArrayData array).length := by
    rw [attributesArrayData,List.length_flatMap]
    have size : (encode 4 (serialize item).length ++ serialize item).length = 4 + serializedSize item := by
      rw [List.length_append,length_encode,length_serialize]
    rw [←size]
    exact List.le_sum_of_mem (List.mem_map_of_mem member)
  omega

theorem round_trips_iff (attrs : Attributes) (key : AttributeKey) (array : List Attributes)
    (room : attrs.map.size ≤ MAX_ATTR_COUNT) (packed : (attributesArrayData array).length ≤ MAX_ATTR_LENGTH) :
    RoundTrips attrs key array ↔ ∀ item ∈ array, item.map.size ≤ MAX_ATTR_COUNT := by
  have encoded : (setAttributesArrayValue key array).dest = some (attributesArrayData array) :=
    encodeUint8ArrayValue_some.mpr ⟨packed,rfl⟩
  have stored : attrs.set (setAttributesArrayValue key array) =
      some ⟨attrs.map.insert key (attributesArrayData array)⟩ := by
    rw [set_eq_some_iff attrs _ _ room]
    refine ⟨_,encoded,?_,rfl⟩
    intro emplaces
    cases emplaces
  have held : (⟨attrs.map.insert key (attributesArrayData array)⟩ : Attributes).map[key]? =
      some (attributesArrayData array) := ExtTreeMap.getElem?_insert_self
  have small : (attributesArrayData array).length < 2 ^ 32 := Nat.lt_of_le_of_lt packed (by decide)
  have read := (readLoop_all small).1 _ (readItems_data array packed)
  have back : (array.map fun item => ofRaw (serialize item)) = array ↔ ∀ item ∈ array, item.map.size ≤ MAX_ATTR_COUNT := by
    have items : (array.map fun item => ofRaw (serialize item)) = array.map id ↔
        ∀ item ∈ array, item.map.size ≤ MAX_ATTR_COUNT :=
      List.map_inj_left.trans
        (forall₂_congr fun item member => (reparses_iff item).trans (packed_item_within packed member))
    rwa [List.map_id] at items
  rw [←back]
  constructor
  · rintro ⟨next,again,reads⟩
    cases stored.symm.trans again
    obtain ⟨turns,returned⟩ := reads []
    rw [readAttributesArray_held held] at returned
    exact returned_once read returned
  · intro same
    refine ⟨_,stored,fun before => ⟨(attributesArrayData array).length + 1,?_⟩⟩
    rw [readAttributesArray_held held,read,same]

theorem reads_safely_iff (attrs : Attributes) (key : AttributeKey) (data : Bytes) (held : attrs.map[key]? = some data) :
    ReadsSafely attrs key data ↔ data.length < 2 ^ 32 ∨ ∃ n, CutOff data (indexAfter data n) := by
  constructor
  · intro safe
    by_cases small : data.length < 2 ^ 32
    · exact .inl small
    · obtain ⟨turns,ok,array,returned,_⟩ := safe.ends []
      rw [readAttributesArray_held held] at returned
      exact .inr (readLoop_long (Nat.not_lt.mp small) turns 0 [] returned).2
  · intro bounded
    refine ⟨fun before turns => ?_,fun before => ?_⟩
    · rw [readAttributesArray_held held]
      exact readLoop_stays data turns ⟨0,[]⟩
    · simp only [readAttributesArray_held held]
      by_cases small : data.length < 2 ^ 32
      · obtain ⟨reads,fails⟩ := readLoop_all small
        cases read : readItems data with
        | some items => exact ⟨_,true,items,reads items read,fun _ => readItems_canonical data read⟩
        | none =>
          obtain ⟨array,failed⟩ := fails read
          refine ⟨_,false,array,failed,?_⟩
          intro success
          cases success
      · obtain ⟨n,cut⟩ := bounded.resolve_left small
        rw [←Nat.zero_add n] at cut
        obtain ⟨turns,array,refused⟩ := readLoop_refuses (Nat.not_lt.mp small) n 0 [] cut
        refine ⟨turns,false,array,refused,?_⟩
        intro success
        cases success

theorem attributes_arrays_exact (attrs : Attributes) (key : AttributeKey) :
    (∀ array : List Attributes, attrs.map.size ≤ MAX_ATTR_COUNT →
      (attributesArrayData array).length ≤ MAX_ATTR_LENGTH →
        (RoundTrips attrs key array ↔ ∀ item ∈ array, item.map.size ≤ MAX_ATTR_COUNT)) ∧
    ∀ data : Bytes, attrs.map[key]? = some data →
      (ReadsSafely attrs key data ↔ data.length < 2 ^ 32 ∨ ∃ n, CutOff data (indexAfter data n)) :=
  ⟨round_trips_iff attrs key,reads_safely_iff attrs key⟩

def manyRecords (count : Nat) : List AttributeRecord := (List.range count).map fun n => (UInt32.ofNat n,[])

-- One key more than the parser takes: every setter still accepts it.
def crowded : Attributes := ⟨(∅ : AttributeMap).insertMany (manyRecords (MAX_ATTR_COUNT + 1))⟩

theorem manyRecords_distinct (few : count ≤ 2 ^ 32) : Distinct (manyRecords count) := by
  rw [Distinct,manyRecords,List.map_map]
  refine List.Nodup.map_on ?_ List.nodup_range
  intro n inside m inside' same
  have same : (UInt32.ofNat n).toNat = (UInt32.ofNat m).toNat := congrArg UInt32.toNat same
  rw [List.mem_range] at inside inside'
  rw [UInt32.toNat_ofNat',UInt32.toNat_ofNat'] at same
  omega

theorem manyRecords_size (few : count ≤ 2 ^ 32) : ((∅ : AttributeMap).insertMany (manyRecords count)).size = count := by
  have size := size_insertMany ∅ (manyRecords count) (manyRecords_distinct few) (fun _ _ => ExtTreeMap.not_mem_empty)
  simpa [manyRecords] using size

theorem manyRecords_serialized (few : count ≤ 2 ^ 32) :
    serializedSize ⟨(∅ : AttributeMap).insertMany (manyRecords count)⟩ = 8 * count := by
  have records := ((toList_insertMany (manyRecords count) (manyRecords_distinct few)).map fun r => 8 + r.2.length).sum_eq
  have sum : ((manyRecords count).map fun r => 8 + r.2.length).sum = 8 * count := by
    simp [manyRecords,Function.comp_def,Nat.mul_comm]
  exact records.trans sum

theorem crowded_packed : (attributesArrayData [crowded]).length ≤ MAX_ATTR_LENGTH := by
  have size : serializedSize crowded = 8 * (MAX_ATTR_COUNT + 1) := manyRecords_serialized (by decide)
  rw [attributesArrayData,List.flatMap_singleton,List.length_append,length_encode,length_serialize,size]
  decide

theorem crowded_item_lost :
    ¬((∀ (attrs : Attributes) (key : AttributeKey) (array : List Attributes), attrs.map.size ≤ MAX_ATTR_COUNT →
        (attributesArrayData array).length ≤ MAX_ATTR_LENGTH → RoundTrips attrs key array) ∧
      ∀ (attrs : Attributes) (key : AttributeKey) (data : Bytes), attrs.map[key]? = some data →
        ReadsSafely attrs key data) := by
  rintro ⟨trips,_⟩
  have came := trips empty ATTR_SCHEDULE_DATA [crowded] (by decide) crowded_packed
  have few := (round_trips_iff empty ATTR_SCHEDULE_DATA [crowded] (by decide) crowded_packed).mp came
  have count := few crowded List.mem_cons_self
  rw [crowded,manyRecords_size (by decide)] at count
  exact absurd count (by decide)

theorem empty_and_small_items_return :
    RoundTrips empty ATTR_SCHEDULE_DATA [empty,twoRecords] ∧
      ReadsSafely ⟨(∅ : AttributeMap).insert ATTR_SCHEDULE_DATA [255,255,255,255,0]⟩ ATTR_SCHEDULE_DATA
        [255,255,255,255,0] := by
  have packed : (attributesArrayData [empty,twoRecords]).length ≤ MAX_ATTR_LENGTH := by decide
  have few : ∀ item ∈ [empty,twoRecords], item.map.size ≤ MAX_ATTR_COUNT := by decide
  refine ⟨((attributes_arrays_exact empty ATTR_SCHEDULE_DATA).1 _ (by decide) packed).mpr few,?_⟩
  exact ((attributes_arrays_exact _ _).2 _ ExtTreeMap.getElem?_insert_self).mpr (.inl (by decide))

end UserAuth.Attributes
