import UserAuth.Common.Attributes
import UserAuth.Lib.RecordMap
import UserAuth.Lib.SelfDelimiting

namespace UserAuth.Attributes
open Std LittleEndian RecordMap SelfDelimiting

abbrev AttributeMap := ExtTreeMap AttributeKey Bytes
abbrev AttributeRecord := AttributeKey × Bytes

-- The length is cut to 32 bits as EncodeUint32Value takes it.
def recordHeader (r : AttributeRecord) : Bytes := encode 4 r.1.toNat ++ encode 4 r.2.length
def recordBytes (r : AttributeRecord) : Bytes := recordHeader r ++ r.2
def serialize (attrs : Attributes) : Bytes := attrs.map.toList.flatMap recordBytes

def checkAttributeLength (curr : Bytes) (length : Nat) : Bool :=
  decide (length ≤ MAX_ATTR_LENGTH) && decide (length ≤ curr.length)

-- One record off the front of at least eight bytes. The map is the caller's
-- local one, given up as a whole when a later record is bad.
def parseAttributes (curr : Bytes) (out : AttributeMap) : Option (Bytes × AttributeMap) :=
  let type := UInt32.ofNat (decode (curr.take 4))
  let length := decode ((curr.drop 4).take 4)
  let curr := (curr.drop 4).drop 4
  if !checkAttributeLength curr length then none
  else if out.contains type then none
  else if (out.insert type (curr.take length)).size > MAX_ATTR_COUNT then none
  else some (curr.drop length,out.insert type (curr.take length))

theorem parseAttributes_consumes (header : ¬curr.length < 8) (parsed : parseAttributes curr out = some (rest,next)) :
    rest.length < curr.length := by
  simp only [parseAttributes] at parsed
  split at parsed
  · cases parsed
  · split at parsed
    · cases parsed
    · split at parsed
      · cases parsed
      · cases parsed
        simp only [List.length_drop]
        omega

def parseRecords (curr : Bytes) (out : AttributeMap) : Option AttributeMap :=
  if curr = [] then some out
  else if _ : curr.length < 8 then none
  else match _ : parseAttributes curr out with
    | none => none
    | some (rest,next) => parseRecords rest next
termination_by curr.length
decreasing_by exact parseAttributes_consumes ‹_› ‹_›

-- The constructor from bytes. A fresh map is empty, so is what is left of bad bytes.
def ofRaw (raw : Bytes) : Attributes :=
  if raw = [] then empty else ((parseRecords raw ∅).map Attributes.mk).getD empty

theorem length_recordHeader (r : AttributeRecord) : (recordHeader r).length = 8 := by
  rw [recordHeader,List.length_append,length_encode,length_encode]

theorem recordBytes_visible (r : AttributeRecord) : recordBytes r ≠ [] := by
  intro none_
  have size := congrArg List.length none_
  rw [recordBytes,List.length_append,length_recordHeader,List.length_nil] at size
  omega

theorem decode_type (key : AttributeKey) : UInt32.ofNat (decode (encode 4 key.toNat)) = key := by
  rw [decode_encode_of_lt (by simpa using key.toNat_lt),UInt32.ofNat_toNat]

theorem decode_length (short : length ≤ MAX_ATTR_LENGTH) : decode (encode 4 length) = length :=
  decode_encode_of_lt (Nat.lt_of_le_of_lt short (by decide))

theorem records_delimit : Delimits (fun r : AttributeRecord => r.2.length ≤ MAX_ATTR_LENGTH) recordBytes := by
  have header : ∀ a b : AttributeRecord, a.2.length ≤ MAX_ATTR_LENGTH → b.2.length ≤ MAX_ATTR_LENGTH →
      recordHeader a = recordHeader b → a.1 = b.1 ∧ a.2.length = b.2.length := by
    intro a b left right same
    obtain ⟨types,lengths⟩ := List.append_inj same (by rw [length_encode,length_encode])
    refine ⟨?_,?_⟩
    · rw [← decode_type a.1,types,decode_type]
    · rw [← decode_length left,lengths,decode_length right]
  apply header_delimits
  · intro a _
    exact length_recordHeader a
  · intro a b left right same
    exact (header a b left right same).2
  · intro a b same bodies left right
    exact Prod.ext (header a b left right same).1 bodies

theorem parseAttributes_recordBytes (r : AttributeRecord) (rest : Bytes) (short : r.2.length ≤ MAX_ATTR_LENGTH)
    (fresh : r.1 ∉ out) (room : out.size < MAX_ATTR_COUNT) :
    parseAttributes (recordBytes r ++ rest) out = some (rest,out.insert r.1 r.2) := by
  have text : recordBytes r ++ rest = encode 4 r.1.toNat ++ (encode 4 r.2.length ++ (r.2 ++ rest)) := by
    simp only [recordBytes,recordHeader,List.append_assoc]
  have type : (recordBytes r ++ rest).take 4 = encode 4 r.1.toNat := text ▸ List.take_left' (length_encode 4 _)
  have after : (recordBytes r ++ rest).drop 4 = encode 4 r.2.length ++ (r.2 ++ rest) :=
    text ▸ List.drop_left' (length_encode 4 _)
  have length : (encode 4 r.2.length ++ (r.2 ++ rest)).take 4 = encode 4 r.2.length := List.take_left' (length_encode 4 _)
  have body : (encode 4 r.2.length ++ (r.2 ++ rest)).drop 4 = r.2 ++ rest := List.drop_left' (length_encode 4 _)
  have checked : checkAttributeLength (r.2 ++ rest) r.2.length = true := by simp [checkAttributeLength,short]
  have size : (out.insert r.1 r.2).size = out.size + 1 := by simp [ExtTreeMap.size_insert,fresh]
  have value : (r.2 ++ rest).take r.2.length = r.2 := List.take_left' rfl
  have left : (r.2 ++ rest).drop r.2.length = rest := List.drop_left' rfl
  have few : ¬(out.insert r.1 r.2).size > MAX_ATTR_COUNT := by omega
  simp only [parseAttributes,type,after,length,body,decode_type,decode_length short,checked,value,left]
  simp [fresh,few]

theorem parseAttributes_canonical (header : ¬curr.length < 8) (parsed : parseAttributes curr out = some (rest,next)) :
    ∃ r : AttributeRecord, r.2.length ≤ MAX_ATTR_LENGTH ∧ r.1 ∉ out ∧ out.size < MAX_ATTR_COUNT ∧
      curr = recordBytes r ++ rest ∧ next = out.insert r.1 r.2 := by
  simp only [parseAttributes] at parsed
  split at parsed
  · cases parsed
  rename_i checked
  split at parsed
  · cases parsed
  rename_i absent
  split at parsed
  · cases parsed
  rename_i few
  cases parsed
  have checked : decode ((curr.drop 4).take 4) ≤ MAX_ATTR_LENGTH ∧
      decode ((curr.drop 4).take 4) ≤ ((curr.drop 4).drop 4).length := by
    simpa [checkAttributeLength] using checked
  have fresh : UInt32.ofNat (decode (curr.take 4)) ∉ out := by simpa using absent
  have room : (out.insert (UInt32.ofNat (decode (curr.take 4)))
      (((curr.drop 4).drop 4).take (decode ((curr.drop 4).take 4)))).size = out.size + 1 := by
    simp [ExtTreeMap.size_insert,fresh]
  have typeWidth : (curr.take 4).length = 4 := by rw [List.length_take]; omega
  have lengthWidth : ((curr.drop 4).take 4).length = 4 := by rw [List.length_take,List.length_drop]; omega
  have bound := decode_lt (curr.take 4)
  rw [typeWidth] at bound
  have type : encode 4 (UInt32.ofNat (decode (curr.take 4))).toNat = curr.take 4 := by
    rw [UInt32.toNat_ofNat_of_lt' (by simpa [UInt32.size] using bound)]
    simpa [typeWidth] using encode_decode (curr.take 4)
  have length : encode 4 (decode ((curr.drop 4).take 4)) = (curr.drop 4).take 4 := by
    simpa [lengthWidth] using encode_decode ((curr.drop 4).take 4)
  have value := List.length_take_of_le checked.2
  refine ⟨(UInt32.ofNat (decode (curr.take 4)),((curr.drop 4).drop 4).take (decode ((curr.drop 4).take 4))),
    ?_,fresh,by omega,?_,rfl⟩
  · exact value.trans_le checked.1
  · simp only [recordBytes,recordHeader,type,value,length,List.append_assoc,List.take_append_drop]

@[simp] theorem parseRecords_nil (out : AttributeMap) : parseRecords [] out = some out := by
  rw [parseRecords]
  rfl

theorem parseRecords_recordBytes (r : AttributeRecord) (rest : Bytes) (short : r.2.length ≤ MAX_ATTR_LENGTH)
    (fresh : r.1 ∉ out) (room : out.size < MAX_ATTR_COUNT) :
    parseRecords (recordBytes r ++ rest) out = parseRecords rest (out.insert r.1 r.2) := by
  have visible : recordBytes r ++ rest ≠ [] := fun none_ => recordBytes_visible r (List.append_eq_nil_iff.mp none_).1
  have header : ¬(recordBytes r ++ rest).length < 8 := by
    rw [List.length_append,recordBytes,List.length_append,length_recordHeader]
    omega
  rw [parseRecords,if_neg visible,dif_neg header]
  split
  · rename_i refused
    rw [parseAttributes_recordBytes r rest short fresh room] at refused
    cases refused
  · rename_i left next parsed
    rw [parseAttributes_recordBytes r rest short fresh room] at parsed
    cases parsed
    rfl

-- Records that fit into what is still free are read one after another.
theorem parseRecords_complete (records : List AttributeRecord) (out : AttributeMap)
    (short : ∀ r ∈ records, r.2.length ≤ MAX_ATTR_LENGTH) (distinct : Distinct records)
    (fresh : ∀ r ∈ records, r.1 ∉ out) (room : out.size + records.length ≤ MAX_ATTR_COUNT) :
    parseRecords (records.flatMap recordBytes) out = some (out.insertMany records) := by
  induction records generalizing out with
  | nil => rw [List.flatMap_nil,parseRecords_nil,ExtTreeMap.insertMany_nil]
  | cons r rest ih =>
    rw [List.length_cons] at room
    obtain ⟨new,distinct⟩ := List.nodup_cons.mp distinct
    have free := fresh r List.mem_cons_self
    have grown : (out.insert r.1 r.2).size = out.size + 1 := by simp [ExtTreeMap.size_insert,free]
    rw [List.flatMap_cons,parseRecords_recordBytes r _ (short r List.mem_cons_self) free (by omega)]
    rw [ih _ (fun s member => short s (List.mem_cons_of_mem r member)) distinct ?_ (by omega)]
    · exact congrArg some ExtTreeMap.insertMany_cons.symm
    · intro s member held
      rcases ExtTreeMap.mem_insert.mp held with same | old
      · exact new (LawfulEqOrd.eq_of_compare same ▸ List.mem_map_of_mem member)
      · exact fresh s (List.mem_cons_of_mem r member) old

-- And nothing else is read.
theorem parseRecords_canonical (curr : Bytes) (out : AttributeMap) (full : out.size ≤ MAX_ATTR_COUNT)
    (parsed : parseRecords curr out = some next) :
    ∃ records : List AttributeRecord, (∀ r ∈ records, r.2.length ≤ MAX_ATTR_LENGTH) ∧ Distinct records ∧
      (∀ r ∈ records, r.1 ∉ out) ∧ out.size + records.length ≤ MAX_ATTR_COUNT ∧
      curr = records.flatMap recordBytes ∧ next = out.insertMany records := by
  induction curr,out using parseRecords.induct with
  | case1 out =>
    rw [parseRecords_nil] at parsed
    cases parsed
    exact ⟨[],by simp,List.nodup_nil,by simp,by simpa using full,rfl,rfl⟩
  | case2 curr out visible header =>
    rw [parseRecords,if_neg visible,dif_pos header] at parsed
    cases parsed
  | case3 curr out visible header refused =>
    rw [parseRecords,if_neg visible,dif_neg header] at parsed
    split at parsed
    · cases parsed
    · rename_i read
      cases refused.symm.trans read
  | case4 curr out visible header rest after read ih =>
    rw [parseRecords,if_neg visible,dif_neg header] at parsed
    split at parsed
    · cases parsed
    rename_i again
    cases read.symm.trans again
    obtain ⟨r,short,free,room,rfl,rfl⟩ := parseAttributes_canonical header read
    have grown : (out.insert r.1 r.2).size = out.size + 1 := by simp [ExtTreeMap.size_insert,free]
    obtain ⟨records,shorts,distinct,fresh,few,rfl,rfl⟩ := ih (by omega) parsed
    refine ⟨r :: records,?_,?_,?_,?_,rfl,ExtTreeMap.insertMany_cons.symm⟩
    · exact List.forall_mem_cons.mpr ⟨short,shorts⟩
    · refine List.nodup_cons.mpr ⟨?_,distinct⟩
      intro named
      obtain ⟨s,member,same⟩ := List.mem_map.mp named
      exact fresh s member (same ▸ ExtTreeMap.mem_insert_self)
    · refine List.forall_mem_cons.mpr ⟨free,?_⟩
      intro s member old
      exact fresh s member (ExtTreeMap.mem_insert.mpr (.inr old))
    · rw [List.length_cons]
      omega

-- The grammar: one record or more, nothing after the last of them.
structure Sentence (raw : Bytes) (records : List AttributeRecord) : Prop where
  some_ : records ≠ []
  short : ∀ r ∈ records, r.2.length ≤ MAX_ATTR_LENGTH
  distinct : Distinct records
  few : records.length ≤ MAX_ATTR_COUNT
  text : raw = records.flatMap recordBytes

theorem Sentence.ofRaw (sentence : Sentence raw records) : ofRaw raw = ⟨(∅ : AttributeMap).insertMany records⟩ := by
  have visible : raw ≠ [] := by
    intro none_
    obtain ⟨r,rest,rfl⟩ := List.exists_cons_of_ne_nil sentence.some_
    rw [sentence.text,List.flatMap_cons] at none_
    exact recordBytes_visible r (List.append_eq_nil_iff.mp none_).1
  have parsed := parseRecords_complete records ∅ sentence.short sentence.distinct (fun _ _ => ExtTreeMap.not_mem_empty)
    (by simpa using sentence.few)
  rw [← sentence.text] at parsed
  rw [Attributes.ofRaw,if_neg visible,parsed]
  rfl

-- Bytes off the grammar leave nothing behind.
theorem ofRaw_empty (bad : ¬∃ records, Sentence raw records) : ofRaw raw = empty := by
  rw [Attributes.ofRaw]
  split
  · rfl
  · rename_i visible
    cases parsed : parseRecords raw ∅ with
    | none => rfl
    | some next =>
      obtain ⟨records,short,distinct,_,few,text,_⟩ := parseRecords_canonical raw ∅ (Nat.zero_le _) parsed
      have some_ : records ≠ [] := by
        rintro rfl
        exact visible text
      exact absurd ⟨records,some_,short,distinct,by simpa using few,text⟩ bad

theorem Sentence.lookup (sentence : Sentence raw records) (key : AttributeKey) (value : Bytes) :
    (Attributes.ofRaw raw).map[key]? = some value ↔ (key,value) ∈ records := by
  rw [sentence.ofRaw,getElem?_insertMany ∅ records sentence.distinct (fun _ _ => ExtTreeMap.not_mem_empty)]
  simp

theorem Sentence.kept (sentence : Sentence raw records) : (Attributes.ofRaw raw).map ≠ ∅ := by
  obtain ⟨r,rest,rfl⟩ := List.exists_cons_of_ne_nil sentence.some_
  have held := (sentence.lookup r.1 r.2).mpr List.mem_cons_self
  intro none_
  rw [none_] at held
  simp at held

-- The limits a parsed map keeps, and all it takes to be parsed again.
structure WithinLimits (attrs : Attributes) : Prop where
  few : attrs.map.size ≤ MAX_ATTR_COUNT
  short : ∀ (key : AttributeKey) (value : Bytes), attrs.map[key]? = some value → value.length ≤ MAX_ATTR_LENGTH

theorem ofRaw_within (raw : Bytes) : WithinLimits (ofRaw raw) := by
  by_cases good : ∃ records, Sentence raw records
  · obtain ⟨records,sentence⟩ := good
    refine ⟨?_,?_⟩
    · have size := size_insertMany ∅ records sentence.distinct (fun _ _ => ExtTreeMap.not_mem_empty)
      have few := sentence.few
      rw [sentence.ofRaw,size,ExtTreeMap.size_empty]
      omega
    · intro key value held
      exact sentence.short _ ((sentence.lookup key value).mp held)
  · rw [ofRaw_empty good]
    refine ⟨Nat.zero_le _,?_⟩
    intro key value held
    simp [empty] at held

theorem WithinLimits.ofRaw_serialize (within : WithinLimits attrs) : ofRaw (serialize attrs) = attrs := by
  by_cases none_ : attrs.map.toList = []
  · have clear := ExtTreeMap.toList_eq_nil_iff.mp none_
    rw [serialize,none_,List.flatMap_nil,Attributes.ofRaw,if_pos rfl,empty,← clear]
  · have sentence : Sentence (serialize attrs) attrs.map.toList := by
      refine ⟨none_,?_,(toList_ascending attrs.map).distinct,?_,rfl⟩
      · intro r member
        exact within.short r.1 r.2 (ExtTreeMap.mem_toList_iff_getElem?_eq_some.mp member)
      · rw [ExtTreeMap.length_toList]
        exact within.few
    rw [sentence.ofRaw,insertMany_toList]

theorem reparses_iff (attrs : Attributes) : ofRaw (serialize attrs) = attrs ↔ WithinLimits attrs :=
  ⟨fun same => same ▸ ofRaw_within _,WithinLimits.ofRaw_serialize⟩

-- Every map within the limits is what the receiver reads out of its bytes.
theorem serialized_read_back (attrs : Attributes) (few : attrs.map.size ≤ MAX_ATTR_COUNT)
    (short : ∀ (key : AttributeKey) (value : Bytes), attrs.map[key]? = some value → value.length ≤ MAX_ATTR_LENGTH) :
    ofRaw (serialize attrs) = attrs :=
  WithinLimits.ofRaw_serialize ⟨few,short⟩

def twoRecords : Attributes := ⟨((∅ : AttributeMap).insert 9 [1,2]).insert 7 []⟩

theorem two_records_read_back : ofRaw (serialize twoRecords) = twoRecords := by
  apply serialized_read_back
  · decide
  · intro key value held
    rw [twoRecords,ExtTreeMap.getElem?_insert,ExtTreeMap.getElem?_insert] at held
    split at held
    · cases held
      decide
    · split at held
      · cases held
        decide
      · simp at held

theorem ascending_iff (records : List AttributeRecord) :
    Ascending records ↔ records.Pairwise fun a b => a.1 < b.1 := by
  simp only [Ascending,compare_eq_lt]

theorem serialize_sorts (sentence : Sentence raw records) :
    (ofRaw raw).map.toList.Perm records := by
  rw [sentence.ofRaw]
  exact toList_insertMany records sentence.distinct

theorem Sentence.canonical_iff (sentence : Sentence raw records) :
    serialize (Attributes.ofRaw raw) = raw ↔ Ascending records := by
  have perm := serialize_sorts sentence
  constructor
  · intro same
    have lists : (Attributes.ofRaw raw).map.toList = records := by
      apply records_delimit.flatMap_injective recordBytes_visible
      · intro r member
        exact sentence.short r (perm.mem_iff.mp member)
      · exact sentence.short
      · exact same.trans sentence.text
    exact lists ▸ toList_ascending _
  · intro ascending
    have lists := (toList_ascending _).eq_of_perm ascending perm
    rw [serialize,lists,← sentence.text]

theorem parser_accepts_grammar (raw : Bytes) :
    ((ofRaw raw).map ≠ ∅ ↔ ∃ records, Sentence raw records) ∧
    ((¬∃ records, Sentence raw records) → ofRaw raw = empty) ∧
    ∀ records, Sentence raw records →
      (∀ (key : AttributeKey) (value : Bytes), (ofRaw raw).map[key]? = some value ↔ (key,value) ∈ records) ∧
      (∃ sorted : List AttributeRecord, sorted.Perm records ∧ (sorted.Pairwise fun a b => a.1 < b.1) ∧
        serialize (ofRaw raw) = sorted.flatMap recordBytes) ∧
      (serialize (ofRaw raw) = raw ↔ records.Pairwise fun a b => a.1 < b.1) := by
  refine ⟨⟨?_,?_⟩,ofRaw_empty,?_⟩
  · intro kept
    by_contra bad
    exact kept (congrArg Attributes.map (ofRaw_empty bad))
  · rintro ⟨records,sentence⟩
    exact sentence.kept
  · intro records sentence
    refine ⟨sentence.lookup,?_,?_⟩
    · exact ⟨(ofRaw raw).map.toList,serialize_sorts sentence,(ascending_iff _).mp (toList_ascending _),rfl⟩
    · exact sentence.canonical_iff.trans (ascending_iff records)

end UserAuth.Attributes
