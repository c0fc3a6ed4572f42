import UserAuth.Common.SetterLimits
import UserAuth.Remote.ConnectListener

namespace UserAuth
open Std Attributes

def MAX_UDID_STR_LEN : Nat := 65

-- The device's own udid, copied out of a buffer of MAX_UDID_STR_LEN bytes with its closing zero.
structure LocalUdid where
  bytes : Bytes
  short : bytes.length ≤ MAX_UDID_STR_LEN - 1

structure SoftBusMessage where
  messageSeq : UInt32 := 0
  messageVersion : UInt32 := 0
  connectionName : Bytes := []
  srcEndPoint : Bytes := []
  destEndPoint : Bytes := []
  attributes : Option Attributes := none
  isAck : Bool := false

namespace SoftBusMessage

def create (messageSeq : Int32) (connectionName srcEndPoint destEndPoint : Bytes) (attributes : Option Attributes) :
    SoftBusMessage :=
  {messageSeq:=messageSeq.toUInt32,connectionName:=connectionName,srcEndPoint:=srcEndPoint,
   destEndPoint:=destEndPoint,attributes:=attributes}

-- The setters of CreateMessage, in its order.
def header (self : SoftBusMessage) (isAck : Bool) (udid : LocalUdid) : List Setter :=
  [setInt32Value ATTR_MSG_SEQ_NUM self.messageSeq.toInt32,setBoolValue ATTR_MSG_ACK isAck,
    setStringBytes ATTR_MSG_SRC_END_POINT self.srcEndPoint,setStringBytes ATTR_MSG_DEST_END_POINT self.destEndPoint,
    setStringBytes ATTR_CONNECTION_NAME self.connectionName,setUint32Value ATTR_MSG_VERSION DEFAULT_MESSAGE_VERSION,
    setStringBytes ATTR_MSG_SRC_UDID udid.bytes]

def createMessage (self : SoftBusMessage) (isAck : Bool) (udid : Option LocalUdid) : Option Attributes :=
  self.attributes.bind fun attributes => udid.bind fun udid =>
    match (ofRaw (serialize attributes)).setAll (self.header isAck udid) with
    | (created,true) => some created
    | (_,false) => none

-- The fields are assigned one after another and stay assigned where a later one is missing.
def parseMessage (self : SoftBusMessage) (message : Bytes) : SoftBusMessage × Option Attributes :=
  if message = [] then (self,none)
  else
    let attributes := ofRaw message
    match attributes.getUint32Value ATTR_MSG_SEQ_NUM with
    | none => (self,none)
    | some messageSeq =>
    let self := {self with messageSeq:=messageSeq}
    match attributes.getBoolValue ATTR_MSG_ACK with
    | none => (self,none)
    | some isAck =>
    let self := {self with isAck:=isAck}
    match attributes.getStringValue ATTR_MSG_SRC_END_POINT with
    | none => (self,none)
    | some srcEndPoint =>
    let self := {self with srcEndPoint:=srcEndPoint}
    match attributes.getStringValue ATTR_MSG_DEST_END_POINT with
    | none => (self,none)
    | some destEndPoint =>
    let self := {self with destEndPoint:=destEndPoint}
    match attributes.getStringValue ATTR_CONNECTION_NAME with
    | none => (self,none)
    | some connectionName =>
    let self := {self with connectionName:=connectionName}
    match attributes.getUint32Value ATTR_MSG_VERSION with
    | none => (self,none)
    | some messageVersion => ({self with messageVersion:=messageVersion,attributes:=some attributes},some attributes)

def HEADER_KEYS : List AttributeKey :=
  [ATTR_MSG_SEQ_NUM,ATTR_MSG_ACK,ATTR_MSG_SRC_END_POINT,ATTR_MSG_DEST_END_POINT,ATTR_CONNECTION_NAME,ATTR_MSG_VERSION,
    ATTR_MSG_SRC_UDID]

def names (self : SoftBusMessage) : List Bytes := [self.srcEndPoint,self.destEndPoint,self.connectionName]

-- What a payload may be: values the codec takes, clear of the header, room for the header.
structure Payload (attributes : Attributes) : Prop where
  short : ∀ (key : AttributeKey) (value : Bytes), attributes.map[key]? = some value → value.length ≤ MAX_ATTR_LENGTH
  disjoint : ∀ key ∈ HEADER_KEYS, key ∉ attributes.map
  few : attributes.map.size + HEADER_KEYS.length ≤ MAX_ATTR_COUNT

structure Recovers (sent : SoftBusMessage) (isAck : Bool) (payload : Attributes) (parsed : SoftBusMessage)
    (attributes : Attributes) : Prop where
  messageSeq : parsed.messageSeq = sent.messageSeq
  isAck : parsed.isAck = isAck
  srcEndPoint : parsed.srcEndPoint = sent.srcEndPoint
  destEndPoint : parsed.destEndPoint = sent.destEndPoint
  connectionName : parsed.connectionName = sent.connectionName
  messageVersion : parsed.messageVersion = DEFAULT_MESSAGE_VERSION
  kept : parsed.attributes = some attributes
  payload : ∀ (key : AttributeKey) (value : Bytes), payload.map[key]? = some value → attributes.map[key]? = some value

-- Names that the setters take become a message, and every message made is
-- recovered by whichever object parses it.
structure RoundTrips (sent : SoftBusMessage) (isAck : Bool) (udid : LocalUdid) (payload : Attributes) : Prop where
  made : (∀ name ∈ sent.names, name.length ≤ MAX_ATTR_LENGTH) → (sent.createMessage isAck (some udid)).isSome
  recovered : ∀ created, sent.createMessage isAck (some udid) = some created → ∀ receiver : SoftBusMessage,
    ∃ parsed attributes, receiver.parseMessage (serialize created) = (parsed,some attributes) ∧
      Recovers sent isAck payload parsed attributes

section Parsing
variable {parsed : SoftBusMessage} {read : Attributes}

theorem parseMessage_iff (self : SoftBusMessage) (message : Bytes) :
    self.parseMessage message = (parsed,some read) ↔
      message ≠ [] ∧ ofRaw message = read ∧
      read.getUint32Value ATTR_MSG_SEQ_NUM = some parsed.messageSeq ∧
      read.getBoolValue ATTR_MSG_ACK = some parsed.isAck ∧
      read.getStringValue ATTR_MSG_SRC_END_POINT = some parsed.srcEndPoint ∧
      read.getStringValue ATTR_MSG_DEST_END_POINT = some parsed.destEndPoint ∧
      read.getStringValue ATTR_CONNECTION_NAME = some parsed.connectionName ∧
      read.getUint32Value ATTR_MSG_VERSION = some parsed.messageVersion ∧
      parsed.attributes = some read := by
  unfold parseMessage
  dsimp only
  constructor
  · intro done
    repeat' split at done
    all_goals cases done
    refine ⟨‹_›,rfl,?_,?_,?_,?_,?_,?_,rfl⟩ <;> assumption
  · rintro ⟨visible,rfl,sequence,ack,source,destination,connection,version,kept⟩
    rw [if_neg visible,sequence,ack,source,destination,connection,version]
    cases parsed
    cases kept
    rfl

-- A string read out of a message leaves room for its zero.
theorem getStringValue_short (given : (ofRaw message).getStringValue key = some name) :
    name.length < MAX_ATTR_LENGTH := by
  obtain ⟨src,held,closed⟩ := Option.bind_eq_some_iff.mp given
  have short := (ofRaw_within message).short key src held
  split at closed
  · rename_i zero
    cases closed
    have visible : src ≠ [] := by
      rintro rfl
      cases zero
    have positive := List.length_pos_iff.mpr visible
    rw [List.length_dropLast]
    omega
  · cases closed

theorem parsed_names (done : parseMessage self message = (parsed,some read)) :
    ∀ name ∈ parsed.names, name.length < MAX_ATTR_LENGTH := by
  obtain ⟨_,rfl,_,_,source,destination,connection,_⟩ := (parseMessage_iff self message).mp done
  simp only [names,List.forall_mem_cons,List.not_mem_nil,false_imp_iff,implies_true,and_true]
  exact ⟨getStringValue_short source,getStringValue_short destination,getStringValue_short connection⟩

end Parsing

section Making
variable {self : SoftBusMessage} {isAck : Bool} {udid : LocalUdid} {payload created : Attributes}

theorem header_keys (self : SoftBusMessage) (isAck : Bool) (udid : LocalUdid) :
    (self.header isAck udid).map Setter.key = HEADER_KEYS := rfl

theorem udid_short (udid : LocalUdid) : udid.bytes.length < MAX_ATTR_LENGTH :=
  udid.short.trans_lt (by decide)

theorem Payload.settable (clear : Payload payload) : Settable payload (self.header isAck udid) := by
  refine ⟨?_,?_,?_⟩
  · have few := clear.few
    rw [← header_keys self isAck udid,List.length_map] at few
    exact few.trans (Nat.le_succ _)
  · rw [header_keys]
    decide
  · intro setter member
    apply clear.disjoint
    rw [← header_keys self isAck udid]
    exact List.mem_map_of_mem member

theorem Payload.within (clear : Payload payload) : WithinLimits payload :=
  ⟨(Nat.le_add_right _ _).trans clear.few,clear.short⟩

theorem header_encodes (self : SoftBusMessage) (isAck : Bool) (udid : LocalUdid) :
    (self.header isAck udid).all (·.dest.isSome) = true ↔ ∀ name ∈ self.names, name.length ≤ MAX_ATTR_LENGTH := by
  have string : ∀ (key : AttributeKey) (name : Bytes),
      (setStringBytes key name).dest.isSome = true ↔ name.length ≤ MAX_ATTR_LENGTH :=
    fun _ _ => encodes_iff fun _ => encodeStringBytes_some
  have own := udid_short udid
  simp only [header,names,List.all_cons,List.all_nil,Bool.and_eq_true,string,List.forall_mem_cons,List.not_mem_nil,
    false_imp_iff,implies_true,and_true]
  constructor
  · rintro ⟨_,_,source,destination,connection,_⟩
    exact ⟨source,destination,connection⟩
  · rintro ⟨source,destination,connection⟩
    exact ⟨rfl,rfl,source,destination,connection,rfl,own.le⟩

theorem createMessage_iff (clear : Payload payload) (given : self.attributes = some payload) :
    self.createMessage isAck (some udid) = some created ↔
      payload.setAll (self.header isAck udid) = (created,true) := by
  rw [createMessage,given,Option.bind_some,Option.bind_some,clear.within.ofRaw_serialize]
  split
  · rename_i made
    rw [made,Option.some_inj,Prod.mk.injEq,and_iff_left rfl]
  · rename_i failed
    rw [failed]
    simp

theorem createMessage_isSome (clear : Payload payload) (given : self.attributes = some payload) :
    (self.createMessage isAck (some udid)).isSome ↔ ∀ name ∈ self.names, name.length ≤ MAX_ATTR_LENGTH := by
  rw [← header_encodes self isAck udid,← setAll_complete payload _ clear.settable,Option.isSome_iff_exists]
  constructor
  · rintro ⟨created,made⟩
    rw [(createMessage_iff clear given).mp made]
  · intro complete
    exact ⟨_,(createMessage_iff clear given).mpr (Prod.ext rfl complete)⟩

theorem created_lookup (made : payload.setAll (self.header isAck udid) = (created,true)) (key : AttributeKey) :
    created.map[key]? = ((self.header isAck udid).reverse.find? (·.key == key)).elim payload.map[key]? Setter.dest :=
  setAll_last payload _ made key

theorem created_keeps {key : AttributeKey} {value : Bytes} (clear : Payload payload)
    (made : payload.setAll (self.header isAck udid) = (created,true)) (held : payload.map[key]? = some value) :
    created.map[key]? = some value := by
  have absent : (self.header isAck udid).reverse.find? (·.key == key) = none := by
    rw [List.find?_eq_none]
    intro setter member same
    have inside : setter.key ∈ HEADER_KEYS := by
      rw [← header_keys self isAck udid]
      exact List.mem_map_of_mem (List.mem_reverse.mp member)
    apply clear.disjoint _ inside
    rw [beq_iff_eq.mp same,ExtTreeMap.mem_iff_isSome_getElem?,held]
    rfl
  rw [created_lookup made,absent]
  exact held

theorem header_short (short : ∀ name ∈ self.names, name.length < MAX_ATTR_LENGTH) :
    ∀ setter ∈ self.header isAck udid, ∀ value, setter.dest = some value → value.length ≤ MAX_ATTR_LENGTH := by
  simp only [names,List.forall_mem_cons] at short
  obtain ⟨source,destination,connection,_⟩ := short
  simp only [header,List.forall_mem_cons]
  refine ⟨?_,?_,?_,?_,?_,?_,?_,fun _ none_ => (List.not_mem_nil none_).elim⟩ <;> intro value encoded
  · exact (encoded_short .int32 _ _ encoded).mpr trivial
  · exact (encoded_short .bool _ _ encoded).mpr trivial
  · exact (encoded_short .string _ _ encoded).mpr source
  · exact (encoded_short .string _ _ encoded).mpr destination
  · exact (encoded_short .string _ _ encoded).mpr connection
  · exact (encoded_short .uint32 _ _ encoded).mpr trivial
  · exact (encoded_short .string _ _ encoded).mpr (udid_short udid)

theorem created_within (clear : Payload payload) (made : payload.setAll (self.header isAck udid) = (created,true))
    (short : ∀ name ∈ self.names, name.length < MAX_ATTR_LENGTH) : WithinLimits created := by
  refine ⟨?_,?_⟩
  · have size := setAll_size clear.settable made
    rw [size]
    exact clear.few
  · intro key value held
    rw [created_lookup made] at held
    cases found : (self.header isAck udid).reverse.find? (·.key == key) with
    | none =>
      rw [found] at held
      exact clear.short key value held
    | some setter =>
      rw [found] at held
      have member := List.mem_reverse.mp (List.mem_of_find?_eq_some found)
      exact header_short short setter member value held

-- The sequence number is written as an int32 and read as an uint32.
theorem sequence_written (key : AttributeKey) (value : UInt32) :
    setInt32Value key value.toInt32 = setUint32Value key value := by
  rw [setInt32Value,encodeInt32Value,UInt32.toUInt32_toInt32]
  rfl

theorem header_read (type : ValueType) {value : type.Value}
    (made : payload.setAll (self.header isAck udid) = (created,true))
    (member : setValue type key value ∈ self.header isAck udid) (plain : Rereadable type value) :
    getValue type created key = some value := by
  obtain ⟨dest,encoded⟩ := setAll_encoded payload _ made _ member
  have held := setAll_holds payload _ made (by rw [header_keys]; decide) member
  rw [setValue_key,encoded] at held
  exact (getValue_stored type key value created encoded held).mpr plain

theorem created_visible (made : payload.setAll (self.header isAck udid) = (created,true)) : serialize created ≠ [] := by
  intro blank
  have clear := (serialize_eq_nil_iff created).mp blank
  have held := (mem_setAll payload _ made ATTR_MSG_SEQ_NUM).mpr (.inr List.mem_cons_self)
  rw [clear] at held
  exact ExtTreeMap.not_mem_empty held

theorem created_parsed (clear : Payload payload) (made : payload.setAll (self.header isAck udid) = (created,true))
    (within : WithinLimits created) (receiver : SoftBusMessage) :
    ∃ parsed, receiver.parseMessage (serialize created) = (parsed,some created) ∧
      Recovers self isAck payload parsed created := by
  have sequence : setValue .uint32 ATTR_MSG_SEQ_NUM self.messageSeq ∈ self.header isAck udid := by
    rw [header,sequence_written]
    exact List.mem_cons_self
  refine ⟨{self with messageVersion:=DEFAULT_MESSAGE_VERSION,attributes:=some created,isAck:=isAck},?_,?_⟩
  · apply (parseMessage_iff receiver _).mpr
    refine ⟨created_visible made,within.ofRaw_serialize,header_read .uint32 made sequence trivial,?_,?_,?_,?_,?_,rfl⟩
    · exact header_read .bool made (by simp [header,setValue]) trivial
    · exact header_read .string made (by simp [header,setValue]) trivial
    · exact header_read .string made (by simp [header,setValue]) trivial
    · exact header_read .string made (by simp [header,setValue]) trivial
    · exact header_read .uint32 made (by simp [header,setValue]) trivial
  · exact ⟨rfl,rfl,rfl,rfl,rfl,rfl,rfl,fun key value => created_keeps clear made⟩

end Making

theorem recovered_names {sent parsed : SoftBusMessage} {ack : Bool} {payload read : Attributes}
    (recovers : Recovers sent ack payload parsed read) : parsed.names = sent.names := by
  rw [names,recovers.srcEndPoint,recovers.destEndPoint,recovers.connectionName]
  rfl

-- Names as long as the setters allow are one byte too long for the parser, which drops the whole message.
theorem message_round_trips_iff (sent : SoftBusMessage) (isAck : Bool) (udid : LocalUdid) (payload : Attributes)
    (given : sent.attributes = some payload) (clear : Payload payload) :
    RoundTrips sent isAck udid payload ↔
      ((∀ name ∈ sent.names, name.length ≤ MAX_ATTR_LENGTH) → ∀ name ∈ sent.names, name.length < MAX_ATTR_LENGTH) := by
  constructor
  · intro trips fits
    obtain ⟨created,made⟩ := Option.isSome_iff_exists.mp (trips.made fits)
    obtain ⟨parsed,read,done,recovers⟩ := trips.recovered created made {}
    rw [← recovered_names recovers]
    exact parsed_names done
  · intro short
    refine ⟨(createMessage_isSome clear given).mpr,?_⟩
    intro created made receiver
    have fits := (createMessage_isSome clear given).mp (Option.isSome_of_eq_some made)
    have done := (createMessage_iff clear given).mp made
    obtain ⟨parsed,read,recovers⟩ := created_parsed clear done (created_within clear done (short fits)) receiver
    exact ⟨parsed,created,read,recovers⟩

theorem payload_empty : Payload empty := by
  refine ⟨?_,fun _ _ => ExtTreeMap.not_mem_empty,by decide⟩
  intro key value held
  simp [empty] at held

def ownUdid : LocalUdid := ⟨ascii "0123456789ABCDEF",by decide⟩
def shortMessage : SoftBusMessage := create 7 (ascii "name") (ascii "src") (ascii "dest") (some empty)

theorem short_message_round_trips : RoundTrips shortMessage false ownUdid empty :=
  (message_round_trips_iff shortMessage false ownUdid empty rfl payload_empty).mpr fun _ => by decide

def longMessage (name : Bytes) : SoftBusMessage := create 7 (ascii "name") name (ascii "dest") (some empty)

theorem longest_name_lost :
    ¬∀ (sent : SoftBusMessage) (isAck : Bool) (udid : LocalUdid) (payload : Attributes),
      sent.attributes = some payload → Payload payload → RoundTrips sent isAck udid payload := by
  intro all
  have size : (List.replicate MAX_ATTR_LENGTH (97 : UInt8)).length = MAX_ATTR_LENGTH := List.length_replicate
  generalize List.replicate MAX_ATTR_LENGTH (97 : UInt8) = name at size
  have trips := all (longMessage name) false ownUdid empty rfl payload_empty
  have fits : ∀ other ∈ (longMessage name).names, other.length ≤ MAX_ATTR_LENGTH := by
    simp only [longMessage,names,create,List.forall_mem_cons]
    exact ⟨size.le,by decide,by decide,fun _ none_ => (List.not_mem_nil none_).elim⟩
  obtain ⟨created,made⟩ := Option.isSome_iff_exists.mp (trips.made fits)
  obtain ⟨parsed,read,done,recovers⟩ := trips.recovered created made {}
  have short := parsed_names done name (recovered_names recovers ▸ List.mem_cons_self)
  rw [size] at short
  exact Nat.lt_irrefl _ short

end SoftBusMessage
end UserAuth
