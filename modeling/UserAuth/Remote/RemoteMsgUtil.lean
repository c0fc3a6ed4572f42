import UserAuth.Common.AttributesArray
import UserAuth.Remote.ConnectListener
import UserAuth.Remote.RemoteMessage

namespace UserAuth
open Attributes Std

structure ExecutorInfo where
  authType : AuthType := 0
  executorRole : ExecutorRole := 0
  executorSensorHint : UInt32 := 0
  executorMatcher : UInt32 := 0
  esl : Int32 := 0
  maxTemplateAcl : UInt32 := 0
  publicKey : Bytes := []
  deviceUdid : Bytes := []
  signedRemoteExecutorInfo : Bytes := []
  deriving DecidableEq

namespace RemoteMsgUtil

def executorInfoSetters (executorInfo : ExecutorInfo) : List Setter :=
  [setInt32Value ATTR_AUTH_TYPE executorInfo.authType,setInt32Value ATTR_EXECUTOR_ROLE executorInfo.executorRole,
    setUint32Value ATTR_EXECUTOR_SENSOR_HINT executorInfo.executorSensorHint,
    setUint32Value ATTR_EXECUTOR_MATCHER executorInfo.executorMatcher,setInt32Value ATTR_ESL executorInfo.esl,
    setUint8ArrayValue ATTR_PUBLIC_KEY executorInfo.publicKey,setStringBytes ATTR_DEVICE_UDID executorInfo.deviceUdid]

def setExecutorInfoToAttributes (executorInfo : ExecutorInfo) (attr : Attributes) : Attributes × Bool :=
  attr.setAll (executorInfoSetters executorInfo)

-- The loop over the infos, given up at the first that does not encode.
def attributeArray : List ExecutorInfo → Option (List Attributes)
  | [] => some []
  | executorInfo :: rest =>
    let item := setExecutorInfoToAttributes executorInfo empty
    if !item.2 then none else (attributeArray rest).map (ofRaw (serialize item.1) :: ·)

def setExecutorInfoArrayToAttributes (executorInfoArray : List ExecutorInfo) (attr : Attributes) : Attributes × Bool :=
  match attributeArray executorInfoArray with
  | none => (attr,false)
  | some array => attr.setAll [setAttributesArrayValue ATTR_EXECUTOR_REGISTER_INFO_LIST array]

def encodeQueryExecutorInfoReply (executorInfoArray : List ExecutorInfo) (signedRemoteExecutorInfo : Bytes)
    (attr : Attributes) : Attributes × Bool :=
  if executorInfoArray.length = 0 then (attr,false)
  else
    match attr.set (setUint8ArrayValue ATTR_REMOTE_EXECUTOR_INFO signedRemoteExecutorInfo) with
    | none => (attr,false)
    | some attr => setExecutorInfoArrayToAttributes executorInfoArray attr

def getExecutorInfoFromAttributes (attr : Attributes) (signedRemoteExecutorInfo : Bytes) : Option ExecutorInfo := do
  let authType ← attr.getInt32Value ATTR_AUTH_TYPE
  let executorRole ← attr.getInt32Value ATTR_EXECUTOR_ROLE
  let executorSensorHint ← attr.getUint32Value ATTR_EXECUTOR_SENSOR_HINT
  let executorMatcher ← attr.getUint32Value ATTR_EXECUTOR_MATCHER
  let esl ← attr.getInt32Value ATTR_ESL
  let publicKey ← attr.getUint8ArrayValue ATTR_PUBLIC_KEY
  let deviceUdid ← attr.getStringValue ATTR_DEVICE_UDID
  some {authType,executorRole,executorSensorHint,executorMatcher,esl,publicKey,deviceUdid,signedRemoteExecutorInfo}

-- What was pushed before an item that does not decode stays in the caller's array.
def pushExecutorInfos (signedRemoteExecutorInfo : Bytes) : List Attributes → List ExecutorInfo → List ExecutorInfo × Bool
  | [],executorInfoArray => (executorInfoArray,true)
  | item :: rest,executorInfoArray =>
    match getExecutorInfoFromAttributes item signedRemoteExecutorInfo with
    | none => (executorInfoArray,false)
    | some executorInfo => pushExecutorInfos signedRemoteExecutorInfo rest (executorInfoArray ++ [executorInfo])

def getExecutorInfoArrayFromAttributes (attr : Attributes) (signedRemoteExecutorInfo : Bytes)
    (executorInfoArray : List ExecutorInfo) : List ExecutorInfo × Bool :=
  match attr.getAttributesArrayValue ATTR_EXECUTOR_REGISTER_INFO_LIST with
  | none => (executorInfoArray,false)
  | some array => pushExecutorInfos signedRemoteExecutorInfo array executorInfoArray

def decodeQueryExecutorInfoReply (attr : Attributes) (executorInfoArray : List ExecutorInfo) : List ExecutorInfo × Bool :=
  match attr.getUint8ArrayValue ATTR_REMOTE_EXECUTOR_INFO with
  | none => (executorInfoArray,false)
  | some signedRemoteExecutorInfo => getExecutorInfoArrayFromAttributes attr signedRemoteExecutorInfo executorInfoArray

def decodeAuthParam (attr : Attributes) : Option AuthParamInner := do
  let userId ← attr.getInt32Value ATTR_USER_ID
  let challenge ← attr.getUint8ArrayValue ATTR_CHALLENGE
  let authType ← attr.getInt32Value ATTR_AUTH_TYPE
  let authTrustLevel ← attr.getInt32Value ATTR_AUTH_TRUST_LEVEL
  some {userId,challenge,authType,authTrustLevel:=authTrustLevel.toUInt32}

section Setting
variable {attrs next : Attributes} {setters : List Setter}

theorem setAll_size_le (done : attrs.setAll setters = (next,true)) :
    next.map.size ≤ attrs.map.size + setters.length := by
  induction setters generalizing attrs with
  | nil =>
    cases done
    exact Nat.le_refl _
  | cons setter rest ih =>
    obtain ⟨dest,_,done⟩ := setAll_cons attrs done
    have grown : (attrs.map.insert setter.key dest).size ≤ attrs.map.size + 1 := ExtTreeMap.size_insert_le
    have bound := ih done
    rw [List.length_cons]
    dsimp only at bound
    omega

theorem setAll_within (done : attrs.setAll setters = (next,true)) (within : WithinLimits attrs)
    (room : attrs.map.size + setters.length ≤ MAX_ATTR_COUNT)
    (short : ∀ setter ∈ setters, ∀ value, setter.dest = some value → value.length ≤ MAX_ATTR_LENGTH) :
    WithinLimits next := by
  refine ⟨(setAll_size_le done).trans room,fun key value held => ?_⟩
  rw [setAll_last attrs setters done] at held
  cases found : setters.reverse.find? (·.key == key) with
  | none =>
    rw [found] at held
    exact within.short key value held
  | some setter =>
    rw [found] at held
    exact short setter (List.mem_reverse.mp (List.mem_of_find?_eq_some found)) value held

-- A value set among others under distinct keys, read with the getter of its type.
theorem setAll_read (type : ValueType) (key : AttributeKey) (value : type.Value)
    (done : attrs.setAll setters = (next,true)) (distinct : (setters.map Setter.key).Nodup)
    (member : setValue type key value ∈ setters) (plain : Rereadable type value) : getValue type next key = some value := by
  obtain ⟨dest,encoded⟩ := setAll_encoded attrs setters done _ member
  have held := setAll_holds attrs setters done distinct member
  rw [setValue_key,encoded] at held
  exact (getValue_stored type key value next encoded held).mpr plain

end Setting

theorem withinLimits_empty : WithinLimits empty := by
  refine ⟨Nat.zero_le _,fun key value held => ?_⟩
  simp [empty] at held

theorem item_read (executorInfo : ExecutorInfo) (signedRemoteExecutorInfo : Bytes)
    (done : setExecutorInfoToAttributes executorInfo empty = (item,true)) :
    getExecutorInfoFromAttributes item signedRemoteExecutorInfo =
      some {executorInfo with maxTemplateAcl:=0,signedRemoteExecutorInfo} := by
  have distinct : ((executorInfoSetters executorInfo).map Setter.key).Nodup := by
    change List.Nodup [ATTR_AUTH_TYPE,ATTR_EXECUTOR_ROLE,ATTR_EXECUTOR_SENSOR_HINT,ATTR_EXECUTOR_MATCHER,ATTR_ESL,
      ATTR_PUBLIC_KEY,ATTR_DEVICE_UDID]
    decide
  have read (type : ValueType) (key : AttributeKey) (value : type.Value)
      (member : setValue type key value ∈ executorInfoSetters executorInfo) (plain : Rereadable type value) :=
    setAll_read type key value done distinct member plain
  have authType : item.getInt32Value ATTR_AUTH_TYPE = _ := read .int32 _ executorInfo.authType (.head _) trivial
  have executorRole : item.getInt32Value ATTR_EXECUTOR_ROLE = _ :=
    read .int32 _ executorInfo.executorRole (by simp [executorInfoSetters,setValue]) trivial
  have sensorHint : item.getUint32Value ATTR_EXECUTOR_SENSOR_HINT = _ :=
    read .uint32 _ executorInfo.executorSensorHint (by simp [executorInfoSetters,setValue]) trivial
  have executorMatcher : item.getUint32Value ATTR_EXECUTOR_MATCHER = _ :=
    read .uint32 _ executorInfo.executorMatcher (by simp [executorInfoSetters,setValue]) trivial
  have esl : item.getInt32Value ATTR_ESL = _ :=
    read .int32 _ executorInfo.esl (by simp [executorInfoSetters,setValue]) trivial
  have publicKey : item.getUint8ArrayValue ATTR_PUBLIC_KEY = _ :=
    read .uint8Array _ executorInfo.publicKey (by simp [executorInfoSetters,setValue]) trivial
  have deviceUdid : item.getStringValue ATTR_DEVICE_UDID = _ :=
    read .string _ executorInfo.deviceUdid (by simp [executorInfoSetters,setValue]) trivial
  rw [getExecutorInfoFromAttributes,authType,executorRole,sensorHint,executorMatcher,esl,publicKey,deviceUdid]
  rfl

theorem item_within (executorInfo : ExecutorInfo) (short : executorInfo.deviceUdid.length < MAX_ATTR_LENGTH)
    (done : setExecutorInfoToAttributes executorInfo empty = (item,true)) : WithinLimits item := by
  have room : empty.map.size + 7 ≤ MAX_ATTR_COUNT := by decide
  apply setAll_within done withinLimits_empty room
  simp only [executorInfoSetters,List.forall_mem_cons]
  refine ⟨?_,?_,?_,?_,?_,?_,?_,fun _ none_ => (List.not_mem_nil none_).elim⟩ <;> intro value encoded
  · exact (encoded_short .int32 _ _ encoded).mpr trivial
  · exact (encoded_short .int32 _ _ encoded).mpr trivial
  · exact (encoded_short .uint32 _ _ encoded).mpr trivial
  · exact (encoded_short .uint32 _ _ encoded).mpr trivial
  · exact (encoded_short .int32 _ _ encoded).mpr trivial
  · exact (encoded_short .uint8Array _ _ encoded).mpr trivial
  · exact (encoded_short .string _ _ encoded).mpr short

-- Every item of the array is what was set for its info, come back from its bytes.
theorem attributeArray_items (executorInfoArray : List ExecutorInfo) (made : attributeArray executorInfoArray = some array)
    (short : ∀ executorInfo ∈ executorInfoArray, executorInfo.deviceUdid.length < MAX_ATTR_LENGTH) :
    List.Forall₂ (fun executorInfo item => setExecutorInfoToAttributes executorInfo empty = (item,true) ∧ WithinLimits item)
      executorInfoArray array := by
  induction executorInfoArray generalizing array with
  | nil =>
    cases made
    exact .nil
  | cons executorInfo rest ih =>
    rw [attributeArray] at made
    cases complete : (setExecutorInfoToAttributes executorInfo empty).2 with
    | false =>
      rw [complete] at made
      cases made
    | true =>
      rw [complete] at made
      obtain ⟨items,others,rfl⟩ := Option.map_eq_some_iff.mp made
      have done : setExecutorInfoToAttributes executorInfo empty = ((setExecutorInfoToAttributes executorInfo empty).1,true) :=
        Prod.ext rfl complete
      have within := item_within executorInfo (short executorInfo List.mem_cons_self) done
      rw [within.ofRaw_serialize]
      exact .cons ⟨done,within⟩ (ih others fun other member => short other (List.mem_cons_of_mem _ member))

theorem items_within (items : List.Forall₂
    (fun executorInfo item => setExecutorInfoToAttributes executorInfo empty = (item,true) ∧ WithinLimits item)
    executorInfoArray array) : ∀ item ∈ array, WithinLimits item := by
  induction items with
  | nil => exact fun _ none_ => (List.not_mem_nil none_).elim
  | cons first _ ih => exact List.forall_mem_cons.mpr ⟨first.2,ih⟩

-- What a receiver makes of an info: the fields that are sent, and the message's signed info.
def received (signedRemoteExecutorInfo : Bytes) (executorInfo : ExecutorInfo) : ExecutorInfo :=
  {executorInfo with maxTemplateAcl:=0,signedRemoteExecutorInfo}

theorem pushExecutorInfos_items (signedRemoteExecutorInfo : Bytes) (before executorInfoArray : List ExecutorInfo)
    (items : List.Forall₂
      (fun executorInfo item => setExecutorInfoToAttributes executorInfo empty = (item,true) ∧ WithinLimits item)
      executorInfoArray array) :
    pushExecutorInfos signedRemoteExecutorInfo array before =
      (before ++ executorInfoArray.map (received signedRemoteExecutorInfo),true) := by
  induction items generalizing before with
  | nil => rw [pushExecutorInfos,List.map_nil,List.append_nil]
  | cons first _ ih =>
    rw [pushExecutorInfos,item_read _ signedRemoteExecutorInfo first.1]
    dsimp only
    rw [ih,List.map_cons,List.append_assoc]
    rfl

theorem encodeReply_iff (executorInfoArray : List ExecutorInfo) (signedRemoteExecutorInfo : Bytes) (attr message : Attributes) :
    encodeQueryExecutorInfoReply executorInfoArray signedRemoteExecutorInfo attr = (message,true) ↔
      executorInfoArray ≠ [] ∧ ∃ array, attributeArray executorInfoArray = some array ∧
        attr.setAll [setUint8ArrayValue ATTR_REMOTE_EXECUTOR_INFO signedRemoteExecutorInfo,
          setAttributesArrayValue ATTR_EXECUTOR_REGISTER_INFO_LIST array] = (message,true) := by
  unfold encodeQueryExecutorInfoReply setExecutorInfoArrayToAttributes
  by_cases blank : executorInfoArray = []
  · simp [blank]
  · rw [if_neg (mt List.length_eq_zero_iff.mp blank)]
    cases signed : attr.set (setUint8ArrayValue ATTR_REMOTE_EXECUTOR_INFO signedRemoteExecutorInfo) with
    | none => simp [setAll,signed]
    | some next =>
      cases made : attributeArray executorInfoArray with
      | none => simp
      | some array => simp [setAll,signed,blank]

theorem reply_round_trips (attr : Attributes) (within : WithinLimits attr) (room : attr.map.size + 2 ≤ MAX_ATTR_COUNT)
    (short : ∀ executorInfo ∈ executorInfoArray, executorInfo.deviceUdid.length < MAX_ATTR_LENGTH)
    (encoded : encodeQueryExecutorInfoReply executorInfoArray signedRemoteExecutorInfo attr = (message,true)) :
    decodeQueryExecutorInfoReply (ofRaw (serialize message)) [] =
      (executorInfoArray.map (received signedRemoteExecutorInfo),true) := by
  obtain ⟨_,array,made,done⟩ := (encodeReply_iff _ _ _ _).mp encoded
  have items := attributeArray_items executorInfoArray made short
  have distinct : ([setUint8ArrayValue ATTR_REMOTE_EXECUTOR_INFO signedRemoteExecutorInfo,
      setAttributesArrayValue ATTR_EXECUTOR_REGISTER_INFO_LIST array].map Setter.key).Nodup := by
    change List.Nodup [ATTR_REMOTE_EXECUTOR_INFO,ATTR_EXECUTOR_REGISTER_INFO_LIST]
    decide
  have fits : WithinLimits message := by
    apply setAll_within done within room
    simp only [List.forall_mem_cons]
    refine ⟨?_,?_,fun _ none_ => (List.not_mem_nil none_).elim⟩ <;> intro value stored
    · exact (encoded_short .uint8Array _ _ stored).mpr trivial
    · exact (encoded_short .attributesArray _ array stored).mpr trivial
  have signed : message.getUint8ArrayValue ATTR_REMOTE_EXECUTOR_INFO = some signedRemoteExecutorInfo :=
    setAll_read .uint8Array _ signedRemoteExecutorInfo done distinct (.head _) trivial
  have whole := items_within items
  have list : message.getAttributesArrayValue ATTR_EXECUTOR_REGISTER_INFO_LIST = some array :=
    setAll_read .attributesArray _ array done distinct (.tail _ (.head _)) whole
  rw [fits.ofRaw_serialize,decodeQueryExecutorInfoReply,signed]
  dsimp only
  rw [getExecutorInfoArrayFromAttributes,list]
  dsimp only
  rw [pushExecutorInfos_items _ _ _ items,List.nil_append]

theorem authParam_round_trips (attr : Attributes) (within : WithinLimits attr) (room : attr.map.size + 4 ≤ MAX_ATTR_COUNT)
    (encoded : attr.setAll (encodeAuthParam authParam) = (message,true)) :
    decodeAuthParam (ofRaw (serialize message)) = some authParam := by
  have distinct : ((encodeAuthParam authParam).map Setter.key).Nodup := by
    change List.Nodup [ATTR_USER_ID,ATTR_CHALLENGE,ATTR_AUTH_TYPE,ATTR_AUTH_TRUST_LEVEL]
    decide
  have fits : WithinLimits message := by
    apply setAll_within encoded within room
    simp only [encodeAuthParam,List.forall_mem_cons]
    refine ⟨?_,?_,?_,?_,fun _ none_ => (List.not_mem_nil none_).elim⟩ <;> intro value stored
    · exact (encoded_short .int32 _ _ stored).mpr trivial
    · exact (encoded_short .uint8Array _ _ stored).mpr trivial
    · exact (encoded_short .int32 _ _ stored).mpr trivial
    · exact (encoded_short .int32 _ _ stored).mpr trivial
  have userId : message.getInt32Value ATTR_USER_ID = _ :=
    setAll_read .int32 _ authParam.userId encoded distinct (.head _) trivial
  have challenge : message.getUint8ArrayValue ATTR_CHALLENGE = _ :=
    setAll_read .uint8Array _ authParam.challenge encoded distinct (.tail _ (.head _)) trivial
  have authType : message.getInt32Value ATTR_AUTH_TYPE = _ :=
    setAll_read .int32 _ authParam.authType encoded distinct (.tail _ (.tail _ (.head _))) trivial
  have trustLevel : message.getInt32Value ATTR_AUTH_TRUST_LEVEL = _ :=
    setAll_read .int32 _ authParam.authTrustLevel.toInt32 encoded distinct (.tail _ (.tail _ (.tail _ (.head _)))) trivial
  rw [fits.ofRaw_serialize,decodeAuthParam,userId,challenge,authType,trustLevel]
  simp

-- In a message that has room for the fields; a fresh one is empty.
theorem messages_round_trip (attr message : Attributes) (within : WithinLimits attr) :
    (∀ (executorInfoArray : List ExecutorInfo) (signedRemoteExecutorInfo : Bytes),
      attr.map.size + 2 ≤ MAX_ATTR_COUNT →
      (∀ executorInfo ∈ executorInfoArray, executorInfo.deviceUdid.length < MAX_ATTR_LENGTH) →
      encodeQueryExecutorInfoReply executorInfoArray signedRemoteExecutorInfo attr = (message,true) →
        decodeQueryExecutorInfoReply (ofRaw (serialize message)) [] =
          (executorInfoArray.map (received signedRemoteExecutorInfo),true)) ∧
    ∀ authParam : AuthParamInner, attr.map.size + 4 ≤ MAX_ATTR_COUNT →
      attr.setAll (encodeAuthParam authParam) = (message,true) →
        decodeAuthParam (ofRaw (serialize message)) = some authParam :=
  ⟨fun _ _ room short encoded => reply_round_trips attr within room short encoded,
    fun _ room encoded => authParam_round_trips attr within room encoded⟩

def faceCollector : ExecutorInfo where
  authType := AuthType.FACE
  executorRole := ExecutorRole.COLLECTOR
  executorSensorHint := 7
  publicKey := [1,2]
  deviceUdid := ascii "udid"

def pinVerifier : ExecutorInfo where
  authType := AuthType.PIN
  executorRole := ExecutorRole.VERIFIER
  publicKey := [3]
  deviceUdid := ascii "udid"

def collectorItem : Attributes := (setExecutorInfoToAttributes faceCollector empty).1
def verifierItem : Attributes := (setExecutorInfoToAttributes pinVerifier empty).1
def replySetters : List Setter :=
  [setUint8ArrayValue ATTR_REMOTE_EXECUTOR_INFO [9],
    setAttributesArrayValue ATTR_EXECUTOR_REGISTER_INFO_LIST [collectorItem,verifierItem]]

set_option maxRecDepth 4000 in
theorem executors_encoded :
    encodeQueryExecutorInfoReply [faceCollector,pinVerifier] [9] empty = ((empty.setAll replySetters).1,true) := by
  have collector : setExecutorInfoToAttributes faceCollector empty = (collectorItem,true) := Prod.ext rfl (by decide)
  have verifier : setExecutorInfoToAttributes pinVerifier empty = (verifierItem,true) := Prod.ext rfl (by decide)
  have collectorWithin := item_within faceCollector (by decide) collector
  have verifierWithin := item_within pinVerifier (by decide) verifier
  have made : attributeArray [faceCollector,pinVerifier] = some [collectorItem,verifierItem] := by
    simp [attributeArray,collector,verifier,collectorWithin.ofRaw_serialize,verifierWithin.ofRaw_serialize]
  have complete : (empty.setAll replySetters).2 = true := by decide
  exact (encodeReply_iff _ _ _ _).mpr ⟨List.cons_ne_nil _ _,_,made,Prod.ext rfl complete⟩

theorem collector_and_param_returned :
    decodeQueryExecutorInfoReply (ofRaw (serialize (empty.setAll replySetters).1)) [] =
        ([{faceCollector with signedRemoteExecutorInfo:=[9]},{pinVerifier with signedRemoteExecutorInfo:=[9]}],true) ∧
      decodeAuthParam (ofRaw (serialize (empty.setAll (encodeAuthParam {challenge:=[5]})).1)) = some {challenge:=[5]} := by
  constructor
  · exact (messages_round_trip empty _ withinLimits_empty).1 [faceCollector,pinVerifier] [9] (by decide) (by decide)
      executors_encoded
  · exact (messages_round_trip empty _ withinLimits_empty).2 {challenge:=[5]} (by decide) (Prod.ext rfl (by decide))

end RemoteMsgUtil
end UserAuth
