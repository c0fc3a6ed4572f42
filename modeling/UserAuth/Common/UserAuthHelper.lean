import UserAuth.Common.Defines

namespace UserAuth
namespace UserAuthHelper

-- How far the first byte makes the loop go, whatever the bytes that follow are.
def utf8Width (c : UInt8) : Nat :=
  if c &&& 0xE0 = 0xC0 then 2 else if c &&& 0xF0 = 0xE0 then 3 else if c &&& 0xF8 = 0xF0 then 4 else 1

-- One character for each first byte, whatever the bytes it skips are.
def getUtf8CharCount : Bytes → Nat
  | [] => 0
  | c :: rest => getUtf8CharCount (rest.drop (utf8Width c - 1)) + 1
termination_by str => str.length
decreasing_by
  rw [List.length_drop,List.length_cons]
  omega

-- The loop itself, with its index and its count, cut off after some turns.
def countLoop (str : Bytes) : Nat → Nat → Nat → Option Nat
  | 0,_,_ => none
  | turns + 1,i,charCount =>
    match str[i]? with
    | none => some charCount
    | some c => countLoop str turns (i + utf8Width c) (charCount + 1)

theorem utf8Width_bounds (c : UInt8) : 1 ≤ utf8Width c ∧ utf8Width c ≤ 4 := by
  unfold utf8Width
  split
  · decide
  · split
    · decide
    · split <;> decide

@[simp] theorem getUtf8CharCount_nil : getUtf8CharCount [] = 0 := by
  rw [getUtf8CharCount]

theorem getUtf8CharCount_cons (c : UInt8) (rest : Bytes) :
    getUtf8CharCount (c :: rest) = getUtf8CharCount ((c :: rest).drop (utf8Width c)) + 1 := by
  obtain ⟨width,found⟩ := Nat.exists_eq_add_of_le' (utf8Width_bounds c).1
  rw [getUtf8CharCount,found,List.drop_succ_cons,Nat.add_sub_cancel]

-- The loop returns, within a turn for each byte and the one that ends it.
theorem countLoop_returns (str : Bytes) (turns i charCount : Nat) (enough : str.length - i < turns) :
    countLoop str turns i charCount = some (charCount + getUtf8CharCount (str.drop i)) := by
  induction turns generalizing i charCount with
  | zero => exact absurd enough (Nat.not_lt_zero _)
  | succ turns ih =>
    unfold countLoop
    cases found : str[i]? with
    | none =>
      rw [List.drop_eq_nil_of_le (List.getElem?_eq_none_iff.mp found)]
      simp
    | some c =>
      have inside : i < str.length := (List.getElem?_eq_some_iff.mp found).1
      have left : str.drop i = c :: str.drop (i + 1) := by
        rw [List.drop_eq_getElem_cons inside,(List.getElem?_eq_some_iff.mp found).2]
      have moves := (utf8Width_bounds c).1
      dsimp only
      rw [ih (i + utf8Width c) (charCount + 1) (by omega),left,getUtf8CharCount_cons,← left,List.drop_drop]
      congr 1
      omega

-- Each turn takes at least one byte, and four at most.
theorem getUtf8CharCount_bounds (str : Bytes) :
    getUtf8CharCount str ≤ str.length ∧ str.length ≤ 4 * getUtf8CharCount str := by
  induction str using getUtf8CharCount.induct with
  | case1 => simp
  | case2 c rest ih =>
    have width := utf8Width_bounds c
    rw [List.length_drop] at ih
    rw [getUtf8CharCount,List.length_cons]
    omega

theorem utf8Width_ascii : ∀ n < 128, utf8Width (UInt8.ofNat n) = 1 := by decide
theorem utf8Width_two : ∀ n < 0x20, utf8Width (UInt8.ofNat (n + 0xC0)) = 2 := by decide
theorem utf8Width_three : ∀ n < 0x10, utf8Width (UInt8.ofNat (n + 0xE0)) = 3 := by decide
theorem utf8Width_four : ∀ n < 0x08, utf8Width (UInt8.ofNat (n + 0xF0)) = 4 := by decide

-- The masks read off the first byte how many bytes the encoding has.
theorem utf8EncodeChar_first (c : Char) :
    ∃ first rest, String.utf8EncodeChar c = first :: rest ∧ utf8Width first = rest.length + 1 := by
  unfold String.utf8EncodeChar
  dsimp only
  split
  · rename_i ascii
    exact ⟨_,_,rfl,utf8Width_ascii _ (Nat.lt_succ_of_le ascii)⟩
  · split
    · exact ⟨_,_,rfl,utf8Width_two _ (Nat.mod_lt _ (by decide))⟩
    · split
      · exact ⟨_,_,rfl,utf8Width_three _ (Nat.mod_lt _ (by decide))⟩
      · exact ⟨_,_,rfl,utf8Width_four _ (Nat.mod_lt _ (by decide))⟩

theorem getUtf8CharCount_encoded (text : List Char) :
    getUtf8CharCount (text.flatMap String.utf8EncodeChar) = text.length := by
  induction text with
  | nil => simp
  | cons c text ih =>
    obtain ⟨first,rest,encoded,width⟩ := utf8EncodeChar_first c
    rw [List.flatMap_cons,encoded,List.cons_append,getUtf8CharCount,width,Nat.add_sub_cancel,List.drop_left,ih,
      List.length_cons]

theorem toUTF8_bytes (text : String) : text.toUTF8.data.toList = text.toList.flatMap String.utf8EncodeChar := by
  have same : text.toUTF8 = text.toList.utf8Encode := by
    rw [← String.toByteArray_ofList,String.ofList_toList]
    rfl
  rw [same]
  exact List.toList_data_toByteArray

-- On valid text each turn takes one code point.
theorem getUtf8CharCount_text (text : String) : getUtf8CharCount text.toUTF8.data.toList = text.length := by
  rw [toUTF8_bytes,getUtf8CharCount_encoded,String.length_toList]

end UserAuthHelper
end UserAuth
