import Mathlib.Data.List.Basic
import Mathlib.Tactic.Ring

-- Fixed-width little-endian numbers.
namespace LittleEndian

def encode : Nat → Nat → List UInt8
  | 0,_ => []
  | width + 1,n => UInt8.ofNat n :: encode width (n / 256)

def decode : List UInt8 → Nat
  | [] => 0
  | byte :: rest => byte.toNat + 256 * decode rest

@[simp] theorem length_encode (width n : Nat) : (encode width n).length = width := by
  induction width generalizing n with
  | zero => rfl
  | succ width ih => rw [encode,List.length_cons,ih]

theorem decode_encode (width n : Nat) : decode (encode width n) = n % 256 ^ width := by
  induction width generalizing n with
  | zero => simp [encode,decode,Nat.mod_one]
  | succ width ih =>
    have byte : (UInt8.ofNat n).toNat = n % 256 := by simp
    rw [encode,decode,ih,byte,Nat.pow_succ',Nat.mod_mul]

theorem decode_encode_of_lt (small : n < 256 ^ width) : decode (encode width n) = n := by
  rw [decode_encode,Nat.mod_eq_of_lt small]

theorem encode_decode (bytes : List UInt8) : encode bytes.length (decode bytes) = bytes := by
  induction bytes with
  | nil => rfl
  | cons byte rest ih =>
    have low : UInt8.ofNat (byte.toNat + 256 * decode rest) = byte := by
      apply UInt8.toNat_inj.mp
      have small := byte.toNat_lt
      rw [UInt8.toNat_ofNat']
      omega
    have high : (byte.toNat + 256 * decode rest) / 256 = decode rest := by
      have small := byte.toNat_lt
      omega
    rw [List.length_cons,decode,encode,low,high,ih]

theorem decode_lt (bytes : List UInt8) : decode bytes < 256 ^ bytes.length := by
  induction bytes with
  | nil => decide
  | cons byte rest ih =>
    have small := byte.toNat_lt
    rw [decode,List.length_cons,Nat.pow_succ']
    omega

-- An array of numbers of one width is their bytes, one after another.
def encodeMany (width : Nat) (ns : List Nat) : List UInt8 := ns.flatMap (encode width)

def decodeMany (width : Nat) : Nat → List UInt8 → List Nat
  | 0,_ => []
  | count + 1,bytes => decode (bytes.take width) :: decodeMany width count (bytes.drop width)

@[simp] theorem length_encodeMany (width : Nat) (ns : List Nat) : (encodeMany width ns).length = ns.length * width := by
  induction ns with
  | nil => simp [encodeMany]
  | cons n rest ih =>
    rw [encodeMany] at ih ⊢
    rw [List.flatMap_cons,List.length_append,length_encode,ih,List.length_cons,Nat.succ_mul,Nat.add_comm]

theorem decodeMany_encodeMany (width : Nat) (ns : List Nat) (small : ∀ n ∈ ns, n < 256 ^ width) :
    decodeMany width ns.length (encodeMany width ns) = ns := by
  induction ns with
  | nil => rfl
  | cons n rest ih =>
    have front : (encodeMany width (n :: rest)).take width = encode width n := by
      rw [encodeMany,List.flatMap_cons]
      exact List.take_left' (length_encode width n)
    have back : (encodeMany width (n :: rest)).drop width = encodeMany width rest := by
      rw [encodeMany,List.flatMap_cons]
      exact List.drop_left' (length_encode width n)
    have head := decode_encode_of_lt (small n List.mem_cons_self)
    have tail := ih fun other member => small other (List.mem_cons_of_mem n member)
    rw [List.length_cons,decodeMany,front,back,head,tail]

end LittleEndian
