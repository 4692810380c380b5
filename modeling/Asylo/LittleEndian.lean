import Mathlib

/-! Fixed-width little-endian encoding of natural numbers as byte strings, the
layout of every integer field that crosses a trust boundary or reaches a disk.
`decode` reads back the value modulo the width, and a prefix of a longer byte
string decodes independently of what follows. -/
namespace LittleEndian

/-- The `width` low-order bytes of `value`, least significant first. -/
def encode : Nat → Nat → List UInt8
  | 0, _ => []
  | width + 1, value => (value % 256).toUInt8 :: encode width (value / 256)

/-- The value of a little-endian byte string. -/
def decode : List UInt8 → Nat
  | [] => 0
  | byte :: rest => byte.toNat + 256 * decode rest

@[simp] theorem length_encode (width value : Nat) : (encode width value).length = width := by
  induction width generalizing value with
  | zero => rfl
  | succ width ih => simp [encode, ih]

theorem decode_encode (width value : Nat) : decode (encode width value) = value % 256 ^ width := by
  induction width generalizing value with
  | zero => simp [encode, decode, Nat.mod_one]
  | succ width ih =>
    have low : ((value % 256).toUInt8).toNat = value % 256 := by
      simp [Nat.toUInt8]
    simp only [encode, decode, low, ih]
    rw [Nat.pow_succ', Nat.mod_mul]

/-- A value below `256 ^ width` survives the round trip. -/
theorem decode_encode_of_lt {width value : Nat} (small : value < 256 ^ width) :
    decode (encode width value) = value := by
  rw [decode_encode, Nat.mod_eq_of_lt small]

theorem decode_lt (bytes : List UInt8) : decode bytes < 256 ^ bytes.length := by
  induction bytes with
  | nil => simp [decode]
  | cons byte rest ih =>
    have byteBound := byte.toNat_lt
    simp only [decode, List.length_cons, Nat.pow_succ]
    omega

/-- A byte string is the encoding of its value at its own width. -/
theorem encode_decode (bytes : List UInt8) : encode bytes.length (decode bytes) = bytes := by
  induction bytes with
  | nil => rfl
  | cons byte rest ih =>
    have byteBound := byte.toNat_lt
    have low : (byte.toNat + 256 * decode rest) % 256 = byte.toNat := by omega
    have high : (byte.toNat + 256 * decode rest) / 256 = decode rest := by omega
    simp only [List.length_cons, encode, decode, low, high, ih, Nat.toUInt8, UInt8.ofNat_toNat]

end LittleEndian
