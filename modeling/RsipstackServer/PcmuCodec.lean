import Mathlib.Algebra.Group.Nat.Defs
import RsipstackServer.Resample

namespace RsipstackServer

/-- The entry of a byte in the decode table. -/
def decodeUlawSample (byte : UInt8) : Int16 :=
  let byte := ~~~byte
  let sign := byte &&& 0x80 != 0
  let exponent := ((byte >>> 4) &&& 0x07).toNat
  let mantissa := (byte &&& 0x0f).toNat
  let magnitude := Int16.ofInt (((mantissa <<< 1 ||| 0x21) <<< (exponent + 2) : Nat) - 0x84)
  if sign then -magnitude else magnitude

/-- `leading_zeros` of a word of 32 bits. -/
def leadingZeros (word : Nat) : Nat := if word = 0 then 32 else 31 - word.log2

def encodeUlawSample (sample : Int16) : UInt8 :=
  let sign : UInt8 := if sample < 0 then 0x80 else 0
  let biased := min sample.toInt.natAbs 32635 + 0x84
  let zeros := max 0 (min ((leadingZeros biased : Int) - 17) 7)
  let exponent := 7 - zeros.toNat
  let mantissa := biased >>> (exponent + 3) &&& 0x0f
  ~~~(sign ||| UInt8.ofNat exponent <<< 4 ||| UInt8.ofNat mantissa)

def pcmuCodec : Codec Unit where
  decode _ payload := (upsampled decodeUlawSample payload, ())
  encode _ samples := (downsampled encodeUlawSample samples, ())
  rtpTimestampIncrement _ := 160

/-- The leading zeros tell the segment of the biased magnitude, and the clamp
does not matter. -/
theorem ulawExponent {biased : Nat} (lower : 132 ≤ biased) (upper : biased < 2 ^ 15) :
    ∃ exponent < 8, 7 - (max 0 (min ((leadingZeros biased : Int) - 17) 7)).toNat = exponent ∧
      16 ≤ biased / 2 ^ (exponent + 3) ∧ biased / 2 ^ (exponent + 3) < 32 := by
  have least : 7 ≤ biased.log2 := (Nat.le_log2 (by omega)).mpr (by omega)
  have most : biased.log2 < 15 := (Nat.log2_lt (by omega)).mpr upper
  obtain ⟨exponent, log⟩ : ∃ exponent, biased.log2 = exponent + 7 := ⟨biased.log2 - 7, by omega⟩
  have first : 2 ^ (exponent + 7) ≤ biased := log ▸ Nat.log2_self_le (by omega)
  have last : biased < 2 ^ (exponent + 7 + 1) := log ▸ Nat.lt_log2_self
  refine ⟨exponent, by omega, ?_, ?_, ?_⟩
  · rw [leadingZeros, if_neg (by omega), log]
    omega
  · rw [Nat.le_div_iff_mul_le (Nat.two_pow_pos _)]
    rw [Nat.pow_add] at first ⊢
    omega
  · rw [Nat.div_lt_iff_lt_mul (Nat.two_pow_pos _)]
    rw [Nat.add_assoc, Nat.pow_add] at last
    rw [Nat.pow_add]
    omega

end RsipstackServer
