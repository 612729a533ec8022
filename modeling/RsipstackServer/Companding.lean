import RsipstackServer.PcmArithmetic
import RsipstackServer.WireRoundTrip

namespace RsipstackServer
open Foundation

/-- The two laws by which a sample is companded to a byte. -/
inductive CompandingLaw
  | pcmu
  | pcma
  deriving DecidableEq, Repr

namespace CompandingLaw

def kind : CompandingLaw → PcmKind
  | pcmu => .pcmu
  | pcma => .pcma

def encodeSample : CompandingLaw → Int16 → UInt8
  | pcmu => encodeUlawSample
  | pcma => encodeAlawSample

def decodeSample : CompandingLaw → UInt8 → Int16
  | pcmu => decodeUlawSample
  | pcma => decodeAlawSample

def encodeSampleChecked : CompandingLaw → Int16 → Option UInt8
  | pcmu => encodeUlawChecked
  | pcma => encodeAlawChecked

def decodeSampleChecked : CompandingLaw → UInt8 → Option Int16
  | pcmu => decodeUlawChecked
  | pcma => decodeAlawChecked

/-- What becomes of a sample on the wire. -/
def quantize (law : CompandingLaw) (sample : Int16) : Int16 := law.decodeSample (law.encodeSample sample)

/-- The bound on 32 times the quantisation error. -/
def tolerance : CompandingLaw → Int → Nat
  | pcmu, sample => sample.natAbs + 132
  | pcma, sample => max 256 sample.natAbs

def overload : CompandingLaw → Nat
  | pcmu => 32635
  | pcma => 32767

def bias : CompandingLaw → Nat
  | pcmu => 132
  | pcma => 0

def scale : CompandingLaw → Nat
  | pcmu => 4
  | pcma => 8

/-- The magnitude that falls in an interval of the A-law. The bias keeps that
of the μ-law out of the lowest segment. -/
def units (law : CompandingLaw) (sample : Int) : Nat := (min sample.natAbs law.overload + law.bias) / law.scale

theorem units_mono (law : CompandingLaw) {sample other : Int} (le : sample.natAbs ≤ other.natAbs) :
    law.units sample ≤ law.units other :=
  Nat.div_le_div_right (Nat.add_le_add_right (by omega) _)

end CompandingLaw

/-- The byte of a sign, an exponent and a mantissa. -/
def ulawByte (sign : UInt8) (exponent mantissa : Nat) : UInt8 :=
  ~~~(sign ||| UInt8.ofNat exponent <<< 4 ||| UInt8.ofNat mantissa)

theorem decodeUlawSample_ulawByte : ∀ exponent < 8, ∀ mantissa < 16,
    (decodeUlawSample (ulawByte 0 exponent mantissa)).toInt =
        (4 * ALaw.quantizer.level (16 * (exponent + 1) + mantissa) - 132 : Nat) ∧
      (decodeUlawSample (ulawByte 0x80 exponent mantissa)).toInt =
        -(4 * ALaw.quantizer.level (16 * (exponent + 1) + mantissa) - 132 : Nat) := by decide +kernel

/-- The encoder finds the interval of the biased magnitude. -/
theorem encodeUlawSample_interval (sample : Int16) : ∃ exponent < 8, ∃ mantissa < 16,
    ALaw.quantizer.Holds (16 * (exponent + 1) + mantissa) (CompandingLaw.pcmu.units sample.toInt) ∧
      encodeUlawSample sample = ulawByte (if sample < 0 then 0x80 else 0) exponent mantissa := by
  unfold encodeUlawSample
  change ∃ exponent < 8, ∃ mantissa < 16, ALaw.quantizer.Holds (16 * (exponent + 1) + mantissa)
    ((min sample.toInt.natAbs 32635 + 0x84) / 4) ∧ _
  generalize clipped : min sample.toInt.natAbs 32635 + 0x84 = biased
  obtain ⟨exponent, bound, zeros, least, below⟩ := ulawExponent (by omega : 132 ≤ biased) (by omega)
  have mantissa : biased >>> (exponent + 3) &&& 0x0f = biased / 2 ^ (exponent + 3) - 16 := by
    rw [Nat.shiftRight_eq_div_pow, Nat.and_two_pow_sub_one_eq_mod _ 4]
    omega
  refine ⟨exponent, bound, biased / 2 ^ (exponent + 3) - 16, by omega, ?_, ?_⟩
  · have size : 2 ^ (exponent + 3) = 4 * 2 ^ (exponent + 1) := by
      rw [Nat.pow_add, Nat.pow_add]
      omega
    rw [ALaw.holds_segment (by omega), Nat.div_div_eq_div_mul, ← size]
    omega
  · simp only [zeros, mantissa, ulawByte]

theorem negative_iff {sample : Int16} : sample < 0 ↔ sample.toInt < 0 := Int16.lt_iff_toInt_lt

namespace CompandingLaw

/-- A sample becomes the level of its interval with its own sign. -/
theorem quantize_level (law : CompandingLaw) (sample : Int16) :
    ∃ code, ALaw.quantizer.Holds code (law.units sample.toInt) ∧
    (law.quantize sample).toInt = signed sample.toInt (law.scale * ALaw.quantizer.level code - law.bias) := by
  cases law with
  | pcmu =>
    obtain ⟨exponent, bound, mantissa, bound', holds, encoded⟩ := encodeUlawSample_interval sample
    obtain ⟨positive, negative⟩ := decodeUlawSample_ulawByte exponent bound mantissa bound'
    refine ⟨_, holds, ?_⟩
    change (decodeUlawSample (encodeUlawSample sample)).toInt = _
    rw [encoded, signed]
    by_cases sign : sample < 0
    · rw [if_pos sign, if_pos (negative_iff.mp sign), negative]
      rfl
    · rw [if_neg sign, if_neg (negative_iff.not.mp sign), positive]
      rfl
  | pcma =>
    obtain ⟨sign, code, holds, level⟩ := expand_encodeAlawSample sample
    have clipped : min (sample.toInt.natAbs / 8) 4095 = pcma.units sample.toInt := by
      change _ = (min sample.toInt.natAbs 32767 + 0) / 8
      omega
    refine ⟨code, clipped ▸ holds, ?_⟩
    change (decodeAlawSample (encodeAlawSample sample)).toInt = signed _ (8 * _ - 0)
    rw [decodeAlawSample_toInt, ← level, signed]
    split <;> omega

/-- Both laws keep the order of the samples. -/
theorem quantize_mono (law : CompandingLaw) {sample larger : Int16} (le : sample ≤ larger) :
    law.quantize sample ≤ law.quantize larger := by
  obtain ⟨code, holds, level⟩ := law.quantize_level sample
  obtain ⟨code', holds', level'⟩ := law.quantize_level larger
  have scaled {a b : Nat} (le : a ≤ b) : law.scale * a - law.bias ≤ law.scale * b - law.bias :=
    Nat.sub_le_sub_right (Nat.mul_le_mul_left _ le) _
  rw [Int16.le_iff_toInt_le] at le ⊢
  rw [level, level']
  refine signed_le le (fun smaller => ?_) fun smaller => ?_
  · exact scaled (holds.level_le holds' (law.units_mono smaller))
  · exact scaled (holds'.level_le holds (law.units_mono smaller))

/-- The last interval of the μ-law takes in the magnitudes that are clipped. -/
theorem holds_overload {sample : Int} (clipped : 32635 < sample.natAbs) :
    ALaw.quantizer.Holds 143 (pcmu.units sample) := by
  have units : pcmu.units sample = 8191 := by
    change (min sample.natAbs 32635 + 132) / 4 = _
    omega
  rw [units]
  exact ⟨by decide, by decide⟩

theorem error_le_tolerance (law : CompandingLaw) (sample : Int16) :
    32 * ((law.quantize sample).toInt - sample.toInt).natAbs ≤ law.tolerance sample.toInt := by
  obtain ⟨code, holds, level⟩ := law.quantize_level sample
  obtain ⟨width, even, narrow⟩ := ALaw.decision_width code
  have range : sample.toInt.natAbs ≤ 32768 := by
    have least := sample.le_toInt
    have most := sample.toInt_lt
    omega
  rw [level, natAbs_signed_sub]
  cases law with
  | pcma =>
    have units : pcma.units sample.toInt = min sample.toInt.natAbs 32767 / 8 := rfl
    have error := holds.error even (by omega : 8 * _ ≤ sample.toInt.natAbs) (by omega)
    have decision : ALaw.decision code ≤ pcma.units sample.toInt := holds.1
    change 32 * ((8 * ALaw.quantizer.level code - 0 : Nat) - (sample.toInt.natAbs : Int)).natAbs ≤
      max 256 sample.toInt.natAbs
    omega
  | pcmu =>
    change 32 * ((4 * ALaw.quantizer.level code - 132 : Nat) - (sample.toInt.natAbs : Int)).natAbs ≤
      sample.toInt.natAbs + 132
    by_cases clipped : 32635 < sample.toInt.natAbs
    · cases holds.unique (holds_overload clipped)
      have last : ALaw.quantizer.level 143 = 8064 := by decide
      rw [last]
      omega
    · have units : pcmu.units sample.toInt = (sample.toInt.natAbs + 132) / 4 := by
        change (min sample.toInt.natAbs 32635 + 132) / 4 = _
        omega
      have error := holds.error even (by omega : 4 * _ ≤ sample.toInt.natAbs + 132) (by omega)
      have decision : ALaw.decision code ≤ pcmu.units sample.toInt := holds.1
      -- The bias leaves no magnitude to the lowest segment.
      have second : ALaw.quantizer.Holds 16 33 := ⟨by decide, by decide⟩
      have above : 16 ≤ code := second.le_of_le holds (by omega)
      omega

theorem encode_eq (law : CompandingLaw) (samples : List Int16) :
    law.kind.encode samples = downsampled law.encodeSample samples := by cases law <;> rfl

theorem decode_eq (law : CompandingLaw) (payload : List UInt8) :
    law.kind.decode payload = upsampled law.decodeSample payload := by cases law <;> rfl

theorem encodeSampleChecked_eq (law : CompandingLaw) (sample : Int16) :
    law.encodeSampleChecked sample = some (law.encodeSample sample) := by
  cases law with
  | pcmu => exact encodeUlawChecked_eq sample
  | pcma => exact encodeAlawChecked_eq sample

theorem decodeSampleChecked_eq (law : CompandingLaw) (byte : UInt8) :
    law.decodeSampleChecked byte = some (law.decodeSample byte) := by
  cases law with
  | pcmu => exact decodeUlawChecked_eq byte
  | pcma => exact decodeAlawChecked_eq byte

theorem length_decode_encode (law : CompandingLaw) (samples : List Int16) :
    (law.kind.decode (law.kind.encode samples)).length = 2 * ((samples.length + 1) / 2) := by
  rw [law.decode_eq, length_upsampled, law.encode_eq, length_downsampled]

/-- Both samples of a pair come back as what becomes of the second one, or of
the last one of an odd frame. -/
theorem getElem?_decode_encode (law : CompandingLaw) {samples : List Int16} {i : Nat}
    (bound : i < (samples.length + 1) / 2) :
    ∃ sample, samples[min (2 * i + 1) (samples.length - 1)]? = some sample ∧
      (law.kind.decode (law.kind.encode samples))[2 * i]? = some (law.quantize sample) ∧
      (law.kind.decode (law.kind.encode samples))[2 * i + 1]? = some (law.quantize sample) := by
  have inside : i < (downsampled law.encodeSample samples).length := by rwa [length_downsampled]
  obtain ⟨sample, _, there, encoded⟩ := getElem?_downsampled.mp (List.getElem?_eq_getElem inside)
  obtain ⟨first, second⟩ := getElem?_upsampled law.decodeSample (downsampled law.encodeSample samples) i
  rw [List.getElem?_eq_getElem inside, ← encoded] at first second
  refine ⟨sample, there, ?_⟩
  rw [law.decode_eq, law.encode_eq]
  exact ⟨first, second⟩

end CompandingLaw

/-- Companding is monotone and close on every sample, it is applied to one
sample of each pair of a frame, and no operation on the way overflows,
truncates or reads out of bounds. -/
theorem companding (law : CompandingLaw) :
    (∀ samples, (law.kind.decode (law.kind.encode samples)).length = 2 * ((samples.length + 1) / 2) ∧
      ∀ i < (samples.length + 1) / 2, ∃ sample, samples[min (2 * i + 1) (samples.length - 1)]? = some sample ∧
        (law.kind.decode (law.kind.encode samples))[2 * i]? = some (law.quantize sample) ∧
        (law.kind.decode (law.kind.encode samples))[2 * i + 1]? = some (law.quantize sample)) ∧
      (∀ sample larger : Int16, sample ≤ larger → law.quantize sample ≤ law.quantize larger) ∧
      (∀ sample : Int16, 32 * ((law.quantize sample).toInt - sample.toInt).natAbs ≤ law.tolerance sample.toInt) ∧
      (∀ payload, decodeChecked law.decodeSampleChecked payload = some (law.kind.decode payload)) ∧
      ∀ samples, encodeChecked law.encodeSampleChecked samples = some (law.kind.encode samples) := by
  refine ⟨fun samples => ⟨law.length_decode_encode samples, fun i bound => law.getElem?_decode_encode bound⟩,
    fun sample larger le => law.quantize_mono le, law.error_le_tolerance, fun payload => ?_, fun samples => ?_⟩
  · rw [decodeChecked_eq law.decodeSampleChecked_eq, law.decode_eq]
  · rw [encodeChecked_eq law.encodeSampleChecked_eq, law.encode_eq]

end RsipstackServer
