import RsipstackServer.PcmaCodec
import RsipstackServer.Foundation.ALaw

namespace RsipstackServer
open Foundation

/-- The decoder yields the expansion of every byte twice, on the scale of 16
bits. -/
def DecodesALaw (payload : List UInt8) : Prop :=
  (pcmaCodec.decode () payload).1.map Int16.toInt =
    payload.flatMap fun byte => List.replicate 2 (8 * ALaw.expand byte)

/-- Every byte that the encoder emits represents the sample it was taken from,
which is the second one of its pair or the last one. -/
def EncodesALaw (samples : List Int16) : Prop :=
  ∀ i byte, (pcmaCodec.encode () samples).1[i]? = some byte →
    ∃ sample, samples[min (2 * i + 1) (samples.length - 1)]? = some sample ∧ ALaw.Represents byte sample.toInt

theorem decodeAlawSample_all : ∀ n < 256,
    (decodeAlawSample (UInt8.ofNat n)).toInt = -(8 * ALaw.expand (UInt8.ofNat n)) := by decide +kernel

/-- The decoder has every level right and every sign wrong. -/
theorem decodeAlawSample_toInt (byte : UInt8) : (decodeAlawSample byte).toInt = -(8 * ALaw.expand byte) := by
  have all := decodeAlawSample_all byte.toNat byte.toNat_lt
  rwa [UInt8.ofNat_toNat] at all

/-- The shifts of the loop stop in the segment that the magnitude falls in. -/
theorem findExponent_spec {left seg : Nat} (bound : left ≤ 7) (lower : 16 ≤ seg) (upper : seg < 32 * 2 ^ left) :
    16 ≤ (findExponent left seg).2 ∧ (findExponent left seg).2 < 32 ∧
      ∃ shift, (findExponent left seg).1 = 7 - left + shift ∧ shift ≤ left ∧
        (findExponent left seg).2 = seg / 2 ^ shift := by
  induction left generalizing seg with
  | zero => exact ⟨lower, upper, 0, rfl, le_rfl, (Nat.div_one seg).symm⟩
  | succ left ih =>
    unfold findExponent
    rw [Nat.shiftRight_eq_div_pow, Nat.pow_one]
    split
    · rename_i large
      rw [Nat.pow_succ] at upper
      obtain ⟨least, below, shift, exponent, range, quotient⟩ := ih (by omega) (by omega : 16 ≤ seg / 2) (by omega)
      refine ⟨least, below, shift + 1, by omega, by omega, ?_⟩
      rw [quotient, Nat.div_div_eq_div_mul, Nat.pow_succ, Nat.mul_comm]
    · rename_i small
      exact ⟨lower, by omega, 0, rfl, Nat.zero_le _, (Nat.div_one seg).symm⟩

/-- The fields of a byte are those it was put together from, and it is positive
with the sign bit of a negative sample. -/
theorem alawByte_fields : ∀ exponent < 8, ∀ mantissa < 16,
    ALaw.code (alawByte 0 exponent (UInt8.ofNat mantissa)) = 16 * exponent + mantissa ∧
      ALaw.code (alawByte 0x80 exponent (UInt8.ofNat mantissa)) = 16 * exponent + mantissa ∧
      ALaw.positive (alawByte 0 exponent (UInt8.ofNat mantissa)) = false ∧
      ALaw.positive (alawByte 0x80 exponent (UInt8.ofNat mantissa)) = true := by decide +kernel

/-- The encoder finds the interval of the clipped magnitude. -/
theorem encodeAlawSample_interval (sample : Int16) : ∃ exponent < 8, ∃ mantissa < 16,
    ALaw.quantizer.Holds (16 * exponent + mantissa) (min (sample.toInt.natAbs / 8) 4095) ∧
      encodeAlawSample sample = alawByte (if sample < 0 then 0x80 else 0) exponent (UInt8.ofNat mantissa) := by
  have masked : ∀ mantissa < 16, UInt8.ofNat mantissa &&& 0x0f = UInt8.ofNat mantissa := by decide
  unfold encodeAlawSample
  rw [Nat.shiftRight_eq_div_pow sample.toInt.natAbs 3]
  generalize clipped : min (sample.toInt.natAbs / 2 ^ 3) 4095 = magnitude
  have bound : magnitude ≤ 4095 := clipped ▸ Nat.min_le_right _ _
  have half : magnitude >>> 1 = magnitude / 2 := by rw [Nat.shiftRight_eq_div_pow, Nat.pow_one]
  by_cases low : magnitude < 32
  · refine ⟨0, by decide, magnitude / 2, by omega, ?_, ?_⟩
    · rw [Nat.mul_zero, Nat.zero_add]
      exact (ALaw.holds_low (by omega)).mpr rfl
    · simp only [if_pos low, half]
  · obtain ⟨least, below, shift, exponent, range, quotient⟩ :=
      findExponent_spec (by decide : 6 ≤ 7) (by omega : 16 ≤ magnitude / 2) (by omega)
    have step : (findExponent 6 (magnitude / 2)).2 - 16 < 16 := by omega
    refine ⟨shift + 1, by omega, _, step, ?_, ?_⟩
    · rw [ALaw.holds_segment step, Nat.pow_succ, Nat.mul_comm, ← Nat.div_div_eq_div_mul, ← quotient]
      omega
    · simp only [if_neg low, half, masked _ step, exponent, Nat.add_comm (7 - 6) shift]

/-- The encoder has every level right and every sign wrong. -/
theorem expand_encodeAlawSample (sample : Int16) :
    (0 < ALaw.expand (encodeAlawSample sample) ↔ sample.toInt < 0) ∧
      ∃ code, ALaw.quantizer.Holds code (min (sample.toInt.natAbs / 8) 4095) ∧
        (ALaw.expand (encodeAlawSample sample)).natAbs = ALaw.quantizer.level code := by
  obtain ⟨exponent, bound, mantissa, bound', holds, encoded⟩ := encodeAlawSample_interval sample
  obtain ⟨code, code', negative, positive⟩ := alawByte_fields exponent bound mantissa bound'
  rw [ALaw.natAbs_expand, ALaw.expand_pos_iff, encoded]
  by_cases sign : sample < 0
  · rw [if_pos sign, positive, code']
    exact ⟨iff_of_true rfl (Int16.lt_iff_toInt_lt.mp sign), _, holds, rfl⟩
  · rw [if_neg sign, negative, code]
    exact ⟨iff_of_false Bool.false_ne_true fun below => sign (Int16.lt_iff_toInt_lt.mpr below), _, holds, rfl⟩

/-- With its first bit turned over, every byte of the encoder represents its
sample. -/
theorem represents_turned (sample : Int16) : ALaw.Represents (encodeAlawSample sample ^^^ 0x80) sample.toInt := by
  obtain ⟨sign, level⟩ := expand_encodeAlawSample sample
  have nonzero : (ALaw.expand (encodeAlawSample sample)).natAbs ≠ 0 := by
    rw [ALaw.natAbs_expand]
    exact (ALaw.level_pos _).ne'
  unfold ALaw.Represents
  rw [ALaw.expand_turned, Int.natAbs_neg]
  exact ⟨by omega, level⟩

/-- No other byte represents the sample, so the encoder misses by this bit
alone. -/
theorem represents_iff {sample : Int16} {byte : UInt8} :
    ALaw.Represents byte sample.toInt ↔ byte = encodeAlawSample sample ^^^ 0x80 := by
  constructor
  · exact fun represents => represents.unique (represents_turned sample)
  · rintro rfl
    exact represents_turned sample

theorem encodeAlawSample_decodeAlawSample (byte : UInt8) : encodeAlawSample (decodeAlawSample byte) = byte := by
  have own : ALaw.Represents (byte ^^^ 0x80) (decodeAlawSample byte).toInt := by
    rw [decodeAlawSample_toInt, ← Int.mul_neg, ← ALaw.expand_turned]
    exact ALaw.represents_expand _
  exact (UInt8.xor_left_inj 0x80).mp (represents_iff.mp own).symm

/-- Encoder and decoder are wrong alike, so every payload comes back from the
samples it is decoded to. -/
theorem pcmaCodec_encode_decode (payload : List UInt8) :
    (pcmaCodec.encode () (pcmaCodec.decode () payload).1).1 = payload := by
  have whole := downsampled_upsampled encodeAlawSample decodeAlawSample payload
  simp only [encodeAlawSample_decodeAlawSample, List.map_id'] at whole
  exact whole

theorem decodesALaw_iff (payload : List UInt8) : DecodesALaw payload ↔ payload = [] := by
  constructor
  · intro decodes
    cases payload with
    | nil => rfl
    | cons byte later =>
      have first := (List.cons.inj decodes).1
      have nonzero : (ALaw.expand byte).natAbs ≠ 0 := by
        rw [ALaw.natAbs_expand]
        exact (ALaw.level_pos _).ne'
      rw [decodeAlawSample_toInt] at first
      omega
  · rintro rfl
    rfl

theorem encodesALaw_iff (samples : List Int16) : EncodesALaw samples ↔ samples = [] := by
  constructor
  · intro encodes
    by_contra some
    have bound : 2 * 0 < samples.length := List.length_pos_iff.mpr some
    obtain ⟨sample, there⟩ : ∃ sample, samples[min (2 * 0 + 1) (samples.length - 1)]? = .some sample :=
      ⟨_, List.getElem?_eq_getElem (by omega)⟩
    obtain ⟨again, same, represents, _⟩ := encodes 0 _ (getElem?_downsampled.mpr ⟨sample, bound, there, rfl⟩)
    cases there.symm.trans same
    have sign := (expand_encodeAlawSample sample).1
    omega
  · rintro rfl i byte there
    cases there

/-- The codec agrees with the A-law on no byte and on no sample. -/
theorem wireCompatible_iff (payload : List UInt8) (samples : List Int16) :
    (DecodesALaw payload ↔ payload = []) ∧ (EncodesALaw samples ↔ samples = []) :=
  ⟨decodesALaw_iff payload, encodesALaw_iff samples⟩

/-- The byte 0xd5 stands for the least positive level. The codec decodes it to
the least negative one, and encodes the sample 0 as a negative level. -/
theorem wireCompatible_fails :
    (pcmaCodec.decode () [0xd5]).1 = [-8, -8] ∧ ALaw.expand 0xd5 = 1 ∧ ¬ DecodesALaw [0xd5] ∧
    (pcmaCodec.encode () [0, 0]).1 = [0x55] ∧ ALaw.expand 0x55 = -1 ∧ ¬ EncodesALaw [0, 0] := by
  refine ⟨by decide +kernel, by decide +kernel, ?_, by decide +kernel, by decide +kernel, ?_⟩
  · rw [decodesALaw_iff]
    exact List.cons_ne_nil _ _
  · rw [encodesALaw_iff]
    exact List.cons_ne_nil _ _

end RsipstackServer
