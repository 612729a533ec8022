import RsipstackServer.Foundation.MachineInt
import RsipstackServer.PcmaCompatible
import RsipstackServer.PcmuCodec

namespace RsipstackServer
open Foundation

/-- The entry of a byte again, with the types of the source. A `none` is an
operation that overflows or a conversion that truncates. -/
def decodeUlawChecked (byte : UInt8) : Option Int16 := do
  let byte := ~~~byte
  let sign := byte &&& 0x80 != 0
  let exponent : Int32 ← MachineInt.cast ((← MachineInt.shr byte (4 : Int32)) &&& 0x07)
  let mantissa : Int32 ← MachineInt.cast (byte &&& 0x0f)
  let magnitude ← MachineInt.shl ((← MachineInt.shl mantissa (1 : Int32)) ||| 0x21) (← MachineInt.add exponent 2)
  let magnitude ← MachineInt.sub magnitude 0x84
  if sign then MachineInt.neg (← MachineInt.cast magnitude) else MachineInt.cast magnitude

def decodeAlawChecked (byte : UInt8) : Option Int16 := do
  let byte := byte ^^^ 0x55
  let sign := byte &&& 0x80 != 0
  let exponent : Int32 ← MachineInt.cast ((← MachineInt.shr byte (4 : Int32)) &&& 0x07)
  let mantissa : Int32 ← MachineInt.cast (byte &&& 0x0f)
  let magnitude ←
    if exponent = 0 then do some ((← MachineInt.shl mantissa (1 : Int32)) ||| 1)
    else MachineInt.shl ((← MachineInt.shl mantissa (1 : Int32)) ||| 0x21) (← MachineInt.sub exponent 1)
  let magnitude : Int16 ← MachineInt.cast (← MachineInt.shl magnitude (3 : Int32))
  if sign then MachineInt.neg magnitude else some magnitude

/-- The first lines of both encoders. -/
def signAndMagnitude (sample : Int16) : Option (UInt8 × Int32) := do
  let sample : Int32 ← MachineInt.cast sample
  if sample < 0 then some (0x80, ← MachineInt.neg sample) else some (0, sample)

/-- `leading_zeros` of a `u32`. -/
def wordLeadingZeros (word : UInt32) : UInt32 := UInt32.ofNat (leadingZeros word.toNat)

def encodeUlawChecked (sample : Int16) : Option UInt8 := do
  let (sign, sample) ← signAndMagnitude sample
  let sample := if 32635 < sample then 32635 else sample
  let sample ← MachineInt.add sample 0x84
  let word : UInt32 ← MachineInt.cast sample
  let exponent : Int32 ← MachineInt.cast (wordLeadingZeros word)
  let exponent ← MachineInt.sub exponent 17
  let exponent := max 0 (min exponent 7)
  let exponent ← MachineInt.sub 7 exponent
  let mantissa := (← MachineInt.shr sample (← MachineInt.add exponent 3)) &&& 0x0f
  let exponent : UInt8 ← MachineInt.cast exponent
  let exponent ← MachineInt.shl exponent (4 : Int32)
  let mantissa : UInt8 ← MachineInt.cast mantissa
  some (~~~(sign ||| exponent ||| mantissa))

/-- The loop that looks for the exponent. It ends after at most six rounds, for
`exp < 7`. -/
def findExponentChecked : Nat → Int32 → Int32 → Option (Int32 × Int32)
  | 0, exponent, seg => some (exponent, seg)
  | left + 1, exponent, seg =>
    if 32 ≤ seg ∧ exponent < 7 then do
      findExponentChecked left (← MachineInt.add exponent 1) (← MachineInt.shr seg (1 : Int32))
    else some (exponent, seg)

def encodeAlawChecked (sample : Int16) : Option UInt8 := do
  let (sign, sample) ← signAndMagnitude sample
  let sample ← MachineInt.shr sample (3 : Int32)
  let sample := if 4095 < sample then 4095 else sample
  let (exponent, mantissa) : Int32 × UInt8 ←
    if sample < 32 then do some (0, ← MachineInt.cast (← MachineInt.shr sample (1 : Int32)))
    else do
      let (exponent, seg) ← findExponentChecked 6 1 (← MachineInt.shr sample (1 : Int32))
      let mantissa : UInt8 ← MachineInt.cast (← MachineInt.sub seg 16)
      some (exponent, mantissa &&& 0x0f)
  let exponent : UInt8 ← MachineInt.cast exponent
  let exponent ← MachineInt.shl exponent (4 : Int32)
  some ((sign ||| exponent ||| mantissa) ^^^ 0x55)

theorem decodeChecked_all : ∀ n < 256,
    decodeUlawChecked (UInt8.ofNat n) = some (decodeUlawSample (UInt8.ofNat n)) ∧
      decodeAlawChecked (UInt8.ofNat n) = some (decodeAlawSample (UInt8.ofNat n)) := by decide +kernel

theorem decodeUlawChecked_eq (byte : UInt8) : decodeUlawChecked byte = some (decodeUlawSample byte) := by
  have all := (decodeChecked_all byte.toNat byte.toNat_lt).1
  rwa [UInt8.ofNat_toNat] at all

theorem decodeAlawChecked_eq (byte : UInt8) : decodeAlawChecked byte = some (decodeAlawSample byte) := by
  have all := (decodeChecked_all byte.toNat byte.toNat_lt).2
  rwa [UInt8.ofNat_toNat] at all

section
open MachineInt

theorem signAndMagnitude_eq (sample : Int16) : ∃ magnitude : Int32, value magnitude = sample.toInt.natAbs ∧
    signAndMagnitude sample = some (if sample < 0 then 0x80 else 0, magnitude) := by
  have least := sample.le_toInt
  have most := sample.toInt_lt
  have fits : Fits Int32 sample.toInt.natAbs := fits_int32.mpr (by omega)
  refine ⟨ofInt sample.toInt.natAbs, value_ofInt _ fits.1 fits.2, ?_⟩
  have wider : value sample = sample.toInt := rfl
  refine exact_bind (fits_int32.mpr (by omega)) fun wide same => ?_
  have zero : value (0 : Int32) = 0 := rfl
  have sign : wide < 0 ↔ sample < 0 := by
    rw [int32_lt_iff, same, Int16.lt_iff_toInt_lt]
    rfl
  by_cases negative : sample < 0
  · rw [if_pos negative, if_pos (sign.mpr negative)]
    have below : sample.toInt < 0 := Int16.lt_iff_toInt_lt.mp negative
    refine exact_bind (fits_int32.mpr (by omega)) fun magnitude size => ?_
    rw [← int32_eq_ofInt (by omega : value magnitude = sample.toInt.natAbs)]
  · rw [if_neg negative, if_neg (sign.not.mpr negative)]
    have above : ¬ sample.toInt < 0 := fun below => negative (Int16.lt_iff_toInt_lt.mpr below)
    rw [← int32_eq_ofInt (by omega : value wide = sample.toInt.natAbs)]

theorem value_wordLeadingZeros {word : UInt32} {n : Nat} (same : value word = n) :
    value (wordLeadingZeros word) = leadingZeros n ∧ leadingZeros n ≤ 32 := by
  have few : leadingZeros n ≤ 32 := by
    unfold leadingZeros
    split <;> omega
  obtain rfl : word.toNat = n := Int.ofNat.inj same
  change ((UInt32.ofNat (leadingZeros word.toNat)).toNat : Int) = _ ∧ _
  rw [UInt32.toNat_ofNat', Nat.mod_eq_of_lt (by omega)]
  exact ⟨rfl, few⟩

/-- The exponent moves to its place without loss. -/
theorem exponent_bind {x : Int32} {exponent : Nat} {next : UInt8 → Option UInt8} {result : Option UInt8}
    (same : value x = exponent) (bound : exponent < 8) (later : next (UInt8.ofNat exponent <<< 4) = result) :
    ((MachineInt.cast x : Option UInt8).bind fun narrow => (shl narrow (4 : Int32)).bind next) = result := by
  have moved : ∀ exponent < 8, UInt8.ofNat (exponent * 2 ^ 4) = UInt8.ofNat exponent <<< 4 := by decide
  have four : value (4 : Int32) = (4 : Nat) := rfl
  refine exact_bind (fits_uint8.mpr (by omega)) fun narrow kept => ?_
  refine shl_bind (kept.trans same) four (by decide : 4 < 8) (fits_uint8.mpr (by omega)) fun high size => ?_
  rwa [uint8_eq_ofNat size, moved exponent bound]

theorem encodeUlawChecked_eq (sample : Int16) : encodeUlawChecked sample = some (encodeUlawSample sample) := by
  obtain ⟨magnitude, size, split⟩ := signAndMagnitude_eq sample
  simp only [encodeUlawChecked, split, Option.bind_eq_bind, Option.bind_some]
  unfold encodeUlawSample
  generalize clipped : min sample.toInt.natAbs 32635 + 0x84 = biased
  obtain ⟨exponent, bound, zeros, least, below⟩ := ulawExponent (by omega : 132 ≤ biased) (by omega)
  have constants : value (0x84 : Int32) = 132 ∧ value (17 : Int32) = 17 ∧ value (7 : Int32) = 7 ∧
    value (0 : Int32) = 0 ∧
      value (3 : Int32) = 3 := ⟨rfl, rfl, rfl, rfl, rfl⟩
  have clip : value (if 32635 < magnitude then 32635 else magnitude) = min sample.toInt.natAbs 32635 := by
    have limit : value (32635 : Int32) = 32635 := rfl
    split <;> rename_i order <;> rw [int32_lt_iff] at order <;> omega
  refine exact_bind (fits_int32.mpr (by omega)) fun magnitude sum => ?_
  have size : value magnitude = biased := by omega
  -- The exponent, from the leading zeros to its clamp.
  refine exact_bind (fits_uint32.mpr (by omega)) fun word same => ?_
  obtain ⟨leading, few⟩ := value_wordLeadingZeros (same.trans size)
  refine exact_bind (fits_int32.mpr (by omega)) fun count same => ?_
  refine exact_bind (fits_int32.mpr (by omega)) fun shorter difference => ?_
  have clamp := value_max 0 (min shorter 7)
  rw [value_min] at clamp
  refine exact_bind (fits_int32.mpr (by omega)) fun place difference' => ?_
  have segment : value place = exponent := by omega
  -- The mantissa.
  refine exact_bind (fits_int32.mpr (by omega)) fun amount sum => ?_
  have smaller : biased / 2 ^ (exponent + 3) ≤ biased := Nat.div_le_self _ _
  refine shr_bind size (by omega : value amount = (exponent + 3 : Nat)) (show exponent + 3 < 32 by omega)
    (fits_int32.mpr (by omega)) fun quotient size => ?_
  have nibble : value (quotient &&& 0x0f) = (biased / 2 ^ (exponent + 3) &&& 0x0f : Nat) :=
    value_and size (rfl : value (0x0f : Int32) = (0x0f : Nat))
  have least : biased / 2 ^ (exponent + 3) &&& 0x0f ≤ 0x0f := Nat.and_le_right
  refine exponent_bind segment bound ?_
  refine exact_bind (fits_uint8.mpr (by omega)) fun low same => ?_
  rw [uint8_eq_ofNat (same.trans nibble)]
  simp only [zeros, Nat.shiftRight_eq_div_pow]

theorem findExponent_bind {left n : Nat} {exponent seg : Int32} {next : Int32 × Int32 → Option UInt8}
    {result : Option UInt8} (bound : left ≤ 6) (place : value exponent = (7 - left : Nat)) (size : value seg = n)
    (below : n ≤ 4095) (later : ∀ exponent seg, value exponent = (findExponent left n).1 →
      value seg = (findExponent left n).2 → next (exponent, seg) = result) :
    (findExponentChecked left exponent seg).bind next = result := by
  induction left generalizing n exponent seg with
  | zero => exact later exponent seg place size
  | succ left ih =>
    have constants : value (32 : Int32) = 32 ∧ value (7 : Int32) = 7 ∧ value (1 : Int32) = (1 : Nat) :=
      ⟨rfl, rfl, rfl⟩
    have large : 32 ≤ seg ∧ exponent < 7 ↔ 32 ≤ n := by
      rw [int32_le_iff, int32_lt_iff]
      omega
    unfold findExponent at later
    unfold findExponentChecked
    by_cases more : 32 ≤ n
    · rw [if_pos more] at later
      simp only [if_pos (large.mpr more), Option.bind_eq_bind, Option.bind_assoc]
      refine exact_bind (fits_int32.mpr (by omega)) fun exponent sum => ?_
      refine shr_bind size constants.2.2 (by decide : 1 < 32) (fits_int32.mpr (by omega)) fun seg half => ?_
      refine ih (by omega) (by omega) half (by omega) ?_
      rwa [Nat.shiftRight_eq_div_pow] at later
    · rw [if_neg more] at later
      rw [if_neg (large.not.mpr more)]
      exact later exponent seg (by omega) size

theorem encodeAlawChecked_eq (sample : Int16) : encodeAlawChecked sample = some (encodeAlawSample sample) := by
  obtain ⟨magnitude, size, split⟩ := signAndMagnitude_eq sample
  have least := sample.le_toInt
  have most := sample.toInt_lt
  simp only [encodeAlawChecked, split, Option.bind_eq_bind, Option.bind_some]
  unfold encodeAlawSample
  rw [Nat.shiftRight_eq_div_pow]
  have constants : value (3 : Int32) = (3 : Nat) ∧ value (1 : Int32) = (1 : Nat) ∧ value (32 : Int32) = 32 ∧
      value (4095 : Int32) = 4095 ∧ value (16 : Int32) = 16 := ⟨rfl, rfl, rfl, rfl, rfl⟩
  refine shr_bind size constants.1 (by decide : 3 < 32) (fits_int32.mpr (by omega)) fun shorter size => ?_
  generalize clipped : min (sample.toInt.natAbs / 2 ^ 3) 4095 = n
  have clip : value (if 4095 < shorter then 4095 else shorter) = n := by
    split <;> rename_i order <;> rw [int32_lt_iff] at order <;> omega
  generalize (if 4095 < shorter then 4095 else shorter) = seg at clip
  have low : seg < 32 ↔ n < 32 := by
    rw [int32_lt_iff]
    omega
  have half : n >>> 1 = n / 2 ^ 1 := Nat.shiftRight_eq_div_pow n 1
  by_cases linear : n < 32
  · simp only [if_pos (low.mpr linear), if_pos linear]
    refine shr_bind clip constants.2.1 (by decide : 1 < 32) (fits_int32.mpr (by omega)) fun quotient size => ?_
    refine exact_bind (fits_uint8.mpr (by omega)) fun mantissa same => ?_
    have zero : value (0 : Int32) = (0 : Nat) := rfl
    refine exponent_bind zero (by decide) ?_
    rw [uint8_eq_ofNat (same.trans size), half, alawByte]
  · simp only [if_neg (low.not.mpr linear), if_neg linear]
    refine shr_bind clip constants.2.1 (by decide : 1 < 32) (fits_int32.mpr (by omega)) fun quotient size => ?_
    refine findExponent_bind le_rfl constants.2.1 size (by omega) fun exponent seg place size => ?_
    obtain ⟨least, below, shift, segment, range, _⟩ :=
      findExponent_spec (by decide : 6 ≤ 7) (by omega : 16 ≤ n / 2 ^ 1) (by omega)
    dsimp only
    refine exact_bind (fits_int32.mpr (by omega)) fun steps difference => ?_
    refine exact_bind (fits_uint8.mpr (by omega)) fun mantissa same => ?_
    refine exponent_bind place (by omega) ?_
    rw [uint8_eq_ofNat (by omega : value mantissa = ((findExponent 6 (n / 2 ^ 1)).2 - 16 : Nat)), half, alawByte]

end

/-- The table of a decoder, whose entries are taken of their index `as u8`. -/
def decodeTable (decodeSample : UInt8 → Option Int16) : Option (List Int16) :=
  (List.range 256).mapM fun i : Nat => do decodeSample (← MachineInt.exact i)

/-- The loop of PCMU and PCMA over a payload, with its table. -/
def decodeChecked (decodeSample : UInt8 → Option Int16) (payload : List UInt8) : Option (List Int16) := do
  let table ← decodeTable decodeSample
  let samples ← payload.mapM fun byte => table[byte.toNat]?
  some (samples.flatMap (List.replicate resampleFactor))

/-- The loop of PCMU and PCMA over the samples. -/
def encodeChecked (encodeSample : Int16 → Option UInt8) (samples : List Int16) : Option (List UInt8) :=
  (chunks samples).mapM fun chunk => do encodeSample (← chunk.samples[chunk.samples.length / 2]?)

theorem decodeTable_eq {checked : UInt8 → Option Int16} {decodeSample : UInt8 → Int16}
    (all : ∀ byte, checked byte = some (decodeSample byte)) :
    decodeTable checked = some ((List.range 256).map fun i => decodeSample (UInt8.ofNat i)) := by
  unfold decodeTable
  refine mapM_eq_some fun i member => ?_
  have bound := List.mem_range.mp member
  refine MachineInt.exact_bind (MachineInt.fits_uint8.mpr (by omega)) fun byte same => ?_
  rw [all, MachineInt.uint8_eq_ofNat same]

theorem decodeChecked_eq {checked : UInt8 → Option Int16} {decodeSample : UInt8 → Int16}
    (all : ∀ byte, checked byte = some (decodeSample byte)) (payload : List UInt8) :
    decodeChecked checked payload = some (upsampled decodeSample payload) := by
  have entries : ∀ byte ∈ payload,
      ((List.range 256).map fun i => decodeSample (UInt8.ofNat i))[byte.toNat]? = some (decodeSample byte) := by
    intro byte _
    rw [List.getElem?_map, List.getElem?_range byte.toNat_lt, Option.map_some, UInt8.ofNat_toNat]
  rw [decodeChecked, decodeTable_eq all, Option.bind_eq_bind, Option.bind_some, mapM_eq_some entries,
    Option.bind_some, List.flatMap_map]
  rfl

theorem encodeChecked_eq {checked : Int16 → Option UInt8} {encodeSample : Int16 → UInt8}
    (all : ∀ sample, checked sample = some (encodeSample sample)) (samples : List Int16) :
    encodeChecked checked samples = some (downsampled encodeSample samples) := by
  refine mapM_eq_some fun chunk _ => ?_
  have bound : chunk.samples.length / 2 < chunk.samples.length := Nat.div_lt_self chunk.nonempty Nat.one_lt_two
  rw [List.getElem?_eq_getElem bound]
  exact all _

end RsipstackServer
