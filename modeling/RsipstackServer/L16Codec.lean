import RsipstackServer.Codec

namespace RsipstackServer

/-- `i16::from_be_bytes`. -/
def fromBeBytes (high low : UInt8) : Int16 := (high.toUInt16 <<< 8 ||| low.toUInt16).toInt16

/-- `i16::to_be_bytes`. -/
def toBeBytes (sample : Int16) : List UInt8 := [(sample.toUInt16 >>> 8).toUInt8, sample.toUInt16.toUInt8]

/-- The loop over `chunks_exact(2)`, which leaves out a last odd byte. -/
def decodeL16 : List UInt8 → List Int16
  | high :: low :: later => fromBeBytes high low :: decodeL16 later
  | [_] | [] => []

def l16Codec : Codec Unit where
  decode _ payload := (decodeL16 payload, ())
  encode _ samples := (samples.flatMap toBeBytes, ())
  rtpTimestampIncrement _ := 320

theorem length_encodeL16 (samples : List Int16) : (samples.flatMap toBeBytes).length = 2 * samples.length := by
  induction samples with
  | nil => rfl
  | cons sample later ih =>
    rw [List.flatMap_cons, List.length_append, ih, toBeBytes, List.length_cons]
    simp only [List.length_cons, List.length_nil]
    omega

theorem length_decodeL16 (payload : List UInt8) : (decodeL16 payload).length = payload.length / 2 := by
  induction payload using decodeL16.induct with
  | case1 high low later ih =>
    rw [decodeL16, List.length_cons, ih, List.length_cons, List.length_cons]
    omega
  | case2 byte => simp only [decodeL16, List.length_nil, List.length_singleton, Nat.reduceDiv]
  | case3 => rfl

/-- The word that two bytes are put together to. -/
theorem toNat_fromBeBytes (high low : UInt8) :
    (fromBeBytes high low).toUInt16.toNat = high.toNat * 256 + low.toNat := by
  have bound := high.toNat_lt
  have shift : high.toNat <<< ((8 : UInt16).toNat % 16) % 2 ^ 16 = high.toNat <<< 8 := by
    rw [show (8 : UInt16).toNat % 16 = 8 from rfl, Nat.shiftLeft_eq]
    omega
  change (high.toUInt16 <<< 8 ||| low.toUInt16).toNat = _
  rw [UInt16.toNat_or, UInt16.toNat_shiftLeft, UInt8.toNat_toUInt16, UInt8.toNat_toUInt16, shift,
    ← Nat.shiftLeft_add_eq_or_of_lt low.toNat_lt, Nat.shiftLeft_eq]

/-- The two bytes of a word are its quotient and its remainder. -/
theorem toBeBytes_eq (sample : Int16) :
    toBeBytes sample = [UInt8.ofNat (sample.toUInt16.toNat / 256), UInt8.ofNat (sample.toUInt16.toNat % 256)] := by
  have high : (sample.toUInt16 >>> 8).toUInt8 = UInt8.ofNat (sample.toUInt16.toNat / 256) := by
    rw [← UInt8.toNat_inj, UInt16.toNat_toUInt8, UInt16.toNat_shiftRight, show (8 : UInt16).toNat % 16 = 8 from rfl,
      Nat.shiftRight_eq_div_pow, UInt8.toNat_ofNat']
  have low : sample.toUInt16.toUInt8 = UInt8.ofNat (sample.toUInt16.toNat % 256) := by
    rw [← UInt8.toNat_inj, UInt16.toNat_toUInt8, UInt8.toNat_ofNat', Nat.mod_mod]
  rw [toBeBytes, high, low]

theorem toBeBytes_fromBeBytes (high low : UInt8) : toBeBytes (fromBeBytes high low) = [high, low] := by
  have bound := low.toNat_lt
  have quotient : (high.toNat * 256 + low.toNat) / 256 = high.toNat := by omega
  have remainder : (high.toNat * 256 + low.toNat) % 256 = low.toNat := by omega
  rw [toBeBytes_eq, toNat_fromBeBytes, quotient, remainder, UInt8.ofNat_toNat, UInt8.ofNat_toNat]

/-- Every sample comes back from its bytes. -/
theorem decodeL16_toBeBytes (sample : Int16) (later : List UInt8) :
    decodeL16 (toBeBytes sample ++ later) = sample :: decodeL16 later := by
  have bound := sample.toUInt16.toNat_lt
  rw [toBeBytes_eq, List.cons_append, List.cons_append, List.nil_append, decodeL16]
  congr 1
  have word := toNat_fromBeBytes (UInt8.ofNat (sample.toUInt16.toNat / 256))
    (UInt8.ofNat (sample.toUInt16.toNat % 256))
  rw [UInt8.toNat_ofNat', UInt8.toNat_ofNat'] at word
  have same : (fromBeBytes (UInt8.ofNat (sample.toUInt16.toNat / 256))
    (UInt8.ofNat (sample.toUInt16.toNat % 256))).toUInt16 =
      sample.toUInt16 := by
    rw [← UInt16.toNat_inj, word]
    omega
  exact congrArg UInt16.toInt16 same

theorem decode_encodeL16 (samples : List Int16) : decodeL16 (samples.flatMap toBeBytes) = samples := by
  induction samples with
  | nil => rfl
  | cons sample later ih => rw [List.flatMap_cons, decodeL16_toBeBytes, ih]

/-- A payload comes back from its samples without a last odd byte. -/
theorem encode_decodeL16 (payload : List UInt8) :
    (decodeL16 payload).flatMap toBeBytes = if payload.length % 2 = 1 then payload.dropLast else payload := by
  induction payload using decodeL16.induct with
  | case1 high low later ih =>
    rw [decodeL16, List.flatMap_cons, toBeBytes_fromBeBytes, ih, List.length_cons, List.length_cons]
    have parity : (later.length + 1 + 1) % 2 = later.length % 2 := by omega
    rw [parity]
    split
    · rename_i odd
      have some : later ≠ [] := by
        rintro rfl
        cases odd
      rw [List.dropLast_cons_of_ne_nil (List.cons_ne_nil _ _), List.dropLast_cons_of_ne_nil some]
      rfl
    · rfl
  | case2 byte => rfl
  | case3 => rfl

end RsipstackServer
