import RsipstackServer.Resample

namespace RsipstackServer

/-- The entry of a byte in the decode table. -/
def decodeAlawSample (byte : UInt8) : Int16 :=
  let byte := byte ^^^ 0x55
  let sign := byte &&& 0x80 != 0
  let exponent := ((byte >>> 4) &&& 0x07).toNat
  let mantissa := (byte &&& 0x0f).toNat
  let magnitude := if exponent = 0 then mantissa <<< 1 ||| 1 else (mantissa <<< 1 ||| 0x21) <<< (exponent - 1)
  let magnitude := Int16.ofNat (magnitude <<< 3)
  if sign then -magnitude else magnitude

/-- The loop that looks for the exponent, with the number of exponents up to 7
that are left and the shifted sample. -/
def findExponent : Nat → Nat → Nat × Nat
  | 0, seg => (7, seg)
  | left + 1, seg => if 32 ≤ seg then findExponent left (seg >>> 1) else (7 - (left + 1), seg)

/-- The components of a byte, with its even bits toggled. -/
def alawByte (sign : UInt8) (exponent : Nat) (mantissa : UInt8) : UInt8 :=
  (sign ||| UInt8.ofNat exponent <<< 4 ||| mantissa) ^^^ 0x55

def encodeAlawSample (sample : Int16) : UInt8 :=
  let sign : UInt8 := if sample < 0 then 0x80 else 0
  let magnitude := min (sample.toInt.natAbs >>> 3) 4095
  let (exponent, mantissa) : Nat × UInt8 :=
    if magnitude < 32 then (0, UInt8.ofNat (magnitude >>> 1))
    else
      let (exponent, seg) := findExponent 6 (magnitude >>> 1)
      (exponent, UInt8.ofNat (seg - 16) &&& 0x0f)
  alawByte sign exponent mantissa

def pcmaCodec : Codec Unit where
  decode _ payload := (upsampled decodeAlawSample payload, ())
  encode _ samples := (downsampled encodeAlawSample samples, ())
  rtpTimestampIncrement _ := 160

end RsipstackServer
