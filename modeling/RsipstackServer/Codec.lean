namespace RsipstackServer
universe u

/-- The cargo features that decide which codecs are built in. -/
structure Features where
  opus : Bool
  g722 : Bool

/-- The codecs in the order in which the server prefers them. -/
inductive CodecKind
  | l16
  | opus
  | g722
  | pcmu
  | pcma
  deriving DecidableEq, Repr

/-- The text of a session description. -/
abbrev Text := List Char

def eqIgnoreAsciiCase (a b : Text) : Bool := a.map Char.toLower == b.map Char.toLower

namespace CodecKind

/-- The place of a variant in the declaration, which the derived order compares. -/
def rank : CodecKind → Nat
  | l16 => 0
  | opus => 1
  | g722 => 2
  | pcmu => 3
  | pcma => 4

def fromName (features : Features) (codecName : Text) : Option CodecKind :=
  if eqIgnoreAsciiCase codecName "pcmu".toList then some pcmu
  else if eqIgnoreAsciiCase codecName "pcma".toList then some pcma
  else if features.g722 && eqIgnoreAsciiCase codecName "g722".toList then some g722
  else if features.opus && eqIgnoreAsciiCase codecName "opus".toList then some opus
  else if eqIgnoreAsciiCase codecName "l16".toList then some l16
  else none

def name : CodecKind → Text
  | pcmu => "PCMU".toList
  | pcma => "PCMA".toList
  | g722 => "G722".toList
  | opus => "opus".toList
  | l16 => "L16".toList

end CodecKind

/-- A codec with states of type `κ`, which every call of `decode` and
`encode` may change. -/
structure Codec (κ : Type u) where
  decode : κ → List UInt8 → List Int16 × κ
  encode : κ → List Int16 → List UInt8 × κ
  rtpTimestampIncrement : κ → UInt32

end RsipstackServer
