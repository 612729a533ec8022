import RsipstackServer.IpAddr
import RsipstackServer.Foundation.Preference

namespace RsipstackServer
open Foundation

inductive MediaType
  | audio
  | other (name : Text)
  deriving DecidableEq

structure Media where
  media : MediaType
  port : UInt16
  proto : Text
  fmt : Text
  deriving DecidableEq

structure Connection where
  connectionAddress : IpAddr
  deriving DecidableEq

structure Rtpmap where
  payloadType : UInt32
  encodingName : Text
  clockRate : UInt32
  encodingParams : Option UInt32
  deriving DecidableEq

inductive Attribute
  | rtpmap (rtpmap : Rtpmap)
  | other (text : Text)
  deriving DecidableEq

structure MediaDescription where
  media : Media
  connections : List Connection
  attributes : List Attribute
  deriving DecidableEq

/-- What the server reads of a session description of the crate `sdp-rs`. -/
structure SessionDescription where
  connection : Option Connection
  mediaDescriptions : List MediaDescription
  deriving DecidableEq

/-- `SessionDescription::try_from`. An error is given by its debug text. -/
abbrev SdpRs := Text → Except Text SessionDescription

structure OfferedCodec where
  payloadType : UInt8
  kind : CodecKind
  deriving DecidableEq

structure SdpOffer where
  peerAddr : IpAddr
  peerPort : UInt16
  payloadType : UInt8
  codecKind : CodecKind
  deriving DecidableEq

inductive SdpParseError
  | parseError (e : Text)
  | missingConnectionAddress
  | invalidAddress (addr : Text)
  | noAudioMedia
  | noSupportedCodec
  deriving DecidableEq

/-- The characters with the Unicode property `White_Space`. -/
def isWhitespace (c : Char) : Bool :=
  c.val == 0x20 || (0x09 ≤ c.val && c.val ≤ 0x0d) || c.val == 0x85 || c.val == 0xa0 || c.val == 0x1680 ||
    (0x2000 ≤ c.val && c.val ≤ 0x200a) || c.val == 0x2028 || c.val == 0x2029 || c.val == 0x202f || c.val == 0x205f ||
    c.val == 0x3000

def splitWhitespace (text : Text) : List Text :=
  (text.splitOnP isWhitespace).filter fun token => !token.isEmpty

def parsePayloadType (pt : Text) : Option UInt8 := (parseUnsigned 255 pt).map UInt8.ofNat

/-- The search through the attributes, which ends at the first rtpmap line of
the payload type. -/
def foundCodec (pt : UInt8) : List Attribute → Option Text
  | [] => none
  | .other _ :: later => foundCodec pt later
  | .rtpmap rtpmap :: later =>
    if rtpmap.payloadType = pt.toUInt32 then
      if eqIgnoreAsciiCase rtpmap.encodingName "l16".toList && rtpmap.clockRate != 16000 then none
      else some rtpmap.encodingName
    else foundCodec pt later

def codecName (attributes : List Attribute) (pt : UInt8) : Text :=
  if pt = 0 then "PCMU".toList
  else if pt = 8 then "PCMA".toList
  else if pt = 9 then "G722".toList
  else (foundCodec pt attributes).getD ("PT".toList ++ decimal pt.toNat)

/-- The codec pushed for one payload type, if any. -/
def offeredCodec (features : Features) (attributes : List Attribute) (pt : UInt8) : Option OfferedCodec :=
  (CodecKind.fromName features (codecName attributes pt)).map fun kind => ⟨pt, kind⟩

def MediaDescription.payloadTypes (audioMedia : MediaDescription) : List UInt8 :=
  (splitWhitespace audioMedia.media.fmt).filterMap parsePayloadType

/-- `min_by_key` returns the first of several least elements. -/
def selectPreferred (codecs : List OfferedCodec) : Option OfferedCodec :=
  codecs.argmin fun codec => codec.kind.rank

def SessionDescription.audioMedia (sdp : SessionDescription) : Option MediaDescription :=
  sdp.mediaDescriptions.find? fun description => description.media.media = .audio

/-- The part of `parse_sdp_offer` after the call of `sdp-rs`. -/
def offerOf (features : Features) (sdp : SessionDescription) : Except SdpParseError SdpOffer := do
  let audioMedia ← sdp.audioMedia.elim (throw .noAudioMedia) pure
  let connection ← (audioMedia.connections.head? <|> sdp.connection).elim (throw .missingConnectionAddress) pure
  let codecs := audioMedia.payloadTypes.filterMap (offeredCodec features audioMedia.attributes)
  let selected ← (selectPreferred codecs).elim (throw .noSupportedCodec) pure
  pure {
    peerAddr := connection.connectionAddress
    peerPort := audioMedia.media.port
    payloadType := selected.payloadType
    codecKind := selected.kind }

def parseSdpOffer (features : Features) (sdpRs : SdpRs) (sdpBody : Text) : Except SdpParseError SdpOffer := do
  let sdp ← (sdpRs sdpBody).mapError .parseError
  offerOf features sdp

end RsipstackServer
