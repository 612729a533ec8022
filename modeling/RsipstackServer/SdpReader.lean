import RsipstackServer.SdpOffer

namespace RsipstackServer
open Foundation

/-- The lines of a text in which each line ends in a carriage return and a
line feed. -/
def sdpLines : Text → Option (List Text)
  | [] => some []
  | '\r' :: '\n' :: later => (sdpLines later).map ([] :: ·)
  | c :: later =>
    if c = '\r' ∨ c = '\n' then none
    else match sdpLines later with
      | some (line :: lines) => some ((c :: line) :: lines)
      | _ => none

/-- The characters of a token: the visible ASCII characters but brackets,
quotes, separators and the equality sign. -/
def isTokenChar (c : Char) : Bool :=
  c.val == 0x21 || (0x23 ≤ c.val && c.val ≤ 0x27) || c.val == 0x2a || c.val == 0x2b || c.val == 0x2d ||
    c.val == 0x2e || (0x30 ≤ c.val && c.val ≤ 0x39) || (0x41 ≤ c.val && c.val ≤ 0x5a) ||
    (0x5e ≤ c.val && c.val ≤ 0x7e)

def isToken (text : Text) : Bool := !text.isEmpty && text.all isTokenChar

/-- One or more printable ASCII characters. -/
def isPrintable (text : Text) : Bool := !text.isEmpty && text.all fun c => 0x20 ≤ c.val && c.val ≤ 0x7e

/-- A number up to `bound`, in digits only. -/
def isNumber (bound : Nat) (text : Text) : Bool := (parseDigits bound text).isSome

/-- One number of an address, without leading zeros. -/
def readOctet (text : Text) : Option UInt8 := do
  let value ← parseDigits 255 text
  if decimal value = text then some (UInt8.ofNat value) else none

def readIp4 (text : Text) : Option IpAddr :=
  match text.splitOn '.' with
  | [a, b, c, d] => do
    let a ← readOctet a
    let b ← readOctet b
    let c ← readOctet c
    let d ← readOctet d
    pure (.v4 a b c d)
  | _ => none

def readOrigin (value : Text) : Option Unit :=
  match value.splitOn ' ' with
  | [username, sessId, sessVersion, nettype, addrtype, address] => do
    let _ ← readIp4 address
    if isToken username && isNumber 18446744073709551615 sessId && isNumber 18446744073709551615 sessVersion &&
        nettype == "IN".toList && addrtype == "IP4".toList then some ()
    else none
  | _ => none

def readConnection (value : Text) : Option Connection :=
  match value.splitOn ' ' with
  | [nettype, addrtype, address] =>
    if nettype = "IN".toList ∧ addrtype = "IP4".toList then (readIp4 address).map Connection.mk else none
  | _ => none

def readTiming (value : Text) : Option Unit :=
  match value.splitOn ' ' with
  | [start, stop] => if isNumber 2147483647 start && isNumber 2147483647 stop then some () else none
  | _ => none

def readMediaLine (value : Text) : Option Media :=
  match value.splitOn ' ' with
  | media :: port :: proto :: format :: formats => do
    let port ← parseDigits 65535 port
    if media.isEmpty || proto.isEmpty || (format :: formats).any List.isEmpty then none
    else some {
      media := if media = "audio".toList then .audio else .other media
      port := UInt16.ofNat port
      proto := proto
      fmt := [' '].intercalate (format :: formats) }
  | _ => none

def readRtpmap (value : Text) : Option Rtpmap :=
  match value.splitOn ' ' with
  | [payloadType, encoding] => do
    let payloadType ← parseDigits 4294967295 payloadType
    match encoding.splitOn '/' with
    | [encodingName, clockRate] => do
      let clockRate ← parseDigits 4294967295 clockRate
      if encodingName.isEmpty then none
      else some ⟨UInt32.ofNat payloadType, encodingName, UInt32.ofNat clockRate, none⟩
    | [encodingName, clockRate, encodingParams] => do
      let clockRate ← parseDigits 4294967295 clockRate
      let encodingParams ← parseDigits 4294967295 encodingParams
      if encodingName.isEmpty then none
      else some ⟨UInt32.ofNat payloadType, encodingName, UInt32.ofNat clockRate, some (UInt32.ofNat encodingParams)⟩
    | _ => none
  | _ => none

/-- The stream is one of the types, over one of the protocols, that RFC 4566
names, and its formats are tokens. -/
def Media.standard (media : Media) : Bool :=
  (match media.media with
    | .audio => true
    | .other name => name ∈ ["video".toList, "text".toList, "application".toList, "message".toList]) &&
  media.proto ∈ ["udp".toList, "RTP/AVP".toList, "RTP/SAVP".toList] &&
  media.fmt.all fun c => c == ' ' || isTokenChar c

/-- The name is a token, and rate and parameters are signed 32-bit numbers. -/
def Rtpmap.standard (rtpmap : Rtpmap) : Bool :=
  isToken rtpmap.encodingName && rtpmap.clockRate ≤ 2147483647 &&
  rtpmap.encodingParams.all fun params => params ≤ 2147483647

/-- The parameters of a format: its number, a blank and some text. -/
def isFmtp (value : Text) : Bool :=
  match value.splitOn ' ' with
  | format :: params => isNumber 255 format && isPrintable ([' '].intercalate params)
  | [] => false

/-- The attributes of a plain description: rtpmap and fmtp lines, a packet time
in whole milliseconds, and the four directions. -/
def readAttribute (value : Text) : Option Attribute :=
  if "rtpmap:".toList.isPrefixOf value then ((readRtpmap (value.drop 7)).filter Rtpmap.standard).map .rtpmap
  else if "fmtp:".toList.isPrefixOf value then if isFmtp (value.drop 5) then some (.other value) else none
  else if "ptime:".toList.isPrefixOf value then if isNumber 65535 (value.drop 6) then some (.other value) else none
  else if value ∈ ["sendrecv".toList, "sendonly".toList, "recvonly".toList, "inactive".toList] then
    some (.other value)
  else none

/-- The lines of the media descriptions, with the connections and attributes
in front of the first of them. -/
def readMedia : List Text → Option (List Connection × List Attribute × List MediaDescription)
  | [] => some ([], [], [])
  | ('m' :: '=' :: value) :: later => do
    let (connections, attributes, descriptions) ← readMedia later
    let media ← (readMediaLine value).filter Media.standard
    pure ([], [], ⟨media, connections, attributes⟩ :: descriptions)
  | ('c' :: '=' :: value) :: later => do
    let (connections, attributes, descriptions) ← readMedia later
    let connection ← readConnection value
    pure (connection :: connections, attributes, descriptions)
  | ('a' :: '=' :: value) :: later => do
    let (connections, attributes, descriptions) ← readMedia later
    let first ← readAttribute value
    if connections.isEmpty then pure ([], first :: attributes, descriptions) else none
  | _ => none

/-- The lines after the session name. -/
def readSession : List Text → Option SessionDescription
  | ('c' :: '=' :: address) :: ('t' :: '=' :: timing) :: later => do
    let connection ← readConnection address
    let _ ← readTiming timing
    let (connections, _, descriptions) ← readMedia later
    if connections.isEmpty then pure ⟨some connection, descriptions⟩ else none
  | ('t' :: '=' :: timing) :: later => do
    let _ ← readTiming timing
    let (connections, _, descriptions) ← readMedia later
    if connections.isEmpty then pure ⟨none, descriptions⟩ else none
  | _ => none

/-- A session description of RFC 4566, line by line, of the plainest kind: only
lines that every such description has and media lines, IPv4 addresses, and
numbers and attributes as above. -/
def readSdp (text : Text) : Option SessionDescription := do
  match ← sdpLines text with
  | ('v' :: '=' :: version) :: ('o' :: '=' :: origin) :: ('s' :: '=' :: name) :: later =>
    let _ ← readOrigin origin
    if version = ['0'] ∧ isPrintable name then readSession later else none
  | _ => none

/-- What is assumed of `sdp-rs`: it accepts the plain descriptions that `readSdp`
reads, and reads from them what they say. Nothing is assumed of other texts:
not of attributes of other kinds, nor of numbers that its types do not hold. -/
def ReadsWellFormed (sdpRs : SdpRs) : Prop := ∀ text sdp, readSdp text = some sdp → sdpRs text = .ok sdp

/-- A crate that accepts these descriptions and nothing else. -/
def strictSdpRs : SdpRs := fun text => (readSdp text).elim (.error "not well-formed".toList) .ok

theorem strictSdpRs_reads : ReadsWellFormed strictSdpRs := by
  intro text sdp read
  rw [strictSdpRs, read]
  rfl

/-- An offer of one audio stream with these formats and attribute lines. -/
def offerText (formats attributeLines : Text) : Text :=
  "v=0\r\no=- 123456 1 IN IP4 10.0.0.50\r\ns=Test\r\nc=IN IP4 10.0.0.50\r\nt=0 0\r\nm=audio 4000 RTP/AVP ".toList ++
    formats ++ "\r\n".toList ++ attributeLines

def offeredAudio (formats : Text) (attributes : List Attribute) : MediaDescription :=
  ⟨⟨.audio, 4000, "RTP/AVP".toList, formats⟩, [], attributes⟩

def offeredDescription (formats : Text) (attributes : List Attribute) : SessionDescription :=
  ⟨some ⟨.v4 10 0 0 50⟩, [offeredAudio formats attributes]⟩

end RsipstackServer
