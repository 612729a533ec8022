import RsipstackServer.SdpAnswer
import RsipstackServer.SdpReader

namespace RsipstackServer
open Foundation

/-- No line ending occurs in the text. -/
def OneLine (text : Text) : Prop := ∀ c ∈ text, c ≠ '\r' ∧ c ≠ '\n'

theorem OneLine.append {a b : Text} (first : OneLine a) (second : OneLine b) : OneLine (a ++ b) := by
  intro c member
  exact (List.mem_append.mp member).elim (first c) (second c)

theorem oneLine_decimal (n : Nat) : OneLine (decimal n) := by
  intro c member
  have digit := isDigit_of_mem_decimal member
  exact ⟨by rintro rfl; exact absurd digit (by decide), by rintro rfl; exact absurd digit (by decide)⟩

instance (text : Text) : Decidable (OneLine text) := List.decidableBAll (fun c => c ≠ '\r' ∧ c ≠ '\n') text

theorem OneLine.typed {kind : Char} {value : Text} (ends : kind ≠ '\r' ∧ kind ≠ '\n') (one : OneLine value) :
    OneLine (kind :: '=' :: value) := by
  intro c member
  rcases List.mem_cons.mp member with rfl | rest
  · exact ends
  · rcases List.mem_cons.mp rest with rfl | old
    · decide
    · exact one c old

theorem sdpLines_line {line later : Text} (one : OneLine line) :
    sdpLines (line ++ '\r' :: '\n' :: later) = (sdpLines later).map (line :: ·) := by
  induction line with
  | nil => rfl
  | cons c rest ih =>
    have ends := one c List.mem_cons_self
    have inner := ih fun other member => one other (List.mem_cons_of_mem c member)
    rw [List.cons_append, sdpLines]
    · rw [if_neg (not_or.mpr ends), inner]
      cases sdpLines later <;> rfl
    · rintro _ rfl
      exact absurd rfl ends.1

def renderLines (lines : List Text) : Text := lines.flatMap fun line => line ++ "\r\n".toList

theorem sdpLines_renderLines {lines : List Text} (one : ∀ line ∈ lines, OneLine line) :
    sdpLines (renderLines lines) = some lines := by
  induction lines with
  | nil => rfl
  | cons line later ih =>
    have inner := ih fun other member => one other (List.mem_cons_of_mem line member)
    have whole : renderLines (line :: later) = line ++ '\r' :: '\n' :: renderLines later := by
      rw [renderLines, List.flatMap_cons, List.append_assoc]
      rfl
    rw [whole, sdpLines_line (one line List.mem_cons_self), inner]
    rfl

theorem oneLine_display (address : IpAddr) : OneLine address.display := by
  intro c member
  have plain := address.plain_display c member
  exact ⟨by rintro rfl; exact absurd plain (by decide), by rintro rfl; exact absurd plain (by decide)⟩

namespace CodecKind

/-- The clock rate and the number of channels that the answer names. -/
def clockRate : CodecKind → UInt32
  | opus => 48000
  | l16 => 16000
  | g722 | pcmu | pcma => 8000

def encodingParams : CodecKind → Option UInt32
  | opus => some 2
  | l16 | g722 | pcmu | pcma => none

def encoding : CodecKind → Text
  | opus => "opus/48000/2".toList
  | l16 => "L16/16000".toList
  | g722 => "G722/8000".toList
  | pcmu => "PCMU/8000".toList
  | pcma => "PCMA/8000".toList

end CodecKind

/-- The lines that describe the codec. -/
def codecLines (codec : OfferedCodec) : List Text :=
  ('a' :: '=' :: ("rtpmap:".toList ++ (decimal codec.payloadType.toNat ++ ' ' :: codec.kind.encoding))) ::
    match codec.kind with
    | .opus =>
      ['a' :: '=' :: ("fmtp:".toList ++ decimal codec.payloadType.toNat ++ " minptime=10;useinbandfec=1".toList)]
    | _ => []

def answerLines (address : IpAddr) (rtpPort : UInt16) (sessionId : UInt64) (codec : OfferedCodec) : List Text :=
  ['v' :: '=' :: ['0'],
    'o' :: '=' :: ("- ".toList ++ decimal sessionId.toNat ++ " 1 IN IP4 ".toList ++ address.display),
    's' :: '=' :: "rsipstack-server".toList,
    'c' :: '=' :: ("IN IP4 ".toList ++ address.display),
    't' :: '=' :: "0 0".toList,
    'm' :: '=' ::
      ("audio ".toList ++ decimal rtpPort.toNat ++ " RTP/AVP ".toList ++ decimal codec.payloadType.toNat)] ++
    codecLines codec ++ ['a' :: '=' :: ("ptime:".toList ++ decimal expectedSendInterval),
      'a' :: '=' :: "sendrecv".toList]

theorem renderLines_cons (line : Text) (later : List Text) :
    renderLines (line :: later) = line ++ ("\r\n".toList ++ renderLines later) := by
  rw [renderLines, List.flatMap_cons, List.append_assoc]
  rfl

theorem rtpmapLines_eq (codec : OfferedCodec) : rtpmapLines codec = renderLines (codecLines codec) := by
  have opening : "a=rtpmap:".toList = 'a' :: '=' :: "rtpmap:".toList := by decide +kernel
  have none : renderLines [] = [] := rfl
  have single : ∀ payloadType encoding ending : Text, ending = ' ' :: (encoding ++ "\r\n".toList) →
      "a=rtpmap:".toList ++ payloadType ++ ending =
        renderLines ['a' :: '=' :: ("rtpmap:".toList ++ (payloadType ++ ' ' :: encoding))] := by
    rintro payloadType encoding _ rfl
    simp only [renderLines_cons, none, opening, List.append_assoc, List.cons_append, List.append_nil]
  cases codec with
  | mk payloadType kind =>
    cases kind with
    | pcmu => exact single (decimal payloadType.toNat) "PCMU/8000".toList " PCMU/8000\r\n".toList (by decide +kernel)
    | pcma => exact single (decimal payloadType.toNat) "PCMA/8000".toList " PCMA/8000\r\n".toList (by decide +kernel)
    | g722 => exact single (decimal payloadType.toNat) "G722/8000".toList " G722/8000\r\n".toList (by decide +kernel)
    | l16 => exact single (decimal payloadType.toNat) "L16/16000".toList " L16/16000\r\n".toList (by decide +kernel)
    | opus =>
      have middle : " opus/48000/2\r\na=fmtp:".toList =
          ' ' :: ("opus/48000/2".toList ++ ("\r\n".toList ++ ('a' :: '=' :: "fmtp:".toList))) := by decide +kernel
      have ending : " minptime=10;useinbandfec=1\r\n".toList =
          " minptime=10;useinbandfec=1".toList ++ "\r\n".toList := by decide +kernel
      have lines : codecLines ⟨payloadType, .opus⟩ =
          ['a' :: '=' :: ("rtpmap:".toList ++ (decimal payloadType.toNat ++ ' ' :: "opus/48000/2".toList)),
            'a' :: '=' ::
              ("fmtp:".toList ++ decimal payloadType.toNat ++ " minptime=10;useinbandfec=1".toList)] := rfl
      simp only [rtpmapLines, lines, renderLines_cons, none, opening, middle, ending, List.append_assoc,
        List.cons_append,
        List.append_nil]

theorem generateSdpAnswer_eq (address : IpAddr) (rtpPort : UInt16) (sessionId : UInt64) (codec : OfferedCodec) :
    generateSdpAnswer address rtpPort sessionId codec =
      renderLines (answerLines address rtpPort sessionId codec) := by
  have opening : "v=0\r\no=- ".toList = 'v' :: '=' :: '0' :: ("\r\n".toList ++ 'o' :: '=' :: "- ".toList) := by
    decide +kernel
  have name : "\r\ns=rsipstack-server\r\nc=IN IP4 ".toList = "\r\n".toList ++
      's' :: '=' :: ("rsipstack-server".toList ++ ("\r\n".toList ++ 'c' :: '=' :: "IN IP4 ".toList)) := by
        decide +kernel
  have timing : "\r\nt=0 0\r\nm=audio ".toList = "\r\n".toList ++
      't' :: '=' :: ("0 0".toList ++ ("\r\n".toList ++ 'm' :: '=' :: "audio ".toList)) := by decide +kernel
  have ptime : "a=ptime:".toList = 'a' :: '=' :: "ptime:".toList := by decide +kernel
  have closing : "\r\na=sendrecv\r\n".toList =
      "\r\n".toList ++ 'a' :: '=' :: ("sendrecv".toList ++ "\r\n".toList) := by decide +kernel
  have none : renderLines [] = [] := rfl
  have front : ∀ first second : List Text, renderLines (first ++ second) = renderLines first ++ renderLines second :=
    fun _ _ => List.flatMap_append
  unfold generateSdpAnswer answerLines
  simp only [rtpmapLines_eq, front, renderLines_cons, none, opening, name,
    timing, ptime, closing, List.append_assoc, List.cons_append, List.nil_append, List.append_nil]

theorem oneLine_codecLines (codec : OfferedCodec) : ∀ line ∈ codecLines codec, OneLine line := by
  have encoding : OneLine (' ' :: codec.kind.encoding) := by cases codec.kind <;> decide +kernel
  have rtpmap : OneLine "rtpmap:".toList := by decide +kernel
  have fmtp : OneLine "fmtp:".toList := by decide +kernel
  have parameters : OneLine " minptime=10;useinbandfec=1".toList := by decide +kernel
  unfold codecLines
  rw [List.forall_mem_cons]
  refine ⟨.typed (by decide) (rtpmap.append ((oneLine_decimal _).append encoding)), ?_⟩
  split
  · rw [List.forall_mem_singleton]
    exact .typed (by decide) ((fmtp.append (oneLine_decimal _)).append parameters)
  · simp

theorem oneLine_answerLines (address : IpAddr) (rtpPort : UInt16) (sessionId : UInt64) (codec : OfferedCodec) :
    ∀ line ∈ answerLines address rtpPort sessionId codec, OneLine line := by
  have dash : OneLine "- ".toList := by decide +kernel
  have version : OneLine " 1 IN IP4 ".toList := by decide +kernel
  have name : OneLine "rsipstack-server".toList := by decide +kernel
  have network : OneLine "IN IP4 ".toList := by decide +kernel
  have timing : OneLine "0 0".toList := by decide +kernel
  have audio : OneLine "audio ".toList := by decide +kernel
  have proto : OneLine " RTP/AVP ".toList := by decide +kernel
  have ptime : OneLine "ptime:".toList := by decide +kernel
  have sendrecv : OneLine "sendrecv".toList := by decide +kernel
  have network_address := oneLine_display address
  unfold answerLines
  simp only [List.forall_mem_append, List.forall_mem_cons, List.not_mem_nil, false_implies, implies_true, and_true]
  refine ⟨⟨⟨?_, ?_, ?_, ?_, ?_, ?_⟩, oneLine_codecLines codec⟩, ?_, ?_⟩
  · decide
  · exact .typed (by decide) (((dash.append (oneLine_decimal _)).append version).append network_address)
  · exact .typed (by decide) name
  · exact .typed (by decide) (network.append network_address)
  · exact .typed (by decide) timing
  · exact .typed (by decide) (((audio.append (oneLine_decimal _)).append proto).append (oneLine_decimal _))
  · exact .typed (by decide) (ptime.append (oneLine_decimal _))
  · exact .typed (by decide) sendrecv

theorem sdpLines_generateSdpAnswer (address : IpAddr) (rtpPort : UInt16) (sessionId : UInt64) (codec : OfferedCodec) :
    sdpLines (generateSdpAnswer address rtpPort sessionId codec) =
      some (answerLines address rtpPort sessionId codec) := by
  rw [generateSdpAnswer_eq]
  exact sdpLines_renderLines (oneLine_answerLines address rtpPort sessionId codec)

end RsipstackServer
