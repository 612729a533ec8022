import RsipstackServer.SdpOffer

namespace RsipstackServer
open Foundation

/-- `EXPECTED_SEND_INTERVAL` in milliseconds. -/
def expectedSendInterval : Nat := 20

def rtpmapLines (codec : OfferedCodec) : Text :=
  let payloadType := decimal codec.payloadType.toNat
  match codec.kind with
  | .opus => "a=rtpmap:".toList ++ payloadType ++ " opus/48000/2\r\na=fmtp:".toList ++ payloadType ++
      " minptime=10;useinbandfec=1\r\n".toList
  | .pcmu => "a=rtpmap:".toList ++ payloadType ++ " PCMU/8000\r\n".toList
  | .pcma => "a=rtpmap:".toList ++ payloadType ++ " PCMA/8000\r\n".toList
  -- G.722 carries audio at 16 kHz but by convention advertises 8000.
  | .g722 => "a=rtpmap:".toList ++ payloadType ++ " G722/8000\r\n".toList
  | .l16 => "a=rtpmap:".toList ++ payloadType ++ " L16/16000\r\n".toList

def generateSdpAnswer (advertiseIpAddr : IpAddr) (rtpPort : UInt16) (sessionId : UInt64) (codec : OfferedCodec) :
    Text :=
  "v=0\r\no=- ".toList ++ decimal sessionId.toNat ++ " 1 IN IP4 ".toList ++ advertiseIpAddr.display ++
    "\r\ns=rsipstack-server\r\nc=IN IP4 ".toList ++ advertiseIpAddr.display ++ "\r\nt=0 0\r\nm=audio ".toList ++
    decimal rtpPort.toNat ++ " RTP/AVP ".toList ++ decimal codec.payloadType.toNat ++ "\r\n".toList ++
    rtpmapLines codec ++ "a=ptime:".toList ++ decimal expectedSendInterval ++ "\r\na=sendrecv\r\n".toList

end RsipstackServer
