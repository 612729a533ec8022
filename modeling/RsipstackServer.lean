import RsipstackServer.Foundation.Run
import RsipstackServer.Foundation.RoundRobin
import RsipstackServer.Foundation.CasLoop
import RsipstackServer.Foundation.CheckedWord
import RsipstackServer.RtpPortRange
import RsipstackServer.PortBounds
import RsipstackServer.PortRotation
import RsipstackServer.SocketAllocation
import RsipstackServer.AllocationInvariant
import RsipstackServer.AllocationRecord
import RsipstackServer.AllocationComplete
import RsipstackServer.Foundation.CancelTree
import RsipstackServer.Foundation.Channel
import RsipstackServer.Deadline
import RsipstackServer.RtpPacket
import RsipstackServer.Codec
import RsipstackServer.MediaTasks
import RsipstackServer.AcceptedCall
import RsipstackServer.CallSteps
import RsipstackServer.MediaTimeout
import RsipstackServer.MediaWatchdog
import RsipstackServer.Foundation.Preference
import RsipstackServer.Foundation.Decimal
import RsipstackServer.IpAddr
import RsipstackServer.SdpOffer
import RsipstackServer.Foundation.Tokens
import RsipstackServer.ListedFormats
import RsipstackServer.Foundation.BigEndian
import RsipstackServer.CodecNegotiation
import RsipstackServer.SdpAnswer
import RsipstackServer.SdpReader
import RsipstackServer.PacketRoundTrip
import RsipstackServer.AnswerLines
import RsipstackServer.AnswerRoundTrip
import RsipstackServer.CodecParameters
import RsipstackServer.AnswerFits
import RsipstackServer.Foundation.Counter
import RsipstackServer.CallOutcome
import RsipstackServer.CallAccounting
import RsipstackServer.SipServer
import RsipstackServer.SipServerSteps
import RsipstackServer.TerminatedCalls
import RsipstackServer.IncomingRequests
import RsipstackServer.DrainMonitor
import RsipstackServer.Foundation.Recorder
import RsipstackServer.SendHistory
import RsipstackServer.PacketStream
import RsipstackServer.ReceiveHistory
import RsipstackServer.TakenPackets
import RsipstackServer.NegotiatedMedia
import RsipstackServer.FixedFrames
import RsipstackServer.MediaStopped
import RsipstackServer.Foundation.ALaw
import RsipstackServer.PcmaCodec
import RsipstackServer.PcmuCodec
import RsipstackServer.L16Codec
import RsipstackServer.PcmaCompatible
import RsipstackServer.WireRoundTrip
import RsipstackServer.MediaClock
import RsipstackServer.PcmArithmetic
import RsipstackServer.Companding
import RsipstackServer.LiveCalls
import RsipstackServer.PortOwnership
import RsipstackServer.LivePorts
import RsipstackServer.Foundation.Potential
import RsipstackServer.WindDown
import RsipstackServer.Foundation.Projection
import RsipstackServer.CallsApart
import RsipstackServer.ConcurrentCalls
import RsipstackServer.Foundation.CasProgress
import RsipstackServer.PortProgress
import RsipstackServer.EchoServer
import RsipstackServer.EchoRoundTrip
import RsipstackServer.EchoSettles
import RsipstackServer.RejectReasons
import RsipstackServer.DrainCompletes
import RsipstackServer.CodecCreation
import RsipstackServer.AnnouncedStream
import RsipstackServer.RunningServer
import RsipstackServer.CallAgreement
import RsipstackServer.ShutdownCompletes
import RsipstackServer.ServerProcess
import RsipstackServer.AnsweredPorts
import RsipstackServer.AnsweredStreams
import RsipstackServer.Foundation.Cadence
import RsipstackServer.SendMetrics
