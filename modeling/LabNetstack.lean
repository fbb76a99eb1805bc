import LabNetstack.RingBufferCore
import LabNetstack.RingBuffer
import LabNetstack.SegmentCore
import LabNetstack.ControlBlockCore
import LabNetstack.AlarmCore
import LabNetstack.EpollServerCore
import LabNetstack.EpollServer
import LabNetstack.EpollClock
import LabNetstack.EventLoop
import LabNetstack.SendBufferCore
import LabNetstack.SendBuffer
import LabNetstack.SendBufferAccounting
import LabNetstack.SendBufferFlight
import LabNetstack.SendBufferStream
import LabNetstack.SendBufferPhases
import LabNetstack.SendBufferPass
import LabNetstack.SendBufferTimer
import LabNetstack.SendBufferHanded
import LabNetstack.SendBufferWindow
import LabNetstack.SequenceOrder
import LabNetstack.SocketSession
import LabNetstack.HostWords
import LabNetstack.OnesComplement
import LabNetstack.Wire
import LabNetstack.Checksum
import LabNetstack.SegmentParse
import LabNetstack.SegmentCodec
import LabNetstack.ResetDispatcher
import LabNetstack.BuildAgreement
import LabNetstack.DeviceCore
import LabNetstack.ReceivedInput
import LabNetstack.ProtocolStackCore
import LabNetstack.ProtocolStack
import LabNetstack.ProtocolStackDispatch
import LabNetstack.ListenDispatcher
import LabNetstack.Shutdown
import LabNetstack.SocketRaces
import LabNetstack.SendBufferCumulative
import LabNetstack.FrameDecoding
import LabNetstack.DistanceVector
import LabNetstack.RouteTimeouts
import LabNetstack.ForwardedPacket
import LabNetstack.RejectedAddress
import LabNetstack.WriterRuns
import LabNetstack.ChecksumRuns
import LabNetstack.RingBufferRuns
import LabNetstack.RandGenerator
import LabNetstack.WireItems
import LabNetstack.AlarmPass
import LabNetstack.Connection
import LabNetstack.ConnectionDelivery
import LabNetstack.ConnectionRing
import LabNetstack.DescriptorTable
import LabNetstack.Descriptors
import LabNetstack.Echo
import LabNetstack.GetInstance
import LabNetstack.MockClock
import LabNetstack.RandPeriod
import LabNetstack.SocketSignals
import LabNetstack.WireConnection
import LabNetstack.ReadEvents
import LabNetstack.SenderDeadlines
import LabNetstack.LockedPrograms
import LabNetstack.StackRaces
import LabNetstack.StackReplay
