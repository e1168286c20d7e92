import Ptnet.Machine
import Ptnet.Connection
import Ptnet.ConnectionMirror
import Ptnet.NativeBlacklist
import Ptnet.MatchLists
import Ptnet.BlockedApps
import Ptnet.Detection
import Ptnet.BlockDecision
import Ptnet.MitmStream
import Ptnet.MitmFraming
import Ptnet.ConnectionsRegister
import Ptnet.LruCache
import Ptnet.Mailbox
import Ptnet.MitmDelivery
import Ptnet.MitmRouting
import Ptnet.Housekeeping
import Ptnet.Ledger
import Ptnet.RecordFrame
import Ptnet.ConnectionsDump
import Ptnet.HousekeepingLedger
import Ptnet.CoreCalls
import Ptnet.CaptureClient
import Ptnet.LibpcapCapture
import Ptnet.LibpcapLifecycle
import Ptnet.ByteMemory
import Ptnet.RegisterHistory
import Ptnet.ListenerMirror
import Ptnet.HostMatching
import Ptnet.HostReplacement
import Ptnet.HousekeepingFrame
import Ptnet.ListReload
import Ptnet.FirewallSwitch
import Ptnet.HttpMessages
import Ptnet.HttpSplits
import Ptnet.HttpStreams
import Ptnet.HttpFraming
import Ptnet.LibpcapDirection
import Ptnet.PcapdFrames
import Ptnet.PcapdWire
import Ptnet.BoundedQueue
import Ptnet.CaptureThreads
import Ptnet.PcapDump
import Ptnet.PcapFormat
import Ptnet.PcapLog
import Ptnet.PcapRuns
import Ptnet.PcapStream
import Ptnet.PcapRecords
import Ptnet.PcapTrailer
import Ptnet.PcapThreads
import Ptnet.BlacklistFile
import Ptnet.BlacklistReload
import Ptnet.AppTotals
import Ptnet.HttpClient
import Ptnet.UidFrame
import Ptnet.ZdtunPacket
import Ptnet.TrailerUid
import Ptnet.CStrings
import Ptnet.UidFilter
import Ptnet.ShellWords
import Ptnet.PcapdCommand
import Ptnet.TrafficFrame
import Ptnet.DnsExchange
import Ptnet.MalwareWhitelist
import Ptnet.BlacklistLines
import Ptnet.DomainSet
import Ptnet.IpRules
import Ptnet.DnsMessage
import Ptnet.DnsReply
import Ptnet.DnsLearning
import Ptnet.DnsSpoof
import Ptnet.DnsAddresses
import Ptnet.HostAttribution
import Ptnet.LruHistory
import Ptnet.UidLru
import Ptnet.LruRefinement
import Ptnet.LibpcapCounters
import Ptnet.LibpcapDump
import Ptnet.TcpStatus
import Ptnet.NotificationArray
import Ptnet.IdlePurge
import Ptnet.Crc32
import Ptnet.PcapLimit
import Ptnet.PcapShutdown
import Ptnet.RecordLifetime
import Ptnet.VpnCapture
import Ptnet.VpnRecords
import Ptnet.VpnEgress
import Ptnet.VpnLifetime
import Ptnet.CharArray
import Ptnet.ProxyCredentials
import Ptnet.HttpRequest
import Ptnet.HttpServer
import Ptnet.InstalledPackages
import Ptnet.RegisterCounters
import Ptnet.MatchIndex
import Ptnet.ListImport
import Ptnet.ListPersistence
import Ptnet.CaptureCalls
import Ptnet.DeliveredUid
import Ptnet.PayloadCapture
import Ptnet.DpiBound
import Ptnet.BigEndian
import Ptnet.StatusArray
import Ptnet.Subnets
import Ptnet.DefaultGateway
import Ptnet.NetdDelay
import Ptnet.Base32
import Ptnet.Der
import Ptnet.License
import Ptnet.Patterns
import Ptnet.Ipv4Text
import Ptnet.Ipv6Text
import Ptnet.Ipv6Grammar
import Ptnet.InOrder
import Ptnet.PacketSums
import Ptnet.TcpMoves
import Ptnet.Histories
import Ptnet.TcpRuns
import Ptnet.TcpDownstream
import Ptnet.TcpWindow
import Ptnet.TcpUpstream
import Ptnet.TcpHandshake
import Ptnet.TcpSockets
