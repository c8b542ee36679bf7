import Gecit.Go.Strings
import Gecit.Dns.SystemLinux
import Gecit.Dns.Networksetup
import Gecit.Dns.SystemDarwin
import Gecit.App.CleanupDarwin
import Gecit.Foundation.BigEndian
import Gecit.Net.Wire
import Gecit.Net.PcapFilter
import Gecit.Rawsock.ConnInfo
import Gecit.Capture.Detector
import Gecit.Foundation.Transition
import Gecit.Seqtrack.SeqTracker
import Gecit.Tun.Pipe
import Gecit.Tun.HalfClose
import Gecit.Tun.Idle
import Gecit.Foundation.LengthPrefixed
import Gecit.Go.Checked
import Gecit.Fake.ClientHello
import Gecit.Fake.Sni
import Gecit.Foundation.OnesComplement
import Gecit.Rawsock.Checksum
import Gecit.Rawsock.Packet
import Gecit.Rawsock.Received
import Gecit.Ebpf.Maps
import Gecit.Ebpf.Sockops
import Gecit.Ebpf.Lifetime
import Gecit.Ebpf.Traffic
import Gecit.Ebpf.Layout
import Gecit.Ebpf.Start
import Gecit.Ebpf.Inject
import Gecit.Ebpf.Race
import Gecit.Net.Address
import Gecit.Dns.DoH
import Gecit.App.RunLinux
import Gecit.Macos.StartArgs
import Gecit.Macos.Command
import Gecit.Macos.StartCommand
import Gecit.Macos.CommandFile
import Gecit.Macos.Daemon
import Gecit.Macos.OneEngine
import Gecit.Macos.Published
import Gecit.Dns.Server
import Gecit.Foundation.KeyedQueue
import Gecit.Dns.IpQueue
import Gecit.Tun.FakeTtl
import Gecit.Tun.PacketConnection
import Gecit.Ebpf.Stop
import Gecit.Tun.Handler
import Gecit.Tun.Stop
import Gecit.Ebpf.Manager
import Gecit.Tun.Manager
import Gecit.App.StartDarwin
import Gecit.Go.Words
import Gecit.Tun.Distance
import Gecit.App.CleanupWindows
import Gecit.App.Flags
import Gecit.Rawsock.Ethernet
import Gecit.Rawsock.Neighbor
import Gecit.Tun.Interfaces
import Gecit.Tun.Teardown
import Gecit.Macos.RuntimeStore
import Gecit.Rawsock.InternetChecksum
import Gecit.Macos.HelperScript
import Gecit.Macos.Survival
import Gecit.Macos.HelperLife
import Gecit.Foundation.Expiring
import Gecit.Rawsock.Injector
import Gecit.Rawsock.RawOutput
import Gecit.Tun.Decoy
import Gecit.Foundation.Json
import Gecit.Macos.StatusFile
import Gecit.Macos.Install
import Gecit.App.CommandLine
import Gecit.Macos.StartedEngine
import Gecit.App.EngineLinux
import Gecit.Dns.SelfLookup
import Gecit.App.SessionsDarwin
import Gecit.Ebpf.Decoy
import Gecit.App.SessionsWindows
