import CriDockerd.Theorems.Hostport.Traversal
import CriDockerd.Core.Checkpoint
import CriDockerd.Theorems.Sandbox.RoundTrip
import CriDockerd.Theorems.Hostport.CheckpointedPorts
import CriDockerd.Core.Docker
import CriDockerd.Core.Naming
import CriDockerd.Core.Sandbox
import CriDockerd.Theorems.Sandbox.Steps
import CriDockerd.Theorems.Sandbox.NetworkReady
import CriDockerd.Theorems.Sandbox.Checkpoints
import CriDockerd.Kubenet.Plugin
import CriDockerd.Theorems.Kubenet.Teardown
import CriDockerd.Network.PluginManager
import CriDockerd.Theorems.Network.PodLocks
import CriDockerd.Streaming.RequestCache
import CriDockerd.Theorems.Streaming.Cache
import CriDockerd.Streaming.Server
import CriDockerd.Theorems.Streaming.Sessions
import CriDockerd.Theorems.Sandbox.NilPointers
import CriDockerd.Lib.Paths
import CriDockerd.Store.FileStore
import CriDockerd.Theorems.Store.FileStore
import CriDockerd.Theorems.Sandbox.Removal
import CriDockerd.Core.Status
import CriDockerd.Theorems.Sandbox.StopOnce
import CriDockerd.Core.Containers
import CriDockerd.Theorems.Sandbox.Listing
import CriDockerd.Core.Threads
import CriDockerd.Theorems.Sandbox.Threads
import CriDockerd.Theorems.Sandbox.Concurrent
import CriDockerd.Core.Messages
import CriDockerd.Lib.Groups
import CriDockerd.Libdocker.Helpers
import CriDockerd.Core.DockerConfig
import CriDockerd.Core.Requests
import CriDockerd.Theorems.Requests.PortBindings
import CriDockerd.Theorems.Requests.Mounts
import CriDockerd.Theorems.Requests.NilMessages
import CriDockerd.Theorems.Hostport.Conntrack
import CriDockerd.Core.Stats
import CriDockerd.Theorems.Requests.StatsCache
import CriDockerd.Kubenet.PodCIDR
import CriDockerd.Kubenet.NetworkStatus
import CriDockerd.Theorems.Kubenet.PodCIDRs
import CriDockerd.Theorems.Kubenet.PrimaryIP
import CriDockerd.Bandwidth.Shaper
import CriDockerd.Theorems.Bandwidth.Output
import CriDockerd.Theorems.Bandwidth.Changes
import CriDockerd.Theorems.Bandwidth.Leaks
import CriDockerd.Theorems.Bandwidth.Limits
import CriDockerd.Theorems.Requests.Names
import CriDockerd.Theorems.Requests.Labels
import CriDockerd.Core.Exec
import CriDockerd.Theorems.Requests.ExitCodes
import CriDockerd.Theorems.Requests.Deadlines
import CriDockerd.Theorems.Requests.Seccomp
import CriDockerd.Network.CniConfig
import CriDockerd.Theorems.Network.DefaultNetwork
import CriDockerd.Bandwidth.Listing
import CriDockerd.Theorems.Bandwidth.Handles
import CriDockerd.Bandwidth.Setup
import CriDockerd.Theorems.Bandwidth.DefaultClass
import CriDockerd.Lib.AddressText
import CriDockerd.Bandwidth.Cidrs
import CriDockerd.Theorems.Bandwidth.Cidrs
import CriDockerd.Lib.Reference
import CriDockerd.Libdocker.Images
import CriDockerd.Theorems.Requests.ImageRefs
import CriDockerd.Theorems.Bandwidth.Reconcile
import CriDockerd.ContainerManager.Pids
import CriDockerd.Theorems.ContainerManager.Pids
import CriDockerd.Theorems.Hostport.ChainNames
import CriDockerd.Core.ImageFs
import CriDockerd.Lib.Overlap
import CriDockerd.Theorems.Requests.ImageFs
import CriDockerd.Theorems.Utils.Errors
import CriDockerd.Core.Limiter
import CriDockerd.Theorems.Requests.Limiter
import CriDockerd.Theorems.Utils.Cache
import CriDockerd.Core.Logs
import CriDockerd.Kubenet.Dedup
import CriDockerd.Libdocker.Pull
import CriDockerd.Streaming.PortForward
import CriDockerd.Streaming.RemoteCommand
import CriDockerd.Theorems.Kubenet.Dedup
import CriDockerd.Theorems.Requests.Logs
import CriDockerd.Theorems.Requests.Namespaces
import CriDockerd.Theorems.Requests.Pull
import CriDockerd.Theorems.Streaming.PortForward
import CriDockerd.Theorems.Streaming.PortForwardPairs
import CriDockerd.Theorems.Streaming.RemoteCommand
import CriDockerd.Core.ExecSession
import CriDockerd.Core.Images
import CriDockerd.Core.LogLinks
import CriDockerd.Lib.Base64
import CriDockerd.Streaming.WebSocket
import CriDockerd.Theorems.Requests.ExecSession
import CriDockerd.Theorems.Requests.ImageLifecycle
import CriDockerd.Theorems.Requests.LogLinks
import CriDockerd.Theorems.Streaming.WebSocket
import CriDockerd.Network.CniPods
import CriDockerd.Theorems.Network.CniPods
import CriDockerd.Theorems.Network.CniSandbox
