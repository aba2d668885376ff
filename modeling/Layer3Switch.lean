import Layer3Switch.Lib.RbBalance
import Layer3Switch.Lib.RbRoot
import Layer3Switch.Timers.Ctime
import Layer3Switch.Timers.Manager
import Layer3Switch.Lib.Run
import Layer3Switch.Timers.Tick
import Layer3Switch.Timers.Effects
import Layer3Switch.Timers.WellFormed
import Layer3Switch.Timers.Linked
import Layer3Switch.Timers.Cancel
import Layer3Switch.Timers.Expiry
import Layer3Switch.Timers.Deadline
import Layer3Switch.Lib.Bytes
import Layer3Switch.Stp.Types
import Layer3Switch.Stp.Election
import Layer3Switch.Lib.ParentForest
import Layer3Switch.Stp.SpanningTree
import Layer3Switch.Lib.Ends
import Layer3Switch.Stp.Main
import Layer3Switch.Stp.If
import Layer3Switch.Stp.Changes
import Layer3Switch.Stp.Events
import Layer3Switch.Stp.Distance
import Layer3Switch.Lib.Reader
import Layer3Switch.Stp.Wire
import Layer3Switch.Stp.RoundTrip
import Layer3Switch.Stp.Signalling
import Layer3Switch.Rstp.Ranking
import Layer3Switch.Lib.Safe
import Layer3Switch.Stp.Times
import Layer3Switch.Stp.Tree
import Layer3Switch.Stp.Quiet
import Layer3Switch.Stp.Selection
import Layer3Switch.Stp.Actions
import Layer3Switch.Stp.Simulation
import Layer3Switch.Stp.RootPort
import Layer3Switch.Stp.RootApart
import Layer3Switch.Stp.Delays
import Layer3Switch.Stp.Roles
import Layer3Switch.Lib.Keyed
import Layer3Switch.Lib.Outcome
import Layer3Switch.Rstp.Instance
import Layer3Switch.Vlan.Entry
import Layer3Switch.Vlan.Switch
import Layer3Switch.Vlan.Effects
import Layer3Switch.Stp.Membership
import Layer3Switch.Vlan.Slots
import Layer3Switch.Vlan.OneProtocol
import Layer3Switch.Vlan.Mirror
import Layer3Switch.Vlan.Manager
import Layer3Switch.Vlan.Reactions
import Layer3Switch.Vlan.Isolation
import Layer3Switch.Vlan.LinkEvents
import Layer3Switch.Mem.Pool
import Layer3Switch.Mem.MsgQueue
import Layer3Switch.Bridge.Fdb
import Layer3Switch.Bridge.Frames
import Layer3Switch.Mem.PoolSteps
import Layer3Switch.Bridge.Tasks
import Layer3Switch.Timers.Threads
import Layer3Switch.Virtual.Links
import Layer3Switch.Virtual.Platform
import Layer3Switch.Rstp.Cli
import Layer3Switch.Stp.RootTimes
import Layer3Switch.Vlan.Receive
import Layer3Switch.Stp.StpInfo
import Layer3Switch.Vlan.Learning
import Layer3Switch.Bridge.Entries
import Layer3Switch.Lib.Signed
import Layer3Switch.Stp.Minimum
import Layer3Switch.Stp.Costs
import Layer3Switch.Stp.Priority
import Layer3Switch.Stp.Lifetime
import Layer3Switch.Stp.OwnBpdu
import Layer3Switch.Stp.Deeds
import Layer3Switch.Lib.Trace
import Layer3Switch.Stp.Traces
import Layer3Switch.Stp.Timed
import Layer3Switch.Stp.Hold
import Layer3Switch.Stp.Relay
import Layer3Switch.Mem.Blocks
import Layer3Switch.Mem.Registry
import Layer3Switch.Vlan.PortLists
import Layer3Switch.Vlan.Creation
import Layer3Switch.Lib.Chain
import Layer3Switch.Mem.Links
import Layer3Switch.Bridge.Ageing
import Layer3Switch.Timers.Count
import Layer3Switch.Timers.Repeat
import Layer3Switch.Lib.CString
import Layer3Switch.Mem.Bounds
import Layer3Switch.Timers.Clock
import Layer3Switch.Timers.Drain
import Layer3Switch.Users.Accounts
import Layer3Switch.Lib.Checksum
import Layer3Switch.Vrrp.Packet
import Layer3Switch.Vrrp.Advertisement
import Layer3Switch.Virtual.Commands
import Layer3Switch.Timers.InUse
import Layer3Switch.Stp.Removal
import Layer3Switch.Vlan.LiveTimers
import Layer3Switch.Bstp.Runs
import Layer3Switch.Bstp.Bpdu
import Layer3Switch.Bstp.Outline
