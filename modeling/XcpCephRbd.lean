import XcpCephRbd.Lib.Run
import XcpCephRbd.Krbd.MapSpec
import XcpCephRbd.Lib.Url
import XcpCephRbd.Lib.Prog
import XcpCephRbd.Lib.Safe
import XcpCephRbd.Lib.Sim
import XcpCephRbd.Lib.Base64
import XcpCephRbd.Lib.Delta
import XcpCephRbd.Lib.Wire
import XcpCephRbd.Blkmirror.Inversion
import XcpCephRbd.Blkmirror.PreCopy
import XcpCephRbd.Blkmirror.Baseline
import XcpCephRbd.Blkmirror.StatusFile
import XcpCephRbd.Blkmirror.Stat
import XcpCephRbd.Blkmirror.Restart
import XcpCephRbd.Blkmirror.Debris
import XcpCephRbd.Blkmirror.Transfer
import XcpCephRbd.Volume.Meta
import XcpCephRbd.Volume.Cluster
import XcpCephRbd.Volume.Cbtlog
import XcpCephRbd.Volume.Ops
import XcpCephRbd.Volume.Walk
import XcpCephRbd.Volume.Size
import XcpCephRbd.Volume.Updates
import XcpCephRbd.Volume.Listing
import XcpCephRbd.Volume.MetaWrite
import XcpCephRbd.Volume.Replace
import XcpCephRbd.Volume.Apart
import XcpCephRbd.Volume.Changed
import XcpCephRbd.Volume.Guest
import XcpCephRbd.Volume.Track
import XcpCephRbd.Volume.Rules
import XcpCephRbd.Volume.Rotation
import XcpCephRbd.Volume.Concurrent
import XcpCephRbd.Volume.Lifecycle
import XcpCephRbd.Volume.Answers
import XcpCephRbd.Volume.Faults
import XcpCephRbd.Volume.Complete
import XcpCephRbd.Volume.RbdDiff
import XcpCephRbd.Rbdsr.Tracking
import XcpCephRbd.Datapath.Resolve
import XcpCephRbd.Datapath.Detach
import XcpCephRbd.Datapath.Qemu
import XcpCephRbd.Datapath.Drain
import XcpCephRbd.Datapath.Serve
import XcpCephRbd.Datapath.Refs
import XcpCephRbd.Datapath.Shared
import XcpCephRbd.Datapath.TapFind
import XcpCephRbd.Cephx.Templates
import XcpCephRbd.Cephx.Krb5
import XcpCephRbd.Gc.Graph
import XcpCephRbd.Gc.Worker
import XcpCephRbd.Gc.Ops
import XcpCephRbd.Gc.Collect
import XcpCephRbd.Gc.Spares
import XcpCephRbd.Gc.Complete
import XcpCephRbd.Gc.Shapes
import XcpCephRbd.Gc.System
import XcpCephRbd.Gc.Destroyed
import XcpCephRbd.Gc.Retain
import XcpCephRbd.Gc.Retention
import XcpCephRbd.Gc.Life
import XcpCephRbd.Gc.Spool
import XcpCephRbd.Gc.Backstop
import XcpCephRbd.Gc.Orphans
import XcpCephRbd.Gc.Companions
import XcpCephRbd.Gc.InStep
import XcpCephRbd.Gc.Tracked
import XcpCephRbd.Gc.Sizes
import XcpCephRbd.Gc.Undo
import XcpCephRbd.Rbdsr.Life
import XcpCephRbd.Rbdsr.InStep
import XcpCephRbd.Rbdsr.Allocation
import XcpCephRbd.Msgr2.Frame
import XcpCephRbd.Msgr2.Receive
import XcpCephRbd.Msgr2.Link
import XcpCephRbd.Msgr2.Skip
import XcpCephRbd.Volume.Interval
import XcpCephRbd.Volume.Routes
import XcpCephRbd.Libceph.Striper
import XcpCephRbd.Rbd.Fill
import XcpCephRbd.Rbd.Object
import XcpCephRbd.Rbd.ObjectOps
import XcpCephRbd.Rbd.ObjectReads
import XcpCephRbd.Rbd.ObjectRuns
import XcpCephRbd.Rbd.ObjectHistory
import XcpCephRbd.Rbd.ObjectMap
