import WirelessSimu.Data.Run
import WirelessSimu.Data.WordMemory
import WirelessSimu.Hal.Setup
import WirelessSimu.Hal.Access
import WirelessSimu.Hal.Position
import WirelessSimu.Hal.SourceRing
import WirelessSimu.Hal.View
import WirelessSimu.Hal.SourceFifo
import WirelessSimu.Hal.Isolation
import WirelessSimu.Kernel.Buffer
import WirelessSimu.Pipe.Ring
import WirelessSimu.Pipe.Transfer
import WirelessSimu.Pipe.Bounds
import WirelessSimu.Rx.System
import WirelessSimu.Data.CircularTable
import WirelessSimu.Hal.DestinationRing
import WirelessSimu.Rx.Pipe
import WirelessSimu.Rx.Step
import WirelessSimu.Rx.Blank
import WirelessSimu.Rx.Invariant
import WirelessSimu.Rx.Start
import WirelessSimu.Rx.Agreement
import WirelessSimu.Kernel.Ledger
import WirelessSimu.Rx.Ownership
import WirelessSimu.Rx.Interrupt
import WirelessSimu.Rx.Replenish
import WirelessSimu.Mac.Frame
import WirelessSimu.Mac.MgmtTx
import WirelessSimu.Mac.Ownership
import WirelessSimu.Mac.Pending
import WirelessSimu.Hal.Registers
import WirelessSimu.Driver.Life
import WirelessSimu.Driver.Setup
import WirelessSimu.Driver.LiveMemory
import WirelessSimu.Mac.Commands
import WirelessSimu.Mac.Service
import WirelessSimu.Mac.MicRoom
import WirelessSimu.Mac.Interface
import WirelessSimu.Mac.Removal
import WirelessSimu.Data.Bytes
import WirelessSimu.Wmi.MgmtSend
import WirelessSimu.Rx.Teardown
import WirelessSimu.Data.Resources
import WirelessSimu.Driver.Probe
import WirelessSimu.Rx.ShortRing
import WirelessSimu.Rx.Release
import WirelessSimu.Driver.Remove
import WirelessSimu.Driver.CallOrder
import WirelessSimu.Driver.HandlerSafety
import WirelessSimu.Data.BitField
import WirelessSimu.Kernel.Field
import WirelessSimu.Pipe.Descriptor
import WirelessSimu.Wmi.Retry
import WirelessSimu.Pipe.FreeCount
import WirelessSimu.Pipe.Lockstep
import WirelessSimu.Pipe.Operations
import WirelessSimu.Pipe.Separation
import WirelessSimu.Pipe.Arithmetic
import WirelessSimu.Pipe.Layout
import WirelessSimu.Hal.Image
import WirelessSimu.Rx.Hostile
import WirelessSimu.Rx.DrainLoop
import WirelessSimu.Data.SlotTable
import WirelessSimu.Mac.Admission
import WirelessSimu.Host.Interface
import WirelessSimu.Mac.Rollback
import WirelessSimu.Data.Channel
import WirelessSimu.Hal.DestinationFifo
import WirelessSimu.Hal.RingChannel
import WirelessSimu.Mac.Pipeline
import WirelessSimu.Mac.Limits
import WirelessSimu.Mac.Qos
import WirelessSimu.Rx.HostileOwnership
import WirelessSimu.Rx.LateTimer
import WirelessSimu.Rx.Progress
import WirelessSimu.Rx.Tasklet
import WirelessSimu.Rx.Refill
import WirelessSimu.Rx.Settle
import WirelessSimu.Rx.Delivery
import WirelessSimu.Rx.Termination
