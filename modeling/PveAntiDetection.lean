import PveAntiDetection.Smbios.Types
import PveAntiDetection.Lib.Bytes
import PveAntiDetection.Lib.Records
import PveAntiDetection.Smbios.Build
import PveAntiDetection.Smbios.Monad
import PveAntiDetection.Smbios.Tables
import PveAntiDetection.Smbios.GetTables
import PveAntiDetection.Lib.Script
import PveAntiDetection.Smbios.Step
import PveAntiDetection.Smbios.Plan
import PveAntiDetection.Smbios.Refinement
import PveAntiDetection.Smbios.Conditions
import PveAntiDetection.Smbios.Ends
import PveAntiDetection.Smbios.Errors
import PveAntiDetection.Smbios.Auto
import PveAntiDetection.Smbios.Members
import PveAntiDetection.Lib.Intervals
import PveAntiDetection.Smbios.Memory
import PveAntiDetection.Smbios.Handles
import PveAntiDetection.Lib.Runs
import PveAntiDetection.Kvm.Vcpu
import PveAntiDetection.Kvm.Msr
import PveAntiDetection.Kvm.Vendors
import PveAntiDetection.Kvm.MsrExits
import PveAntiDetection.Kvm.MsrPaths
import PveAntiDetection.Kvm.MsrPrivacy
import PveAntiDetection.Kvm.MsrMigration
import PveAntiDetection.Kvm.FakeTsc
import PveAntiDetection.Kvm.ExecControls
import PveAntiDetection.Kvm.ExitHandlers
import PveAntiDetection.Smbios.QemuOption
import PveAntiDetection.Smbios.EntryAdd
import PveAntiDetection.Smbios.UserBlobs
import PveAntiDetection.Smbios.BlobAccount
import PveAntiDetection.Smbios.EntryPoint
import PveAntiDetection.Smbios.Merge
import PveAntiDetection.Smbios.Type4Count
import PveAntiDetection.Smbios.References
import PveAntiDetection.Smbios.Coverage
import PveAntiDetection.Smbios.Parse
import PveAntiDetection.Smbios.FreshMemory
import PveAntiDetection.Smbios.ReadBack
import PveAntiDetection.Lib.Quotients
import PveAntiDetection.Kvm.FakeTscRate
import PveAntiDetection.Kvm.FakeTscPrivacy
import PveAntiDetection.Kvm.Exceptions
import PveAntiDetection.Kvm.SingleStep
import PveAntiDetection.Kvm.SvmIntercepts
import PveAntiDetection.Lib.Generations
import PveAntiDetection.Kvm.Tsc
import PveAntiDetection.Kvm.TscMatching
import PveAntiDetection.Kvm.ControlRegs
import PveAntiDetection.Kvm.TimeScale
import PveAntiDetection.Lib.Loops
import PveAntiDetection.Kvm.OneClock
import PveAntiDetection.Kvm.Asid
import PveAntiDetection.Kvm.EventOps
import PveAntiDetection.Kvm.EventPhases
import PveAntiDetection.Kvm.EventsKept
import PveAntiDetection.Kvm.EventsMigration
import PveAntiDetection.Kvm.Mmio
import PveAntiDetection.Kvm.MmioExits
import PveAntiDetection.Kvm.MmioAccess
import PveAntiDetection.Kvm.SvmMsrpm
import PveAntiDetection.Kvm.WrmsrFastpath
import PveAntiDetection.Kvm.TscSuspend
import PveAntiDetection.Lib.Rates
import PveAntiDetection.Kvm.Kvmclock
import PveAntiDetection.Kvm.TimeAreas
import PveAntiDetection.Kvm.Segments
import PveAntiDetection.Kvm.RealMode
import PveAntiDetection.Kvm.RealModeRuns
import PveAntiDetection.Smbios.Caches
import PveAntiDetection.Smbios.CoreCounts
import PveAntiDetection.Smbios.DimmSizes
import PveAntiDetection.Smbios.MappedRanges
import PveAntiDetection.Smbios.OemFiles
import PveAntiDetection.Smbios.DeviceEntries
import PveAntiDetection.Smbios.OptionNames
import PveAntiDetection.Kvm.AsyncPf
import PveAntiDetection.Kvm.AtomicSwitch
import PveAntiDetection.Kvm.HvTimer
import PveAntiDetection.Kvm.MarkedEvents
import PveAntiDetection.Kvm.MemslotMetadata
import PveAntiDetection.Kvm.MsrFilterIoctl
import PveAntiDetection.Kvm.SvmCancel
import PveAntiDetection.Kvm.TscAdjust
import PveAntiDetection.Kvm.VmxMsrBitmap
import PveAntiDetection.Kvm.SevEsPio
import PveAntiDetection.Kvm.UserReturn
import PveAntiDetection.Kvm.SvmMsrWrites
import PveAntiDetection.Kvm.PredictionBarrier
import PveAntiDetection.Kvm.Apicv
import PveAntiDetection.Kvm.PostedInterrupts
import PveAntiDetection.Kvm.PmlBuffer
import PveAntiDetection.Kvm.DebugRegs
import PveAntiDetection.Kvm.HostSwitch
import PveAntiDetection.Kvm.NmiMask
import PveAntiDetection.Kvm.SvmSegments
import PveAntiDetection.Kvm.VmcbClean
import PveAntiDetection.Lib.KeptRecord
import PveAntiDetection.Kvm.MachineChecks
