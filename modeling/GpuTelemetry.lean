import GpuTelemetry.Gres
import GpuTelemetry.GresIndices
import GpuTelemetry.JobNames
import GpuTelemetry.LocalJobs
import GpuTelemetry.ProcessorPaths
import GpuTelemetry.SacctBackfill
import GpuTelemetry.SacctLines
import GpuTelemetry.CollectionLoop
import GpuTelemetry.SlurmMonitor
import GpuTelemetry.DeviceWindow
import GpuTelemetry.PublishAttempts
import GpuTelemetry.SacctRescan
import GpuTelemetry.ChunkBySize
import GpuTelemetry.SacctBatches
import GpuTelemetry.GpuDataOrder
import GpuTelemetry.FleetHealth
import GpuTelemetry.RunningProcs
import GpuTelemetry.CounterRuns
import GpuTelemetry.DcgmiDiag
import GpuTelemetry.NcclRuns
import GpuTelemetry.PrometheusText
import GpuTelemetry.NodeCapacity
import GpuTelemetry.AvgAllocation
import GpuTelemetry.AccountLogs
import GpuTelemetry.HostLevel
import GpuTelemetry.NvidiaSmi
import GpuTelemetry.DcgmiReport
import GpuTelemetry.DataclassUtils
import GpuTelemetry.HlSmi
import GpuTelemetry.ParseDelimited
import GpuTelemetry.FinishReasons
import GpuTelemetry.HistogramSeries
import GpuTelemetry.DcgmMonitor
import GpuTelemetry.Stragglers
import GpuTelemetry.KillRaces
import GpuTelemetry.CheckBlockdev
import GpuTelemetry.CheckIblink
import GpuTelemetry.CheckEthlink
import GpuTelemetry.CheckPci
import GpuTelemetry.CheckNccl
import GpuTelemetry.FleetHealthScore
import GpuTelemetry.GpuOrdinals
import GpuTelemetry.AtLeastOne
import GpuTelemetry.ParserTermination
import GpuTelemetry.RetrySchedule
import GpuTelemetry.RendezvousEnds
import GpuTelemetry.K8sCache
import GpuTelemetry.NvidiaHealth
import GpuTelemetry.SlurmCache
import GpuTelemetry.FileSink
import GpuTelemetry.Pipelines
import GpuTelemetry.ChunkProcesses
import GpuTelemetry.MonitorGauges
import GpuTelemetry.FleetHealthRuns
