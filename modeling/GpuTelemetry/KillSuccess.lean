import GpuTelemetry.KillOutcomes
import GpuTelemetry.NvidiaDevices

namespace GpuTelemetry

variable (table : ProcessTable)

end GpuTelemetry
