import KestrelRunpod.Pod.Custody
import KestrelRunpod.Pod.Stop
import KestrelRunpod.Pod.Deadline
import KestrelRunpod.Pod.Observations.Order
import KestrelRunpod.Pod.Reacquisition
import KestrelRunpod.Pod.Success
import KestrelRunpod.Pod.Readiness
import KestrelRunpod.Pod.Ledger
import KestrelRunpod.Pod.Mutations
import KestrelRunpod.Pod.Family
import KestrelRunpod.Pod.Passes
import KestrelRunpod.Ollama.Custody
import KestrelRunpod.Ollama.Deadlines
import KestrelRunpod.Serverless.Lifecycle
import KestrelRunpod.Pod.Partition
import KestrelRunpod.Serverless.Batches
import KestrelRunpod.Serverless.Conservation
import KestrelRunpod.Serverless.Allocation
import KestrelRunpod.Serverless.Placement
import KestrelRunpod.Ollama.Exposure
import KestrelRunpod.ControlPlane.Inventory
import KestrelRunpod.Worker.PinnedTls
import KestrelRunpod.Cpu.Realized
import KestrelRunpod.Costs
import KestrelRunpod.Supervisor.Readiness
import KestrelRunpod.Supervisor.Forwarding
import KestrelRunpod.Supervisor.Startup
import KestrelRunpod.Invocations.Encoding
import KestrelRunpod.ControlPlane.Redaction
import KestrelRunpod.ControlPlane.LogStreams
import KestrelRunpod.ControlPlane.Outcomes
import KestrelRunpod.Billing
import KestrelRunpod.Sessions.Metering
import KestrelRunpod.Codec.Canonical
import KestrelRunpod.Invocations.Receipts
import KestrelRunpod.Invocations.Signing
import KestrelRunpod.Invocations.Responses
