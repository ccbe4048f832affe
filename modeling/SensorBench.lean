import SensorBench.Config.Format
import SensorBench.Event.Interval
import SensorBench.Main
import SensorBench.Script.Bench
import SensorBench.Cli.Folder
import SensorBench.Proofs.Hal.Run
import SensorBench.Proofs.Hal.Sampler
import SensorBench.Proofs.Hal.Step
import SensorBench.Proofs.Hal.Sound
import SensorBench.Proofs.Hal.Conservation
import SensorBench.Proofs.Hal.Spacing
import SensorBench.Proofs.Hal.FlushMarkers
import SensorBench.Proofs.Direct.Audit
import SensorBench.Proofs.Direct.Codec
import SensorBench.Proofs.Direct.Reading
import SensorBench.Proofs.Direct.Ring
import SensorBench.Proofs.Hal.Channels
import SensorBench.Proofs.Hal.DirectChannel
import SensorBench.Proofs.Hal.ChannelBounds
import SensorBench.Proofs.Hal.Deadline
import SensorBench.Proofs.Hal.Reactivation
import SensorBench.Proofs.Suite.Acts
import SensorBench.Proofs.Suite.Holdings
import SensorBench.Proofs.Hal.Holding
import SensorBench.Proofs.Suite.Service
import SensorBench.Proofs.Bench.Serving
import SensorBench.Proofs.Trial.Idle
import SensorBench.Proofs.Hal.Quiet
import SensorBench.Proofs.Hal.Wakeups
import SensorBench.Proofs.Hal.View
import SensorBench.Proofs.Hal.Isolation
import SensorBench.Proofs.Hal.Faults
import SensorBench.Proofs.Bench.Rig
import SensorBench.Proofs.Trial.FlushCount
import SensorBench.Proofs.Trial.FlushVerdict
import SensorBench.Proofs.Delivery.Collecting
import SensorBench.Proofs.Delivery.Attendance
import SensorBench.Proofs.Hal.Resting
import SensorBench.Proofs.Bench.Timed
import SensorBench.Proofs.Trial.Admitted
import SensorBench.Proofs.Hal.Streaming
import SensorBench.Proofs.Hal.Buffering
import SensorBench.Proofs.Trial.Freshness
import SensorBench.Proofs.Trial.Batching
import SensorBench.Proofs.Delivery.Threads
import SensorBench.Proofs.Delivery.History
import SensorBench.Proofs.Delivery.Standing
import SensorBench.Proofs.Delivery.Contract
import SensorBench.Proofs.Hal.InPlace
import SensorBench.Proofs.Hal.Rejection
import SensorBench.Proofs.Delivery.Glimpse
import SensorBench.Proofs.Suite.Course
import SensorBench.Proofs.Text.Numeral
import SensorBench.Proofs.Config.RoundTrip
import SensorBench.Proofs.Direct.Slots
import SensorBench.Proofs.Hal.Numbers
import SensorBench.Proofs.Hal.RingMemory
import SensorBench.Proofs.Hal.Tokens
import SensorBench.Proofs.Hal.Backlog
import SensorBench.Proofs.Hal.Provenance
import SensorBench.Proofs.Hal.Injecting
import SensorBench.Proofs.Text.Glob
import SensorBench.Proofs.Direct.Memory
import SensorBench.Proofs.Hal.Retuning
import SensorBench.Proofs.Hal.Words
import SensorBench.Proofs.Hal.Succession
import SensorBench.Proofs.Sensor.Validity
import SensorBench.Proofs.Config.Validity
import SensorBench.Proofs.Config.Capacity
import SensorBench.Proofs.Sensor.Catalog
import SensorBench.Proofs.Stats.Running
import SensorBench.Proofs.Trial.Rate
