import SmartScale.Main
import SmartScale.Clock.Shared
import SmartScale.Detector.Diagnostics
import SmartScale.Sampling.Drain
import SmartScale.Store.Faulty
import SmartScale.Store.Memory
import SmartScale.Proofs.Detector.Lemmas
import SmartScale.Proofs.Detector.Trace
import SmartScale.Proofs.Run.Direct
import SmartScale.Proofs.Run.Lossless
import SmartScale.Proofs.Detector.Persistence
import SmartScale.Proofs.Disk.Frame
import SmartScale.Proofs.Store.File
import SmartScale.Proofs.Cli.Batch
import SmartScale.Proofs.Cli.Commands
import SmartScale.Proofs.Cli.Workplace
import SmartScale.Proofs.Detector.Operations
import SmartScale.Proofs.Detector.Invariant
import SmartScale.Proofs.Detector.Rate
import SmartScale.Proofs.Disk.Draft
import SmartScale.Proofs.Disk.Interruption
import SmartScale.Proofs.Store.Publishing
import SmartScale.Proofs.Store.AllOrNothing
import SmartScale.Proofs.Detector.Validity
import SmartScale.Proofs.Run.Account
import SmartScale.Proofs.Run.Ending
import SmartScale.Proofs.Store.Bounded
import SmartScale.Proofs.Config.Agreement
import SmartScale.Proofs.Detector.Neighbours
import SmartScale.Proofs.Sampling.Periods
import SmartScale.Proofs.Sampling.Shutdown
import SmartScale.Proofs.Store.Shown
import SmartScale.Proofs.Detector.Reloading
import SmartScale.Proofs.Run.Prompt
import SmartScale.Proofs.Run.Transcript
import SmartScale.Proofs.Cli.Classify
import SmartScale.Proofs.Detector.OffsetConfined
import SmartScale.Proofs.Detector.SpecialValues
import SmartScale.Proofs.Detector.Synchrony
import SmartScale.Proofs.Sampling.SimulatedTime
import SmartScale.Proofs.ObjectRows
import SmartScale.Proofs.Store.WriteLog
import SmartScale.Proofs.Cli.Readings
import SmartScale.Proofs.Csv.Records
import SmartScale.Proofs.Number.Spelling
import SmartScale.Proofs.ObjectsTable
import SmartScale.Proofs.Sensor.Replay
import SmartScale.Proofs.Cli.Explain
import SmartScale.Proofs.Clock.Shared
