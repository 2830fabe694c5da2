import M3Midi.Ledger.GeneratedNoteLedger
import M3Midi.Foundation.OpenClose
import M3Midi.Ledger.Accounting
import M3Midi.Exchange.PreparedConfigExchange
import M3Midi.Exchange.Interleaving
import M3Midi.Exchange.Ownership
import M3Midi.Exchange.SoloRun
import M3Midi.Exchange.NewestUpdate
import M3Midi.Foundation.LastWrite
import M3Midi.Parameter.Contract
import M3Midi.Parameter.Fields
import M3Midi.Parameter.Boundary
import M3Midi.Parameter.Batch
import M3Midi.Calibration.Bank
import M3Midi.Calibration.BankTransport
import M3Midi.Calibration.StateImage
import M3Midi.Component.AcceptedRuns
import M3Midi.Component.RequestedConfig
import M3Midi.Calibration.Handover
import M3Midi.Component.Calibration
import M3Midi.Component.MainThread
import M3Midi.Component.RestoredBank
import M3Midi.Component.Reconfiguration
import M3Midi.Calibration.ImageCodec
import M3Midi.Parameter.ImageCodec
import M3Midi.Component.StructuralSwap
import M3Midi.Exchange.PublishProgress
import M3Midi.Component.OneRegister
import M3Midi.Calibration.HandoffLatest
import M3Midi.Calibration.SweepWindows
import M3Midi.Jsfx.LifecycleRuns
import M3Midi.Jsfx.MidiRuns
import M3Midi.Jsfx.ReleaseRuns
import M3Midi.Detector.LaneProjection
import M3Midi.Detector.StringFretPosterior
import M3Midi.Detector.UnisonFit
import M3Midi.Detector.FeasibleAdditions
import M3Midi.Detector.AssignedStrings
import M3Midi.Detector.UnisonLanes
import M3Midi.Telemetry.TransportReads
import M3Midi.Component.StreamedState
import M3Midi.Component.BlockPartition
import M3Midi.Jsfx.VoicingFilter
import M3Midi.Ledger.BlockQueue
import M3Midi.Ledger.VoiceIdentity
import M3Midi.Component.PanicPoints
import M3Midi.Component.DryCopy
import M3Midi.Clap.PipelinePanic
import M3Midi.Clap.StateLoadRuns
import M3Midi.Foundation.Rounding
import M3Midi.Calibration.NoteProjection
import M3Midi.Detector.GreedySelection
import M3Midi.Detector.EmittedKeys
import M3Midi.Detector.DetectorSession
import M3Midi.Detector.LedgerAgreement
import M3Midi.Detector.VoiceTiming
import M3Midi.Detector.SilentInput
import M3Midi.Component.StreamedVoices
