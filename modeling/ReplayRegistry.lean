import ReplayRegistry.Main
import ReplayRegistry.Proofs.CloseAnswers
import ReplayRegistry.Proofs.ClosedStores
import ReplayRegistry.Proofs.CompactedReplay
import ReplayRegistry.Proofs.Compaction
import ReplayRegistry.Proofs.EntryNames
import ReplayRegistry.Proofs.FleetTraffic
import ReplayRegistry.Proofs.FunctionRules
import ReplayRegistry.Proofs.GeneratedWebhooks
import ReplayRegistry.Proofs.LastWrites
import ReplayRegistry.Proofs.LateReads
import ReplayRegistry.Proofs.LogIsolation
import ReplayRegistry.Proofs.RacingWrites
import ReplayRegistry.Proofs.ReadYourWrites
import ReplayRegistry.Proofs.ReaderCounts
import ReplayRegistry.Proofs.RecordOrder
import ReplayRegistry.Proofs.RestartDelays
import ReplayRegistry.Proofs.SettingLayers
import ReplayRegistry.Proofs.SingleWriter
import ReplayRegistry.Proofs.Supervision
import ReplayRegistry.Proofs.TextSettings
import ReplayRegistry.Proofs.TolerantDecoding
import ReplayRegistry.Proofs.WebhookRules
import ReplayRegistry.Proofs.WholeWrites
import ReplayRegistry.Proofs.WrittenRecords
