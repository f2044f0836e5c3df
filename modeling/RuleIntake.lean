import RuleIntake.Json.TextDecoder
import RuleIntake.MessagePack.Encoder
import RuleIntake.Pattern.Compiler
import RuleIntake.Proofs.BootstrapRequests
import RuleIntake.Proofs.CacheAgreement
import RuleIntake.Proofs.CompletedVerdicts
import RuleIntake.Proofs.DeliveryOrder
import RuleIntake.Proofs.DocumentText
import RuleIntake.Proofs.FirstFault
import RuleIntake.Proofs.RepeatedValidation
import RuleIntake.Proofs.RuleOrder
import RuleIntake.Proofs.SnapshotLayouts
import RuleIntake.Proofs.SnapshotRepacking
import RuleIntake.Proofs.SnapshotStoreRuns
import RuleIntake.Proofs.SnapshotVerdicts
import RuleIntake.Proofs.ValidationTrace
import RuleIntake.Proofs.WiderLimits
import RuleIntake.Rule.Document
import RuleIntake.Rule.SnapshotStore
import RuleIntake.Unicode.Query
