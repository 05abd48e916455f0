import Compaction.Main
import Compaction.Proofs.Command.ConfigFile
import Compaction.Proofs.Pattern.WellFormed
import Compaction.Proofs.Policy.ForwardCounters
import Compaction.Proofs.Policy.LastOutputs
import Compaction.Proofs.Policy.NewestView
import Compaction.Proofs.Policy.Passes
import Compaction.Proofs.Processor.Influence
import Compaction.Proofs.Processor.StageReports
import Compaction.Proofs.Registry.PresetParts
import Compaction.Proofs.Registry.Presets
import Compaction.Proofs.Registry.Registration
import Compaction.Proofs.Text.Shortest
import Compaction.Proofs.Transcript.Accepted
