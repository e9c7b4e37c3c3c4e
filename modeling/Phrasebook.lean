import Phrasebook.Disk.State
import Phrasebook.Main
import Phrasebook.Proofs.Command.Extract
import Phrasebook.Proofs.Command.Translate
import Phrasebook.Proofs.Component.Balance
import Phrasebook.Proofs.Disk.Refusal
import Phrasebook.Proofs.Extraction.Covered
import Phrasebook.Proofs.Extraction.File
import Phrasebook.Proofs.Extraction.Kind
import Phrasebook.Proofs.Extraction.Reached
import Phrasebook.Proofs.Extraction.Written
import Phrasebook.Proofs.Key.Assignment
import Phrasebook.Proofs.Key.Known
import Phrasebook.Proofs.Key.Repetition
import Phrasebook.Proofs.Key.TwoLevel
import Phrasebook.Proofs.Locale.Escape
import Phrasebook.Proofs.Locale.ModuleName
import Phrasebook.Proofs.Locale.Regeneration
import Phrasebook.Proofs.Locale.TemplateText
import Phrasebook.Proofs.Locale.Translation
import Phrasebook.Proofs.Markup.Blanked
import Phrasebook.Proofs.Occurrence.Number
import Phrasebook.Proofs.Project.Relative
import Phrasebook.Proofs.Resource.Growth
import Phrasebook.Proofs.Resource.ModuleFile
import Phrasebook.Proofs.Rewriting.Backup
import Phrasebook.Proofs.Rewriting.Bound
import Phrasebook.Proofs.Rewriting.Call
import Phrasebook.Proofs.Rewriting.Component
import Phrasebook.Proofs.Rewriting.Edit
import Phrasebook.Proofs.Rewriting.File
import Phrasebook.Proofs.Rewriting.InPlace
import Phrasebook.Proofs.Rewriting.Recorded
import Phrasebook.Proofs.Rewriting.Specifier
import Phrasebook.Proofs.Snapshot.Json
import Phrasebook.Proofs.Snapshot.Label
import Phrasebook.Proofs.Snapshot.Latest
import Phrasebook.Proofs.Snapshot.Partition
import Phrasebook.Proofs.Text.Hash
import Phrasebook.Proofs.Text.Table
import Phrasebook.Proofs.Validation.Order
import Phrasebook.Proofs.Validation.Replacement
import Phrasebook.Proofs.Validation.Skipped
