import Soundalike.Main
import Soundalike.Proofs.Agreement
import Soundalike.Proofs.CheckedFiles
import Soundalike.Proofs.ClosedComments
import Soundalike.Proofs.ClosedForm
import Soundalike.Proofs.DisplayedRules
import Soundalike.Proofs.EarlyStop
import Soundalike.Proofs.FileTree
import Soundalike.Proofs.FoldedLetters
import Soundalike.Proofs.ForcedReplacements
import Soundalike.Proofs.ForeignCalls
import Soundalike.Proofs.JoinedCodes
import Soundalike.Proofs.Listings
import Soundalike.Proofs.LogRecords
import Soundalike.Proofs.Merging
import Soundalike.Proofs.Moments
import Soundalike.Proofs.PrintedRows
import Soundalike.Proofs.RuleGroups
import Soundalike.Proofs.SourceLayout
import Soundalike.Proofs.WholePatterns
import Soundalike.Proofs.WorkingSet
import Soundalike.Proofs.WrittenEntries
